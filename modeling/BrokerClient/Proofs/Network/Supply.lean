import BrokerClient.Dictionary.Order
import BrokerClient.Proofs.Network.Log
import BrokerClient.Proofs.Network.Steps

/-!
# Queues and those who consume them

A queue goes away only when it is deleted, and its consumers go with it.  So whoever is registered
takes from a queue that exists; and where the broker accepts a message the queue exists from then
on, for it is either there for a consumer that the message goes to, or it comes into being.
-/

namespace BrokerClient

/-- The queue that is deleted by a call with such an answer. -/
def Call.deleted? : (call : Call) → call.Answer → Option String
  | .delete _ queue _, .ok _ => some queue
  | _, _ => none

/-- The queue that is deleted with an exchange. -/
def Exchange.deleted? : Exchange → Option String
  | ⟨.transport call, answer⟩ => call.deleted? answer
  | _ => none

namespace Broker

/-- Whoever is registered takes from a queue that exists, and each queue is kept once. -/
structure Supplied (broker : Broker) : Prop where
  consumers : ∀ entry ∈ broker.consumers, broker.queueExists entry.2.queue = true
  rising : Dictionary.Rising broker.queues

/-- At most one queue goes away, and consumers are supplied if they were before. -/
structure KeepsQueues (broker after : Broker) (deleted : Option String) : Prop where
  exist :
    ∀ queue,
      deleted ≠ some queue → broker.queueExists queue = true → after.queueExists queue = true
  supplied : broker.Supplied → after.Supplied

variable {broker after : Broker} {deleted : Option String} {queue : String}

/-! ## What is done to queues -/

/-- Queues stay as they are, and nobody registers. -/
theorem KeepsQueues.of_same
    (queues : after.queues = broker.queues)
    (consumers : after.consumers.Sublist broker.consumers) :
    broker.KeepsQueues after deleted := by
  have sameQueues (queue : String) : after.queueExists queue = broker.queueExists queue := by
    rw [queueExists, queues, queueExists]
  refine ⟨fun queue _ found => (sameQueues queue).trans found, fun supplied => ⟨?_, ?_⟩⟩
  · intro entry member
    rw [sameQueues]
    exact supplied.consumers entry (consumers.subset member)
  · rw [queues]
    exact supplied.rising

/-- The backlog of a queue is written, and whoever registers does so for this queue. -/
theorem KeepsQueues.of_insert
    {deliveries : List Delivery}
    (queues : after.queues = broker.queues.insert queue deliveries)
    (consumers :
      ∀ entry ∈ after.consumers, entry ∈ broker.consumers ∨ entry.2.queue = queue) :
    broker.KeepsQueues after deleted := by
  have exists_iff (name : String) :
      after.queueExists name = true ↔ name = queue ∨ broker.queueExists name = true := by
    rw [queueExists, queues, Dictionary.contains_insert_iff, queueExists]
  refine ⟨fun name _ found => (exists_iff name).mpr (.inr found), fun supplied => ⟨?_, ?_⟩⟩
  · intro entry member
    rw [exists_iff]
    rcases consumers entry member with wasThere | takes
    · exact .inr (supplied.consumers entry wasThere)
    · exact .inl takes
  · rw [queues]
    exact Dictionary.rising_insert supplied.rising queue deliveries

/-- A queue is deleted together with its consumers. -/
theorem keepsQueues_delete (queue : String) :
    broker.KeepsQueues (broker.delete queue).2 (some queue) := by
  have exists_iff (name : String) :
      (broker.delete queue).2.queueExists name = true ↔
        name ≠ queue ∧ broker.queueExists name = true :=
    Dictionary.contains_erase_iff
  refine ⟨fun name differs found => ?_, fun supplied => ⟨fun entry member => ?_, ?_⟩⟩
  · refine (exists_iff name).mpr ⟨?_, found⟩
    rintro rfl
    exact differs rfl
  · obtain ⟨wasThere, otherQueue⟩ := List.mem_filter.mp member
    exact (exists_iff _).mpr ⟨by simpa using otherQueue, supplied.consumers entry wasThere⟩
  · exact Dictionary.rising_erase supplied.rising queue

/-- A message is written to the backlog of its queue, or the queue has a consumer. -/
theorem queues_route (queue : String) (delivery : Delivery) :
    (∃ deliveries,
        (broker.route queue delivery).queues = broker.queues.insert queue deliveries) ∨
      (broker.route queue delivery).queues = broker.queues ∧
        ∃ entry ∈ broker.consumers, entry.2.queue = queue := by
  unfold route routeAmong
  split
  · exact .inl ⟨_, rfl⟩
  · next consumer asked =>
      split
      · obtain ⟨entry, member, rfl⟩ :=
          List.mem_map.mp (mem_candidates_iff.mp (List.mem_of_find?_eq_some asked))
        exact .inr ⟨rfl, entry, member, by simpa using List.find?_some asked⟩
      · exact .inl ⟨_, rfl⟩

theorem queues_accept (queue : String) (properties : Properties) (body : List UInt8) :
    (∃ deliveries,
        (broker.accept queue properties body).queues = broker.queues.insert queue deliveries) ∨
      (broker.accept queue properties body).queues = broker.queues ∧
        ∃ entry ∈ broker.consumers, entry.2.queue = queue :=
  @queues_route { broker with accepted := broker.accepted + 1 } queue _

/-- Where the broker accepts a message the queue exists from then on. -/
theorem Supplied.queueExists_accept
    (supplied : broker.Supplied)
    (queue : String)
    (properties : Properties)
    (body : List UInt8) :
    (broker.accept queue properties body).queueExists queue = true := by
  rw [queueExists]
  rcases @queues_accept broker queue properties body with
    ⟨deliveries, written⟩ | ⟨same, entry, member, rfl⟩
  · rw [written]
    exact Dictionary.contains_insert_iff.mpr (.inl rfl)
  · rw [same]
    exact supplied.consumers entry member

theorem Supplied.queueExists_publish (supplied : broker.Supplied) (publication : Publication) :
    (broker.publish publication).queueExists publication.routingKey = true := by
  let told :=
    { broker with
      published := broker.published ++ [(publication.routingKey, publication.properties)] }
  have suppliedThen : told.Supplied := ⟨supplied.consumers, supplied.rising⟩
  exact suppliedThen.queueExists_accept _ _ _

theorem keepsQueues_accept (queue : String) (properties : Properties) (body : List UInt8) :
    broker.KeepsQueues (broker.accept queue properties body) deleted := by
  have sameConsumers := (@accepts_accept broker queue properties body).consumers
  rcases @queues_accept broker queue properties body with ⟨deliveries, written⟩ | ⟨same, -⟩
  · exact .of_insert written fun entry member => .inl (sameConsumers ▸ member)
  · exact .of_same same (sameConsumers ▸ .refl _)

theorem keepsQueues_publish (publication : Publication) :
    broker.KeepsQueues (broker.publish publication) deleted := by
  let told :=
    { broker with
      published := broker.published ++ [(publication.routingKey, publication.properties)] }
  have keeps : told.KeepsQueues (broker.publish publication) deleted := keepsQueues_accept _ _ _
  exact ⟨keeps.exist, fun supplied => keeps.supplied ⟨supplied.consumers, supplied.rising⟩⟩

theorem keepsQueues_declare (queue : String) (flags : DeclareFlags) :
    broker.KeepsQueues (broker.declare queue flags).2 deleted := by
  unfold declare
  dsimp only
  split
  · exact .of_same rfl (.refl _)
  · exact .of_insert rfl fun entry member => .inl member

theorem keepsQueues_consume (channel : Channel) (queue tag : String) :
    broker.KeepsQueues (broker.consume channel queue tag).2 deleted := by
  unfold consume
  split
  · exact .of_same rfl (.refl _)
  · refine .of_insert rfl fun entry member => ?_
    rcases Dictionary.mem_of_mem_insert member with isNew | wasThere
    · exact .inr (by rw [isNew])
    · exact .inl wasThere

/-! ## Calls and disturbances -/

/-- Where a call on a channel is refused no queue goes away. -/
theorem keepsQueues_onChannel
    {α : Type}
    {channel : Channel}
    {perform : Except TransportError α × Broker}
    (deleted? : Except TransportError α → Option String)
    (keeps : broker.KeepsQueues perform.2 (deleted? perform.1)) :
    broker.KeepsQueues (broker.onChannel channel perform).2
      (deleted? (broker.onChannel channel perform).1) := by
  rcases onChannel_cases channel perform with performed | performed
  · rw [performed]
    exact keeps
  · rw [performed]
    exact .of_same rfl (.refl _)

/-- What a call deletes is told by its answer. -/
theorem keepsQueues_perform (call : Call) :
    broker.KeepsQueues (broker.perform call).2 (call.deleted? (broker.perform call).1) := by
  have keepsAll {α : Type} {channel : Channel} {perform : Except TransportError α × Broker}
      (keeps : broker.KeepsQueues perform.2 none) :
      broker.KeepsQueues (broker.onChannel channel perform).2 none :=
    keepsQueues_onChannel (fun _ => none) keeps
  cases call with
  | dial url =>
      change broker.KeepsQueues broker.dial.2 none
      unfold dial
      split
      · exact .of_same rfl (.refl _)
      · exact .of_same rfl (.refl _)
  | openChannel connection =>
      change broker.KeepsQueues (broker.openChannel connection).2 none
      unfold openChannel
      split
      · exact .of_same rfl (.refl _)
      · exact .of_same rfl (.refl _)
  | closeConnection connection => exact .of_same rfl (.refl _)
  | qos channel prefetchCount global => exact keepsAll (.of_same rfl (.refl _))
  | declare channel queue flags arguments => exact keepsAll (keepsQueues_declare queue flags)
  | delete channel queue flags =>
      exact keepsQueues_onChannel ((Call.delete channel queue flags).deleted? ·)
        (keepsQueues_delete queue)
  | publish channel publication => exact keepsAll (keepsQueues_publish publication)
  | consume channel queue tag flags => exact keepsAll (keepsQueues_consume channel queue tag)
  | cancel channel tag nowait => exact keepsAll (.of_same rfl List.filter_sublist)
  | closeChannel channel => exact .of_same rfl (.refl _)

theorem keepsQueues_disturb (disturbance : Disturbance) :
    broker.KeepsQueues (broker.disturb disturbance) none := by
  cases disturbance with
  | pushRaw queue body => exact keepsQueues_accept queue .none body
  | dropConsumers => exact .of_same rfl (List.nil_sublist _)
  | dropConnections => exact .of_same rfl (List.nil_sublist _)
  | refuseDials refuses => exact .of_same rfl (.refl _)
  | settle delivery settlement =>
      unfold disturb settle
      dsimp only
      split
      · cases settlement <;> exact .of_same rfl (.refl _)
      · exact .of_same rfl (.refl _)

end Broker

namespace Network

/-- No answer makes a queue go away but a deletion. -/
theorem keepsQueues_brokerAfter (network : Network) (request : Request) :
    network.broker.KeepsQueues (network.brokerAfter request)
      (Exchange.deleted? ⟨request, network.answer request⟩) := by
  cases request with
  | transport call => exact Broker.keepsQueues_perform call
  | next stream timeout =>
      dsimp only [brokerAfter]
      cases polled : network.broker.poll stream with
      | item delivery after =>
          obtain ⟨rest, -, rfl⟩ := Broker.poll_item polled
          exact .of_same rfl (.refl _)
      | _ => exact .of_same rfl (.refl _)
  | _ => exact .of_same rfl (.refl _)

/-- What every answer and every disturbance keeps of the broker is kept by all small steps. -/
theorem keeps_of_broker
    {allowed : Move → Prop}
    {holds : Broker → Prop}
    (answered :
      ∀ (network : Network) request,
        holds network.broker → holds (network.brokerAfter request))
    (disturbed :
      ∀ broker disturbance,
        allowed (.disturb disturbance) → holds broker → holds (broker.disturb disturbance)) :
    Keeps allowed Anything fun network => holds network.broker where
  joined network connection broker client _ _ before dialed _ _ := by
    have after := answered network (.transport (.dial "")) before
    change holds network.broker.dial.2 at after
    rw [dialed] at after
    exact after
  started _ _ _ _ _ _ before _ _ := before
  exchanged network place operation standing request next _ _ before givesNothingUp := by
    rw [exchange_eq next givesNothingUp]
    exact answered network request before
  dropped network _ _ stream _ _ _ before := answered network (.release stream) before
  finished _ _ _ _ _ _ _ before := before
  leaving _ _ _ _ _ before _ _ := before
  disturbed network disturbance _ _ before isAllowed :=
    disturbed network.broker disturbance isAllowed before

theorem keeps_supplied :
    Keeps (fun _ => True) Anything fun network => network.broker.Supplied :=
  keeps_of_broker (fun network request => (keepsQueues_brokerAfter network request).supplied)
    fun _ disturbance _ => (Broker.keepsQueues_disturb disturbance).supplied

/-- In every run those who are registered take from queues that exist. -/
theorem supplied_run (arbitration : Arbitration) (moves : List Move) :
    ((start arbitration).run moves).broker.Supplied := by
  refine (keeps_supplied.run (by simp [AtRest, start]) ⟨?_, ?_⟩ fun _ _ => trivial).2
  · simp [start, Broker.empty]
  · exact List.Pairwise.nil

end Network

end BrokerClient
