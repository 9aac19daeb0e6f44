import BrokerClient.Proofs.Network.Supply

/-!
# What clients know of queues

A client takes a queue down when the broker has confirmed a declaration, and strikes it out together
with the channel or when it deletes the queue itself.  Nothing but a deletion makes a queue go away.
So what a client has taken down is there, whatever has failed since, unless somebody else has
deleted it.
-/

namespace BrokerClient

/-- The party that deletes a queue, and the queue. -/
def Event.deleter? : Event → Option (Nat × String)
  | .asked place _ exchange => exchange.deleted?.map fun queue => (place, queue)
  | _ => none

/-- Nobody but the party in a place deletes a queue. -/
def Event.OnlyDeletedBy (place : Nat) (queue : String) (log : List Event) : Prop :=
  ∀ event ∈ log, ∀ other, event.deleter? = some (other, queue) → other = place

/-- A client that knows a queue after a call has known it before, or the broker has confirmed it. -/
theorem Client.hasQueue_of_afterCall
    {operation : Operation}
    {client : Client}
    {call : Call}
    {answer : call.Answer}
    {queue : String}
    (known : (client.afterCall operation call answer).hasQueue queue = true) :
    client.hasQueue queue = true ∧ call.deleted? answer ≠ some queue ∨
      ∃ channel flags arguments info,
        (⟨call, answer⟩ : (call : Call) × call.Answer) =
          ⟨.declare channel queue flags arguments, .ok info⟩ := by
  cases call <;> cases answer <;> try exact .inl ⟨known, by simp [Call.deleted?]⟩
  case declare.ok channel name flags arguments info =>
    dsimp only [afterCall] at known
    split at known
    · rcases Dictionary.contains_insert_iff.mp known with rfl | wasKnown
      · exact .inr ⟨channel, flags, arguments, info, rfl⟩
      · exact .inl ⟨wasKnown, by simp [Call.deleted?]⟩
    · exact .inl ⟨known, by simp [Call.deleted?]⟩
  case delete.ok channel name flags purged =>
    obtain ⟨differs, wasKnown⟩ := Dictionary.contains_erase_iff.mp known
    exact .inl ⟨wasKnown, by simpa [Call.deleted?] using Ne.symm differs⟩
  all_goals
    dsimp only [afterCall] at known
    split at known
    · exact .inl ⟨known, by simp [Call.deleted?]⟩
    · exact absurd known Bool.false_ne_true

/-- A queue whose declaration is confirmed exists then. -/
theorem Broker.queueExists_of_declared
    {broker : Broker}
    {channel : Channel}
    {queue : String}
    {flags : DeclareFlags}
    {arguments : HeaderTable}
    {info : QueueInfo}
    (confirmed : (broker.perform (.declare channel queue flags arguments)).1 = .ok info) :
    (broker.perform (.declare channel queue flags arguments)).2.queueExists queue = true := by
  change (broker.onChannel channel (broker.declare queue flags)).1 = .ok info at confirmed
  change (broker.onChannel channel (broker.declare queue flags)).2.queueExists queue = true
  rcases onChannel_cases channel (broker.declare queue flags) with performed | performed
  · rw [performed] at confirmed ⊢
    dsimp only [declare] at confirmed ⊢
    split at confirmed
    · cases confirmed
    · next created =>
        rw [if_neg created]
        exact Dictionary.contains_insert_iff.mpr (.inl rfl)
  · rw [performed] at confirmed
    cases confirmed

namespace Network

/-- The client in a place knows a queue. -/
def Knows (parties : List Party) (place : Nat) (queue : String) : Prop :=
  ∃ party client,
    parties[place]? = some party ∧ party.client? = some client ∧ client.hasQueue queue = true

/-- What the client in a place knows of a queue is right, unless somebody else has deleted it. -/
def KnowsRightly (place : Nat) (queue : String) (network : Network) : Prop :=
  Event.OnlyDeletedBy place queue network.log →
    Knows network.parties place queue → network.broker.queueExists queue = true

variable {network : Network} {place : Nat} {queue : String}

/-- A party that takes a place and knows no more than the one before it adds no knowledge. -/
theorem knows_of_set
    {parties : List Party}
    {other : Nat}
    {before party : Party}
    (seated : parties[other]? = some before)
    (knew :
      ∀ client,
        party.client? = some client → client.hasQueue queue = true →
          ∃ clientBefore,
            before.client? = some clientBefore ∧ clientBefore.hasQueue queue = true)
    (knows : Knows (parties.set other party) place queue) :
    Knows parties place queue := by
  obtain ⟨found, client, foundSeated, isClient, known⟩ := knows
  rcases seated_set foundSeated with ⟨rfl, rfl⟩ | ⟨-, wasSeated⟩
  · obtain ⟨clientBefore, isClientBefore, knownBefore⟩ := knew client isClient known
    exact ⟨before, clientBefore, seated, isClientBefore, knownBefore⟩
  · exact ⟨found, client, wasSeated, isClient, known⟩

/-- Whatever is told, the client learns of no queue that is not there. -/
theorem KnowsRightly.tell
    (knowsRightly : network.KnowsRightly place queue)
    {broker : Broker}
    {event : Event}
    {parties : List Party}
    (learns :
      Event.OnlyDeletedBy place queue [event] → Knows parties place queue →
        Knows network.parties place queue ∧
            (network.broker.queueExists queue = true → broker.queueExists queue = true) ∨
          broker.queueExists queue = true)
    (drawnIds : Nat) :
    KnowsRightly place queue ⟨broker, drawnIds, parties, network.log ++ [event]⟩ := by
  intro undeleted knows
  have undeletedBefore : Event.OnlyDeletedBy place queue network.log :=
    fun other member => undeleted other (List.mem_append_left _ member)
  have undeletedNow : Event.OnlyDeletedBy place queue [event] :=
    fun other member => undeleted other (List.mem_append_right _ member)
  rcases learns undeletedNow knows with ⟨knew, stays⟩ | found
  · exact stays (knowsRightly undeletedBefore knew)
  · exact found

/-- Where no queue goes away the client may forget some. -/
theorem KnowsRightly.of_keeps
    (knowsRightly : network.KnowsRightly place queue)
    {broker : Broker}
    {parties : List Party}
    (keeps : network.broker.KeepsQueues broker none)
    (knew : Knows parties place queue → Knows network.parties place queue)
    (event : Event)
    (drawnIds : Nat) :
    KnowsRightly place queue ⟨broker, drawnIds, parties, network.log ++ [event]⟩ :=
  knowsRightly.tell (fun _ knows => .inl ⟨knew knows, keeps.exist queue (by simp)⟩) drawnIds

theorem knowsRightly_exchange
    {other : Nat}
    {operation : Operation}
    {standing : Standing}
    {request : Request}
    {next : request.Answer → Program (Outcome operation.Value)}
    (underway : network.Underway other operation standing (.ask request next))
    (knowsRightly : network.KnowsRightly place queue)
    (givesNothingUp : ∀ stream, request ≠ .release stream) :
    (network.exchange other operation standing request next).KnowsRightly place queue := by
  have keeps := keepsQueues_brokerAfter network request
  rw [exchange_eq next givesNothingUp]
  cases request with
  | release stream => exact absurd rfl (givesNothingUp stream)
  | transport call =>
      refine knowsRightly.tell (fun undeleted knows => ?_) _
      obtain ⟨party, client, seated, isClient, known⟩ := knows
      rcases seated_set seated with ⟨rfl, rfl⟩ | ⟨differs, wasSeated⟩
      · obtain rfl := Option.some.inj isClient
        rcases Client.hasQueue_of_afterCall known with
          ⟨wasKnown, notDeleted⟩ | ⟨channel, flags, arguments, info, declared⟩
        · exact .inl
            ⟨⟨_, standing.client, underway.seated, rfl, wasKnown⟩, keeps.exist queue notDeleted⟩
        · right
          obtain ⟨rfl, confirmed⟩ := Sigma.mk.inj declared
          exact Broker.queueExists_of_declared (eq_of_heq confirmed)
      · -- Somebody else goes on, who is known not to delete the queue.
        refine .inl ⟨⟨party, client, wasSeated, isClient, known⟩, keeps.exist queue ?_⟩
        intro deletes
        refine differs (undeleted _ List.mem_cons_self other ?_).symm
        simpa [Event.deleter?] using deletes
  | next stream timeout =>
      refine knowsRightly.of_keeps keeps
        (knows_of_set underway.seated fun client isClient known => ?_) _ _
      obtain rfl := Option.some.inj isClient
      refine ⟨standing.client, rfl, ?_⟩
      change (standing.arrived operation _).client.hasQueue queue = true at known
      unfold Standing.arrived at known
      split at known
      · exact known
      · exact known
  | isClosed | sleep | describe | freshId =>
      refine knowsRightly.of_keeps keeps
        (knows_of_set underway.seated fun client isClient known => ?_) _ _
      exact ⟨client, isClient, known⟩

/-- In all small steps what a client knows stays right. -/
theorem keeps_knowsRightly (place : Nat) (queue : String) :
    Keeps (fun _ => True) Anything (KnowsRightly place queue) where
  joined network connection broker client _ _ knowsRightly dialed unasked coherent := by
    have keeps : network.broker.KeepsQueues network.broker.dial.2 none :=
      Broker.keepsQueues_perform (.dial "")
    rw [dialed] at keeps
    refine knowsRightly.of_keeps keeps ?_ _ _
    rintro ⟨party, found, seated, isClient, known⟩
    rcases seated_concat seated with wasSeated | ⟨-, rfl⟩
    · exact ⟨party, found, wasSeated, isClient, known⟩
    · obtain rfl := Option.some.inj isClient
      rw [Client.hasQueue, coherent.queues_of_no_channel unasked.channel] at known
      exact absurd known Bool.false_ne_true
  started network other client operation _ _ knowsRightly _ seated := by
    intro undeleted knows
    refine knowsRightly undeleted (knows_of_set seated (fun found isClient known => ?_) knows)
    exact ⟨found, isClient, known⟩
  exchanged _ _ _ _ _ _ underway _ knowsRightly givesNothingUp :=
    knowsRightly_exchange underway knowsRightly givesNothingUp
  dropped network other party stream party' givesUp _ knowsRightly := by
    have keeps := keepsQueues_brokerAfter network (.release stream)
    refine knowsRightly.of_keeps keeps (knows_of_set givesUp.seated fun client isClient known => ?_)
      _ _
    exact ⟨client, givesUp.client ▸ isClient, known⟩
  finished network other operation standing ended underway _ knowsRightly := by
    have concludes : operation.Concludes ended standing := underway.met
    obtain ⟨error, isClient⟩ := concludes.client
    refine knowsRightly.of_keeps (.of_same rfl (.refl _))
      (knows_of_set underway.seated fun client isFound known => ?_) _ _
    obtain rfl := Option.some.inj isFound
    rw [isClient] at known
    exact ⟨standing.client, rfl, known⟩
  leaving network other party _ _ knowsRightly _ seated :=
    knowsRightly.of_keeps (.of_same rfl (.refl _))
      (knows_of_set seated fun client isClient _ => by cases isClient) _ _
  disturbed network disturbance _ _ knowsRightly _ :=
    knowsRightly.of_keeps (Broker.keepsQueues_disturb disturbance) id _ _

/--
In every run, whatever fails and whatever happens to the broker, a queue that the client in a place
knows exists at the broker, unless some other party has deleted it.  It does not matter whether the
client is in the middle of an operation, and how it has declared the queue.
-/
theorem known_queue_exists
    (arbitration : Arbitration)
    (moves : List Move)
    {place : Nat}
    {party : Party}
    {client : Client}
    {queue : String}
    (seated : ((start arbitration).run moves).parties[place]? = some party)
    (isClient : party.client? = some client)
    (undeleted : Event.OnlyDeletedBy place queue ((start arbitration).run moves).log)
    (known : client.hasQueue queue = true) :
    ((start arbitration).run moves).broker.queueExists queue = true := by
  have atStart : (start arbitration).KnowsRightly place queue := by
    rintro - ⟨party, client, seated, -⟩
    cases seated
  have knowsRightly : ((start arbitration).run moves).KnowsRightly place queue :=
    ((keeps_knowsRightly place queue).run (by simp [AtRest, start]) atStart fun _ _ => trivial).2
  exact knowsRightly undeleted ⟨party, client, seated, isClient, known⟩

/--
A client deletes a queue and finds it again when another one has declared it.  Then all connections
break, its next deletion fails, and so does its reset.
-/
def failing : List Move :=
  [.join "worker" (.new "memory"),
    .join "other" (.new "memory"),
    .start 0 .reset,
    .start 1 .reset,
    .start 0 (.ensureQueue (.new "jobs")),
    .start 0 (.deleteQueue "jobs"),
    .start 1 (.ensureQueue (.new "jobs")),
    .start 0 (.ensureQueue ((QueueDefinition.new "jobs").apply .passive)),
    .disturb .dropConnections,
    .disturb (.refuseDials true),
    .start 0 (.deleteQueue "jobs"),
    .start 0 .reset]

/-- The client that is left with a channel of no use. -/
def failedClient : Client where
  lastError := some (.connection "memory" "connection refused")
  channel := some ⟨1, 0⟩
  connection := ⟨1, 0⟩
  url := "memory"
  consumerId := "worker"
  options := .default
  queues := [("jobs", ⟨"jobs", 0, 0⟩)]
  streams := []

/-- What is known from before the failures is still right. -/
theorem known_after_failures :
    ((start .byConsumerTag).run failing).parties[0]? = some (.idle failedClient) ∧
      ((start .byConsumerTag).run failing).broker.isOpen ⟨1, 0⟩ = false ∧
      Event.OnlyDeletedBy 0 "jobs" ((start .byConsumerTag).run failing).log ∧
      failedClient.hasQueue "jobs" = true ∧
      ((start .byConsumerTag).run failing).broker.queueExists "jobs" = true := by
  have idle : ((start .byConsumerTag).run failing).parties[0]? = some (.idle failedClient) := rfl
  have deletions :
      ((start .byConsumerTag).run failing).log.filterMap Event.deleter? = [(0, "jobs")] := rfl
  have undeleted : Event.OnlyDeletedBy 0 "jobs" ((start .byConsumerTag).run failing).log := by
    intro event member other deletes
    have isDeletion := List.mem_filterMap.mpr ⟨event, member, deletes⟩
    rw [deletions] at isDeletion
    simpa using isDeletion
  have known : failedClient.hasQueue "jobs" = true := by decide
  exact ⟨idle, by decide +kernel, undeleted, known,
    known_queue_exists .byConsumerTag failing idle rfl undeleted known⟩

end Network

end BrokerClient
