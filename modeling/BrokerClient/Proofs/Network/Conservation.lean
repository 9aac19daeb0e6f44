import BrokerClient.Proofs.Network.Handing
import Mathlib.Data.List.Nodup

/-!
# No message is lost unnoticed

A message that the broker accepted is in the backlog of its queue, in the feed of a stream, has
arrived, or was lost with a stream that was given up while it waited there; and it is in one of
these places only, once.  This is shown by counting how often it is in each of them.
-/

namespace BrokerClient

namespace Broker

/-- All deliveries that wait in feeds. -/
def buffered (broker : Broker) : List Delivery :=
  broker.feeds.flatMap Feed.buffer

/-- How often a delivery waits with the broker, be it in the backlog of a queue or in a feed. -/
def waiting (broker : Broker) (queue : String) (delivery : Delivery) : Nat :=
  (broker.backlog queue).count delivery + broker.buffered.count delivery

theorem count_modify
    {feeds : List Feed}
    {index : Nat}
    {feed : Feed}
    (isFeed : feeds[index]? = some feed)
    (change : Feed → Feed)
    (delivery : Delivery) :
    ((feeds.modify index change).flatMap Feed.buffer).count delivery +
        feed.buffer.count delivery =
      (feeds.flatMap Feed.buffer).count delivery + (change feed).buffer.count delivery := by
  induction feeds generalizing index with
  | nil => cases isFeed
  | cons first rest inductionHypothesis =>
      cases index with
      | zero =>
          obtain rfl := Option.some.inj isFeed
          simp only [List.modify_zero_cons, List.flatMap_cons, List.count_append]
          omega
      | succ index =>
          have counted := inductionHypothesis isFeed
          simp only [List.modify_succ_cons, List.flatMap_cons, List.count_append]
          omega

variable {broker broker' : Broker} {stream : Stream} {queue : String} {delivery : Delivery}

theorem mem_buffered_iff :
    delivery ∈ broker.buffered ↔ ∃ stream, delivery ∈ broker.buffer stream := by
  simp only [buffered, List.mem_flatMap]
  constructor
  · rintro ⟨feed, isFeed, waits⟩
    obtain ⟨index, found⟩ := List.mem_iff_getElem?.mp isFeed
    refine ⟨⟨index⟩, ?_⟩
    simpa [buffer, feed?, found] using waits
  · rintro ⟨stream, waits⟩
    cases isFeed : broker.feed? stream with
    | none => simp [buffer, isFeed] at waits
    | some feed =>
        refine ⟨feed, List.mem_of_getElem? isFeed, ?_⟩
        simpa [buffer, isFeed] using waits

/-- Changing the feed of a stream that is held changes what waits there and nothing else. -/
theorem count_buffered_modifyFeed
    (held : broker.IsHeld stream)
    (change : Feed → Feed)
    (delivery : Delivery) :
    ((broker.modifyFeed stream change).buffered).count delivery +
        (broker.buffer stream).count delivery =
      broker.buffered.count delivery +
        ((broker.modifyFeed stream change).buffer stream).count delivery := by
  obtain ⟨feed, isFeed, -⟩ := held
  have before : broker.buffer stream = feed.buffer := by
    simp [buffer, isFeed]
  have after : (broker.modifyFeed stream change).buffer stream = (change feed).buffer := by
    simp [buffer, feed?_modifyFeed_self, isFeed]
  rw [before, after]
  exact count_modify isFeed change delivery

theorem KeepsMessages.waiting
    (keeps : broker.KeepsMessages broker')
    (queue : String)
    (delivery : Delivery) :
    broker'.waiting queue delivery = broker.waiting queue delivery := by
  simp [Broker.waiting, buffered, keeps.backlog, keeps.feeds]

theorem Accepts.waiting
    {accepted : Delivery}
    (accepts : broker.Accepts broker' accepted)
    (isQueue : delivery.routingKey = queue) :
    broker'.waiting queue delivery =
      broker.waiting queue delivery + [accepted].count delivery := by
  rcases accepts.goes with ⟨consumer, hands⟩ | stores
  · have counted :=
      count_buffered_modifyFeed hands.live
        (fun feed => { feed with buffer := feed.buffer ++ [accepted] }) delivery
    rw [buffer_modifyFeed_self hands.live (· ++ [accepted]), List.count_append] at counted
    simp only [Broker.waiting, hands.backlog]
    simp only [buffered, hands.feeds] at counted ⊢
    omega
  · simp only [Broker.waiting, buffered, stores.feeds, stores.backlog]
    split
    · rw [List.count_append]
      omega
    · next otherQueue =>
        have differs : accepted ≠ delivery := by
          rintro rfl
          exact otherQueue isQueue.symm
        simp [differs]

theorem Registers.waiting
    {name tag : String}
    (registers : broker.Registers broker' name tag stream)
    (stored : ∀ other ∈ broker.backlog name, other.routingKey = name)
    (isQueue : delivery.routingKey = queue) :
    broker'.waiting queue delivery = broker.waiting queue delivery := by
  simp only [Broker.waiting, buffered, registers.feeds, registers.backlog, List.flatMap_append,
    List.flatMap_singleton, List.count_append]
  split
  · next same =>
      subst same
      simp only [List.count_nil]
      omega
  · next otherQueue =>
      have notThere : delivery ∉ broker.backlog name := by
        intro member
        exact otherQueue (isQueue.symm.trans (stored delivery member))
      rw [List.count_eq_zero.mpr notThere]
      rfl

theorem Deletes.waiting
    {name : String}
    (deletes : broker.Deletes broker' name)
    (differs : queue ≠ name)
    (delivery : Delivery) :
    broker'.waiting queue delivery = broker.waiting queue delivery := by
  simp [Broker.waiting, buffered, deletes.feeds, deletes.backlog, differs]

/-- A deletion only takes messages away. -/
theorem Deletes.waiting_le
    {name : String}
    (deletes : broker.Deletes broker' name)
    (queue : String)
    (delivery : Delivery) :
    broker'.waiting queue delivery ≤ broker.waiting queue delivery := by
  simp only [Broker.waiting, buffered, deletes.feeds, deletes.backlog]
  split
  · simp
  · exact Nat.le_refl _

theorem waiting_takes
    {taken : Delivery}
    {rest : List Delivery}
    (held : broker.IsHeld stream)
    (shape : broker.buffer stream = taken :: rest) :
    (broker.modifyFeed stream fun feed => { feed with buffer := rest }).waiting queue delivery +
        [taken].count delivery =
      broker.waiting queue delivery := by
  have counted :=
    count_buffered_modifyFeed held (fun feed => { feed with buffer := rest }) delivery
  rw [buffer_modifyFeed_self held fun _ => rest, shape, ← List.singleton_append,
    List.count_append] at counted
  have sameBacklog :
      (broker.modifyFeed stream fun feed => { feed with buffer := rest }).backlog queue =
        broker.backlog queue :=
    rfl
  simp only [Broker.waiting, sameBacklog]
  omega

theorem waiting_release (held : broker.IsHeld stream) :
    (broker.release stream).waiting queue delivery + (broker.buffer stream).count delivery =
      broker.waiting queue delivery := by
  have counted := count_buffered_modifyFeed held (fun _ => ⟨[], false⟩) delivery
  have emptied : (broker.release stream).buffer stream = [] := buffer_release_self
  have sameBacklog : (broker.release stream).backlog queue = broker.backlog queue := rfl
  simp only [release] at emptied sameBacklog ⊢
  rw [emptied] at counted
  simp only [Broker.waiting, sameBacklog]
  simp only [List.count_nil] at counted
  omega

end Broker

namespace Network

/-- How often a delivery has arrived or was lost. -/
def goneFrom (log : List Event) (delivery : Delivery) : Nat :=
  ((Event.arrivals log).map fun arrival => arrival.2.2).count delivery +
    (Event.lost log).count delivery

/-- While a queue is not deleted its messages wait, have arrived or were lost. -/
def Conserves (queue : String) (network : Network) : Prop :=
  (∀ event ∈ network.log, event.deletion? ≠ some queue) →
    ∀ delivery : Delivery, delivery.routingKey = queue →
      (Event.accepted network.log).count delivery =
        network.broker.waiting queue delivery + goneFrom network.log delivery

/-- The messages of a queue are nowhere twice, and while it is not deleted none is missing. -/
structure Balanced (queue : String) (network : Network) : Prop where
  atMostOnce :
    ∀ delivery : Delivery, delivery.routingKey = queue →
      network.broker.waiting queue delivery + goneFrom network.log delivery ≤
        (Event.accepted network.log).count delivery
  conserves : network.Conserves queue

variable {network : Network} {queue : String} {event : Event} {delivery : Delivery}

theorem goneFrom_concat (log : List Event) (event : Event) (delivery : Delivery) :
    goneFrom (log ++ [event]) delivery =
      goneFrom log delivery +
        ((event.arrival?.toList.map fun arrival => arrival.2.2).count delivery +
          event.unread.count delivery) := by
  simp only [goneFrom, Event.arrivals_concat, Event.lost_concat, List.map_append,
    List.count_append]
  omega

/-- An event that adds as much to where messages are as to what was accepted keeps the balance. -/
theorem Balanced.of_eq
    (balanced : network.Balanced queue)
    {broker : Broker}
    (even :
      ∀ delivery : Delivery, delivery.routingKey = queue →
        broker.waiting queue delivery + goneFrom (network.log ++ [event]) delivery +
            (Event.accepted network.log).count delivery =
          network.broker.waiting queue delivery + goneFrom network.log delivery +
            (Event.accepted (network.log ++ [event])).count delivery)
    (drawnIds : Nat)
    (parties : List Party) :
    Balanced queue ⟨broker, drawnIds, parties, network.log ++ [event]⟩ where
  atMostOnce delivery isQueue := by
    have before := balanced.atMostOnce delivery isQueue
    have isEven := even delivery isQueue
    dsimp only
    omega
  conserves notDeleted delivery isQueue := by
    have before := balanced.conserves (Event.forall_of_concat notDeleted).1 delivery isQueue
    have isEven := even delivery isQueue
    dsimp only
    omega

/-- An event that tells of no message leaves the account as it is if nothing moves. -/
theorem Balanced.of_same
    (balanced : network.Balanced queue)
    (noMessage : event.message? = none)
    (noArrival : event.arrival? = none)
    (nothingLost : event.unread = [])
    {broker : Broker}
    (same :
      ∀ delivery, delivery.routingKey = queue →
        broker.waiting queue delivery = network.broker.waiting queue delivery)
    (drawnIds : Nat)
    (parties : List Party) :
    Balanced queue ⟨broker, drawnIds, parties, network.log ++ [event]⟩ := by
  refine balanced.of_eq (fun delivery isQueue => ?_) _ _
  rw [Event.accepted_concat_of_none noMessage, goneFrom_concat, noArrival, nothingLost,
    same delivery isQueue]
  rfl

/-- A message that is accepted waits with the broker. -/
theorem Balanced.of_accepts
    (balanced : network.Balanced queue)
    (counted : network.broker.accepted = (Event.accepted network.log).length)
    {name : String}
    {properties : Properties}
    {body : List UInt8}
    (isMessage : event.message? = some (name, properties, body))
    (noArrival : event.arrival? = none)
    (nothingLost : event.unread = [])
    {broker : Broker}
    (accepts :
      network.broker.Accepts broker
        (Broker.message (network.broker.accepted + 1) name properties body))
    (drawnIds : Nat)
    (parties : List Party) :
    Balanced queue ⟨broker, drawnIds, parties, network.log ++ [event]⟩ := by
  refine balanced.of_eq (fun delivery isQueue => ?_) _ _
  rw [Event.accepted_concat_of_some isMessage, ← counted, List.count_append, goneFrom_concat,
    noArrival, nothingLost, accepts.waiting isQueue]
  simp only [Option.toList_none, List.map_nil, List.count_nil]
  omega

/-- Messages of a queue that is deleted go missing, and those of other queues do not. -/
theorem Balanced.of_deletes
    (balanced : network.Balanced queue)
    {name : String}
    (isDeletion : event.deletion? = some name)
    (noMessage : event.message? = none)
    (noArrival : event.arrival? = none)
    (nothingLost : event.unread = [])
    {broker : Broker}
    (deletes : network.broker.Deletes broker name)
    (drawnIds : Nat)
    (parties : List Party) :
    Balanced queue ⟨broker, drawnIds, parties, network.log ++ [event]⟩ := by
  by_cases isQueue : queue = name
  · subst isQueue
    constructor
    case atMostOnce =>
      intro delivery isAddressed
      have before := balanced.atMostOnce delivery isAddressed
      have fewer := deletes.waiting_le queue delivery
      rw [Event.accepted_concat_of_none noMessage, goneFrom_concat, noArrival, nothingLost]
      simp only [Option.toList_none, List.map_nil, List.count_nil]
      omega
    case conserves =>
      intro notDeleted
      exact absurd isDeletion (Event.forall_of_concat notDeleted).2
  · exact balanced.of_same noMessage noArrival nothingLost
      (fun delivery _ => deletes.waiting isQueue delivery) _ _

theorem balanced_exchange
    {place : Nat}
    {operation : Operation}
    {standing : Standing}
    {request : Request}
    {next : request.Answer → Program (Outcome operation.Value)}
    (underway : network.Underway place operation standing (.ask request next))
    (sound : network.Sound)
    (balanced : network.Balanced queue)
    (givesNothingUp : ∀ stream, request ≠ .release stream) :
    (network.exchange place operation standing request next).Balanced queue := by
  have turn := underway.turn givesNothingUp
  rw [exchange_eq next givesNothingUp]
  cases turn with
  | quiet tells keeps stays =>
      exact balanced.of_same tells.message tells.arrival rfl
        (fun delivery _ => keeps.waiting queue delivery) _ _
  | publishes name properties body tells accepts stays noArrival =>
      exact balanced.of_accepts sound.counted tells.message tells.arrival rfl accepts _ _
  | deletes name tells isDeletion deletes streams abandoned noArrival =>
      exact balanced.of_deletes isDeletion tells.message tells.arrival rfl deletes _ _
  | consumes name stream tells registers isSource free streams abandoned noArrival =>
      exact balanced.of_same tells.message tells.arrival rfl
        (fun delivery isQueue => registers.waiting (sound.holding.stored name) isQueue) _ _
  | closes tells replaces keeps streams abandoned noArrival =>
      exact balanced.of_same tells.message tells.arrival rfl
        (fun delivery _ => keeps.waiting queue delivery) _ _
  | ceases name stream arrival tells awaits isStream undelivered shape fed isBroker streams
      abandoned noArrival isArrival =>
      exact balanced.of_same tells.message tells.arrival rfl (fun delivery _ => by rw [isBroker])
        _ _
  | takes name stream taken rest tells awaits isStream shape isBroker streams abandoned
      noArrival arrival =>
      have held := (sound.holding.held_of_busy underway.seated isStream).2
      refine balanced.of_eq (fun delivery isQueue => ?_) _ _
      have taken :
          (network.broker.modifyFeed stream fun feed => { feed with buffer := rest }).waiting queue
              delivery + [taken].count delivery =
            network.broker.waiting queue delivery :=
        Broker.waiting_takes held shape
      rw [Event.accepted_concat_of_none tells.message, goneFrom_concat, tells.arrival, isBroker,
        ← taken]
      simp only [Option.toList_some, List.map_cons, List.map_nil]
      have nothingLost :
          (Event.asked place operation ⟨request, network.answer request⟩).unread = [] := rfl
      rw [nothingLost, List.count_nil]
      omega

/-- All small steps keep the balance of a queue. -/
theorem keeps_balanced (queue : String) : Keeps (fun _ => True) Sound (Balanced queue) where
  joined network connection broker client atRest _ balanced dialed unasked coherent :=
    balanced.of_same rfl rfl rfl
      (fun delivery _ => (Broker.keepsMessages_dial dialed).waiting queue delivery) _ _
  started network place client operation atRest _ balanced _ seated :=
    ⟨balanced.atMostOnce, balanced.conserves⟩
  exchanged network place operation standing request next underway sound balanced
      givesNothingUp :=
    balanced_exchange underway sound balanced givesNothingUp
  dropped network place party stream party' givesUp sound balanced := by
    have member : stream ∈ party.abandoned := by simp [givesUp.first]
    have held := ((sound.holding.owners place party givesUp.seated).abandoned stream member).2.1
    refine balanced.of_eq (fun delivery isQueue => ?_) _ _
    have released :
        (network.broker.release stream).waiting queue delivery +
            (network.broker.buffer stream).count delivery =
          network.broker.waiting queue delivery :=
      Broker.waiting_release held
    rw [Event.accepted_concat_of_none rfl, goneFrom_concat, ← released]
    simp only [Event.unread, Event.arrival?, Option.toList_none, List.map_nil, List.count_nil]
    omega
  finished network place operation standing ended underway _ balanced :=
    balanced.of_same rfl rfl rfl (fun _ _ => rfl) _ _
  leaving network place party atRest _ balanced _ seated :=
    balanced.of_same rfl rfl rfl (fun _ _ => rfl) _ _
  disturbed network disturbance atRest sound balanced _ := by
    rcases network.broker.disturb_cases disturbance with
      ⟨keeps, noMessage⟩ | ⟨name, properties, body, isMessage, accepts⟩
    · exact balanced.of_same noMessage rfl rfl (fun delivery _ => keeps.waiting queue delivery) _ _
    · exact balanced.of_accepts sound.counted isMessage rfl rfl accepts _ _

/-! ## Streams that are given up with messages in them -/

/-- No message of a queue waits in a stream that is about to be given up. -/
def Spares (queue : String) (broker : Broker) (parties : List Party) : Prop :=
  ∀ (place : Nat) (party : Party),
    parties[place]? = some party → ∀ stream ∈ party.abandoned,
      ∀ delivery ∈ broker.buffer stream, delivery.routingKey ≠ queue

/--
As long as a queue is not deleted, nobody lets all streams go and nobody registers for the queue but
to wait, none of its messages is lost or about to be.
-/
def LosesNothing (queue : String) (network : Network) : Prop :=
  (∀ event ∈ network.log,
    event.deletion? ≠ some queue ∧ event.replacement? = none ∧ event.departure? = none ∧
      ∀ place, event.directRegistration? ≠ some (place, queue)) →
    (∀ delivery ∈ Event.lost network.log, delivery.routingKey ≠ queue) ∧
      Spares queue network.broker network.parties

/-- Nothing is about to be given up by parties at rest. -/
theorem AtRest.spares (atRest : network.AtRest) (broker : Broker) :
    Spares queue broker network.parties := by
  intro place party seated stream member
  rw [(atRest place party seated).abandoned] at member
  cases member

theorem RestsBut.spares
    {place : Nat}
    {party : Party}
    {broker : Broker}
    (othersRest : network.RestsBut place)
    (spared : ∀ stream ∈ party.abandoned, ∀ delivery ∈ broker.buffer stream,
      delivery.routingKey ≠ queue) :
    Spares queue broker (network.parties.set place party) := by
  intro other found seated stream member
  rcases seated_set seated with ⟨-, rfl⟩ | ⟨differs, wasSeated⟩
  · exact spared stream member
  · rw [(othersRest other found differs wasSeated).abandoned] at member
    cases member

/-- An event with which nothing is lost leaves the loss to what is about to be given up. -/
theorem LosesNothing.of_same
    (losesNothing : network.LosesNothing queue)
    (nothingLost : event.unread = [])
    {broker : Broker}
    {parties : List Party}
    (spares :
      event.deletion? ≠ some queue → event.replacement? = none → event.departure? = none →
        (∀ place, event.directRegistration? ≠ some (place, queue)) →
          Spares queue broker parties)
    (drawnIds : Nat) :
    LosesNothing queue ⟨broker, drawnIds, parties, network.log ++ [event]⟩ := by
  intro quiet
  obtain ⟨quietBefore, quietNow⟩ := Event.forall_of_concat quiet
  refine ⟨?_, spares quietNow.1 quietNow.2.1 quietNow.2.2.1 quietNow.2.2.2⟩
  rw [Event.lost_concat, nothingLost, List.append_nil]
  exact (losesNothing quietBefore).1

theorem losesNothing_exchange
    {place : Nat}
    {operation : Operation}
    {standing : Standing}
    {request : Request}
    {next : request.Answer → Program (Outcome operation.Value)}
    (underway : network.Underway place operation standing (.ask request next))
    (sound : network.Sound)
    (losesNothing : network.LosesNothing queue)
    (givesNothingUp : ∀ stream, request ≠ .release stream) :
    (network.exchange place operation standing request next).LosesNothing queue := by
  have turn := underway.turn givesNothingUp
  have seated := underway.seated
  have addressed (name : String) (stream : Stream)
      (isStream : standing.client.streams.get? name = some stream)
      (delivery : Delivery) (member : delivery ∈ network.broker.buffer stream) :
      delivery.routingKey = name := by
    have opened := (sound.holding.held_of_busy seated isStream).1
    exact sound.holding.buffered stream place name opened delivery member
  rw [exchange_eq next givesNothingUp]
  refine losesNothing.of_same rfl ?_ _
  intro notDeletion noReplacement _ notDirect
  refine underway.othersRest.spares ?_
  intro stream member delivery waits
  simp only [Party.abandoned] at member
  cases turn with
  | quiet tells keeps stays => simp [stays.abandoned] at member
  | publishes name properties body tells accepts stays noArrival =>
      simp [stays.abandoned] at member
  | takes name taken delivery rest tells awaits isStream shape isBroker streams abandoned
      noArrival arrival =>
      simp [abandoned] at member
  | deletes name tells isDeletion deletes streams abandoned noArrival =>
      have isStream : standing.client.streams.get? name = some stream := by
        simpa [abandoned] using member
      rw [Broker.buffer_of_feeds deletes.feeds] at waits
      rw [addressed name stream isStream delivery waits]
      intro same
      exact notDeletion (same ▸ isDeletion)
  | consumes name opened tells registers isSource free streams abandoned noArrival =>
      have isStream : standing.client.streams.get? name = some stream := by
        simpa [abandoned] using member
      have held := (sound.holding.held_of_busy seated isStream).2
      rw [registers.buffer_other (registers.ne_of_isHeld held)] at waits
      rw [addressed name stream isStream delivery waits]
      rintro rfl
      rcases free with holdsNone | isDirect
      · rw [holdsNone] at isStream
        cases isStream
      · exact notDirect place isDirect
  | closes tells replaces keeps streams abandoned noArrival =>
      simp [noReplacement] at replaces
  | ceases name ceased arrival tells awaits isStream undelivered shape fed isBroker streams
      abandoned noArrival isArrival =>
      have isCeased : stream = ceased := by
        simpa [abandoned] using member
      rw [isBroker, isCeased, shape] at waits
      cases waits

/-- No small step loses a message of a queue. -/
theorem keeps_losesNothing (queue : String) :
    Keeps (fun _ => True) Sound (LosesNothing queue) where
  joined network connection broker client atRest _ losesNothing dialed unasked coherent := by
    refine losesNothing.of_same rfl (fun _ _ _ _ => ?_) _
    intro place party seated stream member
    rcases seated_concat seated with wasSeated | ⟨-, rfl⟩
    · rw [(atRest place party wasSeated).abandoned] at member
      cases member
    · cases member
  started network place client operation atRest _ losesNothing _ seated := by
    intro quiet
    refine ⟨(losesNothing quiet).1, ?_⟩
    refine RestsBut.spares (fun other party _ found => atRest other party found) ?_
    simp [Party.abandoned, Standing.start]
  exchanged network place operation standing request next underway sound losesNothing
      givesNothingUp :=
    losesNothing_exchange underway sound losesNothing givesNothingUp
  dropped network place party stream party' givesUp sound losesNothing := by
    have distinct := (sound.holding.owners place party givesUp.seated).distinct
    rw [givesUp.first, List.nodup_cons] at distinct
    intro quiet
    obtain ⟨lostBefore, spares⟩ := losesNothing (Event.forall_of_concat quiet).1
    have spared := spares place party givesUp.seated
    rw [givesUp.first] at spared
    constructor
    · intro delivery member
      simp only [dropStream, Event.lost_concat, Event.unread] at member
      rcases List.mem_append.mp member with wasLost | isLost
      · exact lostBefore delivery wasLost
      · exact spared stream (by simp) delivery isLost
    · refine RestsBut.spares givesUp.othersRest fun other member delivery waits => ?_
      have differs : other ≠ stream := by
        rintro rfl
        exact distinct.1 member
      refine spared other (by simp [member]) delivery ?_
      rwa [dropStream, Broker.buffer_release_other differs] at waits
  finished network place operation standing ended underway _ losesNothing := by
    refine losesNothing.of_same rfl (fun _ _ _ _ => underway.othersRest.spares ?_) _
    simp [Party.abandoned]
  leaving network place party atRest _ losesNothing _ seated :=
    losesNothing.of_same rfl
      (fun _ _ (staysPut : (Event.leaving place).departure? = none) _ => by cases staysPut) _
  disturbed network disturbance atRest _ losesNothing _ :=
    losesNothing.of_same rfl (fun _ _ _ _ => atRest.spares _) _

/-! ## Runs -/

/-- A message of a queue is in its backlog, or in a stream that some client holds. -/
def Receivable (network : Network) (queue : String) (delivery : Delivery) : Prop :=
  delivery ∈ network.broker.backlog queue ∨
    ∃ (place : Nat) (party : Party) (name : String) (stream : Stream),
      network.parties[place]? = some party ∧ party.Holds name stream ∧
        delivery ∈ network.broker.buffer stream

/-- Between moves a message can be received exactly if it waits somewhere. -/
theorem receivable_iff_waiting
    (atRest : network.AtRest)
    (sound : network.Sound)
    (queue : String)
    (delivery : Delivery) :
    network.Receivable queue delivery ↔ 0 < network.broker.waiting queue delivery := by
  rw [Broker.waiting, Nat.add_pos_iff_pos_or_pos, List.count_pos_iff, List.count_pos_iff,
    Broker.mem_buffered_iff, Receivable]
  refine or_congr Iff.rfl ?_
  constructor
  · rintro ⟨place, party, name, stream, -, -, waits⟩
    exact ⟨stream, waits⟩
  · rintro ⟨stream, waits⟩
    have held : network.broker.IsHeld stream := by
      refine Classical.byContradiction fun notHeld => ?_
      rw [sound.holding.unheld stream notHeld] at waits
      cases waits
    obtain ⟨place, party, name, seated, -, holds | abandoned⟩ := sound.holding.keepers stream held
    · exact ⟨place, party, name, stream, seated, holds, waits⟩
    · rw [(atRest place party seated).abandoned] at abandoned
      cases abandoned

theorem balanced_run (arbitration : Arbitration) (moves : List Move) (queue : String) :
    ((start arbitration).run moves).Balanced queue := by
  have keeps := keeps_sound.and (keeps_balanced queue)
  refine (keeps.run (by simp [AtRest, start]) ⟨sound_start arbitration, ?_⟩ fun _ _ => trivial).2.2
  constructor
  case atMostOnce =>
    simp [start, Broker.empty, Broker.waiting, Broker.backlog, Broker.buffered, goneFrom,
      Event.arrivals, Event.lost]
  case conserves =>
    intro _ delivery _
    simp [start, Broker.empty, Broker.waiting, Broker.backlog, Broker.buffered, goneFrom,
      Event.accepted, Event.arrivals, Event.lost]

theorem losesNothing_run (arbitration : Arbitration) (moves : List Move) (queue : String) :
    ((start arbitration).run moves).LosesNothing queue := by
  have keeps := keeps_sound.and (keeps_losesNothing queue)
  refine (keeps.run (by simp [AtRest, start]) ⟨sound_start arbitration, ?_⟩ fun _ _ => trivial).2.2
  simp [LosesNothing, Spares, start, Event.lost]

/--
As long as a queue is not deleted, a message that was accepted for it and not handed out yet can be
received exactly if it was not lost with a stream that was given up while the message waited in it.
None is lost if nobody makes room for another channel, leaves, or registers for the queue without
waiting for it.
-/
theorem receivable_iff_not_lost
    (arbitration : Arbitration)
    (moves : List Move)
    (queue : String)
    (notDeleted : ∀ event ∈ ((start arbitration).run moves).log, event.deletion? ≠ some queue) :
    (∀ delivery ∈ Event.acceptedFor queue ((start arbitration).run moves).log,
      (∀ place name,
        (place, name, delivery) ∉ Event.handedOut ((start arbitration).run moves).log) →
        (((start arbitration).run moves).Receivable queue delivery ↔
          delivery ∉ Event.lost ((start arbitration).run moves).log)) ∧
    ((∀ event ∈ ((start arbitration).run moves).log,
      event.replacement? = none ∧ event.departure? = none ∧
        ∀ place, event.directRegistration? ≠ some (place, queue)) →
      ∀ delivery ∈ Event.lost ((start arbitration).run moves).log,
        delivery.routingKey ≠ queue) := by
  obtain ⟨atRest, sound⟩ := sound_run arbitration moves
  have dealt := dealt_run arbitration moves
  have conserves := (balanced_run arbitration moves queue).conserves notDeleted
  constructor
  · intro delivery isAccepted notHandedOut
    obtain ⟨accepted, isQueue⟩ := List.mem_filter.mp isAccepted
    have isQueue : delivery.routingKey = queue := by simpa using isQueue
    have once := List.count_eq_one_of_mem (Event.nodup_accepted _) accepted
    have notArrived :
        delivery ∉ (Event.arrivals ((start arbitration).run moves).log).map
          fun arrival => arrival.2.2 := by
      rintro member
      obtain ⟨⟨place, name, _⟩, arrived, rfl⟩ := List.mem_map.mp member
      exact notHandedOut place name ((arrivals_perm_handedOut atRest dealt).mem_iff.mp arrived)
    have counted := conserves delivery isQueue
    rw [once, goneFrom, List.count_eq_zero.mpr notArrived] at counted
    rw [receivable_iff_waiting atRest sound, ← List.count_eq_zero]
    omega
  · intro nobodyLetsGo
    exact (losesNothing_run arbitration moves queue fun event member =>
      ⟨notDeleted event member, nobodyLetsGo event member⟩).1

/-- A client that receives one message opens a new channel while another one waits in its stream. -/
def replacing : List Move :=
  [.join "worker" (.new "memory"),
    .start 0 .reset,
    .disturb (.pushRaw "jobs" [1]),
    .start 0 (.receive "jobs" Except.ok),
    .resume 0,
    .disturb (.pushRaw "jobs" [2]),
    .start 0 .reset]

/-- A new channel costs the message that waits in the stream of the old one. -/
theorem lost_by_replacing :
    Broker.message 2 "jobs" .none [2] ∈
        Event.acceptedFor "jobs" ((start .byConsumerTag).run replacing).log ∧
      (∀ place name,
        (place, name, Broker.message 2 "jobs" .none [2]) ∉
          Event.handedOut ((start .byConsumerTag).run replacing).log) ∧
        ¬ ((start .byConsumerTag).run replacing).Receivable "jobs"
          (Broker.message 2 "jobs" .none [2]) := by
  have notDeleted :
      ∀ event ∈ ((start .byConsumerTag).run replacing).log, event.deletion? ≠ some "jobs" := by
    decide +kernel
  have accepted :
      Broker.message 2 "jobs" .none [2] ∈
        Event.acceptedFor "jobs" ((start .byConsumerTag).run replacing).log := by
    decide +kernel
  have lost :
      Broker.message 2 "jobs" .none [2] ∈
        Event.lost ((start .byConsumerTag).run replacing).log := by
    decide +kernel
  have others :
      Event.handedOut ((start .byConsumerTag).run replacing).log =
        [(0, "jobs", Broker.message 1 "jobs" .none [1])] := by
    decide +kernel
  have notHandedOut (place : Nat) (name : String) :
      (place, name, Broker.message 2 "jobs" .none [2]) ∉
        Event.handedOut ((start .byConsumerTag).run replacing).log := by
    rw [others]
    simp [Broker.message]
  have receivable :=
    (receivable_iff_not_lost .byConsumerTag replacing "jobs" notDeleted).1 _ accepted notHandedOut
  exact ⟨accepted, notHandedOut, fun isReceivable => receivable.mp isReceivable lost⟩

end Network

end BrokerClient
