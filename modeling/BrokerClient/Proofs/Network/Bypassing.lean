import BrokerClient.Proofs.Network.Closing

/-!
# Messages that bypass a consumer

For a message the broker asks one consumer of the queue and no other: if the stream of that one was
given up, the message goes to the backlog.  A registration stays when its stream is given up, so a
queue can have dead consumers beside live ones, and just then it depends on the order in which
consumers are considered whether a message is handed over.  What has bypassed a live consumer waits
until somebody registers on the queue or deletes it, and reaches no stream that was open before.
-/

namespace BrokerClient

namespace Arbitration

/-- One consumer is considered before all others, whatever the message. -/
def favouring (favourite : Consumer) : Arbitration where
  order := fun _ consumers =>
    if favourite ∈ consumers then favourite :: consumers.erase favourite else consumers
  perm := by
    intro _ consumers
    split
    · next member => exact (List.perm_cons_erase member).symm
    · exact .rfl

end Arbitration

namespace Broker

variable {broker broker' : Broker} {queue : String} {consumer : Consumer} {delivery : Delivery}

/-- A delivery that is handed to a consumer does not go to the backlog. -/
theorem Hands.not_stores
    (hands : broker.Hands broker' delivery consumer) :
    ¬ broker.Stores broker' delivery := by
  intro stores
  have grown := hands.buffer_self
  rw [buffer_of_feeds stores.feeds] at grown
  simp at grown

/-- The next message is handed to the consumer that is asked for it, if that one is live. -/
theorem hands_accept_iff (properties : Properties) (body : List UInt8) :
    broker.Hands (broker.accept queue properties body)
        (message (broker.accepted + 1) queue properties body) consumer ↔
      broker.asked? queue = some consumer ∧ broker.IsHeld consumer.stream := by
  constructor
  · intro hands
    by_cases live :
        ∃ asked, broker.asked? queue = some asked ∧ broker.IsHeld asked.stream
    · obtain ⟨asked, isAsked, held⟩ := live
      have handsToAsked := hands_accept isAsked held properties body
      -- Only the stream of the consumer that is asked grows.
      have sameStream : consumer.stream = asked.stream := by
        refine Classical.byContradiction fun differs => ?_
        have grown := hands.buffer_self
        rw [handsToAsked.buffer_other differs] at grown
        simp at grown
      have same : consumer = asked := by
        have sameQueue : consumer.queue = asked.queue :=
          hands.queue.trans handsToAsked.queue.symm
        cases consumer
        cases asked
        cases sameStream
        cases sameQueue
        rfl
      exact same ▸ ⟨isAsked, held⟩
    · exact absurd
        (stores_accept (fun asked isAsked held => live ⟨asked, isAsked, held⟩) properties body)
        hands.not_stores
  · rintro ⟨isAsked, held⟩
    exact hands_accept isAsked held properties body

/-- The next message goes to the backlog unless the consumer that is asked for it is live. -/
theorem stores_accept_iff (properties : Properties) (body : List UInt8) :
    broker.Stores (broker.accept queue properties body)
        (message (broker.accepted + 1) queue properties body) ↔
      ∀ consumer, broker.asked? queue = some consumer → ¬ broker.IsHeld consumer.stream := by
  constructor
  · intro stores consumer isAsked held
    exact (hands_accept isAsked held properties body).not_stores stores
  · intro noneLive
    exact stores_accept noneLive properties body

/-- A broker whose consumers are considered in another order. -/
def arbitratedBy (broker : Broker) (arbitration : Arbitration) : Broker :=
  { broker with arbitration := arbitration }

/-- A consumer is registered on a queue, be it live or dead. -/
def IsConsumed (broker : Broker) (queue : String) : Prop :=
  ∃ entry ∈ broker.consumers, entry.2.queue = queue

/-- Every consumer of a queue is live. -/
def AllLive (broker : Broker) (queue : String) : Prop :=
  ∀ entry ∈ broker.consumers, entry.2.queue = queue → broker.IsHeld entry.2.stream

/-- No consumer of a queue is live. -/
def NoneLive (broker : Broker) (queue : String) : Prop :=
  ∀ entry ∈ broker.consumers, entry.2.queue = queue → ¬ broker.IsHeld entry.2.stream

/-- In some order any consumer of a queue is asked first. -/
theorem asked?_favouring
    {entry : String × Consumer}
    (member : entry ∈ broker.consumers) :
    (broker.arbitratedBy (.favouring entry.2)).asked? entry.2.queue = some entry.2 := by
  have registered : entry.2 ∈ broker.consumers.map Prod.snd := List.mem_map_of_mem member
  simp [asked?, candidates, arbitratedBy, Arbitration.favouring, registered, consumerAmong?]

/-- The consumer that is asked is a registered one of the queue, whatever the order. -/
theorem registered_of_asked?
    {other : Arbitration}
    (isAsked : (broker.arbitratedBy other).asked? queue = some consumer) :
    ∃ entry ∈ broker.consumers, entry.2 = consumer ∧ entry.2.queue = queue := by
  obtain ⟨entry, member, rfl⟩ := registered_of_consumerAmong? isAsked
  exact ⟨entry, member, rfl, queue_of_consumerAmong? isAsked⟩

/-- A consumer is asked if one is registered on the queue, whatever the order. -/
theorem IsConsumed.asked
    (isConsumed : broker.IsConsumed queue)
    (other : Arbitration) :
    ∃ consumer, (broker.arbitratedBy other).asked? queue = some consumer := by
  obtain ⟨entry, member, isQueue⟩ := isConsumed
  refine Option.ne_none_iff_exists'.mp fun noneAsked => ?_
  exact consumerAmong?_eq_none_iff.mp noneAsked entry member isQueue

/-- How a broker deals with the next message to a queue, in whatever order consumers are asked. -/
structure Routes
    (broker : Broker)
    (queue : String)
    (delivery : Delivery)
    (accepted : Arbitration → Broker) : Prop where
  hands :
    ∀ other consumer,
      (broker.arbitratedBy other).Hands (accepted other) delivery consumer ↔
        (broker.arbitratedBy other).asked? queue = some consumer ∧ broker.IsHeld consumer.stream
  stores :
    ∀ other,
      (broker.arbitratedBy other).Stores (accepted other) delivery ↔
        ∀ consumer, (broker.arbitratedBy other).asked? queue = some consumer →
          ¬ broker.IsHeld consumer.stream
  alwaysHands :
    (∀ other, ∃ consumer,
      (broker.arbitratedBy other).Hands (accepted other) delivery consumer) ↔
        broker.IsConsumed queue ∧ broker.AllLive queue
  alwaysStores :
    (∀ other, (broker.arbitratedBy other).Stores (accepted other) delivery) ↔
      broker.NoneLive queue

theorem routes (broker : Broker) (queue : String) (properties : Properties) (body : List UInt8) :
    broker.Routes queue (message (broker.accepted + 1) queue properties body) fun other =>
      (broker.arbitratedBy other).accept queue properties body := by
  have hands (other : Arbitration) (consumer : Consumer) :
      (broker.arbitratedBy other).Hands
          ((broker.arbitratedBy other).accept queue properties body)
          (message (broker.accepted + 1) queue properties body) consumer ↔
        (broker.arbitratedBy other).asked? queue = some consumer ∧
          broker.IsHeld consumer.stream :=
    hands_accept_iff properties body
  have stores (other : Arbitration) :
      (broker.arbitratedBy other).Stores
          ((broker.arbitratedBy other).accept queue properties body)
          (message (broker.accepted + 1) queue properties body) ↔
        ∀ consumer, (broker.arbitratedBy other).asked? queue = some consumer →
          ¬ broker.IsHeld consumer.stream :=
    stores_accept_iff properties body
  refine ⟨hands, stores, ?_, ?_⟩
  · simp only [hands]
    constructor
    · intro always
      obtain ⟨consumer, isAsked, -⟩ := always .byConsumerTag
      obtain ⟨entry, member, -, isQueue⟩ := registered_of_asked? isAsked
      refine ⟨⟨entry, member, isQueue⟩, fun entry member isQueue => ?_⟩
      obtain ⟨favourite, isAsked, held⟩ := always (.favouring entry.2)
      rw [← isQueue, asked?_favouring member] at isAsked
      exact Option.some.inj isAsked ▸ held
    · rintro ⟨isConsumed, allLive⟩ other
      obtain ⟨consumer, isAsked⟩ := isConsumed.asked other
      obtain ⟨entry, member, rfl, isQueue⟩ := registered_of_asked? isAsked
      exact ⟨entry.2, isAsked, allLive entry member isQueue⟩
  · simp only [stores]
    constructor
    · intro always entry member isQueue
      exact always (.favouring entry.2) entry.2 (isQueue ▸ asked?_favouring member)
    · intro noneLive other consumer isAsked
      obtain ⟨entry, member, rfl, isQueue⟩ := registered_of_asked? isAsked
      exact noneLive entry member isQueue

end Broker

namespace Event

variable {arbitration : Arbitration} {log : List Event} {event : Event}
variable {queue : String} {delivery : Delivery}

/-- A queue loses its backlog: somebody registers on it and takes it over, or deletes the queue. -/
def Empties (queue : String) (event : Event) : Prop :=
  (∃ place, event.registration? = some (place, queue)) ∨ event.deletion? = some queue

theorem not_empties_of_none
    (noRegistration : event.registration? = none)
    (noDeletion : event.deletion? = none) :
    ¬ event.Empties queue := by
  simp [Empties, noRegistration, noDeletion]

/-- A message that is accepted empties no queue. -/
theorem not_empties_of_message
    {message : String × Properties × List UInt8}
    (isMessage : event.message? = some message) :
    ¬ event.Empties queue := by
  unfold message? at isMessage
  split at isMessage
  · exact not_empties_of_none rfl rfl
  · exact not_empties_of_none rfl rfl
  · cases isMessage

/-- A message is accepted, and no consumer is asked for it that is live. -/
structure Shelves
    (arbitration : Arbitration)
    (before : List Event)
    (queue : String)
    (delivery : Delivery)
    (event : Event) : Prop where
  accepts :
    ∃ properties body,
      event.message? = some (queue, properties, body) ∧
        delivery = upcoming before queue properties body
  noneLive :
    ∀ consumer, asked? arbitration before queue = some consumer →
      ¬ HeldIn before consumer.stream

/-- A message has been shelved, and its queue has kept its backlog since. -/
def Shelved
    (arbitration : Arbitration)
    (log : List Event)
    (queue : String)
    (delivery : Delivery) :
    Prop :=
  ∃ before event after,
    log = before ++ event :: after ∧ event.Shelves arbitration before queue delivery ∧
      ∀ other ∈ after, ¬ other.Empties queue

theorem shelved_concat :
    Shelved arbitration (log ++ [event]) queue delivery ↔
      event.Shelves arbitration log queue delivery ∨
        Shelved arbitration log queue delivery ∧ ¬ event.Empties queue := by
  constructor
  · rintro ⟨before, other, after, split, shelves, kept⟩
    rcases split_concat_cases split with ⟨rfl, rfl, -⟩ | ⟨later, rfl, isLog⟩
    · exact .inl shelves
    · have parts := forall_of_concat kept
      exact .inr ⟨⟨before, other, later, isLog, shelves, parts.1⟩, parts.2⟩
  · rintro (shelves | ⟨⟨before, other, after, rfl, shelves, kept⟩, keeps⟩)
    · exact ⟨log, event, [], rfl, shelves, by simp⟩
    · refine ⟨before, other, after ++ [event], by simp, shelves, fun later member => ?_⟩
      rcases List.mem_append.mp member with wasTold | isLast
      · exact kept later wasTold
      · exact List.mem_singleton.mp isLast ▸ keeps

/-- A message is accepted and shelved while a live consumer of its queue is registered. -/
structure Bypasses
    (arbitration : Arbitration)
    (before : List Event)
    (tag : String)
    (consumer : Consumer)
    (delivery : Delivery)
    (event : Event) : Prop where
  accepts :
    ∃ properties body,
      event.message? = some (consumer.queue, properties, body) ∧
        delivery = upcoming before consumer.queue properties body
  askedDead :
    ∃ dead, asked? arbitration before consumer.queue = some dead ∧
      dead.queue = consumer.queue ∧ ¬ HeldIn before dead.stream
  registered : (tag, consumer) ∈ roster before
  live : HeldIn before consumer.stream

/-- Shelved beside a live consumer, a message bypasses it: one that is dead was asked. -/
theorem Shelves.bypasses
    {tag : String}
    {consumer : Consumer}
    (shelves : event.Shelves arbitration log consumer.queue delivery)
    (registered : (tag, consumer) ∈ roster log)
    (live : HeldIn log consumer.stream) :
    event.Bypasses arbitration log tag consumer delivery := by
  refine ⟨shelves.accepts, ?_, registered, live⟩
  cases isAsked : asked? arbitration log consumer.queue with
  | none => exact absurd rfl (asked?_eq_none_iff.mp isAsked _ registered)
  | some dead =>
      exact ⟨dead, rfl, Broker.queue_of_consumerAmong? isAsked, shelves.noneLive dead isAsked⟩

theorem Bypasses.shelves
    {tag : String}
    {consumer : Consumer}
    (bypasses : event.Bypasses arbitration log tag consumer delivery) :
    event.Shelves arbitration log consumer.queue delivery := by
  obtain ⟨dead, isAsked, -, notHeld⟩ := bypasses.askedDead
  refine ⟨bypasses.accepts, fun consumer isAsked' => ?_⟩
  obtain rfl := Option.some.inj (isAsked.symm.trans isAsked')
  exact notHeld

end Event

/-- A call that deletes a queue leaves it without a backlog. -/
theorem Broker.backlog_perform_of_deletion
    {broker : Broker}
    {call : Call}
    {place : Nat}
    {operation : Operation}
    {queue : String}
    (isDeletion :
      (Event.asked place operation ⟨.transport call, (broker.perform call).1⟩).deletion? =
        some queue) :
    (broker.perform call).2.backlog queue = [] := by
  cases call with
  | delete channel name flags =>
      simp only [perform, onChannel] at isDeletion ⊢
      split
      · next usable =>
          rw [if_pos usable] at isDeletion
          cases isDeletion
          simp [(deletes_delete queue).backlog]
      · next unusable =>
          rw [if_neg unusable] at isDeletion
          cases isDeletion
  | _ => cases isDeletion

/-- Where no message is accepted, backlogs stay as they are but for those that are emptied. -/
theorem Turn.mem_backlog_iff
    {place : Nat}
    {operation : Operation}
    {standing standing' : Standing}
    {broker broker' : Broker}
    {event : Event}
    (turn : Turn place operation standing standing' broker broker' event)
    (noMessage : event.message? = none)
    (deleted : ∀ queue, event.deletion? = some queue → broker'.backlog queue = [])
    (queue : String)
    (delivery : Delivery) :
    delivery ∈ broker'.backlog queue ↔
      delivery ∈ broker.backlog queue ∧ ¬ event.Empties queue := by
  have of_same
      (noRegistration : event.registration? = none)
      (same : broker'.backlog queue = broker.backlog queue) :
      delivery ∈ broker'.backlog queue ↔
        delivery ∈ broker.backlog queue ∧ ¬ event.Empties queue := by
    by_cases isDeletion : event.deletion? = some queue
    · simp [Event.Empties, isDeletion, deleted queue isDeletion]
    · simp [Event.Empties, noRegistration, isDeletion, same]
  cases turn with
  | quiet tells keeps stays => exact of_same tells.registration (keeps.backlog queue)
  | publishes name properties body tells accepts stays noArrival =>
      cases noMessage.symm.trans tells.message
  | deletes name tells isDeletion deletes streams abandoned noArrival =>
      rw [deletes.backlog]
      by_cases same : queue = name
      · simp [Event.Empties, same, isDeletion]
      · simp [Event.Empties, same, Ne.symm same, isDeletion, tells.registration]
  | consumes name stream tells registers isSource free streams abandoned noArrival =>
      rw [registers.backlog]
      by_cases same : queue = name
      · simp [Event.Empties, same, tells.registration]
      · by_cases isDeletion : event.deletion? = some queue
        · have gone := deleted queue isDeletion
          rw [registers.backlog, if_neg same] at gone
          simp [same, gone]
        · simp [Event.Empties, same, Ne.symm same, isDeletion, tells.registration]
  | closes tells replaces keeps streams abandoned noArrival =>
      exact of_same tells.registration (keeps.backlog queue)
  | takes name stream taken rest tells awaits isStream shape isBroker =>
      exact of_same tells.registration (by rw [isBroker]; rfl)
  | ceases name stream arrival tells awaits isStream undelivered shape fed isBroker =>
      exact of_same tells.registration (by rw [isBroker])

namespace Network

variable {network : Network} {arbitration : Arbitration} {event : Event} {broker : Broker}
variable {queue : String} {delivery : Delivery}

/-- Just what was shelved since a queue was last emptied is in its backlog. -/
def Shelved (arbitration : Arbitration) (network : Network) : Prop :=
  ∀ queue delivery,
    delivery ∈ network.broker.backlog queue ↔
      Event.Shelved arbitration network.log queue delivery

/-- Something happens of which the log tells, and it shelves a message or empties a queue. -/
theorem Shelved.tell
    (shelved : network.Shelved arbitration)
    (event : Event)
    (broker : Broker)
    (moves :
      ∀ queue delivery,
        delivery ∈ broker.backlog queue ↔
          event.Shelves arbitration network.log queue delivery ∨
            delivery ∈ network.broker.backlog queue ∧ ¬ event.Empties queue)
    (drawnIds : Nat)
    (parties : List Party) :
    Shelved arbitration ⟨broker, drawnIds, parties, network.log ++ [event]⟩ := by
  intro queue delivery
  rw [moves, shelved, Event.shelved_concat]

/-- Where no message is accepted, none is shelved. -/
theorem Shelved.of_none
    (shelved : network.Shelved arbitration)
    (noMessage : event.message? = none)
    (moves :
      ∀ queue delivery,
        delivery ∈ broker.backlog queue ↔
          delivery ∈ network.broker.backlog queue ∧ ¬ event.Empties queue)
    (drawnIds : Nat)
    (parties : List Party) :
    Shelved arbitration ⟨broker, drawnIds, parties, network.log ++ [event]⟩ := by
  refine shelved.tell event broker (fun queue delivery => ?_) drawnIds parties
  have notShelved : ¬ event.Shelves arbitration network.log queue delivery := by
    rintro ⟨⟨properties, body, isMessage, -⟩, -⟩
    cases noMessage.symm.trans isMessage
  rw [moves, or_iff_right notShelved]

/-- An event that is about no message and no queue leaves all backlogs as they are. -/
theorem Shelved.of_same
    (shelved : network.Shelved arbitration)
    (noMessage : event.message? = none)
    (noRegistration : event.registration? = none)
    (noDeletion : event.deletion? = none)
    (same : ∀ queue, broker.backlog queue = network.broker.backlog queue)
    (drawnIds : Nat)
    (parties : List Party) :
    Shelved arbitration ⟨broker, drawnIds, parties, network.log ++ [event]⟩ := by
  refine shelved.of_none noMessage (fun queue delivery => ?_) drawnIds parties
  simp [same, Event.not_empties_of_none noRegistration noDeletion]

/-- The log tells whether the consumer that is asked is live. -/
theorem Orderly.noneLive_iff (orderly : network.Orderly arbitration) (queue : String) :
    (∀ consumer, network.broker.asked? queue = some consumer →
        ¬ network.broker.IsHeld consumer.stream) ↔
      ∀ consumer, Event.asked? arbitration network.log queue = some consumer →
        ¬ Event.HeldIn network.log consumer.stream := by
  simp only [orderly.asked?_eq, orderly.enrolled.held]

/-- A message that is accepted is shelved if no consumer is asked for it that is live. -/
theorem Shelved.accepts
    (shelved : network.Shelved arbitration)
    (orderly : network.Orderly arbitration)
    {properties : Properties}
    {body : List UInt8}
    (isMessage : event.message? = some (queue, properties, body))
    (queues : broker.queues = (network.broker.accept queue properties body).queues)
    (drawnIds : Nat)
    (parties : List Party) :
    Shelved arbitration ⟨broker, drawnIds, parties, network.log ++ [event]⟩ := by
  refine shelved.tell event broker (fun name found => ?_) drawnIds parties
  have sameBacklog :
      broker.backlog name = (network.broker.accept queue properties body).backlog name := by
    simp [Broker.backlog, queues]
  have keeps : ¬ event.Empties name := Event.not_empties_of_message isMessage
  simp only [sameBacklog, keeps, not_false_eq_true, and_true]
  by_cases noneLive :
      ∀ consumer, Event.asked? arbitration network.log queue = some consumer →
        ¬ Event.HeldIn network.log consumer.stream
  · have stores :=
      Broker.stores_accept ((orderly.noneLive_iff queue).mpr noneLive) properties body
    have isShelved :
        event.Shelves arbitration network.log name found ↔
          name = queue ∧ found = Event.upcoming network.log queue properties body := by
      constructor
      · rintro ⟨⟨properties', body', isMessage', isFound⟩, -⟩
        cases isMessage.symm.trans isMessage'
        exact ⟨rfl, isFound⟩
      · rintro ⟨rfl, rfl⟩
        exact ⟨⟨properties, body, isMessage, rfl⟩, noneLive⟩
    have isUpcoming :
        Broker.message (network.broker.accepted + 1) queue properties body =
          Event.upcoming network.log queue properties body := by
      rw [Event.upcoming, orderly.sound.counted]
    rw [stores.backlog, isShelved, isUpcoming]
    by_cases same : name = queue
    · subst same
      simp [Event.upcoming, Broker.message, Delivery.new, or_comm]
    · simp [Event.upcoming, Broker.message, Delivery.new, same]
  · have notShelved : ¬ event.Shelves arbitration network.log name found := by
      rintro ⟨⟨properties', body', isMessage', -⟩, noneLive'⟩
      cases isMessage.symm.trans isMessage'
      exact noneLive noneLive'
    have live := mt (orderly.noneLive_iff queue).mp noneLive
    simp only [not_forall, not_not] at live
    obtain ⟨consumer, isAsked, held⟩ := live
    rw [(Broker.hands_accept isAsked held properties body).backlog, or_iff_right notShelved]

theorem shelved_exchange
    {place : Nat}
    {operation : Operation}
    {standing : Standing}
    {request : Request}
    {next : request.Answer → Program (Outcome operation.Value)}
    (underway : network.Underway place operation standing (.ask request next))
    (orderly : network.Orderly arbitration)
    (shelved : network.Shelved arbitration)
    (givesNothingUp : ∀ stream, request ≠ .release stream) :
    (network.exchange place operation standing request next).Shelved arbitration := by
  have turn := underway.turn givesNothingUp
  rw [exchange_eq next givesNothingUp]
  cases isMessage :
      (Event.asked place operation ⟨request, network.answer request⟩).message? with
  | none =>
      refine shelved.of_none isMessage (turn.mem_backlog_iff isMessage ?_) _ _
      intro queue isDeletion
      cases request with
      | transport call => exact Broker.backlog_perform_of_deletion isDeletion
      | _ => cases isDeletion
  | some message =>
      obtain ⟨queue, properties, body⟩ := message
      cases request with
      | transport call =>
          exact shelved.accepts orderly isMessage
            (Broker.placed_perform_of_message isMessage).2 _ _
      | _ => cases isMessage

/-- All small steps keep the log telling what is in the backlogs. -/
theorem keeps_shelved (arbitration : Arbitration) :
    Keeps (fun _ => True) (Orderly arbitration) (Shelved arbitration) where
  joined network connection broker client _ _ shelved dialed _ _ :=
    shelved.of_same rfl rfl rfl (Broker.keepsMessages_dial dialed).backlog _ _
  started _ _ _ _ _ _ shelved _ _ := shelved
  exchanged _ _ _ _ _ _ underway orderly shelved givesNothingUp :=
    shelved_exchange underway orderly shelved givesNothingUp
  dropped network place party stream party' _ _ shelved := by
    have same (queue : String) :
        (network.broker.release stream).backlog queue = network.broker.backlog queue := rfl
    exact shelved.of_same rfl rfl rfl same _ _
  finished _ _ _ _ _ _ _ shelved := shelved.of_same rfl rfl rfl (fun _ => rfl) _ _
  leaving _ _ _ _ _ shelved _ _ := shelved.of_same rfl rfl rfl (fun _ => rfl) _ _
  disturbed network disturbance _ orderly shelved _ := by
    rcases network.broker.disturb_cases disturbance with
      ⟨keeps, noMessage⟩ | ⟨queue, properties, body, isMessage, -⟩
    · exact shelved.of_same noMessage rfl rfl keeps.backlog _ _
    · refine shelved.accepts orderly isMessage ?_ _ _
      cases disturbance <;> cases isMessage
      rfl

/-- Along every run the log tells what is in the backlogs. -/
theorem shelved_run (arbitration : Arbitration) (moves : List Move) :
    ((start arbitration).run moves).Shelved arbitration := by
  have orderly : (start arbitration).Orderly arbitration := orderly_run arbitration []
  have shelved : (start arbitration).Shelved arbitration := by
    simp [Shelved, Event.Shelved, start, Broker.empty, Broker.backlog, Dictionary.get?_nil]
  exact
    (((keeps_orderly arbitration).and (keeps_shelved arbitration)).run (by simp [AtRest, start])
      ⟨orderly, shelved⟩ fun _ _ => trivial).2.2

/-- A consumer that is live was so at any time since which nobody has registered on its queue. -/
theorem Enrolled.live_before
    (enrolled : network.Enrolled arbitration)
    {before after : List Event}
    {tag : String}
    {consumer : Consumer}
    (split : network.log = before ++ after)
    (kept : ∀ other ∈ after, ¬ other.Empties consumer.queue)
    (registered : (tag, consumer) ∈ Event.roster network.log)
    (live : Event.HeldIn network.log consumer.stream) :
    (tag, consumer) ∈ Event.roster before ∧ Event.HeldIn before consumer.stream := by
  obtain ⟨opened, registering, rest, splitThere, registers⟩ :=
    Event.registered_of_mem_roster registered
  have empties : registering.Empties consumer.queue :=
    .inl (Event.registration?_of_registers registers)
  -- The registration is none of what has happened since.
  have earlier : ∃ since, before = opened ++ registering :: since ∧ rest = since ++ after := by
    rcases List.append_eq_append_iff.mp (split.symm.trans splitThere) with
      ⟨more, isOpened, isAfter⟩ | ⟨more, isBefore, isRest⟩
    · exact absurd empties (kept registering (by simp [isAfter]))
    · cases more with
      | nil => exact absurd empties (kept registering (by simp at isRest; simp [← isRest]))
      | cons first since =>
          obtain ⟨rfl, rfl⟩ := List.cons.inj isRest
          exact ⟨since, isBefore, rfl⟩
  obtain ⟨since, rfl, rfl⟩ := earlier
  have lasts : Lasts tag consumer.queue consumer.stream (since ++ after) := by
    have splitAll : network.log = opened ++ registering :: ((since ++ after) ++ []) := by
      simp [splitThere]
    refine (enrolled.lasts_iff splitAll registers).mpr ?_
    rw [← splitThere]
    exact ⟨registered, live⟩
  refine (enrolled.lasts_iff splitThere registers).mp fun other member => ?_
  exact lasts other (List.mem_append_left _ member)

/-- What is in the backlog of a queue with a live consumer has bypassed that consumer. -/
theorem Shelved.mem_backlog_iff_bypassed
    (shelved : network.Shelved arbitration)
    (orderly : network.Orderly arbitration)
    {tag : String}
    {consumer : Consumer}
    (registered : (tag, consumer) ∈ network.broker.consumers)
    (live : network.broker.IsHeld consumer.stream)
    (delivery : Delivery) :
    delivery ∈ network.broker.backlog consumer.queue ↔
      ∃ before event after,
        network.log = before ++ event :: after ∧
          event.Bypasses arbitration before tag consumer delivery ∧
            ∀ other ∈ after, ¬ other.Empties consumer.queue := by
  rw [orderly.enrolled.roster] at registered
  rw [orderly.enrolled.held] at live
  rw [shelved]
  constructor
  · rintro ⟨before, event, after, split, shelves, kept⟩
    obtain ⟨properties, body, isMessage, -⟩ := shelves.accepts
    have keptSince : ∀ other ∈ event :: after, ¬ other.Empties consumer.queue :=
      List.forall_mem_cons.mpr ⟨Event.not_empties_of_message isMessage, kept⟩
    obtain ⟨wasRegistered, wasLive⟩ :=
      orderly.enrolled.live_before split keptSince registered live
    exact ⟨before, event, after, split, shelves.bypasses wasRegistered wasLive, kept⟩
  · rintro ⟨before, event, after, split, bypasses, kept⟩
    exact ⟨before, event, after, split, bypasses.shelves, kept⟩

/-- A message that has bypassed a consumer reaches no stream that was open before. -/
theorem Delivers.not_reached_of_bypasses
    (delivers : network.Delivers arbitration)
    {before after : List Event}
    {tag : String}
    {consumer : Consumer}
    (split : network.log = before ++ event :: after)
    (bypasses : event.Bypasses arbitration before tag consumer delivery)
    {stream : Stream}
    (opened : stream.number < (Event.registrations before).length) :
    ¬ network.Reached stream delivery := by
  obtain ⟨properties, body, isMessage, rfl⟩ := bypasses.accepts
  rw [delivers.reached before event after _ properties body stream split isMessage opened]
  rintro ⟨isAsked, held⟩
  exact bypasses.shelves.noneLive _ isAsked held

/--
A message to a queue is handed to the consumer that is asked first if that one is live, and goes to
the backlog if not.  So it is handed over in every order exactly if the queue has consumers and all
of them are live, and goes to the backlog in every order exactly if none is.  Beside a live consumer
just those messages wait in the backlog that have bypassed it since the queue was last emptied, and
what has bypassed a consumer never reaches any stream that was open when it did.
-/
theorem bypassed_behind_dead_consumer
    (arbitration : Arbitration)
    (moves : List Move)
    (queue : String)
    (properties : Properties)
    (body : List UInt8) :
    let network := (start arbitration).run moves
    (network.broker.Routes queue
        (Broker.message (network.broker.accepted + 1) queue properties body) fun other =>
          (network.broker.arbitratedBy other).accept queue properties body) ∧
      (∀ tag consumer,
        (tag, consumer) ∈ network.broker.consumers → consumer.queue = queue →
          network.broker.IsHeld consumer.stream →
            ∀ delivery,
              delivery ∈ network.broker.backlog queue ↔
                ∃ before event after,
                  network.log = before ++ event :: after ∧
                    event.Bypasses arbitration before tag consumer delivery ∧
                      ∀ other ∈ after, ¬ other.Empties queue) ∧
      ∀ before event after tag consumer delivery,
        network.log = before ++ event :: after →
          event.Bypasses arbitration before tag consumer delivery →
            ∀ stream : Stream, stream.number < (Event.registrations before).length →
              ¬ network.Reached stream delivery := by
  intro network
  have orderly : network.Orderly arbitration := orderly_run arbitration moves
  have shelved : network.Shelved arbitration := shelved_run arbitration moves
  have delivers : network.Delivers arbitration := delivers_run arbitration moves
  refine ⟨network.broker.routes queue properties body, ?_, ?_⟩
  · rintro tag consumer registered rfl live delivery
    exact shelved.mem_backlog_iff_bypassed orderly registered live delivery
  · intro before event after tag consumer delivery split bypasses stream opened
    exact delivers.not_reached_of_bypasses split bypasses opened

/-- Of two clients with a consumer on the same queue the first has let its stream go. -/
def bypassing : List Move :=
  [.join "first" (.new "memory"),
    .start 0 .reset,
    .start 0 (.ensureQueue (.new "jobs")),
    .start 0 (.registerConsumer "jobs"),
    .start 0 .reset,
    .join "second" (.new "memory"),
    .start 1 .reset,
    .start 1 (.registerConsumer "jobs"),
    .disturb (.pushRaw "jobs" [1])]

/-- A message waits in the backlog beside a live consumer, and does not reach it. -/
theorem bypassed_beside_live_consumer :
    let network := (start .byConsumerTag).run bypassing
    let message := Broker.message 1 "jobs" .none [1]
    (network.broker.IsConsumed "jobs" ∧ network.broker.IsHeld ⟨1⟩ ∧
        message ∈ network.broker.backlog "jobs") ∧
      (∃ before event after,
        network.log = before ++ event :: after ∧
          event.Bypasses .byConsumerTag before "second" ⟨"jobs", ⟨1⟩⟩ message) ∧
        ¬ network.Reached ⟨1⟩ message := by
  intro network message
  obtain ⟨-, beside, notReached⟩ :=
    bypassed_behind_dead_consumer .byConsumerTag bypassing "jobs" .none [2]
  have registered : ("second", (⟨"jobs", ⟨1⟩⟩ : Consumer)) ∈ network.broker.consumers := by
    decide +kernel
  have live : network.broker.IsHeld ⟨1⟩ := by
    have isLive : network.broker.isLive ⟨"jobs", ⟨1⟩⟩ = true := by decide +kernel
    exact Broker.isLive_iff.mp isLive
  have waits : message ∈ network.broker.backlog "jobs" := by
    decide +kernel
  obtain ⟨before, event, after, split, bypasses, -⟩ :=
    (beside "second" ⟨"jobs", ⟨1⟩⟩ registered rfl live message).mp waits
  refine ⟨⟨⟨_, registered, rfl⟩, live, waits⟩, ⟨before, event, after, split, bypasses⟩, ?_⟩
  exact notReached before event after _ _ message split bypasses ⟨1⟩ bypasses.live.1

end Network

end BrokerClient
