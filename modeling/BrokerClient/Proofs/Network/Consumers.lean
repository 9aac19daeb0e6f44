import BrokerClient.Proofs.Network.Holding
import Mathlib.Data.List.Induction

/-!
# The roster of consumers

Which consumers are registered at a broker, and which streams are held, can be read from the log
alone: consumers are registered and cancelled, go with their queue, or all go at once.  A stream is
held from the registration that opens it until somebody gives it up.  Nothing else that happens
bears on either of them, and closing a channel or a connection does not.
-/

namespace BrokerClient

/-- In a dictionary with its keys in order exactly what is found is there. -/
theorem Dictionary.get?_iff_mem
    {Value : Type}
    {entries : Dictionary Value}
    (rising : Rising entries)
    {key : String}
    {value : Value} :
    entries.get? key = some value ↔ (key, value) ∈ entries :=
  ⟨mem_of_get?, get?_of_mem rising⟩

/-- What happens to the consumers that are registered. -/
inductive RosterChange where
  | registers (tag : String) (consumer : Consumer)
  | cancels (tag : String)
  /-- A queue is deleted, and its consumers go with it. -/
  | deletes (queue : String)
  /-- All consumers go. -/
  | drops

namespace RosterChange

/-- The consumers behind a change. -/
def apply (consumers : Dictionary Consumer) : RosterChange → Dictionary Consumer
  | .registers tag consumer => consumers.insert tag consumer
  | .cancels tag => consumers.erase tag
  | .deletes queue => consumers.filter fun entry => entry.2.queue ≠ queue
  | .drops => []

/-- No consumer of a queue that is registered under a tag outlasts a change. -/
def Ends (tag queue : String) : RosterChange → Prop
  | .registers other _ => other = tag
  | .cancels other => other = tag
  | .deletes other => other = queue
  | .drops => True

variable {consumers : Dictionary Consumer} {change : RosterChange}

theorem rising_apply
    (rising : Dictionary.Rising consumers)
    (change : RosterChange) :
    Dictionary.Rising (change.apply consumers) := by
  cases change with
  | registers tag consumer => exact Dictionary.rising_insert rising tag consumer
  | cancels tag => exact Dictionary.rising_erase rising tag
  | deletes queue => exact rising.sublist (List.filter_sublist.map Prod.fst)
  | drops => exact List.Pairwise.nil

/-- A consumer outlasts a change that does not end it, and none that registers another brings it. -/
theorem mem_apply_iff
    (rising : Dictionary.Rising consumers)
    {tag : String}
    {consumer : Consumer}
    (another : ∀ name found, change = .registers name found → found ≠ consumer) :
    (tag, consumer) ∈ change.apply consumers ↔
      (tag, consumer) ∈ consumers ∧ ¬ change.Ends tag consumer.queue := by
  cases change with
  | registers name found =>
      have differs := another name found rfl
      have rises := Dictionary.rising_insert rising name found
      simp only [apply, Ends, ← Dictionary.get?_iff_mem rises, ← Dictionary.get?_iff_mem rising]
      by_cases same : tag = name
      · simp [same, differs]
      · simp [Dictionary.get?_insert_other _ _ same, Ne.symm same]
  | cancels name => simp [apply, Ends, Dictionary.erase, @eq_comm String name tag]
  | deletes queue => simp [apply, Ends, @eq_comm String queue consumer.queue]
  | drops => simp [apply, Ends]

/-- A consumer outlasts changes if none of them ends it. -/
theorem mem_foldl_apply_iff
    {changes : List RosterChange}
    (rising : Dictionary.Rising consumers)
    {tag : String}
    {consumer : Consumer}
    (others :
      ∀ change ∈ changes, ∀ name found, change = .registers name found → found ≠ consumer) :
    (tag, consumer) ∈ changes.foldl apply consumers ↔
      (tag, consumer) ∈ consumers ∧ ∀ change ∈ changes, ¬ change.Ends tag consumer.queue := by
  induction changes generalizing consumers with
  | nil => simp
  | cons change rest inductionHypothesis =>
      rw [List.foldl_cons, inductionHypothesis (rising_apply rising change) fun other member =>
          others other (List.mem_cons_of_mem _ member),
        mem_apply_iff rising (others change (by simp))]
      simp [and_assoc]

theorem rising_foldl_apply
    (rising : Dictionary.Rising consumers)
    (changes : List RosterChange) :
    Dictionary.Rising (changes.foldl apply consumers) := by
  induction changes generalizing consumers with
  | nil => exact rising
  | cons change rest inductionHypothesis => exact inductionHypothesis (rising_apply rising change)

end RosterChange

namespace Event

/-- The change of the roster that an event tells of. -/
def rosterChange? : Event → Option RosterChange
  | .asked _ _ ⟨.transport (.consume _ queue tag _), .ok stream⟩ =>
      some (.registers tag ⟨queue, stream⟩)
  | .asked _ _ ⟨.transport (.cancel _ tag _), .ok _⟩ => some (.cancels tag)
  | .asked _ _ ⟨.transport (.delete _ queue _), .ok _⟩ => some (.deletes queue)
  | .disturbed .dropConsumers => some .drops
  | .disturbed .dropConnections => some .drops
  | _ => none

/-- The consumers that are registered at the end of a log, by tag. -/
def roster (log : List Event) : Dictionary Consumer :=
  (log.filterMap rosterChange?).foldl RosterChange.apply []

/-- An event is the end of the consumer of a queue that is registered under a tag. -/
def EndsConsumer (tag queue : String) (event : Event) : Prop :=
  ∃ change, event.rosterChange? = some change ∧ change.Ends tag queue

/-- A stream is given up. -/
def GivesUp (stream : Stream) (event : Event) : Prop :=
  ∃ place unread, event = .gaveUp place stream unread

/-- A stream was opened and is held at the end of a log. -/
def HeldIn (log : List Event) (stream : Stream) : Prop :=
  stream.number < (registrations log).length ∧ ∀ event ∈ log, ¬ event.GivesUp stream

variable {log : List Event} {event : Event} {stream : Stream}

theorem roster_concat_of_none (noChange : event.rosterChange? = none) :
    roster (log ++ [event]) = roster log := by
  simp [roster, noChange]

theorem roster_concat_of_some
    {change : RosterChange}
    (isChange : event.rosterChange? = some change) :
    roster (log ++ [event]) = change.apply (roster log) := by
  simp [roster, isChange]

/-- A consumer of the roster was registered at some time. -/
theorem registered_of_mem_roster
    {tag : String}
    {consumer : Consumer}
    (member : (tag, consumer) ∈ roster log) :
    ∃ before event after,
      log = before ++ event :: after ∧ event.rosterChange? = some (.registers tag consumer) := by
  induction log using List.reverseRecOn with
  | nil => cases member
  | append_singleton log event inductionHypothesis =>
      have carryOn (wasThere : (tag, consumer) ∈ roster log) :
          ∃ before other after,
            log ++ [event] = before ++ other :: after ∧
              other.rosterChange? = some (.registers tag consumer) := by
        obtain ⟨before, other, after, split, isChange⟩ := inductionHypothesis wasThere
        exact ⟨before, other, after ++ [event], by simp [split], isChange⟩
      cases isChange : event.rosterChange? with
      | none => exact carryOn (roster_concat_of_none isChange ▸ member)
      | some change =>
          rw [roster_concat_of_some isChange] at member
          cases change with
          | registers name found =>
              rcases Dictionary.mem_of_mem_insert member with isNew | wasThere
              · cases isNew
                exact ⟨log, event, [], rfl, isChange⟩
              · exact carryOn wasThere
          | cancels name => exact carryOn (List.mem_filter.mp member).1
          | deletes queue => exact carryOn (List.mem_filter.mp member).1
          | drops => cases member

/-- A registration that the roster tells of is one that opens a stream. -/
theorem registration?_of_registers
    {tag : String}
    {consumer : Consumer}
    (isChange : event.rosterChange? = some (.registers tag consumer)) :
    ∃ place, event.registration? = some (place, consumer.queue) := by
  unfold rosterChange? at isChange
  split at isChange
  · cases isChange
    exact ⟨_, rfl⟩
  all_goals cases isChange

/-- What is given up last is no longer held, and nothing else changes with that. -/
theorem heldIn_concat
    (noRegistration : event.registration? = none) :
    HeldIn (log ++ [event]) stream ↔ HeldIn log stream ∧ ¬ event.GivesUp stream := by
  simp only [HeldIn, registrations_concat, noRegistration, Option.toList_none, List.append_nil]
  constructor
  · rintro ⟨opened, held⟩
    have parts := forall_of_concat held
    exact ⟨⟨opened, parts.1⟩, parts.2⟩
  · rintro ⟨⟨opened, held⟩, lastKeeps⟩
    refine ⟨opened, fun other member => ?_⟩
    rcases List.mem_append.mp member with wasTold | isLast
    · exact held other wasTold
    · exact List.mem_singleton.mp isLast ▸ lastKeeps

/-- A registration opens the next stream, which nobody has given up. -/
theorem heldIn_concat_of_registration
    (isRegistration : event.registration?.isSome = true)
    (known : ∀ other ∈ log, other.GivesUp stream → stream.number < (registrations log).length) :
    HeldIn (log ++ [event]) stream ↔
      HeldIn log stream ∨ stream = ⟨(registrations log).length⟩ := by
  obtain ⟨registration, isSome⟩ := Option.isSome_iff_exists.mp isRegistration
  have keeps : ¬ event.GivesUp stream := by
    rintro ⟨place, unread, rfl⟩
    cases isSome
  have isNext :
      stream = ⟨(registrations log).length⟩ ↔ stream.number = (registrations log).length := by
    cases stream
    simp
  simp only [HeldIn, registrations_concat, isSome, Option.toList_some, List.length_append,
    List.length_singleton, isNext]
  constructor
  · rintro ⟨opened, held⟩
    rcases Nat.lt_succ_iff_lt_or_eq.mp opened with before | isLast
    · exact .inl ⟨before, (forall_of_concat held).1⟩
    · exact .inr isLast
  · intro held
    have opened : stream.number < (registrations log).length + 1 := by omega
    refine ⟨opened, fun other member => ?_⟩
    rcases List.mem_append.mp member with wasTold | isLast
    · rcases held with held | isLast
      · exact held.2 other wasTold
      · exact fun givesUp => absurd (known other wasTold givesUp) (by omega)
    · exact List.mem_singleton.mp isLast ▸ keeps

end Event

namespace Broker

variable {broker : Broker}

/-- What a call does to the consumers, and what it answers, tell the same. -/
theorem consumers_perform (call : Call) (place : Nat) (operation : Operation) :
    (broker.perform call).2.consumers =
      ((Event.asked place operation ⟨.transport call, (broker.perform call).1⟩).rosterChange?.map
        (RosterChange.apply broker.consumers)).getD broker.consumers := by
  cases call with
  | dial url =>
      simp only [perform, dial]
      split <;> rfl
  | openChannel connection =>
      simp only [perform, openChannel]
      split <;> rfl
  | closeConnection connection => rfl
  | closeChannel channel => rfl
  | qos channel prefetchCount global =>
      simp only [perform, onChannel]
      split <;> rfl
  | declare channel queue flags arguments =>
      simp only [perform, onChannel, declare]
      split
      · split <;> rfl
      · rfl
  | delete channel queue flags =>
      simp only [perform, onChannel]
      split <;> rfl
  | publish channel publication =>
      simp only [perform, onChannel]
      split
      · exact (accepts_publish publication).consumers
      · rfl
  | consume channel queue tag flags =>
      simp only [perform, onChannel, consume]
      split
      · split <;> rfl
      · rfl
  | cancel channel tag nowait =>
      simp only [perform, onChannel]
      split <;> rfl

theorem consumers_disturb (disturbance : Disturbance) :
    (broker.disturb disturbance).consumers =
      ((Event.disturbed disturbance).rosterChange?.map
        (RosterChange.apply broker.consumers)).getD broker.consumers := by
  cases disturbance with
  | pushRaw queue body => exact (accepts_accept queue .none body).consumers
  | settle delivery settlement =>
      simp only [disturb, settle]
      split
      · cases settlement <;> rfl
      · rfl
  | _ => rfl

/-- A consumer that registers gets a stream that was not opened before. -/
theorem stream_of_registers
    {call : Call}
    {place : Nat}
    {operation : Operation}
    {tag : String}
    {consumer : Consumer}
    (isChange :
      (Event.asked place operation ⟨.transport call, (broker.perform call).1⟩).rosterChange? =
        some (.registers tag consumer)) :
    consumer.stream.number = broker.feeds.length := by
  cases call with
  | consume channel queue name flags =>
      simp only [perform, onChannel, consume] at isChange
      split at isChange
      · split at isChange
        · cases isChange
        · cases isChange
          rfl
      · cases isChange
  | cancel channel name nowait =>
      simp only [perform, onChannel] at isChange
      split at isChange <;> cases isChange
  | delete channel queue flags =>
      simp only [perform, onChannel] at isChange
      split at isChange <;> cases isChange
  | _ => cases isChange

theorem arbitration_accept (queue : String) (properties : Properties) (body : List UInt8) :
    (broker.accept queue properties body).arbitration = broker.arbitration := by
  obtain ⟨queues, feeds, accepted⟩ := broker.accept_eq queue properties body
  rw [accepted]

/-- No call changes how the broker chooses between consumers. -/
theorem arbitration_perform (call : Call) :
    (broker.perform call).2.arbitration = broker.arbitration := by
  cases call with
  | dial url =>
      simp only [perform, dial]
      split <;> rfl
  | openChannel connection =>
      simp only [perform, openChannel]
      split <;> rfl
  | closeConnection connection => rfl
  | closeChannel channel => rfl
  | publish channel publication =>
      simp only [perform, onChannel]
      split
      · exact arbitration_accept _ _ _
      · rfl
  | declare channel queue flags arguments =>
      simp only [perform, onChannel, declare]
      split
      · split <;> rfl
      · rfl
  | consume channel queue tag flags =>
      simp only [perform, onChannel, consume]
      split
      · split <;> rfl
      · rfl
  | _ =>
      simp only [perform, onChannel]
      split <;> rfl

theorem arbitration_disturb (disturbance : Disturbance) :
    (broker.disturb disturbance).arbitration = broker.arbitration := by
  cases disturbance with
  | pushRaw queue body => exact arbitration_accept queue .none body
  | settle delivery settlement =>
      simp only [disturb, settle]
      split
      · cases settlement <;> rfl
      · rfl
  | _ => rfl

/-- Messages that are accepted leave all streams held that are, and no others. -/
theorem Accepts.isHeld_iff
    {broker' : Broker}
    {delivery : Delivery}
    (accepts : broker.Accepts broker' delivery)
    (stream : Stream) :
    broker'.IsHeld stream ↔ broker.IsHeld stream := by
  rcases accepts.goes with ⟨consumer, hands⟩ | stores
  · exact hands.isHeld_iff
  · exact isHeld_of_feeds stores.feeds stream

end Broker

/-- Only a registration opens a stream, and but for that the same streams are held. -/
theorem Turn.isHeld_iff
    {place : Nat}
    {operation : Operation}
    {standing standing' : Standing}
    {broker broker' : Broker}
    {event : Event}
    (turn : Turn place operation standing standing' broker broker' event)
    (stream : Stream) :
    broker'.IsHeld stream ↔
      broker.IsHeld stream ∨
        event.registration?.isSome = true ∧ stream = ⟨broker.feeds.length⟩ := by
  cases turn with
  | quiet tells keeps stays =>
      simp [tells.registration, Broker.isHeld_of_feeds keeps.feeds]
  | publishes queue properties body tells accepts stays noArrival =>
      simp [tells.registration, accepts.isHeld_iff]
  | deletes queue tells isDeletion deletes streams abandoned noArrival =>
      simp [tells.registration, Broker.isHeld_of_feeds deletes.feeds]
  | consumes queue opened tells registers isSource free streams abandoned noArrival =>
      rw [registers.isHeld_iff, or_comm, registers.isStream]
      simp [tells.registration]
  | closes tells replaces keeps streams abandoned noArrival =>
      simp [tells.registration, Broker.isHeld_of_feeds keeps.feeds]
  | takes queue taken delivery rest tells awaits isStream shape isBroker streams abandoned
      noArrival arrival =>
      subst isBroker
      simp [tells.registration, Broker.isHeld_modifyFeed fun _ => rest]
  | ceases queue ceased arrival tells awaits isStream undelivered shape fed isBroker streams
      abandoned noArrival isArrival =>
      simp [tells.registration, isBroker]

namespace Network

/-- The broker's consumers and the streams that are held are those that the log tells of. -/
structure Enrolled (arbitration : Arbitration) (network : Network) : Prop where
  arbitration : network.broker.arbitration = arbitration
  roster : network.broker.consumers = Event.roster network.log
  held : ∀ stream, network.broker.IsHeld stream ↔ Event.HeldIn network.log stream
  givenUp :
    ∀ before event after stream,
      network.log = before ++ event :: after → event.GivesUp stream →
        stream.number < (Event.registrations before).length
  numbered :
    ∀ before event after tag consumer,
      network.log = before ++ event :: after →
        event.rosterChange? = some (.registers tag consumer) →
          consumer.stream.number = (Event.registrations before).length

variable {network : Network} {arbitration : Arbitration}

/-- Only streams that were opened are given up. -/
theorem Enrolled.opened_of_givesUp
    (enrolled : network.Enrolled arbitration)
    {event : Event}
    {stream : Stream}
    (member : event ∈ network.log)
    (givesUp : event.GivesUp stream) :
    stream.number < (Event.registrations network.log).length := by
  obtain ⟨before, after, split⟩ := List.append_of_mem member
  have opened := enrolled.givenUp before event after stream split givesUp
  rw [split, Event.registrations, List.filterMap_append, List.length_append]
  exact Nat.lt_of_lt_of_le opened (Nat.le_add_right _ _)

/-- The log goes on with an event, and the broker with what it tells of. -/
theorem Enrolled.tell
    (enrolled : network.Enrolled arbitration)
    (event : Event)
    (broker : Broker)
    (sameArbitration : broker.arbitration = network.broker.arbitration)
    (roster :
      broker.consumers =
        (event.rosterChange?.map (RosterChange.apply network.broker.consumers)).getD
          network.broker.consumers)
    (held : ∀ stream, broker.IsHeld stream ↔ Event.HeldIn (network.log ++ [event]) stream)
    (givenUp :
      ∀ stream, event.GivesUp stream →
        stream.number < (Event.registrations network.log).length)
    (numbered :
      ∀ tag consumer, event.rosterChange? = some (.registers tag consumer) →
        consumer.stream.number = (Event.registrations network.log).length)
    (drawnIds : Nat)
    (parties : List Party) :
    Enrolled arbitration ⟨broker, drawnIds, parties, network.log ++ [event]⟩ where
  arbitration := sameArbitration.trans enrolled.arbitration
  roster := by
    rw [roster, enrolled.roster]
    cases isChange : event.rosterChange? with
    | none => exact (Event.roster_concat_of_none isChange).symm
    | some change => exact (Event.roster_concat_of_some isChange).symm
  held := held
  givenUp before other after stream split givesUp := by
    rcases Event.split_concat split with ⟨rfl, rfl⟩ | ⟨after, split⟩
    · exact givenUp stream givesUp
    · exact enrolled.givenUp before other after stream split givesUp
  numbered before other after tag consumer split isChange := by
    rcases Event.split_concat split with ⟨rfl, rfl⟩ | ⟨after, split⟩
    · exact numbered tag consumer isChange
    · exact enrolled.numbered before other after tag consumer split isChange

/-- An event that bears on no consumer and no stream changes nothing about them. -/
theorem Enrolled.of_none
    (enrolled : network.Enrolled arbitration)
    {event : Event}
    {broker : Broker}
    (noChange : event.rosterChange? = none)
    (noRegistration : event.registration? = none)
    (keeps : ∀ stream, ¬ event.GivesUp stream)
    (sameArbitration : broker.arbitration = network.broker.arbitration)
    (sameConsumers : broker.consumers = network.broker.consumers)
    (sameHeld : ∀ stream, broker.IsHeld stream ↔ network.broker.IsHeld stream)
    (drawnIds : Nat)
    (parties : List Party) :
    Enrolled arbitration ⟨broker, drawnIds, parties, network.log ++ [event]⟩ := by
  refine enrolled.tell event broker sameArbitration (by simp [noChange, sameConsumers])
    (fun stream => ?_) (fun stream givesUp => absurd givesUp (keeps stream)) (by simp [noChange])
    drawnIds parties
  rw [Event.heldIn_concat noRegistration, ← enrolled.held, sameHeld]
  simp [keeps stream]

theorem enrolled_exchange
    {place : Nat}
    {operation : Operation}
    {standing : Standing}
    {request : Request}
    {next : request.Answer → Program (Outcome operation.Value)}
    (underway : network.Underway place operation standing (.ask request next))
    (sound : network.Sound)
    (enrolled : network.Enrolled arbitration)
    (givesNothingUp : ∀ stream, request ≠ .release stream) :
    (network.exchange place operation standing request next).Enrolled arbitration := by
  have turn := underway.turn givesNothingUp
  have counted := sound.holding.counted
  rw [exchange_eq next givesNothingUp]
  have keeps (stream : Stream) :
      ¬ (Event.asked place operation ⟨request, network.answer request⟩).GivesUp stream := by
    rintro ⟨_, _, isGaveUp⟩
    cases isGaveUp
  have held (stream : Stream) :
      (network.brokerAfter request).IsHeld stream ↔
        Event.HeldIn
          (network.log ++ [.asked place operation ⟨request, network.answer request⟩]) stream := by
    rw [turn.isHeld_iff, enrolled.held, ← counted]
    cases isRegistration :
        (Event.asked place operation ⟨request, network.answer request⟩).registration? with
    | none => simp [Event.heldIn_concat isRegistration, keeps stream]
    | some registration =>
        rw [Event.heldIn_concat_of_registration (by simp [isRegistration]) fun other member =>
          enrolled.opened_of_givesUp member]
        simp
  refine enrolled.tell _ _ ?_ ?_ held (fun stream givesUp => absurd givesUp (keeps stream)) ?_ _ _
  · cases request with
    | transport call => exact Broker.arbitration_perform call
    | next stream timeout =>
        simp only [brokerAfter]
        split
        · next polled =>
            obtain ⟨rest, -, rfl⟩ := Broker.poll_item polled
            rfl
        · rfl
    | release stream => exact absurd rfl (givesNothingUp stream)
    | _ => rfl
  · cases request with
    | transport call => exact Broker.consumers_perform call place operation
    | next stream timeout =>
        simp only [brokerAfter]
        split
        · next polled =>
            obtain ⟨rest, -, rfl⟩ := Broker.poll_item polled
            rfl
        · rfl
    | release stream => exact absurd rfl (givesNothingUp stream)
    | _ => rfl
  · intro tag consumer isChange
    cases request with
    | transport call => exact (Broker.stream_of_registers isChange).trans counted.symm
    | _ => cases isChange

/-- All small steps keep the log telling of consumers and streams. -/
theorem keeps_enrolled (arbitration : Arbitration) :
    Keeps (fun _ => True) Sound (Enrolled arbitration) where
  joined network connection broker client _ _ enrolled dialed _ _ := by
    have keeps := Broker.keepsMessages_dial dialed
    have frame : broker.arbitration = network.broker.arbitration ∧
        broker.consumers = network.broker.consumers := by
      unfold Broker.dial at dialed
      split at dialed
      · cases dialed
      · cases dialed
        exact ⟨rfl, rfl⟩
    exact enrolled.of_none rfl rfl (by rintro stream ⟨_, _, isGaveUp⟩; cases isGaveUp) frame.1
      frame.2 (Broker.isHeld_of_feeds keeps.feeds) _ _
  started _ _ _ _ _ _ enrolled _ _ := ⟨enrolled.1, enrolled.2, enrolled.3, enrolled.4, enrolled.5⟩
  exchanged _ _ _ _ _ _ underway sound enrolled givesNothingUp :=
    enrolled_exchange underway sound enrolled givesNothingUp
  dropped network place party stream party' givesUp sound enrolled := by
    refine
      enrolled.tell (.gaveUp place stream (network.broker.buffer stream))
        (network.broker.release stream) rfl rfl (fun other => ?_) ?_ ?_ _ _
    · rw [Event.heldIn_concat rfl, ← enrolled.held, Broker.isHeld_release, and_comm, Ne, eq_comm]
      simp [Event.GivesUp]
    · rintro other ⟨_, _, isGaveUp⟩
      cases isGaveUp
      have owned := sound.holding.owners place party givesUp.seated
      obtain ⟨⟨queue, opened⟩, -⟩ := owned.abandoned stream (by simp [givesUp.first])
      exact (List.getElem?_eq_some_iff.mp opened).1
    · intro tag consumer isChange
      cases isChange
  finished _ _ _ _ _ _ _ enrolled :=
    enrolled.of_none rfl rfl (by rintro stream ⟨_, _, isGaveUp⟩; cases isGaveUp) rfl rfl
      (fun _ => Iff.rfl) _ _
  leaving _ _ _ _ _ enrolled _ _ :=
    enrolled.of_none rfl rfl (by rintro stream ⟨_, _, isGaveUp⟩; cases isGaveUp) rfl rfl
      (fun _ => Iff.rfl) _ _
  disturbed network disturbance _ _ enrolled _ := by
    have keeps (stream : Stream) : ¬ (Event.disturbed disturbance).GivesUp stream := by
      rintro ⟨_, _, isGaveUp⟩
      cases isGaveUp
    refine enrolled.tell _ _ (Broker.arbitration_disturb disturbance)
      (Broker.consumers_disturb disturbance) (fun stream => ?_)
      (fun stream givesUp => absurd givesUp (keeps stream)) ?_ _ _
    · rw [Event.heldIn_concat rfl, ← enrolled.held]
      rcases network.broker.disturb_cases disturbance with
        ⟨keepsMessages, -⟩ | ⟨queue, properties, body, -, accepts⟩
      · simp [Broker.isHeld_of_feeds keepsMessages.feeds, keeps stream]
      · simp [accepts.isHeld_iff, keeps stream]
    · intro tag consumer isChange
      cases disturbance <;> cases isChange

/-- Along every run consumers and streams are those that the log tells of. -/
theorem enrolled_run (arbitration : Arbitration) (moves : List Move) :
    ((start arbitration).run moves).Enrolled arbitration := by
  have keeps := keeps_sound.and (keeps_enrolled arbitration)
  refine (keeps.run (by simp [AtRest, start]) ⟨sound_start arbitration, ?_⟩ fun _ _ => trivial).2.2
  refine ⟨rfl, rfl, fun stream => ?_, ?_, ?_⟩
  · simp [start, Broker.empty, Broker.IsHeld, Broker.feed?, Event.HeldIn, Event.registrations]
  · intro before event after stream split
    simp [start] at split
  · intro before event after tag consumer split
    simp [start] at split

/-- Every stream is opened by one registration. -/
theorem Enrolled.registered_once
    (enrolled : network.Enrolled arbitration)
    {before before' after after' : List Event}
    {event event' : Event}
    {tag tag' : String}
    {consumer consumer' : Consumer}
    (split : network.log = before ++ event :: after)
    (split' : network.log = before' ++ event' :: after')
    (isChange : event.rosterChange? = some (.registers tag consumer))
    (isChange' : event'.rosterChange? = some (.registers tag' consumer'))
    (sameStream : consumer.stream = consumer'.stream) :
    before = before' ∧ event = event' := by
  have counts :
      (Event.registrations before).length = (Event.registrations before').length := by
    rw [← enrolled.numbered before event after tag consumer split isChange,
      ← enrolled.numbered before' event' after' tag' consumer' split' isChange', sameStream]
  -- Were one registration behind the other, there would be one more before it.
  have notLater
      {first second rest : List Event}
      {other : Event}
      {name : String}
      {found : Consumer}
      (isRegistration : other.rosterChange? = some (.registers name found))
      (later : second = first ++ other :: rest) :
      (Event.registrations first).length < (Event.registrations second).length := by
    obtain ⟨place, isSome⟩ := Event.registration?_of_registers isRegistration
    simp only [later, Event.registrations, List.filterMap_append, List.filterMap_cons, isSome,
      List.length_append, List.length_cons]
    omega
  rw [split] at split'
  rcases List.append_eq_append_iff.mp split' with
    ⟨more, isBefore', isRest⟩ | ⟨more, isBefore, isRest⟩
  · cases more with
    | nil =>
        simp only [List.nil_append, List.cons.injEq] at isRest
        exact ⟨by simpa using isBefore'.symm, isRest.1⟩
    | cons first rest =>
        obtain ⟨rfl, -⟩ := List.cons.inj isRest
        exact absurd counts (Nat.ne_of_lt (notLater isChange isBefore'))
  · cases more with
    | nil =>
        simp only [List.nil_append, List.cons.injEq] at isRest
        exact ⟨by simpa using isBefore, isRest.1.symm⟩
    | cons first rest =>
        obtain ⟨rfl, -⟩ := List.cons.inj isRest
        exact absurd counts (Nat.ne_of_gt (notLater isChange' isBefore))

/-- A consumer that was registered is on the roster as long as nothing ends it. -/
theorem Enrolled.mem_roster_iff
    (enrolled : network.Enrolled arbitration)
    {opened since after : List Event}
    {event : Event}
    {tag : String}
    {consumer : Consumer}
    (split : network.log = opened ++ event :: (since ++ after))
    (isChange : event.rosterChange? = some (.registers tag consumer)) :
    (tag, consumer) ∈ Event.roster (opened ++ event :: since) ↔
      ∀ other ∈ since, ¬ other.EndsConsumer tag consumer.queue := by
  have noneYet : Dictionary.Rising ([] : Dictionary Consumer) := List.Pairwise.nil
  have rising : Dictionary.Rising (Event.roster opened) :=
    RosterChange.rising_foldl_apply noneYet _
  have others :
      ∀ change ∈ since.filterMap Event.rosterChange?, ∀ name found,
        change = .registers name found → found ≠ consumer := by
    rintro change member name found rfl rfl
    obtain ⟨other, isOther, isRegistration⟩ := List.mem_filterMap.mp member
    obtain ⟨first, rest, rfl⟩ := List.append_of_mem isOther
    have again :
        network.log = (opened ++ event :: first) ++ other :: (rest ++ after) := by
      simp [split]
    have same := (enrolled.registered_once split again isChange isRegistration rfl).1
    have lengths := congrArg List.length same
    simp at lengths
  have isRoster :
      Event.roster (opened ++ event :: since) =
        (since.filterMap Event.rosterChange?).foldl RosterChange.apply
          ((Event.roster opened).insert tag consumer) := by
    simp [Event.roster, isChange, RosterChange.apply]
  have rises := Dictionary.rising_insert rising tag consumer
  rw [isRoster, RosterChange.mem_foldl_apply_iff rises others]
  have isThere : (tag, consumer) ∈ (Event.roster opened).insert tag consumer :=
    Dictionary.mem_of_get? (Dictionary.get?_insert_same _ _ _)
  simp only [isThere, true_and, Event.EndsConsumer, List.mem_filterMap]
  constructor
  · rintro lasts other member ⟨change, isOther, ends⟩
    exact lasts change ⟨other, member, isOther⟩ ends
  · rintro lasts change ⟨other, member, isOther⟩ ends
    exact lasts other member ⟨change, isOther, ends⟩

end Network

end BrokerClient
