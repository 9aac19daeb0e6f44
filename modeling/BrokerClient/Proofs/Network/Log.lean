import BrokerClient.Proofs.Network.Run

/-!
# What the log says about messages

The messages that the broker accepted are told in the order in which it did, so their tags count
from one.  From the same log one reads who registered for which stream, what has arrived where,
what was handed out to callers and what was lost with the streams that were given up.
-/

namespace BrokerClient

namespace Event

/-- The message that the broker accepts: its queue, properties and body. -/
def message? : Event → Option (String × Properties × List UInt8)
  | .asked _ _ ⟨.transport (.publish _ publication), .ok _⟩ =>
      some (publication.routingKey, publication.properties, publication.body)
  | .disturbed (.pushRaw queue body) => some (queue, .none, body)
  | _ => none

/-- The party that registers a consumer, and the queue. -/
def registration? : Event → Option (Nat × String)
  | .asked place _ ⟨.transport (.consume _ queue _ _), .ok _⟩ => some (place, queue)
  | _ => none

/--
The party that registers a consumer without waiting for a delivery then, and the queue.  No caller
is offered that; a client registers where it is about to wait and has no stream.
-/
def directRegistration? : Event → Option (Nat × String)
  | .asked place operation ⟨.transport (.consume _ queue _ _), .ok _⟩ =>
      if operation.awaited? = none then some (place, queue) else none
  | _ => none

/-- The party that is reached by a delivery, the queue that it waits for, and the delivery. -/
def arrival? : Event → Option (Nat × String × Delivery)
  | .asked place operation ⟨.next _ _, .item (.ok delivery)⟩ =>
      operation.awaited?.map fun queue => (place, queue, delivery)
  | _ => none

/-- The party that is handed a delivery, the queue that it received from, and the delivery. -/
def handedOut? : Event → Option (Nat × String × Delivery)
  | .finished place operation outcome =>
      match operation.awaited?, operation.delivered? outcome with
      | some queue, some delivery => some (place, queue, delivery)
      | _, _ => none
  | _ => none

/-- The party whose wait is over without a message, and the queue that it has waited for. -/
def vain? : Event → Option (Nat × String)
  | .finished place operation outcome =>
      match operation.awaited?, operation.waitFailure? outcome with
      | some queue, some (.noMessage _) => some (place, queue)
      | _, _ => none
  | _ => none

/-- What is lost with a stream that is given up. -/
def unread : Event → List Delivery
  | .gaveUp _ _ deliveries => deliveries
  | _ => []

/-- The queue that is deleted. -/
def deletion? : Event → Option String
  | .asked _ _ ⟨.transport (.delete _ queue _), .ok _⟩ => some queue
  | _ => none

/-- The party that closes its channel to make room for another. -/
def replacement? : Event → Option Nat
  | .asked place operation ⟨.transport (.closeChannel _), _⟩ =>
      if operation.isClose then none else some place
  | _ => none

/-- The party that leaves. -/
def departure? : Event → Option Nat
  | .leaving place => some place
  | _ => none

/-- The messages that the broker has accepted, with their tags. -/
def accepted (log : List Event) : List Delivery :=
  (log.filterMap message?).mapIdx fun index message =>
    Broker.message (index + 1) message.1 message.2.1 message.2.2

/-- The messages that the broker has accepted for a queue. -/
def acceptedFor (queue : String) (log : List Event) : List Delivery :=
  (accepted log).filter fun delivery => delivery.routingKey = queue

/-- The registrations, in the order of the streams that they opened. -/
def registrations (log : List Event) : List (Nat × String) :=
  log.filterMap registration?

/-- All arrivals. -/
def arrivals (log : List Event) : List (Nat × String × Delivery) :=
  log.filterMap arrival?

/-- All deliveries that were handed out. -/
def handedOut (log : List Event) : List (Nat × String × Delivery) :=
  log.filterMap handedOut?

/-- The deliveries to one party for one queue. -/
def toParty
    (place : Nat)
    (queue : String)
    (deliveries : List (Nat × String × Delivery)) :
    List Delivery :=
  deliveries.filterMap fun entry =>
    if entry.1 = place ∧ entry.2.1 = queue then some entry.2.2 else none

/-- What was handed out by the receives of one party from one queue. -/
def handedOutBy (place : Nat) (queue : String) (log : List Event) : List Delivery :=
  toParty place queue (handedOut log)

/-- Everything that was lost with streams that were given up. -/
def lost (log : List Event) : List Delivery :=
  log.flatMap unread

section

variable {log : List Event} {event : Event}

/-- What is true of all events up to the last is true of those before it. -/
theorem forall_of_concat
    {meets : Event → Prop}
    (all : ∀ other ∈ log ++ [event], meets other) :
    (∀ other ∈ log, meets other) ∧ meets event :=
  ⟨fun other member => all other (by simp [member]), all event (by simp)⟩

/-- What stands behind an event of a log that ends with another: nothing, or it ends the same. -/
theorem split_concat_cases
    {before after : List Event}
    {other : Event}
    (split : log ++ [event] = before ++ other :: after) :
    before = log ∧ other = event ∧ after = [] ∨
      ∃ later, after = later ++ [event] ∧ log = before ++ other :: later := by
  rcases List.eq_nil_or_concat after with rfl | ⟨later, last, rfl⟩
  · obtain ⟨isLog, isLast⟩ := List.append_inj' split rfl
    exact .inl ⟨isLog.symm, (List.singleton_inj.mp isLast).symm, rfl⟩
  · rw [List.concat_eq_append] at split ⊢
    rw [← List.cons_append, ← List.append_assoc] at split
    obtain ⟨isLog, isLast⟩ := List.append_inj' split rfl
    exact .inr ⟨later, isLast ▸ rfl, isLog⟩

/-- An event of a log that ends with another is the last one or stands before it. -/
theorem split_concat
    {before after : List Event}
    {other : Event}
    (split : log ++ [event] = before ++ other :: after) :
    before = log ∧ other = event ∨ ∃ after, log = before ++ other :: after := by
  rcases split_concat_cases split with ⟨isLog, isLast, -⟩ | ⟨later, -, isLog⟩
  · exact .inl ⟨isLog, isLast⟩
  · exact .inr ⟨later, isLog⟩

theorem length_accepted (log : List Event) :
    (accepted log).length = (log.filterMap message?).length := by
  simp [accepted]

theorem accepted_concat_of_none (noMessage : event.message? = none) :
    accepted (log ++ [event]) = accepted log := by
  simp [accepted, noMessage]

theorem accepted_concat_of_some
    {queue : String}
    {properties : Properties}
    {body : List UInt8}
    (isMessage : event.message? = some (queue, properties, body)) :
    accepted (log ++ [event]) =
      accepted log ++ [Broker.message ((accepted log).length + 1) queue properties body] := by
  simp [accepted, isMessage, List.mapIdx_append]

theorem acceptedFor_concat_of_none (queue : String) (noMessage : event.message? = none) :
    acceptedFor queue (log ++ [event]) = acceptedFor queue log := by
  simp [acceptedFor, accepted_concat_of_none noMessage]

theorem acceptedFor_concat_of_some
    (queue : String)
    {name : String}
    {properties : Properties}
    {body : List UInt8}
    (isMessage : event.message? = some (name, properties, body)) :
    acceptedFor queue (log ++ [event]) =
      acceptedFor queue log ++
        if name = queue then
          [Broker.message ((accepted log).length + 1) name properties body]
        else
          [] := by
  rw [acceptedFor, accepted_concat_of_some isMessage, List.filter_append]
  congr 1
  split
  · next isQueue => simpa [Broker.message, Delivery.new] using isQueue
  · next otherQueue => simpa [Broker.message, Delivery.new] using otherQueue

theorem length_accepted_concat (log : List Event) (event : Event) :
    (accepted (log ++ [event])).length =
      (accepted log).length + (event.message?.map fun _ => 1).getD 0 := by
  cases isMessage : event.message? <;> simp [length_accepted, isMessage]

theorem registrations_concat (log : List Event) (event : Event) :
    registrations (log ++ [event]) = registrations log ++ event.registration?.toList := by
  cases isRegistration : event.registration? <;> simp [registrations, isRegistration]

theorem arrivals_concat (log : List Event) (event : Event) :
    arrivals (log ++ [event]) = arrivals log ++ event.arrival?.toList := by
  cases isArrival : event.arrival? <;> simp [arrivals, isArrival]

/-- What an exchange of one party ends with arrives there. -/
theorem toParty_arrival_of_ne
    {place receiver : Nat}
    (differs : receiver ≠ place)
    (queue : String)
    (operation : Operation)
    (exchange : Exchange) :
    toParty receiver queue (Event.asked place operation exchange).arrival?.toList = [] := by
  unfold arrival?
  split
  · next same =>
      cases same
      cases operation.awaited? <;> simp [toParty, Ne.symm differs]
  · rfl

theorem handedOut_concat (log : List Event) (event : Event) :
    handedOut (log ++ [event]) = handedOut log ++ event.handedOut?.toList := by
  cases isHandedOut : event.handedOut? <;> simp [handedOut, isHandedOut]

theorem lost_concat (log : List Event) (event : Event) :
    lost (log ++ [event]) = lost log ++ event.unread := by
  simp [lost]

@[simp] theorem toParty_append
    (place : Nat)
    (queue : String)
    (first second : List (Nat × String × Delivery)) :
    toParty place queue (first ++ second) =
      toParty place queue first ++ toParty place queue second := by
  simp [toParty]

theorem toParty_singleton (place other : Nat) (queue name : String) (delivery : Delivery) :
    toParty place queue [(other, name, delivery)] =
      if other = place ∧ name = queue then [delivery] else [] := by
  unfold toParty
  split <;> simp_all

/-- What the end of an operation hands to a party from a queue. -/
theorem toParty_handedOut_finished
    (place other : Nat)
    (name : String)
    (operation : Operation)
    (outcome : Except ClientError operation.Value) :
    toParty other name ((Event.finished place operation outcome).handedOut?).toList =
      if other = place ∧ operation.awaited? = some name then
        (operation.delivered? outcome).toList
      else
        [] := by
  unfold handedOut?
  cases awaits : operation.awaited? with
  | none => simp [toParty, awaits]
  | some queue =>
      cases delivers : operation.delivered? outcome with
      | none => simp [toParty, awaits, delivers]
      | some delivery =>
          simp only [awaits, delivers, Option.toList_some, toParty_singleton, Option.some.injEq]
          simp [eq_comm]

theorem vain?_finished_iff
    {place receiver : Nat}
    {queue : String}
    {operation : Operation}
    {outcome : Except ClientError operation.Value} :
    (Event.finished place operation outcome).vain? = some (receiver, queue) ↔
      place = receiver ∧ operation.awaited? = some queue ∧
        ∃ name, operation.waitFailure? outcome = some (.noMessage name) := by
  simp only [vain?]
  split
  · next awaits failed => simp [awaits, failed]
  · next noWait =>
      constructor
      · intro isVain
        cases isVain
      · rintro ⟨-, awaits, name, failed⟩
        exact absurd failed (noWait queue name awaits)

/-- A delivery is among those to a party as often as it was delivered there. -/
theorem count_toParty
    (place : Nat)
    (queue : String)
    (delivery : Delivery)
    (deliveries : List (Nat × String × Delivery)) :
    (toParty place queue deliveries).count delivery =
      deliveries.count (place, queue, delivery) := by
  induction deliveries with
  | nil => rfl
  | cons entry rest inductionHypothesis =>
      obtain ⟨other, name, found⟩ := entry
      rw [← List.singleton_append, toParty_append, toParty_singleton, List.count_append,
        List.count_append, inductionHypothesis]
      congr 1
      split
      · next same => simp [same, List.count_singleton]
      · next differs =>
          rw [List.count_nil, eq_comm, List.count_eq_zero, List.mem_singleton]
          rintro isEntry
          cases isEntry
          exact differs ⟨rfl, rfl⟩

/-- The tags count from one. -/
theorem map_tag_accepted (log : List Event) :
    (accepted log).map Delivery.tag = (List.range (accepted log).length).map (· + 1) := by
  apply List.ext_getElem
  · simp
  · intro index _ _
    simp [accepted, Broker.message, Delivery.new]

/-- No two messages have the same tag. -/
theorem nodup_tags_accepted (log : List Event) : ((accepted log).map Delivery.tag).Nodup := by
  rw [map_tag_accepted]
  refine List.Pairwise.map _ ?_ List.nodup_range
  intro first second differ same
  exact differ (Nat.add_right_cancel same)

theorem nodup_accepted (log : List Event) : (accepted log).Nodup := by
  refine List.Pairwise.of_map Delivery.tag ?_ (nodup_tags_accepted log)
  intro first second differ same
  exact differ (congrArg Delivery.tag same)

end

end Event

end BrokerClient
