import BrokerClient.Proofs.Network.Receiver

/-!
# One receiver gets the messages in order

Where one party alone receives from a queue, its messages stand in one line: first those that have
arrived, then those that wait in the stream of the party, then the backlog.  A message that is
accepted goes to the end of the line.  Whatever else happens moves the borders within the line, or
takes messages out of it.
-/

namespace BrokerClient

/-- What waits in a stream, if there is one. -/
def Broker.unread (broker : Broker) : Option Stream → List Delivery
  | some stream => broker.buffer stream
  | none => []

theorem Broker.unread_of_feeds
    {broker broker' : Broker}
    (same : broker'.feeds = broker.feeds)
    (stream : Option Stream) :
    broker'.unread stream = broker.unread stream := by
  cases stream with
  | none => rfl
  | some stream => exact buffer_of_feeds same stream

namespace Network

variable {place receiver : Nat} {queue : String} {network network' : Network}

/-! ## The line -/

section

variable {broker broker' : Broker} {parties : List Party} {born : List (Nat × String)}

/-- What a party can still receive from a queue. -/
def ahead (broker : Broker) (parties : List Party) (receiver : Nat) (queue : String) :
    List Delivery :=
  broker.unread (streamAt parties receiver queue) ++ broker.backlog queue

theorem ahead_keepsMessages (keeps : broker.KeepsMessages broker') :
    ahead broker' parties receiver queue = ahead broker parties receiver queue := by
  rw [ahead, Broker.unread_of_feeds keeps.feeds, keeps.backlog, ahead]

theorem ahead_congr
    {parties' : List Party}
    (same : streamAt parties' receiver queue = streamAt parties receiver queue) :
    ahead broker parties' receiver queue = ahead broker parties receiver queue := by
  rw [ahead, same, ahead]

/-- A receiver that keeps its stream or has none has no more ahead of it. -/
theorem ahead_sublist
    {parties' : List Party}
    (stream :
      streamAt parties' receiver queue = none ∨
        streamAt parties' receiver queue = streamAt parties receiver queue)
    (feeds : broker'.feeds = broker.feeds)
    (backlog : (broker'.backlog queue).Sublist (broker.backlog queue)) :
    (ahead broker' parties' receiver queue).Sublist (ahead broker parties receiver queue) := by
  unfold ahead
  rcases stream with gone | same
  · rw [gone]
    exact backlog.trans (List.sublist_append_right _ _)
  · rw [same, Broker.unread_of_feeds feeds]
    exact backlog.append_left _

/-- The stream of the receiver was opened for its queue. -/
theorem streamAt_opened
    (holding : Holding broker parties born)
    {stream : Stream}
    (isStream : streamAt parties receiver queue = some stream) :
    born[stream.number]? = some (receiver, queue) ∧ broker.IsHeld stream := by
  obtain ⟨party, seated, holds⟩ := streamAt_eq_some_iff.mp isStream
  exact (holding.owners receiver party seated).held queue stream holds

/-- What happens to the stream of another party or of another queue leaves the receiver alone. -/
theorem unread_of_other
    (holding : Holding broker parties born)
    {other : Stream}
    {owner : Nat × String}
    (opened : born[other.number]? = some owner)
    (differs : owner ≠ (receiver, queue))
    (same : ∀ stream, stream ≠ other → broker'.buffer stream = broker.buffer stream) :
    broker'.unread (streamAt parties receiver queue) =
      broker.unread (streamAt parties receiver queue) := by
  cases isStream : streamAt parties receiver queue with
  | none => rfl
  | some stream =>
      refine same stream ?_
      rintro rfl
      have openedHere := (streamAt_opened holding isStream).1
      rw [opened] at openedHere
      exact differs (Option.some.inj openedHere)

/-- A deletion of another queue leaves the receiver alone. -/
theorem ahead_deletes_other
    {name : String}
    (deletes : broker.Deletes broker' name)
    (otherQueue : queue ≠ name) :
    ahead broker' parties receiver queue = ahead broker parties receiver queue := by
  rw [ahead, Broker.unread_of_feeds deletes.feeds, deletes.backlog, if_neg otherQueue, ahead]

/-- A registration for another queue leaves the receiver alone. -/
theorem ahead_registers_other
    (holding : Holding broker parties born)
    {name tag : String}
    {stream : Stream}
    (registers : broker.Registers broker' name tag stream)
    (otherQueue : queue ≠ name) :
    ahead broker' parties receiver queue = ahead broker parties receiver queue := by
  rw [ahead, registers.backlog, if_neg otherQueue, ahead]
  congr 1
  cases isStream : streamAt parties receiver queue with
  | none => rfl
  | some held =>
      have isHeld := (streamAt_opened holding isStream).2
      exact registers.buffer_other (registers.ne_of_isHeld isHeld)

/-- When the receiver registers, the backlog is what it has ahead of it. -/
theorem ahead_registers_self
    {tag : String}
    {stream : Stream}
    (registers : broker.Registers broker' queue tag stream)
    (isStream : streamAt parties receiver queue = some stream) :
    ahead broker' parties receiver queue = broker.backlog queue := by
  simp [ahead, isStream, Broker.unread, registers.buffer_self, registers.backlog]

/-- A delivery that is taken from the stream of the receiver was the first ahead of it. -/
theorem ahead_takes_self
    {stream : Stream}
    {delivery : Delivery}
    {rest : List Delivery}
    (held : broker.IsHeld stream)
    (shape : broker.buffer stream = delivery :: rest)
    (isStream : streamAt parties receiver queue = some stream) :
    delivery :: ahead (broker.modifyFeed stream fun feed => { feed with buffer := rest })
        parties receiver queue =
      ahead broker parties receiver queue := by
  have taken := Broker.buffer_modifyFeed_self held fun _ => rest
  simp only [ahead, isStream, Broker.unread, shape, taken]
  rfl

/-- A delivery that is taken from another stream was not ahead of the receiver. -/
theorem ahead_takes_other
    (holding : Holding broker parties born)
    {stream : Stream}
    {owner : Nat × String}
    (opened : born[stream.number]? = some owner)
    (differs : owner ≠ (receiver, queue))
    (rest : List Delivery) :
    ahead (broker.modifyFeed stream fun feed => { feed with buffer := rest })
        parties receiver queue =
      ahead broker parties receiver queue := by
  unfold ahead
  rw [unread_of_other holding opened differs fun other otherStream =>
    Broker.buffer_modifyFeed_other _ otherStream]
  rfl

/-- A message that is accepted goes to the end of what is ahead of the receiver of its queue. -/
theorem ahead_accepts
    (serves : Serves receiver queue broker parties born)
    (holding : Holding broker parties born)
    (nothingAbandoned : ∀ party, parties[receiver]? = some party → party.abandoned = [])
    {delivery : Delivery}
    (accepts : broker.Accepts broker' delivery) :
    ahead broker' parties receiver queue =
      ahead broker parties receiver queue ++
        if delivery.routingKey = queue then [delivery] else [] := by
  unfold ahead
  rcases accepts.goes with ⟨consumer, hands⟩ | stores
  · obtain ⟨entry, member, rfl⟩ := hands.registered
    rw [hands.backlog]
    split
    · next isQueue =>
        have itsQueue := hands.queue.trans isQueue
        rw [serves.streamAt_of_live holding nothingAbandoned member itsQueue hands.live,
          serves.drained entry member itsQueue hands.live]
        simpa [Broker.unread] using hands.buffer_self
    · next otherQueue =>
        obtain ⟨opener, opened⟩ := holding.registered entry member
        have differs : (opener, entry.2.queue) ≠ (receiver, queue) := by
          intro same
          exact otherQueue (hands.queue.symm.trans (Prod.mk.inj same).2)
        rw [unread_of_other holding opened differs fun stream => hands.buffer_other,
          List.append_nil]
  · rw [Broker.unread_of_feeds stores.feeds, stores.backlog]
    split
    · next isQueue => rw [if_pos isQueue.symm, List.append_assoc]
    · next otherQueue => rw [if_neg (Ne.symm otherQueue), List.append_nil]

end

/-- The messages of a queue on their way through the hands of one party. -/
def line (receiver : Nat) (queue : String) (network : Network) : List Delivery :=
  Event.toParty receiver queue (Event.arrivals network.log) ++
    ahead network.broker network.parties receiver queue

/-- No event takes messages of a queue from its receiver. -/
def Undisturbed (receiver : Nat) (queue : String) (log : List Event) : Prop :=
  ∀ event ∈ log,
    event.deletion? ≠ some queue ∧ event.replacement? ≠ some receiver ∧
      event.directRegistration? ≠ some (receiver, queue)

/-- The party in a place has left. -/
def HasLeft (parties : List Party) (place : Nat) : Prop :=
  ∃ party, parties[place]? = some party ∧ party.client? = none

/--
The line is in the order in which its messages were accepted; if nothing is taken from the receiver
they are all in it, as long as the receiver stays.
-/
structure InOrder (receiver : Nat) (queue : String) (network : Network) : Prop where
  ordered : (network.line receiver queue).Sublist (Event.acceptedFor queue network.log)
  complete :
    Undisturbed receiver queue network.log →
      network.line receiver queue = Event.acceptedFor queue network.log ∨
        HasLeft network.parties receiver ∧
          Event.toParty receiver queue (Event.arrivals network.log) <+:
            Event.acceptedFor queue network.log

/-- How a line goes on. -/
inductive Advance (receiver : Nat) (queue : String) (network network' : Network) : Prop where
  | grows
      (deliveries : List Delivery)
      (line : network'.line receiver queue = network.line receiver queue ++ deliveries)
      (accepted :
        Event.acceptedFor queue network'.log = Event.acceptedFor queue network.log ++ deliveries)
  | shrinks
      (line : (network'.line receiver queue).Sublist (network.line receiver queue))
      (accepted : Event.acceptedFor queue network'.log = Event.acceptedFor queue network.log)
      (disturbed : ¬ Undisturbed receiver queue network'.log)
  | leaves
      (line : (network'.line receiver queue).Sublist (network.line receiver queue))
      (arrivals :
        Event.toParty receiver queue (Event.arrivals network'.log) =
          Event.toParty receiver queue (Event.arrivals network.log))
      (accepted : Event.acceptedFor queue network'.log = Event.acceptedFor queue network.log)
      (hasLeft : HasLeft network'.parties receiver)

/-- Nothing arrives at a receiver that has left. -/
structure StaysAway (receiver : Nat) (queue : String) (network network' : Network) : Prop where
  hasLeft : HasLeft network'.parties receiver
  arrivals :
    Event.toParty receiver queue (Event.arrivals network'.log) =
      Event.toParty receiver queue (Event.arrivals network.log)

theorem InOrder.arrived
    (inOrder : network.InOrder receiver queue)
    (undisturbed : Undisturbed receiver queue network.log) :
    Event.toParty receiver queue (Event.arrivals network.log) <+:
      Event.acceptedFor queue network.log := by
  rcases inOrder.complete undisturbed with complete | ⟨-, arrived⟩
  · exact complete ▸ List.prefix_append _ _
  · exact arrived

theorem Advance.accepted
    (advance : Advance receiver queue network network') :
    Event.acceptedFor queue network.log <+: Event.acceptedFor queue network'.log := by
  cases advance with
  | grows deliveries line accepted => exact accepted ▸ List.prefix_append _ _
  | _ => simp [*]

/-- A line that goes on stays in order. -/
theorem InOrder.advance
    (inOrder : network.InOrder receiver queue)
    (advance : Advance receiver queue network network')
    (before :
      Undisturbed receiver queue network'.log → Undisturbed receiver queue network.log)
    (staysAway :
      HasLeft network.parties receiver → StaysAway receiver queue network network') :
    network'.InOrder receiver queue where
  ordered := by
    have ordered := inOrder.ordered
    cases advance with
    | grows deliveries line accepted =>
        rw [line, accepted]
        exact ordered.append_right deliveries
    | shrinks line accepted disturbed =>
        rw [accepted]
        exact line.trans ordered
    | leaves line arrivals accepted hasLeft =>
        rw [accepted]
        exact line.trans ordered
  complete undisturbed := by
    rcases inOrder.complete (before undisturbed) with complete | ⟨hasLeft, arrived⟩
    · cases advance with
      | grows deliveries line accepted => exact .inl (by rw [line, accepted, complete])
      | shrinks line accepted disturbed => exact absurd undisturbed disturbed
      | leaves line arrivals accepted hasLeft =>
          refine .inr ⟨hasLeft, ?_⟩
          rw [arrivals, accepted]
          exact inOrder.arrived (before undisturbed)
    · obtain ⟨stillGone, arrivals⟩ := staysAway hasLeft
      refine .inr ⟨stillGone, ?_⟩
      rw [arrivals]
      exact arrived.trans advance.accepted

/-! ## Small steps -/

section

variable {event : Event} {broker : Broker} {parties : List Party} {drawnIds : Nat}

/-- An event that moves no more than the borders within the line. -/
theorem Advance.of_arrival
    (noMessage : event.message? = none)
    (same :
      Event.toParty receiver queue event.arrival?.toList ++ ahead broker parties receiver queue =
        ahead network.broker network.parties receiver queue) :
    Advance receiver queue network ⟨broker, drawnIds, parties, network.log ++ [event]⟩ := by
  refine .grows [] ?_ ?_
  · simp only [line, Event.arrivals_concat, Event.toParty_append, List.append_assoc, same,
      List.append_nil]
  · rw [Event.acceptedFor_concat_of_none queue noMessage, List.append_nil]

/-- An event that leaves the line as it is. -/
theorem Advance.of_same
    (noMessage : event.message? = none)
    (noArrival : event.arrival? = none)
    (same :
      ahead broker parties receiver queue =
        ahead network.broker network.parties receiver queue) :
    Advance receiver queue network ⟨broker, drawnIds, parties, network.log ++ [event]⟩ := by
  refine .of_arrival noMessage ?_
  rw [noArrival, same]
  rfl

/-- An event that goes with a message at the end of the line. -/
theorem Advance.of_accepts
    (counted : network.broker.accepted = (Event.accepted network.log).length)
    {name : String}
    {properties : Properties}
    {body : List UInt8}
    (isMessage : event.message? = some (name, properties, body))
    (noArrival : event.arrival? = none)
    (isAhead :
      ahead broker parties receiver queue =
        ahead network.broker network.parties receiver queue ++
          if name = queue then
            [Broker.message (network.broker.accepted + 1) name properties body]
          else
            []) :
    Advance receiver queue network ⟨broker, drawnIds, parties, network.log ++ [event]⟩ := by
  refine .grows _ ?_ (Event.acceptedFor_concat_of_some queue isMessage)
  simp only [line, Event.arrivals_concat, Event.toParty_append, noArrival, isAhead, counted,
    Option.toList_none, List.append_assoc]
  rfl

/-- The receiver leaves, with what was ahead of it. -/
theorem Advance.of_leaving
    (noMessage : event.message? = none)
    (noArrival : event.arrival? = none)
    (fewer :
      (ahead broker parties receiver queue).Sublist
        (ahead network.broker network.parties receiver queue))
    (hasLeft : HasLeft parties receiver) :
    Advance receiver queue network ⟨broker, drawnIds, parties, network.log ++ [event]⟩ := by
  have arrivals :
      Event.toParty receiver queue (Event.arrivals (network.log ++ [event])) =
        Event.toParty receiver queue (Event.arrivals network.log) := by
    simp [Event.arrivals_concat, noArrival]
  refine .leaves ?_ arrivals (Event.acceptedFor_concat_of_none queue noMessage) hasLeft
  simp only [line, arrivals]
  exact fewer.append_left _

/-- An event that takes messages from the receiver. -/
theorem Advance.of_fewer
    (noMessage : event.message? = none)
    (noArrival : event.arrival? = none)
    (fewer :
      (ahead broker parties receiver queue).Sublist
        (ahead network.broker network.parties receiver queue))
    (disturbs :
      event.deletion? = some queue ∨ event.replacement? = some receiver ∨
        event.directRegistration? = some (receiver, queue)) :
    Advance receiver queue network ⟨broker, drawnIds, parties, network.log ++ [event]⟩ := by
  refine .shrinks ?_ (Event.acceptedFor_concat_of_none queue noMessage) ?_
  · simp only [line, Event.arrivals_concat, Event.toParty_append, noArrival, Option.toList_none]
    simpa [Event.toParty] using fewer
  · intro undisturbed
    obtain ⟨notDeleted, notReplaced, notDirect⟩ := undisturbed event (by simp)
    rcases disturbs with deleted | replaced | direct
    · exact notDeleted deleted
    · exact notReplaced replaced
    · exact notDirect direct

end

section

variable {operation : Operation} {standing standing' : Standing}

/-- A party in the middle of an operation that holds the same stream goes on. -/
theorem streamAt_set_busy
    {rest rest' : Program (Outcome operation.Value)}
    (seated : network.parties[place]? = some (.busy operation standing rest))
    (same :
      receiver = place →
        standing'.client.streams.get? queue = standing.client.streams.get? queue) :
    streamAt (network.parties.set place (.busy operation standing' rest')) receiver queue =
      streamAt network.parties receiver queue := by
  refine streamAt_set seated fun isPlace => ?_
  simpa [Party.client?] using same isPlace

/-- No party has anything to give up while one asks for something else. -/
theorem Underway.nothingAbandoned
    {rest : Program (Outcome operation.Value)}
    (underway : network.Underway place operation standing rest)
    (letGo : standing.abandoned = [])
    {party : Party}
    (seated : network.parties[receiver]? = some party) :
    party.abandoned = [] := by
  by_cases isPlace : receiver = place
  · subst isPlace
    obtain rfl := Option.some.inj (underway.seated.symm.trans seated)
    exact letGo
  · exact (underway.othersRest receiver party isPlace seated).abandoned

/-! ### Turns of exchanges -/

section

variable {event : Event} {broker : Broker} {parties : List Party} {drawnIds : Nat}
variable {name : String} {stream : Stream}

/-- A queue is deleted, and the receiver may have had a stream for it. -/
theorem advance_deletes
    (noMessage : event.message? = none)
    (noArrival : event.arrival? = none)
    (isDeletion : event.deletion? = some name)
    (deletes : network.broker.Deletes broker name)
    (less :
      streamAt parties receiver queue = none ∨
        streamAt parties receiver queue = streamAt network.parties receiver queue)
    (same :
      queue ≠ name →
        streamAt parties receiver queue = streamAt network.parties receiver queue) :
    Advance receiver queue network ⟨broker, drawnIds, parties, network.log ++ [event]⟩ := by
  by_cases isQueue : queue = name
  · subst isQueue
    refine .of_fewer noMessage noArrival ?_ (.inl isDeletion)
    exact ahead_sublist less deletes.feeds (by simp [deletes.backlog])
  · refine .of_same noMessage noArrival ?_
    rw [ahead_congr (same isQueue)]
    exact ahead_deletes_other deletes isQueue

/-- A consumer is registered; for the queue of the receiver, by the receiver. -/
theorem advance_consumes
    {tag : String}
    (holding : Holding network.broker network.parties (Event.registrations network.log))
    (noMessage : event.message? = none)
    (noArrival : event.arrival? = none)
    (registers : network.broker.Registers broker name tag stream)
    (alone : name = queue → place = receiver)
    (holds : streamAt parties place name = some stream)
    (free :
      streamAt network.parties place name = none ∨
        event.directRegistration? = some (place, name))
    (same :
      queue ≠ name →
        streamAt parties receiver queue = streamAt network.parties receiver queue) :
    Advance receiver queue network ⟨broker, drawnIds, parties, network.log ++ [event]⟩ := by
  by_cases isQueue : queue = name
  · subst isQueue
    obtain rfl := alone rfl
    have isAhead := ahead_registers_self registers holds
    rcases free with holdsNone | direct
    · refine .of_same noMessage noArrival ?_
      rw [isAhead, ahead, holdsNone]
      rfl
    · refine .of_fewer noMessage noArrival ?_ (.inr (.inr direct))
      rw [isAhead]
      exact List.sublist_append_right _ _
  · refine .of_same noMessage noArrival ?_
    rw [ahead_congr (same isQueue)]
    exact ahead_registers_other holding registers isQueue

/-- A delivery arrives from a stream, at the receiver or elsewhere. -/
theorem advance_takes
    {party : Party}
    {delivery : Delivery}
    {rest : List Delivery}
    (holding : Holding network.broker network.parties (Event.registrations network.log))
    (noMessage : event.message? = none)
    (isArrival : event.arrival? = some (place, name, delivery))
    (seated : network.parties[place]? = some party)
    (holds : party.Holds name stream)
    (shape : network.broker.buffer stream = delivery :: rest)
    (same : streamAt parties receiver queue = streamAt network.parties receiver queue) :
    Advance receiver queue network
      ⟨network.broker.modifyFeed stream fun feed => { feed with buffer := rest }, drawnIds, parties,
        network.log ++ [event]⟩ := by
  obtain ⟨opened, isHeld⟩ := (holding.owners place party seated).held name stream holds
  refine .of_arrival noMessage ?_
  rw [ahead_congr same, isArrival, Option.toList_some, Event.toParty_singleton]
  by_cases isHere : place = receiver ∧ name = queue
  · obtain ⟨rfl, rfl⟩ := isHere
    rw [if_pos ⟨rfl, rfl⟩]
    exact ahead_takes_self isHeld shape (streamAt_eq_some_iff.mpr ⟨party, seated, holds⟩)
  · have differs : (place, name) ≠ (receiver, queue) := by
      intro isSame
      exact isHere (Prod.mk.inj isSame)
    rw [if_neg isHere]
    exact ahead_takes_other holding opened differs rest

end

theorem advance_exchange
    {request : Request}
    {next : request.Answer → Program (Outcome operation.Value)}
    (underway : network.Underway place operation standing (.ask request next))
    (sound : network.Sound)
    (busy : network.BusyWith (ReceivesAlone receiver queue))
    (serving : network.Serving receiver queue)
    (givesNothingUp : ∀ stream, request ≠ .release stream) :
    Advance receiver queue network (network.exchange place operation standing request next) := by
  have turn := underway.turn givesNothingUp
  have letGo := underway.letGo givesNothingUp
  have seated := underway.seated
  have holding := sound.holding
  have streamBefore (name : String) :
      streamAt network.parties place name = standing.client.streams.get? name :=
    streamAt_of_seated seated
  have streamAfter (name : String) :
      streamAt
          (network.parties.set place
            (.busy operation (standing.after operation ⟨request, network.answer request⟩)
              (next (network.answer request))))
          place name =
        (standing.after operation ⟨request, network.answer request⟩).client.streams.get? name :=
    streamAt_set_self _ seated
  rw [exchange_eq next givesNothingUp]
  cases turn with
  | quiet tells keeps stays =>
      refine .of_same tells.message tells.arrival ?_
      rw [ahead_congr (streamAt_set_busy seated fun _ => by rw [stays.streams]),
        ahead_keepsMessages keeps]
  | publishes name properties body tells accepts stays noArrival =>
      refine .of_accepts sound.counted tells.message tells.arrival ?_
      rw [ahead_congr (streamAt_set_busy seated fun _ => by rw [stays.streams])]
      exact ahead_accepts serving holding (fun _ => underway.nothingAbandoned letGo) accepts
  | deletes name tells isDeletion deletes streams abandoned noArrival =>
      refine advance_deletes tells.message tells.arrival isDeletion deletes ?_ ?_
      · by_cases isHere : receiver = place ∧ queue = name
        · obtain ⟨rfl, rfl⟩ := isHere
          exact .inl ((streamAfter queue).trans (by simp [streams]))
        · right
          refine streamAt_set_busy seated fun isPlace => ?_
          have otherQueue : queue ≠ name := fun same => isHere ⟨isPlace, same⟩
          rw [streams, Dictionary.get?_erase_other _ otherQueue]
      · intro otherQueue
        exact streamAt_set_busy seated fun _ => by
          rw [streams, Dictionary.get?_erase_other _ otherQueue]
  | consumes name stream tells registers isSource free streams abandoned noArrival =>
      have alone (isQueue : name = queue) : place = receiver :=
        busy place _ operation seated rfl (isQueue ▸ isSource)
      have opened := Dictionary.get?_insert_same standing.client.streams name stream
      rw [← streams] at opened
      have holds := (streamAfter name).trans opened
      rw [← streamBefore] at free
      refine advance_consumes holding tells.message tells.arrival registers alone holds free ?_
      intro otherQueue
      exact streamAt_set_busy seated fun _ => by
        rw [streams, Dictionary.get?_insert_other _ _ otherQueue]
  | closes tells replaces keeps streams abandoned noArrival =>
      by_cases isPlace : receiver = place
      · subst isPlace
        refine .of_fewer tells.message tells.arrival ?_ (.inr (.inl replaces))
        refine ahead_sublist (.inl ?_) keeps.feeds (keeps.backlog queue ▸ .refl _)
        exact (streamAfter queue).trans (by simp [streams])
      · refine .of_same tells.message tells.arrival ?_
        rw [ahead_congr (streamAt_set_other _ isPlace), ahead_keepsMessages keeps]
  | takes name stream delivery rest tells awaits isStream shape isBroker streams abandoned
      noArrival arrival =>
      rw [isBroker]
      exact advance_takes holding tells.message tells.arrival seated (by simpa using isStream) shape
        (streamAt_set_busy seated fun _ => by rw [streams])
  | ceases name stream arrival tells awaits isStream undelivered shape fed isBroker streams
      abandoned noArrival isArrival =>
      refine .of_same tells.message tells.arrival ?_
      rw [isBroker]
      by_cases isHere : receiver = place ∧ name = queue
      · obtain ⟨rfl, rfl⟩ := isHere
        rw [ahead, ahead, streamBefore, streamAfter, streams, isStream]
        simp [Broker.unread, shape]
      · refine ahead_congr (streamAt_set_busy seated fun isPlace => ?_)
        have otherQueue : queue ≠ name := fun same => isHere ⟨isPlace, same.symm⟩
        rw [streams, Dictionary.get?_erase_other _ otherQueue]

theorem HasLeft.set
    {parties : List Party}
    {party party' : Party}
    (hasLeft : HasLeft parties receiver)
    (seated : parties[place]? = some party)
    (staysAway : party.client? = none → party'.client? = none) :
    HasLeft (parties.set place party') receiver := by
  obtain ⟨found, foundSeated, gone⟩ := hasLeft
  by_cases isPlace : receiver = place
  · subst isPlace
    obtain rfl := Option.some.inj (foundSeated.symm.trans seated)
    exact ⟨party', List.getElem?_set_self (lt_of_seated seated), staysAway gone⟩
  · exact ⟨found, by rw [List.getElem?_set_ne (Ne.symm isPlace), foundSeated], gone⟩

/-- Who has a client has not left. -/
theorem HasLeft.ne
    {parties : List Party}
    {party : Party}
    {client : Client}
    (hasLeft : HasLeft parties receiver)
    (seated : parties[place]? = some party)
    (isClient : party.client? = some client) :
    receiver ≠ place := by
  rintro rfl
  obtain ⟨found, foundSeated, gone⟩ := hasLeft
  obtain rfl := Option.some.inj (foundSeated.symm.trans seated)
  rw [gone] at isClient
  cases isClient

/-- What is given up is not the stream of the receiver. -/
theorem ahead_dropStream
    {party party' : Party}
    {stream : Stream}
    (sound : network.Sound)
    (givesUp : network.GivesUp place party stream party') :
    ahead (network.broker.release stream) (network.parties.set place party') receiver queue =
      ahead network.broker network.parties receiver queue := by
  have member : stream ∈ party.abandoned := by simp [givesUp.first]
  obtain ⟨⟨name, opened⟩, -, notHeld⟩ :=
    (sound.holding.owners place party givesUp.seated).abandoned stream member
  rw [ahead_congr (streamAt_set givesUp.seated fun _ => by rw [givesUp.client])]
  unfold ahead
  congr 1
  cases isStream : streamAt network.parties receiver queue with
  | none => rfl
  | some held =>
      refine Broker.buffer_release_other ?_
      rintro rfl
      obtain ⟨holder, seated, holds⟩ := streamAt_eq_some_iff.mp isStream
      have openedHere := (streamAt_opened sound.holding isStream).1
      rw [opened] at openedHere
      obtain ⟨rfl, rfl⟩ := Prod.mk.inj (Option.some.inj openedHere)
      obtain rfl := Option.some.inj (givesUp.seated.symm.trans seated)
      exact notHeld name holds

/-- What is known where the receiver receives alone. -/
def ServedAlone (receiver : Nat) (queue : String) (network : Network) : Prop :=
  (network.Sound ∧ network.BusyWith (ReceivesAlone receiver queue)) ∧
    network.Serving receiver queue

/-- An event that nothing arrives with leaves a receiver that has left as it is. -/
theorem StaysAway.of_event
    {event : Event}
    (noArrival : Event.toParty receiver queue event.arrival?.toList = [])
    {parties : List Party}
    (hasLeft : HasLeft parties receiver)
    (broker : Broker)
    (drawnIds : Nat) :
    StaysAway receiver queue network ⟨broker, drawnIds, parties, network.log ++ [event]⟩ := by
  refine ⟨hasLeft, ?_⟩
  simp only [Event.arrivals_concat, Event.toParty_append]
  rw [noArrival, List.append_nil]

/-- Small steps keep the messages in order. -/
theorem keeps_inOrder (receiver : Nat) (queue : String) :
    Keeps (fun _ => True) (ServedAlone receiver queue) (InOrder receiver queue) where
  joined network connection broker client atRest known inOrder dialed unasked coherent := by
    have noStreams := coherent.streams_of_no_channel unasked.channel
    refine inOrder.advance (.of_same rfl rfl ?_) (fun all => (Event.forall_of_concat all).1) ?_
    · rw [ahead_congr (streamAt_concat noStreams),
        ahead_keepsMessages (Broker.keepsMessages_dial dialed)]
    · rintro ⟨party, seated, gone⟩
      refine .of_event rfl ⟨party, ?_, gone⟩ _ _
      rw [List.getElem?_append_left (lt_of_seated seated), seated]
  started network place client operation atRest known inOrder _ seated := by
    refine inOrder.advance (.grows [] ?_ (List.append_nil _).symm) id ?_
    · unfold line seat
      rw [ahead_congr (streamAt_set seated fun _ => by simp [Party.client?, Standing.start]),
        List.append_nil]
    · intro hasLeft
      exact ⟨hasLeft.set seated (fun gone => by cases gone), rfl⟩
  exchanged network place operation standing request next underway known inOrder
      givesNothingUp := by
    refine inOrder.advance
      (advance_exchange underway known.1.1 known.1.2 known.2 givesNothingUp) ?_ ?_
    · rw [exchange_eq next givesNothingUp]
      exact fun all => (Event.forall_of_concat all).1
    · intro hasLeft
      have differs := hasLeft.ne underway.seated rfl
      rw [exchange_eq next givesNothingUp]
      exact .of_event (Event.toParty_arrival_of_ne differs queue operation _)
        (hasLeft.set underway.seated fun gone => by cases gone) _ _
  dropped network place party stream party' givesUp known inOrder := by
    refine inOrder.advance (.of_same rfl rfl (ahead_dropStream known.1.1 givesUp))
      (fun all => (Event.forall_of_concat all).1) fun hasLeft => ?_
    exact .of_event rfl (hasLeft.set givesUp.seated givesUp.client.trans) _ _
  finished network place operation standing ended underway known inOrder := by
    have concludes : operation.Concludes ended standing := underway.met
    refine inOrder.advance (.of_same rfl rfl ?_) (fun all => (Event.forall_of_concat all).1)
      fun hasLeft => ?_
    · refine ahead_congr (streamAt_set underway.seated fun _ => ?_)
      simp [Party.client?, streams_of_concludes concludes]
    · exact .of_event rfl (hasLeft.set underway.seated fun gone => by cases gone) _ _
  leaving network place party atRest known inOrder _ seated := by
    refine inOrder.advance ?_ (fun all => (Event.forall_of_concat all).1) fun hasLeft => ?_
    · by_cases isPlace : receiver = place
      · subst isPlace
        have hasLeft : HasLeft (network.parties.set receiver (.gone party.streams)) receiver :=
          ⟨_, List.getElem?_set_self (lt_of_seated seated), rfl⟩
        have isGone :
            streamAt (network.parties.set receiver (.gone party.streams)) receiver queue = none :=
          streamAt_set_self _ seated
        exact .of_leaving rfl rfl (ahead_sublist (.inl isGone) rfl (.refl _)) hasLeft
      · exact .of_same rfl rfl (ahead_congr (streamAt_set_other _ isPlace))
    · exact .of_event rfl (hasLeft.set seated fun _ => rfl) _ _
  disturbed network disturbance atRest known inOrder _ := by
    refine inOrder.advance ?_ (fun all => (Event.forall_of_concat all).1) ?_
    · rcases network.broker.disturb_cases disturbance with
        ⟨keeps, noMessage⟩ | ⟨name, properties, body, isMessage, accepts⟩
      · exact .of_same noMessage rfl (ahead_keepsMessages keeps)
      · refine .of_accepts known.1.1.counted isMessage rfl ?_
        exact ahead_accepts known.2 known.1.1.holding
          (fun party seated => (atRest receiver party seated).abandoned) accepts
    · exact fun hasLeft => .of_event rfl hasLeft _ _

end

/-! ## Waits in vain -/

/-- A party has just waited for a queue and got nothing in time. -/
def WaitedInVain (queue : String) (party : Party) : Prop :=
  party.arrival? = some .timedOut ∧
    ∃ operation, party.operation? = some operation ∧ operation.awaited? = some queue

/-- When a receiver waits in vain, it has been handed out everything before. -/
structure ReportsTruly (receiver : Nat) (queue : String) (network : Network) : Prop where
  waited :
    Undisturbed receiver queue network.log →
      ∀ party, network.parties[receiver]? = some party → WaitedInVain queue party →
        Event.toParty receiver queue (Event.arrivals network.log) =
          Event.acceptedFor queue network.log
  reported :
    Undisturbed receiver queue network.log →
      ∀ before event after,
        network.log = before ++ event :: after → event.vain? = some (receiver, queue) →
          Event.handedOutBy receiver queue before = Event.acceptedFor queue before

theorem not_waitedInVain_of_rests {party : Party} (rests : party.Rests) :
    ¬ WaitedInVain queue party := by
  rintro ⟨timedOut, -⟩
  rw [rests.arrival?] at timedOut
  cases timedOut

/-- An event goes with true reports if it is one itself should it report a wait in vain. -/
theorem ReportsTruly.of_event
    (reportsTruly : network.ReportsTruly receiver queue)
    {event : Event}
    (isTrue :
      Undisturbed receiver queue network.log → event.vain? = some (receiver, queue) →
        Event.handedOutBy receiver queue network.log = Event.acceptedFor queue network.log)
    {parties : List Party}
    (waited :
      Undisturbed receiver queue network.log →
        ∀ party, parties[receiver]? = some party → WaitedInVain queue party →
          Event.toParty receiver queue (Event.arrivals (network.log ++ [event])) =
            Event.acceptedFor queue (network.log ++ [event]))
    (broker : Broker)
    (drawnIds : Nat) :
    ReportsTruly receiver queue ⟨broker, drawnIds, parties, network.log ++ [event]⟩ where
  waited all := waited (Event.forall_of_concat all).1
  reported all before last after split isVain := by
    have undisturbed := (Event.forall_of_concat all).1
    rcases Event.split_concat split with ⟨rfl, rfl⟩ | ⟨after, isLog⟩
    · exact isTrue undisturbed isVain
    · exact reportsTruly.reported undisturbed before last after isLog isVain

/-- Nobody waits in vain while all but one party, which does not, are at rest. -/
theorem not_waitedInVain_of_set
    {party found : Party}
    (othersRest : network.RestsBut place)
    (notHere : ¬ WaitedInVain queue party)
    (seated : (network.parties.set place party)[receiver]? = some found) :
    ¬ WaitedInVain queue found := by
  rcases seated_set seated with ⟨-, rfl⟩ | ⟨differs, wasSeated⟩
  · exact notHere
  · exact not_waitedInVain_of_rests (othersRest receiver found differs wasSeated)

theorem AtRest.restsBut (atRest : network.AtRest) (place : Nat) : network.RestsBut place :=
  fun other party _ => atRest other party

section

variable {operation : Operation} {standing : Standing}

/-- A wait that ends in vain has found the stream and the backlog empty. -/
theorem ahead_eq_nil_of_vain
    {rest : Program (Outcome operation.Value)}
    {stream : Stream}
    (known : network.ServedAlone receiver queue)
    (seated : network.parties[receiver]? = some (.busy operation standing rest))
    (isStream : standing.client.streams.get? queue = some stream)
    (empty : network.broker.buffer stream = [])
    (fed : network.broker.isFed stream = true) :
    ahead network.broker network.parties receiver queue = [] := by
  obtain ⟨⟨sound, -⟩, serving⟩ := known
  have held : (Party.busy operation standing rest).Holds queue stream := by
    simpa using isStream
  obtain ⟨opened, isHeld⟩ := (sound.holding.owners receiver _ seated).held queue stream held
  obtain ⟨entry, member, feeds⟩ := Broker.isFed_iff.mp fed
  obtain ⟨opener, openedFor⟩ := sound.holding.registered entry member
  rw [feeds, opened] at openedFor
  have itsQueue : entry.2.queue = queue := (Prod.mk.inj (Option.some.inj openedFor)).2.symm
  have drained := serving.drained entry member itsQueue (feeds ▸ isHeld)
  have here := streamAt_eq_some_iff.mpr ⟨_, seated, held⟩
  simp [ahead, here, Broker.unread, empty, drained]

theorem waited_exchange
    {request : Request}
    {next : request.Answer → Program (Outcome operation.Value)}
    (underway : network.Underway receiver operation standing (.ask request next))
    (known : network.ServedAlone receiver queue)
    (inOrder : network.InOrder receiver queue)
    (reportsTruly : network.ReportsTruly receiver queue)
    (givesNothingUp : ∀ stream, request ≠ .release stream)
    (undisturbed : Undisturbed receiver queue network.log)
    (timedOut :
      (standing.after operation ⟨request, network.answer request⟩).arrival = some .timedOut)
    (awaitsQueue : operation.awaited? = some queue) :
    Event.toParty receiver queue
        (Event.arrivals
          (network.log ++ [.asked receiver operation ⟨request, network.answer request⟩])) =
      Event.acceptedFor queue
        (network.log ++ [.asked receiver operation ⟨request, network.answer request⟩]) := by
  have turn := underway.turn givesNothingUp
  have seated := underway.seated
  cases turn with
  | quiet tells keeps stays =>
      have before := reportsTruly.waited undisturbed _ seated
        ⟨stays.arrival.symm.trans timedOut, operation, rfl, awaitsQueue⟩
      rw [Event.acceptedFor_concat_of_none queue tells.message, ← before]
      simp [Event.arrivals_concat, tells.arrival]
  | ceases name stream arrival tells awaits isStream undelivered shape fed isBroker streams
      abandoned noArrival isArrival =>
      obtain rfl := Option.some.inj (awaits.symm.trans awaitsQueue)
      obtain rfl := Option.some.inj (isArrival.symm.trans timedOut)
      have nothing := ahead_eq_nil_of_vain known seated isStream shape (fed rfl)
      rw [Event.acceptedFor_concat_of_none _ tells.message]
      rcases inOrder.complete undisturbed with complete | ⟨hasLeft, -⟩
      · rw [← complete, line, nothing, List.append_nil]
        simp [Event.arrivals_concat, tells.arrival]
      · exact absurd rfl (hasLeft.ne seated rfl)
  | publishes name properties body tells accepts stays noArrival =>
      rw [stays.arrival, noArrival] at timedOut
      cases timedOut
  | takes name stream delivery rest tells awaits isStream shape isBroker streams abandoned
      noArrival arrival =>
      rw [arrival] at timedOut
      cases timedOut
  | deletes | consumes | closes =>
      next noArrival =>
        rw [noArrival.2] at timedOut
        cases timedOut

theorem reported_finish
    {ended : Outcome operation.Value}
    (underway : network.Underway place operation standing (.done ended))
    (dealt : network.Dealt)
    (reportsTruly : network.ReportsTruly receiver queue)
    (undisturbed : Undisturbed receiver queue network.log)
    (isVain : (Event.finished place operation ended.1).vain? = some (receiver, queue)) :
    Event.handedOutBy receiver queue network.log = Event.acceptedFor queue network.log := by
  have concludes : operation.Concludes ended standing := underway.met
  have seated := underway.seated
  obtain ⟨rfl, awaits, name, failed⟩ := Event.vain?_finished_iff.mp isVain
  have timedOut := concludes.explains.timedOut.mp ⟨name, failed⟩
  have arrived := reportsTruly.waited undisturbed _ seated ⟨timedOut, operation, rfl, awaits⟩
  have inHand : handAt network.parties place queue = [] := by
    rw [handAt_of_seated seated]
    simp [Party.inHand, awaits, timedOut, Arrival.delivery?]
  rw [← arrived, dealt place queue, inHand, List.append_nil, Event.handedOutBy]

end

/-- Small steps keep reports of waits in vain true. -/
theorem keeps_reportsTruly (receiver : Nat) (queue : String) :
    Keeps (fun _ => True)
      (fun network =>
        (network.ServedAlone receiver queue ∧ network.InOrder receiver queue) ∧ network.Dealt)
      (ReportsTruly receiver queue) where
  joined network connection broker client atRest _ reportsTruly dialed unasked coherent := by
    refine reportsTruly.of_event (fun _ isVain => by cases isVain) (fun _ party seated inVain => ?_)
      _ _
    rcases seated_concat seated with wasSeated | ⟨-, rfl⟩
    · exact absurd inVain (not_waitedInVain_of_rests (atRest receiver party wasSeated))
    · cases inVain.1
  started network place client operation atRest _ reportsTruly _ seated := by
    refine ⟨fun _ party found inVain => ?_, reportsTruly.reported⟩
    refine absurd inVain (not_waitedInVain_of_set (atRest.restsBut place) ?_ found)
    rintro ⟨timedOut, -⟩
    cases timedOut
  exchanged network place operation standing request next underway known reportsTruly
      givesNothingUp := by
    rw [exchange_eq next givesNothingUp]
    refine reportsTruly.of_event (fun _ isVain => by cases isVain)
      (fun undisturbed party seated inVain => ?_) _ _
    rcases seated_set seated with ⟨rfl, rfl⟩ | ⟨differs, wasSeated⟩
    · obtain ⟨timedOut, asked, isAsked, awaits⟩ := inVain
      obtain rfl := Option.some.inj isAsked
      exact waited_exchange underway known.1.1 known.1.2 reportsTruly givesNothingUp undisturbed
        timedOut awaits
    · have rests := underway.othersRest receiver party differs wasSeated
      exact absurd inVain (not_waitedInVain_of_rests rests)
  dropped network place party stream party' givesUp _ reportsTruly := by
    refine reportsTruly.of_event (fun _ isVain => by cases isVain)
      (fun undisturbed found seated inVain => ?_) _ _
    rcases seated_set seated with ⟨rfl, rfl⟩ | ⟨differs, wasSeated⟩
    · rw [WaitedInVain, givesUp.arrival, givesUp.operation] at inVain
      have before := reportsTruly.waited undisturbed party givesUp.seated inVain
      rw [Event.acceptedFor_concat_of_none queue rfl, ← before]
      simp [Event.arrivals_concat, Event.arrival?]
    · have rests := givesUp.othersRest receiver found differs wasSeated
      exact absurd inVain (not_waitedInVain_of_rests rests)
  finished network place operation standing ended underway known reportsTruly := by
    refine reportsTruly.of_event (reported_finish underway known.2 reportsTruly)
      (fun _ party seated inVain => ?_) _ _
    refine absurd inVain (not_waitedInVain_of_set underway.othersRest ?_ seated)
    rintro ⟨timedOut, -⟩
    cases timedOut
  leaving network place party atRest _ reportsTruly _ seated := by
    refine reportsTruly.of_event (fun _ isVain => by cases isVain)
      (fun _ found foundSeated inVain => ?_) _ _
    refine absurd inVain (not_waitedInVain_of_set (atRest.restsBut place) ?_ foundSeated)
    rintro ⟨timedOut, -⟩
    cases timedOut
  disturbed network disturbance atRest _ reportsTruly _ := by
    refine reportsTruly.of_event (fun _ isVain => by cases isVain)
      (fun _ party seated inVain => ?_) _ _
    exact absurd inVain (not_waitedInVain_of_rests (atRest receiver party seated))

/-! ## Runs -/

theorem servedAlone_start (arbitration : Arbitration) :
    (start arbitration).ServedAlone receiver queue := by
  refine ⟨⟨sound_start arbitration, ?_⟩, ?_⟩
  · simp [BusyWith, start]
  · constructor
    case rising => exact List.Pairwise.nil
    all_goals simp [start, Broker.empty, Event.registrations]

theorem inOrder_start (arbitration : Arbitration) :
    (start arbitration).InOrder receiver queue := by
  have noLine : (start arbitration).line receiver queue = [] := rfl
  exact ⟨noLine ▸ List.nil_sublist _, fun _ => .inl rfl⟩

theorem reportsTruly_start (arbitration : Arbitration) :
    (start arbitration).ReportsTruly receiver queue := by
  refine ⟨fun _ _ _ _ => rfl, ?_⟩
  simp [start]

/-- Messages stay in order, and reports true, along a run with one receiver. -/
theorem inOrder_run
    (arbitration : Arbitration)
    (moves : List Move)
    (receiver : Nat)
    (queue : String)
    (alone :
      ∀ place operation, .start place operation ∈ moves →
        operation.source? = some queue → place = receiver) :
    ((start arbitration).run moves).InOrder receiver queue ∧
      ((start arbitration).run moves).ReportsTruly receiver queue := by
  let allowed (move : Move) : Prop :=
    ∀ place operation, move = .start place operation → ReceivesAlone receiver queue place operation
  have anyMove (move : Move) (_ : allowed move) : True := trivial
  have keepsSound := keeps_sound.restrict anyMove
  have keepsBusy : Keeps allowed Sound (BusyWith (ReceivesAlone receiver queue)) :=
    (keeps_busyWith (ReceivesAlone receiver queue)).given Sound
  have keepsServed :=
    (keepsSound.and keepsBusy).and ((keeps_serving receiver queue).restrict anyMove)
  have keepsOrder := keepsServed.and ((keeps_inOrder receiver queue).restrict anyMove)
  have keepsDealt := keepsOrder.and ((keeps_dealt.restrict anyMove).given _)
  have keeps := keepsDealt.and ((keeps_reportsTruly receiver queue).restrict anyMove)
  have areAllowed (move : Move) (member : move ∈ moves) : allowed move := by
    rintro place operation rfl
    exact alone place operation member
  have kept := keeps.run (by simp [AtRest, start])
    ⟨⟨⟨servedAlone_start arbitration, inOrder_start arbitration⟩, dealt_start arbitration⟩,
      reportsTruly_start arbitration⟩ areAllowed
  exact ⟨kept.2.1.1.2, kept.2.2⟩

/--
Where one party alone receives from a queue, it is handed out messages in the order in which they
were accepted, none of them twice.  If the queue is not deleted, the party does not make room for
another channel and does not register for the queue but to wait, then no message is left out: a
wait in vain means that all messages before it were handed out.
-/
theorem received_in_order
    (arbitration : Arbitration)
    (moves : List Move)
    (receiver : Nat)
    (queue : String)
    (alone :
      ∀ place operation, .start place operation ∈ moves →
        operation.source? = some queue → place = receiver) :
    (Event.handedOutBy receiver queue ((start arbitration).run moves).log).Sublist
        (Event.acceptedFor queue ((start arbitration).run moves).log) ∧
      (Event.handedOutBy receiver queue ((start arbitration).run moves).log).Nodup ∧
        (Undisturbed receiver queue ((start arbitration).run moves).log →
          Event.handedOutBy receiver queue ((start arbitration).run moves).log <+:
              Event.acceptedFor queue ((start arbitration).run moves).log ∧
            ∀ before event after,
              ((start arbitration).run moves).log = before ++ event :: after →
                event.vain? = some (receiver, queue) →
                  Event.handedOutBy receiver queue before = Event.acceptedFor queue before) := by
  obtain ⟨inOrder, reportsTruly⟩ := inOrder_run arbitration moves receiver queue alone
  have atRest := (sound_run arbitration moves).1
  have arrived :
      Event.toParty receiver queue (Event.arrivals ((start arbitration).run moves).log) =
        Event.handedOutBy receiver queue ((start arbitration).run moves).log := by
    rw [dealt_run arbitration moves receiver queue, atRest.handAt, List.append_nil,
      Event.handedOutBy]
  have ordered :
      (Event.handedOutBy receiver queue ((start arbitration).run moves).log).Sublist
        (Event.acceptedFor queue ((start arbitration).run moves).log) := by
    rw [← arrived]
    exact (List.sublist_append_left _ _).trans inOrder.ordered
  refine ⟨ordered, ?_, fun undisturbed => ⟨?_, reportsTruly.reported undisturbed⟩⟩
  · exact ordered.nodup ((Event.nodup_accepted _).sublist List.filter_sublist)
  · rw [← arrived]
    exact inOrder.arrived undisturbed

/-- A client receives two messages, the second while it waits, and then waits in vain. -/
def receivingTwice : List Move :=
  [.join "worker" (.new "memory"),
    .start 0 .reset,
    .disturb (.pushRaw "jobs" [1]),
    .start 0 (.receive "jobs" Except.ok),
    .resume 0,
    .disturb .dropConsumers,
    .start 0 (.receive "jobs" Except.ok),
    .resume 0,
    .start 0 (.receive "jobs" Except.ok),
    .disturb (.pushRaw "jobs" [2]),
    .resume 0,
    .start 0 (.receive "jobs" Except.ok),
    .resume 0]

theorem received_twice_in_order :
    Event.handedOutBy 0 "jobs" ((start .byConsumerTag).run receivingTwice).log =
        [Broker.message 1 "jobs" .none [1], Broker.message 2 "jobs" .none [2]] ∧
      Event.handedOutBy 0 "jobs" ((start .byConsumerTag).run receivingTwice).log <+:
          Event.acceptedFor "jobs" ((start .byConsumerTag).run receivingTwice).log ∧
        ∃ before event after,
          ((start .byConsumerTag).run receivingTwice).log = before ++ event :: after ∧
            event.vain? = some (0, "jobs") ∧
              Event.handedOutBy 0 "jobs" before = Event.acceptedFor "jobs" before := by
  have alone (place : Nat) (operation : Operation)
      (starts : .start place operation ∈ receivingTwice)
      (_ : operation.source? = some "jobs") : place = 0 := by
    simp only [receivingTwice, List.mem_cons, List.not_mem_nil, Move.start.injEq, reduceCtorEq,
      false_or, or_false] at starts
    omega
  have undisturbed :
      Undisturbed 0 "jobs" ((start .byConsumerTag).run receivingTwice).log := by
    unfold Undisturbed
    decide +kernel
  have waitsInVain :
      ∃ event ∈ ((start .byConsumerTag).run receivingTwice).log,
        event.vain? = some (0, "jobs") := by
    decide +kernel
  obtain ⟨-, -, inOrder⟩ := received_in_order .byConsumerTag receivingTwice 0 "jobs" alone
  obtain ⟨isPrefix, reported⟩ := inOrder undisturbed
  obtain ⟨event, member, isVain⟩ := waitsInVain
  obtain ⟨before, after, split⟩ := List.append_of_mem member
  refine ⟨by decide +kernel, isPrefix, before, event, after, split, isVain, ?_⟩
  exact reported before event after split isVain

end Network

end BrokerClient
