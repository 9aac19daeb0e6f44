import BrokerClient.Proofs.Network.Handing

/-!
# The single receiver of a queue

Where one party alone receives from a queue, the queue has at most one consumer.  The streams that
were opened for the queue are streams of that party, and while the consumer feeds one that is held,
the backlog of the queue is empty.
-/

namespace BrokerClient

namespace Network

/-- The stream that the party in a place holds for a queue. -/
def streamAt (parties : List Party) (place : Nat) (queue : String) : Option Stream :=
  parties[place]?.bind fun party => party.client?.bind fun client => client.streams.get? queue

variable {parties : List Party} {place receiver : Nat} {party party' : Party}
variable {queue : String} {stream : Stream}

theorem streamAt_eq_some_iff :
    streamAt parties place queue = some stream ↔
      ∃ party, parties[place]? = some party ∧ party.Holds queue stream := by
  simp [streamAt, Party.Holds, Option.bind_eq_some_iff]

theorem streamAt_of_seated (seated : parties[place]? = some party) :
    streamAt parties place queue = party.client?.bind fun client => client.streams.get? queue := by
  simp [streamAt, seated]

theorem streamAt_set_self (party' : Party) (seated : parties[place]? = some party) :
    streamAt (parties.set place party') place queue =
      party'.client?.bind fun client => client.streams.get? queue :=
  streamAt_of_seated (List.getElem?_set_self (lt_of_seated seated))

theorem streamAt_set_other (party' : Party) (differs : receiver ≠ place) :
    streamAt (parties.set place party') receiver queue = streamAt parties receiver queue := by
  simp [streamAt, List.getElem?_set_ne (Ne.symm differs)]

/-- A party that holds the same stream takes the place of another. -/
theorem streamAt_set
    (seated : parties[place]? = some party)
    (same :
      receiver = place →
        (party'.client?.bind fun client => client.streams.get? queue) =
          party.client?.bind fun client => client.streams.get? queue) :
    streamAt (parties.set place party') receiver queue = streamAt parties receiver queue := by
  by_cases isPlace : receiver = place
  · subst isPlace
    rw [streamAt_set_self party' seated, streamAt_of_seated seated, same rfl]
  · exact streamAt_set_other party' isPlace

/-- A newcomer holds no stream. -/
theorem streamAt_concat {client : Client} (noStreams : client.streams = []) :
    streamAt (parties ++ [.idle client]) place queue = streamAt parties place queue := by
  unfold streamAt
  by_cases below : place < parties.length
  · rw [List.getElem?_append_left below]
  · rw [List.getElem?_eq_none (Nat.not_lt.mp below)]
    cases seated : (parties ++ [.idle client])[place]? with
    | none => rfl
    | some party =>
        rcases seated_concat seated with wasSeated | ⟨-, rfl⟩
        · exact absurd (lt_of_seated wasSeated) below
        · simp [Party.client?, noStreams]

/-- The operations that may register for a queue are those of one party. -/
def ReceivesAlone (receiver : Nat) (queue : String) (place : Nat) (operation : Operation) : Prop :=
  operation.source? = some queue → place = receiver

/-- The consumers of a queue that one party receives from alone. -/
structure Serves
    (receiver : Nat)
    (queue : String)
    (broker : Broker)
    (parties : List Party)
    (born : List (Nat × String)) : Prop where
  rising : Dictionary.Rising broker.consumers
  opener : ∀ place, (place, queue) ∈ born → place = receiver
  tagged :
    ∀ entry ∈ broker.consumers, entry.2.queue = queue →
      ∃ party, parties[receiver]? = some party ∧
        ∀ client, party.client? = some client → client.consumerId = entry.1
  single :
    ∀ first ∈ broker.consumers, ∀ second ∈ broker.consumers,
      first.2.queue = queue → second.2.queue = queue → first = second
  drained :
    ∀ entry ∈ broker.consumers, entry.2.queue = queue →
      broker.IsHeld entry.2.stream → broker.backlog queue = []

/-- A party's client, if it has one, has the tag that it had before. -/
def KeepsTag (party party' : Party) : Prop :=
  ∀ client', party'.client? = some client' →
    ∃ client, party.client? = some client ∧ client'.consumerId = client.consumerId

namespace Serves

variable {broker broker' : Broker} {born : List (Nat × String)}

/-- Fewer consumers serve as well if no message reaches the backlog past one that is fed. -/
theorem withBroker
    (serves : Serves receiver queue broker parties born)
    (consumers : broker'.consumers.Sublist broker.consumers)
    (drained :
      ∀ entry ∈ broker.consumers, entry.2.queue = queue →
        broker'.IsHeld entry.2.stream → broker'.backlog queue = []) :
    Serves receiver queue broker' parties born where
  rising := serves.rising.sublist (consumers.map _)
  opener := serves.opener
  tagged entry member := serves.tagged entry (consumers.subset member)
  single first firstMember second secondMember :=
    serves.single first (consumers.subset firstMember) second (consumers.subset secondMember)
  drained entry member := drained entry (consumers.subset member)

theorem reseats
    (serves : Serves receiver queue broker parties born)
    (seated : parties[place]? = some party)
    (keepsTag : KeepsTag party party') :
    Serves receiver queue broker (parties.set place party') born where
  rising := serves.rising
  opener := serves.opener
  tagged entry member isQueue := by
    obtain ⟨found, foundSeated, tagged⟩ := serves.tagged entry member isQueue
    by_cases isPlace : receiver = place
    · subst isPlace
      obtain rfl := Option.some.inj (seated.symm.trans foundSeated)
      refine ⟨party', List.getElem?_set_self (lt_of_seated seated), fun client' isClient => ?_⟩
      obtain ⟨client, wasClient, sameTag⟩ := keepsTag client' isClient
      exact sameTag.trans (tagged client wasClient)
    · refine ⟨found, ?_, tagged⟩
      rw [List.getElem?_set_ne (Ne.symm isPlace)]
      exact foundSeated
  single := serves.single
  drained := serves.drained

theorem leaves
    (serves : Serves receiver queue broker parties born)
    (seated : parties[place]? = some party)
    (abandoned : List Stream) :
    Serves receiver queue broker (parties.set place (.gone abandoned)) born := by
  refine serves.reseats seated ?_
  rintro client' isClient
  cases isClient

theorem joins
    (serves : Serves receiver queue broker parties born)
    (newcomer : Party) :
    Serves receiver queue broker (parties ++ [newcomer]) born where
  rising := serves.rising
  opener := serves.opener
  tagged entry member isQueue := by
    obtain ⟨found, foundSeated, tagged⟩ := serves.tagged entry member isQueue
    refine ⟨found, ?_, tagged⟩
    rw [List.getElem?_append_left (lt_of_seated foundSeated)]
    exact foundSeated
  single := serves.single
  drained := serves.drained

theorem keepsMessages
    (serves : Serves receiver queue broker parties born)
    (keeps : broker.KeepsMessages broker') :
    Serves receiver queue broker' parties born := by
  refine serves.withBroker keeps.consumers fun entry member isQueue held => ?_
  rw [keeps.backlog]
  exact serves.drained entry member isQueue ((Broker.isHeld_of_feeds keeps.feeds _).mp held)

theorem deletes
    (serves : Serves receiver queue broker parties born)
    {name : String}
    (deletes : broker.Deletes broker' name) :
    Serves receiver queue broker' parties born := by
  refine serves.withBroker deletes.consumers fun entry member isQueue held => ?_
  rw [deletes.backlog]
  split
  · rfl
  · exact serves.drained entry member isQueue ((Broker.isHeld_of_feeds deletes.feeds _).mp held)

theorem accepts
    (serves : Serves receiver queue broker parties born)
    {delivery : Delivery}
    (accepts : broker.Accepts broker' delivery) :
    Serves receiver queue broker' parties born := by
  refine serves.withBroker (accepts.consumers ▸ .refl _) fun entry member isQueue held => ?_
  rcases accepts.goes with ⟨consumer, hands⟩ | stores
  · rw [hands.backlog]
    exact serves.drained entry member isQueue (hands.isHeld_iff.mp held)
  · have heldBefore := (Broker.isHeld_of_feeds stores.feeds _).mp held
    rw [stores.backlog]
    split
    · next isAddressed =>
        rcases stores.unwanted with noConsumer | ⟨asked, isAsked, itsQueue, dead⟩
        · exact absurd (isQueue.trans isAddressed) (noConsumer entry member)
        · obtain rfl :=
            serves.single entry member asked isAsked isQueue (itsQueue.trans isAddressed.symm)
          exact absurd heldBefore dead
    · exact serves.drained entry member isQueue heldBefore

/-- Who registers for another queue does so past the receiver. -/
theorem registers_other
    (serves : Serves receiver queue broker parties born)
    {name tag : String}
    (registers : broker.Registers broker' name tag stream)
    (isNew : ∀ entry ∈ broker.consumers, entry.2.stream ≠ stream)
    (otherQueue : name ≠ queue)
    (place : Nat) :
    Serves receiver queue broker' parties (born ++ [(place, name)]) := by
  have wasThere (entry : String × Consumer) (member : entry ∈ broker'.consumers)
      (isQueue : entry.2.queue = queue) : entry ∈ broker.consumers := by
    rw [registers.consumers] at member
    rcases Dictionary.mem_of_mem_insert member with rfl | before
    · exact absurd isQueue otherQueue
    · exact before
  constructor
  case rising => exact registers.consumers ▸ Dictionary.rising_insert serves.rising _ _
  case opener =>
    intro other member
    rcases List.mem_append.mp member with before | isLast
    · exact serves.opener other before
    · simp [otherQueue.symm] at isLast
  case tagged =>
    intro entry member isQueue
    exact serves.tagged entry (wasThere entry member isQueue) isQueue
  case single =>
    intro first firstMember second secondMember firstQueue secondQueue
    exact serves.single first (wasThere first firstMember firstQueue) second
      (wasThere second secondMember secondQueue) firstQueue secondQueue
  case drained =>
    intro entry member isQueue held
    have before := wasThere entry member isQueue
    rw [registers.backlog, if_neg (Ne.symm otherQueue)]
    rcases registers.isHeld_iff.mp held with isStream | heldBefore
    · exact absurd isStream (isNew entry before)
    · exact serves.drained entry before isQueue heldBefore

/-- When the receiver registers anew, the consumer under its tag makes room for the new one. -/
theorem registers_self
    (serves : Serves receiver queue broker parties born)
    {tag : String}
    (registers : broker.Registers broker' queue tag stream)
    {client : Client}
    (seated : parties[receiver]? = some party)
    (isClient : party.client? = some client)
    (isTag : client.consumerId = tag) :
    Serves receiver queue broker' parties (born ++ [(receiver, queue)]) := by
  have rising : Dictionary.Rising broker'.consumers :=
    registers.consumers ▸ Dictionary.rising_insert serves.rising _ _
  have tagged (entry : String × Consumer) (member : entry ∈ broker'.consumers)
      (isQueue : entry.2.queue = queue) : entry.1 = tag := by
    rw [registers.consumers] at member
    rcases Dictionary.mem_of_mem_insert member with rfl | before
    · rfl
    · obtain ⟨found, foundSeated, foundTag⟩ := serves.tagged entry before isQueue
      obtain rfl := Option.some.inj (seated.symm.trans foundSeated)
      exact (foundTag client isClient).symm.trans isTag
  constructor
  case rising => exact rising
  case opener =>
    intro other member
    rcases List.mem_append.mp member with before | isLast
    · exact serves.opener other before
    · exact (Prod.mk.inj (List.mem_singleton.mp isLast)).1
  case tagged =>
    intro entry member isQueue
    refine ⟨party, seated, fun other isOther => ?_⟩
    obtain rfl := Option.some.inj (isClient.symm.trans isOther)
    exact isTag.trans (tagged entry member isQueue).symm
  case single =>
    intro first firstMember second secondMember firstQueue secondQueue
    -- Both are found under the one tag.
    have sameTag := (tagged first firstMember firstQueue).trans
      (tagged second secondMember secondQueue).symm
    have firstFound := Dictionary.get?_of_mem rising firstMember
    have secondFound := Dictionary.get?_of_mem rising secondMember
    rw [sameTag] at firstFound
    exact Prod.ext sameTag (Option.some.inj (firstFound.symm.trans secondFound))
  case drained =>
    intro entry member isQueue held
    rw [registers.backlog, if_pos rfl]

/-- A consumer of the queue that is alive feeds the stream that the receiver holds. -/
theorem streamAt_of_live
    (serves : Serves receiver queue broker parties born)
    (holding : Holding broker parties born)
    (nothingAbandoned :
      ∀ party, parties[receiver]? = some party → party.abandoned = [])
    {entry : String × Consumer}
    (member : entry ∈ broker.consumers)
    (isQueue : entry.2.queue = queue)
    (held : broker.IsHeld entry.2.stream) :
    streamAt parties receiver queue = some entry.2.stream := by
  obtain ⟨opener, opened⟩ := holding.registered entry member
  rw [isQueue] at opened
  obtain rfl := serves.opener opener (List.mem_of_getElem? opened)
  obtain ⟨keeper, party, name, seated, openedFor, keeps⟩ := holding.keepers _ held
  rw [opened] at openedFor
  obtain ⟨rfl, rfl⟩ := Prod.mk.inj (Option.some.inj openedFor)
  rcases keeps with holds | abandoned
  · exact streamAt_eq_some_iff.mpr ⟨party, seated, holds⟩
  · rw [nothingAbandoned party seated] at abandoned
    cases abandoned

end Serves

/-- The receiver alone is served by the consumers of its queue. -/
def Serving (receiver : Nat) (queue : String) (network : Network) : Prop :=
  Serves receiver queue network.broker network.parties (Event.registrations network.log)

section

variable {network : Network} {operation : Operation} {standing : Standing}

theorem serving_exchange
    {request : Request}
    {next : request.Answer → Program (Outcome operation.Value)}
    (underway : network.Underway place operation standing (.ask request next))
    (sound : network.Sound)
    (busy : network.BusyWith (ReceivesAlone receiver queue))
    (serving : network.Serving receiver queue)
    (givesNothingUp : ∀ stream, request ≠ .release stream) :
    (network.exchange place operation standing request next).Serving receiver queue := by
  have turn := underway.turn givesNothingUp
  have seated := underway.seated
  have keepsTag :
      KeepsTag (.busy operation standing (.ask request next))
        (.busy operation (standing.after operation ⟨request, network.answer request⟩)
          (next (network.answer request))) := by
    rintro client' isClient
    obtain rfl := Option.some.inj isClient
    exact ⟨standing.client, rfl, Standing.consumerId_after operation standing _⟩
  unfold Serving at serving ⊢
  rw [exchange_eq next givesNothingUp, Event.registrations_concat]
  cases turn with
  | quiet tells keeps stays =>
      simpa [tells.registration] using (serving.keepsMessages keeps).reseats seated keepsTag
  | publishes name properties body tells accepts stays noArrival =>
      simpa [tells.registration] using (serving.accepts accepts).reseats seated keepsTag
  | deletes name tells isDeletion deletes streams abandoned noArrival =>
      simpa [tells.registration] using (serving.deletes deletes).reseats seated keepsTag
  | consumes name stream tells registers isSource free streams abandoned noArrival =>
      simp only [tells.registration, Option.toList_some]
      by_cases isQueue : name = queue
      · subst isQueue
        obtain rfl : place = receiver := busy place _ operation seated rfl isSource
        exact (serving.registers_self registers seated rfl rfl).reseats seated keepsTag
      · refine (serving.registers_other registers ?_ isQueue place).reseats seated keepsTag
        exact fun entry member => sound.holding.ne_of_registers registers member
  | closes tells replaces keeps streams abandoned noArrival =>
      simpa [tells.registration] using (serving.keepsMessages keeps).reseats seated keepsTag
  | takes name stream delivery rest tells awaits isStream shape isBroker streams abandoned
      noArrival arrival =>
      have stillServing :
          Serves receiver queue (network.brokerAfter request) network.parties
            (Event.registrations network.log) := by
        refine serving.withBroker (isBroker ▸ .refl _) fun entry member isQueue held => ?_
        rw [isBroker] at held ⊢
        exact serving.drained entry member isQueue
          ((Broker.isHeld_modifyFeed fun _ => rest).mp held)
      simpa [tells.registration] using stillServing.reseats seated keepsTag
  | ceases name stream arrival tells awaits isStream undelivered shape fed isBroker streams
      abandoned noArrival isArrival =>
      rw [isBroker]
      simpa [tells.registration] using serving.reseats seated keepsTag

/-- Small steps keep serving the receiver alone. -/
theorem keeps_serving (receiver : Nat) (queue : String) :
    Keeps (fun _ => True)
      (fun network => network.Sound ∧ network.BusyWith (ReceivesAlone receiver queue))
      (Serving receiver queue) where
  joined network connection broker client atRest _ serving dialed unasked coherent := by
    have keeps := Broker.keepsMessages_dial dialed
    simpa [Serving, Event.registrations_concat, Event.registration?] using
      (serving.keepsMessages keeps).joins (.idle client)
  started network place client operation atRest _ serving _ seated :=
    serving.reseats seated fun client' isClient => ⟨client, rfl, by cases isClient; rfl⟩
  exchanged network place operation standing request next underway known serving givesNothingUp :=
    serving_exchange underway known.1 known.2 serving givesNothingUp
  dropped network place party stream party' givesUp _ serving := by
    have released :
        Serves receiver queue (network.broker.release stream) network.parties
          (Event.registrations network.log) := by
      refine serving.withBroker (.refl _) fun entry member isQueue held => ?_
      exact serving.drained entry member isQueue (Broker.isHeld_release.mp held).2
    simpa [Serving, dropStream, Event.registrations_concat, Event.registration?] using
      released.reseats givesUp.seated fun client isClient =>
        ⟨client, givesUp.client ▸ isClient, rfl⟩
  finished network place operation standing ended underway _ serving := by
    have concludes : operation.Concludes ended standing := underway.met
    obtain ⟨error, isClient⟩ := concludes.client
    simpa [Serving, finish, seat, tell, Event.registrations_concat, Event.registration?] using
      serving.reseats underway.seated fun client' isClient' =>
        ⟨standing.client, rfl, by cases isClient'; rw [isClient]⟩
  leaving network place party atRest _ serving _ seated := by
    simpa [Serving, seat, tell, Event.registrations_concat, Event.registration?] using
      serving.leaves seated party.streams
  disturbed network disturbance atRest _ serving _ := by
    have kept : Serves receiver queue (network.broker.disturb disturbance) network.parties
        (Event.registrations network.log) := by
      rcases network.broker.disturb_cases disturbance with
        ⟨keeps, -⟩ | ⟨name, properties, body, -, accepts⟩
      · exact serving.keepsMessages keeps
      · exact serving.accepts accepts
    simpa [Serving, Event.registrations_concat, Event.registration?] using kept

end

end Network

end BrokerClient
