import BrokerClient.Proofs.Network.Handing
import BrokerClient.Proofs.Network.Likeness

/-!
# Channels that a missing queue has cost

The broker closes a channel when it is asked to, and when a registration on it names a queue that is
missing.  Where connections hold and nobody closes a client, the former happens to channels only
that are about to be replaced.  So a channel that is held is of use unless a registration was
refused there.
-/

namespace BrokerClient

/-! ## Channels that are closed -/

/-- The channel that is closed by a call with such an answer. -/
def Call.closed? : (call : Call) → call.Answer → Option Channel
  | .closeChannel channel, _ => some channel
  | .consume channel _ _ _, .error (.notFound _) => some channel
  | _, _ => none

/-- The channel that is closed with an exchange. -/
def Exchange.closed? : Exchange → Option Channel
  | ⟨.transport call, answer⟩ => call.closed? answer
  | _ => none

/-- A call closes no channel but the one that it is made on. -/
theorem Call.channel?_of_closed?
    {call : Call}
    {answer : call.Answer}
    {channel : Channel}
    (closed : call.closed? answer = some channel) :
    call.channel? = some channel := by
  unfold closed? at closed
  split at closed
  · exact closed
  · exact closed
  · cases closed

namespace Broker

variable {broker after : Broker} {channel : Channel}

/-- All connections hold, and at most one channel is closed. -/
structure Closes (broker after : Broker) (closed : Option Channel) : Prop where
  generation : after.generation = broker.generation
  closed : after.closedChannels = (closed.map Channel.number).toList ++ broker.closedChannels

theorem KeepsChannels.closesNothing (keeps : broker.KeepsChannels after) :
    broker.Closes after none :=
  ⟨keeps.generation, keeps.closed⟩

theorem Closes.of_same
    (generation : after.generation = broker.generation)
    (closed : after.closedChannels = broker.closedChannels) :
    broker.Closes after none :=
  ⟨generation, closed⟩

theorem closes_dial
    {outcome : Except TransportError Connection}
    (dialed : broker.dial = (outcome, after)) :
    broker.Closes after none := by
  unfold dial at dialed
  split at dialed
  · cases dialed
    exact .of_same rfl rfl
  · cases dialed
    exact .of_same rfl rfl

/-- Where a call on a channel is refused nothing is closed. -/
theorem closes_onChannel
    {α : Type}
    {perform : Except TransportError α × Broker}
    (closed? : Except TransportError α → Option Channel)
    (refused : closed? (.error channelClosed) = none)
    (closes : broker.Closes perform.2 (closed? perform.1)) :
    broker.Closes (broker.onChannel channel perform).2
      (closed? (broker.onChannel channel perform).1) := by
  rcases onChannel_cases channel perform with performed | performed
  · rw [performed]
    exact closes
  · rw [performed, refused]
    exact .of_same rfl rfl

theorem closes_consume (queue tag : String) (flags : ConsumeFlags) :
    broker.Closes (broker.consume channel queue tag).2
      ((Call.consume channel queue tag flags).closed? (broker.consume channel queue tag).1) := by
  unfold consume
  split
  · exact ⟨rfl, rfl⟩
  · exact .of_same rfl rfl

/-- What a call closes is told by its answer. -/
theorem closes_perform (call : Call) :
    broker.Closes (broker.perform call).2 (call.closed? (broker.perform call).1) := by
  have closesNothing {α : Type} {channel : Channel} {perform : Except TransportError α × Broker}
      (keeps : broker.Closes perform.2 none) :
      broker.Closes (broker.onChannel channel perform).2 none :=
    closes_onChannel (fun _ => none) rfl keeps
  cases call with
  | dial url => exact closes_dial rfl
  | openChannel connection =>
      change broker.Closes (broker.openChannel connection).2 none
      unfold openChannel
      split
      · exact .of_same rfl rfl
      · exact .of_same rfl rfl
  | closeConnection connection => exact .of_same rfl rfl
  | qos channel prefetchCount global => exact closesNothing (.of_same rfl rfl)
  | declare channel queue flags arguments =>
      refine closesNothing ?_
      unfold declare
      dsimp only
      split
      · exact .of_same rfl rfl
      · exact .of_same rfl rfl
  | delete channel queue flags => exact closesNothing (.of_same rfl rfl)
  | publish channel publication =>
      exact closesNothing (keepsChannels_publish publication).closesNothing
  | consume channel queue tag flags =>
      exact closes_onChannel ((Call.consume channel queue tag flags).closed? ·) rfl
        (closes_consume queue tag flags)
  | cancel channel tag nowait => exact closesNothing (.of_same rfl rfl)
  | closeChannel channel => exact ⟨rfl, rfl⟩

/-- Unless connections break, no disturbance is of concern to channels. -/
theorem closes_disturb
    {disturbance : Disturbance}
    (spares : disturbance ≠ .dropConnections) :
    broker.Closes (broker.disturb disturbance) none := by
  cases disturbance with
  | pushRaw queue body =>
      change broker.Closes (broker.accept queue .none body) none
      obtain ⟨queues, feeds, accepted⟩ := broker.accept_eq queue .none body
      rw [accepted]
      exact .of_same rfl rfl
  | settle delivery settlement =>
      unfold disturb settle
      dsimp only
      split
      · cases settlement <;> exact .of_same rfl rfl
      · exact .of_same rfl rfl
  | dropConnections => exact absurd rfl spares
  | _ => exact .of_same rfl rfl

end Broker

namespace Network

theorem closes_brokerAfter (network : Network) (request : Request) :
    network.broker.Closes (network.brokerAfter request)
      (Exchange.closed? ⟨request, network.answer request⟩) := by
  cases request with
  | transport call => exact Broker.closes_perform call
  | next stream timeout =>
      change network.broker.Closes (network.brokerAfter (.next stream timeout)) none
      dsimp only [brokerAfter]
      cases polled : network.broker.poll stream with
      | item delivery after =>
          obtain ⟨rest, -, rfl⟩ := Broker.poll_item polled
          exact .of_same rfl rfl
      | _ => exact .of_same rfl rfl
  | _ => exact .of_same rfl rfl

end Network

/-! ## Registrations that are refused -/

namespace Event

/-- The channel on which a registration is refused because the queue is missing. -/
def refusal? : Event → Option Channel
  | .asked _ _ ⟨.transport (.consume channel _ _ _), .error (.notFound _)⟩ => some channel
  | _ => none

/-- A registration was refused on a channel. -/
def Refused (channel : Channel) (log : List Event) : Prop :=
  ∃ event ∈ log, event.refusal? = some channel

theorem refused_append {channel : Channel} {log told : List Event} :
    Refused channel (log ++ told) ↔ Refused channel log ∨ Refused channel told := by
  simp only [Refused, List.mem_append, or_and_right, exists_or]

theorem refused_singleton {channel : Channel} {event : Event} :
    Refused channel [event] ↔ event.refusal? = some channel := by
  simp [Refused]

variable {place : Nat} {operation : Operation} {channel : Channel}

/-- A registration that is refused costs the channel. -/
theorem closed?_of_refusal?
    {exchange : Exchange}
    (refused : (Event.asked place operation exchange).refusal? = some channel) :
    exchange.closed? = some channel := by
  unfold refusal? at refused
  split at refused
  · next asked =>
      cases asked
      exact refused
  · cases refused

/-- A channel that is closed but still held afterwards was refused a registration. -/
theorem refusal?_of_closed?
    {client : Client}
    {call : Call}
    {answer : call.Answer}
    {held : Channel}
    (goesOn : operation.isClose = false)
    (isHeld : (client.afterCall operation call answer).channel = some held)
    (closed : call.closed? answer = some channel) :
    (Event.asked place operation ⟨.transport call, answer⟩).refusal? = some channel := by
  unfold Call.closed? at closed
  split at closed
  · rw [Client.afterCall, goesOn] at isHeld
    cases isHeld
  · exact closed
  · cases closed

end Event

/-- A move that neither breaks connections nor closes a client. -/
def Move.IsGentle (move : Move) : Prop :=
  move ≠ .disturb .dropConnections ∧ ∀ place, move ≠ .start place .close

/-- The channel that the client of a party holds. -/
def Party.channel? (party : Party) : Option Channel :=
  party.client?.bind Client.channel

namespace Network

/-! ## Channels that are held -/

/-- The channel that is held in a place. -/
def channel? (network : Network) (place : Nat) : Option Channel :=
  network.parties[place]?.bind Party.channel?

/-- A channel of the current generation that nobody has had before. -/
structure Fresh (network : Network) (channel : Channel) : Prop where
  current : channel.generation = network.broker.generation
  notClosed : channel.number ∉ network.broker.closedChannels
  isNew : ∀ place held, network.channel? place = some held → held.number ≠ channel.number

/--
All channels that are held are of the current generation, no two parties hold the same one, and one
that is closed was refused a registration.
-/
structure Equipped (network : Network) : Prop where
  current :
    ∀ place channel,
      network.channel? place = some channel → channel.generation = network.broker.generation
  closed :
    ∀ place channel,
      network.channel? place = some channel →
        channel.number ∈ network.broker.closedChannels → Event.Refused channel network.log
  refused :
    ∀ channel, Event.Refused channel network.log → channel.number ∈ network.broker.closedChannels
  apart :
    ∀ place other channel held,
      network.channel? place = some channel → network.channel? other = some held →
        channel.number = held.number → place = other

variable {network after : Network} {place : Nat}

theorem channel?_of_seated
    {party : Party}
    (seated : network.parties[place]? = some party) :
    network.channel? place = party.channel? := by
  rw [channel?, seated]
  rfl

/-- Exactly channels that were not refused a registration are usable. -/
theorem Equipped.isOpen_iff
    (equipped : network.Equipped)
    {channel : Channel}
    (isHeld : network.channel? place = some channel) :
    network.broker.isOpen channel = true ↔ ¬ Event.Refused channel network.log := by
  have closed_iff :
      channel.number ∈ network.broker.closedChannels ↔ Event.Refused channel network.log :=
    ⟨equipped.closed place channel isHeld, equipped.refused channel⟩
  simp [Broker.isOpen, equipped.current place channel isHeld, ← closed_iff]

/--
One party goes on: the others hold what they held, and it keeps its channel, gets a fresh one or
holds none any more.  What it closes is its own channel, which it keeps only if it is told that a
registration was refused there.
-/
theorem Equipped.advance
    (equipped : network.Equipped)
    {closed : Option Channel}
    {told : List Event}
    (closes : network.broker.Closes after.broker closed)
    (log : after.log = network.log ++ told)
    (own : ∀ channel, closed = some channel → network.channel? place = some channel)
    (refuses : ∀ channel, Event.Refused channel told → closed = some channel)
    (others :
      ∀ other channel,
        other ≠ place → after.channel? other = some channel → network.channel? other = some channel)
    (left :
      ∀ channel,
        after.channel? place = some channel →
          network.channel? place = some channel ∧
              (closed = some channel → Event.Refused channel told) ∨
            network.Fresh channel) :
    after.Equipped := by
  have closed_cases (number : Nat) (isClosed : number ∈ after.broker.closedChannels) :
      (∃ channel, closed = some channel ∧ channel.number = number) ∨
        number ∈ network.broker.closedChannels := by
    simpa [closes.closed] using isClosed
  have held_cases (other : Nat) (channel : Channel) (isHeld : after.channel? other = some channel) :
      network.channel? other = some channel ∨ other = place ∧ network.Fresh channel := by
    by_cases same : other = place
    · subst same
      rcases left channel isHeld with ⟨wasHeld, -⟩ | fresh
      · exact .inl wasHeld
      · exact .inr ⟨rfl, fresh⟩
    · exact .inl (others other channel same isHeld)
  refine ⟨fun other channel isHeld => ?_, fun other channel isHeld isClosed => ?_,
    fun channel isRefused => ?_, fun other another channel held isHeld isHeldThere same => ?_⟩
  · rw [closes.generation]
    rcases held_cases other channel isHeld with wasHeld | ⟨-, fresh⟩
    · exact equipped.current other channel wasHeld
    · exact fresh.current
  · rw [log, Event.refused_append]
    rcases held_cases other channel isHeld with wasHeld | ⟨-, fresh⟩
    · rcases closed_cases channel.number isClosed with ⟨gone, isGone, sameNumber⟩ | wasClosed
      · -- A channel with this number is held by the one who closes it, so it is the same one.
        obtain rfl := equipped.apart place other gone channel (own gone isGone) wasHeld sameNumber
        obtain rfl : gone = channel := Option.some.inj ((own gone isGone).symm.trans wasHeld)
        rcases left gone isHeld with ⟨-, tells⟩ | fresh
        · exact .inr (tells isGone)
        · exact absurd rfl (fresh.isNew _ gone wasHeld)
      · exact .inl (equipped.closed other channel wasHeld wasClosed)
    · rcases closed_cases channel.number isClosed with ⟨gone, isGone, sameNumber⟩ | wasClosed
      · exact absurd sameNumber (fresh.isNew place gone (own gone isGone))
      · exact absurd wasClosed fresh.notClosed
  · rw [closes.closed]
    rw [log, Event.refused_append] at isRefused
    rcases isRefused with wasRefused | isRefused
    · exact List.mem_append_right _ (equipped.refused channel wasRefused)
    · rw [refuses channel isRefused]
      exact List.mem_append_left _ (by simp)
  · rcases held_cases other channel isHeld with wasHeld | ⟨isPlace, fresh⟩
    · rcases held_cases another held isHeldThere with wasHeldThere | ⟨-, freshThere⟩
      · exact equipped.apart other another channel held wasHeld wasHeldThere same
      · exact absurd same (freshThere.isNew other channel wasHeld)
    · rcases held_cases another held isHeldThere with wasHeldThere | ⟨isPlaceThere, -⟩
      · exact absurd same.symm (fresh.isNew another held wasHeldThere)
      · exact isPlace.trans isPlaceThere.symm

/-- In other places the same channels are held. -/
theorem channel?_of_set
    {party : Party}
    {other : Nat}
    {channel : Channel}
    (parties : after.parties = network.parties.set place party)
    (differs : other ≠ place)
    (isHeld : after.channel? other = some channel) :
    network.channel? other = some channel := by
  rw [channel?, parties, List.getElem?_set_ne (Ne.symm differs)] at isHeld
  exact isHeld

/-- A party that takes a place with the channel that was held there leaves all as they were. -/
theorem channel?_of_reseated
    {party : Party}
    (parties : after.parties = network.parties.set place party)
    (keeps : ∀ channel, party.channel? = some channel → network.channel? place = some channel)
    (other : Nat)
    (channel : Channel)
    (isHeld : after.channel? other = some channel) :
    network.channel? other = some channel := by
  by_cases same : other = place
  · subst same
    obtain ⟨found, seated, isChannel⟩ := Option.bind_eq_some_iff.mp isHeld
    rw [parties] at seated
    rcases seated_set seated with ⟨-, rfl⟩ | ⟨differs, -⟩
    · exact keeps channel isChannel
    · exact absurd rfl differs
  · exact channel?_of_set parties same isHeld

/-- Where nothing is closed and all hold at most what they held, all is as before. -/
theorem Equipped.steady
    (equipped : network.Equipped)
    {told : List Event}
    (closesNothing : network.broker.Closes after.broker none)
    (log : after.log = network.log ++ told)
    (tellsNothing : ∀ event ∈ told, event.refusal? = none)
    (keeps :
      ∀ other channel,
        after.channel? other = some channel → network.channel? other = some channel) :
    after.Equipped := by
  refine @Equipped.advance network after 0 equipped none told closesNothing log ?_ ?_ ?_ ?_
  · exact fun channel isClosed => by cases isClosed
  · rintro channel ⟨event, member, isRefusal⟩
    cases (tellsNothing event member).symm.trans isRefusal
  · exact fun other channel _ => keeps other channel
  · exact fun channel isHeld => .inl ⟨keeps 0 channel isHeld, fun isClosed => by cases isClosed⟩

/-- A channel that is opened is fresh. -/
theorem fresh_of_openChannel
    (numbered : network.Numbered)
    {connection : Connection}
    {channel : Channel}
    {broker : Broker}
    (opens : network.broker.openChannel connection = (.ok channel, broker)) :
    network.Fresh channel := by
  unfold Broker.openChannel at opens
  split at opens
  · cases opens
  · next usable =>
      cases opens
      refine ⟨?_, fun member => ?_, fun place held isHeld same => ?_⟩
      · simpa [Broker.isClosed] using usable
      · exact Nat.not_succ_le_self _ (numbered.closed _ member)
      · obtain ⟨party, seated, isChannel⟩ := Option.bind_eq_some_iff.mp isHeld
        obtain ⟨client, isClient, isHeld⟩ := Option.bind_eq_some_iff.mp isChannel
        have opened : held.number ≤ network.broker.channelsOpened :=
          numbered.held place party seated client held isClient isHeld
        rw [same] at opened
        exact Nat.not_succ_le_self _ opened

/-- After an exchange a party holds a channel that it held before, or a fresh one. -/
theorem held_exchange
    {operation : Operation}
    {standing : Standing}
    {request : Request}
    {next : request.Answer → Program (Outcome operation.Value)}
    (underway : network.Underway place operation standing (.ask request next))
    (numbered : network.Numbered)
    (other : Nat)
    (channel : Channel)
    (isHeld :
      (network.exchange place operation standing request next).channel? other = some channel) :
    network.channel? other = some channel ∨ network.Fresh channel := by
  have parties := @parties_exchange network place operation standing request next
  by_cases same : other = place
  · subst same
    have wasHeld : network.channel? other = standing.client.channel :=
      channel?_of_seated underway.seated
    rw [channel?, parties, List.getElem?_set_self (lt_of_seated underway.seated)] at isHeld
    rw [wasHeld]
    cases request with
    | transport call =>
        by_cases isOpening : call.kind = .openChannel
        · obtain ⟨connection, rfl⟩ := Call.eq_openChannel isOpening
          change
            (standing.client.afterCall operation (.openChannel connection)
              (network.broker.openChannel connection).1).channel = some channel at isHeld
          cases opens : network.broker.openChannel connection with
          | mk answer broker =>
              rw [opens] at isHeld
              cases answer with
              | ok opened =>
                  obtain rfl : opened = channel := Option.some.inj isHeld
                  exact .inr (fresh_of_openChannel numbered opens)
              | error error => exact .inl isHeld
        · exact .inl (Client.channel_of_afterCall isOpening isHeld)
    | next stream timeout =>
        have isSame := Standing.channel_arrived operation standing
          (network.answer (.next stream timeout))
        exact .inl (isSame.symm.trans isHeld)
    | release | isClosed | sleep | describe | freshId => exact .inl isHeld
  · exact .inl (channel?_of_set parties same isHeld)

/-- A party closes no channel but the one that it holds. -/
theorem held_of_closed?
    {operation : Operation}
    {standing : Standing}
    {request : Request}
    {next : request.Answer → Program (Outcome operation.Value)}
    (underway : network.Underway place operation standing (.ask request next))
    {channel : Channel}
    (isClosed : Exchange.closed? ⟨request, network.answer request⟩ = some channel) :
    network.channel? place = some channel := by
  have permitted : standing.Permits operation request := underway.met.1
  rw [channel?_of_seated underway.seated]
  cases request with
  | transport call => exact permitted.2.1 channel (Call.channel?_of_closed? isClosed)
  | _ => cases isClosed

theorem equipped_exchange
    {operation : Operation}
    {standing : Standing}
    {request : Request}
    {next : request.Answer → Program (Outcome operation.Value)}
    (underway : network.Underway place operation standing (.ask request next))
    (numbered : network.Numbered)
    (goesOn : operation.isClose = false)
    (equipped : network.Equipped)
    (givesNothingUp : ∀ stream, request ≠ .release stream) :
    (network.exchange place operation standing request next).Equipped := by
  have held := held_exchange underway numbered place
  rw [exchange_eq next givesNothingUp] at held ⊢
  refine equipped.advance (closes_brokerAfter network request) rfl
    (fun channel => held_of_closed? underway) (fun channel isRefused => ?_)
    (fun other channel => channel?_of_set rfl) fun channel isHeld => ?_
  · exact Event.closed?_of_refusal? (Event.refused_singleton.mp isRefused)
  · refine (held channel isHeld).imp (fun heldBefore => ⟨heldBefore, fun isClosed => ?_⟩) id
    rw [channel?, List.getElem?_set_self (lt_of_seated underway.seated)] at isHeld
    rw [Event.refused_singleton]
    cases request with
    | transport call => exact Event.refusal?_of_closed? goesOn isHeld isClosed
    | _ => cases isClosed

/-- All parties are numbered in order, and nobody is about to close its client. -/
def GoesOn (network : Network) : Prop :=
  network.Numbered ∧ network.BusyWith fun _ operation => operation.isClose = false

theorem keeps_goesOn : Keeps Move.IsGentle Anything GoesOn :=
  (keeps_numbered.restrict fun _ _ => trivial).and
    (((keeps_busyWith fun _ operation => operation.isClose = false).restrict fun move gentle => by
      rintro place operation rfl
      cases operation with
      | close => exact absurd rfl (gentle.2 place)
      | _ => rfl).given _)

/-- In all gentle small steps a channel that somebody keeps is closed only by a refusal. -/
theorem keeps_equipped : Keeps Move.IsGentle GoesOn Equipped where
  joined network connection broker client _ _ equipped dialed unasked _ := by
    refine equipped.steady (Broker.closes_dial dialed) rfl (by simp [Event.refusal?]) ?_
    intro other channel isHeld
    obtain ⟨party, seated, isChannel⟩ := Option.bind_eq_some_iff.mp isHeld
    rcases seated_concat seated with wasSeated | ⟨-, rfl⟩
    · exact (channel?_of_seated wasSeated).trans isChannel
    · cases unasked.channel.symm.trans isChannel
  started network place client operation _ _ equipped _ seated :=
    equipped.steady (.of_same rfl rfl) (List.append_nil _).symm (by simp)
      (channel?_of_reseated rfl fun _ isHeld => (channel?_of_seated seated).trans isHeld)
  exchanged network place operation standing request next underway goesOn equipped :=
    equipped_exchange underway goesOn.1 (goesOn.2 place _ operation underway.seated rfl) equipped
  dropped network place party stream party' givesUp _ equipped := by
    refine equipped.steady (.of_same rfl rfl) rfl (by simp [Event.refusal?])
      (channel?_of_reseated rfl fun channel isHeld => ?_)
    rw [channel?_of_seated givesUp.seated, Party.channel?, ← givesUp.client]
    exact isHeld
  finished network place operation standing ended underway _ equipped := by
    have concludes : operation.Concludes ended standing := underway.met
    obtain ⟨error, isClient⟩ := concludes.client
    refine equipped.steady (.of_same rfl rfl) rfl (by simp [Event.refusal?])
      (channel?_of_reseated rfl fun channel isHeld => ?_)
    change ended.2.channel = some channel at isHeld
    rw [isClient] at isHeld
    exact (channel?_of_seated underway.seated).trans isHeld
  leaving network place party _ _ equipped _ seated :=
    equipped.steady (.of_same rfl rfl) rfl (by simp [Event.refusal?])
      (channel?_of_reseated rfl fun channel isHeld => by cases isHeld)
  disturbed network disturbance _ _ equipped gentle :=
    equipped.steady
      (Broker.closes_disturb fun breaks => gentle.1 (congrArg Move.disturb breaks)) rfl
      (by simp [Event.refusal?]) fun _ _ isHeld => isHeld

theorem equipped_run
    (arbitration : Arbitration)
    {moves : List Move}
    (gentle : ∀ move ∈ moves, move.IsGentle) :
    ((start arbitration).run moves).Equipped := by
  have goesOn : (start arbitration).GoesOn := by
    refine ⟨numbered_run arbitration [], ?_⟩
    simp [BusyWith, start]
  have equipped : (start arbitration).Equipped := by
    constructor <;> simp [channel?, start, Event.Refused]
  exact ((keeps_goesOn.and keeps_equipped).run (by simp [AtRest, start]) ⟨goesOn, equipped⟩
    gentle).2.2

end Network

end BrokerClient
