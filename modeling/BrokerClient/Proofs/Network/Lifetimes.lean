import BrokerClient.Proofs.Network.Dialing
import BrokerClient.Proofs.Network.Interleaving

/-!
# How long channels and connections last

A channel is of use until it is closed, a registration on it is refused or all connections break; a
connection, until all of them break.  Which of these has happened since it was opened can be read
from the log, and it tells whether the channel is of use now.  So nothing that is lost comes back;
and a call on a channel that is lost leaves the broker as it is.
-/

namespace BrokerClient

/-! ## What events say of channels and connections -/

namespace Exchange

/-- The channel that is opened with an exchange. -/
def opened? : Exchange → Option Channel
  | ⟨.transport (.openChannel _), .ok channel⟩ => some channel
  | _ => none

/-- The connection that is dialed with an exchange. -/
def dialed? : Exchange → Option Connection
  | ⟨.transport (.dial _), .ok connection⟩ => some connection
  | _ => none

end Exchange

namespace Event

/-- The channel that is opened with an event. -/
def opened? : Event → Option Channel
  | .asked _ _ exchange => exchange.opened?
  | _ => none

/-- The connection that is dialed with an event. -/
def dialed? : Event → Option Connection
  | .joined connection => some connection
  | .asked _ _ exchange => exchange.dialed?
  | _ => none

/-- The channel that is closed with an event, be it by a registration that is refused. -/
def closed? : Event → Option Channel
  | .asked _ _ exchange => exchange.closed?
  | _ => none

/-- A channel ends with an event: it is closed, or all connections break. -/
def Ends (channel : Channel) (event : Event) : Prop :=
  event.closed? = some channel ∨ event.breaksAll = true

/-- What an event says of the channels and connections of the broker before and after it. -/
structure Bears (event : Event) (broker after : Broker) : Prop where
  opened :
    ∀ channel, event.opened? = some channel →
      channel = ⟨broker.channelsOpened + 1, broker.generation⟩ ∧
        channel.number ≤ after.channelsOpened
  dialed :
    ∀ connection, event.dialed? = some connection → connection.generation = broker.generation
  counted : broker.channelsOpened ≤ after.channelsOpened
  closed :
    after.closedChannels = (event.closed?.map Channel.number).toList ++ broker.closedChannels
  generation : after.generation = broker.generation + if event.breaksAll then 1 else 0

/-- An event with which nothing is opened, dialed, closed or broken. -/
structure IsQuiet (event : Event) : Prop where
  opened : event.opened? = none
  dialed : event.dialed? = none
  closed : event.closed? = none
  breaks : event.breaksAll = false

variable {event : Event} {broker after : Broker}

theorem IsQuiet.bears
    (quiet : event.IsQuiet)
    (keeps : broker.KeepsChannels after) :
    event.Bears broker after where
  opened channel isOpened := by cases quiet.opened.symm.trans isOpened
  dialed connection isDialed := by cases quiet.dialed.symm.trans isDialed
  counted := Nat.le_of_eq keeps.opened.symm
  closed := by simp [quiet.closed, keeps.closed]
  generation := by simp [quiet.breaks, keeps.generation]

/-- With an opening nothing is closed and nothing breaks. -/
theorem ends_of_opened? {channel : Channel} (opened : event.opened? = some channel) :
    event.closed? = none ∧ event.breaksAll = false := by
  cases event with
  | asked place operation exchange =>
      obtain ⟨request, answer⟩ := exchange
      cases request with
      | transport call =>
          cases call with
          | openChannel connection => exact ⟨rfl, rfl⟩
          | _ => cases opened
      | _ => cases opened
  | _ => cases opened

end Event

namespace Broker

variable {broker after : Broker}

/-- Where a channel is opened it is the next one of the current generation. -/
theorem openChannel_eq
    {connection : Connection}
    {channel : Channel}
    (opens : (broker.openChannel connection).1 = .ok channel) :
    channel = ⟨broker.channelsOpened + 1, broker.generation⟩ ∧
      channel.number ≤ (broker.openChannel connection).2.channelsOpened := by
  unfold openChannel at opens ⊢
  split at opens
  · cases opens
  · next alive =>
      cases opens
      rw [if_neg alive]
      have current : connection.generation = broker.generation := by
        simpa [isClosed] using alive
      exact ⟨by rw [current], Nat.le_refl _⟩

/-- No call takes a channel back. -/
theorem channelsOpened_perform (call : Call) :
    broker.channelsOpened ≤ (broker.perform call).2.channelsOpened := by
  have onChannel {α : Type} {channel : Channel} {perform : Except TransportError α × Broker}
      (same : perform.2.channelsOpened = broker.channelsOpened) :
      broker.channelsOpened ≤ (broker.onChannel channel perform).2.channelsOpened := by
    rcases onChannel_cases channel perform with performed | performed
    · rw [performed, same]
    · rw [performed]
  cases call with
  | dial url => exact (keepsNumbers_dial rfl).opened
  | openChannel connection => exact (keepsNumbers_openChannel connection).opened
  | closeConnection connection => exact Nat.le_refl _
  | qos channel prefetchCount global => exact onChannel rfl
  | declare channel queue flags arguments =>
      refine onChannel ?_
      unfold declare
      dsimp only
      split
      · rfl
      · rfl
  | delete channel queue flags => exact onChannel rfl
  | publish channel publication => exact onChannel (keepsChannels_publish publication).opened
  | consume channel queue tag flags =>
      refine onChannel ?_
      unfold consume
      split
      · rfl
      · rfl
  | cancel channel tag nowait => exact onChannel rfl
  | closeChannel channel => exact Nat.le_refl _

/-- Any call on a channel that is not open, but to close it, fails and changes nothing. -/
theorem perform_of_not_isOpen
    {call : Call}
    {channel : Channel}
    (isOn : call.channel? = some channel)
    (staysOpen : call.kind ≠ .closeChannel)
    (lost : broker.isOpen channel = false) :
    broker.perform call = (.error channelClosed, broker) := by
  cases call with
  | dial | openChannel | closeConnection => cases isOn
  | closeChannel => exact absurd rfl staysOpen
  | qos | declare | delete | publish | consume | cancel =>
      obtain rfl := Option.some.inj isOn
      exact onChannel_of_not_isOpen lost _

theorem keepsChannels_disturb
    {disturbance : Disturbance}
    (spares : disturbance ≠ .dropConnections) :
    broker.KeepsChannels (broker.disturb disturbance) := by
  have closes := @closes_disturb broker disturbance spares
  refine ⟨closes.generation, closes.closed, ?_⟩
  cases disturbance with
  | pushRaw queue body =>
      change (broker.accept queue .none body).channelsOpened = broker.channelsOpened
      obtain ⟨queues, feeds, accepted⟩ := broker.accept_eq queue .none body
      rw [accepted]
  | settle delivery settlement =>
      unfold disturb settle
      dsimp only
      split
      · cases settlement <;> rfl
      · rfl
  | _ => rfl

end Broker

namespace Event

variable {broker after : Broker}

/-- Whoever joins does so on a connection of the current generation. -/
theorem bears_joined
    {connection : Connection}
    (dialed : broker.dial = (.ok connection, after)) :
    (Event.joined connection).Bears broker after where
  opened channel isOpened := by cases isOpened
  dialed other isDialed := by
    obtain rfl : connection = other := Option.some.inj isDialed
    exact Broker.generation_of_dial dialed
  counted := (Broker.keepsNumbers_dial dialed).opened
  closed := (Broker.closes_dial dialed).closed
  generation := (Broker.closes_dial dialed).generation

theorem bears_disturbed (broker : Broker) (disturbance : Disturbance) :
    (Event.disturbed disturbance).Bears broker (broker.disturb disturbance) := by
  by_cases breaks : disturbance = .dropConnections
  · subst breaks
    exact ⟨nofun, nofun, Nat.le_refl _, rfl, rfl⟩
  · refine IsQuiet.bears ⟨rfl, rfl, rfl, ?_⟩ (Broker.keepsChannels_disturb breaks)
    cases disturbance with
    | dropConnections => exact absurd rfl breaks
    | _ => rfl

end Event

namespace Network

variable {network after : Network} {place : Nat} {operation : Operation} {standing : Standing}

theorem broker_exchange
    {request : Request}
    (next : request.Answer → Program (Outcome operation.Value)) :
    (network.exchange place operation standing request next).broker =
      network.brokerAfter request := by
  cases request <;> rfl

theorem channelsOpened_brokerAfter (request : Request) :
    network.broker.channelsOpened ≤ (network.brokerAfter request).channelsOpened := by
  cases request with
  | transport call => exact Broker.channelsOpened_perform call
  | next stream timeout =>
      dsimp only [brokerAfter]
      cases polled : network.broker.poll stream with
      | item delivery after =>
          obtain ⟨rest, -, rfl⟩ := Broker.poll_item polled
          exact Nat.le_refl _
      | _ => exact Nat.le_refl _
  | _ => exact Nat.le_refl _

/-- What is asked is told, with all that it opens, dials and closes. -/
theorem bears_asked (place : Nat) (operation : Operation) (request : Request) :
    (Event.asked place operation ⟨request, network.answer request⟩).Bears network.broker
      (network.brokerAfter request) where
  opened channel isOpened := by
    cases request with
    | transport call =>
        cases call with
        | openChannel connection =>
            refine Broker.openChannel_eq ?_
            change
              Exchange.opened?
                ⟨.transport (.openChannel connection), (network.broker.openChannel connection).1⟩ =
                  some channel at isOpened
            cases opens : (network.broker.openChannel connection).1 with
            | ok fresh =>
                rw [opens] at isOpened
                exact congrArg Except.ok (Option.some.inj isOpened)
            | error error =>
                rw [opens] at isOpened
                cases isOpened
        | _ => cases isOpened
    | _ => cases isOpened
  dialed connection isDialed := by
    cases request with
    | transport call =>
        cases call with
        | dial url =>
            change
              Exchange.dialed? ⟨.transport (.dial url), network.broker.dial.1⟩ =
                some connection at isDialed
            cases dials : network.broker.dial with
            | mk outcome after =>
                rw [dials] at isDialed
                cases outcome with
                | ok fresh =>
                    obtain rfl : fresh = connection := Option.some.inj isDialed
                    exact Broker.generation_of_dial dials
                | error error => cases isDialed
        | _ => cases isDialed
    | _ => cases isDialed
  counted := channelsOpened_brokerAfter request
  closed := (closes_brokerAfter network request).closed
  generation := (closes_brokerAfter network request).generation

/-! ## What a small step comes to for channels -/

/--
A small step tells nothing and leaves the broker as it is, or it tells what becomes of channels and
connections.  Only a channel that is held is closed, and only one that is opened comes to be held.
-/
inductive Passes (network after : Network) : Prop where
  | quietly
      (broker : after.broker = network.broker)
      (log : after.log = network.log)
      (held :
        ∀ place channel,
          after.channel? place = some channel → ∃ other, network.channel? other = some channel)
  | telling
      (event : Event)
      (log : after.log = network.log ++ [event])
      (bears : event.Bears network.broker after.broker)
      (closes :
        ∀ channel, event.closed? = some channel → ∃ place, network.channel? place = some channel)
      (held :
        ∀ place channel,
          after.channel? place = some channel →
            (∃ other, network.channel? other = some channel) ∨ event.opened? = some channel)

/-- A party takes a place with a quiet event, with no channel but the one that was held there. -/
theorem Passes.quiet
    {party : Party}
    {event : Event}
    (log : after.log = network.log ++ [event])
    (parties : after.parties = network.parties.set place party)
    (quiet : event.IsQuiet)
    (keeps : network.broker.KeepsChannels after.broker)
    (held : ∀ channel, party.channel? = some channel → network.channel? place = some channel) :
    network.Passes after :=
  .telling event log (quiet.bears keeps)
    (fun channel isClosed => by cases quiet.closed.symm.trans isClosed)
    fun other channel isHeld => .inl ⟨other, channel?_of_reseated parties held other channel isHeld⟩

/-- After an exchange a party holds the channel that it held before, or one that was opened. -/
theorem held_asked
    {request : Request}
    {next : request.Answer → Program (Outcome operation.Value)}
    (seated : network.parties[place]? = some (.busy operation standing (.ask request next)))
    {other : Nat}
    {channel : Channel}
    (isHeld :
      (network.exchange place operation standing request next).channel? other = some channel) :
    network.channel? other = some channel ∨
      Exchange.opened? ⟨request, network.answer request⟩ = some channel := by
  have parties := @parties_exchange network place operation standing request next
  by_cases same : other = place
  · subst same
    have wasHeld : network.channel? other = standing.client.channel := channel?_of_seated seated
    rw [channel?, parties, List.getElem?_set_self (lt_of_seated seated)] at isHeld
    rw [wasHeld]
    cases request with
    | transport call =>
        by_cases isOpening : call.kind = .openChannel
        · obtain ⟨connection, rfl⟩ := Call.eq_openChannel isOpening
          cases answered : network.answer (.transport (.openChannel connection)) with
          | ok fresh =>
              rw [answered] at isHeld
              exact .inr isHeld
          | error error =>
              rw [answered] at isHeld
              exact .inl isHeld
        · exact .inl (Client.channel_of_afterCall isOpening isHeld)
    | next stream timeout =>
        have isSame := Standing.channel_arrived operation standing
          (network.answer (.next stream timeout))
        exact .inl (isSame.symm.trans isHeld)
    | release | isClosed | sleep | describe | freshId => exact .inl isHeld
  · exact .inl (channel?_of_set parties same isHeld)

/-- An exchange closes no channel but the one that is held. -/
theorem held_of_asked
    (lawful : network.Lawful)
    {request : Request}
    {next : request.Answer → Program (Outcome operation.Value)}
    (seated : network.parties[place]? = some (.busy operation standing (.ask request next)))
    {channel : Channel}
    (isClosed : Exchange.closed? ⟨request, network.answer request⟩ = some channel) :
    network.channel? place = some channel := by
  obtain ⟨-, permitted, -⟩ := lawful place _ seated
  rw [channel?_of_seated seated]
  cases request with
  | transport call => exact permitted.2.1 channel (Call.channel?_of_closed? isClosed)
  | _ => cases isClosed

theorem Lawful.passes (lawful : network.Lawful) (ticks : network.Ticks after) :
    network.Passes after := by
  cases ticks with
  | stays => exact .quietly rfl rfl fun place channel isHeld => ⟨place, isHeld⟩
  | joined dialed unasked coherent =>
      refine .telling _ rfl (Event.bears_joined dialed) nofun fun place channel isHeld => ?_
      obtain ⟨party, seated, isChannel⟩ := Option.bind_eq_some_iff.mp isHeld
      rcases seated_concat seated with wasSeated | ⟨-, rfl⟩
      · exact .inl ⟨place, (channel?_of_seated wasSeated).trans isChannel⟩
      · cases unasked.channel.symm.trans isChannel
  | started operation idle =>
      refine .quietly rfl rfl fun other channel isHeld => ⟨other, ?_⟩
      refine channel?_of_reseated rfl (fun kept held => ?_) other channel isHeld
      exact (channel?_of_seated idle).trans held
  | @asked place operation standing request next seated =>
      by_cases releases : ∃ stream, request = .release stream
      · obtain ⟨stream, rfl⟩ := releases
        refine .quiet rfl rfl ⟨rfl, rfl, rfl, rfl⟩ ⟨rfl, rfl, rfl⟩ fun channel held => ?_
        exact (channel?_of_seated seated).trans held
      · have givesNothingUp : ∀ stream, request ≠ .release stream :=
          fun stream same => releases ⟨stream, same⟩
        refine .telling (.asked place operation ⟨request, network.answer request⟩) ?_ ?_ ?_ ?_
        · rw [exchange_eq next givesNothingUp]
        · rw [broker_exchange]
          exact bears_asked place operation request
        · exact fun channel isClosed => ⟨place, held_of_asked lawful seated isClosed⟩
        · exact fun other channel isHeld =>
            (held_asked seated isHeld).imp (fun held => ⟨other, held⟩) id
  | @finished place operation standing ended seated =>
      obtain ⟨-, concludes⟩ := lawful place _ seated
      obtain ⟨error, isClient⟩ := concludes.client
      refine .quiet rfl rfl ⟨rfl, rfl, rfl, rfl⟩ ⟨rfl, rfl, rfl⟩ fun channel isHeld => ?_
      change ended.2.channel = some channel at isHeld
      rw [isClient] at isHeld
      exact (channel?_of_seated seated).trans isHeld
  | dropped seated =>
      refine .quiet rfl rfl ⟨rfl, rfl, rfl, rfl⟩ ⟨rfl, rfl, rfl⟩ fun channel isHeld => ?_
      cases isHeld
  | left seated =>
      refine .quiet rfl rfl ⟨rfl, rfl, rfl, rfl⟩ ⟨rfl, rfl, rfl⟩ fun channel isHeld => ?_
      cases isHeld
  | disturbed disturbance =>
      exact .telling _ rfl (Event.bears_disturbed _ disturbance) nofun
        fun place channel isHeld => .inl ⟨place, isHeld⟩

end Network

/-! ## What the log says of channels and connections -/

namespace Event

/-- All channels that were opened. -/
def channels (log : List Event) : List Channel :=
  log.filterMap opened?

/-- All connections that were dialed. -/
def connections (log : List Event) : List Connection :=
  log.filterMap dialed?

theorem channels_concat
    {log : List Event}
    {event : Event}
    {channel : Channel}
    (isOpened : channel ∈ channels (log ++ [event])) :
    channel ∈ channels log ∨ event.opened? = some channel := by
  simpa [channels] using isOpened

/-- With a dialing nothing breaks. -/
theorem breaksAll_of_dialed?
    {event : Event}
    {connection : Connection}
    (dialed : event.dialed? = some connection) :
    event.breaksAll = false := by
  cases event with
  | disturbed disturbance => cases dialed
  | _ => rfl

end Event

theorem Broker.isOpen_iff {broker : Broker} {channel : Channel} :
    broker.isOpen channel = true ↔
      channel.number ∉ broker.closedChannels ∧ channel.generation = broker.generation := by
  simp [Broker.isOpen]

theorem Broker.isClosed_iff {broker : Broker} {connection : Connection} :
    broker.isClosed connection = true ↔ connection.generation ≠ broker.generation := by
  simp [Broker.isClosed]

/--
A broker as the log tells of it.  Its channels are told apart by their numbers, none of them is of a
later generation, and none is closed that was not opened; a channel is open as long as it has not
ended, and a connection as long as nothing broke.
-/
structure Chronicle (log : List Event) (broker : Broker) : Prop where
  numbered :
    ∀ channel ∈ Event.channels log,
      channel.number ≤ broker.channelsOpened ∧ channel.generation ≤ broker.generation
  apart :
    ∀ channel ∈ Event.channels log, ∀ other ∈ Event.channels log,
      channel.number = other.number → channel = other
  closed : broker.Numbered
  dialed :
    ∀ connection ∈ Event.connections log, connection.generation ≤ broker.generation
  isOpen_iff :
    ∀ earlier event since channel,
      log = earlier ++ event :: since → event.opened? = some channel →
        (broker.isOpen channel = true ↔ ∀ later ∈ since, ¬ later.Ends channel)
  isClosed_iff :
    ∀ earlier event since connection,
      log = earlier ++ event :: since → event.dialed? = some connection →
        (broker.isClosed connection = true ↔ ∃ later ∈ since, later.breaksAll = true)

namespace Chronicle

variable {log : List Event} {event : Event} {broker after : Broker} {channel : Channel}

theorem nil (broker : Broker) (unused : broker.closedChannels = []) : Chronicle [] broker where
  numbered channel isOpened := by cases isOpened
  apart channel isOpened := by cases isOpened
  closed number isClosed := by
    rw [unused] at isClosed
    cases isClosed
  dialed connection isDialed := by cases isDialed
  isOpen_iff earlier event since channel split := by simp at split
  isClosed_iff earlier event since connection split := by simp at split

/-- What becomes of a channel with an event. -/
theorem isOpen_told
    (chronicle : Chronicle log broker)
    (bears : event.Bears broker after)
    (closes : ∀ closed, event.closed? = some closed → closed ∈ Event.channels log)
    (isOpened : channel ∈ Event.channels log) :
    after.isOpen channel = true ↔ broker.isOpen channel = true ∧ ¬ event.Ends channel := by
  have known := (chronicle.numbered channel isOpened).2
  have isClosed :
      channel.number ∈ after.closedChannels ↔
        event.closed? = some channel ∨ channel.number ∈ broker.closedChannels := by
    rw [bears.closed]
    cases isLost : event.closed? with
    | none => simp
    | some lost =>
        have same : channel.number = lost.number ↔ lost = channel := by
          constructor
          · exact fun same =>
              (chronicle.apart channel isOpened lost (closes lost isLost) same).symm
          · exact fun same => congrArg Channel.number same.symm
        simp [same]
  have isCurrent :
      channel.generation = after.generation ↔
        channel.generation = broker.generation ∧ event.breaksAll = false := by
    rw [bears.generation]
    cases event.breaksAll with
    | false => simp
    | true =>
        simp only [if_true]
        constructor
        · intro same
          omega
        · rintro ⟨-, never⟩
          cases never
  rw [Broker.isOpen_iff, Broker.isOpen_iff, isClosed, isCurrent, Event.Ends]
  simp only [not_or, Bool.not_eq_true]
  tauto

/-- What becomes of a connection with an event. -/
theorem isClosed_told
    {connection : Connection}
    (chronicle : Chronicle log broker)
    (bears : event.Bears broker after)
    (isDialed : connection ∈ Event.connections log) :
    after.isClosed connection = true ↔
      broker.isClosed connection = true ∨ event.breaksAll = true := by
  have known := chronicle.dialed connection isDialed
  rw [Broker.isClosed_iff, Broker.isClosed_iff, bears.generation]
  cases event.breaksAll with
  | false => simp
  | true =>
      have later : connection.generation ≠ broker.generation + 1 := by omega
      simp [later]

/-- A channel is open when it has just been opened. -/
theorem isOpen_opened
    (chronicle : Chronicle log broker)
    (bears : event.Bears broker after)
    (isOpened : event.opened? = some channel) :
    after.isOpen channel = true := by
  obtain ⟨closesNone, breaksNone⟩ := Event.ends_of_opened? isOpened
  obtain ⟨rfl, -⟩ := bears.opened channel isOpened
  rw [Broker.isOpen_iff, bears.closed, bears.generation, closesNone, breaksNone]
  refine ⟨fun isClosed => ?_, rfl⟩
  exact absurd (chronicle.closed _ isClosed) (Nat.not_succ_le_self _)

theorem numbered_told
    (chronicle : Chronicle log broker)
    (bears : event.Bears broker after)
    (isOpened : channel ∈ Event.channels (log ++ [event])) :
    channel.number ≤ after.channelsOpened ∧ channel.generation ≤ after.generation := by
  have generation_le : broker.generation ≤ after.generation := by
    rw [bears.generation]
    exact Nat.le_add_right _ _
  rcases Event.channels_concat isOpened with wasOpened | opensNow
  · obtain ⟨number_le, current_le⟩ := chronicle.numbered channel wasOpened
    exact ⟨number_le.trans bears.counted, current_le.trans generation_le⟩
  · obtain ⟨rfl, number_le⟩ := bears.opened channel opensNow
    exact ⟨number_le, generation_le⟩

theorem apart_told
    {other : Channel}
    (chronicle : Chronicle log broker)
    (bears : event.Bears broker after)
    (isOpened : channel ∈ Event.channels (log ++ [event]))
    (isOther : other ∈ Event.channels (log ++ [event]))
    (same : channel.number = other.number) :
    channel = other := by
  have isNew {opened known : Channel}
      (opensNow : event.opened? = some opened)
      (wasOpened : known ∈ Event.channels log) :
      opened.number ≠ known.number := by
    obtain ⟨rfl, -⟩ := bears.opened opened opensNow
    exact (Nat.lt_succ_of_le (chronicle.numbered known wasOpened).1).ne'
  rcases Event.channels_concat isOpened with wasOpened | opensNow <;>
    rcases Event.channels_concat isOther with otherWas | otherNow
  · exact chronicle.apart channel wasOpened other otherWas same
  · exact absurd same.symm (isNew otherNow wasOpened)
  · exact absurd same (isNew opensNow otherWas)
  · exact Option.some.inj (opensNow.symm.trans otherNow)

/-- A broker is still as the log tells of it when the next event is told. -/
theorem tell
    (chronicle : Chronicle log broker)
    (bears : event.Bears broker after)
    (closes : ∀ closed, event.closed? = some closed → closed ∈ Event.channels log) :
    Chronicle (log ++ [event]) after where
  numbered channel isOpened := chronicle.numbered_told bears isOpened
  apart channel isOpened other isOther same := chronicle.apart_told bears isOpened isOther same
  closed number isClosed := by
    rw [bears.closed] at isClosed
    refine Nat.le_trans ?_ bears.counted
    rcases List.mem_append.mp isClosed with closesNow | wasClosed
    · obtain ⟨channel, isLost, rfl⟩ :
          ∃ channel, event.closed? = some channel ∧ channel.number = number := by
        simpa using closesNow
      exact (chronicle.numbered channel (closes channel isLost)).1
    · exact chronicle.closed number wasClosed
  dialed connection isDialed := by
    have isKnown : connection ∈ Event.connections log ∨ event.dialed? = some connection := by
      simpa [Event.connections] using isDialed
    rw [bears.generation]
    refine Nat.le_add_right_of_le ?_
    rcases isKnown with wasDialed | dialsNow
    · exact chronicle.dialed connection wasDialed
    · exact Nat.le_of_eq (bears.dialed connection dialsNow)
  isOpen_iff earlier opening since channel split isOpened := by
    rcases Event.split_concat_cases split with ⟨-, rfl, rfl⟩ | ⟨later, rfl, isLog⟩
    · simp [chronicle.isOpen_opened bears isOpened]
    · have wasOpened : channel ∈ Event.channels log := by
        simp [Event.channels, isLog, isOpened]
      rw [chronicle.isOpen_told bears closes wasOpened,
        chronicle.isOpen_iff earlier opening later channel isLog isOpened]
      simp only [List.forall_mem_append, List.forall_mem_singleton]
  isClosed_iff earlier dialing since connection split isDialed := by
    rcases Event.split_concat_cases split with ⟨-, rfl, rfl⟩ | ⟨later, rfl, isLog⟩
    · have alive : after.isClosed connection = false := by
        simp [Broker.isClosed, bears.generation, bears.dialed connection isDialed,
          Event.breaksAll_of_dialed? isDialed]
      simp [alive]
    · have wasDialed : connection ∈ Event.connections log := by
        simp [Event.connections, isLog, isDialed]
      rw [chronicle.isClosed_told bears wasDialed,
        chronicle.isClosed_iff earlier dialing later connection isLog isDialed]
      simp [or_and_right, exists_or]

end Chronicle

namespace Network

variable {network after : Network}

/-- The log tells of the broker, and of all channels that are held. -/
structure Chronicled (network : Network) : Prop where
  lawful : network.Lawful
  chronicle : Chronicle network.log network.broker
  held :
    ∀ place channel,
      network.channel? place = some channel → channel ∈ Event.channels network.log

theorem Chronicled.ticks (chronicled : network.Chronicled) (ticks : network.Ticks after) :
    after.Chronicled := by
  refine ⟨chronicled.lawful.ticks ticks, ?_, ?_⟩
  · cases chronicled.lawful.passes ticks with
    | quietly broker log held =>
        rw [broker, log]
        exact chronicled.chronicle
    | telling event log bears closes held =>
        rw [log]
        refine chronicled.chronicle.tell bears fun channel isClosed => ?_
        obtain ⟨place, isHeld⟩ := closes channel isClosed
        exact chronicled.held place channel isHeld
  · intro place channel isHeld
    cases chronicled.lawful.passes ticks with
    | quietly broker log held =>
        obtain ⟨other, wasHeld⟩ := held place channel isHeld
        rw [log]
        exact chronicled.held other channel wasHeld
    | telling event log bears closes held =>
        rw [log, Event.channels, List.filterMap_append, List.mem_append]
        rcases held place channel isHeld with ⟨other, wasHeld⟩ | isOpened
        · exact .inl (chronicled.held other channel wasHeld)
        · exact .inr (by simp [isOpened])

theorem Chronicled.interleave (chronicled : network.Chronicled) (moves : List Move) :
    (network.interleave moves).Chronicled := by
  induction moves generalizing network with
  | nil => exact chronicled
  | cons move rest inductionHypothesis =>
      exact inductionHypothesis (chronicled.ticks (network.ticks_tick move))

theorem chronicled_start (arbitration : Arbitration) : (start arbitration).Chronicled where
  lawful place party seated := by cases seated
  chronicle := .nil _ rfl
  held place channel isHeld := by cases isHeld

/-- What is told stays told. -/
theorem Chronicled.log_interleave (chronicled : network.Chronicled) (moves : List Move) :
    ∃ told, (network.interleave moves).log = network.log ++ told := by
  induction moves generalizing network with
  | nil => exact ⟨[], (List.append_nil _).symm⟩
  | cons move rest inductionHypothesis =>
      have ticks := network.ticks_tick move
      obtain ⟨told, isLog⟩ := inductionHypothesis (chronicled.ticks ticks)
      rw [interleave_cons]
      cases chronicled.lawful.passes ticks with
      | quietly broker log held => exact ⟨told, by rw [isLog, log]⟩
      | telling event log bears closes held =>
          exact ⟨event :: told, by rw [isLog, log, List.append_assoc, List.singleton_append]⟩

/--
In all interleavings, a channel that was opened is open as long as it is not closed, refused a
registration or cut off by a break of all connections, and never again; a connection is closed as
soon as all connections broke, and for good.  A call on a channel that is not open says so and
leaves the broker as it is.
-/
theorem lost_for_good (arbitration : Arbitration) (moves later : List Move) :
    let network := (start arbitration).interleave moves
    let after := network.interleave later
    (∀ earlier event since channel,
      network.log = earlier ++ event :: since →
      event.opened? = some channel →
        (network.broker.isOpen channel = true ↔ ∀ ended ∈ since, ¬ ended.Ends channel) ∧
          (network.broker.isOpen channel = false → after.broker.isOpen channel = false)) ∧
      (∀ earlier event since connection,
        network.log = earlier ++ event :: since →
        event.dialed? = some connection →
          (network.broker.isClosed connection = true ↔
              ∃ broke ∈ since, broke.breaksAll = true) ∧
            (network.broker.isClosed connection = true →
              after.broker.isClosed connection = true)) ∧
      ∀ call channel,
        call.channel? = some channel →
        call.kind ≠ .closeChannel →
        network.broker.isOpen channel = false →
          network.broker.perform call = (.error Broker.channelClosed, network.broker) := by
  intro network after
  have chronicled : network.Chronicled := (chronicled_start arbitration).interleave moves
  obtain ⟨told, isLog⟩ := chronicled.log_interleave later
  have goesOn := (chronicled.interleave later).chronicle
  have splitAfter {earlier since : List Event} {event : Event}
      (split : network.log = earlier ++ event :: since) :
      after.log = earlier ++ event :: (since ++ told) := by
    rw [isLog, split, List.append_assoc, List.cons_append]
  refine ⟨?_, ?_, fun call channel isOn staysOpen lost => ?_⟩
  · intro earlier event since channel split isOpened
    have opensNow := chronicled.chronicle.isOpen_iff earlier event since channel split isOpened
    have opensAfter := goesOn.isOpen_iff earlier event _ channel (splitAfter split) isOpened
    refine ⟨opensNow, fun lost => ?_⟩
    rw [Bool.eq_false_iff, Ne, opensNow] at lost
    rw [Bool.eq_false_iff, Ne, opensAfter]
    exact fun never => lost fun ended member => never ended (List.mem_append_left told member)
  · intro earlier event since connection split isDialed
    have brokenNow :=
      chronicled.chronicle.isClosed_iff earlier event since connection split isDialed
    have brokenAfter := goesOn.isClosed_iff earlier event _ connection (splitAfter split) isDialed
    refine ⟨brokenNow, fun lost => ?_⟩
    obtain ⟨broke, member, breaks⟩ := brokenNow.mp lost
    exact brokenAfter.mpr ⟨broke, List.mem_append_left told member, breaks⟩
  · exact Broker.perform_of_not_isOpen isOn staysOpen lost

/-- Behind a break a client gets another channel, and the one that it had stays lost. -/
theorem lost_for_good_reconnected :
    let connects : List Move :=
      [.join "worker" (.new "memory"), .start 0 .reset, .resume 0, .resume 0, .resume 0]
    let reconnects : List Move := [.start 0 .reset, .resume 0, .resume 0, .resume 0, .resume 0]
    let network := (start .byConsumerTag).interleave (connects ++ [.disturb .dropConnections])
    let after := network.interleave reconnects
    network.broker.isOpen ⟨1, 0⟩ = false ∧
      after.broker.isOpen ⟨1, 0⟩ = false ∧
        after.broker.isOpen ⟨2, 1⟩ = true ∧
          network.broker.isClosed ⟨1, 0⟩ = true ∧
            after.broker.isClosed ⟨1, 0⟩ = true ∧
              network.broker.perform (.qos ⟨1, 0⟩ 1 false) =
                (.error Broker.channelClosed, network.broker) := by
  intro connects reconnects network after
  obtain ⟨channels, connections, calls⟩ :=
    lost_for_good .byConsumerTag (connects ++ [.disturb .dropConnections]) reconnects
  obtain ⟨isOpen_iff, staysLost⟩ :=
    channels (network.log.take 2)
      (.asked 0 .reset ⟨.transport (.openChannel ⟨1, 0⟩), .ok ⟨1, 0⟩⟩)
      [.finished 0 .reset (.ok ()), .disturbed .dropConnections] ⟨1, 0⟩ rfl rfl
  have lost : network.broker.isOpen ⟨1, 0⟩ = false := by
    rw [Bool.eq_false_iff, Ne, isOpen_iff]
    exact fun never => never (.disturbed .dropConnections) (by simp) (.inr rfl)
  obtain ⟨isClosed_iff, staysClosed⟩ :=
    connections [] (.joined ⟨1, 0⟩) (network.log.drop 1) ⟨1, 0⟩ rfl rfl
  have broken : network.broker.isClosed ⟨1, 0⟩ = true :=
    isClosed_iff.mpr ⟨.disturbed .dropConnections, List.mem_of_getLast? rfl, rfl⟩
  exact
    ⟨lost, staysLost lost, rfl, broken, staysClosed broken,
      calls (.qos ⟨1, 0⟩ 1 false) ⟨1, 0⟩ rfl nofun lost⟩

end Network

end BrokerClient
