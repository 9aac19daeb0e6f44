import BrokerClient.Proofs.Client.Footing
import BrokerClient.Proofs.Network.Log
import BrokerClient.Proofs.Network.Refusals

/-!
# How often is dialed

The generation of the broker counts how often all connections broke.  A party that dials has found
its connection closed, so the connection is of an older generation than the one that it gets; and a
party has dialed at most once in each generation up to that of its connection.  However often it
retries and whatever fails on the way, it has dialed at most once more than connections broke.
-/

namespace BrokerClient

namespace Event

/-- Whether somebody joins, on a connection that was dialed for it. -/
def joins : Event → Bool
  | .joined _ => true
  | _ => false

/-- Whether the party in a place dials again, with success. -/
def redials (place : Nat) : Event → Bool
  | .asked other _ ⟨.transport (.dial _), .ok _⟩ => other = place
  | _ => false

/-- Whether all connections break. -/
def breaksAll : Event → Bool
  | .disturbed .dropConnections => true
  | _ => false

/-- How many times was dialed with success for the party in a place, when it joined included. -/
def dialsFor (place : Nat) (log : List Event) : Nat :=
  (if place < log.countP joins then 1 else 0) + log.countP (redials place)

/-- How many times all connections broke. -/
def breaks (log : List Event) : Nat :=
  log.countP breaksAll

variable {log : List Event} {event : Event} {place : Nat}

/-- What one party asks is no dial of another. -/
theorem redials_asked_of_ne
    {other : Nat}
    (differs : other ≠ place)
    (operation : Operation)
    (exchange : Exchange) :
    (Event.asked place operation exchange).redials other = false := by
  unfold redials
  split
  · next same =>
      cases same
      exact decide_eq_false differs.symm
  · rfl

/-- Who joins, joins in the next place and has not dialed before. -/
theorem dialsFor_concat_joined (place : Nat) (log : List Event) (connection : Connection) :
    dialsFor place (log ++ [.joined connection]) =
      dialsFor place log + if place = log.countP joins then 1 else 0 := by
  have grows : (log ++ [Event.joined connection]).countP joins = log.countP joins + 1 := by
    simp [joins]
  have same :
      (log ++ [Event.joined connection]).countP (redials place) = log.countP (redials place) := by
    simp [redials]
  rw [dialsFor, dialsFor, grows, same]
  split <;> split <;> split <;> omega

theorem dialsFor_concat_of_not_joins (place : Nat) (notJoining : event.joins = false) :
    dialsFor place (log ++ [event]) =
      dialsFor place log + if event.redials place then 1 else 0 := by
  simp only [dialsFor, List.countP_append, List.countP_singleton, notJoining]
  rw [Nat.add_assoc]
  rfl

end Event

namespace Footing

/--
A footing is sound for a generation of the broker and a number of dials: the connection is not of a
later generation, and of an earlier one if it was found closed; a channel is of the generation of
its connection; and there were no more dials than generations up to the connection's.
-/
structure Sound (footing : Footing) (generation dials : Nat) : Prop where
  current : footing.connection.generation ≤ generation
  lost : footing.lost = true → footing.connection.generation < generation
  opened :
    ∀ channel connection, footing.opened = some (channel, connection) →
      channel.generation = connection.generation
  dials : dials ≤ 1 + footing.connection.generation

/-- What is sound stays so when connections break. -/
theorem Sound.mono
    {footing : Footing}
    {generation later dials : Nat}
    (sound : footing.Sound generation dials)
    (grows : generation ≤ later) :
    footing.Sound later dials where
  current := Nat.le_trans sound.current grows
  lost isLost := Nat.lt_of_lt_of_le (sound.lost isLost) grows
  opened := sound.opened
  dials := sound.dials

end Footing

namespace Broker

variable {broker after : Broker}

theorem generation_of_dial
    {connection : Connection}
    (dialed : broker.dial = (.ok connection, after)) :
    connection.generation = broker.generation := by
  unfold dial at dialed
  split at dialed
  · cases dialed
  · cases dialed
    rfl

theorem generation_of_openChannel
    {connection : Connection}
    {channel : Channel}
    (opens : (broker.openChannel connection).1 = .ok channel) :
    channel.generation = connection.generation := by
  unfold openChannel at opens
  split at opens
  · cases opens
  · cases opens
    rfl

end Broker

namespace Network

variable {network : Network} {place dials : Nat} {operation : Operation} {footing : Footing}

/-- A footing stays sound with what is permitted on it, and a dial leads to a later generation. -/
theorem sound_after_exchange
    {request : Request}
    (sound : footing.Sound network.broker.generation dials)
    (permitted : footing.Permits request) :
    (footing.after ⟨request, network.answer request⟩).Sound network.broker.generation
      (dials +
        if (Event.asked place operation ⟨request, network.answer request⟩).redials place then 1
        else 0) := by
  cases request with
  | isClosed connection =>
      have isHeld : connection = footing.connection := permitted
      subst isHeld
      refine ⟨sound.current, fun isLost => ?_, sound.opened, sound.dials⟩
      have differs : footing.connection.generation ≠ network.broker.generation := by
        simpa [Footing.after, answer, Broker.isClosed] using isLost
      exact Nat.lt_of_le_of_ne sound.current differs
  | transport call =>
      cases call with
      | dial url =>
          have isLost : footing.lost = true := permitted
          have isOld := sound.lost isLost
          have dialed : network.answer (.transport (.dial url)) = network.broker.dial.1 := rfl
          rw [dialed]
          cases dials : network.broker.dial with
          | mk outcome after =>
              cases outcome with
              | error error => exact sound
              | ok connection =>
                  have isCurrent := Broker.generation_of_dial dials
                  refine ⟨Nat.le_of_eq isCurrent, by rintro ⟨⟩, sound.opened, ?_⟩
                  have before := sound.dials
                  simp only [Event.redials, decide_true, if_true, Footing.after, isCurrent]
                  omega
      | openChannel connection =>
          have opens :
              network.answer (.transport (.openChannel connection)) =
                (network.broker.openChannel connection).1 := rfl
          rw [opens]
          cases opened : (network.broker.openChannel connection).1 with
          | error error => exact sound
          | ok channel =>
              refine ⟨sound.current, sound.lost, fun other on same => ?_, sound.dials⟩
              cases same
              exact Broker.generation_of_openChannel opened
      | _ => exact sound
  | _ => exact sound

end Network

/--
A party stands on a sound footing: between its operations with the client that it has, and in the
middle of one with the client that it is going to end with.  Who has left has dialed before.
-/
def Party.StandsFirm (generation dials : Nat) : Party → Prop
  | .idle client => ∃ footing : Footing, footing.Bears client ∧ footing.Sound generation dials
  | .busy _ _ rest =>
      ∃ footing : Footing,
        footing.Sound generation dials ∧
          rest.Meets Footing.monitor (fun ended left => left.Bears ended.2) footing
  | .gone _ => dials ≤ 1 + generation

namespace Party

variable {party : Party} {generation dials : Nat}

theorem StandsFirm.mono
    {later : Nat}
    (firm : party.StandsFirm generation dials)
    (grows : generation ≤ later) :
    party.StandsFirm later dials := by
  cases party with
  | idle client =>
      obtain ⟨footing, bears, sound⟩ := firm
      exact ⟨footing, bears, sound.mono grows⟩
  | busy operation standing rest =>
      obtain ⟨footing, sound, met⟩ := firm
      exact ⟨footing, sound.mono grows, met⟩
  | gone abandoned => exact Nat.le_trans firm (Nat.add_le_add_left grows 1)

/-- Nobody dials more than once in each generation. -/
theorem StandsFirm.bounded (firm : party.StandsFirm generation dials) : dials ≤ 1 + generation := by
  cases party with
  | idle client =>
      obtain ⟨footing, -, sound⟩ := firm
      exact Nat.le_trans sound.dials (Nat.add_le_add_left sound.current 1)
  | busy operation standing rest =>
      obtain ⟨footing, sound, -⟩ := firm
      exact Nat.le_trans sound.dials (Nat.add_le_add_left sound.current 1)
  | gone abandoned => exact firm

end Party

namespace Network

/-- The log tells how often connections broke, and all parties stand on sound footings. -/
structure Grounded (network : Network) : Prop where
  generation : network.broker.generation = Event.breaks network.log
  seats : network.parties.length = network.log.countP Event.joins
  elsewhere : ∀ place, network.parties.length ≤ place → Event.dialsFor place network.log = 0
  seated :
    ∀ (place : Nat) (party : Party),
      network.parties[place]? = some party →
        party.StandsFirm network.broker.generation (Event.dialsFor place network.log)

variable {network : Network} {place : Nat} {operation : Operation} {standing : Standing}
variable {broker : Broker} {event : Event}

/-- Another party takes a place, and nothing is told. -/
theorem Grounded.seat
    {before after : Party}
    (grounded : network.Grounded)
    (seated : network.parties[place]? = some before)
    (firm :
      before.StandsFirm network.broker.generation (Event.dialsFor place network.log) →
        after.StandsFirm network.broker.generation (Event.dialsFor place network.log)) :
    (network.seat place after).Grounded where
  generation := grounded.generation
  seats := List.length_set.trans grounded.seats
  elsewhere other beyond := grounded.elsewhere other (List.length_set ▸ beyond)
  seated :=
    forall_seated_set (firm (grounded.seated place before seated)) fun other found _ wasSeated =>
      grounded.seated other found wasSeated

/-- Something is told that is nobody's joining, no break and nobody's dial but one party's own. -/
theorem Grounded.tell
    {before after : Party}
    (grounded : network.Grounded)
    (sameGeneration : broker.generation = network.broker.generation)
    (notJoining : event.joins = false)
    (notBreaking : event.breaksAll = false)
    (noOther : ∀ other, other ≠ place → event.redials other = false)
    (seated : network.parties[place]? = some before)
    (firm :
      before.StandsFirm network.broker.generation (Event.dialsFor place network.log) →
        after.StandsFirm network.broker.generation
          (Event.dialsFor place network.log + if event.redials place then 1 else 0))
    (drawnIds : Nat) :
    Grounded ⟨broker, drawnIds, network.parties.set place after, network.log ++ [event]⟩ := by
  have sameDials (other : Nat) (differs : other ≠ place) :
      Event.dialsFor other (network.log ++ [event]) = Event.dialsFor other network.log := by
    rw [Event.dialsFor_concat_of_not_joins other notJoining, noOther other differs]
    rfl
  refine ⟨?_, ?_, fun other beyond => ?_, ?_⟩
  · simp [sameGeneration, grounded.generation, Event.breaks, notBreaking]
  · simp [grounded.seats, notJoining]
  · rw [List.length_set] at beyond
    have differs : other ≠ place := by
      have seatedBelow := lt_of_seated seated
      omega
    rw [sameDials other differs]
    exact grounded.elsewhere other beyond
  · dsimp only
    rw [sameGeneration]
    refine forall_seated_set ?_ fun other found differs wasSeated => ?_
    · rw [Event.dialsFor_concat_of_not_joins place notJoining]
      exact firm (grounded.seated place before seated)
    · rw [sameDials other differs]
      exact grounded.seated other found wasSeated

/-- A new party has dialed once, on a connection of the generation that is current. -/
theorem Grounded.joined
    {connection : Connection}
    {client : Client}
    (grounded : network.Grounded)
    (dialed : network.broker.dial = (.ok connection, broker))
    (unasked : client.Unasked connection) :
    Grounded
      { network with
        broker := broker
        parties := network.parties ++ [.idle client]
        log := network.log ++ [.joined connection] } := by
  have sameGeneration := (Broker.closes_dial dialed).generation
  have isCurrent := Broker.generation_of_dial dialed
  refine ⟨?_, ?_, fun place beyond => ?_, fun place party seated => ?_⟩
  · simp [sameGeneration, grounded.generation, Event.breaks, Event.breaksAll]
  · simp [grounded.seats, Event.joins]
  · simp only [List.length_append, List.length_singleton] at beyond
    rw [Event.dialsFor_concat_joined, grounded.elsewhere place (by omega), ← grounded.seats,
      if_neg (by omega)]
  · dsimp only
    rw [sameGeneration, Event.dialsFor_concat_joined, ← grounded.seats]
    rcases seated_concat seated with wasSeated | ⟨isLast, rfl⟩
    · rw [if_neg (Nat.ne_of_lt (lt_of_seated wasSeated))]
      exact grounded.seated place party wasSeated
    · rw [if_pos isLast, grounded.elsewhere place (Nat.le_of_eq isLast.symm)]
      refine ⟨Footing.start client, Footing.bears_start client, ?_, nofun, ?_, ?_⟩
      · rw [Footing.start, unasked.connection]
        exact Nat.le_of_eq isCurrent
      · simp [Footing.start, unasked.channel]
      · exact Nat.le_add_right 1 _

/-- A disturbance is told; if all connections break, a new generation begins. -/
theorem Grounded.disturbed (grounded : network.Grounded) (disturbance : Disturbance) :
    Grounded
      { network with
        broker := network.broker.disturb disturbance
        log := network.log ++ [.disturbed disturbance] } := by
  have generation :
      (network.broker.disturb disturbance).generation =
        network.broker.generation + if Event.breaksAll (.disturbed disturbance) then 1 else 0 := by
    by_cases isBreak : disturbance = .dropConnections
    · subst isBreak
      rfl
    · rw [(Broker.closes_disturb isBreak).generation]
      cases disturbance with
      | dropConnections => exact absurd rfl isBreak
      | _ => rfl
  have sameDials (place : Nat) :
      Event.dialsFor place (network.log ++ [.disturbed disturbance]) =
        Event.dialsFor place network.log :=
    Event.dialsFor_concat_of_not_joins place rfl
  refine ⟨?_, ?_, fun place beyond => ?_, fun place party seated => ?_⟩
  · simp [generation, grounded.generation, Event.breaks, List.countP_singleton]
  · simp [grounded.seats, Event.joins]
  · rw [sameDials]
    exact grounded.elsewhere place beyond
  · dsimp only
    rw [sameDials, generation]
    exact (grounded.seated place party seated).mono (Nat.le_add_right _ _)

theorem grounded_exchange
    {request : Request}
    {next : request.Answer → Program (Outcome operation.Value)}
    (underway : network.Underway place operation standing (.ask request next))
    (grounded : network.Grounded)
    (givesNothingUp : ∀ stream, request ≠ .release stream) :
    (network.exchange place operation standing request next).Grounded := by
  rw [exchange_eq next givesNothingUp]
  have sameGeneration := (closes_brokerAfter network request).generation
  refine grounded.tell sameGeneration rfl rfl ?_ underway.seated ?_ _
  · exact fun other differs => Event.redials_asked_of_ne differs operation _
  · intro firm
    obtain ⟨footing, sound, met⟩ := firm
    exact ⟨_, sound_after_exchange sound met.1, met.2 _⟩

/-- All small steps keep all parties on sound footings. -/
theorem keeps_grounded : Keeps (fun _ => True) Anything Grounded where
  joined _ _ _ _ _ _ grounded dialed unasked _ := grounded.joined dialed unasked
  started _ _ client operation _ _ grounded _ seated := by
    refine grounded.seat seated fun firm => ?_
    obtain ⟨footing, bears, sound⟩ := firm
    exact ⟨footing, sound, operation.keepsFooting client footing bears⟩
  exchanged _ _ _ _ _ _ underway _ grounded givesNothingUp :=
    grounded_exchange underway grounded givesNothingUp
  dropped network place party stream party' givesUp _ grounded := by
    have sameGeneration :
        (network.broker.release stream).generation = network.broker.generation := rfl
    refine grounded.tell sameGeneration rfl rfl (by simp [Event.redials]) givesUp.seated
      (fun firm => ?_) _
    cases givesUp.drops with
    | busy =>
        obtain ⟨footing, sound, met⟩ := firm
        exact ⟨footing, sound, met.2 ()⟩
    | gone => exact firm
  finished network place operation standing ended underway _ grounded := by
    refine grounded.tell rfl rfl rfl (by simp [Event.redials]) underway.seated (fun firm => ?_) _
    obtain ⟨footing, sound, bears⟩ := firm
    exact ⟨footing, bears, sound⟩
  leaving network place party _ _ grounded _ seated := by
    refine grounded.tell rfl rfl rfl (by simp [Event.redials]) seated (fun firm => ?_) _
    exact firm.bounded
  disturbed _ disturbance _ _ grounded _ := grounded.disturbed disturbance

/-- A client with a usable channel has a connection that is alive. -/
theorem Grounded.alive
    {client : Client}
    {channel : Channel}
    (grounded : network.Grounded)
    (idle : network.parties[place]? = some (.idle client))
    (isHeld : client.channel = some channel)
    (usable : network.broker.isOpen channel = true) :
    network.broker.isClosed client.connection = false := by
  obtain ⟨footing, bears, sound⟩ := grounded.seated place _ idle
  have sameGeneration : channel.generation = client.connection.generation :=
    sound.opened channel _ (bears.opened channel isHeld)
  simp only [Broker.isOpen, Bool.and_eq_true, beq_iff_eq] at usable
  rw [Broker.isClosed, ← sameGeneration, usable.2]
  simp

theorem grounded_run (arbitration : Arbitration) (moves : List Move) :
    ((start arbitration).run moves).Grounded := by
  have grounded : (start arbitration).Grounded :=
    ⟨rfl, rfl, fun _ _ => rfl, by simp [start]⟩
  exact (keeps_grounded.run (by simp [AtRest, start]) grounded fun _ _ => trivial).2

/--
Whatever the parties do and whatever happens to the broker, nobody is dialed for more than once and
once more for each time that all connections broke; and between two operations of a client, the
channel that it holds is of the generation of the connection that it holds.
-/
theorem dials_bounded_by_breaks (arbitration : Arbitration) (moves : List Move) :
    (∀ place,
        Event.dialsFor place ((start arbitration).run moves).log ≤
          1 + Event.breaks ((start arbitration).run moves).log) ∧
      ∀ (place : Nat) (client : Client) (channel : Channel),
        ((start arbitration).run moves).parties[place]? = some (.idle client) →
          client.channel = some channel →
            channel.generation = client.connection.generation := by
  have grounded := grounded_run arbitration moves
  constructor
  · intro place
    rw [← grounded.generation]
    by_cases isSeated : place < ((start arbitration).run moves).parties.length
    · exact (grounded.seated place _ (List.getElem?_eq_getElem isSeated)).bounded
    · rw [grounded.elsewhere place (Nat.not_lt.mp isSeated)]
      exact Nat.zero_le _
  · intro place client channel seated isHeld
    obtain ⟨footing, bears, sound⟩ := grounded.seated place _ seated
    exact sound.opened channel client.connection (bears.opened channel isHeld)

/-- The bound is reached: a reset after a break dials a second time. -/
example :
    Event.dialsFor 0
      ((start .byConsumerTag).run
        [.join "first" (.new "amqp://b"), .disturb .dropConnections, .start 0 .reset]).log = 2 :=
  rfl

end Network

end BrokerClient
