import BrokerClient.Proofs.Network.Course

/-!
# Moves on a clock

Where a network goes by the clock each move has a point of time.  A wait is over when its exchange
has taken the time that it takes: a pause lasts as long as it was asked to, and a wait for a
delivery is over as soon as the stream has one or is at its end, or else at its timeout.  A party is
on time if it goes on exactly then.  Others move whenever they like.
-/

namespace BrokerClient

/-- A move, and when it is made. -/
structure TimedMove : Type 1 where
  time : Nat
  move : Move

namespace Call

/-- Whether somebody asks for a registration, whatever the answer. -/
def registers : (call : Call) × call.Answer → Bool
  | ⟨.consume .., _⟩ => true
  | _ => false

/-- Whether somebody gets a channel. -/
def opens : (call : Call) × call.Answer → Bool
  | ⟨.openChannel _, .ok _⟩ => true
  | _ => false

end Call

namespace Event

/-- The call that the party in a place makes, with its answer. -/
def call? (place : Nat) : Event → Option ((call : Call) × call.Answer)
  | .asked other _ exchange => if other = place then History.call? exchange else none
  | _ => none

/-- The calls that the party in a place makes, in order. -/
def calls (place : Nat) (log : List Event) : List ((call : Call) × call.Answer) :=
  log.filterMap (call? place)

@[simp] theorem calls_append (place : Nat) (first second : List Event) :
    calls place (first ++ second) = calls place first ++ calls place second := by
  simp [calls]

/-- How many registrations the party in a place asks for. -/
def attempts (place : Nat) (log : List Event) : Nat :=
  (calls place log).countP Call.registers

/-- How many channels the party in a place gets. -/
def openings (place : Nat) (log : List Event) : Nat :=
  (calls place log).countP Call.opens

@[simp] theorem attempts_append (place : Nat) (first second : List Event) :
    attempts place (first ++ second) = attempts place first + attempts place second := by
  simp [attempts]

@[simp] theorem openings_append (place : Nat) (first second : List Event) :
    openings place (first ++ second) = openings place first + openings place second := by
  simp [openings]

theorem call?_asked_of_ne
    {place other : Nat}
    (differs : other ≠ place)
    (operation : Operation)
    (exchange : Exchange) :
    (Event.asked other operation exchange).call? place = none := by
  simp [call?, differs]

end Event

namespace Move

/-- Whether the party in a place goes on with a move. -/
def resumes (place : Nat) : Move → Bool
  | .resume other => other = place
  | _ => false

theorem resumes_iff {place : Nat} {move : Move} :
    move.resumes place = true ↔ move = .resume place := by
  cases move <;> simp [resumes]

end Move

namespace Network

/--
When the party in a place goes on that has waited since a point of time.  What has arrived by now is
not waited for any longer.
-/
def due? (network : Network) (place since now : Nat) : Option Nat :=
  match network.parties[place]? with
  | some (.busy _ _ (.ask request _)) =>
      some (max now (since + Exchange.waited ⟨request, network.answer request⟩))
  | _ => none

/-- Whether the party in a place sets out or goes on with a move, to wait anew behind it. -/
def advances (network : Network) (place : Nat) : Move → Bool
  | .start other _ => other = place && (network.parties[place]?.bind Party.operation?).isNone
  | .resume other => other = place
  | _ => false

/--
From a point of time up to a last one moves are made in the order of their times, and the party in a
place, which has waited since some point of time, goes on when its waits are over, and only then.
-/
inductive OnTime (place : Nat) : Network → Nat → Nat → List TimedMove → Nat → Prop where
  | ends
      {network : Network}
      {since now last : Nat}
      (inOrder : now ≤ last)
      (notLate : ∀ due, network.due? place since now = some due → last ≤ due) :
      OnTime place network since now [] last
  | moves
      {network : Network}
      {since now last : Nat}
      {timed : TimedMove}
      {rest : List TimedMove}
      (inOrder : now ≤ timed.time)
      (notLate : ∀ due, network.due? place since now = some due → timed.time ≤ due)
      (notEarly :
        timed.move = .resume place →
          ∀ due, network.due? place since now = some due → due ≤ timed.time)
      (goesOn :
        OnTime place (network.step timed.move)
          (if network.advances place timed.move then timed.time else since) timed.time rest last) :
      OnTime place network since now (timed :: rest) last

theorem onTime_nil_iff {network : Network} {place since now last : Nat} :
    OnTime place network since now [] last ↔
      now ≤ last ∧ ∀ due ∈ network.due? place since now, last ≤ due := by
  constructor
  · intro onTime
    cases onTime with
    | ends inOrder notLate => exact ⟨inOrder, notLate⟩
  · rintro ⟨inOrder, notLate⟩
    exact .ends inOrder notLate

theorem onTime_cons_iff
    {network : Network}
    {place since now last : Nat}
    {timed : TimedMove}
    {rest : List TimedMove} :
    OnTime place network since now (timed :: rest) last ↔
      now ≤ timed.time ∧
        (∀ due ∈ network.due? place since now, timed.time ≤ due) ∧
          (timed.move.resumes place = true →
              ∀ due ∈ network.due? place since now, due ≤ timed.time) ∧
            OnTime place (network.step timed.move)
              (if network.advances place timed.move then timed.time else since) timed.time rest
              last := by
  rw [Move.resumes_iff]
  constructor
  · intro onTime
    cases onTime with
    | moves inOrder notLate notEarly goesOn => exact ⟨inOrder, notLate, notEarly, goesOn⟩
  · rintro ⟨inOrder, notLate, notEarly, goesOn⟩
    exact .moves inOrder notLate notEarly goesOn

/-- Whether a party is on time can be computed. -/
instance decidableOnTime
    (place last : Nat) :
    (network : Network) → (since now : Nat) → (timeline : List TimedMove) →
      Decidable (OnTime place network since now timeline last)
  | _, _, _, [] => decidable_of_iff' _ onTime_nil_iff
  | network, since, _, timed :: rest =>
      have := decidableOnTime place last (network.step timed.move)
        (if network.advances place timed.move then timed.time else since) timed.time rest
      decidable_of_iff' _ onTime_cons_iff

/-- What is told with moves on a clock, and when. -/
def told (network : Network) : List TimedMove → List (Nat × Event)
  | [] => []
  | timed :: rest =>
      (((network.step timed.move).log.drop network.log.length).map fun event =>
          (timed.time, event)) ++
        (network.step timed.move).told rest

/--
A party finishes an operation with an outcome at a point of time, and up to then it has asked for so
many registrations and got so many channels.
-/
def FinishesAt
    (place : Nat)
    (operation : Operation)
    (outcome : Except ClientError operation.Value)
    (time registrations channels : Nat)
    (told : List (Nat × Event)) : Prop :=
  ∃ before after,
    told = before ++ (time, .finished place operation outcome) :: after ∧
      Event.attempts place (before.map Prod.snd) = registrations ∧
        Event.openings place (before.map Prod.snd) = channels

/-- Meanwhile a party asks for so many registrations and gets so many channels. -/
def Spends (network after : Network) (place registrations channels : Nat) : Prop :=
  ∃ told,
    after.log = network.log ++ told ∧
      Event.attempts place told = registrations ∧ Event.openings place told = channels

section

variable {network : Network} {place since now last : Nat} {timed : TimedMove}
variable {earlier later : List TimedMove}

/-- What is told with a move is told at its time. -/
theorem told_cons
    {events : List Event}
    (log : (network.step timed.move).log = network.log ++ events)
    (later : List TimedMove) :
    network.told (timed :: later) =
      events.map (fun event => (timed.time, event)) ++ (network.step timed.move).told later := by
  rw [told, log, List.drop_left]

/-- Who is on time all along is on time from any move on. -/
theorem OnTime.behind
    (onTime : OnTime place network since now (earlier ++ later) last) :
    ∃ sinceThen nowThen,
      now ≤ nowThen ∧
        OnTime place (network.run (earlier.map TimedMove.move)) sinceThen nowThen later last := by
  induction earlier generalizing network since now with
  | nil => exact ⟨since, now, Nat.le_refl now, onTime⟩
  | cons timed rest inductionHypothesis =>
      cases onTime with
      | moves inOrder notLate notEarly goesOn =>
          obtain ⟨sinceThen, nowThen, passes, onTimeThen⟩ := inductionHypothesis goesOn
          exact ⟨sinceThen, nowThen, Nat.le_trans inOrder passes, onTimeThen⟩

/-- No move is made before its time has come. -/
theorem OnTime.le_time
    (onTime : OnTime place network since now (earlier ++ timed :: later) last) :
    now ≤ timed.time := by
  obtain ⟨sinceThen, nowThen, passes, onTimeThen⟩ := onTime.behind
  cases onTimeThen with
  | moves inOrder notLate notEarly goesOn => exact Nat.le_trans passes inOrder

variable {operation : Operation} {outcome : Except ClientError operation.Value}
variable {time registrations channels : Nat}

/-- What a party spends with a move adds to what it has spent when it finishes. -/
theorem FinishesAt.behind
    {spentFirst gotFirst : Nat}
    (spends : network.Spends (network.step timed.move) place spentFirst gotFirst)
    (finishes :
      FinishesAt place operation outcome time registrations channels
        ((network.step timed.move).told later)) :
    FinishesAt place operation outcome time (spentFirst + registrations) (gotFirst + channels)
      (network.told (timed :: later)) := by
  obtain ⟨told, log, rfl, rfl⟩ := spends
  obtain ⟨before, after, isTold, rfl, rfl⟩ := finishes
  refine ⟨told.map (fun event => (timed.time, event)) ++ before, after, ?_, ?_, ?_⟩
  · rw [told_cons log, isTold, List.append_assoc]
  · simp [Function.comp_def]
  · simp [Function.comp_def]

/-- Where a party finishes with a move it does so at its time. -/
theorem finishesAt_of_step
    {told : List Event}
    (log :
      (network.step timed.move).log =
        network.log ++ (told ++ [.finished place operation outcome]))
    (later : List TimedMove) :
    FinishesAt place operation outcome timed.time (Event.attempts place told)
      (Event.openings place told) (network.told (timed :: later)) := by
  refine ⟨told.map fun event => (timed.time, event), (network.step timed.move).told later, ?_, ?_,
    ?_⟩
  · rw [told_cons log]
    simp
  · simp [Function.comp_def]
  · simp [Function.comp_def]

end

end Network

end BrokerClient
