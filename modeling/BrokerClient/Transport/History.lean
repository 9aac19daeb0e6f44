import BrokerClient.Transport.Program

/-!
# Histories of programs

A history lists what a program asked and how each request was answered.  That a program ends with
a value along a history says nothing about where the answers came from, so a statement about all
histories of a program holds in all surroundings.

A program that is run ends along the history of its run.  Two programs in a row end along a
history of the first followed by one of the second.
-/

namespace BrokerClient

/-- A request with its answer. -/
structure Exchange where
  request : Request
  answer : request.Answer

/-- Exchanges, the earliest first. -/
abbrev History := List Exchange

namespace History

/-- The call of an exchange with the transport, and its answer. -/
def call? : Exchange → Option ((call : Call) × call.Answer)
  | ⟨.transport call, answer⟩ => some ⟨call, answer⟩
  | _ => none

/-- The calls to the transport with their answers, in order. -/
def calls (history : History) : List ((call : Call) × call.Answer) :=
  history.filterMap call?

/-- Calls of one history and of another that follows it. -/
@[simp] theorem calls_append (first second : History) :
    calls (first ++ second) = calls first ++ calls second := by
  simp [calls]

end History

namespace Program

/-- A program ends with a value along a history. -/
inductive Ends : Program α → History → α → Prop where
  | done (value : α) :
      Ends (.done value) [] value
  | ask
      {request : Request}
      {next : request.Answer → Program α}
      {history : History}
      {value : α}
      (answer : request.Answer)
      (rest : Ends (next answer) history value) :
      Ends (.ask request next) (⟨request, answer⟩ :: history) value

/-- The history of a program that is run in surroundings. -/
def history
    (answer : σ → (request : Request) → request.Answer × σ) :
    Program α → σ → History
  | .done _, _ => []
  | .ask request next, state =>
      let (reply, state) := answer state request
      ⟨request, reply⟩ :: (next reply).history answer state

/-- A program that is run ends along the history of its run. -/
theorem ends_run
    (answer : σ → (request : Request) → request.Answer × σ)
    (program : Program α)
    (state : σ) :
    Ends program (program.history answer state) (program.run answer state).1 := by
  induction program generalizing state with
  | done value => exact .done value
  | ask request next inductionHypothesis =>
      exact .ask _ (inductionHypothesis _ _)

/-- A program that asks nothing ends along the empty history. -/
@[simp] theorem ends_done_iff
    {value found : α}
    {history : History} :
    Ends (.done value) history found ↔ history = [] ∧ found = value := by
  constructor
  · intro ends
    cases ends
    exact ⟨rfl, rfl⟩
  · rintro ⟨rfl, rfl⟩
    exact .done _

/-- A program that asks ends along the answer and a history of what follows it. -/
theorem ends_ask_iff
    {request : Request}
    {next : request.Answer → Program α}
    {history : History}
    {value : α} :
    Ends (.ask request next) history value ↔
      ∃ answer rest,
        history = ⟨request, answer⟩ :: rest ∧ Ends (next answer) rest value := by
  constructor
  · intro ends
    cases ends with
    | ask answer rest => exact ⟨answer, _, rfl, rest⟩
  · rintro ⟨answer, rest, rfl, ends⟩
    exact .ask answer ends

/-- Two programs in a row end along a history of the first and one of the second. -/
theorem ends_bind_iff
    {program : Program α}
    {next : α → Program β}
    {history : History}
    {value : β} :
    Ends (program.bind next) history value ↔
      ∃ first second middle,
        history = first ++ second ∧
          Ends program first middle ∧ Ends (next middle) second value := by
  induction program generalizing history with
  | done middle =>
      constructor
      · intro ends
        exact ⟨[], history, middle, rfl, .done middle, ends⟩
      · rintro ⟨first, second, found, rfl, firstEnds, secondEnds⟩
        obtain ⟨rfl, rfl⟩ := ends_done_iff.mp firstEnds
        exact secondEnds
  | ask request resume inductionHypothesis =>
      constructor
      · intro ends
        obtain ⟨answer, rest, rfl, restEnds⟩ := ends_ask_iff.mp ends
        obtain ⟨first, second, middle, rfl, firstEnds, secondEnds⟩ :=
          (inductionHypothesis answer).mp restEnds
        exact ⟨_ :: first, second, middle, rfl, .ask answer firstEnds, secondEnds⟩
      · rintro ⟨first, second, middle, rfl, firstEnds, secondEnds⟩
        obtain ⟨answer, rest, rfl, restEnds⟩ := ends_ask_iff.mp firstEnds
        exact .ask answer
          ((inductionHypothesis answer).mpr ⟨rest, second, middle, rfl, restEnds, secondEnds⟩)

end Program

end BrokerClient
