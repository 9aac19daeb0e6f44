import BrokerClient.Transport.History

/-!
# Monitors

A monitor watches a program from outside: it is in some state, says which requests it permits
there, and moves on with every exchange.  A program meets a monitor if all it asks is permitted,
whatever it is answered, and if its value fits the state in which the monitor is left.

What is met by two programs in a row is met by the second from where the first leaves the monitor.
Along every history of a program that meets a monitor, each request was permitted in the state that
the exchanges before it had led to.
-/

namespace BrokerClient

/-- What may be asked in each state, and how exchanges change the state. -/
structure Monitor (σ : Type) where
  permits : σ → Request → Prop
  after : σ → Exchange → σ

namespace Monitor

/-- The monitor without a state, which permits some requests at any time. -/
def only (allowed : Request → Prop) : Monitor Unit where
  permits _ := allowed
  after _ _ := ()

/-- The state that a history leads to. -/
def afterAll (monitor : Monitor σ) (state : σ) (history : History) : σ :=
  history.foldl monitor.after state

@[simp] theorem afterAll_nil (monitor : Monitor σ) (state : σ) :
    monitor.afterAll state [] = state :=
  rfl

@[simp] theorem afterAll_cons
    (monitor : Monitor σ)
    (state : σ)
    (exchange : Exchange)
    (history : History) :
    monitor.afterAll state (exchange :: history) =
      monitor.afterAll (monitor.after state exchange) history :=
  rfl

end Monitor

namespace Program

/-- All that a program asks is permitted, and what it ends with fits the state then. -/
def Meets
    (monitor : Monitor σ)
    (fits : α → σ → Prop) :
    Program α → σ → Prop
  | .done value, state => fits value state
  | .ask request next, state =>
      monitor.permits state request ∧
        ∀ answer, (next answer).Meets monitor fits (monitor.after state ⟨request, answer⟩)

section

variable {σ α β : Type} {monitor : Monitor σ} {state : σ}

/-- What fits may be weakened. -/
theorem Meets.mono
    {fits weaker : α → σ → Prop}
    {program : Program α}
    (met : program.Meets monitor fits state)
    (weakens : ∀ value state, fits value state → weaker value state) :
    program.Meets monitor weaker state := by
  induction program generalizing state with
  | done value => exact weakens value state met
  | ask request next inductionHypothesis =>
      exact ⟨met.1, fun answer => inductionHypothesis answer (met.2 answer)⟩

/-- Two programs in a row: the second goes on where the first leaves the monitor. -/
theorem Meets.bind
    {between : α → σ → Prop}
    {fits : β → σ → Prop}
    {program : Program α}
    {next : α → Program β}
    (met : program.Meets monitor between state)
    (goesOn : ∀ value state, between value state → (next value).Meets monitor fits state) :
    (program >>= next).Meets monitor fits state := by
  change (program.bind next).Meets monitor fits state
  induction program generalizing state with
  | done value => exact goesOn value state met
  | ask request resume inductionHypothesis =>
      exact ⟨met.1, fun answer => inductionHypothesis answer (met.2 answer)⟩

/--
Along a history of a program that meets a monitor, whatever permitted exchanges keep true stays
true, and the value fits the state at the end.
-/
theorem Meets.along
    {fits : α → σ → Prop}
    {program : Program α}
    {history : History}
    {value : α}
    (met : program.Meets monitor fits state)
    (ends : Ends program history value)
    (holds : History → σ → Prop)
    (past : History)
    (atStart : holds past state)
    (kept : ∀ past state exchange,
      holds past state → monitor.permits state exchange.request →
        holds (past ++ [exchange]) (monitor.after state exchange)) :
    holds (past ++ history) (monitor.afterAll state history) ∧
      fits value (monitor.afterAll state history) := by
  induction ends generalizing past state with
  | done value => exact ⟨by simpa using atStart, met⟩
  | @ask request next history value answer _ inductionHypothesis =>
      have goesOn :=
        inductionHypothesis (met.2 answer) _ (kept past state ⟨request, answer⟩ atStart met.1)
      simpa using goesOn

/-- If some requests only are ever permitted, no others stand in a history. -/
theorem Meets.only
    {allowed : Request → Prop}
    {fits : α → Unit → Prop}
    {program : Program α}
    {history : History}
    {value : α}
    (met : program.Meets (.only allowed) fits ())
    (ends : Ends program history value) :
    ∀ exchange ∈ history, allowed exchange.request := by
  have kept (past : History) (state : Unit) (exchange : Exchange)
      (before : ∀ other ∈ past, allowed other.request)
      (permitted : (Monitor.only allowed).permits state exchange.request) :
      ∀ other ∈ past ++ [exchange], allowed other.request := by
    intro other member
    rcases List.mem_append.mp member with inPast | isLast
    · exact before other inPast
    · exact List.mem_singleton.mp isLast ▸ permitted
  have along :=
    met.along ends (fun past _ => ∀ other ∈ past, allowed other.request) [] (by simp) kept
  simpa using along.1

end

end Program

end BrokerClient
