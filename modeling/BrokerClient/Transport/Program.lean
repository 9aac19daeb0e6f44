import BrokerClient.Duration
import BrokerClient.Message
import BrokerClient.Transport.Call

/-!
# Programs

What a client does is a program: it asks its surroundings one thing at a time and goes on with the
answer.  A program is data, so that what it asks can be reasoned about for any surroundings; it
comes to its end only when it is run against particular ones.
-/

namespace BrokerClient

/-- What a wait for the next delivery ends with. -/
inductive Arrival where
  /-- The stream yields a delivery or a failure. -/
  | item (content : Except TransportError Delivery)
  /-- The stream is at its end. -/
  | ended
  /-- Nothing arrives in time. -/
  | timedOut

/-- What a program can ask. -/
inductive Request where
  /-- Call the transport. -/
  | transport (call : Call)
  /-- Is a connection unusable? -/
  | isClosed (connection : Connection)
  /-- Let time pass. -/
  | sleep (duration : Duration)
  /-- Wait for the next delivery of a stream. -/
  | next (stream : Stream) (timeout : Duration)
  /-- Give a stream up, with everything that is still in it. -/
  | release (stream : Stream)
  /-- Show a message in a failure. -/
  | describe (message : Outgoing)
  /-- Draw an identifier for a message. -/
  | freshId

/-- What a request is answered with. -/
abbrev Request.Answer : Request → Type
  | .transport call => call.Answer
  | .isClosed _ => Bool
  | .next .. => Arrival
  | .freshId => MessageId
  | _ => Unit

/-- Something to do that ends with a value. -/
inductive Program (α : Type) where
  | done (value : α)
  | ask (request : Request) (next : request.Answer → Program α)

namespace Program

/-- Go on with the value that a program ends with. -/
def bind : Program α → (α → Program β) → Program β
  | .done value, next => next value
  | .ask request resume, next => .ask request fun answer => (resume answer).bind next

instance : Monad Program where
  pure := .done
  bind := bind

/-- Ask one thing. -/
def request (request : Request) : Program request.Answer :=
  .ask request .done

/-- Call the transport. -/
def call (call : Call) : Program call.Answer :=
  .ask (.transport call) .done

/-- Run a program in surroundings that answer every request and change with it. -/
def run
    (answer : σ → (request : Request) → request.Answer × σ) :
    Program α → σ → α × σ
  | .done value, state => (value, state)
  | .ask request next, state =>
      let (reply, state) := answer state request
      (next reply).run answer state

/-- A program that ends at once hands its value on. -/
@[simp] theorem done_bind (value : α) (next : α → Program β) :
    (Program.done value).bind next = next value :=
  rfl

/-- Programs in a row may be grouped either way. -/
theorem bind_assoc
    (program : Program α)
    (first : α → Program β)
    (second : β → Program γ) :
    (program.bind first).bind second =
      program.bind fun value => (first value).bind second := by
  induction program with
  | done value => rfl
  | ask request next inductionHypothesis => simp [bind, inductionHypothesis]

/-- Running two programs in a row runs the second where the first one ends. -/
theorem run_bind
    (answer : σ → (request : Request) → request.Answer × σ)
    (program : Program α)
    (next : α → Program β)
    (state : σ) :
    (program.bind next).run answer state =
      let (value, state) := program.run answer state
      (next value).run answer state := by
  induction program generalizing state with
  | done value => rfl
  | ask request resume inductionHypothesis =>
      simp only [bind, run]
      exact inductionHypothesis _ _

end Program

end BrokerClient
