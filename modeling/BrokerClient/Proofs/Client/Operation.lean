import BrokerClient.Client.Publishing
import BrokerClient.Proofs.Client.Starting

/-!
# Operations and runs of a client

An operation is what a caller can ask of a client.  It is performed along a history of exchanges
with whatever surrounds the client, and ends with an outcome.  A run performs operations one after
the other, each on the client that the one before it has left.

The trace of a run lists its exchanges, each with the operation it belongs to, and the outcome of
each operation behind its exchanges.
-/

namespace BrokerClient

/-- What a caller can ask of a client. -/
inductive Operation : Type 1 where
  | reset
  | ensureQueue (definition : QueueDefinition)
  | inspectQueue (queue : String)
  | deleteQueue (queue : String)
  | publish (tracing : Tracing) (queue : String) (message : Outgoing)
  | receive {Content : Type} (queue : String) (decode : List UInt8 → Except CodecError Content)
  /-- What `receive` begins with where there is no stream; nobody is offered it alone. -/
  | registerConsumer (queue : String)
  | close
  | setLastError (error : ClientError)
  | resetError

namespace Operation

/-- The value of an operation that succeeds. -/
def Value : Operation → Type
  | .inspectQueue _ => QueueInfo
  | .deleteQueue _ => UInt32
  | @receive Content _ _ => Delivery × Content
  | _ => Unit

/-- What a client does for an operation. -/
def program (client : Client) : (operation : Operation) → Program (Outcome operation.Value)
  | .reset => client.reset
  | .ensureQueue definition => client.ensureQueue definition
  | .inspectQueue queue => client.inspectQueue queue
  | .deleteQueue queue => client.deleteQueue queue
  | .publish tracing queue message => client.publish tracing queue message
  | .receive queue decode => client.receive queue decode
  | .registerConsumer queue => client.registerConsumer queue
  | .close => client.close
  | .setLastError error => .done (.ok (), client.setLastError error)
  | .resetError => .done (.ok (), client.resetError)

/-- Whether a confirmed declaration is remembered; an inspection only looks. -/
def remembersQueues : Operation → Bool
  | .ensureQueue _ => true
  | .publish .. => true
  | _ => false

/-- The queue that an operation may register a consumer for. -/
def source? : Operation → Option String
  | .receive queue _ => some queue
  | .registerConsumer queue => some queue
  | _ => none

/-- The queue that an operation waits for a delivery from. -/
def awaited? : Operation → Option String
  | .receive queue _ => some queue
  | _ => none

/-- Whether the channel is closed for its own sake, and not to make room for another. -/
def isClose : Operation → Bool
  | .close => true
  | _ => false

/-- The delivery that an operation hands out, also with a failure. -/
def delivered? : (operation : Operation) → Except ClientError operation.Value → Option Delivery
  | .receive _ _, .ok (delivery, _) => some delivery
  | .receive _ _, .error error => error.delivery?
  | _, _ => none

/-- The failure of an operation that waits for a delivery. -/
def waitFailure? :
    (operation : Operation) → Except ClientError operation.Value → Option ClientError
  | .receive _ _, .error error => some error
  | _, _ => none

/-- Only an operation that waits fails to be handed a delivery. -/
theorem awaited?_of_waitFailure?
    {operation : Operation}
    {outcome : Except ClientError operation.Value}
    {error : ClientError}
    (failed : operation.waitFailure? outcome = some error) :
    ∃ queue, operation.awaited? = some queue := by
  cases operation with
  | receive queue decode => exact ⟨queue, rfl⟩
  | _ => cases failed

end Operation

/-- Whether a failure to receive is the end of the consumer. -/
def ClientError.endsConsumer : ClientError → Bool
  | .noMessage _ => true
  | .streamClosed .. => true
  | .consumption .. => true
  | _ => false

/-- Whether a failure to receive is a consumer that could not be registered. -/
def ClientError.refusesConsumer : ClientError → Bool
  | .qosDeclaration .. => true
  | .consumerDeclaration .. => true
  | _ => false

/-- A consumer that could not be registered is no wait that has ended. -/
theorem ClientError.refusesConsumer_spec
    {error : ClientError}
    (refuses : error.refusesConsumer = true) :
    error.delivery? = none ∧ error.endsConsumer = false ∧ ∀ queue, error ≠ .noMessage queue := by
  cases error <;> simp_all [refusesConsumer, delivery?, endsConsumer]

/-- An operation that was performed, with its exchanges and its outcome. -/
structure Performance where
  operation : Operation
  history : History
  outcome : Except ClientError operation.Value

/-- A client performs operations one after the other and is left as another one. -/
inductive Client.Runs (start : Client) : List Performance → Client → Prop where
  | begin : Runs start [] start
  | perform
      {performances : List Performance}
      {client : Client}
      (earlier : Runs start performances client)
      (performance : Performance)
      {client' : Client}
      (ends :
        (performance.operation.program client).Ends performance.history
          (performance.outcome, client')) :
      Runs start (performances ++ [performance]) client'

/-- Something that happens in a run. -/
inductive Occurrence where
  | asked (operation : Operation) (exchange : Exchange)
  | completed (operation : Operation) (outcome : Except ClientError operation.Value)

namespace Performance

/-- The exchanges of an operation, with its outcome behind them. -/
def occurrences (performance : Performance) : List Occurrence :=
  performance.history.map (.asked performance.operation) ++
    [.completed performance.operation performance.outcome]

/-- All that happens while operations are performed, in order. -/
def trace (performances : List Performance) : List Occurrence :=
  performances.flatMap occurrences

@[simp] theorem trace_append (first second : List Performance) :
    trace (first ++ second) = trace first ++ trace second := by
  simp [trace]

@[simp] theorem trace_singleton (performance : Performance) :
    trace [performance] = performance.occurrences := by
  simp [trace]

end Performance

namespace Occurrence

/-- The call of an occurrence, with its answer. -/
def call? : Occurrence → Option ((call : Call) × call.Answer)
  | .asked _ exchange => History.call? exchange
  | .completed .. => none

/-- The calls among occurrences, in order. -/
def calls (trace : List Occurrence) : List ((call : Call) × call.Answer) :=
  trace.filterMap call?

@[simp] theorem calls_append (first second : List Occurrence) :
    calls (first ++ second) = calls first ++ calls second := by
  simp [calls]

@[simp] theorem calls_asked (operation : Operation) (exchange : Exchange) :
    calls [.asked operation exchange] = (History.call? exchange).toList := by
  cases answered : History.call? exchange <;> simp [calls, call?, answered]

end Occurrence

/-! ## A run -/

namespace Performance

/-- A first channel is opened. -/
def opening : Performance where
  operation := .reset
  history := [⟨.isClosed ⟨0, 0⟩, false⟩, ⟨.transport (.openChannel ⟨0, 0⟩), .ok ⟨0, 0⟩⟩]
  outcome := .ok ()

/-- A queue is declared on it. -/
def declaring : Performance where
  operation := .ensureQueue (.new "jobs")
  history :=
    [⟨.transport (.declare ⟨0, 0⟩ "jobs" (QueueDefinition.new "jobs").flags []),
      .ok ⟨"jobs", 0, 0⟩⟩]
  outcome := .ok ()

/-- The queue is waited on in vain. -/
def waiting : Performance where
  operation := .receive "jobs" Except.ok
  history :=
    [⟨.transport (.qos ⟨0, 0⟩ 1 false), .ok ()⟩,
      ⟨.transport (.consume ⟨0, 0⟩ "jobs" "worker" Client.consumeFlags), .ok ⟨0⟩⟩,
      ⟨.next ⟨0⟩ (.ofSeconds 10), .timedOut⟩,
      ⟨.release ⟨0⟩, ()⟩,
      ⟨.transport (.cancel ⟨0, 0⟩ "worker" false), .ok ()⟩]
  outcome := .error (.noMessage "jobs")

/-- The client before the wait. -/
def declaredClient : Client where
  lastError := none
  channel := some ⟨0, 0⟩
  connection := ⟨0, 0⟩
  url := "memory"
  consumerId := "worker"
  options := .default
  queues := [("jobs", ⟨"jobs", 0, 0⟩)]
  streams := []

/-- The client after the wait, which has left no stream. -/
def idleClient : Client :=
  { declaredClient with lastError := some (.noMessage "jobs") }

/-- The wait begins with a registration that succeeds at once, whatever was recorded before. -/
theorem ends_registering (lastError : Option ClientError) :
    (Client.registerConsumer { declaredClient with lastError := lastError } "jobs").Ends
      (waiting.history.take 2)
      (.ok (), { declaredClient with lastError := lastError, streams := [("jobs", ⟨0⟩)] }) :=
  Client.registerConsumer_ends_of_granted rfl rfl ⟨0⟩

/-- The wait goes through its exchanges, whatever was recorded before. -/
theorem ends_waiting (lastError : Option ClientError) :
    (waiting.operation.program { declaredClient with lastError := lastError }).Ends
      waiting.history (waiting.outcome, idleClient) := by
  change (Client.receive _ "jobs" Except.ok).Ends _ _
  rw [Client.receive_of_free rfl]
  refine Program.ends_bind_iff.mpr ⟨_, waiting.history.drop 2, _, rfl, ends_registering _, ?_⟩
  exact .ask _ (.ask _ (.ask _ (.done _)))

theorem runs_waiting :
    (Client.new ⟨0, 0⟩ "memory" "worker" .default).Runs [opening, declaring, waiting]
      idleClient := by
  have opened : (opening.operation.program (Client.new ⟨0, 0⟩ "memory" "worker" .default)).Ends
      opening.history (opening.outcome, { declaredClient with queues := [] }) :=
    .ask _ (.ask _ (.done _))
  have declared : (declaring.operation.program { declaredClient with queues := [] }).Ends
      declaring.history (declaring.outcome, declaredClient) :=
    .ask _ (.done _)
  have waited : (waiting.operation.program declaredClient).Ends
      waiting.history (waiting.outcome, idleClient) :=
    ends_waiting none
  exact .perform (.perform (.perform .begin opening opened) declaring declared) waiting waited

end Performance

end BrokerClient
