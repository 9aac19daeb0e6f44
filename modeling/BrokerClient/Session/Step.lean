import BrokerClient.Client.Consuming
import BrokerClient.Client.Publishing
import BrokerClient.Content
import BrokerClient.Endpoint
import BrokerClient.Session.Environment

/-!
# Sessions

A session takes clients, the broker and the clock through a list of steps and says for each step
how it turned out.  Clients go by names; a client that is connected under a name takes the place of
the one that had it before.
-/

namespace BrokerClient

/-- A step of one client. -/
inductive ClientStep where
  | reset
  | ensureQueueExists (queue : String)
  | ensureQueue (definition : QueueDefinition)
  | inspectQueue (queue : String)
  | deleteQueue (queue : String)
  | registerConsumer (queue : String)
  | publish (queue : String) (message : Message) (current : TraceContext)
  | receive (queue : String) (kind : ContentKind)
  | close
  | setLastError (error : ClientError)
  | resetError

/-- A step of a session. -/
inductive SessionStep where
  | broker (step : BrokerStep)
  | queueExists (queue : String)
  | brokerState
  | sleep (duration : Duration)
  /-- Schedule something for a while from now. -/
  | schedule (delay : Nat) (step : BrokerStep)
  /-- Connect a client and open its channel. -/
  | connect (name consumerId : String) (endpoint : Endpoint)
  /-- Dial for a client without opening a channel. -/
  | dial (name consumerId : String) (endpoint : Endpoint)
  /-- Settle a received delivery, or the one in the last failure of a client. -/
  | settle (name : String) (index : Option Nat) (settlement : Settlement)
  /-- The trace context of a received delivery. -/
  | trace (index : Nat)
  | client (name : String) (step : ClientStep)

/-- How a step turned out. -/
inductive StepResult where
  | done
  | failed (error : ClientError)
  | transportFailed (error : TransportError)
  | unreachable
  | noClient
  | noDelivery
  | truth (value : Bool)
  | brokerState (broker : Broker)
  | queueInfo (info : QueueInfo)
  | purged (count : UInt32)
  /-- How a publish ended, and how often its message was described. -/
  | published (outcome : Except ClientError Unit) (described : Nat)
  | received (index : Nat) (delivery : Delivery) (content : Content)
  | trace (context : TraceContext)

/-- How contexts travel in a session where they do: these names are looked for besides. -/
def Propagator.textMap : Propagator :=
  .lookingFor ["traceparent", "TraceParent", "tracestate", "x-missing"]

/-- The state of a session. -/
structure Session where
  propagator : Propagator
  environment : Environment
  clients : Dictionary Client
  /-- All deliveries received so far, in order. -/
  received : List Delivery

namespace Session

/-- A session that has not begun. -/
def start (propagator : Propagator) (arbitration : Arbitration) : Session where
  propagator := propagator
  environment := .start arbitration
  clients := []
  received := []

/-- Run a program in the surroundings of the session. -/
def run (session : Session) (program : Program α) : α × Session :=
  let (value, environment) := program.run Environment.answer session.environment
  (value, { session with environment := environment })

/-- Change the surroundings of the session. -/
def onEnvironment (session : Session) (change : Environment → Environment) : Session :=
  { session with environment := change session.environment }

/-- Keep a client under a name. -/
def keep (session : Session) (name : String) (client : Client) : Session :=
  { session with clients := session.clients.insert name client }

/-- Put a new client in the place of the one under a name, whose streams are given up. -/
def replace (session : Session) (name : String) (client : Client) : Session :=
  match session.clients.get? name with
  | none => session.keep name client
  | some old =>
      let ((), session) := session.run (Client.releaseAll (old.streams.map Prod.snd))
      session.keep name client

/-- Run an operation of a client. -/
def runClient
    (session : Session)
    (name : String)
    (operation : Program (Outcome α)) :
    Except ClientError α × Session :=
  let ((outcome, client), session) := session.run operation
  (outcome, session.keep name client)

/-- How an operation without a value turned out. -/
def unitResult : Except ClientError Unit → StepResult
  | .ok () => .done
  | .error error => .failed error

/-- How a receive turned out; what is received gets the next index. -/
def receivedResult
    (session : Session) :
    Except ClientError (Delivery × Content) → StepResult × Session
  | .ok (delivery, content) =>
      (.received session.received.length delivery content,
        { session with received := session.received ++ [delivery] })
  | .error error => (.failed error, session)

/-- Take a step of a client. -/
def clientStep
    (session : Session)
    (name : String)
    (client : Client) :
    ClientStep → StepResult × Session
  | .reset =>
      let (outcome, session) := session.runClient name client.reset
      (unitResult outcome, session)
  | .ensureQueueExists queue =>
      let (outcome, session) := session.runClient name (client.ensureQueueExists queue)
      (unitResult outcome, session)
  | .ensureQueue definition =>
      let (outcome, session) := session.runClient name (client.ensureQueue definition)
      (unitResult outcome, session)
  | .inspectQueue queue =>
      match session.runClient name (client.inspectQueue queue) with
      | (.ok info, session) => (.queueInfo info, session)
      | (.error error, session) => (.failed error, session)
  | .deleteQueue queue =>
      match session.runClient name (client.deleteQueue queue) with
      | (.ok purged, session) => (.purged purged, session)
      | (.error error, session) => (.failed error, session)
  | .registerConsumer queue =>
      let (outcome, session) := session.runClient name (client.registerConsumer queue)
      (unitResult outcome, session)
  | .publish queue message current =>
      let before := session.environment.described
      let tracing := ⟨session.propagator, current⟩
      let (outcome, session) :=
        session.runClient name (client.publish tracing queue message.outgoing)
      (.published outcome (session.environment.described - before), session)
  | .receive queue kind =>
      let (outcome, session) := session.runClient name (client.receive queue kind.decode)
      session.receivedResult outcome
  | .close =>
      let (outcome, session) := session.runClient name client.close
      (unitResult outcome, session)
  | .setLastError error => (.done, session.keep name (client.setLastError error))
  | .resetError => (.done, session.keep name client.resetError)

/-- The delivery at an index, or the one in the last failure of a client. -/
def deliveryFor? (session : Session) (name : String) : Option Nat → Option Delivery
  | some index => session.received[index]?
  | none => do
      let client ← session.clients.get? name
      let error ← client.lastError
      error.delivery?

/-- Settle a delivery. -/
def settle
    (session : Session)
    (delivery : Delivery)
    (settlement : Settlement) :
    StepResult × Session :=
  let (outcome, broker) := session.environment.broker.settle delivery settlement
  (unitResult outcome,
    session.onEnvironment fun environment => { environment with broker := broker })

/-- Take a step. -/
def step (session : Session) : SessionStep → StepResult × Session
  | .broker step => (.done, session.onEnvironment fun environment => environment.apply step)
  | .queueExists queue => (.truth (session.environment.broker.queueExists queue), session)
  | .brokerState => (.brokerState session.environment.broker, session)
  | .sleep duration =>
      let ((), session) := session.run (Program.request (.sleep duration))
      (.done, session)
  | .schedule delay step =>
      (.done, session.onEnvironment fun environment => environment.scheduleIn delay step)
  | .connect name consumerId endpoint =>
      match session.run (endpoint.connect consumerId) with
      | (some client, session) => (.done, session.replace name client)
      | (none, session) => (.unreachable, session)
  | .dial name consumerId endpoint =>
      match session.run (endpoint.dial consumerId) with
      | (.ok client, session) => (.done, session.replace name client)
      | (.error error, session) => (.transportFailed error, session)
  | .settle name index settlement =>
      match session.deliveryFor? name index with
      | some delivery => session.settle delivery settlement
      | none => (.noDelivery, session)
  | .trace index =>
      match session.received[index]? with
      | some delivery => (.trace (delivery.traceContext ⟨session.propagator, none⟩), session)
      | none => (.noDelivery, session)
  | .client name step =>
      match session.clients.get? name with
      | some client => session.clientStep name client step
      | none => (.noClient, session)

/-- The log of the latest step, in order. -/
def takeLog (session : Session) : List LogEntry × Session :=
  (session.environment.log.reverse,
    session.onEnvironment fun environment => { environment with log := [] })

end Session

end BrokerClient
