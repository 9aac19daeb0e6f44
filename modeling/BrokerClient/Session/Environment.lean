import BrokerClient.Broker
import BrokerClient.Session.Script
import BrokerClient.Transport.Program

/-!
# The surroundings of a session

In a session clients run against the broker in memory, with a script in front of it and a clock
that moves only while a client waits.  Events are due at points of time; a client that waits passes
through those that come before its wait is over.  Calls and events are logged in order.

A wait for a delivery is over as soon as the stream has something to offer.  What becomes available
at the very moment at which the wait would time out is still delivered.

Without a network no call succeeds at all.
-/

namespace BrokerClient

/-- Something that happens to the broker or to the script. -/
inductive BrokerStep where
  | pushRaw (queue : String) (body : List UInt8)
  | dropConnections
  | dropConsumers
  | refuseDials (refuses : Bool)
  | script (kind : CallKind) (outcomes : List ScriptedOutcome) (times : Nat)

/-- An event that is due at a point of time. -/
structure ScheduledEvent where
  time : Nat
  step : BrokerStep

/-- An entry of the log. -/
inductive LogEntry where
  /-- An event just before it takes effect. -/
  | event (time : Nat) (step : BrokerStep)
  /--
  A call with its answer when it returned, and whether it used an identifier that no publish
  before it had used.
  -/
  | call (time : Nat) (call : Call) (answer : call.Answer) (freshId : Bool)

/-- A stream that is fed by the script. -/
structure ScriptedStream where
  stream : Stream
  items : List ScriptedItem
  ends : Bool

/-- The state of a session around its clients. -/
structure Environment where
  broker : Broker
  script : Script
  /-- The time in milliseconds. -/
  now : Nat
  /-- The events to come, the next one in front. -/
  schedule : List ScheduledEvent
  scriptedStreams : List ScriptedStream
  /-- The numbers of the channels that never report themselves open. -/
  deadChannels : List Nat
  /-- How many identifiers have been drawn. -/
  drawnIds : Nat
  /-- The identifiers that publishes have used. -/
  usedIds : List MessageId
  /-- How many messages have been described. -/
  described : Nat
  /-- What happened, the latest in front. -/
  log : List LogEntry

namespace Environment

/-- A session that has not begun, whose broker chooses between consumers as given. -/
def start (arbitration : Arbitration) : Environment where
  broker := .empty arbitration
  script := []
  now := 0
  schedule := []
  scriptedStreams := []
  deadChannels := []
  drawnIds := 0
  usedIds := []
  described := 0
  log := []

/-- Whether a channel reports itself open. -/
def isOpen (environment : Environment) (channel : Channel) : Bool :=
  !environment.deadChannels.contains channel.number && environment.broker.isOpen channel

/-! ## Events -/

/-- Let something happen. -/
def apply (environment : Environment) : BrokerStep → Environment
  | .pushRaw queue body =>
      { environment with broker := environment.broker.pushRaw queue body }
  | .dropConnections =>
      { environment with broker := environment.broker.dropConnections }
  | .dropConsumers =>
      { environment with broker := environment.broker.dropConsumers }
  | .refuseDials refuses =>
      { environment with broker := environment.broker.refuseDials refuses }
  | .script kind outcomes times =>
      { environment with script := environment.script.add kind outcomes times }

/-- Let a scheduled event happen at its time. -/
def fire (environment : Environment) (event : ScheduledEvent) : Environment :=
  let logged :=
    { environment with
      now := event.time
      log := .event event.time event.step :: environment.log }
  logged.apply event.step

/-- Put an event behind those that are due no later. -/
def insertEvent (event : ScheduledEvent) : List ScheduledEvent → List ScheduledEvent
  | [] => [event]
  | first :: rest =>
      if event.time < first.time then event :: first :: rest
      else first :: insertEvent event rest

/-- Schedule something for a while from now. -/
def scheduleIn (environment : Environment) (delay : Nat) (step : BrokerStep) : Environment :=
  let event := ⟨environment.now + delay, step⟩
  { environment with schedule := insertEvent event environment.schedule }

/-- Let the events up to a point of time happen, of a schedule that begins with the next one. -/
def passEvents (limit : Nat) : List ScheduledEvent → Environment → Environment
  | [], environment => { environment with schedule := [] }
  | event :: rest, environment =>
      if event.time ≤ limit then
        passEvents limit rest (environment.fire event)
      else
        { environment with schedule := event :: rest }

/-- Let time pass up to a point, with the events on the way. -/
def advanceTo (environment : Environment) (limit : Nat) : Environment :=
  { passEvents limit environment.schedule environment with now := limit }

/-! ## Waiting for deliveries -/

/--
Wait for a stream of the broker up to a deadline: look at the stream, and again after each event.
-/
def awaitFeed
    (stream : Stream)
    (deadline : Nat) :
    List ScheduledEvent → Environment → Arrival × Environment
  | events, environment =>
      match environment.broker.poll stream with
      | .item delivery broker =>
          (.item (.ok delivery), { environment with broker := broker, schedule := events })
      | .ended => (.ended, { environment with schedule := events })
      | .pending =>
          match events with
          | [] => (.timedOut, { environment with now := deadline, schedule := [] })
          | event :: rest =>
              if event.time ≤ deadline then
                awaitFeed stream deadline rest (environment.fire event)
              else
                (.timedOut, { environment with now := deadline, schedule := event :: rest })

/-- The scripted stream behind a handle. -/
def scripted? (environment : Environment) (stream : Stream) : Option ScriptedStream :=
  environment.scriptedStreams.find? fun scripted => scripted.stream = stream

/-- Put the rest of a scripted stream in its place. -/
def setItems
    (environment : Environment)
    (stream : Stream)
    (items : List ScriptedItem) :
    Environment :=
  let change (scripted : ScriptedStream) : ScriptedStream :=
    if scripted.stream = stream then { scripted with items := items } else scripted
  { environment with scriptedStreams := environment.scriptedStreams.map change }

/-- Wait for a scripted stream up to a deadline. -/
def awaitScripted
    (environment : Environment)
    (scripted : ScriptedStream)
    (deadline : Nat) :
    Arrival × Environment :=
  match scripted.items with
  | [] =>
      if scripted.ends then (.ended, environment)
      else (.timedOut, environment.advanceTo deadline)
  | item :: rest =>
      let due := environment.now + item.delay
      if due ≤ deadline then
        (.item item.content, (environment.advanceTo due).setItems scripted.stream rest)
      else
        (.timedOut, environment.advanceTo deadline)

/-- Wait for the next delivery of a stream. -/
def await
    (environment : Environment)
    (stream : Stream)
    (timeout : Duration) :
    Arrival × Environment :=
  let deadline := environment.now + timeout.milliseconds
  match environment.scripted? stream with
  | some scripted => environment.awaitScripted scripted deadline
  | none => awaitFeed stream deadline environment.schedule environment

/-! ## Calls -/

/-- Let the broker answer a call. -/
def askBroker (environment : Environment) (call : Call) : call.Answer × Environment :=
  let (answer, broker) := environment.broker.perform call
  (answer, { environment with broker := broker })

/-- Answer a call as the script prescribes; an outcome for another kind of call says nothing. -/
def prescribe
    (environment : Environment)
    (call : Call)
    (outcome : ScriptedOutcome) :
    call.Answer × Environment :=
  match call, outcome with
  | _, .failure error => (.error error, environment)
  | .declare .., .declared info => (.ok info, environment)
  | .delete .., .deleted purged => (.ok purged, environment)
  | .openChannel connection, .deadChannel =>
      match environment.askBroker (.openChannel connection) with
      | (.ok channel, environment) =>
          (.ok channel,
            { environment with deadChannels := channel.number :: environment.deadChannels })
      | (.error error, environment) => (.error error, environment)
  | .consume .., .stream items ends =>
      let (stream, broker) := environment.broker.reserveStream
      let scripted := ⟨stream, items, ends⟩
      (.ok stream,
        { environment with
          broker := broker
          scriptedStreams := scripted :: environment.scriptedStreams })
  | call, _ => environment.askBroker call

/-- The identifier of the message that a call publishes. -/
def publishedId? : Call → Option MessageId
  | .publish _ publication => publication.properties.messageId
  | _ => none

/-- Log a call that has returned. -/
def logCall (environment : Environment) (call : Call) (answer : call.Answer) : Environment :=
  let published := publishedId? call
  let fresh := match published with
    | some messageId => !environment.usedIds.contains messageId
    | none => false
  { environment with
    usedIds := published.toList ++ environment.usedIds
    log := .call environment.now call answer fresh :: environment.log }

/-- Answer a call by the script or else by the broker, and log it. -/
def answerCall (environment : Environment) (call : Call) : call.Answer × Environment :=
  let (outcome, script) := environment.script.take call.kind
  let environment := { environment with script := script }
  let (answer, environment) := match outcome with
    | some outcome => environment.prescribe call outcome
    | none => environment.askBroker call
  (answer, environment.logCall call answer)

/-- Answer whatever a client asks. -/
def answer (environment : Environment) : (request : Request) → request.Answer × Environment
  | .transport call => environment.answerCall call
  | .isClosed connection => (environment.broker.isClosed connection, environment)
  | .sleep duration => ((), environment.advanceTo (environment.now + duration.milliseconds))
  | .next stream timeout => environment.await stream timeout
  | .release stream => ((), { environment with broker := environment.broker.release stream })
  | .describe _ => ((), { environment with described := environment.described + 1 })
  | .freshId =>
      (MessageId.ofNat environment.drawnIds,
        { environment with drawnIds := environment.drawnIds + 1 })

end Environment

/-- Surroundings without a network: no call succeeds and nothing arrives. -/
def Endpoint.offline (_ : Unit) : (request : Request) → request.Answer × Unit
  | .transport _ => (.error (.protocol "no network"), ())
  | .isClosed _ => (true, ())
  | .sleep _ => ((), ())
  | .next .. => (.timedOut, ())
  | .release _ => ((), ())
  | .describe _ => ((), ())
  | .freshId => (MessageId.ofNat 0, ())

end BrokerClient
