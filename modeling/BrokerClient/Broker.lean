import BrokerClient.Delivery.Settlement
import BrokerClient.Transport.Call

/-!
# A broker in memory

The broker keeps a backlog for each queue and a feed for each stream.  A message that it accepts
gets the next tag and goes to one consumer of its queue if the stream of that one is still held, or
else to the backlog; so at any time it is in one place.  Where a queue has several consumers, the
broker's arbitration decides which of them is asked.  A consumer takes the whole backlog of its
queue into its feed when it registers.

Connections and channels belong to a generation.  Dropping all connections starts a new one, after
which those of the old generations are unusable for good.
-/

namespace BrokerClient

/-- Deliveries on their way to one stream. -/
structure Feed where
  buffer : List Delivery
  /-- Whether somebody holds the stream. -/
  held : Bool

/-- A registered consumer: its queue and the stream that it feeds. -/
structure Consumer where
  queue : String
  stream : Stream
  deriving Repr, DecidableEq

/--
Which consumer is asked when a queue has several: the order in which all consumers are considered
for the message with a given tag.
-/
structure Arbitration where
  order : Nat → List Consumer → List Consumer
  perm : ∀ tag consumers, (order tag consumers).Perm consumers

namespace Arbitration

/-- The consumers are considered in the order of their tags, whatever the message. -/
def byConsumerTag : Arbitration where
  order := fun _ consumers => consumers
  perm := fun _ _ => .rfl

end Arbitration

/-- The state of the broker. -/
structure Broker where
  /-- How the broker chooses between the consumers of one queue. -/
  arbitration : Arbitration
  /-- The backlog of every queue, oldest first. -/
  queues : Dictionary (List Delivery)
  /-- The registered consumers by tag. -/
  consumers : Dictionary Consumer
  /-- The feed of every stream, by the number of the stream. -/
  feeds : List Feed
  /-- The generation that new connections belong to. -/
  generation : Nat
  /-- How many messages have been accepted; the tag of the latest. -/
  accepted : Nat
  /-- Channels that are closed, by number. -/
  closedChannels : List Nat
  refusesDials : Bool
  dials : Nat
  channelsOpened : Nat
  declares : Nat
  /-- The tags of all cancellations, oldest first. -/
  cancels : List String
  /-- The tags of acknowledged deliveries, oldest first. -/
  acked : List Nat
  /-- The tags of rejected deliveries, oldest first. -/
  rejected : List Nat
  /-- Routing keys and properties of published messages, oldest first. -/
  published : List (String × Properties)

namespace Broker

/-- A broker that nobody has talked to. -/
def empty (arbitration : Arbitration) : Broker where
  arbitration := arbitration
  queues := []
  consumers := []
  feeds := []
  generation := 0
  accepted := 0
  closedChannels := []
  refusesDials := false
  dials := 0
  channelsOpened := 0
  declares := 0
  cancels := []
  acked := []
  rejected := []
  published := []

/-- Whether a queue exists. -/
def queueExists (broker : Broker) (queue : String) : Bool :=
  broker.queues.contains queue

/-- The messages of a queue that no consumer has taken. -/
def backlog (broker : Broker) (queue : String) : List Delivery :=
  (broker.queues.get? queue).getD []

/-- Whether a connection belongs to an old generation. -/
def isClosed (broker : Broker) (connection : Connection) : Bool :=
  connection.generation != broker.generation

/-- Whether a channel is usable. -/
def isOpen (broker : Broker) (channel : Channel) : Bool :=
  !broker.closedChannels.contains channel.number && channel.generation == broker.generation

/-- The failure of a call on a channel that is not usable. -/
def channelClosed : TransportError :=
  .closed "channel is closed"

/-- The failure of a call on a connection that is not usable. -/
def connectionClosed : TransportError :=
  .closed "connection is closed"

/-- The failure of a call that names a queue which does not exist. -/
def noQueue (queue : String) : TransportError :=
  .notFound ("no queue '" ++ queue ++ "'")

/-! ## Streams -/

/-- The feed of a stream. -/
def feed? (broker : Broker) (stream : Stream) : Option Feed :=
  broker.feeds[stream.number]?

/-- Whether the stream of a consumer is still held. -/
def isLive (broker : Broker) (consumer : Consumer) : Bool :=
  match broker.feed? consumer.stream with
  | some feed => feed.held
  | none => false

/-- Whether a consumer feeds a stream. -/
def isFed (broker : Broker) (stream : Stream) : Bool :=
  broker.consumers.any fun entry => entry.2.stream = stream

/-- Change the feed of a stream. -/
def modifyFeed (broker : Broker) (stream : Stream) (change : Feed → Feed) : Broker :=
  { broker with feeds := broker.feeds.modify stream.number change }

/-- Open a stream with the given deliveries in its feed. -/
def openStream (broker : Broker) (deliveries : List Delivery) : Stream × Broker :=
  (⟨broker.feeds.length⟩, { broker with feeds := broker.feeds ++ [⟨deliveries, true⟩] })

/-- Number a stream that is fed by somebody else. -/
def reserveStream (broker : Broker) : Stream × Broker :=
  (⟨broker.feeds.length⟩, { broker with feeds := broker.feeds ++ [⟨[], false⟩] })

/-- Give a stream up; what is still in its feed is lost. -/
def release (broker : Broker) (stream : Stream) : Broker :=
  broker.modifyFeed stream fun _ => ⟨[], false⟩

/-- What a stream has to offer right now. -/
inductive Poll where
  | item (delivery : Delivery) (broker : Broker)
  | ended
  | pending

/-- Look for the next delivery of a stream, which ends once nothing feeds it any more. -/
def poll (broker : Broker) (stream : Stream) : Poll :=
  match broker.feed? stream with
  | none => .ended
  | some feed =>
      match feed.buffer with
      | delivery :: rest =>
          .item delivery (broker.modifyFeed stream fun feed => { feed with buffer := rest })
      | [] => if broker.isFed stream then .pending else .ended

/-! ## Messages -/

/-- The first of the consumers that takes from a queue. -/
def consumerAmong? (consumers : List Consumer) (queue : String) : Option Consumer :=
  consumers.find? fun consumer => consumer.queue = queue

/-- Put a delivery at the end of a backlog; the queue comes into being if need be. -/
def enqueue (broker : Broker) (queue : String) (delivery : Delivery) : Broker :=
  { broker with queues := broker.queues.insert queue (broker.backlog queue ++ [delivery]) }

/--
Hand a delivery to the first of the consumers that takes from the queue if its stream is held, or
else to the backlog.
-/
def routeAmong
    (broker : Broker)
    (consumers : List Consumer)
    (queue : String)
    (delivery : Delivery) :
    Broker :=
  match consumerAmong? consumers queue with
  | none => broker.enqueue queue delivery
  | some consumer =>
      if broker.isLive consumer then
        broker.modifyFeed consumer.stream fun feed =>
          { feed with buffer := feed.buffer ++ [delivery] }
      else
        broker.enqueue queue delivery

/-- The registered consumers in the order in which they are considered for a message. -/
def candidates (broker : Broker) (tag : Nat) : List Consumer :=
  broker.arbitration.order tag (broker.consumers.map Prod.snd)

/-- Hand a delivery to a registered consumer or to the backlog. -/
def route (broker : Broker) (queue : String) (delivery : Delivery) : Broker :=
  broker.routeAmong (broker.candidates delivery.tag) queue delivery

/-- Accept a message for a queue under the next tag. -/
def accept
    (broker : Broker)
    (queue : String)
    (properties : Properties)
    (body : List UInt8) :
    Broker :=
  let tag := broker.accepted + 1
  let delivery :=
    { Delivery.new tag queue body with
      properties := properties
      acknowledger := some (.broker tag) }
  { broker with accepted := tag }.route queue delivery

/-! ## Events -/

/-- Put a message on a queue without publishing it. -/
def pushRaw (broker : Broker) (queue : String) (body : List UInt8) : Broker :=
  broker.accept queue .none body

/-- Every consumer is cancelled by the broker. -/
def dropConsumers (broker : Broker) : Broker :=
  { broker with consumers := [] }

/-- Every connection breaks, and with them all channels and consumers. -/
def dropConnections (broker : Broker) : Broker :=
  { broker with generation := broker.generation + 1, consumers := [] }

/-- Refuse new connections, or allow them again. -/
def refuseDials (broker : Broker) (refuses : Bool) : Broker :=
  { broker with refusesDials := refuses }

/-! ## Calls -/

/-- Open a connection of the current generation. -/
def dial (broker : Broker) : Except TransportError Connection × Broker :=
  if broker.refusesDials then
    (.error (.protocol "connection refused"), broker)
  else
    let number := broker.dials + 1
    (.ok ⟨number, broker.generation⟩, { broker with dials := number })

/-- Open a channel on a connection. -/
def openChannel
    (broker : Broker)
    (connection : Connection) :
    Except TransportError Channel × Broker :=
  if broker.isClosed connection then
    (.error connectionClosed, broker)
  else
    let number := broker.channelsOpened + 1
    (.ok ⟨number, connection.generation⟩, { broker with channelsOpened := number })

/-- Close a connection, which leaves it as usable as it was. -/
def closeConnection
    (broker : Broker)
    (connection : Connection) :
    Except TransportError Unit × Broker :=
  (if broker.isClosed connection then .error connectionClosed else .ok (), broker)

/-- Close a channel for good. -/
def closeChannel (broker : Broker) (channel : Channel) : Broker :=
  { broker with closedChannels := channel.number :: broker.closedChannels }

/-- How many consumers are registered on a queue. -/
def consumerCount (broker : Broker) (queue : String) : Nat :=
  ((broker.consumers.map Prod.snd).filter fun consumer => consumer.queue = queue).length

/-- What the broker says about a queue. -/
def queueInfo (broker : Broker) (queue : String) : QueueInfo where
  name := queue
  messageCount := .ofNat (broker.backlog queue).length
  consumerCount := .ofNat (broker.consumerCount queue)

/-- Declare a queue, or only look for it if the declaration is passive. -/
def declare
    (broker : Broker)
    (queue : String)
    (flags : DeclareFlags) :
    Except TransportError QueueInfo × Broker :=
  let broker := { broker with declares := broker.declares + 1 }
  if flags.passive && !broker.queueExists queue then
    (.error (noQueue queue), broker)
  else
    (.ok (broker.queueInfo queue),
      { broker with queues := broker.queues.insert queue (broker.backlog queue) })

/-- Delete a queue with its backlog and its consumers. -/
def delete (broker : Broker) (queue : String) : UInt32 × Broker :=
  (.ofNat (broker.backlog queue).length,
    { broker with
      queues := broker.queues.erase queue
      consumers := broker.consumers.filter fun entry => entry.2.queue ≠ queue })

/-- Publish a message; it is routed by its routing key. -/
def publish (broker : Broker) (publication : Publication) : Broker :=
  let record := (publication.routingKey, publication.properties)
  { broker with published := broker.published ++ [record] }.accept
    publication.routingKey publication.properties publication.body

/--
Register a consumer under a tag, in place of the one that may be there, and move the backlog of
its queue into its feed.  A queue that does not exist costs the channel.
-/
def consume
    (broker : Broker)
    (channel : Channel)
    (queue tag : String) :
    Except TransportError Stream × Broker :=
  match broker.queues.get? queue with
  | none => (.error (noQueue queue), broker.closeChannel channel)
  | some backlog =>
      let (stream, broker) := broker.openStream backlog
      (.ok stream,
        { broker with
          queues := broker.queues.insert queue []
          consumers := broker.consumers.insert tag ⟨queue, stream⟩ })

/-- Cancel the consumer under a tag, if there is one. -/
def cancel (broker : Broker) (tag : String) : Broker :=
  { broker with
    cancels := broker.cancels ++ [tag]
    consumers := broker.consumers.erase tag }

/-- Make a call on a channel if it is usable; otherwise nothing happens. -/
def onChannel
    (broker : Broker)
    (channel : Channel)
    (perform : Except TransportError α × Broker) :
    Except TransportError α × Broker :=
  if broker.isOpen channel then perform else (.error channelClosed, broker)

/-- Answer a call. -/
def perform (broker : Broker) : (call : Call) → call.Answer × Broker
  | .dial _ => broker.dial
  | .openChannel connection => broker.openChannel connection
  | .closeConnection connection => broker.closeConnection connection
  | .qos channel _ _ => broker.onChannel channel (.ok (), broker)
  | .declare channel queue flags _ => broker.onChannel channel (broker.declare queue flags)
  | .delete channel queue _ =>
      let (purged, deleted) := broker.delete queue
      broker.onChannel channel (.ok purged, deleted)
  | .publish channel publication =>
      broker.onChannel channel (.ok (), broker.publish publication)
  | .consume channel queue tag _ =>
      broker.onChannel channel (broker.consume channel queue tag)
  | .cancel channel tag _ => broker.onChannel channel (.ok (), broker.cancel tag)
  | .closeChannel channel => (.ok (), broker.closeChannel channel)

/-- Record a settlement; a refusal leaves no trace. -/
def recordSettlement (broker : Broker) (tag : Nat) : Settlement → Broker
  | .ack => { broker with acked := broker.acked ++ [tag] }
  | .nack _ => broker
  | .reject _ => { broker with rejected := broker.rejected ++ [tag] }

/-- Settle a delivery, which leaves a record if it came from the broker. -/
def settle
    (broker : Broker)
    (delivery : Delivery)
    (settlement : Settlement) :
    Except ClientError Unit × Broker :=
  let broker := match delivery.acknowledger with
    | some (.broker tag) => broker.recordSettlement tag settlement
    | _ => broker
  (delivery.settled settlement, broker)

/-- Exactly the registered consumers are considered for a message. -/
theorem mem_candidates_iff {broker : Broker} {tag : Nat} {consumer : Consumer} :
    consumer ∈ broker.candidates tag ↔ consumer ∈ broker.consumers.map Prod.snd :=
  (broker.arbitration.perm tag _).mem_iff

/-- A call on a channel that is not usable fails and changes nothing. -/
theorem onChannel_of_not_isOpen
    {broker : Broker}
    {channel : Channel}
    (unusable : broker.isOpen channel = false)
    (perform : Except TransportError α × Broker) :
    broker.onChannel channel perform = (.error channelClosed, broker) := by
  simp [onChannel, unusable]

/-- A closed channel is not usable. -/
theorem isOpen_closeChannel (broker : Broker) (channel : Channel) :
    (broker.closeChannel channel).isOpen channel = false := by
  simp [isOpen, closeChannel]

end Broker

end BrokerClient
