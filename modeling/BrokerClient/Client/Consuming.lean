import BrokerClient.Client.Channel
import BrokerClient.Client.Queues

/-!
# Receiving

A client receives from a queue through a stream that it registers when it needs one.  A
registration negotiates flow control and then consumes.  Both stages retry under a policy of their
own, and each retry gets a new channel, on which flow control is negotiated anew before anything
is consumed.

A stream that yields nothing usable any more is dropped, and its consumer is cancelled.  A delivery
that is empty or unreadable is handed out with the failure, and its stream is kept.
-/

namespace BrokerClient.Client

/-- Negotiate how many unsettled deliveries the broker may push. -/
def qos (client : Client) : Program (Except TransportError Unit) := do
  match client.channel with
  | some channel => Program.call (.qos channel client.options.prefetchCount false)
  | none => return .error channelMissing

/-- Deliveries are settled by hand, and the consumer shares its queue. -/
def consumeFlags : ConsumeFlags :=
  ⟨false, false, false, false⟩

/-- Register as a consumer of a queue. -/
def consume (client : Client) (queue : String) : Program (Except TransportError Stream) := do
  match client.channel with
  | some channel => Program.call (.consume channel queue client.consumerId consumeFlags)
  | none => return .error channelMissing

/-- Negotiate flow control with at most `retries` retries, each on a new channel after a pause. -/
def negotiateQosWithin
    (queue : String) :
    Nat → Client → Program (Outcome Unit)
  | retries, client => do
      match ← client.qos with
      | .ok () => return (.ok (), client)
      | .error error =>
          let failed := (.error (.qosDeclaration queue client.consumerId error.message), client)
          match retries with
          | 0 => return failed
          | remaining + 1 =>
              if client.options.reconnect.retryOn error then
                Program.request (.sleep client.options.reconnect.backoff)
                let (_, client) ← client.reopen
                negotiateQosWithin queue remaining client
              else
                return failed

/-- Negotiate flow control under the policy for reconnecting. -/
def negotiateQos (client : Client) (queue : String) : Program (Outcome Unit) :=
  negotiateQosWithin queue client.options.reconnect.maxRetries client

/-- Hold a stream for a queue, in place of the one that may be there. -/
def holdStream (client : Client) (queue : String) (stream : Stream) : Program Client := do
  let client' := { client with streams := client.streams.insert queue stream }
  releaseAll (client.streams.get? queue).toList
  return client'

/--
Consume with at most `retries` retries.  Each gets a new channel, pauses and negotiates flow
control, whose failure ends the registration.
-/
def consumeWithin
    (queue : String) :
    Nat → Client → Program (Outcome Unit)
  | retries, client => do
      match ← client.consume queue with
      | .ok stream => return (.ok (), ← client.holdStream queue stream)
      | .error error =>
          let failed :=
            (.error (.consumerDeclaration queue client.consumerId error.message), client)
          match retries with
          | 0 => return failed
          | remaining + 1 =>
              if client.options.notFound.retryOn error then
                let (_, client) ← client.reopen
                Program.request (.sleep client.options.notFound.backoff)
                match ← client.negotiateQos queue with
                | (.ok (), client) => consumeWithin queue remaining client
                | (.error error, client) => return (.error error, client)
              else
                return failed

/-- Negotiate flow control and register as a consumer of a queue. -/
def registerConsumer (client : Client) (queue : String) : Program (Outcome Unit) := do
  match ← client.negotiateQos queue with
  | (.ok (), client) => consumeWithin queue client.options.notFound.maxRetries client
  | (.error error, client) => return (.error error, client)

/-- Forget the stream of a queue and cancel its consumer, so that the next receive starts afresh. -/
def dropConsumer (client : Client) (queue : String) : Program Client := do
  let client ← client.forgetStream queue
  match client.channel with
  | some channel =>
      let _ ← Program.call (.cancel channel client.consumerId false)
      return client
  | none => return client

/-- Drop the consumer of a queue and fail. -/
def dropAndFail
    (client : Client)
    (queue : String)
    (error : ClientError) :
    Program (Outcome Delivery) := do
  return (.error error, ← client.dropConsumer queue)

/-- Wait for the next delivery of a stream that is held for a queue. -/
def awaitDelivery
    (client : Client)
    (queue : String)
    (stream : Stream) :
    Program (Outcome Delivery) := do
  match ← Program.request (.next stream client.options.receiveTimeout) with
  | .timedOut => client.dropAndFail queue (.noMessage queue)
  | .ended => client.dropAndFail queue (.streamClosed queue client.consumerId)
  | .item (.error error) =>
      client.dropAndFail queue (.consumption queue client.consumerId error.message)
  | .item (.ok delivery) =>
      if delivery.body.isEmpty then
        return (.error (.emptyDelivery client.consumerId delivery), client)
      else
        return (.ok delivery, client)

/-- Register a consumer for a queue unless a stream is held. -/
def ensureConsumer (client : Client) (queue : String) : Program (Outcome Unit) :=
  if client.hasConsumer queue then
    return (.ok (), client)
  else
    client.registerConsumer queue

/-- Wait for the next delivery from a queue. -/
def nextDelivery (client : Client) (queue : String) : Program (Outcome Delivery) := do
  match ← client.ensureConsumer queue with
  | (.error error, client) => return (.error error, client)
  | (.ok (), client) =>
      match client.streams.get? queue with
      | some stream => client.awaitDelivery queue stream
      | none => return (.error (.streamClosed queue client.consumerId), client)

/-- Read the body of a delivery; one that cannot be read is handed out with the failure. -/
def readDelivery
    (decode : List UInt8 → Except CodecError α)
    (delivery : Delivery) :
    Except ClientError (Delivery × α) :=
  match decode delivery.body with
  | .ok content => .ok (delivery, content)
  | .error error => .error (.parsePayload delivery error.message)

/-- Wait for the next delivery from a queue and read its body. -/
def receiveRead
    (client : Client)
    (queue : String)
    (decode : List UInt8 → Except CodecError α) :
    Program (Outcome (Delivery × α)) := do
  match ← client.nextDelivery queue with
  | (.ok delivery, client) => return (readDelivery decode delivery, client)
  | (.error error, client) => return (.error error, client)

/-- Receive the next message from a queue. -/
def receive
    (client : Client)
    (queue : String)
    (decode : List UInt8 → Except CodecError α) :
    Program (Outcome (Delivery × α)) :=
  record (client.receiveRead queue decode)

end BrokerClient.Client
