import BrokerClient.Delivery

/-!
# Failures of a client

Every failure names what the client was about: the queue, the consumer, the message.  Two of them
carry a delivery that could not be used, so that it can still be settled.
-/

namespace BrokerClient

/-- Why an operation of a client failed. -/
inductive ClientError where
  | connection (url reason : String)
  | channel (reason : String)
  | declareQueue (queue reason : String)
  | deleteQueue (queue reason : String)
  | serializePayload (payload reason : String)
  | publishing (queue payload reason : String)
  | qosDeclaration (queue consumer reason : String)
  | consumerDeclaration (queue consumer reason : String)
  /-- Nothing arrived in time; receiving may simply be repeated. -/
  | noMessage (queue : String)
  /-- A delivery without a body. -/
  | emptyDelivery (consumer : String) (delivery : Delivery)
  /-- The broker ended the stream of deliveries. -/
  | streamClosed (queue consumer : String)
  /-- The stream yielded a failure in place of a delivery. -/
  | consumption (queue consumer reason : String)
  /-- A delivery whose body could not be read. -/
  | parsePayload (delivery : Delivery) (reason : String)
  | ackMessage (reason : String)
  | nackMessage (reason : String)
  | close (reason : String)

namespace ClientError

/-- The words for a failure. -/
def message : ClientError → String
  | .connection url reason => "failure to connect to `" ++ url ++ "`: " ++ reason
  | .channel reason => "failure to create a channel: " ++ reason
  | .declareQueue queue reason => "failure to declare a queue `" ++ queue ++ "`: " ++ reason
  | .deleteQueue queue reason => "failure to delete a queue `" ++ queue ++ "`: " ++ reason
  | .serializePayload payload reason =>
      "failure to serialize payload [" ++ payload ++ "]: " ++ reason
  | .publishing queue payload reason =>
      "failure to publish [" ++ payload ++ "] to queue `" ++ queue ++ "`: " ++ reason
  | .qosDeclaration queue consumer reason =>
      "failure to configure qos on queue `" ++ queue ++ "` for consumer `" ++ consumer ++
        "`: " ++ reason
  | .consumerDeclaration queue consumer reason =>
      "failure to consume queue `" ++ queue ++ "` for consumer `" ++ consumer ++ "`: " ++ reason
  | .noMessage queue => "no message found in queue `" ++ queue ++ "`"
  | .emptyDelivery consumer _ => "delivery body is empty, consumer `" ++ consumer ++ "`"
  | .streamClosed queue consumer =>
      "delivery stream closed for consumer `" ++ consumer ++ "` on queue `" ++ queue ++ "`"
  | .consumption queue consumer reason =>
      "failure to consume message from queue `" ++ queue ++ "` for consumer `" ++ consumer ++
        "`: " ++ reason
  | .parsePayload _ reason => "failure to parse payload: " ++ reason
  | .ackMessage reason => "failure to ack message: " ++ reason
  | .nackMessage reason => "failure to nack message: " ++ reason
  | .close reason => "failure to close the connection: " ++ reason

/-- Whether nothing arrived in time. -/
def isNoMessage : ClientError → Bool
  | .noMessage _ => true
  | _ => false

/-- The delivery that a failure carries. -/
def delivery? : ClientError → Option Delivery
  | .emptyDelivery _ delivery => some delivery
  | .parsePayload delivery _ => some delivery
  | _ => none

end ClientError

end BrokerClient
