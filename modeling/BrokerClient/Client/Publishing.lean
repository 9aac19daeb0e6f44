import BrokerClient.Client.Queues

/-!
# Publishing

A message goes to the queue that it names, which is declared first if it is not known.  A message
is described only if it has to be shown in a failure.  Publishing never reconnects.
-/

namespace BrokerClient.Client

/-- The failure of a message, which is shown in it. -/
def failWith
    (client : Client)
    (message : Outgoing)
    (error : ClientError) :
    Program (Outcome Unit) := do
  Program.request (.describe message)
  return (.error error, client)

/-- Send a body on the channel. -/
def send
    (client : Client)
    (tracing : Tracing)
    (queue : String)
    (message : Outgoing)
    (body : List UInt8) :
    Program (Outcome Unit) := do
  let messageId ← Program.request .freshId
  match client.channel with
  | none => return (.error noChannel, client)
  | some channel =>
      let properties := Properties.outgoing tracing Codec.contentType messageId
      match ← Program.call (.publish channel (.toQueue queue body properties)) with
      | .ok () => return (.ok (), client)
      | .error error =>
          client.failWith message (.publishing queue message.description error.message)

/-- Declare the queue, then send the message if it has a body. -/
def sendDeclared
    (client : Client)
    (tracing : Tracing)
    (queue : String)
    (message : Outgoing) :
    Program (Outcome Unit) := do
  match ← client.declare (.new queue) with
  | (.error error, client) => return (.error error, client)
  | (.ok (), client) =>
      match message.body with
      | .ok body => client.send tracing queue message body
      | .error error =>
          client.failWith message (.serializePayload message.description error.message)

/-- Publish a message to a queue. -/
def publish
    (client : Client)
    (tracing : Tracing)
    (queue : String)
    (message : Outgoing) :
    Program (Outcome Unit) :=
  record (client.sendDeclared tracing queue message)

end BrokerClient.Client
