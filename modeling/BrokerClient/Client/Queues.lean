import BrokerClient.Client

/-!
# Declaring, inspecting and deleting queues

A queue is declared once on a channel: a name that is known already is not declared again.
Inspecting asks the broker and remembers nothing; deleting forgets the queue and its stream.
-/

namespace BrokerClient.Client

/-- Declare a queue unless its name is known; a failure changes nothing. -/
def declare (client : Client) (definition : QueueDefinition) : Program (Outcome Unit) := do
  if client.hasQueue definition.name then
    return (.ok (), client)
  else
    match client.channel with
    | none => return (.error noChannel, client)
    | some channel =>
        match ← Program.call
            (.declare channel definition.name definition.flags definition.arguments) with
        | .ok info =>
            let queues := client.queues.insert definition.name info
            return (.ok (), { client with queues := queues })
        | .error error =>
            return (.error (.declareQueue definition.name error.message), client)

/-- Declare the queue of a definition. -/
def ensureQueue (client : Client) (definition : QueueDefinition) : Program (Outcome Unit) :=
  record (client.declare definition)

/-- Declare a transient queue. -/
def ensureQueueExists (client : Client) (queue : String) : Program (Outcome Unit) :=
  client.ensureQueue (.new queue)

/-- Ask the broker about a queue, which has to exist. -/
def inspect (client : Client) (queue : String) : Program (Outcome QueueInfo) := do
  match client.channel with
  | none => return (.error noChannel, client)
  | some channel =>
      let definition := (QueueDefinition.new queue).apply .passive
      return client.outcomeOf (.declareQueue queue)
        (← Program.call (.declare channel queue definition.flags definition.arguments))

/-- Ask the broker about a queue. -/
def inspectQueue (client : Client) (queue : String) : Program (Outcome QueueInfo) :=
  record (client.inspect queue)

/-- Deletion without conditions. -/
def deleteFlags : DeleteFlags :=
  ⟨false, false, false⟩

/-- Give up the stream of a queue, if there is one, and forget it. -/
def forgetStream (client : Client) (queue : String) : Program Client := do
  releaseAll (client.streams.get? queue).toList
  return { client with streams := client.streams.erase queue }

/-- Delete a queue and forget it; the result is how many messages it still held. -/
def delete (client : Client) (queue : String) : Program (Outcome UInt32) := do
  match client.channel with
  | none => return (.error noChannel, client)
  | some channel =>
      match ← Program.call (.delete channel queue deleteFlags) with
      | .ok purged =>
          let client ← forgetStream { client with queues := client.queues.erase queue } queue
          return (.ok purged, client)
      | .error error => return (.error (.deleteQueue queue error.message), client)

/-- Delete a queue. -/
def deleteQueue (client : Client) (queue : String) : Program (Outcome UInt32) :=
  record (client.delete queue)

end BrokerClient.Client
