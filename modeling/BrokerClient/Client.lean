import BrokerClient.Client.Error
import BrokerClient.Options
import BrokerClient.Transport.Program

/-!
# Clients

A client holds one connection and at most one channel.  It remembers which queues it has declared
on the channel and which streams it receives from; both registries belong to the channel and are
emptied with it.  It also remembers how its latest operation ended.

An operation takes a client to an outcome and the client afterwards.
-/

namespace BrokerClient

/-- A client session with the broker. -/
structure Client where
  /-- The failure of the latest operation; `none` if it succeeded. -/
  lastError : Option ClientError
  channel : Option Channel
  connection : Connection
  /-- Where the broker is dialed. -/
  url : String
  /-- The tag of every consumer of this client. -/
  consumerId : String
  options : Options
  /-- The queues known to exist on the channel. -/
  queues : Dictionary QueueInfo
  /-- The streams received from, by queue. -/
  streams : Dictionary Stream

/-- How an operation ends: its outcome, and the client afterwards. -/
abbrev Outcome (α : Type) := Except ClientError α × Client

namespace Client

/-- A client on a fresh connection, without a channel. -/
def new
    (connection : Connection)
    (url consumerId : String)
    (options : Options) :
    Client where
  lastError := none
  channel := none
  connection := connection
  url := url
  consumerId := consumerId
  options := options
  queues := []
  streams := []

/-- Whether a queue is known to exist on the channel. -/
def hasQueue (client : Client) (queue : String) : Bool :=
  client.queues.contains queue

/-- Whether a stream is held for a queue. -/
def hasConsumer (client : Client) (queue : String) : Bool :=
  client.streams.contains queue

/-- Replace the recorded failure, after one on the caller's side. -/
def setLastError (client : Client) (error : ClientError) : Client :=
  { client with lastError := some error }

/-- Forget the recorded failure. -/
def resetError (client : Client) : Client :=
  { client with lastError := none }

/-- The failure in an outcome. -/
def failure? : Except ClientError α → Option ClientError
  | .ok _ => none
  | .error error => some error

/-- Record how an operation ended. -/
def recorded (outcome : Outcome α) : Outcome α :=
  (outcome.1, { outcome.2 with lastError := failure? outcome.1 })

/-- Carry an operation out and record how it ended. -/
def record (operation : Program (Outcome α)) : Program (Outcome α) := do
  return recorded (← operation)

/-- The outcome of a call, with its failure put into the words of the operation. -/
def outcomeOf
    (client : Client)
    (failure : String → ClientError) :
    Except TransportError α → Outcome α
  | .ok value => (.ok value, client)
  | .error error => (.error (failure error.message), client)

/-- The failure of an operation that needs a channel where none is held. -/
def noChannel : ClientError :=
  .channel "no open channel"

/-- The failure of a call that needs a channel where none is held. -/
def channelMissing : TransportError :=
  .closed "no open channel"

/-- Give streams up, one after the other. -/
def releaseAll : List Stream → Program Unit
  | [] => return
  | stream :: rest => do
      Program.request (.release stream)
      releaseAll rest

/-- Recording keeps the outcome. -/
@[simp] theorem recorded_fst (outcome : Outcome α) :
    (recorded outcome).1 = outcome.1 :=
  rfl

end Client

end BrokerClient
