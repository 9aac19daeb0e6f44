import BrokerClient.Delivery
import BrokerClient.Queue

/-!
# Calls to the transport

A client reaches its broker through connections, channels and delivery streams, which it holds by
handle.  Each call names what it is made on and what it asks for; its result has the type that
belongs to it.
-/

namespace BrokerClient

/-- A connection to the broker, with the generation of connections that it belongs to. -/
structure Connection where
  number : Nat
  generation : Nat
  deriving Repr, DecidableEq

/-- A channel on a connection, with the generation of the connection. -/
structure Channel where
  number : Nat
  generation : Nat
  deriving Repr, DecidableEq

/-- A stream of deliveries to one consumer. -/
structure Stream where
  number : Nat
  deriving Repr, DecidableEq

/-- The flags of a queue deletion. -/
structure DeleteFlags where
  ifUnused : Bool
  ifEmpty : Bool
  nowait : Bool
  deriving Repr, DecidableEq

/-- The flags of a registration. -/
structure ConsumeFlags where
  noLocal : Bool
  noAck : Bool
  exclusive : Bool
  nowait : Bool
  deriving Repr, DecidableEq

/-- A call to the transport. -/
inductive Call where
  | dial (url : String)
  | openChannel (connection : Connection)
  | closeConnection (connection : Connection)
  | qos (channel : Channel) (prefetchCount : Nat) (global : Bool)
  | declare (channel : Channel) (queue : String) (flags : DeclareFlags) (arguments : HeaderTable)
  | delete (channel : Channel) (queue : String) (flags : DeleteFlags)
  | publish (channel : Channel) (publication : Publication)
  | consume (channel : Channel) (queue tag : String) (flags : ConsumeFlags)
  | cancel (channel : Channel) (tag : String) (nowait : Bool)
  | closeChannel (channel : Channel)
  deriving Repr, DecidableEq

/-- What a call is about, without its arguments. -/
inductive CallKind where
  | dial
  | openChannel
  | closeConnection
  | qos
  | declare
  | delete
  | publish
  | consume
  | cancel
  | closeChannel
  deriving Repr, DecidableEq

namespace Call

/-- The kind of a call. -/
def kind : Call → CallKind
  | .dial .. => .dial
  | .openChannel .. => .openChannel
  | .closeConnection .. => .closeConnection
  | .qos .. => .qos
  | .declare .. => .declare
  | .delete .. => .delete
  | .publish .. => .publish
  | .consume .. => .consume
  | .cancel .. => .cancel
  | .closeChannel .. => .closeChannel

/-- What a successful call returns. -/
abbrev Result : Call → Type
  | .dial .. => Connection
  | .openChannel .. => Channel
  | .declare .. => QueueInfo
  | .delete .. => UInt32
  | .consume .. => Stream
  | _ => Unit

/-- What a call is answered with. -/
abbrev Answer (call : Call) : Type :=
  Except TransportError call.Result

end Call

end BrokerClient
