import BrokerClient.Message.Identifier
import BrokerClient.Trace

/-!
# Properties of messages

Every message that is sent names its content type, has an identifier of its own and carries the
current trace context in its headers.  It goes to the default exchange, which routes by the name
of the queue, and is neither mandatory nor immediate.
-/

namespace BrokerClient

/-- What travels with the body of a message. -/
structure Properties where
  contentType : Option String
  headers : Option HeaderTable
  messageId : Option MessageId
  deriving Repr, DecidableEq

namespace Properties

/-- No properties at all. -/
def none : Properties :=
  ⟨.none, .none, .none⟩

/-- The properties of a message that is sent. -/
def outgoing (tracing : Tracing) (contentType : String) (messageId : MessageId) : Properties where
  contentType := some contentType
  headers := some tracing.headers
  messageId := some messageId

/-- The trace context that a receiver takes over. -/
def traceContext (properties : Properties) (tracing : Tracing) : TraceContext :=
  tracing.propagator.extract tracing.current (properties.headers.getD [])

end Properties

/-- A message on its way to the broker. -/
structure Publication where
  exchange : String
  routingKey : String
  mandatory : Bool
  immediate : Bool
  body : List UInt8
  properties : Properties
  deriving Repr, DecidableEq

/-- The exchange that routes by the name of the queue. -/
def Publication.defaultExchange : String := ""

/-- A message for one queue. -/
def Publication.toQueue
    (queue : String)
    (body : List UInt8)
    (properties : Properties) :
    Publication where
  exchange := Publication.defaultExchange
  routingKey := queue
  mandatory := false
  immediate := false
  body := body
  properties := properties

end BrokerClient
