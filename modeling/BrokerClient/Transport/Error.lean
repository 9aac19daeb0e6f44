/-!
# Failures of the transport

The transport tells three kinds of failure apart: the broker does not know the name it was asked
for, the channel or the connection cannot be used any more, or anything else went wrong.
-/

namespace BrokerClient

/-- Why a call to the transport failed. -/
inductive TransportError where
  /-- The broker answered that the name is unknown. -/
  | notFound (text : String)
  /-- The channel or the connection is not in a usable state. -/
  | closed (text : String)
  /-- Any other failure of the protocol or of the network. -/
  | protocol (text : String)
  deriving Repr, DecidableEq

namespace TransportError

/-- The words for a failure. -/
def message : TransportError → String
  | .notFound text => "not found: " ++ text
  | .closed text => "channel or connection closed: " ++ text
  | .protocol text => text

/-- Whether the broker did not know the name. -/
def isNotFound : TransportError → Bool
  | .notFound _ => true
  | _ => false

end TransportError

end BrokerClient
