import BrokerClient.Codec
import BrokerClient.Number.FloatText

/-!
# Messages

A message has a body, or a reason why it has none, and a description for failures that have to
show it.  A description is asked for only when it is shown.
-/

namespace BrokerClient

/-- What a sender hands to a client. -/
inductive Message where
  | value (content : Json)
  | greeting (words : String)
  | text (words : String)
  /-- A number of 64 bits, which is written as a string. -/
  | ping (fromNodeId : Nat)
  | counted (number : Int)
  /-- A map whose key is a list. -/
  | listKeyed
  /-- A value that refuses to be written. -/
  | failing (reason : String)
  /-- A structured message that refuses to be written. -/
  | failingProto (reason : String)

/-- A list of octets as a JSON value. -/
def Json.ofOctets (octets : List UInt8) : Json :=
  .array (octets.map fun octet => .ofInt octet.toNat)

/-- A floating-point number as a JSON value; what is not finite has none. -/
def Json.ofReading : FloatText.Reading → Json
  | .finite value => .number (.float value)
  | .notFinite => .null

namespace Message

/-- The JSON value of a message. -/
def toJson : Message → Except CodecError Json
  | .value content => .ok content
  | .greeting words => .ok (.object [("text", .string words)])
  | .text words => .ok (.string words)
  | .ping fromNodeId => .ok (.object [("fromNodeId", .string (toString fromNodeId))])
  | .counted number => .ok (.object [("n", .ofInt number)])
  | .listKeyed => .error (.encode "key must be a string")
  | .failing reason => .error (.encode (Codec.ownReason reason))
  | .failingProto reason => .error (.encode (Codec.ownReason reason))

/-- The body of a message. -/
def encode (message : Message) : Except CodecError (List UInt8) :=
  message.toJson.map Codec.encode

/-- A message as failures show it. -/
def describe : Message → String
  | .value content => content.describe
  | .greeting words => "Greeting \x7b text: " ++ Quoted.render words ++ " \x7d"
  | .text words => Quoted.render words
  | .ping fromNodeId => "Ping \x7b from_node_id: " ++ toString fromNodeId ++ " \x7d"
  | .counted number => "Counted(" ++ toString number ++ ")"
  | .listKeyed => "BadKeys(\x7b[1]: 2\x7d)"
  | .failing reason => "Failing \x7b reason: " ++ Quoted.render reason ++ " \x7d"
  | .failingProto reason => "BadProto \x7b reason: " ++ Quoted.render reason ++ " \x7d"

end Message

/-- A message as a client sees it. -/
structure Outgoing where
  body : Except CodecError (List UInt8)
  description : String

/-- The view of a client on a message. -/
def Message.outgoing (message : Message) : Outgoing where
  body := message.encode
  description := message.describe

end BrokerClient
