import BrokerClient.Codec

/-!
# Contents of deliveries

A receiver says what kind of content it expects of a body.  Numbers of 64 bits are read from a
string as well as from a number.
-/

namespace BrokerClient

/-- What the body of a delivery is read as. -/
inductive ContentKind where
  | value
  | greeting
  | ping
  | octet
  | texts
  deriving Repr, DecidableEq

/-- What was read from a body. -/
inductive Content where
  | value (content : Json)
  | greeting (text : String)
  | ping (fromNodeId : Nat)
  | octet (value : Nat)
  | texts (values : List String)

namespace Content

open Json

/-- The field of a greeting. -/
def greetingField : String := "text"

/-- The field of a ping. -/
def pingField : String := "fromNodeId"

/-- Read one field of a greeting. -/
def readGreetingField (known : Option String) (name : String) : Reader (Option String) :=
  fun octets =>
    if name = greetingField then do
      let (text, rest) ← readOnce readString known name octets
      .ok (some text, rest)
    else do
      let (_, rest) ← skipField octets
      .ok (known, rest)

/-- Read the fields of a greeting, which needs its text. -/
def readGreetingFields : Reader String := fun octets => do
  let (known, rest) ← foldFields readGreetingField none octets
  match known with
  | some text => .ok (text, rest)
  | none => .error (.unplaced (.missingField greetingField) rest)

/-- Read the items of a greeting, which needs its text. -/
def readGreetingItems : Reader String := fun octets => do
  let (text?, rest) ← readNextItem readString true octets
  match text? with
  | some text => .ok (text, rest)
  | none => .error (.unplaced (.invalidLength 0 "struct Greeting with 1 element") rest)

/-- Read a greeting. -/
def readGreeting : Reader String :=
  readStructure "struct Greeting" readGreetingItems readGreetingFields

/-- The largest number of 64 bits. -/
def nodeIdLimit : Nat := Decimal.largest 64

/-- Read a number of 64 bits from a number or from a string. -/
def readNodeId : Reader Nat := fun octets => do
  let (found, rest) ← readValueWithin (depthLimit - 1) octets
  match found with
  | .string text =>
      match Decimal.read nodeIdLimit text.toList with
      | .ok nodeId => .ok (nodeId, rest)
      | .error failure => .error (.unplaced (.invalidUnsigned failure) rest)
  | .number (.integer nodeId) =>
      if 0 ≤ nodeId then .ok (nodeId.toNat, rest)
      else .error (.unplaced (.noSuchVariant "Repr") rest)
  | _ => .error (.unplaced (.noSuchVariant "Repr") rest)

/-- Read one field of a ping. -/
def readPingField (known : Option Nat) (name : String) : Reader (Option Nat) :=
  fun octets =>
    if name = pingField then do
      let (nodeId, rest) ← readOnce readNodeId known name octets
      .ok (some nodeId, rest)
    else do
      let (_, rest) ← skipField octets
      .ok (known, rest)

/-- Read the fields of a ping, whose number is zero if it is missing. -/
def readPingFields : Reader Nat := fun octets => do
  let (known, rest) ← foldFields readPingField none octets
  .ok (known.getD 0, rest)

/-- Read the items of a ping, whose number is zero if it is missing. -/
def readPingItems : Reader Nat := fun octets => do
  let (nodeId?, rest) ← readNextItem readNodeId true octets
  .ok (nodeId?.getD 0, rest)

/-- Read a ping. -/
def readPing : Reader Nat :=
  readStructure "struct Ping" readPingItems readPingFields

end Content

/-- The reader for a kind of content. -/
def ContentKind.reader : ContentKind → Json.Reader Content
  | .value => fun octets => (Json.readValue octets).map fun found => (.value found.1, found.2)
  | .greeting => fun octets =>
      (Content.readGreeting octets).map fun found => (.greeting found.1, found.2)
  | .ping => fun octets => (Content.readPing octets).map fun found => (.ping found.1, found.2)
  | .octet => fun octets =>
      (Json.readUnsigned 255 "u8" octets).map fun found => (.octet found.1, found.2)
  | .texts => fun octets =>
      (Json.readList Json.readString octets).map fun found => (.texts found.1, found.2)

/-- Read a body as a kind of content. -/
def ContentKind.decode (kind : ContentKind) (body : List UInt8) : Except CodecError Content :=
  Codec.decode kind.reader body

end BrokerClient
