import BrokerClient.Json.Reader.Numeral
import BrokerClient.Json.Reader.Sequence

/-!
# Reading any value

A value is read with a budget of open brackets; the bracket that would exceed it is refused.  Of
two fields with one name the later one stays.
-/

namespace BrokerClient.Json

/-- How many brackets may be open at once. -/
def depthLimit : Nat := 127

/-- Read a value; `readBracketed` reads a list or an object behind its opening bracket. -/
def readValueWith (readBracketed : UInt8 → Reader Json) : Reader Json := fun octets =>
  match skipBlanks octets with
  | [] => .error (.peeked .endInValue [])
  | octet :: rest =>
      if octet = 0x6E then do
        let (_, rest) ← readWord [0x75, 0x6C, 0x6C] rest
        .ok (.null, rest)
      else if octet = 0x74 then do
        let (_, rest) ← readWord [0x72, 0x75, 0x65] rest
        .ok (.bool true, rest)
      else if octet = 0x66 then do
        let (_, rest) ← readWord [0x61, 0x6C, 0x73, 0x65] rest
        .ok (.bool false, rest)
      else if octet = 0x2D then do
        let (value, rest) ← readNumeral true rest
        .ok (.number value, rest)
      else if isDigit octet then do
        let (value, rest) ← readNumeral false (octet :: rest)
        .ok (.number value, rest)
      else if octet = 0x22 then do
        let (value, rest) ← readText rest
        .ok (.string value, rest)
      else if octet = 0x5B ∨ octet = 0x7B then
        readBracketed octet rest
      else
        .error (.peeked .expectedValue (octet :: rest))

/-- Read the value of a field behind its name and put it among the fields. -/
def readFieldValue
    (readItem : Reader Json)
    (fields : List (String × Json))
    (name : String) :
    Reader (List (String × Json)) := fun octets => do
  let (_, octets) ← readColon octets
  let (value, octets) ← readItem octets
  .ok (Dictionary.insert fields name value, octets)

/-- Read a list or an object behind its opening bracket; `readItem` reads what it contains. -/
def readBracketedWith (readItem : Reader Json) (bracket : UInt8) : Reader Json := fun octets =>
  if bracket = 0x5B then do
    let (items, rest) ← closeWith leaveList (readItems readItem octets)
    .ok (.array items, rest)
  else do
    let (fields, rest) ← closeWith leaveObject (foldFields (readFieldValue readItem) [] octets)
    .ok (.object fields, rest)

/-- Read a value inside which at most `depth` brackets may be open. -/
def readValueWithin : Nat → Reader Json
  | 0 => readValueWith fun bracket octets => .error (.peeked .tooDeep (bracket :: octets))
  | depth + 1 => readValueWith (readBracketedWith (readValueWithin depth))

/-- Read a value. -/
def readValue : Reader Json :=
  readValueWithin depthLimit

end BrokerClient.Json
