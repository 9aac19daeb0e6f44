import BrokerClient.Json.Reader.Skip
import BrokerClient.Json.Reader.Value

/-!
# Reading values of one kind

A value of another kind than the expected one is read to its end, so that the failure names it;
of a list or an object only the bracket is looked at.  A structure is read from an object, whose
unknown fields are passed over, or from a list of its fields in order.
-/

namespace BrokerClient.Json

/-- The failure for a value of another kind than the expected one, in front of its first octet. -/
def mismatch (expected : String) (octets : List UInt8) : Failure :=
  match octets with
  | [] => .peeked .endInValue []
  | octet :: rest =>
      let behind (found : Except Failure (Found × List UInt8)) : Failure :=
        match found with
        | .ok (found, rest) => .consumed (.invalidType found expected) rest
        | .error failure => failure
      if octet = 0x6E then
        behind ((readWord [0x75, 0x6C, 0x6C] rest).map fun found => (.null, found.2))
      else if octet = 0x74 then
        behind ((readWord [0x72, 0x75, 0x65] rest).map fun found => (.bool true, found.2))
      else if octet = 0x66 then
        behind ((readWord [0x61, 0x6C, 0x73, 0x65] rest).map fun found => (.bool false, found.2))
      else if octet = 0x2D then
        behind ((readNumeral true rest).map fun found => (.number found.1, found.2))
      else if isDigit octet then
        behind ((readNumeral false (octet :: rest)).map fun found => (.number found.1, found.2))
      else if octet = 0x22 then
        behind ((readText rest).map fun found => (.string found.1, found.2))
      else if octet = 0x5B then
        .consumed (.invalidType .sequence expected) (octet :: rest)
      else if octet = 0x7B then
        .consumed (.invalidType .map expected) (octet :: rest)
      else
        .peeked .expectedValue (octet :: rest)

/-- Read a string. -/
def readString : Reader String := fun octets =>
  match skipBlanks octets with
  | [] => .error (.peeked .endInValue [])
  | octet :: rest =>
      if octet = 0x22 then readText rest
      else .error (mismatch "a string" (octet :: rest))

/-- Take a number as an unsigned one of at most `limit`. -/
def asUnsigned
    (limit : Nat)
    (expected : String) :
    Numeral × List UInt8 → Except Failure (Nat × List UInt8)
  | (.integer value, rest) =>
      if 0 ≤ value ∧ value ≤ limit then .ok (value.toNat, rest)
      else .error (.consumed (.integerOutOfRange value expected) rest)
  | (.float value, rest) =>
      .error (.consumed (.invalidType (.number (.float value)) expected) rest)

/-- Read an unsigned number of at most `limit`. -/
def readUnsigned (limit : Nat) (expected : String) : Reader Nat := fun octets =>
  match skipBlanks octets with
  | [] => .error (.peeked .endInValue [])
  | octet :: rest =>
      if octet = 0x2D then do
        asUnsigned limit expected (← readNumeral true rest)
      else if isDigit octet then do
        asUnsigned limit expected (← readNumeral false (octet :: rest))
      else
        .error (mismatch expected (octet :: rest))

/-- Read a list of items of one kind. -/
def readList (readItem : Reader α) : Reader (List α) := fun octets =>
  match skipBlanks octets with
  | [] => .error (.peeked .endInValue [])
  | octet :: rest =>
      if octet = 0x5B then closeWith leaveList (readItems readItem rest)
      else .error (mismatch "a sequence" (octet :: rest))

/-- Read a structure from a list or from an object, each behind its opening bracket. -/
def readStructure
    (expected : String)
    (fromList fromObject : Reader α) :
    Reader α := fun octets =>
  match skipBlanks octets with
  | [] => .error (.peeked .endInValue [])
  | octet :: rest =>
      if octet = 0x5B then closeWith leaveList (fromList rest)
      else if octet = 0x7B then closeWith leaveObject (fromObject rest)
      else .error (mismatch expected (octet :: rest))

/-- Read the value of a field that must not have been read before. -/
def readOnce
    (readItem : Reader α)
    (known : Option α)
    (name : String) :
    Reader α := fun octets =>
  if known.isSome then
    .error (.unplaced (.duplicateField name) octets)
  else do
    let (_, octets) ← readColon octets
    readItem octets

/-- Pass over the value of an unknown field. -/
def skipField : Reader Unit := fun octets => do
  let (_, octets) ← readColon octets
  skipValue octets

/-- Read the next item of a list if there is one. -/
def readNextItem (readItem : Reader α) (first : Bool) : Reader (Option α) := fun octets => do
  let (more, octets) ← readItemStart first octets
  if more then
    let (item, octets) ← readItem octets
    .ok (some item, octets)
  else
    .ok (none, octets)

/-- Read a whole input, behind which only blanks may follow. -/
def readAll (read : Reader α) (input : List UInt8) : Except Fault α :=
  match read input with
  | .error failure => .error (failure.fault input)
  | .ok (value, rest) =>
      match skipBlanks rest with
      | [] => .ok value
      | octet :: behind =>
          .error ((Failure.peeked .trailingCharacters (octet :: behind)).fault input)

/-- Read a whole input as any value. -/
def parse (input : List UInt8) : Except Fault Json :=
  readAll readValue input

end BrokerClient.Json
