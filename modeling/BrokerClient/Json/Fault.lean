import BrokerClient.Json.Basic

/-!
# What can be wrong with a JSON text

A reader takes octets from the front of its input and returns the rest.  When it fails it names
the cause and the place.  A place is the number of octets that are left there; it stands behind
the octets already taken (`Failure.consumed`) or behind the offending octet, which was only looked
at (`Failure.peeked`).  A failure about a value as a whole has no place of its own: the reader of
the enclosing structure gives it one.
-/

namespace BrokerClient.Json

/-- The kind of value that stands where another kind is expected. -/
inductive Found where
  | null
  | bool (value : Bool)
  | number (value : Numeral)
  | string (value : String)
  | sequence
  | map
  deriving Repr, DecidableEq

/-- Why octets are not the JSON text that is expected. -/
inductive Cause where
  | endInValue
  | endInList
  | endInObject
  | endInString
  | expectedColon
  | expectedCommaOrListEnd
  | expectedCommaOrObjectEnd
  | expectedWord
  | expectedValue
  | invalidEscape
  | invalidNumber
  | numberOutOfRange
  | invalidCharacter
  | controlCharacter
  | keyIsNoString
  | loneSurrogate
  | missingSurrogate
  | trailingComma
  | trailingCharacters
  | tooDeep
  | invalidType (found : Found) (expected : String)
  | integerOutOfRange (value : Int) (expected : String)
  | invalidLength (length : Nat) (expected : String)
  | missingField (name : String)
  | duplicateField (name : String)
  | invalidUnsigned (failure : Decimal.Failure)
  | noSuchVariant (name : String)
  deriving Repr, DecidableEq

/-- How messages show a value of the wrong kind. -/
def Found.message : Found → String
  | .null => "null"
  | .bool true => "boolean `true`"
  | .bool false => "boolean `false`"
  | .number (.integer value) =>
      "integer `" ++ String.ofList (Decimal.writeInt value) ++ "`"
  | .number (.float value) =>
      "floating point `" ++ String.ofList value.write ++ "`"
  | .string value => "string " ++ Quoted.render value
  | .sequence => "sequence"
  | .map => "map"

/-- The words for a text that is no unsigned number. -/
def unsignedMessage : Decimal.Failure → String
  | .empty => "cannot parse integer from empty string"
  | .invalidDigit => "invalid digit found in string"
  | .tooLarge => "number too large to fit in target type"

/-- The words for a cause. -/
def Cause.message : Cause → String
  | .endInValue => "EOF while parsing a value"
  | .endInList => "EOF while parsing a list"
  | .endInObject => "EOF while parsing an object"
  | .endInString => "EOF while parsing a string"
  | .expectedColon => "expected `:`"
  | .expectedCommaOrListEnd => "expected `,` or `]`"
  | .expectedCommaOrObjectEnd => "expected `,` or `\x7d`"
  | .expectedWord => "expected ident"
  | .expectedValue => "expected value"
  | .invalidEscape => "invalid escape"
  | .invalidNumber => "invalid number"
  | .numberOutOfRange => "number out of range"
  | .invalidCharacter => "invalid unicode code point"
  | .controlCharacter => "control character (\\u0000-\\u001F) found while parsing a string"
  | .keyIsNoString => "key must be a string"
  | .loneSurrogate => "lone leading surrogate in hex escape"
  | .missingSurrogate => "unexpected end of hex escape"
  | .trailingComma => "trailing comma"
  | .trailingCharacters => "trailing characters"
  | .tooDeep => "recursion limit exceeded"
  | .invalidType found expected =>
      "invalid type: " ++ found.message ++ ", expected " ++ expected
  | .integerOutOfRange value expected =>
      "invalid value: integer `" ++ String.ofList (Decimal.writeInt value) ++
        "`, expected " ++ expected
  | .invalidLength length expected =>
      "invalid length " ++ toString length ++ ", expected " ++ expected
  | .missingField name => "missing field `" ++ name ++ "`"
  | .duplicateField name => "duplicate field `" ++ name ++ "`"
  | .invalidUnsigned failure => unsignedMessage failure
  | .noSuchVariant name => "data did not match any variant of untagged enum " ++ name

/-- A failure with its place, or one that still waits for a place. -/
inductive Failure where
  /-- The place is `left` octets before the end of the input. -/
  | placed (cause : Cause) (left : Nat)
  /-- The reader had `rest` before it when it failed. -/
  | unplaced (cause : Cause) (rest : List UInt8)
  deriving Repr, DecidableEq

/-- A failure behind the octets already taken. -/
def Failure.consumed (cause : Cause) (rest : List UInt8) : Failure :=
  .placed cause rest.length

/-- A failure behind the octet that was looked at, or at the end of the input. -/
def Failure.peeked (cause : Cause) (rest : List UInt8) : Failure :=
  .placed cause (rest.length - 1)

/-- A reader finds a value at the front of its input and returns it with the rest, or fails. -/
abbrev Reader (α : Type) := List UInt8 → Except Failure (α × List UInt8)

/-- A cause with the line and the column of its place, both counted in octets. -/
structure Fault where
  cause : Cause
  line : Nat
  column : Nat
  deriving Repr, DecidableEq

/-- The octets before a place `left` octets before the end. -/
def before (input : List UInt8) (left : Nat) : List UInt8 :=
  input.take (input.length - left)

/-- The line feed. -/
def lineFeed : UInt8 := 0x0A

/-- The fault of a cause at a place: lines count from one, columns from the last line feed. -/
def Fault.at (input : List UInt8) (cause : Cause) (left : Nat) : Fault :=
  let before := before input left
  { cause
    line := before.count lineFeed + 1
    column := (before.reverse.takeWhile (· ≠ lineFeed)).length }

/-- The fault that a failure amounts to. -/
def Failure.fault (input : List UInt8) : Failure → Fault
  | .placed cause left => .at input cause left
  | .unplaced cause rest => .at input cause rest.length

/-- The words for a fault. -/
def Fault.message (fault : Fault) : String :=
  fault.cause.message ++ " at line " ++ toString fault.line ++
    " column " ++ toString fault.column

end BrokerClient.Json
