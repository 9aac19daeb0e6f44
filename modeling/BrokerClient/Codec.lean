import BrokerClient.Json.Reader.Typed
import BrokerClient.Json.Writer

/-!
# Turning messages into bodies and back

All messages travel as JSON.  The two directions fail with a text that says what went wrong.
-/

namespace BrokerClient

/-- Why a message has no body, or why a body is no message. -/
inductive CodecError where
  | encode (reason : String)
  | decode (reason : String)
  deriving Repr, DecidableEq

/-- The words for a failure of the codec. -/
def CodecError.message : CodecError → String
  | .encode reason => "failure to encode message: " ++ reason
  | .decode reason => "failure to decode payload: " ++ reason

namespace Codec

/-- The content type of every body. -/
def contentType : String := "application/json"

/-- The body of a value. -/
def encode (value : Json) : List UInt8 :=
  value.write

/-- Read a body as a value of one kind. -/
def decode (read : Json.Reader α) (body : List UInt8) : Except CodecError α :=
  match Json.readAll read body with
  | .ok value => .ok value
  | .error fault => .error (.decode fault.message)

/-- Digits at the front, as a number of 64 bits, and the rest. -/
def splitNumber? (characters : List Char) : Option (Nat × List Char) :=
  match Decimal.read (Decimal.largest 64) (characters.takeWhile Char.isDigit) with
  | .ok value => some (value, characters.dropWhile Char.isDigit)
  | .error _ => none

/-- The text behind a given beginning. -/
def behind? (beginning characters : List Char) : Option (List Char) :=
  if beginning.isPrefixOf characters then some (characters.drop beginning.length) else none

/-- A line and a column that make up a whole text, each behind its word. -/
def location? (characters : List Char) : Option (Nat × Nat) := do
  let characters ← behind? " at line ".toList characters
  let (line, characters) ← splitNumber? characters
  let characters ← behind? " column ".toList characters
  let (column, characters) ← splitNumber? characters
  if characters.isEmpty then some (line, column) else none

/-- A text cut where its last location would begin, if it names one. -/
def splitLocation? : List Char → Option (List Char × List Char)
  | [] => none
  | character :: rest =>
      match splitLocation? rest with
      | some (before, location) => some (character :: before, location)
      | none =>
          if " at line ".toList.isPrefixOf (character :: rest) then some ([], character :: rest)
          else none

/--
The words for a failure that a message gives itself.  A location at their end is a location: it is
written with the fewest digits, and left out at line zero.
-/
def ownReason (reason : String) : String :=
  match splitLocation? reason.toList with
  | none => reason
  | some (before, location) =>
      match location? location with
      | none => reason
      | some (line, column) =>
          let before := String.ofList before
          if line = 0 then before
          else before ++ " at line " ++ toString line ++ " column " ++ toString column

end Codec

end BrokerClient
