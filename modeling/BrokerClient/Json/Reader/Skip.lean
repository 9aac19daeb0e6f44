import BrokerClient.Json.Reader.Numeral
import BrokerClient.Json.Reader.Text

/-!
# Passing over values

The value of a field that nobody asked for is checked for its syntax only.  Open brackets are kept
on a stack, so there is no limit to their number; numbers may be as large as they like.
-/

namespace BrokerClient.Json

/-- An open bracket. -/
inductive Bracket where
  | list
  | object
  deriving Repr, DecidableEq

/-- The octet that closes a bracket. -/
def Bracket.closing : Bracket → UInt8
  | .list => 0x5D
  | .object => 0x7D

/-- The input ends inside the bracket. -/
def Bracket.endCause : Bracket → Cause
  | .list => .endInList
  | .object => .endInObject

/-- Neither a comma nor the closing bracket follows a value. -/
def Bracket.commaCause : Bracket → Cause
  | .list => .expectedCommaOrListEnd
  | .object => .expectedCommaOrObjectEnd

/-- Pass over an exponent behind its mark. -/
def skipExponent : Reader Unit := fun octets =>
  match (readExponentSign octets).2 with
  | [] => .error (.consumed .invalidNumber [])
  | octet :: rest =>
      if isDigit octet then .ok ((), rest.dropWhile isDigit)
      else .error (.consumed .invalidNumber rest)

/-- Pass over an exponent if there is one. -/
def skipOptionalExponent : Reader Unit
  | [] => .ok ((), [])
  | octet :: rest =>
      if isExponentMark octet then skipExponent rest else .ok ((), octet :: rest)

/-- Pass over what follows the whole digits of a number. -/
def skipBehindWhole : Reader Unit
  | [] => .ok ((), [])
  | octet :: rest =>
      if octet = 0x2E then
        if digitCount rest = 0 then .error (.peeked .invalidNumber rest)
        else skipOptionalExponent (rest.dropWhile isDigit)
      else
        skipOptionalExponent (octet :: rest)

/-- Pass over a number behind its sign. -/
def skipNumeral : Reader Unit
  | [] => .error (.consumed .invalidNumber [])
  | octet :: rest =>
      if octet = 0x30 then
        match rest with
        | [] => .ok ((), [])
        | next :: _ =>
            if isDigit next then .error (.peeked .invalidNumber rest)
            else skipBehindWhole rest
      else if isDigit octet then
        skipBehindWhole (rest.dropWhile isDigit)
      else
        .error (.consumed .invalidNumber rest)

/-- Pass over a value that is neither list nor object. -/
def skipScalar (octet : UInt8) : Reader Unit := fun rest =>
  if octet = 0x6E then readWord [0x75, 0x6C, 0x6C] rest
  else if octet = 0x74 then readWord [0x72, 0x75, 0x65] rest
  else if octet = 0x66 then readWord [0x61, 0x6C, 0x73, 0x65] rest
  else if octet = 0x2D then skipNumeral rest
  else if isDigit octet then skipNumeral (octet :: rest)
  else if octet = 0x22 then skipText rest
  else .error (.peeked .expectedValue (octet :: rest))

/-- Pass over the name of a field and its colon; there is none in a list. -/
def skipName : Bracket → Reader Unit
  | .list, octets => .ok ((), octets)
  | .object, octets =>
      match skipBlanks octets with
      | [] => .error (.peeked .endInObject [])
      | octet :: rest =>
          if octet = 0x22 then do
            let (_, rest) ← skipText rest
            match skipBlanks rest with
            | [] => .error (.peeked .endInObject [])
            | octet :: rest =>
                if octet = 0x3A then .ok ((), rest)
                else .error (.peeked .expectedColon (octet :: rest))
          else
            .error (.peeked .keyIsNoString (octet :: rest))

/-- What stands before the reader that passes over a value. -/
inductive SkipStage where
  /-- A value. -/
  | value
  /-- What follows an opening bracket. -/
  | opened
  /-- What follows a value. -/
  | behind
  deriving Repr, DecidableEq

/-- Pass over the rest of a value inside open brackets, innermost first, in at most `fuel` steps. -/
def skipFrom : Nat → SkipStage → List Bracket → Reader Unit
  | 0, _, _, octets => .error (.peeked .endInValue octets)
  | fuel + 1, .value, brackets, octets =>
      match skipBlanks octets with
      | [] => .error (.peeked .endInValue [])
      | octet :: rest =>
          if octet = 0x5B then skipFrom fuel .opened (.list :: brackets) rest
          else if octet = 0x7B then skipFrom fuel .opened (.object :: brackets) rest
          else do
            let (_, rest) ← skipScalar octet rest
            skipFrom fuel .behind brackets rest
  | _ + 1, _, [], octets => .ok ((), octets)
  | fuel + 1, stage, bracket :: brackets, octets =>
      match skipBlanks octets with
      | [] => .error (.peeked bracket.endCause [])
      | octet :: rest =>
          if octet = bracket.closing then
            skipFrom fuel .behind brackets rest
          else if stage = .opened then do
            let (_, rest) ← skipName bracket (octet :: rest)
            skipFrom fuel .value (bracket :: brackets) rest
          else if octet = 0x2C then do
            let (_, rest) ← skipName bracket rest
            skipFrom fuel .value (bracket :: brackets) rest
          else
            .error (.peeked bracket.commaCause (octet :: rest))

/-- Pass over a value; there are at most two steps to an octet. -/
def skipValue : Reader Unit := fun octets =>
  skipFrom (2 * octets.length + 2) .value [] octets

end BrokerClient.Json
