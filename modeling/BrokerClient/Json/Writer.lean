import BrokerClient.Json.Basic
import BrokerClient.Text.Utf8

/-!
# Writing JSON

Values are written compactly, without blanks.  In a string the quote, the backslash and the
control characters are escaped; all other characters stand for themselves.
-/

namespace BrokerClient.Json

/-- The octets of a text of ASCII characters. -/
def ascii (text : String) : List UInt8 :=
  text.toList.map fun character => UInt8.ofNat character.toNat

/-- The octets of ASCII characters. -/
def asciiOf (characters : List Char) : List UInt8 :=
  characters.map fun character => UInt8.ofNat character.toNat

/-- The code of a control character in four hexadecimal digits. -/
def controlEscape (code : Nat) : List UInt8 :=
  ascii (if code < 0x10 then "\\u000" else "\\u00") ++ asciiOf (Nat.toDigits 16 code)

/-- How a character is written inside a string. -/
def writeChar (character : Char) : List UInt8 :=
  match character.toNat with
  | 0x22 => [0x5C, 0x22]
  | 0x5C => [0x5C, 0x5C]
  | 0x08 => ascii "\\b"
  | 0x09 => ascii "\\t"
  | 0x0A => ascii "\\n"
  | 0x0C => ascii "\\f"
  | 0x0D => ascii "\\r"
  | code => if code < 0x20 then controlEscape code else Utf8.encodeChar character

/-- A string between quotes. -/
def writeString (text : String) : List UInt8 :=
  0x22 :: (text.toList.flatMap writeChar ++ [0x22])

mutual

/-- The octets of a value. -/
def write : Json → List UInt8
  | .null => ascii "null"
  | .bool true => ascii "true"
  | .bool false => ascii "false"
  | .number value => asciiOf value.write
  | .string value => writeString value
  | .array [] => ascii "[]"
  | .array (first :: rest) => 0x5B :: (write first ++ writeRestOfItems rest)
  | .object [] => [0x7B, 0x7D]
  | .object ((name, value) :: rest) =>
      0x7B :: (writeString name ++ 0x3A :: (write value ++ writeRestOfFields rest))

/-- The items behind the first one, and the end of the array. -/
def writeRestOfItems : List Json → List UInt8
  | [] => [0x5D]
  | item :: rest => 0x2C :: (write item ++ writeRestOfItems rest)

/-- The fields behind the first one, and the end of the object. -/
def writeRestOfFields : List (String × Json) → List UInt8
  | [] => [0x7D]
  | (name, value) :: rest =>
      0x2C :: (writeString name ++ 0x3A :: (write value ++ writeRestOfFields rest))

end

end BrokerClient.Json
