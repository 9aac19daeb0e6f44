/-!
# Message identifiers

A message is identified by a version-4 identifier: 32 hexadecimal digits in five groups, of which
one names the version and one the variant.  The remaining digits are free; here the twelve of the
last group count.
-/

namespace BrokerClient

/-- The text that identifies a message. -/
abbrev MessageId := String

namespace MessageId

/-- The last `count` hexadecimal digits of a number. -/
def hexDigits (count value : Nat) : List Char :=
  let digits := Nat.toDigits 16 value
  List.replicate (count - digits.length) '0' ++ digits.drop (digits.length - count)

/-- The identifier with a given number in its last group. -/
def ofNat (value : Nat) : MessageId :=
  "00000000-0000-4000-8000-" ++ String.ofList (hexDigits 12 value)

/-- Whether a character is a lower-case hexadecimal digit. -/
def isHexDigit (character : Char) : Bool :=
  character.isDigit || ('a' ≤ character && character ≤ 'f')

/-- Whether a text is a version-4 identifier in lower case. -/
def isVersion4 (text : MessageId) : Bool :=
  match text.toList.splitOn '-' with
  | [first, second, third, fourth, fifth] =>
      [first, second, third, fourth, fifth].all (fun group => group.all isHexDigit) &&
        first.length == 8 && second.length == 4 && third.length == 4 &&
        fourth.length == 4 && fifth.length == 12 &&
        third.head? == some '4' &&
        (match fourth.head? with
          | some variant => "89ab".toList.contains variant
          | none => false)
  | _ => false

end MessageId

end BrokerClient
