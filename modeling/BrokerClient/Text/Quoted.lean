import BrokerClient.Text.Quoted.Hidden

/-!
# Quoted text

Descriptions of messages and deliveries show texts between double quotes, with everything that
would not show by itself written as an escape.  A single quote needs none.
-/

namespace BrokerClient.Quoted

/-- The double quote. -/
def quote : Char := '\x22'

/-- Whether a character of a quoted text shows by itself. -/
def isVisible (character : Char) : Bool :=
  if character.toNat < 0x7F then 0x20 ≤ character.toNat
  else !CodeRange.covers hiddenRanges character

/-- A character's code between braces, in lower-case hexadecimal digits. -/
def codeEscape (character : Char) : List Char :=
  "\\u\x7b".toList ++ Nat.toDigits 16 character.toNat ++ ['\x7d']

/-- How one character is written inside the quotes. -/
def escape (character : Char) : List Char :=
  if character = quote then ['\\', quote]
  else if character = '\\' then ['\\', '\\']
  else if character = '\n' then ['\\', 'n']
  else if character = '\r' then ['\\', 'r']
  else if character = '\t' then ['\\', 't']
  else if character.toNat = 0 then ['\\', '0']
  else if isVisible character then [character]
  else codeEscape character

/-- A text between quotes. -/
def render (text : String) : String :=
  String.ofList (quote :: text.toList.flatMap escape ++ [quote])

end BrokerClient.Quoted
