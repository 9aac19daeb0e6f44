import BrokerClient.Text.CodeRange

/-!
# Blank characters

A character is blank if it has the Unicode property White_Space.  Settings are trimmed of blank
characters on both sides before they are read as numbers.
-/

namespace BrokerClient.Blank

/-- The ranges of codes with the property White_Space. -/
def ranges : List CodeRange :=
  [
    (0x0009, 0x000D), (0x0020, 0x0020), (0x0085, 0x0085), (0x00A0, 0x00A0),
    (0x1680, 0x1680), (0x2000, 0x200A), (0x2028, 0x2029), (0x202F, 0x202F),
    (0x205F, 0x205F), (0x3000, 0x3000)
  ]

/-- Whether a character is blank. -/
def isBlank (character : Char) : Bool :=
  CodeRange.covers ranges character

/-- The characters of a text without the blank ones on either side. -/
def trim (characters : List Char) : List Char :=
  ((characters.dropWhile isBlank).reverse.dropWhile isBlank).reverse

end BrokerClient.Blank
