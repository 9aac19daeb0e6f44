/-!
# Ranges of character codes

A property of characters is written as a list of closed ranges of codes, in rising order.
-/

namespace BrokerClient

/-- Codes from the first to the last, both included. -/
abbrev CodeRange := Nat × Nat

namespace CodeRange

/-- Whether a character's code lies in one of the ranges. -/
def covers (ranges : List CodeRange) (character : Char) : Bool :=
  ranges.any fun range => range.1 ≤ character.toNat && character.toNat ≤ range.2

end CodeRange

end BrokerClient
