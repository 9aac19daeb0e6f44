import BrokerClient.Number.Power

/-!
# Decimal numbers as text

An unsigned number is written with the fewest digits and read with an optional plus sign.
Reading stops at the first character that is no digit or that takes the value over the limit of
its type, and says which of the two it was.
-/

namespace BrokerClient.Decimal

/-- The largest number of a given count of bits. -/
def largest (bits : Nat) : Nat :=
  powerOfTwo bits - 1

/-- Why a text is no unsigned number within its limit. -/
inductive Failure where
  | empty
  | invalidDigit
  | tooLarge
  deriving Repr, DecidableEq

/-- The value of an ASCII digit. -/
def digit? (character : Char) : Option Nat :=
  if 0x30 ≤ character.toNat ∧ character.toNat ≤ 0x39 then
    some (character.toNat - 0x30)
  else
    none

/-- Read digits behind those that make up `value`. -/
def readDigits (limit value : Nat) : List Char → Except Failure Nat
  | [] => .ok value
  | character :: rest =>
      match digit? character with
      | none => .error .invalidDigit
      | some digit =>
          let value := value * 10 + digit
          if limit < value then .error .tooLarge else readDigits limit value rest

/-- Read an unsigned number of at most `limit`, with an optional plus sign. -/
def read (limit : Nat) : List Char → Except Failure Nat
  | [] => .error .empty
  | '+' :: [] => .error .invalidDigit
  | '+' :: rest => readDigits limit 0 rest
  | characters => readDigits limit 0 characters

/-- The digits of a number, most significant first. -/
def write (value : Nat) : List Char :=
  Nat.toDigits 10 value

/-- The digits of a whole number, behind a minus sign if it is negative. -/
def writeInt : Int → List Char
  | .ofNat value => write value
  | .negSucc value => '-' :: write (value + 1)

end BrokerClient.Decimal
