import BrokerClient.Number.Binary64
import BrokerClient.Number.Decimal

/-!
# Shortest decimal text of a floating-point number

A number is written with the fewest decimal digits that still read back as that number, and with
the nearest of the decimals that have so few.  The reals that read back as a number form an
interval around it, which ends half-way to its two neighbours and holds its ends exactly if the
significand is even.

All comparisons are between natural numbers: distances are measured in quarters of
2 ^ -1074 · 10 ^ -345, so that the number, the ends of its interval and every decimal of up to
seventeen digits are whole.
-/

namespace BrokerClient.Binary64

/-- The decimal `digits · 10 ^ exponent`. -/
structure Decimal where
  digits : Nat
  exponent : Int
  deriving Repr, DecidableEq

namespace Shortest

/-- The power of ten by which all distances are enlarged. -/
def margin : Nat := 345

/-- A number's distance from zero in quarter units. -/
def position (number : Binary64) : Nat :=
  4 * number.units * powerOfTen margin

/-- The distance to the lower end of the interval: halved where the spacing halves below. -/
def below (number : Binary64) : Nat :=
  if number.significand = powerOfTwo 52 ∧ 0 < number.scale then
    powerOfTwo number.scale * powerOfTen margin
  else
    2 * powerOfTwo number.scale * powerOfTen margin

/-- The distance to the upper end of the interval. -/
def above (number : Binary64) : Nat :=
  2 * powerOfTwo number.scale * powerOfTen margin

/-- Whether a position reads back as the number. -/
def readsBack (number : Binary64) (place : Nat) : Bool :=
  let low := position number - below number
  let high := position number + above number
  if number.significand % 2 = 0 then
    low ≤ place && place ≤ high
  else
    low < place && place < high

/-- The distance between neighbours on the grid of the multiples of `10 ^ (exponent - margin)`. -/
def spacing (exponent : Nat) : Nat :=
  4 * unitsPerOne * powerOfTen exponent

/-- The grid point nearest to the number, of those next to it that read back. -/
def nearestOnGrid? (number : Binary64) (exponent : Nat) : Option Nat :=
  let place := position number
  let low := place / spacing exponent
  let high := low + 1
  match readsBack number (low * spacing exponent), readsBack number (high * spacing exponent) with
  | false, false => none
  | true, false => some low
  | false, true => some high
  | true, true =>
      let toLow := place - low * spacing exponent
      let toHigh := high * spacing exponent - place
      if toLow < toHigh then some low
      else if toHigh < toLow then some high
      else if low % 2 = 0 then some low
      else some high

/-- Search the grids from coarse to fine, each ten times finer than the one before. -/
def search (number : Binary64) : Nat → Nat → Decimal
  | 0, exponent => ⟨position number / spacing exponent, (exponent : Int) - margin⟩
  | steps + 1, exponent =>
      match nearestOnGrid? number exponent with
      | some digits => ⟨digits, (exponent : Int) - margin⟩
      | none => search number steps (exponent - 1)

end Shortest

/--
The shortest decimal that reads back as the number, and the nearest of these.  The search starts
one grid above the first digit, so that a value just below a power of ten finds that power.
-/
def shortest (number : Binary64) : Decimal :=
  let places := (Decimal.write (Shortest.position number / (4 * unitsPerOne))).length
  Shortest.search number 18 places

/-- The text of the exponent behind its mark: a sign is always written. -/
def exponentText : Int → List Char
  | .ofNat value => '+' :: Decimal.write value
  | .negSucc value => '-' :: Decimal.write (value + 1)

/-- Digits with a point behind the first and an exponent. -/
def scientific (digits : List Char) (exponent : Int) : List Char :=
  let fraction := digits.drop 1
  digits.take 1 ++ (if fraction.isEmpty then [] else '.' :: fraction) ++
    'e' :: exponentText exponent

/-- Digits with a point where the exponent of the first one says, and a digit on either side. -/
def positional (digits : List Char) (exponent : Int) : List Char :=
  match exponent with
  | .negSucc zeros => '0' :: '.' :: List.replicate zeros '0' ++ digits
  | .ofNat places =>
      let whole := digits.take (places + 1)
      let fraction := digits.drop (places + 1)
      whole ++ List.replicate (places + 1 - whole.length) '0' ++
        '.' :: (if fraction.isEmpty then ['0'] else fraction)

/--
The text of a number: positional from 10 ^ -5 up to below 10 ^ 16 and for zero, otherwise with an
exponent.
-/
def write (number : Binary64) : List Char :=
  let magnitude :=
    if number.significand = 0 then
      ['0', '.', '0']
    else
      let decimal := number.shortest
      let digits := BrokerClient.Decimal.write decimal.digits
      let exponent := decimal.exponent + (digits.length : Int) - 1
      if -5 ≤ exponent ∧ exponent < 16 then
        positional digits exponent
      else
        scientific digits exponent
  if number.negative then '-' :: magnitude else magnitude

/-- A negative number is written as its opposite behind a minus sign. -/
theorem write_negative
    {number : Binary64}
    (isNegative : number.negative = true) :
    write number = '-' :: write number.neg := by
  have positionKept : Shortest.position number.neg = Shortest.position number := rfl
  have gridKept :
      ∀ exponent,
        Shortest.nearestOnGrid? number.neg exponent =
          Shortest.nearestOnGrid? number exponent :=
    fun _ => rfl
  have searchKept :
      ∀ steps exponent,
        Shortest.search number.neg steps exponent =
          Shortest.search number steps exponent := by
    intro steps
    induction steps with
    | zero => intro exponent; rfl
    | succ steps inductionHypothesis =>
        intro exponent
        simp only [Shortest.search, gridKept]
        split
        · rfl
        · exact inductionHypothesis _
  have shortestKept : number.neg.shortest = number.shortest := by
    simp only [shortest, positionKept, searchKept]
  have significandKept : number.neg.significand = number.significand := rfl
  have signTurned : number.neg.negative = false := by simp [neg, isNegative]
  simp [write, isNegative, shortestKept, significandKept, signTurned]

end BrokerClient.Binary64
