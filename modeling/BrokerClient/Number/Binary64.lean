import BrokerClient.Number.Power

/-!
# Finite binary floating-point numbers of 64 bits

A number is a sign and a whole multiple of 2 ^ -1074, the smallest positive one: the *units* of
the number.  The significand has at most 53 bits and, unless the scale is the smallest, all of
them, so a value has one representation.  Arithmetic computes the exact quotient in units and
rounds once, to the nearest representable number, of two the one with the even significand.
-/

namespace BrokerClient

/-- A finite number: `± significand · 2 ^ scale` units of 2 ^ -1074. -/
structure Binary64 where
  negative : Bool
  significand : Nat
  scale : Nat
  significand_lt : significand < powerOfTwo 53
  scale_le : scale ≤ 2045
  normal : scale = 0 ∨ powerOfTwo 52 ≤ significand
  deriving Repr, DecidableEq

namespace Binary64

/-- How many units of 2 ^ -1074 the number is away from zero. -/
def units (number : Binary64) : Nat :=
  number.significand * powerOfTwo number.scale

/-- How many units make up one. -/
def unitsPerOne : Nat := powerOfTwo 1074

/-- Zero with a sign. -/
def zero (negative : Bool) : Binary64 :=
  ⟨negative, 0, 0, by decide, by decide, Or.inl rfl⟩

/-- The same number with its sign turned. -/
def neg (number : Binary64) : Binary64 :=
  { number with negative := !number.negative }

/-- The quotient rounded to the nearest whole number, a half to the even one. -/
def roundHalfEven (numerator denominator : Nat) : Nat :=
  let quotient := numerator / denominator
  let double := 2 * (numerator % denominator)
  if double < denominator then quotient
  else if denominator < double then quotient + 1
  else if quotient % 2 = 0 then quotient
  else quotient + 1

/-- The number with a given significand and scale, if there is one. -/
def pack? (negative : Bool) (significand scale : Nat) : Option Binary64 :=
  if fits : significand < powerOfTwo 53 ∧ scale ≤ 2045 ∧
      (scale = 0 ∨ powerOfTwo 52 ≤ significand) then
    some ⟨negative, significand, scale, fits.1, fits.2.1, fits.2.2⟩
  else
    none

/-- The number nearest to a quotient of units; `none` beyond the largest number. -/
def nearest? (negative : Bool) (numerator denominator : Nat) : Option Binary64 :=
  let scale := (numerator / denominator).log2 - 52
  let significand := roundHalfEven numerator (denominator * powerOfTwo scale)
  if significand = powerOfTwo 53 then
    pack? negative (powerOfTwo 52) (scale + 1)
  else
    pack? negative significand scale

/-- The number nearest to a natural number. -/
def ofNat? (value : Nat) : Option Binary64 :=
  nearest? false (value * unitsPerOne) 1

/-- The number nearest to a product, with the sign of the first factor. -/
def mul? (left right : Binary64) : Option Binary64 :=
  nearest? left.negative (left.units * right.units) unitsPerOne

/-- The number nearest to a quotient, with the sign of the dividend. -/
def div? (left right : Binary64) : Option Binary64 :=
  nearest? left.negative (left.units * unitsPerOne) right.units

/-- The number nearest to `digits · 10 ^ exponent`. -/
def ofDecimal? (negative : Bool) (digits : Nat) (exponent : Int) : Option Binary64 :=
  match exponent with
  | .ofNat power => nearest? negative (digits * powerOfTen power * unitsPerOne) 1
  | .negSucc power => nearest? negative (digits * unitsPerOne) (powerOfTen (power + 1))

/-- Whatever is packed has the sign, significand and scale that were asked for. -/
theorem pack?_eq_some
    {negative : Bool}
    {significand scale : Nat}
    {number : Binary64}
    (packed : pack? negative significand scale = some number) :
    number.negative = negative ∧
      number.significand = significand ∧
        number.scale = scale := by
  unfold pack? at packed
  split at packed
  · simp only [Option.some.injEq] at packed
    subst packed
    exact ⟨rfl, rfl, rfl⟩
  · contradiction

end Binary64

end BrokerClient
