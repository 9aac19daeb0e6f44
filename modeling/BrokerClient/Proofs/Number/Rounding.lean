import BrokerClient.Number.Binary64
import Mathlib.Tactic.Linarith
import Mathlib.Tactic.Ring

/-!
# Rounding keeps the order

Of two quotients the smaller one is rounded to a number that is not greater, so a quotient has a
nearest number if a greater one has.  This is first shown for rounding to whole numbers; the scale
of a number then only changes where its significand is at one end of its range.  All numbers lie
below the largest one, hence every quotient below that has a nearest number.
-/

namespace BrokerClient.Binary64

/-! ## Whole numbers -/

/-- A quotient is rounded to a whole number at most a half away, and from a half to an even one. -/
theorem roundHalfEven_spec
    (numerator : Nat)
    {denominator : Nat}
    (positive : 0 < denominator) :
    2 * roundHalfEven numerator denominator * denominator ≤ 2 * numerator + denominator ∧
      2 * numerator ≤ 2 * roundHalfEven numerator denominator * denominator + denominator ∧
        ((2 * roundHalfEven numerator denominator * denominator = 2 * numerator + denominator ∨
            2 * numerator = 2 * roundHalfEven numerator denominator * denominator + denominator) →
          roundHalfEven numerator denominator % 2 = 0) := by
  have whole := Nat.div_add_mod numerator denominator
  have small := Nat.mod_lt numerator positive
  have grows : 2 * (numerator / denominator + 1) * denominator =
      2 * (denominator * (numerator / denominator)) + 2 * denominator := by
    ring
  have same : 2 * (numerator / denominator) * denominator =
      2 * (denominator * (numerator / denominator)) := by
    ring
  unfold roundHalfEven
  dsimp only
  split
  · rw [same]
    omega
  · split
    · rw [grows]
      omega
    · split
      · rw [same]
        omega
      · rw [grows]
        omega

/-- Of two quotients, the smaller one is not rounded to a greater whole number. -/
theorem roundHalfEven_mono
    {numerator denominator numerator' denominator' : Nat}
    (positive : 0 < denominator)
    (positive' : 0 < denominator')
    (le : numerator * denominator' ≤ numerator' * denominator) :
    roundHalfEven numerator denominator ≤ roundHalfEven numerator' denominator' := by
  obtain ⟨above, -, even⟩ := roundHalfEven_spec numerator positive
  obtain ⟨-, below, even'⟩ := roundHalfEven_spec numerator' positive'
  generalize roundHalfEven numerator denominator = rounded at above even ⊢
  generalize roundHalfEven numerator' denominator' = rounded' at below even' ⊢
  by_contra greater
  have product : 0 < denominator * denominator' := Nat.mul_pos positive positive'
  have scaledAbove := Nat.mul_le_mul_right denominator' above
  have scaledBelow := Nat.mul_le_mul_right denominator below
  have next : rounded = rounded' + 1 := by
    have few : rounded * (denominator * denominator') ≤
        (rounded' + 1) * (denominator * denominator') := by
      nlinarith
    have atMost := Nat.le_of_mul_le_mul_right few product
    omega
  subst next
  -- Both quotients lie half-way between the same two numbers, and only one of these is even.
  have half : 2 * (rounded' + 1) * denominator = 2 * numerator + denominator := by
    refine Nat.eq_of_mul_eq_mul_right positive' (Nat.le_antisymm scaledAbove ?_)
    nlinarith
  have half' : 2 * numerator' = 2 * rounded' * denominator' + denominator' := by
    refine Nat.eq_of_mul_eq_mul_right positive (Nat.le_antisymm scaledBelow ?_)
    nlinarith
  have isEven := even (.inl half)
  have isEven' := even' (.inr half')
  omega

/-- A whole number is rounded to itself. -/
theorem roundHalfEven_one (value : Nat) : roundHalfEven value 1 = value := by
  simp [roundHalfEven, Nat.mod_one]

/-! ## Numbers -/

/-- The scale of the number nearest to a quotient of units, before a carry. -/
def scaleOf (numerator denominator : Nat) : Nat :=
  (numerator / denominator).log2 - 52

/-- The significand of the number nearest to a quotient of units, before a carry. -/
def significandOf (numerator denominator : Nat) : Nat :=
  roundHalfEven numerator (denominator * powerOfTwo (scaleOf numerator denominator))

/-- Powers of two are multiplied by adding their exponents. -/
theorem powerOfTwo_add (left right : Nat) :
    powerOfTwo (left + right) = powerOfTwo left * powerOfTwo right :=
  Nat.pow_add 2 left right

/-- A greater exponent makes no smaller power of two. -/
theorem powerOfTwo_mono
    {exponent exponent' : Nat}
    (le : exponent ≤ exponent') :
    powerOfTwo exponent ≤ powerOfTwo exponent' :=
  Nat.pow_le_pow_right (by decide) le

/-- The significand has at most 53 bits or is the next number after these, and above the smallest
scale it has no fewer bits. -/
theorem significandOf_bounds
    (numerator : Nat)
    {denominator : Nat}
    (positive : 0 < denominator) :
    significandOf numerator denominator ≤ powerOfTwo 53 ∧
      (scaleOf numerator denominator = 0 ∨
        powerOfTwo 52 ≤ significandOf numerator denominator) := by
  have unit := Nat.mul_pos positive (powerOfTwo_pos (scaleOf numerator denominator))
  constructor
  · have below : numerator / denominator < powerOfTwo (scaleOf numerator denominator + 53) := by
      refine Nat.lt_of_lt_of_le Nat.lt_log2_self (powerOfTwo_mono ?_)
      unfold scaleOf
      omega
    have bounded : numerator * 1 ≤
        powerOfTwo 53 * (denominator * powerOfTwo (scaleOf numerator denominator)) := by
      have product := (Nat.div_lt_iff_lt_mul positive).mp below
      rw [powerOfTwo_add] at product
      nlinarith
    have rounded := roundHalfEven_mono unit Nat.one_pos bounded
    rwa [roundHalfEven_one] at rounded
  · by_cases smallest : scaleOf numerator denominator = 0
    · exact .inl smallest
    · right
      have isLog : (numerator / denominator).log2 = scaleOf numerator denominator + 52 := by
        unfold scaleOf at smallest ⊢
        omega
      have notZero : numerator / denominator ≠ 0 := by
        intro zero
        rw [zero] at isLog
        have logZero : Nat.log2 0 = 0 := by decide
        omega
      have above : powerOfTwo (scaleOf numerator denominator + 52) ≤ numerator / denominator := by
        rw [← isLog]
        exact Nat.log2_self_le notZero
      have bounded : powerOfTwo 52 * (denominator * powerOfTwo (scaleOf numerator denominator)) ≤
          numerator * 1 := by
        have product := (Nat.le_div_iff_mul_le positive).mp above
        rw [powerOfTwo_add] at product
        nlinarith
      have rounded := roundHalfEven_mono Nat.one_pos unit bounded
      rwa [roundHalfEven_one] at rounded

/-- A significand and a scale that fit are packed. -/
theorem pack?_some
    (negative : Bool)
    {significand scale : Nat}
    (small : significand < powerOfTwo 53)
    (scaleFits : scale ≤ 2045)
    (normal : scale = 0 ∨ powerOfTwo 52 ≤ significand) :
    ∃ number,
      pack? negative significand scale = some number ∧
        number.units = significand * powerOfTwo scale :=
  ⟨⟨negative, significand, scale, small, scaleFits, normal⟩,
    dif_pos ⟨small, scaleFits, normal⟩, rfl⟩

/-- A quotient has a nearest number exactly if the scale of that is not too large. -/
def InRange (numerator denominator : Nat) : Prop :=
  scaleOf numerator denominator < 2045 ∨
    (scaleOf numerator denominator = 2045 ∧ significandOf numerator denominator < powerOfTwo 53)

/-- The units of the number nearest to a quotient. -/
def nearestUnits (numerator denominator : Nat) : Nat :=
  significandOf numerator denominator * powerOfTwo (scaleOf numerator denominator)

/-- A significand with all its bits set is carried over to the next scale. -/
theorem carry_units (scale : Nat) :
    powerOfTwo 52 * powerOfTwo (scale + 1) = powerOfTwo 53 * powerOfTwo scale := by
  rw [powerOfTwo_succ scale, powerOfTwo_succ 52]
  ring

/-- The nearest number is packed from the significand, or from half of it after a carry. -/
theorem nearest?_eq (negative : Bool) (numerator denominator : Nat) :
    nearest? negative numerator denominator =
      if significandOf numerator denominator = powerOfTwo 53 then
        pack? negative (powerOfTwo 52) (scaleOf numerator denominator + 1)
      else
        pack? negative (significandOf numerator denominator) (scaleOf numerator denominator) :=
  rfl

/-- A quotient in range has a nearest number. -/
theorem InRange.nearest
    {numerator denominator : Nat}
    (inRange : InRange numerator denominator)
    (positive : 0 < denominator)
    (negative : Bool) :
    ∃ number,
      nearest? negative numerator denominator = some number ∧
        number.units = nearestUnits numerator denominator := by
  obtain ⟨small, normal⟩ := significandOf_bounds numerator positive
  rw [nearest?_eq]
  split
  · next carry =>
      have scaleFits : scaleOf numerator denominator + 1 ≤ 2045 := by
        rcases inRange with below | ⟨-, noCarry⟩
        · exact below
        · exact absurd carry (Nat.ne_of_lt noCarry)
      rw [nearestUnits, carry, ← carry_units]
      exact pack?_some negative (by decide) scaleFits (.inr (Nat.le_refl _))
  · next noCarry =>
      have scaleFits : scaleOf numerator denominator ≤ 2045 :=
        inRange.elim Nat.le_of_lt fun last => Nat.le_of_eq last.1
      exact pack?_some negative (Nat.lt_of_le_of_ne small noCarry) scaleFits normal

/-- A quotient with a nearest number is in range. -/
theorem inRange_of_nearest?
    {negative : Bool}
    {numerator denominator : Nat}
    {number : Binary64}
    (found : nearest? negative numerator denominator = some number) :
    InRange numerator denominator ∧ number.units = nearestUnits numerator denominator := by
  have scaleFits := number.scale_le
  have small := number.significand_lt
  rw [nearest?_eq] at found
  split at found
  · next carry =>
      obtain ⟨-, isSignificand, isScale⟩ := pack?_eq_some found
      refine ⟨.inl (by omega), ?_⟩
      rw [units, isSignificand, isScale, carry_units, nearestUnits, carry]
  · next noCarry =>
      obtain ⟨-, isSignificand, isScale⟩ := pack?_eq_some found
      rw [isSignificand] at small
      refine ⟨?_, by rw [units, isSignificand, isScale, nearestUnits]⟩
      rcases Nat.lt_or_eq_of_le (isScale ▸ scaleFits) with below | last
      · exact .inl below
      · exact .inr ⟨last, small⟩

section

variable
  {numerator denominator numerator' denominator' : Nat}
  (positive : 0 < denominator)
  (positive' : 0 < denominator')
  (le : numerator * denominator' ≤ numerator' * denominator)

include positive positive' le

/-- Of two quotients, the smaller one has no greater scale. -/
theorem scaleOf_mono : scaleOf numerator denominator ≤ scaleOf numerator' denominator' := by
  have whole : numerator / denominator ≤ numerator' / denominator' := by
    rw [Nat.le_div_iff_mul_le positive']
    refine Nat.le_of_mul_le_mul_right ?_ positive
    have below := Nat.div_mul_le_self numerator denominator
    nlinarith
  have logs : (numerator / denominator).log2 ≤ (numerator' / denominator').log2 := by
    by_cases zero : numerator / denominator = 0
    · rw [zero]
      exact Nat.zero_le _
    · have notZero := Nat.lt_of_lt_of_le (Nat.pos_of_ne_zero zero) whole
      rw [Nat.le_log2 (Nat.ne_zero_of_lt notZero)]
      exact Nat.le_trans (Nat.log2_self_le zero) whole
  exact Nat.sub_le_sub_right logs 52

/-- Of two quotients with one scale, the smaller one has no greater significand. -/
theorem significandOf_mono
    (same : scaleOf numerator denominator = scaleOf numerator' denominator') :
    significandOf numerator denominator ≤ significandOf numerator' denominator' := by
  have scalePositive := powerOfTwo_pos (scaleOf numerator' denominator')
  rw [significandOf, significandOf, same]
  refine roundHalfEven_mono (Nat.mul_pos positive scalePositive)
    (Nat.mul_pos positive' scalePositive) ?_
  have scaled := Nat.mul_le_mul_right (powerOfTwo (scaleOf numerator' denominator')) le
  nlinarith

/-- Of two quotients, the smaller one is rounded to no greater number, and is in range if the other
one is. -/
theorem InRange.mono
    (inRange : InRange numerator' denominator') :
    InRange numerator denominator ∧
      nearestUnits numerator denominator ≤ nearestUnits numerator' denominator' := by
  have scales := scaleOf_mono positive positive' le
  rcases Nat.lt_or_eq_of_le scales with smaller | same
  · obtain ⟨small, -⟩ := significandOf_bounds numerator positive
    obtain ⟨-, normal'⟩ := significandOf_bounds numerator' positive'
    have notSmallest : powerOfTwo 52 ≤ significandOf numerator' denominator' :=
      normal'.resolve_left (Nat.ne_zero_of_lt smaller)
    refine ⟨.inl (by rcases inRange with below | ⟨last, -⟩ <;> omega), ?_⟩
    calc
      nearestUnits numerator denominator
        ≤ powerOfTwo 53 * powerOfTwo (scaleOf numerator denominator) :=
          Nat.mul_le_mul_right _ small
      _ = powerOfTwo 52 * powerOfTwo (scaleOf numerator denominator + 1) :=
          (carry_units _).symm
      _ ≤ nearestUnits numerator' denominator' :=
          Nat.mul_le_mul notSmallest (powerOfTwo_mono smaller)
  · have significands := significandOf_mono positive positive' le same
    refine ⟨?_, ?_⟩
    · rw [InRange, same]
      exact inRange.imp_right fun last => ⟨last.1, Nat.lt_of_le_of_lt significands last.2⟩
    · rw [nearestUnits, nearestUnits, same]
      exact Nat.mul_le_mul_right _ significands

/-- Of two quotients, the smaller one has a nearest number if the other one has, and no greater
one. -/
theorem nearest?_mono
    {negative' : Bool}
    {greater : Binary64}
    (found : nearest? negative' numerator' denominator' = some greater)
    (negative : Bool) :
    ∃ number,
      nearest? negative numerator denominator = some number ∧ number.units ≤ greater.units := by
  obtain ⟨inRange', isUnits'⟩ := inRange_of_nearest? found
  obtain ⟨inRange, less⟩ := InRange.mono positive positive' le inRange'
  obtain ⟨number, isNearest, isUnits⟩ := inRange.nearest positive negative
  exact ⟨number, isNearest, by rwa [isUnits, isUnits']⟩

end

/-! ## The largest number -/

/-- The largest number. -/
def largest : Binary64 :=
  ⟨false, powerOfTwo 53 - 1, 2045, by decide, by decide, .inr (by decide)⟩

/-- No number is further away from zero. -/
theorem units_le_largest (number : Binary64) : number.units ≤ largest.units :=
  Nat.mul_le_mul (Nat.le_pred_of_lt number.significand_lt) (powerOfTwo_mono number.scale_le)

/-- A quotient below the largest number has a nearest number. -/
theorem nearest?_of_le_largest
    {numerator denominator : Nat}
    (positive : 0 < denominator)
    (bounded : numerator ≤ largest.units * denominator)
    (negative : Bool) :
    ∃ number, nearest? negative numerator denominator = some number := by
  have itself : nearest? false largest.units 1 = some largest := by decide +kernel
  rw [← Nat.mul_one numerator] at bounded
  obtain ⟨number, found, -⟩ := nearest?_mono positive Nat.one_pos bounded itself negative
  exact ⟨number, found⟩

end BrokerClient.Binary64
