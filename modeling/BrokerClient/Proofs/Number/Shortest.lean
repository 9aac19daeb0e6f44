import BrokerClient.Number.Shortest
import BrokerClient.Proofs.Number.Rounding

/-!
# Where the shortest decimal of a number lies

The search for the shortest decimal goes from grid to grid and ends on a grid point that is not
beyond the upper end of the number's interval and not zero.  With what is known of the first grid
this bounds the digits of the decimal and its exponent, and keeps it below the shortest decimal of
the largest number.
-/

namespace BrokerClient.Binary64

/-- Powers of ten are multiplied by adding their exponents. -/
theorem powerOfTen_add (left right : Nat) :
    powerOfTen (left + right) = powerOfTen left * powerOfTen right :=
  Nat.pow_add 10 left right

/-- A greater exponent makes no smaller power of ten. -/
theorem powerOfTen_mono
    {exponent exponent' : Nat}
    (le : exponent ≤ exponent') :
    powerOfTen exponent ≤ powerOfTen exponent' :=
  Nat.pow_le_pow_right (by decide) le

namespace Shortest

variable {number : Binary64}

/-! ## The search -/

/-- What reads back is not zero and not beyond the upper end. -/
theorem readsBack_bounds
    (notZero : number.significand ≠ 0)
    {place : Nat}
    (back : readsBack number place = true) :
    0 < place ∧ place ≤ position number + above number := by
  have unit : 0 < powerOfTwo number.scale * powerOfTen margin :=
    Nat.mul_pos (powerOfTwo_pos _) (powerOfTen_pos _)
  have isPosition : position number =
      4 * number.significand * (powerOfTwo number.scale * powerOfTen margin) := by
    rw [position, units]
    ring
  have farAway : 4 * (powerOfTwo number.scale * powerOfTen margin) ≤ position number := by
    rw [isPosition]
    exact Nat.mul_le_mul_right _ (by omega)
  have lowerEnd : below number ≤ 2 * (powerOfTwo number.scale * powerOfTen margin) := by
    unfold below
    split
    · omega
    · rw [Nat.mul_assoc]
  unfold readsBack at back
  dsimp only at back
  split at back
  · simp only [Bool.and_eq_true, decide_eq_true_eq] at back
    omega
  · simp only [Bool.and_eq_true, decide_eq_true_eq] at back
    omega

/-- The grid point that is chosen reads back, and is next to the number. -/
theorem nearestOnGrid?_eq_some
    {exponent digits : Nat}
    (chosen : nearestOnGrid? number exponent = some digits) :
    readsBack number (digits * spacing exponent) = true ∧
      digits ≤ position number / spacing exponent + 1 := by
  have isLow :
      readsBack number (position number / spacing exponent * spacing exponent) = true →
        some (position number / spacing exponent) = some digits →
          readsBack number (digits * spacing exponent) = true ∧
            digits ≤ position number / spacing exponent + 1 := by
    rintro low ⟨⟩
    exact ⟨low, Nat.le_succ _⟩
  have isHigh :
      readsBack number ((position number / spacing exponent + 1) * spacing exponent) = true →
        some (position number / spacing exponent + 1) = some digits →
          readsBack number (digits * spacing exponent) = true ∧
            digits ≤ position number / spacing exponent + 1 := by
    rintro high ⟨⟩
    exact ⟨high, Nat.le_refl _⟩
  unfold nearestOnGrid? at chosen
  dsimp only at chosen
  split at chosen
  · contradiction
  · next low _ => exact isLow low chosen
  · next _ high => exact isHigh high chosen
  · next low high =>
      split at chosen
      · exact isLow low chosen
      · split at chosen
        · exact isHigh high chosen
        · split at chosen
          · exact isLow low chosen
          · exact isHigh high chosen

/-- Neighbours on the finest grid are apart. -/
theorem four_units_pos : 0 < 4 * unitsPerOne :=
  Nat.mul_pos (by decide) (powerOfTwo_pos 1074)

/-- Neighbours on a grid are apart. -/
theorem spacing_pos (exponent : Nat) : 0 < spacing exponent :=
  Nat.mul_pos four_units_pos (powerOfTen_pos exponent)

/-- The decimal that is found on a grid. -/
structure Found (number : Binary64) (decimal : Decimal) (exponent : Nat) : Prop where
  isExponent : decimal.exponent = (exponent : Int) - margin
  positive : 0 < decimal.digits
  near : decimal.digits ≤ position number / spacing exponent + 1
  within : decimal.digits * spacing exponent ≤ position number + above number

/-- The search ends on one of the grids that it goes through. -/
theorem search_found
    (notZero : number.significand ≠ 0)
    (steps : Nat)
    {exponent : Nat}
    (fine : spacing (exponent - steps) ≤ position number) :
    ∃ last,
      exponent - steps ≤ last ∧ last ≤ exponent ∧
        Found number (search number steps exponent) last := by
  induction steps generalizing exponent with
  | zero =>
      refine ⟨exponent, Nat.le_refl _, Nat.le_refl _, rfl, ?_, Nat.le_succ _, ?_⟩
      · exact Nat.div_pos fine (spacing_pos exponent)
      · exact Nat.le_trans (Nat.div_mul_le_self _ _) (Nat.le_add_right _ _)
  | succ steps inductionHypothesis =>
      rw [search]
      cases chosen : nearestOnGrid? number exponent with
      | some digits =>
          obtain ⟨back, near⟩ := nearestOnGrid?_eq_some chosen
          obtain ⟨notNone, within⟩ := readsBack_bounds notZero back
          exact ⟨exponent, Nat.sub_le _ _, Nat.le_refl _, rfl, Nat.pos_of_mul_pos_right notNone,
            near, within⟩
      | none =>
          rw [Nat.sub_add_eq, Nat.sub_right_comm] at fine
          obtain ⟨last, atLeast, atMost, found⟩ := inductionHypothesis fine
          exact ⟨last, by omega, by omega, found⟩

/-! ## The first grid -/

/-- The number in multiples of the finest grid, rounded down. -/
def leading (number : Binary64) : Nat :=
  position number / (4 * unitsPerOne)

/-- A number other than zero is further away from zero than the finest grid is wide. -/
theorem leading_pos (notZero : number.significand ≠ 0) : 0 < leading number := by
  have apart : 4 * unitsPerOne ≤ 4 * powerOfTen margin := by decide +kernel
  have oneUnit : 1 ≤ number.units :=
    Nat.mul_pos (Nat.pos_of_ne_zero notZero) (powerOfTwo_pos _)
  refine Nat.div_pos (Nat.le_trans apart ?_) four_units_pos
  rw [position]
  exact Nat.mul_le_mul_right _ (by omega)

/-- On every grid, the number lies where its multiple of the finest grid says. -/
theorem position_div_spacing (number : Binary64) (exponent : Nat) :
    position number / spacing exponent = leading number / powerOfTen exponent := by
  rw [leading, spacing, Nat.div_div_eq_div_mul]

/-- A positive number has one digit more than the power of ten below it. -/
theorem length_write
    {value : Nat}
    (positive : 0 < value) :
    ∃ others,
      (BrokerClient.Decimal.write value).length = others + 1 ∧
        powerOfTen others ≤ value ∧ value < powerOfTen (others + 1) := by
  have notEmpty : BrokerClient.Decimal.write value ≠ [] := Nat.toDigits_ne_nil
  have isLength (count : Nat) (some : 0 < count) :
      (BrokerClient.Decimal.write value).length ≤ count ↔ value < powerOfTen count :=
    Nat.length_toDigits_le_iff (by decide) some
  obtain ⟨others, length⟩ := Nat.exists_eq_succ_of_ne_zero
    (fun none => notEmpty (List.length_eq_zero_iff.mp none))
  refine ⟨others, length, ?_, (isLength _ (Nat.succ_pos others)).mp (Nat.le_of_eq length)⟩
  cases others with
  | zero => exact positive
  | succ others =>
      refine Nat.not_lt.mp fun below => ?_
      have short := (isLength _ (Nat.succ_pos others)).mpr below
      omega

/-- The shortest decimal of a number is a point of one of the grids, and has 18 digits at most. -/
theorem shortest_found
    (notZero : number.significand ≠ 0) :
    ∃ exponent,
      Found number number.shortest exponent ∧ number.shortest.digits ≤ powerOfTen 18 := by
  obtain ⟨others, length, above, below⟩ := length_write (leading_pos notZero)
  have fine : spacing (others + 1 - 18) ≤ position number := by
    have wide : powerOfTen (others + 1 - 18) ≤ leading number :=
      Nat.le_trans (powerOfTen_mono (by omega)) above
    calc
      spacing (others + 1 - 18) ≤ 4 * unitsPerOne * leading number :=
        Nat.mul_le_mul_left _ wide
      _ ≤ position number := Nat.mul_div_le _ _
  obtain ⟨exponent, atLeast, -, found⟩ := search_found notZero 18 fine
  have isShortest : number.shortest = search number 18 (others + 1) := by
    rw [← length]
    rfl
  rw [← isShortest] at found
  refine ⟨exponent, found, Nat.le_trans found.near ?_⟩
  rw [position_div_spacing]
  refine (Nat.div_lt_iff_lt_mul (powerOfTen_pos exponent)).mpr ?_
  rw [← powerOfTen_add]
  exact Nat.lt_of_lt_of_le below (powerOfTen_mono (by omega))

/-! ## The last grid -/

/-- The shortest decimal of the largest number. -/
def greatest : Nat :=
  17976931348623157 * powerOfTen 292

/-- The upper end of the interval of any other number than the largest lies below that. -/
theorem upperEnd_le
    (notLargest : ¬ (number.significand = powerOfTwo 53 - 1 ∧ number.scale = 2045)) :
    4 * number.units + 2 * powerOfTwo number.scale ≤ 4 * unitsPerOne * greatest := by
  have shape : 4 * number.units + 2 * powerOfTwo number.scale =
      (4 * number.significand + 2) * powerOfTwo number.scale := by
    rw [units]
    ring
  have small := number.significand_lt
  have scaleFits := number.scale_le
  rw [shape]
  by_cases last : number.scale = 2045
  · have notAllBits : number.significand ≠ powerOfTwo 53 - 1 := fun all => notLargest ⟨all, last⟩
    have checked :
        (4 * (powerOfTwo 53 - 2) + 2) * powerOfTwo 2045 ≤ 4 * unitsPerOne * greatest := by
      decide +kernel
    refine Nat.le_trans (Nat.mul_le_mul ?_ (powerOfTwo_mono scaleFits)) checked
    have two : 2 ≤ powerOfTwo 53 := by decide
    omega
  · have checked :
        (4 * (powerOfTwo 53 - 1) + 2) * powerOfTwo 2044 ≤ 4 * unitsPerOne * greatest := by
      decide +kernel
    refine Nat.le_trans (Nat.mul_le_mul ?_ (powerOfTwo_mono (by omega))) checked
    omega

/-- The largest number, of either sign, has the greatest shortest decimal. -/
theorem shortest_largest
    (isLargest : number.significand = powerOfTwo 53 - 1 ∧ number.scale = 2045) :
    number.shortest = ⟨17976931348623157, 292⟩ := by
  have checked :
      ∀ negative,
        ({ largest with negative := negative } : Binary64).shortest = ⟨17976931348623157, 292⟩ := by
    decide +kernel
  obtain ⟨negative, significand, scale, small, scaleFits, normal⟩ := number
  obtain ⟨rfl, rfl⟩ := isLargest
  exact checked negative

/-- A decimal without fraction is not greater than that of the largest number. -/
theorem shortest_le_greatest
    (notZero : number.significand ≠ 0)
    {exponent : Nat}
    (isExponent : number.shortest.exponent = exponent) :
    number.shortest.digits * powerOfTen exponent ≤ greatest := by
  by_cases isLargest : number.significand = powerOfTwo 53 - 1 ∧ number.scale = 2045
  · rw [shortest_largest isLargest] at isExponent ⊢
    have same : 292 = exponent := Int.ofNat.inj isExponent
    rw [greatest, ← same]
  · obtain ⟨last, found, -⟩ := shortest_found notZero
    have isLast : last = exponent + margin := by
      have exponents := found.isExponent
      omega
    have within := found.within
    rw [isLast, spacing, powerOfTen_add, position, above] at within
    have upper := upperEnd_le isLargest
    have scaled : number.shortest.digits * (4 * unitsPerOne * powerOfTen exponent) ≤
        4 * number.units + 2 * powerOfTwo number.scale := by
      refine Nat.le_of_mul_le_mul_right ?_ (powerOfTen_pos margin)
      nlinarith
    refine Nat.le_of_mul_le_mul_left ?_ four_units_pos
    nlinarith

end Shortest

end BrokerClient.Binary64
