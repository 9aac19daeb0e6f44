import BrokerClient.Proofs.Json.RoundTrip
import BrokerClient.Proofs.Json.Significands
import BrokerClient.Proofs.Number.Shortest

/-!
# Every floating-point number is read as one

Digits are scaled by rounding twice, so a number need not be read as the one that was written.  But
no number is written with digits that are out of range once they are rounded: the digits have 18
places at most, and with their exponent they do not exceed the shortest decimal of the largest
number.
-/

namespace BrokerClient.Json

open Binary64 (unitsPerOne)

/-! ## Scaling -/

/-- One. -/
def one : Binary64 :=
  ⟨false, powerOfTwo 52, 1022, by decide, by decide, .inr (by decide)⟩

/-- The number nearest to a power of ten that scales in one step is not less than one. -/
theorem powerOfTen?_some
    {exponent : Nat}
    (small : exponent ≤ largestPower) :
    ∃ power, powerOfTen? exponent = some power ∧ unitsPerOne ≤ power.units := by
  have top : powerOfTen largestPower * unitsPerOne ≤ Binary64.largest.units * 1 := by
    decide +kernel
  have inRange := Nat.le_trans
    (Nat.mul_le_mul_right unitsPerOne (Binary64.powerOfTen_mono small)) top
  obtain ⟨power, found⟩ := Binary64.nearest?_of_le_largest Nat.one_pos inRange false
  refine ⟨power, found, ?_⟩
  have itself : Binary64.nearest? false (1 * unitsPerOne) 1 = some one := by decide +kernel
  have isOne : one.units = unitsPerOne := by decide +kernel
  have notLess : 1 * unitsPerOne * 1 ≤ powerOfTen exponent * unitsPerOne * 1 :=
    Nat.mul_le_mul_right 1 (Nat.mul_le_mul_right unitsPerOne (powerOfTen_pos exponent))
  obtain ⟨smaller, isSmaller, less⟩ :=
    Binary64.nearest?_mono Nat.one_pos Nat.one_pos notLess found false
  rw [itself, Option.some.injEq] at isSmaller
  rwa [← isSmaller, isOne] at less

/-- A number is divided by a power of ten, whichever number that is. -/
theorem div?_powerOfTen?
    (number : Binary64)
    {exponent : Nat}
    (small : exponent ≤ largestPower) :
    ∃ smaller, (powerOfTen? exponent).bind number.div? = some smaller := by
  obtain ⟨power, found, notLess⟩ := powerOfTen?_some small
  have positive : 0 < power.units := Nat.lt_of_lt_of_le (powerOfTwo_pos 1074) notLess
  have bounded : number.units * unitsPerOne ≤ Binary64.largest.units * power.units :=
    Nat.mul_le_mul (Binary64.units_le_largest number) notLess
  obtain ⟨smaller, divides⟩ :=
    Binary64.nearest?_of_le_largest positive bounded number.negative
  exact ⟨smaller, by rw [found, Option.bind_some, Binary64.div?, divides]⟩

/-- A number is divided down, however often. -/
theorem divideDown?_some
    (number : Binary64)
    (chunks : Nat)
    {exponent : Nat}
    (small : exponent ≤ largestPower) :
    ∃ smaller, divideDown? number chunks exponent = some smaller := by
  induction chunks generalizing number with
  | zero => exact div?_powerOfTen? number small
  | succ chunks inductionHypothesis =>
      rw [divideDown?]
      split
      · exact ⟨number, rfl⟩
      · obtain ⟨smaller, divides⟩ := div?_powerOfTen? number (Nat.le_refl largestPower)
        rw [divides, Option.bind_some]
        exact inductionHypothesis smaller

/-- Digits with a power of ten are in range. -/
def Scales (digits : Nat) (exponent : Int) : Prop :=
  ∃ magnitude,
    ((Binary64.ofNat? digits).bind fun leading => scale? leading exponent) = some magnitude

/-- Digits that fit 64 bits are in range with any negative exponent. -/
theorem scales_of_negative
    {digits : Nat}
    (fits : digits ≤ largestUnsigned)
    {exponent : Int}
    (negative : exponent < 0) :
    Scales digits exponent := by
  have top : largestUnsigned * unitsPerOne ≤ Binary64.largest.units * 1 := by decide +kernel
  have bounded := Nat.le_trans (Nat.mul_le_mul_right unitsPerOne fits) top
  obtain ⟨leading, found⟩ := Binary64.nearest?_of_le_largest Nat.one_pos bounded false
  obtain ⟨places, rfl⟩ := Int.eq_negSucc_of_lt_zero negative
  have step : places + 1 - largestPower * (places / largestPower) ≤ largestPower := by
    unfold largestPower
    omega
  obtain ⟨magnitude, divides⟩ := divideDown?_some leading (places / largestPower) step
  refine ⟨magnitude, ?_⟩
  rw [Binary64.ofNat?, found, Option.bind_some, scale?]
  exact divides

/-- Digits with a natural power of ten are rounded to numbers whose product is in range. -/
def Multiplies (digits exponent : Nat) : Prop :=
  ∃ leading power product,
    Binary64.ofNat? digits = some leading ∧
      powerOfTen? exponent = some power ∧ leading.mul? power = some product

/-- Fewer digits with a smaller power of ten have a smaller product. -/
theorem Multiplies.mono
    {digits digits' exponent exponent' : Nat}
    (multiplies : Multiplies digits' exponent')
    (fewer : digits ≤ digits')
    (smaller : exponent ≤ exponent') :
    Multiplies digits exponent := by
  obtain ⟨leading', power', product', foundLeading, foundPower, foundProduct⟩ := multiplies
  have lessDigits : digits * unitsPerOne * 1 ≤ digits' * unitsPerOne * 1 :=
    Nat.mul_le_mul_right 1 (Nat.mul_le_mul_right unitsPerOne fewer)
  have lessPower :
      powerOfTen exponent * unitsPerOne * 1 ≤ powerOfTen exponent' * unitsPerOne * 1 :=
    Nat.mul_le_mul_right 1
      (Nat.mul_le_mul_right unitsPerOne (Binary64.powerOfTen_mono smaller))
  obtain ⟨leading, isLeading, lessLeading⟩ :=
    Binary64.nearest?_mono Nat.one_pos Nat.one_pos lessDigits foundLeading false
  obtain ⟨power, isPower, lessPower⟩ :=
    Binary64.nearest?_mono Nat.one_pos Nat.one_pos lessPower foundPower false
  have lessProduct :
      leading.units * power.units * unitsPerOne ≤ leading'.units * power'.units * unitsPerOne :=
    Nat.mul_le_mul_right unitsPerOne (Nat.mul_le_mul lessLeading lessPower)
  obtain ⟨product, isProduct, -⟩ :=
    Binary64.nearest?_mono (powerOfTwo_pos 1074) (powerOfTwo_pos 1074) lessProduct foundProduct
      leading.negative
  exact ⟨leading, power, product, isLeading, isPower, isProduct⟩

/-- The most digits, of 18 places, that stand before a power of ten without exceeding the shortest
decimal of the largest number. -/
def mostDigits (exponent : Nat) : Nat :=
  min (powerOfTen 18) (Binary64.Shortest.greatest / powerOfTen exponent)

/-- The most digits with one of the twenty greatest powers of ten are in range. -/
theorem multiplies_mostDigits
    {exponent : Nat}
    (great : 289 ≤ exponent)
    (small : exponent ≤ largestPower) :
    Multiplies (mostDigits exponent) exponent := by
  -- Fewer digits have a smaller product, so only the most digits of each power are computed.
  have checked :
      ∀ steps < 20,
        ((Binary64.ofNat? (mostDigits (289 + steps))).bind fun leading =>
          (powerOfTen? (289 + steps)).bind leading.mul?).isSome = true := by
    decide +kernel
  have few : exponent - 289 < 20 := by
    unfold largestPower at small
    omega
  have inRange := checked (exponent - 289) few
  rw [Nat.add_sub_of_le great] at inRange
  obtain ⟨product, multiplies⟩ := Option.isSome_iff_exists.mp inRange
  obtain ⟨leading, foundLeading, multiplied⟩ := Option.bind_eq_some_iff.mp multiplies
  obtain ⟨power, foundPower, foundProduct⟩ := Option.bind_eq_some_iff.mp multiplied
  exact ⟨leading, power, product, foundLeading, foundPower, foundProduct⟩

/-- A power of ten before which digits do not exceed the shortest decimal of the largest number
scales in one step. -/
theorem le_largestPower
    {digits exponent : Nat}
    (positive : 0 < digits)
    (bounded : digits * powerOfTen exponent ≤ Binary64.Shortest.greatest) :
    exponent ≤ largestPower := by
  refine Nat.not_lt.mp fun large => ?_
  have beyond : Binary64.Shortest.greatest < powerOfTen 309 := by decide +kernel
  have power : powerOfTen 309 ≤ powerOfTen exponent := Binary64.powerOfTen_mono large
  have atLeast : powerOfTen exponent ≤ digits * powerOfTen exponent :=
    Nat.le_mul_of_pos_left _ positive
  omega

/-- Digits of 18 places at most that do not exceed the shortest decimal of the largest number are
in range. -/
theorem scales_of_natural
    {digits exponent : Nat}
    (positive : 0 < digits)
    (few : digits ≤ powerOfTen 18)
    (bounded : digits * powerOfTen exponent ≤ Binary64.Shortest.greatest) :
    Scales digits exponent := by
  have small := le_largestPower positive bounded
  have multiplies : Multiplies digits exponent := by
    by_cases great : 289 ≤ exponent
    · have atMost : digits ≤ mostDigits exponent :=
        Nat.le_min.mpr ⟨few, (Nat.le_div_iff_mul_le (powerOfTen_pos exponent)).mpr bounded⟩
      exact (multiplies_mostDigits great small).mono atMost (Nat.le_refl _)
    · have all : powerOfTen 18 ≤ mostDigits 289 := by decide +kernel
      exact (multiplies_mostDigits (Nat.le_refl 289) (by decide)).mono (Nat.le_trans few all)
        (Nat.le_of_not_le great)
  obtain ⟨leading, power, product, foundLeading, foundPower, foundProduct⟩ := multiplies
  refine ⟨product, ?_⟩
  rw [foundLeading, Option.bind_some]
  show scale? leading (.ofNat exponent) = some product
  rw [scale?, if_pos small, foundPower, Option.bind_some, foundProduct]

/-! ## Fractions and exponents -/

/-- Digits of an exponent in range are taken as their number. -/
theorem readExponentDigits_digits
    {digits rest : List UInt8}
    (areDigits : Digits digits)
    (stops : NoDigit rest)
    {start : Nat}
    (fits : digitsValue start digits ≤ largestExponent) :
    readExponentDigits start (digits ++ rest) = (some (digitsValue start digits), rest) := by
  induction digits generalizing start with
  | nil =>
      cases rest with
      | nil => rfl
      | cons octet rest => simp [readExponentDigits, stops octet rfl, digitsValue]
  | cons digit digits inductionHypothesis =>
      obtain ⟨isDigit, others⟩ := List.forall_mem_cons.mp areDigits
      have small : ¬ largestExponent < start * 10 + digitValue digit :=
        Nat.not_lt.mpr (Nat.le_trans (le_digitsValue _ digits) fits)
      simp only [List.cons_append, readExponentDigits, isDigit, if_true, small, if_false]
      exact inductionHypothesis others fits

/-- An exponent that is written is read, and added to the places that digits are shifted by. -/
theorem readExponent_exponentText
    {exponent : Int}
    (inRange : exponent.natAbs ≤ largestExponent)
    {rest : List UInt8}
    (ends : EndsNumeral rest)
    (negative : Bool)
    (significand : Nat)
    (shift : Int) :
    readExponent negative significand shift (asciiOf (Binary64.exponentText exponent) ++ rest) =
      floatOf negative significand (shift + exponent) rest := by
  have reads (value : Nat) (small : value ≤ largestExponent) (down : Bool) :
      readExponent negative significand shift
          ((if down then 0x2D else 0x2B) :: (decimal value ++ rest)) =
        floatOf negative significand (if down then shift - value else shift + value) rest := by
    obtain ⟨first, others, written, leads⟩ := decimal_leads value
    have areDigits := digits_decimal value
    have isValue := digitsValue_decimal value
    rw [written] at areDigits isValue ⊢
    rw [digitsValue_cons] at isValue
    have taken := readExponentDigits_digits (List.forall_mem_cons.mp areDigits).2 ends.noDigit
      (Nat.le_trans (Nat.le_of_eq isValue) small)
    rw [isValue] at taken
    have isSign : readExponentSign ((if down then 0x2D else 0x2B) :: first :: (others ++ rest)) =
        (down, first :: (others ++ rest)) := by
      cases down with
      | false => rfl
      | true => rfl
    simp only [List.cons_append, readExponent, isSign, leads, if_true, taken]
  cases exponent with
  | ofNat value => exact reads value inRange false
  | negSucc value => exact reads (value + 1) inRange true

/-- Whole digits that fit are read as their number. -/
theorem readNumeral_fitting
    {whole behind : List UInt8}
    (isWhole : Whole whole)
    (stops : NoDigit behind)
    (fits : digitsValue 0 whole ≤ largestUnsigned)
    (negative : Bool) :
    readNumeral negative (whole ++ behind) =
      readBehindWhole negative (digitsValue 0 whole) 0 behind := by
  obtain ⟨significand, dropped, same, all, full⟩ := readNumeral_whole isWhole stops negative
  obtain rfl := full.mpr fits
  rw [same, all rfl]

/-- A fraction whose digits fit is read with the whole digits as one number. -/
theorem readNumeral_fraction
    {whole fraction behind : List UInt8}
    (isWhole : Whole whole)
    (some : fraction ≠ [])
    (areDigits : Digits fraction)
    (stops : NoDigit behind)
    (fits : digitsValue 0 (whole ++ fraction) ≤ largestUnsigned)
    (negative : Bool) :
    readNumeral negative (whole ++ 0x2E :: (fraction ++ behind)) =
      readOptionalExponent negative (digitsValue 0 (whole ++ fraction)) (-(fraction.length : Int))
        behind := by
  rw [digitsValue_append] at fits ⊢
  have wholeFits := Nat.le_trans (le_digitsValue _ fraction) fits
  have noDigit : NoDigit (0x2E :: (fraction ++ behind)) := by
    intro octet isHead
    simp only [List.head?_cons, Option.mem_some_iff] at isHead
    subst isHead
    decide
  have noDigits : Digits [] := by simp [Digits]
  have none : digitCount behind = 0 := digitCount_digits noDigits stops
  have nothing : behind.dropWhile isDigit = behind := dropWhile_digits noDigits stops
  have taken := readSignificand_fitting areDigits stops fits
  have counted := digitCount_digits areDigits stops
  rw [readNumeral_fitting isWhole noDigit wholeFits]
  obtain ⟨first, others, rfl⟩ := List.exists_cons_of_ne_nil some
  have leads := areDigits first List.mem_cons_self
  rw [List.cons_append] at taken counted ⊢
  simp only [readBehindWhole, if_true, readFraction, leads, taken, counted, none, nothing,
    Nat.sub_zero, Nat.cast_zero, zero_sub]

/-! ## Texts of numbers -/

/-- A text is read, behind either sign, as digits with a power of ten that are in range. -/
structure IsScaled (text : List Char) : Prop where
  leads : ∃ first others, asciiOf text = first :: others ∧ isDigit first = true
  scaled :
    ∃ digits exponent,
      Scales digits exponent ∧
        ∀ negative rest,
          EndsNumeral rest →
            readNumeral negative (asciiOf text ++ rest) = floatOf negative digits exponent rest

/-- Digits behind digits are digits. -/
theorem Digits.append
    {digits others : List UInt8}
    (areDigits : Digits digits)
    (othersToo : Digits others) :
    Digits (digits ++ others) :=
  List.forall_mem_append.mpr ⟨areDigits, othersToo⟩

/-- Zeros are digits. -/
theorem digits_zeros (count : Nat) : Digits (List.replicate count 0x30) := by
  intro octet inside
  rw [List.eq_of_mem_replicate inside]
  decide

/-- A row of digits denotes a number below the power of ten with as many zeros. -/
theorem digitsValue_lt
    {digits : List UInt8}
    (areDigits : Digits digits)
    (start : Nat) :
    digitsValue start digits < (start + 1) * powerOfTen digits.length := by
  induction digits generalizing start with
  | nil =>
      have one : powerOfTen 0 = 1 := rfl
      simp only [digitsValue, List.foldl_nil, List.length_nil, one]
      omega
  | cons digit digits inductionHypothesis =>
      obtain ⟨isDigit, others⟩ := List.forall_mem_cons.mp areDigits
      have small := (digitOctet_digitValue isDigit).1
      have behind := inductionHypothesis others (start * 10 + digitValue digit)
      refine Nat.lt_of_lt_of_le behind ?_
      rw [List.length_cons, powerOfTen_succ]
      have power := powerOfTen_pos digits.length
      nlinarith

/-- At most 19 digits fit 64 bits. -/
theorem digitsValue_fits
    {digits : List UInt8}
    (areDigits : Digits digits)
    (few : digits.length ≤ 19) :
    digitsValue 0 digits ≤ largestUnsigned := by
  have below := digitsValue_lt areDigits 0
  have power := Binary64.powerOfTen_mono few
  have fits : powerOfTen 19 ≤ largestUnsigned := by decide
  omega

/-- Zeros in front do not count. -/
theorem digitsValue_zeros (count : Nat) (digits : List UInt8) :
    digitsValue 0 (List.replicate count 0x30 ++ digits) = digitsValue 0 digits := by
  induction count with
  | zero => rfl
  | succ count inductionHypothesis =>
      rw [List.replicate_succ, List.cons_append, digitsValue_cons]
      exact inductionHypothesis

/-- Whole digits start with a digit, which may stand alone. -/
theorem Whole.leads
    {whole : List UInt8}
    (isWhole : Whole whole) :
    ∃ first others, whole = first :: others ∧ isDigit first = true ∧ Whole [first] := by
  have noDigits : Digits [] := by simp [Digits]
  cases isWhole with
  | zero => exact ⟨0x30, [], rfl, by decide, .zero⟩
  | @positive first others leads notZero digits =>
      exact ⟨first, others, rfl, leads, .positive leads notZero noDigits⟩

/-- Whole digits are digits. -/
theorem Whole.digits
    {whole : List UInt8}
    (isWhole : Whole whole) :
    Digits whole := by
  cases isWhole with
  | zero => exact digits_zeros 1
  | positive leads _ digits => exact List.forall_mem_cons.mpr ⟨leads, digits⟩

/-- Where a numeral ends, no exponent is read. -/
theorem readOptionalExponent_stop
    {rest : List UInt8}
    (ends : EndsNumeral rest)
    (negative : Bool)
    (significand : Nat)
    (shift : Int) :
    readOptionalExponent negative significand shift rest =
      floatOf negative significand shift rest := by
  cases rest with
  | nil => rfl
  | cons octet rest => simp [readOptionalExponent, (ends octet rfl).2.2]

/-- A point with digits on either side, which fit together, is read as digits with a negative
power of ten. -/
theorem isScaled_point
    {text : List Char}
    {whole fraction : List UInt8}
    (shape : asciiOf text = whole ++ 0x2E :: fraction)
    (isWhole : Whole whole)
    (some : fraction ≠ [])
    (areDigits : Digits fraction)
    (fits : digitsValue 0 (whole ++ fraction) ≤ largestUnsigned) :
    IsScaled text where
  leads := by
    obtain ⟨first, others, rfl, leads, -⟩ := isWhole.leads
    exact ⟨first, _, shape, leads⟩
  scaled := by
    have places := List.length_pos_iff.mpr some
    refine ⟨_, _, scales_of_negative fits (by omega : -(fraction.length : Int) < 0), ?_⟩
    intro negative rest ends
    rw [shape, List.append_assoc, List.cons_append,
      readNumeral_fraction isWhole some areDigits ends.noDigit fits,
      readOptionalExponent_stop ends]

/-- Zero is read. -/
theorem isScaled_zero : IsScaled ['0', '.', '0'] :=
  isScaled_point (rfl : asciiOf ['0', '.', '0'] = [0x30] ++ 0x2E :: [0x30]) .zero (by decide)
    (by simp [Digits, isDigit]) (by decide)

/-- A mark is no digit, so digits in front of it end there. -/
theorem noDigit_mark (rest : List UInt8) : NoDigit (0x65 :: rest) := by
  intro octet isHead
  simp only [List.head?_cons, Option.mem_some_iff] at isHead
  subst isHead
  decide

section

variable
  {whole : List UInt8}
  (isWhole : Whole whole)
  {power : Int}
  (inRange : power.natAbs ≤ largestExponent)
  {rest : List UInt8}
  (ends : EndsNumeral rest)
  (negative : Bool)

include isWhole inRange ends

/-- Whole digits with an exponent are read as these digits with that power of ten. -/
theorem readNumeral_whole_exponent
    (fits : digitsValue 0 whole ≤ largestUnsigned) :
    readNumeral negative (whole ++ 0x65 :: (asciiOf (Binary64.exponentText power) ++ rest)) =
      floatOf negative (digitsValue 0 whole) power rest := by
  have reads := readExponent_exponentText inRange ends negative (digitsValue 0 whole) 0
  have isMark : isExponentMark 0x65 = true := by decide
  have noPoint : ¬ (0x65 : UInt8) = 0x2E := by decide
  rw [zero_add] at reads
  rw [readNumeral_fitting isWhole (noDigit_mark _) fits]
  simp only [readBehindWhole, noPoint, if_false, isMark, if_true, Nat.cast_zero, reads]

/-- Digits with a point and an exponent are read as these digits with a power of ten that is less
by the places behind the point. -/
theorem readNumeral_fraction_exponent
    {fraction : List UInt8}
    (some : fraction ≠ [])
    (areDigits : Digits fraction)
    (fits : digitsValue 0 (whole ++ fraction) ≤ largestUnsigned) :
    readNumeral negative
        (whole ++ 0x2E :: (fraction ++ 0x65 :: (asciiOf (Binary64.exponentText power) ++ rest))) =
      floatOf negative (digitsValue 0 (whole ++ fraction)) (-(fraction.length : Int) + power)
        rest := by
  have reads := readExponent_exponentText inRange ends negative
    (digitsValue 0 (whole ++ fraction)) (-(fraction.length : Int))
  have isMark : isExponentMark 0x65 = true := by decide
  rw [readNumeral_fraction isWhole some areDigits (noDigit_mark _) fits, readOptionalExponent,
    if_pos isMark, reads]

end

/-- Digits with a point behind the first one and an exponent are read as these digits with the
exponent of the last one. -/
theorem isScaled_scientific
    {digits : Nat}
    {exponent : Int}
    (fits : digits ≤ largestUnsigned)
    (scales : Scales digits exponent)
    (inRange : (exponent + (Decimal.write digits).length - 1).natAbs ≤ largestExponent) :
    IsScaled
      (Binary64.scientific (Decimal.write digits)
        (exponent + (Decimal.write digits).length - 1)) := by
  have areDigits := digits_decimal digits
  have isValue := digitsValue_decimal digits
  obtain ⟨_, _, same, leads, firstWhole⟩ := (whole_decimal digits).leads
  have notEmpty : Decimal.write digits ≠ [] := Nat.toDigits_ne_nil
  rw [decimal] at areDigits isValue same
  obtain ⟨first, others, written⟩ := List.exists_cons_of_ne_nil notEmpty
  rw [written] at areDigits isValue same inRange ⊢
  obtain ⟨rfl, rfl⟩ := List.cons.inj same
  have othersDigits : Digits (asciiOf others) := (List.forall_mem_cons.mp areDigits).2
  rw [List.length_cons] at inRange ⊢
  generalize isPower : exponent + ((others.length + 1 : Nat) : Int) - 1 = power at inRange ⊢
  cases others with
  | nil =>
      have same : power = exponent := by
        simp only [List.length_nil] at isPower
        omega
      refine ⟨⟨_, _, rfl, leads⟩, digits, exponent, scales, ?_⟩
      intro negative rest ends
      have reads := readNumeral_whole_exponent firstWhole inRange ends negative
        (Nat.le_trans (Nat.le_of_eq isValue) fits)
      rw [← isValue, ← same]
      simpa [Binary64.scientific, asciiOf] using reads
  | cons second others =>
      refine ⟨⟨_, _, rfl, leads⟩, digits, exponent, scales, ?_⟩
      intro negative rest ends
      have notNone : asciiOf (second :: others) ≠ [] := List.cons_ne_nil _ _
      have reads := readNumeral_fraction_exponent firstWhole inRange ends negative notNone
        othersDigits (Nat.le_trans (Nat.le_of_eq isValue) fits)
      have same : -(((asciiOf (second :: others)).length : Nat) : Int) + power = exponent := by
        simp only [asciiOf, List.length_map, List.length_cons] at isPower ⊢
        omega
      rw [same] at reads
      rw [← isValue]
      simpa [Binary64.scientific, asciiOf] using reads

/-- Digits behind a point, with zeros between, are read as these digits. -/
theorem isScaled_below_one
    {digits : Nat}
    (fits : digits ≤ largestUnsigned)
    (zeros : Nat) :
    IsScaled (Binary64.positional (Decimal.write digits) (.negSucc zeros)) := by
  have shape : asciiOf (Binary64.positional (Decimal.write digits) (.negSucc zeros)) =
      [0x30] ++ 0x2E :: (List.replicate zeros 0x30 ++ decimal digits) := by
    simp [Binary64.positional, asciiOf, decimal]
  have isValue :
      digitsValue 0 ([0x30] ++ (List.replicate zeros 0x30 ++ decimal digits)) = digits := by
    rw [List.singleton_append, digitsValue_cons]
    exact (digitsValue_zeros zeros _).trans (digitsValue_decimal digits)
  obtain ⟨first, others, written, -⟩ := decimal_leads digits
  exact isScaled_point shape .zero (by simp [written])
    ((digits_zeros zeros).append (digits_decimal digits)) (by rwa [isValue])

section

variable
  {first : Nat}
  {others : List Char}
  (isWhole : ∀ behind, Digits behind → Whole (digitOctet first :: behind))
  (othersDigits : Digits (asciiOf others))
  {places : Nat}

include isWhole othersDigits

/-- Digits that do not reach the point are read with zeros up to it. -/
theorem isScaled_padded
    (short : others.length ≤ places)
    (few : places < 16) :
    IsScaled (Binary64.positional (Nat.digitChar first :: others) (.ofNat places)) := by
  have none : others.drop places = [] := List.drop_eq_nil_iff.mpr short
  have shape : asciiOf (Binary64.positional (Nat.digitChar first :: others) (.ofNat places)) =
      (digitOctet first :: (asciiOf others ++ List.replicate (places - others.length) 0x30)) ++
        0x2E :: [0x30] := by
    simp [Binary64.positional, asciiOf, digitOctet, none, List.take_of_length_le short]
  have whole := isWhole _ (othersDigits.append (digits_zeros (places - others.length)))
  refine isScaled_point shape whole (by decide) (digits_zeros 1) ?_
  apply digitsValue_fits (whole.digits.append (digits_zeros 1))
  simp only [asciiOf, List.length_append, List.length_cons, List.length_map,
    List.length_replicate]
  omega

/-- Digits that go on behind the point are read on both sides of it. -/
theorem isScaled_parted
    (long : places < others.length)
    (fits : digitsValue 0 (digitOctet first :: asciiOf others) ≤ largestUnsigned) :
    IsScaled (Binary64.positional (Nat.digitChar first :: others) (.ofNat places)) := by
  have some : others.drop places ≠ [] := fun none =>
    Nat.not_le.mpr long (List.drop_eq_nil_iff.mp none)
  have parts : asciiOf others = asciiOf (others.take places) ++ asciiOf (others.drop places) := by
    rw [asciiOf, asciiOf, asciiOf, ← List.map_append, List.take_append_drop]
  have shape : asciiOf (Binary64.positional (Nat.digitChar first :: others) (.ofNat places)) =
      (digitOctet first :: asciiOf (others.take places)) ++
        0x2E :: asciiOf (others.drop places) := by
    simp [Binary64.positional, asciiOf, digitOctet, some, List.length_take,
      Nat.min_eq_left (Nat.le_of_lt long)]
  rw [parts] at othersDigits
  obtain ⟨front, back⟩ := List.forall_mem_append.mp othersDigits
  refine isScaled_point shape (isWhole _ front) (by simpa [asciiOf] using some) back ?_
  rwa [List.cons_append, ← parts]

end

/-- Digits with a point behind as many as the exponent says, and with zeros in front of it if they
are fewer, are read as these digits. -/
theorem isScaled_above_one
    {digits : Nat}
    (positive : 0 < digits)
    (fits : digits ≤ largestUnsigned)
    {places : Nat}
    (few : places < 16) :
    IsScaled (Binary64.positional (Decimal.write digits) (.ofNat places)) := by
  have areDigits := digits_decimal digits
  have isValue := digitsValue_decimal digits
  obtain ⟨first, others, written, notZero, small⟩ := Decimal.write_of_pos positive
  rw [decimal, written] at areDigits isValue
  rw [written]
  have notZeroOctet : digitOctet first ≠ 0x30 := by
    intro same
    have isFirst := (digitOctet_reads small).2
    rw [same] at isFirst
    have isZero : digitValue 0x30 = 0 := by decide
    omega
  have isWhole (behind : List UInt8) (areDigits : Digits behind) :
      Whole (digitOctet first :: behind) :=
    .positive (digitOctet_reads small).1 notZeroOctet areDigits
  have othersDigits : Digits (asciiOf others) := (List.forall_mem_cons.mp areDigits).2
  rcases Nat.lt_or_ge places others.length with long | short
  · exact isScaled_parted isWhole othersDigits long (Nat.le_trans (Nat.le_of_eq isValue) fits)
  · exact isScaled_padded isWhole othersDigits short few

/-- The shortest decimal of a number is in range, and its exponent is small. -/
theorem scales_shortest
    {number : Binary64}
    (notZero : number.significand ≠ 0) :
    0 < number.shortest.digits ∧ number.shortest.digits ≤ powerOfTen 18 ∧
      Scales number.shortest.digits number.shortest.exponent ∧
        -345 ≤ number.shortest.exponent ∧ number.shortest.exponent ≤ 308 := by
  obtain ⟨last, found, few⟩ := Binary64.Shortest.shortest_found notZero
  have isMargin : Binary64.Shortest.margin = 345 := rfl
  have atLeast : -345 ≤ number.shortest.exponent := by
    have exponents := found.isExponent
    omega
  refine ⟨found.positive, few, ?_⟩
  by_cases negative : number.shortest.exponent < 0
  · have narrow : powerOfTen 18 ≤ largestUnsigned := by decide
    exact ⟨scales_of_negative (Nat.le_trans few narrow) negative, atLeast, by omega⟩
  · obtain ⟨exponent, isExponent⟩ := Int.eq_ofNat_of_zero_le (Int.not_lt.mp negative)
    have bounded := Binary64.Shortest.shortest_le_greatest notZero isExponent
    have small : exponent ≤ 308 := le_largestPower found.positive bounded
    rw [isExponent]
    exact ⟨scales_of_natural found.positive few bounded, by omega, by omega⟩

/-- The text of a number that is not negative is read as digits in range. -/
theorem isScaled_write
    {number : Binary64}
    (isPositive : number.negative = false) :
    IsScaled number.write := by
  have narrow : powerOfTen 18 ≤ largestUnsigned := by decide
  unfold Binary64.write
  simp only [isPositive, Bool.false_eq_true, if_false]
  split
  · exact isScaled_zero
  · next notZero =>
      obtain ⟨positive, few, scales, atLeast, atMost⟩ := scales_shortest notZero
      have fits := Nat.le_trans few narrow
      generalize number.shortest.digits = digits at positive few scales fits ⊢
      generalize number.shortest.exponent = exponent at scales atLeast atMost ⊢
      split
      · next inside =>
          generalize exponent + ((Decimal.write digits).length : Int) - 1 = power at inside ⊢
          cases power with
          | ofNat places => exact isScaled_above_one positive fits (Int.ofNat_lt.mp inside.2)
          | negSucc zeros => exact isScaled_below_one fits zeros
      · have length : (Decimal.write digits).length ≤ 19 := by
          have below : digits < 10 ^ 19 := Nat.lt_of_le_of_lt few (by decide)
          exact (Nat.length_toDigits_le_iff (by decide) (by decide)).mpr below
        have isLargest : largestExponent = 2147483647 := rfl
        exact isScaled_scientific fits scales (by omega)

/-! ## Numbers -/

/-- Whichever way brackets are read, a floating-point number is read as one, though not always as
the one that was written. -/
theorem readValueWith_float
    (readBracketed : UInt8 → Reader Json)
    (number : Binary64) :
    ∃ found,
      Reads (readValueWith readBracketed) (.number (.float found)) (.number (.float number)) := by
  cases sign : number.negative with
  | false =>
      have text := isScaled_write sign
      obtain ⟨first, others, starts, leads⟩ := text.leads
      obtain ⟨digits, exponent, ⟨magnitude, scaled⟩, reads⟩ := text.scaled
      refine ⟨{ magnitude with negative := false },
        ⟨_, _, starts, digit_solid leads, digit_ne leads (by decide)⟩, fun rest ends => ?_⟩
      have found := reads false rest ends
      rw [floatOf_some scaled] at found
      have written : write (.number (.float number)) = asciiOf number.write := rfl
      rw [starts, List.cons_append] at found
      rw [written, starts, List.cons_append, readValueWith_digit readBracketed leads, found,
        Except.map]
  | true =>
      have text : IsScaled number.neg.write := isScaled_write (by simp [Binary64.neg, sign])
      obtain ⟨digits, exponent, ⟨magnitude, scaled⟩, reads⟩ := text.scaled
      have written : write (.number (.float number)) = 0x2D :: asciiOf number.neg.write := by
        rw [write, Numeral.write, Binary64.write_negative sign]
        rfl
      refine ⟨{ magnitude with negative := true }, ⟨_, _, written, by decide, by decide⟩,
        fun rest ends => ?_⟩
      have found := reads true rest ends
      rw [floatOf_some scaled] at found
      rw [written, List.cons_append, readValueWith_minus, found, Except.map]

end BrokerClient.Json
