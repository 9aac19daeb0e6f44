import BrokerClient.Proofs.Json.Numerals

/-!
# Numerals with many digits

A row of digits denotes a number, of which a reader takes the leading digits that fit 64 bits.  If
all of them fit, the reader goes on with their number; if some are left, or if a fraction or an
exponent follows, what is read is a floating-point number, whatever it is rounded to.
-/

namespace BrokerClient.Json

/-- The number that a row of digits denotes behind the digits of another number. -/
def digitsValue (start : Nat) (digits : List UInt8) : Nat :=
  digits.foldl (fun value octet => value * 10 + digitValue octet) start

/-- A row of digits denotes what its end denotes behind its beginning. -/
theorem digitsValue_append
    (start : Nat)
    (front back : List UInt8) :
    digitsValue start (front ++ back) = digitsValue (digitsValue start front) back :=
  List.foldl_append

/-- The octet of a digit's value is the digit. -/
theorem digitOctet_digitValue
    {octet : UInt8}
    (digit : isDigit octet = true) :
    digitValue octet < 10 ∧ digitOctet (digitValue octet) = octet := by
  simp only [isDigit, Bool.and_eq_true, decide_eq_true_eq, UInt8.le_iff_toNat_le,
    UInt8.toNat_ofNat] at digit
  have checked :
      ∀ code < 0x3A, 0x30 ≤ code →
        digitValue (UInt8.ofNat code) < 10 ∧
          digitOctet (digitValue (UInt8.ofNat code)) = UInt8.ofNat code := by
    decide
  have found := checked octet.toNat (by omega) digit.1
  rwa [UInt8.ofNat_toNat] at found

/-- Digits only add to the number before them. -/
theorem le_digitsValue (start : Nat) (digits : List UInt8) :
    start ≤ digitsValue start digits := by
  induction digits generalizing start with
  | nil => exact Nat.le_refl start
  | cons digit digits inductionHypothesis =>
      have behind := inductionHypothesis (start * 10 + digitValue digit)
      have grows : start ≤ start * 10 + digitValue digit := by omega
      exact Nat.le_trans grows behind

/-- The digits of a number denote it. -/
theorem digitsValue_decimal (value : Nat) : digitsValue 0 (decimal value) = value := by
  induction value using Decimal.induction_along_digits with
  | digit digit small =>
      rw [decimal_digit small]
      simp [digitsValue, (digitOctet_reads small).2]
  | behind value digit positive small inductionHypothesis =>
      rw [decimal_behind positive small, digitsValue_append, inductionHypothesis]
      simp [digitsValue, (digitOctet_reads small).2]

/-- The digits of a number are digits. -/
theorem digits_decimal (value : Nat) : Digits (decimal value) := by
  induction value using Decimal.induction_along_digits with
  | digit digit small =>
      rw [decimal_digit small]
      simp [Digits, (digitOctet_reads small).1]
  | behind value digit positive small inductionHypothesis =>
      rw [decimal_behind positive small]
      intro octet inside
      rw [List.mem_append, List.mem_singleton] at inside
      rcases inside with before | rfl
      · exact inductionHypothesis octet before
      · exact (digitOctet_reads small).1

/-- Behind a number that fits, digits are taken as long as it fits, and some are left if it does
not. -/
theorem readSignificand_digits
    {digits rest : List UInt8}
    (areDigits : Digits digits)
    (stops : NoDigit rest)
    {start : Nat}
    (fits : start ≤ largestUnsigned) :
    ∃ taken left,
      digits = taken ++ left ∧
        readSignificand start (digits ++ rest) = (digitsValue start taken, left ++ rest) ∧
          (left = [] ↔ digitsValue start digits ≤ largestUnsigned) := by
  induction digits generalizing start with
  | nil => exact ⟨[], [], rfl, readSignificand_stop stops start, iff_of_true rfl fits⟩
  | cons digit digits inductionHypothesis =>
      obtain ⟨isDigit, others⟩ := List.forall_mem_cons.mp areDigits
      by_cases nextFits : start * 10 + digitValue digit ≤ largestUnsigned
      · obtain ⟨taken, left, split, reads, full⟩ := inductionHypothesis others nextFits
        refine ⟨digit :: taken, left, by rw [split, List.cons_append], ?_, full⟩
        simp only [List.cons_append, readSignificand, isDigit, nextFits, and_self, if_true, reads]
        rfl
      · refine ⟨[], digit :: digits, rfl, ?_, iff_of_false (List.cons_ne_nil _ _) ?_⟩
        · simp only [List.cons_append, readSignificand, isDigit, nextFits, and_false, if_false]
          rfl
        · have behind := le_digitsValue (start * 10 + digitValue digit) digits
          exact fun allFit => nextFits (Nat.le_trans behind allFit)

/-- Digits whose number fits are all taken. -/
theorem readSignificand_fitting
    {digits rest : List UInt8}
    (areDigits : Digits digits)
    (stops : NoDigit rest)
    {start : Nat}
    (fits : digitsValue start digits ≤ largestUnsigned) :
    readSignificand start (digits ++ rest) = (digitsValue start digits, rest) := by
  have startFits : start ≤ largestUnsigned := Nat.le_trans (le_digitsValue start digits) fits
  obtain ⟨taken, left, split, reads, full⟩ := readSignificand_digits areDigits stops startFits
  obtain rfl := full.mpr fits
  rw [List.append_nil] at split
  subst split
  exact reads

/-- As many digits are counted as stand in front. -/
theorem digitCount_digits
    {digits rest : List UInt8}
    (areDigits : Digits digits)
    (stops : NoDigit rest) :
    digitCount (digits ++ rest) = digits.length := by
  rw [digitCount, List.takeWhile_append_of_pos areDigits]
  cases rest with
  | nil => simp
  | cons octet rest => simp [stops octet rfl]

/-- Two numbers with the same digits are one. -/
theorem decimal_injective
    {value other : Nat}
    (same : decimal value = decimal other) :
    value = other := by
  rw [← digitsValue_decimal value, same, digitsValue_decimal]

/-- The digits of a number have no superfluous zero in front. -/
theorem whole_decimal (value : Nat) : Whole (decimal value) := by
  cases Nat.eq_zero_or_pos value with
  | inl zero =>
      subst zero
      exact .zero
  | inr positive =>
      obtain ⟨first, others, written, notZero, small⟩ := decimal_of_pos positive
      obtain ⟨leads, isValue⟩ := digitOctet_reads small
      have areDigits := digits_decimal value
      rw [written] at areDigits ⊢
      refine .positive leads ?_ fun octet inside => areDigits octet (List.mem_cons_of_mem _ inside)
      intro same
      rw [same] at isValue
      have isZero : digitValue 0x30 = 0 := by decide
      omega

/-! ## Numerals that are no whole numbers -/

/-- A reader found a floating-point number, or nothing. -/
def FloatAtMost (found : Except Failure (Numeral × List UInt8)) : Prop :=
  ∀ numeral rest, found = .ok (numeral, rest) → ∃ value, numeral = .float value

/-- Digits with a power of ten are scaled, if what they denote is in range. -/
theorem floatOf_def :
    @floatOf = fun negative significand exponent rest =>
      match (Binary64.ofNat? significand).bind fun leading => scale? leading exponent with
      | some magnitude => .ok (.float { magnitude with negative := negative }, rest)
      | none => .error (.consumed .numberOutOfRange rest) := by
  -- Applied to digits that are not known, the match would be unfolded down to its powers of two.
  delta floatOf
  rfl

section

variable {negative : Bool} {significand : Nat} {exponent : Int}

/-- Digits with a power of ten are read as the number that they are scaled to. -/
theorem floatOf_some
    {magnitude : Binary64}
    (scaled :
      ((Binary64.ofNat? significand).bind fun leading => scale? leading exponent) =
        some magnitude)
    (rest : List UInt8) :
    floatOf negative significand exponent rest =
      .ok (.float { magnitude with negative := negative }, rest) := by
  rw [floatOf_def]
  simp only [scaled]

/-- Digits with a power of ten are refused if the number that they denote is out of range. -/
theorem floatOf_none
    (scaled : ((Binary64.ofNat? significand).bind fun leading => scale? leading exponent) = none)
    (rest : List UInt8) :
    floatOf negative significand exponent rest = .error (.consumed .numberOutOfRange rest) := by
  rw [floatOf_def]
  simp only [scaled]

end

/-- Digits with a power of ten are no whole number. -/
theorem floatAtMost_floatOf
    (negative : Bool)
    (significand : Nat)
    (exponent : Int)
    (rest : List UInt8) :
    FloatAtMost (floatOf negative significand exponent rest) := by
  intro numeral behind found
  cases scaled : (Binary64.ofNat? significand).bind fun leading => scale? leading exponent with
  | none =>
      rw [floatOf_none scaled] at found
      contradiction
  | some magnitude =>
      rw [floatOf_some scaled, Except.ok.injEq, Prod.mk.injEq] at found
      exact ⟨_, found.1.symm⟩

/-- What has an exponent is no whole number. -/
theorem floatAtMost_readExponent
    (negative : Bool)
    (significand : Nat)
    (shift : Int)
    (octets : List UInt8) :
    FloatAtMost (readExponent negative significand shift octets) := by
  unfold readExponent
  dsimp only
  split
  · intro numeral rest found
    contradiction
  · split
    · split
      · exact floatAtMost_floatOf negative significand _ _
      · split
        · intro numeral rest found
          contradiction
        · intro numeral rest found
          simp only [Except.ok.injEq, Prod.mk.injEq] at found
          exact ⟨_, found.1.symm⟩
    · intro numeral rest found
      contradiction

/-- What has a fraction is no whole number. -/
theorem floatAtMost_readFraction
    (negative : Bool)
    (significand dropped : Nat)
    (octets : List UInt8) :
    FloatAtMost (readFraction negative significand dropped octets) := by
  unfold readFraction
  split
  · intro numeral rest found
    contradiction
  · split
    · dsimp only
      unfold readOptionalExponent
      split
      · exact floatAtMost_floatOf negative _ _ _
      · split
        · exact floatAtMost_readExponent negative _ _ _
        · exact floatAtMost_floatOf negative _ _ _
    · intro numeral rest found
      contradiction

/-- What has digits that do not fit, a fraction or an exponent is no whole number. -/
theorem floatAtMost_readBehindWhole
    (negative : Bool)
    (significand : Nat)
    {dropped : Nat}
    {rest : List UInt8}
    (notWhole :
      dropped ≠ 0 ∨ ∃ octet ∈ rest.head?, octet = 0x2E ∨ isExponentMark octet = true) :
    FloatAtMost (readBehindWhole negative significand dropped rest) := by
  cases rest with
  | nil =>
      have some : dropped ≠ 0 := by simpa using notWhole
      simp only [readBehindWhole, some, if_false]
      exact floatAtMost_floatOf negative significand _ _
  | cons octet rest =>
      simp only [readBehindWhole]
      split
      · exact floatAtMost_readFraction negative significand dropped rest
      · split
        · exact floatAtMost_readExponent negative significand _ rest
        · next noPoint noMark =>
            have some : dropped ≠ 0 := by simpa [noPoint, noMark] using notWhole
            simp only [some, if_false]
            exact floatAtMost_floatOf negative significand _ _

/-! ## Whole digits -/

/-- Behind the whole digits, no digit goes on. -/
theorem Fraction.noDigit
    {fraction exponent rest : List UInt8}
    (isFraction : Fraction fraction)
    (isExponent : Exponent exponent)
    (ends : EndsNumeral rest) :
    NoDigit (fraction ++ (exponent ++ rest)) := by
  cases isFraction with
  | absent => exact isExponent.noDigit ends
  | digits leads digits =>
      intro octet isHead
      simp only [List.cons_append, List.head?_cons, Option.mem_some_iff] at isHead
      subst isHead
      decide

/-- The digits of a number behind the first one go on from its value. -/
theorem digitsValue_cons (first : UInt8) (others : List UInt8) :
    digitsValue 0 (first :: others) = digitsValue (digitValue first) others := by
  simp [digitsValue]

/-- Whole digits are read as their number, and some of them are dropped if it does not fit. -/
theorem readNumeral_whole
    {whole behind : List UInt8}
    (isWhole : Whole whole)
    (stops : NoDigit behind)
    (negative : Bool) :
    ∃ significand dropped,
      readNumeral negative (whole ++ behind) =
          readBehindWhole negative significand dropped behind ∧
        (dropped = 0 → significand = digitsValue 0 whole) ∧
          (dropped = 0 ↔ digitsValue 0 whole ≤ largestUnsigned) := by
  cases isWhole with
  | zero =>
      refine ⟨0, 0, ?_, fun _ => rfl, iff_of_true rfl (Nat.zero_le _)⟩
      cases behind with
      | nil => rfl
      | cons next others => simp [readNumeral, stops next rfl]
  | @positive first others leads notZero areDigits =>
      have nine : 9 ≤ largestUnsigned := by decide
      have small := (digitOctet_digitValue leads).1
      obtain ⟨taken, left, rfl, reads, full⟩ :=
        readSignificand_digits areDigits stops (by omega : digitValue first ≤ largestUnsigned)
      have leftDigits : Digits left := fun octet inside =>
        areDigits octet (List.mem_append_right taken inside)
      refine ⟨digitsValue (digitValue first) taken, left.length, ?_, fun none => ?_, ?_⟩
      · simp only [List.cons_append, readNumeral, notZero, if_false, leads, if_true, reads,
          digitCount_digits leftDigits stops, dropWhile_digits leftDigits stops]
      · rw [digitsValue_cons, List.length_eq_zero_iff.mp none, List.append_nil]
      · rw [digitsValue_cons, List.length_eq_zero_iff]
        exact full

/-- Digits behind a positive number make up its digits and themselves. -/
theorem decimal_digitsValue
    {start : Nat}
    (positive : 0 < start)
    {digits : List UInt8}
    (areDigits : Digits digits) :
    decimal (digitsValue start digits) = decimal start ++ digits := by
  induction digits generalizing start with
  | nil => simp [digitsValue]
  | cons digit digits inductionHypothesis =>
      obtain ⟨isDigit, others⟩ := List.forall_mem_cons.mp areDigits
      obtain ⟨small, same⟩ := digitOctet_digitValue isDigit
      have whole := inductionHypothesis (by omega : 0 < start * 10 + digitValue digit) others
      rw [decimal_behind positive small, same, List.append_assoc] at whole
      exact whole

/-- Whole digits are those of their number. -/
theorem Whole.eq_decimal
    {whole : List UInt8}
    (isWhole : Whole whole) :
    whole = decimal (digitsValue 0 whole) := by
  cases isWhole with
  | zero => decide
  | @positive first others leads notZero areDigits =>
      obtain ⟨small, same⟩ := digitOctet_digitValue leads
      have positive : 0 < digitValue first := by
        refine Nat.pos_of_ne_zero fun isZero => notZero ?_
        rw [← same, isZero]
        decide
      rw [digitsValue_cons, decimal_digitsValue positive areDigits, decimal_digit small, same,
        List.singleton_append]

/-- A whole number that is read behind its digits is the one that they make up, for none of them
are dropped and neither a fraction nor an exponent follows. -/
theorem whole_of_readBehindWhole
    {negative : Bool}
    {significand dropped : Nat}
    {octets rest : List UInt8}
    {value : Int}
    (reads : readBehindWhole negative significand dropped octets = .ok (.integer value, rest)) :
    dropped = 0 ∧
      (∀ octet ∈ octets.head?, octet ≠ 0x2E ∧ isExponentMark octet = false) ∧
        wholeNumeral negative significand = .integer value := by
  have whole :
      ¬ (dropped ≠ 0 ∨ ∃ octet ∈ octets.head?, octet = 0x2E ∨ isExponentMark octet = true) := by
    intro notWhole
    obtain ⟨number, isFloat⟩ :=
      floatAtMost_readBehindWhole negative significand notWhole _ _ reads
    contradiction
  simp only [not_or, not_exists, not_and, Decidable.not_not, Bool.not_eq_true] at whole
  obtain ⟨rfl, plain⟩ := whole
  refine ⟨rfl, plain, ?_⟩
  cases octets with
  | nil =>
      simp only [readBehindWhole, if_true, Except.ok.injEq, Prod.mk.injEq] at reads
      exact reads.1
  | cons octet octets =>
      obtain ⟨noPoint, noMark⟩ := plain octet rfl
      simp only [readBehindWhole, noPoint, noMark, if_false, if_true, Bool.false_eq_true,
        Except.ok.injEq, Prod.mk.injEq] at reads
      exact reads.1

/-- An unsigned numeral that is read as a whole number is that number in decimal. -/
theorem eq_decimal_of_readNumeral
    {numeral rest behind : List UInt8}
    (unsigned : Unsigned numeral)
    (ends : EndsNumeral rest)
    {value : Int}
    (reads : readNumeral false (numeral ++ rest) = .ok (.integer value, behind)) :
    ∃ number ≤ largestUnsigned, numeral = decimal number ∧ value = number := by
  cases unsigned with
  | @parts whole fraction exponent isWhole isFraction isExponent =>
      obtain ⟨significand, dropped, same, all, full⟩ :=
        readNumeral_whole isWhole (isFraction.noDigit isExponent ends) false
      rw [List.append_assoc, List.append_assoc, same] at reads
      obtain ⟨none, plain, isValue⟩ := whole_of_readBehindWhole reads
      have noFraction : fraction = [] := by
        cases isFraction with
        | absent => rfl
        | digits leads digits => exact absurd rfl (plain 0x2E rfl).1
      subst noFraction
      have noExponent : exponent = [] := by
        cases isExponent with
        | absent => rfl
        | digits marks signed leads digits =>
            rw [(plain _ rfl).2] at marks
            contradiction
      subst noExponent
      rw [all none] at isValue
      refine ⟨digitsValue 0 whole, full.mp none, ?_, ?_⟩
      · rw [List.append_nil, List.append_nil]
        exact isWhole.eq_decimal
      · exact (Numeral.integer.inj isValue).symm

/-- Behind a minus sign no whole number stands but a negative one. -/
theorem negative_of_wholeNumeral
    {significand : Nat}
    {value : Int}
    (isWhole : wholeNumeral true significand = .integer value) :
    value < 0 := by
  unfold wholeNumeral at isWhole
  rw [if_neg (by decide)] at isWhole
  split at isWhole
  · next inRange =>
      rw [Numeral.integer.injEq] at isWhole
      omega
  · cases rounded : Binary64.ofNat? significand with
    | some magnitude =>
        simp only [rounded, reduceCtorEq] at isWhole
    | none =>
        have positive : significand ≠ 0 := by
          intro isZero
          rw [isZero] at rounded
          have isSome : (Binary64.ofNat? 0).isSome = true := by decide +kernel
          rw [rounded] at isSome
          exact Bool.false_ne_true isSome
        simp only [rounded, Numeral.integer.injEq] at isWhole
        omega

/-- Behind a minus sign no whole number is read but a negative one. -/
theorem negative_of_readNumeral
    {octets rest : List UInt8}
    {value : Int}
    (reads : readNumeral true octets = .ok (.integer value, rest)) :
    value < 0 := by
  have negative {significand dropped : Nat} {behind : List UInt8}
      (reads : readBehindWhole true significand dropped behind = .ok (.integer value, rest)) :
      value < 0 :=
    negative_of_wholeNumeral (whole_of_readBehindWhole reads).2.2
  cases octets with
  | nil => contradiction
  | cons octet octets =>
      simp only [readNumeral] at reads
      split at reads
      · cases octets with
        | nil => exact negative reads
        | cons next others =>
            simp only at reads
            split at reads
            · contradiction
            · exact negative reads
      · split at reads
        · exact negative reads
        · contradiction

/-! ## Values that are numbers -/

/-- What starts with a digit is read as a number. -/
theorem readValueWith_digit
    (readBracketed : UInt8 → Reader Json)
    {first : UInt8}
    (leads : isDigit first = true)
    (others : List UInt8) :
    readValueWith readBracketed (first :: others) =
      (readNumeral false (first :: others)).map fun found => (.number found.1, found.2) := by
  have noNull : first ≠ 0x6E := digit_ne leads (by decide)
  have noTrue : first ≠ 0x74 := digit_ne leads (by decide)
  have noFalse : first ≠ 0x66 := digit_ne leads (by decide)
  have noMinus : first ≠ 0x2D := digit_ne leads (by decide)
  rw [readValueWith, skipBlanks_cons (digit_solid leads)]
  simp only [noNull, noTrue, noFalse, noMinus, leads, if_false, if_true, bind, Except.bind,
    Except.map]

/-- What starts with a minus sign is read as a number. -/
theorem readValueWith_minus (readBracketed : UInt8 → Reader Json) (octets : List UInt8) :
    readValueWith readBracketed (0x2D :: octets) =
      (readNumeral true octets).map fun found => (.number found.1, found.2) := by
  have minusSolid : isBlank 0x2D = false := by decide
  rw [readValueWith, skipBlanks_cons minusSolid]
  rfl

end BrokerClient.Json
