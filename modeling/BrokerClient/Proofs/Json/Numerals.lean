import BrokerClient.Json.Reader.Typed
import BrokerClient.Json.Writer
import BrokerClient.Proofs.Decimals
import BrokerClient.Proofs.Json.Spelling

/-!
# Numerals

A numeral has whole digits without a superfluous zero in front, and possibly a sign, a fraction and
an exponent.  It ends where none of these can go on, so what follows it decides with it what is
read.  Any numeral can be passed over; one that is an unsigned number in decimal is read as that
number.
-/

namespace BrokerClient.Json

/-- Digits, possibly none. -/
def Digits (octets : List UInt8) : Prop :=
  ∀ octet ∈ octets, isDigit octet = true

/-- No digit stands in front. -/
def NoDigit (rest : List UInt8) : Prop :=
  ∀ octet ∈ rest.head?, isDigit octet = false

/-- No numeral goes on in front. -/
def EndsNumeral (rest : List UInt8) : Prop :=
  ∀ octet ∈ rest.head?, isDigit octet = false ∧ octet ≠ 0x2E ∧ isExponentMark octet = false

/-- The digits of a whole number: a zero stands alone. -/
inductive Whole : List UInt8 → Prop where
  | zero : Whole [0x30]
  | positive
      {first : UInt8}
      {others : List UInt8}
      (leads : isDigit first = true)
      (notZero : first ≠ 0x30)
      (digits : Digits others) :
      Whole (first :: others)

/-- What may stand behind the whole digits: nothing, or a point and digits. -/
inductive Fraction : List UInt8 → Prop where
  | absent : Fraction []
  | digits
      {first : UInt8}
      {others : List UInt8}
      (leads : isDigit first = true)
      (digits : Digits others) :
      Fraction (0x2E :: first :: others)

/-- What may stand behind the fraction: nothing, or a mark, possibly a sign, and digits. -/
inductive Exponent : List UInt8 → Prop where
  | absent : Exponent []
  | digits
      {mark first : UInt8}
      {sign others : List UInt8}
      (marks : isExponentMark mark = true)
      (signed : sign ∈ [[], [0x2B], [0x2D]])
      (leads : isDigit first = true)
      (digits : Digits others) :
      Exponent (mark :: (sign ++ first :: others))

/-- A numeral behind its sign. -/
inductive Unsigned : List UInt8 → Prop where
  | parts
      {whole fraction exponent : List UInt8}
      (isWhole : Whole whole)
      (isFraction : Fraction fraction)
      (isExponent : Exponent exponent) :
      Unsigned (whole ++ (fraction ++ exponent))

/-! ## Where digits end -/

/-- All digits in front are passed over, and nothing behind them. -/
theorem dropWhile_digits
    {digits rest : List UInt8}
    (areDigits : Digits digits)
    (stops : NoDigit rest) :
    (digits ++ rest).dropWhile isDigit = rest := by
  rw [List.dropWhile_append_of_pos areDigits]
  cases rest with
  | nil => rfl
  | cons octet rest => simp [stops octet rfl]

/-- A numeral that ends has no digit in front. -/
theorem EndsNumeral.noDigit
    {rest : List UInt8}
    (ends : EndsNumeral rest) :
    NoDigit rest := by
  intro octet isHead
  exact (ends octet isHead).1

/-- A mark of an exponent is neither a digit nor a point. -/
theorem mark_noDigit
    {mark : UInt8}
    (marks : isExponentMark mark = true) :
    isDigit mark = false ∧ mark ≠ 0x2E := by
  simp only [isExponentMark, Bool.or_eq_true, decide_eq_true_eq] at marks
  cases marks with
  | inl small => subst small; decide
  | inr capital => subst capital; decide

/-- A digit is another octet than one that is no digit. -/
theorem digit_ne
    {octet other : UInt8}
    (digit : isDigit octet = true)
    (noDigit : isDigit other = false) :
    octet ≠ other := by
  intro same
  rw [same, noDigit] at digit
  contradiction

/-- A digit is not blank. -/
theorem digit_solid
    {octet : UInt8}
    (digit : isDigit octet = true) :
    isBlank octet = false := by
  simp only [isBlank, Bool.or_eq_false_iff, decide_eq_false_iff_not]
  exact ⟨⟨⟨digit_ne digit (by decide), digit_ne digit (by decide)⟩, digit_ne digit (by decide)⟩,
    digit_ne digit (by decide)⟩

/-- Behind an exponent, or where there is none, no digit goes on. -/
theorem Exponent.noDigit
    {exponent rest : List UInt8}
    (isExponent : Exponent exponent)
    (ends : EndsNumeral rest) :
    NoDigit (exponent ++ rest) := by
  cases isExponent with
  | absent => exact ends.noDigit
  | digits marks signed leads digits =>
      intro octet isHead
      simp only [List.cons_append, List.head?_cons, Option.mem_some_iff] at isHead
      subst isHead
      exact (mark_noDigit marks).1

/-! ## Passing over a numeral -/

/-- The sign of an exponent is taken, and no digit behind it. -/
theorem readExponentSign_of_mem
    {sign : List UInt8}
    (signed : sign ∈ [[], [0x2B], [0x2D]])
    {first : UInt8}
    (leads : isDigit first = true)
    (rest : List UInt8) :
    (readExponentSign (sign ++ first :: rest)).2 = first :: rest := by
  have noMinus : first ≠ 0x2D := digit_ne leads (by decide)
  have noPlus : first ≠ 0x2B := digit_ne leads (by decide)
  simp only [List.mem_cons, List.not_mem_nil, or_false] at signed
  rcases signed with none | plus | minus
  · subst none
    simp [readExponentSign, noMinus, noPlus]
  · subst plus
    rfl
  · subst minus
    rfl

/-- An exponent is passed over. -/
theorem skipOptionalExponent_of_exponent
    {exponent rest : List UInt8}
    (isExponent : Exponent exponent)
    (ends : EndsNumeral rest) :
    skipOptionalExponent (exponent ++ rest) = .ok ((), rest) := by
  cases isExponent with
  | absent =>
      cases rest with
      | nil => rfl
      | cons octet rest => simp [skipOptionalExponent, (ends octet rfl).2.2]
  | @digits mark first sign others marks signed leads digits =>
      have behind := dropWhile_digits digits ends.noDigit
      simp only [List.cons_append, List.append_assoc, skipOptionalExponent, marks, if_true,
        skipExponent, readExponentSign_of_mem signed leads, leads, behind]

/-- A fraction and an exponent are passed over. -/
theorem skipBehindWhole_of_parts
    {fraction exponent rest : List UInt8}
    (isFraction : Fraction fraction)
    (isExponent : Exponent exponent)
    (ends : EndsNumeral rest) :
    skipBehindWhole (fraction ++ (exponent ++ rest)) = .ok ((), rest) := by
  have skips := skipOptionalExponent_of_exponent isExponent ends
  cases isFraction with
  | absent =>
      rw [List.nil_append]
      cases behind : exponent ++ rest with
      | nil =>
          rw [behind] at skips
          exact skips
      | cons octet others =>
          have noPoint : octet ≠ 0x2E := by
            cases isExponent with
            | absent =>
                rw [List.nil_append] at behind
                subst behind
                exact (ends octet rfl).2.1
            | digits marks signed leads digits =>
                rw [List.cons_append, List.cons.injEq] at behind
                rw [← behind.1]
                exact (mark_noDigit marks).2
          rw [behind] at skips
          simp only [skipBehindWhole, noPoint, if_false, skips]
  | @digits first others leads digits =>
      have stops := isExponent.noDigit ends
      have counted : digitCount (first :: (others ++ (exponent ++ rest))) ≠ 0 := by
        simp [digitCount, leads]
      have allDigits : Digits (first :: others) := by
        intro octet inside
        cases inside with
        | head => exact leads
        | tail _ later => exact digits octet later
      have behind := dropWhile_digits allDigits stops
      rw [List.cons_append] at behind
      simp only [List.cons_append, skipBehindWhole, if_true, counted, if_false, behind, skips]

/-- A numeral is passed over. -/
theorem skipNumeral_of_unsigned
    {numeral rest : List UInt8}
    (unsigned : Unsigned numeral)
    (ends : EndsNumeral rest) :
    skipNumeral (numeral ++ rest) = .ok ((), rest) := by
  cases unsigned with
  | @parts whole fraction exponent isWhole isFraction isExponent =>
      have skips := skipBehindWhole_of_parts isFraction isExponent ends
      have stops : NoDigit (fraction ++ (exponent ++ rest)) := by
        cases isFraction with
        | absent => exact isExponent.noDigit ends
        | digits leads digits =>
            intro octet isHead
            simp only [List.cons_append, List.head?_cons, Option.mem_some_iff] at isHead
            subst isHead
            decide
      rw [List.append_assoc, List.append_assoc]
      cases isWhole with
      | zero =>
          simp only [List.cons_append, List.nil_append, skipNumeral, if_true]
          cases behind : fraction ++ (exponent ++ rest) with
          | nil =>
              rw [behind] at skips
              exact skips
          | cons next others =>
              rw [behind] at skips stops
              simp [stops next rfl, skips]
      | positive leads notZero digits =>
          rw [List.cons_append]
          simp only [skipNumeral, notZero, if_false, leads, if_true,
            dropWhile_digits digits stops, skips]

/-! ## Reading an unsigned number -/

/-- The octets of a number in decimal. -/
def decimal (value : Nat) : List UInt8 :=
  asciiOf (Decimal.write value)

/-- The octet of a digit. -/
def digitOctet (digit : Nat) : UInt8 :=
  UInt8.ofNat (Nat.digitChar digit).toNat

/-- The octet of a digit is read as that digit. -/
theorem digitOctet_reads
    {digit : Nat}
    (small : digit < 10) :
    isDigit (digitOctet digit) = true ∧ digitValue (digitOctet digit) = digit := by
  have checked :
      ∀ digit < 10,
        isDigit (digitOctet digit) = true ∧ digitValue (digitOctet digit) = digit := by
    decide
  exact checked digit small

/-- A digit is written as its octet. -/
theorem decimal_digit
    {digit : Nat}
    (small : digit < 10) :
    decimal digit = [digitOctet digit] := by
  rw [decimal, Decimal.write_digit small]
  rfl

/-- A digit behind a number is written behind its octets. -/
theorem decimal_behind
    {value digit : Nat}
    (positive : 0 < value)
    (small : digit < 10) :
    decimal (value * 10 + digit) = decimal value ++ [digitOctet digit] := by
  rw [decimal, Decimal.write_behind positive small]
  simp [decimal, asciiOf, digitOctet]

/-- A digit of a number in decimal takes its place behind the digits before it. -/
theorem readSignificand_digit
    {value digit : Nat}
    (small : digit < 10)
    (inRange : value * 10 + digit ≤ largestUnsigned)
    (rest : List UInt8) :
    readSignificand value (digitOctet digit :: rest) =
      readSignificand (value * 10 + digit) rest := by
  obtain ⟨isDigit, isValue⟩ := digitOctet_reads small
  simp [readSignificand, isDigit, isValue, inRange]

/-- Digits are taken in as their number, whatever follows them. -/
theorem readSignificand_decimal
    {value : Nat}
    (inRange : value ≤ largestUnsigned)
    (rest : List UInt8) :
    readSignificand 0 (decimal value ++ rest) = readSignificand value rest := by
  induction value using Decimal.induction_along_digits generalizing rest with
  | digit digit small =>
      have firstInRange : 0 * 10 + digit ≤ largestUnsigned := by omega
      have taken := readSignificand_digit small firstInRange rest
      rw [decimal_digit small, List.singleton_append, taken, Nat.zero_mul, Nat.zero_add]
  | behind value digit positive small inductionHypothesis =>
      rw [decimal_behind positive small, List.append_assoc, inductionHypothesis (by omega)]
      exact readSignificand_digit small inRange rest

/-- Digits end where no digit stands. -/
theorem readSignificand_stop
    {rest : List UInt8}
    (stops : NoDigit rest)
    (value : Nat) :
    readSignificand value rest = (value, rest) := by
  cases rest with
  | nil => rfl
  | cons octet rest => simp [readSignificand, stops octet rfl]

/-- Behind a number without fraction and exponent nothing else is read. -/
theorem readBehindWhole_stop
    {rest : List UInt8}
    (ends : EndsNumeral rest)
    (negative : Bool)
    (value : Nat) :
    readBehindWhole negative value 0 rest = .ok (wholeNumeral negative value, rest) := by
  cases rest with
  | nil => simp [readBehindWhole]
  | cons octet rest =>
      obtain ⟨-, noPoint, noMark⟩ := ends octet rfl
      simp [readBehindWhole, noPoint, noMark]

/-- A positive number starts with another digit than zero. -/
theorem decimal_of_pos
    {value : Nat}
    (positive : 0 < value) :
    ∃ first others, decimal value = digitOctet first :: others ∧ 0 < first ∧ first < 10 := by
  obtain ⟨first, others, written, notZero, small⟩ := Decimal.write_of_pos positive
  refine ⟨first, asciiOf others, ?_, notZero, small⟩
  rw [decimal, written]
  rfl

/-- A number in decimal is read behind its sign, up to where no numeral goes on. -/
theorem readNumeral_signed
    {value : Nat}
    (inRange : value ≤ largestUnsigned)
    {rest : List UInt8}
    (ends : EndsNumeral rest)
    (negative : Bool) :
    readNumeral negative (decimal value ++ rest) = .ok (wholeNumeral negative value, rest) := by
  have stops := ends.noDigit
  cases Nat.eq_zero_or_pos value with
  | inl zero =>
      subst zero
      have behind := readBehindWhole_stop ends negative 0
      have shape : decimal 0 = [0x30] := by decide
      rw [shape]
      cases rest with
      | nil => exact behind
      | cons next others =>
          simp only [List.cons_append, List.nil_append, readNumeral, if_true, stops next rfl]
          exact behind
  | inr positive =>
      obtain ⟨first, others, written, notZero, small⟩ := decimal_of_pos positive
      obtain ⟨leads, isValue⟩ := digitOctet_reads small
      have notZeroOctet : digitOctet first ≠ 0x30 := by
        intro same
        rw [same] at isValue
        have isZero : digitValue 0x30 = 0 := by decide
        omega
      have taken : readSignificand first (others ++ rest) = (value, rest) := by
        have whole := readSignificand_decimal inRange rest
        have firstInRange : 0 * 10 + first ≤ largestUnsigned := by
          have nine : 9 ≤ largestUnsigned := by decide
          omega
        rw [written, List.cons_append, readSignificand_digit small firstInRange,
          readSignificand_stop stops] at whole
        simpa using whole
      have none : digitCount rest = 0 := by
        cases rest with
        | nil => rfl
        | cons octet rest => simp [digitCount, stops octet rfl]
      have nothing : rest.dropWhile isDigit = rest := by
        cases rest with
        | nil => rfl
        | cons octet rest => simp [stops octet rfl]
      rw [written, List.cons_append]
      simp only [readNumeral, notZeroOctet, if_false, leads, if_true, isValue, taken, none,
        nothing]
      exact readBehindWhole_stop ends negative value

/-- A number in decimal is read as that number, up to where no numeral goes on. -/
theorem readNumeral_decimal
    {value : Nat}
    (inRange : value ≤ largestUnsigned)
    {rest : List UInt8}
    (ends : EndsNumeral rest) :
    readNumeral false (decimal value ++ rest) = .ok (.integer value, rest) :=
  readNumeral_signed inRange ends false

/-- A number in decimal is read behind a minus sign as the negative number, down to the least. -/
theorem readNumeral_negative
    {value : Nat}
    (positive : 0 < value)
    (inRange : value ≤ leastSigned)
    {rest : List UInt8}
    (ends : EndsNumeral rest) :
    readNumeral true (decimal value ++ rest) = .ok (.integer (-(value : Int)), rest) := by
  have narrow : leastSigned ≤ largestUnsigned := by decide
  have whole : wholeNumeral true value = .integer (-(value : Int)) := by
    simp [wholeNumeral, positive, inRange]
  rw [readNumeral_signed (Nat.le_trans inRange narrow) ends, whole]

/-- A number in decimal starts with a digit. -/
theorem decimal_leads (value : Nat) :
    ∃ first others, decimal value = first :: others ∧ isDigit first = true := by
  cases Nat.eq_zero_or_pos value with
  | inl zero =>
      subst zero
      exact ⟨0x30, [], by decide, by decide⟩
  | inr positive =>
      obtain ⟨first, others, written, -, small⟩ := decimal_of_pos positive
      exact ⟨digitOctet first, others, written, (digitOctet_reads small).1⟩

/-- An unsigned number is read as that number, behind blanks and up to where no numeral goes on. -/
theorem readUnsigned_decimal
    {value limit : Nat}
    (inRange : value ≤ limit)
    (narrow : limit ≤ largestUnsigned)
    {blanks rest : List UInt8}
    (areBlank : Blanks blanks)
    (ends : EndsNumeral rest)
    (expected : String) :
    readUnsigned limit expected (blanks ++ (decimal value ++ rest)) = .ok (value, rest) := by
  have reads := readNumeral_decimal (by omega : value ≤ largestUnsigned) ends
  obtain ⟨first, others, written, leads⟩ := decimal_leads value
  have noMinus : first ≠ 0x2D := digit_ne leads (by decide)
  have asked : (0 : Int) ≤ (value : Int) ∧ (value : Int) ≤ (limit : Int) := by omega
  rw [written, List.cons_append] at reads ⊢
  simp only [readUnsigned, skipBlanks_append areBlank, skipBlanks_cons (digit_solid leads),
    noMinus, if_false, leads, if_true, reads, bind, Except.bind, asUnsigned, asked, and_self,
    Int.toNat_natCast]

end BrokerClient.Json
