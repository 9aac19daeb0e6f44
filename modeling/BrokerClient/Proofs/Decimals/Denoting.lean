import BrokerClient.Number.FloatText
import BrokerClient.Proofs.Decimals
import Mathlib.Data.List.TakeWhile

/-!
# Which texts are unsigned numbers

A text denotes a number if it has digits only, at least one of them, possibly behind a plus sign.
Reading takes exactly the texts that denote a number within the limit, whatever zeros stand in
front.  Blanks around such a text are trimmed and nothing else is.
-/

namespace BrokerClient

namespace Decimal

/-- A value with a digit put behind it. -/
def appendDigit (value : Nat) (digit : Char) : Nat :=
  value * 10 + (digit.toNat - 0x30)

/-- Characters denote a number: digits in a row, possibly behind a plus sign. -/
inductive Denotes : List Char → Nat → Prop where
  | plain
      {digits : List Char}
      (some : digits ≠ [])
      (areDigits : ∀ digit ∈ digits, digit.isDigit = true) :
      Denotes digits (FloatText.valueOf digits)
  | signed
      {digits : List Char}
      (some : digits ≠ [])
      (areDigits : ∀ digit ∈ digits, digit.isDigit = true) :
      Denotes ('+' :: digits) (FloatText.valueOf digits)

/-- The digits are those of ASCII. -/
theorem isDigit_iff {character : Char} :
    character.isDigit = true ↔ 0x30 ≤ character.toNat ∧ character.toNat ≤ 0x39 := by
  simp only [Char.isDigit, ge_iff_le, Bool.and_eq_true, decide_eq_true_eq,
    UInt32.le_iff_toNat_le, Char.toNat_val]
  exact Iff.rfl

/-- A digit is worth its distance from zero. -/
theorem digit?_eq_some_iff
    {character : Char}
    {value : Nat} :
    digit? character = some value ↔
      character.isDigit = true ∧ value = character.toNat - 0x30 := by
  unfold digit?
  split
  · next inRange => simp [isDigit_iff.mpr inRange, eq_comm]
  · next outOfRange => simp [mt isDigit_iff.mp outOfRange]

/-- Digits only add to what has been read. -/
theorem le_foldl_appendDigit (value : Nat) (digits : List Char) :
    value ≤ digits.foldl appendDigit value := by
  induction digits generalizing value with
  | nil => exact Nat.le_refl value
  | cons digit digits inductionHypothesis =>
      have behind := inductionHypothesis (appendDigit value digit)
      have grows : value ≤ appendDigit value digit := by
        unfold appendDigit
        omega
      exact Nat.le_trans grows behind

/-- Behind a value in range, exactly digits that keep it in range are read. -/
theorem readDigits_eq_ok_iff
    {limit start value : Nat}
    {characters : List Char}
    (inRange : start ≤ limit) :
    readDigits limit start characters = .ok value ↔
      (∀ character ∈ characters, character.isDigit = true) ∧
        characters.foldl appendDigit start = value ∧ value ≤ limit := by
  induction characters generalizing start with
  | nil =>
      simp only [readDigits, Except.ok.injEq, List.not_mem_nil, false_implies, implies_true,
        List.foldl_nil, true_and]
      omega
  | cons character rest inductionHypothesis =>
      cases found : digit? character with
      | none =>
          have noDigit : ¬ character.isDigit = true := fun isDigit => by
            rw [digit?_eq_some_iff.mpr ⟨isDigit, rfl⟩] at found
            contradiction
          simp [readDigits, found, noDigit]
      | some digit =>
          obtain ⟨isDigit, rfl⟩ := digit?_eq_some_iff.mp found
          simp only [readDigits, found, List.forall_mem_cons, isDigit, true_and, List.foldl_cons]
          split
          · next tooLarge =>
              have grows := le_foldl_appendDigit (appendDigit start character) rest
              unfold appendDigit at grows
              simp only [reduceCtorEq, false_iff, not_and]
              intro _ isValue
              unfold appendDigit at isValue
              omega
          · next fits => exact inductionHypothesis (Nat.not_lt.mp fits)

/-- A plus sign is no digit. -/
theorem not_digit_plus : ¬ '+'.isDigit = true := by decide

/-- Exactly the texts are read that denote a number within the limit, as that number. -/
theorem read_eq_ok_iff
    {limit value : Nat}
    {characters : List Char} :
    read limit characters = .ok value ↔ Denotes characters value ∧ value ≤ limit := by
  have reads (digits : List Char) :=
    @readDigits_eq_ok_iff limit 0 value digits (Nat.zero_le limit)
  unfold read
  split
  · constructor
    · intro impossible
      contradiction
    · rintro ⟨denotes, -⟩
      cases denotes with
      | plain some _ => exact absurd rfl some
  · constructor
    · intro impossible
      contradiction
    · rintro ⟨denotes, -⟩
      cases denotes with
      | plain _ areDigits => exact absurd (areDigits '+' (by simp)) not_digit_plus
      | signed some _ => exact absurd rfl some
  · next rest notEmpty =>
      rw [reads]
      constructor
      · rintro ⟨areDigits, rfl, inRange⟩
        exact ⟨.signed (by simpa using notEmpty) areDigits, inRange⟩
      · rintro ⟨denotes, inRange⟩
        cases denotes with
        | plain _ areDigits => exact absurd (areDigits '+' (by simp)) not_digit_plus
        | signed _ areDigits => exact ⟨areDigits, rfl, inRange⟩
  · next notEmpty noPlus noSign =>
      rw [reads]
      constructor
      · rintro ⟨areDigits, rfl, inRange⟩
        exact ⟨.plain (by simpa using notEmpty) areDigits, inRange⟩
      · rintro ⟨denotes, inRange⟩
        cases denotes with
        | plain _ areDigits => exact ⟨areDigits, rfl, inRange⟩
        | @signed digits _ _ => exact absurd rfl (noSign digits)

/-- What denotes a number has no blank in it. -/
theorem Denotes.solid
    {characters : List Char}
    {value : Nat}
    (denotes : Denotes characters value) :
    ∀ character ∈ characters, Blank.isBlank character = false := by
  have solidDigit {digit : Char} (isDigit : digit.isDigit = true) :
      Blank.isBlank digit = false := by
    obtain ⟨low, high⟩ := isDigit_iff.mp isDigit
    have checked : ∀ code < 0x3A, 0x30 ≤ code → Blank.isBlank (Char.ofNat code) = false := by
      decide
    have isSolid := checked digit.toNat (by omega) low
    rwa [Char.ofNat_toNat] at isSolid
  cases denotes with
  | plain _ areDigits => exact fun digit inside => solidDigit (areDigits digit inside)
  | signed _ areDigits =>
      have solidPlus : Blank.isBlank '+' = false := by decide
      exact List.forall_mem_cons.mpr
        ⟨solidPlus, fun digit inside => solidDigit (areDigits digit inside)⟩

end Decimal

namespace Blank

/-- What is trimmed off a text is blank. -/
theorem exists_trim (characters : List Char) :
    ∃ front back,
      characters = front ++ (trim characters ++ back) ∧
        (∀ character ∈ front, isBlank character = true) ∧
          ∀ character ∈ back, isBlank character = true := by
  let behind := characters.dropWhile isBlank
  refine ⟨characters.takeWhile isBlank, (behind.reverse.takeWhile isBlank).reverse, ?_, ?_, ?_⟩
  · have whole : behind = trim characters ++ (behind.reverse.takeWhile isBlank).reverse := by
      rw [trim, ← List.reverse_append, List.takeWhile_append_dropWhile, List.reverse_reverse]
    rw [← whole, List.takeWhile_append_dropWhile]
  · exact fun character inside => List.mem_takeWhile_imp inside
  · exact fun character inside => List.mem_takeWhile_imp (List.mem_reverse.mp inside)

/-- Blanks on both sides are trimmed off what has none. -/
theorem trim_surrounded
    {front core back : List Char}
    (frontBlank : ∀ character ∈ front, isBlank character = true)
    (solid : ∀ character ∈ core, isBlank character = false)
    (backBlank : ∀ character ∈ back, isBlank character = true) :
    trim (front ++ (core ++ back)) = core := by
  have backReversed : ∀ character ∈ back.reverse, isBlank character = true :=
    fun character inside => backBlank character (List.mem_reverse.mp inside)
  have nothing : back.dropWhile isBlank = [] := List.dropWhile_eq_nil_iff.mpr backBlank
  cases core with
  | nil => simp [trim, List.dropWhile_append_of_pos frontBlank, nothing]
  | cons first others =>
      have stops : ((first :: others) ++ back).dropWhile isBlank = (first :: others) ++ back := by
        simp [solid first List.mem_cons_self]
      rw [trim, List.dropWhile_append_of_pos frontBlank, stops, List.reverse_append,
        List.dropWhile_append_of_pos backReversed]
      have trimmed := Decimal.trim_of_solid solid
      rw [trim, List.dropWhile_cons_of_neg (by simp [solid first List.mem_cons_self])] at trimmed
      exact trimmed

end Blank

end BrokerClient
