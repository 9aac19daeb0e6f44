import BrokerClient.Number.Decimal
import BrokerClient.Text.Blank

/-!
# Decimal numbers are read as they were written

The digits of a number are those of its tenth and one more behind them, so facts about written
numbers are proved along their digits.
-/

namespace BrokerClient.Decimal

/-- A number below ten is written as one digit. -/
theorem write_digit
    {digit : Nat}
    (small : digit < 10) :
    write digit = [Nat.digitChar digit] :=
  Nat.toDigits_of_lt_base small

/-- A digit behind a number is written behind its digits. -/
theorem write_behind
    {value digit : Nat}
    (positive : 0 < value)
    (small : digit < 10) :
    write (value * 10 + digit) = write value ++ [Nat.digitChar digit] := by
  have split := Nat.toDigits_append_toDigits (by decide) positive small
  rw [Nat.mul_comm value 10]
  simp only [write, ← split, Nat.toDigits_of_lt_base small]

/-- What holds for digits and is kept when a digit is put behind a number holds for all numbers. -/
theorem induction_along_digits
    {motive : Nat → Prop}
    (digit : ∀ digit, digit < 10 → motive digit)
    (behind : ∀ value digit, 0 < value → digit < 10 → motive value → motive (value * 10 + digit))
    (value : Nat) :
    motive value := by
  induction value using Nat.strongRecOn with
  | ind value inductionHypothesis =>
      by_cases small : value < 10
      · exact digit value small
      · have step :=
          behind (value / 10) (value % 10) (by omega) (Nat.mod_lt value (by decide))
            (inductionHypothesis (value / 10) (by omega))
        have whole : value / 10 * 10 + value % 10 = value := by omega
        rwa [whole] at step

/-- A digit is read as its value. -/
theorem digit?_digitChar
    {digit : Nat}
    (small : digit < 10) :
    digit? (Nat.digitChar digit) = some digit := by
  have code := Nat.toNat_digitChar_of_lt_ten small
  rw [digit?, code, if_pos (by omega)]
  simp

/-- Written digits are taken in as their number, whatever follows them. -/
theorem readDigits_write
    {limit value : Nat}
    (inRange : value ≤ limit)
    (rest : List Char) :
    readDigits limit 0 (write value ++ rest) = readDigits limit value rest := by
  induction value using induction_along_digits generalizing rest with
  | digit digit small =>
      simp [write_digit small, readDigits, digit?_digitChar small, Nat.not_lt.mpr inRange]
  | behind value digit positive small inductionHypothesis =>
      rw [write_behind positive small, List.append_assoc, inductionHypothesis (by omega)]
      simp [readDigits, digit?_digitChar small, Nat.not_lt.mpr inRange]

/-- A number is written with digits only. -/
theorem exists_digit_of_mem_write
    {value : Nat}
    {character : Char}
    (inside : character ∈ write value) :
    ∃ digit < 10, character = Nat.digitChar digit := by
  induction value using induction_along_digits with
  | digit digit small =>
      rw [write_digit small, List.mem_singleton] at inside
      exact ⟨digit, small, inside⟩
  | behind value digit positive small inductionHypothesis =>
      rw [write_behind positive small, List.mem_append, List.mem_singleton] at inside
      cases inside with
      | inl before => exact inductionHypothesis before
      | inr last => exact ⟨digit, small, last⟩

/-- A positive number is written with another digit than zero in front. -/
theorem write_of_pos
    {value : Nat}
    (positive : 0 < value) :
    ∃ first others, write value = Nat.digitChar first :: others ∧ 0 < first ∧ first < 10 := by
  induction value using induction_along_digits with
  | digit digit small => exact ⟨digit, [], write_digit small, positive, small⟩
  | behind value digit isPositive small inductionHypothesis =>
      obtain ⟨first, others, written, notZero, firstSmall⟩ := inductionHypothesis isPositive
      refine ⟨first, others ++ [Nat.digitChar digit], ?_, notZero, firstSmall⟩
      rw [write_behind isPositive small, written, List.cons_append]

/-- Digits are neither blank nor a plus sign. -/
theorem digitChar_solid
    {digit : Nat}
    (small : digit < 10) :
    Blank.isBlank (Nat.digitChar digit) = false ∧ Nat.digitChar digit ≠ '+' := by
  have checked :
      ∀ digit < 10, Blank.isBlank (Nat.digitChar digit) = false ∧ Nat.digitChar digit ≠ '+' := by
    decide
  exact checked digit small

/-- Nothing is trimmed from characters that are not blank. -/
theorem trim_of_solid
    {characters : List Char}
    (solid : ∀ character ∈ characters, Blank.isBlank character = false) :
    Blank.trim characters = characters := by
  have front : characters.dropWhile Blank.isBlank = characters := by
    cases characters with
    | nil => rfl
    | cons first others => simp [solid first List.mem_cons_self]
  have back : characters.reverse.dropWhile Blank.isBlank = characters.reverse := by
    cases reversed : characters.reverse with
    | nil => rfl
    | cons last others =>
        have inside : last ∈ characters := by
          rw [← List.mem_reverse, reversed]
          exact List.mem_cons_self
        simp [solid last inside]
  rw [Blank.trim, front, back, List.reverse_reverse]

/-- Characters without a plus sign in front are read as digits. -/
theorem read_of_noPlus
    {first : Char}
    (noPlus : first ≠ '+')
    (limit : Nat)
    (others : List Char) :
    read limit (first :: others) = readDigits limit 0 (first :: others) := by
  unfold read
  split
  · contradiction
  · next shape => exact absurd (List.cons.inj shape).1 noPlus
  · next shape => exact absurd (List.cons.inj shape).1 noPlus
  · rfl

/-- A written number is read as that number, if it is in range. -/
theorem read_write
    {limit value : Nat}
    (inRange : value ≤ limit) :
    read limit (write value) = .ok value := by
  have reads := readDigits_write inRange []
  rw [List.append_nil] at reads
  cases written : write value with
  | nil =>
      have notEmpty : write value ≠ [] := Nat.toDigits_ne_nil
      contradiction
  | cons first others =>
      have inside : first ∈ write value := by
        rw [written]
        exact List.mem_cons_self
      obtain ⟨digit, small, rfl⟩ := exists_digit_of_mem_write inside
      rw [written] at reads
      rw [read_of_noPlus (digitChar_solid small).2, reads]
      rfl

/-- A written number is read as that number from a text around which blanks are trimmed. -/
theorem read_trim_write
    {limit value : Nat}
    (inRange : value ≤ limit) :
    read limit (Blank.trim (write value)) = .ok value := by
  rw [trim_of_solid, read_write inRange]
  intro character inside
  obtain ⟨digit, small, rfl⟩ := exists_digit_of_mem_write inside
  exact (digitChar_solid small).1

end BrokerClient.Decimal
