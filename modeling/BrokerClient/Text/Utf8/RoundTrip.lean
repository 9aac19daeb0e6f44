import BrokerClient.Text.Utf8

/-!
# Reading undoes writing

The octets of a character are read as that character, whatever follows them; hence the octets of
a text are read as that text.
-/

namespace BrokerClient.Utf8

/-- The code of a character is no surrogate and not beyond the last code. -/
theorem code_ranges (character : Char) :
    character.toNat < 0xD800 ∨ (0xDFFF < character.toNat ∧ character.toNat < 0x110000) :=
  character.valid

/-- The octet of a small number is that number. -/
theorem toNat_octet {value : Nat} (small : value < 0x100) :
    (UInt8.ofNat value).toNat = value := by
  simp [Nat.mod_eq_of_lt small]

/-- A reader takes one step for each octet. -/
theorem piecesFrom_octet
    {value : Nat}
    (small : value < 0x100)
    (state : State)
    (rest : List UInt8) :
    piecesFrom state (UInt8.ofNat value :: rest) =
      (step state value).1 ++ piecesFrom (step state value).2 rest := by
  cases state <;> simp only [piecesFrom, toNat_octet small]

/-- An octet of ASCII is a character. -/
theorem step_start_one {octet : Nat} (below : octet < 0x80) :
    step .start octet = ([.character (Char.ofNat octet)], .start) := by
  simp [step, lead, below]

/-- The first of two octets. -/
theorem step_start_two
    {octet : Nat}
    (above : 0xC2 ≤ octet)
    (below : octet < 0xE0) :
    step .start octet = ([], .inside 0 0x80 0xBF (octet - 0xC0)) := by
  have notOne : ¬ octet < 0x80 := by omega
  have notStray : ¬ octet < 0xC2 := by omega
  simp [step, lead, notOne, notStray, below]

/-- The first of three octets, which bounds the second one. -/
theorem step_start_three
    {octet : Nat}
    (above : 0xE0 ≤ octet)
    (below : octet < 0xF0) :
    step .start octet =
      ([], .inside 1 (if octet = 0xE0 then 0xA0 else 0x80)
        (if octet = 0xED then 0x9F else 0xBF) (octet - 0xE0)) := by
  have notOne : ¬ octet < 0x80 := by omega
  have notStray : ¬ octet < 0xC2 := by omega
  have notTwo : ¬ octet < 0xE0 := by omega
  by_cases isFirst : octet = 0xE0
  · simp [step, lead, isFirst]
  · by_cases isSurrogate : octet = 0xED
    · simp [step, lead, isSurrogate]
    · simp [step, lead, notOne, notStray, notTwo, isFirst, isSurrogate, below]

/-- The first of four octets, which bounds the second one. -/
theorem step_start_four
    {octet : Nat}
    (above : 0xF0 ≤ octet)
    (below : octet < 0xF5) :
    step .start octet =
      ([], .inside 2 (if octet = 0xF0 then 0x90 else 0x80)
        (if octet = 0xF4 then 0x8F else 0xBF) (octet - 0xF0)) := by
  have notOne : ¬ octet < 0x80 := by omega
  have notStray : ¬ octet < 0xC2 := by omega
  have notTwo : ¬ octet < 0xE0 := by omega
  have notThree : ¬ octet < 0xF0 := by omega
  have notZero : ¬ octet = 0xE0 := by omega
  have notSurrogate : ¬ octet = 0xED := by omega
  by_cases isFirst : octet = 0xF0
  · simp [step, lead, isFirst]
  · by_cases isLast : octet = 0xF4
    · simp [step, lead, isLast]
    · have inside : octet < 0xF4 := by omega
      simp [step, lead, notOne, notStray, notTwo, notThree, notZero, notSurrogate, isFirst,
        isLast, inside]

/-- A further octet in its range is taken in. -/
theorem step_inside
    {owed low high bits octet : Nat}
    (above : low ≤ octet)
    (below : octet ≤ high) :
    step (.inside (owed + 1) low high bits) octet =
      ([], .inside owed 0x80 0xBF (bits * 0x40 + (octet - 0x80))) := by
  simp [step, above, below]

/-- The last octet in its range ends the character. -/
theorem step_last
    {low high bits octet : Nat}
    (above : low ≤ octet)
    (below : octet ≤ high) :
    step (.inside 0 low high bits) octet =
      ([.character (Char.ofNat (bits * 0x40 + (octet - 0x80)))], .start) := by
  simp [step, above, below]

/-- The octets of a character are read as that character, whatever follows them. -/
theorem pieces_encodeChar_append (character : Char) (rest : List UInt8) :
    pieces (encodeChar character ++ rest) = .character character :: pieces rest := by
  have ranges := code_ranges character
  have back : Char.ofNat character.toNat = character := Char.ofNat_toNat character
  generalize codeIs : character.toNat = code at ranges back
  simp only [encodeChar, codeIs]
  split
  · next one =>
      simp only [pieces, List.cons_append, List.nil_append]
      rw [piecesFrom_octet (by omega), step_start_one one, back]
      rfl
  · split
    · next notOne two =>
        have bits : (0xC0 + code / 0x40 - 0xC0) * 0x40 + (0x80 + code % 0x40 - 0x80) = code := by
          omega
        simp only [pieces, List.cons_append, List.nil_append]
        rw [piecesFrom_octet (by omega), step_start_two (by omega) (by omega),
          piecesFrom_octet (by omega), step_last (by omega) (by omega), bits, back]
        rfl
    · split
      · next notTwo three =>
          have bits :
              ((0xE0 + code / 0x1000 - 0xE0) * 0x40 + (0x80 + code / 0x40 % 0x40 - 0x80)) * 0x40 +
                (0x80 + code % 0x40 - 0x80) = code := by
            omega
          simp only [pieces, List.cons_append, List.nil_append]
          rw [piecesFrom_octet (by omega), step_start_three (by omega) (by omega),
            piecesFrom_octet (by omega), step_inside (by split <;> omega) (by split <;> omega),
            piecesFrom_octet (by omega), step_last (by omega) (by omega), bits, back]
          rfl
      · next notThree =>
          have bits :
              (((0xF0 + code / 0x40000 - 0xF0) * 0x40 +
                (0x80 + code / 0x1000 % 0x40 - 0x80)) * 0x40 +
                  (0x80 + code / 0x40 % 0x40 - 0x80)) * 0x40 +
                    (0x80 + code % 0x40 - 0x80) = code := by
            omega
          simp only [pieces, List.cons_append, List.nil_append]
          rw [piecesFrom_octet (by omega), step_start_four (by omega) (by omega),
            piecesFrom_octet (by omega), step_inside (by split <;> omega) (by split <;> omega),
            piecesFrom_octet (by omega), step_inside (by omega) (by omega),
            piecesFrom_octet (by omega), step_last (by omega) (by omega), bits, back]
          rfl

/-- The pieces of a written text are its characters. -/
theorem pieces_encode_append (text : String) (rest : List UInt8) :
    pieces (encode text ++ rest) = text.toList.map Piece.character ++ pieces rest := by
  unfold encode
  induction text.toList with
  | nil => rfl
  | cons first others inductionHypothesis =>
      rw [List.flatMap_cons, List.append_assoc, pieces_encodeChar_append, inductionHypothesis]
      rfl

/-- The pieces of a written text are its characters, and nothing else. -/
theorem pieces_encode (text : String) :
    pieces (encode text) = text.toList.map Piece.character := by
  have found := pieces_encode_append text []
  simpa [pieces, piecesFrom] using found

/-- Reading the octets of a text gives the text. -/
theorem decode?_encode (text : String) : decode? (encode text) = some text := by
  simp [decode?, pieces_encode, leadingCharacters_map]

end BrokerClient.Utf8
