import BrokerClient.Json.Reader.Typed
import BrokerClient.Json.Writer
import BrokerClient.Text.Utf8.RoundTrip

/-!
# How strings are spelled

A string may spell its text in many ways: a character stands for itself, behind a backslash as one
letter, or as the hexadecimal digits of its code, which are those of two surrogates for a character
beyond the first plane.  Every spelling is read as its text.  A string that is only passed over
need not spell a text, so it is given by its octets alone.
-/

namespace BrokerClient.Json

/-- Octets that may stand between the parts of a JSON text. -/
def Blanks (octets : List UInt8) : Prop :=
  ∀ octet ∈ octets, isBlank octet = true

/-- There need not be any. -/
theorem blanks_nil : Blanks [] := by
  simp [Blanks]

/-- Blanks in front are skipped. -/
theorem skipBlanks_append
    {blanks : List UInt8}
    (areBlank : Blanks blanks)
    (rest : List UInt8) :
    skipBlanks (blanks ++ rest) = skipBlanks rest :=
  List.dropWhile_append_of_pos areBlank

/-- Nothing is skipped in front of an octet that is not blank. -/
theorem skipBlanks_cons
    {octet : UInt8}
    (solid : isBlank octet = false)
    (rest : List UInt8) :
    skipBlanks (octet :: rest) = octet :: rest := by
  simp [skipBlanks, solid]

/-- An octet is a hexadecimal digit of a value, in either case. -/
def HexDigit (octet : UInt8) (value : Nat) : Prop :=
  (value < 10 ∧ octet.toNat = 0x30 + value) ∨
    (10 ≤ value ∧ value < 16 ∧
      (octet.toNat = 0x41 + (value - 10) ∨ octet.toNat = 0x61 + (value - 10)))

/-- A hexadecimal digit is read as its value. -/
theorem hexValue?_of_hexDigit
    {octet : UInt8}
    {value : Nat}
    (digit : HexDigit octet value) :
    hexValue? octet = some value := by
  simp only [hexValue?, UInt8.le_iff_toNat_le, UInt8.toNat_ofNat]
  rcases digit with ⟨small, shape⟩ | ⟨above, below, upper | lower⟩
  · rw [if_pos (by omega)]
    simp only [Option.some.injEq]
    omega
  · rw [if_neg (by omega), if_pos (by omega)]
    simp only [Option.some.injEq]
    omega
  · rw [if_neg (by omega), if_neg (by omega), if_pos (by omega)]
    simp only [Option.some.injEq]
    omega

/-- Octets are the four hexadecimal digits of a code. -/
inductive HexCode : List UInt8 → Nat → Prop where
  | digits
      {first second third fourth : UInt8}
      {firstValue secondValue thirdValue fourthValue : Nat}
      (firstDigit : HexDigit first firstValue)
      (secondDigit : HexDigit second secondValue)
      (thirdDigit : HexDigit third thirdValue)
      (fourthDigit : HexDigit fourth fourthValue) :
      HexCode [first, second, third, fourth]
        (((firstValue * 16 + secondValue) * 16 + thirdValue) * 16 + fourthValue)

/-- Four hexadecimal digits are read as their code. -/
theorem readCode_of_hexCode
    {octets : List UInt8}
    {code : Nat}
    (digits : HexCode octets code)
    (rest : List UInt8) :
    readCode (octets ++ rest) = .ok (code, rest) := by
  cases digits with
  | digits firstDigit secondDigit thirdDigit fourthDigit =>
      simp [readCode, hexValue4?, hexValue?_of_hexDigit firstDigit,
        hexValue?_of_hexDigit secondDigit, hexValue?_of_hexDigit thirdDigit,
        hexValue?_of_hexDigit fourthDigit]

/-- The escapes of one letter, with the code of the character that each stands for. -/
def letterEscapes : List (UInt8 × Nat) :=
  [
    (0x22, 0x22), (0x5C, 0x5C), (0x2F, 0x2F), (0x62, 0x08),
    (0x66, 0x0C), (0x6E, 0x0A), (0x72, 0x0D), (0x74, 0x09)
  ]

/-- An escape of one letter is known, and stands for a character of ASCII. -/
theorem plainEscape?_of_mem
    {letter : UInt8}
    {code : Nat}
    (listed : (letter, code) ∈ letterEscapes) :
    plainEscape? letter = some (UInt8.ofNat code) ∧ code < 0x80 := by
  have checked :
      ∀ entry ∈ letterEscapes,
        plainEscape? entry.1 = some (UInt8.ofNat entry.2) ∧ entry.2 < 0x80 := by
    decide
  exact checked (letter, code) listed

/-- Octets spell a character inside a string. -/
inductive SpellsCharacter (character : Char) : List UInt8 → Prop where
  | itself
      (printable : 0x20 ≤ character.toNat)
      (noQuote : character.toNat ≠ 0x22)
      (noBackslash : character.toNat ≠ 0x5C) :
      SpellsCharacter character (Utf8.encodeChar character)
  | letter
      {letter : UInt8}
      (listed : (letter, character.toNat) ∈ letterEscapes) :
      SpellsCharacter character [0x5C, letter]
  | code
      {digits : List UInt8}
      (hexadecimal : HexCode digits character.toNat) :
      SpellsCharacter character (0x5C :: 0x75 :: digits)
  | surrogates
      {leading trailing : List UInt8}
      (beyond : 0x10000 ≤ character.toNat)
      (leads : HexCode leading (0xD800 + (character.toNat - 0x10000) / 0x400))
      (trails : HexCode trailing (0xDC00 + (character.toNat - 0x10000) % 0x400)) :
      SpellsCharacter character (0x5C :: 0x75 :: (leading ++ 0x5C :: 0x75 :: trailing))

/-- Octets spell characters, one behind the other. -/
inductive Spells : List Char → List UInt8 → Prop where
  | nil : Spells [] []
  | cons
      {character : Char}
      {characters : List Char}
      {octets others : List UInt8}
      (first : SpellsCharacter character octets)
      (behind : Spells characters others) :
      Spells (character :: characters) (octets ++ others)

/-- What stands inside a string that is passed over: its escapes are complete. -/
inductive Passable : List UInt8 → Prop where
  | nil : Passable []
  | octet
      {octet : UInt8}
      {others : List UInt8}
      (printable : 0x20 ≤ octet)
      (noQuote : octet ≠ 0x22)
      (noBackslash : octet ≠ 0x5C)
      (behind : Passable others) :
      Passable (octet :: others)
  | letter
      {letter : UInt8}
      {code : Nat}
      {others : List UInt8}
      (listed : (letter, code) ∈ letterEscapes)
      (behind : Passable others) :
      Passable (0x5C :: letter :: others)
  | code
      {digits others : List UInt8}
      {code : Nat}
      (hexadecimal : HexCode digits code)
      (behind : Passable others) :
      Passable (0x5C :: 0x75 :: (digits ++ others))

/-! ## Reading a text -/

/-- What a reader finds, behind octets that have been read before. -/
def prepend
    (octets : List UInt8)
    (found : Except Failure (List UInt8 × List UInt8)) :
    Except Failure (List UInt8 × List UInt8) :=
  found.map fun found => (octets ++ found.1, found.2)

/-- An octet that stands for itself in a string. -/
def Plain (octet : UInt8) : Prop :=
  ¬ octet < 0x20 ∧ octet ≠ 0x22 ∧ octet ≠ 0x5C

/-- A small number other than the code of a control character, a quote or a backslash is a plain
octet. -/
theorem plain_octet
    {value : Nat}
    (small : value < 0x100)
    (printable : 0x20 ≤ value)
    (noQuote : value ≠ 0x22)
    (noBackslash : value ≠ 0x5C) :
    Plain (UInt8.ofNat value) := by
  have back := Utf8.toNat_octet small
  simp only [Plain, UInt8.lt_iff_toNat_lt, ne_eq, ← UInt8.toNat_inj, back, UInt8.toNat_ofNat]
  omega

/-- A character that may stand for itself has plain octets only. -/
theorem plain_of_mem_encodeChar
    {character : Char}
    (printable : 0x20 ≤ character.toNat)
    (noQuote : character.toNat ≠ 0x22)
    (noBackslash : character.toNat ≠ 0x5C)
    {octet : UInt8}
    (inside : octet ∈ Utf8.encodeChar character) :
    Plain octet := by
  have ranges := Utf8.code_ranges character
  simp only [Utf8.encodeChar] at inside
  split at inside
  · simp only [List.mem_singleton] at inside
    subst inside
    exact plain_octet (by omega) printable noQuote noBackslash
  · split at inside
    · simp only [List.mem_cons, List.not_mem_nil, or_false] at inside
      rcases inside with inside | inside <;> subst inside <;>
        exact plain_octet (by omega) (by omega) (by omega) (by omega)
    · split at inside
      · simp only [List.mem_cons, List.not_mem_nil, or_false] at inside
        rcases inside with inside | inside | inside <;> subst inside <;>
          exact plain_octet (by omega) (by omega) (by omega) (by omega)
      · simp only [List.mem_cons, List.not_mem_nil, or_false] at inside
        rcases inside with inside | inside | inside | inside <;> subst inside <;>
          exact plain_octet (by omega) (by omega) (by omega) (by omega)

/-- Plain octets are read as they are, one in each step. -/
theorem readOctetsFrom_plain
    {plain : List UInt8}
    (arePlain : ∀ octet ∈ plain, Plain octet)
    (fuel : Nat)
    (rest : List UInt8) :
    readOctetsFrom (fuel + plain.length) (plain ++ rest) =
      prepend plain (readOctetsFrom fuel rest) := by
  induction plain with
  | nil =>
      rw [List.length_nil, Nat.add_zero, List.nil_append]
      cases readOctetsFrom fuel rest <;> rfl
  | cons octet plain inductionHypothesis =>
      obtain ⟨printable, noQuote, noBackslash⟩ := arePlain octet List.mem_cons_self
      have behind := inductionHypothesis fun other inside =>
        arePlain other (List.mem_cons_of_mem octet inside)
      rw [List.length_cons, ← Nat.add_assoc, List.cons_append]
      simp only [readOctetsFrom, printable, noQuote, noBackslash, if_false, behind]
      cases readOctetsFrom fuel rest <;> rfl

/-- An escape is read in one step, as the octets that it stands for. -/
theorem readOctetsFrom_escape
    {octets escaped rest : List UInt8}
    (reads : readEscape octets = .ok (escaped, rest))
    (fuel : Nat) :
    readOctetsFrom (fuel + 1) (0x5C :: octets) =
      prepend escaped (readOctetsFrom fuel rest) := by
  have noQuote : ¬ (0x5C : UInt8) = 0x22 := by decide
  simp only [readOctetsFrom, noQuote, if_false, if_true, reads, bind, Except.bind]
  cases readOctetsFrom fuel rest <;> rfl

/-- The closing quote ends the string. -/
theorem readOctetsFrom_quote
    (fuel : Nat)
    (rest : List UInt8) :
    readOctetsFrom (fuel + 1) (0x22 :: rest) = .ok ([], rest) :=
  rfl

/-- An escape of one letter is read as the octets of its character. -/
theorem readEscape_letter
    {letter : UInt8}
    {character : Char}
    (listed : (letter, character.toNat) ∈ letterEscapes)
    (rest : List UInt8) :
    readEscape (letter :: rest) = .ok (Utf8.encodeChar character, rest) := by
  obtain ⟨known, small⟩ := plainEscape?_of_mem listed
  simp [readEscape, known, Utf8.encodeChar, small]

/-- An escaped code is read as the octets of its character. -/
theorem readEscape_code
    {digits : List UInt8}
    {character : Char}
    (hexadecimal : HexCode digits character.toNat)
    (rest : List UInt8) :
    readEscape (0x75 :: (digits ++ rest)) = .ok (Utf8.encodeChar character, rest) := by
  have ranges := Utf8.code_ranges character
  have notTrailing : ¬ (0xDC00 ≤ character.toNat ∧ character.toNat ≤ 0xDFFF) := by omega
  have notLeading : ¬ (0xD800 ≤ character.toNat ∧ character.toNat ≤ 0xDBFF) := by omega
  have noLetter : plainEscape? 0x75 = none := by decide
  simp [readEscape, noLetter, readCodePoint, readCode_of_hexCode hexadecimal, notTrailing,
    notLeading, bind, Except.bind]

/-- Two escaped surrogates are read as the octets of the character that they make up. -/
theorem readEscape_surrogates
    {leading trailing : List UInt8}
    {character : Char}
    (beyond : 0x10000 ≤ character.toNat)
    (leads : HexCode leading (0xD800 + (character.toNat - 0x10000) / 0x400))
    (trails : HexCode trailing (0xDC00 + (character.toNat - 0x10000) % 0x400))
    (rest : List UInt8) :
    readEscape (0x75 :: (leading ++ 0x5C :: 0x75 :: (trailing ++ rest))) =
      .ok (Utf8.encodeChar character, rest) := by
  have ranges := Utf8.code_ranges character
  have noLetter : plainEscape? 0x75 = none := by decide
  have readsLeading := readCode_of_hexCode leads (0x5C :: 0x75 :: (trailing ++ rest))
  have readsTrailing := readCode_of_hexCode trails rest
  have back : Char.ofNat character.toNat = character := Char.ofNat_toNat character
  generalize leadingIs : 0xD800 + (character.toNat - 0x10000) / 0x400 = leadingCode at *
  generalize trailingIs : 0xDC00 + (character.toNat - 0x10000) % 0x400 = trailingCode at *
  have notTrailing : ¬ (0xDC00 ≤ leadingCode ∧ leadingCode ≤ 0xDFFF) := by omega
  have isLeading : 0xD800 ≤ leadingCode ∧ leadingCode ≤ 0xDBFF := by omega
  have isTrailing : 0xDC00 ≤ trailingCode ∧ trailingCode ≤ 0xDFFF := by omega
  have whole :
      0x10000 + (leadingCode - 0xD800) * 0x400 + (trailingCode - 0xDC00) = character.toNat := by
    omega
  simp only [readEscape, noLetter, if_true, readCodePoint, readsLeading, notTrailing, if_false,
    isLeading, and_self, readTrailing, expectInPair, readsTrailing, isTrailing, whole, back,
    bind, Except.bind]

/--
A spelled character is read as its octets, in at most as many steps as its spelling has octets.
-/
theorem readOctetsFrom_character
    {character : Char}
    {octets : List UInt8}
    (spells : SpellsCharacter character octets) :
    ∃ steps, steps ≤ octets.length ∧
      ∀ fuel rest,
        readOctetsFrom (fuel + steps) (octets ++ rest) =
          prepend (Utf8.encodeChar character) (readOctetsFrom fuel rest) := by
  cases spells with
  | itself printable noQuote noBackslash =>
      refine ⟨(Utf8.encodeChar character).length, Nat.le_refl _, ?_⟩
      intro fuel rest
      apply readOctetsFrom_plain
      intro octet inside
      exact plain_of_mem_encodeChar printable noQuote noBackslash inside
  | @letter letter listed =>
      refine ⟨1, by simp, ?_⟩
      intro fuel rest
      exact readOctetsFrom_escape (readEscape_letter listed rest) fuel
  | @code digits hexadecimal =>
      refine ⟨1, by simp, ?_⟩
      intro fuel rest
      exact readOctetsFrom_escape (readEscape_code hexadecimal rest) fuel
  | @surrogates leading trailing beyond leads trails =>
      refine ⟨1, by simp, ?_⟩
      intro fuel rest
      have taken := readOctetsFrom_escape (readEscape_surrogates beyond leads trails rest) fuel
      simpa using taken

/-- A spelled text is read as its octets, up to the closing quote. -/
theorem readOctetsFrom_spelled
    {characters : List Char}
    {octets : List UInt8}
    (spells : Spells characters octets)
    (rest : List UInt8)
    {fuel : Nat}
    (enough : octets.length < fuel) :
    readOctetsFrom fuel (octets ++ 0x22 :: rest) =
      .ok (characters.flatMap Utf8.encodeChar, rest) := by
  induction spells generalizing fuel with
  | nil =>
      obtain ⟨spare, rfl⟩ := Nat.exists_eq_add_of_lt enough
      exact readOctetsFrom_quote _ rest
  | @cons character characters octets others first behind inductionHypothesis =>
      obtain ⟨steps, few, reads⟩ := readOctetsFrom_character first
      rw [List.length_append] at enough
      have left : fuel = fuel - steps + steps := by omega
      rw [left, List.append_assoc, reads, inductionHypothesis (by omega)]
      rfl

/-- A spelled text is read as the text. -/
theorem readText_spelled
    {text : String}
    {octets : List UInt8}
    (spells : Spells text.toList octets)
    (rest : List UInt8) :
    readText (octets ++ 0x22 :: rest) = .ok (text, rest) := by
  have enough : octets.length < (octets ++ 0x22 :: rest).length + 1 := by
    simp only [List.length_append]
    omega
  have reads := readOctetsFrom_spelled spells rest enough
  have decodes : Utf8.decode? (text.toList.flatMap Utf8.encodeChar) = some text :=
    Utf8.decode?_encode text
  simp only [readText, readOctets, reads, bind, Except.bind, decodes]

/-! ## Every text has a spelling -/

/-- The hexadecimal digit of a value, in lower case. -/
def lowerHex (value : Nat) : UInt8 :=
  UInt8.ofNat (if value < 10 then 0x30 + value else 0x61 + (value - 10))

/-- A hexadecimal digit in lower case is one of its value. -/
theorem hexDigit_lowerHex
    {value : Nat}
    (small : value < 16) :
    HexDigit (lowerHex value) value := by
  unfold lowerHex HexDigit
  split
  · next decimal =>
      rw [Utf8.toNat_octet (by omega)]
      omega
  · next letter =>
      rw [Utf8.toNat_octet (by omega)]
      omega

/-- A control character is written with the hexadecimal digits of its code. -/
theorem controlEscape_spells
    {code : Nat}
    (control : code < 0x20) :
    ∃ digits, controlEscape code = 0x5C :: 0x75 :: digits ∧ HexCode digits code := by
  have checked :
      ∀ code < 0x20,
        controlEscape code =
          [0x5C, 0x75, lowerHex 0, lowerHex 0, lowerHex (code / 16), lowerHex (code % 16)] := by
    decide
  refine ⟨_, checked code control, ?_⟩
  have zero : HexDigit (lowerHex 0) 0 := hexDigit_lowerHex (by decide)
  have high : HexDigit (lowerHex (code / 16)) (code / 16) := hexDigit_lowerHex (by omega)
  have low : HexDigit (lowerHex (code % 16)) (code % 16) := hexDigit_lowerHex (by omega)
  have digits := HexCode.digits zero zero high low
  have whole : ((0 * 16 + 0) * 16 + code / 16) * 16 + code % 16 = code := by omega
  rwa [whole] at digits

/-- What is written for a character spells it. -/
theorem spellsCharacter_writeChar (character : Char) :
    SpellsCharacter character (writeChar character) := by
  unfold writeChar
  split
  · next isQuote => exact SpellsCharacter.letter (by rw [isQuote]; decide)
  · next isBackslash => exact SpellsCharacter.letter (by rw [isBackslash]; decide)
  · next isBackspace => exact SpellsCharacter.letter (by rw [isBackspace]; decide)
  · next isTab => exact SpellsCharacter.letter (by rw [isTab]; decide)
  · next isNewline => exact SpellsCharacter.letter (by rw [isNewline]; decide)
  · next isFormFeed => exact SpellsCharacter.letter (by rw [isFormFeed]; decide)
  · next isReturn => exact SpellsCharacter.letter (by rw [isReturn]; decide)
  · next noQuote noBackslash _ _ _ _ _ =>
      split
      · next control =>
          obtain ⟨digits, shape, hexadecimal⟩ := controlEscape_spells control
          rw [shape]
          exact SpellsCharacter.code hexadecimal
      · next printable =>
          exact SpellsCharacter.itself (Nat.not_lt.mp printable) noQuote noBackslash

/-- What is written for a text spells it. -/
theorem spells_write (characters : List Char) :
    Spells characters (characters.flatMap writeChar) := by
  induction characters with
  | nil => exact Spells.nil
  | cons character characters inductionHypothesis =>
      rw [List.flatMap_cons]
      exact Spells.cons (spellsCharacter_writeChar character) inductionHypothesis

/-! ## Passing over a string -/

/-- A string that can be passed over is passed over, up to the closing quote. -/
theorem skipOctetsFrom_passable
    {octets : List UInt8}
    (passable : Passable octets)
    (rest : List UInt8)
    {fuel : Nat}
    (enough : octets.length < fuel) :
    skipOctetsFrom fuel (octets ++ 0x22 :: rest) = .ok ((), rest) := by
  induction passable generalizing fuel with
  | nil =>
      obtain ⟨spare, rfl⟩ := Nat.exists_eq_add_of_lt enough
      rfl
  | octet printable noQuote noBackslash behind inductionHypothesis =>
      obtain ⟨spare, rfl⟩ := Nat.exists_eq_add_of_lt enough
      have visible := UInt8.not_lt.mpr printable
      simp only [List.cons_append, skipOctetsFrom, noQuote, noBackslash, visible, if_false]
      apply inductionHypothesis
      simp only [List.length_cons]
      omega
  | letter listed behind inductionHypothesis =>
      obtain ⟨spare, rfl⟩ := Nat.exists_eq_add_of_lt enough
      obtain ⟨known, -⟩ := plainEscape?_of_mem listed
      simp only [List.cons_append, skipOctetsFrom, known, Option.isSome_some, if_true]
      apply inductionHypothesis
      simp only [List.length_cons]
      omega
  | @code digits others code hexadecimal behind inductionHypothesis =>
      obtain ⟨spare, rfl⟩ := Nat.exists_eq_add_of_lt enough
      have noLetter : plainEscape? 0x75 = none := by decide
      simp only [List.cons_append, List.append_assoc, skipOctetsFrom, noLetter,
        Option.isSome_none, readCode_of_hexCode hexadecimal, bind, Except.bind]
      apply inductionHypothesis
      simp only [List.length_cons, List.length_append]
      omega

/-- A string that can be passed over is passed over. -/
theorem skipText_passable
    {octets : List UInt8}
    (passable : Passable octets)
    (rest : List UInt8) :
    skipText (octets ++ 0x22 :: rest) = .ok ((), rest) := by
  apply skipOctetsFrom_passable passable
  simp only [List.length_append, List.length_cons]
  omega

end BrokerClient.Json
