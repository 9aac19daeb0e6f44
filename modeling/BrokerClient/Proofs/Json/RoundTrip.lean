import BrokerClient.Dictionary.Order
import BrokerClient.Proofs.Json.Fields

/-!
# What is written is read

A value that holds whole numbers of 64 bits only, and no more open brackets than a reader permits,
is read as it was written.  The induction is on the value.  It is carried by a statement about all
that may follow: the reader takes what was written and leaves the rest, as long as no numeral goes
on there.  Inside brackets a comma or a closing bracket follows, which is enough.
-/

namespace BrokerClient

namespace Json

/--
A value that readers are able to take: its numbers are whole and lie between -2^63 and 2^64 - 1, at
most `depth` of its brackets are open at once, and the fields of its objects stand in rising order.
-/
inductive Fits : Nat → Json → Prop where
  | null (depth : Nat) : Fits depth .null
  | bool (depth : Nat) (value : Bool) : Fits depth (.bool value)
  | integer
      (depth : Nat)
      {value : Int}
      (low : -9223372036854775808 ≤ value)
      (high : value ≤ 18446744073709551615) :
      Fits depth (.number (.integer value))
  | string (depth : Nat) (value : String) : Fits depth (.string value)
  | array
      {depth : Nat}
      {items : List Json}
      (fit : ∀ item ∈ items, Fits depth item) :
      Fits (depth + 1) (.array items)
  | object
      {depth : Nat}
      {fields : List (String × Json)}
      (rising : Dictionary.Rising fields)
      (fit : ∀ field ∈ fields, Fits depth field.2) :
      Fits (depth + 1) (.object fields)

/-- Octets begin with one that is neither blank nor the end of a list. -/
def StartsItem (octets : List UInt8) : Prop :=
  ∃ first others, octets = first :: others ∧ isBlank first = false ∧ first ≠ 0x5D

/-- A reader finds a value where another one was written, and takes no more than that. -/
structure Reads {α : Type} (read : Reader α) (found : α) (written : Json) : Prop where
  starts : StartsItem written.write
  takes : ∀ rest, EndsNumeral rest → read (written.write ++ rest) = .ok (found, rest)

/-- What is made of what a reader finds is read where the reader finds it. -/
theorem Reads.map
    {Found Made : Type}
    {read : Reader Found}
    {found : Found}
    {written : Json}
    (reads : Reads read found written)
    (make : Found → Made) :
    Reads (fun octets => (read octets).map fun found => (make found.1, found.2)) (make found)
      written where
  starts := reads.starts
  takes rest ends := by simp [reads.takes rest ends, Except.map]

/-! ## Values without brackets -/

/-- A whole number is written as its digits, behind a minus sign if it is negative. -/
theorem write_integer (value : Int) :
    write (.number (.integer value)) =
      if value < 0 then 0x2D :: decimal value.natAbs else decimal value.natAbs := by
  cases value with
  | ofNat value => rfl
  | negSucc value =>
      rw [if_pos (Int.negSucc_lt_zero value)]
      rfl

/-- A written text is read as that text. -/
theorem readText_written (text : String) (rest : List UInt8) :
    readText (text.toList.flatMap writeChar ++ 0x22 :: rest) = .ok (text, rest) :=
  readText_spelled (spells_write text.toList) rest

/-- Whichever way brackets are read, a number is read as it was written. -/
theorem readValueWith_integer
    (readBracketed : UInt8 → Reader Json)
    {value : Int}
    (low : -9223372036854775808 ≤ value)
    (high : value ≤ 18446744073709551615) :
    Reads (readValueWith readBracketed) (.number (.integer value)) (.number (.integer value)) := by
  have isLeast : leastSigned = 2 ^ 63 := rfl
  have isLargest : largestUnsigned = 2 ^ 64 - 1 := rfl
  by_cases negative : value < 0
  · have written : write (.number (.integer value)) = 0x2D :: decimal value.natAbs := by
      rw [write_integer, if_pos negative]
    refine ⟨⟨_, _, written, by decide, by decide⟩, fun rest ends => ?_⟩
    have reads := readNumeral_negative (by omega : 0 < value.natAbs) (by omega) ends
    have isValue : (-(value.natAbs : Int)) = value := by omega
    rw [isValue] at reads
    rw [written, List.cons_append, readValueWith, skipBlanks_cons (by decide)]
    simp [reads, bind, Except.bind]
  · have written : write (.number (.integer value)) = decimal value.natAbs := by
      rw [write_integer, if_neg negative]
    obtain ⟨first, others, shape, leads⟩ := decimal_leads value.natAbs
    refine ⟨⟨first, others, written.trans shape, digit_solid leads, digit_ne leads (by decide)⟩,
      fun rest ends => ?_⟩
    have reads := readNumeral_decimal (by omega : value.natAbs ≤ largestUnsigned) ends
    have isValue : (value.natAbs : Int) = value := by omega
    rw [isValue, shape, List.cons_append] at reads
    have noNull : first ≠ 0x6E := digit_ne leads (by decide)
    have noTrue : first ≠ 0x74 := digit_ne leads (by decide)
    have noFalse : first ≠ 0x66 := digit_ne leads (by decide)
    have noMinus : first ≠ 0x2D := digit_ne leads (by decide)
    rw [written, shape, List.cons_append, readValueWith, skipBlanks_cons (digit_solid leads)]
    simp [noNull, noTrue, noFalse, noMinus, leads, reads, bind, Except.bind]

/-- Whichever way brackets are read, a string is read as it was written. -/
theorem readValueWith_string (readBracketed : UInt8 → Reader Json) (text : String) :
    Reads (readValueWith readBracketed) (.string text) (.string text) where
  starts := ⟨_, _, rfl, by decide, by decide⟩
  takes rest _ := by
    have quoteSolid : isBlank 0x22 = false := by decide
    have noDigit : isDigit 0x22 = false := by decide
    simp [write, writeString, readValueWith, skipBlanks_cons quoteSolid, noDigit,
      readText_written, bind, Except.bind]

/-- A reader of strings reads a string as it was written. -/
theorem reads_string (text : String) : Reads readString text (.string text) where
  starts := ⟨_, _, rfl, by decide, by decide⟩
  takes rest _ := by
    have holds : Holds (.text text) (writeString text) :=
      .text blanks_nil (spells_write text.toList)
    exact readString_text holds rest

/-- Whichever way brackets are read, a word is read as it was written. -/
theorem readValueWith_word
    (readBracketed : UInt8 → Reader Json)
    {word : Json}
    (isWord : word = .null ∨ ∃ value, word = .bool value) :
    Reads (readValueWith readBracketed) word word := by
  rcases isWord with rfl | ⟨value, rfl⟩
  · exact ⟨⟨_, _, rfl, by decide, by decide⟩, fun rest _ => rfl⟩
  · cases value with
    | false => exact ⟨⟨_, _, rfl, by decide, by decide⟩, fun rest _ => rfl⟩
    | true => exact ⟨⟨_, _, rfl, by decide, by decide⟩, fun rest _ => rfl⟩

/-! ## Items -/

/-- No numeral goes on with a comma or a closing bracket. -/
theorem endsNumeral_of_writeRestOfItems (items : List Json) (rest : List UInt8) :
    EndsNumeral (writeRestOfItems items ++ rest) := by
  cases items with
  | nil => exact endsNumeral_blanks blanks_nil (by decide) rest
  | cons item items =>
      exact endsNumeral_blanks blanks_nil (by decide) _

/-- Every item takes an octet. -/
theorem length_lt_length_writeRestOfItems (items : List Json) :
    items.length < (writeRestOfItems items).length := by
  induction items with
  | nil => simp [writeRestOfItems]
  | cons item items inductionHypothesis =>
      simp only [writeRestOfItems, List.length_cons, List.length_append]
      omega

/-- In front of an item, further items are announced; behind others it follows a comma. -/
theorem readItemStart_item
    {octets : List UInt8}
    (starts : StartsItem octets)
    (rest : List UInt8) :
    readItemStart true (octets ++ rest) = .ok (true, octets ++ rest) ∧
      readItemStart false (0x2C :: (octets ++ rest)) = .ok (true, octets ++ rest) := by
  obtain ⟨first, others, rfl, solid, noEnd⟩ := starts
  have commaSolid : isBlank 0x2C = false := by decide
  constructor
  · simp [readItemStart, skipBlanks_cons solid, noEnd]
  · simp [readItemStart, skipBlanks_cons solid, skipBlanks_cons commaSolid, noEnd]

/-- The closing bracket is seen as the end of the items, and is left in front. -/
theorem readItemStart_close (first : Bool) (rest : List UInt8) :
    readItemStart first (0x5D :: rest) = .ok (false, 0x5D :: rest) := by
  have endSolid : isBlank 0x5D = false := by decide
  simp [readItemStart, skipBlanks_cons endSolid]

section

variable {Item : Type} {readItem : Reader Item} {toJson : Item → Json}

/-- Items behind others are read as they were written, up to the closing bracket. -/
theorem readItemsFrom_writeRestOfItems
    {items : List Item}
    (reads : ∀ item ∈ items, Reads readItem item (toJson item))
    (rest : List UInt8)
    {fuel : Nat}
    (enough : items.length < fuel) :
    readItemsFrom readItem fuel false (writeRestOfItems (items.map toJson) ++ rest) =
      .ok (items, 0x5D :: rest) := by
  induction items generalizing fuel with
  | nil =>
      obtain ⟨spare, rfl⟩ := Nat.exists_eq_add_of_lt enough
      simp [writeRestOfItems, readItemsFrom, readItemStart_close, bind, Except.bind]
  | cons item items inductionHypothesis =>
      obtain ⟨readsItem, readsOthers⟩ := List.forall_mem_cons.mp reads
      obtain ⟨spare, rfl⟩ := Nat.exists_eq_add_of_lt enough
      have starts := readItemStart_item readsItem.starts
        (writeRestOfItems (items.map toJson) ++ rest)
      have takes := readsItem.takes _ (endsNumeral_of_writeRestOfItems (items.map toJson) rest)
      have others := inductionHypothesis readsOthers
        (by simp only [List.length_cons]; omega : items.length < (item :: items).length + spare)
      simp only [List.map_cons, writeRestOfItems, List.cons_append, List.append_assoc,
        readItemsFrom, starts.2, takes, others, if_true, bind, Except.bind]

/-- What was written behind the opening bracket of a list is read, and the list is closed. -/
theorem readItems_written
    {items : List Item}
    (reads : ∀ item ∈ items, Reads readItem item (toJson item)) :
    ∃ inside,
      write (.array (items.map toJson)) = 0x5B :: inside ∧
        ∀ rest, closeWith leaveList (readItems readItem (inside ++ rest)) = .ok (items, rest) := by
  have closes (rest : List UInt8) :
      closeWith leaveList (.ok (items, 0x5D :: rest)) = .ok (items, rest) := by
    have endSolid : isBlank 0x5D = false := by decide
    simp [closeWith, leaveList, skipBlanks_cons endSolid]
  cases items with
  | nil =>
      refine ⟨[0x5D], rfl, fun rest => ?_⟩
      rw [← closes rest]
      simp [readItems, readItemsFrom, readItemStart_close, bind, Except.bind]
  | cons item items =>
      obtain ⟨readsItem, readsOthers⟩ := List.forall_mem_cons.mp reads
      refine ⟨_, rfl, fun rest => ?_⟩
      have starts := readItemStart_item readsItem.starts
        (writeRestOfItems (items.map toJson) ++ rest)
      have takes := readsItem.takes _ (endsNumeral_of_writeRestOfItems (items.map toJson) rest)
      have enough :
          items.length <
            ((toJson item).write ++ (writeRestOfItems (items.map toJson) ++ rest)).length := by
        have few := length_lt_length_writeRestOfItems (items.map toJson)
        simp only [List.length_map, List.length_append] at few ⊢
        omega
      have others := readItemsFrom_writeRestOfItems readsOthers rest enough
      rw [← closes rest]
      simp only [List.append_assoc, readItems, readItemsFrom, starts.1, takes, others, if_true,
        bind, Except.bind]

/-- A list of items that a reader finds is read as it was written. -/
theorem readList_written
    {items : List Item}
    (reads : ∀ item ∈ items, Reads readItem item (toJson item)) :
    Reads (readList readItem) items (.array (items.map toJson)) := by
  obtain ⟨inside, written, closes⟩ := readItems_written reads
  have bracketSolid : isBlank 0x5B = false := by decide
  refine ⟨⟨_, _, written, bracketSolid, by decide⟩, fun rest _ => ?_⟩
  rw [written, List.cons_append, readList, skipBlanks_cons bracketSolid]
  exact closes rest

end

/-! ## Fields -/

/-- No numeral goes on with a comma or a closing bracket. -/
theorem endsNumeral_of_writeRestOfFields
    (fields : List (String × Json))
    (rest : List UInt8) :
    EndsNumeral (writeRestOfFields fields ++ rest) := by
  cases fields with
  | nil => exact endsNumeral_blanks blanks_nil (by decide) rest
  | cons field fields =>
      exact endsNumeral_blanks blanks_nil (by decide) _

/-- Every field takes an octet. -/
theorem length_lt_length_writeRestOfFields (fields : List (String × Json)) :
    fields.length < (writeRestOfFields fields).length := by
  induction fields with
  | nil => simp [writeRestOfFields]
  | cons field fields inductionHypothesis =>
      simp only [writeRestOfFields, List.length_cons, List.length_append]
      omega

section

variable {readItem : Reader Json}

/-- A field behind all others is read as it was written, and put behind them. -/
theorem foldFieldsFrom_field
    {known : List (String × Json)}
    {name : String}
    {value : Json}
    (rising : Dictionary.Rising (known ++ [(name, value)]))
    (reads : Reads readItem value value)
    {first : Bool}
    {front octets rest : List UInt8}
    (starts : readFieldStart first front = .ok (true, octets))
    (isField : 0x22 :: octets = writeString name ++ 0x3A :: (value.write ++ rest))
    (ends : EndsNumeral rest)
    (fuel : Nat) :
    foldFieldsFrom (readFieldValue readItem) (fuel + 1) first known front =
      foldFieldsFrom (readFieldValue readItem) fuel false (known ++ [(name, value)]) rest := by
  have colon : readColon (0x3A :: (value.write ++ rest)) = .ok ((), value.write ++ rest) :=
    readColon_blanks blanks_nil _
  obtain rfl : octets =
      name.toList.flatMap writeChar ++ 0x22 :: 0x3A :: (value.write ++ rest) := by
    simpa [writeString] using isField
  simp only [foldFieldsFrom, starts, if_true, readText_written, readFieldValue, colon,
    reads.takes rest ends, Dictionary.insert_of_rising_concat rising, bind, Except.bind]

/-- Fields behind others are read as they were written, up to the closing bracket. -/
theorem foldFieldsFrom_writeRestOfFields
    {known fields : List (String × Json)}
    (rising : Dictionary.Rising (known ++ fields))
    (reads : ∀ field ∈ fields, Reads readItem field.2 field.2)
    (rest : List UInt8)
    {fuel : Nat}
    (enough : fields.length < fuel) :
    foldFieldsFrom (readFieldValue readItem) fuel false known (writeRestOfFields fields ++ rest) =
      .ok (known ++ fields, 0x7D :: rest) := by
  induction fields generalizing known fuel with
  | nil =>
      obtain ⟨spare, rfl⟩ := Nat.exists_eq_add_of_lt enough
      have close : readFieldStart false (0x7D :: rest) = .ok (false, 0x7D :: rest) :=
        readFieldStart_close blanks_nil false rest
      simp [writeRestOfFields, foldFieldsFrom, close, bind, Except.bind]
  | cons field fields inductionHypothesis =>
      obtain ⟨readsField, readsOthers⟩ := List.forall_mem_cons.mp reads
      obtain ⟨spare, rfl⟩ := Nat.exists_eq_add_of_lt enough
      rw [List.append_cons] at rising ⊢
      have others := inductionHypothesis rising readsOthers
        (by simp only [List.length_cons]; omega :
          fields.length < (field :: fields).length + spare)
      rw [← others]
      exact foldFieldsFrom_field (rising.of_append fields) readsField
        (readFieldStart_separator (.comma blanks_nil blanks_nil) _) (by simp [writeString])
        (endsNumeral_of_writeRestOfFields fields rest) _

/-- What was written behind the opening bracket of an object is read, and the object is closed. -/
theorem foldFields_written
    {fields : List (String × Json)}
    (rising : Dictionary.Rising fields)
    (reads : ∀ field ∈ fields, Reads readItem field.2 field.2) :
    ∃ inside,
      write (.object fields) = 0x7B :: inside ∧
        ∀ rest,
          closeWith leaveObject (foldFields (readFieldValue readItem) [] (inside ++ rest)) =
            .ok (fields, rest) := by
  have closes (rest : List UInt8) :
      closeWith leaveObject (.ok (fields, 0x7D :: rest)) = .ok (fields, rest) := by
    have endSolid : isBlank 0x7D = false := by decide
    simp [closeWith, leaveObject, skipBlanks_cons endSolid]
  cases fields with
  | nil =>
      refine ⟨[0x7D], rfl, fun rest => ?_⟩
      have close : readFieldStart true (0x7D :: rest) = .ok (false, 0x7D :: rest) :=
        readFieldStart_close blanks_nil true rest
      rw [← closes rest]
      simp [foldFields, foldFieldsFrom, close, bind, Except.bind]
  | cons field fields =>
      obtain ⟨readsField, readsOthers⟩ := List.forall_mem_cons.mp reads
      refine ⟨_, rfl, fun rest => ?_⟩
      have enough :
          fields.length <
            (writeString field.1 ++ 0x3A :: (field.2.write ++ writeRestOfFields fields) ++
              rest).length := by
        have few := length_lt_length_writeRestOfFields fields
        simp only [List.length_cons, List.length_append]
        omega
      have inOrder : Dictionary.Rising ([field] ++ fields) := rising
      have others := foldFieldsFrom_writeRestOfFields inOrder readsOthers rest enough
      rw [← closes rest]
      refine congrArg (closeWith leaveObject) (Eq.trans ?_ others)
      exact foldFieldsFrom_field (Dictionary.Rising.of_append fields inOrder) readsField
        (readFieldStart_separator (.blanks blanks_nil) _) (by simp [writeString])
        (endsNumeral_of_writeRestOfFields fields rest) _

end

/-! ## Whole values -/

/-- However many brackets may be open, only they are read differently. -/
theorem readValueWithin_eq (depth : Nat) :
    ∃ readBracketed, readValueWithin depth = readValueWith readBracketed := by
  cases depth with
  | zero => exact ⟨_, rfl⟩
  | succ depth => exact ⟨_, rfl⟩

/-- A list of values is read as it was written. -/
theorem readValueWithin_array
    {depth : Nat}
    {items : List Json}
    (reads : ∀ item ∈ items, Reads (readValueWithin depth) item item) :
    Reads (readValueWithin (depth + 1)) (.array items) (.array items) := by
  obtain ⟨inside, written, closes⟩ := readItems_written reads
  rw [List.map_id'] at written
  have bracketSolid : isBlank 0x5B = false := by decide
  refine ⟨⟨_, _, written, bracketSolid, by decide⟩, fun rest _ => ?_⟩
  rw [written, List.cons_append, readValueWithin, readValueWith, skipBlanks_cons bracketSolid]
  simp [readBracketedWith, closes, isDigit, bind, Except.bind]

/-- An object is read as it was written. -/
theorem readValueWithin_object
    {depth : Nat}
    {fields : List (String × Json)}
    (rising : Dictionary.Rising fields)
    (reads : ∀ field ∈ fields, Reads (readValueWithin depth) field.2 field.2) :
    Reads (readValueWithin (depth + 1)) (.object fields) (.object fields) := by
  obtain ⟨inside, written, closes⟩ := foldFields_written rising reads
  have bracketSolid : isBlank 0x7B = false := by decide
  refine ⟨⟨_, _, written, bracketSolid, by decide⟩, fun rest _ => ?_⟩
  rw [written, List.cons_append, readValueWithin, readValueWith, skipBlanks_cons bracketSolid]
  simp [readBracketedWith, closes, isDigit, bind, Except.bind]

/-- A value that fits is read as it was written. -/
theorem Fits.reads
    {depth : Nat}
    {value : Json}
    (fits : Fits depth value) :
    Reads (readValueWithin depth) value value := by
  induction fits with
  | null depth =>
      obtain ⟨readBracketed, same⟩ := readValueWithin_eq depth
      exact same ▸ readValueWith_word readBracketed (.inl rfl)
  | bool depth value =>
      obtain ⟨readBracketed, same⟩ := readValueWithin_eq depth
      exact same ▸ readValueWith_word readBracketed (.inr ⟨value, rfl⟩)
  | integer depth low high =>
      obtain ⟨readBracketed, same⟩ := readValueWithin_eq depth
      exact same ▸ readValueWith_integer readBracketed low high
  | string depth value =>
      obtain ⟨readBracketed, same⟩ := readValueWithin_eq depth
      exact same ▸ readValueWith_string readBracketed value
  | array fit inductionHypothesis => exact readValueWithin_array inductionHypothesis
  | object rising fit inductionHypothesis =>
      exact readValueWithin_object rising inductionHypothesis

/-- A whole input that was written is read. -/
theorem readAll_of_reads
    {Value : Type}
    {read : Reader Value}
    {found : Value}
    {written : Json}
    (reads : Reads read found written) :
    readAll read written.write = .ok found := by
  have takes := reads.takes [] (by simp [EndsNumeral])
  rw [List.append_nil] at takes
  simp [readAll, takes, skipBlanks]

end Json

end BrokerClient
