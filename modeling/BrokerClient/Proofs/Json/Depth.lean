import BrokerClient.Proofs.Json.Floats

/-!
# Only deep values are refused

A value that was written is read again, unless more of its brackets are open at once than the
reader permits; then it is refused for that reason and for no other.  The induction is on the
value.  As a list or an object is read up to the first of its values that is refused, it is carried
by a statement about what reading comes to: it goes on behind what was written, or it ends at a
bracket too many, and the depth of the value says which of the two.
-/

namespace BrokerClient

namespace Json

mutual

/-- How many brackets of a value are open at once. -/
def depth : Json → Nat
  | .array items => depthOfItems items + 1
  | .object fields => depthOfFields fields + 1
  | _ => 0

/-- How many brackets of items are open at once. -/
def depthOfItems : List Json → Nat
  | [] => 0
  | item :: rest => max item.depth (depthOfItems rest)

/-- How many brackets of the values of fields are open at once. -/
def depthOfFields : List (String × Json) → Nat
  | [] => 0
  | (_, value) :: rest => max value.depth (depthOfFields rest)

end

/-- No more brackets are open inside a list than in each of its items. -/
theorem depthOfItems_le_iff
    {items : List Json}
    {limit : Nat} :
    depthOfItems items ≤ limit ↔ ∀ item ∈ items, item.depth ≤ limit := by
  induction items with
  | nil => simp [depthOfItems]
  | cons item items inductionHypothesis =>
      rw [depthOfItems, Nat.max_le, inductionHypothesis, List.forall_mem_cons]

/-- No more brackets are open inside an object than in the value of each of its fields. -/
theorem depthOfFields_le_iff
    {fields : List (String × Json)}
    {limit : Nat} :
    depthOfFields fields ≤ limit ↔ ∀ field ∈ fields, field.2.depth ≤ limit := by
  induction fields with
  | nil => simp [depthOfFields]
  | cons field fields inductionHypothesis =>
      obtain ⟨name, value⟩ := field
      rw [depthOfFields, Nat.max_le, inductionHypothesis, List.forall_mem_cons]

/-- A value as programs hold it: its whole numbers lie between -2^63 and 2^64 - 1. -/
inductive Held : Json → Prop where
  | null : Held .null
  | bool (value : Bool) : Held (.bool value)
  | integer
      {value : Int}
      (low : -9223372036854775808 ≤ value)
      (high : value ≤ 18446744073709551615) :
      Held (.number (.integer value))
  | float (value : Binary64) : Held (.number (.float value))
  | string (value : String) : Held (.string value)
  | array
      {items : List Json}
      (held : ∀ item ∈ items, Held item) :
      Held (.array items)
  | object
      {fields : List (String × Json)}
      (held : ∀ field ∈ fields, Held field.2) :
      Held (.object fields)

/-! ## What reading comes to -/

section

variable {Value Next : Type}

/-- Reading goes on in front of the rest if all is shallow enough, and is refused otherwise. -/
inductive Judged (shallow : Prop) (rest : List UInt8) :
    Except Failure (Value × List UInt8) → Prop where
  | read
      (holds : shallow)
      (value : Value) :
      Judged shallow rest (.ok (value, rest))
  | refused
      (fails : ¬ shallow)
      (left : Nat) :
      Judged shallow rest (.error (.placed .tooDeep left))

variable {shallow further : Prop} {rest others : List UInt8}
variable {found : Except Failure (Value × List UInt8)}

/-- What is read in a row is refused where the first part of it is. -/
theorem Judged.bind
    (judged : Judged shallow rest found)
    {next : Value × List UInt8 → Except Failure (Next × List UInt8)}
    (goesOn : ∀ value, Judged further others (next (value, rest))) :
    Judged (shallow ∧ further) others (found.bind next) := by
  cases judged with
  | read holds value =>
      have judgedNext := goesOn value
      rw [Except.bind]
      generalize next (value, rest) = answer at judgedNext ⊢
      cases judgedNext with
      | read holdsToo next => exact .read ⟨holds, holdsToo⟩ next
      | refused failsThen left => exact .refused (fun both => failsThen both.2) left
  | refused fails left => exact .refused (fun both => fails both.1) left

/-- What is made of what was read changes nothing. -/
theorem Judged.make
    (judged : Judged shallow rest found)
    (make : Value → Next) :
    Judged shallow rest (found.bind fun found => .ok (make found.1, found.2)) := by
  cases judged with
  | read holds value => exact .read holds (make value)
  | refused fails left => exact .refused fails left

/-- The same is judged for the same reasons. -/
theorem Judged.congr
    (judged : Judged shallow rest found)
    (same : shallow ↔ further) :
    Judged further rest found :=
  propext same ▸ judged

/-- A closing bracket that stands behind what was read is taken. -/
theorem Judged.close
    {closing : List UInt8}
    (judged : Judged shallow closing found)
    {leave : List UInt8 → Option Failure × List UInt8}
    (closes : leave closing = (none, rest)) :
    Judged shallow rest (closeWith leave found) := by
  cases judged with
  | read holds value =>
      simp only [closeWith, closes]
      exact .read holds value
  | refused fails left => exact .refused fails left

end

/-- A reader goes on behind a written value if that is no deeper than its limit. -/
structure Judges {Value : Type} (read : Reader Value) (limit : Nat) (written : Json) : Prop where
  starts : StartsItem written.write
  judged :
    ∀ rest, EndsNumeral rest → Judged (written.depth ≤ limit) rest (read (written.write ++ rest))

/-- What is read as written is judged so. -/
theorem Reads.judges
    {Value : Type}
    {read : Reader Value}
    {found : Value}
    {written : Json}
    (reads : Reads read found written)
    {limit : Nat}
    (shallow : written.depth ≤ limit) :
    Judges read limit written where
  starts := reads.starts
  judged rest ends := by
    rw [reads.takes rest ends]
    exact .read shallow found

/-! ## Items -/

section

variable {readItem : Reader Json} {limit : Nat}

/-- Where an item starts, it is read, and then the others. -/
theorem readItemsFrom_item
    {first : Bool}
    {front octets : List UInt8}
    (starts : readItemStart first front = .ok (true, octets))
    (fuel : Nat) :
    readItemsFrom readItem (fuel + 1) first front =
      (readItem octets).bind fun found =>
        (readItemsFrom readItem fuel false found.2).bind fun others =>
          .ok (found.1 :: others.1, others.2) := by
  simp only [readItemsFrom, starts, if_true, bind, Except.bind]

/-- Items behind others are judged one after the other. -/
theorem judged_restOfItems
    {items : List Json}
    (judges : ∀ item ∈ items, Judges readItem limit item)
    (rest : List UInt8)
    {fuel : Nat}
    (enough : items.length < fuel) :
    Judged (∀ item ∈ items, item.depth ≤ limit) (0x5D :: rest)
      (readItemsFrom readItem fuel false (writeRestOfItems items ++ rest)) := by
  induction items generalizing fuel with
  | nil =>
      obtain ⟨spare, rfl⟩ := Nat.exists_eq_succ_of_ne_zero (Nat.ne_zero_of_lt enough)
      have reads : readItemsFrom readItem (spare + 1) false (writeRestOfItems [] ++ rest) =
          .ok ([], 0x5D :: rest) := by
        simp [writeRestOfItems, readItemsFrom, readItemStart_close, bind, Except.bind]
      rw [reads]
      exact .read (by simp) []
  | cons item items inductionHypothesis =>
      obtain ⟨judgesItem, judgesOthers⟩ := List.forall_mem_cons.mp judges
      obtain ⟨spare, rfl⟩ := Nat.exists_eq_succ_of_ne_zero (Nat.ne_zero_of_lt enough)
      have starts := (readItemStart_item judgesItem.starts (writeRestOfItems items ++ rest)).2
      have others := inductionHypothesis judgesOthers (Nat.lt_of_succ_lt_succ enough)
      have judgedItem := judgesItem.judged _ (endsNumeral_of_writeRestOfItems items rest)
      rw [writeRestOfItems, List.cons_append, List.append_assoc, readItemsFrom_item starts]
      refine (judgedItem.bind fun value => others.make (value :: ·)).congr ?_
      rw [List.forall_mem_cons]

/-- The items behind the opening bracket of a list are judged, and the list is closed. -/
theorem judged_items
    {items : List Json}
    (judges : ∀ item ∈ items, Judges readItem limit item) :
    ∃ inside,
      write (.array items) = 0x5B :: inside ∧
        ∀ rest,
          Judged (∀ item ∈ items, item.depth ≤ limit) rest
            (closeWith leaveList (readItems readItem (inside ++ rest))) := by
  have closes (rest : List UInt8) : leaveList (0x5D :: rest) = (none, rest) := by
    have endSolid : isBlank 0x5D = false := by decide
    simp [leaveList, skipBlanks_cons endSolid]
  cases items with
  | nil =>
      refine ⟨[0x5D], rfl, fun rest => Judged.close ?_ (closes rest)⟩
      have reads : readItems readItem ([0x5D] ++ rest) = .ok ([], 0x5D :: rest) := by
        simp [readItems, readItemsFrom, readItemStart_close, bind, Except.bind]
      rw [reads]
      exact .read (by simp) []
  | cons item items =>
      obtain ⟨judgesItem, judgesOthers⟩ := List.forall_mem_cons.mp judges
      refine ⟨_, rfl, fun rest => Judged.close ?_ (closes rest)⟩
      have starts := (readItemStart_item judgesItem.starts (writeRestOfItems items ++ rest)).1
      have enough :
          items.length < (item.write ++ (writeRestOfItems items ++ rest)).length := by
        have few := length_lt_length_writeRestOfItems items
        simp only [List.length_append]
        omega
      have judgedItem := judgesItem.judged _ (endsNumeral_of_writeRestOfItems items rest)
      have others := judged_restOfItems judgesOthers rest enough
      rw [List.append_assoc, readItems, readItemsFrom_item starts]
      refine (judgedItem.bind fun value => others.make (value :: ·)).congr ?_
      rw [List.forall_mem_cons]

/-! ## Fields -/

/-- A field with its name is read behind what separates it from others, and then the others. -/
theorem foldFieldsFrom_name
    (readItem : Reader Json)
    (known : List (String × Json))
    {first : Bool}
    {separator : List UInt8}
    (separates : Separator first separator)
    (name : String)
    (octets : List UInt8)
    (fuel : Nat) :
    foldFieldsFrom (readFieldValue readItem) (fuel + 1) first known
        (separator ++ (writeString name ++ 0x3A :: octets)) =
      (readItem octets).bind fun found =>
        foldFieldsFrom (readFieldValue readItem) fuel false
          (Dictionary.insert known name found.1) found.2 := by
  have colon : readColon (0x3A :: octets) = .ok ((), octets) := readColon_blanks blanks_nil octets
  have written : writeString name ++ 0x3A :: octets =
      0x22 :: (name.toList.flatMap writeChar ++ 0x22 :: 0x3A :: octets) := by
    simp [writeString]
  simp only [written, foldFieldsFrom, readFieldStart_separator separates, if_true,
    readText_written, readFieldValue, colon, bind, Except.bind]
  cases readItem octets with
  | ok found => rfl
  | error failure => rfl

/-- Fields behind others are judged one after the other. -/
theorem judged_restOfFields
    {fields : List (String × Json)}
    (judges : ∀ field ∈ fields, Judges readItem limit field.2)
    (known : List (String × Json))
    (rest : List UInt8)
    {fuel : Nat}
    (enough : fields.length < fuel) :
    Judged (∀ field ∈ fields, field.2.depth ≤ limit) (0x7D :: rest)
      (foldFieldsFrom (readFieldValue readItem) fuel false known
        (writeRestOfFields fields ++ rest)) := by
  induction fields generalizing known fuel with
  | nil =>
      obtain ⟨spare, rfl⟩ := Nat.exists_eq_succ_of_ne_zero (Nat.ne_zero_of_lt enough)
      have close : readFieldStart false (0x7D :: rest) = .ok (false, 0x7D :: rest) :=
        readFieldStart_close blanks_nil false rest
      have reads : foldFieldsFrom (readFieldValue readItem) (spare + 1) false known
          (writeRestOfFields [] ++ rest) = .ok (known, 0x7D :: rest) := by
        simp [writeRestOfFields, foldFieldsFrom, close, bind, Except.bind]
      rw [reads]
      exact .read (by simp) known
  | cons field fields inductionHypothesis =>
      obtain ⟨judgesField, judgesOthers⟩ := List.forall_mem_cons.mp judges
      obtain ⟨spare, rfl⟩ := Nat.exists_eq_succ_of_ne_zero (Nat.ne_zero_of_lt enough)
      have judgedField := judgesField.judged _ (endsNumeral_of_writeRestOfFields fields rest)
      have step := foldFieldsFrom_name readItem known (.comma blanks_nil blanks_nil) field.1
        (field.2.write ++ (writeRestOfFields fields ++ rest)) spare
      rw [List.nil_append, List.cons_append, List.nil_append] at step
      rw [writeRestOfFields, List.cons_append, List.append_assoc, List.cons_append,
        List.append_assoc, step]
      refine (judgedField.bind fun value => ?_).congr (by rw [List.forall_mem_cons])
      exact inductionHypothesis judgesOthers _ (Nat.lt_of_succ_lt_succ enough)

/-- The fields behind the opening bracket of an object are judged, and the object is closed. -/
theorem judged_fields
    {fields : List (String × Json)}
    (judges : ∀ field ∈ fields, Judges readItem limit field.2) :
    ∃ inside,
      write (.object fields) = 0x7B :: inside ∧
        ∀ rest,
          Judged (∀ field ∈ fields, field.2.depth ≤ limit) rest
            (closeWith leaveObject (foldFields (readFieldValue readItem) [] (inside ++ rest))) := by
  have closes (rest : List UInt8) : leaveObject (0x7D :: rest) = (none, rest) := by
    have endSolid : isBlank 0x7D = false := by decide
    simp [leaveObject, skipBlanks_cons endSolid]
  cases fields with
  | nil =>
      refine ⟨[0x7D], rfl, fun rest => Judged.close ?_ (closes rest)⟩
      have close : readFieldStart true (0x7D :: rest) = .ok (false, 0x7D :: rest) :=
        readFieldStart_close blanks_nil true rest
      have reads : foldFields (readFieldValue readItem) [] ([0x7D] ++ rest) =
          .ok ([], 0x7D :: rest) := by
        simp [foldFields, foldFieldsFrom, close, bind, Except.bind]
      rw [reads]
      exact .read (by simp) []
  | cons field fields =>
      obtain ⟨judgesField, judgesOthers⟩ := List.forall_mem_cons.mp judges
      refine ⟨_, rfl, fun rest => Judged.close ?_ (closes rest)⟩
      have enough :
          fields.length <
            (writeString field.1 ++
              0x3A :: (field.2.write ++ (writeRestOfFields fields ++ rest))).length := by
        have few := length_lt_length_writeRestOfFields fields
        simp only [List.length_cons, List.length_append]
        omega
      have judgedField := judgesField.judged _ (endsNumeral_of_writeRestOfFields fields rest)
      have step := foldFieldsFrom_name readItem [] (.blanks blanks_nil) field.1
        (field.2.write ++ (writeRestOfFields fields ++ rest))
      rw [List.nil_append] at step
      rw [foldFields, List.append_assoc, List.cons_append, List.append_assoc, step]
      refine (judgedField.bind fun value => ?_).congr (by rw [List.forall_mem_cons])
      exact judged_restOfFields judgesOthers _ rest enough

end

/-! ## Whole values -/

/-- A list or an object is judged by what stands inside its brackets, if there may be any. -/
theorem judges_brackets
    {value : Json}
    {bracket : UInt8}
    (isBracket : bracket = 0x5B ∨ bracket = 0x7B)
    {inner : Nat}
    (isDepth : value.depth = inner + 1)
    (judgedInside :
      ∀ within, ∃ inside,
        value.write = bracket :: inside ∧
          ∀ rest,
            Judged (inner ≤ within) rest
              (readBracketedWith (readValueWithin within) bracket (inside ++ rest)))
    (limit : Nat) :
    Judges (readValueWithin limit) limit value := by
  have solid : isBlank bracket = false ∧ bracket ≠ 0x5D := by
    rcases isBracket with rfl | rfl
    · decide
    · decide
  have opens (readBracketed : UInt8 → Reader Json) (octets : List UInt8) :
      readValueWith readBracketed (bracket :: octets) = readBracketed bracket octets := by
    rw [readValueWith, skipBlanks_cons solid.1]
    rcases isBracket with rfl | rfl
    · rfl
    · rfl
  cases limit with
  | zero =>
      -- No bracket may be opened, so none of what stands inside matters.
      obtain ⟨inside, written, -⟩ := judgedInside 0
      refine ⟨⟨_, _, written, solid⟩, fun rest _ => ?_⟩
      rw [written, List.cons_append, readValueWithin, opens]
      exact .refused (by omega) _
  | succ within =>
      obtain ⟨inside, written, judged⟩ := judgedInside within
      refine ⟨⟨_, _, written, solid⟩, fun rest _ => ?_⟩
      rw [written, List.cons_append, readValueWithin, opens]
      refine (judged rest).congr ?_
      rw [isDepth, Nat.add_le_add_iff_right]

/-- Every value that programs hold is judged by its depth. -/
theorem Held.judges
    {value : Json}
    (held : Held value)
    (limit : Nat) :
    Judges (readValueWithin limit) limit value := by
  induction held generalizing limit with
  | null =>
      obtain ⟨readBracketed, same⟩ := readValueWithin_eq limit
      exact same ▸ (readValueWith_word readBracketed (.inl rfl)).judges (Nat.zero_le _)
  | bool value =>
      obtain ⟨readBracketed, same⟩ := readValueWithin_eq limit
      exact same ▸ (readValueWith_word readBracketed (.inr ⟨value, rfl⟩)).judges (Nat.zero_le _)
  | integer low high =>
      obtain ⟨readBracketed, same⟩ := readValueWithin_eq limit
      exact same ▸ (readValueWith_integer readBracketed low high).judges (Nat.zero_le _)
  | float value =>
      obtain ⟨readBracketed, same⟩ := readValueWithin_eq limit
      obtain ⟨found, reads⟩ := readValueWith_float readBracketed value
      exact same ▸ reads.judges (Nat.zero_le _)
  | string value =>
      obtain ⟨readBracketed, same⟩ := readValueWithin_eq limit
      exact same ▸ (readValueWith_string readBracketed value).judges (Nat.zero_le _)
  | @array items held inductionHypothesis =>
      refine judges_brackets (.inl rfl) rfl (fun within => ?_) limit
      obtain ⟨inside, written, judged⟩ :=
        judged_items fun item member => inductionHypothesis item member within
      exact ⟨inside, written, fun rest =>
        ((judged rest).make Json.array).congr depthOfItems_le_iff.symm⟩
  | @object fields held inductionHypothesis =>
      refine judges_brackets (.inr rfl) rfl (fun within => ?_) limit
      obtain ⟨inside, written, judged⟩ :=
        judged_fields fun field member => inductionHypothesis field member within
      exact ⟨inside, written, fun rest =>
        ((judged rest).make Json.object).congr depthOfFields_le_iff.symm⟩

/-- The body of a value that programs hold is not empty. -/
theorem Held.write_filled
    {value : Json}
    (held : Held value) :
    value.write.isEmpty = false := by
  obtain ⟨first, others, written, -⟩ := (held.judges 0).starts
  rw [written]
  rfl

/-- A whole input that was written is read as a value, or is refused for its depth. -/
theorem Held.parse_write
    {value : Json}
    (held : Held value) :
    (value.depth ≤ depthLimit ∧ ∃ content, parse value.write = .ok content) ∨
      (depthLimit < value.depth ∧
        ∃ fault, parse value.write = .error fault ∧ fault.cause = .tooDeep) := by
  have judged := (held.judges depthLimit).judged [] (by simp [EndsNumeral])
  rw [List.append_nil] at judged
  have isReader : readValueWithin depthLimit = readValue := rfl
  rw [isReader] at judged
  cases found : readValue value.write with
  | ok result =>
      rw [found] at judged
      cases judged with
      | read shallow content =>
          exact .inl ⟨shallow, content, by simp [parse, readAll, found, skipBlanks]⟩
  | error failure =>
      rw [found] at judged
      cases judged with
      | refused deep left =>
          refine .inr ⟨Nat.not_le.mp deep, .at value.write .tooDeep left, ?_, rfl⟩
          simp only [parse, readAll, found, Failure.fault]

/-- What is refused for its depth is said to exceed the limit. -/
theorem Fault.message_tooDeep
    {fault : Fault}
    (isTooDeep : fault.cause = .tooDeep) :
    fault.message =
      "recursion limit exceeded at line " ++ toString fault.line ++
        " column " ++ toString fault.column := by
  have words :
      Cause.message .tooDeep ++ " at line " = "recursion limit exceeded at line " := by decide
  rw [message, isTooDeep, words]

end Json

end BrokerClient
