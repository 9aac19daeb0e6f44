/-!
# Dictionaries

A dictionary holds one value for each of its keys, in rising order of the keys.  Its view is
`get?`: inserting changes the answer for one key, and so does erasing.
-/

namespace BrokerClient

/-- Values under text keys, in rising order of the keys. -/
abbrev Dictionary (Value : Type) := List (String × Value)

namespace Dictionary

variable {Value : Type}

/-- The value under a key. -/
def get? (entries : Dictionary Value) (key : String) : Option Value :=
  match entries with
  | [] => none
  | entry :: rest => if entry.1 = key then some entry.2 else get? rest key

/-- Put a value under a key, in place of the one that may be there. -/
def insert (entries : Dictionary Value) (key : String) (value : Value) : Dictionary Value :=
  match entries with
  | [] => [(key, value)]
  | entry :: rest =>
      if entry.1 = key then (key, value) :: rest
      else if key < entry.1 then (key, value) :: entry :: rest
      else entry :: insert rest key value

/-- Take a key and its value out. -/
def erase (entries : Dictionary Value) (key : String) : Dictionary Value :=
  entries.filter fun entry => entry.1 ≠ key

/-- Whether there is a value under a key. -/
def contains (entries : Dictionary Value) (key : String) : Bool :=
  (entries.get? key).isSome

/-- The keys in rising order. -/
def keys (entries : Dictionary Value) : List String :=
  entries.map Prod.fst

/-- The dictionary that results from inserting pairs one after the other. -/
def ofList (pairs : List (String × Value)) : Dictionary Value :=
  pairs.foldl (fun entries pair => insert entries pair.1 pair.2) []

@[simp] theorem get?_nil (key : String) :
    get? ([] : Dictionary Value) key = none :=
  rfl

/-- The key that was inserted holds the value that was inserted. -/
@[simp] theorem get?_insert_same
    (entries : Dictionary Value)
    (key : String)
    (value : Value) :
    (insert entries key value).get? key = some value := by
  induction entries with
  | nil => simp [insert, get?]
  | cons entry rest inductionHypothesis =>
      simp only [insert]
      split
      · simp [get?]
      · split
        · simp [get?]
        · next differs _ => simp [get?, differs, inductionHypothesis]

/-- All other keys hold what they held before. -/
theorem get?_insert_other
    (entries : Dictionary Value)
    {key other : String}
    (value : Value)
    (differs : other ≠ key) :
    (insert entries key value).get? other = entries.get? other := by
  induction entries with
  | nil => simp [insert, get?, Ne.symm differs]
  | cons entry rest inductionHypothesis =>
      simp only [insert]
      split
      · next same => simp [get?, same, Ne.symm differs]
      · split
        · simp [get?, Ne.symm differs]
        · simp [get?, inductionHypothesis]

/-- The key that was erased holds nothing. -/
@[simp] theorem get?_erase_same
    (entries : Dictionary Value)
    (key : String) :
    (erase entries key).get? key = none := by
  induction entries with
  | nil => rfl
  | cons entry rest inductionHypothesis =>
      by_cases same : entry.1 = key
      · simpa [erase, same] using inductionHypothesis
      · simpa [erase, same, get?] using inductionHypothesis

/-- Erasing one key leaves what is under the others. -/
theorem get?_erase_other
    (entries : Dictionary Value)
    {key other : String}
    (differs : other ≠ key) :
    (erase entries key).get? other = entries.get? other := by
  induction entries with
  | nil => rfl
  | cons entry rest inductionHypothesis =>
      by_cases same : entry.1 = key
      · have notOther : entry.1 ≠ other := fun isOther => differs (isOther.symm.trans same)
        simpa [erase, same, get?, notOther, Ne.symm differs] using inductionHypothesis
      · by_cases isOther : entry.1 = other
        · simp [erase, isOther, get?, differs]
        · simpa [erase, same, isOther, get?] using inductionHypothesis

/-- What is found after an erasure was there before. -/
theorem get?_of_get?_erase
    {entries : Dictionary Value}
    {key other : String}
    {value : Value}
    (found : (erase entries key).get? other = some value) :
    entries.get? other = some value := by
  by_cases same : other = key
  · simp [same] at found
  · rwa [get?_erase_other entries same] at found

/-- After an insertion the key that was inserted is contained, and the others as before. -/
theorem contains_insert_iff
    {entries : Dictionary Value}
    {key other : String}
    {value : Value} :
    (insert entries key value).contains other = true ↔
      other = key ∨ entries.contains other = true := by
  by_cases same : other = key
  · subst same
    simp [contains]
  · simp [contains, get?_insert_other entries value same, same]

/-- After an erasure the key that was erased is not contained, and the others as before. -/
theorem contains_erase_iff
    {entries : Dictionary Value}
    {key other : String} :
    (erase entries key).contains other = true ↔
      other ≠ key ∧ entries.contains other = true := by
  by_cases same : other = key
  · subst same
    simp [contains]
  · simp [contains, get?_erase_other entries same, same]

/-- A key is contained exactly if it is among the keys. -/
theorem contains_iff_mem_keys
    {entries : Dictionary Value}
    {key : String} :
    entries.contains key = true ↔ key ∈ entries.keys := by
  induction entries with
  | nil => simp [contains, keys]
  | cons entry rest inductionHypothesis =>
      by_cases same : entry.1 = key
      · simp [contains, keys, get?, same]
      · have notSame : ¬ key = entry.1 := fun isKey => same isKey.symm
        simpa [contains, keys, get?, same, notSame] using inductionHypothesis

end Dictionary

end BrokerClient
