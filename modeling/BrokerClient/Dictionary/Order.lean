import BrokerClient.Dictionary

/-!
# Order in dictionaries

Insertions and erasures keep the keys in rising order, each key once.  In that order what is there
is what is found, and a key behind all others is inserted at the end.
-/

namespace BrokerClient.Dictionary

variable {Value : Type}

/-- Of two different keys that are not in rising order the second stands first. -/
theorem lt_of_not_lt_of_ne
    {first second : String}
    (notBefore : ¬ second < first)
    (differs : first ≠ second) :
    first < second := by
  refine Decidable.byContradiction fun notAfter => differs ?_
  exact String.le_antisymm (String.not_lt.mp notBefore) (String.not_lt.mp notAfter)

/-- Keys in rising order, each of them once. -/
def Rising (entries : Dictionary Value) : Prop :=
  entries.keys.Pairwise (· < ·)

instance (entries : Dictionary Value) : Decidable (Rising entries) :=
  inferInstanceAs (Decidable (entries.keys.Pairwise (· < ·)))

/-- The keys after an insertion are the new one and those that were there. -/
theorem mem_keys_insert
    (entries : Dictionary Value)
    (key : String)
    (value : Value)
    {other : String} :
    other ∈ (insert entries key value).keys ↔ other = key ∨ other ∈ entries.keys := by
  induction entries with
  | nil => simp [insert, keys]
  | cons entry rest inductionHypothesis =>
      simp only [keys] at inductionHypothesis
      simp only [insert]
      split
      · next same => simp [keys, same]
      · split
        · simp [keys]
        · simp only [keys, List.map_cons, List.mem_cons, inductionHypothesis]
          constructor
          · rintro (isEntry | isKey | isRest)
            · exact .inr (.inl isEntry)
            · exact .inl isKey
            · exact .inr (.inr isRest)
          · rintro (isKey | isEntry | isRest)
            · exact .inr (.inl isKey)
            · exact .inl isEntry
            · exact .inr (.inr isRest)

/-- An insertion keeps the keys in order. -/
theorem rising_insert
    {entries : Dictionary Value}
    (rising : Rising entries)
    (key : String)
    (value : Value) :
    Rising (insert entries key value) := by
  induction entries with
  | nil => simp [Rising, insert, keys]
  | cons entry rest inductionHypothesis =>
      obtain ⟨entryFirst, restRising⟩ := List.pairwise_cons.mp rising
      simp only [insert]
      split
      · next same =>
          subst same
          exact List.pairwise_cons.mpr ⟨entryFirst, restRising⟩
      · next differs =>
          split
          · next before =>
              refine List.pairwise_cons.mpr ⟨?_, rising⟩
              intro other member
              rcases List.mem_cons.mp member with isEntry | isRest
              · exact isEntry ▸ before
              · exact String.lt_trans before (entryFirst other isRest)
          · next notBefore =>
              refine List.pairwise_cons.mpr ⟨?_, inductionHypothesis restRising⟩
              intro other member
              rcases (mem_keys_insert rest key value).mp member with isKey | isRest
              · subst isKey
                exact lt_of_not_lt_of_ne notBefore differs
              · exact entryFirst other isRest

/-- An erasure keeps the keys in order. -/
theorem rising_erase
    {entries : Dictionary Value}
    (rising : Rising entries)
    (key : String) :
    Rising (erase entries key) :=
  rising.sublist ((List.filter_sublist ..).map Prod.fst)

/-- A key that is not there holds nothing. -/
theorem get?_eq_none_of_not_mem_keys
    {entries : Dictionary Value}
    {key : String}
    (missing : key ∉ entries.keys) :
    entries.get? key = none := by
  rw [← contains_iff_mem_keys] at missing
  simpa [contains] using missing

/-- Behind the first key of a dictionary in order nothing stands under that key. -/
theorem get?_tail_eq_none
    {entry : String × Value}
    {rest : Dictionary Value}
    (rising : Rising (entry :: rest)) :
    rest.get? entry.1 = none := by
  obtain ⟨entryFirst, _⟩ := List.pairwise_cons.mp rising
  exact get?_eq_none_of_not_mem_keys fun member =>
    String.lt_irrefl _ (entryFirst entry.1 member)

/-- What is found is there. -/
theorem mem_of_get?
    {entries : Dictionary Value}
    {key : String}
    {value : Value}
    (found : entries.get? key = some value) :
    (key, value) ∈ entries := by
  induction entries with
  | nil => cases found
  | cons entry rest inductionHypothesis =>
      unfold get? at found
      split at found
      · next same =>
          obtain rfl := Option.some.inj found
          subst same
          exact List.mem_cons_self
      · exact List.mem_cons_of_mem entry (inductionHypothesis found)

/-- In a dictionary with its keys in order, what is there is found. -/
theorem get?_of_mem
    {entries : Dictionary Value}
    (rising : Rising entries)
    {entry : String × Value}
    (member : entry ∈ entries) :
    entries.get? entry.1 = some entry.2 := by
  induction entries with
  | nil => cases member
  | cons first rest inductionHypothesis =>
      obtain ⟨firstBefore, restRising⟩ := List.pairwise_cons.mp rising
      rcases List.mem_cons.mp member with rfl | inRest
      · simp [get?]
      · have differs : first.1 ≠ entry.1 := by
          have before := firstBefore entry.1 (List.mem_map_of_mem inRest)
          exact fun same => String.lt_irrefl _ (same ▸ before)
        simpa [get?, differs] using inductionHypothesis restRising inRest

/-- What is there after an insertion is new or was there before. -/
theorem mem_of_mem_insert
    {entries : Dictionary Value}
    {key : String}
    {value : Value}
    {entry : String × Value}
    (member : entry ∈ insert entries key value) :
    entry = (key, value) ∨ entry ∈ entries := by
  induction entries with
  | nil =>
      left
      simpa [insert] using member
  | cons first rest inductionHypothesis =>
      unfold insert at member
      split at member
      · rcases List.mem_cons.mp member with isNew | inRest
        · exact .inl isNew
        · exact .inr (List.mem_cons_of_mem first inRest)
      · split at member
        · rcases List.mem_cons.mp member with isNew | wasThere
          · exact .inl isNew
          · exact .inr wasThere
        · rcases List.mem_cons.mp member with isFirst | inRest
          · exact .inr (isFirst ▸ List.mem_cons_self)
          · rcases inductionHypothesis inRest with isNew | wasThere
            · exact .inl isNew
            · exact .inr (List.mem_cons_of_mem first wasThere)

/-- The entries in front of a dictionary in order are in order. -/
theorem Rising.of_append
    {entries : Dictionary Value}
    (others : Dictionary Value)
    (rising : Rising (entries ++ others)) :
    Rising entries :=
  List.Pairwise.sublist ((List.sublist_append_left entries others).map Prod.fst) rising

/-- A key behind all others is inserted at the end. -/
theorem insert_of_rising_concat
    {entries : Dictionary Value}
    {key : String}
    {value : Value}
    (rising : Rising (entries ++ [(key, value)])) :
    insert entries key value = entries ++ [(key, value)] := by
  induction entries with
  | nil => rfl
  | cons entry rest inductionHypothesis =>
      obtain ⟨entryFirst, restRising⟩ := List.pairwise_cons.mp rising
      have before : entry.1 < key := entryFirst key (by simp)
      have differs : entry.1 ≠ key := fun same => String.lt_irrefl _ (same ▸ before)
      have notBehind : ¬ key < entry.1 := fun behind =>
        String.lt_irrefl _ (String.lt_trans before behind)
      rw [insert, if_neg differs, if_neg notBehind, inductionHypothesis restRising]
      rfl

end BrokerClient.Dictionary
