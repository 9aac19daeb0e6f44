import BrokerClient.Proofs.Client.Tracing
import BrokerClient.Proofs.Text.Lowercase

/-!
# Texts that are written into header tables

A text that is written under a name stands under the lower case of the name, in whatever table.
Reading looks for the name as it is given.  So what was written is found again under names in lower
case, and only there: nothing that is written ever stands under another name, which keeps showing
what the table held before.
-/

namespace BrokerClient

/-- No text is written under a name that is not in lower case. -/
theorem Bag.lastText?_eq_none
    {name : String}
    (notLower : Lowercase.apply name ≠ name)
    (pairs : List (String × String)) :
    Bag.lastText? pairs name = none := by
  have noneWritten : (pairs.filter fun pair => Lowercase.apply pair.1 = name) = [] := by
    refine List.filter_eq_nil_iff.mpr fun pair _ isName => notLower ?_
    rw [← of_decide_eq_true isName, Lowercase.apply_apply]
  simp [Bag.lastText?, noneWritten]

namespace Carrier

variable {headers : HeaderTable} {pairs : List (String × String)} {name : String}

/-- Each name holds the last text that was written under it, or else what it held before. -/
theorem get?_setAll
    (headers : HeaderTable)
    (pairs : List (String × String))
    (name : String) :
    Dictionary.get? (setAll headers (Bag.ofPairs pairs)) name =
      match Bag.lastText? pairs name with
      | some text => some (.longString (Utf8.encode text))
      | none => Dictionary.get? headers name := by
  induction pairs using List.reverseRecOn with
  | nil => rfl
  | append_singleton earlier last inductionHypothesis =>
      rw [setAll_concat, Bag.lastText?_concat, set]
      by_cases same : Lowercase.apply last.1 = name
      · rw [if_pos same, same, Dictionary.get?_insert_same]
      · rw [if_neg same, Dictionary.get?_insert_other _ _ (Ne.symm same), inductionHypothesis]

/-- The last text that was written under a name is read there. -/
theorem get?_of_lastText?
    {text : String}
    (isLast : Bag.lastText? pairs name = some text) :
    get? (setAll headers (Bag.ofPairs pairs)) name = some text := by
  simp [get?, get?_setAll, isLast, HeaderValue.text?, Utf8.decode?_encode]

/-- Where nothing was written, what stood there before is read. -/
theorem get?_of_unwritten (unwritten : Bag.lastText? pairs name = none) :
    get? (setAll headers (Bag.ofPairs pairs)) name = get? headers name := by
  simp [get?, get?_setAll, unwritten]

/--
A name that texts are written under, in whatever mixture of cases, holds the last of them in its
lower case.  Under the name itself that text is read exactly if the name is in lower case, or if the
table showed the same text there before; a name that is not in lower case still shows what it showed
before.  Names that are nobody's lower case hold what they held.
-/
theorem found_under_lower_case
    (headers : HeaderTable)
    {pairs : List (String × String)}
    {pair : String × String}
    (member : pair ∈ pairs) :
    let written := setAll headers (Bag.ofPairs pairs)
    ∃ text,
      ((pairs.filter fun other => Lowercase.apply other.1 = Lowercase.apply pair.1).getLast?.map
          Prod.snd = some text ∧
        get? written (Lowercase.apply pair.1) = some text) ∧
      (get? written pair.1 = some text ↔
        Lowercase.apply pair.1 = pair.1 ∨ get? headers pair.1 = some text) ∧
      (Lowercase.apply pair.1 ≠ pair.1 → get? written pair.1 = get? headers pair.1) ∧
      ∀ name,
        (∀ other ∈ pairs, Lowercase.apply other.1 ≠ name) →
          Dictionary.get? written name = Dictionary.get? headers name := by
  intro written
  obtain ⟨text, isLast⟩ := Bag.lastText?_of_mem member
  have found : get? written (Lowercase.apply pair.1) = some text := get?_of_lastText? isLast
  have hidden (notLower : Lowercase.apply pair.1 ≠ pair.1) :
      get? written pair.1 = get? headers pair.1 :=
    get?_of_unwritten (Bag.lastText?_eq_none notLower pairs)
  refine ⟨text, ⟨isLast, found⟩, ?_, hidden, fun name untouched => ?_⟩
  · by_cases isLower : Lowercase.apply pair.1 = pair.1
    · rw [isLower] at found
      simp [isLower, found]
    · simp [isLower, hidden isLower]
  · have noneWritten : (pairs.filter fun other => Lowercase.apply other.1 = name) = [] :=
      List.filter_eq_nil_iff.mpr fun other isPair isName =>
        untouched other isPair (of_decide_eq_true isName)
    rw [get?_setAll, Bag.lastText?, noneWritten]
    rfl

/-- A text that is written under a name with capitals is read in lower case only. -/
theorem hidden_behind_capitals :
    ("TraceParent", "00-abc-def-01") ∈ [("TraceParent", "00-abc-def-01")] ∧
      get? (setAll [] (Bag.ofPairs [("TraceParent", "00-abc-def-01")])) "traceparent" =
          some "00-abc-def-01" ∧
        get? (setAll [] (Bag.ofPairs [("TraceParent", "00-abc-def-01")])) "TraceParent" = none := by
  have member : ("TraceParent", "00-abc-def-01") ∈ [("TraceParent", "00-abc-def-01")] := by simp
  have isLower : Lowercase.apply "TraceParent" = "traceparent" := by decide +kernel
  obtain ⟨text, ⟨isLast, found⟩, -, hidden, -⟩ := found_under_lower_case [] member
  obtain rfl : "00-abc-def-01" = text := by simpa using isLast
  refine ⟨member, isLower ▸ found, ?_⟩
  simpa [get?] using hidden (by simp [isLower])

end Carrier

end BrokerClient
