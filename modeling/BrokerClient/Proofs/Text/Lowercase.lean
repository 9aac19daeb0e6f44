import BrokerClient.Text.Lowercase
import Mathlib.Data.List.Basic

/-!
# Lower case stays as it is

What a run of the table maps to is held by no run of the table, nor is it one of the two capitals
that need more than a partner.  So each character of a text in lower case is its own image,
whatever stands around it, and lower-casing a text again changes nothing.
-/

namespace BrokerClient.Lowercase

/-- The two capitals that need more than a partner, as runs of one code each. -/
def capitalsOnTheirOwn : List Run :=
  [⟨0x130, 0x130, 1, 0⟩, ⟨0x3A3, 0x3A3, 1, 0⟩]

namespace Run

variable {run other : Run} {code : Nat}

/-- Where a run takes a code. -/
def image (run : Run) (code : Nat) : Nat :=
  (code + run.offset).toNat

/-- Whether a run leads to codes of characters. -/
def lands (run : Run) : Bool :=
  (0 ≤ run.first + run.offset) &&
    ((run.image run.last).blt 0xD800 ||
      Nat.blt 0xDFFF (run.image run.first) && (run.image run.last).blt 0x110000)

/--
Whether a run leads past another one: before it, behind it, or between its steps.  Of a run in steps
of two it is enough to know where it begins.
-/
def clears (run other : Run) : Bool :=
  (run.image run.last).blt other.first || other.last.blt (run.image run.first) ||
    other.stride == 2 && (run.stride == 2 || run.first == run.last) &&
      (run.image run.first - other.first) % 2 == 1

theorem holds_iff :
    run.holds code = true ↔
      run.first ≤ code ∧ code ≤ run.last ∧ (code - run.first) % run.stride = 0 := by
  simp [holds, and_assoc]

theorem lands_iff :
    run.lands = true ↔
      0 ≤ run.first + run.offset ∧
        (run.image run.last < 0xD800 ∨
          0xDFFF < run.image run.first ∧ run.image run.last < 0x110000) := by
  simp [lands]

theorem clears_iff :
    run.clears other = true ↔
      (run.image run.last < other.first ∨ other.last < run.image run.first) ∨
        (other.stride = 2 ∧ (run.stride = 2 ∨ run.first = run.last)) ∧
          (run.image run.first - other.first) % 2 = 1 := by
  simp [clears]

/-- A code that a run holds is not taken into a run that is cleared. -/
theorem not_holds_image
    (lands : run.lands = true)
    (clears : run.clears other = true)
    (holds : run.holds code = true) :
    ¬ other.holds (run.image code) = true := by
  obtain ⟨notNegative, -⟩ := lands_iff.mp lands
  rw [holds_iff] at holds ⊢
  obtain ⟨above, below, onStep⟩ := holds
  rintro ⟨imageAbove, imageBelow, imageOnStep⟩
  unfold image at imageAbove imageBelow imageOnStep
  rcases clears_iff.mp clears with (before | behind) | ⟨⟨inTwos, steps⟩, between⟩
  · unfold image at before
    omega
  · unfold image at behind
    omega
  · unfold image at between
    rw [inTwos] at imageOnStep
    rcases steps with stepsOfTwo | single
    · rw [stepsOfTwo] at onStep
      omega
    · omega

/-- A run takes a code that it holds to the code of a character. -/
theorem toNat_ofNat_image
    (lands : run.lands = true)
    (holds : run.holds code = true) :
    (Char.ofNat (run.image code)).toNat = run.image code := by
  obtain ⟨above, below, -⟩ := holds_iff.mp holds
  obtain ⟨notNegative, range⟩ := lands_iff.mp lands
  have isCode : (run.image code).isValidChar := by
    unfold image at range ⊢
    rcases range with low | ⟨high, withinAll⟩
    · exact .inl (by omega)
    · exact .inr ⟨by omega, by omega⟩
  rw [Char.ofNat, dif_pos isCode]
  rfl

end Run

/-- No run of the table leads into another one, or to a capital that stands on its own. -/
theorem runs_clear :
    ∀ run ∈ runs,
      run.lands = true ∧ ∀ other ∈ capitalsOnTheirOwn ++ runs, run.clears other = true := by
  have checked :
      (runs.all fun run =>
        run.lands && (capitalsOnTheirOwn ++ runs).all fun other => run.clears other) = true := by
    decide +kernel
  intro run member
  simpa only [Bool.and_eq_true, List.all_eq_true] using List.all_eq_true.mp checked run member

/-- A character that lower-casing leaves as it is. -/
def Settled (character : Char) : Prop :=
  ∀ run ∈ capitalsOnTheirOwn ++ runs, ¬ run.holds character.toNat = true

instance (character : Char) : Decidable (Settled character) :=
  inferInstanceAs (Decidable (∀ run ∈ _, _))

variable {before rest : List Char} {character : Char}

/-- The two capitals on their own are held by their runs. -/
theorem holds_capital_iff (code : Nat) :
    (∃ run ∈ capitalsOnTheirOwn, run.holds code = true) ↔ code = 0x130 ∨ code = 0x3A3 := by
  simp only [capitalsOnTheirOwn, List.mem_cons, List.not_mem_nil, or_false, exists_eq_or_imp,
    exists_eq_left, Run.holds_iff, Nat.mod_one, and_true]
  omega

/-- The partner of a character is settled, unless the character is a capital on its own. -/
theorem settled_partner
    (notCapital : ∀ run ∈ capitalsOnTheirOwn, ¬ run.holds character.toNat = true) :
    Settled (partner character) := by
  unfold partner
  split
  · next run found =>
      have member : run ∈ runs := List.mem_of_find?_eq_some found
      have holds : run.holds character.toNat = true := by
        simpa using List.find?_some found
      obtain ⟨lands, clears⟩ := runs_clear run member
      intro other isOther
      change ¬ other.holds (Char.ofNat (run.image character.toNat)).toNat = true
      rw [Run.toNat_ofNat_image lands holds]
      exact Run.not_holds_image lands (clears other isOther) holds
  · next noRun =>
      intro run member
      rcases List.mem_append.mp member with isCapital | inTable
      · exact notCapital run isCapital
      · exact List.find?_eq_none.mp noRun run inTable

/-- All that a character becomes is settled. -/
theorem settled_of_mem_image
    {found : Char}
    (member : found ∈ image before character rest) :
    Settled found := by
  unfold image at member
  split at member
  · have both : Settled (Char.ofNat 0x69) ∧ Settled (Char.ofNat 0x307) := by decide +kernel
    simp only [List.mem_cons, List.not_mem_nil, or_false] at member
    rcases member with rfl | rfl
    · exact both.1
    · exact both.2
  · next notDotted =>
      split at member
      · have both : Settled (Char.ofNat 0x3C2) ∧ Settled (Char.ofNat 0x3C3) := by decide +kernel
        split at member
        · exact List.mem_singleton.mp member ▸ both.1
        · exact List.mem_singleton.mp member ▸ both.2
      · next notSigma =>
          obtain rfl := List.mem_singleton.mp member
          refine settled_partner fun run isCapital holds => ?_
          rcases (holds_capital_iff _).mp ⟨run, isCapital, holds⟩ with isDotted | isSigma
          · exact notDotted (Char.toNat_inj.mp isDotted)
          · exact notSigma (Char.toNat_inj.mp isSigma)

/-- A settled character stays alone and as it is. -/
theorem image_of_settled (settled : Settled character) :
    image before character rest = [character] := by
  have notCapital (isCapital : character.toNat = 0x130 ∨ character.toNat = 0x3A3) : False := by
    obtain ⟨run, member, holds⟩ := (holds_capital_iff _).mpr isCapital
    exact settled run (List.mem_append_left _ member) holds
  have notDotted : character ≠ dottedCapitalI := by
    rintro rfl
    exact notCapital (.inl rfl)
  have notSigma : character ≠ capitalSigma := by
    rintro rfl
    exact notCapital (.inr rfl)
  have noRun : runs.find? (fun run => run.holds character.toNat) = none :=
    List.find?_eq_none.mpr fun run member => settled run (List.mem_append_right _ member)
  simp [image, notDotted, notSigma, partner, noRun]

theorem settled_of_mem_applyAfter
    {characters : List Char}
    {found : Char}
    (member : found ∈ applyAfter before characters) :
    Settled found := by
  induction characters generalizing before with
  | nil => cases member
  | cons first others inductionHypothesis =>
      rcases List.mem_append.mp member with isImage | isLater
      · exact settled_of_mem_image isImage
      · exact inductionHypothesis isLater

theorem applyAfter_of_settled
    {characters : List Char}
    (settled : ∀ found ∈ characters, Settled found) :
    applyAfter before characters = characters := by
  induction characters generalizing before with
  | nil => rfl
  | cons first others inductionHypothesis =>
      obtain ⟨firstSettled, othersSettled⟩ := List.forall_mem_cons.mp settled
      rw [applyAfter, image_of_settled firstSettled, inductionHypothesis othersSettled]
      rfl

/-- A text in lower case is its own lower case. -/
theorem apply_apply (text : String) : apply (apply text) = apply text := by
  have settled : ∀ found ∈ (apply text).toList, Settled found := by
    simp only [apply, String.toList_ofList]
    exact fun found member => settled_of_mem_applyAfter member
  rw [apply, applyAfter_of_settled settled, String.ofList_toList]

end BrokerClient.Lowercase
