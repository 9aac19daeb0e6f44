import BrokerClient.Json.Reader.Skip
import BrokerClient.Proofs.Json.Numerals

/-!
# Values are passed over

The grammar of JSON is cut into parts where the reader that passes over a value changes its stage:
a value, what follows an opening bracket, and what follows a value inside a bracket.  Each part is
passed over in fewer steps than twice its octets, so the reader that starts in front of a value
stops behind it.
-/

namespace BrokerClient.Json

/-- The octet that opens a bracket. -/
def Bracket.opening : Bracket → UInt8
  | .list => 0x5B
  | .object => 0x7B

/-- The words `null`, `true` and `false`, each as its first letter and the others. -/
def words : List (UInt8 × List UInt8) :=
  [
    (0x6E, [0x75, 0x6C, 0x6C]),
    (0x74, [0x72, 0x75, 0x65]),
    (0x66, [0x61, 0x6C, 0x73, 0x65])
  ]

/-- A value that is neither list nor object. -/
inductive Scalar : List UInt8 → Prop where
  | word
      {first : UInt8}
      {others : List UInt8}
      (known : (first, others) ∈ words) :
      Scalar (first :: others)
  | unsigned
      {numeral : List UInt8}
      (isUnsigned : Unsigned numeral) :
      Scalar numeral
  | negative
      {numeral : List UInt8}
      (isUnsigned : Unsigned numeral) :
      Scalar (0x2D :: numeral)
  | string
      {inside : List UInt8}
      (passable : Passable inside) :
      Scalar (0x22 :: (inside ++ [0x22]))

/-- What stands before a value inside a bracket: the name of a field and a colon, or nothing. -/
inductive Label : Bracket → List UInt8 → Prop where
  | none : Label .list []
  | name
      {before inside behind : List UInt8}
      (beforeBlank : Blanks before)
      (passable : Passable inside)
      (behindBlank : Blanks behind) :
      Label .object (before ++ 0x22 :: (inside ++ 0x22 :: (behind ++ [0x3A])))

/-- A part of a value. -/
inductive Part where
  /-- A value, with blanks in front. -/
  | value
  /-- What follows an opening bracket, up to the closing one. -/
  | opened (bracket : Bracket)
  /-- What follows a value inside a bracket, up to the closing one. -/
  | behind (bracket : Bracket)
  deriving Repr, DecidableEq

/-- Octets are a part of a value. -/
inductive Derives : Part → List UInt8 → Prop where
  | scalar
      {blanks octets : List UInt8}
      (areBlank : Blanks blanks)
      (isScalar : Scalar octets) :
      Derives .value (blanks ++ octets)
  | bracketed
      {blanks inside : List UInt8}
      {bracket : Bracket}
      (areBlank : Blanks blanks)
      (isInside : Derives (.opened bracket) inside) :
      Derives .value (blanks ++ bracket.opening :: inside)
  | empty
      {blanks : List UInt8}
      (bracket : Bracket)
      (areBlank : Blanks blanks) :
      Derives (.opened bracket) (blanks ++ [bracket.closing])
  | first
      {label value others : List UInt8}
      {bracket : Bracket}
      (labels : Label bracket label)
      (isValue : Derives .value value)
      (areOthers : Derives (.behind bracket) others) :
      Derives (.opened bracket) (label ++ (value ++ others))
  | close
      {blanks : List UInt8}
      (bracket : Bracket)
      (areBlank : Blanks blanks) :
      Derives (.behind bracket) (blanks ++ [bracket.closing])
  | next
      {blanks label value others : List UInt8}
      {bracket : Bracket}
      (areBlank : Blanks blanks)
      (labels : Label bracket label)
      (isValue : Derives .value value)
      (areOthers : Derives (.behind bracket) others) :
      Derives (.behind bracket) (blanks ++ 0x2C :: (label ++ (value ++ others)))

/-! ## Where parts begin -/

/-- The octets start with an octet, possibly behind blanks, that is no closing bracket of a list. -/
def StartsValue (octets : List UInt8) : Prop :=
  ∃ blanks octet others,
    octets = blanks ++ octet :: others ∧ Blanks blanks ∧ isBlank octet = false ∧ octet ≠ 0x5D

/-- An unsigned numeral starts with a digit. -/
theorem Unsigned.leads
    {numeral : List UInt8}
    (unsigned : Unsigned numeral) :
    ∃ first others, numeral = first :: others ∧ isDigit first = true := by
  cases unsigned with
  | @parts whole fraction exponent isWhole isFraction isExponent =>
      cases isWhole with
      | zero => exact ⟨0x30, fraction ++ exponent, rfl, by decide⟩
      | @positive first others leads notZero digits =>
          exact ⟨first, others ++ (fraction ++ exponent), rfl, leads⟩

/-- A word is read from its first letter on. -/
theorem skipScalar_word
    {first : UInt8}
    {others : List UInt8}
    (known : (first, others) ∈ words)
    (rest : List UInt8) :
    skipScalar first (others ++ rest) = .ok ((), rest) := by
  have reads := readWord_append others rest
  simp only [words, List.mem_cons, Prod.mk.injEq, List.not_mem_nil, or_false] at known
  rcases known with null | isTrue | isFalse
  · obtain ⟨isFirst, areOthers⟩ := null
    subst isFirst areOthers
    exact reads
  · obtain ⟨isFirst, areOthers⟩ := isTrue
    subst isFirst areOthers
    exact reads
  · obtain ⟨isFirst, areOthers⟩ := isFalse
    subst isFirst areOthers
    exact reads

/-- A number is passed over from its first digit on. -/
theorem skipScalar_digit
    {first : UInt8}
    (leads : isDigit first = true)
    (rest : List UInt8) :
    skipScalar first rest = skipNumeral (first :: rest) := by
  have noNull : first ≠ 0x6E := digit_ne leads (by decide)
  have noTrue : first ≠ 0x74 := digit_ne leads (by decide)
  have noFalse : first ≠ 0x66 := digit_ne leads (by decide)
  have noMinus : first ≠ 0x2D := digit_ne leads (by decide)
  simp only [skipScalar, noNull, noTrue, noFalse, noMinus, if_false, leads, if_true]

/-- A first octet that decides for a scalar: it is neither blank nor a bracket. -/
structure StartsScalar (first : UInt8) : Prop where
  solid : isBlank first = false
  noList : first ≠ 0x5B
  noObject : first ≠ 0x7B
  noListEnd : first ≠ 0x5D

/-- A digit decides for a scalar. -/
theorem startsScalar_of_digit
    {first : UInt8}
    (leads : isDigit first = true) :
    StartsScalar first where
  solid := digit_solid leads
  noList := digit_ne leads (by decide)
  noObject := digit_ne leads (by decide)
  noListEnd := digit_ne leads (by decide)

/-- A scalar is passed over from its first octet on. -/
theorem Scalar.skips
    {octets : List UInt8}
    (isScalar : Scalar octets) :
    ∃ first others, octets = first :: others ∧ StartsScalar first ∧
      ∀ rest, EndsNumeral rest → skipScalar first (others ++ rest) = .ok ((), rest) := by
  cases isScalar with
  | @word first others known =>
      refine ⟨first, others, rfl, ?_, fun rest _ => skipScalar_word known rest⟩
      have checked :
          ∀ word ∈ words,
            isBlank word.1 = false ∧ word.1 ≠ 0x5B ∧ word.1 ≠ 0x7B ∧ word.1 ≠ 0x5D := by
        decide
      obtain ⟨solid, noList, noObject, noListEnd⟩ := checked (first, others) known
      exact ⟨solid, noList, noObject, noListEnd⟩
  | unsigned isUnsigned =>
      obtain ⟨first, others, shape, leads⟩ := isUnsigned.leads
      refine ⟨first, others, shape, startsScalar_of_digit leads, ?_⟩
      intro rest ends
      have skips := skipNumeral_of_unsigned isUnsigned ends
      rw [shape, List.cons_append] at skips
      rw [skipScalar_digit leads, skips]
  | @negative numeral isUnsigned =>
      refine ⟨0x2D, numeral, rfl, ⟨by decide, by decide, by decide, by decide⟩, ?_⟩
      intro rest ends
      exact skipNumeral_of_unsigned isUnsigned ends
  | @string inside passable =>
      refine ⟨0x22, inside ++ [0x22], rfl, ⟨by decide, by decide, by decide, by decide⟩, ?_⟩
      intro rest _
      rw [List.append_assoc]
      exact skipText_passable passable rest

/-- A value starts with an octet that is no closing bracket of a list. -/
theorem Derives.startsValue
    {octets : List UInt8}
    (derives : Derives .value octets)
    (rest : List UInt8) :
    StartsValue (octets ++ rest) := by
  cases derives with
  | @scalar blanks octets areBlank isScalar =>
      obtain ⟨first, others, shape, starts, -⟩ := isScalar.skips
      refine ⟨blanks, first, others ++ rest, ?_, areBlank, starts.solid, starts.noListEnd⟩
      rw [shape, List.append_assoc, List.cons_append]
  | @bracketed blanks inside bracket areBlank isInside =>
      refine ⟨blanks, bracket.opening, inside ++ rest, ?_, areBlank, ?_, ?_⟩
      · rw [List.append_assoc, List.cons_append]
      · cases bracket <;> decide
      · cases bracket <;> decide

/-- No numeral goes on with a blank. -/
theorem endsNumeral_of_blank
    {octet : UInt8}
    (blank : isBlank octet = true)
    (rest : List UInt8) :
    EndsNumeral (octet :: rest) := by
  intro other isHead
  simp only [List.head?_cons, Option.mem_some_iff] at isHead
  subst isHead
  simp only [isBlank, Bool.or_eq_true, decide_eq_true_eq] at blank
  rcases blank with ((space | tab) | newline) | carriage
  · subst space; decide
  · subst tab; decide
  · subst newline; decide
  · subst carriage; decide

/-- No numeral goes on with blanks in front of an octet with which none goes on. -/
theorem endsNumeral_blanks
    {blanks : List UInt8}
    (areBlank : Blanks blanks)
    {octet : UInt8}
    (ends : isDigit octet = false ∧ octet ≠ 0x2E ∧ isExponentMark octet = false)
    (rest : List UInt8) :
    EndsNumeral (blanks ++ octet :: rest) := by
  cases blanks with
  | nil =>
      intro other isHead
      simp only [List.nil_append, List.head?_cons, Option.mem_some_iff] at isHead
      subst isHead
      exact ends
  | cons blank blanks =>
      exact endsNumeral_of_blank (areBlank blank List.mem_cons_self) _

/-- No numeral goes on with what follows a value inside a bracket. -/
theorem Derives.endsNumeral
    {bracket : Bracket}
    {octets : List UInt8}
    (derives : Derives (.behind bracket) octets)
    (rest : List UInt8) :
    EndsNumeral (octets ++ rest) := by
  cases derives with
  | close bracket areBlank =>
      rw [List.append_assoc]
      apply endsNumeral_blanks areBlank
      cases bracket <;> decide
  | next areBlank labels isValue areOthers =>
      rw [List.append_assoc]
      apply endsNumeral_blanks areBlank
      decide

/-! ## Steps of the reader -/

/-- The octets of the brackets are not blank. -/
theorem bracket_solid (bracket : Bracket) :
    isBlank bracket.opening = false ∧ isBlank bracket.closing = false := by
  cases bracket <;> decide

/-- A scalar is passed over in one step. -/
theorem skipFrom_scalar
    {blanks octets rest : List UInt8}
    (areBlank : Blanks blanks)
    (isScalar : Scalar octets)
    (ends : EndsNumeral rest)
    (fuel : Nat)
    (brackets : List Bracket) :
    skipFrom (fuel + 1) .value brackets (blanks ++ (octets ++ rest)) =
      skipFrom fuel .behind brackets rest := by
  obtain ⟨first, others, shape, starts, skips⟩ := isScalar.skips
  rw [shape, List.cons_append, skipFrom, skipBlanks_append areBlank, skipBlanks_cons starts.solid]
  simp only [starts.noList, starts.noObject, if_false, skips rest ends, bind, Except.bind]

/-- An opening bracket is taken in one step. -/
theorem skipFrom_opening
    {blanks : List UInt8}
    (areBlank : Blanks blanks)
    (bracket : Bracket)
    (rest : List UInt8)
    (fuel : Nat)
    (brackets : List Bracket) :
    skipFrom (fuel + 1) .value brackets (blanks ++ bracket.opening :: rest) =
      skipFrom fuel .opened (bracket :: brackets) rest := by
  rw [skipFrom, skipBlanks_append areBlank, skipBlanks_cons (bracket_solid bracket).1]
  cases bracket <;> rfl

/-- A closing bracket is taken in one step. -/
theorem skipFrom_closing
    {stage : SkipStage}
    (inside : stage ≠ .value)
    {blanks : List UInt8}
    (areBlank : Blanks blanks)
    (bracket : Bracket)
    (rest : List UInt8)
    (fuel : Nat)
    (brackets : List Bracket) :
    skipFrom (fuel + 1) stage (bracket :: brackets) (blanks ++ bracket.closing :: rest) =
      skipFrom fuel .behind brackets rest := by
  have blanksSkipped := skipBlanks_append areBlank (bracket.closing :: rest)
  rw [skipBlanks_cons (bracket_solid bracket).2] at blanksSkipped
  cases stage with
  | value => contradiction
  | opened => simp only [skipFrom, blanksSkipped, if_true]
  | behind => simp only [skipFrom, blanksSkipped, if_true]

/-- The reader of a value takes no notice of blanks in front. -/
theorem skipFrom_skipBlanks
    (fuel : Nat)
    (brackets : List Bracket)
    (octets : List UInt8) :
    skipFrom (fuel + 1) .value brackets (skipBlanks octets) =
      skipFrom (fuel + 1) .value brackets octets := by
  simp only [skipFrom, skipBlanks_skipBlanks]

/-- The name of a field is passed over with its colon. -/
theorem skipName_object
    {before inside behind : List UInt8}
    (beforeBlank : Blanks before)
    (passable : Passable inside)
    (behindBlank : Blanks behind)
    (rest : List UInt8) :
    skipName .object (before ++ 0x22 :: (inside ++ 0x22 :: (behind ++ 0x3A :: rest))) =
      .ok ((), rest) := by
  have quoteSolid : isBlank 0x22 = false := by decide
  have colonSolid : isBlank 0x3A = false := by decide
  simp only [skipName, skipBlanks_append beforeBlank, skipBlanks_cons quoteSolid, if_true,
    skipText_passable passable, skipBlanks_append behindBlank, skipBlanks_cons colonSolid,
    bind, Except.bind]

/-- What stands before the first value inside a bracket is taken in one step. -/
theorem skipFrom_first
    {bracket : Bracket}
    {label : List UInt8}
    (labels : Label bracket label)
    {octets : List UInt8}
    (starts : StartsValue octets)
    (fuel : Nat)
    (brackets : List Bracket) :
    skipFrom (fuel + 2) .opened (bracket :: brackets) (label ++ octets) =
      skipFrom (fuel + 1) .value (bracket :: brackets) octets := by
  cases labels with
  | none =>
      obtain ⟨blanks, octet, others, shape, areBlank, solid, noEnd⟩ := starts
      have front : skipBlanks octets = octet :: others := by
        rw [shape, skipBlanks_append areBlank, skipBlanks_cons solid]
      rw [← skipFrom_skipBlanks fuel, front, List.nil_append, skipFrom.eq_def]
      simp [front, Bracket.closing, noEnd, skipName, bind, Except.bind]
  | @name before inside behind beforeBlank passable behindBlank =>
      have quoteSolid : isBlank 0x22 = false := by decide
      have named := skipName_object blanks_nil passable behindBlank octets
      rw [List.nil_append] at named
      rw [List.append_assoc, skipFrom.eq_def]
      simp [skipBlanks_append beforeBlank, skipBlanks_cons quoteSolid, named, Bracket.closing,
        bind, Except.bind]

/-- A comma and what stands before the value behind it are taken in one step. -/
theorem skipFrom_next
    {blanks : List UInt8}
    (areBlank : Blanks blanks)
    {bracket : Bracket}
    {label : List UInt8}
    (labels : Label bracket label)
    (octets : List UInt8)
    (fuel : Nat)
    (brackets : List Bracket) :
    skipFrom (fuel + 1) .behind (bracket :: brackets) (blanks ++ 0x2C :: (label ++ octets)) =
      skipFrom fuel .value (bracket :: brackets) octets := by
  have commaSolid : isBlank 0x2C = false := by decide
  rw [skipFrom.eq_def]
  simp only [skipBlanks_append areBlank, skipBlanks_cons commaSolid]
  cases labels with
  | none => simp [Bracket.closing, skipName, bind, Except.bind]
  | @name before inside behind beforeBlank passable behindBlank =>
      have named := skipName_object beforeBlank passable behindBlank octets
      simp [Bracket.closing, named, bind, Except.bind]

/-! ## Whole parts -/

/-- What stands before the reader in front of a part. -/
def Part.stage : Part → SkipStage
  | .value => .value
  | .opened _ => .opened
  | .behind _ => .behind

/-- The brackets that are open in front of a part, inside those around it. -/
def Part.within (brackets : List Bracket) : Part → List Bracket
  | .value => brackets
  | .opened bracket => bracket :: brackets
  | .behind bracket => bracket :: brackets

/--
A part is passed over in fewer steps than twice its octets, whatever stands around it, as long as no
numeral goes on behind it.
-/
theorem skipFrom_derived
    {part : Part}
    {octets : List UInt8}
    (derives : Derives part octets) :
    ∃ steps, 0 < steps ∧ steps < 2 * octets.length ∧
      ∀ fuel brackets rest, EndsNumeral rest →
        skipFrom (fuel + steps) part.stage (part.within brackets) (octets ++ rest) =
          skipFrom fuel .behind brackets rest := by
  induction derives with
  | @scalar blanks octets areBlank isScalar =>
      obtain ⟨first, others, shape, -⟩ := isScalar.skips
      refine ⟨1, by decide, by simp [shape]; omega, ?_⟩
      intro fuel brackets rest ends
      rw [List.append_assoc]
      exact skipFrom_scalar areBlank isScalar ends fuel brackets
  | @bracketed blanks inside bracket areBlank isInside inductionHypothesis =>
      obtain ⟨steps, positive, few, skips⟩ := inductionHypothesis
      refine ⟨steps + 1, by omega, by simp; omega, ?_⟩
      intro fuel brackets rest ends
      rw [List.append_assoc, List.cons_append, ← Nat.add_assoc]
      exact (skipFrom_opening areBlank bracket (inside ++ rest) (fuel + steps) brackets).trans
        (skips fuel brackets rest ends)
  | @empty blanks bracket areBlank =>
      refine ⟨1, by decide, by simp; omega, ?_⟩
      intro fuel brackets rest _
      rw [List.append_assoc]
      exact skipFrom_closing (by simp [Part.stage]) areBlank bracket rest fuel brackets
  | @first label value others bracket labels isValue areOthers valueHypothesis othersHypothesis =>
      obtain ⟨valueSteps, valuePositive, valueFew, skipsValue⟩ := valueHypothesis
      obtain ⟨otherSteps, -, otherFew, skipsOthers⟩ := othersHypothesis
      refine ⟨1 + valueSteps + otherSteps, by omega, by simp; omega, ?_⟩
      intro fuel brackets rest ends
      have starts := isValue.startsValue (others ++ rest)
      have steps :
          fuel + (1 + valueSteps + otherSteps) = fuel + otherSteps + (valueSteps - 1) + 2 := by
        omega
      have stepsBehind :
          fuel + otherSteps + (valueSteps - 1) + 1 = fuel + otherSteps + valueSteps := by
        omega
      calc
        skipFrom (fuel + (1 + valueSteps + otherSteps)) .opened (bracket :: brackets)
            (label ++ (value ++ others) ++ rest)
          = skipFrom (fuel + otherSteps + valueSteps) .value (bracket :: brackets)
              (value ++ (others ++ rest)) := by
            rw [steps, List.append_assoc, List.append_assoc, skipFrom_first labels starts,
              stepsBehind]
        _ = skipFrom (fuel + otherSteps) .behind (bracket :: brackets) (others ++ rest) :=
            skipsValue (fuel + otherSteps) (bracket :: brackets) (others ++ rest)
              (areOthers.endsNumeral rest)
        _ = skipFrom fuel .behind brackets rest := skipsOthers fuel brackets rest ends
  | @close blanks bracket areBlank =>
      refine ⟨1, by decide, by simp; omega, ?_⟩
      intro fuel brackets rest _
      rw [List.append_assoc]
      exact skipFrom_closing (by simp [Part.stage]) areBlank bracket rest fuel brackets
  | @next blanks label value others bracket areBlank labels isValue areOthers valueHypothesis
      othersHypothesis =>
      obtain ⟨valueSteps, -, valueFew, skipsValue⟩ := valueHypothesis
      obtain ⟨otherSteps, -, otherFew, skipsOthers⟩ := othersHypothesis
      refine ⟨otherSteps + valueSteps + 1, by omega, by simp; omega, ?_⟩
      intro fuel brackets rest ends
      calc
        skipFrom (fuel + (otherSteps + valueSteps + 1)) .behind (bracket :: brackets)
            (blanks ++ 0x2C :: (label ++ (value ++ others)) ++ rest)
          = skipFrom (fuel + otherSteps + valueSteps) .value (bracket :: brackets)
              (value ++ (others ++ rest)) := by
            rw [← Nat.add_assoc, ← Nat.add_assoc, List.append_assoc, List.cons_append,
              List.append_assoc, List.append_assoc, skipFrom_next areBlank labels]
        _ = skipFrom (fuel + otherSteps) .behind (bracket :: brackets) (others ++ rest) :=
            skipsValue (fuel + otherSteps) (bracket :: brackets) (others ++ rest)
              (areOthers.endsNumeral rest)
        _ = skipFrom fuel .behind brackets rest := skipsOthers fuel brackets rest ends

/-- A value is passed over, as long as no numeral goes on behind it. -/
theorem skipValue_derived
    {octets : List UInt8}
    (derives : Derives .value octets)
    {rest : List UInt8}
    (ends : EndsNumeral rest) :
    skipValue (octets ++ rest) = .ok ((), rest) := by
  obtain ⟨steps, -, few, skips⟩ := skipFrom_derived derives
  have enough :
      2 * (octets ++ rest).length + 2 = 2 * (octets ++ rest).length + 1 - steps + 1 + steps := by
    rw [List.length_append]
    omega
  rw [skipValue, enough]
  exact skips _ [] rest ends

end BrokerClient.Json
