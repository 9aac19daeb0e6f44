import BrokerClient.Dictionary.Order
import BrokerClient.Queue
import Mathlib.Data.List.Induction

/-!
# Queues are declared as they were built

The steps of a building decide what is declared, and their order decides only which of several
values for one limit stays.  What is declared decides the definition in turn: no part of it is lost
on the way to the broker.
-/

namespace BrokerClient

namespace QueueOption

/-- The argument that a step sets, with its value. -/
def argument? : QueueOption → Option (String × Int)
  | .messageTtl milliseconds => some ("x-message-ttl", milliseconds)
  | .maxLength messages => some ("x-max-length", messages)
  | .maxLengthBytes octets => some ("x-max-length-bytes", octets)
  | _ => none

/-- The last of the steps that set an argument sets it to a value. -/
def SetsLast (steps : List QueueOption) (key : String) (value : Int) : Prop :=
  ∃ before step after,
    steps = before ++ step :: after ∧
      step.argument? = some (key, value) ∧
        ∀ later ∈ after, ∀ other, later.argument? ≠ some (key, other)

/-- No step sets anything where there is none. -/
theorem not_setsLast_nil (key : String) (value : Int) :
    ¬ SetsLast [] key value := by
  rintro ⟨before, step, after, shape, -⟩
  simp at shape

/-- A further step sets its own argument, and leaves the others as they were set before. -/
theorem setsLast_concat_iff
    {steps : List QueueOption}
    {last : QueueOption}
    {key : String}
    {value : Int} :
    SetsLast (steps ++ [last]) key value ↔
      last.argument? = some (key, value) ∨
        ((∀ other, last.argument? ≠ some (key, other)) ∧ SetsLast steps key value) := by
  constructor
  · rintro ⟨before, step, after, shape, sets, unset⟩
    rcases List.eq_nil_or_concat after with none | ⟨earlier, final, isAfter⟩
    · subst none
      obtain ⟨-, isLast⟩ := List.append_inj' shape rfl
      cases isLast
      exact .inl sets
    · subst isAfter
      rw [List.concat_eq_append] at unset shape
      have split : steps ++ [last] = (before ++ step :: earlier) ++ [final] := by
        rw [shape, List.append_assoc, List.cons_append]
      obtain ⟨isSteps, isLast⟩ := List.append_inj' split rfl
      cases isLast
      have unsetBefore : ∀ later ∈ earlier, ∀ other, later.argument? ≠ some (key, other) :=
        fun later inside => unset later (List.mem_append_left _ inside)
      exact .inr ⟨unset last (by simp), before, step, earlier, isSteps, sets, unsetBefore⟩
  · rintro (sets | ⟨unset, before, step, after, shape, sets, unsetBefore⟩)
    · exact ⟨steps, last, [], rfl, sets, by simp⟩
    · refine ⟨before, step, after ++ [last], by simp [shape], sets, fun later inside => ?_⟩
      rcases List.mem_append.mp inside with isEarlier | isLast
      · exact unsetBefore later isEarlier
      · exact List.mem_singleton.mp isLast ▸ unset

end QueueOption

namespace QueueDefinition

/-! ## Flags -/

/-- The flag that a step raises, if it raises one. -/
def flag? (definition : QueueDefinition) : QueueOption → Option Bool
  | .durable => some definition.durable
  | .autoDelete => some definition.autoDelete
  | .exclusive => some definition.exclusive
  | .passive => some definition.passive
  | _ => none

/-- A step raises its own flag and leaves the others. -/
theorem flag?_apply
    (definition : QueueDefinition)
    (step option : QueueOption) :
    (definition.apply step).flag? option =
      (definition.flag? option).map (· || decide (option = step)) := by
  cases option <;> cases step <;> simp [flag?, apply]

/-- A flag is up behind steps if it was up before or one of them raises it. -/
theorem flag?_foldl
    (steps : List QueueOption)
    (definition : QueueDefinition)
    (option : QueueOption) :
    (steps.foldl apply definition).flag? option =
      (definition.flag? option).map (· || decide (option ∈ steps)) := by
  induction steps generalizing definition with
  | nil => simp
  | cons step steps inductionHypothesis =>
      rw [List.foldl_cons, inductionHypothesis, flag?_apply]
      cases definition.flag? option <;> simp [Bool.or_assoc]

/-- No step makes a declaration go without an answer. -/
theorem nowait_foldl
    (steps : List QueueOption)
    (definition : QueueDefinition) :
    (steps.foldl apply definition).nowait = definition.nowait := by
  induction steps generalizing definition with
  | nil => rfl
  | cons step steps inductionHypothesis =>
      rw [List.foldl_cons, inductionHypothesis]
      cases step <;> rfl

/-- The flags that are declared are those whose steps occur. -/
theorem flags_build (name : String) (steps : List QueueOption) :
    (build name steps).flags =
      { passive := decide (.passive ∈ steps)
        durable := decide (.durable ∈ steps)
        exclusive := decide (.exclusive ∈ steps)
        autoDelete := decide (.autoDelete ∈ steps)
        nowait := false } := by
  have raised := flag?_foldl steps (new name)
  have passive := raised .passive
  have durable := raised .durable
  have exclusive := raised .exclusive
  have autoDelete := raised .autoDelete
  have nowait := nowait_foldl steps (new name)
  simp only [flag?, new, Option.map_some, Bool.false_or, Option.some.injEq] at *
  simp only [flags, build, new, passive, durable, exclusive, autoDelete, nowait]

/-! ## Limits -/

/-- The limit that is set under a key. -/
def limit? (definition : QueueDefinition) (key : String) : Option Int :=
  if key = messageTtlKey then definition.messageTtl
  else if key = maxLengthKey then definition.maxLength
  else if key = maxLengthBytesKey then definition.maxLengthBytes
  else none

/-- A step sets its own limit and leaves the others. -/
theorem limit?_apply_eq_some_iff
    {definition : QueueDefinition}
    {step : QueueOption}
    {key : String}
    {value : Int} :
    (definition.apply step).limit? key = some value ↔
      step.argument? = some (key, value) ∨
        ((∀ other, step.argument? ≠ some (key, other)) ∧ definition.limit? key = some value) := by
  unfold limit? messageTtlKey maxLengthKey maxLengthBytesKey
  cases step with
  | messageTtl milliseconds =>
      by_cases isKey : key = "x-message-ttl"
      · simp [apply, QueueOption.argument?, isKey]
      · simp [apply, QueueOption.argument?, isKey, Ne.symm isKey]
  | maxLength messages =>
      by_cases isKey : key = "x-max-length"
      · simp [apply, QueueOption.argument?, isKey]
      · simp [apply, QueueOption.argument?, isKey, Ne.symm isKey]
  | maxLengthBytes octets =>
      by_cases isKey : key = "x-max-length-bytes"
      · simp [apply, QueueOption.argument?, isKey]
      · simp [apply, QueueOption.argument?, isKey, Ne.symm isKey]
  | _ => simp [apply, QueueOption.argument?]

/-- Each limit is the last one that was set under its key. -/
theorem limit?_build_eq_some_iff
    {name : String}
    {steps : List QueueOption}
    {key : String}
    {value : Int} :
    (build name steps).limit? key = some value ↔ QueueOption.SetsLast steps key value := by
  unfold build
  induction steps using List.reverseRecOn with
  | nil => simp [limit?, new, QueueOption.not_setsLast_nil]
  | append_singleton steps last inductionHypothesis =>
      rw [List.foldl_append, List.foldl_cons, List.foldl_nil, limit?_apply_eq_some_iff,
        QueueOption.setsLast_concat_iff, inductionHypothesis]

/-- A limit is found under its key, and what was there before under the others. -/
theorem get?_addLimit
    (table : HeaderTable)
    (key : String)
    (limit : Option Int)
    (other : String) :
    Dictionary.get? (addLimit table key limit) other =
      if other = key then
        (limit.map .longInt).or (Dictionary.get? table key)
      else
        Dictionary.get? table other := by
  cases limit with
  | none => by_cases same : other = key <;> simp [addLimit, same]
  | some value =>
      by_cases same : other = key
      · simp [addLimit, same]
      · simp [addLimit, same, Dictionary.get?_insert_other]

/-- A limit takes its place among the arguments. -/
theorem rising_addLimit
    {table : HeaderTable}
    (rising : Dictionary.Rising table)
    (key : String)
    (limit : Option Int) :
    Dictionary.Rising (addLimit table key limit) := by
  cases limit with
  | none => exact rising
  | some value => exact Dictionary.rising_insert rising key (.longInt value)

/-- The arguments are the limits that are set. -/
theorem get?_arguments (definition : QueueDefinition) (key : String) :
    Dictionary.get? definition.arguments key = (definition.limit? key).map .longInt := by
  unfold arguments limit?
  simp only [get?_addLimit, Dictionary.get?_nil]
  by_cases isTtl : key = messageTtlKey
  · simp [isTtl, messageTtlKey, maxLengthKey, maxLengthBytesKey]
  · by_cases isLength : key = maxLengthKey
    · simp [isLength, messageTtlKey, maxLengthKey, maxLengthBytesKey]
    · by_cases isBytes : key = maxLengthBytesKey
      · simp [isBytes, messageTtlKey, maxLengthKey, maxLengthBytesKey]
      · simp [isTtl, isLength, isBytes]

/-- Arguments stand under rising keys, each of them once. -/
theorem rising_arguments (definition : QueueDefinition) :
    Dictionary.Rising definition.arguments := by
  have empty : Dictionary.Rising ([] : HeaderTable) := List.Pairwise.nil
  exact rising_addLimit (rising_addLimit (rising_addLimit empty _ _) _ _) _ _

/-- Equal arguments come from equal limits. -/
theorem limit?_eq_of_arguments_eq
    {definition other : QueueDefinition}
    (same : definition.arguments = other.arguments)
    (key : String) :
    definition.limit? key = other.limit? key := by
  have found := get?_arguments definition key
  rw [same, get?_arguments] at found
  exact (Option.map_injective (fun _ _ => HeaderValue.longInt.inj) found).symm

/-- What is declared decides the definition. -/
theorem eq_iff_declared {definition other : QueueDefinition} :
    definition = other ↔
      definition.name = other.name ∧
        definition.flags = other.flags ∧
          definition.arguments = other.arguments := by
  constructor
  · rintro rfl
    exact ⟨rfl, rfl, rfl⟩
  · rintro ⟨sameName, sameFlags, sameArguments⟩
    have messageTtl := limit?_eq_of_arguments_eq sameArguments messageTtlKey
    have maxLength := limit?_eq_of_arguments_eq sameArguments maxLengthKey
    have maxLengthBytes := limit?_eq_of_arguments_eq sameArguments maxLengthBytesKey
    cases definition
    cases other
    simp_all [flags, limit?, messageTtlKey, maxLengthKey, maxLengthBytesKey]

/--
A queue is declared as its definition was built, for every name and every sequence of steps.  A flag
is declared exactly if its step occurs, and no declaration goes without an answer.  The arguments
are the limits that were set, each under its key once and with the last value that was given for it.
Two definitions are equal exactly if their names, their flags and their arguments are.
-/
theorem declared_as_built (name : String) (steps : List QueueOption) :
    let definition := build name steps
    ((definition.flags.durable = true ↔ .durable ∈ steps) ∧
      (definition.flags.autoDelete = true ↔ .autoDelete ∈ steps) ∧
      (definition.flags.exclusive = true ↔ .exclusive ∈ steps) ∧
      (definition.flags.passive = true ↔ .passive ∈ steps) ∧
      definition.flags.nowait = false) ∧
    (Dictionary.Rising definition.arguments ∧
      ∀ key header,
        Dictionary.get? definition.arguments key = some header ↔
          ∃ value, header = .longInt value ∧ QueueOption.SetsLast steps key value) ∧
    ∀ otherName otherSteps,
      let other := build otherName otherSteps
      definition = other ↔
        definition.name = other.name ∧
          definition.flags = other.flags ∧
            definition.arguments = other.arguments := by
  intro definition
  refine ⟨?_, ⟨rising_arguments definition, fun key header => ?_⟩, fun _ _ => eq_iff_declared⟩
  · simp [definition, flags_build]
  · rw [get?_arguments, Option.map_eq_some_iff]
    constructor
    · rintro ⟨value, isLimit, rfl⟩
      exact ⟨value, rfl, limit?_build_eq_some_iff.mp isLimit⟩
    · rintro ⟨value, rfl, setsLast⟩
      exact ⟨value, limit?_build_eq_some_iff.mpr setsLast, rfl⟩

/-- The last of several limits stays, whatever stands between them; other steps may change
places. -/
example :
    build "jobs" [.maxLength 5, .durable, .maxLength (-1)] =
      build "jobs" [.durable, .durable, .maxLength (-1)] := by
  decide

end QueueDefinition

end BrokerClient
