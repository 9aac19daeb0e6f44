import BrokerClient.Json.Reader.Typed
import BrokerClient.Proofs.Json.Passing

/-!
# Objects are read field by field

An object spells a list of fields: the name of each and what is known of its value, which may be a
text, an unsigned number, or nothing at all.  A reader that takes in such fields one after the
other, whatever stands between them, reads the object.
-/

namespace BrokerClient.Json

/-- What is known of the value of a field. -/
inductive FieldContent where
  | text (value : String)
  | number (value : Nat)
  | any
  deriving Repr, DecidableEq

/-- Octets are a value of which a content is known, with blanks in front. -/
inductive Holds : FieldContent → List UInt8 → Prop where
  | text
      {value : String}
      {blanks inside : List UInt8}
      (areBlank : Blanks blanks)
      (spells : Spells value.toList inside) :
      Holds (.text value) (blanks ++ 0x22 :: (inside ++ [0x22]))
  | number
      {blanks : List UInt8}
      (value : Nat)
      (areBlank : Blanks blanks) :
      Holds (.number value) (blanks ++ decimal value)
  | any
      {octets : List UInt8}
      (derives : Derives .value octets) :
      Holds .any octets

/-- Octets stand before the name of a field, the first one or a further one. -/
inductive Separator : Bool → List UInt8 → Prop where
  | blanks
      {blanks : List UInt8}
      (areBlank : Blanks blanks) :
      Separator true blanks
  | comma
      {before behind : List UInt8}
      (beforeBlank : Blanks before)
      (behindBlank : Blanks behind) :
      Separator false (before ++ 0x2C :: behind)

/-- Octets are fields, the first ones or further ones, up to the closing bracket. -/
inductive Fields : Bool → List (String × FieldContent) → List UInt8 → Prop where
  | close
      {blanks : List UInt8}
      (first : Bool)
      (areBlank : Blanks blanks) :
      Fields first [] (blanks ++ [0x7D])
  | field
      {first : Bool}
      {name : String}
      {content : FieldContent}
      {fields : List (String × FieldContent)}
      {separator inside blanks value others : List UInt8}
      (separates : Separator first separator)
      (spells : Spells name.toList inside)
      (areBlank : Blanks blanks)
      (holds : Holds content value)
      (areOthers : Fields false fields others) :
      Fields first ((name, content) :: fields)
        (separator ++ 0x22 :: (inside ++ 0x22 :: (blanks ++ 0x3A :: (value ++ others))))

/-- Octets are an object with the given fields, with blanks around it. -/
inductive Object : List (String × FieldContent) → List UInt8 → Prop where
  | braces
      {fields : List (String × FieldContent)}
      {before inside behind : List UInt8}
      (beforeBlank : Blanks before)
      (areFields : Fields true fields inside)
      (behindBlank : Blanks behind) :
      Object fields (before ++ 0x7B :: (inside ++ behind))

/-- A reader takes in fields one after the other, from the first state to the last. -/
inductive TakesIn {State : Type} (readField : State → String → Reader State) :
    State → List (String × FieldContent) → State → Prop where
  | nil (state : State) : TakesIn readField state [] state
  | cons
      {state next final : State}
      {name : String}
      {content : FieldContent}
      {fields : List (String × FieldContent)}
      (takes :
        ∀ blanks value rest,
          Blanks blanks → Holds content value → EndsNumeral rest →
            readField state name (blanks ++ 0x3A :: (value ++ rest)) = .ok (next, rest))
      (others : TakesIn readField next fields final) :
      TakesIn readField state ((name, content) :: fields) final

variable {State : Type}

/-- What stands before a name is read as the start of a field. -/
theorem readFieldStart_separator
    {first : Bool}
    {separator : List UInt8}
    (separates : Separator first separator)
    (rest : List UInt8) :
    readFieldStart first (separator ++ 0x22 :: rest) = .ok (true, rest) := by
  have quoteSolid : isBlank 0x22 = false := by decide
  have commaSolid : isBlank 0x2C = false := by decide
  cases separates with
  | blanks areBlank =>
      simp [readFieldStart, skipBlanks_append areBlank, skipBlanks_cons quoteSolid]
  | comma beforeBlank behindBlank =>
      simp [readFieldStart, skipBlanks_append beforeBlank, skipBlanks_cons commaSolid,
        skipBlanks_append behindBlank, skipBlanks_cons quoteSolid]

/-- The closing bracket is read as the end of the fields, and is left in front. -/
theorem readFieldStart_close
    {blanks : List UInt8}
    (areBlank : Blanks blanks)
    (first : Bool)
    (rest : List UInt8) :
    readFieldStart first (blanks ++ 0x7D :: rest) = .ok (false, 0x7D :: rest) := by
  have braceSolid : isBlank 0x7D = false := by decide
  simp [readFieldStart, skipBlanks_append areBlank, skipBlanks_cons braceSolid]

/-- No numeral goes on with further fields. -/
theorem Fields.endsNumeral
    {fields : List (String × FieldContent)}
    {octets : List UInt8}
    (areFields : Fields false fields octets)
    (rest : List UInt8) :
    EndsNumeral (octets ++ rest) := by
  cases areFields with
  | close first areBlank =>
      rw [List.append_assoc]
      apply endsNumeral_blanks areBlank
      decide
  | field separates spells areBlank holds areOthers =>
      cases separates with
      | comma beforeBlank behindBlank =>
          rw [List.append_assoc, List.append_assoc]
          apply endsNumeral_blanks beforeBlank
          decide

/-- Fields that a reader takes in are read up to the closing bracket. -/
theorem foldFieldsFrom_fields
    {readField : State → String → Reader State}
    {first : Bool}
    {fields : List (String × FieldContent)}
    {octets : List UInt8}
    (areFields : Fields first fields octets)
    {state final : State}
    (takesIn : TakesIn readField state fields final)
    (rest : List UInt8)
    {fuel : Nat}
    (enough : octets.length < fuel) :
    foldFieldsFrom readField fuel first state (octets ++ rest) = .ok (final, 0x7D :: rest) := by
  induction areFields generalizing state fuel with
  | close first areBlank =>
      obtain ⟨spare, rfl⟩ := Nat.exists_eq_add_of_lt enough
      cases takesIn
      simp [foldFieldsFrom, readFieldStart_close areBlank, bind, Except.bind]
  | @field first name content fields separator inside blanks value others separates spells areBlank
      holds areOthers inductionHypothesis =>
      obtain ⟨spare, rfl⟩ := Nat.exists_eq_add_of_lt enough
      cases takesIn with
      | cons takes takesOthers =>
          have readsField :=
            takes blanks value (others ++ rest) areBlank holds (areOthers.endsNumeral rest)
          simp only [List.append_assoc, List.cons_append, foldFieldsFrom,
            readFieldStart_separator separates, if_true, readText_spelled spells, readsField,
            bind, Except.bind]
          apply inductionHypothesis takesOthers
          simp only [List.length_append, List.length_cons]
          omega

/-- Fields that a reader takes in are read up to the closing bracket. -/
theorem foldFields_fields
    {readField : State → String → Reader State}
    {fields : List (String × FieldContent)}
    {octets : List UInt8}
    (areFields : Fields true fields octets)
    {state final : State}
    (takesIn : TakesIn readField state fields final)
    (rest : List UInt8) :
    foldFields readField state (octets ++ rest) = .ok (final, 0x7D :: rest) := by
  apply foldFieldsFrom_fields areFields takesIn
  rw [List.length_append]
  omega

/-! ## Values of fields -/

/-- A text is read as that text. -/
theorem readString_text
    {value : String}
    {octets : List UInt8}
    (holds : Holds (.text value) octets)
    (rest : List UInt8) :
    readString (octets ++ rest) = .ok (value, rest) := by
  have quoteSolid : isBlank 0x22 = false := by decide
  cases holds with
  | text areBlank spells =>
      simp only [List.append_assoc, List.cons_append, List.nil_append, readString,
        skipBlanks_append areBlank, skipBlanks_cons quoteSolid, if_true, readText_spelled spells]

/-- A number in range is read as that number. -/
theorem readUnsigned_number
    {value limit : Nat}
    (inRange : value ≤ limit)
    (narrow : limit ≤ largestUnsigned)
    {octets rest : List UInt8}
    (holds : Holds (.number value) octets)
    (ends : EndsNumeral rest)
    (expected : String) :
    readUnsigned limit expected (octets ++ rest) = .ok (value, rest) := by
  cases holds with
  | number value areBlank =>
      rw [List.append_assoc]
      exact readUnsigned_decimal inRange narrow areBlank ends expected

/-- The colon behind a name is taken. -/
theorem readColon_blanks
    {blanks : List UInt8}
    (areBlank : Blanks blanks)
    (rest : List UInt8) :
    readColon (blanks ++ 0x3A :: rest) = .ok ((), rest) := by
  have colonSolid : isBlank 0x3A = false := by decide
  simp only [readColon, skipBlanks_append areBlank, skipBlanks_cons colonSolid, if_true]

/-- A field that has not been read before is read behind its colon. -/
theorem readOnce_blanks
    {Value : Type}
    (readItem : Reader Value)
    (name : String)
    {blanks : List UInt8}
    (areBlank : Blanks blanks)
    (rest : List UInt8) :
    readOnce readItem none name (blanks ++ 0x3A :: rest) = readItem rest := by
  simp only [readOnce, Option.isSome_none, readColon_blanks areBlank, bind, Except.bind]
  rfl

/-- Any value of an unknown field is passed over. -/
theorem skipField_holds
    {octets rest : List UInt8}
    (holds : Holds .any octets)
    {blanks : List UInt8}
    (areBlank : Blanks blanks)
    (ends : EndsNumeral rest) :
    skipField (blanks ++ 0x3A :: (octets ++ rest)) = .ok ((), rest) := by
  cases holds with
  | any derives =>
      simp only [skipField, readColon_blanks areBlank, bind, Except.bind,
        skipValue_derived derives ends]

/-! ## Whole documents -/

/-- What is read between the braces of a document is the value of the document. -/
theorem readAll_braces
    {Value : Type}
    {before inside behind : List UInt8}
    (beforeBlank : Blanks before)
    (behindBlank : Blanks behind)
    (expected : String)
    (fromList : Reader Value)
    {fromObject : Reader Value}
    {value : Value}
    (reads : fromObject (inside ++ behind) = .ok (value, 0x7D :: behind)) :
    readAll (readStructure expected fromList fromObject) (before ++ 0x7B :: (inside ++ behind)) =
      .ok value := by
  have braceSolid : isBlank 0x7B = false := by decide
  have endSolid : isBlank 0x7D = false := by decide
  have notList : ¬ (0x7B : UInt8) = 0x5B := by decide
  have nothing : skipBlanks behind = [] := by
    have skipped := skipBlanks_append behindBlank []
    rwa [List.append_nil] at skipped
  simp only [readAll, readStructure, skipBlanks_append beforeBlank, skipBlanks_cons braceSolid,
    notList, if_false, if_true, reads, closeWith, leaveObject, skipBlanks_cons endSolid, nothing]

/-- An input that is an object is read as what the reader of its fields finds. -/
theorem readAll_object
    {Value : Type}
    {fields : List (String × FieldContent)}
    {document : List UInt8}
    (object : Object fields document)
    (expected : String)
    (fromList : Reader Value)
    {fromObject : Reader Value}
    {value : Value}
    (reads :
      ∀ inside rest,
        Fields true fields inside → fromObject (inside ++ rest) = .ok (value, 0x7D :: rest)) :
    readAll (readStructure expected fromList fromObject) document = .ok value := by
  cases object with
  | @braces before inside behind beforeBlank areFields behindBlank =>
      exact readAll_braces beforeBlank behindBlank expected fromList
        (reads inside behind areFields)

end BrokerClient.Json
