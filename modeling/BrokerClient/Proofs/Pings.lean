import BrokerClient.Proofs.Contents
import BrokerClient.Proofs.Decimals.Denoting
import BrokerClient.Proofs.Json.Significands
import Mathlib.Algebra.Ring.Nat

/-!
# Pings hold exactly the numbers of 64 bits

A ping is written with its number as a string, and is read from a string or from a number.  The two
ways are read by different means, and both take exactly the numbers below 2^64: a string is read as
the number that it denotes, a number as the one whose digits it has.  Whatever else denotes no such
number is refused, and an object without the field is the ping of zero.
-/

namespace BrokerClient

namespace Json

/-! ## Objects in which a field stands once -/

/-- Octets are fields, the first ones or further ones, up to the closing bracket.  One of them has
a name and holds given octets, and all others have other names and any values. -/
inductive FieldsAround (name : String) (value : List UInt8) : Bool → List UInt8 → Prop where
  | here
      {first : Bool}
      {fields : List (String × FieldContent)}
      {separator inside blanks others : List UInt8}
      (separates : Separator first separator)
      (spells : Spells name.toList inside)
      (areBlank : Blanks blanks)
      (areOthers : Fields false fields others)
      (unnamed : ∀ field ∈ fields, field.1 ≠ name ∧ field.2 = .any) :
      FieldsAround name value first
        (separator ++ 0x22 :: (inside ++ 0x22 :: (blanks ++ 0x3A :: (value ++ others))))
  | behind
      {first : Bool}
      {other : String}
      {separator inside blanks passed others : List UInt8}
      (separates : Separator first separator)
      (spells : Spells other.toList inside)
      (isOther : other ≠ name)
      (areBlank : Blanks blanks)
      (holds : Holds .any passed)
      (around : FieldsAround name value false others) :
      FieldsAround name value first
        (separator ++ 0x22 :: (inside ++ 0x22 :: (blanks ++ 0x3A :: (passed ++ others))))

/-- Octets are an object in which a name stands once and holds given octets, with blanks around
it. -/
inductive ObjectAround (name : String) (value : List UInt8) : List UInt8 → Prop where
  | braces
      {before inside behind : List UInt8}
      (beforeBlank : Blanks before)
      (around : FieldsAround name value true inside)
      (behindBlank : Blanks behind) :
      ObjectAround name value (before ++ 0x7B :: (inside ++ behind))

/-- No numeral goes on with further fields. -/
theorem FieldsAround.endsNumeral
    {name : String}
    {value octets : List UInt8}
    (around : FieldsAround name value false octets)
    (rest : List UInt8) :
    EndsNumeral (octets ++ rest) := by
  have ends {separator behind : List UInt8} (separates : Separator false separator) :
      EndsNumeral (separator ++ behind) := by
    cases separates with
    | comma beforeBlank behindBlank =>
        rw [List.append_assoc, List.cons_append]
        exact endsNumeral_blanks beforeBlank (by decide) _
  cases around with
  | here separates =>
      rw [List.append_assoc]
      exact ends separates
  | behind separates =>
      rw [List.append_assoc]
      exact ends separates

section

variable {State : Type} {readField : State → String → Reader State} {name : String}

/-- A reader of fields passes over those that have another name. -/
def PassesOver (readField : State → String → Reader State) (name : String) : Prop :=
  ∀ state other blanks passed rest,
    other ≠ name → Blanks blanks → Holds .any passed → EndsNumeral rest →
      readField state other (blanks ++ 0x3A :: (passed ++ rest)) = .ok (state, rest)

/-- Fields with other names leave everything as it was. -/
theorem takesIn_unnamed
    (passesOver : PassesOver readField name)
    {fields : List (String × FieldContent)}
    (unnamed : ∀ field ∈ fields, field.1 ≠ name ∧ field.2 = .any)
    (state : State) :
    TakesIn readField state fields state := by
  induction fields with
  | nil => exact .nil state
  | cons field fields inductionHypothesis =>
      obtain ⟨other, content⟩ := field
      obtain ⟨⟨isOther, rfl⟩, unnamedOthers⟩ := List.forall_mem_cons.mp unnamed
      refine .cons ?_ (inductionHypothesis unnamedOthers)
      exact fun blanks passed rest => passesOver state other blanks passed rest isOther

/-- Fields are passed over until the one with the name is read; those behind it follow. -/
theorem foldFieldsFrom_around
    (passesOver : PassesOver readField name)
    {value octets : List UInt8}
    {first : Bool}
    (around : FieldsAround name value first octets)
    (state : State)
    (rest : List UInt8)
    {fuel : Nat}
    (enough : octets.length < fuel) :
    ∃ blanks fields others spare,
      Blanks blanks ∧ Fields false fields others ∧
        (∀ field ∈ fields, field.1 ≠ name ∧ field.2 = .any) ∧ others.length < spare ∧
          foldFieldsFrom readField fuel first state (octets ++ rest) =
            (readField state name (blanks ++ 0x3A :: (value ++ (others ++ rest)))).bind fun found =>
              foldFieldsFrom readField spare false found.1 found.2 := by
  induction around generalizing fuel with
  | @here first fields separator inside blanks others separates spells areBlank areOthers
      unnamed =>
      obtain ⟨spare, rfl⟩ := Nat.exists_eq_succ_of_ne_zero (Nat.ne_zero_of_lt enough)
      refine ⟨blanks, fields, others, spare, areBlank, areOthers, unnamed, ?_, ?_⟩
      · simp only [List.length_append, List.length_cons] at enough
        omega
      · simp only [List.append_assoc, List.cons_append, foldFieldsFrom,
          readFieldStart_separator separates, if_true, readText_spelled spells, bind, Except.bind]
  | @behind first other separator inside blanks passed others separates spells isOther areBlank
      holds around inductionHypothesis =>
      obtain ⟨spare, rfl⟩ := Nat.exists_eq_succ_of_ne_zero (Nat.ne_zero_of_lt enough)
      have passes := passesOver state other blanks passed (others ++ rest) isOther areBlank holds
        (around.endsNumeral rest)
      simp only [List.append_assoc, List.cons_append, foldFieldsFrom,
        readFieldStart_separator separates, if_true, readText_spelled spells, passes, bind,
        Except.bind]
      apply inductionHypothesis
      simp only [List.length_append, List.length_cons] at enough
      omega

/-- If the field with the name is read, the fields are read up to the closing bracket. -/
theorem foldFields_around
    (passesOver : PassesOver readField name)
    {value octets : List UInt8}
    (around : FieldsAround name value true octets)
    {start final : State}
    (takes :
      ∀ blanks rest,
        Blanks blanks → EndsNumeral rest →
          readField start name (blanks ++ 0x3A :: (value ++ rest)) = .ok (final, rest))
    (rest : List UInt8) :
    foldFields readField start (octets ++ rest) = .ok (final, 0x7D :: rest) := by
  have enough : octets.length < (octets ++ rest).length + 1 := by
    rw [List.length_append]
    omega
  obtain ⟨blanks, fields, others, spare, areBlank, areOthers, unnamed, few, same⟩ :=
    foldFieldsFrom_around passesOver around start rest enough
  rw [foldFields, same, takes blanks _ areBlank (areOthers.endsNumeral rest)]
  exact foldFieldsFrom_fields areOthers (takesIn_unnamed passesOver unnamed final) rest few

/-- If the field with the name is refused, so are the fields. -/
theorem foldFields_refused
    (passesOver : PassesOver readField name)
    {value octets : List UInt8}
    (around : FieldsAround name value true octets)
    {start : State}
    (refuses :
      ∀ blanks rest,
        Blanks blanks → EndsNumeral rest →
          ∃ failure,
            readField start name (blanks ++ 0x3A :: (value ++ rest)) = .error failure)
    (rest : List UInt8) :
    ∃ failure, foldFields readField start (octets ++ rest) = .error failure := by
  have enough : octets.length < (octets ++ rest).length + 1 := by
    rw [List.length_append]
    omega
  obtain ⟨blanks, fields, others, spare, areBlank, areOthers, -, -, same⟩ :=
    foldFieldsFrom_around passesOver around start rest enough
  obtain ⟨failure, refused⟩ := refuses blanks _ areBlank (areOthers.endsNumeral rest)
  refine ⟨failure, ?_⟩
  rw [foldFields, same, refused]
  rfl

end

/-! ## Whole documents -/

section

variable {Value : Type} {before inside behind : List UInt8} {fromObject : Reader Value}

/-- What is refused inside a list or an object is refused where that is closed. -/
theorem closeWith_error
    (leave : List UInt8 → Option Failure × List UInt8)
    (failure : Failure) :
    ∃ closed,
      closeWith leave (.error failure : Except Failure (Value × List UInt8)) = .error closed := by
  cases failure with
  | placed cause left => exact ⟨_, rfl⟩
  | unplaced cause octets => exact ⟨_, rfl⟩

/-- A document is refused if what stands between its braces is. -/
theorem readAll_refused
    (beforeBlank : Blanks before)
    (expected : String)
    (fromList : Reader Value)
    {failure : Failure}
    (refused : fromObject (inside ++ behind) = .error failure) :
    ∃ fault,
      readAll (readStructure expected fromList fromObject)
          (before ++ 0x7B :: (inside ++ behind)) =
        .error fault := by
  have braceSolid : isBlank 0x7B = false := by decide
  have notList : ¬ (0x7B : UInt8) = 0x5B := by decide
  have isClosed :
      ∃ closed, closeWith leaveObject (fromObject (inside ++ behind)) = .error closed :=
    refused ▸ closeWith_error leaveObject failure
  obtain ⟨closed, closes⟩ := isClosed
  refine ⟨closed.fault (before ++ 0x7B :: (inside ++ behind)), ?_⟩
  simp only [readAll, readStructure, skipBlanks_append beforeBlank, skipBlanks_cons braceSolid,
    notList, if_false, if_true, closes]

end

end Json

namespace Content

open Json

/-! ## What is read as the number of a ping -/

/-- Octets are read as the number of a ping, if there is one, and are refused otherwise. -/
def ReadsNodeId (value : List UInt8) : Option Nat → Prop
  | some nodeId =>
      ∀ rest, EndsNumeral rest → readNodeId (value ++ rest) = .ok (nodeId, rest)
  | none =>
      ∀ rest, EndsNumeral rest → ∃ failure, readNodeId (value ++ rest) = .error failure

/-- Blanks in front of a value are passed over. -/
theorem readNodeId_blanks
    {blanks : List UInt8}
    (areBlank : Blanks blanks)
    (octets : List UInt8) :
    readNodeId (blanks ++ octets) = readNodeId octets := by
  obtain ⟨readBracketed, same⟩ := readValueWithin_eq (depthLimit - 1)
  simp only [readNodeId, same, readValueWith, skipBlanks_append areBlank]

/-- Behind blanks, the same is read as without them. -/
theorem ReadsNodeId.behind_blanks
    {octets : List UInt8}
    {nodeId? : Option Nat}
    (reads : ReadsNodeId octets nodeId?)
    {blanks : List UInt8}
    (areBlank : Blanks blanks) :
    ReadsNodeId (blanks ++ octets) nodeId? := by
  cases nodeId? with
  | none =>
      intro rest ends
      rw [List.append_assoc, readNodeId_blanks areBlank]
      exact reads rest ends
  | some nodeId =>
      intro rest ends
      rw [List.append_assoc, readNodeId_blanks areBlank]
      exact reads rest ends

/-- A string is read as its text. -/
theorem readValueWithin_text
    {text : String}
    {value : List UInt8}
    (holds : Holds (.text text) value)
    (rest : List UInt8)
    (depth : Nat) :
    readValueWithin depth (value ++ rest) = .ok (.string text, rest) := by
  have quoteSolid : isBlank 0x22 = false := by decide
  have noDigit : isDigit 0x22 = false := by decide
  obtain ⟨readBracketed, same⟩ := readValueWithin_eq depth
  cases holds with
  | text areBlank spells =>
      simp [same, readValueWith, skipBlanks_append areBlank, skipBlanks_cons quoteSolid, noDigit,
        readText_spelled spells, bind, Except.bind]

/-- A string that denotes a number in range is read as that number. -/
theorem readsNodeId_denoting
    {text : String}
    {value : List UInt8}
    (holds : Holds (.text text) value)
    {nodeId : Nat}
    (denotes : Decimal.Denotes text.toList nodeId)
    (inRange : nodeId ≤ nodeIdLimit) :
    ReadsNodeId value (some nodeId) := by
  intro rest _
  have found := Decimal.read_eq_ok_iff.mpr ⟨denotes, inRange⟩
  simp only [readNodeId, readValueWithin_text holds, found, bind, Except.bind]

/-- A string that denotes no number in range is refused. -/
theorem readsNodeId_not_denoting
    {text : String}
    {value : List UInt8}
    (holds : Holds (.text text) value)
    (outOfRange : ∀ nodeId, Decimal.Denotes text.toList nodeId → nodeIdLimit < nodeId) :
    ReadsNodeId value none := by
  intro rest _
  cases found : Decimal.read nodeIdLimit text.toList with
  | error failure =>
      refine ⟨.unplaced (.invalidUnsigned failure) rest, ?_⟩
      simp only [readNodeId, readValueWithin_text holds, found, bind, Except.bind]
  | ok nodeId =>
      obtain ⟨denotes, inRange⟩ := Decimal.read_eq_ok_iff.mp found
      exact absurd inRange (Nat.not_le.mpr (outOfRange nodeId denotes))

/-- What is read as a number, but as no whole number or as a negative one, is refused. -/
theorem readNodeId_refused
    {octets : List UInt8}
    {found : Except Failure (Numeral × List UInt8)}
    (isNumber :
      readValueWithin (depthLimit - 1) octets =
        found.map fun found => (.number found.1, found.2))
    (noNodeId : ∀ value rest, found = .ok (.integer value, rest) → value < 0) :
    ∃ failure, readNodeId octets = .error failure := by
  cases found with
  | error failure =>
      refine ⟨failure, ?_⟩
      simp only [readNodeId, isNumber, Except.map, bind, Except.bind]
  | ok found =>
      obtain ⟨numeral, rest⟩ := found
      cases numeral with
      | float value =>
          refine ⟨.unplaced (.noSuchVariant "Repr") rest, ?_⟩
          simp only [readNodeId, isNumber, Except.map, bind, Except.bind]
      | integer value =>
          have negative : ¬ 0 ≤ value := Int.not_le.mpr (noNodeId value rest rfl)
          refine ⟨.unplaced (.noSuchVariant "Repr") rest, ?_⟩
          simp only [readNodeId, isNumber, Except.map, bind, Except.bind, negative, if_false]

/-- A number in decimal is read as that number, if it is in range. -/
theorem readsNodeId_decimal
    {nodeId : Nat}
    (inRange : nodeId ≤ nodeIdLimit) :
    ReadsNodeId (decimal nodeId) (some nodeId) := by
  intro rest ends
  obtain ⟨readBracketed, same⟩ := readValueWithin_eq (depthLimit - 1)
  have limit : nodeIdLimit = 18446744073709551615 := by decide
  have reads := readValueWith_integer readBracketed
    (by omega : -9223372036854775808 ≤ (nodeId : Int)) (by omega)
  have found := reads.takes rest ends
  have written : write (.number (.integer nodeId)) = decimal nodeId := rfl
  have natural : (0 : Int) ≤ nodeId := Int.natCast_nonneg nodeId
  rw [written] at found
  simp only [readNodeId, same, found, natural, if_true, Int.toNat_natCast, bind, Except.bind]

/-- A numeral that is no number in range in decimal is refused. -/
theorem readsNodeId_not_decimal
    {numeral : List UInt8}
    (unsigned : Unsigned numeral)
    (outOfRange : ∀ nodeId, numeral = decimal nodeId → nodeIdLimit < nodeId) :
    ReadsNodeId numeral none := by
  intro rest ends
  obtain ⟨readBracketed, same⟩ := readValueWithin_eq (depthLimit - 1)
  obtain ⟨first, others, starts, leads⟩ := unsigned.leads
  have isNumber := readValueWith_digit readBracketed leads (others ++ rest)
  rw [← same, ← List.cons_append, ← starts] at isNumber
  apply readNodeId_refused isNumber
  intro value behind reads
  obtain ⟨nodeId, inRange, isDecimal, -⟩ := eq_decimal_of_readNumeral unsigned ends reads
  exact absurd inRange (Nat.not_le.mpr (outOfRange nodeId isDecimal))

/-- Whatever stands behind a minus sign is refused. -/
theorem readsNodeId_minus (octets : List UInt8) : ReadsNodeId (0x2D :: octets) none := by
  intro rest ends
  obtain ⟨readBracketed, same⟩ := readValueWithin_eq (depthLimit - 1)
  have isNumber := readValueWith_minus readBracketed (octets ++ rest)
  rw [← same] at isNumber
  apply readNodeId_refused isNumber
  exact fun value behind reads => negative_of_readNumeral reads

/-! ## Fields and documents -/

/-- A reader of pings passes over all fields but its own. -/
theorem passesOver_readPingField : PassesOver readPingField pingField := by
  intro state other blanks passed rest isOther areBlank holds ends
  simp only [readPingField, isOther, if_false, skipField_holds holds areBlank ends, bind,
    Except.bind]

/-- A document is decoded as the ping that its reader finds in the whole of it. -/
theorem decode_ping (document : List UInt8) :
    ContentKind.ping.decode document = (Codec.decode readPing document).map .ping :=
  Codec.decode_map readPing Content.ping document

/-- A document with the field is decoded as the number that the field is read as. -/
theorem decode_of_readsNodeId
    {value document : List UInt8}
    {nodeId : Nat}
    (reads : ReadsNodeId value (some nodeId))
    (object : ObjectAround pingField value document) :
    ContentKind.ping.decode document = .ok (.ping nodeId) := by
  cases object with
  | @braces before inside behind beforeBlank around behindBlank =>
      have folded :
          foldFields readPingField none (inside ++ behind) =
            .ok (some nodeId, 0x7D :: behind) := by
        apply foldFields_around passesOver_readPingField around
        intro blanks rest areBlank ends
        simp only [readPingField, if_true, readOnce_blanks readNodeId _ areBlank, reads rest ends,
          bind, Except.bind]
      have found : readPingFields (inside ++ behind) = .ok (nodeId, 0x7D :: behind) := by
        simp only [readPingFields, folded, bind, Except.bind, Option.getD_some]
      rw [decode_ping, Codec.decode, readPing, readAll_braces beforeBlank behindBlank _ _ found]
      rfl

/-- A document with the field is refused if the field is. -/
theorem decode_refused
    {value document : List UInt8}
    (refuses : ReadsNodeId value none)
    (object : ObjectAround pingField value document) :
    ∃ reason, ContentKind.ping.decode document = .error (.decode reason) := by
  cases object with
  | @braces before inside behind beforeBlank around behindBlank =>
      have folded :
          ∃ failure, foldFields readPingField none (inside ++ behind) = .error failure := by
        apply foldFields_refused passesOver_readPingField around
        intro blanks rest areBlank ends
        obtain ⟨failure, refused⟩ := refuses rest ends
        refine ⟨failure, ?_⟩
        simp only [readPingField, if_true, readOnce_blanks readNodeId _ areBlank, refused, bind,
          Except.bind]
      obtain ⟨failure, folded⟩ := folded
      have refused : readPingFields (inside ++ behind) = .error failure := by
        simp only [readPingFields, folded, bind, Except.bind]
      obtain ⟨fault, faulty⟩ :=
        readAll_refused beforeBlank "struct Ping" readPingItems refused
      refine ⟨fault.message, ?_⟩
      rw [decode_ping, Codec.decode, readPing, faulty]
      rfl

/-- A document without the field is decoded as the ping of zero. -/
theorem decode_without_field
    {fields : List (String × FieldContent)}
    {document : List UInt8}
    (object : Object fields document)
    (unnamed : ∀ field ∈ fields, field.1 ≠ pingField ∧ field.2 = .any) :
    ContentKind.ping.decode document = .ok (.ping 0) := by
  have found : readAll readPing document = .ok 0 := by
    apply readAll_object object
    intro inside rest areFields
    have takesIn := takesIn_unnamed passesOver_readPingField unnamed none
    simp only [readPingFields, foldFields_fields areFields takesIn rest, bind, Except.bind,
      Option.getD_none]
  rw [decode_ping, Codec.decode, found]
  rfl

/-! ## What is written -/

/-- Digits stand for themselves in a string. -/
theorem flatMap_writeChar_write (value : Nat) :
    (Decimal.write value).flatMap writeChar = decimal value := by
  have itself {digit : Nat} (small : digit < 10) :
      writeChar (Nat.digitChar digit) = [digitOctet digit] := by
    have checked : ∀ digit < 10, writeChar (Nat.digitChar digit) = [digitOctet digit] := by decide
    exact checked digit small
  induction value using Decimal.induction_along_digits with
  | digit digit small => simp [Decimal.write_digit small, decimal_digit small, itself small]
  | behind value digit positive small inductionHypothesis =>
      simp [Decimal.write_behind positive small, decimal_behind positive small,
        inductionHypothesis, itself small]

/-- The text of a number has its digits. -/
theorem toList_toString (value : Nat) : (toString value).toList = Decimal.write value :=
  String.toList_ofList

/-- A number is written as a string of its digits. -/
theorem writeString_toString (nodeId : Nat) :
    writeString (toString nodeId) = 0x22 :: (decimal nodeId ++ [0x22]) := by
  rw [writeString, toList_toString, flatMap_writeChar_write]

/-- The body of a ping is an object with the one field, which holds its number in decimal. -/
theorem encode_ping (nodeId : Nat) :
    (Message.ping nodeId).encode =
      .ok (ascii "\x7b\"fromNodeId\":\"" ++ (decimal nodeId ++ ascii "\"\x7d")) := by
  have name : ascii "\x7b\"fromNodeId\":\"" =
      0x7B :: (writeString "fromNodeId" ++ [0x3A, 0x22]) := by
    decide
  have finish : ascii "\"\x7d" = [0x22, 0x7D] := by decide
  have object :
      write (.object [("fromNodeId", .string (toString nodeId))]) =
        0x7B :: (writeString "fromNodeId" ++ 0x3A :: (writeString (toString nodeId) ++ [0x7D])) :=
    rfl
  rw [Message.encode, Message.toJson, Except.map, Codec.encode, object, writeString_toString, name,
    finish]
  simp only [List.append_assoc, List.cons_append, List.nil_append]

/-- The body of a ping is an object around its number as a string. -/
theorem objectAround_encode_ping (nodeId : Nat) :
    ObjectAround pingField (writeString (toString nodeId))
      (Codec.encode (.object [("fromNodeId", .string (toString nodeId))])) := by
  have around : FieldsAround pingField (writeString (toString nodeId)) true _ :=
    .here (.blanks blanks_nil) (spells_write pingField.toList) blanks_nil (.close false blanks_nil)
      (by simp)
  have object := ObjectAround.braces blanks_nil around blanks_nil
  simpa [Codec.encode, write, writeRestOfFields, writeString, pingField] using object

end Content

open Json

/--
Pings hold exactly the numbers below 2^64.  A ping is encoded as an object with the one field,
which holds its number in decimal as a string, and is decoded from that.  However an object is
spelled that has the field once, besides any others: from a string in the field a ping is decoded
with the number below 2^64 that the string denotes, from a number in the field with the number
below 2^64 whose digits it has, and if there is no such number decoding fails.  An object without
the field is decoded as the ping of zero.
-/
theorem ping_exact :
    (∀ nodeId,
      (Message.ping nodeId).encode =
        .ok (ascii "\x7b\"fromNodeId\":\"" ++ (decimal nodeId ++ ascii "\"\x7d"))) ∧
    (∀ nodeId < 2 ^ 64,
      (Message.ping nodeId).encode.bind ContentKind.ping.decode = .ok (.ping nodeId)) ∧
    (∀ text value document,
      Holds (.text text) value → ObjectAround "fromNodeId" value document →
        (∀ nodeId < 2 ^ 64,
          Decimal.Denotes text.toList nodeId →
            ContentKind.ping.decode document = .ok (.ping nodeId)) ∧
          ((∀ nodeId < 2 ^ 64, ¬ Decimal.Denotes text.toList nodeId) →
            ∃ reason, ContentKind.ping.decode document = .error (.decode reason))) ∧
    (∀ blanks numeral document,
      Blanks blanks → Unsigned numeral → ObjectAround "fromNodeId" (blanks ++ numeral) document →
        (∀ nodeId < 2 ^ 64,
          numeral = decimal nodeId →
            ContentKind.ping.decode document = .ok (.ping nodeId)) ∧
          ((∀ nodeId < 2 ^ 64, numeral ≠ decimal nodeId) →
            ∃ reason, ContentKind.ping.decode document = .error (.decode reason))) ∧
    (∀ blanks numeral document,
      Blanks blanks → ObjectAround "fromNodeId" (blanks ++ 0x2D :: numeral) document →
        ∃ reason, ContentKind.ping.decode document = .error (.decode reason)) ∧
    ∀ fields document,
      Object fields document →
        (∀ field ∈ fields, field.1 ≠ "fromNodeId" ∧ field.2 = .any) →
          ContentKind.ping.decode document = .ok (.ping 0) := by
  have limit : Content.nodeIdLimit = 2 ^ 64 - 1 := rfl
  have withinLimit {nodeId : Nat} (inRange : nodeId < 2 ^ 64) : nodeId ≤ Content.nodeIdLimit := by
    omega
  have beyondLimit {nodeId : Nat} (outOfRange : ¬ nodeId < 2 ^ 64) :
      Content.nodeIdLimit < nodeId := by
    omega
  refine ⟨Content.encode_ping, ?_, ?_, ?_, ?_, ?_⟩
  · intro nodeId inRange
    have denotes : Decimal.Denotes (toString nodeId).toList nodeId := by
      rw [Content.toList_toString]
      exact (Decimal.read_eq_ok_iff.mp (Decimal.read_write (Nat.le_refl nodeId))).1
    have holds : Holds (.text (toString nodeId)) (writeString (toString nodeId)) :=
      .text blanks_nil (spells_write _)
    exact Content.decode_of_readsNodeId
      (Content.readsNodeId_denoting holds denotes (withinLimit inRange))
      (Content.objectAround_encode_ping nodeId)
  · intro text value document holds object
    constructor
    · intro nodeId inRange denotes
      exact Content.decode_of_readsNodeId
        (Content.readsNodeId_denoting holds denotes (withinLimit inRange)) object
    · intro none
      refine Content.decode_refused (Content.readsNodeId_not_denoting holds ?_) object
      exact fun nodeId denotes => beyondLimit fun inRange => none nodeId inRange denotes
  · intro blanks numeral document areBlank unsigned object
    constructor
    · rintro nodeId inRange rfl
      exact Content.decode_of_readsNodeId
        ((Content.readsNodeId_decimal (withinLimit inRange)).behind_blanks areBlank) object
    · intro none
      refine Content.decode_refused
        ((Content.readsNodeId_not_decimal unsigned ?_).behind_blanks areBlank) object
      exact fun nodeId isDecimal => beyondLimit fun inRange => none nodeId inRange isDecimal
  · intro blanks numeral document areBlank object
    exact Content.decode_refused ((Content.readsNodeId_minus numeral).behind_blanks areBlank) object
  · intro fields document object unnamed
    exact Content.decode_without_field object unnamed

/-- An object with blanks, another field, and an escape in the name of the field of a ping. -/
def Content.spacedPing (value : List UInt8) : List UInt8 :=
  ascii " \x7b\"x\"\t: null\n,\"\\u0066romNodeId\" :" ++ (value ++ ascii "\r\x7d\n")

/-- The field stands once in that object. -/
theorem Content.objectAround_spacedPing (value : List UInt8) :
    ObjectAround "fromNodeId" value (spacedPing value) := by
  have alone {octet : UInt8} (blank : isBlank octet = true) : Blanks [octet] := by
    simpa [Blanks] using blank
  have space : Blanks [0x20] := alone (by decide)
  have tab : Blanks [0x09] := alone (by decide)
  have newline : Blanks [0x0A] := alone (by decide)
  have carriage : Blanks [0x0D] := alone (by decide)
  have escaped :
      Spells "fromNodeId".toList (0x5C :: 0x75 :: ascii "0066" ++ ascii "romNodeId") := by
    have zero : HexDigit 0x30 0 := .inl ⟨by decide, by decide⟩
    have six : HexDigit 0x36 6 := .inl ⟨by decide, by decide⟩
    have letter : SpellsCharacter 'f' (0x5C :: 0x75 :: ascii "0066") := by
      have code := HexCode.digits zero zero six six
      exact .code code
    exact .cons letter (spells_write "romNodeId".toList)
  have null : Holds .any ([0x20] ++ ascii "null") :=
    .any (.scalar space (.word (by decide)))
  have around : FieldsAround "fromNodeId" value true _ :=
    .behind (.blanks blanks_nil) (spells_write "x".toList) (by decide) tab null
      (.here (.comma newline blanks_nil) escaped space (.close false carriage) (by simp))
  have object := ObjectAround.braces space around newline
  have front : ascii " \x7b\"x\"\t: null\n,\"\\u0066romNodeId\" :" =
      [0x20] ++ 0x7B :: 0x22 :: ("x".toList.flatMap writeChar ++ 0x22 :: ([0x09] ++ 0x3A ::
        ([0x20] ++ ascii "null" ++ ([0x0A] ++ 0x2C :: 0x22 ::
          (0x5C :: 0x75 :: ascii "0066" ++ ascii "romNodeId" ++ 0x22 ::
            ([0x20] ++ [0x3A])))))) := by
    decide
  have back : ascii "\r\x7d\n" = [0x0D] ++ [0x7D] ++ [0x0A] := by decide
  rw [spacedPing, front, back]
  simpa only [List.append_assoc, List.cons_append, List.nil_append] using object

/-- The largest number is decoded from a string and from a number, the next one from neither. -/
theorem ping_exact_largest :
    ContentKind.ping.decode (Content.spacedPing (ascii "\"+0018446744073709551615\"")) =
        .ok (.ping 18446744073709551615) ∧
      ContentKind.ping.decode (Content.spacedPing (ascii "18446744073709551615")) =
          .ok (.ping 18446744073709551615) ∧
        (∃ reason,
          ContentKind.ping.decode (Content.spacedPing (ascii "\"18446744073709551616\"")) =
            .error (.decode reason)) ∧
          ∃ reason,
            ContentKind.ping.decode (Content.spacedPing (ascii "18446744073709551616")) =
              .error (.decode reason) := by
  obtain ⟨-, -, fromText, fromNumber, -, -⟩ := ping_exact
  have unsigned (value : Nat) : Unsigned (decimal value) := by
    have parts := Unsigned.parts (whole_decimal value) .absent .absent
    rwa [List.append_nil, List.append_nil] at parts
  refine ⟨?_, ?_, ?_, ?_⟩
  · have holds : Holds (.text "+0018446744073709551615") (ascii "\"+0018446744073709551615\"") :=
      .text blanks_nil (spells_write "+0018446744073709551615".toList)
    have areDigits : ∀ digit ∈ "0018446744073709551615".toList, digit.isDigit = true :=
      List.all_eq_true.mp (by decide)
    have denotes := Decimal.Denotes.signed (by decide) areDigits
    exact (fromText _ _ _ holds (Content.objectAround_spacedPing _)).1 _ (by decide) denotes
  · have written : ascii "18446744073709551615" = decimal 18446744073709551615 := by decide
    have object := Content.objectAround_spacedPing (decimal 18446744073709551615)
    rw [written]
    exact (fromNumber [] (decimal 18446744073709551615) _ blanks_nil (unsigned _) object).1 _
      (by decide) rfl
  · have holds : Holds (.text "18446744073709551616") (ascii "\"18446744073709551616\"") :=
      .text blanks_nil (spells_write "18446744073709551616".toList)
    have refused :
        Decimal.read 18446744073709551615 "18446744073709551616".toList = .error .tooLarge := by
      decide
    refine (fromText _ _ _ holds (Content.objectAround_spacedPing _)).2 ?_
    intro nodeId inRange denotes
    rw [Decimal.read_eq_ok_iff.mpr ⟨denotes, Nat.le_of_lt_succ inRange⟩] at refused
    contradiction
  · have written : ascii "18446744073709551616" = decimal 18446744073709551616 := by decide
    have object := Content.objectAround_spacedPing (decimal 18446744073709551616)
    rw [written]
    refine (fromNumber [] (decimal 18446744073709551616) _ blanks_nil (unsigned _) object).2 ?_
    intro nodeId inRange same
    rw [← decimal_injective same] at inRange
    exact absurd inRange (by decide)

end BrokerClient
