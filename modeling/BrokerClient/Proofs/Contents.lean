import BrokerClient.Content
import BrokerClient.Message
import BrokerClient.Proofs.Json.RoundTrip

/-!
# Contents are decoded as they were encoded

A body is decoded as the content that it was encoded from: a value that readers are able to take, a
greeting with any text, or a list of texts.
-/

namespace BrokerClient

open Json

/-- What is made of what a reader finds is what a body is decoded as. -/
theorem Codec.decode_map
    {Found Made : Type}
    (read : Reader Found)
    (make : Found → Made)
    (body : List UInt8) :
    Codec.decode (fun octets => (read octets).map fun found => (make found.1, found.2)) body =
      (Codec.decode read body).map make := by
  cases found : read body with
  | error failure => simp only [Codec.decode, readAll, found, Except.map]
  | ok result =>
      obtain ⟨value, rest⟩ := result
      simp only [Codec.decode, readAll, found, Except.map]
      cases behind : skipBlanks rest with
      | nil => rfl
      | cons octet others => rfl

/-- A body is decoded as what the reader for its kind finds where it was written. -/
theorem ContentKind.decode_of_reads
    {kind : ContentKind}
    {content : Content}
    {written : Json}
    (reads : Reads kind.reader content written) :
    kind.decode (Codec.encode written) = .ok content := by
  simp [ContentKind.decode, Codec.decode, Codec.encode, readAll_of_reads reads]

namespace Content

/-- The text of a greeting is read in its field. -/
theorem takesIn_greetingField (words : String) :
    TakesIn readGreetingField none [(greetingField, .text words)] (some words) := by
  refine .cons ?_ (.nil _)
  intro blanks value rest areBlank holds _
  simp [readGreetingField, readOnce_blanks readString _ areBlank, readString_text holds, bind,
    Except.bind]

/-- A greeting is read as it was written. -/
theorem reads_greeting (words : String) :
    Reads readGreeting words (.object [("text", .string words)]) := by
  have braceSolid : isBlank 0x7B = false := by decide
  have endSolid : isBlank 0x7D = false := by decide
  refine ⟨⟨_, _, rfl, braceSolid, by decide⟩, fun rest _ => ?_⟩
  have areFields : Fields true [(greetingField, .text words)]
      (writeString greetingField ++ 0x3A :: (writeString words ++ [0x7D])) := by
    have fields := Fields.field (.blanks blanks_nil) (spells_write greetingField.toList) blanks_nil
      (.text blanks_nil (spells_write words.toList)) (.close false blanks_nil)
    simpa only [writeString, List.nil_append, List.cons_append, List.append_assoc] using fields
  have found := foldFields_fields areFields (takesIn_greetingField words) rest
  have written : write (.object [("text", .string words)]) =
      0x7B :: (writeString greetingField ++ 0x3A :: (writeString words ++ [0x7D])) := rfl
  have isObject : ¬ (0x7B : UInt8) = 0x5B := by decide
  rw [written, List.cons_append, readGreeting, readStructure, skipBlanks_cons braceSolid]
  simp only [isObject, if_false, if_true, readGreetingFields, found, closeWith, leaveObject,
    skipBlanks_cons endSolid, bind, Except.bind]

end Content

/--
Decoding undoes encoding: of values that hold whole numbers of 64 bits and at most 127 open
brackets, of greetings with any text, and of lists of texts.
-/
theorem decode_encode :
    (∀ value,
      Fits 127 value →
        (Message.value value).encode.bind ContentKind.value.decode = .ok (.value value)) ∧
    (∀ words,
      (Message.greeting words).encode.bind ContentKind.greeting.decode = .ok (.greeting words)) ∧
    ∀ texts : List String,
      ContentKind.texts.decode (Codec.encode (.array (texts.map .string))) =
        .ok (.texts texts) := by
  refine ⟨fun value fits => ?_, fun words => ?_, fun texts => ?_⟩
  · have reads : Reads readValue value value := fits.reads
    exact ContentKind.decode_of_reads (reads.map Content.value)
  · exact ContentKind.decode_of_reads ((Content.reads_greeting words).map Content.greeting)
  · have reads : Reads (readList readString) texts (.array (texts.map .string)) :=
      readList_written fun text _ => reads_string text
    exact ContentKind.decode_of_reads (reads.map Content.texts)

/-- A value inside as many lists. -/
def Json.nested : Nat → Json → Json
  | 0, value => value
  | depth + 1, value => .array [nested depth value]

/-- Each list around a value takes a bracket more. -/
theorem Json.Fits.nested
    {depth : Nat}
    {value : Json}
    (fits : Fits depth value)
    (lists : Nat) :
    Fits (depth + lists) (Json.nested lists value) := by
  induction lists with
  | zero => exact fits
  | succ lists inductionHypothesis =>
      refine .array fun item member => ?_
      obtain rfl := List.mem_singleton.mp member
      exact inductionHypothesis

/-- An object with both limits of whole numbers, and with characters that are escaped. -/
def Json.limits : Json :=
  .object
    [("\"\\", .string "\n\x00é"),
      ("high", .ofInt 18446744073709551615),
      ("low", .ofInt (-9223372036854775808))]

theorem Json.fits_limits : Fits 1 Json.limits := by
  refine .object (by decide) ?_
  simp only [List.forall_mem_cons, List.not_mem_nil, false_implies, implies_true, and_true]
  exact ⟨.string 0 _, .integer 0 (by decide) (by decide), .integer 0 (by decide) (by decide)⟩

/-- The limits are decoded inside as many lists as may be open. -/
theorem decode_encode_limits :
    Fits 127 (Json.nested 126 Json.limits) ∧
      (Message.value (Json.nested 126 Json.limits)).encode.bind ContentKind.value.decode =
        .ok (.value (Json.nested 126 Json.limits)) := by
  have fits : Fits 127 (Json.nested 126 Json.limits) := Json.fits_limits.nested 126
  exact ⟨fits, decode_encode.1 _ fits⟩

end BrokerClient
