import BrokerClient.Json.Fault

/-!
# Blanks and words between values

Four octets are blank between the parts of a JSON text.  The three words `null`, `true` and
`false` are read octet by octet.
-/

namespace BrokerClient.Json

/-- Whether an octet is blank between values. -/
def isBlank (octet : UInt8) : Bool :=
  octet = 0x20 || octet = 0x09 || octet = 0x0A || octet = 0x0D

/-- The input without the blanks at its front. -/
def skipBlanks (octets : List UInt8) : List UInt8 :=
  octets.dropWhile isBlank

/-- Whether an octet is a decimal digit. -/
def isDigit (octet : UInt8) : Bool :=
  0x30 ≤ octet && octet ≤ 0x39

/-- The value of a decimal digit. -/
def digitValue (octet : UInt8) : Nat :=
  octet.toNat - 0x30

/-- Take the octets of a word. -/
def readWord : List UInt8 → Reader Unit
  | [], octets => .ok ((), octets)
  | _ :: _, [] => .error (.consumed .endInValue [])
  | expected :: word, octet :: rest =>
      if octet = expected then readWord word rest
      else .error (.consumed .expectedWord rest)

/-- A word that stands at the front is taken whole. -/
theorem readWord_append (word rest : List UInt8) :
    readWord word (word ++ rest) = .ok ((), rest) := by
  induction word with
  | nil => rfl
  | cons octet word inductionHypothesis => simp [readWord, inductionHypothesis]

/-- Blanks that are skipped do not come back. -/
theorem skipBlanks_skipBlanks (octets : List UInt8) :
    skipBlanks (skipBlanks octets) = skipBlanks octets := by
  induction octets with
  | nil => rfl
  | cons octet rest inductionHypothesis =>
      by_cases blank : isBlank octet
      · simpa [skipBlanks, blank] using inductionHypothesis
      · simp [skipBlanks, blank]

end BrokerClient.Json
