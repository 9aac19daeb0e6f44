import BrokerClient.Json.Reader.Blank
import BrokerClient.Text.Utf8

/-!
# Reading strings

A string is read up to the closing quote.  Escapes are replaced by the octets that they stand
for; characters beyond the first plane are escaped as a pair of surrogates, and a surrogate
without its partner is refused.  What comes out has to be well-formed text.
-/

namespace BrokerClient.Json

/-- The value of a hexadecimal digit. -/
def hexValue? (octet : UInt8) : Option Nat :=
  if 0x30 ≤ octet ∧ octet ≤ 0x39 then some (octet.toNat - 0x30)
  else if 0x41 ≤ octet ∧ octet ≤ 0x46 then some (octet.toNat - 0x37)
  else if 0x61 ≤ octet ∧ octet ≤ 0x66 then some (octet.toNat - 0x57)
  else none

/-- The value of four hexadecimal digits. -/
def hexValue4? (first second third fourth : UInt8) : Option Nat :=
  match hexValue? first, hexValue? second, hexValue? third, hexValue? fourth with
  | some first, some second, some third, some fourth =>
      some (((first * 16 + second) * 16 + third) * 16 + fourth)
  | _, _, _, _ => none

/-- Read the four digits of a code; too short an input is taken whole. -/
def readCode : Reader Nat
  | first :: second :: third :: fourth :: rest =>
      match hexValue4? first second third fourth with
      | some code => .ok (code, rest)
      | none => .error (.consumed .invalidEscape rest)
  | _ => .error (.consumed .endInString [])

/-- Take one octet that a leading surrogate has to be followed by. -/
def expectInPair (expected : UInt8) : Reader Unit
  | [] => .error (.consumed .endInString [])
  | octet :: rest =>
      if octet = expected then .ok ((), rest)
      else .error (.consumed .missingSurrogate rest)

/-- Read the trailing surrogate of a pair and put the two together. -/
def readTrailing (leading : Nat) : Reader Nat := fun octets => do
  let ((), octets) ← expectInPair 0x5C octets
  let ((), octets) ← expectInPair 0x75 octets
  let (trailing, rest) ← readCode octets
  if 0xDC00 ≤ trailing ∧ trailing ≤ 0xDFFF then
    .ok (0x10000 + (leading - 0xD800) * 0x400 + (trailing - 0xDC00), rest)
  else
    .error (.consumed .loneSurrogate rest)

/-- Read the code of a character, which may take two escapes. -/
def readCodePoint : Reader Nat := fun octets => do
  let (code, rest) ← readCode octets
  if 0xDC00 ≤ code ∧ code ≤ 0xDFFF then .error (.consumed .loneSurrogate rest)
  else if 0xD800 ≤ code ∧ code ≤ 0xDBFF then readTrailing code rest
  else .ok (code, rest)

/-- The octet that a one-letter escape stands for. -/
def plainEscape? (letter : UInt8) : Option UInt8 :=
  if letter = 0x22 then some 0x22
  else if letter = 0x5C then some 0x5C
  else if letter = 0x2F then some 0x2F
  else if letter = 0x62 then some 0x08
  else if letter = 0x66 then some 0x0C
  else if letter = 0x6E then some 0x0A
  else if letter = 0x72 then some 0x0D
  else if letter = 0x74 then some 0x09
  else none

/-- Read an escape behind its backslash. -/
def readEscape : Reader (List UInt8)
  | [] => .error (.consumed .endInString [])
  | letter :: rest =>
      match plainEscape? letter with
      | some octet => .ok ([octet], rest)
      | none =>
          if letter = 0x75 then do
            let (code, rest) ← readCodePoint rest
            .ok (Utf8.encodeChar (Char.ofNat code), rest)
          else
            .error (.consumed .invalidEscape rest)

/-- Read the octets of a string up to its closing quote, in at most `fuel` steps. -/
def readOctetsFrom : Nat → Reader (List UInt8)
  | 0, octets => .error (.consumed .endInString octets)
  | fuel + 1, octets =>
      match octets with
      | [] => .error (.consumed .endInString [])
      | octet :: rest =>
          if octet = 0x22 then .ok ([], rest)
          else if octet = 0x5C then do
            let (escaped, rest) ← readEscape rest
            let (found, rest) ← readOctetsFrom fuel rest
            .ok (escaped ++ found, rest)
          else if octet < 0x20 then .error (.consumed .controlCharacter rest)
          else do
            let (found, rest) ← readOctetsFrom fuel rest
            .ok (octet :: found, rest)

/-- Read the octets of a string behind its opening quote; every step takes an octet. -/
def readOctets : Reader (List UInt8) := fun octets =>
  readOctetsFrom (octets.length + 1) octets

/--
Read a string behind its opening quote.  The place of ill-formed octets is counted back from the
closing quote.
-/
def readText : Reader String := fun octets => do
  let (found, rest) ← readOctets octets
  match Utf8.decode? found with
  | some text => .ok (text, rest)
  | none =>
      .error (.placed .invalidCharacter
        (rest.length + (found.length - Utf8.wellFormedLength found)))

/-- Pass over the octets of a string up to its closing quote, in at most `fuel` steps. -/
def skipOctetsFrom : Nat → Reader Unit
  | 0, octets => .error (.consumed .endInString octets)
  | fuel + 1, octets =>
      match octets with
      | [] => .error (.consumed .endInString [])
      | octet :: rest =>
          if octet = 0x22 then .ok ((), rest)
          else if octet = 0x5C then
            match rest with
            | [] => .error (.consumed .endInString [])
            | letter :: rest =>
                if (plainEscape? letter).isSome then skipOctetsFrom fuel rest
                else if letter = 0x75 then do
                  let (_, rest) ← readCode rest
                  skipOctetsFrom fuel rest
                else .error (.consumed .invalidEscape rest)
          else if octet < 0x20 then .error (.consumed .controlCharacter (octet :: rest))
          else skipOctetsFrom fuel rest

/--
Pass over a string behind its opening quote.  Its characters are not looked at, so surrogates need
no partner and octets need not be well-formed.
-/
def skipText : Reader Unit := fun octets =>
  skipOctetsFrom (octets.length + 1) octets

end BrokerClient.Json
