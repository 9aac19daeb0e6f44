import BrokerClient.Text.Lowercase.Table

/-!
# Lower case

Text is lower-cased by the full Unicode mapping.  Two characters need more than a partner: the
dotted capital I becomes two characters, and the capital sigma becomes the final form at the end
of a word.
-/

namespace BrokerClient.Lowercase

/-- Whether a run maps the character with this code. -/
def Run.holds (run : Run) (code : Nat) : Bool :=
  run.first ≤ code && code ≤ run.last && (code - run.first) % run.stride == 0

/-- The lower-case partner of a character, or the character itself if it has none. -/
def partner (character : Char) : Char :=
  match runs.find? (fun run => run.holds character.toNat) with
  | some run => Char.ofNat (character.toNat + run.offset).toNat
  | none => character

/-- Whether a letter stands first, once the characters without a say in it are passed over. -/
def meetsCased (characters : List Char) : Bool :=
  match characters.dropWhile (CodeRange.covers caseIgnorableRanges) with
  | [] => false
  | character :: _ => CodeRange.covers casedRanges character

/-- The dotted capital I. -/
def dottedCapitalI : Char := Char.ofNat 0x130

/-- The capital sigma. -/
def capitalSigma : Char := Char.ofNat 0x3A3

/--
What a character becomes between the characters before it, nearest first, and those after it.
-/
def image
    (before : List Char)
    (character : Char)
    (rest : List Char) :
    List Char :=
  if character = dottedCapitalI then
    [Char.ofNat 0x69, Char.ofNat 0x307]
  else if character = capitalSigma then
    if meetsCased before && !meetsCased rest then [Char.ofNat 0x3C2] else [Char.ofNat 0x3C3]
  else
    [partner character]

/-- Lower-case the characters that follow those already read, nearest first. -/
def applyAfter (before : List Char) : List Char → List Char
  | [] => []
  | character :: rest =>
      image before character rest ++ applyAfter (character :: before) rest

/-- A text in lower case. -/
def apply (text : String) : String :=
  String.ofList (applyAfter [] text.toList)

end BrokerClient.Lowercase
