/-!
# Octets of text

Characters are written as octets in UTF-8, one to four octets each.  Reading cuts octets into
pieces: a piece is a character, or a longest run of octets that starts a character and cannot go
on.  Reading undoes writing, because a piece ends exactly where its character's octets end.

The reader is a machine that takes one octet at a time.  Its state names how many octets the
current character still owes and the range in which the next one has to lie; that range keeps
overlong forms, surrogates and codes beyond the last character out.
-/

namespace BrokerClient.Utf8

/-- The octets of one character. -/
def encodeChar (character : Char) : List UInt8 :=
  let code := character.toNat
  if code < 0x80 then
    [UInt8.ofNat code]
  else if code < 0x800 then
    [UInt8.ofNat (0xC0 + code / 0x40),
      UInt8.ofNat (0x80 + code % 0x40)]
  else if code < 0x10000 then
    [UInt8.ofNat (0xE0 + code / 0x1000),
      UInt8.ofNat (0x80 + code / 0x40 % 0x40),
      UInt8.ofNat (0x80 + code % 0x40)]
  else
    [UInt8.ofNat (0xF0 + code / 0x40000),
      UInt8.ofNat (0x80 + code / 0x1000 % 0x40),
      UInt8.ofNat (0x80 + code / 0x40 % 0x40),
      UInt8.ofNat (0x80 + code % 0x40)]

/-- The octets of a text, in reading order. -/
def encode (text : String) : List UInt8 :=
  text.toList.flatMap encodeChar

/-- What a reader finds next: a character, or octets that form none. -/
inductive Piece where
  | character (value : Char)
  | illFormed
  deriving Repr, DecidableEq

/-- Where a reader stands between two octets. -/
inductive State where
  /-- Between two characters. -/
  | start
  /-- Inside a character that owes `owed` octets after the next one, which lies in `low … high`. -/
  | inside (owed low high bits : Nat)
  deriving Repr, DecidableEq

/-- Read the first octet of a character. -/
def lead (octet : Nat) : List Piece × State :=
  if octet < 0x80 then ([.character (Char.ofNat octet)], .start)
  else if octet < 0xC2 then ([.illFormed], .start)
  else if octet < 0xE0 then ([], .inside 0 0x80 0xBF (octet - 0xC0))
  else if octet = 0xE0 then ([], .inside 1 0xA0 0xBF 0)
  else if octet = 0xED then ([], .inside 1 0x80 0x9F 0xD)
  else if octet < 0xF0 then ([], .inside 1 0x80 0xBF (octet - 0xE0))
  else if octet = 0xF0 then ([], .inside 2 0x90 0xBF 0)
  else if octet < 0xF4 then ([], .inside 2 0x80 0xBF (octet - 0xF0))
  else if octet = 0xF4 then ([], .inside 2 0x80 0x8F 4)
  else ([.illFormed], .start)

/-- Read one octet; an octet that cannot go on ends the piece before it and starts afresh. -/
def step : State → Nat → List Piece × State
  | .start, octet => lead octet
  | .inside owed low high bits, octet =>
      if low ≤ octet ∧ octet ≤ high then
        let bits := bits * 0x40 + (octet - 0x80)
        match owed with
        | 0 => ([.character (Char.ofNat bits)], .start)
        | owed + 1 => ([], .inside owed 0x80 0xBF bits)
      else
        let (pieces, state) := lead octet
        (.illFormed :: pieces, state)

/-- The pieces of the octets that follow a state. -/
def piecesFrom : State → List UInt8 → List Piece
  | .start, [] => []
  | .inside .., [] => [.illFormed]
  | state, octet :: rest =>
      let (pieces, state) := step state octet.toNat
      pieces ++ piecesFrom state rest

/-- The pieces of a sequence of octets. -/
def pieces (octets : List UInt8) : List Piece :=
  piecesFrom .start octets

/-- The characters before the first ill-formed piece. -/
def leadingCharacters : List Piece → List Char
  | .character value :: rest => value :: leadingCharacters rest
  | _ => []

/-- How many octets stand before the first ill-formed piece. -/
def wellFormedLength (octets : List UInt8) : Nat :=
  ((leadingCharacters (pieces octets)).flatMap encodeChar).length

/-- Read octets as text; `none` if some piece of them is ill-formed. -/
def decode? (octets : List UInt8) : Option String :=
  let found := pieces octets
  let characters := leadingCharacters found
  if characters.length = found.length then some (String.ofList characters) else none

/-- The character that stands for a piece: U+FFFD for an ill-formed one. -/
def Piece.display : Piece → Char
  | .character value => value
  | .illFormed => Char.ofNat 0xFFFD

/-- Read octets as text, with U+FFFD in place of every ill-formed piece. -/
def decodeLossy (octets : List UInt8) : String :=
  String.ofList ((pieces octets).map Piece.display)

/-- A piece that reads as characters throughout loses nothing. -/
theorem leadingCharacters_map (characters : List Char) :
    leadingCharacters (characters.map Piece.character) = characters := by
  induction characters with
  | nil => rfl
  | cons first rest inductionHypothesis =>
      simp [leadingCharacters, inductionHypothesis]

end BrokerClient.Utf8
