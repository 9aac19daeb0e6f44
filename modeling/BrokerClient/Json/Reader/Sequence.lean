import BrokerClient.Json.Reader.Text

/-!
# Reading lists and objects item by item

Lists and objects share their punctuation with every kind of item, so the loops here take the
reader of an item as an argument.  They stop in front of the closing bracket, which
`leaveList` and `leaveObject` take.
-/

namespace BrokerClient.Json

/--
Whether another item follows, and the input in front of it.  An item behind the first one follows
a comma.
-/
def readItemStart (first : Bool) : Reader Bool := fun octets =>
  match skipBlanks octets with
  | [] => .error (.peeked .endInList [])
  | octet :: rest =>
      if octet = 0x5D then .ok (false, octet :: rest)
      else if first then .ok (true, octet :: rest)
      else if octet = 0x2C then
        match skipBlanks rest with
        | [] => .error (.peeked .endInValue [])
        | next :: behind =>
            if next = 0x5D then .error (.peeked .trailingComma (next :: behind))
            else .ok (true, next :: behind)
      else .error (.peeked .expectedCommaOrListEnd (octet :: rest))

/-- Whether another field follows, and the input behind the opening quote of its name. -/
def readFieldStart (first : Bool) : Reader Bool := fun octets =>
  match skipBlanks octets with
  | [] => .error (.peeked .endInObject [])
  | octet :: rest =>
      if octet = 0x7D then .ok (false, octet :: rest)
      else if first then
        if octet = 0x22 then .ok (true, rest)
        else .error (.peeked .keyIsNoString (octet :: rest))
      else if octet = 0x2C then
        match skipBlanks rest with
        | [] => .error (.peeked .endInValue [])
        | next :: behind =>
            if next = 0x22 then .ok (true, behind)
            else if next = 0x7D then .error (.peeked .trailingComma (next :: behind))
            else .error (.peeked .keyIsNoString (next :: behind))
      else .error (.peeked .expectedCommaOrObjectEnd (octet :: rest))

/-- Take the colon behind the name of a field. -/
def readColon : Reader Unit := fun octets =>
  match skipBlanks octets with
  | [] => .error (.peeked .endInObject [])
  | octet :: rest =>
      if octet = 0x3A then .ok ((), rest)
      else .error (.peeked .expectedColon (octet :: rest))

/-- Read the items of a list, in at most `fuel` steps. -/
def readItemsFrom (readItem : Reader α) : Nat → Bool → Reader (List α)
  | 0, _, octets => .error (.peeked .endInList octets)
  | fuel + 1, first, octets => do
      let (more, octets) ← readItemStart first octets
      if more then
        let (item, octets) ← readItem octets
        let (items, octets) ← readItemsFrom readItem fuel false octets
        .ok (item :: items, octets)
      else
        .ok ([], octets)

/-- Read the items of a list behind its opening bracket; every item takes an octet. -/
def readItems (readItem : Reader α) : Reader (List α) := fun octets =>
  readItemsFrom readItem (octets.length + 1) true octets

/-- Read the fields of an object, in at most `fuel` steps; `readField` is given each name. -/
def foldFieldsFrom (readField : σ → String → Reader σ) : Nat → Bool → σ → Reader σ
  | 0, _, _, octets => .error (.peeked .endInObject octets)
  | fuel + 1, first, state, octets => do
      let (more, octets) ← readFieldStart first octets
      if more then
        let (name, octets) ← readText octets
        let (state, octets) ← readField state name octets
        foldFieldsFrom readField fuel false state octets
      else
        .ok (state, octets)

/-- Read the fields of an object behind its opening bracket; every field takes an octet. -/
def foldFields (readField : σ → String → Reader σ) (start : σ) : Reader σ := fun octets =>
  foldFieldsFrom readField (octets.length + 1) true start octets

/-- Take the end of a list: what is wrong with it, if anything, and the input where that stands. -/
def leaveList (octets : List UInt8) : Option Failure × List UInt8 :=
  match skipBlanks octets with
  | [] => (some (.peeked .endInList []), [])
  | octet :: rest =>
      if octet = 0x5D then (none, rest)
      else if octet = 0x2C then
        let rest := skipBlanks rest
        let cause := if rest.head? = some 0x5D then .trailingComma else .trailingCharacters
        (some (.peeked cause rest), rest)
      else (some (.peeked .trailingCharacters (octet :: rest)), octet :: rest)

/-- Take the end of an object: what is wrong with it, if anything, and the input where that
stands. -/
def leaveObject (octets : List UInt8) : Option Failure × List UInt8 :=
  match skipBlanks octets with
  | [] => (some (.peeked .endInObject []), [])
  | octet :: rest =>
      if octet = 0x7D then (none, rest)
      else
        let cause := if octet = 0x2C then .trailingComma else .trailingCharacters
        (some (.peeked cause (octet :: rest)), octet :: rest)

/--
Close a list or an object whose contents have been read.  A failure without a place is placed
where the end of the structure has been looked for.
-/
def closeWith
    (leave : List UInt8 → Option Failure × List UInt8) :
    Except Failure (α × List UInt8) → Except Failure (α × List UInt8)
  | .ok (value, octets) =>
      match leave octets with
      | (none, rest) => .ok (value, rest)
      | (some failure, _) => .error failure
  | .error (.unplaced cause octets) => .error (.consumed cause (leave octets).2)
  | .error failure => .error failure

end BrokerClient.Json
