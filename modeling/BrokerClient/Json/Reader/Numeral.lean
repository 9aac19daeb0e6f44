import BrokerClient.Json.Reader.Blank

/-!
# Reading numbers

A numeral without point and exponent is a whole number if it fits 64 bits, signed or unsigned.
Every other numeral is a floating-point number: its leading digits, as many as fit 64 bits, are
rounded once and then scaled by a power of ten, which rounds again.  A negative zero is a
floating-point number as well, for no whole number keeps the sign.
-/

namespace BrokerClient.Json

/-- The largest unsigned number of 64 bits. -/
def largestUnsigned : Nat := Decimal.largest 64

/-- The largest power of ten that scales in one step. -/
def largestPower : Nat := 308

/-- The number nearest to a power of ten. -/
def powerOfTen? (exponent : Nat) : Option Binary64 :=
  Binary64.ofNat? (powerOfTen exponent)

/-- Divide by the largest power of ten `chunks` times, or until nothing is left, and then once
more. -/
def divideDown? (number : Binary64) : Nat → Nat → Option Binary64
  | 0, exponent => (powerOfTen? exponent).bind number.div?
  | chunks + 1, exponent =>
      if number.significand = 0 then
        some number
      else
        ((powerOfTen? largestPower).bind number.div?).bind fun smaller =>
          divideDown? smaller chunks exponent

/-- The number scaled by a power of ten; `none` beyond the largest number. -/
def scale? (number : Binary64) : Int → Option Binary64
  | .ofNat exponent =>
      if exponent ≤ largestPower then (powerOfTen? exponent).bind number.mul?
      else if number.significand = 0 then some number
      else none
  | .negSucc exponent =>
      let chunks := exponent / largestPower
      divideDown? number chunks (exponent + 1 - largestPower * chunks)

/-- The number with the given leading digits and power of ten. -/
def floatOf
    (negative : Bool)
    (significand : Nat)
    (exponent : Int)
    (rest : List UInt8) :
    Except Failure (Numeral × List UInt8) :=
  match (Binary64.ofNat? significand).bind fun leading => scale? leading exponent with
  | some magnitude => .ok (.float { magnitude with negative := negative }, rest)
  | none => .error (.consumed .numberOutOfRange rest)

/-- How many digits stand in front. -/
def digitCount (octets : List UInt8) : Nat :=
  (octets.takeWhile isDigit).length

/-- Take digits for as long as the value fits 64 bits. -/
def readSignificand (value : Nat) : List UInt8 → Nat × List UInt8
  | [] => (value, [])
  | octet :: rest =>
      let next := value * 10 + digitValue octet
      if isDigit octet ∧ next ≤ largestUnsigned then readSignificand next rest
      else (value, octet :: rest)

/-- The largest exponent that is told from infinity. -/
def largestExponent : Nat := Decimal.largest 31

/-- Take the digits of an exponent; `none` for one that is too large, behind the digit that shows
it. -/
def readExponentDigits (value : Nat) : List UInt8 → Option Nat × List UInt8
  | [] => (some value, [])
  | octet :: rest =>
      if isDigit octet then
        let next := value * 10 + digitValue octet
        if largestExponent < next then (none, rest) else readExponentDigits next rest
      else
        (some value, octet :: rest)

/-- The sign in front of an exponent, and the rest. -/
def readExponentSign : List UInt8 → Bool × List UInt8
  | [] => (false, [])
  | octet :: rest =>
      if octet = 0x2D then (true, rest)
      else if octet = 0x2B then (false, rest)
      else (false, octet :: rest)

/-- Read an exponent behind its mark. -/
def readExponent
    (negative : Bool)
    (significand : Nat)
    (shift : Int) :
    Reader Numeral := fun octets =>
  let (down, octets) := readExponentSign octets
  match octets with
  | [] => .error (.consumed .endInValue [])
  | octet :: rest =>
      if isDigit octet then
        match readExponentDigits (digitValue octet) rest with
        | (some value, rest) =>
            floatOf negative significand (if down then shift - value else shift + value) rest
        | (none, rest) =>
            if significand ≠ 0 ∧ ¬ down then
              .error (.consumed .numberOutOfRange rest)
            else
              .ok (.float (.zero negative), rest.dropWhile isDigit)
      else
        .error (.consumed .invalidNumber rest)

/-- Whether an octet marks an exponent. -/
def isExponentMark (octet : UInt8) : Bool :=
  octet = 0x65 || octet = 0x45

/-- Read an exponent if there is one. -/
def readOptionalExponent
    (negative : Bool)
    (significand : Nat)
    (shift : Int) :
    Reader Numeral
  | [] => floatOf negative significand shift []
  | octet :: rest =>
      if isExponentMark octet then readExponent negative significand shift rest
      else floatOf negative significand shift (octet :: rest)

/-- Read the digits behind a point; those that do not fit are passed over. -/
def readFraction
    (negative : Bool)
    (significand : Nat)
    (dropped : Nat) :
    Reader Numeral
  | [] => .error (.peeked .endInValue [])
  | octet :: rest =>
      if isDigit octet then
        let octets := octet :: rest
        let (value, unread) := readSignificand significand octets
        let taken := digitCount octets - digitCount unread
        readOptionalExponent negative value ((dropped : Int) - taken) (unread.dropWhile isDigit)
      else
        .error (.peeked .invalidNumber (octet :: rest))

/-- The magnitude of the least signed number of 64 bits. -/
def leastSigned : Nat := Decimal.largest 63 + 1

/-- The number of a numeral without point and exponent. -/
def wholeNumeral (negative : Bool) (significand : Nat) : Numeral :=
  if ¬ negative then
    .integer significand
  else if 0 < significand ∧ significand ≤ leastSigned then
    .integer (-(significand : Int))
  else
    match Binary64.ofNat? significand with
    | some magnitude => .float magnitude.neg
    | none => .integer (-(significand : Int))

/-- Read on behind the whole digits, of which the last `dropped` did not fit. -/
def readBehindWhole
    (negative : Bool)
    (significand : Nat)
    (dropped : Nat)
    (rest : List UInt8) :
    Except Failure (Numeral × List UInt8) :=
  let plain : Except Failure (Numeral × List UInt8) :=
    if dropped = 0 then .ok (wholeNumeral negative significand, rest)
    else floatOf negative significand dropped rest
  match rest with
  | [] => plain
  | octet :: behind =>
      if octet = 0x2E then readFraction negative significand dropped behind
      else if isExponentMark octet then readExponent negative significand dropped behind
      else plain

/-- Read a number behind its sign. -/
def readNumeral (negative : Bool) : Reader Numeral
  | [] => .error (.consumed .endInValue [])
  | octet :: rest =>
      if octet = 0x30 then
        match rest with
        | [] => readBehindWhole negative 0 0 []
        | next :: _ =>
            if isDigit next then .error (.peeked .invalidNumber rest)
            else readBehindWhole negative 0 0 rest
      else if isDigit octet then
        let (significand, unread) := readSignificand (digitValue octet) rest
        readBehindWhole negative significand (digitCount unread) (unread.dropWhile isDigit)
      else
        .error (.consumed .invalidNumber rest)

end BrokerClient.Json
