import BrokerClient.Number.Binary64
import BrokerClient.Number.Decimal

/-!
# Floating-point numbers from text

A decimal numeral, with or without a point and an exponent, is read as the number nearest to it.
The words for infinity and for "not a number", in any mixture of cases, and numerals beyond the
largest number are read as well, but name no finite number.
-/

namespace BrokerClient.FloatText

/-- What a text stands for. -/
inductive Reading where
  | finite (number : Binary64)
  | notFinite
  deriving Repr, DecidableEq

/-- The digits at the front of a text, and the rest. -/
def digits (characters : List Char) : List Char × List Char :=
  (characters.takeWhile Char.isDigit, characters.dropWhile Char.isDigit)

/-- The number that a row of digits denotes. -/
def valueOf (digits : List Char) : Nat :=
  digits.foldl (fun value digit => value * 10 + (digit.toNat - 0x30)) 0

/-- The number nearest to `value · 10 ^ exponent`, without computing far-off powers. -/
def scale (negative : Bool) (value : Nat) (exponent : Int) : Reading :=
  let magnitude := exponent + (Decimal.write value).length
  if value = 0 ∨ magnitude < -400 then
    .finite (Binary64.zero negative)
  else if 400 < magnitude then
    .notFinite
  else
    match Binary64.ofDecimal? negative value exponent with
    | some number => .finite number
    | none => .notFinite

/-- Read an exponent behind its mark. -/
def exponent? (characters : List Char) : Option Int :=
  let (negative, characters) :=
    match characters with
    | '-' :: rest => (true, rest)
    | '+' :: rest => (false, rest)
    | _ => (false, characters)
  let (found, rest) := digits characters
  if found.isEmpty || !rest.isEmpty then none
  else some (if negative then -(valueOf found : Int) else valueOf found)

/-- Read a numeral without its sign. -/
def numeral? (negative : Bool) (characters : List Char) : Option Reading :=
  let (whole, rest) := digits characters
  let (fraction, rest) :=
    match rest with
    | '.' :: rest => digits rest
    | _ => ([], rest)
  if whole.isEmpty && fraction.isEmpty then
    none
  else
    let value := valueOf (whole ++ fraction)
    let shift := -(fraction.length : Int)
    match rest with
    | [] => some (scale negative value shift)
    | mark :: rest =>
        if mark = 'e' ∨ mark = 'E' then
          (exponent? rest).map fun exponent => scale negative value (shift + exponent)
        else
          none

/-- Read a text as a floating-point number; `none` if it is none. -/
def read? (text : String) : Option Reading :=
  let (negative, characters) :=
    match text.toList with
    | '-' :: rest => (true, rest)
    | '+' :: rest => (false, rest)
    | characters => (false, characters)
  let word := String.ofList (characters.map Char.toLower)
  if word = "nan" ∨ word = "inf" ∨ word = "infinity" then
    some .notFinite
  else
    numeral? negative characters

end BrokerClient.FloatText
