import BrokerClient.Dictionary
import BrokerClient.Number.Binary64
import BrokerClient.Number.Shortest
import BrokerClient.Text.Quoted

/-!
# JSON values

A number is a whole number or a finite floating-point number, and the two are kept apart.  The
fields of an object stand in rising order of their names.
-/

namespace BrokerClient

/-- A number of a JSON text. -/
inductive Numeral where
  | integer (value : Int)
  | float (value : Binary64)
  deriving Repr, DecidableEq

/-- The text of a number. -/
def Numeral.write : Numeral → List Char
  | .integer value => Decimal.writeInt value
  | .float value => value.write

/-- A JSON value. -/
inductive Json where
  | null
  | bool (value : Bool)
  | number (value : Numeral)
  | string (value : String)
  | array (items : List Json)
  | object (fields : List (String × Json))
  deriving Repr

namespace Json

/-- The number of a whole number. -/
def ofInt (value : Int) : Json :=
  .number (.integer value)

/-- The value of a field; `none` for a missing field and for a value that is no object. -/
def field? (value : Json) (name : String) : Option Json :=
  match value with
  | .object fields => Dictionary.get? fields name
  | _ => none

/-- Texts one after the other with a comma and a blank between them. -/
def commaSeparated (texts : List String) : String :=
  String.intercalate ", " texts

mutual

/-- A value as descriptions show it: the kind of each part is spelled out. -/
def describe : Json → String
  | .null => "Null"
  | .bool value => "Bool(" ++ (if value then "true" else "false") ++ ")"
  | .number value => "Number(" ++ String.ofList value.write ++ ")"
  | .string value => "String(" ++ Quoted.render value ++ ")"
  | .array items => "Array [" ++ commaSeparated (describeItems items) ++ "]"
  | .object fields => "Object \x7b" ++ commaSeparated (describeFields fields) ++ "\x7d"

/-- The descriptions of items. -/
def describeItems : List Json → List String
  | [] => []
  | item :: rest => item.describe :: describeItems rest

/-- The descriptions of fields, each behind its name. -/
def describeFields : List (String × Json) → List String
  | [] => []
  | (name, value) :: rest =>
      (Quoted.render name ++ ": " ++ value.describe) :: describeFields rest

end

end Json

end BrokerClient
