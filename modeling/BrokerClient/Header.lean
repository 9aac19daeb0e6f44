import BrokerClient.Dictionary
import BrokerClient.Text.Utf8

/-!
# Header tables

A header table holds typed values under names.  Tables travel with messages and with the
declaration of a queue.
-/

namespace BrokerClient

/-- A value of a header table. -/
inductive HeaderValue where
  /-- Octets, which need not be text. -/
  | longString (octets : List UInt8)
  | shortString (text : String)
  /-- A signed number of 32 bits. -/
  | longInt (value : Int)
  | boolean (value : Bool)
  | void
  deriving Repr, DecidableEq

/-- Values under names, in rising order of the names. -/
abbrev HeaderTable := Dictionary HeaderValue

/-- The text of a header that holds one. -/
def HeaderValue.text? : HeaderValue → Option String
  | .longString octets => Utf8.decode? octets
  | _ => none

end BrokerClient
