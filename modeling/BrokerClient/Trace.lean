import BrokerClient.Header
import BrokerClient.Text.Lowercase

/-!
# Trace contexts in header tables

A trace context may carry a bag of named texts.  A propagator writes the bag of a sender into the
headers of its message and reads a new bag from the headers that a receiver gets, where it may also
look for names of its own.  Names are lower-cased when they are written, but looked up as they are.
-/

namespace BrokerClient

/-- Named texts in order; a name may stand without a text. -/
abbrev Bag := List (String × Option String)

/-- A trace context, which may carry a bag. -/
abbrev TraceContext := Option Bag

namespace Carrier

/-- Write a text under the lower-cased name. -/
def set (headers : HeaderTable) (name text : String) : HeaderTable :=
  headers.insert (Lowercase.apply name) (.longString (Utf8.encode text))

/-- Read the text under a name, if a long string that is text stands there. -/
def get? (headers : HeaderTable) (name : String) : Option String :=
  (Dictionary.get? headers name).bind HeaderValue.text?

/-- The names of all headers. -/
def names (headers : HeaderTable) : List String :=
  headers.keys

/-- Write every pair of a bag that has a text, in order. -/
def setAll (headers : HeaderTable) (bag : Bag) : HeaderTable :=
  bag.foldl
    (fun headers pair =>
      match pair.2 with
      | some text => set headers pair.1 text
      | none => headers)
    headers

end Carrier

/-- Whether trace contexts travel with messages. -/
inductive Propagator where
  /-- Nothing is written and nothing is read. -/
  | silent
  /-- Bags are written into headers and read from them, with a look for some names besides. -/
  | lookingFor (names : List String)
  deriving Repr, DecidableEq

namespace Propagator

/-- The headers that carry a context. -/
def inject (propagator : Propagator) (context : TraceContext) : HeaderTable :=
  match propagator, context with
  | .lookingFor _, some bag => Carrier.setAll [] bag
  | _, _ => []

/-- The context that headers carry; without propagation the current one. -/
def extract
    (propagator : Propagator)
    (current : TraceContext)
    (headers : HeaderTable) :
    TraceContext :=
  match propagator with
  | .silent => current
  | .lookingFor names =>
      some <| (Carrier.names headers ++ names).map fun name =>
        (name, Carrier.get? headers name)

end Propagator

/-- What a sender or receiver is surrounded by: how contexts travel, and the current one. -/
structure Tracing where
  propagator : Propagator
  current : TraceContext
  deriving Repr, DecidableEq

/-- The headers for a message that is sent here. -/
def Tracing.headers (tracing : Tracing) : HeaderTable :=
  tracing.propagator.inject tracing.current

end BrokerClient
