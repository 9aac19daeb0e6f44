import BrokerClient.Header

/-!
# Queues

A definition says how a queue is declared.  Its builders set one flag or one limit each; a limit
that is set again keeps the last value.  What reaches the broker are the flags and a table with
the limits.
-/

namespace BrokerClient

/-- The flags of a queue declaration. -/
structure DeclareFlags where
  passive : Bool
  durable : Bool
  exclusive : Bool
  autoDelete : Bool
  nowait : Bool
  deriving Repr, DecidableEq

/-- How a queue is declared. -/
structure QueueDefinition where
  name : String
  durable : Bool
  autoDelete : Bool
  exclusive : Bool
  passive : Bool
  nowait : Bool
  messageTtl : Option Int
  maxLength : Option Int
  maxLengthBytes : Option Int
  deriving Repr, DecidableEq

/-- One step in the building of a definition. -/
inductive QueueOption where
  | durable
  | autoDelete
  | exclusive
  | passive
  | messageTtl (milliseconds : Int)
  | maxLength (messages : Int)
  | maxLengthBytes (octets : Int)
  deriving Repr, DecidableEq

namespace QueueDefinition

/-- A transient queue: no flag and no limit. -/
def new (name : String) : QueueDefinition where
  name := name
  durable := false
  autoDelete := false
  exclusive := false
  passive := false
  nowait := false
  messageTtl := none
  maxLength := none
  maxLengthBytes := none

/-- Apply one building step. -/
def apply (definition : QueueDefinition) : QueueOption → QueueDefinition
  | .durable => { definition with durable := true }
  | .autoDelete => { definition with autoDelete := true }
  | .exclusive => { definition with exclusive := true }
  | .passive => { definition with passive := true }
  | .messageTtl milliseconds => { definition with messageTtl := some milliseconds }
  | .maxLength messages => { definition with maxLength := some messages }
  | .maxLengthBytes octets => { definition with maxLengthBytes := some octets }

/-- Build a definition step by step. -/
def build (name : String) (steps : List QueueOption) : QueueDefinition :=
  steps.foldl apply (new name)

/-- The flags that are declared. -/
def flags (definition : QueueDefinition) : DeclareFlags where
  passive := definition.passive
  durable := definition.durable
  exclusive := definition.exclusive
  autoDelete := definition.autoDelete
  nowait := definition.nowait

/-- The argument that limits the life of a message. -/
def messageTtlKey : String := "x-message-ttl"

/-- The argument that limits the number of messages. -/
def maxLengthKey : String := "x-max-length"

/-- The argument that limits the size of all messages together. -/
def maxLengthBytesKey : String := "x-max-length-bytes"

/-- The table with a limit added, if it is set. -/
def addLimit (table : HeaderTable) (key : String) (limit : Option Int) : HeaderTable :=
  match limit with
  | some value => table.insert key (.longInt value)
  | none => table

/-- The limits that are set, as arguments of the declaration. -/
def arguments (definition : QueueDefinition) : HeaderTable :=
  addLimit
    (addLimit
      (addLimit [] messageTtlKey definition.messageTtl)
      maxLengthKey definition.maxLength)
    maxLengthBytesKey definition.maxLengthBytes

/-- No step changes the name. -/
@[simp] theorem name_apply
    (definition : QueueDefinition)
    (step : QueueOption) :
    (definition.apply step).name = definition.name := by
  cases step <;> rfl

/-- A definition is built for the name that was asked for. -/
@[simp] theorem name_build (name : String) (steps : List QueueOption) :
    (build name steps).name = name := by
  suffices keepsName :
      ∀ definition : QueueDefinition,
        (steps.foldl apply definition).name = definition.name from
    keepsName (new name)
  induction steps with
  | nil => intro definition; rfl
  | cons step steps inductionHypothesis =>
      intro definition
      simp [inductionHypothesis]

end QueueDefinition

/-- A queue as the broker confirms it. -/
structure QueueInfo where
  name : String
  messageCount : UInt32
  consumerCount : UInt32
  deriving Repr, DecidableEq

end BrokerClient
