import BrokerClient.Transport.Call

/-!
# Scripts

A script prescribes how the next calls of a kind turn out, in place of the broker's own answers.
Prescribed outcomes are used up in the order in which they were given.
-/

namespace BrokerClient

/-- Something that a scripted stream yields, a while after it is asked for it. -/
structure ScriptedItem where
  delay : Nat
  content : Except TransportError Delivery

/-- How a call turns out. -/
inductive ScriptedOutcome where
  /-- As the broker answers. -/
  | asBroker
  /-- It fails, and the broker does not hear of it. -/
  | failure (error : TransportError)
  /-- The broker opens a channel that never reports itself open. -/
  | deadChannel
  /-- A declaration is confirmed, and the broker does not hear of it. -/
  | declared (info : QueueInfo)
  /-- A deletion is confirmed, and the broker does not hear of it. -/
  | deleted (purged : UInt32)
  /-- A registration gets a stream of its own, which ends or falls silent after its items. -/
  | stream (items : List ScriptedItem) (ends : Bool)

/-- Prescribed outcomes by kind of call, those given first in front. -/
abbrev Script := List (CallKind × ScriptedOutcome)

namespace Script

/-- The script with outcomes for a kind of call added `times` times over. -/
def add
    (script : Script)
    (kind : CallKind)
    (outcomes : List ScriptedOutcome)
    (times : Nat) :
    Script :=
  script ++ (List.replicate times (outcomes.map fun outcome => (kind, outcome))).flatten

/-- Take the next outcome for a kind of call. -/
def take (script : Script) (kind : CallKind) : Option ScriptedOutcome × Script :=
  match script with
  | [] => (none, [])
  | entry :: rest =>
      if entry.1 = kind then (some entry.2, rest)
      else
        let (outcome, rest) := take rest kind
        (outcome, entry :: rest)

end Script

end BrokerClient
