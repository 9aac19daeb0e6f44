/-!
# Durations

Timeouts and pauses are measured in whole milliseconds.
-/

namespace BrokerClient

/-- A length of time in milliseconds. -/
structure Duration where
  milliseconds : Nat
  deriving Repr, DecidableEq

namespace Duration

/-- A number of seconds. -/
def ofSeconds (seconds : Nat) : Duration :=
  ⟨seconds * 1000⟩

/-- The whole seconds in a duration. -/
def seconds (duration : Duration) : Nat :=
  duration.milliseconds / 1000

end Duration

end BrokerClient
