/-!
# Powers of two and of ten

The scales of binary and of decimal numbers, with the equations by which they grow.
-/

namespace BrokerClient

/-- The power of two with a given exponent. -/
def powerOfTwo (exponent : Nat) : Nat :=
  Nat.pow 2 exponent

/-- The power of ten with a given exponent. -/
def powerOfTen (exponent : Nat) : Nat :=
  Nat.pow 10 exponent

/-- One more in the exponent doubles a power of two. -/
theorem powerOfTwo_succ (exponent : Nat) :
    powerOfTwo (exponent + 1) = powerOfTwo exponent * 2 :=
  rfl

/-- One more in the exponent makes a power of ten ten times as large. -/
theorem powerOfTen_succ (exponent : Nat) :
    powerOfTen (exponent + 1) = powerOfTen exponent * 10 :=
  rfl

/-- No power of two is zero. -/
theorem powerOfTwo_pos (exponent : Nat) : 0 < powerOfTwo exponent := by
  induction exponent with
  | zero => decide
  | succ exponent inductionHypothesis =>
      rw [powerOfTwo_succ]
      omega

/-- No power of ten is zero. -/
theorem powerOfTen_pos (exponent : Nat) : 0 < powerOfTen exponent := by
  induction exponent with
  | zero => decide
  | succ exponent inductionHypothesis =>
      rw [powerOfTen_succ]
      omega

end BrokerClient
