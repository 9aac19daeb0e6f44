import BrokerClient.Duration
import BrokerClient.Transport.Error

/-!
# Retry policies

A policy allows a fixed number of retries with a fixed pause before each, and only after failures
that it considers worth retrying.
-/

namespace BrokerClient

/-- How often, after what pause and after which failures an attempt is repeated. -/
structure RetryPolicy where
  maxRetries : Nat
  backoff : Duration
  retryOn : TransportError → Bool

namespace RetryPolicy

/-- How many retries follow the first attempt unless told otherwise. -/
def defaultMaxRetries : Nat := 10

/-- The pause before a retry unless told otherwise. -/
def defaultBackoff : Duration := .ofSeconds 3

/-- Retry after any failure. -/
def reconnect : RetryPolicy where
  maxRetries := defaultMaxRetries
  backoff := defaultBackoff
  retryOn := fun _ => true

/-- Retry only if the queue is unknown. -/
def queueNotFound : RetryPolicy where
  maxRetries := defaultMaxRetries
  backoff := defaultBackoff
  retryOn := TransportError.isNotFound

/-- The same policy with another number of retries; with none it never retries. -/
def withMaxRetries (policy : RetryPolicy) (maxRetries : Nat) : RetryPolicy :=
  { policy with maxRetries := maxRetries }

/-- The same policy with another pause. -/
def withBackoff (policy : RetryPolicy) (backoff : Duration) : RetryPolicy :=
  { policy with backoff := backoff }

/-- Whether another attempt may follow a failure after `retries` retries. -/
def shouldRetry (policy : RetryPolicy) (retries : Nat) (error : TransportError) : Bool :=
  retries < policy.maxRetries && policy.retryOn error

section

variable {policy : RetryPolicy} {retries : Nat}

/-- Another attempt takes a budget that is not spent and a failure that is worth it. -/
theorem shouldRetry_iff {error : TransportError} :
    policy.shouldRetry retries error = true ↔
      retries < policy.maxRetries ∧ policy.retryOn error = true := by
  simp [shouldRetry]

/-- What is not retried is not worth it, or the budget is spent. -/
theorem shouldRetry_eq_false_iff {error : TransportError} :
    policy.shouldRetry retries error = false ↔
      policy.retryOn error = false ∨ policy.maxRetries ≤ retries := by
  rw [shouldRetry, Bool.and_eq_false_iff, decide_eq_false_iff_not, Nat.not_lt, or_comm]

/-- While the budget lasts, the failure decides. -/
theorem shouldRetry_of_lt
    (left : retries < policy.maxRetries)
    (error : TransportError) :
    policy.shouldRetry retries error = policy.retryOn error := by
  simp [shouldRetry, left]

/-- Nothing is retried once the budget is spent. -/
theorem shouldRetry_of_le
    (spent : policy.maxRetries ≤ retries)
    (error : TransportError) :
    policy.shouldRetry retries error = false := by
  simp [shouldRetry, Nat.not_lt.mpr spent]

end

end RetryPolicy

end BrokerClient
