import BrokerClient.Retry

/-!
# Options of a client

How long a client waits for a message, how many unsettled messages it may hold, and how it
retries.
-/

namespace BrokerClient

/-- Timing, flow control and retry policies of one client. -/
structure Options where
  /-- How long a receive waits for a delivery. -/
  receiveTimeout : Duration
  /-- How many unsettled deliveries a consumer may hold at once. -/
  prefetchCount : Nat
  /-- Retries of the flow-control negotiation, each of which reopens the channel. -/
  reconnect : RetryPolicy
  /-- Retries of the registration on a queue that is unknown so far. -/
  notFound : RetryPolicy

/-- Ten seconds, one message, and the default retry policies. -/
def Options.default : Options where
  receiveTimeout := .ofSeconds 10
  prefetchCount := 1
  reconnect := .reconnect
  notFound := .queueNotFound

end BrokerClient
