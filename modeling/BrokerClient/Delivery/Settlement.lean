import BrokerClient.Client.Error

/-!
# Settling deliveries

A receiver acknowledges a delivery, refuses it or rejects it.  Without an acknowledger, or with one
that fails, the settlement fails; a rejection fails like a refusal.
-/

namespace BrokerClient

/-- What a receiver does with a delivery. -/
inductive Settlement where
  | ack
  | nack (requeue : Bool)
  | reject (requeue : Bool)
  deriving Repr, DecidableEq

/-- The failure of a settlement. -/
def Settlement.failure : Settlement → String → ClientError
  | .ack, reason => .ackMessage reason
  | .nack _, reason => .nackMessage reason
  | .reject _, reason => .nackMessage reason

/-- What the receiver of a delivery is told when settling it. -/
def Delivery.settled (delivery : Delivery) (settlement : Settlement) : Except ClientError Unit :=
  match delivery.acknowledger with
  | none =>
      .error (settlement.failure
        ("delivery " ++ toString delivery.tag ++ " has no acknowledger"))
  | some (.broker _) => .ok ()
  | some (.fixed (.ok ())) => .ok ()
  | some (.fixed (.error error)) => .error (settlement.failure error.message)

end BrokerClient
