import BrokerClient.Message.Properties
import BrokerClient.Text.Quoted
import BrokerClient.Transport.Error

/-!
# Deliveries

A delivery is a message as the broker pushes it to a consumer.  It is settled by its receiver and
by nobody else; what settles it is bound to it when it is made.
-/

namespace BrokerClient

/-- What settles a delivery. -/
inductive Acknowledger where
  /-- The broker's record of settled deliveries, under a tag. -/
  | broker (tag : Nat)
  /-- A settler whose answer is always the same. -/
  | fixed (answer : Except TransportError Unit)

/-- A message pushed to a consumer. -/
structure Delivery where
  tag : Nat
  exchange : String
  routingKey : String
  redelivered : Bool
  properties : Properties
  body : List UInt8
  acknowledger : Option Acknowledger

namespace Delivery

/-- A delivery that nothing settles. -/
def new (tag : Nat) (routingKey : String) (body : List UInt8) : Delivery where
  tag := tag
  exchange := ""
  routingKey := routingKey
  redelivered := false
  properties := .none
  body := body
  acknowledger := none

/-- The content type, if the sender named one. -/
def contentType (delivery : Delivery) : Option String :=
  delivery.properties.contentType

/-- The trace context that the sender put into the headers. -/
def traceContext (delivery : Delivery) (tracing : Tracing) : TraceContext :=
  delivery.properties.traceContext tracing

/-- How descriptions show a text that may be missing. -/
def describeOptional : Option String → String
  | some text => "Some(" ++ Quoted.render text ++ ")"
  | none => "None"

/-- A delivery as descriptions show it; its body is shown as text. -/
def describe (delivery : Delivery) : String :=
  "Delivery \x7b delivery_tag: " ++ toString delivery.tag ++
    ", exchange: " ++ Quoted.render delivery.exchange ++
    ", routing_key: " ++ Quoted.render delivery.routingKey ++
    ", redelivered: " ++ (if delivery.redelivered then "true" else "false") ++
    ", content_type: " ++ describeOptional delivery.contentType ++
    ", data: " ++ Quoted.render (Utf8.decodeLossy delivery.body) ++ " \x7d"

end Delivery

end BrokerClient
