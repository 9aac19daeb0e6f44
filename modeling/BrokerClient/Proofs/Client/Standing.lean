import BrokerClient.Dictionary.Order
import BrokerClient.Proofs.Client.Operation
import BrokerClient.Proofs.Monitor

/-!
# Where a client stands in the middle of an operation

The client as it is in the middle of an operation can be read off the exchanges so far: each of
them changes it in one way, whatever the transport answers.  The monitor of an operation follows
the client in this manner and says what may be asked where: calls go to the channel that is held,
a consumer is registered right behind a negotiation of flow control, streams that are let go are
given up before anything else, and once a wait for a delivery is over only its consumer is
cancelled.
-/

namespace BrokerClient

/-- The channel that a call is made on. -/
def Call.channel? : Call → Option Channel
  | .qos channel _ _ => some channel
  | .declare channel _ _ _ => some channel
  | .delete channel _ _ => some channel
  | .publish channel _ => some channel
  | .consume channel _ _ _ => some channel
  | .cancel channel _ _ => some channel
  | .closeChannel channel => some channel
  | _ => none

theorem Call.eq_openChannel {call : Call} (isOpening : call.kind = .openChannel) :
    ∃ connection, call = .openChannel connection := by
  cases call with
  | openChannel connection => exact ⟨connection, rfl⟩
  | _ => cases isOpening

theorem Call.eq_cancel {call : Call} (isCancelling : call.kind = .cancel) :
    ∃ channel tag nowait, call = .cancel channel tag nowait := by
  cases call with
  | cancel channel tag nowait => exact ⟨channel, tag, nowait, rfl⟩
  | _ => cases isCancelling

/-- The delivery that a wait ends with. -/
def Arrival.delivery? : Arrival → Option Delivery
  | .item (.ok delivery) => some delivery
  | _ => none

/-- Registries belong to a channel, and the streams stand in order of their queues. -/
structure Client.Coherent (client : Client) : Prop where
  queues_of_no_channel : client.channel = none → client.queues = []
  streams_of_no_channel : client.channel = none → client.streams = []
  rising : Dictionary.Rising client.streams

/-- The client after a call of an operation was answered. -/
def Client.afterCall
    (operation : Operation)
    (client : Client) :
    (call : Call) → call.Answer → Client
  | .dial _, .ok connection => { client with connection := connection }
  | .openChannel _, .ok channel => { client with channel := some channel }
  | .closeChannel _, _ => if operation.isClose then client else client.withoutChannel
  | .declare _ queue _ _, .ok info =>
      if operation.remembersQueues then
        { client with queues := client.queues.insert queue info }
      else
        client
  | .delete _ queue _, .ok _ =>
      { client with queues := client.queues.erase queue, streams := client.streams.erase queue }
  | .consume _ queue _ _, .ok stream =>
      { client with streams := client.streams.insert queue stream }
  | _, _ => client

namespace Client

variable {operation : Operation} {client : Client} {call : Call} {answer : call.Answer}

@[simp] theorem options_afterCall :
    (client.afterCall operation call answer).options = client.options := by
  cases call <;> cases answer <;> try rfl
  all_goals
    dsimp only [afterCall]
    split
    · rfl
    · rfl

/-- Only an opening changes the channel for another. -/
theorem channel_of_afterCall
    {channel : Channel}
    (notOpening : call.kind ≠ .openChannel)
    (isHeld : (client.afterCall operation call answer).channel = some channel) :
    client.channel = some channel := by
  cases call <;> cases answer <;> try exact isHeld
  case openChannel.ok => exact absurd rfl notOpening
  all_goals
    dsimp only [afterCall] at isHeld
    split at isHeld
    · exact isHeld
    · first | exact isHeld | cases isHeld

/-- Only a registration brings a stream. -/
theorem stream_of_afterCall
    {queue : String}
    {stream : Stream}
    (notConsuming : call.kind ≠ .consume)
    (isStream : (client.afterCall operation call answer).streams.get? queue = some stream) :
    client.streams.get? queue = some stream := by
  cases call <;> cases answer <;> try exact isStream
  case consume.ok => exact absurd rfl notConsuming
  case delete.ok => exact Dictionary.get?_of_get?_erase isStream
  all_goals
    dsimp only [afterCall] at isStream
    split at isStream
    · exact isStream
    · first | exact isStream | cases isStream

end Client

/-- The streams that a client lets go of when a call is answered. -/
def Client.abandonedBy
    (operation : Operation)
    (client : Client) :
    (call : Call) → call.Answer → List Stream
  | .closeChannel _, _ => if operation.isClose then [] else client.streams.map Prod.snd
  | .delete _ queue _, .ok _ => (client.streams.get? queue).toList
  | .consume _ queue _ _, .ok _ => (client.streams.get? queue).toList
  | _, _ => []

/-- A client in the middle of an operation. -/
structure Standing where
  client : Client
  /-- Streams that the client has let go of and is about to give up. -/
  abandoned : List Stream
  /-- The latest call of the operation, with its answer. -/
  latest : Option ((call : Call) × call.Answer)
  /-- What the wait for a delivery ended with, if it is over. -/
  arrival : Option Arrival

namespace Standing

/-- Where a client stands before it asks anything. -/
def start (client : Client) : Standing :=
  ⟨client, [], none, none⟩

/-- Where a client stands after its wait for a delivery; only a delivery leaves the stream held. -/
def arrived (operation : Operation) (standing : Standing) (arrival : Arrival) : Standing :=
  match arrival.delivery?, operation.awaited? with
  | none, some queue =>
      { standing with
        client :=
          { standing.client with streams := standing.client.streams.erase queue }
        abandoned := (standing.client.streams.get? queue).toList
        arrival := some arrival }
  | _, _ => { standing with arrival := some arrival }

section

variable (operation : Operation) (standing : Standing) (arrival : Arrival)

@[simp] theorem options_arrived :
    (standing.arrived operation arrival).client.options = standing.client.options := by
  unfold arrived
  split <;> rfl

@[simp] theorem channel_arrived :
    (standing.arrived operation arrival).client.channel = standing.client.channel := by
  unfold arrived
  split <;> rfl

@[simp] theorem consumerId_arrived :
    (standing.arrived operation arrival).client.consumerId = standing.client.consumerId := by
  unfold arrived
  split <;> rfl

@[simp] theorem latest_arrived :
    (standing.arrived operation arrival).latest = standing.latest := by
  unfold arrived
  split <;> rfl

/-- The end of a wait brings no stream. -/
theorem stream_of_arrived
    {queue : String}
    {stream : Stream}
    (isStream :
      (standing.arrived operation arrival).client.streams.get? queue = some stream) :
    standing.client.streams.get? queue = some stream := by
  unfold arrived at isStream
  split at isStream
  · exact Dictionary.get?_of_get?_erase isStream
  · exact isStream

end

/-- Where a client stands after an exchange. -/
def after (operation : Operation) (standing : Standing) : Exchange → Standing
  | ⟨.transport call, answer⟩ =>
      { standing with
        client := standing.client.afterCall operation call answer
        abandoned := standing.client.abandonedBy operation call answer
        latest := some ⟨call, answer⟩ }
  | ⟨.next _ _, arrival⟩ => standing.arrived operation arrival
  | ⟨.release _, _⟩ => { standing with abandoned := standing.abandoned.tail }
  | _ => standing

/-- A client keeps the tag of its consumers. -/
theorem consumerId_after (operation : Operation) (standing : Standing) (exchange : Exchange) :
    (standing.after operation exchange).client.consumerId = standing.client.consumerId := by
  obtain ⟨request, answer⟩ := exchange
  cases request with
  | transport call =>
      unfold after Client.afterCall
      dsimp only
      split
      all_goals try split
      all_goals rfl
  | next stream timeout => exact consumerId_arrived operation standing answer
  | _ => rfl

/-- The latest call has negotiated flow control on the channel that is held. -/
def Negotiated (standing : Standing) (channel : Channel) : Prop :=
  standing.client.channel = some channel ∧
    standing.latest =
      some ⟨.qos channel standing.client.options.prefetchCount false, .ok ()⟩

/-- The wait for a delivery is over without one. -/
def InVain (standing : Standing) : Prop :=
  ∃ arrived, standing.arrival = some arrived ∧ arrived.delivery? = none

/-- The latest call has cancelled the consumer on a channel, or has tried to. -/
def Cancelled (standing : Standing) (channel : Channel) : Prop :=
  ∃ answer,
    standing.latest = some ⟨.cancel channel standing.client.consumerId false, answer⟩

/-- What a client may call where it stands. -/
def PermitsCall (operation : Operation) (standing : Standing) : Call → Prop
  | .openChannel _ =>
      standing.arrival = none ∧ standing.client.channel = none ∧
        standing.client.queues = [] ∧ standing.client.streams = []
  | .consume channel queue tag _ =>
      standing.arrival = none ∧ operation.source? = some queue ∧
        tag = standing.client.consumerId ∧
        (operation.awaited? = some queue → standing.client.streams.get? queue = none) ∧
        standing.Negotiated channel
  | .cancel _ tag nowait =>
      standing.InVain ∧ tag = standing.client.consumerId ∧ nowait = false
  | _ => standing.arrival = none

/-- What a client may ask where it stands. -/
def Permits (operation : Operation) (standing : Standing) : Request → Prop
  | .transport call =>
      standing.abandoned = [] ∧
        (∀ channel, call.channel? = some channel → standing.client.channel = some channel) ∧
          standing.PermitsCall operation call
  | .next stream _ =>
      standing.abandoned = [] ∧ standing.arrival = none ∧
        ∃ queue,
          operation.awaited? = some queue ∧ standing.client.streams.get? queue = some stream
  | .release stream => standing.abandoned.head? = some stream
  | _ => standing.abandoned = [] ∧ standing.arrival = none

end Standing

/-- The monitor that follows a client through an operation. -/
def Operation.monitor (operation : Operation) : Monitor Standing where
  permits := Standing.Permits operation
  after := Standing.after operation

/-- How the outcome of an operation goes with the end of its wait for a delivery. -/
structure Operation.Explains
    (operation : Operation)
    (arrival : Option Arrival)
    (outcome : Except ClientError operation.Value) : Prop where
  delivered : operation.delivered? outcome = arrival.bind Arrival.delivery?
  consumerEnds :
    (∃ error, operation.waitFailure? outcome = some error ∧ error.endsConsumer = true) ↔
      ∃ arrived, arrival = some arrived ∧ arrived.delivery? = none
  timedOut :
    (∃ queue, operation.waitFailure? outcome = some (.noMessage queue)) ↔
      arrival = some .timedOut

/-- How an operation ends: the client that it leaves is the one that was followed. -/
structure Operation.Concludes
    (operation : Operation)
    (ended : Outcome operation.Value)
    (standing : Standing) : Prop where
  client : ∃ error, ended.2 = { standing.client with lastError := error }
  abandoned : standing.abandoned = []
  coherent : standing.client.Coherent
  explains : operation.Explains standing.arrival ended.1
  cancels :
    standing.InVain → ∀ channel, standing.client.channel = some channel → standing.Cancelled channel

end BrokerClient
