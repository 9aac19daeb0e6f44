import BrokerClient.Proofs.Network.Log
import BrokerClient.Proofs.Network.Steps

/-!
# What an exchange comes to

Of all that clients ask, little bears on where messages are.  An exchange moves no message, or the
broker accepts one, deletes a queue or registers a consumer, or the client closes its channel and
lets all streams go, or a wait ends with a delivery or without one.  Everything that is said about
runs is checked against these turns and not against the programs again.
-/

namespace BrokerClient

/-- What an event tells about messages. -/
structure Event.Tells
    (event : Event)
    (message : Option (String × Properties × List UInt8))
    (registration : Option (Nat × String))
    (arrival : Option (Nat × String × Delivery)) : Prop where
  message : event.message? = message
  registration : event.registration? = registration
  arrival : event.arrival? = arrival

/-- A client holds the same streams after an exchange, and its wait is where it was. -/
structure Standing.Stays (standing standing' : Standing) : Prop where
  streams : standing'.client.streams = standing.client.streams
  abandoned : standing'.abandoned = []
  arrival : standing'.arrival = standing.arrival

/-- Where something other than a release is permitted, nothing is left to be given up. -/
theorem Standing.Permits.abandoned
    {operation : Operation}
    {standing : Standing}
    {request : Request}
    (permitted : standing.Permits operation request)
    (givesNothingUp : ∀ stream, request ≠ .release stream) :
    standing.abandoned = [] := by
  cases request with
  | release stream => exact absurd rfl (givesNothingUp stream)
  | _ => exact permitted.1

/-- What an exchange comes to. -/
inductive Turn
    (place : Nat)
    (operation : Operation)
    (standing standing' : Standing)
    (broker broker' : Broker)
    (event : Event) : Prop where
  /-- No message moves. -/
  | quiet
      (tells : event.Tells none none none)
      (keeps : broker.KeepsMessages broker')
      (stays : standing.Stays standing')
  /-- A message is accepted. -/
  | publishes
      (queue : String)
      (properties : Properties)
      (body : List UInt8)
      (tells : event.Tells (some (queue, properties, body)) none none)
      (accepts :
        broker.Accepts broker' (Broker.message (broker.accepted + 1) queue properties body))
      (stays : standing.Stays standing')
      (noArrival : standing.arrival = none)
  /-- A queue is deleted, and the stream of the client, if it has one, is let go. -/
  | deletes
      (queue : String)
      (tells : event.Tells none none none)
      (isDeletion : event.deletion? = some queue)
      (deletes : broker.Deletes broker' queue)
      (streams : standing'.client.streams = standing.client.streams.erase queue)
      (abandoned : standing'.abandoned = (standing.client.streams.get? queue).toList)
      (noArrival : standing.arrival = none ∧ standing'.arrival = none)
  /-- A consumer registers; a stream that the client had for the queue is let go. -/
  | consumes
      (queue : String)
      (stream : Stream)
      (tells : event.Tells none (some (place, queue)) none)
      (registers : broker.Registers broker' queue standing.client.consumerId stream)
      (isSource : operation.source? = some queue)
      (free :
        standing.client.streams.get? queue = none ∨
          event.directRegistration? = some (place, queue))
      (streams : standing'.client.streams = standing.client.streams.insert queue stream)
      (abandoned : standing'.abandoned = (standing.client.streams.get? queue).toList)
      (noArrival : standing.arrival = none ∧ standing'.arrival = none)
  /-- The channel is closed to make room for another, and all streams are let go. -/
  | closes
      (tells : event.Tells none none none)
      (replaces : event.replacement? = some place)
      (keeps : broker.KeepsMessages broker')
      (streams : standing'.client.streams = [])
      (abandoned : standing'.abandoned = standing.client.streams.map Prod.snd)
      (noArrival : standing.arrival = none ∧ standing'.arrival = none)
  /-- A delivery arrives. -/
  | takes
      (queue : String)
      (stream : Stream)
      (delivery : Delivery)
      (rest : List Delivery)
      (tells : event.Tells none none (some (place, queue, delivery)))
      (awaits : operation.awaited? = some queue)
      (isStream : standing.client.streams.get? queue = some stream)
      (buffer : broker.buffer stream = delivery :: rest)
      (isBroker : broker' = broker.modifyFeed stream fun feed => { feed with buffer := rest })
      (streams : standing'.client.streams = standing.client.streams)
      (abandoned : standing'.abandoned = [])
      (noArrival : standing.arrival = none)
      (arrival : standing'.arrival = some (.item (.ok delivery)))
  /-- A wait ends without a delivery, and its stream is let go. -/
  | ceases
      (queue : String)
      (stream : Stream)
      (arrival : Arrival)
      (tells : event.Tells none none none)
      (awaits : operation.awaited? = some queue)
      (isStream : standing.client.streams.get? queue = some stream)
      (undelivered : arrival.delivery? = none)
      (buffer : broker.buffer stream = [])
      (fed : arrival = .timedOut → broker.isFed stream = true)
      (isBroker : broker' = broker)
      (streams : standing'.client.streams = standing.client.streams.erase queue)
      (abandoned : standing'.abandoned = [stream])
      (noArrival : standing.arrival = none)
      (isArrival : standing'.arrival = some arrival)

namespace Turn

variable {place : Nat} {operation : Operation} {standing : Standing} {broker broker' : Broker}

/-- A call moves no message if its answer is no news of one and the client keeps its streams. -/
theorem quiet_call
    {call : Call}
    {answer : call.Answer}
    (tells :
      (Event.asked place operation ⟨.transport call, answer⟩).Tells none none none)
    (keeps : broker.KeepsMessages broker')
    (streams :
      (standing.client.afterCall operation call answer).streams = standing.client.streams)
    (abandoned : standing.client.abandonedBy operation call answer = []) :
    Turn place operation standing (standing.after operation ⟨.transport call, answer⟩)
      broker broker' (.asked place operation ⟨.transport call, answer⟩) :=
  .quiet tells keeps ⟨streams, abandoned, rfl⟩

/-- A call on a channel that is not usable is answered with a failure and does nothing. -/
theorem quiet_failure
    {call : Call}
    {error : TransportError}
    (notClosing : call.kind ≠ .closeChannel)
    (keeps : broker.KeepsMessages broker') :
    Turn place operation standing (standing.after operation ⟨.transport call, .error error⟩)
      broker broker' (.asked place operation ⟨.transport call, .error error⟩) := by
  cases call with
  | closeChannel channel => exact absurd rfl notClosing
  | _ => exact quiet_call ⟨rfl, rfl, rfl⟩ keeps rfl rfl

/-- A registration opens a stream or fails. -/
theorem of_consume
    {channel : Channel}
    {queue tag : String}
    {flags : ConsumeFlags}
    (permittedCall : standing.PermitsCall operation (.consume channel queue tag flags))
    {answer : (Call.consume channel queue tag flags).Answer}
    (performed : broker.perform (.consume channel queue tag flags) = (answer, broker')) :
    Turn place operation standing
      (standing.after operation ⟨.transport (.consume channel queue tag flags), answer⟩)
      broker broker'
      (.asked place operation ⟨.transport (.consume channel queue tag flags), answer⟩) := by
  obtain ⟨noArrival, isSource, rfl, free, -⟩ := permittedCall
  rcases Broker.onChannel_cases channel
    (broker.consume channel queue standing.client.consumerId) with same | same
  · have consumed := same.symm.trans performed
    rcases Broker.consume_cases channel queue standing.client.consumerId with
      ⟨error, failed, isOutcome, keeps⟩ | ⟨stream, registered, isOutcome, registers⟩
    · cases isOutcome.symm.trans consumed
      exact quiet_failure (by simp [Call.kind]) keeps
    · cases isOutcome.symm.trans consumed
      refine .consumes queue stream ⟨rfl, rfl, rfl⟩ registers isSource ?_ rfl rfl
        ⟨noArrival, noArrival⟩
      cases operation with
      | receive name decode => exact .inl (free isSource)
      | registerConsumer name => exact .inr rfl
      | _ => cases isSource
  · cases same.symm.trans performed
    exact quiet_failure (by simp [Call.kind]) (.refl _)

/-- A channel is closed for its own sake or to make room. -/
theorem of_closeChannel
    {channel : Channel}
    (noArrival : standing.arrival = none)
    {answer : (Call.closeChannel channel).Answer} :
    Turn place operation standing
      (standing.after operation ⟨.transport (.closeChannel channel), answer⟩)
      broker (broker.closeChannel channel)
      (.asked place operation ⟨.transport (.closeChannel channel), answer⟩) := by
  by_cases isClose : operation.isClose = true
  · refine quiet_call ⟨rfl, rfl, rfl⟩ (Broker.keepsMessages_closeChannel channel) ?_ ?_
    · simp [Client.afterCall, isClose]
    · simp [Client.abandonedBy, isClose]
  · have makesRoom : operation.isClose = false := by simpa using isClose
    refine .closes ⟨rfl, rfl, rfl⟩ ?_ (Broker.keepsMessages_closeChannel channel) ?_ ?_
      ⟨noArrival, noArrival⟩
    · simp [Event.replacement?, makesRoom]
    · simp [Standing.after, Client.afterCall, makesRoom, Client.withoutChannel]
    · simp [Standing.after, Client.abandonedBy, makesRoom]

theorem of_call
    {call : Call}
    (permitted : standing.Permits operation (.transport call))
    {answer : call.Answer}
    (performed : broker.perform call = (answer, broker')) :
    Turn place operation standing (standing.after operation ⟨.transport call, answer⟩)
      broker broker' (.asked place operation ⟨.transport call, answer⟩) := by
  obtain ⟨-, onHeld, permittedCall⟩ := permitted
  cases call with
  | dial url =>
      have keeps : broker.KeepsMessages broker' := Broker.keepsMessages_dial performed
      cases answer <;> exact quiet_call ⟨rfl, rfl, rfl⟩ keeps rfl rfl
  | openChannel connection =>
      have keeps := broker.keepsMessages_openChannel connection
      obtain rfl : broker' = (broker.openChannel connection).2 := (congrArg Prod.snd performed).symm
      cases answer <;> exact quiet_call ⟨rfl, rfl, rfl⟩ keeps rfl rfl
  | closeConnection connection =>
      obtain rfl : broker' = broker := (congrArg Prod.snd performed).symm
      cases answer <;> exact quiet_call ⟨rfl, rfl, rfl⟩ (.refl _) rfl rfl
  | qos channel prefetchCount global =>
      rcases Broker.onChannel_cases channel (.ok (), broker) with same | same
      all_goals
        cases same.symm.trans performed
        exact quiet_call ⟨rfl, rfl, rfl⟩ (.refl _) rfl rfl
  | declare channel queue flags arguments =>
      rcases Broker.onChannel_cases channel (broker.declare queue flags) with same | same
      · obtain rfl : broker' = (broker.declare queue flags).2 :=
          (congrArg Prod.snd (same.symm.trans performed)).symm
        cases answer with
        | error error =>
            exact quiet_failure (by simp [Call.kind]) (Broker.keepsMessages_declare _ _)
        | ok info =>
            refine quiet_call ⟨rfl, rfl, rfl⟩ (Broker.keepsMessages_declare _ _) ?_ rfl
            dsimp only [Client.afterCall]
            split
            · rfl
            · rfl
      · cases same.symm.trans performed
        exact quiet_failure (by simp [Call.kind]) (.refl _)
  | delete channel queue flags =>
      rcases Broker.onChannel_cases channel (.ok (broker.delete queue).1, (broker.delete queue).2)
        with same | same
      · cases same.symm.trans performed
        exact .deletes queue ⟨rfl, rfl, rfl⟩ rfl (Broker.deletes_delete queue) rfl rfl
          ⟨permittedCall, permittedCall⟩
      · cases same.symm.trans performed
        exact quiet_failure (by simp [Call.kind]) (.refl _)
  | publish channel publication =>
      rcases Broker.onChannel_cases channel (.ok (), broker.publish publication) with same | same
      · cases same.symm.trans performed
        exact .publishes _ _ _ ⟨rfl, rfl, rfl⟩ (Broker.accepts_publish publication) ⟨rfl, rfl, rfl⟩
          permittedCall
      · cases same.symm.trans performed
        exact quiet_failure (by simp [Call.kind]) (.refl _)
  | consume channel queue tag flags =>
      exact of_consume permittedCall performed
  | cancel channel tag nowait =>
      rcases Broker.onChannel_cases channel (.ok (), broker.cancel tag) with same | same
      · cases same.symm.trans performed
        exact quiet_call ⟨rfl, rfl, rfl⟩ (Broker.keepsMessages_cancel tag) rfl rfl
      · cases same.symm.trans performed
        exact quiet_failure (by simp [Call.kind]) (.refl _)
  | closeChannel channel =>
      obtain rfl : broker' = broker.closeChannel channel := (congrArg Prod.snd performed).symm
      exact of_closeChannel permittedCall

/-- A wait that is at its end. -/
theorem of_next
    {network : Network}
    {stream : Stream}
    {timeout : Duration}
    (permitted : standing.Permits operation (.next stream timeout)) :
    Turn place operation standing
      (standing.after operation ⟨.next stream timeout, network.answer (.next stream timeout)⟩)
      network.broker (network.brokerAfter (.next stream timeout))
      (.asked place operation ⟨.next stream timeout, network.answer (.next stream timeout)⟩) := by
  obtain ⟨letGo, noArrival, queue, awaits, isStream⟩ := permitted
  have ceasing (arrival : Arrival) (undelivered : arrival.delivery? = none)
      (empty : network.broker.buffer stream = [])
      (fed : arrival = .timedOut → network.broker.isFed stream = true) :
      Turn place operation standing (standing.arrived operation arrival)
        network.broker network.broker
        (.asked place operation ⟨.next stream timeout, arrival⟩) := by
    refine .ceases queue stream arrival ⟨rfl, rfl, ?_⟩ awaits isStream undelivered empty fed rfl
      ?_ ?_ noArrival ?_
    · unfold Event.arrival?
      split
      · next same =>
          cases same
          cases undelivered
      · rfl
    all_goals simp [Standing.arrived, undelivered, awaits, isStream]
  cases polled : network.broker.poll stream with
  | item delivery broker' =>
      obtain ⟨rest, shape, isBroker⟩ := Broker.poll_item polled
      simp only [Network.answer, Network.brokerAfter, polled]
      refine .takes queue stream delivery rest ⟨rfl, rfl, ?_⟩ awaits isStream shape isBroker rfl
        letGo noArrival rfl
      simp [Event.arrival?, awaits]
  | ended =>
      simp only [Network.answer, Network.brokerAfter, polled]
      exact ceasing .ended rfl (Broker.poll_ended polled) (fun same => by cases same)
  | pending =>
      obtain ⟨empty, fed⟩ := Broker.poll_pending polled
      simp only [Network.answer, Network.brokerAfter, polled]
      exact ceasing .timedOut rfl empty (fun _ => fed)

/-- The broker counts the messages that it accepts. -/
theorem accepted
    {standing' : Standing}
    {event : Event}
    (turn : Turn place operation standing standing' broker broker' event) :
    broker'.accepted = broker.accepted + (event.message?.map fun _ => 1).getD 0 := by
  cases turn with
  | quiet tells keeps stays => simp [tells.message, keeps.accepted]
  | publishes queue properties body tells accepts stays noArrival =>
      simp [tells.message, accepts.accepted]
  | deletes queue tells isDeletion deletes streams abandoned noArrival =>
      simp [tells.message, deletes.accepted]
  | consumes queue stream tells registers isSource free streams abandoned noArrival =>
      simp [tells.message, registers.accepted]
  | closes tells replaces keeps streams abandoned noArrival => simp [tells.message, keeps.accepted]
  | takes queue stream delivery rest tells awaits isStream shape isBroker streams abandoned
      noArrival arrival =>
      simp [tells.message, isBroker, Broker.modifyFeed]
  | ceases queue stream arrival tells awaits isStream undelivered shape fed isBroker streams
      abandoned noArrival isArrival =>
      simp [tells.message, isBroker]

/-- Every exchange that gives no stream up comes to one of the turns. -/
theorem of_exchange
    {network : Network}
    {request : Request}
    (permitted : standing.Permits operation request)
    (givesNothingUp : ∀ stream, request ≠ .release stream) :
    Turn place operation standing
      (standing.after operation ⟨request, network.answer request⟩)
      network.broker (network.brokerAfter request)
      (.asked place operation ⟨request, network.answer request⟩) := by
  cases request with
  | transport call => exact of_call permitted rfl
  | next stream timeout => exact of_next permitted
  | release stream => exact absurd rfl (givesNothingUp stream)
  | isClosed | sleep | describe | freshId =>
      exact .quiet ⟨rfl, rfl, rfl⟩ (.refl _) ⟨rfl, permitted.1, rfl⟩

end Turn

/-- A disturbance moves no message, or the broker accepts one. -/
theorem Broker.disturb_cases (broker : Broker) (disturbance : Disturbance) :
    (broker.KeepsMessages (broker.disturb disturbance) ∧
        (Event.disturbed disturbance).message? = none) ∨
      ∃ queue properties body,
        (Event.disturbed disturbance).message? = some (queue, properties, body) ∧
          broker.Accepts (broker.disturb disturbance)
            (message (broker.accepted + 1) queue properties body) := by
  cases disturbance with
  | pushRaw queue body => exact .inr ⟨_, _, _, rfl, accepts_accept queue .none body⟩
  | dropConsumers => exact .inl ⟨keepsMessages_dropConsumers, rfl⟩
  | dropConnections => exact .inl ⟨keepsMessages_dropConnections, rfl⟩
  | refuseDials refuses => exact .inl ⟨keepsMessages_refuseDials refuses, rfl⟩
  | settle delivery settlement => exact .inl ⟨keepsMessages_settle delivery settlement, rfl⟩

namespace Network.Underway

variable {network : Network} {place : Nat} {operation : Operation} {standing : Standing}
variable {request : Request} {next : request.Answer → Program (Outcome operation.Value)}

/-- What the next exchange of a party comes to. -/
theorem turn
    (underway : network.Underway place operation standing (.ask request next))
    (givesNothingUp : ∀ stream, request ≠ .release stream) :
    Turn place operation standing
      (standing.after operation ⟨request, network.answer request⟩)
      network.broker (network.brokerAfter request)
      (.asked place operation ⟨request, network.answer request⟩) :=
  .of_exchange underway.met.1 givesNothingUp

/-- Before anything else is asked, all streams that were let go are given up. -/
theorem letGo
    (underway : network.Underway place operation standing (.ask request next))
    (givesNothingUp : ∀ stream, request ≠ .release stream) :
    standing.abandoned = [] :=
  Standing.Permits.abandoned underway.met.1 givesNothingUp

end Network.Underway

end BrokerClient
