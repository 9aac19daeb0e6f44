import BrokerClient.Proofs.Client.Standing

/-!
# Clients meet the monitors of their operations

Each part of an operation is followed through the exchanges that it makes, for all answers that it
may get; the parts are put together where the client puts them together.  The retries of a
registration are followed by induction on how many of them are left: a retry comes back to where
the client stood before, on another channel.
-/

namespace BrokerClient

namespace Standing

/-- A client stands between two parts of an operation: nothing is left to be given up. -/
structure At (standing : Standing) (client : Client) : Prop where
  isClient : standing.client = client
  abandoned : standing.abandoned = []
  arrival : standing.arrival = none
  coherent : client.Coherent

theorem at_start {client : Client} (coherent : client.Coherent) : (start client).At client :=
  ⟨rfl, rfl, rfl, coherent⟩

end Standing

namespace Client

open Standing

variable {operation : Operation} {standing : Standing} {client : Client}

/-! ## What keeps a client coherent -/

theorem coherent_new
    (connection : Connection)
    (url consumerId : String)
    (options : Options) :
    (Client.new connection url consumerId options).Coherent :=
  ⟨fun _ => rfl, fun _ => rfl, List.Pairwise.nil⟩

theorem coherent_withoutChannel (client : Client) : client.withoutChannel.Coherent :=
  ⟨fun _ => rfl, fun _ => rfl, List.Pairwise.nil⟩

theorem Coherent.of_held
    {channel : Channel}
    (held : client.channel = some channel)
    (rising : Dictionary.Rising client.streams) :
    client.Coherent :=
  ⟨fun absent => by simp [held] at absent, fun absent => by simp [held] at absent, rising⟩

/-- Without a channel a coherent client is as it would be left by closing one. -/
theorem Coherent.eq_withoutChannel
    (coherent : client.Coherent)
    (absent : client.channel = none) :
    client.withoutChannel = client := by
  have noQueues := coherent.queues_of_no_channel absent
  have noStreams := coherent.streams_of_no_channel absent
  obtain ⟨lastError, channel, connection, url, consumerId, options, queues, streams⟩ := client
  simp only at absent noQueues noStreams
  subst absent noQueues noStreams
  rfl

/-- A stream may be forgotten. -/
theorem Coherent.forget (coherent : client.Coherent) (queue : String) :
    Coherent { client with streams := client.streams.erase queue } := by
  refine ⟨coherent.queues_of_no_channel, fun absent => ?_, ?_⟩
  · simp [coherent.streams_of_no_channel absent, Dictionary.erase]
  · exact Dictionary.rising_erase coherent.rising queue

theorem Coherent.afterCall
    (coherent : client.Coherent)
    {call : Call}
    (onHeld : ∀ channel, call.channel? = some channel → client.channel = some channel)
    (answer : call.Answer) :
    (client.afterCall operation call answer).Coherent := by
  cases call <;> cases answer <;> try exact coherent
  case dial.ok url connection => exact ⟨coherent.1, coherent.2, coherent.3⟩
  case openChannel.ok connection channel =>
    exact .of_held rfl coherent.rising
  case declare.ok channel queue flags arguments info =>
    dsimp only [Client.afterCall]
    split
    · exact .of_held (onHeld channel rfl) coherent.rising
    · exact coherent
  case delete.ok channel queue flags purged =>
    exact .of_held (onHeld channel rfl) (Dictionary.rising_erase coherent.rising queue)
  case consume.ok channel queue tag flags stream =>
    exact .of_held (onHeld channel rfl) (Dictionary.rising_insert coherent.rising queue stream)
  all_goals
    dsimp only [Client.afterCall]
    split
    · exact coherent
    · exact coherent_withoutChannel client

/-- Permitted exchanges keep the client coherent. -/
theorem Coherent.after
    (coherent : standing.client.Coherent)
    (exchange : Exchange)
    (permitted : standing.Permits operation exchange.request) :
    (standing.after operation exchange).client.Coherent := by
  obtain ⟨request, answer⟩ := exchange
  cases request with
  | transport call => exact coherent.afterCall permitted.2.1 answer
  | next stream timeout =>
      dsimp only [Standing.after, arrived]
      split
      · exact coherent.forget _
      · exact coherent
  | _ => exact coherent

/-! ## Streams and queues -/

/-- Giving up all streams that were let go leaves nothing to be given up. -/
theorem releaseAll_meets
    (streams : List Stream)
    (standing : Standing)
    (letGo : standing.abandoned = streams) :
    (releaseAll streams).Meets operation.monitor
      (fun _ left => left = { standing with abandoned := [] }) standing := by
  induction streams generalizing standing with
  | nil =>
      obtain ⟨_, _, _, _⟩ := standing
      simp only at letGo
      subst letGo
      rfl
  | cons stream rest inductionHypothesis =>
      refine ⟨?_, fun answer => ?_⟩
      · simp [Operation.monitor, Permits, letGo]
      · exact inductionHypothesis (standing.after operation ⟨.release stream, answer⟩)
          (by simp [after, letGo])

/-- Forgetting a stream gives it up, after it was let go. -/
theorem forgetStream_meets
    (queue : String)
    (letGo : standing.abandoned = (client.streams.get? queue).toList) :
    (client.forgetStream queue).Meets operation.monitor
      (fun forgotten left =>
        forgotten = { client with streams := client.streams.erase queue } ∧
          left = { standing with abandoned := [] }) standing :=
  (releaseAll_meets _ standing letGo).bind fun _ _ given => ⟨rfl, given⟩

theorem declare_meets
    (stands : standing.At client)
    (definition : QueueDefinition)
    (remembers : operation.remembersQueues = true) :
    (client.declare definition).Meets operation.monitor
      (fun ended left => left.At ended.2) standing := by
  obtain ⟨rfl, letGo, noArrival, coherent⟩ := stands
  unfold declare
  split
  · exact ⟨rfl, letGo, noArrival, coherent⟩
  · split
    · exact ⟨rfl, letGo, noArrival, coherent⟩
    · next channel held =>
        refine ⟨⟨letGo, by simp [Call.channel?, held], noArrival⟩, fun answer => ?_⟩
        cases answer with
        | error error => exact ⟨rfl, rfl, noArrival, coherent⟩
        | ok info =>
            refine ⟨?_, rfl, noArrival, .of_held held coherent.rising⟩
            simp [Operation.monitor, after, afterCall, remembers]

theorem inspect_meets
    (stands : standing.At client)
    (queue : String)
    (forgets : operation.remembersQueues = false) :
    (client.inspect queue).Meets operation.monitor
      (fun ended left => left.At ended.2) standing := by
  obtain ⟨rfl, letGo, noArrival, coherent⟩ := stands
  unfold inspect
  split
  · exact ⟨rfl, letGo, noArrival, coherent⟩
  · next channel held =>
      refine ⟨⟨letGo, by simp [Call.channel?, held], noArrival⟩, fun answer => ?_⟩
      cases answer with
      | error error => exact ⟨rfl, rfl, noArrival, coherent⟩
      | ok info =>
          refine ⟨?_, rfl, noArrival, coherent⟩
          simp [Operation.monitor, after, afterCall, forgets, outcomeOf]

theorem delete_meets (stands : standing.At client) (queue : String) :
    (client.delete queue).Meets operation.monitor
      (fun ended left => left.At ended.2) standing := by
  obtain ⟨rfl, letGo, noArrival, coherent⟩ := stands
  unfold delete
  split
  · exact ⟨rfl, letGo, noArrival, coherent⟩
  · next channel held =>
      refine ⟨⟨letGo, by simp [Call.channel?, held], noArrival⟩, fun answer => ?_⟩
      cases answer with
      | error error => exact ⟨rfl, rfl, noArrival, coherent⟩
      | ok purged =>
          refine (forgetStream_meets queue rfl).bind ?_
          rintro forgotten left ⟨rfl, rfl⟩
          exact ⟨rfl, rfl, noArrival, .of_held held (Dictionary.rising_erase coherent.rising _)⟩

/-! ## Publishing -/

theorem failWith_meets
    (stands : standing.At client)
    (message : Outgoing)
    (error : ClientError) :
    (client.failWith message error).Meets operation.monitor
      (fun ended left => left.At ended.2) standing :=
  ⟨⟨stands.abandoned, stands.arrival⟩, fun _ => stands⟩

theorem send_meets
    (stands : standing.At client)
    (tracing : Tracing)
    (queue : String)
    (message : Outgoing)
    (body : List UInt8) :
    (client.send tracing queue message body).Meets operation.monitor
      (fun ended left => left.At ended.2) standing := by
  unfold send
  refine ⟨⟨stands.abandoned, stands.arrival⟩, fun messageId => ?_⟩
  change Program.Meets _ _ _ standing
  dsimp only [Bind.bind, Program.bind, Program.request]
  obtain ⟨rfl, letGo, noArrival, coherent⟩ := stands
  split
  · exact ⟨rfl, letGo, noArrival, coherent⟩
  · next channel held =>
      refine ⟨⟨letGo, by simp [Call.channel?, held], noArrival⟩, fun answer => ?_⟩
      cases answer with
      | error error =>
          refine failWith_meets ?_ message _
          exact ⟨rfl, rfl, noArrival, coherent⟩
      | ok confirmed => exact ⟨rfl, rfl, noArrival, coherent⟩

theorem sendDeclared_meets
    (stands : standing.At client)
    (tracing : Tracing)
    (queue : String)
    (message : Outgoing)
    (remembers : operation.remembersQueues = true) :
    (client.sendDeclared tracing queue message).Meets operation.monitor
      (fun ended left => left.At ended.2) standing := by
  refine (declare_meets stands _ remembers).bind ?_
  rintro ⟨outcome, client⟩ left stands
  cases outcome with
  | error error => exact stands
  | ok declared =>
      dsimp only
      split
      · exact send_meets stands _ _ _ _
      · exact failWith_meets stands _ _

/-! ## Channels -/

/-- The streams of one client are still held by another, or all of them are gone. -/
def KeepsStreams (client client' : Client) : Prop :=
  client'.streams = client.streams ∨ client'.streams = []

theorem KeepsStreams.trans
    {client client' client'' : Client}
    (first : client.KeepsStreams client')
    (second : client'.KeepsStreams client'') :
    client.KeepsStreams client'' := by
  rcases second with same | gone
  · rcases first with sameBefore | goneBefore
    · exact .inl (same.trans sameBefore)
    · exact .inr (same.trans goneBefore)
  · exact .inr gone

theorem KeepsStreams.get?_eq_none
    {client client' : Client}
    (keeps : client.KeepsStreams client')
    {queue : String}
    (free : client.streams.get? queue = none) :
    client'.streams.get? queue = none := by
  rcases keeps with same | gone
  · rw [same]
    exact free
  · rw [gone]
    rfl

theorem redial_meets (stands : standing.At client) :
    client.redial.Meets operation.monitor
      (fun ended left => left.At ended.2 ∧ client.KeepsStreams ended.2) standing := by
  refine ⟨⟨stands.abandoned, stands.arrival⟩, fun closed => ?_⟩
  obtain ⟨rfl, letGo, noArrival, coherent⟩ := stands
  cases closed with
  | false => exact ⟨⟨rfl, letGo, noArrival, coherent⟩, .inl rfl⟩
  | true =>
      refine ⟨⟨letGo, by simp [Call.channel?], noArrival⟩, fun answer => ?_⟩
      cases answer with
      | error error => exact ⟨⟨rfl, rfl, noArrival, coherent⟩, .inl rfl⟩
      | ok connection =>
          exact ⟨⟨rfl, rfl, noArrival, ⟨coherent.1, coherent.2, coherent.3⟩⟩, .inl rfl⟩

/-- Closing the channel to make room for another lets all streams go. -/
theorem closeChannel_meets
    (stands : standing.At client)
    (makesRoom : operation.isClose = false) :
    client.closeChannel.Meets operation.monitor
      (fun _ left =>
        left.client = client.withoutChannel ∧
          left.abandoned = client.streams.map Prod.snd ∧ left.arrival = none) standing := by
  obtain ⟨rfl, letGo, noArrival, coherent⟩ := stands
  unfold closeChannel
  split
  · next channel held =>
      refine ⟨⟨letGo, by simp [Call.channel?, held], noArrival⟩, fun answer => ?_⟩
      refine ⟨?_, ?_, noArrival⟩
      · simp [Operation.monitor, after, afterCall, makesRoom]
      · simp [Operation.monitor, after, abandonedBy, makesRoom]
  · next absent =>
      refine ⟨(coherent.eq_withoutChannel absent).symm, ?_, noArrival⟩
      simp [letGo, coherent.streams_of_no_channel absent]

theorem replaceChannel_meets
    (stands : standing.At client)
    (makesRoom : operation.isClose = false) :
    client.replaceChannel.Meets operation.monitor
      (fun ended left => left.At ended.2 ∧ ended.2.streams = []) standing := by
  refine (closeChannel_meets stands makesRoom).bind ?_
  rintro - left ⟨isClient, letGo, noArrival⟩
  refine (releaseAll_meets _ left letGo).bind ?_
  rintro - left rfl
  refine ⟨⟨rfl, by simp [Call.channel?], noArrival, ?_⟩, fun answer => ?_⟩
  · simp [isClient, withoutChannel]
  · cases answer with
    | error error => exact ⟨⟨isClient, rfl, noArrival, coherent_withoutChannel client⟩, rfl⟩
    | ok channel =>
        refine ⟨⟨?_, rfl, noArrival, .of_held rfl List.Pairwise.nil⟩, rfl⟩
        simp [Operation.monitor, after, afterCall, isClient]

theorem reopen_meets
    (stands : standing.At client)
    (makesRoom : operation.isClose = false) :
    client.reopen.Meets operation.monitor
      (fun ended left => left.At ended.2 ∧ client.KeepsStreams ended.2) standing := by
  refine (redial_meets stands).bind ?_
  rintro ⟨outcome, redialed⟩ left ⟨stands, keeps⟩
  cases outcome with
  | error error => exact ⟨stands, keeps⟩
  | ok done =>
      refine (replaceChannel_meets stands makesRoom).mono ?_
      exact fun ended left replaced => ⟨replaced.1, .inr replaced.2⟩

theorem closeBoth_meets
    (stands : standing.At client)
    (isClose : operation.isClose = true) :
    client.closeBoth.Meets operation.monitor
      (fun ended left => left.At ended.2) standing := by
  have closes :
      client.closeChannel.Meets operation.monitor (fun _ left => left.At client)
        standing := by
    obtain ⟨rfl, letGo, noArrival, coherent⟩ := stands
    unfold closeChannel
    split
    · next channel held =>
        refine ⟨⟨letGo, by simp [Call.channel?, held], noArrival⟩, fun answer => ?_⟩
        refine ⟨?_, ?_, noArrival, coherent⟩
        · simp [Operation.monitor, after, afterCall, isClose]
        · simp [Operation.monitor, after, abandonedBy, isClose]
    · exact ⟨rfl, letGo, noArrival, coherent⟩
  refine closes.bind ?_
  rintro - left ⟨rfl, letGo, noArrival, coherent⟩
  refine ⟨⟨letGo, by simp [Call.channel?], noArrival⟩, fun answer => ?_⟩
  cases answer <;> exact ⟨rfl, rfl, noArrival, coherent⟩

/-! ## Registering consumers -/

/-- A negotiation that succeeds was made on the channel that is held. -/
theorem qos_meets (stands : standing.At client) :
    client.qos.Meets operation.monitor
      (fun answer left =>
        left.At client ∧
          match answer with
          | .ok () => ∃ channel, left.Negotiated channel
          | .error _ => True) standing := by
  obtain ⟨rfl, letGo, noArrival, coherent⟩ := stands
  unfold qos
  split
  · next channel held =>
      refine ⟨⟨letGo, by simp [Call.channel?, held], noArrival⟩, fun answer => ?_⟩
      refine ⟨⟨rfl, rfl, noArrival, coherent⟩, ?_⟩
      cases answer with
      | error error => trivial
      | ok done => exact ⟨channel, held, rfl⟩
  · exact ⟨⟨rfl, letGo, noArrival, coherent⟩, trivial⟩

theorem negotiateQosWithin_meets
    (stands : standing.At client)
    (queue : String)
    (makesRoom : operation.isClose = false)
    (retries : Nat) :
    (negotiateQosWithin queue retries client).Meets operation.monitor
      (fun ended left =>
        left.At ended.2 ∧ client.KeepsStreams ended.2 ∧
          match ended.1 with
          | .ok () => ∃ channel, left.Negotiated channel
          | .error error => error.refusesConsumer = true) standing := by
  induction retries generalizing standing client with
  | zero =>
      unfold negotiateQosWithin
      refine (qos_meets stands).bind ?_
      rintro (error | negotiated) left ⟨stands, holds⟩
      · exact ⟨stands, .inl rfl, rfl⟩
      · exact ⟨stands, .inl rfl, holds⟩
  | succ remaining inductionHypothesis =>
      unfold negotiateQosWithin
      refine (qos_meets stands).bind ?_
      rintro (error | negotiated) left ⟨stands, holds⟩
      · dsimp only
        split
        · refine ⟨⟨stands.abandoned, stands.arrival⟩, fun _ => ?_⟩
          refine (reopen_meets stands makesRoom).bind ?_
          rintro ⟨outcome, reopened⟩ left ⟨stands, keeps⟩
          refine (inductionHypothesis stands).mono ?_
          exact fun ended left fits => ⟨fits.1, keeps.trans fits.2.1, fits.2.2⟩
        · exact ⟨stands, .inl rfl, rfl⟩
      · exact ⟨stands, .inl rfl, holds⟩

theorem negotiateQos_meets
    (stands : standing.At client)
    (queue : String)
    (makesRoom : operation.isClose = false) :
    (client.negotiateQos queue).Meets operation.monitor
      (fun ended left =>
        left.At ended.2 ∧ client.KeepsStreams ended.2 ∧
          match ended.1 with
          | .ok () => ∃ channel, left.Negotiated channel
          | .error error => error.refusesConsumer = true) standing :=
  negotiateQosWithin_meets stands queue makesRoom _

/-- Where a client stands once it was answered with a stream that it does not hold yet. -/
structure Offered
    (client : Client)
    (queue : String)
    (stream : Stream)
    (standing : Standing) : Prop where
  isClient : standing.client = { client with streams := client.streams.insert queue stream }
  abandoned : standing.abandoned = (client.streams.get? queue).toList
  arrival : standing.arrival = none
  coherent : standing.client.Coherent

/-- Right behind a negotiation a client may consume. -/
theorem consume_meets
    {channel : Channel}
    (stands : standing.At client)
    (negotiated : standing.Negotiated channel)
    {queue : String}
    (isSource : operation.source? = some queue)
    (free : operation.awaited? = some queue → client.streams.get? queue = none) :
    (client.consume queue).Meets operation.monitor
      (fun answer left =>
        match answer with
        | .ok stream => client.Offered queue stream left
        | .error _ => left.At client) standing := by
  obtain ⟨rfl, letGo, noArrival, coherent⟩ := stands
  unfold consume
  split
  · next held heldChannel =>
      have isHeld : held = channel :=
        Option.some.inj (heldChannel.symm.trans negotiated.1)
      subst isHeld
      refine ⟨⟨letGo, by simp [Call.channel?, heldChannel], ?_⟩, fun answer => ?_⟩
      · exact ⟨noArrival, isSource, rfl, free, negotiated⟩
      · cases answer with
        | error error => exact ⟨rfl, rfl, noArrival, coherent⟩
        | ok stream =>
            refine ⟨rfl, rfl, noArrival, .of_held heldChannel ?_⟩
            exact Dictionary.rising_insert coherent.rising queue stream
  · exact ⟨rfl, letGo, noArrival, coherent⟩

/-- The stream that was offered is held, in place of the one before. -/
theorem holdStream_meets
    {queue : String}
    {stream : Stream}
    (offered : client.Offered queue stream standing) :
    (client.holdStream queue stream).Meets operation.monitor
      (fun client left => left.At client ∧ client.streams.get? queue = some stream)
      standing := by
  refine (releaseAll_meets _ standing offered.abandoned).bind ?_
  rintro - left rfl
  refine ⟨⟨offered.isClient, rfl, offered.arrival, ?_⟩, ?_⟩
  · exact offered.isClient ▸ offered.coherent
  · exact Dictionary.get?_insert_same _ _ _

theorem consumeWithin_meets
    {channel : Channel}
    (stands : standing.At client)
    (negotiated : standing.Negotiated channel)
    {queue : String}
    (isSource : operation.source? = some queue)
    (free : operation.awaited? = some queue → client.streams.get? queue = none)
    (makesRoom : operation.isClose = false)
    (retries : Nat) :
    (consumeWithin queue retries client).Meets operation.monitor
      (fun ended left =>
        left.At ended.2 ∧
          match ended.1 with
          | .ok () => ∃ stream, ended.2.streams.get? queue = some stream
          | .error error => error.refusesConsumer = true) standing := by
  induction retries generalizing standing client channel with
  | zero =>
      unfold consumeWithin
      refine (consume_meets stands negotiated isSource free).bind ?_
      rintro (error | stream) left stands
      · exact ⟨stands, rfl⟩
      · refine (holdStream_meets stands).bind ?_
        rintro client left ⟨stands, holds⟩
        exact ⟨stands, stream, holds⟩
  | succ remaining inductionHypothesis =>
      unfold consumeWithin
      refine (consume_meets stands negotiated isSource free).bind ?_
      rintro (error | stream) left stands
      · dsimp only
        split
        · refine (reopen_meets stands makesRoom).bind ?_
          rintro ⟨outcome, reopened⟩ left ⟨stands, keeps⟩
          refine ⟨⟨stands.abandoned, stands.arrival⟩, fun _ => ?_⟩
          refine (negotiateQos_meets stands queue makesRoom).bind ?_
          rintro ⟨error | done, negotiating⟩ left ⟨stands, keepsOn, holds⟩
          · exact ⟨stands, holds⟩
          · obtain ⟨channel, negotiated⟩ := holds
            refine inductionHypothesis stands negotiated fun awaits => ?_
            exact (keeps.trans keepsOn).get?_eq_none (free awaits)
        · exact ⟨stands, rfl⟩
      · refine (holdStream_meets stands).bind ?_
        rintro client left ⟨stands, holds⟩
        exact ⟨stands, stream, holds⟩

/-- A registration that succeeds leaves the client with a stream of the queue. -/
theorem registerConsumer_meets
    (stands : standing.At client)
    {queue : String}
    (isSource : operation.source? = some queue)
    (free : operation.awaited? = some queue → client.streams.get? queue = none)
    (makesRoom : operation.isClose = false) :
    (client.registerConsumer queue).Meets operation.monitor
      (fun ended left =>
        left.At ended.2 ∧
          match ended.1 with
          | .ok () => ∃ stream, ended.2.streams.get? queue = some stream
          | .error error => error.refusesConsumer = true) standing := by
  refine (negotiateQos_meets stands queue makesRoom).bind ?_
  rintro ⟨error | done, negotiating⟩ left ⟨stands, keeps, holds⟩
  · exact ⟨stands, holds⟩
  · obtain ⟨channel, negotiated⟩ := holds
    refine consumeWithin_meets stands negotiated isSource (fun awaits => ?_) makesRoom _
    exact keeps.get?_eq_none (free awaits)

/-! ## Receiving -/

/-- How the wait for a delivery shows in what a client has to hand out. -/
def ShowsArrival : Option Arrival → Except ClientError Delivery → Prop
  | some (.item (.ok delivery)), outcome =>
      outcome = .ok delivery ∨
        ∃ consumer, outcome = .error (.emptyDelivery consumer delivery)
  | some .timedOut, outcome => ∃ queue, outcome = .error (.noMessage queue)
  | some .ended, outcome => ∃ queue consumer, outcome = .error (.streamClosed queue consumer)
  | some (.item (.error _)), outcome =>
      ∃ queue consumer reason, outcome = .error (.consumption queue consumer reason)
  | none, outcome => ∃ error, outcome = .error error ∧ error.refusesConsumer = true

/-- Where a client stands once its wait is over or was never begun. -/
structure Awaited (ended : Outcome Delivery) (standing : Standing) : Prop where
  isClient : standing.client = ended.2
  abandoned : standing.abandoned = []
  coherent : standing.client.Coherent
  shows : ShowsArrival standing.arrival ended.1
  cancels :
    standing.InVain → ∀ channel, standing.client.channel = some channel → standing.Cancelled channel

theorem not_inVain_of_delivery
    {arrival : Arrival}
    {delivery : Delivery}
    (arrived : standing.arrival = some arrival)
    (delivers : arrival.delivery? = some delivery) :
    ¬ standing.InVain := by
  rintro ⟨other, same, undelivered⟩
  obtain rfl := Option.some.inj (arrived.symm.trans same)
  cases delivers.symm.trans undelivered

theorem not_inVain_of_none (noArrival : standing.arrival = none) : ¬ standing.InVain := by
  rintro ⟨other, same, -⟩
  cases noArrival.symm.trans same

/-- Dropping a consumer ends with its cancellation if there is a channel to cancel it on. -/
theorem dropConsumer_meets
    {queue : String}
    (vain : standing.InVain)
    (isClient :
      standing.client = { client with streams := client.streams.erase queue })
    (letGo : standing.abandoned = (client.streams.get? queue).toList) :
    (client.dropConsumer queue).Meets operation.monitor
      (fun client left =>
        left.client = client ∧ left.abandoned = [] ∧ left.arrival = standing.arrival ∧
          left.client = standing.client ∧
            ∀ channel, left.client.channel = some channel → left.Cancelled channel) standing := by
  refine (forgetStream_meets queue letGo).bind ?_
  rintro forgotten left ⟨rfl, rfl⟩
  dsimp only
  split
  · next channel held =>
      have permittedCall :
          PermitsCall operation { standing with abandoned := [] }
            (.cancel channel client.consumerId false) :=
        ⟨vain, by rw [isClient], rfl⟩
      refine ⟨⟨rfl, by simp [Call.channel?, isClient, held], permittedCall⟩, fun answer => ?_⟩
      have sameClient :
          standing.client.afterCall operation (.cancel channel client.consumerId false) answer =
            { client with streams := client.streams.erase queue } := by
        cases answer <;> exact isClient
      refine ⟨sameClient, rfl, rfl, sameClient.trans isClient.symm, fun other isHeld => ?_⟩
      have sameChannel : channel = other := by
        simpa [Operation.monitor, after, sameClient, held] using isHeld
      subst sameChannel
      exact ⟨answer, by simp [Operation.monitor, after, sameClient]⟩
  · next absent =>
      exact ⟨isClient, rfl, rfl, rfl, fun channel isHeld => by simp [isClient, absent] at isHeld⟩

/-- A wait that yields no delivery ends with the consumer dropped. -/
theorem dropAndFail_meets
    (stands : standing.At client)
    {queue : String}
    (awaits : operation.awaited? = some queue)
    {arrival : Arrival}
    (undelivered : arrival.delivery? = none)
    {error : ClientError}
    (shows : ShowsArrival (some arrival) (.error error)) :
    (client.dropAndFail queue error).Meets operation.monitor Awaited
      (standing.arrived operation arrival) := by
  obtain ⟨rfl, letGo, noArrival, coherent⟩ := stands
  refine (dropConsumer_meets ⟨arrival, ?_, undelivered⟩ ?_ ?_).bind ?_
  · simp [arrived, undelivered, awaits]
  · simp [arrived, undelivered, awaits]
  · simp [arrived, undelivered, awaits]
  · rintro client left ⟨rfl, given, sameArrival, sameClient, cancels⟩
    refine ⟨rfl, given, ?_, ?_, fun _ => cancels⟩
    · rw [sameClient]
      simp only [arrived, undelivered, awaits]
      exact coherent.forget queue
    · rw [sameArrival]
      simpa [arrived, undelivered, awaits] using shows

theorem awaitDelivery_meets
    (stands : standing.At client)
    {queue : String}
    (awaits : operation.awaited? = some queue)
    {stream : Stream}
    (holds : client.streams.get? queue = some stream) :
    (client.awaitDelivery queue stream).Meets operation.monitor Awaited standing := by
  refine ⟨⟨stands.abandoned, stands.arrival, queue, awaits, ?_⟩, fun arrival => ?_⟩
  · rw [stands.isClient]
    exact holds
  · rcases arrival with (error | delivery) | - | -
    · exact dropAndFail_meets stands awaits rfl ⟨_, _, _, rfl⟩
    · have settled : Awaited (.ok delivery, client)
          (standing.arrived operation (.item (.ok delivery))) := by
        obtain ⟨rfl, letGo, -, coherent⟩ := stands
        exact ⟨rfl, letGo, coherent, .inl rfl,
          fun vain => absurd vain (not_inVain_of_delivery rfl rfl)⟩
      change Program.Meets _ _ (if _ then _ else _) _
      split
      · exact
          ⟨settled.isClient, settled.abandoned, settled.coherent, .inr ⟨_, rfl⟩, settled.cancels⟩
      · exact settled
    · exact dropAndFail_meets stands awaits rfl ⟨_, _, rfl⟩
    · exact dropAndFail_meets stands awaits rfl ⟨_, rfl⟩

theorem nextDelivery_meets
    (stands : standing.At client)
    {queue : String}
    (awaits : operation.awaited? = some queue)
    (isSource : operation.source? = some queue)
    (makesRoom : operation.isClose = false) :
    (client.nextDelivery queue).Meets operation.monitor Awaited standing := by
  have ensured :
      (client.ensureConsumer queue).Meets operation.monitor
        (fun ended left =>
          left.At ended.2 ∧
            match ended.1 with
            | .ok () => ∃ stream, ended.2.streams.get? queue = some stream
            | .error error => error.refusesConsumer = true) standing := by
    unfold ensureConsumer
    split
    · next registered =>
        exact ⟨stands, Option.isSome_iff_exists.mp registered⟩
    · next unregistered =>
        refine registerConsumer_meets stands isSource (fun _ => ?_) makesRoom
        simpa [hasConsumer, Dictionary.contains] using unregistered
  refine ensured.bind ?_
  rintro ⟨error | done, client⟩ left ⟨stands, holds⟩
  · refine ⟨stands.isClient, stands.abandoned, ?_, ?_, ?_⟩
    · exact stands.isClient ▸ stands.coherent
    · rw [stands.arrival]
      exact ⟨error, rfl, holds⟩
    · exact fun vain => absurd vain (not_inVain_of_none stands.arrival)
  · obtain ⟨stream, holds⟩ := holds
    dsimp only [Bind.bind, Program.bind]
    rw [holds]
    exact awaitDelivery_meets stands awaits holds

end Client

namespace Operation

open Client Standing

variable {operation : Operation} {standing : Standing} {client : Client}

/-- An operation that waits for no delivery hands none out. -/
theorem explains_of_awaited?_eq_none
    (waitless : operation.awaited? = none)
    (outcome : Except ClientError operation.Value) :
    operation.Explains none outcome := by
  have noDelivery : operation.delivered? outcome = none := by
    cases operation <;> first | rfl | cases waitless
  have noFailure : operation.waitFailure? outcome = none := by
    cases operation <;> first | rfl | cases waitless
  exact ⟨noDelivery, by simp [noFailure], by simp [noFailure]⟩

/-- An operation without a wait may end wherever a client stands, whatever it records. -/
theorem concludes_of_at
    (waitless : operation.awaited? = none)
    (stands : standing.At client)
    (outcome : Except ClientError operation.Value)
    (error : Option ClientError) :
    operation.Concludes (outcome, { client with lastError := error }) standing where
  client := ⟨error, by rw [stands.isClient]⟩
  abandoned := stands.abandoned
  coherent := stands.isClient ▸ stands.coherent
  explains := by
    rw [stands.arrival]
    exact explains_of_awaited?_eq_none waitless outcome
  cancels vain := absurd vain (not_inVain_of_none stands.arrival)

theorem record_meets
    {program : Program (Outcome operation.Value)}
    (waitless : operation.awaited? = none)
    (met : program.Meets operation.monitor (fun ended left => left.At ended.2) standing) :
    (record program).Meets operation.monitor operation.Concludes standing :=
  met.bind fun _ _ stands => concludes_of_at waitless stands _ _

/-- A receive that fails goes with an arrival if its failure does. -/
theorem explains_failure
    {Content : Type}
    (queue : String)
    (decode : List UInt8 → Except CodecError Content)
    {arrival : Option Arrival}
    {error : ClientError}
    (delivered : error.delivery? = arrival.bind Arrival.delivery?)
    (consumerEnds :
      error.endsConsumer = true ↔ ∃ arrived, arrival = some arrived ∧ arrived.delivery? = none)
    (timedOut : (∃ queue, error = .noMessage queue) ↔ arrival = some .timedOut) :
    (receive queue decode).Explains arrival (.error error) :=
  ⟨delivered, by simpa [waitFailure?] using consumerEnds, by simpa [waitFailure?] using timedOut⟩

/-- The outcome of a receive shows how its wait ended. -/
theorem explains_receive
    {Content : Type}
    (queue : String)
    (decode : List UInt8 → Except CodecError Content)
    {arrival : Option Arrival}
    {outcome : Except ClientError Delivery}
    (shows : ShowsArrival arrival outcome) :
    (receive queue decode).Explains arrival (outcome.bind (readDelivery decode)) := by
  rcases arrival with - | (error | delivery) | - | -
  · obtain ⟨error, rfl, refuses⟩ := shows
    obtain ⟨noDelivery, endsNone, notLate⟩ := ClientError.refusesConsumer_spec refuses
    exact explains_failure _ _ noDelivery (by simp [endsNone]) (by simp [notLate])
  · obtain ⟨_, _, _, rfl⟩ := shows
    exact explains_failure _ _ rfl (by simp [ClientError.endsConsumer, Arrival.delivery?]) (by simp)
  · rcases shows with rfl | ⟨consumer, rfl⟩
    · simp only [Except.bind, readDelivery]
      split
      · exact ⟨rfl, by simp [waitFailure?, Arrival.delivery?], by simp [waitFailure?]⟩
      · exact explains_failure _ _ rfl (by simp [ClientError.endsConsumer, Arrival.delivery?])
          (by simp)
    · exact explains_failure _ _ rfl (by simp [ClientError.endsConsumer, Arrival.delivery?])
        (by simp)
  · obtain ⟨_, _, rfl⟩ := shows
    exact explains_failure _ _ rfl (by simp [ClientError.endsConsumer, Arrival.delivery?]) (by simp)
  · obtain ⟨_, rfl⟩ := shows
    exact explains_failure _ _ rfl (by simp [ClientError.endsConsumer, Arrival.delivery?]) (by simp)

theorem receive_meets
    {Content : Type}
    (queue : String)
    (decode : List UInt8 → Except CodecError Content)
    (coherent : client.Coherent) :
    (client.receive queue decode).Meets (receive queue decode).monitor
      (receive queue decode).Concludes (start client) := by
  have read :
      (client.receiveRead queue decode).Meets (receive queue decode).monitor
        (fun ended left => ∃ outcome,
          Awaited (outcome, ended.2) left ∧ ended.1 = outcome.bind (readDelivery decode))
        (start client) := by
    refine (nextDelivery_meets (at_start coherent) rfl rfl rfl).bind ?_
    rintro ⟨error | delivery, client⟩ left awaited
    · exact ⟨_, awaited, rfl⟩
    · exact ⟨_, awaited, rfl⟩
  refine read.bind ?_
  rintro ⟨_, client⟩ left ⟨outcome, awaited, rfl⟩
  refine ⟨⟨_, by rw [awaited.isClient]; rfl⟩, awaited.abandoned, awaited.coherent, ?_,
    awaited.cancels⟩
  exact explains_receive queue decode awaited.shows

/-- Every operation of a coherent client meets its monitor. -/
theorem program_meets (operation : Operation) (coherent : client.Coherent) :
    (operation.program client).Meets operation.monitor operation.Concludes (start client) := by
  have stands := at_start coherent
  cases operation with
  | reset =>
      exact record_meets rfl ((reopen_meets stands rfl).mono fun _ _ reopened => reopened.1)
  | ensureQueue definition => exact record_meets rfl (declare_meets stands definition rfl)
  | inspectQueue queue => exact record_meets rfl (inspect_meets stands queue rfl)
  | deleteQueue queue => exact record_meets rfl (delete_meets stands queue)
  | publish tracing queue message =>
      exact record_meets rfl (sendDeclared_meets stands tracing queue message rfl)
  | receive queue decode => exact receive_meets queue decode coherent
  | registerConsumer queue =>
      refine (registerConsumer_meets stands rfl (fun awaits => by cases awaits) rfl).mono ?_
      rintro ⟨outcome, client⟩ left ⟨stands, -⟩
      exact
        @concludes_of_at (registerConsumer queue) left client rfl stands outcome client.lastError
  | close => exact record_meets rfl (closeBoth_meets stands rfl)
  | setLastError error => exact concludes_of_at rfl stands _ _
  | resetError => exact concludes_of_at rfl stands _ _

end Operation

/--
What holds of a fresh client, is kept by every permitted exchange and carries over from one
operation to the next holds at the end of every run.
-/
theorem Client.Runs.holds
    {start client : Client}
    {performances : List Performance}
    (runs : start.Runs performances client)
    (holds : Operation → List Occurrence → Standing → Prop)
    (coherent :
      ∀ operation trace standing, holds operation trace standing → standing.client.Coherent)
    (atStart : ∀ next, holds next [] (.start start))
    (asked :
      ∀ operation trace standing exchange,
        holds operation trace standing → standing.Permits operation exchange.request →
          holds operation (trace ++ [.asked operation exchange])
            (standing.after operation exchange))
    (completed :
      ∀ operation trace standing ended next,
        holds operation trace standing → operation.Concludes ended standing →
          holds next (trace ++ [.completed operation ended.1]) (.start ended.2))
    (next : Operation) :
    holds next (Performance.trace performances) (.start client) := by
  induction runs generalizing next with
  | begin => exact atStart next
  | @perform performances client earlier performance client' ends inductionHypothesis =>
      have before := inductionHypothesis performance.operation
      have met := performance.operation.program_meets (coherent _ _ _ before)
      let during (past : History) : Standing → Prop :=
        holds performance.operation
          (Performance.trace performances ++ past.map (.asked performance.operation))
      have begun : during [] (.start client) := by
        simpa [during] using before
      have kept (past : History) (standing : Standing) (exchange : Exchange)
          (held : during past standing)
          (permitted : standing.Permits performance.operation exchange.request) :
          during (past ++ [exchange]) (standing.after performance.operation exchange) := by
        simpa [during] using asked _ _ _ exchange held permitted
      have along := met.along ends during [] begun kept
      have settled := completed _ _ _ _ next along.1 along.2
      simpa [Performance.occurrences] using settled

end BrokerClient
