import BrokerClient.Proofs.Network.Alone
import BrokerClient.Proofs.Network.Log
import BrokerClient.Proofs.Network.Numbering

/-!
# Recovery

A client that has come into whatever state can get at the messages of a queue again.  Where it holds
a stream of the queue, a receive hands out what is in there, or drops the stream and leaves the
backlog where it is.  Where it holds none, a receive registers: at the latest behind the first retry
it does so on a channel that was opened just now, and the backlog moves into the new stream.
-/

namespace BrokerClient

namespace Client

/--
Messages of a queue can be had again: the broker can be dialed, the client reconnects after any
failure, and channels are numbered in order, so that the next one is not closed already.
-/
structure Recoverable (queue : String) (client : Client) (broker : Broker) : Prop where
  numbered : broker.Numbered
  opened : ∀ channel, client.channel = some channel → broker.HasOpened channel
  retriesAny : ∀ error, client.options.reconnect.retryOn error = true
  budget : 1 ≤ client.options.reconnect.maxRetries
  dialable : broker.refusesDials = false
  waits : broker.backlog queue ≠ []

/-- A client has a usable channel and no stream of a queue, whose messages wait in the backlog. -/
structure Ready (queue : String) (client : Client) (broker : Broker) : Prop where
  usable : ∃ channel, client.channel = some channel ∧ broker.isOpen channel = true
  free : client.streams.get? queue = none
  waits : broker.backlog queue ≠ []

variable {client : Client} {broker broker' : Broker} {queue : String} {drawnIds : Nat}

/-- What bears on recovery is the same for a client on the same channel. -/
theorem Recoverable.of_same
    (recoverable : client.Recoverable queue broker)
    {client' : Client}
    (channel : client'.channel = client.channel)
    (options : client'.options = client.options)
    (keeps : broker.KeepsNumbers broker')
    (dialable : broker'.refusesDials = broker.refusesDials)
    (backlog : broker'.backlog queue = broker.backlog queue) :
    client'.Recoverable queue broker' where
  numbered := keeps.numbered recoverable.numbered
  opened found isHeld := keeps.hasOpened (recoverable.opened found (channel ▸ isHeld))
  retriesAny := options ▸ recoverable.retriesAny
  budget := options ▸ recoverable.budget
  dialable := dialable.trans recoverable.dialable
  waits := backlog ▸ recoverable.waits

/-! ## Opening another channel -/

theorem releaseAll_attains (streams : List Stream) :
    (releaseAll streams).Attains (fun _ after => ∃ feeds, after = { broker with feeds := feeds })
      broker drawnIds := by
  induction streams generalizing broker with
  | nil => exact ⟨broker.feeds, rfl⟩
  | cons stream rest inductionHypothesis =>
      change (releaseAll rest).Attains _ (broker.release stream) drawnIds
      refine inductionHypothesis.mono ?_
      rintro - after ⟨feeds, rfl⟩
      exact ⟨feeds, rfl⟩

/-- The channel that is held may be closed, and it was opened. -/
theorem closeChannel_attains
    (numbered : broker.Numbered)
    (opened : ∀ channel, client.channel = some channel → broker.HasOpened channel) :
    client.closeChannel.Attains
      (fun _ after => ∃ closed, after = { broker with closedChannels := closed } ∧ after.Numbered)
      broker drawnIds := by
  unfold closeChannel
  split
  · next channel isHeld =>
      have keeps := Broker.keepsNumbers_closeChannel (opened channel isHeld)
      exact ⟨channel.number :: broker.closedChannels, rfl, keeps.numbered numbered⟩
  · exact ⟨broker.closedChannels, rfl, numbered⟩

/-- A connection is usable once it was dialed again, if that was necessary and is possible. -/
theorem redial_attains
    (reachable : broker.isClosed client.connection = false ∨ broker.refusesDials = false) :
    client.redial.Attains
      (fun ended after =>
        ∃ connection dials,
          ended = (.ok (), { client with connection := connection }) ∧
            after = { broker with dials := dials } ∧ after.isClosed connection = false)
      broker drawnIds := by
  unfold redial
  cases closed : broker.isClosed client.connection with
  | false =>
      refine Program.attains_request false broker closed rfl fun drawnIds => ?_
      exact ⟨client.connection, broker.dials, rfl, rfl, closed⟩
  | true =>
      have dialable : broker.refusesDials = false := reachable.resolve_left (by simp [closed])
      have dialed :
          broker.perform (.dial client.url) =
            (.ok ⟨broker.dials + 1, broker.generation⟩,
              { broker with dials := broker.dials + 1 }) := by
        simp [Broker.perform, Broker.dial, dialable]
      refine Program.attains_request true broker closed rfl fun drawnIds => ?_
      refine Program.attains_call dialed fun drawnIds => ?_
      exact ⟨_, _, rfl, rfl, by simp [Broker.isClosed]⟩

/-- A client has got the channel that the broker opens next, and nothing else has come about. -/
structure Renewed (broker : Broker) (ended : Outcome Unit) (after : Broker) : Prop where
  isOk : ended.1 = .ok ()
  channel : ended.2.channel = some ⟨broker.channelsOpened + 1, broker.generation⟩
  streams : ended.2.streams = []
  alive : after.isClosed ended.2.connection = false
  generation : after.generation = broker.generation
  notClosed : broker.channelsOpened + 1 ∉ after.closedChannels
  backlog : ∀ queue, after.backlog queue = broker.backlog queue

/-- A channel that was opened just now is usable. -/
theorem Renewed.isOpen
    {ended : Outcome Unit}
    {after : Broker}
    (renewed : Renewed broker ended after) :
    after.isOpen ⟨broker.channelsOpened + 1, broker.generation⟩ = true := by
  simpa [Broker.isOpen, renewed.generation] using renewed.notClosed

theorem Renewed.ready
    {ended : Outcome Unit}
    {after : Broker}
    (renewed : Renewed broker ended after)
    (waits : broker.backlog queue ≠ []) :
    ended.2.Ready queue after where
  usable := ⟨_, renewed.channel, renewed.isOpen⟩
  free := by
    rw [renewed.streams]
    rfl
  waits := by
    rw [renewed.backlog]
    exact waits

/-- On a usable connection another channel is opened. -/
theorem replaceChannel_attains
    (numbered : broker.Numbered)
    (opened : ∀ channel, client.channel = some channel → broker.HasOpened channel)
    (usable : broker.isClosed client.connection = false) :
    client.replaceChannel.Attains (Renewed broker) broker drawnIds := by
  refine (closeChannel_attains numbered opened).bind ?_
  rintro - closing drawnIds ⟨closed, isClosing, numbered⟩
  refine (releaseAll_attains _).bind ?_
  rintro - left drawnIds ⟨feeds, isLeft⟩
  have generation : client.connection.generation = left.generation := by
    simpa [isLeft, isClosing, Broker.isClosed] using usable
  have performed :
      left.perform (.openChannel client.connection) =
        (.ok ⟨left.channelsOpened + 1, left.generation⟩,
          { left with channelsOpened := left.channelsOpened + 1 }) := by
    simp [Broker.perform, Broker.openChannel, Broker.isClosed, generation]
  refine Program.attains_call performed fun drawnIds => ?_
  constructor
  case isOk => rfl
  case channel => simp [isLeft, isClosing]
  case streams => rfl
  case alive => simpa [Broker.isClosed, withoutChannel] using generation
  case generation => simp [isLeft, isClosing]
  case notClosed =>
    intro member
    rw [isLeft] at member
    have wasOpened := numbered _ member
    rw [isClosing] at wasOpened
    exact Nat.not_succ_le_self _ wasOpened
  case backlog =>
    intro queue
    rw [isLeft, isClosing]
    rfl

/-- A client that can reach the broker gets another channel. -/
theorem reopen_renews
    (numbered : broker.Numbered)
    (opened : ∀ channel, client.channel = some channel → broker.HasOpened channel)
    (reachable : broker.isClosed client.connection = false ∨ broker.refusesDials = false) :
    client.reopen.Attains (Renewed broker) broker drawnIds := by
  refine (redial_attains reachable).bind ?_
  rintro - _ drawnIds ⟨connection, dials, rfl, rfl, usable⟩
  let dialed : Broker := { broker with dials := dials }
  have replaces :=
    @replaceChannel_attains { client with connection := connection } dialed drawnIds numbered opened
      usable
  refine replaces.mono fun ended after renewed => ?_
  exact ⟨renewed.isOk, renewed.channel, renewed.streams, renewed.alive, renewed.generation,
    renewed.notClosed, renewed.backlog⟩

/-- A client that opens another channel is ready then. -/
theorem reopen_attains (recoverable : client.Recoverable queue broker) :
    client.reopen.Attains (fun ended after => ended.2.Ready queue after) broker drawnIds :=
  (reopen_renews recoverable.numbered recoverable.opened (.inr recoverable.dialable)).mono
    fun _ _ renewed => renewed.ready recoverable.waits

/-! ## Registering -/

/-- On a usable channel flow control is negotiated. -/
theorem qos_attains
    {channel : Channel}
    (isHeld : client.channel = some channel)
    (usable : broker.isOpen channel = true) :
    client.qos.Attains (fun answer after => answer = .ok () ∧ after = broker) broker drawnIds := by
  have performed :
      broker.perform (.qos channel client.options.prefetchCount false) = (.ok (), broker) := by
    simp [Broker.perform, Broker.onChannel, usable]
  simp only [qos, isHeld]
  exact Program.attains_only_call performed ⟨rfl, rfl⟩

/-- Without a usable channel it is not, and nothing changes. -/
theorem qos_attains_failure
    (unusable : ∀ channel, client.channel = some channel → broker.isOpen channel = false) :
    client.qos.Attains (fun answer after => (∃ error, answer = .error error) ∧ after = broker)
      broker drawnIds := by
  unfold qos
  split
  · next channel isHeld =>
      have performed :
          broker.perform (.qos channel client.options.prefetchCount false) =
            (.error Broker.channelClosed, broker) :=
        Broker.onChannel_of_not_isOpen (unusable channel isHeld) _
      exact Program.attains_only_call performed ⟨⟨_, rfl⟩, rfl⟩
  · exact ⟨⟨_, rfl⟩, rfl⟩

theorem Ready.negotiateQosWithin_attains (ready : client.Ready queue broker) (retries : Nat) :
    (negotiateQosWithin queue retries client).Attains
      (fun ended after => ended.1 = .ok () ∧ ended.2.Ready queue after) broker drawnIds := by
  obtain ⟨channel, isHeld, usable⟩ := ready.usable
  unfold negotiateQosWithin
  refine (qos_attains isHeld usable).bind ?_
  rintro _ _ drawnIds ⟨rfl, rfl⟩
  exact ⟨rfl, ready⟩

/-- At the latest behind one retry flow control is negotiated. -/
theorem negotiateQos_attains
    (recoverable : client.Recoverable queue broker)
    (free : client.streams.get? queue = none) :
    (client.negotiateQos queue).Attains
      (fun ended after => ended.1 = .ok () ∧ ended.2.Ready queue after) broker drawnIds := by
  by_cases usable : ∃ channel, client.channel = some channel ∧ broker.isOpen channel = true
  · exact Ready.negotiateQosWithin_attains ⟨usable, free, recoverable.waits⟩ _
  · have unusable (channel : Channel) (isHeld : client.channel = some channel) :
        broker.isOpen channel = false := by
      simpa using fun isOpen => usable ⟨channel, isHeld, isOpen⟩
    -- The first try fails and spends one retry, which opens a channel; the second succeeds there.
    obtain ⟨remaining, budget⟩ := Nat.exists_eq_add_of_le' recoverable.budget
    rw [negotiateQos, budget]
    unfold negotiateQosWithin
    refine (qos_attains_failure unusable).bind ?_
    rintro _ _ drawnIds ⟨⟨error, rfl⟩, rfl⟩
    dsimp only
    rw [if_pos (recoverable.retriesAny error)]
    refine Program.attains_request () _ rfl rfl fun drawnIds => ?_
    refine (reopen_attains recoverable).bind ?_
    exact fun reopened after drawnIds ready => ready.negotiateQosWithin_attains remaining

/-- A stream is held for a queue, and something is in there. -/
def Filled (queue : String) (client : Client) (broker : Broker) : Prop :=
  ∃ stream, client.streams.get? queue = some stream ∧ broker.buffer stream ≠ []

/-- A registration moves the backlog into the stream that the client holds then. -/
theorem Ready.consumeWithin_attains (ready : client.Ready queue broker) (retries : Nat) :
    (consumeWithin queue retries client).Attains
      (fun ended after => ended.1 = .ok () ∧ ended.2.Filled queue after) broker drawnIds := by
  obtain ⟨⟨channel, isHeld, usable⟩, free, waits⟩ := ready
  obtain ⟨backlog, found⟩ : ∃ backlog, broker.queues.get? queue = some backlog := by
    refine Option.ne_none_iff_exists'.mp fun absent => waits ?_
    simp [Broker.backlog, absent]
  obtain ⟨stream, after, consumed, registers⟩ :=
    Broker.registers_consume found channel client.consumerId
  have performed :
      broker.perform (.consume channel queue client.consumerId consumeFlags) =
        (.ok stream, after) := by
    simp [Broker.perform, Broker.onChannel, usable, consumed]
  have attains :
      (client.consume queue).Attains (fun answer left => answer = .ok stream ∧ left = after) broker
        drawnIds := by
    simp only [consume, isHeld]
    exact Program.attains_only_call performed ⟨rfl, rfl⟩
  unfold consumeWithin
  refine attains.bind ?_
  rintro _ _ drawnIds ⟨rfl, rfl⟩
  simp only [holdStream, free]
  refine ⟨rfl, stream, by simp, ?_⟩
  rw [registers.buffer_self]
  exact waits

theorem registerConsumer_attains
    (recoverable : client.Recoverable queue broker)
    (free : client.streams.get? queue = none) :
    (client.registerConsumer queue).Attains
      (fun ended after => ended.1 = .ok () ∧ ended.2.Filled queue after) broker drawnIds := by
  refine (negotiateQos_attains recoverable free).bind ?_
  rintro ⟨outcome, negotiated⟩ after drawnIds ⟨isOk, ready⟩
  obtain rfl : outcome = .ok () := isOk
  exact ready.consumeWithin_attains _

/-! ## Receiving -/

/-- A delivery comes out, be it with a failure. -/
def Yields (outcome : Except ClientError Delivery) : Prop :=
  ∃ delivery,
    outcome = .ok delivery ∨ ∃ consumer, outcome = .error (.emptyDelivery consumer delivery)

/-- What is in the stream of a queue is delivered. -/
theorem awaitDelivery_attains
    {stream : Stream}
    (filled : broker.buffer stream ≠ []) :
    (client.awaitDelivery queue stream).Attains (fun ended _ => Yields ended.1) broker
      drawnIds := by
  obtain ⟨delivery, rest, shape⟩ := List.exists_cons_of_ne_nil filled
  obtain ⟨after, polled⟩ := Broker.poll_of_buffer shape
  refine Program.attains_request (.item (.ok delivery)) after ?_ ?_ ?_
  · simp [Network.answer, Network.around, polled]
  · simp [Network.brokerAfter, Network.around, polled]
  · intro drawnIds
    dsimp only
    split
    · exact ⟨delivery, .inr ⟨_, rfl⟩⟩
    · exact ⟨delivery, .inl rfl⟩

/-- The client and the broker are as good as before, and no stream is held for the queue. -/
def Free (queue : String) (client : Client) (broker : Broker) : Prop :=
  client.Recoverable queue broker ∧ client.streams.get? queue = none

/-- A stream is forgotten and given up, with what is in there. -/
theorem forgetStream_attains :
    (client.forgetStream queue).Attains
      (fun forgotten after =>
        forgotten = { client with streams := client.streams.erase queue } ∧
          ∃ feeds, after = { broker with feeds := feeds }) broker drawnIds :=
  (releaseAll_attains _).bind fun _ _ _ left => ⟨rfl, left⟩

/-- Dropping the consumer of a queue leaves the backlog where it is. -/
theorem dropConsumer_attains (recoverable : client.Recoverable queue broker) :
    (client.dropConsumer queue).Attains (fun dropped after => dropped.Free queue after) broker
      drawnIds := by
  have free (feeds : List Feed) (consumers : Dictionary Consumer) (cancels : List String) :
      Free queue { client with streams := client.streams.erase queue }
        { broker with feeds := feeds, consumers := consumers, cancels := cancels } :=
    ⟨recoverable.of_same rfl rfl (.of_same rfl rfl) rfl rfl, by simp⟩
  refine forgetStream_attains.bind ?_
  rintro _ after drawnIds ⟨rfl, feeds, rfl⟩
  dsimp only
  split
  · next channel isHeld =>
      rcases Broker.onChannel_cases channel
        (.ok (), ({ broker with feeds := feeds } : Broker).cancel client.consumerId)
        with performed | performed
      · exact Program.attains_call performed fun _ => free feeds _ _
      · exact Program.attains_call performed fun _ => free feeds _ _
  · exact free feeds broker.consumers broker.cancels

theorem dropAndFail_attains (recoverable : client.Recoverable queue broker) (error : ClientError) :
    (client.dropAndFail queue error).Attains (fun ended after => ended.2.Free queue after) broker
      drawnIds :=
  (dropConsumer_attains recoverable).bind fun _ _ _ free => free

/-- A stream that yields nothing is dropped. -/
theorem awaitDelivery_attains_or_drops
    (recoverable : client.Recoverable queue broker)
    (stream : Stream) :
    (client.awaitDelivery queue stream).Attains
      (fun ended after => Yields ended.1 ∨ ended.2.Free queue after) broker drawnIds := by
  cases polled : broker.poll stream with
  | item delivery after =>
      obtain ⟨rest, shape, -⟩ := Broker.poll_item polled
      have filled : broker.buffer stream ≠ [] := by simp [shape]
      exact (awaitDelivery_attains filled).mono fun _ _ yields => .inl yields
  | ended =>
      refine Program.attains_request .ended broker ?_ ?_ fun drawnIds => ?_
      · simp [Network.answer, Network.around, polled]
      · simp [Network.brokerAfter, Network.around, polled]
      · exact (dropAndFail_attains recoverable _).mono fun _ _ free => .inr free
  | pending =>
      refine Program.attains_request .timedOut broker ?_ ?_ fun drawnIds => ?_
      · simp [Network.answer, Network.around, polled]
      · simp [Network.brokerAfter, Network.around, polled]
      · exact (dropAndFail_attains recoverable _).mono fun _ _ free => .inr free

/-- A client that holds no stream of a queue receives from it. -/
theorem nextDelivery_attains
    (recoverable : client.Recoverable queue broker)
    (free : client.streams.get? queue = none) :
    (client.nextDelivery queue).Attains (fun ended _ => Yields ended.1) broker drawnIds := by
  have unregistered : ¬ client.hasConsumer queue = true := by
    simp [hasConsumer, Dictionary.contains, free]
  rw [nextDelivery, ensureConsumer, if_neg unregistered]
  refine (registerConsumer_attains recoverable free).bind ?_
  rintro ⟨outcome, registered⟩ after drawnIds ⟨isOk, stream, isStream, filled⟩
  obtain rfl : outcome = .ok () := isOk
  simp only [isStream]
  exact awaitDelivery_attains filled

/-- A client receives from a queue, or it has dropped the stream that it held. -/
theorem nextDelivery_attains_or_drops (recoverable : client.Recoverable queue broker) :
    (client.nextDelivery queue).Attains
      (fun ended after => Yields ended.1 ∨ ended.2.Free queue after) broker drawnIds := by
  cases isStream : client.streams.get? queue with
  | none => exact (nextDelivery_attains recoverable isStream).mono fun _ _ yields => .inl yields
  | some stream =>
      have registered : client.hasConsumer queue = true := by
        simp [hasConsumer, Dictionary.contains, isStream]
      have ensured : client.ensureConsumer queue = .done (.ok (), client) := by
        rw [ensureConsumer, if_pos registered]
        rfl
      rw [nextDelivery, ensured]
      dsimp only [Bind.bind, Program.bind]
      simp only [isStream]
      exact awaitDelivery_attains_or_drops recoverable stream

/-- A delivery is handed out by an operation. -/
def HandsOut (operation : Operation) (ended : Outcome operation.Value) (_ : Broker) : Prop :=
  ∃ delivery, operation.delivered? ended.1 = some delivery

section

variable {Content : Type} (decode : List UInt8 → Except CodecError Content)

/-- What comes out is handed out, whether it can be read or not. -/
theorem Yields.handsOut
    {outcome : Except ClientError Delivery}
    (yields : Yields outcome)
    (client : Client)
    (broker : Broker) :
    HandsOut (.receive queue decode) (outcome.bind (readDelivery decode), client) broker := by
  obtain ⟨delivery, rfl | ⟨consumer, rfl⟩⟩ := yields
  · refine ⟨delivery, ?_⟩
    simp only [Except.bind, readDelivery]
    split
    · rfl
    · rfl
  · exact ⟨delivery, rfl⟩

/-- What is attained by waiting for a delivery is attained by receiving, for any way of reading. -/
theorem receive_attains
    {between : Outcome Delivery → Broker → Prop}
    {fits : Outcome (Delivery × Content) → Broker → Prop}
    (attains : (client.nextDelivery queue).Attains between broker drawnIds)
    (reads :
      ∀ outcome client lastError broker, between (outcome, client) broker →
        fits (outcome.bind (readDelivery decode), { client with lastError := lastError }) broker) :
    (client.receive queue decode).Attains fits broker drawnIds := by
  have read :
      (client.receiveRead queue decode).Attains
        (fun ended after => ∃ outcome,
          between (outcome, ended.2) after ∧ ended.1 = outcome.bind (readDelivery decode))
        broker drawnIds := by
    refine attains.bind ?_
    rintro ⟨error | delivery, awaited⟩ after drawnIds isBetween
    · exact ⟨_, isBetween, rfl⟩
    · exact ⟨_, isBetween, rfl⟩
  refine read.bind ?_
  rintro ⟨_, awaited⟩ after drawnIds ⟨outcome, isBetween, rfl⟩
  exact reads outcome awaited _ after isBetween

/-- Where no stream is held, the next receive hands a delivery out. -/
theorem receive_attains_of_free (free : client.Free queue broker) :
    (client.receive queue decode).Attains (HandsOut (.receive queue decode)) broker drawnIds :=
  receive_attains decode (nextDelivery_attains free.1 free.2) fun _ _ _ _ yields =>
    yields.handsOut decode _ _

/-- A receive hands a delivery out or frees the way for the next one. -/
theorem receive_attains_or_frees (recoverable : client.Recoverable queue broker) :
    (client.receive queue decode).Attains
      (fun ended after =>
        HandsOut (.receive queue decode) ended after ∨ ended.2.Free queue after)
      broker drawnIds := by
  refine receive_attains decode (nextDelivery_attains_or_drops recoverable) ?_
  rintro outcome client lastError broker (yields | ⟨recoverable, free⟩)
  · exact .inl (yields.handsOut decode _ _)
  · exact .inr ⟨recoverable.of_same rfl rfl (.of_same rfl rfl) rfl rfl, free⟩

end

end Client

namespace Network

open Client

section

variable {place : Nat} {queue : String} {operation : Operation} {before between after : Network}

/-- Between two networks a party was handed a delivery from a queue. -/
def Receives (place : Nat) (queue : String) (before after : Network) : Prop :=
  ∃ told delivery,
    after.log = before.log ++ told ∧ (place, queue, delivery) ∈ Event.handedOut told

/-- An operation that hands a delivery out tells so at its end. -/
theorem Completes.receives
    (completes : Completes place operation (HandsOut operation) before after)
    (awaits : operation.awaited? = some queue) :
    Receives place queue before after := by
  obtain ⟨ended, told, -, log, delivery, delivered⟩ := completes
  refine ⟨told ++ [.finished place operation ended.1], delivery, by simp [log], ?_⟩
  rw [Event.handedOut_concat]
  simp [Event.handedOut?, awaits, delivered]

theorem Receives.before_more
    (receives : Receives place queue before between)
    (goesOn : ∃ told, after.log = between.log ++ told) :
    Receives place queue before after := by
  obtain ⟨told, delivery, log, isHandedOut⟩ := receives
  obtain ⟨more, logAfter⟩ := goesOn
  refine ⟨told ++ more, delivery, by rw [logAfter, log, List.append_assoc], ?_⟩
  simp only [Event.handedOut, List.filterMap_append] at isHandedOut ⊢
  exact List.mem_append_left _ isHandedOut

theorem Receives.behind_more
    (receives : Receives place queue between after)
    (goesOn : ∃ told, between.log = before.log ++ told) :
    Receives place queue before after := by
  obtain ⟨told, delivery, log, isHandedOut⟩ := receives
  obtain ⟨more, logBetween⟩ := goesOn
  refine ⟨more ++ told, delivery, by rw [log, logBetween, List.append_assoc], ?_⟩
  simp only [Event.handedOut, List.filterMap_append] at isHandedOut ⊢
  exact List.mem_append_right _ isHandedOut

end

/--
In every state that a network can come to, a party that is idle, whose client reconnects after any
failure at least once, is handed a delivery by one of its next two receives from a queue in whose
backlog there is a message, if the broker can be dialed and nobody else does anything meanwhile.
Both receives come to their end, whatever happened to channel, connection and streams before.
-/
theorem delivered_within_two_receives
    (arbitration : Arbitration)
    (moves : List Move)
    {place : Nat}
    {client : Client}
    {queue : String}
    (seated : ((start arbitration).run moves).parties[place]? = some (.idle client))
    (retriesAny : ∀ error, client.options.reconnect.retryOn error = true)
    (budget : 1 ≤ client.options.reconnect.maxRetries)
    (dialable : ((start arbitration).run moves).broker.refusesDials = false)
    (waits : ((start arbitration).run moves).broker.backlog queue ≠ [])
    {Content Content' : Type}
    (decode : List UInt8 → Except CodecError Content)
    (decode' : List UInt8 → Except CodecError Content') :
    ∃ enough, ∀ first second, enough ≤ first → enough ≤ second →
      let before := (start arbitration).run moves
      let between := before.run (performing place (.receive queue decode) first)
      let after := between.run (performing place (.receive queue decode') second)
      (∃ client', between.parties[place]? = some (.idle client')) ∧
        (∃ client', after.parties[place]? = some (.idle client')) ∧
          Receives place queue before after := by
  have numbered := numbered_run arbitration moves
  have recoverable : client.Recoverable queue ((start arbitration).run moves).broker :=
    ⟨numbered.closed, fun channel => numbered.held place _ seated client channel rfl, retriesAny,
      budget, dialable, waits⟩
  obtain ⟨between, enough, completes, isBetween⟩ :=
    performing_completes (.receive queue decode) seated
      (receive_attains_or_frees decode recoverable)
  have second :
      ∃ after enough,
        (∃ client', after.parties[place]? = some (.idle client')) ∧
          Receives place queue ((start arbitration).run moves) after ∧
            ∀ resumes, enough ≤ resumes →
              between.run (performing place (.receive queue decode') resumes) = after := by
    -- Either the first receive has handed a delivery out, or it has freed the way for the second.
    obtain ⟨ended, told, idle, log, handsOut | free⟩ := completes
    · have receives : Receives place queue ((start arbitration).run moves) between :=
        Completes.receives ⟨ended, told, idle, log, handsOut⟩ rfl
      obtain ⟨after, enough, goesOn, isAfter⟩ :=
        performing_completes (.receive queue decode') idle (Program.attains_end _ _ _)
      exact ⟨after, enough, goesOn.idle, receives.before_more goesOn.told, isAfter⟩
    · obtain ⟨after, enough, goesOn, isAfter⟩ :=
        performing_completes (.receive queue decode') idle
          (receive_attains_of_free decode' free)
      have receives : Receives place queue between after := goesOn.receives rfl
      exact ⟨after, enough, goesOn.idle, receives.behind_more ⟨_, by rw [log, List.append_assoc]⟩,
        isAfter⟩
  obtain ⟨after, enoughThen, idle, receives, isAfter⟩ := second
  refine ⟨max enough enoughThen, fun first second isEnough isEnoughThen => ?_⟩
  dsimp only
  rw [isBetween first (by omega), isAfter second (by omega)]
  exact ⟨completes.idle, idle, receives⟩

/-- A client holds a stream of a connection that has broken since, and a message waits. -/
def stranded : List Move :=
  [.join "worker" (.new "memory"),
    .start 0 .reset,
    .disturb (.pushRaw "jobs" [1]),
    .start 0 (.receive "jobs" Except.ok),
    .resume 0,
    .disturb .dropConnections,
    .disturb (.pushRaw "jobs" [2])]

/-- The client of which the connection has broken. -/
def strandedClient : Client where
  lastError := none
  channel := some ⟨1, 0⟩
  connection := ⟨1, 0⟩
  url := "memory"
  consumerId := "worker"
  options := .default
  queues := []
  streams := [("jobs", ⟨0⟩)]

/-- Of two receives behind the break, one hands the message out. -/
theorem delivered_when_stranded :
    ((start .byConsumerTag).run stranded).parties[0]? = some (.idle strandedClient) ∧
      ∃ enough, ∀ first second, enough ≤ first → enough ≤ second →
        Receives 0 "jobs" ((start .byConsumerTag).run stranded)
          ((((start .byConsumerTag).run stranded).run
            (performing 0 (.receive "jobs" Except.ok) first)).run
              (performing 0 (.receive "jobs" Except.ok) second)) := by
  have opened :
      ((start .byConsumerTag).run (stranded.take 3)).parties[0]? =
        some (.idle { strandedClient with streams := [] }) := rfl
  have seated :
      ((start .byConsumerTag).run stranded).parties[0]? = some (.idle strandedClient) := by
    change
      ((((start .byConsumerTag).run (stranded.take 3)).step
        (.start 0 (.receive "jobs" Except.ok))).run (stranded.drop 4)).parties[0]? = _
    rw [step_receive opened rfl, registerConsumer_eq]
    rfl
  have dialable : ((start .byConsumerTag).run stranded).broker.refusesDials = false := by
    decide +kernel
  have waits : ((start .byConsumerTag).run stranded).broker.backlog "jobs" ≠ [] := by
    decide +kernel
  obtain ⟨enough, receives⟩ :=
    delivered_within_two_receives .byConsumerTag stranded seated (fun _ => rfl) (by decide) dialable
      waits Except.ok Except.ok
  exact ⟨seated, enough, fun first second isEnough isEnoughThen =>
    (receives first second isEnough isEnoughThen).2.2⟩

end Network

end BrokerClient
