import BrokerClient.Proofs.Network.Course

/-!
# From a publisher to a receiver

A message that is published to a queue without backlog and without consumers comes to the backlog,
whatever the publisher has known about the queue.  A receiver that registers then finds it in its
new stream and hands it out at once.
-/

namespace BrokerClient

/-- A delivery is what was published to a queue with a body. -/
structure Delivery.Carries (delivery : Delivery) (queue : String) (body : List UInt8) : Prop where
  body : delivery.body = body
  exchange : delivery.exchange = ""
  routingKey : delivery.routingKey = queue
  firstTime : delivery.redelivered = false
  contentType : delivery.contentType = some "application/json"

namespace Broker

variable {broker after : Broker} {queue : String} {channel : Channel}

/-- A message that nobody consumes goes to the backlog of its queue. -/
theorem publish_of_no_consumer
    (publication : Publication)
    (noConsumer : ∀ entry ∈ broker.consumers, entry.2.queue ≠ publication.routingKey) :
    broker.publish publication =
      { broker with
          published := broker.published ++ [(publication.routingKey, publication.properties)]
          accepted := broker.accepted + 1
          queues :=
            broker.queues.insert publication.routingKey
              (broker.backlog publication.routingKey ++
                [message (broker.accepted + 1) publication.routingKey publication.properties
                  publication.body]) } := by
  let told :=
    { broker with
      published := broker.published ++ [(publication.routingKey, publication.properties)]
      accepted := broker.accepted + 1 }
  have notAsked :
      consumerAmong? (told.candidates (broker.accepted + 1)) publication.routingKey = none := by
    refine List.find?_eq_none.mpr fun consumer considered => ?_
    obtain ⟨entry, member, rfl⟩ := List.mem_map.mp (mem_candidates_iff.mp considered)
    simpa using noConsumer entry member
  change told.routeAmong (told.candidates (broker.accepted + 1)) _ _ = _
  simp only [routeAmong, notAsked]
  rfl

/-- A single message was published to a queue, and it waits there. -/
structure Deposits (broker after : Broker) (queue : String) (delivery : Delivery) : Prop where
  backlog : after.queues.get? queue = some [delivery]
  published : after.published = broker.published ++ [(queue, delivery.properties)]
  isOpen : ∀ channel, after.isOpen channel = broker.isOpen channel

theorem deposits_publish
    {publication : Publication}
    (noConsumer : ∀ entry ∈ broker.consumers, entry.2.queue ≠ publication.routingKey)
    (noBacklog : broker.backlog publication.routingKey = []) :
    broker.Deposits (broker.publish publication) publication.routingKey
      (message (broker.accepted + 1) publication.routingKey publication.properties
        publication.body) := by
  rw [publish_of_no_consumer publication noConsumer]
  exact ⟨by simp [noBacklog], rfl, fun _ => rfl⟩

/-- On a usable channel a call does what it does. -/
theorem onChannel_of_isOpen
    {α : Type}
    (usable : broker.isOpen channel = true)
    (perform : Except TransportError α × Broker) :
    broker.onChannel channel perform = perform := by
  simp [onChannel, usable]

/-- A declaration that is not passive succeeds and leaves all messages where they are. -/
theorem declare_of_not_passive
    (queue : String)
    {flags : DeclareFlags}
    (creates : flags.passive = false) :
    broker.declare queue flags =
      (.ok (broker.queueInfo queue),
        { broker with
            declares := broker.declares + 1
            queues := broker.queues.insert queue (broker.backlog queue) }) := by
  simp [declare, creates, queueInfo, backlog, consumerCount]

theorem published_consume (queue tag : String) :
    (broker.consume channel queue tag).2.published = broker.published := by
  unfold consume
  split
  · rfl
  · rfl

end Broker

namespace Client

variable {client : Client} {broker : Broker} {queue : String} {channel : Channel} {drawnIds : Nat}

/-! ## Publishing -/

/-- On a usable channel a queue is known or is declared, and the client goes on as before. -/
theorem declare_course
    (isHeld : client.channel = some channel)
    (usable : broker.isOpen channel = true)
    (queue : String)
    (drawnIds : Nat) :
    ∃ history queues declares stored,
      (client.declare (.new queue)).Course broker drawnIds history
          (.ok (), { client with queues := queues })
          { broker with declares := declares, queues := stored } drawnIds ∧
        (∀ exchange ∈ history, exchange.IsPrompt) ∧
          ({ broker with declares := declares, queues := stored } : Broker).backlog queue =
            broker.backlog queue := by
  unfold declare
  split
  · exact ⟨[], client.queues, broker.declares, broker.queues, .done _ _ _, by simp, rfl⟩
  · have performed :
        broker.perform
            (.declare channel queue (QueueDefinition.new queue).flags
              (QueueDefinition.new queue).arguments) =
          (.ok (broker.queueInfo queue),
            { broker with
                declares := broker.declares + 1
                queues := broker.queues.insert queue (broker.backlog queue) }) := by
      rw [Broker.perform, Broker.onChannel_of_isOpen usable]
      exact Broker.declare_of_not_passive queue rfl
    simp only [isHeld]
    refine ⟨_, client.queues.insert queue (broker.queueInfo queue), _, _,
      (Program.course_call performed drawnIds).bind_done rfl, ?_, ?_⟩
    · simp [Exchange.IsPrompt, Request.waits]
    · simp [Broker.backlog]

/-- A message with a body is sent on a usable channel. -/
theorem send_course
    (isHeld : client.channel = some channel)
    (usable : broker.isOpen channel = true)
    (tracing : Tracing)
    (queue : String)
    (message : Outgoing)
    (body : List UInt8)
    (drawnIds : Nat) :
    ∃ history properties,
      (client.send tracing queue message body).Course broker drawnIds history (.ok (), client)
          (broker.publish (.toQueue queue body properties)) (drawnIds + 1) ∧
        (∀ exchange ∈ history, exchange.IsPrompt) ∧
          properties.contentType = some Codec.contentType := by
  let properties := Properties.outgoing tracing Codec.contentType (MessageId.ofNat drawnIds)
  have performed :
      broker.perform (.publish channel (.toQueue queue body properties)) =
        (.ok (), broker.publish (.toQueue queue body properties)) := by
    rw [Broker.perform, Broker.onChannel_of_isOpen usable]
  have sends :
      (client.send tracing queue message body).Course broker drawnIds
        ([⟨.freshId, MessageId.ofNat drawnIds⟩] ++
          [⟨.transport (.publish channel (.toQueue queue body properties)), .ok ()⟩])
        (.ok (), client) (broker.publish (.toQueue queue body properties)) (drawnIds + 1) := by
    refine (Program.course_freshId broker drawnIds).bind ?_
    simp only [isHeld]
    exact (Program.course_call performed (drawnIds + 1)).bind_done rfl
  refine ⟨_, properties, sends, ?_, rfl⟩
  simp [Exchange.IsPrompt, Request.waits]

/-- A message with a body is sent on a usable channel, to a queue that is known or declared. -/
theorem sendDeclared_course
    (isHeld : client.channel = some channel)
    (usable : broker.isOpen channel = true)
    (tracing : Tracing)
    (queue : String)
    {message : Outgoing}
    {body : List UInt8}
    (encoded : message.body = .ok body)
    (drawnIds : Nat) :
    ∃ history queues declares stored properties,
      let declared := { broker with declares := declares, queues := stored }
      (client.sendDeclared tracing queue message).Course broker drawnIds history
          (.ok (), { client with queues := queues })
          (declared.publish (.toQueue queue body properties)) (drawnIds + 1) ∧
        (∀ exchange ∈ history, exchange.IsPrompt) ∧
          declared.backlog queue = broker.backlog queue ∧
            properties.contentType = some Codec.contentType := by
  obtain ⟨declaring, queues, declares, stored, declared, promptDeclaring, backlog⟩ :=
    declare_course isHeld usable queue drawnIds
  let between := { broker with declares := declares, queues := stored }
  obtain ⟨sending, properties, sent, promptSending, contentType⟩ :=
    @send_course { client with queues := queues } between channel isHeld usable tracing queue
      message body drawnIds
  refine ⟨declaring ++ sending, queues, declares, stored, properties, declared.bind ?_, ?_, backlog,
    contentType⟩
  · simp only [encoded]
    exact sent
  · simpa [or_imp, forall_and] using ⟨promptDeclaring, promptSending⟩

/-- Publishing on a usable channel leaves a message in a queue that was empty and not consumed. -/
theorem publish_course
    (isHeld : client.channel = some channel)
    (usable : broker.isOpen channel = true)
    (noConsumer : ∀ entry ∈ broker.consumers, entry.2.queue ≠ queue)
    (noBacklog : broker.backlog queue = [])
    (tracing : Tracing)
    {message : Outgoing}
    {body : List UInt8}
    (encoded : message.body = .ok body)
    (drawnIds : Nat) :
    ∃ history queues after delivery,
      (client.publish tracing queue message).Course broker drawnIds history
          (.ok (), { client with queues := queues, lastError := none }) after (drawnIds + 1) ∧
        (∀ exchange ∈ history, exchange.IsPrompt) ∧
          broker.Deposits after queue delivery ∧ delivery.Carries queue body := by
  obtain ⟨history, queues, declares, stored, properties, sends, prompt, backlog, contentType⟩ :=
    sendDeclared_course isHeld usable tracing queue encoded drawnIds
  let between := { broker with declares := declares, queues := stored }
  have deposits :=
    @Broker.deposits_publish between (.toQueue queue body properties) noConsumer
      (backlog.trans noBacklog)
  refine
    ⟨history, queues, _, Broker.message (between.accepted + 1) queue properties body,
      sends.bind_done rfl, prompt, ?_, ?_⟩
  · exact ⟨deposits.backlog, deposits.published, deposits.isOpen⟩
  · exact ⟨rfl, rfl, rfl, rfl, contentType⟩

/-! ## Receiving -/

/-- On a usable channel flow control is negotiated at the first try. -/
theorem negotiateQos_course
    (isHeld : client.channel = some channel)
    (usable : broker.isOpen channel = true)
    (queue : String)
    (drawnIds : Nat) :
    (client.negotiateQos queue).Course broker drawnIds
      [⟨.transport (.qos channel client.options.prefetchCount false), .ok ()⟩] (.ok (), client)
      broker drawnIds := by
  have performed :
      broker.perform (.qos channel client.options.prefetchCount false) = (.ok (), broker) := by
    rw [Broker.perform, Broker.onChannel_of_isOpen usable]
  have answered :
      client.qos.Course broker drawnIds
        [⟨.transport (.qos channel client.options.prefetchCount false), .ok ()⟩] (.ok ()) broker
        drawnIds := by
    simp only [qos, isHeld]
    exact Program.course_call performed drawnIds
  unfold negotiateQos negotiateQosWithin
  exact answered.bind_done rfl

/-- A queue that exists is consumed at the first try, and the stream is held from then on. -/
theorem consumeWithin_course
    (isHeld : client.channel = some channel)
    (usable : broker.isOpen channel = true)
    (free : client.streams.get? queue = none)
    {stream : Stream}
    {after : Broker}
    (consumed : broker.consume channel queue client.consumerId = (.ok stream, after))
    (retries drawnIds : Nat) :
    (consumeWithin queue retries client).Course broker drawnIds
      [⟨.transport (.consume channel queue client.consumerId consumeFlags), .ok stream⟩]
      (.ok (), { client with streams := client.streams.insert queue stream }) after drawnIds := by
  have performed :
      broker.perform (.consume channel queue client.consumerId consumeFlags) =
        (.ok stream, after) := by
    rw [Broker.perform, Broker.onChannel_of_isOpen usable, consumed]
  have answered :
      (client.consume queue).Course broker drawnIds
        [⟨.transport (.consume channel queue client.consumerId consumeFlags), .ok stream⟩]
        (.ok stream) after drawnIds := by
    simp only [consume, isHeld]
    exact Program.course_call performed drawnIds
  unfold consumeWithin
  refine answered.bind ?_
  simp only [holdStream, free]
  exact .done _ _ _

/-- A delivery with a body that waits in a stream is received. -/
theorem awaitDelivery_course
    {stream : Stream}
    {delivery : Delivery}
    {after : Broker}
    (polled : broker.poll stream = .item delivery after)
    (filled : delivery.body ≠ [])
    (queue : String)
    (drawnIds : Nat) :
    (client.awaitDelivery queue stream).Course broker drawnIds
      [⟨.next stream client.options.receiveTimeout, .item (.ok delivery)⟩] (.ok delivery, client)
      after drawnIds := by
  have notEmpty : ¬ delivery.body.isEmpty = true := by simpa using filled
  refine (Program.course_next polled _ drawnIds).bind ?_
  dsimp only
  rw [if_neg notEmpty]
  exact .done _ _ _

/-- A client without a stream receives the message that waits alone in a queue. -/
theorem nextDelivery_course
    (isHeld : client.channel = some channel)
    (usable : broker.isOpen channel = true)
    (free : client.streams.get? queue = none)
    {delivery : Delivery}
    (stored : broker.queues.get? queue = some [delivery])
    (filled : delivery.body ≠ [])
    (drawnIds : Nat) :
    ∃ stream client' after,
      (client.nextDelivery queue).Course broker drawnIds
          [⟨.transport (.qos channel client.options.prefetchCount false), .ok ()⟩,
            ⟨.transport (.consume channel queue client.consumerId consumeFlags), .ok stream⟩,
            ⟨.next stream client.options.receiveTimeout, .item (.ok delivery)⟩]
          (.ok delivery, client') after drawnIds ∧
        after.published = broker.published := by
  obtain ⟨stream, between, consumed, registers⟩ :=
    Broker.registers_consume stored channel client.consumerId
  have buffer : between.buffer stream = [delivery] := by
    rw [registers.buffer_self, Broker.backlog, stored]
    rfl
  obtain ⟨after, polled⟩ := Broker.poll_of_buffer buffer
  have published : after.published = broker.published := by
    obtain ⟨rest, -, rfl⟩ := Broker.poll_item polled
    have kept := @Broker.published_consume broker channel queue client.consumerId
    rw [consumed] at kept
    exact kept
  have unregistered : ¬ client.hasConsumer queue = true := by
    simp [hasConsumer, Dictionary.contains, free]
  let registered := { client with streams := client.streams.insert queue stream }
  have registering :
      (client.ensureConsumer queue).Course broker drawnIds
        ([⟨.transport (.qos channel client.options.prefetchCount false), .ok ()⟩] ++
          [⟨.transport (.consume channel queue client.consumerId consumeFlags), .ok stream⟩])
        (.ok (), registered) between drawnIds := by
    rw [ensureConsumer, if_neg unregistered]
    exact (negotiateQos_course isHeld usable queue drawnIds).bind
      (consumeWithin_course isHeld usable free consumed _ drawnIds)
  refine ⟨stream, registered, after, registering.bind ?_, published⟩
  have isStream : registered.streams.get? queue = some stream := Dictionary.get?_insert_same _ _ _
  simp only [isStream]
  exact awaitDelivery_course polled filled queue drawnIds

/-- What is received is read, and it has been waited for in no time. -/
theorem receive_course
    (isHeld : client.channel = some channel)
    (usable : broker.isOpen channel = true)
    (free : client.streams.get? queue = none)
    {delivery : Delivery}
    (stored : broker.queues.get? queue = some [delivery])
    (filled : delivery.body ≠ [])
    {Content : Type}
    {decode : List UInt8 → Except CodecError Content}
    {content : Content}
    (decoded : decode delivery.body = .ok content)
    (drawnIds : Nat) :
    ∃ history client' after,
      (client.receive queue decode).Course broker drawnIds history
          (.ok (delivery, content), client') after drawnIds ∧
        (history.countP fun exchange => exchange.request.waits) = 1 ∧
          (∀ exchange ∈ history,
            exchange.waited = 0 ∧ ∀ stream, exchange.request ≠ .release stream) ∧
            after.published = broker.published := by
  obtain ⟨stream, registered, after, awaited, published⟩ :=
    nextDelivery_course isHeld usable free stored filled drawnIds
  have read : readDelivery decode delivery = .ok (delivery, content) := by
    simp only [readDelivery, decoded]
  let received : Outcome (Delivery × Content) := (.ok (delivery, content), registered)
  have reads : (client.receiveRead queue decode).Course broker drawnIds _ received after drawnIds :=
    awaited.bind_done (by simp only [read]; rfl)
  refine ⟨_, _, after, reads.bind_done rfl, by simp [Request.waits], ?_, published⟩
  simp [Exchange.waited]

end Client

namespace Network

variable {network : Network} {place : Nat} {client : Client} {channel : Channel} {queue : String}

/-- Where all exchanges of a course are answered at once, no time passes. -/
theorem waited_of_course
    {history : History}
    (atOnce : ∀ exchange ∈ history, exchange.waited = 0)
    (place : Nat)
    (operation : Operation) :
    ∀ event ∈ history.map (Event.asked place operation), event.waited = 0 := by
  intro event member
  obtain ⟨exchange, isExchange, rfl⟩ := List.mem_map.mp member
  exact atOnce exchange isExchange

/-- A party publishes alone. -/
theorem run_publishing
    (idle : network.parties[place]? = some (.idle client))
    (isHeld : client.channel = some channel)
    (usable : network.broker.isOpen channel = true)
    (noConsumer : ∀ entry ∈ network.broker.consumers, entry.2.queue ≠ queue)
    (noBacklog : network.broker.backlog queue = [])
    (tracing : Tracing)
    {message : Outgoing}
    {body : List UInt8}
    (encoded : message.body = .ok body) :
    ∃ history queues after delivery,
      network.run (performing place (.publish tracing queue message) 0) =
          network.taking place (.publish tracing queue message) history
            (.ok (), { client with queues := queues, lastError := none }) after
            (network.drawnIds + 1) ∧
        (∀ exchange ∈ history, exchange.waited = 0) ∧
          network.broker.Deposits after queue delivery ∧ delivery.Carries queue body := by
  obtain ⟨history, queues, after, delivery, course, prompt, deposits, carries⟩ :=
    Client.publish_course isHeld usable noConsumer noBacklog tracing encoded network.drawnIds
  have performed :
      network.step (.start place (.publish tracing queue message)) =
        network.taking place (.publish tracing queue message) history
          (.ok (), { client with queues := queues, lastError := none }) after
          (network.drawnIds + 1) :=
    step_start_of_course idle course prompt
  exact ⟨history, queues, after, delivery, performed,
    fun exchange member => Exchange.waited_of_not_waits (prompt exchange member).1, deposits,
    carries⟩

/-- A party alone receives the message that waits in a queue, and waits once. -/
theorem run_receiving
    (idle : network.parties[place]? = some (.idle client))
    (isHeld : client.channel = some channel)
    (usable : network.broker.isOpen channel = true)
    (free : client.streams.get? queue = none)
    {delivery : Delivery}
    (stored : network.broker.queues.get? queue = some [delivery])
    (filled : delivery.body ≠ [])
    {Content : Type}
    {decode : List UInt8 → Except CodecError Content}
    {content : Content}
    (decoded : decode delivery.body = .ok content) :
    ∃ history client' after,
      network.run (performing place (.receive queue decode) 1) =
          network.taking place (.receive queue decode) history
            (.ok (delivery, content), client') after network.drawnIds ∧
        (∀ exchange ∈ history, exchange.waited = 0) ∧
          after.published = network.broker.published := by
  obtain ⟨history, client', after, course, oneWait, prompt, published⟩ :=
    Client.receive_course isHeld usable free stored filled decoded network.drawnIds
  have performed :
      network.run
          (performing place (.receive queue decode)
            (history.countP fun exchange => exchange.request.waits)) =
        network.taking place (.receive queue decode) history (.ok (delivery, content), client')
          after network.drawnIds :=
    run_performing_of_course idle course fun exchange member => (prompt exchange member).2
  rw [oneWait] at performed
  exact ⟨history, client', after, performed, fun exchange member => (prompt exchange member).1,
    published⟩

/--
What one party publishes to a queue without backlog and without consumers another party is handed by
its next receive, or the same party.  No time passes, whatever the clients have known and whether
the queue exists or not; the delivery is what was published, with the properties that the broker has
recorded for it.
-/
theorem published_then_received
    {network : Network}
    {publisher receiver : Nat}
    {sender taker : Client}
    (senderIdle : network.parties[publisher]? = some (.idle sender))
    (takerIdle : network.parties[receiver]? = some (.idle taker))
    {sending taking : Channel}
    (sends : sender.channel = some sending)
    (takes : taker.channel = some taking)
    (sendingOpen : network.broker.isOpen sending = true)
    (takingOpen : network.broker.isOpen taking = true)
    {queue : String}
    (noBacklog : network.broker.backlog queue = [])
    (noConsumer : ∀ entry ∈ network.broker.consumers, entry.2.queue ≠ queue)
    (noStream : taker.streams.get? queue = none)
    {Content : Type}
    (encode : Content → Except CodecError (List UInt8))
    (decode : List UInt8 → Except CodecError Content)
    {content : Content}
    {body : List UInt8}
    (encoded : encode content = .ok body)
    (decoded : decode body = .ok content)
    (filled : body ≠ [])
    (tracing : Tracing)
    (description : String) :
    let publish := Operation.publish tracing queue ⟨encode content, description⟩
    let receive := Operation.receive queue decode
    let between := network.run (performing publisher publish 0)
    let after := between.run (performing receiver receive 1)
    ∃ delivery publishing receiving,
      between.log = network.log ++ publishing ++ [.finished publisher publish (.ok ())] ∧
        after.log =
          between.log ++ receiving ++ [.finished receiver receive (.ok (delivery, content))] ∧
        (∀ event ∈ publishing ++ receiving, event.waited = 0) ∧
        delivery.Carries queue body ∧
        after.broker.published = network.broker.published ++ [(queue, delivery.properties)] := by
  intro publish receive between after
  obtain ⟨publishing, queues, published, delivery, isBetween, atOnce, deposits, carries⟩ :
      ∃ history queues published delivery,
        between =
            network.taking publisher publish history
              (.ok (), { sender with queues := queues, lastError := none }) published
              (network.drawnIds + 1) ∧
          (∀ exchange ∈ history, exchange.waited = 0) ∧
            network.broker.Deposits published queue delivery ∧ delivery.Carries queue body :=
    run_publishing senderIdle sends sendingOpen noConsumer noBacklog tracing encoded
  have brokerBetween : between.broker = published := by
    rw [isBetween]
    rfl
  -- The receiver is still there, with its channel and its streams, also where it has published.
  obtain ⟨taker', takerIdle', takes', noStream'⟩ :
      ∃ taker', between.parties[receiver]? = some (.idle taker') ∧
        taker'.channel = some taking ∧ taker'.streams.get? queue = none := by
    rw [isBetween]
    by_cases same : receiver = publisher
    · subst same
      obtain rfl : sender = taker := by
        simpa using senderIdle.symm.trans takerIdle
      exact ⟨_, List.getElem?_set_self (lt_of_seated senderIdle), takes, noStream⟩
    · exact ⟨taker, (List.getElem?_set_ne (Ne.symm same)).trans takerIdle, takes, noStream⟩
  obtain ⟨receiving, received, left, isAfter, atOnceThen, publishedThen⟩ :
      ∃ history client' left,
        after =
            between.taking receiver receive history (.ok (delivery, content), client') left
              between.drawnIds ∧
          (∀ exchange ∈ history, exchange.waited = 0) ∧
            left.published = between.broker.published := by
    have usable : between.broker.isOpen taking = true := by
      rw [brokerBetween, deposits.isOpen]
      exact takingOpen
    exact run_receiving takerIdle' takes' usable noStream' (brokerBetween ▸ deposits.backlog)
      (carries.body ▸ filled) (carries.body ▸ decoded)
  refine ⟨delivery, publishing.map (.asked publisher publish),
    receiving.map (.asked receiver receive), ?_, ?_, ?_, carries, ?_⟩
  · rw [isBetween]
    rfl
  · rw [isAfter]
    rfl
  · intro event member
    rcases List.mem_append.mp member with isPublishing | isReceiving
    · exact waited_of_course atOnce publisher publish event isPublishing
    · exact waited_of_course atOnceThen receiver receive event isReceiving
  · rw [isAfter, ← deposits.published, ← brokerBetween, ← publishedThen]
    rfl

/-- One client has declared a queue, which another one has deleted since. -/
def redeclared : List Move :=
  [.join "worker" (.new "memory"),
    .join "other" (.new "memory"),
    .start 0 .reset,
    .start 1 .reset,
    .start 0 (.ensureQueue (.new "jobs")),
    .start 1 (.deleteQueue "jobs")]

/-- The client that knows the queue. -/
def knowingClient : Client where
  lastError := none
  channel := some ⟨1, 0⟩
  connection := ⟨1, 0⟩
  url := "memory"
  consumerId := "worker"
  options := .default
  queues := [("jobs", ⟨"jobs", 0, 0⟩)]
  streams := []

/-- The client that has deleted the queue. -/
def deletingClient : Client where
  lastError := none
  channel := some ⟨2, 0⟩
  connection := ⟨2, 0⟩
  url := "memory"
  consumerId := "other"
  options := .default
  queues := []
  streams := []

/-- A value that is published to a queue that is no longer there is received all the same. -/
theorem received_from_deleted_queue :
    ((start .byConsumerTag).run redeclared).parties[0]? = some (.idle knowingClient) ∧
      ((start .byConsumerTag).run redeclared).broker.queues.get? "jobs" = none ∧
      ∃ delivery publishing receiving,
        let before := (start .byConsumerTag).run redeclared
        let encode := fun value => (Message.value value).encode
        let publish := Operation.publish ⟨.silent, none⟩ "jobs" ⟨encode (.bool true), "true"⟩
        let receive := Operation.receive "jobs" (Codec.decode Json.readValue)
        let between := before.run (performing 0 publish 0)
        let after := between.run (performing 1 receive 1)
        between.log = before.log ++ publishing ++ [.finished 0 publish (.ok ())] ∧
          after.log =
            between.log ++ receiving ++ [.finished 1 receive (.ok (delivery, .bool true))] ∧
          (∀ event ∈ publishing ++ receiving, event.waited = 0) ∧
          delivery.Carries "jobs" [0x74, 0x72, 0x75, 0x65] ∧
          after.broker.published = before.broker.published ++ [("jobs", delivery.properties)] := by
  have senderIdle :
      ((start .byConsumerTag).run redeclared).parties[0]? = some (.idle knowingClient) := rfl
  have takerIdle :
      ((start .byConsumerTag).run redeclared).parties[1]? = some (.idle deletingClient) := rfl
  exact ⟨senderIdle, rfl,
    published_then_received senderIdle takerIdle rfl rfl (by decide +kernel) (by decide +kernel)
      (by decide +kernel) (by decide +kernel) rfl (fun value => (Message.value value).encode)
      (Codec.decode Json.readValue) rfl rfl (by decide +kernel) _ _⟩

end Network

end BrokerClient
