import BrokerClient.Broker
import Mathlib.Control.Monad.Basic

/-!
# Where a broker keeps its messages

A message that a broker has accepted is in the backlog of its queue or in the feed of a stream.
Each operation of the broker is described here by what it does to backlogs, feeds and consumers;
everything else about the broker has no part in where messages are.
-/

deriving instance DecidableEq for BrokerClient.Acknowledger, BrokerClient.Delivery

namespace BrokerClient.Broker

variable {broker : Broker} {stream other : Stream}

/-- A last element is not found under any other number. -/
theorem getElem?_concat_ne
    {α : Type}
    {elements : List α}
    {index : Nat}
    (differs : elements.length ≠ index)
    (last : α) :
    (elements ++ [last])[index]? = elements[index]? := by
  rcases Nat.lt_or_gt_of_ne differs with above | below
  · rw [List.getElem?_eq_none (Nat.le_of_lt above), List.getElem?_eq_none]
    simpa using Nat.succ_le_of_lt above
  · exact List.getElem?_append_left below

/-! ## Feeds -/

/-- The deliveries that wait in a stream. -/
def buffer (broker : Broker) (stream : Stream) : List Delivery :=
  ((broker.feed? stream).map Feed.buffer).getD []

/-- Somebody holds a stream. -/
def IsHeld (broker : Broker) (stream : Stream) : Prop :=
  ∃ feed, broker.feed? stream = some feed ∧ feed.held = true

theorem isLive_iff {consumer : Consumer} :
    broker.isLive consumer = true ↔ broker.IsHeld consumer.stream := by
  unfold isLive IsHeld
  cases broker.feed? consumer.stream <;> simp

theorem isFed_iff :
    broker.isFed stream = true ↔ ∃ entry ∈ broker.consumers, entry.2.stream = stream := by
  simp [isFed]

theorem feed?_modifyFeed_self (change : Feed → Feed) :
    (broker.modifyFeed stream change).feed? stream = (broker.feed? stream).map change := by
  simp [feed?, modifyFeed]

theorem number_ne (differs : other ≠ stream) : stream.number ≠ other.number := by
  intro same
  exact differs (congrArg Stream.mk same.symm)

theorem feed?_modifyFeed_other (change : Feed → Feed) (differs : other ≠ stream) :
    (broker.modifyFeed stream change).feed? other = broker.feed? other := by
  simp [feed?, modifyFeed, number_ne differs]

theorem IsHeld.lt (held : broker.IsHeld stream) : stream.number < broker.feeds.length := by
  obtain ⟨feed, isFeed, -⟩ := held
  exact (List.getElem?_eq_some_iff.mp isFeed).1

theorem buffer_modifyFeed_self
    (held : broker.IsHeld stream)
    (change : List Delivery → List Delivery) :
    (broker.modifyFeed stream fun feed => { feed with buffer := change feed.buffer }).buffer
        stream =
      change (broker.buffer stream) := by
  obtain ⟨feed, isFeed, -⟩ := held
  simp [buffer, feed?_modifyFeed_self, isFeed]

theorem buffer_modifyFeed_other (change : Feed → Feed) (differs : other ≠ stream) :
    (broker.modifyFeed stream change).buffer other = broker.buffer other := by
  simp [buffer, feed?_modifyFeed_other change differs]

theorem isHeld_modifyFeed
    (change : List Delivery → List Delivery) :
    (broker.modifyFeed stream fun feed => { feed with buffer := change feed.buffer }).IsHeld other ↔
      broker.IsHeld other := by
  by_cases same : other = stream
  · subst same
    cases isFeed : broker.feed? other <;> simp [IsHeld, feed?_modifyFeed_self, isFeed]
  · simp [IsHeld, feed?_modifyFeed_other _ same]

theorem length_modifyFeed (change : Feed → Feed) :
    (broker.modifyFeed stream change).feeds.length = broker.feeds.length := by
  simp [modifyFeed]

theorem buffer_release_self : (broker.release stream).buffer stream = [] := by
  cases isFeed : broker.feed? stream <;> simp [release, buffer, feed?_modifyFeed_self, isFeed]

theorem buffer_release_other (differs : other ≠ stream) :
    (broker.release stream).buffer other = broker.buffer other :=
  buffer_modifyFeed_other _ differs

theorem isHeld_release :
    (broker.release stream).IsHeld other ↔ other ≠ stream ∧ broker.IsHeld other := by
  by_cases same : other = stream
  · subst same
    cases isFeed : broker.feed? other <;> simp [release, IsHeld, feed?_modifyFeed_self, isFeed]
  · simp [release, IsHeld, feed?_modifyFeed_other _ same, same]

/-! ## What moves no message -/

/-- All messages stay where they are, and nobody registers. -/
structure KeepsMessages (broker broker' : Broker) : Prop where
  accepted : broker'.accepted = broker.accepted
  feeds : broker'.feeds = broker.feeds
  backlog : ∀ queue, broker'.backlog queue = broker.backlog queue
  consumers : broker'.consumers.Sublist broker.consumers

theorem KeepsMessages.refl (broker : Broker) : broker.KeepsMessages broker :=
  ⟨rfl, rfl, fun _ => rfl, .refl _⟩

theorem feed?_of_feeds {broker' : Broker} (same : broker'.feeds = broker.feeds) (stream : Stream) :
    broker'.feed? stream = broker.feed? stream := by
  simp [feed?, same]

theorem buffer_of_feeds {broker' : Broker} (same : broker'.feeds = broker.feeds) (stream : Stream) :
    broker'.buffer stream = broker.buffer stream := by
  simp [buffer, feed?_of_feeds same]

theorem isHeld_of_feeds {broker' : Broker} (same : broker'.feeds = broker.feeds) (stream : Stream) :
    broker'.IsHeld stream ↔ broker.IsHeld stream := by
  simp [IsHeld, feed?_of_feeds same]

/-- Writing the backlog of a queue. -/
theorem backlog_insert (queue name : String) (deliveries : List Delivery) :
    ({ broker with queues := broker.queues.insert queue deliveries } : Broker).backlog name =
      if name = queue then deliveries else broker.backlog name := by
  by_cases same : name = queue
  · simp [backlog, same]
  · simp [backlog, same, Dictionary.get?_insert_other _ _ same]

theorem keepsMessages_dial {outcome : Except TransportError Connection} {broker' : Broker}
    (dialed : broker.dial = (outcome, broker')) : broker.KeepsMessages broker' := by
  unfold dial at dialed
  split at dialed
  · cases dialed
    exact .refl broker
  · cases dialed
    exact ⟨rfl, rfl, fun _ => rfl, .refl _⟩

theorem keepsMessages_openChannel (connection : Connection) :
    broker.KeepsMessages (broker.openChannel connection).2 := by
  unfold openChannel
  split
  · exact .refl broker
  · exact ⟨rfl, rfl, fun _ => rfl, .refl _⟩

theorem keepsMessages_closeChannel (channel : Channel) :
    broker.KeepsMessages (broker.closeChannel channel) :=
  ⟨rfl, rfl, fun _ => rfl, .refl _⟩

theorem keepsMessages_declare (queue : String) (flags : DeclareFlags) :
    broker.KeepsMessages (broker.declare queue flags).2 := by
  unfold declare
  dsimp only
  split
  · exact ⟨rfl, rfl, fun _ => rfl, .refl _⟩
  · refine ⟨rfl, rfl, fun name => ?_, .refl _⟩
    by_cases same : name = queue
    · simp [backlog, same]
    · simp [backlog, Dictionary.get?_insert_other _ _ same]

theorem keepsMessages_cancel (tag : String) : broker.KeepsMessages (broker.cancel tag) :=
  ⟨rfl, rfl, fun _ => rfl, List.filter_sublist⟩

theorem keepsMessages_settle (delivery : Delivery) (settlement : Settlement) :
    broker.KeepsMessages (broker.settle delivery settlement).2 := by
  unfold settle
  dsimp only
  split
  · cases settlement <;> exact ⟨rfl, rfl, fun _ => rfl, .refl _⟩
  · exact .refl broker

/-- What happens on a channel happens if the channel is usable. -/
theorem onChannel_cases
    {α : Type}
    (channel : Channel)
    (perform : Except TransportError α × Broker) :
    broker.onChannel channel perform = perform ∨
      broker.onChannel channel perform = (.error channelClosed, broker) := by
  unfold onChannel
  split
  · exact .inl rfl
  · exact .inr rfl

/-! ## Registrations and deletions -/

/-- A consumer registers, and the backlog of its queue moves into a new stream. -/
structure Registers
    (broker broker' : Broker)
    (queue tag : String)
    (stream : Stream) : Prop where
  isStream : stream = ⟨broker.feeds.length⟩
  accepted : broker'.accepted = broker.accepted
  feeds : broker'.feeds = broker.feeds ++ [⟨broker.backlog queue, true⟩]
  backlog :
    ∀ name, broker'.backlog name = if name = queue then [] else broker.backlog name
  consumers : broker'.consumers = broker.consumers.insert tag ⟨queue, stream⟩

section

variable {broker' : Broker} {queue tag : String}

theorem Registers.feed?_self (registers : broker.Registers broker' queue tag stream) :
    broker'.feed? stream = some ⟨broker.backlog queue, true⟩ := by
  simp [feed?, registers.feeds, registers.isStream]

theorem Registers.feed?_other
    (registers : broker.Registers broker' queue tag stream)
    (differs : other ≠ stream) :
    broker'.feed? other = broker.feed? other := by
  have numbers := number_ne differs
  simp only [registers.isStream] at numbers
  simp only [feed?, registers.feeds]
  exact getElem?_concat_ne numbers _

theorem Registers.buffer_self (registers : broker.Registers broker' queue tag stream) :
    broker'.buffer stream = broker.backlog queue := by
  simp [buffer, registers.feed?_self]

theorem Registers.buffer_other
    (registers : broker.Registers broker' queue tag stream)
    (differs : other ≠ stream) :
    broker'.buffer other = broker.buffer other := by
  simp [buffer, registers.feed?_other differs]

theorem Registers.isHeld_iff (registers : broker.Registers broker' queue tag stream) :
    broker'.IsHeld other ↔ other = stream ∨ broker.IsHeld other := by
  by_cases same : other = stream
  · subst same
    simp [IsHeld, registers.feed?_self]
  · simp [IsHeld, registers.feed?_other same, same]

/-- The stream of a new consumer was not held before. -/
theorem Registers.ne_of_isHeld
    (registers : broker.Registers broker' queue tag stream)
    (held : broker.IsHeld other) :
    other ≠ stream := by
  rintro rfl
  have below := held.lt
  rw [registers.isStream] at below
  exact Nat.lt_irrefl _ below

end

/-- A consumer of a queue that exists registers. -/
theorem registers_consume
    {queue : String}
    {backlog : List Delivery}
    (found : broker.queues.get? queue = some backlog)
    (channel : Channel)
    (tag : String) :
    ∃ stream broker',
      broker.consume channel queue tag = (.ok stream, broker') ∧
        broker.Registers broker' queue tag stream := by
  simp only [consume, found]
  refine ⟨_, _, rfl, rfl, rfl, ?_, fun name => backlog_insert queue name [], rfl⟩
  simp [openStream, Broker.backlog, found]

theorem consume_cases (channel : Channel) (queue tag : String) :
    (∃ error broker', broker.consume channel queue tag = (.error error, broker') ∧
        broker.KeepsMessages broker') ∨
      ∃ stream broker', broker.consume channel queue tag = (.ok stream, broker') ∧
        broker.Registers broker' queue tag stream := by
  cases found : broker.queues.get? queue with
  | none =>
      simp only [consume, found]
      exact .inl ⟨_, _, rfl, keepsMessages_closeChannel channel⟩
  | some backlog => exact .inr (registers_consume found channel tag)

/-- A queue is deleted with its backlog. -/
structure Deletes (broker broker' : Broker) (queue : String) : Prop where
  accepted : broker'.accepted = broker.accepted
  feeds : broker'.feeds = broker.feeds
  backlog :
    ∀ name, broker'.backlog name = if name = queue then [] else broker.backlog name
  consumers : broker'.consumers.Sublist broker.consumers

theorem deletes_delete (queue : String) : broker.Deletes (broker.delete queue).2 queue := by
  refine ⟨rfl, rfl, fun name => ?_, List.filter_sublist⟩
  by_cases same : name = queue
  · simp [delete, backlog, same]
  · simp [delete, backlog, same, Dictionary.get?_erase_other _ same]

/-! ## Messages that are accepted -/

/-- A message under its tag. -/
def message
    (tag : Nat)
    (queue : String)
    (properties : Properties)
    (body : List UInt8) :
    Delivery :=
  { Delivery.new tag queue body with
    properties := properties
    acknowledger := some (.broker tag) }

/-- A consumer of a queue is asked for a message and takes it into its stream. -/
structure Hands (broker broker' : Broker) (delivery : Delivery) (consumer : Consumer) : Prop where
  registered : ∃ entry ∈ broker.consumers, entry.2 = consumer
  queue : consumer.queue = delivery.routingKey
  live : broker.IsHeld consumer.stream
  feeds :
    broker'.feeds =
      (broker.modifyFeed consumer.stream fun feed =>
        { feed with buffer := feed.buffer ++ [delivery] }).feeds
  backlog : ∀ queue, broker'.backlog queue = broker.backlog queue

/-- A message goes to the backlog: no consumer is asked for it, or one that is dead. -/
structure Stores (broker broker' : Broker) (delivery : Delivery) : Prop where
  unwanted :
    (∀ entry ∈ broker.consumers, entry.2.queue ≠ delivery.routingKey) ∨
      ∃ entry ∈ broker.consumers,
        entry.2.queue = delivery.routingKey ∧ ¬ broker.IsHeld entry.2.stream
  feeds : broker'.feeds = broker.feeds
  backlog :
    ∀ queue,
      broker'.backlog queue =
        if queue = delivery.routingKey then broker.backlog queue ++ [delivery]
        else broker.backlog queue

/-- A broker takes a message in. -/
structure Accepts (broker broker' : Broker) (delivery : Delivery) : Prop where
  tag : delivery.tag = broker.accepted + 1
  accepted : broker'.accepted = broker.accepted + 1
  consumers : broker'.consumers = broker.consumers
  goes : (∃ consumer, broker.Hands broker' delivery consumer) ∨ broker.Stores broker' delivery

theorem stores_enqueue
    {queue : String}
    {delivery : Delivery}
    (isQueue : delivery.routingKey = queue)
    (unwanted :
      (∀ entry ∈ broker.consumers, entry.2.queue ≠ queue) ∨
        ∃ entry ∈ broker.consumers, entry.2.queue = queue ∧ ¬ broker.IsHeld entry.2.stream) :
    broker.Stores (broker.enqueue queue delivery) delivery := by
  subst isQueue
  refine ⟨unwanted, rfl, fun name => ?_⟩
  rw [enqueue, backlog_insert]
  split
  · next same => rw [same]
  · rfl

/-- The consumer that is asked for the next message to a queue. -/
def asked? (broker : Broker) (queue : String) : Option Consumer :=
  consumerAmong? (broker.candidates (broker.accepted + 1)) queue

/-- The consumer that is found for a queue takes from it. -/
theorem queue_of_consumerAmong?
    {consumers : List Consumer}
    {queue : String}
    {consumer : Consumer}
    (found : consumerAmong? consumers queue = some consumer) :
    consumer.queue = queue := by
  simpa using List.find?_some found

/-- Only a registered consumer is asked. -/
theorem registered_of_consumerAmong?
    {tag : Nat}
    {queue : String}
    {consumer : Consumer}
    (found : consumerAmong? (broker.candidates tag) queue = some consumer) :
    ∃ entry ∈ broker.consumers, entry.2 = consumer :=
  List.mem_map.mp (mem_candidates_iff.mp (List.mem_of_find?_eq_some found))

/-- No consumer is asked exactly if none is registered on the queue. -/
theorem consumerAmong?_eq_none_iff {tag : Nat} {queue : String} :
    consumerAmong? (broker.candidates tag) queue = none ↔
      ∀ entry ∈ broker.consumers, entry.2.queue ≠ queue := by
  simp only [consumerAmong?, List.find?_eq_none, mem_candidates_iff, List.forall_mem_map,
    decide_eq_true_eq, ne_eq]

section

variable {queue : String} {delivery : Delivery} {consumer : Consumer}

/-- The consumer that is asked takes the delivery if its stream is held. -/
theorem hands_route
    (isQueue : delivery.routingKey = queue)
    (asked : consumerAmong? (broker.candidates delivery.tag) queue = some consumer)
    (live : broker.IsHeld consumer.stream) :
    broker.Hands (broker.route queue delivery) delivery consumer := by
  have isQueueOf : consumer.queue = delivery.routingKey :=
    (queue_of_consumerAmong? asked).trans isQueue.symm
  have routed :
      broker.route queue delivery =
        broker.modifyFeed consumer.stream fun feed =>
          { feed with buffer := feed.buffer ++ [delivery] } := by
    simp [route, routeAmong, asked, isLive_iff.mpr live]
  rw [routed]
  exact ⟨registered_of_consumerAmong? asked, isQueueOf, live, rfl, fun _ => rfl⟩

/-- The delivery goes to the backlog if no consumer is asked whose stream is held. -/
theorem stores_route
    (isQueue : delivery.routingKey = queue)
    (noneLive :
      ∀ consumer, consumerAmong? (broker.candidates delivery.tag) queue = some consumer →
        ¬ broker.IsHeld consumer.stream) :
    broker.Stores (broker.route queue delivery) delivery := by
  cases asked : consumerAmong? (broker.candidates delivery.tag) queue with
  | none =>
      have routed : broker.route queue delivery = broker.enqueue queue delivery := by
        simp [route, routeAmong, asked]
      rw [routed]
      exact stores_enqueue isQueue (.inl (consumerAmong?_eq_none_iff.mp asked))
  | some consumer =>
      have dead := noneLive consumer asked
      have routed : broker.route queue delivery = broker.enqueue queue delivery := by
        simp [route, routeAmong, asked, isLive_iff, dead]
      obtain ⟨entry, member, rfl⟩ := registered_of_consumerAmong? asked
      rw [routed]
      exact stores_enqueue isQueue (.inr ⟨entry, member, queue_of_consumerAmong? asked, dead⟩)

end

/-- Routing changes nothing but the backlogs and the feeds. -/
theorem route_eq (broker : Broker) (queue : String) (delivery : Delivery) :
    ∃ queues feeds,
      broker.route queue delivery = { broker with queues := queues, feeds := feeds } := by
  unfold route routeAmong
  split
  · exact ⟨_, _, rfl⟩
  · split
    · exact ⟨_, _, rfl⟩
    · exact ⟨_, _, rfl⟩

/-- Apart from the backlogs and the feeds, only the count of messages grows with a message. -/
theorem accept_eq
    (broker : Broker)
    (queue : String)
    (properties : Properties)
    (body : List UInt8) :
    ∃ queues feeds,
      broker.accept queue properties body =
        { broker with accepted := broker.accepted + 1, queues := queues, feeds := feeds } :=
  route_eq { broker with accepted := broker.accepted + 1 } queue _

theorem publish_eq (broker : Broker) (publication : Publication) :
    ∃ queues feeds,
      broker.publish publication =
        { broker with
          published := broker.published ++ [(publication.routingKey, publication.properties)]
          accepted := broker.accepted + 1
          queues := queues
          feeds := feeds } :=
  accept_eq
    { broker with
      published := broker.published ++ [(publication.routingKey, publication.properties)] }
    publication.routingKey publication.properties publication.body

section

variable {broker' : Broker} {delivery : Delivery} {consumer : Consumer}

theorem Hands.buffer_self (hands : broker.Hands broker' delivery consumer) :
    broker'.buffer consumer.stream = broker.buffer consumer.stream ++ [delivery] := by
  rw [buffer_of_feeds hands.feeds]
  exact buffer_modifyFeed_self hands.live (· ++ [delivery])

theorem Hands.buffer_other
    (hands : broker.Hands broker' delivery consumer)
    (differs : other ≠ consumer.stream) :
    broker'.buffer other = broker.buffer other := by
  rw [buffer_of_feeds hands.feeds]
  exact buffer_modifyFeed_other _ differs

theorem Hands.isHeld_iff (hands : broker.Hands broker' delivery consumer) :
    broker'.IsHeld other ↔ broker.IsHeld other := by
  rw [isHeld_of_feeds hands.feeds]
  exact isHeld_modifyFeed (· ++ [delivery])

end

/-- The consumer that is asked takes the next message if its stream is held. -/
theorem hands_accept
    {queue : String}
    {consumer : Consumer}
    (asked : broker.asked? queue = some consumer)
    (live : broker.IsHeld consumer.stream)
    (properties : Properties)
    (body : List UInt8) :
    broker.Hands (broker.accept queue properties body)
      (message (broker.accepted + 1) queue properties body) consumer := by
  let counted := { broker with accepted := broker.accepted + 1 }
  let delivery := message (broker.accepted + 1) queue properties body
  have hands : counted.Hands (counted.route queue delivery) delivery consumer :=
    hands_route rfl asked live
  exact ⟨hands.registered, hands.queue, hands.live, hands.feeds, hands.backlog⟩

/-- The next message goes to the backlog if no consumer is asked whose stream is held. -/
theorem stores_accept
    {queue : String}
    (noneLive :
      ∀ consumer, broker.asked? queue = some consumer → ¬ broker.IsHeld consumer.stream)
    (properties : Properties)
    (body : List UInt8) :
    broker.Stores (broker.accept queue properties body)
      (message (broker.accepted + 1) queue properties body) := by
  let counted := { broker with accepted := broker.accepted + 1 }
  let delivery := message (broker.accepted + 1) queue properties body
  have stores : counted.Stores (counted.route queue delivery) delivery :=
    stores_route rfl noneLive
  exact ⟨stores.unwanted, stores.feeds, stores.backlog⟩

theorem accepts_accept (queue : String) (properties : Properties) (body : List UInt8) :
    broker.Accepts (broker.accept queue properties body)
      (message (broker.accepted + 1) queue properties body) := by
  obtain ⟨queues, feeds, accepted⟩ := broker.accept_eq queue properties body
  refine ⟨rfl, by rw [accepted], by rw [accepted], ?_⟩
  by_cases live : ∃ consumer, broker.asked? queue = some consumer ∧ broker.IsHeld consumer.stream
  · obtain ⟨consumer, asked, held⟩ := live
    exact .inl ⟨consumer, hands_accept asked held properties body⟩
  · exact .inr (stores_accept (fun consumer asked held => live ⟨consumer, asked, held⟩) _ _)

theorem accepts_publish (publication : Publication) :
    broker.Accepts (broker.publish publication)
      (message (broker.accepted + 1) publication.routingKey publication.properties
        publication.body) := by
  let told :=
    { broker with
      published := broker.published ++ [(publication.routingKey, publication.properties)] }
  have accepts :=
    @accepts_accept told publication.routingKey publication.properties publication.body
  refine ⟨rfl, accepts.accepted, accepts.consumers, ?_⟩
  rcases accepts.goes with ⟨consumer, hands⟩ | stores
  · exact .inl ⟨consumer, hands.registered, hands.queue, hands.live, hands.feeds, hands.backlog⟩
  · exact .inr ⟨stores.unwanted, stores.feeds, stores.backlog⟩

theorem keepsMessages_dropConsumers : broker.KeepsMessages broker.dropConsumers :=
  ⟨rfl, rfl, fun _ => rfl, List.nil_sublist _⟩

theorem keepsMessages_dropConnections : broker.KeepsMessages broker.dropConnections :=
  ⟨rfl, rfl, fun _ => rfl, List.nil_sublist _⟩

theorem keepsMessages_refuseDials (refuses : Bool) :
    broker.KeepsMessages (broker.refuseDials refuses) :=
  ⟨rfl, rfl, fun _ => rfl, .refl _⟩

/-! ## Streams that are looked at -/

theorem poll_of_buffer
    {delivery : Delivery}
    {rest : List Delivery}
    (shape : broker.buffer stream = delivery :: rest) :
    ∃ broker', broker.poll stream = .item delivery broker' := by
  cases isFeed : broker.feed? stream with
  | none => simp [buffer, isFeed] at shape
  | some feed =>
      have isBuffer : feed.buffer = delivery :: rest := by simpa [buffer, isFeed] using shape
      simp only [poll, isFeed, isBuffer]
      exact ⟨_, rfl⟩

theorem poll_item {delivery : Delivery} {broker' : Broker}
    (polled : broker.poll stream = .item delivery broker') :
    ∃ rest,
      broker.buffer stream = delivery :: rest ∧
        broker' = broker.modifyFeed stream fun feed => { feed with buffer := rest } := by
  unfold poll at polled
  split at polled
  · cases polled
  · next feed isFeed =>
      split at polled
      · next delivery rest shape =>
          cases polled
          exact ⟨rest, by simp [buffer, isFeed, shape], rfl⟩
      · split at polled <;> cases polled

theorem poll_ended (polled : broker.poll stream = .ended) : broker.buffer stream = [] := by
  unfold poll at polled
  split at polled
  · next noFeed => simp [buffer, noFeed]
  · next feed isFeed =>
      split at polled
      · cases polled
      · next shape => simp [buffer, isFeed, shape]

theorem poll_pending (polled : broker.poll stream = .pending) :
    broker.buffer stream = [] ∧ broker.isFed stream = true := by
  unfold poll at polled
  split at polled
  · cases polled
  · next feed isFeed =>
      split at polled
      · cases polled
      · next shape =>
          split at polled
          · next fed => exact ⟨by simp [buffer, isFeed, shape], fed⟩
          · cases polled

end BrokerClient.Broker
