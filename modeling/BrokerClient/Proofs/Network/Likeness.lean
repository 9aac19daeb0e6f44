import BrokerClient.Proofs.Client.Handles
import BrokerClient.Proofs.Network.Alone
import BrokerClient.Proofs.Network.Numbering

/-!
# Brokers that look alike to a client

For a client that keeps to a scope two brokers are alike if its queues hold the same messages but
for tags and identifiers, if its consumer is registered alike and its streams and channels are as
usable here as there.  Requests that are alike are answered alike, and leave the brokers alike.
-/

namespace BrokerClient

/-- Two feeds that differ in tags and identifiers only. -/
structure Feed.Alike (feed feed' : Feed) : Prop where
  held : feed.held = feed'.held
  buffer : feed.buffer.map Delivery.anonymous = feed'.buffer.map Delivery.anonymous

/-- Two consumers of one queue of a scope that feed paired streams. -/
structure Consumer.Alike
    (scope : Scope)
    (streams : Stream → Stream → Prop)
    (consumer consumer' : Consumer) : Prop where
  queue : consumer.queue = consumer'.queue
  named : consumer.queue ∈ scope.names
  paired : streams consumer.stream consumer'.stream

/-- All consumers but one have nothing to do with the queues of a scope and with its streams. -/
structure ConsumersApart
    (scope : Scope)
    (own : Stream → Prop)
    (consumers : Dictionary Consumer)
    (feeds : List Feed) : Prop where
  rising : Dictionary.Rising consumers
  opened : ∀ entry ∈ consumers, entry.2.stream.number < feeds.length
  others :
    ∀ entry ∈ consumers,
      entry.1 ≠ scope.tag → entry.2.queue ∉ scope.names ∧ ¬ own entry.2.stream

namespace Broker

/-- The messages for a client are at one broker where they are at another one. -/
structure SameMessages
    (scope : Scope)
    (streams : Stream → Stream → Prop)
    (broker broker' : Broker) : Prop where
  queues :
    ∀ queue ∈ scope.names,
      (broker.queues.get? queue).map (List.map Delivery.anonymous) =
        (broker'.queues.get? queue).map (List.map Delivery.anonymous)
  consumer :
    Option.Rel (Consumer.Alike scope streams)
      (broker.consumers.get? scope.tag) (broker'.consumers.get? scope.tag)
  feeds :
    ∀ stream stream', streams stream stream' →
      ∃ feed feed',
        broker.feed? stream = some feed ∧ broker'.feed? stream' = some feed' ∧ feed.Alike feed'
  injective :
    ∀ stream stream' other other',
      streams stream stream' → streams other other' → (other = stream ↔ other' = stream')
  apart :
    ConsumersApart scope (fun stream => ∃ stream', streams stream stream')
      broker.consumers broker.feeds
  apart' :
    ConsumersApart scope (fun stream' => ∃ stream, streams stream stream')
      broker'.consumers broker'.feeds

/-- The channels of a client are as usable at one broker as at another one. -/
structure SameChannels
    (scope : Scope)
    (channels : Channel → Channel → Prop)
    (broker broker' : Broker) : Prop where
  here : broker.generation = scope.generation
  there : broker'.generation = scope.generation
  usable :
    ∀ channel channel', channels channel channel' →
      broker.isOpen channel = broker'.isOpen channel'
  opened :
    ∀ channel channel', channels channel channel' →
      broker.HasOpened channel ∧ broker'.HasOpened channel'
  numbers :
    ∀ channel channel' other other',
      channels channel channel' → channels other other' →
        (other.number = channel.number ↔ other'.number = channel'.number)
  numbered : broker.Numbered
  numbered' : broker'.Numbered

/-- Two brokers look alike to a client. -/
structure Alike (scope : Scope) (pairing : Pairing) (broker broker' : Broker) : Prop where
  messages : broker.SameMessages scope pairing.streams broker'
  channels : broker.SameChannels scope pairing.channels broker'

end Broker

section

variable {scope : Scope} {own : Stream → Prop} {broker : Broker} {queue : String}

/-! ## The consumer of a scope -/

/-- The only entries that pass a test are those under a key. -/
theorem Dictionary.filter_of_only
    {Value : Type}
    {entries : Dictionary Value}
    (rising : Rising entries)
    {key : String}
    {test : Value → Bool}
    (only : ∀ entry ∈ entries, test entry.2 = true → entry.1 = key) :
    (entries.map Prod.snd).filter test = ((entries.get? key).filter test).toList := by
  induction entries with
  | nil => rfl
  | cons entry rest inductionHypothesis =>
      obtain ⟨name, value⟩ := entry
      have restOnly : ∀ entry ∈ rest, test entry.2 = true → entry.1 = key :=
        fun entry member => only entry (List.mem_cons_of_mem _ member)
      have goesOn := inductionHypothesis (List.pairwise_cons.mp rising).2 restOnly
      by_cases same : name = key
      · subst same
        have noMore : get? rest name = none := get?_tail_eq_none rising
        rw [noMore] at goesOn
        by_cases passes : test value = true
        · simp [get?, Option.filter, passes, goesOn]
        · simp [get?, Option.filter, passes, goesOn]
      · have fails : test value = false := by
          by_contra passes
          exact same (only (name, value) List.mem_cons_self (by simpa using passes))
        simp [get?, same, fails, goesOn]

/-- What a dictionary holds under a key after some of its values were taken out. -/
theorem Dictionary.get?_filter
    {Value : Type}
    {entries : Dictionary Value}
    (rising : Rising entries)
    (test : Value → Bool)
    (key : String) :
    get? (entries.filter fun entry => test entry.2) key = (get? entries key).filter test := by
  induction entries with
  | nil => rfl
  | cons entry rest inductionHypothesis =>
      obtain ⟨name, value⟩ := entry
      have goesOn := inductionHypothesis (List.pairwise_cons.mp rising).2
      by_cases same : name = key
      · subst same
        have noMore : get? rest name = none := get?_tail_eq_none rising
        rw [noMore] at goesOn
        by_cases passes : test value = true
        · simp [get?, Option.filter, passes]
        · simpa [get?, Option.filter, passes] using goesOn
      · by_cases passes : test value = true
        · simpa [get?, passes, same] using goesOn
        · simpa [get?, passes, same] using goesOn

namespace ConsumersApart

/-- Consumers may go. -/
theorem sublist
    {consumers fewer : Dictionary Consumer}
    {feeds : List Feed}
    (apart : ConsumersApart scope own consumers feeds)
    (sublist : fewer.Sublist consumers) :
    ConsumersApart scope own fewer feeds where
  rising := apart.rising.sublist (sublist.map Prod.fst)
  opened entry member := apart.opened entry (sublist.subset member)
  others entry member := apart.others entry (sublist.subset member)

/-- A consumer may register under a new stream, if it is the one of the scope or keeps out of it. -/
theorem register
    {own' : Stream → Prop}
    {consumers : Dictionary Consumer}
    {feeds : List Feed}
    (apart : ConsumersApart scope own consumers feeds)
    (grows : ∀ stream, own' stream → own stream ∨ stream = ⟨feeds.length⟩)
    {tag : String}
    (keepsOut : tag ≠ scope.tag → queue ∉ scope.names ∧ ¬ own' ⟨feeds.length⟩)
    (feed : Feed) :
    ConsumersApart scope own' (consumers.insert tag ⟨queue, ⟨feeds.length⟩⟩) (feeds ++ [feed]) where
  rising := Dictionary.rising_insert apart.rising _ _
  opened entry member := by
    rcases Dictionary.mem_of_mem_insert member with rfl | wasThere
    · simp
    · simpa using Nat.lt_succ_of_lt (apart.opened entry wasThere)
  others entry member differs := by
    rcases Dictionary.mem_of_mem_insert member with rfl | wasThere
    · exact keepsOut differs
    · obtain ⟨otherQueue, notOwn⟩ := apart.others entry wasThere differs
      refine ⟨otherQueue, fun isOwn => ?_⟩
      rcases grows _ isOwn with wasOwn | isNew
      · exact notOwn wasOwn
      · have below := apart.opened entry wasThere
        rw [isNew] at below
        exact Nat.lt_irrefl _ below

theorem key_eq
    (apart : ConsumersApart scope own broker.consumers broker.feeds)
    (named : queue ∈ scope.names)
    {entry : String × Consumer}
    (member : entry ∈ broker.consumers)
    (isQueue : entry.2.queue = queue) :
    entry.1 = scope.tag := by
  by_contra differs
  exact (apart.others entry member differs).1 (isQueue ▸ named)

/-- The consumer of a scope is counted for its queue, and no other one. -/
theorem consumerCount
    (apart : ConsumersApart scope own broker.consumers broker.feeds)
    (named : queue ∈ scope.names) :
    broker.consumerCount queue =
      ((broker.consumers.get? scope.tag).filter fun consumer =>
        consumer.queue = queue).toList.length := by
  unfold Broker.consumerCount
  rw [Dictionary.filter_of_only apart.rising fun entry member isQueue =>
    apart.key_eq named member (by simpa using isQueue)]

/-- The consumer of a scope is asked for the messages of its queue, whatever the arbitration. -/
theorem consumerAmong?
    (apart : ConsumersApart scope own broker.consumers broker.feeds)
    (named : queue ∈ scope.names)
    (tag : Nat) :
    Broker.consumerAmong? (broker.candidates tag) queue =
      (broker.consumers.get? scope.tag).filter fun consumer => consumer.queue = queue := by
  cases asked : Broker.consumerAmong? (broker.candidates tag) queue with
  | some consumer =>
      have isQueue : consumer.queue = queue := by simpa using List.find?_some asked
      obtain ⟨entry, member, rfl⟩ :=
        List.mem_map.mp (Broker.mem_candidates_iff.mp (List.mem_of_find?_eq_some asked))
      have found := Dictionary.get?_of_mem apart.rising member
      rw [apart.key_eq named member isQueue] at found
      simp [found, Option.filter, isQueue]
  | none =>
      cases found : broker.consumers.get? scope.tag with
      | none => rfl
      | some consumer =>
          have considered : consumer ∈ broker.candidates tag :=
            Broker.mem_candidates_iff.mpr (List.mem_map_of_mem (Dictionary.mem_of_get? found))
          have notAsked := List.find?_eq_none.mp asked consumer considered
          have otherQueue : consumer.queue ≠ queue := by simpa using notAsked
          simp [Option.filter, otherQueue]

theorem isFed_iff
    (apart : ConsumersApart scope own broker.consumers broker.feeds)
    {stream : Stream}
    (isOwn : own stream) :
    broker.isFed stream = true ↔
      ∃ consumer, broker.consumers.get? scope.tag = some consumer ∧ consumer.stream = stream := by
  rw [Broker.isFed_iff]
  constructor
  · rintro ⟨⟨key, consumer⟩, member, isStream⟩
    have isTag : key = scope.tag := by
      by_contra differs
      exact (apart.others _ member differs).2 (isStream ▸ isOwn)
    subst isTag
    exact ⟨consumer, Dictionary.get?_of_mem apart.rising member, isStream⟩
  · rintro ⟨consumer, found, isStream⟩
    exact ⟨_, Dictionary.mem_of_get? found, isStream⟩

end ConsumersApart

end

/-! ## What happens to messages -/

namespace Broker.SameMessages

variable {scope : Scope} {streams : Stream → Stream → Prop} {broker broker' : Broker}
variable {queue : String}

theorem queueExists
    (same : broker.SameMessages scope streams broker')
    (named : queue ∈ scope.names) :
    broker.queueExists queue = broker'.queueExists queue := by
  have queues := congrArg Option.isSome (same.queues queue named)
  simpa [Broker.queueExists, Dictionary.contains] using queues

theorem backlog
    (same : broker.SameMessages scope streams broker')
    (named : queue ∈ scope.names) :
    (broker.backlog queue).map Delivery.anonymous =
      (broker'.backlog queue).map Delivery.anonymous := by
  have queues := same.queues queue named
  unfold Broker.backlog
  cases found : broker.queues.get? queue <;> cases found' : broker'.queues.get? queue <;>
    simp_all

theorem consumerAt
    (same : broker.SameMessages scope streams broker')
    (queue : String) :
    Option.Rel (Consumer.Alike scope streams)
      ((broker.consumers.get? scope.tag).filter fun consumer => consumer.queue = queue)
      ((broker'.consumers.get? scope.tag).filter fun consumer => consumer.queue = queue) := by
  have consumer := same.consumer
  generalize broker.consumers.get? scope.tag = found at consumer ⊢
  generalize broker'.consumers.get? scope.tag = found' at consumer ⊢
  cases consumer with
  | none => exact .none
  | @some consumer consumer' alike =>
      by_cases isQueue : consumer.queue = queue
      · simpa [Option.filter, isQueue, ← alike.queue] using alike
      · simp [Option.filter, isQueue, ← alike.queue]

theorem queueInfo (same : broker.SameMessages scope streams broker') (named : queue ∈ scope.names) :
    broker.queueInfo queue = broker'.queueInfo queue := by
  have messages : (broker.backlog queue).length = (broker'.backlog queue).length := by
    simpa using congrArg List.length (same.backlog named)
  have consumers : broker.consumerCount queue = broker'.consumerCount queue := by
    rw [same.apart.consumerCount named, same.apart'.consumerCount named]
    have consumer := same.consumerAt queue
    generalize (broker.consumers.get? scope.tag).filter _ = found at consumer ⊢
    generalize (broker'.consumers.get? scope.tag).filter _ = found' at consumer ⊢
    cases consumer <;> rfl
  simp [Broker.queueInfo, messages, consumers]

/-- The backlog of a queue is written anew. -/
theorem store
    (same : broker.SameMessages scope streams broker')
    (queue : String)
    {deliveries deliveries' : List Delivery}
    (alike : deliveries.map Delivery.anonymous = deliveries'.map Delivery.anonymous) :
    SameMessages scope streams { broker with queues := broker.queues.insert queue deliveries }
      { broker' with queues := broker'.queues.insert queue deliveries' } := by
  refine { same with queues := fun name named => ?_ }
  by_cases isQueue : name = queue
  · subst isQueue
    simpa using alike
  · simpa [Dictionary.get?_insert_other _ _ isQueue] using same.queues name named

/-- Something happens to a stream of the client. -/
theorem modifyFeed
    (same : broker.SameMessages scope streams broker')
    {stream stream' : Stream}
    (paired : streams stream stream')
    {change change' : Feed → Feed}
    (changes : ∀ feed feed', feed.Alike feed' → (change feed).Alike (change' feed')) :
    SameMessages scope streams (broker.modifyFeed stream change)
      (broker'.modifyFeed stream' change') := by
  refine { same with feeds := fun other other' otherPaired => ?_, apart := ?_, apart' := ?_ }
  · obtain ⟨feed, feed', isFeed, isFeed', alike⟩ := same.feeds other other' otherPaired
    have sameStream := same.injective stream stream' other other' paired otherPaired
    by_cases isStream : other = stream
    · obtain rfl := isStream
      obtain rfl := sameStream.mp rfl
      refine ⟨change feed, change' feed', ?_, ?_, changes feed feed' alike⟩
      · simp [feed?_modifyFeed_self, isFeed]
      · simp [feed?_modifyFeed_self, isFeed']
    · have isStream' := mt sameStream.mpr isStream
      refine ⟨feed, feed', ?_, ?_, alike⟩
      · rw [feed?_modifyFeed_other _ isStream, isFeed]
      · rw [feed?_modifyFeed_other _ isStream', isFeed']
  · refine { same.apart with opened := fun entry member => ?_ }
    exact (same.apart.opened entry member).trans_eq (length_modifyFeed change).symm
  · refine { same.apart' with opened := fun entry member => ?_ }
    exact (same.apart'.opened entry member).trans_eq (length_modifyFeed change').symm

/-- A stream of the client is given up. -/
theorem release
    (same : broker.SameMessages scope streams broker')
    {stream stream' : Stream}
    (paired : streams stream stream') :
    SameMessages scope streams (broker.release stream) (broker'.release stream') :=
  @modifyFeed _ _ _ _ same _ _ paired (fun _ => ⟨[], false⟩) (fun _ => ⟨[], false⟩)
    fun _ _ _ => ⟨rfl, rfl⟩

/-- A delivery goes to the consumer of the client, or else to the backlog. -/
theorem route
    (same : broker.SameMessages scope streams broker')
    (named : queue ∈ scope.names)
    {delivery delivery' : Delivery}
    (alike : delivery.Alike delivery') :
    SameMessages scope streams (broker.route queue delivery) (broker'.route queue delivery') := by
  have appended {deliveries deliveries' : List Delivery}
      (before : deliveries.map Delivery.anonymous = deliveries'.map Delivery.anonymous) :
      (deliveries ++ [delivery]).map Delivery.anonymous =
        (deliveries' ++ [delivery']).map Delivery.anonymous := by
    have isAlike : delivery.anonymous = delivery'.anonymous := alike
    simp [before, isAlike]
  have stored := same.store queue (appended (same.backlog named))
  unfold Broker.route routeAmong
  rw [same.apart.consumerAmong? named, same.apart'.consumerAmong? named]
  have consumer := same.consumerAt queue
  generalize (broker.consumers.get? scope.tag).filter _ = found at consumer ⊢
  generalize (broker'.consumers.get? scope.tag).filter _ = found' at consumer ⊢
  cases consumer with
  | none => exact stored
  | @some consumer consumer' consumers =>
      obtain ⟨feed, feed', isFeed, isFeed', feeds⟩ := same.feeds _ _ consumers.paired
      simp only [isLive, isFeed, isFeed', ← feeds.held]
      split
      · exact same.modifyFeed consumers.paired fun _ _ feeds => ⟨feeds.held, appended feeds.buffer⟩
      · exact stored

theorem cancel (same : broker.SameMessages scope streams broker') :
    SameMessages scope streams (broker.cancel scope.tag) (broker'.cancel scope.tag) :=
  { same with
    consumer := by simp [Broker.cancel]
    apart := same.apart.sublist List.filter_sublist
    apart' := same.apart'.sublist List.filter_sublist }

theorem delete (same : broker.SameMessages scope streams broker') (queue : String) :
    SameMessages scope streams (broker.delete queue).2 (broker'.delete queue).2 := by
  refine { same with queues := fun name named => ?_, consumer := ?_, apart := ?_, apart' := ?_ }
  · by_cases isQueue : name = queue
    · simp [Broker.delete, isQueue]
    · simpa [Broker.delete, Dictionary.get?_erase_other _ isQueue] using same.queues name named
  · have consumer := same.consumer
    simp only [Broker.delete]
    rw [Dictionary.get?_filter same.apart.rising fun consumer => consumer.queue ≠ queue,
      Dictionary.get?_filter same.apart'.rising fun consumer => consumer.queue ≠ queue]
    generalize broker.consumers.get? scope.tag = found at consumer ⊢
    generalize broker'.consumers.get? scope.tag = found' at consumer ⊢
    cases consumer with
    | none => exact .none
    | @some consumer consumer' alike =>
        by_cases isQueue : consumer.queue = queue
        · simp [Option.filter, isQueue, ← alike.queue]
        · simpa [Option.filter, isQueue, ← alike.queue] using alike
  · exact same.apart.sublist List.filter_sublist
  · exact same.apart'.sublist List.filter_sublist

/-- The consumer of the client registers for one of its queues, under a new stream. -/
theorem register
    (same : broker.SameMessages scope streams broker')
    (named : queue ∈ scope.names)
    {feed feed' : Feed}
    (alike : feed.Alike feed') :
    SameMessages scope
      (fun stream stream' =>
        streams stream stream' ∨ stream = ⟨broker.feeds.length⟩ ∧ stream' = ⟨broker'.feeds.length⟩)
      { broker with
        feeds := broker.feeds ++ [feed]
        queues := broker.queues.insert queue []
        consumers := broker.consumers.insert scope.tag ⟨queue, ⟨broker.feeds.length⟩⟩ }
      { broker' with
        feeds := broker'.feeds ++ [feed']
        queues := broker'.queues.insert queue []
        consumers := broker'.consumers.insert scope.tag ⟨queue, ⟨broker'.feeds.length⟩⟩ } where
  queues := (same.store queue rfl).queues
  consumer := by simpa using ⟨rfl, named, .inr ⟨rfl, rfl⟩⟩
  feeds stream stream' paired := by
    rcases paired with paired | ⟨rfl, rfl⟩
    · obtain ⟨feed, feed', isFeed, isFeed', alike⟩ := same.feeds stream stream' paired
      have below := (List.getElem?_eq_some_iff.mp isFeed).1
      have below' := (List.getElem?_eq_some_iff.mp isFeed').1
      exact ⟨feed, feed', (List.getElem?_append_left below).trans isFeed,
        (List.getElem?_append_left below').trans isFeed', alike⟩
    · exact ⟨feed, feed', by simp [feed?], by simp [feed?], alike⟩
  injective stream stream' other other' paired otherPaired := by
    have isOld {stream stream' : Stream} (paired : streams stream stream') :
        stream ≠ ⟨broker.feeds.length⟩ ∧ stream' ≠ ⟨broker'.feeds.length⟩ := by
      obtain ⟨feed, feed', isFeed, isFeed', -⟩ := same.feeds stream stream' paired
      have below := (List.getElem?_eq_some_iff.mp isFeed).1
      have below' := (List.getElem?_eq_some_iff.mp isFeed').1
      refine ⟨?_, ?_⟩
      · rintro rfl
        exact Nat.lt_irrefl _ below
      · rintro rfl
        exact Nat.lt_irrefl _ below'
    rcases paired with paired | ⟨rfl, rfl⟩ <;> rcases otherPaired with otherPaired | ⟨rfl, rfl⟩
    · exact same.injective stream stream' other other' paired otherPaired
    · exact iff_of_false (isOld paired).1.symm (isOld paired).2.symm
    · exact iff_of_false (isOld otherPaired).1 (isOld otherPaired).2
    · exact iff_of_true rfl rfl
  apart := by
    refine same.apart.register ?_ (absurd rfl) feed
    rintro stream ⟨stream', paired | ⟨rfl, -⟩⟩
    · exact .inl ⟨stream', paired⟩
    · exact .inr rfl
  apart' := by
    refine same.apart'.register ?_ (absurd rfl) feed'
    rintro stream' ⟨stream, paired | ⟨-, rfl⟩⟩
    · exact .inl ⟨stream, paired⟩
    · exact .inr rfl

theorem isFed
    (same : broker.SameMessages scope streams broker')
    {stream stream' : Stream}
    (paired : streams stream stream') :
    broker.isFed stream = broker'.isFed stream' := by
  rw [Bool.eq_iff_iff, same.apart.isFed_iff ⟨stream', paired⟩,
    same.apart'.isFed_iff ⟨stream, paired⟩]
  have consumer := same.consumer
  generalize broker.consumers.get? scope.tag = found at consumer ⊢
  generalize broker'.consumers.get? scope.tag = found' at consumer ⊢
  cases consumer with
  | none => simp
  | some alike => simpa using same.injective _ _ _ _ paired alike.paired

end Broker.SameMessages

/-! ## What happens to channels -/

namespace Broker

variable {scope : Scope} {channels : Channel → Channel → Prop} {broker broker' : Broker}

theorem isOpen_closeChannel_eq (channel other : Channel) :
    (broker.closeChannel channel).isOpen other =
      (decide (other.number ≠ channel.number) && broker.isOpen other) := by
  simp [isOpen, closeChannel, Bool.and_assoc]

/-- A channel that is about to be opened is not among the closed ones. -/
theorem isOpen_next
    (numbered : broker.Numbered)
    {generation : Nat}
    (current : broker.generation = generation)
    (opened : Nat) :
    isOpen { broker with channelsOpened := opened } ⟨broker.channelsOpened + 1, generation⟩ =
      true := by
  have notClosed : broker.channelsOpened + 1 ∉ broker.closedChannels :=
    fun member => Nat.not_succ_le_self _ (numbered _ member)
  simpa [isOpen, current] using notClosed

/-- All channels are as usable as before, and no new one is opened. -/
structure KeepsChannels (broker after : Broker) : Prop where
  generation : after.generation = broker.generation
  closed : after.closedChannels = broker.closedChannels
  opened : after.channelsOpened = broker.channelsOpened

theorem KeepsChannels.isOpen
    {after : Broker}
    (keeps : broker.KeepsChannels after)
    (channel : Channel) :
    after.isOpen channel = broker.isOpen channel := by
  simp [Broker.isOpen, keeps.generation, keeps.closed]

theorem keepsChannels_publish (publication : Publication) :
    broker.KeepsChannels (broker.publish publication) := by
  obtain ⟨queues, feeds, published⟩ := broker.publish_eq publication
  rw [published]
  exact ⟨rfl, rfl, rfl⟩

namespace SameChannels

theorem of_keeps
    {after after' : Broker}
    (same : broker.SameChannels scope channels broker')
    (keeps : broker.KeepsChannels after)
    (keeps' : broker'.KeepsChannels after') :
    after.SameChannels scope channels after' where
  here := keeps.generation.trans same.here
  there := keeps'.generation.trans same.there
  usable channel channel' paired := by
    rw [keeps.isOpen, keeps'.isOpen]
    exact same.usable channel channel' paired
  opened channel channel' paired := by
    have opened := same.opened channel channel' paired
    exact ⟨opened.1.trans_eq keeps.opened.symm, opened.2.trans_eq keeps'.opened.symm⟩
  numbers := same.numbers
  numbered := (KeepsNumbers.of_same keeps.opened keeps.closed).numbered same.numbered
  numbered' := (KeepsNumbers.of_same keeps'.opened keeps'.closed).numbered same.numbered'

/-- A channel of the client is closed. -/
theorem closeChannel
    (same : broker.SameChannels scope channels broker')
    {channel channel' : Channel}
    (paired : channels channel channel') :
    SameChannels scope channels (broker.closeChannel channel) (broker'.closeChannel channel') where
  here := same.here
  there := same.there
  usable other other' otherPaired := by
    have sameNumber := same.numbers channel channel' other other' paired otherPaired
    rw [isOpen_closeChannel_eq, isOpen_closeChannel_eq, same.usable other other' otherPaired]
    rw [decide_eq_decide.mpr (not_congr sameNumber)]
  opened := same.opened
  numbers := same.numbers
  numbered := (keepsNumbers_closeChannel (same.opened _ _ paired).1).numbered same.numbered
  numbered' := (keepsNumbers_closeChannel (same.opened _ _ paired).2).numbered same.numbered'

/-- The client gets a new channel. -/
theorem openChannel
    (same : broker.SameChannels scope channels broker') :
    SameChannels scope
      (fun channel channel' =>
        channels channel channel' ∨
          channel = ⟨broker.channelsOpened + 1, scope.generation⟩ ∧
            channel' = ⟨broker'.channelsOpened + 1, scope.generation⟩)
      { broker with channelsOpened := broker.channelsOpened + 1 }
      { broker' with channelsOpened := broker'.channelsOpened + 1 } where
  here := same.here
  there := same.there
  usable channel channel' paired := by
    rcases paired with paired | ⟨rfl, rfl⟩
    · exact same.usable channel channel' paired
    · rw [isOpen_next same.numbered same.here, isOpen_next same.numbered' same.there]
  opened channel channel' paired := by
    rcases paired with paired | ⟨rfl, rfl⟩
    · have opened := same.opened channel channel' paired
      exact ⟨Nat.le_succ_of_le opened.1, Nat.le_succ_of_le opened.2⟩
    · exact ⟨Nat.le_refl _, Nat.le_refl _⟩
  numbers channel channel' other other' paired otherPaired := by
    have isOld {channel channel' : Channel} (paired : channels channel channel') :
        channel.number ≠ broker.channelsOpened + 1 ∧
          channel'.number ≠ broker'.channelsOpened + 1 := by
      have opened := same.opened channel channel' paired
      exact ⟨Nat.ne_of_lt (Nat.lt_succ_of_le opened.1), Nat.ne_of_lt (Nat.lt_succ_of_le opened.2)⟩
    rcases paired with paired | ⟨rfl, rfl⟩ <;> rcases otherPaired with otherPaired | ⟨rfl, rfl⟩
    · exact same.numbers channel channel' other other' paired otherPaired
    · exact iff_of_false (isOld paired).1.symm (isOld paired).2.symm
    · exact iff_of_false (isOld otherPaired).1 (isOld otherPaired).2
    · exact iff_of_true rfl rfl
  numbered number member := Nat.le_succ_of_le (same.numbered number member)
  numbered' number member := Nat.le_succ_of_le (same.numbered' number member)

end SameChannels

end Broker

/-! ## Requests -/

namespace Pairing

/-- One more pair of channels. -/
def addChannel (pairing : Pairing) (channel channel' : Channel) : Pairing :=
  { pairing with
    channels := fun other other' =>
      pairing.channels other other' ∨ other = channel ∧ other' = channel' }

/-- One more pair of streams. -/
def addStream (pairing : Pairing) (stream stream' : Stream) : Pairing :=
  { pairing with
    streams := fun other other' =>
      pairing.streams other other' ∨ other = stream ∧ other' = stream' }

theorem le_addChannel (pairing : Pairing) (channel channel' : Channel) :
    pairing ≤ pairing.addChannel channel channel' :=
  ⟨fun _ _ => .inl, fun _ _ => id⟩

theorem le_addStream (pairing : Pairing) (stream stream' : Stream) :
    pairing ≤ pairing.addStream stream stream' :=
  ⟨fun _ _ => id, fun _ _ => .inl⟩

end Pairing

/-- The handles that a pairing gains are new to a broker. -/
structure Pairing.GainsAt (pairing grown : Pairing) (broker : Broker) : Prop where
  grows : pairing ≤ grown
  channels :
    ∀ channel channel', grown.channels channel channel' →
      pairing.channels channel channel' ∨ ¬ broker.HasOpened channel
  streams :
    ∀ stream stream', grown.streams stream stream' →
      pairing.streams stream stream' ∨ broker.feed? stream = none

theorem Pairing.GainsAt.refl (pairing : Pairing) (broker : Broker) :
    pairing.GainsAt pairing broker :=
  ⟨le_rfl, fun _ _ => .inl, fun _ _ => .inl⟩

namespace Broker

variable {scope : Scope} {pairing : Pairing} {broker broker' : Broker}

/-- Two brokers answer alike and are left alike, under a pairing with more new handles only. -/
def AnswerAlike
    {Answer Answer' : Type}
    (scope : Scope)
    (pairing : Pairing)
    (broker : Broker)
    (answers : Pairing → Answer → Answer' → Prop)
    (answered : Answer × Broker)
    (answered' : Answer' × Broker) : Prop :=
  ∃ grown,
    pairing.GainsAt grown broker ∧ answers grown answered.1 answered'.1 ∧
      answered.2.Alike scope grown answered'.2

/-- Nothing new is gained. -/
theorem answerAlike_of_alike
    {Answer Answer' : Type}
    {answers : Pairing → Answer → Answer' → Prop}
    {answered : Answer × Broker}
    {answered' : Answer' × Broker}
    (left : answered.2.Alike scope pairing answered'.2)
    (isAlike : answers pairing answered.1 answered'.1) :
    AnswerAlike scope pairing broker answers answered answered' :=
  ⟨pairing, .refl _ _, isAlike, left⟩

/-- A call on paired channels is refused at both brokers or at none. -/
theorem Alike.onChannel
    {α : Type}
    (alike : broker.Alike scope pairing broker')
    {channel channel' : Channel}
    (paired : pairing.channels channel channel')
    {answers : Pairing → Except TransportError α → Except TransportError α → Prop}
    {perform perform' : Except TransportError α × Broker}
    (performed : AnswerAlike scope pairing broker answers perform perform')
    (refused : answers pairing (.error channelClosed) (.error channelClosed)) :
    AnswerAlike scope pairing broker answers (broker.onChannel channel perform)
      (broker'.onChannel channel' perform') := by
  unfold Broker.onChannel
  rw [alike.channels.usable channel channel' paired]
  split
  · exact performed
  · exact answerAlike_of_alike alike refused

theorem Alike.declare
    (alike : broker.Alike scope pairing broker')
    {queue : String}
    (named : queue ∈ scope.names)
    (flags : DeclareFlags) :
    AnswerAlike scope pairing broker (fun _ answer answer' => answer = answer')
      (broker.declare queue flags) (broker'.declare queue flags) := by
  have declared (broker : Broker) :
      broker.declare queue flags =
        if flags.passive && !broker.queueExists queue then
          (.error (noQueue queue), { broker with declares := broker.declares + 1 })
        else
          (.ok (broker.queueInfo queue),
            { broker with
              declares := broker.declares + 1
              queues := broker.queues.insert queue (broker.backlog queue) }) :=
    rfl
  have stored := alike.messages.store queue (alike.messages.backlog named)
  rw [declared, declared, alike.messages.queueExists named, alike.messages.queueInfo named]
  split
  · exact answerAlike_of_alike ⟨{ alike.messages with }, { alike.channels with }⟩ rfl
  · exact answerAlike_of_alike ⟨{ stored with }, { alike.channels with }⟩ rfl

theorem Alike.delete
    (alike : broker.Alike scope pairing broker')
    {queue : String}
    (named : queue ∈ scope.names) :
    AnswerAlike scope pairing broker
      (fun _ (answer answer' : Except TransportError UInt32) => answer = answer')
      (.ok (broker.delete queue).1, (broker.delete queue).2)
      (.ok (broker'.delete queue).1, (broker'.delete queue).2) := by
  have purged : (broker.backlog queue).length = (broker'.backlog queue).length := by
    simpa using congrArg List.length (alike.messages.backlog named)
  refine answerAlike_of_alike ⟨alike.messages.delete queue, { alike.channels with }⟩ ?_
  simp [Broker.delete, purged]

theorem Alike.publish
    (alike : broker.Alike scope pairing broker')
    {publication publication' : Publication}
    (named : publication.routingKey ∈ scope.names)
    (same : publication.anonymous = publication'.anonymous) :
    (broker.publish publication).Alike scope pairing (broker'.publish publication') := by
  obtain ⟨exchange, queue, mandatory, immediate, body, properties⟩ := publication
  obtain ⟨exchange', queue', mandatory', immediate', body', properties'⟩ := publication'
  simp only [Publication.anonymous, Publication.mk.injEq] at same
  obtain ⟨rfl, rfl, rfl, rfl, rfl, sameProperties⟩ := same
  refine ⟨?_, alike.channels.of_keeps (keepsChannels_publish _) (keepsChannels_publish _)⟩
  let counted (broker : Broker) (properties : Properties) : Broker :=
    { broker with
      published := broker.published ++ [(queue, properties)]
      accepted := broker.accepted + 1 }
  have before :
      (counted broker properties).SameMessages scope pairing.streams
        (counted broker' properties') :=
    { alike.messages with }
  have deliveries :
      (message (broker.accepted + 1) queue properties body).Alike
        (message (broker'.accepted + 1) queue properties' body) := by
    simp [Delivery.Alike, Delivery.anonymous, message, Delivery.new, Acknowledger.anonymous,
      sameProperties]
  exact before.route named deliveries

theorem Alike.consume
    (alike : broker.Alike scope pairing broker')
    {channel channel' : Channel}
    (paired : pairing.channels channel channel')
    {queue : String}
    (named : queue ∈ scope.names) :
    AnswerAlike scope pairing broker (fun grown => Results Eq grown.streams)
      (broker.consume channel queue scope.tag) (broker'.consume channel' queue scope.tag) := by
  have queues := alike.messages.queues queue named
  unfold Broker.consume
  generalize broker.queues.get? queue = found at queues ⊢
  generalize broker'.queues.get? queue = found' at queues ⊢
  cases found with
  | none =>
      cases found' with
      | some backlog' => cases queues
      | none =>
          exact answerAlike_of_alike
            ⟨{ alike.messages with }, alike.channels.closeChannel paired⟩ (.error rfl)
  | some backlog =>
      cases found' with
      | none => cases queues
      | some backlog' =>
          have feeds : Feed.Alike ⟨backlog, true⟩ ⟨backlog', true⟩ :=
            ⟨rfl, Option.some.inj queues⟩
          refine ⟨pairing.addStream ⟨broker.feeds.length⟩ ⟨broker'.feeds.length⟩,
            ⟨pairing.le_addStream _ _, fun _ _ => .inl, ?_⟩, .ok (.inr ⟨rfl, rfl⟩),
            ⟨alike.messages.register named feeds, { alike.channels with }⟩⟩
          rintro stream stream' (paired | ⟨rfl, -⟩)
          · exact .inl paired
          · exact .inr (List.getElem?_eq_none (Nat.le_refl _))

theorem Alike.openChannel
    (alike : broker.Alike scope pairing broker')
    {connection connection' : Connection}
    (here : connection.generation = scope.generation)
    (there : connection'.generation = scope.generation) :
    AnswerAlike scope pairing broker
      (fun grown answer answer' =>
        ∃ channel channel',
          answer = .ok channel ∧ answer' = .ok channel' ∧ grown.channels channel channel')
      (broker.openChannel connection) (broker'.openChannel connection') := by
  have isClosed : broker.isClosed connection = false := by
    simp [Broker.isClosed, here, alike.channels.here]
  have isClosed' : broker'.isClosed connection' = false := by
    simp [Broker.isClosed, there, alike.channels.there]
  simp only [Broker.openChannel, isClosed, isClosed', here, there]
  refine ⟨pairing.addChannel ⟨broker.channelsOpened + 1, scope.generation⟩
      ⟨broker'.channelsOpened + 1, scope.generation⟩,
    ⟨pairing.le_addChannel _ _, ?_, fun _ _ => .inl⟩, ⟨_, _, rfl, rfl, .inr ⟨rfl, rfl⟩⟩,
    ⟨{ alike.messages with }, alike.channels.openChannel⟩⟩
  rintro channel channel' (paired | ⟨rfl, -⟩)
  · exact .inl paired
  · exact .inr (Nat.not_succ_le_self _)

/-- A stream of the client yields the same at both brokers. -/
theorem Alike.next
    (alike : broker.Alike scope pairing broker')
    {stream stream' : Stream}
    (paired : pairing.streams stream stream')
    (timeout : Duration)
    (drawnIds drawnIds' : Nat) :
    AnswerAlike scope pairing broker (fun _ arrival arrival' => arrival.Alike arrival')
      ((Network.around broker drawnIds).answer (.next stream timeout),
        (Network.around broker drawnIds).brokerAfter (.next stream timeout))
      ((Network.around broker' drawnIds').answer (.next stream' timeout),
        (Network.around broker' drawnIds').brokerAfter (.next stream' timeout)) := by
  obtain ⟨feed, feed', isFeed, isFeed', feeds⟩ := alike.messages.feeds stream stream' paired
  obtain ⟨buffer, held⟩ := feed
  obtain ⟨buffer', held'⟩ := feed'
  have buffers := feeds.buffer
  simp only [Network.answer, Network.brokerAfter, Network.around, poll, isFeed, isFeed']
  cases buffer with
  | nil =>
      obtain rfl : buffer' = [] := by simpa using buffers.symm
      by_cases fed : broker'.isFed stream' = true
      · simp only [alike.messages.isFed paired, fed, if_true]
        exact answerAlike_of_alike alike .timedOut
      · simp only [alike.messages.isFed paired, fed]
        exact answerAlike_of_alike alike .ended
  | cons delivery rest =>
      cases buffer' with
      | nil => cases buffers
      | cons delivery' rest' =>
          obtain ⟨first, others⟩ := List.cons.inj buffers
          refine answerAlike_of_alike ⟨?_, { alike.channels with }⟩ (.item (.ok first))
          exact alike.messages.modifyFeed paired fun _ _ feeds => ⟨feeds.held, others⟩

/-- Requests that are alike are answered alike. -/
theorem Alike.answer
    (alike : broker.Alike scope pairing broker')
    {request request' : Request}
    {answers : Pairing → request.Answer → request'.Answer → Prop}
    (requests : request.Alike scope pairing request' answers)
    (drawnIds drawnIds' : Nat) :
    AnswerAlike scope pairing broker answers
      ((Network.around broker drawnIds).answer request,
        (Network.around broker drawnIds).brokerAfter request)
      ((Network.around broker' drawnIds').answer request',
        (Network.around broker' drawnIds').brokerAfter request') := by
  cases requests with
  | openChannel here there => exact alike.openChannel here there
  | closeConnection here there =>
      refine answerAlike_of_alike alike ?_
      simp [Network.answer, Network.around, Broker.perform, closeConnection, isClosed, here, there,
        alike.channels.here, alike.channels.there]
  | qos paired prefetchCount global =>
      exact alike.onChannel paired (answerAlike_of_alike alike rfl) rfl
  | declare paired named flags arguments =>
      exact alike.onChannel paired (alike.declare named flags) rfl
  | delete paired named flags => exact alike.onChannel paired (alike.delete named) rfl
  | publish paired named same =>
      exact alike.onChannel paired (answerAlike_of_alike (alike.publish named same) rfl) rfl
  | consume paired named flags =>
      exact alike.onChannel paired (alike.consume paired named) (.error rfl)
  | cancel paired nowait =>
      have cancelled : (broker.cancel scope.tag).Alike scope pairing (broker'.cancel scope.tag) :=
        ⟨alike.messages.cancel, { alike.channels with }⟩
      exact alike.onChannel paired (answerAlike_of_alike cancelled rfl) rfl
  | closeChannel paired =>
      have closed := alike.channels.closeChannel paired
      exact answerAlike_of_alike ⟨{ alike.messages with }, closed⟩ rfl
  | isClosed here there =>
      refine answerAlike_of_alike alike ?_
      simp [Network.answer, Network.around, isClosed, here, there, alike.channels.here,
        alike.channels.there]
  | sleep duration => exact answerAlike_of_alike alike trivial
  | next paired timeout => exact alike.next paired timeout drawnIds drawnIds'
  | release paired =>
      exact answerAlike_of_alike ⟨alike.messages.release paired, { alike.channels with }⟩ trivial
  | describe message => exact answerAlike_of_alike alike trivial
  | freshId => exact answerAlike_of_alike alike trivial

end Broker

end BrokerClient
