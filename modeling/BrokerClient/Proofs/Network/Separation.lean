import BrokerClient.Proofs.Network.Likeness

/-!
# Clients that keep apart

What one client asks for concerns its own queues, its own tag, its own channels and its own streams.
To another client that has none of these in common with it, the broker looks afterwards as it did
before.
-/

namespace BrokerClient

/-- Two scopes have nothing in common but their generation. -/
structure Scope.Apart (scope other : Scope) : Prop where
  tag : scope.tag ≠ other.tag
  names : ∀ queue ∈ scope.names, queue ∉ other.names

/-- No handle here is in two pairings. -/
structure Pairing.Apart (pairing other : Pairing) : Prop where
  channels :
    ∀ channel channel' taken taken',
      pairing.channels channel channel' → other.channels taken taken' →
        channel.number ≠ taken.number
  streams :
    ∀ stream stream' taken taken',
      pairing.streams stream stream' → other.streams taken taken' → stream ≠ taken

theorem Scope.Apart.symm {scope other : Scope} (apart : scope.Apart other) : other.Apart scope :=
  ⟨apart.tag.symm, fun queue named isOther => apart.names queue isOther named⟩

theorem Pairing.Apart.symm {pairing other : Pairing} (apart : pairing.Apart other) :
    other.Apart pairing :=
  ⟨fun _ _ _ _ paired taken => (apart.channels _ _ _ _ taken paired).symm,
    fun _ _ _ _ paired taken => (apart.streams _ _ _ _ taken paired).symm⟩

namespace Broker

section

variable {scope : Scope} {streams : Stream → Stream → Prop} {broker broker' : Broker}
variable {queue : String}

namespace SameMessages

/-- The consumer of a client takes from a queue of its scope. -/
theorem named
    (same : broker.SameMessages scope streams broker')
    {consumer : Consumer}
    (found : broker.consumers.get? scope.tag = some consumer) :
    consumer.queue ∈ scope.names := by
  have consumers := same.consumer
  rw [found] at consumers
  generalize broker'.consumers.get? scope.tag = found' at consumers
  cases consumers with
  | some alike => exact alike.named

theorem store_other
    (same : broker.SameMessages scope streams broker')
    (foreign : queue ∉ scope.names)
    (deliveries : List Delivery) :
    SameMessages scope streams { broker with queues := broker.queues.insert queue deliveries }
      broker' := by
  refine { same with queues := fun name named => ?_ }
  have differs : name ≠ queue := fun isQueue => foreign (isQueue ▸ named)
  simpa [Dictionary.get?_insert_other _ _ differs] using same.queues name named

theorem modifyFeed_other
    (same : broker.SameMessages scope streams broker')
    {stream : Stream}
    (foreign : ∀ own own', streams own own' → own ≠ stream)
    (change : Feed → Feed) :
    SameMessages scope streams (broker.modifyFeed stream change) broker' := by
  refine { same with feeds := fun own own' paired => ?_, apart := ?_ }
  · rw [feed?_modifyFeed_other change (foreign own own' paired)]
    exact same.feeds own own' paired
  · refine { same.apart with opened := fun entry member => ?_ }
    exact (same.apart.opened entry member).trans_eq (length_modifyFeed change).symm

theorem cancel_other
    (same : broker.SameMessages scope streams broker')
    {tag : String}
    (foreign : scope.tag ≠ tag) :
    SameMessages scope streams (broker.cancel tag) broker' :=
  { same with
    consumer := by
      simpa [Broker.cancel, Dictionary.get?_erase_other _ foreign] using same.consumer
    apart := same.apart.sublist List.filter_sublist }

theorem delete_other
    (same : broker.SameMessages scope streams broker')
    (foreign : queue ∉ scope.names) :
    SameMessages scope streams (broker.delete queue).2 broker' := by
  refine { same with queues := fun name named => ?_, consumer := ?_, apart := ?_ }
  · have differs : name ≠ queue := fun isQueue => foreign (isQueue ▸ named)
    simpa [Broker.delete, Dictionary.get?_erase_other _ differs] using same.queues name named
  · have consumer := same.consumer
    simp only [Broker.delete]
    rw [Dictionary.get?_filter same.apart.rising fun consumer => consumer.queue ≠ queue]
    generalize broker.consumers.get? scope.tag = found at consumer ⊢
    generalize broker'.consumers.get? scope.tag = found' at consumer ⊢
    cases consumer with
    | none => exact .none
    | @some consumer consumer' alike =>
        have differs : consumer.queue ≠ queue := fun isQueue => foreign (isQueue ▸ alike.named)
        simpa [Option.filter, differs] using alike
  · exact same.apart.sublist List.filter_sublist

theorem register_other
    (same : broker.SameMessages scope streams broker')
    (foreign : queue ∉ scope.names)
    {tag : String}
    (foreignTag : scope.tag ≠ tag)
    (feed : Feed) :
    SameMessages scope streams
      { broker with
        feeds := broker.feeds ++ [feed]
        queues := broker.queues.insert queue []
        consumers := broker.consumers.insert tag ⟨queue, ⟨broker.feeds.length⟩⟩ } broker' where
  queues := (same.store_other foreign []).queues
  consumer := by
    simpa [Dictionary.get?_insert_other _ _ foreignTag] using same.consumer
  feeds own own' paired := by
    obtain ⟨feed, feed', isFeed, isFeed', alike⟩ := same.feeds own own' paired
    have below := (List.getElem?_eq_some_iff.mp isFeed).1
    exact ⟨feed, feed', (List.getElem?_append_left below).trans isFeed, isFeed', alike⟩
  injective := same.injective
  apart := by
    refine same.apart.register (fun _ => .inl) (fun _ => ⟨foreign, ?_⟩) feed
    rintro ⟨own', paired⟩
    obtain ⟨feed, -, isFeed, -, -⟩ := same.feeds _ own' paired
    exact Nat.lt_irrefl _ (List.getElem?_eq_some_iff.mp isFeed).1
  apart' := same.apart'

theorem route_other
    (same : broker.SameMessages scope streams broker')
    (foreign : queue ∉ scope.names)
    (delivery : Delivery) :
    SameMessages scope streams (broker.route queue delivery) broker' := by
  unfold Broker.route routeAmong
  split
  · exact same.store_other foreign _
  · next consumer asked =>
      split
      · refine same.modifyFeed_other (fun own own' paired isStream => ?_) _
        have isQueue : consumer.queue = queue := by simpa using List.find?_some asked
        obtain ⟨entry, member, rfl⟩ :=
          List.mem_map.mp (mem_candidates_iff.mp (List.mem_of_find?_eq_some asked))
        have notTag : entry.1 ≠ scope.tag := by
          intro isTag
          have found := Dictionary.get?_of_mem same.apart.rising member
          exact foreign (isQueue ▸ same.named (isTag ▸ found))
        exact (same.apart.others entry member notTag).2 ⟨own', isStream ▸ paired⟩
      · exact same.store_other foreign _

end SameMessages

end

section

variable {scope : Scope} {channels : Channel → Channel → Prop} {broker broker' : Broker}

namespace SameChannels

theorem closeChannel_other
    (same : broker.SameChannels scope channels broker')
    {channel : Channel}
    (opened : broker.HasOpened channel)
    (foreign : ∀ own own', channels own own' → own.number ≠ channel.number) :
    SameChannels scope channels (broker.closeChannel channel) broker' where
  here := same.here
  there := same.there
  usable own own' paired := by
    rw [isOpen_closeChannel_eq, decide_eq_true (foreign own own' paired), Bool.true_and]
    exact same.usable own own' paired
  opened := same.opened
  numbers := same.numbers
  numbered := (keepsNumbers_closeChannel opened).numbered same.numbered
  numbered' := same.numbered'

theorem openChannel_other
    (same : broker.SameChannels scope channels broker') :
    SameChannels scope channels { broker with channelsOpened := broker.channelsOpened + 1 }
      broker' where
  here := same.here
  there := same.there
  usable := same.usable
  opened own own' paired :=
    ⟨Nat.le_succ_of_le (same.opened own own' paired).1, (same.opened own own' paired).2⟩
  numbers := same.numbers
  numbered number member := Nat.le_succ_of_le (same.numbered number member)
  numbered' := same.numbered'

end SameChannels

end

section

variable {scope other : Scope} {pairing taken : Pairing} {broker broker' there : Broker}

theorem Alike.onChannel_other
    {α : Type}
    (alike : broker.Alike scope pairing broker')
    (channel : Channel)
    {perform : Except TransportError α × Broker}
    (performed : perform.2.Alike scope pairing broker') :
    (broker.onChannel channel perform).2.Alike scope pairing broker' := by
  rcases onChannel_cases channel perform with same | same
  · rw [same]
    exact performed
  · rw [same]
    exact alike

theorem Alike.publish_other
    (alike : broker.Alike scope pairing broker')
    (publication : Publication)
    (foreign : publication.routingKey ∉ scope.names) :
    (broker.publish publication).Alike scope pairing broker' := by
  refine ⟨?_, alike.channels.of_keeps (keepsChannels_publish _) ⟨rfl, rfl, rfl⟩⟩
  let counted : Broker :=
    { broker with
      published := broker.published ++ [(publication.routingKey, publication.properties)]
      accepted := broker.accepted + 1 }
  have before : counted.SameMessages scope pairing.streams broker' := { alike.messages with }
  exact before.route_other foreign _

theorem Alike.declare_other
    (alike : broker.Alike scope pairing broker')
    {queue : String}
    (foreign : queue ∉ scope.names)
    (flags : DeclareFlags) :
    (broker.declare queue flags).2.Alike scope pairing broker' := by
  have stored := alike.messages.store_other foreign (broker.backlog queue)
  unfold Broker.declare
  dsimp only
  split
  · exact ⟨{ alike.messages with }, { alike.channels with }⟩
  · exact ⟨{ stored with }, { alike.channels with }⟩

theorem Alike.consume_other
    (alike : broker.Alike scope pairing broker')
    {channel : Channel}
    (opened : broker.HasOpened channel)
    (foreignChannel : ∀ own own', pairing.channels own own' → own.number ≠ channel.number)
    {queue tag : String}
    (foreign : queue ∉ scope.names)
    (foreignTag : scope.tag ≠ tag) :
    (broker.consume channel queue tag).2.Alike scope pairing broker' := by
  unfold Broker.consume
  split
  · exact ⟨{ alike.messages with }, alike.channels.closeChannel_other opened foreignChannel⟩
  · next backlog found =>
      exact ⟨alike.messages.register_other foreign foreignTag _, { alike.channels with }⟩

theorem Alike.openChannel_other
    (alike : broker.Alike scope pairing broker')
    (connection : Connection) :
    (broker.openChannel connection).2.Alike scope pairing broker' := by
  unfold Broker.openChannel
  split
  · exact alike
  · exact ⟨{ alike.messages with }, alike.channels.openChannel_other⟩

/-- A client that keeps apart changes nothing that another client sees of their broker. -/
theorem Alike.after_other
    (alike : broker.Alike scope pairing broker')
    (others : broker.Alike other taken there)
    (scopes : scope.Apart other)
    (pairings : pairing.Apart taken)
    {request request' : Request}
    {answers : Pairing → request.Answer → request'.Answer → Prop}
    (asked : request.Alike other taken request' answers)
    (drawnIds : Nat) :
    ((Network.around broker drawnIds).brokerAfter request).Alike scope pairing broker' := by
  have foreign {queue : String} (named : queue ∈ other.names) : queue ∉ scope.names :=
    scopes.symm.names queue named
  have foreignChannel {channel channel' : Channel} (isTaken : taken.channels channel channel')
      (own own' : Channel) (paired : pairing.channels own own') : own.number ≠ channel.number :=
    pairings.channels own own' channel channel' paired isTaken
  have foreignStream {stream stream' : Stream} (isTaken : taken.streams stream stream')
      (own own' : Stream) (paired : pairing.streams own own') : own ≠ stream :=
    pairings.streams own own' stream stream' paired isTaken
  cases asked with
  | openChannel => exact alike.openChannel_other _
  | closeConnection => exact alike
  | qos => exact alike.onChannel_other _ alike
  | declare _ named flags =>
      exact alike.onChannel_other _ (alike.declare_other (foreign named) flags)
  | @delete _ _ _ queue named =>
      have deleted : (broker.delete queue).2.Alike scope pairing broker' :=
        ⟨alike.messages.delete_other (foreign named), { alike.channels with }⟩
      exact alike.onChannel_other _ deleted
  | publish _ named => exact alike.onChannel_other _ (alike.publish_other _ (foreign named))
  | consume isTaken named =>
      have opened := (others.channels.opened _ _ isTaken).1
      exact alike.onChannel_other _
        (alike.consume_other opened (foreignChannel isTaken) (foreign named) scopes.tag)
  | cancel =>
      have cancelled : (broker.cancel other.tag).Alike scope pairing broker' :=
        ⟨alike.messages.cancel_other scopes.tag, { alike.channels with }⟩
      exact alike.onChannel_other _ cancelled
  | closeChannel isTaken =>
      have opened := (others.channels.opened _ _ isTaken).1
      have closed := alike.channels.closeChannel_other opened (foreignChannel isTaken)
      exact ⟨{ alike.messages with }, closed⟩
  | isClosed => exact alike
  | sleep => exact alike
  | @next stream _ isTaken =>
      dsimp only [Network.brokerAfter, Network.around]
      cases polled : broker.poll stream with
      | item delivery left =>
          obtain ⟨rest, -, rfl⟩ := poll_item polled
          exact ⟨alike.messages.modifyFeed_other (foreignStream isTaken) _, { alike.channels with }⟩
      | ended => exact alike
      | pending => exact alike
  | release isTaken =>
      have released := alike.messages.modifyFeed_other (foreignStream isTaken) fun _ => ⟨[], false⟩
      exact ⟨released, { alike.channels with }⟩
  | describe => exact alike
  | freshId => exact alike

/-- The handles that one client gains are none of those that another one has. -/
theorem Alike.apart_of_gains
    {grown : Pairing}
    (others : broker.Alike other taken there)
    (apart : pairing.Apart taken)
    (gains : pairing.GainsAt grown broker) :
    grown.Apart taken where
  channels channel channel' own own' paired isTaken := by
    rcases gains.channels channel channel' paired with wasPaired | isNew
    · exact apart.channels channel channel' own own' wasPaired isTaken
    · intro same
      have opened : own.number ≤ broker.channelsOpened := (others.channels.opened _ _ isTaken).1
      exact isNew (same.trans_le opened)
  streams stream stream' own own' paired isTaken := by
    rcases gains.streams stream stream' paired with wasPaired | isNew
    · exact apart.streams stream stream' own own' wasPaired isTaken
    · rintro rfl
      obtain ⟨feed, -, isFeed, -, -⟩ := others.messages.feeds _ _ isTaken
      cases isNew.symm.trans isFeed

end

end Broker

end BrokerClient
