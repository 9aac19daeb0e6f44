import BrokerClient.Proofs.Network.Conservation
import BrokerClient.Proofs.Network.Prompt
import BrokerClient.Proofs.Network.RoundTrip
import BrokerClient.Proofs.Network.Supply

/-!
# The books of a broker

The broker counts the messages that it accepts and gives each its number as a tag.  Since a message
goes behind those that came before it, and is taken from the front or all at once, tags rise in
every backlog and in every stream; and since it is in one place only, no tag is found twice, with
the broker or among what was handed out.
-/

namespace BrokerClient

/-! ## Tags that rise -/

/-- Deliveries in the order of their tags, none of them beyond a limit. -/
structure Ascending (limit : Nat) (deliveries : List Delivery) : Prop where
  rising : (deliveries.map Delivery.tag).Pairwise (· < ·)
  bounded : ∀ delivery ∈ deliveries, delivery.tag ≤ limit

namespace Ascending

variable {limit : Nat} {deliveries : List Delivery}

theorem nil (limit : Nat) : Ascending limit [] :=
  ⟨List.Pairwise.nil, by simp⟩

theorem sublist
    (ascending : Ascending limit deliveries)
    {fewer : List Delivery}
    (isSublist : fewer.Sublist deliveries) :
    Ascending limit fewer :=
  ⟨ascending.rising.sublist (isSublist.map Delivery.tag), fun delivery member =>
    ascending.bounded delivery (isSublist.subset member)⟩

theorem raise (ascending : Ascending limit deliveries) : Ascending (limit + 1) deliveries :=
  ⟨ascending.rising, fun delivery member =>
    Nat.le_succ_of_le (ascending.bounded delivery member)⟩

/-- The next message goes behind all others. -/
theorem concat
    (ascending : Ascending limit deliveries)
    {delivery : Delivery}
    (isNext : delivery.tag = limit + 1) :
    Ascending (limit + 1) (deliveries ++ [delivery]) := by
  constructor
  case rising =>
    rw [List.map_append, List.pairwise_append]
    refine ⟨ascending.rising, List.pairwise_singleton _ _, ?_⟩
    intro earlier isEarlier later isLater
    obtain ⟨before, member, rfl⟩ := List.mem_map.mp isEarlier
    rw [List.map_singleton, List.mem_singleton, isNext] at isLater
    rw [isLater]
    exact Nat.lt_succ_of_le (ascending.bounded before member)
  case bounded =>
    intro other member
    rcases List.mem_append.mp member with wasThere | isLast
    · exact Nat.le_succ_of_le (ascending.bounded other wasThere)
    · rw [List.mem_singleton.mp isLast]
      exact Nat.le_of_eq isNext

end Ascending

namespace Broker

/-- In every backlog and in every stream tags rise up to the count of accepted messages. -/
structure TagsRise (broker : Broker) : Prop where
  backlogs : ∀ queue, Ascending broker.accepted (broker.backlog queue)
  buffers : ∀ stream, Ascending broker.accepted (broker.buffer stream)

section

variable {broker broker' : Broker} {queue tag : String} {stream : Stream}

/-- Messages may be taken away, from wherever they are. -/
theorem TagsRise.of_fewer
    (tagsRise : broker.TagsRise)
    (accepted : broker'.accepted = broker.accepted)
    (backlogs : ∀ queue, (broker'.backlog queue).Sublist (broker.backlog queue))
    (buffers : ∀ stream, (broker'.buffer stream).Sublist (broker.buffer stream)) :
    broker'.TagsRise where
  backlogs queue := by
    rw [accepted]
    exact (tagsRise.backlogs queue).sublist (backlogs queue)
  buffers stream := by
    rw [accepted]
    exact (tagsRise.buffers stream).sublist (buffers stream)

theorem TagsRise.keepsMessages
    (tagsRise : broker.TagsRise)
    (keeps : broker.KeepsMessages broker') :
    broker'.TagsRise := by
  refine tagsRise.of_fewer keeps.accepted (fun queue => ?_) fun stream => ?_
  · rw [keeps.backlog]
  · rw [buffer_of_feeds keeps.feeds]

theorem TagsRise.deletes
    (tagsRise : broker.TagsRise)
    (deletes : broker.Deletes broker' queue) :
    broker'.TagsRise := by
  refine tagsRise.of_fewer deletes.accepted (fun name => ?_) fun stream => ?_
  · rw [deletes.backlog]
    split
    · exact List.nil_sublist _
    · exact .refl _
  · rw [buffer_of_feeds deletes.feeds]

theorem TagsRise.registers
    (tagsRise : broker.TagsRise)
    (registers : broker.Registers broker' queue tag stream) :
    broker'.TagsRise := by
  constructor
  case backlogs =>
    intro name
    rw [registers.accepted, registers.backlog]
    split
    · exact .nil _
    · exact tagsRise.backlogs name
  case buffers =>
    intro other
    rw [registers.accepted]
    by_cases same : other = stream
    · rw [same, registers.buffer_self]
      exact tagsRise.backlogs queue
    · rw [registers.buffer_other same]
      exact tagsRise.buffers other

theorem TagsRise.accepts
    {delivery : Delivery}
    (tagsRise : broker.TagsRise)
    (accepts : broker.Accepts broker' delivery) :
    broker'.TagsRise := by
  have isNext := accepts.tag
  rcases accepts.goes with ⟨consumer, hands⟩ | stores
  · constructor
    case backlogs =>
      intro name
      rw [accepts.accepted, hands.backlog]
      exact (tagsRise.backlogs name).raise
    case buffers =>
      intro other
      rw [accepts.accepted]
      by_cases same : other = consumer.stream
      · rw [same, hands.buffer_self]
        exact (tagsRise.buffers consumer.stream).concat isNext
      · rw [hands.buffer_other same]
        exact (tagsRise.buffers other).raise
  · constructor
    case backlogs =>
      intro name
      rw [accepts.accepted, stores.backlog]
      split
      · exact (tagsRise.backlogs name).concat isNext
      · exact (tagsRise.backlogs name).raise
    case buffers =>
      intro other
      rw [accepts.accepted, buffer_of_feeds stores.feeds]
      exact (tagsRise.buffers other).raise

/-- A stream may be left with less than was in there. -/
theorem TagsRise.modifyFeed
    (tagsRise : broker.TagsRise)
    {change : Feed → Feed}
    (takes :
      ∀ feed,
        broker.feed? stream = some feed → (change feed).buffer.Sublist (broker.buffer stream)) :
    (broker.modifyFeed stream change).TagsRise := by
  refine tagsRise.of_fewer rfl (fun _ => .refl _) fun other => ?_
  by_cases same : other = stream
  · subst same
    rw [buffer, feed?_modifyFeed_self]
    cases found : broker.feed? other with
    | none => exact List.nil_sublist _
    | some feed => exact takes feed found
  · rw [buffer_modifyFeed_other _ same]

end

end Broker

namespace Network

theorem tagsRise_exchange
    {network : Network}
    {place : Nat}
    {operation : Operation}
    {standing : Standing}
    {request : Request}
    {next : request.Answer → Program (Outcome operation.Value)}
    (underway : network.Underway place operation standing (.ask request next))
    (tagsRise : network.broker.TagsRise)
    (givesNothingUp : ∀ stream, request ≠ .release stream) :
    (network.exchange place operation standing request next).broker.TagsRise := by
  have turn := underway.turn givesNothingUp
  rw [exchange_eq next givesNothingUp]
  dsimp only
  cases turn with
  | quiet tells keeps stays => exact tagsRise.keepsMessages keeps
  | publishes queue properties body tells accepts stays noArrival => exact tagsRise.accepts accepts
  | deletes queue tells isDeletion deletes streams abandoned noArrival =>
      exact tagsRise.deletes deletes
  | consumes queue stream tells registers isSource free streams abandoned noArrival =>
      exact tagsRise.registers registers
  | closes tells replaces keeps streams abandoned noArrival => exact tagsRise.keepsMessages keeps
  | takes queue stream delivery rest tells awaits isStream shape isBroker streams abandoned
      noArrival arrival =>
      rw [isBroker]
      refine tagsRise.modifyFeed fun feed found => ?_
      rw [shape]
      exact List.sublist_cons_self delivery rest
  | ceases queue stream arrival tells awaits isStream undelivered shape fed isBroker streams
      abandoned noArrival isArrival =>
      rw [isBroker]
      exact tagsRise

/-- In all small steps tags rise wherever messages wait. -/
theorem keeps_tagsRise :
    Keeps (fun _ => True) Anything fun network => network.broker.TagsRise where
  joined _ _ _ _ _ _ tagsRise dialed _ _ :=
    tagsRise.keepsMessages (Broker.keepsMessages_dial dialed)
  started _ _ _ _ _ _ tagsRise _ _ := tagsRise
  exchanged _ _ _ _ _ _ underway _ tagsRise givesNothingUp :=
    tagsRise_exchange underway tagsRise givesNothingUp
  dropped _ _ _ _ _ _ _ tagsRise := tagsRise.modifyFeed fun _ _ => List.nil_sublist _
  finished _ _ _ _ _ _ _ tagsRise := tagsRise
  leaving _ _ _ _ _ tagsRise _ _ := tagsRise
  disturbed network disturbance _ _ tagsRise _ := by
    rcases network.broker.disturb_cases disturbance with ⟨keeps, -⟩ | ⟨_, _, _, -, accepts⟩
    · exact tagsRise.keepsMessages keeps
    · exact tagsRise.accepts accepts

theorem tagsRise_run (arbitration : Arbitration) (moves : List Move) :
    ((start arbitration).run moves).broker.TagsRise := by
  refine (keeps_tagsRise.run (by simp [AtRest, start]) ⟨?_, ?_⟩ fun _ _ => trivial).2
  · exact fun queue => .nil _
  · exact fun stream => .nil _

end Network

/-! ## Tags that are found once -/

/-- In backlogs that are kept in order of their queues a message is found under its own queue. -/
theorem Dictionary.count_flatMap
    {backlogs : Dictionary (List Delivery)}
    (rising : Rising backlogs)
    (placed : ∀ entry ∈ backlogs, ∀ delivery ∈ entry.2, delivery.routingKey = entry.1)
    (delivery : Delivery) :
    (backlogs.flatMap Prod.snd).count delivery =
      ((backlogs.get? delivery.routingKey).getD []).count delivery := by
  induction backlogs with
  | nil => rfl
  | cons entry rest inductionHypothesis =>
      have inRest :=
        inductionHypothesis (List.pairwise_cons.mp rising).2 fun other member =>
          placed other (List.mem_cons_of_mem entry member)
      rw [List.flatMap_cons, List.count_append, inRest]
      by_cases isQueue : entry.1 = delivery.routingKey
      · rw [← isQueue, get?_tail_eq_none rising]
        simp [get?]
      · have notThere : delivery ∉ entry.2 := fun member =>
          isQueue (placed entry List.mem_cons_self delivery member).symm
        rw [List.count_eq_zero.mpr notThere]
        simp [get?, isQueue]

namespace Broker

/-- All deliveries that wait in backlogs. -/
def stored (broker : Broker) : List Delivery :=
  broker.queues.flatMap Prod.snd

end Broker

namespace Network

/-- What waits with the broker, and what was handed out. -/
def extant (network : Network) : List Delivery :=
  network.broker.stored ++ network.broker.buffered ++
    (Event.handedOut network.log).map fun entry => entry.2.2

variable {network : Network}

/-- What waits or was handed out is found there no more often than it was accepted. -/
theorem count_extant_le
    (atRest : network.AtRest)
    (sound : network.Sound)
    (dealt : network.Dealt)
    (balanced : ∀ queue, network.Balanced queue)
    (supplied : network.broker.Supplied)
    (delivery : Delivery) :
    network.extant.count delivery ≤ (Event.accepted network.log).count delivery := by
  have stored :
      network.broker.stored.count delivery =
        (network.broker.backlog delivery.routingKey).count delivery := by
    refine Dictionary.count_flatMap supplied.rising (fun entry member other waits => ?_) delivery
    refine sound.holding.stored entry.1 other ?_
    rw [Broker.backlog, Dictionary.get?_of_mem supplied.rising member]
    exact waits
  have handedOut :
      ((Event.handedOut network.log).map fun entry => entry.2.2).count delivery ≤
        goneFrom network.log delivery := by
    rw [← ((arrivals_perm_handedOut atRest dealt).map _).count_eq, goneFrom]
    exact Nat.le_add_right _ _
  have atMostOnce := (balanced delivery.routingKey).atMostOnce delivery rfl
  rw [Broker.waiting, ← stored] at atMostOnce
  rw [extant, List.count_append, List.count_append]
  omega

/-- Different messages have different tags, and each is found once. -/
theorem nodup_tags_extant
    (counted :
      ∀ delivery,
        network.extant.count delivery ≤ (Event.accepted network.log).count delivery) :
    (network.extant.map Delivery.tag).Nodup := by
  have isAccepted {delivery : Delivery} (member : delivery ∈ network.extant) :
      delivery ∈ Event.accepted network.log :=
    List.count_pos_iff.mp
      (Nat.lt_of_lt_of_le (List.count_pos_iff.mpr member) (counted delivery))
  have once : network.extant.Nodup := by
    refine List.nodup_iff_count_le_one.mpr fun delivery => ?_
    exact Nat.le_trans (counted delivery)
      (List.nodup_iff_count_le_one.mp (Event.nodup_accepted network.log) delivery)
  refine once.map_on fun first isFirst second isSecond same => ?_
  exact List.inj_on_of_nodup_map (Event.nodup_tags_accepted network.log) (isAccepted isFirst)
    (isAccepted isSecond) same

end Network

/-! ## Queues that are published to -/

namespace Client

variable {client : Client} {broker : Broker} {drawnIds : Nat}

theorem failWith_attains (message : Outgoing) (error : ClientError) :
    (client.failWith message error).Attains (fun ended _ => ended.1 ≠ .ok ()) broker drawnIds := by
  intro isOk
  cases isOk

/-- Where a message is sent its queue exists. -/
theorem send_attains
    (supplied : broker.Supplied)
    (tracing : Tracing)
    (queue : String)
    (message : Outgoing)
    (body : List UInt8) :
    (client.send tracing queue message body).Attains
      (fun ended after => ended.1 = .ok () → after.queueExists queue = true) broker drawnIds := by
  refine Program.attains_request (MessageId.ofNat drawnIds) broker rfl rfl fun drawnIds => ?_
  split
  · intro isOk
    cases isOk
  · next channel isHeld =>
      dsimp only
      generalize Properties.outgoing tracing Codec.contentType _ = properties
      let publication := Publication.toQueue queue body properties
      rcases Broker.onChannel_cases channel (.ok (), broker.publish publication) with
        performed | performed
      · refine Program.attains_call performed fun drawnIds _ => ?_
        exact supplied.queueExists_publish publication
      · refine Program.attains_call performed fun drawnIds => ?_
        exact (failWith_attains message _).mono fun _ _ fails isOk => absurd isOk fails

theorem publish_attains
    (supplied : broker.Supplied)
    (tracing : Tracing)
    (queue : String)
    (message : Outgoing) :
    (client.publish tracing queue message).Attains
      (fun ended after => ended.1 = .ok () → after.queueExists queue = true) broker drawnIds := by
  have declaring :
      (client.declare (.new queue)).Attains (fun _ after => after.Supplied) broker drawnIds :=
    Program.attains_of_kept
      (fun network request => (Network.keepsQueues_brokerAfter network request).supplied) _ supplied
      drawnIds
  have sending :
      (client.sendDeclared tracing queue message).Attains
        (fun ended after => ended.1 = .ok () → after.queueExists queue = true) broker drawnIds := by
    refine declaring.bind ?_
    rintro ⟨outcome, declared⟩ between drawnIds supplied
    cases outcome with
    | error error =>
        intro isOk
        cases isOk
    | ok value =>
        dsimp only
        split
        · exact send_attains supplied tracing queue message _
        · exact (failWith_attains message _).mono fun _ _ fails isOk => absurd isOk fails
  exact sending.bind fun _ _ _ isFit => isFit

end Client

namespace Network

variable {network : Network} {place : Nat}

/-- When a publication has succeeded its queue exists. -/
theorem queueExists_of_published
    (supplied : network.broker.Supplied)
    {tracing : Tracing}
    {queue : String}
    {message : Outgoing}
    {told : List Event}
    (succeeds :
      (network.step (.start place (.publish tracing queue message))).log =
        network.log ++ told ++ [.finished place (.publish tracing queue message) (.ok ())]) :
    (network.step (.start place (.publish tracing queue message))).broker.queueExists queue =
      true := by
  by_cases isIdle : ∃ client, network.parties[place]? = some (.idle client)
  · obtain ⟨client, idle⟩ := isIdle
    obtain ⟨toldThen, ended, after, drawnIds, isDone, isFit⟩ :=
      @step_start_of_attains network place (.publish tracing queue message) client _ idle rfl
        (Client.publish_attains supplied tracing queue message)
    rw [isDone] at succeeds ⊢
    have isOk : ended.1 = .ok () := by
      have isLast := List.singleton_inj.mp (List.append_inj' succeeds rfl).2
      exact eq_of_heq (Event.finished.inj isLast).2.2
    exact isFit isOk
  · -- Nobody is there to publish, so nothing is told.
    have nothing : network.step (.start place (.publish tracing queue message)) = network := by
      dsimp only [step]
      split
      · next client idle => exact absurd ⟨client, idle⟩ isIdle
      · rfl
    rw [nothing] at succeeds
    have tooLong := congrArg List.length succeeds
    simp at tooLong

/--
The broker's books are in order: whoever is registered takes from a queue that exists, the count is
that of the messages that were published or pushed, no tag is found twice in all backlogs, streams
and deliveries that were handed out, and tags rise in every backlog and in every stream.
-/
structure Accounted (network : Network) : Prop where
  supplied : ∀ entry ∈ network.broker.consumers, network.broker.queueExists entry.2.queue = true
  counted : network.broker.accepted = (network.log.filterMap Event.message?).length
  distinct : (network.extant.map Delivery.tag).Nodup
  backlogs : ∀ queue, ((network.broker.backlog queue).map Delivery.tag).Pairwise (· < ·)
  buffers : ∀ stream, ((network.broker.buffer stream).map Delivery.tag).Pairwise (· < ·)

/--
In every run, whatever the parties do and whatever happens to the broker, its books are in order.
Behind each publication that has succeeded and behind each message that was pushed the queue exists,
be the message with a consumer or in the backlog, and whoever has deleted the queue before.
-/
theorem accounted_run (arbitration : Arbitration) (moves : List Move) :
    let network := (start arbitration).run moves
    network.Accounted ∧
      (∀ place tracing queue message told,
        let after := network.step (.start place (.publish tracing queue message))
        after.log =
            network.log ++ told ++ [.finished place (.publish tracing queue message) (.ok ())] →
          after.broker.queueExists queue = true) ∧
        ∀ queue body,
          (network.step (.disturb (.pushRaw queue body))).broker.queueExists queue = true := by
  intro network
  obtain ⟨atRest, sound⟩ := sound_run arbitration moves
  have supplied : network.broker.Supplied := supplied_run arbitration moves
  have tagsRise : network.broker.TagsRise := tagsRise_run arbitration moves
  have counted (delivery : Delivery) :=
    count_extant_le atRest sound (dealt_run arbitration moves) (balanced_run arbitration moves)
      supplied delivery
  refine ⟨⟨supplied.consumers, ?_, nodup_tags_extant counted, ?_, ?_⟩, ?_, ?_⟩
  · exact sound.counted.trans (Event.length_accepted network.log)
  · exact fun queue => (tagsRise.backlogs queue).rising
  · exact fun stream => (tagsRise.buffers stream).rising
  · exact fun place tracing queue message told succeeds =>
      queueExists_of_published supplied succeeds
  · exact fun queue body => supplied.queueExists_accept queue .none body

/-- A queue that its publisher knows, and that somebody else has deleted, is there again. -/
theorem exists_after_publishing_again :
    let network := (start .byConsumerTag).run redeclared
    let publish := Operation.publish ⟨.silent, none⟩ "jobs" ⟨.ok [0x31], "1"⟩
    let after := network.step (.start 0 publish)
    knowingClient.hasQueue "jobs" = true ∧
      network.parties[0]? = some (.idle knowingClient) ∧
        network.broker.queueExists "jobs" = false ∧
          after.log =
              network.log ++ (after.log.drop network.log.length).dropLast ++
                [.finished 0 publish (.ok ())] ∧
            after.broker.queueExists "jobs" = true := by
  intro network publish after
  have succeeds :
      after.log =
        network.log ++ (after.log.drop network.log.length).dropLast ++
          [.finished 0 publish (.ok ())] :=
    rfl
  exact ⟨rfl, rfl, rfl, succeeds,
    (accounted_run .byConsumerTag redeclared).2.1 0 ⟨.silent, none⟩ "jobs" ⟨.ok [0x31], "1"⟩ _
      succeeds⟩

end Network

end BrokerClient
