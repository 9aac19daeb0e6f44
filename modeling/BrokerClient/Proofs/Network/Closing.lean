import BrokerClient.Proofs.Network.Conservation
import BrokerClient.Proofs.Network.Consumers

/-!
# What reaches a stream

A message that the broker accepts goes into a stream that is open already exactly if the stream is
held and its consumer is asked first.  Whether it is can be read from the log up to then.  Closing a
client is none of the events that end its consumers, so its streams are reached by what is accepted
behind that as by what was accepted before.
-/

namespace BrokerClient

namespace Broker

variable {broker : Broker} {stream : Stream} {delivery : Delivery}

/--
A message that is accepted waits in the stream of the consumer that is asked first, if that one is
held, and what else waits in streams stays there.
-/
theorem mem_buffer_accept_iff (queue : String) (properties : Properties) (body : List UInt8) :
    delivery ∈ (broker.accept queue properties body).buffer stream ↔
      delivery ∈ broker.buffer stream ∨
        delivery = message (broker.accepted + 1) queue properties body ∧
          broker.asked? queue = some ⟨queue, stream⟩ ∧ broker.IsHeld stream := by
  by_cases live : ∃ consumer, broker.asked? queue = some consumer ∧ broker.IsHeld consumer.stream
  · obtain ⟨⟨name, fed⟩, asked, held⟩ := live
    obtain rfl : name = queue := queue_of_consumerAmong? asked
    have hands := hands_accept asked held properties body
    by_cases same : stream = fed
    · subst same
      simp [hands.buffer_self, asked, held]
    · simp [hands.buffer_other same, asked, Ne.symm same]
  · have stores :=
      stores_accept (fun consumer asked held => live ⟨consumer, asked, held⟩) properties body
    rw [buffer_of_feeds stores.feeds]
    refine ⟨.inl, fun waits => waits.elim id ?_⟩
    rintro ⟨-, asked, held⟩
    exact absurd ⟨_, asked, held⟩ live

/-- What is published goes where it goes when it is accepted otherwise. -/
theorem placed_publish (publication : Publication) :
    let accepted :=
      broker.accept publication.routingKey publication.properties publication.body
    (broker.publish publication).feeds = accepted.feeds ∧
      (broker.publish publication).queues = accepted.queues := by
  unfold publish accept route routeAmong
  dsimp only [candidates]
  split
  · exact ⟨rfl, rfl⟩
  · simp only [apply_ite Broker.feeds, apply_ite Broker.queues]
    exact ⟨rfl, rfl⟩

/-- A call that the log tells a message of has had the broker accept it. -/
theorem placed_perform_of_message
    {call : Call}
    {place : Nat}
    {operation : Operation}
    {queue : String}
    {properties : Properties}
    {body : List UInt8}
    (isMessage :
      (Event.asked place operation ⟨.transport call, (broker.perform call).1⟩).message? =
        some (queue, properties, body)) :
    (broker.perform call).2.feeds = (broker.accept queue properties body).feeds ∧
      (broker.perform call).2.queues = (broker.accept queue properties body).queues := by
  cases call with
  | publish channel publication =>
      simp only [perform, onChannel] at isMessage ⊢
      split
      · next usable =>
          rw [if_pos usable] at isMessage
          cases isMessage
          exact placed_publish publication
      · next unusable =>
          rw [if_neg unusable] at isMessage
          cases isMessage
  | _ => cases isMessage

end Broker

namespace Event

/-- A delivery leaves a stream: the stream yields it, or the delivery is lost with the stream. -/
def TakesOut (stream : Stream) (delivery : Delivery) (event : Event) : Prop :=
  (∃ place operation timeout,
      event = .asked place operation ⟨.next stream timeout, .item (.ok delivery)⟩) ∨
    ∃ place unread, event = .gaveUp place stream unread ∧ delivery ∈ unread

/-- Of what is asked only a wait takes a delivery out of a stream. -/
theorem not_takesOut_asked
    {place : Nat}
    {operation : Operation}
    {exchange : Exchange}
    (asksOther : ∀ stream timeout, exchange.request ≠ .next stream timeout)
    (stream : Stream)
    (delivery : Delivery) :
    ¬ (Event.asked place operation exchange).TakesOut stream delivery := by
  rintro (⟨_, _, timeout, isNext⟩ | ⟨_, _, isGaveUp, -⟩)
  · cases isNext
    exact asksOther stream timeout rfl
  · cases isGaveUp

theorem takesOut_yield_iff
    {place : Nat}
    {operation : Operation}
    {stream other : Stream}
    {timeout : Duration}
    {delivery found : Delivery} :
    (Event.asked place operation ⟨.next stream timeout, .item (.ok delivery)⟩).TakesOut other
        found ↔
      stream = other ∧ delivery = found := by
  constructor
  · rintro (⟨_, _, _, isNext⟩ | ⟨_, _, isGaveUp, -⟩)
    · cases isNext
      exact ⟨rfl, rfl⟩
    · cases isGaveUp
  · rintro ⟨rfl, rfl⟩
    exact .inl ⟨place, operation, timeout, rfl⟩

theorem takesOut_gaveUp_iff
    {place : Nat}
    {stream other : Stream}
    {unread : List Delivery}
    {found : Delivery} :
    (Event.gaveUp place stream unread).TakesOut other found ↔ stream = other ∧ found ∈ unread := by
  constructor
  · rintro (⟨_, _, _, isNext⟩ | ⟨_, _, isGaveUp, member⟩)
    · cases isNext
    · cases isGaveUp
      exact ⟨rfl, member⟩
  · rintro ⟨rfl, member⟩
    exact .inr ⟨place, unread, rfl, member⟩

/-- The consumer that is asked for the next message to a queue. -/
def asked? (arbitration : Arbitration) (log : List Event) (queue : String) : Option Consumer :=
  Broker.consumerAmong?
    (arbitration.order ((accepted log).length + 1) ((roster log).map Prod.snd)) queue

/-- No consumer is asked exactly if none is registered on the queue. -/
theorem asked?_eq_none_iff {arbitration : Arbitration} {log : List Event} {queue : String} :
    asked? arbitration log queue = none ↔ ∀ entry ∈ roster log, entry.2.queue ≠ queue := by
  simp only [asked?, Broker.consumerAmong?, List.find?_eq_none, (arbitration.perm _ _).mem_iff,
    List.forall_mem_map, decide_eq_true_eq, ne_eq]

/-- The consumer that is asked is a registered one of the queue. -/
theorem registered_of_asked?
    {arbitration : Arbitration}
    {log : List Event}
    {queue : String}
    {consumer : Consumer}
    (isAsked : asked? arbitration log queue = some consumer) :
    ∃ entry ∈ roster log, entry.2 = consumer ∧ entry.2.queue = queue := by
  have considered := (arbitration.perm _ _).mem_iff.mp (List.mem_of_find?_eq_some isAsked)
  obtain ⟨entry, member, rfl⟩ := List.mem_map.mp considered
  exact ⟨entry, member, rfl, Broker.queue_of_consumerAmong? isAsked⟩

/-- The message that is accepted next. -/
def upcoming
    (log : List Event)
    (queue : String)
    (properties : Properties)
    (body : List UInt8) :
    Delivery :=
  Broker.message ((accepted log).length + 1) queue properties body

/-- Behind a message that was accepted more messages are counted than before it. -/
theorem length_accepted_lt
    {before after : List Event}
    {event : Event}
    {message : String × Properties × List UInt8}
    (isMessage : event.message? = some message) :
    (accepted before).length < (accepted (before ++ event :: after)).length := by
  simp only [length_accepted, List.filterMap_append, List.filterMap_cons, isMessage,
    List.length_append, List.length_cons]
  omega

end Event

namespace Network

/-- A delivery has come into a stream: it waits there, or it has left the stream. -/
def Reached (network : Network) (stream : Stream) (delivery : Delivery) : Prop :=
  delivery ∈ network.broker.buffer stream ∨
    ∃ event ∈ network.log, event.TakesOut stream delivery

/-- Every message that was accepted has reached just the stream that was asked for it and held. -/
structure Delivers (arbitration : Arbitration) (network : Network) : Prop where
  counted :
    ∀ event ∈ network.log, ∀ stream delivery,
      event.TakesOut stream delivery → delivery.tag ≤ network.broker.accepted
  reached :
    ∀ before event after queue properties body (stream : Stream),
      network.log = before ++ event :: after →
        event.message? = some (queue, properties, body) →
          stream.number < (Event.registrations before).length →
            (network.Reached stream (Event.upcoming before queue properties body) ↔
              Event.asked? arbitration before queue = some ⟨queue, stream⟩ ∧
                Event.HeldIn before stream)

variable {network : Network} {arbitration : Arbitration}

/-- What waits in a stream was accepted. -/
theorem tag_le_of_waits
    (sound : network.Sound)
    (balanced : ∀ queue, network.Balanced queue)
    {stream : Stream}
    {delivery : Delivery}
    (waits : delivery ∈ network.broker.buffer stream) :
    delivery.tag ≤ network.broker.accepted := by
  have isBuffered : delivery ∈ network.broker.buffered :=
    Broker.mem_buffered_iff.mpr ⟨stream, waits⟩
  have atMostOnce := (balanced delivery.routingKey).atMostOnce delivery rfl
  have isAccepted : delivery ∈ Event.accepted network.log := by
    refine List.count_pos_iff.mp ?_
    have positive := List.count_pos_iff.mpr isBuffered
    simp only [Broker.waiting] at atMostOnce
    omega
  have isTag : delivery.tag ∈ (Event.accepted network.log).map Delivery.tag :=
    List.mem_map_of_mem isAccepted
  rw [Event.map_tag_accepted, ← sound.counted] at isTag
  obtain ⟨index, below, isIndex⟩ := List.mem_map.mp isTag
  have := List.mem_range.mp below
  omega

/--
Something happens of which the log tells.  Of what was accepted before, no stream that is open loses
or gains anything but what leaves it with the event; a message that is accepted goes into the stream
that is asked for it, if that one is held.
-/
theorem Delivers.tell
    (delivers : network.Delivers arbitration)
    (sound : network.Sound)
    (balanced : ∀ queue, network.Balanced queue)
    (event : Event)
    (broker : Broker)
    (grows : network.broker.accepted ≤ broker.accepted)
    (takesOut :
      ∀ stream delivery, event.TakesOut stream delivery →
        delivery ∈ network.broker.buffer stream)
    (stays :
      ∀ (stream : Stream) (delivery : Delivery),
        stream.number < (Event.registrations network.log).length →
          delivery.tag ≤ network.broker.accepted →
            (delivery ∈ broker.buffer stream ∨ event.TakesOut stream delivery ↔
              delivery ∈ network.broker.buffer stream))
    (goesIn :
      ∀ queue properties body (stream : Stream),
        event.message? = some (queue, properties, body) →
          stream.number < (Event.registrations network.log).length →
            (Event.upcoming network.log queue properties body ∈ broker.buffer stream ↔
              Event.asked? arbitration network.log queue = some ⟨queue, stream⟩ ∧
                Event.HeldIn network.log stream))
    (drawnIds : Nat)
    (parties : List Party) :
    Delivers arbitration ⟨broker, drawnIds, parties, network.log ++ [event]⟩ where
  counted other member stream delivery takes := by
    rcases List.mem_append.mp member with wasTold | isLast
    · exact Nat.le_trans (delivers.counted other wasTold stream delivery takes) grows
    · obtain rfl := List.mem_singleton.mp isLast
      exact Nat.le_trans (tag_le_of_waits sound balanced (takesOut stream delivery takes)) grows
  reached before other after queue properties body stream split isMessage opened := by
    rcases Event.split_concat split with ⟨rfl, rfl⟩ | ⟨after, split⟩
    · -- The message is new, so it has not left any stream.
      rw [← goesIn queue properties body stream isMessage opened]
      have tooNew :
          ¬ (Event.upcoming network.log queue properties body).tag ≤ network.broker.accepted := by
        rw [sound.counted]
        exact Nat.not_succ_le_self _
      refine ⟨fun reached => reached.resolve_right ?_, .inl⟩
      rintro ⟨told, member, takes⟩
      rcases List.mem_append.mp member with wasTold | isLast
      · exact tooNew (delivers.counted told wasTold stream _ takes)
      · obtain rfl := List.mem_singleton.mp isLast
        exact tooNew (tag_le_of_waits sound balanced (takesOut stream _ takes))
    · have isAccepted :
          (Event.upcoming before queue properties body).tag ≤ network.broker.accepted := by
        rw [sound.counted, split]
        exact Event.length_accepted_lt isMessage
      have isOpened : stream.number < (Event.registrations network.log).length := by
        rw [split, Event.registrations, List.filterMap_append, List.length_append]
        exact Nat.lt_of_lt_of_le opened (Nat.le_add_right _ _)
      have moves := stays stream _ isOpened isAccepted
      rw [← delivers.reached before other after queue properties body stream split isMessage opened]
      simp only [Reached, ← moves, List.mem_append, List.mem_singleton]
      constructor
      · rintro (waits | ⟨told, wasTold | rfl, takes⟩)
        · exact .inl (.inl waits)
        · exact .inr ⟨told, wasTold, takes⟩
        · exact .inl (.inr takes)
      · rintro ((waits | takes) | ⟨told, wasTold, takes⟩)
        · exact .inl waits
        · exact .inr ⟨event, .inr rfl, takes⟩
        · exact .inr ⟨told, .inl wasTold, takes⟩

/-- What else is known along a run while messages are delivered. -/
def Orderly (arbitration : Arbitration) (network : Network) : Prop :=
  (network.Sound ∧ ∀ queue, network.Balanced queue) ∧ network.Enrolled arbitration

theorem Orderly.sound (orderly : network.Orderly arbitration) : network.Sound :=
  orderly.1.1

theorem Orderly.balanced (orderly : network.Orderly arbitration) (queue : String) :
    network.Balanced queue :=
  orderly.1.2 queue

theorem Orderly.enrolled (orderly : network.Orderly arbitration) : network.Enrolled arbitration :=
  orderly.2

/-- The log tells which consumer is asked next. -/
theorem Orderly.asked?_eq (orderly : network.Orderly arbitration) (queue : String) :
    network.broker.asked? queue = Event.asked? arbitration network.log queue := by
  simp only [Broker.asked?, Event.asked?, Broker.candidates, orderly.enrolled.arbitration,
    orderly.enrolled.roster, orderly.sound.counted]

/-- An event that moves no message changes nothing about what was delivered. -/
theorem Delivers.of_none
    (delivers : network.Delivers arbitration)
    (orderly : network.Orderly arbitration)
    {event : Event}
    {broker : Broker}
    (noMessage : event.message? = none)
    (keepsIn : ∀ stream delivery, ¬ event.TakesOut stream delivery)
    (accepted : broker.accepted = network.broker.accepted)
    (feeds : broker.feeds = network.broker.feeds)
    (drawnIds : Nat)
    (parties : List Party) :
    Delivers arbitration ⟨broker, drawnIds, parties, network.log ++ [event]⟩ := by
  refine delivers.tell orderly.sound orderly.balanced event broker (Nat.le_of_eq accepted.symm)
    (fun stream delivery takes => absurd takes (keepsIn stream delivery)) ?_ ?_ drawnIds parties
  · intro stream delivery _ _
    simp [keepsIn stream delivery, Broker.buffer_of_feeds feeds]
  · intro queue properties body stream isMessage
    cases noMessage.symm.trans isMessage

/-- A message that is accepted goes into the stream that is asked for it, if that one is held. -/
theorem upcoming_mem_buffer_iff
    (orderly : network.Orderly arbitration)
    (queue : String)
    (properties : Properties)
    (body : List UInt8)
    (stream : Stream) :
    Event.upcoming network.log queue properties body ∈
        (network.broker.accept queue properties body).buffer stream ↔
      Event.asked? arbitration network.log queue = some ⟨queue, stream⟩ ∧
        Event.HeldIn network.log stream := by
  have tooNew :
      Event.upcoming network.log queue properties body ∉ network.broker.buffer stream := by
    intro waits
    have isCounted := tag_le_of_waits orderly.sound orderly.balanced waits
    rw [orderly.sound.counted] at isCounted
    exact Nat.not_succ_le_self _ isCounted
  rw [Broker.mem_buffer_accept_iff, or_iff_right tooNew, ← orderly.enrolled.held,
    orderly.asked?_eq]
  simp only [Event.upcoming, orderly.sound.counted, true_and]

/-- A message that is accepted leaves what was accepted before where it is. -/
theorem Delivers.accepts
    (delivers : network.Delivers arbitration)
    (orderly : network.Orderly arbitration)
    {event : Event}
    {queue : String}
    {properties : Properties}
    {body : List UInt8}
    {broker : Broker}
    (isMessage : event.message? = some (queue, properties, body))
    (keepsIn : ∀ stream delivery, ¬ event.TakesOut stream delivery)
    (accepted : broker.accepted = network.broker.accepted + 1)
    (feeds : broker.feeds = (network.broker.accept queue properties body).feeds)
    (drawnIds : Nat)
    (parties : List Party) :
    Delivers arbitration ⟨broker, drawnIds, parties, network.log ++ [event]⟩ := by
  refine delivers.tell orderly.sound orderly.balanced event broker (by omega)
    (fun stream delivery takes => absurd takes (keepsIn stream delivery)) ?_ ?_ drawnIds parties
  · intro stream delivery _ isAccepted
    have notNew :
        delivery ≠ Broker.message (network.broker.accepted + 1) queue properties body := by
      rintro rfl
      exact Nat.not_succ_le_self _ isAccepted
    rw [Broker.buffer_of_feeds feeds, Broker.mem_buffer_accept_iff]
    simp [keepsIn stream delivery, notNew]
  · intro queue' properties' body' stream isMessage' _
    cases isMessage.symm.trans isMessage'
    rw [Broker.buffer_of_feeds feeds]
    exact upcoming_mem_buffer_iff orderly queue properties body stream

/-- A registration leaves the other streams as they are, and the new one was not open before. -/
theorem Delivers.opens
    (delivers : network.Delivers arbitration)
    (orderly : network.Orderly arbitration)
    {event : Event}
    {broker : Broker}
    {queue tag : String}
    {opened : Stream}
    (noMessage : event.message? = none)
    (keepsIn : ∀ stream delivery, ¬ event.TakesOut stream delivery)
    (registers : network.broker.Registers broker queue tag opened)
    (drawnIds : Nat)
    (parties : List Party) :
    Delivers arbitration ⟨broker, drawnIds, parties, network.log ++ [event]⟩ := by
  refine delivers.tell orderly.sound orderly.balanced event broker
    (Nat.le_of_eq registers.accepted.symm)
    (fun stream delivery takes => absurd takes (keepsIn stream delivery)) ?_ ?_ drawnIds parties
  · intro stream delivery isOpened _
    have differs : stream ≠ opened := by
      rintro rfl
      rw [orderly.sound.holding.counted, registers.isStream] at isOpened
      exact Nat.lt_irrefl _ isOpened
    simp [keepsIn stream delivery, registers.buffer_other differs]
  · intro queue properties body stream isMessage
    cases noMessage.symm.trans isMessage

/-- What a stream yields leaves it, and all else stays. -/
theorem Delivers.yields
    (delivers : network.Delivers arbitration)
    (orderly : network.Orderly arbitration)
    {stream : Stream}
    {delivery : Delivery}
    {rest : List Delivery}
    (shape : network.broker.buffer stream = delivery :: rest)
    (place : Nat)
    (operation : Operation)
    (timeout : Duration)
    (drawnIds : Nat)
    (parties : List Party) :
    let yielding := Event.asked place operation ⟨.next stream timeout, .item (.ok delivery)⟩
    Delivers arbitration
      { broker := network.broker.modifyFeed stream fun feed => { feed with buffer := rest }
        drawnIds := drawnIds
        parties := parties
        log := network.log ++ [yielding] } := by
  intro yielding
  have held : network.broker.IsHeld stream := by
    refine Classical.byContradiction fun notHeld => ?_
    rw [orderly.sound.holding.unheld stream notHeld] at shape
    cases shape
  let taken := network.broker.modifyFeed stream fun feed => { feed with buffer := rest }
  refine delivers.tell orderly.sound orderly.balanced yielding taken (Nat.le_refl _) ?_ ?_ ?_ _ _
  · intro other found takes
    obtain ⟨rfl, rfl⟩ := Event.takesOut_yield_iff.mp takes
    simp [shape]
  · intro other found _ _
    rw [Event.takesOut_yield_iff]
    by_cases same : other = stream
    · subst same
      rw [Broker.buffer_modifyFeed_self held fun _ => rest, shape]
      simp [or_comm, eq_comm]
    · rw [Broker.buffer_modifyFeed_other _ same]
      simp [Ne.symm same]
  · intro queue properties body other isMessage
    cases isMessage

theorem delivers_exchange
    {place : Nat}
    {operation : Operation}
    {standing : Standing}
    {request : Request}
    {next : request.Answer → Program (Outcome operation.Value)}
    (underway : network.Underway place operation standing (.ask request next))
    (orderly : network.Orderly arbitration)
    (delivers : network.Delivers arbitration)
    (givesNothingUp : ∀ stream, request ≠ .release stream) :
    (network.exchange place operation standing request next).Delivers arbitration := by
  have turn := underway.turn givesNothingUp
  rw [exchange_eq next givesNothingUp]
  cases request with
  | release stream => exact absurd rfl (givesNothingUp stream)
  | transport call =>
      have keepsIn (stream : Stream) (delivery : Delivery) :
          ¬ (Event.asked place operation
            ⟨.transport call, network.answer (.transport call)⟩).TakesOut stream delivery :=
        Event.not_takesOut_asked (by simp) stream delivery
      cases turn with
      | quiet tells keeps stays =>
          exact delivers.of_none orderly tells.message keepsIn keeps.accepted keeps.feeds _ _
      | publishes queue properties body tells accepts stays noArrival =>
          exact delivers.accepts orderly tells.message keepsIn accepts.accepted
            (Broker.placed_perform_of_message tells.message).1 _ _
      | deletes queue tells isDeletion deletes streams abandoned noArrival =>
          exact delivers.of_none orderly tells.message keepsIn deletes.accepted deletes.feeds _ _
      | closes tells replaces keeps streams abandoned noArrival =>
          exact delivers.of_none orderly tells.message keepsIn keeps.accepted keeps.feeds _ _
      | takes queue stream delivery rest tells => cases tells.arrival
      | ceases queue stream arrival tells awaits isStream undelivered shape fed isBroker =>
          rw [isBroker]
          exact delivers.of_none orderly tells.message keepsIn rfl rfl _ _
      | consumes queue opened tells registers isSource free streams abandoned noArrival =>
          exact delivers.opens orderly tells.message keepsIn registers _ _
  | next stream timeout =>
      cases polled : network.broker.poll stream with
      | item delivery broker =>
          obtain ⟨rest, shape, rfl⟩ := Broker.poll_item polled
          simp only [answer, brokerAfter, polled]
          exact delivers.yields orderly shape place operation timeout _ _
      | ended =>
          simp only [answer, brokerAfter, polled]
          exact delivers.of_none orderly rfl (by simp [Event.TakesOut]) rfl rfl _ _
      | pending =>
          simp only [answer, brokerAfter, polled]
          exact delivers.of_none orderly rfl (by simp [Event.TakesOut]) rfl rfl _ _
  | isClosed | sleep | describe | freshId =>
      exact delivers.of_none orderly rfl (Event.not_takesOut_asked (by simp)) rfl rfl _ _

/-- All small steps keep what was accepted where it was sent. -/
theorem keeps_delivers (arbitration : Arbitration) :
    Keeps (fun _ => True) (Orderly arbitration) (Delivers arbitration) where
  joined network connection broker client _ orderly delivers dialed _ _ := by
    have keeps := Broker.keepsMessages_dial dialed
    exact delivers.of_none orderly rfl (by simp [Event.TakesOut]) keeps.accepted keeps.feeds _ _
  started _ _ _ _ _ _ delivers _ _ := ⟨delivers.1, delivers.2⟩
  exchanged _ _ _ _ _ _ underway orderly delivers givesNothingUp :=
    delivers_exchange underway orderly delivers givesNothingUp
  dropped network place party stream party' _ orderly delivers := by
    refine
      delivers.tell orderly.sound orderly.balanced
        (.gaveUp place stream (network.broker.buffer stream)) (network.broker.release stream)
        (Nat.le_refl _) ?_ ?_ ?_ _ _
    · intro other delivery takes
      obtain ⟨rfl, waits⟩ := Event.takesOut_gaveUp_iff.mp takes
      exact waits
    · intro other delivery _ _
      rw [Event.takesOut_gaveUp_iff]
      by_cases same : other = stream
      · subst same
        simp [Broker.buffer_release_self]
      · simp [Broker.buffer_release_other same, Ne.symm same]
    · intro queue properties body other isMessage
      cases isMessage
  finished _ _ _ _ _ _ orderly delivers :=
    delivers.of_none orderly rfl (by simp [Event.TakesOut]) rfl rfl _ _
  leaving _ _ _ _ orderly delivers _ _ :=
    delivers.of_none orderly rfl (by simp [Event.TakesOut]) rfl rfl _ _
  disturbed network disturbance _ orderly delivers _ := by
    have keepsIn (stream : Stream) (delivery : Delivery) :
        ¬ (Event.disturbed disturbance).TakesOut stream delivery := by
      simp [Event.TakesOut]
    rcases network.broker.disturb_cases disturbance with
      ⟨keeps, noMessage⟩ | ⟨queue, properties, body, isMessage, accepts⟩
    · exact delivers.of_none orderly noMessage keepsIn keeps.accepted keeps.feeds _ _
    · refine delivers.accepts orderly isMessage keepsIn accepts.accepted ?_ _ _
      cases disturbance <;> cases isMessage
      rfl

/-- All small steps keep this known. -/
theorem keeps_orderly (arbitration : Arbitration) :
    Keeps (fun _ => True) Anything (Orderly arbitration) :=
  (keeps_sound.and (.forall keeps_balanced)).and
    ((keeps_enrolled arbitration).assuming fun _ known => known.1)

theorem orderly_run (arbitration : Arbitration) (moves : List Move) :
    ((start arbitration).run moves).Orderly arbitration :=
  ⟨⟨(sound_run arbitration moves).2, balanced_run arbitration moves⟩,
    enrolled_run arbitration moves⟩

theorem delivers_run (arbitration : Arbitration) (moves : List Move) :
    ((start arbitration).run moves).Delivers arbitration := by
  have orderly : (start arbitration).Orderly arbitration := orderly_run arbitration []
  have delivers : (start arbitration).Delivers arbitration := by
    refine ⟨by simp [start], ?_⟩
    intro before event after queue properties body stream split
    simp [start] at split
  exact
    (((keeps_orderly arbitration).and (keeps_delivers arbitration)).run (by simp [AtRest, start])
      ⟨orderly, delivers⟩ fun _ _ => trivial).2.2

/-- Behind its registration a stream is open. -/
theorem Enrolled.opened_of_registers
    (enrolled : network.Enrolled arbitration)
    {opened after : List Event}
    {event : Event}
    {tag : String}
    {consumer : Consumer}
    (split : network.log = opened ++ event :: after)
    (isChange : event.rosterChange? = some (.registers tag consumer))
    (since : List Event) :
    consumer.stream.number < (Event.registrations (opened ++ event :: since)).length := by
  obtain ⟨place, isRegistration⟩ := Event.registration?_of_registers isChange
  have isStream := enrolled.numbered opened event after tag consumer split isChange
  simp only [isStream, Event.registrations, List.filterMap_append, List.filterMap_cons,
    isRegistration, List.length_append, List.length_cons]
  omega

/-- A stream is held from its registration on, as long as it is not given up. -/
theorem Enrolled.heldIn_iff
    (enrolled : network.Enrolled arbitration)
    {opened since after : List Event}
    {event : Event}
    {tag : String}
    {consumer : Consumer}
    (split : network.log = opened ++ event :: (since ++ after))
    (isChange : event.rosterChange? = some (.registers tag consumer)) :
    Event.HeldIn (opened ++ event :: since) consumer.stream ↔
      ∀ other ∈ since, ¬ other.GivesUp consumer.stream := by
  have isStream :=
    enrolled.numbered opened event (since ++ after) tag consumer split isChange
  have notBefore (other : Event) (member : other ∈ opened) : ¬ other.GivesUp consumer.stream := by
    intro givesUp
    obtain ⟨first, rest, rfl⟩ := List.append_of_mem member
    have splitFirst : network.log = first ++ other :: (rest ++ event :: (since ++ after)) := by
      simp [split]
    have below := enrolled.givenUp first other _ consumer.stream splitFirst givesUp
    rw [isStream, Event.registrations, Event.registrations, List.filterMap_append,
      List.length_append] at below
    omega
  have notNow : ¬ event.GivesUp consumer.stream := by
    rintro ⟨_, _, rfl⟩
    cases isChange
  constructor
  · intro held other member
    exact held.2 other (by simp [member])
  · intro kept
    refine ⟨enrolled.opened_of_registers split isChange since, fun other member => ?_⟩
    rcases List.mem_append.mp member with before | behind
    · exact notBefore other before
    · rcases List.mem_cons.mp behind with rfl | later
      · exact notNow
      · exact kept other later

/-- The consumer that is asked is one that was registered, and nothing has ended it since. -/
theorem Enrolled.lasts_of_asked
    (enrolled : network.Enrolled arbitration)
    {opened since after : List Event}
    {event : Event}
    {tag queue name : String}
    {stream : Stream}
    (split : network.log = opened ++ event :: (since ++ after))
    (isChange : event.rosterChange? = some (.registers tag ⟨queue, stream⟩))
    (asked :
      Event.asked? arbitration (opened ++ event :: since) name = some ⟨name, stream⟩) :
    name = queue ∧ ∀ other ∈ since, ¬ other.EndsConsumer tag queue := by
  obtain ⟨⟨found, consumer⟩, onRoster, rfl, -⟩ := Event.registered_of_asked? asked
  obtain ⟨before, other, rest, splitRoster, isChange'⟩ := Event.registered_of_mem_roster onRoster
  have split' : network.log = before ++ other :: (rest ++ after) := by
    rw [split, ← List.cons_append, ← List.append_assoc, splitRoster]
    simp
  obtain ⟨rfl, rfl⟩ := enrolled.registered_once split split' isChange isChange' rfl
  cases isChange.symm.trans isChange'
  exact ⟨rfl, (enrolled.mem_roster_iff split isChange).mp onRoster⟩

/-- The only consumer of a queue is asked for its messages. -/
theorem asked?_of_sole
    {log : List Event}
    {tag queue : String}
    {stream : Stream}
    (onRoster : (tag, ⟨queue, stream⟩) ∈ Event.roster log)
    (sole : ∀ entry ∈ Event.roster log, entry.2.queue = queue → entry.2 = ⟨queue, stream⟩) :
    Event.asked? arbitration log queue = some ⟨queue, stream⟩ := by
  cases asked : Event.asked? arbitration log queue with
  | none => exact absurd rfl (Event.asked?_eq_none_iff.mp asked _ onRoster)
  | some consumer =>
      obtain ⟨entry, member, rfl, isQueue⟩ := Event.registered_of_asked? asked
      rw [sole entry member isQueue]

section

variable {opened since after : List Event} {registering accepting : Event}
variable {tag queue name : String} {stream : Stream} {properties : Properties} {body : List UInt8}

/-- A consumer and its stream last: neither is the consumer ended nor the stream given up. -/
def Lasts (tag queue : String) (stream : Stream) (since : List Event) : Prop :=
  ∀ event ∈ since, ¬ event.EndsConsumer tag queue ∧ ¬ event.GivesUp stream

/-- A consumer that was registered lasts if it is on the roster and its stream is held. -/
theorem Enrolled.lasts_iff
    (enrolled : network.Enrolled arbitration)
    (split : network.log = opened ++ registering :: (since ++ after))
    (registers : registering.rosterChange? = some (.registers tag ⟨queue, stream⟩)) :
    Lasts tag queue stream since ↔
      (tag, ⟨queue, stream⟩) ∈ Event.roster (opened ++ registering :: since) ∧
        Event.HeldIn (opened ++ registering :: since) stream := by
  rw [enrolled.mem_roster_iff split registers, enrolled.heldIn_iff split registers]
  simp only [Lasts, forall_and]

/--
A message reaches a stream that was opened before exactly if the consumer of the stream is asked for
it and the two have lasted until then.
-/
theorem Delivers.reached_iff
    (delivers : network.Delivers arbitration)
    (enrolled : network.Enrolled arbitration)
    (split : network.log = opened ++ registering :: (since ++ accepting :: after))
    (registers : registering.rosterChange? = some (.registers tag ⟨queue, stream⟩))
    (accepts : accepting.message? = some (name, properties, body)) :
    network.Reached stream
        (Event.upcoming (opened ++ registering :: since) name properties body) ↔
      Lasts tag queue stream since ∧
        Event.asked? arbitration (opened ++ registering :: since) name = some ⟨queue, stream⟩ := by
  have reached :=
    delivers.reached (opened ++ registering :: since) accepting after name properties body stream
      (by simp [split]) accepts (enrolled.opened_of_registers split registers since)
  rw [reached, enrolled.lasts_iff split registers]
  constructor
  · rintro ⟨asked, held⟩
    obtain ⟨rfl, outlasts⟩ := enrolled.lasts_of_asked split registers asked
    exact ⟨⟨(enrolled.mem_roster_iff split registers).mpr outlasts, held⟩, asked⟩
  · rintro ⟨⟨-, held⟩, asked⟩
    obtain rfl : queue = name := Broker.queue_of_consumerAmong? asked
    exact ⟨asked, held⟩

end

/--
A client has registered for a queue and closes afterwards, with success.  A message that the broker
accepts behind that reaches the stream of the registration exactly if the consumer is the one that
is asked for the message and neither the consumer was ended nor the stream given up, before the
close or behind it.  The close itself ends nothing, so that the messages of a queue with one
consumer only keep going to the client that has closed.
-/
theorem reached_after_close
    (arbitration : Arbitration)
    (moves : List Move)
    {opened before since after : List Event}
    {accepting : Event}
    {place : Nat}
    {operation : Operation}
    {channel : Channel}
    {queue tag name : String}
    {flags : ConsumeFlags}
    {stream : Stream}
    {properties : Properties}
    {body : List UInt8}
    (split :
      ((start arbitration).run moves).log =
        opened ++
          .asked place operation ⟨.transport (.consume channel queue tag flags), .ok stream⟩ ::
            ((before ++ .finished place .close (.ok ()) :: since) ++ accepting :: after))
    (accepts : accepting.message? = some (name, properties, body)) :
    let told :=
      opened ++
        .asked place operation ⟨.transport (.consume channel queue tag flags), .ok stream⟩ ::
          (before ++ .finished place .close (.ok ()) :: since)
    let message := Event.upcoming told name properties body
    (((start arbitration).run moves).Reached stream message ↔
      Lasts tag queue stream (before ++ since) ∧
        Event.asked? arbitration told name = some ⟨queue, stream⟩) ∧
      (name = queue → Lasts tag queue stream (before ++ since) →
        (∀ entry ∈ Event.roster told, entry.2.queue = queue → entry.2 = ⟨queue, stream⟩) →
          ((start arbitration).run moves).Reached stream message) := by
  intro told message
  have enrolled := enrolled_run arbitration moves
  have endsNothing :
      ¬ (Event.finished place .close (.ok ())).EndsConsumer tag queue ∧
        ¬ (Event.finished place .close (.ok ())).GivesUp stream := by
    constructor
    · rintro ⟨change, isChange, -⟩
      cases isChange
    · rintro ⟨_, _, isGaveUp⟩
      cases isGaveUp
  have lasts :
      Lasts tag queue stream (before ++ .finished place .close (.ok ()) :: since) ↔
        Lasts tag queue stream (before ++ since) := by
    simp only [Lasts, List.forall_mem_append, List.forall_mem_cons]
    exact ⟨fun both => ⟨both.1, both.2.2⟩, fun both => ⟨both.1, endsNothing, both.2⟩⟩
  have reached :
      ((start arbitration).run moves).Reached stream message ↔
        Lasts tag queue stream (before ++ since) ∧
          Event.asked? arbitration told name = some ⟨queue, stream⟩ := by
    rw [← lasts]
    exact (delivers_run arbitration moves).reached_iff enrolled split rfl accepts
  refine ⟨reached, ?_⟩
  rintro rfl outlasts sole
  have onRoster := ((enrolled.lasts_iff split rfl).mp (lasts.mpr outlasts)).1
  exact reached.mpr ⟨outlasts, asked?_of_sole onRoster sole⟩

/-- A client receives a message and closes, and another message is accepted. -/
def closing : List Move :=
  [.join "worker" (.new "memory"),
    .start 0 .reset,
    .disturb (.pushRaw "jobs" [1]),
    .start 0 (.receive "jobs" Except.ok),
    .resume 0,
    .start 0 .close,
    .disturb (.pushRaw "jobs" [2])]

/-- The client before it receives. -/
def openedClient : Client where
  lastError := none
  channel := some ⟨1, 0⟩
  connection := ⟨1, 0⟩
  url := "memory"
  consumerId := "worker"
  options := .default
  queues := []
  streams := []

/-- What is told up to the negotiation of flow control. -/
def toldBefore : List Event :=
  [.joined ⟨1, 0⟩,
    .asked 0 .reset ⟨.isClosed ⟨1, 0⟩, false⟩,
    .asked 0 .reset ⟨.transport (.openChannel ⟨1, 0⟩), .ok ⟨1, 0⟩⟩,
    .finished 0 .reset (.ok ()),
    .disturbed (.pushRaw "jobs" [1]),
    .asked 0 (.receive "jobs" Except.ok) ⟨.transport (.qos ⟨1, 0⟩ 1 false), .ok ()⟩]

/-- What is told between the registration and the end of the close. -/
def toldBetween : List Event :=
  [.asked 0 (.receive "jobs" Except.ok)
      ⟨.next ⟨0⟩ (.ofSeconds 10), .item (.ok (Broker.message 1 "jobs" .none [1]))⟩,
    .finished 0 (.receive "jobs" Except.ok) (.ok (Broker.message 1 "jobs" .none [1], [1])),
    .asked 0 .close ⟨.transport (.closeChannel ⟨1, 0⟩), .ok ()⟩,
    .asked 0 .close ⟨.transport (.closeConnection ⟨1, 0⟩), .ok ()⟩]

theorem log_closing :
    ((start .byConsumerTag).run closing).log =
      toldBefore ++
        .asked 0 (.receive "jobs" Except.ok)
          ⟨.transport (.consume ⟨1, 0⟩ "jobs" "worker" Client.consumeFlags), .ok ⟨0⟩⟩ ::
          ((toldBetween ++ .finished 0 .close (.ok ()) :: []) ++
            .disturbed (.pushRaw "jobs" [2]) :: []) := by
  have opened :
      ((start .byConsumerTag).run (closing.take 3)).parties[0]? = some (.idle openedClient) := rfl
  change
    ((((start .byConsumerTag).run (closing.take 3)).step
      (.start 0 (.receive "jobs" Except.ok))).run (closing.drop 4)).log = _
  rw [step_receive opened rfl, Client.registerConsumer_eq]
  rfl

/-- The message that is accepted behind the close reaches the stream from before it. -/
theorem reached_when_closed :
    (∃ told,
      ((start .byConsumerTag).run closing).log =
        told ++ [.finished 0 .close (.ok ()), .disturbed (.pushRaw "jobs" [2])]) ∧
      ((start .byConsumerTag).run closing).Reached ⟨0⟩ (Broker.message 2 "jobs" .none [2]) := by
  have lasts : Lasts "worker" "jobs" ⟨0⟩ (toldBetween ++ []) := by
    simp [Lasts, toldBetween, Event.EndsConsumer, Event.rosterChange?, Event.GivesUp]
  have sole :
      ∀ entry ∈
        Event.roster
          (toldBefore ++
            .asked 0 (.receive "jobs" Except.ok)
              ⟨.transport (.consume ⟨1, 0⟩ "jobs" "worker" Client.consumeFlags), .ok ⟨0⟩⟩ ::
              (toldBetween ++ .finished 0 .close (.ok ()) :: [])),
        entry.2.queue = "jobs" → entry.2 = ⟨"jobs", ⟨0⟩⟩ := by
    decide +kernel
  refine ⟨⟨((start .byConsumerTag).run closing).log.take 11, ?_⟩, ?_⟩
  · rw [log_closing]
    rfl
  · exact (reached_after_close .byConsumerTag closing log_closing rfl).2 rfl lasts sole

end Network

end BrokerClient
