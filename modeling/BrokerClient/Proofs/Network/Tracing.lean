import BrokerClient.Proofs.Client.Tracing
import BrokerClient.Proofs.Network.Once
import BrokerClient.Proofs.Network.Settling
import BrokerClient.Session.Step

/-!
# Trace contexts across the broker

What operations ask of the transport is told in the log, and each tells only what its program asks.
So a publish tells of the message that it composes.  The broker gives the message a tag and keeps
it as it is; what a receive hands out under that tag is the message, with the headers that were
written, from which the receiver reads the sender's bag.
-/

namespace BrokerClient

namespace Program

/-- Every program asks something or other. -/
theorem meets_only_anything (program : Program α) :
    program.Meets (.only fun _ => True) (fun _ _ => True) () := by
  induction program with
  | done value => trivial
  | ask request next inductionHypothesis =>
      exact ⟨trivial, fun answer => inductionHypothesis answer⟩

end Program

namespace Network

/-! ## What operations tell -/

/--
What is told that operations asked is allowed to them, and so is what is left of the operations that
parties are in the middle of.
-/
structure Asks (allowed : Operation → Request → Prop) (network : Network) : Prop where
  told :
    ∀ place operation exchange,
      Event.asked place operation exchange ∈ network.log → allowed operation exchange.request
  ahead :
    ∀ (place : Nat) (operation : Operation) standing rest,
      network.parties[place]? = some (.busy operation standing rest) →
        rest.Meets (.only (allowed operation)) (fun _ _ => True) ()

variable {allowed : Operation → Request → Prop} {network : Network}

/-- A party takes a place, and what it has ahead is allowed. -/
theorem Asks.reseat
    {place : Nat}
    {party : Party}
    (asks : network.Asks allowed)
    (ahead :
      ∀ operation standing rest,
        party = .busy operation standing rest →
          rest.Meets (.only (allowed operation)) (fun _ _ => True) ())
    (broker : Broker)
    (drawnIds : Nat) :
    Asks allowed ⟨broker, drawnIds, network.parties.set place party, network.log⟩ where
  told := asks.told
  ahead other operation standing rest seated := by
    rcases seated_set seated with ⟨-, isParty⟩ | ⟨-, wasSeated⟩
    · exact ahead operation standing rest isParty.symm
    · exact asks.ahead other operation standing rest wasSeated

/-- Something is told that is allowed. -/
theorem Asks.tell
    (asks : network.Asks allowed)
    (event : Event)
    (isAllowed :
      ∀ place operation exchange,
        event = .asked place operation exchange → allowed operation exchange.request) :
    Asks allowed { network with log := network.log ++ [event] } where
  told place operation exchange member := by
    rcases List.mem_append.mp member with wasTold | isLast
    · exact asks.told place operation exchange wasTold
    · exact isAllowed place operation exchange (List.mem_singleton.mp isLast).symm
  ahead := asks.ahead

/-- What all programs of operations are allowed, all that is told of operations is. -/
theorem keeps_asks
    (programs :
      ∀ (operation : Operation) (client : Client),
        (operation.program client).Meets (.only (allowed operation)) (fun _ _ => True) ()) :
    Keeps (fun _ => True) Anything (Asks allowed) where
  joined network connection broker client _ _ asks _ _ _ := by
    have told := asks.tell (.joined connection) (by simp)
    refine ⟨told.told, fun place operation standing rest seated => ?_⟩
    rcases seated_concat seated with wasSeated | ⟨-, isLast⟩
    · exact asks.ahead place operation standing rest wasSeated
    · cases isLast
  started network place client operation _ _ asks _ _ := by
    refine asks.reseat (fun other standing rest isParty => ?_) _ _
    cases isParty
    exact programs operation client
  exchanged network place operation standing request next underway _ asks givesNothingUp := by
    have met := asks.ahead place operation standing _ underway.seated
    rw [exchange_eq next givesNothingUp]
    have told :=
      asks.tell (.asked place operation ⟨request, network.answer request⟩) fun _ _ _ same => by
        cases same
        exact met.1
    refine told.reseat (fun other found rest isParty => ?_) _ _
    cases isParty
    exact met.2 _
  dropped network place party stream party' givesUp _ asks := by
    have told := asks.tell (.gaveUp place stream (network.broker.buffer stream)) (by simp)
    refine told.reseat (fun operation standing rest isParty => ?_) _ _
    cases givesUp.drops with
    | busy =>
        have met := asks.ahead place _ _ _ givesUp.seated
        cases isParty
        exact met.2 ()
    | gone => cases isParty
  finished network place operation standing ended underway _ asks := by
    have told := asks.tell (.finished place operation ended.1) (by simp)
    exact told.reseat (fun _ _ _ isParty => by cases isParty) _ _
  leaving network place party _ _ asks _ _ := by
    have told := asks.tell (.leaving place) (by simp)
    exact told.reseat (fun _ _ _ isParty => by cases isParty) _ _
  disturbed network disturbance _ _ asks _ := by
    have told := asks.tell (.disturbed disturbance) (by simp)
    exact ⟨told.told, asks.ahead⟩

/-- What an operation may publish: a publish its message, and no other operation anything else. -/
def Composes : Operation → Request → Prop
  | .publish tracing queue message => Request.Composes tracing queue message
  | _ => fun _ => True

theorem asks_run (arbitration : Arbitration) (moves : List Move) :
    ((start arbitration).run moves).Asks Composes := by
  have programs (operation : Operation) (client : Client) :
      (operation.program client).Meets (.only (Composes operation)) (fun _ _ => True) () := by
    cases operation with
    | publish tracing queue message => exact Client.publish_composes
    | _ => exact Program.meets_only_anything _
  have asks : (start arbitration).Asks Composes := ⟨by simp [start], by simp [start]⟩
  exact ((keeps_asks programs).run (by simp [AtRest, start]) asks fun _ _ => trivial).2

/-! ## From the publish to the receive -/

/-- What was handed out was accepted, for the queue that it was received from. -/
theorem accepted_of_handedOut
    {arbitration : Arbitration}
    {moves : List Move}
    {place : Nat}
    {queue : String}
    {delivery : Delivery}
    (handedOut : (place, queue, delivery) ∈ Event.handedOut ((start arbitration).run moves).log) :
    delivery ∈ Event.accepted ((start arbitration).run moves).log ∧
      delivery.routingKey = queue := by
  have handing :=
    arrivals_perm_handedOut (sound_run arbitration moves).1 (dealt_run arbitration moves)
  have arrived := handing.mem_iff.mpr handedOut
  exact ⟨accepted_of_arrival (balanced_run arbitration moves) arrived,
    addressed_run arbitration moves place queue delivery arrived⟩

/-- The message that is accepted with an event has the next tag, and nothing else has. -/
theorem accepted_with
    {before after : List Event}
    {event : Event}
    {queue : String}
    {properties : Properties}
    {body : List UInt8}
    {delivery : Delivery}
    (isMessage : event.message? = some (queue, properties, body))
    (accepted : delivery ∈ Event.accepted (before ++ event :: after))
    (sameTag : delivery.tag = (Event.accepted before).length + 1) :
    delivery =
      Broker.message ((Event.accepted before).length + 1) queue properties body := by
  obtain ⟨index, below, rfl⟩ := List.mem_mapIdx.mp accepted
  have isIndex : index = (before.filterMap Event.message?).length := by
    rw [← Event.length_accepted]
    exact Nat.add_right_cancel sameTag
  subst isIndex
  have found :
      ((before ++ event :: after).filterMap Event.message?)[
          (before.filterMap Event.message?).length] = (queue, properties, body) := by
    simp [List.filterMap_append, isMessage]
  rw [found, Event.length_accepted]

/--
A delivery has the properties that a message was sent with, and shows the bag of its sender to every
receiver whose contexts travel.  Looking at its context leaves a session, with all deliveries, as it
was.
-/
structure Retains
    (pairs : List (String × String))
    (properties : Properties)
    (delivery : Delivery) : Prop where
  properties : delivery.properties = properties
  shows : ∀ names current, (delivery.traceContext ⟨.lookingFor names, current⟩).Shows pairs
  looking :
    ∀ (session : Session) names index,
      session.propagator = .lookingFor names →
        session.received[index]? = some delivery →
          ∃ context,
            session.step (.trace index) = (.trace context, session) ∧ context.Shows pairs

/-- What has the headers that carry a bag retains it. -/
theorem retains_of_carries
    {pairs : List (String × String)}
    {properties : Properties}
    {delivery : Delivery}
    {headers : HeaderTable}
    (carries : Carrier.Carries pairs headers)
    (isHeaders : properties.headers = some headers)
    (isSent : delivery.properties = properties) :
    Retains pairs properties delivery := by
  have shows (names : List String) (current : TraceContext) :
      (delivery.traceContext ⟨.lookingFor names, current⟩).Shows pairs := by
    rw [Delivery.traceContext, Properties.traceContext, isSent, isHeaders]
    exact carries.extract_shows names current
  refine ⟨isSent, shows, fun session names index travels isReceived => ?_⟩
  refine ⟨delivery.traceContext ⟨.lookingFor names, none⟩, ?_, shows names none⟩
  simp only [Session.step, isReceived, travels]

/--
The bag that is current where a message is published is carried by the headers of the message.  If
the broker accepts the message, then whatever a receive ever hands out under its tag comes from its
queue and retains the bag.
-/
theorem context_survives
    (arbitration : Arbitration)
    (moves : List Move)
    (pairs : List (String × String))
    {names : List String}
    {queue : String}
    {message : Outgoing}
    {place : Nat}
    {channel : Channel}
    {publication : Publication}
    {answer : Except TransportError Unit}
    {before after : List Event}
    (published :
      ((start arbitration).run moves).log =
        before ++
          .asked place (.publish ⟨.lookingFor names, some (Bag.ofPairs pairs)⟩ queue message)
            ⟨.transport (.publish channel publication), answer⟩ :: after) :
    (∃ headers,
        publication.properties.headers = some headers ∧ Carrier.Carries pairs headers) ∧
      (answer = .ok () →
        ∀ receiver source delivery,
          (receiver, source, delivery) ∈ Event.handedOut ((start arbitration).run moves).log →
            delivery.tag = (Event.accepted before).length + 1 →
              source = queue ∧ Retains pairs publication.properties delivery) := by
  have isTold :
      Event.asked place (.publish ⟨.lookingFor names, some (Bag.ofPairs pairs)⟩ queue message)
          ⟨.transport (.publish channel publication), answer⟩ ∈
        ((start arbitration).run moves).log := by
    simp [published]
  obtain ⟨body, messageId, isBody, rfl⟩ := (asks_run arbitration moves).told _ _ _ isTold
  have carries := Carrier.carries_setAll pairs
  refine ⟨⟨_, rfl, carries⟩, ?_⟩
  intro isAccepted receiver source delivery handedOut sameTag
  subst isAccepted
  obtain ⟨accepted, isSource⟩ := accepted_of_handedOut handedOut
  rw [published] at accepted
  obtain rfl := accepted_with rfl accepted sameTag
  exact ⟨isSource.symm, retains_of_carries carries rfl rfl⟩

/-! ## A run -/

/-- Two pairs whose names differ only in case. -/
def colliding : List (String × String) :=
  [("A", "1"), ("a", "2")]

/-- A publish where the pairs are current. -/
def sending : Operation :=
  .publish ⟨.textMap, some (Bag.ofPairs colliding)⟩ "jobs" ⟨.ok [1], "one"⟩

/-- A party publishes and receives. -/
def correspondence : List Move :=
  [.join "worker" (.new "memory"),
    .start 0 .reset,
    .start 0 sending,
    .start 0 (.receive "jobs" Except.ok),
    .resume 0]

/-- The message that is sent. -/
def sent : Publication :=
  .toQueue "jobs" [1]
    (.outgoing ⟨.textMap, some (Bag.ofPairs colliding)⟩ Codec.contentType (.ofNat 0))

/-- The client before it receives. -/
def sender : Client where
  lastError := none
  channel := some ⟨1, 0⟩
  connection := ⟨1, 0⟩
  url := "memory"
  consumerId := "worker"
  options := .default
  queues := [("jobs", ⟨"jobs", 0, 0⟩)]
  streams := []

theorem log_correspondence :
    ((start .byConsumerTag).run correspondence).log =
      [.joined ⟨1, 0⟩,
        .asked 0 .reset ⟨.isClosed ⟨1, 0⟩, false⟩,
        .asked 0 .reset ⟨.transport (.openChannel ⟨1, 0⟩), .ok ⟨1, 0⟩⟩,
        .finished 0 .reset (.ok ()),
        .asked 0 sending
          ⟨.transport (.declare ⟨1, 0⟩ "jobs" (QueueDefinition.new "jobs").flags []),
            .ok ⟨"jobs", 0, 0⟩⟩,
        .asked 0 sending ⟨.freshId, .ofNat 0⟩] ++
      .asked 0 sending ⟨.transport (.publish ⟨1, 0⟩ sent), .ok ()⟩ ::
        [.finished 0 sending (.ok ()),
          .asked 0 (.receive "jobs" Except.ok) ⟨.transport (.qos ⟨1, 0⟩ 1 false), .ok ()⟩,
          .asked 0 (.receive "jobs" Except.ok)
            ⟨.transport (.consume ⟨1, 0⟩ "jobs" "worker" Client.consumeFlags), .ok ⟨0⟩⟩,
          .asked 0 (.receive "jobs" Except.ok)
            ⟨.next ⟨0⟩ (.ofSeconds 10),
              .item (.ok (Broker.message 1 "jobs" sent.properties [1]))⟩,
          .finished 0 (.receive "jobs" Except.ok)
            (.ok (Broker.message 1 "jobs" sent.properties [1], [1]))] := by
  have opened :
      ((start .byConsumerTag).run (correspondence.take 3)).parties[0]? = some (.idle sender) := rfl
  change
    ((((start .byConsumerTag).run (correspondence.take 3)).step
      (.start 0 (.receive "jobs" Except.ok))).run (correspondence.drop 4)).log = _
  rw [step_receive opened rfl, Client.registerConsumer_eq]
  rfl

/-- Of two pairs whose names collide the receiver reads the second. -/
theorem context_survives_collision :
    (0, "jobs", Broker.message 1 "jobs" sent.properties [1]) ∈
        Event.handedOut ((start .byConsumerTag).run correspondence).log ∧
      Retains colliding sent.properties (Broker.message 1 "jobs" sent.properties [1]) ∧
        Bag.lastText? colliding "a" = some "2" := by
  have handedOut :
      (0, "jobs", Broker.message 1 "jobs" sent.properties [1]) ∈
        Event.handedOut ((start .byConsumerTag).run correspondence).log := by
    rw [log_correspondence]
    exact List.mem_singleton.mpr rfl
  have survives := (context_survives .byConsumerTag correspondence colliding log_correspondence).2
  refine ⟨handedOut, (survives rfl _ _ _ handedOut rfl).2, ?_⟩
  decide +kernel

end Network

end BrokerClient
