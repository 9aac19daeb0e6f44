import BrokerClient.Proofs.Network.Noninterference
import BrokerClient.Proofs.Network.Refusals
import BrokerClient.Proofs.Network.RoundTrip

/-!
# What is left for publishing

Publishing never reconnects; it takes the channel that is there.  Where connections hold and nobody
closes a client, a client that has got a channel has one whenever an operation is over.  But it may
be of no use: a receive that has no retry left ends with the channel that it was refused a queue on,
and from then on whatever the client publishes fails.
-/

namespace BrokerClient

/-! ## Clients that have a channel whenever they are idle -/

/-- Every handle stands for itself. -/
def Pairing.same : Pairing :=
  ⟨Eq, Eq⟩

/-- What a client asks just as itself is answered alike, as long as its connection is current. -/
theorem Request.Alike.answers_self
    {network : Network}
    {scope : Scope}
    {request request' : Request}
    {answers : Pairing → request.Answer → request'.Answer → Prop}
    (asked : request.Alike scope .same request' answers)
    (same : request' = request)
    (current : network.broker.generation = scope.generation) :
    answers .same (network.answer request) (network.answer request') := by
  cases asked with
  | @openChannel connection connection' here there =>
      obtain rfl : connection' = connection := by simpa using same
      -- A current connection is the only one that a channel can be opened on.
      let channel : Channel := ⟨network.broker.channelsOpened + 1, connection'.generation⟩
      have opens :
          network.broker.perform (.openChannel connection') =
            (.ok channel, { network.broker with channelsOpened := channel.number }) := by
        simp [Broker.perform, Broker.openChannel, Broker.isClosed, here, current, channel]
      have answered : network.answer (.transport (.openChannel connection')) = .ok channel :=
        congrArg Prod.fst opens
      exact ⟨channel, channel, answered, answered, rfl⟩
  | isClosed here there =>
      have isCurrent
          {connection : Connection}
          (ofScope : connection.generation = scope.generation) :
          network.answer (.isClosed connection) = false := by
        simp [Network.answer, Broker.isClosed, ofScope, current]
      exact ⟨isCurrent here, isCurrent there⟩
  | consume paired named flags =>
      cases paired
      exact .refl (fun _ => rfl) (fun _ => rfl) _
  | next paired timeout =>
      cases paired
      exact .refl _
  | closeConnection | publish =>
      cases same
      rfl
  | qos paired | declare paired | delete paired | cancel paired | closeChannel paired =>
      cases paired
      rfl
  | sleep | release | describe | freshId => trivial

namespace Network

variable {network : Network} {place other : Nat}

/-- The party in a place has left or goes on as itself, on a current connection. -/
def Furnished (network : Network) (place : Nat) : Prop :=
  ∃ party,
    network.parties[place]? = some party ∧
      (party = .gone [] ∨
        ∃ tag, party.Alike ⟨tag, network.broker.generation, Set.univ⟩ .same party)

/-- A party that is furnished and idle has a channel. -/
theorem Furnished.channel
    (furnished : network.Furnished place)
    {client : Client}
    (idle : network.parties[place]? = some (.idle client)) :
    ∃ channel, client.channel = some channel := by
  obtain ⟨party, seated, isAlike⟩ := furnished
  obtain rfl : party = .idle client := Option.some.inj (seated.symm.trans idle)
  rcases isAlike with isGone | ⟨tag, isAlike⟩
  · cases isGone
  · cases isAlike with
    | idle clients =>
        obtain ⟨channel, -, isHeld, -, -⟩ := clients.channel
        exact ⟨channel, isHeld⟩

/-- What happens elsewhere on connections that hold is of no concern. -/
theorem Furnished.elsewhere
    {after : Network}
    (furnished : network.Furnished place)
    (generation : after.broker.generation = network.broker.generation)
    (parties : after.parties[place]? = network.parties[place]?) :
    after.Furnished place := by
  obtain ⟨party, seated, isAlike⟩ := furnished
  exact ⟨party, parties.trans seated, by rwa [generation]⟩

theorem Furnished.seat_elsewhere
    (furnished : network.Furnished place)
    (differs : other ≠ place)
    (party : Party) :
    (network.seat other party).Furnished place :=
  furnished.elsewhere rfl (List.getElem?_set_ne differs)

theorem generation_exchange
    {operation : Operation}
    (standing : Standing)
    (request : Request)
    (next : request.Answer → Program (Outcome operation.Value)) :
    (network.exchange place operation standing request next).broker.generation =
      network.broker.generation := by
  rw [(surroundings_exchange network place standing request next).1]
  exact (closes_brokerAfter (around network.broker network.drawnIds) request).generation

/-- While one party proceeds the connections of the others hold, and they wait. -/
theorem Furnished.proceed_elsewhere
    {operation : Operation}
    {program : Program (Outcome operation.Value)}
    {standing : Standing}
    (furnished : network.Furnished place)
    (differs : other ≠ place) :
    (network.proceed other operation program standing).Furnished place := by
  induction program generalizing network standing with
  | done ended => exact furnished.elsewhere rfl (List.getElem?_set_ne differs)
  | ask request next inductionHypothesis =>
      by_cases waits : request.waits = true
      · rw [proceed_of_waits waits]
        exact furnished
      · rw [proceed_of_not_waits waits]
        refine inductionHypothesis _ (furnished.elsewhere (generation_exchange _ _ _) ?_)
        rw [parties_exchange, List.getElem?_set_ne differs]

/-- A party that proceeds has a channel again when it is idle. -/
theorem furnished_proceed
    {operation : Operation}
    {program : Program (Outcome operation.Value)}
    {standing : Standing}
    (seated : network.parties[place]? = some (.busy operation standing program))
    (tag : String)
    (matched :
      program.Matches ⟨tag, network.broker.generation, Set.univ⟩
        (Outcome.Alike ⟨tag, network.broker.generation, Set.univ⟩ operation.SameValue) .same
        program) :
    (network.proceed place operation program standing).Furnished place := by
  -- What is left of the program matches itself, and every answer is alike to itself.
  induction program generalizing network standing with
  | done ended =>
      cases matched with
      | done ends =>
          exact ⟨_, List.getElem?_set_self (lt_of_seated seated), .inr ⟨tag, .idle ends.clients⟩⟩
  | ask request next inductionHypothesis =>
      by_cases waits : request.waits = true
      · rw [proceed_of_waits waits]
        exact ⟨_, seated, .inr ⟨tag, .busy standing standing matched⟩⟩
      · rw [proceed_of_not_waits waits]
        cases matched with
        | ask asked rest =>
            have generation := @generation_exchange network place operation standing request next
            refine inductionHypothesis _ ?_ ?_
            · rw [parties_exchange, List.getElem?_set_self (lt_of_seated seated)]
            · rw [generation]
              exact rest .same _ _ le_rfl (asked.answers_self rfl rfl)

/-- Giving streams up is of no concern to others. -/
theorem Furnished.giveUp_elsewhere
    {streams : List Stream}
    (furnished : network.Furnished place)
    (differs : other ≠ place) :
    (network.giveUp other streams).Furnished place := by
  induction streams generalizing network with
  | nil => exact furnished
  | cons stream rest inductionHypothesis =>
      exact inductionHypothesis (furnished.elsewhere rfl (List.getElem?_set_ne differs))

/-- A party that has left and given all its streams up is gone. -/
theorem furnished_giveUp
    {streams : List Stream}
    (seated : network.parties[place]? = some (.gone streams)) :
    (network.giveUp place streams).Furnished place := by
  induction streams generalizing network with
  | nil => exact ⟨_, seated, .inl rfl⟩
  | cons stream rest inductionHypothesis =>
      exact inductionHypothesis (List.getElem?_set_self (lt_of_seated seated))

/-- A party that starts an operation has a channel again when it is idle. -/
theorem Furnished.start
    (furnished : network.Furnished place)
    {client : Client}
    (idle : network.parties[place]? = some (.idle client))
    (operation : Operation) :
    (network.step (.start place operation)).Furnished place := by
  obtain ⟨party, seated, isAlike⟩ := furnished
  obtain rfl : party = .idle client := Option.some.inj (seated.symm.trans idle)
  rcases isAlike with isGone | ⟨tag, isAlike⟩
  · cases isGone
  · cases isAlike with
    | idle clients =>
        rw [step_start idle]
        refine furnished_proceed (List.getElem?_set_self (lt_of_seated idle)) tag ?_
        exact operation.program_matches clients fun queue _ => Set.mem_univ queue

/-- A party that goes on with an operation has a channel again when it is idle. -/
theorem Furnished.resume
    (furnished : network.Furnished place)
    {operation : Operation}
    {standing : Standing}
    {request : Request}
    {next : request.Answer → Program (Outcome operation.Value)}
    (busy : network.parties[place]? = some (.busy operation standing (.ask request next))) :
    (network.step (.resume place)).Furnished place := by
  obtain ⟨party, seated, isAlike⟩ := furnished
  obtain rfl := Option.some.inj (seated.symm.trans busy)
  rcases isAlike with isGone | ⟨tag, isAlike⟩
  · cases isGone
  · cases isAlike with
    | busy _ _ matched =>
        cases matched with
        | ask asked rest =>
            have generation := @generation_exchange network place operation standing request next
            rw [step_resume busy]
            refine furnished_proceed ?_ tag ?_
            · rw [parties_exchange, List.getElem?_set_self (lt_of_seated busy)]
            · rw [generation]
              exact rest .same _ _ le_rfl (asked.answers_self rfl rfl)

/-- As long as connections hold no move leaves an idle party without a channel. -/
theorem Furnished.step
    (furnished : network.Furnished place)
    {move : Move}
    (holds : move ≠ .disturb .dropConnections) :
    (network.step move).Furnished place := by
  have taken : place < network.parties.length := by
    obtain ⟨party, seated, -⟩ := furnished
    exact lt_of_seated seated
  cases move with
  | join consumerId endpoint =>
      dsimp only [Network.step]
      split
      · next connection broker dialed =>
          exact furnished.elsewhere (Broker.closes_dial dialed).generation
            (List.getElem?_append_left taken)
      · exact furnished
  | start other operation =>
      dsimp only [Network.step]
      split
      · next client idle =>
          by_cases same : other = place
          · subst same
            rw [← step_start idle]
            exact furnished.start idle operation
          · exact (furnished.seat_elsewhere same _).proceed_elsewhere same
      · exact furnished
  | resume other =>
      dsimp only [Network.step]
      split
      · next operation standing request next busy =>
          by_cases same : other = place
          · subst same
            rw [← step_resume busy]
            exact furnished.resume busy
          · refine (furnished.elsewhere (generation_exchange _ _ _) ?_).proceed_elsewhere same
            rw [parties_exchange, List.getElem?_set_ne same]
      · exact furnished
  | leave other =>
      dsimp only [Network.step]
      split
      · by_cases same : other = place
        · subst same
          exact furnished_giveUp (List.getElem?_set_self taken)
        · have told : (network.tell (.leaving other)).Furnished place :=
            furnished.elsewhere rfl rfl
          exact (told.seat_elsewhere same _).giveUp_elsewhere same
      · exact furnished
  | disturb disturbance =>
      have closes :=
        @Broker.closes_disturb network.broker disturbance fun breaks =>
          holds (congrArg Move.disturb breaks)
      exact furnished.elsewhere closes.generation rfl

theorem Furnished.run
    (furnished : network.Furnished place)
    {moves : List Move}
    (hold : ∀ move ∈ moves, move ≠ .disturb .dropConnections) :
    (network.run moves).Furnished place := by
  induction moves generalizing network with
  | nil => exact furnished
  | cons move rest inductionHypothesis =>
      exact inductionHypothesis (furnished.step (hold move (by simp))) fun other member =>
        hold other (by simp [member])

end Network

/-! ## Publishing on whatever channel is held -/

namespace Client

variable {client : Client} {broker : Broker} {channel : Channel} {queue : String}

/-- On a channel that is not usable nothing is sent. -/
theorem send_course_of_not_isOpen
    (isHeld : client.channel = some channel)
    (unusable : broker.isOpen channel = false)
    (tracing : Tracing)
    (queue : String)
    (message : Outgoing)
    (body : List UInt8)
    (drawnIds : Nat) :
    ∃ history error,
      (client.send tracing queue message body).Course broker drawnIds history
          (.error error, client) broker (drawnIds + 1) ∧
        ∀ exchange ∈ history, exchange.IsPrompt := by
  let properties := Properties.outgoing tracing Codec.contentType (MessageId.ofNat drawnIds)
  let failure := ClientError.publishing queue message.description Broker.channelClosed.message
  have refused :
      broker.perform (.publish channel (.toQueue queue body properties)) =
        (.error Broker.channelClosed, broker) :=
    Broker.onChannel_of_not_isOpen unusable _
  have fails :
      (client.failWith message failure).Course broker (drawnIds + 1) [⟨.describe message, ()⟩]
        (.error failure, client) broker (drawnIds + 1) :=
    .ask (.done _ _ _)
  have sends :
      (client.send tracing queue message body).Course broker drawnIds
        ([⟨.freshId, MessageId.ofNat drawnIds⟩] ++
          ([⟨.transport (.publish channel (.toQueue queue body properties)),
              .error Broker.channelClosed⟩] ++ [⟨.describe message, ()⟩]))
        (.error failure, client) broker (drawnIds + 1) := by
    refine (Program.course_freshId broker drawnIds).bind ?_
    simp only [isHeld]
    exact (Program.course_call refused (drawnIds + 1)).bind fails
  refine ⟨_, failure, sends, ?_⟩
  simp [Exchange.IsPrompt, Request.waits]

/-- Without a usable channel a message is not sent, whether its queue is known or not. -/
theorem sendDeclared_course_of_not_isOpen
    (isHeld : client.channel = some channel)
    (unusable : broker.isOpen channel = false)
    (tracing : Tracing)
    (queue : String)
    {message : Outgoing}
    {body : List UInt8}
    (encoded : message.body = .ok body)
    (drawnIds : Nat) :
    ∃ history error drawnThen,
      (client.sendDeclared tracing queue message).Course broker drawnIds history
          (.error error, client) broker drawnThen ∧
        ∀ exchange ∈ history, exchange.IsPrompt := by
  by_cases known : client.hasQueue (QueueDefinition.new queue).name = true
  · obtain ⟨history, error, fails, prompt⟩ :=
      send_course_of_not_isOpen isHeld unusable tracing queue message body drawnIds
    have declared :
        (client.declare (.new queue)).Course broker drawnIds [] (.ok (), client) broker
          drawnIds := by
      rw [declare, if_pos known]
      exact .done _ _ _
    refine ⟨[] ++ history, error, drawnIds + 1, declared.bind ?_, prompt⟩
    simp only [encoded]
    exact fails
  · have refused :
        broker.perform
            (.declare channel queue (QueueDefinition.new queue).flags
              (QueueDefinition.new queue).arguments) =
          (.error Broker.channelClosed, broker) :=
      Broker.onChannel_of_not_isOpen unusable _
    let failure := ClientError.declareQueue queue Broker.channelClosed.message
    have declared :
        (client.declare (.new queue)).Course broker drawnIds
          [⟨.transport
              (.declare channel queue (QueueDefinition.new queue).flags
                (QueueDefinition.new queue).arguments),
            .error Broker.channelClosed⟩]
          (.error failure, client) broker drawnIds := by
      rw [declare, if_neg known]
      simp only [isHeld]
      exact (Program.course_call refused drawnIds).bind_done rfl
    refine ⟨_, failure, drawnIds, declared.bind_done rfl, ?_⟩
    simp [Exchange.IsPrompt, Request.waits]

/-- Publishing ends at once, and it succeeds exactly on a usable channel. -/
theorem publish_course_of_held
    (isHeld : client.channel = some channel)
    (broker : Broker)
    (tracing : Tracing)
    (queue : String)
    {message : Outgoing}
    {body : List UInt8}
    (encoded : message.body = .ok body)
    (drawnIds : Nat) :
    ∃ history ended after drawnThen,
      (client.publish tracing queue message).Course broker drawnIds history ended after
          drawnThen ∧
        (∀ exchange ∈ history, exchange.IsPrompt) ∧
          (ended.1 = .ok () ↔ broker.isOpen channel = true) := by
  cases usable : broker.isOpen channel with
  | true =>
      obtain ⟨history, queues, declares, stored, properties, sends, prompt, -, -⟩ :=
        sendDeclared_course isHeld usable tracing queue encoded drawnIds
      exact ⟨history, _, _, _, sends.bind_done rfl, prompt, by simp⟩
  | false =>
      obtain ⟨history, error, drawnThen, fails, prompt⟩ :=
        sendDeclared_course_of_not_isOpen isHeld usable tracing queue encoded drawnIds
      exact ⟨history, _, _, _, fails.bind_done rfl, prompt, by simp⟩

end Client

namespace Network

/-- An idle party that publishes is done at once, and it succeeds exactly on a usable channel. -/
theorem publishes_iff_isOpen
    {network : Network}
    {place : Nat}
    {client : Client}
    {channel : Channel}
    (idle : network.parties[place]? = some (.idle client))
    (isHeld : client.channel = some channel)
    (tracing : Tracing)
    (queue : String)
    {message : Outgoing}
    {body : List UInt8}
    (encoded : message.body = .ok body) :
    ∃ told outcome,
      (network.step (.start place (.publish tracing queue message))).log =
          network.log ++ told ++ [.finished place (.publish tracing queue message) outcome] ∧
        (outcome = .ok () ↔ network.broker.isOpen channel = true) := by
  obtain ⟨history, ended, after, drawnThen, course, prompt, isOk_iff⟩ :=
    Client.publish_course_of_held isHeld network.broker tracing queue encoded network.drawnIds
  have performed :
      network.step (.start place (.publish tracing queue message)) =
        network.taking place (.publish tracing queue message) history ended after drawnThen :=
    step_start_of_course idle course prompt
  rw [performed]
  exact ⟨_, ended.1, rfl, isOk_iff⟩

/--
A party connects, and neither does a connection break nor is a client closed, before or afterwards.
Whenever the party is idle it has a channel.  Exactly if no registration was refused on this very
channel because the queue was missing, it is usable, and publishing any message that can be encoded
to any queue succeeds.
-/
theorem publishes_iff_not_refused
    (arbitration : Arbitration)
    (before after : List Move)
    (gentle : ∀ move ∈ before ++ after, move.IsGentle)
    (accepts : ((start arbitration).run before).broker.refusesDials = false)
    (consumerId : String)
    (endpoint : Endpoint)
    {client : Client} :
    let found := (start arbitration).run before
    let place := found.parties.length
    let network := found.run (connecting place consumerId endpoint ++ after)
    network.parties[place]? = some (.idle client) →
      ∃ channel,
        client.channel = some channel ∧
          (network.broker.isOpen channel = true ↔ ¬ Event.Refused channel network.log) ∧
            ∀ tracing queue message body,
              message.body = .ok body →
                ∃ told outcome,
                  (network.step (.start place (.publish tracing queue message))).log =
                      network.log ++ told ++
                        [.finished place (.publish tracing queue message) outcome] ∧
                    (outcome = .ok () ↔ ¬ Event.Refused channel network.log) := by
  intro found place network idle
  have holds (move : Move) (member : move ∈ connecting place consumerId endpoint) :
      move.IsGentle := by
    rcases List.mem_pair.mp member with rfl | rfl
    · exact ⟨by simp, by simp⟩
    · exact ⟨by simp, by simp⟩
  have equipped : network.Equipped := by
    have equipped :=
      @equipped_run arbitration (before ++ (connecting place consumerId endpoint ++ after))
    rw [run_append] at equipped
    refine equipped fun move member => ?_
    simp only [List.mem_append] at member gentle
    rcases member with isBefore | isConnecting | isAfter
    · exact gentle move (.inl isBefore)
    · exact holds move isConnecting
    · exact gentle move (.inr isAfter)
  have furnished : network.Furnished place := by
    have connects :
        found.run (connecting place consumerId endpoint) = found.joinedBy consumerId endpoint :=
      run_connecting accepts consumerId endpoint
    have isAlike := @connected_alike found.broker found.broker
      ⟨consumerId, found.broker.generation, Set.univ⟩ .same rfl rfl rfl endpoint
    have furnishedThen : (found.joinedBy consumerId endpoint).Furnished place :=
      ⟨_, List.getElem?_concat_length, .inr ⟨consumerId, .idle isAlike⟩⟩
    change (found.run (connecting place consumerId endpoint ++ after)).Furnished place
    rw [run_append, connects]
    exact furnishedThen.run fun move member => (gentle move (List.mem_append_right _ member)).1
  obtain ⟨channel, isHeld⟩ := furnished.channel idle
  have isOpen_iff := equipped.isOpen_iff ((channel?_of_seated idle).trans isHeld)
  refine ⟨channel, isHeld, isOpen_iff, fun tracing queue message body encoded => ?_⟩
  obtain ⟨told, outcome, log, isOk_iff⟩ := publishes_iff_isOpen idle isHeld tracing queue encoded
  exact ⟨told, outcome, log, isOk_iff.trans isOpen_iff⟩

/-- Clients of this endpoint do not retry where a queue is missing. -/
def impatient : Endpoint :=
  (Endpoint.new "memory").withOptions
    { Options.default with notFound := RetryPolicy.queueNotFound.withMaxRetries 0 }

/-- The client that was refused a queue. -/
def refusedClient : Client where
  lastError := some (.consumerDeclaration "jobs" "worker" (Broker.noQueue "jobs").message)
  channel := some ⟨1, 0⟩
  connection := ⟨1, 0⟩
  url := "memory"
  consumerId := "worker"
  options := impatient.options
  queues := []
  streams := []

/-- Behind a receive from a queue that is missing all publishing fails. -/
theorem unpublished_after_refusal :
    let missing : List Move := [.start 0 (.receive "jobs" Except.ok)]
    let found := (start .byConsumerTag).run []
    let network := found.run (connecting 0 "worker" impatient ++ missing)
    (∀ move ∈ [] ++ missing, move.IsGentle) ∧
      found.broker.refusesDials = false ∧
        network.parties[0]? = some (.idle refusedClient) ∧
          Event.Refused ⟨1, 0⟩ network.log ∧
            ∀ tracing queue message body,
              message.body = .ok body →
                ∃ told outcome,
                  (network.step (.start 0 (.publish tracing queue message))).log =
                      network.log ++ told ++
                        [.finished 0 (.publish tracing queue message) outcome] ∧
                    outcome ≠ .ok () := by
  intro missing found network
  have gentle : ∀ move ∈ [] ++ missing, move.IsGentle := by
    simp [missing, Move.IsGentle]
  have performed :
      network =
        (found.joinedBy "worker" impatient).step (.start 0 (.receive "jobs" Except.ok)) := by
    have connects :
        found.run (connecting 0 "worker" impatient) = found.joinedBy "worker" impatient :=
      @run_connecting found rfl "worker" impatient
    change found.run (connecting 0 "worker" impatient ++ missing) = _
    rw [run_append, connects]
    rfl
  have ended :
      network.parties[0]? = some (.idle refusedClient) ∧
        network.broker.isOpen ⟨1, 0⟩ = false := by
    have opened :
        (found.joinedBy "worker" impatient).parties[0]? =
          some (.idle { refusedClient with lastError := none }) := rfl
    rw [performed, step_receive opened rfl, Client.registerConsumer_eq]
    exact ⟨rfl, rfl⟩
  obtain ⟨channel, isHeld, isOpen_iff, publishes⟩ :=
    publishes_iff_not_refused .byConsumerTag [] missing gentle rfl "worker" impatient ended.1
  obtain rfl : ⟨1, 0⟩ = channel := Option.some.inj isHeld
  have refused : Event.Refused ⟨1, 0⟩ network.log := by
    by_contra notRefused
    cases (isOpen_iff.mpr notRefused).symm.trans ended.2
  refine ⟨gentle, rfl, ended.1, refused, fun tracing queue message body encoded => ?_⟩
  obtain ⟨told, outcome, log, isOk_iff⟩ := publishes tracing queue message body encoded
  exact ⟨told, outcome, log, fun isOk => isOk_iff.mp isOk refused⟩

end Network

end BrokerClient
