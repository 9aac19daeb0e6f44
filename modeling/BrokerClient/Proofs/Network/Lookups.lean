import BrokerClient.Proofs.Network.Dialing
import BrokerClient.Proofs.Network.Stretch
import BrokerClient.Proofs.Network.Upkeep

/-!
# Looking for a queue that is missing

Two calls need a queue that exists: a passive declaration and a registration.  Where it is missing
both are answered alike, but only the registration costs the channel.  So a client that has looked
for a queue goes on as before, and one that has tried to register has a channel that is of no use,
however often it tries.
-/

namespace BrokerClient

/-- The channel and the queue of a call that needs the queue to exist. -/
def Call.seeks? : Call → Option (Channel × String)
  | .declare channel queue flags _ => if flags.passive then some (channel, queue) else none
  | .consume channel queue _ _ => some (channel, queue)
  | _ => none

namespace Broker

variable {broker after : Broker} {call : Call} {channel : Channel} {queue : String}

/-- The broker after a call in vain: a look is counted, and a registration costs the channel. -/
def missing (broker : Broker) (channel : Channel) (kind : CallKind) : Broker :=
  if kind = .declare then
    { broker with declares := broker.declares + 1 }
  else
    broker.closeChannel channel

/-- A call that needs a queue is made in vain where the queue is missing. -/
theorem perform_of_missing
    (seeks : call.seeks? = some (channel, queue))
    (usable : broker.isOpen channel = true)
    (absent : broker.queues.get? queue = none) :
    broker.perform call = (.error (noQueue queue), broker.missing channel call.kind) := by
  cases call with
  | declare channel' queue' flags arguments =>
      by_cases passive : flags.passive = true
      · obtain ⟨rfl, rfl⟩ : channel' = channel ∧ queue' = queue := by
          simpa [Call.seeks?, passive] using seeks
        rw [perform, onChannel_of_isOpen usable]
        simp [declare, passive, queueExists, Dictionary.contains, absent, missing, Call.kind]
      · simp [Call.seeks?, passive] at seeks
  | consume channel' queue' tag flags =>
      obtain ⟨rfl, rfl⟩ : channel' = channel ∧ queue' = queue := by
        simpa [Call.seeks?] using seeks
      rw [perform, onChannel_of_isOpen usable, consume, absent]
      rfl
  | _ => cases seeks

/-- Nothing else is answered with a name that is unknown. -/
theorem seeks_of_notFound
    {text : String}
    (fails : (broker.perform call).1 = .error (.notFound text)) :
    ∃ channel queue,
      call.seeks? = some (channel, queue) ∧
        broker.isOpen channel = true ∧ broker.queues.get? queue = none := by
  have opened {α : Type} {channel : Channel} {performed : Except TransportError α × Broker}
      (fails : (broker.onChannel channel performed).1 = .error (.notFound text)) :
      broker.isOpen channel = true ∧ performed.1 = .error (.notFound text) := by
    cases usable : broker.isOpen channel with
    | true =>
        rw [onChannel_of_isOpen usable] at fails
        exact ⟨rfl, fails⟩
    | false =>
        rw [onChannel_of_not_isOpen usable] at fails
        cases fails
  cases call with
  | dial url =>
      simp only [perform, dial] at fails
      split at fails <;> cases fails
  | openChannel connection =>
      simp only [perform, openChannel] at fails
      split at fails <;> cases fails
  | closeConnection connection =>
      simp only [perform, closeConnection] at fails
      split at fails <;> cases fails
  | closeChannel channel => cases fails
  | qos | delete | publish | cancel => cases (opened fails).2
  | declare channel queue flags arguments =>
      obtain ⟨usable, refused⟩ := opened fails
      unfold declare at refused
      dsimp only at refused
      split at refused
      · next looks =>
          obtain ⟨passive, absent⟩ : flags.passive = true ∧ broker.queues.get? queue = none := by
            simpa [queueExists, Dictionary.contains] using looks
          exact ⟨channel, queue, by simp [Call.seeks?, passive], usable, absent⟩
      · cases refused
  | consume channel queue tag flags =>
      obtain ⟨usable, refused⟩ := opened fails
      unfold consume at refused
      split at refused
      · next absent => exact ⟨channel, queue, rfl, usable, absent⟩
      · cases refused

/-- A channel survives that a queue is missing exactly if the queue was only looked for. -/
theorem isOpen_missing_iff
    (usable : broker.isOpen channel = true)
    (kind : CallKind) :
    (broker.missing channel kind).isOpen channel = true ↔ kind = .declare := by
  by_cases looks : kind = .declare
  · rw [missing, if_pos looks]
    exact ⟨fun _ => looks, fun _ => usable⟩
  · rw [missing, if_neg looks, isOpen_closeChannel]
    exact ⟨nofun, fun isLook => absurd isLook looks⟩

end Broker

namespace Program

/-- A program behind another one attains what it does where the course of the first ends. -/
theorem Course.bind_attains
    {α β : Type}
    {program : Program α}
    {next : α → Program β}
    {fits : β → Broker → Prop}
    {broker between : Broker}
    {drawnIds drawnBetween : Nat}
    {history : History}
    {middle : α}
    (course : program.Course broker drawnIds history middle between drawnBetween)
    (goesOn : (next middle).Attains fits between drawnBetween) :
    (program >>= next).Attains fits broker drawnIds := by
  change (program.bind next).Attains fits broker drawnIds
  induction course with
  | done middle broker drawnIds => exact goesOn
  | ask rest inductionHypothesis => exact inductionHypothesis goesOn

end Program

namespace Client

/-- An operation that looks for a queue and leaves it to others to declare it. -/
inductive Looks (client : Client) (queue : String) : Operation → Prop where
  | inspecting : client.Looks queue (.inspectQueue queue)
  | ensuring
      {definition : QueueDefinition}
      (named : definition.name = queue)
      (passive : definition.passive = true)
      (unknown : client.hasQueue queue = false) :
      client.Looks queue (.ensureQueue definition)

/-- An operation that begins with a registration on a queue. -/
inductive Applies (client : Client) (queue : String) : Operation → Prop where
  | registering : client.Applies queue (.registerConsumer queue)
  | receiving
      {Content : Type}
      (decode : List UInt8 → Except CodecError Content)
      (free : client.streams.get? queue = none) :
      client.Applies queue (.receive queue decode)

variable {client : Client} {broker : Broker} {queue : String} {channel : Channel}
variable {operation : Operation}

/-- Where a queue is missing a look for it fails at once, and all else stays as it is. -/
theorem looks_course
    (looks : client.Looks queue operation)
    (isHeld : client.channel = some channel)
    (usable : broker.isOpen channel = true)
    (absent : broker.queues.get? queue = none)
    (drawnIds : Nat) :
    let failure := ClientError.declareQueue queue (Broker.noQueue queue).message
    ∃ history,
      (operation.program client).Course broker drawnIds history
          (.error failure, client.setLastError failure)
          { broker with declares := broker.declares + 1 } drawnIds ∧
        ∀ exchange ∈ history, exchange.IsPrompt := by
  intro failure
  let looked := { broker with declares := broker.declares + 1 }
  let look (definition : QueueDefinition) : Call :=
    .declare channel queue definition.flags definition.arguments
  have refused (definition : QueueDefinition) (passive : definition.passive = true) :
      (Program.call (look definition)).Course broker drawnIds
        [⟨.transport (look definition), .error (Broker.noQueue queue)⟩]
        (.error (Broker.noQueue queue)) looked drawnIds := by
    have seeks : (look definition).seeks? = some (channel, queue) := if_pos passive
    exact Program.course_call (Broker.perform_of_missing seeks usable absent) drawnIds
  have prompt (definition : QueueDefinition) (answer : (look definition).Answer) :
      ∀ exchange ∈ ([⟨.transport (look definition), answer⟩] : History), exchange.IsPrompt := by
    simp [Exchange.IsPrompt, Request.waits]
  cases looks with
  | inspecting =>
      let definition := (QueueDefinition.new queue).apply .passive
      have inspected :
          (client.inspect queue).Course broker drawnIds
            [⟨.transport (look definition), .error (Broker.noQueue queue)⟩]
            (.error failure, client) looked drawnIds := by
        simp only [inspect, isHeld]
        exact (refused definition rfl).bind_done rfl
      exact ⟨_, inspected.bind_done rfl, prompt definition _⟩
  | @ensuring definition named passive unknown =>
      subst named
      have declared :
          (client.declare definition).Course broker drawnIds
            [⟨.transport (look definition), .error (Broker.noQueue definition.name)⟩]
            (.error failure, client) looked drawnIds := by
        simp only [declare, unknown, isHeld]
        exact (refused definition passive).bind_done rfl
      exact ⟨_, declared.bind_done rfl, prompt definition _⟩

/-- A client has a usable channel, and its connection is alive. -/
structure Afloat (client : Client) (broker : Broker) (channel : Channel) : Prop where
  isHeld : client.channel = some channel
  usable : broker.isOpen channel = true
  opened : broker.HasOpened channel
  numbered : broker.Numbered
  alive : broker.isClosed client.connection = false

/-- With another channel on its connection a client is afloat again. -/
theorem Afloat.replaced (afloat : client.Afloat broker channel) (feeds : List Feed) :
    (client.withChannel (client.replacement broker)).Afloat (broker.replacing channel feeds)
      (client.replacement broker) where
  isHeld := rfl
  usable := isOpen_replacement afloat.numbered afloat.opened afloat.alive feeds
  opened := Nat.le_refl _
  numbered := (Broker.keepsNumbers_replacing afloat.opened feeds).numbered afloat.numbered
  alive := afloat.alive

/-- A client has failed to register and is left with a channel that is of no use. -/
def Stranded
    {α : Type}
    (consumerId queue : String)
    (ended : Outcome α)
    (after : Broker) : Prop :=
  ended.1 = .error (.consumerDeclaration queue consumerId (Broker.noQueue queue).message) ∧
    ∃ lost, ended.2.channel = some lost ∧ after.isOpen lost = false

/-- Whether a client tries again or not, its last channel is lost where the queue is missing. -/
theorem consumeWithin_attains_of_missing
    (afloat : client.Afloat broker channel)
    (absent : broker.queues.get? queue = none)
    (retries drawnIds : Nat) :
    (consumeWithin queue retries client).Attains (Stranded client.consumerId queue) broker
      drawnIds := by
  induction retries generalizing client broker channel drawnIds with
  | zero =>
      have refused := consume_course_of_missing afloat.isHeld afloat.usable absent drawnIds
      unfold consumeWithin
      refine refused.bind_attains ?_
      exact ⟨rfl, channel, afloat.isHeld, broker.isOpen_closeChannel channel⟩
  | succ remaining inductionHypothesis =>
      have refused := consume_course_of_missing afloat.isHeld afloat.usable absent drawnIds
      unfold consumeWithin
      refine refused.bind_attains ?_
      dsimp only
      split
      · next retriesOn =>
          -- The new channel goes the way of the one before it.
          have stillAlive : (broker.closeChannel channel).isClosed client.connection = false :=
            afloat.alive
          obtain ⟨history, feeds, reopened, -⟩ := reopen_course afloat.isHeld stillAlive drawnIds
          have renewed := afloat.replaced feeds
          refine reopened.bind_attains ?_
          refine Program.attains_request () _ rfl rfl fun drawnIds => ?_
          refine (negotiateQos_course renewed.isHeld renewed.usable queue drawnIds).bind_attains ?_
          exact inductionHypothesis renewed absent drawnIds
      · exact ⟨rfl, channel, afloat.isHeld, broker.isOpen_closeChannel channel⟩

/-- A client that applies for deliveries of a missing queue ends up stranded. -/
theorem applies_attains
    (applies : client.Applies queue operation)
    (afloat : client.Afloat broker channel)
    (absent : broker.queues.get? queue = none)
    (drawnIds : Nat) :
    (operation.program client).Attains (Stranded client.consumerId queue) broker drawnIds := by
  have registers :
      (client.registerConsumer queue).Attains (Stranded client.consumerId queue) broker
        drawnIds :=
    (negotiateQos_course afloat.isHeld afloat.usable queue drawnIds).bind_attains
      (consumeWithin_attains_of_missing afloat absent client.options.notFound.maxRetries drawnIds)
  cases applies with
  | registering => exact registers
  | receiving decode free =>
      change (client.receive queue decode).Attains _ _ _
      rw [receive_of_free free]
      refine registers.bind fun registered after drawnIds stranded => ?_
      obtain ⟨outcome, ended⟩ := registered
      obtain ⟨rfl, lost, isHeld, useless⟩ := stranded
      exact ⟨rfl, lost, isHeld, useless⟩

end Client

namespace Network

variable {network : Network} {place : Nat} {client : Client} {channel : Channel}

/-- Between two operations of a run, a client with a usable channel is afloat. -/
theorem afloat_run
    (arbitration : Arbitration)
    (moves : List Move)
    (idle : ((start arbitration).run moves).parties[place]? = some (.idle client))
    (isHeld : client.channel = some channel)
    (usable : ((start arbitration).run moves).broker.isOpen channel = true) :
    client.Afloat ((start arbitration).run moves).broker channel := by
  have numbered := numbered_run arbitration moves
  exact
    ⟨isHeld, usable, numbered.held place _ idle client channel rfl isHeld, numbered.closed,
      (grounded_run arbitration moves).alive idle isHeld usable⟩

/-- Publishing any message that can be encoded is done at once and ends in such a way. -/
def PublishingEnds
    (network : Network)
    (place : Nat)
    (ends : Except ClientError Unit → Prop) : Prop :=
  ∀ tracing queue message body,
    message.body = .ok body →
      ∃ told outcome,
        (network.step (.start place (.publish tracing queue message))).log =
            network.log ++ told ++ [.finished place (.publish tracing queue message) outcome] ∧
          ends outcome

/-- An idle client that looks for a missing queue fails at once and can publish as before. -/
theorem step_looking
    {queue : String}
    {operation : Operation}
    (idle : network.parties[place]? = some (.idle client))
    (looks : client.Looks queue operation)
    (isHeld : client.channel = some channel)
    (usable : network.broker.isOpen channel = true)
    (absent : network.broker.queues.get? queue = none) :
    let after := network.step (.start place operation)
    let failure := ClientError.declareQueue queue (Broker.noQueue queue).message
    ∃ told,
      after.log = network.log ++ told ++ [.finished place operation (.error failure)] ∧
        after.parties[place]? = some (.idle (client.setLastError failure)) ∧
          after.broker = { network.broker with declares := network.broker.declares + 1 } ∧
            after.PublishingEnds place (· = .ok ()) := by
  intro after failure
  obtain ⟨history, course, prompt⟩ :=
    Client.looks_course looks isHeld usable absent network.drawnIds
  have performed : after = network.taking place operation history _ _ network.drawnIds :=
    step_start_of_course idle course prompt
  have idleThen : after.parties[place]? = some (.idle (client.setLastError failure)) := by
    rw [performed]
    exact List.getElem?_set_self (lt_of_seated idle)
  have counted :
      after.broker = { network.broker with declares := network.broker.declares + 1 } := by
    rw [performed]
    rfl
  refine ⟨history.map (.asked place operation), ?_, idleThen, counted, ?_⟩
  · rw [performed]
    rfl
  · intro tracing target message body encoded
    obtain ⟨told, outcome, log, isOk_iff⟩ :=
      publishes_iff_isOpen idleThen isHeld tracing target encoded
    have stillUsable : after.broker.isOpen channel = true := by
      rw [counted]
      exact usable
    exact ⟨told, outcome, log, isOk_iff.mpr stillUsable⟩

/--
An idle client that applies for deliveries of a missing queue fails in the end, and nothing can be
published on the channel that it is left with.
-/
theorem performing_applying
    {queue : String}
    {operation : Operation}
    (idle : network.parties[place]? = some (.idle client))
    (applies : client.Applies queue operation)
    (afloat : client.Afloat network.broker channel)
    (absent : network.broker.queues.get? queue = none) :
    let failure :=
      ClientError.consumerDeclaration queue client.consumerId (Broker.noQueue queue).message
    ∃ after enough told stranded lost,
      (∀ resumes,
          enough ≤ resumes → network.run (performing place operation resumes) = after) ∧
        after.log = network.log ++ told ++ [.finished place operation (.error failure)] ∧
          after.parties[place]? = some (.idle stranded) ∧
            stranded.channel = some lost ∧
              after.broker.isOpen lost = false ∧ after.PublishingEnds place (· ≠ .ok ()) := by
  intro failure
  obtain ⟨after, enough, completes, settles⟩ :=
    performing_completes operation idle
      (Client.applies_attains applies afloat absent network.drawnIds)
  obtain ⟨ended, told, idleThen, log, fails, lost, isHeldThen, useless⟩ := completes
  rw [fails] at log
  refine ⟨after, enough, told, ended.2, lost, settles, log, idleThen, isHeldThen, useless, ?_⟩
  intro tracing target message body encoded
  obtain ⟨told, outcome, log, isOk_iff⟩ :=
    publishes_iff_isOpen idleThen isHeldThen tracing target encoded
  refine ⟨told, outcome, log, fun isOk => ?_⟩
  cases useless.symm.trans (isOk_iff.mp isOk)

/--
A call is answered with a name that is unknown exactly if it is a passive declaration or a
registration, its channel is usable and its queue is missing; and the channel stays usable exactly
if it was a declaration.  So in all runs an idle client that looks for a missing queue fails and
goes on as before, and publishing succeeds; one that applies for its deliveries fails as well,
whatever its policies are, and is left with a channel on which all publishing fails.
-/
theorem channel_kept_iff_only_looking (arbitration : Arbitration) (moves : List Move) :
    let network := (start arbitration).run moves
    (∀ (broker after : Broker) (call : Call) (text : String),
      broker.perform call = (.error (.notFound text), after) ↔
        ∃ channel queue,
          call.seeks? = some (channel, queue) ∧
            broker.isOpen channel = true ∧
              broker.queues.get? queue = none ∧
                text = "no queue '" ++ queue ++ "'" ∧
                  after = broker.missing channel call.kind) ∧
      (∀ (broker : Broker) (call : Call) (channel : Channel) (queue : String),
        call.seeks? = some (channel, queue) →
        broker.isOpen channel = true →
        broker.queues.get? queue = none →
          ((broker.perform call).2.isOpen channel = true ↔ call.kind = .declare)) ∧
        ∀ place client channel queue operation,
          network.parties[place]? = some (.idle client) →
          client.channel = some channel →
          network.broker.isOpen channel = true →
          network.broker.queues.get? queue = none →
            (client.Looks queue operation →
              let after := network.step (.start place operation)
              let failure := ClientError.declareQueue queue (Broker.noQueue queue).message
              ∃ told,
                after.log = network.log ++ told ++ [.finished place operation (.error failure)] ∧
                  after.parties[place]? = some (.idle (client.setLastError failure)) ∧
                    after.broker =
                        { network.broker with declares := network.broker.declares + 1 } ∧
                      after.PublishingEnds place (· = .ok ())) ∧
              (client.Applies queue operation →
                let failure :=
                  ClientError.consumerDeclaration queue client.consumerId
                    (Broker.noQueue queue).message
                ∃ after enough told stranded lost,
                  (∀ resumes,
                      enough ≤ resumes →
                        network.run (performing place operation resumes) = after) ∧
                    after.log =
                        network.log ++ told ++ [.finished place operation (.error failure)] ∧
                      after.parties[place]? = some (.idle stranded) ∧
                        stranded.channel = some lost ∧
                          after.broker.isOpen lost = false ∧
                            after.PublishingEnds place (· ≠ .ok ())) := by
  intro network
  refine ⟨fun broker after call text => ⟨fun fails => ?_, ?_⟩, ?_, ?_⟩
  · obtain ⟨channel, queue, seeks, usable, absent⟩ :=
      Broker.seeks_of_notFound (congrArg Prod.fst fails)
    rw [Broker.perform_of_missing seeks usable absent] at fails
    obtain ⟨isText, isAfter⟩ := Prod.mk.inj fails
    refine ⟨channel, queue, seeks, usable, absent, ?_, isAfter.symm⟩
    exact (TransportError.notFound.inj (Except.error.inj isText)).symm
  · rintro ⟨channel, queue, seeks, usable, absent, rfl, rfl⟩
    exact Broker.perform_of_missing seeks usable absent
  · intro broker call channel queue seeks usable absent
    rw [Broker.perform_of_missing seeks usable absent]
    exact Broker.isOpen_missing_iff usable call.kind
  · intro place client channel queue operation idle isHeld usable absent
    have afloat := afloat_run arbitration moves idle isHeld usable
    exact
      ⟨fun looks => step_looking idle looks isHeld usable absent,
        fun applies => performing_applying idle applies afloat absent⟩

/-- A client that inspects a missing queue can publish, and one that registers on it cannot. -/
theorem channel_kept_on_inspection :
    let network := (start .byConsumerTag).run (connecting 0 "worker" (.new "memory"))
    let inspected := network.step (.start 0 (.inspectQueue "jobs"))
    network.broker.isOpen ⟨1, 0⟩ = true ∧
      network.broker.queues.get? "jobs" = none ∧
        (∃ told failure,
          inspected.log =
              network.log ++ told ++ [.finished 0 (.inspectQueue "jobs") (.error failure)] ∧
            inspected.broker.isOpen ⟨1, 0⟩ = true ∧ inspected.PublishingEnds 0 (· = .ok ())) ∧
          ∃ registered resumes,
            network.run (performing 0 (.registerConsumer "jobs") resumes) = registered ∧
              registered.PublishingEnds 0 (· ≠ .ok ()) := by
  intro network inspected
  obtain ⟨-, -, clients⟩ :=
    channel_kept_iff_only_looking .byConsumerTag (connecting 0 "worker" (.new "memory"))
  have connects : network = (start .byConsumerTag).joinedBy "worker" (.new "memory") :=
    @run_connecting (start .byConsumerTag) rfl "worker" (.new "memory")
  have idle :
      network.parties[0]? =
        some (.idle (connected (Broker.empty .byConsumerTag) "worker" (.new "memory"))) := by
    rw [connects]
    rfl
  have usable : network.broker.isOpen ⟨1, 0⟩ = true := by
    rw [connects]
    rfl
  have absent : network.broker.queues.get? "jobs" = none := by
    rw [connects]
    rfl
  obtain ⟨told, log, -, broker, publishes⟩ :=
    (clients 0 _ ⟨1, 0⟩ "jobs" (.inspectQueue "jobs") idle rfl usable absent).1 .inspecting
  obtain ⟨registered, enough, -, -, -, settles, -, -, -, -, publishesNothing⟩ :=
    (clients 0 _ ⟨1, 0⟩ "jobs" (.registerConsumer "jobs") idle rfl usable absent).2 .registering
  have stillUsable : inspected.broker.isOpen ⟨1, 0⟩ = true := by
    change (network.step (.start 0 (.inspectQueue "jobs"))).broker.isOpen ⟨1, 0⟩ = true
    rw [broker]
    exact usable
  exact
    ⟨usable, absent, ⟨told, _, log, stillUsable, publishes⟩, registered, enough,
      settles enough (Nat.le_refl _), publishesNothing⟩

end Network

end BrokerClient
