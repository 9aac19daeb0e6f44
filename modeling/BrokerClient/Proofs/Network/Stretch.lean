import BrokerClient.Proofs.Client.Receiving
import BrokerClient.Proofs.Network.Clock
import BrokerClient.Proofs.Network.Numbering
import BrokerClient.Proofs.Network.Prompt
import BrokerClient.Proofs.Network.RoundTrip

/-!
# A receive from wait to wait

Between two waits nothing comes between what a party asks, so its program takes a stretch of its
course.  A receive without a stream is an attempt to register and what follows it.  Where the queue
is missing, an attempt goes on over another channel to the pause before the next one, or fails if no
retry is left; where the queue exists, it yields the stream to wait on.
-/

namespace BrokerClient

namespace Program

/--
A program that nothing comes between asks and is answered as a history has it; it leaves the broker
as another one, and something is left of it.
-/
inductive Stretch :
    Program α → Broker → Nat → History → Program α → Broker → Nat → Prop where
  | here (program : Program α) (broker : Broker) (drawnIds : Nat) :
      Stretch program broker drawnIds [] program broker drawnIds
  | ask
      {request : Request}
      {next : request.Answer → Program α}
      {broker after : Broker}
      {drawnIds drawnThen : Nat}
      {history : History}
      {rest : Program α}
      (further :
        (next ((Network.around broker drawnIds).answer request)).Stretch
          ((Network.around broker drawnIds).brokerAfter request)
          ((Network.around broker drawnIds).drawnAfter request)
          history rest after drawnThen) :
      Stretch (.ask request next) broker drawnIds
        (⟨request, (Network.around broker drawnIds).answer request⟩ :: history) rest after
        drawnThen

section

variable {α β : Type} {broker between after : Broker} {drawnIds drawnBetween drawnThen : Nat}
variable {first second : History}

theorem Stretch.trans
    {program middle rest : Program α}
    (stretch : program.Stretch broker drawnIds first middle between drawnBetween)
    (goesOn : middle.Stretch between drawnBetween second rest after drawnThen) :
    program.Stretch broker drawnIds (first ++ second) rest after drawnThen := by
  induction stretch with
  | here program broker drawnIds => exact goesOn
  | ask further inductionHypothesis => exact .ask (inductionHypothesis goesOn)

/-- What is to come behind a program does not matter to it. -/
theorem Stretch.bind
    {program rest : Program α}
    (stretch : program.Stretch broker drawnIds first rest after drawnThen)
    (next : α → Program β) :
    (program >>= next).Stretch broker drawnIds first (rest >>= next) after drawnThen := by
  change (program.bind next).Stretch _ _ _ (rest.bind next) _ _
  induction stretch with
  | here program broker drawnIds => exact .here _ _ _
  | ask further inductionHypothesis => exact .ask inductionHypothesis

/-- Along its whole course nothing is left of a program but its value. -/
theorem Course.stretch
    {program : Program α}
    {value : α}
    (course : program.Course broker drawnIds first value after drawnThen) :
    program.Stretch broker drawnIds first (.done value) after drawnThen := by
  induction course with
  | done value broker drawnIds => exact .here _ _ _
  | ask rest inductionHypothesis => exact .ask inductionHypothesis

/-- Two programs in a row: the second goes on with a stretch where the course of the first ends. -/
theorem Course.bind_stretch
    {program : Program α}
    {next : α → Program β}
    {middle : α}
    {rest : Program β}
    (course : program.Course broker drawnIds first middle between drawnBetween)
    (goesOn : (next middle).Stretch between drawnBetween second rest after drawnThen) :
    (program >>= next).Stretch broker drawnIds (first ++ second) rest after drawnThen :=
  (course.stretch.bind next).trans goesOn

end

end Program

/-- The broker where a channel was lost in a call, then closed and replaced by another one. -/
def Broker.replacing (broker : Broker) (channel : Channel) (feeds : List Feed) : Broker :=
  { (broker.closeChannel channel).closeChannel channel with
    channelsOpened := broker.channelsOpened + 1
    feeds := feeds }

theorem Broker.keepsNumbers_replacing
    {broker : Broker}
    {channel : Channel}
    (opened : broker.HasOpened channel)
    (feeds : List Feed) :
    broker.KeepsNumbers (broker.replacing channel feeds) := by
  refine ⟨Nat.le_succ _, fun number member => ?_⟩
  rcases List.mem_cons.mp member with rfl | again
  · exact .inr opened
  · exact (keepsNumbers_closeChannel opened).closed number again

namespace Client

/-! ## Attempts -/

/-- Pause before another attempt. -/
def pausing (client : Client) (queue : String) (retries : Nat) : Program (Outcome Unit) := do
  Program.request (.sleep client.options.notFound.backoff)
  client.retrying queue retries

/--
Nothing in a history waits; it asks for so many registrations, and so many channels are got with it.
-/
structure Spends (history : History) (registrations channels : Nat) : Prop where
  prompt : ∀ exchange ∈ history, exchange.request.waits = false
  registrations : (History.calls history).countP Call.registers = registrations
  channels : (History.calls history).countP Call.opens = channels

theorem Spends.append
    {first second : History}
    {registrations channels registrationsThen channelsThen : Nat}
    (spends : Spends first registrations channels)
    (spendsThen : Spends second registrationsThen channelsThen) :
    Spends (first ++ second) (registrations + registrationsThen) (channels + channelsThen) where
  prompt := by simpa [or_imp, forall_and] using ⟨spends.prompt, spendsThen.prompt⟩
  registrations := by
    rw [History.calls_append, List.countP_append, spends.registrations, spendsThen.registrations]
  channels := by
    rw [History.calls_append, List.countP_append, spends.channels, spendsThen.channels]

/-- What a single call spends. -/
theorem spends_call (call : Call) (answer : call.Answer) :
    Spends [⟨.transport call, answer⟩] ((Call.registers ⟨call, answer⟩).toNat)
      ((Call.opens ⟨call, answer⟩).toNat) where
  prompt := by simp [Request.waits]
  registrations := by
    cases registers : Call.registers ⟨call, answer⟩ <;>
      simp [History.calls, History.call?, registers]
  channels := by
    cases opens : Call.opens ⟨call, answer⟩ <;> simp [History.calls, History.call?, opens]

section

variable {client : Client} {queue : String} {channel : Channel} {broker : Broker}

/-- Negotiating flow control spends nothing. -/
theorem spends_qos
    (channel : Channel)
    (prefetchCount : Nat)
    (answer : Except TransportError Unit) :
    Spends [⟨.transport (.qos channel prefetchCount false), answer⟩] 0 0 :=
  spends_call _ _

/-- A registration is one, whether it is granted or refused. -/
theorem spends_consume
    (channel : Channel)
    (queue consumerId : String)
    (answer : Except TransportError Stream) :
    Spends [⟨.transport (.consume channel queue consumerId consumeFlags), answer⟩] 1 0 :=
  spends_call _ _

/-- Giving streams up changes feeds only, and spends nothing. -/
theorem releaseAll_course (streams : List Stream) (broker : Broker) (drawnIds : Nat) :
    ∃ history feeds,
      (releaseAll streams).Course broker drawnIds history () { broker with feeds := feeds }
          drawnIds ∧
        Spends history 0 0 := by
  induction streams generalizing broker with
  | nil => exact ⟨[], broker.feeds, .done _ _ _, by simp, rfl, rfl⟩
  | cons stream rest inductionHypothesis =>
      obtain ⟨history, feeds, released, spends⟩ := inductionHypothesis (broker.release stream)
      have spendsFirst : Spends [⟨.release stream, ()⟩] 0 0 := ⟨by simp [Request.waits], rfl, rfl⟩
      exact ⟨⟨.release stream, ()⟩ :: history, feeds, .ask released, spendsFirst.append spends⟩

/-- The channel that a client gets when it replaces its own. -/
def replacement (client : Client) (broker : Broker) : Channel :=
  ⟨broker.channelsOpened + 1, client.connection.generation⟩

/-- The channel that replaces another one is usable. -/
theorem isOpen_replacement
    (numbered : broker.Numbered)
    (opened : broker.HasOpened channel)
    (alive : broker.isClosed client.connection = false)
    (feeds : List Feed) :
    (broker.replacing channel feeds).isOpen (client.replacement broker) = true := by
  have isNew :
      (client.replacement broker).number ∉ (broker.replacing channel feeds).closedChannels := by
    intro member
    rcases (Broker.keepsNumbers_replacing opened feeds).closed _ member with wasClosed | wasOpened
    · exact Nat.not_succ_le_self _ (numbered _ wasClosed)
    · exact Nat.not_succ_le_self _ wasOpened
  have sameGeneration : client.connection.generation = broker.generation := by
    simpa [Broker.isClosed] using alive
  have current :
      (client.replacement broker).generation = (broker.replacing channel feeds).generation :=
    sameGeneration
  simp [Broker.isOpen, isNew, current]

/-- On a connection that is alive a channel is replaced at once. -/
theorem reopen_course
    (isHeld : client.channel = some channel)
    (alive : broker.isClosed client.connection = false)
    (drawnIds : Nat) :
    ∃ history feeds,
      client.reopen.Course broker drawnIds history
          (.ok (), client.withChannel (client.replacement broker))
          { broker.closeChannel channel with
              channelsOpened := broker.channelsOpened + 1
              feeds := feeds } drawnIds ∧
        Spends history 0 1 := by
  let closed := broker.closeChannel channel
  obtain ⟨releasing, feeds, released, spends⟩ :=
    releaseAll_course (client.streams.map Prod.snd) closed drawnIds
  have answered : (Network.around broker drawnIds).answer (.isClosed client.connection) = false :=
    alive
  have looked :
      client.redial.Course broker drawnIds [⟨.isClosed client.connection, false⟩] (.ok (), client)
        broker drawnIds :=
    (Program.course_request answered rfl rfl).bind_done rfl
  have closes :
      client.closeChannel.Course broker drawnIds [⟨.transport (.closeChannel channel), .ok ()⟩] ()
        closed drawnIds := by
    simp only [closeChannel, isHeld]
    exact (Program.course_call rfl drawnIds).bind_done rfl
  have opens :
      ({ closed with feeds := feeds } : Broker).perform (.openChannel client.connection) =
        (.ok (client.replacement broker),
          { closed with channelsOpened := broker.channelsOpened + 1, feeds := feeds }) := by
    have stillAlive :
        ({ closed with feeds := feeds } : Broker).isClosed client.connection = false :=
      alive
    simp only [Broker.perform, Broker.openChannel, stillAlive]
    rfl
  have opened :
      client.replaceChannel.Course broker drawnIds _ _ _ drawnIds :=
    closes.bind (released.bind ((Program.course_call opens drawnIds).bind_done rfl))
  have spendsLooking : Spends [⟨.isClosed client.connection, false⟩] 0 0 :=
    ⟨by simp [Request.waits], rfl, rfl⟩
  have spendsReplacing := (spends_call (.closeChannel channel) (.ok ())).append
    (spends.append
      (spends_call (.openChannel client.connection) (.ok (client.replacement broker))))
  exact ⟨_, feeds, looked.bind opened, spendsLooking.append spendsReplacing⟩

section

variable (isHeld : client.channel = some channel) (usable : broker.isOpen channel = true)
include isHeld usable

/-- A registration is refused where the queue is missing, and costs the channel. -/
theorem consume_course_of_missing
    (missing : broker.queues.get? queue = none)
    (drawnIds : Nat) :
    (client.consume queue).Course broker drawnIds
      [⟨.transport (.consume channel queue client.consumerId consumeFlags),
        .error (Broker.noQueue queue)⟩]
      (.error (Broker.noQueue queue)) (broker.closeChannel channel) drawnIds := by
  have performed :
      broker.perform (.consume channel queue client.consumerId consumeFlags) =
        (.error (Broker.noQueue queue), broker.closeChannel channel) := by
    rw [Broker.perform, Broker.onChannel_of_isOpen usable, Broker.consume, missing]
  simp only [consume, isHeld]
  exact Program.course_call performed drawnIds

/-- Without a retry an attempt fails for good. -/
theorem consumeWithin_stretch_of_spent
    (missing : broker.queues.get? queue = none)
    (drawnIds : Nat) :
    ∃ history,
      (consumeWithin queue 0 client).Stretch broker drawnIds history
          (.done
            (.error (.consumerDeclaration queue client.consumerId (Broker.noQueue queue).message),
              client))
          (broker.closeChannel channel) drawnIds ∧
        Spends history 1 0 := by
  have refused := consume_course_of_missing isHeld usable missing drawnIds
  unfold consumeWithin
  exact ⟨_, refused.stretch.bind _, spends_consume _ _ _ _⟩

/-- With a retry left the client replaces its channel and comes to a pause. -/
theorem consumeWithin_stretch_of_missing
    (missing : broker.queues.get? queue = none)
    (alive : broker.isClosed client.connection = false)
    (retriesOn : client.options.notFound.retryOn (Broker.noQueue queue) = true)
    (remaining drawnIds : Nat) :
    ∃ history feeds,
      (consumeWithin queue (remaining + 1) client).Stretch broker drawnIds history
          ((client.withChannel (client.replacement broker)).pausing queue remaining)
          (broker.replacing channel feeds) drawnIds ∧
        Spends history 1 1 := by
  have stillAlive : (broker.closeChannel channel).isClosed client.connection = false := alive
  obtain ⟨reopening, feeds, reopened, spends⟩ := reopen_course isHeld stillAlive drawnIds
  have refused := consume_course_of_missing isHeld usable missing drawnIds
  unfold consumeWithin
  refine ⟨_, feeds, refused.bind_stretch ?_, (spends_consume _ _ _ _).append spends⟩
  dsimp only
  rw [if_pos retriesOn]
  exact reopened.stretch.bind _

/-- Where the queue exists an attempt yields a stream. -/
theorem consumeWithin_stretch_of_granted
    (free : client.streams.get? queue = none)
    {stream : Stream}
    {after : Broker}
    (consumed : broker.consume channel queue client.consumerId = (.ok stream, after))
    (retries drawnIds : Nat) :
    ∃ history,
      (consumeWithin queue retries client).Stretch broker drawnIds history
          (.done (.ok (), { client with streams := client.streams.insert queue stream })) after
          drawnIds ∧
        Spends history 1 0 := by
  have registered := consumeWithin_course isHeld usable free consumed retries drawnIds
  exact ⟨_, registered.stretch, spends_consume _ _ _ _⟩

end

/--
A program comes to an attempt with so many retries, and up to there it spends nothing and leaves the
broker as it is.
-/
def Begins
    (program : Program (Outcome Unit))
    (client : Client)
    (queue : String)
    (retries : Nat)
    (broker : Broker) : Prop :=
  ∀ drawnIds,
    ∃ history,
      program.Stretch broker drawnIds history (consumeWithin queue retries client) broker drawnIds ∧
        Spends history 0 0

section

variable (isHeld : client.channel = some channel) (usable : broker.isOpen channel = true)
include isHeld usable

/-- On a usable channel flow control is negotiated at once where a receive begins. -/
theorem begins_registerConsumer (queue : String) :
    Begins (client.registerConsumer queue) client queue client.options.notFound.maxRetries broker :=
  fun drawnIds =>
    ⟨_, (negotiateQos_course isHeld usable queue drawnIds).stretch.bind _, spends_qos _ _ _⟩

/-- On a usable channel flow control is negotiated at once behind a pause. -/
theorem begins_retrying (queue : String) (retries : Nat) :
    Begins (client.retrying queue retries) client queue retries broker :=
  fun drawnIds =>
    ⟨_, (negotiateQos_course isHeld usable queue drawnIds).stretch.bind _, spends_qos _ _ _⟩

end

end

end Client

namespace Network

variable {network : Network} {place : Nat} {operation : Operation} {standing : Standing}

/-- A party has come to what is left of its operation. -/
def reaching
    (network : Network)
    (place : Nat)
    (operation : Operation)
    (standing : Standing)
    (rest : Program (Outcome operation.Value))
    (told : List Event)
    (after : Broker)
    (drawnIds : Nat) :
    Network where
  broker := after
  drawnIds := drawnIds
  parties := network.parties.set place (.busy operation standing rest)
  log := network.log ++ told

/-- A party that has not gone on yet is where it was. -/
theorem reaching_here
    {program : Program (Outcome operation.Value)}
    (seated : network.parties[place]? = some (.busy operation standing program)) :
    network.reaching place operation standing program [] network.broker network.drawnIds =
      network := by
  obtain ⟨below, isParty⟩ := List.getElem?_eq_some_iff.mp seated
  rw [reaching, ← isParty, List.set_getElem_self below, List.append_nil]

/-- What is told of an exchange is the call that is made with it, if one is. -/
theorem call?_of_exchange
    (network : Network)
    (place : Nat)
    (standing : Standing)
    (request : Request)
    (next : request.Answer → Program (Outcome operation.Value)) :
    ∃ event,
      (network.exchange place operation standing request next).log = network.log ++ [event] ∧
        event.call? place = History.call? ⟨request, network.answer request⟩ := by
  cases request with
  | release stream => exact ⟨_, rfl, rfl⟩
  | _ => exact ⟨_, rfl, by simp [Event.call?]⟩

/-- A party goes through a stretch of its program that does not wait, and tells what it calls. -/
theorem proceed_of_stretch
    {program rest : Program (Outcome operation.Value)}
    {history : History}
    {after : Broker}
    {drawnIds : Nat}
    (seated : network.parties[place]? = some (.busy operation standing program))
    (stretch : program.Stretch network.broker network.drawnIds history rest after drawnIds)
    (prompt : ∀ exchange ∈ history, exchange.request.waits = false) :
    ∃ standingThen told,
      network.proceed place operation program standing =
          (network.reaching place operation standingThen rest told after drawnIds).proceed place
            operation rest standingThen ∧
        Event.calls place told = History.calls history := by
  induction program generalizing network standing history with
  | done ended =>
      cases stretch
      exact ⟨standing, [], by rw [reaching_here seated], rfl⟩
  | ask request next inductionHypothesis =>
      cases stretch with
      | here => exact ⟨standing, [], by rw [reaching_here seated], rfl⟩
      | @ask _ _ _ _ _ _ later _ further =>
          obtain ⟨broker, drawnAfter⟩ :=
            surroundings_exchange network place standing request next
          let left := network.exchange place operation standing request next
          rw [← broker, ← drawnAfter, answer_around] at further
          have goesOn : ¬ request.waits = true := by
            rw [prompt ⟨request, _⟩ List.mem_cons_self]
            exact Bool.false_ne_true
          have seatedLeft :
              left.parties[place]? =
                some
                  (.busy operation (standing.after operation ⟨request, network.answer request⟩)
                    (next (network.answer request))) := by
            rw [parties_exchange, List.getElem?_set_self (lt_of_seated seated)]
          obtain ⟨standingThen, told, proceeds, calls⟩ :=
            inductionHypothesis _ seatedLeft further fun exchange member =>
              prompt exchange (List.mem_cons_of_mem _ member)
          obtain ⟨event, log, call⟩ := call?_of_exchange network place standing request next
          refine ⟨standingThen, event :: told, ?_, ?_⟩
          · have reached :
                left.reaching place operation standingThen rest told after drawnIds =
                  network.reaching place operation standingThen rest (event :: told) after
                    drawnIds := by
              simp [reaching, left, log]
            rw [proceed_of_not_waits goesOn, proceeds, reached]
          · rw [answer_around]
            change List.filterMap _ (event :: told) = List.filterMap _ (_ :: later)
            rw [List.filterMap_cons, List.filterMap_cons, call]
            simp only [Event.calls, History.calls] at calls
            rw [calls]

end Network

end BrokerClient
