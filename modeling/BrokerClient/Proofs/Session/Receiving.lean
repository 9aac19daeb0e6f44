import BrokerClient.Proofs.Client.Receiving
import BrokerClient.Proofs.Session.Waiting

/-!
# Receiving while time passes

In a session a receive first comes to a stream, which may take time, and then waits on it.  The
stream and the clock decide what the wait ends with, and that decides the outcome; what follows a
wait takes no time.
-/

namespace BrokerClient

namespace Environment

variable {environment : Environment}

/-- What does not wait takes no time. -/
theorem sameClock_answer
    (environment : Environment)
    {request : Request}
    (instant : request.waits = false) :
    environment.SameClock (environment.answer request).2 := by
  cases request with
  | transport call => exact environment.sameClock_answerCall call
  | sleep duration => cases instant
  | next stream timeout => cases instant
  | _ => exact ⟨rfl, rfl⟩

/-- A program that does not wait takes no time. -/
theorem sameClock_run
    {α : Type}
    {program : Program α}
    (instant : ∀ exchange ∈ program.history answer environment, exchange.request.waits = false) :
    environment.SameClock (program.run answer environment).2 := by
  induction program generalizing environment with
  | done value => exact ⟨rfl, rfl⟩
  | ask request next inductionHypothesis =>
      have asked := environment.sameClock_answer (instant _ (.head _))
      apply asked.trans
      apply inductionHypothesis
      exact fun exchange member => instant exchange (.tail _ member)

end Environment

namespace Client

variable {client : Client} {queue : String} {stream : Stream}
variable {Content : Type} {decode : List UInt8 → Except CodecError Content}

/-- What follows a wait does not wait. -/
theorem Waited.instant
    {arrival : Arrival}
    {closing : History}
    {ended : Outcome (Delivery × Content)}
    (waited : client.Waited queue stream decode arrival closing ended) :
    ∀ exchange ∈ closing, exchange.request.waits = false := by
  have dropping (drops : client.Drops stream closing) :
      ∀ exchange ∈ closing, exchange.request.waits = false := by
    obtain ⟨channel, answer, -, rfl⟩ := drops
    simp [Request.waits]
  cases waited with
  | delivered _ _ => simp
  | unreadable _ _ => simp
  | empty _ => simp
  | failed error drops => exact dropping drops
  | ended drops => exact dropping drops
  | timedOut drops => exact dropping drops

/-- A client that listens waits until its stream offers something, and ends at that moment. -/
theorem awaitAndRead_run
    {environment : Environment}
    (listens : client.Listens queue stream)
    (ordered : environment.Ordered) :
    let run := ((client.awaitDelivery queue stream).bind (reading decode)).run Environment.answer
      environment
    ∃ arrival closing,
      WaitEnds (environment.offer? stream) environment.now
          (environment.now + client.options.receiveTimeout.milliseconds) arrival run.2.now ∧
        client.Waited queue stream decode arrival closing run.1 := by
  intro run
  let waiting : Program (Outcome (Delivery × Content)) :=
    (client.awaitDelivery queue stream).bind (reading decode)
  obtain ⟨arrival, closing, isHistory, waited⟩ :=
    (awaitAndRead_ends_iff listens).mp (Program.ends_run Environment.answer waiting environment)
  obtain ⟨isWait, isClosing⟩ := List.cons.inj isHistory
  obtain rfl : (environment.await stream client.options.receiveTimeout).1 = arrival := by
    cases isWait
    rfl
  have follows := Environment.sameClock_run (isClosing ▸ waited.instant)
  refine ⟨_, closing, ?_, waited⟩
  rw [show run.2.now = _ from follows.now]
  exact Environment.await_waitEnds ordered stream client.options.receiveTimeout

section

variable {environment begun : Environment} {left : Client}

/-- A receive whose registration fails ends with that failure. -/
theorem receiveRead_run_of_unregistered
    {error : ClientError}
    (ensured :
      (client.ensureConsumer queue).run Environment.answer environment =
        ((.error error, left), begun)) :
    (client.receiveRead queue decode).run Environment.answer environment =
      ((.error error, left), begun) := by
  change (((client.ensureConsumer queue).bind _).bind (reading decode)).run _ _ = _
  rw [Program.bind_assoc, Program.run_bind, ensured]
  rfl

/-- A receive that comes to a stream waits on it. -/
theorem receiveRead_run_of_listens
    (ensured :
      (client.ensureConsumer queue).run Environment.answer environment = ((.ok (), left), begun))
    (listens : left.Listens queue stream) :
    (client.receiveRead queue decode).run Environment.answer environment =
      ((left.awaitDelivery queue stream).bind (reading decode)).run Environment.answer begun := by
  change (((client.ensureConsumer queue).bind _).bind (reading decode)).run _ _ = _
  rw [Program.bind_assoc, Program.run_bind, ensured]
  dsimp only
  rw [listens.stream]

end

/-- What is recorded at the end takes no time. -/
theorem record_run
    {operation : Program (Outcome (Delivery × Content))}
    (environment : Environment) :
    (record operation).run Environment.answer environment =
      (recorded (operation.run Environment.answer environment).1,
        (operation.run Environment.answer environment).2) := by
  change (operation.bind _).run _ _ = _
  rw [Program.run_bind]
  rfl

/--
Every receive of a client goes in one of the known ways, and each of them is one: it fails to
register, and then holds no stream for the queue, or it waits once, and what the wait ends with
decides what it comes to and what is given up.  In a session the wait begins where the client has
come to a stream, and ends at the moment of the first offer of the stream, or at its deadline if
there is none up to then.
-/
theorem receive_classified
    {connection : Connection}
    {url consumerId : String}
    {options : Options}
    {performances : List Performance}
    {client : Client}
    (runs : (Client.new connection url consumerId options).Runs performances client)
    {propagator : Propagator}
    {arbitration : Arbitration}
    {session : Session}
    (reached : session.Reached propagator arbitration)
    (queue : String)
    {Content : Type}
    (decode : List UInt8 → Except CodecError Content) :
    (∀ history ended,
      (client.receive queue decode).Ends history ended ↔
        ∃ found, client.Receives queue decode history found ∧ ended = recorded found) ∧
    let ensured := (client.ensureConsumer queue).run Environment.answer session.environment
    let received := (client.receive queue decode).run Environment.answer session.environment
    (∀ error left, ensured.1 = (.error error, left) →
      left.hasConsumer queue = false ∧ received = (recorded (.error error, left), ensured.2)) ∧
    ∀ ready, ensured.1 = (.ok (), ready) →
      ∃ stream arrival closing found,
        ready.Listens queue stream ∧
          (∀ other moment,
            WaitEnds (ensured.2.offer? stream) ensured.2.now
                (ensured.2.now + client.options.receiveTimeout.milliseconds) other moment ↔
              other = arrival ∧ moment = received.2.now) ∧
            ready.Waited queue stream decode arrival closing found ∧
              received.1 = recorded found := by
  have coherent := runs.coherent
  constructor
  · intro history ended
    unfold receive
    simp only [record_ends_iff, receiveRead_ends_iff coherent]
  · intro ensured received
    have isReceived : received = _ := record_run session.environment
    have ensures :=
      ensureConsumer_ends_iff.mp
        (Program.ends_run Environment.answer (client.ensureConsumer queue) session.environment)
    constructor
    · intro error left failed
      have isEnsured : ensured = ((.error error, left), ensured.2) := by rw [← failed]
      rw [isReceived, receiveRead_run_of_unregistered isEnsured]
      rw [show Prod.fst _ = _ from failed] at ensures
      exact ⟨ensures.free.2.1, rfl⟩
    · intro ready registered
      have isEnsured : ensured = ((.ok (), ready), ensured.2) := by rw [← registered]
      rw [show Prod.fst _ = _ from registered] at ensures
      obtain ⟨same, stream, listens⟩ := ensures.listens coherent
      have ordered : ensured.2.Ordered := Environment.ordered_run reached.ordered _
      obtain ⟨arrival, closing, ends, waited⟩ := @awaitAndRead_run _ _ _ _ decode _ listens ordered
      rw [isReceived, receiveRead_run_of_listens isEnsured listens]
      refine ⟨stream, arrival, closing, _, listens, ?_, waited, rfl⟩
      intro other moment
      rw [same.options] at ends
      constructor
      · exact fun endsOther => endsOther.unique ends
      · rintro ⟨rfl, rfl⟩
        exact ends

/-- A stream that yields its first delivery after four seconds is waited on for as long. -/
theorem received_after_four_seconds :
    let item : ScriptedItem := ⟨4000, .ok (.new 1 "jobs" [55])⟩
    let scripting : BrokerStep := .script .consume [.stream [item] true] 1
    let session := ((Session.start .silent .byConsumerTag).step (.broker scripting)).2
    let received :=
      (Performance.idleClient.receive "jobs" Except.ok).run Environment.answer session.environment
    received.2.now = 4000 ∧
      ∃ ready stream arrival closing found,
        Client.Listens ready "jobs" stream ∧
          ready.Waited "jobs" stream Except.ok arrival closing found ∧
            received.1 = recorded found := by
  intro item scripting session received
  have reached : session.Reached .silent .byConsumerTag := .step .start _
  obtain ⟨-, -, waits⟩ := receive_classified Performance.runs_waiting reached "jobs" Except.ok
  have registers :
      ∃ ready,
        ((Performance.idleClient.ensureConsumer "jobs").run Environment.answer
          session.environment).1 = (.ok (), ready) := by
    rw [ensureConsumer_of_free rfl, registerConsumer_eq]
    exact ⟨_, rfl⟩
  have lasts : received.2.now = 4000 := by
    change ((Performance.idleClient.receive "jobs" Except.ok).run Environment.answer
      session.environment).2.now = 4000
    rw [receive_of_free rfl, registerConsumer_eq]
    decide
  obtain ⟨ready, isReady⟩ := registers
  obtain ⟨stream, arrival, closing, found, listens, -, waited, isFound⟩ := waits ready isReady
  exact ⟨lasts, ready, stream, arrival, closing, found, listens, waited, isFound⟩

end Client

end BrokerClient
