import BrokerClient.Proofs.Client.Operation
import BrokerClient.Session.Environment

/-!
# The failure of the latest operation

A client keeps the failure of its latest operation for those who ask for it later.  It never looks
at the record itself: two clients that differ in nothing else ask the same and end the same.  So
what a program does is said once for all records, as an equation between programs, and the record
that an operation leaves follows from it.
-/

namespace BrokerClient

namespace Program

/-- The same program, with its value changed at the end. -/
def mapValue (change : α → β) (program : Program α) : Program β :=
  program.bind fun value => .done (change value)

theorem bind_mapValue (change : α → β) (program : Program α) (next : β → Program γ) :
    (program.mapValue change).bind next = program.bind fun value => next (change value) :=
  bind_assoc ..

/-- A value that is changed after a first part changes what the second part starts with. -/
theorem mapValue_bind_of
    {program : Program α}
    {program' : Program α'}
    {change : α → α'}
    {next : α → Program β}
    {next' : α' → Program β'}
    {change' : β → β'}
    (first : program' = program.mapValue change)
    (second : ∀ value, next' (change value) = (next value).mapValue change') :
    program'.bind next' = (program.bind next).mapValue change' := by
  rw [first, bind_mapValue, mapValue, bind_assoc]
  exact congrArg program.bind (funext second)

/-- Programs that go on alike after each answer. -/
theorem mapValue_ask_of
    {request : Request}
    {next : request.Answer → Program α}
    {next' : request.Answer → Program β}
    {change : α → β}
    (goesOn : ∀ answer, next' answer = (next answer).mapValue change) :
    Program.ask request next' = (Program.ask request next).mapValue change :=
  congrArg (Program.ask request) (funext goesOn)

/-- Programs that go on alike on both sides of a choice. -/
theorem mapValue_ite_of
    {condition : Bool}
    {first second : Program α}
    {first' second' : Program β}
    {change : α → β}
    (ifTrue : first' = first.mapValue change)
    (ifFalse : second' = second.mapValue change) :
    (if condition = true then first' else second') =
      (if condition = true then first else second).mapValue change := by
  cases condition with
  | true => exact ifTrue
  | false => exact ifFalse

/-- A first part that is the same for both. -/
theorem mapValue_bind_same
    {program : Program α}
    {next : α → Program β}
    {next' : α → Program β'}
    {change : β → β'}
    (goesOn : ∀ value, next' value = (next value).mapValue change) :
    program.bind next' = (program.bind next).mapValue change := by
  rw [mapValue, bind_assoc]
  exact congrArg program.bind (funext goesOn)

end Program

namespace Client

/-- The same client with another record of how its latest operation ended. -/
def withLastError (client : Client) (lastError : Option ClientError) : Client :=
  { client with lastError := lastError }

/-- The same outcome, with another record kept by the client. -/
def relabel (lastError : Option ClientError) (ended : Outcome α) : Outcome α :=
  (ended.1, ended.2.withLastError lastError)

section

variable (client : Client) (lastError : Option ClientError) (queue : String)

@[simp] theorem channel_withLastError :
    (client.withLastError lastError).channel = client.channel :=
  rfl

@[simp] theorem streams_withLastError :
    (client.withLastError lastError).streams = client.streams :=
  rfl

open Program

/-! ## Parts of operations -/

theorem redial_withLastError :
    (client.withLastError lastError).redial = client.redial.mapValue (relabel lastError) := by
  refine mapValue_ask_of fun closed => ?_
  cases closed with
  | false => rfl
  | true => exact mapValue_ask_of fun answer => by cases answer <;> rfl

theorem replaceChannel_withLastError :
    (client.withLastError lastError).replaceChannel =
      client.replaceChannel.mapValue (relabel lastError) := by
  refine mapValue_bind_same fun _ => mapValue_bind_same fun _ => ?_
  exact mapValue_ask_of fun answer => by cases answer <;> rfl

theorem reopen_withLastError :
    (client.withLastError lastError).reopen = client.reopen.mapValue (relabel lastError) := by
  refine mapValue_bind_of (client.redial_withLastError lastError) ?_
  rintro ⟨error | done, redialed⟩
  · rfl
  · exact redialed.replaceChannel_withLastError lastError

theorem closeBoth_withLastError :
    (client.withLastError lastError).closeBoth = client.closeBoth.mapValue (relabel lastError) := by
  refine mapValue_bind_same fun _ => ?_
  exact mapValue_ask_of fun answer => by cases answer <;> rfl

theorem declare_withLastError (definition : QueueDefinition) :
    (client.withLastError lastError).declare definition =
      (client.declare definition).mapValue (relabel lastError) := by
  simp only [declare, channel_withLastError]
  refine mapValue_ite_of rfl ?_
  cases client.channel with
  | none => rfl
  | some channel => exact mapValue_ask_of fun answer => by cases answer <;> rfl

theorem inspect_withLastError :
    (client.withLastError lastError).inspect queue =
      (client.inspect queue).mapValue (relabel lastError) := by
  simp only [inspect, channel_withLastError]
  cases client.channel with
  | none => rfl
  | some channel => exact mapValue_ask_of fun answer => by cases answer <;> rfl

theorem forgetStream_withLastError :
    (client.withLastError lastError).forgetStream queue =
      (client.forgetStream queue).mapValue (withLastError · lastError) :=
  mapValue_bind_same fun _ => rfl

theorem delete_withLastError :
    (client.withLastError lastError).delete queue =
      (client.delete queue).mapValue (relabel lastError) := by
  simp only [delete, channel_withLastError]
  cases client.channel with
  | none => rfl
  | some channel =>
      refine mapValue_bind_same fun answer => ?_
      cases answer with
      | error error => rfl
      | ok purged =>
          let known : Client :=
            { client with channel := some channel, queues := client.queues.erase queue }
          exact mapValue_bind_of (known.forgetStream_withLastError lastError queue) fun _ => rfl

theorem send_withLastError (tracing : Tracing) (message : Outgoing) (body : List UInt8) :
    (client.withLastError lastError).send tracing queue message body =
      (client.send tracing queue message body).mapValue (relabel lastError) := by
  refine mapValue_ask_of fun messageId => ?_
  dsimp only [Bind.bind, Program.bind, Program.request, channel_withLastError]
  cases client.channel with
  | none => rfl
  | some channel => exact mapValue_ask_of fun answer => by cases answer <;> rfl

theorem sendDeclared_withLastError (tracing : Tracing) (message : Outgoing) :
    (client.withLastError lastError).sendDeclared tracing queue message =
      (client.sendDeclared tracing queue message).mapValue (relabel lastError) := by
  refine mapValue_bind_of (client.declare_withLastError lastError _) ?_
  rintro ⟨error | done, declared⟩
  · rfl
  · dsimp only [relabel]
    cases message.body with
    | ok body => exact declared.send_withLastError lastError queue tracing message body
    | error error => rfl

/-! ## Registering consumers and receiving -/

theorem negotiateQosWithin_withLastError (retries : Nat) :
    negotiateQosWithin queue retries (client.withLastError lastError) =
      (negotiateQosWithin queue retries client).mapValue (relabel lastError) := by
  induction retries generalizing client with
  | zero =>
      unfold negotiateQosWithin
      exact mapValue_bind_same fun answer => by cases answer <;> rfl
  | succ remaining inductionHypothesis =>
      unfold negotiateQosWithin
      refine mapValue_bind_same fun answer => ?_
      cases answer with
      | ok done => rfl
      | error error =>
          refine mapValue_ite_of (mapValue_bind_same fun _ => ?_) rfl
          refine mapValue_bind_of (client.reopen_withLastError lastError) ?_
          exact fun reopened => inductionHypothesis reopened.2

theorem negotiateQos_withLastError :
    (client.withLastError lastError).negotiateQos queue =
      (client.negotiateQos queue).mapValue (relabel lastError) :=
  client.negotiateQosWithin_withLastError lastError queue _

theorem holdStream_withLastError (stream : Stream) :
    (client.withLastError lastError).holdStream queue stream =
      (client.holdStream queue stream).mapValue (withLastError · lastError) :=
  mapValue_bind_same fun _ => rfl

theorem consumeWithin_withLastError (retries : Nat) :
    consumeWithin queue retries (client.withLastError lastError) =
      (consumeWithin queue retries client).mapValue (relabel lastError) := by
  induction retries generalizing client with
  | zero =>
      unfold consumeWithin
      refine mapValue_bind_same fun answer => ?_
      cases answer with
      | ok stream =>
          exact mapValue_bind_of (client.holdStream_withLastError lastError queue stream)
            fun _ => rfl
      | error error => rfl
  | succ remaining inductionHypothesis =>
      unfold consumeWithin
      refine mapValue_bind_same fun answer => ?_
      cases answer with
      | ok stream =>
          exact mapValue_bind_of (client.holdStream_withLastError lastError queue stream)
            fun _ => rfl
      | error error =>
          refine mapValue_ite_of ?_ rfl
          refine mapValue_bind_of (client.reopen_withLastError lastError) fun reopened => ?_
          refine mapValue_bind_same fun _ => ?_
          refine mapValue_bind_of (reopened.2.negotiateQos_withLastError lastError queue) ?_
          rintro ⟨error | done, negotiated⟩
          · rfl
          · exact inductionHypothesis negotiated

theorem registerConsumer_withLastError :
    (client.withLastError lastError).registerConsumer queue =
      (client.registerConsumer queue).mapValue (relabel lastError) := by
  refine mapValue_bind_of (client.negotiateQos_withLastError lastError queue) ?_
  rintro ⟨error | done, negotiated⟩
  · rfl
  · exact negotiated.consumeWithin_withLastError lastError queue _

theorem dropConsumer_withLastError :
    (client.withLastError lastError).dropConsumer queue =
      (client.dropConsumer queue).mapValue (withLastError · lastError) := by
  refine mapValue_bind_of (client.forgetStream_withLastError lastError queue) fun forgotten => ?_
  simp only [channel_withLastError]
  cases forgotten.channel with
  | none => rfl
  | some channel => rfl

theorem dropAndFail_withLastError (error : ClientError) :
    (client.withLastError lastError).dropAndFail queue error =
      (client.dropAndFail queue error).mapValue (relabel lastError) :=
  mapValue_bind_of (client.dropConsumer_withLastError lastError queue) fun _ => rfl

theorem awaitDelivery_withLastError (stream : Stream) :
    (client.withLastError lastError).awaitDelivery queue stream =
      (client.awaitDelivery queue stream).mapValue (relabel lastError) := by
  refine mapValue_ask_of fun arrival => ?_
  rcases arrival with (error | delivery) | - | -
  · exact client.dropAndFail_withLastError lastError queue _
  · exact mapValue_ite_of rfl rfl
  · exact client.dropAndFail_withLastError lastError queue _
  · exact client.dropAndFail_withLastError lastError queue _

theorem nextDelivery_withLastError :
    (client.withLastError lastError).nextDelivery queue =
      (client.nextDelivery queue).mapValue (relabel lastError) := by
  have ensured :
      (client.withLastError lastError).ensureConsumer queue =
        (client.ensureConsumer queue).mapValue (relabel lastError) := by
    exact mapValue_ite_of rfl (client.registerConsumer_withLastError lastError queue)
  refine mapValue_bind_of ensured ?_
  rintro ⟨error | done, ensured⟩
  · rfl
  · dsimp only [relabel, streams_withLastError]
    cases ensured.streams.get? queue with
    | none => rfl
    | some stream => exact ensured.awaitDelivery_withLastError lastError queue stream

theorem receiveRead_withLastError
    {Content : Type}
    (decode : List UInt8 → Except CodecError Content) :
    (client.withLastError lastError).receiveRead queue decode =
      (client.receiveRead queue decode).mapValue (relabel lastError) := by
  refine mapValue_bind_of (client.nextDelivery_withLastError lastError queue) ?_
  rintro ⟨error | delivery, awaited⟩ <;> rfl

end

/-! ## Operations -/

/-- Recording an outcome overwrites the record that the client had. -/
theorem record_mapValue (lastError : Option ClientError) (program : Program (Outcome α)) :
    record (program.mapValue (relabel lastError)) = record program :=
  Program.bind_mapValue ..

theorem lastError_of_record
    {program : Program (Outcome α)}
    {history : History}
    {ended : Outcome α}
    (ends : (record program).Ends history ended) :
    ended.2.lastError = failure? ended.1 := by
  obtain ⟨first, second, middle, -, -, recording⟩ := Program.ends_bind_iff.mp ends
  obtain ⟨-, rfl⟩ := Program.ends_done_iff.mp recording
  rfl

end Client

/-- Whether an operation records how it ended. -/
def Operation.records : Operation → Bool
  | .registerConsumer _ => false
  | .setLastError _ => false
  | .resetError => false
  | _ => true

namespace Client

open Program

variable {client client' : Client} {operation : Operation}

/-- An operation that records its outcome leaves the failure of the outcome, if it has one. -/
theorem lastError_of_records
    (records : operation.records = true)
    {history : History}
    {outcome : Except ClientError operation.Value}
    (ends : (operation.program client).Ends history (outcome, client')) :
    client'.lastError = failure? outcome := by
  cases operation with
  | registerConsumer queue => cases records
  | setLastError error => cases records
  | resetError => cases records
  | _ => exact lastError_of_record ends

/-- A registration leaves the record as it was. -/
theorem lastError_of_registerConsumer
    {queue : String}
    {history : History}
    {outcome : Except ClientError Unit}
    (ends : (client.registerConsumer queue).Ends history (outcome, client')) :
    client'.lastError = client.lastError := by
  have same := client.registerConsumer_withLastError client.lastError queue
  have relabeled : (client.registerConsumer queue).mapValue (relabel client.lastError) =
      client.registerConsumer queue :=
    same.symm
  rw [← relabeled] at ends
  obtain ⟨first, second, middle, -, -, relabeling⟩ := ends_bind_iff.mp ends
  obtain ⟨-, isMiddle⟩ := ends_done_iff.mp relabeling
  exact congrArg (fun ended => ended.2.lastError) isMiddle

/-- All operations but a registration do the same whatever the record was. -/
theorem program_withLastError_of_ne
    (client : Client)
    (lastError : Option ClientError)
    (noRegistration : ∀ queue, operation ≠ .registerConsumer queue) :
    operation.program (client.withLastError lastError) = operation.program client := by
  cases operation with
  | reset =>
      exact (congrArg record (client.reopen_withLastError lastError)).trans (record_mapValue ..)
  | ensureQueue definition =>
      exact (congrArg record (client.declare_withLastError lastError definition)).trans
        (record_mapValue ..)
  | inspectQueue queue =>
      exact (congrArg record (client.inspect_withLastError lastError queue)).trans
        (record_mapValue ..)
  | deleteQueue queue =>
      exact (congrArg record (client.delete_withLastError lastError queue)).trans
        (record_mapValue ..)
  | publish tracing queue message =>
      exact
        (congrArg record (client.sendDeclared_withLastError lastError queue tracing message)).trans
          (record_mapValue ..)
  | receive queue decode =>
      exact (congrArg record (client.receiveRead_withLastError lastError queue decode)).trans
        (record_mapValue ..)
  | close =>
      exact (congrArg record (client.closeBoth_withLastError lastError)).trans (record_mapValue ..)
  | registerConsumer queue => exact absurd rfl (noRegistration queue)
  | setLastError error => rfl
  | resetError => rfl

/-! ## Runs in the same surroundings -/

section

variable {σ : Type} (answer : σ → (request : Request) → request.Answer × σ)

theorem run_mapValue (change : α → β) (program : Program α) (state : σ) :
    (program.mapValue change).run answer state =
      (change (program.run answer state).1, (program.run answer state).2) :=
  run_bind ..

theorem history_mapValue (change : α → β) (program : Program α) (state : σ) :
    (program.mapValue change).history answer state = program.history answer state := by
  induction program generalizing state with
  | done value => rfl
  | ask request next inductionHypothesis =>
      exact congrArg (List.cons _) (inductionHypothesis _ _)

/-- Perform operations one after the other in surroundings that answer every request. -/
def performAll : List Operation → Client → σ → List Performance × Client × σ
  | [], client, state => ([], client, state)
  | operation :: rest, client, state =>
      let program := operation.program client
      let ended := program.run answer state
      let later := performAll rest ended.1.2 ended.2
      (⟨operation, program.history answer state, ended.1.1⟩ :: later.1, later.2)

/-- One operation, with another record in the client. -/
theorem run_withLastError
    (operation : Operation)
    (client : Client)
    (lastError : Option ClientError)
    (state : σ) :
    (operation.program (client.withLastError lastError)).history answer state =
        (operation.program client).history answer state ∧
      ∃ left,
        (operation.program (client.withLastError lastError)).run answer state =
          (relabel left ((operation.program client).run answer state).1,
            ((operation.program client).run answer state).2) := by
  by_cases registers : ∃ queue, operation = .registerConsumer queue
  · obtain ⟨queue, rfl⟩ := registers
    have same := client.registerConsumer_withLastError lastError queue
    simp only [Operation.program, same]
    exact ⟨history_mapValue .., lastError, run_mapValue ..⟩
  · have same := client.program_withLastError_of_ne lastError
      fun queue isRegistration => registers ⟨queue, isRegistration⟩
    rw [same]
    exact ⟨rfl, _, rfl⟩

/-- Operations in a row, with another record in the client: only the record may differ. -/
theorem performAll_withLastError
    (operations : List Operation)
    (client : Client)
    (lastError : Option ClientError)
    (state : σ) :
    ∃ left,
      performAll answer operations (client.withLastError lastError) state =
        ((performAll answer operations client state).1,
          (performAll answer operations client state).2.1.withLastError left,
          (performAll answer operations client state).2.2) := by
  induction operations generalizing client lastError state with
  | nil => exact ⟨lastError, rfl⟩
  | cons operation rest inductionHypothesis =>
      obtain ⟨sameHistory, between, sameRun⟩ :=
        run_withLastError answer operation client lastError state
      let ended := (operation.program client).run answer state
      obtain ⟨left, sameRest⟩ := inductionHypothesis ended.1.2 between ended.2
      refine ⟨left, ?_⟩
      simp only [performAll, sameHistory, sameRun]
      exact
        congrArg (fun later => (Performance.mk operation _ ended.1.1 :: later.1, later.2)) sameRest

/--
The record of a client is the failure of the latest operation that records its outcome, and nothing
else depends on it: clients that differ in it only, in the same surroundings, perform the same
operations with the same exchanges and outcomes, and differ in it only afterwards.
-/
theorem lastError_mirrors_outcome :
    (∀ (operation : Operation) (client client' : Client) (history : History)
        (outcome : Except ClientError operation.Value),
      (operation.program client).Ends history (outcome, client') →
        (operation.records = true → client'.lastError = failure? outcome) ∧
          ∀ queue, operation = .registerConsumer queue → client'.lastError = client.lastError) ∧
    ∀ (operations : List Operation) (client other : Client) (state : σ),
      other = { client with lastError := other.lastError } →
        (performAll answer operations other state).1 =
            (performAll answer operations client state).1 ∧
          (performAll answer operations other state).2.2 =
              (performAll answer operations client state).2.2 ∧
            (performAll answer operations other state).2.1 =
              { (performAll answer operations client state).2.1 with
                lastError := (performAll answer operations other state).2.1.lastError } := by
  refine ⟨fun operation client client' history outcome ends => ⟨fun records => ?_, ?_⟩, ?_⟩
  · exact lastError_of_records records ends
  · rintro queue rfl
    exact lastError_of_registerConsumer ends
  · intro operations client other state differs
    obtain ⟨left, same⟩ :=
      performAll_withLastError answer operations client other.lastError state
    have isOther : client.withLastError other.lastError = other := differs.symm
    rw [isOther] at same
    simp only [same]
    exact ⟨trivial, trivial, rfl⟩

end

/-- A wait in vain leaves its failure, which a registration keeps and later operations ignore. -/
theorem lastError_after_waiting :
    Performance.idleClient.lastError = some (.noMessage "jobs") ∧
      (∃ client', (Performance.idleClient.registerConsumer "jobs").Ends
          (Performance.waiting.history.take 2) (.ok (), client') ∧
        client'.lastError = some (.noMessage "jobs")) ∧
      (performAll Endpoint.offline [.receive "jobs" Except.ok, .reset]
          Performance.idleClient ()).1 =
        (performAll Endpoint.offline [.receive "jobs" Except.ok, .reset]
          Performance.declaredClient ()).1 := by
  obtain ⟨mirrors, noInfluence⟩ := lastError_mirrors_outcome Endpoint.offline
  have waited :=
    (mirrors Performance.waiting.operation _ _ _ _ (Performance.ends_waiting none)).1 rfl
  have registered := Performance.ends_registering (some (.noMessage "jobs"))
  refine ⟨waited, ⟨_, registered, ?_⟩, ?_⟩
  · exact ((mirrors (.registerConsumer "jobs") _ _ _ _ registered).2 "jobs" rfl).trans waited
  · exact (noInfluence _ Performance.declaredClient Performance.idleClient () rfl).1

end Client

end BrokerClient
