import BrokerClient.Proofs.Network.Alone

/-!
# Operations that are over at once

Of all that a client is asked to do only receiving waits.  Any other operation is over with the move
that starts it: nothing comes between, so what its program attains alone is what has come about
then, and in all other places nothing has changed.  Nor does it fail with a delivery, as receiving
does where one cannot be used.
-/

namespace BrokerClient

/-- A failure that carries no delivery, or none. -/
def FailsPlainly {α : Type} (outcome : Except ClientError α) : Prop :=
  ∀ error, outcome = .error error → error.delivery? = none

theorem failsPlainly_ok {α : Type} (value : α) : FailsPlainly (.ok value) := by
  intro error isError
  cases isError

theorem failsPlainly_error {α : Type} {error : ClientError} (noDelivery : error.delivery? = none) :
    FailsPlainly (.error error : Except ClientError α) := by
  intro other isError
  cases isError
  exact noDelivery

namespace Program

/-- Nothing that a program asks makes it wait. -/
def IsPrompt (program : Program α) : Prop :=
  program.Meets (.only fun request => request.waits = false) (fun _ _ => True) ()

/-- A program never waits, and if it fails it does so without a delivery. -/
def IsPlain (program : Program (Outcome α)) : Prop :=
  program.Meets (.only fun request => request.waits = false)
    (fun ended _ => FailsPlainly ended.1) ()

section

variable {α β : Type}

theorem IsPlain.isPrompt {program : Program (Outcome α)} (plain : program.IsPlain) :
    program.IsPrompt :=
  plain.mono fun _ _ _ => trivial

theorem isPrompt_request {request : Request} (goesOn : request.waits = false) :
    (Program.request request).IsPrompt :=
  ⟨goesOn, fun _ => trivial⟩

/-- The transport answers at once. -/
theorem isPrompt_call (call : Call) : (Program.call call).IsPrompt :=
  isPrompt_request rfl

theorem IsPrompt.bind
    {program : Program α}
    {next : α → Program β}
    (prompt : program.IsPrompt)
    (goesOn : ∀ value, (next value).IsPrompt) :
    (program >>= next).IsPrompt :=
  Meets.bind prompt fun value _ _ => goesOn value

theorem IsPrompt.bind_plain
    {program : Program α}
    {next : α → Program (Outcome β)}
    (prompt : program.IsPrompt)
    (goesOn : ∀ value, (next value).IsPlain) :
    (program >>= next).IsPlain :=
  Meets.bind prompt fun value _ _ => goesOn value

/-- A program that is plain may hand its failure on. -/
theorem IsPlain.bind
    {program : Program (Outcome α)}
    {next : Outcome α → Program (Outcome β)}
    (plain : program.IsPlain)
    (goesOn : ∀ ended, FailsPlainly ended.1 → (next ended).IsPlain) :
    (program >>= next).IsPlain :=
  Meets.bind plain fun ended _ fails => goesOn ended fails

theorem isPlain_ok (value : α) (client : Client) :
    (Program.done (.ok value, client) : Program (Outcome α)).IsPlain :=
  failsPlainly_ok value

theorem isPlain_error
    {error : ClientError}
    (noDelivery : error.delivery? = none)
    (client : Client) :
    (Program.done (.error error, client) : Program (Outcome α)).IsPlain :=
  failsPlainly_error noDelivery

end

end Program

namespace Client

open Program

variable {client : Client}

theorem isPlain_record {α : Type} {operation : Program (Outcome α)}
    (plain : operation.IsPlain) : (record operation).IsPlain :=
  plain.bind fun _ fails => fails

theorem isPrompt_releaseAll (streams : List Stream) : (releaseAll streams).IsPrompt := by
  induction streams with
  | nil => trivial
  | cons stream rest inductionHypothesis =>
      exact (isPrompt_request rfl).bind fun _ => inductionHypothesis

/-! ## Channels -/

theorem isPlain_redial : client.redial.IsPlain := by
  refine (isPrompt_request rfl).bind_plain fun isClosed => ?_
  split
  · refine (isPrompt_call _).bind_plain fun answer => ?_
    cases answer with
    | ok connection => exact isPlain_ok _ _
    | error error => exact isPlain_error rfl _
  · exact isPlain_ok _ _

theorem isPrompt_closeChannel : client.closeChannel.IsPrompt := by
  unfold closeChannel
  split
  · exact (isPrompt_call _).bind fun _ => trivial
  · trivial

theorem isPlain_replaceChannel : client.replaceChannel.IsPlain := by
  refine isPrompt_closeChannel.bind_plain fun _ => (isPrompt_releaseAll _).bind_plain fun _ => ?_
  refine (isPrompt_call _).bind_plain fun answer => ?_
  cases answer with
  | ok channel => exact isPlain_ok _ _
  | error error => exact isPlain_error rfl _

theorem isPlain_reopen : client.reopen.IsPlain := by
  refine isPlain_redial.bind fun ended fails => ?_
  obtain ⟨outcome, client⟩ := ended
  cases outcome with
  | ok value => exact isPlain_replaceChannel
  | error error => exact isPlain_error (fails error rfl) _

theorem isPlain_closeBoth : client.closeBoth.IsPlain := by
  refine isPrompt_closeChannel.bind_plain fun _ => (isPrompt_call _).bind_plain fun answer => ?_
  cases answer with
  | ok closed => exact isPlain_ok _ _
  | error error => exact isPlain_error rfl _

/-! ## Queues and messages -/

theorem isPlain_declare (definition : QueueDefinition) :
    (client.declare definition).IsPlain := by
  unfold declare
  split
  · exact isPlain_ok _ _
  · split
    · exact isPlain_error rfl _
    · refine (isPrompt_call _).bind_plain fun answer => ?_
      cases answer with
      | ok info => exact isPlain_ok _ _
      | error error => exact isPlain_error rfl _

theorem isPlain_inspect (queue : String) : (client.inspect queue).IsPlain := by
  unfold inspect
  split
  · exact isPlain_error rfl _
  · refine (isPrompt_call _).bind_plain fun answer => ?_
    cases answer with
    | ok info => exact isPlain_ok _ _
    | error error => exact isPlain_error rfl _

theorem isPlain_delete (queue : String) : (client.delete queue).IsPlain := by
  unfold delete
  split
  · exact isPlain_error rfl _
  · refine (isPrompt_call _).bind_plain fun answer => ?_
    cases answer with
    | ok purged =>
        refine IsPrompt.bind_plain ?_ fun _ => isPlain_ok _ _
        exact (isPrompt_releaseAll _).bind fun _ => trivial
    | error error => exact isPlain_error rfl _

theorem isPlain_failWith
    (message : Outgoing)
    {error : ClientError}
    (noDelivery : error.delivery? = none) :
    (client.failWith message error).IsPlain :=
  (isPrompt_request rfl).bind_plain fun _ => isPlain_error noDelivery _

theorem isPlain_send
    (tracing : Tracing)
    (queue : String)
    (message : Outgoing)
    (body : List UInt8) :
    (client.send tracing queue message body).IsPlain := by
  refine (isPrompt_request rfl).bind_plain fun messageId => ?_
  split
  · exact isPlain_error rfl _
  · refine (isPrompt_call _).bind_plain fun answer => ?_
    cases answer with
    | ok confirmed => exact isPlain_ok _ _
    | error error => exact isPlain_failWith message rfl

theorem isPlain_sendDeclared (tracing : Tracing) (queue : String) (message : Outgoing) :
    (client.sendDeclared tracing queue message).IsPlain := by
  refine (isPlain_declare _).bind fun ended fails => ?_
  obtain ⟨outcome, client⟩ := ended
  cases outcome with
  | ok value =>
      dsimp only
      split
      · exact isPlain_send tracing queue message _
      · exact isPlain_failWith message rfl
  | error error => exact isPlain_error (fails error rfl) _

end Client

/-- An operation that receives nothing never waits, and never fails with a delivery. -/
theorem Operation.isPlain_program
    {operation : Operation}
    (receivesNothing : operation.source? = none)
    (client : Client) :
    (operation.program client).IsPlain := by
  cases operation with
  | reset => exact Client.isPlain_record Client.isPlain_reopen
  | ensureQueue definition => exact Client.isPlain_record (Client.isPlain_declare definition)
  | inspectQueue queue => exact Client.isPlain_record (Client.isPlain_inspect queue)
  | deleteQueue queue => exact Client.isPlain_record (Client.isPlain_delete queue)
  | publish tracing queue message =>
      exact Client.isPlain_record (Client.isPlain_sendDeclared tracing queue message)
  | close => exact Client.isPlain_record Client.isPlain_closeBoth
  | setLastError error => exact Program.isPlain_ok _ _
  | resetError => exact Program.isPlain_ok _ _
  | receive queue decode => cases receivesNothing
  | registerConsumer queue => cases receivesNothing

namespace Network

variable {network : Network} {place : Nat} {operation : Operation}

/-- A party is done with an operation, and the log tells what has happened meanwhile. -/
def doneWith
    (network : Network)
    (place : Nat)
    (operation : Operation)
    (told : List Event)
    (ended : Outcome operation.Value)
    (after : Broker)
    (drawnIds : Nat) :
    Network where
  broker := after
  drawnIds := drawnIds
  parties := network.parties.set place (.idle ended.2)
  log := network.log ++ told ++ [.finished place operation ended.1]

/-- A party whose program never waits goes on to its end. -/
theorem proceed_of_isPrompt
    {fits : Outcome operation.Value → Broker → Prop}
    {program : Program (Outcome operation.Value)}
    {standing : Standing}
    (prompt : program.IsPrompt)
    (attains : program.Attains fits network.broker network.drawnIds) :
    ∃ told ended after drawnIds,
      network.proceed place operation program standing =
          network.doneWith place operation told ended after drawnIds ∧
        fits ended after := by
  induction program generalizing network standing with
  | done ended =>
      refine ⟨[], ended, network.broker, network.drawnIds, ?_, attains⟩
      simp [proceed, finish, seat, tell, doneWith]
  | ask request next inductionHypothesis =>
      have goesOn : ¬ request.waits = true := by
        rw [(prompt.1 : request.waits = false)]
        exact Bool.false_ne_true
      let left := network.exchange place operation standing request next
      have attainsLeft :
          (next (network.answer request)).Attains fits left.broker left.drawnIds := by
        obtain ⟨broker, drawnIds⟩ := surroundings_exchange network place standing request next
        rw [broker, drawnIds, ← answer_around]
        exact attains
      obtain ⟨told, ended, after, drawnIds, isDone, isFit⟩ :=
        inductionHypothesis _ (prompt.2 (network.answer request)) attainsLeft
      obtain ⟨event, log⟩ := log_exchange network place standing request next
      refine ⟨event :: told, ended, after, drawnIds, ?_, isFit⟩
      rw [proceed_of_not_waits goesOn]
      refine isDone.trans ?_
      simp [doneWith, left, log]

/-- What an operation attains that receives nothing has come about with the move that starts it. -/
theorem step_start_of_attains
    {client : Client}
    {fits : Outcome operation.Value → Broker → Prop}
    (idle : network.parties[place]? = some (.idle client))
    (receivesNothing : operation.source? = none)
    (attains : (operation.program client).Attains fits network.broker network.drawnIds) :
    ∃ told ended after drawnIds,
      network.step (.start place operation) =
          network.doneWith place operation told ended after drawnIds ∧
        fits ended after := by
  let begun := network.seat place (.busy operation (.start client) (operation.program client))
  obtain ⟨told, ended, after, drawnIds, isDone, isFit⟩ :=
    @proceed_of_isPrompt begun place operation fits _ (.start client)
      (Operation.isPlain_program receivesNothing client).isPrompt attains
  refine ⟨told, ended, after, drawnIds, ?_, isFit⟩
  rw [step_start idle]
  refine isDone.trans ?_
  simp [doneWith, begun, seat]

/-- A party starts an operation and is done with it at once, with an outcome that fits. -/
def Returns
    (network : Network)
    (place : Nat)
    (operation : Operation)
    (fits : Except ClientError operation.Value → Prop) : Prop :=
  ∃ told outcome,
    (network.step (.start place operation)).log =
        network.log ++ told ++ [.finished place operation outcome] ∧
      fits outcome

theorem returns_of_attains
    {client : Client}
    {fits : Except ClientError operation.Value → Prop}
    (idle : network.parties[place]? = some (.idle client))
    (receivesNothing : operation.source? = none)
    (attains :
      (operation.program client).Attains (fun ended _ => fits ended.1) network.broker
        network.drawnIds) :
    network.Returns place operation fits := by
  obtain ⟨told, ended, after, drawnIds, isDone, isFit⟩ :=
    step_start_of_attains idle receivesNothing attains
  exact ⟨told, ended.1, by rw [isDone]; rfl, isFit⟩

end Network

end BrokerClient
