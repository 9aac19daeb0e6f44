import BrokerClient.Proofs.Client.Registry
import BrokerClient.Proofs.Client.Replacing

/-!
# The effect of a publish

A publish calls the transport at most twice: to declare its queue, if the client does not know it,
and to send the message, if the queue is known then and the message has a body.  What the two calls
are answered decides the outcome, what the client knows afterwards, and whether the message has to
be described.  A client without a channel knows no queue, so that it fails at the declaration and
has asked nothing.
-/

namespace BrokerClient

/-- Any answers lead a program to its end. -/
theorem Program.ends_answered
    {α : Type}
    (program : Program α)
    (answer : (request : Request) → request.Answer) :
    ∃ history value,
      Ends program history value ∧
        ∀ exchange ∈ history, exchange.answer = answer exchange.request := by
  induction program with
  | done value => exact ⟨[], value, .done value, by simp⟩
  | ask request next inductionHypothesis =>
      obtain ⟨history, value, ends, answered⟩ := inductionHypothesis (answer request)
      exact ⟨_, value, .ask (answer request) ends, List.forall_mem_cons.mpr ⟨rfl, answered⟩⟩

/-- The message of an exchange that describes one. -/
def History.described? : Exchange → Option Outgoing
  | ⟨.describe message, _⟩ => some message
  | _ => none

/-- Whether a failure shows the message that it is about. -/
def ClientError.showsMessage : ClientError → Bool
  | .serializePayload .. => true
  | .publishing .. => true
  | _ => false

/-- A body that is sent, with the identifier that it travels under and what the call is answered. -/
structure Sending where
  body : List UInt8
  messageId : MessageId
  answer : Except TransportError Unit

namespace Client

variable {client : Client} {tracing : Tracing} {queue : String} {message : Outgoing}
variable {channel : Channel} {history : History}

/-- The client that knows a queue as the broker has confirmed it. -/
def knowing (client : Client) (queue : String) (info : QueueInfo) : Client :=
  { client with queues := client.queues.insert queue info }

/-! ## Declaring and sending -/

/-- The call that declares a queue for a message: no flag is set, and there are no arguments. -/
abbrev declaration (channel : Channel) (queue : String) : Call :=
  .declare channel queue ⟨false, false, false, false, false⟩ []

/-- The call that sends a body: to the default exchange under the name of the queue. -/
abbrev sending
    (channel : Channel)
    (tracing : Tracing)
    (queue : String)
    (body : List UInt8)
    (messageId : MessageId) :
    Call :=
  .publish channel
    ⟨"", queue, false, false, body, .outgoing tracing "application/json" messageId⟩

/-- How a queue comes to be known before a message is sent to it. -/
inductive Declaring
    (client : Client)
    (queue : String) :
    Option (Except TransportError QueueInfo) → History → Outcome Unit → Prop where
  | known (known : client.hasQueue queue = true) :
      Declaring client queue none [] (.ok (), client)
  | withoutChannel
      (unknown : client.hasQueue queue = false)
      (absent : client.channel = none) :
      Declaring client queue none [] (.error noChannel, client)
  | confirmed
      {channel : Channel}
      (unknown : client.hasQueue queue = false)
      (held : client.channel = some channel)
      (info : QueueInfo) :
      Declaring client queue (some (.ok info))
        [⟨.transport (declaration channel queue), .ok info⟩] (.ok (), client.knowing queue info)
  | refused
      {channel : Channel}
      (unknown : client.hasQueue queue = false)
      (held : client.channel = some channel)
      (error : TransportError) :
      Declaring client queue (some (.error error))
        [⟨.transport (declaration channel queue), .error error⟩]
        (.error (.declareQueue queue error.message), client)

theorem declare_ends
    {ended : Outcome Unit}
    (ends : (client.declare (.new queue)).Ends history ended) :
    ∃ declaring, client.Declaring queue declaring history ended := by
  unfold declare at ends
  split at ends
  · next known =>
      obtain ⟨rfl, rfl⟩ := Program.ends_done_iff.mp ends
      exact ⟨_, .known known⟩
  · next unknown =>
      have unknown : client.hasQueue queue = false := Bool.eq_false_iff.mpr unknown
      split at ends
      · next absent =>
          obtain ⟨rfl, rfl⟩ := Program.ends_done_iff.mp ends
          exact ⟨_, .withoutChannel unknown absent⟩
      · next channel held =>
          obtain ⟨answer, rest, rfl, concludes⟩ := Program.ends_ask_iff.mp ends
          cases answer with
          | ok info =>
              obtain ⟨rfl, rfl⟩ := Program.ends_done_iff.mp concludes
              exact ⟨_, .confirmed unknown held info⟩
          | error error =>
              obtain ⟨rfl, rfl⟩ := Program.ends_done_iff.mp concludes
              exact ⟨_, .refused unknown held error⟩

/-- A failure that shows the message has it described, once. -/
theorem failWith_ends
    {error : ClientError}
    {ended : Outcome Unit}
    (ends : (client.failWith message error).Ends history ended) :
    history = [⟨.describe message, ()⟩] ∧ ended = (.error error, client) := by
  obtain ⟨answer, rest, rfl, concludes⟩ := Program.ends_ask_iff.mp ends
  obtain ⟨rfl, rfl⟩ := Program.ends_done_iff.mp concludes
  exact ⟨rfl, rfl⟩

/-- How a client that knows the queue of a message goes on. -/
inductive Delivering
    (channel : Channel)
    (tracing : Tracing)
    (queue : String)
    (message : Outgoing) :
    Option Sending → History → Except ClientError Unit → Prop where
  | unwritten {error : CodecError} (fails : message.body = .error error) :
      Delivering channel tracing queue message none
        [⟨.describe message, ()⟩]
        (.error (.serializePayload message.description error.message))
  | sent
      {body : List UInt8}
      (written : message.body = .ok body)
      (messageId : MessageId) :
      Delivering channel tracing queue message (some ⟨body, messageId, .ok ()⟩)
        [⟨.freshId, messageId⟩,
          ⟨.transport (sending channel tracing queue body messageId), .ok ()⟩]
        (.ok ())
  | refused
      {body : List UInt8}
      (written : message.body = .ok body)
      (messageId : MessageId)
      (error : TransportError) :
      Delivering channel tracing queue message (some ⟨body, messageId, .error error⟩)
        [⟨.freshId, messageId⟩,
          ⟨.transport (sending channel tracing queue body messageId), .error error⟩,
          ⟨.describe message, ()⟩]
        (.error (.publishing queue message.description error.message))

/-- A client that knows the queue of a message and holds a channel goes on in one of these ways. -/
theorem delivering_of_ends
    {ended : Outcome Unit}
    (held : client.channel = some channel)
    (ends :
      Program.Ends
        (match message.body with
          | .ok body => client.send tracing queue message body
          | .error error =>
              client.failWith message (.serializePayload message.description error.message))
        history ended) :
    ended.2 = client ∧
      ∃ sent, Delivering channel tracing queue message sent history ended.1 := by
  split at ends
  · next body written =>
      obtain ⟨messageId, rest, rfl, goesOn⟩ := Program.ends_ask_iff.mp ends
      simp only [held] at goesOn
      obtain ⟨answer, rest, rfl, concludes⟩ := Program.ends_ask_iff.mp goesOn
      cases answer with
      | ok done =>
          obtain ⟨rfl, rfl⟩ := Program.ends_done_iff.mp concludes
          exact ⟨rfl, _, .sent written messageId⟩
      | error error =>
          obtain ⟨rfl, rfl⟩ := failWith_ends concludes
          exact ⟨rfl, _, .refused written messageId error⟩
  · next error fails =>
      obtain ⟨rfl, rfl⟩ := failWith_ends ends
      exact ⟨rfl, _, .unwritten fails⟩

/-! ## The effect as a whole -/

/-- The calls of a publish on a channel, with their answers. -/
def publishingCalls
    (channel : Channel)
    (tracing : Tracing)
    (queue : String)
    (declaring : Option (Except TransportError QueueInfo))
    (sent : Option Sending) :
    List ((call : Call) × call.Answer) :=
  (declaring.map fun answer => ⟨declaration channel queue, answer⟩).toList ++
    (sent.map fun sent =>
      ⟨sending channel tracing queue sent.body sent.messageId, sent.answer⟩).toList

/-- A queue is known to a client, or made known to it by a declaration. -/
def ComesToKnow
    (client : Client)
    (queue : String)
    (declaring : Option (Except TransportError QueueInfo)) :
    Prop :=
  client.hasQueue queue = true ∨ ∃ info, declaring = some (.ok info)

/-- Why a publish fails. -/
inductive FailsToPublish
    (client : Client)
    (queue : String)
    (message : Outgoing)
    (declaring : Option (Except TransportError QueueInfo))
    (sent : Option Sending) :
    ClientError → Prop where
  | withoutChannel (absent : client.channel = none) :
      FailsToPublish client queue message declaring sent (.channel "no open channel")
  | undeclared {error : TransportError} (refused : declaring = some (.error error)) :
      FailsToPublish client queue message declaring sent (.declareQueue queue error.message)
  | unwritten
      {error : CodecError}
      (known : client.ComesToKnow queue declaring)
      (fails : message.body = .error error) :
      FailsToPublish client queue message declaring sent
        (.serializePayload message.description error.message)
  | unsent
      {body : List UInt8}
      {messageId : MessageId}
      {error : TransportError}
      (refused : sent = some ⟨body, messageId, .error error⟩) :
      FailsToPublish client queue message declaring sent
        (.publishing queue message.description error.message)

/--
The effect of a publish: what is asked, in which order, and what comes of the answers to the
declaration and to the sending of the message, each of which may not have been asked for.
-/
structure Publishes
    (client : Client)
    (tracing : Tracing)
    (queue : String)
    (message : Outgoing)
    (declaring : Option (Except TransportError QueueInfo))
    (sent : Option Sending)
    (history : History)
    (ended : Outcome Unit) :
    Prop where
  /-- Beyond the transport only an identifier and the description of the message are asked for. -/
  asks :
    ∀ exchange ∈ history,
      (∃ call, exchange.request = .transport call) ∨ exchange.request = .freshId ∨
        exchange.request = .describe message
  silent : client.channel = none → history = []
  calls :
    ∀ channel, client.channel = some channel →
      history.calls = publishingCalls channel tracing queue declaring sent
  declares_iff :
    declaring.isSome = true ↔ client.channel ≠ none ∧ client.hasQueue queue = false
  sends_iff :
    ∀ body,
      (∃ messageId answer, sent = some ⟨body, messageId, answer⟩) ↔
        client.ComesToKnow queue declaring ∧ message.body = .ok body
  ok_iff : ended.1 = .ok () ↔ ∃ body messageId, sent = some ⟨body, messageId, .ok ()⟩
  error_iff :
    ∀ error, ended.1 = .error error ↔ client.FailsToPublish queue message declaring sent error
  described :
    history.filterMap History.described? =
      if (failure? ended.1).any ClientError.showsMessage then [message] else []
  known_iff : ended.2.hasQueue queue = true ↔ client.ComesToKnow queue declaring
  others : ∀ other, other ≠ queue → ended.2.queues.get? other = client.queues.get? other
  rest : ended.2 = { client with lastError := failure? ended.1, queues := ended.2.queues }

variable {declaring : Option (Except TransportError QueueInfo)} {sent : Option Sending}

/-- A publish is over where the queue cannot be declared. -/
theorem Declaring.publishes
    {error : ClientError}
    {left : Client}
    (declares : client.Declaring queue declaring history (.error error, left)) :
    client.Publishes tracing queue message declaring none history
      (recorded (.error error, left)) := by
  cases declares with
  | withoutChannel unknown absent =>
      have notKnown : ¬ client.ComesToKnow queue none := by simp [ComesToKnow, unknown]
      exact {
        asks := by simp
        silent := fun _ => rfl
        calls := by simp [absent]
        declares_iff := by simp [absent]
        sends_iff := by simp [notKnown]
        ok_iff := by simp
        error_iff := by
          intro error
          constructor
          · rintro ⟨⟩
            exact .withoutChannel absent
          · intro fails
            cases fails with
            | withoutChannel absent => rfl
            | unwritten known fails => exact absurd known notKnown
            | undeclared refused => cases refused
            | unsent refused => cases refused
        described := rfl
        known_iff := iff_of_false (ne_true_of_eq_false unknown) notKnown
        others := fun _ _ => rfl
        rest := rfl }
  | @refused channel unknown held error =>
      have notKnown : ¬ client.ComesToKnow queue (some (.error error)) := by
        simp [ComesToKnow, unknown]
      exact {
        asks := by simp
        silent := by simp [held]
        calls := by
          intro other isHeld
          cases held.symm.trans isHeld
          rfl
        declares_iff := by simp [held, unknown]
        sends_iff := by simp [notKnown]
        ok_iff := by simp
        error_iff := by
          intro found
          constructor
          · rintro ⟨⟩
            exact .undeclared rfl
          · intro fails
            cases fails with
            | withoutChannel absent => cases held.symm.trans absent
            | undeclared refused =>
                cases refused
                rfl
            | unwritten known fails => exact absurd known notKnown
            | unsent refused => cases refused
        described := rfl
        known_iff := iff_of_false (ne_true_of_eq_false unknown) notKnown
        others := fun _ _ => rfl
        rest := rfl }

/-- What a declaration has done when the queue is known behind it. -/
theorem Declaring.declared
    {left : Client}
    (held : client.channel = some channel)
    (declares : client.Declaring queue declaring history (.ok (), left)) :
    client.ComesToKnow queue declaring ∧
      (declaring.isSome = true ↔ client.hasQueue queue = false) ∧
      (∀ error, declaring ≠ some (.error error)) ∧
      history = (declaring.map fun answer =>
        ⟨.transport (declaration channel queue), answer⟩).toList := by
  cases declares with
  | known known => exact ⟨.inl known, by simp [known], by simp, rfl⟩
  | confirmed unknown isHeld info =>
      cases held.symm.trans isHeld
      exact ⟨.inr ⟨info, rfl⟩, by simp [unknown], by simp, rfl⟩

/-- What a client is when it knows the queue. -/
theorem Declaring.left
    {left : Client}
    (declares : client.Declaring queue declaring history (.ok (), left)) :
    left.hasQueue queue = true ∧
      (∀ other, other ≠ queue → left.queues.get? other = client.queues.get? other) ∧
      left = { client with queues := left.queues } := by
  cases declares with
  | known known => exact ⟨known, fun _ _ => rfl, rfl⟩
  | confirmed unknown held info =>
      refine ⟨by simp [knowing, hasQueue, Dictionary.contains], fun other differs => ?_, rfl⟩
      exact Dictionary.get?_insert_other _ _ differs

namespace Delivering

variable {outcome : Except ClientError Unit}

theorem asks
    (delivers : Delivering channel tracing queue message sent history outcome) :
    ∀ exchange ∈ history,
      (∃ call, exchange.request = .transport call) ∨ exchange.request = .freshId ∨
        exchange.request = .describe message := by
  cases delivers <;> simp

theorem calls_eq
    (delivers : Delivering channel tracing queue message sent history outcome) :
    history.calls =
      (sent.map fun sent =>
        ⟨sending channel tracing queue sent.body sent.messageId, sent.answer⟩).toList := by
  cases delivers <;> rfl

theorem described_eq
    (delivers : Delivering channel tracing queue message sent history outcome) :
    history.filterMap History.described? =
      if (failure? outcome).any ClientError.showsMessage then [message] else [] := by
  cases delivers <;> rfl

/-- The message is sent if it has a body, and it is that body which is sent. -/
theorem sends_iff
    (delivers : Delivering channel tracing queue message sent history outcome)
    (body : List UInt8) :
    (∃ messageId answer, sent = some ⟨body, messageId, answer⟩) ↔ message.body = .ok body := by
  cases delivers with
  | unwritten fails => simp [fails]
  | sent written => simp [written]
  | refused written => simp [written]

theorem ok_iff
    (delivers : Delivering channel tracing queue message sent history outcome) :
    outcome = .ok () ↔ ∃ body messageId, sent = some ⟨body, messageId, .ok ()⟩ := by
  cases delivers <;> simp

/-- Behind a declaration that succeeds only the message itself and its sending can fail. -/
theorem error_iff
    (delivers : Delivering channel tracing queue message sent history outcome)
    (held : client.channel = some channel)
    (known : client.ComesToKnow queue declaring)
    (notRefused : ∀ error, declaring ≠ some (.error error))
    (error : ClientError) :
    outcome = .error error ↔ client.FailsToPublish queue message declaring sent error := by
  constructor
  · rintro rfl
    cases delivers with
    | unwritten fails => exact .unwritten known fails
    | refused written messageId error => exact .unsent rfl
  · intro fails
    cases fails with
    | withoutChannel absent => cases held.symm.trans absent
    | undeclared refused => exact absurd refused (notRefused _)
    | unwritten known fails =>
        cases delivers with
        | unwritten isReason =>
            cases fails.symm.trans isReason
            rfl
        | sent written => cases fails.symm.trans written
        | refused written => cases fails.symm.trans written
    | unsent refused =>
        cases delivers with
        | refused written => cases refused; rfl
        | _ => cases refused

/-- A publish goes on where the queue is known. -/
theorem publishes
    {declared : History}
    {left : Client}
    (delivers : Delivering channel tracing queue message sent history outcome)
    (held : client.channel = some channel)
    (declares : client.Declaring queue declaring declared (.ok (), left)) :
    client.Publishes tracing queue message declaring sent (declared ++ history)
      (recorded (outcome, left)) := by
  obtain ⟨known, declares_iff, notRefused, rfl⟩ := declares.declared held
  obtain ⟨leftKnows, others, rest⟩ := declares.left
  exact {
    asks := by
      intro exchange member
      rcases List.mem_append.mp member with isDeclared | isDelivered
      · obtain ⟨answer, -, rfl⟩ : ∃ answer, declaring = some answer ∧ _ = exchange := by
          simpa using isDeclared
        exact .inl ⟨_, rfl⟩
      · exact delivers.asks exchange isDelivered
    silent := fun absent => by cases held.symm.trans absent
    calls := by
      intro other isHeld
      cases held.symm.trans isHeld
      rw [History.calls_append, delivers.calls_eq, publishingCalls]
      cases declaring <;> rfl
    declares_iff := by simp [held, declares_iff]
    sends_iff := by simp [known, delivers.sends_iff]
    ok_iff := delivers.ok_iff
    error_iff := delivers.error_iff held known notRefused
    described := by
      rw [List.filterMap_append, delivers.described_eq]
      cases declaring <;> rfl
    known_iff := iff_of_true leftKnows known
    others := others
    rest := by rw [recorded, rest] }

end Delivering

/-- Whatever a publish is answered, it has its effect. -/
theorem publishes_of_ends
    {ended : Outcome Unit}
    (coherent : client.Coherent)
    (ends : (client.publish tracing queue message).Ends history ended) :
    ∃ declaring sent,
      client.Publishes tracing queue message declaring sent history ended := by
  obtain ⟨found, operates, rfl⟩ := record_ends_iff.mp ends
  obtain ⟨first, second, ⟨outcome, left⟩, rfl, declares, goesOn⟩ :=
    Program.ends_bind_iff.mp operates
  obtain ⟨declaring, declares⟩ := declare_ends declares
  cases outcome with
  | error error =>
      obtain ⟨rfl, rfl⟩ := Program.ends_done_iff.mp goesOn
      exact ⟨declaring, none, by simpa using declares.publishes⟩
  | ok done =>
      obtain ⟨channel, held⟩ : ∃ channel, client.channel = some channel := by
        cases declares with
        | known known =>
            refine Option.ne_none_iff_exists'.mp fun absent => ?_
            simp [hasQueue, coherent.queues_of_no_channel absent, Dictionary.contains] at known
        | confirmed unknown held info => exact ⟨_, held⟩
      have leftHolds : left.channel = some channel := by
        rw [declares.left.2.2]
        exact held
      obtain ⟨rfl, sent, delivers⟩ := delivering_of_ends leftHolds goesOn
      exact ⟨declaring, sent, delivers.publishes held declares⟩

/--
Whatever a publish of a client that has come from a fresh one is answered, it ends, and it has its
effect: at most two calls in their order, an outcome that they and the message decide, a message
that is described exactly if the failure shows it, and a queue that is known if it was before or was
declared.
-/
theorem publish_effect
    {connection : Connection}
    {url consumerId : String}
    {options : Options}
    {performances : List Performance}
    (runs : (Client.new connection url consumerId options).Runs performances client)
    (tracing : Tracing)
    (queue : String)
    (message : Outgoing) :
    (∀ answer : (request : Request) → request.Answer,
      ∃ history ended,
        (client.publish tracing queue message).Ends history ended ∧
          ∀ exchange ∈ history, exchange.answer = answer exchange.request) ∧
      ∀ history ended,
        (client.publish tracing queue message).Ends history ended →
          ∃ declaring sent,
            client.Publishes tracing queue message declaring sent history ended := by
  have coherent : client.Coherent :=
    (runs.accounts (coherent_new _ _ _ _) rfl .reset).coherent
  exact ⟨Program.ends_answered _, fun _ _ ends => publishes_of_ends coherent ends⟩

/-- A message to a queue that is known is sent and not shown; without a channel nothing happens. -/
theorem publish_effect_after_waiting :
    (Client.new ⟨0, 0⟩ "memory" "worker" .default).Runs
        [Performance.opening, Performance.declaring, Performance.waiting] Performance.idleClient ∧
      ∀ history ended,
        (Performance.idleClient.publish ⟨.silent, none⟩ "jobs" ⟨.ok [0x31], "1"⟩).Ends history
            ended →
          ∃ messageId answer,
            history.calls =
                [⟨sending ⟨0, 0⟩ ⟨.silent, none⟩ "jobs" [0x31] messageId, answer⟩] ∧
              (ended.1 = .ok () ↔ answer = .ok ()) := by
  refine ⟨Performance.runs_waiting, fun history ended ends => ?_⟩
  obtain ⟨declaring, sent, effect⟩ :=
    (publish_effect Performance.runs_waiting ⟨.silent, none⟩ "jobs" ⟨.ok [0x31], "1"⟩).2 _ _ ends
  obtain rfl : declaring = none := by
    cases declaring with
    | none => rfl
    | some answer => cases (effect.declares_iff.mp rfl).2
  obtain ⟨messageId, answer, rfl⟩ := (effect.sends_iff [0x31]).mpr ⟨.inl rfl, rfl⟩
  refine ⟨messageId, answer, effect.calls _ rfl, effect.ok_iff.trans ?_⟩
  simp

end Client

end BrokerClient
