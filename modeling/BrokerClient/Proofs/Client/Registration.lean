import BrokerClient.Proofs.Client.Replacing
import BrokerClient.Proofs.Network.Course
import Mathlib.Algebra.Ring.Nat

/-!
# What a registration costs

A registration goes through stages of negotiating flow control, with one attempt to consume behind
each of them.  An attempt of a stage is repeated after a pause and on a new channel; an attempt to
consume is repeated on a new channel, after a pause and behind a new stage.  Getting a new channel
may fail, and then the next attempt has none to ask.

The shape of a registration is a relation between the client, the retries of its stages and the
history.  What is counted along a history follows from the shape alone, and the budgets of the
policies bound the shape.
-/

namespace BrokerClient

/-! ## Counting -/

/-- What is counted along a history. -/
@[ext]
structure Tally where
  /-- The attempts to consume. -/
  consumptions : Nat
  /-- The looks at the connection, each of which starts to seek a new channel. -/
  reopenings : Nat
  pauses : Nat
  /-- The time that passes if calls to the transport take none. -/
  milliseconds : Nat
  deriving DecidableEq

namespace Tally

instance : Zero Tally := ⟨⟨0, 0, 0, 0⟩⟩

instance : Add Tally where
  add first second :=
    ⟨first.consumptions + second.consumptions, first.reopenings + second.reopenings,
      first.pauses + second.pauses, first.milliseconds + second.milliseconds⟩

variable {first second third : Tally}

@[simp] theorem consumptions_zero : (0 : Tally).consumptions = 0 :=
  rfl

@[simp] theorem reopenings_zero : (0 : Tally).reopenings = 0 :=
  rfl

@[simp] theorem pauses_zero : (0 : Tally).pauses = 0 :=
  rfl

@[simp] theorem milliseconds_zero : (0 : Tally).milliseconds = 0 :=
  rfl

@[simp] theorem consumptions_add :
    (first + second).consumptions = first.consumptions + second.consumptions :=
  rfl

@[simp] theorem reopenings_add :
    (first + second).reopenings = first.reopenings + second.reopenings :=
  rfl

@[simp] theorem pauses_add : (first + second).pauses = first.pauses + second.pauses :=
  rfl

@[simp] theorem milliseconds_add :
    (first + second).milliseconds = first.milliseconds + second.milliseconds :=
  rfl

@[simp] theorem zero_add : 0 + first = first := by
  ext <;> simp

theorem add_assoc : first + second + third = first + (second + third) := by
  ext <;> simp [Nat.add_assoc]

end Tally

/-- What an exchange counts for. -/
def Exchange.tally : Exchange → Tally
  | ⟨.transport (.consume ..), _⟩ => ⟨1, 0, 0, 0⟩
  | ⟨.isClosed _, _⟩ => ⟨0, 1, 0, 0⟩
  | ⟨.sleep duration, _⟩ => ⟨0, 0, 1, duration.milliseconds⟩
  | exchange => ⟨0, 0, 0, exchange.waited⟩

namespace History

/-- What a history counts for. -/
def tally : History → Tally
  | [] => 0
  | exchange :: rest => exchange.tally + tally rest

variable {history first second : History} {exchange : Exchange}

@[simp] theorem tally_nil : tally [] = 0 :=
  rfl

@[simp] theorem tally_cons : tally (exchange :: history) = exchange.tally + history.tally :=
  rfl

/-- A history counts for what its parts count for. -/
@[simp] theorem tally_append : tally (first ++ second) = first.tally + second.tally := by
  induction first with
  | nil => simp
  | cons exchange rest inductionHypothesis =>
      simp only [List.cons_append, tally_cons, inductionHypothesis, Tally.add_assoc]

/-- Exchanges that each count for nothing count for nothing. -/
theorem tally_eq_zero (each : ∀ exchange ∈ history, exchange.tally = 0) : history.tally = 0 := by
  induction history with
  | nil => rfl
  | cons exchange rest inductionHypothesis =>
      have restCounts := inductionHypothesis fun other member => each other (.tail _ member)
      rw [tally_cons, each exchange (.head _), restCounts, Tally.zero_add]

end History

/-! ## Seeking a new channel -/

/-- The requests on the way from an old channel to a new one. -/
def Request.Renews : Request → Prop
  | .transport (.dial _) => True
  | .transport (.openChannel _) => True
  | .transport (.closeChannel _) => True
  | .release _ => True
  | _ => False

/-- An exchange on the way to a new channel counts for nothing. -/
theorem Exchange.tally_of_renews
    {exchange : Exchange}
    (renews : exchange.request.Renews) :
    exchange.tally = 0 := by
  obtain ⟨request, answer⟩ := exchange
  cases request with
  | transport call =>
      cases call with
      | dial | openChannel | closeChannel => rfl
      | _ => cases renews
  | release stream => rfl
  | _ => cases renews

/-- A look at the connection, then what leads to a new channel or fails to, a call at the end. -/
def History.Reopens (history : History) : Prop :=
  ∃ connection closed between call answer,
    history = ⟨.isClosed connection, closed⟩ :: (between ++ [⟨.transport call, answer⟩]) ∧
      (∀ exchange ∈ between, exchange.request.Renews) ∧ Request.Renews (.transport call)

/-- To seek a new channel counts as one reopening, which takes no time. -/
theorem History.Reopens.tally
    {history : History}
    (reopens : history.Reopens) :
    history.tally = ⟨0, 1, 0, 0⟩ := by
  obtain ⟨connection, closed, between, call, answer, rfl, renews, lastRenews⟩ := reopens
  have betweenCounts : History.tally between = 0 :=
    tally_eq_zero fun exchange member => Exchange.tally_of_renews (renews exchange member)
  have lastCounts : Exchange.tally ⟨.transport call, answer⟩ = 0 :=
    Exchange.tally_of_renews lastRenews
  simp only [tally_cons, tally_append, tally_nil, betweenCounts, lastCounts]
  rfl

namespace Client

/-- What a client keeps while it is registered, whatever becomes of its channel. -/
structure SameSettings (client other : Client) : Prop where
  options : other.options = client.options
  consumerId : other.consumerId = client.consumerId

namespace SameSettings

variable {client other third : Client}

theorem refl (client : Client) : client.SameSettings client :=
  ⟨rfl, rfl⟩

theorem trans
    (same : client.SameSettings other)
    (further : other.SameSettings third) :
    client.SameSettings third :=
  ⟨further.options.trans same.options, further.consumerId.trans same.consumerId⟩

end SameSettings

variable {client : Client} {history : History}

/-- What gives a channel up is on the way to a new one. -/
theorem GivesUp.renews (givesUp : client.GivesUp history) :
    ∀ exchange ∈ history, exchange.request.Renews := by
  have releasing (streams : List Stream) :
      ∀ exchange ∈ streams.map (fun stream => (⟨.release stream, ()⟩ : Exchange)),
        exchange.request.Renews := by
    intro exchange member
    obtain ⟨stream, -, rfl⟩ := List.mem_map.mp member
    trivial
  intro exchange member
  cases givesUp with
  | holding held answer =>
      cases member with
      | head => trivial
      | tail _ inRest => exact releasing _ exchange inRest
  | without absent => exact releasing _ exchange member

/-- A client that is to get a new channel looks at its connection once and ends with a call. -/
theorem reopen_ends
    {ended : Outcome Unit}
    (ends : client.reopen.Ends history ended) :
    history.Reopens ∧ client.SameSettings ended.2 := by
  have opens
      {connecting closing : History}
      {reached : Client}
      (reconnects : client.Reconnects connecting reached)
      (givesUp : reached.GivesUp closing)
      (answer : Except TransportError Channel) :
      History.Reopens
          (connecting ++ (closing ++ [⟨.transport (.openChannel reached.connection), answer⟩])) ∧
        client.SameSettings reached := by
    cases reconnects with
    | usable =>
        exact
          ⟨⟨_, _, closing, .openChannel client.connection, answer, rfl, givesUp.renews, trivial⟩,
            .refl client⟩
    | dialed connection =>
        refine ⟨⟨_, _, ⟨.transport (.dial client.url), .ok connection⟩ :: closing,
          .openChannel connection, answer, rfl, ?_, trivial⟩, rfl, rfl⟩
        intro exchange member
        cases member with
        | head => trivial
        | tail _ inRest => exact givesUp.renews exchange inRest
  cases reopen_ends_iff.mp ends with
  | undialed error => exact ⟨⟨_, _, [], _, _, rfl, by simp, trivial⟩, .refl client⟩
  | refused reconnects givesUp error =>
      obtain ⟨reopens, same⟩ := opens reconnects givesUp (.error error)
      exact ⟨reopens, same.options, same.consumerId⟩
  | granted reconnects givesUp channel =>
      obtain ⟨reopens, same⟩ := opens reconnects givesUp (.ok channel)
      exact ⟨reopens, same.options, same.consumerId⟩

end Client

/-! ## The shape of a registration -/

/-- An attempt to negotiate flow control; without a channel there is nothing to ask. -/
inductive Attempt (client : Client) : History → Except TransportError Unit → Prop where
  | asked
      {channel : Channel}
      (held : client.channel = some channel)
      (answer : Except TransportError Unit) :
      Attempt client
        [⟨.transport (.qos channel client.options.prefetchCount false), answer⟩] answer
  | unasked (absent : client.channel = none) :
      Attempt client [] (.error Client.channelMissing)

/--
A stage with a number of retries, what the last attempt came to and the client then.  Each retry
follows a failure that the policy considers worth it, pauses and seeks a new channel.
-/
inductive Stage : Client → Nat → History → Except TransportError Unit → Client → Prop where
  | last
      {client : Client}
      {history : History}
      {answer : Except TransportError Unit}
      (attempt : Attempt client history answer) :
      Stage client 0 history answer client
  | again
      {client fresh left : Client}
      {retries : Nat}
      {attempting reopening rest : History}
      {error : TransportError}
      {outcome : Except ClientError Unit}
      {answer : Except TransportError Unit}
      (attempt : Attempt client attempting (.error error))
      (retried : client.options.reconnect.retryOn error = true)
      (reopened : client.reopen.Ends reopening (outcome, fresh))
      (goesOn : Stage fresh retries rest answer left) :
      Stage client (retries + 1)
        (attempting ++ ⟨.sleep client.options.reconnect.backoff, ()⟩ :: (reopening ++ rest))
        answer left

/-- What the last attempt of a registration came to. -/
inductive Ending where
  /-- The attempt to consume yields a stream. -/
  | registered (stream : Stream)
  /-- The attempt to consume fails. -/
  | refused (error : TransportError)
  /-- The attempt to negotiate flow control fails. -/
  | unnegotiated (error : TransportError)

/-- The outcome that tells how a registration ended. -/
def Ending.outcome (queue consumer : String) : Ending → Except ClientError Unit
  | .registered _ => .ok ()
  | .refused error => .error (.consumerDeclaration queue consumer error.message)
  | .unnegotiated error => .error (.qosDeclaration queue consumer error.message)

/-- An attempt to consume on a channel, with its answer. -/
def Client.consumption
    (client : Client)
    (channel : Channel)
    (queue : String)
    (answer : Except TransportError Stream) : Exchange :=
  ⟨.transport (.consume channel queue client.consumerId Client.consumeFlags), answer⟩

/--
A registration with the retries of each of its stages, how it ends and the client then.  Behind
each stage that succeeds stands one attempt to consume, on the channel that is held.  Behind each
attempt that fails and is worth a retry, a new channel is sought and a pause made.
-/
inductive Registration (queue : String) :
    Client → List Nat → History → Ending → Client → Prop where
  | unnegotiated
      {client left : Client}
      {retries : Nat}
      {history : History}
      {error : TransportError}
      (stage : Stage client retries history (.error error) left) :
      Registration queue client [retries] history (.unnegotiated error) left
  | registered
      {client left : Client}
      {retries : Nat}
      {staging : History}
      {channel : Channel}
      {stream : Stream}
      (stage : Stage client retries staging (.ok ()) left)
      (held : left.channel = some channel) :
      Registration queue client [retries]
        (staging ++ left.consumption channel queue (.ok stream) ::
          (left.streams.get? queue).toList.map fun replaced => ⟨.release replaced, ()⟩)
        (.registered stream)
        { left with streams := left.streams.insert queue stream }
  | refused
      {client left : Client}
      {retries : Nat}
      {staging : History}
      {channel : Channel}
      {error : TransportError}
      (stage : Stage client retries staging (.ok ()) left)
      (held : left.channel = some channel) :
      Registration queue client [retries]
        (staging ++ [left.consumption channel queue (.error error)])
        (.refused error) left
  | again
      {client negotiated fresh left : Client}
      {retries : Nat}
      {stages : List Nat}
      {staging reopening rest : History}
      {channel : Channel}
      {error : TransportError}
      {outcome : Except ClientError Unit}
      {ending : Ending}
      (stage : Stage client retries staging (.ok ()) negotiated)
      (held : negotiated.channel = some channel)
      (retried : negotiated.options.notFound.retryOn error = true)
      (reopened : negotiated.reopen.Ends reopening (outcome, fresh))
      (goesOn : Registration queue fresh stages rest ending left) :
      Registration queue client (retries :: stages)
        (staging ++ negotiated.consumption channel queue (.error error) ::
          (reopening ++ ⟨.sleep fresh.options.notFound.backoff, ()⟩ :: rest))
        ending left

/-! ## Every registration has the shape -/

namespace Client

variable {client : Client} {queue : String} {history : History}

theorem qos_ends
    {answer : Except TransportError Unit}
    (ends : client.qos.Ends history answer) :
    Attempt client history answer := by
  unfold qos at ends
  split at ends
  · next channel held =>
      obtain ⟨found, rest, rfl, concludes⟩ := Program.ends_ask_iff.mp ends
      obtain ⟨rfl, rfl⟩ := Program.ends_done_iff.mp concludes
      exact .asked held answer
  · next absent =>
      obtain ⟨rfl, rfl⟩ := Program.ends_done_iff.mp ends
      exact .unasked absent

/-- Where a negotiation succeeds, a channel is held. -/
theorem channel_of_attempt (attempt : Attempt client history (.ok ())) :
    ∃ channel, client.channel = some channel := by
  cases attempt with
  | asked held => exact ⟨_, held⟩

/-- How far a stage goes that may retry within a budget: its last failure ends the retries. -/
structure Stage.Within
    (budget : Nat)
    (worthRetrying : TransportError → Bool)
    (retries : Nat)
    (answer : Except TransportError Unit) : Prop where
  bounded : retries ≤ budget
  failure : ∀ error, answer = .error error → worthRetrying error = false ∨ retries = budget

/-- A negotiation that has made some retries is a stage, and its outcome is what that came to. -/
theorem negotiateQosWithin_ends
    (made : Nat)
    {ended : Outcome Unit}
    (ends :
      (negotiateQosWithin queue (client.options.reconnect.maxRetries - made) client).Ends history
        ended) :
    ∃ retries answer,
      Stage client retries history answer ended.2 ∧
        Stage.Within (client.options.reconnect.maxRetries - made) client.options.reconnect.retryOn
            retries answer ∧
          ended.1 = answer.mapError
            fun error => .qosDeclaration queue client.consumerId error.message := by
  -- The induction is on the retries that are left; the policy is asked with those that were made.
  generalize isLeft : client.options.reconnect.maxRetries - made = left
  induction left using Nat.strongRecOn generalizing client made history with
  | ind left inductionHypothesis =>
      rw [negotiateQosWithin_eq] at ends
      obtain ⟨attempting, rest, answer, rfl, attempts, concludes⟩ := Program.ends_bind_iff.mp ends
      have attempt := qos_ends attempts
      have stage : Stage client 0 (attempting ++ []) answer client := by
        simpa using Stage.last attempt
      cases answer with
      | ok done =>
          obtain ⟨rfl, rfl⟩ := Program.ends_done_iff.mp concludes
          exact ⟨0, .ok (), stage, ⟨Nat.zero_le _, by rintro error ⟨⟩⟩, rfl⟩
      | error error =>
          dsimp only [negotiateAgain] at concludes
          split at concludes
          · next repeats =>
              obtain ⟨lasts, worthwhile⟩ := RetryPolicy.shouldRetry_iff.mp repeats
              obtain ⟨paused, afterPause, rfl, goesOn⟩ := Program.ends_ask_iff.mp concludes
              rw [Program.done_bind] at goesOn
              obtain ⟨reopening, later, ⟨outcome, fresh⟩, rfl, reopened, negotiates⟩ :=
                Program.ends_bind_iff.mp goesOn
              obtain ⟨-, sameOptions, sameConsumer⟩ := reopen_ends reopened
              dsimp only at sameOptions sameConsumer negotiates
              rw [← sameOptions] at negotiates isLeft lasts
              obtain ⟨retries, answer, stage, within, tells⟩ :=
                inductionHypothesis _ (by omega) (made + 1) negotiates rfl
              rw [sameConsumer] at tells
              have again := Stage.again attempt worthwhile reopened stage
              refine ⟨retries + 1, answer, again, ⟨?_, ?_⟩, tells⟩
              · have bounded := within.bounded
                omega
              · intro error failed
                rw [← sameOptions]
                refine (within.failure error failed).imp_right fun spent => ?_
                omega
          · next stops =>
              obtain ⟨rfl, rfl⟩ := Program.ends_done_iff.mp concludes
              have final := RetryPolicy.shouldRetry_eq_false_iff.mp (eq_false_of_ne_true stops)
              refine ⟨0, .error error, stage, ⟨Nat.zero_le _, ?_⟩, rfl⟩
              rintro _ ⟨⟩
              exact final.imp_right fun spent => by omega

end Client

namespace Stage

variable {client left : Client} {retries : Nat} {history : History}

/-- Behind a stage that succeeds a channel is held. -/
theorem holds (stage : Stage client retries history (.ok ()) left) :
    ∃ channel, left.channel = some channel := by
  generalize succeeds : Except.ok () = answer at stage
  induction stage with
  | last attempt =>
      subst succeeds
      exact Client.channel_of_attempt attempt
  | again _ _ _ _ inductionHypothesis => exact inductionHypothesis succeeds

theorem sameSettings
    {answer : Except TransportError Unit}
    (stage : Stage client retries history answer left) :
    client.SameSettings left := by
  induction stage with
  | last _ => exact .refl _
  | again _ _ reopened _ inductionHypothesis =>
      exact (Client.reopen_ends reopened).2.trans inductionHypothesis

end Stage

theorem Registration.stages_ne_nil
    {queue : String}
    {client left : Client}
    {stages : List Nat}
    {history : History}
    {ending : Ending}
    (registration : Registration queue client stages history ending left) :
    stages ≠ [] := by
  cases registration <;> exact List.cons_ne_nil _ _

/--
How far a registration goes whose attempts to consume may be repeated within a budget: each stage
stays within the budget of its own, and what fails for good is not worth a retry or has none left.
-/
structure Registration.Within
    (options : Options)
    (budget : Nat)
    (stages : List Nat)
    (ending : Ending) : Prop where
  bounded : stages.length ≤ budget + 1
  eachStage : ∀ retries ∈ stages, retries ≤ options.reconnect.maxRetries
  refused :
    ∀ error, ending = .refused error →
      options.notFound.retryOn error = false ∨ stages.length = budget + 1
  unnegotiated :
    ∀ error, ending = .unnegotiated error →
      options.reconnect.retryOn error = false ∨
        stages.getLast? = some options.reconnect.maxRetries

namespace Client

variable {client : Client} {queue : String} {history : History}

theorem consume_ends
    {channel : Channel}
    {answer : Except TransportError Stream}
    (held : client.channel = some channel)
    (ends : (client.consume queue).Ends history answer) :
    history = [client.consumption channel queue answer] := by
  unfold consume at ends
  rw [held] at ends
  obtain ⟨found, rest, rfl, concludes⟩ := Program.ends_ask_iff.mp ends
  obtain ⟨rfl, rfl⟩ := Program.ends_done_iff.mp concludes
  rfl

/-- A registration of the known shape that goes no further than its budgets. -/
def RegistersWithin
    (client : Client)
    (queue : String)
    (budget : Nat)
    (history : History)
    (ended : Outcome Unit) : Prop :=
  ∃ stages ending,
    Registration queue client stages history ending ended.2 ∧
      Registration.Within client.options budget stages ending ∧
        ended.1 = ending.outcome queue client.consumerId

section

variable {left : Client} {retries budget : Nat} {staging : History} {ended : Outcome Unit}

/-- A registration whose stage fails goes no further. -/
theorem registersWithin_of_failed_stage
    {error : TransportError}
    (stage : Stage client retries staging (.error error) left)
    (within :
      Stage.Within client.options.reconnect.maxRetries client.options.reconnect.retryOn retries
        (.error error)) :
    client.RegistersWithin queue budget staging
      (.error (.qosDeclaration queue client.consumerId error.message), left) := by
  refine ⟨[retries], .unnegotiated error, .unnegotiated stage, ⟨?_, ?_, nofun, ?_⟩, rfl⟩
  · exact Nat.le_add_left 1 budget
  · intro other member
    rw [List.mem_singleton.mp member]
    exact within.bounded
  · intro other same
    cases same
    exact (within.failure error rfl).imp_right (congrArg some)

variable {channel : Channel}

/-- A registration that yields a stream holds it in place of the one that was held. -/
theorem registersWithin_of_stream
    {stream : Stream}
    (stage : Stage client retries staging (.ok ()) left)
    (bounded : retries ≤ client.options.reconnect.maxRetries)
    (held : left.channel = some channel)
    (ends :
      ((left.holdStream queue stream).bind fun holding => .done (.ok (), holding)).Ends history
        ended) :
    client.RegistersWithin queue budget
      (staging ++ left.consumption channel queue (.ok stream) :: history) ended := by
  obtain ⟨releasing, nothing, holding, rfl, holds, concludes⟩ := Program.ends_bind_iff.mp ends
  obtain ⟨rfl, rfl⟩ := Program.ends_done_iff.mp concludes
  obtain ⟨released, nothing, done, rfl, releases, finishes⟩ := Program.ends_bind_iff.mp holds
  obtain ⟨rfl, rfl⟩ := Program.ends_done_iff.mp finishes
  obtain rfl := releaseAll_ends_iff.mp releases
  simp only [List.append_nil]
  refine ⟨[retries], .registered stream, .registered stage held, ⟨?_, ?_, nofun, nofun⟩, rfl⟩
  · exact Nat.le_add_left 1 budget
  · intro other member
    rw [List.mem_singleton.mp member]
    exact bounded

/-- A registration that is refused for good goes no further. -/
theorem registersWithin_of_refusal
    {error : TransportError}
    (stage : Stage client retries staging (.ok ()) left)
    (bounded : retries ≤ client.options.reconnect.maxRetries)
    (held : left.channel = some channel)
    (final : client.options.notFound.retryOn error = false ∨ budget = 0) :
    client.RegistersWithin queue budget
      (staging ++ [left.consumption channel queue (.error error)])
      (.error (.consumerDeclaration queue client.consumerId error.message), left) := by
  refine ⟨[retries], .refused error, .refused stage held, ⟨?_, ?_, ?_, nofun⟩, rfl⟩
  · exact Nat.le_add_left 1 budget
  · intro other member
    rw [List.mem_singleton.mp member]
    exact bounded
  · intro other same
    cases same
    exact final.imp_right fun spent => by rw [spent]; rfl

/-- A registration that is refused and repeated goes on from what was left of the client. -/
theorem registersWithin_of_retry
    {fresh : Client}
    {error : TransportError}
    {outcome : Except ClientError Unit}
    {reopening rest : History}
    (stage : Stage client retries staging (.ok ()) left)
    (bounded : retries ≤ client.options.reconnect.maxRetries)
    (held : left.channel = some channel)
    (retried : left.options.notFound.retryOn error = true)
    (reopened : left.reopen.Ends reopening (outcome, fresh))
    (goesOn : fresh.RegistersWithin queue budget rest ended) :
    client.RegistersWithin queue (budget + 1)
      (staging ++ left.consumption channel queue (.error error) ::
        (reopening ++ ⟨.sleep fresh.options.notFound.backoff, ()⟩ :: rest)) ended := by
  have same : client.SameSettings fresh := stage.sameSettings.trans (reopen_ends reopened).2
  obtain ⟨stages, ending, registration, within, tells⟩ := goesOn
  rw [same.options] at within
  rw [same.consumerId] at tells
  have nonempty := registration.stages_ne_nil
  refine ⟨retries :: stages, ending, .again stage held retried reopened registration,
    ⟨?_, ?_, ?_, ?_⟩, tells⟩
  · exact Nat.succ_le_succ within.bounded
  · intro other member
    cases member with
    | head => exact bounded
    | tail _ inRest => exact within.eachStage other inRest
  · intro error refused
    exact (within.refused error refused).imp_right (congrArg Nat.succ)
  · intro error unnegotiated
    rw [List.getLast?_cons_of_ne_nil nonempty]
    exact within.unnegotiated error unnegotiated

end

/-- A stage that succeeds goes on with attempts to consume, each but the first behind a stage. -/
theorem consumeWithin_ends
    (made : Nat)
    {retries : Nat}
    {staging : History}
    {negotiated : Client}
    {ended : Outcome Unit}
    (stage : Stage client retries staging (.ok ()) negotiated)
    (bounded : retries ≤ client.options.reconnect.maxRetries)
    (ends :
      (consumeWithin queue (negotiated.options.notFound.maxRetries - made) negotiated).Ends history
        ended) :
    client.RegistersWithin queue (client.options.notFound.maxRetries - made) (staging ++ history)
      ended := by
  generalize isLeft : client.options.notFound.maxRetries - made = left
  induction left using Nat.strongRecOn
    generalizing client negotiated retries staging history made with
  | ind left inductionHypothesis =>
      obtain ⟨channel, held⟩ := stage.holds
      have sameOptions := stage.sameSettings.options
      rw [consumeWithin_eq] at ends
      obtain ⟨consuming, rest, answer, rfl, consumes, concludes⟩ := Program.ends_bind_iff.mp ends
      obtain rfl := consume_ends held consumes
      cases answer with
      | ok stream => exact registersWithin_of_stream stage bounded held concludes
      | error error =>
          dsimp only [consumeAgain] at concludes
          rw [sameOptions] at concludes
          split at concludes
          · next repeats =>
              obtain ⟨lasts, worthwhile⟩ := RetryPolicy.shouldRetry_iff.mp repeats
              obtain ⟨reopening, later, ⟨outcome, fresh⟩, rfl, reopened, goesOn⟩ :=
                Program.ends_bind_iff.mp concludes
              obtain ⟨paused, afterPause, rfl, negotiates⟩ := Program.ends_ask_iff.mp goesOn
              rw [Program.done_bind] at negotiates
              obtain ⟨restaging, afterStage, ⟨answered, renegotiated⟩, rfl, stages, consumes⟩ :=
                Program.ends_bind_iff.mp negotiates
              obtain ⟨remaining, rfl⟩ : ∃ remaining, left = remaining + 1 := ⟨left - 1, by omega⟩
              have worthRetrying := sameOptions.symm ▸ worthwhile
              apply registersWithin_of_retry stage bounded held worthRetrying reopened
              obtain ⟨retries, answer, restage, within, rfl⟩ := negotiateQosWithin_ends 0 stages
              have same := stage.sameSettings.trans (reopen_ends reopened).2
              cases answer with
              | ok done =>
                  have isLeft : fresh.options.notFound.maxRetries - (made + 1) = remaining := by
                    rw [same.options]
                    omega
                  rw [← same.options, ← restage.sameSettings.options] at consumes
                  exact inductionHypothesis remaining (Nat.lt_succ_self _) (made + 1) restage
                    within.bounded consumes isLeft
              | error error =>
                  obtain ⟨rfl, rfl⟩ := Program.ends_done_iff.mp consumes
                  rw [List.append_nil]
                  exact registersWithin_of_failed_stage restage within
          · next stops =>
              obtain ⟨rfl, rfl⟩ := Program.ends_done_iff.mp concludes
              have final := RetryPolicy.shouldRetry_eq_false_iff.mp (eq_false_of_ne_true stops)
              rw [stage.sameSettings.consumerId]
              exact registersWithin_of_refusal stage bounded held
                (final.imp_right fun spent => by omega)

/-- Every registration has the shape and stays within the budgets of the policies. -/
theorem registerConsumer_ends
    {ended : Outcome Unit}
    (ends : (client.registerConsumer queue).Ends history ended) :
    client.RegistersWithin queue client.options.notFound.maxRetries history ended := by
  obtain ⟨staging, rest, ⟨answered, negotiated⟩, rfl, stages, consumes⟩ :=
    Program.ends_bind_iff.mp ends
  obtain ⟨retries, answer, stage, within, rfl⟩ := negotiateQosWithin_ends 0 stages
  cases answer with
  | ok done => exact consumeWithin_ends 0 stage within.bounded consumes
  | error error =>
      obtain ⟨rfl, rfl⟩ := Program.ends_done_iff.mp consumes
      rw [List.append_nil]
      exact registersWithin_of_failed_stage stage within

end Client

/-! ## What is counted along the shape -/

namespace History

/-- The last call to the transport, with its answer. -/
def lastCall? (history : History) : Option ((call : Call) × call.Answer) :=
  history.calls.getLast?

variable {history first second : History} {call : Call} {answer : call.Answer}

theorem lastCall?_append :
    lastCall? (first ++ second) = second.lastCall?.or first.lastCall? := by
  simp only [lastCall?, calls_append, List.getLast?_append]

/-- Where a consumption stands in a history, it is counted. -/
theorem consumptions_pos_of_mem
    (member : ⟨call, answer⟩ ∈ history.calls)
    (consuming : call.kind = .consume) :
    0 < history.tally.consumptions := by
  obtain ⟨exchange, isMember, isCall⟩ := List.mem_filterMap.mp member
  have counts : exchange.tally.consumptions = 1 := by
    obtain ⟨request, answer⟩ := exchange
    cases request with
    | transport made =>
        cases isCall
        cases call <;> first | rfl | cases consuming
    | _ => cases isCall
  obtain ⟨before, after, rfl⟩ := List.append_of_mem isMember
  simp only [tally_append, tally_cons, Tally.consumptions_add, counts]
  omega

/-- Seeking a new channel ends with a call, and not with one to consume. -/
theorem Reopens.lastCall?
    (reopens : history.Reopens) :
    ∃ last, history.lastCall? = some last ∧ last.1.kind ≠ .consume := by
  obtain ⟨connection, closed, between, call, answer, rfl, -, renews⟩ := reopens
  refine ⟨⟨call, answer⟩, ?_, ?_⟩
  · rw [← List.cons_append, lastCall?_append]
    rfl
  · cases call with
    | consume => cases renews
    | _ => exact CallKind.noConfusion

end History

theorem Attempt.tally
    {client : Client}
    {history : History}
    {answer : Except TransportError Unit}
    (attempt : Attempt client history answer) :
    history.tally = 0 := by
  cases attempt <;> rfl

/-- A stage counts as many pauses and reopenings as retries, and nothing else. -/
theorem Stage.tally
    {client left : Client}
    {retries : Nat}
    {history : History}
    {answer : Except TransportError Unit}
    (stage : Stage client retries history answer left) :
    history.tally =
      ⟨0, retries, retries, client.options.reconnect.backoff.milliseconds * retries⟩ := by
  induction stage with
  | last attempt => exact attempt.tally
  | again attempt retried reopened goesOn inductionHypothesis =>
      obtain ⟨reopens, sameOptions, -⟩ := Client.reopen_ends reopened
      dsimp only at sameOptions
      rw [sameOptions] at inductionHypothesis
      rw [History.tally_append, attempt.tally, History.tally_cons, History.tally_append,
        reopens.tally, inductionHypothesis]
      ext <;> simp [Exchange.tally, Nat.mul_add, Nat.add_comm]

/-- How many attempts to consume the last stage of a registration is followed by. -/
def Ending.consumptions : Ending → Nat
  | .registered _ => 1
  | .refused _ => 1
  | .unnegotiated _ => 0

/--
How the last call shows the way a registration ended: it is the last attempt to consume, or none if
flow control was not negotiated.
-/
def Ending.ShownBy
    (queue consumer : String)
    (last : Option ((call : Call) × call.Answer)) :
    Ending → Prop
  | .registered stream =>
      ∃ channel, last = some ⟨.consume channel queue consumer Client.consumeFlags, .ok stream⟩
  | .refused error =>
      ∃ channel, last = some ⟨.consume channel queue consumer Client.consumeFlags, .error error⟩
  | .unnegotiated _ => ∀ call, last = some call → call.1.kind ≠ .consume

namespace Registration

variable {queue : String} {client left : Client} {stages : List Nat} {history : History}
variable {ending : Ending}

/--
A registration counts one attempt to consume behind every stage but perhaps the last, and a pause
with a reopening for every retry, within a stage or between two.
-/
theorem tally (registration : Registration queue client stages history ending left) :
    history.tally =
      ⟨stages.length - 1 + ending.consumptions, stages.sum + (stages.length - 1),
        stages.sum + (stages.length - 1),
        client.options.reconnect.backoff.milliseconds * stages.sum +
          client.options.notFound.backoff.milliseconds * (stages.length - 1)⟩ := by
  induction registration with
  | unnegotiated stage =>
      rw [stage.tally]
      ext <;> simp [Ending.consumptions]
  | @registered _ left _ _ _ _ stage held =>
      have releases :
          History.tally ((left.streams.get? queue).toList.map
            fun replaced => ⟨.release replaced, ()⟩) = 0 := by
        apply History.tally_eq_zero
        intro exchange member
        obtain ⟨replaced, -, rfl⟩ := List.mem_map.mp member
        rfl
      rw [History.tally_append, History.tally_cons, stage.tally, releases]
      ext <;> simp [Ending.consumptions, Client.consumption, Exchange.tally]
  | refused stage held =>
      rw [History.tally_append, History.tally_cons, stage.tally]
      ext <;> simp [Ending.consumptions, Client.consumption, Exchange.tally]
  | again stage held retried reopened goesOn inductionHypothesis =>
      obtain ⟨reopens, same⟩ := Client.reopen_ends reopened
      obtain ⟨sameOptions, -⟩ := stage.sameSettings.trans same
      dsimp only at sameOptions
      obtain ⟨next, others, rfl⟩ := List.exists_cons_of_ne_nil goesOn.stages_ne_nil
      rw [sameOptions] at inductionHypothesis
      simp only [History.tally_append, History.tally_cons, stage.tally, reopens.tally,
        inductionHypothesis]
      ext <;> simp [Client.consumption, Exchange.tally, sameOptions, Nat.mul_add] <;> omega

/-- The last call of a registration shows how it ended. -/
theorem shows (registration : Registration queue client stages history ending left) :
    ending.ShownBy queue client.consumerId history.lastCall? := by
  induction registration with
  | unnegotiated stage =>
      intro last isLast consuming
      have counted := History.consumptions_pos_of_mem (List.mem_of_getLast? isLast) consuming
      rw [stage.tally] at counted
      exact Nat.lt_irrefl 0 counted
  | @registered _ left _ _ channel stream stage held =>
      have releases :
          History.lastCall? ((left.streams.get? queue).toList.map
            fun replaced => ⟨.release replaced, ()⟩) = none := by
        cases left.streams.get? queue <;> rfl
      refine ⟨channel, ?_⟩
      rw [← stage.sameSettings.consumerId, List.append_cons, History.lastCall?_append, releases,
        History.lastCall?_append]
      rfl
  | @refused _ left _ _ channel error stage held =>
      refine ⟨channel, ?_⟩
      rw [← stage.sameSettings.consumerId, History.lastCall?_append]
      rfl
  | @again _ negotiated fresh _ _ _ staging reopening rest _ _ _ ending stage _ _ reopened _
      inductionHypothesis =>
      obtain ⟨reopens, same⟩ := Client.reopen_ends reopened
      obtain ⟨-, sameConsumer⟩ := stage.sameSettings.trans same
      dsimp only at sameConsumer
      rw [sameConsumer] at inductionHypothesis
      obtain ⟨sought, isSought, notConsuming⟩ := reopens.lastCall?
      -- The calls of what follows may be none, and then the last one was made for a new channel.
      have fallsBack (before : History) :
          History.lastCall? (before ++ (reopening ++
            ⟨.sleep fresh.options.notFound.backoff, ()⟩ :: rest)) =
              rest.lastCall?.or (some sought) := by
        rw [List.append_cons, ← List.append_assoc, ← List.append_assoc, History.lastCall?_append,
          History.lastCall?_append, History.lastCall?_append, isSought]
        rfl
      rw [List.append_cons, fallsBack]
      cases ending with
      | registered stream =>
          obtain ⟨channel, isLast⟩ := inductionHypothesis
          exact ⟨channel, by rw [isLast]; rfl⟩
      | refused error =>
          obtain ⟨channel, isLast⟩ := inductionHypothesis
          exact ⟨channel, by rw [isLast]; rfl⟩
      | unnegotiated error =>
          intro last isLast
          rcases Option.or_eq_some_iff.mp isLast with isLater | ⟨-, isSame⟩
          · exact inductionHypothesis last isLater
          · cases isSame
            exact notConsuming

end Registration

/-! ## The account of a registration -/

/--
The account of a registration with its stages, how it ended, what was asked and what it came to.
A reader who is given only the history finds in it how often was tried, how long it took and which
failure the outcome tells of.
-/
structure Accounted
    (client : Client)
    (queue : String)
    (stages : List Nat)
    (ending : Ending)
    (history : History)
    (outcome : Except ClientError Unit) : Prop where
  /-- A stage makes one attempt, and at most one more for each retry of the policy. -/
  attempts : ∀ retries ∈ stages, retries + 1 ≤ client.options.reconnect.maxRetries + 1
  /-- An attempt to consume stands behind a stage of its own. -/
  consumptions : history.tally.consumptions = stages.length - 1 + ending.consumptions
  /-- There is one attempt to consume, and at most one more for each retry of the policy. -/
  bounded : history.tally.consumptions ≤ client.options.notFound.maxRetries + 1
  /-- Each pause belongs to a retry, within a stage or between two of them. -/
  pauses : history.tally.pauses = stages.sum + (stages.length - 1)
  /-- A new channel is sought as often as a pause is made. -/
  reopenings : history.tally.reopenings = history.tally.pauses
  /-- The pauses are all the time that passes. -/
  elapsed :
    history.tally.milliseconds =
      client.options.reconnect.backoff.milliseconds * stages.sum +
        client.options.notFound.backoff.milliseconds * (stages.length - 1)
  /-- A registration succeeds if its last call yields a stream. -/
  succeeds :
    outcome = .ok () ↔
      ∃ channel stream,
        history.lastCall? =
          some ⟨.consume channel queue client.consumerId Client.consumeFlags, .ok stream⟩
  /-- It is refused if its last call is an attempt to consume that fails for good. -/
  isRefused :
    ∀ reason,
      outcome = .error (.consumerDeclaration queue client.consumerId reason) ↔
        ∃ channel error,
          history.lastCall? =
              some ⟨.consume channel queue client.consumerId Client.consumeFlags, .error error⟩ ∧
            (client.options.notFound.retryOn error = false ∨
              history.tally.consumptions = client.options.notFound.maxRetries + 1) ∧
            reason = error.message
  /-- It fails to negotiate if the last attempt of its last stage fails for good. -/
  isUnnegotiated :
    ∀ reason,
      outcome = .error (.qosDeclaration queue client.consumerId reason) ↔
        ∃ error,
          ending = .unnegotiated error ∧
            (client.options.reconnect.retryOn error = false ∨
              stages.getLast? = some client.options.reconnect.maxRetries) ∧
            reason = error.message
  /-- It ends in no other way. -/
  isOutcome : outcome = ending.outcome queue client.consumerId

namespace Ending

variable {queue consumer reason : String} {last : Option ((call : Call) × call.Answer)}
variable {ending : Ending}

/-- Success shows as an attempt to consume that yields a stream. -/
theorem outcome_eq_ok_iff (shown : ending.ShownBy queue consumer last) :
    ending.outcome queue consumer = .ok () ↔
      ∃ channel stream,
        last = some ⟨.consume channel queue consumer Client.consumeFlags, .ok stream⟩ := by
  cases ending with
  | registered stream =>
      obtain ⟨channel, isLast⟩ := shown
      exact ⟨fun _ => ⟨channel, stream, isLast⟩, fun _ => rfl⟩
  | refused error =>
      obtain ⟨channel, isLast⟩ := shown
      refine ⟨nofun, ?_⟩
      rintro ⟨other, stream, isOther⟩
      cases isLast.symm.trans isOther
  | unnegotiated error =>
      refine ⟨nofun, ?_⟩
      rintro ⟨other, stream, isOther⟩
      exact absurd rfl (shown _ isOther)

/-- A refusal shows as an attempt to consume that fails. -/
theorem outcome_eq_refused_iff (shown : ending.ShownBy queue consumer last) :
    ending.outcome queue consumer = .error (.consumerDeclaration queue consumer reason) ↔
      ∃ channel error,
        last = some ⟨.consume channel queue consumer Client.consumeFlags, .error error⟩ ∧
          ending = .refused error ∧ reason = error.message := by
  cases ending with
  | registered stream => exact ⟨nofun, nofun⟩
  | refused error =>
      obtain ⟨channel, isLast⟩ := shown
      constructor
      · intro same
        cases same
        exact ⟨channel, error, isLast, rfl, rfl⟩
      · rintro ⟨other, found, -, same, rfl⟩
        cases same
        rfl
  | unnegotiated error => exact ⟨nofun, nofun⟩

/-- A failed attempt to consume that is the last call is what the registration ended with. -/
theorem eq_refused_of_last
    {channel : Channel}
    {error : TransportError}
    (shown : ending.ShownBy queue consumer last)
    (isLast : last = some ⟨.consume channel queue consumer Client.consumeFlags, .error error⟩) :
    ending = .refused error := by
  subst isLast
  cases ending with
  | registered stream =>
      obtain ⟨other, same⟩ := shown
      cases same
  | refused found =>
      obtain ⟨other, same⟩ := shown
      cases same
      rfl
  | unnegotiated found => exact absurd rfl (shown _ rfl)

theorem outcome_eq_unnegotiated_iff :
    ending.outcome queue consumer = .error (.qosDeclaration queue consumer reason) ↔
      ∃ error, ending = .unnegotiated error ∧ reason = error.message := by
  cases ending with
  | registered stream => exact ⟨nofun, nofun⟩
  | refused error => exact ⟨nofun, nofun⟩
  | unnegotiated error =>
      constructor
      · intro same
        cases same
        exact ⟨error, rfl, rfl⟩
      · rintro ⟨other, same, rfl⟩
        cases same
        rfl

end Ending

namespace Client

variable {client : Client} {queue : String} {history : History} {ended : Outcome Unit}

/-- Every registration has the shape, and its account follows. -/
theorem accounted_of_ends (ends : (client.registerConsumer queue).Ends history ended) :
    ∃ stages ending,
      Registration queue client stages history ending ended.2 ∧
        Accounted client queue stages ending history ended.1 := by
  obtain ⟨stages, ending, registration, within, isOutcome⟩ := registerConsumer_ends ends
  have counted := registration.tally
  have shown := registration.shows
  have consumptions : history.tally.consumptions = stages.length - 1 + ending.consumptions := by
    rw [counted]
  have stagesPos : 0 < stages.length := List.length_pos_iff.mpr registration.stages_ne_nil
  refine ⟨stages, ending, registration, ?_, consumptions, ?_, ?_, ?_, ?_, ?_, ?_, ?_, isOutcome⟩
  · intro retries member
    exact Nat.succ_le_succ (within.eachStage retries member)
  · have bounded := within.bounded
    have atMostOne : ending.consumptions ≤ 1 := by
      cases ending <;> simp [Ending.consumptions]
    omega
  · rw [counted]
  · rw [counted]
  · rw [counted]
  · rw [isOutcome]
    exact Ending.outcome_eq_ok_iff shown
  · intro reason
    rw [isOutcome]
    constructor
    · intro tells
      obtain ⟨channel, error, isLast, rfl, isReason⟩ :=
        (Ending.outcome_eq_refused_iff shown).mp tells
      refine ⟨channel, error, isLast, ?_, isReason⟩
      apply (within.refused error rfl).imp_right
      intro spent
      rw [consumptions, spent]
      rfl
    · rintro ⟨channel, error, isLast, -, isReason⟩
      have isEnding := Ending.eq_refused_of_last shown isLast
      exact (Ending.outcome_eq_refused_iff shown).mpr ⟨channel, error, isLast, isEnding, isReason⟩
  · intro reason
    rw [isOutcome]
    constructor
    · intro tells
      obtain ⟨error, isEnding, isReason⟩ := Ending.outcome_eq_unnegotiated_iff.mp tells
      exact ⟨error, isEnding, within.unnegotiated error isEnding, isReason⟩
    · rintro ⟨error, isEnding, -, isReason⟩
      exact Ending.outcome_eq_unnegotiated_iff.mpr ⟨error, isEnding, isReason⟩

/--
In any surroundings a registration comes to an end, and its account is exact: how many attempts each
of its stages makes and how many there are to consume, how long it pauses and how often it seeks a
new channel, and what its outcome says about the last attempt.
-/
theorem registration_accounted
    {σ : Type}
    (client : Client)
    (queue : String)
    (answer : σ → (request : Request) → request.Answer × σ)
    (state : σ) :
    ∃ stages ending,
      Registration queue client stages ((client.registerConsumer queue).history answer state) ending
          ((client.registerConsumer queue).run answer state).1.2 ∧
        Accounted client queue stages ending ((client.registerConsumer queue).history answer state)
          ((client.registerConsumer queue).run answer state).1.1 :=
  accounted_of_ends (Program.ends_run answer _ state)

end Client

end BrokerClient
