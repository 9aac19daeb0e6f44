import BrokerClient.Proofs.Client.Registration
import Mathlib.Algebra.Order.BigOperators.Group.List
import Mathlib.Algebra.Order.Group.Nat

/-!
# How long a registration may block

Flow control is negotiated anew before every attempt to consume, and each negotiation is granted
the whole budget of the policy for reconnecting.  So the pauses of a registration may take up that
budget once for every attempt to consume, besides the budget for queues that are missing.  No
transport makes a registration pause for longer, and some transport makes it pause that long.
-/

namespace BrokerClient

/-! ## Surroundings that repeat a history -/

namespace Program

/-- An answer to any request, for want of a better one. -/
def answerAnyhow : (request : Request) → request.Answer
  | .transport _ => .error (.closed "nobody answers")
  | .isClosed _ => false
  | .sleep _ => ()
  | .next .. => .timedOut
  | .release _ => ()
  | .describe _ => ()
  | .freshId => default

open scoped Classical in
/-- Answer along a history, as long as what is asked is what it says. -/
noncomputable def replay : History → (request : Request) → request.Answer × History
  | [], request => (answerAnyhow request, [])
  | ⟨expected, answer⟩ :: rest, request =>
      if same : expected = request then (same ▸ answer, rest) else (answerAnyhow request, rest)

/-- A program that ends along a history goes along it in some surroundings. -/
theorem Ends.history_replay
    {program : Program α}
    {history : History}
    {value : α}
    (ends : program.Ends history value) :
    program.history replay history = history := by
  induction ends with
  | done value => rfl
  | @ask request next history value answer rest inductionHypothesis =>
      have answered : replay (⟨request, answer⟩ :: history) request = (answer, history) := by
        simp [replay]
      simp only [Program.history, answered]
      rw [inductionHypothesis]

end Program

/-! ## The worst case -/

namespace Options

variable (options : Options)

/-- How long the pauses of one negotiation may be, taken together. -/
def longestNegotiation : Nat :=
  options.reconnect.backoff.milliseconds * options.reconnect.maxRetries

/-- How long the pauses of a registration may be: each attempt to consume has its negotiation. -/
def longestRegistration : Nat :=
  options.longestNegotiation * (options.notFound.maxRetries + 1) +
    options.notFound.backoff.milliseconds * options.notFound.maxRetries

/-- How many pauses a registration may make. -/
def mostPauses : Nat :=
  options.reconnect.maxRetries * (options.notFound.maxRetries + 1) + options.notFound.maxRetries

end Options

namespace Client

variable {client : Client} {channel : Channel} {refusal missing : TransportError}

/-- Some transport grants whatever channel is sought. -/
theorem reopen_granted (client : Client) (granted : Channel) :
    ∃ history, client.reopen.Ends history (.ok (), client.withChannel granted) := by
  cases held : client.channel with
  | some channel =>
      exact ⟨_, reopen_ends_iff.mpr (.granted .usable (.holding held (.ok ())) granted)⟩
  | none => exact ⟨_, reopen_ends_iff.mpr (.granted .usable (.without held) granted)⟩

/-- Some transport refuses flow control as often as it is retried, and grants it at last. -/
theorem negotiateQosWithin_at_worst
    (queue : String)
    (budget : Nat)
    (held : client.channel = some channel)
    (retried : client.options.reconnect.retryOn refusal = true) :
    ∃ history left,
      (negotiateQosWithin queue budget client).Ends history (.ok (), left) ∧
        left.options = client.options ∧ (∃ channel, left.channel = some channel) ∧
          history.tally =
            ⟨0, budget, budget, client.options.reconnect.backoff.milliseconds * budget⟩ := by
  induction budget generalizing client channel with
  | zero =>
      refine ⟨[⟨.transport (.qos channel client.options.prefetchCount false), .ok ()⟩], client, ?_,
        rfl, ⟨channel, held⟩, rfl⟩
      unfold negotiateQosWithin qos
      rw [held]
      exact .ask _ (.done _)
  | succ remaining inductionHypothesis =>
      let next : Channel := ⟨channel.number + 1, channel.generation⟩
      obtain ⟨reopening, reopens⟩ := client.reopen_granted next
      obtain ⟨rest, left, negotiates, sameOptions, holds, counted⟩ :=
        @inductionHypothesis (client.withChannel next) next rfl retried
      let attempt : Exchange :=
        ⟨.transport (.qos channel client.options.prefetchCount false), .error refusal⟩
      refine ⟨attempt :: ⟨.sleep client.options.reconnect.backoff, ()⟩ :: (reopening ++ rest), left,
        ?_, sameOptions, holds, ?_⟩
      · unfold negotiateQosWithin qos
        rw [held]
        refine .ask _ ?_
        rw [Program.done_bind]
        dsimp only
        rw [if_pos retried]
        refine .ask _ ?_
        rw [Program.done_bind]
        exact Program.ends_bind_iff.mpr ⟨reopening, rest, _, rfl, reopens, negotiates⟩
      · have attempted : attempt.tally = 0 := rfl
        rw [History.tally_cons, History.tally_cons, History.tally_append, attempted,
          (reopen_ends reopens).1.tally, counted]
        ext <;> simp [Exchange.tally, withChannel, withoutChannel, Nat.mul_add, Nat.add_comm]

/-- Some transport refuses every consumer, and flow control as often as it is retried. -/
theorem consumeWithin_at_worst
    (queue : String)
    (budget : Nat)
    (held : client.channel = some channel)
    (retried : client.options.reconnect.retryOn refusal = true)
    (repeated : client.options.notFound.retryOn missing = true) :
    ∃ history ended,
      (consumeWithin queue budget client).Ends history ended ∧
        history.tally =
          ⟨budget + 1, (client.options.reconnect.maxRetries + 1) * budget,
            (client.options.reconnect.maxRetries + 1) * budget,
            (client.options.longestNegotiation + client.options.notFound.backoff.milliseconds) *
              budget⟩ := by
  induction budget generalizing client channel with
  | zero =>
      let failed : Outcome Unit :=
        (.error (.consumerDeclaration queue client.consumerId missing.message), client)
      refine ⟨[client.consumption channel queue (.error missing)], failed, ?_, rfl⟩
      unfold consumeWithin consume
      rw [held]
      exact .ask _ (.done _)
  | succ remaining inductionHypothesis =>
      let next : Channel := ⟨channel.number + 1, channel.generation⟩
      obtain ⟨reopening, reopens⟩ := client.reopen_granted next
      obtain ⟨staging, left, negotiates, sameOptions, ⟨fresh, holds⟩, staged⟩ :=
        @negotiateQosWithin_at_worst (client.withChannel next) next refusal queue
          client.options.reconnect.maxRetries rfl retried
      have sameOptions : left.options = client.options := sameOptions
      obtain ⟨rest, ended, consumes, counted⟩ :=
        @inductionHypothesis left fresh holds (sameOptions ▸ retried) (sameOptions ▸ repeated)
      rw [sameOptions] at counted
      refine ⟨client.consumption channel queue (.error missing) ::
        (reopening ++ ⟨.sleep client.options.notFound.backoff, ()⟩ :: (staging ++ rest)), ended,
        ?_, ?_⟩
      · unfold consumeWithin consume
        rw [held]
        refine .ask _ ?_
        rw [Program.done_bind]
        dsimp only
        rw [if_pos repeated]
        apply Program.ends_bind_iff.mpr
        refine ⟨reopening, _, _, rfl, reopens, .ask _ ?_⟩
        rw [Program.done_bind]
        exact Program.ends_bind_iff.mpr ⟨staging, rest, _, rfl, negotiates, consumes⟩
      · have attempted :
            (client.consumption channel queue (.error missing)).tally = ⟨1, 0, 0, 0⟩ :=
          rfl
        simp only [History.tally_cons, History.tally_append, attempted,
          (reopen_ends reopens).1.tally, staged, counted]
        ext <;> simp [Exchange.tally, withChannel, withoutChannel, Options.longestNegotiation,
          Nat.mul_add] <;> omega

/-- Some transport makes a registration take up the budget of flow control over and over. -/
theorem registerConsumer_at_worst
    (queue : String)
    (held : client.channel = some channel)
    (retried : client.options.reconnect.retryOn refusal = true)
    (repeated : client.options.notFound.retryOn missing = true) :
    ∃ history ended,
      (client.registerConsumer queue).Ends history ended ∧
        history.tally.pauses = client.options.mostPauses ∧
          history.tally.milliseconds = client.options.longestRegistration := by
  obtain ⟨staging, left, negotiates, sameOptions, ⟨fresh, holds⟩, staged⟩ :=
    negotiateQosWithin_at_worst queue client.options.reconnect.maxRetries held retried
  obtain ⟨rest, ended, consumes, counted⟩ :=
    @consumeWithin_at_worst left fresh refusal missing queue client.options.notFound.maxRetries
      holds (sameOptions ▸ retried) (sameOptions ▸ repeated)
  rw [sameOptions] at counted
  refine ⟨staging ++ rest, ended, ?_, ?_, ?_⟩
  · apply Program.ends_bind_iff.mpr
    refine ⟨staging, rest, _, rfl, negotiates, ?_⟩
    dsimp only
    rw [sameOptions]
    exact consumes
  · rw [History.tally_append, staged, counted]
    simp only [Tally.pauses_add, Options.mostPauses, Nat.mul_add, Nat.add_mul]
    omega
  · rw [History.tally_append, staged, counted]
    simp only [Tally.milliseconds_add, Options.longestRegistration, Options.longestNegotiation,
      Nat.mul_add, Nat.add_mul]
    omega

/--
How long a registration may block, in all surroundings: every attempt to consume stands behind a
negotiation with the whole budget for reconnecting, and the retries of all of them add up.  The
bound is exact: as soon as both policies retry anything, there are surroundings in which a client
with a channel pauses as often and as long as that.
-/
theorem registration_blocks_at_most (client : Client) (queue : String) :
    (∀ {σ : Type} (answer : σ → (request : Request) → request.Answer × σ) (state : σ),
      ∃ stages ending left,
        Registration queue client stages ((client.registerConsumer queue).history answer state)
            ending left ∧
          (∀ retries ∈ stages, retries ≤ client.options.reconnect.maxRetries) ∧
          stages.length - 1 ≤ client.options.notFound.maxRetries ∧
          ((client.registerConsumer queue).history answer state).tally.milliseconds =
            client.options.reconnect.backoff.milliseconds * stages.sum +
              client.options.notFound.backoff.milliseconds * (stages.length - 1) ∧
          ((client.registerConsumer queue).history answer state).tally.pauses ≤
            client.options.mostPauses ∧
          ((client.registerConsumer queue).history answer state).tally.milliseconds ≤
            client.options.longestRegistration) ∧
    ∀ (channel : Channel) (refusal missing : TransportError),
      client.channel = some channel →
        client.options.reconnect.retryOn refusal = true →
          client.options.notFound.retryOn missing = true →
            ∃ (answer : History → (request : Request) → request.Answer × History) (state : History),
              ((client.registerConsumer queue).history answer state).tally.pauses =
                  client.options.mostPauses ∧
                ((client.registerConsumer queue).history answer state).tally.milliseconds =
                  client.options.longestRegistration := by
  constructor
  · intro σ answer state
    obtain ⟨stages, ending, registration, within, -⟩ :=
      registerConsumer_ends (Program.ends_run answer (client.registerConsumer queue) state)
    have counted := registration.tally
    have between : stages.length - 1 ≤ client.options.notFound.maxRetries :=
      Nat.sub_le_iff_le_add.mpr within.bounded
    have retries :
        stages.sum ≤
          client.options.reconnect.maxRetries * (client.options.notFound.maxRetries + 1) :=
      calc stages.sum
        _ ≤ stages.length * client.options.reconnect.maxRetries :=
            stages.sum_le_card_nsmul _ within.eachStage
        _ ≤ (client.options.notFound.maxRetries + 1) * client.options.reconnect.maxRetries :=
            Nat.mul_le_mul_right _ within.bounded
        _ = client.options.reconnect.maxRetries * (client.options.notFound.maxRetries + 1) :=
            Nat.mul_comm ..
    refine ⟨stages, ending, _, registration, within.eachStage, between, ?_, ?_, ?_⟩
    · rw [counted]
    · rw [counted]
      exact Nat.add_le_add retries between
    · rw [counted]
      apply Nat.add_le_add
      · rw [Options.longestNegotiation, Nat.mul_assoc]
        exact Nat.mul_le_mul_left _ retries
      · exact Nat.mul_le_mul_left _ between
  · intro channel refusal missing held retried repeated
    obtain ⟨history, ended, ends, paused, lasted⟩ :=
      registerConsumer_at_worst queue held retried repeated
    refine ⟨Program.replay, history, ?_, ?_⟩
    · rw [ends.history_replay]
      exact paused
    · rw [ends.history_replay]
      exact lasted

/--
With one retry and a pause of a second under either policy, some registration pauses three times
and for three seconds, although the two budgets together are two retries and two seconds.
-/
theorem registration_blocks_for_longer :
    let policy : RetryPolicy := ⟨1, .ofSeconds 1, fun _ => true⟩
    let client : Client :=
      (Client.new ⟨0, 0⟩ "memory" "worker" ⟨.ofSeconds 10, 1, policy, policy⟩).withChannel ⟨0, 0⟩
    ∃ (answer : History → (request : Request) → request.Answer × History) (state : History),
      ((client.registerConsumer "jobs").history answer state).tally.pauses = 3 ∧
        ((client.registerConsumer "jobs").history answer state).tally.milliseconds = 3000 := by
  intro policy client
  obtain ⟨-, worst⟩ := registration_blocks_at_most client "jobs"
  obtain ⟨answer, state, paused, lasted⟩ :=
    worst ⟨0, 0⟩ (.closed "channel is closed") (.notFound "no queue") rfl rfl rfl
  exact ⟨answer, state, paused, lasted.trans (by decide)⟩

end Client

end BrokerClient
