import BrokerClient.Proofs.Network.Dialing
import BrokerClient.Proofs.Network.Publication
import Mathlib.Algebra.Order.Floor.Div

/-!
# A queue that appears late

A client receives from a queue that is missing, and somebody else publishes to it some time later.
Pauses go on from where they have begun, so attempts are made at multiples of the backoff.  The
message is handed out with the first attempt behind its publication; if the retries are spent
before, the receive has failed with the last of them.
-/

namespace BrokerClient

/-- How many milliseconds a client pauses where a queue is missing. -/
def Client.backoff (client : Client) : Nat :=
  client.options.notFound.backoff.milliseconds

/-- What a client is told by a receive for which the queue was missing until the end. -/
def Client.refusal (client : Client) (queue : String) : ClientError :=
  .consumerDeclaration queue client.consumerId (Broker.noQueue queue).message

namespace Network

section

variable {Content : Type} {decode : List UInt8 → Except CodecError Content}
variable {network : Network} {place : Nat} {client : Client} {queue : String} {channel : Channel}
variable {retries since now last : Nat}
variable {timed : TimedMove} {earlier later timeline : List TimedMove}

/-! ## Pauses on a clock -/

/-- A party has paused since a point of time, no longer than it has to, and goes on in time. -/
structure PausesSince
    (network : Network)
    (place : Nat)
    (client : Client)
    (queue : String)
    (decode : List UInt8 → Except CodecError Content)
    (retries : Nat)
    (channel : Channel)
    (since now : Nat)
    (timeline : List TimedMove)
    (last : Nat) : Prop where
  pauses : network.Pauses place client queue decode retries channel
  begun : since ≤ now
  notOver : now ≤ since + client.backoff
  onTime : OnTime place network since now timeline last

/-- A pause is due when the backoff has passed. -/
theorem PausesSince.due
    (pausing :
      network.PausesSince place client queue decode retries channel since now timeline last) :
    network.due? place since now = some (since + client.backoff) := by
  rw [pausing.pauses.due]
  exact congrArg some (max_eq_right pausing.notOver)

/-- The next move is made before the pause is over or when it is. -/
theorem PausesSince.time
    (pausing :
      network.PausesSince place client queue decode retries channel since now (timed :: later)
        last) :
    since ≤ timed.time ∧ timed.time ≤ since + client.backoff := by
  cases pausing.onTime with
  | moves inOrder notLate notEarly goesOn =>
      exact ⟨Nat.le_trans pausing.begun inOrder, notLate _ pausing.due⟩

/-- The party goes on exactly when its pause is over, and waits anew from then on. -/
theorem PausesSince.resumed
    (pausing :
      network.PausesSince place client queue decode retries channel since now (timed :: later) last)
    (own : timed.move = .resume place) :
    timed.time = since + client.backoff ∧
      OnTime place (network.step timed.move) timed.time timed.time later last := by
  cases pausing.onTime with
  | moves inOrder notLate notEarly goesOn =>
      have advances : network.advances place timed.move = true := by
        rw [own]
        simp [Network.advances]
      rw [advances] at goesOn
      exact ⟨Nat.le_antisymm (notLate _ pausing.due) (notEarly own _ pausing.due), goesOn⟩

/-- Nobody else makes the party in a place go on. -/
theorem advances_of_elsewhere
    (network : Network)
    {move : Move}
    (elsewhere : move.IsElsewhere place)
    (notOwn : move ≠ .resume place) :
    network.advances place move = false := by
  cases move with
  | start other operation =>
      have differs : other ≠ place := elsewhere
      simp [advances, differs]
  | resume other =>
      have differs : other ≠ place := fun same => notOwn (congrArg Move.resume same)
      simp [advances, differs]
  | _ => rfl

/-- Beside a pause time goes by, and what nobody spoils endures. -/
theorem PausesSince.aside
    (pausing :
      network.PausesSince place client queue decode retries channel since now (timed :: later) last)
    {harmless : Event → Prop}
    {holds : Broker → Prop}
    (endures :
      Endures place (client.withChannel channel) harmless
        (fun network =>
          network.Numbered ∧ network.Attached place (client.withChannel channel) channel)
        holds)
    (before : holds network.broker)
    (elsewhere : timed.move.IsElsewhere place)
    (notOwn : timed.move ≠ .resume place) :
    (network.step timed.move).PausesSince place client queue decode retries channel since timed.time
        later last ∧
      ∃ told,
        (network.step timed.move).log = network.log ++ told ∧ Event.calls place told = [] ∧
          ((∀ event ∈ told, harmless event) → holds (network.step timed.move).broker) := by
  obtain ⟨pauses, told⟩ := pausing.pauses.aside endures before elsewhere notOwn
  refine ⟨?_, told⟩
  cases pausing.onTime with
  | moves inOrder notLate notEarly goesOn =>
      rw [advances_of_elsewhere network elsewhere notOwn] at goesOn
      exact ⟨pauses, Nat.le_trans pausing.begun inOrder, notLate _ pausing.due, goesOn⟩

/-! ## Before the queue appears -/

/-- Along moves of others and attempts the queue is missing all the time. -/
def Missing (queue : String) (network : Network) (timeline : List TimedMove) : Prop :=
  ∀ first,
    first <+: timeline →
      (network.run (first.map TimedMove.move)).broker.queueExists queue = false

theorem Missing.here (missing : Missing queue network timeline) :
    network.broker.queues.get? queue = none := by
  have absent : network.broker.queueExists queue = false := missing [] (List.nil_prefix)
  simpa [Broker.queueExists, Dictionary.contains] using absent

theorem Missing.behind (missing : Missing queue network (timed :: timeline)) :
    Missing queue (network.step timed.move) timeline :=
  fun first isPrefix => missing (timed :: first) ((List.prefix_cons_inj timed).mpr isPrefix)

/-- If a retry is left behind the next one, the party pauses anew when its pause is over. -/
theorem PausesSince.again
    (pausing :
      network.PausesSince place client queue decode (retries + 1) channel since now
        (timed :: later) last)
    (retriesOn : client.options.notFound.retryOn (Broker.noQueue queue) = true)
    (own : timed.move = .resume place)
    (missing : network.broker.queues.get? queue = none) :
    network.Spends (network.step timed.move) place 1 1 ∧
      ∃ fresh,
        (network.step timed.move).PausesSince place client queue decode retries fresh
          (since + client.backoff) (since + client.backoff) later last := by
  obtain ⟨isTime, onTime⟩ := pausing.resumed own
  have again := pausing.pauses.again missing retriesOn
  rw [← own] at again
  obtain ⟨⟨fresh, pauses⟩, spends⟩ := again
  rw [isTime] at onTime
  exact ⟨spends, fresh, pauses, Nat.le_refl _, Nat.le_add_right _ _, onTime⟩

/-- If no retry is left behind the next one, the receive has failed when the pause is over. -/
theorem PausesSince.fails
    (pausing :
      network.PausesSince place client queue decode 0 channel since now (timed :: later) last)
    (own : timed.move = .resume place)
    (missing : network.broker.queues.get? queue = none) :
    OnTime place (network.step timed.move) (since + client.backoff) (since + client.backoff) later
        last ∧
      FinishesAt place (.receive queue decode) (.error (client.refusal queue))
        (since + client.backoff) 1 0 (network.told (timed :: later)) := by
  obtain ⟨isTime, onTime⟩ := pausing.resumed own
  have fails := pausing.pauses.fails missing
  rw [← own] at fails
  obtain ⟨told, log, registers, opens⟩ := fails
  have finishes := finishesAt_of_step log later
  rw [registers, opens, isTime] at finishes
  exact ⟨isTime ▸ onTime, finishes⟩

/--
While the queue is missing attempts are made at multiples of the backoff.  Up to any move the
retries are spent and the receive has failed, or some are left and the party pauses since the
latest.
-/
theorem PausesSince.fails_or_pauses
    (pausing :
      network.PausesSince place client queue decode retries channel since now
        (earlier ++ timed :: later) last)
    (retriesOn : client.options.notFound.retryOn (Broker.noQueue queue) = true)
    (elsewhere : ∀ made ∈ earlier, made.move.IsElsewhere place)
    (missing : Missing queue network earlier) :
    let receive := Operation.receive queue decode
    let found := network.run (earlier.map TimedMove.move)
    let told := network.told (earlier ++ timed :: later)
    since + (retries + 1) * client.backoff ≤ timed.time ∧
        FinishesAt place receive (.error (client.refusal queue))
          (since + (retries + 1) * client.backoff) (retries + 1) retries told ∨
      ∃ spent left fresh nowThen,
        retries = spent + left ∧
          found.PausesSince place client queue decode left fresh (since + spent * client.backoff)
            nowThen (timed :: later) last ∧
          ∀ outcome time registrations channels,
            FinishesAt place receive outcome time registrations channels
                (found.told (timed :: later)) →
              FinishesAt place receive outcome time (spent + registrations) (spent + channels)
                told := by
  induction earlier generalizing network retries channel since now with
  | nil =>
      refine .inr ⟨0, retries, channel, now, (Nat.zero_add _).symm, ?_, ?_⟩
      · rw [Nat.zero_mul]
        exact pausing
      · intro outcome time registrations channels finishes
        rw [Nat.zero_add, Nat.zero_add]
        exact finishes
  | cons made rest inductionHypothesis =>
      have elsewhereThen : ∀ later ∈ rest, later.move.IsElsewhere place := fun later member =>
        elsewhere later (List.mem_cons_of_mem _ member)
      by_cases own : made.move = .resume place
      · have later (attempts : Nat) :
            since + client.backoff + attempts * client.backoff =
              since + (attempts + 1) * client.backoff := by
          rw [Nat.succ_mul]
          omega
        cases retries with
        | zero =>
            obtain ⟨onTime, fails⟩ := pausing.fails own missing.here
            rw [Nat.zero_add, Nat.one_mul]
            exact .inl ⟨onTime.le_time, fails⟩
        | succ remaining =>
            obtain ⟨spends, fresh, pausingThen⟩ := pausing.again retriesOn own missing.here
            rcases inductionHypothesis pausingThen elsewhereThen missing.behind with
              ⟨inTime, fails⟩ | ⟨spent, left, newest, nowThen, isSum, pausesThen, goesOn⟩
            · rw [later] at inTime fails
              exact .inl ⟨inTime, by simpa [Nat.add_comm] using fails.behind spends⟩
            · rw [later] at pausesThen
              refine .inr ⟨spent + 1, left, newest, nowThen, by omega, pausesThen, ?_⟩
              intro outcome time registrations channels finishes
              rw [Nat.add_comm spent 1, Nat.add_assoc, Nat.add_assoc]
              exact (goesOn outcome time registrations channels finishes).behind spends
      · obtain ⟨pausingThen, told, log, noCalls, -⟩ :=
          pausing.aside (endures_always (fun _ => trivial) place _ (fun _ => True) _) trivial
            (elsewhere made List.mem_cons_self) own
        have spends := spends_nothing log noCalls
        rcases inductionHypothesis pausingThen elsewhereThen missing.behind with
          ⟨inTime, fails⟩ | ⟨spent, left, fresh, nowThen, isSum, pausesThen, goesOn⟩
        · exact .inl ⟨inTime, by simpa using fails.behind spends⟩
        · refine .inr ⟨spent, left, fresh, nowThen, isSum, pausesThen, ?_⟩
          intro outcome time registrations channels finishes
          simpa using (goesOn outcome time registrations channels finishes).behind spends

/-! ## Behind its appearance -/

/-- A party that fetches hands out what it fetches at once. -/
theorem Fetches.finishes
    {stream : Stream}
    {delivery : Delivery}
    (fetches : network.Fetches place client queue decode stream delivery)
    (atRest : network.AtRest)
    (sound : network.Sound)
    (onTime : OnTime place network now now timeline last)
    (elsewhere : ∀ made ∈ timeline, made.move.IsElsewhere place)
    (goesOn : now < last) :
    FinishesAt place (.receive queue decode) (Client.handOut client.consumerId decode delivery) now
      0 0 (network.told timeline) := by
  have due : network.due? place now now = some now := by
    rw [fetches.due, max_self]
  induction timeline generalizing network with
  | nil =>
      cases onTime with
      | ends inOrder notLate => exact absurd goesOn (Nat.not_lt.mpr (notLate now due))
  | cons made rest inductionHypothesis =>
      cases onTime with
      | moves inOrder notLate notEarly onTimeThen =>
          have isTime : made.time = now := Nat.le_antisymm (notLate now due) inOrder
          by_cases own : made.move = .resume place
          · have hands := fetches.hands
            rw [← own] at hands
            obtain ⟨told, log, registers, opens⟩ := hands
            have finishes := finishesAt_of_step log rest
            rw [registers, opens, isTime] at finishes
            exact finishes
          · have isElsewhere := elsewhere made List.mem_cons_self
            obtain ⟨fetchesThen, spends⟩ := fetches.aside atRest sound isElsewhere own
            obtain ⟨atRestThen, soundThen⟩ :
                (network.step made.move).AtRest ∧ (network.step made.move).Sound :=
              keeps_sound.step atRest sound trivial
            rw [advances_of_elsewhere network isElsewhere own, isTime] at onTimeThen
            have finishes :=
              inductionHypothesis fetchesThen atRestThen soundThen onTimeThen
                (fun later member => elsewhere later (List.mem_cons_of_mem _ member))
                (by rw [fetchesThen.due, max_self])
            simpa using finishes.behind spends

/-- Where a message is stored while a party pauses it is handed out when the pause is over. -/
theorem PausesSince.hands
    {delivery : Delivery}
    (pausing :
      network.PausesSince place client queue decode retries channel since now timeline last)
    (atRest : network.AtRest)
    (sound : network.Sound)
    (stored : Stored queue delivery network.broker)
    (elsewhere : ∀ made ∈ timeline, made.move.IsElsewhere place)
    (spared : ∀ told ∈ network.told timeline, told.2.Spares place queue)
    (goesOn : since + client.backoff < last) :
    FinishesAt place (.receive queue decode) (Client.handOut client.consumerId decode delivery)
      (since + client.backoff) 1 0 (network.told timeline) := by
  induction timeline generalizing network now with
  | nil =>
      cases pausing.onTime with
      | ends inOrder notLate =>
          exact absurd goesOn (Nat.not_lt.mpr (notLate _ pausing.due))
  | cons made rest inductionHypothesis =>
      have elsewhereThen : ∀ later ∈ rest, later.move.IsElsewhere place := fun later member =>
        elsewhere later (List.mem_cons_of_mem _ member)
      obtain ⟨atRestThen, soundThen⟩ :
          (network.step made.move).AtRest ∧ (network.step made.move).Sound :=
        keeps_sound.step atRest sound trivial
      by_cases own : made.move = .resume place
      · obtain ⟨isTime, onTime⟩ := pausing.resumed own
        have fetches := pausing.pauses.fetches stored
        rw [← own] at fetches
        obtain ⟨⟨registered, stream, sameId, fetches⟩, spends⟩ := fetches
        rw [isTime] at onTime
        rw [← sameId]
        exact (fetches.finishes atRestThen soundThen onTime elsewhereThen goesOn).behind spends
      · obtain ⟨pausingThen, told, log, noCalls, endures⟩ :=
          pausing.aside (endures_stored place _ queue delivery _) stored
            (elsewhere made List.mem_cons_self) own
        rw [told_cons log] at spared
        have sparedNow : ∀ event ∈ told, event.Spares place queue := fun event member =>
          spared (made.time, event)
            (List.mem_append_left _ (List.mem_map_of_mem member))
        have finishes :=
          inductionHypothesis pausingThen atRestThen soundThen (endures sparedNow) elsewhereThen
            fun later member => spared later (List.mem_append_right _ member)
        simpa using finishes.behind (spends_nothing log noCalls)

/-! ## From the beginning -/

/-- With a retry left a receive that starts while its queue is missing comes to a pause. -/
theorem Poised.pausesSince
    {begun : Nat}
    (poised : network.Poised place client channel)
    (free : client.streams.get? queue = none)
    (retriesOn : client.options.notFound.retryOn (Broker.noQueue queue) = true)
    (isSucc : client.options.notFound.maxRetries = retries + 1)
    (missing : network.broker.queues.get? queue = none)
    (onTime :
      OnTime place network since now (⟨begun, .start place (.receive queue decode)⟩ :: timeline)
        last) :
    network.Spends (network.step (.start place (.receive queue decode))) place 1 1 ∧
      ∃ fresh,
        (network.step (.start place (.receive queue decode))).PausesSince place client queue decode
          retries fresh begun begun timeline last := by
  have begins := Client.begins_registerConsumer poised.isHeld poised.usable queue
  rw [isSucc] at begins
  obtain ⟨⟨fresh, pauses⟩, spends⟩ :=
    poised.pauses decode begins missing retriesOn (.start client)
  rw [← step_receive poised.idle free] at pauses spends
  cases onTime with
  | moves inOrder notLate notEarly goesOn =>
      have advances : network.advances place (.start place (.receive queue decode)) = true := by
        simp [Network.advances, poised.idle, Party.operation?]
      rw [advances] at goesOn
      exact ⟨spends, fresh, pauses, Nat.le_refl _, Nat.le_add_right _ _, goesOn⟩

/-- Without retries a receive that starts while its queue is missing fails at once. -/
theorem Poised.failsAtOnce
    (poised : network.Poised place client channel)
    (free : client.streams.get? queue = none)
    (isZero : client.options.notFound.maxRetries = 0)
    (missing : network.broker.queues.get? queue = none)
    (begun : Nat)
    (timeline : List TimedMove) :
    FinishesAt place (.receive queue decode) (.error (client.refusal queue)) begun 1 0
      (network.told (⟨begun, .start place (.receive queue decode)⟩ :: timeline)) := by
  have begins := Client.begins_registerConsumer poised.isHeld poised.usable queue
  rw [isZero] at begins
  obtain ⟨told, log, registers, opens⟩ := poised.fails decode begins missing (.start client)
  rw [← step_receive poised.idle free] at log
  rw [← registers, ← opens]
  exact @finishesAt_of_step _ place ⟨begun, _⟩ _ _ _ log timeline

end

/-- A delay that ends within a pause is rounded up to the end of this pause. -/
theorem ceilDiv_eq_of_within
    {delay backoff spent : Nat}
    (positive : 0 < backoff)
    (between : ¬ backoff ∣ delay)
    (begun : spent * backoff ≤ delay)
    (notOver : delay ≤ (spent + 1) * backoff) :
    delay ⌈/⌉ backoff = spent + 1 := by
  apply Nat.le_antisymm
  · rw [ceilDiv_le_iff_le_mul positive, Nat.mul_comm]
    exact notOver
  · refine Nat.succ_le_of_lt (Nat.not_le.mp fun tooFew => between ?_)
    rw [ceilDiv_le_iff_le_mul positive, Nat.mul_comm] at tooFew
    exact Nat.le_antisymm tooFew begun ▸ Nat.dvd_mul_left backoff spent

/-! ## The appearance of a queue -/

/--
One party starts to receive from a queue, and some time later another one publishes to it.  Moves
are made before and afterwards, up to some point of time.
-/
structure Appearance : Type 1 where
  receiver : Nat
  publisher : Nat
  queue : String
  Content : Type
  decode : List UInt8 → Except CodecError Content
  tracing : Tracing
  message : Outgoing
  begun : Nat
  delay : Nat
  earlier : List TimedMove
  later : List TimedMove
  last : Nat

namespace Appearance

def receive (appearance : Appearance) : Operation :=
  .receive appearance.queue appearance.decode

def publish (appearance : Appearance) : Operation :=
  .publish appearance.tracing appearance.queue appearance.message

/-- The receive, and what happens up to the publication. -/
def waiting (appearance : Appearance) : List TimedMove :=
  ⟨appearance.begun, .start appearance.receiver appearance.receive⟩ :: appearance.earlier

/-- The publication. -/
def publication (appearance : Appearance) : TimedMove :=
  ⟨appearance.begun + appearance.delay, .start appearance.publisher appearance.publish⟩

def timeline (appearance : Appearance) : List TimedMove :=
  appearance.waiting ++ appearance.publication :: appearance.later

/-- The network that the publication finds. -/
def found (appearance : Appearance) (network : Network) : Network :=
  network.run (appearance.waiting.map TimedMove.move)

/-- The network that the publication leaves. -/
def left (appearance : Appearance) (network : Network) : Network :=
  (appearance.found network).step appearance.publication.move

/--
The receiver goes on in time, and no connection breaks.  The queue is missing up to the publication,
which succeeds; and from then on nobody else registers on it, and it is not deleted.
-/
structure TakesPlace (appearance : Appearance) (network : Network) : Prop where
  onTime :
    OnTime appearance.receiver network appearance.begun appearance.begun appearance.timeline
      appearance.last
  another : appearance.publisher ≠ appearance.receiver
  elsewhere :
    ∀ timed ∈ appearance.earlier ++ appearance.later, timed.move.IsElsewhere appearance.receiver
  missing : Missing appearance.queue network appearance.waiting
  succeeds :
    (appearance.found network).Returns appearance.publisher
      (.publish appearance.tracing appearance.queue appearance.message) (· = .ok ())
  spared :
    ∀ told ∈ (appearance.left network).told appearance.later,
      told.2.Spares appearance.receiver appearance.queue

/-- What the publication finds belongs to the same run. -/
theorem found_run (arbitration : Arbitration) (moves : List Move) (appearance : Appearance) :
    appearance.found ((start arbitration).run moves) =
      (start arbitration).run (moves ++ appearance.waiting.map TimedMove.move) :=
  (run_append _ _ _).symm

variable {network : Network} {appearance : Appearance} {client : Client} {channel : Channel}
variable {retries spent since now : Nat}

/-- To the end of the pause in which it falls the delay of a publication is rounded up. -/
theorem ends_pause
    (pausing :
      (appearance.found network).PausesSince appearance.receiver client appearance.queue
        appearance.decode retries channel (appearance.begun + spent * client.backoff) now
        (appearance.publication :: appearance.later) appearance.last)
    (pauses : 0 < client.backoff)
    (between : ¬ client.backoff ∣ appearance.delay) :
    appearance.delay ≤ (spent + 1) * client.backoff ∧
      appearance.delay ⌈/⌉ client.backoff = spent + 1 := by
  obtain ⟨begun, notOver⟩ := pausing.time
  have begunBefore : spent * client.backoff ≤ appearance.delay := Nat.le_of_add_le_add_left begun
  have overBehind : appearance.delay ≤ (spent + 1) * client.backoff := by
    rw [Nat.add_assoc, ← Nat.succ_mul] at notOver
    exact Nat.le_of_add_le_add_left notOver
  exact ⟨overBehind, ceilDiv_eq_of_within pauses between begunBefore overBehind⟩

/-- A stored message is there for the attempt that follows its publication. -/
theorem TakesPlace.hands
    {arbitration : Arbitration}
    {moves : List Move}
    (takesPlace : appearance.TakesPlace ((start arbitration).run moves))
    (pausing :
      (appearance.found ((start arbitration).run moves)).PausesSince appearance.receiver client
        appearance.queue appearance.decode retries channel since now
        (appearance.publication :: appearance.later) appearance.last)
    (longEnough : since + client.backoff < appearance.last) :
    let network := (start arbitration).run moves
    ∃ body delivery,
      appearance.message.body = .ok body ∧ delivery.Carries appearance.queue body ∧
        (appearance.left network).broker.queues.get? appearance.queue = some [delivery] ∧
          FinishesAt appearance.receiver appearance.receive
            (Client.handOut client.consumerId appearance.decode delivery) (since + client.backoff) 1
            0 ((appearance.found network).told (appearance.publication :: appearance.later)) := by
  intro network
  have found := found_run arbitration moves appearance
  obtain ⟨atRest, sound⟩ :
      (appearance.found network).AtRest ∧ (appearance.found network).Sound :=
    found ▸ sound_run arbitration _
  have supplied : (appearance.found network).broker.Supplied :=
    found ▸ supplied_run arbitration _
  obtain ⟨body, delivery, encoded, carries, alone, stored⟩ :=
    takesPlace.succeeds.stored supplied (takesPlace.missing _ (List.prefix_refl _))
  refine ⟨body, delivery, encoded, carries, alone, ?_⟩
  have notOwn : appearance.publication.move ≠ .resume appearance.receiver := by
    intro same
    cases same
  obtain ⟨pausingThen, told, log, noCalls, -⟩ :=
    pausing.aside (endures_always (fun _ => trivial) _ _ (fun _ => True) _) trivial
      takesPlace.another notOwn
  obtain ⟨atRestThen, soundThen⟩ :
      (appearance.left network).AtRest ∧ (appearance.left network).Sound :=
    keeps_sound.step atRest sound trivial
  have hands :=
    pausingThen.hands atRestThen soundThen stored
      (fun made member => takesPlace.elsewhere made (List.mem_append_right _ member))
      takesPlace.spared longEnough
  exact hands.behind (spends_nothing log noCalls)

end Appearance

/--
Whatever has happened before, a client with a usable channel and without a stream starts to receive
from a queue, and while no connection breaks the queue is missing until somebody else successfully
publishes to it.  Its policy retries where a queue is missing and pauses in between, and the delay
of the publication is no multiple of its pause.

If the retries last until then, the receive hands the message out exactly with the end of the pause
in which it was published, after one registration more than pauses and with one new channel for each
of them, unless somebody else registers on the queue or deletes it before.  If the retries are spent
earlier, the receive fails exactly with the end of the last pause.
-/
theorem picked_up_at_next_attempt
    (arbitration : Arbitration)
    (moves : List Move)
    (appearance : Appearance)
    {client : Client}
    {channel : Channel}
    (idle : ((start arbitration).run moves).parties[appearance.receiver]? = some (.idle client))
    (isHeld : client.channel = some channel)
    (usable : ((start arbitration).run moves).broker.isOpen channel = true)
    (free : client.streams.get? appearance.queue = none)
    (retriesOn : client.options.notFound.retryOn (Broker.noQueue appearance.queue) = true)
    (pauses : 0 < client.backoff)
    (between : ¬ client.backoff ∣ appearance.delay)
    (takesPlace : appearance.TakesPlace ((start arbitration).run moves)) :
    let network := (start arbitration).run moves
    let retries := client.options.notFound.maxRetries
    let attempt := appearance.delay ⌈/⌉ client.backoff
    let told := network.told appearance.timeline
    (appearance.delay < retries * client.backoff →
        appearance.begun + attempt * client.backoff < appearance.last →
          ∃ body delivery,
            appearance.message.body = .ok body ∧ delivery.Carries appearance.queue body ∧
              (appearance.left network).broker.queues.get? appearance.queue = some [delivery] ∧
                FinishesAt appearance.receiver appearance.receive
                  (Client.handOut client.consumerId appearance.decode delivery)
                  (appearance.begun + attempt * client.backoff) (attempt + 1) attempt told) ∧
      (retries * client.backoff < appearance.delay →
        FinishesAt appearance.receiver appearance.receive
          (.error (client.refusal appearance.queue))
          (appearance.begun + retries * client.backoff) (retries + 1) retries told) := by
  intro network retries attempt told
  obtain ⟨atRest, sound⟩ : network.AtRest ∧ network.Sound := sound_run arbitration moves
  have poised : network.Poised appearance.receiver client channel :=
    ⟨atRest, numbered_run arbitration moves, idle, isHeld, usable,
      (grounded_run arbitration moves).alive idle isHeld usable⟩
  have missing := takesPlace.missing.here
  cases isRetries : client.options.notFound.maxRetries with
  | zero =>
      have isZero : retries = 0 := isRetries
      rw [isZero, Nat.zero_mul]
      refine ⟨fun early => absurd early (Nat.not_lt_zero _), fun _ => ?_⟩
      exact poised.failsAtOnce free isRetries missing _ _
  | succ remaining =>
      have isSucc : retries = remaining + 1 := isRetries
      obtain ⟨spends, fresh, pausing⟩ :=
        poised.pausesSince free retriesOn isRetries missing takesPlace.onTime
      rw [isSucc]
      rcases pausing.fails_or_pauses retriesOn
          (fun made member => takesPlace.elsewhere made (List.mem_append_left _ member))
          takesPlace.missing.behind with
        ⟨inTime, fails⟩ | ⟨spent, left, newest, nowThen, isSum, pausingThen, goesOn⟩
      · -- The retries are spent before the queue appears.
        have early : (remaining + 1) * client.backoff ≤ appearance.delay :=
          Nat.le_of_add_le_add_left inTime
        have failed :
            FinishesAt appearance.receiver appearance.receive
              (.error (client.refusal appearance.queue))
              (appearance.begun + (remaining + 1) * client.backoff) (1 + (remaining + 1))
              (1 + remaining) told :=
          fails.behind spends
        rw [Nat.add_comm 1, Nat.add_comm 1] at failed
        exact ⟨fun inside _ => absurd early (Nat.not_le.mpr inside), fun _ => failed⟩
      · -- The queue appears during a pause.
        obtain ⟨overBehind, rounded⟩ := Appearance.ends_pause pausingThen pauses between
        have inTime : (spent + 1) * client.backoff ≤ (remaining + 1) * client.backoff :=
          Nat.mul_le_mul_right _ (by omega)
        refine ⟨fun _ longEnough => ?_, fun outside => ?_⟩
        · have isAttempt : attempt = spent + 1 := rounded
          have isOver :
              appearance.begun + spent * client.backoff + client.backoff =
                appearance.begun + attempt * client.backoff := by
            rw [isAttempt, Nat.succ_mul, Nat.add_assoc]
          obtain ⟨body, delivery, encoded, carries, alone, hands⟩ :=
            takesPlace.hands pausingThen (isOver ▸ longEnough)
          have handed :
              FinishesAt appearance.receiver appearance.receive
                (Client.handOut client.consumerId appearance.decode delivery)
                (appearance.begun + spent * client.backoff + client.backoff) (1 + (spent + 1))
                (1 + spent) told :=
            (goesOn _ _ _ _ hands).behind spends
          rw [isOver, Nat.add_comm 1, Nat.add_comm 1, ← isAttempt] at handed
          exact ⟨body, delivery, encoded, carries, alone, handed⟩
        · exact absurd overBehind (Nat.not_le.mpr (Nat.lt_of_le_of_lt inTime outside))

/-- A party with a channel that is not in the middle of an operation is idle. -/
theorem exists_idle_of_channel?
    {network : Network}
    {place : Nat}
    {channel : Channel}
    (isHeld : network.channel? place = some channel)
    (isFree : (network.parties[place]?.bind Party.operation?).isNone = true) :
    ∃ client, network.parties[place]? = some (.idle client) ∧ client.channel = some channel := by
  obtain ⟨party, seated, held⟩ := Option.bind_eq_some_iff.mp isHeld
  rw [seated] at isFree
  cases party with
  | idle client => exact ⟨client, seated, held⟩
  | busy operation standing rest => cases isFree
  | gone abandoned => cases held

/-- Two clients with channels. -/
def twoClients : List Move :=
  [.join "worker" (.new "memory"),
    .join "other" (.new "memory"),
    .start 0 .reset,
    .start 1 .reset]

/-- The first of them. -/
def worker : Client where
  lastError := none
  channel := some ⟨1, 0⟩
  connection := ⟨1, 0⟩
  url := "memory"
  consumerId := "worker"
  options := .default
  queues := []
  streams := []

/-- The second client publishes four seconds after the first one has started to receive. -/
def lateJobs : Appearance where
  receiver := 0
  publisher := 1
  queue := "jobs"
  Content := Json
  decode := Codec.decode Json.readValue
  tracing := ⟨.silent, none⟩
  message := ⟨(Message.value (.bool true)).encode, "true"⟩
  begun := 0
  delay := 4000
  earlier := [⟨3000, .resume 0⟩]
  later := [⟨6000, .resume 0⟩, ⟨6000, .resume 0⟩]
  last := 7000

/-- With the default policy the message is handed out six seconds after the start. -/
theorem late_jobs_picked_up :
    let network := (start .byConsumerTag).run twoClients
    lateJobs.TakesPlace network ∧
      ∃ body delivery,
        lateJobs.message.body = .ok body ∧ delivery.Carries "jobs" body ∧
          (lateJobs.left network).broker.queues.get? "jobs" = some [delivery] ∧
            FinishesAt 0 lateJobs.receive (Client.handOut "worker" lateJobs.decode delivery) 6000
              3 2 (network.told lateJobs.timeline) := by
  intro network
  have takesPlace : lateJobs.TakesPlace network := by
    constructor
    case onTime => decide +kernel
    case another => decide
    case elsewhere => simp [lateJobs, Move.IsElsewhere]
    case missing =>
      intro first isPrefix
      have absent :
          ∀ first ∈ lateJobs.waiting.inits,
            (network.run (first.map TimedMove.move)).broker.queueExists "jobs" = false := by
        decide +kernel
      exact absent first ((List.mem_inits first _).mpr isPrefix)
    case succeeds =>
      let found := lateJobs.found network
      obtain ⟨client, idle, isHeld⟩ :
          ∃ client, found.parties[1]? = some (.idle client) ∧ client.channel = some ⟨2, 0⟩ :=
        exists_idle_of_channel? (by decide +kernel) (by decide +kernel)
      have encoded : lateJobs.message.body = .ok [0x74, 0x72, 0x75, 0x65] := rfl
      obtain ⟨told, outcome, log, isOk_iff⟩ :=
        publishes_iff_isOpen idle isHeld lateJobs.tracing "jobs" encoded
      exact ⟨told, outcome, log, isOk_iff.mpr (by decide +kernel)⟩
    case spared => decide +kernel
  have idle : network.parties[lateJobs.receiver]? = some (.idle worker) := rfl
  exact ⟨takesPlace,
    (picked_up_at_next_attempt .byConsumerTag twoClients lateJobs idle rfl (by decide +kernel) rfl
      (by decide +kernel) (by decide) (by decide) takesPlace).1 (by decide) (by decide)⟩

end Network

end BrokerClient
