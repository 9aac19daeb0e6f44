import BrokerClient.Proofs.Client.Registry

/-!
# Consumers under one tag

All consumers of a client have the same tag.  When one is registered, others may be active on the
channel: those for which nothing has happened since that would have dropped any consumer at all.
For a consumer is dropped by cancelling the tag, whichever queue it belongs to, and the client does
so behind each wait in vain and nowhere else.
-/

namespace BrokerClient

namespace Occurrence

/-! ## Occurrences that matter to consumers -/

/-- A consumer of a queue is registered on a channel under a tag, with a stream of its own. -/
def Registers (channel : Channel) (queue tag : String) (stream : Stream) : Occurrence → Prop
  | .asked _ ⟨.transport (.consume on name under _), .ok opened⟩ =>
      channel = on ∧ queue = name ∧ tag = under ∧ stream = opened
  | _ => False

/-- The consumers under a tag are cancelled on a channel, or a stream comes to its end. -/
def Retires (channel : Channel) (tag : String) (stream : Stream) : Occurrence → Prop
  | .asked _ ⟨.transport (.cancel on under _), .ok _⟩ => channel = on ∧ tag = under
  | .asked _ ⟨.next awaited _, .ended⟩ => stream = awaited
  | _ => False

/-- A cancellation on a channel fails. -/
def RefusesCancel (channel : Channel) : Occurrence → Prop
  | .asked _ ⟨.transport (.cancel on _ _), .error _⟩ => channel = on
  | _ => False

/-- A receive, from whichever queue, ends without a message, with the stream or with its failure. -/
def GivesUpAny (occurrence : Occurrence) : Prop :=
  ∃ queue, occurrence.GivesUp queue

/-- A consumer was registered, and since then neither cancelled nor has its stream ended. -/
def Active
    (channel : Channel)
    (queue tag : String)
    (stream : Stream)
    (trace : List Occurrence) : Prop :=
  Lasts (Registers channel queue tag stream) (Retires channel tag stream) trace

/--
What a registration finds on its channel: the consumers under its tag that are active there are
those that were registered since the channel was opened with no wait in vain behind them, and none
is of the queue itself if a receive registers and the queue was not deleted.
-/
def Finds (consumerId : String) (earlier : List Occurrence) : Occurrence → Prop
  | .asked operation ⟨.transport (.consume channel queue tag _), _⟩ =>
      tag = consumerId ∧
        ∃ since, SinceOpening channel since earlier ∧
          ((∀ occurrence ∈ since, ¬ occurrence.RefusesCancel channel) →
            (∀ name stream,
              Active channel name tag stream since ↔
                Lasts (Registers channel name tag stream) GivesUpAny since) ∧
            (operation.awaited? = some queue →
              (∀ occurrence ∈ since, ¬ occurrence.Deletes queue) →
                ∀ stream, ¬ Active channel queue tag stream since))
  | _ => True

/-- Something is true of each occurrence of a trace and of what stands before it. -/
def Throughout (holds : List Occurrence → Occurrence → Prop) (trace : List Occurrence) : Prop :=
  ∀ earlier occurrence later, trace = earlier ++ occurrence :: later → holds earlier occurrence

theorem Throughout.concat
    {holds : List Occurrence → Occurrence → Prop}
    {trace : List Occurrence}
    {last : Occurrence}
    (throughout : Throughout holds trace)
    (atLast : holds trace last) :
    Throughout holds (trace ++ [last]) := by
  intro earlier occurrence later split
  rcases List.eq_nil_or_concat later with rfl | ⟨later, other, rfl⟩
  · obtain ⟨rfl, same⟩ := List.append_inj' split rfl
    exact List.singleton_inj.mp same ▸ atLast
  · rw [List.concat_eq_append, ← List.cons_append, ← List.append_assoc] at split
    exact throughout earlier occurrence later (List.append_inj' split rfl).1

/-- What lasts also lasts if more brings it about and less of the trace undoes it. -/
theorem Lasts.mono
    {begins ends begins' ends' : Occurrence → Prop}
    {trace : List Occurrence}
    (lasts : Lasts begins ends trace)
    (brings : ∀ occurrence, begins occurrence → begins' occurrence)
    (undoes : ∀ occurrence ∈ trace, ends' occurrence → ends occurrence) :
    Lasts begins' ends' trace := by
  obtain ⟨earlier, occurrence, later, rfl, brought, kept⟩ := lasts
  refine ⟨earlier, occurrence, later, rfl, brings occurrence brought, fun other member => ?_⟩
  exact fun ended => kept other member (undoes other (by simp [member]) ended)

section

variable {channel : Channel} {queue tag : String} {stream : Stream}

theorem Registers.consumes {occurrence : Occurrence}
    (registers : occurrence.Registers channel queue tag stream) :
    occurrence.Consumes channel queue := by
  unfold Registers at registers
  split at registers
  · exact ⟨registers.1, registers.2.1⟩
  · cases registers

/-- Of all calls, only a cancellation retires consumers. -/
theorem not_retires_call
    {operation : Operation}
    {call : Call}
    (notCancelling : call.kind ≠ .cancel)
    (answer : call.Answer) :
    ¬ (Occurrence.asked operation ⟨.transport call, answer⟩).Retires channel tag stream := by
  cases call with
  | cancel on under nowait => exact absurd rfl notCancelling
  | _ => exact id

end

end Occurrence

open Occurrence

namespace Standing

variable {standing left : Standing} {channel : Channel}

/-- A wait in vain is dealt with: its consumer was cancelled. -/
def Settled (standing : Standing) (channel : Channel) : Prop :=
  standing.InVain → standing.Cancelled channel

/-- Where nothing but a cancellation is left of a wait in vain, the trace tells who is active. -/
def TellsActive
    (standing : Standing)
    (channel : Channel)
    (since : List Occurrence) : Prop :=
  standing.Settled channel → ∀ queue stream,
    Active channel queue standing.client.consumerId stream since ↔
      ¬ standing.Cancelled channel ∧
        Lasts (Registers channel queue standing.client.consumerId stream) GivesUpAny since

theorem TellsActive.begin : standing.TellsActive channel [] := by
  intro _ queue stream
  simp [Active, lasts_nil]

/-- Who is active stays so if nothing retires and no wait ends. -/
theorem TellsActive.of_kept
    {since : List Occurrence}
    (tells : standing.TellsActive channel since)
    {last : Occurrence}
    (sameId : left.client.consumerId = standing.client.consumerId)
    (vain : left.InVain ↔ standing.InVain)
    (cancelled : left.Cancelled channel ↔ standing.Cancelled channel)
    (registers :
      ∀ queue tag stream, last.Registers channel queue tag stream → ¬ standing.Cancelled channel)
    (notRetiring : ∀ tag stream, ¬ last.Retires channel tag stream)
    (notGivingUp : ¬ last.GivesUpAny) :
    left.TellsActive channel (since ++ [last]) := by
  intro settled queue stream
  have before := tells (fun inVain => cancelled.mp (settled (vain.mpr inVain))) queue stream
  have starts := registers queue standing.client.consumerId stream
  unfold Active at before ⊢
  rw [sameId, lasts_concat_iff, lasts_concat_iff, before, cancelled]
  simp only [notRetiring, notGivingUp, not_false_eq_true, and_true]
  constructor
  · rintro (registered | ⟨notCancelled, lasts⟩)
    · exact ⟨starts registered, .inl registered⟩
    · exact ⟨notCancelled, .inr lasts⟩
  · rintro ⟨notCancelled, registered | lasts⟩
    · exact .inl registered
    · exact .inr ⟨notCancelled, lasts⟩

theorem inVain_congr (sameArrival : left.arrival = standing.arrival) :
    left.InVain ↔ standing.InVain := by
  simp [InVain, sameArrival]

theorem cancelled_congr
    (sameLatest : left.latest = standing.latest)
    (sameId : left.client.consumerId = standing.client.consumerId) :
    left.Cancelled channel ↔ standing.Cancelled channel := by
  unfold Cancelled
  rw [sameLatest, sameId]

theorem not_cancelled_of_call
    {operation : Operation}
    {call : Call}
    (notCancelling : call.kind ≠ .cancel)
    (answer : call.Answer) :
    ¬ (standing.after operation ⟨.transport call, answer⟩).Cancelled channel := by
  rintro ⟨other, same⟩
  have sameCall : call = .cancel channel _ false := congrArg Sigma.fst (Option.some.inj same)
  exact notCancelling (congrArg Call.kind sameCall)

/-- Nothing but a cancellation is called behind a wait. -/
theorem PermitsCall.arrival
    {operation : Operation}
    {call : Call}
    (permitted : standing.PermitsCall operation call)
    (notCancelling : call.kind ≠ .cancel) :
    standing.arrival = none := by
  cases call with
  | openChannel connection => exact permitted.1
  | consume channel queue tag flags => exact permitted.1
  | cancel channel tag nowait => exact absurd rfl notCancelling
  | _ => exact permitted

end Standing

/-- What the trace has to do with the consumers of a client in the middle of an operation. -/
structure Oversees
    (consumerId : String)
    (operation : Operation)
    (trace : List Occurrence)
    (standing : Standing) : Prop where
  accounts : Accounts operation trace standing
  sameId : standing.client.consumerId = consumerId
  cancelsInVain : ∀ channel, standing.Cancelled channel → standing.InVain
  finds : Throughout (Finds consumerId) trace
  held :
    ∀ channel since,
      standing.client.channel = some channel → SinceOpening channel since trace →
        (∀ occurrence ∈ since, ¬ occurrence.RefusesCancel channel) →
          standing.TellsActive channel since

namespace Oversees

variable {consumerId : String} {operation other : Operation} {trace : List Occurrence}
variable {standing left : Standing}

/-- An occurrence that opens no channel is overseen if it is on the channel that is held. -/
theorem concat
    (oversees : Oversees consumerId operation trace standing)
    {last : Occurrence}
    (accounts : Accounts other (trace ++ [last]) left)
    (sameId : left.client.consumerId = standing.client.consumerId)
    (cancelsInVain : ∀ channel, left.Cancelled channel → left.InVain)
    (finds : last.Finds consumerId trace)
    (notOpening : ¬ last.Opens)
    (channels :
      ∀ channel, left.client.channel = some channel → standing.client.channel = some channel)
    (tells :
      ∀ channel since,
        left.client.channel = some channel → standing.TellsActive channel since →
          ¬ last.RefusesCancel channel → left.TellsActive channel (since ++ [last])) :
    Oversees consumerId other (trace ++ [last]) left where
  accounts := accounts
  sameId := sameId.trans oversees.sameId
  cancelsInVain := cancelsInVain
  finds := oversees.finds.concat finds
  held channel since isHeld opened confirmed := by
    have wasHeld := channels channel isHeld
    obtain ⟨before, openedBefore, -⟩ := oversees.accounts.held channel wasHeld
    obtain rfl := opened.unique (openedBefore.concat notOpening)
    have confirmedBefore :=
      oversees.held channel before wasHeld openedBefore fun other member =>
        confirmed other (by simp [member])
    exact tells channel before isHeld confirmedBefore (confirmed last (by simp))

/-- A client that does not wait in vain has cancelled nothing just now. -/
theorem not_cancelled
    (oversees : Oversees consumerId operation trace standing)
    (noArrival : standing.arrival = none)
    (channel : Channel) :
    ¬ standing.Cancelled channel :=
  fun cancelled => Client.not_inVain_of_none noArrival (oversees.cancelsInVain channel cancelled)

/-- What a registration finds, as far as the client may register. -/
theorem finds_call
    (oversees : Oversees consumerId operation trace standing)
    {call : Call}
    (permitted : standing.Permits operation (.transport call))
    (answer : call.Answer) :
    (Occurrence.asked operation ⟨.transport call, answer⟩).Finds consumerId trace := by
  obtain ⟨-, onHeld, permittedCall⟩ := permitted
  cases call with
  | consume channel queue tag flags =>
      obtain ⟨noArrival, -, rfl, free, -⟩ := permittedCall
      have notVain := Client.not_inVain_of_none noArrival
      obtain ⟨since, opened, -, consumers⟩ := oversees.accounts.held channel (onHeld channel rfl)
      refine ⟨oversees.sameId, since, opened, fun confirmed => ?_⟩
      have tells := oversees.held channel since (onHeld channel rfl) opened confirmed
        fun vain => absurd vain notVain
      have active (name : String) (stream : Stream) :
          Active channel name standing.client.consumerId stream since ↔
            Lasts (Registers channel name standing.client.consumerId stream) GivesUpAny since := by
        rw [tells name stream]
        simp [oversees.not_cancelled noArrival]
      refine ⟨active, fun awaits notDeleted stream isActive => ?_⟩
      have lasts : Lasts (Consumes channel queue) (EndsConsumer queue) since := by
        refine ((active queue stream).mp isActive).mono (fun _ => Registers.consumes) ?_
        rintro occurrence member (givesUp | deletes)
        · exact ⟨queue, givesUp⟩
        · exact absurd deletes (notDeleted occurrence member)
      rcases (consumers queue).mpr lasts with holds | gaveUp
      · simp [Client.hasConsumer, Dictionary.contains, free awaits] at holds
      · exact Standing.not_gaveUp noArrival queue gaveUp
  | _ => trivial

/-- A cancellation is overseen: where it succeeds it leaves nobody active under the tag. -/
theorem asked_cancel
    (oversees : Oversees consumerId operation trace standing)
    {on : Channel}
    {tag : String}
    {nowait : Bool}
    (permitted : standing.Permits operation (.transport (.cancel on tag nowait)))
    (answer : (Call.cancel on tag nowait).Answer) :
    Oversees consumerId operation
      (trace ++ [.asked operation ⟨.transport (.cancel on tag nowait), answer⟩])
      (standing.after operation ⟨.transport (.cancel on tag nowait), answer⟩) := by
  have accounts :=
    oversees.accounts.asked ⟨.transport (.cancel on tag nowait), answer⟩ permitted
  have sameId := standing.consumerId_after operation ⟨.transport (.cancel on tag nowait), answer⟩
  obtain ⟨-, onHeld, vain, rfl, rfl⟩ := permitted
  have unchanged :
      standing.client.afterCall operation (.cancel on standing.client.consumerId false) answer =
        standing.client := by
    cases answer <;> rfl
  refine oversees.concat accounts sameId (fun _ _ => vain) trivial id ?_ ?_
  · intro channel isHeld
    exact unchanged ▸ isHeld
  · intro channel since isHeld tells confirmed
    obtain rfl : on = channel := by
      have wasHeld : standing.client.channel = some channel := unchanged ▸ isHeld
      exact Option.some.inj ((onHeld on rfl).symm.trans wasHeld)
    have cancelled :
        (standing.after operation
          ⟨.transport (.cancel on standing.client.consumerId false), answer⟩).Cancelled on :=
      ⟨answer, by rw [sameId]; rfl⟩
    cases answer with
    | error error => exact absurd rfl confirmed
    | ok done =>
        intro _ queue stream
        rw [sameId]
        unfold Active
        rw [lasts_concat_iff]
        simp [cancelled, Registers, Retires]

/-- An opening is overseen: on a new channel nobody is active. -/
theorem asked_openChannel
    (oversees : Oversees consumerId operation trace standing)
    {connection : Connection}
    (permitted : standing.Permits operation (.transport (.openChannel connection)))
    (answer : (Call.openChannel connection).Answer) :
    Oversees consumerId operation
      (trace ++ [.asked operation ⟨.transport (.openChannel connection), answer⟩])
      (standing.after operation ⟨.transport (.openChannel connection), answer⟩) where
  accounts := oversees.accounts.asked ⟨.transport (.openChannel connection), answer⟩ permitted
  sameId :=
    (standing.consumerId_after operation ⟨.transport (.openChannel connection), answer⟩).trans
      oversees.sameId
  cancelsInVain channel cancelled :=
    absurd cancelled (Standing.not_cancelled_of_call (by simp [Call.kind]) answer)
  finds := oversees.finds.concat trivial
  held channel since isHeld opened _ := by
    cases answer with
    | error error => cases permitted.2.2.2.1.symm.trans isHeld
    | ok fresh =>
        obtain rfl := Option.some.inj isHeld
        obtain rfl := opened.unique ⟨trace, operation, connection, rfl, by simp⟩
        exact .begin

/-- A call that is permitted, with its answer, is overseen. -/
theorem asked_call
    (oversees : Oversees consumerId operation trace standing)
    {call : Call}
    (permitted : standing.Permits operation (.transport call))
    (answer : call.Answer) :
    Oversees consumerId operation (trace ++ [.asked operation ⟨.transport call, answer⟩])
      (standing.after operation ⟨.transport call, answer⟩) := by
  by_cases isCancelling : call.kind = .cancel
  · obtain ⟨on, tag, nowait, rfl⟩ := Call.eq_cancel isCancelling
    exact oversees.asked_cancel permitted answer
  · by_cases isOpening : call.kind = .openChannel
    · obtain ⟨connection, rfl⟩ := Call.eq_openChannel isOpening
      exact oversees.asked_openChannel permitted answer
    · have accounts := oversees.accounts.asked ⟨.transport call, answer⟩ permitted
      have sameId := standing.consumerId_after operation ⟨.transport call, answer⟩
      have noArrival := permitted.2.2.arrival isCancelling
      have left (channel : Channel) :
          ¬ (standing.after operation ⟨.transport call, answer⟩).Cancelled channel :=
        Standing.not_cancelled_of_call isCancelling answer
      have notOpening : ¬ (Occurrence.asked operation ⟨.transport call, answer⟩).Opens := by
        cases call with
        | openChannel connection => exact absurd rfl isOpening
        | _ => exact id
      refine oversees.concat accounts sameId
        (fun channel cancelled => absurd cancelled (left channel))
        (oversees.finds_call permitted answer) notOpening
        (fun channel isHeld => Client.channel_of_afterCall isOpening isHeld) ?_
      intro channel since isHeld tells _
      refine tells.of_kept sameId (Standing.inVain_congr rfl) ?_ ?_ ?_ ?_
      · simp [left, oversees.not_cancelled noArrival]
      · exact fun _ _ _ _ => oversees.not_cancelled noArrival channel
      · exact fun _ _ => not_retires_call isCancelling answer
      · rintro ⟨queue, gaveUp⟩
        exact gaveUp

/-- A wait that is permitted, with its end, is overseen. -/
theorem asked_next
    (oversees : Oversees consumerId operation trace standing)
    {stream : Stream}
    {timeout : Duration}
    (permitted : standing.Permits operation (.next stream timeout))
    (arrival : Arrival) :
    Oversees consumerId operation (trace ++ [.asked operation ⟨.next stream timeout, arrival⟩])
      (standing.after operation ⟨.next stream timeout, arrival⟩) := by
  have accounts := oversees.accounts.asked ⟨.next stream timeout, arrival⟩ permitted
  have sameId := standing.consumerId_after operation ⟨.next stream timeout, arrival⟩
  obtain ⟨-, noArrival, queue, awaits, -⟩ := permitted
  have same (channel : Channel) :
      (standing.arrived operation arrival).Cancelled channel ↔ standing.Cancelled channel :=
    Standing.cancelled_congr (Standing.latest_arrived operation standing arrival) sameId
  have left (channel : Channel) : ¬ (standing.arrived operation arrival).Cancelled channel := by
    rw [same]
    exact oversees.not_cancelled noArrival channel
  refine oversees.concat accounts sameId (fun channel cancelled => absurd cancelled (left channel))
    trivial id (fun channel isHeld => ?_) fun channel since isHeld tells _ => ?_
  · exact (Standing.channel_arrived operation standing arrival).symm.trans isHeld
  · cases delivers : arrival.delivery? with
    | none =>
        -- The consumer of a wait in vain is about to be cancelled, and is not yet.
        have vain : (standing.arrived operation arrival).InVain := by
          refine ⟨arrival, ?_, delivers⟩
          simp [Standing.arrived, delivers, awaits]
        exact fun settled => absurd (settled vain) (left channel)
    | some delivery =>
        have notVain : ¬ (standing.arrived operation arrival).InVain := by
          refine Client.not_inVain_of_delivery ?_ delivers
          simp [Standing.arrived, delivers]
        refine tells.of_kept sameId ?_ (same channel) ?_ ?_ ?_
        · simp [Standing.after, notVain, Client.not_inVain_of_none noArrival]
        · exact fun _ _ _ _ => oversees.not_cancelled noArrival channel
        · rintro tag other retires
          cases arrival with
          | ended => cases delivers
          | _ => exact retires
        · rintro ⟨name, gaveUp⟩
          exact gaveUp

/-- Whatever is permitted, with its answer, is overseen. -/
theorem asked
    (oversees : Oversees consumerId operation trace standing)
    (exchange : Exchange)
    (permitted : standing.Permits operation exchange.request) :
    Oversees consumerId operation (trace ++ [.asked operation exchange])
      (standing.after operation exchange) := by
  have accounts := oversees.accounts.asked exchange permitted
  obtain ⟨request, answer⟩ := exchange
  cases request with
  | transport call => exact oversees.asked_call permitted answer
  | next stream timeout => exact oversees.asked_next permitted answer
  | isClosed | sleep | release | describe | freshId =>
      refine oversees.concat accounts rfl oversees.cancelsInVain trivial id (fun _ => id) ?_
      intro channel since _ tells _
      refine tells.of_kept rfl (Standing.inVain_congr rfl) Iff.rfl ?_ (fun _ _ => id) ?_
      · exact fun _ _ _ registers => registers.elim
      · rintro ⟨name, gaveUp⟩
        exact gaveUp

/-- The outcome of an operation shows whether it has dropped a consumer. -/
theorem completed
    (oversees : Oversees consumerId operation trace standing)
    {ended : Outcome operation.Value}
    (concludes : operation.Concludes ended standing)
    (next : Operation) :
    Oversees consumerId next (trace ++ [.completed operation ended.1]) (.start ended.2) := by
  have accounts := oversees.accounts.completed concludes next
  obtain ⟨error, isClient⟩ := concludes.client
  have gaveUp : (Occurrence.completed operation ended.1).GivesUpAny ↔ standing.InVain := by
    unfold Standing.InVain
    rw [← concludes.explains.consumerEnds]
    constructor
    · rintro ⟨queue, -, failure⟩
      exact failure
    · rintro ⟨error, failed, ends⟩
      obtain ⟨queue, awaits⟩ := Operation.awaited?_of_waitFailure? failed
      exact ⟨queue, awaits, error, failed, ends⟩
  have sameId : (Standing.start ended.2).client.consumerId = standing.client.consumerId := by
    rw [isClient]
    rfl
  have notCancelled (channel : Channel) : ¬ (Standing.start ended.2).Cancelled channel := by
    rintro ⟨answer, isLatest⟩
    cases isLatest
  have wasHeld (channel : Channel) (isHeld : ended.2.channel = some channel) :
      standing.client.channel = some channel := by
    rw [isClient] at isHeld
    exact isHeld
  refine oversees.concat accounts sameId
    (fun channel cancelled => absurd cancelled (notCancelled channel)) trivial id wasHeld ?_
  intro channel since isHeld tells _ _ queue stream
  have cancels := fun vain => concludes.cancels vain channel (wasHeld channel isHeld)
  have before := tells cancels queue stream
  unfold Active at before ⊢
  rw [sameId, lasts_concat_iff, lasts_concat_iff, before, gaveUp]
  simp only [notCancelled, Registers, Retires, false_or, not_false_eq_true, and_true, true_and]
  by_cases vain : standing.InVain
  · simp [vain, cancels vain]
  · have notCancelledBefore : ¬ standing.Cancelled channel :=
      fun cancelled => vain (oversees.cancelsInVain channel cancelled)
    simp [vain, notCancelledBefore]

end Oversees

namespace Client

variable {client : Client} {performances : List Performance}

/-- At the end of a run the consumers of a client are overseen. -/
theorem Runs.oversees
    {start : Client}
    (runs : start.Runs performances client)
    (coherent : start.Coherent)
    (absent : start.channel = none)
    (next : Operation) :
    Oversees start.consumerId next (Performance.trace performances) (.start client) := by
  refine runs.holds (Oversees start.consumerId)
    (fun _ _ _ oversees => oversees.accounts.coherent)
    (fun next => ⟨.of_no_channel coherent absent, rfl, ?_, ?_, ?_⟩)
    (fun _ _ _ exchange oversees permitted => oversees.asked exchange permitted)
    (fun _ _ _ _ next oversees concludes => oversees.completed concludes next)
    next
  · rintro channel ⟨answer, isLatest⟩
    cases isLatest
  · intro earlier occurrence later split
    simp at split
  · intro channel since isHeld
    cases absent.symm.trans isHeld

/--
Whenever a client registers a consumer, it does so under its own tag.  If no cancellation on the
channel has failed, the consumers under the tag that are active there then are exactly those that
were registered since the channel was opened and behind which no receive, from whichever queue, has
waited in vain; so a consumer of another queue may well be among them.  A receive finds none of the
queue that it registers for, unless the queue was deleted.
-/
theorem active_at_registration
    {connection : Connection}
    {url consumerId : String}
    {options : Options}
    (runs : (Client.new connection url consumerId options).Runs performances client)
    {earlier later : List Occurrence}
    {operation : Operation}
    {channel : Channel}
    {queue tag : String}
    {flags : ConsumeFlags}
    {answer : (Call.consume channel queue tag flags).Answer}
    (split :
      Performance.trace performances =
        earlier ++
          .asked operation ⟨.transport (.consume channel queue tag flags), answer⟩ :: later) :
    tag = consumerId ∧
      ∃ since, SinceOpening channel since earlier ∧
        ((∀ occurrence ∈ since, ¬ occurrence.RefusesCancel channel) →
          (∀ name stream,
            Active channel name tag stream since ↔
              Lasts (Registers channel name tag stream) GivesUpAny since) ∧
          (operation.awaited? = some queue →
            (∀ occurrence ∈ since, ¬ occurrence.Deletes queue) →
              ∀ stream, ¬ Active channel queue tag stream since)) :=
  (runs.oversees (coherent_new _ _ _ _) rfl .reset).finds earlier _ later split

end Client

namespace Performance

/-- A message of a queue is received through a new consumer. -/
def taking (queue : String) (stream : Stream) : Performance where
  operation := .receive queue Except.ok
  history :=
    [⟨.transport (.qos ⟨0, 0⟩ 1 false), .ok ()⟩,
      ⟨.transport (.consume ⟨0, 0⟩ queue "worker" Client.consumeFlags), .ok stream⟩,
      ⟨.next stream (.ofSeconds 10), .item (.ok (.new 1 queue [1]))⟩]
  outcome := .ok (.new 1 queue [1], [1])

/-- The client once it has a channel and some streams. -/
def takingClient (streams : Dictionary Stream) : Client :=
  { declaredClient with queues := [], streams := streams }

theorem ends_taking
    {queue : String}
    {streams : Dictionary Stream}
    (free : streams.get? queue = none)
    (stream : Stream) :
    ((taking queue stream).operation.program (takingClient streams)).Ends
      (taking queue stream).history
      ((taking queue stream).outcome, takingClient (streams.insert queue stream)) := by
  have nothingHeld : (takingClient streams).streams.get? queue = none := free
  have isHeld : (takingClient (streams.insert queue stream)).streams.get? queue = some stream :=
    Dictionary.get?_insert_same ..
  have registered : ((takingClient streams).registerConsumer queue).Ends
      ((taking queue stream).history.take 2)
      (.ok (), takingClient (streams.insert queue stream)) :=
    Client.registerConsumer_ends_of_granted rfl nothingHeld stream
  change (Client.receive _ queue Except.ok).Ends _ _
  rw [Client.receive_of_free nothingHeld]
  refine Program.ends_bind_iff.mpr
    ⟨_, (taking queue stream).history.drop 2, _, rfl, registered, ?_⟩
  rw [Client.receiving, Client.awaiting, isHeld]
  exact .ask _ (.done _)

/-- Two queues are received from, one after the other. -/
theorem runs_taking :
    (Client.new ⟨0, 0⟩ "memory" "worker" .default).Runs
      [opening, taking "a" ⟨0⟩, taking "b" ⟨1⟩]
      (takingClient (Dictionary.insert (Dictionary.insert [] "a" ⟨0⟩) "b" ⟨1⟩)) := by
  have opened : (opening.operation.program (Client.new ⟨0, 0⟩ "memory" "worker" .default)).Ends
      opening.history (opening.outcome, takingClient []) :=
    .ask _ (.ask _ (.done _))
  have free : (Dictionary.insert ([] : Dictionary Stream) "a" ⟨0⟩).get? "b" = none :=
    Dictionary.get?_insert_other _ _ (by decide)
  exact .perform (.perform (.perform .begin opening opened) _ (ends_taking rfl _)) _
    (ends_taking free _)

end Performance

namespace Client

open Performance

/-- What happens between the opening of the channel and the registration for the other queue. -/
def untilOther : List Occurrence :=
  .completed .reset (.ok ()) :: (taking "a" ⟨0⟩).occurrences ++
    [.asked (taking "b" ⟨1⟩).operation ⟨.transport (.qos ⟨0, 0⟩ 1 false), .ok ()⟩]

/-- The consumer of one queue is active while that of another is registered under the same tag. -/
theorem active_at_other_registration :
    ∃ earlier operation flags answer later,
      Performance.trace [opening, taking "a" ⟨0⟩, taking "b" ⟨1⟩] =
          earlier ++
            .asked operation ⟨.transport (.consume ⟨0, 0⟩ "b" "worker" flags), answer⟩ :: later ∧
        SinceOpening ⟨0, 0⟩ untilOther earlier ∧
          Active ⟨0, 0⟩ "a" "worker" ⟨0⟩ untilOther ∧
            ∀ stream, ¬ Active ⟨0, 0⟩ "b" "worker" stream untilOther := by
  have split :
      Performance.trace [opening, taking "a" ⟨0⟩, taking "b" ⟨1⟩] =
        (opening.history.map (.asked .reset) ++ untilOther) ++
          .asked (taking "b" ⟨1⟩).operation
              ⟨.transport (.consume ⟨0, 0⟩ "b" "worker" consumeFlags), .ok ⟨1⟩⟩ ::
            (taking "b" ⟨1⟩).occurrences.drop 2 :=
    rfl
  have lasts : Lasts (Registers ⟨0, 0⟩ "a" "worker" ⟨0⟩) GivesUpAny untilOther := by
    refine ⟨untilOther.take 2, _, untilOther.drop 3, rfl, ⟨rfl, rfl, rfl, rfl⟩, ?_⟩
    simp [untilOther, Performance.occurrences, taking, GivesUpAny, GivesUp, Operation.waitFailure?]
  have opened :
      SinceOpening ⟨0, 0⟩ untilOther (opening.history.map (.asked .reset) ++ untilOther) := by
    refine ⟨[.asked .reset ⟨.isClosed ⟨0, 0⟩, false⟩], .reset, ⟨0, 0⟩, rfl, ?_⟩
    simp [untilOther, Performance.occurrences, taking, Opens]
  have confirmed : ∀ occurrence ∈ untilOther, ¬ occurrence.RefusesCancel ⟨0, 0⟩ := by
    simp [untilOther, Performance.occurrences, taking, RefusesCancel]
  have notDeleted : ∀ occurrence ∈ untilOther, ¬ occurrence.Deletes "b" := by
    simp [untilOther, Performance.occurrences, taking, Deletes]
  obtain ⟨-, since, openedSince, finds⟩ := active_at_registration runs_taking split
  obtain rfl := opened.unique openedSince
  obtain ⟨active, notOwn⟩ := finds confirmed
  exact ⟨_, _, _, _, _, split, opened, (active "a" ⟨0⟩).mpr lasts, notOwn rfl notDeleted⟩

end Client

end BrokerClient
