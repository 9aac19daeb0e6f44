import BrokerClient.Proofs.Client.Conduct

/-!
# The registries of a client

What a client remembers is read off the trace of its run.  It knows a queue exactly if it holds a
channel and, since that channel was opened, the queue was declared on it and not deleted after
that.  It holds a stream exactly if, since the channel was opened, a consumer was registered on it
and since then no receive has ended the consumer and no deletion has taken the queue away.
-/

namespace BrokerClient

namespace Occurrence

/-! ## Occurrences that matter to the registries -/

/-- A channel is asked for, and perhaps opened. -/
def Opens : Occurrence → Prop
  | .asked _ ⟨.transport (.openChannel _), _⟩ => True
  | _ => False

/-- A queue is declared on a channel by an operation that remembers it. -/
def Declares (channel : Channel) (queue : String) : Occurrence → Prop
  | .asked operation ⟨.transport (.declare on name _ _), .ok _⟩ =>
      operation.remembersQueues = true ∧ channel = on ∧ queue = name
  | _ => False

/-- A queue is deleted. -/
def Deletes (queue : String) : Occurrence → Prop
  | .asked _ ⟨.transport (.delete _ name _), .ok _⟩ => queue = name
  | _ => False

/-- A consumer of a queue is registered on a channel. -/
def Consumes (channel : Channel) (queue : String) : Occurrence → Prop
  | .asked _ ⟨.transport (.consume on name _ _), .ok _⟩ => channel = on ∧ queue = name
  | _ => False

/-- A receive from a queue ends without a message, at the end of the stream or with its failure. -/
def GivesUp (queue : String) : Occurrence → Prop
  | .completed operation outcome =>
      operation.awaited? = some queue ∧
        ∃ error, operation.waitFailure? outcome = some error ∧ error.endsConsumer = true
  | _ => False

/-- A consumer of a queue comes to its end. -/
def EndsConsumer (queue : String) (occurrence : Occurrence) : Prop :=
  occurrence.GivesUp queue ∨ occurrence.Deletes queue

/-- Something was brought about in a trace and not undone after that. -/
def Lasts (begins ends : Occurrence → Prop) (trace : List Occurrence) : Prop :=
  ∃ earlier occurrence later,
    trace = earlier ++ occurrence :: later ∧ begins occurrence ∧ ∀ other ∈ later, ¬ ends other

/-- A channel was opened in a trace, with no other asked for since; this is what happened since. -/
def SinceOpening (channel : Channel) (since trace : List Occurrence) : Prop :=
  ∃ earlier operation connection,
    trace =
        earlier ++
          .asked operation ⟨.transport (.openChannel connection), .ok channel⟩ :: since ∧
      ∀ occurrence ∈ since, ¬ occurrence.Opens

theorem lasts_nil {begins ends : Occurrence → Prop} : ¬ Lasts begins ends [] := by
  rintro ⟨earlier, occurrence, later, split, -⟩
  simp at split

/-- What lasts at the end of a trace was brought about last or was not undone last. -/
theorem lasts_concat_iff
    {begins ends : Occurrence → Prop}
    {trace : List Occurrence}
    {last : Occurrence} :
    Lasts begins ends (trace ++ [last]) ↔ begins last ∨ Lasts begins ends trace ∧ ¬ ends last := by
  constructor
  · rintro ⟨earlier, occurrence, later, split, brought, kept⟩
    rcases List.eq_nil_or_concat later with rfl | ⟨later, other, rfl⟩
    · obtain ⟨-, same⟩ := List.append_inj' split rfl
      exact .inl (by simp_all)
    · rw [List.concat_eq_append, ← List.cons_append, ← List.append_assoc] at split
      obtain ⟨sameTrace, same⟩ := List.append_inj' split rfl
      obtain rfl : last = other := by simpa using same
      refine .inr ⟨⟨earlier, occurrence, later, sameTrace, brought, ?_⟩, ?_⟩
      · exact fun other member => kept other (by simp [member])
      · exact kept last (by simp)
  · rintro (brought | ⟨⟨earlier, occurrence, later, rfl, brought, kept⟩, notEnded⟩)
    · exact ⟨trace, last, [], rfl, brought, by simp⟩
    · refine ⟨earlier, occurrence, later ++ [last], by simp, brought, ?_⟩
      intro other member
      rcases List.mem_append.mp member with inLater | isLast
      · exact kept other inLater
      · exact List.mem_singleton.mp isLast ▸ notEnded

/-- What stands behind the last marked occurrence of a trace is determined by the trace. -/
theorem later_unique
    {marked : Occurrence → Prop}
    {earlier earlierOther later laterOther : List Occurrence}
    {last lastOther : Occurrence}
    (split : earlier ++ last :: later = earlierOther ++ lastOther :: laterOther)
    (isMarked : marked last)
    (isMarkedOther : marked lastOther)
    (unmarked : ∀ occurrence ∈ later, ¬ marked occurrence)
    (unmarkedOther : ∀ occurrence ∈ laterOther, ¬ marked occurrence) :
    later = laterOther := by
  rcases List.append_eq_append_iff.mp split with ⟨between, -, shape⟩ | ⟨between, -, shape⟩
  · cases between with
    | nil => exact (List.cons.inj shape).2
    | cons first rest =>
        obtain ⟨-, rfl⟩ := List.cons.inj shape
        exact absurd isMarkedOther (unmarked lastOther (by simp))
  · cases between with
    | nil => exact (List.cons.inj shape).2.symm
    | cons first rest =>
        obtain ⟨-, rfl⟩ := List.cons.inj shape
        exact absurd isMarked (unmarkedOther last (by simp))

theorem SinceOpening.unique
    {channel other : Channel}
    {since sinceOther trace : List Occurrence}
    (opened : SinceOpening channel since trace)
    (openedOther : SinceOpening other sinceOther trace) :
    since = sinceOther := by
  obtain ⟨earlier, operation, connection, rfl, none⟩ := opened
  obtain ⟨earlierOther, operationOther, connectionOther, split, noneOther⟩ := openedOther
  exact later_unique split trivial trivial none noneOther

theorem SinceOpening.concat
    {channel : Channel}
    {since trace : List Occurrence}
    (opened : SinceOpening channel since trace)
    {last : Occurrence}
    (notOpening : ¬ last.Opens) :
    SinceOpening channel (since ++ [last]) (trace ++ [last]) := by
  obtain ⟨earlier, operation, connection, rfl, none⟩ := opened
  refine ⟨earlier, operation, connection, by simp, ?_⟩
  intro occurrence member
  rcases List.mem_append.mp member with inSince | isLast
  · exact none occurrence inSince
  · exact List.mem_singleton.mp isLast ▸ notOpening

/-- What is said of the time since the held channel was opened is said of one such time. -/
theorem iff_since_opening
    {known : Prop}
    {held : Option Channel}
    {trace : List Occurrence}
    {tells : Channel → List Occurrence → Prop}
    (absent : held = none → ¬ known)
    (present :
      ∀ channel, held = some channel →
        ∃ since, SinceOpening channel since trace ∧ (known ↔ tells channel since)) :
    known ↔
      ∃ channel since,
        held = some channel ∧ SinceOpening channel since trace ∧ tells channel since := by
  constructor
  · intro isKnown
    cases held with
    | none => exact absurd isKnown (absent rfl)
    | some channel =>
        obtain ⟨since, opened, same⟩ := present channel rfl
        exact ⟨channel, since, rfl, opened, same.mp isKnown⟩
  · intro ⟨channel, since, isHeld, opened, said⟩
    obtain ⟨sinceOther, openedOther, same⟩ := present channel isHeld
    rw [opened.unique openedOther] at said
    exact same.mpr said

end Occurrence

open Occurrence

/-- A wait of the operation for a queue is over and has ended the consumer. -/
def Standing.GaveUp (operation : Operation) (standing : Standing) (queue : String) : Prop :=
  operation.awaited? = some queue ∧
    ∃ arrived, standing.arrival = some arrived ∧ arrived.delivery? = none

/--
What a client remembers in the middle of an operation, as the trace has it.  A consumer that a wait
has ended is forgotten at once, while in the trace it lasts until the operation is completed.
-/
structure Accounts
    (operation : Operation)
    (trace : List Occurrence)
    (standing : Standing) : Prop where
  coherent : standing.client.Coherent
  held :
    ∀ channel, standing.client.channel = some channel →
      ∃ since, SinceOpening channel since trace ∧
        (∀ queue,
          standing.client.hasQueue queue = true ↔
            Lasts (Declares channel queue) (Deletes queue) since) ∧
        (∀ queue,
          standing.client.hasConsumer queue = true ∨ standing.GaveUp operation queue ↔
            Lasts (Consumes channel queue) (EndsConsumer queue) since)
  forgotten :
    ∀ queue, standing.GaveUp operation queue → standing.client.hasConsumer queue = false

theorem Standing.not_gaveUp
    {operation : Operation}
    {standing : Standing}
    (noArrival : standing.arrival = none)
    (queue : String) :
    ¬ standing.GaveUp operation queue := by
  simp [GaveUp, noArrival]

namespace Accounts

variable {operation other : Operation} {trace : List Occurrence} {standing left : Standing}

/-- An occurrence that opens no channel is accounted for queue by queue. -/
theorem concat
    (accounts : Accounts operation trace standing)
    (coherent : left.client.Coherent)
    (last : Occurrence)
    (notOpening : ¬ last.Opens)
    (forgotten : ∀ queue, left.GaveUp other queue → left.client.hasConsumer queue = false)
    (held :
      ∀ channel, left.client.channel = some channel →
        standing.client.channel = some channel ∧
          (∀ queue,
            left.client.hasQueue queue = true ↔
              last.Declares channel queue ∨
                standing.client.hasQueue queue = true ∧ ¬ last.Deletes queue) ∧
          (∀ queue,
            left.client.hasConsumer queue = true ∨ left.GaveUp other queue ↔
              last.Consumes channel queue ∨
                (standing.client.hasConsumer queue = true ∨ standing.GaveUp operation queue) ∧
                  ¬ last.EndsConsumer queue)) :
    Accounts other (trace ++ [last]) left where
  coherent := coherent
  forgotten := forgotten
  held := by
    intro channel isHeld
    obtain ⟨wasHeld, queues, consumers⟩ := held channel isHeld
    obtain ⟨since, opened, queuesBefore, consumersBefore⟩ := accounts.held channel wasHeld
    refine ⟨since ++ [last], opened.concat notOpening, fun queue => ?_, fun queue => ?_⟩
    · rw [lasts_concat_iff, queues queue, queuesBefore queue]
    · rw [lasts_concat_iff, consumers queue, consumersBefore queue]

/-- An occurrence that does not matter to the registries is accounted for. -/
theorem concat_idle
    (accounts : Accounts operation trace standing)
    (coherent : left.client.Coherent)
    (last : Occurrence)
    (notOpening : ¬ last.Opens)
    (sameChannel : left.client.channel = standing.client.channel)
    (sameQueues : left.client.queues = standing.client.queues)
    (sameStreams : left.client.streams = standing.client.streams)
    (sameArrival : left.arrival = standing.arrival)
    (idle :
      ∀ channel queue,
        ¬ last.Declares channel queue ∧ ¬ last.Deletes queue ∧ ¬ last.Consumes channel queue ∧
          ¬ last.GivesUp queue) :
    Accounts operation (trace ++ [last]) left := by
  refine accounts.concat coherent last notOpening ?_ fun channel isHeld =>
    ⟨sameChannel ▸ isHeld, ?_, ?_⟩
  · intro queue gaveUp
    simp only [Client.hasConsumer, sameStreams]
    exact accounts.forgotten queue (by simpa [Standing.GaveUp, sameArrival] using gaveUp)
  · intro queue
    simp [Client.hasQueue, sameQueues, idle channel queue]
  · intro queue
    simp [Client.hasConsumer, sameStreams, Standing.GaveUp, sameArrival, EndsConsumer,
      idle channel queue]

/-- A client without a channel has nothing to account for. -/
theorem of_no_channel
    (coherent : left.client.Coherent)
    (absent : left.client.channel = none) :
    Accounts operation trace left where
  coherent := coherent
  held channel isHeld := by simp [absent] at isHeld
  forgotten queue _ := by
    simp [Client.hasConsumer, coherent.streams_of_no_channel absent, Dictionary.contains]

/-- Closing the channel either leaves all as it is or leaves nothing to account for. -/
theorem asked_closeChannel
    (accounts : Accounts operation trace standing)
    (channel : Channel)
    (answer : (Call.closeChannel channel).Answer) :
    Accounts operation (trace ++ [.asked operation ⟨.transport (.closeChannel channel), answer⟩])
      (standing.after operation ⟨.transport (.closeChannel channel), answer⟩) := by
  by_cases isClose : operation.isClose = true
  · have unchanged : standing.client.afterCall operation (.closeChannel channel) answer =
        standing.client := by
      simp [Client.afterCall, isClose]
    refine accounts.concat_idle ?_ _ id ?_ ?_ ?_ rfl fun other name => ⟨id, id, id, id⟩
    all_goals simp only [Standing.after, unchanged]
    exact accounts.coherent
  · have closed : standing.client.afterCall operation (.closeChannel channel) answer =
        standing.client.withoutChannel := by
      simp [Client.afterCall, isClose]
    apply of_no_channel
    all_goals simp only [Standing.after, closed]
    · exact Client.coherent_withoutChannel _
    · rfl

/-- A call that is permitted, with its answer, is accounted for. -/
theorem asked_call
    (accounts : Accounts operation trace standing)
    {call : Call}
    (permitted : standing.Permits operation (.transport call))
    (answer : call.Answer) :
    Accounts operation (trace ++ [.asked operation ⟨.transport call, answer⟩])
      (standing.after operation ⟨.transport call, answer⟩) := by
  have coherent := accounts.coherent.after ⟨.transport call, answer⟩ permitted
  obtain ⟨-, onHeld, permittedCall⟩ := permitted
  cases call <;> cases answer
  case openChannel.ok connection channel =>
    obtain ⟨noArrival, -, noQueues, noStreams⟩ := permittedCall
    refine ⟨coherent, fun other isHeld => ⟨[], ?_, fun queue => ?_, fun queue => ?_⟩,
      fun queue gaveUp => absurd gaveUp (Standing.not_gaveUp noArrival queue)⟩
    · obtain rfl : channel = other := Option.some.inj isHeld
      exact ⟨trace, operation, connection, rfl, by simp⟩
    · simp [lasts_nil, Standing.after, Client.afterCall, Client.hasQueue, noQueues,
        Dictionary.contains]
    · simp [lasts_nil, Standing.after, Client.afterCall, Client.hasConsumer, noStreams,
        Dictionary.contains, Standing.GaveUp, noArrival]
  case openChannel.error connection error =>
    exact of_no_channel coherent permittedCall.2.1
  case declare.ok channel queue flags arguments info =>
    by_cases remembers : operation.remembersQueues = true
    · refine accounts.concat coherent _ id
        (fun name gaveUp => absurd gaveUp (Standing.not_gaveUp permittedCall name))
        fun other isHeld => ?_
      have wasHeld := onHeld channel rfl
      simp only [Standing.after, Client.afterCall, remembers, if_true] at isHeld ⊢
      obtain rfl : channel = other := Option.some.inj (wasHeld.symm.trans isHeld)
      refine ⟨wasHeld, fun name => ?_, fun name => ?_⟩
      · simp [Client.hasQueue, Dictionary.contains_insert_iff, Declares, Deletes, remembers]
      · simp [Client.hasConsumer, Standing.GaveUp, Consumes, EndsConsumer, GivesUp, Deletes]
    · refine accounts.concat_idle coherent _ id ?_ ?_ ?_ rfl fun other name => ⟨?_, id, id, id⟩
      all_goals simp [Standing.after, Client.afterCall, Declares, remembers]
  case delete.ok channel queue flags purged =>
    refine accounts.concat coherent _ id
      (fun name gaveUp => absurd gaveUp (Standing.not_gaveUp permittedCall name))
      fun other isHeld => ⟨isHeld, fun name => ?_, fun name => ?_⟩
    · simp [Standing.after, Client.afterCall, Client.hasQueue, Dictionary.contains_erase_iff,
        Declares, Deletes, and_comm]
    · have noArrival : standing.arrival = none := permittedCall
      simp [Standing.after, Client.afterCall, Client.hasConsumer, Dictionary.contains_erase_iff,
        Standing.GaveUp, noArrival, Consumes, EndsConsumer, GivesUp, Deletes, and_comm]
  case consume.ok channel queue tag flags stream =>
    refine accounts.concat coherent _ id
      (fun name gaveUp => absurd gaveUp (Standing.not_gaveUp permittedCall.1 name))
      fun other isHeld => ?_
    have wasHeld := onHeld channel rfl
    obtain rfl : channel = other := Option.some.inj (wasHeld.symm.trans isHeld)
    refine ⟨wasHeld, fun name => ?_, fun name => ?_⟩
    · simp [Standing.after, Client.afterCall, Client.hasQueue, Declares, Deletes]
    · simp [Standing.after, Client.afterCall, Client.hasConsumer, Dictionary.contains_insert_iff,
        Standing.GaveUp, Consumes, EndsConsumer, GivesUp, Deletes, or_assoc]
  case closeChannel.ok channel closed =>
    exact accounts.asked_closeChannel channel _
  case closeChannel.error channel error =>
    exact accounts.asked_closeChannel channel _
  all_goals
    exact accounts.concat_idle coherent _ id rfl rfl rfl rfl
      fun channel queue => ⟨id, id, id, id⟩

/-- A wait that is permitted, with its end, is accounted for. -/
theorem asked_next
    (accounts : Accounts operation trace standing)
    {stream : Stream}
    {timeout : Duration}
    (permitted : standing.Permits operation (.next stream timeout))
    (arrival : Arrival) :
    Accounts operation (trace ++ [.asked operation ⟨.next stream timeout, arrival⟩])
      (standing.after operation ⟨.next stream timeout, arrival⟩) := by
  have coherent := accounts.coherent.after ⟨.next stream timeout, arrival⟩ permitted
  obtain ⟨-, noArrival, queue, awaits, holds⟩ := permitted
  have heldBefore : standing.client.hasConsumer queue = true := by
    simp [Client.hasConsumer, Dictionary.contains, holds]
  cases delivers : arrival.delivery? with
  | none =>
      have gaveUp (name : String) :
          (standing.arrived operation arrival).GaveUp operation name ↔ queue = name := by
        simp [Standing.GaveUp, Standing.arrived, delivers, awaits]
      have consumers (name : String) :
          (standing.arrived operation arrival).client.hasConsumer name = true ↔
            name ≠ queue ∧ standing.client.hasConsumer name = true := by
        simp [Standing.arrived, delivers, awaits, Client.hasConsumer,
          Dictionary.contains_erase_iff]
      refine accounts.concat coherent _ id ?_ fun channel isHeld =>
        ⟨?_, fun name => ?_, fun name => ?_⟩
      · intro name isGivenUp
        obtain rfl := (gaveUp name).mp isGivenUp
        rw [Bool.eq_false_iff, ne_eq, Standing.after, consumers]
        simp
      · simpa [Standing.after, Standing.arrived, delivers, awaits] using isHeld
      · simp [Standing.after, Standing.arrived, delivers, awaits, Client.hasQueue, Declares,
          Deletes]
      · simp only [Standing.after, gaveUp, consumers, Consumes, EndsConsumer, GivesUp, Deletes]
        by_cases same : name = queue
        · simp [same, heldBefore]
        · simp [same, Ne.symm same, Standing.not_gaveUp noArrival name]
  | some delivery =>
      have stays :
          standing.arrived operation arrival = { standing with arrival := some arrival } := by
        simp [Standing.arrived, delivers]
      have notGivenUp (name : String) :
          ¬ (standing.arrived operation arrival).GaveUp operation name := by
        rw [stays]
        rintro ⟨-, arrived, same, undelivered⟩
        simp [← Option.some.inj same, delivers] at undelivered
      refine accounts.concat coherent _ id ?_ fun channel isHeld =>
        ⟨?_, fun name => ?_, fun name => ?_⟩
      · exact fun name isGivenUp => absurd isGivenUp (notGivenUp name)
      · simpa [Standing.after, stays] using isHeld
      · simp [Standing.after, stays, Client.hasQueue, Declares, Deletes]
      · simp only [Standing.after, notGivenUp name, Standing.not_gaveUp noArrival name]
        simp [stays, Client.hasConsumer, Consumes, EndsConsumer, GivesUp, Deletes]

/-- Whatever is permitted, with its answer, is accounted for. -/
theorem asked
    (accounts : Accounts operation trace standing)
    (exchange : Exchange)
    (permitted : standing.Permits operation exchange.request) :
    Accounts operation (trace ++ [.asked operation exchange])
      (standing.after operation exchange) := by
  have coherent := accounts.coherent.after exchange permitted
  obtain ⟨request, answer⟩ := exchange
  cases request with
  | transport call => exact accounts.asked_call permitted answer
  | next stream timeout => exact accounts.asked_next permitted answer
  | isClosed | sleep | release | describe | freshId =>
      exact accounts.concat_idle coherent _ id rfl rfl rfl rfl
        fun channel queue => ⟨id, id, id, id⟩

/-- The outcome of an operation settles what a wait of it has ended. -/
theorem completed
    (accounts : Accounts operation trace standing)
    {ended : Outcome operation.Value}
    (concludes : operation.Concludes ended standing)
    (next : Operation) :
    Accounts next (trace ++ [.completed operation ended.1]) (.start ended.2) := by
  obtain ⟨⟨error, isClient⟩, -, coherent, explains⟩ := concludes
  rw [isClient]
  have gaveUp (queue : String) :
      (Occurrence.completed operation ended.1).EndsConsumer queue ↔
        standing.GaveUp operation queue := by
    simp [EndsConsumer, GivesUp, Deletes, Standing.GaveUp, explains.consumerEnds]
  have leftCoherent :
      (Standing.start { standing.client with lastError := error }).client.Coherent :=
    ⟨coherent.1, coherent.2, coherent.3⟩
  refine accounts.concat leftCoherent (.completed operation ended.1) id ?_ ?_
  · exact fun queue isGivenUp => absurd isGivenUp (Standing.not_gaveUp rfl queue)
  · refine fun channel isHeld => ⟨isHeld, fun queue => ?_, fun queue => ?_⟩
    · simp [Standing.start, Client.hasQueue, Declares, Deletes]
    · have forgotten := accounts.forgotten queue
      have none :
          ¬ (Standing.start { standing.client with lastError := error }).GaveUp next queue :=
        Standing.not_gaveUp rfl queue
      rw [gaveUp]
      by_cases isGivenUp : standing.GaveUp operation queue
      · simp [none, isGivenUp, Consumes]
        simpa [Standing.start, Client.hasConsumer] using forgotten isGivenUp
      · simp only [none, isGivenUp, not_false_eq_true, and_true, or_false]
        simp [Consumes, Standing.start, Client.hasConsumer]

end Accounts

/-! ## Runs -/

namespace Client

variable {start client : Client} {performances : List Performance}

/-- At the end of a run the client is coherent, and its registries are accounted for. -/
theorem Runs.accounts
    (runs : start.Runs performances client)
    (coherent : start.Coherent)
    (absent : start.channel = none)
    (next : Operation) :
    Accounts next (Performance.trace performances) (.start client) :=
  runs.holds Accounts
    (fun _ _ _ accounts => accounts.coherent)
    (fun _ => .of_no_channel coherent absent)
    (fun _ _ _ exchange accounts permitted => accounts.asked exchange permitted)
    (fun _ _ _ _ next accounts concludes => accounts.completed concludes next)
    next

/-- A queue that is known is not declared again. -/
theorem ensureQueue_eq_done_of_hasQueue
    {definition : QueueDefinition}
    (known : client.hasQueue definition.name = true) :
    client.ensureQueue definition = .done (.ok (), client.resetError) := by
  simp only [ensureQueue, declare, known, if_true]
  rfl

/-- A request that declares no queue. -/
def DeclaresNothing (request : Request) : Prop :=
  ∀ call, request = .transport call → call.kind ≠ .declare

/-- Publishing to a queue that is known declares nothing. -/
theorem publish_declares_nothing
    {queue : String}
    (known : client.hasQueue queue = true)
    (tracing : Tracing)
    (message : Outgoing) :
    (client.publish tracing queue message).Meets (.only DeclaresNothing) (fun _ _ => True) () := by
  have failed (error : ClientError) :
      (client.failWith message error).Meets (.only DeclaresNothing) (fun _ _ => True) () :=
    ⟨by simp [Monitor.only, DeclaresNothing], fun _ => trivial⟩
  have declared : client.declare (.new queue) = .done (.ok (), client) := by
    have isName : (QueueDefinition.new queue).name = queue := rfl
    simp only [declare, isName, known, if_true]
    rfl
  have sent (body : List UInt8) :
      (client.send tracing queue message body).Meets (.only DeclaresNothing)
        (fun _ _ => True) () := by
    unfold send
    refine ⟨by simp [Monitor.only, DeclaresNothing], fun messageId => ?_⟩
    dsimp only [Bind.bind, Program.bind, Program.request]
    split
    · trivial
    · refine ⟨by simp [Monitor.only, DeclaresNothing, Call.kind], fun answer => ?_⟩
      cases answer with
      | error error => exact failed _
      | ok confirmed => trivial
  have whole :
      (client.sendDeclared tracing queue message).Meets (.only DeclaresNothing)
        (fun _ _ => True) () := by
    simp only [sendDeclared, declared]
    dsimp only [Bind.bind, Program.bind]
    split
    · exact sent _
    · exact failed _
  exact whole.bind fun _ _ _ => trivial

/--
The registries of a client that has come from a fresh one are what its trace says of the channel
that it holds, and a queue that is in the registry is declared by no further operation.
-/
theorem registries_iff_trace
    {connection : Connection}
    {url consumerId : String}
    {options : Options}
    (runs : (Client.new connection url consumerId options).Runs performances client)
    (queue : String) :
    (client.hasQueue queue = true ↔
      ∃ channel since,
        client.channel = some channel ∧
          SinceOpening channel since (Performance.trace performances) ∧
          Lasts (Declares channel queue) (Deletes queue) since) ∧
    (client.hasConsumer queue = true ↔
      ∃ channel since,
        client.channel = some channel ∧
          SinceOpening channel since (Performance.trace performances) ∧
          Lasts (Consumes channel queue) (EndsConsumer queue) since) ∧
    (client.channel = none → client.queues = [] ∧ client.streams = []) ∧
    (∀ channel, client.channel = some channel →
      ∃ since, SinceOpening channel since (Performance.trace performances)) ∧
    (client.hasQueue queue = true →
      (∀ definition,
        definition.name = queue →
          client.ensureQueue definition = .done (.ok (), client.resetError)) ∧
      ∀ tracing message history ended,
        (client.publish tracing queue message).Ends history ended →
          ∀ exchange ∈ history, DeclaresNothing exchange.request) := by
  have accounts := runs.accounts (coherent_new _ _ _ _) rfl .reset
  have coherent : client.Coherent := accounts.coherent
  refine ⟨iff_since_opening ?_ ?_, iff_since_opening ?_ ?_, ?_, ?_, ?_⟩
  · intro absent
    simp [hasQueue, coherent.queues_of_no_channel absent, Dictionary.contains]
  · intro channel isHeld
    obtain ⟨since, opened, queues, -⟩ := accounts.held channel isHeld
    exact ⟨since, opened, queues queue⟩
  · intro absent
    simp [hasConsumer, coherent.streams_of_no_channel absent, Dictionary.contains]
  · intro channel isHeld
    obtain ⟨since, opened, -, consumers⟩ := accounts.held channel isHeld
    have same := consumers queue
    have notGivenUp : ¬ (Standing.start client).GaveUp .reset queue :=
      Standing.not_gaveUp rfl queue
    simp only [notGivenUp, or_false] at same
    exact ⟨since, opened, same⟩
  · exact fun absent =>
      ⟨coherent.queues_of_no_channel absent, coherent.streams_of_no_channel absent⟩
  · intro channel isHeld
    obtain ⟨since, opened, -⟩ := accounts.held channel isHeld
    exact ⟨since, opened⟩
  · intro known
    constructor
    · rintro definition rfl
      exact ensureQueue_eq_done_of_hasQueue known
    · intro tracing message history ended ends
      exact (publish_declares_nothing known tracing message).only ends

/-- A wait in vain leaves the queue known, for it was declared on the channel that is held. -/
theorem registries_after_waiting :
    (Client.new ⟨0, 0⟩ "memory" "worker" .default).Runs
        [Performance.opening, Performance.declaring, Performance.waiting] Performance.idleClient ∧
      (∃ channel since,
        Performance.idleClient.channel = some channel ∧
          SinceOpening channel since
            (Performance.trace
              [Performance.opening, Performance.declaring, Performance.waiting]) ∧
          Lasts (Declares channel "jobs") (Deletes "jobs") since) ∧
      ¬ ∃ channel since,
        Performance.idleClient.channel = some channel ∧
          SinceOpening channel since
            (Performance.trace
              [Performance.opening, Performance.declaring, Performance.waiting]) ∧
          Lasts (Consumes channel "jobs") (EndsConsumer "jobs") since := by
  have registries := registries_iff_trace Performance.runs_waiting "jobs"
  refine ⟨Performance.runs_waiting, registries.1.mp rfl, ?_⟩
  exact fun lasts => Bool.false_ne_true (registries.2.1.mpr lasts)

end Client

end BrokerClient
