import BrokerClient.Proofs.Client.Conduct

/-!
# Flow control before consumption

A client registers a consumer only right behind a negotiation of flow control on the same channel.
The channel may be replaced in between any two attempts, so the negotiation is tied to the channel
by the opening that came last: nothing but the negotiation stands between what was done on that
channel before and the registration.
-/

namespace BrokerClient

/-- A call with its answer. -/
abbrev Answered := (call : Call) × call.Answer

namespace Answered

/-- The calls since a channel was opened; none of them has asked for another. -/
def OpenedSince (channel : Channel) (since calls : List Answered) : Prop :=
  ∃ earlier connection,
    calls = earlier ++ ⟨.openChannel connection, .ok channel⟩ :: since ∧
      ∀ call ∈ since, call.1.kind ≠ .openChannel

/-- A negotiation that has succeeded. -/
def negotiation (channel : Channel) (prefetchCount : Nat) : Answered :=
  ⟨.qos channel prefetchCount false, .ok ()⟩

/--
Every registration stands right behind a negotiation on its channel, which is the one that was
opened last.
-/
def FlowControlled (prefetchCount : Nat) (calls : List Answered) : Prop :=
  ∀ earlier channel queue tag flags answer later,
    calls = earlier ++ ⟨.consume channel queue tag flags, answer⟩ :: later →
      ∃ before since,
        earlier = before ++ [negotiation channel prefetchCount] ∧
          OpenedSince channel since before

/-- A stream comes from a registration on a channel that was opened last and negotiated on. -/
def Provides
    (prefetchCount : Nat)
    (channel : Channel)
    (queue : String)
    (stream : Stream)
    (since : List Answered) : Prop :=
  ∃ before tag flags later,
    since =
      before ++ negotiation channel prefetchCount ::
        ⟨.consume channel queue tag flags, .ok stream⟩ :: later

theorem OpenedSince.concat
    {channel : Channel}
    {since calls : List Answered}
    (opened : OpenedSince channel since calls)
    (last : Answered)
    (notOpening : last.1.kind ≠ .openChannel) :
    OpenedSince channel (since ++ [last]) (calls ++ [last]) := by
  obtain ⟨earlier, connection, rfl, none⟩ := opened
  refine ⟨earlier, connection, by simp, ?_⟩
  intro call member
  rcases List.mem_append.mp member with inSince | isLast
  · exact none call inSince
  · exact List.mem_singleton.mp isLast ▸ notOpening

/-- The last call is no opening, so it was made since the opening. -/
theorem OpenedSince.of_concat
    {channel : Channel}
    {since calls : List Answered}
    {last : Answered}
    (opened : OpenedSince channel since (calls ++ [last]))
    (notOpening : last.1.kind ≠ .openChannel) :
    ∃ before, since = before ++ [last] ∧ OpenedSince channel before calls := by
  obtain ⟨earlier, connection, split, none⟩ := opened
  rcases List.eq_nil_or_concat since with rfl | ⟨before, call, rfl⟩
  · obtain ⟨-, same⟩ := List.append_inj' split rfl
    obtain rfl := List.singleton_inj.mp same
    exact absurd rfl notOpening
  · rw [List.concat_eq_append, ← List.cons_append, ← List.append_assoc] at split
    obtain ⟨sameCalls, same⟩ := List.append_inj' split rfl
    obtain rfl := List.singleton_inj.mp same
    refine ⟨before, by simp, earlier, connection, sameCalls, ?_⟩
    exact fun call member => none call (by simp [member])

theorem FlowControlled.concat
    {prefetchCount : Nat}
    {calls : List Answered}
    (controlled : FlowControlled prefetchCount calls)
    (last : Answered)
    (consumes :
      ∀ channel queue tag flags answer,
        last = ⟨.consume channel queue tag flags, answer⟩ →
          ∃ before since,
            calls = before ++ [negotiation channel prefetchCount] ∧
              OpenedSince channel since before) :
    FlowControlled prefetchCount (calls ++ [last]) := by
  intro earlier channel queue tag flags answer later split
  rcases List.eq_nil_or_concat later with rfl | ⟨later, call, rfl⟩
  · obtain ⟨rfl, same⟩ := List.append_inj' split rfl
    exact consumes channel queue tag flags answer (List.singleton_inj.mp same)
  · rw [List.concat_eq_append, ← List.cons_append, ← List.append_assoc] at split
    obtain ⟨sameCalls, -⟩ := List.append_inj' split rfl
    exact controlled earlier channel queue tag flags answer later sameCalls

theorem Provides.concat
    {prefetchCount : Nat}
    {channel : Channel}
    {queue : String}
    {stream : Stream}
    {since : List Answered}
    (provides : Provides prefetchCount channel queue stream since)
    (last : Answered) :
    Provides prefetchCount channel queue stream (since ++ [last]) := by
  obtain ⟨before, tag, flags, later, rfl⟩ := provides
  exact ⟨before, tag, flags, later ++ [last], by simp⟩

end Answered

open Answered

/-- What the calls so far have to do with the channel and the streams that a client holds. -/
structure Controls
    (prefetchCount : Nat)
    (calls : List Answered)
    (standing : Standing) : Prop where
  configured : standing.client.options.prefetchCount = prefetchCount
  coherent : standing.client.Coherent
  latest : ∀ call, standing.latest = some call → ∃ earlier, calls = earlier ++ [call]
  controlled : FlowControlled prefetchCount calls
  held :
    ∀ channel, standing.client.channel = some channel →
      ∃ since, OpenedSince channel since calls ∧
        ∀ queue stream,
          standing.client.streams.get? queue = some stream →
            Provides prefetchCount channel queue stream since

namespace Controls

variable {operation : Operation} {prefetchCount : Nat} {calls : List Answered}
variable {standing left : Standing}

/-- A call that registers nothing keeps in order what is still held of the streams. -/
theorem concat
    (controls : Controls prefetchCount calls standing)
    (coherent : left.client.Coherent)
    (last : Answered)
    (sameOptions : left.client.options = standing.client.options)
    (isLatest : left.latest = some last)
    (notOpening : last.1.kind ≠ .openChannel)
    (notConsuming : last.1.kind ≠ .consume)
    (channels :
      ∀ channel, left.client.channel = some channel → standing.client.channel = some channel)
    (streams :
      ∀ queue stream, left.client.streams.get? queue = some stream →
        standing.client.streams.get? queue = some stream) :
    Controls prefetchCount (calls ++ [last]) left where
  configured := by rw [sameOptions, controls.configured]
  coherent := coherent
  latest := by
    intro call isCall
    rw [isLatest] at isCall
    exact ⟨calls, by rw [Option.some.inj isCall]⟩
  controlled := by
    refine controls.controlled.concat last ?_
    rintro channel queue tag flags answer rfl
    exact absurd rfl notConsuming
  held := by
    intro channel isHeld
    obtain ⟨since, opened, provided⟩ := controls.held channel (channels channel isHeld)
    refine ⟨since ++ [last], opened.concat last notOpening, ?_⟩
    intro queue stream isStream
    exact (provided queue stream (streams queue stream isStream)).concat last

/-- Where a consumer may be registered, the last call was a negotiation on the channel. -/
theorem negotiated
    (controls : Controls prefetchCount calls standing)
    {channel : Channel}
    (negotiated : standing.Negotiated channel) :
    ∃ before since,
      calls = before ++ [negotiation channel prefetchCount] ∧
        OpenedSince channel since before ∧
        ∀ queue stream,
          standing.client.streams.get? queue = some stream →
            Provides prefetchCount channel queue stream
              (since ++ [negotiation channel prefetchCount]) := by
  obtain ⟨isHeld, isLatest⟩ := negotiated
  rw [controls.configured] at isLatest
  obtain ⟨before, shape⟩ := controls.latest _ isLatest
  obtain ⟨all, opened, provided⟩ := controls.held channel isHeld
  rw [shape] at opened
  obtain ⟨since, rfl, openedBefore⟩ := opened.of_concat (by simp [Call.kind])
  exact ⟨before, since, shape, openedBefore, provided⟩

/-- A registration, whatever it is answered. -/
theorem consumed
    (controls : Controls prefetchCount calls standing)
    {channel : Channel}
    {queue tag : String}
    {flags : ConsumeFlags}
    (permitted : standing.Permits operation (.transport (.consume channel queue tag flags)))
    (answer : (Call.consume channel queue tag flags).Answer) :
    Controls prefetchCount (calls ++ [⟨.consume channel queue tag flags, answer⟩])
      (standing.after operation ⟨.transport (.consume channel queue tag flags), answer⟩) := by
  have coherent :=
    controls.coherent.after ⟨.transport (.consume channel queue tag flags), answer⟩ permitted
  have sameChannel :
      (standing.client.afterCall operation (.consume channel queue tag flags) answer).channel =
        standing.client.channel := by
    cases answer <;> rfl
  obtain ⟨-, -, -, -, -, -, negotiated⟩ := permitted
  obtain ⟨before, since, rfl, opened, provided⟩ := controls.negotiated negotiated
  refine ⟨?_, coherent, ?_, ?_, ?_⟩
  · simp only [Standing.after, Client.options_afterCall, controls.configured]
  · intro call isLatest
    exact ⟨_, by rw [← Option.some.inj isLatest]⟩
  · refine controls.controlled.concat _ ?_
    intro channel queue tag flags answer same
    cases same
    exact ⟨before, since, rfl, opened⟩
  · intro other isHeld
    have same : some other = some channel := by
      rw [← isHeld, ← negotiated.1, ← sameChannel]
      rfl
    obtain rfl := Option.some.inj same
    have openedAll :=
      (opened.concat (negotiation other prefetchCount) (by simp [negotiation, Call.kind])).concat
        ⟨.consume other queue tag flags, answer⟩ (by simp [Call.kind])
    refine ⟨_, openedAll, fun name stream isStream => ?_⟩
    cases answer with
    | error error => exact (provided name stream isStream).concat _
    | ok offered =>
        by_cases same : name = queue
        · subst same
          have isOffered : offered = stream := by
            simpa [Standing.after, Client.afterCall] using isStream
          subst isOffered
          exact ⟨since, tag, flags, [], by simp⟩
        · refine (provided name stream ?_).concat _
          simpa [Standing.after, Client.afterCall, Dictionary.get?_insert_other _ _ same]
            using isStream

/-- A channel that is asked for, whether or not it is opened. -/
theorem opened
    (controls : Controls prefetchCount calls standing)
    {connection : Connection}
    (permitted : standing.Permits operation (.transport (.openChannel connection)))
    (answer : (Call.openChannel connection).Answer) :
    Controls prefetchCount (calls ++ [⟨.openChannel connection, answer⟩])
      (standing.after operation ⟨.transport (.openChannel connection), answer⟩) := by
  have coherent := controls.coherent.after ⟨.transport (.openChannel connection), answer⟩ permitted
  obtain ⟨-, -, -, absent, -, noStreams⟩ := permitted
  refine ⟨?_, coherent, ?_, ?_, ?_⟩
  · simp only [Standing.after, Client.options_afterCall, controls.configured]
  · intro call isLatest
    exact ⟨_, by rw [← Option.some.inj isLatest]⟩
  · exact controls.controlled.concat _ fun _ _ _ _ _ same => by cases same
  · intro channel isHeld
    cases answer with
    | error error => simp [Standing.after, Client.afterCall, absent] at isHeld
    | ok opened =>
        obtain rfl := Option.some.inj isHeld
        refine ⟨[], ⟨calls, connection, rfl, by simp⟩, fun queue stream isStream => ?_⟩
        simp [Standing.after, Client.afterCall, noStreams] at isStream

/-- A call that is permitted, with its answer. -/
theorem asked_call
    (controls : Controls prefetchCount calls standing)
    {call : Call}
    (permitted : standing.Permits operation (.transport call))
    (answer : call.Answer) :
    Controls prefetchCount (calls ++ [⟨call, answer⟩])
      (standing.after operation ⟨.transport call, answer⟩) := by
  have coherent := controls.coherent.after ⟨.transport call, answer⟩ permitted
  by_cases consuming : call.kind = .consume
  · cases call with
    | consume channel queue tag flags => exact controls.consumed permitted answer
    | _ => cases consuming
  · by_cases opening : call.kind = .openChannel
    · cases call with
      | openChannel connection => exact controls.opened permitted answer
      | _ => cases opening
    · exact controls.concat coherent _ Client.options_afterCall rfl opening consuming
        (fun _ isHeld => Client.channel_of_afterCall opening isHeld)
        (fun _ _ isStream => Client.stream_of_afterCall consuming isStream)

/-- Whatever is permitted, with its answer. -/
theorem asked
    (controls : Controls prefetchCount calls standing)
    (exchange : Exchange)
    (permitted : standing.Permits operation exchange.request) :
    Controls prefetchCount (calls ++ (History.call? exchange).toList)
      (standing.after operation exchange) := by
  have coherent := controls.coherent.after exchange permitted
  obtain ⟨request, answer⟩ := exchange
  cases request with
  | transport call => exact controls.asked_call permitted answer
  | next stream timeout =>
      obtain ⟨configured, -, latest, controlled, held⟩ := controls
      simp only [History.call?, Option.toList_none, List.append_nil]
      refine ⟨?_, coherent, ?_, controlled, ?_⟩
      · rw [Standing.after, Standing.options_arrived, configured]
      · rw [Standing.after, Standing.latest_arrived]
        exact latest
      · intro channel isHeld
        have wasHeld := (Standing.channel_arrived operation standing answer).symm.trans isHeld
        obtain ⟨since, opened, provided⟩ := held channel wasHeld
        exact ⟨since, opened, fun queue stream isStream =>
          provided queue stream (Standing.stream_of_arrived operation standing answer isStream)⟩
  | isClosed | sleep | release | describe | freshId =>
      obtain ⟨configured, -, latest, controlled, held⟩ := controls
      simp only [History.call?, Option.toList_none, List.append_nil]
      exact ⟨configured, coherent, latest, controlled, held⟩

/-- The operation that follows goes on from the calls of the one before. -/
theorem completed
    (controls : Controls prefetchCount calls standing)
    {ended : Outcome operation.Value}
    (concludes : operation.Concludes ended standing) :
    Controls prefetchCount calls (.start ended.2) := by
  obtain ⟨⟨error, isClient⟩, -, coherent, -⟩ := concludes
  rw [isClient]
  exact ⟨controls.configured, ⟨coherent.1, coherent.2, coherent.3⟩, by simp [Standing.start],
    controls.controlled, controls.held⟩

end Controls

/-! ## Runs -/

namespace Client

variable {connection : Connection} {url consumerId : String} {options : Options}
variable {client : Client} {performances : List Performance}

theorem Runs.controls
    (runs : (Client.new connection url consumerId options).Runs performances client) :
    Controls options.prefetchCount (Occurrence.calls (Performance.trace performances))
      (.start client) := by
  let holds (_ : Operation) (trace : List Occurrence) : Standing → Prop :=
    Controls options.prefetchCount (Occurrence.calls trace)
  refine runs.holds holds ?_ ?_ ?_ ?_ .reset
  · exact fun _ _ _ controls => controls.coherent
  · refine fun _ => ⟨rfl, coherent_new _ _ _ _, by simp [Standing.start], ?_, ?_⟩
    · intro earlier channel queue tag flags answer later split
      simp [Occurrence.calls] at split
    · intro channel isHeld
      cases isHeld
  · intro operation trace standing exchange controls permitted
    have asked := controls.asked exchange permitted
    simpa [holds] using asked
  · intro operation trace standing ended next controls concludes
    have callsNothing : Occurrence.calls [.completed operation ended.1] = [] := rfl
    simpa [holds, callsNothing] using controls.completed concludes

/--
Every registration that a client calls for stands right behind a negotiation of its prefetch count
on the same channel, and every stream that it holds comes from such a registration on the channel
that it holds.
-/
theorem consume_after_qos
    (runs : (Client.new connection url consumerId options).Runs performances client) :
    FlowControlled options.prefetchCount (Occurrence.calls (Performance.trace performances)) ∧
      ∀ queue stream,
        client.streams.get? queue = some stream →
          ∃ channel since,
            client.channel = some channel ∧
              OpenedSince channel since (Occurrence.calls (Performance.trace performances)) ∧
              Provides options.prefetchCount channel queue stream since := by
  have controls := runs.controls
  refine ⟨controls.controlled, fun queue stream isStream => ?_⟩
  cases isHeld : client.channel with
  | none =>
      have noStreams : client.streams = [] := controls.coherent.streams_of_no_channel isHeld
      simp [noStreams] at isStream
  | some channel =>
      obtain ⟨since, opened, provided⟩ := controls.held channel isHeld
      exact ⟨channel, since, rfl, opened, provided queue stream isStream⟩

/-- The consumer that waits in vain was registered behind a negotiation for one delivery. -/
theorem qos_before_waiting :
    (Client.new ⟨0, 0⟩ "memory" "worker" .default).Runs
        [Performance.opening, Performance.declaring, Performance.waiting] Performance.idleClient ∧
      ∃ before since,
        (Occurrence.calls
            (Performance.trace
              [Performance.opening, Performance.declaring, Performance.waiting])).take 3 =
          before ++ [negotiation ⟨0, 0⟩ 1] ∧
        OpenedSince ⟨0, 0⟩ since before := by
  have controlled := (consume_after_qos Performance.runs_waiting).1
  exact ⟨Performance.runs_waiting, controlled _ _ _ _ _ _ _ rfl⟩

end Client

end BrokerClient
