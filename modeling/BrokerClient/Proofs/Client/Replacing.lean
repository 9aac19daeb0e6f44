import BrokerClient.Endpoint
import BrokerClient.Proofs.Client.Conduct

/-!
# How a channel is replaced

A client that is to get a new channel asks whether its connection is still usable and dials again
if it is not.  If that fails the client stays as it is.  Otherwise the channel that it holds is
asked to close and the streams are given up, and only then is another channel opened; whether that
succeeds or not, nothing of the old channel is left.

Along a run each channel but the one that is held was therefore asked to close once, to make room
for the one that was opened behind it.
-/

namespace BrokerClient

namespace Client

/-- The client with a channel on which nothing is known yet. -/
def withChannel (client : Client) (channel : Channel) : Client :=
  { client.withoutChannel with channel := some channel }

/-! ## The three ways in which it ends -/

/-- How a client comes to a connection on which it can open a channel. -/
inductive Reconnects (client : Client) : History → Client → Prop where
  | usable :
      Reconnects client [⟨.isClosed client.connection, false⟩] client
  | dialed (connection : Connection) :
      Reconnects client
        [⟨.isClosed client.connection, true⟩, ⟨.transport (.dial client.url), .ok connection⟩]
        { client with connection := connection }

/-- How a client gives its channel up: whatever the call to close is answered, its streams go. -/
inductive GivesUp (client : Client) : History → Prop where
  | holding
      {channel : Channel}
      (held : client.channel = some channel)
      (answer : Except TransportError Unit) :
      GivesUp client
        (⟨.transport (.closeChannel channel), answer⟩ ::
          (client.streams.map Prod.snd).map fun stream => ⟨.release stream, ()⟩)
  | without (absent : client.channel = none) :
      GivesUp client ((client.streams.map Prod.snd).map fun stream => ⟨.release stream, ()⟩)

/-- How a client seeks a new channel, and how that ends. -/
inductive Reopening (client : Client) : History → Outcome Unit → Prop where
  /-- The broker cannot be reached, and the client is what it was. -/
  | undialed (error : TransportError) :
      Reopening client
        [⟨.isClosed client.connection, true⟩, ⟨.transport (.dial client.url), .error error⟩]
        (.error (.connection client.url error.message), client)
  /-- No channel is opened, and the old one is given up all the same. -/
  | refused
      {connecting closing : History}
      {reached : Client}
      (reconnects : client.Reconnects connecting reached)
      (givesUp : reached.GivesUp closing)
      (error : TransportError) :
      Reopening client
        (connecting ++ (closing ++ [⟨.transport (.openChannel reached.connection), .error error⟩]))
        (.error (.channel error.message), reached.withoutChannel)
  /-- A channel is opened and held. -/
  | granted
      {connecting closing : History}
      {reached : Client}
      (reconnects : client.Reconnects connecting reached)
      (givesUp : reached.GivesUp closing)
      (channel : Channel) :
      Reopening client
        (connecting ++ (closing ++ [⟨.transport (.openChannel reached.connection), .ok channel⟩]))
        (.ok (), reached.withChannel channel)

variable {client : Client} {history : History}

/-- Streams are given up one after the other. -/
theorem releaseAll_ends_iff {streams : List Stream} :
    (releaseAll streams).Ends history () ↔
      history = streams.map fun stream => ⟨.release stream, ()⟩ := by
  induction streams generalizing history with
  | nil =>
      constructor
      · intro ends
        exact (Program.ends_done_iff.mp ends).1
      · rintro rfl
        exact .done ()
  | cons stream rest inductionHypothesis =>
      constructor
      · intro ends
        obtain ⟨released, later, rfl, goesOn⟩ := Program.ends_ask_iff.mp ends
        rw [Program.done_bind] at goesOn
        rw [inductionHypothesis.mp goesOn]
        rfl
      · rintro rfl
        exact .ask _ (inductionHypothesis.mpr rfl)

/-- To close the channel and to release the streams is to give the channel up. -/
theorem givesUp_iff :
    client.GivesUp history ↔
      ∃ closing releasing,
        history = closing ++ releasing ∧ client.closeChannel.Ends closing () ∧
          (releaseAll (client.streams.map Prod.snd)).Ends releasing () := by
  unfold closeChannel
  constructor
  · intro givesUp
    cases givesUp with
    | holding held answer =>
        rw [held]
        exact ⟨[_], _, rfl, .ask _ (.done ()), releaseAll_ends_iff.mpr rfl⟩
    | without absent =>
        rw [absent]
        exact ⟨[], _, rfl, .done (), releaseAll_ends_iff.mpr rfl⟩
  · rintro ⟨closing, releasing, rfl, closes, releases⟩
    obtain rfl := releaseAll_ends_iff.mp releases
    cases held : client.channel with
    | some channel =>
        rw [held] at closes
        obtain ⟨answer, rest, rfl, concludes⟩ := Program.ends_ask_iff.mp closes
        obtain ⟨rfl, -⟩ := Program.ends_done_iff.mp concludes
        exact .holding held answer
    | none =>
        rw [held] at closes
        obtain ⟨rfl, -⟩ := Program.ends_done_iff.mp closes
        exact .without held

/-- What a client is left with when another channel was asked for. -/
def opened (client : Client) : Except TransportError Channel → Outcome Unit
  | .ok channel => (.ok (), client.withChannel channel)
  | .error error => (.error (.channel error.message), client.withoutChannel)

/-- A channel is replaced by giving it up and asking for another one. -/
theorem replaceChannel_ends_iff {ended : Outcome Unit} :
    client.replaceChannel.Ends history ended ↔
      ∃ closing answer,
        history = closing ++ [⟨.transport (.openChannel client.connection), answer⟩] ∧
          client.GivesUp closing ∧ ended = client.opened answer := by
  constructor
  · intro ends
    obtain ⟨closing, afterClosing, closed, rfl, closes, goesOn⟩ := Program.ends_bind_iff.mp ends
    obtain ⟨releasing, opening, released, rfl, releases, opens⟩ := Program.ends_bind_iff.mp goesOn
    obtain ⟨answer, rest, rfl, concludes⟩ := Program.ends_ask_iff.mp opens
    refine ⟨closing ++ releasing, answer, ?_, givesUp_iff.mpr ⟨_, _, rfl, closes, releases⟩, ?_⟩
    · cases answer with
      | ok channel =>
          obtain ⟨rfl, -⟩ := Program.ends_done_iff.mp concludes
          exact (List.append_assoc ..).symm
      | error error =>
          obtain ⟨rfl, -⟩ := Program.ends_done_iff.mp concludes
          exact (List.append_assoc ..).symm
    · cases answer with
      | ok channel => exact (Program.ends_done_iff.mp concludes).2
      | error error => exact (Program.ends_done_iff.mp concludes).2
  · rintro ⟨closing, answer, rfl, givesUp, rfl⟩
    obtain ⟨first, second, rfl, closes, releases⟩ := givesUp_iff.mp givesUp
    apply Program.ends_bind_iff.mpr
    refine ⟨first, _, (), List.append_assoc .., closes, ?_⟩
    apply Program.ends_bind_iff.mpr
    refine ⟨second, _, (), rfl, releases, ?_⟩
    cases answer <;> exact .ask _ (.done _)

/-- Every way of seeking a new channel is one of the three, and each of them is a way. -/
theorem reopen_ends_iff {ended : Outcome Unit} :
    client.reopen.Ends history ended ↔ client.Reopening history ended := by
  constructor
  · intro ends
    have reopened
        {connecting replacing : History}
        {reached : Client}
        (reconnects : client.Reconnects connecting reached)
        (replaces : reached.replaceChannel.Ends replacing ended) :
        client.Reopening (connecting ++ replacing) ended := by
      obtain ⟨closing, answer, rfl, givesUp, rfl⟩ := replaceChannel_ends_iff.mp replaces
      cases answer with
      | ok channel => exact .granted reconnects givesUp channel
      | error error => exact .refused reconnects givesUp error
    obtain ⟨closed, rest, rfl, goesOn⟩ := Program.ends_ask_iff.mp ends
    cases closed with
    | false => exact reopened .usable goesOn
    | true =>
        obtain ⟨dialed, afterDial, rfl, concludes⟩ := Program.ends_ask_iff.mp goesOn
        cases dialed with
        | ok connection => exact reopened (.dialed connection) concludes
        | error error =>
            obtain ⟨rfl, rfl⟩ := Program.ends_done_iff.mp concludes
            exact .undialed error
  · have reopens
        {connecting replacing : History}
        {reached : Client}
        (reconnects : client.Reconnects connecting reached)
        (replaces : reached.replaceChannel.Ends replacing ended) :
        client.reopen.Ends (connecting ++ replacing) ended := by
      cases reconnects with
      | usable => exact .ask _ replaces
      | dialed connection => exact .ask _ (.ask _ replaces)
    intro reopening
    cases reopening with
    | undialed error => exact .ask _ (.ask _ (.done _))
    | refused reconnects givesUp error =>
        exact reopens reconnects (replaceChannel_ends_iff.mpr ⟨_, .error error, rfl, givesUp, rfl⟩)
    | granted reconnects givesUp channel =>
        exact reopens reconnects (replaceChannel_ends_iff.mpr ⟨_, .ok channel, rfl, givesUp, rfl⟩)

/-- What an operation records is its outcome and nothing else. -/
theorem record_ends_iff
    {α : Type}
    {operation : Program (Outcome α)}
    {ended : Outcome α} :
    (record operation).Ends history ended ↔
      ∃ found, operation.Ends history found ∧ ended = recorded found := by
  constructor
  · intro ends
    obtain ⟨first, second, found, rfl, operates, concludes⟩ := Program.ends_bind_iff.mp ends
    obtain ⟨rfl, rfl⟩ := Program.ends_done_iff.mp concludes
    exact ⟨found, by simpa using operates, rfl⟩
  · rintro ⟨found, operates, rfl⟩
    apply Program.ends_bind_iff.mpr
    exact ⟨history, [], found, (List.append_nil _).symm, operates, .done _⟩

/-- What gives a channel up is no dialing. -/
theorem GivesUp.not_dialing
    {url : String}
    {answer : Except TransportError Connection}
    (givesUp : client.GivesUp history) :
    ⟨.transport (.dial url), answer⟩ ∉ history := by
  cases givesUp <;> simp

/-- The look at the connection comes before the channel is given up, and only there. -/
theorem GivesUp.not_looking
    {connection : Connection}
    {closed : Bool}
    (givesUp : client.GivesUp history) :
    ⟨.isClosed connection, closed⟩ ∉ history := by
  cases givesUp <;> simp

/-- A client dials if its connection turns out to be unusable, and only then. -/
theorem Reopening.dials_iff
    {ended : Outcome Unit}
    (reopening : client.Reopening history ended) :
    (∃ url answer, ⟨.transport (.dial url), answer⟩ ∈ history) ↔
      ⟨.isClosed client.connection, true⟩ ∈ history := by
  have reached
      {connecting closing : History}
      {reached : Client}
      {answer : Except TransportError Channel}
      (reconnects : client.Reconnects connecting reached)
      (givesUp : reached.GivesUp closing) :
      (∃ url found, ⟨.transport (.dial url), found⟩ ∈
          connecting ++ (closing ++ [⟨.transport (.openChannel reached.connection), answer⟩])) ↔
        ⟨.isClosed client.connection, true⟩ ∈
          connecting ++ (closing ++ [⟨.transport (.openChannel reached.connection), answer⟩]) := by
    cases reconnects <;> simp [givesUp.not_dialing, givesUp.not_looking]
  cases reopening with
  | undialed error => simp
  | refused reconnects givesUp error => exact reached reconnects givesUp
  | granted reconnects givesUp channel => exact reached reconnects givesUp

end Client

/-! ## What becomes of the channels of a run -/

namespace Occurrence

/-- The channel that is opened. -/
def opened? : Occurrence → Option Channel
  | .asked _ ⟨.transport (.openChannel _), .ok channel⟩ => some channel
  | _ => none

/-- The channel that is asked to close in order to make room for another. -/
def replaced? : Occurrence → Option Channel
  | .asked operation ⟨.transport (.closeChannel channel), _⟩ =>
      if operation.isClose then none else some channel
  | _ => none

/-- The channels that were opened, in order. -/
def opened (trace : List Occurrence) : List Channel :=
  trace.filterMap opened?

/-- The channels that were asked to make room for others, in order. -/
def replaced (trace : List Occurrence) : List Channel :=
  trace.filterMap replaced?

@[simp] theorem opened_concat (trace : List Occurrence) (occurrence : Occurrence) :
    opened (trace ++ [occurrence]) = opened trace ++ occurrence.opened?.toList := by
  cases isOpened : occurrence.opened? <;> simp [opened, isOpened]

@[simp] theorem replaced_concat (trace : List Occurrence) (occurrence : Occurrence) :
    replaced (trace ++ [occurrence]) = replaced trace ++ occurrence.replaced?.toList := by
  cases isReplaced : occurrence.replaced? <;> simp [replaced, isReplaced]

end Occurrence

open Occurrence in
/-- All channels that were opened made room for others, in order, up to the one that is held. -/
structure Standing.Succeeds (trace : List Occurrence) (standing : Standing) : Prop where
  coherent : standing.client.Coherent
  opened : opened trace = replaced trace ++ standing.client.channel.toList

namespace Standing.Succeeds

open Occurrence

variable {operation : Operation} {trace : List Occurrence} {standing : Standing}

/-- An exchange that neither opens nor closes leaves the channel that is held. -/
theorem of_same_channel
    {occurrence : Occurrence}
    {after : Standing}
    (succeeds : standing.Succeeds trace)
    (coherent : after.client.Coherent)
    (noOpening : occurrence.opened? = none)
    (noReplacement : occurrence.replaced? = none)
    (same : after.client.channel = standing.client.channel) :
    after.Succeeds (trace ++ [occurrence]) := by
  refine ⟨coherent, ?_⟩
  rw [opened_concat, replaced_concat, noOpening, noReplacement, same]
  simpa using succeeds.opened

/-- A permitted exchange opens a channel where none is held and closes the one that is. -/
theorem asked
    (succeeds : standing.Succeeds trace)
    (exchange : Exchange)
    (permitted : standing.Permits operation exchange.request) :
    (standing.after operation exchange).Succeeds (trace ++ [.asked operation exchange]) := by
  have coherent := succeeds.coherent.after exchange permitted
  obtain ⟨request, answer⟩ := exchange
  cases request with
  | transport call =>
      cases call with
      | openChannel connection =>
          obtain ⟨-, -, -, absent, -⟩ := permitted
          cases answer with
          | error error => exact succeeds.of_same_channel coherent rfl rfl rfl
          | ok channel =>
              refine ⟨coherent, ?_⟩
              rw [opened_concat, replaced_concat, succeeds.opened, absent]
              simp [opened?, replaced?, after, Client.afterCall]
      | closeChannel channel =>
          have held := permitted.2.1 channel rfl
          cases isClose : operation.isClose with
          | true =>
              apply succeeds.of_same_channel coherent rfl
              · simp [replaced?, isClose]
              · simp [after, Client.afterCall, isClose]
          | false =>
              refine ⟨coherent, ?_⟩
              rw [opened_concat, replaced_concat, succeeds.opened, held]
              simp [opened?, replaced?, after, Client.afterCall, isClose, Client.withoutChannel]
      | declare channel queue flags arguments =>
          apply succeeds.of_same_channel coherent rfl rfl
          cases answer with
          | error error => rfl
          | ok info =>
              simp only [after, Client.afterCall]
              split <;> rfl
      | _ =>
          apply succeeds.of_same_channel coherent rfl rfl
          cases answer <;> rfl
  | next stream timeout =>
      exact succeeds.of_same_channel coherent rfl rfl (channel_arrived operation standing answer)
  | _ => exact succeeds.of_same_channel coherent rfl rfl rfl

/-- What an operation ends with is the channel that it was followed to. -/
theorem completed
    {ended : Outcome operation.Value}
    (succeeds : standing.Succeeds trace)
    (concludes : operation.Concludes ended standing) :
    (Standing.start ended.2).Succeeds (trace ++ [.completed operation ended.1]) := by
  obtain ⟨error, isClient⟩ := concludes.client
  apply succeeds.of_same_channel ?_ rfl rfl
  · simp [start, isClient]
  · rw [start, isClient]
    exact ⟨concludes.coherent.1, concludes.coherent.2, concludes.coherent.3⟩

end Standing.Succeeds

namespace Client

section

variable {connection : Connection} {url consumerId : String} {options : Options}
variable {performances : List Performance} {client : Client}

/-- In every run the channels that were opened made room for each other, up to the last. -/
theorem Runs.succeeds
    (runs : (Client.new connection url consumerId options).Runs performances client) :
    (Standing.start client).Succeeds (Performance.trace performances) :=
  runs.holds (fun _ trace standing => standing.Succeeds trace)
    (fun _ _ _ succeeds => succeeds.coherent)
    (fun _ => ⟨coherent_new connection url consumerId options, rfl⟩)
    (fun _ _ _ exchange succeeds permitted => succeeds.asked exchange permitted)
    (fun _ _ _ _ _ succeeds concludes => succeeds.completed concludes)
    .reset

theorem Runs.coherent
    (runs : (Client.new connection url consumerId options).Runs performances client) :
    client.Coherent :=
  runs.succeeds.coherent

end

/-- A reset is a run. -/
theorem runs_reset
    {client : Client}
    {history : History}
    {reopened : Outcome Unit}
    (resets : client.reset.Ends history (recorded reopened)) :
    client.Runs [⟨.reset, history, reopened.1⟩] (recorded reopened).2 := by
  let performance : Performance := ⟨.reset, history, reopened.1⟩
  have ends :
      (performance.operation.program client).Ends performance.history
        (performance.outcome, (recorded reopened).2) :=
    resets
  exact .perform .begin performance ends

/-- A fresh client holds a channel behind its first reset if no failure is recorded then. -/
theorem Reopening.fresh
    {connection : Connection}
    {url consumerId : String}
    {options : Options}
    {history : History}
    {ended : Outcome Unit}
    (reopening : (Client.new connection url consumerId options).Reopening history ended) :
    ended.2.queues = [] ∧ ended.2.streams = [] ∧
      ((recorded ended).2.channel.isSome = true ↔ (recorded ended).2.lastError = none) := by
  cases reopening with
  | undialed error => exact ⟨rfl, rfl, nofun, nofun⟩
  | refused reconnects givesUp error => exact ⟨rfl, rfl, nofun, nofun⟩
  | granted reconnects givesUp channel => exact ⟨rfl, rfl, fun _ => rfl, fun _ => rfl⟩

end Client

/-- Connecting is dialing, and resetting the client on the connection that was dialed. -/
theorem Endpoint.connect_ends
    {endpoint : Endpoint}
    {consumerId : String}
    {history : History}
    {found : Option Client}
    (ends : (endpoint.connect consumerId).Ends history found) :
    (∃ error, history = [⟨.transport (.dial endpoint.url), .error error⟩] ∧ found = none) ∨
      ∃ connection rest ended,
        history = ⟨.transport (.dial endpoint.url), .ok connection⟩ :: rest ∧
          (Client.new connection endpoint.url consumerId endpoint.options).reset.Ends rest ended ∧
            found = some ended.2 := by
  obtain ⟨dialing, rest, dialed, rfl, dials, goesOn⟩ := Program.ends_bind_iff.mp ends
  obtain ⟨answer, nothing, rfl, concludes⟩ := Program.ends_ask_iff.mp dials
  cases answer with
  | error error =>
      obtain ⟨rfl, rfl⟩ := Program.ends_done_iff.mp concludes
      obtain ⟨rfl, rfl⟩ := Program.ends_done_iff.mp goesOn
      exact .inl ⟨error, rfl, rfl⟩
  | ok connection =>
      obtain ⟨rfl, rfl⟩ := Program.ends_done_iff.mp concludes
      obtain ⟨resetting, nothing, ended, rfl, resets, finishes⟩ := Program.ends_bind_iff.mp goesOn
      obtain ⟨rfl, rfl⟩ := Program.ends_done_iff.mp finishes
      exact .inr ⟨connection, resetting, ended, by simp, resets, rfl⟩

/-! ## No channel is leaked -/

namespace Client

/--
Seeking a new channel ends in one of three ways, each of which occurs, and a reset records which;
the client dials if its connection is unusable and only then.  Along every run each channel but the
one that is held was asked to make room, once and in order.  Connecting gives no client if and only
if its first dialing fails; the client that it gives is one reset away from a fresh one, knows of
nothing on its channel, and holds a channel if and only if no failure is recorded.
-/
theorem reset_leaks_no_channel :
    (∀ (client : Client) (history : History) (ended : Outcome Unit),
      client.reopen.Ends history ended ↔ client.Reopening history ended) ∧
    (∀ (client : Client) (history : History) (ended : Outcome Unit),
      client.reset.Ends history ended ↔
        ∃ found, client.Reopening history found ∧ ended = recorded found) ∧
    (∀ (client : Client) (history : History) (ended : Outcome Unit),
      client.Reopening history ended →
        ((∃ url answer, ⟨.transport (.dial url), answer⟩ ∈ history) ↔
          ⟨.isClosed client.connection, true⟩ ∈ history)) ∧
    (∀ (connection : Connection) (url consumerId : String) (options : Options)
        (performances : List Performance) (client : Client),
      (Client.new connection url consumerId options).Runs performances client →
        Occurrence.opened (Performance.trace performances) =
          Occurrence.replaced (Performance.trace performances) ++ client.channel.toList) ∧
    ∀ (endpoint : Endpoint) (consumerId : String) (history : History) (found : Option Client),
      (endpoint.connect consumerId).Ends history found →
        (found = none ↔
          ∃ error, history.head? = some ⟨.transport (.dial endpoint.url), .error error⟩) ∧
        ∀ client, found = some client →
          client.queues = [] ∧ client.streams = [] ∧
            (client.channel.isSome = true ↔ client.lastError = none) ∧
              ∃ connection rest outcome,
                history = ⟨.transport (.dial endpoint.url), .ok connection⟩ :: rest ∧
                  (Client.new connection endpoint.url consumerId endpoint.options).Runs
                    [⟨.reset, rest, outcome⟩] client := by
  refine ⟨fun _ _ _ => reopen_ends_iff, ?_, fun _ _ _ reopening => reopening.dials_iff,
    fun _ _ _ _ _ _ runs => runs.succeeds.opened, ?_⟩
  · intro client history ended
    unfold reset
    simp only [record_ends_iff, reopen_ends_iff]
  · intro endpoint consumerId history found ends
    rcases Endpoint.connect_ends ends with
      ⟨error, rfl, rfl⟩ | ⟨connection, rest, ended, rfl, resets, rfl⟩
    · refine ⟨⟨fun _ => ⟨error, rfl⟩, fun _ => rfl⟩, ?_⟩
      intro client absent
      cases absent
    · obtain ⟨reopened, reopens, rfl⟩ := record_ends_iff.mp resets
      obtain ⟨noQueues, noStreams, holds⟩ := (reopen_ends_iff.mp reopens).fresh
      refine ⟨⟨?_, ?_⟩, ?_⟩
      · intro absent
        cases absent
      · rintro ⟨error, same⟩
        cases same
      · intro client same
        cases same
        refine ⟨noQueues, noStreams, holds, connection, rest, reopened.1, rfl, ?_⟩
        exact runs_reset resets

end Client

/-- A channel that cannot be closed any more makes room for another. -/
def Performance.replacing : Performance where
  operation := .reset
  history :=
    [⟨.isClosed ⟨0, 0⟩, false⟩,
      ⟨.transport (.closeChannel ⟨0, 0⟩), .error (.closed "channel is closed")⟩,
      ⟨.transport (.openChannel ⟨0, 0⟩), .ok ⟨1, 0⟩⟩]
  outcome := .ok ()

open Performance in
/-- A client connects, and replaces a channel that cannot be closed: none is left behind. -/
theorem Client.unclosed_channel_makes_room :
    (¬ ∃ url answer, ⟨.transport (.dial url), answer⟩ ∈ replacing.history) ∧
      Occurrence.opened (trace [opening, replacing]) =
          Occurrence.replaced (trace [opening, replacing]) ++ [⟨1, 0⟩] ∧
        ∃ client : Client, client.channel = some ⟨0, 0⟩ ∧ client.lastError = none := by
  obtain ⟨-, -, dials, runs, connects⟩ := reset_leaks_no_channel
  let fresh : Client := .new ⟨0, 0⟩ "memory" "worker" .default
  let opened : Client := fresh.withChannel ⟨0, 0⟩
  let renewed : Client := fresh.withChannel ⟨1, 0⟩
  have opens : fresh.reset.Ends opening.history (.ok (), opened) := .ask _ (.ask _ (.done _))
  have replaces : opened.reset.Ends replacing.history (.ok (), renewed) :=
    .ask _ (.ask _ (.ask _ (.done _)))
  have reopening : opened.Reopening replacing.history (.ok (), renewed) :=
    .granted .usable (.holding rfl (.error (.closed "channel is closed"))) ⟨1, 0⟩
  have connected :
      ((Endpoint.new "memory").connect "worker").Ends
        (⟨.transport (.dial "memory"), .ok ⟨0, 0⟩⟩ :: opening.history) (some opened) :=
    .ask _ (.ask _ (.ask _ (.done _)))
  refine ⟨?_, runs _ _ _ _ _ _ (.perform (.perform .begin opening opens) replacing replaces), ?_⟩
  · rw [dials _ _ _ reopening]
    simp [replacing]
  · obtain ⟨-, -, holds, -⟩ := (connects _ _ _ _ connected).2 opened rfl
    exact ⟨opened, rfl, holds.mp rfl⟩

end BrokerClient
