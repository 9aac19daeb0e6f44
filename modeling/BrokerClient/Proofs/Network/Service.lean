import BrokerClient.Proofs.Network.Prompt
import BrokerClient.Proofs.Network.Recovery
import BrokerClient.Proofs.Network.Refusals
import BrokerClient.Proofs.Network.RoundTrip
import Mathlib.Algebra.Ring.Nat

/-!
# Service after a reset

Whatever has become of a client, resetting it gets it a channel, if its connection still holds or
another one can be had.  The channel is its own: the broker numbers channels anew, so nobody else
can close it, and as long as connections hold and the client itself neither closes it nor registers
on it, it stays usable.  On a usable channel nothing fails that does not ask for a missing queue.
-/

namespace BrokerClient

namespace Broker

variable {broker between after : Broker}

theorem KeepsChannels.trans
    (first : broker.KeepsChannels between)
    (second : between.KeepsChannels after) :
    broker.KeepsChannels after where
  generation := second.generation.trans first.generation
  closed := second.closed.trans first.closed
  opened := second.opened.trans first.opened

theorem keepsChannels_declare (queue : String) (flags : DeclareFlags) :
    broker.KeepsChannels (broker.declare queue flags).2 := by
  unfold declare
  dsimp only
  split
  · exact ⟨rfl, rfl, rfl⟩
  · exact ⟨rfl, rfl, rfl⟩

/-- A declaration that is passive succeeds exactly if the queue exists. -/
theorem declare_of_passive (queue : String) {flags : DeclareFlags} (looks : flags.passive = true) :
    (broker.declare queue flags).1 =
      if broker.queueExists queue then .ok (broker.queueInfo queue)
      else .error (noQueue queue) := by
  have sameQueues :
      ({ broker with declares := broker.declares + 1 } : Broker).queueExists queue =
        broker.queueExists queue :=
    rfl
  unfold declare
  cases found : broker.queueExists queue with
  | true =>
      simp [looks, sameQueues, found]
      rfl
  | false => simp [looks, sameQueues, found]

/-- An inspection succeeds exactly if the queue exists, and counts the messages in its backlog. -/
structure Shows
    (broker : Broker)
    (queue : String)
    (outcome : Except ClientError QueueInfo) : Prop where
  isOk_iff : (∃ info, outcome = .ok info) ↔ broker.queueExists queue = true
  counts :
    ∀ info, outcome = .ok info →
      info.messageCount.toNat = (broker.backlog queue).length % 2 ^ 32

theorem shows_of_exists {queue : String} (found : broker.queueExists queue = true) :
    broker.Shows queue (.ok (broker.queueInfo queue)) := by
  refine ⟨by simp [found], ?_⟩
  rintro _ ⟨⟩
  exact UInt32.toNat_ofNat'

theorem shows_of_missing
    {queue : String}
    (missing : broker.queueExists queue = false)
    (error : ClientError) :
    broker.Shows queue (.error error) :=
  ⟨by simp [missing], fun _ isOk => by cases isOk⟩

/-- A deletion succeeds and counts the messages in the backlog, which are none without a queue. -/
structure Purges
    (broker : Broker)
    (queue : String)
    (outcome : Except ClientError UInt32) : Prop where
  isOk : ∃ purged, outcome = .ok purged
  counts :
    ∀ purged, outcome = .ok purged →
      purged.toNat = (broker.backlog queue).length % 2 ^ 32 ∧
        (broker.queueExists queue = false → purged = 0)

/-- A queue that does not exist has no backlog. -/
theorem backlog_of_not_queueExists
    {queue : String}
    (missing : broker.queueExists queue = false) :
    broker.backlog queue = [] := by
  have absent : broker.queues.get? queue = none := by
    simpa [queueExists, Dictionary.contains] using missing
  simp [backlog, absent]

theorem purges_delete (broker : Broker) (queue : String) :
    broker.Purges queue (.ok (broker.delete queue).1) := by
  refine ⟨⟨_, rfl⟩, ?_⟩
  rintro _ ⟨⟩
  refine ⟨UInt32.toNat_ofNat', fun missing => ?_⟩
  simp [delete, backlog_of_not_queueExists missing]

end Broker

namespace Client

variable {α : Type} {client between : Client} {broker middle : Broker} {channel : Channel}
variable {drawnIds : Nat}

/-! ## Operations on a usable channel -/

/--
Something ends as it should.  The client goes on with the channel and the connection that it has,
and all channels are as usable as before.
-/
structure CarriesOn
    (client : Client)
    (broker : Broker)
    (fits : Except ClientError α → Prop)
    (ended : Outcome α)
    (after : Broker) : Prop where
  isFit : fits ended.1
  channel : ended.2.channel = client.channel
  connection : ended.2.connection = client.connection
  keeps : broker.KeepsChannels after

/-- Where somebody has carried on before, it does not matter. -/
theorem CarriesOn.behind
    {β : Type}
    {before : Except ClientError β → Prop}
    {fits : Except ClientError α → Prop}
    {begun : Outcome β}
    {ended : Outcome α}
    {after : Broker}
    (first : client.CarriesOn broker before begun middle)
    (second : begun.2.CarriesOn middle fits ended after) :
    client.CarriesOn broker fits ended after where
  isFit := second.isFit
  channel := second.channel.trans first.channel
  connection := second.connection.trans first.connection
  keeps := first.keeps.trans second.keeps

/-- Recording an outcome changes neither the channel nor the connection. -/
theorem record_attains
    {fits : Except ClientError α → Prop}
    {program : Program (Outcome α)}
    (attains : program.Attains (client.CarriesOn broker fits) broker drawnIds) :
    (record program).Attains (client.CarriesOn broker fits) broker drawnIds :=
  attains.bind fun _ _ _ carriesOn =>
    ⟨carriesOn.isFit, carriesOn.channel, carriesOn.connection, carriesOn.keeps⟩

section

variable (isHeld : client.channel = some channel) (usable : broker.isOpen channel = true)
include isHeld usable

/-- On a usable channel only a declaration that is passive fails. -/
theorem declare_attains (definition : QueueDefinition) :
    (client.declare definition).Attains
      (client.CarriesOn broker fun outcome => definition.passive = false → outcome = .ok ()) broker
      drawnIds := by
  unfold declare
  split
  · exact ⟨fun _ => rfl, rfl, rfl, ⟨rfl, rfl, rfl⟩⟩
  · simp only [isHeld]
    have keeps := @Broker.keepsChannels_declare broker definition.name definition.flags
    cases declared : broker.declare definition.name definition.flags with
    | mk answer after =>
        rw [declared] at keeps
        have performed :
            broker.perform
                (.declare channel definition.name definition.flags definition.arguments) =
              (answer, after) :=
          (Broker.onChannel_of_isOpen usable _).trans declared
        refine Program.attains_call performed fun drawnIds => ?_
        cases answer with
        | ok info => exact ⟨fun _ => rfl, isHeld.symm, rfl, keeps⟩
        | error error =>
            refine ⟨fun creates => ?_, rfl, rfl, keeps⟩
            rw [Broker.declare_of_not_passive definition.name creates] at declared
            cases declared

/-- On a usable channel the broker says what it knows of a queue. -/
theorem inspect_attains (queue : String) :
    (client.inspect queue).Attains (client.CarriesOn broker (broker.Shows queue)) broker
      drawnIds := by
  simp only [inspect, isHeld]
  let definition := (QueueDefinition.new queue).apply .passive
  have keeps := @Broker.keepsChannels_declare broker queue definition.flags
  have answered := @Broker.declare_of_passive broker queue definition.flags rfl
  cases declared : broker.declare queue definition.flags with
  | mk answer after =>
      rw [declared] at keeps answered
      have performed :
          broker.perform (.declare channel queue definition.flags definition.arguments) =
            (answer, after) :=
        (Broker.onChannel_of_isOpen usable _).trans declared
      refine Program.attains_call performed fun drawnIds => ?_
      cases found : broker.queueExists queue with
      | true =>
          obtain rfl : answer = .ok (broker.queueInfo queue) := by simpa [found] using answered
          exact ⟨Broker.shows_of_exists found, rfl, rfl, keeps⟩
      | false =>
          obtain rfl : answer = .error (Broker.noQueue queue) := by simpa [found] using answered
          exact ⟨Broker.shows_of_missing found _, rfl, rfl, keeps⟩

/-- On a usable channel a queue is deleted, whether it exists or not. -/
theorem delete_attains (queue : String) :
    (client.delete queue).Attains (client.CarriesOn broker (broker.Purges queue)) broker
      drawnIds := by
  simp only [delete, isHeld]
  have performed :
      broker.perform (.delete channel queue deleteFlags) =
        (.ok (broker.delete queue).1, (broker.delete queue).2) :=
    Broker.onChannel_of_isOpen usable _
  refine Program.attains_call performed fun drawnIds => ?_
  refine forgetStream_attains.bind ?_
  rintro _ after drawnIds ⟨rfl, feeds, rfl⟩
  exact ⟨broker.purges_delete queue, isHeld.symm, rfl, ⟨rfl, rfl, rfl⟩⟩

/-- On a usable channel a message is sent. -/
theorem send_attains_ok
    (tracing : Tracing)
    (queue : String)
    (message : Outgoing)
    (body : List UInt8) :
    (client.send tracing queue message body).Attains (client.CarriesOn broker (· = .ok ())) broker
      drawnIds := by
  obtain ⟨history, properties, course, -⟩ :=
    send_course isHeld usable tracing queue message body drawnIds
  exact course.attains ⟨rfl, rfl, rfl, Broker.keepsChannels_publish _⟩

end

/-- On a usable channel publishing fails only if the message has no body. -/
theorem sendDeclared_attains
    (isHeld : client.channel = some channel)
    (usable : broker.isOpen channel = true)
    (tracing : Tracing)
    (queue : String)
    (message : Outgoing) :
    (client.sendDeclared tracing queue message).Attains
      (client.CarriesOn broker fun outcome => ∀ body, message.body = .ok body → outcome = .ok ())
      broker drawnIds := by
  refine (declare_attains isHeld usable (.new queue)).bind ?_
  rintro ⟨outcome, declared⟩ between drawnIds carriesOn
  obtain rfl : outcome = .ok () := carriesOn.isFit rfl
  have isHeldThen : declared.channel = some channel := carriesOn.channel.trans isHeld
  have usableThen : between.isOpen channel = true := (carriesOn.keeps.isOpen channel).trans usable
  dsimp only
  split
  · next body encoded =>
      refine (send_attains_ok isHeldThen usableThen tracing queue message body).mono ?_
      intro ended after sends
      exact carriesOn.behind ⟨fun _ _ => sends.isFit, sends.channel, sends.connection, sends.keeps⟩
  · next error unencoded =>
      have fails :
          CarriesOn declared between
            (fun outcome : Except ClientError Unit =>
              ∀ body, message.body = .ok body → outcome = .ok ())
            (.error (.serializePayload message.description error.message), declared) between := by
        refine ⟨fun body encoded => ?_, rfl, rfl, ⟨rfl, rfl, rfl⟩⟩
        cases unencoded.symm.trans encoded
      exact carriesOn.behind fails

/-! ## Resets -/

/-- A client that cannot reach the broker any more gets no channel. -/
theorem reopen_fails
    (lost : broker.isClosed client.connection = true)
    (refuses : broker.refusesDials = true) :
    client.reopen.Attains (fun ended _ => ended.1 ≠ .ok ()) broker drawnIds := by
  have refused :
      broker.perform (.dial client.url) = (.error (.protocol "connection refused"), broker) := by
    simp [Broker.perform, Broker.dial, refuses]
  have redials :
      client.redial.Attains (fun ended _ => ∃ error, ended.1 = .error error) broker drawnIds := by
    refine Program.attains_request true broker lost rfl fun drawnIds => ?_
    refine Program.attains_call refused fun drawnIds => ?_
    exact ⟨_, rfl⟩
  refine redials.bind ?_
  rintro ⟨_, redialed⟩ after drawnIds ⟨error, rfl⟩ isOk
  cases isOk

/-- A reset succeeds exactly if the broker can be reached, and gets the client another channel. -/
theorem reset_attains
    (numbered : broker.Numbered)
    (opened : ∀ channel, client.channel = some channel → broker.HasOpened channel) :
    client.reset.Attains
      (fun ended after =>
        (ended.1 = .ok () ↔
            broker.isClosed client.connection = false ∨ broker.refusesDials = false) ∧
          (ended.1 = .ok () → Renewed broker ended after)) broker drawnIds := by
  by_cases reachable :
      broker.isClosed client.connection = false ∨ broker.refusesDials = false
  · refine (reopen_renews numbered opened reachable).bind fun ended after drawnIds renewed => ?_
    refine ⟨⟨fun _ => reachable, fun _ => renewed.isOk⟩, fun _ => ?_⟩
    exact ⟨renewed.isOk, renewed.channel, renewed.streams, renewed.alive, renewed.generation,
      renewed.notClosed, renewed.backlog⟩
  · have unreachable :
        broker.isClosed client.connection = true ∧ broker.refusesDials = true := by
      simpa using reachable
    refine (reopen_fails unreachable.1 unreachable.2).bind fun ended after drawnIds fails => ?_
    exact ⟨⟨fun isOk => absurd isOk fails, fun isReachable => absurd isReachable reachable⟩,
      fun isOk => absurd isOk fails⟩

end Client

/-- On a usable channel an operation carries on if it neither registers nor replaces the channel. -/
theorem Operation.program_carriesOn
    {operation : Operation}
    {client : Client}
    {channel : Channel}
    {broker : Broker}
    (isHeld : client.channel = some channel)
    (usable : broker.isOpen channel = true)
    (receivesNothing : operation.source? = none)
    (staysOpen : operation.isClose = false)
    (keepsChannel : operation ≠ .reset)
    (drawnIds : Nat) :
    (operation.program client).Attains (client.CarriesOn broker fun _ => True) broker drawnIds := by
  have weaken {α : Type} {fits : Except ClientError α → Prop} {ended : Outcome α} {after : Broker}
      (carriesOn : client.CarriesOn broker fits ended after) :
      client.CarriesOn broker (fun _ => True) ended after :=
    ⟨trivial, carriesOn.channel, carriesOn.connection, carriesOn.keeps⟩
  cases operation with
  | reset => exact absurd rfl keepsChannel
  | close => cases staysOpen
  | receive queue decode => cases receivesNothing
  | registerConsumer queue => cases receivesNothing
  | ensureQueue definition =>
      exact (Client.record_attains (Client.declare_attains isHeld usable definition)).mono
        fun _ _ => weaken
  | inspectQueue queue =>
      exact (Client.record_attains (Client.inspect_attains isHeld usable queue)).mono
        fun _ _ => weaken
  | deleteQueue queue =>
      exact (Client.record_attains (Client.delete_attains isHeld usable queue)).mono
        fun _ _ => weaken
  | publish tracing queue message =>
      exact (Client.record_attains
        (Client.sendDeclared_attains isHeld usable tracing queue message)).mono fun _ _ => weaken
  | setLastError error => exact ⟨trivial, rfl, rfl, ⟨rfl, rfl, rfl⟩⟩
  | resetError => exact ⟨trivial, rfl, rfl, ⟨rfl, rfl, rfl⟩⟩

namespace Move

/-- A move of others than the party in a place, with which no connection breaks. -/
def IsElsewhere (place : Nat) : Move → Prop
  | .start other _ => other ≠ place
  | .leave other => other ≠ place
  | .disturb disturbance => disturbance ≠ .dropConnections
  | _ => True

/--
A move with which no connection breaks, and the party in a place neither leaves, nor closes its
client, nor starts to receive.
-/
def Spares (place : Nat) : Move → Prop
  | .start other operation =>
      other = place → operation.source? = none ∧ operation.isClose = false
  | .leave other => other ≠ place
  | .disturb disturbance => disturbance ≠ .dropConnections
  | _ => True

end Move

namespace Network

variable {network after : Network} {place : Nat} {client : Client} {channel : Channel}

/-! ## Channels to oneself -/

/--
The party in a place is idle, and its client has a usable channel that nobody else holds, on a
connection that is alive.
-/
structure Attached
    (network : Network)
    (place : Nat)
    (client : Client)
    (channel : Channel) : Prop where
  idle : network.parties[place]? = some (.idle client)
  isHeld : client.channel = some channel
  usable : network.broker.isOpen channel = true
  alive : network.broker.isClosed client.connection = false
  alone :
    ∀ other held,
      other ≠ place → network.channel? other = some held → held.number ≠ channel.number

/-- Who is idle is not in the middle of an operation. -/
theorem Attached.ne_of_busy
    (attached : network.Attached place client channel)
    {other : Nat}
    {operation : Operation}
    {standing : Standing}
    {rest : Program (Outcome operation.Value)}
    (busy : network.parties[other]? = some (.busy operation standing rest)) :
    other ≠ place := by
  rintro rfl
  cases attached.idle.symm.trans busy

/--
What others do leaves a channel attached: they close only channels that they hold, and hold no
others afterwards than before, but for fresh ones.
-/
theorem Attached.advance
    (attached : network.Attached place client channel)
    {closed : Option Channel}
    (closes : network.broker.Closes after.broker closed)
    (own : ∀ gone, closed = some gone → ∃ other, other ≠ place ∧ network.channel? other = some gone)
    (stays : after.parties[place]? = network.parties[place]?)
    (held :
      ∀ other found,
        after.channel? other = some found →
          network.channel? other = some found ∨ network.Fresh found) :
    after.Attached place client channel where
  idle := stays.trans attached.idle
  isHeld := attached.isHeld
  usable := by
    have notClosed : channel.number ∉ after.broker.closedChannels := by
      rw [closes.closed]
      intro member
      rcases List.mem_append.mp member with isGone | wasClosed
      · obtain ⟨gone, isClosed, sameNumber⟩ :
            ∃ gone, closed = some gone ∧ gone.number = channel.number := by
          simpa using isGone
        obtain ⟨other, differs, wasHeld⟩ := own gone isClosed
        exact attached.alone other gone differs wasHeld sameNumber
      · have usable := attached.usable
        simp [Broker.isOpen, wasClosed] at usable
    have usable := attached.usable
    simp only [Broker.isOpen, Bool.and_eq_true] at usable
    simpa [Broker.isOpen, closes.generation, notClosed] using usable.2
  alive := by
    rw [Broker.isClosed, closes.generation]
    exact attached.alive
  alone := by
    intro other found differs isFound
    rcases held other found isFound with wasHeld | fresh
    · exact attached.alone other found differs wasHeld
    · have isOwn : network.channel? place = some channel :=
        (channel?_of_seated attached.idle).trans attached.isHeld
      exact (fresh.isNew place channel isOwn).symm

/-- Somebody else goes on with the channel that was held there, and nothing is closed. -/
theorem Attached.reseated
    (attached : network.Attached place client channel)
    {other : Nat}
    {party : Party}
    (differs : other ≠ place)
    (parties : after.parties = network.parties.set other party)
    (closesNothing : network.broker.Closes after.broker none)
    (keeps : ∀ found, party.channel? = some found → network.channel? other = some found) :
    after.Attached place client channel := by
  refine attached.advance closesNothing (by simp) ?_ fun another found isFound => ?_
  · rw [parties, List.getElem?_set_ne differs]
  · exact .inl (channel?_of_reseated parties keeps another found isFound)

/-- In all small steps of others a channel stays attached. -/
theorem keeps_attached (place : Nat) (client : Client) (channel : Channel) :
    Keeps (Move.IsElsewhere place) Numbered (·.Attached place client channel) where
  joined network connection broker newcomer _ _ attached dialed unasked _ := by
    refine attached.advance (Broker.closes_dial dialed) (by simp) ?_ fun other found isFound => ?_
    · exact List.getElem?_append_left (lt_of_seated attached.idle)
    · obtain ⟨party, seated, isChannel⟩ := Option.bind_eq_some_iff.mp isFound
      rcases seated_concat seated with wasSeated | ⟨-, rfl⟩
      · exact .inl ((channel?_of_seated wasSeated).trans isChannel)
      · cases unasked.channel.symm.trans isChannel
  started network other starter operation _ _ attached elsewhere seated := by
    refine attached.reseated elsewhere rfl (.of_same rfl rfl) fun found isFound => ?_
    exact (channel?_of_seated seated).trans isFound
  exchanged network other operation standing request next underway numbered attached
      givesNothingUp := by
    have differs : other ≠ place := attached.ne_of_busy underway.seated
    have held := held_exchange underway numbered
    rw [exchange_eq next givesNothingUp] at held ⊢
    refine attached.advance (closes_brokerAfter network request) (fun gone isClosed => ?_)
      (List.getElem?_set_ne differs) held
    exact ⟨other, differs, held_of_closed? underway isClosed⟩
  dropped network other party stream party' givesUp _ attached := by
    have differs : other ≠ place := by
      rintro rfl
      obtain rfl : party = .idle client := Option.some.inj (givesUp.seated.symm.trans attached.idle)
      cases givesUp.first
    refine attached.reseated differs rfl (.of_same rfl rfl) fun found isFound => ?_
    rw [channel?_of_seated givesUp.seated, Party.channel?, ← givesUp.client]
    exact isFound
  finished network other operation standing ended underway _ attached := by
    have concludes : operation.Concludes ended standing := underway.met
    obtain ⟨error, isClient⟩ := concludes.client
    refine attached.reseated (attached.ne_of_busy underway.seated) rfl (.of_same rfl rfl)
      fun found isFound => ?_
    change ended.2.channel = some found at isFound
    rw [isClient] at isFound
    exact (channel?_of_seated underway.seated).trans isFound
  leaving network other party _ _ attached elsewhere seated :=
    attached.reseated elsewhere rfl (.of_same rfl rfl) fun _ isFound => by cases isFound
  disturbed network disturbance _ _ attached holds :=
    attached.advance (Broker.closes_disturb holds) (by simp) rfl fun _ _ isHeld => .inl isHeld

/-! ## Moves of the party itself -/

/-- A party that has carried on is attached as before. -/
theorem Attached.of_carriesOn
    (attached : network.Attached place client channel)
    {operation : Operation}
    {fits : Except ClientError operation.Value → Prop}
    {ended : Outcome operation.Value}
    {after : Broker}
    (carriesOn : client.CarriesOn network.broker fits ended after)
    (told : List Event)
    (drawnIds : Nat) :
    (network.doneWith place operation told ended after drawnIds).Attached place ended.2
      channel where
  idle := List.getElem?_set_self (lt_of_seated attached.idle)
  isHeld := carriesOn.channel.trans attached.isHeld
  usable := (carriesOn.keeps.isOpen channel).trans attached.usable
  alive := by
    have sameGeneration : after.generation = network.broker.generation := carriesOn.keeps.generation
    have alive := attached.alive
    rw [← carriesOn.connection, Broker.isClosed, ← sameGeneration] at alive
    exact alive
  alone other held differs isHeld :=
    attached.alone other held differs (channel?_of_set rfl differs isHeld)

/-- The number of a channel that is held is among those that were given out. -/
theorem Numbered.number_le
    (numbered : network.Numbered)
    (isHeld : network.channel? place = some channel) :
    channel.number ≤ network.broker.channelsOpened := by
  obtain ⟨party, seated, isChannel⟩ := Option.bind_eq_some_iff.mp isHeld
  obtain ⟨client, isClient, isHeld⟩ := Option.bind_eq_some_iff.mp isChannel
  exact numbered.held place party seated client channel isClient isHeld

/-- A party that has got another channel is attached. -/
theorem attached_of_renewed
    (numbered : network.Numbered)
    (idle : network.parties[place]? = some (.idle client))
    {ended : Outcome Unit}
    {after : Broker}
    (renewed : Client.Renewed network.broker ended after)
    (told : List Event)
    (drawnIds : Nat) :
    (network.doneWith place .reset told ended after drawnIds).Attached place ended.2
      ⟨network.broker.channelsOpened + 1, network.broker.generation⟩ where
  idle := List.getElem?_set_self (lt_of_seated idle)
  isHeld := renewed.channel
  usable := renewed.isOpen
  alive := renewed.alive
  alone other held differs isHeld := by
    have wasOpened := numbered.number_le (channel?_of_set rfl differs isHeld)
    exact Nat.ne_of_lt (Nat.lt_succ_of_le wasOpened)

/-- A reset is over at once, with another channel exactly if the broker can be reached. -/
theorem Numbered.step_reset
    (numbered : network.Numbered)
    (idle : network.parties[place]? = some (.idle client)) :
    ∃ told ended after drawnIds,
      network.step (.start place .reset) =
          network.doneWith place .reset told ended after drawnIds ∧
        (ended.1 = .ok () ↔
            network.broker.isClosed client.connection = false ∨
              network.broker.refusesDials = false) ∧
          (ended.1 = .ok () → Client.Renewed network.broker ended after) := by
  have attains :=
    @Client.reset_attains client network.broker network.drawnIds numbered.closed
      (numbered.held place _ idle client · rfl)
  exact @step_start_of_attains network place .reset client _ idle rfl attains

/-- A party that is attached stays so, whatever it does but registering and closing. -/
theorem Attached.start
    (attached : network.Attached place client channel)
    (numbered : network.Numbered)
    {operation : Operation}
    (receivesNothing : operation.source? = none)
    (staysOpen : operation.isClose = false) :
    ∃ client channel,
      (network.step (.start place operation)).Attached place client channel := by
  by_cases isReset : operation = .reset
  · subst isReset
    obtain ⟨told, ended, after, drawnIds, isDone, isOk_iff, renewed⟩ :=
      numbered.step_reset attached.idle
    rw [isDone]
    exact ⟨_, _, attached_of_renewed numbered attached.idle
      (renewed (isOk_iff.mpr (.inl attached.alive))) told drawnIds⟩
  · have attains := Operation.program_carriesOn attached.isHeld attached.usable receivesNothing
      staysOpen isReset network.drawnIds
    obtain ⟨told, ended, after, drawnIds, isDone, carriesOn⟩ :=
      step_start_of_attains attached.idle receivesNothing attains
    rw [isDone]
    exact ⟨_, _, attached.of_carriesOn carriesOn told drawnIds⟩

/-- A party stays attached in every move that spares it. -/
theorem Attached.step
    (attached : network.Attached place client channel)
    (atRest : network.AtRest)
    (numbered : network.Numbered)
    {move : Move}
    (spares : move.Spares place) :
    ∃ client channel, (network.step move).Attached place client channel := by
  by_cases isElsewhere : move.IsElsewhere place
  · have keeps := (keeps_numbered.restrict fun _ _ => trivial).and
      (keeps_attached place client channel)
    exact ⟨client, channel, (keeps.step atRest ⟨numbered, attached⟩ isElsewhere).2.2⟩
  · -- What is not done elsewhere is an operation of the party itself.
    cases move with
    | start other operation =>
        have isPlace : other = place := by simpa [Move.IsElsewhere] using isElsewhere
        subst isPlace
        obtain ⟨receivesNothing, staysOpen⟩ := spares rfl
        exact attached.start numbered receivesNothing staysOpen
    | join consumerId endpoint => exact absurd trivial isElsewhere
    | resume other => exact absurd trivial isElsewhere
    | leave other => exact absurd spares isElsewhere
    | disturb disturbance => exact absurd spares isElsewhere

theorem Attached.run
    (attached : network.Attached place client channel)
    (atRest : network.AtRest)
    (numbered : network.Numbered)
    {moves : List Move}
    (spare : ∀ move ∈ moves, move.Spares place) :
    ∃ client channel, (network.run moves).Attached place client channel := by
  induction moves generalizing network client channel with
  | nil => exact ⟨client, channel, attached⟩
  | cons move rest inductionHypothesis =>
      obtain ⟨client, channel, attachedThen⟩ := attached.step atRest numbered (spare move (by simp))
      obtain ⟨atRestThen, numberedThen⟩ :
          (network.step move).AtRest ∧ (network.step move).Numbered :=
        keeps_numbered.step atRest numbered trivial
      exact inductionHypothesis attachedThen atRestThen numberedThen fun other member =>
        spare other (by simp [member])

/-! ## Service -/

/--
The party in a place is idle, and whatever it starts now is done at once.  Declaring a queue, unless
it only looks for it, publishing a message that can be encoded and deleting a queue succeed;
inspecting a queue succeeds if the queue exists.
-/
structure InService (network : Network) (place : Nat) : Prop where
  idle : ∃ client, network.parties[place]? = some (.idle client)
  ensures :
    ∀ definition : QueueDefinition,
      definition.passive = false → network.Returns place (.ensureQueue definition) (· = .ok ())
  publishes :
    ∀ tracing queue (message : Outgoing) body,
      message.body = .ok body →
        network.Returns place (.publish tracing queue message) (· = .ok ())
  deletes :
    ∀ queue, network.Returns place (.deleteQueue queue) (network.broker.Purges queue)
  inspects :
    ∀ queue, network.Returns place (.inspectQueue queue) (network.broker.Shows queue)

/-- What carries on on a usable channel returns as it should. -/
theorem Attached.returns
    (attached : network.Attached place client channel)
    {operation : Operation}
    (receivesNothing : operation.source? = none)
    {fits : Except ClientError operation.Value → Prop}
    (attains :
      (operation.program client).Attains (client.CarriesOn network.broker fits) network.broker
        network.drawnIds) :
    network.Returns place operation fits :=
  returns_of_attains attached.idle receivesNothing
    (attains.mono fun _ _ carriesOn => carriesOn.isFit)

theorem Attached.inService (attached : network.Attached place client channel) :
    network.InService place := by
  obtain ⟨idle, isHeld, usable, -, -⟩ := id attached
  constructor
  case idle => exact ⟨client, idle⟩
  case ensures =>
    intro definition creates
    refine attached.returns rfl (Client.record_attains ?_)
    refine (Client.declare_attains isHeld usable definition).mono fun _ _ carriesOn => ?_
    exact ⟨carriesOn.isFit creates, carriesOn.channel, carriesOn.connection, carriesOn.keeps⟩
  case publishes =>
    intro tracing queue message body encoded
    refine attached.returns rfl (Client.record_attains ?_)
    refine (Client.sendDeclared_attains isHeld usable tracing queue message).mono
      fun _ _ carriesOn => ?_
    exact ⟨carriesOn.isFit body encoded, carriesOn.channel, carriesOn.connection, carriesOn.keeps⟩
  case deletes =>
    intro queue
    exact attached.returns rfl (Client.record_attains (Client.delete_attains isHeld usable queue))
  case inspects =>
    intro queue
    exact attached.returns rfl (Client.record_attains (Client.inspect_attains isHeld usable queue))

/--
In every state that a network can come to, a client that is reset gets an outcome at once: it
succeeds exactly if its connection is still alive or the broker accepts dials.  If it has succeeded,
then as long as no connection breaks and the party neither leaves nor closes its client nor
receives, it is served, whatever it does itself otherwise and whatever the others do.
-/
theorem served_after_reset
    (arbitration : Arbitration)
    (moves : List Move)
    {place : Nat}
    {client : Client}
    (idle : ((start arbitration).run moves).parties[place]? = some (.idle client)) :
    let before := (start arbitration).run moves
    let reset := before.step (.start place .reset)
    ∃ told outcome,
      reset.log = before.log ++ told ++ [.finished place .reset outcome] ∧
        (outcome = .ok () ↔
            before.broker.isClosed client.connection = false ∨
              before.broker.refusesDials = false) ∧
          (outcome = .ok () →
            ∀ later : List Move,
              (∀ move ∈ later, move.Spares place) → (reset.run later).InService place) := by
  intro before reset
  have numbered : before.Numbered := numbered_run arbitration moves
  obtain ⟨atRestThen, numberedThen⟩ : reset.AtRest ∧ reset.Numbered :=
    keeps_numbered.step (sound_run arbitration moves).1 numbered trivial
  obtain ⟨told, ended, after, drawnIds, isDone, isOk_iff, renewed⟩ := numbered.step_reset idle
  have isReset : reset = before.doneWith place .reset told ended after drawnIds := isDone
  refine ⟨told, ended.1, by rw [isReset]; rfl, isOk_iff, fun isOk later spare => ?_⟩
  have attached := attached_of_renewed numbered idle (renewed isOk) told drawnIds
  rw [← isReset] at attached
  obtain ⟨_, _, attachedThen⟩ := attached.run atRestThen numberedThen spare
  exact attachedThen.inService

/-- All connections break under two clients, one of which has declared a queue. -/
def broken : List Move :=
  [.join "worker" (.new "memory"),
    .join "other" (.new "memory"),
    .start 0 .reset,
    .start 1 .reset,
    .start 0 (.ensureQueue (.new "jobs")),
    .disturb .dropConnections]

/-- The client that has declared a queue on a connection that has broken since. -/
def brokenClient : Client where
  lastError := none
  channel := some ⟨1, 0⟩
  connection := ⟨1, 0⟩
  url := "memory"
  consumerId := "worker"
  options := .default
  queues := [("jobs", ⟨"jobs", 0, 0⟩)]
  streams := []

/-- The other client recovers too and is closed, while the first one deletes its queue. -/
def busyAgain : List Move :=
  [.start 1 .reset,
    .start 0 (.deleteQueue "jobs"),
    .disturb (.refuseDials true),
    .start 1 .close,
    .disturb (.pushRaw "jobs" [1])]

/-- Behind the break the first client is reset and served. -/
theorem served_after_break :
    ((start .byConsumerTag).run broken).parties[0]? = some (.idle brokenClient) ∧
      ((start .byConsumerTag).run broken).broker.isClosed brokenClient.connection = true ∧
        ((start .byConsumerTag).run broken).broker.refusesDials = false ∧
          (∀ move ∈ busyAgain, move.Spares 0) ∧
            ((((start .byConsumerTag).run broken).step (.start 0 .reset)).run busyAgain).InService
              0 := by
  have idle : ((start .byConsumerTag).run broken).parties[0]? = some (.idle brokenClient) := rfl
  have dialable : ((start .byConsumerTag).run broken).broker.refusesDials = false := by
    decide +kernel
  have spare : ∀ move ∈ busyAgain, move.Spares 0 := by
    simp [busyAgain, Move.Spares, Operation.source?, Operation.isClose]
  obtain ⟨told, outcome, -, isOk_iff, serves⟩ := served_after_reset .byConsumerTag broken idle
  exact ⟨idle, by decide +kernel, dialable, spare,
    serves (isOk_iff.mpr (.inr dialable)) busyAgain spare⟩

end Network

end BrokerClient
