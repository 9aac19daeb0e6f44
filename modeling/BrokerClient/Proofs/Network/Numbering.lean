import BrokerClient.Proofs.Network.Steps

/-!
# Channels and their numbers

The broker numbers channels in the order in which it opens them, and what it closes are channels
that clients hold, which it has opened before.  So the number of the next channel is not among those
that are closed.
-/

namespace BrokerClient

namespace Broker

/-- A channel with such a number was opened. -/
def HasOpened (broker : Broker) (channel : Channel) : Prop :=
  channel.number ≤ broker.channelsOpened

/-- Only channels that were opened are closed. -/
def Numbered (broker : Broker) : Prop :=
  ∀ number ∈ broker.closedChannels, number ≤ broker.channelsOpened

/-- No channel is taken back, and none is closed that was not opened. -/
structure KeepsNumbers (broker broker' : Broker) : Prop where
  opened : broker.channelsOpened ≤ broker'.channelsOpened
  closed :
    ∀ number ∈ broker'.closedChannels,
      number ∈ broker.closedChannels ∨ number ≤ broker.channelsOpened

variable {broker broker' : Broker} {channel : Channel}

theorem KeepsNumbers.of_same
    (opened : broker'.channelsOpened = broker.channelsOpened)
    (closed : broker'.closedChannels = broker.closedChannels) :
    broker.KeepsNumbers broker' :=
  ⟨Nat.le_of_eq opened.symm, fun _ member => .inl (closed ▸ member)⟩

theorem KeepsNumbers.numbered (keeps : broker.KeepsNumbers broker') (numbered : broker.Numbered) :
    broker'.Numbered := by
  intro number member
  rcases keeps.closed number member with wasClosed | isOpened
  · exact Nat.le_trans (numbered number wasClosed) keeps.opened
  · exact Nat.le_trans isOpened keeps.opened

theorem KeepsNumbers.hasOpened
    (keeps : broker.KeepsNumbers broker')
    (opened : broker.HasOpened channel) :
    broker'.HasOpened channel :=
  Nat.le_trans opened keeps.opened

theorem keepsNumbers_closeChannel (opened : broker.HasOpened channel) :
    broker.KeepsNumbers (broker.closeChannel channel) := by
  refine ⟨Nat.le_refl _, fun number member => ?_⟩
  rcases List.mem_cons.mp member with rfl | wasClosed
  · exact .inr opened
  · exact .inl wasClosed

theorem keepsNumbers_accept (queue : String) (properties : Properties) (body : List UInt8) :
    broker.KeepsNumbers (broker.accept queue properties body) := by
  obtain ⟨queues, feeds, accepted⟩ := broker.accept_eq queue properties body
  rw [accepted]
  exact .of_same rfl rfl

theorem keepsNumbers_publish (publication : Publication) :
    broker.KeepsNumbers (broker.publish publication) := by
  obtain ⟨queues, feeds, published⟩ := broker.publish_eq publication
  rw [published]
  exact .of_same rfl rfl

theorem keepsNumbers_dial {outcome : Except TransportError Connection}
    (dialed : broker.dial = (outcome, broker')) : broker.KeepsNumbers broker' := by
  unfold dial at dialed
  split at dialed
  · cases dialed
    exact .of_same rfl rfl
  · cases dialed
    exact .of_same rfl rfl

theorem keepsNumbers_openChannel (connection : Connection) :
    broker.KeepsNumbers (broker.openChannel connection).2 := by
  unfold openChannel
  split
  · exact .of_same rfl rfl
  · exact ⟨Nat.le_succ _, fun _ member => .inl member⟩

/-- The broker counts the channel that it has opened. -/
theorem hasOpened_of_openChannel
    {connection : Connection}
    (opens : broker.openChannel connection = (.ok channel, broker')) :
    broker'.HasOpened channel := by
  unfold openChannel at opens
  split at opens
  · cases opens
  · cases opens
    exact Nat.le_refl _

theorem keepsNumbers_declare (queue : String) (flags : DeclareFlags) :
    broker.KeepsNumbers (broker.declare queue flags).2 := by
  unfold declare
  dsimp only
  split
  · exact .of_same rfl rfl
  · exact .of_same rfl rfl

theorem keepsNumbers_consume (opened : broker.HasOpened channel) (queue tag : String) :
    broker.KeepsNumbers (broker.consume channel queue tag).2 := by
  unfold consume
  split
  · exact keepsNumbers_closeChannel opened
  · exact .of_same rfl rfl

/-- On a channel that is not usable nothing happens. -/
theorem keepsNumbers_onChannel
    {α : Type}
    {perform : Except TransportError α × Broker}
    (keeps : broker.KeepsNumbers perform.2) :
    broker.KeepsNumbers (broker.onChannel channel perform).2 := by
  rcases onChannel_cases channel perform with same | same
  · rw [same]
    exact keeps
  · rw [same]
    exact .of_same rfl rfl

/-- Calls on channels that were opened keep the numbers in order. -/
theorem keepsNumbers_perform
    (call : Call)
    (onOpened : ∀ channel, call.channel? = some channel → broker.HasOpened channel) :
    broker.KeepsNumbers (broker.perform call).2 := by
  cases call with
  | dial url => exact keepsNumbers_dial rfl
  | openChannel connection => exact keepsNumbers_openChannel connection
  | closeConnection connection => exact .of_same rfl rfl
  | qos channel prefetchCount global => exact keepsNumbers_onChannel (.of_same rfl rfl)
  | declare channel queue flags arguments =>
      exact keepsNumbers_onChannel (keepsNumbers_declare queue flags)
  | delete channel queue flags => exact keepsNumbers_onChannel (.of_same rfl rfl)
  | publish channel publication => exact keepsNumbers_onChannel (keepsNumbers_publish publication)
  | consume channel queue tag flags =>
      exact keepsNumbers_onChannel (keepsNumbers_consume (onOpened channel rfl) queue tag)
  | cancel channel tag nowait => exact keepsNumbers_onChannel (.of_same rfl rfl)
  | closeChannel channel => exact keepsNumbers_closeChannel (onOpened channel rfl)

theorem keepsNumbers_disturb (disturbance : Disturbance) :
    broker.KeepsNumbers (broker.disturb disturbance) := by
  cases disturbance with
  | pushRaw queue body => exact keepsNumbers_accept queue .none body
  | settle delivery settlement =>
      unfold disturb settle
      dsimp only
      split
      · cases settlement <;> exact .of_same rfl rfl
      · exact .of_same rfl rfl
  | _ => exact .of_same rfl rfl

end Broker

namespace Network

/-- Closed channels were opened, and so were those that clients hold. -/
structure Numbered (network : Network) : Prop where
  closed : network.broker.Numbered
  held :
    ∀ (place : Nat) (party : Party),
      network.parties[place]? = some party → ∀ client channel,
        party.client? = some client → client.channel = some channel →
          network.broker.HasOpened channel

variable {network : Network} {broker : Broker}

/-- The broker goes on, and a party holds no channel that was not opened. -/
theorem Numbered.set
    (numbered : network.Numbered)
    (keeps : network.broker.KeepsNumbers broker)
    {place : Nat}
    {party : Party}
    (opened :
      ∀ client channel, party.client? = some client → client.channel = some channel →
        broker.HasOpened channel)
    (drawnIds : Nat)
    (log : List Event) :
    Numbered ⟨broker, drawnIds, network.parties.set place party, log⟩ where
  closed := keeps.numbered numbered.closed
  held :=
    forall_seated_set opened fun other found _ seated client channel isClient isHeld =>
      keeps.hasOpened (numbered.held other found seated client channel isClient isHeld)

/-- The channel that a client holds after a call was opened. -/
theorem hasOpened_afterCall
    {operation : Operation}
    {client : Client}
    {call : Call}
    (keeps : broker.KeepsNumbers (broker.perform call).2)
    (opened : ∀ channel, client.channel = some channel → broker.HasOpened channel)
    {channel : Channel}
    (isHeld : (client.afterCall operation call (broker.perform call).1).channel = some channel) :
    (broker.perform call).2.HasOpened channel := by
  by_cases isOpening : call.kind = .openChannel
  · obtain ⟨connection, rfl⟩ := Call.eq_openChannel isOpening
    change (broker.openChannel connection).2.HasOpened channel
    change
      (client.afterCall operation (.openChannel connection)
        (broker.openChannel connection).1).channel = _ at isHeld
    cases opens : broker.openChannel connection with
    | mk outcome broker' =>
        rw [opens] at isHeld
        cases outcome with
        | error error =>
            have keepsOn := broker.keepsNumbers_openChannel connection
            rw [opens] at keepsOn
            exact keepsOn.hasOpened (opened channel isHeld)
        | ok fresh =>
            obtain rfl := Option.some.inj isHeld
            exact Broker.hasOpened_of_openChannel opens
  · exact keeps.hasOpened (opened channel (Client.channel_of_afterCall isOpening isHeld))

theorem numbered_exchange
    {place : Nat}
    {operation : Operation}
    {standing : Standing}
    {request : Request}
    {next : request.Answer → Program (Outcome operation.Value)}
    (underway : network.Underway place operation standing (.ask request next))
    (numbered : network.Numbered)
    (givesNothingUp : ∀ stream, request ≠ .release stream) :
    (network.exchange place operation standing request next).Numbered := by
  have permitted : standing.Permits operation request := underway.met.1
  have opened (channel : Channel) (isHeld : standing.client.channel = some channel) :
      network.broker.HasOpened channel :=
    numbered.held place _ underway.seated _ channel rfl isHeld
  rw [exchange_eq next givesNothingUp]
  cases request with
  | release stream => exact absurd rfl (givesNothingUp stream)
  | transport call =>
      have keeps : network.broker.KeepsNumbers (network.broker.perform call).2 :=
        Broker.keepsNumbers_perform call fun channel onChannel =>
          opened channel (permitted.2.1 channel onChannel)
      refine numbered.set keeps (fun client channel isClient isHeld => ?_) _ _
      obtain rfl := Option.some.inj isClient
      exact hasOpened_afterCall keeps opened isHeld
  | next stream timeout =>
      have keeps : network.broker.KeepsNumbers (network.brokerAfter (.next stream timeout)) := by
        dsimp only [brokerAfter]
        cases polled : network.broker.poll stream with
        | item delivery broker =>
            obtain ⟨rest, -, rfl⟩ := Broker.poll_item polled
            exact .of_same rfl rfl
        | _ => exact .of_same rfl rfl
      refine numbered.set keeps (fun client channel isClient isHeld => ?_) _ _
      obtain rfl := Option.some.inj isClient
      have wasHeld := (Standing.channel_arrived operation standing _).symm.trans isHeld
      exact keeps.hasOpened (opened channel wasHeld)
  | isClosed | sleep | describe | freshId =>
      refine numbered.set (.of_same rfl rfl) (fun client channel isClient isHeld => ?_) _ _
      obtain rfl := Option.some.inj isClient
      exact opened channel isHeld

/-- All small steps keep the numbers of channels in order. -/
theorem keeps_numbered : Keeps (fun _ => True) Anything Numbered where
  joined network connection broker client _ _ numbered dialed unasked _ := by
    have keeps := Broker.keepsNumbers_dial dialed
    refine ⟨keeps.numbered numbered.closed, fun place party seated => ?_⟩
    rcases seated_concat seated with wasSeated | ⟨-, rfl⟩
    · intro found channel isClient isHeld
      exact keeps.hasOpened (numbered.held place party wasSeated found channel isClient isHeld)
    · intro found channel isClient isHeld
      obtain rfl := Option.some.inj isClient
      cases unasked.channel.symm.trans isHeld
  started network place client operation _ _ numbered _ seated := by
    refine numbered.set (.of_same rfl rfl) (fun found channel isClient isHeld => ?_) _ _
    exact numbered.held place _ seated found channel isClient isHeld
  exchanged _ _ _ _ _ _ underway _ numbered givesNothingUp :=
    numbered_exchange underway numbered givesNothingUp
  dropped network place party _ _ givesUp _ numbered := by
    have keeps (stream : Stream) : network.broker.KeepsNumbers (network.broker.release stream) :=
      .of_same rfl rfl
    refine numbered.set (keeps _) (fun client channel isClient isHeld => ?_) _ _
    rw [givesUp.client] at isClient
    exact (keeps _).hasOpened
      (numbered.held place party givesUp.seated client channel isClient isHeld)
  finished network place operation standing ended underway _ numbered := by
    have concludes : operation.Concludes ended standing := underway.met
    obtain ⟨error, isClient⟩ := concludes.client
    refine numbered.set (.of_same rfl rfl) (fun client channel isFound isHeld => ?_) _ _
    obtain rfl := Option.some.inj isFound
    rw [isClient] at isHeld
    exact numbered.held place _ underway.seated _ channel rfl isHeld
  leaving _ _ _ _ _ numbered _ _ :=
    numbered.set (.of_same rfl rfl) (fun _ _ isClient _ => by cases isClient) _ _
  disturbed network disturbance _ _ numbered _ := by
    have keeps := @Broker.keepsNumbers_disturb network.broker disturbance
    refine ⟨keeps.numbered numbered.closed, fun place party seated client channel isClient => ?_⟩
    exact fun isHeld =>
      keeps.hasOpened (numbered.held place party seated client channel isClient isHeld)

theorem numbered_run (arbitration : Arbitration) (moves : List Move) :
    ((start arbitration).run moves).Numbered := by
  refine (keeps_numbered.run (by simp [AtRest, start]) ⟨?_, ?_⟩ fun _ _ => trivial).2
  · simp [Broker.Numbered, start, Broker.empty]
  · simp [start]

end Network

end BrokerClient
