import BrokerClient.Proofs.Client.LastError
import BrokerClient.Proofs.Network.Conservation
import BrokerClient.Proofs.Network.Prompt
import BrokerClient.Proofs.Network.Supply

/-!
# Settling is up to callers

The broker records a settlement when a caller settles a delivery, and at no other time: no operation
of a client does it on its caller's behalf, and nothing that happens to the broker touches the
records.  A delivery is bound to its tag where its message is accepted, and stays so on its way
through a stream to the caller, into the failure of a receive and into the failure that a client
remembers.  So whatever way a caller has come by a delivery, it is recorded under its own tag.
-/

namespace BrokerClient

namespace Delivery

/-- Whether a delivery is settled with the broker. -/
def fromBroker (delivery : Delivery) : Bool :=
  match delivery.acknowledger with
  | some (.broker _) => true
  | _ => false

/-- If a delivery is settled with the broker, then under its own tag. -/
def Bound (delivery : Delivery) : Prop :=
  ∀ tag, delivery.acknowledger = some (.broker tag) → tag = delivery.tag

theorem bound_of_not_fromBroker
    {delivery : Delivery}
    (elsewhere : ¬ delivery.fromBroker = true) :
    delivery.Bound := by
  intro tag isBroker
  simp [fromBroker, isBroker] at elsewhere

end Delivery

namespace Settlement

/-- Whether a delivery is acknowledged. -/
def isAck : Settlement → Bool
  | .ack => true
  | _ => false

/-- Whether a delivery is rejected. -/
def isReject : Settlement → Bool
  | .reject _ => true
  | _ => false

end Settlement

/-- The tag that is recorded when a delivery is settled in a way that is kept a record of. -/
def Delivery.recorded?
    (delivery : Delivery)
    (isKept : Settlement → Bool)
    (settlement : Settlement) :
    Option Nat :=
  if isKept settlement && delivery.fromBroker then some delivery.tag else none

namespace Move

/-- What a caller settles, and how. -/
def settlement? : Move → Option (Delivery × Settlement)
  | .disturb (.settle delivery settlement) => some (delivery, settlement)
  | _ => none

/-- The tag of a delivery from the broker that a caller settles in a way that is put on record. -/
def recorded? (isKept : Settlement → Bool) (move : Move) : Option Nat :=
  move.settlement?.bind fun settled => settled.1.recorded? isKept settled.2

end Move

/-! ## Records of the broker -/

namespace Broker

/-- What a broker has recorded more than another one. -/
structure Records (broker after : Broker) (acked rejected : List Nat) : Prop where
  acked : after.acked = broker.acked ++ acked
  rejected : after.rejected = broker.rejected ++ rejected

variable {broker after : Broker}

theorem Records.of_same
    (acked : after.acked = broker.acked)
    (rejected : after.rejected = broker.rejected) :
    broker.Records after [] [] :=
  ⟨acked.trans (List.append_nil _).symm, rejected.trans (List.append_nil _).symm⟩

theorem Records.trans
    {last : Broker}
    {acked ackedThen rejected rejectedThen : List Nat}
    (first : broker.Records after acked rejected)
    (second : after.Records last ackedThen rejectedThen) :
    broker.Records last (acked ++ ackedThen) (rejected ++ rejectedThen) where
  acked := by rw [second.acked, first.acked, List.append_assoc]
  rejected := by rw [second.rejected, first.rejected, List.append_assoc]

theorem records_accept (queue : String) (properties : Properties) (body : List UInt8) :
    broker.Records (broker.accept queue properties body) [] [] := by
  obtain ⟨queues, feeds, accepted⟩ := broker.accept_eq queue properties body
  rw [accepted]
  exact .of_same rfl rfl

theorem records_publish (publication : Publication) :
    broker.Records (broker.publish publication) [] [] := by
  obtain ⟨queues, feeds, published⟩ := broker.publish_eq publication
  rw [published]
  exact .of_same rfl rfl

/-- A call records no settlement. -/
theorem records_perform (call : Call) : broker.Records (broker.perform call).2 [] [] := by
  have onChannel {α : Type} {channel : Channel} {perform : Except TransportError α × Broker}
      (records : broker.Records perform.2 [] []) :
      broker.Records (broker.onChannel channel perform).2 [] [] := by
    rcases onChannel_cases channel perform with performed | performed
    · rw [performed]
      exact records
    · rw [performed]
      exact .of_same rfl rfl
  cases call with
  | dial url =>
      change broker.Records broker.dial.2 [] []
      unfold dial
      split
      · exact .of_same rfl rfl
      · exact .of_same rfl rfl
  | openChannel connection =>
      change broker.Records (broker.openChannel connection).2 [] []
      unfold openChannel
      split
      · exact .of_same rfl rfl
      · exact .of_same rfl rfl
  | closeConnection connection => exact .of_same rfl rfl
  | qos channel prefetchCount global => exact onChannel (.of_same rfl rfl)
  | declare channel queue flags arguments =>
      refine onChannel ?_
      unfold declare
      dsimp only
      split
      · exact .of_same rfl rfl
      · exact .of_same rfl rfl
  | delete channel queue flags =>
      exact @onChannel _ channel (.ok _, (broker.delete queue).2) (.of_same rfl rfl)
  | publish channel publication => exact onChannel (records_publish publication)
  | consume channel queue tag flags =>
      refine onChannel ?_
      unfold consume
      split
      · exact .of_same rfl rfl
      · exact .of_same rfl rfl
  | cancel channel tag nowait => exact onChannel (.of_same rfl rfl)
  | closeChannel channel => exact .of_same rfl rfl

theorem records_recordSettlement (tag : Nat) (settlement : Settlement) :
    broker.Records (broker.recordSettlement tag settlement)
      (if settlement.isAck then [tag] else []) (if settlement.isReject then [tag] else []) := by
  cases settlement with
  | ack => exact ⟨rfl, (List.append_nil _).symm⟩
  | nack requeue => exact .of_same rfl rfl
  | reject requeue => exact ⟨(List.append_nil _).symm, rfl⟩

/-- A settlement is recorded under the tag of the delivery, if it is bound. -/
theorem records_settle {delivery : Delivery} (bound : delivery.Bound) (settlement : Settlement) :
    broker.Records (broker.settle delivery settlement).2
      (delivery.recorded? Settlement.isAck settlement).toList
      (delivery.recorded? Settlement.isReject settlement).toList := by
  unfold settle
  dsimp only
  split
  · next tag isBroker =>
      have comes : delivery.fromBroker = true := by
        simp [Delivery.fromBroker, isBroker]
      have kept (isKept : Settlement → Bool) :
          (delivery.recorded? isKept settlement).toList =
            if isKept settlement then [tag] else [] := by
        rw [Delivery.recorded?, comes, Bool.and_true, bound tag isBroker]
        split
        · rfl
        · rfl
      rw [kept, kept]
      exact records_recordSettlement tag settlement
  · next elsewhere =>
      have notKept (isKept : Settlement → Bool) :
          delivery.recorded? isKept settlement = none := by
        have comesNot : delivery.fromBroker = false := by
          unfold Delivery.fromBroker
          split
          · next tag isBroker => exact absurd isBroker (elsewhere tag)
          · rfl
        simp [Delivery.recorded?, comesNot]
      rw [notKept, notKept]
      exact .of_same rfl rfl

/-- Nothing that happens to a broker is recorded but a settlement. -/
theorem records_disturb
    {disturbance : Disturbance}
    (settlesNothing : (Move.disturb disturbance).settlement? = none) :
    broker.Records (broker.disturb disturbance) [] [] := by
  cases disturbance with
  | pushRaw queue body => exact records_accept queue .none body
  | dropConsumers => exact .of_same rfl rfl
  | dropConnections => exact .of_same rfl rfl
  | refuseDials refuses => exact .of_same rfl rfl
  | settle delivery settlement => cases settlesNothing

end Broker

/-! ## What a client remembers -/

/-- The delivery that comes with the failure that a client remembers. -/
def Client.recalled? (client : Client) : Option Delivery :=
  client.lastError.bind ClientError.delivery?

/-- The delivery that the client of an idle party remembers. -/
def Party.recalled? : Party → Option Delivery
  | .idle client => client.recalled?
  | _ => none

/-- The delivery in a failure that a caller has a client remember. -/
def Operation.brought? : Operation → Option Delivery
  | .setLastError error => error.delivery?
  | _ => none

/-- The delivery that a caller settles or has a client remember. -/
def Move.brought? : Move → Option Delivery
  | .start _ operation => operation.brought?
  | .disturb (.settle delivery _) => some delivery
  | _ => none

/--
After an operation a client remembers a delivery only if the operation hands it out, its caller
brings it, or the client has remembered it before.
-/
theorem Operation.recalled_of_ends
    {operation : Operation}
    {client : Client}
    {history : History}
    {ended : Outcome operation.Value}
    (ends : (operation.program client).Ends history ended)
    {delivery : Delivery}
    (recalls : ended.2.recalled? = some delivery) :
    operation.delivered? ended.1 = some delivery ∨ operation.brought? = some delivery ∨
      client.recalled? = some delivery := by
  obtain ⟨outcome, left⟩ := ended
  -- What is recorded of an operation that never waits is no failure with a delivery.
  have neverRecalls
      (records : operation.records = true)
      (receivesNothing : operation.source? = none) :
      left.recalled? ≠ some delivery := by
    have recorded := Client.lastError_of_records records ends
    have plain := (Operation.isPlain_program receivesNothing client).along ends (fun _ _ => True) []
      trivial fun _ _ _ _ _ => trivial
    have fails : FailsPlainly outcome := plain.2
    cases outcome with
    | ok value => simp [Client.recalled?, recorded, Client.failure?]
    | error error => simp [Client.recalled?, recorded, Client.failure?, fails error rfl]
  cases operation with
  | receive queue decode =>
      left
      have recorded := Client.lastError_of_records rfl ends
      cases outcome with
      | ok value => simp [Client.recalled?, recorded, Client.failure?] at recalls
      | error error =>
          change error.delivery? = some delivery
          simpa [Client.recalled?, recorded, Client.failure?] using recalls
  | registerConsumer queue =>
      have same := Client.lastError_of_registerConsumer ends
      exact .inr (.inr (by simpa [Client.recalled?, same] using recalls))
  | setLastError error =>
      obtain ⟨-, same⟩ := Program.ends_done_iff.mp ends
      cases same
      exact .inr (.inl recalls)
  | resetError =>
      obtain ⟨-, same⟩ := Program.ends_done_iff.mp ends
      cases same
      cases recalls
  | reset | ensureQueue | inspectQueue | deleteQueue | publish | close =>
      exact absurd recalls (neverRecalls rfl rfl)

/-- What a caller brings is bound. -/
def Move.BringsBound (move : Move) : Prop :=
  ∀ delivery, move.brought? = some delivery → delivery.Bound

/--
What the client of an idle party remembers is bound.  At the end of an operation it is, or the
operation hands it out.
-/
structure Party.RecallsBound (party : Party) : Prop where
  now : ∀ delivery, party.recalled? = some delivery → delivery.Bound
  ends :
    party.EndsWith fun operation ended =>
      ∀ delivery, ended.2.recalled? = some delivery →
        operation.delivered? ended.1 = some delivery ∨ delivery.Bound

/-- Nobody reads what a client remembers while it is in the middle of an operation. -/
theorem Party.RecallsBound.of_busy
    {operation : Operation}
    {standing : Standing}
    {rest : Program (Outcome operation.Value)}
    (ends :
      ∀ history ended,
        rest.Ends history ended →
          ∀ delivery, ended.2.recalled? = some delivery →
            operation.delivered? ended.1 = some delivery ∨ delivery.Bound) :
    (Party.busy operation standing rest).RecallsBound where
  now delivery recalls := by cases recalls
  ends := ends

namespace Network

variable {network : Network} {place : Nat} {delivery : Delivery}

/-! ## Deliveries from the broker -/

/-- What the broker has accepted is settled with it under its own tag. -/
theorem acknowledger_of_accepted
    {log : List Event}
    (accepted : delivery ∈ Event.accepted log) :
    delivery.acknowledger = some (.broker delivery.tag) := by
  obtain ⟨index, isMessage, rfl⟩ := List.mem_mapIdx.mp accepted
  rfl

/-- What has arrived the broker has accepted. -/
theorem accepted_of_arrival
    (balanced : ∀ queue, network.Balanced queue)
    {queue : String}
    (arrived : (place, queue, delivery) ∈ Event.arrivals network.log) :
    delivery ∈ Event.accepted network.log := by
  have atMostOnce := (balanced delivery.routingKey).atMostOnce delivery rfl
  have isGone : 0 < ((Event.arrivals network.log).map fun arrival => arrival.2.2).count delivery :=
    List.count_pos_iff.mpr (List.mem_map.mpr ⟨_, arrived, rfl⟩)
  refine List.count_pos_iff.mp ?_
  unfold goneFrom at atMostOnce
  omega

/-- What is known of the deliveries in a network: where they come from and who has them in hand. -/
def Traced (network : Network) : Prop :=
  (network.Sound ∧ ∀ queue, network.Balanced queue) ∧ network.Dealt

theorem keeps_traced : Keeps (fun _ => True) Anything Traced :=
  (keeps_sound.and (.forall keeps_balanced)).and (keeps_dealt.given _)

theorem traced_start (arbitration : Arbitration) : (start arbitration).Traced :=
  ⟨⟨sound_start arbitration, balanced_run arbitration []⟩, dealt_start arbitration⟩

/-- What a party is about to hand out is from the broker. -/
theorem Traced.acknowledger_of_delivered
    (traced : network.Traced)
    {operation : Operation}
    {standing : Standing}
    {ended : Outcome operation.Value}
    (underway : network.Underway place operation standing (.done ended))
    (delivers : operation.delivered? ended.1 = some delivery) :
    delivery.acknowledger = some (.broker delivery.tag) := by
  have concludes : operation.Concludes ended standing := underway.met
  have arrived : standing.arrival.bind Arrival.delivery? = some delivery :=
    concludes.explains.delivered.symm.trans delivers
  have awaits : ∃ queue, operation.awaited? = some queue := by
    cases operation with
    | receive queue decode => exact ⟨queue, rfl⟩
    | _ => cases delivers
  obtain ⟨queue, awaits⟩ := awaits
  have inHand : handAt network.parties place queue = [delivery] := by
    simp [handAt_of_seated underway.seated, Party.inHand, awaits, arrived]
  have toParty : delivery ∈ Event.toParty place queue (Event.arrivals network.log) := by
    rw [traced.2 place queue, inHand]
    simp
  rw [← List.count_pos_iff, Event.count_toParty, List.count_pos_iff] at toParty
  exact acknowledger_of_accepted (accepted_of_arrival traced.1.2 toParty)

/-- Between moves what was handed out is from the broker. -/
theorem Traced.acknowledger_of_handedOut
    (traced : network.Traced)
    (atRest : network.AtRest)
    {queue : String}
    (handedOut : (place, queue, delivery) ∈ Event.handedOut network.log) :
    delivery.acknowledger = some (.broker delivery.tag) := by
  have arrived := (arrivals_perm_handedOut atRest traced.2).mem_iff.mpr handedOut
  exact acknowledger_of_accepted (accepted_of_arrival traced.1.2 arrived)

/-! ## Deliveries that are remembered -/

/-- All that is remembered in a network is bound. -/
def RecallsBound (network : Network) : Prop :=
  ∀ (place : Nat) (party : Party), network.parties[place]? = some party → party.RecallsBound

/-- A party takes a place, and what it remembers is bound. -/
theorem RecallsBound.reseat
    {after : Network}
    {party : Party}
    (recallsBound : network.RecallsBound)
    (parties : after.parties = network.parties.set place party)
    (here : party.RecallsBound) :
    after.RecallsBound := by
  intro other found seated
  rw [parties] at seated
  rcases seated_set seated with ⟨-, rfl⟩ | ⟨-, wasSeated⟩
  · exact here
  · exact recallsBound other found wasSeated

/-- Who gives up a stream is not idle, and is not idle by that. -/
theorem GivesUp.recalls_nothing
    {party party' : Party}
    {stream : Stream}
    (givesUp : network.GivesUp place party stream party') :
    party'.recalled? = none := by
  have first := givesUp.first
  have sameClient := givesUp.client
  cases party' with
  | idle client =>
      cases party with
      | idle before => cases first
      | busy operation standing rest => cases givesUp.operation
      | gone streams => cases sameClient
  | busy operation standing rest => rfl
  | gone streams => rfl

/-- In all small steps what is remembered is bound, if what callers bring is. -/
theorem keeps_recallsBound : Keeps Move.BringsBound Traced RecallsBound where
  joined network connection broker client _ _ recallsBound _ unasked _ := by
    intro place party seated
    rcases seated_concat seated with wasSeated | ⟨-, rfl⟩
    · exact recallsBound place party wasSeated
    · refine ⟨fun delivery recalls => ?_, trivial⟩
      simp [Party.recalled?, Client.recalled?, unasked.lastError] at recalls
  started network place client operation _ _ recallsBound brings seated := by
    refine recallsBound.reseat rfl (.of_busy fun history ended ends delivery recalls => ?_)
    rcases operation.recalled_of_ends ends recalls with delivers | brought | recalled
    · exact .inl delivers
    · exact .inr (brings delivery brought)
    · exact .inr ((recallsBound place _ seated).now delivery recalled)
  exchanged network place operation standing request next underway _ recallsBound _ := by
    refine recallsBound.reseat (parties_exchange request next)
      (.of_busy fun history ended ends => ?_)
    exact (recallsBound place _ underway.seated).ends _ ended (.ask _ ends)
  dropped network place party stream party' givesUp _ recallsBound := by
    have before := recallsBound place party givesUp.seated
    refine recallsBound.reseat rfl ⟨fun delivery recalls => ?_, givesUp.ends _ before.ends⟩
    cases givesUp.recalls_nothing.symm.trans recalls
  finished network place operation standing ended underway traced recallsBound := by
    refine recallsBound.reseat rfl ⟨fun delivery recalls => ?_, trivial⟩
    have ends := (recallsBound place _ underway.seated).ends [] ended (.done ended)
    rcases ends delivery recalls with delivers | bound
    · intro tag isBroker
      rw [traced.acknowledger_of_delivered underway delivers] at isBroker
      cases isBroker
      rfl
    · exact bound
  leaving network place party _ _ recallsBound _ _ :=
    recallsBound.reseat rfl ⟨nofun, trivial⟩
  disturbed _ _ _ _ recallsBound _ := recallsBound

/-- A caller can get at a delivery: a receive has handed it out, or an idle client remembers it. -/
def GivesOut (network : Network) (delivery : Delivery) : Prop :=
  (∃ place queue, (place, queue, delivery) ∈ Event.handedOut network.log) ∨
    ∃ place : Nat, network.parties[place]?.bind Party.recalled? = some delivery

/-- Between moves all that callers can get at is bound. -/
theorem GivesOut.bound
    (givesOut : network.GivesOut delivery)
    (atRest : network.AtRest)
    (traced : network.Traced)
    (recallsBound : network.RecallsBound) :
    delivery.Bound := by
  rcases givesOut with ⟨place, queue, handedOut⟩ | ⟨place, recalls⟩
  · intro tag isBroker
    rw [traced.acknowledger_of_handedOut atRest handedOut] at isBroker
    cases isBroker
    rfl
  · obtain ⟨party, seated, recalled⟩ := Option.bind_eq_some_iff.mp recalls
    exact (recallsBound place party seated).now delivery recalled

/-! ## Runs -/

/-- No answer is recorded. -/
theorem records_brokerAfter (network : Network) (request : Request) :
    network.broker.Records (network.brokerAfter request) [] [] := by
  cases request with
  | transport call => exact Broker.records_perform call
  | next stream timeout =>
      dsimp only [brokerAfter]
      cases polled : network.broker.poll stream with
      | item delivery after =>
          obtain ⟨rest, -, rfl⟩ := Broker.poll_item polled
          exact .of_same rfl rfl
      | _ => exact .of_same rfl rfl
  | _ => exact .of_same rfl rfl

/-- A move that settles nothing is not recorded, whatever comes of it. -/
theorem records_of_settlement?_eq_none
    (atRest : network.AtRest)
    {move : Move}
    (settlesNothing : move.settlement? = none) :
    network.broker.Records (network.step move).broker [] [] := by
  have keeps :=
    @keeps_of_broker (fun move => move.settlement? = none) (network.broker.Records · [] [])
      (fun found request records => records.trans (records_brokerAfter found request))
      fun _ _ settlesNothing records => records.trans (Broker.records_disturb settlesNothing)
  exact (keeps.step atRest (.of_same rfl rfl) settlesNothing).2

/-- What a move has the broker record. -/
theorem records_step
    (atRest : network.AtRest)
    {move : Move}
    (brings : move.BringsBound) :
    network.broker.Records (network.step move).broker
      (move.recorded? Settlement.isAck).toList (move.recorded? Settlement.isReject).toList := by
  cases settles : move.settlement? with
  | none =>
      simp only [Move.recorded?, settles]
      exact records_of_settlement?_eq_none atRest settles
  | some settled =>
      obtain ⟨delivery, settlement⟩ := settled
      cases move with
      | disturb disturbance =>
          cases disturbance with
          | settle delivery settlement =>
              exact Broker.records_settle (brings delivery rfl) settlement
          | _ => cases settles
      | _ => cases settles

/--
A move brings only deliveries of the caller's own or such as callers have been given before.  They
may have changed what a delivery says, but not its tag and what it is settled with.
-/
def Entrusts (network : Network) (move : Move) : Prop :=
  ∀ delivery,
    move.brought? = some delivery → delivery.fromBroker = true →
      ∃ given,
        network.GivesOut given ∧ given.tag = delivery.tag ∧
          given.acknowledger = delivery.acknowledger

/-- Callers bring with each of their moves only what they have been given by then. -/
def Honest : Network → List Move → Prop
  | _, [] => True
  | network, move :: rest => network.Entrusts move ∧ (network.step move).Honest rest

theorem entrusts_of_brought?_eq_none {move : Move} (bringsNothing : move.brought? = none) :
    network.Entrusts move := by
  intro delivery brought
  cases bringsNothing.symm.trans brought

/-- What has been given out may be settled. -/
theorem GivesOut.entrusts (givesOut : network.GivesOut delivery) (settlement : Settlement) :
    network.Entrusts (.disturb (.settle delivery settlement)) := by
  rintro _ ⟨⟩ -
  exact ⟨delivery, givesOut, rfl, rfl⟩

/-- An honest caller brings what is bound. -/
theorem Entrusts.bringsBound
    {move : Move}
    (entrusts : network.Entrusts move)
    (atRest : network.AtRest)
    (traced : network.Traced)
    (recallsBound : network.RecallsBound) :
    move.BringsBound := by
  intro delivery brought
  by_cases comes : delivery.fromBroker = true
  · obtain ⟨given, givesOut, sameTag, sameAcknowledger⟩ := entrusts delivery brought comes
    have bound := givesOut.bound atRest traced recallsBound
    intro tag isBroker
    exact (bound tag (sameAcknowledger.trans isBroker)).trans sameTag
  · exact Delivery.bound_of_not_fromBroker comes

/-- What the moves of honest callers have the broker record. -/
theorem records_run
    {moves : List Move}
    (honest : network.Honest moves)
    (atRest : network.AtRest)
    (traced : network.Traced)
    (recallsBound : network.RecallsBound) :
    (network.run moves).RecallsBound ∧
      network.broker.Records (network.run moves).broker
        (moves.filterMap (Move.recorded? Settlement.isAck))
        (moves.filterMap (Move.recorded? Settlement.isReject)) := by
  induction moves generalizing network with
  | nil => exact ⟨recallsBound, .of_same rfl rfl⟩
  | cons move rest inductionHypothesis =>
      have brings := honest.1.bringsBound atRest traced recallsBound
      have keeps := (keeps_traced.restrict fun _ _ => trivial).and keeps_recallsBound
      obtain ⟨atRestThen, tracedThen, recallsThen⟩ :=
        keeps.step atRest ⟨traced, recallsBound⟩ brings
      have later := inductionHypothesis honest.2 atRestThen tracedThen recallsThen
      have first (isKept : Settlement → Bool) :
          (move :: rest).filterMap (Move.recorded? isKept) =
            (move.recorded? isKept).toList ++ rest.filterMap (Move.recorded? isKept) := by
        cases isRecorded : move.recorded? isKept <;> simp [isRecorded]
      rw [first, first]
      exact ⟨later.1, (records_step atRest brings).trans later.2⟩

/--
In every run whose callers are honest the broker has recorded the tags of the deliveries that were
acknowledged, in order, and those of the deliveries that were rejected.  No other move changes
either record, whatever happens in it.  And whatever a caller can get at, be it handed out by a
receive or by its failure, or remembered by a client, is settled under its own tag.
-/
theorem records_settlements
    (arbitration : Arbitration)
    (moves : List Move)
    (honest : (start arbitration).Honest moves) :
    let network := (start arbitration).run moves
    network.broker.acked = moves.filterMap (Move.recorded? Settlement.isAck) ∧
      network.broker.rejected = moves.filterMap (Move.recorded? Settlement.isReject) ∧
        (∀ move, move.settlement? = none →
          (network.step move).broker.acked = network.broker.acked ∧
            (network.step move).broker.rejected = network.broker.rejected) ∧
          (∀ place queue delivery,
            (place, queue, delivery) ∈ Event.handedOut network.log →
              delivery.acknowledger = some (.broker delivery.tag)) ∧
            ∀ delivery, network.GivesOut delivery → delivery.Bound := by
  intro network
  have recallsNothing : (start arbitration).RecallsBound := by
    intro place party seated
    cases seated
  obtain ⟨recallsBound, records⟩ :=
    records_run honest (by simp [AtRest, start]) (traced_start arbitration) recallsNothing
  obtain ⟨atRest, traced⟩ : network.AtRest ∧ network.Traced :=
    keeps_traced.run (by simp [AtRest, start]) (traced_start arbitration) fun _ _ => trivial
  refine ⟨records.acked, records.rejected, fun move settlesNothing => ?_, ?_, ?_⟩
  · have unrecorded := records_of_settlement?_eq_none atRest settlesNothing
    exact ⟨unrecorded.acked.trans (List.append_nil _),
      unrecorded.rejected.trans (List.append_nil _)⟩
  · exact fun place queue delivery handedOut => traced.acknowledger_of_handedOut atRest handedOut
  · exact fun delivery givesOut => givesOut.bound atRest traced recallsBound

/--
A caller takes a delivery without a body from what the client remembers and acknowledges it, and
rejects another one that could not be read.
-/
def settling : List Move :=
  [.join "worker" (.new "memory"),
    .start 0 .reset,
    .disturb (.pushRaw "jobs" []),
    .start 0 (.receive "jobs" Except.ok),
    .resume 0,
    .disturb (.settle (Broker.message 1 "jobs" .none []) .ack),
    .disturb (.pushRaw "jobs" [1]),
    .start 0 (.receive "jobs" fun _ => (.error (.decode "broken") : Except CodecError Unit)),
    .resume 0,
    .disturb (.settle (Broker.message 2 "jobs" .none [1]) (.reject false))]

theorem honest_settling : (start .byConsumerTag).Honest settling := by
  have nothing {network : Network} {move : Move} (bringsNothing : move.brought? = none) :
      network.Entrusts move :=
    entrusts_of_brought?_eq_none bringsNothing
  refine ⟨nothing rfl, nothing rfl, nothing rfl, nothing rfl, nothing rfl, ?remembered, nothing rfl,
    nothing rfl, nothing rfl, ?handedOut, trivial⟩
  case remembered =>
    refine GivesOut.entrusts (.inr ⟨0, ?_⟩) .ack
    decide +kernel
  case handedOut =>
    refine GivesOut.entrusts (.inl ⟨0, "jobs", ?_⟩) (.reject false)
    decide +kernel

/-- Both settlements are recorded under the tags of the deliveries. -/
theorem recorded_after_failures :
    (start .byConsumerTag).Honest settling ∧
      ((start .byConsumerTag).run settling).broker.acked = [1] ∧
        ((start .byConsumerTag).run settling).broker.rejected = [2] := by
  obtain ⟨acked, rejected, -⟩ := records_settlements .byConsumerTag settling honest_settling
  exact ⟨honest_settling, acked, rejected⟩

end Network

end BrokerClient
