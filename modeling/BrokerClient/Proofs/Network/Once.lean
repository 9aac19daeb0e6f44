import BrokerClient.Proofs.Network.Conservation

/-!
# No message is handed out twice

A delivery that arrives comes from the stream of the queue that is received from, and what waits in
that stream is addressed to the queue.  As a message is in one place only, once, it cannot arrive
again after it has left that place, whoever else receives from the queue.
-/

namespace BrokerClient

namespace Network

/-- What has arrived was addressed to the queue that it was received from. -/
def Addressed (network : Network) : Prop :=
  ∀ place queue delivery,
    (place, queue, delivery) ∈ Event.arrivals network.log → delivery.routingKey = queue

variable {network : Network}

/-- An event that tells of no arrival changes nothing about them. -/
theorem Addressed.of_none
    (addressed : network.Addressed)
    {event : Event}
    (noArrival : event.arrival? = none)
    (broker : Broker)
    (drawnIds : Nat)
    (parties : List Party) :
    Addressed ⟨broker, drawnIds, parties, network.log ++ [event]⟩ := by
  intro place queue delivery member
  rw [Event.arrivals_concat, noArrival, Option.toList_none, List.append_nil] at member
  exact addressed place queue delivery member

theorem addressed_exchange
    {place : Nat}
    {operation : Operation}
    {standing : Standing}
    {request : Request}
    {next : request.Answer → Program (Outcome operation.Value)}
    (underway : network.Underway place operation standing (.ask request next))
    (sound : network.Sound)
    (addressed : network.Addressed)
    (givesNothingUp : ∀ stream, request ≠ .release stream) :
    (network.exchange place operation standing request next).Addressed := by
  have turn := underway.turn givesNothingUp
  rw [exchange_eq next givesNothingUp]
  cases turn with
  | quiet tells keeps stays => exact addressed.of_none tells.arrival _ _ _
  | publishes name properties body tells accepts stays noArrival =>
      exact addressed.of_none tells.arrival _ _ _
  | deletes name tells isDeletion deletes streams abandoned noArrival =>
      exact addressed.of_none tells.arrival _ _ _
  | consumes name stream tells registers isSource free streams abandoned noArrival =>
      exact addressed.of_none tells.arrival _ _ _
  | closes tells replaces keeps streams abandoned noArrival =>
      exact addressed.of_none tells.arrival _ _ _
  | ceases name stream arrival tells awaits isStream undelivered shape fed isBroker streams
      abandoned noArrival isArrival =>
      exact addressed.of_none tells.arrival _ _ _
  | takes name stream taken rest tells awaits isStream shape isBroker streams abandoned noArrival
      arrival =>
      have opened := (sound.holding.held_of_busy underway.seated isStream).1
      have isFirst : taken ∈ network.broker.buffer stream := by simp [shape]
      intro receiver queue delivery member
      rw [Event.arrivals_concat, tells.arrival] at member
      rcases List.mem_append.mp member with arrived | isLast
      · exact addressed receiver queue delivery arrived
      · cases List.mem_singleton.mp isLast
        exact sound.holding.buffered stream place name opened taken isFirst

/-- All small steps keep arrivals addressed to where they were received. -/
theorem keeps_addressed : Keeps (fun _ => True) Sound Addressed where
  joined _ _ _ _ _ _ addressed _ _ _ := addressed.of_none rfl _ _ _
  started _ _ _ _ _ _ addressed _ _ := addressed
  exchanged _ _ _ _ _ _ underway sound addressed givesNothingUp :=
    addressed_exchange underway sound addressed givesNothingUp
  dropped _ _ _ _ _ _ _ addressed := addressed.of_none rfl _ _ _
  finished _ _ _ _ _ _ _ addressed := addressed.of_none rfl _ _ _
  leaving _ _ _ _ _ addressed _ _ := addressed.of_none rfl _ _ _
  disturbed _ _ _ _ addressed _ := addressed.of_none rfl _ _ _

theorem addressed_run (arbitration : Arbitration) (moves : List Move) :
    ((start arbitration).run moves).Addressed := by
  have keeps := keeps_sound.and keeps_addressed
  refine (keeps.run (by simp [AtRest, start]) ⟨sound_start arbitration, ?_⟩ fun _ _ => trivial).2.2
  intro place queue delivery member
  cases member

/-- No message has arrived more often than it was accepted. -/
theorem count_arrivals_le_count_accepted
    (arbitration : Arbitration)
    (moves : List Move)
    (delivery : Delivery) :
    ((Event.arrivals ((start arbitration).run moves).log).map fun entry => entry.2.2).count
        delivery ≤
      (Event.accepted ((start arbitration).run moves).log).count delivery := by
  have balanced := balanced_run arbitration moves delivery.routingKey
  have atMostOnce := balanced.atMostOnce delivery rfl
  unfold goneFrom at atMostOnce
  omega

/--
In a run with any number of parties, whatever they do and whatever happens to the broker, each
message that the broker accepted is handed out once at most, and only by a receive from the queue
that it was accepted for, with the properties and the body that it was accepted with.
-/
theorem handed_out_once (arbitration : Arbitration) (moves : List Move) :
    ((Event.handedOut ((start arbitration).run moves).log).map fun entry => entry.2.2).Nodup ∧
      ∀ place queue delivery,
        (place, queue, delivery) ∈ Event.handedOut ((start arbitration).run moves).log →
          delivery ∈ Event.acceptedFor queue ((start arbitration).run moves).log := by
  have handing :=
    arrivals_perm_handedOut (sound_run arbitration moves).1 (dealt_run arbitration moves)
  have counted := count_arrivals_le_count_accepted arbitration moves
  constructor
  · rw [← (handing.map _).nodup_iff, List.nodup_iff_count_le_one]
    intro delivery
    exact Nat.le_trans (counted delivery)
      (List.nodup_iff_count_le_one.mp (Event.nodup_accepted _) delivery)
  · intro place queue delivery member
    have arrived := handing.mem_iff.mpr member
    have isQueue := addressed_run arbitration moves place queue delivery arrived
    have isArrival :
        delivery ∈
          (Event.arrivals ((start arbitration).run moves).log).map fun entry => entry.2.2 :=
      List.mem_map.mpr ⟨_, arrived, rfl⟩
    have isAccepted : delivery ∈ Event.accepted ((start arbitration).run moves).log :=
      List.count_pos_iff.mp
        (Nat.lt_of_lt_of_le (List.count_pos_iff.mpr isArrival) (counted delivery))
    exact List.mem_filter.mpr ⟨isAccepted, by simpa using isQueue⟩

end Network

end BrokerClient
