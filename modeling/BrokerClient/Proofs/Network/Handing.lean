import BrokerClient.Proofs.Network.Holding

/-!
# From arrivals to callers

What arrives is handed out by the operation that it has arrived in, so between moves exactly what
has arrived was handed out.
-/

namespace BrokerClient

namespace Network

/-! ## Operations of parties -/

/-- All parties are busy with operations of some kind. -/
def BusyWith (kind : Nat → Operation → Prop) (network : Network) : Prop :=
  ∀ (place : Nat) (party : Party) (operation : Operation),
    network.parties[place]? = some party → party.operation? = some operation →
      kind place operation

/-- Parties are busy with what they were started with. -/
theorem keeps_busyWith (kind : Nat → Operation → Prop) :
    Keeps (fun move => ∀ place operation, move = .start place operation → kind place operation)
      Anything (BusyWith kind) where
  joined network connection broker client atRest _ before dialed unasked coherent := by
    intro place party operation seated isBusy
    rcases seated_concat seated with wasSeated | ⟨-, rfl⟩
    · exact before place party operation wasSeated isBusy
    · cases isBusy
  started network place client operation atRest _ before isAllowed seated := by
    intro other party found foundSeated isBusy
    rcases seated_set foundSeated with ⟨rfl, rfl⟩ | ⟨-, wasSeated⟩
    · obtain rfl := Option.some.inj isBusy
      exact isAllowed other operation rfl
    · exact before other party found wasSeated isBusy
  exchanged network place operation standing request next underway _ before givesNothingUp := by
    intro other party found foundSeated isBusy
    rw [parties_exchange] at foundSeated
    rcases seated_set foundSeated with ⟨rfl, rfl⟩ | ⟨-, wasSeated⟩
    · exact before other _ found underway.seated isBusy
    · exact before other party found wasSeated isBusy
  dropped network place party stream party' givesUp _ before := by
    intro other foundParty found foundSeated isBusy
    rcases seated_set foundSeated with ⟨rfl, rfl⟩ | ⟨-, wasSeated⟩
    · exact before other party found givesUp.seated (givesUp.operation ▸ isBusy)
    · exact before other foundParty found wasSeated isBusy
  finished network place operation standing ended underway _ before := by
    intro other party found foundSeated isBusy
    rcases seated_set foundSeated with ⟨rfl, rfl⟩ | ⟨-, wasSeated⟩
    · cases isBusy
    · exact before other party found wasSeated isBusy
  leaving network place party atRest _ before isAllowed seated := by
    intro other foundParty found foundSeated isBusy
    rcases seated_set foundSeated with ⟨rfl, rfl⟩ | ⟨-, wasSeated⟩
    · cases isBusy
    · exact before other foundParty found wasSeated isBusy
  disturbed network disturbance atRest _ before _ := before

/-! ## Deliveries in hand -/

/-- What the party in a place has received from a queue and not handed out yet. -/
def handAt (parties : List Party) (place : Nat) (queue : String) : List Delivery :=
  match parties[place]? with
  | some party => party.inHand queue
  | none => []

/-- What has arrived was handed out or is in hand. -/
def Dealt (network : Network) : Prop :=
  ∀ place queue,
    Event.toParty place queue (Event.arrivals network.log) =
      Event.toParty place queue (Event.handedOut network.log) ++
        handAt network.parties place queue

variable {parties : List Party} {place other : Nat} {party : Party} {queue : String}

theorem AtRest.handAt {network : Network} (atRest : network.AtRest) (place : Nat) (queue : String) :
    handAt network.parties place queue = [] := by
  unfold Network.handAt
  split
  · next party seated => exact (atRest place party seated).inHand queue
  · rfl

theorem handAt_of_seated (seated : parties[place]? = some party) :
    handAt parties place queue = party.inHand queue := by
  simp [handAt, seated]

theorem handAt_set_self (party' : Party) (seated : parties[place]? = some party) :
    handAt (parties.set place party') place queue = party'.inHand queue :=
  handAt_of_seated (List.getElem?_set_self (lt_of_seated seated))

theorem handAt_set_other (party' : Party) (differs : other ≠ place) :
    handAt (parties.set place party') other queue = handAt parties other queue := by
  simp [handAt, List.getElem?_set_ne (Ne.symm differs)]

/-- A party with the same in hand takes the place of another. -/
theorem handAt_set
    {party' : Party}
    (seated : parties[place]? = some party)
    (same : ∀ queue, party'.inHand queue = party.inHand queue) :
    handAt (parties.set place party') other queue = handAt parties other queue := by
  by_cases isPlace : other = place
  · subst isPlace
    rw [handAt_set_self party' seated, handAt_of_seated seated, same]
  · exact handAt_set_other party' isPlace

/-- A newcomer has nothing in hand. -/
theorem handAt_concat {client : Client} :
    handAt (parties ++ [.idle client]) place queue = handAt parties place queue := by
  unfold handAt
  by_cases below : place < parties.length
  · rw [List.getElem?_append_left below]
  · rw [List.getElem?_eq_none (Nat.not_lt.mp below)]
    split
    · next party seated =>
        rcases seated_concat seated with wasSeated | ⟨-, rfl⟩
        · exact absurd (lt_of_seated wasSeated) below
        · rfl
    · rfl

/-- Where nothing arrives and nothing is handed out, what is in hand stays there. -/
theorem Dealt.of_same
    {network : Network}
    (dealt : network.Dealt)
    {event : Event}
    (noArrival : event.arrival? = none)
    (notHandedOut : event.handedOut? = none)
    (same : ∀ place queue, handAt parties place queue = handAt network.parties place queue)
    (broker : Broker)
    (drawnIds : Nat) :
    Dealt ⟨broker, drawnIds, parties, network.log ++ [event]⟩ := by
  intro place queue
  simpa [Event.arrivals_concat, Event.handedOut_concat, noArrival, notHandedOut, same]
    using dealt place queue

theorem dealt_exchange
    {network : Network}
    {operation : Operation}
    {standing : Standing}
    {request : Request}
    {next : request.Answer → Program (Outcome operation.Value)}
    (underway : network.Underway place operation standing (.ask request next))
    (dealt : network.Dealt)
    (givesNothingUp : ∀ stream, request ≠ .release stream) :
    (network.exchange place operation standing request next).Dealt := by
  have turn := underway.turn givesNothingUp
  have seated := underway.seated
  rw [exchange_eq next givesNothingUp]
  have unchanged
      (noArrival :
        (Event.asked place operation ⟨request, network.answer request⟩).arrival? = none)
      (same :
        (standing.after operation ⟨request, network.answer request⟩).arrival.bind
            Arrival.delivery? =
          standing.arrival.bind Arrival.delivery?) :
      Dealt
        { broker := network.brokerAfter request
          drawnIds := network.drawnAfter request
          parties :=
            network.parties.set place
              (.busy operation (standing.after operation ⟨request, network.answer request⟩)
                (next (network.answer request)))
          log := network.log ++ [.asked place operation ⟨request, network.answer request⟩] } := by
    refine dealt.of_same noArrival rfl (fun other name => handAt_set seated fun queue => ?_) _ _
    simp only [Party.inHand, same]
  cases turn with
  | quiet tells keeps stays => exact unchanged tells.arrival (by rw [stays.arrival])
  | publishes queue properties body tells accepts stays noArrival =>
      exact unchanged tells.arrival (by rw [stays.arrival])
  | deletes queue tells isDeletion deletes streams abandoned noArrival =>
      exact unchanged tells.arrival (by rw [noArrival.1, noArrival.2])
  | consumes queue stream tells registers isSource free streams abandoned noArrival =>
      exact unchanged tells.arrival (by rw [noArrival.1, noArrival.2])
  | closes tells replaces keeps streams abandoned noArrival =>
      exact unchanged tells.arrival (by rw [noArrival.1, noArrival.2])
  | ceases queue stream arrival tells awaits isStream undelivered shape fed isBroker streams
      abandoned noArrival isArrival =>
      exact unchanged tells.arrival (by simp [noArrival, isArrival, undelivered])
  | takes queue stream delivery rest tells awaits isStream shape isBroker streams abandoned
      noArrival arrival =>
      intro other name
      have before := dealt other name
      simp only [Event.arrivals_concat, Event.handedOut_concat, Event.toParty_append,
        tells.arrival, Option.toList_some, Event.toParty_singleton, before]
      have notHandedOut :
          (Event.asked place operation ⟨request, network.answer request⟩).handedOut? = none := rfl
      rw [notHandedOut]
      by_cases isPlace : place = other
      · subst isPlace
        rw [handAt_of_seated seated, handAt_set_self _ seated]
        by_cases isQueue : queue = name
        · subst isQueue
          simp [Party.inHand, awaits, noArrival, arrival, Arrival.delivery?, Event.toParty]
        · simp [Party.inHand, awaits, isQueue, Event.toParty]
      · rw [handAt_set_other _ (Ne.symm isPlace)]
        simp [isPlace, Event.toParty]

theorem dealt_finish
    {network : Network}
    {operation : Operation}
    {standing : Standing}
    {ended : Outcome operation.Value}
    (underway : network.Underway place operation standing (.done ended))
    (dealt : network.Dealt) :
    (network.finish place operation ended).Dealt := by
  have concludes : operation.Concludes ended standing := underway.met
  have delivered := concludes.explains.delivered
  have seated := underway.seated
  intro other name
  have before := dealt other name
  simp only [finish, tell, seat, Event.arrivals_concat, Event.handedOut_concat,
    Event.toParty_append, before, Event.toParty_handedOut_finished, delivered]
  by_cases isPlace : other = place
  · subst isPlace
    rw [handAt_of_seated seated, handAt_set_self _ seated]
    by_cases isQueue : operation.awaited? = some name
    · simp [isQueue, Party.inHand, Event.arrival?, Event.toParty]
    · simp [isQueue, Party.inHand, Event.arrival?, Event.toParty]
  · rw [handAt_set_other _ isPlace]
    simp [isPlace, Event.arrival?, Event.toParty]

/-- All small steps keep the account of deliveries. -/
theorem keeps_dealt : Keeps (fun _ => True) Anything Dealt where
  joined network connection broker client atRest _ dealt dialed unasked coherent :=
    dealt.of_same rfl rfl (fun _ _ => handAt_concat) _ _
  started network place client operation atRest _ dealt _ seated := by
    intro other name
    refine (dealt other name).trans (congrArg _ (Eq.symm ?_))
    exact handAt_set seated fun queue => by simp [Party.inHand, Standing.start]
  exchanged network place operation standing request next underway _ dealt givesNothingUp :=
    dealt_exchange underway dealt givesNothingUp
  dropped network place party stream party' givesUp _ dealt :=
    dealt.of_same rfl rfl (fun _ _ => handAt_set givesUp.seated givesUp.inHand) _ _
  finished network place operation standing ended underway _ dealt := dealt_finish underway dealt
  leaving network place party atRest _ dealt _ seated := by
    refine dealt.of_same rfl rfl (fun _ _ => handAt_set seated fun queue => ?_) _ _
    rw [(atRest place party seated).inHand]
    rfl
  disturbed network disturbance atRest _ dealt _ :=
    dealt.of_same rfl rfl (fun _ _ => rfl) _ _

theorem dealt_start (arbitration : Arbitration) : (start arbitration).Dealt :=
  fun _ _ => rfl

theorem dealt_run (arbitration : Arbitration) (moves : List Move) :
    ((start arbitration).run moves).Dealt :=
  (keeps_dealt.run (by simp [AtRest, start]) (dealt_start arbitration) fun _ _ => trivial).2

/-- Between moves exactly what has arrived was handed out, and as often. -/
theorem arrivals_perm_handedOut
    {network : Network}
    (atRest : network.AtRest)
    (dealt : network.Dealt) :
    (Event.arrivals network.log).Perm (Event.handedOut network.log) := by
  refine List.perm_iff_count.mpr fun ⟨place, queue, delivery⟩ => ?_
  rw [← Event.count_toParty, ← Event.count_toParty, dealt place queue, atRest.handAt,
    List.append_nil]

end Network

end BrokerClient
