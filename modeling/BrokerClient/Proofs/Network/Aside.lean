import BrokerClient.Proofs.Network.Clock
import BrokerClient.Proofs.Network.Holding
import BrokerClient.Proofs.Network.Service

/-!
# While a party waits

What others do has nothing to do with the party that sits in a place: whether it waits in the middle
of an operation or is idle makes no difference to them.  So what is known of the neighbours of an
idle party is known of those of one that waits, and what no neighbour spoils endures until the wait
is over.
-/

namespace BrokerClient

namespace Network

variable {network : Network} {place other : Nat} {party : Party} {client : Client}

/-! ## Others do not look at the party in a place -/

theorem answer_seat (network : Network) (place : Nat) (party : Party) (request : Request) :
    (network.seat place party).answer request = network.answer request := by
  cases request <;> rfl

theorem exchange_seat
    {operation : Operation}
    (differs : other ≠ place)
    (party : Party)
    (standing : Standing)
    (request : Request)
    (next : request.Answer → Program (Outcome operation.Value)) :
    (network.seat place party).exchange other operation standing request next =
      (network.exchange other operation standing request next).seat place party := by
  have swap (busy : Party) :
      (network.parties.set place party).set other busy =
        (network.parties.set other busy).set place party :=
    List.set_comm _ _ (Ne.symm differs)
  cases request <;> simp only [exchange, dropStream, seat, swap] <;> rfl

theorem proceed_seat
    {operation : Operation}
    {program : Program (Outcome operation.Value)}
    {standing : Standing}
    (differs : other ≠ place)
    (party : Party) :
    (network.seat place party).proceed other operation program standing =
      (network.proceed other operation program standing).seat place party := by
  induction program generalizing network standing with
  | done ended => simp only [proceed, finish, seat, tell, List.set_comm _ _ (Ne.symm differs)]
  | ask request next inductionHypothesis =>
      by_cases waits : request.waits = true
      · rw [proceed_of_waits waits, proceed_of_waits waits]
      · rw [proceed_of_not_waits waits, proceed_of_not_waits waits, answer_seat,
          exchange_seat differs, inductionHypothesis]

theorem giveUp_seat (streams : List Stream) (differs : other ≠ place) (party : Party) :
    (network.seat place party).giveUp other streams =
      (network.giveUp other streams).seat place party := by
  induction streams generalizing network with
  | nil => rfl
  | cons stream rest inductionHypothesis =>
      have dropped :
          (network.seat place party).dropStream other stream (.gone rest) =
            (network.dropStream other stream (.gone rest)).seat place party := by
        simp only [dropStream, seat, List.set_comm _ _ (Ne.symm differs)]
      rw [giveUp, giveUp, dropped, inductionHypothesis]

/-- The moves of others come to the same whoever sits in a place. -/
theorem step_seat
    {move : Move}
    (taken : place < network.parties.length)
    (elsewhere : move.IsElsewhere place)
    (notOwn : move ≠ .resume place)
    (party : Party) :
    (network.seat place party).step move = (network.step move).seat place party := by
  have others (other : Nat) (differs : other ≠ place) :
      (network.seat place party).parties[other]? = network.parties[other]? :=
    List.getElem?_set_ne (Ne.symm differs)
  cases move with
  | join consumerId endpoint =>
      dsimp only [step, seat]
      split
      · rw [List.set_append_left _ _ taken]
      · rfl
  | start other operation =>
      have differs : other ≠ place := elsewhere
      simp only [step, others other differs]
      split
      · rw [← proceed_seat differs]
        simp only [seat, List.set_comm _ _ (Ne.symm differs)]
      · rfl
  | resume other =>
      have differs : other ≠ place := fun same => notOwn (congrArg Move.resume same)
      simp only [step, others other differs]
      split
      · rw [answer_seat, exchange_seat differs, proceed_seat differs]
      · rfl
  | leave other =>
      have differs : other ≠ place := elsewhere
      simp only [step, others other differs]
      split
      · rw [← giveUp_seat _ differs]
        simp only [seat, tell, List.set_comm _ _ (Ne.symm differs)]
      · rfl
  | disturb disturbance => rfl

/-! ## What endures -/

/--
Something about the broker that nobody spoils but the party in a place, which is idle, and whoever
does something harmful.
-/
structure Endures
    (place : Nat)
    (client : Client)
    (harmless : Event → Prop)
    (known : Network → Prop)
    (holds : Broker → Prop) : Prop where
  kept : ∀ broker after : Broker, broker.KeepsMessages after → holds broker → holds after
  accepted :
    ∀ (broker after : Broker) delivery,
      broker.Accepts after delivery → holds broker → holds after
  deleted :
    ∀ (broker after : Broker) event queue,
      harmless event → event.deletion? = some queue → broker.Deletes after queue →
        holds broker → holds after
  registered :
    ∀ (broker after : Broker) event other queue tag stream,
      harmless event → event.registration? = some (other, queue) → other ≠ place →
        broker.Registers after queue tag stream → holds broker → holds after
  taken :
    ∀ (network : Network) other party queue stream rest,
      known network → network.parties[place]? = some (.idle client) →
        other ≠ place → network.parties[other]? = some party → party.Holds queue stream →
          holds network.broker →
            holds (network.broker.modifyFeed stream fun feed => { feed with buffer := rest })
  released :
    ∀ (network : Network) other party stream,
      known network → network.parties[place]? = some (.idle client) →
        other ≠ place → network.parties[other]? = some party → stream ∈ party.abandoned →
          holds network.broker → holds (network.broker.release stream)

/-- The party in a place stays idle, and something holds as long as all that is told is harmless. -/
structure StandsBy
    (place : Nat)
    (client : Client)
    (before : List Event)
    (harmless : Event → Prop)
    (holds : Broker → Prop)
    (network : Network) : Prop where
  idle : network.parties[place]? = some (.idle client)
  told :
    ∃ told,
      network.log = before ++ told ∧ Event.calls place told = [] ∧
        ((∀ event ∈ told, harmless event) → holds network.broker)

section

variable {before : List Event} {harmless : Event → Prop} {known : Network → Prop}
variable {holds : Broker → Prop} {after : Network}

/-- Something is told that is no call of the party in a place. -/
theorem StandsBy.tell
    (stands : StandsBy place client before harmless holds network)
    {event : Event}
    (parties : after.parties[place]? = network.parties[place]?)
    (log : after.log = network.log ++ [event])
    (noCall : event.call? place = none)
    (goesOn : harmless event → holds network.broker → holds after.broker) :
    StandsBy place client before harmless holds after where
  idle := parties.trans stands.idle
  told := by
    obtain ⟨told, isLog, noCalls, keeps⟩ := stands.told
    refine ⟨told ++ [event], by rw [log, isLog, List.append_assoc], ?_, fun harms => ?_⟩
    · rw [Event.calls_append, noCalls]
      simp [Event.calls, noCall]
    · obtain ⟨harmsBefore, harmsLast⟩ := Event.forall_of_concat harms
      exact goesOn harmsLast (keeps harmsBefore)

/-- The exchanges of others let endure what endures. -/
theorem Endures.answered
    (endures : Endures place client harmless known holds)
    {operation : Operation}
    {standing : Standing}
    {request : Request}
    {next : request.Answer → Program (Outcome operation.Value)}
    (underway : network.Underway other operation standing (.ask request next))
    (isKnown : known network)
    (idle : network.parties[place]? = some (.idle client))
    (differs : other ≠ place)
    (givesNothingUp : ∀ stream, request ≠ .release stream)
    (harms : harmless (.asked other operation ⟨request, network.answer request⟩))
    (before : holds network.broker) :
    holds (network.brokerAfter request) := by
  have turn := underway.turn givesNothingUp
  cases turn with
  | quiet tells keeps stays => exact endures.kept _ _ keeps before
  | publishes queue properties body tells accepts stays noArrival =>
      exact endures.accepted _ _ _ accepts before
  | deletes queue tells isDeletion deletes streams abandoned noArrival =>
      exact endures.deleted _ _ _ queue harms isDeletion deletes before
  | consumes queue stream tells registers isSource free streams abandoned noArrival =>
      exact endures.registered _ _ _ other queue _ stream harms tells.registration differs registers
        before
  | closes tells replaces keeps streams abandoned noArrival => exact endures.kept _ _ keeps before
  | takes queue stream delivery rest tells awaits isStream shape isBroker =>
      rw [isBroker]
      exact endures.taken network other _ queue stream rest isKnown idle differs underway.seated
        (Party.holds_busy_iff.mpr isStream) before
  | ceases queue stream arrival tells awaits isStream undelivered shape fed isBroker =>
      rw [isBroker]
      exact before

/-- In all small steps of others a party stands by, and what endures does so. -/
theorem Endures.keeps
    (endures : Endures place client harmless known holds)
    (before : List Event) :
    Keeps (Move.IsElsewhere place) known (StandsBy place client before harmless holds) where
  joined network connection broker newcomer _ _ stands dialed _ _ := by
    apply stands.tell _ rfl rfl
    · exact fun _ => endures.kept _ _ (Broker.keepsMessages_dial dialed)
    · exact List.getElem?_append_left (lt_of_seated stands.idle)
  started network other starter operation _ _ stands elsewhere _ :=
    ⟨(List.getElem?_set_ne elsewhere).trans stands.idle, stands.told⟩
  exchanged network other operation standing request next underway isKnown stands
      givesNothingUp := by
    have differs : other ≠ place := by
      rintro rfl
      cases stands.idle.symm.trans underway.seated
    rw [exchange_eq next givesNothingUp]
    apply stands.tell (List.getElem?_set_ne differs) rfl
      (Event.call?_asked_of_ne differs operation _)
    exact endures.answered underway isKnown stands.idle differs givesNothingUp
  dropped network other party stream party' givesUp isKnown stands := by
    have differs : other ≠ place := by
      rintro rfl
      obtain rfl : party = .idle client := Option.some.inj (givesUp.seated.symm.trans stands.idle)
      cases givesUp.first
    apply stands.tell (List.getElem?_set_ne differs) rfl rfl
    intro _
    exact endures.released network other party stream isKnown stands.idle differs givesUp.seated
      (by simp [givesUp.first])
  finished network other operation standing ended underway _ stands := by
    have differs : other ≠ place := by
      rintro rfl
      cases stands.idle.symm.trans underway.seated
    exact stands.tell (List.getElem?_set_ne differs) rfl rfl fun _ => id
  leaving network other party _ _ stands elsewhere _ :=
    stands.tell (List.getElem?_set_ne elsewhere) rfl rfl fun _ => id
  disturbed network disturbance _ _ stands _ := by
    have goesOn : holds network.broker → holds (network.broker.disturb disturbance) := by
      rcases network.broker.disturb_cases disturbance with
        ⟨keeps, -⟩ | ⟨queue, properties, body, -, accepts⟩
      · exact endures.kept _ _ keeps
      · exact endures.accepted _ _ _ accepts
    exact stands.tell rfl rfl rfl fun _ => goesOn

/--
What a party in a place that waits is left with by a move of others: it still waits, it has called
nothing, and what endures has done so if nothing harmful was told.  What is known with an idle party
in its place is known still.
-/
theorem Endures.step
    (endures : Endures place client harmless known holds)
    (keepsKnown : Keeps (Move.IsElsewhere place) Anything known)
    (seated : network.parties[place]? = some party)
    (atRest : (network.seat place (.idle client)).AtRest)
    (isKnown : known (network.seat place (.idle client)))
    (before : holds network.broker)
    {move : Move}
    (elsewhere : move.IsElsewhere place)
    (notOwn : move ≠ .resume place) :
    (network.step move).parties[place]? = some party ∧
      ((network.step move).seat place (.idle client)).AtRest ∧
        known ((network.step move).seat place (.idle client)) ∧
          ∃ told,
            (network.step move).log = network.log ++ told ∧ Event.calls place told = [] ∧
              ((∀ event ∈ told, harmless event) → holds (network.step move).broker) := by
  have taken := lt_of_seated seated
  have stands :
      StandsBy place client network.log harmless holds (network.seat place (.idle client)) :=
    ⟨List.getElem?_set_self taken, [], (List.append_nil _).symm, rfl, fun _ => before⟩
  obtain ⟨atRestThen, knownThen, standsThen⟩ :=
    (keepsKnown.and (endures.keeps network.log)).step atRest ⟨isKnown, stands⟩ elsewhere
  have same := fun party => step_seat taken elsewhere notOwn party
  rw [same] at atRestThen knownThen standsThen
  have stays : (network.step move).parties[place]? = some party := by
    have unchanged : network.seat place party = network := by
      obtain ⟨below, isParty⟩ := List.getElem?_eq_some_iff.mp seated
      rw [seat, ← isParty, List.set_getElem_self below]
    have stillTaken : place < (network.step move).parties.length := by
      have idleThen := lt_of_seated standsThen.idle
      simpa [seat] using idleThen
    rw [← unchanged, same, seat, List.getElem?_set_self stillTaken]
  exact ⟨stays, atRestThen, knownThen, standsThen.told⟩

end

end Network

end BrokerClient
