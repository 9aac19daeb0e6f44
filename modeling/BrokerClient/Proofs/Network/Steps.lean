import BrokerClient.Proofs.Network.Run

/-!
# What is kept along a run

A move is made of small steps: exchanges of one party while the others wait, the beginnings and the
ends of operations, streams that are given up.  What each small step keeps is kept along every run,
and at the end of every move all parties are at rest.
-/

namespace BrokerClient

/-- Nothing has been asked of a client yet: it has a connection, and nothing has failed. -/
structure Client.Unasked (client : Client) (connection : Connection) : Prop where
  connection : client.connection = connection
  channel : client.channel = none
  lastError : client.lastError = none

namespace Party

/-- A party is idle, waits, or has given up all that it had. -/
inductive Rests : Party → Prop where
  | idle {client : Client} (coherent : client.Coherent) : Rests (.idle client)
  | waits
      {operation : Operation}
      {standing : Standing}
      {request : Request}
      {next : request.Answer → Program (Outcome operation.Value)}
      (coherent : standing.client.Coherent)
      (met : (Program.ask request next).Meets operation.monitor operation.Concludes standing)
      (waits : request.waits = true) :
      Rests (.busy operation standing (.ask request next))
  | gone : Rests (.gone [])

theorem Rests.abandoned {party : Party} (rests : party.Rests) : party.abandoned = [] := by
  cases rests with
  | idle coherent => rfl
  | gone => rfl
  | @waits operation standing request next coherent met waits =>
      have permitted : standing.Permits operation request := met.1
      cases request with
      | sleep duration => exact permitted.1
      | next stream timeout => exact permitted.1
      | _ => cases waits

theorem Rests.coherent
    {party : Party}
    {client : Client}
    (rests : party.Rests)
    (isClient : party.client? = some client) :
    client.Coherent := by
  cases rests with
  | idle coherent => exact Option.some.inj isClient ▸ coherent
  | waits coherent met waits => exact Option.some.inj isClient ▸ coherent
  | gone => cases isClient

/-- What a party has received from a queue and not handed out yet. -/
def inHand (queue : String) : Party → List Delivery
  | .busy operation standing _ =>
      if operation.awaited? = some queue then
        (standing.arrival.bind Arrival.delivery?).toList
      else
        []
  | _ => []

/-- However a party may end the operation that it is in the middle of, the end fits. -/
def EndsWith (fits : (operation : Operation) → Outcome operation.Value → Prop) : Party → Prop
  | .busy operation _ rest => ∀ history ended, rest.Ends history ended → fits operation ended
  | _ => True

/-- The end of a wait that a party is in the middle of dealing with. -/
def arrival? : Party → Option Arrival
  | .busy _ standing _ => standing.arrival
  | _ => none

theorem Rests.arrival? {party : Party} (rests : party.Rests) : party.arrival? = none := by
  cases rests with
  | idle coherent => rfl
  | gone => rfl
  | @waits operation standing request next coherent met waits =>
      have permitted : standing.Permits operation request := met.1
      cases request with
      | sleep duration => exact permitted.2
      | next stream timeout => exact permitted.2.1
      | _ => cases waits

theorem Rests.inHand {party : Party} (rests : party.Rests) (queue : String) :
    party.inHand queue = [] := by
  have noArrival := rests.arrival?
  cases rests with
  | idle coherent => rfl
  | gone => rfl
  | @waits operation standing request next coherent met waits =>
      have absent : standing.arrival = none := noArrival
      simp [Party.inHand, absent]

end Party

/-- A party gives a stream up, in the middle of an operation or after it has let its client go. -/
inductive Party.Drops (stream : Stream) : Party → Party → Prop where
  | busy
      {operation : Operation}
      {standing : Standing}
      {next : Unit → Program (Outcome operation.Value)} :
      Drops stream (.busy operation standing (.ask (.release stream) next))
        (.busy operation (standing.after operation ⟨.release stream, ()⟩) (next ()))
  | gone {rest : List Stream} : Drops stream (.gone (stream :: rest)) (.gone rest)

namespace Network

/-- All parties are at rest. -/
def AtRest (network : Network) : Prop :=
  ∀ (place : Nat) (party : Party), network.parties[place]? = some party → party.Rests

/-- All parties but one are at rest. -/
def RestsBut (network : Network) (place : Nat) : Prop :=
  ∀ (other : Nat) (party : Party),
    other ≠ place → network.parties[other]? = some party → party.Rests

/-- A party is in the middle of an operation, with a part of its program ahead. -/
structure Underway
    (network : Network)
    (place : Nat)
    (operation : Operation)
    (standing : Standing)
    (rest : Program (Outcome operation.Value)) : Prop where
  seated : network.parties[place]? = some (.busy operation standing rest)
  othersRest : network.RestsBut place
  coherent : standing.client.Coherent
  met : rest.Meets operation.monitor operation.Concludes standing

/-- A party is about to give up a stream before others. -/
structure GivesUp
    (network : Network)
    (place : Nat)
    (party : Party)
    (stream : Stream)
    (party' : Party) : Prop where
  seated : network.parties[place]? = some party
  othersRest : network.RestsBut place
  first : party.abandoned = stream :: party'.abandoned
  client : party'.client? = party.client?
  operation : party'.operation? = party.operation?
  arrival : party'.arrival? = party.arrival?
  inHand : ∀ queue, party'.inHand queue = party.inHand queue
  ends : ∀ fits, party.EndsWith fits → party'.EndsWith fits
  drops : party.Drops stream party'

/--
A statement about networks is kept by every small step of the moves that are allowed, where another
one is known to hold.
-/
structure Keeps (allowed : Move → Prop) (known holds : Network → Prop) : Prop where
  joined :
    ∀ network connection broker client,
      network.AtRest → known network → holds network →
        network.broker.dial = (.ok connection, broker) →
          client.Unasked connection → client.Coherent →
            holds
              { network with
                broker := broker
                parties := network.parties ++ [.idle client]
                log := network.log ++ [.joined connection] }
  started :
    ∀ network place client operation,
      network.AtRest → known network → holds network → allowed (.start place operation) →
        network.parties[place]? = some (.idle client) →
          holds
            (network.seat place (.busy operation (.start client) (operation.program client)))
  exchanged :
    ∀ network place operation standing request next,
      network.Underway place operation standing (.ask request next) →
        known network → holds network → (∀ stream, request ≠ .release stream) →
          holds (network.exchange place operation standing request next)
  dropped :
    ∀ network place party stream party',
      network.GivesUp place party stream party' → known network → holds network →
        holds (network.dropStream place stream party')
  finished :
    ∀ network place operation standing ended,
      network.Underway place operation standing (.done ended) →
        known network → holds network → holds (network.finish place operation ended)
  leaving :
    ∀ network place party,
      network.AtRest → known network → holds network → allowed (.leave place) →
        network.parties[place]? = some party →
          holds ((network.tell (.leaving place)).seat place (.gone party.streams))
  disturbed :
    ∀ network disturbance,
      network.AtRest → known network → holds network → allowed (.disturb disturbance) →
        holds
          { network with
            broker := network.broker.disturb disturbance
            log := network.log ++ [.disturbed disturbance] }

/-- What is true of all networks. -/
def Anything (_ : Network) : Prop :=
  True

/-- More may be known. -/
theorem Keeps.assuming
    {allowed : Move → Prop}
    {known more holds : Network → Prop}
    (keeps : Keeps allowed known holds)
    (implies : ∀ network, more network → known network) :
    Keeps allowed more holds where
  joined _ _ _ _ atRest isKnown := keeps.joined _ _ _ _ atRest (implies _ isKnown)
  started _ _ _ _ atRest isKnown := keeps.started _ _ _ _ atRest (implies _ isKnown)
  exchanged _ _ _ _ _ _ underway isKnown :=
    keeps.exchanged _ _ _ _ _ _ underway (implies _ isKnown)
  dropped _ _ _ _ _ givesUp isKnown := keeps.dropped _ _ _ _ _ givesUp (implies _ isKnown)
  finished _ _ _ _ _ underway isKnown := keeps.finished _ _ _ _ _ underway (implies _ isKnown)
  leaving _ _ _ atRest isKnown := keeps.leaving _ _ _ atRest (implies _ isKnown)
  disturbed _ _ atRest isKnown := keeps.disturbed _ _ atRest (implies _ isKnown)

/-- What is kept in any case is kept where something is known. -/
theorem Keeps.given
    {allowed : Move → Prop}
    {holds : Network → Prop}
    (keeps : Keeps allowed Anything holds)
    (known : Network → Prop) :
    Keeps allowed known holds :=
  keeps.assuming fun _ _ => trivial

/-- What is kept where something else is known is kept together with it. -/
theorem Keeps.and
    {allowed : Move → Prop}
    {known holds : Network → Prop}
    (keepsKnown : Keeps allowed Anything known)
    (keeps : Keeps allowed known holds) :
    Keeps allowed Anything fun network => known network ∧ holds network where
  joined network connection broker client atRest _ before dialed unasked coherent :=
    ⟨keepsKnown.joined network connection broker client atRest trivial before.1 dialed unasked
        coherent,
      keeps.joined network connection broker client atRest before.1 before.2 dialed unasked
        coherent⟩
  started network place client operation atRest _ before isAllowed seated :=
    ⟨keepsKnown.started network place client operation atRest trivial before.1 isAllowed seated,
      keeps.started network place client operation atRest before.1 before.2 isAllowed seated⟩
  exchanged network place operation standing request next underway _ before givesNothingUp :=
    ⟨keepsKnown.exchanged network place operation standing request next underway trivial before.1
        givesNothingUp,
      keeps.exchanged network place operation standing request next underway before.1 before.2
        givesNothingUp⟩
  dropped network place party stream party' givesUp _ before :=
    ⟨keepsKnown.dropped network place party stream party' givesUp trivial before.1,
      keeps.dropped network place party stream party' givesUp before.1 before.2⟩
  finished network place operation standing ended underway _ before :=
    ⟨keepsKnown.finished network place operation standing ended underway trivial before.1,
      keeps.finished network place operation standing ended underway before.1 before.2⟩
  leaving network place party atRest _ before isAllowed seated :=
    ⟨keepsKnown.leaving network place party atRest trivial before.1 isAllowed seated,
      keeps.leaving network place party atRest before.1 before.2 isAllowed seated⟩
  disturbed network disturbance atRest _ before isAllowed :=
    ⟨keepsKnown.disturbed network disturbance atRest trivial before.1 isAllowed,
      keeps.disturbed network disturbance atRest before.1 before.2 isAllowed⟩

/-- A statement about networks that is kept for each index is kept for all of them. -/
theorem Keeps.forall
    {ι : Type}
    {allowed : Move → Prop}
    {known : Network → Prop}
    {holds : ι → Network → Prop}
    (keeps : ∀ index, Keeps allowed known (holds index)) :
    Keeps allowed known fun network => ∀ index, holds index network where
  joined _ _ _ _ atRest isKnown before dialed unasked coherent index :=
    (keeps index).joined _ _ _ _ atRest isKnown (before index) dialed unasked coherent
  started _ _ _ _ atRest isKnown before isAllowed seated index :=
    (keeps index).started _ _ _ _ atRest isKnown (before index) isAllowed seated
  exchanged _ _ _ _ _ _ underway isKnown before givesNothingUp index :=
    (keeps index).exchanged _ _ _ _ _ _ underway isKnown (before index) givesNothingUp
  dropped _ _ _ _ _ givesUp isKnown before index :=
    (keeps index).dropped _ _ _ _ _ givesUp isKnown (before index)
  finished _ _ _ _ _ underway isKnown before index :=
    (keeps index).finished _ _ _ _ _ underway isKnown (before index)
  leaving _ _ _ atRest isKnown before isAllowed seated index :=
    (keeps index).leaving _ _ _ atRest isKnown (before index) isAllowed seated
  disturbed _ _ atRest isKnown before isAllowed index :=
    (keeps index).disturbed _ _ atRest isKnown (before index) isAllowed

/-- Fewer moves may be allowed. -/
theorem Keeps.restrict
    {allowed narrower : Move → Prop}
    {known holds : Network → Prop}
    (keeps : Keeps allowed known holds)
    (restricts : ∀ move, narrower move → allowed move) :
    Keeps narrower known holds where
  joined := keeps.joined
  started network place client operation atRest isKnown before isAllowed seated :=
    keeps.started network place client operation atRest isKnown before (restricts _ isAllowed)
      seated
  exchanged := keeps.exchanged
  dropped := keeps.dropped
  finished := keeps.finished
  leaving network place party atRest isKnown before isAllowed seated :=
    keeps.leaving network place party atRest isKnown before (restricts _ isAllowed) seated
  disturbed network disturbance atRest isKnown before isAllowed :=
    keeps.disturbed network disturbance atRest isKnown before (restricts _ isAllowed)

section

variable {network : Network} {place : Nat} {operation : Operation} {standing : Standing}

theorem lt_of_seated
    {parties : List Party}
    {party : Party}
    (seated : parties[place]? = some party) :
    place < parties.length :=
  (List.getElem?_eq_some_iff.mp seated).1

theorem seated_concat
    {parties : List Party}
    {party found : Party}
    (seated : (parties ++ [party])[place]? = some found) :
    parties[place]? = some found ∨ place = parties.length ∧ found = party := by
  rw [List.getElem?_append] at seated
  split at seated
  · exact .inl seated
  · next beyond =>
      obtain ⟨isLast, isParty⟩ := List.getElem?_eq_some_iff.mp seated
      simp only [List.length_singleton, Nat.lt_one_iff] at isLast
      refine .inr ⟨?_, ?_⟩
      · exact Nat.le_antisymm (Nat.sub_eq_zero_iff_le.mp isLast) (Nat.not_lt.mp beyond)
      · simpa using isParty.symm

theorem seated_set
    {parties : List Party}
    {party found : Party}
    {other : Nat}
    (seated : (parties.set place party)[other]? = some found) :
    other = place ∧ found = party ∨ other ≠ place ∧ parties[other]? = some found := by
  by_cases same : other = place
  · subst same
    simp only [List.getElem?_set, if_true] at seated
    split at seated
    · exact .inl ⟨rfl, (Option.some.inj seated).symm⟩
    · cases seated
  · rw [List.getElem?_set_ne (Ne.symm same)] at seated
    exact .inr ⟨same, seated⟩

/-- What is true of a party that takes a place and of all others is true of all. -/
theorem forall_seated_set
    {parties : List Party}
    {party : Party}
    {holds : Nat → Party → Prop}
    (here : holds place party)
    (there : ∀ other found, other ≠ place → parties[other]? = some found → holds other found)
    (other : Nat)
    (found : Party)
    (seated : (parties.set place party)[other]? = some found) :
    holds other found := by
  rcases seated_set seated with ⟨rfl, rfl⟩ | ⟨differs, wasSeated⟩
  · exact here
  · exact there other found differs wasSeated

@[simp] theorem parties_exchange
    (request : Request)
    (next : request.Answer → Program (Outcome operation.Value)) :
    (network.exchange place operation standing request next).parties =
      network.parties.set place
        (.busy operation
          (standing.after operation ⟨request, network.answer request⟩)
          (next (network.answer request))) := by
  cases request <;> rfl

/-- What an exchange does that gives no stream up. -/
theorem exchange_eq
    {request : Request}
    (next : request.Answer → Program (Outcome operation.Value))
    (givesNothingUp : ∀ stream, request ≠ .release stream) :
    network.exchange place operation standing request next =
      { broker := network.brokerAfter request
        drawnIds := network.drawnAfter request
        parties :=
          network.parties.set place
            (.busy operation
              (standing.after operation ⟨request, network.answer request⟩)
              (next (network.answer request)))
        log := network.log ++ [.asked place operation ⟨request, network.answer request⟩] } := by
  cases request with
  | release stream => exact absurd rfl (givesNothingUp stream)
  | _ => rfl

theorem run_append (network : Network) (first second : List Move) :
    network.run (first ++ second) = (network.run first).run second :=
  List.foldl_append

/-- Up to its next wait a party does not go on. -/
theorem proceed_of_waits
    {request : Request}
    {next : request.Answer → Program (Outcome operation.Value)}
    (waits : request.waits = true) :
    network.proceed place operation (.ask request next) standing = network := by
  rw [proceed, if_pos waits]

theorem proceed_of_not_waits
    {request : Request}
    {next : request.Answer → Program (Outcome operation.Value)}
    (goesOn : ¬ request.waits = true) :
    network.proceed place operation (.ask request next) standing =
      (network.exchange place operation standing request next).proceed place operation
        (next (network.answer request))
        (standing.after operation ⟨request, network.answer request⟩) := by
  rw [proceed, if_neg goesOn]

/-- A party that starts an operation goes up to its first wait. -/
theorem step_start
    {client : Client}
    (seated : network.parties[place]? = some (.idle client))
    (operation : Operation) :
    network.step (.start place operation) =
      (network.seat place (.busy operation (.start client) (operation.program client))).proceed
        place operation (operation.program client) (.start client) := by
  simp only [step, seated]

/-- A receive without a stream is a registration that is begun with the move that starts it. -/
theorem step_receive
    {client : Client}
    {queue : String}
    {Content : Type}
    {decode : List UInt8 → Except CodecError Content}
    (idle : network.parties[place]? = some (.idle client))
    (free : client.streams.get? queue = none) :
    let program := (client.registerConsumer queue).bind (Client.receiving queue decode)
    network.step (.start place (.receive queue decode)) =
      (network.seat place (.busy (.receive queue decode) (.start client) program)).proceed place
        (.receive queue decode) program (.start client) := by
  have isProgram :
      (Operation.receive queue decode).program client =
        (client.registerConsumer queue).bind (Client.receiving queue decode) :=
    Client.receive_of_free free
  rw [step_start idle, isProgram]

theorem step_resume
    {request : Request}
    {next : request.Answer → Program (Outcome operation.Value)}
    (seated : network.parties[place]? = some (.busy operation standing (.ask request next))) :
    network.step (.resume place) =
      (network.exchange place operation standing request next).proceed place operation
        (next (network.answer request))
        (standing.after operation ⟨request, network.answer request⟩) := by
  simp only [step, seated]

/-- After an answer the party is further on, and the others still rest. -/
theorem Underway.exchange
    {request : Request}
    {next : request.Answer → Program (Outcome operation.Value)}
    (underway : network.Underway place operation standing (.ask request next)) :
    (network.exchange place operation standing request next).Underway place operation
      (standing.after operation ⟨request, network.answer request⟩)
      (next (network.answer request)) where
  seated := by
    rw [parties_exchange, List.getElem?_set_self (lt_of_seated underway.seated)]
  othersRest := by
    intro other party differs seated
    rw [parties_exchange, List.getElem?_set_ne (Ne.symm differs)] at seated
    exact underway.othersRest other party differs seated
  coherent :=
    underway.coherent.after ⟨request, network.answer request⟩ underway.met.1
  met := underway.met.2 (network.answer request)

/-- Once the party in a place rests, all parties do. -/
theorem atRest_seat
    (othersRest : network.RestsBut place)
    {party : Party}
    (rests : party.Rests) :
    (network.seat place party).AtRest := by
  intro other found seated
  rcases seated_set seated with ⟨-, rfl⟩ | ⟨differs, wasSeated⟩
  · exact rests
  · exact othersRest other found differs wasSeated

theorem restsBut_seat (atRest : network.AtRest) (party : Party) :
    (network.seat place party).RestsBut place := by
  intro other found differs seated
  rcases seated_set seated with ⟨same, -⟩ | ⟨-, wasSeated⟩
  · exact absurd same differs
  · exact atRest other found wasSeated

end

namespace Keeps

variable {allowed : Move → Prop} {holds : Network → Prop}

/-- What is kept by every exchange is kept up to the next wait. -/
theorem proceed
    (keeps : Keeps allowed Anything holds)
    {place : Nat}
    {operation : Operation}
    {network : Network}
    {standing : Standing}
    {program : Program (Outcome operation.Value)}
    (underway : network.Underway place operation standing program)
    (before : holds network) :
    (network.proceed place operation program standing).AtRest ∧
      holds (network.proceed place operation program standing) := by
  induction program generalizing network standing with
  | done ended =>
      refine ⟨?_, keeps.finished _ _ _ _ _ underway trivial before⟩
      have concludes : operation.Concludes ended standing := underway.met
      obtain ⟨error, isClient⟩ := concludes.client
      refine atRest_seat underway.othersRest (.idle ?_)
      rw [isClient]
      exact ⟨concludes.coherent.1, concludes.coherent.2, concludes.coherent.3⟩
  | ask request next inductionHypothesis =>
      unfold Network.proceed
      split
      · next waits =>
          refine ⟨?_, before⟩
          intro other party seated
          by_cases same : other = place
          · subst same
            rw [underway.seated] at seated
            obtain rfl := Option.some.inj seated
            exact .waits underway.coherent underway.met waits
          · exact underway.othersRest other party same seated
      · refine inductionHypothesis _ underway.exchange ?_
        by_cases releases : ∃ stream, request = .release stream
        · obtain ⟨stream, rfl⟩ := releases
          have first : standing.abandoned.head? = some stream := underway.met.1
          obtain ⟨rest, shape⟩ := List.head?_eq_some_iff.mp first
          refine keeps.dropped network place _ stream _
            ⟨underway.seated, underway.othersRest, ?_, rfl, rfl, rfl, fun _ => rfl, ?_, .busy⟩
            trivial before
          · simp [Party.abandoned, Standing.after, shape]
          · exact fun fits endsWith history ended ends => endsWith _ ended (.ask _ ends)
        · refine keeps.exchanged network place operation standing request next underway trivial
            before ?_
          exact fun stream same => releases ⟨stream, same⟩

theorem giveUp
    (keeps : Keeps allowed Anything holds)
    {place : Nat}
    {network : Network}
    {streams : List Stream}
    (seated : network.parties[place]? = some (.gone streams))
    (othersRest : network.RestsBut place)
    (before : holds network) :
    (network.giveUp place streams).AtRest ∧ holds (network.giveUp place streams) := by
  induction streams generalizing network with
  | nil =>
      refine ⟨?_, before⟩
      intro other party found
      by_cases same : other = place
      · subst same
        have isParty : Party.gone [] = party := Option.some.inj (seated.symm.trans found)
        exact isParty ▸ .gone
      · exact othersRest other party same found
  | cons stream rest inductionHypothesis =>
      refine inductionHypothesis ?_ ?_ ?_
      · exact List.getElem?_set_self (lt_of_seated seated)
      · intro other party differs found
        simp only [dropStream, List.getElem?_set_ne (Ne.symm differs)] at found
        exact othersRest other party differs found
      · exact keeps.dropped network place _ stream _
          ⟨seated, othersRest, rfl, rfl, rfl, rfl, fun _ => rfl, fun _ _ => trivial, .gone⟩ trivial
          before

theorem step
    (keeps : Keeps allowed Anything holds)
    {network : Network}
    (atRest : network.AtRest)
    (before : holds network)
    {move : Move}
    (isAllowed : allowed move) :
    (network.step move).AtRest ∧ holds (network.step move) := by
  cases move with
  | join consumerId endpoint =>
      dsimp only [Network.step]
      split
      · next connection broker dialed =>
          have coherent := Client.coherent_new connection endpoint.url consumerId endpoint.options
          refine ⟨?_, keeps.joined network connection broker _ atRest trivial before dialed
            ⟨rfl, rfl, rfl⟩ coherent⟩
          intro place party seated
          rcases seated_concat seated with found | ⟨-, rfl⟩
          · exact atRest place party found
          · exact .idle coherent
      · exact ⟨atRest, before⟩
  | start place operation =>
      dsimp only [Network.step]
      split
      · next client seated =>
          have coherent : client.Coherent := by
            cases atRest place _ seated with
            | idle coherent => exact coherent
          refine keeps.proceed ⟨?_, restsBut_seat atRest _, coherent, ?_⟩
            (keeps.started network place client operation atRest trivial before isAllowed seated)
          · exact List.getElem?_set_self (lt_of_seated seated)
          · exact operation.program_meets coherent
      · exact ⟨atRest, before⟩
  | resume place =>
      dsimp only [Network.step]
      split
      · next operation standing request next seated =>
          have underway : network.Underway place operation standing (.ask request next) := by
            cases atRest place _ seated with
            | waits coherent met waits =>
                exact ⟨seated, fun other party _ found => atRest other party found, coherent, met⟩
          refine keeps.proceed underway.exchange ?_
          refine keeps.exchanged network place operation standing request next underway trivial
            before ?_
          rintro stream rfl
          cases atRest place _ seated with
          | waits coherent met waits => cases waits
      · exact ⟨atRest, before⟩
  | leave place =>
      dsimp only [Network.step]
      split
      · next party seated =>
          refine keeps.giveUp ?_ ?_
            (keeps.leaving network place party atRest trivial before isAllowed seated)
          · exact List.getElem?_set_self (lt_of_seated seated)
          · exact @restsBut_seat (network.tell (.leaving place)) place atRest _
      · exact ⟨atRest, before⟩
  | disturb disturbance =>
      exact ⟨atRest, keeps.disturbed network disturbance atRest trivial before isAllowed⟩

/-- What is kept by every small step is kept along a run. -/
theorem run
    (keeps : Keeps allowed Anything holds)
    {network : Network}
    (atRest : network.AtRest)
    (before : holds network)
    {moves : List Move}
    (areAllowed : ∀ move ∈ moves, allowed move) :
    (network.run moves).AtRest ∧ holds (network.run moves) := by
  induction moves generalizing network with
  | nil => exact ⟨atRest, before⟩
  | cons move rest inductionHypothesis =>
      have after := keeps.step atRest before (areAllowed move (by simp))
      exact inductionHypothesis after.1 after.2 fun other member =>
        areAllowed other (by simp [member])

end Keeps

end Network

end BrokerClient
