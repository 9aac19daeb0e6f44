import BrokerClient.Proofs.Network.Steps

/-!
# Interleavings

In a run a party goes on up to its next wait before others get their turn.  In an interleaving it
goes on by one small step only, so others may come between any two of its requests.  Every run is an
interleaving, one in which each party happens to go on up to its next wait; and what is true of all
interleavings is true in the middle of a move as well.
-/

namespace BrokerClient

/-- A party has only done what its operation permits. -/
def Party.Lawful : Party → Prop
  | .idle client => client.Coherent
  | .busy operation standing rest =>
      standing.client.Coherent ∧ rest.Meets operation.monitor operation.Concludes standing
  | .gone _ => True

namespace Network

/--
Make a move by one small step: a party that goes on is answered one request, ends its operation or
gives up one stream.
-/
def tick (network : Network) : Move → Network
  | .start place operation =>
      match network.parties[place]? with
      | some (.idle client) =>
          network.seat place (.busy operation (.start client) (operation.program client))
      | _ => network
  | .resume place =>
      match network.parties[place]? with
      | some (.busy operation standing (.ask request next)) =>
          network.exchange place operation standing request next
      | some (.busy operation _ (.done ended)) => network.finish place operation ended
      | some (.gone (stream :: rest)) => network.dropStream place stream (.gone rest)
      | _ => network
  | .leave place =>
      match network.parties[place]? with
      | some party => (network.tell (.leaving place)).seat place (.gone party.streams)
      | none => network
  | move => network.step move

/-- Make moves by small steps, one after the other. -/
def interleave (network : Network) (moves : List Move) : Network :=
  moves.foldl tick network

variable {network : Network} {place : Nat} {operation : Operation} {standing : Standing}

theorem interleave_append (network : Network) (first second : List Move) :
    network.interleave (first ++ second) = (network.interleave first).interleave second :=
  List.foldl_append

/-- What a small step comes to. -/
inductive Ticks (network : Network) : Network → Prop where
  | stays : Ticks network network
  | joined
      {connection : Connection}
      {broker : Broker}
      {client : Client}
      (dialed : network.broker.dial = (.ok connection, broker))
      (unasked : client.Unasked connection)
      (coherent : client.Coherent) :
      Ticks network
        { network with
          broker := broker
          parties := network.parties ++ [.idle client]
          log := network.log ++ [.joined connection] }
  | started
      {place : Nat}
      {client : Client}
      (operation : Operation)
      (idle : network.parties[place]? = some (.idle client)) :
      Ticks network
        (network.seat place (.busy operation (.start client) (operation.program client)))
  | asked
      {place : Nat}
      {operation : Operation}
      {standing : Standing}
      {request : Request}
      {next : request.Answer → Program (Outcome operation.Value)}
      (seated : network.parties[place]? = some (.busy operation standing (.ask request next))) :
      Ticks network (network.exchange place operation standing request next)
  | finished
      {place : Nat}
      {operation : Operation}
      {standing : Standing}
      {ended : Outcome operation.Value}
      (seated : network.parties[place]? = some (.busy operation standing (.done ended))) :
      Ticks network (network.finish place operation ended)
  | dropped
      {place : Nat}
      {stream : Stream}
      {rest : List Stream}
      (seated : network.parties[place]? = some (.gone (stream :: rest))) :
      Ticks network (network.dropStream place stream (.gone rest))
  | left
      {place : Nat}
      {party : Party}
      (seated : network.parties[place]? = some party) :
      Ticks network ((network.tell (.leaving place)).seat place (.gone party.streams))
  | disturbed (disturbance : Disturbance) :
      Ticks network
        { network with
          broker := network.broker.disturb disturbance
          log := network.log ++ [.disturbed disturbance] }

theorem ticks_tick (network : Network) (move : Move) : network.Ticks (network.tick move) := by
  cases move with
  | join consumerId endpoint =>
      dsimp only [tick, step]
      split
      · next connection broker dialed =>
          exact .joined dialed ⟨rfl, rfl, rfl⟩ (Client.coherent_new connection _ _ _)
      · exact .stays
  | start place operation =>
      dsimp only [tick]
      split
      · next client idle => exact .started operation idle
      · exact .stays
  | resume place =>
      dsimp only [tick]
      split
      · next seated => exact .asked seated
      · next seated => exact .finished seated
      · next seated => exact .dropped seated
      · exact .stays
  | leave place =>
      dsimp only [tick]
      split
      · next party seated => exact .left seated
      · exact .stays
  | disturb disturbance => exact .disturbed disturbance

/-! ## Runs are interleavings -/

theorem interleave_cons (network : Network) (move : Move) (rest : List Move) :
    network.interleave (move :: rest) = (network.tick move).interleave rest :=
  rfl

theorem tick_start
    {client : Client}
    (idle : network.parties[place]? = some (.idle client)) :
    network.tick (.start place operation) =
      network.seat place (.busy operation (.start client) (operation.program client)) := by
  simp only [tick, idle]

theorem tick_ask
    {request : Request}
    {next : request.Answer → Program (Outcome operation.Value)}
    (seated : network.parties[place]? = some (.busy operation standing (.ask request next))) :
    network.tick (.resume place) = network.exchange place operation standing request next := by
  simp only [tick, seated]

theorem tick_done
    {ended : Outcome operation.Value}
    (seated : network.parties[place]? = some (.busy operation standing (.done ended))) :
    network.tick (.resume place) = network.finish place operation ended := by
  simp only [tick, seated]

theorem tick_gone
    {stream : Stream}
    {rest : List Stream}
    (seated : network.parties[place]? = some (.gone (stream :: rest))) :
    network.tick (.resume place) = network.dropStream place stream (.gone rest) := by
  simp only [tick, seated]

theorem tick_leave
    {party : Party}
    (seated : network.parties[place]? = some party) :
    network.tick (.leave place) =
      (network.tell (.leaving place)).seat place (.gone party.streams) := by
  simp only [tick, seated]

/-- Behind an exchange a party goes on with the answer. -/
theorem seated_exchange
    {request : Request}
    {next : request.Answer → Program (Outcome operation.Value)}
    (seated : network.parties[place]? = some (.busy operation standing (.ask request next))) :
    (network.exchange place operation standing request next).parties[place]? =
      some
        (.busy operation (standing.after operation ⟨request, network.answer request⟩)
          (next (network.answer request))) := by
  rw [parties_exchange, List.getElem?_set_self (lt_of_seated seated)]

/-- A party gets to its next wait by small steps. -/
theorem proceed_eq_interleave
    {program : Program (Outcome operation.Value)}
    (seated : network.parties[place]? = some (.busy operation standing program)) :
    ∃ resumes,
      network.proceed place operation program standing =
        network.interleave (List.replicate resumes (.resume place)) := by
  induction program generalizing network standing with
  | done ended => exact ⟨1, (tick_done seated).symm⟩
  | ask request next inductionHypothesis =>
      by_cases waits : request.waits = true
      · exact ⟨0, proceed_of_waits waits⟩
      · obtain ⟨resumes, goesOn⟩ := inductionHypothesis _ (seated_exchange seated)
        refine ⟨resumes + 1, ?_⟩
        rw [proceed_of_not_waits waits, goesOn, List.replicate_succ, interleave_cons,
          tick_ask seated]

/-- A party that has left gives up its streams by small steps. -/
theorem giveUp_eq_interleave
    {streams : List Stream}
    (seated : network.parties[place]? = some (.gone streams)) :
    ∃ resumes,
      network.giveUp place streams =
        network.interleave (List.replicate resumes (.resume place)) := by
  induction streams generalizing network with
  | nil => exact ⟨0, rfl⟩
  | cons stream rest inductionHypothesis =>
      have seatedLeft :
          (network.dropStream place stream (.gone rest)).parties[place]? = some (.gone rest) :=
        List.getElem?_set_self (lt_of_seated seated)
      obtain ⟨resumes, goesOn⟩ := inductionHypothesis seatedLeft
      refine ⟨resumes + 1, ?_⟩
      rw [List.replicate_succ, interleave_cons, tick_gone seated]
      exact goesOn

/-- Every move is made by small steps; one that is not possible, by none. -/
theorem step_eq_interleave (network : Network) (move : Move) :
    ∃ finer, network.step move = network.interleave finer := by
  cases move with
  | join consumerId endpoint => exact ⟨[.join consumerId endpoint], rfl⟩
  | disturb disturbance => exact ⟨[.disturb disturbance], rfl⟩
  | start place operation =>
      by_cases isIdle : ∃ client, network.parties[place]? = some (.idle client)
      · obtain ⟨client, idle⟩ := isIdle
        have seated :
            (network.tick (.start place operation)).parties[place]? =
              some (.busy operation (.start client) (operation.program client)) := by
          rw [tick_start idle]
          exact List.getElem?_set_self (lt_of_seated idle)
        obtain ⟨resumes, goesOn⟩ := proceed_eq_interleave seated
        refine ⟨.start place operation :: List.replicate resumes (.resume place), ?_⟩
        rw [step_start idle, interleave_cons, ← goesOn, tick_start idle]
      · refine ⟨[], ?_⟩
        dsimp only [step]
        split
        · next client idle => exact absurd ⟨client, idle⟩ isIdle
        · rfl
  | resume place =>
      dsimp only [step]
      split
      · next operation standing request next seated =>
          obtain ⟨resumes, goesOn⟩ := proceed_eq_interleave (seated_exchange seated)
          refine ⟨.resume place :: List.replicate resumes (.resume place), ?_⟩
          rw [interleave_cons, tick_ask seated]
          exact goesOn
      · exact ⟨[], rfl⟩
  | leave place =>
      dsimp only [step]
      split
      · next party seated =>
          have seatedLeft :
              (network.tick (.leave place)).parties[place]? = some (.gone party.streams) := by
            rw [tick_leave seated]
            exact List.getElem?_set_self (lt_of_seated seated)
          obtain ⟨resumes, goesOn⟩ := giveUp_eq_interleave seatedLeft
          refine ⟨.leave place :: List.replicate resumes (.resume place), ?_⟩
          rw [interleave_cons, ← goesOn, tick_leave seated]
      · exact ⟨[], rfl⟩

/-- Every run is an interleaving. -/
theorem run_eq_interleave (network : Network) (moves : List Move) :
    ∃ finer, network.run moves = network.interleave finer := by
  induction moves generalizing network with
  | nil => exact ⟨[], rfl⟩
  | cons move rest inductionHypothesis =>
      obtain ⟨first, begins⟩ := network.step_eq_interleave move
      obtain ⟨second, goesOn⟩ := inductionHypothesis (network.step move)
      refine ⟨first ++ second, ?_⟩
      rw [interleave_append, ← begins]
      exact goesOn

/-! ## What parties do in an interleaving -/

/-- All parties have only done what their operations permit. -/
def Lawful (network : Network) : Prop :=
  ∀ (place : Nat) (party : Party), network.parties[place]? = some party → party.Lawful

/-- Small steps of whichever parties keep all of them lawful. -/
theorem Lawful.ticks
    {after : Network}
    (lawful : network.Lawful)
    (ticks : network.Ticks after) :
    after.Lawful := by
  have set {place : Nat} {party : Party} (here : party.Lawful) :
      ∀ (other : Nat) (found : Party),
        (network.parties.set place party)[other]? = some found → found.Lawful :=
    forall_seated_set here fun other found _ seated => lawful other found seated
  cases ticks with
  | stays => exact lawful
  | joined dialed unasked coherent =>
      intro place party seated
      rcases seated_concat seated with wasSeated | ⟨-, rfl⟩
      · exact lawful place party wasSeated
      · exact coherent
  | @started place client operation idle =>
      have coherent : client.Coherent := lawful place _ idle
      exact set ⟨coherent, operation.program_meets coherent⟩
  | @asked place operation standing request next seated =>
      obtain ⟨coherent, met⟩ := lawful place _ seated
      intro other found foundSeated
      rw [parties_exchange] at foundSeated
      refine set ?_ other found foundSeated
      exact ⟨coherent.after ⟨request, network.answer request⟩ met.1, met.2 (network.answer request)⟩
  | @finished place operation standing ended seated =>
      obtain ⟨-, concludes⟩ := lawful place _ seated
      obtain ⟨error, isClient⟩ := concludes.client
      refine set ?_
      change ended.2.Coherent
      rw [isClient]
      exact ⟨concludes.coherent.1, concludes.coherent.2, concludes.coherent.3⟩
  | dropped seated => exact set trivial
  | left seated => exact set trivial
  | disturbed disturbance => exact lawful

end Network

end BrokerClient
