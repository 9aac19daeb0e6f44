import BrokerClient.Proofs.Network.Steps

/-!
# One party alone

While one party performs an operation and nothing else happens, the broker answers each request as
the one before it has left it.  So what the operation comes to can be said of its program and the
broker, without the log and those around.  The network gets there once the party has gone on behind
each of its waits; whatever a program asks, it has finitely many of them.
-/

namespace BrokerClient

namespace Network

/-- As much of a network as decides what requests are answered with. -/
def around (broker : Broker) (drawnIds : Nat) : Network :=
  ⟨broker, drawnIds, [], []⟩

end Network

namespace Program

/-- A program that nothing comes between ends with a value that fits the broker then. -/
def Attains (fits : α → Broker → Prop) : Program α → Broker → Nat → Prop
  | .done value, broker, _ => fits value broker
  | .ask request next, broker, drawnIds =>
      (next ((Network.around broker drawnIds).answer request)).Attains fits
        ((Network.around broker drawnIds).brokerAfter request)
        ((Network.around broker drawnIds).drawnAfter request)

section

variable {α β : Type} {program : Program α} {broker : Broker} {drawnIds : Nat}

/-- What fits may be weakened. -/
theorem Attains.mono
    {fits weaker : α → Broker → Prop}
    (attains : program.Attains fits broker drawnIds)
    (weakens : ∀ value broker, fits value broker → weaker value broker) :
    program.Attains weaker broker drawnIds := by
  induction program generalizing broker drawnIds with
  | done value => exact weakens value broker attains
  | ask request next inductionHypothesis => exact inductionHypothesis _ attains

/-- Two programs in a row: the second goes on with the broker that the first leaves. -/
theorem Attains.bind
    {between : α → Broker → Prop}
    {fits : β → Broker → Prop}
    {next : α → Program β}
    (attains : program.Attains between broker drawnIds)
    (goesOn :
      ∀ value broker drawnIds, between value broker → (next value).Attains fits broker drawnIds) :
    (program >>= next).Attains fits broker drawnIds := by
  change (program.bind next).Attains fits broker drawnIds
  induction program generalizing broker drawnIds with
  | done value => exact goesOn value broker drawnIds attains
  | ask request resume inductionHypothesis => exact inductionHypothesis _ attains

/-- A program asks something first and goes on with the answer. -/
theorem attains_request
    {request : Request}
    {fits : α → Broker → Prop}
    {next : request.Answer → Program α}
    (answer : request.Answer)
    (after : Broker)
    (answered : (Network.around broker drawnIds).answer request = answer)
    (left : (Network.around broker drawnIds).brokerAfter request = after)
    (goesOn : ∀ drawnIds, (next answer).Attains fits after drawnIds) :
    (Program.request request >>= next).Attains fits broker drawnIds := by
  subst answered left
  exact goesOn _

/-- A program makes a call first and goes on with the answer. -/
theorem attains_call
    {call : Call}
    {fits : α → Broker → Prop}
    {next : call.Answer → Program α}
    {answer : call.Answer}
    {after : Broker}
    (performed : broker.perform call = (answer, after))
    (goesOn : ∀ drawnIds, (next answer).Attains fits after drawnIds) :
    (Program.call call >>= next).Attains fits broker drawnIds := by
  have answered :
      (Network.around broker drawnIds).answer (.transport call) = answer :=
    congrArg Prod.fst performed
  have left : (Network.around broker drawnIds).brokerAfter (.transport call) = after :=
    congrArg Prod.snd performed
  exact attains_request answer after answered left goesOn

/-- A program that only makes a call ends with the answer. -/
theorem attains_only_call
    {call : Call}
    {fits : call.Answer → Broker → Prop}
    {answer : call.Answer}
    {after : Broker}
    (performed : broker.perform call = (answer, after))
    (isFit : fits answer after) :
    (Program.call call).Attains fits broker drawnIds := by
  change fits (broker.perform call).1 (broker.perform call).2
  rw [performed]
  exact isFit

/-- What every answer keeps of the broker is kept by every program. -/
theorem attains_of_kept
    {holds : Broker → Prop}
    (kept :
      ∀ (network : Network) request, holds network.broker → holds (network.brokerAfter request))
    (program : Program α)
    (before : holds broker)
    (drawnIds : Nat) :
    program.Attains (fun _ after => holds after) broker drawnIds := by
  induction program generalizing broker drawnIds with
  | done value => exact before
  | ask request next inductionHypothesis =>
      exact inductionHypothesis _ (kept (Network.around broker drawnIds) request before) _

/-- Every program comes to an end. -/
theorem attains_end (program : Program α) (broker : Broker) (drawnIds : Nat) :
    program.Attains (fun _ _ => True) broker drawnIds :=
  attains_of_kept (fun _ _ _ => trivial) program trivial drawnIds

end

end Program

namespace Network

variable {network : Network} {place : Nat} {operation : Operation} {standing : Standing}

/-- What answers a request does not depend on those around or on the log. -/
theorem answer_around (network : Network) (request : Request) :
    (around network.broker network.drawnIds).answer request = network.answer request := by
  cases request <;> rfl

/-- The surroundings of a program change with an exchange as they do without the network. -/
theorem surroundings_exchange
    (network : Network)
    (place : Nat)
    (standing : Standing)
    (request : Request)
    (next : request.Answer → Program (Outcome operation.Value)) :
    (network.exchange place operation standing request next).broker =
        (around network.broker network.drawnIds).brokerAfter request ∧
      (network.exchange place operation standing request next).drawnIds =
        (around network.broker network.drawnIds).drawnAfter request := by
  cases request <;> exact ⟨rfl, rfl⟩

theorem log_exchange
    (network : Network)
    (place : Nat)
    (standing : Standing)
    (request : Request)
    (next : request.Answer → Program (Outcome operation.Value)) :
    ∃ event,
      (network.exchange place operation standing request next).log = network.log ++ [event] := by
  cases request <;> exact ⟨_, rfl⟩

/-- Since a network was as before, a party has ended an operation in a way that fits the broker. -/
def Completes
    (place : Nat)
    (operation : Operation)
    (fits : Outcome operation.Value → Broker → Prop)
    (before after : Network) : Prop :=
  ∃ ended told,
    after.parties[place]? = some (.idle ended.2) ∧
      after.log = before.log ++ told ++ [.finished place operation ended.1] ∧
        fits ended after.broker

/-- A party that has ended an operation is idle. -/
theorem Completes.idle
    {fits : Outcome operation.Value → Broker → Prop}
    {before after : Network}
    (completes : Completes place operation fits before after) :
    ∃ client, after.parties[place]? = some (.idle client) := by
  obtain ⟨ended, told, idle, -⟩ := completes
  exact ⟨ended.2, idle⟩

/-- What has been told before an operation is told behind it, with more. -/
theorem Completes.told
    {fits : Outcome operation.Value → Broker → Prop}
    {before after : Network}
    (completes : Completes place operation fits before after) :
    ∃ told, after.log = before.log ++ told := by
  obtain ⟨ended, told, -, log, -⟩ := completes
  exact ⟨told ++ [.finished place operation ended.1], by simp [log]⟩

/-- What the rest of an operation attains comes about once the party has gone on often enough. -/
theorem proceed_completes
    {fits : Outcome operation.Value → Broker → Prop}
    {program : Program (Outcome operation.Value)}
    (seated : network.parties[place]? = some (.busy operation standing program))
    (attains : program.Attains fits network.broker network.drawnIds) :
    ∃ resumes,
      Completes place operation fits network
        ((network.proceed place operation program standing).run
          (List.replicate resumes (.resume place))) := by
  induction program generalizing network standing with
  | done ended =>
      refine ⟨0, ended, [], ?_, ?_, attains⟩
      · exact List.getElem?_set_self (lt_of_seated seated)
      · simp [List.replicate, run, proceed, finish, tell, seat]
  | ask request next inductionHypothesis =>
      let left := network.exchange place operation standing request next
      have seatedLeft :
          left.parties[place]? =
            some
              (.busy operation (standing.after operation ⟨request, network.answer request⟩)
                (next (network.answer request))) := by
        rw [parties_exchange, List.getElem?_set_self (lt_of_seated seated)]
      have attainsLeft :
          (next (network.answer request)).Attains fits left.broker left.drawnIds := by
        obtain ⟨broker, drawnIds⟩ := surroundings_exchange network place standing request next
        rw [broker, drawnIds, ← answer_around]
        exact attains
      obtain ⟨resumes, ended, told, idle, log, isFit⟩ :=
        inductionHypothesis _ seatedLeft attainsLeft
      obtain ⟨event, logLeft⟩ := log_exchange network place standing request next
      have completes :
          Completes place operation fits network
            ((left.proceed place operation (next (network.answer request))
              (standing.after operation ⟨request, network.answer request⟩)).run
                (List.replicate resumes (.resume place))) :=
        ⟨ended, event :: told, idle, by rw [log, logLeft]; simp, isFit⟩
      -- Only where the request waits does the network stop, and one more move takes it on.
      by_cases waits : request.waits = true
      · refine ⟨resumes + 1, ?_⟩
        rw [proceed_of_waits waits, List.replicate_succ]
        change Completes _ _ _ _ ((network.step (.resume place)).run _)
        rw [step_resume seated]
        exact completes
      · refine ⟨resumes, ?_⟩
        rw [proceed_of_not_waits waits]
        exact completes

/-- An idle party has nothing to go on with. -/
theorem run_resume_of_idle
    {client : Client}
    (idle : network.parties[place]? = some (.idle client))
    (resumes : Nat) :
    network.run (List.replicate resumes (.resume place)) = network := by
  induction resumes with
  | zero => rfl
  | succ resumes inductionHypothesis =>
      have stays : network.step (.resume place) = network := by
        simp only [step, idle]
      rw [List.replicate_succ]
      change (network.step (.resume place)).run _ = _
      rw [stays, inductionHypothesis]

/-- A party starts an operation and goes on with it some times, and nothing else happens. -/
def performing (place : Nat) (operation : Operation) (resumes : Nat) : List Move :=
  .start place operation :: List.replicate resumes (.resume place)

/-- What an operation attains comes about, and stays, once the party has gone on often enough. -/
theorem performing_completes
    {client : Client}
    (operation : Operation)
    {fits : Outcome operation.Value → Broker → Prop}
    (seated : network.parties[place]? = some (.idle client))
    (attains : (operation.program client).Attains fits network.broker network.drawnIds) :
    ∃ after enough,
      Completes place operation fits network after ∧
        ∀ resumes, enough ≤ resumes → network.run (performing place operation resumes) = after := by
  let begun := network.seat place (.busy operation (.start client) (operation.program client))
  have seatedBegun :
      begun.parties[place]? =
        some (.busy operation (.start client) (operation.program client)) :=
    List.getElem?_set_self (lt_of_seated seated)
  obtain ⟨enough, ended, told, idle, log, isFit⟩ := proceed_completes seatedBegun attains
  refine ⟨_, enough, ⟨ended, told, idle, log, isFit⟩, fun resumes isEnough => ?_⟩
  obtain ⟨more, rfl⟩ := Nat.exists_eq_add_of_le isEnough
  change (network.step (.start place operation)).run _ = _
  rw [step_start seated, ← List.replicate_append_replicate, run_append, run_resume_of_idle idle]

end Network

end BrokerClient
