import BrokerClient.Proofs.Network.Steps
import BrokerClient.Session.Step

/-!
# Sessions are networks

In a session without a script one client at a time performs an operation, and events are due at
points of time.  What happens then is what happens in a network: the events are disturbances that
come between the waits of the operation.  So whatever is true of all runs of networks is true of
what such sessions do.
-/

namespace BrokerClient

/-- What a step does to the broker; a script does nothing to it. -/
def BrokerStep.disturbance? : BrokerStep → Option Disturbance
  | .pushRaw queue body => some (.pushRaw queue body)
  | .dropConnections => some .dropConnections
  | .dropConsumers => some .dropConsumers
  | .refuseDials refuses => some (.refuseDials refuses)
  | .script .. => none

/-- Surroundings in which nothing is prescribed, neither now nor later. -/
structure Environment.Unscripted (environment : Environment) : Prop where
  script : environment.script = []
  scriptedStreams : environment.scriptedStreams = []
  schedule :
    ∀ event ∈ environment.schedule, ∃ disturbance, event.step.disturbance? = some disturbance

namespace Network

/-- A network around the same broker as a session. -/
structure Mirrors (network : Network) (environment : Environment) : Prop where
  broker : network.broker = environment.broker
  drawnIds : network.drawnIds = environment.drawnIds
  unscripted : environment.Unscripted

variable {network : Network} {environment environment' : Environment}
variable {place : Nat} {operation : Operation}

/-- A request is answered in a session as in a network, disturbed before if the request waits. -/
def AnsweredAs
    (network : Network)
    (request : Request)
    (answered : request.Answer × Environment) : Prop :=
  ∃ disturbances : List Disturbance,
    (request.waits = true ∨ disturbances = []) ∧
      (network.run (disturbances.map .disturb)).answer request = answered.1 ∧
        (network.run (disturbances.map .disturb)).brokerAfter request = answered.2.broker ∧
          (network.run (disturbances.map .disturb)).drawnAfter request = answered.2.drawnIds ∧
            answered.2.Unscripted

theorem AnsweredAs.of_now
    {request : Request}
    {answered : request.Answer × Environment}
    (answer : network.answer request = answered.1)
    (broker : network.brokerAfter request = answered.2.broker)
    (drawnIds : network.drawnAfter request = answered.2.drawnIds)
    (unscripted : answered.2.Unscripted) :
    network.AnsweredAs request answered :=
  ⟨[], .inr rfl, answer, broker, drawnIds, unscripted⟩

theorem AnsweredAs.of_disturbed
    {request : Request}
    {answered : request.Answer × Environment}
    {disturbance : Disturbance}
    (waits : request.waits = true)
    (answeredAs : (network.step (.disturb disturbance)).AnsweredAs request answered) :
    network.AnsweredAs request answered := by
  obtain ⟨disturbances, -, answers⟩ := answeredAs
  exact ⟨disturbance :: disturbances, .inl waits, answers⟩

/-- The schedule has no other events left than disturbances. -/
def Disturbs (events : List ScheduledEvent) : Prop :=
  ∀ event ∈ events, ∃ disturbance, event.step.disturbance? = some disturbance

/-- A scheduled event disturbs the broker. -/
theorem Mirrors.fire
    {event : ScheduledEvent}
    (mirrors : network.Mirrors environment)
    {disturbance : Disturbance}
    (isDisturbance : event.step.disturbance? = some disturbance) :
    (network.step (.disturb disturbance)).Mirrors (environment.fire event) := by
  obtain ⟨broker, drawnIds, script, scriptedStreams, schedule⟩ := mirrors
  obtain ⟨time, step⟩ := event
  cases step with
  | script kind outcomes times => cases isDisturbance
  | _ =>
      obtain rfl := Option.some.inj isDisturbance
      exact ⟨by simp [Network.step, broker]; rfl, drawnIds, script, scriptedStreams, schedule⟩

/-- A stream that has something to offer, or nothing ever again, is not waited for. -/
theorem answeredAs_of_ready
    {stream : Stream}
    (ready : environment.broker.poll stream ≠ .pending)
    (timeout : Duration)
    (deadline : Nat)
    {events : List ScheduledEvent}
    (disturb : Disturbs events)
    (mirrors : network.Mirrors environment) :
    network.AnsweredAs (.next stream timeout)
      (Environment.awaitFeed stream deadline events environment) := by
  obtain ⟨broker, drawnIds, script, scriptedStreams, -⟩ := mirrors
  unfold Environment.awaitFeed
  cases polled : environment.broker.poll stream with
  | pending => exact absurd polled ready
  | item delivery broker' =>
      refine .of_now ?_ ?_ drawnIds ⟨script, scriptedStreams, disturb⟩
      · simp [answer, broker, polled]
      · simp [brokerAfter, broker, polled]
  | ended =>
      refine .of_now ?_ ?_ drawnIds ⟨script, scriptedStreams, disturb⟩
      · simp [answer, broker, polled]
      · simp [brokerAfter, broker, polled]

theorem answeredAs_timedOut
    {stream : Stream}
    (pending : environment.broker.poll stream = .pending)
    (timeout : Duration)
    (deadline : Nat)
    {events : List ScheduledEvent}
    (disturb : Disturbs events)
    (mirrors : network.Mirrors environment) :
    network.AnsweredAs (.next stream timeout)
      (.timedOut, { environment with now := deadline, schedule := events }) := by
  obtain ⟨broker, drawnIds, script, scriptedStreams, -⟩ := mirrors
  refine .of_now ?_ ?_ drawnIds ⟨script, scriptedStreams, disturb⟩
  · simp [answer, broker, pending]
  · simp [brokerAfter, broker, pending]

theorem answeredAs_awaitFeed
    (stream : Stream)
    (timeout : Duration)
    (deadline : Nat)
    {events : List ScheduledEvent}
    (disturb : Disturbs events)
    (mirrors : network.Mirrors environment) :
    network.AnsweredAs (.next stream timeout)
      (Environment.awaitFeed stream deadline events environment) := by
  induction events generalizing network environment with
  | nil =>
      by_cases pending : environment.broker.poll stream = .pending
      · unfold Environment.awaitFeed
        rw [pending]
        exact answeredAs_timedOut pending timeout deadline disturb mirrors
      · exact answeredAs_of_ready pending timeout deadline disturb mirrors
  | cons event rest inductionHypothesis =>
      by_cases pending : environment.broker.poll stream = .pending
      · unfold Environment.awaitFeed
        rw [pending]
        dsimp only
        split
        · obtain ⟨disturbance, isDisturbance⟩ := disturb event (by simp)
          have disturbRest : Disturbs rest := fun other member => disturb other (by simp [member])
          exact .of_disturbed rfl (inductionHypothesis disturbRest (mirrors.fire isDisturbance))
        · exact answeredAs_timedOut pending timeout deadline disturb mirrors
      · exact answeredAs_of_ready pending timeout deadline disturb mirrors

theorem answeredAs_sleep
    (duration : Duration)
    (limit : Nat)
    {events : List ScheduledEvent}
    (disturb : Disturbs events)
    (mirrors : network.Mirrors environment) :
    network.AnsweredAs (.sleep duration)
      ((), { Environment.passEvents limit events environment with now := limit }) := by
  induction events generalizing network environment with
  | nil =>
      obtain ⟨broker, drawnIds, script, scriptedStreams, -⟩ := mirrors
      exact .of_now rfl broker drawnIds ⟨script, scriptedStreams, disturb⟩
  | cons event rest inductionHypothesis =>
      unfold Environment.passEvents
      split
      · obtain ⟨disturbance, isDisturbance⟩ := disturb event (by simp)
        have disturbRest : Disturbs rest := fun other member => disturb other (by simp [member])
        exact .of_disturbed rfl (inductionHypothesis disturbRest (mirrors.fire isDisturbance))
      · obtain ⟨broker, drawnIds, script, scriptedStreams, -⟩ := mirrors
        exact .of_now rfl broker drawnIds ⟨script, scriptedStreams, disturb⟩

/-- Without a script, every request is answered as in a network. -/
theorem Mirrors.answeredAs
    (mirrors : network.Mirrors environment)
    (request : Request) :
    network.AnsweredAs request (environment.answer request) := by
  have disturb := mirrors.unscripted.schedule
  obtain ⟨broker, drawnIds, script, scriptedStreams, -⟩ := id mirrors
  cases request with
  | sleep duration => exact answeredAs_sleep duration _ disturb mirrors
  | next stream timeout =>
      have notScripted : environment.scripted? stream = none := by
        simp [Environment.scripted?, scriptedStreams]
      simp only [Environment.answer, Environment.await, notScripted]
      exact answeredAs_awaitFeed stream timeout _ disturb mirrors
  | transport call =>
      let called :=
        { environment with script := [], broker := (environment.broker.perform call).2 }
      have answered :
          environment.answer (.transport call) =
            ((environment.broker.perform call).1,
              called.logCall call (environment.broker.perform call).1) := by
        simp only [Environment.answer, Environment.answerCall, script]
        rfl
      rw [answered]
      refine .of_now ?_ ?_ drawnIds ⟨rfl, scriptedStreams, disturb⟩
      · rw [answer, broker]
      · rw [brokerAfter, broker]
        rfl
  | isClosed connection =>
      exact .of_now (by simp [answer, Environment.answer, broker]) broker drawnIds
        ⟨script, scriptedStreams, disturb⟩
  | release stream =>
      exact .of_now rfl (congrArg (Broker.release · stream) broker) drawnIds
        ⟨script, scriptedStreams, disturb⟩
  | describe message => exact .of_now rfl broker drawnIds ⟨script, scriptedStreams, disturb⟩
  | freshId =>
      refine .of_now ?_ broker ?_ ⟨script, scriptedStreams, disturb⟩
      · simp [answer, Environment.answer, drawnIds]
      · simp [drawnAfter, Environment.answer, drawnIds]

theorem parties_run_disturb (network : Network) (disturbances : List Disturbance) :
    (network.run (disturbances.map .disturb)).parties = network.parties := by
  induction disturbances generalizing network with
  | nil => rfl
  | cons disturbance rest inductionHypothesis =>
      exact inductionHypothesis (network.step (.disturb disturbance))

/-- An exchange leaves a network as its session leaves the surroundings. -/
theorem mirrors_exchange
    {standing : Standing}
    {request : Request}
    (next : request.Answer → Program (Outcome operation.Value))
    (broker : network.brokerAfter request = environment.broker)
    (drawnIds : network.drawnAfter request = environment.drawnIds)
    (unscripted : environment.Unscripted) :
    (network.exchange place operation standing request next).Mirrors environment := by
  cases request with
  | _ => exact ⟨broker, drawnIds, unscripted⟩

/-- An operation has come to its end in a network as it does in a session. -/
structure EndsAs
    (place : Nat)
    (operation : Operation)
    (parties : List Party)
    (ended : Outcome operation.Value × Environment)
    (network : Network) : Prop where
  mirrors : network.Mirrors ended.2
  parties : network.parties = parties.set place (.idle ended.1.2)
  told : ∃ earlier, network.log = earlier ++ [.finished place operation ended.1.1]

/-- A program goes on with the answer to what it asks. -/
theorem run_ask
    {request : Request}
    {next : request.Answer → Program (Outcome operation.Value)}
    (answered : network.answer request = (environment.answer request).1) :
    (Program.ask request next).run Environment.answer environment =
      (next (network.answer request)).run Environment.answer (environment.answer request).2 := by
  rw [answered]
  rfl

/-- The rest of an operation comes to the same end in a network as in a session. -/
theorem proceed_endsAs
    (program : Program (Outcome operation.Value))
    {standing : Standing}
    (mirrors : network.Mirrors environment)
    (seated : network.parties[place]? = some (.busy operation standing program)) :
    ∃ moves,
      EndsAs place operation network.parties (program.run Environment.answer environment)
        ((network.proceed place operation program standing).run moves) := by
  induction program generalizing network environment standing with
  | done ended => exact ⟨[], ⟨mirrors.broker, mirrors.drawnIds, mirrors.unscripted⟩, rfl, _, rfl⟩
  | ask request next inductionHypothesis =>
      obtain ⟨disturbances, inTime, answered, broker, drawnIds, unscripted⟩ :=
        mirrors.answeredAs request
      let disturbed := network.run (disturbances.map .disturb)
      let left := disturbed.exchange place operation standing request next
      have parties : disturbed.parties = network.parties := parties_run_disturb network disturbances
      have seatedThen :
          disturbed.parties[place]? = some (.busy operation standing (.ask request next)) :=
        parties ▸ seated
      have mirrorsLeft : left.Mirrors (environment.answer request).2 :=
        mirrors_exchange next broker drawnIds unscripted
      have seatedLeft :
          left.parties[place]? =
            some
              (.busy operation (standing.after operation ⟨request, disturbed.answer request⟩)
                (next (disturbed.answer request))) := by
        rw [parties_exchange, List.getElem?_set_self (lt_of_seated seatedThen)]
      obtain ⟨moves, ends⟩ :=
        inductionHypothesis (disturbed.answer request) mirrorsLeft seatedLeft
      rw [parties_exchange, parties] at ends
      have endsHere :
          EndsAs place operation network.parties
            ((Program.ask request next).run Environment.answer environment)
            ((left.proceed place operation (next (disturbed.answer request))
              (standing.after operation ⟨request, disturbed.answer request⟩)).run moves) := by
        rw [run_ask answered]
        exact ⟨ends.mirrors, ends.parties.trans (List.set_set _), ends.told⟩
      by_cases waits : request.waits = true
      · refine ⟨disturbances.map .disturb ++ .resume place :: moves, ?_⟩
        rw [proceed_of_waits waits, run_append]
        change EndsAs _ _ _ _ ((disturbed.step (.resume place)).run moves)
        rw [step_resume seatedThen]
        exact endsHere
      · -- Nothing is disturbed where nothing is waited for.
        obtain rfl := inTime.resolve_left waits
        refine ⟨moves, ?_⟩
        rw [proceed_of_not_waits waits]
        exact endsHere

/--
What an operation does in a session without a script it does in a run of a network around the same
broker, with moves in between that disturb the broker as the events of the session do.
-/
theorem session_endsAs
    {client : Client}
    (mirrors : network.Mirrors environment)
    (seated : network.parties[place]? = some (.idle client)) :
    ∃ moves,
      EndsAs place operation network.parties
        ((operation.program client).run Environment.answer environment)
        (network.run (.start place operation :: moves)) := by
  let begun :=
    network.seat place (.busy operation (.start client) (operation.program client))
  have mirrorsBegun : begun.Mirrors environment :=
    ⟨mirrors.broker, mirrors.drawnIds, mirrors.unscripted⟩
  have seatedBegun :
      begun.parties[place]? =
        some (.busy operation (.start client) (operation.program client)) :=
    List.getElem?_set_self (lt_of_seated seated)
  obtain ⟨moves, ends⟩ := proceed_endsAs (operation.program client) mirrorsBegun seatedBegun
  refine ⟨moves, ?_⟩
  change EndsAs _ _ _ _ ((network.step (.start place operation)).run moves)
  rw [step_start seated]
  exact ⟨ends.mirrors, ends.parties.trans (List.set_set _), ends.told⟩

end Network

end BrokerClient
