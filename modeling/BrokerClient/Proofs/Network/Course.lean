import BrokerClient.Proofs.Network.Alone

/-!
# The course of an operation

Where nothing comes between, a program takes one course: what it asks and how it is answered, what
it ends with, and how it leaves the broker.  A party that performs an operation alone goes through
the course of its program, and the log tells exactly that.  Of what is told, only pauses and waits
in vain take time.
-/

namespace BrokerClient

/-- How many milliseconds pass until a request is answered. -/
def Exchange.waited : Exchange → Nat
  | ⟨.sleep duration, _⟩ => duration.milliseconds
  | ⟨.next _ timeout, .timedOut⟩ => timeout.milliseconds
  | _ => 0

/-- How many milliseconds pass with an event. -/
def Event.waited : Event → Nat
  | .asked _ _ exchange => exchange.waited
  | _ => 0

/-- A request that no program waits for is answered at once. -/
theorem Exchange.waited_of_not_waits
    {exchange : Exchange}
    (goesOn : exchange.request.waits = false) :
    exchange.waited = 0 := by
  obtain ⟨request, answer⟩ := exchange
  cases request with
  | sleep duration => cases goesOn
  | next stream timeout => cases goesOn
  | _ => rfl

/-- An exchange is over at once, and no stream is given up with it. -/
def Exchange.IsPrompt (exchange : Exchange) : Prop :=
  exchange.request.waits = false ∧ ∀ stream, exchange.request ≠ .release stream

namespace Program

/--
A program that nothing comes between asks and is answered as a history has it, ends with a value and
leaves the broker as another one.
-/
inductive Course : Program α → Broker → Nat → History → α → Broker → Nat → Prop where
  | done (value : α) (broker : Broker) (drawnIds : Nat) :
      Course (.done value) broker drawnIds [] value broker drawnIds
  | ask
      {request : Request}
      {next : request.Answer → Program α}
      {broker after : Broker}
      {drawnIds drawnThen : Nat}
      {history : History}
      {value : α}
      (rest :
        (next ((Network.around broker drawnIds).answer request)).Course
          ((Network.around broker drawnIds).brokerAfter request)
          ((Network.around broker drawnIds).drawnAfter request)
          history value after drawnThen) :
      Course (.ask request next) broker drawnIds
        (⟨request, (Network.around broker drawnIds).answer request⟩ :: history) value after
        drawnThen

section

variable {α β : Type} {broker between after : Broker} {drawnIds drawnBetween drawnThen : Nat}

/-- Two programs in a row: the second takes its course where that of the first ends. -/
theorem Course.bind
    {program : Program α}
    {next : α → Program β}
    {first second : History}
    {middle : α}
    {value : β}
    (course : program.Course broker drawnIds first middle between drawnBetween)
    (goesOn : (next middle).Course between drawnBetween second value after drawnThen) :
    (program >>= next).Course broker drawnIds (first ++ second) value after drawnThen := by
  change (program.bind next).Course _ _ _ _ _ _
  induction course with
  | done middle broker drawnIds => exact goesOn
  | ask rest inductionHypothesis => exact .ask (inductionHypothesis goesOn)

/-- Behind a program that takes its course another one may end at once. -/
theorem Course.bind_done
    {program : Program α}
    {next : α → Program β}
    {history : History}
    {middle : α}
    {value : β}
    (course : program.Course broker drawnIds history middle after drawnThen)
    (ends : next middle = .done value) :
    (program >>= next).Course broker drawnIds history value after drawnThen := by
  have goesOn : (next middle).Course after drawnThen [] value after drawnThen := by
    rw [ends]
    exact .done _ _ _
  simpa using course.bind goesOn

/-- A program attains what fits the end of its course. -/
theorem Course.attains
    {program : Program α}
    {fits : α → Broker → Prop}
    {history : History}
    {value : α}
    (course : program.Course broker drawnIds history value after drawnThen)
    (isFit : fits value after) :
    program.Attains fits broker drawnIds := by
  induction course with
  | done value after drawnIds => exact isFit
  | ask rest inductionHypothesis => exact inductionHypothesis isFit

/-- A program that only asks one thing ends with the answer. -/
theorem course_request
    {request : Request}
    {answer : request.Answer}
    (answered : (Network.around broker drawnIds).answer request = answer)
    (left : (Network.around broker drawnIds).brokerAfter request = after)
    (drawn : (Network.around broker drawnIds).drawnAfter request = drawnThen) :
    (Program.request request).Course broker drawnIds [⟨request, answer⟩] answer after
      drawnThen := by
  subst answered left drawn
  exact .ask (.done _ _ _)

/-- A program that only makes a call ends with the answer. -/
theorem course_call
    {call : Call}
    {answer : call.Answer}
    (performed : broker.perform call = (answer, after))
    (drawnIds : Nat) :
    (Program.call call).Course broker drawnIds [⟨.transport call, answer⟩] answer after
      drawnIds := by
  have answered : (Network.around broker drawnIds).answer (.transport call) = answer :=
    congrArg Prod.fst performed
  have left : (Network.around broker drawnIds).brokerAfter (.transport call) = after :=
    congrArg Prod.snd performed
  exact course_request answered left rfl

/-- A program that only draws a message's identity ends with the next one. -/
theorem course_freshId (broker : Broker) (drawnIds : Nat) :
    (Program.request .freshId).Course broker drawnIds [⟨.freshId, MessageId.ofNat drawnIds⟩]
      (MessageId.ofNat drawnIds) broker (drawnIds + 1) :=
  .ask (.done _ _ _)

/-- A program that only waits for a delivery that is there ends with it. -/
theorem course_next
    {stream : Stream}
    {delivery : Delivery}
    (polled : broker.poll stream = .item delivery after)
    (timeout : Duration)
    (drawnIds : Nat) :
    (Program.request (.next stream timeout)).Course broker drawnIds
      [⟨.next stream timeout, .item (.ok delivery)⟩] (.item (.ok delivery)) after drawnIds := by
  have answered :
      (Network.around broker drawnIds).answer (.next stream timeout) = .item (.ok delivery) := by
    simp [Network.answer, Network.around, polled]
  have left : (Network.around broker drawnIds).brokerAfter (.next stream timeout) = after := by
    simp [Network.brokerAfter, Network.around, polled]
  exact course_request answered left rfl

end

end Program

namespace Network

variable {network : Network} {place : Nat} {operation : Operation} {standing : Standing}
variable {history : History} {ended : Outcome operation.Value} {after : Broker} {drawnIds : Nat}

/-- A party that takes a course alone is told to have taken it, and is left idle. -/
def taking
    (network : Network)
    (place : Nat)
    (operation : Operation)
    (history : History)
    (ended : Outcome operation.Value)
    (after : Broker)
    (drawnIds : Nat) :
    Network where
  broker := after
  drawnIds := drawnIds
  parties := network.parties.set place (.idle ended.2)
  log :=
    network.log ++ history.map (.asked place operation) ++ [.finished place operation ended.1]

/-- As many moves as a course has waits take a party through the rest of its operation. -/
theorem run_proceed_of_course
    {program : Program (Outcome operation.Value)}
    (seated : network.parties[place]? = some (.busy operation standing program))
    (course : program.Course network.broker network.drawnIds history ended after drawnIds)
    (givesNothingUp : ∀ exchange ∈ history, ∀ stream, exchange.request ≠ .release stream) :
    (network.proceed place operation program standing).run
        (List.replicate (history.countP fun exchange => exchange.request.waits) (.resume place)) =
      network.taking place operation history ended after drawnIds := by
  induction program generalizing network standing history with
  | done value =>
      cases course
      simp [run, proceed, finish, tell, seat, taking]
  | ask request next inductionHypothesis =>
      obtain ⟨broker, drawnAfter⟩ :=
        surroundings_exchange network place standing request next
      cases course with
      | @ask _ _ _ _ _ _ rest _ course =>
          rw [← broker, ← drawnAfter, answer_around] at course
          rw [answer_around] at givesNothingUp ⊢
          have noRelease : ∀ stream, request ≠ .release stream :=
            givesNothingUp ⟨request, _⟩ List.mem_cons_self
          have seatedLeft :
              (network.exchange place operation standing request next).parties[place]? =
                some
                  (.busy operation (standing.after operation ⟨request, network.answer request⟩)
                    (next (network.answer request))) := by
            rw [parties_exchange, List.getElem?_set_self (lt_of_seated seated)]
          have goesOn :=
            inductionHypothesis _ seatedLeft course fun exchange member =>
              givesNothingUp exchange (List.mem_cons_of_mem _ member)
          have taken :
              (network.exchange place operation standing request next).taking place operation rest
                  ended after drawnIds =
                network.taking place operation (⟨request, network.answer request⟩ :: rest) ended
                  after drawnIds := by
            rw [exchange_eq next noRelease]
            simp [taking]
          rw [taken] at goesOn
          -- Only where the request waits does the network stop, and one more move takes it on.
          by_cases waits : request.waits = true
          · rw [proceed_of_waits waits, List.countP_cons, if_pos waits, List.replicate_succ]
            change (network.step (.resume place)).run _ = _
            rw [step_resume seated]
            exact goesOn
          · rw [proceed_of_not_waits waits, List.countP_cons, if_neg waits]
            exact goesOn

/-- A party goes through the course of an operation by going on behind each wait. -/
theorem run_performing_of_course
    {client : Client}
    (seated : network.parties[place]? = some (.idle client))
    (course :
      (operation.program client).Course network.broker network.drawnIds history ended after
        drawnIds)
    (givesNothingUp : ∀ exchange ∈ history, ∀ stream, exchange.request ≠ .release stream) :
    network.run
        (performing place operation (history.countP fun exchange => exchange.request.waits)) =
      network.taking place operation history ended after drawnIds := by
  let begun := network.seat place (.busy operation (.start client) (operation.program client))
  have seatedBegun :
      begun.parties[place]? =
        some (.busy operation (.start client) (operation.program client)) :=
    List.getElem?_set_self (lt_of_seated seated)
  change (network.step (.start place operation)).run _ = _
  rw [step_start seated, run_proceed_of_course seatedBegun course givesNothingUp]
  simp [taking, begun, seat]

/-- An operation without waits is over with the move that starts it. -/
theorem step_start_of_course
    {client : Client}
    (seated : network.parties[place]? = some (.idle client))
    (course :
      (operation.program client).Course network.broker network.drawnIds history ended after
        drawnIds)
    (prompt : ∀ exchange ∈ history, exchange.IsPrompt) :
    network.step (.start place operation) =
      network.taking place operation history ended after drawnIds := by
  have noWait : (history.countP fun exchange => exchange.request.waits) = 0 := by
    refine List.countP_eq_zero.mpr fun exchange member => ?_
    simp [(prompt exchange member).1]
  have performed :=
    run_performing_of_course seated course fun exchange member => (prompt exchange member).2
  rw [noWait] at performed
  exact performed

end Network

end BrokerClient
