import BrokerClient.Proofs.Broker.Stock
import BrokerClient.Session.Step

/-!
# When a wait for a delivery is over

While a client waits, nothing happens but the events that are due.  What a stream offers at a point
of time is therefore what it offers once the events up to that time have happened, and no event
takes an offer back.  A wait is over as soon as anything is offered, and at its deadline at the
latest.
-/

namespace BrokerClient

/-! ## What a stream offers -/

namespace Broker

variable {broker broker' : Broker} {stream : Stream}

/-- What a stream offers to a client that waits for it. -/
def offer? (broker : Broker) (stream : Stream) : Option Arrival :=
  match broker.poll stream with
  | .item delivery _ => some (.item (.ok delivery))
  | .ended => some .ended
  | .pending => none

/-- A stream that nothing feeds has ended once it is empty. -/
theorem poll_of_unfed
    (empty : broker.buffer stream = [])
    (unfed : broker.feed? stream = none ∨ broker.isFed stream = false) :
    broker.poll stream = .ended := by
  unfold poll
  cases isFeed : broker.feed? stream with
  | none => rfl
  | some feed =>
      have noBuffer : feed.buffer = [] := by simpa [buffer, isFeed] using empty
      rcases unfed with unknown | unfed
      · cases isFeed.symm.trans unknown
      · simp [noBuffer, unfed]

theorem unfed_of_poll (polled : broker.poll stream = .ended) :
    broker.feed? stream = none ∨ broker.isFed stream = false := by
  unfold poll at polled
  split at polled
  · next unknown => exact .inl unknown
  · split at polled
    · cases polled
    · split at polled
      · cases polled
      · next unfed => exact .inr (by simpa using unfed)

/-- What is put into a stream goes to its end, and only into a stream that is fed. -/
structure AddsTo (broker broker' : Broker) (stream : Stream) : Prop where
  buffer :
    ∃ added,
      broker'.buffer stream = broker.buffer stream ++ added ∧
        (broker.isFed stream = false → added = [])
  fed : broker'.isFed stream = true → broker.isFed stream = true
  unknown : broker.feed? stream = none → broker'.feed? stream = none

/-- What is added to a stream does not change what it offers. -/
theorem AddsTo.offer
    {arrival : Arrival}
    (adds : broker.AddsTo broker' stream)
    (offers : broker.offer? stream = some arrival) :
    broker'.offer? stream = some arrival := by
  obtain ⟨added, shape, onlyFed⟩ := adds.buffer
  unfold offer? at offers
  split at offers
  · next delivery left polled =>
      obtain ⟨rest, isBuffer, -⟩ := poll_item polled
      rw [isBuffer] at shape
      obtain ⟨left', polled'⟩ := poll_of_buffer shape
      rw [offer?, polled']
      exact offers
  · next polled =>
      have empty := poll_ended polled
      have ended : broker'.poll stream = .ended := by
        rcases unfed_of_poll polled with unknown | unfed
        · have stillUnknown := adds.unknown unknown
          exact poll_of_unfed (by simp [Broker.buffer, stillUnknown]) (.inl stillUnknown)
        · rw [empty, onlyFed unfed] at shape
          refine poll_of_unfed shape (.inr (eq_false_of_ne_true fun fed => ?_))
          cases unfed.symm.trans (adds.fed fed)
      rw [offer?, ended]
      exact offers
  · cases offers

theorem addsTo_of_keepsMessages (keeps : broker.KeepsMessages broker') :
    broker.AddsTo broker' stream where
  buffer := ⟨[], by rw [buffer_of_feeds keeps.feeds, List.append_nil], fun _ => rfl⟩
  fed fed := by
    obtain ⟨entry, member, isStream⟩ := isFed_iff.mp fed
    exact isFed_iff.mpr ⟨entry, keeps.consumers.subset member, isStream⟩
  unknown unknown := by rw [feed?_of_feeds keeps.feeds, unknown]

theorem addsTo_of_accepts {delivery : Delivery} (accepts : broker.Accepts broker' delivery) :
    broker.AddsTo broker' stream := by
  have fed : broker'.isFed stream = true → broker.isFed stream = true := by
    rw [isFed_iff, isFed_iff, accepts.consumers]
    exact id
  rcases accepts.goes with ⟨consumer, hands⟩ | stores
  · by_cases same : stream = consumer.stream
    · subst same
      refine ⟨⟨[delivery], hands.buffer_self, fun unfed => ?_⟩, fed, fun unknown => ?_⟩
      · obtain ⟨entry, member, rfl⟩ := hands.registered
        cases unfed.symm.trans (isFed_iff.mpr ⟨entry, member, rfl⟩)
      · obtain ⟨feed, isFeed, -⟩ := hands.live
        cases isFeed.symm.trans unknown
    · refine ⟨⟨[], ?_, fun _ => rfl⟩, fed, fun unknown => ?_⟩
      · rw [hands.buffer_other same, List.append_nil]
      · rw [feed?_of_feeds hands.feeds, feed?_modifyFeed_other _ same, unknown]
  · refine ⟨⟨[], ?_, fun _ => rfl⟩, fed, fun unknown => ?_⟩
    · rw [buffer_of_feeds stores.feeds, List.append_nil]
    · rw [feed?_of_feeds stores.feeds, unknown]

end Broker

namespace Environment

variable {environment : Environment} {stream : Stream}

/-- No event takes back what a stream offers. -/
theorem offer?_fire
    {arrival : Arrival}
    (event : ScheduledEvent)
    (offers : environment.broker.offer? stream = some arrival) :
    (environment.fire event).broker.offer? stream = some arrival := by
  obtain ⟨time, step⟩ := event
  cases step with
  | pushRaw queue body =>
      exact (Broker.addsTo_of_accepts (Broker.accepts_accept queue .none body)).offer offers
  | dropConnections =>
      exact (Broker.addsTo_of_keepsMessages Broker.keepsMessages_dropConnections).offer offers
  | dropConsumers =>
      exact (Broker.addsTo_of_keepsMessages Broker.keepsMessages_dropConsumers).offer offers
  | refuseDials refuses =>
      exact (Broker.addsTo_of_keepsMessages (Broker.keepsMessages_refuseDials refuses)).offer offers
  | script kind outcomes times => exact offers

/-- What a stream offers it still offers when events have happened. -/
theorem offer?_passEvents
    {arrival : Arrival}
    (limit : Nat)
    (events : List ScheduledEvent)
    (offers : environment.broker.offer? stream = some arrival) :
    (passEvents limit events environment).broker.offer? stream = some arrival := by
  induction events generalizing environment with
  | nil => exact offers
  | cons event rest inductionHypothesis =>
      unfold passEvents
      split
      · exact inductionHypothesis (offer?_fire event offers)
      · exact offers

/--
What a stream offers at a point of time to a client that begins to wait for it now: the broker's
streams yield what they have once the events up to then have happened, and a scripted stream its
next item when that has been waited for.
-/
def offer? (environment : Environment) (stream : Stream) (time : Nat) : Option Arrival :=
  match environment.scripted? stream with
  | some scripted =>
      match scripted.items with
      | item :: _ => if environment.now + item.delay ≤ time then some (.item item.content) else none
      | [] => if scripted.ends then some .ended else none
  | none => (environment.advanceTo time).broker.offer? stream

end Environment

/-! ## The first offer -/

/--
How a wait ends, and when, if this is what is offered at each point of time: with what is offered
first, or else with nothing at the deadline.
-/
inductive WaitEnds
    (offers? : Nat → Option Arrival)
    (start deadline : Nat) :
    Arrival → Nat → Prop where
  | arrives
      {arrival : Arrival}
      {time : Nat}
      (begun : start ≤ time)
      (inTime : time ≤ deadline)
      (offered : offers? time = some arrival)
      (first : ∀ earlier, start ≤ earlier → earlier < time → offers? earlier = none) :
      WaitEnds offers? start deadline arrival time
  | timesOut
      (nothing : ∀ time, start ≤ time → time ≤ deadline → offers? time = none) :
      WaitEnds offers? start deadline .timedOut deadline

namespace WaitEnds

variable {offers? others? : Nat → Option Arrival} {start later deadline time other : Nat}
variable {arrival otherArrival : Arrival}

/-- A wait that has begun before, when nothing was offered yet, ends in the same way. -/
theorem begunEarlier
    (ends : WaitEnds others? later deadline arrival time)
    (earlier : start ≤ later)
    (same : ∀ time, later ≤ time → offers? time = others? time)
    (nothing : ∀ time, start ≤ time → time < later → offers? time = none) :
    WaitEnds offers? start deadline arrival time := by
  cases ends with
  | arrives begun inTime offered first =>
      apply WaitEnds.arrives (Nat.le_trans earlier begun) inTime
      · rw [same time begun]
        exact offered
      · intro moment sinceStart before
        rcases Nat.lt_or_ge moment later with early | late
        · exact nothing moment sinceStart early
        · rw [same moment late]
          exact first moment late before
  | timesOut never =>
      apply WaitEnds.timesOut
      intro moment sinceStart inTime
      rcases Nat.lt_or_ge moment later with early | late
      · exact nothing moment sinceStart early
      · rw [same moment late]
        exact never moment late inTime

/-- A wait ends in one way only. -/
theorem unique
    (ends : WaitEnds offers? start deadline arrival time)
    (endsOther : WaitEnds offers? start deadline otherArrival other) :
    arrival = otherArrival ∧ time = other := by
  cases ends with
  | arrives begun inTime offered first =>
      cases endsOther with
      | arrives begunOther inTimeOther offeredOther firstOther =>
          rcases Nat.lt_trichotomy time other with before | rfl | behind
          · cases offered.symm.trans (firstOther time begun before)
          · exact ⟨Option.some.inj (offered.symm.trans offeredOther), rfl⟩
          · cases offeredOther.symm.trans (first other begunOther behind)
      | timesOut never => cases offered.symm.trans (never time begun inTime)
  | timesOut never =>
      cases endsOther with
      | arrives begunOther inTimeOther offeredOther _ =>
          cases offeredOther.symm.trans (never other begunOther inTimeOther)
      | timesOut _ => exact ⟨rfl, rfl⟩

end WaitEnds

namespace Environment

variable {environment : Environment} {stream : Stream}

/-- What is offered at once is taken at once. -/
theorem awaitFeed_of_offer
    {arrival : Arrival}
    (deadline : Nat)
    (events : List ScheduledEvent)
    (offers : environment.broker.offer? stream = some arrival) :
    (awaitFeed stream deadline events environment).1 = arrival ∧
      (awaitFeed stream deadline events environment).2.now = environment.now := by
  cases polled : environment.broker.poll stream with
  | item delivery left =>
      rw [Broker.offer?, polled] at offers
      unfold awaitFeed
      rw [polled]
      exact ⟨Option.some.inj offers, rfl⟩
  | ended =>
      rw [Broker.offer?, polled] at offers
      unfold awaitFeed
      rw [polled]
      exact ⟨Option.some.inj offers, rfl⟩
  | pending =>
      rw [Broker.offer?, polled] at offers
      cases offers

theorem poll_of_no_offer (nothing : environment.broker.offer? stream = none) :
    environment.broker.poll stream = .pending := by
  unfold Broker.offer? at nothing
  split at nothing
  · cases nothing
  · cases nothing
  · next polled => exact polled

/-- A wait that finds something offered ends where it begins. -/
theorem awaitFeed_waitEnds_of_offer
    {arrival : Arrival}
    {deadline : Nat}
    (begun : environment.now ≤ deadline)
    (events : List ScheduledEvent)
    (offers : environment.broker.offer? stream = some arrival) :
    WaitEnds (fun time => (passEvents time events environment).broker.offer? stream)
      environment.now deadline (awaitFeed stream deadline events environment).1
      (awaitFeed stream deadline events environment).2.now := by
  obtain ⟨isArrival, isNow⟩ := awaitFeed_of_offer deadline events offers
  rw [isArrival, isNow]
  apply WaitEnds.arrives (Nat.le_refl _) begun
  · exact offer?_passEvents _ events offers
  · intro earlier sinceStart before
    exact absurd before (Nat.not_lt.mpr sinceStart)

/-- Waiting on a stream of the broker ends with the first offer. -/
theorem awaitFeed_waitEnds
    {deadline : Nat}
    {events : List ScheduledEvent}
    (begun : environment.now ≤ deadline)
    (rising : events.Pairwise fun first second => first.time ≤ second.time)
    (ahead : ∀ event ∈ events, environment.now ≤ event.time) :
    WaitEnds (fun time => (passEvents time events environment).broker.offer? stream)
      environment.now deadline (awaitFeed stream deadline events environment).1
      (awaitFeed stream deadline events environment).2.now := by
  induction events generalizing environment with
  | nil =>
      cases offers : environment.broker.offer? stream with
      | some arrival => exact awaitFeed_waitEnds_of_offer begun [] offers
      | none =>
          unfold awaitFeed
          rw [poll_of_no_offer offers]
          exact .timesOut fun _ _ _ => offers
  | cons event rest inductionHypothesis =>
      cases offers : environment.broker.offer? stream with
      | some arrival => exact awaitFeed_waitEnds_of_offer begun (event :: rest) offers
      | none =>
          obtain ⟨behind, restRising⟩ := List.pairwise_cons.mp rising
          -- Before the next event nothing is offered, and from it on what the rest of them brings.
          have before (time : Nat) (early : time < event.time) :
              (passEvents time (event :: rest) environment).broker.offer? stream = none := by
            rw [passEvents, if_neg (Nat.not_le.mpr early)]
            exact offers
          have fromThere (time : Nat) (late : event.time ≤ time) :
              passEvents time (event :: rest) environment =
                passEvents time rest (environment.fire event) := by
            rw [passEvents, if_pos late]
          have fires : (environment.fire event).now = event.time := by
            obtain ⟨time, step⟩ := event
            cases step <;> rfl
          have isAhead := ahead event (.head _)
          unfold awaitFeed
          rw [poll_of_no_offer offers]
          dsimp only
          split
          · next inTime =>
              have ends :=
                @inductionHypothesis (environment.fire event) (fires ▸ inTime) restRising
                  fun other member => fires ▸ behind other member
              rw [fires] at ends
              apply ends.begunEarlier isAhead
              · intro time late
                rw [fromThere time late]
              · intro time _ early
                exact before time early
          · next late =>
              apply WaitEnds.timesOut
              intro time sinceStart inTime
              exact before time (Nat.lt_of_le_of_lt inTime (Nat.not_le.mp late))

/-- The events to come are due in order, and none of them is overdue. -/
structure Ordered (environment : Environment) : Prop where
  rising : environment.schedule.Pairwise fun first second => first.time ≤ second.time
  ahead : ∀ event ∈ environment.schedule, environment.now ≤ event.time

/-- Waiting on a scripted stream ends with its next item if that comes in time, or its end. -/
theorem awaitScripted_waitEnds
    {scripted : ScriptedStream}
    (isScripted : environment.scripted? stream = some scripted)
    {deadline : Nat}
    (begun : environment.now ≤ deadline) :
    WaitEnds (environment.offer? stream) environment.now deadline
      (environment.awaitScripted scripted deadline).1
      (environment.awaitScripted scripted deadline).2.now := by
  unfold awaitScripted
  cases items : scripted.items with
  | nil =>
      cases ends : scripted.ends with
      | true =>
          apply WaitEnds.arrives (Nat.le_refl _) begun
          · simp [offer?, isScripted, items, ends]
          · intro earlier sinceStart before
            exact absurd before (Nat.not_lt.mpr sinceStart)
      | false =>
          apply WaitEnds.timesOut
          intro time _ _
          simp [offer?, isScripted, items, ends]
  | cons item rest =>
      have offered (time : Nat) :
          environment.offer? stream time =
            if environment.now + item.delay ≤ time then some (.item item.content) else none := by
        simp [offer?, isScripted, items]
      dsimp only
      split
      · next inTime =>
          apply WaitEnds.arrives (Nat.le_add_right _ _) inTime
          · rw [offered, if_pos (Nat.le_refl _)]
          · intro earlier _ before
            rw [offered, if_neg (Nat.not_le.mpr before)]
      · next late =>
          apply WaitEnds.timesOut
          intro time _ inTime
          rw [offered, if_neg (Nat.not_le.mpr (Nat.lt_of_le_of_lt inTime (Nat.not_le.mp late)))]

/-- A wait ends with what its stream offers first, or with nothing when its time is up. -/
theorem await_waitEnds (ordered : environment.Ordered) (stream : Stream) (timeout : Duration) :
    WaitEnds (environment.offer? stream) environment.now
      (environment.now + timeout.milliseconds) (environment.await stream timeout).1
      (environment.await stream timeout).2.now := by
  have begun := Nat.le_add_right environment.now timeout.milliseconds
  unfold await
  cases isScripted : environment.scripted? stream with
  | some scripted => exact awaitScripted_waitEnds isScripted begun
  | none =>
      have offered : environment.offer? stream =
          fun time =>
            (passEvents time environment.schedule environment).broker.offer? stream := by
        funext time
        simp [offer?, isScripted, advanceTo]
      rw [offered]
      exact awaitFeed_waitEnds begun ordered.rising ordered.ahead

/-! ## Events stay in order -/

/-- Neither the time nor the events to come have changed. -/
structure SameClock (before after : Environment) : Prop where
  now : after.now = before.now
  schedule : after.schedule = before.schedule

theorem SameClock.trans
    {before between after : Environment}
    (first : before.SameClock between)
    (second : between.SameClock after) :
    before.SameClock after :=
  ⟨second.now.trans first.now, second.schedule.trans first.schedule⟩

theorem SameClock.ordered
    {before after : Environment}
    (same : before.SameClock after)
    (ordered : before.Ordered) :
    after.Ordered := by
  constructor
  · rw [same.schedule]
    exact ordered.rising
  · rw [same.schedule, same.now]
    exact ordered.ahead

theorem sameClock_apply (environment : Environment) (step : BrokerStep) :
    environment.SameClock (environment.apply step) := by
  cases step <;> exact ⟨rfl, rfl⟩

theorem sameClock_askBroker (environment : Environment) (call : Call) :
    environment.SameClock (environment.askBroker call).2 :=
  ⟨rfl, rfl⟩

theorem sameClock_prescribe (environment : Environment) (call : Call) (outcome : ScriptedOutcome) :
    environment.SameClock (environment.prescribe call outcome).2 := by
  unfold prescribe
  split
  all_goals try exact ⟨rfl, rfl⟩
  · next connection =>
      split
      · next channel opened asked =>
          have same := environment.sameClock_askBroker (.openChannel connection)
          rw [asked] at same
          exact ⟨same.now, same.schedule⟩
      · next error asked =>
          have same := environment.sameClock_askBroker (.openChannel connection)
          rw [asked] at same
          exact same

/-- A call takes no time. -/
theorem sameClock_answerCall (environment : Environment) (call : Call) :
    environment.SameClock (environment.answerCall call).2 := by
  unfold answerCall
  cases environment.script.take call.kind with
  | mk outcome script =>
      let left : Environment := { environment with script := script }
      cases outcome with
      | none =>
          have answered := left.sameClock_askBroker call
          exact ⟨answered.now, answered.schedule⟩
      | some outcome =>
          have answered := left.sameClock_prescribe call outcome
          exact ⟨answered.now, answered.schedule⟩

theorem ordered_passEvents
    {limit : Nat}
    {events : List ScheduledEvent}
    (rising : events.Pairwise fun first second => first.time ≤ second.time) :
    (passEvents limit events environment).schedule.Pairwise
        (fun first second => first.time ≤ second.time) ∧
      ∀ event ∈ (passEvents limit events environment).schedule, limit ≤ event.time := by
  induction events generalizing environment with
  | nil => exact ⟨.nil, nofun⟩
  | cons event rest inductionHypothesis =>
      obtain ⟨behind, restRising⟩ := List.pairwise_cons.mp rising
      unfold passEvents
      split
      · exact inductionHypothesis restRising
      · next late =>
          have isAhead : limit ≤ event.time := Nat.le_of_lt (Nat.not_le.mp late)
          refine ⟨rising, fun other member => ?_⟩
          cases member with
          | head => exact isAhead
          | tail _ inRest => exact Nat.le_trans isAhead (behind other inRest)

/-- Letting time pass leaves the events behind that point of time. -/
theorem ordered_advanceTo (ordered : environment.Ordered) (limit : Nat) :
    (environment.advanceTo limit).Ordered :=
  have passed := ordered_passEvents ordered.rising
  ⟨passed.1, passed.2⟩

theorem ordered_awaitFeed
    {deadline : Nat}
    {events : List ScheduledEvent}
    (rising : events.Pairwise fun first second => first.time ≤ second.time)
    (ahead : ∀ event ∈ events, environment.now ≤ event.time) :
    (awaitFeed stream deadline events environment).2.Ordered := by
  induction events generalizing environment with
  | nil =>
      unfold awaitFeed
      split
      · exact ⟨rising, ahead⟩
      · exact ⟨rising, ahead⟩
      · exact ⟨.nil, nofun⟩
  | cons event rest inductionHypothesis =>
      obtain ⟨behind, restRising⟩ := List.pairwise_cons.mp rising
      have fires : (environment.fire event).now = event.time :=
        (sameClock_apply _ event.step).now
      unfold awaitFeed
      split
      · exact ⟨rising, ahead⟩
      · exact ⟨rising, ahead⟩
      · dsimp only
        split
        · exact inductionHypothesis restRising fun other member => fires ▸ behind other member
        · next late =>
            have isAhead : deadline ≤ event.time := Nat.le_of_lt (Nat.not_le.mp late)
            refine ⟨rising, fun other member => ?_⟩
            cases member with
            | head => exact isAhead
            | tail _ inRest => exact Nat.le_trans isAhead (behind other inRest)

theorem ordered_await (ordered : environment.Ordered) (stream : Stream) (timeout : Duration) :
    (environment.await stream timeout).2.Ordered := by
  unfold await
  split
  · unfold awaitScripted
    split
    · split
      · exact ordered
      · exact ordered_advanceTo ordered _
    · dsimp only
      split
      · have advanced := ordered_advanceTo ordered
        exact ⟨(advanced _).rising, (advanced _).ahead⟩
      · exact ordered_advanceTo ordered _
  · exact ordered_awaitFeed ordered.rising ordered.ahead

/-- Whatever is asked, the events to come stay in order. -/
theorem ordered_answer (ordered : environment.Ordered) (request : Request) :
    (environment.answer request).2.Ordered := by
  cases request with
  | transport call => exact (environment.sameClock_answerCall call).ordered ordered
  | sleep duration => exact ordered_advanceTo ordered _
  | next stream timeout => exact ordered_await ordered stream timeout
  | isClosed connection => exact ordered
  | release stream => exact ⟨ordered.rising, ordered.ahead⟩
  | describe message => exact ⟨ordered.rising, ordered.ahead⟩
  | freshId => exact ⟨ordered.rising, ordered.ahead⟩

theorem ordered_run
    {α : Type}
    (ordered : environment.Ordered)
    (program : Program α) :
    (program.run answer environment).2.Ordered := by
  induction program generalizing environment with
  | done value => exact ordered
  | ask request next inductionHypothesis =>
      exact inductionHypothesis _ (ordered_answer ordered request)

theorem mem_of_mem_insertEvent
    {event other : ScheduledEvent}
    {events : List ScheduledEvent}
    (member : other ∈ insertEvent event events) :
    other = event ∨ other ∈ events := by
  induction events with
  | nil => exact .inl (List.mem_singleton.mp member)
  | cons first rest inductionHypothesis =>
      unfold insertEvent at member
      split at member
      · exact List.mem_cons.mp member
      · cases member with
        | head => exact .inr (.head _)
        | tail _ inRest => exact (inductionHypothesis inRest).imp_right (.tail _)

theorem rising_insertEvent
    (event : ScheduledEvent)
    {events : List ScheduledEvent}
    (rising : events.Pairwise fun first second => first.time ≤ second.time) :
    (insertEvent event events).Pairwise fun first second => first.time ≤ second.time := by
  induction events with
  | nil => exact List.pairwise_singleton _ _
  | cons first rest inductionHypothesis =>
      obtain ⟨behind, restRising⟩ := List.pairwise_cons.mp rising
      unfold insertEvent
      split
      · next isFirst =>
          refine List.pairwise_cons.mpr ⟨fun other member => ?_, rising⟩
          cases member with
          | head => exact Nat.le_of_lt isFirst
          | tail _ inRest => exact Nat.le_trans (Nat.le_of_lt isFirst) (behind other inRest)
      · next isLater =>
          refine List.pairwise_cons.mpr ⟨fun other member => ?_, inductionHypothesis restRising⟩
          rcases mem_of_mem_insertEvent member with rfl | inRest
          · exact Nat.not_lt.mp isLater
          · exact behind other inRest

/-- What is scheduled from now on is put where it belongs. -/
theorem ordered_scheduleIn (ordered : environment.Ordered) (delay : Nat) (step : BrokerStep) :
    (environment.scheduleIn delay step).Ordered := by
  refine ⟨rising_insertEvent _ ordered.rising, fun event member => ?_⟩
  rcases mem_of_mem_insertEvent member with rfl | isOld
  · exact Nat.le_add_right _ _
  · exact ordered.ahead event isOld

end Environment

namespace Session

variable {session : Session}

theorem ordered_run
    {α : Type}
    (ordered : session.environment.Ordered)
    (program : Program α) :
    (session.run program).2.environment.Ordered :=
  Environment.ordered_run ordered program

theorem ordered_replace
    (ordered : session.environment.Ordered)
    (name : String)
    (client : Client) :
    (session.replace name client).environment.Ordered := by
  unfold replace
  split
  · exact ordered
  · exact ordered_run ordered _

theorem ordered_runClient
    {α : Type}
    (ordered : session.environment.Ordered)
    (name : String)
    (operation : Program (Outcome α)) :
    (session.runClient name operation).2.environment.Ordered :=
  ordered_run ordered operation

theorem ordered_clientStep
    (ordered : session.environment.Ordered)
    (name : String)
    (client : Client)
    (step : ClientStep) :
    (session.clientStep name client step).2.environment.Ordered := by
  cases step with
  | inspectQueue queue =>
      have kept := ordered_runClient ordered name (client.inspectQueue queue)
      unfold clientStep
      dsimp only
      split <;> next ran =>
        rw [ran] at kept
        exact kept
  | deleteQueue queue =>
      have kept := ordered_runClient ordered name (client.deleteQueue queue)
      unfold clientStep
      dsimp only
      split <;> next ran =>
        rw [ran] at kept
        exact kept
  | receive queue kind =>
      have kept := ordered_runClient ordered name (client.receive queue kind.decode)
      unfold clientStep receivedResult
      dsimp only
      split <;> exact kept
  | setLastError error => exact ordered
  | resetError => exact ordered
  | _ => exact ordered_runClient ordered name _

/-- A step of a session leaves its events in order. -/
theorem ordered_step (ordered : session.environment.Ordered) (step : SessionStep) :
    (session.step step).2.environment.Ordered := by
  cases step with
  | broker step => exact (session.environment.sameClock_apply step).ordered ordered
  | queueExists queue => exact ordered
  | brokerState => exact ordered
  | sleep duration => exact ordered_run ordered (Program.request (.sleep duration))
  | schedule delay step => exact Environment.ordered_scheduleIn ordered delay step
  | connect name consumerId endpoint =>
      have kept := ordered_run ordered (endpoint.connect consumerId)
      unfold Session.step
      dsimp only
      split
      · next connected =>
          rw [connected] at kept
          exact ordered_replace kept name _
      · next unreachable =>
          rw [unreachable] at kept
          exact kept
  | dial name consumerId endpoint =>
      have kept := ordered_run ordered (endpoint.dial consumerId)
      unfold Session.step
      dsimp only
      split
      · next dialed =>
          rw [dialed] at kept
          exact ordered_replace kept name _
      · next unreachable =>
          rw [unreachable] at kept
          exact kept
  | settle name index settlement =>
      unfold Session.step
      dsimp only
      split
      · exact ⟨ordered.rising, ordered.ahead⟩
      · exact ordered
  | trace index =>
      unfold Session.step
      dsimp only
      split <;> exact ordered
  | client name step =>
      unfold Session.step
      dsimp only
      split
      · exact ordered_clientStep ordered name _ step
      · exact ordered

/-- The sessions that steps lead to, with their logs taken in between. -/
inductive Reached (propagator : Propagator) (arbitration : Arbitration) : Session → Prop where
  | start : Reached propagator arbitration (.start propagator arbitration)
  | step
      {session : Session}
      (reached : Reached propagator arbitration session)
      (step : SessionStep) :
      Reached propagator arbitration (session.step step).2
  | logged
      {session : Session}
      (reached : Reached propagator arbitration session) :
      Reached propagator arbitration session.takeLog.2

/-- In every session the events to come are due in order. -/
theorem Reached.ordered
    {propagator : Propagator}
    {arbitration : Arbitration}
    (reached : Reached propagator arbitration session) :
    session.environment.Ordered := by
  induction reached with
  | start => exact ⟨.nil, nofun⟩
  | step _ step inductionHypothesis => exact ordered_step inductionHypothesis step
  | logged _ inductionHypothesis =>
      exact ⟨inductionHypothesis.rising, inductionHypothesis.ahead⟩

end Session

end BrokerClient
