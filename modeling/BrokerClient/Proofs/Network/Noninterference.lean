import BrokerClient.Proofs.Client.Lockstep
import BrokerClient.Proofs.Network.Course
import BrokerClient.Proofs.Network.Separation

/-!
# Clients of different queues do not interfere

Two clients that go by different tags and name different queues take turns at one broker.  Whatever
the turns are, each of them gets the results that it would get alone, in the same time, and sees its
registries and its channel as it would alone; only tags and identifiers may differ.
-/

namespace BrokerClient

/-! ## What is seen from outside -/

/-- What a party lets its caller know: how long it takes, and how operations end. -/
inductive Report : Type 1 where
  /-- So many milliseconds have passed. -/
  | waited (milliseconds : Nat)
  | ended (operation : Operation) (outcome : Except ClientError operation.Value)

/-- The end of an operation without tags and identifiers. -/
def Operation.anonymously
    (operation : Operation) :
    Except ClientError operation.Value → Except ClientError operation.Value
  | .ok value => .ok (operation.anonymous value)
  | .error error => .error error.anonymous

/-- Ends that are alike are the same without tags and identifiers. -/
theorem Operation.anonymously_eq
    (operation : Operation)
    {result result' : Except ClientError operation.Value}
    (results : Results ClientError.Alike operation.SameValue result result') :
    operation.anonymously result = operation.anonymously result' := by
  cases results with
  | ok isAlike => exact congrArg Except.ok isAlike
  | error isAlike => exact congrArg Except.error isAlike

/-- What an event lets the caller of a party know, tags and identifiers apart. -/
def Event.report? (place : Nat) : Event → Option Report
  | .asked party _ exchange =>
      if party = place ∧ exchange.request.waits = true then some (.waited exchange.waited) else none
  | .finished party operation outcome =>
      if party = place then some (.ended operation (operation.anonymously outcome)) else none
  | _ => none

/-- What can be seen of a client between its operations. -/
structure Look where
  lastError : Option ClientError
  /-- Whether the channel is usable, if one is held. -/
  channel : Option Bool
  queues : Dictionary QueueInfo
  /-- The queues that streams are held for. -/
  consumers : List String

namespace Network

/-- All that the caller of a party gets to know. -/
def reports (network : Network) (place : Nat) : List Report :=
  network.log.filterMap (Event.report? place)

/-- What can be seen of the client of an idle party. -/
def look? (network : Network) (place : Nat) : Option Look :=
  match network.parties[place]? with
  | some (.idle client) =>
      some
        { lastError := client.lastError.map ClientError.anonymous
          channel := client.channel.map network.broker.isOpen
          queues := client.queues
          consumers := client.streams.keys }
  | _ => none

end Network

/-- What a party does when it is its turn. -/
inductive Act : Type 1 where
  | start (operation : Operation)
  /-- It goes on behind a wait. -/
  | resume

namespace Act

/-- The turn of the party in a place. -/
def move (place : Nat) : Act → Move
  | .start operation => .start place operation
  | .resume => .resume place

/-- The queue that is named. -/
def queue? : Act → Option String
  | .start operation => operation.queue?
  | .resume => none

end Act

/-! ## Requests that are alike -/

namespace Request.Alike

variable {scope : Scope} {pairing grown : Pairing} {request request' : Request}
variable {answers : Pairing → request.Answer → request'.Answer → Prop}

theorem waits (alike : request.Alike scope pairing request' answers) :
    request.waits = request'.waits := by
  cases alike <;> rfl

/-- Answers that are alike have taken the same time. -/
theorem waited
    (alike : request.Alike scope pairing request' answers)
    {answer : request.Answer}
    {answer' : request'.Answer}
    (isAlike : answers grown answer answer') :
    (⟨request, answer⟩ : Exchange).waited = (⟨request', answer'⟩ : Exchange).waited := by
  cases alike with
  | next paired timeout => cases isAlike <;> rfl
  | _ => rfl

end Request.Alike

namespace Network

variable {network : Network} {place other : Nat} {operation : Operation} {standing : Standing}

theorem reports_exchange
    (request : Request)
    (next : request.Answer → Program (Outcome operation.Value)) :
    (network.exchange place operation standing request next).reports other =
      network.reports other ++
        if place = other ∧ request.waits = true then
          [.waited (⟨request, network.answer request⟩ : Exchange).waited]
        else [] := by
  cases request <;>
    simp only [exchange, dropStream, reports, List.filterMap_append, List.filterMap_cons,
      List.filterMap_nil, Event.report?, Request.waits]
  case release => simp
  all_goals split <;> simp_all

theorem reports_finish (ended : Outcome operation.Value) :
    (network.finish place operation ended).reports other =
      network.reports other ++
        if place = other then [.ended operation (operation.anonymously ended.1)] else [] := by
  simp only [finish, tell, seat, reports, List.filterMap_append, List.filterMap_cons,
    List.filterMap_nil, Event.report?]
  split <;> simp_all

end Network

/-! ## A network and one party of it alone -/

/-- Two parties are idle with clients that are alike, or in the middle of the same operation. -/
inductive Party.Alike (scope : Scope) (pairing : Pairing) : Party → Party → Prop
  | idle {client client' : Client} (clients : client.Alike scope pairing client') :
      Alike scope pairing (.idle client) (.idle client')
  | busy
      {operation : Operation}
      {rest rest' : Program (Outcome operation.Value)}
      (standing standing' : Standing)
      (matched :
        rest.Matches scope (Outcome.Alike scope operation.SameValue) pairing rest') :
      Alike scope pairing (.busy operation standing rest) (.busy operation standing' rest')

namespace Network

/-- The party in a place fares as the first party of another network does. -/
structure Tracks
    (scope : Scope)
    (pairing : Pairing)
    (network : Network)
    (place : Nat)
    (alone : Network) : Prop where
  brokers : network.broker.Alike scope pairing alone.broker
  reports : network.reports place = alone.reports 0
  parties :
    ∃ party party',
      network.parties[place]? = some party ∧ alone.parties[0]? = some party' ∧
        party.Alike scope pairing party'

/-- Two parties fare as they do alone, and they have no handle in common. -/
structure Shared
    (scope other : Scope)
    (pairing taken : Pairing)
    (network : Network)
    (place place' : Nat)
    (alone alone' : Network) : Prop where
  own : network.Tracks scope pairing place alone
  others : network.Tracks other taken place' alone'
  apart : pairing.Apart taken

section

variable {scope other : Scope} {pairing taken : Pairing} {network alone alone' : Network}
variable {place place' : Nat} {operation : Operation} {standing standing' : Standing}

theorem Shared.symm (shared : Shared scope other pairing taken network place place' alone alone') :
    Shared other scope taken pairing network place' place alone' alone :=
  ⟨shared.others, shared.own, shared.apart.symm⟩

/-- What happens elsewhere and leaves the broker alike is of no concern. -/
theorem Tracks.elsewhere
    {after : Network}
    (tracks : network.Tracks scope pairing place alone)
    (brokers : after.broker.Alike scope pairing alone.broker)
    (reports : after.reports place = network.reports place)
    (parties : after.parties[place]? = network.parties[place]?) :
    after.Tracks scope pairing place alone :=
  ⟨brokers, reports.trans tracks.reports, parties ▸ tracks.parties⟩

/-- A party is in the middle of an operation here and alone; another one fares as it does alone. -/
structure Midway
    (scope other : Scope)
    (pairing taken : Pairing)
    (network : Network)
    (place place' : Nat)
    (alone alone' : Network)
    (operation : Operation)
    (standing standing' : Standing)
    (rest rest' : Program (Outcome operation.Value)) : Prop where
  seated : network.parties[place]? = some (.busy operation standing rest)
  seated' : alone.parties[0]? = some (.busy operation standing' rest')
  brokers : network.broker.Alike scope pairing alone.broker
  reports : network.reports place = alone.reports 0
  others : network.Tracks other taken place' alone'
  apart : pairing.Apart taken

variable {rest rest' : Program (Outcome operation.Value)}

/-- A request that is answered here and alone. -/
theorem Midway.exchange
    (scopes : scope.Apart other)
    (places : place ≠ place')
    {request request' : Request}
    {next : request.Answer → Program (Outcome operation.Value)}
    {next' : request'.Answer → Program (Outcome operation.Value)}
    (midway :
      Midway scope other pairing taken network place place' alone alone' operation standing
        standing' (.ask request next) (.ask request' next'))
    {answers : Pairing → request.Answer → request'.Answer → Prop}
    (asked : request.Alike scope pairing request' answers) :
    ∃ grown,
      pairing ≤ grown ∧ answers grown (network.answer request) (alone.answer request') ∧
        Midway scope other grown taken
          (network.exchange place operation standing request next) place place'
          (alone.exchange 0 operation standing' request' next') alone' operation
          (standing.after operation ⟨request, network.answer request⟩)
          (standing'.after operation ⟨request', alone.answer request'⟩)
          (next (network.answer request)) (next' (alone.answer request')) := by
  obtain ⟨grown, gains, isAlike, left⟩ :=
    midway.brokers.answer asked network.drawnIds alone.drawnIds
  dsimp only at isAlike left
  obtain ⟨broker, -⟩ := surroundings_exchange network place standing request next
  obtain ⟨broker', -⟩ := surroundings_exchange alone 0 standing' request' next'
  rw [answer_around, answer_around] at isAlike
  rw [← broker, ← broker'] at left
  have elsewhere :
      (network.exchange place operation standing request next).Tracks other taken place'
        alone' := by
    refine midway.others.elsewhere ?_ ?_ ?_
    · rw [broker]
      exact midway.others.brokers.after_other midway.brokers scopes.symm midway.apart.symm asked _
    · rw [reports_exchange, if_neg fun isPlace => places isPlace.1, List.append_nil]
    · rw [parties_exchange, List.getElem?_set_ne places]
  refine ⟨grown, gains.grows, isAlike, ?_, ?_, left, ?_, elsewhere, ?_⟩
  · rw [parties_exchange, List.getElem?_set_self (lt_of_seated midway.seated)]
  · rw [parties_exchange, List.getElem?_set_self (lt_of_seated midway.seated')]
  · rw [reports_exchange, reports_exchange, midway.reports, asked.waits, asked.waited isAlike]
    simp
  · exact midway.others.brokers.apart_of_gains midway.apart gains

/-- Where a party stops in the middle of an operation. -/
theorem Midway.shared
    (midway :
      Midway scope other pairing taken network place place' alone alone' operation standing
        standing' rest rest')
    (matched : rest.Matches scope (Outcome.Alike scope operation.SameValue) pairing rest') :
    Shared scope other pairing taken network place place' alone alone' where
  own :=
    { brokers := midway.brokers
      reports := midway.reports
      parties := ⟨_, _, midway.seated, midway.seated', .busy standing standing' matched⟩ }
  others := midway.others
  apart := midway.apart

/-- Where an operation ends. -/
theorem Midway.finish
    {ended ended' : Outcome operation.Value}
    (places : place ≠ place')
    (midway :
      Midway scope other pairing taken network place place' alone alone' operation standing
        standing' (.done ended) (.done ended'))
    (ends : Outcome.Alike scope operation.SameValue pairing ended ended') :
    Shared scope other pairing taken (network.finish place operation ended) place place'
      (alone.finish 0 operation ended') alone' where
  own :=
    { brokers := midway.brokers
      reports := by
        rw [reports_finish, reports_finish, midway.reports, operation.anonymously_eq ends.results]
        simp
      parties :=
        ⟨_, _, List.getElem?_set_self (lt_of_seated midway.seated),
          List.getElem?_set_self (lt_of_seated midway.seated'), .idle ends.clients⟩ }
  others :=
    midway.others.elsewhere midway.others.brokers
      (by rw [reports_finish, if_neg places, List.append_nil])
      (List.getElem?_set_ne places)
  apart := midway.apart

/-- Both go on up to the next wait, or to the end. -/
theorem Midway.proceed
    (scopes : scope.Apart other)
    (places : place ≠ place')
    (midway :
      Midway scope other pairing taken network place place' alone alone' operation standing
        standing' rest rest')
    (matched : rest.Matches scope (Outcome.Alike scope operation.SameValue) pairing rest') :
    ∃ grown,
      Shared scope other grown taken (network.proceed place operation rest standing) place place'
        (alone.proceed 0 operation rest' standing') alone' := by
  -- Both stop at the same request, since requests that are alike wait or do not wait alike.
  induction matched generalizing network alone standing standing' with
  | @done pairing ended ended' ends =>
      exact ⟨pairing, midway.finish places ends⟩
  | @ask pairing request request' answers next next' asked rest inductionHypothesis =>
      by_cases waits : request.waits = true
      · rw [proceed_of_waits waits, proceed_of_waits (asked.waits ▸ waits)]
        exact ⟨pairing, midway.shared (.ask asked rest)⟩
      · obtain ⟨grown, grows, isAlike, answered⟩ := midway.exchange scopes places asked
        rw [proceed_of_not_waits waits, proceed_of_not_waits (asked.waits ▸ waits)]
        exact inductionHypothesis grown _ _ grows isAlike answered

/-- A party starts an operation, here and alone. -/
theorem Shared.start
    (shared : Shared scope other pairing taken network place place' alone alone')
    (scopes : scope.Apart other)
    (places : place ≠ place')
    {client client' : Client}
    (seated : network.parties[place]? = some (.idle client))
    (seated' : alone.parties[0]? = some (.idle client'))
    (clients : client.Alike scope pairing client')
    (operation : Operation)
    (named : ∀ queue ∈ operation.queue?, queue ∈ scope.names) :
    ∃ grown,
      Shared scope other grown taken (network.step (.start place operation)) place place'
        (alone.step (.start 0 operation)) alone' := by
  have midway :
      Midway scope other pairing taken
        (network.seat place (.busy operation (.start client) (operation.program client))) place
        place' (alone.seat 0 (.busy operation (.start client') (operation.program client'))) alone'
        operation (.start client) (.start client') (operation.program client)
        (operation.program client') :=
    { seated := List.getElem?_set_self (lt_of_seated seated)
      seated' := List.getElem?_set_self (lt_of_seated seated')
      brokers := shared.own.brokers
      reports := shared.own.reports
      others := shared.others.elsewhere shared.others.brokers rfl (List.getElem?_set_ne places)
      apart := shared.apart }
  rw [step_start seated, step_start seated']
  exact midway.proceed scopes places (operation.program_matches clients named)

/-- A party goes on behind a wait, here and alone. -/
theorem Shared.resume
    (shared : Shared scope other pairing taken network place place' alone alone')
    (scopes : scope.Apart other)
    (places : place ≠ place')
    {request request' : Request}
    {next : request.Answer → Program (Outcome operation.Value)}
    {next' : request'.Answer → Program (Outcome operation.Value)}
    (seated : network.parties[place]? = some (.busy operation standing (.ask request next)))
    (seated' : alone.parties[0]? = some (.busy operation standing' (.ask request' next')))
    (matched :
      (Program.ask request next).Matches scope (Outcome.Alike scope operation.SameValue) pairing
        (.ask request' next')) :
    ∃ grown,
      Shared scope other grown taken (network.step (.resume place)) place place'
        (alone.step (.resume 0)) alone' := by
  have midway :=
    Midway.mk seated seated' shared.own.brokers shared.own.reports shared.others shared.apart
  cases matched with
  | ask asked rest =>
      obtain ⟨grown, grows, isAlike, answered⟩ := midway.exchange scopes places asked
      rw [step_resume seated, step_resume seated']
      exact answered.proceed scopes places (rest grown _ _ grows isAlike)

/-- It is the turn of one party, here and alone. -/
theorem Shared.act
    (shared : Shared scope other pairing taken network place place' alone alone')
    (scopes : scope.Apart other)
    (places : place ≠ place')
    {act : Act}
    (named : ∀ queue ∈ act.queue?, queue ∈ scope.names) :
    ∃ grown,
      Shared scope other grown taken (network.step (act.move place)) place place'
        (alone.step (act.move 0)) alone' := by
  obtain ⟨party, party', seated, seated', parties⟩ := shared.own.parties
  have stays
      (nothing : network.step (act.move place) = network)
      (nothing' : alone.step (act.move 0) = alone) :
      ∃ grown,
        Shared scope other grown taken (network.step (act.move place)) place place'
          (alone.step (act.move 0)) alone' := by
    rw [nothing, nothing']
    exact ⟨pairing, shared⟩
  cases act with
  | start operation =>
      cases parties with
      | idle clients => exact shared.start scopes places seated seated' clients operation named
      | busy =>
          exact stays (by simp only [Act.move, step, seated])
            (by simp only [Act.move, step, seated'])
  | resume =>
      cases parties with
      | idle =>
          exact stays (by simp only [Act.move, step, seated])
            (by simp only [Act.move, step, seated'])
      | busy standing standing' matched =>
          cases matched with
          | done =>
              exact stays (by simp only [Act.move, step, seated])
                (by simp only [Act.move, step, seated'])
          | ask asked rest => exact shared.resume scopes places seated seated' (.ask asked rest)

/-- Whatever turns the parties take, both fare as they do alone. -/
theorem Shared.run
    (schedule : List (Act ⊕ Act))
    (shared : Shared scope other pairing taken network place place' alone alone')
    (scopes : scope.Apart other)
    (places : place ≠ place')
    (named : ∀ act, .inl act ∈ schedule → ∀ queue ∈ act.queue?, queue ∈ scope.names)
    (named' : ∀ act, .inr act ∈ schedule → ∀ queue ∈ act.queue?, queue ∈ other.names) :
    ∃ grown grown',
      Shared scope other grown grown'
        (network.run (schedule.map (Sum.elim (Act.move place) (Act.move place')))) place place'
        (alone.run ((schedule.filterMap Sum.getLeft?).map (Act.move 0)))
        (alone'.run ((schedule.filterMap Sum.getRight?).map (Act.move 0))) := by
  induction schedule generalizing network alone alone' pairing taken with
  | nil => exact ⟨pairing, taken, shared⟩
  | cons turn rest inductionHypothesis =>
      have restNamed : ∀ act, .inl act ∈ rest → ∀ queue ∈ act.queue?, queue ∈ scope.names :=
        fun act member => named act (List.mem_cons_of_mem _ member)
      have restNamed' : ∀ act, .inr act ∈ rest → ∀ queue ∈ act.queue?, queue ∈ other.names :=
        fun act member => named' act (List.mem_cons_of_mem _ member)
      cases turn with
      | inl act =>
          obtain ⟨grown, acted⟩ := shared.act scopes places (named act List.mem_cons_self)
          exact inductionHypothesis acted restNamed restNamed'
      | inr act =>
          obtain ⟨grown, acted⟩ :=
            shared.symm.act scopes.symm places.symm (named' act List.mem_cons_self)
          exact inductionHypothesis acted.symm restNamed restNamed'

theorem Tracks.look?_eq (tracks : network.Tracks scope pairing place alone) :
    network.look? place = alone.look? 0 := by
  obtain ⟨party, party', seated, seated', parties⟩ := tracks.parties
  unfold look?
  rw [seated, seated']
  cases parties with
  | busy => rfl
  | idle clients =>
      obtain ⟨channel, channel', isHeld, isHeld', paired⟩ := clients.channel
      simp [isHeld, isHeld', clients.lastError, clients.queues, clients.streams.keys,
        tracks.brokers.channels.usable channel channel' paired]

end

/-! ## Two clients that connect -/

/-- Somebody connects to the broker and takes the next place. -/
def connecting (place : Nat) (consumerId : String) (endpoint : Endpoint) : List Move :=
  [.join consumerId endpoint, .start place .reset]

/-- The client that somebody gets who connects to a broker. -/
def connected (broker : Broker) (consumerId : String) (endpoint : Endpoint) : Client :=
  { Client.new ⟨broker.dials + 1, broker.generation⟩ endpoint.url consumerId endpoint.options with
    channel := some ⟨broker.channelsOpened + 1, broker.generation⟩ }

theorem reset_course
    (broker : Broker)
    (consumerId : String)
    (endpoint : Endpoint)
    (drawnIds : Nat) :
    let connection : Connection := ⟨broker.dials + 1, broker.generation⟩
    let channel : Channel := ⟨broker.channelsOpened + 1, broker.generation⟩
    let dialed := { broker with dials := broker.dials + 1 }
    (Client.new connection endpoint.url consumerId endpoint.options).reset.Course dialed drawnIds
      [⟨.isClosed connection, false⟩, ⟨.transport (.openChannel connection), .ok channel⟩]
      (.ok (), connected broker consumerId endpoint)
      { dialed with channelsOpened := broker.channelsOpened + 1 } drawnIds := by
  intro connection channel dialed
  let fresh := Client.new connection endpoint.url consumerId endpoint.options
  let opened := { dialed with channelsOpened := broker.channelsOpened + 1 }
  have current : dialed.isClosed connection = false := by
    simp [Broker.isClosed, connection, dialed]
  have answered : (around dialed drawnIds).answer (.isClosed connection) = false := current
  have opens : dialed.perform (.openChannel connection) = (.ok channel, opened) := by
    simp [Broker.perform, Broker.openChannel, current, connection, channel, dialed, opened]
  have redialed :
      fresh.redial.Course dialed drawnIds [⟨.isClosed connection, false⟩] (.ok (), fresh) dialed
        drawnIds :=
    (Program.course_request answered rfl rfl).bind_done rfl
  have replaced :
      fresh.replaceChannel.Course dialed drawnIds
        [⟨.transport (.openChannel connection), .ok channel⟩]
        (.ok (), connected broker consumerId endpoint) opened drawnIds :=
    (Program.course_call opens drawnIds).bind_done rfl
  have reopened :
      fresh.reopen.Course dialed drawnIds
        ([⟨.isClosed connection, false⟩] ++ [⟨.transport (.openChannel connection), .ok channel⟩])
        (.ok (), connected broker consumerId endpoint) opened drawnIds :=
    redialed.bind replaced
  exact reopened.bind_done rfl

/-- A network once somebody has connected. -/
def joinedBy (network : Network) (consumerId : String) (endpoint : Endpoint) : Network :=
  let place := network.parties.length
  let connection : Connection := ⟨network.broker.dials + 1, network.broker.generation⟩
  let channel : Channel := ⟨network.broker.channelsOpened + 1, network.broker.generation⟩
  { broker :=
      { network.broker with
        dials := network.broker.dials + 1
        channelsOpened := network.broker.channelsOpened + 1 }
    drawnIds := network.drawnIds
    parties := network.parties ++ [.idle (connected network.broker consumerId endpoint)]
    log :=
      network.log ++
        [.joined connection,
          .asked place .reset ⟨.isClosed connection, false⟩,
          .asked place .reset ⟨.transport (.openChannel connection), .ok channel⟩,
          .finished place .reset (.ok ())] }

/-- Where the broker does not refuse it, somebody who connects has done so in two moves. -/
theorem run_connecting
    {network : Network}
    (accepts : network.broker.refusesDials = false)
    (consumerId : String)
    (endpoint : Endpoint) :
    network.run (connecting network.parties.length consumerId endpoint) =
      network.joinedBy consumerId endpoint := by
  let place := network.parties.length
  let connection : Connection := ⟨network.broker.dials + 1, network.broker.generation⟩
  let channel : Channel := ⟨network.broker.channelsOpened + 1, network.broker.generation⟩
  let fresh := Client.new connection endpoint.url consumerId endpoint.options
  let joined : Network :=
    { network with
      broker := { network.broker with dials := network.broker.dials + 1 }
      parties := network.parties ++ [.idle fresh]
      log := network.log ++ [.joined connection] }
  have dials : network.broker.dial = (.ok connection, joined.broker) := by
    simp [Broker.dial, accepts, joined, connection]
  have joins : network.step (.join consumerId endpoint) = joined := by
    simp only [step, dials]
    rfl
  have seated : joined.parties[place]? = some (.idle fresh) := by
    simp [joined, place]
  let history : History :=
    [⟨.isClosed connection, false⟩, ⟨.transport (.openChannel connection), .ok channel⟩]
  let ended : Outcome Unit := (.ok (), connected network.broker consumerId endpoint)
  let opened := { joined.broker with channelsOpened := network.broker.channelsOpened + 1 }
  have course :
      (Operation.program fresh .reset).Course joined.broker joined.drawnIds history ended opened
        joined.drawnIds :=
    reset_course network.broker consumerId endpoint network.drawnIds
  have resets :
      joined.step (.start place .reset) =
        joined.taking place .reset history ended opened joined.drawnIds :=
    step_start_of_course seated course (by simp [history, Exchange.IsPrompt, Request.waits])
  have parties :
      joined.parties.set place (.idle ended.2) = network.parties ++ [.idle ended.2] := by
    simp [joined, place]
  change (network.step (.join consumerId endpoint)).step (.start place .reset) = _
  rw [joins, resets]
  unfold taking joinedBy
  rw [parties, List.append_assoc, List.append_assoc]
  rfl

end Network

/-- A pair of channels, and no streams. -/
def Pairing.only (channel channel' : Channel) : Pairing where
  channels other other' := other = channel ∧ other' = channel'
  streams _ _ := False

/-- A broker without consumers looks alike to a client that has nothing but a new channel. -/
theorem Broker.alike_of_new_channel
    {broker : Broker}
    (numbered : broker.Numbered)
    (noConsumers : broker.consumers = [])
    (scope : Scope)
    (current : scope.generation = broker.generation)
    {dials dials' opened opened' number number' : Nat}
    (isNew : broker.channelsOpened < number ∧ number ≤ opened)
    (isNew' : broker.channelsOpened < number' ∧ number' ≤ opened') :
    Alike scope (.only ⟨number, broker.generation⟩ ⟨number', broker.generation⟩)
      { broker with dials := dials, channelsOpened := opened }
      { broker with dials := dials', channelsOpened := opened' } := by
  have apart (own : Stream → Prop) : ConsumersApart scope own broker.consumers broker.feeds := by
    rw [noConsumers]
    exact ⟨List.Pairwise.nil, by simp, by simp⟩
  have isOpen {fresh : Nat} (isFresh : broker.channelsOpened < fresh) :
      broker.isOpen ⟨fresh, broker.generation⟩ = true := by
    have notClosed : fresh ∉ broker.closedChannels :=
      fun member => Nat.lt_irrefl _ (isFresh.trans_le (numbered _ member))
    simpa [Broker.isOpen] using notClosed
  refine ⟨⟨fun _ _ => rfl, by simp [noConsumers], by simp [Pairing.only], by simp [Pairing.only],
    apart _, apart _⟩, ⟨current.symm, current.symm, ?_, ?_, ?_, ?_, ?_⟩⟩
  · rintro _ _ ⟨rfl, rfl⟩
    exact (isOpen isNew.1).trans (isOpen isNew'.1).symm
  · rintro _ _ ⟨rfl, rfl⟩
    exact ⟨isNew.2, isNew'.2⟩
  · rintro _ _ _ _ ⟨rfl, rfl⟩ ⟨rfl, rfl⟩
    exact iff_of_true rfl rfl
  · exact fun fresh member => (numbered fresh member).trans (isNew.1.le.trans isNew.2)
  · exact fun fresh member => (numbered fresh member).trans (isNew'.1.le.trans isNew'.2)

namespace Network

/-- A client that has connected looks alike wherever it has. -/
theorem connected_alike
    {broker broker' : Broker}
    {scope : Scope}
    {pairing : Pairing}
    (current : broker.generation = scope.generation)
    (current' : broker'.generation = scope.generation)
    (paired :
      pairing.channels ⟨broker.channelsOpened + 1, broker.generation⟩
        ⟨broker'.channelsOpened + 1, broker'.generation⟩)
    (endpoint : Endpoint) :
    (connected broker scope.tag endpoint).Alike scope pairing
      (connected broker' scope.tag endpoint) where
  lastError := rfl
  channel := ⟨_, _, rfl, rfl, paired⟩
  here := current
  there := current'
  tagHere := rfl
  tagThere := rfl
  options := rfl
  queues := rfl
  streams := .nil

/-- Two clients that have connected one after the other fare as they do alone so far. -/
theorem shared_joined
    {broker : Broker}
    (numbered : broker.Numbered)
    (noConsumers : broker.consumers = [])
    (drawnIds : Nat)
    (first second : String)
    (endpoint endpoint' : Endpoint)
    (names names' : Set String) :
    let network := around broker drawnIds
    Shared ⟨first, broker.generation, names⟩ ⟨second, broker.generation, names'⟩
      (.only ⟨broker.channelsOpened + 1, broker.generation⟩
        ⟨broker.channelsOpened + 1, broker.generation⟩)
      (.only ⟨broker.channelsOpened + 1 + 1, broker.generation⟩
        ⟨broker.channelsOpened + 1, broker.generation⟩)
      ((network.joinedBy first endpoint).joinedBy second endpoint') 0 1
      (network.joinedBy first endpoint) (network.joinedBy second endpoint') := by
  intro network
  refine ⟨⟨?_, rfl, _, _, rfl, rfl, .idle ?_⟩, ⟨?_, rfl, _, _, rfl, rfl, .idle ?_⟩, ?_, ?_⟩
  · exact Broker.alike_of_new_channel numbered noConsumers _ rfl
      ⟨Nat.lt_succ_self _, Nat.le_succ _⟩ ⟨Nat.lt_succ_self _, Nat.le_refl _⟩
  · exact connected_alike rfl rfl (by exact ⟨rfl, rfl⟩) endpoint
  · exact Broker.alike_of_new_channel numbered noConsumers _ rfl
      ⟨Nat.lt_succ_of_le (Nat.le_succ _), Nat.le_refl _⟩ ⟨Nat.lt_succ_self _, Nat.le_refl _⟩
  · exact connected_alike rfl rfl (by exact ⟨rfl, rfl⟩) endpoint'
  · rintro _ _ _ _ ⟨rfl, -⟩ ⟨rfl, -⟩
    exact (Nat.lt_succ_self _).ne
  · rintro _ _ _ _ ⟨⟩

/-- Two clients connect, and then they take turns. -/
def takingTurns
    (network : Network)
    (first second : String)
    (endpoint endpoint' : Endpoint)
    (schedule : List (Act ⊕ Act)) :
    Network :=
  network.run
    (connecting 0 first endpoint ++ connecting 1 second endpoint' ++
      schedule.map (Sum.elim (Act.move 0) (Act.move 1)))

/-- A client connects, and then all turns are its own. -/
def acting
    (network : Network)
    (consumerId : String)
    (endpoint : Endpoint)
    (acts : List Act) :
    Network :=
  network.run (connecting 0 consumerId endpoint ++ acts.map (Act.move 0))

/--
Two clients with different tags connect to a broker without consumers and then take turns, in any
order, at operations that name different queues.  Each of them gets the results and waits the times
that it would if it were alone, and what can be seen of its registries and its channel is the same.
-/
theorem fares_as_alone
    (arbitration : Arbitration)
    (moves : List Move)
    (noConsumers : ((start arbitration).run moves).broker.consumers = [])
    (accepts : ((start arbitration).run moves).broker.refusesDials = false)
    {first second : String}
    (differ : first ≠ second)
    (endpoint endpoint' : Endpoint)
    (schedule : List (Act ⊕ Act))
    (disjoint :
      ∀ act act' queue,
        .inl act ∈ schedule → .inr act' ∈ schedule →
          act.queue? = some queue → act'.queue? ≠ some queue)
    (drawnIds : Nat) :
    let before := around ((start arbitration).run moves).broker drawnIds
    let joint := before.takingTurns first second endpoint endpoint' schedule
    let firstAlone := before.acting first endpoint (schedule.filterMap Sum.getLeft?)
    let secondAlone := before.acting second endpoint' (schedule.filterMap Sum.getRight?)
    joint.reports 0 = firstAlone.reports 0 ∧ joint.look? 0 = firstAlone.look? 0 ∧
      joint.reports 1 = secondAlone.reports 0 ∧ joint.look? 1 = secondAlone.look? 0 := by
  intro before
  let names : Set String := { queue | ∃ act, .inl act ∈ schedule ∧ act.queue? = some queue }
  let names' : Set String := { queue | ∃ act, .inr act ∈ schedule ∧ act.queue? = some queue }
  have scopes :
      Scope.Apart ⟨first, before.broker.generation, names⟩
        ⟨second, before.broker.generation, names'⟩ := by
    refine ⟨differ, ?_⟩
    rintro queue ⟨act, member, isNamed⟩ ⟨act', member', isNamed'⟩
    exact disjoint act act' queue member member' isNamed isNamed'
  obtain ⟨grown, grown', shared⟩ :=
    (shared_joined (numbered_run arbitration moves).closed noConsumers drawnIds first second
      endpoint endpoint' names names').run schedule scopes Nat.zero_ne_one
      (fun act member queue isNamed => ⟨act, member, isNamed⟩)
      (fun act member queue isNamed => ⟨act, member, isNamed⟩)
  have connects : before.run (connecting 0 first endpoint) = before.joinedBy first endpoint :=
    @run_connecting before accepts first endpoint
  have connects' : before.run (connecting 0 second endpoint') = before.joinedBy second endpoint' :=
    @run_connecting before accepts second endpoint'
  have connectsThen :
      (before.joinedBy first endpoint).run (connecting 1 second endpoint') =
        (before.joinedBy first endpoint).joinedBy second endpoint' :=
    @run_connecting (before.joinedBy first endpoint) accepts second endpoint'
  simp only [takingTurns, acting, run_append, connects, connects', connectsThen]
  exact ⟨shared.own.reports, shared.own.look?_eq, shared.others.reports, shared.others.look?_eq⟩

/-- One client waits for its messages while the other one waits in vain and closes. -/
def turns : List (Act ⊕ Act) :=
  [.inl (.start (.receive "jobs" Except.ok)),
    .inr (.start (.ensureQueue (.new "tasks"))),
    .inr (.start (.receive "tasks" Except.ok)),
    .inl .resume,
    .inr .resume,
    .inl (.start (.receive "jobs" Except.ok)),
    .inr (.start .close),
    .inl .resume]

/-- What waits for one client is received while the other one is there as if it were not. -/
theorem received_beside_another :
    ((start .byConsumerTag).run [.disturb (.pushRaw "jobs" [0x31])]).broker.consumers = [] ∧
      ((start .byConsumerTag).run [.disturb (.pushRaw "jobs" [0x31])]).broker.refusesDials =
        false ∧
      "worker" ≠ "other" ∧
      (∀ act act' queue,
        .inl act ∈ turns → .inr act' ∈ turns →
          act.queue? = some queue → act'.queue? ≠ some queue) ∧
      let before :=
        around ((start .byConsumerTag).run [.disturb (.pushRaw "jobs" [0x31])]).broker 0
      let joint := before.takingTurns "worker" "other" (.new "memory") (.new "memory") turns
      let firstAlone := before.acting "worker" (.new "memory") (turns.filterMap Sum.getLeft?)
      let secondAlone := before.acting "other" (.new "memory") (turns.filterMap Sum.getRight?)
      joint.reports 0 = firstAlone.reports 0 ∧ joint.look? 0 = firstAlone.look? 0 ∧
        joint.reports 1 = secondAlone.reports 0 ∧ joint.look? 1 = secondAlone.look? 0 ∧
        (joint.reports 0).length = 5 ∧ (joint.reports 1).length = 5 := by
  have disjoint :
      ∀ act act' queue,
        .inl act ∈ turns → .inr act' ∈ turns →
          act.queue? = some queue → act'.queue? ≠ some queue := by
    have named :
        ∀ turn ∈ turns,
          turn.elim (fun act => ∀ queue ∈ act.queue?, queue = "jobs")
            (fun act => ∀ queue ∈ act.queue?, queue = "tasks") := by
      simp [turns, Act.queue?, Operation.queue?, QueueDefinition.new]
    intro act act' queue member member' isNamed isNamed'
    have isFirst : queue = "jobs" := named _ member queue isNamed
    have isSecond : queue = "tasks" := named _ member' queue isNamed'
    exact absurd (isFirst.symm.trans isSecond) (by decide)
  obtain ⟨reports, looks, reports', looks'⟩ :=
    fares_as_alone .byConsumerTag [.disturb (.pushRaw "jobs" [0x31])] rfl rfl
      (show "worker" ≠ "other" by decide) (.new "memory") (.new "memory") turns disjoint 0
  exact ⟨rfl, rfl, by decide, disjoint, reports, looks, reports', looks', by decide +kernel,
    by decide +kernel⟩

end Network

end BrokerClient
