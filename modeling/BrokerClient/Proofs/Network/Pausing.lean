import BrokerClient.Proofs.Network.Aside
import BrokerClient.Proofs.Network.Stretch
import BrokerClient.Proofs.Session.Waiting

/-!
# Attempts of a receive among others

A party that receives from a queue that is missing makes an attempt, gets another channel and
pauses.  Nobody else has that channel, so nothing that others do spoils it, and the next attempt is
made on a usable one.  If the queue exists by then and nobody has taken its first message, the party
has got that message in its stream, and nobody takes it from there.
-/

namespace BrokerClient

namespace Client

variable {Content : Type}

/-- What a receive makes of a delivery. -/
def handOut
    (consumerId : String)
    (decode : List UInt8 → Except CodecError Content)
    (delivery : Delivery) :
    Except ClientError (Delivery × Content) :=
  if delivery.body.isEmpty then
    .error (.emptyDelivery consumerId delivery)
  else
    readDelivery decode delivery

/-- What is left of a receive while it waits for a delivery. -/
def fetching
    (client : Client)
    (queue : String)
    (stream : Stream)
    (decode : List UInt8 → Except CodecError Content) :
    Program (Outcome (Delivery × Content)) :=
  (client.awaitDelivery queue stream).bind fun waited => record (reading decode waited)

/-- A party that waits for a delivery is done when it has one. -/
theorem fetching_ask
    (client : Client)
    (queue : String)
    (stream : Stream)
    (decode : List UInt8 → Except CodecError Content)
    (delivery : Delivery) :
    ∃ next,
      client.fetching queue stream decode =
          .ask (.next stream client.options.receiveTimeout) next ∧
        next (.item (.ok delivery)) =
          .done (recorded (handOut client.consumerId decode delivery, client)) := by
  refine ⟨_, rfl, ?_⟩
  change
    (if delivery.body.isEmpty then
          Program.done (.error (.emptyDelivery client.consumerId delivery), client)
        else
          Program.done (.ok delivery, client)).bind
        (fun waited => record (reading decode waited)) = _
  by_cases empty : delivery.body.isEmpty = true
  · rw [handOut, if_pos empty, if_pos empty]
    rfl
  · rw [handOut, if_neg empty, if_neg empty]
    rfl

end Client

namespace Network

variable {Content : Type} {decode : List UInt8 → Except CodecError Content}
variable {network : Network} {place : Nat} {client : Client} {queue : String} {channel : Channel}

/-- All parties are at rest, and an idle one has a usable channel, on a connection that is alive. -/
structure Poised
    (network : Network)
    (place : Nat)
    (client : Client)
    (channel : Channel) : Prop where
  atRest : network.AtRest
  numbered : network.Numbered
  idle : network.parties[place]? = some (.idle client)
  isHeld : client.channel = some channel
  usable : network.broker.isOpen channel = true
  alive : network.broker.isClosed client.connection = false

/--
In a receive that has found its queue missing a party pauses before another attempt, with so many
retries left behind that one.  Its client, but for the attempt, has a channel to itself.
-/
structure Pauses
    (network : Network)
    (place : Nat)
    (client : Client)
    (queue : String)
    (decode : List UInt8 → Except CodecError Content)
    (retries : Nat)
    (channel : Channel) : Prop where
  seated :
    ∃ standing,
      network.parties[place]? =
        some
          (.busy (.receive queue decode) standing
            (((client.withChannel channel).pausing queue retries).bind
              (Client.receiving queue decode)))
  atRest : (network.seat place (.idle (client.withChannel channel))).AtRest
  numbered : (network.seat place (.idle (client.withChannel channel))).Numbered
  attached :
    (network.seat place (.idle (client.withChannel channel))).Attached place
      (client.withChannel channel) channel

/-- A party waits for a delivery that is in its stream. -/
structure Fetches
    (network : Network)
    (place : Nat)
    (client : Client)
    (queue : String)
    (decode : List UInt8 → Except CodecError Content)
    (stream : Stream)
    (delivery : Delivery) : Prop where
  seated :
    ∃ standing,
      network.parties[place]? =
        some (.busy (.receive queue decode) standing (client.fetching queue stream decode))
  offered : ∃ rest, network.broker.buffer stream = delivery :: rest

/-- A message is the first in the backlog of a queue that nobody consumes. -/
structure Stored (queue : String) (delivery : Delivery) (broker : Broker) : Prop where
  first : ∃ rest, broker.backlog queue = delivery :: rest
  unconsumed : ∀ entry ∈ broker.consumers, entry.2.queue ≠ queue

/-! ## Attempts -/

section

variable {registering : Program (Outcome Unit)}

variable (decode) in
/-- A program that has begun goes on to its attempt and from there as far as it comes at once. -/
theorem proceed_of_begins
    (idle : network.parties[place]? = some (.idle client))
    {retries : Nat}
    (begins : Client.Begins registering client queue retries network.broker)
    {history : History}
    {rest : Program (Outcome Unit)}
    {after : Broker}
    {registrations channels : Nat}
    (attempts :
      (Client.consumeWithin queue retries client).Stretch network.broker network.drawnIds history
        rest after network.drawnIds)
    (spends : Client.Spends history registrations channels)
    (standing : Standing) :
    let operation := Operation.receive queue decode
    let program := registering.bind (Client.receiving queue decode)
    let left := rest.bind (Client.receiving queue decode)
    ∃ standingThen told,
      (network.seat place (.busy operation standing program)).proceed place operation program
            standing =
          (network.reaching place operation standingThen left told after
            network.drawnIds).proceed place operation left standingThen ∧
        Event.attempts place told = registrations ∧ Event.openings place told = channels := by
  intro operation program left
  let begun := network.seat place (.busy operation standing program)
  have seated : begun.parties[place]? = some (.busy operation standing program) :=
    List.getElem?_set_self (lt_of_seated idle)
  obtain ⟨first, negotiates, spendsNothing⟩ := begins network.drawnIds
  have spendsAll : Client.Spends (first ++ history) registrations channels := by
    simpa using spendsNothing.append spends
  obtain ⟨standingThen, told, proceeds, calls⟩ :=
    proceed_of_stretch seated
      ((negotiates.trans attempts).bind (Client.receiving queue decode)) spendsAll.prompt
  have reached :
      begun.reaching place operation standingThen left told after network.drawnIds =
        network.reaching place operation standingThen left told after network.drawnIds := by
    simp [reaching, begun, seat]
  refine ⟨standingThen, told, reached ▸ proceeds, ?_, ?_⟩
  · rw [Event.attempts, calls, spendsAll.registrations]
  · rw [Event.openings, calls, spendsAll.channels]

end

/-- A client that has replaced its channel has the new one to itself, and it is usable. -/
theorem Poised.renewed
    (poised : network.Poised place client channel)
    (feeds : List Feed)
    (drawnIds : Nat)
    (log : List Event) :
    let fresh := client.replacement network.broker
    let party := Party.idle (client.withChannel fresh)
    let after : Network :=
      ⟨network.broker.replacing channel feeds, drawnIds, network.parties.set place party, log⟩
    after.AtRest ∧ after.Numbered ∧ after.Attached place (client.withChannel fresh) fresh := by
  intro fresh party after
  have opened : network.broker.HasOpened channel :=
    poised.numbered.held place _ poised.idle client channel rfl poised.isHeld
  have keeps : network.broker.KeepsNumbers (network.broker.replacing channel feeds) :=
    Broker.keepsNumbers_replacing opened feeds
  refine ⟨?_, ?_, ?_⟩
  · have coherent : (client.withChannel fresh).Coherent := .of_held rfl List.Pairwise.nil
    exact forall_seated_set (.idle coherent) fun other found _ => poised.atRest other found
  · refine poised.numbered.set keeps (fun found held isFound isHeld => ?_) drawnIds log
    obtain rfl := Option.some.inj isFound
    obtain rfl := Option.some.inj isHeld
    exact Nat.le_refl _
  · refine ⟨List.getElem?_set_self (lt_of_seated poised.idle), rfl, ?_, ?_, ?_⟩
    · exact Client.isOpen_replacement poised.numbered.closed opened poised.alive feeds
    · exact poised.alive
    · intro other held differs isHeld
      have wasOpened := poised.numbered.number_le (channel?_of_set rfl differs isHeld)
      exact Nat.ne_of_lt (Nat.lt_succ_of_le wasOpened)

section

variable {registering : Program (Outcome Unit)}

variable (decode) in
/-- Where the queue is missing an attempt comes to a pause, on another channel. -/
theorem Poised.pauses
    (poised : network.Poised place client channel)
    {remaining : Nat}
    (begins : Client.Begins registering client queue (remaining + 1) network.broker)
    (missing : network.broker.queues.get? queue = none)
    (retriesOn : client.options.notFound.retryOn (Broker.noQueue queue) = true)
    (standing : Standing) :
    let program := registering.bind (Client.receiving queue decode)
    let after :=
      (network.seat place (.busy (.receive queue decode) standing program)).proceed place
        (.receive queue decode) program standing
    (∃ fresh, after.Pauses place client queue decode remaining fresh) ∧
      network.Spends after place 1 1 := by
  intro program after
  let fresh := client.replacement network.broker
  obtain ⟨history, feeds, attempts, spends⟩ :=
    Client.consumeWithin_stretch_of_missing poised.isHeld poised.usable missing poised.alive
      retriesOn remaining network.drawnIds
  obtain ⟨standingThen, told, proceeds, registers, opens⟩ :=
    proceed_of_begins decode poised.idle begins attempts spends standing
  have isAfter : after = network.reaching place _ standingThen _ told _ network.drawnIds :=
    proceeds.trans (proceed_of_waits rfl)
  obtain ⟨atRest, numbered, attached⟩ :=
    poised.renewed feeds network.drawnIds (network.log ++ told)
  have reseated :
      after.seat place (.idle (client.withChannel fresh)) =
        ⟨network.broker.replacing channel feeds, network.drawnIds,
          network.parties.set place (.idle (client.withChannel fresh)), network.log ++ told⟩ := by
    rw [isAfter]
    simp [seat, reaching]
  refine ⟨⟨fresh, ⟨standingThen, ?_⟩, reseated ▸ atRest, reseated ▸ numbered,
    reseated ▸ attached⟩, told, ?_, registers, opens⟩
  · rw [isAfter]
    exact List.getElem?_set_self (lt_of_seated poised.idle)
  · rw [isAfter]
    rfl

variable (decode) in
/-- Where the queue is missing and no retry is left the receive fails. -/
theorem Poised.fails
    (poised : network.Poised place client channel)
    (begins : Client.Begins registering client queue 0 network.broker)
    (missing : network.broker.queues.get? queue = none)
    (standing : Standing) :
    let program := registering.bind (Client.receiving queue decode)
    let refusal :=
      ClientError.consumerDeclaration queue client.consumerId (Broker.noQueue queue).message
    let after :=
      (network.seat place (.busy (.receive queue decode) standing program)).proceed place
        (.receive queue decode) program standing
    ∃ told,
      after.log =
          network.log ++ (told ++ [.finished place (.receive queue decode) (.error refusal)]) ∧
        Event.attempts place told = 1 ∧ Event.openings place told = 0 := by
  intro program refusal after
  obtain ⟨history, attempts, spends⟩ :=
    Client.consumeWithin_stretch_of_spent poised.isHeld poised.usable missing network.drawnIds
  obtain ⟨standingThen, told, proceeds, registers, opens⟩ :=
    proceed_of_begins decode poised.idle begins attempts spends standing
  refine ⟨told, ?_, registers, opens⟩
  have isAfter : after = _ := proceeds
  rw [isAfter, ← List.append_assoc]
  rfl

variable (decode) in
/-- Where a message is stored an attempt gets it into the stream. -/
theorem Poised.fetches
    (poised : network.Poised place client channel)
    {retries : Nat}
    (begins : Client.Begins registering client queue retries network.broker)
    (free : client.streams.get? queue = none)
    {delivery : Delivery}
    (stored : Stored queue delivery network.broker)
    (standing : Standing) :
    let program := registering.bind (Client.receiving queue decode)
    let after :=
      (network.seat place (.busy (.receive queue decode) standing program)).proceed place
        (.receive queue decode) program standing
    (∃ registered stream,
        registered.consumerId = client.consumerId ∧
          after.Fetches place registered queue decode stream delivery) ∧
      network.Spends after place 1 0 := by
  intro program after
  obtain ⟨rest, first⟩ := stored.first
  obtain ⟨backlog, found⟩ : ∃ backlog, network.broker.queues.get? queue = some backlog := by
    cases found : network.broker.queues.get? queue with
    | some backlog => exact ⟨backlog, rfl⟩
    | none => simp [Broker.backlog, found] at first
  obtain ⟨stream, left, consumed, registers⟩ :=
    Broker.registers_consume found channel client.consumerId
  let registered := { client with streams := client.streams.insert queue stream }
  obtain ⟨history, attempts, spends⟩ :=
    Client.consumeWithin_stretch_of_granted poised.isHeld poised.usable free consumed retries
      network.drawnIds
  obtain ⟨standingThen, told, proceeds, asks, opens⟩ :=
    proceed_of_begins decode poised.idle begins attempts spends standing
  have waits :
      (Program.done (.ok (), registered)).bind (Client.receiving queue decode) =
        registered.fetching queue stream decode := by
    have isStream : registered.streams.get? queue = some stream :=
      Dictionary.get?_insert_same _ _ _
    simp only [Program.done_bind, Client.receiving, Client.awaiting, isStream, Client.fetching]
  rw [waits] at proceeds
  have isAfter : after = network.reaching place _ standingThen _ told _ network.drawnIds :=
    proceeds.trans (proceed_of_waits rfl)
  refine ⟨⟨registered, stream, rfl, ⟨standingThen, ?_⟩, rest, ?_⟩, told, ?_, asks, opens⟩
  · rw [isAfter]
    exact List.getElem?_set_self (lt_of_seated poised.idle)
  · rw [isAfter]
    exact registers.buffer_self.trans first
  · rw [isAfter]
    rfl

end

/-! ## While the party pauses -/

/-- What is told without a call of a party costs it nothing. -/
theorem spends_nothing
    {after : Network}
    {told : List Event}
    (log : after.log = network.log ++ told)
    (noCalls : Event.calls place told = []) :
    network.Spends after place 0 0 :=
  ⟨told, log, by rw [Event.attempts, noCalls]; rfl, by rw [Event.openings, noCalls]; rfl⟩

theorem Spends.trans
    {between after : Network}
    {registrations channels registrationsThen channelsThen : Nat}
    (first : network.Spends between place registrations channels)
    (second : between.Spends after place registrationsThen channelsThen) :
    network.Spends after place (registrations + registrationsThen) (channels + channelsThen) := by
  obtain ⟨told, log, rfl, rfl⟩ := first
  obtain ⟨toldThen, logThen, rfl, rfl⟩ := second
  exact ⟨told ++ toldThen, by rw [logThen, log, List.append_assoc], by simp, by simp⟩

/-- What holds of every broker endures whatever happens. -/
theorem endures_always
    {holds : Broker → Prop}
    (always : ∀ broker, holds broker)
    (place : Nat)
    (client : Client)
    (harmless : Event → Prop)
    (known : Network → Prop) :
    Endures place client harmless known holds where
  kept _ after _ _ := always after
  accepted _ after _ _ _ := always after
  deleted _ after _ _ _ _ _ _ := always after
  registered _ after _ _ _ _ _ _ _ _ _ _ := always after
  taken _ _ _ _ _ _ _ _ _ _ _ _ := always _
  released _ _ _ _ _ _ _ _ _ _ := always _

variable {retries : Nat}

/-- A pause lasts as long as the retry policy says. -/
theorem Pauses.due
    (pauses : network.Pauses place client queue decode retries channel)
    (since now : Nat) :
    network.due? place since now =
      some (max now (since + client.options.notFound.backoff.milliseconds)) := by
  obtain ⟨standing, seated⟩ := pauses.seated
  simp only [due?, seated]
  rfl

/-- Others leave a pause as it is, and what nobody spoils endures it. -/
theorem Pauses.aside
    (pauses : network.Pauses place client queue decode retries channel)
    {harmless : Event → Prop}
    {holds : Broker → Prop}
    (endures :
      Endures place (client.withChannel channel) harmless
        (fun network =>
          network.Numbered ∧ network.Attached place (client.withChannel channel) channel)
        holds)
    (before : holds network.broker)
    {move : Move}
    (elsewhere : move.IsElsewhere place)
    (notOwn : move ≠ .resume place) :
    (network.step move).Pauses place client queue decode retries channel ∧
      ∃ told,
        (network.step move).log = network.log ++ told ∧ Event.calls place told = [] ∧
          ((∀ event ∈ told, harmless event) → holds (network.step move).broker) := by
  have keepsKnown := (keeps_numbered.restrict fun _ _ => trivial).and
    (keeps_attached place (client.withChannel channel) channel)
  obtain ⟨standing, seated⟩ := pauses.seated
  obtain ⟨seatedThen, atRest, ⟨numbered, attached⟩, told⟩ :=
    endures.step keepsKnown seated pauses.atRest ⟨pauses.numbered, pauses.attached⟩ before
      elsewhere notOwn
  exact ⟨⟨⟨standing, seatedThen⟩, atRest, numbered, attached⟩, told⟩

/-- Behind a pause the party is where another attempt begins. -/
theorem Pauses.wakes
    (pauses : network.Pauses place client queue decode retries channel) :
    let program :=
      ((client.withChannel channel).retrying queue retries).bind (Client.receiving queue decode)
    ∃ woken standing,
      woken.Poised place (client.withChannel channel) channel ∧
        woken.broker = network.broker ∧ network.Spends woken place 0 0 ∧
          network.step (.resume place) =
            (woken.seat place (.busy (.receive queue decode) standing program)).proceed place
              (.receive queue decode) program standing := by
  intro program
  obtain ⟨standing, seated⟩ := pauses.seated
  let pause := Exchange.mk (.sleep client.options.notFound.backoff) ()
  let told := Event.asked place (.receive queue decode) pause
  let woken := (network.seat place (.idle (client.withChannel channel))).tell told
  obtain ⟨idle, isHeld, usable, alive, -⟩ := pauses.attached
  have numbered : woken.Numbered := ⟨pauses.numbered.closed, pauses.numbered.held⟩
  refine ⟨woken, standing.after (.receive queue decode) pause,
    ⟨pauses.atRest, numbered, idle, isHeld, usable, alive⟩, rfl, spends_nothing rfl ?_, ?_⟩
  · simp [told, pause, Event.calls, Event.call?, History.call?]
  · have begun :
        woken.seat place
            (.busy (.receive queue decode) (standing.after (.receive queue decode) pause) program) =
          network.exchange place (.receive queue decode) standing
            (.sleep client.options.notFound.backoff) fun _ => program := by
      simp only [woken, tell, seat, List.set_set]
      rfl
    rw [begun]
    exact step_resume seated

/-- If the queue is still missing and a retry is left, there is another pause. -/
theorem Pauses.again
    (pauses : network.Pauses place client queue decode (retries + 1) channel)
    (missing : network.broker.queues.get? queue = none)
    (retriesOn : client.options.notFound.retryOn (Broker.noQueue queue) = true) :
    (∃ fresh, (network.step (.resume place)).Pauses place client queue decode retries fresh) ∧
      network.Spends (network.step (.resume place)) place 1 1 := by
  obtain ⟨woken, standing, poised, sameBroker, spendsNothing, resumes⟩ := pauses.wakes
  have begins := Client.begins_retrying poised.isHeld poised.usable queue (retries + 1)
  obtain ⟨⟨fresh, pausesThen⟩, spends⟩ :=
    poised.pauses decode begins (sameBroker ▸ missing) retriesOn standing
  rw [resumes]
  refine ⟨⟨fresh, pausesThen.seated, pausesThen.atRest, pausesThen.numbered, pausesThen.attached⟩,
    ?_⟩
  simpa using spendsNothing.trans spends

/-- If the queue is still missing and no retry is left, the receive fails. -/
theorem Pauses.fails
    (pauses : network.Pauses place client queue decode 0 channel)
    (missing : network.broker.queues.get? queue = none) :
    let refusal :=
      ClientError.consumerDeclaration queue client.consumerId (Broker.noQueue queue).message
    ∃ told,
      (network.step (.resume place)).log =
          network.log ++ (told ++ [.finished place (.receive queue decode) (.error refusal)]) ∧
        Event.attempts place told = 1 ∧ Event.openings place told = 0 := by
  intro refusal
  obtain ⟨woken, standing, poised, sameBroker, ⟨waking, log, noAttempt, noOpening⟩, resumes⟩ :=
    pauses.wakes
  have begins := Client.begins_retrying poised.isHeld poised.usable queue 0
  obtain ⟨told, logThen, registers, opens⟩ :=
    poised.fails decode begins (sameBroker ▸ missing) standing
  rw [resumes]
  refine ⟨waking ++ told, ?_, by simp [noAttempt, registers], by simp [noOpening, opens]⟩
  refine logThen.trans ?_
  rw [log]
  simp only [List.append_assoc]
  rfl

/-- If a message is stored by then, the party gets it into its stream. -/
theorem Pauses.fetches
    (pauses : network.Pauses place client queue decode retries channel)
    {delivery : Delivery}
    (stored : Stored queue delivery network.broker) :
    (∃ registered stream,
        registered.consumerId = client.consumerId ∧
          (network.step (.resume place)).Fetches place registered queue decode stream delivery) ∧
      network.Spends (network.step (.resume place)) place 1 0 := by
  obtain ⟨woken, standing, poised, sameBroker, spendsNothing, resumes⟩ := pauses.wakes
  have begins := Client.begins_retrying poised.isHeld poised.usable queue retries
  obtain ⟨fetches, spends⟩ := poised.fetches decode begins rfl (sameBroker ▸ stored) standing
  rw [resumes]
  exact ⟨fetches, by simpa using spendsNothing.trans spends⟩

end Network

/-- With an event nobody but the party in a place registers on a queue, and it is not deleted. -/
structure Event.Spares (place : Nat) (queue : String) (event : Event) : Prop where
  keeps : event.deletion? ≠ some queue
  leaves : ∀ other, event.registration? = some (other, queue) → other = place

instance (place : Nat) (queue : String) (event : Event) : Decidable (event.Spares place queue) :=
  decidable_of_iff
    (event.deletion? ≠ some queue ∧
      ∀ owner ∈ event.registration?, owner.2 = queue → owner.1 = place)
    ⟨fun ⟨keeps, leaves⟩ => ⟨keeps, fun _ isOwner => leaves _ isOwner rfl⟩,
      fun ⟨keeps, leaves⟩ => ⟨keeps, fun _ isOwner isQueue => leaves _ (isQueue ▸ isOwner)⟩⟩

namespace Network

variable {network : Network} {place : Nat} {client : Client} {queue : String}

/-- A stored message stays where it is while nobody else consumes or deletes its queue. -/
theorem endures_stored
    (place : Nat)
    (client : Client)
    (queue : String)
    (delivery : Delivery)
    (known : Network → Prop) :
    Endures place client (Event.Spares place queue) known (Stored queue delivery) where
  kept broker after keeps stored :=
    ⟨by rw [keeps.backlog]; exact stored.first,
      fun entry member => stored.unconsumed entry (keeps.consumers.subset member)⟩
  accepted broker after accepted accepts stored := by
    refine ⟨?_, by rw [accepts.consumers]; exact stored.unconsumed⟩
    obtain ⟨rest, first⟩ := stored.first
    rcases accepts.goes with ⟨consumer, hands⟩ | stores
    · exact ⟨rest, (hands.backlog queue).trans first⟩
    · rw [stores.backlog]
      split
      · exact ⟨rest ++ [accepted], by rw [first]; rfl⟩
      · exact ⟨rest, first⟩
  deleted broker after event other spares isDeletion deletes stored := by
    have differs : queue ≠ other := by
      rintro rfl
      exact spares.keeps isDeletion
    refine ⟨?_, fun entry member => stored.unconsumed entry (deletes.consumers.subset member)⟩
    rw [deletes.backlog, if_neg differs]
    exact stored.first
  registered broker after event party other tag stream spares isRegistration elsewhere registers
      stored := by
    have differs : queue ≠ other := by
      rintro rfl
      exact elsewhere (spares.leaves party isRegistration)
    refine ⟨?_, fun entry member => ?_⟩
    · rw [registers.backlog, if_neg differs]
      exact stored.first
    · rw [registers.consumers] at member
      rcases Dictionary.mem_of_mem_insert member with rfl | wasThere
      · exact differs.symm
      · exact stored.unconsumed entry wasThere
  taken network other party _ stream rest _ _ _ _ _ stored := ⟨stored.first, stored.unconsumed⟩
  released network other party stream _ _ _ _ _ stored := ⟨stored.first, stored.unconsumed⟩

/-! ## While the party fetches -/

/-- Nobody else takes anything from the stream of an idle party or gives it up. -/
theorem endures_offered
    {stream : Stream}
    (holds : client.streams.get? queue = some stream)
    (place : Nat)
    (delivery : Delivery) :
    Endures place client (fun _ => True) Sound fun broker =>
      ∃ rest, broker.buffer stream = delivery :: rest where
  kept broker after keeps offered := by
    rw [Broker.buffer_of_feeds keeps.feeds]
    exact offered
  accepted broker after accepted accepts offered := by
    obtain ⟨rest, isBuffer⟩ := offered
    obtain ⟨added, shape, -⟩ := (Broker.addsTo_of_accepts accepts).buffer
    exact ⟨rest ++ added, by rw [shape, isBuffer]; rfl⟩
  deleted broker after event other _ _ deletes offered := by
    rw [Broker.buffer_of_feeds deletes.feeds]
    exact offered
  registered broker after event party other tag fresh _ _ _ registers offered := by
    have differs : stream ≠ fresh := by
      rintro rfl
      obtain ⟨rest, isBuffer⟩ := offered
      have beyond : broker.feed? stream = none := by
        simp [Broker.feed?, registers.isStream]
      simp [Broker.buffer, beyond] at isBuffer
    rw [registers.buffer_other differs]
    exact offered
  taken network other party _ taken rest sound idle differs seated holdsTaken offered := by
    have apart : stream ≠ taken := by
      rintro rfl
      exact differs
        (sound.holding.holder_unique idle ⟨client, rfl, holds⟩ seated holdsTaken).1.symm
    rw [Broker.buffer_modifyFeed_other _ apart]
    exact offered
  released network other party abandoned sound idle differs seated abandons offered := by
    have apart : stream ≠ abandoned := by
      rintro rfl
      have owned := ((sound.holding.owners place _ idle).held queue stream ⟨client, rfl, holds⟩).1
      obtain ⟨⟨name, opened⟩, -⟩ :=
        (sound.holding.owners other party seated).abandoned stream abandons
      exact differs (queue_unique opened owned).1
    rw [Broker.buffer_release_other apart]
    exact offered

section

variable {Content : Type} {decode : List UInt8 → Except CodecError Content}
variable {stream : Stream} {delivery : Delivery}

/-- What a party fetches is answered at once. -/
theorem Fetches.answer
    (fetches : network.Fetches place client queue decode stream delivery)
    (timeout : Duration) :
    network.answer (.next stream timeout) = .item (.ok delivery) := by
  obtain ⟨rest, isBuffer⟩ := fetches.offered
  obtain ⟨after, polled⟩ := Broker.poll_of_buffer isBuffer
  simp [Network.answer, polled]

/-- A party that fetches does not wait any longer. -/
theorem Fetches.due
    (fetches : network.Fetches place client queue decode stream delivery)
    (since now : Nat) :
    network.due? place since now = some (max now since) := by
  obtain ⟨standing, seated⟩ := fetches.seated
  have answered := fetches.answer client.options.receiveTimeout
  have isDue :
      network.due? place since now =
        some
          (max now
            (since +
              Exchange.waited
                ⟨.next stream client.options.receiveTimeout,
                  network.answer (.next stream client.options.receiveTimeout)⟩)) := by
    simp only [due?, seated]
    rfl
  rw [isDue, answered]
  rfl

/-- Others leave a delivery where it is. -/
theorem Fetches.aside
    (fetches : network.Fetches place client queue decode stream delivery)
    (atRest : network.AtRest)
    (sound : network.Sound)
    {move : Move}
    (elsewhere : move.IsElsewhere place)
    (notOwn : move ≠ .resume place) :
    (network.step move).Fetches place client queue decode stream delivery ∧
      network.Spends (network.step move) place 0 0 := by
  obtain ⟨standing, seated⟩ := fetches.seated
  let waiting := standing.client
  have rests := atRest place _ seated
  obtain ⟨name, holds⟩ : ∃ name, waiting.streams.get? name = some stream := by
    cases rests with
    | waits coherent met waits =>
        obtain ⟨-, -, name, -, isStream⟩ :
            standing.Permits (.receive queue decode) (.next stream client.options.receiveTimeout) :=
          met.1
        exact ⟨name, isStream⟩
  have coherent : waiting.Coherent := rests.coherent rfl
  have atRestIdle : (network.seat place (.idle waiting)).AtRest :=
    forall_seated_set (.idle coherent) fun other found _ => atRest other found
  have soundIdle : (network.seat place (.idle waiting)).Sound :=
    ⟨sound.holding.reseats seated (.of_same rests.abandoned rfl fun _ _ => Iff.rfl), sound.counted⟩
  obtain ⟨seatedThen, -, -, told, log, noCalls, offered⟩ :=
    (endures_offered holds place delivery).step (keeps_sound.restrict fun _ _ => trivial) seated
      atRestIdle soundIdle fetches.offered elsewhere notOwn
  exact ⟨⟨⟨standing, seatedThen⟩, offered fun _ _ => trivial⟩, spends_nothing log noCalls⟩

/-- The party hands out what it fetches. -/
theorem Fetches.hands
    (fetches : network.Fetches place client queue decode stream delivery) :
    ∃ told,
      (network.step (.resume place)).log =
          network.log ++
            (told ++
              [.finished place (.receive queue decode)
                (Client.handOut client.consumerId decode delivery)]) ∧
        Event.attempts place told = 0 ∧ Event.openings place told = 0 := by
  obtain ⟨standing, seated⟩ := fetches.seated
  obtain ⟨next, isFetching, ends⟩ := client.fetching_ask queue stream decode delivery
  let operation := Operation.receive queue decode
  let request := Request.next stream client.options.receiveTimeout
  have answered : network.answer request = .item (.ok delivery) := fetches.answer _
  have log :
      (network.exchange place operation standing request next).log =
        network.log ++ [.asked place operation ⟨request, .item (.ok delivery)⟩] := by
    rw [← answered]
    rfl
  refine ⟨[.asked place operation ⟨request, .item (.ok delivery)⟩], ?_, ?_, ?_⟩
  · rw [isFetching] at seated
    rw [step_resume seated, answered, ends, ← List.append_assoc, ← log]
    rfl
  · simp [request, Event.attempts, Event.calls, Event.call?, History.call?]
  · simp [request, Event.openings, Event.calls, Event.call?, History.call?]

end

end Network

end BrokerClient
