import BrokerClient.Proofs.Network.Turn

/-!
# Who holds which stream

The registrations in the log say of every stream who has opened it and for which queue.  A party
holds only streams that it has opened itself, each for the queue that it was opened for; a stream
that nobody holds any more has an empty feed, and messages wait only where their queue is served.
-/

namespace BrokerClient

namespace Party

/-- A party holds a stream for a queue. -/
def Holds (party : Party) (queue : String) (stream : Stream) : Prop :=
  ∃ client, party.client? = some client ∧ client.streams.get? queue = some stream

/--
A party that was about to give up nothing goes on as another one: what it holds then it held before,
and what it does not hold any more it is about to give up.
-/
structure GoesOn (party party' : Party) : Prop where
  nothingAbandoned : party.abandoned = []
  holds : ∀ queue stream, party'.Holds queue stream → party.Holds queue stream
  abandoned :
    ∀ stream ∈ party'.abandoned,
      ∃ queue, party.Holds queue stream ∧ ¬ party'.Holds queue stream
  keeps :
    ∀ queue stream, party.Holds queue stream →
      party'.Holds queue stream ∨ stream ∈ party'.abandoned
  distinct : party'.abandoned.Nodup

/-- A party goes on with the streams that it holds. -/
theorem GoesOn.of_same
    {party party' : Party}
    (nothingAbandoned : party.abandoned = [])
    (abandonsNothing : party'.abandoned = [])
    (same : ∀ queue stream, party'.Holds queue stream ↔ party.Holds queue stream) :
    party.GoesOn party' where
  nothingAbandoned := nothingAbandoned
  holds queue stream := (same queue stream).mp
  abandoned := by simp [abandonsNothing]
  keeps queue stream holds := .inl ((same queue stream).mpr holds)
  distinct := by simp [abandonsNothing]

end Party

/-- A party has opened itself what it holds and what it is about to give up. -/
structure Party.Owns
    (party : Party)
    (place : Nat)
    (broker : Broker)
    (born : List (Nat × String)) : Prop where
  held :
    ∀ queue stream, party.Holds queue stream →
      born[stream.number]? = some (place, queue) ∧ broker.IsHeld stream
  abandoned :
    ∀ stream ∈ party.abandoned,
      (∃ queue, born[stream.number]? = some (place, queue)) ∧ broker.IsHeld stream ∧
        ∀ queue, ¬ party.Holds queue stream
  distinct : party.abandoned.Nodup

/-- Somebody has a stream, or is about to give it up. -/
def Kept (parties : List Party) (born : List (Nat × String)) (stream : Stream) : Prop :=
  ∃ (place : Nat) (party : Party) (queue : String),
    parties[place]? = some party ∧ born[stream.number]? = some (place, queue) ∧
      (party.Holds queue stream ∨ stream ∈ party.abandoned)

/-- Messages wait only where their queue is served. -/
structure Placed (broker : Broker) (born : List (Nat × String)) : Prop where
  counted : born.length = broker.feeds.length
  registered :
    ∀ entry ∈ broker.consumers,
      ∃ place, born[entry.2.stream.number]? = some (place, entry.2.queue)
  unheld : ∀ stream, ¬ broker.IsHeld stream → broker.buffer stream = []
  buffered :
    ∀ (stream : Stream) place queue,
      born[stream.number]? = some (place, queue) →
        ∀ delivery ∈ broker.buffer stream, delivery.routingKey = queue
  stored :
    ∀ queue, ∀ delivery ∈ broker.backlog queue, delivery.routingKey = queue

/-- Streams are held by those who opened them, and messages wait where their queue is served. -/
structure Holding
    (broker : Broker)
    (parties : List Party)
    (born : List (Nat × String)) : Prop extends Placed broker born where
  owners :
    ∀ (place : Nat) (party : Party), parties[place]? = some party → party.Owns place broker born
  keepers : ∀ stream, broker.IsHeld stream → Kept parties born stream

section

variable {broker broker' : Broker} {parties : List Party} {born : List (Nat × String)}
variable {place : Nat} {party party' : Party} {queue tag : String} {stream : Stream}

/-! ## Streams of a party -/

/-- A stream was opened for one queue. -/
theorem queue_unique
    {owner : Nat}
    {name : String}
    (opened : born[stream.number]? = some (place, queue))
    (openedFor : born[stream.number]? = some (owner, name)) :
    place = owner ∧ queue = name := by
  rw [opened] at openedFor
  exact Prod.mk.inj (Option.some.inj openedFor)

namespace Party.Owns

theorem withBroker
    (owns : party.Owns place broker born)
    (isHeld : ∀ stream, broker'.IsHeld stream ↔ broker.IsHeld stream) :
    party.Owns place broker' born where
  held queue stream holds := by
    rw [isHeld]
    exact owns.held queue stream holds
  abandoned stream member := by
    rw [isHeld]
    exact owns.abandoned stream member
  distinct := owns.distinct

theorem goesOn
    (owns : party.Owns place broker born)
    (goesOn : party.GoesOn party') :
    party'.Owns place broker born where
  held queue stream holds := owns.held queue stream (goesOn.holds queue stream holds)
  abandoned stream member := by
    obtain ⟨queue, held, notHeld⟩ := goesOn.abandoned stream member
    obtain ⟨opened, isHeld⟩ := owns.held queue stream held
    refine ⟨⟨queue, opened⟩, isHeld, fun name holds => ?_⟩
    have openedFor := (owns.held name stream (goesOn.holds name stream holds)).1
    obtain ⟨-, rfl⟩ := queue_unique opened openedFor
    exact notHeld holds
  distinct := goesOn.distinct

end Party.Owns

/-- A new registration tells nothing new of the streams before it. -/
theorem opened_before
    (counted : born.length = broker.feeds.length)
    (registers : broker.Registers broker' queue tag stream)
    {other : Stream}
    (differs : other ≠ stream)
    (owner : Nat × String) :
    (born ++ [owner])[other.number]? = born[other.number]? := by
  refine Broker.getElem?_concat_ne ?_ _
  have numbers := Broker.number_ne differs
  rwa [registers.isStream, ← counted] at numbers

theorem opened_self
    (counted : born.length = broker.feeds.length)
    (registers : broker.Registers broker' queue tag stream)
    (owner : Nat × String) :
    (born ++ [owner])[stream.number]? = some owner := by
  simp [registers.isStream, ← counted]

namespace Party.Owns

/-- What a party has it still has after a registration. -/
theorem still
    (owns : party.Owns place broker born)
    (counted : born.length = broker.feeds.length)
    (registers : broker.Registers broker' queue tag stream)
    (owner : Nat × String) :
    party.Owns place broker' (born ++ [owner]) where
  held name other holds := by
    obtain ⟨opened, held⟩ := owns.held name other holds
    rw [opened_before counted registers (registers.ne_of_isHeld held)]
    exact ⟨opened, registers.isHeld_iff.mpr (.inr held)⟩
  abandoned other member := by
    obtain ⟨⟨name, opened⟩, held, notHeld⟩ := owns.abandoned other member
    rw [opened_before counted registers (registers.ne_of_isHeld held)]
    exact ⟨⟨name, opened⟩, registers.isHeld_iff.mpr (.inr held), notHeld⟩
  distinct := owns.distinct

/-- A party that registers has the new stream, and lets the one go that it had for the queue. -/
theorem registers
    (owns : party.Owns place broker born)
    (counted : born.length = broker.feeds.length)
    (registers : broker.Registers broker' queue tag stream)
    (holds :
      ∀ name other,
        party'.Holds name other ↔
          name = queue ∧ other = stream ∨ name ≠ queue ∧ party.Holds name other)
    (abandoned : ∀ other, other ∈ party'.abandoned ↔ party.Holds queue other)
    (distinct : party'.abandoned.Nodup) :
    party'.Owns place broker' (born ++ [(place, queue)]) where
  held name other isHeld := by
    rcases (holds name other).mp isHeld with ⟨rfl, rfl⟩ | ⟨-, heldBefore⟩
    · exact ⟨opened_self counted registers _, registers.isHeld_iff.mpr (.inl rfl)⟩
    · exact (owns.still counted registers _).held name other heldBefore
  abandoned other member := by
    have heldBefore := (abandoned other).mp member
    obtain ⟨opened, held⟩ :=
      (owns.still counted registers (place, queue)).held queue other heldBefore
    refine ⟨⟨queue, opened⟩, held, fun name isHeld => ?_⟩
    rcases (holds name other).mp isHeld with ⟨-, isNew⟩ | ⟨otherName, stillHeld⟩
    · exact registers.ne_of_isHeld (owns.held queue other heldBefore).2 isNew
    · have openedFor := (owns.held name other stillHeld).1
      exact otherName (queue_unique openedFor (owns.held queue other heldBefore).1).2
  distinct := distinct

/-- What another party gives up is not what a party has. -/
theorem past_release
    {owner : Nat}
    (owns : party.Owns place broker born)
    (opened : born[stream.number]? = some (owner, queue))
    (differs : place ≠ owner) :
    party.Owns place (broker.release stream) born where
  held name other holds := by
    obtain ⟨openedFor, held⟩ := owns.held name other holds
    refine ⟨openedFor, Broker.isHeld_release.mpr ⟨?_, held⟩⟩
    rintro rfl
    exact differs (queue_unique openedFor opened).1
  abandoned other member := by
    obtain ⟨⟨name, openedFor⟩, held, notHeld⟩ := owns.abandoned other member
    refine ⟨⟨name, openedFor⟩, Broker.isHeld_release.mpr ⟨?_, held⟩, notHeld⟩
    rintro rfl
    exact differs (queue_unique openedFor opened).1
  distinct := owns.distinct

/-- A party gives up a stream before the others. -/
theorem releases
    (owns : party.Owns place broker born)
    (first : party.abandoned = stream :: party'.abandoned)
    (client : party'.client? = party.client?) :
    party'.Owns place (broker.release stream) born := by
  have distinct := owns.distinct
  rw [first, List.nodup_cons] at distinct
  have notHeld := (owns.abandoned stream (by simp [first])).2.2
  have sameHolds (name : String) (other : Stream) :
      party'.Holds name other ↔ party.Holds name other := by
    simp [Party.Holds, client]
  constructor
  case held =>
    intro name other holds
    have heldBefore := (sameHolds name other).mp holds
    obtain ⟨opened, held⟩ := owns.held name other heldBefore
    refine ⟨opened, Broker.isHeld_release.mpr ⟨?_, held⟩⟩
    rintro rfl
    exact notHeld name heldBefore
  case abandoned =>
    intro other member
    obtain ⟨opened, held, otherNotHeld⟩ := owns.abandoned other (by simp [first, member])
    refine ⟨opened, Broker.isHeld_release.mpr ⟨?_, held⟩, fun name holds => ?_⟩
    · rintro rfl
      exact distinct.1 member
    · exact otherNotHeld name ((sameHolds name other).mp holds)
  case distinct => exact distinct.2

end Party.Owns

/-- A stream is kept if the party in its place keeps it. -/
theorem Kept.set
    (kept : Kept parties born stream)
    {born' : List (Nat × String)}
    (opened : born'[stream.number]? = born[stream.number]?)
    (seated : parties[place]? = some party)
    (keeps :
      ∀ queue, party.Holds queue stream ∨ stream ∈ party.abandoned →
        party'.Holds queue stream ∨ stream ∈ party'.abandoned) :
    Kept (parties.set place party') born' stream := by
  obtain ⟨keeper, keeping, name, keeperSeated, openedFor, has⟩ := kept
  by_cases same : keeper = place
  · subst same
    obtain rfl := Option.some.inj (keeperSeated.symm.trans seated)
    refine ⟨keeper, party', name, ?_, opened.trans openedFor, keeps name has⟩
    exact List.getElem?_set_self (Network.lt_of_seated seated)
  · refine ⟨keeper, keeping, name, ?_, opened.trans openedFor, has⟩
    rw [List.getElem?_set_ne (Ne.symm same)]
    exact keeperSeated

/-! ## Messages in their places -/

namespace Placed

theorem keepsMessages (placed : Placed broker born) (keeps : broker.KeepsMessages broker') :
    Placed broker' born where
  counted := placed.counted.trans (congrArg List.length keeps.feeds).symm
  registered entry member := placed.registered entry (keeps.consumers.subset member)
  unheld stream notHeld := by
    rw [Broker.isHeld_of_feeds keeps.feeds] at notHeld
    rw [Broker.buffer_of_feeds keeps.feeds]
    exact placed.unheld stream notHeld
  buffered stream place queue opened := by
    rw [Broker.buffer_of_feeds keeps.feeds]
    exact placed.buffered stream place queue opened
  stored queue := by
    rw [keeps.backlog]
    exact placed.stored queue

theorem deletes (placed : Placed broker born) (deletes : broker.Deletes broker' queue) :
    Placed broker' born where
  counted := placed.counted.trans (congrArg List.length deletes.feeds).symm
  registered entry member := placed.registered entry (deletes.consumers.subset member)
  unheld stream notHeld := by
    rw [Broker.isHeld_of_feeds deletes.feeds] at notHeld
    rw [Broker.buffer_of_feeds deletes.feeds]
    exact placed.unheld stream notHeld
  buffered stream place queue opened := by
    rw [Broker.buffer_of_feeds deletes.feeds]
    exact placed.buffered stream place queue opened
  stored name := by
    rw [deletes.backlog]
    split
    · simp
    · exact placed.stored name

/-- A consumer takes a message in. -/
theorem hands
    (placed : Placed broker born)
    {delivery : Delivery}
    {consumer : Consumer}
    (sameConsumers : broker'.consumers = broker.consumers)
    (hands : broker.Hands broker' delivery consumer) :
    Placed broker' born where
  counted := by
    rw [hands.feeds, Broker.length_modifyFeed]
    exact placed.counted
  registered entry member := placed.registered entry (sameConsumers ▸ member)
  unheld other notHeld := by
    rw [hands.isHeld_iff] at notHeld
    have differs : other ≠ consumer.stream := fun same => notHeld (same ▸ hands.live)
    rw [hands.buffer_other differs]
    exact placed.unheld other notHeld
  buffered other opener name opened found member := by
    by_cases same : other = consumer.stream
    · subst same
      rw [hands.buffer_self] at member
      rcases List.mem_append.mp member with waited | isNew
      · exact placed.buffered _ opener name opened found waited
      · obtain ⟨entry, isEntry, rfl⟩ := hands.registered
        obtain ⟨owner, openedFor⟩ := placed.registered entry isEntry
        rw [List.mem_singleton.mp isNew, ← hands.queue]
        exact (queue_unique openedFor opened).2
    · rw [hands.buffer_other same] at member
      exact placed.buffered other opener name opened found member
  stored name := by
    rw [hands.backlog]
    exact placed.stored name

/-- A message goes to the backlog. -/
theorem stores
    (placed : Placed broker born)
    {delivery : Delivery}
    (sameConsumers : broker'.consumers = broker.consumers)
    (stores : broker.Stores broker' delivery) :
    Placed broker' born where
  counted := placed.counted.trans (congrArg List.length stores.feeds).symm
  registered entry member := placed.registered entry (sameConsumers ▸ member)
  unheld other notHeld := by
    rw [Broker.isHeld_of_feeds stores.feeds] at notHeld
    rw [Broker.buffer_of_feeds stores.feeds]
    exact placed.unheld other notHeld
  buffered other opener name opened := by
    rw [Broker.buffer_of_feeds stores.feeds]
    exact placed.buffered other opener name opened
  stored name found member := by
    rw [stores.backlog] at member
    split at member
    · next isQueue =>
        rcases List.mem_append.mp member with waited | isNew
        · exact placed.stored name found waited
        · rw [List.mem_singleton.mp isNew, isQueue]
    · exact placed.stored name found member

/-- A delivery is taken out of a feed. -/
theorem takes
    (placed : Placed broker born)
    {delivery : Delivery}
    {rest : List Delivery}
    (held : broker.IsHeld stream)
    (shape : broker.buffer stream = delivery :: rest) :
    Placed (broker.modifyFeed stream fun feed => { feed with buffer := rest }) born where
  counted := by
    rw [Broker.length_modifyFeed]
    exact placed.counted
  registered := placed.registered
  unheld other notHeld := by
    rw [Broker.isHeld_modifyFeed fun _ => rest] at notHeld
    have differs : other ≠ stream := fun same => notHeld (same ▸ held)
    rw [Broker.buffer_modifyFeed_other _ differs]
    exact placed.unheld other notHeld
  buffered other place queue opened found member := by
    by_cases same : other = stream
    · subst same
      rw [Broker.buffer_modifyFeed_self held fun _ => rest] at member
      refine placed.buffered other place queue opened found ?_
      rw [shape]
      exact List.mem_cons_of_mem delivery member
    · rw [Broker.buffer_modifyFeed_other _ same] at member
      exact placed.buffered other place queue opened found member
  stored := placed.stored

/-- The stream of a new consumer is not one that an earlier consumer feeds. -/
theorem ne_of_registers
    (placed : Placed broker born)
    (registers : broker.Registers broker' queue tag stream)
    {entry : String × Consumer}
    (member : entry ∈ broker.consumers) :
    entry.2.stream ≠ stream := by
  obtain ⟨opener, opened⟩ := placed.registered entry member
  have below := (List.getElem?_eq_some_iff.mp opened).1
  rintro rfl
  rw [registers.isStream, placed.counted] at below
  exact Nat.lt_irrefl _ below

/-- The backlog of a queue moves into a new stream. -/
theorem registers
    (placed : Placed broker born)
    (registers : broker.Registers broker' queue tag stream)
    (place : Nat) :
    Placed broker' (born ++ [(place, queue)]) where
  counted := by simp [registers.feeds, placed.counted]
  registered entry member := by
    rw [registers.consumers] at member
    rcases Dictionary.mem_of_mem_insert member with rfl | wasThere
    · exact ⟨place, opened_self placed.counted registers _⟩
    · obtain ⟨opener, opened⟩ := placed.registered entry wasThere
      refine ⟨opener, ?_⟩
      have differs := placed.ne_of_registers registers wasThere
      rw [opened_before placed.counted registers differs, opened]
  unheld other notHeld := by
    rw [registers.isHeld_iff, not_or] at notHeld
    rw [registers.buffer_other notHeld.1]
    exact placed.unheld other notHeld.2
  buffered other opener name opened found member := by
    by_cases same : other = stream
    · subst same
      rw [registers.buffer_self] at member
      obtain ⟨-, rfl⟩ := queue_unique (opened_self placed.counted registers _) opened
      exact placed.stored queue found member
    · rw [opened_before placed.counted registers same] at opened
      rw [registers.buffer_other same] at member
      exact placed.buffered other opener name opened found member
  stored name found member := by
    rw [registers.backlog] at member
    split at member
    · cases member
    · exact placed.stored name found member

theorem releases (placed : Placed broker born) (stream : Stream) :
    Placed (broker.release stream) born where
  counted := by
    rw [Broker.release, Broker.length_modifyFeed]
    exact placed.counted
  registered := placed.registered
  unheld other notHeld := by
    by_cases same : other = stream
    · subst same
      exact Broker.buffer_release_self
    · rw [Broker.buffer_release_other same]
      exact placed.unheld other fun held => notHeld (Broker.isHeld_release.mpr ⟨same, held⟩)
  buffered other opener name opened found member := by
    by_cases same : other = stream
    · subst same
      rw [Broker.buffer_release_self] at member
      cases member
    · rw [Broker.buffer_release_other same] at member
      exact placed.buffered other opener name opened found member
  stored := placed.stored

end Placed

/-! ## Both together -/

namespace Holding

/-- The holders do not change if the broker changes in what it has waiting only. -/
theorem withBroker
    (holding : Holding broker parties born)
    (placed : Placed broker' born)
    (isHeld : ∀ stream, broker'.IsHeld stream ↔ broker.IsHeld stream) :
    Holding broker' parties born where
  toPlaced := placed
  owners place party seated := (holding.owners place party seated).withBroker isHeld
  keepers stream held := holding.keepers stream ((isHeld stream).mp held)

theorem keepsMessages
    (holding : Holding broker parties born)
    (keeps : broker.KeepsMessages broker') :
    Holding broker' parties born :=
  holding.withBroker (holding.toPlaced.keepsMessages keeps) (Broker.isHeld_of_feeds keeps.feeds)

theorem deletes
    (holding : Holding broker parties born)
    (deletes : broker.Deletes broker' queue) :
    Holding broker' parties born :=
  holding.withBroker (holding.toPlaced.deletes deletes) (Broker.isHeld_of_feeds deletes.feeds)

theorem accepts
    (holding : Holding broker parties born)
    {delivery : Delivery}
    (accepts : broker.Accepts broker' delivery) :
    Holding broker' parties born := by
  rcases accepts.goes with ⟨consumer, hands⟩ | stores
  · exact holding.withBroker (holding.toPlaced.hands accepts.consumers hands)
      fun _ => hands.isHeld_iff
  · exact holding.withBroker (holding.toPlaced.stores accepts.consumers stores)
      (Broker.isHeld_of_feeds stores.feeds)

theorem takes
    (holding : Holding broker parties born)
    {delivery : Delivery}
    {rest : List Delivery}
    (held : broker.IsHeld stream)
    (shape : broker.buffer stream = delivery :: rest) :
    Holding (broker.modifyFeed stream fun feed => { feed with buffer := rest }) parties born :=
  holding.withBroker (holding.toPlaced.takes held shape) fun _ =>
    Broker.isHeld_modifyFeed fun _ => rest

/-- Nobody else holds what a party holds, and the party holds it for one queue. -/
theorem holder_unique
    (holding : Holding broker parties born)
    {other : Nat}
    {otherParty : Party}
    {name : String}
    (seated : parties[place]? = some party)
    (holds : party.Holds queue stream)
    (otherSeated : parties[other]? = some otherParty)
    (otherHolds : otherParty.Holds name stream) :
    place = other ∧ queue = name :=
  queue_unique ((holding.owners place party seated).held queue stream holds).1
    ((holding.owners other otherParty otherSeated).held name stream otherHolds).1

/-- A party goes on, and nothing is given up for the time being. -/
theorem reseats
    (holding : Holding broker parties born)
    (seated : parties[place]? = some party)
    (goesOn : party.GoesOn party') :
    Holding broker (parties.set place party') born where
  toPlaced := holding.toPlaced
  owners := by
    refine Network.forall_seated_set ((holding.owners place party seated).goesOn goesOn) ?_
    exact fun other found _ => holding.owners other found
  keepers stream held := by
    refine (holding.keepers stream held).set rfl seated fun queue has => ?_
    rcases has with holds | abandoned
    · exact goesOn.keeps queue stream holds
    · simp [goesOn.nothingAbandoned] at abandoned

/-- A party registers a consumer and holds the stream that is opened for it. -/
theorem registers
    (holding : Holding broker parties born)
    (seated : parties[place]? = some party)
    (registers : broker.Registers broker' queue tag stream)
    (nothingAbandoned : party.abandoned = [])
    (holds :
      ∀ name other,
        party'.Holds name other ↔
          name = queue ∧ other = stream ∨ name ≠ queue ∧ party.Holds name other)
    (abandoned : ∀ other, other ∈ party'.abandoned ↔ party.Holds queue other)
    (distinct : party'.abandoned.Nodup) :
    Holding broker' (parties.set place party') (born ++ [(place, queue)]) where
  toPlaced := holding.toPlaced.registers registers place
  owners := by
    have counted := holding.counted
    refine Network.forall_seated_set ?_ fun other found _ foundSeated => ?_
    · exact (holding.owners place party seated).registers counted registers holds abandoned distinct
    · exact (holding.owners other found foundSeated).still counted registers _
  keepers held isHeld := by
    rcases registers.isHeld_iff.mp isHeld with rfl | wasHeld
    · refine ⟨place, party', queue, ?_, opened_self holding.counted registers _, .inl ?_⟩
      · exact List.getElem?_set_self (Network.lt_of_seated seated)
      · exact (holds queue held).mpr (.inl ⟨rfl, rfl⟩)
    · have openedNow :=
        opened_before holding.counted registers (registers.ne_of_isHeld wasHeld) (place, queue)
      refine (holding.keepers held wasHeld).set openedNow seated fun name has => ?_
      rcases has with isKept | isAbandoned
      · by_cases isQueue : name = queue
        · exact .inr ((abandoned held).mpr (isQueue ▸ isKept))
        · exact .inl ((holds name held).mpr (.inr ⟨isQueue, isKept⟩))
      · simp [nothingAbandoned] at isAbandoned

/-- A party gives up a stream that it does not hold any more. -/
theorem releases
    (holding : Holding broker parties born)
    (seated : parties[place]? = some party)
    (first : party.abandoned = stream :: party'.abandoned)
    (client : party'.client? = party.client?) :
    Holding (broker.release stream) (parties.set place party') born where
  toPlaced := holding.toPlaced.releases stream
  owners := by
    have owns := holding.owners place party seated
    obtain ⟨⟨queue, opened⟩, -⟩ := owns.abandoned stream (by simp [first])
    refine Network.forall_seated_set (owns.releases first client) ?_
    exact fun other found differs foundSeated =>
      (holding.owners other found foundSeated).past_release opened differs
  keepers held isHeld := by
    obtain ⟨isOther, wasHeld⟩ := Broker.isHeld_release.mp isHeld
    refine (holding.keepers held wasHeld).set rfl seated fun name has => ?_
    rcases has with isKept | isAbandoned
    · left
      simpa [Party.Holds, client] using isKept
    · rw [first] at isAbandoned
      exact .inr ((List.mem_cons.mp isAbandoned).resolve_left isOther)

/-- Somebody joins, with nothing. -/
theorem joins
    (holding : Holding broker parties born)
    (holdsNothing : ∀ queue stream, ¬ party.Holds queue stream)
    (abandonsNothing : party.abandoned = []) :
    Holding broker (parties ++ [party]) born where
  toPlaced := holding.toPlaced
  owners place found seated := by
    rcases Network.seated_concat seated with wasSeated | ⟨-, rfl⟩
    · exact holding.owners place found wasSeated
    · constructor
      case held => exact fun queue stream holds => absurd holds (holdsNothing queue stream)
      all_goals simp [abandonsNothing]
  keepers stream held := by
    obtain ⟨keeper, keeping, queue, seated, opened, keeps⟩ := holding.keepers stream held
    refine ⟨keeper, keeping, queue, ?_, opened, keeps⟩
    rw [List.getElem?_append_left (Network.lt_of_seated seated)]
    exact seated

/-- A party holds no stream twice. -/
theorem nodup_streams
    (holding : Holding broker parties born)
    {client : Client}
    (seated : parties[place]? = some party)
    (isClient : party.client? = some client)
    (rising : Dictionary.Rising client.streams) :
    (client.streams.map Prod.snd).Nodup := by
  refine List.pairwise_map.mpr ?_
  refine List.Pairwise.imp_of_mem ?_ (List.pairwise_map.mp rising)
  intro first second firstMember secondMember before same
  have firstHeld : party.Holds first.1 first.2 :=
    ⟨client, isClient, Dictionary.get?_of_mem rising firstMember⟩
  have secondHeld : party.Holds second.1 second.2 :=
    ⟨client, isClient, Dictionary.get?_of_mem rising secondMember⟩
  rw [← same] at secondHeld
  have sameQueue := (holding.holder_unique seated firstHeld seated secondHeld).2
  exact String.lt_irrefl _ (sameQueue ▸ before)

end Holding

end

/-! ## Parties that go on -/

namespace Party

variable {operation : Operation} {standing standing' : Standing}
variable {rest rest' : Program (Outcome operation.Value)} {queue : String} {stream : Stream}

@[simp] theorem holds_busy_iff :
    (Party.busy operation standing rest).Holds queue stream ↔
      standing.client.streams.get? queue = some stream := by
  simp [Holds, client?]

@[simp] theorem holds_idle_iff {client : Client} :
    (Party.idle client).Holds queue stream ↔ client.streams.get? queue = some stream := by
  simp [Holds, client?]

@[simp] theorem not_holds_gone {abandoned : List Stream} :
    ¬ (Party.gone abandoned).Holds queue stream := by
  simp [Holds, client?]

theorem goesOn_stays
    (nothingAbandoned : standing.abandoned = [])
    (streams : standing'.client.streams = standing.client.streams)
    (abandoned : standing'.abandoned = []) :
    (Party.busy operation standing rest).GoesOn (.busy operation standing' rest') :=
  .of_same nothingAbandoned abandoned fun queue stream => by simp [streams]

/-- A stream is let go. -/
theorem goesOn_erase
    (nothingAbandoned : standing.abandoned = [])
    (streams : standing'.client.streams = standing.client.streams.erase queue)
    (abandoned : standing'.abandoned = (standing.client.streams.get? queue).toList) :
    (Party.busy operation standing rest).GoesOn (.busy operation standing' rest') where
  nothingAbandoned := nothingAbandoned
  holds name held := by
    simp only [holds_busy_iff, streams]
    exact Dictionary.get?_of_get?_erase
  abandoned held member := by
    refine ⟨queue, ?_, ?_⟩
    · simpa [Party.abandoned, abandoned] using member
    · simp [streams]
  keeps name held holds := by
    rw [holds_busy_iff] at holds
    by_cases same : name = queue
    · right
      simp [Party.abandoned, abandoned, ← same, holds]
    · left
      rw [holds_busy_iff, streams, Dictionary.get?_erase_other _ same]
      exact holds
  distinct := by
    simp only [Party.abandoned, abandoned]
    cases standing.client.streams.get? queue <;> simp

/-- All streams are let go. -/
theorem goesOn_all
    {party party' : Party}
    {client : Client}
    (nothingAbandoned : party.abandoned = [])
    (isClient : party.client? = some client)
    (rising : Dictionary.Rising client.streams)
    (distinct : (client.streams.map Prod.snd).Nodup)
    (holdsNothing : ∀ queue stream, ¬ party'.Holds queue stream)
    (abandoned : party'.abandoned = client.streams.map Prod.snd) :
    party.GoesOn party' where
  nothingAbandoned := nothingAbandoned
  holds name held holds := absurd holds (holdsNothing name held)
  abandoned held member := by
    rw [abandoned] at member
    obtain ⟨entry, isEntry, rfl⟩ := List.mem_map.mp member
    refine ⟨entry.1, ⟨client, isClient, ?_⟩, holdsNothing _ _⟩
    exact Dictionary.get?_of_mem rising isEntry
  keeps name held holds := by
    obtain ⟨other, isOther, found⟩ := holds
    obtain rfl := Option.some.inj (isClient.symm.trans isOther)
    right
    rw [abandoned]
    exact List.mem_map_of_mem (Dictionary.mem_of_get? found)
  distinct := abandoned ▸ distinct

end Party

/-- A stream of a client in the middle of an operation was opened for its queue and is kept. -/
theorem Holding.held_of_busy
    {broker : Broker}
    {parties : List Party}
    {born : List (Nat × String)}
    (holding : Holding broker parties born)
    {place : Nat}
    {operation : Operation}
    {standing : Standing}
    {rest : Program (Outcome operation.Value)}
    (seated : parties[place]? = some (.busy operation standing rest))
    {queue : String}
    {stream : Stream}
    (isStream : standing.client.streams.get? queue = some stream) :
    born[stream.number]? = some (place, queue) ∧ broker.IsHeld stream :=
  (holding.owners place _ seated).held queue stream (Party.holds_busy_iff.mpr isStream)

namespace Network

/-- Streams are in order, and the broker has counted the messages that the log tells of. -/
structure Sound (network : Network) : Prop where
  holding : Holding network.broker network.parties (Event.registrations network.log)
  counted : network.broker.accepted = (Event.accepted network.log).length

theorem sound_start (arbitration : Arbitration) : (start arbitration).Sound := by
  refine ⟨⟨⟨rfl, ?_, ?_, ?_, ?_⟩, ?_, ?_⟩, rfl⟩
  all_goals simp [start, Broker.empty, Broker.IsHeld, Broker.feed?, Broker.buffer, Broker.backlog]

theorem sound_exchange
    {network : Network}
    {place : Nat}
    {operation : Operation}
    {standing : Standing}
    {request : Request}
    {next : request.Answer → Program (Outcome operation.Value)}
    (underway : network.Underway place operation standing (.ask request next))
    (sound : network.Sound)
    (givesNothingUp : ∀ stream, request ≠ .release stream) :
    (network.exchange place operation standing request next).Sound := by
  have letGo := underway.letGo givesNothingUp
  have turn := underway.turn givesNothingUp
  obtain ⟨holding, counted⟩ := sound
  have seated := underway.seated
  rw [exchange_eq next givesNothingUp]
  constructor
  case holding =>
    rw [Event.registrations_concat]
    cases turn with
    | quiet tells keeps stays =>
        simpa [tells.registration] using
          (holding.keepsMessages keeps).reseats seated
            (Party.goesOn_stays letGo stays.streams stays.abandoned)
    | publishes queue properties body tells accepts stays noArrival =>
        simpa [tells.registration] using
          (holding.accepts accepts).reseats seated
            (Party.goesOn_stays letGo stays.streams stays.abandoned)
    | deletes queue tells isDeletion deletes streams abandoned noArrival =>
        simpa [tells.registration] using
          (holding.deletes deletes).reseats seated (Party.goesOn_erase letGo streams abandoned)
    | consumes queue stream tells registers isSource free streams abandoned noArrival =>
        simp only [tells.registration, Option.toList_some]
        refine holding.registers seated registers letGo ?_ ?_ ?_
        · intro name other
          simp only [Party.holds_busy_iff, streams]
          by_cases same : name = queue
          · simp [same, eq_comm]
          · simp [same, Dictionary.get?_insert_other _ _ same]
        · intro other
          simp [Party.abandoned, abandoned]
        · simp only [Party.abandoned, abandoned]
          cases standing.client.streams.get? queue <;> simp
    | closes tells replaces keeps streams abandoned noArrival =>
        have distinct := holding.nodup_streams seated rfl underway.coherent.rising
        have goesOn :
            (Party.busy operation standing (.ask request next)).GoesOn
              (.busy operation
                (standing.after operation ⟨request, network.answer request⟩)
                (next (network.answer request))) :=
          Party.goesOn_all letGo rfl underway.coherent.rising distinct
            (fun name held => by simp [streams]) abandoned
        simpa [tells.registration] using (holding.keepsMessages keeps).reseats seated goesOn
    | takes queue stream delivery rest tells awaits isStream shape isBroker streams abandoned
        noArrival arrival =>
        have held := (holding.held_of_busy seated isStream).2
        rw [isBroker]
        simpa [tells.registration] using
          (holding.takes held shape).reseats seated (Party.goesOn_stays letGo streams abandoned)
    | ceases queue stream arrival tells awaits isStream undelivered shape fed isBroker streams
        abandoned noArrival isArrival =>
        rw [isBroker]
        simpa [tells.registration] using
          holding.reseats seated
            (Party.goesOn_erase letGo streams (by simp [abandoned, isStream]))
  case counted => rw [Event.length_accepted_concat, turn.accepted, counted]

/-- The streams of a client that an operation leaves are those that it was followed with. -/
theorem streams_of_concludes
    {operation : Operation}
    {standing : Standing}
    {ended : Outcome operation.Value}
    (concludes : operation.Concludes ended standing) :
    ended.2.streams = standing.client.streams := by
  obtain ⟨error, isClient⟩ := concludes.client
  rw [isClient]

theorem sound_finish
    {network : Network}
    {place : Nat}
    {operation : Operation}
    {standing : Standing}
    {ended : Outcome operation.Value}
    (underway : network.Underway place operation standing (.done ended))
    (sound : network.Sound) :
    (network.finish place operation ended).Sound := by
  have concludes : operation.Concludes ended standing := underway.met
  have goesOn : (Party.busy operation standing (.done ended)).GoesOn (.idle ended.2) :=
    .of_same concludes.abandoned rfl fun queue stream => by
      simp [streams_of_concludes concludes]
  refine ⟨?_, ?_⟩
  · simpa [finish, seat, tell, Event.registrations_concat, Event.registration?] using
      sound.holding.reseats underway.seated goesOn
  · simpa [finish, seat, tell, Event.length_accepted_concat, Event.message?] using sound.counted

theorem sound_disturb
    {network : Network}
    {disturbance : Disturbance}
    (sound : network.Sound) :
    Network.Sound
      { network with
        broker := network.broker.disturb disturbance
        log := network.log ++ [.disturbed disturbance] } := by
  rcases network.broker.disturb_cases disturbance with
    ⟨keeps, noMessage⟩ | ⟨queue, properties, body, isMessage, accepts⟩
  · refine ⟨?_, ?_⟩
    · simpa [Event.registrations_concat, Event.registration?] using
        sound.holding.keepsMessages keeps
    · simpa [Event.length_accepted_concat, noMessage, keeps.accepted] using sound.counted
  · refine ⟨?_, ?_⟩
    · simpa [Event.registrations_concat, Event.registration?] using sound.holding.accepts accepts
    · simpa [Event.length_accepted_concat, isMessage, accepts.accepted] using sound.counted

/-- A party that leaves lets all its streams go. -/
theorem goesOn_leaving
    {network : Network}
    {place : Nat}
    {party : Party}
    (atRest : network.AtRest)
    (sound : network.Sound)
    (seated : network.parties[place]? = some party) :
    party.GoesOn (.gone party.streams) := by
  have rests := atRest place party seated
  have nothingAbandoned := rests.abandoned
  cases isClient : party.client? with
  | none =>
      have noStreams : party.streams = [] := by
        simp [Party.streams, nothingAbandoned, isClient]
      refine .of_same nothingAbandoned noStreams fun queue stream => ?_
      simp only [Party.not_holds_gone, false_iff]
      rintro ⟨client, isSome, -⟩
      simp [isClient] at isSome
  | some client =>
      have rising := (rests.coherent isClient).rising
      refine Party.goesOn_all nothingAbandoned isClient rising
        (sound.holding.nodup_streams seated isClient rising) (by simp) ?_
      change party.streams = _
      simp [Party.streams, nothingAbandoned, isClient]

/-- All small steps keep streams in order. -/
theorem keeps_sound : Keeps (fun _ => True) Anything Sound where
  joined network connection broker client atRest _ sound dialed unasked coherent := by
    have keeps := Broker.keepsMessages_dial dialed
    have noStreams := coherent.streams_of_no_channel unasked.channel
    refine ⟨?_, ?_⟩
    · simpa [Event.registrations_concat, Event.registration?] using
        (sound.holding.keepsMessages keeps).joins
          (fun queue stream => by simp [noStreams]) rfl
    · simpa [Event.length_accepted_concat, Event.message?, keeps.accepted] using sound.counted
  started network place client operation atRest _ sound _ seated :=
    ⟨sound.holding.reseats seated
      (.of_same rfl rfl fun queue stream => by simp [Standing.start]), sound.counted⟩
  exchanged network place operation standing request next underway _ sound givesNothingUp :=
    sound_exchange underway sound givesNothingUp
  dropped network place party stream party' givesUp _ sound := by
    refine ⟨?_, ?_⟩
    · simpa [dropStream, Event.registrations_concat, Event.registration?] using
        sound.holding.releases givesUp.seated givesUp.first givesUp.client
    · simpa [dropStream, Event.length_accepted_concat, Event.message?, Broker.release,
        Broker.modifyFeed] using sound.counted
  finished network place operation standing ended underway _ sound := sound_finish underway sound
  leaving network place party atRest _ sound _ seated := by
    refine ⟨?_, ?_⟩
    · simpa [tell, seat, Event.registrations_concat, Event.registration?] using
        sound.holding.reseats seated (goesOn_leaving atRest sound seated)
    · simpa [tell, seat, Event.length_accepted_concat, Event.message?] using sound.counted
  disturbed network disturbance atRest _ sound _ := sound_disturb sound

/-- Streams are in order along every run. -/
theorem sound_run (arbitration : Arbitration) (moves : List Move) :
    ((start arbitration).run moves).AtRest ∧ ((start arbitration).run moves).Sound :=
  keeps_sound.run (by simp [AtRest, start]) (sound_start arbitration) fun _ _ => trivial

end Network

end BrokerClient
