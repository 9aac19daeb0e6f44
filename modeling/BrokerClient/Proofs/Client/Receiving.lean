import BrokerClient.Proofs.Client.Registration

/-!
# The outcomes of a receive

A receive waits on the stream that is held for its queue, and registers a consumer first where none
is held.  If that fails, so does the receive, and still no stream is held.  Otherwise it waits once,
and what the wait ends with decides the outcome: a delivery is handed out, with or without its
content, and the stream stays; anything else gives the stream up and cancels its consumer.
-/

namespace BrokerClient

namespace Client

/-! ## What a registration leaves of the streams -/

variable {client left : Client} {queue : String} {history : History}

/-- To seek a new channel is to keep all streams or to give all of them up. -/
theorem Reopening.keepsStreams
    {ended : Outcome Unit}
    (reopening : client.Reopening history ended) :
    client.KeepsStreams ended.2 := by
  cases reopening with
  | undialed error => exact .inl rfl
  | refused reconnects givesUp error => exact .inr rfl
  | granted reconnects givesUp channel => exact .inr rfl

end Client

theorem Stage.keepsStreams
    {client left : Client}
    {retries : Nat}
    {history : History}
    {answer : Except TransportError Unit}
    (stage : Stage client retries history answer left) :
    client.KeepsStreams left := by
  induction stage with
  | last attempt => exact .inl rfl
  | again attempt retried reopened goesOn inductionHypothesis =>
      exact (Client.reopen_ends_iff.mp reopened).keepsStreams.trans inductionHypothesis

/-- How a registration leaves the stream of its queue. -/
def Ending.Leaves (queue : String) (client left : Client) : Ending → Prop
  | .registered stream =>
      left.streams.get? queue = some stream ∧ ∃ channel, left.channel = some channel
  | .refused _ => client.KeepsStreams left
  | .unnegotiated _ => client.KeepsStreams left

/-- A registration yields the stream on a channel that is held, or else brings none. -/
theorem Registration.leaves
    {queue : String}
    {client left : Client}
    {stages : List Nat}
    {history : History}
    {ending : Ending}
    (registration : Registration queue client stages history ending left) :
    ending.Leaves queue client left := by
  induction registration with
  | unnegotiated stage => exact stage.keepsStreams
  | registered stage held => exact ⟨Dictionary.get?_insert_same _ _ _, _, held⟩
  | refused stage held => exact stage.keepsStreams
  | @again _ negotiated fresh _ _ _ _ _ _ _ _ _ ending stage held retried reopened goesOn
      inductionHypothesis =>
      have keeps := stage.keepsStreams.trans (Client.reopen_ends_iff.mp reopened).keepsStreams
      cases ending with
      | registered stream => exact inductionHypothesis
      | refused error => exact keeps.trans inductionHypothesis
      | unnegotiated error => exact keeps.trans inductionHypothesis

/-- A client keeps its settings while it is registered. -/
theorem Registration.sameSettings
    {queue : String}
    {client left : Client}
    {stages : List Nat}
    {history : History}
    {ending : Ending}
    (registration : Registration queue client stages history ending left) :
    client.SameSettings left := by
  induction registration with
  | unnegotiated stage => exact stage.sameSettings
  | registered stage held => exact ⟨stage.sameSettings.options, stage.sameSettings.consumerId⟩
  | refused stage held => exact stage.sameSettings
  | again stage held retried reopened goesOn inductionHypothesis =>
      exact (stage.sameSettings.trans (Client.reopen_ends reopened).2).trans inductionHypothesis

namespace Client

variable {client left : Client} {queue : String} {stream : Stream} {history : History}

/-- No stream is held for the queue. -/
theorem hasConsumer_eq_false_iff :
    client.hasConsumer queue = false ↔ client.streams.get? queue = none := by
  simp [hasConsumer, Dictionary.contains]

/-! ## Where a wait begins -/

/-- How a client comes to a stream for a queue: it holds one, or else registers for it. -/
inductive Ensures (client : Client) (queue : String) : History → Outcome Unit → Prop where
  | held
      {stream : Stream}
      (holds : client.streams.get? queue = some stream) :
      Ensures client queue [] (.ok (), client)
  | registers
      {history : History}
      {ended : Outcome Unit}
      (free : client.hasConsumer queue = false)
      (ends : (client.registerConsumer queue).Ends history ended) :
      Ensures client queue history ended

theorem ensureConsumer_ends_iff {ended : Outcome Unit} :
    (client.ensureConsumer queue).Ends history ended ↔ client.Ensures queue history ended := by
  unfold ensureConsumer
  cases holds : client.hasConsumer queue with
  | true =>
      obtain ⟨stream, isStream⟩ := Option.isSome_iff_exists.mp holds
      constructor
      · intro ends
        obtain ⟨rfl, rfl⟩ := Program.ends_done_iff.mp ends
        exact .held isStream
      · intro ensures
        cases ensures with
        | held _ => exact .done _
        | registers free _ => cases holds.symm.trans free
  | false =>
      constructor
      · intro ends
        exact .registers holds ends
      · intro ensures
        cases ensures with
        | held isStream => cases (hasConsumer_eq_false_iff.mp holds).symm.trans isStream
        | registers _ ends => exact ends

/-- A client holds a stream for a queue, and the channel that it belongs to. -/
structure Listens (client : Client) (queue : String) (stream : Stream) : Prop where
  stream : client.streams.get? queue = some stream
  channel : ∃ channel, client.channel = some channel

/-- A client that comes to a stream listens to it, under the settings that it had. -/
theorem Ensures.listens
    (coherent : client.Coherent)
    (ensures : client.Ensures queue history (.ok (), left)) :
    client.SameSettings left ∧ ∃ stream, left.Listens queue stream := by
  cases ensures with
  | held holds =>
      refine ⟨.refl client, _, holds, Option.ne_none_iff_exists'.mp ?_⟩
      intro absent
      rw [coherent.streams_of_no_channel absent] at holds
      cases holds
  | registers free ends =>
      obtain ⟨stages, ending, registration, -, tells⟩ := registerConsumer_ends ends
      have leaves := registration.leaves
      cases ending with
      | registered stream =>
          obtain ⟨holds, holdsChannel⟩ := leaves
          exact ⟨registration.sameSettings, stream, holds, holdsChannel⟩
      | refused error => cases tells
      | unnegotiated error => cases tells

/-- A client that comes to no stream has failed to register, and holds none for the queue. -/
theorem Ensures.free
    {error : ClientError}
    (ensures : client.Ensures queue history (.error error, left)) :
    client.hasConsumer queue = false ∧ left.hasConsumer queue = false ∧
      (client.registerConsumer queue).Ends history (.error error, left) := by
  cases ensures with
  | registers free ends =>
      obtain ⟨stages, ending, registration, -, tells⟩ := registerConsumer_ends ends
      have leaves := registration.leaves
      have unheld := hasConsumer_eq_false_iff.mp free
      refine ⟨free, hasConsumer_eq_false_iff.mpr ?_, ends⟩
      cases ending with
      | registered stream => cases tells
      | refused error => exact leaves.get?_eq_none unheld
      | unnegotiated error => exact leaves.get?_eq_none unheld

/-! ## How a wait ends -/

/-- The client without the stream of a queue. -/
def withoutStream (client : Client) (queue : String) : Client :=
  { client with streams := client.streams.erase queue }

/-- What gives a stream up: its consumer is cancelled on the channel, whatever that is answered. -/
def Drops (client : Client) (stream : Stream) (history : History) : Prop :=
  ∃ channel answer,
    client.channel = some channel ∧
      history =
        [⟨.release stream, ()⟩,
          ⟨.transport (.cancel channel client.consumerId false), answer⟩]

/-- What follows a wait that ends with an arrival, and what the receive comes to. -/
inductive Waited
    {Content : Type}
    (client : Client)
    (queue : String)
    (stream : Stream)
    (decode : List UInt8 → Except CodecError Content) :
    Arrival → History → Outcome (Delivery × Content) → Prop where
  | delivered
      {delivery : Delivery}
      {content : Content}
      (filled : delivery.body.isEmpty = false)
      (decodes : decode delivery.body = .ok content) :
      Waited client queue stream decode (.item (.ok delivery)) [] (.ok (delivery, content), client)
  | unreadable
      {delivery : Delivery}
      {error : CodecError}
      (filled : delivery.body.isEmpty = false)
      (fails : decode delivery.body = .error error) :
      Waited client queue stream decode (.item (.ok delivery)) []
        (.error (.parsePayload delivery error.message), client)
  /-- Nothing is decoded. -/
  | empty
      {delivery : Delivery}
      (empty : delivery.body.isEmpty = true) :
      Waited client queue stream decode (.item (.ok delivery)) []
        (.error (.emptyDelivery client.consumerId delivery), client)
  | failed
      {closing : History}
      (error : TransportError)
      (drops : client.Drops stream closing) :
      Waited client queue stream decode (.item (.error error)) closing
        (.error (.consumption queue client.consumerId error.message), client.withoutStream queue)
  | ended
      {closing : History}
      (drops : client.Drops stream closing) :
      Waited client queue stream decode .ended closing
        (.error (.streamClosed queue client.consumerId), client.withoutStream queue)
  | timedOut
      {closing : History}
      (drops : client.Drops stream closing) :
      Waited client queue stream decode .timedOut closing
        (.error (.noMessage queue), client.withoutStream queue)

/-- The program that gives a stream up and fails does so in one way only. -/
theorem dropAndFail_ends_iff
    {error : ClientError}
    {ended : Outcome Delivery}
    (listens : client.Listens queue stream) :
    (client.dropAndFail queue error).Ends history ended ↔
      client.Drops stream history ∧ ended = (.error error, client.withoutStream queue) := by
  obtain ⟨channel, held⟩ := listens.channel
  constructor
  · intro ends
    obtain ⟨dropping, nothing, dropped, rfl, drops, concludes⟩ := Program.ends_bind_iff.mp ends
    obtain ⟨rfl, rfl⟩ := Program.ends_done_iff.mp concludes
    obtain ⟨releasing, cancelling, forgotten, rfl, forgets, cancels⟩ :=
      Program.ends_bind_iff.mp drops
    obtain ⟨given, nothing, done, rfl, gives, finishes⟩ := Program.ends_bind_iff.mp forgets
    obtain ⟨rfl, rfl⟩ := Program.ends_done_iff.mp finishes
    rw [listens.stream] at gives
    obtain rfl := releaseAll_ends_iff.mp gives
    dsimp only at cancels
    split at cancels
    · next channel held =>
        obtain ⟨answer, rest, rfl, leaves⟩ := Program.ends_ask_iff.mp cancels
        obtain ⟨rfl, rfl⟩ := Program.ends_done_iff.mp leaves
        exact ⟨⟨channel, answer, held, rfl⟩, rfl⟩
    · next absent => cases held.symm.trans absent
  · rintro ⟨⟨other, answer, isHeld, rfl⟩, rfl⟩
    unfold dropAndFail dropConsumer forgetStream
    rw [listens.stream]
    apply Program.ends_bind_iff.mpr
    refine ⟨_, [], client.withoutStream queue, (List.append_nil _).symm, .ask _ ?_, .done _⟩
    simp only [releaseAll, Program.done_bind, pure]
    split
    · next channel held =>
        cases isHeld.symm.trans held
        exact .ask answer (.done _)
    · next absent => cases isHeld.symm.trans absent

section

variable {Content : Type} {decode : List UInt8 → Except CodecError Content}
variable {ended : Outcome (Delivery × Content)}

/-- A wait that gives the stream up ends in one way for each reason to do so. -/
theorem dropAndRead_ends_iff
    {error : ClientError}
    (listens : client.Listens queue stream) :
    ((client.dropAndFail queue error).bind (reading decode)).Ends history ended ↔
      client.Drops stream history ∧ ended = (.error error, client.withoutStream queue) := by
  constructor
  · intro ends
    obtain ⟨dropping, nothing, failed, rfl, drops, concludes⟩ := Program.ends_bind_iff.mp ends
    obtain ⟨dropped, rfl⟩ := (dropAndFail_ends_iff listens).mp drops
    obtain ⟨rfl, rfl⟩ := Program.ends_done_iff.mp concludes
    exact ⟨by simpa using dropped, rfl⟩
  · rintro ⟨drops, rfl⟩
    apply Program.ends_bind_iff.mpr
    exact ⟨history, [], _, (List.append_nil _).symm,
      (dropAndFail_ends_iff listens).mpr ⟨drops, rfl⟩, .done _⟩

/-- A delivery with a body is read, and nothing more happens. -/
theorem waited_of_filled
    {delivery : Delivery}
    (filled : delivery.body.isEmpty = false) :
    client.Waited queue stream decode (.item (.ok delivery)) history ended ↔
      history = [] ∧ ended = (readDelivery decode delivery, client) := by
  unfold readDelivery
  constructor
  · intro waited
    cases waited with
    | delivered _ decodes => exact ⟨rfl, by rw [decodes]⟩
    | unreadable _ fails => exact ⟨rfl, by rw [fails]⟩
    | empty isEmpty => cases filled.symm.trans isEmpty
  · rintro ⟨rfl, rfl⟩
    split
    · next decodes => exact .delivered filled decodes
    · next fails => exact .unreadable filled fails

/-- A delivery is read unless it is empty, and nothing more is asked. -/
theorem deliver_ends_iff
    (client : Client)
    (queue : String)
    (stream : Stream)
    (delivery : Delivery) :
    ((if delivery.body.isEmpty then
          Program.done (.error (.emptyDelivery client.consumerId delivery), client)
        else
          Program.done (.ok delivery, client)).bind (reading decode)).Ends history ended ↔
      client.Waited queue stream decode (.item (.ok delivery)) history ended := by
  cases empty : delivery.body.isEmpty with
  | true =>
      constructor
      · intro ends
        obtain ⟨rfl, rfl⟩ := Program.ends_done_iff.mp ends
        exact .empty empty
      · intro waited
        cases waited with
        | delivered filled _ => cases empty.symm.trans filled
        | unreadable filled _ => cases empty.symm.trans filled
        | empty _ => exact .done _
  | false =>
      rw [waited_of_filled empty]
      constructor
      · exact Program.ends_done_iff.mp
      · rintro ⟨rfl, rfl⟩
        exact .done _

/-- Waiting on a stream and reading what it yields: the arrival decides what follows. -/
theorem awaitAndRead_ends_iff (listens : client.Listens queue stream) :
    ((client.awaitDelivery queue stream).bind (reading decode)).Ends history ended ↔
      ∃ arrival closing,
        history = ⟨.next stream client.options.receiveTimeout, arrival⟩ :: closing ∧
          client.Waited queue stream decode arrival closing ended := by
  constructor
  · intro ends
    obtain ⟨arrival, closing, rfl, goesOn⟩ := Program.ends_ask_iff.mp ends
    refine ⟨arrival, closing, rfl, ?_⟩
    rcases arrival with (error | delivery) | - | -
    · obtain ⟨drops, rfl⟩ := (dropAndRead_ends_iff listens).mp goesOn
      exact .failed error drops
    · exact (deliver_ends_iff client queue stream delivery).mp goesOn
    · obtain ⟨drops, rfl⟩ := (dropAndRead_ends_iff listens).mp goesOn
      exact .ended drops
    · obtain ⟨drops, rfl⟩ := (dropAndRead_ends_iff listens).mp goesOn
      exact .timedOut drops
  · rintro ⟨arrival, closing, rfl, waited⟩
    refine .ask _ ?_
    cases waited with
    | delivered filled decodes =>
        exact (deliver_ends_iff client queue stream _).mpr (.delivered filled decodes)
    | unreadable filled fails =>
        exact (deliver_ends_iff client queue stream _).mpr (.unreadable filled fails)
    | empty empty => exact (deliver_ends_iff client queue stream _).mpr (.empty empty)
    | failed error drops => exact (dropAndRead_ends_iff listens).mpr ⟨drops, rfl⟩
    | ended drops => exact (dropAndRead_ends_iff listens).mpr ⟨drops, rfl⟩
    | timedOut drops => exact (dropAndRead_ends_iff listens).mpr ⟨drops, rfl⟩

/-- How a receive goes, but for what it records. -/
inductive Receives
    (client : Client)
    (queue : String)
    (decode : List UInt8 → Except CodecError Content) :
    History → Outcome (Delivery × Content) → Prop where
  /-- No stream was held, none could be registered, and none is held now. -/
  | unregistered
      {left : Client}
      {history : History}
      {error : ClientError}
      (free : client.hasConsumer queue = false)
      (registers : (client.registerConsumer queue).Ends history (.error error, left))
      (still : left.hasConsumer queue = false) :
      Receives client queue decode history (.error error, left)
  | waited
      {ready : Client}
      {stream : Stream}
      {ensuring closing : History}
      {arrival : Arrival}
      {ended : Outcome (Delivery × Content)}
      (ensures : client.Ensures queue ensuring (.ok (), ready))
      (listens : ready.Listens queue stream)
      (waited : ready.Waited queue stream decode arrival closing ended) :
      Receives client queue decode
        (ensuring ++ ⟨.next stream client.options.receiveTimeout, arrival⟩ :: closing) ended

/-- Every receive of a coherent client goes in one of these ways, and each of them is one. -/
theorem receiveRead_ends_iff (coherent : client.Coherent) :
    (client.receiveRead queue decode).Ends history ended ↔
      client.Receives queue decode history ended := by
  constructor
  · intro ends
    obtain ⟨waiting, after, found, rfl, waits, reads⟩ := Program.ends_bind_iff.mp ends
    obtain ⟨ensuring, rest, ⟨registered, ready⟩, rfl, ensured, goesOn⟩ :=
      Program.ends_bind_iff.mp waits
    have ensures := ensureConsumer_ends_iff.mp ensured
    cases registered with
    | error error =>
        obtain ⟨rfl, rfl⟩ := Program.ends_done_iff.mp goesOn
        obtain ⟨rfl, rfl⟩ := Program.ends_done_iff.mp reads
        obtain ⟨free, still, registers⟩ := ensures.free
        simpa using Receives.unregistered free registers still
    | ok done =>
        obtain ⟨same, stream, listens⟩ := ensures.listens coherent
        dsimp only at goesOn
        rw [listens.stream] at goesOn
        have awaits : ((ready.awaitDelivery queue stream).bind (reading decode)).Ends
            (rest ++ after) ended :=
          Program.ends_bind_iff.mpr ⟨rest, after, found, rfl, goesOn, reads⟩
        obtain ⟨arrival, closing, isRest, waited⟩ := (awaitAndRead_ends_iff listens).mp awaits
        rw [List.append_assoc, isRest, same.options]
        exact .waited ensures listens waited
  · intro receives
    cases receives with
    | unregistered free registers still =>
        apply Program.ends_bind_iff.mpr
        refine ⟨history, [], (.error _, _), (List.append_nil _).symm, ?_, .done _⟩
        apply Program.ends_bind_iff.mpr
        exact ⟨history, [], (.error _, _), (List.append_nil _).symm,
          ensureConsumer_ends_iff.mpr (.registers free registers), .done _⟩
    | @waited ready stream ensuring closing arrival _ ensures listens waited =>
        have same := (ensures.listens coherent).1
        have awaits := (awaitAndRead_ends_iff listens).mpr ⟨arrival, closing, rfl, waited⟩
        obtain ⟨rest, after, found, isRest, goesOn, reads⟩ := Program.ends_bind_iff.mp awaits
        apply Program.ends_bind_iff.mpr
        refine ⟨ensuring ++ rest, after, found, ?_, ?_, reads⟩
        · rw [List.append_assoc, ← isRest, same.options]
        · apply Program.ends_bind_iff.mpr
          refine ⟨ensuring, rest, (.ok (), ready), rfl, ensureConsumer_ends_iff.mpr ensures, ?_⟩
          dsimp only
          rw [listens.stream]
          exact goesOn

end

end Client

end BrokerClient
