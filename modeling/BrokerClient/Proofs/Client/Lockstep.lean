import BrokerClient.Proofs.Client.Handles

/-!
# Operations of clients that differ in their handles

A client does nothing with a channel or a stream but hand it back, and it does not look at delivery
tags or at identifiers of messages.  So two clients that differ only in these ask the same things,
as long as they are answered alike, and they end alike.
-/

namespace BrokerClient

namespace Client

variable {scope : Scope} {pairing grown : Pairing} {client client' : Client} {queue : String}

theorem releaseAll_matches
    {streams streams' : List Stream}
    (paired : List.Forall₂ pairing.streams streams streams') :
    (releaseAll streams).Matches scope (fun _ _ _ => True) pairing (releaseAll streams') := by
  induction streams generalizing pairing streams' with
  | nil =>
      cases paired
      exact .done trivial
  | cons stream rest inductionHypothesis =>
      cases paired with
      | cons isPaired restPaired =>
          exact .ask (.release isPaired) fun grown _ _ grows _ =>
            inductionHypothesis (restPaired.imp grows.2)

/-! ## Channels -/

/-- On a connection of the current generation nothing is dialed. -/
theorem redial_matches (alike : client.Alike scope pairing client') :
    client.redial.Matches scope
      (fun _ ended ended' => ended = (.ok (), client) ∧ ended' = (.ok (), client'))
      pairing client'.redial := by
  refine .ask (.isClosed alike.here alike.there) ?_
  rintro grown _ _ - ⟨rfl, rfl⟩
  exact .done ⟨rfl, rfl⟩

theorem closeChannel_matches (alike : client.Alike scope pairing client') :
    client.closeChannel.Matches scope (fun _ _ _ => True) pairing client'.closeChannel := by
  obtain ⟨channel, channel', isHeld, isHeld', paired⟩ := alike.channel
  unfold closeChannel
  simp only [isHeld, isHeld']
  exact .ask (.closeChannel paired) fun _ _ _ _ _ => .done trivial

theorem replaceChannel_matches (alike : client.Alike scope pairing client') :
    client.replaceChannel.Matches scope (Outcome.Alike scope Eq) pairing
      client'.replaceChannel := by
  refine (closeChannel_matches alike).bind fun grown _ _ grows _ => ?_
  refine (releaseAll_matches (alike.mono grows).streams.values).bind fun grown _ _ _ _ => ?_
  refine .ask (.openChannel alike.here alike.there) ?_
  rintro grown _ _ - ⟨channel, channel', rfl, rfl, paired⟩
  refine .done ⟨.ok rfl, ?_⟩
  exact
    { alike with channel := ⟨channel, channel', rfl, rfl, paired⟩, queues := rfl, streams := .nil }

theorem reopen_matches (alike : client.Alike scope pairing client') :
    client.reopen.Matches scope (Outcome.Alike scope Eq) pairing client'.reopen := by
  refine (redial_matches alike).bind ?_
  rintro grown _ _ grows ⟨rfl, rfl⟩
  exact replaceChannel_matches (alike.mono grows)

theorem closeBoth_matches (alike : client.Alike scope pairing client') :
    client.closeBoth.Matches scope (Outcome.Alike scope Eq) pairing client'.closeBoth := by
  refine (closeChannel_matches alike).bind fun grown _ _ grows _ => ?_
  refine .ask (.closeConnection alike.here alike.there) ?_
  rintro later answer _ growsOn rfl
  have alike := alike.mono (grows.trans growsOn)
  cases answer with
  | ok done => exact .done ⟨.ok rfl, alike⟩
  | error error => exact .done ⟨.error rfl, alike⟩

/-! ## Queues and streams -/

theorem declare_matches
    (alike : client.Alike scope pairing client')
    {definition : QueueDefinition}
    (named : definition.name ∈ scope.names) :
    (client.declare definition).Matches scope (Outcome.Alike scope Eq) pairing
      (client'.declare definition) := by
  obtain ⟨channel, channel', isHeld, isHeld', paired⟩ := alike.channel
  unfold declare hasQueue
  rw [alike.queues]
  split
  · exact .done ⟨.ok rfl, alike⟩
  · simp only [isHeld, isHeld']
    refine .ask (.declare paired named _ _) ?_
    rintro grown answer _ grows rfl
    have alike := alike.mono grows
    cases answer with
    | error error => exact .done ⟨.error rfl, alike⟩
    | ok info =>
        have isHeldNow := grows.1 _ _ paired
        exact .done ⟨.ok rfl, { alike with channel := ⟨_, _, rfl, rfl, isHeldNow⟩, queues := rfl }⟩

theorem inspect_matches
    (alike : client.Alike scope pairing client')
    (named : queue ∈ scope.names) :
    (client.inspect queue).Matches scope (Outcome.Alike scope Eq) pairing
      (client'.inspect queue) := by
  obtain ⟨channel, channel', isHeld, isHeld', paired⟩ := alike.channel
  unfold inspect
  simp only [isHeld, isHeld']
  refine .ask (.declare paired named _ _) ?_
  rintro grown answer _ grows rfl
  have alike := alike.mono grows
  cases answer with
  | error error => exact .done ⟨.error rfl, alike⟩
  | ok info => exact .done ⟨.ok rfl, alike⟩

theorem forgetStream_matches (alike : client.Alike scope pairing client') (queue : String) :
    (client.forgetStream queue).Matches scope (Client.Alike scope) pairing
      (client'.forgetStream queue) := by
  have releasing := alike.streams.get?_toList queue
  refine (releaseAll_matches releasing).bind fun grown _ _ grows _ => .done ?_
  have alike := alike.mono grows
  exact { alike with streams := alike.streams.erase queue }

theorem delete_matches
    (alike : client.Alike scope pairing client')
    (named : queue ∈ scope.names) :
    (client.delete queue).Matches scope (Outcome.Alike scope Eq) pairing
      (client'.delete queue) := by
  obtain ⟨channel, channel', isHeld, isHeld', paired⟩ := alike.channel
  unfold delete
  simp only [isHeld, isHeld']
  refine .ask (.delete paired named _) ?_
  rintro grown answer _ grows rfl
  have alike := alike.mono grows
  cases answer with
  | error error => exact .done ⟨.error rfl, alike⟩
  | ok purged =>
      have forgotten :
          Client.Alike scope grown
            { client with channel := some channel, queues := client.queues.erase queue }
            { client' with channel := some channel', queues := client'.queues.erase queue } :=
        { alike with
          channel := ⟨channel, channel', rfl, rfl, grows.1 _ _ paired⟩
          queues := congrArg (Dictionary.erase · queue) alike.queues }
      dsimp only [Program.bind]
      refine (forgetStream_matches forgotten queue).bind ?_
      exact fun _ _ _ _ alike => .done ⟨.ok rfl, alike⟩

/-! ## Publishing -/

theorem failWith_matches
    (alike : client.Alike scope pairing client')
    (message : Outgoing)
    (error : ClientError) :
    (client.failWith message error).Matches scope (Outcome.Alike scope Eq) pairing
      (client'.failWith message error) :=
  .ask (.describe message) fun _ _ _ grows _ => .done ⟨.error rfl, alike.mono grows⟩

theorem send_matches
    (alike : client.Alike scope pairing client')
    (tracing : Tracing)
    (named : queue ∈ scope.names)
    (message : Outgoing)
    (body : List UInt8) :
    (client.send tracing queue message body).Matches scope (Outcome.Alike scope Eq) pairing
      (client'.send tracing queue message body) := by
  refine .ask .freshId fun grown messageId messageId' grows _ => ?_
  have alike := alike.mono grows
  obtain ⟨channel, channel', isHeld, isHeld', paired⟩ := alike.channel
  dsimp only [Bind.bind, Program.bind, Program.request]
  simp only [isHeld, isHeld']
  refine .ask (.publish paired named rfl) ?_
  rintro later answer _ growsOn rfl
  have alike := alike.mono growsOn
  cases answer with
  | ok confirmed => exact .done ⟨.ok rfl, alike⟩
  | error error => exact failWith_matches alike message _

theorem sendDeclared_matches
    (alike : client.Alike scope pairing client')
    (tracing : Tracing)
    (named : queue ∈ scope.names)
    (message : Outgoing) :
    (client.sendDeclared tracing queue message).Matches scope (Outcome.Alike scope Eq) pairing
      (client'.sendDeclared tracing queue message) := by
  refine (declare_matches alike named).bind ?_
  rintro grown ⟨_, client⟩ ⟨_, client'⟩ - ⟨results, alike⟩
  cases results with
  | error isAlike => exact .done ⟨.error isAlike, alike⟩
  | ok _ =>
      dsimp only
      split
      · exact send_matches alike _ named _ _
      · exact failWith_matches alike _ _

/-! ## Registering consumers -/

theorem qos_matches (alike : client.Alike scope pairing client') :
    client.qos.Matches scope (fun _ answer answer' => answer = answer') pairing client'.qos := by
  obtain ⟨channel, channel', isHeld, isHeld', paired⟩ := alike.channel
  unfold qos
  simp only [isHeld, isHeld']
  rw [alike.options]
  exact Program.call_matches (.qos paired _ _)

theorem consume_matches
    (alike : client.Alike scope pairing client')
    (named : queue ∈ scope.names) :
    (client.consume queue).Matches scope (fun grown => Results Eq grown.streams) pairing
      (client'.consume queue) := by
  obtain ⟨channel, channel', isHeld, isHeld', paired⟩ := alike.channel
  unfold consume
  simp only [isHeld, isHeld']
  rw [alike.tagHere, alike.tagThere]
  exact Program.call_matches (.consume paired named _)

theorem negotiateQosWithin_matches
    (alike : client.Alike scope pairing client')
    (queue : String)
    (retries : Nat) :
    (negotiateQosWithin queue retries client).Matches scope (Outcome.Alike scope Eq) pairing
      (negotiateQosWithin queue retries client') := by
  induction retries generalizing pairing client client' with
  | zero =>
      unfold negotiateQosWithin
      refine (qos_matches alike).bind ?_
      rintro grown answer _ grows rfl
      have alike := alike.mono grows
      cases answer with
      | ok done => exact .done ⟨.ok rfl, alike⟩
      | error error => exact .done ⟨.error (by rw [alike.tagHere, alike.tagThere]; rfl), alike⟩
  | succ remaining inductionHypothesis =>
      unfold negotiateQosWithin
      refine (qos_matches alike).bind ?_
      rintro grown answer _ grows rfl
      have alike := alike.mono grows
      cases answer with
      | ok done => exact .done ⟨.ok rfl, alike⟩
      | error error =>
          dsimp only
          rw [alike.options, alike.tagHere, alike.tagThere]
          split
          · refine .ask (.sleep _) fun later _ _ growsOn _ => ?_
            dsimp only [Program.bind]
            refine (reopen_matches (alike.mono growsOn)).bind ?_
            rintro last ended ended' - reopened
            exact inductionHypothesis reopened.clients
          · exact .done ⟨.error rfl, alike⟩

theorem negotiateQos_matches (alike : client.Alike scope pairing client') (queue : String) :
    (client.negotiateQos queue).Matches scope (Outcome.Alike scope Eq) pairing
      (client'.negotiateQos queue) := by
  unfold negotiateQos
  rw [alike.options]
  exact negotiateQosWithin_matches alike queue _

theorem holdStream_matches
    (alike : client.Alike scope pairing client')
    (queue : String)
    {stream stream' : Stream}
    (paired : pairing.streams stream stream') :
    (client.holdStream queue stream).Matches scope (Client.Alike scope) pairing
      (client'.holdStream queue stream') := by
  refine (releaseAll_matches (alike.streams.get?_toList queue)).bind fun grown _ _ grows _ => ?_
  have alike := alike.mono grows
  exact .done { alike with streams := alike.streams.insert queue (grows.2 _ _ paired) }

theorem consumeWithin_matches
    (alike : client.Alike scope pairing client')
    (named : queue ∈ scope.names)
    (retries : Nat) :
    (consumeWithin queue retries client).Matches scope (Outcome.Alike scope Eq) pairing
      (consumeWithin queue retries client') := by
  induction retries generalizing pairing client client' with
  | zero =>
      unfold consumeWithin
      refine (consume_matches alike named).bind ?_
      rintro grown _ _ grows results
      have alike := alike.mono grows
      cases results with
      | ok paired =>
          refine (holdStream_matches alike queue paired).bind ?_
          exact fun _ _ _ _ alike => .done ⟨.ok rfl, alike⟩
      | error same =>
          subst same
          exact .done ⟨.error (by rw [alike.tagHere, alike.tagThere]; rfl), alike⟩
  | succ remaining inductionHypothesis =>
      unfold consumeWithin
      refine (consume_matches alike named).bind ?_
      rintro grown _ _ grows results
      have alike := alike.mono grows
      cases results with
      | ok paired =>
          refine (holdStream_matches alike queue paired).bind ?_
          exact fun _ _ _ _ alike => .done ⟨.ok rfl, alike⟩
      | error same =>
          subst same
          dsimp only
          rw [alike.options, alike.tagHere, alike.tagThere]
          split
          · refine (reopen_matches alike).bind ?_
            rintro later ⟨_, client⟩ ⟨_, client'⟩ - ⟨-, alike⟩
            dsimp only
            rw [alike.options]
            refine .ask (.sleep _) fun last _ _ growsOn _ => ?_
            have alike := alike.mono growsOn
            dsimp only [Program.bind]
            refine (negotiateQos_matches alike queue).bind ?_
            rintro latest ⟨_, client⟩ ⟨_, client'⟩ - ⟨results, alike⟩
            cases results with
            | ok _ => exact inductionHypothesis alike
            | error isAlike => exact .done ⟨.error isAlike, alike⟩
          · exact .done ⟨.error rfl, alike⟩

theorem registerConsumer_matches
    (alike : client.Alike scope pairing client')
    (named : queue ∈ scope.names) :
    (client.registerConsumer queue).Matches scope (Outcome.Alike scope Eq) pairing
      (client'.registerConsumer queue) := by
  refine (negotiateQos_matches alike queue).bind ?_
  rintro grown ⟨_, client⟩ ⟨_, client'⟩ - ⟨results, alike⟩
  cases results with
  | error isAlike => exact .done ⟨.error isAlike, alike⟩
  | ok _ =>
      dsimp only
      rw [alike.options]
      exact consumeWithin_matches alike named _

/-! ## Waiting -/

theorem dropConsumer_matches (alike : client.Alike scope pairing client') (queue : String) :
    (client.dropConsumer queue).Matches scope (Client.Alike scope) pairing
      (client'.dropConsumer queue) := by
  refine (forgetStream_matches alike queue).bind fun grown client client' _ alike => ?_
  obtain ⟨channel, channel', isHeld, isHeld', paired⟩ := alike.channel
  simp only [isHeld, isHeld']
  rw [alike.tagHere, alike.tagThere]
  exact .ask (.cancel paired _) fun _ _ _ grows _ => .done (alike.mono grows)

theorem dropAndFail_matches
    (alike : client.Alike scope pairing client')
    (queue : String)
    {same : Delivery → Delivery → Prop}
    {error error' : ClientError}
    (errors : error.Alike error') :
    (client.dropAndFail queue error).Matches scope (Outcome.Alike scope same) pairing
      (client'.dropAndFail queue error') :=
  (dropConsumer_matches alike queue).bind fun _ _ _ _ alike => .done ⟨.error errors, alike⟩

theorem awaitDelivery_matches
    (alike : client.Alike scope pairing client')
    (queue : String)
    {stream stream' : Stream}
    (paired : pairing.streams stream stream') :
    (client.awaitDelivery queue stream).Matches scope (Outcome.Alike scope Delivery.Alike) pairing
      (client'.awaitDelivery queue stream') := by
  unfold awaitDelivery
  rw [alike.options]
  refine .ask (.next paired _) ?_
  rintro grown _ _ grows arrivals
  have alike := alike.mono grows
  dsimp only [Program.bind]
  rw [alike.tagHere, alike.tagThere]
  cases arrivals with
  | timedOut => exact dropAndFail_matches alike queue rfl
  | ended => exact dropAndFail_matches alike queue rfl
  | item contents =>
      cases contents with
      | error same =>
          subst same
          exact dropAndFail_matches alike queue rfl
      | @ok delivery delivery' deliveries =>
          dsimp only
          rw [deliveries.body]
          split
          · exact .done ⟨.error (congrArg (ClientError.emptyDelivery _) deliveries), alike⟩
          · exact .done ⟨.ok deliveries, alike⟩

theorem ensureConsumer_matches
    (alike : client.Alike scope pairing client')
    (named : queue ∈ scope.names) :
    (client.ensureConsumer queue).Matches scope (Outcome.Alike scope Eq) pairing
      (client'.ensureConsumer queue) := by
  unfold ensureConsumer hasConsumer
  rw [alike.streams.contains queue]
  split
  · exact .done ⟨.ok rfl, alike⟩
  · exact registerConsumer_matches alike named

theorem nextDelivery_matches
    (alike : client.Alike scope pairing client')
    (named : queue ∈ scope.names) :
    (client.nextDelivery queue).Matches scope (Outcome.Alike scope Delivery.Alike) pairing
      (client'.nextDelivery queue) := by
  refine (ensureConsumer_matches alike named).bind ?_
  rintro grown ⟨_, client⟩ ⟨_, client'⟩ - ⟨results, alike⟩
  cases results with
  | error isAlike => exact .done ⟨.error isAlike, alike⟩
  | ok _ =>
      have held := alike.streams.get? queue
      dsimp only
      generalize client.streams.get? queue = found at held ⊢
      generalize client'.streams.get? queue = found' at held ⊢
      cases held with
      | some paired => exact awaitDelivery_matches alike queue paired
      | none => exact .done ⟨.error (by rw [alike.tagHere, alike.tagThere]; rfl), alike⟩

/-- Two deliveries that differ in tags and identifiers only, with the same content. -/
def SameContent {Content : Type} (received received' : Delivery × Content) : Prop :=
  received.1.Alike received'.1 ∧ received.2 = received'.2

theorem receiveRead_matches
    (alike : client.Alike scope pairing client')
    (named : queue ∈ scope.names)
    {Content : Type}
    (decode : List UInt8 → Except CodecError Content) :
    (client.receiveRead queue decode).Matches scope (Outcome.Alike scope SameContent) pairing
      (client'.receiveRead queue decode) := by
  refine (nextDelivery_matches alike named).bind ?_
  rintro grown ⟨_, client⟩ ⟨_, client'⟩ - ⟨results, alike⟩
  cases results with
  | error isAlike => exact .done ⟨.error isAlike, alike⟩
  | @ok delivery delivery' deliveries =>
      refine .done ⟨?_, alike⟩
      unfold readDelivery
      rw [deliveries.body]
      split
      · exact .ok ⟨deliveries, rfl⟩
      · exact .error (congrArg (ClientError.parsePayload · _) deliveries)

/-- What is recorded of operations that end alike is alike. -/
theorem record_matches
    {Value : Type}
    {values : Value → Value → Prop}
    {program program' : Program (Outcome Value)}
    (matched : program.Matches scope (Outcome.Alike scope values) pairing program') :
    (record program).Matches scope (Outcome.Alike scope values) pairing (record program') := by
  refine matched.bind ?_
  rintro grown ⟨_, client⟩ ⟨_, client'⟩ - ⟨results, alike⟩
  refine .done ⟨results, { alike with lastError := ?_ }⟩
  cases results with
  | ok _ => rfl
  | error isAlike => exact congrArg some isAlike

end Client

/-! ## Operations -/

namespace Operation

open Client

/-- The queue that an operation names. -/
def queue? : Operation → Option String
  | .ensureQueue definition => some definition.name
  | .inspectQueue queue => some queue
  | .deleteQueue queue => some queue
  | .publish _ queue _ => some queue
  | .receive queue _ => some queue
  | .registerConsumer queue => some queue
  | _ => none

/-- A value of an operation without tags and identifiers. -/
def anonymous : (operation : Operation) → operation.Value → operation.Value
  | .receive _ _, (delivery, content) => (delivery.anonymous, content)
  | _, value => value

/-- Two values of an operation that differ in tags and identifiers only. -/
def SameValue (operation : Operation) (value value' : operation.Value) : Prop :=
  operation.anonymous value = operation.anonymous value'

variable {scope : Scope} {pairing : Pairing} {client client' : Client}

/-- The operations of two clients that differ in their handles only go alike and end alike. -/
theorem program_matches
    (operation : Operation)
    (alike : client.Alike scope pairing client')
    (named : ∀ queue ∈ operation.queue?, queue ∈ scope.names) :
    (operation.program client).Matches scope (Outcome.Alike scope operation.SameValue) pairing
      (operation.program client') := by
  have sameValue {program program' : Program (Outcome operation.Value)}
      (matched : program.Matches scope (Outcome.Alike scope Eq) pairing program') :
      (record program).Matches scope (Outcome.Alike scope operation.SameValue) pairing
        (record program') :=
    (record_matches matched).mono fun _ _ _ ended =>
      ended.mono fun _ _ same => congrArg operation.anonymous same
  cases operation with
  | reset => exact sameValue (reopen_matches alike)
  | ensureQueue definition => exact sameValue (declare_matches alike (named _ rfl))
  | inspectQueue queue => exact sameValue (inspect_matches alike (named _ rfl))
  | deleteQueue queue => exact sameValue (delete_matches alike (named _ rfl))
  | publish tracing queue message =>
      exact sameValue (sendDeclared_matches alike tracing (named _ rfl) message)
  | receive queue decode =>
      refine (record_matches (receiveRead_matches alike (named _ rfl) decode)).mono ?_
      exact fun _ _ _ ended => ended.mono fun _ _ same => Prod.ext same.1 same.2
  | registerConsumer queue => exact registerConsumer_matches alike (named _ rfl)
  | close => exact sameValue (closeBoth_matches alike)
  | setLastError error => exact .done ⟨.ok rfl, { alike with lastError := rfl }⟩
  | resetError => exact .done ⟨.ok rfl, { alike with lastError := rfl }⟩

end Operation

end BrokerClient
