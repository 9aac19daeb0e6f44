import BrokerClient.Proofs.Client.Operation
import Mathlib.Data.List.Forall2
import Mathlib.Data.Set.Basic

/-!
# Clients that differ in their handles

Two clients may hold different channels and streams, and their deliveries may bear different tags
and identifiers, while all else is the same.  Which handles stand for each other is said by a
pairing, which grows while the clients get new ones.  Under a pairing requests, answers, programs
and clients are alike or not.
-/

namespace BrokerClient

/-! ## What is not compared -/

/-- The properties without the identifier of the message. -/
def Properties.anonymous (properties : Properties) : Properties :=
  { properties with messageId := properties.messageId.map fun _ => MessageId.ofNat 0 }

/-- An acknowledger without its tag. -/
def Acknowledger.anonymous : Acknowledger → Acknowledger
  | .broker _ => .broker 0
  | .fixed answer => .fixed answer

/-- A delivery without its tag and without the identifier of the message. -/
def Delivery.anonymous (delivery : Delivery) : Delivery :=
  { delivery with
    tag := 0
    properties := delivery.properties.anonymous
    acknowledger := delivery.acknowledger.map Acknowledger.anonymous }

/-- A failure without tags and identifiers. -/
def ClientError.anonymous : ClientError → ClientError
  | .emptyDelivery consumer delivery => .emptyDelivery consumer delivery.anonymous
  | .parsePayload delivery reason => .parsePayload delivery.anonymous reason
  | error => error

/-- A message on its way without its identifier. -/
def Publication.anonymous (publication : Publication) : Publication :=
  { publication with properties := publication.properties.anonymous }

/-- Two deliveries that differ in tags and identifiers only. -/
def Delivery.Alike (delivery delivery' : Delivery) : Prop :=
  delivery.anonymous = delivery'.anonymous

theorem Delivery.Alike.body
    {delivery delivery' : Delivery}
    (alike : delivery.Alike delivery') :
    delivery.body = delivery'.body :=
  (congrArg Delivery.body alike : delivery.anonymous.body = delivery'.anonymous.body)

/-- Two failures that differ in tags and identifiers only. -/
def ClientError.Alike (error error' : ClientError) : Prop :=
  error.anonymous = error'.anonymous

/-- Two results that fail alike, or succeed alike. -/
inductive Results
    {Error Value : Type}
    (errors : Error → Error → Prop)
    (values : Value → Value → Prop) :
    Except Error Value → Except Error Value → Prop
  | ok {value value' : Value} (isAlike : values value value') :
      Results errors values (.ok value) (.ok value')
  | error {error error' : Error} (isAlike : errors error error') :
      Results errors values (.error error) (.error error')

theorem Results.refl
    {Error Value : Type}
    {errors : Error → Error → Prop}
    {values : Value → Value → Prop}
    (sameErrors : ∀ error, errors error error)
    (sameValues : ∀ value, values value value)
    (result : Except Error Value) :
    Results errors values result result := by
  cases result with
  | ok value => exact .ok (sameValues value)
  | error error => exact .error (sameErrors error)

/-- Two waits that end alike. -/
inductive Arrival.Alike : Arrival → Arrival → Prop
  | item
      {content content' : Except TransportError Delivery}
      (contents : Results Eq Delivery.Alike content content') :
      Alike (.item content) (.item content')
  | ended : Alike .ended .ended
  | timedOut : Alike .timedOut .timedOut

theorem Arrival.Alike.refl (arrival : Arrival) : arrival.Alike arrival := by
  cases arrival with
  | item content =>
      exact .item (.refl (fun _ => rfl) (fun delivery => Eq.refl delivery.anonymous) content)
  | ended => exact .ended
  | timedOut => exact .timedOut

/-! ## Requests of two clients -/

/-- Which handles of two clients stand for each other. -/
structure Pairing where
  channels : Channel → Channel → Prop
  streams : Stream → Stream → Prop

/-- A pairing grows with the handles that clients get. -/
instance : Preorder Pairing :=
  Preorder.lift fun pairing => (pairing.channels, pairing.streams)

/-- What a client has for itself: its tag and the queues that it names, on one generation. -/
structure Scope where
  tag : String
  generation : Nat
  names : Set String

/--
Two requests that differ in paired handles and in identifiers only, and what it means for their
answers to be alike.
-/
inductive Request.Alike (scope : Scope) (pairing : Pairing) :
    (request request' : Request) → (Pairing → request.Answer → request'.Answer → Prop) → Prop
  | openChannel
      {connection connection' : Connection}
      (here : connection.generation = scope.generation)
      (there : connection'.generation = scope.generation) :
      Alike scope pairing (.transport (.openChannel connection))
        (.transport (.openChannel connection'))
        fun pairing answer answer' =>
          ∃ channel channel',
            answer = .ok channel ∧ answer' = .ok channel' ∧ pairing.channels channel channel'
  | closeConnection
      {connection connection' : Connection}
      (here : connection.generation = scope.generation)
      (there : connection'.generation = scope.generation) :
      Alike scope pairing (.transport (.closeConnection connection))
        (.transport (.closeConnection connection')) fun _ answer answer' => answer = answer'
  | qos
      {channel channel' : Channel}
      (paired : pairing.channels channel channel')
      (prefetchCount : Nat)
      (global : Bool) :
      Alike scope pairing (.transport (.qos channel prefetchCount global))
        (.transport (.qos channel' prefetchCount global)) fun _ answer answer' => answer = answer'
  | declare
      {channel channel' : Channel}
      (paired : pairing.channels channel channel')
      {queue : String}
      (named : queue ∈ scope.names)
      (flags : DeclareFlags)
      (arguments : HeaderTable) :
      Alike scope pairing (.transport (.declare channel queue flags arguments))
        (.transport (.declare channel' queue flags arguments))
        fun _ answer answer' => answer = answer'
  | delete
      {channel channel' : Channel}
      (paired : pairing.channels channel channel')
      {queue : String}
      (named : queue ∈ scope.names)
      (flags : DeleteFlags) :
      Alike scope pairing (.transport (.delete channel queue flags))
        (.transport (.delete channel' queue flags)) fun _ answer answer' => answer = answer'
  | publish
      {channel channel' : Channel}
      (paired : pairing.channels channel channel')
      {publication publication' : Publication}
      (named : publication.routingKey ∈ scope.names)
      (same : publication.anonymous = publication'.anonymous) :
      Alike scope pairing (.transport (.publish channel publication))
        (.transport (.publish channel' publication')) fun _ answer answer' => answer = answer'
  | consume
      {channel channel' : Channel}
      (paired : pairing.channels channel channel')
      {queue : String}
      (named : queue ∈ scope.names)
      (flags : ConsumeFlags) :
      Alike scope pairing (.transport (.consume channel queue scope.tag flags))
        (.transport (.consume channel' queue scope.tag flags))
        fun pairing answer answer' => Results Eq pairing.streams answer answer'
  | cancel
      {channel channel' : Channel}
      (paired : pairing.channels channel channel')
      (nowait : Bool) :
      Alike scope pairing (.transport (.cancel channel scope.tag nowait))
        (.transport (.cancel channel' scope.tag nowait)) fun _ answer answer' => answer = answer'
  | closeChannel
      {channel channel' : Channel}
      (paired : pairing.channels channel channel') :
      Alike scope pairing (.transport (.closeChannel channel)) (.transport (.closeChannel channel'))
        fun _ answer answer' => answer = answer'
  | isClosed
      {connection connection' : Connection}
      (here : connection.generation = scope.generation)
      (there : connection'.generation = scope.generation) :
      Alike scope pairing (.isClosed connection) (.isClosed connection')
        fun _ answer answer' => answer = false ∧ answer' = false
  | sleep (duration : Duration) :
      Alike scope pairing (.sleep duration) (.sleep duration) fun _ _ _ => True
  | next
      {stream stream' : Stream}
      (paired : pairing.streams stream stream')
      (timeout : Duration) :
      Alike scope pairing (.next stream timeout) (.next stream' timeout)
        fun _ arrival arrival' => arrival.Alike arrival'
  | release
      {stream stream' : Stream}
      (paired : pairing.streams stream stream') :
      Alike scope pairing (.release stream) (.release stream') fun _ _ _ => True
  | describe (message : Outgoing) :
      Alike scope pairing (.describe message) (.describe message) fun _ _ _ => True
  | freshId : Alike scope pairing .freshId .freshId fun _ _ _ => True

namespace Program

/--
Two programs ask alike as long as they are answered alike, and what they end with is the same under
the pairing then.
-/
inductive Matches
    {α β : Type}
    (scope : Scope)
    (same : Pairing → α → β → Prop) :
    Pairing → Program α → Program β → Prop
  | done
      {pairing : Pairing}
      {value : α}
      {value' : β}
      (isSame : same pairing value value') :
      Matches scope same pairing (.done value) (.done value')
  | ask
      {pairing : Pairing}
      {request request' : Request}
      {answers : Pairing → request.Answer → request'.Answer → Prop}
      {next : request.Answer → Program α}
      {next' : request'.Answer → Program β}
      (alike : request.Alike scope pairing request' answers)
      (rest :
        ∀ grown answer answer',
          pairing ≤ grown → answers grown answer answer' →
            Matches scope same grown (next answer) (next' answer')) :
      Matches scope same pairing (.ask request next) (.ask request' next')

section

variable {α β α' β' : Type} {scope : Scope} {pairing : Pairing}

/-- Calls that are alike give answers that are alike. -/
theorem call_matches
    {call call' : Call}
    {answers : Pairing → call.Answer → call'.Answer → Prop}
    (alike : (Request.transport call).Alike scope pairing (.transport call') answers) :
    (Program.call call).Matches scope answers pairing (Program.call call') :=
  .ask alike fun _ _ _ _ isAlike => .done isAlike

/-- What is the same may be weakened. -/
theorem Matches.mono
    {same weaker : Pairing → α → β → Prop}
    {program : Program α}
    {program' : Program β}
    (matched : program.Matches scope same pairing program')
    (weakens : ∀ pairing value value', same pairing value value' → weaker pairing value value') :
    program.Matches scope weaker pairing program' := by
  induction matched with
  | done isSame => exact .done (weakens _ _ _ isSame)
  | ask alike _ inductionHypothesis => exact .ask alike inductionHypothesis

/-- Two programs in a row: the second ones go on under the pairing that the first have come to. -/
theorem Matches.bind
    {between : Pairing → α → β → Prop}
    {same : Pairing → α' → β' → Prop}
    {program : Program α}
    {program' : Program β}
    {next : α → Program α'}
    {next' : β → Program β'}
    (matched : program.Matches scope between pairing program')
    (goesOn :
      ∀ grown value value',
        pairing ≤ grown → between grown value value' →
          (next value).Matches scope same grown (next' value')) :
    (program >>= next).Matches scope same pairing (program' >>= next') := by
  change (program.bind next).Matches scope same pairing (program'.bind next')
  induction matched with
  | done isSame => exact goesOn _ _ _ le_rfl isSame
  | ask alike _ inductionHypothesis =>
      refine .ask alike fun grown answer answer' grows isAlike => ?_
      exact inductionHypothesis grown answer answer' grows isAlike fun later value value' growsOn =>
        goesOn later value value' (grows.trans growsOn)

end

end Program

/-! ## Clients -/

/-- The same keys with related values. -/
def Dictionary.Alike
    {Value : Type}
    (related : Value → Value → Prop)
    (entries entries' : Dictionary Value) : Prop :=
  List.Forall₂ (fun entry entry' => entry.1 = entry'.1 ∧ related entry.2 entry'.2) entries entries'

namespace Dictionary.Alike

variable {Value : Type} {related : Value → Value → Prop} {entries entries' : Dictionary Value}

theorem get? (alike : Alike related entries entries') (key : String) :
    Option.Rel related (entries.get? key) (entries'.get? key) := by
  induction alike with
  | nil => exact .none
  | @cons entry entry' rest rest' isAlike _ inductionHypothesis =>
      simp only [Dictionary.get?, ← isAlike.1]
      split
      · exact .some isAlike.2
      · exact inductionHypothesis

theorem insert
    (alike : Alike related entries entries')
    (key : String)
    {value value' : Value}
    (isRelated : related value value') :
    Alike related (entries.insert key value) (entries'.insert key value') := by
  induction alike with
  | nil => exact .cons ⟨rfl, isRelated⟩ .nil
  | @cons entry entry' rest rest' isAlike restAlike inductionHypothesis =>
      simp only [Dictionary.insert, ← isAlike.1]
      split
      · exact .cons ⟨rfl, isRelated⟩ restAlike
      · split
        · exact .cons ⟨rfl, isRelated⟩ (.cons isAlike restAlike)
        · exact .cons isAlike inductionHypothesis

theorem erase (alike : Alike related entries entries') (key : String) :
    Alike related (entries.erase key) (entries'.erase key) := by
  induction alike with
  | nil => exact .nil
  | @cons entry entry' rest rest' isAlike _ inductionHypothesis =>
      by_cases same : entry.1 = key
      · simpa [Dictionary.erase, same, ← isAlike.1] using inductionHypothesis
      · simp only [Dictionary.erase, ← isAlike.1, same, List.filter_cons, ne_eq, not_false_eq_true,
          decide_true, if_true]
        exact .cons isAlike inductionHypothesis

theorem contains (alike : Alike related entries entries') (key : String) :
    entries.contains key = entries'.contains key := by
  have held := alike.get? key
  unfold Dictionary.contains
  generalize entries.get? key = found at held ⊢
  generalize entries'.get? key = found' at held ⊢
  cases held <;> rfl

theorem keys (alike : Alike related entries entries') : entries.keys = entries'.keys := by
  induction alike with
  | nil => rfl
  | cons isAlike _ inductionHypothesis =>
      exact congrArg₂ List.cons isAlike.1 inductionHypothesis

theorem values (alike : Alike related entries entries') :
    List.Forall₂ related (entries.map Prod.snd) (entries'.map Prod.snd) := by
  induction alike with
  | nil => exact .nil
  | cons isAlike _ inductionHypothesis => exact .cons isAlike.2 inductionHypothesis

theorem get?_toList (alike : Alike related entries entries') (key : String) :
    List.Forall₂ related (entries.get? key).toList (entries'.get? key).toList := by
  have held := alike.get? key
  generalize entries.get? key = found at held ⊢
  generalize entries'.get? key = found' at held ⊢
  cases held with
  | none => exact .nil
  | some isRelated => exact .cons isRelated .nil

theorem mono
    {weaker : Value → Value → Prop}
    (alike : Alike related entries entries')
    (weakens : ∀ value value', related value value' → weaker value value') :
    Alike weaker entries entries' :=
  List.Forall₂.imp (fun _ _ isAlike => ⟨isAlike.1, weakens _ _ isAlike.2⟩) alike

end Dictionary.Alike

/-- Two clients with channels that differ in their handles only, in a scope. -/
structure Client.Alike (scope : Scope) (pairing : Pairing) (client client' : Client) : Prop where
  lastError :
    client.lastError.map ClientError.anonymous = client'.lastError.map ClientError.anonymous
  channel :
    ∃ channel channel',
      client.channel = some channel ∧ client'.channel = some channel' ∧
        pairing.channels channel channel'
  here : client.connection.generation = scope.generation
  there : client'.connection.generation = scope.generation
  tagHere : client.consumerId = scope.tag
  tagThere : client'.consumerId = scope.tag
  options : client.options = client'.options
  queues : client.queues = client'.queues
  streams : Dictionary.Alike pairing.streams client.streams client'.streams

/-- Two operations have ended alike, with values and clients that are alike. -/
structure Outcome.Alike
    {Value : Type}
    (scope : Scope)
    (values : Value → Value → Prop)
    (pairing : Pairing)
    (ended ended' : Outcome Value) : Prop where
  results : Results ClientError.Alike values ended.1 ended'.1
  clients : ended.2.Alike scope pairing ended'.2

/-- Values may be alike in a weaker sense. -/
theorem Outcome.Alike.mono
    {Value : Type}
    {scope : Scope}
    {values weaker : Value → Value → Prop}
    {pairing : Pairing}
    {ended ended' : Outcome Value}
    (alike : Outcome.Alike scope values pairing ended ended')
    (weakens : ∀ value value', values value value' → weaker value value') :
    Outcome.Alike scope weaker pairing ended ended' := by
  obtain ⟨result, client⟩ := ended
  obtain ⟨result', client'⟩ := ended'
  obtain ⟨results, clients⟩ := alike
  cases results with
  | ok isAlike => exact ⟨.ok (weakens _ _ isAlike), clients⟩
  | error isAlike => exact ⟨.error isAlike, clients⟩

theorem Client.Alike.mono
    {scope : Scope}
    {pairing grown : Pairing}
    {client client' : Client}
    (alike : client.Alike scope pairing client')
    (grows : pairing ≤ grown) :
    client.Alike scope grown client' where
  lastError := alike.lastError
  channel := by
    obtain ⟨channel, channel', isHeld, isHeld', paired⟩ := alike.channel
    exact ⟨channel, channel', isHeld, isHeld', grows.1 _ _ paired⟩
  here := alike.here
  there := alike.there
  tagHere := alike.tagHere
  tagThere := alike.tagThere
  options := alike.options
  queues := alike.queues
  streams := alike.streams.mono grows.2

end BrokerClient
