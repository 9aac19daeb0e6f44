import BrokerClient.Client.Consuming
import BrokerClient.Transport.History

/-!
# How a receive starts

A receive without a stream starts with a registration, and a registration with two loops, one that
negotiates flow control and one that consumes.  A loop counts how many retries are left.  Whether it
repeats an attempt that has failed is up to its policy, which is asked with the number of retries
that were made.  What starts a receive is told by the first attempt of each loop, with what follows
if it fails; if neither fails, nothing else is asked.
-/

namespace BrokerClient.Client

/-! ## The loops and their policies -/

/-- What follows a negotiation that has failed after so many retries. -/
def negotiateAgain
    (client : Client)
    (queue : String)
    (made : Nat)
    (error : TransportError) :
    Program (Outcome Unit) := do
  if client.options.reconnect.shouldRetry made error then
    Program.request (.sleep client.options.reconnect.backoff)
    let (_, fresh) ← client.reopen
    negotiateQosWithin queue (client.options.reconnect.maxRetries - (made + 1)) fresh
  else
    return (.error (.qosDeclaration queue client.consumerId error.message), client)

/-- Negotiate flow control and register again with at most `retries` retries. -/
def retrying (client : Client) (queue : String) (retries : Nat) : Program (Outcome Unit) := do
  match ← client.negotiateQos queue with
  | (.ok (), client) => consumeWithin queue retries client
  | (.error error, client) => return (.error error, client)

/-- What follows an attempt to consume that has failed after so many retries. -/
def consumeAgain
    (client : Client)
    (queue : String)
    (made : Nat)
    (error : TransportError) :
    Program (Outcome Unit) := do
  if client.options.notFound.shouldRetry made error then
    let (_, fresh) ← client.reopen
    Program.request (.sleep fresh.options.notFound.backoff)
    fresh.retrying queue (client.options.notFound.maxRetries - (made + 1))
  else
    return (.error (.consumerDeclaration queue client.consumerId error.message), client)

section

variable (client : Client) (queue : String)

/-- A negotiation that has made some retries goes on as the policy for reconnecting says. -/
theorem negotiateQosWithin_eq (made : Nat) :
    negotiateQosWithin queue (client.options.reconnect.maxRetries - made) client =
      client.qos.bind fun
        | .ok () => .done (.ok (), client)
        | .error error => client.negotiateAgain queue made error := by
  rcases Nat.lt_or_ge made client.options.reconnect.maxRetries with left | spent
  · have budget :
        client.options.reconnect.maxRetries - made =
          (client.options.reconnect.maxRetries - (made + 1)) + 1 := by
      omega
    rw [budget, negotiateQosWithin]
    refine congrArg client.qos.bind (funext fun answer => ?_)
    cases answer with
    | ok done => rfl
    | error error =>
        have sameChoice := congrArg (· = true) (RetryPolicy.shouldRetry_of_lt left error)
        exact ite_congr sameChoice.symm (fun _ => rfl) (fun _ => rfl)
  · rw [Nat.sub_eq_zero_of_le spent, negotiateQosWithin]
    refine congrArg client.qos.bind (funext fun answer => ?_)
    cases answer with
    | ok done => rfl
    | error error => simp [negotiateAgain, RetryPolicy.shouldRetry_of_le spent]

/-- Attempts to consume that have made some retries go on as the policy for missing queues says. -/
theorem consumeWithin_eq (made : Nat) :
    consumeWithin queue (client.options.notFound.maxRetries - made) client =
      (client.consume queue).bind fun
        | .ok stream => (client.holdStream queue stream).bind fun held => .done (.ok (), held)
        | .error error => client.consumeAgain queue made error := by
  rcases Nat.lt_or_ge made client.options.notFound.maxRetries with left | spent
  · have budget :
        client.options.notFound.maxRetries - made =
          (client.options.notFound.maxRetries - (made + 1)) + 1 := by
      omega
    rw [budget, consumeWithin]
    refine congrArg (client.consume queue).bind (funext fun answer => ?_)
    cases answer with
    | ok stream => rfl
    | error error =>
        have sameChoice := congrArg (· = true) (RetryPolicy.shouldRetry_of_lt left error)
        exact ite_congr sameChoice.symm (fun _ => rfl) (fun _ => rfl)
  · rw [Nat.sub_eq_zero_of_le spent, consumeWithin]
    refine congrArg (client.consume queue).bind (funext fun answer => ?_)
    cases answer with
    | ok stream => rfl
    | error error => simp [consumeAgain, RetryPolicy.shouldRetry_of_le spent]

/-- A registration by the first attempts of its loops. -/
theorem registerConsumer_eq :
    client.registerConsumer queue =
      client.qos.bind fun
        | .ok () =>
            (client.consume queue).bind fun
              | .ok stream => (client.holdStream queue stream).bind fun held => .done (.ok (), held)
              | .error error => client.consumeAgain queue 0 error
        | .error error =>
            (client.negotiateAgain queue 0 error).bind fun
              | (.ok (), left) => consumeWithin queue left.options.notFound.maxRetries left
              | (.error error, left) => .done (.error error, left) := by
  have negotiates := client.negotiateQosWithin_eq queue 0
  have consumes := client.consumeWithin_eq queue 0
  rw [Nat.sub_zero] at negotiates consumes
  rw [registerConsumer, negotiateQos, negotiates]
  refine (Program.bind_assoc _ _ _).trans ?_
  refine congrArg client.qos.bind (funext fun answer => ?_)
  cases answer with
  | ok done => exact consumes
  | error error => rfl

end

/-! ## A registration that needs no retry -/

section

variable {client : Client} {queue : String} {channel : Channel}

/-- A stream that takes no other's place is held at once. -/
theorem holdStream_of_free
    (free : client.streams.get? queue = none)
    (stream : Stream) :
    client.holdStream queue stream =
      .done { client with streams := client.streams.insert queue stream } := by
  rw [holdStream, free]
  rfl

/-- Where both calls succeed, the stream that the second one yields is held from then on. -/
theorem registerConsumer_ends_of_granted
    (held : client.channel = some channel)
    (free : client.streams.get? queue = none)
    (stream : Stream) :
    (client.registerConsumer queue).Ends
      [⟨.transport (.qos channel client.options.prefetchCount false), .ok ()⟩,
        ⟨.transport (.consume channel queue client.consumerId consumeFlags), .ok stream⟩]
      (.ok (), { client with streams := client.streams.insert queue stream }) := by
  have negotiates :
      client.qos = Program.call (.qos channel client.options.prefetchCount false) := by
    rw [qos, held]
  have consumes :
      client.consume queue =
        Program.call (.consume channel queue client.consumerId consumeFlags) := by
    rw [consume, held]
  rw [registerConsumer_eq, negotiates, consumes]
  refine .ask _ (.ask _ ?_)
  simp only [Program.done_bind, holdStream_of_free free]
  exact .done _

end

/-! ## The parts of a receive -/

/-- Wait for a delivery where a consumer was registered. -/
def awaiting (queue : String) : Outcome Unit → Program (Outcome Delivery)
  | (.ok (), client) =>
      match client.streams.get? queue with
      | some stream => client.awaitDelivery queue stream
      | none => return (.error (.streamClosed queue client.consumerId), client)
  | (.error error, client) => return (.error error, client)

section

variable {Content : Type} {decode : List UInt8 → Except CodecError Content}
variable {client : Client} {queue : String}

/-- Read the delivery of an outcome that has one. -/
def reading
    (decode : List UInt8 → Except CodecError Content) :
    Outcome Delivery → Program (Outcome (Delivery × Content))
  | (.ok delivery, client) => .done (readDelivery decode delivery, client)
  | (.error error, client) => .done (.error error, client)

/-- What follows a registration in a receive. -/
def receiving
    (queue : String)
    (decode : List UInt8 → Except CodecError Content)
    (registered : Outcome Unit) :
    Program (Outcome (Delivery × Content)) :=
  (awaiting queue registered).bind fun waited => record (reading decode waited)

/-- Without a stream a consumer is registered. -/
theorem ensureConsumer_of_free (free : client.streams.get? queue = none) :
    client.ensureConsumer queue = client.registerConsumer queue := by
  have unregistered : ¬ client.hasConsumer queue = true := by
    simp [hasConsumer, Dictionary.contains, free]
  exact if_neg unregistered

/-- A receive without a stream is a registration and what follows it. -/
theorem receive_of_free (free : client.streams.get? queue = none) :
    client.receive queue decode =
      (client.registerConsumer queue).bind (receiving queue decode) := by
  have waited :
      client.nextDelivery queue = (client.registerConsumer queue).bind (awaiting queue) := by
    rw [← ensureConsumer_of_free free]
    refine congrArg (client.ensureConsumer queue).bind (funext fun registered => ?_)
    rcases registered with ⟨_ | _, _⟩ <;> rfl
  have read :
      client.receiveRead queue decode = (client.nextDelivery queue).bind (reading decode) := by
    refine congrArg (client.nextDelivery queue).bind (funext fun waited => ?_)
    rcases waited with ⟨_ | _, _⟩ <;> rfl
  change (client.receiveRead queue decode).bind _ = _
  rw [read, waited, Program.bind_assoc, Program.bind_assoc]
  rfl

end

end BrokerClient.Client
