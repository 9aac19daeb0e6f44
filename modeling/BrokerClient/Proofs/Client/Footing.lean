import BrokerClient.Proofs.Client.Operation
import BrokerClient.Proofs.Monitor

/-!
# The connection that a client stands on

A client asks whether its connection is closed, dials only where it has just been told so, and
opens channels on nothing but the connection that it holds.  So whatever fails on the way to a new
channel, a channel that is held was opened on the connection that is held: dialing leaves the old
channel behind, and it is given up before anything else can fail.
-/

namespace BrokerClient

/-- The connection that is held, what is known of it and where a channel was opened last. -/
structure Footing where
  connection : Connection
  /-- Whether the latest look at the connection found it closed. -/
  lost : Bool
  /-- The channel that was opened last, and the connection that it was opened on. -/
  opened : Option (Channel × Connection)

namespace Footing

/-- Whether a request leaves the footing as it is. -/
def isSparedBy : Request → Bool
  | .isClosed _ => false
  | .transport (.dial _) => false
  | .transport (.openChannel _) => false
  | _ => true

/-- What may be asked on a footing. -/
def Permits (footing : Footing) : Request → Prop
  | .isClosed connection => connection = footing.connection
  | .transport (.dial _) => footing.lost = true
  | .transport (.openChannel connection) => connection = footing.connection
  | _ => True

/-- The footing after an exchange. -/
def after (footing : Footing) : Exchange → Footing
  | ⟨.isClosed _, closed⟩ => { footing with lost := closed }
  | ⟨.transport (.dial _), .ok connection⟩ =>
      { footing with connection := connection, lost := false }
  | ⟨.transport (.openChannel connection), .ok channel⟩ =>
      { footing with opened := some (channel, connection) }
  | _ => footing

/-- The monitor that follows a client from one connection to the next. -/
def monitor : Monitor Footing where
  permits := Permits
  after := after

/-- A client stands on a footing: what it holds is the channel opened last, on its connection. -/
structure Bears (footing : Footing) (client : Client) : Prop where
  connection : footing.connection = client.connection
  opened :
    ∀ channel, client.channel = some channel →
      footing.opened = some (channel, client.connection)

/-- The footing of a client that has asked nothing yet. -/
def start (client : Client) : Footing where
  connection := client.connection
  lost := false
  opened := client.channel.map fun channel => (channel, client.connection)

variable {footing : Footing} {request : Request}

theorem bears_start (client : Client) : (start client).Bears client := by
  refine ⟨rfl, fun channel isHeld => ?_⟩
  simp only [start, isHeld, Option.map_some]

/-- A client without a channel stands on its connection alone. -/
theorem bears_of_no_channel
    {client : Client}
    (sameConnection : footing.connection = client.connection)
    (absent : client.channel = none) :
    footing.Bears client := by
  refine ⟨sameConnection, fun channel isHeld => ?_⟩
  cases absent.symm.trans isHeld

theorem permits_of_isSparedBy (spared : isSparedBy request = true) : footing.Permits request := by
  cases request with
  | isClosed => cases spared
  | transport call =>
      cases call with
      | dial | openChannel => cases spared
      | _ => trivial
  | _ => trivial

theorem after_of_isSparedBy (spared : isSparedBy request = true) (answer : request.Answer) :
    footing.after ⟨request, answer⟩ = footing := by
  cases request with
  | isClosed => cases spared
  | transport call =>
      cases call with
      | dial | openChannel => cases spared
      | _ => rfl
  | _ => rfl

end Footing

namespace Program

/-- A program that asks nothing which changes the footing. -/
def SparesFooting (program : Program α) : Prop :=
  ∀ footing : Footing, program.Meets Footing.monitor (fun _ left => left = footing) footing

/-- A program leaves a client that stands on its footing, if the client before did. -/
def KeepsFooting (client : Client) (leaves : α → Client) (program : Program α) : Prop :=
  ∀ footing : Footing,
    footing.Bears client →
      program.Meets Footing.monitor (fun value left => left.Bears (leaves value)) footing

section

variable {α β : Type} {client : Client} {leaves : α → Client} {leavesThen : β → Client}

theorem sparesFooting_request
    {request : Request}
    (spared : Footing.isSparedBy request = true) :
    (Program.request request).SparesFooting :=
  fun _ => ⟨Footing.permits_of_isSparedBy spared, Footing.after_of_isSparedBy spared⟩

theorem sparesFooting_call
    {call : Call}
    (spared : Footing.isSparedBy (.transport call) = true) :
    (Program.call call).SparesFooting :=
  sparesFooting_request spared

theorem SparesFooting.bind
    {program : Program α}
    {next : α → Program β}
    (spares : program.SparesFooting)
    (goesOn : ∀ value, (next value).SparesFooting) :
    (program >>= next).SparesFooting :=
  fun footing => (spares footing).bind fun value _ same => same ▸ goesOn value footing

theorem SparesFooting.bind_keeps
    {program : Program α}
    {next : α → Program β}
    (spares : program.SparesFooting)
    (goesOn : ∀ value, (next value).KeepsFooting client leavesThen) :
    (program >>= next).KeepsFooting client leavesThen :=
  fun footing bears => (spares footing).bind fun value _ same => same ▸ goesOn value footing bears

theorem KeepsFooting.bind
    {program : Program α}
    {next : α → Program β}
    (keeps : program.KeepsFooting client leaves)
    (goesOn : ∀ value, (next value).KeepsFooting (leaves value) leavesThen) :
    (program >>= next).KeepsFooting client leavesThen :=
  fun footing bears => (keeps footing bears).bind fun value _ => goesOn value _

/-- A program may end with a client that holds the same connection and the same channel. -/
theorem keepsFooting_done
    {value : α}
    (sameConnection : (leaves value).connection = client.connection)
    (sameChannel : (leaves value).channel = client.channel) :
    (Program.done value).KeepsFooting client leaves := by
  intro footing bears
  refine ⟨bears.connection.trans sameConnection.symm, fun channel isHeld => ?_⟩
  rw [sameConnection]
  exact bears.opened channel (sameChannel.symm.trans isHeld)

end

end Program

namespace Client

open Program

variable {client : Client}

theorem keepsFooting_record
    {α : Type}
    {operation : Program (Outcome α)}
    (keeps : operation.KeepsFooting client Prod.snd) :
    (record operation).KeepsFooting client Prod.snd :=
  keeps.bind fun _ => keepsFooting_done rfl rfl

theorem sparesFooting_releaseAll (streams : List Stream) : (releaseAll streams).SparesFooting := by
  induction streams with
  | nil => exact fun _ => rfl
  | cons stream rest inductionHypothesis =>
      exact (sparesFooting_request rfl).bind fun _ => inductionHypothesis

/-! ## From one channel to the next -/

theorem sparesFooting_closeChannel : client.closeChannel.SparesFooting := by
  unfold closeChannel
  split
  · exact (sparesFooting_call rfl).bind fun _ _ => rfl
  · exact fun _ => rfl

/-- Where a connection was dialed anew, the channel is still the one on the old connection. -/
theorem redial_meets_footing {footing : Footing} (bears : footing.Bears client) :
    client.redial.Meets Footing.monitor
      (fun ended left =>
        left.connection = ended.2.connection ∧
          ∀ error, ended.1 = .error error → left.Bears ended.2) footing := by
  refine ⟨bears.connection.symm, fun closed => ?_⟩
  cases closed with
  | false =>
      refine ⟨bears.connection, ?_⟩
      intro error isError
      cases isError
  | true =>
      refine ⟨rfl, fun answer => ?_⟩
      cases answer with
      | ok connection =>
          refine ⟨rfl, ?_⟩
          intro error isError
          cases isError
      | error error => exact ⟨bears.connection, fun _ _ => ⟨bears.connection, bears.opened⟩⟩

/-- The channel that is left behind is given up before a new one is asked for. -/
theorem replaceChannel_meets_footing
    {footing : Footing}
    (sameConnection : footing.connection = client.connection) :
    client.replaceChannel.Meets Footing.monitor (fun ended left => left.Bears ended.2)
      footing := by
  refine (sparesFooting_closeChannel footing).bind fun _ closed sameClosed => ?_
  refine (sparesFooting_releaseAll _ closed).bind fun _ released sameReleased => ?_
  subst sameClosed sameReleased
  refine ⟨sameConnection.symm, fun answer => ?_⟩
  cases answer with
  | ok channel =>
      refine ⟨sameConnection, fun other isHeld => ?_⟩
      cases isHeld
      rfl
  | error error => exact Footing.bears_of_no_channel sameConnection rfl

theorem keepsFooting_reopen : client.reopen.KeepsFooting client Prod.snd := by
  intro footing bears
  refine (redial_meets_footing bears).bind ?_
  intro ended left redialed
  obtain ⟨outcome, client⟩ := ended
  obtain ⟨sameConnection, bearsOnFailure⟩ := redialed
  cases outcome with
  | ok done => exact replaceChannel_meets_footing sameConnection
  | error error => exact bearsOnFailure error rfl

theorem keepsFooting_closeBoth : client.closeBoth.KeepsFooting client Prod.snd := by
  refine sparesFooting_closeChannel.bind_keeps fun _ => ?_
  refine (sparesFooting_call rfl).bind_keeps fun answer => ?_
  cases answer with
  | ok closed => exact keepsFooting_done rfl rfl
  | error error => exact keepsFooting_done rfl rfl

/-! ## Queues and messages -/

theorem keepsFooting_declare (definition : QueueDefinition) :
    (client.declare definition).KeepsFooting client Prod.snd := by
  unfold declare
  split
  · exact keepsFooting_done rfl rfl
  · split
    · exact keepsFooting_done rfl rfl
    · refine (sparesFooting_call rfl).bind_keeps fun answer => ?_
      cases answer with
      | ok info => exact keepsFooting_done rfl rfl
      | error error => exact keepsFooting_done rfl rfl

theorem keepsFooting_inspect (queue : String) :
    (client.inspect queue).KeepsFooting client Prod.snd := by
  unfold inspect
  split
  · exact keepsFooting_done rfl rfl
  · refine (sparesFooting_call rfl).bind_keeps fun answer => ?_
    cases answer with
    | ok info => exact keepsFooting_done rfl rfl
    | error error => exact keepsFooting_done rfl rfl

theorem keepsFooting_forgetStream
    {former : Client}
    (sameConnection : client.connection = former.connection)
    (sameChannel : client.channel = former.channel)
    (queue : String) :
    (client.forgetStream queue).KeepsFooting former id :=
  (sparesFooting_releaseAll _).bind_keeps fun _ => keepsFooting_done sameConnection sameChannel

theorem keepsFooting_delete (queue : String) :
    (client.delete queue).KeepsFooting client Prod.snd := by
  unfold delete
  split
  · exact keepsFooting_done rfl rfl
  · refine (sparesFooting_call rfl).bind_keeps fun answer => ?_
    cases answer with
    | ok purged =>
        let forgetful : Client := { client with queues := client.queues.erase queue }
        have forgets : (forgetful.forgetStream queue).KeepsFooting client id := by
          apply keepsFooting_forgetStream <;> rfl
        exact forgets.bind fun _ => keepsFooting_done rfl rfl
    | error error => exact keepsFooting_done rfl rfl

theorem keepsFooting_failWith (message : Outgoing) (error : ClientError) :
    (client.failWith message error).KeepsFooting client Prod.snd :=
  (sparesFooting_request rfl).bind_keeps fun _ => keepsFooting_done rfl rfl

theorem keepsFooting_send
    (tracing : Tracing)
    (queue : String)
    (message : Outgoing)
    (body : List UInt8) :
    (client.send tracing queue message body).KeepsFooting client Prod.snd := by
  refine (sparesFooting_request rfl).bind_keeps fun messageId => ?_
  split
  · exact keepsFooting_done rfl rfl
  · refine (sparesFooting_call rfl).bind_keeps fun answer => ?_
    cases answer with
    | ok confirmed => exact keepsFooting_done rfl rfl
    | error error => exact keepsFooting_failWith message _

theorem keepsFooting_sendDeclared (tracing : Tracing) (queue : String) (message : Outgoing) :
    (client.sendDeclared tracing queue message).KeepsFooting client Prod.snd := by
  refine (keepsFooting_declare _).bind fun ended => ?_
  obtain ⟨outcome, client⟩ := ended
  cases outcome with
  | error error => exact keepsFooting_done rfl rfl
  | ok done =>
      dsimp only
      split
      · exact keepsFooting_send tracing queue message _
      · exact keepsFooting_failWith message _

/-! ## Receiving -/

theorem sparesFooting_qos : client.qos.SparesFooting := by
  unfold qos
  split
  · exact sparesFooting_call rfl
  · exact fun _ => rfl

theorem sparesFooting_consume (queue : String) : (client.consume queue).SparesFooting := by
  unfold consume
  split
  · exact sparesFooting_call rfl
  · exact fun _ => rfl

theorem keepsFooting_negotiateQosWithin (queue : String) (retries : Nat) :
    (negotiateQosWithin queue retries client).KeepsFooting client Prod.snd := by
  induction retries generalizing client with
  | zero =>
      unfold negotiateQosWithin
      refine sparesFooting_qos.bind_keeps fun answer => ?_
      cases answer with
      | ok done => exact keepsFooting_done rfl rfl
      | error error => exact keepsFooting_done rfl rfl
  | succ remaining inductionHypothesis =>
      unfold negotiateQosWithin
      refine sparesFooting_qos.bind_keeps fun answer => ?_
      cases answer with
      | ok done => exact keepsFooting_done rfl rfl
      | error error =>
          dsimp only
          split
          · refine (sparesFooting_request rfl).bind_keeps fun _ => ?_
            exact keepsFooting_reopen.bind fun _ => inductionHypothesis
          · exact keepsFooting_done rfl rfl

theorem keepsFooting_holdStream (queue : String) (stream : Stream) :
    (client.holdStream queue stream).KeepsFooting client id :=
  (sparesFooting_releaseAll _).bind_keeps fun _ => keepsFooting_done rfl rfl

theorem keepsFooting_consumeWithin (queue : String) (retries : Nat) :
    (consumeWithin queue retries client).KeepsFooting client Prod.snd := by
  induction retries generalizing client with
  | zero =>
      unfold consumeWithin
      refine (sparesFooting_consume queue).bind_keeps fun answer => ?_
      cases answer with
      | ok stream =>
          exact (keepsFooting_holdStream queue stream).bind fun _ => keepsFooting_done rfl rfl
      | error error => exact keepsFooting_done rfl rfl
  | succ remaining inductionHypothesis =>
      unfold consumeWithin
      refine (sparesFooting_consume queue).bind_keeps fun answer => ?_
      cases answer with
      | ok stream =>
          exact (keepsFooting_holdStream queue stream).bind fun _ => keepsFooting_done rfl rfl
      | error error =>
          dsimp only
          split
          · refine keepsFooting_reopen.bind fun _ => ?_
            refine (sparesFooting_request rfl).bind_keeps fun _ => ?_
            refine (keepsFooting_negotiateQosWithin queue _).bind fun ended => ?_
            obtain ⟨outcome, client⟩ := ended
            cases outcome with
            | ok done => exact inductionHypothesis
            | error error => exact keepsFooting_done rfl rfl
          · exact keepsFooting_done rfl rfl

theorem keepsFooting_registerConsumer (queue : String) :
    (client.registerConsumer queue).KeepsFooting client Prod.snd := by
  refine (keepsFooting_negotiateQosWithin queue _).bind fun ended => ?_
  obtain ⟨outcome, client⟩ := ended
  cases outcome with
  | ok done => exact keepsFooting_consumeWithin queue _
  | error error => exact keepsFooting_done rfl rfl

theorem keepsFooting_dropConsumer (queue : String) :
    (client.dropConsumer queue).KeepsFooting client id := by
  refine (keepsFooting_forgetStream rfl rfl queue).bind fun client => ?_
  dsimp only [id]
  split
  · exact (sparesFooting_call rfl).bind_keeps fun _ => keepsFooting_done rfl rfl
  · exact keepsFooting_done rfl rfl

theorem keepsFooting_dropAndFail (queue : String) (error : ClientError) :
    (client.dropAndFail queue error).KeepsFooting client Prod.snd :=
  (keepsFooting_dropConsumer queue).bind fun _ => keepsFooting_done rfl rfl

theorem keepsFooting_awaitDelivery (queue : String) (stream : Stream) :
    (client.awaitDelivery queue stream).KeepsFooting client Prod.snd := by
  refine (sparesFooting_request rfl).bind_keeps fun arrival => ?_
  rcases arrival with (error | delivery) | - | -
  · exact keepsFooting_dropAndFail queue _
  · dsimp only
    split
    · exact keepsFooting_done rfl rfl
    · exact keepsFooting_done rfl rfl
  · exact keepsFooting_dropAndFail queue _
  · exact keepsFooting_dropAndFail queue _

theorem keepsFooting_nextDelivery (queue : String) :
    (client.nextDelivery queue).KeepsFooting client Prod.snd := by
  have ensured : (client.ensureConsumer queue).KeepsFooting client Prod.snd := by
    unfold ensureConsumer
    split
    · exact keepsFooting_done rfl rfl
    · exact keepsFooting_registerConsumer queue
  refine ensured.bind fun ended => ?_
  obtain ⟨outcome, client⟩ := ended
  cases outcome with
  | error error => exact keepsFooting_done rfl rfl
  | ok done =>
      dsimp only
      split
      · exact keepsFooting_awaitDelivery queue _
      · exact keepsFooting_done rfl rfl

theorem keepsFooting_receive
    {Content : Type}
    (queue : String)
    (decode : List UInt8 → Except CodecError Content) :
    (client.receive queue decode).KeepsFooting client Prod.snd := by
  apply keepsFooting_record
  refine (keepsFooting_nextDelivery queue).bind fun ended => ?_
  obtain ⟨outcome, client⟩ := ended
  cases outcome with
  | ok delivery => exact keepsFooting_done rfl rfl
  | error error => exact keepsFooting_done rfl rfl

end Client

namespace Operation

open Client

/-- Whatever an operation goes through, it leaves a client whose channel is on its connection. -/
theorem keepsFooting (operation : Operation) (client : Client) :
    (operation.program client).KeepsFooting client Prod.snd := by
  cases operation with
  | reset => exact keepsFooting_record keepsFooting_reopen
  | ensureQueue definition => exact keepsFooting_record (keepsFooting_declare definition)
  | inspectQueue queue => exact keepsFooting_record (keepsFooting_inspect queue)
  | deleteQueue queue => exact keepsFooting_record (keepsFooting_delete queue)
  | publish tracing queue message =>
      exact keepsFooting_record (keepsFooting_sendDeclared tracing queue message)
  | receive queue decode => exact keepsFooting_receive queue decode
  | registerConsumer queue => exact keepsFooting_registerConsumer queue
  | close => exact keepsFooting_record keepsFooting_closeBoth
  | setLastError error => exact Program.keepsFooting_done rfl rfl
  | resetError => exact Program.keepsFooting_done rfl rfl

end Operation

end BrokerClient
