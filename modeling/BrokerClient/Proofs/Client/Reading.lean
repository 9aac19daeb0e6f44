import BrokerClient.Proofs.Client.Receiving
import BrokerClient.Proofs.Contents
import BrokerClient.Proofs.Json.Depth

/-!
# What a receive makes of a delivery

A receive waits for a delivery at most once, for to register a consumer is not to wait for what it
will get.  So a delivery that a wait yields is the one that is read, and its body alone decides
between its content and a failure.  For the body of a value that means: the value is handed out
unless more of its brackets are open at once than readers permit.
-/

namespace BrokerClient

/-- Whether a request waits for a delivery. -/
def Request.awaits : Request → Bool
  | .next .. => true
  | _ => false

/-- A request on the way to a new channel does not wait for a delivery. -/
theorem Request.Renews.awaits
    {request : Request}
    (renews : request.Renews) :
    request.awaits = false := by
  cases request with
  | next stream timeout => cases renews
  | _ => rfl

/-- No delivery is waited for. -/
def History.AwaitsNothing (history : History) : Prop :=
  ∀ exchange ∈ history, exchange.request.awaits = false

/-- To seek a new channel is not to wait for a delivery. -/
theorem History.Reopens.awaitsNothing
    {history : History}
    (reopens : history.Reopens) :
    history.AwaitsNothing := by
  obtain ⟨connection, closed, between, call, answer, rfl, renews, lastRenews⟩ := reopens
  refine List.forall_mem_cons.mpr ⟨rfl, List.forall_mem_append.mpr ⟨?_, ?_⟩⟩
  · exact fun exchange member => (renews exchange member).awaits
  · exact List.forall_mem_singleton.mpr lastRenews.awaits

/-- To negotiate flow control is not to wait for a delivery. -/
theorem Stage.awaitsNothing
    {client left : Client}
    {retries : Nat}
    {history : History}
    {answer : Except TransportError Unit}
    (stage : Stage client retries history answer left) :
    history.AwaitsNothing := by
  have attempting {client : Client} {history : History} {answer : Except TransportError Unit}
      (attempt : Attempt client history answer) :
      history.AwaitsNothing := by
    cases attempt with
    | asked held answer => exact List.forall_mem_singleton.mpr rfl
    | unasked absent => exact List.forall_mem_nil _
  induction stage with
  | last attempt => exact attempting attempt
  | again attempt retried reopened goesOn inductionHypothesis =>
      refine List.forall_mem_append.mpr ⟨attempting attempt, List.forall_mem_cons.mpr ⟨rfl, ?_⟩⟩
      exact List.forall_mem_append.mpr
        ⟨(Client.reopen_ends reopened).1.awaitsNothing, inductionHypothesis⟩

/-- To register a consumer is not to wait for a delivery. -/
theorem Registration.awaitsNothing
    {queue : String}
    {client left : Client}
    {stages : List Nat}
    {history : History}
    {ending : Ending}
    (registration : Registration queue client stages history ending left) :
    history.AwaitsNothing := by
  induction registration with
  | unnegotiated stage => exact stage.awaitsNothing
  | registered stage held =>
      refine List.forall_mem_append.mpr ⟨stage.awaitsNothing, List.forall_mem_cons.mpr ⟨rfl, ?_⟩⟩
      intro exchange member
      obtain ⟨replaced, -, rfl⟩ := List.mem_map.mp member
      rfl
  | refused stage held =>
      exact List.forall_mem_append.mpr ⟨stage.awaitsNothing, List.forall_mem_singleton.mpr rfl⟩
  | again stage held retried reopened goesOn inductionHypothesis =>
      refine List.forall_mem_append.mpr ⟨stage.awaitsNothing, List.forall_mem_cons.mpr ⟨rfl, ?_⟩⟩
      refine List.forall_mem_append.mpr ⟨(Client.reopen_ends reopened).1.awaitsNothing, ?_⟩
      exact List.forall_mem_cons.mpr ⟨rfl, inductionHypothesis⟩

namespace Client

variable {client : Client} {queue : String} {history : History}

/-- To come to a stream is not to wait for a delivery. -/
theorem Ensures.awaitsNothing
    {ended : Outcome Unit}
    (ensures : client.Ensures queue history ended) :
    history.AwaitsNothing := by
  cases ensures with
  | held holds => exact List.forall_mem_nil _
  | registers free ends =>
      obtain ⟨stages, ending, registration, -⟩ := registerConsumer_ends ends
      exact registration.awaitsNothing

section

variable {Content : Type} {decode : List UInt8 → Except CodecError Content}
variable {ended : Outcome (Delivery × Content)}

/-- What follows a wait is not to wait again. -/
theorem Waited.awaitsNothing
    {stream : Stream}
    {arrival : Arrival}
    (waited : client.Waited queue stream decode arrival history ended) :
    history.AwaitsNothing := by
  have dropping (drops : client.Drops stream history) : history.AwaitsNothing := by
    obtain ⟨channel, answer, -, rfl⟩ := drops
    exact List.forall_mem_cons.mpr ⟨rfl, List.forall_mem_singleton.mpr rfl⟩
  cases waited with
  | delivered _ _ => exact List.forall_mem_nil _
  | unreadable _ _ => exact List.forall_mem_nil _
  | empty _ => exact List.forall_mem_nil _
  | failed error drops => exact dropping drops
  | ended drops => exact dropping drops
  | timedOut drops => exact dropping drops

/-- A delivery with a body that a wait of a receive yields is the one that the receive reads. -/
theorem Receives.reads
    (receives : client.Receives queue decode history ended)
    {stream : Stream}
    {timeout : Duration}
    {delivery : Delivery}
    (yielded : ⟨.next stream timeout, .item (.ok delivery)⟩ ∈ history)
    (filled : delivery.body.isEmpty = false) :
    ended.1 = readDelivery decode delivery := by
  have noWait {history : History} (awaitsNothing : history.AwaitsNothing)
      (member : ⟨.next stream timeout, .item (.ok delivery)⟩ ∈ history) : False := by
    have awaits := awaitsNothing _ member
    contradiction
  -- Neither the way to a stream nor what follows a wait yields a delivery, so the one wait did.
  cases receives with
  | unregistered free registers still =>
      exact (noWait (Ensures.registers free registers).awaitsNothing yielded).elim
  | waited ensures listens waited =>
      rcases List.mem_append.mp yielded with inEnsuring | inRest
      · exact (noWait ensures.awaitsNothing inEnsuring).elim
      · cases inRest with
        | tail _ inClosing => exact (noWait waited.awaitsNothing inClosing).elim
        | head => rw [((waited_of_filled filled).mp waited).2]

end

/-- What a receive reads decides what it ends with, and nothing that is recorded changes that. -/
theorem receive_reads
    {Content : Type}
    {decode : List UInt8 → Except CodecError Content}
    {ended : Outcome (Delivery × Content)}
    (coherent : client.Coherent)
    (ends : (client.receive queue decode).Ends history ended)
    {stream : Stream}
    {timeout : Duration}
    {delivery : Delivery}
    (yielded : ⟨.next stream timeout, .item (.ok delivery)⟩ ∈ history)
    (filled : delivery.body.isEmpty = false) :
    ended.1 = readDelivery decode delivery := by
  obtain ⟨found, reads, rfl⟩ := record_ends_iff.mp ends
  rw [recorded_fst]
  exact ((receiveRead_ends_iff coherent).mp reads).reads yielded filled

end Client

/-! ## The bodies of values -/

/-- The body of a value that programs hold is read, or refused for its depth. -/
theorem ContentKind.decode_value
    {value : Json}
    (held : Json.Held value) :
    (value.depth ≤ 127 ∧
        ∃ content, ContentKind.value.decode (Codec.encode value) = .ok (.value content)) ∨
      (127 < value.depth ∧
        ∃ line column : Nat,
          ContentKind.value.decode (Codec.encode value) =
            .error (.decode ("recursion limit exceeded at line " ++ toString line ++ " column " ++
              toString column))) := by
  have decoded :
      ContentKind.value.decode (Codec.encode value) =
        (Codec.decode Json.readValue value.write).map .value :=
    Codec.decode_map Json.readValue Content.value value.write
  have parsing := held.parse_write
  simp only [Json.parse] at parsing
  rcases parsing with ⟨shallow, content, parses⟩ | ⟨deep, fault, fails, isTooDeep⟩
  · refine .inl ⟨shallow, content, ?_⟩
    simp only [decoded, Codec.decode, parses, Except.map]
  · refine .inr ⟨deep, fault.line, fault.column, ?_⟩
    simp only [decoded, Codec.decode, fails, Except.map, Json.Fault.message_tooDeep isTooDeep]

/--
Every value has a body, and a body is read back unless more than 127 of its brackets are open at
once.  So a receive to which a wait yields the body of a value hands a content out, or it fails to
read a value that is too deep; it never takes the body for an empty one.
-/
theorem value_read_unless_too_deep
    {value : Json}
    (held : Json.Held value) :
    ∃ body,
      (Message.value value).encode = .ok body ∧
      ((∃ content, ContentKind.value.decode body = .ok (.value content)) ↔ value.depth ≤ 127) ∧
      (127 < value.depth →
        ∃ line column : Nat,
          ContentKind.value.decode body =
            .error (.decode ("recursion limit exceeded at line " ++ toString line ++ " column " ++
              toString column))) ∧
      ∀ {connection : Connection} {url consumerId : String} {options : Options}
          {performances : List Performance} {client : Client} {queue : String} {history : History}
          {ended : Outcome (Delivery × Content)} {stream : Stream} {timeout : Duration}
          {delivery : Delivery},
        (Client.new connection url consumerId options).Runs performances client →
        (client.receive queue ContentKind.value.decode).Ends history ended →
        ⟨.next stream timeout, .item (.ok delivery)⟩ ∈ history →
        delivery.body = body →
          (value.depth ≤ 127 ∧ ∃ content, ended.1 = .ok (delivery, .value content)) ∨
            (127 < value.depth ∧ ∃ reason, ended.1 = .error (.parsePayload delivery reason)) := by
  have decides := ContentKind.decode_value held
  refine ⟨Codec.encode value, rfl, ?_, ?_, ?_⟩
  · constructor
    · rintro ⟨content, decodes⟩
      rcases decides with ⟨shallow, -⟩ | ⟨-, line, column, fails⟩
      · exact shallow
      · cases decodes.symm.trans fails
    · intro shallow
      rcases decides with ⟨-, decodes⟩ | ⟨deep, -⟩
      · exact decodes
      · exact absurd shallow (Nat.not_le.mpr deep)
  · intro deep
    rcases decides with ⟨shallow, -⟩ | ⟨-, fails⟩
    · exact absurd shallow (Nat.not_le.mpr deep)
    · exact fails
  · intro connection url consumerId options performances client queue history ended stream timeout
      delivery runs ends yielded isBody
    have filled : delivery.body.isEmpty = false := by
      rw [isBody]
      exact held.write_filled
    have reads := Client.receive_reads runs.coherent ends yielded filled
    rcases decides with ⟨shallow, content, decodes⟩ | ⟨deep, line, column, fails⟩
    · refine .inl ⟨shallow, content, ?_⟩
      rw [reads, Client.readDelivery, isBody, decodes]
    · rw [Client.readDelivery, isBody, fails] at reads
      exact .inr ⟨deep, _, reads⟩

/-- The idle client registers a consumer again and reads what its new stream yields. -/
theorem Performance.ends_reading
    {Content : Type}
    {decode : List UInt8 → Except CodecError Content}
    {delivery : Delivery}
    (filled : delivery.body.isEmpty = false) :
    (idleClient.receive "jobs" decode).Ends
      (waiting.history.take 2 ++ [⟨.next ⟨0⟩ (.ofSeconds 10), .item (.ok delivery)⟩])
      (Client.recorded
        (Client.readDelivery decode delivery,
          { idleClient with streams := [("jobs", ⟨0⟩)] })) := by
  refine Client.record_ends_iff.mpr ⟨_, ?_, rfl⟩
  refine (Client.receiveRead_ends_iff runs_waiting.coherent).mpr ?_
  refine .waited (.registers rfl (ends_registering _)) ⟨rfl, ⟨0, 0⟩, rfl⟩ ?_
  exact (Client.waited_of_filled filled).mpr ⟨rfl, rfl⟩

/-- Programs hold a value inside any number of lists. -/
theorem Json.Held.nested
    {value : Json}
    (held : Json.Held value)
    (lists : Nat) :
    Json.Held (Json.nested lists value) := by
  induction lists with
  | zero => exact held
  | succ lists inductionHypothesis =>
      exact .array (List.forall_mem_singleton.mpr inductionHypothesis)

/-- A list with the negative zero and with the largest whole number, inside as many lists as may be
open around it, is handed out. -/
theorem value_read_at_limit :
    let inner : Json := .array [.number (.float (.zero true)), .ofInt 18446744073709551615]
    ∃ body content history ended,
      (Message.value (Json.nested 126 inner)).encode = .ok body ∧
        (Performance.idleClient.receive "jobs" ContentKind.value.decode).Ends history ended ∧
          ended.1 = .ok (.new 1 "jobs" body, .value content) := by
  intro inner
  have held : Json.Held (Json.nested 126 inner) := by
    refine .nested (.array ?_) 126
    refine List.forall_mem_cons.mpr ⟨.float _, List.forall_mem_singleton.mpr ?_⟩
    exact .integer (by decide) (by decide)
  have shallow : (Json.nested 126 inner).depth = 127 := by decide +kernel
  obtain ⟨body, encodes, -, -, decides⟩ := value_read_unless_too_deep held
  have filled : body.isEmpty = false := by
    cases encodes
    exact held.write_filled
  have ends := @Performance.ends_reading _ ContentKind.value.decode (.new 1 "jobs" body) filled
  have received := decides Performance.runs_waiting ends (List.mem_append_right _ (.head _)) rfl
  rcases received with ⟨-, content, read⟩ | ⟨deep, -⟩
  · exact ⟨body, content, _, _, encodes, ends, read⟩
  · exact absurd deep (by rw [shallow]; decide)

set_option maxRecDepth 8000 in
/-- The bracket that opens one list too many is refused. -/
theorem ContentKind.decode_brackets :
    ContentKind.value.decode (List.replicate 128 0x5B ++ List.replicate 128 0x5D) =
      .error (.decode "recursion limit exceeded at line 1 column 128") := by
  rfl

/-- One list more is written like any other, but its body is refused. -/
theorem value_unread_beyond_limit :
    let body := List.replicate 128 0x5B ++ List.replicate 128 0x5D
    (Message.value (Json.nested 127 (.array []))).encode = .ok body ∧
      (¬ ∃ content, ContentKind.value.decode body = .ok content) ∧
        ∃ history ended reason,
          (Performance.idleClient.receive "jobs" ContentKind.value.decode).Ends history ended ∧
            ended.1 = .error (.parsePayload (.new 1 "jobs" body) reason) := by
  intro body
  have refused : ContentKind.value.decode body = _ := ContentKind.decode_brackets
  refine ⟨congrArg Except.ok (by decide +kernel), ?_, ?_⟩
  · rintro ⟨content, decodes⟩
    cases refused.symm.trans decodes
  · have filled : (Delivery.new 1 "jobs" body).body.isEmpty = false := rfl
    have ends := @Performance.ends_reading _ ContentKind.value.decode _ filled
    rw [Client.readDelivery, show Delivery.body _ = body from rfl, refused] at ends
    exact ⟨_, _, _, ends, rfl⟩

end BrokerClient
