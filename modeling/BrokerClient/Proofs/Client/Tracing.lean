import BrokerClient.Dictionary.Order
import BrokerClient.Proofs.Client.Operation
import BrokerClient.Proofs.Monitor
import BrokerClient.Text.Utf8.RoundTrip
import Mathlib.Data.List.Induction

/-!
# Bags on their way into headers and back

A bag is written into an empty table pair by pair, each under its lower-cased name.  Names that
differ only in case collide, so what a name holds in the end depends on the whole bag: it is the
text of the last pair whose name lower-cases to it.  Reading looks every name of the table up and
gets the texts back.
-/

namespace BrokerClient

/-- The bag of some pairs, none of which is without a text. -/
def Bag.ofPairs (pairs : List (String × String)) : Bag :=
  pairs.map fun pair => (pair.1, some pair.2)

/-- The text of the last pair whose name lower-cases to a name. -/
def Bag.lastText? (pairs : List (String × String)) (name : String) : Option String :=
  (pairs.filter fun pair => Lowercase.apply pair.1 = name).getLast?.map Prod.snd

/-- Headers carry a bag: under each lower-cased name, once, the last text for it. -/
structure Carrier.Carries
    (pairs : List (String × String))
    (headers : HeaderTable) : Prop where
  rising : Dictionary.Rising headers
  keys : ∀ name, name ∈ headers.keys ↔ ∃ pair ∈ pairs, Lowercase.apply pair.1 = name
  values :
    ∀ name,
      headers.get? name =
        (Bag.lastText? pairs name).map fun text => .longString (Utf8.encode text)

/-- A context shows a bag: the last text under each lower-cased name, and no other texts. -/
def TraceContext.Shows (pairs : List (String × String)) (context : TraceContext) : Prop :=
  ∃ bag,
    context = some bag ∧
      (∀ pair ∈ pairs,
        ∃ text,
          Bag.lastText? pairs (Lowercase.apply pair.1) = some text ∧
            (Lowercase.apply pair.1, some text) ∈ bag) ∧
        ∀ name found, (name, found) ∈ bag → found = Bag.lastText? pairs name

namespace Bag

variable {pairs : List (String × String)} {pair : String × String} {name : String}

/-- The last pair decides what its name holds. -/
theorem lastText?_concat :
    lastText? (pairs ++ [pair]) name =
      if Lowercase.apply pair.1 = name then some pair.2 else lastText? pairs name := by
  unfold lastText?
  rw [List.filter_append]
  split
  · next same => simp [same]
  · next differs => simp [differs]

/-- A name that some pair is written under holds a text. -/
theorem lastText?_of_mem (member : pair ∈ pairs) :
    ∃ text, lastText? pairs (Lowercase.apply pair.1) = some text := by
  induction pairs using List.reverseRecOn with
  | nil => cases member
  | append_singleton earlier last inductionHypothesis =>
      rw [lastText?_concat]
      split
      · exact ⟨last.2, rfl⟩
      · next differs =>
          rcases List.mem_append.mp member with isEarlier | isLast
          · exact inductionHypothesis isEarlier
          · obtain rfl := List.mem_singleton.mp isLast
            exact absurd rfl differs

end Bag

namespace Carrier

variable {pairs : List (String × String)} {headers : HeaderTable}

theorem setAll_concat (headers : HeaderTable) (pair : String × String) :
    setAll headers (Bag.ofPairs (pairs ++ [pair])) =
      set (setAll headers (Bag.ofPairs pairs)) pair.1 pair.2 := by
  simp [setAll, Bag.ofPairs]

/-- What is written last stands under its name, and the others hold what they held. -/
theorem Carries.set
    (carries : Carries pairs headers)
    (pair : String × String) :
    Carries (pairs ++ [pair]) (set headers pair.1 pair.2) where
  rising := Dictionary.rising_insert carries.rising _ _
  keys := by
    intro name
    rw [Carrier.set, Dictionary.mem_keys_insert, carries.keys]
    constructor
    · intro isKey
      rcases isKey with rfl | ⟨other, member, isName⟩
      · exact ⟨pair, by simp, rfl⟩
      · exact ⟨other, by simp [member], isName⟩
    · intro isKey
      obtain ⟨other, member, isName⟩ := isKey
      rcases List.mem_append.mp member with isEarlier | isLast
      · exact .inr ⟨other, isEarlier, isName⟩
      · obtain rfl := List.mem_singleton.mp isLast
        exact .inl isName.symm
  values := by
    intro name
    rw [Bag.lastText?_concat]
    split
    · next same =>
        subst same
        exact Dictionary.get?_insert_same _ _ _
    · next differs =>
        rw [← carries.values]
        exact Dictionary.get?_insert_other _ _ (Ne.symm differs)

/-- A bag that is written into an empty table is carried by it. -/
theorem carries_setAll (pairs : List (String × String)) :
    Carries pairs (setAll [] (Bag.ofPairs pairs)) := by
  induction pairs using List.reverseRecOn with
  | nil =>
      refine ⟨List.Pairwise.nil, fun name => ?_, fun name => rfl⟩
      simp [setAll, Bag.ofPairs, Dictionary.keys]
  | append_singleton earlier last inductionHypothesis =>
      rw [setAll_concat]
      exact inductionHypothesis.set last

/-- Under each name the text that is carried is read. -/
theorem Carries.get?
    (carries : Carries pairs headers)
    (name : String) :
    get? headers name = Bag.lastText? pairs name := by
  rw [Carrier.get?, carries.values]
  cases Bag.lastText? pairs name with
  | none => rfl
  | some text => exact Utf8.decode?_encode text

/-- A receiver whose contexts travel reads from headers what they carry, whatever is current. -/
theorem Carries.extract_shows
    (carries : Carries pairs headers)
    (names : List String)
    (current : TraceContext) :
    TraceContext.Shows pairs ((Propagator.lookingFor names).extract current headers) := by
  refine ⟨_, rfl, fun pair member => ?_, fun name found isRead => ?_⟩
  · obtain ⟨text, isText⟩ := Bag.lastText?_of_mem member
    refine ⟨text, isText, ?_⟩
    have isKey : Lowercase.apply pair.1 ∈ headers.keys :=
      (carries.keys _).mpr ⟨pair, member, rfl⟩
    rw [← isText, ← carries.get?]
    exact List.mem_map_of_mem (List.mem_append_left _ isKey)
  · obtain ⟨other, -, isEntry⟩ := List.mem_map.mp isRead
    cases isEntry
    exact carries.get? name

end Carrier

/-! ## What a publisher sends -/

/-- What a publish with some surroundings sends to its queue. -/
def Request.Composes
    (tracing : Tracing)
    (queue : String)
    (message : Outgoing) : Request → Prop
  | .transport (.publish _ publication) =>
      ∃ body messageId,
        message.body = .ok body ∧
          publication =
            .toQueue queue body (.outgoing tracing Codec.contentType messageId)
  | _ => True

namespace Client

variable {client : Client} {tracing : Tracing} {queue : String} {message : Outgoing}

theorem declare_composes (definition : QueueDefinition) :
    (client.declare definition).Meets (.only (Request.Composes tracing queue message))
      (fun _ _ => True) () := by
  unfold declare
  split
  · trivial
  · split
    · trivial
    · refine ⟨trivial, fun answer => ?_⟩
      cases answer <;> trivial

theorem failWith_composes (error : ClientError) :
    (client.failWith message error).Meets (.only (Request.Composes tracing queue message))
      (fun _ _ => True) () :=
  ⟨trivial, fun _ => trivial⟩

theorem send_composes {body : List UInt8} (isBody : message.body = .ok body) :
    (client.send tracing queue message body).Meets
      (.only (Request.Composes tracing queue message)) (fun _ _ => True) () := by
  unfold send
  cases client.channel with
  | none => exact ⟨trivial, fun _ => trivial⟩
  | some channel =>
      refine ⟨trivial, fun messageId => ⟨⟨body, messageId, isBody, rfl⟩, fun answer => ?_⟩⟩
      cases answer with
      | ok confirmed => trivial
      | error error => exact failWith_composes _

/-- All that a publish publishes is the message, with the context that is current. -/
theorem publish_composes :
    (client.publish tracing queue message).Meets (.only (Request.Composes tracing queue message))
      (fun _ _ => True) () := by
  have sends :
      (client.sendDeclared tracing queue message).Meets
        (.only (Request.Composes tracing queue message)) (fun _ _ => True) () := by
    refine (declare_composes _).bind fun ended _ _ => ?_
    obtain ⟨outcome, client⟩ := ended
    cases outcome with
    | error error => trivial
    | ok declared =>
        dsimp only
        split
        · next isBody => exact send_composes isBody
        · exact failWith_composes _
  exact sends.bind fun _ _ _ => trivial

end Client

end BrokerClient
