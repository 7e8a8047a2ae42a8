import V3Aidlc.ConversationalGateway

/-!
What the relay of a message keeps. An accepted relay is of the counterpart kind, names its
source and stays in its conversation, and it repeats every verbatim text of the user. The
answer to a clarification and the selected option of a decision are not compared, so the
relay is faithful exactly when it repeats these too (`relay_faithful_iff`).
-/
namespace V3Aidlc.Relays
open V3Aidlc.Values V3Aidlc.Loops V3Aidlc.Contracts V3Aidlc.Canonical V3Aidlc.ConversationalGateway

def kind_of (envelope : Dict) : Option MessageKind := message_kind? (envelope.get "kind")
def sender_of (envelope : Dict) : Option Actor := actor? (envelope.get "sender")
def payload_of (envelope : Dict) : Dict := ((envelope.get "payload").dict?).getD []

/-! ### Envelopes -/

section
variable {python : Interpreter}

theorem missing_keys_nil {required : List String} {d : Dict} :
    missing_keys required d = [] ↔ ∀ key ∈ required, d.has key = true := by
  unfold missing_keys
  rw [sorted_nil,List.filter_eq_nil_iff]
  simp only [Bool.not_eq_true',Bool.not_eq_false]

/-- What is known of an envelope that the protocol admits. -/
structure Admitted (envelope : Dict) (kind : MessageKind) (payload : Dict) : Prop where
  known : kind_of envelope = some kind
  sender : sender_of envelope = some (ALLOWED_DIRECTIONS kind).1
  carried : payload_of envelope = payload
  required : ∀ field ∈ REQUIRED_PAYLOAD_FIELDS kind, payload.has field = true
  message_id : filled (envelope.get "messageId") = true
  conversation_id : filled (envelope.get "conversationId") = true

theorem validate_direction_ok {envelope : Dict} {kind : MessageKind} (ran : validate_direction envelope = .ok kind) :
    kind_of envelope = some kind ∧ sender_of envelope = some (ALLOWED_DIRECTIONS kind).1 := by
  unfold validate_direction at ran
  split at ran
  · rename_i found sender recipient isKind isSender isRecipient
    simp only [bind_ok_iff,ConversationalGateway.reject,reject_if_ok,pure_ok_iff,decide_eq_false_iff_not,not_not] at ran
    obtain ⟨_,allowed,rfl⟩ := ran
    refine ⟨isKind,?_⟩
    rw [← allowed]
    exact isSender
  · cases ran

theorem envelope_parts_ok {envelope : Dict} {kind : MessageKind} {payload : Dict}
    (ran : envelope_parts python envelope = .ok (kind,payload)) : Admitted envelope kind payload := by
  unfold envelope_parts at ran
  simp only [bind_ok_iff,ConversationalGateway.reject,reject_if_ok,forM_ok_iff] at ran
  obtain ⟨_,_,_,named,found,directed,ran⟩ := ran
  cases isPayload : (envelope.get "payload").dict? with
  | none => simp [isPayload,gateway_error] at ran
  | some held =>
    simp only [isPayload,bind_ok_iff,pure_ok_iff,Prod.mk.injEq] at ran
    obtain ⟨_,checked,rfl,rfl⟩ := ran
    unfold validate_payload at checked
    simp only [bind_ok_iff,ConversationalGateway.reject,reject_if_ok,Bool.not_eq_false',List.isEmpty_iff] at checked
    obtain ⟨_,complete,_⟩ := checked
    obtain ⟨isKind,isSender⟩ := validate_direction_ok directed
    refine ⟨isKind,isSender,?_,missing_keys_nil.mp complete,?_,?_⟩
    · unfold payload_of
      rw [isPayload,Option.getD_some]
    · simpa using named "messageId" (by simp)
    · simpa using named "conversationId" (by simp)

end

/-! ### Accepted relays -/

/-- A payload field has the same value in both envelopes. -/
def Repeats (source relay : Dict) (field : String) : Prop :=
  ((payload_of relay).get field).eq ((payload_of source).get field) = true

/-- The relay is the counterpart of its source, and repeats what the user authored in it
    wherever the protocol requires the field of both. -/
structure FaithfulRelay (source relay : Dict) : Prop where
  counterpart : ∃ source_kind relay_kind, kind_of source = some source_kind ∧ kind_of relay = some relay_kind ∧
    RELAY_PAIRS source_kind = some relay_kind
  correlated : relay.get "correlationId" = source.get "messageId"
  same_conversation : relay.get "conversationId" = source.get "conversationId"
  repeated : ∀ source_kind relay_kind, kind_of source = some source_kind → kind_of relay = some relay_kind →
    sender_of source = some .USER → ∀ field ∈ REQUIRED_PAYLOAD_FIELDS source_kind,
    field ∈ REQUIRED_PAYLOAD_FIELDS relay_kind → Repeats source relay field

/-- The relay repeats the answer to a clarification and the selected option of a decision. -/
structure KeepsReply (source relay : Dict) : Prop where
  answer : kind_of source = some .USER_CLARIFICATION → Repeats source relay "answer"
  selection : kind_of source = some .USER_DECISION → Repeats source relay "selectedOption"

section
variable {python : Interpreter} {source relay : Dict}

/-- What is known of a relay that was accepted. -/
structure Accepted (source relay : Dict) (source_kind relay_kind : MessageKind) : Prop where
  sent : Admitted source source_kind (payload_of source)
  relayed : Admitted relay relay_kind (payload_of relay)
  pair : RELAY_PAIRS source_kind = some relay_kind
  correlated : relay.get "correlationId" = source.get "messageId"
  same_conversation : relay.get "conversationId" = source.get "conversationId"
  verbatim : ∀ field ∈ "verbatimRequest" :: VERBATIM_FIELDS, (payload_of source).has field = true →
    Repeats source relay field

theorem text_of_filled {v : Json} (named : filled v = true) : ∃ s, v = .str s := by
  cases v <;> simp [filled] at named ⊢

theorem preserve_ok {source_payload relay_payload : Dict} {field message : String}
    (ran : preserve source_payload relay_payload field message = .ok ()) (held : source_payload.has field = true) :
    (relay_payload.get field).eq (source_payload.get field) = true := by
  unfold preserve ConversationalGateway.reject at ran
  rw [reject_if_ok,held,Bool.true_and,Bool.not_eq_false'] at ran
  exact ran

theorem validate_relay_ok (ran : validate_relay python source relay = .ok ()) :
    ∃ source_kind relay_kind, Accepted source relay source_kind relay_kind := by
  unfold validate_relay at ran
  simp only [bind_ok_iff] at ran
  obtain ⟨⟨source_kind,source_payload⟩,from_source,⟨relay_kind,relay_payload⟩,from_relay,_,paired,_,correlates,
    _,converses,_,requested,_,_,verbatim⟩ := ran
  simp only [ConversationalGateway.reject,reject_if_ok,decide_eq_false_iff_not,not_not,Bool.not_eq_false']
    at paired correlates converses
  have sourceAdmitted := envelope_parts_ok from_source
  have relayAdmitted := envelope_parts_ok from_relay
  obtain rfl := sourceAdmitted.carried
  obtain rfl := relayAdmitted.carried
  refine ⟨source_kind,relay_kind,sourceAdmitted,relayAdmitted,paired,?_,?_,?_⟩
  · obtain ⟨id,isText⟩ := text_of_filled sourceAdmitted.message_id
    rw [isText,eq_str_right] at correlates
    rw [correlates,isText]
  · obtain ⟨id,isText⟩ := text_of_filled sourceAdmitted.conversation_id
    rw [isText,eq_str_right] at converses
    rw [converses,isText]
  · intro field listed held
    rcases List.mem_cons.mp listed with rfl | listed
    · exact preserve_ok requested held
    · exact preserve_ok (forM_ok_iff.mp verbatim field listed) held

/-- The fields that a message of the user shares with its relay: the verbatim texts, the
    answer and the selected option. -/
theorem shared_fields {source_kind relay_kind : MessageKind} {field : String}
    (authored : (ALLOWED_DIRECTIONS source_kind).1 = .USER) (pair : RELAY_PAIRS source_kind = some relay_kind)
    (required : field ∈ REQUIRED_PAYLOAD_FIELDS source_kind) (needed : field ∈ REQUIRED_PAYLOAD_FIELDS relay_kind) :
    field ∈ "verbatimRequest" :: VERBATIM_FIELDS ∨ (source_kind = .USER_CLARIFICATION ∧ field = "answer") ∨
      (source_kind = .USER_DECISION ∧ field = "selectedOption") := by
  cases source_kind <;> cases authored <;> cases pair <;>
    simp [REQUIRED_PAYLOAD_FIELDS,VERBATIM_FIELDS] at required needed ⊢ <;> grind

theorem relay_faithful_iff (ran : validate_relay python source relay = .ok ()) :
    FaithfulRelay source relay ↔ KeepsReply source relay := by
  obtain ⟨source_kind,relay_kind,accepted⟩ := validate_relay_ok ran
  constructor
  · intro faithful
    have repeated := faithful.repeated source_kind relay_kind accepted.sent.known accepted.relayed.known
    constructor
    · intro clarifies
      obtain rfl : source_kind = .USER_CLARIFICATION := Option.some.inj (accepted.sent.known.symm.trans clarifies)
      obtain rfl : _ = relay_kind := Option.some.inj accepted.pair
      exact repeated accepted.sent.sender "answer" (by decide) (by decide)
    · intro decides
      obtain rfl : source_kind = .USER_DECISION := Option.some.inj (accepted.sent.known.symm.trans decides)
      obtain rfl : _ = relay_kind := Option.some.inj accepted.pair
      exact repeated accepted.sent.sender "selectedOption" (by decide) (by decide)
  · intro kept
    refine ⟨⟨source_kind,relay_kind,accepted.sent.known,accepted.relayed.known,accepted.pair⟩,accepted.correlated,
      accepted.same_conversation,?_⟩
    intro kind counterpart isKind isCounterpart authored field required needed
    obtain rfl : source_kind = kind := Option.some.inj (accepted.sent.known.symm.trans isKind)
    obtain rfl : relay_kind = counterpart := Option.some.inj (accepted.relayed.known.symm.trans isCounterpart)
    have user := Option.some.inj (accepted.sent.sender.symm.trans authored)
    rcases shared_fields user accepted.pair required needed with verbatim | ⟨rfl,rfl⟩ | ⟨rfl,rfl⟩
    · exact accepted.verbatim field verbatim (accepted.sent.required field required)
    · exact kept.answer accepted.sent.known
    · exact kept.selection accepted.sent.known

end

/-! ### A decision that is relayed as another -/

/-- An interpreter that knows the ASCII letters. -/
def sample_python : Interpreter where
  order := USER_MESSAGE_FIELDS
  order_perm := .refl _
  is_word c := c.isAlphanum || c = '_'
  lower := String.toLower

def sample_envelope (kind sender recipient message_id : String) (correlation payload : Json) : Dict :=
  [("schemaVersion",.str "1.0.0"),("messageId",.str message_id),("conversationId",.str "CONV-1"),
    ("kind",.str kind),("sender",.str sender),("recipient",.str recipient),
    ("createdAt",.str "2026-07-12T05:00:00Z"),("correlationId",correlation),("payload",payload)]

def chosen (option : String) : Json := .obj [("selectedOption",.str option),("verbatimResponse",.str "The first one.")]

def sample_decision : Dict := sample_envelope "user_decision" "user" "liaison" "MSG-1" .null (chosen "option-a")
def sample_submission (option : String) : Dict :=
  sample_envelope "decision_submission" "liaison" "project_lead" "MSG-2" (.str "MSG-1") (chosen option)

theorem relay_faithful_iff_kept :
    FaithfulRelay sample_decision (sample_submission "option-a") ↔
      KeepsReply sample_decision (sample_submission "option-a") :=
  relay_faithful_iff (by decide +kernel : validate_relay sample_python sample_decision (sample_submission "option-a") =
    .ok ())

theorem selection_altered :
    validate_relay sample_python sample_decision (sample_submission "option-b") = .ok () ∧
      ¬ FaithfulRelay sample_decision (sample_submission "option-b") := by
  refine ⟨by decide +kernel,fun faithful => ?_⟩
  have repeated := faithful.repeated .USER_DECISION .DECISION_SUBMISSION (by decide +kernel) (by decide +kernel)
    (by decide +kernel) "selectedOption" (by decide) (by decide)
  have differs : ¬ Repeats sample_decision (sample_submission "option-b") "selectedOption" := by
    unfold Repeats
    decide +kernel
  exact differs repeated

end V3Aidlc.Relays
