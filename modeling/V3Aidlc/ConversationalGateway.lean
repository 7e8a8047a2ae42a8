import V3Aidlc.Contracts

/-!
The handoffs between the user, the liaison and the Project Lead
(`conversational_gateway.py`): the decision whether ordinary conversation enters managed
work, the envelopes of the protocol, the relay of a message by the liaison and the
transcript of a conversation.
-/
namespace V3Aidlc.ConversationalGateway
open V3Aidlc.Values V3Aidlc.Loops V3Aidlc.Contracts V3Aidlc.Canonical

/-! ### Activation -/

inductive ActivationDecision where
  | STAY_CONVERSATIONAL
  | START_MANAGED_INTAKE
  | ATTACH_EXISTING_PROJECT
  | CLARIFY_PROJECT_IDENTITY
  deriving DecidableEq

def ActivationDecision.value : ActivationDecision → String
  | .STAY_CONVERSATIONAL => "stay_conversational"
  | .START_MANAGED_INTAKE => "start_managed_intake"
  | .ATTACH_EXISTING_PROJECT => "attach_existing_project"
  | .CLARIFY_PROJECT_IDENTITY => "clarify_project_identity"

structure ActivationResult where
  decision : ActivationDecision
  reasons : List String

/-- The facts that each ask for managed work. -/
def signals : List (String × String) :=
  [("explicitFrameworkRequest","The user explicitly requested managed framework work."),
    ("needsPersistentState","The work must continue reliably across sessions."),
    ("needsOrchestration","The work needs coordinated stages or parallel work."),
    ("hasExternalSideEffects","The work may create governed external effects.")]

def activation_reasons (facts : Dict) : List String :=
  (signals.filter (fun signal => (facts.get signal.1).isTrue)).map Prod.snd ++
    if (facts.get "multiStep").isTrue && (facts.get "createsDurableArtifact").isTrue then
      ["The request is multi-step and creates a durable artifact."]
    else []

def decide_activation (facts : Dict) : ActivationResult :=
  if (facts.get "projectIdentityAmbiguous").isTrue then
    ⟨.CLARIFY_PROJECT_IDENTITY,["More than one project could own this work."]⟩
  else if (facts.get "existingProjectRef").truthy then
    ⟨.ATTACH_EXISTING_PROJECT,["The request identifies an existing managed project."]⟩
  else
    match activation_reasons facts with
    | [] => ⟨.STAY_CONVERSATIONAL,["The request can be handled as a simple, self-contained conversation."]⟩
    | reasons => ⟨.START_MANAGED_INTAKE,reasons⟩

/-! ### The protocol -/

inductive Actor where
  | USER
  | LIAISON
  | PROJECT_LEAD
  deriving DecidableEq

def Actor.value : Actor → String
  | .USER => "user"
  | .LIAISON => "liaison"
  | .PROJECT_LEAD => "project_lead"

inductive MessageKind where
  | USER_REQUEST
  | INTAKE_PROPOSAL
  | CLARIFICATION_NEEDED
  | CLARIFICATION_REQUEST
  | USER_CLARIFICATION
  | CLARIFICATION_SUBMISSION
  | PROGRESS
  | PROGRESS_UPDATE
  | DECISION_NEEDED
  | DECISION_REQUEST
  | USER_DECISION
  | DECISION_SUBMISSION
  | DECISION_RECORDED
  | BLOCKED
  | BLOCKED_NOTICE
  | COMPLETED
  | COMPLETION_REPORT
  | CORRECTION
  | CORRECTION_SUBMISSION
  | DELEGATION
  | DELEGATION_PROPOSAL
  | REVOCATION
  | REVOCATION_SUBMISSION
  deriving DecidableEq

def MessageKind.value : MessageKind → String
  | .USER_REQUEST => "user_request"
  | .INTAKE_PROPOSAL => "intake_proposal"
  | .CLARIFICATION_NEEDED => "clarification_needed"
  | .CLARIFICATION_REQUEST => "clarification_request"
  | .USER_CLARIFICATION => "user_clarification"
  | .CLARIFICATION_SUBMISSION => "clarification_submission"
  | .PROGRESS => "progress"
  | .PROGRESS_UPDATE => "progress_update"
  | .DECISION_NEEDED => "decision_needed"
  | .DECISION_REQUEST => "decision_request"
  | .USER_DECISION => "user_decision"
  | .DECISION_SUBMISSION => "decision_submission"
  | .DECISION_RECORDED => "decision_recorded"
  | .BLOCKED => "blocked"
  | .BLOCKED_NOTICE => "blocked_notice"
  | .COMPLETED => "completed"
  | .COMPLETION_REPORT => "completion_report"
  | .CORRECTION => "correction"
  | .CORRECTION_SUBMISSION => "correction_submission"
  | .DELEGATION => "delegation"
  | .DELEGATION_PROPOSAL => "delegation_proposal"
  | .REVOCATION => "revocation"
  | .REVOCATION_SUBMISSION => "revocation_submission"

def ACTORS : List Actor := [.USER,.LIAISON,.PROJECT_LEAD]
def MESSAGE_KINDS : List MessageKind :=
  [.USER_REQUEST,.INTAKE_PROPOSAL,.CLARIFICATION_NEEDED,.CLARIFICATION_REQUEST,.USER_CLARIFICATION,
    .CLARIFICATION_SUBMISSION,.PROGRESS,.PROGRESS_UPDATE,.DECISION_NEEDED,.DECISION_REQUEST,.USER_DECISION,
    .DECISION_SUBMISSION,.DECISION_RECORDED,.BLOCKED,.BLOCKED_NOTICE,.COMPLETED,.COMPLETION_REPORT,.CORRECTION,
    .CORRECTION_SUBMISSION,.DELEGATION,.DELEGATION_PROPOSAL,.REVOCATION,.REVOCATION_SUBMISSION]

/-- `Actor(value)`. -/
def actor? (value : Json) : Option Actor := ACTORS.find? (fun actor => value.str? = some actor.value)
/-- `MessageKind(value)`. -/
def message_kind? (value : Json) : Option MessageKind := MESSAGE_KINDS.find? (fun kind => value.str? = some kind.value)

/-- The sender and the recipient of a kind. -/
def ALLOWED_DIRECTIONS : MessageKind → Actor × Actor
  | .USER_REQUEST => (.USER,.LIAISON)
  | .INTAKE_PROPOSAL => (.LIAISON,.PROJECT_LEAD)
  | .CLARIFICATION_NEEDED => (.PROJECT_LEAD,.LIAISON)
  | .CLARIFICATION_REQUEST => (.LIAISON,.USER)
  | .USER_CLARIFICATION => (.USER,.LIAISON)
  | .CLARIFICATION_SUBMISSION => (.LIAISON,.PROJECT_LEAD)
  | .PROGRESS => (.PROJECT_LEAD,.LIAISON)
  | .PROGRESS_UPDATE => (.LIAISON,.USER)
  | .DECISION_NEEDED => (.PROJECT_LEAD,.LIAISON)
  | .DECISION_REQUEST => (.LIAISON,.USER)
  | .USER_DECISION => (.USER,.LIAISON)
  | .DECISION_SUBMISSION => (.LIAISON,.PROJECT_LEAD)
  | .DECISION_RECORDED => (.PROJECT_LEAD,.LIAISON)
  | .BLOCKED => (.PROJECT_LEAD,.LIAISON)
  | .BLOCKED_NOTICE => (.LIAISON,.USER)
  | .COMPLETED => (.PROJECT_LEAD,.LIAISON)
  | .COMPLETION_REPORT => (.LIAISON,.USER)
  | .CORRECTION => (.USER,.LIAISON)
  | .CORRECTION_SUBMISSION => (.LIAISON,.PROJECT_LEAD)
  | .DELEGATION => (.USER,.LIAISON)
  | .DELEGATION_PROPOSAL => (.LIAISON,.PROJECT_LEAD)
  | .REVOCATION => (.USER,.LIAISON)
  | .REVOCATION_SUBMISSION => (.LIAISON,.PROJECT_LEAD)

def RELAY_PAIRS : MessageKind → Option MessageKind
  | .USER_REQUEST => some .INTAKE_PROPOSAL
  | .CLARIFICATION_NEEDED => some .CLARIFICATION_REQUEST
  | .USER_CLARIFICATION => some .CLARIFICATION_SUBMISSION
  | .PROGRESS => some .PROGRESS_UPDATE
  | .DECISION_NEEDED => some .DECISION_REQUEST
  | .USER_DECISION => some .DECISION_SUBMISSION
  | .BLOCKED => some .BLOCKED_NOTICE
  | .COMPLETED => some .COMPLETION_REPORT
  | .CORRECTION => some .CORRECTION_SUBMISSION
  | .DELEGATION => some .DELEGATION_PROPOSAL
  | .REVOCATION => some .REVOCATION_SUBMISSION
  | _ => none

/-- A kind without an entry in the source's table requires no field. -/
def REQUIRED_PAYLOAD_FIELDS : MessageKind → List String
  | .USER_REQUEST => ["verbatimRequest"]
  | .INTAKE_PROPOSAL => ["verbatimRequest","requestedOutcome","constraints","assumptions"]
  | .CLARIFICATION_NEEDED => ["question","reason"]
  | .USER_CLARIFICATION => ["answer"]
  | .CLARIFICATION_SUBMISSION => ["answer"]
  | .PROGRESS => ["summary","completed","next"]
  | .DECISION_NEEDED => ["question","options","impact"]
  | .USER_DECISION => ["selectedOption","verbatimResponse"]
  | .DECISION_SUBMISSION => ["selectedOption","verbatimResponse"]
  | .DECISION_RECORDED => ["decisionId","eventIds"]
  | .BLOCKED => ["reason","affectedWork","canContinue"]
  | .COMPLETED => ["outcome","evidence","remainingWork"]
  | .CORRECTION => ["verbatimCorrection"]
  | .CORRECTION_SUBMISSION => ["verbatimCorrection"]
  | .DELEGATION => ["verbatimDelegation"]
  | .DELEGATION_PROPOSAL => ["verbatimDelegation","normalizedScope"]
  | .REVOCATION => ["verbatimRevocation"]
  | .REVOCATION_SUBMISSION => ["verbatimRevocation"]
  | _ => []

def USER_DIRECTED : List MessageKind :=
  [.CLARIFICATION_REQUEST,.PROGRESS_UPDATE,.DECISION_REQUEST,.BLOCKED_NOTICE,.COMPLETION_REPORT]

def gateway_error {α : Type} (message : String) : Py α := fail .GatewayError message
def reject (condition : Bool) (message : String) : Py Unit := reject_if .GatewayError condition message

/-! ### Text for the user -/

def USER_MESSAGE_FIELDS : List String := ["headline","explanation","impact","actionNeeded"]
/-- The alternatives of `INTERNAL_ID_PATTERN`, each followed by a hyphen. -/
def INTERNAL_ID_KINDS : List String :=
  ["PRJ","POL","RULE","CTRL","MODE","ROUTE","BOLT","UNIT","WS","EVT","DEC","V3.1"]
def INTERNAL_JARGON : List String :=
  ["bolt","work package","route instance","posture","canonical state","policy predicate"]

/-- What the source leaves to the process it runs in: the order in which the set
    `USER_MESSAGE_FIELDS` is iterated, and the Unicode tables behind `\w` and `str.lower`. -/
structure Interpreter where
  order : List String
  order_perm : order.Perm USER_MESSAGE_FIELDS
  is_word : Char → Bool
  lower : String → String

section
variable (python : Interpreter)

/-- `\b` between two neighbours, each absent at an end of the text. -/
def word_boundary (before after : Option Char) : Bool := before.any python.is_word != after.any python.is_word

/-- `[A-Z0-9.-]`. -/
def isIdChar (c : Char) : Bool := ('A' ≤ c && c ≤ 'Z') || ('0' ≤ c && c ≤ '9') || c = '.' || c = '-'

/-- `[A-Z0-9.-]*\b` after a character of the run. -/
def id_run (previous : Char) : List Char → Bool
  | [] => word_boundary python (some previous) none
  | c :: rest => word_boundary python (some previous) (some c) || (isIdChar c && id_run c rest)

/-- The pattern without its first boundary, at the start of the text. -/
def id_here (text : List Char) : Bool :=
  INTERNAL_ID_KINDS.any (fun kind =>
    match (kind.toList ++ ['-']).isPrefixOf text, text.drop (kind.length + 1) with
    | true,c :: rest => isIdChar c && id_run python c rest
    | _,_ => false)

/-- `INTERNAL_ID_PATTERN.search`, after a character of the text. -/
def id_search (previous : Option Char) : List Char → Bool
  | [] => false
  | c :: rest => (word_boundary python previous (some c) && id_here python (c :: rest)) || id_search (some c) rest

def user_text (payload : Dict) (key : String) : Py String :=
  match payload.get key with
  | .str s => if blank s then gateway_error ("User-facing " ++ key ++ " must be a non-empty string") else .ok s
  | _ => gateway_error ("User-facing " ++ key ++ " must be a non-empty string")

def used_jargon (combined : String) : List String :=
  sortedStrings (INTERNAL_JARGON.filter (fun term => term.toList <:+: (python.lower combined).toList))

def validate_option (option : Json) : Py Unit :=
  match option.dict? with
  | none => gateway_error "Each decision option needs id, label, and tradeoff"
  | some fields =>
    reject (!(["id","label","tradeoff"].all (fun key => filled (fields.get key))))
      "Each decision option needs id, label, and tradeoff"

/-- What a decision request needs besides its text. -/
def validate_decision_request (payload : Dict) : Py Unit := do
  match (payload.get "options").list? with
  | none => gateway_error "A decision request must provide two to four options"
  | some options =>
    reject (!(2 ≤ options.length && options.length ≤ 4)) "A decision request must provide two to four options"
    options.forM validate_option
  reject ((payload.get "recommendationSupported").isTrue && !filled (payload.get "recommendation"))
    "An evidence-supported decision request must include a recommendation"

/-- The keys of a set that the dict lacks. -/
def missing_keys (required : List String) (d : Dict) : List String :=
  sortedStrings (required.filter (fun key => !d.has key))

def validate_user_message (payload : Dict) (kind : MessageKind) : Py Unit := do
  let missing := missing_keys USER_MESSAGE_FIELDS payload
  reject (!missing.isEmpty) ("User-facing message is missing fields: " ++ displayList missing)
  let primary_text ← python.order.mapM (user_text payload)
  let combined := join " " primary_text
  reject (id_search python none combined.toList) "Internal IDs must not appear in primary user-facing text"
  let used := used_jargon python combined
  reject (!used.isEmpty) ("Unexplained framework jargon in user-facing text: " ++ displayList used)
  if kind = .DECISION_REQUEST then validate_decision_request payload

/-! ### Envelopes -/

def REQUIRED_FIELDS : List String :=
  ["schemaVersion","messageId","conversationId","kind","sender","recipient","createdAt","payload"]
/-- The fields that a proposal of the liaison must not claim. -/
def PROHIBITED_FIELDS : List String := ["eventIds","decisionId","recorded","canonicalStatus"]

def validate_direction (envelope : Dict) : Py MessageKind :=
  match message_kind? (envelope.get "kind"),actor? (envelope.get "sender"),actor? (envelope.get "recipient") with
  | some kind,some sender,some recipient => do
    reject ((sender,recipient) ≠ ALLOWED_DIRECTIONS kind) (kind.value ++ " has an invalid sender or recipient")
    return kind
  | _,_,_ => gateway_error "Envelope contains an unknown kind or actor"

/-- What a message of the liaison to the Project Lead must not hold. -/
def validate_proposal (kind : MessageKind) (payload : Dict) : Py Unit :=
  let present := sortedStrings (PROHIBITED_FIELDS.filter payload.has)
  reject (ALLOWED_DIRECTIONS kind = (.LIAISON,.PROJECT_LEAD) && !present.isEmpty)
    ("Liaison proposals cannot claim canonical fields: " ++ displayList present)

def validate_payload (kind : MessageKind) (payload : Dict) : Py Unit := do
  let missing_payload := missing_keys (REQUIRED_PAYLOAD_FIELDS kind) payload
  reject (!missing_payload.isEmpty) (kind.value ++ " payload is missing fields: " ++ displayList missing_payload)
  validate_proposal kind payload
  if kind ∈ USER_DIRECTED then validate_user_message python payload kind

/-- The kind and the payload of an envelope that the protocol admits. -/
def envelope_parts (envelope : Dict) : Py (MessageKind × Dict) := do
  let missing := missing_keys REQUIRED_FIELDS envelope
  reject (!missing.isEmpty) ("Envelope is missing fields: " ++ displayList missing)
  ["messageId","conversationId","createdAt"].forM (fun key =>
    reject (!filled (envelope.get key)) (key ++ " must be a non-empty string"))
  let kind ← validate_direction envelope
  match (envelope.get "payload").dict? with
  | none => gateway_error "payload must be an object"
  | some payload => do
    validate_payload python kind payload
    return (kind,payload)

def validate_envelope (envelope : Dict) : Py Unit := do
  let _ ← envelope_parts python envelope

/-! ### Relays and transcripts -/

/-- `[item.get("id") for item in options if isinstance(item, dict)]`. -/
def option_ids (options : List Json) : List Json := (options.filterMap Json.dict?).map (fun option => option.get "id")

/-- What is compared of the options, in the relay of a needed decision only. -/
def preserve_options (source_kind : MessageKind) (source_payload relay_payload : Dict) : Py Unit :=
  if source_kind = .DECISION_NEEDED then
    match (source_payload.get "options").list?,(relay_payload.get "options").list? with
    | some source_options,some relay_options =>
      reject (!eqItems (option_ids source_options) (option_ids relay_options))
        "A decision relay must preserve option IDs and order"
    | _,_ => gateway_error "Decision options must be arrays"
  else return

/-- A field that the payload of the source has must have the same value in the relay's. -/
def preserve (source_payload relay_payload : Dict) (field message : String) : Py Unit :=
  reject (source_payload.has field && !(relay_payload.get field).eq (source_payload.get field)) message

def VERBATIM_FIELDS : List String := ["verbatimResponse","verbatimCorrection","verbatimDelegation","verbatimRevocation"]

def validate_relay (source relay : Dict) : Py Unit := do
  let (source_kind,source_payload) ← envelope_parts python source
  let (relay_kind,relay_payload) ← envelope_parts python relay
  reject (RELAY_PAIRS source_kind ≠ some relay_kind)
    (source_kind.value ++ " cannot be relayed as " ++ relay_kind.value)
  reject (!(relay.get "correlationId").eq (source.get "messageId")) "Relay must correlate to its source message"
  reject (!(relay.get "conversationId").eq (source.get "conversationId")) "Relay must remain in the same conversation"
  preserve source_payload relay_payload "verbatimRequest" "The user's verbatim request must be preserved"
  preserve_options source_kind source_payload relay_payload
  VERBATIM_FIELDS.forM (fun field => preserve source_payload relay_payload field (field ++ " must be preserved"))

def check_correlation (seen : List String) (correlation : Json) : Py Unit :=
  if correlation.isNull then return
  else do
    let known ← in_set correlation seen
    reject (!known) ("Correlation must reference an earlier message: " ++ display correlation)

/-- One envelope of a transcript, after the ids seen so far; its own id is among them
    when its correlation is checked. -/
def validate_entry (seen : List String) (envelope : Dict) : Py (List String) := do
  validate_envelope python envelope
  let message_id := text envelope "messageId"
  reject (seen.contains message_id) ("Duplicate message ID: " ++ message_id)
  let seen := seen ++ [message_id]
  check_correlation seen (envelope.get "correlationId")
  return seen

def validate_transcript (envelopes : List Dict) : Py Unit := do
  let _ ← envelopes.foldlM (validate_entry python) []

end

end V3Aidlc.ConversationalGateway
