import V3Aidlc.Contracts
import Mathlib.Data.Prod.Lex

/-!
Capability negotiation and agent-run contracts (`agent_adapters.py`). A request is
compared with a profile point by point (`negotiation_reasons`), the runner with the
least excess is chosen among those with nothing to object, and a dispatch is the
request bound to that runner under a digest. What an adapter returns is normalised
and checked against the dispatch it answers.
-/
namespace V3Aidlc.AgentAdapters
open V3Aidlc.Values V3Aidlc.Loops V3Aidlc.Timestamps V3Aidlc.Contracts V3Aidlc.Canonical

def SENSITIVITIES : List String := ["public","internal","confidential","restricted","secret"]
/-- The rank of a known sensitivity. -/
def SENSITIVITY_RANK (sensitivity : String) : Nat := SENSITIVITIES.idxOf sensitivity
def AUTO_AUTHORIZATION : List String := ["auto_proceed","auto_proceed_and_record","auto_proceed_within_budget"]
def TERMINAL_RUN_STATUSES : List String := ["completed","failed","blocked","cancelled"]

inductive NegotiationDecision where
  | ACCEPTED
  | REJECTED
  deriving DecidableEq

structure NegotiationResult where
  decision : NegotiationDecision
  adapter_id : String
  profile_digest : String
  reasons : List String

def adapter_error {α : Type} (message : String) : Py α := fail .AdapterError message
def reject (condition : Bool) (message : String) : Py Unit := reject_if .AdapterError condition message

def string_array (value : Json) (key : String) : Py (List String) :=
  Contracts.string_array .AdapterError visible value key

/-- A string array of a validated dict. -/
def strings (d : Dict) (key : String) : List String := (strings? (d.get key)).getD []

/-- `isinstance(value, int) and not isinstance(value, bool)`. -/
def integer? : Json → Option Int
  | .int n => some n
  | _ => none

def integer_at_least (minimum : Int) (value : Json) (message : String) : Py Unit :=
  match integer? value with
  | none => adapter_error message
  | some n => reject (n < minimum) message

def positive_integer (value : Dict) (key : String) : Py Unit :=
  integer_at_least 1 (value.get key) (key ++ " must be a positive integer")

/-- An integer field of a validated dict. -/
def integer (d : Dict) (key : String) : Int := (integer? (d.get key)).getD 0

def string_arrays (value : Dict) (keys : List String) : Py Unit :=
  keys.forM (fun key => do let _ ← string_array (value.get key) key; return ())

def check_bool (value : Dict) (key : String) : Py Unit := reject (!(value.get key).isBool) (key ++ " must be boolean")

/-- `_parse_time`: the type and the text are checked before the format. -/
def parse_time (value : Json) (key : String) : Py Instant :=
  match value with
  | .str s => if blank s then adapter_error (key ++ " must be a non-empty string")
    else parse_timestamp .AdapterError s key
  | _ => adapter_error (key ++ " must be a non-empty string")

/-! ### Profiles and requests -/

def PROFILE_STRINGS : List String := ["schemaVersion","profileId","adapterId","adapterVersion","provider","model"]
def PROFILE_ARRAYS : List String := ["roles","capabilities","modalities","tools","networkHosts"]

def validate_capability_profile (profile : Dict) : Py Unit := do
  required_strings .AdapterError profile PROFILE_STRINGS
  let known ← in_set (profile.get "status") ["available","degraded","unavailable"]
  reject (!known) "status must be available, degraded, or unavailable"
  string_arrays profile PROFILE_ARRAYS
  ["maxContextBytes","maxOutputBytes","maxConcurrentRuns"].forM (positive_integer profile)
  let ranked ← in_set (profile.get "maxSensitivity") SENSITIVITIES
  reject (!ranked) "maxSensitivity is invalid"
  ["structuredOutput","streaming","externalSideEffects","idempotentInvocation"].forM (check_bool profile)

def REQUEST_STRINGS : List String :=
  ["schemaVersion","runId","projectId","workPackageId","role","objective","contextManifestId","contextManifestDigest",
    "authorizationDecision","idempotencyKey"]
def REQUEST_ARRAYS : List String :=
  ["requiredCapabilities","requiredModalities","requiredTools","requiredNetworkHosts","completionCriteria"]

def validate_run_request (request : Dict) : Py Unit := do
  required_strings .AdapterError request REQUEST_STRINGS
  string_arrays request REQUEST_ARRAYS
  ["contextBytes","maxOutputBytes","attempt"].forM (positive_integer request)
  let ranked ← in_set (request.get "sensitivity") SENSITIVITIES
  reject (!ranked) "sensitivity is invalid"
  ["structuredOutputRequired","externalSideEffectPossible"].forM (check_bool request)

/-! ### Negotiation -/

def when_true (condition : Bool) (reason : String) : List String := if condition then [reason] else []

/-- What the request needs of one kind and the profile does not offer. -/
def missing (request profile : Dict) (request_key profile_key label : String) : List String :=
  (sortedStrings ((strings request request_key).filter (fun item => !(strings profile profile_key).contains item))).map
    (fun item => "missing " ++ label ++ ": " ++ item)

/-- Every objection to running a valid request under a valid profile. -/
def negotiation_reasons (request profile : Dict) : List String :=
  when_true (text profile "status" ≠ "available") ("runner status is " ++ text profile "status") ++
  when_true (!AUTO_AUTHORIZATION.contains (text request "authorizationDecision"))
    ("authorization decision " ++ text request "authorizationDecision" ++ " does not permit dispatch") ++
  when_true (!(strings profile "roles").contains (text request "role"))
    ("role " ++ text request "role" ++ " is unsupported") ++
  missing request profile "requiredCapabilities" "capabilities" "capability" ++
  missing request profile "requiredModalities" "modalities" "modality" ++
  missing request profile "requiredTools" "tools" "tool" ++
  missing request profile "requiredNetworkHosts" "networkHosts" "network host" ++
  when_true (integer profile "maxContextBytes" < integer request "contextBytes") "context exceeds runner limit" ++
  when_true (integer profile "maxOutputBytes" < integer request "maxOutputBytes")
    "requested output exceeds runner limit" ++
  when_true (SENSITIVITY_RANK (text profile "maxSensitivity") < SENSITIVITY_RANK (text request "sensitivity"))
    "context sensitivity exceeds runner clearance" ++
  when_true ((request.get "structuredOutputRequired").isTrue && !(profile.get "structuredOutput").isTrue)
    "structured output is required but unsupported" ++
  when_true ((request.get "externalSideEffectPossible").isTrue && !(profile.get "externalSideEffects").isTrue)
    "external side effects are required but unsupported" ++
  when_true (1 < integer request "attempt" && !(profile.get "idempotentInvocation").isTrue)
    "retry requires idempotent invocation support"

def negotiation (request profile : Dict) : NegotiationResult where
  decision := if (negotiation_reasons request profile).isEmpty then .ACCEPTED else .REJECTED
  adapter_id := text profile "adapterId"
  profile_digest := canonical_digest (.obj profile)
  reasons := negotiation_reasons request profile

def negotiate_capabilities (request profile : Dict) : Py NegotiationResult := do
  validate_run_request request
  validate_capability_profile profile
  return negotiation request profile

/-! ### Selection -/

/-- One pass of the loop over the profiles. -/
def negotiate_next (request : Dict) (results : List (Dict × NegotiationResult)) (profile : Dict) :
    Py (List (Dict × NegotiationResult)) := do
  validate_capability_profile profile
  let adapter_id := text profile "adapterId"
  reject ((results.map (fun result => text result.1 "adapterId")).contains adapter_id)
    ("duplicate adapterId: " ++ adapter_id)
  let result ← negotiate_capabilities request profile
  return results ++ [(profile,result)]

/-- Least excess clearance, then least excess capacity, then the adapter id. -/
def preference (request : Dict) (result : Dict × NegotiationResult) : Int ×ₗ Int ×ₗ Int ×ₗ String :=
  toLex ((SENSITIVITY_RANK (text result.1 "maxSensitivity") : Int) - SENSITIVITY_RANK (text request "sensitivity"),
    toLex (integer result.1 "maxContextBytes" - integer request "contextBytes",
      toLex (integer result.1 "maxOutputBytes" - integer request "maxOutputBytes",text result.1 "adapterId")))

def refusal_details (results : List (Dict × NegotiationResult)) : String :=
  join "; " ((sortedBy (fun result => result.2.adapter_id) results).map
    (fun result => result.2.adapter_id ++ ": " ++ join ", " result.2.reasons))

def select_adapter (request : Dict) (profiles : List Dict) : Py (Dict × List NegotiationResult) := do
  let results ← profiles.foldlM (negotiate_next request) []
  reject results.isEmpty "at least one capability profile is required"
  match sortedBy (preference request) (results.filter (fun result => result.2.decision = .ACCEPTED)) with
  | [] => adapter_error ("no compatible adapter: " ++ refusal_details results)
  | chosen :: _ => return (chosen.1,results.map Prod.snd)

/-! ### Dispatch -/

/-- The dispatch before it is signed. -/
def unsigned_dispatch (request profile : Dict) (lease_id : String) : Dict :=
  [("schemaVersion",.str "0.1"),("runId",request.get "runId"),("projectId",request.get "projectId"),
    ("workPackageId",request.get "workPackageId"),("adapterId",profile.get "adapterId"),
    ("adapterVersion",profile.get "adapterVersion"),("profileId",profile.get "profileId"),
    ("profileDigest",.str (canonical_digest (.obj profile))),("contextManifestId",request.get "contextManifestId"),
    ("contextManifestDigest",request.get "contextManifestDigest"),("leaseId",.str lease_id),
    ("attempt",request.get "attempt"),("idempotencyKey",request.get "idempotencyKey"),
    ("requestDigest",.str (canonical_digest (.obj request))),("request",.obj request)]

def signed_dispatch (request profile : Dict) (lease_id : String) : Dict :=
  let dispatch := unsigned_dispatch request profile lease_id
  dispatch.set "dispatchDigest" (.str (canonical_digest (.obj dispatch)))

def build_dispatch (request profile : Dict) (lease_id : String) : Py Dict := do
  let result ← negotiate_capabilities request profile
  reject (result.decision ≠ .ACCEPTED) ("cannot dispatch an incompatible runner: " ++ join "; " result.reasons)
  reject (blank lease_id) "lease_id must be a non-empty string"
  return signed_dispatch request profile lease_id

def DISPATCH_STRINGS : List String :=
  ["schemaVersion","runId","projectId","workPackageId","adapterId","adapterVersion","profileId","profileDigest",
    "contextManifestId","contextManifestDigest","leaseId","idempotencyKey","requestDigest","dispatchDigest"]
def DISPATCH_MATCHES : List String :=
  ["runId","projectId","workPackageId","contextManifestId","contextManifestDigest","attempt","idempotencyKey"]

/-- `left[key] == right[key]` is required. -/
def check_match (left right : Dict) (subject other key : String) : Py Unit := do
  let mine ← item left key
  let theirs ← item right key
  reject (!mine.eq theirs) (subject ++ " " ++ key ++ " does not match " ++ other)

def validate_dispatch (dispatch : Dict) : Py Unit := do
  required_strings .AdapterError dispatch DISPATCH_STRINGS
  positive_integer dispatch "attempt"
  match (dispatch.get "request").dict? with
  | none => adapter_error "dispatch request must be an object"
  | some request => do
    validate_run_request request
    reject (canonical_digest (.obj request) ≠ text dispatch "requestDigest")
      "dispatch request digest does not match request"
    DISPATCH_MATCHES.forM (check_match dispatch request "dispatch" "request")
    reject (canonical_digest (.obj (dispatch.without ["dispatchDigest"])) ≠ text dispatch "dispatchDigest")
      "dispatch digest does not match content"

/-! ### Results -/

def RESULT_STRINGS : List String :=
  ["schemaVersion","runId","projectId","workPackageId","adapterId","profileDigest","contextManifestId","dispatchDigest",
    "startedAt","finishedAt","status","summary"]
def RESULT_ARRAYS : List String := ["artifactIds","evidenceIds","satisfiedCriteria","findingIds"]
def RESULT_MATCHES : List String :=
  ["runId","projectId","workPackageId","adapterId","profileDigest","contextManifestId","dispatchDigest"]

def validate_effect (effect : Json) : Py Unit :=
  match effect.dict? with
  | none => adapter_error "each external effect must be an object"
  | some effect => do
    required_strings .AdapterError effect ["effectKey","effectType","status","observationRef"]
    reject (!(["succeeded","absent","unknown"].contains (text effect "status"))) "external effect status is invalid"

/-- A completed run meets its criteria with evidence; no other run claims any. -/
def validate_criteria (result request : Dict) : Py Unit :=
  if text result "status" = "completed" then do
    let missing := sortedStrings ((strings request "completionCriteria").filter
      (fun criterion => !(strings result "satisfiedCriteria").contains criterion))
    reject (!missing.isEmpty) ("completed result is missing criteria: " ++ join ", " missing)
    reject (!(strings request "completionCriteria").isEmpty && (strings result "evidenceIds").isEmpty)
      "completed result requires evidence"
  else reject (!(strings result "satisfiedCriteria").isEmpty) "non-completed result cannot claim satisfied criteria"

def validate_run_result (result dispatch : Dict) : Py Unit := do
  validate_dispatch dispatch
  required_strings .AdapterError result RESULT_STRINGS
  let started ← parse_time (result.get "startedAt") "startedAt"
  let finished ← parse_time (result.get "finishedAt") "finishedAt"
  reject (finished < started) "finishedAt cannot be earlier than startedAt"
  reject (!TERMINAL_RUN_STATUSES.contains (text result "status")) "result status is invalid"
  string_arrays result RESULT_ARRAYS
  match (result.get "usage").dict? with
  | none => adapter_error "usage must be an object"
  | some usage => do
    ["inputUnits","outputUnits"].forM (fun key =>
      integer_at_least 0 (usage.get key) ("usage." ++ key ++ " must be a non-negative integer"))
    RESULT_MATCHES.forM (check_match result dispatch "result" "dispatch")
    let request := ((dispatch.get "request").dict?).getD []
    match (result.getOr "externalEffects" (.arr [])).list? with
    | none => adapter_error "externalEffects must be an array"
    | some effects => do
      reject (!effects.isEmpty && !(request.get "externalSideEffectPossible").isTrue)
        "runner reported an external effect that was not authorized"
      effects.forM validate_effect
      validate_criteria result request

/-- The canonical fields of an answer to a dispatch. -/
def normalized (raw_result dispatch : Dict) (provider_result_ref : String) : Dict :=
  [("schemaVersion",.str "0.1"),("runId",dispatch.get "runId"),("projectId",dispatch.get "projectId"),
    ("workPackageId",dispatch.get "workPackageId"),("adapterId",dispatch.get "adapterId"),
    ("profileDigest",dispatch.get "profileDigest"),("contextManifestId",dispatch.get "contextManifestId"),
    ("dispatchDigest",dispatch.get "dispatchDigest"),("startedAt",raw_result.get "startedAt"),
    ("finishedAt",raw_result.get "finishedAt"),("status",raw_result.get "status"),("summary",raw_result.get "summary"),
    ("artifactIds",raw_result.getOr "artifactIds" (.arr [])),("evidenceIds",raw_result.getOr "evidenceIds" (.arr [])),
    ("satisfiedCriteria",raw_result.getOr "satisfiedCriteria" (.arr [])),
    ("findingIds",raw_result.getOr "findingIds" (.arr [])),
    ("externalEffects",raw_result.getOr "externalEffects" (.arr [])),
    ("usage",raw_result.getOr "usage" (.obj [("inputUnits",.int 0),("outputUnits",.int 0)])),
    ("providerResultRef",.str provider_result_ref)]

def normalize_provider_result (raw_result : Json) (dispatch : Dict) (provider_result_ref : String) : Py Dict := do
  reject (blank provider_result_ref) "provider_result_ref must be a non-empty string"
  match raw_result.dict? with
  | none => adapter_error "raw provider result must be an object"
  | some raw_result => do
    let result := normalized raw_result dispatch provider_result_ref
    validate_run_result result dispatch
    return result

end V3Aidlc.AgentAdapters
