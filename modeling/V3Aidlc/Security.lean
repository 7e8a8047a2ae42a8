import V3Aidlc.Contracts

/-!
The security preflight of an agent run (`security.py`). Every input is validated
first; then the content, the grants, the leases, the hosts and the dependencies each
say what they have against the run, and the gravest kind of reason decides
(`assess_security`).
-/
namespace V3Aidlc.Security
open V3Aidlc.Values V3Aidlc.Loops V3Aidlc.Timestamps V3Aidlc.Contracts V3Aidlc.Canonical V3Aidlc.Sha256

inductive SecurityDecision where
  | ALLOW
  | ALLOW_ISOLATED
  | REVIEW_REQUIRED
  | BLOCK
  | CONTAIN
  deriving DecidableEq

structure SecurityAssessment where
  decision : SecurityDecision
  run_id : String
  reasons : List String
  required_controls : List String
  deriving DecidableEq

def TRUST_LEVELS : List String := ["trusted_control","governed","verified_external","untrusted"]
def PROVENANCE_LEVELS : List String := ["L0","L1","L2","L3"]
/-- The rank of a known level. -/
def PROVENANCE_RANK (level : String) : Nat := PROVENANCE_LEVELS.idxOf level
def SIGNATURE_STATUSES : List String := ["verified","unverified","missing"]
def DEPENDENCY_STATUSES : List String := ["approved","quarantined","prohibited"]
def VULNERABILITY_STATUSES : List String := ["clear","accepted","blocked","unknown"]
def NETWORK_POLICIES : List String := ["deny_all","allowlist"]
def WORKSPACE_ACCESS : List String := ["none","read","scoped_write"]
def SECRET_ACCESS : List String := ["none","brokered","direct"]
def SERIOUS_SIGNALS : List String :=
  ["data_exfiltration","credential_access","tool_escalation","persistence","supply_chain_tampering"]
def KNOWN_SIGNALS : List String := SERIOUS_SIGNALS ++ ["prompt_injection"]
def RISK_TIERS : List String := ["low","moderate","high","critical"]

def security_error {α : Type} (message : String) : Py α := fail .SecurityError message
def reject (condition : Bool) (message : String) : Py Unit := reject_if .SecurityError condition message
def required_string := Contracts.required_string .SecurityError
def required_strings := Contracts.required_strings .SecurityError

/-- `_strings`. -/
def string_array (value : Json) (key : String) (minimum : Nat := 0) : Py (List String) :=
  Contracts.string_array .SecurityError visible value key minimum

/-- A string array of a validated dict. -/
def strings (d : Dict) (key : String) : List String := (strings? (d.get key)).getD []
/-- A flag of a validated dict. -/
def flag (d : Dict) (key : String) : Bool := (d.get key).isTrue

/-- `_parse_time`: the type is checked before the format. -/
def parse_time (value : Json) (key : String) : Py Instant :=
  match value with
  | .str s => parse_timestamp .SecurityError s key
  | _ => security_error (key ++ " must be an ISO-8601 timestamp")

/-- `_digest`. -/
def digest (value key : String) : Py Unit := reject (!isHexDigest value) (key ++ " must be a lowercase SHA-256 digest")

def check_bool (value : Dict) (key : String) : Py Unit := reject (!(value.get key).isBool) (key ++ " must be boolean")

/-! ### Inputs -/

def CONTENT_STRINGS : List String := ["id","source","digest","trustLevel","scannedAt"]
def CONTENT_FLAGS : List String := ["activeContent","containsInstructions","usedAsAuthority"]

def validate_content_descriptor (content : Dict) : Py Unit := do
  required_strings content CONTENT_STRINGS
  digest (text content "digest") "digest"
  reject (!TRUST_LEVELS.contains (text content "trustLevel")) "trustLevel is invalid"
  let _ ← parse_time (content.get "scannedAt") "scannedAt"
  CONTENT_FLAGS.forM (check_bool content)
  let signals ← string_array (content.get "signals") "signals"
  let unknown := signals.filter (fun signal => !KNOWN_SIGNALS.contains signal)
  reject (!unknown.isEmpty) ("unknown security signals: " ++ displayList (sortedStrings unknown))
  reject (text content "trustLevel" = "trusted_control" && !flag content "usedAsAuthority")
    "trusted control content must be used as authority"
  reject (text content "trustLevel" ≠ "trusted_control" && flag content "usedAsAuthority")
    "only trusted control content may supply runtime authority"

def GRANT_STRINGS : List String := ["grantId","runId","tool","issuedAt","expiresAt","grantedBy"]

def validate_tool_grant (grant : Dict) : Py Unit := do
  required_strings grant GRANT_STRINGS
  let _ ← string_array (grant.get "operations") "operations" 1
  let _ ← string_array (grant.get "resources") "resources" 1
  let _ ← string_array (grant.get "networkHosts") "networkHosts"
  let issued ← parse_time (grant.get "issuedAt") "issuedAt"
  let expires ← parse_time (grant.get "expiresAt") "expiresAt"
  reject (expires ≤ issued) "tool grant must expire after it is issued"
  check_bool grant "revoked"

def LEASE_STRINGS : List String := ["leaseId","runId","secretRef","audience","issuedAt","expiresAt","brokerId"]

def validate_credential_lease (lease : Dict) : Py Unit := do
  required_strings lease LEASE_STRINGS
  reject (lease.has "secretValue" || lease.has "token") "credential leases may contain references, not secret values"
  let _ ← string_array (lease.get "scopes") "scopes" 1
  let issued ← parse_time (lease.get "issuedAt") "issuedAt"
  let expires ← parse_time (lease.get "expiresAt") "expiresAt"
  reject (expires ≤ issued) "credential lease must expire after it is issued"
  ["oneTime","renewable","revoked"].forM (check_bool lease)

def validate_sandbox (profile : Dict) : Py Unit := do
  required_strings profile ["sandboxId","runId"]
  ["ephemeral","processIsolation","cleanupOnExit","telemetry"].forM (check_bool profile)
  let workspace ← in_set (profile.get "workspaceAccess") WORKSPACE_ACCESS
  reject (!workspace) "workspaceAccess is invalid"
  let network ← in_set (profile.get "networkPolicy") NETWORK_POLICIES
  reject (!network) "networkPolicy is invalid"
  let secret ← in_set (profile.get "secretAccess") SECRET_ACCESS
  reject (!secret) "secretAccess is invalid"
  let hosts ← string_array (profile.get "networkHosts") "networkHosts"
  reject (text profile "networkPolicy" = "deny_all" && !hosts.isEmpty) "deny_all sandbox cannot declare network hosts"
  reject (text profile "networkPolicy" = "allowlist" && hosts.isEmpty)
    "allowlist sandbox must declare at least one host"

def DEPENDENCY_STRINGS : List String :=
  ["name","version","source","digest","status","signatureStatus","provenanceLevel","vulnerabilityStatus","sbomRef"]

def validate_dependency (record : Dict) : Py Unit := do
  required_strings record DEPENDENCY_STRINGS
  digest (text record "digest") "dependency digest"
  reject (!DEPENDENCY_STATUSES.contains (text record "status")) "dependency status is invalid"
  reject (!SIGNATURE_STATUSES.contains (text record "signatureStatus")) "dependency signatureStatus is invalid"
  reject (!PROVENANCE_LEVELS.contains (text record "provenanceLevel")) "dependency provenanceLevel is invalid"
  reject (!VULNERABILITY_STATUSES.contains (text record "vulnerabilityStatus"))
    "dependency vulnerabilityStatus is invalid"

/-- The checks on a request that come before any other input is looked at. -/
def validate_request (request : Dict) : Py Unit := do
  required_strings request ["runId","projectId","riskTier","minimumProvenance"]
  reject (!RISK_TIERS.contains (text request "riskTier")) "riskTier is invalid"
  reject (!PROVENANCE_LEVELS.contains (text request "minimumProvenance")) "minimumProvenance is invalid"
  ["executesRetrievedContent","externalSideEffectPossible"].forM (check_bool request)

/-! ### Grants and leases -/

def when_true (condition : Bool) (reason : String) : List String := if condition then [reason] else []

/-- The end of both searches: the permission is not revoked and has not expired. -/
def live (now : Instant) (permission : Dict) : Py Bool :=
  if flag permission "revoked" then return false else do
    let expires ← parse_time (permission.get "expiresAt") "expiresAt"
    return now ≤ expires

def grant_matches (request : Dict) (now : Instant) (tool operation resource : String) (grant : Dict) : Py Bool :=
  if text grant "runId" = text request "runId" ∧ text grant "tool" = tool ∧
    operation ∈ strings grant "operations" ∧ resource ∈ strings grant "resources" then live now grant
  else return false

def tool_reason (request : Dict) (grants : List Dict) (now : Instant) (requested : Json) : Py (List String) :=
  match requested.dict? with
  | none => security_error "each requestedToolAction must be an object"
  | some action => do
    let tool ← required_string action "tool"
    let operation ← required_string action "operation"
    let resource ← required_string action "resource"
    let found ← grants.filterM (grant_matches request now tool operation resource)
    return when_true found.isEmpty ("missing exact tool grant: " ++ tool ++ ":" ++ operation ++ ":" ++ resource)

/-- The loop of both searches, over what the request asks for under a key. -/
def collect (request : Dict) (key : String) (reason : Json → Py (List String)) : Py (List String) := do
  let requested ← iterate (request.getOr key (.arr []))
  let reasons ← requested.mapM reason
  return reasons.flatten

def tool_reasons (request : Dict) (grants : List Dict) (now : Instant) : Py (List String) :=
  collect request "requestedToolActions" (tool_reason request grants now)

def lease_matches (request : Dict) (now : Instant) (audience : String) (scopes : List String) (lease : Dict) :
    Py Bool :=
  if text lease "runId" = text request "runId" ∧ text lease "audience" = audience ∧
    ∀ scope ∈ scopes, scope ∈ strings lease "scopes" then live now lease
  else return false

def credential_reason (request : Dict) (leases : List Dict) (now : Instant) (requested : Json) : Py (List String) :=
  match requested.dict? with
  | none => security_error "each requestedCredential must be an object"
  | some credential => do
    let audience ← required_string credential "audience"
    let scopes ← string_array (credential.get "scopes") "requested scopes" 1
    let found ← leases.filterM (lease_matches request now audience scopes)
    return when_true found.isEmpty ("missing scoped credential lease: " ++ audience)

def credential_reasons (request : Dict) (leases : List Dict) (now : Instant) : Py (List String) :=
  collect request "requestedCredentials" (credential_reason request leases now)

/-! ### Reasons on validated inputs -/

def untrusted (contents : List Dict) : List Dict := contents.filter (fun item => text item "trustLevel" = "untrusted")
def all_signals (contents : List Dict) : List String := contents.flatMap (fun item => strings item "signals")
def high_risk (request : Dict) : Bool := text request "riskTier" = "high" || text request "riskTier" = "critical"

def contain_reasons (contents : List Dict) : List String :=
  (sortedStrings (distinct ((all_signals contents).filter (fun signal => SERIOUS_SIGNALS.contains signal)))).map
    (fun signal => "serious security signal: " ++ signal)

/-- The sandbox that active untrusted content may run in. -/
def isSealed (sandbox : Dict) : Bool :=
  flag sandbox "ephemeral" && flag sandbox "processIsolation" && flag sandbox "cleanupOnExit" &&
    text sandbox "secretAccess" = "none" && text sandbox "networkPolicy" = "deny_all"

def active_untrusted (contents : List Dict) : Bool :=
  (untrusted contents).any (fun item => flag item "activeContent")

def sealed_reasons (request : Dict) (contents : List Dict) (sandbox : Dict) : List String :=
  when_true (active_untrusted contents && flag request "executesRetrievedContent" && !isSealed sandbox)
    "untrusted active content lacks a sealed ephemeral sandbox"

/-- The elements of a set that are not in another, in order. -/
def outside (hosts allowed : List String) : List String :=
  sortedStrings (hosts.filter (fun host => !allowed.contains host))

def sandbox_host_reasons (requested_hosts : List String) (sandbox : Dict) : List String :=
  if text sandbox "networkPolicy" = "deny_all" && !requested_hosts.isEmpty then
    ["network access requested from a deny-all sandbox"]
  else (outside requested_hosts (strings sandbox "networkHosts")).map
    (fun host => "network host is outside sandbox allowlist: " ++ host)

/-- Hosts of any grant count, whosever it is and however old. -/
def granted_hosts (grants : List Dict) : List String := grants.flatMap (fun grant => strings grant "networkHosts")

def granted_host_reasons (requested_hosts : List String) (grants : List Dict) : List String :=
  (outside requested_hosts (granted_hosts grants)).map (fun host => "network host lacks a tool grant: " ++ host)

def secret_reasons (leases : List Dict) (sandbox : Dict) : List String :=
  when_true (!leases.isEmpty && text sandbox "secretAccess" ≠ "brokered")
    "credential use requires brokered sandbox secret access" ++
  when_true (text sandbox "secretAccess" = "direct") "direct secret access is prohibited"

def label (dependency : Dict) : String := text dependency "name" ++ "@" ++ text dependency "version"

def dependency_reasons (request dependency : Dict) : List String :=
  when_true (text dependency "status" ≠ "approved")
    ("dependency is " ++ text dependency "status" ++ ": " ++ label dependency) ++
  when_true (text dependency "vulnerabilityStatus" = "blocked")
    ("dependency has blocking vulnerabilities: " ++ label dependency) ++
  when_true (PROVENANCE_RANK (text dependency "provenanceLevel") < PROVENANCE_RANK (text request "minimumProvenance"))
    ("dependency provenance is below minimum: " ++ label dependency) ++
  when_true (high_risk request && text dependency "signatureStatus" ≠ "verified")
    ("high-risk dependency signature is not verified: " ++ label dependency)

def dependency_review (dependency : Dict) : List String :=
  when_true (text dependency "vulnerabilityStatus" = "unknown")
    ("dependency vulnerability status is unknown: " ++ label dependency)

def isolation_reasons (request : Dict) (contents : List Dict) (sandbox : Dict) : List String :=
  when_true (high_risk request && !flag sandbox "telemetry") "high-risk execution requires security telemetry" ++
  when_true (!(untrusted contents).isEmpty && (!flag sandbox "ephemeral" || !flag sandbox "processIsolation"))
    "untrusted input requires ephemeral process isolation"

/-- Everything that blocks the run, in the order it is found; the missing grants, the
    missing leases and the requested hosts were determined before. -/
def blocked_reasons (request : Dict) (contents tool_grants credential_leases dependencies : List Dict) (sandbox : Dict)
    (tools credentials requested_hosts : List String) : List String :=
  sealed_reasons request contents sandbox ++ tools ++ credentials ++ sandbox_host_reasons requested_hosts sandbox ++
    granted_host_reasons requested_hosts tool_grants ++ secret_reasons credential_leases sandbox ++
    dependencies.flatMap (dependency_reasons request) ++ isolation_reasons request contents sandbox

def review_reasons (contents dependencies : List Dict) : List String :=
  when_true ((all_signals contents).contains "prompt_injection") "prompt-injection signal requires bounded review" ++
  dependencies.flatMap dependency_review

/-- What the source adds to its set of controls; no control is added twice. -/
def controls (request : Dict) (contents : List Dict) : List String :=
  ["preserve-security-telemetry","bind-actions-to-run","verify-output-before-trust"] ++
  when_true ((all_signals contents).contains "prompt_injection") "treat-retrieved-instructions-as-data" ++
  when_true ((untrusted contents).any (fun item => flag item "containsInstructions"))
    "ignore-untrusted-authority-claims" ++
  when_true (active_untrusted contents) "quarantine-active-content" ++
  when_true (flag request "executesRetrievedContent" && (untrusted contents).isEmpty) "scan-before-execution" ++
  (if high_risk request then ["independent-security-review","signed-provenance"] else []) ++
  (if (untrusted contents).isEmpty then [] else ["isolate-untrusted-input","no-authority-from-content"])

/-- The gravest kind of reason decides, and comes first. -/
def verdict (contain blocked review : List String) (untrusted_input : Bool) : SecurityDecision × List String :=
  if !contain.isEmpty then (.CONTAIN,contain ++ blocked ++ review)
  else if !blocked.isEmpty then (.BLOCK,blocked ++ review)
  else if !review.isEmpty then (.REVIEW_REQUIRED,review)
  else if untrusted_input then (.ALLOW_ISOLATED,["untrusted input is bounded by isolation and least privilege"])
  else (.ALLOW,["security preflight satisfied"])

def assess_security (request : Dict) (contents tool_grants credential_leases dependencies : List Dict) (sandbox : Dict)
    (now : String) : Py SecurityAssessment := do
  validate_request request
  let current_time ← parse_time (.str now) "now"
  validate_sandbox sandbox
  reject (text sandbox "runId" ≠ text request "runId") "sandbox belongs to another run"
  contents.forM validate_content_descriptor
  tool_grants.forM validate_tool_grant
  credential_leases.forM validate_credential_lease
  dependencies.forM validate_dependency
  let tools ← tool_reasons request tool_grants current_time
  let credentials ← credential_reasons request credential_leases current_time
  let requested_hosts ← string_array (request.getOr "requestedNetworkHosts" (.arr [])) "requestedNetworkHosts"
  let (decision,reasons) := verdict (contain_reasons contents)
    (blocked_reasons request contents tool_grants credential_leases dependencies sandbox tools credentials
      requested_hosts)
    (review_reasons contents dependencies) (!(untrusted contents).isEmpty)
  return {
    decision := decision
    run_id := text request "runId"
    reasons := distinct reasons
    required_controls := sortedStrings (controls request contents)
  }

end V3Aidlc.Security
