import V3Aidlc.Contracts
import Mathlib.Data.Prod.Lex
import Mathlib.Data.Rat.Floor

/-!
Conflict-aware scheduling and integration contracts (`scheduler.py`). A plan goes
through the candidates in the order of their effective priority and selects each
one whose dependencies, revision, claims and quotas have no objection, reserving
what it needs. An integration batch binds completed work under a digest, and its
result is checked against it.
-/
namespace V3Aidlc.Scheduler
open V3Aidlc.Values V3Aidlc.Loops V3Aidlc.Timestamps V3Aidlc.Contracts V3Aidlc.Canonical V3Aidlc.Sha256

def CLAIM_ACCESS : List String := ["read","write","exclusive"]
def TERMINAL_INTEGRATION : List String := ["passed","failed","inconclusive"]

inductive ScheduleDecision where
  | SELECTED
  | DEFERRED
  deriving DecidableEq

def ScheduleDecision.value : ScheduleDecision → String
  | .SELECTED => "selected"
  | .DEFERRED => "deferred"

/-- The classes in the order of their rank. -/
def PRIORITY_CLASSES : List String :=
  ["safety_recovery","critical_path","user_priority","integration_blocker","intent_value","uncertainty_reduction",
    "normal"]
def PRIORITY_CLASS (name : String) : Nat := PRIORITY_CLASSES.idxOf name

structure ScheduleEntry where
  work_package_id : String
  decision : ScheduleDecision
  reasons : List String
  effective_priority : Int

structure SchedulePlan where
  generated_at : String
  state_revision : String
  entries : List ScheduleEntry
  selected_work_packages : List String

def entry_to_dict (entry : ScheduleEntry) : Dict :=
  [("workPackageId",.str entry.work_package_id),("decision",.str entry.decision.value),
    ("reasons",.arr (entry.reasons.map Json.str)),("effectivePriority",.int entry.effective_priority)]

def schedule_plan_to_dict (plan : SchedulePlan) : Dict :=
  [("schemaVersion",.str "0.1"),("generatedAt",.str plan.generated_at),("stateRevision",.str plan.state_revision),
    ("entries",.arr (plan.entries.map (fun entry => .obj (entry_to_dict entry)))),
    ("selectedWorkPackageIds",.arr (plan.selected_work_packages.map Json.str))]

def scheduler_error {α : Type} (message : String) : Py α := fail .SchedulerError message
def reject (condition : Bool) (message : String) : Py Unit := reject_if .SchedulerError condition message
def required_string := Contracts.required_string .SchedulerError

def string_array (value : Json) (key : String) (minimum : Nat) : Py (List String) :=
  Contracts.string_array .SchedulerError visible value key minimum

/-- A string array of a validated dict. -/
def strings (d : Dict) (key : String) : List String := (strings? (d.get key)).getD []

/-- `_parse_time`: a value that is no string is no timestamp. -/
def parse_time (value : Json) (key : String) : Py Instant :=
  match value with
  | .str s => parse_timestamp .SchedulerError s key
  | _ => scheduler_error (key ++ " must be an ISO-8601 timestamp")

/-- `isinstance(value, int) and not isinstance(value, bool)`. -/
def integer? : Json → Option Int
  | .int n => some n
  | _ => none

def nonnegative_int (value : Json) (key : String) : Py Int :=
  match integer? value with
  | none => scheduler_error (key ++ " must be a non-negative integer")
  | some n => do
    reject (n < 0) (key ++ " must be a non-negative integer")
    return n

/-! ### Validation -/

def validate_claim (claim : Dict) : Py Unit := do
  let _ ← required_string claim "domain"
  reject (!CLAIM_ACCESS.any (fun access => (claim.get "access").eq (.str access)))
    "claim access must be read, write, or exclusive"

def claims_conflict (left right : Dict) : Bool :=
  text left "domain" = text right "domain" && (text left "access" ≠ "read" || text right "access" ≠ "read")

def CANDIDATE_STRINGS : List String :=
  ["schemaVersion","projectId","workPackageId","subjectRevision","workstreamId","adapterId","role","priorityClass",
    "queuedAt"]

/-- One claim of a candidate, with the domains seen before it. -/
def candidate_claim (seen_domains : List String) (claim : Json) : Py (List String) :=
  match claim.dict? with
  | none => scheduler_error "each claim must be an object"
  | some claim => do
    validate_claim claim
    reject (seen_domains.contains (text claim "domain")) "candidate contains duplicate conflict domains"
    return seen_domains ++ [text claim "domain"]

def candidate_cost (cost : String × Json) : Py Unit := do
  reject (cost.1 = "") "quota dimension must be a non-empty string"
  let _ ← nonnegative_int cost.2 ("quotaCosts." ++ cost.1)
  return ()

def validate_candidate (candidate : Dict) : Py Unit := do
  required_strings .SchedulerError candidate CANDIDATE_STRINGS
  reject (!PRIORITY_CLASSES.contains (text candidate "priorityClass")) "priorityClass is invalid"
  reject (integer? (candidate.get "userPriority")).isNone "userPriority must be an integer"
  let _ ← parse_time (candidate.get "queuedAt") "queuedAt"
  let _ ← string_array (candidate.get "dependencyIds") "dependencyIds" 0
  match (candidate.get "claims").list? with
  | none => scheduler_error "claims must be a non-empty array"
  | some claims => do
    reject claims.isEmpty "claims must be a non-empty array"
    let _ ← claims.foldlM candidate_claim []
    match (candidate.get "quotaCosts").dict? with
    | none => scheduler_error "quotaCosts must be a non-empty object"
    | some costs => do
      reject costs.isEmpty "quotaCosts must be a non-empty object"
      costs.forM candidate_cost

def policy_limit (limit : String × Json) : Py Unit := do
  reject (limit.1 = "") "quota dimension must be a non-empty string"
  let maximum ← nonnegative_int limit.2 ("limits." ++ limit.1)
  reject (maximum < 1) "quota limits must be at least 1"

def validate_policy (policy : Dict) : Py Unit := do
  required_strings .SchedulerError policy ["schemaVersion","policyId","version"]
  match (policy.get "limits").dict? with
  | none => scheduler_error "limits must be a non-empty object"
  | some limits => do
    reject limits.isEmpty "limits must be a non-empty object"
    limits.forM policy_limit
    match integer? (policy.get "agingWindowSeconds") with
    | none => scheduler_error "agingWindowSeconds must be a positive integer"
    | some aging => do
      reject (aging < 1) "agingWindowSeconds must be a positive integer"
      match (policy.get "maxAgingBoost").int? with
      | none => scheduler_error "maxAgingBoost must be an integer from 0 through 5"
      | some boost => reject (!(0 ≤ boost && boost ≤ 5)) "maxAgingBoost must be an integer from 0 through 5"

def reservation_claim (claim : Json) : Py Unit := do
  let claim ← as_dict claim
  validate_claim claim

def reservation_cost (cost : String × Json) : Py Unit := do
  let _ ← nonnegative_int cost.2 ("reservation quotaCosts." ++ cost.1)
  return ()

def validate_reservation (reservation : Dict) : Py Unit := do
  required_strings .SchedulerError reservation ["reservationId","projectId","workPackageId","subjectRevision"]
  match (reservation.get "claims").list? with
  | none => scheduler_error "reservation claims must be a non-empty array"
  | some claims => do
    reject claims.isEmpty "reservation claims must be a non-empty array"
    claims.forM reservation_claim
    match (reservation.get "quotaCosts").dict? with
    | none => scheduler_error "reservation quotaCosts must be an object"
    | some costs => costs.forM reservation_cost

/-! ### Priority, quotas and conflicts -/

/-- The instant of a validated candidate. -/
def queued_at (candidate : Dict) : Instant := (instant? (text candidate "queuedAt")).getD 0

def int_field (d : Dict) (key : String) : Int := ((d.get key).int?).getD 0

def effective_priority (now : Instant) (policy candidate : Dict) : Int :=
  let base : Int := PRIORITY_CLASS (text candidate "priorityClass")
  if base = 0 then 0
  else
    -- Truncation and rounding down agree on the seconds that are not negative.
    let waited_seconds := max 0 ⌊total_seconds (now - queued_at candidate)⌋
    let boost := min (int_field policy "maxAgingBoost") (waited_seconds / int_field policy "agingWindowSeconds")
    max 1 (base - boost)

/-- The units in use by dimension. -/
abbrev Usage := List (String × Int)

def Usage.of (usage : Usage) (dimension : String) : Int := (usage.lookup dimension).getD 0

def Usage.add (usage : Usage) (cost : String × Json) : Usage :=
  (cost.1,usage.of cost.1 + (cost.2.int?).getD 0) :: usage.filter (fun entry => entry.1 ≠ cost.1)

def costs (d : Dict) : Dict := ((d.get "quotaCosts").dict?).getD []
def limits (policy : Dict) : Dict := ((policy.get "limits").dict?).getD []

def quota_reasons (policy : Dict) (usage : Usage) (candidate : Dict) : List String :=
  (sortedBy Prod.fst (costs candidate)).flatMap (fun cost =>
    match Dict.get? cost.1 (limits policy) with
    | none => ["unknown quota dimension: " ++ cost.1]
    | some maximum =>
      if (maximum.int?).getD 0 < usage.of cost.1 + (cost.2.int?).getD 0 then ["quota exceeded: " ++ cost.1] else [])

def conflict_reasons (candidate : Dict) (reservations : List Dict) : List String :=
  sortedStrings (distinct (reservations.flatMap (fun reservation =>
    (records candidate "claims").flatMap (fun left =>
      ((records reservation "claims").filter (claims_conflict left)).map (fun _ =>
        "conflict domain " ++ text left "domain" ++ " held by " ++ text reservation "workPackageId")))))

def dependency_reasons (candidate : Dict) (completed : List Json) : List String :=
  (sortedStrings ((strings candidate "dependencyIds").filter (fun id => !memList (.str id) completed))).map
    (fun id => "dependency incomplete: " ++ id)

def revision_reasons (candidate current_revisions : Dict) : List String :=
  let current := current_revisions.get (text candidate "workPackageId")
  if current.isNull then ["current subject revision is unknown"]
  else if current.eq (candidate.get "subjectRevision") then []
  else ["subject revision is stale"]

/-! ### Scheduling -/

/-- What the loop over the ordered candidates has done so far. -/
structure Planning where
  usage : Usage
  selected_reservations : List Dict := []
  entries : List ScheduleEntry := []
  selected : List String := []

def reservation_of (state_revision : String) (candidate : Dict) : Dict :=
  [("reservationId",.str ("planned:" ++ state_revision ++ ":" ++ text candidate "workPackageId")),
    ("projectId",candidate.get "projectId"),("workPackageId",candidate.get "workPackageId"),
    ("subjectRevision",candidate.get "subjectRevision"),("claims",candidate.get "claims"),
    ("quotaCosts",candidate.get "quotaCosts")]

/-- Everything that keeps a candidate from being selected now. -/
def defer_reasons (policy : Dict) (reservations : List Dict) (completed : List Json) (current_revisions : Dict)
    (planning : Planning) (candidate : Dict) : List String :=
  dependency_reasons candidate completed ++ revision_reasons candidate current_revisions ++
    conflict_reasons candidate (reservations ++ planning.selected_reservations) ++
    quota_reasons policy planning.usage candidate

/-- One pass of the loop over the ordered candidates. -/
def plan_candidate (policy : Dict) (reservations : List Dict) (completed : List Json) (current_revisions : Dict)
    (state_revision : String) (now : Instant) (planning : Planning) (candidate : Dict) : Planning :=
  let reasons := defer_reasons policy reservations completed current_revisions planning candidate
  let priority := effective_priority now policy candidate
  let id := text candidate "workPackageId"
  if !reasons.isEmpty then
    { planning with entries := planning.entries ++ [⟨id,.DEFERRED,distinct reasons,priority⟩] }
  else
    { usage := (costs candidate).foldl Usage.add planning.usage
      selected_reservations := planning.selected_reservations ++ [reservation_of state_revision candidate]
      entries := planning.entries ++ [⟨id,.SELECTED,["eligible and capacity reserved"],priority⟩]
      selected := planning.selected ++ [id] }

def schedule_key (now : Instant) (policy candidate : Dict) : Int ×ₗ Int ×ₗ Int ×ₗ String :=
  toLex (effective_priority now policy candidate,toLex (-int_field candidate "userPriority",
    toLex (queued_at candidate,text candidate "workPackageId")))

/-- `len(set(values)) > 1` for texts. -/
def several (values : List String) : Bool := 1 < (distinct values).length

def schedule (candidates : List Dict) (active_reservations : List Json) (policy : Dict)
    (completed_dependencies : List Json) (current_revisions : Dict) (state_revision now : String) : Py SchedulePlan :=
      do
  validate_policy policy
  reject (blank state_revision) "state_revision must be a non-empty string"
  let current_time ← parse_time (.str now) "now"
  raise_if (!completed_dependencies.all Json.hashable) .TypeError
  candidates.forM validate_candidate
  let reservations ← active_reservations.mapM (fun reservation => do
    let reservation ← as_dict reservation
    validate_reservation reservation
    return reservation)
  reject (!decide (candidates.map (fun candidate => text candidate "workPackageId")).Nodup)
    "candidate workPackageId values must be unique"
  reject (several ((candidates ++ reservations).map (fun item => text item "projectId")))
    "one schedule cannot span multiple projects"
  let usage := reservations.foldl (fun usage reservation => (costs reservation).foldl Usage.add usage) []
  let ordered := sortedBy (schedule_key current_time policy) candidates
  let planning := ordered.foldl
    (plan_candidate policy reservations completed_dependencies current_revisions state_revision current_time)
      ⟨usage,[],[],[]⟩
  return ⟨now,state_revision,planning.entries,planning.selected⟩

/-! ### Integration -/

def MEMBER_STRINGS : List String :=
  ["projectId","workPackageId","subjectRevision","baseRevision","integrationGroup","artifactDigest"]

/-- One completion, with the members before it. -/
def add_member (target_revision : String) (items : List Dict) (item : Dict) : Py (List Dict) := do
  required_strings .SchedulerError item MEMBER_STRINGS
  reject (!(item.get "status").eq (.str "completed")) "only completed work can enter integration"
  let _ ← string_array (item.get "evidenceIds") "evidenceIds" 1
  reject ((items.map (fun other => text other "workPackageId")).contains (text item "workPackageId"))
    "integration members must be unique"
  reject (text item "baseRevision" ≠ target_revision) "integration member uses a stale base revision"
  return items ++ [item]

def member_of (item : Dict) : Dict :=
  [("workPackageId",item.get "workPackageId"),("subjectRevision",item.get "subjectRevision"),
    ("artifactDigest",item.get "artifactDigest"),("evidenceIds",item.get "evidenceIds")]

/-- The batch before it is signed. -/
def unsigned_batch (items : List Dict) (batch_id target_revision owner_role : String) (checks : List String) : Dict :=
  [("schemaVersion",.str "0.1"),("batchId",.str batch_id),
    ("projectId",.str ((items.head?.map (fun item => text item "projectId")).getD "")),
    ("integrationGroup",.str ((items.head?.map (fun item => text item "integrationGroup")).getD "")),
    ("targetRevision",.str target_revision),("ownerRole",.str owner_role),
    ("requiredChecks",.arr (checks.map Json.str)),
    ("members",.arr ((sortedBy (fun member => text member "workPackageId") (items.map member_of)).map Json.obj))]

/-- `value.strip()` needs a string. -/
def strippable (value : Json) : Py String :=
  match value with
  | .str s => return s
  | _ => .error .AttributeError

def build_integration_batch (completions : List Dict) (batch_id target_revision owner_role required_checks : Json) :
    Py Dict := do
  let batch_id ← strippable batch_id
  reject (blank batch_id) "batch identity, target revision, and owner role are required"
  let target_revision ← strippable target_revision
  reject (blank target_revision) "batch identity, target revision, and owner role are required"
  let owner_role ← strippable owner_role
  reject (blank owner_role) "batch identity, target revision, and owner role are required"
  let checkItems ← iterate required_checks
  match checkItems.mapM Json.str? with
  | none => scheduler_error "required_checks must contain non-empty strings"
  | some checks => do
    reject (checks.isEmpty || !checks.all nonempty) "required_checks must contain non-empty strings"
    reject (!decide checks.Nodup) "required_checks contains duplicates"
    reject completions.isEmpty "at least one completion is required"
    let items ← completions.foldlM (add_member target_revision) []
    reject (several (items.map (fun item => text item "projectId"))) "integration batch cannot span projects"
    reject (several (items.map (fun item => text item "integrationGroup")))
      "integration batch cannot span integration groups"
    let batch := unsigned_batch items batch_id target_revision owner_role checks
    return batch.set "batchDigest" (.str (canonical_digest (.obj batch)))

def BATCH_STRINGS : List String :=
  ["schemaVersion","batchId","projectId","integrationGroup","targetRevision","ownerRole","batchDigest"]

/-- One member of a batch, with the ids before it. -/
def validate_member (ids : List String) (member : Json) : Py (List String) :=
  match member.dict? with
  | none => scheduler_error "each integration member must be an object"
  | some member => do
    required_strings .SchedulerError member ["workPackageId","subjectRevision","artifactDigest"]
    reject (!isHexDigest (text member "artifactDigest")) "artifactDigest must be a lowercase SHA-256 digest"
    let _ ← string_array (member.get "evidenceIds") "evidenceIds" 1
    return ids ++ [text member "workPackageId"]

def validate_integration_batch (batch : Dict) : Py Unit := do
  required_strings .SchedulerError batch BATCH_STRINGS
  let _ ← string_array (batch.get "requiredChecks") "requiredChecks" 1
  match (batch.get "members").list? with
  | none => scheduler_error "integration members must be a non-empty array"
  | some members => do
    reject members.isEmpty "integration members must be a non-empty array"
    let ids ← members.foldlM validate_member []
    reject (!decide ids.Nodup) "integration members must be unique"
    reject (ids ≠ sortedStrings ids) "integration members must use stable ordering"
    reject (canonical_digest (.obj (batch.without ["batchDigest"])) ≠ text batch "batchDigest")
      "integration batch digest does not match content"

/-- The conditions that only a passed or only an unpassed result must meet. -/
def validate_outcome (result batch check_results : Dict) (evidence : List String) : Py Unit :=
  let resulting_revision := result.get "resultingRevision"
  if text result "status" = "passed" then do
    reject (check_results.values.any (fun value => !value.eq (.str "passed")))
      "passed integration requires every check to pass"
    reject evidence.isEmpty "passed integration requires evidence"
    reject (!filled resulting_revision) "passed integration requires a resulting revision"
    reject (resulting_revision.eq (batch.get "targetRevision")) "resulting revision must differ from target revision"
  else reject (!resulting_revision.isNull) "non-passed integration cannot claim a resulting revision"

def check_outcome (value : Json) : Py Unit := do
  let known ← in_set value ["passed","failed","inconclusive"]
  reject (!known) "integration check result is invalid"

def validate_integration_result (result batch : Dict) : Py Unit := do
  validate_integration_batch batch
  required_strings .SchedulerError result ["schemaVersion","batchId","batchDigest","targetRevision","status","summary"]
  reject (!TERMINAL_INTEGRATION.contains (text result "status")) "integration status is invalid"
  reject (text result "batchId" ≠ text batch "batchId" || text result "batchDigest" ≠ text batch "batchDigest")
    "integration result does not match batch"
  reject (text result "targetRevision" ≠ text batch "targetRevision")
    "integration result uses the wrong target revision"
  match (result.get "checkResults").dict? with
  | none => scheduler_error "checkResults must be an object"
  | some check_results => do
    let required := strings batch "requiredChecks"
    reject (!(check_results.keys.all required.contains && required.all check_results.keys.contains))
      "integration result must report every required check exactly once"
    check_results.values.forM check_outcome
    let evidence ← string_array (result.get "evidenceIds") "evidenceIds" 0
    validate_outcome result batch check_results evidence

end V3Aidlc.Scheduler
