import V3Aidlc.Contracts

/-!
Evidence admissibility and gate evaluation (`evidence_gates.py`). A gate first
validates its contract, its time and every evidence record, then indexes the
results and exceptions, and examines the selected checks one by one; what each
check adds to the lists of the evaluation is its finding.
-/
namespace V3Aidlc.EvidenceGates
open V3Aidlc.Values V3Aidlc.Loops V3Aidlc.Timestamps V3Aidlc.Contracts V3Aidlc.Canonical V3Aidlc.Sha256

def EVIDENCE_KINDS : List String :=
  ["artifact","test_result","build_result","review_disposition","scan_result","observation","metric","decision",
    "provenance_manifest"]
def CHECK_METHODS : List String := ["deterministic","semantic_review","human_verification"]
def GATE_TYPES : List String := ["package","bolt","stage","integration","promotion","release"]
def REQUIREMENTS : List String := ["required","conditional","advisory"]
def CHECK_STATUSES : List String := ["passed","failed","inconclusive","error"]

inductive GateOutcome where
  | PASSED
  | PASSED_WITH_EXCEPTION
  | FAILED
  | INCONCLUSIVE
  deriving DecidableEq

def GateOutcome.value : GateOutcome → String
  | .PASSED => "passed"
  | .PASSED_WITH_EXCEPTION => "passed_with_exception"
  | .FAILED => "failed"
  | .INCONCLUSIVE => "inconclusive"

structure CheckAssessment where
  check_id : String
  declared_status : String
  admissible : Bool
  reasons : List String

structure GateEvaluation where
  gate_id : String
  gate_version : String
  subject_id : Json
  subject_revision : Json
  outcome : GateOutcome
  promotable : Bool
  required_checks : List String
  advisory_checks : List String
  missing_checks : List String
  invalid_checks : List String
  accepted_exceptions : List Json
  reasons : List String

def gate_error {α : Type} (message : String) : Py α := fail .EvidenceGateError message
def reject (condition : Bool) (message : String) : Py Unit := reject_if .EvidenceGateError condition message
def required_string := Contracts.required_string .EvidenceGateError
def parse_time := Contracts.parse_time .EvidenceGateError

/-! ### Contracts and evidence -/

def validate_predicate : Json → Py Unit :=
  Contracts.validate_predicate .EvidenceGateError "Each condition predicate must be an object"
    "Each predicate must use exactly one operator" (fun _ => "Predicate contains unsupported fields")
    "Predicate 'in' must be a non-empty array"

def EVIDENCE_STRINGS : List String :=
  ["id","kind","subjectId","subjectRevision","producerId","producerRole","producerIndependenceGroup","collectedAt",
    "locator","sha256"]

def validate_evidence (record : Dict) : Py Unit := do
  required_strings .EvidenceGateError record EVIDENCE_STRINGS
  let known ← in_set (record.get "kind") EVIDENCE_KINDS
  reject (!known) ("Unknown evidence kind: " ++ text record "kind")
  reject (!isHexDigest (text record "sha256")) "sha256 must contain exactly 64 lowercase hex characters"
  let _ ← parse_time (record.get "collectedAt") "collectedAt"
  match (record.get "assertions").list? with
  | none => gate_error "assertions must be a non-empty string array"
  | some assertions =>
    reject (assertions.isEmpty || !assertions.all filled) "assertions must be a non-empty string array"

def validate_check_contract (contract : Dict) : Py Unit := do
  required_strings .EvidenceGateError contract ["id","version","title"]
  let known ← in_set (contract.get "method") CHECK_METHODS
  reject (!known) ("Unknown check method: " ++ display (contract.get "method"))
  match (contract.get "acceptedEvidenceKinds").list? with
  | none => gate_error "acceptedEvidenceKinds must contain known kinds"
  | some kinds => do
    reject kinds.isEmpty "acceptedEvidenceKinds must contain known kinds"
    let known ← kinds.mapM (fun kind => in_set kind EVIDENCE_KINDS)
    reject (!known.all id) "acceptedEvidenceKinds must contain known kinds"
    reject (((contract.get "minimumEvidence").int?).all (· < 1)) "minimumEvidence must be at least 1"
    reject (((contract.get "maxAgeSeconds").int?).all (· < 0)) "maxAgeSeconds must be a non-negative integer"
    reject (!(contract.get "requiresDigest").isBool) "requiresDigest must be boolean"
    reject (!(contract.get "requiresIndependentEvaluator").isBool) "requiresIndependentEvaluator must be boolean"

/-- One check rule of a gate, with the check ids seen before it. -/
def validate_check_rule (check_library : Dict) (seen : List String) (rule : Json) : Py (List String) :=
  match rule.dict? with
  | none => gate_error "Each check rule must be an object"
  | some rule => do
    let check_id ← required_string rule "checkId"
    reject (seen.contains check_id) ("Duplicate gate check: " ++ check_id)
    match Dict.get? check_id check_library with
    | none => gate_error ("Gate references unknown check: " ++ check_id)
    | some contract => do
      let contract ← as_dict contract
      validate_check_contract contract
      let requirement := rule.get "requirement"
      let known ← in_set requirement REQUIREMENTS
      reject (!known) ("Invalid requirement for " ++ check_id)
      let conditions := rule.getOr "whenAll" (.arr [])
      reject (requirement.eq (.str "conditional") && !conditions.truthy)
        ("Conditional check " ++ check_id ++ " needs whenAll")
      reject (!requirement.eq (.str "conditional") && conditions.truthy)
        ("Only conditional check " ++ check_id ++ " may use whenAll")
      let predicates ← iterate conditions
      predicates.forM validate_predicate
      reject (!(rule.get "waivable").isBool) ("Check " ++ check_id ++ " waivable must be boolean")
      reject ((rule.get "hardControl").isTrue && (rule.get "waivable").isTrue)
        ("Hard-control check " ++ check_id ++ " cannot be waivable")
      return seen ++ [check_id]

def validate_gate_contract (contract check_library : Dict) : Py Unit := do
  required_strings .EvidenceGateError contract ["id","version","title"]
  let known ← in_set (contract.get "gateType") GATE_TYPES
  reject (!known) ("Unknown gate type: " ++ display (contract.get "gateType"))
  match strings? (contract.get "acceptedExceptionAuthorities") with
  | none => gate_error "acceptedExceptionAuthorities must be a string array"
  | some authorities => do
    reject (!authorities.all nonempty) "acceptedExceptionAuthorities must be a string array"
    match (contract.get "checkRules").list? with
    | none => gate_error "checkRules must be a non-empty array"
    | some rules => do
      reject rules.isEmpty "checkRules must be a non-empty array"
      let _ ← rules.foldlM (validate_check_rule check_library) []
      return ()

/-! ### Results -/

/-- Records under the value of one of their fields, in the order they came. -/
abbrev Table := List (Json × Dict)

def Table.find (table : Table) (id : String) : Option Dict :=
  (List.find? (fun entry => entry.1.eq (.str id)) table).map Prod.snd

/-- The fields of a check result that its assessment uses. -/
structure ResultFields where
  status : String
  subject_id : String
  subject_revision : String
  evaluated_at : Instant
  independence_group : String
  subject_group : String
  evidence_ids : List String

/-- The validation at the start of `assess_check_result`. -/
def result_fields (result contract : Dict) : Py ResultFields := do
  reject (!(result.get "checkId").eq (contract.get "id")) "Check result does not match its contract"
  reject (!(result.get "checkVersion").eq (contract.get "version")) "Check result uses the wrong contract version"
  let known ← in_set (result.get "status") CHECK_STATUSES
  reject (!known) ("Unknown check status: " ++ display (result.get "status"))
  let subject_id ← required_string result "subjectId"
  let subject_revision ← required_string result "subjectRevision"
  let evaluatedText ← required_string result "evaluatedAt"
  let evaluated_at ← parse_time (.str evaluatedText) "evaluatedAt"
  match (result.get "evaluator").dict? with
  | none => gate_error "evaluator must be an object"
  | some evaluator => do
    required_strings .EvidenceGateError evaluator ["id","role","independenceGroup"]
    let subject_group ← required_string result "subjectProducerIndependenceGroup"
    match strings? (result.get "evidenceIds") with
    | none => gate_error "evidenceIds must be a string array"
    | some evidence_ids => do
      reject (!evidence_ids.all nonempty) "evidenceIds must be a string array"
      return ⟨text result "status",subject_id,subject_revision,evaluated_at,text evaluator "independenceGroup",
        subject_group,evidence_ids⟩

def when_true (condition : Bool) (reason : String) : List String := if condition then [reason] else []

/-- The seconds an evidence record may be old. -/
def max_age (contract : Dict) : Int := ((contract.get "maxAgeSeconds").int?).getD 0

/-- What is wrong with one cited evidence record. -/
def evidence_reasons (fields : ResultFields) (contract : Dict) (evidence_by_id : Table) (evidence_id : String) :
    Py (List String) :=
  match evidence_by_id.find evidence_id with
  | none => return ["evidence " ++ evidence_id ++ " is missing"]
  | some record =>
    match validate_evidence record with
    | .error (.contract .EvidenceGateError message) =>
      return ["evidence " ++ evidence_id ++ " is invalid: " ++ message]
    | .error other => .error other
    | .ok _ => do
      let collected_at ← parse_time (record.get "collectedAt") "collectedAt"
      let age := total_seconds (fields.evaluated_at - collected_at)
      return when_true (!memList (record.get "kind") (items contract "acceptedEvidenceKinds"))
          ("evidence " ++ evidence_id ++ " has an unaccepted kind") ++
        when_true (!(record.get "subjectId").eq (.str fields.subject_id))
          ("evidence " ++ evidence_id ++ " is bound to another subject") ++
        when_true (!(record.get "subjectRevision").eq (.str fields.subject_revision))
          ("evidence " ++ evidence_id ++ " is bound to another revision") ++
        if age < 0 then ["evidence " ++ evidence_id ++ " is dated after evaluation"]
        else when_true ((max_age contract : ℚ) < age) ("evidence " ++ evidence_id ++ " is stale")

def assess_check_result (result contract : Dict) (evidence_by_id : Table) : Py CheckAssessment := do
  validate_check_contract contract
  let fields ← result_fields result contract
  let cited ← fields.evidence_ids.mapM (evidence_reasons fields contract evidence_by_id)
  let reasons :=
    when_true ((fields.evidence_ids.length : Int) < ((contract.get "minimumEvidence").int?).getD 0)
      "required evidence count is not met" ++
    when_true (!decide fields.evidence_ids.Nodup) "duplicate evidence IDs were supplied" ++
    when_true ((contract.get "requiresIndependentEvaluator").isTrue && fields.independence_group = fields.subject_group)
      "evaluator is not independent from the subject producer" ++
    cited.flatten
  return ⟨text contract "id",fields.status,reasons.isEmpty,reasons⟩

/-! ### Exceptions -/

def EXCEPTION_FIELDS : List String :=
  ["id","gateId","checkId","subjectId","subjectRevision","authority","grantedBy","rationale","expiresAt"]

/-- The first condition that the exception fails before its texts are read. -/
def refusal (exception gate rule : Dict) (subject_id subject_revision : Json) : Option String :=
  if !(rule.get "waivable").truthy then some "check is non-waivable"
  else if !EXCEPTION_FIELDS.all (fun key => Dict.has exception key) then some "exception is incomplete"
  else if !((exception.get "gateId").eq (gate.get "id") && (exception.get "checkId").eq (rule.get "checkId")) then
    some "exception targets another gate or check"
  else if !((exception.get "subjectId").eq subject_id && (exception.get "subjectRevision").eq subject_revision) then
    some "exception targets another subject revision"
  else if !memList (exception.get "authority") (items gate "acceptedExceptionAuthorities") then
    some "exception authority is not accepted"
  else none

/-- Whether the exception excuses the check, with the reason for it. -/
def valid_exception (exception gate rule : Dict) (subject_id subject_revision : Json) (evaluated_at : Instant) :
    Py (Bool × String) :=
  match refusal exception gate rule subject_id subject_revision with
  | some reason => return (false,reason)
  | none => do
    -- A blank text raises here; it is never empty after that.
    let _ ← required_string exception "grantedBy"
    let _ ← required_string exception "rationale"
    let expires_at ← parse_time (exception.get "expiresAt") "expiresAt"
    if expires_at < evaluated_at then return (false,"exception has expired")
    else return (true,"valid bounded exception")

/-! ### The gate -/

/-- What the evaluation holds when it starts on the checks. -/
structure GateContext where
  gate : Dict
  check_library : Dict
  subject_id : Json
  subject_revision : Json
  evaluation_time : Instant
  evidence_by_id : Table
  results_by_id : Table
  exception_by_check : Table

/-- Adds a record under the value of a field; no two may have the same. -/
def index_by (key duplicate : String) (table : Table) (record : Dict) : Py Table := do
  let id := record.get key
  if id.hashable then do
    reject (memList id (table.map Prod.fst)) (duplicate ++ display id)
    return table ++ [(id,record)]
  else .error .TypeError

def index_evidence (table : Table) (record : Json) : Py Table := do
  let record ← as_dict record
  validate_evidence record
  index_by "id" "Duplicate evidence ID: " table record

def index_result (table : Table) (result : Json) : Py Table := do
  let result ← as_dict result
  index_by "checkId" "Duplicate check result: " table result

def index_exception (table : Table) (exception : Json) : Py Table := do
  let exception ← as_dict exception
  index_by "checkId" "Duplicate exception for check: " table exception

/-- The part of `evaluate_gate` before the checks. -/
def gate_context (gate check_library : Dict) (check_results evidence_records : List Json)
    (subject_id subject_revision evaluated_at : Json) (exceptions : List Json) : Py GateContext := do
  validate_gate_contract gate check_library
  let evaluation_time ← parse_time evaluated_at "evaluatedAt"
  let evidence_by_id ← evidence_records.foldlM index_evidence []
  let results_by_id ← check_results.foldlM index_result []
  let exception_by_check ← exceptions.foldlM index_exception []
  return ⟨gate,check_library,subject_id,subject_revision,evaluation_time,evidence_by_id,results_by_id,
    exception_by_check⟩

def check_rules (gate : Dict) : List Dict := records gate "checkRules"
def check_id (rule : Dict) : String := text rule "checkId"
def contract_of (context : GateContext) (rule : Dict) : Dict :=
  ((context.check_library.get (check_id rule)).dict?).getD []

def selected (facts rule : Dict) : Bool :=
  (rule.get "requirement").eq (.str "required") ||
    ((rule.get "requirement").eq (.str "conditional") && all_match (items rule "whenAll") facts)

def selected_rules (gate facts : Dict) : List Dict := (check_rules gate).filter (selected facts)
def advisory_rules (gate facts : Dict) : List Dict :=
  (check_rules gate).filter (fun rule => !selected facts rule && (rule.get "requirement").eq (.str "advisory"))

/-- What a check appends to the lists of the evaluation. -/
structure Finding where
  missing : List String := []
  invalid : List String := []
  accepted_exceptions : List Json := []
  failures : List String := []
  unresolved : List String := []
  reasons : List String := []

def Finding.append (a b : Finding) : Finding where
  missing := a.missing ++ b.missing
  invalid := a.invalid ++ b.invalid
  accepted_exceptions := a.accepted_exceptions ++ b.accepted_exceptions
  failures := a.failures ++ b.failures
  unresolved := a.unresolved ++ b.unresolved
  reasons := a.reasons ++ b.reasons

/-- A check that did not pass and is not excused. -/
def unexcused (rule : Dict) (declared_status : String) (reasons : List String) : Finding :=
  if declared_status = "failed" then
    { failures := [check_id rule], reasons := reasons ++ ["Required check " ++ check_id rule ++ " failed."] }
  else
    { unresolved := [check_id rule]
      reasons := reasons ++ ["Required check " ++ check_id rule ++ " is " ++ declared_status ++ "."] }

/-- An admissible check that did not pass. -/
def examine_exception (context : GateContext) (rule : Dict) (declared_status : String) : Py Finding :=
  match context.exception_by_check.find (check_id rule) with
  | none => return unexcused rule declared_status []
  | some exception => do
    let (valid,reason) ← valid_exception exception context.gate rule context.subject_id context.subject_revision
      context.evaluation_time
    if valid then
      return { accepted_exceptions := [exception.get "id"]
               reasons := ["Check " ++ check_id rule ++ " uses " ++ reason ++ "."] }
    else
      return unexcused rule declared_status ["Check " ++ check_id rule ++ " exception rejected: " ++ reason ++ "."]

/-- A result that names another subject or revision. -/
def misbound (context : GateContext) (result : Dict) : Bool :=
  !(result.get "subjectId").eq context.subject_id || !(result.get "subjectRevision").eq context.subject_revision

/-- One pass of the loop over the selected checks. -/
def examine (context : GateContext) (rule : Dict) : Py Finding :=
  let id := check_id rule
  match context.results_by_id.find id with
  | none =>
    return { missing := [id], unresolved := [id], reasons := ["Required check " ++ id ++ " has no result."] }
  | some result =>
    if misbound context result then
      return { invalid := [id], unresolved := [id]
               reasons := ["Check " ++ id ++ " is bound to another subject revision."] }
    else do
      let evaluatedText ← required_string result "evaluatedAt"
      let result_time ← parse_time (.str evaluatedText) "evaluatedAt"
      if context.evaluation_time < result_time then
        return { invalid := [id], unresolved := [id]
                 reasons := ["Check " ++ id ++ " is dated after the gate evaluation."] }
      else do
        let assessment ← assess_check_result result (contract_of context rule) context.evidence_by_id
        if !assessment.admissible then
          return { invalid := [id], unresolved := [id]
                   reasons := assessment.reasons.map (fun reason => "Check " ++ id ++ ": " ++ reason ++ ".") }
        else if assessment.declared_status = "passed" then return {}
        else examine_exception context rule assessment.declared_status

def gate_outcome (found : Finding) : GateOutcome :=
  if !found.failures.isEmpty then .FAILED
  else if !found.unresolved.isEmpty then .INCONCLUSIVE
  else if !found.accepted_exceptions.isEmpty then .PASSED_WITH_EXCEPTION
  else .PASSED

def promotes (outcome : GateOutcome) : Bool := outcome = .PASSED ∨ outcome = .PASSED_WITH_EXCEPTION

def gate_evaluation (context : GateContext) (facts : Dict) (found : Finding) : GateEvaluation where
  gate_id := text context.gate "id"
  gate_version := text context.gate "version"
  subject_id := context.subject_id
  subject_revision := context.subject_revision
  outcome := gate_outcome found
  promotable := promotes (gate_outcome found)
  required_checks := (selected_rules context.gate facts).map check_id
  advisory_checks := (advisory_rules context.gate facts).map check_id
  missing_checks := found.missing
  invalid_checks := found.invalid
  accepted_exceptions := found.accepted_exceptions
  reasons := found.reasons

def evaluate_gate (gate check_library : Dict) (check_results evidence_records : List Json) (facts : Dict)
    (subject_id subject_revision evaluated_at : Json) (exceptions : List Json) : Py GateEvaluation := do
  let context ← gate_context gate check_library check_results evidence_records subject_id subject_revision
    evaluated_at exceptions
  let findings ← (selected_rules gate facts).mapM (examine context)
  return gate_evaluation context facts (findings.foldl Finding.append {})

end V3Aidlc.EvidenceGates
