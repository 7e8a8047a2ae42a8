import V3Aidlc.Contracts

/-!
Route and mode contracts (`lifecycle_contracts.py`). A route is validated against
the library of its modes; the modes of a stage are the required ones, the
conditional ones whose predicates the facts meet and the optional ones asked for.
-/
namespace V3Aidlc.LifecycleContracts
open V3Aidlc.Values V3Aidlc.Loops V3Aidlc.Contracts V3Aidlc.Canonical

def STAGES : List String :=
  ["discovery","definition","design","implementation","validation","release","operation","retirement"]
def POSTURES : List String := ["explore","fast","balanced","assured","emergency"]
def REQUIREMENTS : List String := ["required","conditional","optional"]

structure ModeSelection where
  mode_id : String
  requirement : String
  reason : String

structure SelectionResult where
  route_id : String
  route_version : String
  stage : String
  posture : Json
  selected : List ModeSelection
  inherited_controls : List String

def contract_error {α : Type} (message : String) : Py α := fail .ContractError message
def reject (condition : Bool) (message : String) : Py Unit := reject_if .ContractError condition message
def require_string := Contracts.required_string .ContractError

/-! ### Validation -/

def validate_controls (controls : Json) (field : String) : Py (List String) :=
  match strings? controls with
  | none => contract_error (field ++ " must be an array of stable control IDs")
  | some items => do
    reject (!items.all nonempty) (field ++ " must be an array of stable control IDs")
    reject (!decide items.Nodup) (field ++ " contains duplicate control IDs")
    return items

/-- A non-empty array. -/
def required_array (value : Json) (message : String) : Py (List Json) :=
  match value.list? with
  | none => contract_error message
  | some items => do
    reject items.isEmpty message
    return items

/-- `sorted(names)` in a message. -/
def listed (names : List String) : String := displayList (sortedStrings (distinct names))

/-- `set(values) - known` is empty; a set cannot hold lists or dicts. -/
def within (values : List Json) (known : List String) (message : List String → String) : Py Unit := do
  raise_if (!values.all Json.hashable) .TypeError
  let unknown := values.filter (fun value => !known.any (fun name => value.eq (.str name)))
  reject (!unknown.isEmpty) (message (unknown.map display))

/-- `len(values) != len(set(values))` for values that are known texts. -/
def without_duplicates (values : List Json) (message : String) : Py Unit :=
  reject (!decide (values.filterMap Json.str?).Nodup) message

def validate_role (role : Json) : Py Unit :=
  match role.dict? with
  | none => contract_error "Each role must be an object"
  | some role => required_strings .ContractError role ["name","responsibility"]

def validate_mode_contract (contract : Dict) : Py Unit := do
  required_strings .ContractError contract ["id","version","title","objective"]
  let stages ← required_array (contract.get "supportedStages") "supportedStages must be a non-empty array"
  within stages STAGES (fun unknown => "Unknown supported stages: " ++ listed unknown)
  without_duplicates stages "supportedStages contains duplicates"
  let roles ← required_array (contract.get "roles") "roles must be a non-empty array"
  roles.forM validate_role
  ["requiredInputs","requiredOutputs","evidence","completionCriteria"].forM (fun field => do
    let _ ← required_array (contract.get field) (field ++ " must be a non-empty array")
    return ())
  let _ ← validate_controls (contract.getOr "hardControls" (.arr [])) "hardControls"
  match (contract.get "attemptBudget").int? with
  | none => contract_error "attemptBudget must be an integer of at least 1"
  | some budget => do
    reject (budget < 1) "attemptBudget must be an integer of at least 1"
    match (contract.get "postureProfiles").dict? with
    | none => contract_error "postureProfiles must define at least balanced"
    | some profiles => do
      reject (!profiles.has "balanced") "postureProfiles must define at least balanced"
      let unknown := profiles.keys.filter (fun posture => !POSTURES.contains posture)
      reject (!unknown.isEmpty) ("Unknown posture profiles: " ++ listed unknown)
      let _ ← required_array (contract.get "outcomes") "outcomes must be a non-empty array"
      return ()

def validate_predicate : Json → Py Unit :=
  Contracts.validate_predicate .ContractError "Each condition predicate must be an object"
    "Each predicate must use exactly one supported operator"
      (fun unexpected => "Unsupported predicate fields: " ++ listed unexpected)
    "Predicate 'in' must contain a non-empty array"

/-- One mode rule of a stage, with the modes seen before it. -/
def validate_mode_rule (mode_library : Dict) (stage_id : Json) (seen_modes : List String) (rule : Json) :
    Py (List String) :=
  match rule.dict? with
  | none => contract_error "Each mode rule must be an object"
  | some rule => do
    let mode_id ← require_string rule "modeId"
    let requirement := rule.get "requirement"
    let known ← in_set requirement REQUIREMENTS
    reject (!known) ("Unknown requirement for " ++ mode_id ++ ": " ++ display requirement)
    reject (seen_modes.contains mode_id) ("Duplicate mode rule for " ++ mode_id)
    reject (!mode_library.has mode_id) ("Route references unknown mode: " ++ mode_id)
    let mode ← as_dict (mode_library.get mode_id)
    validate_mode_contract mode
    reject (!memList stage_id (items mode "supportedStages"))
      ("Mode " ++ mode_id ++ " does not support stage " ++ display stage_id)
    let conditions := rule.getOr "whenAll" (.arr [])
    reject (requirement.eq (.str "conditional") && !conditions.truthy)
      ("Conditional mode " ++ mode_id ++ " requires whenAll")
    reject (!requirement.eq (.str "conditional") && conditions.truthy)
      ("Only conditional mode " ++ mode_id ++ " may define whenAll")
    let predicates ← iterate conditions
    predicates.forM validate_predicate
    return seen_modes ++ [mode_id]

def validate_stage (mode_library stage : Dict) : Py Unit := do
  let rules ← required_array (stage.get "modeRules") ("Stage " ++ display (stage.get "id") ++ " must define modeRules")
  let _ ← rules.foldlM (validate_mode_rule mode_library (stage.get "id")) []
  return ()

def validate_route_contract (contract mode_library : Dict) : Py Unit := do
  required_strings .ContractError contract ["id","version","title","purpose"]
  let default_posture := contract.get "defaultPosture"
  let known ← in_set default_posture POSTURES
  reject (!known) ("Unknown default posture: " ++ display default_posture)
  let allowed_postures ← required_array (contract.get "allowedPostures") "allowedPostures must be a non-empty array"
  within allowed_postures POSTURES (fun _ => "allowedPostures contains unknown values")
  reject (!memList default_posture allowed_postures) "defaultPosture must be allowed"
  let _ ← validate_controls (contract.getOr "hardControls" (.arr [])) "hardControls"
  let stages ← required_array (contract.get "stages") "stages must be a non-empty array"
  let stageDicts := stages.filterMap Json.dict?
  reject (stageDicts.length ≠ stages.length) "stages contains an invalid stage"
  let stage_ids := stageDicts.map (fun stage => stage.get "id")
  within stage_ids STAGES (fun _ => "stages contains an invalid stage")
  without_duplicates stage_ids "stages contains duplicates"
  stageDicts.forM (validate_stage mode_library)
  let _ ← required_array (contract.get "completionOutcomes") "completionOutcomes must be a non-empty array"
  return ()

/-! ### Selection -/

/-- The modes of a stage, each with the reason it is in. -/
def select_mode (facts : Dict) (optional : List Json) (rule : Dict) : Option ModeSelection :=
  let mode_id := text rule "modeId"
  let requirement := text rule "requirement"
  if requirement = "required" then some ⟨mode_id,requirement,"required by route"⟩
  else if requirement = "conditional" && all_match (items rule "whenAll") facts then
    let matched := join ", " ((records rule "whenAll").map (fun predicate => text predicate "fact"))
    some ⟨mode_id,requirement,"matched authoritative facts: " ++ matched⟩
  else if requirement = "optional" && memList (.str mode_id) optional then
    some ⟨mode_id,requirement,"authorized optional selection"⟩
  else none

def hard_controls (contract : Dict) : List String := (strings? (contract.getOr "hardControls" (.arr []))).getD []

def stage_of (route : Dict) (stage : String) : Option Dict :=
  (records route "stages").find? (fun item => (item.get "id").eq (.str stage))

def select_modes (route mode_library : Dict) (stage : String) (facts : Dict) (posture : Json)
    (optional_mode_ids : List Json) : Py SelectionResult := do
  validate_route_contract route mode_library
  let selected_posture := if posture.truthy then posture else route.get "defaultPosture"
  reject (!memList selected_posture (items route "allowedPostures"))
    ("Posture " ++ display selected_posture ++ " is not allowed by the route")
  match stage_of route stage with
  | none => contract_error ("Route does not contain stage: " ++ stage)
  | some stage_contract => do
    let rules := records stage_contract "modeRules"
    let known_optional := (rules.filter (fun rule => text rule "requirement" = "optional")).map
      (fun rule => text rule "modeId")
    within optional_mode_ids known_optional (fun unknown => "Modes are not optional for this stage: " ++ listed unknown)
    let selections := rules.filterMap (select_mode facts optional_mode_ids)
    let controls := hard_controls route ++
      selections.flatMap (fun selection => hard_controls (((mode_library.get selection.mode_id).dict?).getD []))
    return ⟨text route "id",text route "version",stage,selected_posture,selections,sortedStrings (distinct controls)⟩

end V3Aidlc.LifecycleContracts
