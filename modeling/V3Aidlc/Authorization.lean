import V3Aidlc.Contracts
import Mathlib.Order.Bounds.Basic
import Mathlib.Data.Prod.Lex

/-!
Adaptive authorization (`authorization.py`). Every matching rule of every policy
is evaluated and the strictest decision wins; with no match the strictest default
does. The meaning of an evaluation is the greatest decision, in the order of
strictness, among those that apply (`evaluate_authorization_spec`).
-/
namespace V3Aidlc.Authorization
open V3Aidlc.Values V3Aidlc.Loops V3Aidlc.Contracts V3Aidlc.Canonical

def SCOPES : List String := ["organization","project","route","workstream","mode","target"]

inductive AuthorizationDecision where
  | AUTO_PROCEED
  | AUTO_PROCEED_AND_RECORD
  | AUTO_PROCEED_WITHIN_BUDGET
  | USER_DECISION_REQUIRED
  | BLOCKED
  deriving DecidableEq

def AuthorizationDecision.value : AuthorizationDecision → String
  | .AUTO_PROCEED => "auto_proceed"
  | .AUTO_PROCEED_AND_RECORD => "auto_proceed_and_record"
  | .AUTO_PROCEED_WITHIN_BUDGET => "auto_proceed_within_budget"
  | .USER_DECISION_REQUIRED => "user_decision_required"
  | .BLOCKED => "blocked"

def decisions : List AuthorizationDecision :=
  [.AUTO_PROCEED,.AUTO_PROCEED_AND_RECORD,.AUTO_PROCEED_WITHIN_BUDGET,.USER_DECISION_REQUIRED,.BLOCKED]

/-- `AuthorizationDecision(value)`; `none` is its `ValueError`. -/
def authorization_decision (value : Json) : Option AuthorizationDecision :=
  match value with
  | .str s => decisions.find? (fun d => d.value = s)
  | _ => none

def DECISION_STRICTNESS : AuthorizationDecision → Nat
  | .AUTO_PROCEED => 0
  | .AUTO_PROCEED_AND_RECORD => 1
  | .AUTO_PROCEED_WITHIN_BUDGET => 2
  | .USER_DECISION_REQUIRED => 3
  | .BLOCKED => 4

theorem strictness_injective : Function.Injective DECISION_STRICTNESS := by
  intro a b same
  cases a <;> cases b <;> simp_all [DECISION_STRICTNESS]

/-- Decisions ordered by strictness. -/
instance : LinearOrder AuthorizationDecision := LinearOrder.lift' DECISION_STRICTNESS strictness_injective

/-- The three decisions that proceed without the user. -/
def AuthorizationDecision.isAuto (d : AuthorizationDecision) : Bool :=
  d = .AUTO_PROCEED ∨ d = .AUTO_PROCEED_AND_RECORD ∨ d = .AUTO_PROCEED_WITHIN_BUDGET

theorem isAuto_iff {d : AuthorizationDecision} : d.isAuto = true ↔ d ≤ .AUTO_PROCEED_WITHIN_BUDGET := by
  cases d <;> decide

/-! ### Validation -/

def required_string := Contracts.required_string .AuthorizationError

def validate_predicate : Json → Py Unit :=
  Contracts.validate_predicate .AuthorizationError "Each predicate must be an object"
    "Each predicate must use exactly one operator" (fun _ => "Predicate contains unsupported fields")
    "Predicate 'in' must be a non-empty array"

/-- `isinstance(value, (int, float)) and not isinstance(value, bool)`. -/
def numeric? : Json → Option ℚ
  | .int n => some n
  | .float x => some x.value
  | _ => none

def validate_budget (budget : Json) : Py Unit :=
  match budget.dict? with
  | none => fail .AuthorizationError "Each budget must be an object"
  | some budget => do
    let _ ← required_string budget "fact"
    reject_if .AuthorizationError (numeric? (budget.get "maximum")).isNone "Budget maximum must be numeric"

/-- One rule of a policy, with the rule ids seen before it. -/
def validate_rule (seen : List String) (rule : Json) : Py (List String) :=
  match rule.dict? with
  | none => fail .AuthorizationError "Each rule must be an object"
  | some rule => do
    let rule_id ← required_string rule "id"
    reject_if .AuthorizationError (seen.contains rule_id) ("Duplicate rule ID: " ++ rule_id)
    let _ ← required_string rule "explanation"
    reject_if .AuthorizationError (!(rule.get "priority").isInt) ("Rule " ++ rule_id ++ " priority must be an integer")
    match authorization_decision (rule.get "decision") with
    | none => fail .AuthorizationError ("Rule " ++ rule_id ++ " has an invalid decision")
    | some decision => do
      match (rule.get "whenAll").list? with
      | none => fail .AuthorizationError ("Rule " ++ rule_id ++ " must define whenAll")
      | some predicates => do
        reject_if .AuthorizationError predicates.isEmpty ("Rule " ++ rule_id ++ " must define whenAll")
        predicates.forM validate_predicate
        let budgets := rule.getOr "budgets" (.arr [])
        reject_if .AuthorizationError (decision = .AUTO_PROCEED_WITHIN_BUDGET && !budgets.truthy)
          ("Rule " ++ rule_id ++ " uses a budgeted decision without budgets")
        reject_if .AuthorizationError (budgets.truthy && decision ≠ .AUTO_PROCEED_WITHIN_BUDGET)
          ("Rule " ++ rule_id ++ " defines budgets without a budgeted decision")
        match budgets.list? with
        | none => fail .AuthorizationError ("Rule " ++ rule_id ++ " budgets must be an array")
        | some budgetItems => do
          budgetItems.forM validate_budget
          reject_if .AuthorizationError
            (budgets.truthy && !(rule.get "onBudgetExceeded").eq (.str "user_decision_required"))
            ("Rule " ++ rule_id ++ " must escalate when its budget is exceeded")
          return seen ++ [rule_id]

def validate_policy (policy : Dict) : Py Unit := do
  let _ ← required_string policy "id"
  let _ ← required_string policy "version"
  let _ ← required_string policy "title"
  let known ← in_set (policy.get "scope") SCOPES
  reject_if .AuthorizationError (!known) ("Unknown policy scope: " ++ display (policy.get "scope"))
  reject_if .AuthorizationError (authorization_decision (policy.get "defaultDecision")).isNone
    "defaultDecision is invalid"
  match (policy.get "rules").list? with
  | none => fail .AuthorizationError "rules must be a non-empty array"
  | some rules => do
    reject_if .AuthorizationError rules.isEmpty "rules must be a non-empty array"
    let _ ← rules.foldlM validate_rule []
    return ()

/-! ### Evaluation -/

/-- The text of a budget list that was followed to some point. -/
def evaluate_budget (budgets : List Dict) (facts : Dict) (statuses : List String := []) : Bool × String :=
  match budgets with
  | [] => (true,join ", " statuses ++ " (within budget)")
  | budget :: rest =>
    let fact := text budget "fact"
    match Dict.get? fact facts with
    | none => (false,"budget fact " ++ fact ++ " is missing")
    | some actual =>
      match numeric? actual with
      | none => (false,"budget fact " ++ fact ++ " is not numeric")
      | some amount =>
        let maximum := budget.get "maximum"
        let statuses := statuses ++ [fact ++ "=" ++ display actual ++ "/" ++ display maximum]
        if (numeric? maximum).getD 0 < amount then (false,join ", " statuses ++ " (exceeded)")
        else evaluate_budget rest facts statuses

structure RuleMatch where
  policy_id : String
  policy_version : String
  rule_id : String
  decision : AuthorizationDecision
  explanation : String
  priority : Int
  budget_status : Option String

structure AuthorizationResult where
  decision : AuthorizationDecision
  explanation : String
  controlling_rules : List String
  matched : List RuleMatch
  record_required : Bool

def policy_rules (policy : Dict) : List Dict := records policy "rules"
def default_decision (policy : Dict) : AuthorizationDecision :=
  (authorization_decision (policy.get "defaultDecision")).getD .BLOCKED
def rule_decision (rule : Dict) : AuthorizationDecision :=
  (authorization_decision (rule.get "decision")).getD .BLOCKED
def rule_matches (rule facts : Dict) : Bool := all_match (items rule "whenAll") facts
def rule_budgets (rule : Dict) : List Dict := records rule "budgets"

/-- The decision of a matching rule once its budgets are checked. -/
def budgeted_decision (rule facts : Dict) : AuthorizationDecision × Option String :=
  if rule_decision rule = .AUTO_PROCEED_WITHIN_BUDGET then
    let (within_budget,status) := evaluate_budget (rule_budgets rule) facts
    (if within_budget then .AUTO_PROCEED_WITHIN_BUDGET else .USER_DECISION_REQUIRED,some status)
  else (rule_decision rule,none)

def rule_match (policy rule facts : Dict) : RuleMatch where
  policy_id := text policy "id"
  policy_version := text policy "version"
  rule_id := text rule "id"
  decision := (budgeted_decision rule facts).1
  explanation := text rule "explanation"
  priority := ((rule.get "priority").int?).getD 0
  budget_status := (budgeted_decision rule facts).2

/-- The matches of one policy. -/
def policy_matches (policy facts : Dict) : List RuleMatch :=
  ((policy_rules policy).filter (fun rule => rule_matches rule facts)).map (fun rule => rule_match policy rule facts)

def strictest_default (first : Dict) (rest : List Dict) : AuthorizationResult :=
  let policy := firstMax (fun policy => DECISION_STRICTNESS (default_decision policy)) first rest
  let decision := default_decision policy
  { decision := decision
    explanation := "No authorization rule matched; policy " ++ text policy "id" ++
      " applies its fail-closed default."
    controlling_rules := [text policy "id" ++ ":default"]
    matched := []
    record_required := decision ≠ .AUTO_PROCEED }

def match_reason (m : RuleMatch) : String :=
  match m.budget_status with
  | none => m.explanation
  | some status => if status = "" then m.explanation else m.explanation ++ " (" ++ status ++ ")"

/-- The order of equally strict matches: higher priority, then policy and rule id. -/
def controllingKey (m : RuleMatch) : Int ×ₗ String ×ₗ String := toLex (-m.priority,toLex (m.policy_id,m.rule_id))

def strictest_match (first : RuleMatch) (rest : List RuleMatch) : AuthorizationResult :=
  let matched := first :: rest
  let strictness := DECISION_STRICTNESS (firstMax (fun m => DECISION_STRICTNESS m.decision) first rest).decision
  let controlling := sortedBy controllingKey (matched.filter (fun m => DECISION_STRICTNESS m.decision = strictness))
  let decision := (controlling.head?.map RuleMatch.decision).getD .BLOCKED
  { decision := decision
    explanation := join " " (controlling.map match_reason)
    controlling_rules := controlling.map (fun m => m.policy_id ++ ":" ++ m.rule_id)
    matched := matched
    record_required := decision ≠ .AUTO_PROCEED }

def load_valid (policy : Json) : Py Dict := do
  let policy ← as_dict policy
  validate_policy policy
  return policy

def evaluate_authorization (policies : List Json) (facts : Dict) : Py AuthorizationResult := do
  let policies ← policies.mapM load_valid
  match policies with
  | [] => fail .AuthorizationError "At least one authorization policy is required"
  | first :: rest =>
    match (first :: rest).flatMap (fun policy => policy_matches policy facts) with
    | [] => return strictest_default first rest
    | m :: more => return strictest_match m more

/-! ### What an evaluation means -/

/-- The decisions of the matching rules. -/
def applicable (policies : List Dict) (facts : Dict) : List AuthorizationDecision :=
  (policies.flatMap (fun policy => policy_matches policy facts)).map RuleMatch.decision

/-- The decisions among which the strictest is taken. -/
def considered (policies : List Dict) (facts : Dict) : List AuthorizationDecision :=
  if applicable policies facts = [] then policies.map default_decision else applicable policies facts

/-- The strictest of the decisions that apply. -/
def Governs (policies : List Dict) (facts : Dict) (decision : AuthorizationDecision) : Prop :=
  IsGreatest {d | d ∈ considered policies facts} decision

theorem strictest_default_governs (first : Dict) (rest : List Dict) :
    IsGreatest {d | d ∈ (first :: rest).map default_decision} (strictest_default first rest).decision := by
  obtain ⟨member,greatest⟩ := firstMax_spec (fun policy => DECISION_STRICTNESS (default_decision policy)) first rest
  refine ⟨List.mem_map.mpr ⟨_,member,rfl⟩,?_⟩
  intro d listed
  obtain ⟨policy,policyMember,rfl⟩ := List.mem_map.mp listed
  exact greatest policy policyMember

theorem strictest_match_governs (first : RuleMatch) (rest : List RuleMatch) :
    IsGreatest {d | d ∈ (first :: rest).map RuleMatch.decision} (strictest_match first rest).decision := by
  obtain ⟨member,greatest⟩ := firstMax_spec (fun m : RuleMatch => DECISION_STRICTNESS m.decision) first rest
  set top := firstMax (fun m : RuleMatch => DECISION_STRICTNESS m.decision) first rest with topIs
  let tied := (first :: rest).filter (fun m => DECISION_STRICTNESS m.decision = DECISION_STRICTNESS top.decision)
  have topTied : top ∈ tied := by simpa [tied] using member
  -- Every match that controls is as strict as the strictest, so the first one is.
  have decision : (strictest_match first rest).decision = top.decision := by
    show ((sortedBy controllingKey tied).head?.map RuleMatch.decision).getD .BLOCKED = top.decision
    cases sorted : sortedBy controllingKey tied with
    | nil =>
      have inside : top ∈ sortedBy controllingKey tied := mem_sortedBy.mpr topTied
      rw [sorted] at inside
      cases inside
    | cons m more =>
      have inside : m ∈ tied := mem_sortedBy.mp (by rw [sorted]; simp)
      have same : DECISION_STRICTNESS m.decision = DECISION_STRICTNESS top.decision := by
        have := (List.mem_filter.mp inside).2
        simpa using this
      exact strictness_injective same
  rw [decision]
  refine ⟨List.mem_map_of_mem member,?_⟩
  intro d listed
  obtain ⟨m,mMember,rfl⟩ := List.mem_map.mp listed
  exact greatest m mMember

/-- A policy that passes its validation, as the dict it is. -/
theorem load_valid_ok {policy : Json} {d : Dict} :
    load_valid policy = .ok d ↔ policy = .obj d ∧ validate_policy d = .ok () := by
  unfold load_valid
  simp only [bind_ok_iff,as_dict_ok,pure_ok_iff]
  constructor
  · rintro ⟨_,rfl,_,valid,rfl⟩; exact ⟨rfl,valid⟩
  · rintro ⟨rfl,valid⟩; exact ⟨d,rfl,(),valid,rfl⟩

/-- Once the policies are valid and there is one, the evaluation returns, and
    its decision is the strictest of those that apply. -/
theorem evaluate_authorization_spec {policies : List Json} {loaded : List Dict}
    (valid : policies.mapM load_valid = .ok loaded) (some_policy : loaded ≠ []) (facts : Dict) :
    ∃ result, evaluate_authorization policies facts = .ok result ∧ Governs loaded facts result.decision ∧
      result.matched = loaded.flatMap (fun policy => policy_matches policy facts) := by
  unfold evaluate_authorization
  rw [valid,ok_bind]
  cases loaded with
  | nil => exact absurd rfl some_policy
  | cons first rest =>
    unfold Governs considered applicable
    cases found : (first :: rest).flatMap (fun policy => policy_matches policy facts) with
    | nil =>
      simp only [found]
      refine ⟨_,rfl,?_,rfl⟩
      simpa using strictest_default_governs first rest
    | cons m more =>
      simp only [found]
      refine ⟨_,rfl,?_,rfl⟩
      simpa using strictest_match_governs m more

/-- What an evaluation that returned says of its input. -/
theorem evaluate_authorization_ok {policies : List Json} {facts : Dict} {result : AuthorizationResult}
    (run : evaluate_authorization policies facts = .ok result) :
    ∃ loaded, policies.mapM load_valid = .ok loaded ∧ loaded ≠ [] ∧ Governs loaded facts result.decision := by
  have run' := run
  unfold evaluate_authorization at run
  obtain ⟨loaded,valid,_⟩ := bind_ok_iff.mp run
  have some_policy : loaded ≠ [] := by
    rintro rfl
    rw [valid,ok_bind] at run
    simp at run
  obtain ⟨other,evaluated,governs,_⟩ := evaluate_authorization_spec valid some_policy facts
  rw [run'] at evaluated
  cases evaluated
  exact ⟨loaded,valid,some_policy,governs⟩

end V3Aidlc.Authorization
