import V3Aidlc.AuthorizationChanges
import V3Aidlc.SchedulePermutations

/-!
The strictest decision. What a matching rule adds to an evaluation is said here without the
loop over its budgets: its own decision, or an escalation as soon as some budget is not met.
The order of policies, rules, predicates and budgets and the priorities of rules then change
nothing, as the greatest decision of a set does not depend on how the set is listed
(`strictest_decision`).
-/
namespace V3Aidlc.StrictestDecisions
open V3Aidlc.Values V3Aidlc.Loops V3Aidlc.Contracts V3Aidlc.Authorization V3Aidlc.AuthorizationChanges V3Aidlc.Groups
open V3Aidlc.SchedulePermutations (Rearranged rearranged_symm rearranged_left SameItems sameItems_symm sameItems_arr
  sameItems_elements)

/-! ### What a rule contributes -/

/-- The fact of a budget is there, is a number and is at most the maximum. -/
def Met (facts budget : Dict) : Prop :=
  ∃ actual amount maximum, Dict.get? (text budget "fact") facts = some actual ∧ numeric? actual = some amount ∧
    numeric? (budget.get "maximum") = some maximum ∧ amount ≤ maximum

/-- Every budget of the rule is met. -/
def WithinBudget (facts rule : Dict) : Prop := ∀ budget ∈ rule_budgets rule, Met facts budget

/-- Every predicate of the rule holds of the facts. -/
def Matching (facts rule : Dict) : Prop :=
  ∀ predicate ∈ items rule "whenAll", ∃ fields, predicate = .obj fields ∧ predicate_matches fields facts = true

/-- The decision that a matching rule adds. -/
inductive Contributes (facts rule : Dict) : AuthorizationDecision → Prop where
  | plain : rule_decision rule ≠ .AUTO_PROCEED_WITHIN_BUDGET → Contributes facts rule (rule_decision rule)
  | within : rule_decision rule = .AUTO_PROCEED_WITHIN_BUDGET → WithinBudget facts rule →
      Contributes facts rule .AUTO_PROCEED_WITHIN_BUDGET
  | escalated : rule_decision rule = .AUTO_PROCEED_WITHIN_BUDGET → ¬ WithinBudget facts rule →
      Contributes facts rule .USER_DECISION_REQUIRED

/-- What the matching rules of the policies contribute. -/
def Contributed (policies : List Dict) (facts : Dict) : Set AuthorizationDecision :=
  {d | ∃ policy ∈ policies, ∃ rule ∈ policy_rules policy, Matching facts rule ∧ Contributes facts rule d}

/-- The strictest contribution, or the strictest default where no rule matches. -/
def Strictest (policies : List Dict) (facts : Dict) (decision : AuthorizationDecision) : Prop :=
  (Contributed policies facts).Nonempty ∧ IsGreatest (Contributed policies facts) decision ∨
    (∀ policy ∈ policies, ∀ rule ∈ policy_rules policy, ¬ Matching facts rule) ∧
      IsGreatest {d | ∃ policy ∈ policies, default_decision policy = d} decision

theorem rule_matches_iff {facts rule : Dict} : rule_matches rule facts = true ↔ Matching facts rule := by
  unfold rule_matches all_match Matching
  rw [List.all_eq_true]
  refine forall₂_congr (fun predicate _ => ?_)
  cases predicate <;> simp [Json.dict?]

section
variable {facts rule : Dict}

/-- The loop over budgets stops early, and passes exactly when every budget is met. -/
theorem evaluate_budget_iff {budgets : List Dict}
    (numeric : ∀ budget ∈ budgets, (numeric? (budget.get "maximum")).isSome)
    (statuses : List String) :
    (evaluate_budget budgets facts statuses).1 = true ↔ ∀ budget ∈ budgets, Met facts budget := by
  induction budgets generalizing statuses with
  | nil => simp [evaluate_budget]
  | cons budget rest ih =>
    have later := ih (fun other member => numeric other (by simp [member]))
    obtain ⟨maximum,bounded⟩ := Option.isSome_iff_exists.mp (numeric budget (by simp))
    rw [List.forall_mem_cons,evaluate_budget]
    cases present : Dict.get? (text budget "fact") facts with
    | none => simp [Met,present]
    | some actual =>
      cases amounts : numeric? actual with
      | none => simp [Met,present,amounts]
      | some amount =>
        have here : Met facts budget ↔ amount ≤ maximum := by simp [Met,present,amounts,bounded]
        rw [here]
        by_cases exceeded : maximum < amount
        · have : ¬ amount ≤ maximum := not_le.mpr exceeded
          simp [amounts,bounded,exceeded,this]
        · have fits : amount ≤ maximum := not_lt.mp exceeded
          simp [amounts,bounded,exceeded,fits,later]

theorem budgeted_decision_iff (numeric : ∀ budget ∈ rule_budgets rule, (numeric? (budget.get "maximum")).isSome)
    {decision : AuthorizationDecision} : (budgeted_decision rule facts).1 = decision ↔
      Contributes facts rule decision := by
  have passed : (evaluate_budget (rule_budgets rule) facts).1 = true ↔ WithinBudget facts rule :=
    evaluate_budget_iff numeric []
  unfold budgeted_decision
  by_cases budgeted : rule_decision rule = .AUTO_PROCEED_WITHIN_BUDGET
  · rw [if_pos budgeted]
    show (if (evaluate_budget (rule_budgets rule) facts).1 then AuthorizationDecision.AUTO_PROCEED_WITHIN_BUDGET
      else .USER_DECISION_REQUIRED) = decision ↔ _
    by_cases fits : WithinBudget facts rule
    · rw [if_pos (passed.mpr fits)]
      constructor
      · rintro rfl; exact .within budgeted fits
      · rintro (other | ⟨_,_⟩ | ⟨_,misses⟩)
        · exact absurd budgeted other
        · rfl
        · exact absurd fits misses
    · rw [if_neg (fun ended => fits (passed.mp ended))]
      constructor
      · rintro rfl; exact .escalated budgeted fits
      · rintro (other | ⟨_,within⟩ | ⟨_,_⟩)
        · exact absurd budgeted other
        · exact absurd within fits
        · rfl
  · rw [if_neg budgeted]
    constructor
    · rintro rfl; exact .plain budgeted
    · rintro (_ | ⟨same,_⟩ | ⟨same,_⟩)
      · rfl
      · exact absurd same budgeted
      · exact absurd same budgeted

end

/-! ### Valid rules and policies -/

/-- The dict of a value, for a value that is one. -/
def fieldsOf (value : Json) : Dict := (value.dict?).getD []

/-- A value that is a list of the elements that pass. -/
def Listed (passes : Json → Prop) (value : Json) (elements : List Json) : Prop :=
  value = .arr elements ∧ ∀ element ∈ elements, passes element

structure ValidRule (rule : Dict) : Prop where
  texts : ∀ key ∈ ["id","explanation"], ∃ s, Dict.get? key rule = some (.str s) ∧ blank s = false
  priority : (rule.get "priority").isInt = true
  decision : (authorization_decision (rule.get "decision")).isSome = true
  predicates : ∃ predicates, Listed (fun predicate => validate_predicate predicate = .ok ())
    (rule.get "whenAll") predicates ∧
    predicates ≠ []
  budgets : ∃ budgets, Listed (fun budget => validate_budget budget = .ok ()) (rule.getOr "budgets" (.arr [])) budgets ∧
    (budgets ≠ [] ↔ rule_decision rule = .AUTO_PROCEED_WITHIN_BUDGET) ∧
    (budgets ≠ [] → (rule.get "onBudgetExceeded").eq (.str "user_decision_required") = true)

/-- The text read by `required_string` is that of the field. -/
theorem required_string_text {value : Dict} {key s : String} :
    Authorization.required_string value key = .ok s ↔
      (∃ t, Dict.get? key value = some (.str t) ∧ blank t = false) ∧ s = text value key := by
  unfold Authorization.required_string
  rw [required_string_ok]
  constructor
  · rintro ⟨found,seen⟩; exact ⟨⟨s,found,seen⟩,(text_of_get? found).symm⟩
  · rintro ⟨⟨t,found,seen⟩,rfl⟩
    rw [text_of_get? found]
    exact ⟨found,seen⟩

theorem validate_rule_iff {seen next : List String} {rule : Json} :
    validate_rule seen rule = .ok next ↔ (∃ fields, rule = .obj fields ∧ ValidRule fields) ∧
      text (fieldsOf rule) "id" ∉ seen ∧ next = seen ++ [text (fieldsOf rule) "id"] := by
  unfold validate_rule fieldsOf
  cases shape : rule.dict? with
  | none =>
    have other : ∀ fields, rule ≠ .obj fields := no_dict shape
    simp [other]
  | some fields =>
    obtain rfl := dict?_eq_some.mp shape
    simp only [Option.getD_some,bind_ok_iff,reject_if_ok,required_string_text,Json.obj.injEq,exists_eq_left']
    constructor
    · rintro ⟨id,⟨named,rfl⟩,_,fresh,_,⟨explained,_⟩,_,integer,ran⟩
      cases decided : authorization_decision (fields.get "decision") with
      | none => simp [decided] at ran
      | some decision =>
        have decisionIs : rule_decision fields = decision := by unfold rule_decision; rw [decided]; rfl
        simp only [decided] at ran
        cases listed : (fields.get "whenAll").list? with
        | none => simp [listed] at ran
        | some predicates =>
          simp only [listed,bind_ok_iff,reject_if_ok,forM_ok_iff] at ran
          obtain ⟨_,some_predicate,_,predicatesPass,_,budgeted,_,plain,ran⟩ := ran
          cases listed' : (fields.getOr "budgets" (.arr [])).list? with
          | none => simp [listed'] at ran
          | some budgets =>
            simp only [listed',bind_ok_iff,reject_if_ok,forM_ok_iff,pure_ok_iff] at ran
            obtain ⟨_,budgetsPass,_,escalates,rfl⟩ := ran
            have budgetsAre := list?_eq_some.mp listed'
            simp only [budgetsAre,Json.truthy] at budgeted plain escalates
            refine ⟨⟨?_,by simpa using integer,by simp [decided],?_,?_⟩,by simpa using fresh,rfl⟩
            · simp [named,explained]
            · exact ⟨predicates,⟨list?_eq_some.mp listed,predicatesPass⟩,by simpa using some_predicate⟩
            · refine ⟨budgets,⟨budgetsAre,budgetsPass⟩,?_,?_⟩
              · rw [decisionIs]
                cases budgets <;> simp_all
              · intro some_budget
                simpa [some_budget] using escalates
    · rintro ⟨⟨texts,integer,decided,⟨predicates,⟨listed,predicatesPass⟩,some_predicate⟩,budgets,⟨listed',budgetsPass⟩,
        budgeted,escalates⟩,fresh,rfl⟩
      obtain ⟨decision,decided⟩ := Option.isSome_iff_exists.mp decided
      have decisionIs : rule_decision fields = decision := by unfold rule_decision; rw [decided]; rfl
      rw [decisionIs] at budgeted
      refine ⟨_,⟨texts "id" (by simp),rfl⟩,(),by simpa using fresh,_,⟨texts "explanation" (by simp),rfl⟩,(),
        by simpa using integer,?_⟩
      simp only [decided,listed,listed',Json.list?,Json.truthy,bind_ok_iff,reject_if_ok,forM_ok_iff,pure_ok_iff]
      refine ⟨(),by simpa using some_predicate,(),predicatesPass,(),?_,(),?_,(),budgetsPass,(),?_,trivial⟩
      · cases budgets <;> simp_all
      · cases budgets <;> simp_all
      · cases budgets <;> simp_all

structure ValidPolicy (policy : Dict) : Prop where
  texts : ∀ key ∈ ["id","version","title"], ∃ s, Dict.get? key policy = some (.str s) ∧ blank s = false
  scope : in_set (policy.get "scope") SCOPES = .ok true
  default : (authorization_decision (policy.get "defaultDecision")).isSome = true
  rules : ∃ rules, Listed (fun rule => ∃ fields, rule = .obj fields ∧ ValidRule fields) (policy.get "rules") rules ∧
    rules ≠ [] ∧ (rules.map (fun rule => text (fieldsOf rule) "id")).Nodup

theorem validate_rules_iff {rules : List Json} {seen : List String} :
    rules.foldlM validate_rule [] = .ok seen ↔ (∀ rule ∈ rules, ∃ fields, rule = .obj fields ∧ ValidRule fields) ∧
      (rules.map (fun rule => text (fieldsOf rule) "id")).Nodup ∧
        seen = rules.map (fun rule => text (fieldsOf rule) "id") := by
  have step : ∀ seen rule next, validate_rule seen rule = .ok next ↔ (∃ fields, rule = .obj fields ∧ ValidRule fields) ∧
      text (fieldsOf rule) "id" ∉ seen ∧ next = seen ++ [text (fieldsOf rule) "id"] := fun _ _ _ => validate_rule_iff
  exact (foldlM_distinct step List.nodup_nil).trans (by simp)

theorem validate_policy_iff {policy : Dict} {u : Unit} : validate_policy policy = .ok u ↔ ValidPolicy policy := by
  unfold validate_policy
  simp only [bind_ok_iff,reject_if_ok,required_string_text]
  constructor
  · rintro ⟨_,⟨named,_⟩,_,⟨versioned,_⟩,_,⟨titled,_⟩,known,placed,_,inside,_,decided,ran⟩
    obtain rfl : known = true := by simpa using inside
    cases listed : (policy.get "rules").list? with
    | none => simp [listed] at ran
    | some rules =>
      simp only [listed,bind_ok_iff,reject_if_ok] at ran
      obtain ⟨_,some_rule,_,looped,_⟩ := ran
      obtain ⟨each,distinct,_⟩ := (validate_rules_iff).mp looped
      refine ⟨by simp [named,versioned,titled],placed,by simpa using decided,rules,⟨list?_eq_some.mp listed,each⟩,
        by simpa using some_rule,?_⟩
      exact distinct
  · rintro ⟨texts,placed,decided,rules,⟨listed,each⟩,some_rule,distinct⟩
    refine ⟨_,⟨texts "id" (by simp),rfl⟩,_,⟨texts "version" (by simp),rfl⟩,_,⟨texts "title" (by simp),rfl⟩,true,placed,
      (),rfl,(),by simpa using decided,?_⟩
    simp only [listed,Json.list?,bind_ok_iff,reject_if_ok,pure_ok_iff]
    exact ⟨(),by simpa using some_rule,_,validate_rules_iff.mpr ⟨each,distinct,rfl⟩,trivial⟩

/-! ### Another order and other priorities -/

def ORDERED : List String := ["priority","whenAll","budgets"]

/-- A rule with another priority and with its predicates and budgets in another order. -/
structure ReorderedRule (left right : Dict) : Prop where
  fields : ∀ key ∉ ORDERED, Dict.get? key left = Dict.get? key right
  priority : (left.get "priority").isInt = (right.get "priority").isInt
  predicates : SameItems (left.get "whenAll") (right.get "whenAll")
  budgets : SameItems (left.getOr "budgets" (.arr [])) (right.getOr "budgets" (.arr []))

def ReorderedRuleItem (v w : Json) : Prop :=
  v = w ∨ ∃ left right : Dict, v = .obj left ∧ w = .obj right ∧ ReorderedRule left right

/-- A policy whose rules stand in another order, each of them reordered. -/
structure ReorderedPolicy (left right : Dict) : Prop where
  fields : ∀ key, key ≠ "rules" → Dict.get? key left = Dict.get? key right
  rules : left.get "rules" = right.get "rules" ∨ ∃ xs ys, left.get "rules" = .arr xs ∧ right.get "rules" = .arr ys ∧
    Rearranged ReorderedRuleItem xs ys

def ReorderedPolicyItem (v w : Json) : Prop :=
  v = w ∨ ∃ left right : Dict, v = .obj left ∧ w = .obj right ∧ ReorderedPolicy left right

theorem reorderedRule_symm {left right : Dict} (same : ReorderedRule left right) : ReorderedRule right left :=
  ⟨fun key other => (same.fields key other).symm,same.priority.symm,sameItems_symm same.predicates,
    sameItems_symm same.budgets⟩

theorem reorderedRuleItem_symm {v w : Json} (same : ReorderedRuleItem v w) : ReorderedRuleItem w v := by
  rcases same with rfl | ⟨left,right,leftIs,rightIs,reordered⟩
  · exact .inl rfl
  · exact .inr ⟨right,left,rightIs,leftIs,reorderedRule_symm reordered⟩

theorem reorderedPolicy_symm {left right : Dict} (same : ReorderedPolicy left right) : ReorderedPolicy right left := by
  refine ⟨fun key other => (same.fields key other).symm,?_⟩
  rcases same.rules with equal | ⟨xs,ys,leftIs,rightIs,moved⟩
  · exact .inl equal.symm
  · exact .inr ⟨ys,xs,rightIs,leftIs,rearranged_symm reorderedRuleItem_symm moved⟩

theorem reorderedPolicyItem_symm {v w : Json} (same : ReorderedPolicyItem v w) : ReorderedPolicyItem w v := by
  rcases same with rfl | ⟨left,right,leftIs,rightIs,reordered⟩
  · exact .inl rfl
  · exact .inr ⟨right,left,rightIs,leftIs,reorderedPolicy_symm reordered⟩

/-- Elements that pass still do in another order. -/
theorem listed_sameItems {passes : Json → Prop} {v w : Json} (same : SameItems v w) {elements : List Json}
    (listed : Listed passes v elements) : ∃ others, Listed passes w others ∧ elements.Perm others := by
  obtain ⟨rfl,each⟩ := listed
  obtain ⟨others,rfl,moved⟩ := sameItems_arr same
  exact ⟨others,⟨rfl,fun element member => each element (moved.mem_iff.mpr member)⟩,moved⟩

theorem perm_nil_iff {xs ys : List Json} (same : xs.Perm ys) : xs = [] ↔ ys = [] :=
  ⟨fun empty => (same.symm.trans (.of_eq empty)).eq_nil,fun empty => (same.trans (.of_eq empty)).eq_nil⟩

section
variable {left right : Dict}

theorem reorderedRule_get (same : ReorderedRule left right) {key : String} (other : key ∉ ORDERED) :
    left.get key = right.get key := by
  unfold Dict.get
  rw [same.fields key other]

theorem reorderedRule_decision (same : ReorderedRule left right) : rule_decision left = rule_decision right := by
  unfold rule_decision
  rw [reorderedRule_get same (by decide)]

theorem reorderedRule_valid (same : ReorderedRule left right) (valid : ValidRule left) : ValidRule right := by
  obtain ⟨predicates,listed,some_predicate⟩ := valid.predicates
  obtain ⟨budgets,listed',budgeted,escalates⟩ := valid.budgets
  obtain ⟨predicates',moved,perm⟩ := listed_sameItems same.predicates listed
  obtain ⟨budgets',moved',perm'⟩ := listed_sameItems same.budgets listed'
  have decided : left.get "decision" = right.get "decision" := reorderedRule_get same (by decide)
  have escalated : left.get "onBudgetExceeded" = right.get "onBudgetExceeded" := reorderedRule_get same (by decide)
  refine ⟨?_,?_,?_,⟨predicates',moved,?_⟩,budgets',moved',?_,?_⟩
  · intro key member
    rw [← same.fields key]
    · exact valid.texts key member
    · intro inside
      simp only [ORDERED,List.mem_cons,List.not_mem_nil,or_false] at member inside
      rcases member with rfl | rfl <;> simp at inside
  · rw [← same.priority]; exact valid.priority
  · rw [← decided]; exact valid.decision
  · exact fun empty => some_predicate ((perm_nil_iff perm).mpr empty)
  · rw [← reorderedRule_decision same,← budgeted,Ne,Ne,perm_nil_iff perm']
  · intro some_budget
    rw [← escalated]
    exact escalates (fun empty => some_budget ((perm_nil_iff perm').mp empty))

theorem items_listed (d : Dict) (key : String) : items d key = ((d.getOr key (.arr [])).list?).getD [] := by
  unfold items Dict.get Dict.getOr
  cases Dict.get? key d <;> rfl

theorem reorderedRule_matching (same : ReorderedRule left right) {facts : Dict} (matching : Matching facts left) :
    Matching facts right :=
  fun predicate member => matching predicate ((sameItems_elements same.predicates).mem_iff.mpr member)

theorem reorderedRule_within (same : ReorderedRule left right) {facts : Dict} (within : WithinBudget facts left) :
    WithinBudget facts right := by
  intro budget member
  refine within budget ?_
  unfold rule_budgets records at member ⊢
  rw [items_listed] at member ⊢
  exact (((sameItems_elements same.budgets).filterMap _).mem_iff).mpr member

theorem reorderedRule_contributes (same : ReorderedRule left right) {facts : Dict} {d : AuthorizationDecision}
    (contributes : Contributes facts left d) : Contributes facts right d := by
  have decided := reorderedRule_decision same
  rcases contributes with other | ⟨budgeted,within⟩ | ⟨budgeted,exceeded⟩
  · rw [decided] at other ⊢
    exact .plain other
  · exact .within (decided ▸ budgeted) (reorderedRule_within same within)
  · exact .escalated (decided ▸ budgeted) (fun within => exceeded
      (reorderedRule_within (reorderedRule_symm same) within))

end

theorem reorderedRuleItem_valid {v w : Json} (same : ReorderedRuleItem v w)
    (valid : ∃ fields, v = .obj fields ∧ ValidRule fields) : ∃ fields, w = .obj fields ∧ ValidRule fields := by
  rcases same with rfl | ⟨left,right,rfl,rfl,reordered⟩
  · exact valid
  · obtain ⟨_,shape,holds⟩ := valid
    cases shape
    exact ⟨right,rfl,reorderedRule_valid reordered holds⟩

theorem reorderedRuleItem_id {v w : Json} (same : ReorderedRuleItem v w) :
    text (fieldsOf v) "id" = text (fieldsOf w) "id" := by
  rcases same with rfl | ⟨left,right,rfl,rfl,reordered⟩
  · rfl
  · exact text_of_get (reorderedRule_get reordered (by decide))

/-- Where the items of two lists are the same or related dicts, each dict of the one has its partner in
    the other. -/
theorem rearranged_dicts {item : Json → Json → Prop} {related : Dict → Dict → Prop}
    (shape : ∀ v w, item v w → v = w ∨ ∃ left right : Dict, v = .obj left ∧ w = .obj right ∧ related left right)
    {xs ys : List Json} (moved : Rearranged item xs ys) {fields : Dict} (member : fields ∈ xs.filterMap Json.dict?) :
    ∃ other ∈ ys.filterMap Json.dict?, fields = other ∨ related fields other := by
  obtain ⟨v,inside,isDict⟩ := List.mem_filterMap.mp member
  obtain ⟨w,inside',same⟩ := rearranged_left moved v inside
  rcases shape v w same with rfl | ⟨left,right,rfl,rfl,reordered⟩
  · exact ⟨fields,List.mem_filterMap.mpr ⟨v,inside',isDict⟩,.inl rfl⟩
  · obtain rfl := Option.some.inj isDict
    exact ⟨right,List.mem_filterMap.mpr ⟨_,inside',rfl⟩,.inr reordered⟩

/-- A rule of one list has its reordering in the other. -/
theorem rearranged_rule {xs ys : List Json} (moved : Rearranged ReorderedRuleItem xs ys) {rule : Dict}
    (member : rule ∈ xs.filterMap Json.dict?) :
    ∃ other ∈ ys.filterMap Json.dict?, rule = other ∨ ReorderedRule rule other :=
  rearranged_dicts (fun _ _ same => same) moved member

section
variable {left right : Dict}

theorem reorderedPolicy_valid (same : ReorderedPolicy left right) (valid : ValidPolicy left) : ValidPolicy right := by
  have get : ∀ key, key ≠ "rules" → left.get key = right.get key := by
    intro key other
    unfold Dict.get
    rw [same.fields key other]
  refine ⟨?_,?_,?_,?_⟩
  · intro key member
    rw [← same.fields key]
    · exact valid.texts key member
    · rintro rfl
      simp at member
  · rw [← get "scope" (by decide)]; exact valid.scope
  · rw [← get "defaultDecision" (by decide)]; exact valid.default
  obtain ⟨rules,⟨listed,each⟩,some_rule,distinct⟩ := valid.rules
  rcases same.rules with equal | ⟨xs,ys,leftIs,rightIs,moved⟩
  · exact ⟨rules,⟨equal ▸ listed,each⟩,some_rule,distinct⟩
  · rw [leftIs] at listed
    cases listed
    refine ⟨ys,⟨rightIs,?_⟩,?_,?_⟩
    · intro w member
      obtain ⟨v,inside,back⟩ := rearranged_left (rearranged_symm reorderedRuleItem_symm moved) w member
      exact reorderedRuleItem_valid (reorderedRuleItem_symm back) (each v inside)
    · rintro rfl
      obtain ⟨first,rest,rfl⟩ := List.exists_cons_of_ne_nil some_rule
      obtain ⟨w,inside,_⟩ := rearranged_left moved first (by simp)
      cases inside
    · have ids := SchedulePermutations.rearranged_map (fun _ _ same => reorderedRuleItem_id same) moved
      exact ids.nodup_iff.mp distinct

/-- A rule of one policy has its reordering in the other. -/
theorem reorderedPolicy_rule (same : ReorderedPolicy left right) {rule : Dict} (member : rule ∈ policy_rules left) :
    ∃ other ∈ policy_rules right, rule = other ∨ ReorderedRule rule other := by
  unfold policy_rules records items at member ⊢
  rcases same.rules with equal | ⟨xs,ys,leftIs,rightIs,moved⟩
  · rw [← equal]; exact ⟨rule,member,.inl rfl⟩
  · rw [leftIs] at member
    rw [rightIs]
    exact rearranged_rule moved member

theorem reorderedPolicy_default (same : ReorderedPolicy left right) :
    default_decision left = default_decision right := by
  unfold default_decision Dict.get
  rw [same.fields "defaultDecision" (by decide)]

end

/-- Each policy of one list has its reordering in the other. -/
def Reordering (policies others : List Dict) : Prop :=
  ∀ policy ∈ policies, ∃ other ∈ others, policy = other ∨ ReorderedPolicy policy other

section
variable {policies others : List Dict} {facts : Dict}

/-- A matching rule and its policy have a matching rule with the same contributions. -/
theorem reordering_rule (moved : Reordering policies others) {policy rule : Dict} (member : policy ∈ policies)
    (inside : rule ∈ policy_rules policy) (matching : Matching facts rule) :
    ∃ other ∈ others, ∃ rule' ∈ policy_rules other, Matching facts rule' ∧
      ∀ d, Contributes facts rule d → Contributes facts rule' d := by
  obtain ⟨other,member',same⟩ := moved policy member
  rcases same with rfl | reordered
  · exact ⟨policy,member',rule,inside,matching,fun _ => id⟩
  · obtain ⟨rule',inside',equal⟩ := reorderedPolicy_rule reordered inside
    rcases equal with rfl | reorderedRule
    · exact ⟨other,member',rule,inside',matching,fun _ => id⟩
    · exact ⟨other,member',rule',inside',reorderedRule_matching reorderedRule matching,
        fun _ => reorderedRule_contributes reorderedRule⟩

theorem reordering_contributed (moved : Reordering policies others) :
    Contributed policies facts ⊆ Contributed others facts := by
  rintro d ⟨policy,member,rule,inside,matching,contributes⟩
  obtain ⟨other,member',rule',inside',matching',kept⟩ := reordering_rule moved member inside matching
  exact ⟨other,member',rule',inside',matching',kept d contributes⟩

theorem reordering_defaults (moved : Reordering policies others) :
    {d | ∃ policy ∈ policies, default_decision policy = d} ⊆ {d | ∃ policy ∈ others, default_decision policy = d} := by
  rintro d ⟨policy,member,rfl⟩
  obtain ⟨other,member',same⟩ := moved policy member
  refine ⟨other,member',?_⟩
  rcases same with rfl | reordered
  · rfl
  · exact (reorderedPolicy_default reordered).symm

theorem reordering_strictest (moved : Reordering policies others) (back : Reordering others policies)
    {decision : AuthorizationDecision} (strictest : Strictest policies facts decision) :
      Strictest others facts decision := by
  have contributed : Contributed policies facts = Contributed others facts :=
    Set.Subset.antisymm (reordering_contributed moved) (reordering_contributed back)
  have defaults := Set.Subset.antisymm (reordering_defaults moved) (reordering_defaults back)
  rcases strictest with ⟨some_match,greatest⟩ | ⟨no_match,greatest⟩
  · exact .inl ⟨contributed ▸ some_match,contributed ▸ greatest⟩
  · refine .inr ⟨?_,defaults ▸ greatest⟩
    intro other member rule inside matching
    obtain ⟨policy,member',rule',inside',matching',_⟩ := reordering_rule back member inside matching
    exact no_match policy member' rule' inside' matching'

end

/-! ### The decision of an evaluation -/

theorem budget_numeric {budget : Json} {fields : Dict} (shape : budget.dict? = some fields)
    (valid : validate_budget budget = .ok ()) : (numeric? (fields.get "maximum")).isSome = true := by
  unfold validate_budget at valid
  rw [shape] at valid
  obtain ⟨_,_,numeric⟩ := bind_ok_iff.mp valid
  simpa using numeric

/-- The maxima of a valid rule are numbers. -/
theorem rule_numeric {rule : Dict} (valid : ValidRule rule) :
    ∀ budget ∈ rule_budgets rule, (numeric? (budget.get "maximum")).isSome = true := by
  obtain ⟨budgets,⟨listed,each⟩,_⟩ := valid.budgets
  intro budget member
  unfold rule_budgets records at member
  rw [items_listed,listed] at member
  obtain ⟨item,inside,shape⟩ := List.mem_filterMap.mp member
  exact budget_numeric shape (each item inside)

theorem policy_rule_valid {policy rule : Dict} (valid : ValidPolicy policy) (member : rule ∈ policy_rules policy) :
    ValidRule rule := by
  obtain ⟨rules,⟨listed,each⟩,_⟩ := valid.rules
  unfold policy_rules records items at member
  rw [listed] at member
  obtain ⟨item,inside,shape⟩ := List.mem_filterMap.mp member
  obtain ⟨fields,rfl,holds⟩ := each item inside
  obtain rfl := Option.some.inj shape
  exact holds

section
variable {policies : List Dict} {facts : Dict}

theorem applicable_contributed (valid : ∀ policy ∈ policies, ValidPolicy policy) {d : AuthorizationDecision} :
    d ∈ applicable policies facts ↔ d ∈ Contributed policies facts := by
  rw [mem_applicable]
  unfold policy_matches Contributed
  refine exists_congr (fun policy => and_congr_right (fun member => ?_))
  have contributes : ∀ rule ∈ policy_rules policy, (budgeted_decision rule facts).1 = d ↔ Contributes facts rule d :=
    fun rule inside => budgeted_decision_iff (rule_numeric (policy_rule_valid (valid policy member) inside))
  simp only [List.mem_map,List.mem_filter,rule_matches_iff]
  constructor
  · rintro ⟨_,⟨rule,⟨inside,matching⟩,rfl⟩,same⟩
    exact ⟨rule,inside,matching,(contributes rule inside).mp same⟩
  · rintro ⟨rule,inside,matching,contributed⟩
    exact ⟨_,⟨rule,⟨inside,matching⟩,rfl⟩,(contributes rule inside).mpr contributed⟩

theorem governs_strictest (valid : ∀ policy ∈ policies, ValidPolicy policy) {decision : AuthorizationDecision}
    (governs : Governs policies facts decision) : Strictest policies facts decision := by
  have same : {d | d ∈ applicable policies facts} = Contributed policies facts :=
    Set.ext (fun _ => applicable_contributed valid)
  unfold Governs considered at governs
  by_cases unmatched : applicable policies facts = []
  · rw [if_pos unmatched] at governs
    refine .inr ⟨?_,by simpa using governs⟩
    intro policy member rule inside matching
    have matched : (budgeted_decision rule facts).1 ∈ applicable policies facts := by
      rw [mem_applicable]
      refine ⟨policy,member,rule_match policy rule facts,?_,rfl⟩
      exact List.mem_map_of_mem (List.mem_filter.mpr ⟨inside,rule_matches_iff.mpr matching⟩)
    rw [unmatched] at matched
    cases matched
  · rw [if_neg unmatched,same] at governs
    exact .inl ⟨⟨decision,governs.1⟩,governs⟩

/-- There is at most one strictest decision. -/
theorem strictest_unique {left right : AuthorizationDecision} (first : Strictest policies facts left)
    (second : Strictest policies facts right) : left = right := by
  rcases first with ⟨⟨d,policy,member,rule,inside,matching,_⟩,greatest⟩ | ⟨unmatched,greatest⟩ <;>
    rcases second with ⟨⟨e,policy',member',rule',inside',matching',_⟩,greatest'⟩ | ⟨unmatched',greatest'⟩
  · exact greatest.unique greatest'
  · exact absurd matching (unmatched' policy member rule inside)
  · exact absurd matching' (unmatched policy' member' rule' inside')
  · exact greatest.unique greatest'

end

/-- What every policy of a list must be for it to be evaluated. -/
def Evaluable (policies : List Json) : Prop :=
  policies ≠ [] ∧ ∀ policy ∈ policies, ∃ fields, policy = .obj fields ∧ ValidPolicy fields

theorem evaluable_loaded {policies : List Json} (evaluable : Evaluable policies) :
    policies = (policies.filterMap Json.dict?).map Json.obj ∧
      ∀ policy ∈ policies.filterMap Json.dict?, ValidPolicy policy := by
  have each := evaluable.2
  clear evaluable
  constructor
  · induction policies with
    | nil => rfl
    | cons policy rest ih =>
      obtain ⟨fields,rfl,_⟩ := each policy (by simp)
      rw [List.filterMap_cons_some (by rfl),List.map_cons,← ih (fun other member => each other (by simp [member]))]
  · intro fields member
    obtain ⟨policy,inside,shape⟩ := List.mem_filterMap.mp member
    obtain ⟨_,rfl,valid⟩ := each policy inside
    obtain rfl := Option.some.inj shape
    exact valid

/-- Exactly the lists of valid policies, not empty, are evaluated. -/
theorem evaluation_returns {policies : List Json} {facts : Dict} :
    (∃ result, evaluate_authorization policies facts = .ok result) ↔ Evaluable policies := by
  constructor
  · rintro ⟨result,run⟩
    obtain ⟨loaded,valid,some_policy,_⟩ := evaluate_authorization_ok run
    have pairs := mapM_ok_iff.mp valid
    refine ⟨?_,?_⟩
    · rintro rfl
      cases pairs
      exact some_policy rfl
    · intro policy member
      obtain ⟨fields,_,loadedIs⟩ := forall₂_left pairs policy member
      obtain ⟨rfl,passes⟩ := load_valid_ok.mp loadedIs
      exact ⟨fields,rfl,validate_policy_iff.mp passes⟩
  · intro evaluable
    obtain ⟨shape,valid⟩ := evaluable_loaded evaluable
    have some_policy : policies.filterMap Json.dict? ≠ [] := by
      intro empty
      rw [empty] at shape
      exact evaluable.1 shape
    obtain ⟨result,run,_⟩ := evaluate_valid some_policy
      (fun policy member => validate_policy_iff.mpr (valid policy member)) facts
    rw [← shape] at run
    exact ⟨result,run⟩

theorem evaluation_strictest {policies : List Json} {facts : Dict} {result : AuthorizationResult}
    (run : evaluate_authorization policies facts = .ok result) :
    Strictest (policies.filterMap Json.dict?) facts result.decision := by
  obtain ⟨shape,valid⟩ := evaluable_loaded (evaluation_returns.mp ⟨result,run⟩)
  obtain ⟨loaded,loads,some_policy,governs⟩ := evaluate_authorization_ok run
  have same : loaded = policies.filterMap Json.dict? := by
    have pairs := mapM_ok_iff.mp loads
    clear shape valid loads run governs some_policy
    induction pairs with
    | nil => rfl
    | cons first _ ih =>
      obtain ⟨rfl,_⟩ := load_valid_ok.mp first
      rw [ih]
      rfl
  exact governs_strictest valid (same ▸ governs)

theorem rearranged_evaluable {policies others : List Json} (moved : Rearranged ReorderedPolicyItem policies others)
    (evaluable : Evaluable policies) : Evaluable others := by
  obtain ⟨some_policy,each⟩ := evaluable
  refine ⟨?_,?_⟩
  · rintro rfl
    obtain ⟨first,rest,rfl⟩ := List.exists_cons_of_ne_nil some_policy
    obtain ⟨_,inside,_⟩ := rearranged_left moved first (by simp)
    cases inside
  · intro other member
    obtain ⟨policy,inside,back⟩ := rearranged_left (rearranged_symm reorderedPolicyItem_symm moved) other member
    obtain ⟨fields,rfl,valid⟩ := each policy inside
    rcases back with rfl | ⟨left,right,rfl,rightIs,reordered⟩
    · exact ⟨fields,rfl,valid⟩
    · cases rightIs
      exact ⟨left,rfl,reorderedPolicy_valid (reorderedPolicy_symm reordered) valid⟩

theorem rearranged_reordering {policies others : List Json} (moved : Rearranged ReorderedPolicyItem policies others) :
    Reordering (policies.filterMap Json.dict?) (others.filterMap Json.dict?) :=
  fun _ member => rearranged_dicts (fun _ _ same => same) moved member

/-- An evaluation returns for exactly the lists of valid policies; its decision is the strictest
    contribution of a matching rule, or the strictest default where none matches; and no order of
    the policies, rules, predicates and budgets, and no priority, changes it. -/
theorem strictest_decision (policies : List Json) (facts : Dict) :
    ((∃ result, evaluate_authorization policies facts = .ok result) ↔ Evaluable policies) ∧
    (∀ result, evaluate_authorization policies facts = .ok result →
      Strictest (policies.filterMap Json.dict?) facts result.decision) ∧
    ∀ others, Rearranged ReorderedPolicyItem policies others →
      (evaluate_authorization others facts).toOption.map AuthorizationResult.decision =
        (evaluate_authorization policies facts).toOption.map AuthorizationResult.decision := by
  refine ⟨evaluation_returns,fun _ => evaluation_strictest,?_⟩
  intro others moved
  have back := rearranged_symm reorderedPolicyItem_symm moved
  have both : Evaluable others ↔ Evaluable policies := ⟨rearranged_evaluable back,rearranged_evaluable moved⟩
  cases run : evaluate_authorization policies facts with
  | ok result =>
    have returns : ∃ other, evaluate_authorization others facts = .ok other :=
      evaluation_returns.mpr (both.mpr (evaluation_returns.mp ⟨result,run⟩))
    obtain ⟨other,ran⟩ := returns
    have same : other.decision = result.decision := strictest_unique (evaluation_strictest ran)
      (reordering_strictest (rearranged_reordering moved) (rearranged_reordering back) (evaluation_strictest run))
    rw [ran]
    simp [Except.toOption,same]
  | error _ =>
    cases ran : evaluate_authorization others facts with
    | error _ => rfl
    | ok other =>
      have returns : ∃ result, evaluate_authorization policies facts = .ok result :=
        evaluation_returns.mpr (both.mp (evaluation_returns.mp ⟨other,ran⟩))
      obtain ⟨result,returned⟩ := returns
      rw [run] at returned
      cases returned

/-- A budgeted rule of a policy, with its priority and two budgets. -/
def spending_policy (priority : Int) (budgets : List Json) : Json :=
  .obj [("id",.str "SPENDING"),("version",.str "1"),("title",.str "Spending"),("scope",.str "project"),
    ("defaultDecision",.str "blocked"),
    ("rules",.arr [.obj [("id",.str "WITHIN"),("priority",.int priority),
      ("decision",.str "auto_proceed_within_budget"),
      ("whenAll",.arr [.obj [("fact",.str "spend"),("equals",.bool true)]]),("budgets",.arr budgets),
      ("onBudgetExceeded",.str "user_decision_required"),("explanation",.str "Spend within budget.")]])]

def cost_budget : Json := .obj [("fact",.str "cost"),("maximum",.int 10)]
def token_budget : Json := .obj [("fact",.str "tokens"),("maximum",.int 100)]

example : (evaluate_authorization [spending_policy 1 [cost_budget,token_budget]]
      [("spend",.bool true),("cost",.int 10),("tokens",.int 7)]).toOption.map AuthorizationResult.decision =
    some .AUTO_PROCEED_WITHIN_BUDGET := by decide +kernel

example : (evaluate_authorization [spending_policy 9 [token_budget,cost_budget]]
      [("spend",.bool true),("cost",.int 11),("tokens",.int 7)]).toOption.map AuthorizationResult.decision =
    some .USER_DECISION_REQUIRED := by decide +kernel

end V3Aidlc.StrictestDecisions
