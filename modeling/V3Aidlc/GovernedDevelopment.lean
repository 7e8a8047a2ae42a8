import V3Aidlc.AuthorizationChanges

/-!
The governed-development policy (`policies/governed-development.json`) and what
it decides when facts are taken away. A condition on a missing fact does not
match, so a missing fact makes no rule speak; it can silence one. After a removal
the policy proceeds exactly when a permitting rule lost none of its facts and
every rule that still speaks permits.
-/
namespace V3Aidlc.GovernedDevelopment
open V3Aidlc.Values V3Aidlc.Loops V3Aidlc.Contracts V3Aidlc.Authorization V3Aidlc.AuthorizationChanges

/-! ### The policy -/

def equals (fact : String) (expected : Json) : Json := .obj [("fact",.str fact),("equals",expected)]
def one_of (fact : String) (members : List String) : Json :=
  .obj [("fact",.str fact),("in",.arr (members.map .str))]
def budget (fact : String) (maximum : Int) : Json := .obj [("fact",.str fact),("maximum",.int maximum)]

def rule (id : String) (priority : Int) (decision : String) (whenAll : List Json) (explanation : String) : Json :=
  .obj [("id",.str id),("priority",.int priority),("decision",.str decision),("whenAll",.arr whenAll),
    ("explanation",.str explanation)]

def budgeted_rule (id : String) (priority : Int) (decision : String) (whenAll budgets : List Json)
    (onBudgetExceeded explanation : String) : Json :=
  .obj [("id",.str id),("priority",.int priority),("decision",.str decision),("whenAll",.arr whenAll),
    ("budgets",.arr budgets),("onBudgetExceeded",.str onBudgetExceeded),("explanation",.str explanation)]

def governed_development : Dict :=
  [("schemaVersion",.str "0.1"),("id",.str "POL-GOVERNED-DEVELOPMENT"),("version",.str "0.1.0"),
    ("title",.str "Governed development baseline"),("scope",.str "organization"),
    ("defaultDecision",.str "user_decision_required"),("rules",.arr [
    rule "RULE-BLOCK-HARD-CONTROL-WAIVER" 1000 "blocked"
        [equals "waivesHardControl" (.bool true)]
        "A mandatory control cannot be silently waived.",
    rule "RULE-BLOCK-MISSING-PERMISSION" 990 "blocked"
        [equals "hasRequiredPermission" (.bool false)]
        "The required permission or capability is unavailable.",
    rule "RULE-ASK-IRREVERSIBLE-EXTERNAL" 900 "user_decision_required"
        [equals "impact" (.str "external_irreversible")]
        "The action has an external effect that cannot be readily undone.",
    rule "RULE-ASK-MATERIAL-PRODUCT-CHANGE" 890 "user_decision_required"
        [equals "changesProductIntent" (.bool true)]
        "The action would materially change what the product is meant to do.",
    rule "RULE-ASK-SCOPE-EXPANSION" 880 "user_decision_required"
        [equals "scopeChange" (.str "expand")]
        "The proposed work expands the approved scope.",
    rule "RULE-ASK-RISK-ACCEPTANCE" 870 "user_decision_required"
        [equals "acceptsResidualRisk" (.bool true)]
        "Accepting unresolved risk requires accountable human authority.",
    rule "RULE-ASK-PRODUCTION-CREDENTIALS" 860 "user_decision_required"
        [equals "targetEnvironment" (.str "production"),
          equals "usesCredentials" (.bool true),
          equals "standingDelegation" (.bool false)]
        "Production credential use has not been covered by a standing delegation.",
    rule "RULE-ASK-PRODUCTION-PROMOTION" 850 "user_decision_required"
        [equals "actionType" (.str "promote"),
          equals "targetEnvironment" (.str "production"),
          equals "standingDelegation" (.bool false)]
        "Production promotion requires the user unless it was explicitly delegated.",
    rule "RULE-RECORD-DELEGATED-PRODUCTION-PROMOTION" 600 "auto_proceed_and_record"
        [equals "actionType" (.str "promote"),
          equals "targetEnvironment" (.str "production"),
          equals "standingDelegation" (.bool true),
          equals "requiredGatesPassed" (.bool true),
          equals "hasRequiredPermission" (.bool true)]
        "A recorded standing delegation permits production promotion after its required gates pass.",
    rule "RULE-RECORD-DELEGATED-PRODUCTION-CREDENTIALS" 590 "auto_proceed_and_record"
        [one_of "actionType" ["implement","test","operate","collect_evidence"],
          equals "targetEnvironment" (.str "production"),
          equals "usesCredentials" (.bool true),
          equals "standingDelegation" (.bool true),
          equals "hasRequiredPermission" (.bool true)]
        "Delegated production credential use must be recorded against the standing authority.",
    budgeted_rule "RULE-BUDGETED-REPAIR" 500 "auto_proceed_within_budget"
        [equals "actionType" (.str "repair"),
          one_of "impact" ["none","local_reversible","shared_reversible"],
          equals "hasRequiredPermission" (.bool true)]
        [budget "repairAttempt" 2,budget "costUnits" 10] "user_decision_required"
        "A reversible repair may proceed while its attempt and cost limits remain available.",
    rule "RULE-RECORD-REPLAN" 400 "auto_proceed_and_record"
        [equals "actionType" (.str "replan"),
          one_of "scopeChange" ["none","narrow"],
          equals "hasRequiredPermission" (.bool true)]
        "The Project Lead may revise the approach without expanding the approved outcome.",
    rule "RULE-RECORD-ROUTE-TAILORING" 390 "auto_proceed_and_record"
        [equals "actionType" (.str "tailor_route"),
          equals "tailoringPermitted" (.bool true),
          one_of "scopeChange" ["none","narrow"],
          equals "hasRequiredPermission" (.bool true)]
        "Permitted route tailoring may proceed when the reason and resulting route are recorded.",
    rule "RULE-AUTO-ROUTINE-LOCAL-WORK" 100 "auto_proceed"
        [one_of "actionType" ["implement","test","document","collect_evidence","analyze"],
          one_of "impact" ["none","local_reversible"],
          one_of "scopeChange" ["none","narrow"],
          equals "hasRequiredPermission" (.bool true)]
        "Routine reversible work is within the Project Lead's standing authority."])]

theorem governed_development_valid : validate_policy governed_development = .ok () := by
  decide +kernel

theorem governed_default : (default_decision governed_development).isAuto = false := by
  decide +kernel

/-! ### A single policy -/

/-- The decision of a matching rule, budgets included, proceeds. -/
def permits (rule facts : Dict) : Bool := (budgeted_decision rule facts).1.isAuto

theorem mem_policy_matches {policy facts : Dict} {d : AuthorizationDecision} :
    d ∈ (policy_matches policy facts).map RuleMatch.decision ↔
      ∃ rule ∈ policy_rules policy, rule_matches rule facts = true ∧ (budgeted_decision rule facts).1 = d := by
  unfold policy_matches
  simp only [List.mem_map,List.mem_filter]
  constructor
  · rintro ⟨_,⟨rule,⟨listed,matched⟩,rfl⟩,rfl⟩; exact ⟨rule,listed,matched,rfl⟩
  · rintro ⟨rule,listed,matched,rfl⟩; exact ⟨_,⟨rule,⟨listed,matched⟩,rfl⟩,rfl⟩

/-- Below a default that asks or blocks, one policy proceeds exactly when a rule
    matches and every rule that matches permits. -/
theorem governs_auto_iff {policy facts : Dict} {d : AuthorizationDecision}
    (restrictive : (default_decision policy).isAuto = false) (governs : Governs [policy] facts d) :
    d.isAuto = true ↔ (∃ rule ∈ policy_rules policy, rule_matches rule facts = true ∧ permits rule facts = true) ∧
      ∀ rule ∈ policy_rules policy, rule_matches rule facts = true → permits rule facts = true := by
  have only : applicable [policy] facts = (policy_matches policy facts).map RuleMatch.decision := by
    simp [applicable]
  unfold Governs considered at governs
  rw [only] at governs
  by_cases silent : (policy_matches policy facts).map RuleMatch.decision = []
  · rw [if_pos silent] at governs
    have defaulted : d = default_decision policy := by simpa using governs.1
    have unmatched : ∀ rule ∈ policy_rules policy, rule_matches rule facts ≠ true := by
      intro rule listed matched
      have found := mem_policy_matches.mpr ⟨rule,listed,matched,rfl⟩
      rw [silent] at found
      cases found
    rw [defaulted,restrictive]
    constructor
    · intro impossible; cases impossible
    · rintro ⟨⟨rule,listed,matched,_⟩,_⟩; exact absurd matched (unmatched rule listed)
  · rw [if_neg silent] at governs
    obtain ⟨member,greatest⟩ := governs
    obtain ⟨rule,listed,matched,decides⟩ := mem_policy_matches.mp member
    constructor
    · intro auto
      have all : ∀ rule ∈ policy_rules policy, rule_matches rule facts = true → permits rule facts = true := by
        intro other otherListed otherMatched
        have below := greatest (mem_policy_matches.mpr ⟨other,otherListed,otherMatched,rfl⟩)
        exact isAuto_iff.mpr (below.trans (isAuto_iff.mp auto))
      exact ⟨⟨rule,listed,matched,all rule listed matched⟩,all⟩
    · rintro ⟨_,all⟩
      rw [← decides]
      exact all rule listed matched

/-! ### Removing facts -/

def condition_facts (rule : Dict) : List String := (records rule "whenAll").map (fun predicate => text predicate "fact")
/-- The facts a budgeted rule measures. -/
def budget_facts (rule : Dict) : List String :=
  if rule_decision rule = .AUTO_PROCEED_WITHIN_BUDGET then (rule_budgets rule).map (fun budget => text budget "fact")
  else []

theorem predicate_matches_without (predicate facts : Dict) (removed : List String) :
    predicate_matches predicate (facts.without removed) = true ↔
      predicate_matches predicate facts = true ∧ text predicate "fact" ∉ removed := by
  unfold predicate_matches text
  cases named : predicate.get "fact" with
  | str fact =>
    simp only [get?_without,Json.str?,Option.getD_some]
    by_cases gone : fact ∈ removed
    · simp [gone]
    · simp [gone]
  | _ => simp

theorem rule_matches_without (rule facts : Dict) (removed : List String) :
    rule_matches rule (facts.without removed) = true ↔
      rule_matches rule facts = true ∧ ∀ fact ∈ condition_facts rule, fact ∉ removed := by
  unfold rule_matches all_match condition_facts records
  induction items rule "whenAll" with
  | nil => simp
  | cons condition rest ih =>
    cases fields : condition.dict? with
    | none => simp [fields]
    | some predicate =>
      simp only [List.all_cons,Bool.and_eq_true,fields,predicate_matches_without,ih,List.filterMap_cons_some fields,
        List.map_cons,List.forall_mem_cons]
      tauto

theorem evaluate_budget_without (budgets : List Dict) (facts : Dict) (removed : List String) (statuses : List String) :
    (evaluate_budget budgets (facts.without removed) statuses).1 = true ↔
      (evaluate_budget budgets facts statuses).1 = true ∧ ∀ budget ∈ budgets, text budget "fact" ∉ removed := by
  induction budgets generalizing statuses with
  | nil => simp [evaluate_budget]
  | cons budget rest ih =>
    unfold evaluate_budget
    simp only [get?_without,List.forall_mem_cons]
    by_cases gone : text budget "fact" ∈ removed
    · simp [gone]
    · simp only [gone,↓reduceIte,not_false_eq_true,true_and]
      cases Dict.get? (text budget "fact") facts with
      | none => simp
      | some actual =>
        cases amount : numeric? actual with
        | none => simp [amount]
        | some amount' =>
          simp only [amount]
          split
          · simp
          · exact ih _

theorem permits_without (rule facts : Dict) (removed : List String) :
    permits rule (facts.without removed) = true ↔
      permits rule facts = true ∧ ∀ fact ∈ budget_facts rule, fact ∉ removed := by
  unfold permits budgeted_decision budget_facts
  by_cases budgeted : rule_decision rule = .AUTO_PROCEED_WITHIN_BUDGET
  · have escalates : ∀ status : Bool × String,
        (if status.1 then AuthorizationDecision.AUTO_PROCEED_WITHIN_BUDGET else .USER_DECISION_REQUIRED).isAuto = true ↔
          status.1 = true := by
      intro status
      cases status.1 <;> decide
    rw [if_pos budgeted,if_pos budgeted,if_pos budgeted]
    simp only [List.forall_mem_map]
    rw [escalates,escalates]
    exact evaluate_budget_without _ _ _ _
  · rw [if_neg budgeted,if_neg budgeted,if_neg budgeted]
    simp

/-- After a removal the policy proceeds exactly when a rule that matched and
    permitted lost none of the facts it reads, and every matching rule that lost
    no condition permits and lost no budget fact. So no removal relaxes a
    decision unless each matching rule that asks or blocks reads a removed fact. -/
theorem governed_development_removal (facts : Dict) (removed : List String) :
    ∃ before after, evaluate_authorization [.obj governed_development] facts = .ok before ∧
      evaluate_authorization [.obj governed_development] (facts.without removed) = .ok after ∧
      (before.decision.isAuto = false → after.decision.isAuto = true →
        ∃ rule ∈ policy_rules governed_development, rule_matches rule facts = true ∧ permits rule facts = false) ∧
      (after.decision.isAuto = true ↔
        (∃ rule ∈ policy_rules governed_development, rule_matches rule facts = true ∧ permits rule facts = true ∧
          ∀ fact ∈ condition_facts rule ++ budget_facts rule, fact ∉ removed) ∧
        ∀ rule ∈ policy_rules governed_development, rule_matches rule facts = true →
          (∃ fact ∈ condition_facts rule, fact ∈ removed) ∨
          permits rule facts = true ∧ ∀ fact ∈ budget_facts rule, fact ∉ removed) := by
  have valid : ∀ policy ∈ [governed_development], validate_policy policy = .ok () := by
    simpa using governed_development_valid
  obtain ⟨before,evaluatedBefore,governsBefore,_⟩ := evaluate_valid (by simp) valid facts
  obtain ⟨after,evaluatedAfter,governsAfter,_⟩ := evaluate_valid (by simp) valid (facts.without removed)
  have beforeIff := governs_auto_iff governed_default governsBefore
  have afterIff := governs_auto_iff governed_default governsAfter
  simp only [rule_matches_without,permits_without] at afterIff
  refine ⟨before,after,evaluatedBefore,evaluatedAfter,?_,?_⟩
  · intro restrictive auto
    obtain ⟨⟨rule,listed,⟨matched,_⟩,permitted,_⟩,_⟩ := afterIff.mp auto
    by_contra unanimous
    have proceeds : before.decision.isAuto = true := by
      refine beforeIff.mpr ⟨⟨rule,listed,matched,permitted⟩,?_⟩
      intro other otherListed otherMatched
      by_contra refused
      exact unanimous ⟨other,otherListed,otherMatched,by simpa using refused⟩
    rw [restrictive] at proceeds
    cases proceeds
  · rw [afterIff]
    constructor
    · rintro ⟨⟨rule,listed,⟨matched,conditions⟩,permitted,budgets⟩,all⟩
      refine ⟨⟨rule,listed,matched,permitted,?_⟩,?_⟩
      · intro fact member
        rcases List.mem_append.mp member with inConditions | inBudgets
        · exact conditions fact inConditions
        · exact budgets fact inBudgets
      · intro other otherListed otherMatched
        by_cases lost : ∃ fact ∈ condition_facts other, fact ∈ removed
        · exact .inl lost
        · exact .inr (all other otherListed ⟨otherMatched,fun fact member gone => lost ⟨fact,member,gone⟩⟩)
    · rintro ⟨⟨rule,listed,matched,permitted,kept⟩,all⟩
      refine ⟨⟨rule,listed,⟨matched,fun fact member => kept fact (List.mem_append_left _ member)⟩,permitted,
        fun fact member => kept fact (List.mem_append_right _ member)⟩,?_⟩
      rintro other otherListed ⟨otherMatched,conditions⟩
      rcases all other otherListed otherMatched with ⟨fact,member,gone⟩ | both
      · exact absurd gone (conditions fact member)
      · exact both

def waiver_facts : Dict :=
  [("actionType",.str "implement"),("impact",.str "none"),("scopeChange",.str "none"),
    ("hasRequiredPermission",.bool true),("waivesHardControl",.bool true)]

/-- Leaving out the fact of a hard-control waiver turns `blocked` into
    `auto_proceed`. -/
theorem waiver_omitted :
    (evaluate_authorization [.obj governed_development] waiver_facts).map AuthorizationResult.decision = .ok .BLOCKED ∧
    (evaluate_authorization [.obj governed_development] (waiver_facts.without ["waivesHardControl"])).map
      AuthorizationResult.decision = .ok .AUTO_PROCEED := by
  have loaded : [Json.obj governed_development].mapM load_valid = .ok [governed_development] := by
    rw [List.mapM_cons,load_valid_ok.mpr ⟨rfl,governed_development_valid⟩]
    rfl
  unfold evaluate_authorization
  simp only [loaded,ok_bind]
  decide +kernel

end V3Aidlc.GovernedDevelopment
