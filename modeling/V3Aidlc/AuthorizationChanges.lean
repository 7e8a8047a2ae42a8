import V3Aidlc.Authorization

/-!
How a decision moves when its input does. A further policy widens the set of
decisions of which the strictest is taken, as long as that set is of the same
kind before and after: decisions of matching rules, or defaults. Facts that are
taken away disarm the rules that read them and leave every other rule as it was.
-/
namespace V3Aidlc.AuthorizationChanges
open V3Aidlc.Values V3Aidlc.Loops V3Aidlc.Contracts V3Aidlc.Authorization

/-- Valid policies, at least one, have a result that governs them. -/
theorem evaluate_valid {policies : List Dict} (some_policy : policies ≠ [])
    (valid : ∀ policy ∈ policies, validate_policy policy = .ok ()) (facts : Dict) :
    ∃ result, evaluate_authorization (policies.map .obj) facts = .ok result ∧
      Governs policies facts result.decision ∧
      result.matched = policies.flatMap (fun policy => policy_matches policy facts) := by
  have loaded : (policies.map Json.obj).mapM load_valid = .ok policies := by
    rw [mapM_ok_iff]
    clear some_policy
    induction policies with
    | nil => exact .nil
    | cons policy rest ih =>
      refine .cons (load_valid_ok.mpr ⟨rfl,valid policy (by simp)⟩) (ih ?_)
      intro other member
      exact valid other (by simp [member])
  exact evaluate_authorization_spec loaded some_policy facts

/-! ### Adding a policy -/

theorem mem_applicable {policies : List Dict} {facts : Dict} {d : AuthorizationDecision} :
    d ∈ applicable policies facts ↔
      ∃ policy ∈ policies, ∃ m ∈ policy_matches policy facts, m.decision = d := by
  unfold applicable
  simp only [List.mem_map,List.mem_flatMap]
  constructor
  · rintro ⟨m,⟨policy,listed,found⟩,rfl⟩; exact ⟨policy,listed,m,found,rfl⟩
  · rintro ⟨policy,listed,m,found,rfl⟩; exact ⟨m,⟨policy,listed,found⟩,rfl⟩

theorem applicable_subset {policies more : List Dict} (within : policies ⊆ more) (facts : Dict) :
    applicable policies facts ⊆ applicable more facts := by
  intro d listed
  obtain ⟨policy,member,m,found,same⟩ := mem_applicable.mp listed
  exact mem_applicable.mpr ⟨policy,within member,m,found,same⟩

/-- A larger set of policies is at least as strict, unless rules match only once
    it is larger. -/
theorem governs_mono {policies more : List Dict} {facts : Dict} {before after : AuthorizationDecision}
    (within : policies ⊆ more) (same_kind : applicable policies facts = [] → applicable more facts = [])
    (governsBefore : Governs policies facts before) (governsAfter : Governs more facts after) :
    before ≤ after := by
  refine IsGreatest.mono governsBefore governsAfter ?_
  unfold considered
  by_cases unmatched : applicable policies facts = []
  · rw [if_pos unmatched,if_pos (same_kind unmatched)]
    intro d listed
    obtain ⟨policy,member,same⟩ := List.mem_map.mp listed
    exact List.mem_map.mpr ⟨policy,within member,same⟩
  · have matched : applicable more facts ≠ [] := by
      intro none
      exact unmatched (List.subset_nil.mp (none ▸ applicable_subset within facts))
    rw [if_neg unmatched,if_neg matched]
    exact applicable_subset within facts

/-- With a policy added anywhere, the decision is at least as strict as before
    when a rule matched already or none of the new rules matches. When the first
    match comes with the new policy the defaults are out, and its strictest
    matching rule decides. -/
theorem adding_policy {left right : List Dict} {added : Dict} (some_policy : left ++ right ≠ [])
    (valid : ∀ policy ∈ left ++ added :: right, validate_policy policy = .ok ()) (facts : Dict) :
    ∃ before after, evaluate_authorization ((left ++ right).map .obj) facts = .ok before ∧
      evaluate_authorization ((left ++ added :: right).map .obj) facts = .ok after ∧
      (before.matched ≠ [] ∨ policy_matches added facts = [] → before.decision ≤ after.decision) ∧
      (before.matched = [] → policy_matches added facts ≠ [] →
        IsGreatest {d | d ∈ (policy_matches added facts).map RuleMatch.decision} after.decision) := by
  have within : left ++ right ⊆ left ++ added :: right := by
    intro policy member
    rcases List.mem_append.mp member with early | late
    · exact List.mem_append_left _ early
    · exact List.mem_append_right _ (List.mem_cons_of_mem _ late)
  obtain ⟨before,evaluatedBefore,governsBefore,matchedBefore⟩ :=
    evaluate_valid some_policy (fun policy member => valid policy (within member)) facts
  have wider : left ++ added :: right ≠ [] := by simp
  obtain ⟨after,evaluatedAfter,governsAfter,_⟩ := evaluate_valid wider valid facts
  have unmatched_iff : before.matched = [] ↔ applicable (left ++ right) facts = [] := by
    rw [matchedBefore]
    unfold applicable
    rw [List.map_eq_nil_iff]
  refine ⟨before,after,evaluatedBefore,evaluatedAfter,?_,?_⟩
  · intro reason
    refine governs_mono within ?_ governsBefore governsAfter
    intro unmatched
    rcases reason with matched | silent
    · exact absurd (unmatched_iff.mpr unmatched) matched
    · -- Neither the earlier policies nor the new one contribute a match.
      rw [← unmatched]
      unfold applicable
      simp [List.flatMap_append,silent]
  · intro unmatched speaks
    have others : (left ++ right).flatMap (fun policy => policy_matches policy facts) = [] := by
      rw [← matchedBefore]; exact unmatched
    have only : applicable (left ++ added :: right) facts = (policy_matches added facts).map RuleMatch.decision := by
      rw [List.flatMap_append,List.append_eq_nil_iff] at others
      unfold applicable
      simp [List.flatMap_append,others.1,others.2]
    have governs := governsAfter
    unfold Governs considered at governs
    rw [only,if_neg (by simpa using speaks)] at governs
    exact governs

/-- A policy with one rule on one fact. -/
def single_rule_policy (id default_decision fact : String) (expected : Json) (decision : String) : Dict :=
  [("id",.str id),("version",.str "1"),("title",.str "Policy"),("scope",.str "project"),
    ("defaultDecision",.str default_decision),
    ("rules",.arr [.obj [("id",.str "RULE"),("priority",.int 1),("decision",.str decision),
      ("whenAll",.arr [.obj [("fact",.str fact),("equals",expected)]]),("explanation",.str "Rule.")]])]

def frozen_policy : Dict := single_rule_policy "FROZEN" "blocked" "release" (.bool true) "blocked"
def document_policy : Dict := single_rule_policy "DOCUMENT" "blocked" "actionType" (.str "document") "auto_proceed"
def document_facts : Dict := [("actionType",.str "document")]

theorem adding_policy_document :
    ∃ before after, evaluate_authorization (([] ++ [frozen_policy]).map .obj) document_facts = .ok before ∧
      evaluate_authorization (([] ++ document_policy :: [frozen_policy]).map .obj) document_facts = .ok after ∧
      (before.matched ≠ [] ∨ policy_matches document_policy document_facts = [] → before.decision ≤ after.decision) ∧
      (before.matched = [] → policy_matches document_policy document_facts ≠ [] →
        IsGreatest {d | d ∈ (policy_matches document_policy document_facts).map RuleMatch.decision} after.decision) :=
  adding_policy (by simp) (by decide +kernel) document_facts

/-- A first match sets the stricter default aside. -/
theorem adding_policy_relaxes :
    (evaluate_authorization [.obj frozen_policy] document_facts).map AuthorizationResult.decision = .ok .BLOCKED ∧
    (evaluate_authorization [.obj frozen_policy,.obj document_policy] document_facts).map
      AuthorizationResult.decision = .ok .AUTO_PROCEED ∧
    AuthorizationDecision.AUTO_PROCEED < .BLOCKED := by
  decide +kernel

end V3Aidlc.AuthorizationChanges
