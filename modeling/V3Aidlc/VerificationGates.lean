import V3Aidlc.Groups
import V3Aidlc.ProjectLead

/-!
What the gate of `packages/verification` decides. It promotes exactly when nothing it
looks at speaks against it (`promotable_iff`). It does not look at whether a rule asks
for an independent evaluator (`sound_iff`), and of several results with one id it
looks at the first alone (`order_free_iff`).
-/
namespace V3Aidlc.VerificationGates
open V3Aidlc.Groups V3Aidlc.ProjectLead

/-! ### What each part adds -/

/-- The result a rule looks at. -/
def used (results : List CheckResult) (rule : GateRule) : Option CheckResult :=
  results.find? (fun result => result.checkId = rule.checkId)

def result_reasons (subjectRevision checkId : String) (result : CheckResult) : List String :=
  (if result.evidence.subjectRevision ≠ subjectRevision then [checkId ++ " evidence is stale"] else []) ++
    (if result.status = .error then [checkId ++ " could not be evaluated"] else [])

def rule_reasons (subjectRevision : String) (results : List CheckResult) (rule : GateRule) : List String :=
  match used results rule with
  | none => if rule.required then [rule.checkId ++ " has no result"] else []
  | some result => result_reasons subjectRevision rule.checkId result

def rule_evidence (results : List CheckResult) (rule : GateRule) : List String :=
  match used results rule with
  | none => []
  | some result => [result.evidence.id]

def rule_failed (results : List CheckResult) (rule : GateRule) : Bool :=
  match used results rule with
  | none => false
  | some result => result.status = .failed

def review_reasons (subjectRevision producerIndependenceGroup : String) : Option EvidenceRecord → List String
  | none => ["independent review evidence is missing"]
  | some review =>
    (if review.subjectRevision ≠ subjectRevision then ["review evidence is stale"] else []) ++
      (if review.producerIndependenceGroup = producerIndependenceGroup then ["reviewer is not independent"] else [])

def review_evidence : Option EvidenceRecord → List String
  | none => []
  | some review => [review.id]

def review_failed : Option EvidenceRecord → Bool
  | none => false
  | some review => !review.assertions.contains "approved"

theorem reason_if_append (condition : Bool) (reason : String) (reasons : List String) :
    reason_if condition reason reasons = reasons ++ if condition then [reason] else [] := by
  cases condition <;> simp [reason_if]

theorem tally_rule_eq (subjectRevision : String) (results : List CheckResult) (tally : GateTally) (rule : GateRule) :
    tally_rule subjectRevision results tally rule = {
      reasons := tally.reasons ++ rule_reasons subjectRevision results rule
      evidenceIds := tally.evidenceIds ++ rule_evidence results rule
      failed := tally.failed || rule_failed results rule } := by
  unfold tally_rule rule_reasons rule_evidence rule_failed used
  cases results.find? (fun result => result.checkId = rule.checkId) with
  | none => simp [reason_if_append]
  | some result => simp [reason_if_append,result_reasons]

theorem tally_rules_eq (subjectRevision : String) (results : List CheckResult) (rules : List GateRule)
    (tally : GateTally) :
    rules.foldl (tally_rule subjectRevision results) tally = {
      reasons := tally.reasons ++ rules.flatMap (rule_reasons subjectRevision results)
      evidenceIds := tally.evidenceIds ++ rules.flatMap (rule_evidence results)
      failed := tally.failed || rules.any (rule_failed results) } := by
  induction rules generalizing tally with
  | nil => simp
  | cons rule rest ih =>
    rw [List.foldl_cons,ih,tally_rule_eq]
    simp [Bool.or_assoc]

theorem tally_review_eq (subjectRevision producerIndependenceGroup : String) (tally : GateTally)
    (reviewEvidence : Option EvidenceRecord) :
    tally_review subjectRevision producerIndependenceGroup tally reviewEvidence = {
      reasons := tally.reasons ++ review_reasons subjectRevision producerIndependenceGroup reviewEvidence
      evidenceIds := tally.evidenceIds ++ review_evidence reviewEvidence
      failed := tally.failed || review_failed reviewEvidence } := by
  cases reviewEvidence with
  | none => simp [tally_review,review_reasons,review_evidence,review_failed]
  | some review => simp [tally_review,review_reasons,review_evidence,review_failed,reason_if_append]

section
variable (subjectRevision producerIndependenceGroup : String) (rules : List GateRule) (results : List CheckResult)
variable (reviewEvidence : Option EvidenceRecord)

def gate_reasons : List String :=
  rules.flatMap (rule_reasons subjectRevision results) ++
    review_reasons subjectRevision producerIndependenceGroup reviewEvidence

def gate_failed : Bool := rules.any (rule_failed results) || review_failed reviewEvidence

/-- The gate, as what its parts add up to. -/
theorem evaluateGate_eq :
    evaluateGate subjectRevision producerIndependenceGroup rules results reviewEvidence = {
      outcome :=
        if gate_failed rules results reviewEvidence then .failed
        else if gate_reasons subjectRevision producerIndependenceGroup rules results reviewEvidence = [] then .passed
        else .inconclusive
      promotable := !gate_failed rules results reviewEvidence &&
        (gate_reasons subjectRevision producerIndependenceGroup rules results reviewEvidence).isEmpty
      reasons := gate_reasons subjectRevision producerIndependenceGroup rules results reviewEvidence
      evidenceIds := rules.flatMap (rule_evidence results) ++ review_evidence reviewEvidence } := by
  unfold evaluateGate
  rw [tally_rules_eq,tally_review_eq]
  have failed : (({} : GateTally).failed || rules.any (rule_failed results) || review_failed reviewEvidence) =
      gate_failed rules results reviewEvidence := by simp [gate_failed]
  have reasons : ({} : GateTally).reasons ++ rules.flatMap (rule_reasons subjectRevision results) ++
      review_reasons subjectRevision producerIndependenceGroup reviewEvidence =
        gate_reasons subjectRevision producerIndependenceGroup rules results reviewEvidence := by simp [gate_reasons]
  simp only [failed,reasons]
  cases gate_failed rules results reviewEvidence with
  | true => simp
  | false =>
    cases gate_reasons subjectRevision producerIndependenceGroup rules results reviewEvidence with
    | nil => simp
    | cons reason more => simp

/-! ### What a promotable gate has seen -/

theorem result_reasons_nil {subjectRevision checkId : String} {result : CheckResult} :
    result_reasons subjectRevision checkId result = [] ↔
      result.evidence.subjectRevision = subjectRevision ∧ result.status ≠ .error := by
  unfold result_reasons
  by_cases stale : result.evidence.subjectRevision = subjectRevision <;> by_cases error : result.status = .error <;>
    simp [stale,error]

/-- What the gate looks at speaks for promotion. -/
structure Clean : Prop where
  present : ∀ rule ∈ rules, rule.required = true → ∃ result, used results rule = some result
  passed : ∀ rule ∈ rules, ∀ result, used results rule = some result →
    result.status = .passed ∧ result.evidence.subjectRevision = subjectRevision
  reviewed : ∃ review, reviewEvidence = some review ∧ review.subjectRevision = subjectRevision ∧
    "approved" ∈ review.assertions ∧ review.producerIndependenceGroup ≠ producerIndependenceGroup

theorem rule_clean {rule : GateRule} :
    rule_reasons subjectRevision results rule = [] ∧ rule_failed results rule = false ↔
      (rule.required = true → ∃ result, used results rule = some result) ∧
      ∀ result, used results rule = some result →
        result.status = .passed ∧ result.evidence.subjectRevision = subjectRevision := by
  unfold rule_reasons rule_failed
  cases used results rule with
  | none => simp
  | some result =>
    simp only [result_reasons_nil,decide_eq_false_iff_not,Option.some.injEq,exists_eq',implies_true,true_and,
      forall_eq']
    constructor
    · rintro ⟨⟨fresh,evaluated⟩,passing⟩
      refine ⟨?_,fresh⟩
      cases status : result.status with
      | passed => rfl
      | failed => exact absurd status passing
      | error => exact absurd status evaluated
    · rintro ⟨passing,fresh⟩
      exact ⟨⟨fresh,by simp [passing]⟩,by simp [passing]⟩

theorem review_clean :
    review_reasons subjectRevision producerIndependenceGroup reviewEvidence = [] ∧
      review_failed reviewEvidence = false ↔
      ∃ review, reviewEvidence = some review ∧ review.subjectRevision = subjectRevision ∧
        "approved" ∈ review.assertions ∧ review.producerIndependenceGroup ≠ producerIndependenceGroup := by
  cases reviewEvidence with
  | none => simp [review_reasons]
  | some review =>
    by_cases fresh : review.subjectRevision = subjectRevision <;>
      by_cases own : review.producerIndependenceGroup = producerIndependenceGroup <;>
        simp [review_reasons,review_failed,fresh,own]

/-- A gate promotes exactly when nothing it looks at speaks against it. -/
theorem promotable_iff :
    (evaluateGate subjectRevision producerIndependenceGroup rules results reviewEvidence).promotable = true ↔
      Clean subjectRevision producerIndependenceGroup rules results reviewEvidence := by
  have parts : (evaluateGate subjectRevision producerIndependenceGroup rules results reviewEvidence).promotable = true ↔
      (∀ rule ∈ rules, rule_reasons subjectRevision results rule = [] ∧ rule_failed results rule = false) ∧
        review_reasons subjectRevision producerIndependenceGroup reviewEvidence = [] ∧
        review_failed reviewEvidence = false := by
    rw [evaluateGate_eq]
    simp only [gate_failed,gate_reasons,Bool.and_eq_true,Bool.not_eq_true',Bool.or_eq_false_iff,List.any_eq_false,
      List.isEmpty_iff,List.append_eq_nil_iff,List.flatMap_eq_nil_iff,Bool.not_eq_true]
    constructor
    · rintro ⟨⟨passing,approved⟩,silent,reviewed⟩
      exact ⟨fun rule member => ⟨silent rule member,passing rule member⟩,reviewed,approved⟩
    · rintro ⟨each,reviewed,approved⟩
      exact ⟨⟨fun rule member => (each rule member).2,approved⟩,fun rule member => (each rule member).1,reviewed⟩
  rw [parts,review_clean]
  constructor
  · rintro ⟨each,reviewed⟩
    exact ⟨fun rule member => ((rule_clean _ _).mp (each rule member)).1,
      fun rule member => ((rule_clean _ _).mp (each rule member)).2,reviewed⟩
  · rintro ⟨present,passed,reviewed⟩
    exact ⟨fun rule member => (rule_clean _ _).mpr ⟨present rule member,passed rule member⟩,reviewed⟩

/-! ### Rules that ask for an independent evaluator -/

/-- What a promotion is meant to rest on. -/
structure Sound : Prop where
  present : ∀ rule ∈ rules, rule.required = true → ∃ result, used results rule = some result
  passed : ∀ rule ∈ rules, ∀ result, used results rule = some result →
    result.status = .passed ∧ result.evidence.subjectRevision = subjectRevision
  independent : ∀ rule ∈ rules, rule.requiresIndependentEvaluator = true → ∀ result, used results rule = some result →
    result.evidence.producerIndependenceGroup ≠ producerIndependenceGroup
  reviewed : ∃ review, reviewEvidence = some review ∧ review.subjectRevision = subjectRevision ∧
    "approved" ∈ review.assertions ∧ review.producerIndependenceGroup ≠ producerIndependenceGroup

/-- A rule that asks for an independent evaluator looks at a result of the
    producer's own group. -/
def OwnEvaluator : Prop :=
  ∃ rule ∈ rules, rule.requiresIndependentEvaluator = true ∧ ∃ result, used results rule = some result ∧
    result.evidence.producerIndependenceGroup = producerIndependenceGroup

/-- A promotable gate is sound unless a rule asks for an evaluator it did not get
    while everything else is in order. -/
theorem sound_iff :
    ((evaluateGate subjectRevision producerIndependenceGroup rules results reviewEvidence).promotable = true →
      Sound subjectRevision producerIndependenceGroup rules results reviewEvidence) ↔
    ¬ (OwnEvaluator producerIndependenceGroup rules results ∧
      Clean subjectRevision producerIndependenceGroup rules results reviewEvidence) := by
  rw [promotable_iff]
  constructor
  · rintro sound ⟨⟨rule,member,asks,result,looked,own⟩,clean⟩
    exact (sound clean).independent rule member asks result looked own
  · intro apart clean
    refine ⟨clean.present,clean.passed,?_,clean.reviewed⟩
    intro rule member asks result looked own
    exact apart ⟨⟨rule,member,asks,result,looked,own⟩,clean⟩

end

/-- A check that the builders evaluated themselves passes a rule that asks for an
    independent evaluator. -/
theorem own_evaluator_promoted :
    let rules : List GateRule := [⟨"CHECK-REVIEW",true,true⟩]
    let results : List CheckResult := [⟨"CHECK-REVIEW",.passed,⟨"EVID-1","rev-1","build-team",["Review: passed"]⟩⟩]
    let review : Option EvidenceRecord := some ⟨"EVID-2","rev-1","review-team",["approved"]⟩
    ¬ ((evaluateGate "rev-1" "build-team" rules results review).promotable = true →
      Sound "rev-1" "build-team" rules results review) := by
  intro rules results review sound
  have promoted : (evaluateGate "rev-1" "build-team" rules results review).promotable = true := by decide
  exact (sound promoted).independent ⟨"CHECK-REVIEW",true,true⟩ List.mem_cons_self rfl _ rfl rfl

/-! ### Several results with one id -/

/-- The results that a rule may look at, whichever comes first. -/
def Named (results : List CheckResult) (rule : GateRule) (result : CheckResult) : Prop :=
  result ∈ results ∧ result.checkId = rule.checkId

theorem used_named {results : List CheckResult} {rule : GateRule} {result : CheckResult}
    (looked : used results rule = some result) : Named results rule result :=
  ⟨List.mem_of_find?_eq_some looked,by simpa using List.find?_some looked⟩

theorem used_of_named {results : List CheckResult} {rule : GateRule} {result : CheckResult}
    (named : Named results rule result) : ∃ other, used results rule = some other := by
  obtain ⟨member,same⟩ := named
  have found : (used results rule).isSome = true := by
    unfold used
    rw [List.find?_isSome]
    exact ⟨result,member,by simpa using same⟩
  exact Option.isSome_iff_exists.mp found

theorem named_perm {results others : List CheckResult} (moved : results.Perm others) {rule : GateRule}
    {result : CheckResult} : Named results rule result ↔ Named others rule result := by
  unfold Named
  rw [moved.mem_iff]

/-- A result can be moved to the front: its rules then look at it, and the other rules
    at what they looked at before. -/
theorem used_front {results : List CheckResult} {result : CheckResult} (member : result ∈ results) :
    ∃ rest, results.Perm (result :: rest) ∧ ∀ rule, used (result :: rest) rule =
      if result.checkId = rule.checkId then some result else used results rule := by
  obtain ⟨before,after,rfl⟩ := List.append_of_mem member
  refine ⟨before ++ after,List.perm_middle,fun rule => ?_⟩
  unfold used
  by_cases same : result.checkId = rule.checkId
  · rw [if_pos same,List.find?_cons_of_pos (by simpa using same)]
  · rw [if_neg same,List.find?_cons_of_neg (by simpa using same),List.find?_append,List.find?_append,
      List.find?_cons_of_neg (by simpa using same)]

/-- The results with those that did not fail first. -/
def passing_first (results : List CheckResult) : List CheckResult :=
  results.filter (fun result => result.status ≠ .failed) ++ results.filter (fun result => ¬ result.status ≠ .failed)

theorem passing_first_perm (results : List CheckResult) : results.Perm (passing_first results) := by
  have moved := List.filter_append_perm (fun result : CheckResult => decide (result.status ≠ .failed)) results
  unfold passing_first
  simpa using moved.symm

/-- With those that did not fail first, a rule fails only when all its results do. -/
theorem failed_last {results : List CheckResult} {rule : GateRule}
    (failed : rule_failed (passing_first results) rule = true) :
    (∃ result, Named results rule result) ∧ ∀ result, Named results rule result → result.status = .failed := by
  unfold rule_failed at failed
  cases looked : used (passing_first results) rule with
  | none => simp [looked] at failed
  | some first =>
    simp only [looked,decide_eq_true_eq] at failed
    refine ⟨⟨first,(named_perm (passing_first_perm results)).mpr (used_named looked)⟩,?_⟩
    rintro result ⟨member,named⟩
    by_contra passing
    have front : result ∈ results.filter (fun result => result.status ≠ .failed) :=
      List.mem_filter.mpr ⟨member,by simpa using passing⟩
    obtain ⟨other,found⟩ : ∃ other, used (results.filter (fun result => result.status ≠ .failed)) rule = some other :=
      used_of_named ⟨front,named⟩
    have taken : used (passing_first results) rule = some other := by
      unfold used at found ⊢
      unfold passing_first
      rw [List.find?_append,found,Option.some_or]
    obtain rfl : first = other := Option.some.inj (looked.symm.trans taken)
    have status := (List.mem_filter.mp (used_named found).1).2
    simp [failed] at status

/-- In another order a rule looks at a result exactly when it did before. -/
theorem used_perm {results others : List CheckResult} (moved : results.Perm others) (rule : GateRule) :
    (used results rule = none ∧ used others rule = none) ∨
      ∃ a b, used results rule = some a ∧ used others rule = some b ∧ Named results rule a ∧ Named results rule b := by
  cases first : used results rule with
  | some a =>
    obtain ⟨b,second⟩ := used_of_named ((named_perm moved).mp (used_named first))
    exact .inr ⟨a,b,rfl,second,used_named first,(named_perm moved).mpr (used_named second)⟩
  | none =>
    cases second : used others rule with
    | none => exact .inl ⟨rfl,rfl⟩
    | some b =>
      obtain ⟨a,found⟩ := used_of_named ((named_perm moved).mpr (used_named second))
      rw [first] at found
      cases found

section
variable (subjectRevision producerIndependenceGroup : String) (rules : List GateRule) (results : List CheckResult)
variable (reviewEvidence : Option EvidenceRecord)

/-- No result masks another: their order does not matter, and none that speaks
    against promotion is passed over. -/
structure NoMask : Prop where
  ordered : ∀ others, results.Perm others →
    evaluateGate subjectRevision producerIndependenceGroup rules others reviewEvidence =
      evaluateGate subjectRevision producerIndependenceGroup rules results reviewEvidence
  heard : ∀ result ∈ results, (∃ rule ∈ rules, rule.checkId = result.checkId) →
    result.status = .failed ∨ result.status = .error ∨ result.evidence.subjectRevision ≠ subjectRevision →
    (evaluateGate subjectRevision producerIndependenceGroup rules results reviewEvidence).promotable = false

/-- The results with the id of one rule agree on all that the gate reads of them,
    but for failures that do not decide. -/
structure Agreeing : Prop where
  evidence : ∀ rule ∈ rules, ∀ a b, Named results rule a → Named results rule b → a.evidence.id = b.evidence.id
  revisions : ∀ rule ∈ rules, ∀ a b, Named results rule a → Named results rule b →
    (a.evidence.subjectRevision = subjectRevision ↔ b.evidence.subjectRevision = subjectRevision)
  errors : ∀ rule ∈ rules, ∀ a b, Named results rule a → Named results rule b → (a.status = .error ↔ b.status = .error)
  failures : review_failed reviewEvidence = true ∨
    (∃ rule ∈ rules, (∃ a, Named results rule a) ∧ ∀ a, Named results rule a → a.status = .failed) ∨
    ∀ rule ∈ rules, ∀ a, Named results rule a → a.status ≠ .failed

/-- In whatever order the results come, the gate is the same. -/
def OrderFree : Prop :=
  ∀ others, results.Perm others →
    evaluateGate subjectRevision producerIndependenceGroup rules others reviewEvidence =
      evaluateGate subjectRevision producerIndependenceGroup rules results reviewEvidence

variable {subjectRevision rules results reviewEvidence}

theorem result_reasons_congr {checkId : String} {a b : CheckResult}
    (revisions : a.evidence.subjectRevision = subjectRevision ↔ b.evidence.subjectRevision = subjectRevision)
    (errors : a.status = .error ↔ b.status = .error) :
    result_reasons subjectRevision checkId a = result_reasons subjectRevision checkId b := by
  simp only [result_reasons,ne_eq,revisions,errors]

/-- The reasons tell a stale result from a fresh one, and an error from a result. -/
theorem result_reasons_inj {checkId : String} {a b : CheckResult}
    (same : result_reasons subjectRevision checkId a = result_reasons subjectRevision checkId b) :
    (a.evidence.subjectRevision = subjectRevision ↔ b.evidence.subjectRevision = subjectRevision) ∧
      (a.status = .error ↔ b.status = .error) := by
  have texts : checkId ++ " evidence is stale" ≠ checkId ++ " could not be evaluated" := by
    intro equal
    have tails := congrArg String.toList equal
    rw [String.toList_append,String.toList_append] at tails
    exact absurd (List.append_cancel_left tails) (by decide)
  unfold result_reasons at same
  by_cases freshA : a.evidence.subjectRevision = subjectRevision <;>
    by_cases freshB : b.evidence.subjectRevision = subjectRevision <;>
      by_cases errorA : a.status = .error <;> by_cases errorB : b.status = .error <;>
        simp_all [texts.symm]

theorem failed_perm (agreeing : Agreeing subjectRevision rules results reviewEvidence) {others : List CheckResult}
    (moved : results.Perm others) : gate_failed rules others reviewEvidence =
      gate_failed rules results reviewEvidence := by
  unfold gate_failed
  rcases agreeing.failures with unapproved | ⟨rule,member,⟨a,named⟩,all⟩ | none
  · rw [unapproved,Bool.or_true,Bool.or_true]
  · have fails : ∀ list, results.Perm list → rules.any (rule_failed list) = true := by
      intro list moved
      obtain ⟨b,looked⟩ := used_of_named ((named_perm moved).mp named)
      refine List.any_eq_true.mpr ⟨rule,member,?_⟩
      simp [rule_failed,looked,all b ((named_perm moved).mpr (used_named looked))]
    rw [fails others moved,fails results (.refl _)]
  · have passes : ∀ list, results.Perm list → rules.any (rule_failed list) = false := by
      intro list moved
      refine List.any_eq_false.mpr (fun rule member => ?_)
      unfold rule_failed
      cases looked : used list rule with
      | none => simp
      | some b => simpa using none rule member b ((named_perm moved).mpr (used_named looked))
    rw [passes others moved,passes results (.refl _)]

theorem ordered_of_agreeing (agreeing : Agreeing subjectRevision rules results reviewEvidence) :
    OrderFree subjectRevision producerIndependenceGroup rules results reviewEvidence := by
  intro others moved
  have reasons : rules.flatMap (rule_reasons subjectRevision others) =
      rules.flatMap (rule_reasons subjectRevision results) := by
    refine List.flatMap_congr (fun rule member => ?_)
    unfold rule_reasons
    rcases used_perm moved rule with ⟨first,second⟩ | ⟨a,b,first,second,namedA,namedB⟩
    · rw [first,second]
    · rw [first,second]
      exact result_reasons_congr (agreeing.revisions rule member b a namedB namedA)
        (agreeing.errors rule member b a namedB namedA)
  have evidence : rules.flatMap (rule_evidence others) = rules.flatMap (rule_evidence results) := by
    refine List.flatMap_congr (fun rule member => ?_)
    unfold rule_evidence
    rcases used_perm moved rule with ⟨first,second⟩ | ⟨a,b,first,second,namedA,namedB⟩
    · rw [first,second]
    · rw [first,second]
      exact congrArg (fun id => [id]) (agreeing.evidence rule member b a namedB namedA)
  rw [evaluateGate_eq,evaluateGate_eq,failed_perm agreeing moved]
  unfold gate_reasons
  rw [reasons,evidence]

/-- With either of two results of one rule in front, the gate is the same. -/
theorem fronts_agree
    (ordered : OrderFree subjectRevision producerIndependenceGroup rules results reviewEvidence)
    {rule : GateRule} (member : rule ∈ rules) {a b : CheckResult} (namedA : Named results rule a)
    (namedB : Named results rule b) :
    a.evidence.id = b.evidence.id ∧ result_reasons subjectRevision rule.checkId a =
      result_reasons subjectRevision rule.checkId b := by
  obtain ⟨restA,movedA,looksA⟩ := used_front namedA.1
  obtain ⟨restB,movedB,looksB⟩ := used_front namedB.1
  have sameIds : a.checkId = b.checkId := namedA.2.trans namedB.2.symm
  have same := (ordered _ movedA).trans (ordered _ movedB).symm
  rw [evaluateGate_eq,evaluateGate_eq] at same
  constructor
  · have lists : [a.evidence.id] = [b.evidence.id] := by
      refine flatMap_swapped ?_ ⟨rule,member,?_⟩ (List.append_cancel_right (congrArg GateEvaluation.evidenceIds same))
      · intro other _
        unfold rule_evidence
        rw [looksA,looksB,sameIds]
        by_cases own : b.checkId = other.checkId
        · simp [own]
        · simp [own]
      · unfold rule_evidence
        rw [looksA,looksB,if_pos namedA.2,if_pos namedB.2]
        exact ⟨rfl,rfl⟩
    exact List.singleton_inj.mp lists
  · refine flatMap_swapped ?_ ⟨rule,member,?_⟩ (List.append_cancel_right (congrArg GateEvaluation.reasons same))
    · intro other _
      unfold rule_reasons
      rw [looksA,looksB,sameIds]
      by_cases own : b.checkId = other.checkId
      · rw [if_pos own,if_pos own,← own,namedB.2]
        exact .inr ⟨rfl,rfl⟩
      · simp [own]
    · unfold rule_reasons
      rw [looksA,looksB,if_pos namedA.2,if_pos namedB.2]
      exact ⟨rfl,rfl⟩

variable (subjectRevision) in
theorem gate_failed_outcome :
    (evaluateGate subjectRevision producerIndependenceGroup rules results reviewEvidence).outcome = .failed ↔
      gate_failed rules results reviewEvidence = true := by
  rw [evaluateGate_eq]
  cases gate_failed rules results reviewEvidence with
  | true => simp
  | false =>
    by_cases silent : gate_reasons subjectRevision producerIndependenceGroup rules results reviewEvidence = [] <;>
      simp [silent]

/-- With those that did not fail in front, a failure shows only when it decides;
    with a failure in front, it shows. -/
theorem failures_of_ordered
    (ordered : OrderFree subjectRevision producerIndependenceGroup rules results reviewEvidence) :
    review_failed reviewEvidence = true ∨
      (∃ rule ∈ rules, (∃ a, Named results rule a) ∧ ∀ a, Named results rule a → a.status = .failed) ∨
      ∀ rule ∈ rules, ∀ a, Named results rule a → a.status ≠ .failed := by
  have flags : ∀ others, results.Perm others →
      (gate_failed rules others reviewEvidence = true ↔ gate_failed rules results reviewEvidence = true) := by
    intro others moved
    rw [← gate_failed_outcome subjectRevision producerIndependenceGroup,ordered others moved]
    exact gate_failed_outcome subjectRevision producerIndependenceGroup
  by_cases shown : gate_failed rules (passing_first results) reviewEvidence = true
  · rcases Bool.or_eq_true_iff.mp shown with failed | unapproved
    · obtain ⟨rule,member,failed⟩ := List.any_eq_true.mp failed
      exact .inr (.inl ⟨rule,member,failed_last failed⟩)
    · exact .inl unapproved
  · refine .inr (.inr (fun rule member a named failed => ?_))
    obtain ⟨rest,moved,looks⟩ := used_front named.1
    have fails : rule_failed (a :: rest) rule = true := by
      unfold rule_failed
      rw [looks,if_pos named.2]
      simp [failed]
    have front : gate_failed rules (a :: rest) reviewEvidence = true :=
      Bool.or_eq_true_iff.mpr (.inl (List.any_eq_true.mpr ⟨rule,member,fails⟩))
    exact shown ((flags _ (passing_first_perm results)).mpr ((flags _ moved).mp front))

theorem agreeing_of_ordered
    (ordered : OrderFree subjectRevision producerIndependenceGroup rules results reviewEvidence) :
    Agreeing subjectRevision rules results reviewEvidence where
  evidence _ member _ _ namedA namedB := (fronts_agree producerIndependenceGroup ordered member namedA namedB).1
  revisions _ member _ _ namedA namedB :=
    (result_reasons_inj (fronts_agree producerIndependenceGroup ordered member namedA namedB).2).1
  errors _ member _ _ namedA namedB :=
    (result_reasons_inj (fronts_agree producerIndependenceGroup ordered member namedA namedB).2).2
  failures := failures_of_ordered producerIndependenceGroup ordered

/-- Where the order does not matter, a result that speaks against promotion is
    heard: the gate is the one with this result in front. -/
theorem heard_of_ordered
    (ordered : OrderFree subjectRevision producerIndependenceGroup rules results reviewEvidence)
    {result : CheckResult} (member : result ∈ results) {rule : GateRule} (ruled : rule ∈ rules)
    (named : rule.checkId = result.checkId)
    (against : result.status = .failed ∨ result.status = .error ∨ result.evidence.subjectRevision ≠ subjectRevision) :
    (evaluateGate subjectRevision producerIndependenceGroup rules results reviewEvidence).promotable = false := by
  obtain ⟨rest,moved,looks⟩ := used_front member
  rw [← ordered _ moved,← Bool.not_eq_true,promotable_iff]
  intro clean
  obtain ⟨passed,fresh⟩ := clean.passed rule ruled result ((looks rule).trans (if_pos named.symm))
  rcases against with failed | error | stale
  · rw [passed] at failed
    cases failed
  · rw [passed] at error
    cases error
  · exact stale fresh

/-- No result masks another exactly when those with the id of one rule agree. -/
theorem order_free_iff :
    NoMask subjectRevision producerIndependenceGroup rules results reviewEvidence ↔
      Agreeing subjectRevision rules results reviewEvidence := by
  constructor
  · exact fun unmasked => agreeing_of_ordered producerIndependenceGroup unmasked.ordered
  · intro agreeing
    have ordered := ordered_of_agreeing producerIndependenceGroup agreeing
    exact ⟨ordered,fun result member ⟨rule,ruled,named⟩ against =>
      heard_of_ordered producerIndependenceGroup ordered member ruled named against⟩

end

end V3Aidlc.VerificationGates
