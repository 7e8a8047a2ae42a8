import V3Aidlc.Evaluations
import Mathlib.Algebra.BigOperators.Ring.List
import Mathlib.Algebra.Order.BigOperators.Group.List

/-!
What an evaluation that returned says of the rubric. Where no two dimensions share an id, each
score belongs to one dimension and the weighted score is their average whatever the order
(`sound_evaluation_iff`); where two do, a score may be counted twice and another one not be checked.
-/
namespace V3Aidlc.RubricScores
open V3Aidlc.Groups V3Aidlc.Evaluations

/-- Each dimension has one score under its id, and each score one dimension. -/
structure Corresponds (scores : List DimensionScore) (rubric : List RubricDimension) : Prop where
  dimension : ∀ dimension ∈ rubric, scores.countP (fun score => score.dimensionId = dimension.id) = 1
  score : ∀ score ∈ scores, rubric.countP (fun dimension => dimension.id = score.dimensionId) = 1

/-- The average of the scores, weighted by the dimensions they are paired with. -/
def weighted_average (pairs : List (RubricDimension × DimensionScore)) : ℚ :=
  (pairs.map (fun pair => pair.2.score * pair.1.weight)).sum / (pairs.map (fun pair => pair.1.weight)).sum

/-- The weighted score is the average over a pairing of all dimensions with all scores by id. -/
def Averages (scores : List DimensionScore) (rubric : List RubricDimension) (weightedScore : ℚ) : Prop :=
  ∃ pairs : List (RubricDimension × DimensionScore), (pairs.map Prod.fst).Perm rubric ∧
    (pairs.map Prod.snd).Perm scores ∧
    (∀ pair ∈ pairs, pair.2.dimensionId = pair.1.id) ∧ weightedScore = weighted_average pairs

-- the texts that `JSON.stringify` makes of a number and of a score
variable (numeral : ℚ → String) (score_text : DimensionScore → String)

/-- The input with another rubric, on which the scorer returns these scores. -/
def rearranged (input : EvaluationInput) (rubric : List RubricDimension) (scores : List DimensionScore) :
    EvaluationInput :=
  { input with rubric := rubric, scorer := { input.scorer with score := fun _ _ _ => .ok scores } }

structure SoundEvaluation (input : EvaluationInput) (result : EvaluationResult) : Prop where
  corresponds : Corresponds result.scores input.rubric
  bounded : ∀ score ∈ result.scores, 0 ≤ score.score ∧ score.score ≤ 1 ∧ score.evidenceIds ≠ []
  averages : Averages result.scores input.rubric result.weightedScore
  least : ∃ score ∈ result.scores, score.score ≤ result.weightedScore
  greatest : ∃ score ∈ result.scores, result.weightedScore ≤ score.score
  passed : result.passed = true ↔
    (∀ dimension ∈ input.rubric, ∀ score ∈ result.scores, score.dimensionId = dimension.id →
      dimension.minimumScore ≤ score.score) ∧
    ∀ requirement ∈ input.testCase.hardRequirements, requirement ∈ input.candidate.assertions
  permuted : ∀ rubric scores, input.rubric.Perm rubric → result.scores.Perm scores →
    ∃ other, evaluateCandidate numeral score_text (rearranged input rubric scores) = .ok other ∧
      other.weightedScore = result.weightedScore ∧ other.passed = result.passed

/-! ### Averages -/

theorem average_between {pairs : List (RubricDimension × DimensionScore)}
    (positive : ∀ pair ∈ pairs, 0 < pair.1.weight) (filled : pairs ≠ []) :
    (∃ pair ∈ pairs, pair.2.score ≤ weighted_average pairs) ∧
      ∃ pair ∈ pairs, weighted_average pairs ≤ pair.2.score := by
  have weights : 0 < (pairs.map (fun pair => pair.1.weight)).sum :=
    List.sum_pos _ (List.forall_mem_map.mpr positive) (by simpa using filled)
  have same : (pairs.map (fun pair => pair.2.score * pair.1.weight)).sum =
      (pairs.map (fun pair => weighted_average pairs * pair.1.weight)).sum := by
    rw [List.sum_map_mul_left]
    exact (div_mul_cancel₀ _ weights.ne').symm
  constructor
  · obtain ⟨pair,member,less⟩ := List.exists_le_of_sum_le filled _ _ same.le
    exact ⟨pair,member,le_of_mul_le_mul_right less (positive pair member)⟩
  · obtain ⟨pair,member,less⟩ := List.exists_le_of_sum_le filled _ _ same.ge
    exact ⟨pair,member,le_of_mul_le_mul_right less (positive pair member)⟩

theorem average_perm {pairs others : List (RubricDimension × DimensionScore)} (perm : pairs.Perm others) :
    weighted_average pairs = weighted_average others := by
  unfold weighted_average
  rw [(perm.map _).sum_eq,(perm.map (fun pair => pair.1.weight)).sum_eq]

/-! ### Scores by their ids -/

section
variable {scores : List DimensionScore} {rubric : List RubricDimension}
  {pairs : List (RubricDimension × DimensionScore)}

theorem score_for_id {dimension : RubricDimension} {score : DimensionScore}
    (found : score_for scores dimension = some score) : score.dimensionId = dimension.id := by
  simpa using List.find?_some found

theorem scored_ids (scored : Scored scores rubric pairs) :
    (pairs.map Prod.snd).map DimensionScore.dimensionId = rubric.map RubricDimension.id := by
  rw [← scored.dimensions,List.map_map,List.map_map]
  exact List.map_congr_left (fun pair member => score_for_id (scored.found pair member))

/-- Where the ids of the rubric are distinct, the found scores are all scores. -/
theorem scored_perm (scored : Scored scores rubric pairs) (lengths : scores.length = rubric.length)
    (distinct : (rubric.map RubricDimension.id).Nodup) : (pairs.map Prod.snd).Perm scores := by
  have apart : (pairs.map Prod.snd).Nodup := List.Nodup.of_map DimensionScore.dimensionId (scored_ids scored ▸ distinct)
  have inside : pairs.map Prod.snd ⊆ scores := by
    intro score member
    obtain ⟨pair,here,rfl⟩ := List.mem_map.mp member
    exact List.mem_of_find?_eq_some (scored.found pair here)
  refine (List.subperm_of_subset apart inside).perm_of_length_le ?_
  rw [lengths,← scored.dimensions,List.length_map,List.length_map]

theorem scored_distinct (scored : Scored scores rubric pairs) (lengths : scores.length = rubric.length)
    (distinct : (rubric.map RubricDimension.id).Nodup) : (scores.map DimensionScore.dimensionId).Nodup := by
  rw [← ((scored_perm scored lengths distinct).map _).nodup_iff,scored_ids scored]
  exact distinct

theorem countP_id {α : Type} (key : α → String) (items : List α) (id : String) :
    items.countP (fun item => key item = id) = (items.map key).count id := by
  rw [List.count,List.countP_map]
  exact List.countP_congr (fun item _ => by simp)

/-- The ids correspond exactly where those of the rubric are distinct. -/
theorem corresponds_iff (scored : Scored scores rubric pairs) (lengths : scores.length = rubric.length) :
    Corresponds scores rubric ↔ (rubric.map RubricDimension.id).Nodup := by
  constructor
  · intro corresponds
    rw [List.nodup_iff_count_le_one]
    intro id
    by_cases known : id ∈ rubric.map RubricDimension.id
    · obtain ⟨dimension,member,rfl⟩ := List.mem_map.mp known
      -- the one score under the id belongs to one dimension only
      have single := corresponds.dimension dimension member
      obtain ⟨score,inside,same⟩ := List.countP_pos_iff.mp (single ▸ Nat.one_pos)
      have once := corresponds.score score inside
      rw [countP_id RubricDimension.id,of_decide_eq_true same] at once
      exact once.le
    · rw [List.count_eq_zero_of_not_mem known]
      exact Nat.zero_le 1
  · intro distinct
    have apart := scored_distinct scored lengths distinct
    have ids := scored_ids scored
    have perm := (scored_perm scored lengths distinct).map DimensionScore.dimensionId
    rw [ids] at perm
    refine ⟨fun dimension member => ?_,fun score member => ?_⟩
    · rw [countP_id DimensionScore.dimensionId]
      exact List.count_eq_one_of_mem apart (perm.mem_iff.mp (List.mem_map_of_mem member))
    · rw [countP_id RubricDimension.id]
      exact List.count_eq_one_of_mem distinct (perm.mem_iff.mpr (List.mem_map_of_mem member))

theorem score_for_member (distinct : (scores.map DimensionScore.dimensionId).Nodup) {score : DimensionScore}
    (member : score ∈ scores) {dimension : RubricDimension} (same : score.dimensionId = dimension.id) :
    score_for scores dimension = some score := by
  have found := find_keyed DimensionScore.dimensionId distinct member
  rw [same] at found
  exact found

/-- The pairs are the dimensions and scores that share an id. -/
theorem mem_pairs (scored : Scored scores rubric pairs) (distinct : (scores.map DimensionScore.dimensionId).Nodup)
    {dimension : RubricDimension} {score : DimensionScore} (wanted : dimension ∈ rubric) (given_score : score ∈ scores)
    (same : score.dimensionId = dimension.id) : (dimension,score) ∈ pairs := by
  rw [← scored.dimensions] at wanted
  obtain ⟨pair,member,rfl⟩ := List.mem_map.mp wanted
  have found := scored.found pair member
  rw [score_for_member distinct given_score same] at found
  obtain rfl := Option.some.inj found
  exact member

/-- The same pairs in another order are found in other orders of the scores and the rubric. -/
theorem scored_rearranged (scored : Scored scores rubric pairs)
    (distinct : (scores.map DimensionScore.dimensionId).Nodup) {other_scores : List DimensionScore}
    {other_rubric : List RubricDimension} (scores_perm : scores.Perm other_scores)
    (rubric_perm : rubric.Perm other_rubric) :
    ∃ others, pairs.Perm others ∧ Scored other_scores other_rubric others := by
  rw [← scored.dimensions] at rubric_perm
  obtain ⟨others,rfl,perm⟩ := perm_map rubric_perm
  have apart := (scores_perm.map DimensionScore.dimensionId).nodup_iff.mp distinct
  refine ⟨others,perm,rfl,fun pair member => ?_,fun pair member => scored.valid pair (perm.mem_iff.mpr member)⟩
  have found := scored.found pair (perm.mem_iff.mpr member)
  exact score_for_member apart (scores_perm.mem_iff.mp (List.mem_of_find?_eq_some found)) (score_for_id found)

end

/-! ### Results -/

section
variable {numeral} {score_text} {input : EvaluationInput} {scores : List DimensionScore}
  {pairs : List (RubricDimension × DimensionScore)}

theorem evaluated_weighted :
    (evaluated numeral score_text input scores (pairs.foldl Tally.add {})).weightedScore = weighted_average pairs := by
  show (pairs.foldl Tally.add {}).weighted / (pairs.foldl Tally.add {}).weights = _
  rw [foldl_add,zero_add,zero_add]
  rfl

theorem missing_nil_iff : missing_requirements input.testCase input.candidate = [] ↔
    ∀ requirement ∈ input.testCase.hardRequirements, requirement ∈ input.candidate.assertions := by
  unfold missing_requirements
  rw [List.map_eq_nil_iff,List.filter_eq_nil_iff]
  simp

theorem shortfall_nil_iff : pairs.flatMap shortfall = [] ↔ ∀ pair ∈ pairs, pair.1.minimumScore ≤ pair.2.score := by
  rw [List.flatMap_eq_nil_iff]
  refine forall₂_congr (fun pair _ => ?_)
  unfold shortfall
  split
  · rename_i below
    simpa using below
  · rename_i reached
    simpa using reached

theorem evaluated_passed : (evaluated numeral score_text input scores (pairs.foldl Tally.add {})).passed = true ↔
    (∀ pair ∈ pairs, pair.1.minimumScore ≤ pair.2.score) ∧
      ∀ requirement ∈ input.testCase.hardRequirements, requirement ∈ input.candidate.assertions := by
  show ((pairs.foldl Tally.add {}).failures ++ missing_requirements input.testCase input.candidate).isEmpty = true ↔ _
  rw [foldl_add,List.nil_append,List.isEmpty_iff,List.append_eq_nil_iff,shortfall_nil_iff,missing_nil_iff]

theorem valid_score {score : DimensionScore} (valid : invalid_score score = false) :
    0 ≤ score.score ∧ score.score ≤ 1 ∧ score.evidenceIds ≠ [] := by
  unfold invalid_score at valid
  simpa [and_assoc] using valid

theorem valid_dimension {dimension : RubricDimension} (valid : invalid_dimension dimension = false) :
    0 < dimension.weight := by
  unfold invalid_dimension at valid
  simp only [Bool.or_eq_false_iff,decide_eq_false_iff_not,not_le] at valid
  exact valid.1.1

/-- The rearranged input is admitted as well. -/
theorem rearranged_admitted (admitted : Admitted input) {rubric : List RubricDimension}
    (perm : input.rubric.Perm rubric)
    (others : List DimensionScore) : Admitted (rearranged input rubric others) :=
  { admitted with
    filled := fun none => admitted.filled (List.perm_nil.mp (none ▸ perm))
    dimensions := fun dimension member => admitted.dimensions dimension (perm.mem_iff.mpr member) }

end

/-- An evaluation that returned is sound exactly when no two dimensions of its rubric share an id. -/
theorem sound_evaluation_iff {input : EvaluationInput} {result : EvaluationResult}
    (ran : evaluateCandidate numeral score_text input = .ok result) :
    SoundEvaluation numeral score_text input result ↔ (input.rubric.map RubricDimension.id).Nodup := by
  obtain ⟨admitted,scores,pairs,_,lengths,scored,rfl⟩ := (evaluateCandidate_ok numeral score_text).mp ran
  refine ⟨fun sound => (corresponds_iff scored lengths).mp sound.corresponds,fun distinct => ?_⟩
  have apart := scored_distinct scored lengths distinct
  have perm := scored_perm scored lengths distinct
  have positive : ∀ pair ∈ pairs, 0 < pair.1.weight := fun pair member =>
    valid_dimension (admitted.dimensions _ (scored.dimensions ▸ List.mem_map_of_mem member))
  have filled : pairs ≠ [] := fun none => admitted.filled (by rw [← scored.dimensions,none]; rfl)
  obtain ⟨⟨low,lowIn,least⟩,high,highIn,greatest⟩ := average_between positive filled
  refine ⟨(corresponds_iff scored lengths).mpr distinct,fun score member => ?_,?_,?_,?_,?_,?_⟩
  · obtain ⟨pair,inside,rfl⟩ := List.mem_map.mp (perm.mem_iff.mpr member)
    exact valid_score (scored.valid pair inside)
  · exact ⟨pairs,List.Perm.of_eq scored.dimensions,perm,fun pair member => score_for_id (scored.found pair member),
      evaluated_weighted⟩
  · exact ⟨low.2,perm.mem_iff.mp (List.mem_map_of_mem lowIn),evaluated_weighted.symm ▸ least⟩
  · exact ⟨high.2,perm.mem_iff.mp (List.mem_map_of_mem highIn),evaluated_weighted.symm ▸ greatest⟩
  · rw [evaluated_passed]
    refine and_congr_left
      (fun _ => ⟨fun reached dimension wanted score given_score same => ?_,fun reached pair member => ?_⟩)
    · exact reached _ (mem_pairs scored apart wanted given_score same)
    · exact reached pair.1 (scored.dimensions ▸ List.mem_map_of_mem member) pair.2
        (perm.mem_iff.mp (List.mem_map_of_mem member)) (score_for_id (scored.found pair member))
  · intro rubric other_scores rubric_perm scores_perm
    obtain ⟨others,same,again⟩ := scored_rearranged scored apart scores_perm rubric_perm
    refine ⟨_,(evaluateCandidate_ok numeral score_text).mpr ⟨rearranged_admitted admitted rubric_perm other_scores,
      other_scores,others,rfl,?_,again,rfl⟩,?_,?_⟩
    · exact scores_perm.length_eq.symm.trans (lengths.trans rubric_perm.length_eq)
    · rw [evaluated_weighted,evaluated_weighted,average_perm same]
    · rw [Bool.eq_iff_iff,evaluated_passed,evaluated_passed]
      exact and_congr_left (fun _ => forall_congr' (fun pair => by rw [same.mem_iff]))

/-- A candidate under a rubric, and a scorer that returns these scores. -/
def sample_input (rubric : List RubricDimension) (scores : List DimensionScore) : EvaluationInput where
  testCase := ⟨"CASE-1","1.0.0","code-change","ctx-1",["tests"],["tests-pass"]⟩
  candidate := ⟨"CAND-1","CASE-1","1.0.0","ctx-1","PROFILE-A","result://1",["tests-pass"],["EVID-1"],100,20⟩
  rubric := rubric
  scorer := ⟨"SCORER-1","eval-team",fun _ _ _ => .ok scores⟩
  candidateIndependenceGroup := "provider-team"

def sample_rubric : List RubricDimension := [⟨"correctness",2,0.8⟩,⟨"clarity",1,0.5⟩]

/-- The scores come in another order than the dimensions. -/
def sample_scores : List DimensionScore :=
  [⟨"clarity",0.6,"Reads well",["EVID-2"]⟩,⟨"correctness",0.9,"Passes checks",["EVID-1"]⟩]

theorem sound_evaluation_iff_sample : ∃ result,
    evaluateCandidate (fun _ => "") (fun _ => "") (sample_input sample_rubric sample_scores) = .ok result ∧
      result.weightedScore = 0.8 ∧
      SoundEvaluation (fun _ => "") (fun _ => "") (sample_input sample_rubric sample_scores) result := by
  have scored : Scored sample_scores sample_rubric
      [(⟨"correctness",2,0.8⟩,⟨"correctness",0.9,"Passes checks",["EVID-1"]⟩),
        (⟨"clarity",1,0.5⟩,⟨"clarity",0.6,"Reads well",["EVID-2"]⟩)] := ⟨rfl,by decide +kernel,by decide +kernel⟩
  have admitted : Admitted (sample_input sample_rubric sample_scores) :=
    ⟨rfl,rfl,rfl,by decide,by decide,by decide,by decide +kernel⟩
  have ran := (evaluateCandidate_ok (fun _ => "") (fun _ => "")).mpr ⟨admitted,_,_,rfl,rfl,scored,rfl⟩
  refine ⟨_,ran,?_,(sound_evaluation_iff (fun _ => "") (fun _ => "") ran).mpr (by decide)⟩
  rw [evaluated_weighted]
  norm_num [weighted_average]

/-- Two dimensions under one id: the first score counts for both, and a score of seven without
    evidence is returned beside it. -/
theorem unchecked_score_returned :
    let rubric := [⟨"quality",1,0⟩,⟨"quality",1,0⟩]
    let scores := [⟨"quality",0.9,"Good",["EVID-1"]⟩,⟨"speed",7,"",[]⟩]
    ∃ result, evaluateCandidate (fun _ => "") (fun _ => "") (sample_input rubric scores) = .ok result ∧
      result.scores = scores ∧
      ¬ SoundEvaluation (fun _ => "") (fun _ => "") (sample_input rubric scores) result := by
  intro rubric scores
  have scored : Scored scores rubric [(⟨"quality",1,0⟩,⟨"quality",0.9,"Good",["EVID-1"]⟩),
      (⟨"quality",1,0⟩,⟨"quality",0.9,"Good",["EVID-1"]⟩)] := ⟨rfl,by decide +kernel,by decide +kernel⟩
  have admitted : Admitted (sample_input rubric scores) := ⟨rfl,rfl,rfl,by decide,by decide,by decide,by decide +kernel⟩
  have ran := (evaluateCandidate_ok (fun _ => "") (fun _ => "")).mpr ⟨admitted,_,_,rfl,rfl,scored,rfl⟩
  refine ⟨_,ran,rfl,fun sound => ?_⟩
  exact (sound.bounded ⟨"speed",7,"",[]⟩ (by decide)).2.2 rfl

end V3Aidlc.RubricScores
