import V3Aidlc.Canonical
import V3Aidlc.Loops
import V3Aidlc.WorkPackages
import Mathlib.Algebra.Order.Field.Rat
import Mathlib.Tactic.Linarith

/-!
Process health (`packages/analytics`). The observations of a window and of some dimensions are narrowed
to the closed ones, these to the accepted ones and to those that waited for a decision; five metrics
are each computed from one of these lists, and say how large the sample was. `median` is the middle of
the ordered values (`isMedian_iff`).
-/
namespace V3Aidlc.Analytics
open V3Aidlc.Canonical V3Aidlc.Loops V3Aidlc.WorkPackages

/-- Times are milliseconds of a `Date`. -/
structure WorkObservation where
  route : String
  mode : String
  posture : String
  startedAt : Int
  closedAt : Option Int := none
  repairAttempts : ℚ
  decisionWaitMs : ℚ
  blockedMs : ℚ
  accepted : Bool
  deriving DecidableEq

inductive HealthUnit where
  | ratio
  | milliseconds
  | count
  deriving DecidableEq

inductive HealthStatus where
  | healthy
  | watch
  | unhealthy
  | inconclusive
  deriving DecidableEq

structure HealthMetric where
  value : Option ℚ
  unit : HealthUnit
  sampleSize : Nat
  status : HealthStatus
  explanation : String
  deriving DecidableEq

structure Dimensions where
  route : Option String := none
  mode : Option String := none
  posture : Option String := none

structure HealthMetrics where
  firstPassYield : HealthMetric
  medianCycleTime : HealthMetric
  repairRate : HealthMetric
  medianDecisionWait : HealthMetric
  blockedShare : HealthMetric

structure ProcessHealthReport where
  projectId : String
  windowStart : Int
  windowEnd : Int
  dimensions : Dimensions
  metrics : HealthMetrics
  recommendations : List String

structure HealthInput where
  projectId : String
  observations : List WorkObservation
  windowStart : Int
  windowEnd : Int
  dimensions : Dimensions := {}

def median (values : List ℚ) : ℚ :=
  let ordered := sortedBy id values
  let middle := ordered.length / 2
  if ordered.length % 2 = 0 then (ordered.getD (middle - 1) 0 + ordered.getD middle 0) / 2 else ordered.getD middle 0

def status_of (value : ℚ) (thresholds : ℚ × ℚ) (higherIsBetter : Bool) : HealthStatus :=
  let (healthy,unhealthy) := thresholds
  if higherIsBetter then if healthy ≤ value then .healthy else if value < unhealthy then .unhealthy else .watch
  else if value ≤ healthy then .healthy else if unhealthy < value then .unhealthy else .watch

def metric (value : Option ℚ) (unit : HealthUnit) (sampleSize : Nat) (thresholds : ℚ × ℚ) (higherIsBetter : Bool)
    (explanation : String) : HealthMetric :=
  match value with
  | none => ⟨none,unit,sampleSize,.inconclusive,"Not enough comparable work yet. " ++ explanation⟩
  | some known =>
    if sampleSize < 3 then
      ⟨some known,unit,sampleSize,.inconclusive,"Not enough comparable work yet. " ++ explanation⟩
    else ⟨some known,unit,sampleSize,status_of known thresholds higherIsBetter,explanation⟩

/-! ### The samples -/

def has_dimension (wanted : Option String) (value : String) : Bool := wanted.all (fun dimension => value = dimension)

/-- The condition of the source's first filter. -/
def comparable (input : HealthInput) (item : WorkObservation) : Bool :=
  input.windowStart ≤ item.startedAt && item.startedAt < input.windowEnd &&
    has_dimension input.dimensions.route item.route && has_dimension input.dimensions.mode item.mode &&
    has_dimension input.dimensions.posture item.posture

def sample (input : HealthInput) : List WorkObservation := input.observations.filter (comparable input)

def completed (input : HealthInput) : List WorkObservation := (sample input).filter (fun item => item.closedAt.isSome)

def accepted (input : HealthInput) : List WorkObservation := (completed input).filter WorkObservation.accepted

def decisionSample (input : HealthInput) : List WorkObservation :=
  (completed input).filter (fun item => 0 < item.decisionWaitMs)

/-- `item.closedAt.getTime() - item.startedAt.getTime()`, for closed items. -/
def cycle_time (item : WorkObservation) : ℚ := (item.closedAt.getD item.startedAt - item.startedAt : Int)

/-! ### What the metrics compute from a sample -/

def yield_value (accepted : List WorkObservation) : Option ℚ :=
  if accepted.length = 0 then none
  else some ((accepted.filter (fun item => item.repairAttempts = 0)).length / accepted.length)

def cycle_value (completed : List WorkObservation) : Option ℚ :=
  if completed.length = 0 then none else some (median (completed.map cycle_time))

def repair_value (accepted : List WorkObservation) : Option ℚ :=
  if accepted.length = 0 then none else some ((accepted.map WorkObservation.repairAttempts).sum / accepted.length)

def wait_value (decisionSample : List WorkObservation) : Option ℚ :=
  some (if decisionSample.length = 0 then 0 else median (decisionSample.map WorkObservation.decisionWaitMs))

def blocked_value (completed : List WorkObservation) : Option ℚ :=
  let totalDuration := (completed.map cycle_time).sum
  let totalBlocked := (completed.map WorkObservation.blockedMs).sum
  if totalDuration = 0 then none else some (totalBlocked / totalDuration)

def health_metrics (input : HealthInput) : HealthMetrics where
  firstPassYield := metric (yield_value (accepted input)) .ratio (accepted input).length (0.8,0.5) true
    "Shows how often work passes without repair."
  medianCycleTime := metric (cycle_value (completed input)) .milliseconds (completed input).length
    (86400000,604800000) false "Measures elapsed time from start to accepted closure."
  repairRate := metric (repair_value (accepted input)) .count (accepted input).length (0.5,2) false
    "Counts repair loops per accepted item."
  medianDecisionWait := metric (wait_value (decisionSample input)) .milliseconds (completed input).length
    (3600000,86400000) false "Measures time spent waiting for human choices."
  blockedShare := metric (blocked_value (completed input)) .ratio (completed input).length (0.1,0.35) false
    "Shows how much elapsed delivery time was blocked."

def REPAIR_ADVICE : String := "Review recurring findings before increasing parallel work."
def DECISION_ADVICE : String := "Move predictable choices earlier or create a bounded standing delegation."
def BLOCKED_ADVICE : String := "Inspect the most common dependency and environment blockers."
def SAMPLE_ADVICE : String := "Collect at least three comparable completed items before changing the process."

/-- `Object.values(metrics)`. -/
def HealthMetrics.all (metrics : HealthMetrics) : List HealthMetric :=
  [metrics.firstPassYield,metrics.medianCycleTime,metrics.repairRate,metrics.medianDecisionWait,metrics.blockedShare]

def recommend (condition : Bool) (advice : String) : List String := if condition then [advice] else []

def recommendations_for (metrics : HealthMetrics) : List String :=
  recommend (metrics.repairRate.status = .unhealthy) REPAIR_ADVICE ++
    recommend (metrics.medianDecisionWait.status = .unhealthy) DECISION_ADVICE ++
    recommend (metrics.blockedShare.status = .unhealthy) BLOCKED_ADVICE ++
    recommend (metrics.all.all (fun metric => metric.status = .inconclusive)) SAMPLE_ADVICE

def analyzeProcessHealth (input : HealthInput) : Except Thrown ProcessHealthReport := do
  raise_if (input.windowEnd ≤ input.windowStart) (.Error "Health window must end after it starts")
  let metrics := health_metrics input
  return ⟨input.projectId,input.windowStart,input.windowEnd,input.dimensions,metrics,recommendations_for metrics⟩

theorem analyzeProcessHealth_ok {input : HealthInput} {report : ProcessHealthReport} :
    analyzeProcessHealth input = .ok report ↔ input.windowStart < input.windowEnd ∧
      report = ⟨input.projectId,input.windowStart,input.windowEnd,input.dimensions,health_metrics input,
        recommendations_for (health_metrics input)⟩ := by
  unfold analyzeProcessHealth
  simp only [bind_ok_iff,raise_if_ok,pure_ok_iff,decide_eq_false_iff_not,not_le]
  constructor
  · rintro ⟨_,opened,rfl⟩
    exact ⟨opened,rfl⟩
  · rintro ⟨opened,rfl⟩
    exact ⟨(),opened,rfl⟩

/-! ### Metrics and medians -/

section
variable {value : Option ℚ} {unit : HealthUnit} {sampleSize : Nat} {thresholds : ℚ × ℚ} {higherIsBetter : Bool}
  {explanation : String}

theorem metric_value : (metric value unit sampleSize thresholds higherIsBetter explanation).value = value := by
  cases value with
  | none => rfl
  | some known => by_cases small : sampleSize < 3 <;> simp [metric,small]

theorem metric_sampleSize :
    (metric value unit sampleSize thresholds higherIsBetter explanation).sampleSize = sampleSize := by
  cases value with
  | none => rfl
  | some known => by_cases small : sampleSize < 3 <;> simp [metric,small]

/-- A metric of fewer than three observations is inconclusive. -/
theorem metric_small (small : sampleSize < 3) :
    (metric value unit sampleSize thresholds higherIsBetter explanation).status = .inconclusive := by
  cases value with
  | none => rfl
  | some known => simp [metric,small]

end

theorem mem_recommend {condition : Bool} {advice other : String} :
    other ∈ recommend condition advice ↔ condition = true ∧ other = advice := by
  unfold recommend
  cases condition <;> simp

/-- The value or the two values in the middle of the ordered list, or the mean of the two. -/
def IsMedian (values : List ℚ) (m : ℚ) : Prop :=
  ∃ ordered : List ℚ, ordered.Perm values ∧ ordered.Pairwise (· ≤ ·) ∧
    ((∃ k, values.length = 2 * k + 1 ∧ ordered[k]? = some m) ∨
      ∃ k low high, values.length = 2 * k + 2 ∧ ordered[k]? = some low ∧ ordered[k + 1]? = some high ∧
        m = (low + high) / 2)

theorem median_perm {values others : List ℚ} (perm : values.Perm others) : median values = median others := by
  have same : sortedBy id values = sortedBy id others := sortedBy_perm perm (fun _ _ _ _ equal => equal)
  unfold median
  rw [same]

section
variable {values : List ℚ} {k : ℕ}

/-- An odd number of values has one in the middle. -/
theorem median_odd (odd : values.length = 2 * k + 1) : median values = (sortedBy id values).getD k 0 := by
  have half : (2 * k + 1) / 2 = k := by omega
  have uneven : (2 * k + 1) % 2 = 1 := by omega
  unfold median
  simp only [(perm_sortedBy id values).length_eq,odd,half,uneven]
  rfl

/-- An even number of values has two in the middle. -/
theorem median_even (even : values.length = 2 * k + 2) :
    median values = ((sortedBy id values).getD k 0 + (sortedBy id values).getD (k + 1) 0) / 2 := by
  have half : (2 * k + 2) / 2 = k + 1 := by omega
  have whole : (2 * k + 2) % 2 = 0 := by omega
  unfold median
  simp only [(perm_sortedBy id values).length_eq,even,half,whole,Nat.add_sub_cancel]
  rfl

theorem sorted_held (inside : k < values.length) :
    (sortedBy id values)[k]? = some ((sortedBy id values).getD k 0) := by
  have bound : k < (sortedBy id values).length := (perm_sortedBy id values).length_eq ▸ inside
  rw [List.getD_eq_getElem?_getD,List.getElem?_eq_getElem bound,Option.getD_some]

theorem sorted_getD {m : ℚ} (held : (sortedBy id values)[k]? = some m) : (sortedBy id values).getD k 0 = m := by
  rw [List.getD_eq_getElem?_getD,held,Option.getD_some]

end

/-- The median of the code is the only one. -/
theorem isMedian_iff {values : List ℚ} {m : ℚ} : IsMedian values m ↔ values ≠ [] ∧ m = median values := by
  have perm := perm_sortedBy id values
  constructor
  · rintro ⟨ordered,rearranged,sorted,middle⟩
    have same : ordered = sortedBy id values :=
      List.Perm.eq_of_pairwise' sorted (pairwise_sortedBy id values) (rearranged.trans perm.symm)
    subst same
    rcases middle with ⟨k,odd,held⟩ | ⟨k,low,high,even,first,second,rfl⟩
    · refine ⟨fun empty => by simp [empty] at odd,?_⟩
      rw [median_odd odd,sorted_getD held]
    · refine ⟨fun empty => by simp [empty] at even,?_⟩
      rw [median_even even,sorted_getD first,sorted_getD second]
  · rintro ⟨filled,rfl⟩
    have positive : 0 < values.length := List.length_pos_iff.mpr filled
    refine ⟨_,perm,pairwise_sortedBy id values,?_⟩
    rcases Nat.even_or_odd' values.length with ⟨k,even | odd⟩
    · obtain ⟨k,rfl⟩ : ∃ j, k = j + 1 := ⟨k - 1,by omega⟩
      exact .inr ⟨k,_,_,even,sorted_held (by omega),sorted_held (by omega),median_even even⟩
    · refine .inl ⟨k,odd,?_⟩
      rw [median_odd odd]
      exact sorted_held (by omega)

end V3Aidlc.Analytics
