import V3Aidlc.Analytics

/-!
Which observations stand behind the metrics of a health report. The cycle time is taken over the closed
work rather than the accepted work (`accepted_cycle_iff`), and the decision wait is computed from the
work that waited but counts all closed work as its sample (`honest_samples_iff`).
-/
namespace V3Aidlc.HealthSamples
open V3Aidlc.Analytics

section
variable {input : HealthInput} {report : ProcessHealthReport}

theorem report_metrics (ran : analyzeProcessHealth input = .ok report) :
    report.metrics = health_metrics input ∧ report.recommendations = recommendations_for (health_metrics input) := by
  obtain ⟨_,rfl⟩ := analyzeProcessHealth_ok.mp ran
  exact ⟨rfl,rfl⟩

/-- A filter that drops nothing. -/
theorem filter_whole_iff {α : Type} {p : α → Bool} {items : List α} :
    items.length = (items.filter p).length ↔ ∀ a ∈ items, p a = true := by
  rw [eq_comm,List.length_filter_eq_length_iff]

/-! ### Cycle times -/

/-- Work of the sample, closed after one day. -/
def sample_work (decisionWaitMs : ℚ) (accepted : Bool) : WorkObservation :=
  ⟨"production","feature","balanced",0,some 86400000,0,decisionWaitMs,0,accepted⟩

def sample_input (observations : List WorkObservation) : HealthInput := ⟨"PRJ-1",observations,0,1000000000,{}⟩

def sample_report (observations : List WorkObservation) : ProcessHealthReport :=
  ⟨"PRJ-1",0,1000000000,{},health_metrics (sample_input observations),
    recommendations_for (health_metrics (sample_input observations))⟩

theorem sample_ran (observations : List WorkObservation) :
    analyzeProcessHealth (sample_input observations) = .ok (sample_report observations) := rfl

/-- The metric measures the given work: its median cycle time, or nothing where there is none. -/
structure MeasuresCycle (metric : HealthMetric) (work : List WorkObservation) : Prop where
  nothing : work = [] → metric.value = none
  middle : work ≠ [] → ∃ m, metric.value = some m ∧ IsMedian (work.map cycle_time) m
  counted : metric.sampleSize = work.length

theorem measures_completed (input : HealthInput) :
    MeasuresCycle (health_metrics input).medianCycleTime (completed input) := by
  refine ⟨fun none => ?_,fun filled => ?_,metric_sampleSize⟩
  · show (metric _ _ _ _ _ _).value = _
    rw [metric_value]
    unfold cycle_value
    rw [none]
    rfl
  · refine ⟨median ((completed input).map cycle_time),?_,isMedian_iff.mpr ⟨by simpa using filled,rfl⟩⟩
    show (metric _ _ _ _ _ _).value = _
    rw [metric_value]
    unfold cycle_value
    rw [if_neg (by simpa using filled)]

theorem cycle_value_perm {work other : List WorkObservation} (perm : work.Perm other) :
    cycle_value work = cycle_value other := by
  unfold cycle_value
  rw [perm.length_eq,median_perm (perm.map cycle_time)]

/-- Two lists of observations with the same accepted closures in the window: the metric of the first
    measures these and is that of the second, exactly when neither has another closure there. -/
theorem accepted_cycle_iff {changed : List WorkObservation} {after : ProcessHealthReport}
    (ran : analyzeProcessHealth input = .ok report)
    (again : analyzeProcessHealth { input with observations := changed } = .ok after)
    (same : (accepted input).Perm (accepted { input with observations := changed })) :
    (MeasuresCycle report.metrics.medianCycleTime (accepted input) ∧
      after.metrics.medianCycleTime = report.metrics.medianCycleTime) ↔
    (∀ item ∈ completed input, item.accepted = true) ∧
      ∀ item ∈ completed { input with observations := changed }, item.accepted = true := by
  rw [(report_metrics ran).1,(report_metrics again).1]
  have counted : ∀ other : HealthInput, (health_metrics other).medianCycleTime.sampleSize = (completed other).length :=
    fun _ => metric_sampleSize
  constructor
  · rintro ⟨measures,unchanged⟩
    have here : (completed input).length = (accepted input).length := (counted input).symm.trans measures.counted
    have there : (completed { input with observations := changed }).length =
        (accepted { input with observations := changed }).length := by
      rw [← counted,unchanged,counted,here]
      exact same.length_eq
    exact ⟨filter_whole_iff.mp here,filter_whole_iff.mp there⟩
  · rintro ⟨here,there⟩
    have whole : accepted input = completed input := List.filter_eq_self.mpr here
    have also : accepted { input with observations := changed } = completed { input with observations := changed } :=
      List.filter_eq_self.mpr there
    rw [whole,also] at same
    refine ⟨whole ▸ measures_completed input,?_⟩
    show metric (cycle_value _) _ _ _ _ _ = metric (cycle_value _) _ _ _ _ _
    rw [cycle_value_perm same,same.length_eq]

/-- Work that is not closed leaves the cycle time as it is. -/
theorem accepted_cycle_iff_open :
    (sample_report [sample_work 0 true,{ sample_work 0 false with closedAt := none }]).metrics.medianCycleTime =
      (sample_report [sample_work 0 true]).metrics.medianCycleTime :=
  ((accepted_cycle_iff (sample_ran [sample_work 0 true])
    (sample_ran [sample_work 0 true,{ sample_work 0 false with closedAt := none }]) (List.Perm.refl _)).mpr
      ⟨by decide,by decide⟩).2

/-- Abandoned work beside two accepted closures makes a sample of three. -/
theorem abandoned_work_counts :
    let kept := [sample_work 0 true,sample_work 0 true]
    let changed := sample_work 0 false :: kept
    accepted (sample_input changed) = accepted (sample_input kept) ∧
      (sample_report kept).metrics.medianCycleTime.status = .inconclusive ∧
      (sample_report changed).metrics.medianCycleTime.status = .healthy ∧
      ¬ MeasuresCycle (sample_report changed).metrics.medianCycleTime (accepted (sample_input changed)) := by
  refine ⟨by decide,by decide +kernel,by decide +kernel,fun measures => ?_⟩
  exact absurd measures.counted (by decide +kernel)

/-! ### Sample sizes -/

/-- The metric is computed from the population, says so, and draws nothing from fewer than three. -/
structure ComputedFrom (metric : HealthMetric) (compute : List WorkObservation → Option ℚ)
    (population : List WorkObservation) : Prop where
  value : metric.value = compute population
  counted : metric.sampleSize = population.length
  small : population.length < 3 → metric.status = .inconclusive

/-- Every metric says how many observations it was computed from, and no advice rests on fewer
    than three. -/
structure HonestSamples (input : HealthInput) (report : ProcessHealthReport) : Prop where
  firstPassYield : ComputedFrom report.metrics.firstPassYield yield_value (accepted input)
  medianCycleTime : ComputedFrom report.metrics.medianCycleTime cycle_value (completed input)
  repairRate : ComputedFrom report.metrics.repairRate repair_value (accepted input)
  medianDecisionWait : ComputedFrom report.metrics.medianDecisionWait wait_value (decisionSample input)
  blockedShare : ComputedFrom report.metrics.blockedShare blocked_value (completed input)
  repair_advice : REPAIR_ADVICE ∈ report.recommendations → 3 ≤ (accepted input).length
  decision_advice : DECISION_ADVICE ∈ report.recommendations → 3 ≤ (decisionSample input).length
  blocked_advice : BLOCKED_ADVICE ∈ report.recommendations → 3 ≤ (completed input).length

theorem computed {compute : List WorkObservation → Option ℚ} {population : List WorkObservation} {unit : HealthUnit}
    {thresholds : ℚ × ℚ} {higherIsBetter : Bool} {explanation : String} :
    ComputedFrom (metric (compute population) unit population.length thresholds higherIsBetter explanation) compute
      population := ⟨metric_value,metric_sampleSize,metric_small⟩

/-- Unhealthy metrics have a sample of three. -/
theorem unhealthy_large {metric : HealthMetric} {compute : List WorkObservation → Option ℚ}
    {population : List WorkObservation} (from_population : ComputedFrom metric compute population)
    (unhealthy : metric.status = .unhealthy) : 3 ≤ population.length := by
  by_contra few
  have inconclusive := from_population.small (by omega)
  rw [unhealthy] at inconclusive
  cases inconclusive

theorem mem_recommendations {metrics : HealthMetrics} :
    (REPAIR_ADVICE ∈ recommendations_for metrics ↔ metrics.repairRate.status = .unhealthy) ∧
      (DECISION_ADVICE ∈ recommendations_for metrics ↔ metrics.medianDecisionWait.status = .unhealthy) ∧
      (BLOCKED_ADVICE ∈ recommendations_for metrics ↔ metrics.blockedShare.status = .unhealthy) := by
  unfold recommendations_for
  simp only [List.mem_append,mem_recommend,decide_eq_true_eq]
  refine ⟨?_,?_,?_⟩ <;> simp [REPAIR_ADVICE,DECISION_ADVICE,BLOCKED_ADVICE,SAMPLE_ADVICE]

/-- The samples of a report are honest exactly when all its closed work waited for a decision. -/
theorem honest_samples_iff (ran : analyzeProcessHealth input = .ok report) :
    HonestSamples input report ↔ ∀ item ∈ completed input, 0 < item.decisionWaitMs := by
  obtain ⟨metrics,recommendations⟩ := report_metrics ran
  constructor
  · intro honest item member
    have counted := honest.medianDecisionWait.counted
    rw [metrics] at counted
    have closed : (health_metrics input).medianDecisionWait.sampleSize = (completed input).length := metric_sampleSize
    exact of_decide_eq_true (filter_whole_iff.mp (closed.symm.trans counted) item member)
  · intro waited
    have whole : decisionSample input = completed input :=
      List.filter_eq_self.mpr (fun item member => decide_eq_true (waited item member))
    have waits : ComputedFrom (health_metrics input).medianDecisionWait wait_value (decisionSample input) := by
      have closed : (completed input).length = (decisionSample input).length := congrArg List.length whole.symm
      exact ⟨metric_value,metric_sampleSize.trans closed,fun few => metric_small (closed ▸ few)⟩
    have repairs : ComputedFrom (health_metrics input).repairRate repair_value (accepted input) := computed
    have blocks : ComputedFrom (health_metrics input).blockedShare blocked_value (completed input) := computed
    obtain ⟨repair,decision,blocked⟩ := @mem_recommendations (health_metrics input)
    refine ⟨metrics ▸ computed,metrics ▸ computed,metrics ▸ repairs,metrics ▸ waits,metrics ▸ blocks,?_,?_,?_⟩
    · rw [recommendations,repair]
      exact unhealthy_large repairs
    · rw [recommendations,decision]
      exact unhealthy_large waits
    · rw [recommendations,blocked]
      exact unhealthy_large blocks

/-- Three items that waited for a decision. -/
theorem honest_samples_iff_waited :
    HonestSamples (sample_input (List.replicate 3 (sample_work 1 true)))
      (sample_report (List.replicate 3 (sample_work 1 true))) :=
  (honest_samples_iff (sample_ran _)).mpr (by decide)

/-- One wait of two days among three closed items is called unhealthy, and advice is given. -/
theorem single_wait_advises :
    let observations := [sample_work 172800000 true,sample_work 0 true,sample_work 0 true]
    (decisionSample (sample_input observations)).length = 1 ∧
      (sample_report observations).metrics.medianDecisionWait.sampleSize = 3 ∧
      (sample_report observations).metrics.medianDecisionWait.status = .unhealthy ∧
      ¬ HonestSamples (sample_input observations) (sample_report observations) := by
  intro observations
  have unhealthy : (sample_report observations).metrics.medianDecisionWait.status = .unhealthy := by decide +kernel
  refine ⟨by decide,by decide +kernel,unhealthy,fun honest => ?_⟩
  exact absurd (unhealthy_large honest.medianDecisionWait unhealthy) (by decide)

end

end V3Aidlc.HealthSamples
