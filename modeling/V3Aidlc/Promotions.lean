import V3Aidlc.Accounts

/-!
When a package is promoted: its run ended as completed and the gate of its acceptance
lets it pass (`Promoted`). The outcome in the trace and the completion for the
integration follow the same gate (`promotable_iff`, `completed_iff`).
-/
namespace V3Aidlc.Promotions
open V3Aidlc.Values V3Aidlc.Loops V3Aidlc.Contracts
open V3Aidlc.EvidenceGates (GateEvaluation GateOutcome promotes gate_evaluation)
open V3Aidlc.AgentAdapters (normalize_provider_result)
open V3Aidlc.ReferenceOrchestrator V3Aidlc.RecordedEvents V3Aidlc.Preparations V3Aidlc.Runs V3Aidlc.Executions
open V3Aidlc.Accounts

/-- The package ran to a completed result that its gate promotes. -/
def Promoted {σ : Type} (s : Locals σ) (prepared : Prepared) : Prop := ∃ answer result acceptance gate,
  (prepared,answer) ∈ s.answers ∧
  normalize_provider_result answer (dispatch_of prepared) ("provider-result:" ++ text prepared.request "runId") =
    .ok result ∧
  text result "status" = "completed" ∧ prepared.source.get "acceptance" = .obj acceptance ∧
  evaluate_acceptance acceptance = .ok gate ∧ gate.promotable = true

/-- The gate of an acceptance judges the subject that the acceptance names. -/
theorem acceptance_ok {acceptance : Dict} {gate : GateEvaluation}
    (evaluated : evaluate_acceptance acceptance = .ok gate) :
    gate.promotable = promotes gate.outcome ∧ Dict.get? "subjectId" acceptance = some gate.subject_id ∧
      Dict.get? "subjectRevision" acceptance = some gate.subject_revision := by
  unfold evaluate_acceptance EvidenceGates.evaluate_gate EvidenceGates.gate_context at evaluated
  simp only [bind_ok_iff,pure_ok_iff,item_ok] at evaluated
  obtain ⟨_,_,_,_,_,_,_,_,_,_,_,named,_,revised,_,_,_,_,_,⟨_,_,_,_,_,_,_,_,_,_,rfl⟩,_,_,rfl⟩ := evaluated
  exact ⟨rfl,named,revised⟩

theorem promoted_value (outcome : GateOutcome) : promoted (some outcome.value) = promotes outcome := by
  cases outcome <;> decide

/-- Whether a run that ended can be promoted, by its result and its acceptance. -/
theorem promotable_iff {prepared : Prepared} {answer : Json} {run : Run}
    (concluded : conclude prepared answer = .ok run) :
    run.promotable = true ↔ text run.result "status" = "completed" ∧ ∃ acceptance gate,
      prepared.source.get "acceptance" = .obj acceptance ∧ evaluate_acceptance acceptance = .ok gate ∧
        gate.promotable = true := by
  obtain ⟨_,_,_,judged⟩ := conclude_ok.mp concluded
  constructor
  · intro promotable
    obtain ⟨gate,gateIs,promotes⟩ := (Option.any_eq_true _ _).mp promotable
    rw [gateIs] at judged
    obtain ⟨completed,acceptance,held,evaluated⟩ := judge_completed judged
    exact ⟨completed,acceptance,gate,held,evaluated,promotes⟩
  · rintro ⟨completed,acceptance,gate,held,evaluated,promotes⟩
    unfold judge at judged
    rw [if_neg (not_not.mpr completed),held] at judged
    simp only [Json.dict?,evaluated,ok_bind,pure_ok_iff] at judged
    unfold Run.promotable
    rw [← judged]
    exact promotes

/-- The outcome in the trace says whether a run can be promoted, and only a completed one can. -/
theorem gated_outcome {prepared : Prepared} {answer : Json} {run : Run}
    (concluded : conclude prepared answer = .ok run) :
    (run.promotable = true ↔ promoted run.gate_outcome = true) ∧
      (run.promotable = true → text run.result "status" = "completed") := by
  obtain ⟨_,_,_,judged⟩ := conclude_ok.mp concluded
  unfold Run.gate_outcome Run.promotable
  cases gateIs : run.gate with
  | none => simp [promoted]
  | some gate =>
    rw [gateIs] at judged
    obtain ⟨completed,acceptance,_,evaluated⟩ := judge_completed judged
    rw [Option.map_some,promoted_value,← (acceptance_ok evaluated).1]
    exact ⟨Iff.rfl,fun _ => completed⟩

/-- A run that ended brings its completion along exactly when it can be promoted. -/
theorem completed_iff {settings : Settings} {prepared : Prepared} {answer : Json} {run : Run} {completion : Dict}
    (concluded : conclude prepared answer = .ok run) : completion ∈ run.completions settings ↔
      run.promotable = true ∧ ∃ brought, prepared.source.get "integrationCompletion" = .obj brought ∧
        completion = completion_of settings prepared run.result brought := by
  obtain ⟨same,_,_,_⟩ := conclude_ok.mp concluded
  obtain ⟨promotes,completes⟩ := gated_outcome concluded
  have outcome : text run.result "status" = "completed" ∧ promoted run.gate_outcome = true ↔ run.promotable = true := by
    rw [promotes]
    exact ⟨And.right,fun passed => ⟨completes (promotes.mpr passed),passed⟩⟩
  unfold Run.completions completions_of
  rw [same,← outcome]
  cases brought : (prepared.source.get "integrationCompletion").dict? with
  | none =>
    refine iff_of_false (by simp) ?_
    rintro ⟨_,other,held,_⟩
    rw [held] at brought
    cases brought
  | some own =>
    rw [dict?_eq_some.mp brought]
    by_cases promotable : text run.result "status" = "completed" ∧ promoted run.gate_outcome = true
    · simp [promotable]
    · simp only [Bool.and_eq_true,decide_eq_true_eq]
      rw [if_neg promotable]
      simp [promotable]

theorem completion_fields {settings : Settings} {prepared : Prepared} {result brought : Dict} :
    (completion_of settings prepared result brought).get "workPackageId" = .str prepared.work_package_id ∧
    (completion_of settings prepared result brought).get "baseRevision" = brought.get "baseRevision" ∧
    (completion_of settings prepared result brought).get "subjectRevision" = brought.get "subjectRevision" := by
  unfold completion_of
  simp [Dict.update,get_set]

section
variable {σ : Type} {runtime : ReferenceOrchestrator σ} {scenario : Dict} {account : Account}
  {trace : OrchestrationTrace}
  {s : Locals σ}

/-- A package has one run. -/
theorem run_unique (performed : Performed runtime scenario account trace s) {run other : Run}
    (member : run ∈ account.runs)
    (inside : other ∈ account.runs) (same : run.work_package_id = other.work_package_id) : run = other :=
  List.inj_on_of_nodup_map (run_distinct performed) member inside same

theorem answered_iff (performed : Performed runtime scenario account trace s) {prepared : Prepared} {answer : Json} :
    (prepared,answer) ∈ s.answers ↔ ∃ run ∈ account.runs, run.prepared = prepared ∧ run.answer = answer := by
  rw [performed.answers,List.mem_map]
  simp

/-- The packages that are promoted are those whose runs can be. -/
theorem promoted_iff (performed : Performed runtime scenario account trace s) {run : Run}
    (member : run ∈ account.runs) :
    Promoted s run.prepared ↔ run.promotable = true := by
  have concluded := performed.concluded run member
  rw [promotable_iff concluded]
  obtain ⟨_,_,accepted,_⟩ := conclude_ok.mp concluded
  constructor
  · rintro ⟨answer,result,acceptance,gate,answered,normalized,completed,held,evaluated,promotes⟩
    obtain ⟨other,inside,same,rfl⟩ := (answered_iff performed).mp answered
    obtain rfl := run_unique performed inside member (by unfold Run.work_package_id; rw [same])
    rw [accepted] at normalized
    cases normalized
    exact ⟨completed,acceptance,gate,held,evaluated,promotes⟩
  · rintro ⟨completed,acceptance,gate,held,evaluated,promotes⟩
    exact ⟨run.answer,run.result,acceptance,gate,(answered_iff performed).mpr ⟨run,member,rfl,rfl⟩,accepted,completed,
      held,
      evaluated,promotes⟩

/-- A completion is that of a run that can be promoted. -/
theorem completion_run (performed : Performed runtime scenario account trace s) {completion : Dict}
    (member : completion ∈ account.runs.flatMap (Run.completions account.settings)) :
    ∃ run ∈ account.runs, run.promotable = true ∧ ∃ brought, run.prepared.source.get "integrationCompletion" =
      .obj brought ∧
      completion = completion_of account.settings run.prepared run.result brought := by
  obtain ⟨run,inside,own⟩ := List.mem_flatMap.mp member
  obtain ⟨promotable,brought,held,same⟩ := (completed_iff (performed.concluded run inside)).mp own
  exact ⟨run,inside,promotable,brought,held,same⟩

end

end V3Aidlc.Promotions
