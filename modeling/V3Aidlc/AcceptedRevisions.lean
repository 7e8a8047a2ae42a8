import V3Aidlc.IntegrationBatches
import V3Aidlc.Promotions
import V3Aidlc.Feasibility

/-!
Which subject an accepted package was accepted for. The gate judges the subject that
the acceptance names, the batch takes the revision of the completion, and the candidate
has its own; the loop compares none of them. They are the same in a trace exactly when
the promoted items bring them so (`revisions_bound_iff`).
-/
namespace V3Aidlc.AcceptedRevisions
open V3Aidlc.Values V3Aidlc.Loops V3Aidlc.Effects V3Aidlc.Contracts
open V3Aidlc.EvidenceGates (GateEvaluation promotes)
open V3Aidlc.Scheduler (member_of)
open V3Aidlc.ReferenceOrchestrator V3Aidlc.RecordedEvents V3Aidlc.Failures V3Aidlc.Preparations V3Aidlc.Runs
open V3Aidlc.Executions
open V3Aidlc.Accounts V3Aidlc.Promotions V3Aidlc.IntegrationBatches

section
variable {σ : Type}

/-- The gate was evaluated for the acceptance of the package. -/
def Evaluated (s : Locals σ) (prepared : Prepared) (gate : GateEvaluation) : Prop :=
  (prepared,gate) ∈ s.evaluations ∧
    ∃ acceptance, prepared.source.get "acceptance" = .obj acceptance ∧ evaluate_acceptance acceptance = .ok gate

/-- A passed outcome is that of a gate about the package and its candidate's revision,
    and a member of the batch carries the revision its gate passed for. -/
structure RevisionsBound (trace : OrchestrationTrace) (s : Locals σ) : Prop where
  gates : ∀ work ∈ trace.work, promoted work.gate_outcome = true → ∃ prepared gate, Evaluated s prepared gate ∧
    prepared.work_package_id = work.work_package_id ∧ work.gate_outcome = some gate.outcome.value ∧
    gate.subject_id = .str work.work_package_id ∧ gate.subject_revision = prepared.candidate.get "subjectRevision"
  members : ∀ batch, trace.integration_batch = some batch → ∀ member : Dict, .obj member ∈ items batch "members" →
    ∃ prepared gate, Evaluated s prepared gate ∧ gate.promotable = true ∧
      member.get "workPackageId" = .str prepared.work_package_id ∧ member.get "subjectRevision" = gate.subject_revision

/-- The members that the scenario asks for are the promoted packages with a completion. -/
def Complete (scenario : Dict) (s : Locals σ) : Prop := ∃ integration expected,
  scenario.get "integration" = .obj integration ∧ expected_members integration = .ok expected ∧
    ∀ value, value ∈ expected ↔ ∃ prepared completion, Promoted s prepared ∧
      prepared.source.get "integrationCompletion" = .obj completion ∧ value = .str prepared.work_package_id

/-- A promoted package has the acceptance of its own candidate, and its completion, when
    it is integrated, has the revision of the acceptance. -/
structure Brought (scenario : Dict) (s : Locals σ) : Prop where
  accepted : ∀ (prepared : Prepared) (acceptance : Dict), Promoted s prepared →
    prepared.source.get "acceptance" = .obj acceptance →
    acceptance.get "subjectId" = .str prepared.work_package_id ∧
      acceptance.get "subjectRevision" = prepared.candidate.get "subjectRevision"
  integrated : Complete scenario s → ∀ (prepared : Prepared) (acceptance completion : Dict), Promoted s prepared →
    prepared.source.get "acceptance" = .obj acceptance → prepared.source.get "integrationCompletion" = .obj completion →
      completion.get "subjectRevision" = acceptance.get "subjectRevision"

end

section
variable {σ : Type} {runtime : ReferenceOrchestrator σ} {scenario : Dict} {account : Account}
  {trace : OrchestrationTrace}
  {s : Locals σ}

/-! ### The outcomes in the trace -/

theorem untraced (p : Preparation) : p.trace.gate_outcome = none := by
  unfold Preparation.trace
  cases p.outcome <;> rfl

/-- The gate outcomes in the trace are those of the runs. -/
theorem traced_outcome (performed : Performed runtime scenario account trace s) {work : WorkTrace}
    (member : work ∈ trace.work)
    (outcome : String) : work.gate_outcome = some outcome ↔
      ∃ run ∈ account.runs, run.work_package_id = work.work_package_id ∧ run.gate_outcome = some outcome := by
  rw [performed.work] at member
  obtain ⟨p,inside,rfl⟩ := List.mem_map.mp member
  rw [trace_now_id]
  cases found : account.runs.find? (fun run => run.work_package_id = p.work_package_id) with
  | none =>
    refine iff_of_false ?_ ?_
    · unfold trace_now
      rw [found]
      split
      · split <;> simp_all [deferred,untraced]
      · simp [untraced]
    · rintro ⟨run,present,same,_⟩
      have absent := List.find?_eq_none.mp found run present
      simp [same] at absent
  | some run =>
    have present := List.mem_of_find?_eq_some found
    have same : run.work_package_id = p.work_package_id := by simpa using List.find?_some found
    obtain ⟨_,_,q,other,prepared,ready,selected⟩ := run_ready performed present
    have visited : p.work_package_id ∈ account.prepared.map Prepared.work_package_id :=
      List.mem_map.mpr ⟨run.prepared,List.mem_filterMap.mpr ⟨q,other,prepared⟩,same⟩
    obtain ⟨entry,decided,_⟩ := (Option.any_eq_true _ _).mp selected
    rw [show run.prepared.work_package_id = p.work_package_id from same] at decided
    have traced : (trace_now account.schedule account.prepared account.runs p).gate_outcome = run.gate_outcome := by
      unfold trace_now
      rw [if_pos visited,decided,found]
      rfl
    rw [traced]
    constructor
    · intro passed
      exact ⟨run,present,same,passed⟩
    · rintro ⟨again,inside,id,passed⟩
      rw [run_unique performed present inside (same.trans id.symm)]
      exact passed

/-! ### The gates -/

theorem evaluated_iff (performed : Performed runtime scenario account trace s) {prepared : Prepared}
    {gate : GateEvaluation} :
    Evaluated s prepared gate ↔ ∃ run ∈ account.runs, run.prepared = prepared ∧ run.gate = some gate := by
  unfold Evaluated
  rw [performed.evaluations,List.mem_filterMap]
  constructor
  · rintro ⟨⟨run,member,evaluated⟩,_⟩
    obtain ⟨_,gateIs,same⟩ := Option.map_eq_some_iff.mp evaluated
    cases same
    exact ⟨run,member,rfl,gateIs⟩
  · rintro ⟨run,member,rfl,gateIs⟩
    obtain ⟨_,_,_,judged⟩ := conclude_ok.mp (performed.concluded run member)
    rw [gateIs] at judged
    obtain ⟨_,acceptance,held,evaluated⟩ := judge_completed judged
    refine ⟨⟨run,member,?_⟩,acceptance,held,evaluated⟩
    unfold Run.evaluation
    rw [gateIs]
    rfl

/-- A promotable run has the gate of its acceptance. -/
theorem promotable_gate (performed : Performed runtime scenario account trace s) {run : Run}
    (member : run ∈ account.runs)
    (promotable : run.promotable = true) : ∃ (gate : GateEvaluation) (acceptance : Dict), run.gate = some gate ∧
      gate.promotable = true ∧
      run.prepared.source.get "acceptance" = .obj acceptance ∧ acceptance.get "subjectId" = gate.subject_id ∧
      acceptance.get "subjectRevision" = gate.subject_revision ∧ promotes gate.outcome = true := by
  obtain ⟨gate,gateIs,promotes⟩ := (Option.any_eq_true _ _).mp promotable
  obtain ⟨_,_,_,judged⟩ := conclude_ok.mp (performed.concluded run member)
  rw [gateIs] at judged
  obtain ⟨_,acceptance,held,evaluated⟩ := judge_completed judged
  obtain ⟨same,subject,revision⟩ := acceptance_ok evaluated
  exact ⟨gate,acceptance,gateIs,promotes,held,get_of_get? subject,get_of_get? revision,same ▸ promotes⟩

/-- A run is promotable exactly when its outcome passed. -/
theorem promotable_outcome (performed : Performed runtime scenario account trace s) {run : Run}
    (member : run ∈ account.runs) :
    run.promotable = true ↔ promoted run.gate_outcome = true :=
  (gated_outcome (performed.concluded run member)).1

/-! ### The members of the batch -/

/-- The ready members are the promoted packages with a completion. -/
theorem ready_iff (performed : Performed runtime scenario account trace s) (value : Json) :
    (∃ completion ∈ account.runs.flatMap (Run.completions account.settings), value =
      .str (text completion "workPackageId")) ↔
      ∃ prepared completion, Promoted s prepared ∧ prepared.source.get "integrationCompletion" = .obj completion ∧
        value = .str prepared.work_package_id := by
  constructor
  · rintro ⟨completion,member,rfl⟩
    obtain ⟨run,inside,promotable,brought,held,rfl⟩ := completion_run performed member
    refine ⟨run.prepared,brought,(promoted_iff performed inside).mpr promotable,held,?_⟩
    unfold text
    rw [completion_fields.1]
    rfl
  · rintro ⟨prepared,brought,promotes,held,rfl⟩
    obtain ⟨answer,_,_,_,answered,_⟩ := id promotes
    obtain ⟨run,inside,rfl,_⟩ := (answered_iff performed).mp answered
    refine ⟨completion_of account.settings run.prepared run.result brought,List.mem_flatMap.mpr ⟨run,inside,?_⟩,?_⟩
    · exact (completed_iff (performed.concluded run inside)).mpr
        ⟨(promoted_iff performed inside).mp promotes,brought,held,rfl⟩
    · unfold text
      rw [completion_fields.1]
      rfl

/-- There is a batch exactly when the members asked for are complete. -/
theorem batch_iff (performed : Performed runtime scenario account trace s) :
    Complete scenario s ↔ ∃ batch, trace.integration_batch = some batch := by
  have complete : Complete scenario s ↔ ∃ integration expected, scenario.get "integration" = .obj integration ∧
      expected_members integration = .ok expected ∧
      same_set expected (ready_members (account.runs.flatMap (Run.completions account.settings))) = true := by
    unfold Complete
    simp only [expected_ready,ready_iff performed]
  rw [complete,performed.batch]
  rcases integration_cases performed.integrated with ⟨absent,outcome⟩ | ⟨_,integration,expected,held,expects,
    ⟨incomplete,_,_,_,outcome⟩ | ⟨same,batch,_,_,outcome⟩⟩
  · rw [outcome]
    refine iff_of_false ?_ (by simp [Integration.integrated])
    rintro ⟨integration,_,held,_⟩
    rw [held] at absent
    cases absent
  · rw [outcome]
    refine iff_of_false ?_ (by simp [Integration.integrated])
    rintro ⟨_,_,again,asked,matched⟩
    rw [held] at again
    cases again
    rw [expects] at asked
    cases asked
    rw [incomplete] at matched
    cases matched
  · rw [outcome]
    exact iff_of_true ⟨integration,expected,held,expects,same⟩ ⟨batch,rfl⟩

/-- The batch is made of the completions. -/
theorem batch_members (performed : Performed runtime scenario account trace s) {batch : Dict}
    (batched : trace.integration_batch = some batch) : items batch "members" =
      (members_of (account.runs.flatMap (Run.completions account.settings))).map Json.obj := by
  rw [performed.batch] at batched
  rcases integration_cases performed.integrated with ⟨_,outcome⟩ |
    ⟨_,_,_,_,_,⟨_,_,_,_,outcome⟩ | ⟨_,_,_,combined,outcome⟩⟩
  · rw [outcome] at batched
    cases batched
  · rw [outcome] at batched
    cases batched
  · rw [outcome] at batched
    cases batched
    obtain ⟨_,_,_,members,_⟩ := combine_parts combined
    unfold items
    rw [members]
    rfl

/-! ### What the items bring -/

theorem brought_accepted (performed : Performed runtime scenario account trace s) (bound : RevisionsBound trace s)
    {run : Run}
    (member : run ∈ account.runs) {gate : GateEvaluation} (gateIs : run.gate = some gate)
    (promotes : promotes gate.outcome = true) : gate.subject_id = .str run.work_package_id ∧
      gate.subject_revision = run.prepared.candidate.get "subjectRevision" := by
  obtain ⟨_,_,p,inside,prepared,_⟩ := run_ready performed member
  have traced : trace_now account.schedule account.prepared account.runs p ∈ trace.work := by
    rw [performed.work]
    exact List.mem_map.mpr ⟨p,inside,rfl⟩
  have id : run.work_package_id = (trace_now account.schedule account.prepared account.runs p).work_package_id := by
    rw [trace_now_id]
    exact Preparation.prepared_id prepared
  have outcome := (traced_outcome performed traced gate.outcome.value).mpr
      ⟨run,member,id,by unfold Run.gate_outcome; rw [gateIs]; rfl⟩
  obtain ⟨_,other,evaluated,same,_,subject,revision⟩ :=
    bound.gates _ traced (by rw [outcome,promoted_value]; exact promotes)
  obtain ⟨again,found,rfl,otherIs⟩ := (evaluated_iff performed).mp evaluated
  obtain rfl := run_unique performed found member (same.trans id.symm)
  rw [gateIs] at otherIs
  cases otherIs
  rw [id]
  exact ⟨subject,revision⟩

theorem bound_brought (performed : Performed runtime scenario account trace s) (bound : RevisionsBound trace s) :
    Brought scenario s := by
  have own : ∀ {prepared : Prepared} {acceptance : Dict}, Promoted s prepared →
      prepared.source.get "acceptance" = .obj acceptance → ∃ run ∈ account.runs, run.prepared = prepared ∧
        run.promotable = true ∧ ∃ gate, run.gate = some gate ∧ promotes gate.outcome = true ∧
          acceptance.get "subjectId" = gate.subject_id ∧ acceptance.get "subjectRevision" = gate.subject_revision := by
    intro prepared acceptance promotes held
    obtain ⟨answer,_,_,_,answered,_⟩ := id promotes
    obtain ⟨run,inside,rfl,_⟩ := (answered_iff performed).mp answered
    have promotable := (promoted_iff performed inside).mp promotes
    obtain ⟨gate,again,gateIs,_,holds,subject,revision,passes⟩ := promotable_gate performed inside promotable
    rw [held] at holds
    cases holds
    exact ⟨run,inside,rfl,promotable,gate,gateIs,passes,subject,revision⟩
  constructor
  · intro prepared acceptance promotes held
    obtain ⟨run,inside,rfl,_,gate,gateIs,passes,subject,revision⟩ := own promotes held
    rw [subject,revision]
    exact brought_accepted performed bound inside gateIs passes
  · intro complete prepared acceptance completion promotes held brought
    obtain ⟨run,inside,rfl,promotable,gate,gateIs,_,_,revision⟩ := own promotes held
    obtain ⟨batch,batched⟩ := (batch_iff performed).mp complete
    have member : .obj (member_of (completion_of account.settings run.prepared run.result completion)) ∈
        items batch "members" := by
      rw [batch_members performed batched]
      refine List.mem_map.mpr ⟨_,mem_members.mpr ⟨_,List.mem_flatMap.mpr ⟨run,inside,?_⟩,rfl⟩,rfl⟩
      exact (completed_iff (performed.concluded run inside)).mpr ⟨promotable,completion,brought,rfl⟩
    obtain ⟨_,other,evaluated,_,named,same⟩ := bound.members batch batched _ member
    obtain ⟨again,found,rfl,otherIs⟩ := (evaluated_iff performed).mp evaluated
    rw [(member_fields _).1,completion_fields.1] at named
    obtain rfl := run_unique performed found inside (Json.str.inj named).symm
    rw [gateIs] at otherIs
    cases otherIs
    rw [(member_fields _).2,completion_fields.2.2] at same
    rw [revision]
    exact same

theorem brought_bound (performed : Performed runtime scenario account trace s) (brought : Brought scenario s) :
    RevisionsBound trace s := by
  have own : ∀ run ∈ account.runs, run.promotable = true →
      ∃ (gate : GateEvaluation) (acceptance : Dict), Evaluated s run.prepared gate ∧
      run.gate = some gate ∧ gate.promotable = true ∧ Promoted s run.prepared ∧
      run.prepared.source.get "acceptance" = .obj acceptance ∧ acceptance.get "subjectId" = gate.subject_id ∧
      acceptance.get "subjectRevision" = gate.subject_revision := by
    intro run inside promotable
    obtain ⟨gate,acceptance,gateIs,passes,held,subject,revision,_⟩ := promotable_gate performed inside promotable
    exact ⟨gate,acceptance,(evaluated_iff performed).mpr ⟨run,inside,rfl,gateIs⟩,gateIs,passes,
      (promoted_iff performed inside).mpr promotable,held,subject,revision⟩
  constructor
  · intro work member passed
    cases outcomeIs : work.gate_outcome with
    | none =>
      rw [outcomeIs] at passed
      cases passed
    | some outcome =>
      obtain ⟨run,inside,id,same⟩ := (traced_outcome performed member outcome).mp outcomeIs
      rw [outcomeIs,← same] at passed
      obtain ⟨gate,acceptance,evaluated,gateIs,_,promotes,held,subject,revision⟩ :=
        own run inside ((promotable_outcome performed inside).mpr passed)
      obtain ⟨named,revised⟩ := brought.accepted _ _ promotes held
      refine ⟨run.prepared,gate,evaluated,id,?_,?_,?_⟩
      · rw [← same]
        unfold Run.gate_outcome
        rw [gateIs]
        rfl
      · rw [← subject,named,← id]
        rfl
      · rw [← revision,revised]
  · intro batch batched member listed
    rw [batch_members performed batched] at listed
    obtain ⟨_,inside,same⟩ := List.mem_map.mp listed
    cases same
    obtain ⟨completion,ready,rfl⟩ := mem_members.mp inside
    obtain ⟨run,present,promotable,own_completion,held,rfl⟩ := completion_run performed ready
    obtain ⟨gate,acceptance,evaluated,_,passes,promotes,accepted,_,revision⟩ := own run present promotable
    refine ⟨run.prepared,gate,evaluated,passes,?_,?_⟩
    · rw [(member_fields _).1,completion_fields.1]
    · rw [(member_fields _).2,completion_fields.2.2,← revision]
      exact brought.integrated ((batch_iff performed).mpr ⟨batch,batched⟩) _ _ _ promotes accepted held

end

/-! ### Every returned trace -/

/-- The revisions of a returned trace agree exactly when the promoted items bring them so. -/
theorem revisions_bound_iff {σ : Type} {runtime : ReferenceOrchestrator σ} {scenario : Dict} {world : σ} {s' : Locals σ}
    {trace : OrchestrationTrace} (ran : execute runtime scenario (start world) = (.ok trace,s')) :
    RevisionsBound trace s' ↔ Brought scenario s' := by
  rcases met_returned (execute_met runtime scenario world) ran with ⟨identity,rfl,rfl⟩ | ⟨account,performed⟩
  · have unpromoted : ∀ prepared, ¬ Promoted (start world) prepared := by
      rintro prepared ⟨_,_,_,_,answered,_⟩
      cases answered
    refine iff_of_true ⟨?_,?_⟩ ⟨?_,?_⟩
    · intro work member
      cases member
    · intro batch batched
      cases batched
    · intro prepared _ promotes
      exact absurd promotes (unpromoted prepared)
    · intro _ prepared _ _ promotes
      exact absurd promotes (unpromoted prepared)
  · exact ⟨bound_brought performed,brought_bound performed⟩

theorem revisions_bound_sample : ∃ trace s', execute (Feasibility.sample_runtime (.obj Feasibility.sample_answer))
    Feasibility.sample_scenario (start ()) = (.ok trace,s') ∧
      (RevisionsBound trace s' ↔ Brought Feasibility.sample_scenario s') := by
  obtain ⟨trace,s',_,_,ran,_⟩ := Feasibility.sample_performed
  exact ⟨trace,s',ran,revisions_bound_iff ran⟩

/-- The package `A` is accepted on proof about `WP`. -/
theorem foreign_acceptance : ∃ trace s', execute (Feasibility.sample_runtime (.obj Feasibility.sample_answer))
    Feasibility.sample_scenario (start ()) = (.ok trace,s') ∧ ¬ RevisionsBound trace s' := by
  obtain ⟨trace,s',_,_,ran,performed⟩ := Feasibility.sample_performed
  refine ⟨trace,s',ran,?_⟩
  intro bound
  have passes : promotes Feasibility.sample_gate.outcome = true := by decide +kernel
  have evaluated : evaluate_acceptance Feasibility.sample_acceptance = .ok Feasibility.sample_gate :=
    Feasibility.returned_ok _ _
  obtain ⟨_,subject,_⟩ := acceptance_ok evaluated
  have inside : Feasibility.sample_ended "A" "x" ∈ [Feasibility.sample_ended "A" "x",
      Feasibility.sample_ended "B" "y"] :=
    List.mem_cons_self
  obtain ⟨own,_⟩ := brought_accepted performed bound inside rfl passes
  rw [own] at subject
  have other : Json.str "WP" = .str "A" := Option.some.inj subject
  exact absurd (Json.str.inj other) (by decide)

end V3Aidlc.AcceptedRevisions
