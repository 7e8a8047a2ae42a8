import V3Aidlc.Runs
import V3Aidlc.ScheduleSafety

/-!
The phases of an execution after the preparations. The prepared packages are
scheduled and the selected ones are run (`run_prepared_met`); what the accepted ones
complete is integrated (`integrate_met`). What the integration comes to is decided by
the scenario and the completions alone (`integration_of`).
-/
namespace V3Aidlc.Executions
open V3Aidlc.Values V3Aidlc.Loops V3Aidlc.Effects V3Aidlc.Effects.Proc V3Aidlc.Contracts
open V3Aidlc.Scheduler (ScheduleDecision ScheduleEntry SchedulePlan schedule_plan_to_dict build_integration_batch
  validate_integration_result)
open V3Aidlc.ReferenceOrchestrator V3Aidlc.RecordedEvents V3Aidlc.Failures V3Aidlc.Preparations V3Aidlc.Runs

/-! ### Scheduling -/

/-- A plan that decides nothing. -/
def NO_PLAN : SchedulePlan := ⟨"","",[],[]⟩

def started_note (settings : Settings) : Note :=
  note "orchestration.started" (.str settings.project_id) (started_payload settings)

def planned_note (settings : Settings) (plan : SchedulePlan) : Note :=
  note "schedule.planned" (.str settings.project_id) [("selected",.arr (plan.selected_work_packages.map Json.str))]

/-- What the events before the first dispatch say. -/
def opening_notes (settings : Settings) (works : List Preparation) (plan : Option SchedulePlan) : List Note :=
  started_note settings :: works.flatMap Preparation.notes ++ (plan.map (planned_note settings)).toList

def prepared_of (works : List Preparation) : List Prepared := works.filterMap Preparation.prepared

section
variable {scenario : Dict} {settings : Settings} {profiles : List Dict} {works : List Preparation}

/-- A plan that was made is that of a situation in which the candidates can be scheduled. -/
theorem plan_made {plan : SchedulePlan} {packages : List Prepared}
    (planned : plan_for scenario settings packages = .ok plan) : ∃ situation : Schedules.Situation,
    Schedules.Schedulable situation settings.now (packages.map Prepared.candidate) ∧
      plan = Schedules.plan_of situation settings.now (packages.map Prepared.candidate) := by
  unfold plan_for at planned
  simp only [bind_ok_iff] at planned
  obtain ⟨reservations,_,policy,_,completed,_,revisions,_,scheduled⟩ := planned
  obtain ⟨held,clock,_,valid,made⟩ := Schedules.schedule_ok.mp scheduled
  exact ⟨_,valid,made⟩

/-- The plan decides every candidate it was made for, by the packages it selects. -/
theorem plan_decides {plan : SchedulePlan} {packages : List Prepared}
    (planned : plan_for scenario settings packages = .ok plan)
    {prepared : Prepared} (member : prepared ∈ packages)
    (id : text prepared.candidate "workPackageId" = prepared.work_package_id) :
    (∃ entry, decision_for plan prepared.work_package_id = some entry) ∧
      (chosen plan prepared = true ↔ prepared.work_package_id ∈ plan.selected_work_packages) := by
  obtain ⟨situation,valid,rfl⟩ := plan_made planned
  obtain ⟨entry,found,selected⟩ := ScheduleSafety.entry_found valid (List.mem_map.mpr ⟨prepared,member,rfl⟩)
  rw [id] at found selected
  refine ⟨⟨entry,found⟩,?_⟩
  unfold chosen decision_for
  rw [found]
  simpa using selected

/-- A plan selects none but the candidates it was made for. -/
theorem plan_selects {plan : SchedulePlan} {packages : List Prepared}
    (planned : plan_for scenario settings packages = .ok plan)
    {id : String} (selected : id ∈ plan.selected_work_packages) :
    ∃ prepared ∈ packages, text prepared.candidate "workPackageId" = id := by
  obtain ⟨situation,_,rfl⟩ := plan_made planned
  obtain ⟨candidate,chosen,named⟩ := List.mem_map.mp selected
  have listed := (ScheduleSafety.ordered_perm _ _).mem_iff.mp ((Greedy.select_sublist _).subset chosen)
  obtain ⟨prepared,member,rfl⟩ := List.mem_map.mp listed
  exact ⟨prepared,member,named⟩

/-- Every prepared package comes from a work item that was ready. -/
theorem prepared_ready {items : List Json}
    (each : List.Forall₂ (fun item p => preparation settings profiles item = .ok p) items works) {prepared : Prepared}
    (member : prepared ∈ prepared_of works) :
    ∃ item ∈ items, ∃ p ∈ works, p.prepared = some prepared ∧ Ready settings profiles item p prepared := by
  obtain ⟨p,inside,ready⟩ := List.mem_filterMap.mp member
  obtain ⟨item,listed,ran⟩ := forall₂_left each.flip p inside
  exact ⟨item,listed,p,inside,ready,preparation_ready ran ready⟩

theorem candidate_id {item : Json} {p : Preparation} {prepared : Prepared}
    (ready : Ready settings profiles item p prepared) :
    text prepared.candidate "workPackageId" = prepared.work_package_id := by
  rw [ready.candidate_same,ready.id_same]
  refine text_of_get? ?_
  rw [get?_set_ne _ _ (by decide)]
  exact ready.id

/-- The plan of the prepared packages; without any there is none. -/
def Scheduled (scenario : Dict) (settings : Settings) (works : List Preparation) : Option SchedulePlan → Prop
  | none => prepared_of works = []
  | some plan => plan_for scenario settings (prepared_of works) = .ok plan

theorem planned_of {items : List Json} {plan : SchedulePlan}
    (each : List.Forall₂ (fun item p => preparation settings profiles item = .ok p) items works)
    (distinct : (works.map Preparation.work_package_id).Nodup)
    (scheduled : plan_for scenario settings (prepared_of works) = .ok plan) : Planned works plan := by
  refine ⟨distinct,?_,?_⟩
  · intro prepared member
    obtain ⟨_,_,_,_,_,ready⟩ := prepared_ready each member
    exact admitted_of_ready ready
  · intro prepared member
    obtain ⟨_,_,_,_,_,ready⟩ := prepared_ready each member
    exact (plan_decides scheduled member (candidate_id ready)).1

end

section
variable {σ : Type} {runtime : ReferenceOrchestrator σ} {scenario : Dict} {settings : Settings} {profiles : List Dict}
  {works : List Preparation} {s : Locals σ}

/-- The state after the prepared packages have been visited. -/
structure Visited (runtime : ReferenceOrchestrator σ) (scenario : Dict) (settings : Settings) (profiles : List Dict)
    (works : List Preparation)
    (plan : Option SchedulePlan) (runs : List Run) (s : Locals σ) : Prop where
  each : List.Forall₂ (fun item p => preparation settings profiles item = .ok p) settings.work_items works
  distinct : (works.map Preparation.work_package_id).Nodup
  scheduled : Scheduled scenario settings works plan
  dispatching : Dispatching runtime settings (opening_notes settings works plan) works (plan.getD NO_PLAN)
    (prepared_of works) runs s

/-- Why an execution stopped before its integration. -/
inductive Stopped (runtime : ReferenceOrchestrator σ) (scenario : Dict) (settings : Settings) (works : List Preparation)
    (e : PyError) (s : Locals σ) : Prop
  | unplanned (failed : plan_for scenario settings (prepared_of works) = .error e) (unused : s.invocations = [])
  | interrupted {plan : SchedulePlan} (scheduled : plan_for scenario settings (prepared_of works) = .ok plan)
    (interrupted : Interrupted runtime works plan e s)

theorem run_prepared_met (grounded : Grounded settings)
    (prepared : PreparedAll settings profiles [started_note settings] settings.work_items works s) :
    Met (fun plan_dict s' => ∃ plan runs, plan_dict = plan.map schedule_plan_to_dict ∧
        Visited runtime scenario settings profiles works plan runs s')
      (Stopped runtime scenario settings works) (run_prepared runtime scenario settings s) := by
  unfold run_prepared
  rw [bind_read,prepared.prepared]
  cases some_prepared : (works.filterMap Preparation.prepared).isEmpty with
  | true =>
    have none_prepared : prepared_of works = [] := List.isEmpty_iff.mp some_prepared
    refine ⟨none,[],rfl,prepared.each,prepared.distinct,none_prepared,?_⟩
    rw [none_prepared]
    refine dispatching_start prepared prepared.recorded ?_
    rw [prepared.said]
    simp [opening_notes]
  | false =>
    simp only [Bool.false_eq_true,↓reduceIte]
    cases scheduled : plan_for scenario settings (works.filterMap Preparation.prepared) with
    | error e =>
      rw [bind_lift_error rfl]
      exact .unplanned scheduled prepared.idle.invocations
    | ok plan =>
      have typed : blank "schedule.planned" = false := by decide
      have aggregated : blank "project" = false := by decide
      have later : Recorded settings (noted settings "schedule.planned" "project" (.str settings.project_id)
          [("selected",.arr (plan.selected_work_packages.map Json.str))] s) :=
        recorded_next grounded prepared.recorded typed aggregated grounded.project
      rw [bind_lift_ok rfl,bind_record grounded prepared.recorded typed aggregated grounded.project]
      have begun : Dispatching runtime settings (opening_notes settings works (some plan)) works plan [] [] _ :=
        dispatching_start prepared later (by
          show List.map said (noted settings "schedule.planned" "project" (.str settings.project_id) _ s).histories = _
          rw [said_noted,prepared.said]
          rfl)
      refine met_bind (met_weaken (dispatch_all grounded (planned_of prepared.each prepared.distinct scheduled) _
        ⟨[],begun⟩) (fun _ _ visited => visited) (fun _ _ interrupted => .interrupted scheduled interrupted)) ?_
      rintro _ after ⟨runs,visited⟩
      exact ⟨some plan,runs,rfl,prepared.each,prepared.distinct,scheduled,visited⟩

end

/-! ### Integration -/

/-- What the integration of a scenario comes to. -/
inductive Integration where
  | absent
  | blocked (batch_id : Json) (expected ready : List Json)
  | evaluated (batch result : Dict)

/-- The batch of the completions and the result that was reported for it. -/
def combine (completions : List Dict) (integration : Dict) : Py (Dict × Dict) := do
  let batch_id ← item integration "batchId"
  let target_revision ← item integration "targetRevision"
  let owner_role ← item integration "ownerRole"
  let required_checks ← item integration "requiredChecks"
  let batch ← build_integration_batch completions batch_id target_revision owner_role required_checks
  let reported ← item integration "result" >>= new_dict
  let result := reported.update [("schemaVersion",.str "0.1"),("batchId",batch.get "batchId"),
    ("batchDigest",batch.get "batchDigest"),("targetRevision",batch.get "targetRevision")]
  validate_integration_result result batch
  return (batch,result)

def integration_of (scenario : Dict) (completions : List Dict) : Py Integration :=
  if (scenario.get "integration").isNull then return .absent
  else do
    let integration ← required_object scenario "integration" "integration must be an object"
    let expected ← expected_members integration
    if !same_set expected (ready_members completions) then do
      let expected ← sorted_values expected
      let ready ← sorted_values (ready_members completions)
      return .blocked (integration.getOr "batchId" (.str "unknown")) expected ready
    else do
      let (batch,result) ← combine completions integration
      return .evaluated batch result

namespace Integration

def integrated : Integration → Integrated
  | .absent => ⟨none,none⟩
  | .blocked _ _ _ => ⟨none,some "blocked"⟩
  | .evaluated batch result => ⟨some batch,some (text result "status")⟩

def fails : Integration → Bool
  | .absent => false
  | .blocked _ _ _ => true
  | .evaluated _ result => text result "status" ≠ "passed"

def notes : Integration → List Note
  | .absent => []
  | .blocked batch_id expected ready =>
    [note "integration.blocked" batch_id [("expectedMembers",.arr expected),("readyMembers",.arr ready)]]
  | .evaluated batch result =>
    [note "integration.evaluated" (batch.get "batchId") [("status",.str (text result "status"))]]

/-- The event about the integration has something to be about. -/
def named : Integration → Prop
  | .blocked batch_id _ _ => ∃ id, batch_id = .str id ∧ blank id = false
  | _ => True

end Integration

/-- A batch that a result was accepted for has an id. -/
theorem combine_named {completions : List Dict} {integration batch result : Dict}
    (combined : combine completions integration = .ok (batch,result)) :
    ∃ id, batch.get "batchId" = .str id ∧ blank id = false := by
  unfold combine at combined
  simp only [bind_ok_iff,pure_ok_iff,Prod.mk.injEq] at combined
  obtain ⟨_,_,_,_,_,_,_,_,_,_,_,_,_,valid,rfl,rfl⟩ := combined
  unfold validate_integration_result at valid
  obtain ⟨_,batched,_⟩ := bind_ok_iff.mp valid
  unfold Scheduler.validate_integration_batch at batched
  obtain ⟨_,texts,_⟩ := bind_ok_iff.mp batched
  obtain ⟨id,found,filled⟩ := (required_strings_ok _).mp texts "batchId" (by decide)
  exact ⟨id,get_of_get? found,filled⟩

section
variable {σ : Type} {scenario : Dict} {settings : Settings} {s : Locals σ}

/-- The integration came to its outcome. -/
structure Combined (settings : Settings) (outcome : Integration) (s s' : Locals σ) : Prop where
  recorded : Recorded settings s'
  said : s'.histories.map said = s.histories.map said ++ outcome.notes
  any_failure : s'.any_failure = (s.any_failure || outcome.fails)
  invocations : s'.invocations = s.invocations
  answers : s'.answers = s.answers
  evaluations : s'.evaluations = s.evaluations
  frame : Frame s s'

/-- The integration failed, or its event could not be written. -/
structure Uncombined (outcome : Py Integration) (e : PyError) (s s' : Locals σ) : Prop where
  histories : s'.histories = s.histories
  invocations : s'.invocations = s.invocations
  answers : s'.answers = s.answers
  cause : outcome = .error e ∨ ¬ Governed e ∧ ∃ unnamed, outcome = .ok unnamed ∧ ¬ unnamed.named

theorem combine_met {integration : Dict} (grounded : Grounded settings) (recorded : Recorded settings s) :
    Met (fun integrated s' => ∃ batch result, combine s.completions integration = .ok (batch,result) ∧
        integrated = (Integration.evaluated batch result).integrated ∧ Combined settings (.evaluated batch result) s s')
      (fun e s' => s' = s ∧ combine s.completions integration = .error e) (integrate_ready settings integration s) := by
  have split : integrate_ready settings integration s = (lift (combine s.completions integration) >>= fun combined => do
      modify (fun s => { s with any_failure := s.any_failure || text combined.2 "status" ≠ "passed" })
      record settings "integration.evaluated" "integration-batch" (combined.1.get "batchId")
        [("status",.str (text combined.2 "status"))]
      return ⟨some combined.1,some (text combined.2 "status")⟩ : Execution σ Integrated) s := by
    unfold integrate_ready combine
    rw [bind_read]
    simp only [lift_bind,lift_pure_bind]
  rw [split]
  refine met_lift ?_ (fun e failed => ⟨rfl,failed⟩)
  rintro ⟨batch,result⟩ combined
  obtain ⟨id,idIs,filled⟩ := combine_named combined
  have typed : blank "integration.evaluated" = false := by decide
  have aggregated : blank "integration-batch" = false := by decide
  have before : ∀ t : Locals σ, t.histories = s.histories → t.event_number = s.event_number →
      t.last_event_id = s.last_event_id → Recorded settings t := fun t => recorded_kept recorded
  rw [bind_modify,idIs,bind_record grounded (by exact before _ rfl rfl rfl) typed aggregated filled]
  refine ⟨batch,result,combined,rfl,recorded_next grounded (before _ rfl rfl rfl) typed aggregated filled,?_,rfl,rfl,
    rfl,
    rfl,⟨rfl,rfl,rfl,rfl,rfl,rfl,rfl⟩⟩
  rw [said_noted,Integration.notes,idIs]

theorem integrate_met (grounded : Grounded settings) (recorded : Recorded settings s) :
    Met (fun integrated s' => ∃ outcome, integration_of scenario s.completions = .ok outcome ∧
        integrated = outcome.integrated ∧ Combined settings outcome s s')
      (fun e s' => Uncombined (integration_of scenario s.completions) e s s') (integrate scenario settings s) := by
  unfold integrate integration_of
  by_cases absent : (scenario.get "integration").isNull = true
  · rw [if_pos absent,if_pos absent]
    exact ⟨.absent,rfl,rfl,recorded,(List.append_nil _).symm,(Bool.or_false _).symm,rfl,rfl,rfl,
      ⟨rfl,rfl,rfl,rfl,rfl,rfl,rfl⟩⟩
  rw [if_neg absent,if_neg absent]
  cases required_object scenario "integration" "integration must be an object" with
  | error e => exact ⟨rfl,rfl,rfl,.inl rfl⟩
  | ok integration =>
    rw [bind_lift_ok rfl,ok_bind]
    cases expected_members integration with
    | error e => exact ⟨rfl,rfl,rfl,.inl rfl⟩
    | ok expected =>
      rw [bind_lift_ok rfl,ok_bind,bind_read]
      by_cases other : (!same_set expected (ready_members s.completions)) = true
      · rw [if_pos other,if_pos other,bind_modify]
        cases sorted_values expected with
        | error e => exact ⟨rfl,rfl,rfl,.inl rfl⟩
        | ok expected =>
          rw [bind_lift_ok rfl,ok_bind]
          cases sorted_values (ready_members s.completions) with
          | error e => exact ⟨rfl,rfl,rfl,.inl rfl⟩
          | ok ready =>
            rw [bind_lift_ok rfl,ok_bind]
            refine met_bind (met_of_outcomes (fun _ _ ran => record_ok
              (by exact recorded_kept recorded rfl rfl rfl) ran)
              ?_) ?_
            · intro e after ran
              have state := record_raised ran
              subst state
              refine ⟨rfl,rfl,rfl,.inr ⟨record_ungoverned ran,_,rfl,?_⟩⟩
              rintro ⟨id,idIs,filled⟩
              rw [idIs,record_total grounded (by exact recorded_kept recorded rfl rfl rfl) (by decide)
                (by decide) filled]
                at ran
              cases ran
            · rintro _ after ⟨rfl,later⟩
              exact ⟨_,rfl,rfl,later,said_noted,(Bool.or_true _).symm,rfl,rfl,rfl,⟨rfl,rfl,rfl,rfl,rfl,rfl,rfl⟩⟩
      · rw [if_neg other,if_neg other]
        refine met_weaken (combine_met grounded recorded) ?_ ?_
        · rintro _ after ⟨batch,result,combined,rfl,done⟩
          exact ⟨_,by rw [combined]; rfl,rfl,done⟩
        · rintro e after ⟨rfl,failed⟩
          exact ⟨rfl,rfl,rfl,.inl (by rw [failed]; rfl)⟩

end

/-! ### Completions -/

/-- The completions that the answers bring to the integration. -/
def completions_from (settings : Settings) (answers : List (Prepared × Json)) : List Dict :=
  answers.flatMap (fun answered =>
    match conclude answered.1 answered.2 with
    | .ok run => run.completions settings
    | .error _ => [])

theorem completions_concluded {settings : Settings} {runs : List Run}
    (concluded : ∀ run ∈ runs, conclude run.prepared run.answer = .ok run) :
    completions_from settings (runs.map (fun run => (run.prepared,run.answer))) =
      runs.flatMap (Run.completions settings) := by
  unfold completions_from
  rw [List.flatMap_map]
  refine List.flatMap_congr ?_
  intro run member
  rw [concluded run member]

end V3Aidlc.Executions
