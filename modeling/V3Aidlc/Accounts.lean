import V3Aidlc.Executions

/-!
A whole execution. What it did is an account: the preparations, the plan, the runs
that ended and the integration (`Account`). The account fixes the trace and the
history of an execution that returned (`execute_returned`). An execution that raised
after a dispatch was halted: its loop was interrupted, or the integration came to
nothing (`execute_raised`).
-/
namespace V3Aidlc.Accounts
open V3Aidlc.Values V3Aidlc.Loops V3Aidlc.Effects V3Aidlc.Effects.Proc V3Aidlc.Contracts V3Aidlc.Histories
open V3Aidlc.Scheduler (ScheduleDecision ScheduleEntry SchedulePlan schedule_plan_to_dict)
open V3Aidlc.ReferenceOrchestrator V3Aidlc.RecordedEvents V3Aidlc.Failures V3Aidlc.Preparations V3Aidlc.Runs
open V3Aidlc.Executions

/-! ### The settings -/

/-- The scenario is one for managed work, with these settings. -/
def Managed (scenario : Dict) (settings : Settings) : Prop :=
  ∃ identity, identify scenario = .ok identity ∧ identity.activation.decision ≠ .STAY_CONVERSATIONAL ∧
    configure scenario identity = .ok settings

section
variable {scenario : Dict} {settings : Settings}

theorem managed_unique {other : Settings} (managed : Managed scenario settings) (again : Managed scenario other) :
    settings = other := by
  obtain ⟨identity,identified,_,configured⟩ := managed
  obtain ⟨same,identifiedAgain,_,configuredAgain⟩ := again
  rw [identified] at identifiedAgain
  cases identifiedAgain
  rw [configured] at configuredAgain
  exact Except.ok.inj configuredAgain

/-- Every text of a managed scenario has a visible character. -/
structure Texts (settings : Settings) : Prop where
  scenario_id : blank settings.scenario_id = false
  now : blank settings.now = false
  project_id : blank settings.project_id = false
  route_id : blank settings.selection.route_id = false
  stage : blank settings.stage = false
  state_revision : blank settings.state_revision = false

theorem route_named {route mode_library facts : Dict} {stage : String} {posture : Json} {optional : List Json}
    {selection : LifecycleContracts.SelectionResult}
    (selected : LifecycleContracts.select_modes route mode_library stage facts posture optional = .ok selection) :
    blank selection.route_id = false := by
  unfold LifecycleContracts.select_modes at selected
  obtain ⟨_,valid,selected⟩ := bind_ok_iff.mp selected
  obtain ⟨_,_,selected⟩ := bind_ok_iff.mp selected
  split at selected
  · cases selected
  obtain ⟨_,_,selected⟩ := bind_ok_iff.mp selected
  cases selected
  unfold LifecycleContracts.validate_route_contract at valid
  obtain ⟨_,texts,_⟩ := bind_ok_iff.mp valid
  obtain ⟨id,found,filled⟩ := (required_strings_ok _).mp texts "id" (by decide)
  rw [text_of_get? found]
  exact filled

/-- The settings are read from the scenario. -/
structure Given (scenario : Dict) (settings : Settings) : Prop where
  scenario_id : scenario.get "scenarioId" = .str settings.scenario_id
  project_id : scenario.get "projectId" = .str settings.project_id
  state_revision : scenario.get "stateRevision" = .str settings.state_revision
  now : scenario.get "now" = .str settings.now
  stage : scenario.get "stage" = .str settings.stage
  policies : scenario.get "authorizationPolicies" = .arr settings.policies
  recipe : scenario.get "contextRecipe" = .obj settings.recipe
  work : scenario.get "work" = .arr settings.work_items

theorem required_list_ok {key : String} {values : List Json} (ran : required_list scenario key = .ok values) :
    scenario.get key = .arr values := by
  unfold required_list at ran
  split at ran
  · cases ran
  · rename_i items listed
    obtain ⟨_,_,ran⟩ := bind_ok_iff.mp ran
    cases ran
    exact list?_eq_some.mp listed

theorem managed_given (managed : Managed scenario settings) : Given scenario settings ∧ Texts settings := by
  obtain ⟨identity,identified,_,configured⟩ := managed
  unfold identify ReferenceOrchestrator.required_string at identified
  simp only [bind_ok_iff,pure_ok_iff,required_string_ok] at identified
  obtain ⟨_,⟨scenario_id,named⟩,_,⟨project_id,owned⟩,_,⟨state_revision,revised⟩,_,⟨now,timed⟩,_,⟨stage,staged⟩,_,_,
    rfl⟩ :=
    identified
  unfold configure select_scenario_modes at configured
  simp only [bind_ok_iff,pure_ok_iff] at configured
  obtain ⟨_,⟨_,_,_,_,_,_,_,_,selected⟩,_,policies,_,recipe,_,work,rfl⟩ := configured
  exact ⟨⟨get_of_get? scenario_id,get_of_get? project_id,get_of_get? state_revision,get_of_get? now,get_of_get? stage,
    required_list_ok policies,required_object_ok.mp recipe,required_list_ok work⟩,
    named,timed,owned,route_named selected,staged,revised⟩

end

/-! ### The plan in the trace -/

section
variable {scenario : Dict} {settings : Settings} {profiles : List Dict} {works : List Preparation} {plan : SchedulePlan}

/-- The plan selects the prepared packages that are chosen, and no others. -/
theorem plan_selected {items : List Json}
    (each : List.Forall₂ (fun item p => preparation settings profiles item = .ok p) items works)
    (scheduled : plan_for scenario settings (prepared_of works) = .ok plan) {id : String} :
    id ∈ plan.selected_work_packages ↔
      ∃ prepared ∈ (prepared_of works).filter (chosen plan), prepared.work_package_id = id := by
  constructor
  · intro selected
    obtain ⟨prepared,member,named⟩ := plan_selects scheduled selected
    obtain ⟨_,_,_,_,_,ready⟩ := prepared_ready each member
    have own := candidate_id ready
    refine ⟨prepared,List.mem_filter.mpr ⟨member,?_⟩,own.symm.trans named⟩
    rw [(plan_decides scheduled member own).2,← own,named]
    exact selected
  · rintro ⟨prepared,visited,rfl⟩
    obtain ⟨member,selected⟩ := List.mem_filter.mp visited
    obtain ⟨_,_,_,_,_,ready⟩ := prepared_ready each member
    exact (plan_decides scheduled member (candidate_id ready)).2.mp selected

/-- A package is prepared from the one item that has its id. -/
theorem prepared_from (distinct : (works.map Preparation.work_package_id).Nodup) {p : Preparation} {prepared : Prepared}
    (inside : p ∈ works) (member : prepared ∈ prepared_of works) (same : prepared.work_package_id = p.work_package_id) :
    p.prepared = some prepared := by
  obtain ⟨q,other,ready⟩ := List.mem_filterMap.mp member
  have equal : q = p := by
    refine List.inj_on_of_nodup_map distinct other inside ?_
    rw [← same,Preparation.prepared_id ready]
  rw [← equal]
  exact ready

theorem prepared_visited (distinct : (works.map Preparation.work_package_id).Nodup) {p : Preparation}
    (inside : p ∈ works) :
    p.work_package_id ∈ (prepared_of works).map Prepared.work_package_id ↔ ∃ prepared, p.prepared = some prepared := by
  constructor
  · intro visited
    obtain ⟨prepared,member,same⟩ := List.mem_map.mp visited
    exact ⟨prepared,prepared_from distinct inside member same⟩
  · rintro ⟨prepared,ready⟩
    exact List.mem_map.mpr ⟨prepared,List.mem_filterMap.mpr ⟨p,inside,ready⟩,Preparation.prepared_id ready⟩

theorem unprepared_decision {p : Preparation} (unprepared : p.prepared = none) :
    p.trace.schedule_decision = "not_eligible" := by
  unfold Preparation.prepared at unprepared
  unfold Preparation.trace
  cases outcome : p.outcome <;> rw [outcome] at unprepared <;> first | rfl | cases unprepared

/-- The trace of an item says that it is selected when the plan selects it. -/
theorem traced_selected {items : List Json} {runs : List Run}
    (each : List.Forall₂ (fun item p => preparation settings profiles item = .ok p) items works)
    (distinct : (works.map Preparation.work_package_id).Nodup)
    (scheduled : plan_for scenario settings (prepared_of works) = .ok plan) {p : Preparation} (inside : p ∈ works) :
    (trace_now plan (prepared_of works) runs p).schedule_decision = "selected" ↔
      p.work_package_id ∈ plan.selected_work_packages := by
  cases ready : p.prepared with
  | none =>
    have unvisited : p.work_package_id ∉ (prepared_of works).map Prepared.work_package_id := by
      rw [prepared_visited distinct inside,ready]
      simp
    unfold trace_now
    rw [if_neg unvisited,unprepared_decision ready]
    refine iff_of_false (by decide) ?_
    intro selected
    obtain ⟨prepared,visited,same⟩ := (plan_selected each scheduled).mp selected
    have here := prepared_from distinct inside (List.mem_filter.mp visited).1 same
    rw [ready] at here
    cases here
  | some prepared =>
    have member : prepared ∈ prepared_of works := List.mem_filterMap.mpr ⟨p,inside,ready⟩
    have id := Preparation.prepared_id ready
    obtain ⟨_,_,_,_,_,own⟩ := prepared_ready each member
    obtain ⟨⟨entry,decided⟩,selects⟩ := plan_decides scheduled member (candidate_id own)
    have decision : (trace_now plan (prepared_of works) runs p).schedule_decision = entry.decision.value := by
      unfold trace_now
      rw [if_pos ((prepared_visited distinct inside).mpr ⟨prepared,ready⟩),← id,decided]
      cases runs.find? (fun run => run.work_package_id = prepared.work_package_id) <;> rfl
    rw [decision,← id,← selects]
    unfold chosen
    rw [decided]
    cases choice : entry.decision <;> simp [choice,ScheduleDecision.value]

/-- The plan in the trace lists what the plan selects. -/
theorem planned_ids (plan : SchedulePlan) : selected_ids (schedule_plan_to_dict plan) =
    plan.selected_work_packages := by
  have held : strings? (Dict.get (schedule_plan_to_dict plan) "selectedWorkPackageIds") =
      some plan.selected_work_packages := by
    rw [strings?_eq_some]
    simp [schedule_plan_to_dict,Dict.get,Dict.get?]
  unfold selected_ids
  rw [held]
  rfl

theorem plan_traced {items : List Json} {runs : List Run}
    (each : List.Forall₂ (fun item p => preparation settings profiles item = .ok p) items works)
    (distinct : (works.map Preparation.work_package_id).Nodup)
    (scheduled : plan_for scenario settings (prepared_of works) = .ok plan) :
    same_members (selected_ids (schedule_plan_to_dict plan))
      (((works.map (trace_now plan (prepared_of works) runs)).filter
        (fun item => item.schedule_decision = "selected")).map
        WorkTrace.work_package_id) = true := by
  rw [planned_ids]
  unfold same_members
  rw [Bool.and_eq_true,List.all_eq_true,List.all_eq_true]
  constructor
  · intro id selected
    obtain ⟨prepared,visited,rfl⟩ := (plan_selected each scheduled).mp selected
    obtain ⟨p,inside,ready⟩ := List.mem_filterMap.mp (List.mem_filter.mp visited).1
    have same := Preparation.prepared_id ready
    rw [same] at selected
    rw [List.contains_iff_mem,same]
    refine List.mem_map.mpr ⟨trace_now plan (prepared_of works) runs p,
      List.mem_filter.mpr ⟨List.mem_map.mpr ⟨p,inside,rfl⟩,?_⟩,
      trace_now_id _ _ _ p⟩
    exact decide_eq_true ((traced_selected each distinct scheduled inside).mpr selected)
  · intro id traced
    obtain ⟨item,member,rfl⟩ := List.mem_map.mp traced
    obtain ⟨listed,selected⟩ := List.mem_filter.mp member
    obtain ⟨p,inside,rfl⟩ := List.mem_map.mp listed
    rw [List.contains_iff_mem,trace_now_id]
    exact (traced_selected each distinct scheduled inside).mp (of_decide_eq_true selected)

end

/-! ### The account -/

/-- What a managed execution did. -/
structure Account where
  settings : Settings
  profiles : List Dict
  works : List Preparation
  plan : Option SchedulePlan
  runs : List Run
  integration : Integration

namespace Account

def schedule (account : Account) : SchedulePlan := account.plan.getD NO_PLAN
def prepared (account : Account) : List Prepared := prepared_of account.works
def blocked (account : Account) : Bool := account.works.any Preparation.blocks
def undecided (account : Account) : Bool := account.works.any Preparation.asks
def failed (account : Account) : Bool :=
  account.runs.any (fun run => !run.promotable) || account.integration.fails
def waiting (account : Account) : Bool := account.prepared.any (fun prepared => !chosen account.schedule prepared)

/-- The first that applies. -/
def verdict (account : Account) : String :=
  if account.blocked then "blocked"
  else if account.undecided then "decision_required"
  else if account.failed then "failed"
  else if account.waiting then "waiting"
  else "completed"

def completed_note (account : Account) : Note :=
  note "orchestration.completed" (.str account.settings.project_id) [("status",.str account.verdict)]

/-- What the events of the execution say. -/
def notes (account : Account) : List Note :=
  opening_notes account.settings account.works account.plan ++ account.runs.flatMap Run.notes ++
    account.integration.notes ++ [account.completed_note]

/-- The traces of the work items. -/
def work (account : Account) : List WorkTrace :=
  account.works.map (trace_now account.schedule account.prepared account.runs)

theorem schedule_some {account : Account} {plan : SchedulePlan} (planned : account.plan = some plan) :
    account.schedule = plan := by
  unfold schedule
  rw [planned]
  rfl

theorem verdict_managed (account : Account) : TRACE_STATUSES.contains account.verdict = true ∧
    account.verdict ≠ "not_managed" := by
  unfold verdict
  split_ifs <;> decide

end Account

/-- The adapter published the profile. -/
def Offered {σ : Type} (entry : String × AgentAdapter σ) (profile : Dict) : Prop :=
  ∃ world, (entry.2.capability_profile world).1 = .ok profile

/-- The registered adapters published these profiles. -/
def Published {σ : Type} (runtime : ReferenceOrchestrator σ) (profiles : List Dict) : Prop :=
  List.Forall₂ Offered runtime.adapters profiles

/-- The execution returned the trace with the account. -/
structure Performed {σ : Type} (runtime : ReferenceOrchestrator σ) (scenario : Dict) (account : Account)
    (trace : OrchestrationTrace) (s : Locals σ) : Prop where
  managed : Managed scenario account.settings
  published : Published runtime account.profiles
  each : List.Forall₂ (fun item p => preparation account.settings account.profiles item = .ok p)
    account.settings.work_items account.works
  distinct : (account.works.map Preparation.work_package_id).Nodup
  scheduled : Scheduled scenario account.settings account.works account.plan
  visited : account.runs.map Run.prepared = account.prepared.filter (chosen account.schedule)
  concluded : ∀ run ∈ account.runs, conclude run.prepared run.answer = .ok run
  replied : ∀ run ∈ account.runs, Replied runtime run.prepared run.answer
  integrated : integration_of scenario (account.runs.flatMap (Run.completions account.settings)) =
    .ok account.integration
  invocations : s.invocations = account.runs.map Run.invocation
  answers : s.answers = account.runs.map (fun run => (run.prepared,run.answer))
  evaluations : s.evaluations = account.runs.filterMap Run.evaluation
  events : trace.events = s.histories
  said : s.histories.map said = account.notes
  recorded : Recorded account.settings s
  project : trace.project_id = account.settings.project_id
  status : trace.status = account.verdict
  work : trace.work = account.work
  plan : trace.schedule_plan = account.plan.map schedule_plan_to_dict
  batch : trace.integration_batch = account.integration.integrated.batch
  integration_status : trace.integration_status = account.integration.integrated.status
  valid : validate_trace trace = .ok ()

/-- An execution that had prepared its items raised the error. -/
structure Halted {σ : Type} (runtime : ReferenceOrchestrator σ) (scenario : Dict) (settings : Settings)
    (profiles : List Dict)
    (works : List Preparation) (e : PyError) (s : Locals σ) : Prop where
  managed : Managed scenario settings
  published : Published runtime profiles
  each : List.Forall₂ (fun item p => preparation settings profiles item = .ok p) settings.work_items works
  cause : Stopped runtime scenario settings works e s ∨ ∃ plan runs t,
    Visited runtime scenario settings profiles works plan runs t ∧
      Uncombined (integration_of scenario t.completions) e t s

/-! ### The trace is valid -/

section
variable {σ : Type} {scenario : Dict} {account : Account} {s : Locals σ}

theorem passed_has_batch (integration : Integration) :
    (integration.integrated.status = some "passed" && integration.integrated.batch.isNone) = false := by
  cases integration <;> simp [Integration.integrated]

/-- The trace that an execution with the account assembles passes its check. -/
theorem assembled_valid {summary : String} (managed : Managed scenario account.settings)
    (each : List.Forall₂ (fun item p => preparation account.settings account.profiles item = .ok p)
      account.settings.work_items account.works)
    (distinct : (account.works.map Preparation.work_package_id).Nodup)
    (scheduled : Scheduled scenario account.settings account.works account.plan)
      (recorded : Recorded account.settings s)
    (some_event : s.histories ≠ []) (summarised : blank summary = false) :
    validate_trace (managed_trace account.settings
      (account.plan.map schedule_plan_to_dict) account.integration.integrated s
      account.work account.verdict summary) = .ok () := by
  have texts := (managed_given managed).2
  have verified : Recovery.verify_event_chain s.histories = .ok () := recorded.chain
  have ids : account.work.map WorkTrace.work_package_id = account.works.map Preparation.work_package_id := by
    unfold Account.work
    rw [List.map_map]
    exact List.map_congr_left (fun p _ => trace_now_id _ _ _ p)
  have filled : ∀ text ∈ [("scenario_id",account.settings.scenario_id),("project_id",account.settings.project_id),
      ("route_id",account.settings.selection.route_id),("stage",account.settings.stage),
      ("state_revision",account.settings.state_revision),("summary",summary)],
      ReferenceOrchestrator.reject (blank text.2) ("trace " ++ text.1 ++ " must be a non-empty string") = .ok () := by
    intro text member
    simp only [List.mem_cons,List.not_mem_nil,or_false] at member
    unfold ReferenceOrchestrator.reject
    rw [reject_if_ok]
    rcases member with rfl | rfl | rfl | rfl | rfl | rfl
    · exact texts.scenario_id
    · exact texts.project_id
    · exact texts.route_id
    · exact texts.stage
    · exact texts.state_revision
    · exact summarised
  have own : s.histories.any (fun event => !(event.get "projectId").eq (.str account.settings.project_id)) = false := by
    rw [List.any_eq_false]
    intro event member
    obtain ⟨_,_,_,_,of_project,_,_⟩ := recorded.numbered event member
    simp [of_project]
  have planned : ∀ plan, account.plan = some plan → same_members (selected_ids (schedule_plan_to_dict plan))
      ((account.work.filter (fun item => item.schedule_decision = "selected")).map WorkTrace.work_package_id) =
        true := by
    intro plan planIs
    unfold Account.work Account.schedule Account.prepared
    rw [planIs] at scheduled ⊢
    exact plan_traced each distinct scheduled
  have managed_ok : validate_managed (managed_trace account.settings (account.plan.map schedule_plan_to_dict)
      account.integration.integrated s account.work account.verdict summary) = .ok () := by
    unfold validate_managed managed_trace
    simp only [bind_ok_iff,ReferenceOrchestrator.reject,reject_if_ok]
    refine ⟨(),by simpa using some_event,(),verified,(),own,?_⟩
    cases planIs : account.plan with
    | none => exact (reject_if_ok _).mpr (passed_has_batch account.integration)
    | some plan =>
      refine bind_ok_iff.mpr ⟨(),(reject_if_ok _).mpr ?_,(reject_if_ok _).mpr (passed_has_batch account.integration)⟩
      rw [Bool.not_eq_false']
      exact planned plan planIs
  unfold validate_trace
  simp only [bind_ok_iff,ReferenceOrchestrator.reject,reject_if_ok]
  refine ⟨(),?_,(),forM_ok_iff.mpr filled,(),?_,?_⟩
  · rw [Bool.not_eq_false']
    exact account.verdict_managed.1
  · rw [Bool.not_eq_false',decide_eq_true_iff]
    show (account.work.map WorkTrace.work_package_id).Nodup
    rw [ids]
    exact distinct
  · exact (if_neg account.verdict_managed.2).trans managed_ok

end

/-! ### The end of an execution -/

/-- The traces of the items, in the order of the items. -/
theorem work_traced {σ : Type} {settings : Settings} {profiles : List Dict} {items : List Json}
    {works : List Preparation}
    {f : Preparation → WorkTrace} {s : Locals σ}
    (each : List.Forall₂ (fun item p => preparation settings profiles item = .ok p) items works)
    (found : ∀ p ∈ works, s.trace_of p.work_package_id = some (f p)) :
    items.mapM (work_trace s) = .ok (works.map f) := by
  refine mapM_ok_iff.mpr ?_
  rw [List.forall₂_map_right_iff]
  have both := (List.forall₂_and_left works items).mpr ⟨found,each.flip⟩
  refine both.flip.imp ?_
  rintro item p ⟨traced,ran⟩
  obtain ⟨rfl,held,named,_⟩ := preparation_ok.mp ran
  have present : Dict.get? "candidate" p.source = some (.obj p.candidate) := get?_of_get held (by simp)
  unfold work_trace
  simp only [as_dict_ok.mpr rfl,ok_bind,item_ok.mpr present,text_of_get? named,traced]
  rfl

section
variable {σ : Type} {runtime : ReferenceOrchestrator σ} {scenario : Dict} {settings : Settings} {profiles : List Dict}
  {works : List Preparation} {s : Locals σ}

/-- What `execute` does after its integration. -/
def finish (settings : Settings) (plan : Option Dict) (integrated : Integrated) : Execution σ OrchestrationTrace := do
  let s ← read
  let (status,summary) := overall s
  record settings "orchestration.completed" "project" (.str settings.project_id) [("status",.str status)]
  let s ← read
  let work ← lift (settings.work_items.mapM (work_trace s))
  let trace := managed_trace settings plan integrated s work status summary
  lift (validate_trace trace)
  return trace

/-- What `execute` does once its work items are prepared. -/
def after_preparation (runtime : ReferenceOrchestrator σ) (scenario : Dict) (settings : Settings) :
    Execution σ OrchestrationTrace := do
  let plan ← run_prepared runtime scenario settings
  let integrated ← integrate scenario settings
  finish settings plan integrated

theorem execute_managed_split : execute_managed runtime scenario settings = (do
    record settings "orchestration.started" "project" (.str settings.project_id) (started_payload settings)
    collect_profiles runtime
    forEach settings.work_items (prepare_item settings)
    after_preparation runtime scenario settings) := rfl

theorem summarised : blank (overall s).2 = false := by
  unfold overall
  split_ifs <;> decide

/-- An execution that has integrated always returns. -/
theorem finish_met {plan : Option SchedulePlan} {runs : List Run} {outcome : Integration} {t : Locals σ}
    (managed : Managed scenario settings) (published : Published runtime profiles) (grounded : Grounded settings)
    (visited : Visited runtime scenario settings profiles works plan runs t)
    (integrated : integration_of scenario t.completions = .ok outcome) (combined : Combined settings outcome t s) :
    Met (Performed runtime scenario ⟨settings,profiles,works,plan,runs,outcome⟩) (fun _ _ => False)
      (finish settings (plan.map schedule_plan_to_dict) outcome.integrated s) := by
  have typed : blank "orchestration.completed" = false := by decide
  have aggregated : blank "project" = false := by decide
  have dispatching := visited.dispatching
  unfold finish
  rw [bind_read]
  dsimp only
  have later : Recorded settings (noted settings "orchestration.completed" "project" (.str settings.project_id)
      [("status",.str (overall s).1)] s) := recorded_next grounded combined.recorded typed aggregated grounded.project
  rw [bind_record grounded combined.recorded typed aggregated grounded.project,bind_read]
  have traced : ∀ p ∈ works, (noted settings "orchestration.completed" "project" (.str settings.project_id)
      [("status",.str (overall s).1)] s).trace_of p.work_package_id =
        some (trace_now (plan.getD NO_PLAN) (prepared_of works) runs p) := by
    intro p member
    show s.traces.find? _ = _
    rw [combined.frame.traces,dispatching.traces]
    exact find_work (trace_now_id _ _ _) visited.distinct member
  have verdict : (overall s).1 = Account.verdict ⟨settings,profiles,works,plan,runs,outcome⟩ := by
    unfold overall Account.verdict Account.blocked Account.undecided Account.failed Account.waiting Account.schedule
      Account.prepared
    rw [combined.frame.hard_block,combined.frame.decision_required,combined.any_failure,combined.frame.any_waiting,
      dispatching.hard_block,dispatching.decision_required,dispatching.any_failure,dispatching.any_waiting]
    dsimp only
    split_ifs <;> rfl
  have valid : validate_trace (managed_trace settings (plan.map schedule_plan_to_dict) outcome.integrated
      (noted settings "orchestration.completed" "project" (.str settings.project_id) [("status",.str (overall s).1)] s)
      (works.map (trace_now (plan.getD NO_PLAN) (prepared_of works) runs)) (overall s).1 (overall s).2) = .ok () := by
    have some_event : (noted settings "orchestration.completed" "project" (.str settings.project_id)
        [("status",.str (overall s).1)] s).histories ≠ [] := by
      simp [noted]
    have checked := @assembled_valid σ scenario ⟨settings,profiles,works,plan,runs,outcome⟩ _
        (overall s).2 managed visited.each
      visited.distinct visited.scheduled later some_event summarised
    rw [← verdict] at checked
    exact checked
  rw [bind_lift_ok (work_traced visited.each traced),bind_lift_ok valid]
  have summed : integration_of scenario (runs.flatMap (Run.completions settings)) = .ok outcome := by
    rw [← dispatching.completions]
    exact integrated
  have invocations : s.invocations = runs.map Run.invocation := by rw [combined.invocations,dispatching.invocations]
  have answers : s.answers = runs.map (fun run => (run.prepared,run.answer)) := by
    rw [combined.answers,dispatching.answers]
  have evaluations : s.evaluations = runs.filterMap Run.evaluation := by
    rw [combined.evaluations,dispatching.evaluations]
  have notes : (noted settings "orchestration.completed" "project" (.str settings.project_id)
      [("status",.str (overall s).1)]
      s).histories.map said = Account.notes ⟨settings,profiles,works,plan,runs,outcome⟩ := by
    rw [said_noted,combined.said,dispatching.said,verdict]
    rfl
  exact ⟨managed,published,visited.each,visited.distinct,visited.scheduled,dispatching.visited,dispatching.concluded,
    dispatching.replied,summed,invocations,answers,evaluations,rfl,notes,later,rfl,verdict,rfl,rfl,rfl,rfl,valid⟩

/-- An execution whose items are prepared returns with an account or is halted. -/
theorem after_preparation_met (managed : Managed scenario settings) (published : Published runtime profiles)
    (grounded : Grounded settings)
    (prepared : PreparedAll settings profiles [started_note settings] settings.work_items works s) :
    Met (fun trace s' => ∃ plan runs outcome, Performed runtime scenario
      ⟨settings,profiles,works,plan,runs,outcome⟩ trace s')
      (Halted runtime scenario settings profiles works) (after_preparation runtime scenario settings s) := by
  unfold after_preparation
  refine met_bind (met_weaken (run_prepared_met grounded prepared) (fun _ _ visited => visited) ?_) ?_
  · intro e after stopped
    exact ⟨managed,published,prepared.each,.inl stopped⟩
  rintro _ t ⟨plan,runs,rfl,visited⟩
  refine met_bind (met_weaken (integrate_met grounded visited.dispatching.recorded)
    (fun _ _ integrated => integrated) ?_) ?_
  · intro e after uncombined
    exact ⟨managed,published,visited.each,.inr ⟨plan,runs,t,visited,uncombined⟩⟩
  rintro _ after ⟨outcome,integrated,rfl,combined⟩
  exact met_weaken (finish_met managed published grounded visited integrated combined)
    (fun _ _ performed => ⟨plan,runs,outcome,performed⟩) (fun _ _ never => never.elim)

/-! ### The whole execution -/

theorem collect_profiles_met (empty : s.profiles = []) :
    Met (fun _ s' => ∃ world profiles, s' = { s with world := world, profiles := profiles } ∧
      Published runtime profiles)
      (fun _ s' => s'.invocations = s.invocations) (collect_profiles runtime s) := by
  refine meets_forEach (fun done t => ∃ world profiles, t = { s with world := world, profiles := profiles } ∧
    List.Forall₂ Offered done profiles) ?_ s ⟨s.world,[],by rw [← empty],.nil⟩
  rintro done entry rest split t ⟨world,profiles,rfl,published⟩
  rw [bind_world]
  rcases offered : entry.2.capability_profile _ with ⟨e | profile,after⟩
  · rfl
  · exact ⟨after,profiles ++ [profile],rfl,List.rel_append published (.cons ⟨_,by rw [offered]⟩ .nil)⟩

/-- After the first event, and with some profiles, no item is prepared yet. -/
theorem prepared_none {world after : σ} (grounded : Grounded settings) :
    PreparedAll settings profiles [started_note settings] [] []
      { noted settings "orchestration.started" "project" (.str settings.project_id) (started_payload settings)
        (start world)
        with world := after, profiles := profiles } := by
  have recorded : Recorded settings (noted settings "orchestration.started" "project" (.str settings.project_id)
      (started_payload settings) (start world)) :=
    recorded_next grounded (recorded_start world) (by decide) (by decide) grounded.project
  exact ⟨.nil,by exact recorded_kept recorded rfl rfl rfl,rfl,said_noted,rfl,rfl,List.nodup_nil,rfl,rfl,
    ⟨rfl,rfl,rfl,rfl,rfl,rfl⟩⟩

/-- A managed execution returns a trace with its account, or raised before its first
    dispatch, or was halted. -/
theorem execute_managed_met (managed : Managed scenario settings) (world : σ) :
    Met (fun trace s' => ∃ account : Account, Performed runtime scenario account trace s')
      (fun e s' => s'.invocations = [] ∨ ∃ profiles works, Halted runtime scenario settings profiles works e s')
      (execute_managed runtime scenario settings (start world)) := by
  rw [execute_managed_split]
  rcases started : record settings "orchestration.started" "project" (.str settings.project_id)
      (started_payload settings) (start world) with ⟨e | _,first⟩
  · rw [record_raised started] at started
    rw [bind_run_error started]
    exact .inl rfl
  rw [bind_run_ok started]
  have grounded := grounded_of_record (recorded_start world) started
  obtain ⟨rfl,_⟩ := record_ok (recorded_start world) started
  refine met_bind (met_weaken (collect_profiles_met rfl) (fun _ _ collected => collected)
    (fun _ _ unused => .inl unused)) ?_
  rintro _ t ⟨after,profiles,rfl,published⟩
  refine met_bind (met_weaken (prepare_all_met (prepared_none grounded)) (fun _ _ prepared => prepared)
    (fun _ _ unused => .inl unused)) ?_
  rintro _ s ⟨works,prepared⟩
  refine met_weaken (after_preparation_met managed published grounded prepared) ?_ ?_
  · rintro trace after ⟨plan,runs,outcome,performed⟩
    exact ⟨_,performed⟩
  · intro e after halted
    exact .inr ⟨profiles,works,halted⟩

/-- An execution returns the trace of an ordinary conversation or of managed work. -/
theorem execute_met (runtime : ReferenceOrchestrator σ) (scenario : Dict) (world : σ) :
    Met (fun trace s' => (∃ identity, trace = unmanaged_trace identity ∧ s' = start world) ∨
        ∃ account, Performed runtime scenario account trace s')
      (fun e s' => s'.invocations = [] ∨ ∃ settings profiles works,
        Halted runtime scenario settings profiles works e s')
      (execute runtime scenario (start world)) := by
  unfold execute
  refine met_lift ?_ (fun _ _ => .inl rfl)
  intro identity identified
  by_cases conversational : identity.activation.decision = .STAY_CONVERSATIONAL
  · rw [if_pos conversational]
    exact met_lift (fun _ _ => .inl ⟨identity,rfl,rfl⟩) (fun _ _ => .inl rfl)
  · rw [if_neg conversational]
    refine met_lift ?_ (fun _ _ => .inl rfl)
    intro settings configured
    have managed : Managed scenario settings := ⟨identity,identified,conversational,configured⟩
    refine met_of_outcomes ?_ ?_
    · intro trace after ran
      exact .inr (met_returned (execute_managed_met managed world) ran)
    · intro e after ran
      rcases met_raised (execute_managed_met managed world) ran with unused | halted
      · exact .inl unused
      · exact .inr ⟨settings,halted⟩

end

section
variable {σ : Type} {runtime : ReferenceOrchestrator σ} {scenario : Dict} {world : σ} {s' : Locals σ}

/-- A managed trace has an account. -/
theorem execute_returned {trace : OrchestrationTrace} (ran : execute runtime scenario (start world) = (.ok trace,s'))
    (managed : trace.status ≠ "not_managed") : ∃ account, Performed runtime scenario account trace s' := by
  rcases met_returned (execute_met runtime scenario world) ran with ⟨identity,rfl,_⟩ | performed
  · exact absurd rfl managed
  · exact performed

/-- So has every trace of an execution that dispatched anything. -/
theorem execute_accounted {trace : OrchestrationTrace} (ran : execute runtime scenario (start world) = (.ok trace,s'))
    (invoked : s'.invocations ≠ []) : ∃ account, Performed runtime scenario account trace s' := by
  rcases met_returned (execute_met runtime scenario world) ran with ⟨_,_,rfl⟩ | performed
  · exact absurd rfl invoked
  · exact performed

/-- An execution that raised after a dispatch was halted. -/
theorem execute_raised {e : PyError} (ran : execute runtime scenario (start world) = (.error e,s'))
    (invoked : s'.invocations ≠ []) :
    ∃ settings profiles works, Halted runtime scenario settings profiles works e s' := by
  rcases met_raised (execute_met runtime scenario world) ran with unused | halted
  · exact absurd unused invoked
  · exact halted

/-- The packages that were run were dispatched. -/
theorem runs_dispatched {works : List Preparation} {plan : SchedulePlan} {runs : List Run}
    (visited : runs.map Run.prepared = (prepared_of works).filter (chosen plan)) :
    ∀ invocation ∈ runs.map Run.invocation, Dispatched works plan invocation := by
  intro invocation member
  obtain ⟨run,inside,rfl⟩ := List.mem_map.mp member
  have here : run.prepared ∈ (prepared_of works).filter (chosen plan) := by
    rw [← visited]
    exact List.mem_map.mpr ⟨run,inside,rfl⟩
  obtain ⟨prepared,selected⟩ := List.mem_filter.mp here
  exact ⟨prepared,selected,rfl⟩

/-- Whatever the outcome, each call of an adapter is the dispatch of a work item that
    was ready. -/
theorem execute_invoked {r : Py OrchestrationTrace} (ran : execute runtime scenario (start world) = (r,s')) :
    ∀ invocation ∈ s'.invocations, ∃ settings profiles, Managed scenario settings ∧ Published runtime profiles ∧
      ∃ item ∈ settings.work_items, ∃ p, Ready settings profiles item p invocation.prepared ∧
        invocation.dispatch = dispatch_of invocation.prepared := by
  intro invocation member
  have used : s'.invocations ≠ [] := List.ne_nil_of_mem member
  cases r with
  | error e =>
    obtain ⟨settings,profiles,works,halted⟩ := execute_raised ran used
    have dispatched : ∃ plan, Dispatched works plan invocation := by
      rcases halted.cause with stopped | ⟨plan,runs,t,visited,uncombined⟩
      · cases stopped with
        | unplanned _ unused => exact absurd unused used
        | interrupted _ interrupted => exact ⟨_,interrupted.invoked invocation member⟩
      · rw [uncombined.invocations,visited.dispatching.invocations] at member
        exact ⟨_,runs_dispatched visited.dispatching.visited invocation member⟩
    obtain ⟨plan,dispatched⟩ := dispatched
    obtain ⟨item,listed,p,_,_,ready⟩ := prepared_ready halted.each dispatched.prepared
    exact ⟨settings,profiles,halted.managed,halted.published,item,listed,p,ready,dispatched.dispatch⟩
  | ok trace =>
    obtain ⟨account,performed⟩ := execute_accounted ran used
    rw [performed.invocations] at member
    have dispatched := runs_dispatched performed.visited invocation member
    obtain ⟨item,listed,p,_,_,ready⟩ := prepared_ready performed.each dispatched.prepared
    exact ⟨account.settings,account.profiles,performed.managed,performed.published,item,listed,p,ready,
      dispatched.dispatch⟩

end

/-! ### The runs of an account -/

/-- The packages are prepared in the order of the items. -/
theorem prepared_ids (works : List Preparation) :
    ((prepared_of works).map Prepared.work_package_id).Sublist (works.map Preparation.work_package_id) := by
  unfold prepared_of
  induction works with
  | nil => exact .slnil
  | cons p rest ih =>
    rw [List.filterMap_cons]
    cases ready : p.prepared with
    | none => exact ih.cons _
    | some prepared =>
      dsimp only
      rw [List.map_cons,List.map_cons,Preparation.prepared_id ready]
      exact ih.cons_cons _

section
variable {σ : Type} {runtime : ReferenceOrchestrator σ} {scenario : Dict} {account : Account}
  {trace : OrchestrationTrace}
  {s : Locals σ}

/-- The trace of an account says that the work was managed. -/
theorem status_managed (performed : Performed runtime scenario account trace s) : trace.status ≠ "not_managed" := by
  rw [performed.status]
  exact account.verdict_managed.2

/-- A run is that of a work item that was ready and chosen. -/
theorem run_ready (performed : Performed runtime scenario account trace s) {run : Run} (member : run ∈ account.runs) :
    ∃ item ∈ account.settings.work_items, ∃ p ∈ account.works, p.prepared = some run.prepared ∧
      Ready account.settings account.profiles item p run.prepared ∧ chosen account.schedule run.prepared = true := by
  have here : run.prepared ∈ account.prepared.filter (chosen account.schedule) := by
    rw [← performed.visited]
    exact List.mem_map.mpr ⟨run,member,rfl⟩
  obtain ⟨inside,selected⟩ := List.mem_filter.mp here
  obtain ⟨item,listed,p,own,prepared,ready⟩ := prepared_ready performed.each inside
  exact ⟨item,listed,p,own,prepared,ready,selected⟩

/-- The runs are of the chosen packages. -/
theorem run_ids (performed : Performed runtime scenario account trace s) : account.runs.map Run.work_package_id =
    (account.prepared.filter (chosen account.schedule)).map Prepared.work_package_id := by
  rw [← performed.visited,List.map_map]
  rfl

/-- No package is run twice. -/
theorem run_distinct (performed : Performed runtime scenario account trace s) :
    (account.runs.map Run.work_package_id).Nodup := by
  rw [run_ids performed]
  exact performed.distinct.sublist ((List.filter_sublist.map _).trans (prepared_ids account.works))

/-- Without prepared packages nothing is selected. -/
theorem unplanned (performed : Performed runtime scenario account trace s) (none : account.plan = none) :
    account.prepared = [] := by
  have scheduled := performed.scheduled
  rw [none] at scheduled
  exact scheduled

theorem planned_with (performed : Performed runtime scenario account trace s) {plan : SchedulePlan}
    (planned : account.plan = some plan) : plan_for scenario account.settings (prepared_of account.works) =
      .ok plan := by
  have scheduled := performed.scheduled
  rw [planned] at scheduled
  exact scheduled

/-- The packages that are run are those that the plan selects. -/
theorem run_selected (performed : Performed runtime scenario account trace s) {id : String} :
    id ∈ account.runs.map Run.work_package_id ↔ id ∈ account.schedule.selected_work_packages := by
  rw [run_ids performed]
  cases planned : account.plan with
  | none =>
    rw [unplanned performed planned]
    unfold Account.schedule
    rw [planned]
    rfl
  | some plan =>
    rw [Account.schedule_some planned,plan_selected performed.each (planned_with performed planned),List.mem_map]
    rfl

/-- The trace of an item says that it is selected exactly when it was run. -/
theorem work_selected (performed : Performed runtime scenario account trace s) {p : Preparation}
    (inside : p ∈ account.works) :
    (trace_now account.schedule account.prepared account.runs p).schedule_decision = "selected" ↔
      p.work_package_id ∈ account.schedule.selected_work_packages := by
  cases planned : account.plan with
  | none =>
    have none_prepared := unplanned performed planned
    have unready : p.prepared = none := List.filterMap_eq_nil_iff.mp none_prepared p inside
    unfold Account.schedule trace_now
    rw [none_prepared,planned,if_neg (by simp),unprepared_decision unready]
    exact iff_of_false (by decide) (by simp [NO_PLAN])
  | some plan =>
    rw [Account.schedule_some planned]
    exact traced_selected performed.each performed.distinct (planned_with performed planned) inside

end

end V3Aidlc.Accounts
