import V3Aidlc.Notes
import V3Aidlc.Feasibility

/-!
No control is bypassed. In a managed execution exactly the selected packages are
dispatched, each once; each passed its authorization, the compilation of its context
and the negotiation with a runner, and its dispatch says so; and the events before
and after a dispatch record the same (`controls_kept`).
-/
namespace V3Aidlc.DispatchControls
open V3Aidlc.Values V3Aidlc.Loops V3Aidlc.Contracts
open V3Aidlc.Authorization (AuthorizationResult)
open V3Aidlc.ContextCompiler (ContextManifest)
open V3Aidlc.AgentAdapters (select_adapter)
open V3Aidlc.ReferenceOrchestrator V3Aidlc.RecordedEvents V3Aidlc.Preparations V3Aidlc.Runs V3Aidlc.Executions
open V3Aidlc.Accounts V3Aidlc.Notes

/-- The work item is about the package. -/
def Identifies (source : Dict) (id : String) : Prop :=
  ∃ candidate, candidate_of source = .ok candidate ∧
    ReferenceOrchestrator.required_string candidate "workPackageId" = .ok id

/-- The work item was authorized to proceed, its context was compiled to the manifest
    and the profile was selected for its request. -/
structure Cleared (settings : Settings) (profiles : List Dict) (source : Dict) (authorization : AuthorizationResult)
    (manifest : ContextManifest) (request profile : Dict) : Prop where
  authorized : authorize settings source = .ok authorization
  auto : authorization.decision.isAuto = true
  compiled : ∃ run, context_run settings source = .ok run ∧ compile_for settings source run = .ok manifest
  requested : run_request source manifest authorization = .ok request
  accepted : ∃ negotiations, select_adapter request profiles = .ok (profile,negotiations)

/-- The dispatch is of the request, and both name the manifest and the decision. -/
structure Names (dispatch request : Dict) (manifest : ContextManifest) (authorization : AuthorizationResult) :
    Prop where
  bound : dispatch.get "request" = .obj request
  manifest_id : dispatch.get "contextManifestId" = .str manifest.manifest_id
  manifest_digest : dispatch.get "contextManifestDigest" = .str manifest.sha256
  requested_id : request.get "contextManifestId" = .str manifest.manifest_id
  requested_digest : request.get "contextManifestDigest" = .str manifest.sha256
  decision : request.get "authorizationDecision" = .str authorization.decision.value

/-- The packages that were dispatched, in the order of their dispatches. -/
def dispatched_ids (invocations : List Invocation) : List String :=
  invocations.map (fun invocation => invocation.prepared.work_package_id)

/-- The packages that the schedule of the trace selects. -/
def scheduled_ids (trace : OrchestrationTrace) : List String := (trace.schedule_plan.map selected_ids).getD []

/-- Before the dispatch stand the decision about the package, its runner and the plan
    that lists it; right after it stands the completion of its run. -/
structure Placed (settings : Settings) (prepared : Prepared) (before after : List Dict) : Prop where
  authorized : ∃ event ∈ before, ∃ authorization : AuthorizationResult, authorization.decision.isAuto = true ∧
    said event = note "authorization.evaluated" (.str prepared.work_package_id)
      [("decision",.str authorization.decision.value),
        ("controllingRules",.arr (authorization.controlling_rules.map Json.str))]
  negotiated : ∃ event ∈ before, ∃ digest, said event = note "capability.negotiated" (prepared.request.get "runId")
    [("adapterId",prepared.profile.get "adapterId"),("profileDigest",digest)]
  planned : ∃ event ∈ before, ∃ ids : List String, prepared.work_package_id ∈ ids ∧
    said event = note "schedule.planned" (.str settings.project_id) [("selected",.arr (ids.map Json.str))]
  completed : ∃ event rest result, after = event :: rest ∧ said event = Run.completed_note prepared result

structure Controlled (settings : Settings) (profiles : List Dict) (trace : OrchestrationTrace)
    (invocations : List Invocation) :
    Prop where
  once : ∀ id, (dispatched_ids invocations).count id = if id ∈ scheduled_ids trace then 1 else 0
  decided : ∀ item ∈ trace.work, item.schedule_decision = "selected" ↔ item.work_package_id ∈ dispatched_ids invocations
  listed : ∀ invocation ∈ invocations, ∃ source, .obj source ∈ settings.work_items ∧
    Identifies source invocation.prepared.work_package_id
  cleared : ∀ invocation ∈ invocations, ∀ source, .obj source ∈ settings.work_items →
    Identifies source invocation.prepared.work_package_id → ∃ authorization manifest,
      Cleared settings profiles source authorization manifest invocation.prepared.request invocation.prepared.profile ∧
      Names invocation.dispatch invocation.prepared.request manifest authorization
  recorded : (trace.events.filter (fun event => text event "eventType" = "run.dispatched")).map said =
    invocations.map (fun invocation => Run.dispatched_note invocation.prepared)
  placed : ∀ before event after, trace.events = before ++ event :: after → text event "eventType" = "run.dispatched" →
    ∃ invocation ∈ invocations, said event = Run.dispatched_note invocation.prepared ∧
      Placed settings invocation.prepared before after
  completed : ∀ before event after, trace.events = before ++ event :: after → text event "eventType" = "run.completed" →
    ∃ invocation ∈ invocations, ∃ front dispatch result, before = front ++ [dispatch] ∧
      said dispatch = Run.dispatched_note invocation.prepared ∧
      said event = Run.completed_note invocation.prepared result

/-! ### The dispatches -/

theorem identifies_iff {source : Dict} {id : String} : Identifies source id ↔ ∃ candidate,
    source.get "candidate" = .obj candidate ∧ Dict.get? "workPackageId" candidate = some (.str id) ∧
      blank id = false := by
  unfold Identifies candidate_of ReferenceOrchestrator.required_string
  simp only [required_object_ok,required_string_ok]

/-- A ready item was cleared. -/
theorem ready_cleared {settings : Settings} {profiles : List Dict} {item : Json} {p : Preparation} {prepared : Prepared}
    (ready : Ready settings profiles item p prepared) :
    Cleared settings profiles p.source p.authorization prepared.manifest prepared.request prepared.profile :=
  ⟨ready.authorized,ready.auto,⟨prepared.run,ready.run,ready.manifest⟩,ready.request,ready.selected⟩

/-- The dispatch of a ready item names what was compiled and decided for it. -/
theorem ready_names {settings : Settings} {profiles : List Dict} {item : Json} {p : Preparation} {prepared : Prepared}
    (ready : Ready settings profiles item p prepared) :
    Names (dispatch_of prepared) prepared.request prepared.manifest p.authorization := by
  obtain ⟨id,digest,_,decision⟩ := run_request_filled_in ready.request
  have copied : ∀ key ∈ AgentAdapters.DISPATCH_MATCHES, (dispatch_of prepared).get key = prepared.request.get key :=
    fun key copied => get_of_get? (Dispatches.signed_copies copied)
  exact ⟨Dispatches.signed_request,(copied _ (by decide)).trans id,(copied _ (by decide)).trans digest,id,digest,
    decision⟩

section
variable {σ : Type} {runtime : ReferenceOrchestrator σ} {scenario : Dict} {account : Account}
  {trace : OrchestrationTrace}
  {s : Locals σ}

theorem scheduled_same (performed : Performed runtime scenario account trace s) :
    scheduled_ids trace = account.schedule.selected_work_packages := by
  unfold scheduled_ids Account.schedule
  rw [performed.plan]
  cases account.plan with
  | none => rfl
  | some plan => exact planned_ids plan

theorem dispatched_same (performed : Performed runtime scenario account trace s) :
    dispatched_ids s.invocations = account.runs.map Run.work_package_id := by
  unfold dispatched_ids
  rw [performed.invocations,List.map_map]
  rfl

theorem dispatched_once (performed : Performed runtime scenario account trace s) (id : String) :
    (dispatched_ids s.invocations).count id = if id ∈ scheduled_ids trace then 1 else 0 := by
  rw [dispatched_same performed,scheduled_same performed]
  by_cases selected : id ∈ account.schedule.selected_work_packages
  · rw [if_pos selected]
    exact List.count_eq_one_of_mem (run_distinct performed) ((run_selected performed).mpr selected)
  · rw [if_neg selected]
    exact List.count_eq_zero.mpr (fun run => selected ((run_selected performed).mp run))

theorem dispatched_decided (performed : Performed runtime scenario account trace s) :
    ∀ item ∈ trace.work, item.schedule_decision = "selected" ↔ item.work_package_id ∈ dispatched_ids s.invocations := by
  intro item member
  rw [performed.work] at member
  obtain ⟨p,inside,rfl⟩ := List.mem_map.mp member
  rw [dispatched_same performed,run_selected performed,trace_now_id]
  exact work_selected performed inside

/-- Items about the same package are the same. -/
theorem source_unique (performed : Performed runtime scenario account trace s) {p : Preparation}
    (inside : p ∈ account.works)
    {source : Dict} (listed : .obj source ∈ account.settings.work_items) (same : Identifies source p.work_package_id) :
    source = p.source := by
  obtain ⟨q,other,ran⟩ := forall₂_left performed.each _ listed
  obtain ⟨itemIs,held,id,_⟩ := preparation_ok.mp ran
  obtain ⟨candidate,holds,named,_⟩ := identifies_iff.mp same
  cases itemIs
  rw [held] at holds
  cases holds
  rw [id,Option.some_inj,Json.str.injEq] at named
  rw [List.inj_on_of_nodup_map performed.distinct other inside named]

theorem dispatched_cleared (performed : Performed runtime scenario account trace s) :
    ∀ invocation ∈ s.invocations, ∃ p ∈ account.works, .obj p.source ∈ account.settings.work_items ∧
      Identifies p.source invocation.prepared.work_package_id ∧
      p.work_package_id = invocation.prepared.work_package_id ∧
      Cleared account.settings account.profiles p.source p.authorization invocation.prepared.manifest
        invocation.prepared.request invocation.prepared.profile ∧
      Names invocation.dispatch invocation.prepared.request invocation.prepared.manifest p.authorization := by
  intro invocation member
  rw [performed.invocations] at member
  obtain ⟨run,inside,rfl⟩ := List.mem_map.mp member
  obtain ⟨item,listed,p,own,_,ready,_⟩ := run_ready performed inside
  have id : run.prepared.work_package_id = p.work_package_id := ready.id_same
  refine ⟨p,own,ready.item ▸ listed,?_,id.symm,ready_cleared ready,ready_names ready⟩
  show Identifies p.source run.prepared.work_package_id
  rw [id]
  exact identifies_iff.mpr ⟨p.candidate,ready.candidate,ready.id,ready.named⟩

/-! ### The events -/

theorem said_kind (event : Dict) : kind (said event) = text event "eventType" := rfl

/-- A split of the events splits what they say. -/
theorem notes_split (performed : Performed runtime scenario account trace s) {before after : List Dict} {event : Dict}
    (split : trace.events = before ++ event :: after) :
    account.notes = before.map said ++ said event :: after.map said := by
  rw [← performed.said,← performed.events,split,List.map_append,List.map_cons]

theorem dispatched_recorded (performed : Performed runtime scenario account trace s) :
    (trace.events.filter (fun event => text event "eventType" = "run.dispatched")).map said =
      s.invocations.map (fun invocation => Run.dispatched_note invocation.prepared) := by
  have notes : (s.histories.map said).filter (fun n => kind n = "run.dispatched") =
      account.runs.map (fun run => Run.dispatched_note run.prepared) := by
    rw [performed.said,dispatched_notes]
  rw [List.filter_map] at notes
  rw [performed.events,performed.invocations,List.map_map]
  exact notes

/-- What the opening says of a ready item stands before every dispatch. -/
theorem opened {works : List Preparation} {p : Preparation} {n : Note} {settings : Settings}
    {plan : Option Scheduler.SchedulePlan}
    {before : List Dict} {front : List Note} (inside : p ∈ works) (own : n ∈ p.notes)
    (beforeIs : before.map said = opening_notes settings works plan ++ front) : ∃ event ∈ before, said event = n := by
  have member : n ∈ before.map said := by
    rw [beforeIs]
    exact List.mem_append_left _ (opening_member.mpr (.inr (.inl ⟨p,inside,own⟩)))
  exact List.mem_map.mp member

/-- A ready item says that it was authorized and has a runner. -/
theorem ready_notes {settings : Settings} {profiles : List Dict} {item : Json} {p : Preparation} {prepared : Prepared}
    (ready : Ready settings profiles item p prepared) (own : p.prepared = some prepared) :
    p.authorization_note ∈ p.notes ∧ ∃ digest, note "capability.negotiated" (prepared.request.get "runId")
      [("adapterId",prepared.profile.get "adapterId"),("profileDigest",digest)] ∈ p.notes := by
  refine ⟨List.mem_cons_self,?_⟩
  unfold Preparation.prepared at own
  unfold Preparation.notes Preparation.outcome_notes
  split at own
  · rename_i outcome
    cases own
    rw [outcome]
    exact ⟨_,List.mem_cons_of_mem _ List.mem_cons_self⟩
  · cases own

theorem dispatched_placed (performed : Performed runtime scenario account trace s) {before after : List Dict}
    {event : Dict}
    (split : trace.events = before ++ event :: after) (dispatched : text event "eventType" = "run.dispatched") :
    ∃ invocation ∈ s.invocations, said event = Run.dispatched_note invocation.prepared ∧
      Placed account.settings invocation.prepared before after := by
  obtain ⟨done,run,rest,whole,same,beforeIs,afterIs⟩ := dispatched_split (notes_split performed split)
    ((said_kind event).trans dispatched)
  have inside : run ∈ account.runs := by rw [whole]; simp
  obtain ⟨item,_,p,own,prepared,ready,_⟩ := run_ready performed inside
  have id : run.prepared.work_package_id = p.work_package_id := ready.id_same
  obtain ⟨authorized,digest,negotiated⟩ := ready_notes ready prepared
  refine ⟨run.invocation,?_,same,?_⟩
  · rw [performed.invocations]
    exact List.mem_map.mpr ⟨run,inside,rfl⟩
  show Placed account.settings run.prepared before after
  refine ⟨?_,?_,?_,?_⟩
  · obtain ⟨event,earlier,spoken⟩ := opened own authorized beforeIs
    refine ⟨event,earlier,p.authorization,ready.auto,?_⟩
    rw [spoken,id]
    rfl
  · obtain ⟨event,earlier,spoken⟩ := opened own negotiated beforeIs
    exact ⟨event,earlier,digest,spoken⟩
  · have selected : run.work_package_id ∈ account.schedule.selected_work_packages :=
      (run_selected performed).mp (List.mem_map.mpr ⟨run,inside,rfl⟩)
    cases planned : account.plan with
    | none =>
      unfold Account.schedule at selected
      rw [planned] at selected
      cases selected
    | some plan =>
      have member : planned_note account.settings plan ∈ before.map said := by
        rw [beforeIs,planned]
        exact List.mem_append_left _ (opening_member.mpr (.inr (.inr ⟨plan,rfl,rfl⟩)))
      obtain ⟨event,earlier,spoken⟩ := List.mem_map.mp member
      rw [Account.schedule_some planned] at selected
      exact ⟨event,earlier,plan.selected_work_packages,selected,spoken⟩
  · obtain ⟨event,others,restIs,spoken,_⟩ := List.map_eq_cons_iff.mp afterIs
    exact ⟨event,others,run.result,restIs,spoken⟩

theorem completed_placed (performed : Performed runtime scenario account trace s) {before after : List Dict}
    {event : Dict}
    (split : trace.events = before ++ event :: after) (completed : text event "eventType" = "run.completed") :
    ∃ invocation ∈ s.invocations, ∃ front dispatch result, before = front ++ [dispatch] ∧
      said dispatch = Run.dispatched_note invocation.prepared ∧
      said event = Run.completed_note invocation.prepared result := by
  obtain ⟨run,inside,front,same,beforeIs⟩ := completed_split (notes_split performed split)
    ((said_kind event).trans completed)
  obtain ⟨earlier,last,rfl,_,lastIs⟩ := List.map_eq_append_iff.mp beforeIs
  obtain ⟨dispatch,none,rfl,spoken,emptyIs⟩ := List.map_eq_cons_iff.mp lastIs
  obtain rfl := List.map_eq_nil_iff.mp emptyIs
  refine ⟨run.invocation,?_,earlier,dispatch,run.result,rfl,spoken,same⟩
  rw [performed.invocations]
  exact List.mem_map.mpr ⟨run,inside,rfl⟩

end

/-! ### The whole execution -/

/-- A managed execution dispatches what its controls let pass, once, and nothing else. -/
theorem controls_kept {σ : Type} {runtime : ReferenceOrchestrator σ} {scenario : Dict} {world : σ} {s' : Locals σ}
    {trace : OrchestrationTrace} (ran : execute runtime scenario (start world) = (.ok trace,s'))
    (managed : trace.status ≠ "not_managed") : ∃ settings profiles, Managed scenario settings ∧
      Published runtime profiles ∧
      Controlled settings profiles trace s'.invocations := by
  obtain ⟨account,performed⟩ := execute_returned ran managed
  refine ⟨account.settings,account.profiles,performed.managed,performed.published,dispatched_once performed,
    dispatched_decided performed,?_,?_,dispatched_recorded performed,?_,?_⟩
  · intro invocation member
    obtain ⟨p,_,listed,same,_⟩ := dispatched_cleared performed invocation member
    exact ⟨p.source,listed,same⟩
  · intro invocation member source listed same
    obtain ⟨p,inside,_,_,id,cleared,names⟩ := dispatched_cleared performed invocation member
    rw [← id] at same
    rw [source_unique performed inside listed same]
    exact ⟨p.authorization,invocation.prepared.manifest,cleared,names⟩
  · intro before event after split dispatched
    exact dispatched_placed performed split dispatched
  · intro before event after split completed
    exact completed_placed performed split completed

theorem controls_kept_sample : ∃ trace s' settings profiles,
    execute (Feasibility.sample_runtime (.obj Feasibility.sample_answer)) Feasibility.sample_scenario (start ()) =
      (.ok trace,s') ∧ s'.invocations ≠ [] ∧ Controlled settings profiles trace s'.invocations := by
  obtain ⟨trace,s',plan,outcome,ran,performed⟩ := Feasibility.sample_performed
  obtain ⟨settings,profiles,_,_,controlled⟩ := controls_kept ran (status_managed performed)
  refine ⟨trace,s',settings,profiles,ran,?_,controlled⟩
  rw [performed.invocations]
  simp

end V3Aidlc.DispatchControls
