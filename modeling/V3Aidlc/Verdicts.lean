import V3Aidlc.DispatchControls
import V3Aidlc.IntegrationBatches
import V3Aidlc.Promotions

/-!
The verdict of an execution. What becomes of a work item is one of a few things: a
control bars it, it needs a decision, or it is cleared; and the status of the trace is
the first that applies to the items, the runs and the integration (`verdict_sound`).
-/
namespace V3Aidlc.Verdicts
open V3Aidlc.Values V3Aidlc.Loops V3Aidlc.Contracts
open V3Aidlc.Authorization (AuthorizationResult)
open V3Aidlc.ContextCompiler (ContextManifest)
open V3Aidlc.AgentAdapters (NegotiationResult select_adapter)
open V3Aidlc.ReferenceOrchestrator V3Aidlc.RecordedEvents V3Aidlc.Preparations V3Aidlc.Runs V3Aidlc.Executions
open V3Aidlc.Accounts V3Aidlc.DispatchControls V3Aidlc.Promotions V3Aidlc.IntegrationBatches

/-! ### The items -/

/-- A control keeps the item from running: its authorization is blocked, its context
    does not compile, or no runner accepts its request. -/
inductive Barred (settings : Settings) (profiles : List Dict) (source : Dict) : Prop
  | unauthorized {authorization : AuthorizationResult} (authorized : authorize settings source = .ok authorization)
    (blocked : authorization.decision = .BLOCKED)
  | uncompiled {authorization : AuthorizationResult} {run : Dict} {message : String}
    (authorized : authorize settings source = .ok authorization) (auto : authorization.decision.isAuto = true)
    (contextual : context_run settings source = .ok run)
    (refused : attempt .ContextError (compile_for settings source run) = .ok (.error message))
  | unaccepted {authorization : AuthorizationResult} {run request : Dict} {manifest : ContextManifest}
    {message : String}
    (authorized : authorize settings source = .ok authorization) (auto : authorization.decision.isAuto = true)
    (contextual : context_run settings source = .ok run) (compiled : compile_for settings source run = .ok manifest)
    (requested : run_request source manifest authorization = .ok request)
    (refused : attempt .AdapterError (select_adapter request profiles) = .ok (.error message))

/-- The authorization of the item leaves the decision to the user. -/
def Undecided (settings : Settings) (source : Dict) : Prop :=
  ∃ authorization, authorize settings source = .ok authorization ∧ authorization.decision = .USER_DECISION_REQUIRED

/-- What became of an item, and why. -/
inductive Came (settings : Settings) (profiles : List Dict) (source : Dict) (authorization : AuthorizationResult) :
    Outcome → Prop
  | unauthorized (manual : authorization.decision.isAuto = false) :
    Came settings profiles source authorization .unauthorized
  | rejected {run : Dict} {message : String} (auto : authorization.decision.isAuto = true)
    (contextual : context_run settings source = .ok run)
    (refused : attempt .ContextError (compile_for settings source run) = .ok (.error message)) :
    Came settings profiles source authorization (.rejected message)
  | incompatible {run request : Dict} {manifest : ContextManifest} {message : String}
    (auto : authorization.decision.isAuto = true) (contextual : context_run settings source = .ok run)
    (compiled : compile_for settings source run = .ok manifest)
    (requested : run_request source manifest authorization = .ok request)
    (refused : attempt .AdapterError (select_adapter request profiles) = .ok (.error message)) :
    Came settings profiles source authorization (.incompatible manifest request message)
  | ready {run request profile : Dict} {manifest : ContextManifest} {negotiations : List NegotiationResult}
    (auto : authorization.decision.isAuto = true) (contextual : context_run settings source = .ok run)
    (compiled : compile_for settings source run = .ok manifest)
    (requested : run_request source manifest authorization = .ok request)
    (selected : select_adapter request profiles = .ok (profile,negotiations)) :
    Came settings profiles source authorization (.ready run manifest request profile negotiations)

section
variable {settings : Settings} {profiles : List Dict} {source : Dict} {authorization : AuthorizationResult}
  {outcome : Outcome}

/-- Only one thing becomes of an item. -/
theorem outcome_came : outcome_of settings profiles source authorization = .ok outcome ↔
    Came settings profiles source authorization outcome := by
  constructor
  · intro came
    unfold outcome_of at came
    split at came
    · rename_i auto
      unfold assembled at came
      obtain ⟨run,contextual,came⟩ := bind_ok_iff.mp came
      obtain ⟨compiled,tried,came⟩ := bind_ok_iff.mp came
      cases compiled with
      | error message =>
        cases pure_ok_iff.mp came
        exact .rejected auto contextual tried
      | ok manifest =>
        unfold negotiated at came
        obtain ⟨request,requested,came⟩ := bind_ok_iff.mp came
        obtain ⟨selected,offered,came⟩ := bind_ok_iff.mp came
        cases selected with
        | error message =>
          cases pure_ok_iff.mp came
          exact .incompatible auto contextual (attempt_ok.mp tried) requested offered
        | ok choice =>
          cases pure_ok_iff.mp came
          exact .ready auto contextual (attempt_ok.mp tried) requested (attempt_ok.mp offered)
    · rename_i manual
      cases pure_ok_iff.mp came
      exact .unauthorized (Bool.eq_false_iff.mpr manual)
  · intro came
    unfold outcome_of
    cases came with
    | unauthorized manual =>
      rw [if_neg (Bool.eq_false_iff.mp manual)]
      rfl
    | rejected auto contextual refused =>
      rw [if_pos auto,assembled,contextual,ok_bind,refused]
      rfl
    | incompatible auto contextual compiled requested refused =>
      rw [if_pos auto,assembled,contextual,ok_bind,attempt_ok.mpr compiled,ok_bind]
      dsimp only
      rw [negotiated,requested,ok_bind,refused]
      rfl
    | ready auto contextual compiled requested selected =>
      rw [if_pos auto,assembled,contextual,ok_bind,attempt_ok.mpr compiled,ok_bind]
      dsimp only
      rw [negotiated,requested,ok_bind,attempt_ok.mpr selected]
      rfl

end

section
variable {settings : Settings} {profiles : List Dict} {item : Json} {p : Preparation}

theorem barred_iff (ran : preparation settings profiles item = .ok p) : Barred settings profiles p.source ↔
    p.blocks = true := by
  obtain ⟨_,_,_,_,authorized,came⟩ := preparation_ok.mp ran
  have own : ∀ {outcome}, Came settings profiles p.source p.authorization outcome → p.outcome = outcome := by
    intro outcome same
    rw [outcome_came.mpr same] at came
    exact (Except.ok.inj came).symm
  have same : ∀ {authorization}, authorize settings p.source = .ok authorization → authorization = p.authorization := by
    intro authorization again
    rw [authorized] at again
    exact (Except.ok.inj again).symm
  unfold Preparation.blocks
  constructor
  · intro barred
    cases barred with
    | unauthorized again blocked =>
      obtain rfl := same again
      rw [own (.unauthorized (by rw [blocked]; rfl))]
      exact decide_eq_true blocked
    | uncompiled again auto contextual refused =>
      obtain rfl := same again
      rw [own (.rejected auto contextual refused)]
    | unaccepted again auto contextual compiled requested refused =>
      obtain rfl := same again
      rw [own (.incompatible auto contextual compiled requested refused)]
  · intro blocks
    have came := outcome_came.mp came
    generalize p.outcome = outcome at came blocks
    cases came with
    | unauthorized manual => exact .unauthorized authorized (of_decide_eq_true blocks)
    | rejected auto contextual refused => exact .uncompiled authorized auto contextual refused
    | incompatible auto contextual compiled requested refused =>
      exact .unaccepted authorized auto contextual compiled requested refused
    | ready => cases blocks

theorem undecided_iff (ran : preparation settings profiles item = .ok p) : Undecided settings p.source ↔
    p.asks = true := by
  obtain ⟨_,_,_,_,authorized,came⟩ := preparation_ok.mp ran
  have came := outcome_came.mp came
  have decided : p.authorization.decision.isAuto = true → ¬ Undecided settings p.source := by
    rintro auto ⟨authorization,again,asks⟩
    rw [authorized] at again
    cases again
    rw [asks] at auto
    cases auto
  unfold Preparation.asks
  generalize p.outcome = outcome at came ⊢
  cases came with
  | unauthorized manual => simp [Undecided,authorized]
  | rejected auto => exact iff_of_false (decided auto) (by simp)
  | incompatible auto => exact iff_of_false (decided auto) (by simp)
  | ready auto => exact iff_of_false (decided auto) (by simp)

/-- An item is cleared exactly when it is ready. -/
theorem cleared_iff (ran : preparation settings profiles item = .ok p) :
    (∃ authorization manifest request profile,
      Cleared settings profiles p.source authorization manifest request profile) ↔
      ∃ prepared, p.prepared = some prepared := by
  obtain ⟨_,_,_,_,authorized,came⟩ := preparation_ok.mp ran
  constructor
  · rintro ⟨authorization,manifest,request,profile,cleared⟩
    have again := cleared.authorized
    rw [authorized] at again
    cases again
    obtain ⟨run,contextual,compiled⟩ := cleared.compiled
    obtain ⟨negotiations,selected⟩ := cleared.accepted
    rw [outcome_came.mpr (.ready cleared.auto contextual compiled cleared.requested selected)] at came
    unfold Preparation.prepared
    rw [← Except.ok.inj came]
    exact ⟨_,rfl⟩
  · rintro ⟨prepared,ready⟩
    exact ⟨_,_,_,_,ready_cleared (preparation_ready ran ready)⟩

end

/-! ### What the verdict is about -/

section
variable {σ : Type}

/-- The item was cleared and selected, and its run is promoted. -/
def Done (settings : Settings) (profiles : List Dict) (trace : OrchestrationTrace) (s : Locals σ) (source : Dict) :
    Prop :=
  ∃ authorization prepared, prepared.source = source ∧ Identifies source prepared.work_package_id ∧
    Cleared settings profiles source authorization prepared.manifest prepared.request prepared.profile ∧
    prepared.work_package_id ∈ scheduled_ids trace ∧ Promoted s prepared

/-- The scenario asks for an integration. -/
def Requested (scenario : Dict) : Prop := (scenario.get "integration").isNull = false

/-- A promoted package brought the member, on the revision of the batch. -/
def MemberOf (s : Locals σ) (batch member : Dict) : Prop := ∃ (prepared : Prepared) (completion : Dict),
  Promoted s prepared ∧ member.get "workPackageId" = .str prepared.work_package_id ∧
    prepared.source.get "integrationCompletion" = .obj completion ∧
    completion.get "baseRevision" = batch.get "targetRevision"

/-- The integration passed: its batch has the requested members, each promoted and on
    the target revision, and its result leads to another revision. -/
structure IntegrationPassed (scenario : Dict) (trace : OrchestrationTrace) (s : Locals σ)
    (integration batch reported : Dict)
    (expected : List Json) (members : List Dict) : Prop where
  requested : scenario.get "integration" = .obj integration
  status : trace.integration_status = some "passed"
  batched : trace.integration_batch = some batch
  listed : batch.get "members" = .arr (members.map Json.obj)
  asked : expected_members integration = .ok expected
  exact : ∀ value, value ∈ expected ↔ ∃ member ∈ members, member.get "workPackageId" = value
  promoted : ∀ member ∈ members, MemberOf s batch member
  result : (item integration "result" >>= new_dict) = .ok reported
  passed : reported.get "status" = .str "passed"
  resulting : filled (reported.get "resultingRevision") = true
  other : reported.get "resultingRevision" ≠ batch.get "targetRevision"

def Integrates (scenario : Dict) (trace : OrchestrationTrace) (s : Locals σ) : Prop :=
  ∃ integration batch reported expected members,
    IntegrationPassed scenario trace s integration batch reported expected members

/-- A run was not promoted, or the integration that was asked for did not pass. -/
def Failed (scenario : Dict) (trace : OrchestrationTrace) (s : Locals σ) : Prop :=
  (∃ invocation ∈ s.invocations, ¬ Promoted s invocation.prepared) ∨ Requested scenario ∧ ¬ Integrates scenario trace s

/-- A package that was cleared was not selected. -/
def Waiting (settings : Settings) (profiles : List Dict) (trace : OrchestrationTrace) : Prop :=
  ∃ source id, .obj source ∈ settings.work_items ∧ Identifies source id ∧ id ∉ scheduled_ids trace ∧
    ∃ authorization manifest request profile, Cleared settings profiles source authorization manifest request profile

structure Sound (scenario : Dict) (settings : Settings) (profiles : List Dict) (trace : OrchestrationTrace)
    (s : Locals σ) :
    Prop where
  completed : trace.status = "completed" ↔
    (∀ source, .obj source ∈ settings.work_items → Done settings profiles trace s source) ∧
      (Requested scenario → Integrates scenario trace s)
  blocked : trace.status = "blocked" ↔ ∃ source, .obj source ∈ settings.work_items ∧ Barred settings profiles source
  decision_required : trace.status = "decision_required" ↔
    (∀ source, .obj source ∈ settings.work_items → ¬ Barred settings profiles source) ∧
      ∃ source, .obj source ∈ settings.work_items ∧ Undecided settings source
  failed : trace.status = "failed" ↔
    (∀ source, .obj source ∈ settings.work_items → ¬ Barred settings profiles source ∧ ¬ Undecided settings source) ∧
      Failed scenario trace s
  waiting : trace.status = "waiting" ↔
    (∀ source, .obj source ∈ settings.work_items → ¬ Barred settings profiles source ∧ ¬ Undecided settings source) ∧
      ¬ Failed scenario trace s ∧ Waiting settings profiles trace
  listed : trace.status ∈ ["completed","blocked","decision_required","failed","waiting"]
  objects : ∀ item ∈ settings.work_items, ∃ source, item = .obj source
  valid : validate_trace trace = .ok ()
  chain : Recovery.verify_event_chain trace.events = .ok ()
  project : scenario.get "projectId" = .str trace.project_id ∧
    ∀ event ∈ trace.events, event.get "projectId" = .str trace.project_id

end

/-! ### The account says the same -/

theorem ready_or_held {settings : Settings} {profiles : List Dict} {item : Json} {p : Preparation}
    (ran : preparation settings profiles item = .ok p) :
    (∃ prepared, p.prepared = some prepared) ↔ p.blocks = false ∧ p.asks = false := by
  obtain ⟨_,_,_,_,_,came⟩ := preparation_ok.mp ran
  have came := outcome_came.mp came
  unfold Preparation.prepared Preparation.blocks Preparation.asks
  generalize p.outcome = outcome at came ⊢
  cases came with
  | unauthorized manual =>
    have held : ¬ (p.authorization.decision ≠ .BLOCKED ∧ p.authorization.decision ≠ .USER_DECISION_REQUIRED) := by
      cases decided : p.authorization.decision <;> rw [decided] at manual <;> revert manual <;> decide
    simpa using held
  | rejected => simp
  | incompatible => simp
  | ready => simp

section
variable {σ : Type} {runtime : ReferenceOrchestrator σ} {scenario : Dict} {account : Account}
  {trace : OrchestrationTrace}
  {s : Locals σ}

theorem work_prepared (performed : Performed runtime scenario account trace s) {source : Dict}
    (listed : .obj source ∈ account.settings.work_items) : ∃ p ∈ account.works, p.source = source ∧
      preparation account.settings account.profiles (.obj source) = .ok p := by
  obtain ⟨p,inside,ran⟩ := forall₂_left performed.each _ listed
  exact ⟨p,inside,(Json.obj.inj (preparation_ok.mp ran).1).symm,ran⟩

theorem work_listed (performed : Performed runtime scenario account trace s) {p : Preparation}
    (inside : p ∈ account.works) :
    .obj p.source ∈ account.settings.work_items ∧
      preparation account.settings account.profiles (.obj p.source) = .ok p := by
  obtain ⟨item,listed,ran⟩ := forall₂_left performed.each.flip p inside
  rw [(preparation_ok.mp ran).1] at listed ran
  exact ⟨listed,ran⟩

/-- What is decided of each preparation is decided of the items. -/
theorem any_work (performed : Performed runtime scenario account trace s) {b : Preparation → Bool} {P : Dict → Prop}
    (same : ∀ {item p}, preparation account.settings account.profiles item = .ok p → (P p.source ↔ b p = true)) :
    account.works.any b = true ↔ ∃ source, .obj source ∈ account.settings.work_items ∧ P source := by
  rw [List.any_eq_true]
  constructor
  · rintro ⟨p,inside,holds⟩
    obtain ⟨listed,ran⟩ := work_listed performed inside
    exact ⟨p.source,listed,(same ran).mpr holds⟩
  · rintro ⟨source,listed,holds⟩
    obtain ⟨p,inside,rfl,ran⟩ := work_prepared performed listed
    exact ⟨p,inside,(same ran).mp holds⟩

theorem blocked_iff (performed : Performed runtime scenario account trace s) : account.blocked = true ↔
    ∃ source, .obj source ∈ account.settings.work_items ∧ Barred account.settings account.profiles source :=
  any_work performed barred_iff

theorem asked_iff (performed : Performed runtime scenario account trace s) : account.undecided = true ↔
    ∃ source, .obj source ∈ account.settings.work_items ∧ Undecided account.settings source :=
  any_work performed undecided_iff

theorem chosen_iff (performed : Performed runtime scenario account trace s) {prepared : Prepared}
    (member : prepared ∈ account.prepared) : chosen account.schedule prepared = true ↔
      prepared.work_package_id ∈ scheduled_ids trace := by
  rw [scheduled_same performed]
  obtain ⟨_,_,_,_,_,ready⟩ := prepared_ready performed.each member
  cases planned : account.plan with
  | none =>
    rw [unplanned performed planned] at member
    cases member
  | some plan =>
    rw [Account.schedule_some planned]
    exact (plan_decides (planned_with performed planned) member (candidate_id ready)).2

theorem waiting_iff (performed : Performed runtime scenario account trace s) : account.waiting = true ↔
    Waiting account.settings account.profiles trace := by
  unfold Account.waiting
  rw [List.any_eq_true]
  constructor
  · rintro ⟨prepared,member,deferred⟩
    obtain ⟨item,listed,p,_,_,ready⟩ := prepared_ready performed.each member
    have id := ready.id_same
    refine ⟨p.source,p.work_package_id,ready.item ▸ listed,
      identifies_iff.mpr ⟨p.candidate,ready.candidate,ready.id,ready.named⟩,
      ?_,_,_,_,_,ready_cleared ready⟩
    rw [← id,← chosen_iff performed member]
    simpa using deferred
  · rintro ⟨source,id,listed,named,unselected,cleared⟩
    obtain ⟨p,inside,rfl,ran⟩ := work_prepared performed listed
    obtain ⟨prepared,ready⟩ := (cleared_iff ran).mp cleared
    have member : prepared ∈ account.prepared := List.mem_filterMap.mpr ⟨p,inside,ready⟩
    refine ⟨prepared,member,?_⟩
    rw [Bool.not_eq_true',Bool.eq_false_iff,ne_eq,chosen_iff performed member,Preparation.prepared_id ready]
    obtain ⟨_,held,found,_⟩ := preparation_ok.mp ran
    obtain ⟨candidate,holds,names,_⟩ := identifies_iff.mp named
    rw [held] at holds
    cases holds
    rw [found] at names
    cases names
    exact unselected

theorem unpromoted_iff (performed : Performed runtime scenario account trace s) :
    account.runs.any (fun run => !run.promotable) = true ↔
      ∃ invocation ∈ s.invocations, ¬ Promoted s invocation.prepared := by
  rw [List.any_eq_true,performed.invocations]
  constructor
  · rintro ⟨run,member,unpromotable⟩
    refine ⟨run.invocation,List.mem_map.mpr ⟨run,member,rfl⟩,?_⟩
    show ¬ Promoted s run.prepared
    rw [promoted_iff performed member]
    simpa using unpromotable
  · rintro ⟨invocation,member,unpromoted⟩
    obtain ⟨run,inside,rfl⟩ := List.mem_map.mp member
    refine ⟨run,inside,?_⟩
    have unpromotable : ¬ run.promotable = true := fun promotable => unpromoted
        ((promoted_iff performed inside).mpr promotable)
    simpa using unpromotable

/-- The package of an item that is done is the one that was prepared from it. -/
theorem done_iff (performed : Performed runtime scenario account trace s) {p : Preparation}
    (inside : p ∈ account.works) :
    Done account.settings account.profiles trace s p.source ↔
      ∃ run ∈ account.runs, p.prepared = some run.prepared ∧ run.promotable = true := by
  constructor
  · rintro ⟨authorization,prepared,_,named,_,_,promoted⟩
    obtain ⟨answer,_,_,_,answered,_⟩ := id promoted
    obtain ⟨run,member,rfl,_⟩ := (answered_iff performed).mp answered
    obtain ⟨item,_,q,other,ready,own,_⟩ := run_ready performed member
    have same : p.source = q.source := by
      refine source_unique performed other (work_listed performed inside).1 ?_
      rw [← Preparation.prepared_id ready]
      exact named
    have equal : p = q := by
      obtain ⟨_,ran⟩ := work_listed performed inside
      obtain ⟨_,again⟩ := work_listed performed other
      rw [same,again] at ran
      exact (Except.ok.inj ran).symm
    rw [equal]
    exact ⟨run,member,ready,(promoted_iff performed member).mp promoted⟩
  · rintro ⟨run,member,prepared,promotable⟩
    obtain ⟨_,ran⟩ := work_listed performed inside
    have ready := preparation_ready ran prepared
    refine ⟨p.authorization,run.prepared,ready.source_same,?_,ready_cleared ready,?_,
      (promoted_iff performed member).mpr promotable⟩
    · rw [ready.id_same]
      exact identifies_iff.mpr ⟨p.candidate,ready.candidate,ready.id,ready.named⟩
    · rw [scheduled_same performed]
      exact (run_selected performed).mp (List.mem_map.mpr ⟨run,member,rfl⟩)

/-- A chosen package was run. -/
theorem chosen_run (performed : Performed runtime scenario account trace s) {prepared : Prepared}
    (member : prepared ∈ account.prepared) (selected : chosen account.schedule prepared = true) :
    ∃ run ∈ account.runs, run.prepared = prepared := by
  have here : prepared ∈ account.runs.map Run.prepared := by
    rw [performed.visited]
    exact List.mem_filter.mpr ⟨member,selected⟩
  exact List.mem_map.mp here

/-- Every item is done exactly when nothing about the items or the runs went wrong. -/
theorem all_done (performed : Performed runtime scenario account trace s) :
    (∀ source, .obj source ∈ account.settings.work_items → Done account.settings account.profiles trace s source) ↔
      account.blocked = false ∧ account.undecided = false ∧
        account.runs.any (fun run => !run.promotable) = false ∧ account.waiting = false := by
  unfold Account.blocked Account.undecided Account.waiting
  simp only [List.any_eq_false,Bool.not_eq_true,Bool.not_eq_true',Bool.not_eq_false]
  constructor
  · intro done
    have own : ∀ p ∈ account.works, ∃ run ∈ account.runs, p.prepared = some run.prepared ∧ run.promotable = true :=
      fun p inside => (done_iff performed inside).mp (done p.source (work_listed performed inside).1)
    have ready : ∀ p ∈ account.works, p.blocks = false ∧ p.asks = false := by
      intro p inside
      obtain ⟨run,_,prepared,_⟩ := own p inside
      exact (ready_or_held (work_listed performed inside).2).mp ⟨_,prepared⟩
    refine ⟨fun p inside => (ready p inside).1,fun p inside => (ready p inside).2,?_,?_⟩
    · intro run member
      obtain ⟨_,_,p,inside,prepared,_⟩ := run_ready performed member
      obtain ⟨other,found,again,promotable⟩ := own p inside
      rw [prepared] at again
      rw [run_unique performed member found (congrArg Prepared.work_package_id (Option.some.inj again))]
      exact promotable
    · intro prepared member
      obtain ⟨p,inside,ready⟩ := List.mem_filterMap.mp member
      obtain ⟨run,found,again,_⟩ := own p inside
      rw [ready] at again
      rw [Option.some.inj again]
      obtain ⟨_,_,_,_,_,_,selected⟩ := run_ready performed found
      exact selected
  · rintro ⟨blocks,asks,promotable,waits⟩ source listed
    obtain ⟨p,inside,rfl,ran⟩ := work_prepared performed listed
    obtain ⟨prepared,ready⟩ := (ready_or_held ran).mpr ⟨blocks p inside,asks p inside⟩
    have member : prepared ∈ account.prepared := List.mem_filterMap.mpr ⟨p,inside,ready⟩
    obtain ⟨run,found,rfl⟩ := chosen_run performed member (waits prepared member)
    exact (done_iff performed inside).mpr ⟨run,found,ready,promotable run found⟩

end

/-! ### The integration -/

section
variable {σ : Type} {runtime : ReferenceOrchestrator σ} {scenario : Dict} {account : Account}
  {trace : OrchestrationTrace}
  {s : Locals σ}

theorem integrates_iff (performed : Performed runtime scenario account trace s) :
    Integrates scenario trace s ↔ trace.integration_status = some "passed" := by
  constructor
  · rintro ⟨_,_,_,_,_,passed⟩
    exact passed.status
  intro passed
  have outcome := passed
  rw [performed.integration_status] at outcome
  rcases integration_cases performed.integrated with ⟨_,absent⟩ |
    ⟨_,integration,expected,requested,expects,⟨_,_,_,_,blocked⟩ | here⟩
  · rw [absent] at outcome
    cases outcome
  · rw [blocked] at outcome
    simp [Integration.integrated] at outcome
  obtain ⟨complete,batch,result,combined,evaluated⟩ := here
  obtain ⟨revision,reported,targeted,members,joined,reports,same,valid⟩ := combine_parts combined
  have batched := performed.batch
  rw [evaluated] at outcome batched
  have passes : text result "status" = "passed" := Option.some.inj outcome
  obtain ⟨resulting,other⟩ := passed_result valid passes
  rw [same _ (by decide)] at resulting other
  rw [targeted,eq_str_right_false] at other
  have own : ∀ completion ∈ account.runs.flatMap (Run.completions account.settings),
      completion.get "workPackageId" = .str (text completion "workPackageId") ∧
        MemberOf s batch (Scheduler.member_of completion) := by
    intro completion member
    obtain ⟨run,inside,promotable,brought,held,rfl⟩ := completion_run performed member
    obtain ⟨id,base,_⟩ := @completion_fields account.settings run.prepared run.result brought
    refine ⟨?_,run.prepared,brought,(promoted_iff performed inside).mpr promotable,?_,held,?_⟩
    · unfold text
      rw [id]
      rfl
    · rw [(member_fields _).1]
      exact id
    · rw [← base,targeted]
      exact (joined _ member).base
  refine ⟨integration,batch,reported,expected,_,requested,passed,batched,members,expects,?_,?_,reports,?_,resulting,?_⟩
  · intro value
    rw [expected_ready.mp complete]
    simp only [mem_members]
    constructor
    · rintro ⟨completion,member,rfl⟩
      exact ⟨_,⟨completion,member,rfl⟩,(member_fields _).1.trans (own completion member).1⟩
    · rintro ⟨_,⟨completion,member,rfl⟩,rfl⟩
      exact ⟨completion,member,(member_fields _).1.trans (own completion member).1⟩
  · intro _ member
    obtain ⟨completion,inside,rfl⟩ := mem_members.mp member
    exact (own completion inside).2
  · rw [← same _ (by decide)]
    exact text_filled (by decide) passes
  · rw [targeted]
    exact other

theorem integration_fails (performed : Performed runtime scenario account trace s) :
    account.integration.fails = true ↔ Requested scenario ∧ ¬ Integrates scenario trace s := by
  rw [integrates_iff performed,performed.integration_status]
  unfold Requested
  rcases integration_cases performed.integrated with ⟨absent,outcome⟩ |
    ⟨requested,_,_,_,_,⟨_,_,_,_,outcome⟩ | ⟨_,_,_,_,outcome⟩⟩
  · rw [outcome,absent]
    exact iff_of_false (by simp [Integration.fails]) (by simp)
  · rw [outcome]
    exact iff_of_true rfl ⟨requested,by simp [Integration.integrated]⟩
  · rw [outcome]
    simp [Integration.fails,Integration.integrated,requested]

theorem failed_iff (performed : Performed runtime scenario account trace s) :
    account.failed = true ↔ Failed scenario trace s := by
  unfold Account.failed Failed
  rw [Bool.or_eq_true,unpromoted_iff performed,integration_fails performed]

/-- The status is the first that applies. -/
theorem verdict_cases (account : Account) :
    (account.verdict = "completed" ↔ account.blocked = false ∧ account.undecided = false ∧ account.failed = false ∧
      account.waiting = false) ∧
    (account.verdict = "blocked" ↔ account.blocked = true) ∧
    (account.verdict = "decision_required" ↔ account.blocked = false ∧ account.undecided = true) ∧
    (account.verdict = "failed" ↔ (account.blocked = false ∧ account.undecided = false) ∧ account.failed = true) ∧
    (account.verdict = "waiting" ↔ (account.blocked = false ∧ account.undecided = false) ∧ account.failed = false ∧
      account.waiting = true) := by
  unfold Account.verdict
  cases account.blocked <;> cases account.undecided <;> cases account.failed <;> cases account.waiting <;> simp

theorem verdict_listed (account : Account) :
    account.verdict ∈ ["completed","blocked","decision_required","failed","waiting"] := by
  unfold Account.verdict
  split_ifs <;> simp

theorem unheld_iff (performed : Performed runtime scenario account trace s) :
    (∀ source, .obj source ∈ account.settings.work_items → ¬ Barred account.settings account.profiles source ∧
      ¬ Undecided account.settings source) ↔ account.blocked = false ∧ account.undecided = false := by
  rw [← Bool.not_eq_true,← Bool.not_eq_true,blocked_iff performed,asked_iff performed]
  constructor
  · intro unheld
    exact ⟨fun ⟨source,listed,barred⟩ => (unheld source listed).1 barred,
      fun ⟨source,listed,undecided⟩ => (unheld source listed).2 undecided⟩
  · rintro ⟨unbarred,decided⟩ source listed
    exact ⟨fun barred => unbarred ⟨source,listed,barred⟩,fun undecided => decided ⟨source,listed,undecided⟩⟩

/-- An execution is completed when its items are done and its integration passed. -/
theorem completed_sound (performed : Performed runtime scenario account trace s) : account.verdict = "completed" ↔
    (∀ source, .obj source ∈ account.settings.work_items → Done account.settings account.profiles trace s source) ∧
      (Requested scenario → Integrates scenario trace s) := by
  have integrated : (Requested scenario → Integrates scenario trace s) ↔ account.integration.fails = false := by
    rw [← Bool.not_eq_true,integration_fails performed]
    exact not_and_not_right.symm
  rw [(verdict_cases account).1,all_done performed,integrated]
  unfold Account.failed
  rw [Bool.or_eq_false_iff]
  constructor
  · rintro ⟨unbarred,decided,⟨promoted,passed⟩,none_waits⟩
    exact ⟨⟨unbarred,decided,promoted,none_waits⟩,passed⟩
  · rintro ⟨⟨unbarred,decided,promoted,none_waits⟩,passed⟩
    exact ⟨unbarred,decided,⟨promoted,passed⟩,none_waits⟩

end

/-! ### The whole execution -/

/-- The status of a managed trace is the verdict on its items, runs and integration,
    and the trace is valid. -/
theorem verdict_sound {σ : Type} {runtime : ReferenceOrchestrator σ} {scenario : Dict} {world : σ} {s' : Locals σ}
    {trace : OrchestrationTrace} (ran : execute runtime scenario (start world) = (.ok trace,s'))
    (managed : trace.status ≠ "not_managed") : ∃ settings profiles, Managed scenario settings ∧
      Published runtime profiles ∧
      Sound scenario settings profiles trace s' := by
  obtain ⟨account,performed⟩ := execute_returned ran managed
  obtain ⟨_,blocked,undecided,failed,waiting⟩ := verdict_cases account
  have unbarred : (∀ source, .obj source ∈ account.settings.work_items →
      ¬ Barred account.settings account.profiles source) ↔ account.blocked = false := by
    rw [← Bool.not_eq_true,blocked_iff performed]
    simp
  refine ⟨account.settings,account.profiles,performed.managed,performed.published,?_,?_,?_,?_,?_,?_,?_,performed.valid,
    ?_,?_,?_⟩
  · rw [performed.status]
    exact completed_sound performed
  · rw [performed.status,blocked]
    exact blocked_iff performed
  · rw [performed.status,undecided,unbarred,asked_iff performed]
  · rw [performed.status,failed,unheld_iff performed,failed_iff performed]
  · rw [performed.status,waiting,unheld_iff performed,← failed_iff performed,Bool.not_eq_true,waiting_iff performed]
  · rw [performed.status]
    exact verdict_listed account
  · intro item listed
    obtain ⟨p,_,ran⟩ := forall₂_left performed.each item listed
    exact ⟨p.source,(preparation_ok.mp ran).1⟩
  · rw [performed.events]
    exact performed.recorded.chain
  · rw [performed.project]
    exact (managed_given performed.managed).1.project_id
  · intro event member
    rw [performed.events] at member
    obtain ⟨_,_,_,_,of_project,_,_⟩ := performed.recorded.numbered event member
    rw [performed.project]
    exact of_project

theorem verdict_sound_sample : ∃ trace s' settings profiles,
    execute (Feasibility.sample_runtime (.obj Feasibility.sample_answer)) Feasibility.sample_scenario (start ()) =
      (.ok trace,s') ∧ s'.invocations ≠ [] ∧ Sound Feasibility.sample_scenario settings profiles trace s' := by
  obtain ⟨trace,s',plan,outcome,ran,performed⟩ := Feasibility.sample_performed
  obtain ⟨settings,profiles,_,_,sound⟩ := verdict_sound ran (status_managed performed)
  refine ⟨trace,s',settings,profiles,ran,?_,sound⟩
  rw [performed.invocations]
  simp

end V3Aidlc.Verdicts
