import V3Aidlc.Effects
import V3Aidlc.Authorization
import V3Aidlc.EvidenceGates
import V3Aidlc.Recovery
import V3Aidlc.ContextCompiler
import V3Aidlc.AgentAdapters
import V3Aidlc.Scheduler
import V3Aidlc.LifecycleContracts
import V3Aidlc.ConversationalGateway

/-!
The reference assembly (`reference_orchestrator.py`). `execute` prepares each work
item (authorization, context, adapter), schedules what is prepared, dispatches what
is selected, evaluates the acceptance gates and integrates; every step is recorded
as an event. The locals of the procedure are a state, with the adapters' world, so
an adapter may do anything to its own world between two calls.
-/
namespace V3Aidlc.ReferenceOrchestrator
open V3Aidlc.Values V3Aidlc.Loops V3Aidlc.Effects V3Aidlc.Effects.Proc V3Aidlc.Contracts V3Aidlc.Canonical
open V3Aidlc.Authorization (AuthorizationResult evaluate_authorization)
open V3Aidlc.ContextCompiler (ContextManifest compile_context)
open V3Aidlc.ConversationalGateway (ActivationResult ActivationDecision decide_activation)
open V3Aidlc.EvidenceGates (GateEvaluation evaluate_gate)
open V3Aidlc.LifecycleContracts (SelectionResult select_modes)
open V3Aidlc.Recovery (append_event verify_event_chain)
open V3Aidlc.AgentAdapters (NegotiationResult select_adapter build_dispatch normalize_provider_result)
open V3Aidlc.Scheduler (ScheduleDecision ScheduleEntry SchedulePlan schedule schedule_plan_to_dict
  build_integration_batch validate_integration_result)

/-! ### Traces -/

structure WorkTrace where
  work_package_id : String
  authorization : String
  authorization_explanation : String
  context_manifest_id : Option String
  adapter_id : Option String
  schedule_decision : String
  run_status : Option String
  gate_outcome : Option String
  reasons : List String

structure OrchestrationTrace where
  scenario_id : String
  project_id : String
  status : String
  activation : String
  route_id : String
  stage : String
  mode_ids : List String
  state_revision : String
  work : List WorkTrace
  schedule_plan : Option Dict
  integration_batch : Option Dict
  integration_status : Option String
  events : List Dict
  summary : String

def TRACE_STATUSES : List String := ["not_managed","completed","waiting","decision_required","blocked","failed"]

def orchestrator_error {α : Type} (message : String) : Py α := fail .OrchestratorError message
def reject (condition : Bool) (message : String) : Py Unit := reject_if .OrchestratorError condition message
def required_string := Contracts.required_string .OrchestratorError

/-- The packages that the schedule of a trace selected. -/
def selected_ids (plan : Dict) : List String := (strings? (plan.get "selectedWorkPackageIds")).getD []

def same_members (left right : List String) : Bool := left.all right.contains && right.all left.contains

def validate_managed (trace : OrchestrationTrace) : Py Unit := do
  reject trace.events.isEmpty "managed trace requires durable events"
  verify_event_chain trace.events
  reject (trace.events.any (fun event => !(event.get "projectId").eq (.str trace.project_id)))
    "trace events belong to another project"
  match trace.schedule_plan with
  | none => pure ()
  | some plan =>
    let traced_selected :=
      (trace.work.filter (fun item => item.schedule_decision = "selected")).map WorkTrace.work_package_id
    reject (!same_members (selected_ids plan) traced_selected) "trace schedule does not match work decisions"
  reject (trace.integration_status = some "passed" && trace.integration_batch.isNone)
    "passed integration requires its batch"

def validate_trace (trace : OrchestrationTrace) : Py Unit := do
  reject (!TRACE_STATUSES.contains trace.status) "trace status is invalid"
  [("scenario_id",trace.scenario_id),("project_id",trace.project_id),("route_id",trace.route_id),("stage",trace.stage),
    ("state_revision",trace.state_revision),("summary",trace.summary)].forM (fun text =>
      reject (blank text.2) ("trace " ++ text.1 ++ " must be a non-empty string"))
  reject (!decide (trace.work.map WorkTrace.work_package_id).Nodup) "trace work-package identities must be unique"
  if trace.status = "not_managed" then
    reject (!trace.events.isEmpty || trace.schedule_plan.any (fun plan => !plan.isEmpty) ||
      trace.integration_batch.any (fun batch => !batch.isEmpty)) "unmanaged trace cannot claim managed execution"
  else validate_managed trace

/-! ### Adapters -/

/-- An integration over a world of its own. It receives and returns values: what
    it keeps of them it keeps in its world. -/
structure AgentAdapter (σ : Type) where
  capability_profile : Proc σ PyError Dict
  invoke : Dict → Proc σ PyError Json

/-- The registered adapters under the ids they gave when they were registered. -/
structure ReferenceOrchestrator (σ : Type) where
  adapters : List (String × AgentAdapter σ)
  distinct : (adapters.map Prod.fst).Nodup

variable {σ : Type}

/-- One pass of the loop of the constructor. -/
def register (runtime : ReferenceOrchestrator σ) (adapter : AgentAdapter σ) :
    Proc σ PyError (ReferenceOrchestrator σ) := do
  let profile ← adapter.capability_profile
  let adapter_id ← lift (required_string profile "adapterId")
  if known : adapter_id ∈ runtime.adapters.map Prod.fst then
    lift (orchestrator_error ("duplicate adapter: " ++ adapter_id))
  else
    return ⟨runtime.adapters ++ [(adapter_id,adapter)],by
      rw [List.map_append,List.nodup_append_comm]
      exact List.nodup_cons.mpr ⟨known,runtime.distinct⟩⟩

def construct (adapters : List (AgentAdapter σ)) : Proc σ PyError (ReferenceOrchestrator σ) :=
  adapters.foldlM register ⟨[],List.nodup_nil⟩

/-! ### Scenarios -/

/-- What `execute` has read and decided before the first event. -/
structure Settings where
  scenario_id : String
  project_id : String
  state_revision : String
  now : String
  stage : String
  activation : ActivationResult
  selection : SelectionResult
  policies : List Json
  recipe : Dict
  work_items : List Json

def Settings.mode_ids (settings : Settings) : List String :=
  settings.selection.selected.map LifecycleContracts.ModeSelection.mode_id

/-- The conditions of the rules of a stage that the facts decide. -/
def route_conditions (route : Dict) (stage : String) : List (List Json) :=
  (records ((LifecycleContracts.stage_of route stage).getD []) "modeRules").filterMap (fun rule =>
    if text rule "requirement" = "conditional" then some (items rule "whenAll") else none)

/-- A dict that the scenario must hold under the key. -/
def required_object (scenario : Dict) (key message : String) : Py Dict :=
  match (scenario.get key).dict? with
  | none => orchestrator_error message
  | some fields => return fields

def required_list (scenario : Dict) (key : String) : Py (List Json) :=
  match (scenario.get key).list? with
  | none => orchestrator_error (key ++ " must be a non-empty array")
  | some values => do
    reject values.isEmpty (key ++ " must be a non-empty array")
    return values

def select_scenario_modes (scenario : Dict) (stage : String) : Py SelectionResult := do
  let route ← required_object scenario "route" "route and modeLibrary are required"
  let mode_library ← required_object scenario "modeLibrary" "route and modeLibrary are required"
  let facts ← as_facts (route_conditions route stage) (scenario.getOr "routeFacts" (.obj []))
  let optional_mode_ids ← iterate (scenario.getOr "optionalModeIds" (.arr []))
  select_modes route mode_library stage facts (scenario.get "posture") optional_mode_ids

/-- The texts every scenario has, and the activation. -/
structure Identity where
  scenario_id : String
  project_id : String
  state_revision : String
  now : String
  stage : String
  activation : ActivationResult

def identify (scenario : Dict) : Py Identity := do
  let scenario_id ← required_string scenario "scenarioId"
  let project_id ← required_string scenario "projectId"
  let state_revision ← required_string scenario "stateRevision"
  let now ← required_string scenario "now"
  let stage ← required_string scenario "stage"
  let facts ← as_dict (scenario.getOr "activationFacts" (.obj []))
  return ⟨scenario_id,project_id,state_revision,now,stage,decide_activation facts⟩

def configure (scenario : Dict) (identity : Identity) : Py Settings := do
  let selection ← select_scenario_modes scenario identity.stage
  let policies ← required_list scenario "authorizationPolicies"
  let recipe ← required_object scenario "contextRecipe" "contextRecipe is required"
  let work_items ← required_list scenario "work"
  return ⟨identity.scenario_id,identity.project_id,identity.state_revision,identity.now,identity.stage,
    identity.activation,selection,policies,recipe,work_items⟩

/-! ### The state of an execution -/

/-- A work package that is ready to be scheduled; `run` is the run that its
    manifest was compiled for. -/
structure Prepared where
  work_package_id : String
  source : Dict
  candidate : Dict
  run : Dict
  manifest : ContextManifest
  request : Dict
  profile : Dict

/-- A call of an adapter. -/
structure Invocation where
  prepared : Prepared
  dispatch : Dict

/-- The locals of `execute` and the adapters' world; the last three fields are no
    locals of the source: they keep what the statements are about, the calls made,
    the answers that came back and the gates evaluated. -/
structure Locals (σ : Type) where
  world : σ
  histories : List Dict := []
  event_number : Nat := 1
  last_event_id : Option String := none
  profiles : List Dict := []
  prepared : List Prepared := []
  traces : List WorkTrace := []
  decision_required : Bool := false
  hard_block : Bool := false
  any_failure : Bool := false
  any_waiting : Bool := false
  completions : List Dict := []
  invocations : List Invocation := []
  answers : List (Prepared × Json) := []
  evaluations : List (Prepared × GateEvaluation) := []

abbrev Execution (σ α : Type) := Proc (Locals σ) PyError α

def on_world {α : Type} (m : Proc σ PyError α) : Execution σ α := fun s =>
  ((m s.world).1,{ s with world := (m s.world).2 })

def Locals.trace_of (s : Locals σ) (work_package_id : String) : Option WorkTrace :=
  s.traces.find? (fun trace => trace.work_package_id = work_package_id)

/-- `traces[trace.work_package_id] = trace`. -/
def put_trace (trace : WorkTrace) : List WorkTrace → List WorkTrace
  | [] => [trace]
  | other :: rest =>
    if other.work_package_id = trace.work_package_id then trace :: rest else other :: put_trace trace rest

def keep_trace (trace : WorkTrace) (s : Locals σ) : Locals σ := { s with traces := put_trace trace s.traces }

/-! ### Events -/

/-- `f"TRACE-EVT-{number:04d}"`. -/
def event_id (number : Nat) : String :=
  let digits := Nat.toDigits 10 number
  "TRACE-EVT-" ++ String.ofList (List.replicate (4 - digits.length) '0' ++ digits)

def idempotency_key (settings : Settings) (number : Nat) (event_type aggregate : String) : String :=
  settings.scenario_id ++ ":" ++ toString number ++ ":" ++ event_type ++ ":" ++ aggregate

def event_draft (settings : Settings) (number : Nat) (event_type aggregate_type : String) (aggregate_id : Json)
    (payload : Dict) (causation_id : Option String) : Dict :=
  let event : Dict :=
    [("schemaVersion",.str "0.1"),("eventId",.str (event_id number)),
      ("projectId",.str settings.project_id),("streamId",.str ("project:" ++ settings.project_id)),
      ("eventType",.str event_type),("aggregateType",.str aggregate_type),("aggregateId",aggregate_id),
      ("occurredAt",.str settings.now),("recordedAt",.str settings.now),
      ("actor",.obj [("type",.str "project_lead"),("id",.str "reference-project-lead")]),
      ("idempotencyKey",.str (idempotency_key settings number event_type (display aggregate_id))),
      ("correlationId",.str settings.scenario_id),("payload",.obj payload)]
  match causation_id with
  | none => event
  | some id => if id = "" then event else event ++ [("causationId",.str id)]

/-- `record`: appends an event and moves the counter and the last id on. -/
def record (settings : Settings) (event_type aggregate_type : String) (aggregate_id : Json) (payload : Dict) :
    Execution σ Unit := do
  let s ← read
  let (histories,appended,_) ← lift (append_event s.histories
    (event_draft settings s.event_number event_type aggregate_type aggregate_id payload s.last_event_id))
  modify (fun s => { s with histories := histories
                            last_event_id := some (text appended "eventId")
                            event_number := s.event_number + 1 })

/-! ### Preparation -/

/-- The conditions of every rule of every policy. -/
def policy_conditions (policies : List Json) : List (List Json) :=
  (policies.filterMap Json.dict?).flatMap (fun policy =>
    (Authorization.policy_rules policy).map (fun rule => items rule "whenAll"))

def work_source (item : Json) : Py Dict :=
  match item.dict? with
  | none => orchestrator_error "each work item must be an object"
  | some source => return source

def candidate_of (source : Dict) : Py Dict := required_object source "candidate" "each work item requires a candidate"

def authorize (settings : Settings) (source : Dict) : Py AuthorizationResult := do
  let facts ← as_facts (policy_conditions settings.policies) (source.getOr "authorizationFacts" (.obj []))
  evaluate_authorization settings.policies facts

/-- The context run with the modes and the stage of the scenario. -/
def context_run (settings : Settings) (source : Dict) : Py Dict := do
  let run ← required_object source "contextRun" "authorized work requires contextRun"
  return (run.set "modes" (.arr (settings.mode_ids.map Json.str))).set "stage" (.str settings.stage)

def compile_for (settings : Settings) (source run : Dict) : Py ContextManifest :=
  compile_context settings.recipe run (source.getOr "contextItems" (.arr []))
    (source.getOr "disclosureGrants" (.arr []))
    settings.now

/-- The run request with the identity and the size of the compiled context. -/
def run_request (source : Dict) (manifest : ContextManifest) (authorization : AuthorizationResult) : Py Dict := do
  let request ← new_dict (source.getOr "runRequest" (.obj []))
  return request.update [("contextManifestId",.str manifest.manifest_id),("contextManifestDigest",.str manifest.sha256),
    ("contextBytes",.int (max 1 manifest.total_bytes)),
    ("authorizationDecision",.str authorization.decision.value)]

/-- The trace of a package that does not reach the scheduler. -/
def not_eligible (work_package_id : String) (authorization : AuthorizationResult) (context_manifest_id : Option String)
    (reason : String) : WorkTrace :=
  ⟨work_package_id,authorization.decision.value,authorization.explanation,context_manifest_id,none,"not_eligible",none,
    none,[reason]⟩

def selected_digest (profile : Dict) (negotiations : List NegotiationResult) : String :=
  ((negotiations.find? (fun result => result.adapter_id = text profile "adapterId")).map
    NegotiationResult.profile_digest).getD ""

/-- The trace of a package with an adapter. -/
def pending (work_package_id : String) (authorization : AuthorizationResult) (manifest : ContextManifest)
    (profile : Dict)
    (negotiations : List NegotiationResult) : WorkTrace :=
  ⟨work_package_id,authorization.decision.value,authorization.explanation,some manifest.manifest_id,
    some (text profile "adapterId"),"pending",none,none,
    (negotiations.filter (fun result =>
      result.adapter_id ≠ text profile "adapterId")).flatMap NegotiationResult.reasons⟩

/-- The part of the loop body after the context is compiled. -/
def negotiate_item (settings : Settings) (source candidate run : Dict) (work_package_id : String)
    (authorization : AuthorizationResult) (manifest : ContextManifest) : Execution σ Unit := do
  let request ← lift (run_request source manifest authorization)
  let s ← read
  let selected ← lift (attempt .AdapterError (select_adapter request s.profiles))
  match selected with
  | .error message => do
    modify (fun s => keep_trace (not_eligible work_package_id authorization (some manifest.manifest_id)
      ("capability negotiation failed: " ++ message)) { s with hard_block := true })
    record settings "capability.rejected" "agent-run" (request.getOr "runId" (.str work_package_id))
      [("reason",.str message)]
  | .ok (profile,negotiations) => do
    let prepared : Prepared :=
      ⟨work_package_id,source,candidate.set "adapterId" (profile.get "adapterId"),run,manifest,request,profile⟩
    modify (fun s => keep_trace (pending work_package_id authorization manifest profile negotiations)
      { s with prepared := s.prepared ++ [prepared] })
    record settings "capability.negotiated" "agent-run" (request.get "runId")
      [("adapterId",profile.get "adapterId"),("profileDigest",.str (selected_digest profile negotiations))]

/-- The part of the loop body for authorized work. -/
def compile_item (settings : Settings) (source candidate : Dict) (work_package_id : String)
    (authorization : AuthorizationResult) : Execution σ Unit := do
  let run ← lift (context_run settings source)
  let compiled ← lift (attempt .ContextError (compile_for settings source run))
  match compiled with
  | .error message => do
    modify (fun s => keep_trace (not_eligible work_package_id authorization none
      ("context compilation failed: " ++ message))
      { s with hard_block := true })
    record settings "context.rejected" "work-package" (.str work_package_id) [("reason",.str message)]
  | .ok manifest => negotiate_item settings source candidate run work_package_id authorization manifest

/-- One pass of the loop over the work items. -/
def prepare_item (settings : Settings) (item : Json) : Execution σ Unit := do
  let source ← lift (work_source item)
  let candidate ← lift (candidate_of source)
  let work_package_id ← lift (required_string candidate "workPackageId")
  let s ← read
  lift (reject (s.trace_of work_package_id).isSome ("duplicate work package: " ++ work_package_id))
  let authorization ← lift (authorize settings source)
  record settings "authorization.evaluated" "work-package" (.str work_package_id)
    [("decision",.str authorization.decision.value),
      ("controllingRules",.arr (authorization.controlling_rules.map Json.str))]
  if !authorization.decision.isAuto then
    modify (fun s => keep_trace (not_eligible work_package_id authorization none authorization.explanation)
      { s with decision_required := s.decision_required || authorization.decision = .USER_DECISION_REQUIRED
               hard_block := s.hard_block || authorization.decision = .BLOCKED })
  else compile_item settings source candidate work_package_id authorization

/-! ### Dispatch -/

/-- The conditions of the conditional checks of a gate. -/
def gate_conditions (gate : Dict) : List (List Json) :=
  (EvidenceGates.check_rules gate).filterMap (fun rule =>
    if (rule.get "requirement").eq (.str "conditional") then some (items rule "whenAll") else none)

/-- `evaluate_gate` on the acceptance of a work item. -/
def evaluate_acceptance (acceptance : Dict) : Py GateEvaluation := do
  let gate ← item acceptance "gate" >>= as_dict
  let check_library ← item acceptance "checkLibrary" >>= as_dict
  let check_results ← item acceptance "checkResults" >>= iterate
  let evidence_records ← item acceptance "evidenceRecords" >>= iterate
  let facts ← as_facts (gate_conditions gate) (acceptance.getOr "facts" (.obj []))
  let subject_id ← item acceptance "subjectId"
  let subject_revision ← item acceptance "subjectRevision"
  let evaluated_at ← item acceptance "evaluatedAt"
  let exceptions ← iterate (acceptance.getOr "exceptions" (.arr []))
  evaluate_gate gate check_library check_results evidence_records facts subject_id subject_revision evaluated_at exceptions

/-- What the loop body keeps of a run for the trace. -/
structure Verdict where
  gate_outcome : Option String
  reasons : List String

/-- The acceptance of a run that ended: its gate, when it completed and has one. -/
def accept (settings : Settings) (prepared : Prepared) (status : String) (reasons : List String) :
    Execution σ Verdict :=
  if status ≠ "completed" then do
    modify (fun s => { s with any_failure := true })
    return ⟨none,reasons ++ ["run ended as " ++ status]⟩
  else
    match (prepared.source.get "acceptance").dict? with
    | none => do
      modify (fun s => { s with any_failure := true })
      return ⟨none,reasons ++ ["completed run has no acceptance Gate"]⟩
    | some acceptance => do
      let gate ← lift (evaluate_acceptance acceptance)
      modify (fun s => { s with evaluations := s.evaluations ++ [(prepared,gate)] })
      record settings "gate.evaluated" "work-package" (.str prepared.work_package_id)
        [("outcome",.str gate.outcome.value),("promotable",.bool gate.promotable)]
      modify (fun s => { s with any_failure := s.any_failure || !gate.promotable })
      return ⟨some gate.outcome.value,reasons ++ gate.reasons⟩

/-- The completion that an accepted package brings to the integration. -/
def completion_of (settings : Settings) (prepared : Prepared) (normalized completion : Dict) : Dict :=
  completion.update [("projectId",.str settings.project_id),("workPackageId",.str prepared.work_package_id),
    ("status",.str "completed"),("evidenceIds",normalized.get "evidenceIds")]

def promoted (gate_outcome : Option String) : Bool :=
  gate_outcome = some "passed" || gate_outcome = some "passed_with_exception"

/-- The completions of one run: its own when its gate promotes it. -/
def completions_of (settings : Settings) (prepared : Prepared) (normalized : Dict) (gate_outcome : Option String) :
    List Dict :=
  match (prepared.source.get "integrationCompletion").dict? with
  | some completion =>
    if text normalized "status" = "completed" && promoted gate_outcome then
      [completion_of settings prepared normalized completion]
    else []
  | none => []

def adapter_for (runtime : ReferenceOrchestrator σ) (profile : Dict) : Py (AgentAdapter σ) :=
  match runtime.adapters.lookup (text profile "adapterId") with
  | none => .error .KeyError
  | some adapter => return adapter

/-- The dispatch, the call of the adapter and its normalised answer. -/
def invoke_item (runtime : ReferenceOrchestrator σ) (settings : Settings) (prepared : Prepared) : Execution σ Dict := do
  let request := prepared.request
  let run_id := text request "runId"
  let dispatch ← lift (build_dispatch request prepared.profile ("LEASE-" ++ run_id))
  record settings "run.dispatched" "agent-run" (request.get "runId")
    [("runId",request.get "runId"),("workPackageId",.str prepared.work_package_id),
      ("dispatchDigest",dispatch.get "dispatchDigest"),
      ("externalSideEffectPossible",request.get "externalSideEffectPossible")]
  let adapter ← lift (adapter_for runtime prepared.profile)
  modify (fun s => { s with invocations := s.invocations ++ [⟨prepared,dispatch⟩] })
  let raw ← on_world (adapter.invoke dispatch)
  modify (fun s => { s with answers := s.answers ++ [(prepared,raw)] })
  let normalized ← lift (normalize_provider_result raw dispatch ("provider-result:" ++ run_id))
  record settings "run.completed" "agent-run" (request.get "runId")
    [("runId",request.get "runId"),("status",normalized.get "status")]
  return normalized

def decision_for (plan : SchedulePlan) (work_package_id : String) : Option ScheduleEntry :=
  plan.entries.find? (fun entry => entry.work_package_id = work_package_id)

/-- One pass of the loop over the prepared packages. -/
def dispatch_item (runtime : ReferenceOrchestrator σ) (settings : Settings) (plan : SchedulePlan)
    (prepared : Prepared) :
    Execution σ Unit := do
  let s ← read
  match decision_for plan prepared.work_package_id, s.trace_of prepared.work_package_id with
  | some entry,some current =>
    if entry.decision = .DEFERRED then
      modify (fun s => keep_trace { current with schedule_decision := entry.decision.value, run_status := none,
                                                 gate_outcome := none, reasons := entry.reasons }
        { s with any_waiting := true })
    else do
      let normalized ← invoke_item runtime settings prepared
      let status := text normalized "status"
      let verdict ← accept settings prepared status current.reasons
      modify (fun s => keep_trace { current with schedule_decision := entry.decision.value, run_status := some status,
                                                 gate_outcome := verdict.gate_outcome, reasons := verdict.reasons }
        { s with completions := s.completions ++ completions_of settings prepared normalized verdict.gate_outcome })
  | _,_ => lift (.error .KeyError)

/-! ### Scheduling -/

def plan_for (scenario : Dict) (settings : Settings) (prepared : List Prepared) : Py SchedulePlan := do
  let active_reservations ← iterate (scenario.getOr "activeReservations" (.arr []))
  let policy ← as_dict (scenario.getOr "schedulerPolicy" (.obj []))
  let completed_dependencies ← iterate (scenario.getOr "completedDependencies" (.arr []))
  let current_revisions ← as_dict (scenario.getOr "currentRevisions" (.obj []))
  schedule (prepared.map Prepared.candidate) active_reservations policy completed_dependencies current_revisions
    settings.state_revision settings.now

/-- The schedule of the prepared packages and the runs of those it selects. -/
def run_prepared (runtime : ReferenceOrchestrator σ) (scenario : Dict) (settings : Settings) :
    Execution σ (Option Dict) := do
  let s ← read
  if s.prepared.isEmpty then return none
  else do
    let plan ← lift (plan_for scenario settings s.prepared)
    record settings "schedule.planned" "project" (.str settings.project_id)
      [("selected",.arr (plan.selected_work_packages.map Json.str))]
    forEach s.prepared (dispatch_item runtime settings plan)
    return some (schedule_plan_to_dict plan)

/-! ### Integration -/

/-- The batch and the status of an integration. -/
structure Integrated where
  batch : Option Dict
  status : Option String

/-- `set(values)`: of equal values the first stays. -/
def to_set (values : List Json) : Py (List Json) := do
  raise_if (!values.all Json.hashable) .TypeError
  return values.foldl (fun kept value => if memList value kept then kept else kept ++ [value]) []

def same_set (left right : List Json) : Bool :=
  left.all (fun value => memList value right) && right.all (fun value => memList value left)

/-- `sorted(values)`: texts and numbers have an order among themselves. -/
def sorted_values (values : List Json) : Py (List Json) :=
  if values.length ≤ 1 then return values
  else
    match values.mapM Json.str?,values.mapM Json.num? with
    | some texts,_ => return (sortedStrings texts).map Json.str
    | none,some _ => return sortedBy (fun value => value.num?.getD 0) values
    | none,none => .error .TypeError

def expected_members (integration : Dict) : Py (List Json) :=
  iterate (integration.getOr "memberWorkPackageIds" (.arr [])) >>= to_set

/-- The packages whose completions are ready. -/
def ready_members (completions : List Dict) : List Json :=
  (distinct (completions.map (fun completion => text completion "workPackageId"))).map Json.str

/-- The batch of the completions, checked against the reported result. -/
def integrate_ready (settings : Settings) (integration : Dict) : Execution σ Integrated := do
  let s ← read
  let batch_id ← lift (item integration "batchId")
  let target_revision ← lift (item integration "targetRevision")
  let owner_role ← lift (item integration "ownerRole")
  let required_checks ← lift (item integration "requiredChecks")
  let batch ← lift (build_integration_batch s.completions batch_id target_revision owner_role required_checks)
  let reported ← lift (item integration "result" >>= new_dict)
  let result := reported.update [("schemaVersion",.str "0.1"),("batchId",batch.get "batchId"),
    ("batchDigest",batch.get "batchDigest"),("targetRevision",batch.get "targetRevision")]
  lift (validate_integration_result result batch)
  let status := text result "status"
  modify (fun s => { s with any_failure := s.any_failure || status ≠ "passed" })
  record settings "integration.evaluated" "integration-batch" (batch.get "batchId") [("status",.str status)]
  return ⟨some batch,some status⟩

def integrate (scenario : Dict) (settings : Settings) : Execution σ Integrated := do
  if (scenario.get "integration").isNull then return ⟨none,none⟩
  else do
    let integration ← lift (required_object scenario "integration" "integration must be an object")
    let expected ← lift (expected_members integration)
    let s ← read
    let ready := ready_members s.completions
    if !same_set expected ready then do
      modify (fun s => { s with any_failure := true })
      let expected ← lift (sorted_values expected)
      let ready ← lift (sorted_values ready)
      record settings "integration.blocked" "integration-batch" (integration.getOr "batchId" (.str "unknown"))
        [("expectedMembers",.arr expected),("readyMembers",.arr ready)]
      return ⟨none,some "blocked"⟩
    else integrate_ready settings integration

/-! ### Execution -/

def overall (s : Locals σ) : String × String :=
  if s.hard_block then ("blocked","At least one required control blocked the work.")
  else if s.decision_required then ("decision_required","The next material action requires a user decision.")
  else if s.any_failure then ("failed","Execution or verification produced a result that cannot be accepted.")
  else if s.any_waiting then ("waiting","Safe work ran, while at least one package remains queued.")
  else ("completed","All selected work and required combined checks passed.")

def unmanaged_trace (identity : Identity) : OrchestrationTrace :=
  { scenario_id := identity.scenario_id
    project_id := identity.project_id
    status := "not_managed"
    activation := identity.activation.decision.value
    route_id := "none"
    stage := identity.stage
    mode_ids := []
    state_revision := identity.state_revision
    work := []
    schedule_plan := none
    integration_batch := none
    integration_status := none
    events := []
    summary := "The request remains an ordinary conversation." }

/-- The trace of one work item. -/
def work_trace (s : Locals σ) (item : Json) : Py WorkTrace := do
  let source ← as_dict item
  let candidate ← Contracts.item source "candidate" >>= as_dict
  match s.trace_of (text candidate "workPackageId") with
  | none => .error .KeyError
  | some trace => return trace

def managed_trace (settings : Settings) (plan : Option Dict) (integrated : Integrated) (s : Locals σ)
    (work : List WorkTrace) (status summary : String) : OrchestrationTrace :=
  { scenario_id := settings.scenario_id
    project_id := settings.project_id
    status := status
    activation := settings.activation.decision.value
    route_id := settings.selection.route_id
    stage := settings.stage
    mode_ids := settings.mode_ids
    state_revision := settings.state_revision
    work := work
    schedule_plan := plan
    integration_batch := integrated.batch
    integration_status := integrated.status
    events := s.histories
    summary := summary }

def started_payload (settings : Settings) : Dict :=
  [("routeId",.str settings.selection.route_id),("stage",.str settings.stage),
    ("modeIds",.arr (settings.mode_ids.map Json.str))]

/-- The profiles that the adapters publish, in the order of their registration. -/
def collect_profiles (runtime : ReferenceOrchestrator σ) : Execution σ Unit :=
  forEach runtime.adapters (fun entry => do
    let profile ← on_world entry.2.capability_profile
    modify (fun s => { s with profiles := s.profiles ++ [profile] }))

def execute_managed (runtime : ReferenceOrchestrator σ) (scenario : Dict) (settings : Settings) :
    Execution σ OrchestrationTrace := do
  record settings "orchestration.started" "project" (.str settings.project_id) (started_payload settings)
  collect_profiles runtime
  forEach settings.work_items (prepare_item settings)
  let plan ← run_prepared runtime scenario settings
  let integrated ← integrate scenario settings
  let s ← read
  let (status,summary) := overall s
  record settings "orchestration.completed" "project" (.str settings.project_id) [("status",.str status)]
  let s ← read
  let work ← lift (settings.work_items.mapM (work_trace s))
  let trace := managed_trace settings plan integrated s work status summary
  lift (validate_trace trace)
  return trace

def execute (runtime : ReferenceOrchestrator σ) (scenario : Dict) : Execution σ OrchestrationTrace := do
  let identity ← lift (identify scenario)
  if identity.activation.decision = .STAY_CONVERSATIONAL then do
    lift (validate_trace (unmanaged_trace identity))
    return unmanaged_trace identity
  else do
    let settings ← lift (configure scenario identity)
    execute_managed runtime scenario settings

/-- An execution starts with empty locals and the world as it is. -/
def start (world : σ) : Locals σ := { world := world }

/-- `ReferenceOrchestrator.recover`. -/
def recover := Recovery.plan_recovery

end V3Aidlc.ReferenceOrchestrator
