import V3Aidlc.Accounts
import V3Aidlc.AuthorizationChanges
import V3Aidlc.GateVerdicts

/-!
When an execution reaches its dispatches. If the scenario is one for managed work, the
adapters publish their profiles, every item can be prepared and every event has
something to be about, then nothing before the plan raises: the execution returns with
its account or is halted (`execute_feasible`).
-/
namespace V3Aidlc.Feasibility
open V3Aidlc.Values V3Aidlc.Loops V3Aidlc.Effects V3Aidlc.Effects.Proc V3Aidlc.Contracts
open V3Aidlc.Authorization (AuthorizationResult)
open V3Aidlc.Scheduler (SchedulePlan)
open V3Aidlc.ContextCompiler (ContextManifest)
open V3Aidlc.ReferenceOrchestrator V3Aidlc.RecordedEvents V3Aidlc.Preparations V3Aidlc.Runs V3Aidlc.Executions
open V3Aidlc.Accounts

/-- The events about the outcome of an item have something to be about. -/
def Named (notes : List Note) : Prop := ∀ n ∈ notes, ∃ id, n.aggregate_id = .str id ∧ blank id = false

section
variable {σ : Type} {settings : Settings} {s : Locals σ}

theorem record_named {event_type aggregate_type : String} {aggregate_id : Json} {payload : Dict}
    (grounded : Grounded settings) (recorded : Recorded settings s) (typed : blank event_type = false)
    (aggregated : blank aggregate_type = false) (named : Named [note event_type aggregate_id payload]) :
    ∃ s', record settings event_type aggregate_type aggregate_id payload s = (.ok (),s') := by
  obtain ⟨id,idIs,filled⟩ := named _ (List.mem_singleton_self _)
  rw [show aggregate_id = .str id from idIs]
  exact ⟨_,record_total grounded recorded typed aggregated filled⟩

section
variable {source candidate run : Dict} {id : String} {authorization : AuthorizationResult} {manifest : ContextManifest}
  {outcome : Outcome}

theorem negotiate_item_total (grounded : Grounded settings) (recorded : Recorded settings s)
    (came : negotiated s.profiles source run authorization manifest = .ok outcome)
    (named : Named (Preparation.outcome_notes ⟨source,candidate,id,authorization,outcome⟩)) :
    ∃ s', negotiate_item settings source candidate run id authorization manifest s = (.ok (),s') := by
  unfold negotiated at came
  obtain ⟨request,asked,came⟩ := bind_ok_iff.mp came
  obtain ⟨selected,offered,came⟩ := bind_ok_iff.mp came
  unfold negotiate_item
  rw [bind_lift_ok asked,bind_read,bind_lift_ok offered]
  cases selected with
  | error message =>
    cases pure_ok_iff.mp came
    dsimp only
    rw [bind_modify]
    exact record_named grounded (by exact recorded_kept recorded rfl rfl rfl) (by decide) (by decide) named
  | ok choice =>
    obtain ⟨profile,negotiations⟩ := choice
    cases pure_ok_iff.mp came
    dsimp only
    rw [bind_modify]
    exact record_named grounded (by exact recorded_kept recorded rfl rfl rfl) (by decide) (by decide) named

theorem compile_item_total (grounded : Grounded settings) (recorded : Recorded settings s)
    (came : assembled settings s.profiles source authorization = .ok outcome)
    (named : Named (Preparation.outcome_notes ⟨source,candidate,id,authorization,outcome⟩)) :
    ∃ s', compile_item settings source candidate id authorization s = (.ok (),s') := by
  unfold assembled at came
  obtain ⟨run,contextual,came⟩ := bind_ok_iff.mp came
  obtain ⟨compiled,tried,came⟩ := bind_ok_iff.mp came
  unfold compile_item
  rw [bind_lift_ok contextual,bind_lift_ok tried]
  cases compiled with
  | error message =>
    cases pure_ok_iff.mp came
    dsimp only
    rw [bind_modify]
    exact record_named grounded (by exact recorded_kept recorded rfl rfl rfl) (by decide) (by decide) named
  | ok manifest => exact negotiate_item_total grounded recorded came named

end

/-- An item that can be prepared is prepared. -/
theorem prepare_item_total {item : Json} {p : Preparation} (grounded : Grounded settings)
    (recorded : Recorded settings s)
    (ran : preparation settings s.profiles item = .ok p) (fresh : s.trace_of p.work_package_id = none)
    (named : Named p.outcome_notes) : ∃ s', prepare_item settings item s = (.ok (),s') := by
  obtain ⟨rfl,held,id,filled,authorized,came⟩ := preparation_ok.mp ran
  have candidate : candidate_of p.source = .ok p.candidate := required_object_ok.mpr held
  have identified : required_string p.candidate "workPackageId" = .ok p.work_package_id :=
    (required_string_ok _).mpr ⟨id,filled⟩
  have accepted : ReferenceOrchestrator.reject (s.trace_of p.work_package_id).isSome
      ("duplicate work package: " ++ p.work_package_id) = .ok () := by
    rw [fresh]
    rfl
  have typed : blank "authorization.evaluated" = false := by decide
  have aggregated : blank "work-package" = false := by decide
  unfold prepare_item
  rw [bind_lift_ok (work_source_ok.mpr rfl),bind_lift_ok candidate,bind_lift_ok identified,bind_read,
    bind_lift_ok accepted,bind_lift_ok authorized,bind_record grounded recorded typed aggregated filled]
  unfold outcome_of at came
  by_cases auto : p.authorization.decision.isAuto = true
  · rw [if_pos auto] at came
    rw [auto]
    exact compile_item_total grounded (recorded_next grounded recorded typed aggregated filled) came named
  · rw [Bool.not_eq_true] at auto
    rw [auto]
    exact ⟨_,rfl⟩

/-- The loop over items that can be prepared prepares them. -/
theorem prepare_all_total {profiles : List Dict} {opening : List Note} {done items : List Json}
    {earlier works : List Preparation} (grounded : Grounded settings)
    (before : PreparedAll settings profiles opening done earlier s)
    (each : List.Forall₂ (fun item p => preparation settings profiles item = .ok p) items works)
    (distinct : ((earlier ++ works).map Preparation.work_package_id).Nodup)
      (named : ∀ p ∈ works, Named p.outcome_notes) :
    ∃ s', forEach items (prepare_item settings) s = (.ok (),s') ∧
      PreparedAll settings profiles opening (done ++ items) (earlier ++ works) s' := by
  induction each generalizing done earlier s with
  | nil => exact ⟨s,rfl,by simpa using before⟩
  | @cons item p items works ran rest ih =>
    have fresh : s.trace_of p.work_package_id = none := by
      rw [trace_of_none,before.traces,trace_ids]
      intro known
      rw [List.map_append,List.map_cons] at distinct
      exact (List.nodup_append.mp distinct).2.2 _ known _ (by simp) rfl
    have here : preparation settings s.profiles item = .ok p := by
      rw [before.profiles]
      exact ran
    obtain ⟨middle,prepared⟩ := prepare_item_total grounded before.recorded here fresh (named p (by simp))
    obtain ⟨q,again,longer⟩ := prepared_next before prepared
    rw [ran] at again
    cases again
    obtain ⟨after,others,all⟩ := ih longer (by simpa using distinct)
      (fun other member => named other (by simp [member]))
    refine ⟨after,forEach_cons_returns.mpr ⟨middle,prepared,others⟩,?_⟩
    simpa using all

/-! ### The whole execution -/

/-- The adapters publish these profiles, whatever the state of their world. -/
def Publishes (runtime : ReferenceOrchestrator σ) (profiles : List Dict) : Prop :=
  List.Forall₂ (fun entry profile => ∀ world, ∃ after, entry.2.capability_profile world = (.ok profile,after))
    runtime.adapters profiles

theorem collect_profiles_total {runtime : ReferenceOrchestrator σ} {profiles : List Dict}
    (published : Publishes runtime profiles) :
    ∃ world, collect_profiles runtime s = (.ok (),{ s with world := world, profiles := s.profiles ++ profiles }) := by
  unfold collect_profiles
  unfold Publishes at published
  generalize runtime.adapters = adapters at published ⊢
  induction published generalizing s with
  | nil =>
    refine ⟨s.world,?_⟩
    rw [List.append_nil]
    rfl
  | @cons entry profile _ _ offers rest ih =>
    obtain ⟨after,offered⟩ := offers s.world
    obtain ⟨world,others⟩ := @ih { s with world := after, profiles := s.profiles ++ [profile] }
    refine ⟨world,forEach_cons_returns.mpr ⟨{ s with world := after, profiles := s.profiles ++ [profile] },?_,?_⟩⟩
    · rw [bind_world,offered]
      rfl
    · rw [others]
      simp

/-- Nothing before the plan keeps the execution from its dispatches. -/
structure Feasible (runtime : ReferenceOrchestrator σ) (scenario : Dict) (settings : Settings) (profiles : List Dict)
    (works : List Preparation) : Prop where
  managed : Managed scenario settings
  clock : ∃ now, instant? settings.now = some now
  published : Publishes runtime profiles
  each : List.Forall₂ (fun item p => preparation settings profiles item = .ok p) settings.work_items works
  distinct : (works.map Preparation.work_package_id).Nodup
  named : ∀ p ∈ works, Named p.outcome_notes

section
variable {runtime : ReferenceOrchestrator σ} {scenario : Dict} {profiles : List Dict} {works : List Preparation}
  {world : σ}
  {s' : Locals σ}

theorem execute_feasible (feasible : Feasible runtime scenario settings profiles works) (world : σ) :
    Met (fun trace s' => ∃ plan runs outcome, Performed runtime scenario
      ⟨settings,profiles,works,plan,runs,outcome⟩ trace s')
      (Halted runtime scenario settings profiles works) (execute runtime scenario (start world)) := by
  obtain ⟨identity,identified,managed,configured⟩ := feasible.managed
  have texts := (managed_given feasible.managed).2
  have grounded : Grounded settings := ⟨texts.project_id,texts.now,feasible.clock⟩
  have typed : blank "orchestration.started" = false := by decide
  have aggregated : blank "project" = false := by decide
  unfold execute
  rw [bind_lift_ok identified,if_neg managed,bind_lift_ok configured,execute_managed_split,
    bind_record grounded (recorded_start world) typed aggregated grounded.project]
  obtain ⟨after,collected⟩ : ∃ after, collect_profiles runtime (noted settings "orchestration.started" "project"
      (.str settings.project_id) (started_payload settings) (start world)) = (.ok (),{ noted settings
        "orchestration.started" "project" (.str settings.project_id) (started_payload settings) (start world) with
          world := after, profiles := profiles }) := collect_profiles_total feasible.published
  rw [bind_run_ok collected]
  obtain ⟨s,ran,prepared⟩ := prepare_all_total grounded (prepared_none grounded) feasible.each feasible.distinct
    feasible.named
  rw [bind_run_ok ran]
  have published : Published runtime profiles := by
    refine List.Forall₂.imp ?_ feasible.published
    intro entry profile offers
    obtain ⟨_,offered⟩ := offers world
    exact ⟨world,by rw [offered]⟩
  exact after_preparation_met feasible.managed published grounded prepared

theorem feasible_returned {trace : OrchestrationTrace} (feasible : Feasible runtime scenario settings profiles works)
    (ran : execute runtime scenario (start world) = (.ok trace,s')) :
    ∃ plan runs outcome, Performed runtime scenario ⟨settings,profiles,works,plan,runs,outcome⟩ trace s' :=
  met_returned (execute_feasible feasible world) ran

theorem feasible_raised {e : PyError} (feasible : Feasible runtime scenario settings profiles works)
    (ran : execute runtime scenario (start world) = (.error e,s')) :
      Halted runtime scenario settings profiles works e s' :=
  met_raised (execute_feasible feasible world) ran

end

end

/-! ### Two packages of a careless scenario -/

/-- The value of a computation that returns. -/
def returned {α : Type} (m : Py α) (returns : m.toOption.isSome = true) : α := m.toOption.get returns

theorem returned_ok {α : Type} (m : Py α) (returns : m.toOption.isSome = true) : m = .ok (returned m returns) := by
  unfold returned
  cases m with
  | error e => cases returns
  | ok a => rfl

def sample_mode : Dict :=
  [("id",.str "MODE"),("version",.str "1"),("title",.str "t"),("objective",.str "o"),
    ("supportedStages",.arr [.str "implementation"]),
    ("roles",.arr [.obj [("name",.str "dev"),("responsibility",.str "r")]]),("requiredInputs",.arr [.str "i"]),
    ("requiredOutputs",.arr [.str "o"]),("evidence",.arr [.str "e"]),("completionCriteria",.arr [.str "c"]),
    ("attemptBudget",.int 1),("postureProfiles",.obj [("balanced",.obj [])]),("outcomes",.arr [.str "done"])]

def sample_route : Dict :=
  [("id",.str "ROUTE"),("version",.str "1"),("title",.str "t"),("purpose",.str "p"),("defaultPosture",.str "balanced"),
    ("allowedPostures",.arr [.str "balanced"]),
    ("stages",.arr [.obj [("id",.str "implementation"),
      ("modeRules",.arr [.obj [("modeId",.str "MODE"),("requirement",.str "optional")]])]]),
    ("completionOutcomes",.arr [.str "done"])]

def sample_recipe : Dict :=
  [("id",.str "REC"),("version",.str "1"),("title",.str "t"),("role",.str "dev"),
    ("allowedKinds",.arr [.str "requirement"]),("requiredKinds",.arr []),
      ("allowedSources",.arr [.str "user_instruction"]),
    ("maxSensitivity",.str "secret"),("maxItems",.int 5),("maxBytes",.int 10000),
      ("kindPriority",.arr [.str "requirement"])]

/-- A confidential item of another project. -/
def sample_context_item : Dict :=
  [("id",.str "ITEM"),("revision",.str "1"),("kind",.str "requirement"),("sourceType",.str "user_instruction"),
    ("sourceRef",.str "s"),("sensitivity",.str "confidential"),("integrity",.str "verified"),("projectId",.str "OTHER"),
    ("createdAt",.str "2025-01-01T00:00:00Z"),("claimKey",.str "c"),("alwaysInclude",.bool true),("content",.str "c")]

def sample_grant : Dict :=
  [("id",.str "G"),("projectId",.str "OTHER"),("recipientRole",.str "dev"),("purpose",.str "p"),("grantedBy",.str "u"),
    ("authority",.str "user_decision"),("expiresAt",.str "2027-01-01T00:00:00Z"),("itemIds",.arr [.str "ITEM"]),
    ("runIds",.arr [.str "CTX"])]

def sample_context_run : Dict :=
  [("runId",.str "CTX"),("projectId",.str "OTHER"),("role",.str "dev"),("taskTags",.arr [.str "t"])]

def sample_run_request : Dict :=
  [("schemaVersion",.str "0.1"),("runId",.str "RUN"),("projectId",.str "P"),("workPackageId",.str "A"),
    ("role",.str "dev"),
    ("objective",.str "o"),("idempotencyKey",.str "k"),("requiredCapabilities",.arr []),("requiredModalities",.arr []),
    ("requiredTools",.arr [.str "shell"]),("requiredNetworkHosts",.arr []),("completionCriteria",.arr []),
    ("maxOutputBytes",.int 1),("attempt",.int 1),("sensitivity",.str "public"),("structuredOutputRequired",.bool false),
    ("externalSideEffectPossible",.bool false)]

def sample_acceptance : Dict :=
  [("gate",.obj GateVerdicts.sample_gate),("checkLibrary",.obj [("CHK",.obj GateVerdicts.sample_contract)]),
    ("checkResults",.arr [.obj (GateVerdicts.sample_result "passed")]),
    ("evidenceRecords",.arr [.obj GateVerdicts.sample_evidence]),("subjectId",.str "WP"),("subjectRevision",.str "r1"),
    ("evaluatedAt",.str "2026-01-01T01:00:00Z")]

def sample_item (id domain : String) : Dict :=
  [("candidate",.obj (ScheduleSafety.sample_candidate id domain)),("authorizationFacts",.obj [("release",.bool true)]),
    ("contextRun",.obj sample_context_run),("contextItems",.arr [.obj sample_context_item]),
    ("disclosureGrants",.arr [.obj sample_grant]),("runRequest",.obj sample_run_request),
    ("acceptance",.obj sample_acceptance)]

def sample_profile : Dict :=
  [("schemaVersion",.str "0.1"),("profileId",.str "PROF"),("adapterId",.str "ADP"),("adapterVersion",.str "1"),
    ("provider",.str "p"),("model",.str "m"),("status",.str "available"),("roles",.arr [.str "dev"]),
    ("capabilities",.arr []),("modalities",.arr []),("tools",.arr [.str "shell"]),("networkHosts",.arr []),
    ("maxContextBytes",.int 100000),("maxOutputBytes",.int 10),("maxConcurrentRuns",.int 1),
      ("maxSensitivity",.str "public"),
    ("structuredOutput",.bool false),("streaming",.bool false),("externalSideEffects",.bool false),
    ("idempotentInvocation",.bool false)]

def sample_policies : List Json :=
  [.obj (AuthorizationChanges.single_rule_policy "POLICY" "blocked" "release" (.bool true) "auto_proceed")]

def sample_scenario : Dict :=
  [("scenarioId",.str "SCN"),("projectId",.str "P"),("stateRevision",.str "s"),("now",.str "2026-01-01T00:00:00Z"),
    ("stage",.str "implementation"),("activationFacts",.obj [("needsOrchestration",.bool true)]),
    ("route",.obj sample_route),("modeLibrary",.obj [("MODE",.obj sample_mode)]),
    ("authorizationPolicies",.arr sample_policies),("contextRecipe",.obj sample_recipe),
    ("schedulerPolicy",.obj ScheduleSafety.sample_policy),
    ("currentRevisions",.obj [("A",.str "r"),("B",.str "r")]),
    ("work",.arr [.obj (sample_item "A" "x"),.obj (sample_item "B" "y")])]


/-! ### Their execution -/

/-- The parts of an item that do not depend on its package. -/
theorem sample_item_same (id domain : String) {key : String} (other : "candidate" ≠ key) :
    Dict.get? key (sample_item id domain) = Dict.get? key (sample_item "A" "x") :=
  (if_neg other).trans (if_neg other).symm

theorem sample_item_or (id domain : String) {key : String} (other : "candidate" ≠ key) (default : Json) :
    (sample_item id domain).getOr key default = (sample_item "A" "x").getOr key default := by
  unfold Dict.getOr
  rw [sample_item_same id domain other]

def sample_identity : Identity := returned (identify sample_scenario) (by decide +kernel)
def sample_settings : Settings := returned (configure sample_scenario sample_identity) (by decide +kernel)

theorem sample_managed : Managed sample_scenario sample_settings :=
  ⟨sample_identity,returned_ok _ _,by decide +kernel,returned_ok _ _⟩

theorem sample_given : sample_settings.work_items = [.obj (sample_item "A" "x"),.obj (sample_item "B" "y")] ∧
    sample_settings.policies = sample_policies ∧ sample_settings.recipe = sample_recipe ∧
    sample_settings.now = "2026-01-01T00:00:00Z" ∧ sample_settings.stage = "implementation" := by
  have given := (managed_given sample_managed).1
  have work : sample_scenario.get "work" = .arr [.obj (sample_item "A" "x"),.obj (sample_item "B" "y")] := by rfl
  have policies : sample_scenario.get "authorizationPolicies" = .arr sample_policies := by rfl
  have recipe : sample_scenario.get "contextRecipe" = .obj sample_recipe := by rfl
  have now : sample_scenario.get "now" = .str "2026-01-01T00:00:00Z" := by rfl
  have stage : sample_scenario.get "stage" = .str "implementation" := by rfl
  rw [given.work] at work
  rw [given.policies] at policies
  rw [given.recipe] at recipe
  rw [given.now] at now
  rw [given.stage] at stage
  exact ⟨Json.arr.inj work,Json.arr.inj policies,Json.obj.inj recipe,Json.str.inj now,Json.str.inj stage⟩

def sample_authorization : AuthorizationResult :=
  returned (Authorization.evaluate_authorization sample_policies [("release",.bool true)]) (by decide +kernel)

/-- The context run with the stage of the scenario, which selects no modes. -/
def sample_run : Dict := (sample_context_run.set "modes" (.arr [])).set "stage" (.str "implementation")

def sample_compilation : ContextCompiler.Compilation :=
  returned (ContextCompiler.assemble sample_recipe sample_run (.arr [.obj sample_context_item])
    (.arr [.obj sample_grant])
    "2026-01-01T00:00:00Z") (by decide +kernel)

def sample_manifest : ContextManifest :=
  ContextCompiler.manifest_of sample_recipe sample_run "2026-01-01T00:00:00Z" sample_compilation

def sample_request : Dict :=
  sample_run_request.update [("contextManifestId",.str sample_manifest.manifest_id),
    ("contextManifestDigest",.str sample_manifest.sha256),("contextBytes",.int (max 1 sample_manifest.total_bytes)),
    ("authorizationDecision",.str sample_authorization.decision.value)]

def sample_preparation (id domain : String) : Preparation where
  source := sample_item id domain
  candidate := ScheduleSafety.sample_candidate id domain
  work_package_id := id
  authorization := sample_authorization
  outcome := .ready sample_run sample_manifest sample_request sample_profile
    [AgentAdapters.negotiation sample_request sample_profile]

def sample_works : List Preparation := [sample_preparation "A" "x",sample_preparation "B" "y"]

theorem sample_modes : sample_settings.mode_ids = [] := by decide +kernel
theorem sample_auto : sample_authorization.decision = .AUTO_PROCEED := by decide +kernel
theorem sample_bytes :
    AgentAdapters.integer [("contextBytes",.int (max 1 sample_manifest.total_bytes))] "contextBytes" ≤
    AgentAdapters.integer sample_profile "maxContextBytes" := by decide +kernel
theorem sample_offered : AgentAdapters.validate_capability_profile sample_profile = .ok () := by decide +kernel
section
variable (id domain : String)
theorem sample_authorized : authorize sample_settings (sample_item id domain) = .ok sample_authorization := by
  unfold authorize
  rw [sample_item_or id domain (by decide),sample_given.2.1]
  have facts : as_facts (policy_conditions sample_policies)
      ((sample_item "A" "x").getOr "authorizationFacts" (.obj [])) =
      .ok [("release",.bool true)] := by rfl
  rw [facts]
  exact returned_ok _ _
theorem sample_contextual : context_run sample_settings (sample_item id domain) = .ok sample_run := by
  have held : (sample_item id domain).get "contextRun" = .obj sample_context_run := by rfl
  unfold context_run
  rw [required_object_ok.mpr held,sample_modes,sample_given.2.2.2.2]
  rfl
theorem sample_compiled : compile_for sample_settings (sample_item id domain) sample_run = .ok sample_manifest := by
  have items : (sample_item id domain).getOr "contextItems" (.arr []) = .arr [.obj sample_context_item] := by rfl
  have grants : (sample_item id domain).getOr "disclosureGrants" (.arr []) = .arr [.obj sample_grant] := by rfl
  unfold compile_for ContextCompiler.compile_context
  rw [items,grants,sample_given.2.2.1,sample_given.2.2.2.1]
  rw [show ContextCompiler.assemble sample_recipe sample_run _ _ _ = .ok sample_compilation from returned_ok _ _]
  rfl
theorem sample_requested : run_request (sample_item id domain) sample_manifest sample_authorization =
    .ok sample_request := by
  rfl
end

/-- A field of the request that the orchestrator leaves alone. -/
theorem sample_request_given {key : String} (other : key ∉ FILLED_IN) :
    Dict.get? key sample_request = Dict.get? key sample_run_request :=
  run_request_given (sample_requested "A" "x") other

theorem sample_request_get {key : String} (other : key ∉ FILLED_IN) :
    sample_request.get key = sample_run_request.get key := by
  unfold Dict.get
  rw [sample_request_given other]

/-- The request with other values filled in. -/
def sample_template : Dict :=
  sample_run_request.update [("contextManifestId",.str "m"),("contextManifestDigest",.str "d"),("contextBytes",.int 1),
    ("authorizationDecision",.str "a")]

theorem sample_template_same {key : String} (other : key ∉ FILLED_IN) :
    Dict.get? key sample_request = Dict.get? key sample_template := by
  rw [sample_request_given other]
  refine (get?_update_other ?_).symm
  rintro kv member rfl
  exact other (List.mem_map_of_mem (f := Prod.fst) member)

theorem sample_request_valid : AgentAdapters.validate_run_request sample_request = .ok () := by
  have valid : AgentAdapters.validate_run_request sample_template = .ok () := by decide +kernel
  obtain ⟨texts,arrays,counts,⟨level,known,ranked⟩,flags⟩ := Dispatches.validate_run_request_ok.mp valid
  obtain ⟨manifest,digest,bytes,decision⟩ := run_request_filled_in (sample_requested "A" "x")
  have same : ∀ {key : String}, key ∉ FILLED_IN → sample_request.get key = sample_template.get key := by
    intro key other
    unfold Dict.get
    rw [sample_template_same other]
  refine Dispatches.validate_run_request_ok.mpr ⟨?_,?_,?_,⟨level,known,?_⟩,?_⟩
  · intro key member
    by_cases own : key ∈ FILLED_IN
    · simp only [FILLED_IN,List.mem_cons,List.not_mem_nil,or_false] at own
      rcases own with rfl | rfl | rfl | rfl
      · refine ⟨_,get?_of_get manifest (by simp),?_⟩
        show blank ("CTX-" ++ _ ++ "-" ++ _) = false
        have front : blank "CTX-" = false := by decide
        rw [blank_append,blank_append,blank_append,front]
        rfl
      · exact ⟨_,get?_of_get digest (by simp),Dispatches.digest_filled _⟩
      · simp [AgentAdapters.REQUEST_STRINGS] at member
      · refine ⟨_,get?_of_get decision (by simp),?_⟩
        rw [sample_auto]
        decide
    · rw [sample_template_same own]
      exact texts key member
  · intro key member
    have other : ∀ key ∈ AgentAdapters.REQUEST_ARRAYS, key ∉ FILLED_IN := by decide
    rw [same (other key member)]
    exact arrays key member
  · intro key member
    by_cases own : key = "contextBytes"
    · subst own
      exact ⟨_,bytes,le_max_left _ _⟩
    · have other : ∀ key ∈ ["contextBytes","maxOutputBytes","attempt"], key ≠ "contextBytes" → key ∉ FILLED_IN :=
        by decide
      rw [same (other key member own)]
      exact counts key member
  · rw [same (by decide)]
    exact ranked
  · intro key member
    have other : ∀ key ∈ ["structuredOutputRequired","externalSideEffectPossible"], key ∉ FILLED_IN := by decide
    rw [same (other key member)]
    exact flags key member

theorem sample_accepts : Dispatches.Accepts sample_profile sample_request := by
  obtain ⟨_,_,bytes,decision⟩ := run_request_filled_in (sample_requested "A" "x")
  have texts : ∀ {key : String}, key ∉ FILLED_IN → text sample_request key = text sample_run_request key :=
    fun other => text_of_get (sample_request_get other)
  have arrays : ∀ {key : String}, key ∉ FILLED_IN →
      AgentAdapters.strings sample_request key = AgentAdapters.strings sample_run_request key := by
    intro key other
    unfold AgentAdapters.strings
    rw [sample_request_get other]
  have counts : ∀ {key : String}, key ∉ FILLED_IN →
      AgentAdapters.integer sample_request key = AgentAdapters.integer sample_run_request key := by
    intro key other
    unfold AgentAdapters.integer
    rw [sample_request_get other]
  have decided : text sample_request "authorizationDecision" = "auto_proceed" := by
    rw [text_of_get? (get?_of_get decision (by simp)),sample_auto]
    rfl
  have sized : AgentAdapters.integer sample_request "contextBytes" =
      AgentAdapters.integer [("contextBytes",.int (max 1 sample_manifest.total_bytes))] "contextBytes" := by
    unfold AgentAdapters.integer
    rw [bytes]
    rfl
  refine Dispatches.accepts_iff.mpr ?_
  rw [decided,sized,texts (by decide : "role" ∉ FILLED_IN),texts (by decide : "sensitivity" ∉ FILLED_IN),
    arrays (by decide : "requiredCapabilities" ∉ FILLED_IN),arrays (by decide : "requiredModalities" ∉ FILLED_IN),
    arrays (by decide : "requiredTools" ∉ FILLED_IN),arrays (by decide : "requiredNetworkHosts" ∉ FILLED_IN),
    counts (by decide : "maxOutputBytes" ∉ FILLED_IN),counts (by decide : "attempt" ∉ FILLED_IN),
    sample_request_get (by decide : "structuredOutputRequired" ∉ FILLED_IN),
    sample_request_get (by decide : "externalSideEffectPossible" ∉ FILLED_IN)]
  refine ⟨by decide +kernel,by decide,by decide +kernel,by decide +kernel,by decide +kernel,by decide +kernel,
    by decide +kernel,sample_bytes,by decide +kernel,by decide +kernel,by decide +kernel,by decide +kernel,
      by decide +kernel⟩

section
variable (id domain : String)

def sample_prepared : Prepared :=
  ⟨id,sample_item id domain,(ScheduleSafety.sample_candidate id domain).set "adapterId"
    (sample_profile.get "adapterId"),
    sample_run,sample_manifest,sample_request,sample_profile⟩

theorem sample_prepares (filled : blank id = false) :
    preparation sample_settings [sample_profile] (.obj (sample_item id domain)) =
    .ok (sample_preparation id domain) := by
  refine preparation_ok.mpr ⟨rfl,rfl,rfl,filled,sample_authorized id domain,?_⟩
  have auto : sample_authorization.decision.isAuto = true := by
    rw [sample_auto]
    rfl
  show outcome_of sample_settings [sample_profile] (sample_item id domain) sample_authorization = _
  unfold outcome_of
  rw [if_pos auto]
  refine bind_ok_iff.mpr ⟨_,sample_contextual id domain,
    bind_ok_iff.mpr ⟨_,attempt_ok.mpr (sample_compiled id domain),?_⟩⟩
  exact bind_ok_iff.mpr ⟨_,sample_requested id domain,bind_ok_iff.mpr ⟨_,attempt_ok.mpr
    (Dispatches.select_adapter_single sample_request_valid sample_offered sample_accepts),rfl⟩⟩

end

/-- An adapter that gives the same answer to every dispatch. -/
def sample_adapter (answer : Json) : AgentAdapter Unit where
  capability_profile := pure sample_profile
  invoke := fun _ => pure answer

def sample_runtime (answer : Json) : ReferenceOrchestrator Unit := ⟨[("ADP",sample_adapter answer)],by simp⟩

theorem sample_feasible (answer : Json) :
    Feasible (sample_runtime answer) sample_scenario sample_settings [sample_profile] sample_works := by
  refine ⟨sample_managed,?_,.cons (fun world => ⟨world,rfl⟩) .nil,?_,by decide,?_⟩
  · rw [sample_given.2.2.2.1]
    exact ⟨63902822400000000,by decide +kernel⟩
  · rw [sample_given.1]
    exact .cons (sample_prepares "A" "x" (by decide)) (.cons (sample_prepares "B" "y" (by decide)) .nil)
  · have run : sample_request.get "runId" = .str "RUN" := sample_request_get (by decide)
    intro p member n said
    simp only [sample_works,List.mem_cons,List.not_mem_nil,or_false] at member
    rcases member with rfl | rfl <;>
      exact ⟨"RUN",by rw [List.mem_singleton.mp said]; exact run,by decide⟩

theorem sample_prepared_of : prepared_of sample_works = [sample_prepared "A" "x",sample_prepared "B" "y"] := rfl

theorem sample_planned : (plan_for sample_scenario sample_settings (prepared_of sample_works)).map
    SchedulePlan.selected_work_packages = .ok ["A","B"] := by
  decide +kernel

/-- The plan dispatches both packages. -/
theorem sample_chosen {plan : SchedulePlan}
    (scheduled : plan_for sample_scenario sample_settings (prepared_of sample_works) = .ok plan) :
    (prepared_of sample_works).filter (chosen plan) = [sample_prepared "A" "x",sample_prepared "B" "y"] := by
  obtain ⟨other,ran,selected⟩ := map_ok_iff.mp sample_planned
  rw [scheduled] at ran
  cases ran
  rw [← sample_prepared_of,List.filter_eq_self]
  intro prepared member
  have decided := plan_decides scheduled member
  rw [sample_prepared_of] at member
  simp only [List.mem_cons,List.not_mem_nil,or_false] at member
  rcases member with rfl | rfl
  · exact (decided rfl).2.mpr (by rw [selected]; decide)
  · exact (decided rfl).2.mpr (by rw [selected]; decide)

theorem sample_registered {answer : Json} {profile : Dict} {adapter : AgentAdapter Unit}
    (registered : adapter_for (sample_runtime answer) profile = .ok adapter) : adapter = sample_adapter answer := by
  unfold adapter_for sample_runtime at registered
  by_cases own : text profile "adapterId" = "ADP"
  · rw [own] at registered
    cases registered
    rfl
  · rw [List.lookup_cons,beq_eq_false_iff_ne.mpr own] at registered
    cases registered

/-- The execution runs both packages, unless its adapter's answer comes to nothing. -/
theorem sample_executed (answer : Json) : (∃ trace s' plan runs outcome,
      execute (sample_runtime answer) sample_scenario (start ()) = (.ok trace,s') ∧
      Performed (sample_runtime answer) sample_scenario
        ⟨sample_settings,[sample_profile],sample_works,some plan,runs,outcome⟩ trace s' ∧
      runs.map Run.prepared = [sample_prepared "A" "x",sample_prepared "B" "y"] ∧ ∀ run ∈ runs, run.answer = answer) ∨
    ∃ e s' prepared failure, execute (sample_runtime answer) sample_scenario (start ()) = (.error e,s') ∧
      prepared ∈ prepared_of sample_works ∧ (prepared,answer) ∈ s'.answers ∧ s'.answers.length = s'.invocations.length ∧
      conclude prepared answer = .error failure := by
  obtain ⟨plan,scheduled,_⟩ := map_ok_iff.mp sample_planned
  have given : ∀ {prepared : Prepared} {reply : Json}, Replied (sample_runtime answer) prepared reply →
      reply = answer := by
    rintro prepared reply ⟨adapter,_,registered,answered⟩
    rw [sample_registered registered] at answered
    cases answered
    rfl
  rcases ran : execute (sample_runtime answer) sample_scenario (start ()) with ⟨e | trace,s'⟩
  · right
    have halted := feasible_raised (sample_feasible answer) ran
    rcases halted.cause with stopped | ⟨plan,runs,t,visited,uncombined⟩
    · cases stopped with
      | unplanned failed _ =>
        rw [scheduled] at failed
        cases failed
      | interrupted _ interrupted =>
        cases interrupted.reason with
        | unregistered member missing =>
          have listed : ∀ prepared ∈ prepared_of sample_works, prepared.profile = sample_profile := by
            simp [sample_prepared_of,sample_prepared]
          rw [listed _ member] at missing
          cases missing
        | silent registered mute _ =>
          rw [sample_registered registered] at mute
          cases mute
        | fruitless member replied even answered failed =>
          rw [given replied] at answered failed
          exact ⟨e,s',_,_,rfl,member,answered,even,failed⟩
    · have absent : ∀ completions, integration_of sample_scenario completions = .ok .absent := fun _ => rfl
      rcases uncombined.cause with failed | ⟨_,unnamed,came,anonymous⟩
      · rw [absent] at failed
        cases failed
      · rw [absent] at came
        cases came
        exact absurd trivial anonymous
  · left
    obtain ⟨other,runs,outcome,performed⟩ := feasible_returned (sample_feasible answer) ran
    have planned := performed.scheduled
    have visited := performed.visited
    cases other with
    | none => cases planned
    | some plan =>
      exact ⟨trace,s',plan,runs,outcome,rfl,performed,visited.trans (sample_chosen planned),
        fun run member => given (performed.replied run member)⟩

/-! ### What comes of their answers -/

def sample_answer : Dict :=
  [("startedAt",.str "2026-01-01T00:00:00Z"),("finishedAt",.str "2026-01-01T00:00:01Z"),("status",.str "completed"),
    ("summary",.str "s"),("evidenceIds",.arr [.str "EV"])]

theorem sample_completes : Dispatches.Completes sample_request sample_answer := by
  refine ⟨⟨63902822400000000,63902822401000000,by decide +kernel,by decide +kernel,by decide⟩,?_,rfl,?_,rfl,rfl,?_,
    by decide⟩
  · have filled : ∀ key ∈ ["startedAt","finishedAt","summary"],
        ((Dict.get? key sample_answer).bind Json.str?).any (fun s => !blank s) = true := by decide +kernel
    intro key member
    have here := filled key member
    rw [Option.any_eq_true] at here
    obtain ⟨s,found,visible⟩ := here
    obtain ⟨v,held,textual⟩ := Option.bind_eq_some_iff.mp found
    rw [str?_eq_some.mp textual] at held
    exact ⟨s,held,by simpa using visible⟩
  · have listed : ∀ key ∈ AgentAdapters.RESULT_ARRAYS, (strings? (sample_answer.getOr key (.arr []))).any
        (fun items => items.all visible && decide items.Nodup) = true := by decide +kernel
    intro key member
    have here := listed key member
    rw [Option.any_eq_true] at here
    obtain ⟨items,found,valid⟩ := here
    rw [Bool.and_eq_true,List.all_eq_true,decide_eq_true_iff] at valid
    exact ⟨items,found,valid⟩
  · have none : AgentAdapters.strings sample_request "completionCriteria" = [] := by
      unfold AgentAdapters.strings
      rw [sample_request_get (by decide)]
      rfl
    rw [none]
    simp

def sample_gate : EvidenceGates.GateEvaluation := returned (evaluate_acceptance sample_acceptance) (by decide +kernel)

section
variable (id domain : String)

/-- The run of a package. -/
def sample_ended : Run where
  prepared := sample_prepared id domain
  answer := .obj sample_answer
  result := AgentAdapters.normalized sample_answer (dispatch_of (sample_prepared id domain))
    ("provider-result:" ++ text sample_request "runId")
  gate := some sample_gate

theorem sample_concluded : conclude (sample_prepared id domain) (.obj sample_answer) =
    .ok (sample_ended id domain) := by
  have named : blank ("provider-result:" ++ text sample_request "runId") = false := by
    have front : blank "provider-result:" = false := by decide
    rw [blank_append,front]
    rfl
  have leased : blank ("LEASE-" ++ text sample_request "runId") = false := by
    have front : blank "LEASE-" = false := by decide
    rw [blank_append,front]
    rfl
  have judged : judge (sample_prepared id domain) (sample_ended id domain).result = .ok (some sample_gate) := by
    have acceptance : (sample_item id domain).get "acceptance" = .obj sample_acceptance := by rfl
    have completed : text (sample_ended id domain).result "status" = "completed" := by rfl
    unfold judge
    rw [if_neg (not_not.mpr completed),show (sample_prepared id domain).source.get "acceptance" = _ from acceptance]
    exact bind_ok_iff.mpr ⟨_,returned_ok _ _,rfl⟩
  exact conclude_ok.mpr ⟨rfl,rfl,
    Dispatches.normalize_total sample_request_valid sample_offered leased named sample_completes,judged⟩

theorem sample_refused : ∃ failure, conclude (sample_prepared id domain) .null = .error failure := by
  have named : blank ("provider-result:" ++ text sample_request "runId") = false := by
    have front : blank "provider-result:" = false := by decide
    rw [blank_append,front]
    rfl
  refine ⟨.contract .AdapterError "raw provider result must be an object",?_⟩
  unfold conclude AgentAdapters.normalize_provider_result
  rw [show text (sample_prepared id domain).request "runId" = text sample_request "runId" from rfl,named]
  rfl

end

/-- With completing answers both packages are run and accepted. -/
theorem sample_performed : ∃ trace s' plan outcome,
    execute (sample_runtime (.obj sample_answer)) sample_scenario (start ()) = (.ok trace,s') ∧
    Performed (sample_runtime (.obj sample_answer)) sample_scenario
      ⟨sample_settings,[sample_profile],sample_works,some plan,
      [sample_ended "A" "x",sample_ended "B" "y"],outcome⟩ trace s' := by
  rcases sample_executed (.obj sample_answer) with ⟨trace,s',plan,runs,outcome,ran,performed,prepared,answered⟩ |
    ⟨e,s',prepared,failure,_,member,_,_,failed⟩
  · have own : ∀ run ∈ runs, ∀ id domain, run.prepared = sample_prepared id domain → run = sample_ended id domain := by
      intro run member id domain same
      have concluded := performed.concluded run member
      rw [same,answered run member,sample_concluded] at concluded
      exact (Except.ok.inj concluded).symm
    obtain ⟨first,others,rfl,firstIs,rest⟩ := List.map_eq_cons_iff.mp prepared
    obtain ⟨second,none,rfl,secondIs,last⟩ := List.map_eq_cons_iff.mp rest
    obtain rfl := List.map_eq_nil_iff.mp last
    obtain rfl := own first (by simp) _ _ firstIs
    obtain rfl := own second (by simp) _ _ secondIs
    exact ⟨trace,s',plan,outcome,ran,performed⟩
  · rw [sample_prepared_of] at member
    simp only [List.mem_cons,List.not_mem_nil,or_false] at member
    rcases member with rfl | rfl
    · rw [sample_concluded] at failed
      cases failed
    · rw [sample_concluded] at failed
      cases failed

/-- The two items of the sample are dispatched. -/
theorem sample_dispatched : ∃ trace s', execute (sample_runtime (.obj sample_answer)) sample_scenario (start ()) =
    (.ok trace,s') ∧
    s'.invocations = [(sample_ended "A" "x").invocation,(sample_ended "B" "y").invocation] := by
  obtain ⟨trace,s',plan,outcome,ran,performed⟩ := sample_performed
  exact ⟨trace,s',ran,performed.invocations⟩

/-- An answer that is no object ends the execution after a dispatch. -/
theorem sample_halted : ∃ e s' prepared, execute (sample_runtime .null) sample_scenario (start ()) = (.error e,s') ∧
    s'.invocations ≠ [] ∧ s'.answers.length = s'.invocations.length ∧ (prepared,Json.null) ∈ s'.answers ∧
    ∃ failure, conclude prepared .null = .error failure := by
  rcases sample_executed .null with ⟨trace,s',plan,runs,outcome,ran,performed,prepared,answered⟩ |
    ⟨e,s',prepared,failure,ran,member,answered,even,failed⟩
  · have dispatched : sample_prepared "A" "x" ∈ runs.map Run.prepared := by
      rw [prepared]
      exact List.mem_cons_self
    obtain ⟨run,inside,same⟩ := List.mem_map.mp dispatched
    obtain ⟨failure,failed⟩ := sample_refused "A" "x"
    have concluded := performed.concluded run inside
    rw [same,answered run inside,failed] at concluded
    cases concluded
  · refine ⟨e,s',prepared,ran,?_,even,answered,failure,failed⟩
    intro none
    rw [none] at even
    rw [List.length_eq_zero_iff.mp even] at answered
    cases answered

end V3Aidlc.Feasibility
