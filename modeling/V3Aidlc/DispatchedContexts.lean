import V3Aidlc.DispatchControls

/-!
What a dispatch may do with its context. The orchestrator fills the manifest and its
size into the request; the tools and hosts it requires, its sensitivity and whose run
it is stay as the work item has them. So the allowlists of the manifest, the clearance
of the runner and the identity of the compiled run agree with the dispatch exactly when
the work item makes them agree (`allowlists_kept_iff`, `clearance_kept_iff`,
`identities_kept_iff`).
-/
namespace V3Aidlc.DispatchedContexts
open V3Aidlc.Values V3Aidlc.Loops V3Aidlc.Contracts
open V3Aidlc.Authorization (AuthorizationResult)
open V3Aidlc.ContextCompiler (ContextManifest compile_context rendered grant_covers EXPLICIT_GRANT_LEVELS)
open V3Aidlc.AgentAdapters (select_adapter SENSITIVITY_RANK)
open V3Aidlc.Dispatches (Accepts)
open V3Aidlc.ReferenceOrchestrator V3Aidlc.RecordedEvents V3Aidlc.Preparations V3Aidlc.Runs V3Aidlc.Executions
open V3Aidlc.Accounts V3Aidlc.Feasibility V3Aidlc.DispatchControls

/-- The dispatch is that of a work item: its context was compiled for this run and
    the profile was selected among those published. -/
structure Dispatches (settings : Settings) (profiles : List Dict) (invocation : Invocation) : Prop where
  listed : .obj invocation.prepared.source ∈ settings.work_items
  identified : Identifies invocation.prepared.source invocation.prepared.work_package_id
  contextual : context_run settings invocation.prepared.source = .ok invocation.prepared.run
  compiled : compile_for settings invocation.prepared.source invocation.prepared.run = .ok invocation.prepared.manifest
  requested : ∃ authorization, run_request invocation.prepared.source invocation.prepared.manifest authorization =
    .ok invocation.prepared.request ∧
    Names invocation.dispatch invocation.prepared.request invocation.prepared.manifest authorization
  selected : ∃ negotiations, select_adapter invocation.prepared.request profiles =
    .ok (invocation.prepared.profile,negotiations)
  dispatched : invocation.dispatch = dispatch_of invocation.prepared

section
variable {σ : Type} {runtime : ReferenceOrchestrator σ} {scenario : Dict} {world : σ} {s' : Locals σ}

/-- Whatever the outcome of the execution, each of its dispatches is of a work item. -/
theorem invoked_dispatches {r : Py OrchestrationTrace} (ran : execute runtime scenario (start world) = (r,s')) :
    ∀ invocation ∈ s'.invocations, ∃ settings profiles, Managed scenario settings ∧ Published runtime profiles ∧
      Dispatches settings profiles invocation := by
  intro invocation member
  obtain ⟨settings,profiles,managed,published,item,listed,p,ready,dispatched⟩ := execute_invoked ran invocation member
  have source := ready.source_same
  have names := ready_names ready
  rw [← dispatched] at names
  refine ⟨settings,profiles,managed,published,?_,?_,?_,?_,?_,ready.selected,dispatched⟩
  · rw [source,← ready.item]
    exact listed
  · rw [source,ready.id_same]
    exact identifies_iff.mpr ⟨p.candidate,ready.candidate,ready.id,ready.named⟩
  · rw [source]
    exact ready.run
  · rw [source]
    exact ready.manifest
  · rw [source]
    exact ⟨p.authorization,ready.request,names⟩

end

section
variable {settings : Settings} {profiles : List Dict} {invocation : Invocation}

theorem requested_given (dispatches : Dispatches settings profiles invocation) {key : String}
    (other : key ∉ FILLED_IN) :
    invocation.prepared.request.get key = (given_request invocation.prepared.source).get key := by
  obtain ⟨authorization,requested,_⟩ := dispatches.requested
  exact congrArg (fun found => found.getD .null) (run_request_given requested other)

/-! ### Allowlists -/

/-- What the dispatched request requires is allowed by the manifest it names. -/
def Allowed (invocation : Invocation) : Prop := ∃ request, invocation.dispatch.get "request" = .obj request ∧
  (∀ tool ∈ AgentAdapters.strings request "requiredTools", tool ∈ invocation.prepared.manifest.tool_allowlist) ∧
  ∀ host ∈ AgentAdapters.strings request "requiredNetworkHosts", host ∈ invocation.prepared.manifest.network_allowlist

/-- What the work item requires is allowed by the context recipe. -/
def RecipeAllows (recipe source : Dict) : Prop :=
  (∀ tool ∈ AgentAdapters.strings (given_request source) "requiredTools",
    tool ∈ ContextCompiler.strings recipe "toolAllowlist") ∧
  ∀ host ∈ AgentAdapters.strings (given_request source) "requiredNetworkHosts",
    host ∈ ContextCompiler.strings recipe "networkAllowlist"

theorem manifest_allowlists {recipe run : Dict} {candidates grants : Json} {generated_at : String}
    {manifest : ContextManifest}
    (compiled : compile_context recipe run candidates grants generated_at = .ok manifest) :
    manifest.tool_allowlist = ContextCompiler.strings recipe "toolAllowlist" ∧
      manifest.network_allowlist = ContextCompiler.strings recipe "networkAllowlist" := by
  unfold compile_context at compiled
  obtain ⟨_,_,compiled⟩ := bind_ok_iff.mp compiled
  cases pure_ok_iff.mp compiled
  exact ⟨rfl,rfl⟩

theorem allowed_iff (dispatches : Dispatches settings profiles invocation) :
    Allowed invocation ↔ RecipeAllows settings.recipe invocation.prepared.source := by
  obtain ⟨_,_,names⟩ := dispatches.requested
  obtain ⟨tools,hosts⟩ := manifest_allowlists dispatches.compiled
  unfold Allowed RecipeAllows AgentAdapters.strings
  rw [names.bound,tools,hosts,← requested_given dispatches (by decide),← requested_given dispatches (by decide)]
  constructor
  · rintro ⟨request,same,allowed⟩
    cases same
    exact allowed
  · intro allowed
    exact ⟨_,rfl,allowed⟩

/-! ### Clearance -/

/-- The level covers every item that was selected into the manifest. -/
def Covers (level : String) (manifest : ContextManifest) : Prop :=
  ∀ item ∈ manifest.selected_items, SENSITIVITY_RANK (text item "sensitivity") ≤ SENSITIVITY_RANK level

/-- The selected runner is cleared exactly when each runner that accepts is. -/
theorem cleared_iff_accepting (dispatches : Dispatches settings profiles invocation) :
    Covers (text invocation.prepared.profile "maxSensitivity") invocation.prepared.manifest ↔
      ∀ offered ∈ profiles, Accepts offered invocation.prepared.request →
        Covers (text offered "maxSensitivity") invocation.prepared.manifest := by
  obtain ⟨negotiations,selected⟩ := dispatches.selected
  obtain ⟨member,_,_,accepts,_⟩ := Dispatches.select_adapter_ok selected
  constructor
  · intro covered offered published accepting item inside
    exact (covered item inside).trans (Dispatches.select_adapter_least selected published accepting)
  · intro covered
    exact covered _ member accepts

/-- A profile that offers what the request asks for and no more clearance than it
    declares. -/
def tailored (request : Dict) : Dict :=
  [("schemaVersion",.str "0.1"),("profileId",.str "tailored"),("adapterId",.str "tailored"),
    ("adapterVersion",.str "0.1"),
    ("provider",.str "tailored"),("model",.str "tailored"),("status",.str "available"),
    ("roles",.arr [request.get "role"]),("capabilities",request.get "requiredCapabilities"),
    ("modalities",request.get "requiredModalities"),("tools",request.get "requiredTools"),
    ("networkHosts",request.get "requiredNetworkHosts"),("maxContextBytes",request.get "contextBytes"),
    ("maxOutputBytes",request.get "maxOutputBytes"),("maxConcurrentRuns",.int 1),
    ("maxSensitivity",request.get "sensitivity"),("structuredOutput",.bool true),("streaming",.bool true),
    ("externalSideEffects",.bool true),("idempotentInvocation",.bool true)]

theorem tailored_valid {request : Dict} (requested : AgentAdapters.validate_run_request request = .ok ()) :
    AgentAdapters.validate_capability_profile (tailored request) = .ok () := by
  obtain ⟨texts,arrays,counts,⟨level,known,levelIs⟩,_⟩ := Dispatches.validate_run_request_ok.mp requested
  obtain ⟨role,roleIs,filled⟩ := texts "role" (by decide)
  refine Dispatches.validate_capability_profile_ok.mpr ⟨?_,⟨"available",by decide,rfl⟩,?_,?_,⟨level,known,levelIs⟩,?_⟩
  · intro key member
    simp only [AgentAdapters.PROFILE_STRINGS,List.mem_cons,List.not_mem_nil,or_false] at member
    rcases member with rfl | rfl | rfl | rfl | rfl | rfl <;> exact ⟨_,rfl,by decide⟩
  · intro key member
    simp only [AgentAdapters.PROFILE_ARRAYS,List.mem_cons,List.not_mem_nil,or_false] at member
    rcases member with rfl | rfl | rfl | rfl | rfl
    · refine ⟨[role],?_,by simp [visible,filled],by simp⟩
      show strings? (.arr [request.get "role"]) = some [role]
      rw [get_of_get? roleIs]
      rfl
    · exact arrays "requiredCapabilities" (by decide)
    · exact arrays "requiredModalities" (by decide)
    · exact arrays "requiredTools" (by decide)
    · exact arrays "requiredNetworkHosts" (by decide)
  · intro key member
    simp only [List.mem_cons,List.not_mem_nil,or_false] at member
    rcases member with rfl | rfl | rfl
    · exact counts "contextBytes" (by decide)
    · exact counts "maxOutputBytes" (by decide)
    · exact ⟨1,rfl,le_refl 1⟩
  · intro key member
    simp only [List.mem_cons,List.not_mem_nil,or_false] at member
    rcases member with rfl | rfl | rfl | rfl <;> exact ⟨true,rfl⟩

theorem tailored_accepts {request profile : Dict} (requested : AgentAdapters.validate_run_request request = .ok ())
    (accepts : Accepts profile request) : Accepts (tailored request) request := by
  obtain ⟨_,permitted,_⟩ := Dispatches.accepts_iff.mp accepts
  obtain ⟨role,roleIs,_⟩ := (Dispatches.validate_run_request_ok.mp requested).1 "role" (by decide)
  refine Dispatches.accepts_iff.mpr ⟨rfl,permitted,?_,?_,?_,?_,?_,?_,?_,?_,?_,?_,?_⟩
  · show text request "role" ∈ (strings? (.arr [request.get "role"])).getD []
    rw [get_of_get? roleIs,text_of_get? roleIs]
    exact List.mem_cons_self
  · exact fun _ member => member
  · exact fun _ member => member
  · exact fun _ member => member
  · exact fun _ member => member
  · exact le_refl _
  · exact le_refl _
  · exact le_refl _
  · exact fun _ => rfl
  · exact fun _ => rfl
  · exact fun _ => rfl

/-- Whatever runners there are, the selected one is cleared, exactly when the declared
    sensitivity covers the context. -/
theorem declared_iff {request profile : Dict} {manifest : ContextManifest}
    (requested : AgentAdapters.validate_run_request request = .ok ()) (accepts : Accepts profile request) :
    (∀ offers profile negotiations, select_adapter request offers = .ok (profile,negotiations) →
      Covers (text profile "maxSensitivity") manifest) ↔ Covers (text request "sensitivity") manifest := by
  constructor
  · intro cleared
    exact cleared [tailored request] (tailored request) _
      (Dispatches.select_adapter_single requested (tailored_valid requested) (tailored_accepts requested accepts))
  · intro covered offers chosen negotiations selected item inside
    obtain ⟨_,_,_,accepted,_⟩ := Dispatches.select_adapter_ok selected
    exact (covered item inside).trans (Dispatches.accepted_clearance accepted)

/-! ### Identities -/

/-- The dispatch is for the scenario's project and the candidate's package, and its
    context was compiled for its own project, run and role. -/
structure Agree (scenario : Dict) (invocation : Invocation) : Prop where
  project : invocation.dispatch.get "projectId" = scenario.get "projectId"
  work_package : invocation.dispatch.get "workPackageId" = .str invocation.prepared.work_package_id
  request : ∃ request : Dict, invocation.dispatch.get "request" = .obj request ∧
    ∀ key ∈ ["projectId","runId","role"], invocation.prepared.run.get key = request.get key

/-- The parts of the work item agree with each other and with the scenario. -/
structure Consistent (scenario source : Dict) : Prop where
  project : (given_request source).get "projectId" = scenario.get "projectId"
  work_package : ∃ candidate : Dict, source.get "candidate" = .obj candidate ∧
    (given_request source).get "workPackageId" = candidate.get "workPackageId"
  contextual : ∃ run : Dict, source.get "contextRun" = .obj run ∧
    ∀ key ∈ ["projectId","runId","role"], run.get key = (given_request source).get key

/-- A grant that lets the run of the request have the item. -/
def Grants (request : Dict) (grants : Json) (item : Dict) : Prop := ∃ grant, .obj grant ∈ (grants.iter?).getD [] ∧
  text grant "projectId" = text request "projectId" ∧ text grant "recipientRole" = text request "role" ∧
  text request "runId" ∈ ContextCompiler.strings grant "runIds" ∧
    text item "id" ∈ ContextCompiler.strings grant "itemIds"

theorem contextual_get (dispatches : Dispatches settings profiles invocation) : ∃ run : Dict,
    invocation.prepared.source.get "contextRun" = .obj run ∧
      ∀ key ∈ ["projectId","runId","role"], invocation.prepared.run.get key = run.get key := by
  have contextual := dispatches.contextual
  unfold context_run at contextual
  obtain ⟨run,held,same⟩ := bind_ok_iff.mp contextual
  refine ⟨run,required_object_ok.mp held,?_⟩
  intro key member
  rw [← pure_ok_iff.mp same]
  simp only [List.mem_cons,List.not_mem_nil,or_false] at member
  rcases member with rfl | rfl | rfl <;> simp [get_set]

theorem agree_iff {scenario : Dict} (dispatches : Dispatches settings profiles invocation) :
    Agree scenario invocation ↔ Consistent scenario invocation.prepared.source := by
  obtain ⟨_,_,names⟩ := dispatches.requested
  obtain ⟨run,contextual,kept⟩ := contextual_get dispatches
  obtain ⟨candidate,held,named,_⟩ := identifies_iff.mp dispatches.identified
  have given : ∀ key ∈ ["projectId","workPackageId","runId","role"],
      invocation.prepared.request.get key = (given_request invocation.prepared.source).get key := by
    intro key member
    refine requested_given dispatches ?_
    simp only [List.mem_cons,List.not_mem_nil,or_false] at member
    rcases member with rfl | rfl | rfl | rfl <;> decide
  have copied : ∀ key ∈ AgentAdapters.DISPATCH_MATCHES, invocation.dispatch.get key =
      invocation.prepared.request.get key := by
    intro key copied
    rw [dispatches.dispatched]
    exact get_of_get? (Dispatches.signed_copies copied)
  constructor
  · rintro ⟨project,package,request,bound,compiled⟩
    rw [names.bound] at bound
    cases bound
    refine ⟨?_,⟨candidate,held,?_⟩,⟨run,contextual,?_⟩⟩
    · rw [← given _ (by decide),← copied _ (by decide)]
      exact project
    · rw [← given _ (by decide),← copied _ (by decide),package,get_of_get? named]
    · intro key member
      rw [← kept key member,compiled key member]
      exact given key (by simp only [List.mem_cons] at member ⊢; tauto)
  · rintro ⟨project,⟨_,holds,package⟩,⟨_,again,agrees⟩⟩
    rw [held] at holds
    cases holds
    rw [contextual] at again
    cases again
    refine ⟨?_,?_,invocation.prepared.request,names.bound,?_⟩
    · rw [copied _ (by decide),given _ (by decide)]
      exact project
    · rw [copied _ (by decide),given _ (by decide),package,get_of_get? named]
    · intro key member
      rw [kept key member,agrees key member]
      exact (given key (by simp only [List.mem_cons] at member ⊢; tauto)).symm

/-- What is compiled for the run of the dispatch was granted to that run. -/
theorem agree_granted {scenario : Dict} (dispatches : Dispatches settings profiles invocation)
    (agree : Agree scenario invocation) : ∀ item ∈ invocation.prepared.manifest.selected_items,
      EXPLICIT_GRANT_LEVELS.contains (text item "sensitivity") = true →
      Grants invocation.prepared.request (invocation.prepared.source.getOr "disclosureGrants" (.arr [])) item := by
  intro item member guarded
  obtain ⟨_,_,names⟩ := dispatches.requested
  obtain ⟨request,bound,compiled⟩ := agree.request
  rw [names.bound] at bound
  cases bound
  have same : ∀ key ∈ ["projectId","runId","role"],
      text invocation.prepared.run key = text invocation.prepared.request key := by
    intro key listed
    unfold text
    rw [compiled key listed]
  obtain ⟨_,grantDicts,_,_,_,listed,_,selected⟩ := ContextCompiler.compile_context_selected dispatches.compiled
  obtain ⟨candidate,rfl,_,_,eligible⟩ := selected item member
  obtain ⟨grant,inside,covers⟩ := ContextCompiler.eligible_granted eligible guarded
  obtain ⟨_,given,rfl⟩ := listed grant inside
  unfold grant_covers at covers
  simp only [Bool.and_eq_true,decide_eq_true_eq,List.contains_iff_mem] at covers
  obtain ⟨⟨⟨project,role⟩,run⟩,names_item⟩ := covers
  exact ⟨grant,given,project.trans (same _ (by simp)),role.trans (same _ (by simp)),same "runId" (by simp) ▸ run,
    names_item⟩

end

/-! ### Every dispatch of an execution -/

section
variable {σ : Type} {runtime : ReferenceOrchestrator σ} {scenario : Dict} {world : σ} {s' : Locals σ}
  {r : Py OrchestrationTrace}

/-- A dispatch keeps to the allowlists of its manifest exactly when its work item keeps
    to those of the recipe. -/
theorem allowlists_kept_iff (ran : execute runtime scenario (start world) = (r,s')) :
    ∀ invocation ∈ s'.invocations, ∃ settings profiles, Managed scenario settings ∧
      Dispatches settings profiles invocation ∧
      (Allowed invocation ↔ RecipeAllows settings.recipe invocation.prepared.source) := by
  intro invocation member
  obtain ⟨settings,profiles,managed,_,dispatches⟩ := invoked_dispatches ran invocation member
  exact ⟨settings,profiles,managed,dispatches,allowed_iff dispatches⟩

theorem allowlists_kept_sample : ∃ r s', execute (sample_runtime (.obj sample_answer)) sample_scenario (start ()) =
    (r,s') ∧
    s'.invocations ≠ [] ∧ ∀ invocation ∈ s'.invocations, ∃ settings profiles, Managed sample_scenario settings ∧
      Dispatches settings profiles invocation ∧
      (Allowed invocation ↔ RecipeAllows settings.recipe invocation.prepared.source) := by
  obtain ⟨trace,s',ran,invoked⟩ := sample_dispatched
  exact ⟨_,s',ran,by simp [invoked],allowlists_kept_iff ran⟩

/-- The request needs a shell, and the recipe allows no tools. -/
theorem shell_not_allowed : ∃ trace s', execute (sample_runtime (.obj sample_answer)) sample_scenario (start ()) =
    (.ok trace,s') ∧ ∃ invocation ∈ s'.invocations, ¬ Allowed invocation := by
  obtain ⟨trace,s',ran,invoked⟩ := sample_dispatched
  refine ⟨trace,s',ran,(sample_ended "A" "x").invocation,by simp [invoked],?_⟩
  rintro ⟨request,bound,tools,_⟩
  obtain rfl : sample_request = request := Json.obj.inj (Dispatches.signed_request.symm.trans bound)
  have needed : "shell" ∈ AgentAdapters.strings sample_request "requiredTools" := by
    unfold AgentAdapters.strings
    rw [sample_request_get (by decide)]
    decide
  have none : sample_manifest.tool_allowlist = [] := by rfl
  have allowed := tools "shell" needed
  rw [show (sample_ended "A" "x").invocation.prepared.manifest = sample_manifest from rfl,none] at allowed
  cases allowed

/-- A runner is cleared for its context exactly when each published runner that accepts
    the request is; and it is so whatever runners are published exactly when the
    sensitivity that the work item declares covers the context. -/
theorem clearance_kept_iff (ran : execute runtime scenario (start world) = (r,s')) :
    ∀ invocation ∈ s'.invocations, ∃ settings profiles, Managed scenario settings ∧ Published runtime profiles ∧
      Dispatches settings profiles invocation ∧
      (Covers (text invocation.prepared.profile "maxSensitivity") invocation.prepared.manifest ↔
        ∀ offered ∈ profiles, Accepts offered invocation.prepared.request →
          Covers (text offered "maxSensitivity") invocation.prepared.manifest) ∧
      ((∀ offers profile negotiations, select_adapter invocation.prepared.request offers = .ok (profile,negotiations) →
          Covers (text profile "maxSensitivity") invocation.prepared.manifest) ↔
        Covers (text (given_request invocation.prepared.source) "sensitivity") invocation.prepared.manifest) := by
  intro invocation member
  obtain ⟨settings,profiles,managed,published,dispatches⟩ := invoked_dispatches ran invocation member
  obtain ⟨negotiations,selected⟩ := dispatches.selected
  obtain ⟨_,requested,_,accepts,_⟩ := Dispatches.select_adapter_ok selected
  refine ⟨settings,profiles,managed,published,dispatches,cleared_iff_accepting dispatches,?_⟩
  have declared : text (given_request invocation.prepared.source) "sensitivity" =
      text invocation.prepared.request "sensitivity" := by
    unfold text
    rw [requested_given dispatches (by decide)]
  rw [declared]
  exact declared_iff requested accepts

theorem clearance_kept_sample : ∃ r s', execute (sample_runtime (.obj sample_answer)) sample_scenario (start ()) =
    (r,s') ∧
    s'.invocations ≠ [] ∧ ∀ invocation ∈ s'.invocations, ∃ settings profiles, Managed sample_scenario settings ∧
      Dispatches settings profiles invocation := by
  obtain ⟨trace,s',ran,invoked⟩ := sample_dispatched
  refine ⟨_,s',ran,by simp [invoked],?_⟩
  intro invocation member
  obtain ⟨settings,profiles,managed,_,dispatches,_⟩ := clearance_kept_iff ran invocation member
  exact ⟨settings,profiles,managed,dispatches⟩

/-- The context is confidential, and the runner is cleared for public context only. -/
theorem confidential_disclosed : ∃ trace s', execute (sample_runtime (.obj sample_answer)) sample_scenario (start ()) =
    (.ok trace,s') ∧ ∃ invocation ∈ s'.invocations,
      ¬ Covers (text invocation.prepared.profile "maxSensitivity") invocation.prepared.manifest := by
  obtain ⟨trace,s',ran,invoked⟩ := sample_dispatched
  refine ⟨trace,s',ran,(sample_ended "A" "x").invocation,by simp [invoked],?_⟩
  intro covers
  have selected : sample_manifest.selected_items.map (fun item => text item "sensitivity") = ["confidential"] := by
    decide +kernel
  obtain ⟨item,rest,items,level,_⟩ := List.map_eq_cons_iff.mp selected
  have covered := covers item (show item ∈ sample_manifest.selected_items by rw [items]; simp)
  rw [level] at covered
  exact absurd covered (by decide)

/-- The identities of a dispatch agree exactly when the parts of its work item do; then
    what it discloses was granted to its own run. -/
theorem identities_kept_iff (ran : execute runtime scenario (start world) = (r,s')) :
    ∀ invocation ∈ s'.invocations, ∃ settings profiles, Managed scenario settings ∧
      Dispatches settings profiles invocation ∧
      (Agree scenario invocation ↔ Consistent scenario invocation.prepared.source) ∧
      (Consistent scenario invocation.prepared.source → ∀ item ∈ invocation.prepared.manifest.selected_items,
        EXPLICIT_GRANT_LEVELS.contains (text item "sensitivity") = true →
        Grants invocation.prepared.request (invocation.prepared.source.getOr "disclosureGrants" (.arr [])) item) := by
  intro invocation member
  obtain ⟨settings,profiles,managed,_,dispatches⟩ := invoked_dispatches ran invocation member
  refine ⟨settings,profiles,managed,dispatches,agree_iff dispatches,?_⟩
  intro consistent
  exact agree_granted dispatches ((agree_iff dispatches).mpr consistent)

theorem identities_kept_sample : ∃ r s', execute (sample_runtime (.obj sample_answer)) sample_scenario (start ()) =
    (r,s') ∧
    s'.invocations ≠ [] ∧ ∀ invocation ∈ s'.invocations, ∃ settings profiles, Managed sample_scenario settings ∧
      Dispatches settings profiles invocation ∧
      (Agree sample_scenario invocation ↔ Consistent sample_scenario invocation.prepared.source) := by
  obtain ⟨trace,s',ran,invoked⟩ := sample_dispatched
  refine ⟨_,s',ran,by simp [invoked],?_⟩
  intro invocation member
  obtain ⟨settings,profiles,managed,dispatches,same,_⟩ := identities_kept_iff ran invocation member
  exact ⟨settings,profiles,managed,dispatches,same⟩

/-- The context was compiled and granted for a run of another project. -/
theorem foreign_context : ∃ trace s', execute (sample_runtime (.obj sample_answer)) sample_scenario (start ()) =
    (.ok trace,s') ∧ ∃ invocation ∈ s'.invocations, ¬ Agree sample_scenario invocation := by
  obtain ⟨trace,s',ran,invoked⟩ := sample_dispatched
  refine ⟨trace,s',ran,(sample_ended "A" "x").invocation,by simp [invoked],?_⟩
  intro agree
  obtain ⟨request,bound,compiled⟩ := agree.request
  obtain rfl : sample_request = request := Json.obj.inj (Dispatches.signed_request.symm.trans bound)
  have project := compiled "projectId" (by decide)
  rw [sample_request_get (by decide)] at project
  exact absurd (Json.str.inj project) (by decide)

end

end V3Aidlc.DispatchedContexts
