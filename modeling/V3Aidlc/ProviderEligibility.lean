import V3Aidlc.Providers
import V3Aidlc.Dispatches

/-!
The TypeScript runtime and the reference on the same request and profile. A runner lacks
nothing exactly when it fits the request (`missing_nil`), and then its adapter runs and
the registry considers it (`run_dispatches_iff`, `survey_adapters`). The reference asks
one thing more, that a retry goes to a runner that can repeat an invocation, so the two
agree exactly when no retry reaches a fitting runner that cannot
(`eligibility_agrees_iff`).
-/
namespace V3Aidlc.ProviderEligibility
open V3Aidlc.Values V3Aidlc.Loops V3Aidlc.Contracts V3Aidlc.Effects V3Aidlc.InsertionMaps V3Aidlc.AgentAdapters
open V3Aidlc.Dispatches V3Aidlc.Providers

/-! ### The same contract -/

/-- The profile of the reference that stands for one of the runtime. -/
structure SameProfile (profile : CapabilityProfile) (reference : Dict) : Prop where
  profile_id : reference.get "profileId" = .str profile.id
  adapter_id : reference.get "adapterId" = .str profile.adapterId
  adapter_version : reference.get "adapterVersion" = .str profile.adapterVersion
  provider : reference.get "provider" = .str profile.provider.value
  model : reference.get "model" = .str profile.model
  status : reference.get "status" = .str profile.status.value
  roles : reference.get "roles" = string_list (profile.roles.map AgentRole.value)
  capabilities : reference.get "capabilities" = string_list profile.capabilities
  modalities : reference.get "modalities" = string_list []
  tools : reference.get "tools" = string_list profile.tools
  network_hosts : reference.get "networkHosts" = string_list profile.networkHosts
  context : reference.get "maxContextBytes" = .int profile.maxContextBytes
  output : reference.get "maxOutputBytes" = .int profile.maxOutputBytes
  sensitivity : reference.get "maxSensitivity" = .str profile.maxSensitivity.value
  structured : reference.get "structuredOutput" = .bool profile.structuredOutput
  effects : reference.get "externalSideEffects" = .bool profile.externalEffects
  idempotent : reference.get "idempotentInvocation" = .bool profile.idempotent

/-- The authorizations that stand for the automatic decisions of the reference. -/
def automatic (authorization : Authorization) : Prop :=
  authorization = .proceed ∨ authorization = .proceed_with_record

/-- The request of the reference that stands for one of the runtime. -/
structure SameRequest (request : AgentRunRequest) (reference : Dict) : Prop where
  run_id : reference.get "runId" = .str request.id
  project_id : reference.get "projectId" = .str request.projectId
  work_package_id : reference.get "workPackageId" = .str request.workPackageId
  role : reference.get "role" = .str request.role.value
  objective : reference.get "objective" = .str request.objective
  manifest_id : reference.get "contextManifestId" = .str request.contextManifestId
  manifest_digest : reference.get "contextManifestDigest" = .str request.contextDigest
  context : reference.get "contextBytes" = .int request.contextBytes
  sensitivity : reference.get "sensitivity" = .str request.sensitivity.value
  capabilities : reference.get "requiredCapabilities" = string_list request.requiredCapabilities
  modalities : reference.get "requiredModalities" = string_list []
  tools : reference.get "requiredTools" = string_list request.requiredTools
  network_hosts : reference.get "requiredNetworkHosts" = string_list request.requiredNetworkHosts
  structured : reference.get "structuredOutputRequired" = .bool request.structuredOutput
  effects : reference.get "externalSideEffectPossible" = .bool request.externalEffects
  output : reference.get "maxOutputBytes" = .int request.maxOutputBytes
  criteria : reference.get "completionCriteria" = string_list request.completionCriteria
  authorization : automatic request.authorization ↔ text reference "authorizationDecision" ∈ AUTO_AUTHORIZATION
  attempt : reference.get "attempt" = .int request.attempt
  idempotency_key : reference.get "idempotencyKey" = .str request.idempotencyKey

/-! ### Fitting runners -/

/-- What the runtime asks of a runner. -/
structure Fits (profile : CapabilityProfile) (request : AgentRunRequest) : Prop where
  available : profile.status = .available
  role : request.role ∈ profile.roles
  capabilities : ∀ item ∈ request.requiredCapabilities, item ∈ profile.capabilities
  tools : ∀ item ∈ request.requiredTools, item ∈ profile.tools
  network_hosts : ∀ item ∈ request.requiredNetworkHosts, item ∈ profile.networkHosts
  context : request.contextBytes ≤ profile.maxContextBytes
  output : request.maxOutputBytes ≤ profile.maxOutputBytes
  clearance : sensitivityRank request.sensitivity ≤ sensitivityRank profile.maxSensitivity
  structured : request.structuredOutput = true → profile.structuredOutput = true
  effects : request.externalEffects = true → profile.externalEffects = true
  authorized : automatic request.authorization

theorem reason_if_nil {condition : Bool} {reason : String} : reason_if condition reason = [] ↔ condition = false := by
  cases condition <;> simp [reason_if]

theorem lacking_nil {label : String} {required offered : List String} :
    lacking label required offered = [] ↔ ∀ item ∈ required, item ∈ offered := by
  unfold lacking
  rw [List.map_eq_nil_iff,List.filter_eq_nil_iff]
  simp

theorem authorization_automatic {authorization : Authorization} :
    (authorization = .block || authorization = .escalate : Bool) = false ↔ automatic authorization := by
  unfold automatic
  cases authorization <;> decide

theorem missing_nil {profile : CapabilityProfile} {request : AgentRunRequest} :
    Providers.missing profile request = [] ↔ Fits profile request := by
  unfold Providers.missing
  simp only [List.append_eq_nil_iff,reason_if_nil,lacking_nil,authorization_automatic,ne_eq,decide_not,
    Bool.not_eq_false',decide_eq_true_eq,List.contains_eq_mem,decide_eq_false_iff_not,not_lt,Bool.and_eq_false_iff]
  simp only [← Bool.not_eq_true,or_iff_not_imp_left,not_not]
  constructor
  · rintro ⟨⟨⟨⟨⟨⟨⟨⟨⟨⟨available,role⟩,capabilities⟩,tools⟩,hosts⟩,context⟩,output⟩,clearance⟩,structured⟩,effects⟩,
      authorized⟩
    exact ⟨available,role,capabilities,tools,hosts,context,output,clearance,structured,effects,authorized⟩
  · rintro ⟨available,role,capabilities,tools,hosts,context,output,clearance,structured,effects,authorized⟩
    exact ⟨⟨⟨⟨⟨⟨⟨⟨⟨⟨available,role⟩,capabilities⟩,tools⟩,hosts⟩,context⟩,output⟩,clearance⟩,structured⟩,effects⟩,
      authorized⟩

/-! ### The reference -/

theorem strings_list {d : Dict} {key : String} {listed : List String} (held : d.get key = string_list listed) :
    strings d key = listed := by
  have found : strings? (string_list listed) = some listed := strings?_eq_some.mpr rfl
  unfold strings
  rw [held,found,Option.getD_some]

theorem integer_of {d : Dict} {key : String} {n : Int} (held : d.get key = .int n) : integer d key = n := by
  unfold integer
  rw [held]
  rfl

theorem text_of {d : Dict} {key s : String} (held : d.get key = .str s) : text d key = s := by
  unfold text
  rw [held]
  rfl

theorem true_of {d : Dict} {key : String} {b : Bool} (held : d.get key = .bool b) :
    (d.get key).isTrue = true ↔ b = true := by
  rw [held]
  cases b <;> decide

theorem role_listed {role : AgentRole} {roles : List AgentRole} :
    role.value ∈ roles.map AgentRole.value ↔ role ∈ roles := by
  have apart : Function.Injective AgentRole.value := by
    intro left right same
    cases left <;> cases right <;> first | rfl | (revert same; decide)
  exact List.mem_map_of_injective apart

theorem status_available {status : ProfileStatus} : status.value = "available" ↔ status = .available := by
  cases status <;> decide

theorem rank_value (sensitivity : Sensitivity) : SENSITIVITY_RANK sensitivity.value = sensitivityRank sensitivity := by
  cases sensitivity <;> decide

section
variable {profile : CapabilityProfile} {request : AgentRunRequest} {reference_profile reference_request : Dict}

/-- The reference asks of a runner what the runtime does, and that it can repeat a retry. -/
theorem accepts_fits (same_profile : SameProfile profile reference_profile)
    (same_request : SameRequest request reference_request) : Accepts reference_profile reference_request ↔
      Fits profile request ∧ (1 < request.attempt → profile.idempotent = true) := by
  rw [accepts_iff,text_of same_profile.status,status_available,← same_request.authorization,
    text_of same_request.role,strings_list same_profile.roles,role_listed,strings_list same_request.capabilities,
    strings_list same_profile.capabilities,strings_list same_request.modalities,strings_list same_request.tools,
    strings_list same_profile.tools,strings_list same_request.network_hosts,strings_list same_profile.network_hosts,
    integer_of same_request.context,integer_of same_profile.context,integer_of same_request.output,
    integer_of same_profile.output,text_of same_request.sensitivity,text_of same_profile.sensitivity,rank_value,
    rank_value,true_of same_request.structured,true_of same_profile.structured,true_of same_request.effects,
    true_of same_profile.effects,integer_of same_request.attempt,true_of same_profile.idempotent]
  constructor
  · rintro ⟨available,authorized,role,capabilities,_,tools,hosts,context,output,clearance,structured,effects,retried⟩
    exact ⟨⟨available,role,capabilities,tools,hosts,context,output,clearance,structured,effects,authorized⟩,retried⟩
  · rintro ⟨fits,retried⟩
    exact ⟨fits.available,fits.authorized,fits.role,fits.capabilities,by simp,fits.tools,fits.network_hosts,
      fits.context,
      fits.output,fits.clearance,fits.structured,fits.effects,retried⟩

/-- The reference accepts the profile for the request. -/
def AcceptedByReference (reference_request reference_profile : Dict) : Prop :=
  ∃ result, negotiate_capabilities reference_request reference_profile = .ok result ∧ result.decision = .ACCEPTED

theorem accepted_by_reference (requested : validate_run_request reference_request = .ok ())
    (offered : validate_capability_profile reference_profile = .ok ()) :
    AcceptedByReference reference_request reference_profile ↔ Accepts reference_profile reference_request := by
  constructor
  · rintro ⟨result,negotiated,accepted⟩
    obtain ⟨_,_,rfl⟩ := negotiate_ok.mp negotiated
    exact accepted_iff.mp accepted
  · intro accepts
    exact ⟨_,negotiate_ok.mpr ⟨requested,offered,rfl⟩,accepted_iff.mpr accepts⟩

end

/-! ### The runtime -/

/-- A transport that notes each invocation and answers somehow. -/
def noting (answer : ProviderInvocation → Except Raised ProviderAnswer) : ProviderTransport (List ProviderInvocation) :=
  fun invocation => do
    Proc.modify (fun made => made ++ [invocation])
    Proc.lift (answer invocation)

section
variable (stringify : AgentRunRequest → String) (parse : String → Option Json)

/-- The run of the adapter invokes its transport. -/
def Dispatched (answer : ProviderInvocation → Except Raised ProviderAnswer) (profile : CapabilityProfile)
    (request : AgentRunRequest) : Prop :=
  (StructuredAdapter.run stringify parse profile (noting answer) request []).2 ≠ []

theorem noting_made {α : Type} {answer : ProviderInvocation → Except Raised ProviderAnswer}
    {invocation : ProviderInvocation} {made : List ProviderInvocation} (finish : ProviderAnswer → Except Raised α) :
    ((noting answer invocation >>= fun raw => Proc.lift (finish raw)) made).2 = made ++ [invocation] := by
  have invoked : noting answer invocation made = (answer invocation,made ++ [invocation]) := rfl
  cases answered : answer invocation with
  | error raised =>
    rw [answered] at invoked
    rw [bind_run_error invoked]
  | ok raw =>
    rw [answered] at invoked
    rw [bind_run_ok invoked,lift_run]

theorem run_dispatches_iff {answer : ProviderInvocation → Except Raised ProviderAnswer} {profile : CapabilityProfile}
    {request : AgentRunRequest} : Dispatched stringify parse answer profile request ↔ Fits profile request := by
  rw [← missing_nil]
  unfold Dispatched StructuredAdapter.run
  cases lacks : Providers.missing profile request with
  | nil =>
    have checked : raise_if (!([] : List String).isEmpty)
        (Raised.ProviderContractError (Canonical.join "; " [])) = .ok () := rfl
    rw [bind_lift_ok checked,noting_made]
    simp
  | cons reason rest =>
    have refused : raise_if (!(reason :: rest).isEmpty)
        (Raised.ProviderContractError (Canonical.join "; " (reason :: rest))) = .error _ := rfl
    rw [bind_lift_error refused]
    simp

variable {σ : Type}

/-- An adapter as it is registered: its id, its profile and its transport. -/
structure Registered (σ : Type) where
  adapterId : String
  profile : CapabilityProfile
  transport : ProviderTransport σ

def Registered.entry (adapter : Registered σ) : String × AgentRunner σ :=
  (adapter.adapterId,StructuredAdapter stringify parse adapter.profile adapter.transport)

def Registered.candidate (adapter : Registered σ) : Candidate σ :=
  ((adapter.entry stringify parse).2,adapter.profile)

/-- The candidates among adapters: those that lack nothing. -/
def fitting (request : AgentRunRequest) (adapters : List (Registered σ)) : List (Candidate σ) :=
  (adapters.filter (fun adapter => (Providers.missing adapter.profile request).isEmpty)).map
    (Registered.candidate stringify parse)

/-- What an adapter that does not fit lacks. -/
def rejection (request : AgentRunRequest) (adapter : Registered σ) : String :=
  adapter.adapterId ++ ": " ++ Canonical.join ", " (Providers.missing adapter.profile request)

def rejected (request : AgentRunRequest) (adapters : List (Registered σ)) : List String :=
  (adapters.filter (fun adapter => !(Providers.missing adapter.profile request).isEmpty)).map (rejection request)

omit stringify parse in
theorem survey_cons {request : AgentRunRequest} {adapterId : String} {runner : AgentRunner σ}
    {rest : List (String × AgentRunner σ)} {profile : CapabilityProfile} {eligible : List (Candidate σ)}
    {rejections : List String} {s middle after : σ} (offered : runner.capabilityProfile s = (.ok profile,middle))
    (surveyed : survey request rest middle = (.ok (eligible,rejections),after)) :
    survey request ((adapterId,runner) :: rest) s =
      (.ok (if (Providers.missing profile request).isEmpty then ((runner,profile) :: eligible,rejections)
        else (eligible,(adapterId ++ ": " ++ Canonical.join ", " (Providers.missing profile request)) :: rejections)),
      after) := by
  rw [survey,bind_run_ok offered,bind_run_ok surveyed]
  cases Providers.missing profile request <;> rfl

/-- The loop finds the adapters with a fitting profile and says what the others lack, and changes nothing. -/
theorem survey_adapters (request : AgentRunRequest) (adapters : List (Registered σ)) (s : σ) :
    survey request (adapters.map (Registered.entry stringify parse)) s =
      (.ok (fitting stringify parse request adapters,rejected request adapters),s) := by
  induction adapters with
  | nil => rfl
  | cons adapter rest ih =>
    have offered : (StructuredAdapter stringify parse adapter.profile adapter.transport).capabilityProfile s =
      (.ok adapter.profile,s) := rfl
    have stepped := @survey_cons σ request adapter.adapterId _ _ _ _ _ _ _ _ offered ih
    by_cases fits : (Providers.missing adapter.profile request).isEmpty = true
    · rw [if_pos fits] at stepped
      simp only [fitting,rejected,List.filter_cons,if_pos fits,fits,Bool.not_true,Bool.false_eq_true,↓reduceIte]
      exact stepped
    · rw [if_neg fits] at stepped
      simp only [fitting,rejected,List.filter_cons,if_neg fits,fits,Bool.not_false,↓reduceIte]
      exact stepped

/-- The loop of `select` finds the profile among these adapters. -/
def Considered (adapters : List (Registered σ)) (profile : CapabilityProfile) (request : AgentRunRequest) (s : σ) :
    Prop :=
  ∃ eligible rejections after, survey request (adapters.map (Registered.entry stringify parse)) s =
    (.ok (eligible,rejections),after) ∧ profile ∈ eligible.map Prod.snd

theorem considered_iff {adapters : List (Registered σ)} {profile : CapabilityProfile} {request : AgentRunRequest}
    {s : σ} (registered : profile ∈ adapters.map Registered.profile) :
    Considered stringify parse adapters profile request s ↔ Fits profile request := by
  have surveyed := survey_adapters stringify parse request adapters s
  rw [← missing_nil]
  constructor
  · rintro ⟨eligible,others,after,ran,found⟩
    rw [surveyed,Prod.mk.injEq,Except.ok.injEq,Prod.mk.injEq] at ran
    obtain ⟨⟨rfl,_⟩,_⟩ := ran
    obtain ⟨candidate,member,isProfile⟩ := List.mem_map.mp found
    obtain ⟨adapter,kept,rfl⟩ := List.mem_map.mp member
    obtain rfl : adapter.profile = profile := isProfile
    exact List.isEmpty_iff.mp (List.mem_filter.mp kept).2
  · intro nothing
    obtain ⟨adapter,member,rfl⟩ := List.mem_map.mp registered
    refine ⟨_,_,s,surveyed,List.mem_map.mpr ⟨_,List.mem_map_of_mem (List.mem_filter.mpr ⟨member,?_⟩),rfl⟩⟩
    rw [nothing]
    rfl

/-- The adapter runs, and every registry considers it, exactly when the reference accepts
    the profile for the request. -/
structure Agrees (σ : Type) (profile : CapabilityProfile) (request : AgentRunRequest)
    (reference_profile reference_request : Dict) : Prop where
  run : ∀ answer, Dispatched stringify parse answer profile request ↔
    AcceptedByReference reference_request reference_profile
  select : ∀ (adapters : List (Registered σ)) (s : σ), profile ∈ adapters.map Registered.profile →
    (Considered stringify parse adapters profile request s ↔
      AcceptedByReference reference_request reference_profile)

/-- No retry meets a fitting runner that cannot repeat an invocation. -/
def RetrySafe (profile : CapabilityProfile) (request : AgentRunRequest) : Prop :=
  Fits profile request → 1 < request.attempt → profile.idempotent = true

theorem eligibility_agrees_iff {profile : CapabilityProfile} {request : AgentRunRequest}
    {reference_profile reference_request : Dict} (requested : validate_run_request reference_request = .ok ())
    (offered : validate_capability_profile reference_profile = .ok ())
    (same_profile : SameProfile profile reference_profile) (same_request : SameRequest request reference_request) :
    Agrees stringify parse σ profile request reference_profile reference_request ↔ RetrySafe profile request := by
  have reference : AcceptedByReference reference_request reference_profile ↔
      Fits profile request ∧ (1 < request.attempt → profile.idempotent = true) :=
    (accepted_by_reference requested offered).trans (accepts_fits same_profile same_request)
  constructor
  · intro agrees fits
    have accepted := (agrees.run (fun _ => .error (.Error "unreachable"))).mp
      ((run_dispatches_iff stringify parse).mpr fits)
    exact (reference.mp accepted).2
  · intro safe
    have both : Fits profile request ↔ AcceptedByReference reference_request reference_profile := by
      rw [reference]
      exact ⟨fun fits => ⟨fits,safe fits⟩,And.left⟩
    exact ⟨fun answer => (run_dispatches_iff stringify parse).trans both,
      fun adapters s registered => (considered_iff stringify parse registered).trans both⟩

end

/-! ### A retry with a runner that cannot repeat an invocation -/

def sample_profile (idempotent : Bool) : CapabilityProfile where
  id := "PROFILE-codex"
  adapterId := "codex"
  adapterVersion := "1.0.0"
  provider := .codex
  model := "test-model"
  status := .available
  roles := [.implementer]
  capabilities := ["code-edit"]
  tools := ["filesystem"]
  networkHosts := []
  maxContextBytes := 8192
  maxOutputBytes := 8192
  maxSensitivity := .internal
  structuredOutput := true
  externalEffects := false
  idempotent := idempotent

/-- A second attempt. -/
def sample_retry : AgentRunRequest where
  id := "RUN-1"
  projectId := "PRJ-1"
  workPackageId := "WP-1"
  role := .implementer
  objective := "Implement the bounded change"
  contextManifestId := "CTX-1"
  contextDigest := "aaaa"
  contextBytes := 1024
  sensitivity := .internal
  requiredCapabilities := ["code-edit"]
  requiredTools := ["filesystem"]
  requiredNetworkHosts := []
  structuredOutput := true
  externalEffects := false
  maxOutputBytes := 4096
  completionCriteria := ["AC-1"]
  authorization := .proceed
  attempt := 2
  idempotencyKey := "idem-1"

/-- `JSON.stringify` of the sample request. -/
def sample_text : String :=
  "\x7b\"id\":\"RUN-1\",\"projectId\":\"PRJ-1\",\"workPackageId\":\"WP-1\",\"role\":\"implementer\"," ++
  "\"objective\":\"Implement the bounded change\",\"contextManifestId\":\"CTX-1\",\"contextDigest\":\"aaaa\"," ++
  "\"contextBytes\":1024,\"sensitivity\":\"internal\",\"requiredCapabilities\":[\"code-edit\"]," ++
  "\"requiredTools\":[\"filesystem\"],\"requiredNetworkHosts\":[],\"structuredOutput\":true," ++
  "\"externalEffects\":false,\"maxOutputBytes\":4096,\"completionCriteria\":[\"AC-1\"]," ++
  "\"authorization\":\"proceed\",\"attempt\":2,\"idempotencyKey\":\"idem-1\"\x7d"

def sample_stringify (_ : AgentRunRequest) : String := sample_text
/-- `JSON.parse` of output that is not JSON. -/
def sample_parse (_ : String) : Option Json := none

theorem sample_same_profile (idempotent : Bool) :
    SameProfile (sample_profile idempotent) (ordinary_profile idempotent false) := by
  constructor <;> rfl

theorem sample_same_request : SameRequest sample_retry (ordinary_request 2 false) := by
  refine ⟨rfl,rfl,rfl,rfl,rfl,rfl,rfl,rfl,rfl,rfl,rfl,rfl,rfl,rfl,rfl,rfl,rfl,?_,rfl,rfl⟩
  have governed : text (ordinary_request 2 false) "authorizationDecision" ∈ AUTO_AUTHORIZATION := by decide
  exact iff_of_true (.inl rfl) governed

theorem sample_requested : validate_run_request (ordinary_request 2 false) = .ok () := by decide +kernel
theorem sample_fits (idempotent : Bool) : Fits (sample_profile idempotent) sample_retry := by
  refine ⟨rfl,?_,?_,?_,?_,?_,?_,?_,fun _ => rfl,fun demanded => demanded,.inl rfl⟩ <;> cases idempotent <;> decide

theorem eligibility_agrees_iff_retry :
    Agrees sample_stringify sample_parse Unit (sample_profile true) sample_retry (ordinary_profile true false)
      (ordinary_request 2 false) ↔ RetrySafe (sample_profile true) sample_retry :=
  eligibility_agrees_iff sample_stringify sample_parse sample_requested (ordinary_offered true false)
    (sample_same_profile true)
    sample_same_request

/-- The runtime dispatches the second attempt, and the reference rejects the profile. -/
theorem retry_dispatched :
    validate_run_request (ordinary_request 2 false) = .ok () ∧
    validate_capability_profile (ordinary_profile false false) = .ok () ∧
    SameProfile (sample_profile false) (ordinary_profile false false) ∧
    SameRequest sample_retry (ordinary_request 2 false) ∧
    Dispatched sample_stringify sample_parse (fun _ => .error (.Error "unreachable")) (sample_profile false)
      sample_retry ∧
    ¬ AcceptedByReference (ordinary_request 2 false) (ordinary_profile false false) := by
  refine ⟨sample_requested,ordinary_offered false false,sample_same_profile false,sample_same_request,
    (run_dispatches_iff sample_stringify sample_parse).mpr (sample_fits false),fun accepted => ?_⟩
  rw [accepted_by_reference sample_requested (ordinary_offered false false),
    accepts_fits (sample_same_profile false) sample_same_request] at accepted
  exact absurd (accepted.2 (by decide)) (by decide)

end V3Aidlc.ProviderEligibility
