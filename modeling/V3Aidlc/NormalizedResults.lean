import V3Aidlc.DispatchBinding
import V3Aidlc.JsonSchemas

/-!
What reaches the state from an untrusted provider. A normalized result has the identity of
its dispatch, claims completion with criteria and evidence, and reports effects only where
they were allowed. Its top level is rebuilt, but its usage and its effects are taken as
they come, so it conforms to the published schema exactly when these hold nothing extra
and the dispatch names a profile digest (`normalized_closed_iff`).
-/
namespace V3Aidlc.NormalizedResults
open V3Aidlc.Values V3Aidlc.Loops V3Aidlc.Contracts V3Aidlc.Canonical V3Aidlc.Sha256 V3Aidlc.AgentAdapters
open V3Aidlc.Documents V3Aidlc.Dispatches V3Aidlc.DispatchBinding V3Aidlc.JsonSchemas

/-! ### The schema -/

def EFFECT_FIELDS : List String := ["effectKey","effectType","status","observationRef"]
def USAGE_FIELDS : List String := ["inputUnits","outputUnits"]

def EFFECT : Schema :=
  .object EFFECT_FIELDS [("effectKey",.string 1),("effectType",.string 1),
    ("status",.enum ["succeeded","absent","unknown"]),("observationRef",.string 1)]

def USAGE : Schema := .object USAGE_FIELDS [("inputUnits",.integer 0),("outputUnits",.integer 0)]

def RESULT_FIELDS : List String :=
  ["schemaVersion","runId","projectId","workPackageId","adapterId","profileDigest","contextManifestId",
    "dispatchDigest","startedAt","finishedAt","status","summary","artifactIds","evidenceIds","satisfiedCriteria",
    "findingIds","externalEffects","usage","providerResultRef"]

def RESULT_PROPERTIES : List (String × Schema) :=
  [("schemaVersion",.const "0.1"),("runId",.string 1),("projectId",.string 1),("workPackageId",.string 1),
    ("adapterId",.string 1),("profileDigest",.digest),("contextManifestId",.string 1),("dispatchDigest",.digest),
    ("startedAt",.timestamp),("finishedAt",.timestamp),("status",.enum ["completed","failed","blocked","cancelled"]),
    ("summary",.string 1),("artifactIds",.uniqueStrings 1),("evidenceIds",.uniqueStrings 1),
    ("satisfiedCriteria",.uniqueStrings 1),("findingIds",.uniqueStrings 1),("externalEffects",.array EFFECT),
    ("usage",USAGE),("providerResultRef",.string 1)]

/-- `agent-run-result.schema.json`. -/
def AGENT_RUN_RESULT : Schema := .object RESULT_FIELDS RESULT_PROPERTIES

/-! ### Validated results -/

/-- The request that a dispatch carries. -/
def request_of (dispatch : Dict) : Dict := ((dispatch.get "request").dict?).getD []

/-- What the validator asks of a result. -/
structure Validated (result dispatch : Dict) : Prop where
  dispatched : validate_dispatch dispatch = .ok ()
  texts : ∀ key ∈ RESULT_STRINGS, ∃ s, Dict.get? key result = some (.str s) ∧ blank s = false
  times : ∃ started finished, AgentAdapters.parse_time (result.get "startedAt") "startedAt" = .ok started ∧
    AgentAdapters.parse_time (result.get "finishedAt") "finishedAt" = .ok finished ∧ started ≤ finished
  status : text result "status" ∈ TERMINAL_RUN_STATUSES
  arrays : ∀ key ∈ RESULT_ARRAYS, ∃ items, strings? (result.get key) = some items ∧ (∀ s ∈ items, visible s = true) ∧
    items.Nodup
  usage : ∃ usage : Dict, result.get "usage" = .obj usage ∧ ∀ key ∈ USAGE_FIELDS, ∃ n, usage.get key = .int n ∧ 0 ≤ n
  matching : ∀ key ∈ RESULT_MATCHES, check_match result dispatch "result" "dispatch" key = .ok ()
  effects : ∃ effects, result.getOr "externalEffects" (.arr []) = .arr effects ∧
    (effects ≠ [] → ((request_of dispatch).get "externalSideEffectPossible").isTrue = true) ∧
    ∀ effect ∈ effects, validate_effect effect = .ok ()
  criteria : validate_criteria result (request_of dispatch) = .ok ()

theorem effects_allowed_iff {effects : List Json} {allowed : Bool} :
    (!effects.isEmpty && !allowed) = false ↔ (effects ≠ [] → allowed = true) := by
  cases effects <;> cases allowed <;> simp

theorem validate_run_result_ok {result dispatch : Dict} :
    validate_run_result result dispatch = .ok () ↔ Validated result dispatch := by
  unfold validate_run_result
  simp only [bind_ok_iff,AgentAdapters.reject,reject_if_ok,Bool.not_eq_false',List.contains_eq_mem,
    decide_eq_true_eq,decide_eq_false_iff_not,not_lt]
  constructor
  · rintro ⟨_,dispatched,_,texts,started,from_,finished,until_,_,ordered,_,status,_,arrays,rest⟩
    cases isUsage : (result.get "usage").dict? with
    | none => simp [isUsage,adapter_error] at rest
    | some usage =>
      simp only [isUsage,bind_ok_iff] at rest
      obtain ⟨_,units,_,matching,rest⟩ := rest
      cases isEffects : (result.getOr "externalEffects" (.arr [])).list? with
      | none => simp [isEffects,adapter_error] at rest
      | some effects =>
        simp only [isEffects,bind_ok_iff,reject_if_ok,effects_allowed_iff,forM_ok_iff] at rest
        obtain ⟨_,allowed,_,each,criteria⟩ := rest
        refine ⟨dispatched,(required_strings_ok _).mp texts,⟨started,finished,from_,until_,ordered⟩,status,
          string_arrays_ok.mp arrays,⟨usage,dict?_eq_some.mp isUsage,?_⟩,forM_ok_iff.mp matching,
          ⟨effects,list?_eq_some.mp isEffects,allowed,each⟩,criteria⟩
        intro key member
        exact integer_at_least_ok.mp (forM_ok_iff.mp units key member)
  · intro valid
    obtain ⟨started,finished,from_,until_,ordered⟩ := valid.times
    obtain ⟨usage,isUsage,units⟩ := valid.usage
    obtain ⟨effects,isEffects,allowed,each⟩ := valid.effects
    rw [isUsage,isEffects]
    simp only [Json.dict?,Json.list?,bind_ok_iff,reject_if_ok,effects_allowed_iff,forM_ok_iff]
    refine ⟨(),valid.dispatched,(),(required_strings_ok _).mpr valid.texts,started,from_,finished,until_,(),ordered,(),
      valid.status,(),string_arrays_ok.mpr valid.arrays,(),?_,(),valid.matching,(),allowed,(),each,valid.criteria⟩
    intro key member
    exact integer_at_least_ok.mpr (units key member)

theorem criteria_ok {result request : Dict} (checked : validate_criteria result request = .ok ())
    (completed : text result "status" = "completed") :
    (∀ criterion ∈ strings request "completionCriteria", criterion ∈ strings result "satisfiedCriteria") ∧
    (strings request "completionCriteria" ≠ [] → strings result "evidenceIds" ≠ []) := by
  unfold validate_criteria AgentAdapters.reject at checked
  rw [if_pos completed] at checked
  simp only [bind_ok_iff,reject_if_ok,Bool.not_eq_false',List.isEmpty_iff,sorted_nil,List.filter_eq_nil_iff,
    Bool.not_eq_true',Bool.not_eq_false,List.contains_eq_mem,decide_eq_true_eq] at checked
  obtain ⟨_,satisfied,evidenced⟩ := checked
  refine ⟨satisfied,fun demanded absent => ?_⟩
  cases listed : strings request "completionCriteria" with
  | nil => exact demanded listed
  | cons first others => simp [listed,absent] at evidenced

theorem validate_effect_ok {effect : Json} (valid : validate_effect effect = .ok ()) : ∃ fields, effect = .obj fields ∧
    (∀ key ∈ EFFECT_FIELDS, ∃ s, Dict.get? key fields = some (.str s) ∧ blank s = false) ∧
    text fields "status" ∈ ["succeeded","absent","unknown"] := by
  unfold validate_effect at valid
  cases isRecord : effect.dict? with
  | none => simp [isRecord,adapter_error] at valid
  | some fields =>
    simp only [isRecord,bind_ok_iff,AgentAdapters.reject,reject_if_ok,Bool.not_eq_false',List.contains_eq_mem,
      decide_eq_true_eq] at valid
    obtain ⟨_,texts,status⟩ := valid
    exact ⟨fields,dict?_eq_some.mp isRecord,(required_strings_ok _).mp texts,status⟩

/-! ### Conformance -/

theorem filled_conforms {s : String} (visible : blank s = false) : conforms (.string 1) (.str s) = true := by
  rw [conforms_string]
  rintro rfl
  cases visible

theorem nonnegative_conforms {n : Int} (bound : 0 ≤ n) : conforms (.integer 0) (.int n) = true := by
  simpa [conforms,integral?] using bound

theorem listed_conforms {v : Json} {items : List String} (held : strings? v = some items)
    (visible : ∀ s ∈ items, visible s = true) (distinct : items.Nodup) : conforms (.uniqueStrings 1) v = true := by
  simp only [conforms,held,Option.any_some,Bool.and_eq_true,List.all_eq_true,decide_eq_true_eq]
  refine ⟨fun s member => ?_,distinct⟩
  have filled := visible s member
  have nonempty : s ≠ "" := by
    rintro rfl
    cases filled
  simpa [Nat.one_le_iff_ne_zero] using nonempty

/-- A validated usage conforms exactly when it has no other key. -/
theorem usage_conforms_iff {usage : Dict} (units : ∀ key ∈ USAGE_FIELDS, ∃ n, usage.get key = .int n ∧ 0 ≤ n) :
    conforms USAGE (.obj usage) = true ↔ ∀ key ∈ usage.keys, key ∈ USAGE_FIELDS := by
  have held : ∀ key ∈ USAGE_FIELDS, ∃ n, Dict.get? key usage = some (.int n) ∧ 0 ≤ n := by
    intro key member
    obtain ⟨n,got,bound⟩ := units key member
    exact ⟨n,get?_of_get got (by simp),bound⟩
  unfold USAGE
  rw [conforms_object]
  constructor
  · rintro ⟨_,closed,_⟩
    exact closed
  · intro closed
    refine ⟨fun key member => ?_,closed,?_⟩
    · obtain ⟨n,found,_⟩ := held key member
      simp [Dict.has,found]
    · have each : ∀ key ∈ USAGE_FIELDS, ∀ v, Dict.get? key usage = some v → conforms (.integer 0) v = true := by
        intro key member v found
        obtain ⟨n,isInteger,bound⟩ := held key member
        obtain rfl : Json.int n = v := Option.some.inj (isInteger.symm.trans found)
        exact nonnegative_conforms bound
      simp only [List.forall_mem_cons,List.not_mem_nil,false_implies,implies_true,and_true]
      exact ⟨each "inputUnits" (by simp [USAGE_FIELDS]),each "outputUnits" (by simp [USAGE_FIELDS])⟩

/-- A validated effect conforms exactly when it has no other key. -/
theorem effect_conforms_iff {fields : Dict}
    (texts : ∀ key ∈ EFFECT_FIELDS, ∃ s, Dict.get? key fields = some (.str s) ∧ blank s = false)
    (status : text fields "status" ∈ ["succeeded","absent","unknown"]) :
    conforms EFFECT (.obj fields) = true ↔ ∀ key ∈ fields.keys, key ∈ EFFECT_FIELDS := by
  unfold EFFECT
  rw [conforms_object]
  constructor
  · rintro ⟨_,closed,_⟩
    exact closed
  · intro closed
    refine ⟨fun key member => ?_,closed,?_⟩
    · obtain ⟨s,found,_⟩ := texts key member
      simp [Dict.has,found]
    · have each : ∀ key ∈ EFFECT_FIELDS, ∀ v, Dict.get? key fields = some v → conforms (.string 1) v = true := by
        intro key member v found
        obtain ⟨s,isText,filled⟩ := texts key member
        obtain rfl : Json.str s = v := Option.some.inj (isText.symm.trans found)
        exact filled_conforms filled
      have known : ∀ v, Dict.get? "status" fields = some v →
          conforms (.enum ["succeeded","absent","unknown"]) v = true := by
        intro v found
        obtain ⟨s,isText,_⟩ := texts "status" (by simp [EFFECT_FIELDS])
        obtain rfl : Json.str s = v := Option.some.inj (isText.symm.trans found)
        rw [text_of_get? isText] at status
        simpa [conforms,Json.str?] using status
      simp only [List.forall_mem_cons,List.not_mem_nil,false_implies,implies_true,and_true]
      exact ⟨each "effectKey" (by simp [EFFECT_FIELDS]),each "effectType" (by simp [EFFECT_FIELDS]),known,
        each "observationRef" (by simp [EFFECT_FIELDS])⟩

section
variable {raw_result dispatch : Dict} {provider_result_ref : String}

/-- The normalizer lays out exactly the fields of the schema. -/
theorem normalized_keys : (normalized raw_result dispatch provider_result_ref).keys = RESULT_FIELDS := rfl

theorem normalized_conforms : conforms AGENT_RUN_RESULT (.obj (normalized raw_result dispatch provider_result_ref)) =
    true ↔ ∀ property ∈ RESULT_PROPERTIES,
      conforms property.2 ((normalized raw_result dispatch provider_result_ref).get property.1) = true := by
  have named : RESULT_PROPERTIES.map Prod.fst = RESULT_FIELDS := rfl
  have present : ∀ key ∈ RESULT_FIELDS, ∃ v, Dict.get? key (normalized raw_result dispatch provider_result_ref) =
      some v := by
    intro key member
    rw [← @normalized_keys raw_result dispatch provider_result_ref] at member
    exact mem_keys.mp member
  unfold AGENT_RUN_RESULT
  rw [conforms_object,named]
  constructor
  · rintro ⟨_,_,each⟩ property member
    obtain ⟨v,found⟩ := present property.1 (named ▸ List.mem_map_of_mem member)
    rw [get_of_get? found]
    exact each property member v found
  · intro each
    refine ⟨fun key member => ?_,fun key member => member,fun property member v found => ?_⟩
    · obtain ⟨v,found⟩ := present key member
      simp [Dict.has,found]
    · rw [← get_of_get? found]
      exact each property member

theorem normalized_digest (valid : validate_dispatch dispatch = .ok ()) :
    conforms .digest ((normalized raw_result dispatch provider_result_ref).get "dispatchDigest") = true := by
  have copied : (normalized raw_result dispatch provider_result_ref).get "dispatchDigest" =
      dispatch.get "dispatchDigest" := by
    simp [normalized,Dict.get,Dict.get?]
  rw [copied,get_of_get? (dispatch_sealed valid),conforms_digest]
  exact sha256_hex _

/-- Of a validated result only the profile digest, the effects and the usage can fail to
    conform. -/
theorem validated_conforms_iff (named : blank provider_result_ref = false)
    (valid : Validated (normalized raw_result dispatch provider_result_ref) dispatch) :
    conforms AGENT_RUN_RESULT (.obj (normalized raw_result dispatch provider_result_ref)) = true ↔
      conforms .digest ((normalized raw_result dispatch provider_result_ref).get "profileDigest") = true ∧
      conforms (.array EFFECT) ((normalized raw_result dispatch provider_result_ref).get "externalEffects") = true ∧
      conforms USAGE ((normalized raw_result dispatch provider_result_ref).get "usage") = true := by
  have version : (normalized raw_result dispatch provider_result_ref).get "schemaVersion" = .str "0.1" := by
    simp [normalized,Dict.get,Dict.get?]
  have reference : (normalized raw_result dispatch provider_result_ref).get "providerResultRef" =
      .str provider_result_ref := by
    simp [normalized,Dict.get,Dict.get?]
  have digest := @normalized_digest raw_result dispatch provider_result_ref valid.dispatched
  rw [normalized_conforms]
  generalize normalized raw_result dispatch provider_result_ref = result at *
  have words : ∀ key ∈ RESULT_STRINGS, conforms (.string 1) (result.get key) = true := by
    intro key member
    obtain ⟨s,found,filled⟩ := valid.texts key member
    rw [get_of_get? found]
    exact filled_conforms filled
  have times : ∀ key ∈ RESULT_STRINGS, conforms .timestamp (result.get key) = true := by
    intro key member
    obtain ⟨s,found,_⟩ := valid.texts key member
    rw [get_of_get? found]
    rfl
  have lists : ∀ key ∈ RESULT_ARRAYS, conforms (.uniqueStrings 1) (result.get key) = true := by
    intro key member
    obtain ⟨items,held,shown,distinct⟩ := valid.arrays key member
    exact listed_conforms held shown distinct
  have status : conforms (.enum ["completed","failed","blocked","cancelled"]) (result.get "status") = true := by
    obtain ⟨s,found,_⟩ := valid.texts "status" (by simp [RESULT_STRINGS])
    have listed := valid.status
    rw [text_of_get? found] at listed
    rw [get_of_get? found]
    simpa [conforms,Json.str?,TERMINAL_RUN_STATUSES] using listed
  constructor
  · intro each
    exact ⟨each ("profileDigest",.digest) (by simp [RESULT_PROPERTIES]),
      each ("externalEffects",.array EFFECT) (by simp [RESULT_PROPERTIES]),
        each ("usage",USAGE) (by simp [RESULT_PROPERTIES])⟩
  · rintro ⟨profile,effects,usage⟩
    simp only [RESULT_PROPERTIES,List.forall_mem_cons,List.not_mem_nil,false_implies,implies_true,and_true]
    refine ⟨?_,words _ (by decide),words _ (by decide),words _ (by decide),words _ (by decide),profile,
      words _ (by decide),digest,times _ (by decide),times _ (by decide),status,words _ (by decide),lists _ (by decide),
      lists _ (by decide),lists _ (by decide),lists _ (by decide),effects,usage,?_⟩
    · rw [version]
      rfl
    · rw [reference]
      exact filled_conforms named

/-! ### Closed results -/

/-- The result conforms to the schema at every depth, has the identity of the dispatch, and
    claims nothing that the dispatch does not allow. -/
structure ClosedResult (result dispatch : Dict) : Prop where
  conforming : conforms AGENT_RUN_RESULT (.obj result) = true
  identity : ∀ key ∈ RESULT_MATCHES, result.get key = dispatch.get key
  completion : text result "status" = "completed" →
    (∀ criterion ∈ strings (request_of dispatch) "completionCriteria", criterion ∈ strings result "satisfiedCriteria") ∧
    (strings (request_of dispatch) "completionCriteria" ≠ [] → strings result "evidenceIds" ≠ [])
  effects : items result "externalEffects" ≠ [] →
    ((request_of dispatch).get "externalSideEffectPossible").isTrue = true

/-- The provider adds no key to its usage or to an effect, and the dispatch names a digest
    of the profile. -/
structure NothingExtra (raw_result dispatch : Dict) : Prop where
  usage : ∀ usage : Dict, Dict.get? "usage" raw_result = some (.obj usage) → ∀ key ∈ usage.keys, key ∈ USAGE_FIELDS
  effects : ∀ fields : Dict, Json.obj fields ∈ items raw_result "externalEffects" →
    ∀ key ∈ fields.keys, key ∈ EFFECT_FIELDS
  profile : isHexDigest (text dispatch "profileDigest") = true

theorem normalize_ok {answer : Json} {result : Dict}
    (ran : normalize_provider_result answer dispatch provider_result_ref = .ok result) :
    ∃ raw_result, answer = .obj raw_result ∧ blank provider_result_ref = false ∧
      result = normalized raw_result dispatch provider_result_ref ∧ Validated result dispatch := by
  unfold normalize_provider_result at ran
  simp only [bind_ok_iff,AgentAdapters.reject,reject_if_ok] at ran
  obtain ⟨_,named,ran⟩ := ran
  cases isRecord : answer.dict? with
  | none => simp [isRecord,adapter_error] at ran
  | some raw_result =>
    simp only [isRecord,bind_ok_iff,pure_ok_iff] at ran
    obtain ⟨_,valid,rfl⟩ := ran
    exact ⟨raw_result,dict?_eq_some.mp isRecord,named,rfl,validate_run_result_ok.mp valid⟩

theorem profile_conforms_iff (valid : Validated (normalized raw_result dispatch provider_result_ref) dispatch) :
    conforms .digest ((normalized raw_result dispatch provider_result_ref).get "profileDigest") = true ↔
      isHexDigest (text dispatch "profileDigest") = true := by
  obtain ⟨s,found,_⟩ := valid.texts "profileDigest" (by simp [RESULT_STRINGS])
  have copied : (normalized raw_result dispatch provider_result_ref).get "profileDigest" =
      dispatch.get "profileDigest" := by
    simp [normalized,Dict.get,Dict.get?]
  rw [get_of_get? found] at copied
  rw [get_of_get? found,conforms_digest,← text_of_get? found,text_of_get (copied ▸ get_of_get? found)]

theorem usage_closed_iff (valid : Validated (normalized raw_result dispatch provider_result_ref) dispatch) :
    conforms USAGE ((normalized raw_result dispatch provider_result_ref).get "usage") = true ↔
      ∀ usage : Dict, Dict.get? "usage" raw_result = some (.obj usage) → ∀ key ∈ usage.keys, key ∈ USAGE_FIELDS := by
  obtain ⟨usage,held,units⟩ := valid.usage
  have taken : (normalized raw_result dispatch provider_result_ref).get "usage" =
      raw_result.getOr "usage" (.obj [("inputUnits",.int 0),("outputUnits",.int 0)]) := by
    simp [normalized,Dict.get,Dict.get?]
  rw [held,usage_conforms_iff units]
  rw [held,Dict.getOr] at taken
  cases found : Dict.get? "usage" raw_result with
  | none =>
    -- the normalizer's own usage
    rw [found,Option.getD_none] at taken
    obtain rfl := Json.obj.inj taken
    simp [Dict.keys,USAGE_FIELDS]
  | some v =>
    rw [found,Option.getD_some] at taken
    subst taken
    constructor
    · intro closed other same
      rw [← Json.obj.inj (Option.some.inj same)]
      exact closed
    · intro closed
      exact closed usage rfl

theorem effects_closed_iff (valid : Validated (normalized raw_result dispatch provider_result_ref) dispatch) :
    conforms (.array EFFECT) ((normalized raw_result dispatch provider_result_ref).get "externalEffects") = true ↔
      ∀ fields : Dict, Json.obj fields ∈ items raw_result "externalEffects" →
        ∀ key ∈ fields.keys, key ∈ EFFECT_FIELDS := by
  obtain ⟨effects,held,_,each⟩ := valid.effects
  have taken : (normalized raw_result dispatch provider_result_ref).get "externalEffects" =
      raw_result.getOr "externalEffects" (.arr []) := by
    simp [normalized,Dict.get,Dict.get?]
  have same : (normalized raw_result dispatch provider_result_ref).getOr "externalEffects" (.arr []) =
      raw_result.getOr "externalEffects" (.arr []) := by
    simp [normalized,Dict.getOr,Dict.get?]
  rw [same] at held
  have listed : items raw_result "externalEffects" = effects := by
    unfold items Dict.get
    unfold Dict.getOr at held
    cases found : Dict.get? "externalEffects" raw_result with
    | none =>
      rw [found] at held
      exact Json.arr.inj held
    | some v =>
      rw [found,Option.getD_some] at held
      rw [Option.getD_some,held]
      rfl
  rw [taken,held,conforms_array,listed]
  constructor
  · intro conforming fields member
    obtain ⟨others,isRecord,texts,status⟩ := validate_effect_ok (each _ member)
    obtain rfl := Json.obj.inj isRecord
    exact (effect_conforms_iff texts status).mp (conforming _ member)
  · intro closed effect member
    obtain ⟨fields,rfl,texts,status⟩ := validate_effect_ok (each effect member)
    exact (effect_conforms_iff texts status).mpr (closed fields member)

/-- What an adapter returned, as the dict that the normalizer takes. -/
def fields_of (answer : Json) : Dict := answer.dict?.getD []

theorem normalized_closed_iff {answer : Json} {result : Dict}
    (ran : normalize_provider_result answer dispatch provider_result_ref = .ok result) :
    ClosedResult result dispatch ↔ NothingExtra (fields_of answer) dispatch := by
  obtain ⟨raw_result,rfl,named,rfl,valid⟩ := normalize_ok ran
  have fields : fields_of (.obj raw_result) = raw_result := rfl
  rw [fields]
  constructor
  · intro closed
    obtain ⟨profile,effects,usage⟩ := (validated_conforms_iff named valid).mp closed.conforming
    exact ⟨(usage_closed_iff valid).mp usage,(effects_closed_iff valid).mp effects,
      (profile_conforms_iff valid).mp profile⟩
  · intro extra
    refine ⟨(validated_conforms_iff named valid).mpr ⟨(profile_conforms_iff valid).mpr extra.profile,
      (effects_closed_iff valid).mpr extra.effects,(usage_closed_iff valid).mpr extra.usage⟩,?_,
      criteria_ok valid.criteria,?_⟩
    · intro key member
      simp only [RESULT_MATCHES,List.mem_cons,List.not_mem_nil,or_false] at member
      rcases member with rfl | rfl | rfl | rfl | rfl | rfl | rfl <;> simp [normalized,Dict.get,Dict.get?]
    · intro reported
      obtain ⟨effects,held,allowed,_⟩ := valid.effects
      apply allowed
      rintro rfl
      apply reported
      have present : (normalized raw_result dispatch provider_result_ref).get "externalEffects" = .arr [] := by
        rw [← held]
        simp [normalized,Dict.get,Dict.getOr,Dict.get?]
      unfold items
      rw [present]
      rfl

end

/-! ### A usage with a transcript in it -/

/-- Another usage with the two counts leaves a validated result validated. -/
theorem validated_usage {result dispatch usage : Dict} (valid : Validated result dispatch)
    (units : ∀ key ∈ USAGE_FIELDS, ∃ n, usage.get key = .int n ∧ 0 ≤ n) :
    Validated (result.set "usage" (.obj usage)) dispatch := by
  have found : ∀ key, "usage" ≠ key → Dict.get? key (result.set "usage" (.obj usage)) = Dict.get? key result :=
    fun key other => get?_set_ne result _ other
  have got : ∀ key, "usage" ≠ key → (result.set "usage" (.obj usage)).get key = result.get key := by
    intro key other
    rw [get_set,if_neg other]
  have texts : ∀ key, "usage" ≠ key → text (result.set "usage" (.obj usage)) key = text result key :=
    fun key other => text_of_get (got key other)
  have lists : ∀ key, "usage" ≠ key → strings (result.set "usage" (.obj usage)) key = strings result key := by
    intro key other
    unfold strings
    rw [got key other]
  have words : ∀ key ∈ RESULT_STRINGS, "usage" ≠ key := by decide
  have arrays : ∀ key ∈ RESULT_ARRAYS, "usage" ≠ key := by decide
  have copies : ∀ key ∈ RESULT_MATCHES, "usage" ≠ key := by decide
  refine ⟨valid.dispatched,?_,?_,?_,?_,⟨usage,by rw [get_set,if_pos rfl],units⟩,?_,?_,?_⟩
  · intro key member
    rw [found key (words key member)]
    exact valid.texts key member
  · rw [got "startedAt" (by decide),got "finishedAt" (by decide)]
    exact valid.times
  · rw [texts "status" (by decide)]
    exact valid.status
  · intro key member
    rw [got key (arrays key member)]
    exact valid.arrays key member
  · intro key member
    unfold check_match item
    rw [found key (copies key member)]
    exact valid.matching key member
  · unfold Dict.getOr
    rw [found "externalEffects" (by decide)]
    exact valid.effects
  · have criteria := valid.criteria
    unfold validate_criteria at criteria ⊢
    rw [texts "status" (by decide),lists "satisfiedCriteria" (by decide),lists "evidenceIds" (by decide)]
    exact criteria

def sample_answer : Dict :=
  [("startedAt",.str "2026-09-17T12:00:00Z"),("finishedAt",.str "2026-09-17T12:00:01Z"),("status",.str "completed"),
    ("summary",.str "Done."),("artifactIds",.arr []),("evidenceIds",string_list ["EVD-1"]),
    ("satisfiedCriteria",string_list ["AC-1"]),("findingIds",.arr [])]

/-- The counts, and what the provider said. -/
def talkative_usage : Dict := [("inputUnits",.int 1),("outputUnits",.int 1),("transcript",.str "raw provider output")]
def talkative_answer : Dict := sample_answer ++ [("usage",.obj talkative_usage)]

def sample_dispatch : Dict := signed_dispatch (ordinary_request 1 false) (ordinary_profile true false) "LEASE-1"

theorem sample_requested : validate_run_request (ordinary_request 1 false) = .ok () := by decide +kernel

theorem sample_completes : Completes (ordinary_request 1 false) sample_answer := by
  refine ⟨⟨63925243200000000,63925243201000000,by decide +kernel,by decide +kernel,by decide⟩,?_,rfl,?_,rfl,rfl,?_,
    by decide⟩
  · intro key member
    simp only [List.mem_cons,List.not_mem_nil,or_false] at member
    rcases member with rfl | rfl | rfl <;> exact ⟨_,rfl,by decide⟩
  · intro key member
    simp only [RESULT_ARRAYS,List.mem_cons,List.not_mem_nil,or_false] at member
    rcases member with rfl | rfl | rfl | rfl <;> exact ⟨_,rfl,by decide,by decide⟩
  · decide

theorem sample_normalized : normalize_provider_result (.obj sample_answer) sample_dispatch "provider-result:RUN-1" =
    .ok (normalized sample_answer sample_dispatch "provider-result:RUN-1") :=
  normalize_total sample_requested (ordinary_offered true false) (by decide) (by decide) sample_completes

theorem normalized_closed_iff_sample :
    ClosedResult (normalized sample_answer sample_dispatch "provider-result:RUN-1") sample_dispatch ↔
      NothingExtra (fields_of (.obj sample_answer)) sample_dispatch :=
  normalized_closed_iff sample_normalized

theorem talkative_normalized :
    normalize_provider_result (.obj talkative_answer) sample_dispatch "provider-result:RUN-1" =
      .ok (normalized talkative_answer sample_dispatch "provider-result:RUN-1") := by
  obtain ⟨raw_result,same,named,_,valid⟩ := normalize_ok sample_normalized
  obtain rfl := Json.obj.inj same
  have units : ∀ key ∈ USAGE_FIELDS, ∃ n, talkative_usage.get key = .int n ∧ 0 ≤ n := by
    intro key member
    simp only [USAGE_FIELDS,List.mem_cons,List.not_mem_nil,or_false] at member
    rcases member with rfl | rfl <;> exact ⟨1,rfl,by decide⟩
  have laid : normalized talkative_answer sample_dispatch "provider-result:RUN-1" =
      (normalized sample_answer sample_dispatch "provider-result:RUN-1").set "usage" (.obj talkative_usage) := rfl
  unfold normalize_provider_result
  simp only [Json.dict?,bind_ok_iff,pure_ok_iff,AgentAdapters.reject,reject_if_ok]
  refine ⟨(),named,(),?_,trivial⟩
  rw [laid]
  exact validate_run_result_ok.mpr (validated_usage valid units)

theorem transcript_kept :
    normalize_provider_result (.obj talkative_answer) sample_dispatch "provider-result:RUN-1" =
      .ok (normalized talkative_answer sample_dispatch "provider-result:RUN-1") ∧
    ¬ ClosedResult (normalized talkative_answer sample_dispatch "provider-result:RUN-1") sample_dispatch := by
  refine ⟨talkative_normalized,fun closed => ?_⟩
  obtain ⟨_,_,named,_,valid⟩ := normalize_ok talkative_normalized
  have extra := (usage_closed_iff valid).mp ((validated_conforms_iff named valid).mp closed.conforming).2.2
  exact absurd (extra talkative_usage rfl "transcript" (by decide)) (by decide)

end V3Aidlc.NormalizedResults
