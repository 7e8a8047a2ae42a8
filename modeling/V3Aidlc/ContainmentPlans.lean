import V3Aidlc.SecurityExposure
import V3Aidlc.Seals

/-!
Containment plans (`security.py`). The plan that is made of an assessment that contains passes its own validation,
whatever the preflight was given, and no other document with the plan's digest, and no change of the plan under
one key, passes it (`contained_plan`).
-/
namespace V3Aidlc.ContainmentPlans
open V3Aidlc.Values V3Aidlc.Loops V3Aidlc.Contracts V3Aidlc.Canonical V3Aidlc.Sha256 V3Aidlc.Documents V3Aidlc.Security
open V3Aidlc.SecurityExposure V3Aidlc.Seals

def SEVERITIES : List String := ["medium","high","critical"]

/-- The actions of a plan, in their order. -/
def containment_actions (severity : String) : List String :=
  ["revoke-run-tool-grants","revoke-run-credential-leases","isolate-network","freeze-run-workspace",
    "quarantine-run-artifacts","preserve-events-and-telemetry","open-security-finding"] ++
  (if severity = "high" ∨ severity = "critical" then ["notify-security-owner"] else []) ++
  (if severity = "critical" then ["pause-affected-project","rotate-exposed-credentials"] else [])

/-- The plan without its digest. -/
def unsigned_plan (assessment : SecurityAssessment) (incident_id project_id severity generated_at : String) : Dict :=
  [("schemaVersion",.str "0.1"),("incidentId",.str incident_id),("projectId",.str project_id),
    ("runId",.str assessment.run_id),("severity",.str severity),("generatedAt",.str generated_at),
    ("reasons",.arr (assessment.reasons.map .str)),("actions",.arr ((containment_actions severity).map .str))]

def signed (plan : Dict) : Dict := plan.set "planDigest" (.str (canonical_digest (.obj plan)))

def build_containment_plan (assessment : SecurityAssessment) (incident_id project_id severity generated_at : String) :
    Py Dict := do
  Security.reject (assessment.decision ≠ .CONTAIN) "containment plan requires a contain decision"
  Security.reject (!SEVERITIES.contains severity) "containment severity must be medium, high, or critical"
  let _ ← Security.parse_time (.str generated_at) "generatedAt"
  Security.reject (blank incident_id || blank project_id) "incident and project identities are required"
  return signed (unsigned_plan assessment incident_id project_id severity generated_at)

def PLAN_STRINGS : List String :=
  ["schemaVersion","incidentId","projectId","runId","severity","generatedAt","planDigest"]

def validate_containment_plan (plan : Dict) : Py Unit := do
  Security.required_strings plan PLAN_STRINGS
  Security.reject (!SEVERITIES.contains (text plan "severity")) "containment severity is invalid"
  let _ ← Security.parse_time (plan.get "generatedAt") "generatedAt"
  let _ ← Security.string_array (plan.get "reasons") "reasons" 1
  let _ ← Security.string_array (plan.get "actions") "actions" 1
  let supplied := text plan "planDigest"
  digest supplied "planDigest"
  Security.reject (canonical_digest (.obj (plan.without ["planDigest"])) ≠ supplied)
    "containment plan digest does not match content"

/-! ### Reasons are visible -/

theorem visible_append {s : String} (shown : visible s = true) (t : String) : visible (s ++ t) = true := by
  simp only [visible,blank,String.toList_append,List.all_append,Bool.not_eq_true',Bool.and_eq_false_iff] at shown ⊢
  exact .inl shown

theorem visible_when {condition : Bool} {reason s : String} (shown : visible reason = true)
    (member : s ∈ when_true condition reason) : visible s = true := by
  unfold when_true at member
  split_ifs at member <;> simp at member
  exact member ▸ shown

theorem visible_search {request : Dict} {key : String} {reason : Json → Py (List String)} {found : List String}
    (each : ∀ requested reasons, reason requested = .ok reasons → ∀ s ∈ reasons, visible s = true)
    (ran : collect request key reason = .ok found) : ∀ s ∈ found, visible s = true := by
  unfold collect at ran
  simp only [bind_ok_iff,pure_ok_iff] at ran
  obtain ⟨all,_,reasons,listed,rfl⟩ := ran
  intro s member
  obtain ⟨part,inside,here⟩ := List.mem_flatten.mp member
  obtain ⟨requested,_,gave⟩ := mapM_result listed inside
  exact each requested part gave s here

theorem visible_tools {request : Dict} {grants : List Dict} {now : Timestamps.Instant} {found : List String}
    (ran : tool_reasons request grants now = .ok found) : ∀ s ∈ found, visible s = true := by
  refine visible_search (fun requested reasons gave s member => ?_) ran
  unfold tool_reason at gave
  cases action : requested.dict? with
  | none => simp [action,security_error] at gave
  | some fields =>
    simp only [action,bind_ok_iff,pure_ok_iff] at gave
    obtain ⟨tool,_,operation,_,resource,_,matching,_,rfl⟩ := gave
    refine visible_when ?_ member
    iterate 5 refine visible_append ?_ _
    decide +kernel

theorem visible_credentials {request : Dict} {leases : List Dict} {now : Timestamps.Instant} {found : List String}
    (ran : credential_reasons request leases now = .ok found) : ∀ s ∈ found, visible s = true := by
  refine visible_search (fun requested reasons gave s member => ?_) ran
  unfold credential_reason at gave
  cases credential : requested.dict? with
  | none => simp [credential,security_error] at gave
  | some fields =>
    simp only [credential,bind_ok_iff,pure_ok_iff] at gave
    obtain ⟨audience,_,scopes,_,matching,_,rfl⟩ := gave
    exact visible_when (visible_append (by decide +kernel) _) member

theorem visible_map {items : List String} {opening : String} (shown : visible opening = true) {s : String}
    (member : s ∈ items.map (fun item => opening ++ item)) : visible s = true := by
  obtain ⟨item,_,rfl⟩ := List.mem_map.mp member
  exact visible_append shown item

theorem visible_dependency {request dependency : Dict} {s : String} (member : s ∈ dependency_reasons request dependency) :
    visible s = true := by
  simp only [dependency_reasons,List.mem_append] at member
  rcases member with ((status | vulnerable) | provenance) | signature
  · refine visible_when ?_ status
    iterate 3 refine visible_append ?_ _
    decide +kernel
  · exact visible_when (visible_append (by decide +kernel) _) vulnerable
  · exact visible_when (visible_append (by decide +kernel) _) provenance
  · exact visible_when (visible_append (by decide +kernel) _) signature

theorem visible_blocked {request sandbox : Dict} {contents grants leases dependencies : List Dict}
    {tools credentials hosts : List String} (shown_tools : ∀ s ∈ tools, visible s = true)
    (shown_credentials : ∀ s ∈ credentials, visible s = true) :
    ∀ s ∈ blocked_reasons request contents grants leases dependencies sandbox tools credentials hosts,
      visible s = true := by
  intro s member
  simp only [blocked_reasons,secret_reasons,isolation_reasons,List.mem_append] at member
  rcases member with
    ((((((unsealed | tool) | credential) | host) | granted) | (brokered | direct)) | dependency) | (telemetry | isolated)
  · exact visible_when (by decide +kernel) unsealed
  · exact shown_tools s tool
  · exact shown_credentials s credential
  · unfold sandbox_host_reasons at host
    split_ifs at host
    · rw [List.mem_singleton.mp host]
      decide +kernel
    · exact visible_map (by decide +kernel) host
  · exact visible_map (by decide +kernel) granted
  · exact visible_when (by decide +kernel) brokered
  · exact visible_when (by decide +kernel) direct
  · obtain ⟨one,_,here⟩ := List.mem_flatMap.mp dependency
    exact visible_dependency here
  · exact visible_when (by decide +kernel) telemetry
  · exact visible_when (by decide +kernel) isolated

theorem visible_review {contents dependencies : List Dict} : ∀ s ∈ review_reasons contents dependencies, visible s = true := by
  intro s member
  rcases List.mem_append.mp member with injected | unknown
  · exact visible_when (by decide +kernel) injected
  · obtain ⟨one,_,here⟩ := List.mem_flatMap.mp unknown
    exact visible_when (visible_append (by decide +kernel) _) here

/-- The reasons of an assessment that contains. -/
structure Reported (inputs : Inputs) (assessment : SecurityAssessment) : Prop where
  run : assessment.run_id = text inputs.request "runId" ∧ blank assessment.run_id = false
  shown : ∀ s ∈ assessment.reasons, visible s = true
  distinct : assessment.reasons.Nodup
  some : assessment.decision = .CONTAIN → assessment.reasons ≠ []

theorem reported {inputs : Inputs} {assessment : SecurityAssessment} (ran : inputs.assess = .ok assessment) :
    Reported inputs assessment := by
  unfold Inputs.assess assess_security at ran
  simp only [bind_ok_iff,pure_ok_iff,forM_ok_iff] at ran
  obtain ⟨_,requested,now,timed,_,_,_,_,_,contents,_,grants,_,_,_,_,tools,toolsRan,credentials,credentialsRan,hosts,
    asked,rfl⟩ := ran
  have blocked : ∀ s ∈ blocked_reasons inputs.request inputs.contents inputs.tool_grants inputs.credential_leases
      inputs.dependencies inputs.sandbox tools credentials hosts, visible s = true :=
    visible_blocked (visible_tools toolsRan) (visible_credentials credentialsRan)
  have contained : ∀ s ∈ contain_reasons inputs.contents, visible s = true :=
    fun s member => visible_map (by decide +kernel) member
  have review : ∀ s ∈ review_reasons inputs.contents inputs.dependencies, visible s = true := visible_review
  refine ⟨⟨rfl,?_⟩,?_,nodup_distinct _,?_⟩
  · obtain ⟨_,strings,_⟩ := bind_ok_iff.mp requested
    obtain ⟨s,held,filled⟩ := (required_strings_ok .SecurityError).mp strings "runId" (by simp)
    rw [text_of_get? held]
    exact filled
  · intro s member
    have inside := mem_distinct.mp member
    unfold verdict at inside
    split_ifs at inside <;> simp only [List.mem_append,List.mem_singleton] at inside
    · rcases inside with (here | here) | here
      · exact contained s here
      · exact blocked s here
      · exact review s here
    · rcases inside with here | here
      · exact blocked s here
      · exact review s here
    · exact review s inside
    · rw [inside]
      decide +kernel
    · rw [inside]
      decide +kernel
  · intro decided none
    have empty : ∀ s, s ∉ (verdict (contain_reasons inputs.contents) _ _ _).2 := fun s member =>
      List.ne_nil_of_mem (mem_distinct.mpr member) none
    unfold verdict at decided empty
    split_ifs at decided empty with present
    obtain ⟨reason,rest,held⟩ := List.exists_cons_of_ne_nil (by simpa using present : contain_reasons inputs.contents ≠ [])
    exact empty reason (by simp [held])

/-! ### Plans -/

/-- A timestamp begins with a digit. -/
theorem instant_visible {s : String} {t : Timestamps.Instant} (read : instant? s = some t) : blank s = false := by
  cases chars : s.toList with
  | nil =>
    have none : instant? s = none := by
      unfold instant? zuluReplaced
      rw [chars]
      rfl
    rw [none] at read
    cases read
  | cons c rest =>
    by_contra empty
    have space : isSpace c = true := by
      have all : (c :: rest).all isSpace = true := by simpa [blank,chars] using empty
      simpa using (List.all_eq_true.mp all) c (by simp)
    have other : c ≠ 'Z' := by
      rintro rfl
      exact absurd space (by decide)
    have digit : Timestamps.digit? c = none := by
      unfold Timestamps.digit?
      refine if_neg fun bounds => ?_
      have low : 48 ≤ c.toNat := bounds.1
      have high : c.toNat ≤ 57 := bounds.2
      simp only [isSpace,decide_eq_true_eq] at space
      omega
    obtain ⟨tail,opens⟩ : ∃ tail, zuluReplaced s = c :: tail := ⟨_,by simp [zuluReplaced,chars,other]; rfl⟩
    have dateless : ∀ n, Timestamps.date? ((c :: tail).take n) = none := by
      intro n
      cases n with
      | zero => rfl
      | succ n => simp [Timestamps.date?,Timestamps.number,Timestamps.digits,digit]
    have none : Timestamps.fromisoformat (zuluReplaced s) = none := by
      rw [opens]
      unfold Timestamps.fromisoformat
      split_ifs
      · rfl
      · simp only [dateless]
        rfl
    rw [instant?,none] at read
    cases read

/-- What the validation of a plan says: its texts, its arrays and its seal. -/
theorem validate_containment_plan_ok {plan : Dict} : validate_containment_plan plan = .ok () ↔
    (∀ key ∈ PLAN_STRINGS, ∃ s, Dict.get? key plan = some (.str s) ∧ blank s = false) ∧
    text plan "severity" ∈ SEVERITIES ∧ (∃ t, Security.parse_time (plan.get "generatedAt") "generatedAt" = .ok t) ∧
    (∃ reasons, Security.string_array (plan.get "reasons") "reasons" 1 = .ok reasons) ∧
    (∃ actions, Security.string_array (plan.get "actions") "actions" 1 = .ok actions) ∧
    isHexDigest (text plan "planDigest") = true ∧ sha256 (content "planDigest" plan) = text plan "planDigest" := by
  unfold validate_containment_plan
  simp only [bind_ok_iff,Security.required_strings,required_strings_ok,Security.reject,digest,reject_if_ok,
    Bool.not_eq_false',List.contains_iff_mem,decide_eq_false_iff_not,not_not]
  constructor
  · rintro ⟨_,strings,_,severity,t,timed,reasons,given,actions,listed,_,hex,same⟩
    exact ⟨strings,severity,⟨t,timed⟩,⟨reasons,given⟩,⟨actions,listed⟩,hex,same⟩
  · rintro ⟨strings,severity,⟨t,timed⟩,⟨reasons,given⟩,⟨actions,listed⟩,hex,same⟩
    exact ⟨(),strings,(),severity,t,timed,reasons,given,actions,listed,(),hex,same⟩

theorem validated_seal {plan : Dict} (valid : validate_containment_plan plan = .ok ()) : Sealed "planDigest" plan := by
  obtain ⟨strings,_,_,_,_,_,same⟩ := validate_containment_plan_ok.mp valid
  obtain ⟨s,held,_⟩ := strings "planDigest" (by simp [PLAN_STRINGS])
  rw [text_of_get? held] at same
  rw [Sealed,held,same]

section
variable (assessment : SecurityAssessment) (incident_id project_id severity generated_at : String)

theorem signed_content : content "planDigest"
    (signed (unsigned_plan assessment incident_id project_id severity generated_at)) =
      canonicalText (.obj (unsigned_plan assessment incident_id project_id severity generated_at)) := by
  simp [content,signed,unsigned_plan,Dict.set,Dict.without]

theorem signed_document : Document (.obj (signed (unsigned_plan assessment incident_id project_id severity generated_at))) := by
  have texts : ∀ items : List String, Document (.arr (items.map .str)) := by
    intro items
    refine ⟨properItems_iff.mpr ?_,doublesItems_iff.mpr ?_⟩ <;> simp [Json.proper,doubles]
  refine document_set (document_obj.mpr ⟨by simp [unsigned_plan,Dict.keys],fun kv member => ?_⟩) _ (document_str _)
  simp only [unsigned_plan,List.mem_cons,List.not_mem_nil,or_false] at member
  rcases member with rfl | rfl | rfl | rfl | rfl | rfl | rfl | rfl
  all_goals first | exact document_str _ | exact texts _

end

/-- When a plan is made, and which. -/
theorem build_containment_plan_ok {assessment : SecurityAssessment} {incident_id project_id severity generated_at : String}
    {plan : Dict} : build_containment_plan assessment incident_id project_id severity generated_at = .ok plan ↔
      (assessment.decision = .CONTAIN ∧ severity ∈ SEVERITIES ∧ (∃ t, instant? generated_at = some t) ∧
        blank incident_id = false ∧ blank project_id = false) ∧
      plan = signed (unsigned_plan assessment incident_id project_id severity generated_at) := by
  have timed : ∀ t, Security.parse_time (.str generated_at) "generatedAt" = .ok t ↔ instant? generated_at = some t :=
    fun t => parse_timestamp_ok .SecurityError
  unfold build_containment_plan
  simp only [bind_ok_iff,pure_ok_iff,Security.reject,reject_if_ok,timed,decide_eq_false_iff_not,not_not,
    Bool.not_eq_false',List.contains_iff_mem,Bool.or_eq_false_iff]
  constructor
  · rintro ⟨_,contains,_,known,t,read,_,⟨incident,project⟩,rfl⟩
    exact ⟨⟨contains,known,⟨t,read⟩,incident,project⟩,rfl⟩
  · rintro ⟨⟨contains,known,⟨t,read⟩,incident,project⟩,rfl⟩
    exact ⟨(),contains,(),known,t,read,(),⟨incident,project⟩,rfl⟩

theorem actions_listed (severity : String) :
    (∀ s ∈ containment_actions severity, visible s = true) ∧ 1 ≤ (containment_actions severity).length ∧
      (containment_actions severity).Nodup := by
  unfold containment_actions
  by_cases high : severity = "high"
  · rw [high]
    decide +kernel
  · by_cases critical : severity = "critical"
    · rw [critical]
      decide +kernel
    · simp only [high,critical,or_self,if_false]
      decide +kernel

/-- A plan of a preflight that contains is made for every incident, passes its own validation, and stands for itself:
    no other document with its digest and no change under one key passes. -/
theorem contained_plan {inputs : Inputs} {assessment : SecurityAssessment}
    {incident_id project_id severity generated_at : String} {plan : Dict} (assessed : inputs.assess = .ok assessment)
    (built : build_containment_plan assessment incident_id project_id severity generated_at = .ok plan) :
    validate_containment_plan plan = .ok () ∧ text plan "runId" = text inputs.request "runId" ∧
      ∀ other changed, Document (.obj other) → validate_containment_plan other = .ok () → Apart "planDigest" plan other →
        (text other "planDigest" = text plan "planDigest" ∨
          ∀ key, key ≠ changed → Dict.get? key other = Dict.get? key plan) →
        same (.obj plan) (.obj other) = true := by
  obtain ⟨⟨contains,known,⟨t,read⟩,incident,project⟩,rfl⟩ := build_containment_plan_ok.mp built
  obtain ⟨⟨run,run_filled⟩,shown,distinct,some_reason⟩ := reported assessed
  have long : 1 ≤ assessment.reasons.length := List.length_pos_iff.mpr (some_reason contains)
  have severe : blank severity = false := by
    simp only [SEVERITIES,List.mem_cons,List.not_mem_nil,or_false] at known
    rcases known with rfl | rfl | rfl <;> decide +kernel
  have valid : validate_containment_plan
      (signed (unsigned_plan assessment incident_id project_id severity generated_at)) = .ok () := by
    refine validate_containment_plan_ok.mpr ⟨?_,?_,⟨t,?_⟩,⟨assessment.reasons,?_⟩,⟨containment_actions severity,?_⟩,?_,?_⟩
    · intro key member
      have schema : blank "0.1" = false := by decide +kernel
      have sealed_text := hex_filled (sha256_hex
        (canonicalText (.obj (unsigned_plan assessment incident_id project_id severity generated_at))))
      simp only [PLAN_STRINGS,List.mem_cons,List.not_mem_nil,or_false] at member
      rcases member with rfl | rfl | rfl | rfl | rfl | rfl | rfl
      · exact ⟨_,rfl,schema⟩
      · exact ⟨_,rfl,incident⟩
      · exact ⟨_,rfl,project⟩
      · exact ⟨_,rfl,run_filled⟩
      · exact ⟨_,rfl,severe⟩
      · exact ⟨_,rfl,instant_visible read⟩
      · exact ⟨_,rfl,sealed_text⟩
    · exact known
    · exact (parse_timestamp_ok .SecurityError).mpr read
    · exact (string_array_ok .SecurityError).mpr ⟨strings?_eq_some.mpr rfl,shown,long,distinct⟩
    · exact (string_array_ok .SecurityError).mpr ⟨strings?_eq_some.mpr rfl,actions_listed severity⟩
    · exact sha256_hex _
    · rw [signed_content]
      rfl
  refine ⟨valid,run,fun other changed document valid' free agree => ?_⟩
  have mine := validated_seal valid
  have theirs := validated_seal valid'
  rcases agree with digests | fields
  · refine sealed_same (signed_document ..) document mine theirs free ?_
    rw [mine,theirs,← text_of_get? mine,← text_of_get? theirs,digests]
  · exact sealed_apart (signed_document ..) document mine theirs free fields

/-- A run with retrieved content that signals an exfiltration. -/
def exfiltrating : Inputs where
  request := SecurityAssessments.sample_request [] []
  contents := [SecurityAssessments.sample_texts [("id","C-1"),("source","web"),
      ("digest","0000000000000000000000000000000000000000000000000000000000000000"),("trustLevel","untrusted"),
      ("scannedAt","2026-09-17T11:00:00Z")] ++
    [("activeContent",.bool false),("containsInstructions",.bool true),("usedAsAuthority",.bool false),
      ("signals",SecurityAssessments.sample_strings ["data_exfiltration"])]]
  tool_grants := []
  credential_leases := []
  dependencies := []
  sandbox := SecurityAssessments.sample_sandbox
  now := SecurityAssessments.sample_now

theorem contained_plan_exfiltrating : ∃ assessment plan, exfiltrating.assess = .ok assessment ∧
    build_containment_plan assessment "INC-1" "PRJ-1" "critical" SecurityAssessments.sample_now = .ok plan ∧
    validate_containment_plan plan = .ok () := by
  obtain ⟨assessment,assessed,contains⟩ := returns_with
    (by decide +kernel : exfiltrating.assess.toOption.any (fun assessment => assessment.decision = .CONTAIN) = true)
  have built := build_containment_plan_ok.mpr
    ⟨⟨of_decide_eq_true contains,(by decide : "critical" ∈ SEVERITIES),
      ⟨SecurityAssessments.sample_instant,(by decide +kernel : instant? SecurityAssessments.sample_now = some _)⟩,
      (by decide +kernel : blank "INC-1" = false),(by decide +kernel : blank "PRJ-1" = false)⟩,rfl⟩
  exact ⟨assessment,_,assessed,built,(contained_plan assessed built).1⟩

end V3Aidlc.ContainmentPlans
