import V3Aidlc.Security
import V3Aidlc.Permissions

/-!
What a preflight that lets a run proceed guarantees. A run proceeds exactly when nothing
contains or blocks it (`proceeds_iff`), so each host it asks for is in the allowlist of
the sandbox and listed by a grant, and each action and credential has a grant or lease
that applies to the run (`cleared`). Whether the grant of a host applies is not looked
at, nor whether a grant or lease was issued yet (`hosts_granted_iff`, `requests_supported`).
-/
namespace V3Aidlc.SecurityAssessments
open V3Aidlc.Values V3Aidlc.Loops V3Aidlc.Timestamps V3Aidlc.Contracts V3Aidlc.Canonical V3Aidlc.Security
open V3Aidlc.Permissions

/-! ### What a run may rest on -/

/-- The grant or lease is one of the run, not revoked and not expired. -/
structure Applies (request : Dict) (now : Instant) (permission : Dict) : Prop where
  run : text permission "runId" = text request "runId"
  unrevoked : permission.get "revoked" = .bool false
  unexpired : ∃ expires, parse_time (permission.get "expiresAt") "expiresAt" = .ok expires ∧ now ≤ expires

/-- It was issued by now. -/
def Issued (now : Instant) (permission : Dict) : Prop :=
  ∃ issued, parse_time (permission.get "issuedAt") "issuedAt" = .ok issued ∧ issued ≤ now

/-- It was issued before it expires. -/
def Dated (permission : Dict) : Prop :=
  ∃ issued expires, parse_time (permission.get "issuedAt") "issuedAt" = .ok issued ∧
    parse_time (permission.get "expiresAt") "expiresAt" = .ok expires ∧ issued < expires

structure GrantFits (grant action : Dict) : Prop where
  tool : text grant "tool" = text action "tool"
  operation : text action "operation" ∈ strings grant "operations"
  resource : text action "resource" ∈ strings grant "resources"

structure LeaseFits (lease credential : Dict) : Prop where
  audience : text lease "audience" = text credential "audience"
  scopes : ∀ scope ∈ strings credential "scopes", scope ∈ strings lease "scopes"

/-- What is requested is a record that the permission fits, and the permission applies. -/
def Serves (fits : Dict → Dict → Prop) (request : Dict) (now : Instant) (permission : Dict) (requested : Json) : Prop :=
  ∃ record, requested = .obj record ∧ fits permission record ∧ Applies request now permission

def Lists (grant : Dict) (host : String) : Prop := host ∈ strings grant "networkHosts"

/-- The run may go on, if only in isolation or after a review. -/
def Proceeds (assessment : SecurityAssessment) : Prop :=
  assessment.decision ≠ .BLOCK ∧ assessment.decision ≠ .CONTAIN

/-! ### Inputs -/

theorem parse_time_ok {value : Json} {key : String} {t : Instant} :
    Security.parse_time value key = .ok t ↔ ∃ s, value = .str s ∧ instant? s = some t := by
  cases value <;> simp [Security.parse_time,security_error,parse_timestamp_ok]

theorem check_bool_ok {value : Dict} {key : String} {u : Unit} :
    check_bool value key = .ok u ↔ ∃ b, value.get key = .bool b := by
  unfold check_bool Security.reject
  rw [reject_if_ok]
  cases value.get key <;> simp [Json.isBool,Json.bool?]

/-- The strings of an array field, or none where the field is missing. -/
theorem string_array_getOr {d : Dict} {key : String} {minimum : Nat} {items : List String}
    (ran : Security.string_array (d.getOr key (.arr [])) key minimum = .ok items) : items = strings d key := by
  obtain ⟨held,_⟩ := (string_array_ok _).mp ran
  unfold Dict.getOr at held
  unfold strings Dict.get
  cases found : Dict.get? key d with
  | none =>
    rw [found] at held
    exact (Option.some.inj held).symm
  | some value =>
    rw [found,Option.getD_some] at held
    rw [Option.getD_some,held,Option.getD_some]

theorem validate_tool_grant_ok {grant : Dict} (valid : validate_tool_grant grant = .ok ()) :
    Dated grant ∧ ∃ b, grant.get "revoked" = .bool b := by
  unfold validate_tool_grant at valid
  simp only [bind_ok_iff,check_bool_ok,Security.reject,reject_if_ok,decide_eq_false_iff_not,not_le] at valid
  obtain ⟨_,_,_,_,_,_,_,_,issued,from_,expires,until_,_,ordered,revoked⟩ := valid
  exact ⟨⟨issued,expires,from_,until_,ordered⟩,revoked⟩

theorem validate_credential_lease_ok {lease : Dict} (valid : validate_credential_lease lease = .ok ()) :
    Dated lease ∧ ∃ b, lease.get "revoked" = .bool b := by
  unfold validate_credential_lease at valid
  simp only [bind_ok_iff,forM_ok_iff,check_bool_ok,Security.reject,reject_if_ok,decide_eq_false_iff_not,not_le]
    at valid
  obtain ⟨_,_,_,_,_,_,issued,from_,expires,until_,_,ordered,flags⟩ := valid
  exact ⟨⟨issued,expires,from_,until_,ordered⟩,flags "revoked" (by simp)⟩

/-! ### The searches -/

theorem when_true_nil {condition : Bool} {reason : String} : when_true condition reason = [] ↔ condition = false := by
  cases condition <;> simp [when_true]

theorem live_ok {now : Instant} {permission : Dict} (revocable : ∃ b, permission.get "revoked" = .bool b) :
    live now permission = .ok true ↔ permission.get "revoked" = .bool false ∧
      ∃ expires, Security.parse_time (permission.get "expiresAt") "expiresAt" = .ok expires ∧ now ≤ expires := by
  obtain ⟨revoked,held⟩ := revocable
  cases revoked <;> simp [live,flag,held,Json.isTrue,Json.bool?]

/-- Both searches test what a permission is for before they test whether it applies. -/
theorem matches_ok {request permission : Dict} {now : Instant} {fits : Prop} [Decidable fits]
    (revocable : ∃ b, permission.get "revoked" = .bool b) :
    (if text permission "runId" = text request "runId" ∧ fits then live now permission else return false) = .ok true ↔
      fits ∧ Applies request now permission := by
  by_cases tested : text permission "runId" = text request "runId" ∧ fits
  · rw [if_pos tested,live_ok revocable]
    constructor
    · rintro ⟨unrevoked,unexpired⟩
      exact ⟨tested.2,tested.1,unrevoked,unexpired⟩
    · rintro ⟨_,applies⟩
      exact ⟨applies.unrevoked,applies.unexpired⟩
  · rw [if_neg tested]
    constructor
    · intro returned
      cases pure_ok_iff.mp returned
    · rintro ⟨fit,applies⟩
      exact absurd ⟨applies.run,fit⟩ tested

/-- A search that found something found a permission that matches. -/
theorem search_found {permissions : List Dict} {test : Dict → Py Bool} {found : List Dict} {reason : String}
    (ran : permissions.filterM test = .ok found) (quiet : when_true found.isEmpty reason = []) :
    ∃ permission ∈ permissions, test permission = .ok true := by
  cases found with
  | nil => simp [when_true] at quiet
  | cons first rest => exact ⟨first,(filterM_mem ran).mp (by simp)⟩

theorem text_required {d : Dict} {key s : String} (ran : Security.required_string d key = .ok s) :
    text d key = s :=
  text_of_get? ((required_string_ok _).mp ran).1

section
variable {request : Dict} {now : Instant} {requested : Json}

theorem tool_reason_nil {grants : List Dict} (valid : ∀ grant ∈ grants, validate_tool_grant grant = .ok ())
    (quiet : tool_reason request grants now requested = .ok []) :
    ∃ grant ∈ grants, Serves GrantFits request now grant requested := by
  unfold tool_reason at quiet
  cases isRecord : requested.dict? with
  | none => simp [isRecord,security_error] at quiet
  | some action =>
    simp only [isRecord,bind_ok_iff,pure_ok_iff] at quiet
    obtain ⟨tool,named,operation,operated,resource,located,found,searched,none⟩ := quiet
    obtain ⟨grant,member,passed⟩ := search_found searched none
    obtain ⟨⟨sameTool,inOperations,inResources⟩,applies⟩ :=
      (matches_ok (validate_tool_grant_ok (valid grant member)).2).mp passed
    rw [← text_required named] at sameTool
    rw [← text_required operated] at inOperations
    rw [← text_required located] at inResources
    exact ⟨grant,member,action,dict?_eq_some.mp isRecord,⟨sameTool,inOperations,inResources⟩,applies⟩

theorem credential_reason_nil {leases : List Dict} (valid : ∀ lease ∈ leases, validate_credential_lease lease = .ok ())
    (quiet : credential_reason request leases now requested = .ok []) :
    ∃ lease ∈ leases, Serves LeaseFits request now lease requested := by
  unfold credential_reason at quiet
  cases isRecord : requested.dict? with
  | none => simp [isRecord,security_error] at quiet
  | some credential =>
    simp only [isRecord,bind_ok_iff,pure_ok_iff] at quiet
    obtain ⟨audience,named,scopes,listed,found,searched,none⟩ := quiet
    obtain ⟨lease,member,passed⟩ := search_found searched none
    obtain ⟨⟨sameAudience,inScopes⟩,applies⟩ :=
      (matches_ok (validate_credential_lease_ok (valid lease member)).2).mp passed
    have asked : strings credential "scopes" = scopes := by
      unfold strings
      rw [((string_array_ok _).mp listed).1,Option.getD_some]
    rw [← text_required named] at sameAudience
    rw [← asked] at inScopes
    exact ⟨lease,member,credential,dict?_eq_some.mp isRecord,⟨sameAudience,inScopes⟩,applies⟩

/-- A loop without a reason had none about any element of the array it goes through. -/
theorem collect_nil {key : String} {reason : Json → Py (List String)} (quiet : collect request key reason = .ok [])
    (asked : requested ∈ items request key) : reason requested = .ok [] := by
  unfold collect at quiet
  simp only [bind_ok_iff,pure_ok_iff,iterate_ok] at quiet
  obtain ⟨all,iterated,reasons,ran,none⟩ := quiet
  have held : request.get key = .arr (items request key) := by
    unfold items at asked ⊢
    cases stored : request.get key <;> simp [stored,Json.list?] at asked ⊢
  have same : all = items request key := by
    have found := get?_of_get held (by simp)
    rw [Dict.getOr,found,Option.getD_some] at iterated
    exact (Option.some.inj iterated).symm
  rw [← same] at asked
  obtain ⟨found,listed,gave⟩ := forall₂_left (mapM_ok_iff.mp ran) _ asked
  rw [gave,List.flatten_eq_nil_iff.mp none found listed]

end

/-! ### The hosts -/

theorem outside_nil {hosts allowed : List String} : outside hosts allowed = [] ↔ ∀ host ∈ hosts, host ∈ allowed := by
  unfold outside
  rw [sorted_nil,List.filter_eq_nil_iff]
  simp only [Bool.not_eq_true',Bool.not_eq_false,List.contains_eq_mem,decide_eq_true_eq]

theorem granted_host_reasons_nil {hosts : List String} {grants : List Dict} :
    granted_host_reasons hosts grants = [] ↔ Covered grants Lists hosts := by
  unfold granted_host_reasons granted_hosts Covered Lists
  rw [List.map_eq_nil_iff,outside_nil]
  simp only [List.mem_flatMap]

/-- A deny-all sandbox is left alone only by a run that asks for no host at all. -/
theorem sandbox_host_reasons_nil {hosts : List String} {sandbox : Dict}
    (quiet : sandbox_host_reasons hosts sandbox = []) : ∀ host ∈ hosts, host ∈ strings sandbox "networkHosts" := by
  unfold sandbox_host_reasons at quiet
  split at quiet
  · cases quiet
  · exact outside_nil.mp (List.map_eq_nil_iff.mp quiet)

/-! ### The decision -/

theorem proceeds_iff {contain blocked review : List String} {untrusted_input : Bool} :
    ((verdict contain blocked review untrusted_input).1 ≠ .BLOCK ∧
      (verdict contain blocked review untrusted_input).1 ≠ .CONTAIN) ↔ contain = [] ∧ blocked = [] := by
  unfold verdict
  cases contain with
  | cons reason rest => simp
  | nil =>
    cases blocked with
    | cons reason rest => simp
    | nil => cases review <;> cases untrusted_input <;> simp

section
variable {request : Dict} {contents tool_grants credential_leases dependencies : List Dict} {sandbox : Dict}
  {now : String} {assessment : SecurityAssessment} {current_time : Instant}

/-- What is known of the inputs of a preflight that let the run proceed. -/
structure Cleared (request : Dict) (tool_grants credential_leases : List Dict) (sandbox : Dict)
    (current_time : Instant) : Prop where
  allowed : ∀ host ∈ strings request "requestedNetworkHosts", host ∈ strings sandbox "networkHosts"
  listed : Covered tool_grants Lists (strings request "requestedNetworkHosts")
  granted : Covered tool_grants (Serves GrantFits request current_time) (items request "requestedToolActions")
  leased : Covered credential_leases (Serves LeaseFits request current_time) (items request "requestedCredentials")
  grants_dated : ∀ grant ∈ tool_grants, Dated grant
  leases_dated : ∀ lease ∈ credential_leases, Dated lease

theorem cleared
    (assessed : assess_security request contents tool_grants credential_leases dependencies sandbox now =
      .ok assessment)
    (proceeds : Proceeds assessment) (timed : Security.parse_time (.str now) "now" = .ok current_time) :
    Cleared request tool_grants credential_leases sandbox current_time := by
  unfold assess_security at assessed
  simp only [bind_ok_iff,pure_ok_iff,forM_ok_iff] at assessed
  obtain ⟨_,_,current,atTime,_,_,_,_,_,_,_,grantsValid,_,leasesValid,_,_,tools,toolsRan,credentials,credentialsRan,
    hosts,asked,rfl⟩ := assessed
  obtain rfl : current = current_time := Except.ok.inj (atTime.symm.trans timed)
  obtain rfl := string_array_getOr asked
  have quiet := (proceeds_iff.mp proceeds).2
  unfold blocked_reasons at quiet
  simp only [List.append_eq_nil_iff] at quiet
  obtain ⟨⟨⟨⟨⟨⟨⟨_,rfl⟩,rfl⟩,inSandbox⟩,byGrant⟩,_⟩,_⟩,_⟩ := quiet
  refine ⟨sandbox_host_reasons_nil inSandbox,granted_host_reasons_nil.mp byGrant,?_,?_,?_,?_⟩
  · intro action asked
    exact tool_reason_nil grantsValid (collect_nil toolsRan asked)
  · intro credential asked
    exact credential_reason_nil leasesValid (collect_nil credentialsRan asked)
  · intro grant member
    exact (validate_tool_grant_ok (grantsValid grant member)).1
  · intro lease member
    exact (validate_credential_lease_ok (leasesValid lease member)).1

/-! ### Hosts -/

/-- Each host that is asked for is in the allowlist of the sandbox, and a grant that
    applies to the run lists it. -/
def HostsGranted (request : Dict) (tool_grants : List Dict) (sandbox : Dict) (now : Instant) : Prop :=
  ∀ host ∈ strings request "requestedNetworkHosts", host ∈ strings sandbox "networkHosts" ∧
    ∃ grant ∈ tool_grants, Applies request now grant ∧ Lists grant host

/-- No host that is asked for is listed only by grants that do not apply to the run. -/
def NoBorrowedHost (request : Dict) (tool_grants : List Dict) (now : Instant) : Prop :=
  ∀ host ∈ strings request "requestedNetworkHosts",
    ¬ Stretched tool_grants Lists (fun grant host => Applies request now grant ∧ Lists grant host) host

theorem hosts_granted_iff
    (assessed : assess_security request contents tool_grants credential_leases dependencies sandbox now =
      .ok assessment)
    (proceeds : Proceeds assessment) (timed : Security.parse_time (.str now) "now" = .ok current_time) :
    HostsGranted request tool_grants sandbox current_time ↔ NoBorrowedHost request tool_grants current_time := by
  have known := cleared assessed proceeds timed
  unfold NoBorrowedHost
  rw [← covered_narrow_iff known.listed]
  constructor
  · intro granted host asked
    exact (granted host asked).2
  · intro covered host asked
    exact ⟨known.allowed host asked,covered host asked⟩

def sample_texts (fields : List (String × String)) : Dict := fields.map (fun field => (field.1,.str field.2))
def sample_strings (items : List String) : Json := .arr (items.map Json.str)
def sample_now : String := "2026-09-17T12:00:00Z"
/-- The instant that the sample time denotes. -/
def sample_instant : Instant := 63925243200000000

/-- A run that asks for actions and hosts. -/
def sample_request (actions : List Json) (hosts : List String) : Dict :=
  sample_texts [("runId","RUN-1"),("projectId","PRJ-1"),("riskTier","moderate"),("minimumProvenance","L1")] ++
  [("executesRetrievedContent",.bool false),("externalSideEffectPossible",.bool false),
    ("requestedToolActions",.arr actions),("requestedCredentials",.arr []),
    ("requestedNetworkHosts",sample_strings hosts)]

/-- A grant of a run to write to the workspace and reach one host, issued at a time. -/
def sample_grant (run_id issued : String) : Dict :=
  sample_texts [("grantId","GRANT-1"),("runId",run_id),("tool","filesystem"),("issuedAt",issued),
    ("expiresAt","2026-09-17T13:00:00Z"),("grantedBy","project-lead")] ++
  [("operations",sample_strings ["read","write"]),("resources",sample_strings ["workspace:src"]),
    ("networkHosts",sample_strings ["api.example.com"]),("revoked",.bool false)]

def own_grant : Dict := sample_grant "RUN-1" "2026-09-17T11:00:00Z"
def foreign_grant : Dict := sample_grant "RUN-2" "2026-09-17T11:00:00Z"
def premature_grant : Dict := sample_grant "RUN-1" "2026-09-17T12:30:00Z"

def sample_sandbox : Dict :=
  sample_texts [("sandboxId","SANDBOX-1"),("runId","RUN-1"),("workspaceAccess","scoped_write"),
    ("networkPolicy","allowlist"),("secretAccess","none")] ++
  [("ephemeral",.bool true),("processIsolation",.bool true),("cleanupOnExit",.bool true),("telemetry",.bool true),
    ("networkHosts",sample_strings ["api.example.com"])]

theorem sample_timed : Security.parse_time (.str sample_now) "now" = .ok sample_instant :=
  parse_time_ok.mpr ⟨sample_now,rfl,by decide +kernel⟩

/-- The preflight of the sample run with one grant. -/
def sample_assessment (actions : List Json) (hosts : List String) (grant : Dict) : Py SecurityAssessment :=
  assess_security (sample_request actions hosts) [] [grant] [] [] sample_sandbox sample_now

theorem sample_proceeds {actions : List Json} {hosts : List String} {grant : Dict}
    (allows : (sample_assessment actions hosts grant).toOption.any (fun assessment => assessment.decision = .ALLOW) =
      true) : ∃ assessment, sample_assessment actions hosts grant = .ok assessment ∧ Proceeds assessment := by
  obtain ⟨assessment,assessed,allowed⟩ := returns_with allows
  have decision : assessment.decision = .ALLOW := of_decide_eq_true allowed
  exact ⟨assessment,assessed,by simp [decision],by simp [decision]⟩

/-- The host is listed by a grant of the run itself. -/
theorem hosts_granted_iff_own :
    HostsGranted (sample_request [] ["api.example.com"]) [own_grant] sample_sandbox sample_instant ↔
      NoBorrowedHost (sample_request [] ["api.example.com"]) [own_grant] sample_instant := by
  obtain ⟨assessment,assessed,proceeds⟩ :=
    sample_proceeds (by decide +kernel : (sample_assessment [] ["api.example.com"] own_grant).toOption.any _ = true)
  exact hosts_granted_iff assessed proceeds sample_timed

/-- The only grant that lists the host is one of another run, and the run proceeds. -/
theorem foreign_host_allowed : ∃ assessment,
    sample_assessment [] ["api.example.com"] foreign_grant = .ok assessment ∧ Proceeds assessment ∧
    Security.parse_time (.str sample_now) "now" = .ok sample_instant ∧
    ¬ HostsGranted (sample_request [] ["api.example.com"]) [foreign_grant] sample_sandbox sample_instant := by
  obtain ⟨assessment,assessed,proceeds⟩ := sample_proceeds
    (by decide +kernel : (sample_assessment [] ["api.example.com"] foreign_grant).toOption.any _ = true)
  refine ⟨assessment,assessed,proceeds,sample_timed,fun granted => ?_⟩
  obtain ⟨_,grant,member,applies,_⟩ := granted "api.example.com" (by decide)
  rw [List.mem_singleton.mp member] at applies
  exact absurd applies.run (by decide)

/-! ### Actions and credentials -/

/-- Each action and credential that is asked for has a grant or lease that fits it,
    applies to the run and passes the test. -/
def Supported (request : Dict) (tool_grants credential_leases : List Dict) (now : Instant) (passes : Dict → Prop) :
    Prop :=
  (∀ action ∈ items request "requestedToolActions", ∃ grant ∈ tool_grants,
    Serves GrantFits request now grant action ∧ passes grant) ∧
  ∀ credential ∈ items request "requestedCredentials", ∃ lease ∈ credential_leases,
    Serves LeaseFits request now lease credential ∧ passes lease

/-- Nothing that is asked for rests on grants or leases alone that are yet to be issued. -/
def NothingPremature (request : Dict) (tool_grants credential_leases : List Dict) (now : Instant) : Prop :=
  (∀ action ∈ items request "requestedToolActions", ¬ Stretched tool_grants (Serves GrantFits request now)
    (fun grant requested => Serves GrantFits request now grant requested ∧ Issued now grant) action) ∧
  ∀ credential ∈ items request "requestedCredentials", ¬ Stretched credential_leases (Serves LeaseFits request now)
    (fun lease requested => Serves LeaseFits request now lease requested ∧ Issued now lease) credential

/-- What is asked for is covered by grants and leases that apply and were issued before
    they expire; by ones issued already unless something rests on premature ones alone. -/
theorem requests_supported
    (assessed : assess_security request contents tool_grants credential_leases dependencies sandbox now =
      .ok assessment)
    (proceeds : Proceeds assessment) (timed : Security.parse_time (.str now) "now" = .ok current_time) :
    Supported request tool_grants credential_leases current_time Dated ∧
      (Supported request tool_grants credential_leases current_time (Issued current_time) ↔
        NothingPremature request tool_grants credential_leases current_time) := by
  have known := cleared assessed proceeds timed
  refine ⟨⟨?_,?_⟩,and_congr (covered_narrow_iff known.granted) (covered_narrow_iff known.leased)⟩
  · intro action asked
    obtain ⟨grant,member,serves⟩ := known.granted action asked
    exact ⟨grant,member,serves,known.grants_dated grant member⟩
  · intro credential asked
    obtain ⟨lease,member,serves⟩ := known.leased credential asked
    exact ⟨lease,member,serves,known.leases_dated lease member⟩

def sample_action : Json :=
  .obj (sample_texts [("tool","filesystem"),("operation","write"),("resource","workspace:src")])

theorem requests_supported_write :
    Supported (sample_request [sample_action] []) [own_grant] [] sample_instant Dated := by
  obtain ⟨assessment,assessed,proceeds⟩ :=
    sample_proceeds (by decide +kernel : (sample_assessment [sample_action] [] own_grant).toOption.any _ = true)
  exact (requests_supported assessed proceeds sample_timed).1

/-- The only grant of the action is issued half an hour after the assessment, and the run
    proceeds. -/
theorem premature_grant_allowed : ∃ assessment,
    sample_assessment [sample_action] [] premature_grant = .ok assessment ∧ Proceeds assessment ∧
    Security.parse_time (.str sample_now) "now" = .ok sample_instant ∧
    ¬ Supported (sample_request [sample_action] []) [premature_grant] [] sample_instant (Issued sample_instant) := by
  obtain ⟨assessment,assessed,proceeds⟩ :=
    sample_proceeds (by decide +kernel : (sample_assessment [sample_action] [] premature_grant).toOption.any _ = true)
  refine ⟨assessment,assessed,proceeds,sample_timed,fun supported => ?_⟩
  have asked : sample_action ∈ items (sample_request [sample_action] []) "requestedToolActions" :=
    List.mem_singleton_self _
  obtain ⟨grant,member,_,issued,dated,before⟩ := supported.1 sample_action asked
  rw [List.mem_singleton.mp member] at dated
  have half_past : Security.parse_time (premature_grant.get "issuedAt") "issuedAt" = .ok 63925245000000000 :=
    parse_time_ok.mpr ⟨"2026-09-17T12:30:00Z",rfl,by decide +kernel⟩
  obtain rfl : 63925245000000000 = issued := Except.ok.inj (half_past.symm.trans dated)
  exact absurd before (by decide)

end

end V3Aidlc.SecurityAssessments
