import V3Aidlc.SecurityAssessments
import Mathlib.Logic.Relation

/-!
More exposure never relaxes a decision of the preflight. The steps that expose a run
(`Exposes`) are taken together in one relation between two inputs (`Wider`): everything
untrusted of the first is found in the second, and every grant of the second stems from
one of the first. Each list of reasons that is empty on the wider input is empty on the
narrower one, and the decision depends on which of them are empty.
-/
namespace V3Aidlc.SecurityExposure
open V3Aidlc.Values V3Aidlc.Loops V3Aidlc.Timestamps V3Aidlc.Contracts V3Aidlc.Canonical V3Aidlc.Security
open V3Aidlc.Permissions V3Aidlc.SecurityAssessments

/-- Everything a preflight is given. -/
structure Inputs where
  request : Dict
  contents : List Dict
  tool_grants : List Dict
  credential_leases : List Dict
  dependencies : List Dict
  sandbox : Dict
  now : String

def Inputs.assess (inputs : Inputs) : Py SecurityAssessment :=
  assess_security inputs.request inputs.contents inputs.tool_grants inputs.credential_leases inputs.dependencies
    inputs.sandbox inputs.now

/-- How much a decision restricts the run. -/
def restriction : SecurityDecision → Nat
  | .ALLOW => 0
  | .ALLOW_ISOLATED => 1
  | .REVIEW_REQUIRED => 2
  | .BLOCK => 3
  | .CONTAIN => 4

/-- What the loop over a key of the request goes through; a missing key asks for nothing. -/
def asked (request : Dict) (key : String) : List Json := ((request.getOr key (.arr [])).iter?).getD []

def REQUESTED : List String := ["requestedToolActions","requestedCredentials","requestedNetworkHosts"]

/-- One step that exposes a run further, anywhere in the input it changes. -/
inductive Exposes : Inputs → Inputs → Prop
  | content {i : Inputs} {before after : List Dict} (item : Dict) (split : i.contents = before ++ after) :
    Exposes i { i with contents := before ++ item :: after }
  | signal {i : Inputs} {before after : List Dict} {item : Dict} {earlier later : List Json} (signal : Json)
    (split : i.contents = before ++ item :: after) (held : item.get "signals" = .arr (earlier ++ later)) :
    Exposes i { i with contents := before ++ item.set "signals" (.arr (earlier ++ signal :: later)) :: after }
  | dependency {i : Inputs} {before after : List Dict} (record : Dict) (split : i.dependencies = before ++ after) :
    Exposes i { i with dependencies := before ++ record :: after }
  | requested {i : Inputs} {key : String} {earlier later : List Json} (added : Json) (listed : key ∈ REQUESTED)
    (split : (i.request.getOr key (.arr [])).iter? = some (earlier ++ later)) :
    Exposes i { i with request := i.request.set key (.arr (earlier ++ added :: later)) }
  | remove_grant {i : Inputs} {before after : List Dict} {grant : Dict}
    (split : i.tool_grants = before ++ grant :: after) : Exposes i { i with tool_grants := before ++ after }
  | revoke_grant {i : Inputs} {before after : List Dict} {grant : Dict}
    (split : i.tool_grants = before ++ grant :: after) :
    Exposes i { i with tool_grants := before ++ grant.set "revoked" (.bool true) :: after }

/-! ### Wider inputs -/

/-- The same content, perhaps with more signals. -/
structure Signalled (item kept : Dict) : Prop where
  fields : ∀ key, key ≠ "signals" → kept.get key = item.get key
  signals : items item "signals" ⊆ items kept "signals"

/-- The same grant, perhaps revoked. -/
structure Curtailed (held grant : Dict) : Prop where
  fields : ∀ key, key ≠ "revoked" → grant.get key = held.get key
  revoked : grant.get "revoked" = held.get "revoked" ∨ grant.get "revoked" = .bool true

structure Wider (narrow wide : Inputs) : Prop where
  contents : ∀ item ∈ narrow.contents, ∃ kept ∈ wide.contents, Signalled item kept
  dependencies : narrow.dependencies ⊆ wide.dependencies
  requested : ∀ key ∈ REQUESTED, asked narrow.request key ⊆ asked wide.request key
  request : ∀ key, key ∉ REQUESTED → wide.request.get key = narrow.request.get key
  grants : ∀ grant ∈ wide.tool_grants, ∃ held ∈ narrow.tool_grants, Curtailed held grant
  leases : wide.credential_leases = narrow.credential_leases
  sandbox : wide.sandbox = narrow.sandbox
  now : wide.now = narrow.now

theorem signalled_refl (item : Dict) : Signalled item item := ⟨fun _ _ => rfl,List.Subset.refl _⟩

theorem signalled_trans {first second third : Dict} (left : Signalled first second) (right : Signalled second third) :
    Signalled first third where
  fields key other := (right.fields key other).trans (left.fields key other)
  signals := List.Subset.trans left.signals right.signals

theorem curtailed_refl (grant : Dict) : Curtailed grant grant := ⟨fun _ _ => rfl,.inl rfl⟩

theorem curtailed_trans {first second third : Dict} (left : Curtailed first second) (right : Curtailed second third) :
    Curtailed first third where
  fields key other := (right.fields key other).trans (left.fields key other)
  revoked := by
    rcases right.revoked with same | revoked
    · rw [same]
      exact left.revoked
    · exact .inr revoked

theorem wider_refl (inputs : Inputs) : Wider inputs inputs where
  contents item member := ⟨item,member,signalled_refl item⟩
  dependencies := List.Subset.refl _
  requested _ _ := List.Subset.refl _
  request _ _ := rfl
  grants grant member := ⟨grant,member,curtailed_refl grant⟩
  leases := rfl
  sandbox := rfl
  now := rfl

theorem wider_trans {first second third : Inputs} (left : Wider first second) (right : Wider second third) :
    Wider first third where
  contents item member := by
    obtain ⟨between,inside,more⟩ := left.contents item member
    obtain ⟨kept,held,further⟩ := right.contents between inside
    exact ⟨kept,held,signalled_trans more further⟩
  dependencies := List.Subset.trans left.dependencies right.dependencies
  requested key listed := List.Subset.trans (left.requested key listed) (right.requested key listed)
  request key other := (right.request key other).trans (left.request key other)
  grants grant member := by
    obtain ⟨between,inside,less⟩ := right.grants grant member
    obtain ⟨held,present,further⟩ := left.grants between inside
    exact ⟨held,present,curtailed_trans further less⟩
  leases := right.leases.trans left.leases
  sandbox := right.sandbox.trans left.sandbox
  now := right.now.trans left.now

theorem subset_insert {α : Type} (before after : List α) (added : α) : before ++ after ⊆ before ++ added :: after := by
  intro x member
  rcases List.mem_append.mp member with early | late
  · exact List.mem_append_left _ early
  · exact List.mem_append_right _ (List.mem_cons_of_mem _ late)

theorem signalled_set {item : Dict} {earlier later : List Json} (signal : Json)
    (held : item.get "signals" = .arr (earlier ++ later)) :
    Signalled item (item.set "signals" (.arr (earlier ++ signal :: later))) where
  fields key other := by rw [get_set,if_neg (Ne.symm other)]
  signals := by
    simp only [items,held,get_set,if_true,Json.list?,Option.getD_some]
    exact subset_insert earlier later signal

theorem curtailed_set (grant : Dict) : Curtailed grant (grant.set "revoked" (.bool true)) where
  fields key other := by rw [get_set,if_neg (Ne.symm other)]
  revoked := .inr (by rw [get_set,if_pos rfl])

theorem asked_set (request : Dict) (key changed : String) (values : List Json) :
    asked (request.set changed (.arr values)) key = if changed = key then values else asked request key := by
  unfold asked Dict.getOr
  rw [get?_set]
  by_cases same : changed = key
  · simp [same,Json.iter?]
  · simp [same]

theorem exposes_wider {narrow wide : Inputs} (exposed : Exposes narrow wide) : Wider narrow wide := by
  have plain := wider_refl narrow
  cases exposed with
  | @content before after item split =>
    refine { plain with contents := fun kept member => ⟨kept,?_,signalled_refl kept⟩ }
    rw [split] at member
    exact subset_insert before after item member
  | @signal before after item earlier later added split held =>
    refine { plain with contents := fun kept member => ?_ }
    rw [split] at member
    rcases List.mem_append.mp member with early | late
    · exact ⟨kept,List.mem_append_left _ early,signalled_refl kept⟩
    · rcases List.mem_cons.mp late with rfl | late
      · exact ⟨_,List.mem_append_right _ List.mem_cons_self,signalled_set added held⟩
      · exact ⟨kept,List.mem_append_right _ (List.mem_cons_of_mem _ late),signalled_refl kept⟩
  | @dependency before after record split =>
    refine { plain with dependencies := ?_ }
    rw [split]
    exact subset_insert before after record
  | @requested changed earlier later added listed split =>
    refine { plain with requested := fun key _ => ?_, request := fun key other => ?_ }
    · rw [asked_set]
      by_cases same : changed = key
      · rw [if_pos same,← same,asked,split]
        exact subset_insert earlier later added
      · rw [if_neg same]
        exact List.Subset.refl _
    · rw [get_set,if_neg]
      rintro rfl
      exact other listed
  | @remove_grant before after grant split =>
    refine { plain with grants := fun kept member => ⟨kept,?_,curtailed_refl kept⟩ }
    rw [split]
    exact subset_insert before after grant member
  | @revoke_grant before after grant split =>
    refine { plain with grants := fun kept member => ?_ }
    rw [split]
    rcases List.mem_append.mp member with early | late
    · exact ⟨kept,List.mem_append_left _ early,curtailed_refl kept⟩
    · rcases List.mem_cons.mp late with rfl | late
      · exact ⟨grant,List.mem_append_right _ List.mem_cons_self,curtailed_set grant⟩
      · exact ⟨kept,List.mem_append_right _ (List.mem_cons_of_mem _ late),curtailed_refl kept⟩

theorem exposures_wider {narrow wide : Inputs} (exposed : Relation.ReflTransGen Exposes narrow wide) :
    Wider narrow wide := by
  induction exposed with
  | refl => exact wider_refl narrow
  | tail _ last ih => exact wider_trans ih (exposes_wider last)

/-! ### What a preflight decided on -/

/-- The parts of a preflight that returned. -/
structure Assessed (inputs : Inputs) (decision : SecurityDecision) (now : Instant)
    (missing_grants missing_leases requested_hosts : List String) : Prop where
  timed : Security.parse_time (.str inputs.now) "now" = .ok now
  contents : ∀ item ∈ inputs.contents, validate_content_descriptor item = .ok ()
  grants : ∀ grant ∈ inputs.tool_grants, validate_tool_grant grant = .ok ()
  tools : tool_reasons inputs.request inputs.tool_grants now = .ok missing_grants
  credentials : credential_reasons inputs.request inputs.credential_leases now = .ok missing_leases
  hosts : Security.string_array (inputs.request.getOr "requestedNetworkHosts" (.arr [])) "requestedNetworkHosts" =
    .ok requested_hosts
  decision : decision = (verdict (contain_reasons inputs.contents)
    (blocked_reasons inputs.request inputs.contents inputs.tool_grants inputs.credential_leases inputs.dependencies
      inputs.sandbox missing_grants missing_leases requested_hosts)
    (review_reasons inputs.contents inputs.dependencies) (!(untrusted inputs.contents).isEmpty)).1

theorem assessed_of_ok {inputs : Inputs} {assessment : SecurityAssessment} (ran : inputs.assess = .ok assessment) :
    ∃ now tools credentials hosts, Assessed inputs assessment.decision now tools credentials hosts := by
  unfold Inputs.assess assess_security at ran
  simp only [bind_ok_iff,pure_ok_iff,forM_ok_iff] at ran
  obtain ⟨_,_,now,timed,_,_,_,_,_,contents,_,grants,_,_,_,_,tools,toolsRan,credentials,credentialsRan,hosts,asked,
    rfl⟩ :=
    ran
  exact ⟨now,tools,credentials,hosts,timed,contents,grants,toolsRan,credentialsRan,asked,rfl⟩

/-- What a list of reasons weighs in the decision: its own weight, or nothing. -/
def weight (reasons : List String) (own : Nat) : Nat := if reasons.isEmpty then 0 else own

theorem weight_le {reasons more : List String} (own : Nat) (empties : more = [] → reasons = []) :
    weight reasons own ≤ weight more own := by
  unfold weight
  cases more with
  | nil => simp [empties rfl]
  | cons reason rest =>
    cases reasons with
    | nil => simp
    | cons first others => simp

theorem restriction_verdict (contain blocked review : List String) (isolated : Bool) :
    restriction (verdict contain blocked review isolated).1 =
      max (weight contain 4) (max (weight blocked 3) (max (weight review 2) isolated.toNat)) := by
  unfold verdict weight
  cases contain <;> cases blocked <;> cases review <;> cases isolated <;> rfl

theorem verdict_monotone {contain blocked review more_contain more_blocked more_review : List String}
    {isolated more_isolated : Bool} (contains : more_contain = [] → contain = [])
    (blocks : more_blocked = [] → blocked = []) (reviews : more_review = [] → review = [])
    (isolates : isolated = true → more_isolated = true) :
    restriction (verdict contain blocked review isolated).1 ≤
      restriction (verdict more_contain more_blocked more_review more_isolated).1 := by
  have isolation : isolated.toNat ≤ more_isolated.toNat := Bool.toNat_le_toNat isolates
  rw [restriction_verdict,restriction_verdict]
  exact max_le_max (weight_le 4 contains) (max_le_max (weight_le 3 blocks) (max_le_max (weight_le 2 reviews) isolation))

/-! ### Content -/

theorem strings_held {d : Dict} {key field : String} {minimum : Nat} {listed : List String}
    (ran : Security.string_array (d.get key) field minimum = .ok listed) :
    items d key = (strings d key).map Json.str := by
  have held := ((string_array_ok _).mp ran).1
  unfold strings items
  rw [held,strings?_eq_some.mp held]
  rfl

theorem signals_held {item : Dict} (valid : validate_content_descriptor item = .ok ()) :
    items item "signals" = (strings item "signals").map Json.str := by
  unfold validate_content_descriptor at valid
  simp only [bind_ok_iff] at valid
  obtain ⟨_,_,_,_,_,_,_,_,_,_,signals,listed,_⟩ := valid
  exact strings_held listed

theorem signalled_strings {item kept : Dict} (same : Signalled item kept)
    (valid : validate_content_descriptor item = .ok ()) (keptValid : validate_content_descriptor kept = .ok ()) :
    strings item "signals" ⊆ strings kept "signals" := by
  intro signal member
  have held : Json.str signal ∈ items item "signals" := by
    rw [signals_held valid]
    exact List.mem_map_of_mem member
  have still := same.signals held
  rw [signals_held keptValid,List.mem_map] at still
  obtain ⟨found,listed,equal⟩ := still
  exact Json.str.inj equal ▸ listed

theorem signalled_text {item kept : Dict} (same : Signalled item kept) (key : String) (other : key ≠ "signals") :
    text kept key = text item key :=
  text_of_get (same.fields key other)

theorem signalled_flag {item kept : Dict} (same : Signalled item kept) (key : String) (other : key ≠ "signals") :
    flag kept key = flag item key := by
  unfold flag
  rw [same.fields key other]

section
variable {narrow wide : Inputs} (wider : Wider narrow wide)
include wider

theorem untrusted_kept {item : Dict} (member : item ∈ untrusted narrow.contents) :
    ∃ kept ∈ untrusted wide.contents, Signalled item kept := by
  obtain ⟨inside,level⟩ := List.mem_filter.mp member
  obtain ⟨kept,held,same⟩ := wider.contents item inside
  refine ⟨kept,List.mem_filter.mpr ⟨held,?_⟩,same⟩
  rw [signalled_text same "trustLevel" (by decide)]
  exact level

theorem untrusted_narrow (none : untrusted wide.contents = []) : untrusted narrow.contents = [] := by
  rw [List.eq_nil_iff_forall_not_mem]
  intro item member
  obtain ⟨kept,held,_⟩ := untrusted_kept wider member
  exact List.not_mem_nil (none ▸ held)

theorem active_narrow (active : active_untrusted narrow.contents = true) : active_untrusted wide.contents = true := by
  obtain ⟨item,member,flagged⟩ := List.any_eq_true.mp active
  obtain ⟨kept,held,same⟩ := untrusted_kept wider member
  refine List.any_eq_true.mpr ⟨kept,held,?_⟩
  rw [signalled_flag same "activeContent" (by decide)]
  exact flagged

theorem signals_kept (valid : ∀ item ∈ narrow.contents, validate_content_descriptor item = .ok ())
    (wideValid : ∀ item ∈ wide.contents, validate_content_descriptor item = .ok ()) :
    all_signals narrow.contents ⊆ all_signals wide.contents := by
  intro signal member
  obtain ⟨item,inside,listed⟩ := List.mem_flatMap.mp member
  obtain ⟨kept,held,same⟩ := wider.contents item inside
  exact List.mem_flatMap.mpr ⟨kept,held,signalled_strings same (valid item inside) (wideValid kept held) listed⟩

theorem contain_narrow (valid : ∀ item ∈ narrow.contents, validate_content_descriptor item = .ok ())
    (wideValid : ∀ item ∈ wide.contents, validate_content_descriptor item = .ok ())
    (quiet : contain_reasons wide.contents = []) : contain_reasons narrow.contents = [] := by
  unfold contain_reasons at *
  rw [List.map_eq_nil_iff,sorted_nil,List.eq_nil_iff_forall_not_mem] at *
  intro signal member
  rw [mem_distinct,List.mem_filter] at member
  apply quiet signal
  rw [mem_distinct,List.mem_filter]
  exact ⟨signals_kept wider valid wideValid member.1,member.2⟩

theorem review_narrow (valid : ∀ item ∈ narrow.contents, validate_content_descriptor item = .ok ())
    (wideValid : ∀ item ∈ wide.contents, validate_content_descriptor item = .ok ())
    (quiet : review_reasons wide.contents wide.dependencies = []) :
    review_reasons narrow.contents narrow.dependencies = [] := by
  unfold review_reasons at *
  rw [List.append_eq_nil_iff,when_true_nil,List.flatMap_eq_nil_iff,List.contains_eq_mem,decide_eq_false_iff_not] at *
  obtain ⟨unprompted,known⟩ := quiet
  refine ⟨fun member => unprompted (signals_kept wider valid wideValid member),?_⟩
  intro record member
  exact known record (wider.dependencies member)

end

/-! ### Searches -/

/-- A loop finds no reason where a loop over more found none, as long as each request that
    the second is content with contents the first. -/
theorem collect_narrow {request more : Dict} {key : String} {reason more_reason : Json → Py (List String)}
    {found : List String} (ran : collect request key reason = .ok found)
    (quiet : collect more key more_reason = .ok []) (kept : asked request key ⊆ asked more key)
    (content : ∀ requested reasons, more_reason requested = .ok [] → reason requested = .ok reasons → reasons = []) :
    found = [] := by
  unfold collect at ran quiet
  simp only [bind_ok_iff,pure_ok_iff,iterate_ok] at ran quiet
  obtain ⟨requests,listed,reasons,searched,rfl⟩ := ran
  obtain ⟨more_requests,more_listed,more_reasons,more_searched,none⟩ := quiet
  unfold asked at kept
  rw [listed,more_listed,Option.getD_some,Option.getD_some] at kept
  rw [List.flatten_eq_nil_iff] at none ⊢
  intro result member
  obtain ⟨requested,inside,gave⟩ := mapM_result searched member
  obtain ⟨empty,found,gaveNone⟩ := forall₂_left (mapM_ok_iff.mp more_searched) requested (kept inside)
  rw [none empty found] at gaveNone
  exact content requested result gaveNone gave

theorem tool_reason_served {request : Dict} {grants : List Dict} {now : Instant} {requested : Json}
    {reasons : List String} (valid : ∀ grant ∈ grants, validate_tool_grant grant = .ok ())
    (served : ∃ grant ∈ grants, Serves GrantFits request now grant requested)
    (ran : tool_reason request grants now requested = .ok reasons) : reasons = [] := by
  obtain ⟨grant,member,action,rfl,fits,applies⟩ := served
  unfold tool_reason at ran
  simp only [Json.dict?,bind_ok_iff,pure_ok_iff] at ran
  obtain ⟨tool,named,operation,operated,resource,located,found,searched,rfl⟩ := ran
  rw [when_true_nil,List.isEmpty_eq_false_iff_exists_mem]
  refine ⟨grant,(filterM_mem searched).mpr ⟨member,?_⟩⟩
  refine (matches_ok (validate_tool_grant_ok (valid grant member)).2).mpr ⟨⟨?_,?_,?_⟩,applies⟩
  · rw [fits.tool,text_required named]
  · rw [← text_required operated]
    exact fits.operation
  · rw [← text_required located]
    exact fits.resource

theorem credential_reasons_congr {request more : Dict} (leases : List Dict) (now : Instant)
    (same : text more "runId" = text request "runId") :
    credential_reason more leases now = credential_reason request leases now := by
  funext requested
  unfold credential_reason lease_matches
  rw [same]

/-- A revoked grant serves nothing, so what serves is as it was. -/
theorem serves_curtailed {request more : Dict} {now : Instant} {held grant : Dict} {requested : Json}
    (less : Curtailed held grant) (same : text more "runId" = text request "runId")
    (serves : Serves GrantFits more now grant requested) : Serves GrantFits request now held requested := by
  obtain ⟨action,isRecord,fits,applies⟩ := serves
  have kept := less.fields
  have listed : ∀ key, key ≠ "revoked" → strings grant key = strings held key := by
    intro key other
    unfold strings
    rw [kept key other]
  refine ⟨action,isRecord,⟨?_,?_,?_⟩,⟨?_,?_,?_⟩⟩
  · rw [← text_of_get (kept "tool" (by decide))]
    exact fits.tool
  · rw [← listed "operations" (by decide)]
    exact fits.operation
  · rw [← listed "resources" (by decide)]
    exact fits.resource
  · rw [← text_of_get (kept "runId" (by decide)),← same]
    exact applies.run
  · rcases less.revoked with kept | revoked
    · rw [← kept]
      exact applies.unrevoked
    · rw [applies.unrevoked] at revoked
      cases revoked
  · rw [← kept "expiresAt" (by decide)]
    exact applies.unexpired

/-! ### Everything that blocks -/

section
variable {narrow wide : Inputs} (wider : Wider narrow wide)
include wider

theorem request_text (key : String) (other : key ∉ REQUESTED) : text wide.request key = text narrow.request key :=
  text_of_get (wider.request key other)

theorem request_flag (key : String) (other : key ∉ REQUESTED) : flag wide.request key = flag narrow.request key := by
  unfold flag
  rw [wider.request key other]

theorem same_run : text wide.request "runId" = text narrow.request "runId" := request_text wider "runId" (by decide)

theorem same_risk : high_risk wide.request = high_risk narrow.request := by
  unfold high_risk
  rw [request_text wider "riskTier" (by decide)]

theorem tools_narrow {now : Instant} {found : List String}
    (valid : ∀ grant ∈ narrow.tool_grants, validate_tool_grant grant = .ok ())
    (wideValid : ∀ grant ∈ wide.tool_grants, validate_tool_grant grant = .ok ())
    (ran : tool_reasons narrow.request narrow.tool_grants now = .ok found)
    (quiet : tool_reasons wide.request wide.tool_grants now = .ok []) : found = [] := by
  refine collect_narrow ran quiet (wider.requested "requestedToolActions" (by decide)) ?_
  intro requested reasons content gave
  obtain ⟨grant,member,serves⟩ := tool_reason_nil wideValid content
  obtain ⟨held,inside,less⟩ := wider.grants grant member
  exact tool_reason_served valid ⟨held,inside,serves_curtailed less (same_run wider) serves⟩ gave

theorem credentials_narrow {now : Instant} {found : List String}
    (ran : credential_reasons narrow.request narrow.credential_leases now = .ok found)
    (quiet : credential_reasons wide.request wide.credential_leases now = .ok []) : found = [] := by
  refine collect_narrow ran quiet (wider.requested "requestedCredentials" (by decide)) ?_
  intro requested reasons content gave
  rw [wider.leases,credential_reasons_congr _ _ (same_run wider),gave] at content
  exact Except.ok.inj content

theorem hosts_kept {hosts more_hosts : List String}
    (ran : Security.string_array (narrow.request.getOr "requestedNetworkHosts" (.arr [])) "requestedNetworkHosts" =
      .ok hosts)
    (wideRan : Security.string_array (wide.request.getOr "requestedNetworkHosts" (.arr [])) "requestedNetworkHosts" =
      .ok more_hosts) : hosts ⊆ more_hosts := by
  have kept := wider.requested "requestedNetworkHosts" (by decide)
  unfold asked at kept
  rw [strings?_eq_some.mp ((string_array_ok _).mp ran).1,strings?_eq_some.mp ((string_array_ok _).mp wideRan).1] at kept
  intro host member
  obtain ⟨found,listed,equal⟩ := List.mem_map.mp (kept (List.mem_map_of_mem member))
  exact Json.str.inj equal ▸ listed

theorem granted_hosts_narrow : granted_hosts wide.tool_grants ⊆ granted_hosts narrow.tool_grants := by
  intro host member
  obtain ⟨grant,inside,listed⟩ := List.mem_flatMap.mp member
  obtain ⟨held,present,less⟩ := wider.grants grant inside
  refine List.mem_flatMap.mpr ⟨held,present,?_⟩
  unfold strings at *
  rw [← less.fields "networkHosts" (by decide)]
  exact listed

theorem granted_host_narrow {hosts more_hosts : List String} (kept : hosts ⊆ more_hosts)
    (quiet : granted_host_reasons more_hosts wide.tool_grants = []) :
    granted_host_reasons hosts narrow.tool_grants = [] := by
  unfold granted_host_reasons at *
  rw [List.map_eq_nil_iff,outside_nil] at *
  intro host member
  exact granted_hosts_narrow wider (quiet host (kept member))

omit wider in
theorem sandbox_host_narrow {sandbox : Dict} {hosts more_hosts : List String} (kept : hosts ⊆ more_hosts)
    (quiet : sandbox_host_reasons more_hosts sandbox = []) : sandbox_host_reasons hosts sandbox = [] := by
  have allowed := sandbox_host_reasons_nil quiet
  unfold sandbox_host_reasons at *
  split at quiet
  · cases quiet
  · rename_i reachable
    rw [if_neg,List.map_eq_nil_iff,outside_nil]
    · intro host member
      exact allowed host (kept member)
    · -- a deny-all sandbox is left alone only without hosts, and then there are none here
      intro denied
      apply reachable
      cases hosts with
      | nil => simp at denied
      | cons host rest =>
        have asked : host ∈ more_hosts := kept List.mem_cons_self
        cases more_hosts with
        | nil => cases asked
        | cons first others => simpa using denied

theorem sealed_narrow (quiet : sealed_reasons wide.request wide.contents wide.sandbox = []) :
    sealed_reasons narrow.request narrow.contents narrow.sandbox = [] := by
  unfold sealed_reasons at *
  rw [when_true_nil] at *
  rw [request_flag wider "executesRetrievedContent" (by decide),wider.sandbox] at quiet
  cases active : active_untrusted narrow.contents with
  | false => rfl
  | true =>
    rw [active_narrow wider active] at quiet
    exact quiet

theorem isolation_narrow (quiet : isolation_reasons wide.request wide.contents wide.sandbox = []) :
    isolation_reasons narrow.request narrow.contents narrow.sandbox = [] := by
  unfold isolation_reasons at *
  rw [List.append_eq_nil_iff,when_true_nil,when_true_nil] at *
  rw [same_risk wider,wider.sandbox] at quiet
  refine ⟨quiet.1,?_⟩
  cases none : untrusted narrow.contents with
  | nil => rfl
  | cons item rest =>
    cases more : untrusted wide.contents with
    | nil => rw [untrusted_narrow wider more] at none; cases none
    | cons kept others =>
      rw [more] at quiet
      exact quiet.2

theorem dependencies_narrow (quiet : wide.dependencies.flatMap (dependency_reasons wide.request) = []) :
    narrow.dependencies.flatMap (dependency_reasons narrow.request) = [] := by
  rw [List.flatMap_eq_nil_iff] at *
  intro record member
  have same := quiet record (wider.dependencies member)
  unfold dependency_reasons at *
  rw [same_risk wider,request_text wider "minimumProvenance" (by decide)] at same
  exact same

theorem blocked_narrow {decision more_decision : SecurityDecision} {now : Instant}
    {tools credentials hosts more_tools more_credentials more_hosts : List String}
    (assessed : Assessed narrow decision now tools credentials hosts)
    (wideAssessed : Assessed wide more_decision now more_tools more_credentials more_hosts)
    (quiet : blocked_reasons wide.request wide.contents wide.tool_grants wide.credential_leases wide.dependencies
      wide.sandbox more_tools more_credentials more_hosts = []) :
    blocked_reasons narrow.request narrow.contents narrow.tool_grants narrow.credential_leases narrow.dependencies
      narrow.sandbox tools credentials hosts = [] := by
  have kept := hosts_kept wider assessed.hosts wideAssessed.hosts
  unfold blocked_reasons at *
  simp only [List.append_eq_nil_iff] at *
  obtain ⟨⟨⟨⟨⟨⟨⟨unsealed,rfl⟩,rfl⟩,inSandbox⟩,byGrant⟩,secrets⟩,dependencies⟩,isolation⟩ := quiet
  rw [wider.sandbox] at inSandbox secrets
  rw [wider.leases] at secrets
  refine ⟨⟨⟨⟨⟨⟨⟨sealed_narrow wider unsealed,?_⟩,?_⟩,sandbox_host_narrow kept inSandbox⟩,
    granted_host_narrow wider kept byGrant⟩,secrets⟩,dependencies_narrow wider dependencies⟩,
    isolation_narrow wider isolation⟩
  · exact tools_narrow wider assessed.grants wideAssessed.grants assessed.tools wideAssessed.tools
  · exact credentials_narrow wider assessed.credentials wideAssessed.credentials

end

/-! ### The decision -/

theorem wider_restricts {narrow wide : Inputs} {assessment more_assessment : SecurityAssessment}
    (wider : Wider narrow wide) (ran : narrow.assess = .ok assessment) (wideRan : wide.assess = .ok more_assessment) :
    restriction assessment.decision ≤ restriction more_assessment.decision := by
  obtain ⟨now,tools,credentials,hosts,assessed⟩ := assessed_of_ok ran
  obtain ⟨later,more_tools,more_credentials,more_hosts,wideAssessed⟩ := assessed_of_ok wideRan
  have timed := wideAssessed.timed
  rw [wider.now] at timed
  obtain rfl : now = later := Except.ok.inj (assessed.timed.symm.trans timed)
  rw [assessed.decision,wideAssessed.decision]
  apply verdict_monotone
  · exact contain_narrow wider assessed.contents wideAssessed.contents
  · exact blocked_narrow wider assessed wideAssessed
  · exact review_narrow wider assessed.contents wideAssessed.contents
  · intro some_untrusted
    cases none : untrusted wide.contents with
    | nil => rw [untrusted_narrow wider none] at some_untrusted; cases some_untrusted
    | cons item rest => rfl

/-- However a run is exposed further, step by step, its decision is not relaxed. -/
theorem exposure_never_relaxes {narrow wide : Inputs} {assessment more_assessment : SecurityAssessment}
    (exposed : Relation.ReflTransGen Exposes narrow wide) (ran : narrow.assess = .ok assessment)
    (wideRan : wide.assess = .ok more_assessment) :
    restriction assessment.decision ≤ restriction more_assessment.decision :=
  wider_restricts (exposures_wider exposed) ran wideRan

/-- A run that asks for an action and has these grants. -/
def sample_inputs (tool_grants : List Dict) : Inputs where
  request := sample_request [sample_action] []
  contents := []
  tool_grants := tool_grants
  credential_leases := []
  dependencies := []
  sandbox := sample_sandbox
  now := sample_now

theorem exposure_never_relaxes_removal : ∃ assessment more_assessment,
    (sample_inputs [own_grant]).assess = .ok assessment ∧ (sample_inputs []).assess = .ok more_assessment ∧
    restriction assessment.decision ≤ restriction more_assessment.decision := by
  have returns : (sample_inputs [own_grant]).assess.toOption.any (fun _ => true) = true := by decide +kernel
  have still : (sample_inputs []).assess.toOption.any (fun _ => true) = true := by decide +kernel
  obtain ⟨assessment,ran,_⟩ := returns_with returns
  obtain ⟨more_assessment,wideRan,_⟩ := returns_with still
  have removed : Exposes (sample_inputs [own_grant]) (sample_inputs []) :=
    @Exposes.remove_grant (sample_inputs [own_grant]) [] [] own_grant rfl
  exact ⟨assessment,more_assessment,ran,wideRan,exposure_never_relaxes (.single removed) ran wideRan⟩

end V3Aidlc.SecurityExposure
