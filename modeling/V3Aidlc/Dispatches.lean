import V3Aidlc.AgentAdapters

/-!
What the contracts between the orchestrator and an adapter guarantee. A selected
runner has nothing to object to the request, so its clearance covers the declared
sensitivity (`select_adapter_ok`); every dispatch that is built is valid
(`built_dispatch_valid`); and an answer with the fields of a run result is accepted
as an answer to that dispatch (`normalize_total`).
-/
namespace V3Aidlc.Dispatches
open V3Aidlc.Values V3Aidlc.Loops V3Aidlc.Timestamps V3Aidlc.Contracts V3Aidlc.Canonical V3Aidlc.Sha256
open V3Aidlc.AgentAdapters

/-! ### Validated fields -/

theorem string_arrays_ok {value : Dict} {keys : List String} {u : Unit} : string_arrays value keys = .ok u ↔
    ∀ key ∈ keys, ∃ items, strings? (value.get key) = some items ∧ (∀ s ∈ items, visible s = true) ∧ items.Nodup := by
  unfold string_arrays
  rw [forM_ok_iff]
  simp [AgentAdapters.string_array,string_array_ok]

theorem integer_at_least_ok {minimum : Int} {value : Json} {message : String} {u : Unit} :
    integer_at_least minimum value message = .ok u ↔ ∃ n, value = .int n ∧ minimum ≤ n := by
  unfold integer_at_least
  cases value <;> simp [integer?,adapter_error,reject]

theorem positive_integer_ok {value : Dict} {key : String} {u : Unit} :
    positive_integer value key = .ok u ↔ ∃ n, value.get key = .int n ∧ 1 ≤ n := integer_at_least_ok

theorem check_bool_ok {value : Dict} {key : String} {u : Unit} :
    check_bool value key = .ok u ↔ ∃ b, value.get key = .bool b := by
  unfold check_bool reject
  rw [reject_if_ok]
  cases value.get key <;> simp [Json.isBool,Json.bool?]

theorem validate_run_request_ok {request : Dict} : validate_run_request request = .ok () ↔
    (∀ key ∈ REQUEST_STRINGS, ∃ s, Dict.get? key request = some (.str s) ∧ blank s = false) ∧
    (∀ key ∈ REQUEST_ARRAYS, ∃ items, strings? (request.get key) = some items ∧ (∀ s ∈ items, visible s = true) ∧
      items.Nodup) ∧
    (∀ key ∈ ["contextBytes","maxOutputBytes","attempt"], ∃ n, request.get key = .int n ∧ 1 ≤ n) ∧
    (∃ s ∈ SENSITIVITIES, request.get "sensitivity" = .str s) ∧
    ∀ key ∈ ["structuredOutputRequired","externalSideEffectPossible"], ∃ b, request.get key = .bool b := by
  unfold validate_run_request
  simp only [bind_ok_iff,required_strings_ok,string_arrays_ok,forM_ok_iff,positive_integer_ok,check_bool_ok,reject,
    reject_if_ok,Bool.not_eq_false']
  constructor
  · rintro ⟨_,texts,_,arrays,_,counts,known,ranked,_,rfl,flags⟩
    exact ⟨texts,arrays,counts,in_set_ok_true.mp ranked,flags⟩
  · rintro ⟨texts,arrays,counts,ranked,flags⟩
    exact ⟨(),texts,(),arrays,(),counts,true,in_set_ok_true.mpr ranked,(),rfl,flags⟩

theorem validate_capability_profile_ok {profile : Dict} : validate_capability_profile profile = .ok () ↔
    (∀ key ∈ PROFILE_STRINGS, ∃ s, Dict.get? key profile = some (.str s) ∧ blank s = false) ∧
    (∃ s ∈ ["available","degraded","unavailable"], profile.get "status" = .str s) ∧
    (∀ key ∈ PROFILE_ARRAYS, ∃ items, strings? (profile.get key) = some items ∧ (∀ s ∈ items, visible s = true) ∧
      items.Nodup) ∧
    (∀ key ∈ ["maxContextBytes","maxOutputBytes","maxConcurrentRuns"], ∃ n, profile.get key = .int n ∧ 1 ≤ n) ∧
    (∃ s ∈ SENSITIVITIES, profile.get "maxSensitivity" = .str s) ∧
    ∀ key ∈ ["structuredOutput","streaming","externalSideEffects","idempotentInvocation"], ∃ b, profile.get key =
      .bool b := by
  unfold validate_capability_profile
  simp only [bind_ok_iff,required_strings_ok,string_arrays_ok,forM_ok_iff,positive_integer_ok,check_bool_ok,reject,
    reject_if_ok,Bool.not_eq_false']
  constructor
  · rintro ⟨_,texts,status,known,_,rfl,_,arrays,_,counts,level,ranked,_,rfl,flags⟩
    exact ⟨texts,in_set_ok_true.mp known,arrays,counts,in_set_ok_true.mp ranked,flags⟩
  · rintro ⟨texts,known,arrays,counts,ranked,flags⟩
    exact ⟨(),texts,true,in_set_ok_true.mpr known,(),rfl,(),arrays,(),counts,true,in_set_ok_true.mpr ranked,(),rfl,
      flags⟩

/-! ### Negotiation -/

theorem negotiate_ok {request profile : Dict} {result : NegotiationResult} :
    negotiate_capabilities request profile = .ok result ↔ validate_run_request request = .ok () ∧
      validate_capability_profile profile = .ok () ∧ result = negotiation request profile := by
  unfold negotiate_capabilities
  simp only [bind_ok_iff,pure_ok_iff]
  constructor
  · rintro ⟨_,requested,_,offered,rfl⟩; exact ⟨requested,offered,rfl⟩
  · rintro ⟨requested,offered,rfl⟩; exact ⟨(),requested,(),offered,rfl⟩

/-- The runner accepts the request. -/
def Accepts (profile request : Dict) : Prop := negotiation_reasons request profile = []

theorem accepted_iff {request profile : Dict} :
    (negotiation request profile).decision = .ACCEPTED ↔ Accepts profile request := by
  unfold negotiation Accepts
  cases reasons : negotiation_reasons request profile <;> simp

theorem when_true_nil {condition : Bool} {reason : String} : when_true condition reason = [] ↔ condition = false := by
  cases condition <;> simp [when_true]

theorem missing_nil {request profile : Dict} {request_key profile_key label : String} :
    missing request profile request_key profile_key label = [] ↔
      ∀ item ∈ strings request request_key, item ∈ strings profile profile_key := by
  unfold missing
  rw [List.map_eq_nil_iff,List.eq_nil_iff_forall_not_mem]
  constructor
  · intro none item member
    by_contra lacking
    exact none item (mem_sortedBy.mpr (List.mem_filter.mpr ⟨member,by simp [lacking]⟩))
  · intro offered item sorted
    obtain ⟨member,lacking⟩ := List.mem_filter.mp (mem_sortedBy.mp sorted)
    simp [offered item member] at lacking

/-- A runner accepts exactly what it is cleared, able and large enough for. -/
theorem accepts_iff {request profile : Dict} : Accepts profile request ↔
    text profile "status" = "available" ∧ text request "authorizationDecision" ∈ AUTO_AUTHORIZATION ∧
    text request "role" ∈ strings profile "roles" ∧
    (∀ item ∈ strings request "requiredCapabilities", item ∈ strings profile "capabilities") ∧
    (∀ item ∈ strings request "requiredModalities", item ∈ strings profile "modalities") ∧
    (∀ item ∈ strings request "requiredTools", item ∈ strings profile "tools") ∧
    (∀ item ∈ strings request "requiredNetworkHosts", item ∈ strings profile "networkHosts") ∧
    integer request "contextBytes" ≤ integer profile "maxContextBytes" ∧
    integer request "maxOutputBytes" ≤ integer profile "maxOutputBytes" ∧
    SENSITIVITY_RANK (text request "sensitivity") ≤ SENSITIVITY_RANK (text profile "maxSensitivity") ∧
    ((request.get "structuredOutputRequired").isTrue = true → (profile.get "structuredOutput").isTrue = true) ∧
    ((request.get "externalSideEffectPossible").isTrue = true → (profile.get "externalSideEffects").isTrue = true) ∧
    (1 < integer request "attempt" → (profile.get "idempotentInvocation").isTrue = true) := by
  unfold Accepts negotiation_reasons
  simp only [List.append_eq_nil_iff,when_true_nil,missing_nil,ne_eq,decide_not,Bool.not_eq_false',
    decide_eq_true_eq,List.contains_eq_mem,decide_eq_false_iff_not,not_lt,Bool.and_eq_false_iff,and_assoc]
  simp only [← Bool.not_eq_true,or_iff_not_imp_left,not_not,not_le]

theorem accepted_clearance {request profile : Dict} (accepts : Accepts profile request) :
    SENSITIVITY_RANK (text request "sensitivity") ≤ SENSITIVITY_RANK (text profile "maxSensitivity") :=
  (accepts_iff.mp accepts).2.2.2.2.2.2.2.2.2.1

/-! ### Selection -/

/-- The results of negotiating with each profile. -/
def negotiations (request : Dict) (profiles : List Dict) : List (Dict × NegotiationResult) :=
  profiles.map (fun profile => (profile,negotiation request profile))

theorem negotiate_all_ok {request : Dict} {profiles : List Dict} {results : List (Dict × NegotiationResult)} :
    profiles.foldlM (negotiate_next request) [] = .ok results ↔
      (profiles ≠ [] → validate_run_request request = .ok ()) ∧
      (∀ profile ∈ profiles, validate_capability_profile profile = .ok ()) ∧
      (profiles.map (fun profile => text profile "adapterId")).Nodup ∧ results = negotiations request profiles := by
  induction profiles using List.reverseRecOn generalizing results with
  | nil =>
    rw [foldlM_nil_ok]
    exact ⟨fun same => ⟨by simp,by simp,by simp,same.symm⟩,fun all => all.2.2.2.symm⟩
  | append_singleton profiles profile ih =>
    have names : (negotiations request profiles).map (fun result => text result.1 "adapterId") =
        profiles.map (fun profile => text profile "adapterId") := by
      simp [negotiations,Function.comp_def]
    have distinct : ((profiles ++ [profile]).map (fun profile => text profile "adapterId")).Nodup ↔
        (profiles.map (fun profile => text profile "adapterId")).Nodup ∧
          text profile "adapterId" ∉ profiles.map (fun profile => text profile "adapterId") := by
      rw [List.map_append,List.nodup_append_comm,List.map_cons,List.map_nil,List.singleton_append,List.nodup_cons,
        and_comm]
    have longer : negotiations request (profiles ++ [profile]) =
        negotiations request profiles ++ [(profile,negotiation request profile)] := by
      simp [negotiations]
    rw [List.foldlM_append,bind_ok_iff,distinct,longer]
    simp only [foldlM_cons_ok,foldlM_nil_ok,exists_eq_right]
    constructor
    · rintro ⟨before,ran,next⟩
      obtain ⟨_,valid,apart,rfl⟩ := ih.mp ran
      unfold negotiate_next at next
      simp only [bind_ok_iff,pure_ok_iff,reject,reject_if_ok,names,List.contains_eq_mem,decide_eq_false_iff_not] at next
      obtain ⟨_,offered,_,fresh,result,negotiated,rfl⟩ := next
      obtain ⟨requested,_,rfl⟩ := negotiate_ok.mp negotiated
      refine ⟨fun _ => requested,?_,⟨apart,fresh⟩,rfl⟩
      intro other member
      rcases List.mem_append.mp member with earlier | here
      · exact valid other earlier
      · rw [List.mem_singleton.mp here]; exact offered
    · rintro ⟨requested,valid,⟨apart,fresh⟩,rfl⟩
      have offered := valid profile (by simp)
      refine ⟨_,ih.mpr ⟨fun _ => requested (by simp),fun other member => valid other (by simp [member]),apart,rfl⟩,?_⟩
      unfold negotiate_next
      simp only [bind_ok_iff,pure_ok_iff,reject,reject_if_ok,names,List.contains_eq_mem,decide_eq_false_iff_not]
      exact ⟨(),offered,(),fresh,_,negotiate_ok.mpr ⟨requested (by simp),offered,rfl⟩,rfl⟩

/-- The chosen runner is one of those offered and accepts the request. -/
theorem select_adapter_ok {request profile : Dict} {profiles : List Dict} {results : List NegotiationResult}
    (selected : select_adapter request profiles = .ok (profile,results)) :
    profile ∈ profiles ∧ validate_run_request request = .ok () ∧ validate_capability_profile profile = .ok () ∧
      Accepts profile request ∧ results = profiles.map (negotiation request) := by
  unfold select_adapter at selected
  obtain ⟨found,ran,selected⟩ := bind_ok_iff.mp selected
  obtain ⟨requested,valid,_,rfl⟩ := negotiate_all_ok.mp ran
  obtain ⟨_,_,selected⟩ := bind_ok_iff.mp selected
  split at selected
  · simp [adapter_error] at selected
  · rename_i chosen rest sorted
    simp only [pure_ok_iff,Prod.mk.injEq] at selected
    obtain ⟨rfl,rfl⟩ := selected
    have inside : chosen ∈ sortedBy (preference request)
        ((negotiations request profiles).filter (fun result => result.2.decision = .ACCEPTED)) := by
      rw [sorted]; simp
    obtain ⟨member,accepted⟩ := List.mem_filter.mp (mem_sortedBy.mp inside)
    obtain ⟨profile,offered,rfl⟩ := List.mem_map.mp member
    refine ⟨offered,requested (List.ne_nil_of_mem offered),valid profile offered,?_,?_⟩
    · exact accepted_iff.mp (by simpa using accepted)
    · simp [negotiations,Function.comp_def]

/-- No other runner that accepts the request has a lower clearance than the chosen one. -/
theorem select_adapter_least {request profile : Dict} {profiles : List Dict} {results : List NegotiationResult}
    (selected : select_adapter request profiles = .ok (profile,results)) {offered : Dict} (member : offered ∈ profiles)
    (accepts : Accepts offered request) :
    SENSITIVITY_RANK (text profile "maxSensitivity") ≤ SENSITIVITY_RANK (text offered "maxSensitivity") := by
  unfold select_adapter at selected
  obtain ⟨found,ran,selected⟩ := bind_ok_iff.mp selected
  obtain ⟨_,_,_,rfl⟩ := negotiate_all_ok.mp ran
  obtain ⟨_,_,selected⟩ := bind_ok_iff.mp selected
  split at selected
  · simp [adapter_error] at selected
  · rename_i chosen rest sorted
    simp only [pure_ok_iff,Prod.mk.injEq] at selected
    obtain ⟨rfl,_⟩ := selected
    have inside : (offered,negotiation request offered) ∈ sortedBy (preference request)
        ((negotiations request profiles).filter (fun result => result.2.decision = .ACCEPTED)) := by
      refine mem_sortedBy.mpr (List.mem_filter.mpr ⟨List.mem_map.mpr ⟨offered,member,rfl⟩,?_⟩)
      simpa using accepted_iff.mpr accepts
    have ordered := pairwise_sortedBy (preference request)
      ((negotiations request profiles).filter (fun result => result.2.decision = .ACCEPTED))
    rw [sorted] at inside ordered
    rcases List.mem_cons.mp inside with same | later
    · rw [← same]
    · have least := (List.pairwise_cons.mp ordered).1 _ later
      unfold preference at least
      rcases Prod.Lex.toLex_le_toLex.mp least with lower | ⟨equal,_⟩
      · dsimp only at lower
        omega
      · dsimp only at equal
        omega

/-- A runner that stands alone and accepts is chosen. -/
theorem select_adapter_single {request profile : Dict} (requested : validate_run_request request = .ok ())
    (offered : validate_capability_profile profile = .ok ()) (accepts : Accepts profile request) :
    select_adapter request [profile] = .ok (profile,[negotiation request profile]) := by
  have ran : [profile].foldlM (negotiate_next request) [] = .ok (negotiations request [profile]) :=
    negotiate_all_ok.mpr ⟨fun _ => requested,by simpa using offered,by simp,rfl⟩
  have accepted : (negotiation request profile).decision = .ACCEPTED := accepted_iff.mpr accepts
  unfold select_adapter
  rw [ran,ok_bind]
  simp [negotiations,accepted,sortedBy,reject,reject_if,raise_if,ok_bind,pure,Except.pure]

/-! ### Dispatch -/

theorem build_dispatch_ok {request profile dispatch : Dict} {lease_id : String} :
    build_dispatch request profile lease_id = .ok dispatch ↔
      validate_run_request request = .ok () ∧ validate_capability_profile profile = .ok () ∧
      Accepts profile request ∧ blank lease_id = false ∧ dispatch = signed_dispatch request profile lease_id := by
  unfold build_dispatch
  simp only [bind_ok_iff,pure_ok_iff,negotiate_ok,reject,reject_if_ok,decide_eq_false_iff_not,ne_eq,not_not]
  constructor
  · rintro ⟨_,⟨requested,offered,rfl⟩,_,accepted,_,leased,rfl⟩
    exact ⟨requested,offered,accepted_iff.mp accepted,leased,rfl⟩
  · rintro ⟨requested,offered,accepts,leased,rfl⟩
    exact ⟨_,⟨requested,offered,rfl⟩,(),accepted_iff.mpr accepts,(),leased,rfl⟩

section
variable {request profile : Dict} {lease_id : String}

/-- The signature leaves what it signs alone. -/
theorem signed_get? {key : String} (other : key ≠ "dispatchDigest") :
    Dict.get? key (signed_dispatch request profile lease_id) =
      Dict.get? key (unsigned_dispatch request profile lease_id) := by
  unfold signed_dispatch
  exact get?_set_ne _ _ (Ne.symm other)

theorem signed_digest : Dict.get? "dispatchDigest" (signed_dispatch request profile lease_id) =
    some (.str (canonical_digest (.obj (unsigned_dispatch request profile lease_id)))) := by
  unfold signed_dispatch
  exact get?_set_self _ _ _

theorem signed_without : (signed_dispatch request profile lease_id).without ["dispatchDigest"] =
    unsigned_dispatch request profile lease_id := by
  simp [signed_dispatch,unsigned_dispatch,Dict.set,Dict.without]

/-- The fields that a dispatch copies from its request. -/
theorem signed_copies {key : String} (copied : key ∈ DISPATCH_MATCHES) :
    Dict.get? key (signed_dispatch request profile lease_id) = some (request.get key) := by
  simp only [DISPATCH_MATCHES,List.mem_cons,List.not_mem_nil,or_false] at copied
  rcases copied with rfl | rfl | rfl | rfl | rfl | rfl | rfl <;>
    exact (signed_get? (by decide)).trans (by simp [unsigned_dispatch,Dict.get?])

theorem signed_request : (signed_dispatch request profile lease_id).get "request" = .obj request := by
  refine get_of_get? ?_
  rw [signed_get? (by decide)]
  simp [unsigned_dispatch,Dict.get?]

theorem digest_filled (value : Json) : blank (canonical_digest value) = false := hex_filled (sha256_hex _)

/-- The dispatch holds a text with a visible character under the key. -/
def Filled (dispatch : Dict) (key : String) : Prop := ∃ s, Dict.get? key dispatch = some (.str s) ∧ blank s = false

private theorem filled_copy (requested : validate_run_request request = .ok ()) {key : String}
    (copied : key ∈ DISPATCH_MATCHES) (member : key ∈ REQUEST_STRINGS) :
    Filled (signed_dispatch request profile lease_id) key := by
  obtain ⟨s,found,filled⟩ := (validate_run_request_ok.mp requested).1 key member
  exact ⟨s,by rw [signed_copies copied,get_of_get? found],filled⟩

private theorem filled_offer (offered : validate_capability_profile profile = .ok ()) {key : String}
    (member : key ∈ ["adapterId","adapterVersion","profileId"]) :
    Filled (signed_dispatch request profile lease_id) key := by
  have listed : key ∈ PROFILE_STRINGS := by
    simp only [List.mem_cons,List.not_mem_nil,or_false] at member
    rcases member with rfl | rfl | rfl <;> simp [PROFILE_STRINGS]
  obtain ⟨s,found,filled⟩ := (validate_capability_profile_ok.mp offered).1 key listed
  refine ⟨s,?_,filled⟩
  rw [← get_of_get? found]
  simp only [List.mem_cons,List.not_mem_nil,or_false] at member
  rcases member with rfl | rfl | rfl <;>
    exact (signed_get? (by decide)).trans (by simp [unsigned_dispatch,Dict.get?])

private theorem filled_own {key s : String}
    (own : Dict.get? key (unsigned_dispatch request profile lease_id) = some (.str s))
    (other : key ≠ "dispatchDigest") (filled : blank s = false) :
    Filled (signed_dispatch request profile lease_id) key :=
  ⟨s,(signed_get? other).trans own,filled⟩

/-- Every text of a built dispatch has a visible character. -/
theorem signed_texts (requested : validate_run_request request = .ok ())
    (offered : validate_capability_profile profile = .ok ()) (leased : blank lease_id = false) :
    ∀ key ∈ DISPATCH_STRINGS, Filled (signed_dispatch request profile lease_id) key := by
  intro key member
  simp only [DISPATCH_STRINGS,List.mem_cons,List.not_mem_nil,or_false] at member
  rcases member with rfl | rfl | rfl | rfl | rfl | rfl | rfl | rfl | rfl | rfl | rfl | rfl | rfl | rfl
  · exact filled_own (by simp [unsigned_dispatch,Dict.get?]) (by decide) (by decide : blank "0.1" = false)
  · exact filled_copy requested (by simp [DISPATCH_MATCHES]) (by simp [REQUEST_STRINGS])
  · exact filled_copy requested (by simp [DISPATCH_MATCHES]) (by simp [REQUEST_STRINGS])
  · exact filled_copy requested (by simp [DISPATCH_MATCHES]) (by simp [REQUEST_STRINGS])
  · exact filled_offer offered (by simp)
  · exact filled_offer offered (by simp)
  · exact filled_offer offered (by simp)
  · exact filled_own (by simp [unsigned_dispatch,Dict.get?]; rfl) (by decide) (digest_filled _)
  · exact filled_copy requested (by simp [DISPATCH_MATCHES]) (by simp [REQUEST_STRINGS])
  · exact filled_copy requested (by simp [DISPATCH_MATCHES]) (by simp [REQUEST_STRINGS])
  · exact filled_own (by simp [unsigned_dispatch,Dict.get?]) (by decide) leased
  · exact filled_copy requested (by simp [DISPATCH_MATCHES]) (by simp [REQUEST_STRINGS])
  · exact filled_own (by simp [unsigned_dispatch,Dict.get?]; rfl) (by decide) (digest_filled _)
  · exact ⟨_,signed_digest,digest_filled _⟩

theorem check_match_ok {left right : Dict} {subject other key : String} {mine theirs : Json}
    (leftIs : Dict.get? key left = some mine) (rightIs : Dict.get? key right = some theirs)
    (same : mine.eq theirs = true) : check_match left right subject other key = .ok () := by
  unfold check_match
  rw [item_ok.mpr leftIs,item_ok.mpr rightIs]
  simp [reject,same,ok_bind]

theorem eq_str_self (s : String) : (Json.str s).eq (.str s) = true := by simp

/-- The request has what its dispatch copies: texts, and the attempt. -/
theorem request_copied (requested : validate_run_request request = .ok ()) {key : String}
    (copied : key ∈ DISPATCH_MATCHES) : ∃ v, Dict.get? key request = some v ∧ v.eq v = true := by
  by_cases member : key ∈ REQUEST_STRINGS
  · obtain ⟨s,found,_⟩ := (validate_run_request_ok.mp requested).1 key member
    exact ⟨_,found,eq_str_self s⟩
  · have attempt : key = "attempt" := by
      simp only [DISPATCH_MATCHES,List.mem_cons,List.not_mem_nil,or_false] at copied
      rcases copied with rfl | rfl | rfl | rfl | rfl | rfl | rfl
      all_goals first | rfl | exact absurd (by simp [REQUEST_STRINGS]) member
    subst attempt
    obtain ⟨n,found,_⟩ := (validate_run_request_ok.mp requested).2.2.1 "attempt" (by simp)
    exact ⟨_,get?_of_get found (by simp),by simp [Json.eq,Json.num?]⟩

/-- Every dispatch that is built is a valid dispatch. -/
theorem built_dispatch_valid (requested : validate_run_request request = .ok ())
    (offered : validate_capability_profile profile = .ok ()) (leased : blank lease_id = false) :
    validate_dispatch (signed_dispatch request profile lease_id) = .ok () := by
  have attempt : positive_integer (signed_dispatch request profile lease_id) "attempt" = .ok () := by
    obtain ⟨n,found,positive⟩ := (validate_run_request_ok.mp requested).2.2.1 "attempt" (by simp)
    refine positive_integer_ok.mpr ⟨n,?_,positive⟩
    rw [get_of_get? (signed_copies (by simp [DISPATCH_MATCHES])),found]
  have digest : text (signed_dispatch request profile lease_id) "requestDigest" = canonical_digest (.obj request) :=
    text_of_get? ((signed_get? (by decide)).trans (by simp [unsigned_dispatch,Dict.get?]))
  have signature : text (signed_dispatch request profile lease_id) "dispatchDigest" =
      canonical_digest (.obj (unsigned_dispatch request profile lease_id)) := text_of_get? signed_digest
  have matching : DISPATCH_MATCHES.forM (check_match (signed_dispatch request profile lease_id) request "dispatch"
      "request") = .ok () := by
    rw [forM_ok_iff]
    intro key copied
    obtain ⟨v,found,same⟩ := request_copied requested copied
    exact check_match_ok (signed_copies copied) found (by rw [get_of_get? found]; exact same)
  unfold validate_dispatch
  rw [signed_request]
  simp only [Json.dict?,bind_ok_iff,reject,reject_if_ok,digest,signature,signed_without]
  exact ⟨(),(required_strings_ok _).mpr (signed_texts requested offered leased),(),attempt,(),requested,(),by simp,(),
    matching,by simp⟩

end

/-! ### Answers -/

/-- The fields of an answer that completes a run: times in order, texts, evidence
    for the criteria of the request and no effects. -/
structure Completes (request raw_result : Dict) : Prop where
  times : ∃ started finished, parse_time (raw_result.get "startedAt") "startedAt" = .ok started ∧
    parse_time (raw_result.get "finishedAt") "finishedAt" = .ok finished ∧ started ≤ finished
  texts : ∀ key ∈ ["startedAt","finishedAt","summary"],
    ∃ s, Dict.get? key raw_result = some (.str s) ∧ blank s = false
  status : raw_result.get "status" = .str "completed"
  arrays : ∀ key ∈ RESULT_ARRAYS, ∃ items, strings? (raw_result.getOr key (.arr [])) = some items ∧
    (∀ s ∈ items, visible s = true) ∧ items.Nodup
  usage : Dict.get? "usage" raw_result = none
  effects : Dict.get? "externalEffects" raw_result = none
  criteria : ∀ criterion ∈ strings request "completionCriteria",
    criterion ∈ (strings? (raw_result.getOr "satisfiedCriteria" (.arr []))).getD []
  evidence : (strings? (raw_result.getOr "evidenceIds" (.arr []))).getD [] ≠ []

section
variable {request profile raw_result : Dict} {lease_id provider_result_ref : String}

private theorem normalized_copies (dispatch : Dict) {key : String} (copied : key ∈ RESULT_MATCHES) :
    Dict.get? key (normalized raw_result dispatch provider_result_ref) = some (dispatch.get key) := by
  simp only [RESULT_MATCHES,List.mem_cons,List.not_mem_nil,or_false] at copied
  rcases copied with rfl | rfl | rfl | rfl | rfl | rfl | rfl <;> simp [normalized,Dict.get?]

private theorem normalized_own (dispatch : Dict) {key : String}
    (member : key ∈ ["startedAt","finishedAt","status","summary"]) :
    (normalized raw_result dispatch provider_result_ref).get key = raw_result.get key := by
  simp only [List.mem_cons,List.not_mem_nil,or_false] at member
  rcases member with rfl | rfl | rfl | rfl <;> simp [normalized,Dict.get,Dict.get?]

private theorem normalized_array (dispatch : Dict) {key : String} (member : key ∈ RESULT_ARRAYS) :
    (normalized raw_result dispatch provider_result_ref).get key = raw_result.getOr key (.arr []) := by
  simp only [RESULT_ARRAYS,List.mem_cons,List.not_mem_nil,or_false] at member
  rcases member with rfl | rfl | rfl | rfl <;> simp [normalized,Dict.get,Dict.get?]

private theorem matched_string {key : String} (copied : key ∈ RESULT_MATCHES) : key ∈ DISPATCH_STRINGS := by
  revert key
  decide

private theorem normalized_matches {dispatch : Dict} (texts : ∀ key ∈ DISPATCH_STRINGS, Filled dispatch key) :
    RESULT_MATCHES.forM (check_match
      (normalized raw_result dispatch provider_result_ref) dispatch "result" "dispatch") =
      .ok () := by
  rw [forM_ok_iff]
  intro key copied
  obtain ⟨s,found,_⟩ := texts key (matched_string copied)
  exact check_match_ok (normalized_copies dispatch copied) found (by rw [get_of_get? found]; exact eq_str_self s)

section
variable (completes : Completes request raw_result)
include completes

private theorem normalized_status (dispatch : Dict) :
    text (normalized raw_result dispatch provider_result_ref) "status" = "completed" := by
  unfold text
  rw [normalized_own dispatch (by simp),completes.status]
  rfl

/-- Its texts are those of the dispatch, its own three, the version and the status. -/
private theorem normalized_texts {dispatch : Dict} (texts : ∀ key ∈ DISPATCH_STRINGS, Filled dispatch key) :
    required_strings .AdapterError (normalized raw_result dispatch provider_result_ref) RESULT_STRINGS = .ok () := by
  have copied : ∀ key ∈ RESULT_MATCHES, Filled (normalized raw_result dispatch provider_result_ref) key := by
    intro key member
    obtain ⟨s,found,visible⟩ := texts key (matched_string member)
    exact ⟨s,by rw [normalized_copies dispatch member,get_of_get? found],visible⟩
  have own : ∀ key ∈ ["startedAt","finishedAt","summary"],
      Filled (normalized raw_result dispatch provider_result_ref) key := by
    intro key member
    obtain ⟨s,found,visible⟩ := completes.texts key member
    refine ⟨s,?_,visible⟩
    have same : (normalized raw_result dispatch provider_result_ref).get key = raw_result.get key :=
      normalized_own dispatch (by simp only [List.mem_cons,List.not_mem_nil,or_false] at member ⊢; tauto)
    rw [get_of_get? found] at same
    exact get?_of_get same (by simp)
  refine (required_strings_ok _).mpr ?_
  intro key member
  simp only [RESULT_STRINGS,List.mem_cons,List.not_mem_nil,or_false] at member
  rcases member with rfl | rfl | rfl | rfl | rfl | rfl | rfl | rfl | rfl | rfl | rfl | rfl
  · exact ⟨"0.1",by simp [normalized,Dict.get?],by decide⟩
  · exact copied _ (by simp [RESULT_MATCHES])
  · exact copied _ (by simp [RESULT_MATCHES])
  · exact copied _ (by simp [RESULT_MATCHES])
  · exact copied _ (by simp [RESULT_MATCHES])
  · exact copied _ (by simp [RESULT_MATCHES])
  · exact copied _ (by simp [RESULT_MATCHES])
  · exact copied _ (by simp [RESULT_MATCHES])
  · exact own _ (by simp)
  · exact own _ (by simp)
  · exact ⟨"completed",get?_of_get ((normalized_own dispatch (by simp)).trans completes.status) (by simp),by decide⟩
  · exact own _ (by simp)

private theorem normalized_criteria (dispatch : Dict) :
    validate_criteria (normalized raw_result dispatch provider_result_ref) request = .ok () := by
  have satisfied : (strings request "completionCriteria").filter (fun criterion =>
      !(strings (normalized raw_result dispatch provider_result_ref) "satisfiedCriteria").contains criterion) = [] := by
    rw [List.filter_eq_nil_iff]
    intro criterion member
    have met := completes.criteria criterion member
    rw [← normalized_array dispatch (by simp [RESULT_ARRAYS] : "satisfiedCriteria" ∈ RESULT_ARRAYS)] at met
    simpa [strings] using met
  have evidenced : (strings (normalized raw_result dispatch provider_result_ref) "evidenceIds").isEmpty = false := by
    have some_evidence := completes.evidence
    rw [← normalized_array dispatch (by simp [RESULT_ARRAYS] : "evidenceIds" ∈ RESULT_ARRAYS)] at some_evidence
    simpa [strings] using some_evidence
  unfold validate_criteria
  rw [if_pos (normalized_status completes dispatch),satisfied]
  simp [sortedStrings,sortedBy,reject,evidenced]

end

/-- A completing answer to a built dispatch is accepted. -/
theorem normalize_total (requested : validate_run_request request = .ok ())
    (offered : validate_capability_profile profile = .ok ()) (leased : blank lease_id = false)
    (named : blank provider_result_ref = false) (completes : Completes request raw_result) :
    normalize_provider_result (.obj raw_result) (signed_dispatch request profile lease_id) provider_result_ref =
      .ok (normalized raw_result (signed_dispatch request profile lease_id) provider_result_ref) := by
  have valid := built_dispatch_valid requested offered leased
  have filled := signed_texts requested offered leased
  have requestIs : (signed_dispatch request profile lease_id).get "request" = .obj request := signed_request
  generalize signed_dispatch request profile lease_id = dispatch at valid filled requestIs ⊢
  obtain ⟨started,finished,startedAt,finishedAt,ordered⟩ := completes.times
  have arrays : string_arrays (normalized raw_result dispatch provider_result_ref) RESULT_ARRAYS = .ok () := by
    refine string_arrays_ok.mpr ?_
    intro key member
    rw [normalized_array dispatch member]
    exact completes.arrays key member
  have usage : (normalized raw_result dispatch provider_result_ref).get "usage" =
      .obj [("inputUnits",.int 0),("outputUnits",.int 0)] := by
    simp [normalized,Dict.get,Dict.get?,Dict.getOr,completes.usage]
  have effects : (normalized raw_result dispatch provider_result_ref).getOr "externalEffects" (.arr []) = .arr [] := by
    simp [normalized,Dict.get?,Dict.getOr,completes.effects]
  have terminal : (!TERMINAL_RUN_STATUSES.contains
      (text (normalized raw_result dispatch provider_result_ref) "status")) = false := by
    rw [normalized_status completes]
    simp [TERMINAL_RUN_STATUSES]
  have units : ["inputUnits","outputUnits"].forM (fun key =>
      integer_at_least 0 (Dict.get [("inputUnits",.int 0),("outputUnits",.int 0)] key)
        ("usage." ++ key ++ " must be a non-negative integer")) = .ok () := by
    rw [forM_ok_iff]
    intro key member
    simp only [List.mem_cons,List.not_mem_nil,or_false] at member
    rcases member with rfl | rfl <;> exact integer_at_least_ok.mpr ⟨0,by simp [Dict.get,Dict.get?],le_refl _⟩
  unfold normalize_provider_result
  simp only [Json.dict?,bind_ok_iff,pure_ok_iff,reject,reject_if_ok]
  refine ⟨(),named,(),?_,trivial⟩
  unfold validate_run_result
  rw [usage,effects,requestIs]
  simp only [Json.dict?,Json.list?,bind_ok_iff,Option.getD_some,reject,reject_if_ok]
  exact ⟨(),valid,(),normalized_texts completes filled,started,
    by rw [normalized_own dispatch (by simp)]; exact startedAt,finished,
    by rw [normalized_own dispatch (by simp)]; exact finishedAt,(),by simpa using ordered,(),terminal,(),arrays,(),
      units,
    (),normalized_matches filled,(),by simp,(),rfl,normalized_criteria completes dispatch⟩

end

/-! ### An ordinary request and profile -/

def string_list (items : List String) : Json := .arr (items.map Json.str)

def ordinary_request (attempt : Int) (effects : Bool) : Dict :=
  [("schemaVersion",.str "0.1"),("runId",.str "RUN-1"),("projectId",.str "PRJ-1"),("workPackageId",.str "WP-1"),
    ("role",.str "implementer"),("objective",.str "Implement the bounded change"),("contextManifestId",.str "CTX-1"),
    ("contextManifestDigest",.str "aaaa"),("contextBytes",.int 1024),("sensitivity",.str "internal"),
    ("requiredCapabilities",string_list ["code-edit"]),("requiredModalities",string_list []),
    ("requiredTools",string_list ["filesystem"]),("requiredNetworkHosts",string_list []),
    ("structuredOutputRequired",.bool true),("externalSideEffectPossible",.bool effects),("maxOutputBytes",.int 4096),
    ("completionCriteria",string_list ["AC-1"]),("authorizationDecision",.str "auto_proceed"),("attempt",.int attempt),
    ("idempotencyKey",.str "idem-1")]

def ordinary_profile (idempotent effects : Bool) : Dict :=
  [("schemaVersion",.str "0.1"),("profileId",.str "PROFILE-codex"),("adapterId",.str "codex"),
    ("adapterVersion",.str "1.0.0"),("provider",.str "codex"),("model",.str "test-model"),("status",.str "available"),
    ("roles",string_list ["implementer"]),("capabilities",string_list ["code-edit"]),("modalities",string_list []),
    ("tools",string_list ["filesystem"]),("networkHosts",string_list []),("maxContextBytes",.int 8192),
    ("maxOutputBytes",.int 8192),("maxConcurrentRuns",.int 1),("maxSensitivity",.str "internal"),
    ("structuredOutput",.bool true),("streaming",.bool false),("externalSideEffects",.bool effects),
    ("idempotentInvocation",.bool idempotent)]

theorem ordinary_offered (idempotent effects : Bool) :
    validate_capability_profile (ordinary_profile idempotent effects) = .ok () := by
  cases idempotent <;> cases effects <;> decide +kernel

end V3Aidlc.Dispatches
