import V3Aidlc.Scheduler
import V3Aidlc.Greedy

/-!
What a schedule decides. `schedule` is the greedy selection from the candidates in
the order of their keys, where a candidate is admitted when its dependencies, its
revision, its claims and its quotas allow it beside the active reservations and the
candidates selected before it (`schedule_ok`, `admits_iff`).
-/
namespace V3Aidlc.Schedules
open V3Aidlc.Values V3Aidlc.Loops V3Aidlc.Timestamps V3Aidlc.Contracts V3Aidlc.Canonical V3Aidlc.Scheduler
open V3Aidlc.Greedy

/-! ### Usage -/

/-- The units of a cost. -/
def units (amount : Json) : Int := (amount.int?).getD 0

/-- What a candidate or a reservation charges to a dimension. -/
def charge (holder : Dict) (dimension : String) : Int :=
  (((costs holder).filter (fun cost => cost.1 = dimension)).map (fun cost => units cost.2)).sum

/-- What several of them charge. -/
def used (holders : List Dict) (dimension : String) : Int := (holders.map (fun holder => charge holder dimension)).sum

theorem lookup_filter_ne {usage : Usage} {dimension other : String} (apart : dimension ≠ other) :
    (usage.filter (fun entry => entry.1 ≠ other)).lookup dimension = usage.lookup dimension := by
  induction usage with
  | nil => rfl
  | cons entry rest ih =>
    obtain ⟨name,amount⟩ := entry
    by_cases dropped : name = other
    · subst dropped
      simpa [List.lookup_cons,beq_eq_false_iff_ne.mpr apart] using ih
    · simp only [ne_eq,dropped,not_false_eq_true,decide_true,List.filter_cons_of_pos,List.lookup_cons]
      rw [ih]

theorem usage_add (usage : Usage) (cost : String × Json) (dimension : String) :
    (usage.add cost).of dimension = usage.of dimension + if cost.1 = dimension then units cost.2 else 0 := by
  unfold Usage.add Usage.of
  by_cases same : cost.1 = dimension
  · subst same
    simp [units]
  · have apart : dimension ≠ cost.1 := Ne.symm same
    rw [List.lookup_cons,beq_eq_false_iff_ne.mpr apart]
    simp only [lookup_filter_ne apart,same,↓reduceIte,add_zero]

theorem usage_costs (usage : Usage) (holder : Dict) (dimension : String) :
    ((costs holder).foldl Usage.add usage).of dimension = usage.of dimension + charge holder dimension := by
  unfold charge
  induction costs holder generalizing usage with
  | nil => simp
  | cons cost rest ih =>
    rw [List.foldl_cons,ih,usage_add]
    by_cases same : cost.1 = dimension
    · simp [same]; omega
    · simp [same]

/-- The usage after charging several holders. -/
def charged (usage : Usage) (holders : List Dict) : Usage :=
  holders.foldl (fun usage holder => (costs holder).foldl Usage.add usage) usage

theorem charged_of (usage : Usage) (holders : List Dict) (dimension : String) :
    (charged usage holders).of dimension = usage.of dimension + used holders dimension := by
  unfold charged used
  induction holders generalizing usage with
  | nil => simp
  | cons holder rest ih =>
    rw [List.foldl_cons,ih,usage_costs,List.map_cons,List.sum_cons]
    omega

theorem used_append (left right : List Dict) (dimension : String) :
    used (left ++ right) dimension = used left dimension + used right dimension := by
  simp [used]

/-! ### Admission -/

/-- What a schedule is made against. -/
structure Situation where
  policy : Dict
  reservations : List Dict
  completed : List Json
  current_revisions : Dict
  state_revision : String
  now : Instant

/-- The reasons against a candidate once others are chosen. -/
def reasons (s : Situation) (chosen : List Dict) (candidate : Dict) : List String :=
  dependency_reasons candidate s.completed ++ revision_reasons candidate s.current_revisions ++
    conflict_reasons candidate (s.reservations ++ chosen.map (reservation_of s.state_revision)) ++
    quota_reasons s.policy (charged (charged [] s.reservations) chosen) candidate

def admits (s : Situation) (chosen : List Dict) (candidate : Dict) : Bool := (reasons s chosen candidate).isEmpty

/-- The entry of a candidate that is visited once others are chosen. -/
def entry_of (s : Situation) (visited : List Dict × Dict) : ScheduleEntry :=
  let priority := effective_priority s.now s.policy visited.2
  if admits s visited.1 visited.2 then
    ⟨text visited.2 "workPackageId",.SELECTED,["eligible and capacity reserved"],priority⟩
  else ⟨text visited.2 "workPackageId",.DEFERRED,distinct (reasons s visited.1 visited.2),priority⟩

/-- The candidates in the order in which they are visited. -/
def ordered (s : Situation) (candidates : List Dict) : List Dict := sortedBy (schedule_key s.now s.policy) candidates

/-- What the loop of `schedule` has done after some candidates. -/
theorem planning_after (s : Situation) (items : List Dict) :
    items.foldl (plan_candidate s.policy s.reservations s.completed s.current_revisions s.state_revision s.now)
        ⟨charged [] s.reservations,[],[],[]⟩ =
      ⟨charged (charged [] s.reservations) (select (admits s) items),
        (select (admits s) items).map (reservation_of s.state_revision),
        (trail (admits s) items).map (entry_of s),
        (select (admits s) items).map (fun candidate => text candidate "workPackageId")⟩ := by
  induction items using List.reverseRecOn with
  | nil => rfl
  | append_singleton items candidate ih =>
    rw [List.foldl_append,ih,List.foldl_cons,List.foldl_nil,select_snoc,trail_snoc]
    have same : defer_reasons s.policy s.reservations s.completed s.current_revisions
        ⟨charged (charged [] s.reservations) (select (admits s) items),
          (select (admits s) items).map (reservation_of s.state_revision),
          (trail (admits s) items).map (entry_of s),
          (select (admits s) items).map (fun candidate => text candidate "workPackageId")⟩ candidate =
        reasons s (select (admits s) items) candidate := rfl
    unfold plan_candidate visit
    simp only [same]
    by_cases admitted : admits s (select (admits s) items) candidate = true
    · have none : (reasons s (select (admits s) items) candidate).isEmpty = true := admitted
      simp [none,admitted,entry_of,charged]
    · have some_reason : (reasons s (select (admits s) items) candidate).isEmpty = false := by
        simpa [admits] using admitted
      simp [some_reason,admitted,entry_of]

/-- The plan that the greedy selection gives. -/
def plan_of (s : Situation) (now : String) (candidates : List Dict) : SchedulePlan where
  generated_at := now
  state_revision := s.state_revision
  entries := (trail (admits s) (ordered s candidates)).map (entry_of s)
  selected_work_packages :=
    (select (admits s) (ordered s candidates)).map (fun candidate => text candidate "workPackageId")

/-! ### Valid inputs -/

/-- The inputs that `schedule` accepts. -/
structure Schedulable (s : Situation) (now : String) (candidates : List Dict) : Prop where
  policy : validate_policy s.policy = .ok ()
  revision : blank s.state_revision = false
  clock : parse_time (.str now) "now" = .ok s.now
  completed : s.completed.all Json.hashable = true
  valid : ∀ candidate ∈ candidates, validate_candidate candidate = .ok ()
  reservations : ∀ reservation ∈ s.reservations, validate_reservation reservation = .ok ()
  distinct : (candidates.map (fun candidate => text candidate "workPackageId")).Nodup
  project : several ((candidates ++ s.reservations).map (fun item => text item "projectId")) = false

section
variable {candidates : List Dict} {active_reservations : List Json} {policy : Dict} {completed_dependencies : List Json}
  {current_revisions : Dict} {state_revision now : String}

theorem reservations_ok {reservations : List Dict} : active_reservations.mapM (fun reservation => do
      let reservation ← as_dict reservation
      validate_reservation reservation
      return reservation) = (.ok reservations : Py (List Dict)) ↔
    active_reservations = reservations.map Json.obj ∧
      ∀ reservation ∈ reservations, validate_reservation reservation = .ok () := by
  rw [mapM_ok_iff]
  induction active_reservations generalizing reservations with
  | nil => cases reservations <;> simp
  | cons first rest ih =>
    cases reservations with
    | nil => simp
    | cons reservation others =>
      rw [List.forall₂_cons,ih]
      simp only [bind_ok_iff,as_dict_ok,pure_ok_iff,List.map_cons,List.cons.injEq,List.forall_mem_cons]
      constructor
      · rintro ⟨⟨_,rfl,_,valid,rfl⟩,rfl,later⟩; exact ⟨⟨rfl,rfl⟩,valid,later⟩
      · rintro ⟨⟨rfl,rfl⟩,valid,later⟩; exact ⟨⟨_,rfl,(),valid,rfl⟩,rfl,later⟩

/-- A schedule is the greedy plan of valid inputs. -/
theorem schedule_ok {plan : SchedulePlan} : schedule candidates active_reservations policy completed_dependencies
      current_revisions state_revision now = .ok plan ↔
    ∃ reservations clock, active_reservations = reservations.map Json.obj ∧
      Schedulable ⟨policy,reservations,completed_dependencies,current_revisions,state_revision,clock⟩ now candidates ∧
      plan = plan_of ⟨policy,reservations,completed_dependencies,current_revisions,state_revision,
        clock⟩ now candidates := by
  unfold schedule
  simp only [bind_ok_iff,reject,reject_if_ok,raise_if_ok,forM_ok_iff,reservations_ok,pure_ok_iff,Bool.not_eq_false',
    decide_eq_true_eq]
  constructor
  · rintro ⟨_,validPolicy,_,revised,clock,parsed,_,hashable,_,valid,reservations,⟨same,reserved⟩,_,apart,_,one,rfl⟩
    refine ⟨reservations,clock,same,⟨validPolicy,revised,parsed,hashable,valid,reserved,apart,one⟩,?_⟩
    have planned := planning_after ⟨policy,reservations,completed_dependencies,current_revisions,state_revision,clock⟩
      (ordered ⟨policy,reservations,completed_dependencies,current_revisions,state_revision,clock⟩ candidates)
    simp only [ordered,charged] at planned
    simp only [plan_of,ordered]
    rw [planned]
  · rintro ⟨reservations,clock,same,valid,rfl⟩
    refine ⟨(),valid.policy,(),valid.revision,clock,valid.clock,(),valid.completed,(),valid.valid,reservations,
      ⟨same,valid.reservations⟩,(),valid.distinct,(),valid.project,?_⟩
    have planned := planning_after ⟨policy,reservations,completed_dependencies,current_revisions,state_revision,clock⟩
      (ordered ⟨policy,reservations,completed_dependencies,current_revisions,state_revision,clock⟩ candidates)
    simp only [ordered,charged] at planned
    simp only [plan_of,ordered]
    rw [planned]

end

/-! ### Valid candidates -/

theorem nonnegative_int_ok {value : Json} {key : String} {n : Int} :
    nonnegative_int value key = .ok n ↔ value = .int n ∧ 0 ≤ n := by
  unfold nonnegative_int
  cases value with
  | int m =>
    simp only [integer?,reject,bind_ok_iff,reject_if_ok,decide_eq_false_iff_not,not_lt,pure_ok_iff,exists_and_left,
      exists_const,Json.int.injEq]
    constructor
    · rintro ⟨positive,rfl⟩; exact ⟨rfl,positive⟩
    · rintro ⟨rfl,positive⟩; exact ⟨positive,rfl⟩
  | _ => simp [integer?,scheduler_error]

theorem candidate_cost_ok {cost : String × Json} :
    candidate_cost cost = .ok () ↔ cost.1 ≠ "" ∧ ∃ n, cost.2 = .int n ∧ 0 ≤ n := by
  unfold candidate_cost
  simp [reject,nonnegative_int_ok]

/-- The domain of a claim. -/
def domain_of (claim : Json) : String := text ((claim.dict?).getD []) "domain"

theorem candidate_claims_ok {claims : List Json} {domains : List String} :
    claims.foldlM candidate_claim [] = .ok domains ↔
      (∀ claim ∈ claims, ∃ fields, claim = .obj fields ∧ validate_claim fields = .ok ()) ∧
      (claims.map domain_of).Nodup ∧ domains = claims.map domain_of := by
  induction claims using List.reverseRecOn generalizing domains with
  | nil =>
    rw [foldlM_nil_ok]
    exact ⟨fun same => ⟨by simp,by simp,same.symm⟩,fun all => all.2.2.symm⟩
  | append_singleton claims claim ih =>
    rw [List.foldlM_append,bind_ok_iff]
    simp only [foldlM_cons_ok,foldlM_nil_ok,exists_eq_right]
    have distinct : ((claims ++ [claim]).map domain_of).Nodup ↔
        (claims.map domain_of).Nodup ∧ domain_of claim ∉ claims.map domain_of := by
      rw [List.map_append,List.nodup_append_comm,List.map_cons,List.map_nil,List.singleton_append,List.nodup_cons,
        and_comm]
    rw [distinct]
    constructor
    · rintro ⟨before,ran,next⟩
      obtain ⟨valid,apart,rfl⟩ := ih.mp ran
      unfold candidate_claim at next
      cases object : claim.dict? with
      | none => simp [object,scheduler_error] at next
      | some fields =>
        have claimIs := dict?_eq_some.mp object
        subst claimIs
        simp only [Json.dict?,bind_ok_iff,reject,reject_if_ok,List.contains_eq_mem,decide_eq_false_iff_not,
          pure_ok_iff] at next
        obtain ⟨_,here,_,fresh,rfl⟩ := next
        refine ⟨?_,⟨apart,fresh⟩,by simp [domain_of,Json.dict?]⟩
        intro other member
        rcases List.mem_append.mp member with earlier | last
        · exact valid other earlier
        · rw [List.mem_singleton.mp last]
          exact ⟨fields,rfl,here⟩
    · rintro ⟨valid,⟨apart,fresh⟩,rfl⟩
      obtain ⟨fields,rfl,here⟩ := valid claim (by simp)
      refine ⟨_,ih.mpr ⟨fun other member => valid other (by simp [member]),apart,rfl⟩,?_⟩
      unfold candidate_claim
      simp only [Json.dict?,bind_ok_iff,reject,reject_if_ok,List.contains_eq_mem,decide_eq_false_iff_not,pure_ok_iff]
      exact ⟨(),here,(),fresh,by simp [domain_of,Json.dict?]⟩

/-- The fields of a valid candidate. -/
theorem validate_candidate_ok {candidate : Dict} : validate_candidate candidate = .ok () ↔
    (∀ key ∈ CANDIDATE_STRINGS, ∃ s, Dict.get? key candidate = some (.str s) ∧ blank s = false) ∧
    text candidate "priorityClass" ∈ PRIORITY_CLASSES ∧ (∃ n, candidate.get "userPriority" = .int n) ∧
    (∃ queued, parse_time (candidate.get "queuedAt") "queuedAt" = .ok queued) ∧
    (∃ ids, strings? (candidate.get "dependencyIds") = some ids ∧ (∀ id ∈ ids, visible id = true) ∧ ids.Nodup) ∧
    (∃ claims, candidate.get "claims" = .arr claims ∧ claims ≠ [] ∧
      (∀ claim ∈ claims, ∃ fields, claim = .obj fields ∧ validate_claim fields = .ok ()) ∧
      (claims.map domain_of).Nodup) ∧
    ∃ charges, candidate.get "quotaCosts" = .obj charges ∧ charges ≠ [] ∧
      ∀ cost ∈ charges, candidate_cost cost = .ok () := by
  have priority : (integer? (candidate.get "userPriority")).isNone = false ↔
      ∃ n, candidate.get "userPriority" = .int n := by
    cases candidate.get "userPriority" <;> simp [integer?]
  unfold validate_candidate
  simp only [bind_ok_iff,required_strings_ok,reject,reject_if_ok,Bool.not_eq_false',List.contains_eq_mem,
    decide_eq_true_eq,Scheduler.string_array,string_array_ok,priority]
  cases claimed : (candidate.get "claims").list? with
  | none =>
    have absent := no_list claimed
    simp [scheduler_error,absent]
  | some claims =>
    have claimsIs := list?_eq_some.mp claimed
    cases charged : (candidate.get "quotaCosts").dict? with
    | none =>
      have absent := no_dict charged
      simp [scheduler_error,absent]
    | some charges =>
      have chargesIs := dict?_eq_some.mp charged
      simp only [bind_ok_iff,reject_if_ok,List.isEmpty_eq_false_iff,candidate_claims_ok,forM_ok_iff,claimsIs,chargesIs,
        Json.arr.injEq,Json.obj.injEq]
      constructor
      · rintro ⟨_,texts,_,ranked,_,user,queued,parsed,ids,⟨listed,shown,_,apart⟩,_,some_claims,_,⟨valid,domains,rfl⟩,_,
          some_costs,costs⟩
        exact ⟨texts,ranked,user,⟨queued,parsed⟩,⟨ids,listed,shown,apart⟩,⟨claims,rfl,some_claims,valid,domains⟩,
          charges,
          rfl,some_costs,costs⟩
      · rintro ⟨texts,ranked,user,⟨queued,parsed⟩,⟨ids,listed,shown,apart⟩,⟨_,rfl,some_claims,valid,domains⟩,_,rfl,
          some_costs,costs⟩
        exact ⟨(),texts,(),ranked,(),user,queued,parsed,ids,⟨listed,shown,Nat.zero_le _,apart⟩,(),some_claims,_,
          ⟨valid,domains,rfl⟩,(),some_costs,costs⟩

theorem costs_nonneg {candidate : Dict} (valid : validate_candidate candidate = .ok ()) :
    ∀ cost ∈ costs candidate, 0 ≤ units cost.2 := by
  obtain ⟨_,_,_,_,_,_,charges,chargesIs,_,each⟩ := validate_candidate_ok.mp valid
  intro cost member
  have listed : cost ∈ charges := by
    simpa [costs,chargesIs,Json.dict?] using member
  obtain ⟨_,n,amount,positive⟩ := candidate_cost_ok.mp (each cost listed)
  simpa [units,amount,Json.int?] using positive

theorem charge_nonneg {candidate : Dict} (valid : validate_candidate candidate = .ok ()) (dimension : String) :
    0 ≤ charge candidate dimension := by
  unfold charge
  refine List.sum_nonneg ?_
  intro amount member
  obtain ⟨cost,kept,rfl⟩ := List.mem_map.mp member
  exact costs_nonneg valid cost (List.mem_filter.mp kept).1

theorem used_nonneg {holders : List Dict} (valid : ∀ holder ∈ holders, validate_candidate holder = .ok ())
    (dimension : String) : 0 ≤ used holders dimension := by
  unfold used
  refine List.sum_nonneg ?_
  intro amount member
  obtain ⟨holder,inside,rfl⟩ := List.mem_map.mp member
  exact charge_nonneg (valid holder inside) dimension

/-! ### What admission means -/

/-- Two holders have claims that cannot be granted together. -/
def Clash (left right : Dict) : Prop :=
  ∃ mine ∈ records left "claims", ∃ theirs ∈ records right "claims", claims_conflict mine theirs = true

/-- The candidate may run beside the active reservations and the chosen candidates. -/
structure Admissible (s : Situation) (chosen : List Dict) (candidate : Dict) : Prop where
  dependencies : ∀ id ∈ strings candidate "dependencyIds", memList (.str id) s.completed = true
  known : s.current_revisions.get (text candidate "workPackageId") ≠ .null
  current : (s.current_revisions.get (text candidate "workPackageId")).eq (candidate.get "subjectRevision") = true
  claims : ∀ holder ∈ s.reservations ++ chosen, ¬ Clash candidate holder
  quotas : ∀ cost ∈ costs candidate, ∃ limit, Dict.get? cost.1 (limits s.policy) = some limit ∧
    used (s.reservations ++ chosen) cost.1 + units cost.2 ≤ units limit

theorem distinct_nil {items : List String} : distinct items = [] ↔ items = [] := by
  rw [List.eq_nil_iff_forall_not_mem,List.eq_nil_iff_forall_not_mem]
  simp [mem_distinct]

theorem dependency_reasons_nil {candidate : Dict} {completed : List Json} :
    dependency_reasons candidate completed = [] ↔
      ∀ id ∈ strings candidate "dependencyIds", memList (.str id) completed = true := by
  unfold dependency_reasons
  rw [List.map_eq_nil_iff,sorted_nil]
  simp

theorem revision_reasons_nil {candidate current_revisions : Dict} : revision_reasons candidate current_revisions = [] ↔
    current_revisions.get (text candidate "workPackageId") ≠ .null ∧
      (current_revisions.get (text candidate "workPackageId")).eq (candidate.get "subjectRevision") = true := by
  unfold revision_reasons
  cases current_revisions.get (text candidate "workPackageId") <;> simp [Json.isNull]

theorem conflict_reasons_nil {candidate : Dict} {reservations : List Dict} :
    conflict_reasons candidate reservations = [] ↔ ∀ holder ∈ reservations, ¬ Clash candidate holder := by
  unfold conflict_reasons Clash
  rw [sorted_nil,distinct_nil]
  simp only [List.flatMap_eq_nil_iff,List.map_eq_nil_iff,List.filter_eq_nil_iff]
  constructor
  · rintro none holder member ⟨mine,left,theirs,right,clash⟩
    exact none holder member mine left theirs right clash
  · intro free holder member mine left theirs right clash
    exact free holder member ⟨mine,left,theirs,right,clash⟩

theorem quota_reasons_nil {policy candidate : Dict} {usage : Usage} : quota_reasons policy usage candidate = [] ↔
    ∀ cost ∈ costs candidate, ∃ limit, Dict.get? cost.1 (limits policy) = some limit ∧
      usage.of cost.1 + units cost.2 ≤ units limit := by
  unfold quota_reasons
  rw [List.flatMap_eq_nil_iff]
  constructor
  · intro none cost member
    have quiet := none cost (mem_sortedBy.mpr member)
    cases found : Dict.get? cost.1 (limits policy) with
    | none => simp [found] at quiet
    | some limit =>
      refine ⟨limit,rfl,?_⟩
      simpa [found,units] using quiet
  · intro within cost member
    obtain ⟨limit,found,fits⟩ := within cost (mem_sortedBy.mp member)
    have enough : ¬ (limit.int?).getD 0 < usage.of cost.1 + (cost.2.int?).getD 0 := not_lt.mpr fits
    simp [found,enough]

/-- The reservation of a candidate holds the candidate's claims. -/
theorem clash_reservation {candidate other : Dict} {state_revision : String} :
    Clash candidate (reservation_of state_revision other) ↔ Clash candidate other := by
  have same : records (reservation_of state_revision other) "claims" = records other "claims" := by
    unfold records items
    have held : (reservation_of state_revision other).get "claims" = other.get "claims" := by
      simp [reservation_of,Dict.get,Dict.get?]
    rw [held]
  unfold Clash
  rw [same]

theorem admits_iff {s : Situation} {chosen : List Dict} {candidate : Dict} :
    admits s chosen candidate = true ↔ Admissible s chosen candidate := by
  unfold admits reasons
  simp only [List.isEmpty_iff,List.append_eq_nil_iff,dependency_reasons_nil,revision_reasons_nil,conflict_reasons_nil,
    quota_reasons_nil,charged_of]
  have start : ∀ dimension, Usage.of [] dimension = 0 := fun _ => rfl
  have claims : (∀ holder ∈ s.reservations ++ chosen.map (reservation_of s.state_revision), ¬ Clash candidate holder) ↔
      ∀ holder ∈ s.reservations ++ chosen, ¬ Clash candidate holder := by
    simp only [List.mem_append,or_imp,forall_and,List.forall_mem_map,clash_reservation]
  rw [claims]
  simp only [start,zero_add,← used_append]
  constructor
  · rintro ⟨⟨⟨dependencies,known,current⟩,free⟩,quotas⟩
    exact ⟨dependencies,known,current,free,quotas⟩
  · rintro ⟨dependencies,known,current,free,quotas⟩
    exact ⟨⟨⟨dependencies,known,current⟩,free⟩,quotas⟩

/-- With fewer chosen candidates it is no harder to be admitted. -/
theorem admissible_narrows {s : Situation} {chosen more : List Dict} {candidate : Dict}
    (valid : ∀ holder ∈ more, validate_candidate holder = .ok ())
      (admissible : Admissible s (chosen ++ more) candidate) :
    Admissible s chosen candidate := by
  refine ⟨admissible.dependencies,admissible.known,admissible.current,?_,?_⟩
  · intro holder member
    refine admissible.claims holder ?_
    rw [← List.append_assoc]
    exact List.mem_append_left _ member
  · intro cost member
    obtain ⟨limit,found,fits⟩ := admissible.quotas cost member
    have extra := used_nonneg valid cost.1
    rw [← List.append_assoc,used_append] at fits
    exact ⟨limit,found,by omega⟩

end V3Aidlc.Schedules
