import V3Aidlc.ScheduleSafety
import V3Aidlc.Groups
import Mathlib.Data.List.Perm.Basic

/-!
The order of the inputs of a schedule does not matter: candidates, reservations,
claims, dependencies, costs and limits may come in any order. Every reason is
sorted before it is reported and the order of the visits is decided by keys that
no two candidates share (`schedule_rearranged`).
-/
namespace V3Aidlc.SchedulePermutations
open V3Aidlc.Values V3Aidlc.Loops V3Aidlc.Timestamps V3Aidlc.Contracts V3Aidlc.Canonical V3Aidlc.Scheduler
open V3Aidlc.Greedy
open V3Aidlc.Schedules V3Aidlc.ScheduleSafety V3Aidlc.Groups

/-! ### Permutations -/

/-- The second list is a permutation of the first whose elements are related to
    those of the first. -/
def Rearranged {α : Type} (related : α → α → Prop) (xs ys : List α) : Prop :=
  ∃ middle, xs.Perm middle ∧ List.Forall₂ related middle ys

section
variable {α : Type} {related : α → α → Prop} {xs ys : List α}

theorem rearranged_symm (symm : ∀ {a b}, related a b → related b a) (moved : Rearranged related xs ys) :
    Rearranged related ys xs := by
  obtain ⟨middle,same,pairs⟩ := moved
  have back : List.Forall₂ related ys middle := pairs.flip.imp (fun _ _ pair => symm pair)
  obtain ⟨other,moved,paired⟩ := List.perm_comp_forall₂ same pairs
  exact ⟨other,paired.symm,moved.flip.imp (fun _ _ pair => symm pair)⟩

theorem rearranged_map {β : Type} {f : α → β} (agree : ∀ a b, related a b → f a = f b)
    (moved : Rearranged related xs ys) :
    (xs.map f).Perm (ys.map f) := by
  obtain ⟨middle,same,pairs⟩ := moved
  have equal : middle.map f = ys.map f := by
    clear same
    induction pairs with
    | nil => rfl
    | cons first _ ih => rw [List.map_cons,List.map_cons,agree _ _ first,ih]
  rw [← equal]
  exact same.map f

theorem rearranged_left (moved : Rearranged related xs ys) : ∀ a ∈ xs, ∃ b ∈ ys, related a b := by
  obtain ⟨middle,same,pairs⟩ := moved
  exact fun a member => forall₂_left pairs a (same.mem_iff.mp member)

end

theorem proper_dict {v : Json} (proper : v.proper = true) : Dict.keys ((v.dict?).getD []) |>.Nodup := by
  cases v with
  | obj fields => exact (proper_obj proper).1
  | _ => exact List.nodup_nil

/-! ### Rearranged records -/

/-- Equal values, or lists with the same elements in another order. -/
def SameItems (v w : Json) : Prop := v = w ∨ ∃ xs ys, v = .arr xs ∧ w = .arr ys ∧ xs.Perm ys

/-- Equal values, or dicts with the same entries in another order. -/
def SameFields (v w : Json) : Prop := v = w ∨ ∃ xs ys : Dict, v = .obj xs ∧ w = .obj ys ∧ xs.Perm ys

def LISTED : List String := ["claims","dependencyIds","quotaCosts"]

/-- A candidate or reservation with its claims, dependencies and costs in another
    order. -/
structure Reordered (left right : Dict) : Prop where
  fields : ∀ key ∉ LISTED, Dict.get? key left = Dict.get? key right
  claims : SameItems (left.get "claims") (right.get "claims")
  dependencies : SameItems (left.get "dependencyIds") (right.get "dependencyIds")
  costs : SameFields (left.get "quotaCosts") (right.get "quotaCosts")

/-- A policy with its limits in another order. -/
structure ReorderedPolicy (left right : Dict) : Prop where
  fields : ∀ key, key ≠ "limits" → Dict.get? key left = Dict.get? key right
  limits : SameFields (left.get "limits") (right.get "limits")

/-- A list element that is such a record, or any equal value. -/
def ReorderedItem (v w : Json) : Prop := v = w ∨ ∃ left right :
    Dict, v = .obj left ∧ w = .obj right ∧ Reordered left right

theorem sameItems_symm {v w : Json} (same : SameItems v w) : SameItems w v := by
  rcases same with rfl | ⟨xs,ys,left,right,perm⟩
  · exact .inl rfl
  · exact .inr ⟨ys,xs,right,left,perm.symm⟩

theorem sameFields_symm {v w : Json} (same : SameFields v w) : SameFields w v := by
  rcases same with rfl | ⟨xs,ys,left,right,perm⟩
  · exact .inl rfl
  · exact .inr ⟨ys,xs,right,left,perm.symm⟩

theorem reordered_refl (d : Dict) : Reordered d d := ⟨fun _ _ => rfl,.inl rfl,.inl rfl,.inl rfl⟩

theorem reordered_symm {left right : Dict} (same : Reordered left right) : Reordered right left :=
  ⟨fun key other => (same.fields key other).symm,sameItems_symm same.claims,sameItems_symm same.dependencies,
    sameFields_symm same.costs⟩

theorem reorderedPolicy_symm {left right : Dict} (same : ReorderedPolicy left right) : ReorderedPolicy right left :=
  ⟨fun key other => (same.fields key other).symm,sameFields_symm same.limits⟩

theorem reorderedItem_symm {v w : Json} (same : ReorderedItem v w) : ReorderedItem w v := by
  rcases same with rfl | ⟨left,right,leftIs,rightIs,reordered⟩
  · exact .inl rfl
  · exact .inr ⟨right,left,rightIs,leftIs,reordered_symm reordered⟩

theorem sameItems_arr {w : Json} {xs : List Json} (same : SameItems (.arr xs) w) : ∃ ys, w = .arr ys ∧ xs.Perm ys := by
  rcases same with rfl | ⟨_,ys,left,right,perm⟩
  · exact ⟨xs,rfl,List.Perm.refl xs⟩
  · cases left
    exact ⟨ys,right,perm⟩

theorem sameFields_obj {w : Json} {xs : Dict} (same : SameFields (.obj xs) w) : ∃ ys :
    Dict, w = .obj ys ∧ xs.Perm ys := by
  rcases same with rfl | ⟨_,ys,left,right,perm⟩
  · exact ⟨xs,rfl,List.Perm.refl xs⟩
  · cases left
    exact ⟨ys,right,perm⟩

theorem sameItems_elements {v w : Json} (same : SameItems v w) : ((v.list?).getD []).Perm ((w.list?).getD []) := by
  rcases same with rfl | ⟨xs,ys,rfl,rfl,perm⟩
  · exact List.Perm.refl _
  · exact perm

theorem sameFields_entries {v w : Json} (same : SameFields v w) : ((v.dict?).getD []).Perm ((w.dict?).getD []) := by
  rcases same with rfl | ⟨xs,ys,rfl,rfl,perm⟩
  · exact List.Perm.refl _
  · exact perm

/-- The strings of rearranged lists are rearranged. -/
theorem sameItems_strings {v w : Json} (same : SameItems v w) {xs : List String} (listed : strings? v = some xs) :
    ∃ ys, strings? w = some ys ∧ xs.Perm ys := by
  have valueIs := strings?_eq_some.mp listed
  subst valueIs
  obtain ⟨values,rfl,perm⟩ := sameItems_arr same
  obtain ⟨ys,rfl,moved⟩ := perm_map perm
  exact ⟨ys,strings?_eq_some.mpr rfl,moved⟩

section
variable {left right : Dict}

theorem reordered_get (same : Reordered left right) {key : String} (other : key ∉ LISTED) :
    left.get key = right.get key := by
  unfold Dict.get
  rw [same.fields key other]

theorem reordered_text (same : Reordered left right) {key : String} (other : key ∉ LISTED) :
    text left key = text right key :=
  text_of_get (reordered_get same other)

theorem reordered_strings (same : Reordered left right) :
    (strings left "dependencyIds").Perm (strings right "dependencyIds") := by
  unfold strings
  cases listed : strings? (left.get "dependencyIds") with
  | some xs =>
    obtain ⟨ys,found,moved⟩ := sameItems_strings same.dependencies listed
    rw [found]
    exact moved
  | none =>
    cases other : strings? (right.get "dependencyIds") with
    | none => exact List.Perm.refl _
    | some ys =>
      obtain ⟨xs,found,_⟩ := sameItems_strings (sameItems_symm same.dependencies) other
      rw [listed] at found
      cases found

/-- Required texts are not among what is reordered. -/
theorem reordered_required (same : Reordered left right) {keys : List String} (plain : ∀ key ∈ keys, key ∉ LISTED)
    (texts : ∀ key ∈ keys, ∃ s, Dict.get? key left = some (.str s) ∧ blank s = false) :
    ∀ key ∈ keys, ∃ s, Dict.get? key right = some (.str s) ∧ blank s = false := by
  intro key member
  rw [← same.fields key (plain key member)]
  exact texts key member

theorem reordered_list (same : Reordered left right) {claims : List Json} (listed : left.get "claims" = .arr claims) :
    ∃ others, right.get "claims" = .arr others ∧ claims.Perm others := by
  have claimed := same.claims
  rw [listed] at claimed
  exact sameItems_arr claimed

theorem reordered_charges (same : Reordered left right) {charges : Dict}
    (charged : left.get "quotaCosts" = .obj charges) :
    ∃ others, right.get "quotaCosts" = .obj others ∧ charges.Perm others := by
  have costs := same.costs
  rw [charged] at costs
  exact sameFields_obj costs

theorem reordered_claims (same : Reordered left right) : (records left "claims").Perm (records right "claims") :=
  (sameItems_elements same.claims).filterMap Json.dict?

theorem reordered_costs (same : Reordered left right) : (costs left).Perm (costs right) := sameFields_entries same.costs

theorem reordered_charge (same : Reordered left right) (dimension : String) :
    charge left dimension = charge right dimension :=
  (((reordered_costs same).filter _).map _).sum_eq

end

/-! ### Valid inputs stay valid -/

theorem candidate_reordered {left right : Dict} (same : Reordered left right)
    (valid : validate_candidate left = .ok ()) :
    validate_candidate right = .ok () := by
  obtain ⟨texts,ranked,⟨user,userIs⟩,⟨queued,parsed⟩,⟨ids,listed,shown,apart⟩,
    ⟨claims,claimsIs,some_claims,each,domains⟩,
    charges,chargesIs,some_costs,amounts⟩ := validate_candidate_ok.mp valid
  obtain ⟨others,othersIs,moved⟩ := reordered_list same claimsIs
  obtain ⟨entries,entriesIs,shuffled⟩ := reordered_charges same chargesIs
  obtain ⟨names,named,swapped⟩ := sameItems_strings same.dependencies listed
  refine validate_candidate_ok.mpr ⟨?_,?_,⟨user,?_⟩,⟨queued,?_⟩,⟨names,named,?_,swapped.nodup_iff.mp apart⟩,
    ⟨others,othersIs,?_,?_,(moved.map domain_of).nodup_iff.mp domains⟩,entries,entriesIs,?_,?_⟩
  · exact reordered_required same (by decide) texts
  · rwa [← reordered_text same (by decide)]
  · rwa [← reordered_get same (by decide)]
  · rwa [← reordered_get same (by decide)]
  · exact fun id member => shown id (swapped.mem_iff.mpr member)
  · rintro rfl
    exact some_claims moved.eq_nil
  · exact fun claim member => each claim (moved.mem_iff.mpr member)
  · rintro rfl
    exact some_costs shuffled.eq_nil
  · exact fun cost member => amounts cost (shuffled.mem_iff.mpr member)

def RESERVATION_STRINGS : List String := ["reservationId","projectId","workPackageId","subjectRevision"]

/-- The fields of a valid reservation. -/
theorem validate_reservation_ok {reservation : Dict} : validate_reservation reservation = .ok () ↔
    (∀ key ∈ RESERVATION_STRINGS, ∃ s, Dict.get? key reservation = some (.str s) ∧ blank s = false) ∧
    (∃ claims, reservation.get "claims" = .arr claims ∧ claims ≠ [] ∧
      ∀ claim ∈ claims, reservation_claim claim = .ok ()) ∧
    ∃ charges, reservation.get "quotaCosts" = .obj charges ∧ ∀ cost ∈ charges, reservation_cost cost = .ok () := by
  unfold validate_reservation
  cases claimed : (reservation.get "claims").list? with
  | none =>
    have absent := no_list claimed
    simp [scheduler_error,absent]
  | some claims =>
    have claimsIs := list?_eq_some.mp claimed
    cases charged : (reservation.get "quotaCosts").dict? with
    | none =>
      have absent := no_dict charged
      simp [scheduler_error,absent]
    | some charges =>
      have chargesIs := dict?_eq_some.mp charged
      simp only [bind_ok_iff,required_strings_ok,reject,reject_if_ok,List.isEmpty_eq_false_iff,forM_ok_iff,claimsIs,
        chargesIs,Json.arr.injEq,Json.obj.injEq,exists_const,exists_eq_left',RESERVATION_STRINGS,and_assoc]

theorem reservation_reordered {left right : Dict} (same : Reordered left right)
    (valid : validate_reservation left = .ok ()) : validate_reservation right = .ok () := by
  obtain ⟨texts,⟨claims,claimsIs,some_claims,each⟩,charges,chargesIs,amounts⟩ := validate_reservation_ok.mp valid
  obtain ⟨others,othersIs,moved⟩ := reordered_list same claimsIs
  obtain ⟨entries,entriesIs,shuffled⟩ := reordered_charges same chargesIs
  refine validate_reservation_ok.mpr ⟨?_,⟨others,othersIs,?_,?_⟩,entries,entriesIs,?_⟩
  · exact reordered_required same (by decide) texts
  · rintro rfl
    exact some_claims moved.eq_nil
  · exact fun claim member => each claim (moved.mem_iff.mpr member)
  · exact fun cost member => amounts cost (shuffled.mem_iff.mpr member)

theorem policy_get {left right : Dict} (same : ReorderedPolicy left right) {key : String} (other : key ≠ "limits") :
    left.get key = right.get key := by
  unfold Dict.get
  rw [same.fields key other]

theorem policy_reordered {left right : Dict} (same : ReorderedPolicy left right)
    (valid : validate_policy left = .ok ()) :
    validate_policy right = .ok () := by
  unfold validate_policy at valid ⊢
  obtain ⟨_,required,valid⟩ := bind_ok_iff.mp valid
  have texts := (required_strings_ok .SchedulerError).mp required
  refine bind_ok_iff.mpr ⟨(),(required_strings_ok .SchedulerError).mpr ?_,?_⟩
  · intro key member
    have other : key ≠ "limits" := by
      revert key
      decide
    rw [← same.fields key other]
    exact texts key member
  rw [← policy_get same (show "agingWindowSeconds" ≠ "limits" by decide),
    ← policy_get same (show "maxAgingBoost" ≠ "limits" by decide)]
  cases bounds : (left.get "limits").dict? with
  | none => simp [bounds,scheduler_error] at valid
  | some entries =>
    have limited := same.limits
    rw [dict?_eq_some.mp bounds] at limited
    obtain ⟨others,othersIs,shuffled⟩ := sameFields_obj limited
    rw [bounds] at valid
    rw [othersIs]
    simp only [Json.dict?,bind_ok_iff,reject,reject_if_ok,forM_ok_iff,List.isEmpty_eq_false_iff] at valid ⊢
    obtain ⟨_,some_limits,_,each,rest⟩ := valid
    refine ⟨(),?_,(),?_,rest⟩
    · rintro rfl
      exact some_limits shuffled.eq_nil
    · exact fun limit member => each limit (shuffled.mem_iff.mpr member)

/-! ### The same reasons -/

/-- Two situations that differ in the order of their data only. -/
structure SameSituation (left right : Situation) : Prop where
  policy : ReorderedPolicy left.policy right.policy
  reservations : Rearranged Reordered left.reservations right.reservations
  completed : left.completed = right.completed
  current_revisions : left.current_revisions = right.current_revisions
  state_revision : left.state_revision = right.state_revision
  now : left.now = right.now

section
variable {s t : Situation}

theorem limits_same (same : SameSituation s t) (distinct : (limits s.policy).keys.Nodup) (dimension : String) :
    Dict.get? dimension (limits s.policy) = Dict.get? dimension (limits t.policy) :=
  get?_perm distinct (sameFields_entries same.policy.limits) dimension

theorem priority_same (same : SameSituation s t) {left right : Dict} (reordered : Reordered left right) :
    effective_priority s.now s.policy left = effective_priority t.now t.policy right := by
  unfold effective_priority queued_at int_field
  rw [reordered_text reordered (show "priorityClass" ∉ LISTED by decide),
    reordered_text reordered (show "queuedAt" ∉ LISTED by decide),same.now,
    policy_get same.policy (show "maxAgingBoost" ≠ "limits" by decide),
    policy_get same.policy (show "agingWindowSeconds" ≠ "limits" by decide)]

theorem key_same (same : SameSituation s t) {left right : Dict} (reordered : Reordered left right) :
    schedule_key s.now s.policy left = schedule_key t.now t.policy right := by
  unfold schedule_key int_field queued_at
  rw [priority_same same reordered,reordered_get reordered (show "userPriority" ∉ LISTED by decide),
    reordered_text reordered (show "queuedAt" ∉ LISTED by decide),
    reordered_text reordered (show "workPackageId" ∉ LISTED by decide)]

theorem used_related {chosen picked : List Dict} (pairs : List.Forall₂ Reordered chosen picked) (dimension : String) :
    used chosen dimension = used picked dimension := by
  unfold used
  induction pairs with
  | nil => rfl
  | cons first _ ih => rw [List.map_cons,List.map_cons,List.sum_cons,List.sum_cons,reordered_charge first,ih]

theorem used_rearranged {holders others : List Dict} (moved : Rearranged Reordered holders others)
    (dimension : String) :
    used holders dimension = used others dimension :=
  (rearranged_map (f := fun holder => charge holder dimension)
    (fun _ _ reordered => reordered_charge reordered dimension) moved).sum_eq

theorem dependency_reasons_same (same : SameSituation s t) {left right : Dict} (reordered : Reordered left right) :
    dependency_reasons left s.completed = dependency_reasons right t.completed := by
  unfold dependency_reasons
  rw [same.completed,sortedStrings_perm ((reordered_strings reordered).filter _)]

theorem revision_reasons_same (same : SameSituation s t) {left right : Dict} (reordered : Reordered left right) :
    revision_reasons left s.current_revisions = revision_reasons right t.current_revisions := by
  unfold revision_reasons
  rw [same.current_revisions,reordered_text reordered (show "workPackageId" ∉ LISTED by decide),
    reordered_get reordered (show "subjectRevision" ∉ LISTED by decide)]

/-- Holders that have the same records, whatever their order. -/
def SameHolders (left right : List Dict) : Prop := ∀ holder ∈ left, ∃ other ∈ right, Reordered holder other

theorem conflict_within {left right : Dict} (reordered : Reordered left right) {holders others : List Dict}
    (held : SameHolders holders others) {reason : String} (given : reason ∈ conflict_reasons left holders) :
    reason ∈ conflict_reasons right others := by
  unfold conflict_reasons at given ⊢
  simp only [sortedStrings,mem_sortedBy,mem_distinct,List.mem_flatMap,List.mem_map,List.mem_filter] at given ⊢
  obtain ⟨holder,inside,mine,claimed,theirs,⟨taken,clash⟩,rfl⟩ := given
  obtain ⟨other,present,paired⟩ := held holder inside
  refine ⟨other,present,mine,(reordered_claims reordered).mem_iff.mp claimed,theirs,
    ⟨(reordered_claims paired).mem_iff.mp taken,clash⟩,?_⟩
  rw [reordered_text paired (show "workPackageId" ∉ LISTED by decide)]

theorem conflict_reasons_same {left right : Dict} (reordered : Reordered left right) {holders others : List Dict}
    (held : SameHolders holders others) (back : SameHolders others holders) :
    conflict_reasons left holders = conflict_reasons right others := by
  have members : ∀ reason, reason ∈ conflict_reasons left holders ↔ reason ∈ conflict_reasons right others :=
    fun _ => ⟨conflict_within reordered held,conflict_within (reordered_symm reordered) back⟩
  unfold conflict_reasons at members ⊢
  simp only [sortedStrings,mem_sortedBy,mem_distinct] at members
  exact sortedStrings_perm (distinct_perm members)

theorem quota_reasons_same (same : SameSituation s t) (distinct : (limits s.policy).keys.Nodup) {left right : Dict}
    (reordered : Reordered left right) (dimensions : (costs left).keys.Nodup) {usage other : Usage}
    (using_same : ∀ dimension, usage.of dimension = other.of dimension) :
    quota_reasons s.policy usage left = quota_reasons t.policy other right := by
  have sorted : sortedBy Prod.fst (costs left) = sortedBy Prod.fst (costs right) :=
    sortedBy_perm (reordered_costs reordered) (fun _ here _ there equal =>
      List.inj_on_of_nodup_map dimensions here there equal)
  unfold quota_reasons
  rw [sorted]
  refine List.flatMap_congr ?_
  intro cost _
  rw [limits_same same distinct,using_same]

theorem get?_step {key k : String} {v w : Json} {left right : Dict} (here : k = key → v = w)
    (later : Dict.get? key left = Dict.get? key right) :
    Dict.get? key ((k,v) :: left) = Dict.get? key ((k,w) :: right) := by
  unfold Dict.get?
  by_cases same : k = key
  · rw [if_pos same,if_pos same,here same]
  · rw [if_neg same,if_neg same,later]

/-- A planned reservation reorders with its candidate. -/
theorem reservation_of_reordered {left right : Dict} (reordered : Reordered left right) (state_revision : String) :
    Reordered (reservation_of state_revision left) (reservation_of state_revision right) := by
  have id := reordered_text reordered (show "workPackageId" ∉ LISTED by decide)
  have package := reordered_get reordered (show "workPackageId" ∉ LISTED by decide)
  have project := reordered_get reordered (show "projectId" ∉ LISTED by decide)
  have revision := reordered_get reordered (show "subjectRevision" ∉ LISTED by decide)
  refine ⟨?_,?_,?_,?_⟩
  · intro key other
    have claims : "claims" ≠ key := fun equal => other (by rw [← equal]; decide)
    have costs : "quotaCosts" ≠ key := fun equal => other (by rw [← equal]; decide)
    unfold reservation_of
    rw [id,package,project,revision]
    exact get?_step (fun _ => rfl) (get?_step (fun _ => rfl) (get?_step (fun _ => rfl) (get?_step (fun _ => rfl)
      (get?_step (fun here => absurd here claims) (get?_step (fun here => absurd here costs) rfl)))))
  · exact reordered.claims
  · exact .inl rfl
  · exact reordered.costs

theorem reasons_same (same : SameSituation s t) (distinct : (limits s.policy).keys.Nodup) {chosen picked : List Dict}
    (pairs : List.Forall₂ Reordered chosen picked) {left right : Dict} (reordered : Reordered left right)
    (dimensions : (costs left).keys.Nodup) : reasons s chosen left = reasons t picked right := by
  have planned : List.Forall₂ Reordered (chosen.map (reservation_of s.state_revision))
      (picked.map (reservation_of t.state_revision)) := by
    rw [← same.state_revision,List.forall₂_map_left_iff,List.forall₂_map_right_iff]
    exact pairs.imp (fun _ _ pair => reservation_of_reordered pair _)
  have holders : Rearranged Reordered (s.reservations ++ chosen.map (reservation_of s.state_revision))
      (t.reservations ++ picked.map (reservation_of t.state_revision)) := by
    obtain ⟨middle,moved,paired⟩ := same.reservations
    exact ⟨middle ++ chosen.map (reservation_of s.state_revision),moved.append_right _,List.rel_append paired planned⟩
  have usage : ∀ dimension, (charged (charged [] s.reservations) chosen).of dimension =
      (charged (charged [] t.reservations) picked).of dimension := by
    intro dimension
    rw [charged_of,charged_of,charged_of,charged_of,used_rearranged same.reservations,used_related pairs]
  unfold reasons
  rw [dependency_reasons_same same reordered,revision_reasons_same same reordered,
    conflict_reasons_same reordered (rearranged_left holders)
      (rearranged_left (rearranged_symm reordered_symm holders)),
    quota_reasons_same same distinct reordered dimensions usage]

/-! ### The same plan -/

/-- A candidate that holds each dimension once and a reordering of it. -/
def Paired (left right : Dict) : Prop := Reordered left right ∧ (costs left).keys.Nodup

section
variable (same : SameSituation s t) (distinct : (limits s.policy).keys.Nodup)
include same distinct

theorem admits_same {chosen picked : List Dict} {left right : Dict} (before : List.Forall₂ Paired chosen picked)
    (paired : Paired left right) : reasons s chosen left = reasons t picked right :=
  reasons_same same distinct (before.imp (fun _ _ pair => pair.1)) paired.1 paired.2

theorem entry_same {chosen picked : List Dict} {left right : Dict} (before : List.Forall₂ Paired chosen picked)
    (paired : Paired left right) : entry_of s (chosen,left) = entry_of t (picked,right) := by
  have equal := admits_same same distinct before paired
  unfold entry_of admits
  simp only [equal]
  rw [priority_same same paired.1,reordered_text paired.1 (show "workPackageId" ∉ LISTED by decide)]

/-- The same plan comes from candidates that are visited in the same order. -/
theorem visits_same {candidates others : List Dict} (pairs : List.Forall₂ Paired candidates others) :
    (trail (admits s) candidates).map (entry_of s) = (trail (admits t) others).map (entry_of t) ∧
      (select (admits s) candidates).map (fun candidate => text candidate "workPackageId") =
        (select (admits t) others).map (fun candidate => text candidate "workPackageId") := by
  have agree : ∀ chosen picked left right, List.Forall₂ Paired chosen picked → Paired left right →
      admits s chosen left = admits t picked right := by
    intro chosen picked left right before paired
    unfold admits
    rw [admits_same same distinct before paired]
  constructor
  · have related := trail_related agree pairs
    generalize trail (admits s) candidates = visits at related ⊢
    generalize trail (admits t) others = returns at related ⊢
    induction related with
    | nil => rfl
    | cons first _ ih => rw [List.map_cons,List.map_cons,ih,entry_same same distinct first.1 first.2]
  · have related := select_related agree pairs
    generalize select (admits s) candidates = chosen at related ⊢
    generalize select (admits t) others = picked at related ⊢
    induction related with
    | nil => rfl
    | cons first _ ih =>
      rw [List.map_cons,List.map_cons,ih,reordered_text first.1 (show "workPackageId" ∉ LISTED by decide)]

/-- The ids tell the candidates apart, so their order of visit does not depend on
    the order in which they came. -/
theorem plan_same {candidates others : List Dict} (dimensions : ∀ candidate ∈ candidates, (costs candidate).keys.Nodup)
    (ids : (candidates.map (fun candidate => text candidate "workPackageId")).Nodup)
    (moved : Rearranged Reordered candidates others) (now : String) :
    plan_of s now candidates = plan_of t now others := by
  obtain ⟨middle,perm,pairs⟩ := moved
  have sorted : ordered s candidates = ordered s middle := by
    refine sortedBy_perm perm ?_
    intro left here right there equal
    have last : text left "workPackageId" = text right "workPackageId" :=
      congrArg (fun key : Int ×ₗ Int ×ₗ Int ×ₗ String => (ofLex (ofLex (ofLex key).2).2).2) equal
    exact List.inj_on_of_nodup_map ids here there last
  have paired : List.Forall₂ Paired middle others := by
    have both := (List.forall₂_and_left middle others).mpr
      ⟨fun candidate member => dimensions candidate (perm.mem_iff.mpr member),pairs⟩
    exact both.imp (fun _ _ pair => ⟨pair.2,pair.1⟩)
  have visited : List.Forall₂ Paired (ordered s middle) (ordered t others) :=
    sortedBy_related (fun _ _ pair => key_same same pair.1) paired
  obtain ⟨entries,selected⟩ := visits_same same distinct visited
  unfold plan_of
  rw [sorted,entries,selected,same.state_revision]

end

end

/-! ### Schedules -/

/-- The reservations of rearranged values. -/
theorem reservations_rearranged {reservations : List Dict} {others : List Json}
    (moved : Rearranged ReorderedItem (reservations.map Json.obj) others) :
    ∃ rearranged, others = rearranged.map Json.obj ∧ Rearranged Reordered reservations rearranged := by
  obtain ⟨middle,perm,pairs⟩ := moved
  obtain ⟨dicts,rfl,moved⟩ := perm_map perm
  rw [List.forall₂_map_left_iff] at pairs
  suffices related : ∃ rearranged, others = rearranged.map Json.obj ∧ List.Forall₂ Reordered dicts rearranged by
    obtain ⟨rearranged,equal,paired⟩ := related
    exact ⟨rearranged,equal,dicts,moved,paired⟩
  clear perm moved
  induction pairs with
  | nil => exact ⟨[],rfl,.nil⟩
  | @cons left v _ _ first _ ih =>
    obtain ⟨rearranged,rfl,paired⟩ := ih
    rcases first with rfl | ⟨_,right,same,rfl,reordered⟩
    · exact ⟨left :: rearranged,rfl,.cons (reordered_refl left) paired⟩
    · cases same
      exact ⟨right :: rearranged,rfl,.cons reordered paired⟩

/-- Inputs that differ in the order of their data are accepted alike. -/
theorem schedulable_rearranged {s t : Situation} (same : SameSituation s t) {now : String}
    {candidates others : List Dict}
    (moved : Rearranged Reordered candidates others) (valid : Schedulable s now candidates) :
    Schedulable t now others := by
  have ids := rearranged_map (f := fun candidate => text candidate "workPackageId")
    (fun _ _ reordered => reordered_text reordered (show "workPackageId" ∉ LISTED by decide)) moved
  have projects := (rearranged_map (f := fun item => text item "projectId")
      (fun _ _ reordered => reordered_text reordered (show "projectId" ∉ LISTED by decide)) moved).append
    (rearranged_map (f := fun item => text item "projectId")
      (fun _ _ reordered => reordered_text reordered (show "projectId" ∉ LISTED by decide)) same.reservations)
  refine ⟨policy_reordered same.policy valid.policy,?_,?_,?_,?_,?_,ids.nodup_iff.mp valid.distinct,?_⟩
  · rw [← same.state_revision]
    exact valid.revision
  · rw [← same.now]
    exact valid.clock
  · rw [← same.completed]
    exact valid.completed
  · intro other member
    obtain ⟨candidate,inside,reordered⟩ := rearranged_left (rearranged_symm reordered_symm moved) other member
    exact candidate_reordered (reordered_symm reordered) (valid.valid candidate inside)
  · intro other member
    obtain ⟨reservation,inside,reordered⟩ :=
      rearranged_left (rearranged_symm reordered_symm same.reservations) other member
    exact reservation_reordered (reordered_symm reordered) (valid.reservations reservation inside)
  · have one := valid.project
    unfold several at one ⊢
    rw [List.map_append] at one ⊢
    rwa [← (distinct_perm (fun _ => projects.mem_iff)).length_eq]

section
variable {candidates others : List Dict} {active_reservations other_reservations : List Json}
  {policy other_policy : Dict}
  {completed_dependencies : List Json} {current_revisions : Dict} {state_revision now : String}

/-- The plan survives a rearrangement of the inputs. -/
theorem plan_rearranged (policies : ReorderedPolicy policy other_policy)
    (reservations : Rearranged ReorderedItem active_reservations other_reservations)
    (moved : Rearranged Reordered candidates others) (limited : (limits policy).keys.Nodup)
    (dimensions : ∀ candidate ∈ candidates, (costs candidate).keys.Nodup) {plan : SchedulePlan}
    (ran : schedule candidates active_reservations policy completed_dependencies current_revisions state_revision now =
      .ok plan) :
    schedule others other_reservations other_policy completed_dependencies current_revisions state_revision now =
      .ok plan := by
  obtain ⟨held,clock,rfl,valid,rfl⟩ := schedule_ok.mp ran
  obtain ⟨rearranged,rfl,paired⟩ := reservations_rearranged reservations
  have same : SameSituation ⟨policy,held,completed_dependencies,current_revisions,state_revision,clock⟩
      ⟨other_policy,rearranged,completed_dependencies,current_revisions,state_revision,clock⟩ :=
    ⟨policies,paired,rfl,rfl,rfl,rfl⟩
  exact schedule_ok.mpr ⟨rearranged,clock,rfl,schedulable_rearranged same moved valid,
    plan_same same limited dimensions valid.distinct moved now⟩

/-- `schedule` returns the same plan, or raises, whatever the order of the
    candidates, the reservations, their claims, dependencies and costs, and the
    limits of the policy. -/
theorem schedule_rearranged (documents : ∀ candidate ∈ candidates, (Json.obj candidate).proper = true)
    (document : (Json.obj policy).proper = true) (policies : ReorderedPolicy policy other_policy)
    (reservations : Rearranged ReorderedItem active_reservations other_reservations)
    (moved : Rearranged Reordered candidates others) (plan : SchedulePlan) :
    schedule candidates active_reservations policy completed_dependencies current_revisions state_revision now =
        .ok plan ↔
      schedule others other_reservations other_policy completed_dependencies current_revisions state_revision now =
        .ok plan := by
  have limited : (limits policy).keys.Nodup := proper_dict (proper_get document "limits")
  have dimensions : ∀ candidate ∈ candidates, (costs candidate).keys.Nodup :=
    fun candidate member => proper_dict (proper_get (documents candidate member) "quotaCosts")
  constructor
  · exact plan_rearranged policies reservations moved limited dimensions
  · refine plan_rearranged (reorderedPolicy_symm policies) (rearranged_symm reorderedItem_symm reservations)
      (rearranged_symm reordered_symm moved) ?_ ?_
    · exact ((sameFields_entries policies.limits).map Prod.fst).nodup_iff.mp limited
    · intro other member
      obtain ⟨candidate,inside,reordered⟩ := rearranged_left (rearranged_symm reordered_symm moved) other member
      exact ((reordered_costs reordered).map Prod.fst).nodup_iff.mpr (dimensions candidate inside)

end

/-- The sample policy with two dimensions. -/
def sample_limits (limits : Dict) : Dict := sample_policy.set "limits" (.obj limits)

def sample_plan (limits : Dict) (candidates : List Dict) : Py SchedulePlan :=
  schedule candidates [.obj (sample_reservation "A" "x")] (sample_limits limits) [] [("A",.str "r"),("B",.str "r")] "s"
    "2026-01-01T00:00:00Z"

theorem sample_rearranged : ∃ plan, plan.selected_work_packages = ["B"] ∧
    sample_plan [("slots",.int 2),("lanes",.int 1)] sample_candidates = .ok plan ∧
    sample_plan [("lanes",.int 1),("slots",.int 2)] sample_candidates.reverse = .ok plan := by
  have scheduled : (sample_plan [("slots",.int 2),("lanes",.int 1)] sample_candidates).map
      SchedulePlan.selected_work_packages = .ok ["B"] := by
    decide +kernel
  obtain ⟨plan,ran,selected⟩ := map_ok_iff.mp scheduled
  have policies : ReorderedPolicy (sample_limits [("slots",.int 2),("lanes",.int 1)])
      (sample_limits [("lanes",.int 1),("slots",.int 2)]) := by
    refine ⟨?_,.inr ⟨_,_,rfl,rfl,List.Perm.swap _ _ _⟩⟩
    intro key other
    unfold sample_limits
    rw [get?_set_ne _ _ (Ne.symm other),get?_set_ne _ _ (Ne.symm other)]
  have same : ∀ {α : Type} {related : α → α → Prop} (xs : List α), (∀ x, related x x) →
      List.Forall₂ related xs xs := fun _ refl => List.forall₂_same.mpr (fun x _ => refl x)
  refine ⟨plan,selected,ran,?_⟩
  exact (schedule_rearranged (by decide +kernel) (by decide +kernel) policies
    ⟨_,List.Perm.refl _,same _ (fun _ => .inl rfl)⟩
    ⟨_,(List.reverse_perm sample_candidates).symm,same _ reordered_refl⟩ plan).mp ran

end V3Aidlc.SchedulePermutations
