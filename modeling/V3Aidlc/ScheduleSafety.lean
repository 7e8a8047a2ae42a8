import V3Aidlc.Schedules

/-!
The three promises of a schedule. The selected packages can run together
(`selected_safe`), a candidate is deferred only for a reason that stands against it
(`schedule_needful`), and a package that an active reservation holds stays out only
when something else keeps it out (`held_stays_out_iff`): no check looks for its id.
-/
namespace V3Aidlc.ScheduleSafety
open V3Aidlc.Values V3Aidlc.Loops V3Aidlc.Timestamps V3Aidlc.Contracts V3Aidlc.Canonical V3Aidlc.Scheduler
open V3Aidlc.Greedy V3Aidlc.Schedules

/-- The situation that the arguments of `schedule` describe. -/
def situation (active_reservations : List Json) (policy : Dict) (completed_dependencies : List Json)
    (current_revisions : Dict) (state_revision now : String) : Situation where
  policy := policy
  reservations := active_reservations.filterMap Json.dict?
  completed := completed_dependencies
  current_revisions := current_revisions
  state_revision := state_revision
  now := (instant? now).getD 0

/-- The candidates that the plan selects. -/
def selected_of (plan : SchedulePlan) (candidates : List Dict) : List Dict :=
  candidates.filter (fun candidate => plan.selected_work_packages.contains (text candidate "workPackageId"))

/-! ### The plan as a selection -/

theorem sublist_eq_filter {α : Type} {part items : List α} {p : α → Bool} (sub : part.Sublist items)
    (apart : items.Nodup)
    (same : ∀ a ∈ items, p a = true ↔ a ∈ part) : items.filter p = part := by
  have inside : part.Sublist (items.filter p) := by
    have kept : part.filter p = part := List.filter_eq_self.mpr
        (fun a member => (same a (sub.subset member)).mpr member)
    rw [← kept]
    exact sub.filter p
  have covered : items.filter p ⊆ part := by
    intro a member
    obtain ⟨listed,wanted⟩ := List.mem_filter.mp member
    exact (same a listed).mp wanted
  have short := ((apart.filter p).subperm covered).length_le
  exact (inside.eq_of_length_le short).symm

section
variable {s : Situation} {now : String} {candidates : List Dict}

theorem ordered_perm (s : Situation) (candidates : List Dict) : (ordered s candidates).Perm candidates :=
  perm_sortedBy _ candidates

theorem ordered_distinct (valid : Schedulable s now candidates) :
    ((ordered s candidates).map (fun candidate => text candidate "workPackageId")).Nodup :=
  ((ordered_perm s candidates).map _).nodup_iff.mpr valid.distinct

/-- The ids tell the candidates apart. -/
theorem same_candidate (valid : Schedulable s now candidates) {left right : Dict} (leftIs : left ∈ ordered s candidates)
    (rightIs : right ∈ ordered s candidates) (same : text left "workPackageId" = text right "workPackageId") :
    left = right :=
  List.inj_on_of_nodup_map (ordered_distinct valid) leftIs rightIs same

theorem selected_iff (valid : Schedulable s now candidates) {candidate : Dict}
    (member : candidate ∈ ordered s candidates) :
    text candidate "workPackageId" ∈ (plan_of s now candidates).selected_work_packages ↔
      candidate ∈ select (admits s) (ordered s candidates) := by
  constructor
  · intro listed
    obtain ⟨other,chosen,same⟩ := List.mem_map.mp listed
    have inside := (select_sublist (ordered s candidates)).subset chosen
    rw [same_candidate valid member inside same.symm]
    exact chosen
  · exact fun chosen => List.mem_map.mpr ⟨candidate,chosen,rfl⟩

/-- A candidate is selected when it is admitted at its turn. -/
theorem selected_at_turn (valid : Schedulable s now candidates) {before after : List Dict} {candidate : Dict}
    (split : ordered s candidates = before ++ candidate :: after) :
    text candidate "workPackageId" ∈ (plan_of s now candidates).selected_work_packages ↔
      Admissible s (select (admits s) before) candidate := by
  have apart : (before ++ candidate :: after).Nodup := by
    rw [← split]
    exact (ordered_distinct valid).of_map
  rw [selected_iff valid (by rw [split]; simp),split,mem_select_iff apart,admits_iff]

/-- The candidates of the plan that were visited first are those selected from them. -/
theorem selected_before (valid : Schedulable s now candidates) {before after : List Dict}
    (split : ordered s candidates = before ++ after) :
    selected_of (plan_of s now candidates) before = select (admits s) before := by
  have apart : (before ++ after).Nodup := by
    rw [← split]
    exact (ordered_distinct valid).of_map
  refine sublist_eq_filter (select_sublist before) apart.of_append_left ?_
  intro candidate member
  obtain ⟨front,back,rfl⟩ := List.append_of_mem member
  have turn : ordered s candidates = front ++ candidate :: (back ++ after) := by simp [split]
  rw [List.contains_iff_mem,selected_at_turn valid turn,mem_select_iff apart.of_append_left,admits_iff]

theorem selected_perm (valid : Schedulable s now candidates) :
    (selected_of (plan_of s now candidates) candidates).Perm (select (admits s) (ordered s candidates)) := by
  rw [← selected_before valid (List.append_nil _).symm]
  exact ((ordered_perm s candidates).filter _).symm

end

/-! ### Safety -/

/-- The selected packages can run beside each other and the active reservations. -/
structure Safe (s : Situation) (selected : List Dict) : Prop where
  reservations : ∀ candidate ∈ selected, ∀ reservation ∈ s.reservations, ¬ Clash candidate reservation
  together : ∀ candidate ∈ selected, ∀ other ∈ selected, candidate ≠ other → ¬ Clash candidate other
  dependencies : ∀ candidate ∈ selected, ∀ id ∈ strings candidate "dependencyIds", memList (.str id) s.completed = true
  revisions : ∀ candidate ∈ selected,
    (s.current_revisions.get (text candidate "workPackageId")).eq (candidate.get "subjectRevision") = true
  quotas : ∀ candidate ∈ selected, ∀ dimension ∈ (costs candidate).keys,
    ∃ limit, Dict.get? dimension (limits s.policy) = some limit ∧
      used s.reservations dimension + used selected dimension ≤ units limit

theorem conflict_symm {left right : Dict} : claims_conflict left right = claims_conflict right left := by
  unfold claims_conflict
  have domains : decide (text left "domain" = text right "domain") =
      decide (text right "domain" = text left "domain") :=
    decide_eq_decide.mpr eq_comm
  rw [domains,Bool.or_comm]

theorem clash_symm {left right : Dict} : Clash left right ↔ Clash right left := by
  constructor
  · rintro ⟨mine,here,theirs,there,clash⟩; exact ⟨theirs,there,mine,here,conflict_symm ▸ clash⟩
  · rintro ⟨mine,here,theirs,there,clash⟩; exact ⟨theirs,there,mine,here,conflict_symm ▸ clash⟩

/-- A dict that holds each dimension once charges it once. -/
theorem charge_cost {holder : Dict} (proper : (Json.obj holder).proper = true) {cost : String × Json}
    (member : cost ∈ costs holder) : charge holder cost.1 = units cost.2 := by
  have apart : (costs holder).keys.Nodup := by
    have held := proper_get proper "quotaCosts"
    unfold costs
    cases found : (holder.get "quotaCosts").dict? with
    | none => simp [Dict.keys]
    | some charges =>
      rw [dict?_eq_some.mp found] at held
      exact (proper_obj held).1
  unfold charge
  have alone : ∀ items : Dict, items.keys.Nodup → cost ∈ items →
      ((items.filter (fun other => other.1 = cost.1)).map (fun other => units other.2)).sum = units cost.2 := by
    intro items
    induction items with
    | nil => intro _ none; cases none
    | cons first rest ih =>
      intro distinct inside
      obtain ⟨fresh,later⟩ := List.nodup_cons.mp distinct
      rcases List.mem_cons.mp inside with rfl | tail
      · have others : rest.filter (fun other => other.1 = cost.1) = [] := by
          rw [List.filter_eq_nil_iff]
          intro other listed same
          exact fresh (List.mem_map.mpr ⟨other,listed,of_decide_eq_true same⟩)
        simp [others]
      · have apart : first.1 ≠ cost.1 := fun same => fresh (List.mem_map.mpr ⟨cost,tail,same.symm⟩)
        simpa [apart] using ih later tail
  exact alone _ apart member

theorem charge_absent {holder : Dict} {dimension : String} (absent : dimension ∉ (costs holder).keys) :
    charge holder dimension = 0 := by
  unfold charge
  have none : (costs holder).filter (fun cost => cost.1 = dimension) = [] := by
    rw [List.filter_eq_nil_iff]
    intro cost member same
    exact absent (List.mem_map.mpr ⟨cost,member,of_decide_eq_true same⟩)
  simp [none]

/-- The quotas hold for all selected candidates together: the last one that charged
    a dimension was checked against the others. Induction on the visits. -/
theorem selected_quotas {s : Situation} {items : List Dict}
    (documents : ∀ item ∈ items, (Json.obj item).proper = true) :
    ∀ candidate ∈ select (admits s) items, ∀ dimension ∈ (costs candidate).keys,
      ∃ limit, Dict.get? dimension (limits s.policy) = some limit ∧
        used s.reservations dimension + used (select (admits s) items) dimension ≤ units limit := by
  induction items using List.reverseRecOn with
  | nil => simp [select]
  | append_singleton items last ih =>
    have before := ih (fun item member => documents item (by simp [member]))
    have document := documents last (by simp)
    rw [select_snoc]
    unfold visit
    split
    · rename_i admitted
      have admissible := admits_iff.mp admitted
      have checked : ∀ dimension ∈ (costs last).keys, ∃ limit, Dict.get? dimension (limits s.policy) = some limit ∧
          used s.reservations dimension + used (select (admits s) items ++ [last]) dimension ≤ units limit := by
        intro dimension charged
        obtain ⟨cost,member,rfl⟩ := List.mem_map.mp charged
        obtain ⟨limit,found,fits⟩ := admissible.quotas cost member
        refine ⟨limit,found,?_⟩
        have own : used [last] cost.1 = units cost.2 := by
          simp [used,charge_cost document member]
        rw [used_append] at fits ⊢
        omega
      intro candidate member dimension charged
      by_cases both : dimension ∈ (costs last).keys
      · exact checked dimension both
      · rcases List.mem_append.mp member with earlier | here
        · obtain ⟨limit,found,fits⟩ := before candidate earlier dimension charged
          refine ⟨limit,found,?_⟩
          have own : used [last] dimension = 0 := by
            simp [used,charge_absent both]
          rw [used_append]
          omega
        · rw [List.mem_singleton.mp here] at charged
          exact absurd charged both
    · exact before

theorem used_perm {left right : List Dict} (same : left.Perm right) (dimension : String) :
    used left dimension = used right dimension :=
  (same.map _).sum_eq

/-- The selected candidates of a situation are safe together. -/
theorem selected_safe_of {s : Situation} {now : String} {candidates : List Dict} (valid : Schedulable s now candidates)
    (documents : ∀ candidate ∈ candidates, (Json.obj candidate).proper = true) :
    Safe s (selected_of (plan_of s now candidates) candidates) := by
  have same := selected_perm valid
  have turn : ∀ candidate ∈ selected_of (plan_of s now candidates) candidates, ∃ before,
      Admissible s (select (admits s) before) candidate := by
    intro candidate member
    obtain ⟨listed,chosen⟩ := List.mem_filter.mp member
    obtain ⟨before,after,split⟩ := List.append_of_mem ((ordered_perm s candidates).mem_iff.mpr listed)
    exact ⟨before,(selected_at_turn valid split).mp (List.contains_iff_mem.mp chosen)⟩
  have apart : ∀ chosen candidate, admits s chosen candidate = true → ∀ other ∈ chosen, ¬ Clash candidate other :=
    fun chosen candidate admitted other member =>
      (admits_iff.mp admitted).claims other (List.mem_append_right s.reservations member)
  have pairwise := select_pairwise apart (ordered s candidates)
  have symmetric : Std.Symm (fun earlier later : Dict => ¬ Clash later earlier) :=
    ⟨fun _ _ free clash => free (clash_symm.mp clash)⟩
  refine ⟨?_,?_,?_,?_,?_⟩
  · intro candidate member reservation reserved
    obtain ⟨_,admissible⟩ := turn candidate member
    exact admissible.claims reservation (List.mem_append_left _ reserved)
  · intro candidate member other otherMember distinct clash
    exact pairwise.forall (same.mem_iff.mp otherMember) (same.mem_iff.mp member) (Ne.symm distinct) clash
  · intro candidate member
    obtain ⟨_,admissible⟩ := turn candidate member
    exact admissible.dependencies
  · intro candidate member
    obtain ⟨_,admissible⟩ := turn candidate member
    exact admissible.current
  · intro candidate member dimension charged
    have visited : ∀ item ∈ ordered s candidates, (Json.obj item).proper = true :=
      fun item inside => documents item ((ordered_perm s candidates).mem_iff.mp inside)
    obtain ⟨limit,found,fits⟩ := selected_quotas visited candidate (same.mem_iff.mp member) dimension charged
    exact ⟨limit,found,by rw [used_perm same]; exact fits⟩

/-! ### Nothing is deferred needlessly -/

/-- What the source names as grounds to defer a candidate, given the reservations
    and the candidates selected before it. -/
def Obstructed (s : Situation) (chosen : List Dict) (candidate : Dict) : Prop :=
  (∃ id ∈ strings candidate "dependencyIds", memList (.str id) s.completed = false) ∨
  s.current_revisions.get (text candidate "workPackageId") = .null ∨
  (s.current_revisions.get (text candidate "workPackageId")).eq (candidate.get "subjectRevision") = false ∨
  (∃ holder ∈ s.reservations ++ chosen, Clash candidate holder) ∨
  ∃ cost ∈ costs candidate, Dict.get? cost.1 (limits s.policy) = none ∨
    ∃ limit, Dict.get? cost.1 (limits s.policy) = some limit ∧
      units limit < used (s.reservations ++ chosen) cost.1 + units cost.2

theorem not_admissible_iff {s : Situation} {chosen : List Dict} {candidate : Dict} :
    ¬ Admissible s chosen candidate ↔ Obstructed s chosen candidate := by
  constructor
  · intro refused
    by_contra free
    unfold Obstructed at free
    push Not at free
    obtain ⟨dependencies,known,current,claims,quotas⟩ := free
    refine refused ⟨fun id member => by simpa using dependencies id member,known,by simpa using current,claims,?_⟩
    intro cost member
    obtain ⟨listed,within⟩ := quotas cost member
    obtain ⟨limit,found⟩ := Option.ne_none_iff_exists'.mp listed
    exact ⟨limit,found,within limit found⟩
  · rintro obstructed admissible
    rcases obstructed with ⟨id,member,missing⟩ | unknown | stale | ⟨holder,member,clash⟩ | ⟨cost,member,none | exceeded⟩
    · rw [admissible.dependencies id member] at missing
      cases missing
    · exact admissible.known unknown
    · rw [admissible.current] at stale
      cases stale
    · exact admissible.claims holder member clash
    · obtain ⟨limit,found,_⟩ := admissible.quotas cost member
      rw [none] at found
      cases found
    · obtain ⟨limit,found,beyond⟩ := exceeded
      obtain ⟨other,known,fits⟩ := admissible.quotas cost member
      rw [found] at known
      cases known
      omega

/-- The order of a plan: by effective priority, then the higher user priority, the
    earlier request and the id. -/
theorem ordered_strict {s : Situation} {now : String} {candidates : List Dict} (valid : Schedulable s now candidates) :
    (ordered s candidates).Pairwise
      (fun earlier later => schedule_key s.now s.policy earlier < schedule_key s.now s.policy later) := by
  have weak := pairwise_sortedBy (schedule_key s.now s.policy) candidates
  have apart : (ordered s candidates).Pairwise
      (fun earlier later => text earlier "workPackageId" ≠ text later "workPackageId") :=
    List.pairwise_map.mp (ordered_distinct valid)
  refine (weak.and apart).imp ?_
  rintro earlier later ⟨below,distinct⟩
  refine lt_of_le_of_ne below ?_
  intro same
  have parts := congrArg (fun key => (ofLex (ofLex (ofLex key).2).2).2) same
  exact distinct parts

/-- Each visited candidate has the entry of its turn. -/
theorem entries_ordered {s : Situation} {now : String} {candidates : List Dict} (valid : Schedulable s now candidates) :
    List.Forall₂ (fun candidate entry => entry.work_package_id = text candidate "workPackageId" ∧
      entry.effective_priority = effective_priority s.now s.policy candidate ∧
      (entry.decision = .SELECTED ↔
        text candidate "workPackageId" ∈ (plan_of s now candidates).selected_work_packages))
      (ordered s candidates) (plan_of s now candidates).entries := by
  suffices each : ∀ visited ∈ trail (admits s) (ordered s candidates),
      (entry_of s visited).work_package_id = text visited.2 "workPackageId" ∧
      (entry_of s visited).effective_priority = effective_priority s.now s.policy visited.2 ∧
      ((entry_of s visited).decision = .SELECTED ↔
        text visited.2 "workPackageId" ∈ (plan_of s now candidates).selected_work_packages) by
    have visits : ordered s candidates = (trail (admits s) (ordered s candidates)).map Prod.snd := (trail_items _).symm
    rw [visits]
    unfold plan_of at each ⊢
    rw [List.forall₂_map_left_iff,List.forall₂_map_right_iff,List.forall₂_same]
    exact each
  rintro ⟨chosen,candidate⟩ visited
  obtain ⟨before,after,split,rfl⟩ := mem_trail_iff.mp visited
  rw [selected_at_turn valid split,← admits_iff]
  unfold entry_of
  by_cases admitted : admits s (select (admits s) before) candidate = true <;> simp [admitted]

/-- The entry that is found for a candidate says whether it is selected. -/
theorem entry_found {s : Situation} {now : String} {candidates : List Dict} (valid : Schedulable s now candidates)
    {candidate : Dict} (member : candidate ∈ candidates) :
    ∃ entry, (plan_of s now candidates).entries.find?
        (fun entry => entry.work_package_id = text candidate "workPackageId") = some entry ∧
      (entry.decision = .SELECTED ↔
        text candidate "workPackageId" ∈ (plan_of s now candidates).selected_work_packages) := by
  have entries := entries_ordered valid
  obtain ⟨own,inside,named,_,_⟩ := forall₂_left entries candidate ((ordered_perm s candidates).mem_iff.mpr member)
  cases found : (plan_of s now candidates).entries.find?
      (fun entry => entry.work_package_id = text candidate "workPackageId") with
  | none =>
    have absent := List.find?_eq_none.mp found own inside
    exact absurd named (by simpa using absent)
  | some entry =>
    refine ⟨entry,rfl,?_⟩
    have same : entry.work_package_id = text candidate "workPackageId" := by
      simpa using List.find?_some found
    obtain ⟨other,_,id,_,selected⟩ := forall₂_left entries.flip entry (List.mem_of_find?_eq_some found)
    rwa [← id,same] at selected

/-- The candidates are visited in their order, each is deferred for a reason that
    the reservations and the earlier selected candidates give, and no deferred
    candidate could join the selection. -/
structure Needful (s : Situation) (candidates : List Dict) (plan : SchedulePlan) (order : List Dict) : Prop where
  complete : order.Perm candidates
  strict : order.Pairwise
    (fun earlier later => schedule_key s.now s.policy earlier < schedule_key s.now s.policy later)
  entries : List.Forall₂ (fun candidate entry => entry.work_package_id = text candidate "workPackageId" ∧
    entry.effective_priority = effective_priority s.now s.policy candidate ∧
    (entry.decision = .SELECTED ↔ text candidate "workPackageId" ∈ plan.selected_work_packages)) order plan.entries
  deferred : ∀ before candidate after, order = before ++ candidate :: after →
    (text candidate "workPackageId" ∉ plan.selected_work_packages ↔ Obstructed s (selected_of plan before) candidate)
  maximal : ∀ candidate ∈ candidates, text candidate "workPackageId" ∉ plan.selected_work_packages →
    Obstructed s (selected_of plan candidates) candidate

theorem admissible_perm {s : Situation} {left right : List Dict} {candidate : Dict} (same : left.Perm right)
    (admissible : Admissible s left candidate) : Admissible s right candidate := by
  refine ⟨admissible.dependencies,admissible.known,admissible.current,?_,?_⟩
  · intro holder member
    exact admissible.claims holder ((same.append_left s.reservations).mem_iff.mpr member)
  · intro cost member
    obtain ⟨limit,found,fits⟩ := admissible.quotas cost member
    exact ⟨limit,found,by rw [← used_perm (same.append_left s.reservations)]; exact fits⟩

theorem needful_of {s : Situation} {now : String} {candidates : List Dict} (valid : Schedulable s now candidates) :
    Needful s candidates (plan_of s now candidates) (ordered s candidates) := by
  refine ⟨ordered_perm s candidates,ordered_strict valid,entries_ordered valid,?_,?_⟩
  · intro before candidate after split
    rw [selected_at_turn valid split,not_admissible_iff,selected_before valid split]
  · intro candidate member left
    have visited : candidate ∈ ordered s candidates := (ordered_perm s candidates).mem_iff.mpr member
    rw [selected_iff valid visited] at left
    rw [← not_admissible_iff]
    intro admissible
    have refused : admits s (select (admits s) (ordered s candidates)) candidate = false := by
      refine select_maximal ?_ visited left
      intro chosen more other inside admitted
      have holders : ∀ holder ∈ more, validate_candidate holder = .ok () :=
        fun holder here => valid.valid holder ((ordered_perm s candidates).mem_iff.mp (inside here))
      exact admits_iff.mpr (admissible_narrows holders (admits_iff.mp admitted))
    rw [admits_iff.mpr (admissible_perm (selected_perm valid) admissible)] at refused
    cases refused

/-! ### Held packages -/

/-- An active reservation holds the candidate's work package. -/
def held (s : Situation) (candidate : Dict) : Bool :=
  s.reservations.any (fun reservation => text reservation "workPackageId" = text candidate "workPackageId")

/-- The candidates that are admitted when only those not held compete. -/
def free_selection (s : Situation) (candidates : List Dict) : List Dict :=
  select (admits s) (candidates.filter (fun candidate => !held s candidate))

/-- No held package is selected. -/
def StaysOut (s : Situation) (candidates : List Dict) (plan : SchedulePlan) : Prop :=
  ∀ candidate ∈ candidates, held s candidate = true → text candidate "workPackageId" ∉ plan.selected_work_packages

/-- Every held candidate has something else against it at its turn. -/
def OtherwiseObstructed (s : Situation) (candidates : List Dict) : Prop :=
  ∀ before candidate after, ordered s candidates = before ++ candidate :: after → held s candidate = true →
    Obstructed s (free_selection s before) candidate

theorem stays_out_of {s : Situation} {now : String} {candidates : List Dict} (valid : Schedulable s now candidates) :
    StaysOut s candidates (plan_of s now candidates) ↔ OtherwiseObstructed s candidates := by
  have free : StaysOut s candidates (plan_of s now candidates) ↔
      ∀ candidate ∈ select (admits s) (ordered s candidates), !held s candidate := by
    constructor
    · intro out candidate chosen
      have visited := (select_sublist (ordered s candidates)).subset chosen
      by_contra taken
      have holds : held s candidate = true := by simpa using taken
      exact out candidate ((ordered_perm s candidates).mem_iff.mp visited) holds
        ((selected_iff valid visited).mpr chosen)
    · intro unheld candidate member holds listed
      have visited := (ordered_perm s candidates).mem_iff.mpr member
      have kept := unheld candidate ((selected_iff valid visited).mp listed)
      rw [holds] at kept
      cases kept
  rw [free,select_subset_iff]
  unfold OtherwiseObstructed free_selection
  constructor
  · intro refused before candidate after split holds
    rw [← not_admissible_iff,← admits_iff,Bool.not_eq_true]
    exact refused before candidate after split (by simp [holds])
  · intro obstructed before candidate after split outside
    have holds : held s candidate = true := by simpa using outside
    have against := obstructed before candidate after split holds
    rwa [← not_admissible_iff,← admits_iff,Bool.not_eq_true] at against

/-! ### The returned plans -/

section
variable {candidates : List Dict} {active_reservations : List Json} {policy : Dict} {completed_dependencies : List Json}
  {current_revisions : Dict} {state_revision now : String} {plan : SchedulePlan}

/-- A returned plan is that of the described situation. -/
theorem schedule_plan (ran : schedule candidates active_reservations policy completed_dependencies current_revisions
      state_revision now = .ok plan) :
    Schedulable (situation active_reservations policy completed_dependencies current_revisions state_revision now) now
      candidates ∧
    plan = plan_of (situation active_reservations policy completed_dependencies current_revisions state_revision now) now
      candidates := by
  obtain ⟨reservations,clock,rfl,valid,rfl⟩ := schedule_ok.mp ran
  have dicts : (reservations.map Json.obj).filterMap Json.dict? = reservations := by
    rw [List.filterMap_map]
    exact List.filterMap_some
  have time : (instant? now).getD 0 = clock := by
    have parsed := valid.clock
    unfold Scheduler.parse_time at parsed
    rw [(parse_timestamp_ok _).mp parsed]
    rfl
  have same : situation (reservations.map Json.obj) policy completed_dependencies current_revisions state_revision now =
      ⟨policy,reservations,completed_dependencies,current_revisions,state_revision,clock⟩ := by
    unfold situation
    rw [dicts,time]
  rw [same]
  exact ⟨valid,rfl⟩

/-- Whatever is scheduled, the selected packages are safe together. -/
theorem selected_safe (documents : ∀ candidate ∈ candidates, (Json.obj candidate).proper = true)
    (ran : schedule candidates active_reservations policy completed_dependencies current_revisions state_revision now =
      .ok plan) :
    Safe (situation active_reservations policy completed_dependencies current_revisions state_revision now)
      (selected_of plan candidates) := by
  obtain ⟨valid,rfl⟩ := schedule_plan ran
  exact selected_safe_of valid documents

/-- Whatever is scheduled, no candidate is deferred needlessly. -/
theorem schedule_needful (ran : schedule candidates active_reservations policy completed_dependencies current_revisions
      state_revision now = .ok plan) :
    ∃ order, Needful (situation active_reservations policy completed_dependencies current_revisions state_revision now)
      candidates plan order := by
  obtain ⟨valid,rfl⟩ := schedule_plan ran
  exact ⟨_,needful_of valid⟩

/-- A held package stays out of the plan exactly when every held candidate has
    something else against it. -/
theorem held_stays_out_iff (ran : schedule candidates active_reservations policy completed_dependencies
      current_revisions state_revision now = .ok plan) :
    StaysOut (situation active_reservations policy completed_dependencies current_revisions state_revision now) candidates
      plan ↔
    OtherwiseObstructed (situation active_reservations policy completed_dependencies current_revisions state_revision now)
      candidates := by
  obtain ⟨valid,rfl⟩ := schedule_plan ran
  exact stays_out_of valid

end

/-! ### A reservation and two candidates -/

def sample_policy : Dict :=
  [("schemaVersion",.str "0.1"),("policyId",.str "P"),("version",.str "1"),("limits",.obj [("slots",.int 2)]),
    ("agingWindowSeconds",.int 60),("maxAgingBoost",.int 1)]

def sample_claims (domain : String) : Json := .arr [.obj [("domain",.str domain),("access",.str "write")]]

def sample_reservation (id domain : String) : Dict :=
  [("reservationId",.str "R"),("projectId",.str "P"),("workPackageId",.str id),("subjectRevision",.str "r"),
    ("claims",sample_claims domain),("quotaCosts",.obj [("slots",.int 1)])]

def sample_candidate (id domain : String) : Dict :=
  [("schemaVersion",.str "0.1"),("projectId",.str "P"),("workPackageId",.str id),("subjectRevision",.str "r"),
    ("workstreamId",.str "w"),("adapterId",.str "a"),("role",.str "d"),("priorityClass",.str "normal"),
    ("queuedAt",.str "2026-01-01T00:00:00Z"),("userPriority",.int 0),("dependencyIds",.arr []),
    ("claims",sample_claims domain),("quotaCosts",.obj [("slots",.int 1)])]

/-- A schedule of candidates beside one reservation of the package `A`. -/
def sample_schedule (candidates : List Dict) : Py SchedulePlan :=
  schedule candidates [.obj (sample_reservation "A" "x")] sample_policy [] [("A",.str "r"),("B",.str "r")] "s"
    "2026-01-01T00:00:00Z"

def sample_situation : Situation :=
  situation [.obj (sample_reservation "A" "x")] sample_policy []
    [("A",.str "r"),("B",.str "r")] "s" "2026-01-01T00:00:00Z"

def sample_candidates : List Dict := [sample_candidate "B" "y",sample_candidate "C" "x"]

theorem sample_selected : (sample_schedule sample_candidates).map SchedulePlan.selected_work_packages = .ok ["B"] := by
  decide +kernel

theorem sample_safe : ∃ plan, sample_schedule sample_candidates = .ok plan ∧ plan.selected_work_packages = ["B"] ∧
    Safe sample_situation (selected_of plan sample_candidates) := by
  obtain ⟨plan,ran,selected⟩ := map_ok_iff.mp sample_selected
  exact ⟨plan,ran,selected,selected_safe (by decide +kernel) ran⟩

theorem sample_needful : ∃ plan order, sample_schedule sample_candidates = .ok plan ∧
    plan.selected_work_packages = ["B"] ∧
    Needful sample_situation sample_candidates plan order := by
  obtain ⟨plan,ran,selected⟩ := map_ok_iff.mp sample_selected
  obtain ⟨order,needful⟩ := schedule_needful ran
  exact ⟨plan,order,ran,selected,needful⟩

theorem sample_stays_out : ∃ plan, sample_schedule sample_candidates = .ok plan ∧
    (StaysOut sample_situation sample_candidates plan ↔ OtherwiseObstructed sample_situation sample_candidates) := by
  obtain ⟨plan,ran,_⟩ := map_ok_iff.mp sample_selected
  exact ⟨plan,ran,held_stays_out_iff ran⟩

/-- The package `A` is held, and is selected again with a claim in another domain. -/
theorem held_package_selected : ∃ plan, sample_schedule [sample_candidate "A" "y"] = .ok plan ∧
    plan.selected_work_packages = ["A"] ∧ ¬ StaysOut sample_situation [sample_candidate "A" "y"] plan := by
  have scheduled : (sample_schedule [sample_candidate "A" "y"]).map SchedulePlan.selected_work_packages =
      .ok ["A"] := by
    decide +kernel
  obtain ⟨plan,ran,selected⟩ := map_ok_iff.mp scheduled
  refine ⟨plan,ran,selected,?_⟩
  intro out
  refine out (sample_candidate "A" "y") (by simp) (by decide +kernel) ?_
  rw [selected]
  decide

end V3Aidlc.ScheduleSafety
