import V3Aidlc.ScheduleSafety

/-!
Bounded aging. A candidate that waits moves up, by no more than the policy allows and never past the
critical path, so the candidates of safety and recovery stay before all others in every plan
(`bounded_aging`). The seconds it has waited come from a double, which moves with the span it rounds.
-/
namespace V3Aidlc.Aging
open V3Aidlc.Values V3Aidlc.Loops V3Aidlc.Timestamps V3Aidlc.Contracts V3Aidlc.Canonical V3Aidlc.Scheduler
open V3Aidlc.Doubles V3Aidlc.Greedy V3Aidlc.Schedules

/-- The priority of the candidate's class before it ages. -/
def base (candidate : Dict) : Int := PRIORITY_CLASS (text candidate "priorityClass")

/-- The candidate is one of safety and recovery. -/
def Urgent (candidate : Dict) : Prop := text candidate "priorityClass" = "safety_recovery"

/-- The whole seconds that the candidate has waited, as the source counts them. -/
def waited_seconds (now : Instant) (candidate : Dict) : Int := max 0 ⌊total_seconds (now - queued_at candidate)⌋

def boost (now : Instant) (policy candidate : Dict) : Int :=
  min (int_field policy "maxAgingBoost") (waited_seconds now candidate / int_field policy "agingWindowSeconds")

/-- The bounds on an effective priority. -/
structure Bounded (policy candidate : Dict) (priority : Int) : Prop where
  boosted : base candidate - int_field policy "maxAgingBoost" ≤ priority
  kept : priority ≤ base candidate
  urgent : Urgent candidate → priority = 0
  capped : ¬ Urgent candidate → (PRIORITY_CLASS "critical_path" : Int) ≤ priority

/-! ### Time -/

theorem total_seconds_mono {span longer : Int} (le : span ≤ longer) : total_seconds span ≤ total_seconds longer := by
  unfold total_seconds
  apply roundDouble_mono
  have cast : (span : ℚ) ≤ longer := Int.cast_le.mpr le
  linarith

theorem waited_seconds_mono {earlier later : Instant} (le : earlier ≤ later) (candidate : Dict) :
    waited_seconds earlier candidate ≤ waited_seconds later candidate := by
  unfold waited_seconds
  have spans : total_seconds (earlier - queued_at candidate) ≤ total_seconds (later - queued_at candidate) :=
    total_seconds_mono (Int.sub_le_sub_right le _)
  exact max_le_max le_rfl (Int.floor_le_floor spans)

/-! ### Policies -/

/-- The window and the boost of an accepted policy. -/
theorem validate_policy_aging {policy : Dict} (accepted : validate_policy policy = .ok ()) :
    1 ≤ int_field policy "agingWindowSeconds" ∧ 0 ≤ int_field policy "maxAgingBoost" ∧
      int_field policy "maxAgingBoost" ≤ 5 := by
  unfold validate_policy at accepted
  obtain ⟨_,_,accepted⟩ := bind_ok_iff.mp accepted
  cases listed : (policy.get "limits").dict? with
  | none => simp [listed,scheduler_error] at accepted
  | some limits =>
    simp only [listed] at accepted
    obtain ⟨_,_,accepted⟩ := bind_ok_iff.mp accepted
    obtain ⟨_,_,accepted⟩ := bind_ok_iff.mp accepted
    cases window : policy.get "agingWindowSeconds" with
    | int aging =>
      simp only [window,integer?] at accepted
      obtain ⟨_,positive,accepted⟩ := bind_ok_iff.mp accepted
      cases most : (policy.get "maxAgingBoost").int? with
      | none => simp [most,scheduler_error] at accepted
      | some boost =>
        simp only [most,reject,reject_if_ok] at accepted positive
        unfold int_field
        rw [window,most]
        simp only [Json.int?,Option.getD_some]
        simp only [Bool.not_eq_false',Bool.and_eq_true,decide_eq_true_eq,decide_eq_false_iff_not,
          not_lt] at accepted positive
        exact ⟨positive,accepted.1,accepted.2⟩
    | _ => simp [window,integer?,scheduler_error] at accepted

/-! ### One candidate -/

theorem base_zero_iff {candidate : Dict} : base candidate = 0 ↔ Urgent candidate := by
  unfold base Urgent PRIORITY_CLASS
  by_cases urgent : text candidate "priorityClass" = "safety_recovery"
  · simp [urgent,PRIORITY_CLASSES]
  · have later : PRIORITY_CLASSES.idxOf (text candidate "priorityClass") =
        PRIORITY_CLASSES.tail.idxOf (text candidate "priorityClass") + 1 := List.idxOf_cons_ne _ (Ne.symm urgent)
    rw [later]
    simp only [urgent,iff_false]
    omega

section
variable {policy candidate : Dict} {now earlier later : Instant}

theorem effective_priority_urgent (urgent : Urgent candidate) : effective_priority now policy candidate = 0 := by
  have zero : (PRIORITY_CLASS (text candidate "priorityClass") : Int) = 0 := base_zero_iff.mpr urgent
  unfold effective_priority
  simp [zero]

theorem effective_priority_other (other : ¬ Urgent candidate) :
    effective_priority now policy candidate = max 1 (base candidate - boost now policy candidate) := by
  have nonzero : ¬ (PRIORITY_CLASS (text candidate "priorityClass") : Int) = 0 :=
    fun zero => other (base_zero_iff.mp zero)
  unfold effective_priority
  simp only [nonzero,↓reduceIte]
  rfl

theorem boost_bounds (accepted : validate_policy policy = .ok ()) :
    0 ≤ boost now policy candidate ∧ boost now policy candidate ≤ int_field policy "maxAgingBoost" := by
  obtain ⟨window,most,_⟩ := validate_policy_aging accepted
  have windows : 0 ≤ waited_seconds now candidate / int_field policy "agingWindowSeconds" :=
    Int.ediv_nonneg (le_max_left _ _) (by omega)
  exact ⟨le_min most windows,min_le_left _ _⟩

theorem boost_mono (accepted : validate_policy policy = .ok ()) (le : earlier ≤ later) :
    boost earlier policy candidate ≤ boost later policy candidate := by
  obtain ⟨window,_,_⟩ := validate_policy_aging accepted
  have windows := Int.ediv_le_ediv (by omega : 0 < int_field policy "agingWindowSeconds")
    (waited_seconds_mono le candidate)
  exact min_le_min le_rfl windows

theorem effective_priority_mono (accepted : validate_policy policy = .ok ()) (le : earlier ≤ later) :
    effective_priority later policy candidate ≤ effective_priority earlier policy candidate := by
  by_cases urgent : Urgent candidate
  · rw [effective_priority_urgent urgent,effective_priority_urgent urgent]
  · have more : boost earlier policy candidate ≤ boost later policy candidate := boost_mono accepted le
    rw [effective_priority_other urgent,effective_priority_other urgent]
    exact max_le_max le_rfl (by omega)

theorem effective_priority_bounded (accepted : validate_policy policy = .ok ()) :
    Bounded policy candidate (effective_priority now policy candidate) := by
  obtain ⟨window,most,_⟩ := validate_policy_aging accepted
  have bounds : 0 ≤ boost now policy candidate ∧ boost now policy candidate ≤ int_field policy "maxAgingBoost" :=
    boost_bounds accepted
  obtain ⟨nonneg,limited⟩ := bounds
  by_cases urgent : Urgent candidate
  · have zero := base_zero_iff.mpr urgent
    rw [effective_priority_urgent urgent]
    exact ⟨by omega,by omega,fun _ => rfl,fun other => absurd urgent other⟩
  · have positive : 0 ≤ base candidate := Int.natCast_nonneg _
    have nonzero : base candidate ≠ 0 := fun zero => urgent (base_zero_iff.mp zero)
    rw [effective_priority_other urgent]
    exact ⟨by omega,by omega,fun also => absurd also urgent,fun _ => le_max_left 1 _⟩

end

/-! ### The order of a plan -/

/-- The entries of a plan, in the order in which the candidates were taken. -/
structure Taken (policy : Dict) (clock : Instant) (candidates order : List Dict) (plan : SchedulePlan) : Prop where
  all : order.Perm candidates
  packages : plan.entries.map ScheduleEntry.work_package_id =
    order.map (fun candidate => text candidate "workPackageId")
  priorities : plan.entries.map ScheduleEntry.effective_priority = order.map (effective_priority clock policy)
  urgent_first : order.Pairwise (fun earlier later => Urgent later → Urgent earlier)

theorem ordered_urgent (s : Situation) (accepted : validate_policy s.policy = .ok ()) (candidates : List Dict) :
    (ordered s candidates).Pairwise (fun earlier later => Urgent later → Urgent earlier) := by
  refine (pairwise_sortedBy (schedule_key s.now s.policy) candidates).imp ?_
  intro earlier later sorted urgent
  by_contra other
  -- The first part of the key decides: it is at least one and at most zero.
  have first : effective_priority s.now s.policy earlier ≤ effective_priority s.now s.policy later :=
    Prod.Lex.monotone_fst _ _ sorted
  have low : (PRIORITY_CLASS "critical_path" : Int) ≤ effective_priority s.now s.policy earlier :=
    (effective_priority_bounded accepted).capped other
  have top : (PRIORITY_CLASS "critical_path" : Int) = 1 := by decide
  rw [effective_priority_urgent urgent] at first
  omega

theorem plan_taken {s : Situation} (accepted : validate_policy s.policy = .ok ()) (now : String)
    (candidates : List Dict) :
    Taken s.policy s.now candidates (ordered s candidates) (plan_of s now candidates) := by
  have visited : (trail (admits s) (ordered s candidates)).map Prod.snd = ordered s candidates := trail_items _
  refine ⟨perm_sortedBy _ _,?_,?_,ordered_urgent s accepted candidates⟩
  · show ((trail (admits s) (ordered s candidates)).map (entry_of s)).map _ = _
    rw [List.map_map,← congrArg (List.map _) visited,List.map_map]
    refine List.map_congr_left (fun visit _ => ?_)
    simp only [Function.comp_apply,entry_of]
    split <;> rfl
  · show ((trail (admits s) (ordered s candidates)).map (entry_of s)).map _ = _
    rw [List.map_map,← congrArg (List.map _) visited,List.map_map]
    refine List.map_congr_left (fun visit _ => ?_)
    simp only [Function.comp_apply,entry_of]
    split <;> rfl

/-- Under an accepted policy a candidate never loses by waiting, gains at most the boost of the policy,
    and reaches the priority of safety and recovery in no other class; in every plan the candidates of
    safety and recovery come before all others, and no other has a priority above the critical path. -/
theorem bounded_aging {policy : Dict} (accepted : validate_policy policy = .ok ()) :
    (∀ candidate, validate_candidate candidate = .ok () → ∀ earlier later : Instant, earlier ≤ later →
      effective_priority later policy candidate ≤ effective_priority earlier policy candidate ∧
      Bounded policy candidate (effective_priority later policy candidate)) ∧
    ∀ candidates active_reservations completed_dependencies current_revisions state_revision now plan,
      schedule candidates active_reservations policy completed_dependencies current_revisions state_revision now =
        .ok plan →
      ∃ clock order, parse_time (.str now) "now" = .ok clock ∧ Taken policy clock candidates order plan ∧
        ∀ candidate ∈ order, ¬ Urgent candidate →
          (PRIORITY_CLASS "critical_path" : Int) ≤ effective_priority clock policy candidate := by
  refine ⟨?_,?_⟩
  · intro candidate _ earlier later le
    exact ⟨effective_priority_mono accepted le,effective_priority_bounded accepted⟩
  · intro candidates active_reservations completed_dependencies current_revisions state_revision now plan ran
    obtain ⟨reservations,clock,_,schedulable,rfl⟩ := schedule_ok.mp ran
    have taken := plan_taken (s := ⟨policy,reservations,completed_dependencies,current_revisions,state_revision,clock⟩)
      accepted now candidates
    exact ⟨clock,_,schedulable.clock,taken,
      fun candidate _ => (effective_priority_bounded accepted).capped⟩

/-! ### Candidates of two classes -/

/-- A candidate of safety and recovery that was queued last, beside one that has waited for a year. -/
def urgent_candidate : Dict :=
  ((ScheduleSafety.sample_candidate "C" "z").set "priorityClass" (.str "safety_recovery")).set "queuedAt"
    (.str "2027-01-01T00:00:00Z")

def late_schedule : Py SchedulePlan :=
  schedule [ScheduleSafety.sample_candidate "B" "y",urgent_candidate] [] ScheduleSafety.sample_policy []
    [("B",.str "r"),("C",.str "r")] "s" "2027-01-01T00:00:00Z"

theorem bounded_aging_sample :
    effective_priority 63902826000000000 ScheduleSafety.sample_policy (ScheduleSafety.sample_candidate "B" "y") ≤
      effective_priority 63902822400000000 ScheduleSafety.sample_policy (ScheduleSafety.sample_candidate "B" "y") ∧
    ∃ plan clock order, late_schedule = .ok plan ∧
      Taken ScheduleSafety.sample_policy clock [ScheduleSafety.sample_candidate "B" "y",
        urgent_candidate] order plan := by
  have accepted : validate_policy ScheduleSafety.sample_policy = .ok () := by decide +kernel
  obtain ⟨aged,planned⟩ := bounded_aging accepted
  refine ⟨(aged _ (by decide +kernel) _ _ (by decide)).1,?_⟩
  obtain ⟨plan,ran,_⟩ := returns_with (m := late_schedule) (p := fun _ => true) (by decide +kernel)
  obtain ⟨clock,order,_,taken,_⟩ := planned _ _ _ _ _ _ _ ran
  exact ⟨plan,clock,order,ran,taken⟩

example : late_schedule.toOption.map (fun plan => plan.entries.map ScheduleEntry.work_package_id) = some ["C","B"] := by
  decide +kernel

end V3Aidlc.Aging
