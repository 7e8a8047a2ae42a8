import V3Aidlc.RecoveryPlans

/-!
What a recovery plan takes on trust. It requeues an abandoned run unless its dispatch says
`true` of an outside effect, so an effect is verified first exactly when every such dispatch
says `false` and an effect that it names was looked up (`effects_verified_iff`). It finds the
lease of a run by the run alone, so its steps rest on the right leases exactly when the
leases are right (`own_leases_iff`).
-/
namespace V3Aidlc.UncheckedRecoveries
open V3Aidlc.Values V3Aidlc.Timestamps V3Aidlc.Contracts V3Aidlc.Recovery V3Aidlc.Histories V3Aidlc.RecoveryPlans

/-! ### Effects -/

def effect_flag (dispatch : Dict) : Json := (payload dispatch).get "externalSideEffectPossible"
def names_effect (dispatch : Dict) : Bool := ((payload dispatch).get "effectKey").truthy

/-- The observation of the effect is one of those that confirm its absence. -/
def Absent (absences : List String) (effect_observations dispatch : Dict) : Prop :=
  ∃ status ∈ absences, observation effect_observations dispatch = .ok (.str status)

/-- What a requeue of the dispatch asks for: no effect is possible or its absence is
    confirmed, the dispatch has a flag and it is a boolean, and the observation of a named
    effect is there and says what became of it. -/
structure EffectVerified (absences : List String) (effect_observations dispatch : Dict) : Prop where
  harmless : effect_flag dispatch = .bool false ∨ Absent absences effect_observations dispatch
  flagged : (effect_flag dispatch).isBool = true
  known : names_effect dispatch = true →
    observation effect_observations dispatch = .ok (.str "succeeded") ∨ Absent absences effect_observations dispatch

/-- Every run that the plan requeues has its effect verified. -/
def EffectsVerified (absences : List String) (events : List Dict) (effect_observations : Dict) (plan : RecoveryPlan) :
    Prop :=
  ∀ step ∈ plan.steps, step.action = .RECLAIM_AND_REQUEUE → ∀ dispatch, Dispatch events step.run_id dispatch →
    EffectVerified absences effect_observations dispatch

/-- The run is abandoned with attempts left, and no success of its effect was observed. -/
structure Retryable (events leases : List Dict) (effect_observations : Dict) (now : Instant) (attempts : Int)
    (run_id : String) (dispatch : Dict) : Prop where
  lease : ∃ lease, Abandoned events leases now run_id lease ∧ attempt_of lease < attempts
  unconfirmed : observation effect_observations dispatch ≠ .ok (.str "succeeded")

section
variable {events leases : List Dict} {effect_observations : Dict} {generated_at max_attempts : Json}
  {plan : RecoveryPlan}
  {now : Instant} {attempts : Int} {run_id : String} {dispatch : Dict}

theorem retry_decided (current : (holders leases).Nodup) {steps : List RecoveryStep}
    (decided : Decided events leases effect_observations now attempts run_id dispatch steps)
    (retryable : Retryable events leases effect_observations now attempts run_id dispatch)
    (undeclared : declares_effect dispatch = false) : ∃ step ∈ steps, step.action = .RECLAIM_AND_REQUEUE := by
  obtain ⟨⟨lease,abandoned,left⟩,unconfirmed⟩ := retryable
  obtain ⟨expires,parsed,past⟩ := abandoned.expired
  have own : ∀ {other}, Holds leases run_id other → other = lease :=
    fun held => holds_unique current held abandoned.held
  cases decided with
  | settled completed | unreleased completed => exact absurd completed abandoned.unfinished
  | unleased _ unheld => exact absurd abandoned.held (unheld lease)
  | inactive _ held unused => exact absurd abandoned.active (own held ▸ unused)
  | waiting _ held _ again running =>
    rw [own held,parsed] at again
    cases again
    exact absurd past (not_lt.mpr running)
  | succeeded _ seen => exact absurd seen unconfirmed
  | uncertain _ _ _ declared =>
    rw [undeclared] at declared
    cases declared
  | exhausted other _ _ _ spent =>
    rw [own other.held] at spent
    exact absurd left (not_lt.mpr spent)
  | requeued => exact ⟨_,List.mem_singleton_self _,rfl⟩

/-- A plan requeues the retryable runs whose dispatches declare no effect. -/
theorem requeued_iff (current : (holders leases).Nodup)
    (decides : Decides events leases effect_observations now attempts plan) (own : Dispatch events run_id dispatch) :
    (∃ step ∈ plan.steps, step.run_id = run_id ∧ step.action = .RECLAIM_AND_REQUEUE) ↔
      Retryable events leases effect_observations now attempts run_id dispatch ∧ declares_effect dispatch = false := by
  constructor
  · rintro ⟨step,member,same,requeued⟩
    have decided := step_decided decides member (same ▸ own)
    rw [same] at decided
    cases decided with
    | requeued abandoned seen unconfirmed undeclared left =>
      refine ⟨⟨⟨_,abandoned,left⟩,?_⟩,undeclared⟩
      rw [seen]
      exact fun same => unconfirmed (Except.ok.inj same)
    | _ => cases requeued
  · rintro ⟨retryable,undeclared⟩
    obtain ⟨step,inside,requeued⟩ := retry_decided current (decides.each run_id dispatch own) retryable undeclared
    obtain ⟨member,same⟩ := List.mem_filter.mp inside
    exact ⟨step,member,of_decide_eq_true same,requeued⟩

theorem declares_iff : declares_effect dispatch = true ↔ effect_flag dispatch = .bool true := by
  unfold declares_effect effect_flag Json.isTrue
  rw [decide_eq_true_iff,bool?_eq_some]

/-- What a flag that is not `true` has to be for a requeue to be safe. -/
theorem verified_iff {absences : List String}
    (unconfirmed : observation effect_observations dispatch ≠ .ok (.str "succeeded"))
    (undeclared : declares_effect dispatch = false) : EffectVerified absences effect_observations dispatch ↔
      effect_flag dispatch = .bool false ∧ (names_effect dispatch = true →
        Absent absences effect_observations dispatch) := by
  constructor
  · rintro ⟨_,flagged,known⟩
    refine ⟨?_,fun named => (known named).resolve_left unconfirmed⟩
    obtain ⟨b,value⟩ := Option.isSome_iff_exists.mp flagged
    have flag := bool?_eq_some.mp value
    cases b with
    | false => exact flag
    | true =>
      rw [declares_iff.mpr flag] at undeclared
      cases undeclared
  · rintro ⟨flag,known⟩
    exact ⟨.inl flag,by rw [flag]; rfl,fun named => .inr (known named)⟩

/-- Every requeue has its effect verified exactly when each retryable dispatch says `true`
    of an effect, or says `false` and the absence of an effect that it names is confirmed. -/
theorem effects_verified_iff (absences : List String)
    (planned : plan_recovery events leases effect_observations generated_at max_attempts = .ok plan) :
    ∃ now attempts, parse_time generated_at "generatedAt" = .ok now ∧ max_attempts.int? = some attempts ∧
      (EffectsVerified absences events effect_observations plan ↔
        ∀ run_id dispatch, Dispatch events run_id dispatch →
          Retryable events leases effect_observations now attempts run_id dispatch → effect_flag dispatch = .bool true ∨
            effect_flag dispatch = .bool false ∧
              (names_effect dispatch = true → Absent absences effect_observations dispatch)) := by
  obtain ⟨now,attempts,made,decides⟩ := plan_decides planned
  refine ⟨now,attempts,made.time,made.budget.1,?_⟩
  constructor
  · intro verified run_id dispatch own retryable
    by_cases declared : declares_effect dispatch = true
    · exact .inl (declares_iff.mp declared)
    · right
      have undeclared := Bool.eq_false_iff.mpr declared
      obtain ⟨step,member,rfl,requeued⟩ := (requeued_iff made.current decides own).mpr ⟨retryable,undeclared⟩
      exact (verified_iff retryable.unconfirmed undeclared).mp (verified step member requeued dispatch own)
  · intro safe step member requeued dispatch own
    obtain ⟨retryable,undeclared⟩ := (requeued_iff made.current decides own).mp ⟨step,member,rfl,requeued⟩
    refine (verified_iff retryable.unconfirmed undeclared).mpr ((safe _ dispatch own retryable).resolve_left ?_)
    intro flag
    rw [declares_iff.mpr flag] at undeclared
    cases undeclared

end

/-- The run `R` was abandoned after a first attempt. -/
theorem sample_retryable {fields effect_observations : Dict} {project : String} {now : Instant} {attempts : Int}
    (made : Planned [sample_dispatch fields] [sample_lease project] sample_time (.int 3) now attempts)
    (unconfirmed : observation effect_observations (sample_dispatch fields) ≠ .ok (.str "succeeded")) :
    Retryable [sample_dispatch fields] [sample_lease project] effect_observations now attempts "R"
      (sample_dispatch fields) := by
  have time := (sample_now _).symm.trans made.time
  have budget : (3 : Int) = attempts := Option.some.inj made.budget.1
  refine ⟨⟨sample_lease project,⟨sample_unfinished fields,⟨by simp,rfl⟩,rfl,_,sample_expiry _,?_⟩,?_⟩,unconfirmed⟩
  · rw [← Except.ok.inj time]
    decide
  · rw [← budget]
    show (1 : Int) < 3
    decide

theorem effects_verified_sample : ∃ plan, plan.steps ≠ [] ∧ ∀ absences, ∃ now attempts,
    (EffectsVerified absences [sample_dispatch []] [] plan ↔
      ∀ run_id dispatch, Dispatch [sample_dispatch []] run_id dispatch →
      Retryable [sample_dispatch []] [sample_lease "P"] [] now attempts run_id dispatch →
        effect_flag dispatch = .bool true ∨
        effect_flag dispatch = .bool false ∧ (names_effect dispatch = true → Absent absences [] dispatch)) := by
  obtain ⟨plan,planned⟩ := sample_plan [] (by decide +kernel : validate_lease (sample_lease "P") = .ok ()) rfl []
  obtain ⟨now,attempts,made,decides⟩ := plan_decides planned
  have decided := decides.each "R" _ (sample_own [])
  refine ⟨plan,?_,?_⟩
  · intro none
    rw [none] at decided
    cases decided with
    | settled completed _ => exact sample_unfinished [] completed
  · intro absences
    obtain ⟨now,attempts,_,_,same⟩ := effects_verified_iff absences planned
    exact ⟨now,attempts,same⟩

/-- A dispatch without a flag is requeued. -/
theorem unflagged_requeued : ∃ plan, plan_recovery [sample_dispatch []] [sample_lease "P"] [] sample_time (.int 3) =
    .ok plan ∧
    ∀ absences, ¬ EffectsVerified absences [sample_dispatch []] [] plan := by
  obtain ⟨plan,planned⟩ := sample_plan [] (by decide +kernel : validate_lease (sample_lease "P") = .ok ()) rfl []
  obtain ⟨now,attempts,made,decides⟩ := plan_decides planned
  have unseen : observation [] (sample_dispatch []) = .ok .null := by
    unfold observation
    rw [sample_payload]
    rfl
  have undeclared : declares_effect (sample_dispatch []) = false := by
    unfold declares_effect
    rw [sample_payload]
    rfl
  have retryable : Retryable [sample_dispatch []] [sample_lease "P"] [] now attempts "R" (sample_dispatch []) :=
    sample_retryable made (by rw [unseen]; simp)
  obtain ⟨step,member,same,requeued⟩ := (requeued_iff made.current decides (sample_own [])).mpr ⟨retryable,undeclared⟩
  refine ⟨plan,planned,?_⟩
  intro absences verified
  have flagged := (verified step member requeued _ (same ▸ sample_own [])).flagged
  unfold effect_flag at flagged
  rw [sample_payload] at flagged
  cases flagged

/-! ### Leases -/

/-- The lease is of the project of the history and, when the dispatch records a digest,
    for that dispatch. -/
structure Own (events : List Dict) (dispatch lease : Dict) : Prop where
  project : ∀ event ∈ events, text lease "projectId" = text event "projectId"
  digest : (payload dispatch).get "dispatchDigest" ≠ .null →
    (payload dispatch).get "dispatchDigest" = .str (text lease "dispatchDigest")

/-- A step names only a lease of its own dispatch, and a run without one is an orphan. -/
structure OwnLeases (events leases : List Dict) (plan : RecoveryPlan) : Prop where
  named : ∀ step ∈ plan.steps, ∀ dispatch, Dispatch events step.run_id dispatch → ∀ id, step.lease_id = some id →
    ∃ lease, Holds leases step.run_id lease ∧ text lease "leaseId" = id ∧ Own events dispatch lease
  orphaned : ∀ run_id dispatch, Dispatch events run_id dispatch →
    (∀ lease, Holds leases run_id lease → ¬ Own events dispatch lease) →
    ∀ step ∈ plan.steps, step.run_id = run_id → step.action = .RECONCILE_ORPHAN_RUN

section
variable {events leases : List Dict} {effect_observations : Dict} {generated_at max_attempts : Json}
  {plan : RecoveryPlan}
  {now : Instant} {attempts : Int} {run_id : String} {dispatch : Dict}

/-- A step names the lease of its run, which is unfinished or leased still. -/
theorem decided_lease {steps : List RecoveryStep}
    (decided : Decided events leases effect_observations now attempts run_id dispatch steps) {step : RecoveryStep}
    (inside : step ∈ steps) : (∃ lease, Holds leases run_id lease ∧ (run_id ∉ completed_runs events ∨ active lease) ∧
      step.lease_id = some (text lease "leaseId")) ∨ step.action = .RECONCILE_ORPHAN_RUN ∧ step.lease_id = none := by
  cases decided with
  | settled => cases inside
  | unleased =>
    rw [List.mem_singleton.mp inside]
    exact .inr ⟨rfl,rfl⟩
  | unreleased _ held inUse =>
    rw [List.mem_singleton.mp inside]
    exact .inl ⟨_,held,.inr inUse,rfl⟩
  | inactive unfinished held | waiting unfinished held =>
    rw [List.mem_singleton.mp inside]
    exact .inl ⟨_,held,.inl unfinished,rfl⟩
  | succeeded abandoned | uncertain abandoned | exhausted abandoned | requeued abandoned =>
    rw [List.mem_singleton.mp inside]
    exact .inl ⟨_,abandoned.held,.inl abandoned.unfinished,rfl⟩

/-- The lease of a run that is unfinished or leased still is named by its step. -/
theorem lease_decided (current : (holders leases).Nodup) {steps : List RecoveryStep}
    (decided : Decided events leases effect_observations now attempts run_id dispatch steps) {lease : Dict}
    (held : Holds leases run_id lease) (counts : run_id ∉ completed_runs events ∨ active lease) :
    ∃ step ∈ steps, step.lease_id = some (text lease "leaseId") := by
  have own : ∀ {other}, Holds leases run_id other → other = lease := fun too => holds_unique current too held
  cases decided with
  | settled completed unheld =>
    rcases counts with unfinished | inUse
    · exact absurd completed unfinished
    · exact absurd inUse (unheld lease held)
  | unleased _ unheld => exact absurd held (unheld lease)
  | unreleased _ too | inactive _ too | waiting _ too => exact ⟨_,List.mem_singleton_self _,by rw [own too]⟩
  | succeeded abandoned | uncertain abandoned | exhausted abandoned | requeued abandoned =>
    exact ⟨_,List.mem_singleton_self _,by rw [own abandoned.held]⟩

/-- The steps rest on the leases of their own dispatches exactly when each lease of a run
    that is unfinished or leased still is one. -/
theorem own_leases_iff
    (planned : plan_recovery events leases effect_observations generated_at max_attempts = .ok plan) :
    OwnLeases events leases plan ↔ ∀ run_id dispatch lease, Dispatch events run_id dispatch →
      Holds leases run_id lease →
      run_id ∉ completed_runs events ∨ active lease → Own events dispatch lease := by
  obtain ⟨now,attempts,made,decides⟩ := plan_decides planned
  constructor
  · intro right run_id dispatch lease own held counts
    obtain ⟨step,inside,names⟩ := lease_decided made.current (decides.each run_id dispatch own) held counts
    obtain ⟨member,same⟩ := List.mem_filter.mp inside
    have same := of_decide_eq_true same
    obtain ⟨other,too,_,ours⟩ := right.named step member dispatch (same ▸ own) _ names
    rw [holds_unique made.current held (same ▸ too)]
    exact ours
  · intro ours
    constructor
    · intro step member dispatch own id names
      rcases decided_lease (step_decided decides member own) (List.mem_singleton_self step) with
        ⟨lease,held,counts,same⟩ | ⟨_,none⟩
      · rw [names] at same
        exact ⟨lease,held,(Option.some.inj same).symm,ours _ dispatch lease own held counts⟩
      · rw [names] at none
        cases none
    · rintro run_id dispatch own foreign step member rfl
      rcases decided_lease (step_decided decides member own) (List.mem_singleton_self step) with
        ⟨lease,held,counts,_⟩ | ⟨orphan,_⟩
      · exact absurd (ours _ dispatch lease own held counts) (foreign lease held)
      · exact orphan

end

theorem own_leases_sample : ∃ plan, plan_recovery [sample_dispatch []] [sample_lease "P"] [] sample_time (.int 3) =
    .ok plan ∧
    (OwnLeases [sample_dispatch []] [sample_lease "P"] plan ↔
      ∀ run_id dispatch lease, Dispatch [sample_dispatch []] run_id dispatch →
      Holds [sample_lease "P"] run_id lease → run_id ∉ completed_runs [sample_dispatch []] ∨ active lease →
      Own [sample_dispatch []] dispatch lease) := by
  obtain ⟨plan,planned⟩ := sample_plan [] (by decide +kernel : validate_lease (sample_lease "P") = .ok ()) rfl []
  exact ⟨plan,planned,own_leases_iff planned⟩

/-- The run is requeued on the lease of another project. -/
theorem foreign_lease_used : ∃ plan, plan_recovery [sample_dispatch []] [sample_lease "Q"] [] sample_time (.int 3) =
    .ok plan ∧
    ¬ OwnLeases [sample_dispatch []] [sample_lease "Q"] plan := by
  obtain ⟨plan,planned⟩ := sample_plan [] (by decide +kernel : validate_lease (sample_lease "Q") = .ok ()) rfl []
  obtain ⟨now,attempts,made,decides⟩ := plan_decides planned
  have held : Holds [sample_lease "Q"] "R" (sample_lease "Q") := ⟨by simp,rfl⟩
  refine ⟨plan,planned,?_⟩
  intro right
  obtain ⟨step,inside,names⟩ := lease_decided made.current (decides.each "R" _ (sample_own [])) held
    (.inl (sample_unfinished []))
  obtain ⟨member,same⟩ := List.mem_filter.mp inside
  have same := of_decide_eq_true same
  obtain ⟨lease,too,_,ours⟩ := right.named step member _ (same ▸ sample_own []) _ names
  rw [List.mem_singleton.mp too.1] at ours
  have project := ours.project (sample_dispatch []) (by simp)
  have own : text (sample_dispatch []) "projectId" = "P" :=
    sealed_text [] (sample_draft []) (by decide)
  rw [own] at project
  exact absurd project (by decide)

end V3Aidlc.UncheckedRecoveries
