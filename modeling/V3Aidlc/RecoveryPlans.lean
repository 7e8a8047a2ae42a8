import V3Aidlc.AppendOnly
import V3Aidlc.Groups

/-!
What a recovery plan decides. A plan goes through the dispatched runs in order; for each
of them its completion, its current lease, the time and the observed effect select one of
a few decisions (`Decided`), and the decision is at most one step (`plan_recovery_ok`).
Everything that the plan promises, and what it does not, is read off the decisions.
-/
namespace V3Aidlc.RecoveryPlans
open V3Aidlc.Values V3Aidlc.Loops V3Aidlc.Timestamps V3Aidlc.Contracts V3Aidlc.Canonical V3Aidlc.Recovery
open V3Aidlc.Histories V3Aidlc.Groups

/-! ### Leases -/

/-- The lease is one of the run. -/
def Holds (leases : List Dict) (run_id : String) (lease : Dict) : Prop :=
  lease ∈ leases ∧ text lease "holderRunId" = run_id

def active (lease : Dict) : Prop := text lease "status" = "active"

/-- What `lease_by_run` holds. -/
def lease_table (leases : List Dict) : List (String × Dict) :=
  leases.map (fun lease => (text lease "holderRunId",lease))

theorem index_lease_ok {leases : List Dict} {lease : Dict} {table : List (String × Dict)} :
    index_lease (lease_table leases) lease = .ok table ↔ validate_lease lease = .ok () ∧
      text lease "holderRunId" ∉ holders leases ∧ table = lease_table (leases ++ [lease]) := by
  have keys : (lease_table leases).map Prod.fst = holders leases := by simp [lease_table,holders]
  unfold index_lease
  simp only [bind_ok_iff,keys,reject,reject_if_ok,pure_ok_iff,List.contains_eq_mem,decide_eq_false_iff_not]
  constructor
  · rintro ⟨_,valid,_,fresh,rfl⟩
    exact ⟨valid,fresh,by simp [lease_table]⟩
  · rintro ⟨valid,fresh,rfl⟩
    exact ⟨(),valid,(),fresh,by simp [lease_table]⟩

/-- Indexing succeeds exactly when every lease is valid and no run holds two. -/
theorem index_leases_ok {leases : List Dict} {table : List (String × Dict)} :
    leases.foldlM index_lease [] = .ok table ↔
      (∀ lease ∈ leases, validate_lease lease = .ok ()) ∧ (holders leases).Nodup ∧ table = lease_table leases := by
  induction leases using List.reverseRecOn generalizing table with
  | nil =>
    rw [foldlM_nil_ok]
    simp [holders,lease_table,eq_comm]
  | append_singleton leases lease ih =>
    have distinct : (holders (leases ++ [lease])).Nodup ↔
        (holders leases).Nodup ∧ text lease "holderRunId" ∉ holders leases := by
      simp only [holders,List.map_append,List.map_cons,List.map_nil,nodup_snoc]
    rw [List.foldlM_append,bind_ok_iff,distinct]
    simp only [foldlM_cons_ok,foldlM_nil_ok,exists_eq_right]
    constructor
    · rintro ⟨before,ran,indexed⟩
      obtain ⟨valid,apart,rfl⟩ := ih.mp ran
      obtain ⟨last,fresh,rfl⟩ := index_lease_ok.mp indexed
      refine ⟨?_,⟨apart,fresh⟩,rfl⟩
      intro other member
      rcases List.mem_append.mp member with earlier | here
      · exact valid other earlier
      · rw [List.mem_singleton.mp here]
        exact last
    · rintro ⟨valid,⟨apart,fresh⟩,rfl⟩
      refine ⟨lease_table leases,ih.mpr ⟨fun other member => valid other (by simp [member]),apart,rfl⟩,?_⟩
      exact index_lease_ok.mpr ⟨valid lease (by simp),fresh,rfl⟩

/-- In a table with distinct keys a lookup finds exactly the entries. -/
theorem lookup_entry {α : Type} {table : List (String × α)} (distinct : (table.map Prod.fst).Nodup) {key : String}
    {a : α} :
    table.lookup key = some a ↔ (key,a) ∈ table := by
  induction table with
  | nil => simp
  | cons entry rest ih =>
    obtain ⟨k,b⟩ := entry
    obtain ⟨fresh,later⟩ := List.nodup_cons.mp distinct
    rw [List.lookup_cons,List.mem_cons]
    by_cases here : key = k
    · subst here
      have absent : (key,a) ∉ rest := fun member => fresh (List.mem_map.mpr ⟨(key,a),member,rfl⟩)
      simp [absent,eq_comm]
    · simp [beq_eq_false_iff_ne.mpr here,here,ih later]

theorem lookup_lease {leases : List Dict} (distinct : (holders leases).Nodup) {run_id : String} {lease : Dict} :
    (lease_table leases).lookup run_id = some lease ↔ Holds leases run_id lease := by
  have keys : (lease_table leases).map Prod.fst = holders leases := by simp [lease_table,holders]
  rw [lookup_entry (by rw [keys]; exact distinct)]
  unfold Holds lease_table
  rw [List.mem_map]
  constructor
  · rintro ⟨other,member,same⟩
    cases same
    exact ⟨member,rfl⟩
  · rintro ⟨member,rfl⟩
    exact ⟨lease,member,rfl⟩

theorem lookup_no_lease {leases : List Dict} (distinct : (holders leases).Nodup) {run_id : String} :
    (lease_table leases).lookup run_id = none ↔ ∀ lease, ¬ Holds leases run_id lease := by
  rw [Option.eq_none_iff_forall_not_mem]
  exact forall_congr' fun lease => not_congr (lookup_lease distinct)

/-- A run holds one lease at most. -/
theorem holds_unique {leases : List Dict} (distinct : (holders leases).Nodup) {run_id : String} {lease other : Dict}
    (held : Holds leases run_id lease) (too : Holds leases run_id other) : lease = other := by
  rw [← lookup_lease distinct] at held too
  rw [held] at too
  exact Option.some.inj too

/-! ### Decisions -/

/-- The dispatch of a run. -/
def Dispatch (events : List Dict) (run_id : String) (dispatch : Dict) : Prop :=
  dispatch ∈ events ∧ of_type "run.dispatched" dispatch = true ∧ run_of dispatch = run_id

/-- What was observed of the effect of a dispatch. -/
def observation (effect_observations dispatch : Dict) : Py Json :=
  observed effect_observations ((payload dispatch).get "effectKey")

/-- The dispatch says that it may have an effect outside. -/
def declares_effect (dispatch : Dict) : Bool := ((payload dispatch).get "externalSideEffectPossible").isTrue

def attempt_of (lease : Dict) : Int := ((lease.get "attempt").int?).getD 0

/-- The run is unfinished and its active lease expired before the time. -/
structure Abandoned (events leases : List Dict) (now : Instant) (run_id : String) (lease : Dict) : Prop where
  unfinished : run_id ∉ completed_runs events
  held : Holds leases run_id lease
  active : active lease
  expired : ∃ expires, parse_time (lease.get "expiresAt") "expiresAt" = .ok expires ∧ expires < now

section
variable (events leases : List Dict) (effect_observations : Dict) (now : Instant) (attempts : Int) (run_id : String)

/-- The steps that a plan has for a dispatched run, and what they rest on. -/
inductive Decided (dispatch : Dict) : List RecoveryStep → Prop
  | settled (completed : run_id ∈ completed_runs events)
    (unheld : ∀ lease, Holds leases run_id lease → ¬ active lease) :
    Decided dispatch []
  | unreleased {lease : Dict} (completed : run_id ∈ completed_runs events) (held : Holds leases run_id lease)
    (inUse : active lease) : Decided dispatch [⟨.RECONCILE_COMPLETED_RUN,run_id,some (text lease "leaseId"),
      "The run completed but its lease remains active."⟩]
  | unleased (unfinished : run_id ∉ completed_runs events) (unheld : ∀ lease, ¬ Holds leases run_id lease) :
    Decided dispatch [⟨.RECONCILE_ORPHAN_RUN,run_id,none,"The dispatch has no durable current lease."⟩]
  | inactive {lease : Dict} (unfinished : run_id ∉ completed_runs events) (held : Holds leases run_id lease)
    (unused : ¬ active lease) : Decided dispatch [⟨.RECONCILE_ORPHAN_RUN,run_id,some (text lease "leaseId"),
      "The unfinished run has a " ++ text lease "status" ++ " lease."⟩]
  | waiting {lease : Dict} {expires : Instant} (unfinished : run_id ∉ completed_runs events)
    (held : Holds leases run_id lease) (inUse : active lease)
    (parsed : parse_time (lease.get "expiresAt") "expiresAt" = .ok expires) (running : now ≤ expires) :
    Decided dispatch [⟨.WAIT_FOR_LEASE,run_id,some (text lease "leaseId"),"The current lease has not expired."⟩]
  | succeeded {lease : Dict} (abandoned : Abandoned events leases now run_id lease)
    (seen : observation effect_observations dispatch = .ok (.str "succeeded")) :
    Decided dispatch [⟨.RECONCILE_COMPLETED_RUN,run_id,some (text lease "leaseId"),
      "The external effect already succeeded; do not repeat it."⟩]
  | uncertain {lease : Dict} {status : Json} (abandoned : Abandoned events leases now run_id lease)
    (seen : observation effect_observations dispatch = .ok status) (unconfirmed : status ≠ .str "succeeded")
    (declared : declares_effect dispatch = true) :
    Decided dispatch [⟨.VERIFY_EXTERNAL_EFFECT,run_id,some (text lease "leaseId"),
      "The lease expired after a potentially external effect; verify reality before retrying."⟩]
  | exhausted {lease : Dict} {status : Json} (abandoned : Abandoned events leases now run_id lease)
    (seen : observation effect_observations dispatch = .ok status) (unconfirmed : status ≠ .str "succeeded")
    (undeclared : declares_effect dispatch = false) (spent : attempts ≤ attempt_of lease) :
    Decided dispatch [⟨.ESCALATE_ATTEMPT_BUDGET,run_id,some (text lease "leaseId"),
      "The safe retry budget is exhausted."⟩]
  | requeued {lease : Dict} {status : Json} (abandoned : Abandoned events leases now run_id lease)
    (seen : observation effect_observations dispatch = .ok status) (unconfirmed : status ≠ .str "succeeded")
    (undeclared : declares_effect dispatch = false) (left : attempt_of lease < attempts) :
    Decided dispatch [⟨.RECLAIM_AND_REQUEUE,run_id,some (text lease "leaseId"),
      "The lease expired, no external effect is possible, and retry budget remains."⟩]

end

section
variable {events leases : List Dict} {effect_observations : Dict} {now : Instant} {attempts : Int} {run_id : String}

theorem dispatch_unique (distinct : (dispatched_runs events).Nodup) {dispatch other : Dict}
    (own : Dispatch events run_id dispatch) (too : Dispatch events run_id other) : dispatch = other := by
  obtain ⟨member,typed,same⟩ := own
  obtain ⟨otherMember,otherTyped,otherSame⟩ := too
  exact List.inj_on_of_nodup_map distinct (List.mem_filter.mpr ⟨member,typed⟩)
    (List.mem_filter.mpr ⟨otherMember,otherTyped⟩)
    (same.trans otherSame.symm)

theorem lookup_dispatch (distinct : (dispatched_runs events).Nodup) {dispatch : Dict}
    (own : Dispatch events run_id dispatch) :
    (run_history events).dispatches.lookup run_id = some dispatch := by
  obtain ⟨member,typed,rfl⟩ := own
  rw [lookup_entry (by rw [run_history_runs]; exact distinct)]
  exact List.mem_map.mpr ⟨dispatch,List.mem_filter.mpr ⟨member,typed⟩,rfl⟩

/-- An abandoned run is decided by the observation, the dispatch and the attempts. -/
theorem expired_step_decided {dispatch lease : Dict} {step : RecoveryStep}
    (abandoned : Abandoned events leases now run_id lease)
    (ran : expired_step run_id dispatch lease effect_observations attempts = .ok step) :
    Decided events leases effect_observations now attempts run_id dispatch [step] := by
  unfold expired_step at ran
  obtain ⟨status,seen,ran⟩ := bind_ok_iff.mp ran
  split_ifs at ran with confirmed declared spent
  · obtain rfl := pure_ok_iff.mp ran
    rw [eq_str_right.mp confirmed] at seen
    exact .succeeded abandoned seen
  all_goals
    obtain rfl := pure_ok_iff.mp ran
    have unconfirmed : status ≠ .str "succeeded" := fun same => confirmed (eq_str_right.mpr same)
  · exact .uncertain abandoned seen unconfirmed declared
  · exact .exhausted abandoned seen unconfirmed (Bool.eq_false_iff.mpr declared) spent
  · exact .requeued abandoned seen unconfirmed (Bool.eq_false_iff.mpr declared) (not_le.mp spent)

/-- One pass of the loop over the dispatched runs decides the run. -/
theorem recovery_step_decided (distinct : (dispatched_runs events).Nodup) (current : (holders leases).Nodup)
    {dispatch : Dict} (own : Dispatch events run_id dispatch) {steps : List RecoveryStep}
    (ran : recovery_step (run_history events) (lease_table leases) effect_observations now attempts run_id =
      .ok steps) :
    Decided events leases effect_observations now attempts run_id dispatch steps := by
  unfold recovery_step at ran
  rw [lookup_dispatch distinct own] at ran
  have done : (run_history events).completed_runs.contains run_id = true ↔ run_id ∈ completed_runs events := by
    simp [run_history]
  split at ran
  · rename_i completed
    have completed := done.mp completed
    cases found : (lease_table leases).lookup run_id with
    | none =>
      rw [found] at ran
      obtain rfl := pure_ok_iff.mp ran
      exact .settled completed (fun lease held => absurd held ((lookup_no_lease current).mp found lease))
    | some lease =>
      rw [found] at ran
      have held := (lookup_lease current).mp found
      dsimp only at ran
      split at ran
      · rename_i inUse
        obtain rfl := pure_ok_iff.mp ran
        exact .unreleased completed held inUse
      · rename_i unused
        obtain rfl := pure_ok_iff.mp ran
        exact .settled completed (fun other too => holds_unique current held too ▸ unused)
  · rename_i unfinished
    have unfinished : run_id ∉ completed_runs events := fun completed => unfinished (done.mpr completed)
    cases found : (lease_table leases).lookup run_id with
    | none =>
      rw [found] at ran
      obtain rfl := pure_ok_iff.mp ran
      exact .unleased unfinished ((lookup_no_lease current).mp found)
    | some lease =>
      rw [found] at ran
      have held := (lookup_lease current).mp found
      dsimp only at ran
      split at ran
      · rename_i unused
        obtain rfl := pure_ok_iff.mp ran
        exact .inactive unfinished held unused
      · rename_i inUse
        have inUse : active lease := not_not.mp inUse
        obtain ⟨expires,parsed,ran⟩ := bind_ok_iff.mp ran
        split at ran
        · rename_i running
          obtain rfl := pure_ok_iff.mp ran
          exact .waiting unfinished held inUse parsed running
        · rename_i past
          obtain ⟨step,stepped,ran⟩ := bind_ok_iff.mp ran
          obtain rfl := pure_ok_iff.mp ran
          exact expired_step_decided ⟨unfinished,held,inUse,expires,parsed,not_le.mp past⟩ stepped

/-- Each step of a decision is about its run, and there is one at most. -/
theorem decided_run {dispatch : Dict} {steps : List RecoveryStep}
    (decided : Decided events leases effect_observations now attempts run_id dispatch steps) :
    steps.length ≤ 1 ∧ ∀ step ∈ steps, step.run_id = run_id := by
  cases decided <;> simp

end

/-! ### Plans -/

/-- What a plan was made from. -/
structure Planned (events leases : List Dict) (generated_at max_attempts : Json) (now : Instant) (attempts : Int) :
    Prop where
  chain : Chain events
  named : Named events
  distinct : (dispatched_runs events).Nodup
  valid : ∀ lease ∈ leases, validate_lease lease = .ok ()
  current : (holders leases).Nodup
  time : parse_time generated_at "generatedAt" = .ok now
  budget : max_attempts.int? = some attempts ∧ 1 ≤ attempts

section
variable {events leases : List Dict} {effect_observations : Dict} {generated_at max_attempts : Json}
  {plan : RecoveryPlan}

theorem dispatch_of_run {run_id : String} (member : run_id ∈ dispatched_runs events) :
    ∃ dispatch, Dispatch events run_id dispatch := by
  obtain ⟨dispatch,listed,same⟩ := List.mem_map.mp member
  obtain ⟨inside,typed⟩ := List.mem_filter.mp listed
  exact ⟨dispatch,inside,typed,same⟩

/-- A plan decides each dispatched run, in the order of their names. -/
theorem plan_recovery_ok
    (planned : plan_recovery events leases effect_observations generated_at max_attempts = .ok plan) :
    ∃ now attempts decisions, Planned events leases generated_at max_attempts now attempts ∧
      plan.steps = List.flatten decisions ∧
      List.Forall₂ (fun run_id steps => ∃ dispatch, Dispatch events run_id dispatch ∧
        Decided events leases effect_observations now attempts run_id dispatch steps)
        (sortedStrings (dispatched_runs events)) decisions := by
  unfold plan_recovery at planned
  cases count : max_attempts.int? with
  | none => simp [count,recovery_error] at planned
  | some attempts =>
    simp only [count,bind_ok_iff,pure_ok_iff,reject,reject_if_ok,decide_eq_false_iff_not,not_lt] at planned
    obtain ⟨_,chain,_,positive,now,parsed,history,noted,table,indexed,decisions,ran,rfl⟩ := planned
    obtain ⟨named,distinct,rfl⟩ := note_events_ok.mp noted
    obtain ⟨valid,current,rfl⟩ := index_leases_ok.mp indexed
    refine ⟨now,attempts,decisions,⟨chain,named,distinct,valid,current,parsed,count,positive⟩,rfl,?_⟩
    rw [run_history_runs] at ran
    have dispatched : ∀ run_id ∈ sortedStrings (dispatched_runs events), ∃ dispatch, Dispatch events run_id dispatch :=
      fun run_id member => dispatch_of_run (mem_sortedBy.mp member)
    refine ((List.forall₂_and_left _ _).mpr ⟨dispatched,mapM_ok_iff.mp ran⟩).imp ?_
    rintro run_id steps ⟨⟨dispatch,own⟩,stepped⟩
    exact ⟨dispatch,own,recovery_step_decided distinct current own stepped⟩

end

/-! ### The steps of a plan -/

/-- What a plan decides: each dispatched run by its own decision, in the order of their
    names, and nothing else. -/
structure Decides (events leases : List Dict) (effect_observations : Dict) (now : Instant) (attempts : Int)
    (plan : RecoveryPlan) : Prop where
  each : ∀ run_id dispatch, Dispatch events run_id dispatch →
    Decided events leases effect_observations now attempts run_id
    dispatch (plan.steps.filter (fun step => step.run_id = run_id))
  only : ∀ step ∈ plan.steps, step.run_id ∈ dispatched_runs events
  ordered : (plan.steps.map RecoveryStep.run_id).Pairwise (· < ·)

theorem plan_decides {events leases : List Dict} {effect_observations : Dict} {generated_at max_attempts : Json}
    {plan : RecoveryPlan}
    (planned : plan_recovery events leases effect_observations generated_at max_attempts = .ok plan) :
    ∃ now attempts, Planned events leases generated_at max_attempts now attempts ∧
      Decides events leases effect_observations now attempts plan := by
  obtain ⟨now,attempts,decisions,made,steps,decided⟩ := plan_recovery_ok planned
  have grouped : List.Forall₂ (Grouped RecoveryStep.run_id) (sortedStrings (dispatched_runs events)) decisions :=
    decided.imp (fun run_id steps ⟨_,_,decision⟩ => (decided_run decision).2)
  have single : ∀ group ∈ decisions, group.length ≤ 1 := by
    intro group member
    obtain ⟨_,_,_,_,decision⟩ := forall₂_left decided.flip group member
    exact (decided_run decision).1
  have increasing := sorted_strictly made.distinct
  refine ⟨now,attempts,made,?_,?_,?_⟩
  · intro run_id dispatch own
    have listed : run_id ∈ sortedStrings (dispatched_runs events) := by
      obtain ⟨member,typed,rfl⟩ := own
      exact mem_sortedBy.mpr (List.mem_map.mpr ⟨dispatch,List.mem_filter.mpr ⟨member,typed⟩,rfl⟩)
    have both : List.Forall₂ (fun run_id steps => Grouped RecoveryStep.run_id run_id steps ∧ ∃ dispatch,
        Dispatch events run_id dispatch ∧ Decided events leases effect_observations now attempts run_id dispatch steps)
        (sortedStrings (dispatched_runs events)) decisions :=
      decided.imp (fun run_id steps ⟨dispatch,own,decision⟩ => ⟨(decided_run decision).2,dispatch,own,decision⟩)
    rw [steps]
    obtain ⟨other,too,decision⟩ := grouped_filter both (increasing.imp (fun less => ne_of_lt less)) run_id listed
    rw [dispatch_unique made.distinct own too]
    exact decision
  · intro step member
    rw [steps] at member
    exact mem_sortedBy.mp (grouped_keys grouped step member)
  · rw [steps]
    exact grouped_ordered grouped single increasing

/-! ### The promises of a plan -/

theorem lease_attempt {lease : Dict} (valid : validate_lease lease = .ok ()) :
    (lease.get "attempt").int? = some (attempt_of lease) := by
  unfold validate_lease at valid
  unfold attempt_of
  cases attempt : (lease.get "attempt").int? with
  | none => simp [attempt,recovery_error] at valid
  | some n => rfl

/-- The lease that a run holds is the only one. -/
theorem holds_only {leases : List Dict} (distinct : (holders leases).Nodup) {run_id : String} {lease : Dict}
    (held : Holds leases run_id lease) : leases.filter (fun lease => text lease "holderRunId" = run_id) = [lease] := by
  have apart : (leases.filter (fun lease => text lease "holderRunId" = run_id)).Nodup :=
    (List.Nodup.of_map _ distinct).filter _
  refine List.perm_singleton.mp ((List.perm_ext_iff_of_nodup apart (List.nodup_singleton lease)).mpr ?_)
  intro other
  rw [List.mem_filter,List.mem_singleton,decide_eq_true_iff]
  constructor
  · rintro ⟨member,same⟩
    exact holds_unique distinct ⟨member,same⟩ held
  · rintro rfl
    exact held

/-- The run can be requeued: its single lease is active and expired before the planning
    time, attempts are left, no success was observed and no effect is declared. -/
structure Requeueable (leases : List Dict) (effect_observations : Dict) (now : Instant) (attempts : Int)
    (run_id : String)
    (dispatch : Dict) : Prop where
  lease : ∃ lease, leases.filter (fun lease => text lease "holderRunId" = run_id) = [lease] ∧ active lease ∧
    (∃ expires, parse_time (lease.get "expiresAt") "expiresAt" = .ok expires ∧ expires < now) ∧
    ∃ attempt, (lease.get "attempt").int? = some attempt ∧ attempt < attempts
  unconfirmed : observation effect_observations dispatch ≠ .ok (.str "succeeded")
  undeclared : declares_effect dispatch = false

/-- Every unfinished run has one step, a completed one only to release its lease, no
    other run has any, and a run is requeued only when it can be. -/
structure Covers (events leases : List Dict) (effect_observations : Dict) (now : Instant) (attempts : Int)
    (plan : RecoveryPlan) : Prop where
  unfinished : ∀ run_id ∈ dispatched_runs events, run_id ∉ completed_runs events →
    ∃ step, plan.steps.filter (fun step => step.run_id = run_id) = [step]
  unreleased : ∀ run_id ∈ dispatched_runs events, run_id ∈ completed_runs events →
    (∃ lease, Holds leases run_id lease ∧ active lease) →
    ∃ step, plan.steps.filter (fun step => step.run_id = run_id) = [step] ∧ step.action = .RECONCILE_COMPLETED_RUN
  settled : ∀ run_id ∈ dispatched_runs events, run_id ∈ completed_runs events →
    (∀ lease, Holds leases run_id lease → ¬ active lease) → plan.steps.filter (fun step => step.run_id = run_id) = []
  only : ∀ step ∈ plan.steps, step.run_id ∈ dispatched_runs events
  ordered : (plan.steps.map RecoveryStep.run_id).Pairwise (· < ·)
  requeued : ∀ step ∈ plan.steps, step.action = .RECLAIM_AND_REQUEUE →
    ∀ dispatch, Dispatch events step.run_id dispatch →
    Requeueable leases effect_observations now attempts step.run_id dispatch

section
variable {events leases : List Dict} {effect_observations : Dict} {generated_at max_attempts : Json}
  {plan : RecoveryPlan}
  {now : Instant} {attempts : Int} {run_id : String} {dispatch : Dict}

/-- A run whose decision is a requeue can be requeued. -/
theorem requeued_when (made : Planned events leases generated_at max_attempts now attempts)
    {step : RecoveryStep} (decided : Decided events leases effect_observations now attempts run_id dispatch [step])
    (requeued : step.action = .RECLAIM_AND_REQUEUE) :
    Requeueable leases effect_observations now attempts run_id dispatch := by
  cases decided with
  | @requeued lease status abandoned seen unconfirmed undeclared left =>
    refine ⟨⟨lease,holds_only made.current abandoned.held,abandoned.active,abandoned.expired,attempt_of lease,
      lease_attempt (made.valid lease abandoned.held.1),left⟩,?_,undeclared⟩
    rw [seen]
    exact fun same => unconfirmed (Except.ok.inj same)
  | _ => cases requeued

/-- A step of a plan is the decision about its run. -/
theorem step_decided (decides : Decides events leases effect_observations now attempts plan) {step : RecoveryStep}
    (member : step ∈ plan.steps) (own : Dispatch events step.run_id dispatch) :
    Decided events leases effect_observations now attempts step.run_id dispatch [step] := by
  have decided := decides.each _ dispatch own
  have inside : step ∈ plan.steps.filter (fun other => other.run_id = step.run_id) :=
    List.mem_filter.mpr ⟨member,by simp⟩
  match steps : plan.steps.filter (fun other => other.run_id = step.run_id) with
  | [] => rw [steps] at inside; cases inside
  | [only] =>
    rw [steps] at inside decided
    rw [List.mem_singleton.mp inside]
    rw [List.mem_singleton.mp inside] at decided
    exact decided
  | first :: second :: rest =>
    rw [steps] at decided
    have short := (decided_run decided).1
    simp at short

theorem plan_covers (planned : plan_recovery events leases effect_observations generated_at max_attempts = .ok plan) :
    ∃ now attempts, parse_time generated_at "generatedAt" = .ok now ∧ max_attempts.int? = some attempts ∧
      Covers events leases effect_observations now attempts plan := by
  obtain ⟨now,attempts,made,decides⟩ := plan_decides planned
  refine ⟨now,attempts,made.time,made.budget.1,?_,?_,?_,decides.only,decides.ordered,?_⟩
  · intro run_id dispatched unfinished
    obtain ⟨dispatch,own⟩ := dispatch_of_run dispatched
    have decided := decides.each run_id dispatch own
    generalize plan.steps.filter (fun step => step.run_id = run_id) = steps at decided ⊢
    cases decided with
    | settled completed _ => exact absurd completed unfinished
    | _ => exact ⟨_,rfl⟩
  · rintro run_id dispatched completed ⟨lease,held,inUse⟩
    obtain ⟨dispatch,own⟩ := dispatch_of_run dispatched
    have decided := decides.each run_id dispatch own
    generalize plan.steps.filter (fun step => step.run_id = run_id) = steps at decided ⊢
    cases decided with
    | settled _ unheld => exact absurd inUse (unheld lease held)
    | unreleased => exact ⟨_,rfl,rfl⟩
    | unleased unfinished | inactive unfinished | waiting unfinished => exact absurd completed unfinished
    | succeeded abandoned | uncertain abandoned | exhausted abandoned | requeued abandoned =>
      exact absurd completed abandoned.unfinished
  · intro run_id dispatched completed released
    obtain ⟨dispatch,own⟩ := dispatch_of_run dispatched
    have decided := decides.each run_id dispatch own
    generalize plan.steps.filter (fun step => step.run_id = run_id) = steps at decided ⊢
    cases decided with
    | settled => rfl
    | unreleased _ held inUse => exact absurd inUse (released _ held)
    | unleased unfinished | inactive unfinished | waiting unfinished => exact absurd completed unfinished
    | succeeded abandoned | uncertain abandoned | exhausted abandoned | requeued abandoned =>
      exact absurd completed abandoned.unfinished
  · intro step member requeued dispatch own
    exact requeued_when made (step_decided decides member own) requeued

end

/-! ### A run that was abandoned -/

/-- A draft of the dispatch of the run `R`. -/
def sample_draft (fields : Dict) : Dict :=
  (AppendOnly.plain_draft.set "eventType" (.str "run.dispatched")).set "payload" (.obj (("runId",.str "R") :: fields))
def sample_dispatch (fields : Dict) : Dict := sealed_event [] (sample_draft fields)

/-- A lease of the run `R` in a project, which has expired. -/
def sample_lease (project : String) : Dict :=
  [("leaseId",.str "L"),("projectId",.str project),("resourceType",.str "workspace"),("resourceId",.str "W"),
    ("holderRunId",.str "R"),("acquiredAt",.str "2026-01-01T00:00:00Z"),("heartbeatAt",.str "2026-01-01T00:00:00Z"),
    ("expiresAt",.str "2026-01-01T00:00:00Z"),("status",.str "active"),("contextManifestId",.str "C"),
    ("dispatchDigest",.str ZERO_HASH),("idempotencyKey",.str "K"),("attempt",.int 1)]
def sample_time : Json := .str "2026-01-02T00:00:00Z"

theorem sample_now (field : String) : parse_time sample_time field = .ok 63902908800000000 :=
  (parse_time_ok _).mpr ⟨_,rfl,by decide +kernel⟩

theorem sample_expiry (field : String) : parse_time (.str "2026-01-01T00:00:00Z") field = .ok 63902822400000000 :=
  (parse_time_ok _).mpr ⟨_,rfl,by decide +kernel⟩

theorem sample_appendable (fields : Dict) : Appendable [] (sample_draft fields) :=
  AppendOnly.opening_appendable rfl rfl rfl rfl rfl rfl

section
variable (fields : Dict)

theorem sample_chain : Chain [sample_dispatch fields] :=
  chain_snoc.mpr ⟨chain_nil,sealed_linked chain_nil (sample_appendable fields)⟩

theorem sample_payload : payload (sample_dispatch fields) = ("runId",.str "R") :: fields := by
  have own : (sample_dispatch fields).get "payload" = .obj (("runId",.str "R") :: fields) :=
    sealed_get [] (sample_draft fields) (by decide)
  unfold payload
  rw [own]
  rfl

theorem sample_type : (sample_dispatch fields).get "eventType" = .str "run.dispatched" :=
  sealed_get [] (sample_draft fields) (by decide)

theorem sample_run : run_of (sample_dispatch fields) = "R" := by
  unfold run_of
  rw [sample_payload]
  rfl

theorem sample_own : Dispatch [sample_dispatch fields] "R" (sample_dispatch fields) :=
  ⟨by simp,by simp [of_type,sample_type],sample_run fields⟩

theorem sample_unfinished : "R" ∉ completed_runs [sample_dispatch fields] := by
  simp [completed_runs,of_type,sample_type]

/-- Recovery of the sample history returns a plan. -/
theorem sample_plan {project : String} (valid : validate_lease (sample_lease project) = .ok ())
    (hashable : (Dict.get fields "effectKey").hashable = true) (effect_observations : Dict) : ∃ plan,
    plan_recovery [sample_dispatch fields] [sample_lease project] effect_observations sample_time (.int 3) =
      .ok plan := by
  refine (plan_recovery_iff (sample_chain fields) ?_
    ⟨by simpa using valid,by simp [holders],?_,3,rfl,by decide⟩ ?_).mpr ?_
  · intro event member _
    rw [List.mem_singleton.mp member,sample_run,sample_payload]
    exact (required_string_ok _).mpr ⟨rfl,by decide⟩
  · exact ⟨_,sample_now _⟩
  · intro event member _
    rw [List.mem_singleton.mp member,sample_payload]
    exact hashable
  · simp [dispatched_runs,of_type,sample_type]

end

/-! ### Beside a run that was never leased -/

/-- A draft of the dispatch of the run `S`. -/
def unleased_draft : Dict :=
  (((AppendOnly.plain_draft.set "eventId" (.str "F")).set "idempotencyKey" (.str "L")).set "eventType"
    (.str "run.dispatched")).set "payload" (.obj [("runId",.str "S")])
def unleased_dispatch : Dict := sealed_event [sample_dispatch []] unleased_draft
def two_dispatches : List Dict := [sample_dispatch [],unleased_dispatch]

theorem unleased_type : unleased_dispatch.get "eventType" = .str "run.dispatched" :=
  sealed_get [sample_dispatch []] unleased_draft (by decide)

theorem unleased_payload : payload unleased_dispatch = [("runId",.str "S")] := by
  have own : unleased_dispatch.get "payload" = .obj [("runId",.str "S")] :=
    sealed_get [sample_dispatch []] unleased_draft (by decide)
  unfold payload
  rw [own]
  rfl

theorem unleased_run : run_of unleased_dispatch = "S" := by
  unfold run_of
  rw [unleased_payload]
  rfl

theorem unleased_appendable : Appendable [sample_dispatch []] unleased_draft := by
  have first : ∀ key, key ∉ ["sequence","previousEventHash","eventHash"] →
      text (sample_dispatch []) key = text (sample_draft []) key := fun key own => sealed_text [] (sample_draft []) own
  refine AppendOnly.plain_appendable (by decide +kernel) rfl rfl rfl rfl ?_ ?_ (.inl rfl)
  · intro event member
    obtain rfl : sample_dispatch [] = event := by simpa using member
    rw [first _ (by decide)]
    decide
  · intro key member event inside
    rw [List.mem_singleton.mp inside]
    rcases List.mem_pair.mp member with rfl | rfl
    · rw [first _ (by decide)]
      decide
    · rw [first _ (by decide)]
      decide

theorem two_chain : Chain two_dispatches := by
  have linked := sealed_linked (sample_chain []) unleased_appendable
  unfold two_dispatches
  rw [← List.singleton_append]
  exact chain_snoc.mpr ⟨sample_chain [],linked⟩

theorem two_dispatched : dispatched_runs two_dispatches = ["R","S"] := by
  simp [dispatched_runs,two_dispatches,of_type,sample_type,unleased_type,sample_run,unleased_run]

theorem two_unfinished (run_id : String) : run_id ∉ completed_runs two_dispatches := by
  simp [completed_runs,two_dispatches,of_type,sample_type,unleased_type]

/-- The run `R` holds a lease that has expired, `S` holds none: the plan has one step for each. -/
theorem plan_covers_two : ∃ plan now attempts,
    plan_recovery two_dispatches [sample_lease "P"] [] sample_time (.int 3) = .ok plan ∧
      Covers two_dispatches [sample_lease "P"] [] now attempts plan ∧
      plan.steps.map RecoveryStep.run_id = ["R","S"] := by
  have valid : validate_lease (sample_lease "P") = .ok () := by decide +kernel
  have recoverer : Recoverer [sample_lease "P"] sample_time (.int 3) :=
    ⟨by simpa using valid,by simp [holders],⟨_,sample_now _⟩,3,rfl,by decide⟩
  have named : Named two_dispatches := by
    intro event member _
    rcases List.mem_pair.mp member with rfl | rfl
    · rw [sample_run,sample_payload]
      exact (required_string_ok _).mpr ⟨rfl,by decide⟩
    · rw [unleased_run,unleased_payload]
      exact (required_string_ok _).mpr ⟨rfl,by decide⟩
  have keyless : ∀ event ∈ two_dispatches, of_type "run.dispatched" event = true →
      ((payload event).get "effectKey").hashable = true := by
    intro event member _
    rcases List.mem_pair.mp member with rfl | rfl
    · rw [sample_payload]
      rfl
    · rw [unleased_payload]
      rfl
  obtain ⟨plan,planned⟩ : ∃ plan, plan_recovery two_dispatches [sample_lease "P"] [] sample_time (.int 3) = .ok plan :=
    (plan_recovery_iff two_chain named recoverer keyless).mpr (by simp [two_dispatched])
  obtain ⟨now,attempts,_,_,covers⟩ := plan_covers planned
  have stepped : ∀ run_id ∈ ["R","S"], run_id ∈ plan.steps.map RecoveryStep.run_id := by
    intro run_id member
    obtain ⟨step,found⟩ := covers.unfinished run_id (two_dispatched ▸ member) (two_unfinished run_id)
    have inside : step ∈ plan.steps.filter (fun step => step.run_id = run_id) := by simp [found]
    obtain ⟨known,own⟩ := List.mem_filter.mp inside
    exact List.mem_map.mpr ⟨step,known,by simpa using own⟩
  have only : ∀ run_id, run_id ∈ plan.steps.map RecoveryStep.run_id ↔ run_id ∈ ["R","S"] := by
    refine fun run_id => ⟨fun member => ?_,stepped run_id⟩
    obtain ⟨step,known,rfl⟩ := List.mem_map.mp member
    exact two_dispatched ▸ covers.only step known
  have perm : (plan.steps.map RecoveryStep.run_id).Perm ["R","S"] :=
    (List.perm_ext_iff_of_nodup (covers.ordered.imp ne_of_lt) (by decide)).mpr only
  exact ⟨plan,now,attempts,planned,covers,
    perm.eq_of_pairwise (fun _ _ _ _ below above => absurd below above.asymm) covers.ordered (by decide)⟩

end V3Aidlc.RecoveryPlans
