import V3Aidlc.Notes
import V3Aidlc.Feasibility

/-!
Recovery of the history that an execution leaves. Its events form a chain and every run
event names its run, so recovery plans for each prefix of it unless a run was dispatched
twice; and a run is what the work item calls it, so the history can be recovered exactly
when the selected items call their runs by different names (`recoverable_iff`).
-/
namespace V3Aidlc.RecoverableHistories
open V3Aidlc.Values V3Aidlc.Loops V3Aidlc.Contracts V3Aidlc.Recovery V3Aidlc.Histories
open V3Aidlc.Scheduler (SchedulePlan)
open V3Aidlc.ReferenceOrchestrator V3Aidlc.RecordedEvents V3Aidlc.Preparations V3Aidlc.Runs V3Aidlc.Executions
open V3Aidlc.Accounts V3Aidlc.Notes

/-- Recovery plans after every prefix of the events, and has nothing to do after all of
    them when no lease is held. -/
structure Recoverable (events : List Dict) : Prop where
  plans : ∀ earlier, earlier <+: events → ∀ leases effect_observations generated_at max_attempts,
    Recoverer leases generated_at max_attempts →
      ∃ plan, plan_recovery earlier leases effect_observations generated_at max_attempts = .ok plan
  idle : ∀ effect_observations generated_at max_attempts plan,
    plan_recovery events [] effect_observations generated_at max_attempts = .ok plan → plan.steps = []

/-- The work items that are prepared and selected call their runs by different names. -/
def DistinctRuns (scenario : Dict) (settings : Settings) (profiles : List Dict) : Prop := ∀ works plan,
  List.Forall₂ (fun item p => preparation settings profiles item = .ok p) settings.work_items works →
  plan_for scenario settings (prepared_of works) = .ok plan →
    (((prepared_of works).filter (chosen plan)).map
      (fun prepared => text (given_request prepared.source) "runId")).Nodup

/-! ### The runs in the events -/

/-- The run that a note is about. -/
def run_in (n : Note) : String := text ((n.payload.dict?).getD []) "runId"

theorem of_type_kind {event_type : String} (named : event_type ≠ "") (event : Dict) :
    of_type event_type event = decide (kind (said event) = event_type) := by
  rw [Bool.eq_iff_iff,decide_eq_true_iff,kind_said named]
  exact eq_str_right

/-- The runs of the events of a type are those that the notes of this type are about. -/
theorem runs_noted {event_type : String} (named : event_type ≠ "") (events : List Dict) :
    (events.filter (of_type event_type)).map run_of =
      ((events.map said).filter (fun n => kind n = event_type)).map run_in := by
  rw [List.filter_map,List.map_map]
  refine congrArg (List.map run_of) (List.filter_congr ?_)
  intro event _
  exact of_type_kind named event

section
variable {σ : Type} {runtime : ReferenceOrchestrator σ} {scenario : Dict} {account : Account}
  {trace : OrchestrationTrace}
  {s : Locals σ}

theorem dispatched_noted (performed : Performed runtime scenario account trace s) :
    dispatched_runs trace.events = account.runs.map (fun run => text run.prepared.request "runId") := by
  unfold dispatched_runs
  rw [runs_noted (by decide),performed.events,performed.said,dispatched_notes,List.map_map]
  rfl

theorem completed_noted (performed : Performed runtime scenario account trace s) :
    completed_runs trace.events = account.runs.map (fun run => text run.prepared.request "runId") := by
  unfold completed_runs
  rw [runs_noted (by decide),performed.events,performed.said,completed_notes,List.map_map]
  rfl

/-- What a run event says. -/
theorem run_event (performed : Performed runtime scenario account trace s) {event : Dict}
    (member : event ∈ trace.events)
    (about : of_type "run.dispatched" event = true ∨ of_type "run.completed" event = true) :
    ∃ run ∈ account.runs, said event = Run.dispatched_note run.prepared ∨
      said event = Run.completed_note run.prepared run.result := by
  have noted : said event ∈ account.notes := by
    rw [← performed.said,← performed.events]
    exact List.mem_map.mpr ⟨event,member,rfl⟩
  rcases about with dispatched | completed
  · rw [of_type_kind (by decide)] at dispatched
    have here : said event ∈ account.notes.filter (fun n => kind n = "run.dispatched") :=
      List.mem_filter.mpr ⟨noted,dispatched⟩
    rw [dispatched_notes] at here
    obtain ⟨run,inside,same⟩ := List.mem_map.mp here
    exact ⟨run,inside,.inl same.symm⟩
  · rw [of_type_kind (by decide)] at completed
    have here : said event ∈ account.notes.filter (fun n => kind n = "run.completed") :=
      List.mem_filter.mpr ⟨noted,completed⟩
    rw [completed_notes] at here
    obtain ⟨run,inside,same⟩ := List.mem_map.mp here
    exact ⟨run,inside,.inr same.symm⟩

theorem payload_said {event : Dict} {note : Note} (same : said event = note) :
    payload event = (note.payload.dict?).getD [] := by
  rw [← same]
  rfl

theorem events_named (performed : Performed runtime scenario account trace s) : Named trace.events := by
  intro event member about
  obtain ⟨run,inside,noted⟩ := run_event performed member about
  obtain ⟨_,_,_,_,_,ready,_⟩ := run_ready performed inside
  obtain ⟨run_id,runIs,_,filled⟩ := admitted_run (admitted_of_ready ready)
  have found : Dict.get? "runId" (payload event) = some (.str run_id) := by
    rcases noted with dispatched | completed
    · rw [payload_said dispatched,← runIs]
      rfl
    · rw [payload_said completed,← runIs]
      rfl
  unfold run_of
  rw [text_of_get? found]
  exact (required_string_ok _).mpr ⟨found,filled⟩

theorem events_keyless (performed : Performed runtime scenario account trace s) : ∀ event ∈ trace.events,
    of_type "run.dispatched" event = true → ((payload event).get "effectKey").hashable = true := by
  intro event member dispatched
  obtain ⟨run,_,noted⟩ := run_event performed member (.inl dispatched)
  rcases noted with same | same <;> rw [payload_said same] <;> rfl

/-! ### Recovery of the events -/

/-- The history of a performed execution can be recovered unless a run was dispatched
    twice. -/
theorem recoverable_distinct (performed : Performed runtime scenario account trace s) :
    Recoverable trace.events ↔ (account.runs.map (fun run => text run.prepared.request "runId")).Nodup := by
  have chain : Chain trace.events := by
    rw [performed.events]
    exact performed.recorded.chain
  rw [← dispatched_noted performed]
  constructor
  · intro recoverable
    have recoverer : Recoverer [] (.str "2026-01-01T00:00:00Z") (.int 1) :=
      ⟨by simp,List.nodup_nil,⟨63902822400000000,by decide +kernel⟩,⟨1,rfl,le_refl 1⟩⟩
    have planned := recoverable.plans trace.events (List.prefix_refl _) [] [] _ _ recoverer
    exact (plan_recovery_iff chain (events_named performed) recoverer (events_keyless performed)).mp planned
  · intro distinct
    constructor
    · intro earlier before leases effect_observations generated_at max_attempts recoverer
      have inside := before.subset
      have named : Named earlier := fun event member => events_named performed event (inside member)
      have keyless : ∀ event ∈ earlier, of_type "run.dispatched" event = true →
          ((payload event).get "effectKey").hashable = true :=
            fun event member => events_keyless performed event (inside member)
      refine (plan_recovery_iff ( chain_prefix chain before) named recoverer keyless).mpr ?_
      exact distinct.sublist ((before.sublist.filter _).map _)
    · intro effect_observations generated_at max_attempts plan planned
      refine plan_recovery_idle ?_ planned
      intro run_id dispatched
      rw [completed_noted performed,← dispatched_noted performed]
      exact dispatched

/-- The run of a package is the one its work item asks for. -/
theorem run_given (performed : Performed runtime scenario account trace s) {run : Run} (member : run ∈ account.runs) :
    text run.prepared.request "runId" = text (given_request run.prepared.source) "runId" := by
  obtain ⟨_,_,_,_,_,ready,_⟩ := run_ready performed member
  rw [ready.source_same]
  unfold text Dict.get
  rw [run_request_given ready.request (by decide)]

theorem distinct_runs_iff (performed : Performed runtime scenario account trace s) :
    DistinctRuns scenario account.settings account.profiles ↔
      (account.runs.map (fun run => text run.prepared.request "runId")).Nodup := by
  have given : account.runs.map (fun run => text run.prepared.request "runId") =
      (account.prepared.filter (chosen account.schedule)).map
        (fun prepared => text (given_request prepared.source) "runId") := by
    rw [← performed.visited,List.map_map]
    exact List.map_congr_left (fun run member => run_given performed member)
  rw [given]
  have same : ∀ {works}, List.Forall₂ (fun item p => preparation account.settings account.profiles item = .ok p)
      account.settings.work_items works → works = account.works := by
    intro works each
    refine List.right_unique_forall₂' ?_ each performed.each
    intro item p q left right
    exact Except.ok.inj (left.symm.trans right)
  constructor
  · intro distinct
    cases planned : account.plan with
    | none =>
      rw [unplanned performed planned]
      exact List.nodup_nil
    | some plan =>
      rw [Account.schedule_some planned]
      exact distinct account.works plan performed.each (planned_with performed planned)
  · intro distinct works plan each scheduled
    obtain rfl := same each
    cases planned : account.plan with
    | none =>
      have none_prepared : prepared_of account.works = [] := unplanned performed planned
      rw [none_prepared]
      exact List.nodup_nil
    | some own =>
      obtain rfl : own = plan := Except.ok.inj ((planned_with performed planned).symm.trans scheduled)
      rw [Account.schedule_some planned] at distinct
      exact distinct

end

/-- The history of a managed trace can be recovered exactly when the selected items call
    their runs by different names. -/
theorem recoverable_iff {σ : Type} {runtime : ReferenceOrchestrator σ} {scenario : Dict} {world : σ} {s' : Locals σ}
    {trace : OrchestrationTrace} (ran : execute runtime scenario (start world) = (.ok trace,s'))
    (managed : trace.status ≠ "not_managed") : ∃ settings profiles, Managed scenario settings ∧
      Published runtime profiles ∧
      (Recoverable trace.events ↔ DistinctRuns scenario settings profiles) := by
  obtain ⟨account,performed⟩ := execute_returned ran managed
  refine ⟨account.settings,account.profiles,performed.managed,performed.published,?_⟩
  rw [recoverable_distinct performed,distinct_runs_iff performed]

theorem recoverable_sample : ∃ trace s' settings profiles,
    execute (Feasibility.sample_runtime (.obj Feasibility.sample_answer)) Feasibility.sample_scenario (start ()) =
      (.ok trace,s') ∧ (Recoverable trace.events ↔ DistinctRuns Feasibility.sample_scenario settings profiles) := by
  obtain ⟨trace,s',plan,outcome,ran,performed⟩ := Feasibility.sample_performed
  obtain ⟨settings,profiles,_,_,same⟩ := recoverable_iff ran (status_managed performed)
  exact ⟨trace,s',settings,profiles,ran,same⟩

/-- Two work packages call their runs by one name. -/
theorem run_dispatched_twice : ∃ trace s',
    execute (Feasibility.sample_runtime (.obj Feasibility.sample_answer)) Feasibility.sample_scenario (start ()) =
      (.ok trace,s') ∧ trace.status ≠ "not_managed" ∧ ¬ Recoverable trace.events := by
  obtain ⟨trace,s',plan,outcome,ran,performed⟩ := Feasibility.sample_performed
  refine ⟨trace,s',ran,?_,?_⟩
  · exact status_managed performed
  · rw [recoverable_distinct performed]
    intro distinct
    obtain ⟨fresh,_⟩ := List.nodup_cons.mp distinct
    exact fresh List.mem_cons_self

end V3Aidlc.RecoverableHistories
