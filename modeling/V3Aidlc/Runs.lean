import V3Aidlc.Preparations
import V3Aidlc.Failures

/-!
The second loop of an execution. A selected package is dispatched, its answer is
normalised and its gate evaluated; what comes of an answer is decided by the package
and the answer alone (`conclude`). The loop stops early only when an adapter does not
answer, when an answer comes to nothing or when the adapter is not registered
(`dispatch_item_met`).
-/
namespace V3Aidlc.Runs
open V3Aidlc.Values V3Aidlc.Loops V3Aidlc.Effects V3Aidlc.Effects.Proc V3Aidlc.Contracts
open V3Aidlc.EvidenceGates (GateEvaluation)
open V3Aidlc.Scheduler (ScheduleDecision ScheduleEntry SchedulePlan)
open V3Aidlc.AgentAdapters (signed_dispatch normalize_provider_result build_dispatch)
open V3Aidlc.Dispatches V3Aidlc.ReferenceOrchestrator V3Aidlc.RecordedEvents V3Aidlc.Failures
open V3Aidlc.Preparations

/-! ### What comes of an answer -/

/-- The dispatch of a prepared package. -/
def dispatch_of (prepared : Prepared) : Dict :=
  signed_dispatch prepared.request prepared.profile ("LEASE-" ++ text prepared.request "runId")

/-- A run that ended, with the gate when it was evaluated. -/
structure Run where
  prepared : Prepared
  answer : Json
  result : Dict
  gate : Option GateEvaluation

/-- The gate of a result: a completed one is judged by the acceptance of its package. -/
def judge (prepared : Prepared) (result : Dict) : Py (Option GateEvaluation) :=
  if text result "status" ≠ "completed" then return none
  else
    match (prepared.source.get "acceptance").dict? with
    | none => return none
    | some acceptance => do
      let gate ← evaluate_acceptance acceptance
      return some gate

/-- What an answer comes to. -/
def conclude (prepared : Prepared) (answer : Json) : Py Run := do
  let result ← normalize_provider_result answer (dispatch_of prepared)
    ("provider-result:" ++ text prepared.request "runId")
  let gate ← judge prepared result
  return ⟨prepared,answer,result,gate⟩

namespace Run

def work_package_id (run : Run) : String := run.prepared.work_package_id
def status (run : Run) : String := text run.result "status"
def gate_outcome (run : Run) : Option String := run.gate.map (fun gate => gate.outcome.value)

/-- The gate of the run lets it be promoted. -/
def promotable (run : Run) : Bool := run.gate.any GateEvaluation.promotable

def reasons (run : Run) (before : List String) : List String :=
  if run.status ≠ "completed" then before ++ ["run ended as " ++ run.status]
  else
    match run.gate with
    | none => before ++ ["completed run has no acceptance Gate"]
    | some gate => before ++ gate.reasons

def dispatched_note (prepared : Prepared) : Note :=
  note "run.dispatched" (prepared.request.get "runId")
    [("runId",prepared.request.get "runId"),("workPackageId",.str prepared.work_package_id),
      ("dispatchDigest",(dispatch_of prepared).get "dispatchDigest"),
      ("externalSideEffectPossible",prepared.request.get "externalSideEffectPossible")]

def completed_note (prepared : Prepared) (result : Dict) : Note :=
  note "run.completed" (prepared.request.get "runId")
    [("runId",prepared.request.get "runId"),("status",result.get "status")]

def gate_notes (prepared : Prepared) (gate : Option GateEvaluation) : List Note :=
  match gate with
  | none => []
  | some gate =>
    [note "gate.evaluated" (.str prepared.work_package_id)
      [("outcome",.str gate.outcome.value),("promotable",.bool gate.promotable)]]

/-- What the events of the run say. -/
def notes (run : Run) : List Note :=
  dispatched_note run.prepared :: completed_note run.prepared run.result :: gate_notes run.prepared run.gate

def completions (settings : Settings) (run : Run) : List Dict :=
  completions_of settings run.prepared run.result run.gate_outcome

def invocation (run : Run) : Invocation := ⟨run.prepared,dispatch_of run.prepared⟩
def evaluation (run : Run) : Option (Prepared × GateEvaluation) := run.gate.map (fun gate => (run.prepared,gate))

def trace (run : Run) (entry : ScheduleEntry) (current : WorkTrace) : WorkTrace :=
  { current with schedule_decision := entry.decision.value, run_status := some run.status,
                 gate_outcome := run.gate_outcome, reasons := run.reasons current.reasons }

end Run

theorem conclude_ok {prepared : Prepared} {answer : Json} {run : Run} : conclude prepared answer = .ok run ↔
    run.prepared = prepared ∧ run.answer = answer ∧
    normalize_provider_result answer (dispatch_of prepared) ("provider-result:" ++ text prepared.request "runId") =
      .ok run.result ∧ judge prepared run.result = .ok run.gate := by
  unfold conclude
  simp only [bind_ok_iff,pure_ok_iff]
  constructor
  · rintro ⟨result,answered,gate,judged,rfl⟩
    exact ⟨rfl,rfl,answered,judged⟩
  · rintro ⟨rfl,rfl,answered,judged⟩
    exact ⟨_,answered,_,judged,rfl⟩

/-- Only completed runs have a gate. -/
theorem judge_completed {prepared : Prepared} {result : Dict} {gate : GateEvaluation}
    (judged : judge prepared result = .ok (some gate)) : text result "status" = "completed" ∧
      ∃ acceptance, prepared.source.get "acceptance" = .obj acceptance ∧ evaluate_acceptance acceptance = .ok gate := by
  unfold judge at judged
  split at judged
  · simp at judged
  · rename_i completed
    refine ⟨not_not.mp completed,?_⟩
    split at judged
    · simp at judged
    · rename_i acceptance object
      simp only [bind_ok_iff,pure_ok_iff,Option.some.injEq] at judged
      obtain ⟨_,evaluated,rfl⟩ := judged
      exact ⟨acceptance,dict?_eq_some.mp object,evaluated⟩

/-! ### Dispatching a package -/

/-- A package that a runner has accepted. -/
structure Admitted (prepared : Prepared) : Prop where
  request : AgentAdapters.validate_run_request prepared.request = .ok ()
  profile : AgentAdapters.validate_capability_profile prepared.profile = .ok ()
  accepts : Accepts prepared.profile prepared.request
  named : blank prepared.work_package_id = false

theorem admitted_of_ready {settings : Settings} {profiles : List Dict} {item : Json} {p : Preparation}
    {prepared : Prepared} (ready : Ready settings profiles item p prepared) : Admitted prepared := by
  obtain ⟨negotiations,selected⟩ := ready.selected
  obtain ⟨_,requested,offered,accepts,_⟩ := select_adapter_ok selected
  exact ⟨requested,offered,accepts,by rw [ready.id_same]; exact ready.named⟩

section
variable {prepared : Prepared}

theorem admitted_run (admitted : Admitted prepared) : ∃ run_id, prepared.request.get "runId" = .str run_id ∧
    text prepared.request "runId" = run_id ∧ blank run_id = false := by
  obtain ⟨run_id,found,filled⟩ := (validate_run_request_ok.mp admitted.request).1 "runId" (by decide)
  exact ⟨run_id,get_of_get? found,text_of_get? found,filled⟩

/-- Every accepted package can be dispatched. -/
theorem build_dispatch_total (admitted : Admitted prepared) :
    build_dispatch prepared.request prepared.profile ("LEASE-" ++ text prepared.request "runId") =
      .ok (dispatch_of prepared) := by
  refine build_dispatch_ok.mpr ⟨admitted.request,admitted.profile,admitted.accepts,?_,rfl⟩
  have front : blank "LEASE-" = false := by decide
  rw [blank_append,front]
  rfl

end

section
variable {σ : Type} {settings : Settings} {runtime : ReferenceOrchestrator σ} {prepared : Prepared} {s : Locals σ}

theorem adapter_for_error {profile : Dict} {e : PyError} (missing : adapter_for runtime profile = .error e) :
    e = .KeyError := by
  unfold adapter_for at missing
  split at missing
  · cases missing
    rfl
  · cases missing

/-- What the dispatch phase leaves alone in a state. -/
structure Frame (s s' : Locals σ) : Prop where
  profiles : s'.profiles = s.profiles
  prepared : s'.prepared = s.prepared
  traces : s'.traces = s.traces
  decision_required : s'.decision_required = s.decision_required
  hard_block : s'.hard_block = s.hard_block
  any_waiting : s'.any_waiting = s.any_waiting
  completions : s'.completions = s.completions

/-- The package was dispatched and its answer accepted. -/
structure Answered (settings : Settings) (prepared : Prepared) (answer : Json) (result : Dict) (s s' : Locals σ) :
    Prop where
  recorded : Recorded settings s'
  said : s'.histories.map said = s.histories.map said ++
    [Run.dispatched_note prepared,Run.completed_note prepared result]
  invocations : s'.invocations = s.invocations ++ [⟨prepared,dispatch_of prepared⟩]
  answers : s'.answers = s.answers ++ [(prepared,answer)]
  evaluations : s'.evaluations = s.evaluations
  any_failure : s'.any_failure = s.any_failure
  frame : Frame s s'

/-- The registered adapter of the package gave the answer to its dispatch. -/
def Replied (runtime : ReferenceOrchestrator σ) (prepared : Prepared) (answer : Json) : Prop :=
  ∃ adapter world, adapter_for runtime prepared.profile = .ok adapter ∧
    (adapter.invoke (dispatch_of prepared) world).1 = .ok answer

/-- The package was dispatched in vain: its adapter is not registered or does not
    answer, or its answer comes to nothing. -/
inductive Broken (runtime : ReferenceOrchestrator σ) (prepared : Prepared) (s : Locals σ) (e : PyError)
    (s' : Locals σ) : Prop
  | unregistered (missing : adapter_for runtime prepared.profile = .error e)
    (invocations : s'.invocations = s.invocations)
    (answers : s'.answers = s.answers)
  | silent {adapter : AgentAdapter σ} {world : σ} (registered : adapter_for runtime prepared.profile = .ok adapter)
    (mute : (adapter.invoke (dispatch_of prepared) world).1 = .error e)
    (invocations : s'.invocations = s.invocations ++ [⟨prepared,dispatch_of prepared⟩])
      (answers : s'.answers = s.answers)
  | fruitless {answer : Json} {failure : PyError} (replied : Replied runtime prepared answer)
    (invocations : s'.invocations = s.invocations ++ [⟨prepared,dispatch_of prepared⟩])
    (answers : s'.answers = s.answers ++ [(prepared,answer)]) (failed : conclude prepared answer = .error failure)

theorem bind_world {α β : Type} {m : Proc σ PyError α} {f : α → Execution σ β} : (on_world m >>= f) s =
    match m s.world with
    | (.ok a,world) => f a { s with world := world }
    | (.error e,world) => (.error e,{ s with world := world }) := by
  show Proc.bind (on_world m) f s = _
  unfold Proc.bind on_world
  rcases m s.world with ⟨_ | _,_⟩ <;> rfl

theorem noted_world {event_type aggregate_type : String} {aggregate_id : Json} {payload : Dict} :
    (noted settings event_type aggregate_type aggregate_id payload s).world = s.world := rfl

/-- In a grounded execution an event about something with a name is written and
    the procedure goes on. -/
theorem bind_record {β : Type} {event_type aggregate_type id : String} {payload : Dict} {f : Unit → Execution σ β}
    (grounded : Grounded settings) (recorded : Recorded settings s) (typed : blank event_type = false)
    (aggregated : blank aggregate_type = false) (named : blank id = false) :
    (record settings event_type aggregate_type (.str id) payload >>= f) s =
      f () (noted settings event_type aggregate_type (.str id) payload s) :=
  bind_run_ok (record_total grounded recorded typed aggregated named)

theorem recorded_next {event_type aggregate_type id : String} {payload : Dict} (grounded : Grounded settings)
    (recorded : Recorded settings s) (typed : blank event_type = false) (aggregated : blank aggregate_type = false)
    (named : blank id = false) : Recorded settings (noted settings event_type aggregate_type (.str id) payload s) :=
  (record_ok recorded (record_total grounded recorded typed aggregated named)).2

theorem invoke_item_met (grounded : Grounded settings) (recorded : Recorded settings s) (admitted : Admitted prepared) :
    Met (fun result s' => ∃ answer, Replied runtime prepared answer ∧
        normalize_provider_result answer (dispatch_of prepared) ("provider-result:" ++ text prepared.request "runId") =
          .ok result ∧ Answered settings prepared answer result s s')
      (Broken runtime prepared s) (invoke_item runtime settings prepared s) := by
  obtain ⟨run_id,runIs,_,filled⟩ := admitted_run admitted
  have agent : blank "agent-run" = false := by decide
  have dispatching : blank "run.dispatched" = false := by decide
  have completing : blank "run.completed" = false := by decide
  unfold invoke_item
  rw [bind_lift_ok (build_dispatch_total admitted),runIs,bind_record grounded recorded dispatching agent filled]
  cases registered : adapter_for runtime prepared.profile with
  | error e =>
    rw [bind_lift_error rfl]
    exact .unregistered registered rfl rfl
  | ok adapter =>
    rw [bind_lift_ok rfl,bind_modify,bind_world]
    dsimp only
    rw [noted_world]
    rcases called : adapter.invoke (dispatch_of prepared) s.world with ⟨e | answer,after⟩
    · exact .silent registered (by rw [called]) rfl rfl
    have replied : Replied runtime prepared answer := ⟨adapter,_,registered,by rw [called]⟩
    dsimp only
    rw [bind_modify]
    cases normalized : normalize_provider_result answer (dispatch_of prepared)
        ("provider-result:" ++ text prepared.request "runId") with
    | error failure =>
      rw [bind_lift_error rfl]
      have failed : conclude prepared answer = .error failure := by
        unfold conclude
        rw [normalized]
        rfl
      exact .fruitless replied rfl rfl failed
    | ok result =>
      have later : Recorded settings (noted settings "run.dispatched" "agent-run" (.str run_id)
          [("runId",.str run_id),("workPackageId",.str prepared.work_package_id),
            ("dispatchDigest",(dispatch_of prepared).get "dispatchDigest"),
            ("externalSideEffectPossible",prepared.request.get "externalSideEffectPossible")] s) :=
        recorded_next grounded recorded dispatching agent filled
      rw [bind_lift_ok rfl,bind_record grounded (by exact recorded_kept later rfl rfl rfl) completing agent filled]
      refine ⟨answer,replied,normalized,recorded_next grounded
        (recorded_kept later rfl rfl rfl) completing agent filled,?_,rfl,
        rfl,rfl,rfl,⟨rfl,rfl,rfl,rfl,rfl,rfl,rfl⟩⟩
      unfold Run.dispatched_note Run.completed_note
      rw [runIs,said_noted,said_noted,List.append_assoc]
      rfl

/-- The result of the package was judged. -/
structure Judged (settings : Settings) (prepared : Prepared) (gate : Option GateEvaluation) (s s' : Locals σ) :
    Prop where
  recorded : Recorded settings s'
  said : s'.histories.map said = s.histories.map said ++ Run.gate_notes prepared gate
  invocations : s'.invocations = s.invocations
  answers : s'.answers = s.answers
  evaluations : s'.evaluations = s.evaluations ++ (gate.map (fun gate => (prepared,gate))).toList
  any_failure : s'.any_failure = (s.any_failure || !gate.any GateEvaluation.promotable)
  frame : Frame s s'

theorem accept_met {result : Dict} {before : List String} (grounded : Grounded settings)
    (recorded : Recorded settings s)
    (named : blank prepared.work_package_id = false) :
    Met (fun verdict s' => ∃ gate, judge prepared result = .ok gate ∧
        verdict = ⟨gate.map (fun gate => gate.outcome.value),(Run.mk prepared .null result gate).reasons before⟩ ∧
        Judged settings prepared gate s s')
      (fun _ s' => s'.invocations = s.invocations ∧ s'.answers = s.answers ∧
        ∃ failure, judge prepared result = .error failure)
      (accept settings prepared (text result "status") before s) := by
  unfold accept
  by_cases completed : text result "status" = "completed"
  · rw [if_neg (not_not.mpr completed)]
    cases object : (prepared.source.get "acceptance").dict? with
    | none =>
      have judged : judge prepared result = .ok none := by
        unfold judge
        rw [if_neg (not_not.mpr completed),object]
        rfl
      refine ⟨none,judged,?_,recorded_kept recorded rfl rfl rfl,(List.append_nil _).symm,rfl,rfl,
        (List.append_nil _).symm,
        ?_,⟨rfl,rfl,rfl,rfl,rfl,rfl,rfl⟩⟩
      · simp [Run.reasons,Run.status,completed]
      · simp
    | some acceptance =>
      have judged : judge prepared result = (evaluate_acceptance acceptance >>= fun gate => return some gate) := by
        unfold judge
        rw [if_neg (not_not.mpr completed),object]
      cases evaluated : evaluate_acceptance acceptance with
      | error failure =>
        dsimp only
        rw [bind_lift_error evaluated]
        exact ⟨rfl,rfl,failure,by rw [judged,evaluated]; rfl⟩
      | ok gate =>
        dsimp only
        have typed : blank "gate.evaluated" = false := by decide
        have aggregated : blank "work-package" = false := by decide
        have later : ∀ t : Locals σ, t.histories = s.histories → t.event_number = s.event_number →
            t.last_event_id = s.last_event_id → Recorded settings t := fun t => recorded_kept recorded
        rw [bind_lift_ok evaluated,bind_modify,bind_record grounded
          (by exact later _ rfl rfl rfl) typed aggregated named,
          bind_modify]
        refine ⟨some gate,by rw [judged,evaluated]; rfl,?_,
          recorded_kept (recorded_next grounded
            (recorded_kept recorded rfl rfl rfl) typed aggregated named) rfl rfl rfl,
          said_noted,rfl,rfl,rfl,?_,⟨rfl,rfl,rfl,rfl,rfl,rfl,rfl⟩⟩
        · simp [Run.reasons,Run.status,completed]
        · simp
          rfl
  · rw [if_pos completed]
    have judged : judge prepared result = .ok none := by
      unfold judge
      rw [if_pos completed]
      rfl
    refine ⟨none,judged,?_,recorded_kept recorded rfl rfl rfl,(List.append_nil _).symm,rfl,rfl,(List.append_nil _).symm,
      ?_,⟨rfl,rfl,rfl,rfl,rfl,rfl,rfl⟩⟩
    · simp [Run.reasons,Run.status,completed]
    · simp

end

/-! ### The loop -/

/-- The plan selects the package. -/
def chosen (plan : SchedulePlan) (prepared : Prepared) : Bool :=
  (decision_for plan prepared.work_package_id).any (fun entry => entry.decision = .SELECTED)

/-- The trace of a package that the plan defers. -/
def deferred (entry : ScheduleEntry) (current : WorkTrace) : WorkTrace :=
  { current with schedule_decision := entry.decision.value, run_status := none, gate_outcome := none,
                 reasons := entry.reasons }

/-- The trace of an item once some packages were visited. -/
def trace_now (plan : SchedulePlan) (done : List Prepared) (runs : List Run) (p : Preparation) : WorkTrace :=
  if p.work_package_id ∈ done.map Prepared.work_package_id then
    match decision_for plan p.work_package_id,runs.find? (fun run => run.work_package_id = p.work_package_id) with
    | some entry,none => deferred entry p.trace
    | some entry,some run => run.trace entry p.trace
    | none,_ => p.trace
  else p.trace

theorem trace_now_id (plan : SchedulePlan) (done : List Prepared) (runs : List Run) (p : Preparation) :
    (trace_now plan done runs p).work_package_id = p.work_package_id := by
  unfold trace_now
  split
  · split <;> exact p.trace_id
  · exact p.trace_id

section
variable {works : List Preparation} {f : Preparation → WorkTrace}

theorem find_work (named : ∀ p, (f p).work_package_id = p.work_package_id)
    (distinct : (works.map Preparation.work_package_id).Nodup) {p : Preparation} (member : p ∈ works) :
    (works.map f).find? (fun trace => trace.work_package_id = p.work_package_id) = some (f p) := by
  induction works with
  | nil => cases member
  | cons first rest ih =>
    obtain ⟨fresh,later⟩ := List.nodup_cons.mp distinct
    rw [List.map_cons,List.find?_cons]
    rcases List.mem_cons.mp member with rfl | tail
    · simp [named]
    · have other : first.work_package_id ≠ p.work_package_id :=
        fun same => fresh (same ▸ List.mem_map.mpr ⟨p,tail,rfl⟩)
      simpa [named,other] using ih later tail

theorem put_trace_work (named : ∀ p, (f p).work_package_id = p.work_package_id)
    (distinct : (works.map Preparation.work_package_id).Nodup) {p : Preparation} (member : p ∈ works)
      {trace : WorkTrace}
    (id : trace.work_package_id = p.work_package_id) : put_trace trace (works.map f) =
      works.map (fun q => if q.work_package_id = p.work_package_id then trace else f q) := by
  induction works with
  | nil => cases member
  | cons first rest ih =>
    obtain ⟨fresh,later⟩ := List.nodup_cons.mp distinct
    rw [List.map_cons,List.map_cons]
    unfold put_trace
    rw [named,id]
    by_cases here : first.work_package_id = p.work_package_id
    · rw [if_pos here,if_pos here]
      refine congrArg (trace :: ·) (List.map_congr_left ?_)
      intro q tail
      have other : q.work_package_id ≠ p.work_package_id :=
        fun same => fresh (here ▸ same ▸ List.mem_map.mpr ⟨q,tail,rfl⟩)
      rw [if_neg other]
    · rw [if_neg here,if_neg here]
      refine congrArg (f first :: ·) (ih later ?_)
      rcases List.mem_cons.mp member with rfl | tail
      · exact absurd rfl here
      · exact tail

end

/-- What the loop may rely on. -/
structure Planned (works : List Preparation) (plan : SchedulePlan) : Prop where
  distinct : (works.map Preparation.work_package_id).Nodup
  admitted : ∀ prepared ∈ works.filterMap Preparation.prepared, Admitted prepared
  decided : ∀ prepared ∈ works.filterMap Preparation.prepared, ∃ entry,
    decision_for plan prepared.work_package_id = some entry

/-- The state after some of the prepared packages have been visited. -/
structure Dispatching {σ : Type} (runtime : ReferenceOrchestrator σ) (settings : Settings) (opening : List Note)
    (works : List Preparation) (plan : SchedulePlan) (done : List Prepared) (runs : List Run) (s : Locals σ) :
      Prop where
  recorded : Recorded settings s
  said : s.histories.map said = opening ++ runs.flatMap Run.notes
  visited : runs.map Run.prepared = done.filter (chosen plan)
  concluded : ∀ run ∈ runs, conclude run.prepared run.answer = .ok run
  replied : ∀ run ∈ runs, Replied runtime run.prepared run.answer
  invocations : s.invocations = runs.map Run.invocation
  answers : s.answers = runs.map (fun run => (run.prepared,run.answer))
  evaluations : s.evaluations = runs.filterMap Run.evaluation
  completions : s.completions = runs.flatMap (Run.completions settings)
  any_failure : s.any_failure = runs.any (fun run => !run.promotable)
  any_waiting : s.any_waiting = done.any (fun prepared => !chosen plan prepared)
  decision_required : s.decision_required = works.any Preparation.asks
  hard_block : s.hard_block = works.any Preparation.blocks
  traces : s.traces = works.map (trace_now plan done runs)

/-- A call of an adapter for a package that was ready and that the plan selects. -/
structure Dispatched (works : List Preparation) (plan : SchedulePlan) (invocation : Invocation) : Prop where
  prepared : invocation.prepared ∈ works.filterMap Preparation.prepared
  selected : chosen plan invocation.prepared = true
  dispatch : invocation.dispatch = dispatch_of invocation.prepared

/-- Why the loop stops early: an adapter is not registered or does not answer, or an
    answer comes to nothing. -/
inductive Reason {σ : Type} (runtime : ReferenceOrchestrator σ) (works : List Preparation) (e : PyError)
    (s : Locals σ) : Prop
  | unregistered {prepared : Prepared} (member : prepared ∈ works.filterMap Preparation.prepared)
    (missing : adapter_for runtime prepared.profile = .error e)
  | silent {prepared : Prepared} {adapter : AgentAdapter σ} {world : σ}
    (registered : adapter_for runtime prepared.profile = .ok adapter)
    (mute : (adapter.invoke (dispatch_of prepared) world).1 = .error e)
    (fewer : s.answers.length < s.invocations.length)
  | fruitless {prepared : Prepared} {answer : Json} {failure : PyError}
    (member : prepared ∈ works.filterMap Preparation.prepared) (replied : Replied runtime prepared answer)
    (even : s.answers.length = s.invocations.length) (answered : (prepared,answer) ∈ s.answers)
    (failed : conclude prepared answer = .error failure)

/-- The state in which the loop stopped early, and why. -/
structure Interrupted {σ : Type} (runtime : ReferenceOrchestrator σ) (works : List Preparation) (plan : SchedulePlan)
    (e : PyError) (s : Locals σ) : Prop where
  invoked : ∀ invocation ∈ s.invocations, Dispatched works plan invocation
  reason : Reason runtime works e s

section
variable {σ : Type} {settings : Settings} {runtime : ReferenceOrchestrator σ} {opening : List Note}
  {works : List Preparation} {plan : SchedulePlan} {done rest : List Prepared} {runs : List Run} {prepared : Prepared}
  {s : Locals σ}

theorem prepared_ids (works : List Preparation) :
    ((works.filterMap Preparation.prepared).map Prepared.work_package_id).Sublist
      (works.map Preparation.work_package_id) := by
  induction works with
  | nil => exact List.Sublist.refl _
  | cons p rest ih =>
    cases ready : p.prepared with
    | none =>
      rw [List.filterMap_cons_none ready]
      exact ih.cons _
    | some prepared =>
      rw [List.filterMap_cons_some ready,List.map_cons,List.map_cons,Preparation.prepared_id ready]
      exact ih.cons_cons _

/-- A package is visited once. -/
theorem visited_once (planned : Planned works plan)
    (split : works.filterMap Preparation.prepared = done ++ prepared :: rest) :
    prepared.work_package_id ∉ done.map Prepared.work_package_id := by
  have distinct := (prepared_ids works).nodup planned.distinct
  rw [split,List.map_append,List.map_cons] at distinct
  exact fun earlier => (List.nodup_append.mp distinct).2.2 _ earlier _ (by simp) rfl

/-- The trace that a package has when it is visited. -/
theorem current_trace (planned : Planned works plan)
    (split : works.filterMap Preparation.prepared = done ++ prepared :: rest)
    (before : Dispatching runtime settings opening works plan done runs s) :
    ∃ p ∈ works, p.work_package_id = prepared.work_package_id ∧
      s.trace_of prepared.work_package_id = some p.trace := by
  have member : prepared ∈ works.filterMap Preparation.prepared := by
    rw [split]
    simp
  obtain ⟨p,inside,ready⟩ := List.mem_filterMap.mp member
  have id := Preparation.prepared_id ready
  refine ⟨p,inside,id.symm,?_⟩
  unfold Locals.trace_of
  rw [before.traces,id,find_work (trace_now_id plan done runs) planned.distinct inside]
  have unvisited := visited_once planned split
  rw [id] at unvisited
  unfold trace_now
  rw [if_neg unvisited]

/-- After a visit the package has its new trace, and the others keep theirs. -/
theorem traces_after {more : List Run} {p : Preparation} {trace : WorkTrace} (planned : Planned works plan)
    (inside : p ∈ works) (here : p.work_package_id = prepared.work_package_id)
    (now : trace_now plan (done ++ [prepared]) (runs ++ more) p = trace)
    (own : ∀ run ∈ more, run.work_package_id = prepared.work_package_id)
    (id : trace.work_package_id = p.work_package_id) :
    put_trace trace (works.map (trace_now plan done runs)) =
      works.map (trace_now plan (done ++ [prepared]) (runs ++ more)) := by
  rw [put_trace_work (trace_now_id plan done runs) planned.distinct inside id]
  refine List.map_congr_left ?_
  intro q member
  by_cases equal : q.work_package_id = p.work_package_id
  · rw [if_pos equal,List.inj_on_of_nodup_map planned.distinct member inside equal,now]
  · rw [if_neg equal]
    have visited : q.work_package_id ∈ (done ++ [prepared]).map Prepared.work_package_id ↔
        q.work_package_id ∈ done.map Prepared.work_package_id := by
      rw [List.map_append,List.mem_append]
      refine or_iff_left ?_
      rw [List.map_singleton,List.mem_singleton,← here]
      exact equal
    have found : (runs ++ more).find? (fun run => run.work_package_id = q.work_package_id) =
        runs.find? (fun run => run.work_package_id = q.work_package_id) := by
      have none : more.find? (fun run => run.work_package_id = q.work_package_id) = none := by
        rw [List.find?_eq_none]
        intro run inside
        rw [own run inside,← here]
        simpa using Ne.symm equal
      rw [List.find?_append,none,Option.or_none]
    unfold trace_now
    rw [found]
    simp only [visited]

/-- The packages that were dispatched so far are selected ones. -/
theorem invoked_so_far (split : works.filterMap Preparation.prepared = done ++ prepared :: rest)
    (before : Dispatching runtime settings opening works plan done runs s) :
    ∀ invocation ∈ s.invocations, Dispatched works plan invocation := by
  intro invocation member
  rw [before.invocations] at member
  obtain ⟨run,inside,rfl⟩ := List.mem_map.mp member
  have visited : run.prepared ∈ done.filter (chosen plan) := by
    rw [← before.visited]
    exact List.mem_map.mpr ⟨run,inside,rfl⟩
  obtain ⟨earlier,selected⟩ := List.mem_filter.mp visited
  refine ⟨?_,selected,rfl⟩
  rw [split]
  exact List.mem_append_left _ earlier

/-- A package that breaks off interrupts the loop. -/
theorem interrupted_of_broken {e : PyError} {s' : Locals σ}
    (split : works.filterMap Preparation.prepared = done ++ prepared :: rest) (selected : chosen plan prepared = true)
    (before : Dispatching runtime settings opening works plan done runs s) (broken : Broken runtime prepared s e s') :
    Interrupted runtime works plan e s' := by
  have earlier := invoked_so_far split before
  have counted : s.answers.length = s.invocations.length := by
    rw [before.answers,before.invocations,List.length_map,List.length_map]
  have here : prepared ∈ works.filterMap Preparation.prepared := by
    rw [split]
    simp
  have more : ∀ invocation ∈ s.invocations ++ [⟨prepared,dispatch_of prepared⟩], Dispatched works plan invocation := by
    intro invocation member
    rcases List.mem_append.mp member with old | new
    · exact earlier invocation old
    · rw [List.mem_singleton.mp new]
      exact ⟨here,selected,rfl⟩
  cases broken with
  | unregistered missing invocations answers => exact ⟨by rwa [invocations],.unregistered here missing⟩
  | silent registered mute invocations answers =>
    refine ⟨by rwa [invocations],.silent registered mute ?_⟩
    rw [answers,invocations,List.length_append,counted]
    simp
  | fruitless replied invocations answers failed =>
    refine ⟨by rwa [invocations],.fruitless here replied ?_ ?_ failed⟩
    · rw [answers,invocations,List.length_append,List.length_append,counted]
      rfl
    · rw [answers]
      simp

theorem dispatch_item_met (grounded : Grounded settings) (planned : Planned works plan)
    (split : works.filterMap Preparation.prepared = done ++ prepared :: rest)
    (before : Dispatching runtime settings opening works plan done runs s) :
    Met (fun _ s' => ∃ runs, Dispatching runtime settings opening works plan (done ++ [prepared]) runs s')
      (Interrupted runtime works plan) (dispatch_item runtime settings plan prepared s) := by
  have here : prepared ∈ works.filterMap Preparation.prepared := by
    rw [split]
    simp
  obtain ⟨entry,decided⟩ := planned.decided prepared here
  obtain ⟨p,inside,id,current⟩ := current_trace planned split before
  have unvisited := visited_once planned split
  have visited : p.work_package_id ∈ (done ++ [prepared]).map Prepared.work_package_id := by
    rw [id]
    simp
  have absent : runs.find? (fun run => run.work_package_id = p.work_package_id) = none := by
    rw [List.find?_eq_none]
    intro run member
    have earlier : run.prepared ∈ done.filter (chosen plan) := by
      rw [← before.visited]
      exact List.mem_map.mpr ⟨run,member,rfl⟩
    have other : run.work_package_id ≠ p.work_package_id := by
      intro equal
      rw [id] at equal
      exact unvisited (List.mem_map.mpr ⟨run.prepared,(List.mem_filter.mp earlier).1,equal⟩)
    simpa using other
  unfold dispatch_item
  rw [bind_read,decided,current]
  dsimp only
  by_cases postponed : entry.decision = .DEFERRED
  · have skipped : chosen plan prepared = false := by
      simp [chosen,decided,postponed]
    rw [if_pos postponed]
    refine ⟨runs,recorded_kept before.recorded rfl rfl rfl,before.said,?_,before.concluded,before.replied,
      before.invocations,
      before.answers,before.evaluations,before.completions,before.any_failure,?_,before.decision_required,
      before.hard_block,?_⟩
    · rw [before.visited]
      simp [skipped]
    · simp [skipped]
      rfl
    · have now : trace_now plan (done ++ [prepared]) (runs ++ []) p = deferred entry p.trace := by
        unfold trace_now
        rw [List.append_nil,if_pos visited,id,decided,← id,absent]
      have after := traces_after planned inside id now (fun _ none => absurd none List.not_mem_nil) p.trace_id
      rw [List.append_nil] at after
      show put_trace (deferred entry p.trace) s.traces = _
      rw [before.traces]
      exact after
  · have selected : chosen plan prepared = true := by
      cases decision : entry.decision with
      | SELECTED => simp [chosen,decided,decision]
      | DEFERRED => exact absurd decision postponed
    rw [if_neg postponed]
    have invoked : Met _ (Broken runtime prepared s) (invoke_item runtime settings prepared s) :=
      invoke_item_met grounded before.recorded (planned.admitted prepared here)
    rcases ran : invoke_item runtime settings prepared s with ⟨e | result,middle⟩
    · rw [ran] at invoked
      rw [bind_run_error ran]
      exact interrupted_of_broken split selected before invoked
    rw [ran] at invoked
    obtain ⟨answer,replied,normalized,answered⟩ := invoked
    rw [bind_run_ok ran]
    have accepted : Met _ _ (accept settings prepared (text result "status") p.trace.reasons middle) :=
      accept_met grounded answered.recorded (planned.admitted prepared here).named
    rcases judging : accept settings prepared (text result "status") p.trace.reasons middle with ⟨e | verdict,after⟩
    · rw [judging] at accepted
      obtain ⟨invocations,answers,failure,failed⟩ := accepted
      rw [bind_run_error judging]
      refine interrupted_of_broken split selected before
        (.fruitless replied (invocations.trans answered.invocations) (answers.trans answered.answers)
          (show conclude prepared answer = .error failure from ?_))
      unfold conclude
      rw [normalized,ok_bind,failed]
      rfl
    rw [judging] at accepted
    obtain ⟨gate,judged,rfl,accepted⟩ := accepted
    rw [bind_run_ok judging]
    have later : Dispatching runtime settings opening works plan (done ++ [prepared])
        (runs ++ [⟨prepared,answer,result,gate⟩])
        (keep_trace ((Run.mk prepared answer result gate).trace entry p.trace)
          { after with completions := after.completions ++ (Run.mk prepared answer result gate).completions settings }) := by
      have now : trace_now plan (done ++ [prepared]) (runs ++ [⟨prepared,answer,result,gate⟩]) p =
          (Run.mk prepared answer result gate).trace entry p.trace := by
        have own : (Run.mk prepared answer result gate).work_package_id = p.work_package_id := id.symm
        unfold trace_now
        rw [if_pos visited,id,decided,← id,List.find?_append,absent]
        simp [own]
      have traces := traces_after planned inside id now (fun run only => by rw [List.mem_singleton.mp only]; rfl)
        p.trace_id
      refine ⟨recorded_kept accepted.recorded rfl rfl rfl,?_,?_,?_,?_,?_,?_,?_,?_,?_,?_,?_,?_,?_⟩
      · show after.histories.map said = _
        rw [accepted.said,answered.said,before.said]
        simp [Run.notes]
      · rw [List.map_append,before.visited]
        simp [selected]
      · intro run member
        rcases List.mem_append.mp member with earlier | last
        · exact before.concluded run earlier
        · rw [List.mem_singleton.mp last]
          exact conclude_ok.mpr ⟨rfl,rfl,normalized,judged⟩
      · intro run member
        rcases List.mem_append.mp member with earlier | last
        · exact before.replied run earlier
        · rw [List.mem_singleton.mp last]
          exact replied
      · show after.invocations = _
        rw [accepted.invocations,answered.invocations,before.invocations]
        simp [Run.invocation]
      · show after.answers = _
        rw [accepted.answers,answered.answers,before.answers]
        simp
      · show after.evaluations = _
        rw [accepted.evaluations,answered.evaluations,before.evaluations]
        cases gate <;> simp [Run.evaluation]
      · show after.completions ++ _ = _
        rw [accepted.frame.completions,answered.frame.completions,before.completions]
        simp
      · show after.any_failure = _
        rw [accepted.any_failure,answered.any_failure,before.any_failure]
        simp [Run.promotable]
      · show after.any_waiting = _
        rw [accepted.frame.any_waiting,answered.frame.any_waiting,before.any_waiting]
        simp [selected]
      · show after.decision_required = _
        rw [accepted.frame.decision_required,answered.frame.decision_required,before.decision_required]
      · show after.hard_block = _
        rw [accepted.frame.hard_block,answered.frame.hard_block,before.hard_block]
      · show put_trace _ after.traces = _
        rw [accepted.frame.traces,answered.frame.traces,before.traces]
        exact traces
    exact ⟨_,later⟩

/-- The loop visits every prepared package, or is interrupted. -/
theorem dispatch_all (grounded : Grounded settings) (planned : Planned works plan) :
    Meets (fun s : Locals σ => ∃ runs, Dispatching runtime settings opening works plan [] runs s)
      (forEach (works.filterMap Preparation.prepared) (dispatch_item runtime settings plan))
      (fun _ s => ∃ runs, Dispatching runtime settings opening works plan (works.filterMap Preparation.prepared) runs s)
      (Interrupted runtime works plan) := by
  refine meets_forEach (fun done s => ∃ runs, Dispatching runtime settings opening works plan done runs s) ?_
  rintro done prepared rest split s ⟨runs,before⟩
  exact dispatch_item_met grounded planned split before

/-- Before the loop nothing was visited; since the preparations only events were
    written. -/
theorem dispatching_start {profiles : List Dict} {items : List Json} {before : List Note} {histories : List Dict}
    {id : Option String} {number : Nat} (prepared : PreparedAll settings profiles before items works s)
    (recorded : Recorded settings { s with histories := histories, last_event_id := id, event_number := number })
    (notes : histories.map said = opening) :
    Dispatching runtime settings opening works plan [] []
      { s with histories := histories, last_event_id := id, event_number := number } := by
  refine ⟨recorded,?_,rfl,by simp,by simp,?_,?_,?_,?_,?_,?_,prepared.decision_required,prepared.hard_block,?_⟩
  · rw [List.flatMap_nil,List.append_nil]
    exact notes
  · exact prepared.idle.invocations
  · exact prepared.idle.answers
  · exact prepared.idle.evaluations
  · exact prepared.idle.completions
  · exact prepared.idle.any_failure
  · exact prepared.idle.any_waiting
  · show s.traces = _
    rw [prepared.traces]
    refine List.map_congr_left ?_
    intro p _
    simp [trace_now]

end

end V3Aidlc.Runs
