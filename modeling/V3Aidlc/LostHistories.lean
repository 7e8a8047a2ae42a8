import V3Aidlc.Notes
import V3Aidlc.Feasibility

/-!
What becomes of the history of an execution once it has invoked an adapter. A result, a
gate or an integration that is refused (`Refused`) leaves the procedure as an exception,
and the events with it; the history is kept exactly when nothing is refused
(`history_kept_iff`).
-/
namespace V3Aidlc.LostHistories
open V3Aidlc.Values V3Aidlc.Loops V3Aidlc.Effects V3Aidlc.Effects.Proc V3Aidlc.Contracts
open V3Aidlc.AgentAdapters (normalize_provider_result)
open V3Aidlc.ReferenceOrchestrator V3Aidlc.RecordedEvents V3Aidlc.Failures V3Aidlc.Preparations V3Aidlc.Runs
open V3Aidlc.Executions V3Aidlc.Accounts V3Aidlc.Notes

section
variable {σ : Type}

/-- Every package that the schedule selected has been answered. -/
def AllAnswered (s : Locals σ) : Prop :=
  ∀ event ∈ s.histories, event.get "eventType" = .str "schedule.planned" →
    ∀ id, Json.str id ∈ items (Recovery.payload event) "selected" →
      ∃ answered ∈ s.answers, answered.1.work_package_id = id

/-- A negative outcome after a dispatch: a malformed or mis-bound result, a gate that
    cannot be evaluated, or a batch or an integration result that is rejected. -/
inductive Refused (scenario : Dict) (s : Locals σ) : Prop
  | result {prepared : Prepared} {answer : Json} {failure : PyError} (answered : (prepared,answer) ∈ s.answers)
    (refused : normalize_provider_result answer (dispatch_of prepared)
      ("provider-result:" ++ text prepared.request "runId") = .error failure)
  | gate {prepared : Prepared} {answer : Json} {result : Dict} {failure : PyError}
    (answered : (prepared,answer) ∈ s.answers)
    (accepted : normalize_provider_result answer (dispatch_of prepared)
      ("provider-result:" ++ text prepared.request "runId") = .ok result)
    (refused : judge prepared result = .error failure)
  | integration {settings : Settings} {integration : Dict} {expected : List Json} {failure : PyError}
    (managed : Managed scenario settings) (answered : AllAnswered s)
    (requested : scenario.get "integration" = .obj integration) (expects : expected_members integration = .ok expected)
    (complete : same_set expected (ready_members (completions_from settings s.answers)) = true)
    (refused : combine (completions_from settings s.answers) integration = .error failure)

/-- A negative outcome yields a trace that is not completed and holds every dispatch,
    and no error of a run, a gate or an integration escapes. -/
def HistoryKept (scenario : Dict) (r : Py OrchestrationTrace) (s : Locals σ) : Prop :=
  (Refused scenario s → ∃ trace, r = .ok trace ∧ trace.status ≠ "completed" ∧
      ∀ event ∈ s.histories, event.get "eventType" = .str "run.dispatched" → event ∈ trace.events) ∧
    ∀ e, r = .error e → ¬ Governed e

end

/-! ### Where the errors come from -/

theorem conclude_error {prepared : Prepared} {answer : Json} {failure : PyError}
    (failed : conclude prepared answer = .error failure) :
    normalize_provider_result answer (dispatch_of prepared) ("provider-result:" ++ text prepared.request "runId") =
      .error failure ∨
    ∃ result, normalize_provider_result answer (dispatch_of prepared)
      ("provider-result:" ++ text prepared.request "runId") =
      .ok result ∧ judge prepared result = .error failure := by
  unfold conclude at failed
  cases normalized : normalize_provider_result answer (dispatch_of prepared)
      ("provider-result:" ++ text prepared.request "runId") with
  | error e =>
    rw [normalized] at failed
    cases failed
    exact .inl rfl
  | ok result =>
    rw [normalized,ok_bind] at failed
    refine .inr ⟨result,rfl,?_⟩
    cases judged : judge prepared result with
    | error e =>
      rw [judged] at failed
      cases failed
      rfl
    | ok gate =>
      rw [judged] at failed
      cases failed

theorem ungoverned_iterate (v : Json) : Ungoverned (iterate v) := by
  unfold iterate
  split
  · exact ungoverned_ok _
  · exact ungoverned_error (language_ungoverned (by simp))

theorem ungoverned_expected (integration : Dict) : Ungoverned (expected_members integration) := by
  refine ungoverned_bind (ungoverned_iterate _) (fun values => ungoverned_bind ?_ (fun _ => ungoverned_pure _))
  unfold raise_if
  split
  · exact ungoverned_error (language_ungoverned (by simp))
  · exact ungoverned_ok _

theorem ungoverned_sorted (values : List Json) : Ungoverned (sorted_values values) := by
  unfold sorted_values
  split
  · exact ungoverned_pure _
  · split
    · exact ungoverned_pure _
    · exact ungoverned_pure _
    · exact ungoverned_error (language_ungoverned (by simp))

/-- The only such error of an integration is that of its batch and its result. -/
theorem integration_governed {scenario : Dict} {completions : List Dict} {e : PyError}
    (failed : integration_of scenario completions = .error e) (governed : Governed e) :
    ∃ integration expected, scenario.get "integration" = .obj integration ∧
      expected_members integration = .ok expected ∧
      same_set expected (ready_members completions) = true ∧ combine completions integration = .error e := by
  unfold integration_of at failed
  split at failed
  · cases failed
  cases requested : required_object scenario "integration" "integration must be an object" with
  | error failure =>
    rw [requested] at failed
    cases failed
    unfold required_object at requested
    split at requested
    · exact absurd governed (ungoverned_fail orchestrator_not_governed _ requested)
    · cases requested
  | ok integration =>
    rw [requested,ok_bind] at failed
    cases expects : expected_members integration with
    | error failure =>
      rw [expects] at failed
      cases failed
      exact absurd governed (ungoverned_expected integration _ expects)
    | ok expected =>
      rw [expects,ok_bind] at failed
      refine ⟨integration,expected,required_object_ok.mp requested,expects,?_⟩
      split at failed
      · refine absurd governed (ungoverned_bind (ungoverned_sorted expected) (fun _ => ?_) e failed)
        exact ungoverned_bind (ungoverned_sorted _) (fun _ => ungoverned_pure _)
      · rename_i complete
        refine ⟨by simpa using complete,?_⟩
        cases combined : combine completions integration with
        | error failure =>
          rw [combined] at failed
          cases failed
          rfl
        | ok outcome =>
          rw [combined] at failed
          cases failed

/-! ### The history -/

section
variable {σ : Type} {runtime : ReferenceOrchestrator σ} {scenario : Dict} {world : σ} {s' : Locals σ}

theorem items_texts {payload : Dict} {key id : String} {ids : List String}
    (held : payload.get key = .arr (ids.map Json.str))
    (member : Json.str id ∈ items payload key) : id ∈ ids := by
  unfold items at member
  rw [held] at member
  obtain ⟨other,inside,same⟩ := List.mem_map.mp member
  cases same
  exact inside

/-- After the visits every package that the plan selects has been answered. -/
theorem all_answered {settings : Settings} {profiles : List Dict} {works : List Preparation}
    {plan : Option Scheduler.SchedulePlan} {runs : List Run} {s : Locals σ}
    (visited : Visited runtime scenario settings profiles works plan runs s) : AllAnswered s := by
  have dispatching := visited.dispatching
  intro event member planned id selected
  have listed : said event ∈ opening_notes settings works plan ++ runs.flatMap Run.notes := by
    rw [← dispatching.said]
    exact List.mem_map.mpr ⟨event,member,rfl⟩
  have typed : kind (said event) = "schedule.planned" := (kind_said (by decide)).mpr planned
  rcases List.mem_append.mp listed with opening | run
  · obtain ⟨chosen,planIs,same⟩ := opening_planned opening typed
    subst planIs
    have payload : Recovery.payload event = [("selected",.arr (chosen.selected_work_packages.map Json.str))] := by
      have held : event.get "payload" = .obj [("selected",.arr (chosen.selected_work_packages.map Json.str))] :=
        congrArg Note.payload same
      unfold Recovery.payload
      rw [held]
      rfl
    rw [payload] at selected
    obtain ⟨prepared,visit,own⟩ := (plan_selected visited.each visited.scheduled).mp (items_texts rfl selected)
    have run : prepared ∈ runs.map Run.prepared := by
      rw [dispatching.visited]
      exact visit
    obtain ⟨run,inside,same⟩ := List.mem_map.mp run
    refine ⟨(run.prepared,run.answer),?_,?_⟩
    · rw [dispatching.answers]
      exact List.mem_map.mpr ⟨run,inside,rfl⟩
    · rw [← own,← same]
  · obtain ⟨ended,_,inside⟩ := List.mem_flatMap.mp run
    have own := run_kind inside
    rw [typed] at own
    exact absurd own (by decide)

/-- In an execution that returned after a dispatch nothing was refused. -/
theorem performed_unrefused {account : Account} {trace : OrchestrationTrace}
    (performed : Performed runtime scenario account trace s') : ¬ Refused scenario s' := by
  have concluded : ∀ answered ∈ s'.answers, ∃ run, conclude answered.1 answered.2 = .ok run := by
    intro answered member
    rw [performed.answers] at member
    obtain ⟨run,inside,rfl⟩ := List.mem_map.mp member
    exact ⟨run,performed.concluded run inside⟩
  intro refused
  cases refused with
  | result answered refused =>
    obtain ⟨run,ran⟩ := concluded _ answered
    obtain ⟨_,_,normalized,_⟩ := conclude_ok.mp ran
    rw [refused] at normalized
    cases normalized
  | gate answered accepted refused =>
    obtain ⟨run,ran⟩ := concluded _ answered
    obtain ⟨_,_,normalized,judged⟩ := conclude_ok.mp ran
    rw [accepted] at normalized
    cases normalized
    rw [refused] at judged
    cases judged
  | integration managed _ requested expects complete refused =>
    rw [managed_unique managed performed.managed,performed.answers,
      completions_concluded performed.concluded] at complete refused
    have integrated := performed.integrated
    unfold integration_of at integrated
    rw [if_neg (by rw [requested]; simp [Json.isNull]),required_object_ok.mpr requested,ok_bind,expects,ok_bind,
      complete,
      refused] at integrated
    cases integrated

/-- A refusal is the only way in which an error of the work escapes. -/
theorem escaped_refused {settings : Settings} {profiles : List Dict} {works : List Preparation} {e : PyError}
    (halted : Halted runtime scenario settings profiles works e s') (invoked : s'.invocations ≠ [])
    (answered : s'.answers.length = s'.invocations.length) (governed : Governed e) : Refused scenario s' := by
  rcases halted.cause with stopped | ⟨plan,runs,t,visited,uncombined⟩
  · cases stopped with
    | unplanned _ unused => exact absurd unused invoked
    | interrupted _ interrupted =>
      cases interrupted.reason with
      | unregistered _ missing =>
        rw [adapter_for_error missing] at governed
        exact absurd governed (language_ungoverned (by simp))
      | silent _ _ fewer => omega
      | fruitless _ _ _ member failed =>
        rcases conclude_error failed with refused | ⟨result,accepted,refused⟩
        · exact .result member refused
        · exact .gate member accepted refused
  · rcases uncombined.cause with failed | ⟨other,_⟩
    · obtain ⟨integration,expected,requested,expects,complete,refused⟩ := integration_governed failed governed
      have dispatching := visited.dispatching
      have completions : completions_from settings s'.answers = t.completions := by
        rw [uncombined.answers,dispatching.answers,completions_concluded dispatching.concluded,dispatching.completions]
      have all : AllAnswered s' := by
        unfold AllAnswered
        rw [uncombined.histories,uncombined.answers]
        exact all_answered visited
      rw [← completions] at complete refused
      exact .integration halted.managed all requested expects complete refused
    · exact absurd governed other

/-- Once an adapter was invoked, and every call returned a JSON value, the history is
    kept exactly when nothing was refused. -/
theorem history_kept_iff {r : Py OrchestrationTrace} (ran : execute runtime scenario (start world) = (r,s'))
    (invoked : s'.invocations ≠ []) (answered : s'.answers.length = s'.invocations.length) :
    HistoryKept scenario r s' ↔ ¬ Refused scenario s' := by
  constructor
  · rintro ⟨kept,_⟩ refused
    obtain ⟨trace,rfl,_⟩ := kept refused
    obtain ⟨account,performed⟩ := execute_accounted ran invoked
    exact performed_unrefused performed refused
  · intro unrefused
    refine ⟨fun refused => absurd refused unrefused,?_⟩
    rintro e rfl governed
    obtain ⟨settings,profiles,works,halted⟩ := execute_raised ran invoked
    exact unrefused (escaped_refused halted invoked answered governed)

end

/-! ### A malformed result -/

theorem history_kept_sample : ∃ r s', execute (Feasibility.sample_runtime .null) Feasibility.sample_scenario
    (start ()) =
    (r,s') ∧ s'.invocations ≠ [] ∧ (HistoryKept Feasibility.sample_scenario r s' ↔
      ¬ Refused Feasibility.sample_scenario s') := by
  obtain ⟨e,s',prepared,ran,invoked,even,_⟩ := Feasibility.sample_halted
  exact ⟨_,s',ran,invoked,history_kept_iff ran invoked even⟩

/-- The adapter returns `null`, and the dispatch is lost. -/
theorem malformed_result_escapes : ∃ r s', execute (Feasibility.sample_runtime .null) Feasibility.sample_scenario
    (start ()) =
    (r,s') ∧ s'.invocations ≠ [] ∧ s'.answers.length = s'.invocations.length ∧
    ¬ HistoryKept Feasibility.sample_scenario r s' := by
  obtain ⟨e,s',prepared,ran,invoked,even,answered,failure,failed⟩ := Feasibility.sample_halted
  refine ⟨_,s',ran,invoked,even,?_⟩
  rintro ⟨kept,_⟩
  have refused : Refused Feasibility.sample_scenario s' := by
    rcases conclude_error failed with refused | ⟨result,accepted,refused⟩
    · exact .result answered refused
    · exact .gate answered accepted refused
  obtain ⟨trace,returned,_⟩ := kept refused
  cases returned

end V3Aidlc.LostHistories
