import V3Aidlc.Groups
import V3Aidlc.LeadTraces
import V3Aidlc.Verification

/-!
What the outcome of the project-lead loop says of the gate it recorded last, and of the
checks it ran last. A package is closed only with a promotable gate, but an attempt
may be sent to repair, or the package blocked, with a promotable gate when the
reviewer did not approve (`outcome_gate`). A check that did not pass is noticed when
no check before it has its id (`closes_on_passed_iff`).
-/
namespace V3Aidlc.LeadOutcomes
open V3Aidlc.Loops V3Aidlc.Effects V3Aidlc.Groups V3Aidlc.WorkPackages V3Aidlc.ProjectLead V3Aidlc.VerificationGates
open V3Aidlc.LeadTraces V3Aidlc.Verification

/-! ### Recorded gates -/

def gates (events : List Event) : List GateEvaluation :=
  events.filterMap (fun
    | .recordedGate _ _ _ gate => some gate
    | _ => none)

theorem gates_append (events more : List Event) : gates (events ++ more) = gates events ++ gates more :=
  List.filterMap_append

section
variable (input : RunInput)

theorem attempt_gates (number : Nat) (priorGate : Option GateEvaluation) (attempt : Attempt) :
    gates (attempt_events input number priorGate attempt) = [attempt.gate input] := by
  have quiet : ∀ checks results, gates (check_events input attempt.execution.revision checks results) = [] := by
    intro checks results
    unfold check_events
    induction checks.zip results with
    | nil => rfl
    | cons pair rest ih =>
      rw [List.flatMap_cons,gates_append,ih]
      rfl
  unfold attempt_events
  rw [gates_append,gates_append,quiet]
  rfl

/-- Each attempt records its gate. -/
theorem rounds_gates (budget number : Nat) (priorGate : Option GateEvaluation) (tried : List Attempt) :
    gates (rounds input budget number priorGate tried) = tried.map (fun attempt => attempt.gate input) := by
  induction tried generalizing number priorGate with
  | nil => rfl
  | cons attempt rest ih =>
    have repairs : gates (repair_events input budget number attempt) = [] := by
      unfold repair_events
      split <;> rfl
    unfold rounds
    rw [gates_append,gates_append,attempt_gates,repairs,ih]
    rfl

end

variable {σ : Type}

/-- The outcome carries the gate recorded last. It is promotable when the package
    is closed; an attempt that did not close the package had a gate that is not
    promotable or a reviewer who did not approve. -/
theorem outcome_gate (lead : ProjectLeadOrchestrator σ) (input : RunInput) (world : σ) {budget : Nat}
    (valid : repair_budget input = some budget) {outcome : LifecycleOutcome} {after : Run (Watched σ)}
    (ran : run (watched lead) input (start ⟨world,[]⟩) = (.ok outcome,after)) :
    ∃ tried ending, Lifecycle input budget outcome (written after) tried ending ∧
      gates (written after) = tried.map (fun attempt => attempt.gate input) ∧
      (gates (written after)).getLast? = some outcome.gate ∧
      (outcome.status = .closed → outcome.gate.promotable = true ∧
        ∀ attempt ∈ tried.dropLast, (attempt.gate input).promotable = true → attempt.review.approved = false) ∧
      (outcome.status = .blocked →
        ∀ attempt ∈ tried, (attempt.gate input).promotable = true → attempt.review.approved = false) := by
  have promises : Promises lead (fun _ _ => True) := fun _ _ _ _ _ => trivial
  obtain ⟨tried,ending,same,delivers⟩ := run_delivers input promises world valid ran
  have lifecycle := delivered_lifecycle same delivers
  have refused : ∀ {attempt : Attempt}, ¬ attempt.Successful input → (attempt.gate input).promotable = true →
      attempt.review.approved = false := by
    intro attempt unsuccessful promotable
    exact Bool.not_eq_true _ ▸ fun approved => unsuccessful ⟨promotable,approved⟩
  have recorded : ∀ {last}, ending = last → gates last = [] →
      gates (written after) = tried.map (fun attempt => attempt.gate input) := by
    rintro _ rfl quiet
    have parts : written after = [.entered input.workPackageId .eligible none] ++ rounds input budget 0 none tried ++
      ending := same
    rw [parts,gates_append,gates_append,rounds_gates,quiet,List.append_nil]
    rfl
  refine ⟨tried,ending,lifecycle,?_⟩
  rcases lifecycle.ended with ⟨closes,_⟩ | ⟨_,blocks,_⟩
  · obtain ⟨before,attempt,rfl,earlier,successful,rfl,closing⟩ := closes.last
    have all := recorded closing rfl
    refine ⟨all,by rw [all]; simp,fun _ => ⟨successful.1,?_⟩,fun impossible => by cases impossible⟩
    intro other member
    rw [List.dropLast_concat] at member
    exact refused (earlier other member)
  · have all := recorded blocks.ending rfl
    refine ⟨all,?_,?_,fun _ attempt member => refused (blocks.unsuccessful attempt member)⟩
    · have nonempty : tried ≠ [] := List.length_pos_iff.mp lifecycle.some_attempt
      rw [all,List.getLast?_map,blocks.blocked,List.getLast?_eq_getLast_of_ne_nil nonempty]
      rfl
    · intro impossible
      rw [blocks.blocked] at impossible
      cases impossible

/-! A reviewer who writes "approved" into the evidence and does not approve. -/

def hesitant_lead : ProjectLeadOrchestrator Unit :=
  { steady_lead with
    review := fun input =>
      pure ⟨false,"changes requested",⟨"EVID-2",input.revision,"review-team",["approved"]⟩⟩ }

def single_attempt : RunInput := { steady_input with maxRepairAttempts := some (.finite 0) }

/-- The package is blocked while the gate recorded last is promotable, with no
    reasons. -/
theorem blocked_promotable : Returning hesitant_lead ∧ ∃ outcome after,
    run (watched hesitant_lead) single_attempt (start ⟨(),[]⟩) = (.ok outcome,after) ∧ outcome.status = .blocked ∧
      outcome.gate.promotable = true ∧ outcome.gate.reasons = [] ∧
      (gates (written after)).getLast? = some outcome.gate := by
  have returning : Returning hesitant_lead := ⟨fun _ => total_pure _,fun _ => total_pure _,fun _ => total_pure _,
    fun _ _ _ => total_pure _,fun _ _ => total_pure _,fun _ _ _ _ => total_pure _⟩
  exact ⟨returning,_,_,rfl,rfl,rfl,rfl,rfl⟩

theorem outcome_gate_hesitant : ∃ outcome after tried ending,
    run (watched hesitant_lead) single_attempt (start ⟨(),[]⟩) = (.ok outcome,after) ∧
      Lifecycle single_attempt 0 outcome (written after) tried ending ∧
      ∀ attempt ∈ tried, (attempt.gate single_attempt).promotable = true → attempt.review.approved = false := by
  obtain ⟨outcome,after,ran,blocked⟩ : ∃ outcome after,
    run (watched hesitant_lead) single_attempt (start ⟨(),[]⟩) = (.ok outcome,after) ∧ outcome.status = .blocked :=
      ⟨_,_,rfl,rfl⟩
  have valid : repair_budget single_attempt = some 0 := by decide
  obtain ⟨tried,ending,lifecycle,_,_,_,refused⟩ := outcome_gate hesitant_lead single_attempt () valid ran
  exact ⟨outcome,after,tried,ending,ran,lifecycle,refused blocked⟩

/-! ### The checks of the last attempt -/

/-- The results of the checks run since the last execution. -/
def collect (results : List CheckResult) (events : List Event) : List CheckResult :=
  events.foldl (fun
    | _,.executed _ _ => []
    | results,.verified _ result => results ++ [result]
    | results,_ => results) results

def last_results (events : List Event) : List CheckResult := collect [] events

theorem collect_append (results : List CheckResult) (events more : List Event) :
    collect results (events ++ more) = collect (collect results events) more := List.foldl_append

theorem collect_checks (input : RunInput) (revision : String) (results : List CheckResult)
    {checks : List CheckDefinition} {new : List CheckResult} (lengths : checks.length = new.length) :
    collect results (check_events input revision checks new) = results ++ new := by
  induction checks generalizing results new with
  | nil =>
    obtain rfl : new = [] := List.length_eq_zero_iff.mp lengths.symm
    simp [check_events,collect]
  | cons definition rest ih =>
    cases new with
    | nil => cases lengths
    | cons result new =>
      have later := ih (results ++ [result]) (Nat.succ_inj.mp lengths)
      rw [List.append_assoc] at later
      exact later

theorem collect_attempt (input : RunInput) (results : List CheckResult) (number : Nat)
    (priorGate : Option GateEvaluation) {attempt : Attempt} (checked : attempt.results.length = input.checks.length) :
    collect results (attempt_events input number priorGate attempt) = attempt.results := by
  unfold attempt_events
  rw [collect_append,collect_append]
  have executed : collect results [.entered input.workPackageId .running
      (some { attempt := some number, kind := some (kind_text number) }),
    .executed ⟨input.projectId,input.workPackageId,input.objective,number,kind_text number,priorGate⟩ attempt.execution,
    .entered input.workPackageId .verifying (about number attempt)] = [] := rfl
  rw [executed,collect_checks input _ _ checked.symm]
  rfl

theorem collect_repair (input : RunInput) (results : List CheckResult) (budget number : Nat) (attempt : Attempt) :
    collect results (repair_events input budget number attempt) = results := by
  unfold repair_events
  split <;> rfl

/-- After some attempts the results are those of the last. -/
theorem collect_rounds (input : RunInput) (results : List CheckResult) (budget number : Nat)
    (priorGate : Option GateEvaluation) (before : List Attempt) {last : Attempt}
    (checked : ∀ attempt ∈ before ++ [last], attempt.results.length = input.checks.length) :
    collect results (rounds input budget number priorGate (before ++ [last])) = last.results := by
  induction before generalizing results number priorGate with
  | nil =>
    simp only [List.nil_append,rounds,List.append_nil,collect_append,collect_repair]
    exact collect_attempt input results number priorGate (checked last (by simp))
  | cons first before ih =>
    simp only [List.cons_append,rounds,collect_append]
    exact ih _ _ _ (fun attempt member => checked attempt (List.mem_cons_of_mem _ member))

/-- Whatever a command does and whatever the other ports do, a package is closed
    only on an attempt all of whose checks passed. -/
def ClosesOnPassed (input : RunInput) : Prop :=
  ∀ (σ : Type) (lead : ProjectLeadOrchestrator σ) (executor : CommandExecutor σ) (clock : Proc σ Thrown Int) (world : σ)
    (outcome : LifecycleOutcome) (after : Run (Watched σ)),
    lead.verification = VerificationEngine.run executor clock →
    run (watched lead) input (start ⟨world,[]⟩) = (.ok outcome,after) → outcome.status = .closed →
    ∀ result ∈ last_results (written after), result.status = .passed

theorem engine_promises {lead : ProjectLeadOrchestrator σ} {executor : CommandExecutor σ} {clock : Proc σ Thrown Int}
    (engine : lead.verification = VerificationEngine.run executor clock) :
    Promises lead (fun definition result => result.checkId = definition.id) := by
  intro input s result s' ran
  rw [engine] at ran
  obtain ⟨_,_,_,ran⟩ := bind_returns.mp ran
  obtain ⟨_,_,_,ran⟩ := bind_returns.mp ran
  obtain ⟨rfl,_⟩ := pure_returns.mp ran
  rfl

/-- Under distinct ids each result is the one its rule looks at. -/
theorem distinct_passed {checks : List CheckDefinition} {results : List CheckResult} {revision group : String}
    {review : Option EvidenceRecord} (distinct : (checks.map CheckDefinition.id).Nodup)
    (named : List.Forall₂ (fun definition result => result.checkId = definition.id) checks results)
    (clean : Clean revision group (checks.map (fun definition => ⟨definition.id,true,false⟩)) results review) :
    ∀ result ∈ results, result.status = .passed := by
  intro result member
  have ids : results.map CheckResult.checkId = checks.map CheckDefinition.id := by
    refine List.forall₂_eq_eq_eq ▸ ?_
    rw [List.forall₂_map_left_iff,List.forall₂_map_right_iff]
    exact named.flip
  have found : results.find? (fun other => other.checkId = result.checkId) = some result :=
    find_keyed CheckResult.checkId (ids ▸ distinct) member
  obtain ⟨definition,inside,same⟩ : ∃ definition ∈ checks, definition.id = result.checkId :=
    List.mem_map.mp (ids ▸ List.mem_map_of_mem member)
  refine (clean.passed ⟨definition.id,true,false⟩ (List.mem_map_of_mem inside) result ?_).1
  unfold used
  rw [← found,same]

theorem closes_of_distinct {input : RunInput} {budget : Nat} (valid : repair_budget input = some budget)
    (distinct : (input.checks.map CheckDefinition.id).Nodup) : ClosesOnPassed input := by
  intro σ lead executor clock world outcome after engine ran closed
  obtain ⟨tried,ending,same,delivers⟩ := run_delivers input (engine_promises engine) world valid ran
  have lifecycle := delivered_lifecycle same delivers
  rcases lifecycle.ended with ⟨closes,_⟩ | ⟨_,blocks,_⟩
  · obtain ⟨before,attempt,rfl,_,successful,_,closing⟩ := closes.last
    have results : last_results (written after) = attempt.results := by
      have parts : written after = [.entered input.workPackageId .eligible none] ++
        rounds input budget 0 none (before ++ [attempt]) ++ ending := same
      unfold last_results
      rw [parts,collect_append,collect_append,collect_rounds input _ _ _ _ _ lifecycle.checked,closing]
      rfl
    rw [results]
    exact distinct_passed distinct (delivers.1 attempt (by simp)) ((promotable_iff _ _ _ _ _).mp successful.1)
  · rw [blocks.blocked] at closed
    cases closed

/-! ### A failure behind an equal id -/

/-- Every command succeeds, but for the one that runs after `place` others. -/
def fails_at (place : Nat) : CommandExecutor Nat := fun _ _ _ count =>
  (.ok ⟨some (if count = place then 1 else 0),"","",false⟩,count + 1)

def failing_lead (place : Nat) : ProjectLeadOrchestrator Nat where
  execution _ := pure ⟨"rev-0","builder","build-team","done"⟩
  verification := VerificationEngine.run (fails_at place) (pure 0)
  review input := pure ⟨true,"reviewed",⟨"EVID-REVIEW",input.revision,"review-team",["approved"]⟩⟩
  store := {
    transition := fun _ _ _ => pure ()
    recordEvidence := fun _ _ => pure ()
    recordGate := fun _ _ _ _ => pure () }

/-- The result of a check that runs after `count` others. -/
def check_outcome (input : RunInput) (place count : Nat) (definition : CheckDefinition) : CheckResult :=
  (verified ⟨definition,input.repositoryPath,input.workPackageId,"rev-0"⟩ none 0
    ⟨some (if count = place then 1 else 0),"","",false⟩).result

def check_outcomes (input : RunInput) (place : Nat) : Nat → List CheckDefinition → List CheckResult
  | _,[] => []
  | count,definition :: rest =>
    check_outcome input place count definition :: check_outcomes input place (count + 1) rest

theorem check_outcomes_append (input : RunInput) (place count : Nat) (front back : List CheckDefinition) :
    check_outcomes input place count (front ++ back) =
      check_outcomes input place count front ++ check_outcomes input place (count + front.length) back := by
  induction front generalizing count with
  | nil => rfl
  | cons definition front ih =>
    rw [List.cons_append,check_outcomes,ih,List.length_cons,Nat.add_assoc,Nat.add_comm 1]
    rfl

theorem check_outcomes_length (input : RunInput) (place count : Nat) (checks : List CheckDefinition) :
    (check_outcomes input place count checks).length = checks.length := by
  induction checks generalizing count with
  | nil => rfl
  | cons definition rest ih => simp [check_outcomes,ih]

/-- A result of the check, passed for the revision. -/
def Passes (definition : CheckDefinition) (result : CheckResult) : Prop :=
  result.checkId = definition.id ∧ result.status = .passed ∧ result.evidence.subjectRevision = "rev-0"

/-- Away from the place each check passes. -/
theorem check_outcomes_passed {input : RunInput} {place count : Nat} {checks : List CheckDefinition}
    (away : place < count ∨ count + checks.length ≤ place) :
    List.Forall₂ Passes checks (check_outcomes input place count checks) := by
  induction checks generalizing count with
  | nil => exact .nil
  | cons definition rest ih =>
    rw [List.length_cons] at away
    have other : count ≠ place := by omega
    refine .cons ⟨rfl,?_,rfl⟩ (ih (by omega))
    simp [check_outcome,VerifiedCheck.result,verified,check_status,other]

theorem run_checks_outcomes (input : RunInput) (place : Nat) (checks : List CheckDefinition)
    (results : List CheckResult)
    (reports : List Report) (count : Nat) (events : List Event) :
    run_checks (watched (failing_lead place)) input "rev-0" results checks ⟨reports,⟨count,events⟩⟩ =
      (.ok (results ++ check_outcomes input place count checks),
        ⟨reports,⟨count + checks.length,
          events ++ check_events input "rev-0" checks (check_outcomes input place count checks)⟩⟩) := by
  induction checks generalizing results count events with
  | nil => simp [run_checks,check_outcomes,check_events,pure_run]
  | cons definition rest ih =>
    let check : VerificationInput := ⟨definition,input.repositoryPath,input.workPackageId,"rev-0"⟩
    let result := check_outcome input place count definition
    have verifies : onWorld ((watched (failing_lead place)).verification check) ⟨reports,⟨count,events⟩⟩ =
        (.ok result,⟨reports,⟨count + 1,events ++ [.verified check result]⟩⟩) := rfl
    have records : onWorld ((watched (failing_lead place)).store.recordEvidence input.workPackageId result.evidence)
        ⟨reports,⟨count + 1,events ++ [.verified check result]⟩⟩ =
          (.ok (),⟨reports,⟨count + 1,events ++ [.verified check result] ++
            [.recordedEvidence input.workPackageId result.evidence]⟩⟩) := rfl
    unfold run_checks
    rw [bind_run_ok verifies,bind_run_ok records,ih]
    simp [check_outcomes,check_events,check,result,Nat.add_assoc,Nat.add_comm 1]

theorem report_run (input : RunInput) (place : Nat) (state : ExecutionState) (details : Option Details)
    (reports : List Report) (count : Nat) (events : List Event) :
    report (watched (failing_lead place)) input state details ⟨reports,⟨count,events⟩⟩ =
      (.ok (),⟨reports ++ [⟨state,details⟩],⟨count,events ++ [.entered input.workPackageId state details]⟩⟩) := rfl

theorem execution_run (place : Nat) (execution : ExecutionInput) (reports : List Report) (count : Nat)
    (events : List Event) :
    onWorld ((watched (failing_lead place)).execution execution) ⟨reports,⟨count,events⟩⟩ =
      (.ok ⟨"rev-0","builder","build-team","done"⟩,
        ⟨reports,⟨count,events ++ [.executed execution ⟨"rev-0","builder","build-team","done"⟩]⟩⟩) := rfl

theorem review_run (place : Nat) (review : ReviewInput) (reports : List Report) (count : Nat) (events : List Event) :
    onWorld ((watched (failing_lead place)).review review) ⟨reports,⟨count,events⟩⟩ =
      (.ok ⟨true,"reviewed",⟨"EVID-REVIEW",review.revision,"review-team",["approved"]⟩⟩,
        ⟨reports,⟨count,events ++
          [.reviewed review ⟨true,"reviewed",⟨"EVID-REVIEW",review.revision,"review-team",["approved"]⟩⟩]⟩⟩) := rfl

theorem recordEvidence_run (place : Nat) (id : String) (evidence : EvidenceRecord) (reports : List Report) (count : Nat)
    (events : List Event) :
    onWorld ((watched (failing_lead place)).store.recordEvidence id evidence) ⟨reports,⟨count,events⟩⟩ =
      (.ok (),⟨reports,⟨count,events ++ [.recordedEvidence id evidence]⟩⟩) := rfl

theorem recordGate_run (place : Nat) (id revision : String) (number : Nat) (gate : GateEvaluation)
    (reports : List Report) (count : Nat) (events : List Event) :
    onWorld ((watched (failing_lead place)).store.recordGate id revision number gate) ⟨reports,⟨count,events⟩⟩ =
      (.ok (),⟨reports,⟨count,events ++ [.recordedGate id revision number gate]⟩⟩) := rfl

/-- The only attempt of the failing lead. -/
def failing_attempt (input : RunInput) (place : Nat) : Attempt where
  execution := ⟨"rev-0","builder","build-team","done"⟩
  results := check_outcomes input place 0 input.checks
  review := ⟨true,"reviewed",⟨"EVID-REVIEW","rev-0","review-team",["approved"]⟩⟩

/-- Its run, when the gate promotes it. -/
theorem failing_run {input : RunInput} {budget : Nat} (valid : repair_budget input = some budget) {place : Nat}
    (promotable : ((failing_attempt input place).gate input).promotable = true) :
    ∃ outcome after, run (watched (failing_lead place)) input (start ⟨0,[]⟩) = (.ok outcome,after) ∧
      outcome.status = .closed ∧ last_results (written after) = check_outcomes input place 0 input.checks := by
  have promoted : (evaluateGate "rev-0" "build-team" (input.checks.map (fun definition => ⟨definition.id,true,false⟩))
      ([] ++ check_outcomes input place 0 input.checks)
      (some ⟨"EVID-REVIEW","rev-0","review-team",["approved"]⟩)).promotable = true := promotable
  unfold run start
  simp only [valid]
  rw [bind_run_ok (report_run _ _ _ _ _ _ _)]
  unfold attempts
  dsimp only
  rw [bind_run_ok (report_run _ _ _ _ _ _ _),bind_run_ok (execution_run _ _ _ _ _),
    bind_run_ok (report_run _ _ _ _ _ _ _),bind_run_ok (run_checks_outcomes _ _ _ _ _ _ _),
    bind_run_ok (report_run _ _ _ _ _ _ _),bind_run_ok (review_run _ _ _ _ _),
    bind_run_ok (recordEvidence_run _ _ _ _ _ _),bind_run_ok (recordGate_run _ _ _ _ _ _ _ _),
    if_pos (by rw [promoted]; rfl),bind_run_ok (report_run _ _ _ _ _ _ _),bind_run_ok (report_run _ _ _ _ _ _ _)]
  refine ⟨_,_,rfl,rfl,?_⟩
  unfold last_results written
  simp only [collect_append,collect_checks input _ _ (check_outcomes_length input place 0 input.checks).symm]
  simp [collect]

/-- With the id of an earlier check a failure is not looked at. -/
theorem failing_promotable {input : RunInput} {front back : List CheckDefinition} {second : CheckDefinition}
    (split : input.checks = front ++ second :: back) (repeated : second.id ∈ front.map CheckDefinition.id) :
    ((failing_attempt input front.length).gate input).promotable = true := by
  have results : check_outcomes input front.length 0 input.checks =
      check_outcomes input front.length 0 front ++ (check_outcome input front.length front.length second ::
        check_outcomes input front.length (front.length + 1) back) := by
    rw [split,check_outcomes_append,Nat.zero_add]
    rfl
  have ahead : List.Forall₂ Passes front (check_outcomes input front.length 0 front) :=
    check_outcomes_passed (.inr (by omega))
  have behind : List.Forall₂ Passes back (check_outcomes input front.length (front.length + 1) back) :=
    check_outcomes_passed (.inl (by omega))
  obtain ⟨earlier,earlierMember,sameId⟩ := List.mem_map.mp repeated
  obtain ⟨first,firstMember,firstPasses⟩ := forall₂_left ahead earlier earlierMember
  unfold Attempt.gate failing_attempt
  rw [promotable_iff,results]
  refine ⟨?_,?_,_,rfl,rfl,List.mem_singleton.mpr rfl,by simp⟩
  · intro rule ruled _
    obtain ⟨definition,member,rfl⟩ := List.mem_map.mp ruled
    rw [split,List.mem_append,List.mem_cons] at member
    rcases member with before | rfl | after
    · obtain ⟨result,inside,passes⟩ := forall₂_left ahead definition before
      exact used_of_named ⟨List.mem_append_left _ inside,passes.1⟩
    · exact used_of_named ⟨List.mem_append_left _ firstMember,firstPasses.1.trans sameId⟩
    · obtain ⟨result,inside,passes⟩ := forall₂_left behind definition after
      exact used_of_named ⟨List.mem_append_right _ (List.mem_cons_of_mem _ inside),passes.1⟩
  · intro rule _ result looked
    unfold used at looked
    rw [List.find?_append] at looked
    cases found : (check_outcomes input front.length 0 front).find? (fun result => result.checkId = rule.checkId) with
    | some taken =>
      rw [found,Option.some_or,Option.some.injEq] at looked
      obtain ⟨_,_,passes⟩ := forall₂_left ahead.flip result (looked ▸ List.mem_of_find?_eq_some found)
      exact passes.2
    | none =>
      have other : (check_outcome input front.length front.length second).checkId ≠ rule.checkId := by
        intro (same : second.id = rule.checkId)
        have missed := List.find?_eq_none.mp found first firstMember
        exact missed (by simpa using (firstPasses.1.trans sameId).trans same)
      rw [found,Option.none_or,List.find?_cons_of_neg (by simpa using other)] at looked
      obtain ⟨_,_,passes⟩ := forall₂_left behind.flip result (List.mem_of_find?_eq_some looked)
      exact passes.2

/-- A package is closed only on passed checks exactly when the checks have
    distinct ids, or the budget is refused. -/
theorem closes_on_passed_iff (input : RunInput) :
    ClosesOnPassed input ↔ (repair_budget input ≠ none → (input.checks.map CheckDefinition.id).Nodup) := by
  constructor
  · intro sound accepted
    obtain ⟨budget,valid⟩ := Option.ne_none_iff_exists'.mp accepted
    by_contra equal
    obtain ⟨front,second,back,split,repeated⟩ := repeated_key equal
    obtain ⟨outcome,after,ran,closed,results⟩ := failing_run valid (failing_promotable split repeated)
    have failed : check_outcome input front.length front.length second ∈ last_results (written after) := by
      rw [results,split,check_outcomes_append,Nat.zero_add]
      exact List.mem_append_right _ List.mem_cons_self
    have passed := sound Nat (failing_lead front.length) (fails_at front.length) (pure 0) 0 outcome after rfl ran closed
      _ failed
    simp [check_outcome,VerifiedCheck.result,verified,check_status] at passed
  · intro distinct
    cases valid : repair_budget input with
    | some budget => exact closes_of_distinct valid (distinct (by simp [valid]))
    | none =>
      intro σ lead executor clock world outcome after _ ran
      unfold run at ran
      rw [valid] at ran
      cases ran

/-- No result masks another exactly when the results of each rule agree; and no
    check that did not pass is overlooked exactly when the checks have distinct ids. -/
theorem unmasked_iff (subjectRevision producerIndependenceGroup : String) (rules : List GateRule)
    (results : List CheckResult) (reviewEvidence : Option EvidenceRecord) (input : RunInput) :
    (NoMask subjectRevision producerIndependenceGroup rules results reviewEvidence ↔
      Agreeing subjectRevision rules results reviewEvidence) ∧
    (ClosesOnPassed input ↔ (repair_budget input ≠ none → (input.checks.map CheckDefinition.id).Nodup)) :=
  ⟨order_free_iff producerIndependenceGroup,closes_on_passed_iff input⟩

/-- A check that passed hides a failed one with its id. -/
theorem failure_masked :
    let passed : CheckResult := ⟨"CHECK-UNIT",.passed,⟨"EVID-1","rev-1","deterministic-runtime",["Unit: passed"]⟩⟩
    let failed : CheckResult := ⟨"CHECK-UNIT",.failed,⟨"EVID-2","rev-1","deterministic-runtime",["Unit: failed"]⟩⟩
    ¬ NoMask "rev-1" "build-team" [⟨"CHECK-UNIT",true,false⟩] [passed,failed]
      (some ⟨"EVID-3","rev-1","review-team",["approved"]⟩) := by
  intro passed failed unmasked
  have refused := unmasked.heard failed (by simp) ⟨_,List.mem_cons_self,rfl⟩ (.inl rfl)
  have promoted : (evaluateGate "rev-1" "build-team" [⟨"CHECK-UNIT",true,false⟩] [passed,failed]
    (some ⟨"EVID-3","rev-1","review-team",["approved"]⟩)).promotable = true := by decide
  rw [promoted] at refused
  cases refused

end V3Aidlc.LeadOutcomes
