import V3Aidlc.VerificationGates

/-!
What a run of the project-lead loop does, call by call. The ports and the store are
watched: each call that returns is written down with what it returned. Watching does
not change a run (`watching_changes_nothing`), and what is written down of a run that
returned is its attempts, one after the other, and an ending (`run_delivers`).
-/
namespace V3Aidlc.LeadTraces
open V3Aidlc.Effects V3Aidlc.WorkPackages V3Aidlc.ProjectLead V3Aidlc.VerificationGates

/-- A call that returned. -/
inductive Event where
  | entered (workPackageId : String) (state : ExecutionState) (details : Option Details)
  | executed (input : ExecutionInput) (result : ExecutionResult)
  | verified (input : VerificationInput) (result : CheckResult)
  | reviewed (input : ReviewInput) (result : ReviewResult)
  | recordedEvidence (workPackageId : String) (evidence : EvidenceRecord)
  | recordedGate (workPackageId revision : String) (attempt : Nat) (gate : GateEvaluation)

/-- The world of the ports, and the calls so far. -/
structure Watched (σ : Type) where
  world : σ
  events : List Event

variable {σ α : Type}

def watch (m : Proc σ Thrown α) (event : α → Event) : Proc (Watched σ) Thrown α := fun watched =>
  match m watched.world with
  | (.ok a,world) => (.ok a,⟨world,watched.events ++ [event a]⟩)
  | (.error thrown,world) => (.error thrown,⟨world,watched.events⟩)

/-- The same ports and store, watched. -/
def watched (lead : ProjectLeadOrchestrator σ) : ProjectLeadOrchestrator (Watched σ) where
  execution input := watch (lead.execution input) (.executed input)
  verification input := watch (lead.verification input) (.verified input)
  review input := watch (lead.review input) (.reviewed input)
  store := {
    transition := fun id state details => watch (lead.store.transition id state details)
      (fun _ => .entered id state details)
    recordEvidence := fun id evidence => watch (lead.store.recordEvidence id evidence)
      (fun _ => .recordedEvidence id evidence)
    recordGate := fun id revision attempt gate => watch (lead.store.recordGate id revision attempt gate)
      (fun _ => .recordedGate id revision attempt gate) }

/-! ### Watching changes nothing -/

/-- The run without what was written down. -/
def unwatched (run : Run (Watched σ)) : Run σ := ⟨run.reports,run.world.world⟩

theorem watch_simulates (m : Proc σ Thrown α) (event : α → Event) :
    Simulates unwatched (onWorld (watch m event)) (onWorld m) := by
  intro run
  unfold onWorld watch unwatched
  rcases m run.world.world with ⟨thrown | a,world⟩ <;> rfl

theorem report_simulates (lead : ProjectLeadOrchestrator σ) (input : RunInput) (state : ExecutionState)
    (details : Option Details) :
    Simulates unwatched (report (watched lead) input state details) (report lead input state details) :=
  simulates_bind (fun _ => rfl) (fun _ => watch_simulates _ _)

theorem run_checks_simulates (lead : ProjectLeadOrchestrator σ) (input : RunInput) (revision : String)
    (results : List CheckResult) (checks : List CheckDefinition) :
    Simulates unwatched (run_checks (watched lead) input revision results checks)
      (run_checks lead input revision results checks) := by
  induction checks generalizing results with
  | nil => exact simulates_pure _
  | cons definition rest ih =>
    exact simulates_bind (watch_simulates _ _) (fun _ => simulates_bind (watch_simulates _ _) (fun _ => ih _))

theorem attempts_simulates (lead : ProjectLeadOrchestrator σ) (input : RunInput) (budget remaining attempt : Nat)
    (priorGate : Option GateEvaluation) (latestRevision : String) :
    Simulates unwatched (attempts (watched lead) input budget remaining attempt priorGate latestRevision)
      (attempts lead input budget remaining attempt priorGate latestRevision) := by
  induction remaining generalizing attempt priorGate latestRevision with
  | zero => exact simulates_bind (report_simulates _ _ _ _) (fun _ => simulates_pure _)
  | succ remaining ih =>
    unfold attempts
    refine simulates_bind (report_simulates _ _ _ _) (fun _ => ?_)
    refine simulates_bind (watch_simulates _ _) (fun execution => ?_)
    refine simulates_bind (report_simulates _ _ _ _) (fun _ => ?_)
    refine simulates_bind (run_checks_simulates _ _ _ _ _) (fun results => ?_)
    refine simulates_bind (report_simulates _ _ _ _) (fun _ => ?_)
    refine simulates_bind (watch_simulates _ _) (fun review => ?_)
    refine simulates_bind (watch_simulates _ _) (fun _ => ?_)
    refine simulates_bind (watch_simulates _ _) (fun _ => ?_)
    split
    · refine simulates_bind (report_simulates _ _ _ _) (fun _ => ?_)
      exact simulates_bind (report_simulates _ _ _ _) (fun _ => simulates_pure _)
    · split
      · exact simulates_bind (report_simulates _ _ _ _) (fun _ => ih _ _ _)
      · exact ih _ _ _

/-- A watched run goes as the run itself. -/
theorem watching_changes_nothing (lead : ProjectLeadOrchestrator σ) (input : RunInput) :
    Simulates unwatched (run (watched lead) input) (run lead input) := by
  unfold run
  cases repair_budget input with
  | none => exact fun _ => rfl
  | some budget => exact simulates_bind (report_simulates _ _ _ _) (fun _ => attempts_simulates _ _ _ _ _ _ _)

/-! ### Ports that return -/

/-- Neither a port nor the store throws: each of their calls returns. -/
structure Returning (lead : ProjectLeadOrchestrator σ) : Prop where
  execution : ∀ input, Total (lead.execution input)
  verification : ∀ input, Total (lead.verification input)
  review : ∀ input, Total (lead.review input)
  transition : ∀ id state details, Total (lead.store.transition id state details)
  recordEvidence : ∀ id evidence, Total (lead.store.recordEvidence id evidence)
  recordGate : ∀ id revision attempt gate, Total (lead.store.recordGate id revision attempt gate)

theorem total_onWorld {m : Proc σ Thrown α} (total : Total m) : Total (onWorld m) := by
  intro run
  obtain ⟨a,world,ran⟩ := total run.world
  exact ⟨a,⟨run.reports,world⟩,by simp [onWorld,ran]⟩

section
variable {lead : ProjectLeadOrchestrator σ} (returning : Returning lead) (input : RunInput)
include returning

theorem total_report (state : ExecutionState) (details : Option Details) : Total (report lead input state details) :=
  total_bind (total_modify _) (fun _ => total_onWorld (returning.transition _ _ _))

theorem total_run_checks (revision : String) (results : List CheckResult) (checks : List CheckDefinition) :
    Total (run_checks lead input revision results checks) := by
  induction checks generalizing results with
  | nil => exact total_pure _
  | cons definition rest ih =>
    exact total_bind (total_onWorld (returning.verification _)) (fun _ =>
      total_bind (total_onWorld (returning.recordEvidence _ _)) (fun _ => ih _))

theorem total_attempts (budget remaining attempt : Nat) (priorGate : Option GateEvaluation) (latestRevision : String) :
    Total (attempts lead input budget remaining attempt priorGate latestRevision) := by
  induction remaining generalizing attempt priorGate latestRevision with
  | zero => exact total_bind (total_report returning input _ _) (fun _ => total_pure _)
  | succ remaining ih =>
    unfold attempts
    refine total_bind (total_report returning input _ _) (fun _ => ?_)
    refine total_bind (total_onWorld (returning.execution _)) (fun execution => ?_)
    refine total_bind (total_report returning input _ _) (fun _ => ?_)
    refine total_bind (total_run_checks returning input _ _ _) (fun results => ?_)
    refine total_bind (total_report returning input _ _) (fun _ => ?_)
    refine total_bind (total_onWorld (returning.review _)) (fun review => ?_)
    refine total_bind (total_onWorld (returning.recordEvidence _ _)) (fun _ => ?_)
    refine total_bind (total_onWorld (returning.recordGate _ _ _ _)) (fun _ => ?_)
    split
    · refine total_bind (total_report returning input _ _) (fun _ => ?_)
      exact total_bind (total_report returning input _ _) (fun _ => total_pure _)
    · split
      · exact total_bind (total_report returning input _ _) (fun _ => ih _ _ _)
      · exact ih _ _ _

/-- With a valid budget and ports that return, a run returns. -/
theorem total_run {budget : Nat} (valid : repair_budget input = some budget) : Total (run lead input) := by
  unfold run
  rw [valid]
  exact total_bind (total_report returning input _ _) (fun _ => total_attempts returning input _ _ _ _ _)

end

/-! ### Attempts -/

/-- What the ports returned in one attempt. -/
structure Attempt where
  execution : ExecutionResult
  results : List CheckResult
  review : ReviewResult

section
variable (input : RunInput)

/-- The gate that an attempt is put before, for the revision it produced. -/
def Attempt.gate (attempt : Attempt) : GateEvaluation :=
  evaluateGate attempt.execution.revision attempt.execution.producerIndependenceGroup
    (input.checks.map (fun definition => ⟨definition.id,true,false⟩)) attempt.results (some attempt.review.evidence)

def Attempt.Successful (attempt : Attempt) : Prop :=
  (attempt.gate input).promotable = true ∧ attempt.review.approved = true

instance (attempt : Attempt) : Decidable (attempt.Successful input) := inferInstanceAs (Decidable (_ ∧ _))

def kind_text (number : Nat) : String := if number = 0 then "implementation" else "repair"

/-- One run of each check, and its evidence. -/
def check_events (revision : String) (checks : List CheckDefinition) (results : List CheckResult) : List Event :=
  (checks.zip results).flatMap (fun (definition,result) =>
    [.verified ⟨definition,input.repositoryPath,input.workPackageId,revision⟩ result,
      .recordedEvidence input.workPackageId result.evidence])

def about (number : Nat) (attempt : Attempt) : Option Details :=
  some { attempt := some number, revision := some attempt.execution.revision }

/-- One execution; then, for the revision it returned, each check, one review and
    one recorded gate. -/
def attempt_events (number : Nat) (priorGate : Option GateEvaluation) (attempt : Attempt) : List Event :=
  [.entered input.workPackageId .running (some { attempt := some number, kind := some (kind_text number) }),
    .executed ⟨input.projectId,input.workPackageId,input.objective,number,kind_text number,priorGate⟩ attempt.execution,
    .entered input.workPackageId .verifying (about number attempt)] ++
  check_events input attempt.execution.revision input.checks attempt.results ++
  [.entered input.workPackageId .reviewing (about number attempt),
    .reviewed ⟨input.projectId,input.workPackageId,input.objective,attempt.execution.revision,
      attempt.execution.producerIndependenceGroup,number⟩ attempt.review,
    .recordedEvidence input.workPackageId attempt.review.evidence,
    .recordedGate input.workPackageId attempt.execution.revision number (attempt.gate input)]

/-- A repair is asked for while the budget lasts. -/
def repair_events (budget number : Nat) (attempt : Attempt) : List Event :=
  if ¬ attempt.Successful input ∧ number < budget then
    [.entered input.workPackageId .repair_required
      (some { attempt := some number, reasons := some (attempt.gate input).reasons })]
  else []

/-- Attempt after attempt, each told the gate of the one before. -/
def rounds (budget : Nat) : Nat → Option GateEvaluation → List Attempt → List Event
  | _,_,[] => []
  | number,priorGate,attempt :: rest =>
    attempt_events input number priorGate attempt ++ repair_events input budget number attempt ++
      rounds budget (number + 1) (some (attempt.gate input)) rest

/-- The last attempt succeeded, and its revision is accepted and closed. -/
structure Closes (number : Nat) (attempts : List Attempt) (outcome : LifecycleOutcome) (ending : List Event) :
    Prop where
  last : ∃ before attempt, attempts = before ++ [attempt] ∧ (∀ earlier ∈ before, ¬ earlier.Successful input) ∧
    attempt.Successful input ∧
    outcome = ⟨.closed,attempt.execution.revision,number + before.length + 1,attempt.gate input⟩ ∧
    ending = [.entered input.workPackageId .accepted (about (number + before.length) attempt),
      .entered input.workPackageId .closed (about (number + before.length) attempt)]

/-- No attempt succeeded, and the package is blocked with the last gate. -/
structure Blocks (budget : Nat) (priorGate : Option GateEvaluation) (latestRevision : String) (attempts : List Attempt)
    (outcome : LifecycleOutcome) (ending : List Event) : Prop where
  unsuccessful : ∀ attempt ∈ attempts, ¬ attempt.Successful input
  blocked : outcome = {
    status := .blocked
    revision := (attempts.getLast?.map (fun attempt => attempt.execution.revision)).getD latestRevision
    attempts := budget + 1
    gate := (attempts.getLast?.map (fun attempt => attempt.gate input)).getD (priorGate.getD no_gate) }
  ending : ending = [.entered input.workPackageId .blocked
    (some { repairBudget := some budget, reasons := some outcome.gate.reasons })]

end

/-- The attempts tried with so many remaining, and how they ended; `promised` is
    what the verification port promises of a check's result. -/
def Delivers (promised : CheckDefinition → CheckResult → Prop) (input : RunInput) (budget remaining number : Nat)
    (priorGate : Option GateEvaluation) (latestRevision : String) (tried : List Attempt) (outcome : LifecycleOutcome)
    (ending : List Event) : Prop :=
  (∀ attempt ∈ tried, List.Forall₂ promised input.checks attempt.results) ∧
    (tried.length ≤ remaining ∧ Closes input number tried outcome ending ∨
      tried.length = remaining ∧ Blocks input budget priorGate latestRevision tried outcome ending)

theorem closes_cons {input : RunInput} {number : Nat} {first : Attempt} {attempts : List Attempt}
    {outcome : LifecycleOutcome} {ending : List Event} (unsuccessful : ¬ first.Successful input)
    (closes : Closes input (number + 1) attempts outcome ending) :
      Closes input number (first :: attempts) outcome ending := by
  obtain ⟨before,attempt,rfl,earlier,successful,rfl,rfl⟩ := closes.last
  have moved : number + 1 + before.length = number + (first :: before).length := by
    rw [List.length_cons]
    omega
  refine ⟨first :: before,attempt,rfl,?_,successful,by rw [moved],by rw [moved]⟩
  intro other member
  rcases List.mem_cons.mp member with rfl | inside
  · exact unsuccessful
  · exact earlier other inside

theorem blocks_cons {input : RunInput} {budget : Nat} {priorGate : Option GateEvaluation} {latestRevision : String}
    {first : Attempt} {attempts : List Attempt} {outcome : LifecycleOutcome} {ending : List Event}
    (unsuccessful : ¬ first.Successful input)
    (blocks : Blocks input budget (some (first.gate input)) first.execution.revision attempts outcome ending) :
    Blocks input budget priorGate latestRevision (first :: attempts) outcome ending := by
  refine ⟨?_,?_,blocks.ending⟩
  · intro other member
    rcases List.mem_cons.mp member with rfl | inside
    · exact unsuccessful
    · exact blocks.unsuccessful other inside
  · rw [blocks.blocked,List.getLast?_cons]
    cases attempts.getLast? <;> rfl

/-- An attempt that did not succeed, and what followed it. -/
theorem delivers_cons {promised : CheckDefinition → CheckResult → Prop} {input : RunInput}
    {budget remaining number : Nat} {priorGate : Option GateEvaluation} {latestRevision : String} {first : Attempt}
    {tried : List Attempt} {outcome : LifecycleOutcome} {ending : List Event} (unsuccessful : ¬ first.Successful input)
    (checked : List.Forall₂ promised input.checks first.results)
    (delivers : Delivers promised input budget remaining (number + 1) (some (first.gate input)) first.execution.revision
      tried outcome ending) :
    Delivers promised input budget (remaining + 1) number priorGate latestRevision (first :: tried) outcome ending := by
  obtain ⟨others,shape⟩ := delivers
  refine ⟨?_,?_⟩
  · intro other member
    rcases List.mem_cons.mp member with rfl | inside
    · exact checked
    · exact others other inside
  · rcases shape with ⟨few,closes⟩ | ⟨all,blocks⟩
    · exact .inl ⟨by simpa using few,closes_cons unsuccessful closes⟩
    · exact .inr ⟨by simpa using all,blocks_cons unsuccessful blocks⟩

/-! ### A run is its attempts -/

/-- The calls of a watched run. -/
def written (run : Run (Watched σ)) : List Event := run.world.events

theorem appends_watch (m : Proc σ Thrown α) (event : α → Event) :
    Appends written (onWorld (watch m event)) (fun a more => more = [event a]) := by
  intro run a after ran
  unfold onWorld watch at ran
  rcases called : m run.world.world with ⟨thrown | b,world⟩
  · simp [called] at ran
  · simp only [called,Prod.mk.injEq,Except.ok.injEq] at ran
    obtain ⟨rfl,rfl⟩ := ran
    exact ⟨[event b],rfl,rfl⟩

section
variable (lead : ProjectLeadOrchestrator σ) (input : RunInput)

theorem appends_report (state : ExecutionState) (details : Option Details) :
    Appends written (report (watched lead) input state details)
      (fun _ more => more = [.entered input.workPackageId state details]) := by
  refine appends_bind (?_ : Appends written _ (fun _ more => more = [])) ?_
  · intro run u after ran
    obtain rfl := modify_returns.mp ran
    exact ⟨[],(List.append_nil _).symm,rfl⟩
  · rintro _ _ rfl
    exact appends_watch _ _

/-- The verification port keeps a promise about each check it returns. -/
def Promises (lead : ProjectLeadOrchestrator σ) (promised : CheckDefinition → CheckResult → Prop) : Prop :=
  ∀ input s result s', lead.verification input s = (.ok result,s') → promised input.definition result

variable {lead} {promised : CheckDefinition → CheckResult → Prop} (promises : Promises lead promised)
include promises

theorem appends_verification (check : VerificationInput) :
    Appends written (onWorld ((watched lead).verification check))
      (fun result more => promised check.definition result ∧ more = [.verified check result]) := by
  intro run result after ran
  obtain ⟨more,logged,same⟩ := appends_watch _ _ _ _ _ ran
  refine ⟨more,logged,?_,same⟩
  simp only [onWorld,watched,watch] at ran
  rcases called : lead.verification check run.world.world with ⟨thrown | returned,world⟩
  · simp [called] at ran
  · simp only [called,Prod.mk.injEq,Except.ok.injEq] at ran
    obtain ⟨rfl,_⟩ := ran
    exact promises check _ _ _ called

theorem appends_run_checks (revision : String) (results : List CheckResult) (checks : List CheckDefinition) :
    Appends written (run_checks (watched lead) input revision results checks) (fun all more =>
      ∃ new, all = results ++ new ∧ List.Forall₂ promised checks new ∧
        more = check_events input revision checks new) := by
  induction checks generalizing results with
  | nil => exact appends_pure ⟨[],by simp,.nil,rfl⟩
  | cons definition rest ih =>
    refine appends_bind (appends_verification promises _) ?_
    rintro result _ ⟨kept,rfl⟩
    refine appends_bind (appends_watch _ _) ?_
    rintro _ _ rfl
    refine appends_weaken (ih (results ++ [result])) ?_
    rintro all more ⟨new,rfl,checked,rfl⟩
    exact ⟨result :: new,by simp,.cons kept checked,by simp [check_events]⟩

/-- What the attempts that remain write down. -/
theorem appends_attempts (budget remaining number : Nat) (priorGate : Option GateEvaluation) (latestRevision : String) :
    Appends written (attempts (watched lead) input budget remaining number priorGate latestRevision)
      (fun outcome more => ∃ tried ending, more = rounds input budget number priorGate tried ++ ending ∧
        Delivers promised input budget remaining number priorGate latestRevision tried outcome ending) := by
  induction remaining generalizing number priorGate latestRevision with
  | zero =>
    refine appends_bind (appends_report lead input _ _) ?_
    rintro _ _ rfl
    exact appends_pure ⟨[],_,rfl,by simp,.inr ⟨rfl,by simp,rfl,rfl⟩⟩
  | succ remaining ih =>
    unfold attempts
    refine appends_bind (appends_report lead input _ _) ?_
    rintro _ _ rfl
    refine appends_bind (appends_watch _ _) ?_
    rintro execution _ rfl
    refine appends_bind (appends_report lead input _ _) ?_
    rintro _ _ rfl
    refine appends_bind (appends_run_checks input promises _ _ _) ?_
    rintro results _ ⟨new,rfl,checked,rfl⟩
    refine appends_bind (appends_report lead input _ _) ?_
    rintro _ _ rfl
    refine appends_bind (appends_watch _ _) ?_
    rintro review _ rfl
    refine appends_bind (appends_watch _ _) ?_
    rintro _ _ rfl
    refine appends_bind (appends_watch _ _) ?_
    rintro _ _ rfl
    let attempt : Attempt := ⟨execution,results,review⟩
    refine appends_weaken (?_ : Appends written _ (fun outcome more => ∃ tried ending,
      attempt_events input number priorGate attempt ++ more = rounds input budget number priorGate tried ++ ending ∧
      Delivers promised input budget (remaining + 1) number priorGate latestRevision tried outcome ending)) ?_
    · split
      · rename_i passed
        have successful : attempt.Successful input := Bool.and_eq_true_iff.mp passed
        refine appends_bind (appends_report lead input _ _) ?_
        rintro _ _ rfl
        refine appends_bind (appends_report lead input _ _) ?_
        rintro _ _ rfl
        refine appends_pure ⟨[attempt],_,?_,by simpa [attempt] using checked,
          .inl ⟨by simp,⟨[],attempt,rfl,by simp,successful,rfl,rfl⟩⟩⟩
        simp [rounds,repair_events,successful,about,attempt]
      · rename_i refused
        have unsuccessful : ¬ attempt.Successful input := fun both => refused (Bool.and_eq_true_iff.mpr both)
        split
        · rename_i more_budget
          refine appends_bind (appends_report lead input _ _) ?_
          rintro _ _ rfl
          refine appends_weaken (ih (number + 1) (some (attempt.gate input)) attempt.execution.revision) ?_
          rintro outcome more ⟨tried,ending,rfl,delivers⟩
          refine ⟨attempt :: tried,ending,?_,delivers_cons unsuccessful checked delivers⟩
          simp [rounds,repair_events,unsuccessful,more_budget,attempt,Attempt.gate]
        · rename_i spent
          refine appends_weaken (ih (number + 1) (some (attempt.gate input)) attempt.execution.revision) ?_
          rintro outcome more ⟨tried,ending,rfl,delivers⟩
          refine ⟨attempt :: tried,ending,?_,delivers_cons unsuccessful checked delivers⟩
          simp [rounds,repair_events,spent]
    · rintro outcome more ⟨tried,ending,same,delivers⟩
      refine ⟨tried,ending,?_,delivers⟩
      rw [← same]
      simp [attempt_events,attempt,about,kind_text,Attempt.gate]

/-- What a run that returned has written down. -/
theorem run_delivers (world : σ) {budget : Nat} (valid : repair_budget input = some budget) {outcome : LifecycleOutcome}
    {after : Run (Watched σ)} (ran : run (watched lead) input (start ⟨world,[]⟩) = (.ok outcome,after)) :
    ∃ tried ending,
      written after = .entered input.workPackageId .eligible none :: (rounds input budget 0 none tried ++ ending) ∧
      Delivers promised input budget (budget + 1) 0 none "" tried outcome ending := by
  have appends : Appends written (run (watched lead) input) (fun outcome more => ∃ tried ending,
      more = .entered input.workPackageId .eligible none :: (rounds input budget 0 none tried ++ ending) ∧
      Delivers promised input budget (budget + 1) 0 none "" tried outcome ending) := by
    unfold run
    rw [valid]
    refine appends_bind (appends_report lead input _ _) ?_
    rintro _ _ rfl
    refine appends_weaken (appends_attempts input promises _ _ _ _ _) ?_
    rintro outcome more ⟨tried,ending,rfl,delivers⟩
    exact ⟨tried,ending,rfl,delivers⟩
  obtain ⟨more,same,holds⟩ := appends _ _ _ ran
  rw [same]
  exact holds

end

/-! ### The life of a package -/

def executions (events : List Event) : List ExecutionResult :=
  events.filterMap (fun
    | .executed _ result => some result
    | _ => none)

def states (events : List Event) : List ExecutionState :=
  events.filterMap (fun
    | .entered _ state _ => some state
    | _ => none)

theorem executions_append (events more : List Event) :
    executions (events ++ more) = executions events ++ executions more :=
  List.filterMap_append

theorem states_append (events more : List Event) : states (events ++ more) = states events ++ states more :=
  List.filterMap_append

section
variable (input : RunInput)

theorem check_events_quiet (revision : String) (checks : List CheckDefinition) (results : List CheckResult) :
    executions (check_events input revision checks results) = [] ∧
      states (check_events input revision checks results) = [] := by
  unfold check_events
  induction checks.zip results with
  | nil => exact ⟨rfl,rfl⟩
  | cons pair rest ih =>
    rw [List.flatMap_cons,executions_append,states_append,ih.1,ih.2]
    exact ⟨rfl,rfl⟩

theorem attempt_executions (number : Nat) (priorGate : Option GateEvaluation) (attempt : Attempt) :
    executions (attempt_events input number priorGate attempt) = [attempt.execution] := by
  unfold attempt_events
  rw [executions_append,executions_append,(check_events_quiet input _ _ _).1]
  rfl

theorem attempt_states (number : Nat) (priorGate : Option GateEvaluation) (attempt : Attempt) :
    states (attempt_events input number priorGate attempt) = [.running,.verifying,.reviewing] := by
  unfold attempt_events
  rw [states_append,states_append,(check_events_quiet input _ _ _).2]
  rfl

/-- Each attempt is one execution. -/
theorem rounds_executions (budget number : Nat) (priorGate : Option GateEvaluation) (tried : List Attempt) :
    executions (rounds input budget number priorGate tried) = tried.map Attempt.execution := by
  induction tried generalizing number priorGate with
  | nil => rfl
  | cons attempt rest ih =>
    have repairs : executions (repair_events input budget number attempt) = [] := by
      unfold repair_events
      split <;> rfl
    unfold rounds
    rw [executions_append,executions_append,attempt_executions,repairs,ih]
    rfl

/-- No attempt ends the life of the package. -/
theorem rounds_states (budget number : Nat) (priorGate : Option GateEvaluation) (tried : List Attempt) :
    ∀ state ∈ states (rounds input budget number priorGate tried), state ≠ .accepted ∧ state ≠ .closed ∧
      state ≠ .blocked := by
  induction tried generalizing number priorGate with
  | nil => simp [rounds,states]
  | cons attempt rest ih =>
    intro state member
    unfold rounds at member
    rw [states_append,states_append,attempt_states,List.mem_append,List.mem_append] at member
    rcases member with (attempted | repaired) | later
    · simp only [List.mem_cons,List.not_mem_nil,or_false] at attempted
      rcases attempted with rfl | rfl | rfl <;> decide
    · unfold repair_events at repaired
      split at repaired
      · simp only [states,List.filterMap_cons,List.filterMap_nil,List.mem_singleton] at repaired
        subst repaired
        decide
      · cases repaired
    · exact ih _ _ state later

end

/-- The life of a package in a run with this budget. -/
structure Lifecycle (input : RunInput) (budget : Nat) (outcome : LifecycleOutcome) (events : List Event)
    (tried : List Attempt) (ending : List Event) : Prop where
  trace : events = .entered input.workPackageId .eligible none :: (rounds input budget 0 none tried ++ ending)
  executed : executions events = tried.map Attempt.execution
  checked : ∀ attempt ∈ tried, attempt.results.length = input.checks.length
  some_attempt : 1 ≤ tried.length
  within_budget : tried.length ≤ budget + 1
  ended : Closes input 0 tried outcome ending ∧
      (∃ before, states events = before ++ [.accepted,.closed] ∧ .accepted ∉ before ∧ .closed ∉ before ∧
        .blocked ∉ before) ∨
    tried.length = budget + 1 ∧ Blocks input budget none "" tried outcome ending ∧
      ∃ before, states events = before ++ [.blocked] ∧ .accepted ∉ before ∧ .closed ∉ before ∧ .blocked ∉ before

theorem delivered_lifecycle {promised : CheckDefinition → CheckResult → Prop} {input : RunInput} {budget : Nat}
    {outcome : LifecycleOutcome} {events : List Event} {tried : List Attempt} {ending : List Event}
    (same : events = .entered input.workPackageId .eligible none :: (rounds input budget 0 none tried ++ ending))
    (delivers : Delivers promised input budget (budget + 1) 0 none "" tried outcome ending) :
    Lifecycle input budget outcome events tried ending := by
  obtain ⟨checked,shape⟩ := delivers
  have counts : ∀ attempt ∈ tried, attempt.results.length = input.checks.length :=
    fun attempt member => (checked attempt member).length_eq.symm
  let eligible : Event := .entered input.workPackageId .eligible none
  have parts : events = [eligible] ++ rounds input budget 0 none tried ++ ending := same
  have front : ∀ state ∈ states ([eligible] ++ rounds input budget 0 none tried),
      state ≠ .accepted ∧ state ≠ .closed ∧ state ≠ .blocked := by
    intro state member
    rw [states_append,List.mem_append] at member
    rcases member with first | later
    · obtain rfl : state = .eligible := List.mem_singleton.mp first
      decide
    · exact rounds_states input _ _ _ _ state later
  have absent : .accepted ∉ states ([eligible] ++ rounds input budget 0 none tried) ∧
      .closed ∉ states ([eligible] ++ rounds input budget 0 none tried) ∧
      .blocked ∉ states ([eligible] ++ rounds input budget 0 none tried) :=
    ⟨fun member => (front _ member).1 rfl,fun member => (front _ member).2.1 rfl,fun member => (front _ member).2.2 rfl⟩
  have executed : ∀ {last}, ending = last → executions last = [] → executions events = tried.map Attempt.execution := by
    rintro _ rfl quiet
    rw [parts,executions_append,executions_append,quiet,rounds_executions,List.append_nil]
    rfl
  have ended : ∀ {last}, states ending = last → states events =
      states ([eligible] ++ rounds input budget 0 none tried) ++ last := by
    rintro _ rfl
    rw [parts,states_append]
  rcases shape with ⟨few,closes⟩ | ⟨all,blocks⟩
  · obtain ⟨before,attempt,split,_,_,_,closing⟩ := closes.last
    exact ⟨same,executed closing rfl,counts,by simp [split],few,.inl ⟨closes,_,ended (congrArg states closing),absent⟩⟩
  · exact ⟨same,executed blocks.ending rfl,counts,by omega,by omega,
      .inr ⟨all,blocks,_,ended (congrArg states blocks.ending),absent⟩⟩

/-- With a valid budget and ports and a store that return, a run returns, and the
    package lives as its attempts say. -/
theorem lead_lifecycle {σ : Type} (lead : ProjectLeadOrchestrator σ) (input : RunInput) (world : σ) {budget : Nat}
    (valid : repair_budget input = some budget) (returning : Returning lead) :
    ∃ outcome after tried ending, run (watched lead) input (start ⟨world,[]⟩) = (.ok outcome,after) ∧
      run lead input (start world) = (.ok outcome,unwatched after) ∧
      Lifecycle input budget outcome (written after) tried ending := by
  have simulated := watching_changes_nothing lead input (start ⟨world,[]⟩)
  obtain ⟨outcome,alone,returned⟩ := total_run returning input valid (start world)
  rcases ran : run (watched lead) input (start ⟨world,[]⟩) with ⟨thrown | watchedOutcome,after⟩
  · rw [ran] at simulated
    cases returned.symm.trans simulated
  · rw [ran] at simulated
    have promises : Promises lead (fun _ _ => True) := fun _ _ _ _ _ => trivial
    obtain ⟨tried,ending,same,delivers⟩ := run_delivers input promises world valid ran
    exact ⟨watchedOutcome,after,tried,ending,rfl,simulated,delivered_lifecycle same delivers⟩

/-! A project where every port returns at once. -/

def steady_lead : ProjectLeadOrchestrator Unit where
  execution _ := pure ⟨"rev-0","builder","build-team","done"⟩
  verification input := pure ⟨input.definition.id,.passed,⟨"EVID-1",input.subjectRevision,"deterministic-runtime",[]⟩⟩
  review input := pure ⟨true,"reviewed",⟨"EVID-2",input.revision,"review-team",["approved"]⟩⟩
  store := {
    transition := fun _ _ _ => pure ()
    recordEvidence := fun _ _ => pure ()
    recordGate := fun _ _ _ _ => pure () }

def steady_input : RunInput :=
  ⟨"PRJ-1","WP-1","Change it","/repo",[⟨"CHECK-UNIT","Unit tests","test_result",["pnpm","test"],1000⟩],none⟩

/-- The unit tests fail at the first revision and pass at the one that repairs it. -/
def repaired_lead : ProjectLeadOrchestrator Unit :=
  { steady_lead with
    execution := fun input =>
      pure ⟨if input.attempt = 0 then "rev-0" else "rev-1","builder","build-team",input.kind⟩
    verification := fun input =>
      pure ⟨input.definition.id,if input.subjectRevision = "rev-0" then .failed else .passed,
        ⟨"EVID-1",input.subjectRevision,"deterministic-runtime",[]⟩⟩ }

theorem lead_lifecycle_repaired : ∃ outcome after tried ending,
    run (watched repaired_lead) steady_input (start ⟨(),[]⟩) = (.ok outcome,after) ∧
      run repaired_lead steady_input (start ()) = (.ok outcome,unwatched after) ∧
      Lifecycle steady_input 3 outcome (written after) tried ending ∧
      outcome.status = .closed ∧ outcome.revision = "rev-1" ∧ outcome.attempts = 2 ∧
      states (written after) = [.eligible,.running,.verifying,.reviewing,.repair_required,.running,.verifying,
        .reviewing,.accepted,.closed] := by
  have returning : Returning repaired_lead := ⟨fun _ => total_pure _,fun _ => total_pure _,fun _ => total_pure _,
    fun _ _ _ => total_pure _,fun _ _ => total_pure _,fun _ _ _ _ => total_pure _⟩
  have budget : repair_budget steady_input = some 3 := by decide
  obtain ⟨outcome,after,tried,ending,ran,alone,lives⟩ := lead_lifecycle repaired_lead steady_input () budget returning
  have closed : (run (watched repaired_lead) steady_input (start ⟨(),[]⟩)).1.toOption.map
      (fun outcome => (outcome.status,outcome.revision,outcome.attempts)) = some (.closed,"rev-1",2) := by decide
  have entered : states (written (run (watched repaired_lead) steady_input (start ⟨(),[]⟩)).2) =
      [.eligible,.running,.verifying,.reviewing,.repair_required,.running,.verifying,.reviewing,.accepted,.closed] := by
    decide
  rw [ran] at closed entered
  obtain ⟨status,revision,count⟩ : outcome.status = .closed ∧ outcome.revision = "rev-1" ∧ outcome.attempts = 2 := by
    simpa [Except.toOption] using closed
  exact ⟨outcome,after,tried,ending,ran,alone,lives,status,revision,count,entered⟩

end V3Aidlc.LeadTraces
