import V3Aidlc.WorkPackages
import V3Aidlc.Values
import Mathlib.Data.List.Chain

/-!
The project-lead loop (`packages/orchestration`) with the gate it asks
(`packages/verification`). The loop reports each state it enters to a store; the
execution, verification and review ports and the store are arbitrary procedures
over the outside world. Whatever they do, the reports follow the loop's own steps
(`reports_follow`), two of which the work-package table does not have.
-/
namespace V3Aidlc.ProjectLead
open V3Aidlc.Effects V3Aidlc.WorkPackages

/-! ### The gate -/

structure EvidenceRecord where
  id : String
  subjectRevision : String
  producerIndependenceGroup : String
  assertions : List String

inductive CheckStatus where
  | passed | failed | error
  deriving DecidableEq

structure CheckResult where
  checkId : String
  status : CheckStatus
  evidence : EvidenceRecord

structure GateRule where
  checkId : String
  required : Bool
  requiresIndependentEvaluator : Bool

inductive Outcome where
  | passed | failed | inconclusive
  deriving DecidableEq

structure GateEvaluation where
  outcome : Outcome
  promotable : Bool
  reasons : List String
  evidenceIds : List String

/-- What the rules and the review add up to. -/
structure GateTally where
  reasons : List String := []
  evidenceIds : List String := []
  failed : Bool := false

def reason_if (condition : Bool) (reason : String) (reasons : List String) : List String :=
  if condition then reasons ++ [reason] else reasons

def tally_rule (subjectRevision : String) (results : List CheckResult) (tally : GateTally) (rule : GateRule) :
    GateTally :=
  match results.find? (fun result => result.checkId = rule.checkId) with
  | none => { tally with reasons := reason_if rule.required (rule.checkId ++ " has no result") tally.reasons }
  | some result =>
    { reasons := reason_if (result.status = .error) (rule.checkId ++ " could not be evaluated")
        (reason_if (result.evidence.subjectRevision ≠ subjectRevision)
          (rule.checkId ++ " evidence is stale") tally.reasons)
      evidenceIds := tally.evidenceIds ++ [result.evidence.id]
      failed := tally.failed || result.status = .failed }

def tally_review (subjectRevision producerIndependenceGroup : String) (tally : GateTally) :
    Option EvidenceRecord → GateTally
  | none => { tally with reasons := tally.reasons ++ ["independent review evidence is missing"] }
  | some review =>
    { reasons := reason_if (review.producerIndependenceGroup = producerIndependenceGroup) "reviewer is not independent"
        (reason_if (review.subjectRevision ≠ subjectRevision) "review evidence is stale" tally.reasons)
      evidenceIds := tally.evidenceIds ++ [review.id]
      failed := tally.failed || !review.assertions.contains "approved" }

def evaluateGate (subjectRevision producerIndependenceGroup : String) (rules : List GateRule)
    (results : List CheckResult) (reviewEvidence : Option EvidenceRecord) : GateEvaluation :=
  let tally := tally_review subjectRevision producerIndependenceGroup
    (rules.foldl (tally_rule subjectRevision results) {}) reviewEvidence
  if tally.failed then ⟨.failed,false,tally.reasons,tally.evidenceIds⟩
  else if 0 < tally.reasons.length then ⟨.inconclusive,false,tally.reasons,tally.evidenceIds⟩
  else ⟨.passed,true,[],tally.evidenceIds⟩

/-! ### The ports -/

inductive ExecutionState where
  | planned | eligible | running | verifying | reviewing | repair_required | accepted | closed | blocked
  deriving DecidableEq

/-- The same state in the domain's vocabulary. -/
def ExecutionState.status : ExecutionState → WorkPackageStatus
  | .planned => .planned
  | .eligible => .eligible
  | .running => .running
  | .verifying => .verifying
  | .reviewing => .reviewing
  | .repair_required => .repair_required
  | .accepted => .accepted
  | .closed => .closed
  | .blocked => .blocked

/-- The details of a report, each present or not. -/
structure Details where
  attempt : Option Nat := none
  kind : Option String := none
  revision : Option String := none
  reasons : Option (List String) := none
  repairBudget : Option Nat := none

structure ExecutionInput where
  projectId : String
  workPackageId : String
  objective : String
  attempt : Nat
  kind : String
  priorGate : Option GateEvaluation

structure ExecutionResult where
  revision : String
  producerId : String
  producerIndependenceGroup : String
  summary : String

structure CheckDefinition where
  id : String
  title : String
  kind : String
  command : List String
  timeoutMs : Nat

structure VerificationInput where
  definition : CheckDefinition
  cwd : String
  subjectId : String
  subjectRevision : String

structure ReviewInput where
  projectId : String
  workPackageId : String
  objective : String
  revision : String
  implementationGroup : String
  attempt : Nat

structure ReviewResult where
  approved : Bool
  summary : String
  evidence : EvidenceRecord

variable {σ : Type}

structure LifecycleStore (σ : Type) where
  transition : String → ExecutionState → Option Details → Proc σ Thrown Unit
  recordEvidence : String → EvidenceRecord → Proc σ Thrown Unit
  recordGate : String → String → Nat → GateEvaluation → Proc σ Thrown Unit

structure ProjectLeadOrchestrator (σ : Type) where
  execution : ExecutionInput → Proc σ Thrown ExecutionResult
  verification : VerificationInput → Proc σ Thrown CheckResult
  review : ReviewInput → Proc σ Thrown ReviewResult
  store : LifecycleStore σ

/-- A JavaScript number. -/
inductive JsNumber where
  | nan
  | infinity (negative : Bool)
  | finite (value : ℚ)

structure RunInput where
  projectId : String
  workPackageId : String
  objective : String
  repositoryPath : String
  checks : List CheckDefinition
  maxRepairAttempts : Option JsNumber

inductive LifecycleStatus where
  | closed | blocked
  deriving DecidableEq

structure LifecycleOutcome where
  status : LifecycleStatus
  revision : String
  attempts : Nat
  gate : GateEvaluation

/-! ### The loop -/

structure Report where
  state : ExecutionState
  details : Option Details

/-- The reports made so far, and the world of the ports. -/
structure Run (σ : Type) where
  reports : List Report
  world : σ

def Run.states (run : Run σ) : List ExecutionState := run.reports.map Report.state

def onWorld {α : Type} (m : Proc σ Thrown α) : Proc (Run σ) Thrown α := fun run =>
  ((m run.world).1,{ run with world := (m run.world).2 })

def note (state : ExecutionState) (details : Option Details) (run : Run σ) : Run σ :=
  { run with reports := run.reports ++ [⟨state,details⟩] }

/-- `await this.store.transition(...)`: the report is made, whatever the store
    does with it. -/
def report (lead : ProjectLeadOrchestrator σ) (input : RunInput) (state : ExecutionState) (details : Option Details) :
    Proc (Run σ) Thrown Unit := do
  Proc.modify (note state details)
  onWorld (lead.store.transition input.workPackageId state details)

/-- The budget, when it is a non-negative integer; counters are exact, as a
    number's are up to 2^53. -/
def repair_budget (input : RunInput) : Option Nat :=
  match input.maxRepairAttempts.getD (.finite 3) with
  | .finite value => if value.den = 1 ∧ 0 ≤ value then some value.num.toNat else none
  | _ => none

def run_checks (lead : ProjectLeadOrchestrator σ) (input : RunInput) (revision : String) (results : List CheckResult) :
    List CheckDefinition → Proc (Run σ) Thrown (List CheckResult)
  | [] => pure results
  | definition :: rest => do
    let result ← onWorld (lead.verification ⟨definition,input.repositoryPath,input.workPackageId,revision⟩)
    onWorld (lead.store.recordEvidence input.workPackageId result.evidence)
    run_checks lead input revision (results ++ [result]) rest

def no_gate : GateEvaluation := ⟨.inconclusive,false,["No gate evaluation"],[]⟩

/-- The attempts that remain, from one on. -/
def attempts (lead : ProjectLeadOrchestrator σ) (input : RunInput) (maxRepairAttempts : Nat) :
    Nat → Nat → Option GateEvaluation → String → Proc (Run σ) Thrown LifecycleOutcome
  | 0,_,priorGate,latestRevision => do
    let gate := priorGate.getD no_gate
    report lead input .blocked (some { repairBudget := some maxRepairAttempts, reasons := some gate.reasons })
    return ⟨.blocked,latestRevision,maxRepairAttempts + 1,gate⟩
  | remaining + 1,attempt,priorGate,_ => do
    let kind := if attempt = 0 then "implementation" else "repair"
    report lead input .running (some { attempt := some attempt, kind := some kind })
    let execution ← onWorld (lead.execution
      ⟨input.projectId,input.workPackageId,input.objective,attempt,kind,priorGate⟩)
    let about : Details := { attempt := some attempt, revision := some execution.revision }
    report lead input .verifying (some about)
    let results ← run_checks lead input execution.revision [] input.checks
    report lead input .reviewing (some about)
    let review ← onWorld (lead.review
      ⟨input.projectId,input.workPackageId,input.objective,execution.revision,execution.producerIndependenceGroup,
        attempt⟩)
    onWorld (lead.store.recordEvidence input.workPackageId review.evidence)
    let gate := evaluateGate execution.revision execution.producerIndependenceGroup
      (input.checks.map (fun definition => ⟨definition.id,true,false⟩)) results (some review.evidence)
    onWorld (lead.store.recordGate input.workPackageId execution.revision attempt gate)
    if gate.promotable && review.approved then do
      report lead input .accepted (some about)
      report lead input .closed (some about)
      return ⟨.closed,execution.revision,attempt + 1,gate⟩
    else do
      if attempt < maxRepairAttempts then
        report lead input .repair_required (some { attempt := some attempt, reasons := some gate.reasons })
      else pure ()
      attempts lead input maxRepairAttempts remaining (attempt + 1) (some gate) execution.revision

def run (lead : ProjectLeadOrchestrator σ) (input : RunInput) : Proc (Run σ) Thrown LifecycleOutcome :=
  match repair_budget input with
  | none => Proc.lift (.error (.Error "Repair budget must be a non-negative integer"))
  | some maxRepairAttempts => do
    report lead input .eligible none
    attempts lead input maxRepairAttempts (maxRepairAttempts + 1) 0 none ""

/-! ### The path of the reports -/

/-- The steps of the loop. -/
def LEAD_STEPS : ExecutionState → List ExecutionState
  | .planned => [.eligible]
  | .eligible => [.running]
  | .running => [.verifying]
  | .verifying => [.reviewing]
  | .reviewing => [.accepted,.repair_required,.blocked]
  | .repair_required => [.running]
  | .accepted => [.closed]
  | .closed => []
  | .blocked => []

def Step (source target : ExecutionState) : Prop := target ∈ LEAD_STEPS source

instance (source target : ExecutionState) : Decidable (Step source target) :=
  inferInstanceAs (Decidable (target ∈ LEAD_STEPS source))

/-- The reports so far are a path from a planned package. -/
def OnPath (run : Run σ) : Prop := List.IsChain Step (.planned :: run.states)

/-- On the path, with this state reported last. -/
def At (state : ExecutionState) (run : Run σ) : Prop :=
  OnPath run ∧ (ExecutionState.planned :: run.states).getLast? = some state

theorem at_note {source target : ExecutionState} {run : Run σ} (here : At source run) (step : Step source target)
    (details : Option Details) : At target (note target details run) := by
  obtain ⟨path,last⟩ := here
  have states : (note target details run).states = run.states ++ [target] := by simp [note,Run.states]
  refine ⟨?_,?_⟩
  · unfold OnPath
    rw [states,← List.cons_append,List.isChain_append]
    refine ⟨path,List.isChain_singleton _,?_⟩
    intro x xLast y yFirst
    rw [last,Option.mem_some_iff] at xLast
    have same : target = y := by simpa using yFirst
    exact xLast ▸ same ▸ step
  · rw [states,← List.cons_append,List.getLast?_append]
    simp

theorem ensures_onWorld {α : Type} (state : ExecutionState) (m : Proc σ Thrown α) :
    Ensures (At state) (onWorld m) (fun _ => At state) OnPath := by
  intro s here
  refine ⟨?_,?_⟩
  · intro a s' ran
    have same : s'.reports = s.reports := by
      simp only [onWorld,Prod.mk.injEq] at ran
      rw [← ran.2]
    have states : s'.states = s.states := by unfold Run.states; rw [same]
    unfold At OnPath
    rw [states]
    exact here
  · intro e s' ran
    have same : s'.reports = s.reports := by
      simp only [onWorld,Prod.mk.injEq] at ran
      rw [← ran.2]
    have states : s'.states = s.states := by unfold Run.states; rw [same]
    unfold OnPath
    rw [states]
    exact here.1

theorem ensures_report (lead : ProjectLeadOrchestrator σ) (input : RunInput) {source target : ExecutionState}
    (step : Step source target) (details : Option Details) :
    Ensures (At source) (report lead input target details) (fun _ => At target) OnPath := by
  refine ensures_bind ?_ (fun _ => ensures_onWorld target _)
  intro s here
  refine ⟨?_,?_⟩
  · intro a s' ran
    exact modify_returns.mp ran ▸ at_note here step details
  · intro e s' ran; simp [modify_run] at ran

theorem ensures_run_checks (lead : ProjectLeadOrchestrator σ) (input : RunInput) (revision : String)
    (state : ExecutionState)
    (checks : List CheckDefinition) (results : List CheckResult) :
    Ensures (At state) (run_checks lead input revision results checks) (fun _ => At state) OnPath := by
  induction checks generalizing results with
  | nil => exact ensures_pure (fun _ here => here)
  | cons definition rest ih =>
    refine ensures_bind (ensures_onWorld state _) (fun result => ?_)
    exact ensures_bind (ensures_onWorld state _) (fun _ => ih _)

/-- The state an outcome ends in. -/
def final_state (outcome : LifecycleOutcome) : ExecutionState :=
  match outcome.status with
  | .closed => .closed
  | .blocked => .blocked

/-- The attempts that remain start after the first report or after a repair was
    asked for, or find the budget used up after a review. -/
theorem ensures_attempts (lead : ProjectLeadOrchestrator σ) (input : RunInput) (budget remaining attempt : Nat)
    (priorGate : Option GateEvaluation) (latestRevision : String) (counted : attempt + remaining = budget + 1)
    (source : ExecutionState) (ready : if remaining = 0 then source = .reviewing else Step source .running) :
    Ensures (At source) (attempts lead input budget remaining attempt priorGate latestRevision)
      (fun outcome => At (final_state outcome)) OnPath := by
  induction remaining generalizing attempt priorGate latestRevision source with
  | zero =>
    have reviewed : source = .reviewing := by simpa using ready
    subst reviewed
    refine ensures_bind (ensures_report lead input (by decide) _) (fun _ => ?_)
    exact ensures_pure (fun _ here => here)
  | succ remaining ih =>
    have starts : Step source .running := by simpa using ready
    unfold attempts
    refine ensures_bind (ensures_report lead input starts _) (fun _ => ?_)
    refine ensures_bind (ensures_onWorld _ _) (fun execution => ?_)
    refine ensures_bind (ensures_report lead input (by decide) _) (fun _ => ?_)
    refine ensures_bind (ensures_run_checks lead input _ _ _ _) (fun results => ?_)
    refine ensures_bind (ensures_report lead input (by decide) _) (fun _ => ?_)
    refine ensures_bind (ensures_onWorld _ _) (fun review => ?_)
    refine ensures_bind (ensures_onWorld _ _) (fun _ => ?_)
    refine ensures_bind (ensures_onWorld _ _) (fun _ => ?_)
    split
    · refine ensures_bind (ensures_report lead input (by decide) _) (fun _ => ?_)
      refine ensures_bind (ensures_report lead input (by decide) _) (fun _ => ?_)
      exact ensures_pure (fun _ here => here)
    · -- A repair is asked for exactly while attempts remain.
      by_cases left : attempt < budget
      · rw [if_pos left]
        refine ensures_bind (ensures_report lead input (by decide) _) (fun _ => ?_)
        refine ih (attempt + 1) _ _ (by omega) .repair_required ?_
        rw [if_neg (by omega)]
        decide
      · rw [if_neg left]
        refine ih (attempt + 1) _ _ (by omega) .reviewing ?_
        rw [if_pos (by omega)]

/-- A run that has reported nothing. -/
def start (world : σ) : Run σ := ⟨[],world⟩

theorem at_start (world : σ) : At .planned (start world) := ⟨List.isChain_singleton _,rfl⟩

/-- Whatever the ports and the store do, the reports follow the loop's steps. -/
theorem reports_follow (lead : ProjectLeadOrchestrator σ) (input : RunInput) (world : σ) :
    OnPath (run lead input (start world)).2 := by
  have ensured : Ensures (At .planned) (run lead input) (fun outcome => At (final_state outcome)) OnPath := by
    unfold run
    cases repair_budget input with
    | none => exact ensures_lift (fun _ _ _ impossible => by cases impossible) (fun _ here => here.1)
    | some budget =>
      refine ensures_bind (ensures_report lead input (by decide) _) (fun _ => ?_)
      refine ensures_attempts lead input budget (budget + 1) 0 none "" (by omega) .eligible ?_
      rw [if_neg (by omega)]
      decide
  obtain ⟨returns,raises⟩ := ensured (start world) (at_start world)
  rcases ran : run lead input (start world) with ⟨thrown | outcome,final⟩
  · exact raises thrown final ran
  · exact (returns outcome final ran).1

/-! ### Against the work-package table -/

/-- Each consecutive step of the reports is one the table allows. -/
def Conforms (run : Run σ) : Prop :=
  List.IsChain Allowed (.planned :: run.states.map ExecutionState.status)

/-- Of the loop's steps the table lacks those that enter `running`. -/
theorem step_allowed_iff {source target : ExecutionState} (step : Step source target) :
    Allowed source.status target.status ↔ target ≠ .running := by
  cases source <;> cases target <;> revert step <;> decide

/-- A path conforms exactly when it never enters `running`. -/
theorem conforms_of_path {run : Run σ} (path : OnPath run) : Conforms run ↔ .running ∉ run.states := by
  unfold OnPath at path
  unfold Conforms
  have general : ∀ (states : List ExecutionState) (first : ExecutionState), List.IsChain Step (first :: states) →
      (List.IsChain Allowed (first.status :: states.map ExecutionState.status) ↔ .running ∉ states) := by
    intro states
    induction states with
    | nil => intro first _; simp
    | cons next rest ih =>
      intro first chain
      obtain ⟨step,later⟩ := List.isChain_cons_cons.mp chain
      rw [List.map_cons,List.isChain_cons_cons,step_allowed_iff step,ih next later,List.mem_cons,not_or]
      exact and_congr_left (fun _ => ⟨fun differs same => differs same.symm,fun differs same => differs same.symm⟩)
  exact general run.states .planned path

/-- What was reported stays reported. -/
theorem keeps_onWorld {α : Type} (state : ExecutionState) (m : Proc σ Thrown α) :
    Keeps (fun run : Run σ => state ∈ run.states) (onWorld m) :=
  fun _ reported => reported

theorem keeps_report (state : ExecutionState) (lead : ProjectLeadOrchestrator σ) (input : RunInput)
    (target : ExecutionState) (details : Option Details) :
    Keeps (fun run : Run σ => state ∈ run.states) (report lead input target details) := by
  refine keeps_seq (keeps_modify ?_) (fun _ => keeps_onWorld state _)
  intro run reported
  simp only [Run.states,note,List.map_append,List.mem_append]
  exact .inl reported

theorem keeps_run_checks (state : ExecutionState) (lead : ProjectLeadOrchestrator σ) (input : RunInput)
    (revision : String)
    (checks : List CheckDefinition) (results : List CheckResult) :
    Keeps (fun run : Run σ => state ∈ run.states) (run_checks lead input revision results checks) := by
  induction checks generalizing results with
  | nil => exact keeps_pure _ _
  | cons definition rest ih =>
    exact keeps_seq (keeps_onWorld state _) (fun _ => keeps_seq (keeps_onWorld state _) (fun _ => ih _))

theorem report_reports (lead : ProjectLeadOrchestrator σ) (input : RunInput) (state : ExecutionState)
    (details : Option Details) (before : Run σ) : state ∈ (report lead input state details before).2.states := by
  refine reaches_bind (fun run : Run σ => state ∈ run.states) ?_ (fun _ => keeps_onWorld state _)
  simp [modify_run,note,Run.states]

/-- The attempts keep what was reported, and the first one reports `running`. -/
theorem attempts_reach (state : ExecutionState) (lead : ProjectLeadOrchestrator σ) (input : RunInput)
    (budget remaining attempt : Nat) (priorGate : Option GateEvaluation) (latestRevision : String) (before : Run σ)
    (reported : state ∈ before.states ∨ 0 < remaining ∧ state = .running) :
    state ∈ (attempts lead input budget remaining attempt priorGate latestRevision before).2.states := by
  induction remaining generalizing attempt priorGate latestRevision before with
  | zero =>
    rcases reported with earlier | ⟨impossible,_⟩
    · exact keeps_seq (keeps_report state lead input _ _) (fun _ => keeps_pure _ _) before earlier
    · omega
  | succ remaining ih =>
    have later : ∀ (next : Nat) (gate : Option GateEvaluation) (revision : String),
        Keeps (fun run : Run σ => state ∈ run.states) (attempts lead input budget remaining next gate revision) :=
      fun next gate revision run held => ih next gate revision run (.inl held)
    unfold attempts
    dsimp only
    refine reaches_bind (fun run : Run σ => state ∈ run.states) ?_ (fun _ => ?_)
    · rcases reported with earlier | ⟨_,rfl⟩
      · exact keeps_report state lead input _ _ before earlier
      · exact report_reports lead input .running _ before
    refine keeps_seq (keeps_onWorld state _) (fun execution => ?_)
    refine keeps_seq (keeps_report state lead input _ _) (fun _ => ?_)
    refine keeps_seq (keeps_run_checks state lead input _ _ _) (fun results => ?_)
    refine keeps_seq (keeps_report state lead input _ _) (fun _ => ?_)
    refine keeps_seq (keeps_onWorld state _) (fun review => ?_)
    refine keeps_seq (keeps_onWorld state _) (fun _ => ?_)
    refine keeps_seq (keeps_onWorld state _) (fun _ => ?_)
    split
    · refine keeps_seq (keeps_report state lead input _ _) (fun _ => ?_)
      exact keeps_seq (keeps_report state lead input _ _) (fun _ => keeps_pure _ _)
    · split
      · exact keeps_seq (keeps_report state lead input _ _) (fun _ => later _ _ _)
      · exact later _ _ _

/-- A run with a valid budget goes on exactly when the store takes the first
    report, and then reports `running`. -/
theorem running_iff (lead : ProjectLeadOrchestrator σ) (input : RunInput) (world : σ) :
    .running ∈ (run lead input (start world)).2.states ↔
      repair_budget input ≠ none ∧
      ∀ thrown, (lead.store.transition input.workPackageId .eligible none world).1 ≠ .error thrown := by
  unfold run
  cases repair_budget input with
  | none => simp [lift_run,start,Run.states]
  | some budget =>
    show ExecutionState.running ∈ (Proc.bind (report lead input .eligible none)
      (fun _ => attempts lead input budget (budget + 1) 0 none "") (start world)).2.states ↔ _
    rcases taken : lead.store.transition input.workPackageId .eligible none world with ⟨thrown | u,after⟩
    · have reported : report lead input .eligible none (start world) =
          (.error thrown,⟨[⟨.eligible,none⟩],after⟩) := by
        unfold report
        show Proc.bind _ _ _ = _
        simp [Proc.bind,Proc.modify,note,onWorld,start,taken]
      simp [Proc.bind,reported,Run.states]
    · have reported : report lead input .eligible none (start world) = (.ok (),⟨[⟨.eligible,none⟩],after⟩) := by
        unfold report
        show Proc.bind _ _ _ = _
        simp [Proc.bind,Proc.modify,note,onWorld,start,taken]
      simp only [Proc.bind,reported]
      have reached := attempts_reach .running lead input budget (budget + 1) 0 none "" ⟨[⟨.eligible,none⟩],after⟩
        (.inr ⟨by omega,rfl⟩)
      simp [reached]

/-- The reports conform exactly when the budget is rejected or the store throws on
    the first report. -/
theorem conforms_iff (lead : ProjectLeadOrchestrator σ) (input : RunInput) (world : σ) :
    Conforms (run lead input (start world)).2 ↔
      repair_budget input = none ∨
      ∃ thrown, (lead.store.transition input.workPackageId .eligible none world).1 = .error thrown := by
  rw [conforms_of_path (reports_follow lead input world),running_iff,not_and_or]
  simp

/-! ### A store that forwards -/

/-- The store's part of the world is the database. -/
def onDatabase {τ α : Type} (m : Proc Database Thrown α) : Proc (Database × τ) Thrown α := fun world =>
  ((m world.1).1,(m world.1).2,world.2)

/-- Each transition goes to the repository, under some event id. -/
def Forwards {τ : Type} (store : LifecycleStore (Database × τ)) (eventId : String → ExecutionState → String) : Prop :=
  ∀ workPackageId state details,
    store.transition workPackageId state details =
      onDatabase (transitionWorkPackage workPackageId state.status (eventId workPackageId state))

/-- A planned package that no one else writes, and an event id that is free. -/
structure Planned (db : Database) (workPackageId eventId : String) : Prop where
  found : ∃ current, db.workPackages.find? (fun row => row.id = workPackageId) = some current ∧
    current.status = .planned ∧ updatedCount current db.workPackages = 1
  fresh : ∀ event ∈ db.lifecycleEvents, event.id ≠ eventId

/-- With a valid budget the repository takes `eligible` and rejects `running`. -/
theorem forwarding_rejected {τ : Type} (lead : ProjectLeadOrchestrator (Database × τ)) (input : RunInput)
    {eventId : String → ExecutionState → String} (forwards : Forwards lead.store eventId) {db : Database} (rest : τ)
    (planned : Planned db input.workPackageId (eventId input.workPackageId .eligible)) {budget : Nat}
    (valid : repair_budget input = some budget) :
    (run lead input (start (db,rest))).1 = .error (.InvalidTransitionError .eligible .running) := by
  obtain ⟨current,found,status,unraced⟩ := planned.found
  have allowed : Allowed current.status ExecutionState.eligible.status := by rw [status]; decide
  obtain ⟨after,taken,eligible⟩ := (transitionWorkPackage_found found).2 allowed unraced planned.fresh
  have forbidden : ¬ Allowed ExecutionState.eligible.status ExecutionState.running.status := by decide
  have refused : transitionWorkPackage input.workPackageId ExecutionState.running.status
      (eventId input.workPackageId .running) after = (.error (.InvalidTransitionError .eligible .running),after) :=
    (transitionWorkPackage_found eligible).1 forbidden
  have first : report lead input .eligible none (start (db,rest)) = (.ok (),⟨[⟨.eligible,none⟩],after,rest⟩) := by
    unfold report
    show Proc.bind _ _ _ = _
    simp [Proc.bind,Proc.modify,note,onWorld,start,forwards _ _ _,onDatabase,taken]
  have second : ∀ details before, report lead input .running details ⟨before,after,rest⟩ =
      (.error (.InvalidTransitionError .eligible .running),⟨before ++ [⟨.running,details⟩],after,rest⟩) := by
    intro details before
    unfold report
    show Proc.bind _ _ _ = _
    simp [Proc.bind,Proc.modify,note,onWorld,forwards _ _ _,onDatabase,refused]
  unfold run
  simp only [valid]
  show (Proc.bind _ _ _).1 = _
  unfold Proc.bind
  simp only [first]
  unfold attempts
  show (Proc.bind _ _ _).1 = _
  unfold Proc.bind
  simp only [second]

/-- The reports conform to the table exactly when the budget is rejected or the
    store throws on the first report; a store that forwards them is rejected
    exactly when the budget is valid. -/
theorem reports_conform_iff :
    (∀ (lead : ProjectLeadOrchestrator σ) (input : RunInput) (world : σ),
      Conforms (run lead input (start world)).2 ↔ repair_budget input = none ∨
        ∃ thrown, (lead.store.transition input.workPackageId .eligible none world).1 = .error thrown) ∧
    ∀ (lead : ProjectLeadOrchestrator (Database × σ)) (input : RunInput) (eventId : String → ExecutionState → String)
      (db : Database) (rest : σ), Forwards lead.store eventId →
      Planned db input.workPackageId (eventId input.workPackageId .eligible) →
      ((∃ source target, (run lead input (start (db,rest))).1 = .error (.InvalidTransitionError source target)) ↔
        repair_budget input ≠ none) := by
  refine ⟨conforms_iff,?_⟩
  intro lead input eventId db rest forwards planned
  cases budget : repair_budget input with
  | none => simp [run,budget,lift_run]
  | some limit =>
    simp only [ne_eq,reduceCtorEq,not_false_eq_true,iff_true]
    exact ⟨_,_,forwarding_rejected lead input forwards rest planned budget⟩

/-! ### The default run -/

def approval : EvidenceRecord := ⟨"EVID-REVIEW","rev","review-team",["approved"]⟩

/-- Ports that deliver and approve at once, with a store that takes anything. -/
def delivering : ProjectLeadOrchestrator Unit where
  execution _ := pure ⟨"rev","builder","build-team","done"⟩
  verification _ := pure ⟨"CHECK-UNIT",.passed,⟨"EVID-CHECK","rev","deterministic-runtime",["Unit tests: passed"]⟩⟩
  review _ := pure ⟨true,"reviewed",approval⟩
  store := ⟨fun _ _ _ => pure (),fun _ _ => pure (),fun _ _ _ _ => pure ()⟩

def delivery : RunInput :=
  ⟨"PRJ-1","WP-1","Change it","/repo",[⟨"CHECK-UNIT","Unit tests","test_result",["pnpm","test"],1000⟩],none⟩

/-- The default run closes the package over a step the table does not have. -/
theorem delivery_leaves_table :
    (run delivering delivery (start ())).2.states = [.eligible,.running,.verifying,.reviewing,.accepted,.closed] ∧
    ¬ Conforms (run delivering delivery (start ())).2 := by
  have states : (run delivering delivery (start ())).2.states =
      [.eligible,.running,.verifying,.reviewing,.accepted,.closed] := by decide +kernel
  refine ⟨states,?_⟩
  unfold Conforms
  rw [states]
  decide

def planned_database : Database := ⟨[⟨"WP-1","PRJ-1",.planned,1⟩],[]⟩

/-- The same ports with a store that forwards. -/
def forwarding : ProjectLeadOrchestrator (Database × Unit) where
  execution _ := pure ⟨"rev","builder","build-team","done"⟩
  verification _ := pure ⟨"CHECK-UNIT",.passed,⟨"EVID-CHECK","rev","deterministic-runtime",["Unit tests: passed"]⟩⟩
  review _ := pure ⟨true,"reviewed",approval⟩
  store := ⟨fun id state _ => onDatabase (transitionWorkPackage id state.status "EVT"),fun _ _ => pure (),
    fun _ _ _ _ => pure ()⟩

theorem forwarding_delivery : ∃ source target,
    (run forwarding delivery (start (planned_database,()))).1 = .error (.InvalidTransitionError source target) :=
  (reports_conform_iff.2 forwarding delivery (fun _ _ => "EVT") planned_database () (fun _ _ _ => rfl)
    ⟨⟨_,rfl,rfl,by decide⟩,by simp [planned_database]⟩).mpr (by decide +kernel)

end V3Aidlc.ProjectLead
