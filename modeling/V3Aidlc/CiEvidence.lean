import V3Aidlc.FirstMatches
import V3Aidlc.Groups
import V3Aidlc.Verification

/-!
CI checks as evidence (`packages/github`): the records that are made of the checks of a pull
request, and the gate that looks for the required checks among records. The gate finds a check
by the text that its record starts with, and takes the first record that does
(`gate_passed_iff`, `gate_failed_iff`).
-/
namespace V3Aidlc.CiEvidence
open V3Aidlc.Loops V3Aidlc.Canonical V3Aidlc.WorkPackages V3Aidlc.ProjectLead V3Aidlc.Verification V3Aidlc.FirstMatches
open V3Aidlc.Groups

/-! ### Checks -/

inductive CiStatus where
  | queued | in_progress | completed
  deriving DecidableEq

inductive CiConclusion where
  | success | failure | cancelled | timed_out | neutral | skipped
  deriving DecidableEq

def CiStatus.text : CiStatus → String
  | .queued => "queued"
  | .in_progress => "in_progress"
  | .completed => "completed"

def CiConclusion.text : CiConclusion → String
  | .success => "success"
  | .failure => "failure"
  | .cancelled => "cancelled"
  | .timed_out => "timed_out"
  | .neutral => "neutral"
  | .skipped => "skipped"

structure CheckSnapshot where
  id : String
  name : String
  url : String
  headRevision : String
  status : CiStatus
  conclusion : Option CiConclusion
  completedAt : Option Int

/-- What is read of a pull request. -/
structure PullRequestSnapshot where
  headRevision : String

/-! ### Records -/

/-- `check.status !== 'completed' ? 'pending' : check.conclusion === 'success' ? 'passed' :
    check.conclusion ?? 'inconclusive'`. -/
def assertion (check : CheckSnapshot) : String :=
  if check.status ≠ .completed then "pending"
  else if check.conclusion = some .success then "passed"
  else match check.conclusion with
    | none => "inconclusive"
    | some conclusion => conclusion.text

def conclusion_text : Option CiConclusion → String
  | none => "null"
  | some conclusion => quote conclusion.text

/-- `JSON.stringify` of the check, in this order. -/
def canonical (check : CheckSnapshot) : String :=
  "\x7b\"id\":" ++ quote check.id ++ ",\"name\":" ++ quote check.name ++ ",\"headRevision\":" ++
    quote check.headRevision ++
    ",\"status\":" ++ quote check.status.text ++ ",\"conclusion\":" ++ conclusion_text check.conclusion ++
    ",\"url\":" ++ quote check.url ++ "\x7d"

/-- Characters whose upper case takes two UTF-16 units, none of them a letter of `A-Z`. -/
def two_units : List Nat :=
  [0x587,0x1F50] ++ List.range' 0x1F80 48 ++ [0x1FB2,0x1FB3,0x1FB4,0x1FB6,0x1FBC,0x1FC2,0x1FC3,0x1FC4,0x1FC6,0x1FCC,
    0x1FD6,0x1FE4,0x1FE6,0x1FF2,0x1FF3,0x1FF4,0x1FF6,0x1FFC] ++ List.range' 0xFB13 5

/-- Characters whose upper case takes three. -/
def three_units : List Nat :=
  [0x390,0x3B0,0x1F52,0x1F54,0x1F56,0x1FB7,0x1FC7,0x1FD2,0x1FD3,0x1FD7,0x1FE2,0x1FE3,0x1FE7,0x1FF7]

/-- What `toUpperCase` and then `replace(/[^A-Z0-9-]/g, '-')` leave of a character. The pattern
    reads UTF-16 units, so that a character outside the basic plane becomes two dashes. -/
def normal_char (c : Char) : String :=
  if c.isUpper ∨ c.isDigit then c.toString
  else if c.isLower then c.toUpper.toString
  else match c.toNat with
    | 0xDF => "SS"
    | 0x131 => "I"
    | 0x149 => "-N"
    | 0x17F => "S"
    | 0x1F0 => "J-"
    | 0x1E96 => "H-"
    | 0x1E97 => "T-"
    | 0x1E98 => "W-"
    | 0x1E99 => "Y-"
    | 0x1E9A => "A-"
    | 0xFB00 => "FF"
    | 0xFB01 => "FI"
    | 0xFB02 => "FL"
    | 0xFB03 => "FFI"
    | 0xFB04 => "FFL"
    | 0xFB05 => "ST"
    | 0xFB06 => "ST"
    | n =>
      if three_units.contains n then "---"
      else if two_units.contains n ∨ 0xFFFF < n then "--"
      else "-"

/-- `check.id.toUpperCase().replace(/[^A-Z0-9-]/g, '-')`. -/
def normal_id (id : String) : String := String.ofList (id.toList.flatMap (fun c => (normal_char c).toList))

/-- The record of a check; `now` is `input.now` where it is given, and the clock is read otherwise. -/
def check_evidence (workPackageId : String) (now : Option Int) (clock : Int) (check : CheckSnapshot) :
    VerificationEvidence where
  id := "EVID-CI-" ++ normal_id check.id
  kind := "test_result"
  subjectId := workPackageId
  subjectRevision := check.headRevision
  producerId := "github-check:" ++ check.id
  producerRole := "ci"
  producerIndependenceGroup := "github-actions"
  collectedAt := now.getD (check.completedAt.getD clock)
  locator := check.url
  sha256 := Sha256.sha256 (canonical check)
  assertions := [check.name ++ ": " ++ assertion check]

/-- `GitHubClient.listChecks`, of a repository at a revision, whatever it answers. -/
abbrev ListChecks := String → String → Except Thrown (List CheckSnapshot)

/-- `GitHubIntegration.collectCiEvidence`. -/
def collectCiEvidence (listChecks : ListChecks) (repository : String) (pullRequest : PullRequestSnapshot)
    (workPackageId : String) (now : Option Int) (clock : Int) : Except Thrown (List VerificationEvidence) := do
  let checks ← listChecks repository pullRequest.headRevision
  checks.mapM (fun check => do
    if check.headRevision ≠ pullRequest.headRevision then
      throw (.Error ("Check " ++ check.name ++ " is for a different revision"))
    return check_evidence workPackageId now clock check)

/-! ### The gate -/

/-- `text.startsWith(start)`. -/
def starts_with (start text : String) : Bool := start.toList.isPrefixOf text.toList

structure CiTally where
  reasons : List String := []
  failed : Bool := false
  matched : List VerificationEvidence := []

/-- The first record that has an assertion of the check. -/
def find_record (name : String) (evidence : List VerificationEvidence) : Option VerificationEvidence :=
  evidence.find? (fun item => item.assertions.any (starts_with (name ++ ": ")))

/-- The round of one required check. -/
def tally_check (headRevision : String) (evidence : List VerificationEvidence) (tally : CiTally) (name : String) :
    CiTally :=
  match find_record name evidence with
  | none => { tally with reasons := tally.reasons ++ [name ++ " has no CI result"] }
  | some record =>
    let reasons := reason_if (record.subjectRevision ≠ headRevision) (name ++ " result is stale") tally.reasons
    let assertion := record.assertions.find? (starts_with (name ++ ": "))
    { reasons := reason_if (assertion = some (name ++ ": pending")) (name ++ " is still running") reasons
      failed := tally.failed ||
        (assertion ≠ some (name ++ ": pending") && assertion ≠ some (name ++ ": passed"))
      matched := tally.matched ++ [record] }

def evaluateCiGate (requiredChecks : List String) (headRevision : String) (evidence : List VerificationEvidence) :
    GateEvaluation :=
  let tally := requiredChecks.foldl (tally_check headRevision evidence) {}
  if tally.failed then ⟨.failed,false,tally.reasons,tally.matched.map (fun record => record.id)⟩
  else if 0 < tally.reasons.length then ⟨.inconclusive,false,tally.reasons,tally.matched.map (fun record => record.id)⟩
  else ⟨.passed,true,[],tally.matched.map (fun record => record.id)⟩

/-! ### What the gate makes of each required check -/

/-- What the record of a check counts for. -/
def record_outcome (name headRevision : String) (record : VerificationEvidence) : Outcome :=
  let assertion := record.assertions.find? (starts_with (name ++ ": "))
  if assertion = some (name ++ ": pending") then .inconclusive
  else if assertion ≠ some (name ++ ": passed") then .failed
  else if record.subjectRevision ≠ headRevision then .inconclusive
  else .passed

/-- What a required check counts for. -/
def check_outcome (name headRevision : String) (evidence : List VerificationEvidence) : Outcome :=
  match find_record name evidence with
  | none => .inconclusive
  | some record => record_outcome name headRevision record

section
variable {headRevision : String} {evidence : List VerificationEvidence}

theorem reason_if_empty {condition : Bool} {reason : String} {reasons : List String} :
    reason_if condition reason reasons = [] ↔ condition = false ∧ reasons = [] := by
  cases condition <;> simp [reason_if]

/-- One round: a failed check fails the gate, and one that is not passed fails it or leaves a
    reason. -/
theorem tally_check_spec (tally : CiTally) (name : String) :
    ((tally_check headRevision evidence tally name).failed = true ↔
        tally.failed = true ∨ check_outcome name headRevision evidence = .failed) ∧
      ((tally_check headRevision evidence tally name).failed = false ∧
          (tally_check headRevision evidence tally name).reasons = [] ↔
        (tally.failed = false ∧ tally.reasons = []) ∧ check_outcome name headRevision evidence = .passed) := by
  unfold tally_check check_outcome
  cases find_record name evidence with
  | none => simp
  | some record =>
    simp only [record_outcome]
    by_cases pending : record.assertions.find? (starts_with (name ++ ": ")) = some (name ++ ": pending")
    · simp [pending,reason_if_empty]
    · by_cases passed : record.assertions.find? (starts_with (name ++ ": ")) = some (name ++ ": passed")
      · have other : name ++ ": passed" ≠ name ++ ": pending" := by simp
        by_cases stale : record.subjectRevision = headRevision
        · simp [passed,other,stale,reason_if_empty]
        · simp [passed,other,stale,reason_if_empty]
      · simp [pending,passed]

theorem tally_spec (requiredChecks : List String) :
    ((requiredChecks.foldl (tally_check headRevision evidence) {}).failed = true ↔
        ∃ name ∈ requiredChecks, check_outcome name headRevision evidence = .failed) ∧
      ((requiredChecks.foldl (tally_check headRevision evidence) {}).failed = false ∧
          (requiredChecks.foldl (tally_check headRevision evidence) {}).reasons = [] ↔
        ∀ name ∈ requiredChecks, check_outcome name headRevision evidence = .passed) := by
  induction requiredChecks using List.reverseRecOn with
  | nil => simp
  | append_singleton names name ih =>
    rw [List.foldl_concat]
    rw [(tally_check_spec (names.foldl (tally_check headRevision evidence) {}) name).1,
      (tally_check_spec (names.foldl (tally_check headRevision evidence) {}) name).2,ih.1,ih.2]
    constructor
    · simp [or_and_right,exists_or]
    · simp [or_imp,forall_and]

/-- The three ends of the gate, by what the tally has. -/
theorem gate_cases (requiredChecks : List String) (headRevision : String) (evidence : List VerificationEvidence) :
    let tally := requiredChecks.foldl (tally_check headRevision evidence) {}
    let ids := tally.matched.map (fun record => record.id)
    tally.failed = true ∧ evaluateCiGate requiredChecks headRevision evidence = ⟨.failed,false,tally.reasons,ids⟩ ∨
      tally.failed = false ∧ tally.reasons ≠ [] ∧
        evaluateCiGate requiredChecks headRevision evidence = ⟨.inconclusive,false,tally.reasons,ids⟩ ∨
      tally.failed = false ∧ tally.reasons = [] ∧
        evaluateCiGate requiredChecks headRevision evidence = ⟨.passed,true,[],ids⟩ := by
  intro tally ids
  unfold evaluateCiGate
  by_cases failed : tally.failed = true
  · exact .inl ⟨failed,if_pos failed⟩
  · have sound : tally.failed = false := by simpa using failed
    by_cases reasons : tally.reasons = []
    · have none : ¬ 0 < tally.reasons.length := by simp [reasons]
      exact .inr (.inr ⟨sound,reasons,(if_neg failed).trans (if_neg none)⟩)
    · have some : 0 < tally.reasons.length := List.length_pos_of_ne_nil reasons
      exact .inr (.inl ⟨sound,reasons,(if_neg failed).trans (if_pos some)⟩)

/-- The gate fails exactly when a required check counts as failed. -/
theorem gate_failed_iff {requiredChecks : List String} :
    (evaluateCiGate requiredChecks headRevision evidence).outcome = .failed ↔
      ∃ name ∈ requiredChecks, check_outcome name headRevision evidence = .failed := by
  rw [← (tally_spec requiredChecks).1]
  rcases gate_cases requiredChecks headRevision evidence with ⟨failed,gate⟩ | ⟨sound,_,gate⟩ | ⟨sound,_,gate⟩
  · simp [gate,failed]
  · simp [gate,sound]
  · simp [gate,sound]

/-- The gate passes exactly when every required check counts as passed. -/
theorem gate_passed_iff {requiredChecks : List String} :
    (evaluateCiGate requiredChecks headRevision evidence).outcome = .passed ↔
      ∀ name ∈ requiredChecks, check_outcome name headRevision evidence = .passed := by
  rw [← (tally_spec requiredChecks).2]
  rcases gate_cases requiredChecks headRevision evidence with ⟨failed,gate⟩ | ⟨_,reasons,gate⟩ | ⟨sound,none,gate⟩
  · simp [gate,failed]
  · simp [gate,reasons]
  · simp [gate,sound,none]

/-- Only a passed gate is promotable. -/
theorem gate_promotable_iff {requiredChecks : List String} :
    (evaluateCiGate requiredChecks headRevision evidence).promotable = true ↔
      (evaluateCiGate requiredChecks headRevision evidence).outcome = .passed := by
  rcases gate_cases requiredChecks headRevision evidence with ⟨_,gate⟩ | ⟨_,_,gate⟩ | ⟨_,_,gate⟩
  · simp [gate]
  · simp [gate]
  · simp [gate]

/-- A gate with one required check has its outcome. -/
theorem gate_single (name : String) :
    (evaluateCiGate [name] headRevision evidence).outcome = check_outcome name headRevision evidence := by
  have failed : (evaluateCiGate [name] headRevision evidence).outcome = .failed ↔ _ := gate_failed_iff
  have passed : (evaluateCiGate [name] headRevision evidence).outcome = .passed ↔ _ := gate_passed_iff
  simp only [List.mem_singleton,exists_eq_left,forall_eq] at failed passed
  cases outcome : check_outcome name headRevision evidence with
  | failed => exact failed.mpr outcome
  | passed => exact passed.mpr outcome
  | inconclusive =>
    rw [outcome] at failed passed
    cases gate : (evaluateCiGate [name] headRevision evidence).outcome with
    | failed => cases failed.mp gate
    | passed => cases passed.mp gate
    | inconclusive => rfl

end

end V3Aidlc.CiEvidence
