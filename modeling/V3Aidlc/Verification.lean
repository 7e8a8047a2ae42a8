import V3Aidlc.Encodings
import V3Aidlc.ProjectLead
import V3Aidlc.Sha256

/-!
The verification engine (`packages/verification`) and the table its evidence goes to
(`packages/database`). The id of a piece of evidence is made from the check and from
the digest of what the command did; the subject and its revision are not in it. So
the same command with the same output on two revisions gives one id to two records
(`evidence_ids_iff`).
-/
namespace V3Aidlc.Verification
open V3Aidlc.Values V3Aidlc.Canonical V3Aidlc.PrefixCodes V3Aidlc.Encodings V3Aidlc.Sha256
open V3Aidlc.Loops V3Aidlc.Effects V3Aidlc.WorkPackages V3Aidlc.ProjectLead

/-! ### The engine -/

/-- What a command did; a process that did not exit by itself has no exit code. -/
structure CommandResult where
  exitCode : Option Int
  stdout : String
  stderr : String
  timedOut : Bool
  deriving DecidableEq

/-- The evidence of the engine: what the gate reads of it, and where it comes from. -/
structure VerificationEvidence extends EvidenceRecord where
  kind : String
  subjectId : String
  producerId : String
  producerRole : String
  collectedAt : Int
  locator : String
  sha256 : String

structure VerifiedCheck where
  checkId : String
  status : CheckStatus
  evidence : VerificationEvidence

def VerifiedCheck.result (check : VerifiedCheck) : CheckResult :=
  ⟨check.checkId,check.status,check.evidence.toEvidenceRecord⟩

def exit_text : Option Int → String
  | none => "null"
  | some code => toString code

def bool_text (b : Bool) : String := if b then "true" else "false"

/-- `JSON.stringify` of the command and what it did, in this order. -/
def body (command : List String) (result : CommandResult) : String :=
  "\x7b\"command\":[" ++ join "," (command.map quote) ++ "],\"exitCode\":" ++ exit_text result.exitCode ++
    ",\"stdout\":" ++ quote result.stdout ++ ",\"stderr\":" ++ quote result.stderr ++
    ",\"timedOut\":" ++ bool_text result.timedOut ++ "\x7d"

/-- `sha256.slice(0, 12).toUpperCase()`. -/
def fingerprint (text : String) : List Char := ((Sha256.sha256 text).toList.take 12).map Char.toUpper

def evidence_id (checkId text : String) : String :=
  "EVID-" ++ String.ofList (checkId.toList.drop 6) ++ "-" ++ String.ofList (fingerprint text)

def check_status (result : CommandResult) : CheckStatus :=
  if result.timedOut ∨ result.exitCode = none then .error
  else if result.exitCode = some 0 then .passed
  else .failed

def status_text : CheckStatus → String
  | .passed => "passed"
  | .failed => "failed"
  | .error => "error"

/-- What the engine returns once the command has run. -/
def verified (input : VerificationInput) (producerId : Option String) (collectedAt : Int) (result : CommandResult) :
    VerifiedCheck :=
  let text := body input.definition.command result
  let status := check_status result
  { checkId := input.definition.id
    status := status
    evidence := {
      id := evidence_id input.definition.id text
      kind := input.definition.kind
      subjectId := input.subjectId
      subjectRevision := input.subjectRevision
      producerId := producerId.getD "v3-verification-engine"
      producerRole := "verifier"
      producerIndependenceGroup := "deterministic-runtime"
      collectedAt := collectedAt
      locator := "sha256:" ++ Sha256.sha256 text
      sha256 := Sha256.sha256 text
      assertions := [input.definition.title ++ ": " ++ status_text status] } }

/-- `CommandExecutor.run`, whatever it does. -/
abbrev CommandExecutor (σ : Type) := List String → String → Nat → Proc σ Thrown CommandResult

/-- `VerificationEngine.run`, as the orchestrator calls it: no producer is given,
    and the clock gives the time. -/
def VerificationEngine.run {σ : Type} (executor : CommandExecutor σ) (clock : Proc σ Thrown Int)
    (input : VerificationInput) : Proc σ Thrown CheckResult := do
  let result ← executor input.definition.command input.cwd input.definition.timeoutMs
  let now ← clock
  return (verified input none now result).result

/-! ### The body tells what was run -/

theorem body_text (command : List String) (result : CommandResult) :
    (body command result).toList = "\x7b\"command\":[".toList ++
      (separated ',' (command.map (fun s => (quote s).toList)) ++
      ']' :: (",\"exitCode\":".toList ++ ((exit_text result.exitCode).toList ++ ',' :: ("\"stdout\":".toList ++
        ((quote result.stdout).toList ++ (",\"stderr\":".toList ++ ((quote result.stderr).toList ++
          (",\"timedOut\":".toList ++ ((bool_text result.timedOut).toList ++ ['\x7d']))))))))) := by
  have single : ",".toList = [','] := rfl
  have command_text : (join "," (command.map quote)).toList =
      separated ',' (command.map (fun s => (quote s).toList)) := by
    rw [join_separated single,List.map_map]
    rfl
  have bracket : "],\"exitCode\":".toList = ']' :: ",\"exitCode\":".toList := rfl
  have comma : ",\"stdout\":".toList = ',' :: "\"stdout\":".toList := rfl
  have brace : "\x7d".toList = ['\x7d'] := rfl
  unfold body
  simp only [String.toList_append,command_text,bracket,comma,brace,List.append_assoc,List.cons_append]

theorem exit_text_plain (exitCode : Option Int) : ∀ c ∈ (exit_text exitCode).toList, ¬ c = ',' := by
  cases exitCode with
  | none =>
    have text : (exit_text none).toList = ['n','u','l','l'] := rfl
    simp [text]
  | some code =>
    rintro c member rfl
    rcases (int_numeral code).1 _ member with digit | sign
    · cases digit
    · cases sign

theorem exit_text_injective {m n : Option Int} (same : exit_text m = exit_text n) : m = n := by
  have spelled : ∀ code : Int, toString code ≠ "null" := by
    intro code equal
    have first : 'n' ∈ (toString code).toList := by rw [equal]; decide
    rcases (int_numeral code).1 _ first with digit | sign
    · cases digit
    · cases sign
  cases m with
  | none =>
    cases n with
    | none => rfl
    | some code => exact absurd same.symm (spelled code)
  | some code =>
    cases n with
    | none => exact absurd same (spelled code)
    | some other => rw [int_injective same]

theorem body_injective {command other : List String} {result result' : CommandResult}
    (same : body command result = body other result') : command = other ∧ result = result' := by
  have texts : (body command result).toList = (body other result').toList := by rw [same]
  rw [body_text,body_text] at texts
  have each : ∀ s ∈ command, Decodes (fun s => (quote s).toList) (fun _ => True) (fun _ => True) Eq s :=
    fun _ _ _ _ _ _ _ _ texts => quote_decodes texts
  have opens : ∀ s : String, True → ∃ c rest, (quote s).toList = c :: rest ∧ c ≠ ']' :=
    fun s _ => ⟨'"',s.toList.flatMap escapeChar ++ ['"'],by simp [quote],by decide⟩
  obtain ⟨commands,afterCommand⟩ := listed_decodes trivial trivial (by decide) opens each (fun _ _ => trivial)
    (fun _ _ => trivial) (List.append_cancel_left texts)
  have comma : ∀ rest, Stops (fun c => c = ',') (',' :: rest) := fun _ => stops_cons.mpr rfl
  obtain ⟨exits,afterExit⟩ := plain_decodes (exit_text_plain _) (exit_text_plain _) (comma _) (comma _)
    (List.append_cancel_left afterCommand)
  obtain ⟨stdouts,afterStdout⟩ := quote_decodes (List.append_cancel_left (List.tail_eq_of_cons_eq afterExit))
  obtain ⟨stderrs,afterStderr⟩ := quote_decodes (List.append_cancel_left afterStdout)
  have ends := List.append_cancel_right (List.append_cancel_left afterStderr)
  refine ⟨List.forall₂_eq_eq_eq ▸ commands,?_⟩
  rcases result with ⟨exitCode,stdout,stderr,timedOut⟩
  rcases result' with ⟨exitCode',stdout',stderr',timedOut'⟩
  obtain rfl : exitCode = exitCode' := exit_text_injective (String.toList_inj.mp exits)
  obtain rfl : stdout = stdout' := stdouts
  obtain rfl : stderr = stderr' := stderrs
  cases timedOut <;> cases timedOut'
  · rfl
  · simp [bool_text] at ends
  · simp [bool_text] at ends
  · rfl

/-! ### The table of evidence -/

structure EvidenceRow where
  id : String
  projectId : String
  workPackageId : String
  kind : String
  subjectRevision : String
  producerId : String
  producerRole : String
  producerIndependenceGroup : String
  collectedAt : Int
  locator : String
  sha256 : String
  assertions : List String

/-- `ProjectRepository.recordEvidence`: the id is the primary key. -/
def recordEvidence (table : List EvidenceRow) (row : EvidenceRow) : Except Thrown (List EvidenceRow) :=
  if table.any (fun stored => stored.id = row.id) then .error (.Error "Unique constraint failed on the fields: (id)")
  else .ok (table ++ [row])

theorem recordEvidence_ok {table after : List EvidenceRow} {row : EvidenceRow} :
    recordEvidence table row = .ok after ↔ (∀ stored ∈ table, stored.id ≠ row.id) ∧ after = table ++ [row] := by
  unfold recordEvidence
  by_cases used : ∃ stored ∈ table, stored.id = row.id
  · rw [if_pos (by simpa using used)]
    obtain ⟨stored,member,same⟩ := used
    exact ⟨fun returned => (by cases returned),fun ⟨fresh,_⟩ => absurd same (fresh stored member)⟩
  · rw [if_neg (by simpa using used),Except.ok.injEq]
    exact ⟨fun same => ⟨fun stored member equal => used ⟨stored,member,equal⟩,same.symm⟩,fun ⟨_,same⟩ => same.symm⟩

/-- Rows are all recorded exactly when their ids are distinct. -/
theorem recorded_iff {rows : List EvidenceRow} :
    rows.foldlM recordEvidence [] = .ok rows ↔ (rows.map EvidenceRow.id).Nodup := by
  induction rows using List.reverseRecOn with
  | nil => simp
  | append_singleton rows row ih =>
    rw [foldlM_snoc_ok,List.map_append,List.nodup_append]
    constructor
    · rintro ⟨table,ran,recorded⟩
      obtain ⟨fresh,same⟩ := recordEvidence_ok.mp recorded
      obtain rfl : rows = table := List.append_cancel_right same
      refine ⟨ih.mp ran,by simp,?_⟩
      rintro id member _ last rfl
      obtain ⟨stored,inside,named⟩ := List.mem_map.mp member
      exact fresh stored inside (named.trans (List.mem_singleton.mp last))
    · rintro ⟨distinct,_,apart⟩
      refine ⟨rows,ih.mpr distinct,recordEvidence_ok.mpr ⟨?_,rfl⟩⟩
      intro stored member same
      exact apart stored.id (List.mem_map_of_mem member) row.id (by simp) same

/-! ### The ids of a sequence of verifications -/

/-- One call of the engine in a project, and what its command did. -/
structure VerificationRun where
  projectId : String
  input : VerificationInput
  producerId : Option String
  collectedAt : Int
  result : CommandResult

def VerificationRun.evidence (run : VerificationRun) : VerificationEvidence :=
  (verified run.input run.producerId run.collectedAt run.result).evidence

def VerificationRun.text (run : VerificationRun) : String := body run.input.definition.command run.result

def VerificationRun.row (run : VerificationRun) : EvidenceRow where
  id := run.evidence.id
  projectId := run.projectId
  workPackageId := run.input.subjectId
  kind := run.evidence.kind
  subjectRevision := run.evidence.subjectRevision
  producerId := run.evidence.producerId
  producerRole := run.evidence.producerRole
  producerIndependenceGroup := run.evidence.producerIndependenceGroup
  collectedAt := run.evidence.collectedAt
  locator := run.evidence.locator
  sha256 := run.evidence.sha256
  assertions := run.evidence.assertions

/-- Evidence about different checks, subjects or revisions has different ids. -/
def Distinguished (runs : List VerificationRun) : Prop :=
  runs.Pairwise (fun run other =>
    run.input.definition.id ≠ other.input.definition.id ∨ run.input.subjectId ≠ other.input.subjectId ∨
      run.input.subjectRevision ≠ other.input.subjectRevision → run.evidence.id ≠ other.evidence.id)

/-- Every record is stored, as it was made. -/
def Recorded (runs : List VerificationRun) : Prop :=
  (runs.map VerificationRun.row).foldlM recordEvidence [] = .ok (runs.map VerificationRun.row)

/-- The same check ran the same command, which did the same. -/
def SameExecution (run other : VerificationRun) : Prop :=
  run.input.definition.id = other.input.definition.id ∧
    run.input.definition.command = other.input.definition.command ∧ run.result = other.result

/-- Ids of checks start as their type says. -/
def CheckId (id : String) : Prop := "CHECK-".toList <+: id.toList

theorem check_ids_injective {id other : String} (first : CheckId id) (second : CheckId other)
    (same : id.toList.drop 6 = other.toList.drop 6) : id = other := by
  obtain ⟨rest,text⟩ := first
  obtain ⟨rest',text'⟩ := second
  have tail : ∀ rest : List Char, ("CHECK-".toList ++ rest).drop 6 = rest := fun _ => rfl
  rw [← text,← text',tail,tail] at same
  rw [← String.toList_inj,← text,← text',same]

theorem fingerprint_length (text : String) : (fingerprint text).length = 12 := by
  have hex := sha256_hex text
  unfold isHexDigest at hex
  have length : (Sha256.sha256 text).toList.length = 64 := by
    rw [String.length_toList]
    exact (of_decide_eq_true hex).1
  simp [fingerprint,length]

/-- An id tells the check and the fingerprint of the text. -/
theorem evidence_id_iff {id other text text' : String} (first : CheckId id) (second : CheckId other) :
    evidence_id id text = evidence_id other text' ↔ id = other ∧ fingerprint text = fingerprint text' := by
  constructor
  · intro same
    have texts := congrArg String.toList same
    unfold evidence_id at texts
    simp only [String.toList_append,String.toList_ofList,List.append_assoc] at texts
    have tails := List.append_cancel_left texts
    rw [← List.append_assoc,← List.append_assoc] at tails
    obtain ⟨fronts,prints⟩ := List.append_inj' tails (by rw [fingerprint_length,fingerprint_length])
    exact ⟨check_ids_injective first second (List.append_cancel_right fronts),prints⟩
  · rintro ⟨rfl,prints⟩
    unfold evidence_id
    rw [prints]

section
variable {runs : List VerificationRun}

theorem same_ids_iff (typed : ∀ run ∈ runs, CheckId run.input.definition.id)
    (injective : Set.InjOn fingerprint {text | ∃ run ∈ runs, run.text = text}) {run other : VerificationRun}
    (member : run ∈ runs) (otherMember : other ∈ runs) :
    run.evidence.id = other.evidence.id ↔ SameExecution run other := by
  have ids : run.evidence.id = other.evidence.id ↔
      run.input.definition.id = other.input.definition.id ∧ fingerprint run.text = fingerprint other.text :=
    evidence_id_iff (typed run member) (typed other otherMember)
  rw [ids]
  unfold SameExecution
  refine and_congr_right (fun _ => ?_)
  constructor
  · intro prints
    exact body_injective (injective ⟨run,member,rfl⟩ ⟨other,otherMember,rfl⟩ prints)
  · rintro ⟨commands,results⟩
    unfold VerificationRun.text
    rw [commands,results]

/-- The ids tell evidence apart, and all of it can be recorded, exactly when no
    check repeats an execution. -/
theorem evidence_ids_iff (typed : ∀ run ∈ runs, CheckId run.input.definition.id)
    (injective : Set.InjOn fingerprint {text | ∃ run ∈ runs, run.text = text}) :
    Distinguished runs ∧ Recorded runs ↔ runs.Pairwise (fun run other => ¬ SameExecution run other) := by
  have ids : (runs.map VerificationRun.row).map EvidenceRow.id = runs.map (fun run => run.evidence.id) := by
    rw [List.map_map]
    rfl
  have recorded : Recorded runs ↔ runs.Pairwise (fun run other => ¬ SameExecution run other) := by
    unfold Recorded
    rw [recorded_iff,ids,List.Nodup,List.pairwise_map]
    exact List.Pairwise.iff_of_mem (fun {run other} member otherMember =>
      not_congr (same_ids_iff typed injective member otherMember))
  rw [recorded]
  constructor
  · exact And.right
  · intro apart
    refine ⟨List.Pairwise.imp_of_mem ?_ apart,apart⟩
    intro run other member otherMember differ _ same
    exact differ ((same_ids_iff typed injective member otherMember).mp same)

end

/-! Commands that print the same. -/

def passing_run (checkId revision : String) : VerificationRun where
  projectId := "PRJ-1"
  input := ⟨⟨checkId,"Unit tests","test_result",["pnpm","test"],1000⟩,"/repo","WP-1",revision⟩
  producerId := none
  collectedAt := 0
  result := ⟨some 0,"","",false⟩

theorem passing_texts {runs : List VerificationRun}
    (passing : ∀ run ∈ runs, ∃ id revision, run = passing_run id revision) :
    Set.InjOn fingerprint {text | ∃ run ∈ runs, run.text = text} := by
  rintro _ ⟨run,member,rfl⟩ _ ⟨other,otherMember,rfl⟩ _
  obtain ⟨_,_,rfl⟩ := passing run member
  obtain ⟨_,_,rfl⟩ := passing other otherMember
  rfl

/-- A check that prints the same on two revisions: the evidence of the second has
    the id of the first's, and is refused. -/
theorem revisions_collide :
    let runs := [passing_run "CHECK-UNIT" "rev-0",passing_run "CHECK-UNIT" "rev-1"]
    (∀ run ∈ runs, CheckId run.input.definition.id) ∧ Set.InjOn fingerprint {text | ∃ run ∈ runs, run.text = text} ∧
      ¬ Distinguished runs ∧ ¬ Recorded runs := by
  intro runs
  refine ⟨?_,passing_texts (by simp [runs]),?_,?_⟩
  · have typed : CheckId "CHECK-UNIT" := by
      unfold CheckId
      decide
    simpa [runs,passing_run] using typed
  · intro apart
    have ids := (List.pairwise_pair.mp apart) (.inr (.inr (by decide)))
    exact ids rfl
  · intro recorded
    have distinct := recorded_iff.mp recorded
    exact (List.nodup_cons.mp distinct).1 (List.mem_singleton.mpr rfl)

theorem evidence_ids_iff_checks :
    let runs := [passing_run "CHECK-UNIT" "rev-0",passing_run "CHECK-LINT" "rev-0"]
    Distinguished runs ∧ Recorded runs := by
  intro runs
  have typed : ∀ run ∈ runs, CheckId run.input.definition.id := by
    have unit : CheckId "CHECK-UNIT" := by
      unfold CheckId
      decide
    have lint : CheckId "CHECK-LINT" := by
      unfold CheckId
      decide
    simpa [runs,passing_run] using And.intro unit lint
  refine (evidence_ids_iff typed (passing_texts (by simp [runs]))).mpr (List.pairwise_pair.mpr ?_)
  rintro ⟨sameId,_⟩
  exact absurd sameId (by decide)

end V3Aidlc.Verification
