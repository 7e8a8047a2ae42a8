import V3Aidlc.CallLogs
import V3Aidlc.Decisions
import V3Aidlc.PathTexts
import V3Aidlc.RepositoryContainment
import V3Aidlc.Sha256

/-!
Worktrees of work packages (`packages/workspace`). Git and the file system answer as they like, and
what they are asked is logged. In every run of a manager the only calls of git besides queries add a
worktree strictly inside the workspace root, on a safe branch that git has just accepted, at a commit
that it has just named (`worktree_calls`); and the worktree of a session that was created is never
taken for one outside (`created_inspected`).
-/
namespace V3Aidlc.Worktrees
open V3Aidlc.Effects V3Aidlc.Effects.Proc V3Aidlc.CallLogs V3Aidlc.Paths V3Aidlc.Canonical
open V3Aidlc.Decisions (trim)
open V3Aidlc.RepositoryContainment (relative_append)
open V3Aidlc.PathTexts (resolve_text)

inductive WorkspaceFailure where
  | WorkspaceError (message : String)
  | SystemError
  deriving DecidableEq

inductive Call where
  | mkdir (path : String)
  | git (cwd : String) (args : List String)
  deriving DecidableEq

structure GitFailure where
  stderr : String
  message : String

/-- The place of a directory, links resolved. -/
abbrev RealPlace := { place : Place // ∀ name ∈ place, Plain name }

/-- The host of the process: its answers, after the calls so far, and the lower case of texts. -/
structure Host where
  cwd : RealPlace
  realpath : List Call → String → Except WorkspaceFailure RealPlace
  mkdir : List Call → Call → Except WorkspaceFailure Unit
  execGit : List Call → Call → Except GitFailure String
  toLowerCase : String → String

/-- The text of an absolute path. -/
def path_text (place : Place) : String := "/" ++ join "/" place

def Host.real (host : Host) (path : String) : Proc (List Call) WorkspaceFailure RealPlace :=
  fun log => (host.realpath log path,log)

/-- `${stderr.trim() || error.message}` -/
def GitFailure.text (failure : GitFailure) : String :=
  if trim failure.stderr = "" then failure.message else trim failure.stderr

def runGit (host : Host) (cwd : String) (args : List String) : Proc (List Call) WorkspaceFailure String :=
  call (fun log made =>
    match host.execGit log made with
    | .ok stdout => .ok stdout
    | .error failure =>
      .error (.WorkspaceError ("git " ++ args.head?.getD "command" ++ " failed: " ++ failure.text))) (.git cwd args)

/-- `(await runGit(...)).stdout.trim()` -/
def trimmedGit (host : Host) (cwd : String) (args : List String) : Proc (List Call) WorkspaceFailure String := do
  let stdout ← runGit host cwd args
  return trim stdout

def reject (condition : Bool) (message : String) : Except WorkspaceFailure Unit :=
  if condition then .error (.WorkspaceError message) else .ok ()

/-! ### Checks -/

def assertContained (root candidate : Place) : Except WorkspaceFailure Unit :=
  let path := relative root candidate
  reject (path = "" || "..".toList.isPrefixOf path.toList || absolute path)
    "Worktree path must be a child of the workspace root"

def branch_start (c : Char) : Bool := c.isLower || c.isDigit
def branch_char (c : Char) : Bool := c.isLower || c.isDigit || c = '.' || c = '_' || c = '/' || c = '-'

-- `/^v3\/[a-z0-9][a-z0-9._/-]{0,100}$/`
def branch_pattern : List Char → Bool
  | 'v' :: '3' :: '/' :: first :: rest => branch_start first && rest.length ≤ 100 && rest.all branch_char
  | _ => false

def safe_branch (branch : String) : Bool :=
  branch_pattern branch.toList && !decide ("..".toList <:+: branch.toList) && !"/".toList.isSuffixOf branch.toList

def assertBranch (branch : String) : Except WorkspaceFailure Unit :=
  reject (!safe_branch branch) "Branch must be a safe v3/<name> reference"

/-! ### The manager -/

structure WorktreeSession where
  id : String
  workPackageId : String
  repositoryRoot : String
  worktreePath : String
  branch : String
  baseRevision : String
  headRevision : String
  deriving DecidableEq

structure GitWorktreeManager where
  repositoryRoot : RealPlace
  workspaceRoot : RealPlace
  separate : repositoryRoot ≠ workspaceRoot

/-- `GitWorktreeManager.open`. -/
def open_manager (host : Host) (repositoryRoot workspaceRoot : String) :
    Proc (List Call) WorkspaceFailure GitWorktreeManager := do
  let repo ← host.real repositoryRoot
  call host.mkdir (.mkdir workspaceRoot)
  let spaces ← host.real workspaceRoot
  let top ← trimmedGit host (path_text repo) ["rev-parse","--show-toplevel"]
  let toplevel ← host.real top
  lift (reject (toplevel ≠ repo) "Repository root must be the Git top level")
  if separate : repo ≠ spaces then return ⟨repo,spaces,separate⟩
  else lift (.error (.WorkspaceError "Workspace root must be separate from the repository checkout"))

structure SessionInput where
  id : String
  workPackageId : String
  branch : String
  baseRevision : String

def create (host : Host) (manager : GitWorktreeManager) (input : SessionInput) :
    Proc (List Call) WorkspaceFailure WorktreeSession := do
  let root := path_text manager.repositoryRoot
  lift (assertBranch input.branch)
  let _ ← runGit host root ["check-ref-format","--branch",input.branch]
  let baseRevision ← trimmedGit host root ["rev-parse","--verify",input.baseRevision ++ "^\x7bcommit\x7d"]
  let worktreePath := resolve manager.workspaceRoot (host.toLowerCase input.workPackageId)
  lift (assertContained manager.workspaceRoot worktreePath)
  let _ ← runGit host root ["worktree","add","-b",input.branch,path_text worktreePath,baseRevision]
  let headRevision ← trimmedGit host (path_text worktreePath) ["rev-parse","HEAD"]
  return ⟨input.id,input.workPackageId,root,path_text worktreePath,input.branch,baseRevision,headRevision⟩

structure Inspection where
  session : WorktreeSession
  clean : Bool
  deriving DecidableEq

/-- `GitWorktreeManager.inspect`: the session with its present head, and whether it is clean. -/
def inspect (host : Host) (manager : GitWorktreeManager) (session : WorktreeSession) :
    Proc (List Call) WorkspaceFailure Inspection := do
  lift (assertContained manager.workspaceRoot (resolve host.cwd session.worktreePath))
  let branch ← trimmedGit host session.worktreePath ["branch","--show-current"]
  lift (reject (branch ≠ session.branch) "Worktree branch no longer matches its session")
  let headRevision ← trimmedGit host session.worktreePath ["rev-parse","HEAD"]
  let status ← trimmedGit host session.worktreePath ["status","--porcelain"]
  return ⟨{ session with headRevision := headRevision },status = ""⟩

/-! ### Proposals -/

structure ProposalInput where
  id : String
  session : WorktreeSession
  title : String
  summary : String
  verificationEvidenceIds : List String

@[ext]
structure ChangeProposal where
  id : String
  workPackageId : String
  title : String
  body : String
  baseRevision : String
  headRevision : String
  branch : String
  changedFiles : List String
  verificationEvidenceIds : List String
  digest : String
  deriving DecidableEq

/-- `JSON.stringify` of texts. -/
def texts (items : List String) : String := "[" ++ join "," (items.map quote) ++ "]"

def concat (parts : List String) : String := parts.foldr (fun part rest => part ++ rest) ""

/-- `JSON.stringify` of what is digested, in this order. -/
def canonical (proposal : ChangeProposal) : String := concat [
  "\x7b\"id\":",quote proposal.id,",\"workPackageId\":",quote proposal.workPackageId,
  ",\"title\":",quote proposal.title,",\"body\":",quote proposal.body,
  ",\"baseRevision\":",quote proposal.baseRevision,",\"headRevision\":",quote proposal.headRevision,
  ",\"branch\":",quote proposal.branch,",\"changedFiles\":",texts proposal.changedFiles,
  ",\"verificationEvidenceIds\":",texts proposal.verificationEvidenceIds,"\x7d"]

/-- The proposal with the digest of the rest of it. -/
def ChangeProposal.digested (proposal : ChangeProposal) : ChangeProposal :=
  { proposal with digest := Sha256.sha256 (canonical proposal) }

/-- Whether the call ends without an error. -/
def git_succeeds (host : Host) (cwd : String) (args : List String) : Proc (List Call) WorkspaceFailure Bool :=
  call (fun log made => .ok (host.execGit log made).toBool) (.git cwd args)

/-- `.split('\n').filter(Boolean).sort()` -/
def sorted_lines (text : String) : List String :=
  sortedBy RepositoryInspection.utf16 (((split '\n' text.toList).map String.ofList).filter (fun line => line ≠ ""))

def proposal_body (summary stat : String) (verificationEvidenceIds : List String) : String :=
  trim (trim summary ++ "\n\nVerification evidence: " ++ join ", " verificationEvidenceIds ++ "\n\n" ++ stat)

def prepareChangeProposal (host : Host) (input : ProposalInput) :
    Proc (List Call) WorkspaceFailure ChangeProposal := do
  let cwd := input.session.worktreePath
  let baseRevision := input.session.baseRevision
  lift (reject (input.verificationEvidenceIds = []) "A change proposal requires verification evidence")
  let headRevision ← trimmedGit host cwd ["rev-parse","HEAD"]
  lift (reject (headRevision = baseRevision) "A change proposal requires at least one committed change")
  let ancestor ← git_succeeds host cwd ["merge-base","--is-ancestor",baseRevision,headRevision]
  lift (reject (!ancestor) "The proposal head is not based on the declared base revision")
  let names ← trimmedGit host cwd ["diff","--name-only",baseRevision ++ "..." ++ headRevision]
  let stat ← trimmedGit host cwd ["diff","--stat",baseRevision ++ "..." ++ headRevision]
  return ChangeProposal.digested {
    id := input.id
    workPackageId := input.session.workPackageId
    title := input.title
    body := proposal_body input.summary stat input.verificationEvidenceIds
    baseRevision := baseRevision
    headRevision := headRevision
    branch := input.session.branch
    changedFiles := sorted_lines names
    verificationEvidenceIds := input.verificationEvidenceIds
    digest := "" }

/-! ### Children of the workspace root -/

/-- A place strictly below a root, by names of entries, the first of which does not start with two dots. -/
def Child (root place : Place) : Prop :=
  ∃ name rest, place = root ++ name :: rest ∧ (∀ part ∈ name :: rest, Plain part) ∧ ¬ "..".toList <+: name.toList

theorem relative_child {name : String} (plain : Plain name) (root rest : Place) :
    relative root (root ++ name :: rest) = join "/" (name :: rest) ∧
      ("..".toList <+: (join "/" (name :: rest)).toList ↔ "..".toList <+: name.toList) := by
  refine ⟨relative_append root (name :: rest),?_⟩
  obtain ⟨tail,text,stops⟩ := join_first name rest
  rw [text]
  refine ⟨fun starts => ?_,fun starts => starts.trans (List.prefix_append ..)⟩
  cases letters : name.toList with
  | nil => exact absurd (String.toList_inj.mp (letters.trans rfl)) plain.named
  | cons first others =>
    rw [letters] at starts
    cases others with
    | cons second more =>
      obtain ⟨front,second_is⟩ : '.' = first ∧ '.' = second := by simpa [List.cons_prefix_cons] using starts
      simp [← front,← second_is,List.cons_prefix_cons]
    | nil =>
      -- a name of one character is a dot, or the next one is a slash
      obtain ⟨front,ending⟩ : '.' = first ∧ ['.'] <+: tail := by simpa [List.cons_prefix_cons] using starts
      exact absurd (String.toList_inj.mp (letters.trans (by rw [← front]; rfl))) plain.single

theorem relative_up {root candidate : Place} (outside : ¬ root <+: candidate) :
    "..".toList <+: (relative root candidate).toList := by
  have less : common root candidate < root.length :=
    lt_of_le_of_ne (common_le root candidate) (fun all => outside (common_all_iff.mp all))
  obtain ⟨ups,count⟩ : ∃ ups, root.length - common root candidate = ups + 1 :=
    ⟨root.length - common root candidate - 1,by omega⟩
  unfold relative
  rw [count,List.replicate_succ,List.cons_append]
  obtain ⟨tail,text,_⟩ := join_first ".." (List.replicate ups ".." ++ candidate.drop (common root candidate))
  exact ⟨tail,text.symm⟩

theorem reject_ok {condition : Bool} {message : String} {u : Unit} :
    reject condition message = .ok u ↔ condition = false := by
  cases condition <;> simp [reject]

theorem contained_child_iff {root candidate : Place} (plain : ∀ part ∈ candidate, Plain part) :
    assertContained root candidate = .ok () ↔ Child root candidate := by
  unfold assertContained
  rw [reject_ok]
  by_cases under : root <+: candidate
  · obtain ⟨names,rfl⟩ := under
    cases names with
    | nil =>
      have same : relative root (root ++ []) = "" := relative_append root []
      refine iff_of_false (by rw [same]; simp) ?_
      rintro ⟨name,rest,equal,_⟩
      simp at equal
    | cons name rest =>
      have named : Plain name := plain name (by simp)
      obtain ⟨same,dots⟩ := relative_child named root rest
      obtain ⟨filled,free⟩ : join "/" (name :: rest) ≠ "" ∧ absolute (join "/" (name :: rest)) = false := by
        rcases below_plain named rest with empty | ⟨_,_,free⟩
        · obtain ⟨tail,text,_⟩ := join_first name rest
          rw [empty] at text
          exact absurd (String.toList_inj.mp ((List.append_eq_nil_iff.mp text.symm).1.trans rfl)) named.named
        · refine ⟨fun empty => ?_,free⟩
          obtain ⟨tail,text,_⟩ := join_first name rest
          rw [empty] at text
          exact named.named (String.toList_inj.mp ((List.append_eq_nil_iff.mp text.symm).1.trans rfl))
      rw [same]
      simp only [filled,free,decide_false,Bool.false_or,Bool.or_false]
      rw [← Bool.not_eq_true,List.isPrefixOf_iff_prefix,dots]
      refine ⟨fun free => ⟨name,rest,rfl,fun part member => plain part (by simp at member ⊢; exact .inr member),free⟩,?_⟩
      rintro ⟨other,others,equal,_,free⟩
      obtain ⟨rfl,_⟩ := List.cons.inj (List.append_cancel_left equal)
      exact free
  · refine iff_of_false ?_ ?_
    · have starts := List.isPrefixOf_iff_prefix.mpr (relative_up under)
      simp only [starts,Bool.or_true,Bool.true_or]
      exact Bool.noConfusion
    · rintro ⟨name,rest,rfl,_⟩
      exact under (List.prefix_append ..)

/-! ### Runs -/

inductive Step where
  | create (input : SessionInput)
  | inspect (session : WorktreeSession)
  | propose (input : ProposalInput)

/-- The log after a step, whether it returned or threw. -/
def next (host : Host) (manager : GitWorktreeManager) (log : List Call) : Step → List Call
  | .create input => (create host manager input log).2
  | .inspect session => (inspect host manager session log).2
  | .propose input => (prepareChangeProposal host input log).2

/-- A manager is opened, and where it is, used. -/
def run (host : Host) (repositoryRoot workspaceRoot : String) (steps : List Step) (log : List Call) :
    Option GitWorktreeManager × List Call :=
  match open_manager host repositoryRoot workspaceRoot log with
  | (.ok manager,opened) => (some manager,steps.foldl (next host manager) opened)
  | (.error _,failed) => (none,failed)

/-- What git is asked besides worktrees. -/
def is_query : List String → Bool
  | ["rev-parse","--show-toplevel"] | ["rev-parse","HEAD"] | ["branch","--show-current"]
  | ["status","--porcelain"] | ["rev-parse","--verify",_] | ["check-ref-format","--branch",_]
  | ["merge-base","--is-ancestor",_,_] | ["diff","--name-only",_] | ["diff","--stat",_] => true
  | _ => false

/-- A worktree is added to the repository, below the workspace root, on a safe branch whose name git has accepted
    just before and at the commit that it has named then. -/
def Added (host : Host) (manager : GitWorktreeManager) (before : List Call) (made : Call) : Prop :=
  ∃ branch base place accepted named earlier,
    let root := path_text manager.repositoryRoot
    let check := Call.git root ["check-ref-format","--branch",branch]
    let verify := Call.git root ["rev-parse","--verify",base ++ "^\x7bcommit\x7d"]
    made = .git root ["worktree","add","-b",branch,path_text place,trim named] ∧ safe_branch branch = true ∧
      Child manager.workspaceRoot place ∧ before = earlier ++ [check] ++ [verify] ∧
      host.execGit earlier check = .ok accepted ∧ host.execGit (earlier ++ [check]) verify = .ok named

inductive Permitted (host : Host) (workspaceRoot : String) (manager : Option GitWorktreeManager) (before : List Call) :
    Call → Prop where
  | root : Permitted host workspaceRoot manager before (.mkdir workspaceRoot)
  | query {cwd : String} {args : List String} (query : is_query args = true) :
      Permitted host workspaceRoot manager before (.git cwd args)
  | worktree {opened : GitWorktreeManager} {made : Call} (present : manager = some opened)
      (added : Added host opened before made) : Permitted host workspaceRoot manager before made

section
variable {host : Host} {workspaceRoot : String} {manager : Option GitWorktreeManager} {start : List Call}

theorem keeps_query (cwd : String) {args : List String} (query : is_query args = true) :
    Keeps (Kept (Permitted host workspaceRoot manager) start) (runGit host cwd args) :=
  keeps_call _ (fun _ => .query query)

theorem keeps_trimmed (cwd : String) {args : List String} (query : is_query args = true) :
    Keeps (Kept (Permitted host workspaceRoot manager) start) (trimmedGit host cwd args) :=
  keeps_seq (keeps_query cwd query) (fun _ => keeps_pure _ _)

theorem keeps_open (repositoryRoot : String) :
    Keeps (Kept (Permitted host workspaceRoot manager) start) (open_manager host repositoryRoot workspaceRoot) := by
  have real : ∀ path, Keeps (Kept (Permitted host workspaceRoot manager) start) (host.real path) :=
    fun _ _ kept => kept
  refine keeps_seq (real _) (fun repo => keeps_seq (keeps_call _ (fun _ => .root)) (fun _ => keeps_seq (real _)
    (fun spaces => keeps_seq (keeps_trimmed _ rfl) (fun top => keeps_seq (real _) (fun toplevel =>
      keeps_seq (keeps_lift _ _) (fun _ => ?_))))))
  split
  · exact keeps_pure _ _
  · exact keeps_lift _ _

theorem keeps_inspect (opened : GitWorktreeManager) (session : WorktreeSession) :
    Keeps (Kept (Permitted host workspaceRoot manager) start) (inspect host opened session) :=
  keeps_seq (keeps_lift _ _) (fun _ => keeps_seq (keeps_trimmed _ rfl) (fun _ => keeps_seq (keeps_lift _ _)
    (fun _ => keeps_seq (keeps_trimmed _ rfl) (fun _ => keeps_seq (keeps_trimmed _ rfl) (fun _ => keeps_pure _ _)))))

theorem keeps_propose (input : ProposalInput) :
    Keeps (Kept (Permitted host workspaceRoot manager) start) (prepareChangeProposal host input) := by
  refine keeps_seq (keeps_lift _ _) (fun _ => keeps_seq (keeps_trimmed _ rfl) (fun _ => keeps_seq (keeps_lift _ _)
    (fun _ => keeps_seq (keeps_call _ (fun _ => .query rfl)) (fun _ => keeps_seq (keeps_lift _ _) (fun _ =>
      keeps_seq (keeps_trimmed _ rfl) (fun _ => keeps_seq (keeps_trimmed _ rfl) (fun _ => keeps_pure _ _)))))))

theorem trimmed_bind {β : Type} (cwd : String) (args : List String) (f : String → Proc (List Call) WorkspaceFailure β) :
    (trimmedGit host cwd args >>= f) = (runGit host cwd args >>= fun stdout => f (trim stdout)) := by
  funext log
  cases answered : runGit host cwd args log with
  | mk result after =>
    cases result with
    | error failure =>
      have failed : trimmedGit host cwd args log = (.error failure,after) := bind_run_error answered
      rw [bind_run_error failed,bind_run_error answered]
    | ok stdout =>
      have returned : trimmedGit host cwd args log = (.ok (trim stdout),after) := by
        rw [trimmedGit,bind_run_ok answered]
        rfl
      rw [bind_run_ok returned,bind_run_ok answered]

/-- What `runGit` returns is what git answered. -/
theorem answer_ok {args : List String} {log : List Call} {made : Call} {stdout : String}
    (answered : (match host.execGit log made with
      | .ok stdout => .ok stdout
      | .error failure => .error (.WorkspaceError
        ("git " ++ args.head?.getD "command" ++ " failed: " ++ failure.text)) : Except WorkspaceFailure String) =
      .ok stdout) : host.execGit log made = .ok stdout := by
  cases given : host.execGit log made with
  | error failure => simp [given] at answered
  | ok out =>
    rw [given] at answered
    rw [Except.ok.inj answered]

theorem keeps_create {opened : GitWorktreeManager} (present : manager = some opened) (input : SessionInput) :
    Keeps (Kept (Permitted host workspaceRoot manager) start) (create host opened input) := by
  intro log kept
  unfold create
  refine kept_check kept (fun _ branched => ?_)
  refine kept_bind kept (.query rfl) (fun accepted answered kept => ?_)
  rw [trimmed_bind]
  refine kept_bind kept (.query rfl) (fun named verified kept => ?_)
  refine kept_check kept (fun _ contained => ?_)
  have child := (contained_child_iff (resolve_plain opened.workspaceRoot.2 _)).mp contained
  have safe : safe_branch input.branch = true := by simpa using reject_ok.mp branched
  refine kept_bind kept (.worktree present ?_) (fun _ _ kept => ?_)
  · exact ⟨input.branch,input.baseRevision,_,accepted,named,log,rfl,safe,child,rfl,answer_ok answered,answer_ok verified⟩
  · rw [trimmed_bind]
    exact kept_bind kept (.query rfl) (fun _ _ kept => kept)

theorem kept_steps {opened : GitWorktreeManager} (present : manager = some opened) (steps : List Step) {log : List Call}
    (kept : Kept (Permitted host workspaceRoot manager) start log) :
    Kept (Permitted host workspaceRoot manager) start (steps.foldl (next host opened) log) := by
  induction steps generalizing log with
  | nil => exact kept
  | cons step rest ih =>
    refine ih ?_
    cases step with
    | create input => exact keeps_create present input log kept
    | inspect session => exact keeps_inspect opened session log kept
    | propose input => exact keeps_propose input log kept

end

/-- In every run, what a manager calls is permitted where it stands in the log. -/
theorem worktree_calls (host : Host) (repositoryRoot workspaceRoot : String) (steps : List Step) (log : List Call) :
    Kept (Permitted host workspaceRoot (run host repositoryRoot workspaceRoot steps log).1) log
      (run host repositoryRoot workspaceRoot steps log).2 := by
  unfold run
  cases opening : open_manager host repositoryRoot workspaceRoot log with
  | mk result opened =>
    have kept : ∀ manager, Kept (Permitted host workspaceRoot manager) log opened := by
      intro manager
      have this : Kept (Permitted host workspaceRoot manager) log (open_manager host repositoryRoot workspaceRoot log).2 :=
        keeps_open repositoryRoot log (kept_refl _ log)
      rwa [opening] at this
    cases result with
    | error failure => exact kept none
    | ok manager => exact kept_steps rfl steps (kept (some manager))

/-! ### Sessions -/

section
variable {host : Host} {manager : GitWorktreeManager}

theorem runGit_returns {cwd stdout : String} {args : List String} {log after : List Call} :
    runGit host cwd args log = (.ok stdout,after) ↔
      host.execGit log (.git cwd args) = .ok stdout ∧ after = log ++ [.git cwd args] := by
  unfold runGit
  rw [call_returns]
  cases host.execGit log (.git cwd args) <;> simp

theorem trimmedGit_returns {cwd text : String} {args : List String} {log after : List Call} :
    trimmedGit host cwd args log = (.ok text,after) ↔
      ∃ stdout, host.execGit log (.git cwd args) = .ok stdout ∧ trim stdout = text ∧ after = log ++ [.git cwd args] := by
  unfold trimmedGit
  simp only [bind_returns,pure_returns,runGit_returns]
  constructor
  · rintro ⟨stdout,_,⟨answered,rfl⟩,same,rfl⟩
    exact ⟨stdout,answered,same,rfl⟩
  · rintro ⟨stdout,answered,same,rfl⟩
    exact ⟨stdout,_,⟨answered,rfl⟩,same,rfl⟩

/-- What git has to answer so that a session is inspected. -/
def Inspected (host : Host) (session : WorktreeSession) (log : List Call) (inspection : Inspection) : Prop :=
  let asked (args : List String) := Call.git session.worktreePath args
  ∃ branch head status,
    host.execGit log (asked ["branch","--show-current"]) = .ok branch ∧ trim branch = session.branch ∧
    host.execGit (log ++ [asked ["branch","--show-current"]]) (asked ["rev-parse","HEAD"]) = .ok head ∧
    host.execGit (log ++ [asked ["branch","--show-current"]] ++ [asked ["rev-parse","HEAD"]])
      (asked ["status","--porcelain"]) = .ok status ∧
    inspection = ⟨{ session with headRevision := trim head },trim status = ""⟩

theorem inspect_returns {session : WorktreeSession} {log after : List Call} {inspection : Inspection} :
    inspect host manager session log = (.ok inspection,after) ↔
      Child manager.workspaceRoot (resolve host.cwd session.worktreePath) ∧ Inspected host session log inspection ∧
      after = log ++ [.git session.worktreePath ["branch","--show-current"]] ++
        [.git session.worktreePath ["rev-parse","HEAD"]] ++ [.git session.worktreePath ["status","--porcelain"]] := by
  have contained : assertContained manager.workspaceRoot (resolve host.cwd session.worktreePath) = .ok () ↔
      Child manager.workspaceRoot (resolve host.cwd session.worktreePath) := contained_child_iff (resolve_plain host.cwd.2 _)
  unfold inspect Inspected
  simp only [bind_returns,lift_returns,pure_returns,trimmedGit_returns,contained,reject_ok,decide_eq_false_iff_not,
    not_not]
  constructor
  · rintro ⟨_,_,⟨child,rfl⟩,_,_,⟨branch,answered,rfl,rfl⟩,_,_,⟨same,rfl⟩,_,_,⟨head,named,rfl,rfl⟩,_,_,
      ⟨status,listed,rfl,rfl⟩,rfl,rfl⟩
    exact ⟨child,⟨branch,head,status,answered,same,named,listed,rfl⟩,rfl⟩
  · rintro ⟨child,⟨branch,head,status,answered,same,named,listed,rfl⟩,rfl⟩
    exact ⟨(),_,⟨child,rfl⟩,_,_,⟨branch,answered,rfl,rfl⟩,(),_,⟨same,rfl⟩,_,_,⟨head,named,rfl,rfl⟩,_,_,
      ⟨status,listed,rfl,rfl⟩,rfl,rfl⟩

/-- The worktree of a session is below the workspace root, and as it was added. -/
theorem create_returns {input : SessionInput} {log after : List Call} {session : WorktreeSession}
    (ran : create host manager input log = (.ok session,after)) :
    session.worktreePath = path_text (resolve manager.workspaceRoot (host.toLowerCase input.workPackageId)) ∧
      Child manager.workspaceRoot (resolve manager.workspaceRoot (host.toLowerCase input.workPackageId)) ∧
      session.branch = input.branch ∧ safe_branch input.branch = true := by
  unfold create at ran
  simp only [bind_returns,lift_returns,pure_returns,trimmedGit_returns,runGit_returns,assertBranch,reject_ok,
    Bool.not_eq_false'] at ran
  obtain ⟨_,_,⟨safe,_⟩,_,_,_,_,_,_,_,_,⟨child,_⟩,_,_,_,_,_,_,rfl,_⟩ := ran
  exact ⟨rfl,(contained_child_iff (resolve_plain manager.workspaceRoot.2 _)).mp child,rfl,safe⟩

/-- A session that a manager has created is never outside for it: in every later log, and in every process, its
    inspection fails only where git does or has another branch there. -/
theorem created_inspected {input : SessionInput} {log after : List Call} {session : WorktreeSession}
    (ran : create host manager input log = (.ok session,after)) (present : Host) (later : List Call)
    (inspection : Inspection) :
    (inspect present manager session later).1 = .ok inspection ↔ Inspected present session later inspection := by
  obtain ⟨placed,child,_⟩ := create_returns ran
  have same : resolve present.cwd session.worktreePath =
      resolve manager.workspaceRoot (host.toLowerCase input.workPackageId) := by
    rw [placed]
    exact resolve_text _ (resolve_plain manager.workspaceRoot.2 _)
  constructor
  · intro inspected
    exact (inspect_returns.mp (Prod.ext inspected rfl)).2.1
  · intro answers
    have returned := inspect_returns.mpr ⟨same ▸ child,answers,rfl⟩
    rw [returned]

end

/-- Directories of a server. -/
def served (name : String) (plain : Plain name) : RealPlace := ⟨["srv",name],by
  simp only [List.forall_mem_cons,List.not_mem_nil,false_implies,implies_true,and_true]
  exact ⟨⟨by decide,by decide,by decide,by decide⟩,plain⟩⟩

def sample_host : Host where
  cwd := served "app" ⟨by decide,by decide,by decide,by decide⟩
  realpath _ _ := .error .SystemError
  mkdir _ _ := .ok ()
  execGit _ made :=
    match made with
    | .git _ ["branch","--show-current"] => .ok "v3/wp-1\n"
    | .git _ ["status","--porcelain"] => .ok " M notes.txt\n"
    | _ => .ok "4b825dc\n"
  toLowerCase text := text.toLower

def sample_manager : GitWorktreeManager where
  repositoryRoot := served "repo" ⟨by decide,by decide,by decide,by decide⟩
  workspaceRoot := served "spaces" ⟨by decide,by decide,by decide,by decide⟩
  separate same := absurd (congrArg Subtype.val same) (by decide)

def sample_session : WorktreeSession :=
  ⟨"S-1","WP-1","/srv/repo","/srv/spaces/wp-1","v3/wp-1","4b825dc","4b825dc"⟩

theorem created_inspected_sample :
    (inspect sample_host sample_manager sample_session []).1 = .ok ⟨sample_session,false⟩ ↔
      Inspected sample_host sample_session [] ⟨sample_session,false⟩ :=
  created_inspected (show create sample_host sample_manager ⟨"S-1","WP-1","v3/wp-1","main"⟩ [] =
    (.ok sample_session,(create sample_host sample_manager ⟨"S-1","WP-1","v3/wp-1","main"⟩ []).2) by decide +kernel) _ _ _

end V3Aidlc.Worktrees
