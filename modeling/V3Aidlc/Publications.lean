import V3Aidlc.CallLogs
import V3Aidlc.CiGates
import V3Aidlc.Worktrees

/-!
Publications of change proposals (`packages/github`). Many proposals are published and polled in any
order, one at a time, and GitHub answers each call as it likes. A pull request is asked for only right
after its branch stood at the proposal's revision, what is returned has that revision, and a gate at it
that passes, over any part of all the evidence that was ever collected, rests for every required check
on a success that GitHub listed for this very revision (`publications_sound`).
-/
namespace V3Aidlc.Publications
open V3Aidlc.Loops V3Aidlc.Effects V3Aidlc.Effects.Proc V3Aidlc.CallLogs V3Aidlc.WorkPackages V3Aidlc.ProjectLead V3Aidlc.Verification
open V3Aidlc.CiEvidence V3Aidlc.CiGates V3Aidlc.Paths
open V3Aidlc.Worktrees (ChangeProposal)

/-! ### The client -/

inductive Call where
  | publishBranch (repository branch headRevision : String)
  | createPullRequest (repository baseBranch headBranch title body : String)
  | listChecks (repository headRevision : String)
  deriving DecidableEq

inductive PullRequestState where
  | isOpen | isClosed | isMerged
  deriving DecidableEq

structure PullRequest where
  number : Nat
  url : String
  repository : String
  baseBranch : String
  headBranch : String
  headRevision : String
  state : PullRequestState
  deriving DecidableEq

/-- GitHub, whatever it answers after the calls so far. -/
structure GitHubClient where
  publishBranch : List Call → Call → Except Thrown String
  createPullRequest : List Call → Call → Except Thrown PullRequest
  listChecks : List Call → Call → Except Thrown (List CheckSnapshot)

/-! ### The integration -/

def name_char (c : Char) : Bool := c.isAlphanum || c = '_' || c = '.' || c = '-'

-- `/^[A-Za-z0-9_.-]+\/[A-Za-z0-9_.-]+$/`
def owner_name (repository : String) : Bool :=
  match split '/' repository.toList with
  | [owner,name] => owner ≠ [] && owner.all name_char && name ≠ [] && name.all name_char
  | _ => false

def reject (condition : Bool) (message : String) : Except Thrown Unit :=
  if condition then .error (.Error message) else .ok ()

structure PublishInput where
  repository : String
  baseBranch : String
  proposal : ChangeProposal

/-- The pull request that is asked for. -/
def PublishInput.request (input : PublishInput) : Call :=
  .createPullRequest input.repository input.baseBranch input.proposal.branch input.proposal.title input.proposal.body

def publish (client : GitHubClient) (input : PublishInput) : Proc (List Call) Thrown PullRequest := do
  let proposal := input.proposal
  lift (reject (!owner_name input.repository) "Repository must use owner/name form")
  let remoteRevision ← call client.publishBranch
    (.publishBranch input.repository proposal.branch proposal.headRevision)
  lift (reject (remoteRevision ≠ proposal.headRevision) "Published branch does not match the verified proposal revision")
  let pullRequest ← call client.createPullRequest input.request
  lift (reject (pullRequest.headRevision ≠ proposal.headRevision)
    "Pull request head does not match the verified proposal revision")
  return pullRequest

structure CollectInput where
  repository : String
  pullRequest : PullRequest
  workPackageId : String
  now : Option Int
  clock : Int

/-- The poll that a collection makes after some calls. -/
def CollectInput.poll (input : CollectInput) (client : GitHubClient) (log : List Call) : Poll where
  listChecks repository headRevision := client.listChecks log (.listChecks repository headRevision)
  repository := input.repository
  pullRequest := ⟨input.pullRequest.headRevision⟩
  workPackageId := input.workPackageId
  now := input.now
  clock := input.clock

def collect (client : GitHubClient) (input : CollectInput) : Proc (List Call) Thrown (List VerificationEvidence) :=
  fun log => ((input.poll client log).collect,log ++ [.listChecks input.repository input.pullRequest.headRevision])

/-! ### Runs -/

/-- What was called, what was published, and the evidence. -/
structure Desk where
  log : List Call := []
  published : List (PublishInput × PullRequest) := []
  evidence : List VerificationEvidence := []

inductive Event where
  | publish (input : PublishInput)
  | collect (input : CollectInput)

def next (client : GitHubClient) (desk : Desk) : Event → Desk
  | .publish input =>
    match publish client input desk.log with
    | (.ok pullRequest,log) => { desk with log := log,published := desk.published ++ [(input,pullRequest)] }
    | (.error _,log) => { desk with log := log }
  | .collect input =>
    match collect client input desk.log with
    | (.ok evidence,log) => { desk with log := log,evidence := desk.evidence ++ evidence }
    | (.error _,log) => { desk with log := log }

def run (client : GitHubClient) (events : List Event) : Desk := events.foldl (next client) {}

/-! ### What holds in every run -/

/-- A pull request is asked for right after its branch was published and stood at the proposal's revision. -/
def Permitted (client : GitHubClient) (before : List Call) : Call → Prop
  | .createPullRequest repository _ headBranch title body =>
    ∃ (earlier : List Call) (proposal : ChangeProposal), before =
        earlier ++ [.publishBranch repository headBranch proposal.headRevision] ∧
      client.publishBranch earlier (.publishBranch repository headBranch proposal.headRevision) =
        .ok proposal.headRevision ∧
      owner_name repository = true ∧ proposal.branch = headBranch ∧ proposal.title = title ∧ proposal.body = body
  | _ => True

/-- The pull request was returned for this input, at the revision of its proposal. -/
def Published (client : GitHubClient) (log : List Call) (input : PublishInput) (pullRequest : PullRequest) : Prop :=
  ∃ before, before ++ [input.request] <+: log ∧ client.createPullRequest before input.request = .ok pullRequest ∧
    pullRequest.headRevision = input.proposal.headRevision

/-- GitHub listed the check, for a revision, at some moment of the log. -/
def Listed (client : GitHubClient) (log : List Call) (headRevision : String) (check : CheckSnapshot) : Prop :=
  ∃ before repository checks, before ++ [.listChecks repository headRevision] <+: log ∧
    client.listChecks before (.listChecks repository headRevision) = .ok checks ∧ check ∈ checks

/-- The record is that of a check that GitHub listed. -/
def Recorded (client : GitHubClient) (log : List Call) (record : VerificationEvidence) : Prop :=
  ∃ one : Observation, record = one.record ∧ Listed client log one.check.headRevision one.check

structure Sound (client : GitHubClient) (desk : Desk) : Prop where
  calls : Kept (Permitted client) [] desk.log
  published : ∀ entry ∈ desk.published, Published client desk.log entry.1 entry.2
  gates : ∀ given required headRevision, given ⊆ desk.evidence →
    (evaluateCiGate required headRevision given).outcome = .passed → ∀ name ∈ required, ∃ check,
      Listed client desk.log headRevision check ∧ check.name = name ∧ check.headRevision = headRevision ∧ succeeded check

section
variable {client : GitHubClient}

theorem reject_ok {condition : Bool} {message : String} {u : Unit} :
    reject condition message = .ok u ↔ condition = false := by
  cases condition <;> simp [reject]

theorem keeps_publish (input : PublishInput) (start : List Call) :
    Keeps (Kept (Permitted client) start) (publish client input) := by
  intro log kept
  unfold publish
  refine kept_check kept (fun _ named => ?_)
  refine kept_bind kept trivial (fun remoteRevision answered kept => ?_)
  refine kept_check kept (fun _ there => ?_)
  have same : remoteRevision = input.proposal.headRevision := by simpa using reject_ok.mp there
  have owned : owner_name input.repository = true := by simpa using reject_ok.mp named
  refine kept_bind kept ⟨log,input.proposal,rfl,answered.trans (by rw [same]),owned,rfl,rfl,rfl⟩
    (fun pullRequest _ kept => ?_)
  exact kept_check kept (fun _ _ => kept)

theorem publish_returns {input : PublishInput} {log after : List Call} {pullRequest : PullRequest}
    (ran : publish client input log = (.ok pullRequest,after)) : Published client after input pullRequest := by
  unfold publish at ran
  simp only [bind_returns,lift_returns,pure_returns,call_returns,reject_ok] at ran
  obtain ⟨_,_,_,_,_,_,_,_,_,pullRequest,_,⟨answered,rfl⟩,_,_,⟨head,rfl⟩,rfl,rfl⟩ := ran
  exact ⟨_,List.prefix_rfl,answered,by simpa using head⟩

theorem published_later {log later : List Call} {input : PublishInput} {pullRequest : PullRequest}
    (published : Published client log input pullRequest) (grown : log <+: later) :
    Published client later input pullRequest := by
  obtain ⟨before,inside,answered,head⟩ := published
  exact ⟨before,inside.trans grown,answered,head⟩

theorem recorded_later {log later : List Call} {record : VerificationEvidence} (recorded : Recorded client log record)
    (grown : log <+: later) : Recorded client later record := by
  obtain ⟨one,same,before,repository,checks,inside,listed,member⟩ := recorded
  exact ⟨one,same,before,repository,checks,inside.trans grown,listed,member⟩

/-- Every record of a collection is that of a check that was listed for its own revision. -/
theorem collect_returns {input : CollectInput} {log after : List Call} {evidence : List VerificationEvidence}
    (ran : collect client input log = (.ok evidence,after)) : ∀ record ∈ evidence, Recorded client after record := by
  obtain ⟨collected,rfl⟩ := Prod.ext_iff.mp ran
  intro record member
  obtain ⟨checks,listed,made⟩ := bind_ok_iff.mp collected
  obtain ⟨check,inside,returned⟩ := mapM_result made member
  by_cases here : check.headRevision = input.pullRequest.headRevision
  · refine ⟨⟨input.poll client log,check⟩,?_,log,input.repository,checks,?_,?_,inside⟩
    · have fine : ¬ check.headRevision ≠ (input.poll client log).pullRequest.headRevision := not_not.mpr here
      rw [if_neg fine] at returned
      exact (pure_ok_iff.mp returned).symm
    · rw [here]
      exact List.prefix_rfl
    · rw [here]
      exact listed
  · have other : check.headRevision ≠ (input.poll client log).pullRequest.headRevision := here
    rw [if_pos other] at returned
    cases returned

/-- A gate that passes over records of listed checks rests on a success for each required name. -/
theorem passed_listed {log : List Call} {given : List VerificationEvidence} {required : List String}
    {headRevision : String} (recorded : ∀ record ∈ given, Recorded client log record)
    (passed : (evaluateCiGate required headRevision given).outcome = .passed) : ∀ name ∈ required, ∃ check,
      Listed client log headRevision check ∧ check.name = name ∧ check.headRevision = headRevision ∧ succeeded check := by
  obtain ⟨seen,rfl,listed⟩ : ∃ seen : List Observation, given = seen.map Observation.record ∧
      ∀ one ∈ seen, Listed client log one.check.headRevision one.check := by
    clear passed
    induction given with
    | nil => exact ⟨[],rfl,by simp⟩
    | cons record rest ih =>
      obtain ⟨⟨one,rfl,here⟩,later⟩ := List.forall_mem_cons.mp recorded
      obtain ⟨seen,rfl,listed⟩ := ih later
      exact ⟨one :: seen,rfl,List.forall_mem_cons.mpr ⟨here,listed⟩⟩
  intro name needed
  have decided := gate_records_passed.mp passed name needed
  rcases first_counts_cases name headRevision seen with ⟨_,none⟩ | ⟨one,member,_,counted⟩
  · rw [none] at decided
    cases decided
  · obtain ⟨⟨named,head⟩,success⟩ := counts_passed_iff.mp (counted.symm.trans decided)
    exact ⟨one.check,head ▸ listed one member,named,head,success⟩

end

/-! ### Runs keep it -/

/-- What the state of a run says of its log. -/
structure Genuine (client : GitHubClient) (desk : Desk) : Prop where
  calls : Kept (Permitted client) [] desk.log
  published : ∀ entry ∈ desk.published, Published client desk.log entry.1 entry.2
  recorded : ∀ record ∈ desk.evidence, Recorded client desk.log record

theorem genuine_next {client : GitHubClient} {desk : Desk} (genuine : Genuine client desk) (event : Event) :
    Genuine client (next client desk event) := by
  obtain ⟨calls,published,recorded⟩ := genuine
  have later : ∀ log, desk.log <+: log → (∀ entry ∈ desk.published, Published client log entry.1 entry.2) ∧
      ∀ record ∈ desk.evidence, Recorded client log record := fun log grown =>
    ⟨fun entry member => published_later (published entry member) grown,
      fun record member => recorded_later (recorded record member) grown⟩
  cases event with
  | publish input =>
    have kept := keeps_publish input [] desk.log calls
    have grown := (keeps_publish input desk.log desk.log (kept_refl (Permitted client) desk.log)).1
    cases ran : publish client input desk.log with
    | mk result log =>
      rw [ran] at kept grown
      obtain ⟨before,evidence⟩ := later log grown
      cases result with
      | error thrown =>
        simp only [next,ran]
        exact ⟨kept,before,evidence⟩
      | ok pullRequest =>
        simp only [next,ran]
        refine ⟨kept,fun entry member => ?_,evidence⟩
        rcases List.mem_append.mp member with early | last
        · exact before entry early
        · rw [List.mem_singleton.mp last]
          exact publish_returns ran
  | collect input =>
    have grown : desk.log <+: (collect client input desk.log).2 := List.prefix_append ..
    have kept : Kept (Permitted client) [] (collect client input desk.log).2 := kept_snoc calls trivial
    cases ran : collect client input desk.log with
    | mk result log =>
      rw [ran] at kept grown
      obtain ⟨before,evidence⟩ := later log grown
      cases result with
      | error thrown =>
        simp only [next,ran]
        exact ⟨kept,before,evidence⟩
      | ok collected =>
        simp only [next,ran]
        refine ⟨kept,before,fun record member => ?_⟩
        rcases List.mem_append.mp member with early | last
        · exact evidence record early
        · exact collect_returns ran record last

theorem genuine_run (client : GitHubClient) (events : List Event) : Genuine client (run client events) := by
  unfold run
  induction events using List.reverseRecOn with
  | nil => exact ⟨kept_refl _ [],by simp,by simp⟩
  | append_singleton events event ih =>
    rw [List.foldl_concat]
    exact genuine_next ih event

/-- In every run pull requests follow their branches, have the revisions of their proposals, and pass their gates by
    successes that were listed for these. -/
theorem publications_sound (client : GitHubClient) (events : List Event) : Sound client (run client events) := by
  obtain ⟨calls,published,recorded⟩ := genuine_run client events
  exact ⟨calls,published,fun given required headRevision some passed =>
    passed_listed (fun record member => recorded record (some member)) passed⟩

end V3Aidlc.Publications
