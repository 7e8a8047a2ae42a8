import V3Aidlc.WorkPackages
import V3Aidlc.Values

/-!
The project repository (`packages/database`): the tables of `schema.prisma` that its calls write, and the
calls. A call is one transaction, a list of statements each of which may fail on a unique index or a foreign key, and
what fails leaves nothing behind. Of a row only the columns are kept that an index, an event or another call
reads.
-/
namespace V3Aidlc.ProjectRecords
open V3Aidlc.Values V3Aidlc.WorkPackages

/-! ### The tables -/

structure ProjectRow where
  id : String
  name : String
  description : String
  status : String
  version : Nat

structure CriterionRow where
  id : String
  statement : String
  verificationMethod : String

/-- A requirement with the criteria that refer to it. -/
structure RequirementRow where
  id : String
  projectId : String
  title : String
  description : String
  status : String
  version : Nat
  acceptanceCriteria : List CriterionRow

structure PlanRow where
  id : String
  projectId : String
  title : String
  objective : String
  status : String
  version : Nat

/-- The columns of a work package that are given once. -/
structure PackageDetails where
  title : String
  objective : String
  intentIds : List String
  routeInstanceId : Option String
  workstreamId : Option String
  unitId : Option String
  boltId : Option String
  stage : String
  modeId : Option String
  posture : String
  riskProfileId : Option String
  expectedOutcomeTypes : List String
  promotionTarget : Option String

structure PackageRow where
  id : String
  projectId : String
  planId : String
  details : PackageDetails
  status : WorkPackageStatus
  version : Nat

structure RepositoryRow where
  id : String
  projectId : String
  rootPath : String
  defaultBranch : String
  headRevision : String

structure InvestigationRow where
  id : String
  projectId : String
  repositoryId : String
  digest : String

inductive RunStatus where
  | completed | failed | blocked | cancelled
  deriving DecidableEq

structure AgentRunRow where
  id : String
  projectId : String
  workPackageId : String
  adapterId : String
  requestDigest : String
  status : RunStatus

structure GateDecisionRow where
  id : String
  projectId : String
  workPackageId : String
  revision : String
  attempt : Int
  outcome : String

structure WorktreeRow where
  id : String
  projectId : String
  workPackageId : String
  worktreePath : String
  branch : String

structure ProposalRow where
  id : String
  projectId : String
  workPackageId : String
  worktreeSessionId : String
  baseRevision : String
  headRevision : String
  digest : String
  status : String
  externalUrl : Option String

structure PullRequestRow where
  id : String
  projectId : String
  workPackageId : String
  changeProposalId : String
  repository : String
  number : Int
  url : String
  headRevision : String

structure RequestRow where
  id : String
  projectId : String
  status : String

structure HumanDecisionRow where
  id : String
  projectId : String
  decisionRequestId : String
  selectedOptionId : String

structure DelegationRow where
  id : String
  projectId : String
  revokedAt : Option String

structure EventRow where
  id : String
  projectId : String
  type : String
  aggregateType : String
  aggregateId : String
  aggregateVersion : Nat
  payload : Dict

/-- The database. Rows are listed in the order in which they were created. -/
structure Records where
  projects : List ProjectRow
  requirements : List RequirementRow
  plans : List PlanRow
  workPackages : List PackageRow
  repositories : List RepositoryRow
  investigations : List InvestigationRow
  agentRuns : List AgentRunRow
  gateDecisions : List GateDecisionRow
  worktrees : List WorktreeRow
  proposals : List ProposalRow
  pullRequests : List PullRequestRow
  requests : List RequestRow
  decisions : List HumanDecisionRow
  delegations : List DelegationRow
  events : List EventRow

def empty : Records := ⟨[],[],[],[],[],[],[],[],[],[],[],[],[],[],[]⟩

/-! ### Statements -/

/-- `create`: no stored row may clash with the new one, and the rows that it refers to are there. -/
def insert {ρ : Type} (rows : List ρ) (row : ρ) (clash : ρ → Bool) (refers : Bool) : Except Thrown (List ρ) :=
  if rows.any clash then .error (.Error "Unique constraint failed")
  else if refers then .ok (rows ++ [row])
  else .error (.Error "Foreign key constraint violated")

theorem insert_ok {ρ : Type} {rows after : List ρ} {row : ρ} {clash : ρ → Bool} {refers : Bool} :
    insert rows row clash refers = .ok after ↔
      (∀ stored ∈ rows, clash stored = false) ∧ refers = true ∧ after = rows ++ [row] := by
  unfold insert
  by_cases taken : rows.any clash = true
  · have clashes : ¬ ∀ stored ∈ rows, clash stored = false := by simpa using taken
    simp [taken,clashes]
  · have free : ∀ stored ∈ rows, clash stored = false := by simpa using taken
    cases refers with
    | false => simp [taken]
    | true =>
      rw [if_neg taken,if_pos rfl,Except.ok.injEq]
      exact ⟨fun same => ⟨free,rfl,same.symm⟩,fun ⟨_,_,same⟩ => same.symm⟩

section
variable (db : Records)

def hasProject (id : String) : Bool := db.projects.any (fun row => row.id = id)
def hasPackage (id : String) : Bool := db.workPackages.any (fun row => row.id = id)

end

/-- The rows that the calls create, and the events. -/
inductive Row where
  | project (row : ProjectRow)
  | requirement (row : RequirementRow)
  | plan (row : PlanRow)
  | workPackage (row : PackageRow)
  | repository (row : RepositoryRow)
  | investigation (row : InvestigationRow)
  | agentRun (row : AgentRunRow)
  | gateDecision (row : GateDecisionRow)
  | worktree (row : WorktreeRow)
  | proposal (row : ProposalRow)
  | pullRequest (row : PullRequestRow)
  | request (row : RequestRow)
  | decision (row : HumanDecisionRow)
  | delegation (row : DelegationRow)
  | event (row : EventRow)

/-- Acceptance criteria have a table of their own: no two have one id, be they new or stored. -/
def criteria_clash (db : Records) (row : RequirementRow) : Bool :=
  !decide (row.acceptanceCriteria.map CriterionRow.id).Nodup ||
    db.requirements.any (fun stored => stored.acceptanceCriteria.any (fun known =>
      row.acceptanceCriteria.any (fun new => known.id = new.id)))

/-- A statement that creates a row, with the unique indexes and the foreign keys of its table. -/
def create_row (db : Records) : Row → Except Thrown Records
  | .project row => (insert db.projects row (fun stored => stored.id = row.id) true).map
      (fun rows => { db with projects := rows })
  | .requirement row => do
    let rows ← insert db.requirements row (fun stored => stored.id = row.id) (hasProject db row.projectId)
    if criteria_clash db row then throw (.Error "Unique constraint failed")
    return { db with requirements := rows }
  | .plan row => (insert db.plans row (fun stored => stored.id = row.id) (hasProject db row.projectId)).map
      (fun rows => { db with plans := rows })
  | .workPackage row => (insert db.workPackages row (fun stored => stored.id = row.id)
      (hasProject db row.projectId && db.plans.any (fun plan => plan.id = row.planId))).map
      (fun rows => { db with workPackages := rows })
  | .repository row => (insert db.repositories row
      (fun stored => stored.id = row.id || stored.projectId = row.projectId && stored.rootPath = row.rootPath)
      (hasProject db row.projectId)).map (fun rows => { db with repositories := rows })
  | .investigation row => (insert db.investigations row (fun stored => stored.id = row.id)
      (hasProject db row.projectId && db.repositories.any (fun repository => repository.id = row.repositoryId))).map
      (fun rows => { db with investigations := rows })
  | .agentRun row => (insert db.agentRuns row (fun stored => stored.id = row.id)
      (hasProject db row.projectId && hasPackage db row.workPackageId)).map
      (fun rows => { db with agentRuns := rows })
  | .gateDecision row => (insert db.gateDecisions row
      (fun stored => stored.id = row.id || stored.workPackageId = row.workPackageId &&
        (stored.revision = row.revision && stored.attempt = row.attempt))
      (hasProject db row.projectId && hasPackage db row.workPackageId)).map
      (fun rows => { db with gateDecisions := rows })
  | .worktree row => (insert db.worktrees row
      (fun stored => stored.id = row.id || stored.projectId = row.projectId &&
        (stored.branch = row.branch || stored.worktreePath = row.worktreePath))
      (hasProject db row.projectId && hasPackage db row.workPackageId)).map
      (fun rows => { db with worktrees := rows })
  | .proposal row => (insert db.proposals row
      (fun stored => stored.id = row.id ||
        stored.worktreeSessionId = row.worktreeSessionId && stored.headRevision = row.headRevision)
      (hasProject db row.projectId && hasPackage db row.workPackageId &&
        db.worktrees.any (fun worktree => worktree.id = row.worktreeSessionId))).map
      (fun rows => { db with proposals := rows })
  | .pullRequest row => (insert db.pullRequests row
      (fun stored => stored.id = row.id || (stored.changeProposalId = row.changeProposalId ||
        stored.repository = row.repository && stored.number = row.number))
      (hasProject db row.projectId && hasPackage db row.workPackageId)).map
      (fun rows => { db with pullRequests := rows })
  | .request row => (insert db.requests row (fun stored => stored.id = row.id) (hasProject db row.projectId)).map
      (fun rows => { db with requests := rows })
  | .decision row => (insert db.decisions row
      (fun stored => stored.id = row.id || stored.decisionRequestId = row.decisionRequestId)
      (hasProject db row.projectId && db.requests.any (fun request => request.id = row.decisionRequestId))).map
      (fun rows => { db with decisions := rows })
  | .delegation row => (insert db.delegations row (fun stored => stored.id = row.id) (hasProject db row.projectId)).map
      (fun rows => { db with delegations := rows })
  | .event row => (insert db.events row
      (fun stored => stored.id = row.id || stored.aggregateType = row.aggregateType &&
        (stored.aggregateId = row.aggregateId && stored.aggregateVersion = row.aggregateVersion))
      (hasProject db row.projectId)).map (fun rows => { db with events := rows })

/-- Statements one after the other, up to the first that fails. -/
def create_rows (db : Records) (rows : List Row) : Except Thrown Records := rows.foldlM create_row db

/-! ### Events -/

def project_created (row : ProjectRow) : EventRow :=
  ⟨"EVT-" ++ row.id ++ "-CREATED",row.id,"project.created","project",row.id,1,[("name",.str row.name)]⟩

def requirement_created (row : RequirementRow) : EventRow :=
  ⟨"EVT-" ++ row.id ++ "-CREATED",row.projectId,"requirement.created","requirement",row.id,1,
    [("acceptanceCriterionIds",.arr (row.acceptanceCriteria.map (fun criterion => .str criterion.id)))]⟩

def plan_created (row : PlanRow) (workPackageIds : List String) : EventRow :=
  ⟨"EVT-" ++ row.id ++ "-CREATED",row.projectId,"plan.created","plan",row.id,1,
    [("workPackageIds",.arr (workPackageIds.map .str))]⟩

def package_created (row : PackageRow) : EventRow :=
  ⟨"EVT-" ++ row.id ++ "-CREATED",row.projectId,"work-package.created","work-package",row.id,1,
    [("planId",.str row.planId),("stage",.str row.details.stage),("posture",.str row.details.posture)]⟩

def investigation_completed (row : InvestigationRow) : EventRow :=
  ⟨"EVT-" ++ row.id ++ "-COMPLETED",row.projectId,"investigation.completed","investigation",row.id,1,
    [("repositoryId",.str row.repositoryId),("digest",.str row.digest)]⟩

def RunStatus.text : RunStatus → String
  | .completed => "completed"
  | .failed => "failed"
  | .blocked => "blocked"
  | .cancelled => "cancelled"

/-- `status.toUpperCase()` -/
def RunStatus.upper : RunStatus → String
  | .completed => "COMPLETED"
  | .failed => "FAILED"
  | .blocked => "BLOCKED"
  | .cancelled => "CANCELLED"

def agent_run_ended (row : AgentRunRow) : EventRow :=
  ⟨"EVT-" ++ row.id ++ "-" ++ row.status.upper,row.projectId,"agent-run." ++ row.status.text,"agent-run",row.id,1,
    [("workPackageId",.str row.workPackageId),("adapterId",.str row.adapterId),("requestDigest",.str row.requestDigest)]⟩

def gate_evaluated (row : GateDecisionRow) : EventRow :=
  ⟨"EVT-" ++ row.id,row.projectId,"gate.evaluated","gate-decision",row.id,1,
    [("workPackageId",.str row.workPackageId),("revision",.str row.revision),("outcome",.str row.outcome)]⟩

def proposal_prepared (row : ProposalRow) : EventRow :=
  ⟨"EVT-" ++ row.id ++ "-PREPARED",row.projectId,"change-proposal.prepared","change-proposal",row.id,1,
    [("workPackageId",.str row.workPackageId),("baseRevision",.str row.baseRevision),
      ("headRevision",.str row.headRevision),("digest",.str row.digest)]⟩

def pull_request_opened (row : PullRequestRow) : EventRow :=
  ⟨"EVT-" ++ row.id ++ "-OPENED",row.projectId,"pull-request.opened","pull-request",row.id,1,
    [("repository",.str row.repository),("number",.int row.number),("headRevision",.str row.headRevision)]⟩

def decision_recorded (row : HumanDecisionRow) : EventRow :=
  ⟨"EVT-" ++ row.id ++ "-RECORDED",row.projectId,"human-decision.recorded","human-decision",row.id,1,
    [("decisionRequestId",.str row.decisionRequestId),("selectedOptionId",.str row.selectedOptionId)]⟩

def status_text : WorkPackageStatus → String
  | .proposed => "proposed" | .planned => "planned" | .eligible => "eligible" | .leased => "leased"
  | .running => "running" | .evidence_pending => "evidence_pending" | .verifying => "verifying"
  | .reviewing => "reviewing" | .repair_required => "repair_required" | .replan_required => "replan_required"
  | .decision_required => "decision_required" | .blocked => "blocked" | .accepted => "accepted"
  | .closed => "closed" | .cancelled => "cancelled" | .superseded => "superseded"

def package_transitioned (row : PackageRow) (target : WorkPackageStatus) (eventId : String) : EventRow :=
  ⟨eventId,row.projectId,"work-package.transitioned","work-package",row.id,row.version + 1,
    [("from",.str (status_text row.status)),("to",.str (status_text target))]⟩

def delegation_revoked (projectId delegationId revokedAt : String) : EventRow :=
  ⟨"EVT-" ++ delegationId ++ "-REVOKED",projectId,"delegation.revoked","standing-delegation",delegationId,2,
    [("revokedAt",.str revokedAt)]⟩

/-! ### The calls -/

structure WorkPackageInput where
  id : String
  details : PackageDetails

structure PlanInput where
  id : String
  title : String
  objective : String
  workPackages : List WorkPackageInput

structure RequirementInput where
  id : String
  title : String
  description : String
  acceptanceCriteria : List CriterionRow

structure ProjectInput where
  id : String
  name : String
  description : String

structure CreateProjectGraphInput where
  project : ProjectInput
  requirements : List RequirementInput
  plans : List PlanInput

def project_row (input : ProjectInput) : ProjectRow := ⟨input.id,input.name,input.description,"ACTIVE",1⟩

def requirement_row (projectId : String) (input : RequirementInput) : RequirementRow :=
  ⟨input.id,projectId,input.title,input.description,"APPROVED",1,input.acceptanceCriteria⟩

def plan_row (projectId : String) (input : PlanInput) : PlanRow :=
  ⟨input.id,projectId,input.title,input.objective,"APPROVED",1⟩

def package_row (projectId planId : String) (input : WorkPackageInput) : PackageRow :=
  ⟨input.id,projectId,planId,input.details,.planned,1⟩

def requirement_rows (projectId : String) (input : RequirementInput) : List Row :=
  [.requirement (requirement_row projectId input),.event (requirement_created (requirement_row projectId input))]

def package_rows (projectId planId : String) (input : WorkPackageInput) : List Row :=
  [.workPackage (package_row projectId planId input),.event (package_created (package_row projectId planId input))]

def plan_rows (projectId : String) (input : PlanInput) : List Row :=
  [.plan (plan_row projectId input),
    .event (plan_created (plan_row projectId input) (input.workPackages.map WorkPackageInput.id))] ++
    input.workPackages.flatMap (package_rows projectId input.id)

/-- The statements of `create`, in their order. -/
def graph_rows (input : CreateProjectGraphInput) : List Row :=
  [.project (project_row input.project),.event (project_created (project_row input.project))] ++
    input.requirements.flatMap (requirement_rows input.project.id) ++
    input.plans.flatMap (plan_rows input.project.id)

inductive Call where
  | create (input : CreateProjectGraphInput)
  | transitionWorkPackage (workPackageId : String) (target : WorkPackageStatus) (eventId : String)
  | registerRepository (input : RepositoryRow)
  | recordInvestigation (input : InvestigationRow)
  | recordAgentRun (input : AgentRunRow)
  | recordGateDecision (input : GateDecisionRow)
  | recordWorktreeSession (input : WorktreeRow)
  | recordChangeProposal (id projectId workPackageId worktreeSessionId baseRevision headRevision digest : String)
  | recordGitHubPullRequest (input : PullRequestRow)
  | recordDecisionRequest (id projectId : String)
  | recordHumanDecision (input : HumanDecisionRow)
  | recordStandingDelegation (id projectId : String)
  | revokeStandingDelegation (projectId delegationId revokedAt : String)

/-- A new proposal is prepared and not published. -/
def proposal_row (id projectId workPackageId worktreeSessionId baseRevision headRevision digest : String) : ProposalRow :=
  ⟨id,projectId,workPackageId,worktreeSessionId,baseRevision,headRevision,digest,"prepared",none⟩

/-- `updateMany` of the package at the version that was read. -/
def moved (current : PackageRow) (target : WorkPackageStatus) (row : PackageRow) : PackageRow :=
  if row.id = current.id ∧ row.version = current.version then { row with status := target,version := current.version + 1 }
  else row

def published (input : PullRequestRow) (row : ProposalRow) : ProposalRow :=
  if row.id = input.changeProposalId then { row with status := "published",externalUrl := some input.url } else row

def resolved (input : HumanDecisionRow) (row : RequestRow) : RequestRow :=
  if row.id = input.decisionRequestId then { row with status := "resolved" } else row

/-- The rows that `revokeStandingDelegation` updates. -/
def Revocable (projectId delegationId : String) (row : DelegationRow) : Prop :=
  row.id = delegationId ∧ row.projectId = projectId ∧ row.revokedAt = none

instance (projectId delegationId : String) (row : DelegationRow) : Decidable (Revocable projectId delegationId row) :=
  inferInstanceAs (Decidable (_ ∧ _ ∧ _))

def revoked (projectId delegationId revokedAt : String) (row : DelegationRow) : DelegationRow :=
  if Revocable projectId delegationId row then { row with revokedAt := some revokedAt } else row

def registered (input row : RepositoryRow) : RepositoryRow :=
  if row.id = input.id then
    { row with rootPath := input.rootPath,defaultBranch := input.defaultBranch,headRevision := input.headRevision }
  else row

/-- `repositoryRegistration.upsert`. An update may not take the path of another registration of the project. -/
def upsert_repository (db : Records) (input : RepositoryRow) : Except Thrown Records :=
  match db.repositories.find? (fun row => row.id = input.id) with
  | none => create_row db (.repository input)
  | some stored =>
    if db.repositories.any (fun row => row.id ≠ input.id && (row.projectId = stored.projectId && row.rootPath = input.rootPath)) then
      .error (.Error "Unique constraint failed")
    else .ok { db with repositories := db.repositories.map (registered input) }

/-- The transaction of a call. -/
def transaction (db : Records) : Call → Except Thrown Records
  | .create input => create_rows db (graph_rows input)
  | .transitionWorkPackage workPackageId target eventId =>
    match db.workPackages.find? (fun row => row.id = workPackageId) with
    | none => .error (.Error "No WorkPackage found")
    | some current => do
      assertWorkPackageTransition current.status target
      if db.workPackages.countP (fun row => row.id = current.id ∧ row.version = current.version) ≠ 1 then
        throw (.Error ("Concurrent update detected for " ++ current.id))
      create_row { db with workPackages := db.workPackages.map (moved current target) }
        (.event (package_transitioned current target eventId))
  | .registerRepository input => upsert_repository db input
  | .recordInvestigation input => create_rows db [.investigation input,.event (investigation_completed input)]
  | .recordAgentRun input => create_rows db [.agentRun input,.event (agent_run_ended input)]
  | .recordGateDecision input => create_rows db [.gateDecision input,.event (gate_evaluated input)]
  | .recordWorktreeSession input => create_row db (.worktree input)
  | .recordChangeProposal id projectId workPackageId worktreeSessionId baseRevision headRevision digest =>
    create_rows db [
      .proposal (proposal_row id projectId workPackageId worktreeSessionId baseRevision headRevision digest),
      .event (proposal_prepared
        (proposal_row id projectId workPackageId worktreeSessionId baseRevision headRevision digest))]
  | .recordGitHubPullRequest input => do
    let db ← create_row db (.pullRequest input)
    if !db.proposals.any (fun row => row.id = input.changeProposalId) then throw (.Error "Record to update not found")
    create_row { db with proposals := db.proposals.map (published input) } (.event (pull_request_opened input))
  | .recordDecisionRequest id projectId => create_row db (.request ⟨id,projectId,"pending"⟩)
  | .recordHumanDecision input => do
    let db ← create_row db (.decision input)
    create_row { db with requests := db.requests.map (resolved input) } (.event (decision_recorded input))
  | .recordStandingDelegation id projectId => create_row db (.delegation ⟨id,projectId,none⟩)
  | .revokeStandingDelegation projectId delegationId revokedAt => do
    if db.delegations.countP (fun row => Revocable projectId delegationId row) ≠ 1 then
      throw (.Error "Delegation is missing or already revoked")
    create_row { db with delegations := db.delegations.map (revoked projectId delegationId revokedAt) }
      (.event (delegation_revoked projectId delegationId revokedAt))

/-- A call that throws leaves the database as it was. -/
def next (db : Records) (call : Call) : Records :=
  match transaction db call with
  | .ok after => after
  | .error _ => db

def reached (db : Records) (calls : List Call) : Records := calls.foldl next db

end V3Aidlc.ProjectRecords
