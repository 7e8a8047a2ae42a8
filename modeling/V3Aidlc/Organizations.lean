import V3Aidlc.Loops
import V3Aidlc.WorkPackages
import Mathlib.Data.List.Nodup

/-!
Organizations and teams (`packages/organizations`, `packages/database`). A membership gives an
organization role and perhaps a team role; an action on a project is allowed by the first membership
that is in force for the project's organization and team and grants it. The calls that write the
tables keep the ids and the memberships of a team unique, and check the team that a membership or a
project is given.
-/
namespace V3Aidlc.Organizations
open V3Aidlc.Loops V3Aidlc.WorkPackages

inductive OrganizationRole where
  | owner
  | admin
  | member
  | auditor
  deriving DecidableEq

inductive TeamRole where
  | lead
  | contributor
  | reviewer
  | viewer
  deriving DecidableEq

inductive Permission where
  | organizationAdminister
  | projectView
  | projectPlan
  | workExecute
  | workReview
  | decisionApprove
  | delegationGrant
  | reportView
  deriving DecidableEq

inductive MembershipStatus where
  | invited
  | active
  | suspended
  | removed
  deriving DecidableEq

def OrganizationRole.value : OrganizationRole → String
  | .owner => "owner"
  | .admin => "admin"
  | .member => "member"
  | .auditor => "auditor"

def TeamRole.value : TeamRole → String
  | .lead => "lead"
  | .contributor => "contributor"
  | .reviewer => "reviewer"
  | .viewer => "viewer"

/-- Times are milliseconds of a `Date`. -/
structure Membership where
  id : String
  organizationId : String
  teamId : Option String := none
  principalId : String
  organizationRole : OrganizationRole
  teamRole : Option TeamRole := none
  status : MembershipStatus
  expiresAt : Option Int := none
  deriving DecidableEq

structure ProjectAssignment where
  projectId : String
  organizationId : String
  teamId : String

def organizationPermissions : OrganizationRole → List Permission
  | .owner => [.organizationAdminister,.projectView,.projectPlan,.workExecute,.workReview,.decisionApprove,
      .delegationGrant,.reportView]
  | .admin => [.organizationAdminister,.projectView,.projectPlan,.workExecute,.workReview,.delegationGrant,.reportView]
  | .member => [.projectView,.reportView]
  | .auditor => [.projectView,.reportView]

def teamPermissions : TeamRole → List Permission
  | .lead => [.projectView,.projectPlan,.workExecute,.workReview,.decisionApprove,.reportView]
  | .contributor => [.projectView,.workExecute,.reportView]
  | .reviewer => [.projectView,.workReview,.reportView]
  | .viewer => [.projectView]

structure AuthorizationResult where
  allowed : Bool
  reason : String
  membershipId : Option String := none
  deriving DecidableEq

structure AuthorizationInput where
  principalId : String
  project : ProjectAssignment
  permission : Permission
  memberships : List Membership
  now : Int
  producerIndependenceGroup : Option String := none
  reviewerIndependenceGroup : Option String := none

/-! ### Authorization -/

/-- The reviewer is of the group that produced the work. -/
def dependent_review (input : AuthorizationInput) : Bool :=
  input.permission = .workReview && input.producerIndependenceGroup.isSome &&
    input.producerIndependenceGroup = input.reviewerIndependenceGroup

/-- The membership has not expired. -/
def unexpired (now : Int) (membership : Membership) : Bool := membership.expiresAt.all (fun expires => now < expires)

/-- The condition of the source's filter. -/
def applicable (input : AuthorizationInput) (membership : Membership) : Bool :=
  membership.principalId = input.principalId && membership.organizationId = input.project.organizationId &&
    membership.status = .active && unexpired input.now membership &&
    membership.teamId.all (fun team => team = input.project.teamId)

/-- The permissions of a membership: those of its organization role and of its team role. -/
def permissions (membership : Membership) : List Permission :=
  organizationPermissions membership.organizationRole ++ (membership.teamRole.map teamPermissions).getD []

def authorizeProjectAction (input : AuthorizationInput) : AuthorizationResult :=
  if dependent_review input then
    { allowed := false, reason := "The reviewer must be independent from the work producer." }
  else
    match (input.memberships.filter (applicable input)).find? (fun membership =>
      (permissions membership).contains input.permission) with
    | some membership =>
      { allowed := true, reason := "An active scoped membership grants this action."
        membershipId := some membership.id }
    | none => { allowed := false, reason := "No active membership grants this action for this project." }

/-! ### The tables -/

structure OrganizationRow where
  id : String
  name : String
  slug : String
  status : String := "active"

structure TeamRow where
  id : String
  organizationId : String
  name : String
  slug : String
  status : String := "active"

structure AssignedProjectRow where
  id : String
  organizationId : Option String := none
  teamId : Option String := none

/-- The roles are texts in the table. -/
structure MembershipRow where
  id : String
  organizationId : String
  teamId : Option String := none
  principalId : String
  organizationRole : String
  teamRole : Option String := none
  status : MembershipStatus
  expiresAt : Option Int := none

structure Tenants where
  organizations : List OrganizationRow := []
  teams : List TeamRow := []
  projects : List AssignedProjectRow := []
  memberships : List MembershipRow := []

def thrown {α : Type} (message : String) : Except Thrown α := .error (.Error message)

def unique (taken : Bool) (fields : String) : Except Thrown Unit :=
  raise_if taken (.Error ("Unique constraint failed on the fields: (" ++ fields ++ ")"))

def references (found : Bool) : Except Thrown Unit := raise_if (!found) (.Error "Foreign key constraint violated")

/-- `createOrganization`: the organization and its first team in one statement. -/
def createOrganization (organization : OrganizationRow) (team : TeamRow) (db : Tenants) : Except Thrown Tenants := do
  unique (db.organizations.any (fun row => row.id = organization.id)) "id"
  unique (db.organizations.any (fun row => row.slug = organization.slug)) "slug"
  unique (db.teams.any (fun row => row.id = team.id)) "id"
  return { db with
    organizations := db.organizations ++ [{ organization with status := "active" }]
    teams := db.teams ++ [{ team with organizationId := organization.id, status := "active" }] }

def findTeam (teamId : String) (db : Tenants) : Except Thrown TeamRow :=
  match db.teams.find? (fun team => team.id = teamId) with
  | none => thrown "No Team found"
  | some team => .ok team

def assignProjectToTeam (projectId organizationId teamId : String) (db : Tenants) : Except Thrown Tenants := do
  let team ← findTeam teamId db
  raise_if (team.organizationId ≠ organizationId) (.Error "Team does not belong to the organization")
  raise_if (!db.projects.any (fun project => project.id = projectId)) (.Error "No record was found for an update.")
  return { db with projects := db.projects.map (fun project =>
    if project.id = projectId then { project with organizationId := some organizationId, teamId := some teamId }
    else project) }

/-- `prisma.membership.create`. Rows without a team never clash on the unique index, as two nulls are
    not equal there. -/
def create_membership (input : MembershipRow) (db : Tenants) : Except Thrown Tenants := do
  unique (db.memberships.any (fun row => row.id = input.id)) "id"
  unique (input.teamId.isSome && db.memberships.any (fun row =>
    row.organizationId = input.organizationId && row.teamId = input.teamId && row.principalId = input.principalId))
    "organizationId,teamId,principalId"
  references (db.organizations.any (fun row => row.id = input.organizationId))
  return { db with memberships := db.memberships ++ [input] }

def addMembership (input : MembershipRow) (db : Tenants) : Except Thrown Tenants :=
  match input.teamId with
  | none => create_membership input db
  | some teamId => do
    let team ← findTeam teamId db
    raise_if (team.organizationId ≠ input.organizationId) (.Error "Membership team does not belong to the organization")
    create_membership input db

/-- The role of a text that names one. -/
def role? {ρ : Type} (value : ρ → String) (roles : List ρ) (text : String) : Option ρ :=
  roles.find? (fun role => value role = text)

def organizationRole? : String → Option OrganizationRole :=
  role? OrganizationRole.value [.owner,.admin,.member,.auditor]

def teamRole? : String → Option TeamRole := role? TeamRole.value [.lead,.contributor,.reviewer,.viewer]

/-- The stored membership as a value of the type that authorization takes, where its roles are known. -/
def MembershipRow.membership (row : MembershipRow) : Option Membership := do
  let organizationRole ← organizationRole? row.organizationRole
  let teamRole ← (match row.teamRole with
    | none => some none
    | some text => (teamRole? text).map some)
  return ⟨row.id,row.organizationId,row.teamId,row.principalId,organizationRole,teamRole,row.status,row.expiresAt⟩

/-! ### Runs -/

/-- One call that returned. -/
inductive TenantStep (before after : Tenants) : Prop where
  | organization (organization : OrganizationRow) (team : TeamRow)
      (ran : createOrganization organization team before = .ok after)
  | assignment (projectId organizationId teamId : String)
      (ran : assignProjectToTeam projectId organizationId teamId before = .ok after)
  | membership (input : MembershipRow) (ran : addMembership input before = .ok after)

/-- The databases that calls reach from tables with projects only. -/
inductive Reached : Tenants → Prop where
  | start (projects : List AssignedProjectRow)
      (unassigned : ∀ project ∈ projects, project.organizationId = none ∧ project.teamId = none) :
      Reached { projects := projects }
  | step {before after : Tenants} : Reached before → TenantStep before after → Reached after

end V3Aidlc.Organizations
