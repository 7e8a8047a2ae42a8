import V3Aidlc.Organizations

/-!
Isolation of teams. A membership with a team is applied to the projects of its team only, but one
without a team is applied to every project of the organization, with the team role it may carry. A
permission that is allowed is then granted by an organization role or by a role in the project's own
team, exactly unless a stray role is all that grants it (`team_isolation_iff`).
-/
namespace V3Aidlc.TeamIsolation
open V3Aidlc.Loops V3Aidlc.WorkPackages V3Aidlc.Organizations

/-- The membership is the principal's, active and not expired. -/
structure InForce (input : AuthorizationInput) (membership : Membership) : Prop where
  member : membership ∈ input.memberships
  principal : membership.principalId = input.principalId
  active : membership.status = .active
  unexpired : unexpired input.now membership = true

/-- The team role of the membership grants the permission. -/
def TeamGrants (permission : Permission) (membership : Membership) : Prop :=
  ∃ role, membership.teamRole = some role ∧ permission ∈ teamPermissions role

/-- An organization role that the principal holds in the project's organization grants the permission. -/
def ByOrganization (input : AuthorizationInput) : Prop :=
  ∃ membership, InForce input membership ∧ membership.organizationId = input.project.organizationId ∧
    input.permission ∈ organizationPermissions membership.organizationRole

/-- A team role that the principal holds in the project's own team grants the permission. -/
def ByTeam (input : AuthorizationInput) : Prop :=
  ∃ membership, InForce input membership ∧ membership.teamId = some input.project.teamId ∧
    TeamGrants input.permission membership

/-- A team role of a membership in the organization that names no team grants the permission. -/
def Stray (input : AuthorizationInput) : Prop :=
  ∃ membership, InForce input membership ∧ membership.organizationId = input.project.organizationId ∧
    membership.teamId = none ∧ TeamGrants input.permission membership

/-- What is allowed without an organization role is allowed by a role in the project's own team. -/
def Isolated (input : AuthorizationInput) : Prop :=
  (authorizeProjectAction input).allowed = true → ¬ ByOrganization input → ByTeam input

/-- The memberships that name another team than the project's. -/
def foreign (input : AuthorizationInput) (membership : Membership) : Bool :=
  !membership.teamId.all (fun team => team = input.project.teamId)

section
variable {input : AuthorizationInput} {membership : Membership}

theorem mem_permissions : input.permission ∈ permissions membership ↔
    input.permission ∈ organizationPermissions membership.organizationRole ∨
      TeamGrants input.permission membership := by
  unfold permissions TeamGrants
  rw [List.mem_append]
  cases membership.teamRole <;> simp

theorem applicable_iff (member : membership ∈ input.memberships) : applicable input membership = true ↔
    InForce input membership ∧ membership.organizationId = input.project.organizationId ∧
      (membership.teamId = none ∨ membership.teamId = some input.project.teamId) := by
  have scope : membership.teamId.all (fun team => team = input.project.teamId) = true ↔
      membership.teamId = none ∨ membership.teamId = some input.project.teamId := by
    cases membership.teamId <;> simp
  unfold applicable
  rw [Bool.and_eq_true,scope]
  simp only [Bool.and_eq_true,decide_eq_true_eq]
  constructor
  · rintro ⟨⟨⟨⟨principal,organization⟩,active⟩,current⟩,team⟩
    exact ⟨⟨member,principal,active,current⟩,organization,team⟩
  · rintro ⟨⟨_,principal,active,current⟩,organization,team⟩
    exact ⟨⟨⟨⟨principal,organization⟩,active⟩,current⟩,team⟩

/-- An action is allowed by an applicable membership that grants it, unless the review is dependent. -/
theorem allowed_iff : (authorizeProjectAction input).allowed = true ↔ dependent_review input = false ∧
    ∃ membership, InForce input membership ∧ membership.organizationId = input.project.organizationId ∧
      (membership.teamId = none ∨ membership.teamId = some input.project.teamId) ∧
      (input.permission ∈ organizationPermissions membership.organizationRole ∨
        TeamGrants input.permission membership) := by
  unfold authorizeProjectAction
  by_cases dependent : dependent_review input = true
  · simp [dependent]
  · rw [if_neg dependent]
    have independent : dependent_review input = false := by simpa using dependent
    cases found : (input.memberships.filter (applicable input)).find? (fun membership =>
        (permissions membership).contains input.permission) with
    | none =>
      refine ⟨by simp,?_⟩
      rintro ⟨_,membership,force,organization,team,grants⟩
      have listed : membership ∈ input.memberships.filter (applicable input) :=
        List.mem_filter.mpr ⟨force.member,(applicable_iff force.member).mpr ⟨force,organization,team⟩⟩
      have passed := List.find?_eq_none.mp found membership listed
      exact absurd (mem_permissions.mpr grants) (by simpa using passed)
    | some membership =>
      refine ⟨fun _ => ⟨independent,membership,?_⟩,fun _ => rfl⟩
      obtain ⟨member,applies⟩ := List.mem_filter.mp (List.mem_of_find?_eq_some found)
      obtain ⟨force,organization,team⟩ := (applicable_iff member).mp applies
      have grants : input.permission ∈ permissions membership := by simpa using List.find?_some found
      exact ⟨force,organization,team,mem_permissions.mp grants⟩

/-- A membership of another team is not applicable. -/
theorem foreign_not_applicable (other : foreign input membership = true) : applicable input membership = false := by
  unfold foreign at other
  rw [Bool.not_eq_true'] at other
  unfold applicable
  rw [other,Bool.and_false]

end

/-- Whatever the memberships, an allowed permission comes from an organization role or from a role in the
    project's own team exactly when the review is refused, such a role grants it, or no team role
    without a team does. Memberships of other teams never have a part in it. -/
theorem team_isolation_iff (input : AuthorizationInput) :
    (Isolated input ↔ dependent_review input = true ∨ ByOrganization input ∨ ByTeam input ∨ ¬ Stray input) ∧
    authorizeProjectAction { input with memberships := input.memberships.filter (fun m => !foreign input m) } =
      authorizeProjectAction input := by
  constructor
  · constructor
    · intro isolated
      by_contra fails
      simp only [not_or,not_not] at fails
      obtain ⟨independent,organization,team,membership,force,same,teamless,grants⟩ := fails
      have allowed : (authorizeProjectAction input).allowed = true :=
        allowed_iff.mpr ⟨by simpa using independent,membership,force,same,.inl teamless,.inr grants⟩
      exact team (isolated allowed organization)
    · intro holds allowed none
      obtain ⟨independent,membership,force,same,scope,grants⟩ := allowed_iff.mp allowed
      have byRole : TeamGrants input.permission membership :=
        grants.resolve_left (fun granted => none ⟨membership,force,same,granted⟩)
      rcases holds with dependent | organization | team | straight
      · rw [independent] at dependent
        cases dependent
      · exact absurd organization none
      · exact team
      · rcases scope with teamless | own
        · exact absurd ⟨membership,force,same,teamless,byRole⟩ straight
        · exact ⟨membership,force,own,byRole⟩
  · have kept : (input.memberships.filter (fun m => !foreign input m)).filter (applicable input) =
        input.memberships.filter (applicable input) := by
      rw [List.filter_filter]
      refine List.filter_congr (fun membership _ => ?_)
      by_cases other : foreign input membership = true
      · simp [foreign_not_applicable other]
      · simp [other]
    show (if dependent_review input = true then _ else _) = authorizeProjectAction input
    unfold authorizeProjectAction
    have same : applicable { input with memberships := input.memberships.filter (fun m => !foreign input m) } =
        applicable input := rfl
    rw [same,kept]

/-! ### A stray role -/

/-- A member without a team who is called a lead. -/
def stray_lead : MembershipRow :=
  { id := "MEM-2", organizationId := "ORG-1", principalId := "USER-1", organizationRole := "member"
    teamRole := some "lead", status := .active }

def stray_membership : Membership where
  id := "MEM-2"
  organizationId := "ORG-1"
  principalId := "USER-1"
  organizationRole := .member
  teamRole := some .lead
  status := .active

/-- The tables after an organization with one team, its project and the membership were stored. -/
def stray_tables : Except Thrown Tenants := do
  let db ← createOrganization { id := "ORG-1", name := "Test Organization", slug := "test-organization" }
    { id := "TEAM-1", organizationId := "ORG-1", name := "Delivery Team", slug := "delivery" }
    { projects := [{ id := "PRJ-1" }] }
  let db ← assignProjectToTeam "PRJ-1" "ORG-1" "TEAM-1" db
  addMembership stray_lead db

def stray_input (memberships : List MembershipRow) : AuthorizationInput where
  principalId := "USER-1"
  project := ⟨"PRJ-1","ORG-1","TEAM-1"⟩
  permission := .decisionApprove
  memberships := memberships.filterMap MembershipRow.membership
  now := 0

/-- The stored membership allows decisions on the project of a team that its holder is not in. -/
theorem stray_lead_approves : ∃ db, stray_tables = .ok db ∧ Reached db ∧
    (authorizeProjectAction (stray_input db.memberships)).allowed = true ∧ ¬ Isolated (stray_input db.memberships) := by
  have runs : stray_tables.toOption.any (fun db =>
      db.memberships.filterMap MembershipRow.membership = [stray_membership]) = true := by decide +kernel
  obtain ⟨db,ran,stored⟩ := returns_with runs
  have memberships : db.memberships.filterMap MembershipRow.membership = [stray_membership] := by simpa using stored
  have reached : Reached db := by
    unfold stray_tables at ran
    obtain ⟨created,founded,ran⟩ := bind_ok_iff.mp ran
    obtain ⟨assigned,moved,ran⟩ := bind_ok_iff.mp ran
    exact .step (.step (.step (.start _ (by simp)) (.organization _ _ founded)) (.assignment _ _ _ moved))
      (.membership _ ran)
  have allowed : (authorizeProjectAction (stray_input db.memberships)).allowed = true := by
    unfold stray_input
    rw [memberships]
    decide +kernel
  refine ⟨db,ran,reached,allowed,?_⟩
  intro isolated
  have only : ∀ membership, InForce (stray_input db.memberships) membership → membership = stray_membership := by
    intro membership force
    have member : membership ∈ db.memberships.filterMap MembershipRow.membership := force.member
    rw [memberships] at member
    exact List.mem_singleton.mp member
  have none : ¬ ByOrganization (stray_input db.memberships) := by
    rintro ⟨membership,force,_,grants⟩
    rw [only membership force] at grants
    have granted : Permission.decisionApprove ∈ organizationPermissions .member := grants
    exact absurd granted (by decide)
  obtain ⟨membership,force,own,_⟩ := isolated allowed none
  rw [only membership force] at own
  cases own

end V3Aidlc.TeamIsolation
