import V3Aidlc.Groups
import V3Aidlc.TeamIsolation

/-!
The tables of organizations, teams and memberships under the calls that write them (`packages/database`). Whatever
calls are made, the rows that a row names are there and agree with it, and a principal is in a team once. So the
role that the stored memberships give a principal in the team of a project is that of one membership, and of the
project's own organization (`tenancy_sound`).
-/
namespace V3Aidlc.Tenancy
open V3Aidlc.Loops V3Aidlc.WorkPackages V3Aidlc.Groups V3Aidlc.Organizations V3Aidlc.TeamIsolation

/-- The unique columns, and what the rows say of one another. -/
structure TenantsSound (db : Tenants) : Prop where
  organizations : (db.organizations.map OrganizationRow.id).Nodup
  slugs : (db.organizations.map OrganizationRow.slug).Nodup
  teams : (db.teams.map TeamRow.id).Nodup
  owned : ∀ team ∈ db.teams, ∃ organization ∈ db.organizations, organization.id = team.organizationId
  memberships : (db.memberships.map MembershipRow.id).Nodup
  housed : ∀ row ∈ db.memberships, ∃ organization ∈ db.organizations, organization.id = row.organizationId
  belongs : ∀ row ∈ db.memberships, ∀ teamId, row.teamId = some teamId →
    ∃ team ∈ db.teams, team.id = teamId ∧ team.organizationId = row.organizationId
  single : ∀ row ∈ db.memberships, ∀ other ∈ db.memberships, row.teamId.isSome = true → row.teamId = other.teamId →
    row.principalId = other.principalId → row = other
  assigned : ∀ project ∈ db.projects, ∀ teamId, project.teamId = some teamId →
    ∃ team ∈ db.teams, team.id = teamId ∧ project.organizationId = some team.organizationId

/-- The input of an authorization that is made of the tables. -/
structure OfTables (db : Tenants) (input : AuthorizationInput) : Prop where
  memberships : input.memberships = db.memberships.filterMap MembershipRow.membership
  project : ∃ row ∈ db.projects, row.id = input.project.projectId ∧
    row.organizationId = some input.project.organizationId ∧ row.teamId = some input.project.teamId

section
variable {db after : Tenants}

/-! ### What a call that returned has done -/

theorem unique_ok {taken : Bool} {fields : String} {u : Unit} : unique taken fields = .ok u ↔ taken = false :=
  raise_if_ok

theorem references_ok {found : Bool} {u : Unit} : references found = .ok u ↔ found = true := by
  unfold references
  rw [raise_if_ok]
  simp

theorem findTeam_ok {teamId : String} {team : TeamRow} (found : findTeam teamId db = .ok team) :
    team ∈ db.teams ∧ team.id = teamId := by
  unfold findTeam at found
  cases search : db.teams.find? (fun team => team.id = teamId) with
  | none => simp [search,thrown] at found
  | some other =>
    simp only [search,Except.ok.injEq] at found
    subst found
    exact ⟨List.mem_of_find?_eq_some search,by simpa using List.find?_some search⟩

theorem createOrganization_ok {organization : OrganizationRow} {team : TeamRow} :
    createOrganization organization team db = .ok after ↔
      (∀ row ∈ db.organizations, row.id ≠ organization.id ∧ row.slug ≠ organization.slug) ∧
      (∀ row ∈ db.teams, row.id ≠ team.id) ∧
      after = { db with
        organizations := db.organizations ++ [{ organization with status := "active" }]
        teams := db.teams ++ [{ team with organizationId := organization.id, status := "active" }] } := by
  unfold createOrganization
  simp only [bind_ok_iff,unique_ok,pure_ok_iff,List.any_eq_false,decide_eq_true_eq]
  constructor
  · rintro ⟨_,ids,_,slugs,_,teams,rfl⟩
    exact ⟨fun row member => ⟨ids row member,slugs row member⟩,teams,rfl⟩
  · rintro ⟨rows,teams,rfl⟩
    exact ⟨(),fun row member => (rows row member).1,(),fun row member => (rows row member).2,(),teams,rfl⟩

/-- What the indexes and the foreign keys let through. -/
theorem create_membership_ok {input : MembershipRow} (ran : create_membership input db = .ok after) :
    (∀ row ∈ db.memberships, row.id ≠ input.id) ∧
      (∀ row ∈ db.memberships, input.teamId.isSome = true → row.organizationId = input.organizationId →
        row.teamId = input.teamId → row.principalId ≠ input.principalId) ∧
      (∃ organization ∈ db.organizations, organization.id = input.organizationId) ∧
      after = { db with memberships := db.memberships ++ [input] } := by
  unfold create_membership at ran
  simp only [bind_ok_iff,unique_ok,references_ok,pure_ok_iff] at ran
  obtain ⟨_,ids,_,places,_,found,rfl⟩ := ran
  refine ⟨by simpa using ids,?_,by simpa using found,rfl⟩
  intro row member named organization team principal
  rw [named,Bool.true_and,List.any_eq_false] at places
  exact places row member (by simp [organization,team,principal])

/-- The team that is named is one of the organization. -/
theorem addMembership_ok {input : MembershipRow} (ran : addMembership input db = .ok after) :
    create_membership input db = .ok after ∧ ∀ teamId, input.teamId = some teamId →
      ∃ team ∈ db.teams, team.id = teamId ∧ team.organizationId = input.organizationId := by
  unfold addMembership at ran
  cases named : input.teamId with
  | none =>
    simp only [named] at ran
    exact ⟨ran,by simp⟩
  | some teamId =>
    simp only [named] at ran
    obtain ⟨team,found,ran⟩ := bind_ok_iff.mp ran
    obtain ⟨_,belongs,ran⟩ := bind_ok_iff.mp ran
    obtain ⟨member,same⟩ := findTeam_ok found
    refine ⟨ran,?_⟩
    rintro _ ⟨⟩
    exact ⟨team,member,same,by simpa using belongs⟩

/-! ### One call -/

theorem organization_sound (sound : TenantsSound db) {organization : OrganizationRow} {team : TeamRow}
    (ran : createOrganization organization team db = .ok after) : TenantsSound after := by
  obtain ⟨free,fresh,rfl⟩ := createOrganization_ok.mp ran
  have kept : ∀ id, (∃ stored ∈ db.organizations, stored.id = id) →
      ∃ stored ∈ db.organizations ++ [{ organization with status := "active" }], stored.id = id :=
    fun id ⟨stored,member,same⟩ => ⟨stored,List.mem_append_left _ member,same⟩
  refine { sound with
    organizations := nodup_map_snoc sound.organizations fun row member => (free row member).1
    slugs := nodup_map_snoc sound.slugs fun row member => (free row member).2
    teams := nodup_map_snoc sound.teams fresh
    owned := ?_
    housed := fun row member => kept _ (sound.housed row member)
    belongs := ?_
    assigned := ?_ }
  · intro row member
    rcases List.mem_append.mp member with stored | new
    · exact kept _ (sound.owned row stored)
    · rw [List.mem_singleton.mp new]
      exact ⟨_,List.mem_append_right _ (List.mem_singleton.mpr rfl),rfl⟩
  · intro row member teamId named
    obtain ⟨found,inside,same⟩ := sound.belongs row member teamId named
    exact ⟨found,List.mem_append_left _ inside,same⟩
  · intro project member teamId named
    obtain ⟨found,inside,same⟩ := sound.assigned project member teamId named
    exact ⟨found,List.mem_append_left _ inside,same⟩

theorem assignment_sound (sound : TenantsSound db) {projectId organizationId teamId : String}
    (ran : assignProjectToTeam projectId organizationId teamId db = .ok after) : TenantsSound after := by
  unfold assignProjectToTeam at ran
  simp only [bind_ok_iff,raise_if_ok,pure_ok_iff] at ran
  obtain ⟨team,found,_,same,_,_,rfl⟩ := ran
  obtain ⟨inside,named⟩ := findTeam_ok found
  refine { sound with assigned := ?_ }
  intro project member other names
  obtain ⟨earlier,stored,rfl⟩ := List.mem_map.mp member
  by_cases here : earlier.id = projectId
  · rw [if_pos here] at names ⊢
    cases names
    have own : team.organizationId = organizationId := by simpa using same
    exact ⟨team,inside,named,congrArg some own.symm⟩
  · rw [if_neg here] at names ⊢
    exact sound.assigned earlier stored other names

/-- Who is in a team already is not put into it again: the index is of the organization too, but that is the
    team's. -/
theorem membership_single (sound : TenantsSound db) {input row : MembershipRow} {team : TeamRow}
    (inside : team ∈ db.teams) (own : team.organizationId = input.organizationId) (names : input.teamId = some team.id)
    (member : row ∈ db.memberships) (same : row.teamId = input.teamId) : row.organizationId = input.organizationId := by
  obtain ⟨other,stored,id,organization⟩ := sound.belongs row member team.id (same.trans names)
  obtain rfl := List.inj_on_of_nodup_map sound.teams stored inside id
  exact organization.symm.trans own

theorem membership_sound (sound : TenantsSound db) {input : MembershipRow} (ran : addMembership input db = .ok after) :
    TenantsSound after := by
  obtain ⟨created,checked⟩ := addMembership_ok ran
  obtain ⟨fresh,places,organization,rfl⟩ := create_membership_ok created
  have apart : ∀ row ∈ db.memberships, input.teamId.isSome = true → row.teamId = input.teamId →
      row.principalId ≠ input.principalId := by
    intro row member named same
    obtain ⟨teamId,names⟩ := Option.isSome_iff_exists.mp named
    obtain ⟨team,inside,rfl,own⟩ := checked teamId names
    exact places row member named (membership_single sound inside own names member same) same
  refine { sound with
    memberships := nodup_map_snoc sound.memberships fresh
    housed := ?_
    belongs := ?_
    single := ?_ }
  · intro row member
    rcases List.mem_append.mp member with stored | new
    · exact sound.housed row stored
    · exact List.mem_singleton.mp new ▸ organization
  · intro row member teamId named
    rcases List.mem_append.mp member with stored | new
    · exact sound.belongs row stored teamId named
    · obtain rfl := List.mem_singleton.mp new
      exact checked teamId named
  · intro row member other also named team principal
    rcases List.mem_append.mp member with stored | new <;> rcases List.mem_append.mp also with stored' | new'
    · exact sound.single row stored other stored' named team principal
    · obtain rfl := List.mem_singleton.mp new'
      exact absurd principal (apart row stored (team ▸ named) team)
    · obtain rfl := List.mem_singleton.mp new
      exact absurd principal.symm (apart other stored' named team.symm)
    · rw [List.mem_singleton.mp new,List.mem_singleton.mp new']

/-! ### Runs -/

theorem reached_sound (reached : Reached db) : TenantsSound db := by
  induction reached with
  | start projects unassigned =>
    refine ⟨List.nodup_nil,List.nodup_nil,List.nodup_nil,by simp,List.nodup_nil,by simp,by simp,by simp,?_⟩
    intro project member teamId named
    rw [(unassigned project member).2] at named
    cases named
  | step _ step ih =>
    cases step with
    | organization organization team ran => exact organization_sound ih ran
    | assignment projectId organizationId teamId ran => exact assignment_sound ih ran
    | membership input ran => exact membership_sound ih ran

/-- What is read of a stored membership. -/
theorem membership_of_row {row : MembershipRow} {membership : Membership} (read : row.membership = some membership) :
    membership.organizationId = row.organizationId ∧ membership.teamId = row.teamId ∧
      membership.principalId = row.principalId := by
  unfold MembershipRow.membership at read
  simp only [Option.bind_eq_bind,Option.bind_eq_some_iff,Option.pure_def,Option.some.injEq] at read
  obtain ⟨_,_,_,_,rfl⟩ := read
  exact ⟨rfl,rfl,rfl⟩

/-- Whatever calls were made, the tables are sound, and in an authorization that is made of them the memberships that
    give the principal a role in the project's team are one, of the project's organization. -/
theorem tenancy_sound (reached : Reached db) : TenantsSound db ∧ ∀ input, OfTables db input →
    ∀ membership, InForce input membership → membership.teamId = some input.project.teamId →
      membership.organizationId = input.project.organizationId ∧
        ∀ other, InForce input other → other.teamId = some input.project.teamId → other = membership := by
  have sound := reached_sound reached
  refine ⟨sound,fun input made membership force own => ?_⟩
  have stored : ∀ other, InForce input other → ∃ row ∈ db.memberships, row.membership = some other := by
    intro other force
    exact List.mem_filterMap.mp (made.memberships ▸ force.member)
  obtain ⟨project,inside,_,organization,team⟩ := made.project
  obtain ⟨row,member,read⟩ := stored membership force
  obtain ⟨place,named,principal⟩ := membership_of_row read
  obtain ⟨found,there,id,owner⟩ := sound.belongs row member _ (named.symm.trans own)
  obtain ⟨found',there',id',owner'⟩ := sound.assigned project inside _ team
  obtain rfl := List.inj_on_of_nodup_map sound.teams there there' (id.trans id'.symm)
  refine ⟨?_,fun other force' own' => ?_⟩
  · rw [place,← owner]
    exact Option.some.inj (owner'.symm.trans organization)
  · obtain ⟨row',member',read'⟩ := stored other force'
    obtain ⟨_,named',principal'⟩ := membership_of_row read'
    have same : row' = row := by
      refine sound.single row' member' row member ?_ ?_ ?_
      · rw [← named',own']
        rfl
      · rw [← named',← named,own,own']
      · rw [← principal',← principal,force.principal,force'.principal]
    exact Option.some.inj (read'.symm.trans (same ▸ read))

end

/-! Two organizations, and a project and its lead in the team of the first. -/

def lead_row : MembershipRow where
  id := "MEM-1"
  organizationId := "ORG-1"
  teamId := some "TEAM-1"
  principalId := "USER-1"
  organizationRole := "member"
  teamRole := some "lead"
  status := .active

def lead_membership : Membership where
  id := "MEM-1"
  organizationId := "ORG-1"
  teamId := some "TEAM-1"
  principalId := "USER-1"
  organizationRole := .member
  teamRole := some .lead
  status := .active

def two_organizations : Except Thrown Tenants := do
  let db ← createOrganization { id := "ORG-1", name := "First", slug := "first" }
    { id := "TEAM-1", organizationId := "ORG-1", name := "Delivery", slug := "delivery" }
    { projects := [{ id := "PRJ-1" }] }
  let db ← createOrganization { id := "ORG-2", name := "Second", slug := "second" }
    { id := "TEAM-2", organizationId := "ORG-2", name := "Delivery", slug := "delivery" } db
  let db ← assignProjectToTeam "PRJ-1" "ORG-1" "TEAM-1" db
  addMembership lead_row db

def lead_input (memberships : List MembershipRow) : AuthorizationInput where
  principalId := "USER-1"
  project := ⟨"PRJ-1","ORG-1","TEAM-1"⟩
  permission := .workExecute
  memberships := memberships.filterMap MembershipRow.membership
  now := 0

theorem tenancy_sound_lead : ∃ db, two_organizations = .ok db ∧ TenantsSound db ∧
    OfTables db (lead_input db.memberships) ∧ ∀ other, InForce (lead_input db.memberships) other →
      other.teamId = some "TEAM-1" → other = lead_membership := by
  have runs : two_organizations.toOption.any (fun db =>
      decide (db.memberships.filterMap MembershipRow.membership = [lead_membership] ∧
        db.projects.map (fun row => (row.id,row.organizationId,row.teamId)) =
          [("PRJ-1",some "ORG-1",some "TEAM-1")])) = true := by decide +kernel
  obtain ⟨db,ran,stored⟩ := returns_with runs
  obtain ⟨memberships,projects⟩ := of_decide_eq_true stored
  have reached : Reached db := by
    unfold two_organizations at ran
    obtain ⟨first,founded,ran⟩ := bind_ok_iff.mp ran
    obtain ⟨second,founded',ran⟩ := bind_ok_iff.mp ran
    obtain ⟨assigned,moved,ran⟩ := bind_ok_iff.mp ran
    exact .step (.step (.step (.step (.start _ (by simp)) (.organization _ _ founded)) (.organization _ _ founded'))
      (.assignment _ _ _ moved)) (.membership _ ran)
  have made : OfTables db (lead_input db.memberships) := by
    refine ⟨rfl,?_⟩
    have inside : ("PRJ-1",some "ORG-1",some "TEAM-1") ∈
        db.projects.map (fun row => (row.id,row.organizationId,row.teamId)) := by simp [projects]
    obtain ⟨row,member,same⟩ := List.mem_map.mp inside
    simp only [Prod.mk.injEq] at same
    exact ⟨row,member,same⟩
  obtain ⟨sound,single⟩ := tenancy_sound reached
  have force : InForce (lead_input db.memberships) lead_membership := by
    refine ⟨?_,rfl,rfl,rfl⟩
    have inside : lead_membership ∈ db.memberships.filterMap MembershipRow.membership := by simp [memberships]
    exact inside
  exact ⟨db,ran,sound,made,(single _ made lead_membership force rfl).2⟩

end V3Aidlc.Tenancy
