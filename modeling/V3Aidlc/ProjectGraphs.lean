import V3Aidlc.AuditTrails
import V3Aidlc.Decisions

/-!
Graphs of projects (`packages/database` and `validateProjectGraph` of `packages/domain`). `create` commits its rows
and reads them back; the graph is validated when it is read, and so after the commit. Whatever calls follow, a
graph whose input was well formed is read back as it was given, and any other graph can never be read
(`created_graph`). The store is taken to return rows in the order of their creation.
-/
namespace V3Aidlc.ProjectGraphs
open V3Aidlc.ProjectRecords V3Aidlc.AuditTrails
open V3Aidlc.Decisions (trim)
open V3Aidlc.WorkPackages (Allowed)

/-! ### The graph of a project -/

structure AcceptanceCriterion where
  id : String
  requirementId : String
  statement : String
  verificationMethod : String

structure Requirement where
  id : String
  projectId : String
  title : String
  description : String
  status : String
  version : Nat
  acceptanceCriteria : List AcceptanceCriterion

structure Plan where
  id : String
  projectId : String
  title : String
  objective : String
  status : String
  version : Nat
  workPackages : List PackageRow

structure ProjectGraph where
  project : ProjectRow
  requirements : List Requirement
  plans : List Plan
  events : List EventRow

structure DomainValidationError where
  message : String
  deriving DecidableEq

def requireText (value field : String) : Except DomainValidationError String :=
  if trim value = "" then .error ⟨field ++ " must not be empty"⟩ else .ok (trim value)

def check_criterion (requirement : Requirement) (criterion : AcceptanceCriterion) : Except DomainValidationError Unit :=
  if criterion.requirementId ≠ requirement.id then
    .error ⟨"Acceptance criterion " ++ criterion.id ++ " belongs to another requirement"⟩
  else .ok ()

def check_requirement (graph : ProjectGraph) (requirement : Requirement) : Except DomainValidationError Unit := do
  if requirement.projectId ≠ graph.project.id then
    throw ⟨"Requirement " ++ requirement.id ++ " belongs to another project"⟩
  if requirement.acceptanceCriteria.length = 0 then
    throw ⟨"Requirement " ++ requirement.id ++ " has no acceptance criteria"⟩
  requirement.acceptanceCriteria.forM (check_criterion requirement)

def check_package (graph : ProjectGraph) (plan : Plan) (workPackage : PackageRow) : Except DomainValidationError Unit :=
  if workPackage.projectId ≠ graph.project.id ∨ workPackage.planId ≠ plan.id then
    .error ⟨"Work package " ++ workPackage.id ++ " has an invalid parent"⟩
  else .ok ()

def check_plan (graph : ProjectGraph) (plan : Plan) : Except DomainValidationError Unit := do
  if plan.projectId ≠ graph.project.id then throw ⟨"Plan " ++ plan.id ++ " belongs to another project"⟩
  plan.workPackages.forM (check_package graph plan)

def validateProjectGraph (graph : ProjectGraph) : Except DomainValidationError Unit := do
  let _ ← requireText graph.project.id "project id"
  let _ ← requireText graph.project.name "project name"
  graph.requirements.forM (check_requirement graph)
  graph.plans.forM (check_plan graph)

/-! ### Reading -/

def read_criterion (requirementId : String) (row : CriterionRow) : AcceptanceCriterion :=
  ⟨row.id,requirementId,row.statement,row.verificationMethod⟩

def read_requirement (row : RequirementRow) : Requirement :=
  ⟨row.id,row.projectId,row.title,row.description,row.status.toLower,row.version,
    row.acceptanceCriteria.map (read_criterion row.id)⟩

def read_plan (db : Records) (row : PlanRow) : Plan :=
  ⟨row.id,row.projectId,row.title,row.objective,row.status.toLower,row.version,
    db.workPackages.filter (fun package => package.planId = row.id)⟩

/-- The graph as it is built from the rows. They are taken in the order in which they were created: `get` sorts by
`createdAt`, where rows of one instant tie, and does not sort acceptance criteria. -/
def read_graph (db : Records) (row : ProjectRow) : ProjectGraph :=
  ⟨{ row with status := row.status.toLower },(db.requirements.filter (fun requirement => requirement.projectId = row.id)).map read_requirement,
    (db.plans.filter (fun plan => plan.projectId = row.id)).map (read_plan db),
    db.events.filter (fun event => event.projectId = row.id)⟩

def get (db : Records) (projectId : String) : Except DomainValidationError (Option ProjectGraph) :=
  match db.projects.find? (fun row => row.id = projectId) with
  | none => .ok none
  | some row => do
    validateProjectGraph (read_graph db row)
    return some (read_graph db row)

inductive Failure where
  | database (thrown : WorkPackages.Thrown)
  | validation (error : DomainValidationError)
  | missing (message : String)

/-- `create`: what it returns or throws, and the database that it leaves. -/
def create (db : Records) (input : CreateProjectGraphInput) : Except Failure ProjectGraph × Records :=
  match transaction db (.create input) with
  | .error thrown => (.error (.database thrown),db)
  | .ok after =>
    match get after input.project.id with
    | .error error => (.error (.validation error),after)
    | .ok none => (.error (.missing ("Project " ++ input.project.id ++ " was not persisted")),after)
    | .ok (some graph) => (.ok graph,after)

/-! ### What is given and what is read -/

/-- A graph that can be read. -/
structure WellFormed (input : CreateProjectGraphInput) : Prop where
  id : trim input.project.id ≠ ""
  name : trim input.project.name ≠ ""
  criteria : ∀ requirement ∈ input.requirements, requirement.acceptanceCriteria ≠ []

def given_package (row : PackageRow) : WorkPackageInput := ⟨row.id,row.details⟩

def given_criterion (criterion : AcceptanceCriterion) : CriterionRow :=
  ⟨criterion.id,criterion.statement,criterion.verificationMethod⟩

/-- The input that a graph shows. -/
def given (graph : ProjectGraph) : CreateProjectGraphInput where
  project := ⟨graph.project.id,graph.project.name,graph.project.description⟩
  requirements := graph.requirements.map (fun requirement =>
    ⟨requirement.id,requirement.title,requirement.description,requirement.acceptanceCriteria.map given_criterion⟩)
  plans := graph.plans.map (fun plan => ⟨plan.id,plan.title,plan.objective,plan.workPackages.map given_package⟩)

/-- The rows of a graph that was created. -/
structure Holds (db : Records) (input : CreateProjectGraphInput) : Prop where
  project : db.projects.find? (fun row => row.id = input.project.id) = some (project_row input.project)
  requirements : db.requirements.filter (fun row => row.projectId = input.project.id) =
    input.requirements.map (requirement_row input.project.id)
  plans : db.plans.filter (fun row => row.projectId = input.project.id) = input.plans.map (plan_row input.project.id)
  packages : ∀ plan ∈ input.plans,
    (db.workPackages.filter (fun row => row.planId = plan.id)).map given_package = plan.workPackages
  parents : ∀ plan ∈ input.plans, ∀ row ∈ db.workPackages, row.planId = plan.id → row.projectId = input.project.id

variable {db after : Records} {input : CreateProjectGraphInput}

theorem requireText_ok {value field : String} {text : String} : requireText value field = .ok text ↔
    trim value ≠ "" ∧ trim value = text := by
  unfold requireText
  by_cases blank : trim value = "" <;> simp [blank]

theorem check_requirement_ok {graph : ProjectGraph} {requirement : Requirement} :
    check_requirement graph requirement = .ok () ↔ requirement.projectId = graph.project.id ∧
      requirement.acceptanceCriteria ≠ [] ∧
      ∀ criterion ∈ requirement.acceptanceCriteria, criterion.requirementId = requirement.id := by
  have criteria : requirement.acceptanceCriteria.forM (check_criterion requirement) = .ok () ↔
      ∀ criterion ∈ requirement.acceptanceCriteria, criterion.requirementId = requirement.id := by
    rw [Loops.forM_ok_iff]
    simp [check_criterion]
  rw [← criteria]
  by_cases foreign : requirement.projectId = graph.project.id <;>
    by_cases none : requirement.acceptanceCriteria = [] <;>
    simp [check_requirement,foreign,none,throw,throwThe,MonadExceptOf.throw,bind,Except.bind,pure,Except.pure]

theorem check_plan_ok {graph : ProjectGraph} {plan : Plan} :
    check_plan graph plan = .ok () ↔ plan.projectId = graph.project.id ∧
      ∀ package ∈ plan.workPackages, package.projectId = graph.project.id ∧ package.planId = plan.id := by
  have packages : plan.workPackages.forM (check_package graph plan) = .ok () ↔
      ∀ package ∈ plan.workPackages, package.projectId = graph.project.id ∧ package.planId = plan.id := by
    rw [Loops.forM_ok_iff]
    simp [check_package]
  rw [← packages]
  by_cases foreign : plan.projectId = graph.project.id <;>
    simp [check_plan,foreign,throw,throwThe,MonadExceptOf.throw,bind,Except.bind]

theorem validate_ok {graph : ProjectGraph} : validateProjectGraph graph = .ok () ↔
    trim graph.project.id ≠ "" ∧ trim graph.project.name ≠ "" ∧
      (∀ requirement ∈ graph.requirements, check_requirement graph requirement = .ok ()) ∧
      ∀ plan ∈ graph.plans, check_plan graph plan = .ok () := by
  simp only [validateProjectGraph,Loops.bind_ok_iff,requireText_ok,Loops.forM_ok_iff]
  constructor
  · rintro ⟨_,⟨id,_⟩,_,⟨name,_⟩,_,requirements,plans⟩
    exact ⟨id,name,requirements,plans⟩
  · rintro ⟨id,name,requirements,plans⟩
    exact ⟨_,⟨id,rfl⟩,_,⟨name,rfl⟩,(),requirements,plans⟩

/-! ### What is read of the rows -/

theorem holds_given (holds : Holds db input) : given (read_graph db (project_row input.project)) = input := by
  have requirements : (read_graph db (project_row input.project)).requirements =
      input.requirements.map (fun requirement => read_requirement (requirement_row input.project.id requirement)) := by
    rw [read_graph,project_row,holds.requirements,List.map_map]
    rfl
  have plans : (read_graph db (project_row input.project)).plans =
      input.plans.map (fun plan => read_plan db (plan_row input.project.id plan)) := by
    rw [read_graph,project_row,holds.plans,List.map_map]
    rfl
  rw [given,requirements,plans,List.map_map,List.map_map]
  have same_requirement : ∀ requirement : RequirementInput,
      (⟨requirement.id,requirement.title,requirement.description,
        (requirement.acceptanceCriteria.map (read_criterion requirement.id)).map given_criterion⟩ : RequirementInput) =
        requirement := by
    intro requirement
    simp [List.map_map,Function.comp_def,given_criterion,read_criterion]
  have same_plan : ∀ plan ∈ input.plans, (⟨plan.id,plan.title,plan.objective,
      (db.workPackages.filter (fun row => row.planId = plan.id)).map given_package⟩ : PlanInput) = plan :=
    fun plan member => by rw [holds.packages plan member]
  refine congrArg₂ (CreateProjectGraphInput.mk input.project) ?_ ?_
  · exact (List.map_congr_left fun requirement _ => same_requirement requirement).trans (List.map_id _)
  · exact (List.map_congr_left same_plan).trans (List.map_id _)

theorem holds_valid (holds : Holds db input) :
    validateProjectGraph (read_graph db (project_row input.project)) = .ok () ↔ WellFormed input := by
  have requirements : (∀ requirement ∈ (read_graph db (project_row input.project)).requirements,
      check_requirement (read_graph db (project_row input.project)) requirement = .ok ()) ↔
      ∀ requirement ∈ input.requirements, requirement.acceptanceCriteria ≠ [] := by
    simp only [check_requirement_ok]
    rw [read_graph,project_row,holds.requirements,List.map_map,List.forall_mem_map]
    simp [read_requirement,requirement_row,read_criterion]
  have plans : ∀ plan ∈ (read_graph db (project_row input.project)).plans,
      check_plan (read_graph db (project_row input.project)) plan = .ok () := by
    simp only [check_plan_ok]
    rw [read_graph,project_row,holds.plans,List.map_map,List.forall_mem_map]
    intro plan member
    refine ⟨rfl,fun package inside => ?_⟩
    obtain ⟨held,same⟩ := List.mem_filter.mp inside
    have same : package.planId = plan.id := of_decide_eq_true same
    exact ⟨holds.parents plan member package held same,same⟩
  rw [validate_ok,requirements]
  exact ⟨fun ⟨id,name,criteria,_⟩ => ⟨id,name,criteria⟩,fun formed => ⟨formed.id,formed.name,formed.criteria,plans⟩⟩

theorem get_holds (holds : Holds db input) : get db input.project.id =
    (validateProjectGraph (read_graph db (project_row input.project))).map
      (fun _ => some (read_graph db (project_row input.project))) := by
  simp only [get,holds.project]
  cases validateProjectGraph (read_graph db (project_row input.project)) <;> rfl

theorem get_ok (holds : Holds db input) (formed : WellFormed input) :
    ∃ graph, get db input.project.id = .ok (some graph) ∧ given graph = input := by
  rw [get_holds holds,(holds_valid holds).mpr formed]
  exact ⟨_,rfl,holds_given holds⟩

theorem get_error (holds : Holds db input) (broken : ¬ WellFormed input) :
    ∃ error, get db input.project.id = .error error := by
  rw [get_holds holds]
  cases valid : validateProjectGraph (read_graph db (project_row input.project)) with
  | error error => exact ⟨error,rfl⟩
  | ok _ => exact absurd ((holds_valid holds).mp valid) broken

/-! ### What the calls leave of a graph -/

theorem requirements_added (db : Records) (projectId : String) (inputs : List RequirementInput) :
    (inputs.flatMap (requirement_rows projectId)).foldl added db =
      { db with
        requirements := db.requirements ++ inputs.map (requirement_row projectId)
        events := db.events ++ (inputs.map (requirement_row projectId)).map requirement_created } := by
  induction inputs generalizing db with
  | nil => simp
  | cons input rest ih => simp [requirement_rows,added,ih]

/-- The packages of plans. -/
def plan_packages (projectId : String) (inputs : List PlanInput) : List PackageRow :=
  inputs.flatMap (fun plan => plan.workPackages.map (package_row projectId plan.id))

theorem plans_added (db : Records) (projectId : String) (inputs : List PlanInput) :
    let after := (inputs.flatMap (plan_rows projectId)).foldl added db
    after.projects = db.projects ∧ after.requirements = db.requirements ∧
      after.plans = db.plans ++ inputs.map (plan_row projectId) ∧
      after.workPackages = db.workPackages ++ plan_packages projectId inputs := by
  induction inputs generalizing db with
  | nil => simp [plan_packages]
  | cons input rest ih =>
    obtain ⟨projects,requirements,plans,packages⟩ := ih ((plan_rows projectId input).foldl added db)
    rw [List.flatMap_cons,List.foldl_append]
    refine ⟨projects.trans ?_,requirements.trans ?_,plans.trans ?_,packages.trans ?_⟩ <;> rw [plan_added] <;>
      simp [with_plan,plan_packages]

/-- The rows of a graph follow those that were there. -/
theorem graph_added (sound : Sound db) (ran : transaction db (.create input) = .ok after) :
    after.projects = db.projects ++ [project_row input.project] ∧
      after.requirements = db.requirements ++ input.requirements.map (requirement_row input.project.id) ∧
      after.plans = db.plans ++ input.plans.map (plan_row input.project.id) ∧
      after.workPackages = db.workPackages ++ plan_packages input.project.id input.plans := by
  have ran : create_rows db (graph_rows input) = .ok after := ran
  obtain ⟨rfl,_⟩ := create_rows_ok sound.keyed ran
  rw [graph_rows,List.foldl_append,List.foldl_append,requirements_added]
  obtain ⟨projects,requirements,plans,packages⟩ := plans_added _ input.project.id input.plans
  rw [projects,requirements,plans,packages]
  exact ⟨rfl,rfl,rfl,rfl⟩

theorem plan_package {projectId : String} {inputs : List PlanInput} {row : PackageRow}
    (member : row ∈ plan_packages projectId inputs) :
    row.projectId = projectId ∧ ∃ plan ∈ inputs, row.planId = plan.id := by
  obtain ⟨plan,inside,package⟩ := List.mem_flatMap.mp member
  obtain ⟨given,_,rfl⟩ := List.mem_map.mp package
  exact ⟨rfl,plan,inside,rfl⟩

/-- Plans with ids of their own have their packages for themselves. -/
theorem own_packages {projectId : String} {inputs : List PlanInput} (distinct : (inputs.map PlanInput.id).Nodup)
    {plan : PlanInput} (member : plan ∈ inputs) :
    (plan_packages projectId inputs).filter (fun row => row.planId = plan.id) =
      plan.workPackages.map (package_row projectId plan.id) := by
  obtain ⟨front,back,rfl,apart⟩ := keyed_split distinct member
  have none : ∀ others : List PlanInput, (∀ other ∈ others, other.id ≠ plan.id) →
      (plan_packages projectId others).filter (fun row => row.planId = plan.id) = [] := by
    intro others differ
    refine List.filter_eq_nil_iff.mpr fun row inside => ?_
    obtain ⟨_,other,held,same⟩ := plan_package inside
    simpa [same] using differ other held
  have split : plan_packages projectId (front ++ plan :: back) = plan_packages projectId front ++
      (plan.workPackages.map (package_row projectId plan.id) ++ plan_packages projectId back) := by
    simp [plan_packages]
  have own : (plan.workPackages.map (package_row projectId plan.id)).filter (fun row => row.planId = plan.id) =
      plan.workPackages.map (package_row projectId plan.id) := by
    simp [package_row]
  rw [split,List.filter_append,List.filter_append,own,
    none front fun other inside => apart other (List.mem_append_left _ inside),
    none back fun other inside => apart other (List.mem_append_right _ inside),List.nil_append,List.append_nil]

theorem created_holds (sound : Sound db) (ran : transaction db (.create input) = .ok after) : Holds after input := by
  have keyed := (create_sound sound ran).keyed
  obtain ⟨projects,requirements,plans,packages⟩ := graph_added sound ran
  have new_project : ∀ stored ∈ db.projects, stored.id ≠ input.project.id := by
    have ids := List.nodup_append.mp (List.map_append ▸ projects ▸ keyed.projects)
    exact fun stored held => ids.2.2 stored.id (List.mem_map_of_mem held) input.project.id (by simp [project_row])
  have ids : ((db.plans.map PlanRow.id) ++ input.plans.map PlanInput.id).Nodup := by
    have distinct := keyed.plans
    rwa [plans,List.map_append,List.map_map] at distinct
  obtain ⟨_,distinct,new_plan⟩ := List.nodup_append.mp ids
  have no_package : ∀ plan ∈ input.plans, ∀ row ∈ db.workPackages, row.planId ≠ plan.id := by
    intro plan member row held same
    obtain ⟨stored,there,named⟩ := sound.keyed.planned row held
    exact new_plan stored.id (List.mem_map_of_mem there) plan.id (List.mem_map_of_mem member) (named.trans same)
  have foreign : ∀ id, (∃ project ∈ db.projects, project.id = id) → id ≠ input.project.id := by
    rintro id ⟨stored,held,rfl⟩
    exact new_project stored held
  refine ⟨?_,?_,?_,?_,?_⟩
  · have none : db.projects.find? (fun row => row.id = input.project.id) = none := by simpa using new_project
    rw [projects,List.find?_append,none]
    simp [project_row]
  · have none : db.requirements.filter (fun row => row.projectId = input.project.id) = [] := by
      simpa using fun row held => foreign row.projectId (sound.keyed.required row held)
    rw [requirements,List.filter_append,none]
    simp [requirement_row]
  · have none : db.plans.filter (fun row => row.projectId = input.project.id) = [] := by
      simpa using fun row held => foreign row.projectId (sound.keyed.intended row held)
    rw [plans,List.filter_append,none]
    simp [plan_row]
  · intro plan member
    have none : db.workPackages.filter (fun row => row.planId = plan.id) = [] := by
      simpa using no_package plan member
    rw [packages,List.filter_append,none,own_packages distinct member,List.nil_append,List.map_map]
    exact List.map_id _
  · intro plan member row held same
    rw [packages] at held
    rcases List.mem_append.mp held with early | new
    · exact absurd same (no_package plan member row early)
    · exact (plan_package new).1

/-- A graph that is there stays, whatever other graph is created. -/
theorem create_keeps {other : CreateProjectGraphInput} (sound : Sound db) (holds : Holds db input)
    (ran : transaction db (.create other) = .ok after) : Holds after input := by
  have keyed := (create_sound sound ran).keyed
  obtain ⟨projects,requirements,plans,packages⟩ := graph_added sound ran
  have foreign : other.project.id ≠ input.project.id := by
    have ids := List.nodup_append.mp (List.map_append ▸ projects ▸ keyed.projects)
    have member := List.mem_of_find?_eq_some holds.project
    exact (ids.2.2 input.project.id (List.mem_map_of_mem member) other.project.id (by simp [project_row])).symm
  have apart : ∀ plan ∈ input.plans, ∀ new ∈ other.plans, new.id ≠ plan.id := by
    intro plan member new inside same
    have ids := List.nodup_append.mp (List.map_append ▸ plans ▸ keyed.plans)
    have stored : plan_row input.project.id plan ∈ db.plans :=
      (List.mem_filter.mp (holds.plans ▸ List.mem_map_of_mem member)).1
    exact ids.2.2 plan.id (List.mem_map_of_mem stored) new.id
      (List.mem_map_of_mem (List.mem_map_of_mem inside)) same.symm
  have no_package : ∀ plan ∈ input.plans, ∀ row ∈ plan_packages other.project.id other.plans, row.planId ≠ plan.id := by
    intro plan member row held same
    obtain ⟨_,new,inside,named⟩ := plan_package held
    exact apart plan member new inside (named.symm.trans same)
  refine ⟨?_,?_,?_,?_,?_⟩
  · rw [projects,List.find?_append,holds.project]
    rfl
  · rw [requirements,List.filter_append,holds.requirements]
    simp [requirement_row,foreign]
  · rw [plans,List.filter_append,holds.plans]
    simp [plan_row,foreign]
  · intro plan member
    have none : (plan_packages other.project.id other.plans).filter (fun row => row.planId = plan.id) = [] := by
      simpa using no_package plan member
    rw [packages,List.filter_append,none,List.append_nil]
    exact holds.packages plan member
  · intro plan member row held same
    rw [packages] at held
    rcases List.mem_append.mp held with early | new
    · exact holds.parents plan member row early same
    · exact absurd same (no_package plan member row new)

/-- A package as it was given, wherever it stands by now. -/
def Unmoved (row now : PackageRow) : Prop :=
  now.id = row.id ∧ now.projectId = row.projectId ∧ now.planId = row.planId ∧ now.details = row.details

theorem moved_unmoved (current : PackageRow) (target : WorkPackages.WorkPackageStatus) (row : PackageRow) :
    Unmoved row (moved current target row) := by
  unfold moved
  split_ifs <;> exact ⟨rfl,rfl,rfl,rfl⟩

/-- Projects, requirements and plans as before, the packages of before, and their events with more behind them. -/
structure SameGraphs (db after : Records) : Prop where
  projects : after.projects = db.projects
  requirements : after.requirements = db.requirements
  plans : after.plans = db.plans
  packages : ∃ f, after.workPackages = db.workPackages.map f ∧ ∀ row, Unmoved row (f row)
  settled : ∀ row ∈ db.workPackages, (∀ target, ¬ Allowed row.status target) → row ∈ after.workPackages
  events : db.events <+: after.events

theorem same_packages (projects : after.projects = db.projects) (requirements : after.requirements = db.requirements)
    (plans : after.plans = db.plans) (packages : after.workPackages = db.workPackages)
    (events : db.events <+: after.events) : SameGraphs db after where
  projects := projects
  requirements := requirements
  plans := plans
  packages := ⟨id,by rw [packages,List.map_id],fun _ => ⟨rfl,rfl,rfl,rfl⟩⟩
  settled := fun row member _ => packages ▸ member
  events := events

/-- No call but `create` reaches further than the status and the version of a package that may move. -/
theorem same_graphs {call : Call} (sound : Sound db) (ran : transaction db call = .ok after)
    (others : ∀ other, call ≠ .create other) : SameGraphs db after := by
  cases call with
  | create other => exact absurd rfl (others other)
  | transitionWorkPackage workPackageId target eventId =>
    obtain ⟨current,inside,_,allowed,_,rfl,_,rfl⟩ := transition_ok ran
    refine ⟨rfl,rfl,rfl,⟨_,rfl,moved_unmoved current target⟩,fun row member stuck => ?_,List.prefix_append ..⟩
    have apart : row.id ≠ current.id := by
      intro same
      obtain rfl := List.inj_on_of_nodup_map sound.keyed.workPackages member inside same
      exact stuck target allowed
    exact List.mem_map.mpr ⟨row,member,by simp [moved,apart]⟩
  | registerRepository input =>
    obtain ⟨rows,rfl⟩ := repository_ok ran
    exact same_packages rfl rfl rfl rfl List.prefix_rfl
  | recordWorktreeSession input =>
    have ran : create_row db (.worktree input) = .ok after := ran
    obtain ⟨rfl,_⟩ := create_row_ok ran
    exact same_packages rfl rfl rfl rfl List.prefix_rfl
  | recordDecisionRequest id projectId =>
    have ran : create_row db (.request ⟨id,projectId,"pending"⟩) = .ok after := ran
    obtain ⟨rfl,_⟩ := create_row_ok ran
    exact same_packages rfl rfl rfl rfl List.prefix_rfl
  | recordStandingDelegation id projectId =>
    have ran : create_row db (.delegation ⟨id,projectId,none⟩) = .ok after := ran
    obtain ⟨rfl,_⟩ := create_row_ok ran
    exact same_packages rfl rfl rfl rfl List.prefix_rfl
  | recordGitHubPullRequest input =>
    obtain ⟨_,_,_,rfl,_,rfl⟩ := pull_request_ok ran
    exact same_packages rfl rfl rfl rfl (List.prefix_append ..)
  | recordHumanDecision input =>
    obtain ⟨middle,first,ran⟩ := Loops.bind_ok_iff.mp ran
    obtain ⟨rfl,_⟩ := create_row_ok first
    obtain ⟨rfl,_⟩ := create_row_ok ran
    exact same_packages rfl rfl rfl rfl (List.prefix_append ..)
  | revokeStandingDelegation projectId delegationId revokedAt =>
    obtain ⟨_,_,rfl,_,rfl⟩ := revocation_ok ran
    exact same_packages rfl rfl rfl rfl (List.prefix_append ..)
  | _ =>
    obtain ⟨rfl,_⟩ := create_rows_ok sound.keyed ran
    exact same_packages rfl rfl rfl rfl (List.prefix_append ..)

theorem same_holds (holds : Holds db input) (same : SameGraphs db after) : Holds after input := by
  obtain ⟨f,packages,unmoved⟩ := same.packages
  refine ⟨?_,?_,?_,?_,?_⟩
  · rw [same.projects]
    exact holds.project
  · rw [same.requirements]
    exact holds.requirements
  · rw [same.plans]
    exact holds.plans
  · intro plan member
    have plans : ∀ row, (f row).planId = row.planId := fun row => (unmoved row).2.2.1
    have kept : given_package ∘ f = given_package :=
      funext fun row => congrArg₂ WorkPackageInput.mk (unmoved row).1 (unmoved row).2.2.2
    rw [packages,List.filter_map,List.map_map,kept]
    simpa [Function.comp_def,plans] using holds.packages plan member
  · intro plan member row held named
    rw [packages] at held
    obtain ⟨stored,inside,rfl⟩ := List.mem_map.mp held
    obtain ⟨_,project,under,_⟩ := unmoved stored
    exact project.trans (holds.parents plan member stored inside (under.symm.trans named))

theorem next_holds (call : Call) (sound : Sound db) (holds : Holds db input) : Holds (next db call) input := by
  unfold next
  cases ran : transaction db call with
  | error thrown => exact holds
  | ok after =>
    cases call with
    | create other => exact create_keeps sound holds ran
    | _ => exact same_holds holds (same_graphs sound ran (by simp))

theorem reached_holds (calls : List Call) (sound : Sound db) (holds : Holds db input) : Holds (reached db calls) input := by
  induction calls generalizing db with
  | nil => exact holds
  | cons call rest ih => exact ih (next_sound call sound) (next_holds call sound holds)

/-- What `create` returns or throws, in any run, and what can be read of the graph in every later state. -/
theorem created_graph (before : List Call) (input : CreateProjectGraphInput) :
    match create (reached empty before) input with
    | (.ok graph,db) => WellFormed input ∧ given graph = input ∧
        ∀ later, ∃ graph, get (reached db later) input.project.id = .ok (some graph) ∧ given graph = input
    | (.error (.database _),db) => db = reached empty before
    | (.error (.validation _),db) => ¬ WellFormed input ∧
        ∀ later, ∃ error, get (reached db later) input.project.id = .error error
    | (.error (.missing _),_) => False := by
  have sound := reached_sound before sound_empty
  unfold create
  cases ran : transaction (reached empty before) (.create input) with
  | error thrown => rfl
  | ok after =>
    have holds := created_holds sound ran
    have stays : ∀ later, Holds (reached after later) input :=
      fun later => reached_holds later (transaction_sound sound ran) holds
    by_cases formed : WellFormed input
    · obtain ⟨graph,read,same⟩ := get_ok holds formed
      simp only [read]
      exact ⟨formed,same,fun later => get_ok (stays later) formed⟩
    · obtain ⟨error,read⟩ := get_error holds formed
      simp only [read]
      exact ⟨formed,fun later => get_error (stays later) formed⟩

end V3Aidlc.ProjectGraphs
