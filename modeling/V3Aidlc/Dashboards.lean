import V3Aidlc.DeliveryTrails
import V3Aidlc.Verification

/-!
The dashboard of a project (`getDashboard` of `packages/database`, `summarizeWork` of `packages/dashboard`). It is read
from the rows; the lifecycle events alone tell the same: whether there is a project, how many packages stand where,
and which requests are still open (`dashboards_told`).
-/
namespace V3Aidlc.Dashboards
open V3Aidlc.Values V3Aidlc.ProjectRecords V3Aidlc.AuditTrails V3Aidlc.DeliveryTrails
open V3Aidlc.WorkPackages (WorkPackageStatus)
open V3Aidlc.Verification (EvidenceRow)

structure DashboardWorkItem where
  id : String
  title : String
  workstream : String
  stage : String
  mode : String
  posture : String
  status : String
  progress : Nat
  summary : String

structure WorkSummary where
  completed : Nat
  active : Nat
  waiting : Nat
  blocked : Nat
  deriving DecidableEq

structure EvidenceSummary where
  passed : Nat
  failed : Nat
  inconclusive : Nat
  deriving DecidableEq

structure ProjectDashboard where
  id : String
  name : String
  outcome : String
  status : String
  summary : WorkSummary
  work : List DashboardWorkItem
  decisions : List String
  evidence : EvidenceSummary

/-! ### The view -/

def tally (summary : WorkSummary) (status : String) : WorkSummary :=
  if ["accepted","closed"].contains status then { summary with completed := summary.completed + 1 }
  else if status = "blocked" then { summary with blocked := summary.blocked + 1 }
  else if ["planned","eligible","repair_required","decision_required"].contains status then
    { summary with waiting := summary.waiting + 1 }
  else { summary with active := summary.active + 1 }

def summarize (statuses : List String) : WorkSummary := statuses.foldl tally ⟨0,0,0,0⟩

def summarizeWork (work : List DashboardWorkItem) : WorkSummary := summarize (work.map DashboardWorkItem.status)

def progress : WorkPackageStatus → Nat
  | .proposed => 5 | .planned => 10 | .eligible => 15 | .leased => 20 | .running => 45
  | .evidence_pending => 65 | .verifying => 75 | .reviewing => 85 | .repair_required => 55
  | .replan_required => 20 | .decision_required => 50 | .blocked => 50 | .accepted => 95 | .closed => 100
  | .cancelled => 100 | .superseded => 100

def work_item (row : PackageRow) : DashboardWorkItem where
  id := row.id
  title := row.details.title
  workstream := row.details.workstreamId.getD "Primary workstream"
  stage := row.details.stage
  mode := row.details.modeId.getD "Standard delivery"
  posture := row.details.posture
  status := status_text row.status
  progress := progress row.status
  summary := row.details.objective

def ends_with (text ending : String) : Bool := ending.toList.isSuffixOf text.toList

def has_passed (row : EvidenceRow) : Bool :=
  row.assertions.any (fun value => ends_with value ": passed" || value = "approved")

def has_failed (row : EvidenceRow) : Bool :=
  row.assertions.any (fun value =>
    [": failed",": failure",": cancelled",": timed_out"].any (ends_with value) || value = "changes_requested")

/-- `Math.max(0, …)` is the difference of natural numbers. -/
def summarize_evidence (rows : List EvidenceRow) : EvidenceSummary where
  passed := (rows.filter has_passed).length
  failed := (rows.filter has_failed).length
  inconclusive := rows.length - (rows.filter has_passed).length - (rows.filter has_failed).length

/-- The rows are taken in the order in which they were created. -/
def dashboard (db : Records) (evidence : List EvidenceRow) (row : ProjectRow) : ProjectDashboard where
  id := row.id
  name := row.name
  outcome := row.description
  status := row.status.toLower
  summary := summarizeWork ((db.workPackages.filter (fun package => package.projectId = row.id)).map work_item)
  work := (db.workPackages.filter (fun package => package.projectId = row.id)).map work_item
  decisions := (db.requests.filter (fun request => request.projectId = row.id ∧ request.status = "pending")).map RequestRow.id
  evidence := summarize_evidence (evidence.filter (fun record => record.projectId = row.id))

def getDashboard (db : Records) (evidence : List EvidenceRow) (projectId : String) : Option ProjectDashboard :=
  (db.projects.find? (fun row => row.id = projectId)).map (dashboard db evidence)

/-! ### Counts -/

theorem tally_comm (summary : WorkSummary) (first second : String) :
    tally (tally summary first) second = tally (tally summary second) first := by
  unfold tally
  split_ifs <;> rfl

/-- The order of the packages does not count. -/
theorem summarize_perm {statuses others : List String} (same : statuses.Perm others) :
    summarize statuses = summarize others :=
  same.foldl_eq' (fun first _ second _ summary => tally_comm summary first second) _

theorem tally_total (statuses : List String) (summary : WorkSummary) :
    let after := statuses.foldl tally summary
    after.completed + after.active + after.waiting + after.blocked =
      summary.completed + summary.active + summary.waiting + summary.blocked + statuses.length := by
  induction statuses generalizing summary with
  | nil => rfl
  | cons status rest ih =>
    have one : (tally summary status).completed + (tally summary status).active + (tally summary status).waiting +
        (tally summary status).blocked =
          summary.completed + summary.active + summary.waiting + summary.blocked + 1 := by
      unfold tally
      split_ifs <;> simp only [] <;> omega
    have := ih (tally summary status)
    simp only [List.foldl_cons,List.length_cons] at this ⊢
    omega

/-! ### What the events tell -/

/-- The state of a package by its events. -/
def state_told (id : String) (events : List EventRow) : String := (moves (trail id events)).getLast?.getD "planned"

/-- The packages of a project by the events of their creation. -/
def packages_told (projectId : String) (events : List EventRow) : List String :=
  (events.filter (fun event => event.aggregateVersion = 1 ∧ event.aggregateType = "work-package" ∧
    event.projectId = projectId)).map EventRow.aggregateId

def summary_told (projectId : String) (events : List EventRow) : WorkSummary :=
  summarize ((packages_told projectId events).map (fun id => state_told id events))

/-- The event of a decision on the request. -/
def Decides (requestId : String) (event : EventRow) : Prop :=
  event.aggregateType = "human-decision" ∧ Dict.get? "decisionRequestId" event.payload = some (.str requestId)

/-- The event of the creation of the project. -/
def Creates (projectId : String) (event : EventRow) : Prop :=
  event.aggregateType = "project" ∧ event.aggregateId = projectId

/-- A dashboard that the events tell as well. -/
structure Told (db : Records) (projectId : String) (dashboard : ProjectDashboard) : Prop where
  created : ∃ event ∈ db.events, Creates projectId event
  summary : dashboard.summary = summary_told projectId db.events
  total : dashboard.summary.completed + dashboard.summary.active + dashboard.summary.waiting +
    dashboard.summary.blocked = (packages_told projectId db.events).length
  decisions : ∀ request ∈ db.requests, request.projectId = projectId →
    (request.id ∈ dashboard.decisions ↔ ∀ event ∈ db.events, ¬ Decides request.id event)

section
variable {db : Records} {row : PackageRow} {events : List EventRow} {status : WorkPackageStatus} {version : Nat}

theorem path_told (path : Path row events status version) : (moves events).getLast?.getD "planned" = status_text status := by
  cases path with
  | created => rfl
  | moved before allowed => simp [moves,List.filterMap_append,moved_to_transition]

/-- The events of version 1, and the rows that they are of. -/
theorem born_rows (audited : Audited db) : (db.events.filter (fun event => event.aggregateVersion = 1)).Perm
    (db.projects.map project_created ++ db.requirements.map requirement_created ++
      db.plans.map (fun plan => plan_created plan (packageIds db plan.id)) ++ db.workPackages.map package_created ++
      db.investigations.map investigation_completed ++ db.agentRuns.map agent_run_ended ++
      db.gateDecisions.map gate_evaluated ++ db.proposals.map proposal_prepared ++
      db.pullRequests.map pull_request_opened ++ db.decisions.map decision_recorded) :=
  Multiset.coe_eq_coe.mp audited.born

theorem told_packages (audited : Audited db) (projectId : String) : (packages_told projectId db.events).Perm
    ((db.workPackages.filter (fun row => row.projectId = projectId)).map PackageRow.id) := by
  have born := ((born_rows audited).filter (fun event => event.aggregateType = "work-package" ∧
    event.projectId = projectId)).map EventRow.aggregateId
  have ids : EventRow.aggregateId ∘ package_created = PackageRow.id := rfl
  simp only [List.filter_append,List.filter_map,Function.comp_def,project_created,requirement_created,plan_created,
    package_created,investigation_completed,agent_run_ended,gate_evaluated,proposal_prepared,pull_request_opened,
    decision_recorded,List.filter_filter] at born
  simpa [packages_told,and_comm,Bool.and_assoc,ids] using born

theorem told_projects (audited : Audited db) : (db.events.filter (fun event => event.aggregateVersion = 1 ∧
    event.aggregateType = "project")).Perm (db.projects.map project_created) := by
  have born := (born_rows audited).filter (fun event => event.aggregateType = "project")
  simp only [List.filter_append,List.filter_map,Function.comp_def,project_created,requirement_created,plan_created,
    package_created,investigation_completed,agent_run_ended,gate_evaluated,proposal_prepared,pull_request_opened,
    decision_recorded,List.filter_filter] at born
  simpa [and_comm] using born

theorem told_decisions (audited : Audited db) : (db.events.filter (fun event => event.aggregateVersion = 1 ∧
    event.aggregateType = "human-decision")).Perm (db.decisions.map decision_recorded) := by
  have born := (born_rows audited).filter (fun event => event.aggregateType = "human-decision")
  simp only [List.filter_append,List.filter_map,Function.comp_def,project_created,requirement_created,plan_created,
    package_created,investigation_completed,agent_run_ended,gate_evaluated,proposal_prepared,pull_request_opened,
    decision_recorded,List.filter_filter] at born
  simpa [and_comm] using born

/-- Only packages and delegations have events of later versions. -/
theorem only_first (audited : Audited db) {event : EventRow} (member : event ∈ db.events) {type : String}
    (named : event.aggregateType = type) (package : type ≠ "work-package") (delegation : type ≠ "standing-delegation") :
    event ∈ db.events.filter (fun event => event.aggregateVersion = 1 ∧ event.aggregateType = type) := by
  have first : event.aggregateVersion = 1 := by
    by_contra later
    rcases audited.later event member later with other | other
    · exact package (named.symm.trans other)
    · exact delegation (named.symm.trans other)
  exact List.mem_filter.mpr ⟨member,by simp [first,named]⟩

theorem created_told (audited : Audited db) (projectId : String) :
    (∃ event ∈ db.events, Creates projectId event) ↔ ∃ row ∈ db.projects, row.id = projectId := by
  constructor
  · rintro ⟨event,member,type,id⟩
    have told := (told_projects audited).mem_iff.mp (only_first audited member type (by simp) (by simp))
    obtain ⟨row,stored,rfl⟩ := List.mem_map.mp told
    exact ⟨row,stored,id⟩
  · rintro ⟨row,stored,rfl⟩
    have told := (told_projects audited).mem_iff.mpr (List.mem_map_of_mem stored)
    exact ⟨_,List.mem_of_mem_filter told,rfl,rfl⟩

theorem decided_told (audited : Audited db) (requestId : String) :
    (∃ event ∈ db.events, Decides requestId event) ↔ ∃ row ∈ db.decisions, row.decisionRequestId = requestId := by
  constructor
  · rintro ⟨event,member,type,about⟩
    have told := (told_decisions audited).mem_iff.mp (only_first audited member type (by simp) (by simp))
    obtain ⟨row,stored,rfl⟩ := List.mem_map.mp told
    exact ⟨row,stored,by simpa [decision_recorded,Dict.get?] using about⟩
  · rintro ⟨row,stored,rfl⟩
    have told := (told_decisions audited).mem_iff.mpr (List.mem_map_of_mem stored)
    exact ⟨_,List.mem_of_mem_filter told,rfl,by simp [decision_recorded,Dict.get?]⟩

theorem told_summary (audited : Audited db) (evidence : List EvidenceRow) (project : ProjectRow) :
    (dashboard db evidence project).summary = summary_told project.id db.events := by
  have states : ((db.workPackages.filter (fun row => row.projectId = project.id)).map PackageRow.id).map
      (fun id => state_told id db.events) =
        ((db.workPackages.filter (fun row => row.projectId = project.id)).map work_item).map DashboardWorkItem.status := by
    rw [List.map_map,List.map_map]
    refine List.map_congr_left fun row member => ?_
    exact path_told (audited.paths row (List.mem_of_mem_filter member))
  show summarize _ = summarize _
  rw [← states]
  exact (summarize_perm ((told_packages audited project.id).map _)).symm

/-- A request is listed as long as it is pending. -/
theorem open_request (keyed : Keyed db) {evidence : List EvidenceRow} {project : ProjectRow} {request : RequestRow}
    (stored : request ∈ db.requests) (own : request.projectId = project.id) :
    request.id ∈ (dashboard db evidence project).decisions ↔ request.status = "pending" := by
  constructor
  · intro listed
    obtain ⟨other,member,same⟩ := List.mem_map.mp listed
    obtain ⟨held,fits⟩ := List.mem_filter.mp member
    obtain rfl := List.inj_on_of_nodup_map keyed.requests held stored same
    exact (of_decide_eq_true fits).2
  · intro pending
    exact List.mem_map_of_mem (List.mem_filter.mpr ⟨stored,decide_eq_true ⟨own,pending⟩⟩)

end

/-- Whatever evidence there is, a dashboard is shown exactly of a project whose creation is among the events, and it is
    what the events tell. -/
def DashboardsTold (db : Records) : Prop := ∀ evidence projectId,
  match getDashboard db evidence projectId with
  | none => ∀ event ∈ db.events, ¬ Creates projectId event
  | some dashboard => dashboard.id = projectId ∧ Told db projectId dashboard

theorem dashboards_told (calls : List Call) : DashboardsTold (reached empty calls) := by
  have sound := reached_sound calls sound_empty
  have audited := sound.audited
  intro evidence projectId
  unfold getDashboard
  cases found : (reached empty calls).projects.find? (fun row => row.id = projectId) with
  | none =>
    intro event member creates
    obtain ⟨row,stored,same⟩ := (created_told audited projectId).mp ⟨event,member,creates⟩
    exact absurd same (by simpa using List.find?_eq_none.mp found row stored)
  | some project =>
    obtain rfl : project.id = projectId := by simpa using List.find?_some found
    have summary := told_summary audited evidence project
    refine ⟨rfl,(created_told audited project.id).mpr ⟨project,List.mem_of_find?_eq_some found,rfl⟩,summary,?_,?_⟩
    · rw [summary]
      simpa [summary_told,summarize] using tally_total ((packages_told project.id (reached empty calls).events).map _) ⟨0,0,0,0⟩
    · intro request stored own
      rw [open_request sound.keyed stored own]
      have decided := decided_told audited request.id
      rcases audited.marks.requests request stored with ⟨resolved,given⟩ | ⟨pending,none⟩
      · obtain ⟨event,member,decides⟩ := decided.mpr given
        have closed : request.status ≠ "pending" := by simp [resolved]
        exact ⟨fun pending => absurd pending closed,fun none => absurd decides (none event member)⟩
      · refine ⟨fun _ event member decides => ?_,fun _ => pending⟩
        obtain ⟨decision,held,same⟩ := decided.mp ⟨event,member,decides⟩
        exact none decision held same

end V3Aidlc.Dashboards
