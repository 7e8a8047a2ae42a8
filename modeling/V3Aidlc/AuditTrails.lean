import V3Aidlc.ProjectRecords
import V3Aidlc.Groups
import Mathlib.Data.Multiset.Filter
import Mathlib.Data.Multiset.AddSub

/-!
The lifecycle events of the project repository as an audit trail. Whatever calls are made, in whatever order and
however many of them fail, the events of version 1 are those of the rows that have one, the events of a work
package are the path from its creation to its status, and a decision, a publication or a revocation has left
its mark on the row that it is about (`audit_trail`).
-/
namespace V3Aidlc.AuditTrails
open V3Aidlc.Values V3Aidlc.WorkPackages V3Aidlc.ProjectRecords

/-! ### What a statement leaves -/

def added (db : Records) : Row → Records
  | .project row => { db with projects := db.projects ++ [row] }
  | .requirement row => { db with requirements := db.requirements ++ [row] }
  | .plan row => { db with plans := db.plans ++ [row] }
  | .workPackage row => { db with workPackages := db.workPackages ++ [row] }
  | .repository row => { db with repositories := db.repositories ++ [row] }
  | .investigation row => { db with investigations := db.investigations ++ [row] }
  | .agentRun row => { db with agentRuns := db.agentRuns ++ [row] }
  | .gateDecision row => { db with gateDecisions := db.gateDecisions ++ [row] }
  | .worktree row => { db with worktrees := db.worktrees ++ [row] }
  | .proposal row => { db with proposals := db.proposals ++ [row] }
  | .pullRequest row => { db with pullRequests := db.pullRequests ++ [row] }
  | .request row => { db with requests := db.requests ++ [row] }
  | .decision row => { db with decisions := db.decisions ++ [row] }
  | .delegation row => { db with delegations := db.delegations ++ [row] }
  | .event row => { db with events := db.events ++ [row] }

/-- The events are of one version of one aggregate. -/
def SameVersion (event other : EventRow) : Prop :=
  event.aggregateType = other.aggregateType ∧ event.aggregateId = other.aggregateId ∧
    event.aggregateVersion = other.aggregateVersion

/-- What the indexes and the foreign keys say of a new row, as far as results rest on it. -/
def Free (db : Records) : Row → Prop
  | .project row => ∀ stored ∈ db.projects, stored.id ≠ row.id
  | .requirement row => ∃ project ∈ db.projects, project.id = row.projectId
  | .plan row => (∀ stored ∈ db.plans, stored.id ≠ row.id) ∧ ∃ project ∈ db.projects, project.id = row.projectId
  | .workPackage row => (∀ stored ∈ db.workPackages, stored.id ≠ row.id) ∧ ∃ plan ∈ db.plans, plan.id = row.planId
  | .proposal row => ∀ stored ∈ db.proposals, stored.id ≠ row.id
  | .pullRequest row => ∀ stored ∈ db.pullRequests, stored.changeProposalId ≠ row.changeProposalId
  | .request row => ∀ stored ∈ db.requests, stored.id ≠ row.id
  | .decision row => (∀ stored ∈ db.decisions, stored.decisionRequestId ≠ row.decisionRequestId) ∧
      ∃ request ∈ db.requests, request.id = row.decisionRequestId
  | .delegation row => ∀ stored ∈ db.delegations, stored.id ≠ row.id
  | .event row => ∀ stored ∈ db.events, ¬ SameVersion stored row
  | _ => True

theorem requirement_ok {db after : Records} {row : RequirementRow} (ran : create_row db (.requirement row) = .ok after) :
    hasProject db row.projectId = true ∧ after = { db with requirements := db.requirements ++ [row] } := by
  obtain ⟨rows,inserted,rest⟩ := Loops.bind_ok_iff.mp ran
  obtain ⟨_,project,rfl⟩ := insert_ok.mp inserted
  refine ⟨project,?_⟩
  cases clash : criteria_clash db row <;>
    simp [clash,throw,throwThe,MonadExceptOf.throw,bind,Except.bind,pure,Except.pure] at rest
  exact rest.symm

theorem create_row_ok {db after : Records} {row : Row} (ran : create_row db row = .ok after) :
    after = added db row ∧ Free db row := by
  cases row
  case requirement row =>
    obtain ⟨project,rfl⟩ := requirement_ok ran
    exact ⟨rfl,by simpa [Free,hasProject] using project⟩
  all_goals
    obtain ⟨rows,inserted,rfl⟩ := Loops.map_ok_iff.mp ran
    obtain ⟨free,refers,rfl⟩ := insert_ok.mp inserted
    refine ⟨rfl,?_⟩
    simp at free refers
    simp [Free,SameVersion,hasProject] at refers ⊢ <;> grind

/-- The indexes and the foreign keys that results rest on. -/
structure Keyed (db : Records) : Prop where
  projects : (db.projects.map ProjectRow.id).Nodup
  required : ∀ row ∈ db.requirements, ∃ project ∈ db.projects, project.id = row.projectId
  intended : ∀ row ∈ db.plans, ∃ project ∈ db.projects, project.id = row.projectId
  plans : (db.plans.map PlanRow.id).Nodup
  workPackages : (db.workPackages.map PackageRow.id).Nodup
  planned : ∀ row ∈ db.workPackages, ∃ plan ∈ db.plans, plan.id = row.planId
  proposals : (db.proposals.map ProposalRow.id).Nodup
  pullRequests : (db.pullRequests.map PullRequestRow.changeProposalId).Nodup
  requests : (db.requests.map RequestRow.id).Nodup
  decisions : (db.decisions.map HumanDecisionRow.decisionRequestId).Nodup
  delegations : (db.delegations.map DelegationRow.id).Nodup
  events : db.events.Pairwise (fun event other => ¬ SameVersion event other)

/-- A row among others, none of which has its key. -/
theorem keyed_split {α β : Type} {key : α → β} {rows : List α} (distinct : (rows.map key).Nodup) {row : α}
    (member : row ∈ rows) : ∃ front back, rows = front ++ row :: back ∧ ∀ other ∈ front ++ back, key other ≠ key row := by
  obtain ⟨front,back,rfl⟩ := List.append_of_mem member
  refine ⟨front,back,rfl,fun other inside same => ?_⟩
  rw [List.map_append,List.map_cons] at distinct
  have fresh := (List.nodup_cons.mp (List.perm_middle.nodup_iff.mp distinct)).1
  rw [← List.map_append] at fresh
  exact fresh (same ▸ List.mem_map_of_mem inside)

/-- What rows refer to stays there. -/
theorem refers_snoc {α β : Type} {refers : α → β → Prop} {rows : List α} {items : List β}
    (there : ∀ row ∈ rows, ∃ item ∈ items, refers row item) (new : β) :
    ∀ row ∈ rows, ∃ item ∈ items ++ [new], refers row item := by
  intro row member
  obtain ⟨item,inside,same⟩ := there row member
  exact ⟨item,List.mem_append_left _ inside,same⟩

theorem added_keyed {db : Records} {row : Row} (keyed : Keyed db) (free : Free db row) : Keyed (added db row) := by
  cases row with
  | project row =>
    exact { keyed with
      projects := Groups.nodup_map_snoc keyed.projects free
      required := refers_snoc keyed.required row
      intended := refers_snoc keyed.intended row }
  | requirement row =>
    exact { keyed with
      required := by
        intro requirement member
        rcases List.mem_append.mp member with early | last
        · exact keyed.required requirement early
        · rw [List.mem_singleton.mp last]
          exact free }
  | plan row =>
    exact { keyed with
      plans := Groups.nodup_map_snoc keyed.plans free.1
      planned := refers_snoc keyed.planned row
      intended := by
        intro plan member
        rcases List.mem_append.mp member with early | last
        · exact keyed.intended plan early
        · rw [List.mem_singleton.mp last]
          exact free.2 }
  | workPackage row =>
    exact { keyed with
      workPackages := Groups.nodup_map_snoc keyed.workPackages free.1
      planned := by
        intro package member
        rcases List.mem_append.mp member with early | last
        · exact keyed.planned package early
        · rw [List.mem_singleton.mp last]
          exact free.2 }
  | proposal row => exact { keyed with proposals := Groups.nodup_map_snoc keyed.proposals free }
  | pullRequest row => exact { keyed with pullRequests := Groups.nodup_map_snoc keyed.pullRequests free }
  | request row => exact { keyed with requests := Groups.nodup_map_snoc keyed.requests free }
  | decision row => exact { keyed with decisions := Groups.nodup_map_snoc keyed.decisions free.1 }
  | delegation row => exact { keyed with delegations := Groups.nodup_map_snoc keyed.delegations free }
  | event row =>
    exact { keyed with
      events := by
        refine List.pairwise_append.mpr ⟨keyed.events,List.pairwise_singleton _ _,fun stored member new last => ?_⟩
        rw [List.mem_singleton.mp last]
        exact free stored member }
  | _ => exact { keyed with }

/-- Statements that all go through leave their rows, under free keys. -/
theorem create_rows_ok {db after : Records} {rows : List Row} (keyed : Keyed db) (ran : create_rows db rows = .ok after) :
    after = rows.foldl added db ∧ Keyed after := by
  induction rows generalizing db with
  | nil =>
    obtain rfl := Loops.pure_ok_iff.mp ran
    exact ⟨rfl,keyed⟩
  | cons row rest ih =>
    obtain ⟨middle,first,later⟩ := Loops.foldlM_cons_ok.mp ran
    obtain ⟨rfl,free⟩ := create_row_ok first
    exact ih (added_keyed keyed free) later

/-! ### Events of version 1 -/

/-- The ids of the work packages of a plan. -/
def packageIds (db : Records) (planId : String) : List String :=
  (db.workPackages.filter (fun row => row.planId = planId)).map PackageRow.id

/-- The events of version 1 that the rows have. -/
def births (db : Records) : Multiset EventRow :=
  db.projects.map project_created + db.requirements.map requirement_created +
    db.plans.map (fun plan => plan_created plan (packageIds db plan.id)) + db.workPackages.map package_created +
    db.investigations.map investigation_completed + db.agentRuns.map agent_run_ended +
    db.gateDecisions.map gate_evaluated + db.proposals.map proposal_prepared +
    db.pullRequests.map pull_request_opened + db.decisions.map decision_recorded

/-- The recorded events of version 1. -/
def recorded (db : Records) : Multiset EventRow := db.events.filter (fun event => event.aggregateVersion = 1)

/-! ### The trail -/

/-- The events of a work package. -/
def trail (id : String) (events : List EventRow) : List EventRow :=
  events.filter (fun event => event.aggregateType = "work-package" ∧ event.aggregateId = id)

theorem trail_append (id : String) (events later : List EventRow) :
    trail id (events ++ later) = trail id events ++ trail id later := List.filter_append ..

/-- The events lead from the creation of the package, along allowed steps, to this status and version. -/
inductive Path (row : PackageRow) : List EventRow → WorkPackageStatus → Nat → Prop where
  | created : Path row [package_created row] .planned 1
  | moved {events : List EventRow} {status target : WorkPackageStatus} {version : Nat} {eventId : String}
      (before : Path row events status version) (allowed : Allowed status target) :
      Path row (events ++ [package_transitioned { row with status := status,version := version } target eventId])
        target (version + 1)

/-- The event of a delegation that is revoked. -/
def revocation (row : DelegationRow) : Option EventRow := row.revokedAt.map (delegation_revoked row.projectId row.id)

/-- A request is resolved exactly when there is a decision on it. -/
def Answered (db : Records) (request : RequestRow) : Prop :=
  request.status = "resolved" ∧ (∃ decision ∈ db.decisions, decision.decisionRequestId = request.id) ∨
    request.status = "pending" ∧ ∀ decision ∈ db.decisions, decision.decisionRequestId ≠ request.id

/-- A proposal is published exactly when there is a pull request for it, whose address it has. -/
def Placed (db : Records) (proposal : ProposalRow) : Prop :=
  (proposal.status = "published" ∧ ∃ pull ∈ db.pullRequests, pull.changeProposalId = proposal.id ∧
      proposal.externalUrl = some pull.url) ∨
    (proposal.status = "prepared" ∧ proposal.externalUrl = none ∧
      ∀ pull ∈ db.pullRequests, pull.changeProposalId ≠ proposal.id)

/-- Requests and proposals carry the marks of the decisions and the pull requests about them. -/
structure Marked (db : Records) : Prop where
  requests : ∀ request ∈ db.requests, Answered db request
  decided : ∀ decision ∈ db.decisions, ∃ request ∈ db.requests, request.id = decision.decisionRequestId
  proposals : ∀ proposal ∈ db.proposals, Placed db proposal
  placed : ∀ pull ∈ db.pullRequests, ∃ proposal ∈ db.proposals, proposal.id = pull.changeProposalId

structure Audited (db : Records) : Prop where
  born : recorded db = births db
  paths : ∀ row ∈ db.workPackages, Path row (trail row.id db.events) row.status row.version
  packages : ∀ event ∈ db.events, event.aggregateType = "work-package" → ∃ row ∈ db.workPackages, row.id = event.aggregateId
  revocations : ((db.events.filter (fun event => event.aggregateType = "standing-delegation") : List EventRow) :
    Multiset EventRow) = (db.delegations.filterMap revocation : List EventRow)
  later : ∀ event ∈ db.events, event.aggregateVersion ≠ 1 →
    event.aggregateType = "work-package" ∨ event.aggregateType = "standing-delegation"
  marks : Marked db

/-- A row that is recorded with its event. -/
theorem audited_born {db after : Records} (event : EventRow) (audited : Audited db)
    (born : births after = births db + {event}) (events : after.events = db.events ++ [event])
    (version : event.aggregateVersion = 1) (package : event.aggregateType ≠ "work-package")
    (delegation : event.aggregateType ≠ "standing-delegation") (packages : after.workPackages = db.workPackages)
    (delegations : after.delegations = db.delegations) (marks : Marked after) : Audited after where
  born := by
    rw [born,← audited.born,recorded,recorded,events,List.filter_append]
    simp [version,← Multiset.coe_add]
  paths := by
    intro row member
    rw [packages] at member
    have none : trail row.id [event] = [] := by simp [trail,package]
    rw [events,trail_append,none,List.append_nil]
    exact audited.paths row member
  packages := by
    intro other member named
    rw [events] at member
    rw [packages]
    rcases List.mem_append.mp member with early | last
    · exact audited.packages other early named
    · rw [List.mem_singleton.mp last] at named
      exact absurd named package
  revocations := by
    rw [delegations,← audited.revocations,events,List.filter_append]
    simp [delegation]
  later := by
    intro other member old
    rw [events] at member
    rcases List.mem_append.mp member with early | last
    · exact audited.later other early old
    · rw [List.mem_singleton.mp last] at old
      exact absurd version old
  marks := marks

/-! ### The calls -/

structure Sound (db : Records) : Prop where
  keyed : Keyed db
  audited : Audited db

theorem sound_empty : Sound empty := by
  refine ⟨⟨?_,?_,?_,?_,?_,?_,?_,?_,?_,?_,?_,?_⟩,⟨?_,?_,?_,?_,?_,⟨?_,?_,?_,?_⟩⟩⟩ <;> simp [empty,recorded,births]

variable {db after : Records}

/-- A row of its own table, and its event. -/
theorem record_sound {row : Row} {event : EventRow} (sound : Sound db)
    (ran : create_rows db [row,.event event] = .ok after) (version : event.aggregateVersion = 1)
    (package : event.aggregateType ≠ "work-package") (delegation : event.aggregateType ≠ "standing-delegation")
    (packages : (added db row).workPackages = db.workPackages) (delegations : (added db row).delegations = db.delegations)
    (events : (added db row).events = db.events)
    (born : births (added (added db row) (.event event)) = births db + {event})
    (marks : Marked (added (added db row) (.event event))) : Sound after := by
  obtain ⟨rfl,keyed⟩ := create_rows_ok sound.keyed ran
  exact ⟨keyed,audited_born event sound.audited born (congrArg (· ++ [event]) events) version package delegation packages
    delegations marks⟩

theorem investigation_sound {input : InvestigationRow} (sound : Sound db)
    (ran : transaction db (.recordInvestigation input) = .ok after) : Sound after := by
  refine record_sound sound ran rfl (by simp [investigation_completed]) (by simp [investigation_completed]) rfl rfl rfl ?_
    { sound.audited.marks with }
  simp [births,added,packageIds,← Multiset.coe_add]
  abel

theorem agent_run_sound {input : AgentRunRow} (sound : Sound db)
    (ran : transaction db (.recordAgentRun input) = .ok after) : Sound after := by
  refine record_sound sound ran rfl (by simp [agent_run_ended]) (by simp [agent_run_ended]) rfl rfl rfl ?_
    { sound.audited.marks with }
  simp [births,added,packageIds,← Multiset.coe_add]
  abel

theorem gate_decision_sound {input : GateDecisionRow} (sound : Sound db)
    (ran : transaction db (.recordGateDecision input) = .ok after) : Sound after := by
  refine record_sound sound ran rfl (by simp [gate_evaluated]) (by simp [gate_evaluated]) rfl rfl rfl ?_
    { sound.audited.marks with }
  simp [births,added,packageIds,← Multiset.coe_add]
  abel

theorem project_sound {input : ProjectRow} (sound : Sound db)
    (ran : create_rows db [.project input,.event (project_created input)] = .ok after) : Sound after := by
  refine record_sound sound ran rfl (by simp [project_created]) (by simp [project_created]) rfl rfl rfl ?_
    { sound.audited.marks with }
  simp [births,added,packageIds,← Multiset.coe_add]
  abel

theorem requirement_sound {input : RequirementRow} (sound : Sound db)
    (ran : create_rows db [.requirement input,.event (requirement_created input)] = .ok after) : Sound after := by
  refine record_sound sound ran rfl (by simp [requirement_created]) (by simp [requirement_created]) rfl rfl rfl ?_
    { sound.audited.marks with }
  simp [births,added,packageIds,← Multiset.coe_add]
  abel

theorem proposal_sound {id projectId workPackageId worktreeSessionId baseRevision headRevision digest : String}
    (sound : Sound db) (ran : transaction db (.recordChangeProposal id projectId workPackageId worktreeSessionId
      baseRevision headRevision digest) = .ok after) : Sound after := by
  obtain ⟨middle,first,_⟩ := Loops.foldlM_cons_ok.mp ran
  have free : ∀ stored ∈ db.proposals, stored.id ≠ id := (create_row_ok first).2
  have marks := sound.audited.marks
  refine record_sound sound ran rfl (by simp [proposal_prepared]) (by simp [proposal_prepared]) rfl rfl rfl ?_
    { marks with proposals := ?_,placed := ?_ }
  · simp [births,added,packageIds,← Multiset.coe_add]
    abel
  · intro proposal member
    rcases List.mem_append.mp member with early | last
    · exact marks.proposals proposal early
    · rw [List.mem_singleton.mp last]
      refine .inr ⟨rfl,rfl,fun pull inside same => ?_⟩
      obtain ⟨stored,held,named⟩ := marks.placed pull inside
      exact free stored held (named.trans same)
  · intro pull inside
    obtain ⟨stored,held,named⟩ := marks.placed pull inside
    exact ⟨stored,List.mem_append_left _ held,named⟩

theorem published_id (input : PullRequestRow) (row : ProposalRow) : (published input row).id = row.id := by
  unfold published
  split_ifs <;> rfl

theorem published_event (input : PullRequestRow) (row : ProposalRow) :
    proposal_prepared (published input row) = proposal_prepared row := by
  unfold published
  split_ifs <;> rfl

/-- What a recorded pull request leaves: the pull request, its proposal published, and the event. -/
theorem pull_request_ok {input : PullRequestRow} (ran : transaction db (.recordGitHubPullRequest input) = .ok after) :
    Free db (.pullRequest input) ∧ (∃ stored ∈ db.proposals, stored.id = input.changeProposalId) ∧
      ∃ marked, marked = { added db (.pullRequest input) with proposals := db.proposals.map (published input) } ∧
        Free marked (.event (pull_request_opened input)) ∧ after = added marked (.event (pull_request_opened input)) := by
  obtain ⟨middle,first,ran⟩ := Loops.bind_ok_iff.mp ran
  obtain ⟨rfl,free⟩ := create_row_ok first
  have proposals : (added db (.pullRequest input)).proposals = db.proposals := rfl
  by_cases known : db.proposals.any (fun row => row.id = input.changeProposalId) = true
  · simp only [proposals,known,Bool.not_true,Bool.false_eq_true,if_false] at ran
    obtain ⟨rfl,last⟩ := create_row_ok ran
    exact ⟨free,by simpa using known,_,rfl,last,rfl⟩
  · simp only [proposals,known] at ran
    cases ran

theorem pull_request_sound {input : PullRequestRow} (sound : Sound db)
    (ran : transaction db (.recordGitHubPullRequest input) = .ok after) : Sound after := by
  obtain ⟨free,⟨known,inside,named⟩,_,rfl,last,rfl⟩ := pull_request_ok ran
  have ids : (db.proposals.map (published input)).map ProposalRow.id = db.proposals.map ProposalRow.id := by
    simp [Function.comp_def,published_id]
  have keyed : Keyed (added { added db (.pullRequest input) with proposals := db.proposals.map (published input) }
      (.event (pull_request_opened input))) :=
    added_keyed { added_keyed sound.keyed free with proposals := ids ▸ sound.keyed.proposals } last
  have marks := sound.audited.marks
  refine ⟨keyed,audited_born (pull_request_opened input) sound.audited ?_ rfl rfl (by simp [pull_request_opened])
    (by simp [pull_request_opened]) rfl rfl { marks with proposals := ?_,placed := ?_ }⟩
  · simp [births,added,packageIds,← Multiset.coe_add,Function.comp_def,published_event]
    abel
  · intro proposal member
    obtain ⟨stored,held,rfl⟩ := List.mem_map.mp member
    by_cases this : stored.id = input.changeProposalId
    · refine .inl ⟨by simp [published,this],input,List.mem_append_right _ (by simp),?_⟩
      simp [published,this]
    · have same : published input stored = stored := by simp [published,this]
      rw [same]
      rcases marks.proposals stored held with ⟨status,pull,inside,named,url⟩ | ⟨status,url,none⟩
      · exact .inl ⟨status,pull,List.mem_append_left _ inside,named,url⟩
      · refine .inr ⟨status,url,fun pull inside => ?_⟩
        rcases List.mem_append.mp inside with early | last
        · exact none pull early
        · rw [List.mem_singleton.mp last]
          exact Ne.symm this
  · intro pull member
    have kept : ∀ stored ∈ db.proposals, ∃ proposal ∈ db.proposals.map (published input), proposal.id = stored.id :=
      fun stored held => ⟨_,List.mem_map_of_mem held,published_id input stored⟩
    rcases List.mem_append.mp member with early | last
    · obtain ⟨stored,held,named⟩ := marks.placed pull early
      obtain ⟨proposal,there,same⟩ := kept stored held
      exact ⟨proposal,there,same.trans named⟩
    · obtain ⟨proposal,there,same⟩ := kept known inside
      rw [List.mem_singleton.mp last]
      exact ⟨proposal,there,same.trans named⟩

theorem resolved_id (input : HumanDecisionRow) (row : RequestRow) : (resolved input row).id = row.id := by
  unfold resolved
  split_ifs <;> rfl

theorem human_decision_sound {input : HumanDecisionRow} (sound : Sound db)
    (ran : transaction db (.recordHumanDecision input) = .ok after) : Sound after := by
  obtain ⟨middle,first,ran⟩ := Loops.bind_ok_iff.mp ran
  obtain ⟨rfl,free⟩ := create_row_ok first
  obtain ⟨rfl,last⟩ := create_row_ok ran
  have ids : (db.requests.map (resolved input)).map RequestRow.id = db.requests.map RequestRow.id := by
    simp [Function.comp_def,resolved_id]
  have keyed : Keyed (added { added db (.decision input) with requests := db.requests.map (resolved input) }
      (.event (decision_recorded input))) :=
    added_keyed { added_keyed sound.keyed free with requests := ids ▸ sound.keyed.requests } last
  have marks := sound.audited.marks
  refine ⟨keyed,audited_born (decision_recorded input) sound.audited ?_ rfl rfl (by simp [decision_recorded])
    (by simp [decision_recorded]) rfl rfl { marks with requests := ?_,decided := ?_ }⟩
  · simp [births,added,packageIds,← Multiset.coe_add]
    abel
  · intro request member
    obtain ⟨stored,held,rfl⟩ := List.mem_map.mp member
    by_cases this : stored.id = input.decisionRequestId
    · exact .inl ⟨by simp [resolved,this],input,List.mem_append_right _ (by simp),by simp [resolved,this]⟩
    · have same : resolved input stored = stored := by simp [resolved,this]
      rw [same]
      rcases marks.requests stored held with ⟨status,decision,inside,named⟩ | ⟨status,none⟩
      · exact .inl ⟨status,decision,List.mem_append_left _ inside,named⟩
      · refine .inr ⟨status,fun decision inside => ?_⟩
        rcases List.mem_append.mp inside with early | last
        · exact none decision early
        · rw [List.mem_singleton.mp last]
          exact Ne.symm this
  · intro decision inside
    have there : ∃ stored ∈ db.requests, stored.id = decision.decisionRequestId := by
      rcases List.mem_append.mp inside with early | last
      · exact marks.decided decision early
      · rw [List.mem_singleton.mp last]
        exact free.2
    obtain ⟨stored,held,named⟩ := there
    exact ⟨_,List.mem_map_of_mem held,(resolved_id input stored).trans named⟩

/-- Nothing that the trail tells is changed. -/
theorem audited_quiet (audited : Audited db) (born : births after = births db) (events : after.events = db.events)
    (packages : after.workPackages = db.workPackages)
    (delegations : after.delegations.filterMap revocation = db.delegations.filterMap revocation) (marks : Marked after) :
    Audited after where
  born := by rw [born,← audited.born,recorded,recorded,events]
  paths := by rw [packages,events]; exact audited.paths
  packages := by rw [packages,events]; exact audited.packages
  revocations := by rw [delegations,events]; exact audited.revocations
  later := by rw [events]; exact audited.later
  marks := marks

theorem worktree_sound {input : WorktreeRow} (sound : Sound db)
    (ran : transaction db (.recordWorktreeSession input) = .ok after) : Sound after := by
  have ran : create_row db (.worktree input) = .ok after := ran
  obtain ⟨rfl,free⟩ := create_row_ok ran
  exact ⟨added_keyed sound.keyed free,audited_quiet sound.audited rfl rfl rfl rfl { sound.audited.marks with }⟩

/-- A registration is added or replaced. -/
theorem repository_ok {input : RepositoryRow} (ran : transaction db (.registerRepository input) = .ok after) :
    ∃ rows, after = { db with repositories := rows } := by
  simp only [transaction,upsert_repository] at ran
  cases found : db.repositories.find? (fun row => row.id = input.id) with
  | none =>
    simp only [found] at ran
    exact ⟨_,(create_row_ok ran).1⟩
  | some stored =>
    simp only [found] at ran
    split_ifs at ran
    exact ⟨_,(Except.ok.inj ran).symm⟩

theorem repository_sound {input : RepositoryRow} (sound : Sound db)
    (ran : transaction db (.registerRepository input) = .ok after) : Sound after := by
  obtain ⟨rows,rfl⟩ := repository_ok ran
  exact ⟨{ sound.keyed with },audited_quiet sound.audited rfl rfl rfl rfl { sound.audited.marks with }⟩

theorem request_sound {id projectId : String} (sound : Sound db)
    (ran : transaction db (.recordDecisionRequest id projectId) = .ok after) : Sound after := by
  have ran : create_row db (.request ⟨id,projectId,"pending"⟩) = .ok after := ran
  obtain ⟨rfl,free⟩ := create_row_ok ran
  have marks := sound.audited.marks
  refine ⟨added_keyed sound.keyed free,audited_quiet sound.audited rfl rfl rfl rfl
    { marks with requests := ?_,decided := ?_ }⟩
  · intro request member
    rcases List.mem_append.mp member with early | last
    · exact marks.requests request early
    · rw [List.mem_singleton.mp last]
      refine .inr ⟨rfl,fun decision inside same => ?_⟩
      obtain ⟨stored,held,named⟩ := marks.decided decision inside
      exact free stored held (named.trans same)
  · intro decision inside
    obtain ⟨stored,held,named⟩ := marks.decided decision inside
    exact ⟨stored,List.mem_append_left _ held,named⟩

theorem delegation_sound {id projectId : String} (sound : Sound db)
    (ran : transaction db (.recordStandingDelegation id projectId) = .ok after) : Sound after := by
  have ran : create_row db (.delegation ⟨id,projectId,none⟩) = .ok after := ran
  obtain ⟨rfl,free⟩ := create_row_ok ran
  refine ⟨added_keyed sound.keyed free,audited_quiet sound.audited rfl rfl rfl ?_ { sound.audited.marks with }⟩
  simp [added,revocation]

/-- One revocation is one further event. -/
theorem revoked_once {projectId delegationId : String} (revokedAt : String) {rows : List DelegationRow}
    (distinct : (rows.map DelegationRow.id).Nodup) {row : DelegationRow} (member : row ∈ rows)
    (open_row : Revocable projectId delegationId row) :
    (((rows.map (revoked projectId delegationId revokedAt)).filterMap revocation : List EventRow) : Multiset EventRow) =
      (rows.filterMap revocation : List EventRow) + {delegation_revoked projectId delegationId revokedAt} := by
  obtain ⟨front,back,rfl,apart⟩ := keyed_split distinct member
  have alone : ∀ other ∈ front ++ back, revoked projectId delegationId revokedAt other = id other := by
    intro other inside
    unfold revoked
    rw [if_neg fun revocable => apart other inside (revocable.1.trans open_row.1.symm)]
    rfl
  have first : front.map (revoked projectId delegationId revokedAt) = front := by
    rw [List.map_congr_left (fun other inside => alone other (List.mem_append_left _ inside)),List.map_id]
  have last : back.map (revoked projectId delegationId revokedAt) = back := by
    rw [List.map_congr_left (fun other inside => alone other (List.mem_append_right _ inside)),List.map_id]
  obtain ⟨named,owned,unrevoked⟩ := open_row
  have now : revocation (revoked projectId delegationId revokedAt row) =
      some (delegation_revoked projectId delegationId revokedAt) := by
    simp [revoked,Revocable,named,owned,unrevoked,revocation]
  have before : revocation row = none := by simp [revocation,unrevoked]
  rw [List.map_append,List.map_cons,first,last,List.filterMap_append,List.filterMap_append,List.filterMap_cons_some now,
    List.filterMap_cons_none before,← Multiset.coe_add,← Multiset.coe_add,← Multiset.cons_coe,← Multiset.singleton_add]
  abel

theorem revoked_id (projectId delegationId revokedAt : String) (row : DelegationRow) :
    (revoked projectId delegationId revokedAt row).id = row.id := by
  unfold revoked
  split_ifs <;> rfl

/-- What a revocation leaves: the delegation with its time, and the event. -/
theorem revocation_ok {projectId delegationId revokedAt : String}
    (ran : transaction db (.revokeStandingDelegation projectId delegationId revokedAt) = .ok after) :
    (∃ row ∈ db.delegations, Revocable projectId delegationId row) ∧
      ∃ marked, marked = { db with delegations := db.delegations.map (revoked projectId delegationId revokedAt) } ∧
        Free marked (.event (delegation_revoked projectId delegationId revokedAt)) ∧
        after = added marked (.event (delegation_revoked projectId delegationId revokedAt)) := by
  by_cases once : db.delegations.countP (fun row => Revocable projectId delegationId row) = 1
  · simp only [transaction,once,ne_eq,not_true_eq_false,if_false] at ran
    obtain ⟨rfl,free⟩ := create_row_ok ran
    have positive : 0 < db.delegations.countP (fun row => Revocable projectId delegationId row) := by omega
    exact ⟨by simpa using List.countP_pos_iff.mp positive,_,rfl,free,rfl⟩
  · simp only [transaction,once,ne_eq,not_false_eq_true,if_true] at ran
    cases ran

theorem revocation_sound {projectId delegationId revokedAt : String} (sound : Sound db)
    (ran : transaction db (.revokeStandingDelegation projectId delegationId revokedAt) = .ok after) : Sound after := by
  have audited := sound.audited
  obtain ⟨⟨row,member,open_row⟩,_,rfl,free,rfl⟩ := revocation_ok ran
  have ids : (db.delegations.map (revoked projectId delegationId revokedAt)).map DelegationRow.id =
      db.delegations.map DelegationRow.id := by
    simp [Function.comp_def,revoked_id]
  have further := revoked_once revokedAt sound.keyed.delegations member open_row
  refine ⟨added_keyed { sound.keyed with delegations := ids ▸ sound.keyed.delegations } free,
    ⟨?_,?_,?_,?_,?_,{ audited.marks with }⟩⟩
  · show recorded _ = births db
    rw [← audited.born]
    simp [recorded,added,delegation_revoked]
  · intro row member
    have none : trail row.id [delegation_revoked projectId delegationId revokedAt] = [] := by
      simp [trail,delegation_revoked]
    show Path row (trail row.id (db.events ++ [delegation_revoked projectId delegationId revokedAt])) _ _
    rw [trail_append,none,List.append_nil]
    exact audited.paths row member
  · intro event member named
    rcases List.mem_append.mp member with early | last
    · exact audited.packages event early named
    · rw [List.mem_singleton.mp last] at named
      simp [delegation_revoked] at named
  · show _ = (((db.delegations.map (revoked projectId delegationId revokedAt)).filterMap revocation : List EventRow) :
      Multiset EventRow)
    rw [further,← audited.revocations]
    simp [added,delegation_revoked,← Multiset.coe_add]
  · intro event member old
    rcases List.mem_append.mp member with early | last
    · exact audited.later event early old
    · rw [List.mem_singleton.mp last]
      exact .inr rfl

/-! ### Transitions -/

theorem path_version {row : PackageRow} {events : List EventRow} {status : WorkPackageStatus} {version : Nat}
    (path : Path row events status version) : 1 ≤ version := by
  cases path <;> omega

/-- The trail does not depend on where the package stands by now. -/
theorem path_now {row : PackageRow} {events : List EventRow} {status : WorkPackageStatus} {version : Nat}
    (now : WorkPackageStatus) (reached : Nat) (path : Path row events status version) :
    Path { row with status := now,version := reached } events status version := by
  induction path with
  | created => exact .created
  | moved before allowed ih => exact .moved ih allowed

theorem moved_id (current : PackageRow) (target : WorkPackageStatus) (row : PackageRow) :
    (moved current target row).id = row.id := by
  unfold moved
  split_ifs <;> rfl

theorem moved_plan (current : PackageRow) (target : WorkPackageStatus) (row : PackageRow) :
    (moved current target row).planId = row.planId := by
  unfold moved
  split_ifs <;> rfl

theorem moved_event (current : PackageRow) (target : WorkPackageStatus) (row : PackageRow) :
    package_created (moved current target row) = package_created row := by
  unfold moved
  split_ifs <;> rfl

theorem moved_births (current : PackageRow) (target : WorkPackageStatus) (event : EventRow) :
    births (added { db with workPackages := db.workPackages.map (moved current target) } (.event event)) = births db := by
  simp [births,added,packageIds,List.filter_map,Function.comp_def,moved_id,moved_plan,moved_event]

/-- What a transition leaves: the package where it now stands, and the event. -/
theorem transition_ok {workPackageId eventId : String} {target : WorkPackageStatus}
    (ran : transaction db (.transitionWorkPackage workPackageId target eventId) = .ok after) :
    ∃ current ∈ db.workPackages, current.id = workPackageId ∧ Allowed current.status target ∧
      ∃ marked, marked = { db with workPackages := db.workPackages.map (moved current target) } ∧
        Free marked (.event (package_transitioned current target eventId)) ∧
        after = added marked (.event (package_transitioned current target eventId)) := by
  simp only [transaction] at ran
  cases found : db.workPackages.find? (fun row => row.id = workPackageId) with
  | none => simp [found] at ran
  | some current =>
    simp only [found] at ran
    obtain ⟨⟨⟩,checked,ran⟩ := Loops.bind_ok_iff.mp ran
    by_cases once : db.workPackages.countP (fun row => row.id = current.id ∧ row.version = current.version) = 1
    · simp only [once,ne_eq,not_true_eq_false,if_false] at ran
      obtain ⟨rfl,free⟩ := create_row_ok ran
      exact ⟨current,List.mem_of_find?_eq_some found,by simpa using List.find?_some found,
        assertWorkPackageTransition_ok.mp checked,_,rfl,free,rfl⟩
    · simp only [once,ne_eq,not_false_eq_true,if_true] at ran
      cases ran

theorem transition_sound {workPackageId eventId : String} {target : WorkPackageStatus} (sound : Sound db)
    (ran : transaction db (.transitionWorkPackage workPackageId target eventId) = .ok after) : Sound after := by
  have audited := sound.audited
  obtain ⟨current,member,_,allowed,_,rfl,free,rfl⟩ := transition_ok ran
  have ids : (db.workPackages.map (moved current target)).map PackageRow.id = db.workPackages.map PackageRow.id := by
    simp [Function.comp_def,moved_id]
  have planned : ∀ row ∈ db.workPackages.map (moved current target), ∃ plan ∈ db.plans, plan.id = row.planId := by
    intro row inside
    obtain ⟨stored,held,rfl⟩ := List.mem_map.mp inside
    rw [moved_plan]
    exact sound.keyed.planned stored held
  have path := audited.paths current member
  have late := path_version path
  refine ⟨added_keyed { sound.keyed with workPackages := ids ▸ sound.keyed.workPackages,planned := planned } free,
    ⟨?_,?_,?_,?_,?_,{ audited.marks with }⟩⟩
  · rw [moved_births,← audited.born]
    have old : current.version ≠ 0 := by omega
    simp [recorded,added,package_transitioned,old]
  · intro row inside
    obtain ⟨stored,held,rfl⟩ := List.mem_map.mp inside
    rw [moved_id]
    show Path _ (trail stored.id (db.events ++ [package_transitioned current target eventId])) _ _
    rw [trail_append]
    by_cases this : stored.id = current.id
    · obtain rfl := List.inj_on_of_nodup_map sound.keyed.workPackages held member this
      have now : moved stored target stored = { stored with status := target,version := stored.version + 1 } := by
        simp [moved]
      have own : trail stored.id [package_transitioned stored target eventId] =
          [package_transitioned stored target eventId] := by
        simp [trail,package_transitioned]
      rw [now,own]
      exact .moved (path_now target (stored.version + 1) path) allowed
    · have same : moved current target stored = stored := by simp [moved,this]
      have other : trail stored.id [package_transitioned current target eventId] = [] := by
        simp [trail,package_transitioned,Ne.symm this]
      rw [same,other,List.append_nil]
      exact audited.paths stored held
  · intro event inside named
    have kept : ∀ stored ∈ db.workPackages, ∃ row ∈ db.workPackages.map (moved current target), row.id = stored.id :=
      fun stored held => ⟨_,List.mem_map_of_mem held,moved_id current target stored⟩
    rcases List.mem_append.mp inside with early | last
    · obtain ⟨stored,held,same⟩ := audited.packages event early named
      obtain ⟨row,there,id⟩ := kept stored held
      exact ⟨row,there,id.trans same⟩
    · rw [List.mem_singleton.mp last]
      exact kept current member
  · show _ = ((db.delegations.filterMap revocation : List EventRow) : Multiset EventRow)
    rw [← audited.revocations]
    simp [added,package_transitioned]
  · intro event inside old
    rcases List.mem_append.mp inside with early | last
    · exact audited.later event early old
    · rw [List.mem_singleton.mp last]
      exact .inl rfl

/-! ### Graphs -/

theorem packages_added (db : Records) (projectId planId : String) (inputs : List WorkPackageInput) :
    (inputs.flatMap (package_rows projectId planId)).foldl added db =
      { db with
        workPackages := db.workPackages ++ inputs.map (package_row projectId planId)
        events := db.events ++ (inputs.map (package_row projectId planId)).map package_created } := by
  induction inputs generalizing db with
  | nil => simp
  | cons input rest ih => simp [package_rows,added,ih]

/-- What the statements of a plan leave. -/
def with_plan (db : Records) (plan : PlanRow) (rows : List PackageRow) : Records :=
  { db with
    plans := db.plans ++ [plan]
    workPackages := db.workPackages ++ rows
    events := db.events ++ plan_created plan (rows.map PackageRow.id) :: rows.map package_created }

theorem plan_added (db : Records) (projectId : String) (input : PlanInput) :
    (plan_rows projectId input).foldl added db =
      with_plan db (plan_row projectId input) (input.workPackages.map (package_row projectId input.id)) := by
  rw [plan_rows,List.foldl_append,packages_added]
  simp [with_plan,added,Function.comp_def,package_row]

/-- Of rows with ids of their own, one has the id of a row. -/
theorem filter_alone {rows : List PackageRow} (distinct : (rows.map PackageRow.id).Nodup) {row : PackageRow}
    (member : row ∈ rows) : rows.filter (fun other => other.id = row.id) = [row] := by
  obtain ⟨front,back,rfl,alone⟩ := keyed_split distinct member
  have first : front.filter (fun other => other.id = row.id) = [] := by
    simpa using fun other inside => alone other (List.mem_append_left _ inside)
  have last : back.filter (fun other => other.id = row.id) = [] := by
    simpa using fun other inside => alone other (List.mem_append_right _ inside)
  rw [List.filter_append,List.filter_cons_of_pos (by simp),first,last,List.nil_append]

section
variable {plan : PlanRow} {rows : List PackageRow}

theorem plan_births (keyed : Keyed db) (fresh : ∀ stored ∈ db.plans, stored.id ≠ plan.id)
    (own : ∀ row ∈ rows, row.planId = plan.id) :
    births (with_plan db plan rows) =
      births db + ({plan_created plan (rows.map PackageRow.id)} + (rows.map package_created : List EventRow)) := by
  have old : ∀ stored ∈ db.plans, packageIds (with_plan db plan rows) stored.id = packageIds db stored.id := by
    intro stored held
    have none : rows.filter (fun row => row.planId = stored.id) = [] := by
      simpa using fun row inside same => fresh stored held (same.symm.trans (own row inside))
    simp [packageIds,with_plan,none]
  have new : packageIds (with_plan db plan rows) plan.id = rows.map PackageRow.id := by
    have none : db.workPackages.filter (fun row => row.planId = plan.id) = [] := by
      refine List.filter_eq_nil_iff.mpr fun row held => ?_
      obtain ⟨stored,there,same⟩ := keyed.planned row held
      simpa [← same] using fresh stored there
    have every : rows.filter (fun row => row.planId = plan.id) = rows := by simpa using own
    simp [packageIds,with_plan,none,every]
  have plans : (with_plan db plan rows).plans.map (fun plan' => plan_created plan' (packageIds (with_plan db plan rows) plan'.id)) =
      db.plans.map (fun stored => plan_created stored (packageIds db stored.id)) ++
        [plan_created plan (rows.map PackageRow.id)] := by
    have kept : db.plans.map (fun plan' => plan_created plan' (packageIds (with_plan db plan rows) plan'.id)) =
        db.plans.map (fun stored => plan_created stored (packageIds db stored.id)) :=
      List.map_congr_left fun stored held => by rw [old stored held]
    show (db.plans ++ [plan]).map _ = _
    rw [List.map_append,kept]
    simp [new]
  have packages : (with_plan db plan rows).workPackages.map package_created =
      db.workPackages.map package_created ++ rows.map package_created := List.map_append ..
  rw [births,plans,packages]
  simp only [births,with_plan,← Multiset.coe_add,Multiset.coe_singleton]
  abel

theorem plan_paths (audited : Audited db) (distinct : ((db.workPackages ++ rows).map PackageRow.id).Nodup)
    (new : ∀ row ∈ rows, row.status = .planned ∧ row.version = 1) :
    ∀ row ∈ db.workPackages ++ rows, Path row (trail row.id (with_plan db plan rows).events) row.status row.version := by
  have ids := List.nodup_append.mp (List.map_append ▸ distinct)
  intro row member
  have events : trail row.id (with_plan db plan rows).events =
      trail row.id db.events ++ (rows.filter (fun other => other.id = row.id)).map package_created := by
    simp [trail,with_plan,plan_created,List.filter_map,Function.comp_def,package_created]
    rfl
  rw [events]
  rcases List.mem_append.mp member with early | late
  · have none : rows.filter (fun other => other.id = row.id) = [] := by
      simpa using fun other inside same =>
        ids.2.2 row.id (List.mem_map_of_mem early) other.id (List.mem_map_of_mem inside) same.symm
    rw [none,List.map_nil,List.append_nil]
    exact audited.paths row early
  · have none : trail row.id db.events = [] := by
      refine List.filter_eq_nil_iff.mpr fun event held named => ?_
      obtain ⟨type,about⟩ : event.aggregateType = "work-package" ∧ event.aggregateId = row.id := by simpa using named
      obtain ⟨stored,there,same⟩ := audited.packages event held type
      exact ids.2.2 stored.id (List.mem_map_of_mem there) row.id (List.mem_map_of_mem late) (same.trans about)
    obtain ⟨status,version⟩ := new row late
    rw [none,filter_alone ids.2.1 late,status,version]
    exact .created

theorem with_plan_audited (keyed : Keyed db) (audited : Audited db) (after : Keyed (with_plan db plan rows))
    (own : ∀ row ∈ rows, row.planId = plan.id) (new : ∀ row ∈ rows, row.status = .planned ∧ row.version = 1) :
    Audited (with_plan db plan rows) := by
  have events : ∀ event ∈ (with_plan db plan rows).events, event ∈ db.events ∨
      event = plan_created plan (rows.map PackageRow.id) ∨ ∃ row ∈ rows, package_created row = event := by
    intro event member
    simpa [with_plan] using member
  refine ⟨?_,plan_paths audited after.workPackages new,?_,?_,?_,{ audited.marks with }⟩
  · have fresh : ∀ stored ∈ db.plans, stored.id ≠ plan.id := by
      have ids := List.nodup_append.mp (List.map_append ▸ after.plans)
      exact fun stored held => ids.2.2 stored.id (List.mem_map_of_mem held) plan.id (by simp)
    have first : (rows.map package_created).filter (fun event => event.aggregateVersion = 1) = rows.map package_created := by
      simp [package_created]
    rw [plan_births keyed fresh own,← audited.born,recorded,recorded]
    simp only [with_plan,List.filter_append,List.filter_cons]
    rw [first]
    simp [plan_created,← Multiset.coe_add]
  · intro event member named
    rcases events event member with early | rfl | ⟨row,inside,rfl⟩
    · obtain ⟨stored,held,same⟩ := audited.packages event early named
      exact ⟨stored,List.mem_append_left _ held,same⟩
    · simp [plan_created] at named
    · exact ⟨row,List.mem_append_right _ inside,rfl⟩
  · have none : (rows.map package_created).filter (fun event => event.aggregateType = "standing-delegation") = [] := by
      simp [package_created]
    show _ = ((db.delegations.filterMap revocation : List EventRow) : Multiset EventRow)
    rw [← audited.revocations]
    simp only [with_plan,List.filter_append,List.filter_cons]
    rw [none]
    simp [plan_created]
  · intro event member old
    rcases events event member with early | rfl | ⟨row,inside,rfl⟩
    · exact audited.later event early old
    · simp [plan_created] at old
    · simp [package_created] at old

end

theorem plan_sound {projectId : String} {input : PlanInput} (sound : Sound db)
    (ran : create_rows db (plan_rows projectId input) = .ok after) : Sound after := by
  obtain ⟨rfl,keyed⟩ := create_rows_ok sound.keyed ran
  rw [plan_added] at keyed ⊢
  refine ⟨keyed,with_plan_audited sound.keyed sound.audited keyed ?_ ?_⟩ <;> simp [package_row,plan_row]

/-- Statements that come in groups, each of which keeps the trail. -/
theorem groups_sound {α : Type} {rows : α → List Row} {inputs : List α}
    (step : ∀ input {before later : Records}, Sound before → create_rows before (rows input) = .ok later → Sound later)
    (sound : Sound db) (ran : create_rows db (inputs.flatMap rows) = .ok after) : Sound after := by
  induction inputs generalizing db with
  | nil =>
    obtain rfl := Loops.pure_ok_iff.mp ran
    exact sound
  | cons input rest ih =>
    rw [List.flatMap_cons,create_rows,List.foldlM_append] at ran
    obtain ⟨middle,first,later⟩ := Loops.bind_ok_iff.mp ran
    exact ih (step input sound first) later

theorem create_sound {input : CreateProjectGraphInput} (sound : Sound db)
    (ran : transaction db (.create input) = .ok after) : Sound after := by
  have ran : create_rows db (graph_rows input) = .ok after := ran
  rw [create_rows,graph_rows,List.foldlM_append,List.foldlM_append] at ran
  obtain ⟨with_requirements,ran,plans⟩ := Loops.bind_ok_iff.mp ran
  obtain ⟨with_project,project,requirements⟩ := Loops.bind_ok_iff.mp ran
  have first := project_sound sound project
  have second := groups_sound (fun _ _ _ before ran => requirement_sound before ran) first requirements
  exact groups_sound (fun _ _ _ before ran => plan_sound before ran) second plans

/-! ### Runs -/

theorem transaction_sound {call : Call} (sound : Sound db) (ran : transaction db call = .ok after) : Sound after := by
  cases call with
  | create input => exact create_sound sound ran
  | transitionWorkPackage workPackageId target eventId => exact transition_sound sound ran
  | registerRepository input => exact repository_sound sound ran
  | recordInvestigation input => exact investigation_sound sound ran
  | recordAgentRun input => exact agent_run_sound sound ran
  | recordGateDecision input => exact gate_decision_sound sound ran
  | recordWorktreeSession input => exact worktree_sound sound ran
  | recordChangeProposal id projectId workPackageId worktreeSessionId baseRevision headRevision digest =>
    exact proposal_sound sound ran
  | recordGitHubPullRequest input => exact pull_request_sound sound ran
  | recordDecisionRequest id projectId => exact request_sound sound ran
  | recordHumanDecision input => exact human_decision_sound sound ran
  | recordStandingDelegation id projectId => exact delegation_sound sound ran
  | revokeStandingDelegation projectId delegationId revokedAt => exact revocation_sound sound ran

theorem next_sound (call : Call) (sound : Sound db) : Sound (next db call) := by
  unfold next
  cases ran : transaction db call with
  | error thrown => exact sound
  | ok later => exact transaction_sound sound ran

theorem reached_sound (calls : List Call) (sound : Sound db) : Sound (reached db calls) := by
  induction calls generalizing db with
  | nil => exact sound
  | cons call rest ih => exact ih (next_sound call sound)

/-- Every run of calls from an empty database leaves a complete audit trail. -/
theorem audit_trail (calls : List Call) : Audited (reached empty calls) := (reached_sound calls sound_empty).audited

end V3Aidlc.AuditTrails
