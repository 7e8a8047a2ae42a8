import V3Aidlc.ProjectGraphs

/-!
The transition of a package in memory (`packages/domain`) beside that of the repository (`packages/database`). Both
follow one table, but the domain trims the ids of the event that it makes and refuses blank ones, where the repository
stores what it is given and looks for the id among its events. So in any run the two agree exactly where the table
refuses the step, or the ids are plain and the id of the event is new (`transitions_agree`); and where the ids are
plain, a stored package and its events are what the domain makes of the package as it was created
(`packages_replayed`).
-/
namespace V3Aidlc.DomainTransitions
open V3Aidlc.ProjectRecords V3Aidlc.AuditTrails V3Aidlc.ProjectGraphs
open V3Aidlc.Decisions (trim)
open V3Aidlc.WorkPackages (WorkPackageStatus WORK_PACKAGE_TRANSITIONS Allowed Thrown assertWorkPackageTransition
  assertWorkPackageTransition_ok)

def createLifecycleEvent (input : EventRow) : Except DomainValidationError EventRow := do
  if input.aggregateVersion < 1 then throw ⟨"aggregateVersion must be a positive integer"⟩
  let id ← requireText input.id "event id"
  let projectId ← requireText input.projectId "project id"
  let type ← requireText input.type "event type"
  let aggregateType ← requireText input.aggregateType "aggregate type"
  let aggregateId ← requireText input.aggregateId "aggregate id"
  return { input with
    id := id
    projectId := projectId
    type := type
    aggregateType := aggregateType
    aggregateId := aggregateId }

/-- The package after the step, and the event of it. -/
def transitionWorkPackage (workPackage : PackageRow) (target : WorkPackageStatus) (eventId : String) :
    Except Thrown (PackageRow × EventRow) := do
  assertWorkPackageTransition workPackage.status target
  let event ← (createLifecycleEvent (package_transitioned workPackage target eventId)).mapError
    (fun error => .Error error.message)
  return ({ workPackage with status := target,version := workPackage.version + 1 },event)

/-! ### What the domain makes -/

/-- A text that trimming leaves as it is, and that is not empty. -/
def Plain (text : String) : Prop := trim text = text ∧ text ≠ ""

/-- The event with its ids trimmed. -/
def trimmed (row : PackageRow) (target : WorkPackageStatus) (eventId : String) : EventRow :=
  { package_transitioned row target eventId with
    id := trim eventId
    projectId := trim row.projectId
    aggregateId := trim row.id }

def stepped (row : PackageRow) (target : WorkPackageStatus) : PackageRow :=
  { row with status := target,version := row.version + 1 }

section
variable {row : PackageRow} {target : WorkPackageStatus} {eventId : String}

theorem plain_type : trim "work-package.transitioned" = "work-package.transitioned" := by decide +kernel
theorem plain_aggregate : trim "work-package" = "work-package" := by decide +kernel

theorem refused_step (refused : ¬ Allowed row.status target) :
    assertWorkPackageTransition row.status target = .error (.InvalidTransitionError row.status target) := by
  unfold assertWorkPackageTransition
  rw [if_neg (by simpa [Allowed] using refused)]

/-- A step is refused by the table, then for a blank id. -/
theorem transition_eq : transitionWorkPackage row target eventId =
    if ¬ Allowed row.status target then .error (.InvalidTransitionError row.status target)
    else if trim eventId = "" then .error (.Error "event id must not be empty")
    else if trim row.projectId = "" then .error (.Error "project id must not be empty")
    else if trim row.id = "" then .error (.Error "aggregate id must not be empty")
    else .ok (stepped row target,trimmed row target eventId) := by
  by_cases allowed : Allowed row.status target
  · rw [if_neg (not_not.mpr allowed),transitionWorkPackage,assertWorkPackageTransition_ok.mpr allowed,Loops.ok_bind]
    by_cases event : trim eventId = ""
    · simp [createLifecycleEvent,package_transitioned,requireText,event,bind,Except.bind,Except.mapError]
    by_cases project : trim row.projectId = ""
    · simp [createLifecycleEvent,package_transitioned,requireText,event,project,bind,Except.bind,Except.mapError]
    by_cases package : trim row.id = ""
    · simp [createLifecycleEvent,package_transitioned,requireText,event,project,package,plain_type,plain_aggregate,bind,
        Except.bind,Except.mapError]
    simp [createLifecycleEvent,package_transitioned,requireText,event,project,package,plain_type,plain_aggregate,bind,
      Except.bind,pure,Except.pure,Except.mapError,stepped,trimmed]
  · rw [if_pos allowed,transitionWorkPackage,refused_step allowed]
    rfl

theorem trimmed_plain : trimmed row target eventId = package_transitioned row target eventId ↔
    trim eventId = eventId ∧ trim row.projectId = row.projectId ∧ trim row.id = row.id := by
  simp [trimmed,package_transitioned]

end

/-! ### What the repository stores -/

/-- Every package is of a stored project. -/
def Housed (db : Records) : Prop := ∀ row ∈ db.workPackages, ∃ project ∈ db.projects, project.id = row.projectId

variable {db after : Records}

theorem next_housed (call : Call) (sound : Sound db) (housed : Housed db) : Housed (next db call) := by
  unfold next
  cases ran : transaction db call with
  | error thrown => exact housed
  | ok after =>
    cases call with
    | create input =>
      obtain ⟨projects,_,_,packages⟩ := graph_added sound ran
      intro row member
      rw [packages] at member
      rw [projects]
      rcases List.mem_append.mp member with early | new
      · obtain ⟨project,stored,same⟩ := housed row early
        exact ⟨project,List.mem_append_left _ stored,same⟩
      · exact ⟨project_row input.project,by simp,(plan_package new).1.symm⟩
    | _ =>
      have same := same_graphs sound ran (by simp)
      obtain ⟨f,packages,unmoved⟩ := same.packages
      intro row member
      rw [packages] at member
      obtain ⟨stored,held,rfl⟩ := List.mem_map.mp member
      rw [same.projects,(unmoved stored).2.1]
      exact housed stored held

theorem reached_housed (calls : List Call) (sound : Sound db) (housed : Housed db) : Housed (reached db calls) := by
  induction calls generalizing db with
  | nil => exact housed
  | cons call rest ih => exact ih (next_sound call sound) (next_housed call sound housed)

/-- No event on the path of a package is of a later version than its last. -/
theorem path_versions {row : PackageRow} {events : List EventRow} {status : WorkPackageStatus} {version : Nat}
    (path : Path row events status version) : ∀ event ∈ events, event.aggregateVersion ≤ version := by
  induction path with
  | created => simp [package_created]
  | moved before allowed ih =>
    intro event member
    rcases List.mem_append.mp member with early | last
    · have := ih event early
      omega
    · rw [List.mem_singleton.mp last]
      simp [package_transitioned]

/-- The database with the package and the event of a step. -/
def stored (db : Records) (made : PackageRow × EventRow) : Records :=
  { db with
    workPackages := db.workPackages.map (fun row => if row.id = made.1.id then made.1 else row)
    events := db.events ++ [made.2] }

section
variable {row : PackageRow} {target : WorkPackageStatus} {eventId : String}

theorem moved_stored (sound : Sound db) (member : row ∈ db.workPackages) :
    db.workPackages.map (moved row target) =
      db.workPackages.map (fun other => if other.id = row.id then stepped row target else other) := by
  refine List.map_congr_left fun other held => ?_
  by_cases same : other.id = row.id
  · obtain rfl := List.inj_on_of_nodup_map sound.keyed.workPackages held member same
    simp [moved,stepped]
  · simp [moved,same]

theorem found_once (sound : Sound db) (member : row ∈ db.workPackages) :
    db.workPackages.find? (fun other => other.id = row.id) = some row ∧
      db.workPackages.countP (fun other => other.id = row.id ∧ other.version = row.version) = 1 := by
  have alone := filter_alone sound.keyed.workPackages member
  constructor
  · rw [← List.head?_filter,alone]
    rfl
  · have both : db.workPackages.filter (fun other => other.id = row.id ∧ other.version = row.version) = [row] := by
      have split : (db.workPackages.filter (fun other => other.id = row.id)).filter
          (fun other => other.version = row.version) = [row] := by
        rw [alone]
        simp
      rw [List.filter_filter] at split
      rw [← split]
      exact List.filter_congr (fun other _ => by simp [and_comm])
    rw [List.countP_eq_length_filter,both]
    rfl

/-- The next version of a package is new, so that of the two unique indexes only the id of the event counts. -/
theorem event_clash (sound : Sound db) (member : row ∈ db.workPackages) :
    db.events.any (fun event => event.id = (package_transitioned row target eventId).id ||
      event.aggregateType = (package_transitioned row target eventId).aggregateType &&
        (event.aggregateId = (package_transitioned row target eventId).aggregateId &&
          event.aggregateVersion = (package_transitioned row target eventId).aggregateVersion)) =
      db.events.any (fun event => event.id = eventId) := by
  have new : ∀ event ∈ db.events, ¬ (event.aggregateType = "work-package" ∧ event.aggregateId = row.id ∧
      event.aggregateVersion = row.version + 1) := by
    rintro event inside ⟨type,id,version⟩
    have own : event ∈ trail row.id db.events := by simp [trail,inside,type,id]
    have := path_versions (sound.audited.paths row member) event own
    omega
  rw [Bool.eq_iff_iff,List.any_eq_true,List.any_eq_true]
  refine exists_congr fun event => and_congr_right fun inside => ?_
  simp only [Bool.or_eq_true,Bool.and_eq_true,decide_eq_true_iff]
  exact or_iff_left (new event inside)

/-- What the repository does with a stored package. -/
theorem transaction_eq (sound : Sound db) (housed : Housed db) (member : row ∈ db.workPackages) :
    transaction db (.transitionWorkPackage row.id target eventId) =
      if ¬ Allowed row.status target then .error (.InvalidTransitionError row.status target)
      else if db.events.any (fun event => event.id = eventId) then .error (.Error "Unique constraint failed")
      else .ok (stored db (stepped row target,package_transitioned row target eventId)) := by
  obtain ⟨found,once⟩ := found_once sound member
  simp only [transaction,found]
  by_cases allowed : Allowed row.status target
  · rw [if_neg (not_not.mpr allowed),assertWorkPackageTransition_ok.mpr allowed,Loops.ok_bind]
    simp only [once,ne_eq,not_true_eq_false,if_false]
    have project : hasProject { db with workPackages := db.workPackages.map (moved row target) }
        (package_transitioned row target eventId).projectId = true := by
      obtain ⟨project,inside,same⟩ := housed row member
      exact List.any_eq_true.mpr ⟨project,inside,decide_eq_true same⟩
    show (ProjectRecords.insert db.events _ _ _).map _ = _
    unfold ProjectRecords.insert
    rw [event_clash sound member,project]
    by_cases taken : db.events.any (fun event => event.id = eventId) = true
    · rw [if_pos taken,if_pos taken]
      rfl
    · rw [if_neg taken,if_neg taken,if_pos rfl,moved_stored sound member]
      rfl
  · rw [if_pos allowed,refused_step allowed]
    rfl

end

/-! ### The two beside each other -/

/-- The repository does with the step what the domain does, and stores what the domain makes. -/
def Agree (db : Records) (row : PackageRow) (target : WorkPackageStatus) (eventId : String) : Prop :=
  transaction db (.transitionWorkPackage row.id target eventId) =
    (transitionWorkPackage row target eventId).map (stored db)

/-- The table refuses the step, or no id in it is one that the domain trims or refuses, and the event is new. -/
def Faithful (db : Records) (row : PackageRow) (target : WorkPackageStatus) (eventId : String) : Prop :=
  ¬ Allowed row.status target ∨
    Plain eventId ∧ Plain row.projectId ∧ Plain row.id ∧ ∀ event ∈ db.events, event.id ≠ eventId

theorem agree_iff {row : PackageRow} {target : WorkPackageStatus} {eventId : String} (sound : Sound db)
    (housed : Housed db) (member : row ∈ db.workPackages) :
    Agree db row target eventId ↔ Faithful db row target eventId := by
  unfold Agree Faithful
  rw [transaction_eq sound housed member,transition_eq]
  by_cases allowed : Allowed row.status target
  · simp only [allowed,not_true_eq_false,if_false,false_or]
    by_cases taken : db.events.any (fun event => event.id = eventId) = true
    · -- the domain does not look for the id
      have clash : ¬ ∀ event ∈ db.events, event.id ≠ eventId := by simpa using taken
      rw [if_pos taken]
      constructor
      · intro same
        split_ifs at same <;> simp [Except.map] at same
      · rintro ⟨_,_,_,free⟩
        exact absurd free clash
    · have free : ∀ event ∈ db.events, event.id ≠ eventId := by simpa using taken
      rw [if_neg taken]
      constructor
      · intro same
        by_cases event : trim eventId = ""
        · simp [event,Except.map] at same
        by_cases project : trim row.projectId = ""
        · simp [event,project,Except.map] at same
        by_cases package : trim row.id = ""
        · simp [event,project,package,Except.map] at same
        rw [if_neg event,if_neg project,if_neg package] at same
        have events := congrArg Records.events (Except.ok.inj same)
        have made : package_transitioned row target eventId = trimmed row target eventId := by
          simpa [stored] using events
        obtain ⟨event_id,project_id,package_id⟩ := trimmed_plain.mp made.symm
        exact ⟨⟨event_id,event_id ▸ event⟩,⟨project_id,project_id ▸ project⟩,⟨package_id,package_id ▸ package⟩,free⟩
      · rintro ⟨event,project,package,_⟩
        rw [if_neg (by simpa [event.1] using event.2),if_neg (by simpa [project.1] using project.2),
          if_neg (by simpa [package.1] using package.2),trimmed_plain.mpr ⟨event.1,project.1,package.1⟩]
        rfl
  · simp [allowed,Except.map]

/-- The steps on which the repository and the domain agree are the faithful ones. -/
def TransitionsAgree (db : Records) : Prop :=
  ∀ row ∈ db.workPackages, ∀ target eventId, Agree db row target eventId ↔ Faithful db row target eventId

/-- So it is in every state that calls of the repository reach. -/
theorem transitions_agree (calls : List Call) : TransitionsAgree (reached empty calls) := by
  have sound := reached_sound calls sound_empty
  have housed := reached_housed calls sound_empty (by simp [Housed,empty])
  exact fun row member target eventId => agree_iff sound housed member

/-! ### Whole histories -/

/-- Steps of the domain one after the other, with the events that they make. -/
def replay (package : PackageRow) (steps : List (WorkPackageStatus × String)) :
    Except Thrown (PackageRow × List EventRow) :=
  steps.foldlM (fun state step => do
    let made ← transitionWorkPackage state.1 step.1 step.2
    return (made.1,state.2 ++ [made.2])) (package,[])

/-- The package as it was created. -/
def as_created (row : PackageRow) : PackageRow := { row with status := .planned,version := 1 }

section
variable {row : PackageRow} {events : List EventRow} {status : WorkPackageStatus} {version : Nat}

theorem path_nonempty (path : Path row events status version) : events ≠ [] := by
  cases path <;> simp

/-- A path is what the domain makes of its steps. -/
theorem path_replayed (path : Path row events status version) (package : Plain row.id) (project : Plain row.projectId)
    (plain : ∀ event ∈ events.tail, Plain event.id) :
    ∃ steps, replay (as_created row) steps = .ok ({ row with status := status,version := version },events.tail) := by
  induction path with
  | created => exact ⟨[],rfl⟩
  | @moved events status target version eventId before allowed ih =>
    rw [List.tail_append_of_ne_nil (path_nonempty before)] at plain ⊢
    obtain ⟨steps,replayed⟩ := ih (fun event member => plain event (List.mem_append_left _ member))
    refine ⟨steps ++ [(target,eventId)],?_⟩
    have event : Plain eventId := plain (package_transitioned { row with status := status,version := version } target eventId)
      (by simp)
    have made : transitionWorkPackage { row with status := status,version := version } target eventId =
        .ok ({ row with status := target,version := version + 1 },
          package_transitioned { row with status := status,version := version } target eventId) := by
      rw [transition_eq,if_neg (not_not.mpr allowed),if_neg (by simpa [event.1] using event.2),
        if_neg (by simpa [project.1] using project.2),if_neg (by simpa [package.1] using package.2),
        (@trimmed_plain { row with status := status,version := version } _ _).mpr ⟨event.1,project.1,package.1⟩]
      rfl
    exact Loops.foldlM_snoc_ok.mpr ⟨_,replayed,by simp [made,bind,Except.bind,pure,Except.pure]⟩

end

/-- Where the ids are plain, a package and its later events are what the domain makes of it. -/
def Replayed (db : Records) : Prop :=
  ∀ row ∈ db.workPackages, Plain row.id → Plain row.projectId →
    (∀ event ∈ (trail row.id db.events).tail, Plain event.id) →
      ∃ steps, replay (as_created row) steps = .ok (row,(trail row.id db.events).tail)

theorem packages_replayed (calls : List Call) : Replayed (reached empty calls) := fun row member package project plain =>
  path_replayed ((reached_sound calls sound_empty).audited.paths row member) package project plain

end V3Aidlc.DomainTransitions
