import V3Aidlc.Groups
import V3Aidlc.Transactions
import V3Aidlc.WorkPackages
import Mathlib.Data.List.Range

/-!
Many clients of `ProjectRepository.transitionWorkPackage` on one work package. Each
call is a transaction of a read, a conditional update and the insert of an event;
a client may have read a status that is stale by the time it writes. The version in
the condition of the update makes the calls optimistic, so the package has a linear
history whatever the interleaving (`transitions_linear`).
-/
namespace V3Aidlc.ConcurrentTransitions
open V3Aidlc.Loops V3Aidlc.Groups V3Aidlc.Effects V3Aidlc.WorkPackages V3Aidlc.Transactions

/-! ### The transaction -/

structure TransitionCall where
  target : WorkPackageStatus
  eventId : String

/-- `tx.workPackage.updateMany`, and the check of the count. -/
def update_work_package (current : WorkPackageRow) (target : WorkPackageStatus) (db : Database) :
    Except Thrown Database :=
  if updatedCount current db.workPackages ≠ 1 then .error (.Error ("Concurrent update detected for " ++ current.id))
  else .ok { db with workPackages := db.workPackages.map (updateStatus current target) }

def transition_event (current : WorkPackageRow) (call : TransitionCall) : LifecycleEventRow where
  id := call.eventId
  projectId := current.projectId
  type := "work-package.transitioned"
  aggregateType := "work-package"
  aggregateId := current.id
  aggregateVersion := current.version + 1
  payload := (current.status,call.target)

/-- The unique index on aggregate type, id and version. -/
def SameVersion (event other : LifecycleEventRow) : Prop :=
  event.aggregateType = other.aggregateType ∧ event.aggregateId = other.aggregateId ∧
    event.aggregateVersion = other.aggregateVersion

instance (event other : LifecycleEventRow) : Decidable (SameVersion event other) :=
  inferInstanceAs (Decidable (_ ∧ _ ∧ _))

/-- `tx.lifecycleEvent.create`, with the two unique indexes of the table. -/
def create_event (event : LifecycleEventRow) (db : Database) : Except Thrown Database :=
  if db.lifecycleEvents.any (fun stored => stored.id = event.id) then
    .error (.Error "Unique constraint failed on the fields: (id)")
  else if db.lifecycleEvents.any (fun stored => SameVersion stored event) then
    .error (.Error "Unique constraint failed on the fields: (aggregateType,aggregateId,aggregateVersion)")
  else .ok { db with lifecycleEvents := db.lifecycleEvents ++ [event] }

/-- The read of the transaction, and what it then sets out to write. -/
def read_transition (workPackageId : String) (call : TransitionCall) (db : Database) :
    Except Thrown (List (Database → Except Thrown Database)) :=
  match db.workPackages.find? (fun row => row.id = workPackageId) with
  | none => .error (.Error "No WorkPackage found")
  | some current => do
    assertWorkPackageTransition current.status call.target
    return [update_work_package current call.target,create_event (transition_event current call)]

theorem read_transition_ok {workPackageId : String} {call : TransitionCall} {db : Database}
    {statements : List (Database → Except Thrown Database)} :
    read_transition workPackageId call db = .ok statements ↔
      ∃ current, db.workPackages.find? (fun row => row.id = workPackageId) = some current ∧
        Allowed current.status call.target ∧
        statements = [update_work_package current call.target,create_event (transition_event current call)] := by
  unfold read_transition
  cases found : db.workPackages.find? (fun row => row.id = workPackageId) with
  | none => simp
  | some current =>
    simp only [bind_ok_iff,pure_ok_iff,Option.some.injEq,exists_eq_left']
    constructor
    · rintro ⟨_,passed,same⟩
      exact ⟨assertWorkPackageTransition_ok.mp passed,same.symm⟩
    · rintro ⟨allowed,same⟩
      exact ⟨(),assertWorkPackageTransition_ok.mpr allowed,same.symm⟩

theorem update_work_package_ok {current : WorkPackageRow} {target : WorkPackageStatus} {db after : Database} :
    update_work_package current target db = .ok after ↔ updatedCount current db.workPackages = 1 ∧
      after = { db with workPackages := db.workPackages.map (updateStatus current target) } := by
  unfold update_work_package
  by_cases unraced : updatedCount current db.workPackages = 1
  · rw [if_neg (by simp [unraced]),Except.ok.injEq]
    exact ⟨fun same => ⟨unraced,same.symm⟩,fun ⟨_,same⟩ => same.symm⟩
  · rw [if_pos unraced]
    simp [unraced]

theorem create_event_ok {event : LifecycleEventRow} {db after : Database} :
    create_event event db = .ok after ↔
      (∀ stored ∈ db.lifecycleEvents, stored.id ≠ event.id ∧ ¬ SameVersion stored event) ∧
      after = { db with lifecycleEvents := db.lifecycleEvents ++ [event] } := by
  unfold create_event
  by_cases used : ∃ stored ∈ db.lifecycleEvents, stored.id = event.id
  · rw [if_pos (by simpa using used)]
    obtain ⟨stored,member,same⟩ := used
    exact ⟨fun returned => (by cases returned),fun ⟨fresh,_⟩ => absurd same (fresh stored member).1⟩
  rw [if_neg (by simpa using used)]
  by_cases taken : ∃ stored ∈ db.lifecycleEvents, SameVersion stored event
  · rw [if_pos (by simpa using taken)]
    obtain ⟨stored,member,same⟩ := taken
    exact ⟨fun returned => (by cases returned),fun ⟨fresh,_⟩ => absurd same (fresh stored member).2⟩
  rw [if_neg (by simpa using taken),Except.ok.injEq]
  constructor
  · rintro rfl
    exact ⟨fun stored member => ⟨fun same => used ⟨stored,member,same⟩,fun same => taken ⟨stored,member,same⟩⟩,rfl⟩
  · exact fun ⟨_,same⟩ => same.symm

/-- What the two statements need, and what they leave. -/
theorem execute_transition_ok {current : WorkPackageRow} {call : TransitionCall} {db after : Database} :
    execute [update_work_package current call.target,create_event (transition_event current call)] db = .ok after ↔
      updatedCount current db.workPackages = 1 ∧
      (∀ event ∈ db.lifecycleEvents, event.id ≠ call.eventId ∧ ¬ SameVersion event (transition_event current call)) ∧
      after = {
        workPackages := db.workPackages.map (updateStatus current call.target)
        lifecycleEvents := db.lifecycleEvents ++ [transition_event current call] } := by
  simp only [execute_cons,execute_nil,update_work_package_ok,create_event_ok]
  constructor
  · rintro ⟨_,⟨unraced,rfl⟩,_,⟨fresh,rfl⟩,rfl⟩
    exact ⟨unraced,fresh,rfl⟩
  · rintro ⟨unraced,fresh,rfl⟩
    exact ⟨_,⟨unraced,rfl⟩,_,⟨fresh,rfl⟩,rfl⟩

/-! ### The version guards the read -/

/-- The version stored for a work package. -/
def stored_version (workPackageId : String) (db : Database) : Nat :=
  match db.workPackages.find? (fun row => row.id = workPackageId) with
  | none => 0
  | some row => row.version

/-- Ids are primary keys. -/
def Keyed (db : Database) : Prop := (db.workPackages.map WorkPackageRow.id).Nodup

theorem updateStatus_id (current : WorkPackageRow) (target : WorkPackageStatus) (row : WorkPackageRow) :
    (updateStatus current target row).id = row.id := by
  unfold updateStatus
  split <;> rfl

theorem found_id {workPackageId : String} {rows : List WorkPackageRow} {row : WorkPackageRow}
    (found : rows.find? (fun row => row.id = workPackageId) = some row) : row.id = workPackageId := by
  simpa using List.find?_some found

/-- The row of a work package after an update of it. -/
theorem find_updateStatus {workPackageId : String} {rows : List WorkPackageRow} {current : WorkPackageRow}
    {target : WorkPackageStatus} (found : rows.find? (fun row => row.id = workPackageId) = some current) :
    (rows.map (updateStatus current target)).find? (fun row => row.id = workPackageId) =
      some { current with status := target, version := current.version + 1 } := by
  have same_ids : (fun row => decide (row.id = workPackageId)) ∘ updateStatus current target =
      fun row => decide (row.id = workPackageId) := by
    funext row
    simp only [Function.comp_apply,updateStatus_id]
  rw [List.find?_map,same_ids,found]
  simp [updateStatus]

/-- A condition that one row meets is met by the row it names. -/
theorem updated_version {db : Database} (keyed : Keyed db) {current : WorkPackageRow}
    (unraced : updatedCount current db.workPackages = 1) : stored_version current.id db = current.version := by
  have positive : 0 < updatedCount current db.workPackages := by omega
  obtain ⟨row,member,condition⟩ := List.countP_pos_iff.mp positive
  obtain ⟨named,versioned⟩ : row.id = current.id ∧ row.version = current.version := by simpa using condition
  unfold stored_version
  rw [← named,find_keyed WorkPackageRow.id keyed member]
  exact versioned

section
variable {ι : Type} {workPackageId : String} {calls : ι → TransitionCall}

/-- The transactions of the clients. -/
def transitions (workPackageId : String) (calls : ι → TransitionCall) (i : ι) (db : Database) :
    Except Thrown (List (Database → Except Thrown Database)) :=
  read_transition workPackageId (calls i) db

/-- What a transaction that commits alone does: an allowed step of the package,
    and the event of its next version. -/
theorem serial_transition_ok {i : ι} {db after : Database}
    (ran : serial (transitions workPackageId calls i) db = .ok after) :
    ∃ current, db.workPackages.find? (fun row => row.id = workPackageId) = some current ∧
      Allowed current.status (calls i).target ∧
      after = {
        workPackages := db.workPackages.map (updateStatus current (calls i).target)
        lifecycleEvents := db.lifecycleEvents ++ [transition_event current (calls i)] } := by
  obtain ⟨statements,saw,executed⟩ := serial_ok.mp ran
  obtain ⟨current,found,allowed,rfl⟩ := read_transition_ok.mp saw
  obtain ⟨_,_,after⟩ := execute_transition_ok.mp executed
  exact ⟨current,found,allowed,after⟩

theorem serial_keyed {i : ι} {db after : Database} (keyed : Keyed db)
    (ran : serial (transitions workPackageId calls i) db = .ok after) : Keyed after := by
  obtain ⟨current,_,_,rfl⟩ := serial_transition_ok ran
  have ids : WorkPackageRow.id ∘ updateStatus current (calls i).target = WorkPackageRow.id := by
    funext row
    exact updateStatus_id current _ row
  unfold Keyed
  rw [List.map_map,ids]
  exact keyed

theorem serial_raises {i : ι} {db after : Database} (ran : serial (transitions workPackageId calls i) db = .ok after) :
    stored_version workPackageId db < stored_version workPackageId after := by
  obtain ⟨current,found,_,rfl⟩ := serial_transition_ok ran
  unfold stored_version
  simp only [found,find_updateStatus found]
  omega

theorem transitions_optimistic (workPackageId : String) (calls : ι → TransitionCall) {initial : Database}
    (keyed : Keyed initial) : Optimistic (transitions workPackageId calls) initial := by
  refine optimistic_of_version (stored_version workPackageId) ?_ ?_
  · intro i db after _ ran
    exact serial_raises ran
  · intro i seen db after statements reached later saw executed
    obtain ⟨current,found,_,rfl⟩ := read_transition_ok.mp saw
    obtain ⟨unraced,_,_⟩ := execute_transition_ok.mp executed
    have kept : Keyed db := later_keeps (fun _ _ _ => serial_keyed) (reached.trans later) keyed
    have named : current.id = workPackageId := found_id found
    have now := updated_version kept unraced
    rw [named] at now
    rw [now]
    unfold stored_version
    rw [found]

/-! ### The history is linear -/

/-- From one status to another along steps of the table, each starting where the
    one before it ended. -/
def Path : WorkPackageStatus → List (WorkPackageStatus × WorkPackageStatus) → WorkPackageStatus → Prop
  | first,[],last => first = last
  | first,(source,target) :: rest,last => first = source ∧ Allowed source target ∧ Path target rest last

theorem path_snoc {first source target : WorkPackageStatus} {steps : List (WorkPackageStatus × WorkPackageStatus)}
    (path : Path first steps source) (allowed : Allowed source target) :
    Path first (steps ++ [(source,target)]) target := by
  induction steps generalizing first with
  | nil =>
    have same : first = source := path
    exact ⟨same,allowed,rfl⟩
  | cons step rest ih =>
    obtain ⟨same,here,later⟩ := path
    exact ⟨same,here,ih later⟩

/-- The event that records a call. -/
structure Records (workPackageId : String) (call : TransitionCall) (event : LifecycleEventRow) : Prop where
  id : event.id = call.eventId
  aggregateType : event.aggregateType = "work-package"
  aggregateId : event.aggregateId = workPackageId
  target : event.payload.2 = call.target

/-- The committed calls, in order, took the package from `current` to `row`, one
    event and one version each. -/
structure Linear (workPackageId : String) (calls : ι → TransitionCall) (current : WorkPackageRow)
    (initial stored : Database) (order : List ι) (row : WorkPackageRow) (events : List LifecycleEventRow) : Prop where
  found : stored.workPackages.find? (fun row => row.id = workPackageId) = some row
  version : row.version = current.version + order.length
  appended : stored.lifecycleEvents = initial.lifecycleEvents ++ events
  versions : events.map LifecycleEventRow.aggregateVersion = List.range' (current.version + 1) order.length
  path : Path current.status (events.map LifecycleEventRow.payload) row.status
  recorded : List.Forall₂ (fun i event => Records workPackageId (calls i) event) order events

theorem linear_nil {current : WorkPackageRow} {initial : Database}
    (found : initial.workPackages.find? (fun row => row.id = workPackageId) = some current) :
    Linear workPackageId calls current initial initial [] current [] where
  found := found
  version := rfl
  appended := (List.append_nil _).symm
  versions := rfl
  path := rfl
  recorded := .nil

/-- One more commit is one more step, at the next version. -/
theorem linear_snoc {current row : WorkPackageRow} {initial stored after : Database} {order : List ι}
    {events : List LifecycleEventRow} (linear : Linear workPackageId calls current initial stored order row events)
    {i : ι} (ran : serial (transitions workPackageId calls i) stored = .ok after) :
    Linear workPackageId calls current initial after (order ++ [i])
      { row with status := (calls i).target, version := row.version + 1 }
      (events ++ [transition_event row (calls i)]) := by
  obtain ⟨again,found,allowed,rfl⟩ := serial_transition_ok ran
  obtain rfl : row = again := Option.some.inj (linear.found.symm.trans found)
  have next : (transition_event row (calls i)).aggregateVersion = current.version + 1 + order.length := by
    show row.version + 1 = _
    rw [linear.version]
    omega
  refine { found := ?_, version := ?_, appended := ?_, versions := ?_, path := ?_, recorded := ?_ }
  · exact find_updateStatus found
  · simp only [linear.version,List.length_append,List.length_singleton]
    omega
  · simp only [linear.appended,List.append_assoc]
  · rw [List.map_append,linear.versions,List.length_append,List.length_singleton,List.range'_concat]
    simp [next]
  · rw [List.map_append]
    exact path_snoc linear.path allowed
  · refine List.rel_append linear.recorded (.cons ?_ .nil)
    exact ⟨rfl,rfl,found_id found,rfl⟩

/-- Calls that commit one after another leave a linear history. -/
theorem linear_run {current : WorkPackageRow} {initial stored : Database} {order : List ι}
    (found : initial.workPackages.find? (fun row => row.id = workPackageId) = some current)
    (ran : order.foldlM (fun db i => serial (transitions workPackageId calls i) db) initial = .ok stored) :
    ∃ row events, Linear workPackageId calls current initial stored order row events := by
  refine foldlM_invariant (fun done db => ∃ row events, Linear workPackageId calls current initial db done row events)
    ?_ ⟨current,[],linear_nil found⟩ ran
  rintro done db i after ⟨row,events,linear⟩ committed
  exact ⟨_,_,linear_snoc linear committed⟩

/-- The calls that committed are recorded in the order of their commits, whatever
    the interleaving, and what follows only appends to the record. -/
theorem transitions_linear [DecidableEq ι] (workPackageId : String) (calls : ι → TransitionCall) {initial : Database}
    {current : WorkPackageRow} {system : System ι Database Thrown} (keyed : Keyed initial)
    (found : initial.workPackages.find? (fun row => row.id = workPackageId) = some current)
    (reached : Reached (transitions workPackageId calls) initial system) :
    (∃ order row events, order.Nodup ∧ (∀ i, i ∈ order ↔ system.phase i = .committed) ∧
      Linear workPackageId calls current initial system.stored order row events) ∧
    ∀ next, Steps (transitions workPackageId calls) system next →
      system.stored.lifecycleEvents <+: next.stored.lifecycleEvents := by
  have optimistic := transitions_optimistic workPackageId calls keyed
  obtain ⟨order,ordered⟩ := serializable optimistic reached
  obtain ⟨row,events,linear⟩ := linear_run found ordered.ran
  refine ⟨⟨order,row,events,ordered.distinct,ordered.members,linear⟩,?_⟩
  intro next steps
  obtain ⟨more,after⟩ := ordered_steps optimistic ordered steps
  obtain ⟨_,appended,further⟩ := linear_run linear.found (ordered_more ordered after)
  exact ⟨appended,further.appended.symm⟩

end

/-! Two clients read the same version; the second to write finds it gone. -/

def raced_row : WorkPackageRow := ⟨"WP-1","PRJ-1",.reviewing,4⟩

def raced_calls : Bool → TransitionCall
  | false => ⟨.accepted,"EVENT-1"⟩
  | true => ⟨.blocked,"EVENT-2"⟩

theorem raced_steps : ∃ system : System Bool Database Thrown,
    Reached (transitions "WP-1" raced_calls) ⟨[raced_row],[]⟩ system ∧
      system.phase false = .committed ∧ system.phase true = .failed := by
  have read (i : Bool) : transitions "WP-1" raced_calls i (start (ι := Bool) (ε := Thrown) ⟨[raced_row],[]⟩).stored =
      .ok [update_work_package raced_row (raced_calls i).target,
        create_event (transition_event raced_row (raced_calls i))] := by
    refine read_transition_ok.mpr ⟨raced_row,rfl,?_,rfl⟩
    cases i <;> decide
  have bothRead := (Relation.ReflTransGen.refl.tail (Step.reads rfl (read false))).tail (Step.reads rfl (read true))
  have firstWrites := ((bothRead.tail (.locks (i := false) rfl (by rintro (_ | _) _ _ ⟨⟩))).tail
    (.writes (i := false) rfl rfl)).tail (.writes (i := false) rfl rfl)
  have firstCommits := firstWrites.tail (.commits (i := false) rfl)
  have secondWrites := firstCommits.tail (.locks (i := true) rfl (by rintro (_ | _) _ _ ⟨⟩))
  exact ⟨_,secondWrites.tail (.throws (i := true) rfl rfl),rfl,rfl⟩

theorem transitions_linear_raced : ∃ system : System Bool Database Thrown, system.phase true = .failed ∧
    (∃ order row events, order.Nodup ∧ (∀ i, i ∈ order ↔ system.phase i = .committed) ∧
      Linear "WP-1" raced_calls raced_row ⟨[raced_row],[]⟩ system.stored order row events) ∧
    ∀ next, Steps (transitions "WP-1" raced_calls) system next →
      system.stored.lifecycleEvents <+: next.stored.lifecycleEvents := by
  obtain ⟨system,reached,_,failed⟩ := raced_steps
  exact ⟨system,failed,transitions_linear "WP-1" raced_calls (by simp [Keyed]) rfl reached⟩

end V3Aidlc.ConcurrentTransitions
