import V3Aidlc.Effects

/-!
The work-package state machine (`packages/domain`) and the repository operation
that applies it to a stored package (`packages/database`). A transition that the
table does not allow is rejected before anything is written.
-/
namespace V3Aidlc.WorkPackages
open V3Aidlc.Effects

inductive WorkPackageStatus where
  | proposed | planned | eligible | leased | running | evidence_pending | verifying | reviewing
  | repair_required | replan_required | decision_required | blocked | accepted | closed | cancelled | superseded
  deriving DecidableEq

def WORK_PACKAGE_TRANSITIONS : WorkPackageStatus → List WorkPackageStatus
  | .proposed => [.planned,.cancelled,.superseded]
  | .planned => [.eligible,.blocked,.cancelled,.superseded]
  | .eligible => [.leased,.blocked,.cancelled,.superseded]
  | .leased => [.running,.eligible,.blocked,.cancelled]
  | .running => [.evidence_pending,.verifying,.repair_required,.replan_required,.decision_required,.blocked]
  | .evidence_pending => [.verifying,.repair_required,.replan_required,.blocked]
  | .verifying => [.reviewing,.repair_required,.replan_required,.decision_required,.blocked]
  | .reviewing => [.accepted,.repair_required,.replan_required,.decision_required,.blocked]
  | .repair_required => [.eligible,.cancelled,.superseded]
  | .replan_required => [.planned,.cancelled,.superseded]
  | .decision_required => [.planned,.eligible,.cancelled,.superseded]
  | .blocked => [.planned,.eligible,.cancelled,.superseded]
  | .accepted => [.closed]
  | .closed => []
  | .cancelled => []
  | .superseded => []

/-- The table allows the step. -/
def Allowed (source target : WorkPackageStatus) : Prop := target ∈ WORK_PACKAGE_TRANSITIONS source

instance (source target : WorkPackageStatus) : Decidable (Allowed source target) :=
  inferInstanceAs (Decidable (target ∈ WORK_PACKAGE_TRANSITIONS source))

inductive Thrown where
  | InvalidTransitionError (source target : WorkPackageStatus)
  | Error (message : String)
  deriving DecidableEq

def assertWorkPackageTransition (source target : WorkPackageStatus) : Except Thrown Unit :=
  if (WORK_PACKAGE_TRANSITIONS source).contains target then .ok ()
  else .error (.InvalidTransitionError source target)

theorem assertWorkPackageTransition_ok {source target : WorkPackageStatus} :
    assertWorkPackageTransition source target = .ok () ↔ Allowed source target := by
  unfold assertWorkPackageTransition Allowed
  by_cases allowed : target ∈ WORK_PACKAGE_TRANSITIONS source <;> simp [allowed]

/-! ### Stored packages -/

structure WorkPackageRow where
  id : String
  projectId : String
  status : WorkPackageStatus
  version : Nat

structure LifecycleEventRow where
  id : String
  projectId : String
  type : String
  aggregateType : String
  aggregateId : String
  aggregateVersion : Nat
  payload : WorkPackageStatus × WorkPackageStatus

structure Database where
  workPackages : List WorkPackageRow
  lifecycleEvents : List LifecycleEventRow

/-- `updateMany` with the version the transaction read. -/
def updateStatus (current : WorkPackageRow) (target : WorkPackageStatus) (row : WorkPackageRow) : WorkPackageRow :=
  if row.id = current.id ∧ row.version = current.version then
    { row with status := target, version := current.version + 1 }
  else row

def updatedCount (current : WorkPackageRow) (rows : List WorkPackageRow) : Nat :=
  rows.countP (fun row => row.id = current.id ∧ row.version = current.version)

/-- `ProjectRepository.transitionWorkPackage`: one transaction, so what throws
    leaves the database as it was. -/
def transitionWorkPackage (workPackageId : String) (target : WorkPackageStatus) (eventId : String) :
    Proc Database Thrown Unit := fun db =>
  match db.workPackages.find? (fun row => row.id = workPackageId) with
  | none => (.error (.Error "No WorkPackage found"),db)
  | some current =>
    match assertWorkPackageTransition current.status target with
    | .error thrown => (.error thrown,db)
    | .ok _ =>
      if updatedCount current db.workPackages ≠ 1 then
        (.error (.Error ("Concurrent update detected for " ++ current.id)),db)
      else if db.lifecycleEvents.any (fun event => event.id = eventId) then
        (.error (.Error "Unique constraint failed on the fields: (id)"),db)
      else
        (.ok (),{
          workPackages := db.workPackages.map (updateStatus current target)
          lifecycleEvents := db.lifecycleEvents ++ [{
            id := eventId
            projectId := current.projectId
            type := "work-package.transitioned"
            aggregateType := "work-package"
            aggregateId := current.id
            aggregateVersion := current.version + 1
            payload := (current.status,target) }] })

/-- A package in a known state goes along an allowed step, and no other. -/
theorem transitionWorkPackage_found {workPackageId eventId : String} {target : WorkPackageStatus} {db : Database}
    {current : WorkPackageRow} (found : db.workPackages.find? (fun row => row.id = workPackageId) = some current) :
    (¬ Allowed current.status target → transitionWorkPackage workPackageId target eventId db =
      (.error (.InvalidTransitionError current.status target),db)) ∧
    (Allowed current.status target → updatedCount current db.workPackages = 1 →
      (∀ event ∈ db.lifecycleEvents, event.id ≠ eventId) →
      ∃ after, transitionWorkPackage workPackageId target eventId db = (.ok (),after) ∧
        after.workPackages.find? (fun row => row.id = workPackageId) =
          some { current with status := target, version := current.version + 1 }) := by
  unfold transitionWorkPackage
  simp only [found]
  constructor
  · intro forbidden
    have thrown : assertWorkPackageTransition current.status target =
        .error (.InvalidTransitionError current.status target) := by
      unfold assertWorkPackageTransition
      rw [if_neg (by simpa [Allowed] using forbidden)]
    rw [thrown]
  · intro allowed unraced fresh
    have passed : assertWorkPackageTransition current.status target = .ok () :=
      assertWorkPackageTransition_ok.mpr allowed
    have unique : ¬ db.lifecycleEvents.any (fun event => event.id = eventId) = true := by
      simpa using fresh
    rw [passed]
    simp only [unraced,ne_eq,not_true_eq_false,↓reduceIte,unique]
    refine ⟨_,rfl,?_⟩
    have named : current.id = workPackageId := by simpa using List.find?_some found
    have same_ids : (fun row => decide (row.id = workPackageId)) ∘ updateStatus current target =
        fun row => decide (row.id = workPackageId) := by
      funext row
      simp only [Function.comp_apply,updateStatus]
      split <;> rfl
    rw [List.find?_map,same_ids,found]
    simp [updateStatus]

end V3Aidlc.WorkPackages
