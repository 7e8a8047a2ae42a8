import V3Aidlc.Canonical
import V3Aidlc.Crossings
import V3Aidlc.WorkPackages

/-!
The execution states of `execution_model.py`. A lead that is held (paused, blocked or escalated) goes on with a
reconciliation and with nothing else (`held_lead_reconciles`); a work package that is not verified yet is verified
before it is reviewed, accepted or closed (`package_verified_first`).
-/
namespace V3Aidlc.ExecutionModel
open V3Aidlc.Canonical
open V3Aidlc.WorkPackages (WorkPackageStatus)

inductive ProjectLeadState where
  | SLEEPING | RECONCILING | SELECTING | DISPATCHING | WAITING | EVALUATING | REPAIRING | REPLANNING | ESCALATED
  | PAUSED | COMPLETED | BLOCKED
  deriving DecidableEq

def ProjectLeadState.value : ProjectLeadState → String
  | .SLEEPING => "sleeping" | .RECONCILING => "reconciling" | .SELECTING => "selecting"
  | .DISPATCHING => "dispatching" | .WAITING => "waiting" | .EVALUATING => "evaluating"
  | .REPAIRING => "repairing" | .REPLANNING => "replanning" | .ESCALATED => "escalated"
  | .PAUSED => "paused" | .COMPLETED => "completed" | .BLOCKED => "blocked"

/-- `WorkPackageState` has the states of the domain package. -/
abbrev WorkPackageState := WorkPackageStatus

def work_package_value : WorkPackageState → String
  | .proposed => "proposed" | .planned => "planned" | .eligible => "eligible" | .leased => "leased"
  | .running => "running" | .evidence_pending => "evidence_pending" | .verifying => "verifying"
  | .reviewing => "reviewing" | .repair_required => "repair_required" | .replan_required => "replan_required"
  | .decision_required => "decision_required" | .blocked => "blocked" | .accepted => "accepted"
  | .closed => "closed" | .cancelled => "cancelled" | .superseded => "superseded"

def PROJECT_LEAD_TRANSITIONS : ProjectLeadState → List ProjectLeadState
  | .SLEEPING => [.RECONCILING,.PAUSED]
  | .RECONCILING => [.SELECTING,.WAITING,.ESCALATED,.BLOCKED,.COMPLETED,.PAUSED]
  | .SELECTING => [.DISPATCHING,.EVALUATING,.REPLANNING,.WAITING,.ESCALATED,.BLOCKED,.COMPLETED,.PAUSED]
  | .DISPATCHING => [.WAITING,.EVALUATING,.RECONCILING,.BLOCKED,.PAUSED]
  | .WAITING => [.RECONCILING,.EVALUATING,.ESCALATED,.PAUSED,.BLOCKED]
  | .EVALUATING => [.SELECTING,.REPAIRING,.REPLANNING,.ESCALATED,.WAITING,.COMPLETED,.BLOCKED,.PAUSED]
  | .REPAIRING => [.EVALUATING,.REPLANNING,.ESCALATED,.BLOCKED,.PAUSED]
  | .REPLANNING => [.SELECTING,.ESCALATED,.BLOCKED,.PAUSED]
  | .ESCALATED => [.RECONCILING,.PAUSED,.BLOCKED]
  | .PAUSED => [.RECONCILING,.BLOCKED]
  | .BLOCKED => [.RECONCILING,.ESCALATED,.PAUSED]
  | .COMPLETED => [.RECONCILING]

def WORK_PACKAGE_TRANSITIONS : WorkPackageState → List WorkPackageState
  | .proposed => [.planned,.cancelled]
  | .planned => [.eligible,.blocked,.cancelled,.superseded]
  | .eligible => [.leased,.blocked,.cancelled,.superseded]
  | .leased => [.running,.eligible,.blocked,.cancelled]
  | .running => [.evidence_pending,.verifying,.repair_required,.replan_required,.decision_required,.blocked,.cancelled]
  | .evidence_pending => [.verifying,.repair_required,.blocked,.cancelled]
  | .verifying => [.reviewing,.repair_required,.replan_required,.decision_required,.accepted,.blocked]
  | .reviewing => [.repair_required,.replan_required,.decision_required,.accepted,.blocked]
  | .repair_required => [.leased,.replan_required,.decision_required,.blocked,.cancelled]
  | .replan_required => [.planned,.decision_required,.blocked,.cancelled,.superseded]
  | .decision_required => [.planned,.eligible,.blocked,.cancelled,.superseded]
  | .blocked => [.planned,.eligible,.decision_required,.cancelled,.superseded]
  | .accepted => [.closed]
  | .closed => []
  | .cancelled => []
  | .superseded => []

def allowed_project_lead_states (state : ProjectLeadState) : List ProjectLeadState := PROJECT_LEAD_TRANSITIONS state

def allowed_work_package_states (state : WorkPackageState) : List WorkPackageState := WORK_PACKAGE_TRANSITIONS state

structure InvalidTransition where
  message : String
  deriving DecidableEq

/-- What both checks do, each with its own table and its own words. -/
def require_transition {α : Type} [DecidableEq α] (subject : String) (allowed : α → List α) (value : α → String)
    (current requested : α) : Except InvalidTransition Unit :=
  if requested ∈ allowed current then .ok ()
  else
    let names := join ", " (sortedStrings ((allowed current).map value))
    .error ⟨subject ++ " cannot transition from " ++ value current ++ " to " ++ value requested ++ "; allowed: " ++
      (if names = "" then "none" else names)⟩

def require_project_lead_transition : ProjectLeadState → ProjectLeadState → Except InvalidTransition Unit :=
  require_transition "Project Lead" allowed_project_lead_states ProjectLeadState.value

def require_work_package_transition : WorkPackageState → WorkPackageState → Except InvalidTransition Unit :=
  require_transition "Work Package" allowed_work_package_states work_package_value

theorem require_transition_ok {α : Type} [DecidableEq α] {subject : String} {allowed : α → List α} {value : α → String}
    {current requested : α} :
    require_transition subject allowed value current requested = .ok () ↔ requested ∈ allowed current := by
  unfold require_transition
  by_cases listed : requested ∈ allowed current <;> simp [listed]

/-- States one after the other, each of which the check lets the state before go to. -/
def Passes {α : Type} (check : α → α → Except InvalidTransition Unit) (states : List α) : Prop :=
  List.IsChain (fun current requested => check current requested = .ok ()) states

/-! ### The lead -/

/-- The lead waits for someone else. -/
def Held (state : ProjectLeadState) : Prop := state = .PAUSED ∨ state = .BLOCKED ∨ state = .ESCALATED

theorem held_leaves {source target : ProjectLeadState} (held : Held source)
    (allowed : require_project_lead_transition source target = .ok ()) : Held target ∨ target = .RECONCILING := by
  have member := require_transition_ok.mp allowed
  unfold Held
  rcases held with rfl | rfl | rfl <;> simp [allowed_project_lead_states,PROJECT_LEAD_TRANSITIONS] at member <;> tauto

/-- A held lead that ever goes on is held up to a reconciliation. -/
theorem held_lead_reconciles {first : ProjectLeadState} {states : List ProjectLeadState}
    (run : Passes require_project_lead_transition (first :: states)) (held : Held first)
    (resumed : ∃ state ∈ states, ¬ Held state) :
    ∃ front back, states = front ++ .RECONCILING :: back ∧ ∀ earlier ∈ front, Held earlier := by
  obtain ⟨front,state,back,split,still,gate⟩ : ∃ front state back, states = front ++ state :: back ∧
      (∀ earlier ∈ front, Held earlier) ∧ state = .RECONCILING :=
    Crossings.crosses (fun _ _ before step => held_leaves before step) run held resumed
  exact ⟨front,back,gate ▸ split,still⟩

theorem held_lead_reconciles_resumed :
    ∃ front back, [.ESCALATED,.BLOCKED,.RECONCILING,.SELECTING] = front ++ ProjectLeadState.RECONCILING :: back ∧
      ∀ earlier ∈ front, Held earlier :=
  held_lead_reconciles (show Passes require_project_lead_transition
      [.BLOCKED,.ESCALATED,.BLOCKED,.RECONCILING,.SELECTING] by unfold Passes; decide)
    (.inr (.inl rfl)) ⟨.SELECTING,by simp,by simp [Held]⟩

/-! ### The work package -/

/-- The package is not verified, or not verified any more. -/
def Unverified (state : WorkPackageState) : Prop :=
  state ≠ .verifying ∧ state ≠ .reviewing ∧ state ≠ .accepted ∧ state ≠ .closed

theorem unverified_leaves {source target : WorkPackageState} (unverified : Unverified source)
    (allowed : require_work_package_transition source target = .ok ()) : Unverified target ∨ target = .verifying := by
  have member := require_transition_ok.mp allowed
  cases target with
  | verifying => exact .inr rfl
  | reviewing | accepted | closed =>
    cases source <;> simp [allowed_work_package_states,WORK_PACKAGE_TRANSITIONS,Unverified] at member unverified
  | _ => exact .inl (by simp [Unverified])

/-- A package that is not verified comes to a review, an acceptance or its end through a verification only. -/
theorem package_verified_first {first : WorkPackageState} {states : List WorkPackageState}
    (run : Passes require_work_package_transition (first :: states)) (unverified : Unverified first)
    (further : ∃ state ∈ states, ¬ Unverified state) :
    ∃ front back, states = front ++ .verifying :: back ∧ ∀ earlier ∈ front, Unverified earlier := by
  obtain ⟨front,state,back,split,still,gate⟩ : ∃ front state back, states = front ++ state :: back ∧
      (∀ earlier ∈ front, Unverified earlier) ∧ state = .verifying :=
    Crossings.crosses (fun _ _ before step => unverified_leaves before step) run unverified further
  exact ⟨front,back,gate ▸ split,still⟩

theorem package_verified_first_repaired :
    ∃ front back, [.leased,.running,.verifying,.accepted] = front ++ WorkPackageStatus.verifying :: back ∧
      ∀ earlier ∈ front, Unverified earlier :=
  package_verified_first (show Passes require_work_package_transition
      [.repair_required,.leased,.running,.verifying,.accepted] by unfold Passes; decide)
    (by simp [Unverified]) ⟨.accepted,by simp,by simp [Unverified]⟩

end V3Aidlc.ExecutionModel
