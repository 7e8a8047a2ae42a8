import V3Aidlc.ProjectGraphs

/-!
What the events tell of a package that was delivered, in any run of calls. The package was leased and run, verified
and reviewed, and then accepted, without a step in between (`deliveries_told`); once it can go nowhere its row and
its events stay as they are (`settled_packages_kept`).
-/
namespace V3Aidlc.DeliveryTrails
open V3Aidlc.Values V3Aidlc.WorkPackages V3Aidlc.ProjectRecords V3Aidlc.AuditTrails V3Aidlc.ProjectGraphs

/-! ### Where the events lead -/

/-- The state that the event of a transition names. -/
def moved_to (event : EventRow) : Option String := (Dict.get? "to" event.payload).bind Json.str?

def moves (events : List EventRow) : List String := events.filterMap moved_to

theorem moved_to_transition (row : PackageRow) (target : WorkPackageStatus) (eventId : String) :
    moved_to (package_transitioned row target eventId) = some (status_text target) := by
  simp [moved_to,package_transitioned,Dict.get?,Json.str?]

section
variable {row : PackageRow} {events : List EventRow} {status : WorkPackageStatus} {version : Nat}

theorem path_length (path : Path row events status version) : events.length = version := by
  induction path with
  | created => rfl
  | moved before allowed ih => simp [ih]

/-- The last step of a path to a state that no package begins in. -/
theorem path_last (path : Path row events status version) (later : status ≠ .planned) :
    ∃ source before reached, Allowed source status ∧ Path row before source reached ∧
      moves events = moves before ++ [status_text status] := by
  cases path with
  | created => exact absurd rfl later
  | moved before allowed =>
    refine ⟨_,_,_,allowed,before,?_⟩
    simp [moves,List.filterMap_append,moved_to_transition]

/-- The states of a delivery, from the lease to the acceptance. -/
def Delivered (states : List String) : Prop :=
  ∃ early pending, (pending = [] ∨ pending = ["evidence_pending"]) ∧
    states = early ++ (["leased","running"] ++ pending ++ ["verifying","reviewing","accepted"])

theorem from_reviewing {source : WorkPackageStatus} (allowed : Allowed source .accepted) : source = .reviewing := by
  cases source <;> simp [Allowed,WORK_PACKAGE_TRANSITIONS] at allowed ⊢

theorem from_verifying {source : WorkPackageStatus} (allowed : Allowed source .reviewing) : source = .verifying := by
  cases source <;> simp [Allowed,WORK_PACKAGE_TRANSITIONS] at allowed ⊢

theorem from_pending {source : WorkPackageStatus} (allowed : Allowed source .verifying) :
    source = .running ∨ source = .evidence_pending := by
  cases source <;> simp [Allowed,WORK_PACKAGE_TRANSITIONS] at allowed ⊢

theorem from_running {source : WorkPackageStatus} (allowed : Allowed source .evidence_pending) : source = .running := by
  cases source <;> simp [Allowed,WORK_PACKAGE_TRANSITIONS] at allowed ⊢

theorem from_leased {source : WorkPackageStatus} (allowed : Allowed source .running) : source = .leased := by
  cases source <;> simp [Allowed,WORK_PACKAGE_TRANSITIONS] at allowed ⊢

theorem from_accepted {source : WorkPackageStatus} (allowed : Allowed source .closed) : source = .accepted := by
  cases source <;> simp [Allowed,WORK_PACKAGE_TRANSITIONS] at allowed ⊢

/-- A running package was leased just before. -/
theorem path_running (path : Path row events .running version) : ∃ early, moves events = early ++ ["leased","running"] := by
  obtain ⟨source,before,_,allowed,path,running⟩ := path_last path (by simp)
  obtain rfl := from_leased allowed
  obtain ⟨_,before',_,_,_,leased⟩ := path_last path (by simp)
  exact ⟨moves before',by rw [running,leased]; simp [status_text]⟩

theorem path_verifying (path : Path row events .verifying version) : ∃ early pending,
    (pending = [] ∨ pending = ["evidence_pending"]) ∧ moves events = early ++ (["leased","running"] ++ pending ++ ["verifying"]) := by
  obtain ⟨source,before,_,allowed,path,verifying⟩ := path_last path (by simp)
  rcases from_pending allowed with rfl | rfl
  · obtain ⟨early,running⟩ := path_running path
    exact ⟨early,[],.inl rfl,by rw [verifying,running]; simp [status_text]⟩
  · obtain ⟨source,before',_,allowed,path,pending⟩ := path_last path (by simp)
    obtain rfl := from_running allowed
    obtain ⟨early,running⟩ := path_running path
    exact ⟨early,["evidence_pending"],.inr rfl,by rw [verifying,pending,running]; simp [status_text]⟩

theorem path_accepted (path : Path row events .accepted version) : Delivered (moves events) := by
  obtain ⟨source,before,_,allowed,path,accepted⟩ := path_last path (by simp)
  obtain rfl := from_reviewing allowed
  obtain ⟨source,before',_,allowed,path,reviewing⟩ := path_last path (by simp)
  obtain rfl := from_verifying allowed
  obtain ⟨early,pending,which,verifying⟩ := path_verifying path
  exact ⟨early,pending,which,by rw [accepted,reviewing,verifying]; simp [status_text]⟩

theorem path_closed (path : Path row events .closed version) :
    ∃ states, Delivered states ∧ moves events = states ++ ["closed"] := by
  obtain ⟨source,before,_,allowed,path,closed⟩ := path_last path (by simp)
  obtain rfl := from_accepted allowed
  exact ⟨moves before,path_accepted path,closed⟩

end

/-- The events of every package that is accepted, or closed, end with its delivery. -/
def DeliveriesTold (db : Records) : Prop :=
  ∀ row ∈ db.workPackages, (row.status = .accepted → Delivered (moves (trail row.id db.events))) ∧
    (row.status = .closed → ∃ states, Delivered states ∧ moves (trail row.id db.events) = states ++ ["closed"])

theorem deliveries_told (calls : List Call) : DeliveriesTold (reached empty calls) := by
  intro row member
  have path := (reached_sound calls sound_empty).audited.paths row member
  refine ⟨fun status => ?_,fun status => ?_⟩ <;> rw [status] at path
  · exact path_accepted path
  · exact path_closed path

-- a package does get accepted
example : (reached empty [.create ⟨⟨"PRJ-1","Project",""⟩,[],[⟨"PLAN-1","Plan","",[⟨"WP-1",
      ⟨"Work","",[],none,none,none,none,"implementation",none,"fast",none,[],none⟩⟩]⟩]⟩,
    .transitionWorkPackage "WP-1" .eligible "EVT-1",.transitionWorkPackage "WP-1" .leased "EVT-2",
    .transitionWorkPackage "WP-1" .running "EVT-3",.transitionWorkPackage "WP-1" .verifying "EVT-4",
    .transitionWorkPackage "WP-1" .reviewing "EVT-5",
    .transitionWorkPackage "WP-1" .accepted "EVT-6"]).workPackages.map PackageRow.status = [.accepted] := by
  decide +kernel

/-! ### Packages that can go nowhere -/

variable {db after : Records}

theorem added_events (rows : List Row) (db : Records) : db.events <+: (rows.foldl added db).events := by
  induction rows generalizing db with
  | nil => exact List.prefix_rfl
  | cons row rest ih =>
    refine List.IsPrefix.trans ?_ (ih (added db row))
    cases row with
    | event event => exact List.prefix_append ..
    | _ => exact List.prefix_rfl

theorem create_settled {input : CreateProjectGraphInput} (sound : Sound db)
    (ran : transaction db (.create input) = .ok after) :
    db.workPackages ⊆ after.workPackages ∧ db.events <+: after.events := by
  refine ⟨?_,?_⟩
  · rw [(graph_added sound ran).2.2.2]
    exact List.subset_append_left ..
  · have ran : create_rows db (graph_rows input) = .ok after := ran
    obtain ⟨rfl,_⟩ := create_rows_ok sound.keyed ran
    exact added_events _ _

/-- The package may not move any more. -/
def Settled (row : PackageRow) : Prop := ∀ target, ¬ Allowed row.status target

/-- Whatever call comes next, a settled package and the events so far stay. -/
theorem next_settled (call : Call) (sound : Sound db) :
    (∀ row ∈ db.workPackages, Settled row → row ∈ (next db call).workPackages) ∧ db.events <+: (next db call).events := by
  unfold next
  cases ran : transaction db call with
  | error thrown => exact ⟨fun row member _ => member,List.prefix_rfl⟩
  | ok after =>
    cases call with
    | create input =>
      obtain ⟨packages,events⟩ := create_settled sound ran
      exact ⟨fun row member _ => packages member,events⟩
    | _ =>
      have same := same_graphs sound ran (by simp)
      exact ⟨same.settled,same.events⟩

theorem reached_settled (calls : List Call) (sound : Sound db) :
    (∀ row ∈ db.workPackages, Settled row → row ∈ (reached db calls).workPackages) ∧
      db.events <+: (reached db calls).events := by
  induction calls generalizing db with
  | nil => exact ⟨fun row member _ => member,List.prefix_rfl⟩
  | cons call rest ih =>
    obtain ⟨packages,events⟩ := next_settled call sound
    obtain ⟨later_packages,later_events⟩ := ih (next_sound call sound)
    exact ⟨fun row member settled => later_packages row (packages row member settled) settled,events.trans later_events⟩

/-- What is settled is the same row, with the same events. -/
def SettledKept (db after : Records) : Prop :=
  ∀ row ∈ db.workPackages, Settled row → row ∈ after.workPackages ∧ trail row.id after.events = trail row.id db.events

/-- Once a package is settled, in any run, nothing about it is different in any later state. -/
theorem settled_packages_kept (before later : List Call) : SettledKept (reached empty before) (reached empty (before ++ later)) := by
  intro row member settled
  have sound := reached_sound before sound_empty
  have split : reached empty (before ++ later) = reached (reached empty before) later := List.foldl_append ..
  rw [split]
  obtain ⟨packages,events⟩ := reached_settled later sound
  have there := packages row member settled
  refine ⟨there,?_⟩
  -- both trails are paths to the one version of the row
  have now := path_length (sound.audited.paths row member)
  have then_too := path_length ((reached_sound later sound).audited.paths row there)
  exact ((events.filter _).eq_of_length (now.trans then_too.symm)).symm

end V3Aidlc.DeliveryTrails
