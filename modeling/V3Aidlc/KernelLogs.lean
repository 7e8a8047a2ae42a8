import V3Aidlc.SilentDrops
import V3Aidlc.StateSnapshots

/-!
Events and decisions among all the calls of the state kernel. Projects and entities are written again and relations
are added between them, and a project that is added lets a later row refer to it; the two tables only grow. So
exactly in a run whose events and decisions name their columns and never take an id that another content holds, each
of them whose call returns is stored for good, and each that should not be stored raises (`logs_never_drop_iff`).
-/
namespace V3Aidlc.KernelLogs
open V3Aidlc.ConstrainedTables V3Aidlc.ConstrainedTables.Table V3Aidlc.Upserts V3Aidlc.StateSnapshots V3Aidlc.SilentDrops
open V3Aidlc.StateKernel hiding perform next reached reached_append

/-- The rows of both tables are still there, as they were. -/
structure Grown (db later : KernelState) : Prop where
  events : db.events.rows <+: later.events.rows
  decisions : db.decisions.rows <+: later.decisions.rows

/-- In the run every event and decision whose call returns is stored in every later state, one that should not be
    stored raises, and no row of the two tables is ever changed. -/
structure LogsNeverDrop (db : KernelState) (commands : List Command) : Prop where
  stored : ∀ front call middle back, commands = front ++ .log call :: (middle ++ back) →
    ∀ after, perform (reached db front) (.log call) = .ok after →
      Holds (reached db (front ++ .log call :: middle)).database call
  raises : ∀ front call back, commands = front ++ .log call :: back →
    Clashing (reached db front).database call ∨ Violating (reached db front).database call →
      ∃ error, perform (reached db front) (.log call) = .error error
  kept : ∀ front back, commands = front ++ back → Grown (reached db front) (reached db commands)

section
variable {db after later : KernelState} {call : Call}

/-! ### The tables grow -/

theorem grown_refl (db : KernelState) : Grown db db := ⟨List.prefix_rfl,List.prefix_rfl⟩

theorem grown_trans (first : Grown db after) (second : Grown after later) : Grown db later :=
  ⟨first.events.trans second.events,first.decisions.trans second.decisions⟩

theorem perform_grown {command : Command} (ran : perform db command = .ok after) : Grown db after := by
  cases command with
  | upsert_project project_id now name status =>
    obtain ⟨row,_,stored⟩ := Loops.bind_ok_iff.mp ran
    obtain rfl := Loops.pure_ok_iff.mp stored
    exact ⟨List.prefix_rfl,List.prefix_rfl⟩
  | upsert_entity project_id now entity_id entity_type title status attributes =>
    obtain ⟨row,_,stored⟩ := Loops.bind_ok_iff.mp ran
    obtain ⟨entities,_,rfl⟩ := Loops.map_ok_iff.mp stored
    exact ⟨List.prefix_rfl,List.prefix_rfl⟩
  | relate project_id now source_id relationship_type target_id =>
    obtain ⟨relationships,_,rfl⟩ := Loops.map_ok_iff.mp ran
    exact ⟨List.prefix_rfl,List.prefix_rfl⟩
  | log call =>
    cases call with
    | append_event =>
      obtain ⟨events,inserted,rfl⟩ := Loops.map_ok_iff.mp ran
      exact ⟨insert_keeps inserted,List.prefix_rfl⟩
    | record_decision =>
      obtain ⟨decisions,inserted,rfl⟩ := Loops.map_ok_iff.mp ran
      exact ⟨List.prefix_rfl,insert_keeps inserted⟩

theorem next_grown (db : KernelState) (command : Command) : Grown db (next db command) := by
  unfold next
  cases ran : perform db command with
  | ok after => exact perform_grown ran
  | error _ => exact grown_refl db

theorem reached_grown (db : KernelState) (commands : List Command) :
    Grown db (reached db commands) := by
  induction commands generalizing db with
  | nil => exact grown_refl db
  | cons command rest ih => exact grown_trans (next_grown db command) (ih (next db command))

/-! ### One call -/

theorem holds_grown (grown : Grown db later) (holds : Holds db.database call) : Holds later.database call := by
  cases call with
  | append_event => exact stored_mono (grown.events.map _) holds
  | record_decision => exact stored_mono grown.decisions holds

theorem log_returned (ran : perform db (.log call) = .ok after) :
    StateKernel.perform db.database call = .ok after.database := by
  rw [← perform_log,ran]
  rfl

theorem log_raised {error : SqliteError} (raised : StateKernel.perform db.database call = .error error) :
    perform db (.log call) = .error error := by
  rw [← perform_log] at raised
  cases ran : perform db (.log call) with
  | ok after => rw [ran] at raised; cases raised
  | error other => rw [ran] at raised; cases raised; rfl

/-- A call that is skipped returns, and has no row afterwards. -/
theorem log_dropped (unsound : ¬ Sound db.database call) :
    ∃ after, perform db (.log call) = .ok after ∧ ¬ Holds after.database call := by
  obtain ⟨returned,absent⟩ := dropped_silently unsound
  cases ran : perform db (.log call) with
  | error raised =>
    rw [← perform_log,ran] at returned
    cases returned
  | ok after =>
    have same := (log_returned ran).symm.trans returned
    exact ⟨after,rfl,Except.ok.inj same ▸ absent⟩

theorem reached_log {front : List Command} (ran : perform (reached db front) (.log call) = .ok after)
    (middle : List Command) : reached db (front ++ .log call :: middle) = reached after middle := by
  have step : next (reached db front) (.log call) = after := by
    unfold next
    rw [ran]
  rw [reached_append,← step]
  rfl

end

/-! ### Runs -/

/-- A run of the kernel never drops an event or a decision exactly when each of them names its columns and takes no
    id that another content holds. -/
theorem logs_never_drop_iff {db : KernelState} {commands : List Command} : LogsNeverDrop db commands ↔
    ∀ front call back, commands = front ++ .log call :: back → Sound (reached db front).database call := by
  constructor
  · intro never front call back split
    by_contra unsound
    obtain ⟨after,ran,absent⟩ := log_dropped unsound
    have here := never.stored front call [] back split after ran
    rw [reached_log ran] at here
    exact absent here
  · intro sound
    refine ⟨?_,?_,?_⟩
    · intro front call middle back split after ran
      have here : Holds after.database call :=
        sound_stored (sound front call (middle ++ back) split) (log_returned ran)
      rw [reached_log ran]
      exact holds_grown (reached_grown after middle) here
    · intro front call back split bad
      obtain ⟨error,raised⟩ := sound_raises (sound front call back split) bad
      exact ⟨error,log_raised raised⟩
    · intro front back split
      rw [split,reached_append]
      exact reached_grown _ back

end V3Aidlc.KernelLogs
