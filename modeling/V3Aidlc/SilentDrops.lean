import V3Aidlc.StateKernel

/-!
What a return of the state kernel says. `INSERT OR IGNORE` skips a row whose id is held by
another content, and one that lacks a column, and the call returns all the same
(`dropped_silently`). Exactly in a run whose calls never do either, every call that returns has its
row stored for good and every other call raises (`never_drops_iff`).
-/
namespace V3Aidlc.SilentDrops
open V3Aidlc.Values V3Aidlc.ConstrainedTables V3Aidlc.ConstrainedTables.Table V3Aidlc.StateKernel

/-! ### What a call should do -/

/-- What an event says beyond its id and its time. -/
def event_content (row : EventRow) : String × String × String × String × String :=
  (row.project_id,row.event_type,row.aggregate_type,row.aggregate_id,row.payload_json)

/-- What a decision says beyond its id and its time. -/
def decision_content (row : DecisionRow) : String × String × String × String × String :=
  (row.project_id,row.summary,row.rationale,row.authority,row.status)

/-- A row under the id of the call has what the call was given, for its project. -/
def Holds (db : Database) : Call → Prop
  | .append_event project_id now event_id event_type aggregate_type aggregate_id payload =>
    db.events.Stored event_content (event_row project_id now event_id event_type aggregate_type aggregate_id payload)
  | .record_decision project_id now decision_id summary rationale authority status =>
    db.decisions.Stored decision_content (decision_row project_id now decision_id summary rationale authority status)

/-- The id of the call is held by another content. -/
def Clashing (db : Database) : Call → Prop
  | .append_event project_id now event_id event_type aggregate_type aggregate_id payload =>
    db.events.Clashes event_content (event_row project_id now event_id event_type aggregate_type aggregate_id payload)
  | .record_decision project_id now decision_id summary rationale authority status =>
    db.decisions.Clashes decision_content (decision_row project_id now decision_id summary rationale authority status)

/-- A column of the call is missing, or its project is. -/
def Violating (db : Database) : Call → Prop
  | .append_event project_id now event_id event_type aggregate_type aggregate_id payload =>
    Violates EventRow.project_id db.projects
      (event_row project_id now event_id event_type aggregate_type aggregate_id payload)
  | .record_decision project_id now decision_id summary rationale authority status =>
    Violates DecisionRow.project_id db.projects
      (decision_row project_id now decision_id summary rationale authority status)

/-- No column of the call is missing, and its id is not held by another content. -/
def Sound (db : Database) : Call → Prop
  | .append_event project_id now event_id event_type aggregate_type aggregate_id payload =>
    db.events.Proper event_content (event_row project_id now event_id event_type aggregate_type aggregate_id payload)
  | .record_decision project_id now decision_id summary rationale authority status =>
    db.decisions.Proper decision_content (decision_row project_id now decision_id summary rationale authority status)

/-- In the run every call that returns has its row in every later state, a call that should not
    be stored raises, and no row is ever changed. -/
structure NeverDrops (db : Database) (calls : List Call) : Prop where
  stored : ∀ front call middle back, calls = front ++ call :: (middle ++ back) →
    ∀ after, perform (reached db front) call = .ok after → Holds (reached db (front ++ call :: middle)) call
  raises : ∀ front call back, calls = front ++ call :: back →
    Clashing (reached db front) call ∨ Violating (reached db front) call →
      ∃ error, perform (reached db front) call = .error error
  kept : ∀ front back, calls = front ++ back → Kept (reached db front) (reached db calls)

/-! ### One call -/

theorem event_whole (row other : EventRow) (same : event_content row = event_content other) :
    row.project_id = other.project_id := congrArg Prod.fst same

theorem decision_whole (row other : DecisionRow) (same : decision_content row = decision_content other) :
    row.project_id = other.project_id := congrArg Prod.fst same

theorem sound_stored {db after : Database} {call : Call} (sound : Sound db call) (ran : perform db call = .ok after) :
    Holds after call := by
  cases call with
  | append_event =>
    obtain ⟨events,inserted,rfl⟩ := Loops.map_ok_iff.mp ran
    exact (proper_insertion foreign_key event_whole sound).1 events inserted
  | record_decision =>
    obtain ⟨decisions,inserted,rfl⟩ := Loops.map_ok_iff.mp ran
    exact (proper_insertion foreign_key decision_whole sound).1 decisions inserted

theorem sound_raises {db : Database} {call : Call} (sound : Sound db call)
    (bad : Clashing db call ∨ Violating db call) :
    ∃ error, perform db call = .error error := by
  refine ⟨foreign_key,?_⟩
  cases call with
  | append_event =>
    obtain ⟨_,raises,agree⟩ := proper_insertion foreign_key event_whole sound
    rcases bad with clash | violated
    · exact absurd clash agree
    · exact congrArg (Except.map (fun events => { db with events := events })) (raises violated)
  | record_decision =>
    obtain ⟨_,raises,agree⟩ := proper_insertion foreign_key decision_whole sound
    rcases bad with clash | violated
    · exact absurd clash agree
    · exact congrArg (Except.map (fun decisions => { db with decisions := decisions })) (raises violated)

theorem holds_mono {db later : Database} {call : Call} (kept : Kept db later) (holds : Holds db call) :
    Holds later call := by
  cases call with
  | append_event => exact stored_mono kept.events holds
  | record_decision => exact stored_mono kept.decisions holds

/-- A call that lacks a column, or whose id another content holds, returns and leaves the database
    as it was. -/
theorem dropped_silently {db : Database} {call : Call} (unsound : ¬ Sound db call) :
    perform db call = .ok db ∧ ¬ Holds db call := by
  cases call with
  | append_event =>
    obtain ⟨skipped,absent⟩ := skipped_silently foreign_key unsound
    exact ⟨congrArg (Except.map (fun events => ({ db with events := events } : Database))) skipped,absent⟩
  | record_decision =>
    obtain ⟨skipped,absent⟩ := skipped_silently foreign_key unsound
    exact ⟨congrArg (Except.map (fun decisions => ({ db with decisions := decisions } : Database))) skipped,absent⟩

/-! ### Runs -/

/-- A run whose calls all name their columns and never take an id that another content holds
    never drops a row. -/
theorem run_never_drops {db : Database} {calls : List Call}
    (sound : ∀ front call back, calls = front ++ call :: back → Sound (reached db front) call) :
      NeverDrops db calls := by
  refine ⟨?_,?_,?_⟩
  · intro front call middle back split after ran
    have here : Holds after call := sound_stored (sound front call (middle ++ back) split) ran
    have step : next (reached db front) call = after := by
      unfold next
      rw [ran]
    have later : reached db (front ++ call :: middle) = reached after middle := by
      rw [reached_append,← step]
      rfl
    rw [later]
    exact holds_mono (reached_kept after middle) here
  · intro front call back split bad
    exact sound_raises (sound front call back split) bad
  · intro front back split
    rw [split,reached_append]
    exact reached_kept _ back

/-- A run never drops a row exactly when each of its calls names its columns and takes no id that
    another content holds. -/
theorem never_drops_iff {db : Database} {calls : List Call} :
    NeverDrops db calls ↔ ∀ front call back, calls = front ++ call :: back → Sound (reached db front) call := by
  refine ⟨fun never front call back split => ?_,run_never_drops⟩
  by_contra unsound
  obtain ⟨returned,absent⟩ := dropped_silently unsound
  have here := never.stored front call [] back split _ returned
  have same : reached db (front ++ [call]) = reached db front := by
    rw [reached_append]
    show next (reached db front) call = reached db front
    unfold next
    rw [returned]
  exact absent (same ▸ here)

/-! An event whose id is taken, and a run of two events. -/

def one_project : Database where
  projects := ["PRJ-1"]
  events := ⟨[],by simp,by simp⟩
  decisions := ⟨[],by simp,by simp⟩

def appended (event_id aggregate_id : String) : Call :=
  .append_event "PRJ-1" "2026-01-01T00:00:00Z" (some event_id) (some "work.closed") (some "work") (some aggregate_id)

theorem first_event_stored (event_id aggregate_id : String) :
    (reached one_project [appended event_id aggregate_id]).events.rows =
      [⟨event_id,"PRJ-1","work.closed","work",aggregate_id,payload_text none,"2026-01-01T00:00:00Z"⟩] := rfl

/-- The second event with the id returns and is not stored. -/
theorem second_event_dropped :
    ¬ NeverDrops one_project [appended "EVT-1" "WP-1",appended "EVT-1" "WP-2"] := by
  intro never
  have clash : Clashing (reached one_project [appended "EVT-1" "WP-1"]) (appended "EVT-1" "WP-2") := by
    refine ⟨_,rfl,"EVT-1",rfl,
      ⟨"EVT-1","PRJ-1","work.closed","work","WP-1",payload_text none,"2026-01-01T00:00:00Z"⟩,?_,rfl,?_⟩
    · exact List.mem_singleton.mpr rfl
    · simp [event_content]
  obtain ⟨error,raised⟩ := never.raises [appended "EVT-1" "WP-1"] (appended "EVT-1" "WP-2") [] rfl (.inl clash)
  have returned : (perform (reached one_project [appended "EVT-1" "WP-1"]) (appended "EVT-1" "WP-2")).isOk = true := rfl
  rw [raised] at returned
  cases returned

theorem never_drops_two : NeverDrops one_project [appended "EVT-1" "WP-1",appended "EVT-2" "WP-2"] := by
  refine never_drops_iff.mpr ?_
  intro front call back split
  match front with
  | [] =>
    obtain ⟨rfl,_⟩ := List.cons.inj split
    exact ⟨_,rfl,fun _ _ stored member => by cases member⟩
  | [first] =>
    obtain ⟨rfl,rest⟩ := List.cons.inj split
    obtain ⟨rfl,_⟩ := List.cons.inj rest
    refine ⟨_,rfl,fun key own stored member same => ?_⟩
    rw [first_event_stored,List.mem_singleton] at member
    subst member
    rw [← own] at same
    exact absurd same (by simp [EventRow.key])
  | first :: second :: third =>
    have := congrArg List.length split
    simp at this

end V3Aidlc.SilentDrops
