import V3Aidlc.ConstrainedTables
import V3Aidlc.Canonical

/-!
The state kernel (`state_kernel.py`): its tables of events and decisions and the two calls that
append to them. An event has an id and every column; the id of a decision may be missing. A call
that raises is rolled back, and no call changes a row (`perform_kept`).
-/
namespace V3Aidlc.StateKernel
open V3Aidlc.Values V3Aidlc.Canonical V3Aidlc.ConstrainedTables V3Aidlc.ConstrainedTables.Table

/-! ### The tables -/

structure EventRow where
  event_id : String
  project_id : String
  event_type : String
  aggregate_type : String
  aggregate_id : String
  payload_json : String
  occurred_at : String
  deriving DecidableEq

structure DecisionRow where
  id : Option String
  project_id : String
  summary : String
  rationale : String
  authority : String
  status : String
  created_at : String
  deriving DecidableEq

/-- The column that `UNIQUE` is said of. -/
def EventRow.key (row : EventRow) : Option String := some row.event_id

/-- The tables with the constraints of `SCHEMA_SQL`. Rows are listed in the order in which they
    were inserted; of a project only the id is referred to. -/
structure Database where
  projects : List String
  events : Table EventRow.key EventRow.project_id projects
  decisions : Table DecisionRow.id DecisionRow.project_id projects

inductive SqliteError where
  | IntegrityError (message : String)
  deriving DecidableEq

def foreign_key : SqliteError := .IntegrityError "FOREIGN KEY constraint failed"

/-! ### The calls -/

/-- `json.dumps(payload or {}, sort_keys=True)`: only literals hold other characters than ASCII. -/
def payload_text (payload : Option Dict) : String :=
  String.ofList ((dumps standard (.obj (payload.getD []))).toList.flatMap asciiChar)

/-- A call, with the project of its kernel and the time of `utc_now`. A text may be `None`. -/
inductive Call where
  | append_event (project_id now : String) (event_id event_type aggregate_type aggregate_id : Option String)
      (payload : Option Dict := none)
  | record_decision (project_id now : String) (decision_id summary rationale : Option String)
      (authority : Option String := some "user") (status : Option String := some "accepted")

/-- The row of an event, where every column is given. -/
def event_row (project_id now : String) (event_id event_type aggregate_type aggregate_id : Option String)
    (payload : Option Dict) : Option EventRow := do
  return ⟨← event_id,project_id,← event_type,← aggregate_type,← aggregate_id,payload_text payload,now⟩

/-- The row of a decision, where every column but the id is given. -/
def decision_row (project_id now : String) (decision_id summary rationale authority status : Option String) :
    Option DecisionRow := do
  return ⟨decision_id,project_id,← summary,← rationale,← authority,← status,now⟩

/-- `StateKernel.append_event` and `StateKernel.record_decision`. -/
def perform (db : Database) : Call → Except SqliteError Database
  | .append_event project_id now event_id event_type aggregate_type aggregate_id payload =>
    (insertOrIgnore foreign_key db.events
      (event_row project_id now event_id event_type aggregate_type aggregate_id payload)).map
      (fun events => { db with events := events })
  | .record_decision project_id now decision_id summary rationale authority status =>
    (insertOrIgnore foreign_key db.decisions
      (decision_row project_id now decision_id summary rationale authority status)).map
      (fun decisions => { db with decisions := decisions })

/-- A call that raises leaves the database as it was. -/
def next (db : Database) (call : Call) : Database :=
  match perform db call with
  | .ok after => after
  | .error _ => db

def reached (db : Database) (calls : List Call) : Database := calls.foldl next db

/-! ### Rows stay -/

/-- Every row is still there, as it was. -/
structure Kept (db later : Database) : Prop where
  projects : later.projects = db.projects
  events : db.events.rows <+: later.events.rows
  decisions : db.decisions.rows <+: later.decisions.rows

theorem kept_refl (db : Database) : Kept db db := ⟨rfl,List.prefix_refl _,List.prefix_refl _⟩

theorem kept_trans {db later last : Database} (first : Kept db later) (second : Kept later last) : Kept db last :=
  ⟨second.projects.trans first.projects,first.events.trans second.events,first.decisions.trans second.decisions⟩

theorem perform_kept {db after : Database} {call : Call} (ran : perform db call = .ok after) : Kept db after := by
  cases call with
  | append_event =>
    obtain ⟨events,inserted,rfl⟩ := Loops.map_ok_iff.mp ran
    exact ⟨rfl,insert_keeps inserted,List.prefix_refl _⟩
  | record_decision =>
    obtain ⟨decisions,inserted,rfl⟩ := Loops.map_ok_iff.mp ran
    exact ⟨rfl,List.prefix_refl _,insert_keeps inserted⟩

theorem next_kept (db : Database) (call : Call) : Kept db (next db call) := by
  unfold next
  cases ran : perform db call with
  | ok after => exact perform_kept ran
  | error _ => exact kept_refl db

theorem reached_kept (db : Database) (calls : List Call) : Kept db (reached db calls) := by
  induction calls generalizing db with
  | nil => exact kept_refl db
  | cons call rest ih => exact kept_trans (next_kept db call) (ih (next db call))

theorem reached_append (db : Database) (front back : List Call) :
    reached db (front ++ back) = reached (reached db front) back :=
  List.foldl_append

end V3Aidlc.StateKernel
