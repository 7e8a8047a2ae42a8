import V3Aidlc.Upserts
import V3Aidlc.StateKernel
import V3Aidlc.JsonTexts
import Mathlib.Data.Prod.Lex
import Mathlib.Order.WithBot

/-!
The whole state kernel (`state_kernel.py`): the five tables of `SCHEMA_SQL`, the calls that write them, and
`snapshot`. Projects and entities are written again under a taken id, which keeps the project and the
time of the first insertion; every other row stays as it was inserted. The two tables of
`StateKernel` are those of the same calls (`perform_log`).
-/
namespace V3Aidlc.StateSnapshots
open V3Aidlc.Values V3Aidlc.Canonical V3Aidlc.ConstrainedTables V3Aidlc.ConstrainedTables.Table V3Aidlc.Upserts
open V3Aidlc.StateKernel V3Aidlc.JsonTexts

/-! ### The tables -/

structure ProjectRow where
  id : String
  name : String
  status : String
  created_at : String
  updated_at : String
  deriving DecidableEq

structure EntityRow where
  id : Option String
  project_id : String
  entity_type : String
  title : String
  status : String
  attributes_json : String
  created_at : String
  updated_at : String
  deriving DecidableEq

structure RelationshipRow where
  project_id : String
  source_id : String
  relationship_type : String
  target_id : String
  created_at : String
  deriving DecidableEq

/-- An event with its `AUTOINCREMENT` number. -/
structure NumberedRow where
  sequence : Nat
  event : EventRow
  deriving DecidableEq

def ProjectRow.key (row : ProjectRow) : Option String := some row.id

/-- A project refers to nothing. -/
def ProjectRow.parent (_ : ProjectRow) : Unit := ()

/-- The columns that `UNIQUE` is said of. -/
def RelationshipRow.key (row : RelationshipRow) : Option (String × String × String × String) :=
  some (row.project_id,row.source_id,row.relationship_type,row.target_id)

def NumberedRow.key (row : NumberedRow) : Option String := row.event.key

def NumberedRow.project_id (row : NumberedRow) : String := row.event.project_id

/-- `ON CONFLICT(id) DO UPDATE SET` of `upsert_project` -/
def project_update : Merge ProjectRow.key ProjectRow.parent where
  into := fun stored row => { stored with name := row.name,status := row.status,updated_at := row.updated_at }
  key_into := fun _ _ => rfl
  parent_into := fun _ _ => rfl

/-- `ON CONFLICT(id) DO UPDATE SET` of `upsert_entity` -/
def entity_update : Merge EntityRow.id EntityRow.project_id where
  into := fun stored row => { stored with
    entity_type := row.entity_type
    title := row.title
    status := row.status
    attributes_json := row.attributes_json
    updated_at := row.updated_at }
  key_into := fun _ _ => rfl
  parent_into := fun _ _ => rfl

/-- The database. Rows are listed in the order in which they were inserted, and `last` is the last
    number that an event was given. -/
structure KernelState where
  projects : Table ProjectRow.key ProjectRow.parent [()]
  entities : Table EntityRow.id EntityRow.project_id (projects.rows.filterMap ProjectRow.key)
  relationships : Table RelationshipRow.key RelationshipRow.project_id (projects.rows.filterMap ProjectRow.key)
  events : Table NumberedRow.key NumberedRow.project_id (projects.rows.filterMap ProjectRow.key)
  last : Nat
  decisions : Table DecisionRow.id DecisionRow.project_id (projects.rows.filterMap ProjectRow.key)

/-- A database after `initialize_schema`. -/
def fresh : KernelState where
  projects := ⟨[],List.nodup_nil,by simp⟩
  entities := ⟨[],List.nodup_nil,by simp⟩
  relationships := ⟨[],List.nodup_nil,by simp⟩
  events := ⟨[],List.nodup_nil,by simp⟩
  last := 0
  decisions := ⟨[],List.nodup_nil,by simp⟩

/-! ### The calls -/

/-- A call on a kernel of the project, at the time of its `utc_now`. A text may be `None`. -/
inductive Command where
  | upsert_project (project_id now : String) (name status : Option String)
  | upsert_entity (project_id now : String) (entity_id entity_type title status : Option String)
      (attributes : Option Dict := none)
  | relate (project_id now : String) (source_id relationship_type target_id : Option String)
  | log (call : Call)

/-- A column that must be given. -/
def not_null (column : String) : Option String → Except SqliteError String
  | some text => .ok text
  | none => .error (.IntegrityError ("NOT NULL constraint failed: " ++ column))

def project_row (project_id now : String) (name status : Option String) : Except SqliteError ProjectRow := do
  return ⟨project_id,← not_null "projects.name" name,← not_null "projects.status" status,now,now⟩

def entity_row (project_id now : String) (entity_id entity_type title status : Option String)
    (attributes : Option Dict) : Except SqliteError EntityRow := do
  return ⟨entity_id,project_id,← not_null "entities.entity_type" entity_type,← not_null "entities.title" title,
    ← not_null "entities.status" status,payload_text attributes,now,now⟩

/-- The row of a relation, where every column is given. -/
def relationship_row (project_id now : String) (source_id relationship_type target_id : Option String) :
    Option RelationshipRow := do
  return ⟨project_id,← source_id,← relationship_type,← target_id,now⟩

/-- The row of an event is given the next number. -/
def numbered_row (sequence : Nat) (project_id now : String)
    (event_id event_type aggregate_type aggregate_id : Option String) (payload : Option Dict) : Option NumberedRow :=
  (event_row project_id now event_id event_type aggregate_type aggregate_id payload).map (NumberedRow.mk sequence)

theorem ids_grow (merge : Merge ProjectRow.key ProjectRow.parent) (row : ProjectRow) (rows : List ProjectRow) :
    rows.filterMap ProjectRow.key ⊆ (put merge row rows).filterMap ProjectRow.key :=
  fun _ member => keys_put.mpr (.inl member)

/-- The database with the row of a project. -/
def KernelState.project (db : KernelState) (row : ProjectRow) : KernelState where
  projects := store project_update db.projects row (.inr (by simp))
  entities := widen db.entities (ids_grow _ _ _)
  relationships := widen db.relationships (ids_grow _ _ _)
  events := widen db.events (ids_grow _ _ _)
  last := db.last
  decisions := widen db.decisions (ids_grow _ _ _)

/-- The calls of `StateKernel`, each a transaction of its own. A number is used up by an event that is
    skipped. -/
def perform (db : KernelState) : Command → Except SqliteError KernelState
  | .upsert_project project_id now name status => do
    let row ← project_row project_id now name status
    return db.project row
  | .upsert_entity project_id now entity_id entity_type title status attributes => do
    let row ← entity_row project_id now entity_id entity_type title status attributes
    (upsert foreign_key entity_update db.entities row).map (fun entities => { db with entities := entities })
  | .relate project_id now source_id relationship_type target_id =>
    (db.relationships.insertOrIgnore foreign_key (relationship_row project_id now source_id relationship_type target_id)).map
      (fun relationships => { db with relationships := relationships })
  | .log (.append_event project_id now event_id event_type aggregate_type aggregate_id payload) =>
    (db.events.insertOrIgnore foreign_key
      (numbered_row (db.last + 1) project_id now event_id event_type aggregate_type aggregate_id payload)).map
      (fun events => { db with events := events,last := db.last + 1 })
  | .log (.record_decision project_id now decision_id summary rationale authority status) =>
    (db.decisions.insertOrIgnore foreign_key
      (decision_row project_id now decision_id summary rationale authority status)).map
      (fun decisions => { db with decisions := decisions })

/-- A call that raises leaves the database as it was. -/
def next (db : KernelState) (command : Command) : KernelState :=
  match perform db command with
  | .ok after => after
  | .error _ => db

def reached (db : KernelState) (commands : List Command) : KernelState := commands.foldl next db

theorem reached_append (db : KernelState) (front back : List Command) :
    reached db (front ++ back) = reached (reached db front) back := List.foldl_append

/-- The calls of a run that return. -/
def returned (db : KernelState) : List Command → List Command
  | [] => []
  | command :: rest =>
    match perform db command with
    | .ok after => command :: returned after rest
    | .error _ => returned db rest

/-- The events without their numbers. -/
def unnumbered {ids : List String} (events : Table NumberedRow.key NumberedRow.project_id ids) :
    Table EventRow.key EventRow.project_id ids := image NumberedRow.event (fun _ => rfl) (fun _ => rfl) events

theorem event_insertion {ids : List String} (events : Table NumberedRow.key NumberedRow.project_id ids)
    (draft : Option NumberedRow) : (events.insertOrIgnore foreign_key draft).map unnumbered =
      (unnumbered events).insertOrIgnore foreign_key (draft.map NumberedRow.event) := insert_image _ _

/-- The tables of `StateKernel`. -/
def KernelState.database (db : KernelState) : Database where
  projects := db.projects.rows.filterMap ProjectRow.key
  events := unnumbered db.events
  decisions := db.decisions

/-- The calls that append do to these tables what they do in `StateKernel`. -/
theorem perform_log (db : KernelState) (call : Call) :
    (perform db (.log call)).map KernelState.database = StateKernel.perform db.database call := by
  cases call with
  | append_event project_id now event_id event_type aggregate_type aggregate_id payload =>
    have same := event_insertion db.events
      (numbered_row (db.last + 1) project_id now event_id event_type aggregate_type aggregate_id payload)
    have drafts : (numbered_row (db.last + 1) project_id now event_id event_type aggregate_type aggregate_id payload).map
        NumberedRow.event = event_row project_id now event_id event_type aggregate_type aggregate_id payload := by
      simp [numbered_row,Function.comp_def]
    rw [drafts] at same
    simp only [perform,StateKernel.perform,KernelState.database,← same]
    cases db.events.insertOrIgnore foreign_key
      (numbered_row (db.last + 1) project_id now event_id event_type aggregate_type aggregate_id payload) <;> rfl
  | record_decision project_id now decision_id summary rationale authority status =>
    simp only [perform,StateKernel.perform,KernelState.database]
    cases db.decisions.insertOrIgnore foreign_key
      (decision_row project_id now decision_id summary rationale authority status) <;> rfl

/-! ### The snapshot -/

structure EntityItem where
  id : Option String
  project_id : String
  entity_type : String
  title : String
  status : String
  created_at : String
  updated_at : String
  attributes : Json

structure EventItem where
  sequence : Nat
  event_id : String
  project_id : String
  event_type : String
  aggregate_type : String
  aggregate_id : String
  occurred_at : String
  payload : Json

/-- The columns that are selected of a relation. -/
structure RelationshipItem where
  source_id : String
  relationship_type : String
  target_id : String
  created_at : String
  deriving DecidableEq

structure Snapshot where
  schemaVersion : String := "0.1"
  generatedAt : String
  snapshotAuthority : Bool := false
  stateAuthority : String := "state.db"
  databaseSha256 : String
  project : ProjectRow
  entities : List EntityItem
  relationships : List RelationshipItem
  decisions : List DecisionRow
  events : List EventItem

inductive SnapshotError where
  | ValueError (message : String)
  | JSONDecodeError (text : String)
  deriving DecidableEq

/-- `json.loads` -/
def decoded (text : String) : Except SnapshotError Json :=
  match loads text with
  | some v => .ok v
  | none => .error (.JSONDecodeError text)

def entity_item (row : EntityRow) : Except SnapshotError EntityItem := do
  return ⟨row.id,row.project_id,row.entity_type,row.title,row.status,row.created_at,row.updated_at,
    ← decoded row.attributes_json⟩

def event_item (row : NumberedRow) : Except SnapshotError EventItem := do
  return ⟨row.sequence,row.event.event_id,row.event.project_id,row.event.event_type,row.event.aggregate_type,
    row.event.aggregate_id,row.event.occurred_at,← decoded row.event.payload_json⟩

def relationship_item (row : RelationshipRow) : RelationshipItem :=
  ⟨row.source_id,row.relationship_type,row.target_id,row.created_at⟩

/-- A missing id comes before every other. -/
def null_first (id : Option String) : WithBot String := id

/-- `ORDER BY entity_type, id` -/
def EntityRow.order (row : EntityRow) : String ×ₗ WithBot String := toLex (row.entity_type,null_first row.id)

/-- `ORDER BY created_at, id` -/
def decision_order (row : DecisionRow) : String ×ₗ WithBot String := toLex (row.created_at,null_first row.id)

/-- `StateKernel.snapshot`, with the time and the hash of the file. -/
def snapshot (db : KernelState) (project_id generatedAt databaseSha256 : String) : Except SnapshotError Snapshot := do
  match db.projects.rows.find? (fun row => row.id = project_id) with
  | none => .error (.ValueError ("Unknown project: " ++ project_id))
  | some project =>
    let entities ← (sortedBy EntityRow.order (db.entities.rows.filter (fun row => row.project_id = project_id))).mapM
      entity_item
    let relationships := (db.relationships.rows.filter (fun row => row.project_id = project_id)).map relationship_item
    let decisions := sortedBy decision_order (db.decisions.rows.filter (fun row => row.project_id = project_id))
    let events ← (db.events.rows.filter (fun row => row.project_id = project_id)).mapM event_item
    return {
      generatedAt := generatedAt
      databaseSha256 := databaseSha256
      project := project
      entities := entities
      relationships := relationships
      decisions := decisions
      events := events }

end V3Aidlc.StateSnapshots
