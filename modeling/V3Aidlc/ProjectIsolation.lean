import V3Aidlc.BootstrapReruns

/-!
Projects that share one state database. A call on the kernel of another project changes what a project is shown in
one way only: it writes an entity of the project again, under the same id (`foreign_run`). Where the
ids of entities, events and decisions are told apart by project, the calls of the others do not
matter at all, however they are interleaved (`noninterference`).
-/
namespace V3Aidlc.ProjectIsolation
open V3Aidlc.Values V3Aidlc.Canonical V3Aidlc.ConstrainedTables V3Aidlc.ConstrainedTables.Table
open V3Aidlc.Upserts V3Aidlc.StateSnapshots V3Aidlc.SnapshotReplays V3Aidlc.BootstrapReruns
open V3Aidlc.StateKernel hiding perform next reached reached_append

/-- The project of the kernel that is called. -/
def owner : Command → String
  | .upsert_project project_id .. => project_id
  | .upsert_entity project_id .. => project_id
  | .relate project_id .. => project_id
  | .log (.append_event project_id ..) => project_id
  | .log (.record_decision project_id ..) => project_id

/-! ### When a call returns -/

/-- The key is taken or the project is known. -/
def Room {ρ κ : Type} (key : ρ → Option κ) (parent : ρ → String) (rows : List ρ) (ids : List String) (row : ρ) : Prop :=
  (∃ stored ∈ rows, Rival key row stored) ∨ parent row ∈ ids

/-- The call has its columns, and room. -/
def Accepted (db : KernelState) (command : Command) : Prop :=
  match command with
  | .upsert_project .. => given_project command ≠ none
  | .upsert_entity .. => ∃ given, given_entity command = some given ∧
      Room EntityRow.id EntityRow.project_id db.entities.rows (db.projects.rows.filterMap ProjectRow.key) given.row
  | .relate .. => ∀ row ∈ given_relationship command,
      Room RelationshipRow.key RelationshipRow.project_id db.relationships.rows
        (db.projects.rows.filterMap ProjectRow.key) row
  | .log (.append_event ..) => ∀ given ∈ given_event command,
      Room NumberedRow.key NumberedRow.project_id db.events.rows (db.projects.rows.filterMap ProjectRow.key)
        (GivenEvent.row (db.last + 1,given))
  | .log (.record_decision ..) => ∀ row ∈ given_decision command,
      Room DecisionRow.id DecisionRow.project_id db.decisions.rows (db.projects.rows.filterMap ProjectRow.key) row

theorem map_returns {ε α β : Type} {m : Except ε α} {f : α → β} : (∃ b, m.map f = .ok b) ↔ ∃ a, m = .ok a := by
  cases m <;> simp [Except.map]

theorem insert_room {ρ κ : Type} [DecidableEq κ] {key : ρ → Option κ} {parent : ρ → String} {ids : List String}
    (table : Table key parent ids) (draft : Option ρ) : (∃ after, table.insertOrIgnore foreign_key draft = .ok after) ↔
      ∀ row ∈ draft, Room key parent table.rows ids row := by
  cases draft with
  | none => simp [insertOrIgnore]
  | some row =>
    have room : Room key parent table.rows ids row ↔ table.Taken row ∨ parent row ∈ ids := or_congr taken_key Iff.rfl
    simp only [Option.mem_some_iff,forall_eq',room]
    by_cases taken : table.Taken row
    · simp [insert_taken taken,taken]
    · by_cases known : parent row ∈ ids
      · simp [insert_free taken known,known]
      · simp [insert_orphan taken known,taken,known]

theorem accepted_iff {db : KernelState} {command : Command} : (∃ after, perform db command = .ok after) ↔ Accepted db command := by
  cases command with
  | upsert_project project_id now name status =>
    cases name <;> cases status <;>
      simp [perform,project_row,not_null,Accepted,given_project,bind,Except.bind,pure,Except.pure]
  | upsert_entity project_id now entity_id entity_type title status attributes =>
    cases made : entity_row project_id now entity_id entity_type title status attributes with
    | error e =>
      have missing : given_entity (.upsert_entity project_id now entity_id entity_type title status attributes) = none := by
        cases given : given_entity (.upsert_entity project_id now entity_id entity_type title status attributes) with
        | none => rfl
        | some entity =>
          have same := entity_row_ok.mpr (congrArg (Option.map GivenEntity.row) given)
          rw [made] at same
          cases same
      simp [perform,made,Accepted,missing,bind,Except.bind]
    | ok row =>
      obtain ⟨given,isGiven,rfl⟩ := Option.map_eq_some_iff.mp (entity_row_ok.mp made)
      simp only [perform,made,Loops.ok_bind,map_returns,upsert_returns,Accepted,isGiven,Option.some.injEq,
        exists_eq_left',Room,taken_key]
      rfl
  | relate project_id now source_id relationship_type target_id =>
    simp only [perform,map_returns,insert_room,Accepted]
    rfl
  | log call =>
    cases call with
    | append_event project_id now event_id event_type aggregate_type aggregate_id payload =>
      simp only [perform,map_returns,insert_room,Accepted,numbered_row_eq]
      simp
    | record_decision project_id now decision_id summary rationale authority status =>
      simp only [perform,map_returns,insert_room,Accepted]
      rfl

/-! ### The rows of one project -/

section
variable {ρ κ : Type} {π : Type} [DecidableEq κ] {key : ρ → Option κ} {parent : ρ → π} {merge : Merge key parent}
variable {tag : ρ → String} {project_id : String} {rows others : List ρ} {draft : Option ρ}

/-- The rows under the key of the draft are of its project. -/
def Separate (key : ρ → Option κ) (tag : ρ → String) (rows : List ρ) (draft : Option ρ) : Prop :=
  ∀ row ∈ draft, ∀ stored ∈ rows, Rival key row stored → tag stored = tag row

theorem view_put (kept : ∀ stored row, tag (merge.into stored row) = tag stored) (apart : Separate key tag rows draft)
    (apart' : Separate key tag others draft)
    (same : rows.filter (fun row => tag row = project_id) = others.filter (fun row => tag row = project_id)) :
    (puts merge rows draft.toList).filter (fun row => tag row = project_id) =
      (puts merge others draft.toList).filter (fun row => tag row = project_id) := by
  cases draft with
  | none => exact same
  | some row =>
    show (put merge row rows).filter _ = (put merge row others).filter _
    rw [put_own (fun stored row => by simp [kept]) (fun stored member rival => by simp [apart row rfl stored member rival]),
      put_own (fun stored row => by simp [kept]) (fun stored member rival => by simp [apart' row rfl stored member rival]),
      same]

theorem view_foreign (kept : ∀ stored row, tag (merge.into stored row) = tag stored) (apart : Separate key tag rows draft)
    (foreign : ∀ row ∈ draft, tag row ≠ project_id) :
    (puts merge rows draft.toList).filter (fun row => tag row = project_id) =
      rows.filter (fun row => tag row = project_id) := by
  cases draft with
  | none => rfl
  | some row =>
    show (put merge row rows).filter _ = _
    rw [put_own (fun stored row => by simp [kept]) (fun stored member rival => by simp [apart row rfl stored member rival])]
    simp [foreign row rfl]

omit [DecidableEq κ] in
/-- Whether a key is taken is seen among the rows of its project. -/
theorem view_taken {row : ρ} (apart : Separate key tag rows (some row)) :
    (∃ stored ∈ rows, Rival key row stored) ↔
      ∃ stored ∈ rows.filter (fun other => tag other = tag row), Rival key row stored := by
  constructor
  · rintro ⟨stored,member,rival⟩
    exact ⟨stored,List.mem_filter.mpr ⟨member,by simp [apart row rfl stored member rival]⟩,rival⟩
  · rintro ⟨stored,member,rival⟩
    exact ⟨stored,(List.mem_filter.mp member).1,rival⟩

end

/-- What belongs to the project is the same, the numbers of its events aside. -/
structure SameView (project_id : String) (db other : KernelState) : Prop where
  projects : db.projects.rows.filter (fun row => row.id = project_id) =
    other.projects.rows.filter (fun row => row.id = project_id)
  entities : db.entities.rows.filter (fun row => row.project_id = project_id) =
    other.entities.rows.filter (fun row => row.project_id = project_id)
  relationships : db.relationships.rows.filter (fun row => row.project_id = project_id) =
    other.relationships.rows.filter (fun row => row.project_id = project_id)
  events : (db.events.rows.map NumberedRow.event).filter (fun row => row.project_id = project_id) =
    (other.events.rows.map NumberedRow.event).filter (fun row => row.project_id = project_id)
  decisions : db.decisions.rows.filter (fun row => row.project_id = project_id) =
    other.decisions.rows.filter (fun row => row.project_id = project_id)

/-- To which project each id belongs. -/
structure Namespaces where
  entity : String → String
  event : String → String
  decision : String → String

/-- A call uses ids of its own project. -/
def Respects (names : Namespaces) : Command → Prop
  | .upsert_entity project_id _ entity_id _ _ _ _ => ∀ k ∈ entity_id, names.entity k = project_id
  | .log (.append_event project_id _ event_id _ _ _ _) => ∀ k ∈ event_id, names.event k = project_id
  | .log (.record_decision project_id _ decision_id _ _ _ _) => ∀ k ∈ decision_id, names.decision k = project_id
  | _ => True

/-- Every row has an id of its own project. -/
structure Owned (names : Namespaces) (db : KernelState) : Prop where
  entities : ∀ row ∈ db.entities.rows, ∀ k ∈ row.id, names.entity k = row.project_id
  events : ∀ row ∈ db.events.rows, names.event row.event.event_id = row.event.project_id
  decisions : ∀ row ∈ db.decisions.rows, ∀ k ∈ row.id, names.decision k = row.project_id

theorem owned_fresh (names : Namespaces) : Owned names fresh := by
  constructor <;> intro row member <;> cases member

/-- What a call gives is of its project, under ids of its project. -/
structure Drafted (names : Namespaces) (command : Command) : Prop where
  project : ∀ row ∈ given_project command, row.id = owner command
  entity : ∀ given ∈ given_entity command, given.project_id = owner command ∧ ∀ k ∈ given.id, names.entity k = owner command
  relationship : ∀ row ∈ given_relationship command, row.project_id = owner command
  event : ∀ given ∈ given_event command, given.project_id = owner command ∧ names.event given.event_id = owner command
  decision : ∀ row ∈ given_decision command, row.project_id = owner command ∧ ∀ k ∈ row.id, names.decision k = owner command

theorem drafted {names : Namespaces} {command : Command} (respects : Respects names command) : Drafted names command := by
  cases command with
  | upsert_project project_id now name status =>
    refine ⟨fun row made => ?_,by simp [given_entity],by simp [given_relationship],by simp [given_event],by simp [given_decision]⟩
    cases name <;> cases status <;> simp [given_project] at made
    rw [← made]
    rfl
  | upsert_entity project_id now entity_id entity_type title status attributes =>
    refine ⟨by simp [given_project],fun given made => ?_,by simp [given_relationship],by simp [given_event],by simp [given_decision]⟩
    cases entity_type <;> cases title <;> cases status <;> simp [given_entity] at made
    rw [← made]
    exact ⟨rfl,respects⟩
  | relate project_id now source_id relationship_type target_id =>
    refine ⟨by simp [given_project],by simp [given_entity],fun row made => ?_,by simp [given_event],by simp [given_decision]⟩
    exact relationship_owner made
  | log call =>
    cases call with
    | append_event project_id now event_id event_type aggregate_type aggregate_id payload =>
      refine ⟨by simp [given_project],by simp [given_entity],by simp [given_relationship],fun given made => ?_,by simp [given_decision]⟩
      cases event_id <;> cases event_type <;> cases aggregate_type <;> cases aggregate_id <;> simp [given_event] at made
      rw [← made]
      exact ⟨rfl,respects _ rfl⟩
    | record_decision project_id now decision_id summary rationale authority status =>
      refine ⟨by simp [given_project],by simp [given_entity],by simp [given_relationship],by simp [given_event],fun row made => ?_⟩
      refine ⟨decision_owner made,?_⟩
      simp only [given_decision,decision_row,Option.bind_eq_bind,Option.mem_def,Option.bind_eq_some_iff] at made
      obtain ⟨_,_,_,_,_,_,_,_,made⟩ := made
      rw [← Option.some.inj made]
      exact respects

section
variable {names : Namespaces} {db after other after' : KernelState} {command : Command} {project_id : String}

theorem entities_after (ran : perform db command = .ok after) : after.entities.rows =
    puts entity_update db.entities.rows ((given_entity command).map GivenEntity.row).toList := by
  rw [(perform_replayed ran).entities]
  cases made : given_entity command <;> simp [made]

theorem drafts_single {α : Type} (draft : Command → Option α) (command : Command) :
    [command].filterMap draft = (draft command).toList := by
  cases made : draft command <;> simp [made]

theorem events_after (ran : perform db command = .ok after) : after.events.rows =
    puts (.ignore NumberedRow.key NumberedRow.project_id) db.events.rows
      ((given_event command).map (fun given => GivenEvent.row (db.last + 1,given))).toList := by
  rw [(perform_replayed ran).events]
  cases made : given_event command <;> simp [numbered,made]

/-- The events without their numbers. -/
theorem event_rows_after (ran : perform db command = .ok after) : after.events.rows.map NumberedRow.event =
    puts (.ignore EventRow.key EventRow.project_id) (db.events.rows.map NumberedRow.event)
      ((given_event command).map (fun given => (GivenEvent.row (0,given)).event)).toList := by
  have unnumber : ∀ rows drafts : List NumberedRow,
      (puts (.ignore NumberedRow.key NumberedRow.project_id) rows drafts).map NumberedRow.event =
        puts (.ignore EventRow.key EventRow.project_id) (rows.map NumberedRow.event) (drafts.map NumberedRow.event) :=
    fun _ _ => puts_map (fun _ => rfl) (fun _ _ => rfl)
  rw [events_after ran,unnumber]
  cases given_event command <;> rfl

theorem mem_puts_draft {ρ κ π : Type} [DecidableEq κ] {key : ρ → Option κ} {parent : ρ → π} {merge : Merge key parent}
    {rows : List ρ} {draft : Option ρ} {row : ρ} (member : row ∈ puts merge rows draft.toList) :
    row ∈ rows ∨ row ∈ draft ∨ ∃ stored ∈ rows, ∃ given ∈ draft, Rival key given stored ∧ row = merge.into stored given := by
  cases draft with
  | none => exact .inl member
  | some given =>
    rcases mem_put member with early | ⟨rfl,_⟩ | ⟨stored,inside,rival,same⟩
    · exact .inl early
    · exact .inr (.inl rfl)
    · exact .inr (.inr ⟨stored,inside,given,rfl,rival,same⟩)

theorem owned_perform (owned : Owned names db) (respects : Respects names command)
    (ran : perform db command = .ok after) : Owned names after := by
  have given := drafted respects
  constructor
  · intro row member
    rw [entities_after ran] at member
    rcases mem_puts_draft member with early | made | ⟨stored,inside,_,_,_,rfl⟩
    · exact owned.entities row early
    · obtain ⟨entity,isGiven,rfl⟩ := Option.map_eq_some_iff.mp made
      obtain ⟨mine,named⟩ := given.entity entity isGiven
      exact fun k keyed => (named k keyed).trans mine.symm
    · exact owned.entities stored inside
  · intro row member
    rw [events_after ran] at member
    rcases mem_puts_draft member with early | made | ⟨stored,inside,_,_,_,same⟩
    · exact owned.events row early
    · obtain ⟨event,isGiven,rfl⟩ := Option.map_eq_some_iff.mp made
      obtain ⟨mine,named⟩ := given.event event isGiven
      exact named.trans mine.symm
    · exact same ▸ owned.events stored inside
  · intro row member
    rw [(perform_replayed ran).decisions,drafts_single] at member
    rcases mem_puts_draft member with early | made | ⟨stored,inside,_,_,_,same⟩
    · exact owned.decisions row early
    · obtain ⟨mine,named⟩ := given.decision row made
      exact fun k keyed => (named k keyed).trans mine.symm
    · exact same ▸ owned.decisions stored inside

/-- The keys of the draft are free or held by rows of its project. -/
structure Apart (db : KernelState) (command : Command) : Prop where
  projects : Separate ProjectRow.key ProjectRow.id db.projects.rows (given_project command)
  entities : Separate EntityRow.id EntityRow.project_id db.entities.rows ((given_entity command).map GivenEntity.row)
  relationships : Separate RelationshipRow.key RelationshipRow.project_id db.relationships.rows (given_relationship command)
  events : Separate EventRow.key EventRow.project_id (db.events.rows.map NumberedRow.event)
    ((given_event command).map (fun given => (GivenEvent.row (0,given)).event))
  decisions : Separate DecisionRow.id DecisionRow.project_id db.decisions.rows (given_decision command)

theorem apart (owned : Owned names db) (respects : Respects names command) : Apart db command := by
  have given := drafted respects
  constructor
  · intro row _ stored _ rival
    exact Option.some.inj rival.2
  · intro row made stored member rival
    obtain ⟨entity,isGiven,rfl⟩ := Option.map_eq_some_iff.mp made
    obtain ⟨k,keyed⟩ := Option.ne_none_iff_exists'.mp rival.1
    obtain ⟨mine,named⟩ := given.entity entity isGiven
    exact (owned.entities stored member k ((rival_some keyed).mp rival)).symm.trans ((named k keyed).trans mine.symm)
  · intro row _ stored _ rival
    exact congrArg Prod.fst (Option.some.inj rival.2)
  · intro row made stored member rival
    obtain ⟨event,isGiven,rfl⟩ := Option.map_eq_some_iff.mp made
    obtain ⟨numbered,inside,rfl⟩ := List.mem_map.mp member
    obtain ⟨mine,named⟩ := given.event event isGiven
    have same : numbered.event.event_id = event.event_id := Option.some.inj rival.2
    exact (owned.events numbered inside).symm.trans (same ▸ named.trans mine.symm)
  · intro row made stored member rival
    obtain ⟨k,keyed⟩ := Option.ne_none_iff_exists'.mp rival.1
    obtain ⟨mine,named⟩ := given.decision row made
    exact (owned.decisions stored member k ((rival_some keyed).mp rival)).symm.trans ((named k keyed).trans mine.symm)

/-- A call on another kernel leaves the rows of the project as they are. -/
theorem foreign_view (owned : Owned names db) (respects : Respects names command) (foreign : owner command ≠ project_id)
    (ran : perform db command = .ok after) : SameView project_id after db := by
  have given := drafted respects
  have keys := apart owned respects
  have tables := perform_replayed ran
  constructor
  · rw [tables.projects,drafts_single]
    exact view_foreign (fun _ _ => rfl) keys.projects (fun row made => given.project row made ▸ foreign)
  · rw [entities_after ran]
    refine view_foreign (fun _ _ => rfl) keys.entities fun row made => ?_
    obtain ⟨entity,isGiven,rfl⟩ := Option.map_eq_some_iff.mp made
    exact (given.entity entity isGiven).1.trans_ne foreign
  · rw [tables.relationships,drafts_single]
    exact view_foreign (fun _ _ => rfl) keys.relationships (fun row made => given.relationship row made ▸ foreign)
  · rw [event_rows_after ran]
    refine view_foreign (fun _ _ => rfl) keys.events fun row made => ?_
    obtain ⟨event,isGiven,rfl⟩ := Option.map_eq_some_iff.mp made
    exact (given.event event isGiven).1.trans_ne foreign
  · rw [tables.decisions,drafts_single]
    exact view_foreign (fun _ _ => rfl) keys.decisions (fun row made => (given.decision row made).1.trans_ne foreign)

/-- A call does the same to the rows of the project wherever these are the same. -/
theorem own_view (owned : Owned names db) (owned' : Owned names other) (respects : Respects names command)
    (same : SameView project_id db other) (ran : perform db command = .ok after) (ran' : perform other command = .ok after') :
    SameView project_id after after' := by
  have keys := apart owned respects
  have keys' := apart owned' respects
  have tables := perform_replayed ran
  have tables' := perform_replayed ran'
  constructor
  · rw [tables.projects,tables'.projects,drafts_single]
    exact view_put (fun _ _ => rfl) keys.projects keys'.projects same.projects
  · rw [entities_after ran,entities_after ran']
    exact view_put (fun _ _ => rfl) keys.entities keys'.entities same.entities
  · rw [tables.relationships,tables'.relationships,drafts_single]
    exact view_put (fun _ _ => rfl) keys.relationships keys'.relationships same.relationships
  · rw [event_rows_after ran,event_rows_after ran']
    exact view_put (fun _ _ => rfl) keys.events keys'.events same.events
  · rw [tables.decisions,tables'.decisions,drafts_single]
    exact view_put (fun _ _ => rfl) keys.decisions keys'.decisions same.decisions

theorem known_view (same : SameView project_id db other) :
    project_id ∈ db.projects.rows.filterMap ProjectRow.key ↔ project_id ∈ other.projects.rows.filterMap ProjectRow.key := by
  have seen : ∀ rows : List ProjectRow, project_id ∈ rows.filterMap ProjectRow.key ↔
      rows.filter (fun row => row.id = project_id) ≠ [] := by
    intro rows
    simp [ProjectRow.key]
  rw [seen,seen,same.projects]

/-- There is room for a row of the project wherever its rows are the same. -/
theorem room_view {ρ κ : Type} [DecidableEq κ] {key : ρ → Option κ} {parent : ρ → String} {rows others : List ρ}
    {ids ids' : List String} {row : ρ} (apart : Separate key parent rows (some row))
    (apart' : Separate key parent others (some row))
    (same : rows.filter (fun other => parent other = parent row) = others.filter (fun other => parent other = parent row))
    (known : parent row ∈ ids ↔ parent row ∈ ids') : Room key parent rows ids row ↔ Room key parent others ids' row := by
  rw [Room,Room,view_taken apart,view_taken apart',same,known]

theorem event_room {rows : List NumberedRow} {ids : List String} {row : NumberedRow} :
    Room NumberedRow.key NumberedRow.project_id rows ids row ↔
      Room EventRow.key EventRow.project_id (rows.map NumberedRow.event) ids row.event := by
  simp [Room,Rival,NumberedRow.key,NumberedRow.project_id]

/-- A call on the kernel of the project returns wherever its rows are the same. -/
theorem accepted_view (owned : Owned names db) (owned' : Owned names other) (respects : Respects names command)
    (own : owner command = project_id) (same : SameView project_id db other) :
    Accepted db command ↔ Accepted other command := by
  have given := drafted respects
  have keys := apart owned respects
  have keys' := apart owned' respects
  have known := known_view same
  cases command with
  | upsert_project => exact Iff.rfl
  | upsert_entity =>
    refine exists_congr fun entity => and_congr_right fun isGiven => ?_
    have mine : entity.row.project_id = project_id := (given.entity entity isGiven).1.trans own
    have keys := keys.entities
    have keys' := keys'.entities
    rw [isGiven] at keys keys'
    exact room_view keys keys' (by simpa only [mine] using same.entities) (by simpa only [mine] using known)
  | relate =>
    refine forall_congr' fun row => forall_congr' fun made => ?_
    have mine : row.project_id = project_id := (given.relationship row made).trans own
    have keys := keys.relationships
    have keys' := keys'.relationships
    rw [made] at keys keys'
    exact room_view keys keys' (by simpa only [mine] using same.relationships) (by simpa only [mine] using known)
  | log call =>
    cases call with
    | append_event =>
      refine forall_congr' fun event => forall_congr' fun made => ?_
      have mine : event.project_id = project_id := (given.event event made).1.trans own
      have keys := keys.events
      have keys' := keys'.events
      rw [made] at keys keys'
      rw [event_room,event_room]
      exact room_view keys keys' (by simpa only [GivenEvent.row,mine] using same.events)
        (by simpa only [GivenEvent.row,mine] using known)
    | record_decision =>
      refine forall_congr' fun row => forall_congr' fun made => ?_
      have mine : row.project_id = project_id := (given.decision row made).1.trans own
      have keys := keys.decisions
      have keys' := keys'.decisions
      rw [made] at keys keys'
      exact room_view keys keys' (by simpa only [mine] using same.decisions) (by simpa only [mine] using known)

/-! ### Runs -/

theorem view_refl (db : KernelState) : SameView project_id db db := ⟨rfl,rfl,rfl,rfl,rfl⟩

theorem view_trans {middle : KernelState} (first : SameView project_id db middle)
    (second : SameView project_id middle other) : SameView project_id db other :=
  ⟨first.projects.trans second.projects,first.entities.trans second.entities,
    first.relationships.trans second.relationships,first.events.trans second.events,
    first.decisions.trans second.decisions⟩

theorem next_owned (owned : Owned names db) (respects : Respects names command) : Owned names (next db command) := by
  unfold next
  cases ran : perform db command with
  | ok after => exact owned_perform owned respects ran
  | error _ => exact owned

theorem next_foreign (owned : Owned names db) (respects : Respects names command) (foreign : owner command ≠ project_id) :
    SameView project_id (next db command) db := by
  unfold next
  cases ran : perform db command with
  | ok after => exact foreign_view owned respects foreign ran
  | error _ => exact view_refl db

theorem next_own (owned : Owned names db) (owned' : Owned names other) (respects : Respects names command)
    (own : owner command = project_id) (same : SameView project_id db other) :
    SameView project_id (next db command) (next other command) := by
  have accepted := accepted_view owned owned' respects own same
  unfold next
  cases ran : perform db command with
  | ok after =>
    obtain ⟨after',ran'⟩ := accepted_iff.mpr (accepted.mp (accepted_iff.mp ⟨after,ran⟩))
    rw [ran']
    exact own_view owned owned' respects same ran ran'
  | error _ =>
    cases ran' : perform other command with
    | ok after' =>
      obtain ⟨after,ran''⟩ := accepted_iff.mpr (accepted.mpr (accepted_iff.mp ⟨after',ran'⟩))
      rw [ran] at ran''
      cases ran''
    | error _ => exact same

/-- After any interleaving, what belongs to a project is what its own calls make of it. -/
theorem run_view {commands : List Command} (respects : ∀ command ∈ commands, Respects names command)
    (owned : Owned names db) (owned' : Owned names other) (same : SameView project_id db other) :
    SameView project_id (reached db commands) (reached other (commands.filter (fun command => owner command = project_id))) := by
  induction commands generalizing db other with
  | nil => exact same
  | cons command rest ih =>
    have first := respects command (by simp)
    have later : ∀ other ∈ rest, Respects names other := fun other member => respects other (by simp [member])
    by_cases own : owner command = project_id
    · rw [List.filter_cons_of_pos (by simpa using own)]
      exact ih later (next_owned owned first) (next_owned owned' first) (next_own owned owned' first own same)
    · rw [List.filter_cons_of_neg (by simpa using own)]
      exact ih later (next_owned owned first) owned' (view_trans (next_foreign owned first own) same)

end

/-! ### Snapshots -/

/-- The snapshot without the numbers of its events. -/
def unnumbered (s : Snapshot) : Snapshot := { s with events := s.events.map (fun item => { item with sequence := 0 }) }

theorem event_item_unnumbered (row : NumberedRow) :
    (event_item row).map (fun item => { item with sequence := 0 }) = event_item ⟨0,row.event⟩ := by
  show _ = (decoded row.event.payload_json >>= fun v => _)
  unfold event_item
  cases decoded row.event.payload_json <;> rfl

theorem snapshot_view {db other : KernelState} {project_id : String} (same : SameView project_id db other) (t h : String) :
    (snapshot db project_id t h).map unnumbered = (snapshot other project_id t h).map unnumbered := by
  have find : ∀ rows : List ProjectRow, rows.find? (fun row => row.id = project_id) =
      (rows.filter (fun row => row.id = project_id)).head? := fun _ => List.head?_filter.symm
  have events : ((db.events.rows.filter (fun row => row.project_id = project_id)).map (fun row => NumberedRow.mk 0 row.event)) =
      (other.events.rows.filter (fun row => row.project_id = project_id)).map (fun row => NumberedRow.mk 0 row.event) := by
    have one : ∀ rows : List NumberedRow,
        (rows.filter (fun row => row.project_id = project_id)).map (fun row => NumberedRow.mk 0 row.event) =
          ((rows.map NumberedRow.event).filter (fun row => row.project_id = project_id)).map (NumberedRow.mk 0) := by
      intro rows
      rw [List.filter_map,List.map_map]
      rfl
    rw [one,one,same.events]
  have items := mapM_facts event_item_unnumbered (db.events.rows.filter (fun row => row.project_id = project_id))
  have items' := mapM_facts event_item_unnumbered (other.events.rows.filter (fun row => row.project_id = project_id))
  rw [events] at items
  have equal := items.trans items'.symm
  simp only [snapshot,find,same.projects,same.entities,same.relationships,same.decisions]
  cases (other.projects.rows.filter (fun row => row.id = project_id)).head? with
  | none => rfl
  | some project =>
    cases (sortedBy EntityRow.order (other.entities.rows.filter (fun row => row.project_id = project_id))).mapM entity_item with
    | error _ => rfl
    | ok entities =>
      cases ran : (db.events.rows.filter (fun row => row.project_id = project_id)).mapM event_item with
      | error e =>
        rw [ran] at equal
        cases ran' : (other.events.rows.filter (fun row => row.project_id = project_id)).mapM event_item with
        | error e' =>
          rw [ran'] at equal
          rw [show e = e' from Except.error.inj equal]
        | ok shown' =>
          rw [ran'] at equal
          cases equal
      | ok shown =>
        rw [ran] at equal
        obtain ⟨shown',ran',equal⟩ := Loops.map_ok_iff.mp equal.symm
        rw [ran']
        simp only [Loops.ok_bind]
        exact congrArg Except.ok (by simp [unnumbered,equal])

/-- Where ids are told apart by project, a project is shown what its own calls make, the numbers of its events aside,
    however the calls of other projects are interleaved. -/
theorem noninterference (names : Namespaces) {commands : List Command}
    (respects : ∀ command ∈ commands, Respects names command) (project_id t h : String) :
    (snapshot (reached fresh commands) project_id t h).map unnumbered =
      (snapshot (reached fresh (commands.filter (fun command => owner command = project_id))) project_id t h).map unnumbered :=
  snapshot_view (run_view respects (owned_fresh names) (owned_fresh names) (view_refl fresh)) t h

/-- Two projects whose ids begin with their names. -/
def side_by_side : List Command :=
  [.upsert_project "P" "1" (some "One") (some "active"),
    .upsert_project "Q" "2" (some "Two") (some "active"),
    .log (.append_event "Q" "3" (some "Q1") (some "started") (some "unit") (some "U")),
    .upsert_entity "P" "4" (some "P1") (some "unit") (some "Unit") (some "active"),
    .log (.append_event "P" "5" (some "P1") (some "started") (some "unit") (some "P1")),
    .log (.record_decision "Q" "6" (some "Q2") (some "Keep") (some "As it is"))]

theorem noninterference_side_by_side : (snapshot (reached fresh side_by_side) "P" "7" "hash").map unnumbered =
    (snapshot (reached fresh (side_by_side.filter (fun command => owner command = "P"))) "P" "7" "hash").map unnumbered :=
  noninterference ⟨fun k => String.ofList (k.toList.take 1),fun k => String.ofList (k.toList.take 1),
    fun k => String.ofList (k.toList.take 1)⟩ (by simp [side_by_side,Respects]) "P" "7" "hash"

/-! ### Without namespaces -/

section
variable {ρ κ π : Type} [DecidableEq κ] {key : ρ → Option κ} {parent : ρ → π} {merge : Merge key parent}
variable {tag : ρ → String} {project_id : String} {rows : List ρ} {draft : Option ρ}

/-- A row of another project changes the rows of the project where they hold its key. -/
theorem foreign_put (kept : ∀ stored row, tag (merge.into stored row) = tag stored) (distinct : (rows.filterMap key).Nodup)
    (foreign : ∀ row ∈ draft, tag row ≠ project_id) :
    (puts merge rows draft.toList).filter (fun row => tag row = project_id) =
      (rows.filter (fun row => tag row = project_id)).map (amended merge draft.toList) := by
  have tags : ∀ drafts stored, tag (amended merge drafts stored) = tag stored := by
    intro drafts stored
    cases keyed : key stored with
    | none => simp [amended,keyed]
    | some k =>
      rw [amended_keyed keyed]
      cases (under key k drafts).getLast? <;> simp [kept]
  cases draft with
  | none => simp [puts]
  | some row =>
    show (put merge row rows).filter _ = (rows.filter _).map (amended merge [row])
    by_cases taken : ∃ stored ∈ rows, Rival key row stored
    · rw [put_taken distinct taken,List.filter_map]
      exact congrArg _ (List.filter_congr fun stored _ => by simp [tags])
    · push Not at taken
      have alone : ∀ stored ∈ rows.filter (fun row => tag row = project_id), amended merge [row] stored = id stored :=
        fun stored member => amended_other (taken stored (List.mem_filter.mp member).1)
      rw [put_free taken,List.filter_append,List.map_congr_left alone,List.map_id]
      simp [foreign row rfl]

theorem foreign_ignored (foreign : ∀ row ∈ draft, tag row ≠ project_id) :
    (puts (.ignore key parent) rows draft.toList).filter (fun row => tag row = project_id) =
      rows.filter (fun row => tag row = project_id) := by
  cases draft with
  | none => rfl
  | some row =>
    show (put (.ignore key parent) row rows).filter _ = _
    by_cases taken : ∃ stored ∈ rows, Rival key row stored
    · rw [put_ignore_taken taken]
    · push Not at taken
      rw [put_free taken,List.filter_append]
      simp [foreign row rfl]

end

/-- What becomes of the rows of a project in a run on other kernels: an entity has the content that was
    written last under its id, and nothing else changes. -/
structure Overwritten (project_id : String) (db after : KernelState) (calls : List Command) : Prop where
  projects : after.projects.rows.filter (fun row => row.id = project_id) =
    db.projects.rows.filter (fun row => row.id = project_id)
  entities : after.entities.rows.filter (fun row => row.project_id = project_id) =
    (db.entities.rows.filter (fun row => row.project_id = project_id)).map
      (amended entity_update ((calls.filterMap given_entity).map GivenEntity.row))
  relationships : after.relationships.rows.filter (fun row => row.project_id = project_id) =
    db.relationships.rows.filter (fun row => row.project_id = project_id)
  events : after.events.rows.filter (fun row => row.project_id = project_id) =
    db.events.rows.filter (fun row => row.project_id = project_id)
  decisions : after.decisions.rows.filter (fun row => row.project_id = project_id) =
    db.decisions.rows.filter (fun row => row.project_id = project_id)

theorem anyone (command : Command) : ∃ names, Respects names command :=
  ⟨⟨fun _ => owner command,fun _ => owner command,fun _ => owner command⟩,by
    cases command with
    | log call => cases call <;> simp [Respects,owner]
    | _ => simp [Respects,owner]⟩

theorem foreign_perform {project_id : String} {db after : KernelState} {command : Command}
    (foreign : owner command ≠ project_id) (ran : perform db command = .ok after) :
    Overwritten project_id db after [command] := by
  obtain ⟨names,respects⟩ := anyone command
  have given := drafted respects
  have tables := perform_replayed ran
  constructor
  · rw [tables.projects,drafts_single]
    exact view_foreign (fun _ _ => rfl) (fun row _ stored _ rival => Option.some.inj rival.2)
      (fun row made => given.project row made ▸ foreign)
  · have drafts : ([command].filterMap given_entity).map GivenEntity.row =
        ((given_entity command).map GivenEntity.row).toList := by
      rw [drafts_single,Option.toList_map]
    rw [tables.entities,drafts]
    refine foreign_put (fun _ _ => rfl) db.entities.distinct fun row made => ?_
    obtain ⟨entity,isGiven,rfl⟩ := Option.map_eq_some_iff.mp made
    exact (given.entity entity isGiven).1.trans_ne foreign
  · rw [tables.relationships,drafts_single]
    exact foreign_ignored (fun row made => given.relationship row made ▸ foreign)
  · rw [events_after ran]
    refine foreign_ignored fun row made => ?_
    obtain ⟨event,isGiven,rfl⟩ := Option.map_eq_some_iff.mp made
    exact (given.event event isGiven).1.trans_ne foreign
  · rw [tables.decisions,drafts_single]
    exact foreign_ignored (fun row made => (given.decision row made).1.trans_ne foreign)

theorem overwritten_refl (project_id : String) (db : KernelState) : Overwritten project_id db db [] := by
  exact ⟨rfl,by simp,rfl,rfl,rfl⟩

theorem overwritten_snoc {project_id : String} {db middle after : KernelState} {front : List Command} {command : Command}
    (first : Overwritten project_id db middle front) (second : Overwritten project_id middle after [command]) :
    Overwritten project_id db after (front ++ [command]) where
  projects := second.projects.trans first.projects
  entities := by
    rw [second.entities,first.entities,List.map_map]
    refine List.map_congr_left fun stored _ => ?_
    rw [List.filterMap_append,List.map_append]
    cases made : given_entity command with
    | none => simp [made]
    | some given => simpa [made] using amended_snoc entity_update_lasting stored
  relationships := second.relationships.trans first.relationships
  events := second.events.trans first.events
  decisions := second.decisions.trans first.decisions

theorem overwritten_run {project_id : String} {commands : List Command}
    (foreign : ∀ command ∈ commands, owner command ≠ project_id) (db : KernelState) :
    Overwritten project_id db (reached db commands) (returned db commands) := by
  induction commands using List.reverseRecOn with
  | nil => exact overwritten_refl project_id db
  | append_singleton commands command ih =>
    have before := ih (fun other member => foreign other (by simp [member]))
    rw [reached_append,returned_append]
    show Overwritten project_id db (next (reached db commands) command) _
    cases ran : perform (reached db commands) command with
    | ok after =>
      have last : next (reached db commands) command = after := by simp [next,ran]
      have call : returned (reached db commands) [command] = [command] := by simp [returned,ran]
      rw [last,call]
      exact overwritten_snoc before (foreign_perform (foreign command (by simp)) ran)
    | error _ =>
      have last : next (reached db commands) command = reached db commands := by simp [next,ran]
      have call : returned (reached db commands) [command] = [] := by simp [returned,ran]
      rw [last,call,List.append_nil]
      exact before

/-- Calls on other kernels change what a project is shown in no other way than by writing an entity of it again, and
    where they do that the entity has the content they wrote last. -/
theorem foreign_run {project_id : String} {db : KernelState} {commands : List Command}
    (foreign : ∀ command ∈ commands, owner command ≠ project_id) (t h : String) :
    Overwritten project_id db (reached db commands) (returned db commands) ∧
      ((∀ given ∈ (returned db commands).filterMap given_entity, ∀ row ∈ db.entities.rows,
          row.project_id = project_id → ∀ k ∈ row.id, given.id ≠ some k) →
        snapshot (reached db commands) project_id t h = snapshot db project_id t h) := by
  have written := overwritten_run foreign db
  refine ⟨written,fun spares => ?_⟩
  have entities : (reached db commands).entities.rows.filter (fun row => row.project_id = project_id) =
      db.entities.rows.filter (fun row => row.project_id = project_id) := by
    have alone : ∀ stored ∈ db.entities.rows.filter (fun row => row.project_id = project_id),
        amended entity_update (((returned db commands).filterMap given_entity).map GivenEntity.row) stored = id stored := by
      intro stored member
      obtain ⟨inside,own⟩ := List.mem_filter.mp member
      cases keyed : stored.id with
      | none => simp [amended,keyed]
      | some k =>
        have nothing : under EntityRow.id k (((returned db commands).filterMap given_entity).map GivenEntity.row) = [] := by
          rw [under_entities,List.map_eq_nil_iff,List.filter_eq_nil_iff]
          intro given written
          simpa using spares given written stored inside (by simpa using own) k keyed
        simp [amended_keyed keyed,nothing]
    rw [written.entities,List.map_congr_left alone,List.map_id]
  have find : ∀ rows : List ProjectRow, rows.find? (fun row => row.id = project_id) =
      (rows.filter (fun row => row.id = project_id)).head? := fun _ => List.head?_filter.symm
  simp only [snapshot,find,written.projects,entities,written.relationships,written.events,written.decisions]

/-- The other project writes the shared entity once more. -/
def late_write : List Command := [.upsert_entity "Q" "6" (some "E") (some "unit") (some "Last") (some "active")]

theorem foreign_run_shared :
    Overwritten "P" (reached fresh shared_entity) (reached (reached fresh shared_entity) late_write)
        (returned (reached fresh shared_entity) late_write) ∧
      ((∀ given ∈ (returned (reached fresh shared_entity) late_write).filterMap given_entity,
          ∀ row ∈ (reached fresh shared_entity).entities.rows, row.project_id = "P" → ∀ k ∈ row.id, given.id ≠ some k) →
        snapshot (reached (reached fresh shared_entity) late_write) "P" "7" "hash" =
          snapshot (reached fresh shared_entity) "P" "7" "hash") :=
  foreign_run (by simp [late_write,owner]) "7" "hash"

end V3Aidlc.ProjectIsolation
