import V3Aidlc.StateSnapshots

/-!
What a snapshot says of a run. The tables are a replay of the calls that returned (`run_replayed`), so a
snapshot of a project shows, for each entity that the project was the first to write, the
first time and the last content that it was given by anyone, and of the other rows the first under each
key (`snapshot_replays`).
-/
namespace V3Aidlc.SnapshotReplays
open V3Aidlc.Values V3Aidlc.Canonical V3Aidlc.Documents V3Aidlc.ConstrainedTables V3Aidlc.ConstrainedTables.Table
open V3Aidlc.Upserts V3Aidlc.JsonTexts V3Aidlc.StateSnapshots
open V3Aidlc.StateKernel hiding perform next reached

/-! ### What the calls give -/

/-- An entity with every column. -/
structure GivenEntity where
  id : Option String
  project_id : String
  entity_type : String
  title : String
  status : String
  attributes : Dict
  now : String

/-- An event with every column. -/
structure GivenEvent where
  event_id : String
  project_id : String
  event_type : String
  aggregate_type : String
  aggregate_id : String
  payload : Dict
  now : String

def GivenEntity.row (given : GivenEntity) : EntityRow :=
  ⟨given.id,given.project_id,given.entity_type,given.title,given.status,payload_text given.attributes,given.now,given.now⟩

/-- The row of the event with this number. -/
def GivenEvent.row (given : Nat × GivenEvent) : NumberedRow :=
  ⟨given.1,given.2.event_id,given.2.project_id,given.2.event_type,given.2.aggregate_type,given.2.aggregate_id,
    payload_text given.2.payload,given.2.now⟩

def given_project : Command → Option ProjectRow
  | .upsert_project project_id now (some name) (some status) => some ⟨project_id,name,status,now,now⟩
  | _ => none

def given_entity : Command → Option GivenEntity
  | .upsert_entity project_id now entity_id (some entity_type) (some title) (some status) attributes =>
    some ⟨entity_id,project_id,entity_type,title,status,attributes.getD [],now⟩
  | _ => none

def given_relationship : Command → Option RelationshipRow
  | .relate project_id now source_id relationship_type target_id =>
    relationship_row project_id now source_id relationship_type target_id
  | _ => none

def given_event : Command → Option GivenEvent
  | .log (.append_event project_id now (some event_id) (some event_type) (some aggregate_type) (some aggregate_id) payload) =>
    some ⟨event_id,project_id,event_type,aggregate_type,aggregate_id,payload.getD [],now⟩
  | _ => none

def given_decision : Command → Option DecisionRow
  | .log (.record_decision project_id now decision_id summary rationale authority status) =>
    decision_row project_id now decision_id summary rationale authority status
  | _ => none

/-- How many numbers a call uses up. -/
def numbers : Command → Nat
  | .log (.append_event ..) => 1
  | _ => 0

/-- The events with their numbers. -/
def numbered (last : Nat) : List Command → List (Nat × GivenEvent)
  | [] => []
  | command :: rest => ((given_event command).map (Prod.mk (last + 1))).toList ++ numbered (last + numbers command) rest

/-! ### The tables -/

/-- The tables are what these calls make of them. -/
structure Replayed (db after : KernelState) (calls : List Command) : Prop where
  projects : after.projects.rows = puts project_update db.projects.rows (calls.filterMap given_project)
  entities : after.entities.rows =
    puts entity_update db.entities.rows ((calls.filterMap given_entity).map GivenEntity.row)
  relationships : after.relationships.rows =
    puts (.ignore RelationshipRow.key RelationshipRow.project_id) db.relationships.rows (calls.filterMap given_relationship)
  events : after.events.rows =
    puts (.ignore NumberedRow.key NumberedRow.project_id) db.events.rows ((numbered db.last calls).map GivenEvent.row)
  last : after.last = db.last + (calls.map numbers).sum
  decisions : after.decisions.rows =
    puts (.ignore DecisionRow.id DecisionRow.project_id) db.decisions.rows (calls.filterMap given_decision)

theorem numbered_append (front back : List Command) (last : Nat) :
    numbered last (front ++ back) = numbered last front ++ numbered (last + (front.map numbers).sum) back := by
  induction front generalizing last with
  | nil => simp [numbered]
  | cons command rest ih => simp [numbered,ih,Nat.add_assoc]

theorem replayed_refl (db : KernelState) : Replayed db db [] := ⟨rfl,rfl,rfl,rfl,rfl,rfl⟩

theorem replayed_trans {db middle after : KernelState} {front back : List Command} (first : Replayed db middle front)
    (second : Replayed middle after back) : Replayed db after (front ++ back) where
  projects := by rw [second.projects,first.projects,List.filterMap_append,puts_append]
  entities := by rw [second.entities,first.entities,List.filterMap_append,List.map_append,puts_append]
  relationships := by rw [second.relationships,first.relationships,List.filterMap_append,puts_append]
  events := by rw [second.events,first.events,first.last,numbered_append,List.map_append,puts_append]
  last := by rw [second.last,first.last,List.map_append,List.sum_append,Nat.add_assoc]
  decisions := by rw [second.decisions,first.decisions,List.filterMap_append,puts_append]

theorem project_row_ok {project_id now : String} {name status : Option String} {row : ProjectRow} :
    project_row project_id now name status = .ok row ↔
      given_project (.upsert_project project_id now name status) = some row := by
  cases name <;> cases status <;> simp [project_row,not_null,given_project,bind,Except.bind,pure,Except.pure]

theorem entity_row_ok {project_id now : String} {entity_id entity_type title status : Option String}
    {attributes : Option Dict} {row : EntityRow} :
    entity_row project_id now entity_id entity_type title status attributes = .ok row ↔
      (given_entity (.upsert_entity project_id now entity_id entity_type title status attributes)).map GivenEntity.row =
        some row := by
  cases entity_type <;> cases title <;> cases status <;>
    simp [entity_row,not_null,given_entity,GivenEntity.row,payload_text,bind,Except.bind,pure,Except.pure]

theorem numbered_row_eq (sequence : Nat) (project_id now : String)
    (event_id event_type aggregate_type aggregate_id : Option String) (payload : Option Dict) :
    numbered_row sequence project_id now event_id event_type aggregate_type aggregate_id payload =
      (given_event (.log (.append_event project_id now event_id event_type aggregate_type aggregate_id payload))).map
        (fun given => GivenEvent.row (sequence,given)) := by
  cases event_id <;> cases event_type <;> cases aggregate_type <;> cases aggregate_id <;>
    simp [numbered_row,event_row,given_event,GivenEvent.row,payload_text]

/-- One call that returns. -/
theorem perform_replayed {db after : KernelState} {command : Command} (ran : perform db command = .ok after) :
    Replayed db after [command] := by
  cases command with
  | upsert_project project_id now name status =>
    obtain ⟨row,made,stored⟩ := Loops.bind_ok_iff.mp ran
    have given := project_row_ok.mp made
    rw [← Loops.pure_ok_iff.mp stored]
    exact ⟨by simp [given,puts,KernelState.project,store],rfl,rfl,rfl,rfl,rfl⟩
  | upsert_entity project_id now entity_id entity_type title status attributes =>
    obtain ⟨row,made,stored⟩ := Loops.bind_ok_iff.mp ran
    obtain ⟨entities,inserted,rfl⟩ := Loops.map_ok_iff.mp stored
    obtain ⟨given,isGiven,rfl⟩ := Option.map_eq_some_iff.mp (entity_row_ok.mp made)
    exact ⟨rfl,by simp [isGiven,puts,upsert_rows inserted],rfl,rfl,rfl,rfl⟩
  | relate project_id now source_id relationship_type target_id =>
    obtain ⟨relationships,inserted,rfl⟩ := Loops.map_ok_iff.mp ran
    refine ⟨rfl,rfl,?_,rfl,rfl,rfl⟩
    rw [insert_rows inserted,List.filterMap_cons]
    cases given : relationship_row project_id now source_id relationship_type target_id <;> simp [given_relationship,given]
  | log call =>
    cases call with
    | append_event project_id now event_id event_type aggregate_type aggregate_id payload =>
      obtain ⟨events,inserted,rfl⟩ := Loops.map_ok_iff.mp ran
      refine ⟨rfl,rfl,rfl,?_,rfl,rfl⟩
      rw [insert_rows inserted,numbered_row_eq,numbered,numbered,List.append_nil,Option.toList_map,Option.toList_map,
        List.map_map]
      rfl
    | record_decision project_id now decision_id summary rationale authority status =>
      obtain ⟨decisions,inserted,rfl⟩ := Loops.map_ok_iff.mp ran
      refine ⟨rfl,rfl,rfl,rfl,rfl,?_⟩
      rw [insert_rows inserted,List.filterMap_cons]
      cases given : decision_row project_id now decision_id summary rationale authority status <;>
        simp [given_decision,given]

/-- The tables are a replay of the calls that returned. -/
theorem run_replayed (db : KernelState) (commands : List Command) :
    Replayed db (reached db commands) (returned db commands) := by
  induction commands generalizing db with
  | nil => exact replayed_refl db
  | cons command rest ih =>
    cases ran : perform db command with
    | ok after =>
      have same : next db command = after := by simp [next,ran]
      have later := replayed_trans (perform_replayed ran) (ih after)
      simpa [reached,returned,ran,same] using later
    | error _ =>
      have same : next db command = db := by simp [next,ran]
      simpa [reached,returned,ran,same] using ih db

/-! ### The snapshot -/

/-- The attributes and payloads that a call is given are documents. -/
def Documented : Command → Prop
  | .upsert_entity _ _ _ _ _ _ attributes => Document (.obj (attributes.getD []))
  | .log (.append_event _ _ _ _ _ _ payload) => Document (.obj (payload.getD []))
  | _ => True

/-- `first` and `last` of the members with the property. -/
def Ends {α : Type} (p : α → Bool) (items : List α) (first last : α) : Prop :=
  (items.filter p).head? = some first ∧ (items.filter p).getLast? = some last

/-- The entity with the id, project and time of one call and the content of another. -/
def GivenEntity.item (first last : GivenEntity) : EntityItem :=
  ⟨first.id,first.project_id,last.entity_type,last.title,last.status,first.now,last.now,sorted (.obj last.attributes)⟩

def GivenEvent.item (given : Nat × GivenEvent) : EventItem :=
  ⟨given.1,given.2.event_id,given.2.project_id,given.2.event_type,given.2.aggregate_type,given.2.aggregate_id,
    given.2.now,sorted (.obj given.2.payload)⟩

def item_order (item : EntityItem) : String ×ₗ WithBot String := toLex (item.entity_type,null_first item.id)

/-- What a snapshot of the project shows after these calls. -/
structure Shows (project_id : String) (calls : List Command) (s : Snapshot) : Prop where
  project : ∃ first last, Ends (fun row => row.id = project_id) (calls.filterMap given_project) first last ∧
    s.project = { last with created_at := first.created_at }
  entities : ∀ k item, item.id = some k → (item ∈ s.entities ↔
    ∃ first last, Ends (fun given => given.id = some k) (calls.filterMap given_entity) first last ∧
      first.project_id = project_id ∧ item = GivenEntity.item first last)
  nameless : (s.entities.filter (fun item => item.id = none)).Perm
    (((calls.filterMap given_entity).filter (fun given => given.id = none ∧ given.project_id = project_id)).map
      (fun given => GivenEntity.item given given))
  distinct : (s.entities.filterMap EntityItem.id).Nodup
  ordered : s.entities.Pairwise (fun item later => item_order item ≤ item_order later)
  relationships : s.relationships = ((firsts RelationshipRow.key (calls.filterMap given_relationship)).filter
    (fun row => row.project_id = project_id)).map relationship_item
  decisions : s.decisions.Perm ((firsts DecisionRow.id (calls.filterMap given_decision)).filter
    (fun row => row.project_id = project_id))
  decisions_ordered : s.decisions.Pairwise (fun row later => decision_order row ≤ decision_order later)
  events : s.events = ((firsts (fun given => some given.2.event_id) (numbered 0 calls)).filter
    (fun given => given.2.project_id = project_id)).map GivenEvent.item

theorem project_update_lasting : project_update.Lasting := ⟨fun _ _ _ => rfl,fun _ => rfl⟩

theorem entity_update_lasting : entity_update.Lasting := ⟨fun _ _ _ => rfl,fun _ => rfl⟩

/-- The entity of a row. -/
def shown (row : EntityRow) : EntityItem :=
  ⟨row.id,row.project_id,row.entity_type,row.title,row.status,row.created_at,row.updated_at,
    (loads row.attributes_json).getD .null⟩

theorem loads_payload {d : Dict} (document : Document (.obj d)) : loads (payload_text d) = some (sorted (.obj d)) :=
  loads_written document

theorem given_document {calls : List Command} (proper : ∀ command ∈ calls, Documented command) :
    (∀ given ∈ calls.filterMap given_entity, Document (.obj given.attributes)) ∧
      ∀ last, ∀ given ∈ numbered last calls, Document (.obj given.2.payload) := by
  constructor
  · intro given member
    obtain ⟨command,inside,made⟩ := List.mem_filterMap.mp member
    have document := proper command inside
    unfold given_entity at made
    split at made
    · rw [← Option.some.inj made]
      exact document
    · cases made
  · induction calls with
    | nil => simp [numbered]
    | cons command rest ih =>
      intro last given member
      rcases List.mem_append.mp member with here | later
      · obtain ⟨event,made,rfl⟩ : ∃ event, given_event command = some event ∧ (last + 1,event) = given := by simpa using here
        have document := proper command (by simp)
        unfold given_event at made
        split at made
        · rw [← Option.some.inj made]
          exact document
        · cases made
      · exact ih (fun other inside => proper other (by simp [inside])) _ given later

/-- The rows of the entities, in a run from a new database. -/
def entity_rows (calls : List Command) : List EntityRow :=
  replay entity_update ((calls.filterMap given_entity).map GivenEntity.row)

/-- The row that two calls make of an entity shows what they were given. -/
theorem shown_item {first last : GivenEntity} (document : Document (.obj last.attributes)) :
    shown (entity_update.into first.row last.row) = GivenEntity.item first last ∧
      loads (entity_update.into first.row last.row).attributes_json = some (sorted (.obj last.attributes)) := by
  have read := loads_payload document
  exact ⟨by simp [shown,entity_update,GivenEntity.row,GivenEntity.item,read],read⟩

theorem under_entities (k : String) (given : List GivenEntity) : under EntityRow.id k (given.map GivenEntity.row) =
    (given.filter (fun given => given.id = some k)).map GivenEntity.row := under_map (fun _ => rfl) k given

/-- Each row is made of the calls with its id, or of one without an id. -/
theorem entity_origin {calls : List Command} {row : EntityRow} : row ∈ entity_rows calls →
    (row.id = none ∧ ∃ given ∈ calls.filterMap given_entity, given.id = none ∧ row = given.row) ∨
      ∃ k first last, row.id = some k ∧ Ends (fun given => given.id = some k) (calls.filterMap given_entity) first last ∧
        row = entity_update.into first.row last.row := by
  intro member
  rcases replay_cases entity_update_lasting member with ⟨bare,given⟩ | ⟨k,first,last,keyed,head,tail,same⟩
  · obtain ⟨entity,inside,rfl⟩ := List.mem_map.mp given
    exact .inl ⟨bare,entity,inside,bare,rfl⟩
  · rw [under_entities,List.head?_map] at head
    rw [under_entities,List.getLast?_map] at tail
    obtain ⟨first,isFirst,rfl⟩ := Option.map_eq_some_iff.mp head
    obtain ⟨last,isLast,rfl⟩ := Option.map_eq_some_iff.mp tail
    exact .inr ⟨k,first,last,keyed,⟨isFirst,isLast⟩,same⟩

theorem ends_member {α : Type} {p : α → Bool} {items : List α} {first last : α} (ends : Ends p items first last) :
    (first ∈ items ∧ p first = true) ∧ last ∈ items ∧ p last = true :=
  ⟨List.mem_filter.mp (List.mem_of_head? ends.1),List.mem_filter.mp (List.mem_of_getLast? ends.2)⟩

/-- The rows of an id are the one that its calls make. -/
theorem entity_named {calls : List Command} {row : EntityRow} {k : String} : row ∈ entity_rows calls ∧ row.id = some k ↔
    ∃ first last, Ends (fun given => given.id = some k) (calls.filterMap given_entity) first last ∧
      row = entity_update.into first.row last.row := by
  have distinct : ((entity_rows calls).filterMap EntityRow.id).Nodup := puts_distinct List.nodup_nil
  rw [← held_mem distinct,entity_rows,held_replay entity_update_lasting]
  simp only [under_entities,List.head?_map,List.getLast?_map,Option.map_eq_some_iff,Ends]
  constructor
  · rintro ⟨_,_,⟨first,isFirst,rfl⟩,⟨last,isLast,rfl⟩,same⟩
    exact ⟨first,last,⟨isFirst,isLast⟩,same⟩
  · rintro ⟨first,last,⟨isFirst,isLast⟩,same⟩
    exact ⟨_,_,⟨first,isFirst,rfl⟩,⟨last,isLast,rfl⟩,same⟩

theorem entity_reads {calls : List Command} (proper : ∀ command ∈ calls, Documented command) {row : EntityRow}
    (member : row ∈ entity_rows calls) : ∃ v, loads row.attributes_json = some v := by
  have documents := (given_document proper).1
  rcases entity_origin member with ⟨_,given,inside,_,rfl⟩ | ⟨k,first,last,_,ends,rfl⟩
  · exact ⟨_,loads_payload (documents given inside)⟩
  · exact ⟨_,(shown_item (documents last (ends_member ends).2.1)).2⟩

/-- A list of rows that can be read is shown row by row. -/
theorem entity_items (rows : List EntityRow) (reads : ∀ row ∈ rows, ∃ v, loads row.attributes_json = some v) :
    rows.mapM entity_item = .ok (rows.map shown) := by
  refine Loops.mapM_ok_iff.mpr ?_
  rw [List.forall₂_map_right_iff,List.forall₂_same]
  intro row member
  obtain ⟨v,read⟩ := reads row member
  simp [entity_item,decoded,shown,read,bind,Except.bind,pure,Except.pure]

theorem event_items {given : List (Nat × GivenEvent)} (documents : ∀ event ∈ given, Document (.obj event.2.payload)) :
    (given.map GivenEvent.row).mapM event_item = .ok (given.map GivenEvent.item) := by
  refine Loops.mapM_ok_iff.mpr ?_
  rw [List.forall₂_map_left_iff,List.forall₂_map_right_iff,List.forall₂_same]
  intro event member
  have read := loads_payload (documents event member)
  simp [event_item,decoded,GivenEvent.row,GivenEvent.item,read,bind,Except.bind,pure,Except.pure]

theorem returned_subset (db : KernelState) (commands : List Command) : returned db commands ⊆ commands := by
  induction commands generalizing db with
  | nil => simp [returned]
  | cons command rest ih =>
    unfold returned
    cases perform db command with
    | ok after => exact List.cons_subset_cons command (ih after)
    | error _ => exact List.subset_cons_of_subset command (ih db)

theorem find_project (rows : List ProjectRow) (project_id : String) :
    rows.find? (fun row => row.id = project_id) = held ProjectRow.key project_id rows := by
  simp [held,ProjectRow.key]

/-- The project with the first time and the last content. -/
theorem project_named {calls : List Command} {row : ProjectRow} {project_id : String} :
    held ProjectRow.key project_id (replay project_update (calls.filterMap given_project)) = some row ↔
      ∃ first last, Ends (fun row => row.id = project_id) (calls.filterMap given_project) first last ∧
        row = { last with created_at := first.created_at } := by
  have same : under ProjectRow.key project_id (calls.filterMap given_project) =
      (calls.filterMap given_project).filter (fun row => row.id = project_id) := by simp [under,ProjectRow.key]
  rw [held_replay project_update_lasting,same]
  constructor
  · rintro ⟨first,last,head,tail,rfl⟩
    have ends : Ends (fun row => row.id = project_id) (calls.filterMap given_project) first last := ⟨head,tail⟩
    obtain ⟨⟨_,named⟩,_,named'⟩ := ends_member ends
    have equal : first.id = last.id := (of_decide_eq_true named).trans (of_decide_eq_true named').symm
    exact ⟨first,last,ends,by simp [project_update,equal]⟩
  · rintro ⟨first,last,ends,rfl⟩
    obtain ⟨⟨_,named⟩,_,named'⟩ := ends_member ends
    have equal : first.id = last.id := (of_decide_eq_true named).trans (of_decide_eq_true named').symm
    exact ⟨first,last,ends.1,ends.2,by simp [project_update,equal]⟩

theorem project_missing {calls : List Command} {project_id : String}
    (missing : held ProjectRow.key project_id (replay project_update (calls.filterMap given_project)) = none) :
    ∀ row ∈ calls.filterMap given_project, row.id ≠ project_id := by
  intro row member named
  have inside : project_id ∈ (replay project_update (calls.filterMap given_project)).filterMap ProjectRow.key :=
    keys_puts.mpr (.inr (List.mem_filterMap.mpr ⟨row,member,by rw [ProjectRow.key,named]⟩))
  obtain ⟨stored,here,keyed⟩ := List.mem_filterMap.mp inside
  exact absurd keyed (by simpa using List.find?_eq_none.mp missing stored here)

section
variable {calls : List Command} (project_id : String)

/-- The rows of the project, as they are shown. -/
def shown_entities (calls : List Command) (project_id : String) : List EntityItem :=
  (sortedBy EntityRow.order ((entity_rows calls).filter (fun row => row.project_id = project_id))).map shown

theorem shown_member {item : EntityItem} : item ∈ shown_entities calls project_id ↔
    ∃ row ∈ entity_rows calls, row.project_id = project_id ∧ shown row = item := by
  simp [shown_entities,mem_sortedBy,and_assoc]

theorem shown_ids : ((shown_entities calls project_id).filterMap EntityItem.id).Nodup := by
  have distinct : ((entity_rows calls).filterMap EntityRow.id).Nodup := puts_distinct List.nodup_nil
  have some_rows : (((entity_rows calls).filter (fun row => row.project_id = project_id)).filterMap EntityRow.id).Nodup :=
    distinct.sublist (List.filter_sublist.filterMap EntityRow.id)
  have same : (shown_entities calls project_id).filterMap EntityItem.id =
      (sortedBy EntityRow.order ((entity_rows calls).filter (fun row => row.project_id = project_id))).filterMap
        EntityRow.id := by
    rw [shown_entities,List.filterMap_map]
    rfl
  rw [same]
  exact ((perm_sortedBy EntityRow.order _).filterMap EntityRow.id).nodup_iff.mpr some_rows

theorem shown_ordered : (shown_entities calls project_id).Pairwise (fun item later => item_order item ≤ item_order later) :=
  List.pairwise_map.mpr (pairwise_sortedBy EntityRow.order _)

variable (proper : ∀ command ∈ calls, Documented command)
include proper

theorem shown_named {k : String} {item : EntityItem} (named : item.id = some k) : item ∈ shown_entities calls project_id ↔
    ∃ first last, Ends (fun given => given.id = some k) (calls.filterMap given_entity) first last ∧
      first.project_id = project_id ∧ item = GivenEntity.item first last := by
  have documents := (given_document proper).1
  rw [shown_member]
  constructor
  · rintro ⟨row,member,own,rfl⟩
    obtain ⟨first,last,ends,rfl⟩ := entity_named.mp ⟨member,named⟩
    exact ⟨first,last,ends,own,(shown_item (documents last (ends_member ends).2.1)).1⟩
  · rintro ⟨first,last,ends,own,rfl⟩
    obtain ⟨member,_⟩ := entity_named.mpr ⟨first,last,ends,rfl⟩
    exact ⟨_,member,own,(shown_item (documents last (ends_member ends).2.1)).1⟩

theorem shown_nameless : ((shown_entities calls project_id).filter (fun item => item.id = none)).Perm
    (((calls.filterMap given_entity).filter (fun given => given.id = none ∧ given.project_id = project_id)).map
      (fun given => GivenEntity.item given given)) := by
  have documents := (given_document proper).1
  have bare : (entity_rows calls).filter (fun row => row.id = none) =
      ((calls.filterMap given_entity).filter (fun given => given.id = none)).map GivenEntity.row := by
    rw [entity_rows,replay,unkeyed_puts,List.filter_nil,List.nil_append,List.filter_map]
    exact congrArg (List.map GivenEntity.row) (List.filter_congr fun given _ => decide_eq_decide.mpr Iff.rfl)
  have rows : ((shown_entities calls project_id).filter (fun item => item.id = none)).Perm
      ((((entity_rows calls).filter (fun row => row.id = none)).filter (fun row => row.project_id = project_id)).map shown) := by
    rw [shown_entities,List.filter_map,List.filter_filter]
    refine List.Perm.map shown ?_
    refine ((perm_sortedBy EntityRow.order _).filter _).trans (.of_eq ?_)
    rw [List.filter_filter]
    exact List.filter_congr (fun row _ => Bool.and_comm _ _)
  refine rows.trans (.of_eq ?_)
  rw [bare,List.filter_map,List.map_map,List.filter_filter]
  have item : ∀ given ∈ (calls.filterMap given_entity).filter (fun given => given.id = none ∧ given.project_id = project_id),
      (shown ∘ GivenEntity.row) given = GivenEntity.item given given :=
    fun given member => (shown_item (documents given (List.mem_filter.mp member).1)).1
  rw [← List.map_congr_left item]
  refine congrArg (List.map (shown ∘ GivenEntity.row)) (List.filter_congr fun given _ => ?_)
  rw [Bool.eq_iff_iff]
  simp only [Function.comp_apply,Bool.and_eq_true,decide_eq_true_eq]
  exact and_comm

end

/-- A snapshot of a known project shows what the calls that returned make of it. -/
theorem snapshot_shows {commands : List Command} (proper : ∀ command ∈ commands, Documented command) {project_id : String}
    {project : ProjectRow} (found : held ProjectRow.key project_id (reached fresh commands).projects.rows = some project)
    (generatedAt databaseSha256 : String) :
    ∃ s, snapshot (reached fresh commands) project_id generatedAt databaseSha256 = .ok s ∧
      s.generatedAt = generatedAt ∧ s.databaseSha256 = databaseSha256 ∧ Shows project_id (returned fresh commands) s := by
  have tables := run_replayed fresh commands
  have proper : ∀ command ∈ returned fresh commands, Documented command :=
    fun command member => proper command (returned_subset fresh commands member)
  generalize reached fresh commands = db at tables found ⊢
  generalize returned fresh commands = calls at tables proper ⊢
  have entities : db.entities.rows = entity_rows calls := tables.entities
  have relationships : db.relationships.rows = firsts RelationshipRow.key (calls.filterMap given_relationship) :=
    tables.relationships.trans replay_ignore
  have decisions : db.decisions.rows = firsts DecisionRow.id (calls.filterMap given_decision) :=
    tables.decisions.trans replay_ignore
  have events : db.events.rows = (firsts (fun given => some given.2.event_id) (numbered 0 calls)).map GivenEvent.row :=
    tables.events.trans (replay_ignore.trans (firsts_map (fun _ => rfl) _))
  have items := entity_items (sortedBy EntityRow.order
    ((entity_rows calls).filter (fun row => row.project_id = project_id)))
    (fun row member => entity_reads proper (List.mem_filter.mp (mem_sortedBy.mp member)).1)
  have own : (db.events.rows.filter (fun row => row.project_id = project_id)) =
      ((firsts (fun given => some given.2.event_id) (numbered 0 calls)).filter
        (fun given => given.2.project_id = project_id)).map GivenEvent.row := by
    rw [events,List.filter_map]
    exact congrArg (List.map GivenEvent.row) (List.filter_congr fun given _ => decide_eq_decide.mpr Iff.rfl)
  have documents : ∀ event ∈ (firsts (fun given => some given.2.event_id) (numbered 0 calls)).filter
      (fun given => given.2.project_id = project_id), Document (.obj event.2.payload) :=
    fun event member => (given_document proper).2 0 event ((firsts_sublist _).subset (List.mem_filter.mp member).1)
  refine ⟨{
    generatedAt := generatedAt
    databaseSha256 := databaseSha256
    project := project
    entities := shown_entities calls project_id
    relationships := (db.relationships.rows.filter (fun row => row.project_id = project_id)).map relationship_item
    decisions := sortedBy decision_order (db.decisions.rows.filter (fun row => row.project_id = project_id))
    events := ((firsts (fun given => some given.2.event_id) (numbered 0 calls)).filter
      (fun given => given.2.project_id = project_id)).map GivenEvent.item },?_,rfl,rfl,?_⟩
  · simp only [snapshot,find_project,found,entities,items,own,event_items documents]
    rfl
  · rw [tables.projects] at found
    exact {
      project := project_named.mp found
      entities := fun k item named => shown_named project_id proper named
      nameless := shown_nameless project_id proper
      distinct := shown_ids project_id
      ordered := shown_ordered project_id
      relationships := by rw [relationships]
      decisions := by
        rw [decisions]
        exact perm_sortedBy decision_order _
      decisions_ordered := pairwise_sortedBy decision_order _
      events := rfl }

/-- After any run, a snapshot of a project that was written shows what the calls that returned make of it, and
    any other project is unknown. -/
theorem snapshot_replays {commands : List Command} (proper : ∀ command ∈ commands, Documented command)
    (project_id generatedAt databaseSha256 : String) :
    (∃ s, snapshot (reached fresh commands) project_id generatedAt databaseSha256 = .ok s ∧
        s.generatedAt = generatedAt ∧ s.databaseSha256 = databaseSha256 ∧ Shows project_id (returned fresh commands) s) ∨
      snapshot (reached fresh commands) project_id generatedAt databaseSha256 =
          .error (.ValueError ("Unknown project: " ++ project_id)) ∧
        ∀ row ∈ (returned fresh commands).filterMap given_project, row.id ≠ project_id := by
  cases found : held ProjectRow.key project_id (reached fresh commands).projects.rows with
  | none =>
    refine .inr ⟨by simp only [snapshot,find_project,found],?_⟩
    rw [(run_replayed fresh commands).projects] at found
    exact project_missing found
  | some project => exact .inl (snapshot_shows proper found generatedAt databaseSha256)

/-- Two projects, an entity of the one that the other writes again, and an event without its project. -/
def shared_entity : List Command :=
  [.upsert_project "P" "1" (some "Project") (some "active"),
    .upsert_project "Q" "2" (some "Other") (some "active"),
    .upsert_entity "P" "3" (some "E") (some "unit") (some "Title") (some "active") (some [("size",.int 1)]),
    .upsert_entity "Q" "4" (some "E") (some "unit") (some "Later") (some "done"),
    .log (.append_event "R" "5" (some "V") (some "started") (some "unit") (some "E"))]

theorem snapshot_replays_shared :
    (∃ s, snapshot (reached fresh shared_entity) "P" "6" "hash" = .ok s ∧ s.generatedAt = "6" ∧
        s.databaseSha256 = "hash" ∧ Shows "P" (returned fresh shared_entity) s) ∨
      snapshot (reached fresh shared_entity) "P" "6" "hash" = .error (.ValueError ("Unknown project: " ++ "P")) ∧
        ∀ row ∈ (returned fresh shared_entity).filterMap given_project, row.id ≠ "P" := by
  have one : Document (.int 1) := ⟨by simp [Json.proper],by simp [doubles]⟩
  exact snapshot_replays (by simp [shared_entity,Documented,document_obj,Dict.keys,one]) "P" "6" "hash"

end V3Aidlc.SnapshotReplays
