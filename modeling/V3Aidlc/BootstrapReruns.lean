import V3Aidlc.SnapshotReplays

/-!
Bootstraps that are interrupted (`bootstrap.py`). A bootstrap is a list of calls on the kernel of one project,
each a transaction of its own, and may stop after any of them. However often it is begun, once it runs to its
end the state is that of one bootstrap, up to the times, the numbers of the events and with them the order of
the decisions (`rerun_alike`, `rerun_snapshot`).
-/
namespace V3Aidlc.BootstrapReruns
open V3Aidlc.Values V3Aidlc.Canonical V3Aidlc.Documents V3Aidlc.ConstrainedTables V3Aidlc.ConstrainedTables.Table
open V3Aidlc.Upserts V3Aidlc.JsonTexts V3Aidlc.StateSnapshots V3Aidlc.SnapshotReplays
open V3Aidlc.StateKernel hiding perform next reached reached_append

/-! ### The bootstrap of the framework -/

def PROJECT_ID : String := "PRJ-V3-AIDLC"

/-- The calls of `bootstrap`, each at a time of its own. -/
def bootstrap_calls : List (String → Command) :=
  [(.upsert_project PROJECT_ID · (some "V3-AIDLC") (some "active")),
    (.upsert_entity PROJECT_ID · (some "INT-V3-01") (some "intent")
      (some "Create an adaptive AI-driven development control plane") (some "active")
      (some [("summary",.str ("Manage different kinds of development work with appropriate " ++
        "autonomy, speed, assurance, and plain-language user interaction."))])),
    (.upsert_entity PROJECT_ID · (some "ROUTE-V3-01") (some "route-instance") (some "Production-ready framework route")
      (some "active") (some [("definition",.str "production-ready"),("tailoringStatus",.str "bootstrap")])),
    (.upsert_entity PROJECT_ID · (some "WS-ARCH-01") (some "workstream") (some "Core architecture") (some "active")
      (some [])),
    (.upsert_entity PROJECT_ID · (some "UNIT-ARCH-01") (some "unit") (some "Adaptive lifecycle domain model")
      (some "active") (some [("currentStage",.str "design"),("posture",.str "balanced")])),
    (.upsert_entity PROJECT_ID · (some "MODE-ARCH-01") (some "mode") (some "Architecture mode") (some "active")
      (some [])),
    (.upsert_entity PROJECT_ID · (some "BOLT-ARCH-01") (some "bolt") (some "Architecture foundation bolt")
      (some "active") (some [])),
    (.upsert_entity PROJECT_ID · (some "V3.1-ARCH-01") (some "work-package") (some "Adaptive Lifecycle Domain Model")
      (some "in_progress")
      (some [("artifact",.str ("docs/architecture/" ++ "V3.1-ARCH-01-adaptive-lifecycle-domain-model.md")),
        ("nextPackage",.str "V3.1-ARCH-02")])),
    (.relate PROJECT_ID · (some "ROUTE-V3-01") (some "realizes") (some "INT-V3-01")),
    (.relate PROJECT_ID · (some "WS-ARCH-01") (some "participates-in") (some "ROUTE-V3-01")),
    (.relate PROJECT_ID · (some "WS-ARCH-01") (some "serves") (some "INT-V3-01")),
    (.relate PROJECT_ID · (some "UNIT-ARCH-01") (some "belongs-to") (some "WS-ARCH-01")),
    (.relate PROJECT_ID · (some "UNIT-ARCH-01") (some "advances") (some "INT-V3-01")),
    (.relate PROJECT_ID · (some "MODE-ARCH-01") (some "active-for") (some "UNIT-ARCH-01")),
    (.relate PROJECT_ID · (some "BOLT-ARCH-01") (some "advances") (some "UNIT-ARCH-01")),
    (.relate PROJECT_ID · (some "V3.1-ARCH-01") (some "belongs-to") (some "BOLT-ARCH-01")),
    (.log <| .record_decision PROJECT_ID · (some "DEC-0001") (some "Name the framework repository v3-aidlc")
      (some "The user selected v3-aidlc as the authoritative framework repository name.")),
    (.log <| .record_decision PROJECT_ID · (some "DEC-0002")
      (some "Keep live project state separate from the framework repository")
      (some ("The repository defines the framework; the external state store records " ++
        "the live managed-project history."))),
    (.log <| .record_decision PROJECT_ID · (some "DEC-0003") (some "Use state.db as the sole state authority")
      (some ("project-state.json is generated for readability and is not an " ++
        "independently editable source of truth."))),
    (.log <| .record_decision PROJECT_ID · (some "DEC-0004")
      (some "Require the conversational liaison to use layman's terms")
      (some ("Users should receive accurate explanations of outcomes, impacts, " ++
        "choices, required actions, and next steps without needing V3 terminology."))),
    (.log <| .append_event PROJECT_ID · (some "EVT-0001") (some "project.created") (some "project") (some PROJECT_ID)
      (some [("bootstrap",.bool true)])),
    (.log <| .append_event PROJECT_ID · (some "EVT-0002") (some "work-package.started") (some "work-package")
      (some "V3.1-ARCH-01")
      (some [("stage",.str "design"),("mode",.str "architecture"),("posture",.str "balanced")]))]

/-- A run of `bootstrap` by this clock. -/
def bootstrap (clock : Nat → String) : List Command :=
  bootstrap_calls.mapIdx (fun i call => call (clock i))

/-! ### Scripts -/

/-- A call on a kernel of the project that is given every column. -/
def Complete (project_id : String) : Command → Prop
  | .upsert_project owner _ name status => owner = project_id ∧ name ≠ none ∧ status ≠ none
  | .upsert_entity owner _ entity_id entity_type title status _ =>
    owner = project_id ∧ entity_id ≠ none ∧ entity_type ≠ none ∧ title ≠ none ∧ status ≠ none
  | .relate owner _ source_id relationship_type target_id =>
    owner = project_id ∧ source_id ≠ none ∧ relationship_type ≠ none ∧ target_id ≠ none
  | .log (.append_event owner _ event_id event_type aggregate_type aggregate_id _) =>
    owner = project_id ∧ event_id ≠ none ∧ event_type ≠ none ∧ aggregate_type ≠ none ∧ aggregate_id ≠ none
  | .log (.record_decision owner _ decision_id summary rationale authority status) =>
    owner = project_id ∧ decision_id ≠ none ∧ summary ≠ none ∧ rationale ≠ none ∧ authority ≠ none ∧ status ≠ none

/-- The project is written first. -/
def Opening : Command → Prop
  | .upsert_project .. => True
  | _ => False

/-- Complete calls that begin with the project. -/
structure Script (project_id : String) (calls : List Command) : Prop where
  opens : ∀ command ∈ calls.head?, Opening command
  complete : ∀ command ∈ calls, Complete project_id command

/-- The call at no time. -/
def timeless : Command → Command
  | .upsert_project project_id _ name status => .upsert_project project_id "" name status
  | .upsert_entity project_id _ entity_id entity_type title status attributes =>
    .upsert_entity project_id "" entity_id entity_type title status attributes
  | .relate project_id _ source_id relationship_type target_id =>
    .relate project_id "" source_id relationship_type target_id
  | .log (.append_event project_id _ event_id event_type aggregate_type aggregate_id payload) =>
    .log (.append_event project_id "" event_id event_type aggregate_type aggregate_id payload)
  | .log (.record_decision project_id _ decision_id summary rationale authority status) =>
    .log (.record_decision project_id "" decision_id summary rationale authority status)

/-- The calls of a bootstrap up to some point, at other times. -/
def Begun (attempt calls : List Command) : Prop := attempt.map timeless <+: calls.map timeless

theorem opening_timeless {command : Command} : Opening (timeless command) ↔ Opening command := by
  cases command with
  | log call => cases call <;> exact Iff.rfl
  | _ => exact Iff.rfl

theorem complete_timeless {project_id : String} {command : Command} :
    Complete project_id (timeless command) ↔ Complete project_id command := by
  cases command with
  | log call => cases call <;> exact Iff.rfl
  | _ => exact Iff.rfl

theorem script_begun {project_id : String} {attempt calls : List Command} (begun : Begun attempt calls)
    (script : Script project_id calls) : Script project_id attempt := by
  obtain ⟨rest,whole⟩ := begun
  constructor
  · intro command head
    obtain ⟨later,rfl⟩ := List.head?_eq_some_iff.mp head
    cases calls with
    | nil => cases whole
    | cons first others =>
      have same : timeless command = timeless first := (List.cons.inj whole).1
      rw [← opening_timeless,same,opening_timeless]
      exact script.opens first rfl
  · intro command member
    have inside : timeless command ∈ calls.map timeless := by
      rw [← whole]
      exact List.mem_append_left _ (List.mem_map_of_mem member)
    obtain ⟨other,there,same⟩ := List.mem_map.mp inside
    rw [← complete_timeless,← same,complete_timeless]
    exact script.complete other there

/-! ### Every call of a script returns -/

def Known (project_id : String) (db : KernelState) : Prop := project_id ∈ db.projects.rows.filterMap ProjectRow.key

theorem known_kept {project_id : String} {db after : KernelState} {command : Command}
    (ran : perform db command = .ok after) (known : Known project_id db) : Known project_id after := by
  rw [Known,(perform_replayed ran).projects,keys_puts]
  exact .inl known

theorem relationship_owner {owner now : String} {source_id relationship_type target_id : Option String}
    {row : RelationshipRow} (made : relationship_row owner now source_id relationship_type target_id = some row) :
    row.project_id = owner := by
  simp only [relationship_row,Option.bind_eq_bind,Option.bind_eq_some_iff] at made
  obtain ⟨_,_,_,_,_,_,made⟩ := made
  rw [← Option.some.inj made]

theorem event_owner {sequence : Nat} {owner now : String}
    {event_id event_type aggregate_type aggregate_id : Option String} {payload : Option Dict} {row : NumberedRow}
    (made : numbered_row sequence owner now event_id event_type aggregate_type aggregate_id payload = some row) :
    row.project_id = owner := by
  simp only [numbered_row,event_row,Option.bind_eq_bind,Option.map_eq_some_iff,Option.bind_eq_some_iff] at made
  obtain ⟨event,⟨_,_,_,_,_,_,_,_,made⟩,rfl⟩ := made
  rw [NumberedRow.project_id,← Option.some.inj made]

theorem decision_owner {owner now : String} {decision_id summary rationale authority status : Option String}
    {row : DecisionRow} (made : decision_row owner now decision_id summary rationale authority status = some row) :
    row.project_id = owner := by
  simp only [decision_row,Option.bind_eq_bind,Option.bind_eq_some_iff] at made
  obtain ⟨_,_,_,_,_,_,_,_,made⟩ := made
  rw [← Option.some.inj made]

theorem insert_returns {ρ κ : Type} {key : ρ → Option κ} {parent : ρ → String} {parents : List String} [DecidableEq κ]
    (table : Table key parent parents) (draft : Option ρ) (known : ∀ row ∈ draft, parent row ∈ parents) :
    ∃ after, table.insertOrIgnore foreign_key draft = .ok after := by
  cases draft with
  | none => exact ⟨_,rfl⟩
  | some row =>
    by_cases taken : table.Taken row
    · exact ⟨_,insert_taken taken⟩
    · exact ⟨_,insert_free taken (known row rfl)⟩

theorem complete_returns {project_id : String} (db : KernelState) {command : Command}
    (complete : Complete project_id command) (known : Known project_id db ∨ Opening command) :
    ∃ after, perform db command = .ok after ∧ Known project_id after := by
  have kept : ∀ after, perform db command = .ok after → Known project_id db ∨ Opening command →
      Known project_id after := by
    intro after ran known
    rcases known with known | opening
    · exact known_kept ran known
    · cases command with
      | upsert_project owner now name status =>
        obtain ⟨rfl,named,given⟩ := complete
        obtain ⟨name,rfl⟩ := Option.ne_none_iff_exists'.mp named
        obtain ⟨status,rfl⟩ := Option.ne_none_iff_exists'.mp given
        rw [Known,(perform_replayed ran).projects,keys_puts]
        exact .inr (by simp [given_project,ProjectRow.key])
      | _ => cases opening
  suffices returns : ∃ after, perform db command = .ok after by
    obtain ⟨after,ran⟩ := returns
    exact ⟨after,ran,kept after ran known⟩
  cases command with
  | upsert_project owner now name status =>
    obtain ⟨rfl,named,given⟩ := complete
    obtain ⟨name,rfl⟩ := Option.ne_none_iff_exists'.mp named
    obtain ⟨status,rfl⟩ := Option.ne_none_iff_exists'.mp given
    exact ⟨_,rfl⟩
  | upsert_entity owner now entity_id entity_type title status attributes =>
    have there : Known project_id db := known.resolve_right id
    obtain ⟨rfl,_,typed,titled,given⟩ := complete
    obtain ⟨entity_type,rfl⟩ := Option.ne_none_iff_exists'.mp typed
    obtain ⟨title,rfl⟩ := Option.ne_none_iff_exists'.mp titled
    obtain ⟨status,rfl⟩ := Option.ne_none_iff_exists'.mp given
    have room : ∃ after, upsert foreign_key entity_update db.entities
        ⟨entity_id,owner,entity_type,title,status,payload_text attributes,now,now⟩ = .ok after :=
      upsert_returns.mpr (.inr there)
    obtain ⟨entities,inserted⟩ := room
    exact ⟨_,Loops.map_ok_iff.mpr ⟨entities,inserted,rfl⟩⟩
  | relate owner now source_id relationship_type target_id =>
    have there : Known project_id db := known.resolve_right id
    obtain ⟨rfl,_⟩ := complete
    obtain ⟨relationships,inserted⟩ := insert_returns db.relationships
      (relationship_row owner now source_id relationship_type target_id)
      (fun row made => (relationship_owner made).symm ▸ there)
    exact ⟨_,Loops.map_ok_iff.mpr ⟨_,inserted,rfl⟩⟩
  | log call =>
    have there : Known project_id db := known.resolve_right id
    cases call with
    | append_event owner now event_id event_type aggregate_type aggregate_id payload =>
      obtain ⟨rfl,_⟩ := complete
      obtain ⟨events,inserted⟩ := insert_returns db.events
        (numbered_row (db.last + 1) owner now event_id event_type aggregate_type aggregate_id payload)
        (fun row made => (event_owner made).symm ▸ there)
      exact ⟨_,Loops.map_ok_iff.mpr ⟨_,inserted,rfl⟩⟩
    | record_decision owner now decision_id summary rationale authority status =>
      obtain ⟨rfl,_⟩ := complete
      obtain ⟨decisions,inserted⟩ := insert_returns db.decisions
        (decision_row owner now decision_id summary rationale authority status)
        (fun row made => (decision_owner made).symm ▸ there)
      exact ⟨_,Loops.map_ok_iff.mpr ⟨_,inserted,rfl⟩⟩

/-- Every call of a script returns. -/
theorem script_returns {project_id : String} {db : KernelState} {calls : List Command}
    (complete : ∀ command ∈ calls, Complete project_id command)
    (known : Known project_id db ∨ ∀ command ∈ calls.head?, Opening command) : returned db calls = calls := by
  induction calls generalizing db with
  | nil => rfl
  | cons command rest ih =>
    obtain ⟨after,ran,there⟩ := complete_returns db (complete command (by simp)) (known.imp_right (fun opens => opens command rfl))
    simp only [returned,ran]
    rw [ih (fun other member => complete other (by simp [member])) (.inl there)]

/-- A script that is not empty makes its project known. -/
theorem script_known {project_id : String} {calls : List Command} (nonempty : calls ≠ [])
    (script : Script project_id calls) (db : KernelState) : Known project_id (reached db calls) := by
  have kept : ∀ (rest : List Command) (db : KernelState), Known project_id db → Known project_id (reached db rest) := by
    intro rest db known
    rw [Known,(run_replayed db rest).projects,keys_puts]
    exact .inl known
  cases calls with
  | nil => exact absurd rfl nonempty
  | cons command rest =>
    obtain ⟨after,ran,known⟩ := complete_returns db (script.complete command (by simp))
      (.inr (script.opens command rfl))
    have same : next db command = after := by simp [next,ran]
    rw [reached,List.foldl_cons,same]
    exact kept rest after known

theorem returned_append (db : KernelState) (front back : List Command) :
    returned db (front ++ back) = returned db front ++ returned (reached db front) back := by
  induction front generalizing db with
  | nil => rfl
  | cons command rest ih =>
    cases ran : perform db command with
    | ok after =>
      have same : next db command = after := by simp [next,ran]
      simp [returned,ran,reached,same,ih after]
    | error _ =>
      have same : next db command = db := by simp [next,ran]
      simp [returned,ran,reached,same,ih db]

theorem attempts_return {project_id : String} {attempts : List (List Command)} {calls : List Command}
    (script : Script project_id calls) (begun : ∀ attempt ∈ attempts, Begun attempt calls) (db : KernelState) :
    returned db (attempts.flatten ++ calls) = attempts.flatten ++ calls := by
  induction attempts generalizing db with
  | nil => exact script_returns script.complete (.inr script.opens)
  | cons attempt later ih =>
    have first := script_begun (begun attempt (by simp)) script
    rw [List.flatten_cons,List.append_assoc,returned_append,script_returns first.complete (.inr first.opens),
      ih (fun other member => begun other (by simp [member]))]

/-! ### Up to the times -/

/-- Rows without their times, and events without their numbers. -/
def project_fact (row : ProjectRow) : ProjectRow := { row with created_at := "",updated_at := "" }
def entity_fact (row : EntityRow) : EntityRow := { row with created_at := "",updated_at := "" }
def relationship_fact (row : RelationshipRow) : RelationshipRow := { row with created_at := "" }
def event_fact (row : NumberedRow) : NumberedRow := ⟨0,{ row.event with occurred_at := "" }⟩
def decision_fact (row : DecisionRow) : DecisionRow := { row with created_at := "" }

/-- The databases hold the same, in the same order. -/
structure Alike (db other : KernelState) : Prop where
  projects : db.projects.rows.map project_fact = other.projects.rows.map project_fact
  entities : db.entities.rows.map entity_fact = other.entities.rows.map entity_fact
  relationships : db.relationships.rows.map relationship_fact = other.relationships.rows.map relationship_fact
  events : db.events.rows.map event_fact = other.events.rows.map event_fact
  decisions : db.decisions.rows.map decision_fact = other.decisions.rows.map decision_fact

theorem alike_symm {db other : KernelState} (alike : Alike db other) : Alike other db :=
  ⟨alike.projects.symm,alike.entities.symm,alike.relationships.symm,alike.events.symm,alike.decisions.symm⟩

/-- What a list of calls gives to a table, at no time. -/
theorem facts_timeless {α β : Type} {given : Command → Option α} {fact : α → β} {draft : Command → Option β}
    (erases : ∀ command, (given command).map fact = draft (timeless command)) (calls : List Command) :
    (calls.filterMap given).map fact = (calls.map timeless).filterMap draft := by
  rw [List.map_filterMap,List.filterMap_map]
  exact List.filterMap_congr (fun command _ => erases command)

theorem project_timeless (command : Command) :
    (given_project command).map project_fact = given_project (timeless command) := by
  cases command with
  | upsert_project owner now name status => cases name <;> cases status <;> rfl
  | log call => cases call <;> rfl
  | _ => rfl

theorem entity_timeless (command : Command) : (given_entity command).map (fun given => entity_fact given.row) =
    (given_entity (timeless command)).map GivenEntity.row := by
  cases command with
  | upsert_entity owner now entity_id entity_type title status attributes =>
    cases entity_type <;> cases title <;> cases status <;> rfl
  | log call => cases call <;> rfl
  | _ => rfl

theorem relationship_timeless (command : Command) :
    (given_relationship command).map relationship_fact = given_relationship (timeless command) := by
  cases command with
  | relate owner now source_id relationship_type target_id =>
    cases source_id <;> cases relationship_type <;> cases target_id <;> rfl
  | log call => cases call <;> rfl
  | _ => rfl

theorem event_timeless (command : Command) : (given_event command).map (fun given => event_fact (GivenEvent.row (0,given))) =
    (given_event (timeless command)).map (fun given => GivenEvent.row (0,given)) := by
  cases command with
  | log call =>
    cases call with
    | append_event owner now event_id event_type aggregate_type aggregate_id payload =>
      cases event_id <;> cases event_type <;> cases aggregate_type <;> cases aggregate_id <;> rfl
    | record_decision => rfl
  | _ => rfl

theorem decision_timeless (command : Command) :
    (given_decision command).map decision_fact = given_decision (timeless command) := by
  cases command with
  | log call =>
    cases call with
    | append_event => rfl
    | record_decision owner now decision_id summary rationale authority status =>
      cases summary <;> cases rationale <;> cases authority <;> cases status <;> rfl
  | _ => rfl

/-- Numbers are left out. -/
theorem numbered_facts (last : Nat) (calls : List Command) : ((numbered last calls).map GivenEvent.row).map event_fact =
    (calls.filterMap given_event).map (fun given => event_fact (GivenEvent.row (0,given))) := by
  induction calls generalizing last with
  | nil => rfl
  | cons command rest ih =>
    rw [numbered,List.map_append,List.map_append,ih]
    cases made : given_event command <;> simp [made,event_fact,GivenEvent.row]

section
variable {ρ κ π : Type} [DecidableEq κ] {key : ρ → Option κ} {parent : ρ → π} {merge : Merge key parent}

/-- Calls that were begun before leave no trace in a table. -/
theorem table_rerun (lasting : merge.Lasting) (fact : ρ → ρ) (keeps : ∀ row, key (fact row) = key row)
    (commutes : ∀ stored row, merge.into (fact stored) (fact row) = fact (merge.into stored row))
    {draft : Command → Option ρ} {attempts : List (List Command)} {calls : List Command}
    (begun : ∀ attempt ∈ attempts, Begun attempt calls) {rows drafts whole : List ρ}
    (distinct : (rows.filterMap key).Nodup)
    (same : drafts.map fact = ((attempts.flatten ++ calls).map timeless).filterMap draft)
    (same' : whole.map fact = (calls.map timeless).filterMap draft) (keyed : ∀ row ∈ whole, key row ≠ none) :
    (puts merge rows drafts).map fact = (puts merge rows whole).map fact := by
  have keys : (rows.map fact).filterMap key = rows.filterMap key := by
    rw [List.filterMap_map]
    exact List.filterMap_congr (fun row _ => keeps row)
  have fronts : ∀ front ∈ attempts.map (fun attempt => (attempt.map timeless).filterMap draft), front <+: whole.map fact := by
    intro front member
    obtain ⟨attempt,inside,rfl⟩ := List.mem_map.mp member
    rw [same']
    exact (begun attempt inside).filterMap draft
  have flat : drafts.map fact =
      (attempts.map (fun attempt => (attempt.map timeless).filterMap draft)).flatten ++ whole.map fact := by
    rw [same,same',List.map_append,List.filterMap_append,List.map_flatten,List.filterMap_flatten,List.map_map]
    rfl
  have given : ∀ row ∈ whole.map fact, key row ≠ none := by
    intro row member
    obtain ⟨stored,inside,rfl⟩ := List.mem_map.mp member
    rw [keeps]
    exact keyed stored inside
  rw [puts_map keeps commutes,puts_map keeps commutes,flat,puts_attempts lasting fronts (keys ▸ distinct) given]

end

theorem entity_facts (calls : List Command) : ((calls.filterMap given_entity).map GivenEntity.row).map entity_fact =
    (calls.map timeless).filterMap (fun command => (given_entity command).map GivenEntity.row) := by
  rw [List.map_map]
  exact facts_timeless entity_timeless calls

theorem event_facts (last : Nat) (calls : List Command) :
    ((numbered last calls).map GivenEvent.row).map event_fact = (calls.map timeless).filterMap
      (fun command => (given_event command).map (fun given => GivenEvent.row (0,given))) := by
  rw [numbered_facts]
  exact facts_timeless event_timeless calls

theorem entity_keyed {project_id : String} {calls : List Command}
    (complete : ∀ command ∈ calls, Complete project_id command) {row : EntityRow}
    (member : row ∈ (calls.filterMap given_entity).map GivenEntity.row) : row.id ≠ none := by
  obtain ⟨given,inside,rfl⟩ := List.mem_map.mp member
  obtain ⟨command,there,made⟩ := List.mem_filterMap.mp inside
  have whole := complete command there
  unfold given_entity at made
  split at made
  · rw [← Option.some.inj made]
    exact whole.2.1
  · cases made

theorem decision_keyed {project_id : String} {calls : List Command}
    (complete : ∀ command ∈ calls, Complete project_id command) {row : DecisionRow}
    (member : row ∈ calls.filterMap given_decision) : row.id ≠ none := by
  obtain ⟨command,there,made⟩ := List.mem_filterMap.mp member
  have whole := complete command there
  unfold given_decision at made
  split at made
  · simp only [decision_row,Option.bind_eq_bind,Option.bind_eq_some_iff] at made
    obtain ⟨_,_,_,_,_,_,_,_,made⟩ := made
    rw [← Option.some.inj made]
    exact whole.2.1
  · cases made

/-- However often a script is begun before it runs to its end, the state is that of one run. -/
theorem rerun_alike {project_id : String} {attempts : List (List Command)} {calls : List Command}
    (script : Script project_id calls) (begun : ∀ attempt ∈ attempts, Begun attempt calls) (db : KernelState) :
    Alike (reached db (attempts.flatten ++ calls)) (reached db calls) := by
  have often := run_replayed db (attempts.flatten ++ calls)
  have once := run_replayed db calls
  rw [attempts_return script begun] at often
  rw [script_returns script.complete (.inr script.opens)] at once
  constructor
  · rw [often.projects,once.projects]
    exact table_rerun project_update_lasting project_fact (fun _ => rfl) (fun _ _ => rfl) begun db.projects.distinct
      (facts_timeless project_timeless _) (facts_timeless project_timeless _) (fun row _ => by simp [ProjectRow.key])
  · rw [often.entities,once.entities]
    exact table_rerun entity_update_lasting entity_fact (fun _ => rfl) (fun _ _ => rfl) begun db.entities.distinct
      (entity_facts _) (entity_facts _) (fun row member => entity_keyed script.complete member)
  · rw [often.relationships,once.relationships]
    exact table_rerun Merge.ignore_lasting relationship_fact (fun _ => rfl) (fun _ _ => rfl) begun
      db.relationships.distinct (facts_timeless relationship_timeless _) (facts_timeless relationship_timeless _)
      (fun row _ => by simp [RelationshipRow.key])
  · rw [often.events,once.events]
    exact table_rerun Merge.ignore_lasting event_fact (fun _ => rfl) (fun _ _ => rfl) begun db.events.distinct
      (event_facts _ _) (event_facts _ _) (fun row _ => by simp [NumberedRow.key,EventRow.key])
  · rw [often.decisions,once.decisions]
    exact table_rerun Merge.ignore_lasting decision_fact (fun _ => rfl) (fun _ _ => rfl) begun db.decisions.distinct
      (facts_timeless decision_timeless _) (facts_timeless decision_timeless _)
      (fun row member => decision_keyed script.complete member)

/-! ### Snapshots -/

def entity_item_fact (item : EntityItem) : EntityItem := { item with created_at := "",updated_at := "" }
def relationship_item_fact (item : RelationshipItem) : RelationshipItem := { item with created_at := "" }
def event_item_fact (item : EventItem) : EventItem := { item with sequence := 0,occurred_at := "" }

/-- The snapshots show the same, in the same order. Only decisions are ordered by their times. -/
structure AlikeSnapshots (s other : Snapshot) : Prop where
  project : project_fact s.project = project_fact other.project
  entities : s.entities.map entity_item_fact = other.entities.map entity_item_fact
  relationships : s.relationships.map relationship_item_fact = other.relationships.map relationship_item_fact
  events : s.events.map event_item_fact = other.events.map event_item_fact
  decisions : (s.decisions.map decision_fact).Perm (other.decisions.map decision_fact)

theorem alike_snapshots_symm {s other : Snapshot} (alike : AlikeSnapshots s other) : AlikeSnapshots other s :=
  ⟨alike.project.symm,alike.entities.symm,alike.relationships.symm,alike.events.symm,alike.decisions.symm⟩

theorem entity_item_facts (row : EntityRow) : (entity_item row).map entity_item_fact = entity_item (entity_fact row) := by
  show _ = (decoded row.attributes_json >>= fun v => _)
  unfold entity_item
  cases decoded row.attributes_json <;> rfl

theorem event_item_facts (row : NumberedRow) : (event_item row).map event_item_fact = event_item (event_fact row) := by
  show _ = (decoded row.event.payload_json >>= fun v => _)
  unfold event_item
  cases decoded row.event.payload_json <;> rfl

/-- A loop over what is left of the elements is what is left of the loop. -/
theorem mapM_facts {α β ε : Type} {f : α → Except ε β} {fact : α → α} {shown : β → β}
    (keeps : ∀ a, (f a).map shown = f (fact a)) (items : List α) :
    (items.mapM f).map (List.map shown) = (items.map fact).mapM f := by
  induction items with
  | nil => rfl
  | cons a items ih =>
    rw [List.map_cons,List.mapM_cons,List.mapM_cons,← keeps,← ih]
    cases f a with
    | error _ => rfl
    | ok b => cases items.mapM f <;> rfl

/-- Loops over rows that hold the same return alike. -/
theorem mapM_alike {α β ε : Type} {f : α → Except ε β} {fact : α → α} {shown : β → β}
    (keeps : ∀ a, (f a).map shown = f (fact a)) {items others : List α} (same : items.map fact = others.map fact)
    {results : List β} (ran : items.mapM f = .ok results) :
    ∃ results', others.mapM f = .ok results' ∧ results.map shown = results'.map shown := by
  have whole := mapM_facts keeps others
  rw [← same,← mapM_facts keeps,ran] at whole
  obtain ⟨results',ran',equal⟩ := Loops.map_ok_iff.mp whole
  exact ⟨results',ran',equal.symm⟩

theorem filter_facts {α : Type} (fact : α → α) {own : α → Bool} (keeps : ∀ a, own (fact a) = own a) {items others : List α} (same : items.map fact = others.map fact) :
    (items.filter own).map fact = (others.filter own).map fact := by
  have one : ∀ xs : List α, (xs.filter own).map fact = (xs.map fact).filter own := by
    intro xs
    rw [List.filter_map]
    exact congrArg (List.map fact) (List.filter_congr (fun a _ => (keeps a).symm))
  rw [one,one,same]

theorem entities_ordered (rows : List EntityRow) :
    (sortedBy EntityRow.order rows).map entity_fact = sortedBy EntityRow.order (rows.map entity_fact) := by
  have keeps : ∀ row, EntityRow.order (entity_fact row) = EntityRow.order row := fun _ => rfl
  exact (sorted_map keeps rows).symm

theorem relationship_items (rows : List RelationshipRow) : (rows.map relationship_item).map relationship_item_fact =
    (rows.map relationship_fact).map relationship_item := by
  rw [List.map_map,List.map_map]
  rfl

theorem alike_snapshot {db other : KernelState} (alike : Alike db other) {project_id t h t' h' : String} {s : Snapshot}
    (taken : snapshot db project_id t h = .ok s) :
    ∃ s', snapshot other project_id t' h' = .ok s' ∧ AlikeSnapshots s s' := by
  have projects : (db.projects.rows.find? (fun row => row.id = project_id)).map project_fact =
      (other.projects.rows.find? (fun row => row.id = project_id)).map project_fact := by
    have one : ∀ rows : List ProjectRow, (rows.find? (fun row => row.id = project_id)).map project_fact =
        (rows.map project_fact).find? (fun row => row.id = project_id) := by
      intro rows
      rw [List.find?_map]
      rfl
    rw [one,one,alike.projects]
  cases found : db.projects.rows.find? (fun row => row.id = project_id) with
  | none => simp [snapshot,found] at taken
  | some project =>
    rw [found] at projects
    obtain ⟨project',found',equal⟩ := Option.map_eq_some_iff.mp projects.symm
    simp only [snapshot,found] at taken
    obtain ⟨entities,entitiesRun,taken⟩ := Loops.bind_ok_iff.mp taken
    obtain ⟨events,eventsRun,taken⟩ := Loops.bind_ok_iff.mp taken
    rw [← Loops.pure_ok_iff.mp taken]
    have own : (sortedBy EntityRow.order (db.entities.rows.filter (fun row => row.project_id = project_id))).map entity_fact =
        (sortedBy EntityRow.order (other.entities.rows.filter (fun row => row.project_id = project_id))).map entity_fact := by
      rw [entities_ordered,entities_ordered,filter_facts entity_fact (fun _ => rfl) alike.entities]
    obtain ⟨entities',entitiesRun',sameEntities⟩ := mapM_alike entity_item_facts own entitiesRun
    obtain ⟨events',eventsRun',sameEvents⟩ :=
      mapM_alike event_item_facts (filter_facts event_fact (fun _ => rfl) alike.events) eventsRun
    refine ⟨_,by simp only [snapshot,found',entitiesRun',eventsRun']; rfl,?_⟩
    exact {
      project := equal.symm
      entities := sameEntities
      relationships := by
        rw [relationship_items,relationship_items,filter_facts relationship_fact (fun _ => rfl) alike.relationships]
      events := sameEvents
      decisions := by
        refine ((perm_sortedBy decision_order _).map decision_fact).trans ?_
        rw [filter_facts decision_fact (fun _ => rfl) alike.decisions]
        exact ((perm_sortedBy decision_order _).map decision_fact).symm }

/-- After any earlier run, a bootstrap that was begun any number of times and then ran to its end leaves a
    snapshot that shows what one bootstrap shows. -/
theorem rerun_snapshot {project_id : String} {earlier : List Command} {attempts : List (List Command)}
    {calls : List Command} (nonempty : calls ≠ []) (script : Script project_id calls)
    (begun : ∀ attempt ∈ attempts, Begun attempt calls)
    (proper : ∀ command ∈ earlier ++ calls, Documented command) (t h t' h' : String) :
    ∃ s s', snapshot (reached fresh (earlier ++ (attempts.flatten ++ calls))) project_id t h = .ok s ∧
      snapshot (reached fresh (earlier ++ calls)) project_id t' h' = .ok s' ∧ AlikeSnapshots s s' := by
  have once : Alike (reached fresh (earlier ++ calls)) (reached fresh (earlier ++ (attempts.flatten ++ calls))) := by
    rw [reached_append,reached_append]
    exact alike_symm (rerun_alike script begun (reached fresh earlier))
  have known : project_id ∈ (reached fresh (earlier ++ calls)).projects.rows.filterMap ProjectRow.key := by
    rw [reached_append]
    exact script_known nonempty script _
  obtain ⟨project,found⟩ : ∃ project, held ProjectRow.key project_id (reached fresh (earlier ++ calls)).projects.rows =
      some project := by
    obtain ⟨project,member,keyed⟩ := List.mem_filterMap.mp known
    exact ⟨project,(held_mem (reached fresh (earlier ++ calls)).projects.distinct).mpr ⟨member,keyed⟩⟩
  obtain ⟨s',taken,_⟩ := snapshot_shows proper found t' h'
  obtain ⟨s,also,alike⟩ := alike_snapshot once taken
  exact ⟨s,s',also,taken,alike_snapshots_symm alike⟩

/-! ### The bootstrap of the framework is a script -/

theorem bootstrap_script (clock : Nat → String) : Script PROJECT_ID (bootstrap clock) where
  opens := by simp [bootstrap,bootstrap_calls,Opening]
  complete := by simp [bootstrap,bootstrap_calls,Complete]

theorem bootstrap_begun (clock clock' : Nat → String) (n : Nat) : Begun ((bootstrap clock).take n) (bootstrap clock') := by
  have same : (bootstrap clock).map timeless = (bootstrap clock').map timeless := by
    simp [bootstrap,bootstrap_calls,timeless]
  rw [Begun,List.map_take,same]
  exact List.take_prefix n _

theorem bootstrap_proper (clock : Nat → String) : ∀ command ∈ bootstrap clock, Documented command := by
  have text : ∀ s, Document (.str s) := fun s => ⟨by simp [Json.proper],by simp [doubles]⟩
  have truth : ∀ b, Document (.bool b) := fun b => ⟨by simp [Json.proper],by simp [doubles]⟩
  simp [bootstrap,bootstrap_calls,Documented,document_obj,Dict.keys,text,truth,or_imp,forall_and]

/-- The bootstrap stops after five calls, then after twelve, and then runs to its end. -/
theorem rerun_snapshot_bootstrap :
    ∃ s s', snapshot (reached fresh ([] ++ ([(bootstrap (fun _ => "1")).take 5,(bootstrap (fun _ => "2")).take 12].flatten ++
        bootstrap (fun _ => "3")))) PROJECT_ID "4" "hash" = .ok s ∧
      snapshot (reached fresh ([] ++ bootstrap (fun _ => "3"))) PROJECT_ID "4" "hash" = .ok s' ∧ AlikeSnapshots s s' := by
  have begun : ∀ attempt ∈ [(bootstrap (fun _ => "1")).take 5,(bootstrap (fun _ => "2")).take 12],
      Begun attempt (bootstrap (fun _ => "3")) := by
    simp [bootstrap_begun]
  exact rerun_snapshot (by simp [bootstrap,bootstrap_calls]) (bootstrap_script _) begun
    (by simpa using bootstrap_proper _) "4" "hash" "4" "hash"

end V3Aidlc.BootstrapReruns
