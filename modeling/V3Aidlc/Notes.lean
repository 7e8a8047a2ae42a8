import V3Aidlc.Accounts

/-!
What the events of an execution say, by their types. Dispatches and completions come
from the runs alone, the plan from the opening alone, and each dispatch is followed by
the completion of its run (`dispatched_split`).
-/
namespace V3Aidlc.Notes
open V3Aidlc.Values V3Aidlc.Loops V3Aidlc.Contracts
open V3Aidlc.Scheduler (SchedulePlan)
open V3Aidlc.ReferenceOrchestrator V3Aidlc.RecordedEvents V3Aidlc.Preparations V3Aidlc.Runs V3Aidlc.Executions
open V3Aidlc.Accounts

/-- The type of the event. -/
def kind (n : Note) : String := (n.event_type.str?).getD ""

def OPENING : List String :=
  ["orchestration.started","authorization.evaluated","context.rejected","capability.rejected","capability.negotiated",
    "schedule.planned"]
def CLOSING : List String := ["integration.blocked","integration.evaluated","orchestration.completed"]

theorem kind_said {event : Dict} {event_type : String} (named : event_type ≠ "") :
    kind (said event) = event_type ↔ event.get "eventType" = .str event_type := by
  unfold kind said
  cases event.get "eventType" <;> simp [Json.str?,Ne.symm named]

theorem kind_note (event_type : String) (aggregate_id : Json) (payload : Dict) :
    kind (note event_type aggregate_id payload) = event_type := rfl

/-! ### The types -/

theorem preparation_kind {p : Preparation} {n : Note} (member : n ∈ p.notes) :
    kind n ∈ ["authorization.evaluated","context.rejected","capability.rejected","capability.negotiated"] := by
  unfold Preparation.notes Preparation.outcome_notes at member
  rcases List.mem_cons.mp member with rfl | rest
  · exact List.mem_cons_self
  · cases outcome : p.outcome with
    | unauthorized =>
      rw [outcome] at rest
      cases rest
    | rejected message =>
      rw [outcome] at rest
      rw [List.mem_singleton.mp rest,kind_note]
      decide
    | incompatible manifest request message =>
      rw [outcome] at rest
      rw [List.mem_singleton.mp rest,kind_note]
      decide
    | ready run manifest request profile negotiations =>
      rw [outcome] at rest
      rw [List.mem_singleton.mp rest,kind_note]
      decide

theorem opening_member {settings : Settings} {works : List Preparation} {plan : Option SchedulePlan} {n : Note} :
    n ∈ opening_notes settings works plan ↔ n = started_note settings ∨ (∃ p ∈ works, n ∈ p.notes) ∨
      ∃ chosen, plan = some chosen ∧ n = planned_note settings chosen := by
  unfold opening_notes
  cases plan <;> simp

theorem opening_kind {settings : Settings} {works : List Preparation} {plan : Option SchedulePlan} {n : Note}
    (member : n ∈ opening_notes settings works plan) : kind n ∈ OPENING := by
  rcases opening_member.mp member with rfl | ⟨p,_,inside⟩ | ⟨chosen,_,rfl⟩
  · exact List.mem_cons_self
  · have own := preparation_kind inside
    simp only [List.mem_cons,List.not_mem_nil,or_false] at own
    unfold OPENING
    rcases own with own | own | own | own <;> rw [own] <;> decide
  · show "schedule.planned" ∈ OPENING
    decide

/-- Only the plan is recorded as one. -/
theorem opening_planned {settings : Settings} {works : List Preparation} {plan : Option SchedulePlan} {n : Note}
    (member : n ∈ opening_notes settings works plan) (planned : kind n = "schedule.planned") :
    ∃ chosen, plan = some chosen ∧ n = planned_note settings chosen := by
  rcases opening_member.mp member with rfl | ⟨p,_,inside⟩ | here
  · rw [started_note,kind_note] at planned
    exact absurd planned (by decide)
  · have own := preparation_kind inside
    rw [planned] at own
    exact absurd own (by decide)
  · exact here

theorem gate_kind {prepared : Prepared} {gate : Option EvidenceGates.GateEvaluation} {n : Note}
    (member : n ∈ Run.gate_notes prepared gate) : kind n = "gate.evaluated" := by
  cases gate with
  | none => cases member
  | some gate =>
    rw [List.mem_singleton.mp member]
    rfl

theorem run_kind {run : Run} {n : Note} (member : n ∈ run.notes) :
    kind n ∈ ["run.dispatched","run.completed","gate.evaluated"] := by
  rcases List.mem_cons.mp member with rfl | rest
  · exact List.mem_cons_self
  · rcases List.mem_cons.mp rest with rfl | last
    · exact List.mem_cons_of_mem _ List.mem_cons_self
    · rw [gate_kind last]
      decide

theorem closing_kind {account : Account} {n : Note}
    (member : n ∈ account.integration.notes ++ [account.completed_note]) :
    kind n ∈ CLOSING := by
  rcases List.mem_append.mp member with inside | last
  · unfold Integration.notes at inside
    cases outcome : account.integration with
    | absent =>
      rw [outcome] at inside
      cases inside
    | blocked batch_id expected ready =>
      rw [outcome] at inside
      rw [List.mem_singleton.mp inside,kind_note]
      decide
    | evaluated batch result =>
      rw [outcome] at inside
      rw [List.mem_singleton.mp inside,kind_note]
      decide
  · rw [List.mem_singleton.mp last]
    show "orchestration.completed" ∈ CLOSING
    decide

/-! ### The runs in the events -/

theorem filter_kind (account : Account) {event_type : String} (of_run : event_type ∉ OPENING ++ CLOSING) :
    account.notes.filter (fun n => kind n = event_type) =
      (account.runs.flatMap Run.notes).filter (fun n => kind n = event_type) := by
  have none : ∀ {notes : List Note}, (∀ n ∈ notes, kind n ∈ OPENING ++ CLOSING) →
      notes.filter (fun n => kind n = event_type) = [] := by
    intro notes all
    rw [List.filter_eq_nil_iff]
    intro n member same
    exact of_run (of_decide_eq_true same ▸ all n member)
  unfold Account.notes
  rw [List.append_assoc,List.filter_append,List.filter_append,
    none (fun n member => List.mem_append_left _ (opening_kind member)),
    none (fun n member => List.mem_append_right _ (closing_kind member)),List.nil_append,List.append_nil]

/-- What each run says of one type, the events say of it. -/
theorem filter_runs (account : Account) {event_type : String} {f : Run → Note}
    (of_run : event_type ∉ OPENING ++ CLOSING)
    (own : ∀ run : Run, run.notes.filter (fun n => kind n = event_type) = [f run]) :
    account.notes.filter (fun n => kind n = event_type) = account.runs.map f := by
  rw [filter_kind account of_run,List.filter_flatMap]
  simp only [own]
  exact List.flatMap_pure_eq_map f account.runs

theorem gates_filter (prepared : Prepared) (gate : Option EvidenceGates.GateEvaluation) {event_type : String}
    (other : event_type ≠ "gate.evaluated") : (Run.gate_notes prepared gate).filter (fun n => kind n = event_type) =
      [] := by
  rw [List.filter_eq_nil_iff]
  intro n member
  rw [gate_kind member]
  simpa using Ne.symm other

/-- The dispatches in the events are those of the runs. -/
theorem dispatched_notes (account : Account) : account.notes.filter (fun n => kind n = "run.dispatched") =
    account.runs.map (fun run => Run.dispatched_note run.prepared) := by
  refine filter_runs account (by decide) ?_
  intro run
  show Run.dispatched_note run.prepared :: List.filter _ (Run.gate_notes run.prepared run.gate) = _
  rw [gates_filter run.prepared run.gate (by decide)]

theorem completed_notes (account : Account) : account.notes.filter (fun n => kind n = "run.completed") =
    account.runs.map (fun run => Run.completed_note run.prepared run.result) := by
  refine filter_runs account (by decide) ?_
  intro run
  show Run.completed_note run.prepared run.result :: List.filter _ (Run.gate_notes run.prepared run.gate) = _
  rw [gates_filter run.prepared run.gate (by decide)]

/-! ### The order of the events -/

/-- An element of a concatenation lies in one of the parts. -/
theorem flatMap_split {α β : Type} {f : α → List β} {xs : List α} {before after : List β} {b : β}
    (split : xs.flatMap f = before ++ b :: after) : ∃ done x rest left right, xs = done ++ x :: rest ∧
      f x = left ++ b :: right ∧ before = done.flatMap f ++ left ∧ after = right ++ rest.flatMap f := by
  induction xs generalizing before with
  | nil => simp at split
  | cons x rest ih =>
    rw [List.flatMap_cons] at split
    rcases List.append_eq_append_iff.mp split with ⟨later,beforeIs,restIs⟩ | ⟨here,partIs,tailIs⟩
    · obtain ⟨done,y,others,left,right,rfl,own,rfl,afterIs⟩ := ih restIs
      exact ⟨x :: done,y,others,left,right,rfl,own,by rw [beforeIs,List.flatMap_cons,List.append_assoc],afterIs⟩
    · cases here with
      | nil =>
        rw [List.append_nil] at partIs
        rw [List.nil_append] at tailIs
        obtain ⟨done,y,others,left,right,rfl,own,beforeIs,afterIs⟩ := @ih [] tailIs.symm
        refine ⟨x :: done,y,others,left,right,rfl,own,?_,afterIs⟩
        rw [List.flatMap_cons,List.append_assoc,← beforeIs,List.append_nil,partIs]
      | cons first right =>
        rw [List.cons_append,List.cons.injEq] at tailIs
        obtain ⟨rfl,afterIs⟩ := tailIs
        exact ⟨[],x,rest,before,right,rfl,partIs,rfl,afterIs⟩

theorem left_split {β : Type} {xs rest before after : List β} {b : β} (split : xs ++ rest = before ++ b :: after)
    (left : b ∉ xs) : ∃ front, rest = front ++ b :: after ∧ before = xs ++ front := by
  rcases List.append_eq_append_iff.mp split with ⟨front,beforeIs,restIs⟩ | ⟨here,partIs,tailIs⟩
  · exact ⟨front,restIs,beforeIs⟩
  · cases here with
    | nil =>
      rw [List.append_nil] at partIs
      exact ⟨[],tailIs.symm,by rw [partIs,List.append_nil]⟩
    | cons first more =>
      rw [List.cons_append,List.cons.injEq] at tailIs
      exact absurd (by rw [partIs,tailIs.1]; simp) left

theorem right_split {β : Type} {ys zs front after : List β} {b : β} (split : ys ++ zs = front ++ b :: after)
    (right : b ∉ zs) : ∃ back, ys = front ++ b :: back ∧ after = back ++ zs := by
  rcases List.append_eq_append_iff.mp split with ⟨later,_,tailIs⟩ | ⟨middle,ysIs,tailIs⟩
  · exact absurd (by rw [tailIs]; simp) right
  · cases middle with
    | nil => exact absurd (by rw [← List.nil_append zs,← tailIs]; simp) right
    | cons first back =>
      rw [List.cons_append,List.cons.injEq] at tailIs
      obtain ⟨rfl,afterIs⟩ := tailIs
      exact ⟨back,ysIs,afterIs⟩

/-- What a run says stands in the run's own part of the events. -/
theorem run_split {account : Account} {before after : List Note} {n : Note}
    (split : account.notes = before ++ n :: after)
    (of_run : kind n ∉ OPENING ++ CLOSING) : ∃ done run rest left right, account.runs = done ++ run :: rest ∧
      run.notes = left ++ n :: right ∧
      before = opening_notes account.settings account.works account.plan ++ (done.flatMap Run.notes ++ left) ∧
      after = right ++ (rest.flatMap Run.notes ++ (account.integration.notes ++ [account.completed_note])) := by
  unfold Account.notes at split
  rw [List.append_assoc,List.append_assoc] at split
  obtain ⟨front,restIs,beforeIs⟩ := left_split split
    (fun member => of_run (List.mem_append_left _ (opening_kind member)))
  obtain ⟨back,runsAre,afterIs⟩ := right_split restIs
    (fun member => of_run (List.mem_append_right _ (closing_kind member)))
  obtain ⟨done,run,rest,left,right,whole,own,rfl,rfl⟩ := flatMap_split runsAre
  exact ⟨done,run,rest,left,right,whole,own,beforeIs,by rw [afterIs,List.append_assoc]⟩

/-- A dispatch is the first that a run says, and its completion the next. -/
theorem dispatched_split {account : Account} {before after : List Note} {n : Note}
    (split : account.notes = before ++ n :: after) (dispatched : kind n = "run.dispatched") :
    ∃ done run rest, account.runs = done ++ run :: rest ∧ n = Run.dispatched_note run.prepared ∧
      before = opening_notes account.settings account.works account.plan ++ done.flatMap Run.notes ∧
      after = Run.completed_note run.prepared run.result :: (Run.gate_notes run.prepared run.gate ++
        (rest.flatMap Run.notes ++ (account.integration.notes ++ [account.completed_note]))) := by
  obtain ⟨done,run,rest,left,right,whole,own,beforeIs,afterIs⟩ := run_split split (by rw [dispatched]; decide)
  have later : ∀ m ∈ Run.completed_note run.prepared run.result :: Run.gate_notes run.prepared run.gate,
      kind m ≠ "run.dispatched" := by
    intro m member
    rcases List.mem_cons.mp member with rfl | gate
    · show "run.completed" ≠ "run.dispatched"
      decide
    · rw [gate_kind gate]
      decide
  cases left with
  | nil =>
    obtain ⟨rfl,rfl⟩ := List.cons.inj own
    exact ⟨done,run,rest,whole,rfl,by rw [beforeIs,List.append_nil],afterIs⟩
  | cons first others =>
    obtain ⟨_,tailIs⟩ := List.cons.inj own
    exact absurd dispatched (later n (by rw [tailIs]; simp))

/-- A completion stands right after the dispatch of its run. -/
theorem completed_split {account : Account} {before after : List Note} {n : Note}
    (split : account.notes = before ++ n :: after) (completed : kind n = "run.completed") :
    ∃ run ∈ account.runs, ∃ front, n = Run.completed_note run.prepared run.result ∧
      before = front ++ [Run.dispatched_note run.prepared] := by
  obtain ⟨done,run,rest,left,right,whole,own,beforeIs,_⟩ := run_split split (by rw [completed]; decide)
  have inside : run ∈ account.runs := by rw [whole]; simp
  cases left with
  | nil =>
    obtain ⟨rfl,_⟩ := List.cons.inj own
    rw [Run.dispatched_note,kind_note] at completed
    exact absurd completed (by decide)
  | cons first others =>
    obtain ⟨rfl,tailIs⟩ := List.cons.inj own
    cases others with
    | nil =>
      obtain ⟨rfl,_⟩ := List.cons.inj tailIs
      exact ⟨run,inside,_,rfl,by rw [beforeIs,← List.append_assoc]⟩
    | cons second more =>
      obtain ⟨_,gates⟩ := List.cons.inj tailIs
      have gate := @gate_kind run.prepared run.gate n (by rw [gates]; simp)
      rw [completed] at gate
      exact absurd gate (by decide)

end V3Aidlc.Notes
