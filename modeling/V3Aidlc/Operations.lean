import V3Aidlc.Contracts
import V3Aidlc.Groups

/-!
Production readiness (`operations.py`): a checklist of controls against the evidence recorded for
them. An evaluation returns for valid inputs alone, and is then made of three lists of the required
controls: those without evidence, those that failed and those that stayed inconclusive
(`evaluate_readiness_ok`).
-/
namespace V3Aidlc.Operations
open V3Aidlc.Values V3Aidlc.Loops V3Aidlc.Contracts V3Aidlc.Canonical V3Aidlc.Groups

inductive ReadinessOutcome where
  | READY
  | NOT_READY
  | INCONCLUSIVE
  deriving DecidableEq

structure ReadinessEvaluation where
  outcome : ReadinessOutcome
  missing_controls : List String
  failed_controls : List String
  reasons : List String

def operations_error {α : Type} (message : String) : Py α := fail .OperationsError message
def reject (condition : Bool) (message : String) : Py Unit := reject_if .OperationsError condition message
def required_string := Contracts.required_string .OperationsError

/-- `_strings`. -/
def strings (value : Json) (key : String) (minimum : Nat := 0) : Py (List String) :=
  string_array .OperationsError nonempty value key minimum

def READINESS_STATUSES : List String := ["passed","failed","inconclusive"]

def control_of (item : Dict) : String := text item "controlId"

/-- `by_id.get(control_id)`, where `by_id` holds each item under its own control. -/
def recorded (by_id : List Dict) (control_id : String) : Option Dict :=
  by_id.find? (fun item => control_of item = control_id)

/-- One item of the evidence, after those in `by_id`. -/
def add_evidence (by_id : List Dict) (item : Json) : Py (List Dict) := do
  let item ← as_dict item
  let control_id ← required_string item "controlId"
  reject ((by_id.map control_of).contains control_id) ("duplicate readiness evidence: " ++ control_id)
  let known ← in_set (item.get "status") READINESS_STATUSES
  reject (!known) "readiness evidence status is invalid"
  let _ ← strings (item.get "evidenceIds") "evidenceIds" 1
  return by_id ++ [item]

structure Findings where
  missing : List String := []
  failed : List String := []
  inconclusive : List String := []

/-- The findings with those of one control. -/
def note_control (by_id : List Dict) (findings : Findings) (control : Dict) (control_id : String) : Findings :=
  if !(control.get "required").isTrue then findings
  else match recorded by_id control_id with
    | none => { findings with missing := findings.missing ++ [control_id] }
    | some result =>
      if text result "status" = "failed" then { findings with failed := findings.failed ++ [control_id] }
      else if text result "status" = "inconclusive" then
        { findings with inconclusive := findings.inconclusive ++ [control_id] }
      else findings

/-- One control of the checklist. -/
def check_control (by_id : List Dict) (findings : Findings) (control : Json) : Py Findings := do
  let control ← as_dict control
  let control_id ← required_string control "id"
  return note_control by_id findings control control_id

/-- What the findings come to. -/
def conclude (findings : Findings) : ReadinessEvaluation :=
  let reasons := findings.missing.map (fun item => "required control missing: " ++ item) ++
    findings.failed.map (fun item => "required control failed: " ++ item) ++
    findings.inconclusive.map (fun item => "required control inconclusive: " ++ item)
  if findings.missing ≠ [] ∨ findings.inconclusive ≠ [] then
    ⟨.INCONCLUSIVE,findings.missing,findings.failed,reasons⟩
  else if findings.failed ≠ [] then ⟨.NOT_READY,findings.missing,findings.failed,reasons⟩
  else ⟨.READY,findings.missing,findings.failed,["all required production-readiness controls passed"]⟩

def evaluate_readiness (checklist : Dict) (evidence : List Json) : Py ReadinessEvaluation := do
  let _ ← required_string checklist "checklistId"
  match (checklist.get "controls").list? with
  | none => operations_error "controls must be a non-empty array"
  | some controls => do
    reject controls.isEmpty "controls must be a non-empty array"
    let by_id ← evidence.foldlM add_evidence []
    let findings ← controls.foldlM (check_control by_id) {}
    return conclude findings

/-! ### The evidence -/

/-- What is asked of an item of the evidence. -/
structure ValidEvidence (item : Dict) : Prop where
  control : filled (item.get "controlId") = true
  status : ∃ status ∈ READINESS_STATUSES, item.get "status" = .str status
  evidenceIds : ∃ ids, strings (item.get "evidenceIds") "evidenceIds" 1 = .ok ids

theorem required_string_text {d : Dict} {key s : String} :
    required_string d key = .ok s ↔ filled (d.get key) = true ∧ text d key = s := by
  unfold required_string Contracts.required_string text filled
  cases d.get key with
  | str t => cases empty : blank t <;> simp [empty,Json.str?]
  | _ => simp

theorem add_evidence_ok {by_id next : List Dict} {value : Json} :
    add_evidence by_id value = .ok next ↔ ∃ item, value = .obj item ∧ ValidEvidence item ∧
      control_of item ∉ by_id.map control_of ∧ next = by_id ++ [item] := by
  unfold add_evidence
  simp only [bind_ok_iff,as_dict_ok,required_string_text,reject,reject_if_ok,pure_ok_iff,List.contains_eq_mem,
    decide_eq_false_iff_not,Bool.not_eq_false']
  constructor
  · rintro ⟨item,isItem,_,⟨named,rfl⟩,_,fresh,_,known,_,rfl,ids,listed,rfl⟩
    exact ⟨item,isItem,⟨named,in_set_ok_true.mp known,ids,listed⟩,fresh,rfl⟩
  · rintro ⟨item,isItem,valid,fresh,rfl⟩
    obtain ⟨ids,listed⟩ := valid.evidenceIds
    exact ⟨item,isItem,_,⟨valid.control,rfl⟩,(),fresh,_,in_set_ok_true.mpr valid.status,(),rfl,ids,listed,rfl⟩

/-- The evidence is collected when every item is valid and no two are for one control. -/
theorem collected_ok {start by_id : List Dict} {evidence : List Json} (apart : (start.map control_of).Nodup) :
    evidence.foldlM add_evidence start = .ok by_id ↔ ∃ items, evidence = items.map Json.obj ∧
      (∀ item ∈ items, ValidEvidence item) ∧ ((start ++ items).map control_of).Nodup ∧ by_id = start ++ items := by
  induction evidence generalizing start with
  | nil =>
    rw [foldlM_nil_ok]
    constructor
    · rintro rfl
      exact ⟨[],rfl,by simp,by simpa using apart,by simp⟩
    · rintro ⟨items,none,_,_,rfl⟩
      rw [List.map_eq_nil_iff.mp none.symm,List.append_nil]
  | cons value evidence ih =>
    rw [foldlM_cons_ok]
    constructor
    · rintro ⟨next,added,later⟩
      obtain ⟨item,rfl,valid,fresh,rfl⟩ := add_evidence_ok.mp added
      have longer : ((start ++ [item]).map control_of).Nodup := by
        rw [List.map_append]
        exact List.Nodup.append apart (List.nodup_singleton _) (by simpa using fresh)
      obtain ⟨items,rfl,others,distinct,rfl⟩ := (ih longer).mp later
      exact ⟨item :: items,rfl,List.forall_mem_cons.mpr ⟨valid,others⟩,by simpa using distinct,by simp⟩
    · rintro ⟨items,whole,valid,distinct,rfl⟩
      obtain ⟨item,items,rfl,rfl,rfl⟩ := List.map_eq_cons_iff.mp whole.symm
      obtain ⟨here,others⟩ := List.forall_mem_cons.mp valid
      have split : start ++ item :: items = (start ++ [item]) ++ items := by simp
      rw [split] at distinct
      have longer : ((start ++ [item]).map control_of).Nodup := by
        rw [List.map_append] at distinct
        exact distinct.of_append_left
      have fresh : control_of item ∉ start.map control_of := by
        rw [List.map_append] at longer
        exact fun member => (List.nodup_append.mp longer).2.2 _ member _ (by simp) rfl
      exact ⟨_,add_evidence_ok.mpr ⟨item,rfl,here,fresh,rfl⟩,(ih longer).mpr ⟨items,rfl,others,distinct,split⟩⟩

/-! ### The controls -/

/-- The status that is recorded for a control. -/
def status_of (by_id : List Dict) (control_id : String) : Option String :=
  (recorded by_id control_id).map (fun item => text item "status")

/-- The ids of the required controls. -/
def required_ids (controls : List Dict) : List String :=
  (controls.filter (fun control => (control.get "required").isTrue)).map (fun control => text control "id")

/-- What is found of some required controls. -/
def findings_of (by_id : List Dict) (ids : List String) : Findings where
  missing := ids.filter (fun control_id => status_of by_id control_id = none)
  failed := ids.filter (fun control_id => status_of by_id control_id = some "failed")
  inconclusive := ids.filter (fun control_id => status_of by_id control_id = some "inconclusive")

def Findings.append (findings more : Findings) : Findings where
  missing := findings.missing ++ more.missing
  failed := findings.failed ++ more.failed
  inconclusive := findings.inconclusive ++ more.inconclusive

theorem findings_append (by_id : List Dict) (front back : List String) :
    findings_of by_id (front ++ back) = (findings_of by_id front).append (findings_of by_id back) := by
  simp [findings_of,Findings.append]

theorem findings_cons (by_id : List Dict) (start : Findings) (control : Dict) (dicts : List Dict) :
    (start.append (findings_of by_id (required_ids [control]))).append (findings_of by_id (required_ids dicts)) =
      start.append (findings_of by_id (required_ids (control :: dicts))) := by
  have split : required_ids (control :: dicts) = required_ids [control] ++ required_ids dicts := by
    unfold required_ids
    rw [← List.map_append,← List.filter_append]
    rfl
  rw [split,findings_append]
  simp [Findings.append]

theorem note_control_eq (by_id : List Dict) (findings : Findings) (control : Dict) :
    note_control by_id findings control (text control "id") =
      findings.append (findings_of by_id (required_ids [control])) := by
  unfold note_control required_ids
  cases required : (control.get "required").isTrue with
  | false => simp [required,findings_of,Findings.append]
  | true =>
    cases held : recorded by_id (text control "id") with
    | none => simp [required,findings_of,status_of,held,Findings.append]
    | some item =>
      by_cases failed : text item "status" = "failed"
      · simp [required,findings_of,status_of,held,Findings.append,failed]
      · by_cases inconclusive : text item "status" = "inconclusive"
        · simp [required,findings_of,status_of,held,Findings.append,inconclusive]
        · simp [required,findings_of,status_of,held,Findings.append,failed,inconclusive]

theorem check_control_ok {by_id : List Dict} {findings next : Findings} {value : Json} :
    check_control by_id findings value = .ok next ↔ ∃ control, value = .obj control ∧
      filled (Dict.get control "id") = true ∧ next = findings.append (findings_of by_id (required_ids [control])) := by
  unfold check_control
  simp only [bind_ok_iff,as_dict_ok,required_string_text,pure_ok_iff]
  constructor
  · rintro ⟨control,isControl,_,⟨named,rfl⟩,rfl⟩
    exact ⟨control,isControl,named,note_control_eq by_id findings control⟩
  · rintro ⟨control,isControl,named,rfl⟩
    exact ⟨control,isControl,_,⟨named,rfl⟩,note_control_eq by_id findings control⟩

/-- The controls are checked when each has an id, and the findings are those of the required ones. -/
theorem checked_ok {by_id : List Dict} {start findings : Findings} {controls : List Json} :
    controls.foldlM (check_control by_id) start = .ok findings ↔ ∃ dicts : List Dict, controls = dicts.map Json.obj ∧
      (∀ control ∈ dicts, filled (Dict.get control "id") = true) ∧
        findings = start.append (findings_of by_id (required_ids dicts)) := by
  induction controls generalizing start with
  | nil =>
    rw [foldlM_nil_ok]
    have unchanged : start.append (findings_of by_id (required_ids [])) = start := by
      simp [findings_of,required_ids,Findings.append]
    constructor
    · rintro rfl
      exact ⟨[],rfl,by simp,unchanged.symm⟩
    · rintro ⟨dicts,none,_,rfl⟩
      rw [List.map_eq_nil_iff.mp none.symm,unchanged]
  | cons value controls ih =>
    simp only [foldlM_cons_ok,check_control_ok,ih]
    constructor
    · rintro ⟨_,⟨control,rfl,named,rfl⟩,dicts,rfl,others,rfl⟩
      exact ⟨control :: dicts,rfl,List.forall_mem_cons.mpr ⟨named,others⟩,findings_cons _ _ control dicts⟩
    · rintro ⟨dicts,whole,named,rfl⟩
      obtain ⟨control,dicts,rfl,rfl,rfl⟩ := List.map_eq_cons_iff.mp whole.symm
      obtain ⟨here,others⟩ := List.forall_mem_cons.mp named
      exact ⟨_,⟨control,rfl,here,rfl⟩,dicts,rfl,others,(findings_cons _ _ control dicts).symm⟩

/-! ### The evaluation -/

/-- What is asked of a checklist. -/
structure ValidChecklist (checklist : Dict) (controls : List Dict) : Prop where
  named : filled (checklist.get "checklistId") = true
  listed : checklist.get "controls" = .arr (controls.map Json.obj)
  some : controls ≠ []
  controls : ∀ control ∈ controls, filled (Dict.get control "id") = true

/-- What is asked of the evidence. -/
structure ValidRecords (evidence : List Json) (by_id : List Dict) : Prop where
  listed : evidence = by_id.map Json.obj
  each : ∀ item ∈ by_id, ValidEvidence item
  distinct : (by_id.map control_of).Nodup

theorem evaluate_readiness_ok {checklist : Dict} {evidence : List Json} {result : ReadinessEvaluation} :
    evaluate_readiness checklist evidence = .ok result ↔ ∃ controls by_id, ValidChecklist checklist controls ∧
      ValidRecords evidence by_id ∧ result = conclude (findings_of by_id (required_ids controls)) := by
  have fresh : ∀ by_id ids, Findings.append {} (findings_of by_id ids) = findings_of by_id ids := by
    intro by_id ids
    simp [Findings.append]
  unfold evaluate_readiness
  rw [bind_ok_iff]
  constructor
  · rintro ⟨_,named,ran⟩
    cases listed : (checklist.get "controls").list? with
    | none => simp [listed,operations_error] at ran
    | some values =>
      simp only [listed,bind_ok_iff,reject,reject_if_ok,pure_ok_iff] at ran
      obtain ⟨_,some,by_id,collected,findings,checked,rfl⟩ := ran
      obtain ⟨found,whole,each,distinct,rfl⟩ := (collected_ok (by simp)).mp collected
      rw [List.nil_append] at distinct
      obtain ⟨controls,rfl,ids,rfl⟩ := checked_ok.mp checked
      refine ⟨controls,by_id,⟨(required_string_text.mp named).1,list?_eq_some.mp listed,?_,ids⟩,
        ⟨whole,each,distinct⟩,by rw [fresh]⟩
      rintro rfl
      cases some
  · rintro ⟨controls,by_id,valid,records,rfl⟩
    refine ⟨_,required_string_text.mpr ⟨valid.named,rfl⟩,?_⟩
    rw [valid.listed]
    simp only [Json.list?,bind_ok_iff,reject,reject_if_ok,pure_ok_iff]
    refine ⟨(),?_,by_id,?_,_,checked_ok.mpr ⟨controls,rfl,valid.controls,rfl⟩,by rw [fresh]⟩
    · simp [valid.some]
    · exact (collected_ok (by simp)).mpr ⟨by_id,records.listed,records.each,by simpa using records.distinct,rfl⟩

end V3Aidlc.Operations
