import V3Aidlc.Operations

/-!
The outcome of a readiness evaluation against the rule that a failed control makes a candidate not
ready and missing evidence makes it inconclusive. The evaluation looks at what is open first, so a
failed control is only reported when no required control is open (`readiness_iff`).
-/
namespace V3Aidlc.Readiness
open V3Aidlc.Values V3Aidlc.Loops V3Aidlc.Contracts V3Aidlc.Groups V3Aidlc.Operations

/-- A control of the checklist is required. -/
def Required (checklist : Dict) (control_id : String) : Prop :=
  ∃ control ∈ records checklist "controls", (Dict.get control "required").isTrue = true ∧ text control "id" = control_id

/-- The evidence has an item for the control, with this status. -/
def Recorded (evidence : List Json) (control_id status : String) : Prop :=
  ∃ item, Json.obj item ∈ evidence ∧ control_of item = control_id ∧ text item "status" = status

/-- Some required control has failed. -/
def SomeFailed (checklist : Dict) (evidence : List Json) : Prop :=
  ∃ control_id, Required checklist control_id ∧ Recorded evidence control_id "failed"

/-- Some required control has no evidence, or evidence that stays inconclusive. -/
def SomeOpen (checklist : Dict) (evidence : List Json) : Prop :=
  ∃ control_id, Required checklist control_id ∧
    ((∀ item, Json.obj item ∈ evidence → control_of item ≠ control_id) ∨ Recorded evidence control_id "inconclusive")

/-- The outcome is the one that the failed and the open controls call for, whatever the order of
    the controls and of the evidence, and whatever is recorded for other controls. -/
structure DecidesReadiness (checklist : Dict) (evidence : List Json) (outcome : ReadinessOutcome) : Prop where
  not_ready : outcome = .NOT_READY ↔ SomeFailed checklist evidence
  inconclusive : outcome = .INCONCLUSIVE ↔ ¬ SomeFailed checklist evidence ∧ SomeOpen checklist evidence
  ready : outcome = .READY ↔ ¬ SomeFailed checklist evidence ∧ ¬ SomeOpen checklist evidence
  rearranged : ∀ controls other_evidence, (items checklist "controls").Perm controls → evidence.Perm other_evidence →
    ∃ result, evaluate_readiness (checklist.set "controls" (.arr controls)) other_evidence = .ok result ∧
      result.outcome = outcome
  others : ∀ more result, (∀ item, Json.obj item ∈ more → ¬ Required checklist (control_of item)) →
    evaluate_readiness checklist (evidence ++ more) = .ok result → result.outcome = outcome

/-! ### What an evaluation decides -/

section
variable {checklist : Dict} {evidence : List Json} {controls by_id : List Dict}

theorem required_iff (valid : ValidChecklist checklist controls) {control_id : String} :
    Required checklist control_id ↔ control_id ∈ required_ids controls := by
  have listed : records checklist "controls" = controls := by
    unfold records items
    rw [valid.listed]
    simp [Json.list?,List.filterMap_map,Function.comp_def,Json.dict?]
  unfold Required required_ids
  rw [listed]
  simp only [List.mem_map,List.mem_filter,and_assoc]

theorem status_iff (records : ValidRecords evidence by_id) {control_id status : String} :
    status_of by_id control_id = some status ↔ Recorded evidence control_id status := by
  unfold status_of recorded Recorded
  rw [Option.map_eq_some_iff,records.listed]
  simp only [List.mem_map,Json.obj.injEq,exists_eq_right]
  constructor
  · rintro ⟨item,found,same⟩
    exact ⟨item,List.mem_of_find?_eq_some found,by simpa using List.find?_some found,same⟩
  · rintro ⟨item,member,rfl,same⟩
    exact ⟨item,find_keyed control_of records.distinct member,same⟩

theorem unrecorded_iff (records : ValidRecords evidence by_id) {control_id : String} :
    status_of by_id control_id = none ↔ ∀ item, Json.obj item ∈ evidence → control_of item ≠ control_id := by
  unfold status_of recorded
  rw [Option.map_eq_none_iff,List.find?_eq_none,records.listed]
  simp

/-- The outcome is that of the failed and the open controls, the open ones first. -/
theorem outcome_iff (valid : ValidChecklist checklist controls) (records : ValidRecords evidence by_id) :
    let outcome := (conclude (findings_of by_id (required_ids controls))).outcome
    (outcome = .INCONCLUSIVE ↔ SomeOpen checklist evidence) ∧
      (outcome = .NOT_READY ↔ ¬ SomeOpen checklist evidence ∧ SomeFailed checklist evidence) ∧
        (outcome = .READY ↔ ¬ SomeOpen checklist evidence ∧ ¬ SomeFailed checklist evidence) := by
  have found : ∀ p : String → Bool, (required_ids controls).filter p ≠ [] ↔
      ∃ control_id, Required checklist control_id ∧ p control_id = true := by
    intro p
    rw [ne_eq,List.filter_eq_nil_iff]
    simp only [not_forall,not_not,exists_prop,required_iff valid]
  have failed : (findings_of by_id (required_ids controls)).failed ≠ [] ↔ SomeFailed checklist evidence := by
    unfold findings_of SomeFailed
    simp only [found,decide_eq_true_eq,status_iff records]
  have left : (findings_of by_id (required_ids controls)).missing ≠ [] ∨
      (findings_of by_id (required_ids controls)).inconclusive ≠ [] ↔ SomeOpen checklist evidence := by
    unfold findings_of SomeOpen
    simp only [found,decide_eq_true_eq,status_iff records,unrecorded_iff records,and_or_left,exists_or]
  unfold conclude
  rw [← left,← failed]
  by_cases isOpen : (findings_of by_id (required_ids controls)).missing ≠ [] ∨
      (findings_of by_id (required_ids controls)).inconclusive ≠ []
  · simp only [if_pos isOpen]
    simp [isOpen]
  · simp only [if_neg isOpen]
    by_cases isFailed : (findings_of by_id (required_ids controls)).failed ≠ []
    · simp [isOpen,isFailed]
    · simp [isOpen,isFailed]

end

/-! ### Two evaluations -/

/-- An evaluation of two inputs that require the same controls and record the same for them. -/
theorem same_outcome {checklist other : Dict} {evidence more : List Json} {result another : ReadinessEvaluation}
    (ran : evaluate_readiness checklist evidence = .ok result) (again : evaluate_readiness other more = .ok another)
    (failed : SomeFailed checklist evidence ↔ SomeFailed other more)
    (left : SomeOpen checklist evidence ↔ SomeOpen other more) : another.outcome = result.outcome := by
  obtain ⟨controls,by_id,valid,recorded,rfl⟩ := evaluate_readiness_ok.mp ran
  obtain ⟨controls',by_id',valid',recorded',rfl⟩ := evaluate_readiness_ok.mp again
  obtain ⟨inconclusive,not_ready,ready⟩ := outcome_iff valid recorded
  obtain ⟨inconclusive',not_ready',ready'⟩ := outcome_iff valid' recorded'
  rw [← failed,← left] at not_ready' ready'
  rw [← left] at inconclusive'
  cases outcome : (conclude (findings_of by_id (required_ids controls))).outcome with
  | READY => exact ready'.mpr (ready.mp outcome)
  | NOT_READY => exact not_ready'.mpr (not_ready.mp outcome)
  | INCONCLUSIVE => exact inconclusive'.mpr (inconclusive.mp outcome)

/-- A valid checklist with its controls in another order. -/
theorem valid_rearranged {checklist : Dict} {controls others : List Dict} (valid : ValidChecklist checklist controls)
    (turned : controls.Perm others) :
    ValidChecklist (checklist.set "controls" (.arr (others.map Json.obj))) others := by
  have held : (checklist.set "controls" (.arr (others.map Json.obj))).get "controls" = .arr (others.map Json.obj) := by
    rw [get_set,if_pos rfl]
  refine ⟨?_,held,?_,fun control member => valid.controls control (turned.mem_iff.mpr member)⟩
  · rw [get_set,if_neg (by decide)]
    exact valid.named
  · rintro rfl
    exact valid.some turned.eq_nil

/-- Valid records in another order. -/
theorem records_rearranged {evidence : List Json} {by_id others : List Dict} (recorded : ValidRecords evidence by_id)
    (shuffled : by_id.Perm others) : ValidRecords (others.map Json.obj) others where
  listed := rfl
  each item member := recorded.each item (shuffled.mem_iff.mpr member)
  distinct := (shuffled.map control_of).nodup_iff.mp recorded.distinct

/-- Another order of the controls and of the evidence is accepted as well, with the same outcome. -/
theorem rearranged_outcome {checklist : Dict} {evidence other_evidence controls : List Json}
    {result : ReadinessEvaluation} (ran : evaluate_readiness checklist evidence = .ok result)
    (perm : (items checklist "controls").Perm controls) (moved : evidence.Perm other_evidence) :
    ∃ again, evaluate_readiness (checklist.set "controls" (.arr controls)) other_evidence = .ok again ∧
      again.outcome = result.outcome := by
  obtain ⟨dicts,by_id,valid,recorded,_⟩ := evaluate_readiness_ok.mp ran
  have listed : items checklist "controls" = dicts.map Json.obj := by
    unfold items
    rw [valid.listed]
    rfl
  rw [listed] at perm
  obtain ⟨dicts',rfl,turned⟩ := perm_map perm
  obtain rfl := recorded.listed
  obtain ⟨by_id',rfl,shuffled⟩ := perm_map moved
  have valid' := valid_rearranged valid turned
  have recorded' := records_rearranged recorded shuffled
  have again := evaluate_readiness_ok.mpr ⟨dicts',by_id',valid',recorded',rfl⟩
  have required : ∀ control_id, Required checklist control_id ↔
      Required (checklist.set "controls" (.arr (dicts'.map Json.obj))) control_id := by
    intro control_id
    rw [required_iff valid,required_iff valid']
    exact ((turned.filter _).map _).mem_iff
  have noted : ∀ item, Json.obj item ∈ by_id.map Json.obj ↔ Json.obj item ∈ by_id'.map Json.obj :=
    fun item => moved.mem_iff
  refine ⟨_,again,same_outcome ran again ?_ ?_⟩
  · simp only [SomeFailed,Recorded,required,noted]
  · simp only [SomeOpen,Recorded,required,noted]

/-- Evidence for controls that are not required changes nothing. -/
theorem others_outcome {checklist : Dict} {evidence more : List Json} {result another : ReadinessEvaluation}
    (ran : evaluate_readiness checklist evidence = .ok result)
    (idle : ∀ item, Json.obj item ∈ more → ¬ Required checklist (control_of item))
    (again : evaluate_readiness checklist (evidence ++ more) = .ok another) : another.outcome = result.outcome := by
  have recorded : ∀ control_id status, Required checklist control_id →
      (Recorded evidence control_id status ↔ Recorded (evidence ++ more) control_id status) := by
    intro control_id status required
    constructor
    · rintro ⟨item,member,same⟩
      exact ⟨item,List.mem_append_left _ member,same⟩
    · rintro ⟨item,member,rfl,same⟩
      rcases List.mem_append.mp member with early | late
      · exact ⟨item,early,rfl,same⟩
      · exact absurd required (idle item late)
  refine same_outcome ran again ?_ ?_
  · unfold SomeFailed
    exact exists_congr (fun control_id => and_congr_right (recorded control_id "failed"))
  · unfold SomeOpen
    refine exists_congr (fun control_id => and_congr_right (fun required => or_congr ?_ (recorded _ _ required)))
    constructor
    · intro absent item member
      rcases List.mem_append.mp member with early | late
      · exact absent item early
      · rintro rfl
        exact idle item late required
    · exact fun absent item member => absent item (List.mem_append_left _ member)

/-- An evaluation that returns has the outcome that failed and open controls call for, in every order
    of its inputs, unless a required control has failed while another is open. -/
theorem readiness_iff {checklist : Dict} {evidence : List Json} {result : ReadinessEvaluation}
    (ran : evaluate_readiness checklist evidence = .ok result) :
    DecidesReadiness checklist evidence result.outcome ↔
      ¬ (SomeFailed checklist evidence ∧ SomeOpen checklist evidence) := by
  obtain ⟨controls,by_id,valid,recorded,rfl⟩ := evaluate_readiness_ok.mp ran
  obtain ⟨inconclusive,not_ready,ready⟩ := outcome_iff valid recorded
  constructor
  · rintro decides ⟨failed,left⟩
    exact (not_ready.mp (decides.not_ready.mpr failed)).1 left
  · intro apart
    refine ⟨?_,?_,?_,fun _ _ perm moved => rearranged_outcome ran perm moved,
      fun _ _ idle again => others_outcome ran idle again⟩
    · rw [not_ready]
      exact ⟨fun both => both.2,fun failed => ⟨fun left => apart ⟨failed,left⟩,failed⟩⟩
    · rw [inconclusive]
      exact ⟨fun left => ⟨fun failed => apart ⟨failed,left⟩,left⟩,fun both => both.2⟩
    · rw [ready]
      exact and_comm

/-! A failed restore beside a missing control. -/

def sample_checklist : Dict :=
  [("checklistId",.str "READY-1"),
    ("controls",.arr [.obj [("id",.str "slo"),("required",.bool true)],
      .obj [("id",.str "restore"),("required",.bool true)]])]

def sample_record (control_id status : String) : Json :=
  .obj [("controlId",.str control_id),("status",.str status),("evidenceIds",.arr [.str "E1"])]

theorem failed_while_open :
    ∃ result, evaluate_readiness sample_checklist [sample_record "restore" "failed"] = .ok result ∧
      ¬ DecidesReadiness sample_checklist [sample_record "restore" "failed"] result.outcome := by
  have outcome : (evaluate_readiness sample_checklist [sample_record "restore" "failed"]).toOption.any
      (fun result => result.outcome = .INCONCLUSIVE) = true := by
    decide +kernel
  obtain ⟨result,ran,inconclusive⟩ := returns_with outcome
  refine ⟨result,ran,fun decides => ?_⟩
  refine (decides.inconclusive.mp (of_decide_eq_true inconclusive)).1 ⟨"restore",?_,?_⟩
  · exact ⟨[("id",.str "restore"),("required",.bool true)],by simp [records,items,sample_checklist,Dict.get,Dict.get?,
      Json.list?,Json.dict?],by decide,by decide⟩
  · exact ⟨_,List.mem_singleton.mpr rfl,by decide,by decide⟩

theorem readiness_iff_passed :
    let evidence := [sample_record "restore" "passed",sample_record "slo" "failed"]
    ∃ result, evaluate_readiness sample_checklist evidence = .ok result ∧
      (DecidesReadiness sample_checklist evidence result.outcome ↔
        ¬ (SomeFailed sample_checklist evidence ∧ SomeOpen sample_checklist evidence)) := by
  intro evidence
  have returned : (evaluate_readiness sample_checklist evidence).toOption.any (fun _ => true) = true := by
    decide +kernel
  obtain ⟨result,ran,_⟩ := returns_with returned
  exact ⟨result,ran,readiness_iff ran⟩

end V3Aidlc.Readiness
