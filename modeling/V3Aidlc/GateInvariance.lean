import V3Aidlc.GateContainment

/-!
What an evaluation does not depend on. The results, evidence and exceptions are looked up by their
ids, so their order is without effect, and so is everything that no selected check looks up: results
of other checks, records that no selected result cites, exceptions of other checks or of checks that
passed (`evaluation_unmoved`).
-/
namespace V3Aidlc.GateInvariance
open V3Aidlc.Values V3Aidlc.Loops V3Aidlc.Timestamps V3Aidlc.Contracts V3Aidlc.EvidenceGates V3Aidlc.GateVerdicts
open V3Aidlc.GateContainment (assess_congr examine_congr)

/-- The record names the check of the rule. -/
def About (rule record : Dict) : Prop := record.get "checkId" = .str (check_id rule)

/-- Some result of the check declares that it passed. -/
def PassedIn (check_results : List Json) (rule : Dict) : Prop :=
  ∃ result : Dict, .obj result ∈ check_results ∧ About rule result ∧ result.get "status" = .str "passed"

/-- Some result of the check cites the record. -/
def CitedIn (check_results : List Json) (rule record : Dict) : Prop :=
  ∃ (result : Dict) (id : String), .obj result ∈ check_results ∧ About rule result ∧
    .str id ∈ items result "evidenceIds" ∧ record.get "id" = .str id

/-- Objects that no check of the rules looks up in an evaluation of these results. -/
structure Irrelevant (rules : List Dict) (check_results more_results more_evidence more_exceptions : List Json) :
    Prop where
  results : ∀ result : Dict, .obj result ∈ more_results → ∀ rule ∈ rules, ¬ About rule result
  evidence : ∀ record : Dict, .obj record ∈ more_evidence → ∀ rule ∈ rules, ¬ CitedIn check_results rule record
  exceptions : ∀ exception : Dict, .obj exception ∈ more_exceptions → ∀ rule ∈ rules, About rule exception →
    PassedIn check_results rule

/-! ### Lookups -/

section
variable {key : String} {good good' : Dict → Prop} {records more records' : List Json} {table table' : Table}

theorem indexed_find (indexed : Indexed key good records table) {id : String} {record : Dict} :
    table.find id = some record ↔ .obj record ∈ records ∧ record.get key = .str id := by
  rw [table_find_iff indexed.distinct,indexed.entries]
  exact and_congr_right (fun _ => eq_comm)

/-- Under an id that no further record has the same record is found, in whatever order they come. -/
theorem find_unmoved (indexed : Indexed key good records table) (indexed' : Indexed key good' records' table')
    (same : (records ++ more).Perm records') {id : String}
    (other : ∀ record : Dict, .obj record ∈ more → record.get key ≠ .str id) : table'.find id = table.find id := by
  refine Option.ext (fun record => ?_)
  rw [indexed_find indexed',indexed_find indexed,← same.mem_iff,List.mem_append]
  constructor
  · rintro ⟨early | added,named⟩
    · exact ⟨early,named⟩
    · exact absurd named (other record added)
  · rintro ⟨member,named⟩; exact ⟨.inl member,named⟩

end

/-! ### One check -/

/-- A check whose result says that it passed does not look at the exceptions. -/
theorem examine_passed {context : GateContext} {rule result : Dict}
    (found : context.results_by_id.find (check_id rule) = some result) (passed : result.get "status" = .str "passed")
    (exceptions : Table) : examine { context with exception_by_check := exceptions } rule = examine context rule := by
  unfold examine
  simp only [found]
  have bound : misbound { context with exception_by_check := exceptions } result = misbound context result := rfl
  have contract : contract_of { context with exception_by_check := exceptions } rule = contract_of context rule := rfl
  rw [bound,contract]
  cases assessed : assess_check_result result (contract_of context rule) context.evidence_by_id with
  | error error => rfl
  | ok assessment =>
    have declared : assessment.declared_status = "passed" := by
      obtain ⟨fields,read,same,_⟩ := assess_check_result_ok assessed
      rw [same,(result_fields_ok read).1]
      unfold text
      rw [passed]
      rfl
    simp only [ok_bind,declared,↓reduceIte]

section
variable {gate check_library facts : Dict} {check_results evidence_records exceptions : List Json}
  {more_results more_evidence more_exceptions check_results' evidence_records' exceptions' : List Json}
  {subject_id subject_revision evaluated_at : Json} {context context' : GateContext}

theorem examine_unmoved
    (before : Prepared gate check_library check_results evidence_records subject_id subject_revision evaluated_at
      exceptions context)
    (after : Prepared gate check_library check_results' evidence_records' subject_id subject_revision evaluated_at
      exceptions' context')
    (results : (check_results ++ more_results).Perm check_results')
    (evidence : (evidence_records ++ more_evidence).Perm evidence_records')
    (excepted : (exceptions ++ more_exceptions).Perm exceptions') {rules : List Dict}
    (irrelevant : Irrelevant rules check_results more_results more_evidence more_exceptions) {rule : Dict}
    (member : rule ∈ rules) : examine context' rule = examine context rule := by
  have time : context'.evaluation_time = context.evaluation_time := by
    have parsed := after.time
    rw [before.time] at parsed
    exact (Except.ok.inj parsed).symm
  have result : context'.results_by_id.find (check_id rule) = context.results_by_id.find (check_id rule) :=
    find_unmoved before.results after.results results (fun record added => irrelevant.results record added rule member)
  have cited : ∀ found, context.results_by_id.find (check_id rule) = some found → ∀ id,
      .str id ∈ items found "evidenceIds" → context'.evidence_by_id.find id = context.evidence_by_id.find id := by
    intro found looked id listed
    obtain ⟨inside,named⟩ := (indexed_find before.results).mp looked
    refine find_unmoved before.evidence after.evidence evidence (fun record added same => ?_)
    exact irrelevant.evidence record added rule member ⟨found,id,inside,named,listed,same⟩
  -- With the other exceptions put in, only the lookup of an exception can differ.
  have swapped : examine { context' with exception_by_check := context.exception_by_check } rule =
      examine context rule :=
    examine_congr (after.gate.trans before.gate.symm) (after.library.trans before.library.symm)
      (after.subject.trans before.subject.symm) (after.revision.trans before.revision.symm) time result rfl cited
  by_cases passed : PassedIn check_results rule
  · obtain ⟨found,inside,named,declared⟩ := passed
    have looked : context'.results_by_id.find (check_id rule) = some found := by
      rw [result]
      exact (indexed_find before.results).mpr ⟨inside,named⟩
    exact (examine_passed looked declared context.exception_by_check).symm.trans swapped
  · have same : context'.exception_by_check.find (check_id rule) = context.exception_by_check.find (check_id rule) :=
      find_unmoved before.exceptions after.exceptions excepted
        (fun record added named => passed (irrelevant.exceptions record added rule member named))
    exact examine_congr (after.gate.trans before.gate.symm) (after.library.trans before.library.symm)
      (after.subject.trans before.subject.symm) (after.revision.trans before.revision.symm) time result same cited

/-- Two evaluations that returned agree when one was given the objects of the other in another order,
    with others that no selected check looks up. -/
theorem evaluation_unmoved {before after : GateEvaluation}
    (returned : evaluate_gate gate check_library check_results evidence_records facts subject_id subject_revision
      evaluated_at exceptions = .ok before)
    (returned' : evaluate_gate gate check_library check_results' evidence_records' facts subject_id subject_revision
      evaluated_at exceptions' = .ok after)
    (results : (check_results ++ more_results).Perm check_results')
    (evidence : (evidence_records ++ more_evidence).Perm evidence_records')
    (excepted : (exceptions ++ more_exceptions).Perm exceptions')
    (irrelevant : Irrelevant (selected_rules gate facts) check_results more_results more_evidence more_exceptions) :
    after.outcome = before.outcome ∧ after.promotable = before.promotable ∧
      after.missing_checks = before.missing_checks ∧ after.invalid_checks = before.invalid_checks ∧
      after.required_checks = before.required_checks ∧ after = before := by
  obtain ⟨context,findings,prepared,examined,rfl⟩ := evaluate_gate_ok.mp returned
  obtain ⟨context',findings',prepared',examined',rfl⟩ := evaluate_gate_ok.mp returned'
  have start := gate_context_ok prepared
  have start' := gate_context_ok prepared'
  have each : ∀ rule ∈ selected_rules gate facts, examine context' rule = examine context rule :=
    fun rule member => examine_unmoved start start' results evidence excepted irrelevant member
  have found : findings' = findings := by
    have runs := mapM_ok_iff.mpr examined'
    rw [mapM_congr each,mapM_ok_iff.mpr examined] at runs
    exact (Except.ok.inj runs).symm
  have same : gate_evaluation context' facts (findings'.foldl Finding.append {}) =
      gate_evaluation context facts (findings.foldl Finding.append {}) := by
    unfold gate_evaluation
    rw [found,start.gate,start'.gate,start.subject,start'.subject,start.revision,start'.revision]
  rw [same]
  exact ⟨rfl,rfl,rfl,rfl,rfl,rfl⟩

end

/-! ### The sample gate with more objects -/

def unknown_result : Dict := (sample_result "failed").set "checkId" (.str "OTHER")
def uncited_evidence : Dict := sample_evidence.set "id" (.str "EV2")
def idle_exception : Dict := [("checkId",.str "CHK"),("id",.str "EX")]

def crowded_evaluation : Py GateEvaluation :=
  evaluate_gate sample_gate [("CHK",.obj sample_contract)] [.obj unknown_result,.obj (sample_result "passed")]
    [.obj uncited_evidence,.obj sample_evidence] [] (.str "WP") (.str "r1") (.str "2026-01-01T01:00:00Z")
    [.obj idle_exception]

theorem evaluation_unmoved_sample :
    ∃ before after, sample_evaluation "passed" = .ok before ∧ crowded_evaluation = .ok after ∧
      after.outcome = before.outcome ∧ after.promotable = before.promotable ∧
      after.missing_checks = before.missing_checks ∧ after.invalid_checks = before.invalid_checks ∧
      after.required_checks = before.required_checks ∧ after = before := by
  obtain ⟨before,returned,_⟩ := returns_with (m := sample_evaluation "passed") (p := fun _ => true) (by decide +kernel)
  obtain ⟨after,returned',_⟩ := returns_with (m := crowded_evaluation) (p := fun _ => true) (by decide +kernel)
  have selects : selected_rules sample_gate [] = [sample_rule] := rfl
  have irrelevant : Irrelevant (selected_rules sample_gate []) [.obj (sample_result "passed")] [.obj unknown_result]
      [.obj uncited_evidence] [.obj idle_exception] := by
    rw [selects]
    refine ⟨?_,?_,?_⟩
    · intro result member rule listed
      simp only [List.mem_singleton,Json.obj.injEq] at member listed
      subst member listed
      intro about
      have same : "OTHER" = "CHK" := Json.str.inj about
      exact absurd same (by decide)
    · rintro record member rule listed ⟨result,id,inside,_,cited,named⟩
      simp only [List.mem_singleton,Json.obj.injEq] at member listed inside
      subst member listed inside
      have idIs : id = "EV2" := by simpa [uncited_evidence,sample_evidence,Dict.set,Dict.get,Dict.get?] using named.symm
      subst idIs
      simp [sample_result,items,Dict.get,Dict.get?,Json.list?] at cited
    · intro exception member rule listed _
      simp only [List.mem_singleton,Json.obj.injEq] at member listed
      subst member listed
      exact ⟨sample_result "passed",List.mem_singleton_self _,rfl,rfl⟩
  exact ⟨before,after,returned,returned',evaluation_unmoved returned returned' (List.Perm.swap _ _ _)
    (List.Perm.swap _ _ _) (.refl _) irrelevant⟩

end V3Aidlc.GateInvariance
