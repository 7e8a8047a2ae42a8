import V3Aidlc.EvidenceGates

/-!
What a gate evaluation that returned has found. Every selected check is clean,
excused, failed or unresolved, by what its result and its exception say; the
outcome is read off these classes (`gate_outcome_spec`), and a promotable outcome
means that every passed check rests on evidence that was fresh when the check was
evaluated, no later than the gate (`promotable_evidence_fresh`).
-/
namespace V3Aidlc.GateVerdicts
open V3Aidlc.Values V3Aidlc.Loops V3Aidlc.Timestamps V3Aidlc.Contracts V3Aidlc.EvidenceGates

/-! ### Tables -/

/-- No two entries of a table have equal keys. -/
def Distinct (table : Table) : Prop := table.Pairwise (fun a b => b.1.eq a.1 = false)

theorem table_find_iff {table : Table} (distinct : Distinct table) {id : String} {record : Dict} :
    table.find id = some record ↔ (.str id,record) ∈ table := by
  unfold Table.find
  induction table with
  | nil => simp
  | cons entry rest ih =>
    obtain ⟨apart,tail⟩ := List.pairwise_cons.mp distinct
    by_cases here : entry.1 = .str id
    · have found : entry.1.eq (.str id) = true := eq_str_right.mpr here
      rw [List.find?_cons]
      simp only [found]
      constructor
      · intro same
        have value : entry.2 = record := by simpa using same
        rw [← value,← here]
        exact List.mem_cons_self
      · intro member
        rcases List.mem_cons.mp member with same | later
        · simp [← same]
        · have differs := apart _ later
          rw [here] at differs
          exact absurd rfl (eq_str_right_false.mp differs)
    · have skipped : entry.1.eq (.str id) = false := eq_str_right_false.mpr here
      rw [List.find?_cons]
      simp only [skipped]
      rw [ih tail]
      constructor
      · exact List.mem_cons_of_mem _
      · intro member
        rcases List.mem_cons.mp member with same | later
        · exact absurd (by rw [← same]) here
        · exact later

/-- The table of a list of records that all satisfy `good`. -/
structure Indexed (key : String) (good : Dict → Prop) (records : List Json) (table : Table) : Prop where
  good : ∀ record, .obj record ∈ records → good record
  entries : ∀ id record, (id,record) ∈ table ↔ .obj record ∈ records ∧ id = Dict.get record key
  dicts : ∀ record ∈ records, ∃ fields, record = .obj fields
  distinct : Distinct table

theorem index_by_ok {key duplicate : String} {table next : Table} {record : Dict} :
    index_by key duplicate table record = .ok next ↔
      (record.get key).hashable = true ∧ memList (record.get key) (table.map Prod.fst) = false ∧
        next = table ++ [(record.get key,record)] := by
  unfold index_by
  by_cases hashable : (record.get key).hashable = true
  · simp only [hashable,↓reduceIte,bind_ok_iff,EvidenceGates.reject,reject_if_ok,pure_ok_iff,true_and]
    constructor
    · rintro ⟨_,fresh,rfl⟩; exact ⟨fresh,rfl⟩
    · rintro ⟨fresh,rfl⟩; exact ⟨(),fresh,rfl⟩
  · simp [hashable]

private theorem indexed_snoc {key : String} {good : Dict → Prop} {records : List Json} {table : Table} {record : Dict}
    (before : Indexed key good records table) (fine : good record)
    (fresh : memList (record.get key) (table.map Prod.fst) = false) :
    Indexed key good (records ++ [.obj record]) (table ++ [(record.get key,record)]) := by
  refine ⟨?_,?_,?_,?_⟩
  · intro other member
    rcases List.mem_append.mp member with early | last
    · exact before.good other early
    · have same : other = record := by simpa using last
      exact same ▸ fine
  · intro id other
    simp only [List.mem_append,List.mem_singleton,Prod.mk.injEq,before.entries,Json.obj.injEq]
    constructor
    · rintro (⟨member,rfl⟩ | ⟨rfl,rfl⟩)
      · exact ⟨.inl member,rfl⟩
      · exact ⟨.inr rfl,rfl⟩
    · rintro ⟨member | rfl,rfl⟩
      · exact .inl ⟨member,rfl⟩
      · exact .inr ⟨rfl,rfl⟩
  · intro other member
    rcases List.mem_append.mp member with early | last
    · exact before.dicts other early
    · exact ⟨record,by simpa using last⟩
  · refine List.pairwise_append.mpr ⟨before.distinct,List.pairwise_singleton _ _,?_⟩
    intro entry member last lastMember
    obtain rfl := List.mem_singleton.mp lastMember
    unfold memList at fresh
    rw [List.any_eq_false] at fresh
    simpa using fresh entry.1 (List.mem_map_of_mem member)

/-- A loop that indexed every record built their table. -/
theorem indexed_of_fold {key : String} {good : Dict → Prop} {step : Table → Json → Py Table}
    (stepped : ∀ table record next, step table record = .ok next → ∃ fields, record = .obj fields ∧ good fields ∧
      memList (Dict.get fields key) (table.map Prod.fst) = false ∧ next = table ++ [(Dict.get fields key,fields)])
    {records : List Json} {table : Table} (ran : records.foldlM step [] = .ok table) :
    Indexed key good records table := by
  refine foldlM_invariant (Indexed key good) ?_ ?_ ran
  · intro done state record next holds executed
    obtain ⟨fields,rfl,fine,fresh,rfl⟩ := stepped state record next executed
    exact indexed_snoc holds fine fresh
  · exact ⟨by simp,by simp,by simp,List.Pairwise.nil⟩

theorem index_evidence_ok {table next : Table} {record : Json} (ran : index_evidence table record = .ok next) :
    ∃ fields, record = .obj fields ∧ validate_evidence fields = .ok () ∧
      memList (Dict.get fields "id") (table.map Prod.fst) = false ∧
        next = table ++ [(Dict.get fields "id",fields)] := by
  unfold index_evidence at ran
  simp only [bind_ok_iff,as_dict_ok,index_by_ok] at ran
  obtain ⟨fields,rfl,_,valid,_,fresh,rfl⟩ := ran
  exact ⟨fields,rfl,valid,fresh,rfl⟩

theorem index_result_ok {table next : Table} {record : Json} (ran : index_result table record = .ok next) :
    ∃ fields, record = .obj fields ∧ True ∧
      memList (Dict.get fields "checkId") (table.map Prod.fst) = false ∧
      next = table ++ [(Dict.get fields "checkId",fields)] := by
  unfold index_result at ran
  simp only [bind_ok_iff,as_dict_ok,index_by_ok] at ran
  obtain ⟨fields,rfl,_,fresh,rfl⟩ := ran
  exact ⟨fields,rfl,trivial,fresh,rfl⟩

theorem index_exception_ok {table next : Table} {record : Json} (ran : index_exception table record = .ok next) :
    ∃ fields, record = .obj fields ∧ True ∧
      memList (Dict.get fields "checkId") (table.map Prod.fst) = false ∧
      next = table ++ [(Dict.get fields "checkId",fields)] := by
  unfold index_exception at ran
  simp only [bind_ok_iff,as_dict_ok,index_by_ok] at ran
  obtain ⟨fields,rfl,_,fresh,rfl⟩ := ran
  exact ⟨fields,rfl,trivial,fresh,rfl⟩

/-! ### The start of an evaluation -/

section
variable {gate check_library facts : Dict} {check_results evidence_records exceptions : List Json}
  {subject_id subject_revision evaluated_at : Json}

/-- What holds when an evaluation reaches the checks. -/
structure Prepared (gate check_library : Dict) (check_results evidence_records : List Json)
    (subject_id subject_revision evaluated_at : Json) (exceptions : List Json) (context : GateContext) : Prop where
  valid : validate_gate_contract gate check_library = .ok ()
  gate : context.gate = gate
  library : context.check_library = check_library
  subject : context.subject_id = subject_id
  revision : context.subject_revision = subject_revision
  time : EvidenceGates.parse_time evaluated_at "evaluatedAt" = .ok context.evaluation_time
  evidence : Indexed "id" (fun record => validate_evidence record = .ok ()) evidence_records context.evidence_by_id
  results : Indexed "checkId" (fun _ => True) check_results context.results_by_id
  exceptions : Indexed "checkId" (fun _ => True) exceptions context.exception_by_check

theorem gate_context_ok {context : GateContext}
    (ran : gate_context gate check_library check_results evidence_records subject_id subject_revision evaluated_at
      exceptions = .ok context) :
    Prepared gate check_library check_results evidence_records subject_id subject_revision evaluated_at exceptions
      context := by
  unfold gate_context at ran
  simp only [bind_ok_iff,pure_ok_iff] at ran
  obtain ⟨_,valid,time,timed,evidence,indexedEvidence,results,indexedResults,excepted,indexedExceptions,rfl⟩ := ran
  exact {
    valid := valid
    gate := rfl
    library := rfl
    subject := rfl
    revision := rfl
    time := timed
    evidence := indexed_of_fold (fun _ _ _ => index_evidence_ok) indexedEvidence
    results := indexed_of_fold (fun _ _ _ => index_result_ok) indexedResults
    exceptions := indexed_of_fold (fun _ _ _ => index_exception_ok) indexedExceptions }

/-- The parts of an evaluation that returned. -/
theorem evaluate_gate_ok {evaluation : GateEvaluation} :
    evaluate_gate gate check_library check_results evidence_records facts subject_id subject_revision evaluated_at
      exceptions = .ok evaluation ↔
    ∃ context findings, gate_context gate check_library check_results evidence_records subject_id subject_revision
        evaluated_at exceptions = .ok context ∧
      List.Forall₂ (fun rule finding => examine context rule = .ok finding) (selected_rules gate facts) findings ∧
      evaluation = gate_evaluation context facts (findings.foldl Finding.append {}) := by
  unfold evaluate_gate
  simp only [bind_ok_iff,pure_ok_iff,mapM_ok_iff]
  constructor
  · rintro ⟨context,prepared,findings,examined,rfl⟩; exact ⟨context,findings,prepared,examined,rfl⟩
  · rintro ⟨context,findings,prepared,examined,rfl⟩; exact ⟨context,prepared,findings,examined,rfl⟩

end

/-! ### The classes of a check -/

/-- The result the check is judged by: there, about this subject and revision,
    and not dated after the gate. -/
structure Considered (context : GateContext) (rule result : Dict) : Prop where
  found : context.results_by_id.find (check_id rule) = some result
  bound : misbound context result = false
  timely : ∃ t, EvidenceGates.parse_time (result.get "evaluatedAt") "evaluatedAt" = .ok t ∧ t ≤ context.evaluation_time

def Admissible (context : GateContext) (rule : Dict) (assessment : CheckAssessment) : Prop :=
  ∃ result, Considered context rule result ∧
    assess_check_result result (contract_of context rule) context.evidence_by_id = .ok assessment ∧
    assessment.admissible = true

/-- The exception gets as far as its texts: the check can be waived, no field is
    missing, and it names this gate, check, subject and an accepted authority. -/
structure Reached (context : GateContext) (rule exception : Dict) : Prop where
  waivable : (rule.get "waivable").truthy = true
  complete : ∀ key ∈ EXCEPTION_FIELDS, Dict.has exception key = true
  gate : (exception.get "gateId").eq (context.gate.get "id") = true
  check : (exception.get "checkId").eq (rule.get "checkId") = true
  subject : (exception.get "subjectId").eq context.subject_id = true
  revision : (exception.get "subjectRevision").eq context.subject_revision = true
  authority : memList (exception.get "authority") (items context.gate "acceptedExceptionAuthorities") = true

/-- An exception that satisfies every condition on exceptions. -/
structure Excuses (context : GateContext) (rule exception : Dict) : Prop extends Reached context rule exception where
  grantor : filled (exception.get "grantedBy") = true
  rationale : filled (exception.get "rationale") = true
  unexpired : ∃ t, EvidenceGates.parse_time (exception.get "expiresAt") "expiresAt" = .ok t ∧
    context.evaluation_time ≤ t

def Clean (context : GateContext) (rule : Dict) : Prop :=
  ∃ assessment, Admissible context rule assessment ∧ assessment.declared_status = "passed"
def Excused (context : GateContext) (rule : Dict) : Prop :=
  ∃ assessment exception, Admissible context rule assessment ∧ assessment.declared_status ≠ "passed" ∧
    context.exception_by_check.find (check_id rule) = some exception ∧ Excuses context rule exception
def Failed (context : GateContext) (rule : Dict) : Prop :=
  (∃ assessment, Admissible context rule assessment ∧ assessment.declared_status = "failed") ∧ ¬ Excused context rule
/-- Without a result, with one about another subject or revision, dated after
    the gate or inadmissible, or else neither passed, excused nor failed. -/
def Unresolved (context : GateContext) (rule : Dict) : Prop :=
  (∀ result, ¬ Considered context rule result) ∨ (∀ assessment, ¬ Admissible context rule assessment) ∨
    (∃ assessment, Admissible context rule assessment ∧ assessment.declared_status ≠ "passed" ∧
      assessment.declared_status ≠ "failed") ∧ ¬ Excused context rule

theorem admissible_unique {context : GateContext} {rule : Dict} {a b : CheckAssessment}
    (first : Admissible context rule a) (second : Admissible context rule b) : a = b := by
  obtain ⟨result,considered,assessed,_⟩ := first
  obtain ⟨other,otherConsidered,otherAssessed,_⟩ := second
  have same : result = other := Option.some.inj (considered.found.symm.trans otherConsidered.found)
  rw [same,otherAssessed] at assessed
  exact (Except.ok.inj assessed).symm

theorem filled_iff {v : Json} : filled v = true ↔ ∃ s, v = .str s ∧ blank s = false := by
  cases v <;> simp [filled]

theorem required_string_filled {value : Dict} {key s : String}
    (read : EvidenceGates.required_string value key = .ok s) :
      value.get key = .str s ∧ filled (value.get key) = true := by
  obtain ⟨found,visible⟩ := (required_string_ok _).mp read
  have got := get_of_get? found
  exact ⟨got,by rw [got]; exact filled_iff.mpr ⟨s,rfl,visible⟩⟩

private theorem unless_none {condition : Bool} {reason : String} {rest : Option String} :
    (if (!condition) = true then some reason else rest) = none ↔ condition = true ∧ rest = none := by
  cases condition <;> simp

theorem refusal_none {context : GateContext} {rule exception : Dict} :
    refusal exception context.gate rule context.subject_id context.subject_revision = none ↔
      Reached context rule exception := by
  unfold refusal
  simp only [unless_none,Bool.and_eq_true,List.all_eq_true]
  constructor
  · rintro ⟨waivable,complete,⟨gate,check⟩,⟨subject,revision⟩,authority,_⟩
    exact ⟨waivable,complete,gate,check,subject,revision,authority⟩
  · intro reached
    exact ⟨reached.waivable,reached.complete,⟨reached.gate,reached.check⟩,⟨reached.subject,reached.revision⟩,
      reached.authority,trivial⟩

/-- A verdict on an exception is positive exactly when the exception excuses. -/
theorem valid_exception_ok {context : GateContext} {rule exception : Dict} {valid : Bool} {reason : String}
    (ran : valid_exception exception context.gate rule context.subject_id context.subject_revision
      context.evaluation_time = .ok (valid,reason)) : valid = true ↔ Excuses context rule exception := by
  unfold valid_exception at ran
  cases refused : refusal exception context.gate rule context.subject_id context.subject_revision with
  | some why =>
    simp only [refused] at ran
    cases ran
    constructor
    · intro impossible; cases impossible
    · intro excuses
      rw [refusal_none.mpr excuses.toReached] at refused
      cases refused
  | none =>
    simp only [refused] at ran
    obtain ⟨grantor,granted,ran⟩ := bind_ok_iff.mp ran
    obtain ⟨rationale,explained,ran⟩ := bind_ok_iff.mp ran
    obtain ⟨expires,parsed,ran⟩ := bind_ok_iff.mp ran
    by_cases expired : expires < context.evaluation_time
    · rw [if_pos expired] at ran
      cases ran
      constructor
      · intro impossible; cases impossible
      · intro excuses
        obtain ⟨t,other,live⟩ := excuses.unexpired
        rw [parsed] at other
        cases other
        exact absurd live (not_le.mpr expired)
    · rw [if_neg expired] at ran
      cases ran
      refine ⟨fun _ => ⟨refusal_none.mp refused,?_,?_,expires,parsed,not_lt.mp expired⟩,fun _ => rfl⟩
      · exact (required_string_filled granted).2
      · exact (required_string_filled explained).2

/-! ### One check -/

/-- The classes, told by what the check added to the evaluation. -/
structure Classified (context : GateContext) (rule : Dict) (finding : Finding) : Prop where
  failed : finding.failures ≠ [] ↔ Failed context rule
  unresolved : finding.unresolved ≠ [] ↔ Unresolved context rule
  excused : finding.accepted_exceptions ≠ [] ↔ Excused context rule
  exclusive : ¬ (Clean context rule ∧ (Excused context rule ∨ Failed context rule ∨ Unresolved context rule)) ∧
    ¬ (Excused context rule ∧ (Failed context rule ∨ Unresolved context rule)) ∧
    ¬ (Failed context rule ∧ Unresolved context rule)

/-- Without an admissible assessment a check is unresolved and nothing else. -/
private theorem classified_inadmissible {context : GateContext} {rule : Dict} {finding : Finding}
    (none : ∀ assessment, ¬ Admissible context rule assessment) (failures : finding.failures = [])
    (unresolved : finding.unresolved = [check_id rule]) (accepted : finding.accepted_exceptions = []) :
    Classified context rule finding := by
  have unexcused : ¬ Excused context rule := fun ⟨a,_,admissible,_⟩ => none a admissible
  have unfailed : ¬ Failed context rule := fun ⟨⟨a,admissible,_⟩,_⟩ => none a admissible
  have unclean : ¬ Clean context rule := fun ⟨a,admissible,_⟩ => none a admissible
  have open_check : Unresolved context rule := .inr (.inl none)
  constructor
  · simp [failures,unfailed]
  · simp [unresolved,open_check]
  · simp [accepted,unexcused]
  · tauto

/-- With one the class is decided by its status and by the exception. -/
private theorem classified_admissible {context : GateContext} {rule : Dict} {finding : Finding}
    {assessment : CheckAssessment} (admissible : Admissible context rule assessment)
    (failures : finding.failures ≠ [] ↔ assessment.declared_status = "failed" ∧ ¬ Excused context rule)
    (unresolved : finding.unresolved ≠ [] ↔
      (assessment.declared_status ≠ "passed" ∧ assessment.declared_status ≠ "failed") ∧ ¬ Excused context rule)
    (accepted : finding.accepted_exceptions ≠ [] ↔ Excused context rule) : Classified context rule finding := by
  have clean_iff : Clean context rule ↔ assessment.declared_status = "passed" := by
    constructor
    · rintro ⟨other,otherAdmissible,passed⟩
      rw [admissible_unique admissible otherAdmissible]
      exact passed
    · intro passed; exact ⟨assessment,admissible,passed⟩
  have failed_iff : Failed context rule ↔ assessment.declared_status = "failed" ∧ ¬ Excused context rule := by
    constructor
    · rintro ⟨⟨other,otherAdmissible,failed⟩,unexcused⟩
      rw [admissible_unique admissible otherAdmissible]
      exact ⟨failed,unexcused⟩
    · rintro ⟨failed,unexcused⟩; exact ⟨⟨assessment,admissible,failed⟩,unexcused⟩
  have unresolved_iff : Unresolved context rule ↔
      (assessment.declared_status ≠ "passed" ∧ assessment.declared_status ≠ "failed") ∧ ¬ Excused context rule := by
    constructor
    · rintro (unconsidered | inadmissible | ⟨⟨other,otherAdmissible,status⟩,unexcused⟩)
      · obtain ⟨result,considered,_⟩ := admissible
        exact absurd considered (unconsidered result)
      · exact absurd admissible (inadmissible assessment)
      · rw [admissible_unique admissible otherAdmissible]
        exact ⟨status,unexcused⟩
    · rintro ⟨status,unexcused⟩; exact .inr (.inr ⟨⟨assessment,admissible,status⟩,unexcused⟩)
  have excused_unpassed : Excused context rule → assessment.declared_status ≠ "passed" := by
    rintro ⟨other,_,otherAdmissible,unpassed,_⟩
    rw [admissible_unique admissible otherAdmissible]
    exact unpassed
  have apart : assessment.declared_status = "passed" → assessment.declared_status ≠ "failed" := by
    intro passed failed
    rw [passed] at failed
    exact absurd failed (by decide)
  constructor
  · rw [failures,failed_iff]
  · rw [unresolved,unresolved_iff]
  · exact accepted
  · rw [clean_iff,failed_iff,unresolved_iff]
    refine ⟨?_,?_,?_⟩
    · rintro ⟨passed,excused | ⟨failed,_⟩ | ⟨⟨unpassed,_⟩,_⟩⟩
      · exact excused_unpassed excused passed
      · exact apart passed failed
      · exact unpassed passed
    · rintro ⟨excused,⟨_,unexcused⟩ | ⟨_,unexcused⟩⟩
      · exact unexcused excused
      · exact unexcused excused
    · rintro ⟨⟨failed,_⟩,⟨_,unfailed⟩,_⟩; exact unfailed failed

theorem unexcused_lists (rule : Dict) (status : String) (reasons : List String) :
    ((unexcused rule status reasons).failures ≠ [] ↔ status = "failed") ∧
    ((unexcused rule status reasons).unresolved ≠ [] ↔ status ≠ "failed") ∧
    (unexcused rule status reasons).accepted_exceptions = [] ∧ (unexcused rule status reasons).invalid = [] ∧
    (unexcused rule status reasons).missing = [] := by
  unfold unexcused
  by_cases failed : status = "failed" <;> simp [failed]

private theorem classified_exception {context : GateContext} {rule : Dict} {finding : Finding}
    {assessment : CheckAssessment} (admissible : Admissible context rule assessment)
    (unpassed : assessment.declared_status ≠ "passed")
    (ran : examine_exception context rule assessment.declared_status = .ok finding) :
    Classified context rule finding := by
  unfold examine_exception at ran
  cases found : context.exception_by_check.find (check_id rule) with
  | none =>
    rw [found] at ran
    cases ran
    have unexcused : ¬ Excused context rule := by
      rintro ⟨_,exception,_,_,present,_⟩
      rw [found] at present
      cases present
    obtain ⟨failures,unresolved,accepted,_⟩ := unexcused_lists rule assessment.declared_status []
    refine classified_admissible admissible ?_ ?_ ?_
    · rw [failures]; tauto
    · rw [unresolved]; tauto
    · simp [accepted,unexcused]
  | some exception =>
    rw [found] at ran
    obtain ⟨⟨valid,reason⟩,verdict,ran⟩ := bind_ok_iff.mp ran
    have excused_iff : Excused context rule ↔ valid = true := by
      rw [valid_exception_ok verdict]
      constructor
      · rintro ⟨_,other,_,_,present,excuses⟩
        rw [found] at present
        cases present
        exact excuses
      · intro excuses; exact ⟨assessment,exception,admissible,unpassed,found,excuses⟩
    cases valid with
    | true =>
      cases ran
      have excused := excused_iff.mpr rfl
      refine classified_admissible admissible ?_ ?_ ?_
      · simp [excused]
      · simp [excused]
      · simp [excused]
    | false =>
      cases ran
      have unexcused : ¬ Excused context rule := fun excused => by cases excused_iff.mp excused
      obtain ⟨failures,unresolved,accepted,_⟩ := unexcused_lists rule assessment.declared_status
        ["Check " ++ check_id rule ++ " exception rejected: " ++ reason ++ "."]
      refine classified_admissible admissible ?_ ?_ ?_
      · rw [failures]; tauto
      · rw [unresolved]; tauto
      · simp [accepted,unexcused]

/-- The check that a pass of the loop examined has the class its finding tells. -/
theorem examine_classified {context : GateContext} {rule : Dict} {finding : Finding}
    (ran : examine context rule = .ok finding) : Classified context rule finding := by
  unfold examine at ran
  cases found : context.results_by_id.find (check_id rule) with
  | none =>
    simp only [found] at ran
    cases ran
    refine classified_inadmissible ?_ rfl rfl rfl
    rintro _ ⟨result,considered,_⟩
    rw [considered.found] at found
    cases found
  | some result =>
    simp only [found] at ran
    have only : ∀ other, Considered context rule other → other = result := by
      intro other considered
      exact Option.some.inj (considered.found.symm.trans found)
    by_cases bound : misbound context result = true
    · rw [if_pos bound] at ran
      cases ran
      refine classified_inadmissible ?_ rfl rfl rfl
      rintro _ ⟨other,considered,_⟩
      have named := considered.bound
      rw [only other considered,bound] at named
      cases named
    · rw [if_neg bound] at ran
      obtain ⟨written,read,ran⟩ := bind_ok_iff.mp ran
      obtain ⟨time,parsed,ran⟩ := bind_ok_iff.mp ran
      rw [← (required_string_filled read).1] at parsed
      by_cases late : context.evaluation_time < time
      · rw [if_pos late] at ran
        cases ran
        refine classified_inadmissible ?_ rfl rfl rfl
        rintro _ ⟨other,considered,_⟩
        obtain ⟨t,timed,early⟩ := considered.timely
        rw [only other considered,parsed] at timed
        cases timed
        exact absurd early (not_le.mpr late)
      · rw [if_neg late] at ran
        obtain ⟨assessment,assessed,ran⟩ := bind_ok_iff.mp ran
        have considered : Considered context rule result :=
          ⟨found,by simpa using bound,time,parsed,not_lt.mp late⟩
        by_cases admitted : assessment.admissible = true
        · rw [if_neg (by simp [admitted])] at ran
          have admissible : Admissible context rule assessment := ⟨result,considered,assessed,admitted⟩
          by_cases passed : assessment.declared_status = "passed"
          · rw [if_pos passed] at ran
            cases ran
            have unexcused : ¬ Excused context rule := by
              rintro ⟨other,_,otherAdmissible,unpassed,_⟩
              rw [admissible_unique admissible otherAdmissible] at passed
              exact unpassed passed
            refine classified_admissible admissible ?_ ?_ ?_
            · simp [passed]
            · simp [passed]
            · simp [unexcused]
          · rw [if_neg passed] at ran
            exact classified_exception admissible passed ran
        · rw [if_pos (by simp [admitted])] at ran
          cases ran
          refine classified_inadmissible ?_ rfl rfl rfl
          rintro other ⟨otherResult,otherConsidered,otherAssessed,otherAdmitted⟩
          rw [only otherResult otherConsidered,assessed] at otherAssessed
          cases otherAssessed
          exact admitted otherAdmitted

/-! ### The rules of a valid gate -/

structure ValidRule (check_library rule : Dict) : Prop where
  id : rule.get "checkId" = .str (check_id rule)
  contract : ∃ contract, check_library.get (check_id rule) = .obj contract ∧ validate_check_contract contract = .ok ()
  waivable : (rule.get "waivable").isBool = true
  hard : ¬ ((rule.get "hardControl").isTrue = true ∧ (rule.get "waivable").isTrue = true)

theorem validate_check_rule_ok {check_library : Dict} {seen next : List String} {rule : Json}
    (ran : validate_check_rule check_library seen rule = .ok next) :
    ∃ fields, rule = .obj fields ∧ ValidRule check_library fields ∧ check_id fields ∉ seen ∧
      next = seen ++ [check_id fields] := by
  unfold validate_check_rule at ran
  cases shape : rule.dict? with
  | none => simp [shape,gate_error] at ran
  | some fields =>
    simp only [shape] at ran
    obtain ⟨id,read,ran⟩ := bind_ok_iff.mp ran
    have named := (required_string_filled read).1
    have same : check_id fields = id := by unfold check_id text; rw [named]; rfl
    obtain ⟨_,fresh,ran⟩ := bind_ok_iff.mp ran
    cases library : Dict.get? id check_library with
    | none => simp [library,gate_error] at ran
    | some contract =>
      simp only [library] at ran
      simp only [bind_ok_iff,as_dict_ok,EvidenceGates.reject,reject_if_ok,pure_ok_iff] at ran
      obtain ⟨contract,rfl,_,valid,_,_,_,_,_,_,_,_,_,_,_,_,_,boolean,_,soft,rfl⟩ := ran
      refine ⟨fields,dict?_eq_some.mp shape,⟨?_,⟨contract,?_,valid⟩,by simpa using boolean,?_⟩,?_,by rw [same]⟩
      · rw [same]; exact named
      · rw [same]; exact get_of_get? library
      · rintro ⟨hard,waivable⟩
        rw [hard,waivable] at soft
        cases soft
      · rw [same]; simpa [EvidenceGates.reject] using fresh

/-- The rules of a valid gate are valid and name different checks. -/
theorem validate_gate_contract_rules {gate check_library : Dict}
    (valid : validate_gate_contract gate check_library = .ok ()) :
    (∀ rule ∈ check_rules gate, ValidRule check_library rule) ∧ ((check_rules gate).map check_id).Nodup := by
  unfold validate_gate_contract at valid
  obtain ⟨_,_,valid⟩ := bind_ok_iff.mp valid
  obtain ⟨_,_,valid⟩ := bind_ok_iff.mp valid
  obtain ⟨_,_,valid⟩ := bind_ok_iff.mp valid
  cases authorities : strings? (gate.get "acceptedExceptionAuthorities") with
  | none => simp [authorities,gate_error] at valid
  | some accepted =>
    simp only [authorities] at valid
    obtain ⟨_,_,valid⟩ := bind_ok_iff.mp valid
    cases listed : (gate.get "checkRules").list? with
    | none => simp [listed,gate_error] at valid
    | some rules =>
      simp only [listed] at valid
      obtain ⟨_,_,valid⟩ := bind_ok_iff.mp valid
      obtain ⟨seen,looped,_⟩ := bind_ok_iff.mp valid
      have rulesOf : check_rules gate = rules.filterMap Json.dict? := by
        unfold check_rules records items; rw [listed]; rfl
      rw [rulesOf]
      have kept := foldlM_invariant
        (fun done seen => (∀ rule ∈ done.filterMap Json.dict?, ValidRule check_library rule) ∧
          (done.filterMap Json.dict?).map check_id = seen ∧ seen.Nodup) ?_ (by simp) looped
      · exact ⟨kept.1,by rw [kept.2.1]; exact kept.2.2⟩
      · rintro done state item next ⟨all,ids,nodup⟩ executed
        obtain ⟨fields,rfl,fine,fresh,rfl⟩ := validate_check_rule_ok executed
        refine ⟨?_,?_,?_⟩
        · intro rule member
          simp only [List.filterMap_append,List.mem_append] at member
          rcases member with early | last
          · exact all rule early
          · have same : rule = fields := by simpa [Json.dict?] using last
            exact same ▸ fine
        · simp [List.filterMap_append,ids,Json.dict?]
        · exact List.Nodup.append nodup (List.nodup_singleton _) (by simpa using fresh)

theorem selected_is_rule {gate facts rule : Dict} (member : rule ∈ selected_rules gate facts) :
    rule ∈ check_rules gate :=
  (List.mem_filter.mp member).1

/-! ### The outcome -/

theorem foldl_append {α : Type} (list : Finding → List α)
    (additive : ∀ a b, list (Finding.append a b) = list a ++ list b) (findings : List Finding) (start : Finding) :
    list (findings.foldl Finding.append start) = list start ++ findings.flatMap list := by
  induction findings generalizing start with
  | nil => simp
  | cons finding rest ih => simp [ih,additive,List.flatMap_cons]

/-- A list of the evaluation is not empty exactly when some check added to it. -/
private theorem total_nonempty {α : Type} (list : Finding → List α)
    (additive : ∀ a b, list (Finding.append a b) = list a ++ list b) (fresh : list {} = [])
    {context : GateContext} {rules : List Dict} {findings : List Finding}
    (examined : List.Forall₂ (fun rule finding => examine context rule = .ok finding) rules findings)
    {holds : Dict → Prop} (told : ∀ rule finding, examine context rule = .ok finding →
      (list finding ≠ [] ↔ holds rule)) :
    list (findings.foldl Finding.append {}) ≠ [] ↔ ∃ rule ∈ rules, holds rule := by
  rw [foldl_append list additive,fresh,List.nil_append]
  induction examined with
  | nil => simp
  | @cons rule finding rules findings ran _ ih =>
    have here := told rule finding ran
    rw [List.flatMap_cons,Ne,List.append_eq_nil_iff,not_and_or]
    simp only [List.exists_mem_cons_iff]
    exact or_congr here ih

theorem examined_each {context : GateContext} {rules : List Dict} {findings : List Finding}
    (examined : List.Forall₂ (fun rule finding => examine context rule = .ok finding) rules findings) {rule : Dict}
    (member : rule ∈ rules) : ∃ finding ∈ findings, examine context rule = .ok finding := by
  induction examined with
  | nil => cases member
  | cons ran _ ih =>
    rcases List.mem_cons.mp member with rfl | later
    · exact ⟨_,List.mem_cons_self,ran⟩
    · obtain ⟨finding,found,executed⟩ := ih later
      exact ⟨finding,List.mem_cons_of_mem _ found,executed⟩

theorem gate_outcome_iff (found : Finding) :
    (gate_outcome found = .FAILED ↔ found.failures ≠ []) ∧
    (gate_outcome found = .INCONCLUSIVE ↔ ¬ found.failures ≠ [] ∧ found.unresolved ≠ []) ∧
    (gate_outcome found = .PASSED_WITH_EXCEPTION ↔
      ¬ found.failures ≠ [] ∧ ¬ found.unresolved ≠ [] ∧ found.accepted_exceptions ≠ []) ∧
    (gate_outcome found = .PASSED ↔
      ¬ found.failures ≠ [] ∧ ¬ found.unresolved ≠ [] ∧ ¬ found.accepted_exceptions ≠ []) := by
  unfold gate_outcome
  cases found.failures with
  | cons => simp
  | nil =>
    cases found.unresolved with
    | cons => simp
    | nil => cases found.accepted_exceptions <;> simp

theorem promotes_iff (outcome : GateOutcome) :
    promotes outcome = true ↔ outcome = .PASSED_WITH_EXCEPTION ∨ outcome = .PASSED := by
  cases outcome <;> decide

/-- Every check has a class. -/
theorem class_exists (context : GateContext) (rule : Dict) :
    Clean context rule ∨ Excused context rule ∨ Failed context rule ∨ Unresolved context rule := by
  by_cases assessed : ∃ assessment, Admissible context rule assessment
  · obtain ⟨assessment,admissible⟩ := assessed
    by_cases passed : assessment.declared_status = "passed"
    · exact .inl ⟨assessment,admissible,passed⟩
    by_cases excused : Excused context rule
    · exact .inr (.inl excused)
    by_cases failed : assessment.declared_status = "failed"
    · exact .inr (.inr (.inl ⟨⟨assessment,admissible,failed⟩,excused⟩))
    · exact .inr (.inr (.inr (.inr (.inr ⟨⟨assessment,admissible,passed,failed⟩,excused⟩))))
  · exact .inr (.inr (.inr (.inr (.inl (not_exists.mp assessed)))))

section
variable {gate check_library facts : Dict} {check_results evidence_records exceptions : List Json}
  {subject_id subject_revision evaluated_at : Json}

/-- The outcome of an evaluation that returned, read off the classes of the
    selected checks. -/
theorem gate_outcome_spec {evaluation : GateEvaluation}
    (returned : evaluate_gate gate check_library check_results evidence_records facts subject_id subject_revision
      evaluated_at exceptions = .ok evaluation) :
    ∃ context, gate_context gate check_library check_results evidence_records subject_id subject_revision evaluated_at
        exceptions = .ok context ∧
      (evaluation.outcome = .FAILED ↔ ∃ rule ∈ selected_rules gate facts, Failed context rule) ∧
      (evaluation.outcome = .INCONCLUSIVE ↔ (¬ ∃ rule ∈ selected_rules gate facts, Failed context rule) ∧
        ∃ rule ∈ selected_rules gate facts, Unresolved context rule) ∧
      (evaluation.outcome = .PASSED_WITH_EXCEPTION ↔ (¬ ∃ rule ∈ selected_rules gate facts, Failed context rule) ∧
        (¬ ∃ rule ∈ selected_rules gate facts, Unresolved context rule) ∧
        ∃ rule ∈ selected_rules gate facts, Excused context rule) ∧
      (evaluation.outcome = .PASSED ↔ ∀ rule ∈ selected_rules gate facts, Clean context rule) ∧
      (evaluation.promotable = true ↔ evaluation.outcome = .PASSED_WITH_EXCEPTION ∨ evaluation.outcome = .PASSED) ∧
      (∀ rule ∈ selected_rules gate facts, Excused context rule →
        (∃ result assessment, Considered context rule result ∧ Admissible context rule assessment) ∧
        (rule.get "hardControl").isTrue = false) := by
  obtain ⟨context,findings,prepared,examined,rfl⟩ := evaluate_gate_ok.mp returned
  have total := gate_context_ok prepared
  have failed := total_nonempty Finding.failures (fun _ _ => rfl) rfl examined
    (fun _ _ ran => (examine_classified ran).failed)
  have unresolved := total_nonempty Finding.unresolved (fun _ _ => rfl) rfl examined
    (fun _ _ ran => (examine_classified ran).unresolved)
  have excused := total_nonempty Finding.accepted_exceptions (fun _ _ => rfl) rfl examined
    (fun _ _ ran => (examine_classified ran).excused)
  have clean_iff : ∀ rule ∈ selected_rules gate facts, Clean context rule ↔
      ¬ Failed context rule ∧ ¬ Unresolved context rule ∧ ¬ Excused context rule := by
    intro rule member
    obtain ⟨finding,_,ran⟩ := examined_each examined member
    have exclusive := (examine_classified ran).exclusive
    have some_class := class_exists context rule
    constructor
    · intro clean
      exact ⟨fun failed => exclusive.1 ⟨clean,.inr (.inl failed)⟩,
        fun open_check => exclusive.1 ⟨clean,.inr (.inr open_check)⟩,
        fun excuse => exclusive.1 ⟨clean,.inl excuse⟩⟩
    · rintro ⟨unfailed,settled,unexcused⟩
      rcases some_class with clean | excuse | fails | open_check
      · exact clean
      · exact absurd excuse unexcused
      · exact absurd fails unfailed
      · exact absurd open_check settled
  obtain ⟨isFailed,isInconclusive,isExcepted,isPassed⟩ := gate_outcome_iff (findings.foldl Finding.append {})
  rw [failed,unresolved] at isInconclusive
  rw [failed,unresolved,excused] at isExcepted isPassed
  refine ⟨context,prepared,isFailed.trans failed,isInconclusive,isExcepted,?_,promotes_iff _,?_⟩
  · refine isPassed.trans ⟨?_,?_⟩
    · rintro ⟨noFailed,noUnresolved,noExcused⟩ rule member
      exact (clean_iff rule member).mpr ⟨fun fails => noFailed ⟨rule,member,fails⟩,
        fun open_check => noUnresolved ⟨rule,member,open_check⟩,fun excuse => noExcused ⟨rule,member,excuse⟩⟩
    · intro all
      refine ⟨?_,?_,?_⟩
      · rintro ⟨rule,member,fails⟩; exact ((clean_iff rule member).mp (all rule member)).1 fails
      · rintro ⟨rule,member,open_check⟩; exact ((clean_iff rule member).mp (all rule member)).2.1 open_check
      · rintro ⟨rule,member,excuse⟩; exact ((clean_iff rule member).mp (all rule member)).2.2 excuse
  · rintro rule member ⟨assessment,exception,admissible,_,_,excuses⟩
    obtain ⟨result,considered,_⟩ := id admissible
    refine ⟨⟨result,assessment,considered,admissible⟩,?_⟩
    have valid := (validate_gate_contract_rules total.valid).1 rule (selected_is_rule member)
    -- A waivable rule is not a hard control: the contract would be invalid.
    have waivable : (rule.get "waivable").isTrue = true := by
      have truthy := excuses.waivable
      have boolean := valid.waivable
      cases flag : rule.get "waivable" <;> rw [flag] at truthy boolean <;>
        simp_all [Json.isBool,Json.bool?,Json.truthy,Json.isTrue]
    cases hard : (rule.get "hardControl").isTrue with
    | false => rfl
    | true => exact absurd ⟨hard,waivable⟩ valid.hard

end

/-! ### Freshness -/

/-- The fields that were read, and where from. -/
theorem result_fields_ok {result contract : Dict} {fields : ResultFields}
    (ran : result_fields result contract = .ok fields) :
    fields.status = text result "status" ∧
      EvidenceGates.parse_time (result.get "evaluatedAt") "evaluatedAt" = .ok fields.evaluated_at ∧
      strings? (result.get "evidenceIds") = some fields.evidence_ids := by
  unfold result_fields at ran
  obtain ⟨_,_,ran⟩ := bind_ok_iff.mp ran
  obtain ⟨_,_,ran⟩ := bind_ok_iff.mp ran
  obtain ⟨_,_,ran⟩ := bind_ok_iff.mp ran
  obtain ⟨_,_,ran⟩ := bind_ok_iff.mp ran
  obtain ⟨_,_,ran⟩ := bind_ok_iff.mp ran
  obtain ⟨_,_,ran⟩ := bind_ok_iff.mp ran
  obtain ⟨written,read,ran⟩ := bind_ok_iff.mp ran
  obtain ⟨time,parsed,ran⟩ := bind_ok_iff.mp ran
  cases evaluator : (result.get "evaluator").dict? with
  | none => simp [evaluator,gate_error] at ran
  | some found =>
    simp only [evaluator] at ran
    obtain ⟨_,_,ran⟩ := bind_ok_iff.mp ran
    obtain ⟨_,_,ran⟩ := bind_ok_iff.mp ran
    cases cited : strings? (result.get "evidenceIds") with
    | none => simp [cited,gate_error] at ran
    | some ids =>
      simp only [cited] at ran
      obtain ⟨_,_,ran⟩ := bind_ok_iff.mp ran
      rw [pure_ok_iff] at ran
      subst ran
      exact ⟨rfl,by rw [(required_string_filled read).1]; exact parsed,rfl⟩

/-- An admissible assessment found nothing wrong with any cited record. -/
theorem assess_check_result_ok {result contract : Dict} {table : Table} {assessment : CheckAssessment}
    (ran : assess_check_result result contract table = .ok assessment) :
    ∃ fields, result_fields result contract = .ok fields ∧ assessment.declared_status = fields.status ∧
      (assessment.admissible = true → ∀ id ∈ fields.evidence_ids, evidence_reasons fields contract table id =
        .ok []) := by
  unfold assess_check_result at ran
  obtain ⟨_,_,ran⟩ := bind_ok_iff.mp ran
  obtain ⟨fields,read,ran⟩ := bind_ok_iff.mp ran
  obtain ⟨cited,examined,ran⟩ := bind_ok_iff.mp ran
  rw [pure_ok_iff] at ran
  subst ran
  refine ⟨fields,read,rfl,?_⟩
  intro admissible id member
  rw [List.isEmpty_iff,List.append_eq_nil_iff,List.flatten_eq_nil_iff] at admissible
  have each : ∀ (ids : List String) (found : List (List String)),
      List.Forall₂ (fun id reasons => evidence_reasons fields contract table id = .ok reasons) ids found →
      (∀ reasons ∈ found, reasons = []) → id ∈ ids → evidence_reasons fields contract table id = .ok [] := by
    intro ids found related
    induction related with
    | nil => intro _ inside; cases inside
    | @cons first reasons ids found here _ ih =>
      intro nothing inside
      rcases List.mem_cons.mp inside with rfl | later
      · rw [here,nothing reasons (by simp)]
      · exact ih (fun other otherMember => nothing other (by simp [otherMember])) later
  exact each _ _ (mapM_ok_iff.mp examined) admissible.2 member

theorem when_true_nil {condition : Bool} {reason : String} : when_true condition reason = [] ↔ condition = false := by
  cases condition <;> simp [when_true]

/-- A cited record with nothing wrong was collected before the evaluation and
    within the allowed age. -/
theorem evidence_reasons_nil {fields : ResultFields} {contract : Dict} {table : Table} {id : String} {record : Dict}
    (found : table.find id = some record) (fine : evidence_reasons fields contract table id = .ok []) :
    ∃ collected, EvidenceGates.parse_time (record.get "collectedAt") "collectedAt" = .ok collected ∧
      collected ≤ fields.evaluated_at ∧ total_seconds (fields.evaluated_at - collected) ≤ max_age contract := by
  unfold evidence_reasons at fine
  simp only [found] at fine
  cases valid : validate_evidence record with
  | error error =>
    rw [valid] at fine
    cases error with
    | contract cls message => cases cls <;> simp at fine
    | _ => simp at fine
  | ok _ =>
    simp only [valid] at fine
    obtain ⟨collected,parsed,fine⟩ := bind_ok_iff.mp fine
    rw [pure_ok_iff,List.append_eq_nil_iff] at fine
    have aged := fine.2
    by_cases early : total_seconds (fields.evaluated_at - collected) < 0
    · rw [if_pos early] at aged
      cases aged
    · rw [if_neg early,when_true_nil,decide_eq_false_iff_not] at aged
      refine ⟨collected,parsed,?_,not_lt.mp aged⟩
      rw [total_seconds_neg_iff] at early
      exact Int.le_of_sub_nonneg (not_lt.mp early)

section
variable {gate check_library facts : Dict} {check_results evidence_records exceptions : List Json}
  {subject_id subject_revision evaluated_at : Json}

/-- Every record that a selected check of a promotable gate cites, passed or
    excused, was collected no later than the check was evaluated and within the
    allowed age of that moment, and the check was evaluated no later than the
    gate. -/
theorem promotable_evidence_fresh {evaluation : GateEvaluation}
    (returned : evaluate_gate gate check_library check_results evidence_records facts subject_id subject_revision
      evaluated_at exceptions = .ok evaluation)
    (promotable : evaluation.promotable = true) {rule result contract record : Dict}
    (member : rule ∈ selected_rules gate facts) (supplied : .obj result ∈ check_results)
    (about : result.get "checkId" = .str (check_id rule))
    (library : check_library.get (check_id rule) = .obj contract) (recorded : .obj record ∈ evidence_records)
    (cited : record.get "id" ∈ items result "evidenceIds") :
    ∃ gateTime evaluated collected, EvidenceGates.parse_time evaluated_at "evaluatedAt" = .ok gateTime ∧
      EvidenceGates.parse_time (result.get "evaluatedAt") "evaluatedAt" = .ok evaluated ∧
      EvidenceGates.parse_time (record.get "collectedAt") "collectedAt" = .ok collected ∧
      collected ≤ evaluated ∧ evaluated ≤ gateTime ∧ total_seconds (evaluated - collected) ≤ max_age contract ∧
      (evaluated - collected < 2 ^ 33 * microsPerSecond →
        evaluated - collected ≤ max_age contract * microsPerSecond) := by
  obtain ⟨context,prepared,_,_,exceptedIff,passedIff,promotableIff,_⟩ := gate_outcome_spec returned
  have total := gate_context_ok prepared
  have judged : ∃ assessment, Admissible context rule assessment := by
    rcases promotableIff.mp promotable with excepted | clean
    · obtain ⟨noFailed,noUnresolved,_⟩ := exceptedIff.mp excepted
      rcases class_exists context rule with ⟨a,admissible,_⟩ | ⟨a,_,admissible,_⟩ | fails | open_check
      · exact ⟨a,admissible⟩
      · exact ⟨a,admissible⟩
      · exact absurd ⟨rule,member,fails⟩ noFailed
      · exact absurd ⟨rule,member,open_check⟩ noUnresolved
    · obtain ⟨a,admissible,_⟩ := passedIff.mp clean rule member
      exact ⟨a,admissible⟩
  obtain ⟨assessment,judgedResult,considered,assessed,admissible⟩ := judged
  have found : context.results_by_id.find (check_id rule) = some result :=
    (table_find_iff total.results.distinct).mpr ((total.results.entries _ _).mpr ⟨supplied,about.symm⟩)
  have same : judgedResult = result := Option.some.inj (considered.found.symm.trans found)
  subst same
  have contractIs : contract_of context rule = contract := by
    unfold contract_of
    rw [total.library,library]
    rfl
  rw [contractIs] at assessed
  obtain ⟨fields,read,_,fine⟩ := assess_check_result_ok assessed
  obtain ⟨_,evaluatedParsed,ids⟩ := result_fields_ok read
  obtain ⟨gateBound,timed,early⟩ := considered.timely
  rw [evaluatedParsed] at timed
  cases timed
  -- The cited id is a string, and the record is the one under it.
  have cites : items judgedResult "evidenceIds" = fields.evidence_ids.map Json.str := by
    unfold items
    rw [strings?_eq_some.mp ids]
    rfl
  rw [cites] at cited
  obtain ⟨id,idMember,idIs⟩ := List.mem_map.mp cited
  have recordFound : context.evidence_by_id.find id = some record :=
    (table_find_iff total.evidence.distinct).mpr ((total.evidence.entries _ _).mpr ⟨recorded,idIs⟩)
  obtain ⟨collected,collectedParsed,before,aged⟩ := evidence_reasons_nil recordFound (fine admissible id idMember)
  refine ⟨context.evaluation_time,fields.evaluated_at,collected,total.time,evaluatedParsed,collectedParsed,before,early,
    aged,?_⟩
  intro short
  exact (total_seconds_le_iff (Int.sub_nonneg.mpr before) short).mp aged

end

/-! ### A gate with one check -/

def sample_contract : Dict :=
  [("id",.str "CHK"),("version",.str "1"),("title",.str "Check"),("method",.str "deterministic"),
    ("acceptedEvidenceKinds",.arr [.str "metric"]),("minimumEvidence",.int 1),("maxAgeSeconds",.int 60),
    ("requiresDigest",.bool true),("requiresIndependentEvaluator",.bool false)]

def sample_rule : Dict := [("checkId",.str "CHK"),("requirement",.str "required"),("waivable",.bool true)]

def sample_gate : Dict :=
  [("id",.str "GATE"),("version",.str "1"),("title",.str "Gate"),("gateType",.str "package"),
    ("acceptedExceptionAuthorities",.arr [.str "owner"]),("checkRules",.arr [.obj sample_rule])]

def sample_evidence : Dict :=
  [("id",.str "EV"),("kind",.str "metric"),("subjectId",.str "WP"),("subjectRevision",.str "r1"),
    ("producerId",.str "p"),
    ("producerRole",.str "r"),("producerIndependenceGroup",.str "g"),("collectedAt",.str "2026-01-01T00:00:00Z"),
    ("locator",.str "l"),("sha256",.str "0000000000000000000000000000000000000000000000000000000000000000"),
    ("assertions",.arr [.str "a"])]

def sample_result (status : String) : Dict :=
  [("checkId",.str "CHK"),("checkVersion",.str "1"),("status",.str status),("subjectId",.str "WP"),
    ("subjectRevision",.str "r1"),("evaluatedAt",.str "2026-01-01T00:00:30Z"),
    ("evaluator",.obj [("id",.str "e"),("role",.str "r"),("independenceGroup",.str "h")]),
    ("subjectProducerIndependenceGroup",.str "g"),("evidenceIds",.arr [.str "EV"])]

/-- The sample check, evaluated by a gate an hour later. -/
def sample_evaluation (status : String) : Py GateEvaluation :=
  evaluate_gate sample_gate [("CHK",.obj sample_contract)] [.obj (sample_result status)] [.obj sample_evidence] []
    (.str "WP") (.str "r1") (.str "2026-01-01T01:00:00Z") []

theorem sample_promotes : (sample_evaluation "passed").map GateEvaluation.promotable = .ok true := by
  decide +kernel

theorem sample_selected : sample_rule ∈ selected_rules sample_gate [] := by
  simp [selected_rules,selected,check_rules,records,items,sample_gate,sample_rule,Dict.get,Dict.get?,Json.list?,
    Json.dict?]

theorem gate_outcome_sample :
    ∃ evaluation context, sample_evaluation "passed" = .ok evaluation ∧
      gate_context sample_gate [("CHK",.obj sample_contract)] [.obj (sample_result "passed")] [.obj sample_evidence]
        (.str "WP") (.str "r1") (.str "2026-01-01T01:00:00Z") [] = .ok context ∧
      (evaluation.outcome = .PASSED ↔ ∀ rule ∈ selected_rules sample_gate [], Clean context rule) := by
  obtain ⟨evaluation,returned,_⟩ := map_ok_iff.mp sample_promotes
  obtain ⟨context,prepared,_,_,_,passed,_⟩ := gate_outcome_spec returned
  exact ⟨evaluation,context,returned,prepared,passed⟩

theorem promotable_evidence_sample :
    ∃ gateTime evaluated collected, EvidenceGates.parse_time (.str "2026-01-01T01:00:00Z") "evaluatedAt" =
      .ok gateTime ∧
      EvidenceGates.parse_time ((sample_result "passed").get "evaluatedAt") "evaluatedAt" = .ok evaluated ∧
      EvidenceGates.parse_time (sample_evidence.get "collectedAt") "collectedAt" = .ok collected ∧
      collected ≤ evaluated ∧ evaluated ≤ gateTime ∧ total_seconds (evaluated - collected) ≤ max_age sample_contract ∧
      (evaluated - collected < 2 ^ 33 * microsPerSecond →
        evaluated - collected ≤ max_age sample_contract * microsPerSecond) := by
  obtain ⟨evaluation,returned,promotable⟩ := map_ok_iff.mp sample_promotes
  refine promotable_evidence_fresh returned promotable sample_selected (List.mem_singleton_self _) ?_ ?_
    (List.mem_singleton_self _) ?_
  · simp [sample_result,sample_rule,check_id,text,Dict.get,Dict.get?,Json.str?]
  · simp [sample_rule,check_id,text,Dict.get,Dict.get?,Json.str?]
  · simp [sample_result,sample_evidence,items,Dict.get,Dict.get?,Json.list?]

/-- The gate promotes on evidence that is an hour old by its own clock, sixty
    times the allowed age. -/
theorem promotes_on_old_evidence :
    (sample_evaluation "passed").map GateEvaluation.promotable = .ok true ∧
    EvidenceGates.parse_time (.str "2026-01-01T01:00:00Z") "evaluatedAt" = .ok 63902826000000000 ∧
    EvidenceGates.parse_time (sample_evidence.get "collectedAt") "collectedAt" = .ok 63902822400000000 ∧
    max_age sample_contract * microsPerSecond < 63902826000000000 - 63902822400000000 := by
  decide +kernel

end V3Aidlc.GateVerdicts
