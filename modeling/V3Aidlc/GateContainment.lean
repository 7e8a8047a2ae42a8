import V3Aidlc.GateVerdicts

/-!
Where malformed proof stops an evaluation. A record that fails its validation, a
result that cannot be read and an exception without an accountable text all raise
when the evaluation comes to them; everything that it does not come to is without
effect. An evaluation contains the malformed objects it was given exactly when it
comes to none of them (`contained_iff`).
-/
namespace V3Aidlc.GateContainment
open V3Aidlc.Values V3Aidlc.Loops V3Aidlc.Timestamps V3Aidlc.Contracts V3Aidlc.EvidenceGates V3Aidlc.GateVerdicts

/-- The inputs of `evaluate_gate`: the lists are of JSON objects. -/
structure GateInput where
  gate : Dict
  check_library : Dict
  check_results : List Dict
  evidence_records : List Dict
  facts : Dict
  subject_id : String
  subject_revision : String
  evaluated_at : String
  exceptions : List Dict

namespace GateInput

def evaluate (input : GateInput) : Py GateEvaluation :=
  evaluate_gate input.gate input.check_library (input.check_results.map .obj) (input.evidence_records.map .obj)
    input.facts (.str input.subject_id) (.str input.subject_revision) (.str input.evaluated_at)
    (input.exceptions.map .obj)

def context (input : GateInput) : Py GateContext :=
  gate_context input.gate input.check_library (input.check_results.map .obj) (input.evidence_records.map .obj)
    (.str input.subject_id) (.str input.subject_revision) (.str input.evaluated_at) (input.exceptions.map .obj)

def selected (input : GateInput) : List Dict := selected_rules input.gate input.facts

/-- What the evaluation finds for one check. -/
def finding (input : GateInput) (rule : Dict) : Py Finding := input.context >>= fun context => examine context rule

def contract (input : GateInput) (rule : Dict) : Dict := ((input.check_library.get (check_id rule)).dict?).getD []

end GateInput

/-- The records without those that carry the given value. -/
def others (key : String) (value : Json) (records : List Dict) : List Dict :=
  records.filter (fun record => !(record.get key).eq value)

/-- The values of the field are strings, no two the same. -/
def NamedApart (key : String) (records : List Dict) : Prop :=
  ∃ ids : List String, records.map (fun record => Dict.get record key) = ids.map Json.str ∧ ids.Nodup

/-- A valid gate contract and library, a readable gate time, and identifiers that
    are pairwise distinct strings. -/
structure Admitted (input : GateInput) (time : Instant) : Prop where
  contract : validate_gate_contract input.gate input.check_library = .ok ()
  time : EvidenceGates.parse_time (.str input.evaluated_at) "evaluatedAt" = .ok time
  evidence : NamedApart "id" input.evidence_records
  results : NamedApart "checkId" input.check_results
  exceptions : NamedApart "checkId" input.exceptions

/-! ### Malformed objects -/

def MalformedEvidence (record : Dict) : Prop := validate_evidence record ≠ .ok ()
/-- The shape of the result does not suit its check: another contract version, an
    unknown status, a missing or blank field. -/
def MalformedResult (contract result : Dict) : Prop := ∀ fields, result_fields result contract ≠ .ok fields

structure WellFormedException (exception : Dict) : Prop where
  texts : ∀ key ∈ EXCEPTION_FIELDS, (exception.get key).isStr = true
  grantor : filled (exception.get "grantedBy") = true
  rationale : filled (exception.get "rationale") = true
  expires : ∃ t, EvidenceGates.parse_time (exception.get "expiresAt") "expiresAt" = .ok t

/-- The check's result is malformed, or it cites a malformed record. -/
def Relies (input : GateInput) (rule result : Dict) : Prop :=
  MalformedResult (input.contract rule) result ∨
    ∃ record ∈ input.evidence_records, MalformedEvidence record ∧ record.get "id" ∈ items result "evidenceIds"

/-- Malformed proof is inconclusive and nothing more: the evaluation returns, a
    check that relies on a malformed result or record is invalid and unresolved, a
    malformed exception excuses nothing, and a check is found as it would be
    without any object that it does not rely on. -/
structure Contained (input : GateInput) : Prop where
  returns : ∃ evaluation, input.evaluate = .ok evaluation ∧
    ∀ rule ∈ input.selected, ∀ result ∈ input.check_results, result.get "checkId" = .str (check_id rule) →
      Relies input rule result → check_id rule ∈ evaluation.invalid_checks ∧ evaluation.promotable = false
  unresolved : ∀ rule ∈ input.selected, ∀ result ∈ input.check_results, result.get "checkId" = .str (check_id rule) →
    Relies input rule result → ∃ finding, input.finding rule = .ok finding ∧ finding.unresolved = [check_id rule]
  rejected : ∀ rule ∈ input.selected, ∀ exception ∈ input.exceptions,
    exception.get "checkId" = .str (check_id rule) → ¬ WellFormedException exception →
    ∃ finding, input.finding rule = .ok finding ∧ finding.accepted_exceptions = []
  result_local : ∀ result ∈ input.check_results, ∀ rule ∈ input.selected,
    result.get "checkId" ≠ .str (check_id rule) →
    GateInput.finding { input with check_results := others "checkId" (result.get "checkId") input.check_results } rule =
      input.finding rule
  exception_local : ∀ exception ∈ input.exceptions, ∀ rule ∈ input.selected,
    exception.get "checkId" ≠ .str (check_id rule) →
    GateInput.finding { input with exceptions := others "checkId" (exception.get "checkId") input.exceptions } rule =
      input.finding rule
  evidence_local : ∀ record ∈ input.evidence_records, ∀ rule ∈ input.selected,
    (∀ result ∈ input.check_results, result.get "checkId" = .str (check_id rule) →
      record.get "id" ∉ items result "evidenceIds") →
    GateInput.finding { input with evidence_records := others "id" (record.get "id") input.evidence_records } rule =
      input.finding rule

/-! ### What the evaluation comes to -/

/-- The result names the subject and revision of the gate. -/
def Bound (input : GateInput) (result : Dict) : Prop :=
  result.get "subjectId" = .str input.subject_id ∧ result.get "subjectRevision" = .str input.subject_revision

/-- A cited record suits the result: an accepted kind, the same subject and
    revision, and an age within the bound. -/
structure Fits (fields : ResultFields) (contract record : Dict) : Prop where
  kind : memList (record.get "kind") (items contract "acceptedEvidenceKinds") = true
  subject : record.get "subjectId" = .str fields.subject_id
  revision : record.get "subjectRevision" = .str fields.subject_revision
  age : ∃ collected, EvidenceGates.parse_time (record.get "collectedAt") "collectedAt" = .ok collected ∧
    collected ≤ fields.evaluated_at ∧ total_seconds (fields.evaluated_at - collected) ≤ max_age contract

/-- The result rests on enough records, each cited once and fitting, and where
    the contract asks for it on an independent evaluator. -/
structure Supported (fields : ResultFields) (contract : Dict) (evidence_records : List Dict) : Prop where
  enough : ((contract.get "minimumEvidence").int?).getD 0 ≤ fields.evidence_ids.length
  once : fields.evidence_ids.Nodup
  independent : (contract.get "requiresIndependentEvaluator").isTrue = true →
    fields.independence_group ≠ fields.subject_group
  cited : ∀ id ∈ fields.evidence_ids, ∃ record ∈ evidence_records, record.get "id" = .str id ∧
    Fits fields contract record

/-- The records under the values of a field. -/
def entries (key : String) (records : List Dict) : Table := records.map (fun record => (Dict.get record key,record))

/-- The inputs as an evaluation holds them. -/
def plain (input : GateInput) (time : Instant) : GateContext where
  gate := input.gate
  check_library := input.check_library
  subject_id := .str input.subject_id
  subject_revision := .str input.subject_revision
  evaluation_time := time
  evidence_by_id := entries "id" input.evidence_records
  results_by_id := entries "checkId" input.check_results
  exception_by_check := entries "checkId" input.exceptions

/-- No malformed object is in the way: every record is valid; a result about the
    subject tells its time and, unless it is later than the gate, can be read; an
    exception that such a supported, unpassed result comes to has its texts, its
    time and, while it is in force, its identifier. -/
structure Harmless (input : GateInput) (time : Instant) : Prop where
  evidence : ∀ record ∈ input.evidence_records, validate_evidence record = .ok ()
  results : ∀ rule ∈ input.selected, ∀ result ∈ input.check_results, result.get "checkId" = .str (check_id rule) →
    Bound input result → filled (result.get "evaluatedAt") = true ∧
      ∃ t, EvidenceGates.parse_time (result.get "evaluatedAt") "evaluatedAt" = .ok t ∧
        (t ≤ time → ∃ fields, result_fields result (input.contract rule) = .ok fields)
  exceptions : ∀ rule ∈ input.selected, ∀ result ∈ input.check_results, result.get "checkId" = .str (check_id rule) →
    Bound input result → ∀ fields, result_fields result (input.contract rule) = .ok fields →
    fields.evaluated_at ≤ time → fields.status ≠ "passed" →
    Supported fields (input.contract rule) input.evidence_records → ∀ exception ∈ input.exceptions,
    exception.get "checkId" = .str (check_id rule) → Reached (plain input time) rule exception →
      filled (exception.get "grantedBy") = true ∧ filled (exception.get "rationale") = true ∧
      ∃ t, EvidenceGates.parse_time (exception.get "expiresAt") "expiresAt" = .ok t ∧
        (time ≤ t → (exception.get "id").isStr = true)

/-! ### Tables of distinct records -/

theorem namedApart_iff {key : String} {records : List Dict} : NamedApart key records ↔
    (∀ record ∈ records, ∃ id, record.get key = .str id) ∧ (records.map (fun record => Dict.get record key)).Nodup := by
  constructor
  · rintro ⟨ids,same,nodup⟩
    refine ⟨?_,?_⟩
    · intro record member
      have listed : record.get key ∈ ids.map Json.str := by
        rw [← same]; exact List.mem_map_of_mem member
      obtain ⟨id,_,equal⟩ := List.mem_map.mp listed
      exact ⟨id,equal.symm⟩
    · rw [same]
      exact nodup.map (fun _ _ equal => Json.str.inj equal)
  · rintro ⟨strings,nodup⟩
    refine ⟨records.map (fun record => text record key),?_,?_⟩
    · rw [List.map_map]
      refine List.map_congr_left ?_
      intro record member
      obtain ⟨id,named⟩ := strings record member
      simp [text,named,Json.str?]
    · refine List.Nodup.of_map Json.str ?_
      rw [List.map_map]
      refine (List.map_congr_left ?_).symm ▸ nodup
      intro record member
      obtain ⟨id,named⟩ := strings record member
      simp [text,named,Json.str?]

theorem namedApart_sublist {key : String} {records fewer : List Dict} (apart : NamedApart key records)
    (sub : fewer.Sublist records) : NamedApart key fewer := by
  rw [namedApart_iff] at apart ⊢
  exact ⟨fun record member => apart.1 record (sub.subset member),apart.2.sublist (sub.map _)⟩

theorem entries_distinct {key : String} {records : List Dict} (apart : NamedApart key records) :
    Distinct (entries key records) := by
  obtain ⟨strings,nodup⟩ := namedApart_iff.mp apart
  unfold Distinct entries
  rw [List.pairwise_map]
  rw [List.Nodup,List.pairwise_map] at nodup
  refine nodup.imp_of_mem ?_
  intro a b aMember bMember differ
  obtain ⟨id,named⟩ := strings a aMember
  show (b.get key).eq (a.get key) = false
  rw [named,eq_str_right_false]
  intro same
  exact differ (by rw [named,same])

theorem entries_find {key : String} {records : List Dict} (apart : NamedApart key records) {id : String}
    {record : Dict} : (entries key records).find id = some record ↔ record ∈ records ∧ record.get key = .str id := by
  rw [table_find_iff (entries_distinct apart)]
  unfold entries
  simp only [List.mem_map,Prod.mk.injEq]
  constructor
  · rintro ⟨_,member,named,rfl⟩; exact ⟨member,named⟩
  · rintro ⟨member,named⟩; exact ⟨record,member,named,rfl⟩

/-- Records whose ids are distinct strings are indexed without an error. -/
theorem fold_entries {key duplicate : String} {step : Table → Json → Py Table} {records : List Dict}
    (apart : NamedApart key records)
    (stepped : ∀ table, ∀ record ∈ records, step table (.obj record) = index_by key duplicate table record) :
    (records.map Json.obj).foldlM step [] = .ok (entries key records) := by
  suffices general : ∀ (rest done : List Dict), done ++ rest = records →
      (rest.map Json.obj).foldlM step (entries key done) = .ok (entries key (done ++ rest)) by
    exact general records [] rfl
  intro rest
  induction rest with
  | nil => intro done _; simp [pure,Except.pure]
  | cons record rest ih =>
    intro done split
    have member : record ∈ records := by rw [← split]; simp
    have here : NamedApart key (done ++ [record]) := by
      refine namedApart_sublist apart ?_
      rw [← split]
      simp
    obtain ⟨strings,nodup⟩ := namedApart_iff.mp here
    obtain ⟨id,named⟩ := strings record (by simp)
    have fresh : memList (record.get key) ((entries key done).map Prod.fst) = false := by
      unfold memList entries
      rw [List.any_eq_false]
      intro other listed equal
      rw [named,eq_str_left] at equal
      rw [List.map_append,List.nodup_append] at nodup
      refine nodup.2.2 other ?_ (record.get key) (by simp) (by rw [equal,named])
      simpa using listed
    have added : index_by key duplicate (entries key done) record = .ok (entries key (done ++ [record])) := by
      refine index_by_ok.mpr ⟨by rw [named]; rfl,fresh,?_⟩
      simp [entries]
    rw [List.map_cons,List.foldlM_cons,stepped _ record member,added,ok_bind]
    have later := ih (done ++ [record]) (by rw [← split]; simp)
    simpa using later

section
variable {input : GateInput} {time : Instant}

/-- With valid records the evaluation reaches the checks. -/
theorem context_plain (admitted : Admitted input time)
    (valid : ∀ record ∈ input.evidence_records, validate_evidence record = .ok ()) :
    input.context = .ok (plain input time) := by
  have stepped : ∀ table, ∀ record ∈ input.evidence_records,
      index_evidence table (.obj record) = index_by "id" "Duplicate evidence ID: " table record := by
    intro table record member
    show (validate_evidence record >>= fun _ => _) = _
    rw [valid record member,ok_bind]
  have evidence : (input.evidence_records.map Json.obj).foldlM index_evidence [] =
      .ok (entries "id" input.evidence_records) := fold_entries admitted.evidence stepped
  have results : (input.check_results.map Json.obj).foldlM index_result [] =
      .ok (entries "checkId" input.check_results) := fold_entries admitted.results (fun _ _ _ => rfl)
  have exceptions : (input.exceptions.map Json.obj).foldlM index_exception [] =
      .ok (entries "checkId" input.exceptions) := fold_entries admitted.exceptions (fun _ _ _ => rfl)
  unfold GateInput.context gate_context
  rw [admitted.contract,ok_bind,admitted.time,ok_bind,evidence,ok_bind,results,ok_bind,exceptions,ok_bind]
  rfl

theorem evidence_of_context {context : GateContext} (reached : input.context = .ok context) :
    ∀ record ∈ input.evidence_records, validate_evidence record = .ok () := by
  intro record member
  exact (gate_context_ok reached).evidence.good record (List.mem_map_of_mem member)

/-! ### What an assessment needs -/

theorem validate_evidence_time {record : Dict} (valid : validate_evidence record = .ok ()) :
    ∃ collected, EvidenceGates.parse_time (record.get "collectedAt") "collectedAt" = .ok collected := by
  unfold validate_evidence at valid
  obtain ⟨_,_,valid⟩ := bind_ok_iff.mp valid
  obtain ⟨_,_,valid⟩ := bind_ok_iff.mp valid
  obtain ⟨_,_,valid⟩ := bind_ok_iff.mp valid
  obtain ⟨_,_,valid⟩ := bind_ok_iff.mp valid
  obtain ⟨collected,parsed,_⟩ := bind_ok_iff.mp valid
  exact ⟨collected,parsed⟩

/-- Against valid records the examination of a citation returns, with nothing to
    say exactly when the record is there and fits. -/
theorem evidence_reasons_total (apart : NamedApart "id" input.evidence_records)
    (valid : ∀ record ∈ input.evidence_records, validate_evidence record = .ok ()) (fields : ResultFields)
    (contract : Dict) (id : String) :
    ∃ reasons, evidence_reasons fields contract (entries "id" input.evidence_records) id = .ok reasons ∧
      (reasons = [] ↔ ∃ record ∈ input.evidence_records, record.get "id" = .str id ∧ Fits fields contract record) := by
  unfold evidence_reasons
  cases found : (entries "id" input.evidence_records).find id with
  | none =>
    refine ⟨_,rfl,?_⟩
    constructor
    · intro impossible; cases impossible
    · rintro ⟨record,member,named,_⟩
      rw [(entries_find apart).mpr ⟨member,named⟩] at found
      cases found
  | some record =>
    obtain ⟨member,named⟩ := (entries_find apart).mp found
    obtain ⟨collected,parsed⟩ := validate_evidence_time (valid record member)
    simp only [valid record member,parsed,ok_bind]
    refine ⟨_,rfl,?_⟩
    have only : (∃ other ∈ input.evidence_records, other.get "id" = .str id ∧ Fits fields contract other) ↔
        Fits fields contract record := by
      constructor
      · rintro ⟨other,otherMember,otherNamed,fits⟩
        rw [(entries_find apart).mpr ⟨otherMember,otherNamed⟩] at found
        cases found
        exact fits
      · intro fits; exact ⟨record,member,named,fits⟩
    rw [only]
    simp only [List.append_eq_nil_iff,when_true_nil,Bool.not_eq_false',eq_str_right]
    have aged : (if total_seconds (fields.evaluated_at - collected) < 0 then
          ["evidence " ++ id ++ " is dated after evaluation"]
        else when_true (decide ((max_age contract : ℚ) < total_seconds (fields.evaluated_at - collected)))
          ("evidence " ++ id ++ " is stale")) = [] ↔
        collected ≤ fields.evaluated_at ∧ total_seconds (fields.evaluated_at - collected) ≤ max_age contract := by
      by_cases early : total_seconds (fields.evaluated_at - collected) < 0
      · rw [if_pos early]
        rw [total_seconds_neg_iff] at early
        constructor
        · intro impossible; cases impossible
        · rintro ⟨before,_⟩; exact absurd (Int.sub_nonneg.mpr before) (not_le.mpr early)
      · rw [if_neg early,when_true_nil,decide_eq_false_iff_not,not_lt]
        rw [total_seconds_neg_iff,not_lt] at early
        exact ⟨fun young => ⟨Int.le_of_sub_nonneg early,young⟩,And.right⟩
    rw [aged]
    constructor
    · rintro ⟨⟨⟨kind,subject⟩,revision⟩,young⟩; exact ⟨kind,subject,revision,collected,parsed,young⟩
    · rintro ⟨kind,subject,revision,other,otherParsed,young⟩
      rw [parsed] at otherParsed
      cases otherParsed
      exact ⟨⟨⟨kind,subject⟩,revision⟩,young⟩

/-- A readable result is assessed, as admissible exactly when it is supported. -/
theorem assess_total (apart : NamedApart "id" input.evidence_records)
    (valid : ∀ record ∈ input.evidence_records, validate_evidence record = .ok ()) {contract result : Dict}
    {fields : ResultFields} (fine : validate_check_contract contract = .ok ())
    (read : result_fields result contract = .ok fields) :
    ∃ assessment, assess_check_result result contract (entries "id" input.evidence_records) = .ok assessment ∧
      assessment.declared_status = fields.status ∧
      (assessment.admissible = true ↔ Supported fields contract input.evidence_records) := by
  obtain ⟨cited,examined,kept⟩ := mapM_total
    (fun id (_ : id ∈ fields.evidence_ids) => evidence_reasons_total apart valid fields contract id)
  have nothing_cited : cited.flatten = [] ↔ ∀ id ∈ fields.evidence_ids,
      ∃ record ∈ input.evidence_records, record.get "id" = .str id ∧ Fits fields contract record := by
    rw [List.flatten_eq_nil_iff]
    clear examined
    generalize fields.evidence_ids = ids at kept
    induction kept with
    | nil => simp
    | cons here _ ih => rw [List.forall_mem_cons,List.forall_mem_cons,here,ih]
  unfold assess_check_result
  rw [fine,ok_bind,read,ok_bind,examined,ok_bind]
  refine ⟨_,rfl,rfl,?_⟩
  simp only [List.isEmpty_iff,List.append_eq_nil_iff,when_true_nil,nothing_cited]
  constructor
  · rintro ⟨⟨⟨enough,once⟩,independent⟩,cites⟩
    refine ⟨by simpa using enough,by simpa using once,?_,cites⟩
    intro required same
    simp [required,same] at independent
  · intro supported
    refine ⟨⟨⟨by simpa using supported.enough,by simpa using supported.once⟩,?_⟩,supported.cited⟩
    by_cases required : (contract.get "requiresIndependentEvaluator").isTrue = true
    · simpa [required] using supported.independent required
    · simp [required]

/-! ### What an exception needs -/

theorem required_string_of_filled {value : Dict} {key : String} (full : filled (value.get key) = true) :
    ∃ s, EvidenceGates.required_string value key = .ok s := by
  obtain ⟨s,written,visible⟩ := filled_iff.mp full
  exact ⟨s,(required_string_ok _).mpr ⟨get?_of_get written (by simp),visible⟩⟩

/-- An exception is judged unless it comes to texts that cannot be read. -/
theorem valid_exception_total {context : GateContext} {rule exception : Dict}
    (readable : Reached context rule exception → filled (exception.get "grantedBy") = true ∧
      filled (exception.get "rationale") = true ∧
      ∃ t, EvidenceGates.parse_time (exception.get "expiresAt") "expiresAt" = .ok t) :
    ∃ verdict, valid_exception exception context.gate rule context.subject_id context.subject_revision
      context.evaluation_time = .ok verdict := by
  unfold valid_exception
  cases refused : refusal exception context.gate rule context.subject_id context.subject_revision with
  | some why => exact ⟨_,rfl⟩
  | none =>
    obtain ⟨granted,explained,t,parsed⟩ := readable (refusal_none.mp refused)
    obtain ⟨grantor,grantorRead⟩ := required_string_of_filled granted
    obtain ⟨rationale,rationaleRead⟩ := required_string_of_filled explained
    simp only [grantorRead,rationaleRead,parsed,ok_bind]
    split
    · exact ⟨_,rfl⟩
    · exact ⟨_,rfl⟩

theorem valid_exception_reached {context : GateContext} {rule exception : Dict} {verdict : Bool × String}
    (ran : valid_exception exception context.gate rule context.subject_id context.subject_revision
      context.evaluation_time = .ok verdict) (reached : Reached context rule exception) :
    filled (exception.get "grantedBy") = true ∧ filled (exception.get "rationale") = true ∧
      ∃ t, EvidenceGates.parse_time (exception.get "expiresAt") "expiresAt" = .ok t := by
  unfold valid_exception at ran
  simp only [refusal_none.mpr reached] at ran
  obtain ⟨grantor,granted,ran⟩ := bind_ok_iff.mp ran
  obtain ⟨rationale,explained,ran⟩ := bind_ok_iff.mp ran
  obtain ⟨t,parsed,_⟩ := bind_ok_iff.mp ran
  exact ⟨(required_string_filled granted).2,(required_string_filled explained).2,t,parsed⟩

/-! ### One check -/

theorem misbound_iff {result : Dict} : misbound (plain input time) result = false ↔ Bound input result := by
  unfold misbound Bound plain
  simp [eq_str_right]

/-- The contract that a selected check is assessed by is valid. -/
theorem contract_valid (admitted : Admitted input time) {rule : Dict} (member : rule ∈ input.selected) :
    contract_of (plain input time) rule = input.contract rule ∧
      validate_check_contract (input.contract rule) = .ok () := by
  obtain ⟨contract,library,fine⟩ :=
    ((validate_gate_contract_rules admitted.contract).1 rule (selected_is_rule member)).contract
  refine ⟨rfl,?_⟩
  unfold GateInput.contract
  rw [library]
  exact fine

private theorem examine_missing {context : GateContext} {rule : Dict}
    (found : context.results_by_id.find (check_id rule) = none) : examine context rule =
      .ok { missing := [check_id rule], unresolved := [check_id rule]
            reasons := ["Required check " ++ check_id rule ++ " has no result."] } := by
  unfold examine
  simp only [found]
  rfl

private theorem examine_misbound {context : GateContext} {rule result : Dict}
    (found : context.results_by_id.find (check_id rule) = some result) (other : misbound context result = true) :
    examine context rule = .ok { invalid := [check_id rule], unresolved := [check_id rule]
                                 reasons := ["Check " ++ check_id rule ++
                                   " is bound to another subject revision."] } := by
  unfold examine
  simp only [found,other,↓reduceIte]
  rfl

/-- What a check with a bound result that tells its time comes to. -/
private theorem examine_timed {context : GateContext} {rule result : Dict}
    (found : context.results_by_id.find (check_id rule) = some result) (bound : misbound context result = false)
    (full : filled (result.get "evaluatedAt") = true) {t : Instant}
    (parsed : EvidenceGates.parse_time (result.get "evaluatedAt") "evaluatedAt" = .ok t) :
    examine context rule =
      if context.evaluation_time < t then
        .ok { invalid := [check_id rule], unresolved := [check_id rule]
              reasons := ["Check " ++ check_id rule ++ " is dated after the gate evaluation."] }
      else assess_check_result result (contract_of context rule) context.evidence_by_id >>= fun assessment =>
        if !assessment.admissible then
          .ok { invalid := [check_id rule], unresolved := [check_id rule]
                reasons := assessment.reasons.map (fun reason => "Check " ++ check_id rule ++ ": " ++ reason ++ ".") }
        else if assessment.declared_status = "passed" then .ok {}
        else examine_exception context rule assessment.declared_status := by
  obtain ⟨written,read⟩ := required_string_of_filled full
  rw [(required_string_filled read).1] at parsed
  unfold examine
  simp only [found]
  rw [if_neg (by simp [bound]),read,ok_bind,parsed,ok_bind]
  rfl

/-- An exception that is met is judged, unless it comes to unreadable texts. -/
private theorem examine_exception_total (admitted : Admitted input time) {rule : Dict} (status : String)
    (readable : ∀ exception ∈ input.exceptions, exception.get "checkId" = .str (check_id rule) →
      Reached (plain input time) rule exception → filled (exception.get "grantedBy") = true ∧
        filled (exception.get "rationale") = true ∧
        ∃ t, EvidenceGates.parse_time (exception.get "expiresAt") "expiresAt" = .ok t) :
    ∃ finding, examine_exception (plain input time) rule status = .ok finding := by
  unfold examine_exception
  cases offered : (plain input time).exception_by_check.find (check_id rule) with
  | none => exact ⟨_,rfl⟩
  | some exception =>
    obtain ⟨member,about⟩ := (entries_find admitted.exceptions).mp offered
    obtain ⟨⟨valid,reason⟩,judged⟩ := valid_exception_total (readable exception member about)
    simp only [judged,ok_bind]
    cases valid with
    | true => exact ⟨_,rfl⟩
    | false => exact ⟨_,rfl⟩

theorem examine_total (admitted : Admitted input time) (harmless : Harmless input time) {rule : Dict}
    (member : rule ∈ input.selected) : ∃ finding, examine (plain input time) rule = .ok finding := by
  cases found : (plain input time).results_by_id.find (check_id rule) with
  | none => exact ⟨_,examine_missing found⟩
  | some result =>
    obtain ⟨supplied,about⟩ := (entries_find admitted.results).mp found
    cases bound : misbound (plain input time) result with
    | true => exact ⟨_,examine_misbound found bound⟩
    | false =>
      have named := misbound_iff.mp bound
      obtain ⟨full,t,parsed,readable⟩ := harmless.results rule member result supplied about named
      rw [examine_timed found bound full parsed]
      by_cases late : (plain input time).evaluation_time < t
      · rw [if_pos late]; exact ⟨_,rfl⟩
      rw [if_neg late]
      have early : t ≤ time := not_lt.mp late
      obtain ⟨fields,fieldsRead⟩ := readable early
      obtain ⟨contractIs,fine⟩ := contract_valid admitted member
      obtain ⟨assessment,assessed,status,admissible⟩ := assess_total admitted.evidence harmless.evidence fine fieldsRead
      have assessedHere : assess_check_result result (contract_of (plain input time) rule)
          (plain input time).evidence_by_id = .ok assessment := by rw [contractIs]; exact assessed
      rw [assessedHere,ok_bind]
      by_cases proven : assessment.admissible = true
      swap
      · rw [if_pos (by simp [proven])]; exact ⟨_,rfl⟩
      rw [if_neg (by simp [proven])]
      by_cases passed : assessment.declared_status = "passed"
      · rw [if_pos passed]; exact ⟨_,rfl⟩
      rw [if_neg passed]
      refine examine_exception_total admitted _ ?_
      intro exception exceptionMember exceptionAbout reached
      have evaluated : fields.evaluated_at ≤ time := by
        have again := (result_fields_ok fieldsRead).2.1
        rw [parsed] at again
        exact (Except.ok.inj again) ▸ early
      obtain ⟨granted,explained,expires,expiry,_⟩ := harmless.exceptions rule member result supplied about named fields
        fieldsRead evaluated (by rw [← status]; exact passed) (admissible.mp proven) exception exceptionMember
        exceptionAbout reached
      exact ⟨granted,explained,expires,expiry⟩

theorem finding_plain (admitted : Admitted input time)
    (valid : ∀ record ∈ input.evidence_records, validate_evidence record = .ok ()) (rule : Dict) :
    input.finding rule = examine (plain input time) rule := by
  unfold GateInput.finding
  rw [context_plain admitted valid,ok_bind]

/-- The parts of an evaluation that returned. -/
theorem evaluate_parts (admitted : Admitted input time) {evaluation : GateEvaluation}
    (returned : input.evaluate = .ok evaluation) :
    (∀ record ∈ input.evidence_records, validate_evidence record = .ok ()) ∧
      ∃ findings, List.Forall₂ (fun rule finding => examine (plain input time) rule =
        .ok finding) input.selected findings ∧
        evaluation = gate_evaluation (plain input time) input.facts (findings.foldl Finding.append {}) := by
  obtain ⟨context,findings,prepared,examined,rfl⟩ := evaluate_gate_ok.mp returned
  have valid := evidence_of_context prepared
  have same := (context_plain admitted valid).symm.trans prepared
  cases same
  exact ⟨valid,findings,examined,rfl⟩

theorem evaluate_total (admitted : Admitted input time) (harmless : Harmless input time) :
    ∃ evaluation, input.evaluate = .ok evaluation := by
  have each : ∀ rule ∈ input.selected, ∃ finding, examine (plain input time) rule = .ok finding ∧ True := by
    intro rule member
    obtain ⟨finding,ran⟩ := examine_total admitted harmless member
    exact ⟨finding,ran,trivial⟩
  obtain ⟨findings,ran,_⟩ := mapM_total each
  exact ⟨_,evaluate_gate_ok.mpr ⟨_,findings,context_plain admitted harmless.evidence,mapM_ok_iff.mp ran,rfl⟩⟩

/-! ### An evaluation that returned met nothing malformed -/

/-- What an examination that returned has read of a bound result. -/
private theorem examine_read {context : GateContext} {rule result : Dict} {finding : Finding}
    (found : context.results_by_id.find (check_id rule) = some result) (bound : misbound context result = false)
    (ran : examine context rule = .ok finding) : filled (result.get "evaluatedAt") = true ∧
      ∃ t, EvidenceGates.parse_time (result.get "evaluatedAt") "evaluatedAt" = .ok t := by
  unfold examine at ran
  simp only [found] at ran
  rw [if_neg (by simp [bound])] at ran
  obtain ⟨written,read,ran⟩ := bind_ok_iff.mp ran
  obtain ⟨t,parsed,_⟩ := bind_ok_iff.mp ran
  obtain ⟨same,full⟩ := required_string_filled read
  exact ⟨full,t,by rw [same]; exact parsed⟩

theorem harmless_of_returned (admitted : Admitted input time) {evaluation : GateEvaluation}
    (returned : input.evaluate = .ok evaluation)
    (rejected : ∀ rule ∈ input.selected, ∀ exception ∈ input.exceptions,
      exception.get "checkId" = .str (check_id rule) → ¬ WellFormedException exception →
      ∃ finding, input.finding rule = .ok finding ∧ finding.accepted_exceptions = []) : Harmless input time := by
  obtain ⟨valid,findings,examined,_⟩ := evaluate_parts admitted returned
  have each : ∀ rule ∈ input.selected, ∃ finding, examine (plain input time) rule = .ok finding := by
    intro rule member
    obtain ⟨finding,_,ran⟩ := examined_each examined member
    exact ⟨finding,ran⟩
  refine ⟨valid,?_,?_⟩
  · intro rule member result supplied about named
    obtain ⟨finding,ran⟩ := each rule member
    have found : (plain input time).results_by_id.find (check_id rule) = some result :=
      (entries_find admitted.results).mpr ⟨supplied,about⟩
    have bound : misbound (plain input time) result = false := misbound_iff.mpr named
    obtain ⟨full,t,parsed⟩ := examine_read found bound ran
    refine ⟨full,t,parsed,?_⟩
    intro early
    have on_time : ¬ (plain input time).evaluation_time < t := not_lt.mpr early
    rw [examine_timed found bound full parsed,if_neg on_time] at ran
    obtain ⟨assessment,assessed,_⟩ := bind_ok_iff.mp ran
    obtain ⟨fields,read,_⟩ := assess_check_result_ok assessed
    exact ⟨fields,read⟩
  · intro rule member result supplied about named fields read evaluated unpassed supported exception offered
      exceptionAbout reached
    obtain ⟨finding,ran⟩ := each rule member
    have found : (plain input time).results_by_id.find (check_id rule) = some result :=
      (entries_find admitted.results).mpr ⟨supplied,about⟩
    have bound : misbound (plain input time) result = false := misbound_iff.mpr named
    obtain ⟨full,t,parsed⟩ := examine_read found bound ran
    have same : fields.evaluated_at = t := by
      have again := (result_fields_ok read).2.1
      rw [parsed] at again
      exact (Except.ok.inj again).symm
    obtain ⟨contractIs,fine⟩ := contract_valid admitted member
    obtain ⟨assessment,assessed,status,admissible⟩ := assess_total admitted.evidence valid fine read
    have assessedHere : assess_check_result result (contract_of (plain input time) rule)
        (plain input time).evidence_by_id = .ok assessment := by rw [contractIs]; exact assessed
    have offeredHere : (plain input time).exception_by_check.find (check_id rule) = some exception :=
      (entries_find admitted.exceptions).mpr ⟨offered,exceptionAbout⟩
    have proven := admissible.mpr supported
    have notPassed : assessment.declared_status ≠ "passed" := by rw [status]; exact unpassed
    have classified := examine_classified ran
    have original := ran
    have on_time : ¬ (plain input time).evaluation_time < t := not_lt.mpr (same ▸ evaluated)
    rw [examine_timed found bound full parsed,if_neg on_time,assessedHere,ok_bind,
      if_neg (by simp [proven]),if_neg notPassed] at ran
    unfold examine_exception at ran
    simp only [offeredHere] at ran
    obtain ⟨verdict,judged,_⟩ := bind_ok_iff.mp ran
    obtain ⟨granted,explained,expires,expiry⟩ := valid_exception_reached judged reached
    refine ⟨granted,explained,expires,expiry,?_⟩
    intro live
    -- The exception was accepted, so it is not one of the malformed.
    have excused : Excused (plain input time) rule :=
      ⟨assessment,exception,⟨result,⟨found,bound,t,parsed,same ▸ evaluated⟩,assessedHere,proven⟩,notPassed,offeredHere,
        ⟨reached,granted,explained,expires,expiry,live⟩⟩
    have accepted := classified.excused.mpr excused
    by_contra nameless
    have malformed : ¬ WellFormedException exception :=
      fun well => nameless (well.texts "id" (by simp [EXCEPTION_FIELDS]))
    obtain ⟨other,otherRan,nothing⟩ := rejected rule member exception offered exceptionAbout malformed
    rw [finding_plain admitted valid,original] at otherRan
    cases otherRan
    exact accepted nothing

/-! ### What a harmless input contains -/

/-- A check that relies on malformed proof is invalid and unresolved. -/
private theorem relying_finding (admitted : Admitted input time) (harmless : Harmless input time) {rule result : Dict}
    (member : rule ∈ input.selected) (supplied : result ∈ input.check_results)
    (about : result.get "checkId" = .str (check_id rule)) (relies : Relies input rule result) :
    ∃ finding, examine (plain input time) rule = .ok finding ∧ finding.invalid = [check_id rule] ∧
      finding.unresolved = [check_id rule] := by
  have malformed : MalformedResult (input.contract rule) result := by
    rcases relies with malformed | ⟨record,recorded,broken,_⟩
    · exact malformed
    · exact absurd (harmless.evidence record recorded) broken
  have found : (plain input time).results_by_id.find (check_id rule) = some result :=
    (entries_find admitted.results).mpr ⟨supplied,about⟩
  cases bound : misbound (plain input time) result with
  | true => exact ⟨_,examine_misbound found bound,rfl,rfl⟩
  | false =>
    obtain ⟨full,t,parsed,readable⟩ := harmless.results rule member result supplied about (misbound_iff.mp bound)
    by_cases late : (plain input time).evaluation_time < t
    · rw [examine_timed found bound full parsed,if_pos late]
      exact ⟨_,rfl,rfl,rfl⟩
    · obtain ⟨fields,read⟩ := readable (not_lt.mp late)
      exact absurd read (malformed fields)

theorem validate_gate_contract_texts {gate check_library : Dict}
    (valid : validate_gate_contract gate check_library = .ok ()) :
    (gate.get "id").isStr = true ∧ ∃ authorities, strings? (gate.get "acceptedExceptionAuthorities") =
      some authorities := by
  unfold validate_gate_contract at valid
  obtain ⟨_,texts,valid⟩ := bind_ok_iff.mp valid
  obtain ⟨_,_,valid⟩ := bind_ok_iff.mp valid
  obtain ⟨_,_,valid⟩ := bind_ok_iff.mp valid
  obtain ⟨id,written,_⟩ := (required_strings_ok _).mp texts "id" (by simp)
  refine ⟨by rw [get_of_get? written]; rfl,?_⟩
  cases authorities : strings? (gate.get "acceptedExceptionAuthorities") with
  | none => simp [authorities,gate_error] at valid
  | some accepted => exact ⟨accepted,rfl⟩

theorem isStr_iff {v : Json} : v.isStr = true ↔ ∃ s, v = .str s := by
  cases v <;> simp [Json.isStr,Json.str?]

theorem filled_isStr {v : Json} (full : filled v = true) : v.isStr = true := by
  obtain ⟨s,written,_⟩ := filled_iff.mp full
  exact isStr_iff.mpr ⟨s,written⟩

/-- An exception that excuses is well formed, once it has an identifier. -/
private theorem excusing_well_formed (admitted : Admitted input time) {rule exception : Dict}
    (excuses : Excuses (plain input time) rule exception) (about : exception.get "checkId" = .str (check_id rule))
    (identified : (exception.get "id").isStr = true) : WellFormedException exception := by
  obtain ⟨gateText,authorities,listed⟩ := validate_gate_contract_texts admitted.contract
  obtain ⟨t,parsed,_⟩ := excuses.unexpired
  refine ⟨?_,excuses.grantor,excuses.rationale,t,parsed⟩
  have gateId : (exception.get "gateId").isStr = true := by
    obtain ⟨id,named⟩ := isStr_iff.mp gateText
    have equal : (exception.get "gateId").eq (input.gate.get "id") = true := excuses.gate
    rw [named,eq_str_right] at equal
    exact isStr_iff.mpr ⟨id,equal⟩
  have subject : exception.get "subjectId" = .str input.subject_id := eq_str_right.mp excuses.subject
  have revision : exception.get "subjectRevision" = .str input.subject_revision := eq_str_right.mp excuses.revision
  have authority : (exception.get "authority").isStr = true := by
    have accepted : memList (exception.get "authority") (items input.gate "acceptedExceptionAuthorities") = true :=
      excuses.authority
    have array := strings?_eq_some.mp listed
    unfold memList items at accepted
    rw [array] at accepted
    obtain ⟨item,member,equal⟩ := List.any_eq_true.mp accepted
    obtain ⟨name,_,rfl⟩ := List.mem_map.mp member
    exact isStr_iff.mpr ⟨name,eq_str_right.mp equal⟩
  have expiry : (exception.get "expiresAt").isStr = true := by
    obtain ⟨s,written,_⟩ := (parse_time_ok _).mp parsed
    exact isStr_iff.mpr ⟨s,written⟩
  intro key member
  simp only [EXCEPTION_FIELDS,List.mem_cons,List.not_mem_nil,or_false] at member
  rcases member with rfl | rfl | rfl | rfl | rfl | rfl | rfl | rfl | rfl
  · exact identified
  · exact gateId
  · rw [about]; rfl
  · rw [subject]; rfl
  · rw [revision]; rfl
  · exact authority
  · exact filled_isStr excuses.grantor
  · exact filled_isStr excuses.rationale
  · exact expiry

private theorem rejected_of_harmless (admitted : Admitted input time) (harmless : Harmless input time)
    {rule exception : Dict} (member : rule ∈ input.selected) (offered : exception ∈ input.exceptions)
    (about : exception.get "checkId" = .str (check_id rule)) (malformed : ¬ WellFormedException exception) :
    ∃ finding, examine (plain input time) rule = .ok finding ∧ finding.accepted_exceptions = [] := by
  obtain ⟨finding,ran⟩ := examine_total admitted harmless member
  refine ⟨finding,ran,?_⟩
  by_contra accepted
  obtain ⟨assessment,other,⟨result,considered,assessed,proven⟩,unpassed,found,excuses⟩ :=
    (examine_classified ran).excused.mp accepted
  have here : (plain input time).exception_by_check.find (check_id rule) = some exception :=
    (entries_find admitted.exceptions).mpr ⟨offered,about⟩
  have same : other = exception := Option.some.inj (found.symm.trans here)
  subst same
  obtain ⟨supplied,resultAbout⟩ := (entries_find admitted.results).mp considered.found
  obtain ⟨contractIs,fine⟩ := contract_valid admitted member
  obtain ⟨fields,read,status,_⟩ := assess_check_result_ok assessed
  obtain ⟨again,assessedAgain,_,admissible⟩ := assess_total admitted.evidence harmless.evidence fine (contractIs ▸ read)
  have sameAssessment : again = assessment := by
    have here' : assess_check_result result (contract_of (plain input time) rule)
        (plain input time).evidence_by_id = .ok again := by rw [contractIs]; exact assessedAgain
    rw [here'] at assessed
    exact Except.ok.inj assessed
  obtain ⟨t,parsed,early⟩ := considered.timely
  have evaluated : fields.evaluated_at ≤ time := by
    have time' := (result_fields_ok read).2.1
    rw [parsed] at time'
    exact (Except.ok.inj time') ▸ early
  obtain ⟨_,_,expires,expiry,identified⟩ := harmless.exceptions rule member result supplied resultAbout
    (misbound_iff.mp considered.bound) fields (contractIs ▸ read) evaluated (by rw [← status]; exact unpassed)
    (admissible.mp (sameAssessment ▸ proven)) other offered about excuses.toReached
  obtain ⟨u,otherExpiry,live⟩ := excuses.unexpired
  rw [expiry] at otherExpiry
  cases otherExpiry
  exact malformed (excusing_well_formed admitted excuses about (identified live))

end

/-! ### Checks apart -/

theorem others_sublist (key : String) (value : Json) (records : List Dict) :
    (others key value records).Sublist records :=
  List.filter_sublist

/-- Leaving out the record under one value changes no other lookup. -/
theorem entries_find_others {key : String} {records : List Dict} (apart : NamedApart key records) {value : Json}
    {id : String} (differs : value ≠ .str id) :
    (entries key (others key value records)).find id = (entries key records).find id := by
  refine Option.ext (fun record => ?_)
  rw [entries_find (namedApart_sublist apart (others_sublist key value records)),entries_find apart]
  unfold others
  rw [List.mem_filter]
  constructor
  · rintro ⟨⟨member,_⟩,named⟩; exact ⟨member,named⟩
  · rintro ⟨member,named⟩
    refine ⟨⟨member,?_⟩,named⟩
    have unequal : ¬ (Json.str id).eq value = true := fun equal => differs (eq_str_left.mp equal)
    rw [named,Bool.not_eq_true',← Bool.not_eq_true]
    exact unequal

theorem assess_congr {result contract : Dict} {first second : Table}
    (same : ∀ id, .str id ∈ items result "evidenceIds" → first.find id = second.find id) :
    assess_check_result result contract first = assess_check_result result contract second := by
  unfold assess_check_result
  cases read : result_fields result contract with
  | error error => rfl
  | ok fields =>
    have cited : fields.evidence_ids.mapM (evidence_reasons fields contract first) =
        fields.evidence_ids.mapM (evidence_reasons fields contract second) := by
      refine mapM_congr ?_
      intro id member
      have listed : .str id ∈ items result "evidenceIds" := by
        unfold items
        rw [strings?_eq_some.mp (result_fields_ok read).2.2]
        exact List.mem_map_of_mem member
      unfold evidence_reasons
      rw [same id listed]
    rw [ok_bind,ok_bind,cited]

/-- A check depends on its own result, its own exception and the records that
    the result cites. -/
theorem examine_congr {a b : GateContext} {rule : Dict} (gate : a.gate = b.gate)
    (library : a.check_library = b.check_library)
    (subject : a.subject_id = b.subject_id) (revision : a.subject_revision = b.subject_revision)
    (time : a.evaluation_time = b.evaluation_time)
    (results : a.results_by_id.find (check_id rule) = b.results_by_id.find (check_id rule))
    (exceptions : a.exception_by_check.find (check_id rule) = b.exception_by_check.find (check_id rule))
    (evidence : ∀ result, b.results_by_id.find (check_id rule) = some result → ∀ id,
      .str id ∈ items result "evidenceIds" → a.evidence_by_id.find id = b.evidence_by_id.find id) :
    examine a rule = examine b rule := by
  have contract : contract_of a rule = contract_of b rule := by unfold contract_of; rw [library]
  have excepted : ∀ status, examine_exception a rule status = examine_exception b rule status := by
    intro status
    unfold examine_exception
    rw [exceptions,gate,subject,revision,time]
  unfold examine
  simp only [results]
  cases found : b.results_by_id.find (check_id rule) with
  | none => rfl
  | some result =>
    have bound : misbound a result = misbound b result := by unfold misbound; rw [subject,revision]
    simp only [bound,time,contract,excepted,assess_congr (evidence result found)]

section
variable {input : GateInput} {time : Instant}

private theorem finding_others {changed : GateInput} (admitted : Admitted input time)
    (changedAdmitted : Admitted changed time)
    (valid : ∀ record ∈ input.evidence_records, validate_evidence record = .ok ())
    (fewer : changed.evidence_records ⊆ input.evidence_records) {rule : Dict}
    (same : examine (plain changed time) rule = examine (plain input time) rule) :
    changed.finding rule = input.finding rule := by
  rw [finding_plain admitted valid,finding_plain changedAdmitted (fun record member => valid record (fewer member)),
    same]

theorem contained_of_harmless (admitted : Admitted input time) (harmless : Harmless input time) : Contained input := by
  have here := fun rule => finding_plain admitted harmless.evidence rule
  constructor
  · obtain ⟨evaluation,returned⟩ := evaluate_total admitted harmless
    refine ⟨evaluation,returned,?_⟩
    intro rule member result supplied about relies
    obtain ⟨_,findings,examined,rfl⟩ := evaluate_parts admitted returned
    obtain ⟨finding,ran,invalid,unresolved⟩ := relying_finding admitted harmless member supplied about relies
    obtain ⟨listed,findingMember,listedRan⟩ := examined_each examined member
    rw [ran] at listedRan
    cases listedRan
    constructor
    · show check_id rule ∈ (findings.foldl Finding.append {}).invalid
      rw [foldl_append Finding.invalid (fun _ _ => rfl)]
      exact List.mem_append_right _ (List.mem_flatMap.mpr ⟨finding,findingMember,by rw [invalid]; simp⟩)
    · show promotes (gate_outcome (findings.foldl Finding.append {})) = false
      have open_check : (findings.foldl Finding.append {}).unresolved ≠ [] := by
        rw [foldl_append Finding.unresolved (fun _ _ => rfl)]
        exact List.ne_nil_of_mem
          (List.mem_append_right _ (List.mem_flatMap.mpr
            ⟨finding,findingMember,by rw [unresolved]; exact List.mem_singleton_self _⟩))
      obtain ⟨_,_,excepted,passed⟩ := gate_outcome_iff (findings.foldl Finding.append {})
      rw [← Bool.not_eq_true,promotes_iff,excepted,passed]
      tauto
  · intro rule member result supplied about relies
    obtain ⟨finding,ran,_,unresolved⟩ := relying_finding admitted harmless member supplied about relies
    exact ⟨finding,by rw [here]; exact ran,unresolved⟩
  · intro rule member exception offered about malformed
    rw [here]
    exact rejected_of_harmless admitted harmless member offered about malformed
  · intro result supplied rule member differs
    have changed : Admitted
        { input with check_results := others "checkId" (result.get "checkId") input.check_results } time :=
      { admitted with results := namedApart_sublist admitted.results (others_sublist _ _ _) }
    refine finding_others admitted changed harmless.evidence (fun _ listed => listed) ?_
    exact examine_congr rfl rfl rfl rfl rfl (entries_find_others admitted.results differs) rfl (fun _ _ _ _ => rfl)
  · intro exception offered rule member differs
    have changed : Admitted
        { input with exceptions := others "checkId" (exception.get "checkId") input.exceptions } time :=
      { admitted with exceptions := namedApart_sublist admitted.exceptions (others_sublist _ _ _) }
    refine finding_others admitted changed harmless.evidence (fun _ listed => listed) ?_
    exact examine_congr rfl rfl rfl rfl rfl rfl (entries_find_others admitted.exceptions differs) (fun _ _ _ _ => rfl)
  · intro record recorded rule member uncited
    have changed : Admitted
        { input with evidence_records := others "id" (record.get "id") input.evidence_records } time :=
      { admitted with evidence := namedApart_sublist admitted.evidence (others_sublist _ _ _) }
    refine finding_others admitted changed harmless.evidence (others_sublist _ _ _).subset ?_
    refine examine_congr rfl rfl rfl rfl rfl rfl rfl ?_
    intro result found id cited
    obtain ⟨supplied,about⟩ := (entries_find admitted.results).mp found
    refine entries_find_others admitted.evidence ?_
    intro same
    exact uncited result supplied about (same ▸ cited)

/-- Malformed proof is contained exactly when the evaluation comes to none. -/
theorem contained_iff (admitted : Admitted input time) : Contained input ↔ Harmless input time := by
  constructor
  · intro contained
    obtain ⟨evaluation,returned,_⟩ := contained.returns
    exact harmless_of_returned admitted returned contained.rejected
  · exact contained_of_harmless admitted

end

/-! ### One bad record -/

/-- A record of no known kind, which no result cites. -/
def rumour : Dict := (sample_evidence.set "id" (.str "EV2")).set "kind" (.str "rumour")

/-- A gate whose one check passed on good evidence, with the rumour beside it. -/
def rumoured : GateInput where
  gate := sample_gate
  check_library := [("CHK",.obj sample_contract)]
  check_results := [sample_result "passed"]
  evidence_records := [sample_evidence,rumour]
  facts := []
  subject_id := "WP"
  subject_revision := "r1"
  evaluated_at := "2026-01-01T01:00:00Z"
  exceptions := []

theorem rumoured_admitted : Admitted rumoured 63902826000000000 where
  contract := by decide +kernel
  time := by decide +kernel
  evidence := ⟨["EV","EV2"],by simp [rumoured,rumour,sample_evidence,Dict.set,Dict.get,Dict.get?],by decide⟩
  results := ⟨["CHK"],by simp [rumoured,sample_result,Dict.get,Dict.get?],by decide⟩
  exceptions := ⟨[],rfl,by decide⟩

theorem rumoured_contained_iff : Contained rumoured ↔ Harmless rumoured 63902826000000000 :=
  contained_iff rumoured_admitted

/-- The record that nothing cites stops the evaluation. -/
theorem rumour_raises :
    rumoured.evaluate.map GateEvaluation.promotable =
      .error (.contract .EvidenceGateError "Unknown evidence kind: rumour") ∧ ¬ Contained rumoured := by
  have raised : rumoured.evaluate.map GateEvaluation.promotable =
      .error (.contract .EvidenceGateError "Unknown evidence kind: rumour") := by decide +kernel
  refine ⟨raised,?_⟩
  intro contained
  obtain ⟨evaluation,returned,_⟩ := contained.returns
  rw [returned] at raised
  cases raised

end V3Aidlc.GateContainment
