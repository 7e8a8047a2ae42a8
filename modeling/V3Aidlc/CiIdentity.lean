import V3Aidlc.CiGates

/-!
The ids of CI evidence. The id of a record is a normal form of the id of the check, and what
the check said, its revision and the work package are not in it. An id then stands for one
observation exactly when no two checks share a normal form and every check is only ever seen
with one content and for one work package (`ci_identity_iff`).
-/
namespace V3Aidlc.CiIdentity
open V3Aidlc.Loops V3Aidlc.PrefixCodes V3Aidlc.Encodings V3Aidlc.Canonical V3Aidlc.WorkPackages V3Aidlc.ProjectLead
open V3Aidlc.Verification V3Aidlc.CiEvidence V3Aidlc.CiGates

/-! ### The text of a check tells the check -/

theorem status_injective {status other : CiStatus} (same : status.text = other.text) : status = other := by
  cases status <;> cases other <;> first | rfl | simp [CiStatus.text] at same

theorem conclusion_plain (conclusion : Option CiConclusion) : ∀ c ∈ (conclusion_text conclusion).toList, ¬ c = ',' := by
  have checked : (conclusion_text conclusion).toList.all (fun c => c ≠ ',') = true := by
    cases conclusion with
    | none => decide
    | some conclusion => cases conclusion <;> decide
  simpa only [List.all_eq_true,decide_eq_true_eq] using checked

theorem conclusion_injective {conclusion other : Option CiConclusion}
    (same : conclusion_text conclusion = conclusion_text other) : conclusion = other := by
  revert same
  cases conclusion with
  | none =>
    cases other with
    | none => exact fun _ => rfl
    | some other => cases other <;> decide
  | some conclusion =>
    cases other with
    | none => cases conclusion <;> decide
    | some other => cases conclusion <;> cases other <;> decide

/-- The fields of a check that its text is made of. -/
def SameContent (check other : CheckSnapshot) : Prop :=
  check.id = other.id ∧ check.name = other.name ∧ check.headRevision = other.headRevision ∧
    check.status = other.status ∧ check.conclusion = other.conclusion ∧ check.url = other.url

theorem canonical_text (check : CheckSnapshot) :
    (canonical check).toList = "\x7b\"id\":".toList ++ ((quote check.id).toList ++ (",\"name\":".toList ++
      ((quote check.name).toList ++ (",\"headRevision\":".toList ++ ((quote check.headRevision).toList ++
        (",\"status\":".toList ++ ((quote check.status.text).toList ++ (",\"conclusion\":".toList ++
          ((conclusion_text check.conclusion).toList ++ ',' :: ("\"url\":".toList ++
            ((quote check.url).toList ++ ['\x7d']))))))))))) := by
  have comma : ",\"url\":".toList = ',' :: "\"url\":".toList := rfl
  have brace : "\x7d".toList = ['\x7d'] := rfl
  unfold canonical
  simp only [String.toList_append,comma,brace,List.append_assoc,List.cons_append]

theorem canonical_iff {check other : CheckSnapshot} : canonical check = canonical other ↔ SameContent check other := by
  constructor
  · intro same
    have texts : (canonical check).toList = (canonical other).toList := by rw [same]
    rw [canonical_text,canonical_text] at texts
    obtain ⟨ids,afterId⟩ := quote_decodes (List.append_cancel_left texts)
    obtain ⟨names,afterName⟩ := quote_decodes (List.append_cancel_left afterId)
    obtain ⟨revisions,afterRevision⟩ := quote_decodes (List.append_cancel_left afterName)
    obtain ⟨statuses,afterStatus⟩ := quote_decodes (List.append_cancel_left afterRevision)
    have comma : ∀ rest, Stops (fun c => c = ',') (',' :: rest) := fun _ => stops_cons.mpr rfl
    obtain ⟨conclusions,afterConclusion⟩ := plain_decodes (conclusion_plain _) (conclusion_plain _) (comma _) (comma _)
      (List.append_cancel_left afterStatus)
    obtain ⟨urls,_⟩ := quote_decodes (List.append_cancel_left (List.tail_eq_of_cons_eq afterConclusion))
    exact ⟨ids,names,revisions,status_injective statuses,conclusion_injective (String.toList_inj.mp conclusions),urls⟩
  · rintro ⟨ids,names,revisions,statuses,conclusions,urls⟩
    unfold canonical
    rw [ids,names,revisions,statuses,conclusions,urls]

/-! ### Records and rows -/

/-- What `recordEvidence` is given for a record. -/
def evidence_row (projectId : String) (record : VerificationEvidence) : EvidenceRow where
  id := record.id
  projectId := projectId
  workPackageId := record.subjectId
  kind := record.kind
  subjectRevision := record.subjectRevision
  producerId := record.producerId
  producerRole := record.producerRole
  producerIndependenceGroup := record.producerIndependenceGroup
  collectedAt := record.collectedAt
  locator := record.locator
  sha256 := record.sha256
  assertions := record.assertions

/-- The rows that are recorded are those that were given. -/
theorem recorded_rows {rows table : List EvidenceRow} (ran : rows.foldlM recordEvidence [] = .ok table) :
    table = rows := by
  induction rows using List.reverseRecOn generalizing table with
  | nil => exact (foldlM_nil_ok.mp ran).symm
  | append_singleton rows row ih =>
    obtain ⟨before,earlier,recorded⟩ := foldlM_snoc_ok.mp ran
    rw [(recordEvidence_ok.mp recorded).2,ih earlier]

/-- The records that the gate cites. -/
def cited (requiredChecks : List String) (evidence : List VerificationEvidence) : List VerificationEvidence :=
  requiredChecks.filterMap (fun name => find_record name evidence)

theorem cited_mem {requiredChecks : List String} {evidence : List VerificationEvidence} {record : VerificationEvidence}
    (member : record ∈ cited requiredChecks evidence) : record ∈ evidence := by
  obtain ⟨_,_,found⟩ := List.mem_filterMap.mp member
  exact List.mem_of_find?_eq_some found

/-! ### Identity -/

/-- What a record or a row says beyond its id. -/
structure SameRecord (record other : VerificationEvidence) : Prop where
  subjectId : record.subjectId = other.subjectId
  subjectRevision : record.subjectRevision = other.subjectRevision
  sha256 : record.sha256 = other.sha256

/-- An id stands for one observation: of the records of the polls those with one id agree, a row
    under the id of a cited record is that record, and a check whose status has changed can be
    recorded again. -/
structure Identified (projectId : String) (seen : List Observation) (evidence : List VerificationEvidence) : Prop where
  content : ∀ record ∈ evidence, ∀ other ∈ evidence, record.id = other.id → SameRecord record other
  stored : ∀ recorded table, recorded ⊆ evidence →
    (recorded.map (evidence_row projectId)).foldlM recordEvidence [] = .ok table →
    ∀ requiredChecks given, given ⊆ evidence → ∀ record ∈ cited requiredChecks given, ∀ row ∈ table,
      row.id = record.id →
      row.workPackageId = record.subjectId ∧ row.subjectRevision = record.subjectRevision ∧ row.sha256 = record.sha256
  again : ∀ one ∈ seen, ∀ other ∈ seen, one.check.id = other.check.id → one.check.status ≠ other.check.status →
    ∃ table, [evidence_row projectId one.record,evidence_row projectId other.record].foldlM recordEvidence [] =
      .ok table

/-- No two checks share a normal form, and a check is only seen with one content and for one work
    package. -/
structure Settled (seen : List Observation) : Prop where
  apart : ∀ one ∈ seen, ∀ other ∈ seen, normal_id one.check.id = normal_id other.check.id →
    one.check.id = other.check.id
  package : ∀ one ∈ seen, ∀ other ∈ seen, one.check.id = other.check.id →
    one.poll.workPackageId = other.poll.workPackageId
  steady : ∀ one ∈ seen, ∀ other ∈ seen, one.check.id = other.check.id → SameContent one.check other.check

theorem record_ids_iff {one other : Observation} :
    one.record.id = other.record.id ↔ normal_id one.check.id = normal_id other.check.id := by
  unfold Observation.record check_evidence
  simp only
  constructor
  · intro same
    have texts := congrArg String.toList same
    simp only [String.toList_append] at texts
    exact String.toList_inj.mp (List.append_cancel_left texts)
  · intro same
    rw [same]

section
variable {seen : List Observation}

theorem content_iff (injective : Set.InjOn Sha256.sha256 {text | ∃ one ∈ seen, canonical one.check = text}) :
    (∀ one ∈ seen, ∀ other ∈ seen, one.record.id = other.record.id → SameRecord one.record other.record) ↔
      Settled seen := by
  have digests : ∀ one ∈ seen, ∀ other ∈ seen, one.record.sha256 = other.record.sha256 ↔
      SameContent one.check other.check := by
    intro one member other inside
    rw [← canonical_iff]
    exact ⟨fun same => injective ⟨one,member,rfl⟩ ⟨other,inside,rfl⟩ same,fun same => congrArg Sha256.sha256 same⟩
  constructor
  · intro content
    have agree : ∀ one ∈ seen, ∀ other ∈ seen, normal_id one.check.id = normal_id other.check.id →
        SameRecord one.record other.record :=
      fun one member other inside same => content one member other inside (record_ids_iff.mpr same)
    refine ⟨?_,?_,?_⟩
    · intro one member other inside same
      exact ((digests one member other inside).mp (agree one member other inside same).sha256).1
    · intro one member other inside same
      exact (agree one member other inside (congrArg normal_id same)).subjectId
    · intro one member other inside same
      exact (digests one member other inside).mp (agree one member other inside (congrArg normal_id same)).sha256
  · intro settled one member other inside same
    have ids := settled.apart one member other inside (record_ids_iff.mp same)
    have content := settled.steady one member other inside ids
    exact ⟨settled.package one member other inside ids,content.2.2.1,(digests one member other inside).mpr content⟩

end

section
variable {polls : List Poll} {parts : List (List VerificationEvidence)}

/-- The ids of the evidence of any polls stand for one observation each exactly when the checks
    are told apart by their normal forms and never change. -/
theorem ci_identity_iff (projectId : String) (ran : polls.mapM Poll.collect = .ok parts)
    (injective : Set.InjOn Sha256.sha256 {text | ∃ one ∈ polls.flatMap Poll.observations, canonical one.check = text}) :
    Identified projectId (polls.flatMap Poll.observations) parts.flatten ↔
      Settled (polls.flatMap Poll.observations) := by
  rw [← content_iff injective,polls_records ran]
  constructor
  · intro identified one member other inside
    exact identified.content _ (List.mem_map_of_mem member) _ (List.mem_map_of_mem inside)
  · intro content
    have agree : ∀ record ∈ (polls.flatMap Poll.observations).map Observation.record,
        ∀ other ∈ (polls.flatMap Poll.observations).map Observation.record,
          record.id = other.id → SameRecord record other := by
      intro record member other inside same
      obtain ⟨one,here,rfl⟩ := List.mem_map.mp member
      obtain ⟨two,there,rfl⟩ := List.mem_map.mp inside
      exact content one here two there same
    refine ⟨agree,?_,?_⟩
    · intro recorded table known stores requiredChecks given shown record citation row member same
      rw [recorded_rows stores] at member
      obtain ⟨origin,kept,rfl⟩ := List.mem_map.mp member
      obtain ⟨subject,revision,digest⟩ := agree origin (known kept) record (shown (cited_mem citation)) same
      exact ⟨subject,revision,digest⟩
    · intro one member other inside ids changed
      have settled := (content_iff injective).mp content
      exact absurd (settled.steady one member other inside ids).2.2.2.1 changed

end

/-! Two work packages, a check that completes, and two ids with one normal form. -/

def seen_check (id : String) (status : CiStatus) (conclusion : Option CiConclusion) : CheckSnapshot where
  id := id
  name := "build"
  url := "https://github.test/checks/1"
  headRevision := "head"
  status := status
  conclusion := conclusion
  completedAt := none

def package_poll (workPackageId : String) (check : CheckSnapshot) : Poll :=
  { head_poll [check] with workPackageId := workPackageId }

theorem package_polls {first second : String} {check other : CheckSnapshot} (head : check.headRevision = "head")
    (head' : other.headRevision = "head") :
    [package_poll first check,package_poll second other].mapM Poll.collect =
      .ok [[check_evidence first none 0 check],[check_evidence second none 0 other]] := by
  have collected : ∀ {package : String} {check : CheckSnapshot}, check.headRevision = "head" →
      (package_poll package check).collect = .ok [check_evidence package none 0 check] := by
    intro package check head
    unfold Poll.collect collectCiEvidence package_poll head_poll
    rw [ok_bind,mapM_ok_iff]
    exact .cons (by simp [head]) .nil
  rw [mapM_ok_iff]
  exact .cons (collected head) (.cons (collected head') .nil)

theorem package_observations (first second : String) (check other : CheckSnapshot) :
    [package_poll first check,package_poll second other].flatMap Poll.observations =
      [⟨package_poll first check,check⟩,⟨package_poll second other,other⟩] := rfl

/-- A check that two work packages collect, and one that is collected before and after it
    completes: the second record has the id of the first and cannot be stored beside it. -/
theorem ids_collide :
    (let check := seen_check "1" .completed (some .success)
     let polls := [package_poll "WP-1" check,package_poll "WP-2" check]
     ∃ parts, polls.mapM Poll.collect = .ok parts ∧
       Set.InjOn Sha256.sha256 {text | ∃ one ∈ polls.flatMap Poll.observations, canonical one.check = text} ∧
       ¬ Identified "PRJ-1" (polls.flatMap Poll.observations) parts.flatten) ∧
    (let polls := [package_poll "WP-1" (seen_check "1" .in_progress none),
       package_poll "WP-1" (seen_check "1" .completed (some .success))]
     ∃ parts, polls.mapM Poll.collect = .ok parts ∧
       ¬ Identified "PRJ-1" (polls.flatMap Poll.observations) parts.flatten) := by
  refine ⟨⟨_,package_polls rfl rfl,?_,?_⟩,_,package_polls rfl rfl,?_⟩
  · rw [package_observations]
    rintro _ ⟨one,member,rfl⟩ _ ⟨other,inside,rfl⟩ _
    simp only [List.mem_cons,List.not_mem_nil,or_false] at member inside
    rcases member with rfl | rfl <;> rcases inside with rfl | rfl <;> rfl
  · intro identified
    have same := identified.content _ List.mem_cons_self _ (List.mem_cons_of_mem _ List.mem_cons_self) rfl
    exact absurd same.subjectId (by decide)
  · intro identified
    rw [package_observations] at identified
    obtain ⟨table,stored⟩ := identified.again _ List.mem_cons_self _
      (List.mem_cons_of_mem _ List.mem_cons_self) rfl (by decide)
    have rows := recorded_rows stored
    rw [rows,recorded_iff] at stored
    simp only [List.map_cons,List.map_nil,List.nodup_cons] at stored
    exact stored.1 (List.mem_singleton.mpr rfl)

theorem ci_identity_iff_polled_twice :
    let check := seen_check "1" .completed (some .success)
    Identified "PRJ-1" ([package_poll "WP-1" check,package_poll "WP-1" check].flatMap Poll.observations)
      (List.flatten [[check_evidence "WP-1" none 0 check],[check_evidence "WP-1" none 0 check]]) := by
  intro check
  have texts : Set.InjOn Sha256.sha256 {text | ∃ one ∈ [package_poll "WP-1" check,package_poll "WP-1" check].flatMap
      Poll.observations, canonical one.check = text} := by
    rw [package_observations]
    rintro _ ⟨one,member,rfl⟩ _ ⟨other,inside,rfl⟩ _
    simp only [List.mem_cons,List.not_mem_nil,or_false] at member inside
    rcases member with rfl | rfl <;> rcases inside with rfl | rfl <;> rfl
  refine (ci_identity_iff "PRJ-1" (package_polls rfl rfl) texts).mpr ?_
  rw [package_observations]
  have only : ∀ one ∈ ([⟨package_poll "WP-1" check,check⟩,⟨package_poll "WP-1" check,check⟩] : List Observation),
      one = ⟨package_poll "WP-1" check,check⟩ := by simp
  refine ⟨?_,?_,?_⟩
  · intro one member other inside _
    rw [only one member,only other inside]
  · intro one member other inside _
    rw [only one member,only other inside]
  · intro one member other inside _
    rw [only one member,only other inside]
    exact ⟨rfl,rfl,rfl,rfl,rfl,rfl⟩

end V3Aidlc.CiIdentity
