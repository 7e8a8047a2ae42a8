import V3Aidlc.IntegrationBatches
import V3Aidlc.Seals

/-!
The builder and the validator of integration batches. A built batch is valid exactly when
every artifact digest is one and every required check has a visible character, which the
builder does not ask (`built_valid_iff`). The order of the completions does not matter
(`built_perm`), and the digest of a valid batch stands for the batch (`valid_same`).
-/
namespace V3Aidlc.BatchAgreement
open V3Aidlc.Values V3Aidlc.Loops V3Aidlc.Contracts V3Aidlc.Canonical V3Aidlc.Sha256 V3Aidlc.Scheduler
open V3Aidlc.IntegrationBatches V3Aidlc.Documents V3Aidlc.Seals

/-! ### Valid batches -/

/-- A member as the validator takes it. -/
structure Stated (member : Dict) : Prop where
  texts : ∀ key ∈ ["workPackageId","subjectRevision","artifactDigest"],
    ∃ s, Dict.get? key member = some (.str s) ∧ blank s = false
  digest : isHexDigest (text member "artifactDigest") = true
  evidence : ∃ ids, string_array (member.get "evidenceIds") "evidenceIds" 1 = .ok ids

theorem validate_member_iff {before ids : List String} {value : Json} :
    validate_member before value = .ok ids ↔
      ∃ member, value = .obj member ∧ Stated member ∧ before ++ [package member] = ids := by
  unfold validate_member
  cases isDict : value.dict? with
  | none =>
    simp only [scheduler_error,fail_ok,false_iff]
    rintro ⟨member,rfl,_⟩
    simp [Json.dict?] at isDict
  | some member =>
    obtain rfl := dict?_eq_some.mp isDict
    simp only [bind_ok_iff,pure_ok_iff,Scheduler.reject,reject_if_ok,Bool.not_eq_false']
    constructor
    · rintro ⟨_,texts,_,digest,evidenceIds,evidence,added⟩
      exact ⟨member,rfl,⟨(required_strings_ok _).mp texts,digest,evidenceIds,evidence⟩,added⟩
    · rintro ⟨_,same,stated,added⟩
      obtain rfl := Json.obj.inj same
      obtain ⟨evidenceIds,evidence⟩ := stated.evidence
      exact ⟨(),(required_strings_ok _).mpr stated.texts,(),stated.digest,evidenceIds,evidence,added⟩

theorem validate_members_iff {values : List Json} {before ids : List String} :
    values.foldlM validate_member before = .ok ids ↔ ∃ members : List Dict, values = members.map Json.obj ∧
      (∀ member ∈ members, Stated member) ∧ before ++ members.map package = ids := by
  induction values generalizing before with
  | nil =>
    rw [foldlM_nil_ok]
    constructor
    · rintro rfl
      exact ⟨[],rfl,by simp,by simp⟩
    · rintro ⟨members,empty,_,rfl⟩
      rw [List.map_eq_nil_iff.mp empty.symm]
      simp
  | cons value rest ih =>
    simp only [foldlM_cons_ok,validate_member_iff,ih]
    constructor
    · rintro ⟨_,⟨member,rfl,stated,rfl⟩,members,rfl,others,rfl⟩
      exact ⟨member :: members,rfl,List.forall_mem_cons.mpr ⟨stated,others⟩,by simp⟩
    · rintro ⟨members,listed,stated,rfl⟩
      cases members with
      | nil => simp at listed
      | cons member members =>
        obtain ⟨rfl,rfl⟩ := List.cons.inj listed
        rw [List.forall_mem_cons] at stated
        exact ⟨_,⟨member,rfl,stated.1,rfl⟩,members,rfl,stated.2,by simp⟩

/-- What `validate_integration_batch` asks. -/
structure Valid (batch : Dict) (members : List Dict) : Prop where
  texts : ∀ key ∈ BATCH_STRINGS, ∃ s, Dict.get? key batch = some (.str s) ∧ blank s = false
  checks : ∃ checks, string_array (batch.get "requiredChecks") "requiredChecks" 1 = .ok checks
  held : batch.get "members" = .arr (members.map Json.obj)
  nonempty : members ≠ []
  stated : ∀ member ∈ members, Stated member
  distinct : (members.map package).Nodup
  ordered : members.map package = sortedStrings (members.map package)
  signed : canonical_digest (.obj (batch.without ["batchDigest"])) = text batch "batchDigest"

theorem validate_iff {batch : Dict} : validate_integration_batch batch = .ok () ↔ ∃ members, Valid batch members := by
  unfold validate_integration_batch
  simp only [bind_ok_iff]
  cases listed : (batch.get "members").list? with
  | none =>
    simp only [scheduler_error,fail_ok,and_false,exists_false,false_iff]
    rintro ⟨members,valid⟩
    simp [valid.held,Json.list?] at listed
  | some values =>
    have held := list?_eq_some.mp listed
    simp only [bind_ok_iff,validate_members_iff,Scheduler.reject,reject_if_ok,List.nil_append,
      Bool.not_eq_false',decide_eq_true_eq,decide_eq_false_iff_not,ne_eq,not_not,List.isEmpty_eq_false_iff]
    constructor
    · rintro ⟨_,texts,checks,checked,_,nonempty,_,⟨members,rfl,stated,rfl⟩,_,distinct,_,ordered,signed⟩
      exact ⟨members,(required_strings_ok _).mp texts,⟨checks,checked⟩,held,by simpa using nonempty,stated,distinct,
        ordered,signed⟩
    · rintro ⟨members,valid⟩
      obtain ⟨checks,checked⟩ := valid.checks
      obtain rfl := Json.arr.inj (held.symm.trans valid.held)
      exact ⟨(),(required_strings_ok _).mpr valid.texts,checks,checked,(),by simpa using valid.nonempty,_,
        ⟨members,rfl,valid.stated,rfl⟩,(),valid.distinct,(),valid.ordered,valid.signed⟩

theorem valid_sealed {batch : Dict} (valid : validate_integration_batch batch = .ok ()) :
    Sealed "batchDigest" batch := by
  obtain ⟨_,valid⟩ := validate_iff.mp valid
  obtain ⟨digest,found,_⟩ := valid.texts "batchDigest" (by simp [BATCH_STRINGS])
  unfold Sealed
  rw [found,← text_of_get? found,← valid.signed]
  rfl

/-- One digest is one batch, up to the order of keys. -/
theorem valid_same {batch other : Dict} (document : Document (.obj batch)) (document' : Document (.obj other))
    (valid : validate_integration_batch batch = .ok ()) (valid' : validate_integration_batch other = .ok ())
    (free : Apart "batchDigest" batch other) (digests : batch.get "batchDigest" = other.get "batchDigest") :
    same (.obj batch) (.obj other) = true := by
  have isSealed := valid_sealed valid
  have isSealed' := valid_sealed valid'
  rw [get_of_get? isSealed,get_of_get? isSealed'] at digests
  exact sealed_same document document' isSealed isSealed' free (by rw [isSealed,isSealed',digests])

/-! ### What the two ask of a completion -/

theorem member_package (completion : Dict) : package (member_of completion) = package completion :=
  text_of_get (member_fields completion).1

theorem member_digest (completion : Dict) :
    text (member_of completion) "artifactDigest" = text completion "artifactDigest" := by
  simp [member_of,text,Dict.get,Dict.get?]

/-- The validator asks one thing more of a completion than the builder. -/
theorem stated_member {revision : String} {completion : Dict} (joinable : Joinable revision completion) :
    Stated (member_of completion) ↔ isHexDigest (text completion "artifactDigest") = true := by
  constructor
  · intro stated
    rw [← member_digest]
    exact stated.digest
  · intro digest
    refine ⟨?_,by rw [member_digest]; exact digest,joinable.evidence⟩
    intro key member
    obtain ⟨s,found,visible⟩ := joinable.texts key (by simp only [MEMBER_STRINGS]; grind)
    refine ⟨s,?_,visible⟩
    simp only [List.mem_cons,List.not_mem_nil,or_false] at member
    rcases member with rfl | rfl | rfl <;> simp [member_of,Dict.get?,Dict.get,found]

/-- What the builder does not ask. -/
structure Compatible (completions : List Dict) (required_checks : Json) : Prop where
  digests : ∀ completion ∈ completions, isHexDigest (text completion "artifactDigest") = true
  checks : ∀ check ∈ required_checks.iter?.getD [], filled check = true

section
variable {completions : List Dict} {batch_id revision role : String} {checks : List String}

theorem get?_signed {key : String} (rest : key ≠ "batchDigest") :
    Dict.get? key (signed_batch completions batch_id revision role checks) =
      Dict.get? key (unsigned_batch completions batch_id revision role checks) := by
  unfold signed_batch
  rw [get?_set_ne _ _ (Ne.symm rest)]

theorem signed_without : (signed_batch completions batch_id revision role checks).without ["batchDigest"] =
    unsigned_batch completions batch_id revision role checks := by
  simp [signed_batch,unsigned_batch,Dict.set,Dict.without]

/-- What every text of a built batch is. -/
theorem built_texts (buildable : Buildable completions batch_id revision role checks) :
    ∀ key ∈ BATCH_STRINGS, ∃ s,
      Dict.get? key (signed_batch completions batch_id revision role checks) = some (.str s) ∧ blank s = false := by
  obtain ⟨first,rest,rfl⟩ := List.exists_cons_of_ne_nil buildable.some_completion
  have joins := buildable.joinable first (by simp)
  obtain ⟨project,isProject,visible⟩ := joins.texts "projectId" (by decide)
  obtain ⟨group,isGroup,grouped⟩ := joins.texts "integrationGroup" (by decide)
  intro key member
  by_cases digest : key = "batchDigest"
  · subst digest
    exact ⟨_,get?_set_self _ _ _,hex_filled (sha256_hex _)⟩
  rw [get?_signed digest]
  simp only [BATCH_STRINGS,List.mem_cons,List.not_mem_nil,or_false,digest] at member
  rcases member with rfl | rfl | rfl | rfl | rfl | rfl
  · exact ⟨"0.1",rfl,by decide⟩
  · exact ⟨batch_id,rfl,buildable.named⟩
  · exact ⟨text first "projectId",rfl,by rwa [text_of_get? isProject]⟩
  · exact ⟨text first "integrationGroup",rfl,by rwa [text_of_get? isGroup]⟩
  · exact ⟨revision,rfl,buildable.targeted⟩
  · exact ⟨role,rfl,buildable.owned⟩

theorem members_packages : (members_of completions).map package = sortedStrings (completions.map package) := by
  have packages : (completions.map member_of).map package = completions.map package := by
    rw [List.map_map]
    exact List.map_congr_left (fun completion _ => member_package completion)
  rw [← packages]
  have sorted : sortedBy id ((completions.map member_of).map package) = (members_of completions).map package :=
    sorted_map (fun _ => rfl) _
  exact sorted.symm

theorem checks_listed (checks : List String) : strings? (.arr (checks.map Json.str)) = some checks :=
  strings?_eq_some.mpr rfl

/-- A built batch is valid exactly when it has what only the validator asks. -/
theorem built_valid_iff (buildable : Buildable completions batch_id revision role checks) :
    Valid (signed_batch completions batch_id revision role checks) (members_of completions) ↔
      (∀ completion ∈ completions, isHexDigest (text completion "artifactDigest") = true) ∧
        ∀ check ∈ checks, visible check = true := by
  have listed : (signed_batch completions batch_id revision role checks).get "requiredChecks" =
      .arr (checks.map Json.str) := rfl
  constructor
  · intro valid
    constructor
    · intro completion member
      exact (stated_member (buildable.joinable completion member)).mp
        (valid.stated _ (mem_members.mpr ⟨completion,member,rfl⟩))
    · obtain ⟨_,checked⟩ := valid.checks
      obtain ⟨same,seen,_⟩ := (string_array_ok _).mp checked
      rw [listed,checks_listed] at same
      rwa [Option.some.inj same]
  · rintro ⟨digests,seen⟩
    have long : 1 ≤ checks.length := List.length_pos_iff.mpr buildable.checked
    refine ⟨built_texts buildable,⟨checks,?_⟩,rfl,?_,?_,?_,?_,?_⟩
    · rw [listed]
      exact (string_array_ok _).mpr ⟨checks_listed checks,seen,long,buildable.distinct_checks⟩
    · obtain ⟨completion,member⟩ := List.exists_mem_of_ne_nil _ buildable.some_completion
      exact List.ne_nil_of_mem (mem_members.mpr ⟨completion,member,rfl⟩)
    · intro member inside
      obtain ⟨completion,from_here,rfl⟩ := mem_members.mp inside
      exact (stated_member (buildable.joinable completion from_here)).mpr (digests completion from_here)
    · rw [members_packages]
      exact (perm_sortedBy id _).nodup_iff.mpr buildable.distinct
    · rw [members_packages]
      exact sortedStrings_perm (perm_sortedBy id _).symm
    · rw [signed_without]
      exact (text_of_get? (get?_set_self _ _ _)).symm

/-! ### The order of the completions -/

theorem not_several {values : List String} (one : several values = false) {s t : String} (left : s ∈ values)
    (right : t ∈ values) : s = t := by
  unfold several at one
  have inside := mem_distinct.mpr left
  have inside' := mem_distinct.mpr right
  match held : distinct values with
  | [] => simp [held] at inside
  | [only] =>
    rw [held,List.mem_singleton] at inside inside'
    rw [inside,inside']
  | _ :: _ :: _ => simp [held] at one

theorem several_perm {values others : List String} (perm : values.Perm others) : several values = several others := by
  unfold several
  rw [(distinct_perm (fun _ => perm.mem_iff)).length_eq]

/-- Where all have one text, the first of them has it in any order. -/
theorem first_perm {others : List Dict} {key : String} (perm : completions.Perm others)
    (one : several (completions.map (fun item => text item key)) = false) :
    (completions.head?.map (fun item => text item key)).getD "" =
      (others.head?.map (fun item => text item key)).getD "" := by
  cases completions with
  | nil => rw [perm.symm.eq_nil]
  | cons first rest =>
    cases others with
    | nil => exact absurd perm.eq_nil (by simp)
    | cons other more =>
      have moved : other ∈ first :: rest := perm.mem_iff.mpr (by simp)
      exact not_several one (List.mem_map_of_mem (by simp)) (List.mem_map_of_mem moved)

theorem members_perm {others : List Dict} (perm : completions.Perm others)
    (apart : (completions.map package).Nodup) : members_of completions = members_of others := by
  refine sortedBy_perm (perm.map member_of) ?_
  intro a left b right packages
  obtain ⟨completion,member,rfl⟩ := List.mem_map.mp left
  obtain ⟨other,member',rfl⟩ := List.mem_map.mp right
  rw [List.inj_on_of_nodup_map apart member member'
    ((member_package completion).symm.trans (packages.trans (member_package other)))]

theorem signed_perm {others : List Dict} (perm : completions.Perm others)
    (buildable : Buildable completions batch_id revision role checks) :
    Buildable others batch_id revision role checks ∧
      signed_batch others batch_id revision role checks = signed_batch completions batch_id revision role checks := by
  constructor
  · refine { buildable with some_completion := ?_, joinable := ?_, distinct := ?_, one_project := ?_, one_group := ?_ }
    · intro none
      exact buildable.some_completion (perm.trans (none ▸ .refl _)).eq_nil
    · intro completion member
      exact buildable.joinable completion (perm.mem_iff.mpr member)
    · exact (perm.map package).nodup_iff.mp buildable.distinct
    · rw [← several_perm (perm.map _)]
      exact buildable.one_project
    · rw [← several_perm (perm.map _)]
      exact buildable.one_group
  · have members := members_perm perm buildable.distinct
    unfold members_of at members
    unfold signed_batch unsigned_batch
    rw [first_perm perm buildable.one_project,first_perm perm buildable.one_group,members]

theorem built_perm {others : List Dict} {batch_id target_revision owner_role required_checks : Json} {batch : Dict}
    (perm : completions.Perm others)
    (built : build_integration_batch completions batch_id target_revision owner_role required_checks = .ok batch) :
    build_integration_batch others batch_id target_revision owner_role required_checks = .ok batch := by
  obtain ⟨id,revision,role,checks,named,targeted,owned,listed,buildable,rfl⟩ := build_ok.mp built
  obtain ⟨moved,same⟩ := signed_perm perm buildable
  exact build_ok.mpr ⟨id,revision,role,checks,named,targeted,owned,listed,moved,same⟩

end

/-! ### Agreement -/

theorem built_accepted {completions : List Dict} {batch_id target_revision owner_role required_checks : Json}
    {batch : Dict}
    (built : build_integration_batch completions batch_id target_revision owner_role required_checks = .ok batch) :
    validate_integration_batch batch = .ok () ↔ Compatible completions required_checks := by
  obtain ⟨_,_,_,checks,_,_,_,listed,buildable,rfl⟩ := build_ok.mp built
  have seen : (∀ check ∈ checks, visible check = true) ↔
      ∀ check ∈ required_checks.iter?.getD [], filled check = true := by
    rw [listed]
    simp [filled,visible]
  rw [validate_iff]
  constructor
  · rintro ⟨members,valid⟩
    have same : members = members_of completions :=
      (List.map_injective_iff.mpr (fun _ _ => Json.obj.inj)) (Json.arr.inj (valid.held.symm.trans rfl))
    subst same
    obtain ⟨digests,visible⟩ := (built_valid_iff buildable).mp valid
    exact ⟨digests,seen.mp visible⟩
  · intro compatible
    exact ⟨_,(built_valid_iff buildable).mpr ⟨compatible.digests,seen.mpr compatible.checks⟩⟩

/-- The validator accepts a built batch exactly when it has what only the validator asks;
    the batch does not depend on the order of the completions, and valid batches with one
    digest are the same as long as their texts do not collide. -/
theorem batches_agree_iff {completions : List Dict} {batch_id target_revision owner_role required_checks : Json}
    {batch : Dict}
    (built : build_integration_batch completions batch_id target_revision owner_role required_checks = .ok batch) :
    (validate_integration_batch batch = .ok () ↔ Compatible completions required_checks) ∧
      (∀ others, completions.Perm others →
        build_integration_batch others batch_id target_revision owner_role required_checks = .ok batch) ∧
      ∀ valid other : Dict, Document (.obj valid) → Document (.obj other) → validate_integration_batch valid = .ok () →
        validate_integration_batch other = .ok () → Apart "batchDigest" valid other →
        valid.get "batchDigest" = other.get "batchDigest" → same (.obj valid) (.obj other) = true := by
  refine ⟨built_accepted built,fun others perm => built_perm perm built,?_⟩
  intro valid other document document' accepted accepted' free digests
  exact valid_same document document' accepted accepted' free digests

/-- A completion on REV-1. -/
def completed_package (id digest : String) : Dict :=
  [("projectId",.str "P-1"),("workPackageId",.str id),("subjectRevision",.str "REV-2"),("baseRevision",.str "REV-1"),
    ("integrationGroup",.str "main"),("artifactDigest",.str digest),("status",.str "completed"),
    ("evidenceIds",.arr [.str "EVD-1"])]

def zero_digest : String := "0000000000000000000000000000000000000000000000000000000000000000"

theorem completed_joinable (id digest : String) (named : blank id = false) (given : blank digest = false) :
    Joinable "REV-1" (completed_package id digest) := by
  have evidence : Scheduler.string_array (.arr [.str "EVD-1"]) "evidenceIds" 1 = .ok ["EVD-1"] := by decide
  refine ⟨⟨?_,rfl⟩,rfl,["EVD-1"],evidence⟩
  intro key member
  simp only [MEMBER_STRINGS,List.mem_cons,List.not_mem_nil,or_false] at member
  rcases member with rfl | rfl | rfl | rfl | rfl | rfl
  · exact ⟨_,rfl,by decide⟩
  · exact ⟨_,rfl,named⟩
  · exact ⟨_,rfl,by decide⟩
  · exact ⟨_,rfl,by decide⟩
  · exact ⟨_,rfl,by decide⟩
  · exact ⟨_,rfl,given⟩

theorem pair_built (digest : String) (given : blank digest = false) :
    build_integration_batch [completed_package "WP-2" digest,completed_package "WP-1" digest] (.str "B-1")
      (.str "REV-1") (.str "integrator") (.arr [.str "tests"]) =
    .ok (signed_batch [completed_package "WP-2" digest,completed_package "WP-1" digest] "B-1" "REV-1" "integrator"
      ["tests"]) := by
  refine build_ok.mpr ⟨_,_,_,["tests"],rfl,rfl,rfl,rfl,?_,rfl⟩
  have apart : ["WP-2","WP-1"].Nodup := by decide
  have one_project : several ["P-1","P-1"] = false := by decide
  have one_group : several ["main","main"] = false := by decide
  refine ⟨by decide,by decide,by decide,by decide,by decide,by decide,by simp,?_,apart,one_project,one_group⟩
  intro completion member
  simp only [List.mem_cons,List.not_mem_nil,or_false] at member
  rcases member with rfl | rfl
  · exact completed_joinable "WP-2" digest (by decide) given
  · exact completed_joinable "WP-1" digest (by decide) given

theorem batches_agree_iff_pair : ∃ batch,
    build_integration_batch [completed_package "WP-1" zero_digest,completed_package "WP-2" zero_digest] (.str "B-1")
      (.str "REV-1") (.str "integrator") (.arr [.str "tests"]) = .ok batch ∧
    validate_integration_batch batch = .ok () := by
  obtain ⟨accepted,moved,_⟩ := batches_agree_iff (pair_built zero_digest (by decide))
  refine ⟨_,moved _ (List.Perm.swap _ _ _),accepted.mpr ⟨?_,by decide⟩⟩
  simp only [List.forall_mem_cons,List.not_mem_nil,false_implies,implies_true,and_true]
  decide +kernel

/-- A digest with its algorithm in front goes into a batch that is not valid. -/
theorem prefixed_digest : ∃ batch,
    build_integration_batch [completed_package "WP-2" "sha256:0",completed_package "WP-1" "sha256:0"] (.str "B-1")
      (.str "REV-1") (.str "integrator") (.arr [.str "tests"]) = .ok batch ∧
    validate_integration_batch batch ≠ .ok () := by
  refine ⟨_,pair_built "sha256:0" (by decide),?_⟩
  rw [Ne,built_accepted (pair_built "sha256:0" (by decide))]
  intro compatible
  exact absurd (compatible.digests _ List.mem_cons_self) (by decide +kernel)

end V3Aidlc.BatchAgreement
