import V3Aidlc.Executions

/-!
What an integration batch is made of. Every completion becomes a member, in the order
of the package ids, and each is on the target revision of the batch (`batch_built`);
a passed result leads to another revision (`passed_result`).
-/
namespace V3Aidlc.IntegrationBatches
open V3Aidlc.Values V3Aidlc.Loops V3Aidlc.Contracts V3Aidlc.Canonical V3Aidlc.Scheduler
open V3Aidlc.ReferenceOrchestrator V3Aidlc.Executions

/-! ### Building a batch -/

/-- The completion can become a member of a batch on the revision. -/
structure Joins (revision : String) (completion : Dict) : Prop where
  texts : ∀ key ∈ MEMBER_STRINGS, ∃ s, Dict.get? key completion = some (.str s) ∧ blank s = false
  base : completion.get "baseRevision" = .str revision

/-- A completion that a batch on the revision takes as long as no member has its id. -/
structure Joinable (revision : String) (completion : Dict) : Prop extends Joins revision completion where
  completed : completion.get "status" = .str "completed"
  evidence : ∃ ids, string_array (completion.get "evidenceIds") "evidenceIds" 1 = .ok ids

def package (completion : Dict) : String := text completion "workPackageId"

theorem add_member_iff {revision : String} {before after : List Dict} {completion : Dict} :
    add_member revision before completion = .ok after ↔ Joinable revision completion ∧
      package completion ∉ before.map package ∧ before ++ [completion] = after := by
  unfold add_member
  simp only [bind_ok_iff,pure_ok_iff,Scheduler.reject,reject_if_ok,decide_eq_false_iff_not,ne_eq,not_not,
    Bool.not_eq_false',eq_str_right,List.contains_eq_mem]
  constructor
  · rintro ⟨_,texts,_,completed,ids,evidence,_,fresh,_,base,added⟩
    have held := (required_strings_ok _).mp texts
    obtain ⟨s,found,_⟩ := held "baseRevision" (by decide)
    rw [text_of_get? found] at base
    exact ⟨⟨⟨held,by rw [get_of_get? found,base]⟩,completed,ids,evidence⟩,fresh,added⟩
  · rintro ⟨⟨⟨texts,base⟩,completed,ids,evidence⟩,fresh,added⟩
    exact ⟨(),(required_strings_ok _).mpr texts,(),completed,ids,evidence,(),fresh,(),by simp [text,base,Json.str?],
      added⟩

theorem add_members_iff {revision : String} {completions before members : List Dict} :
    completions.foldlM (add_member revision) before = .ok members ↔
      (∀ completion ∈ completions, Joinable revision completion) ∧ (completions.map package).Nodup ∧
        (∀ completion ∈ completions, package completion ∉ before.map package) ∧ before ++ completions = members := by
  induction completions generalizing before with
  | nil => simp
  | cons completion rest ih =>
    simp only [foldlM_cons_ok,add_member_iff,ih,List.forall_mem_cons,List.map_cons,List.nodup_cons]
    constructor
    · rintro ⟨_,⟨joins,fresh,rfl⟩,joined,distinct,later,whole⟩
      simp only [List.map_append,List.map_cons,List.map_nil,List.mem_append,List.mem_singleton,not_or] at later
      refine ⟨⟨joins,joined⟩,⟨?_,distinct⟩,⟨fresh,fun other member => (later other member).1⟩,by simpa using whole⟩
      intro again
      obtain ⟨other,member,same⟩ := List.mem_map.mp again
      exact (later other member).2 same
    · rintro ⟨⟨joins,joined⟩,⟨first,distinct⟩,⟨fresh,later⟩,whole⟩
      refine ⟨_,⟨joins,fresh,rfl⟩,joined,distinct,?_,by simpa using whole⟩
      intro other member
      simp only [List.map_append,List.map_cons,List.map_nil,List.mem_append,List.mem_singleton,not_or]
      exact ⟨later other member,fun same => first (same ▸ List.mem_map_of_mem member)⟩

/-- The members of a batch. -/
def members_of (completions : List Dict) : List Dict :=
  sortedBy (fun member => text member "workPackageId") (completions.map member_of)

theorem mem_members {completions : List Dict} {member : Dict} :
    member ∈ members_of completions ↔ ∃ completion ∈ completions, member_of completion = member := by
  unfold members_of
  rw [mem_sortedBy,List.mem_map]

theorem member_fields (completion : Dict) :
    (member_of completion).get "workPackageId" = completion.get "workPackageId" ∧
      (member_of completion).get "subjectRevision" = completion.get "subjectRevision" := by
  unfold member_of
  simp [Dict.get,Dict.get?]

/-- What `build_integration_batch` asks of its arguments. -/
structure Buildable (completions : List Dict) (batch_id revision role : String) (checks : List String) : Prop where
  named : blank batch_id = false
  targeted : blank revision = false
  owned : blank role = false
  checked : checks ≠ []
  nonempty : ∀ check ∈ checks, nonempty check = true
  distinct_checks : checks.Nodup
  some_completion : completions ≠ []
  joinable : ∀ completion ∈ completions, Joinable revision completion
  distinct : (completions.map package).Nodup
  one_project : several (completions.map (fun item => text item "projectId")) = false
  one_group : several (completions.map (fun item => text item "integrationGroup")) = false

def signed_batch (completions : List Dict) (batch_id revision role : String) (checks : List String) : Dict :=
  let batch := unsigned_batch completions batch_id revision role checks
  batch.set "batchDigest" (.str (canonical_digest (.obj batch)))

theorem strippable_ok {value : Json} {s : String} : strippable value = .ok s ↔ value = .str s := by
  unfold strippable
  split <;> simp_all

theorem build_ok {completions : List Dict} {batch : Dict} {batch_id target_revision owner_role required_checks : Json} :
    build_integration_batch completions batch_id target_revision owner_role required_checks = .ok batch ↔
      ∃ id revision role checks, batch_id = .str id ∧ target_revision = .str revision ∧ owner_role = .str role ∧
        required_checks.iter? = some (checks.map Json.str) ∧ Buildable completions id revision role checks ∧
        signed_batch completions id revision role checks = batch := by
  unfold build_integration_batch
  simp only [bind_ok_iff,strippable_ok,iterate_ok]
  constructor
  · rintro ⟨id,rfl,_,named,revision,rfl,_,targeted,role,rfl,_,owned,items,listed,built⟩
    cases strings : items.mapM Json.str? with
    | none => simp [strings,scheduler_error] at built
    | some checks =>
      simp only [strings,bind_ok_iff,pure_ok_iff,Scheduler.reject,reject_if_ok,
        add_members_iff] at named targeted owned built
      obtain ⟨_,filled,_,distinct,_,found,_,⟨joinable,apart,_,rfl⟩,_,project,_,group,rfl⟩ := built
      have texts : Json.arr items = .arr (checks.map Json.str) := strings?_eq_some.mp strings
      rw [Json.arr.injEq] at texts
      subst texts
      simp only [Bool.or_eq_false_iff,List.isEmpty_eq_false_iff,Bool.not_eq_false',List.all_eq_true,
        decide_eq_true_eq] at filled distinct found
      exact ⟨id,revision,role,checks,rfl,rfl,rfl,listed,
        ⟨named,targeted,owned,filled.1,filled.2,distinct,found,joinable,apart,project,group⟩,rfl⟩
  · rintro ⟨id,revision,role,checks,rfl,rfl,rfl,listed,buildable,rfl⟩
    have strings : strings? (.arr (checks.map Json.str)) = some checks := strings?_eq_some.mpr rfl
    simp only [strings?] at strings
    refine ⟨id,rfl,(),?_,revision,rfl,(),?_,role,rfl,(),?_,_,listed,?_⟩
    · simp [Scheduler.reject,buildable.named]
    · simp [Scheduler.reject,buildable.targeted]
    · simp [Scheduler.reject,buildable.owned]
    simp only [strings,bind_ok_iff,pure_ok_iff,Scheduler.reject,reject_if_ok,add_members_iff]
    refine ⟨(),?_,(),?_,(),?_,_,⟨buildable.joinable,buildable.distinct,by simp,rfl⟩,(),buildable.one_project,(),
      buildable.one_group,rfl⟩
    · simpa [buildable.checked] using buildable.nonempty
    · simpa using buildable.distinct_checks
    · simpa using buildable.some_completion
theorem batch_built {completions : List Dict} {batch : Dict}
    {batch_id target_revision owner_role required_checks : Json}
    (built : build_integration_batch completions batch_id target_revision owner_role required_checks = .ok batch) :
    ∃ revision, target_revision = .str revision ∧ batch.get "targetRevision" = .str revision ∧
      batch.get "members" = .arr ((members_of completions).map Json.obj) ∧
      ∀ completion ∈ completions, Joins revision completion := by
  obtain ⟨_,revision,_,_,_,targeted,_,_,buildable,rfl⟩ := build_ok.mp built
  refine ⟨revision,targeted,?_,?_,fun completion member => (buildable.joinable completion member).toJoins⟩ <;>
    simp [signed_batch,unsigned_batch,Dict.get,Dict.get?,members_of]

/-! ### A passed result -/

theorem passed_result {result batch : Dict} (valid : validate_integration_result result batch = .ok ())
    (passed : text result "status" = "passed") : filled (result.get "resultingRevision") = true ∧
      (result.get "resultingRevision").eq (batch.get "targetRevision") = false := by
  unfold validate_integration_result at valid
  simp only [bind_ok_iff] at valid
  obtain ⟨_,_,_,_,_,_,_,_,_,_,valid⟩ := valid
  split at valid
  · simp [scheduler_error] at valid
  simp only [bind_ok_iff] at valid
  obtain ⟨_,_,_,_,evidence,_,valid⟩ := valid
  unfold validate_outcome at valid
  rw [if_pos passed] at valid
  simp only [bind_ok_iff,Scheduler.reject,reject_if_ok] at valid
  obtain ⟨_,_,_,_,_,resulting,other⟩ := valid
  exact ⟨by simpa using resulting,other⟩

/-! ### The integration of a scenario -/

/-- How an integration came to its outcome. -/
theorem integration_cases {scenario : Dict} {completions : List Dict} {outcome : Integration}
    (integrated : integration_of scenario completions = .ok outcome) :
    (scenario.get "integration").isNull = true ∧ outcome = .absent ∨ (scenario.get "integration").isNull = false ∧
      ∃ integration expected, scenario.get "integration" = .obj integration ∧
        expected_members integration = .ok expected ∧
        (same_set expected (ready_members completions) = false ∧
          (∃ batch_id expected ready, outcome = .blocked batch_id expected ready) ∨
        same_set expected (ready_members completions) = true ∧
          ∃ batch result, combine completions integration = .ok (batch,result) ∧
            outcome = .evaluated batch result) := by
  unfold integration_of at integrated
  split at integrated
  · rename_i absent
    exact .inl ⟨absent,(Except.ok.inj integrated).symm⟩
  rename_i requested
  obtain ⟨integration,held,integrated⟩ := bind_ok_iff.mp integrated
  obtain ⟨expected,expects,integrated⟩ := bind_ok_iff.mp integrated
  refine .inr ⟨Bool.eq_false_iff.mpr requested,integration,expected,Preparations.required_object_ok.mp held,expects,?_⟩
  split at integrated
  · rename_i other
    obtain ⟨_,_,integrated⟩ := bind_ok_iff.mp integrated
    obtain ⟨_,_,integrated⟩ := bind_ok_iff.mp integrated
    exact .inl ⟨by simpa using other,_,_,_,(pure_ok_iff.mp integrated).symm⟩
  · rename_i complete
    obtain ⟨⟨batch,result⟩,combined,integrated⟩ := bind_ok_iff.mp integrated
    exact .inr ⟨by simpa using complete,batch,result,combined,(pure_ok_iff.mp integrated).symm⟩

/-- The members asked for are those whose completions are ready. -/
theorem expected_ready {expected : List Json} {completions : List Dict} :
    same_set expected (ready_members completions) = true ↔
      ∀ value, value ∈ expected ↔ ∃ completion ∈ completions, value = .str (text completion "workPackageId") := by
  unfold same_set ready_members memList
  simp only [Bool.and_eq_true,List.all_eq_true,List.any_eq_true,List.mem_map,Canonical.mem_distinct]
  constructor
  · rintro ⟨asked,ready⟩ value
    constructor
    · intro member
      obtain ⟨_,⟨id,⟨completion,inside,rfl⟩,rfl⟩,same⟩ := asked value member
      exact ⟨completion,inside,eq_str_right.mp same⟩
    · rintro ⟨completion,inside,rfl⟩
      obtain ⟨other,member,same⟩ := ready _ ⟨_,⟨completion,inside,rfl⟩,rfl⟩
      rw [← eq_str_left.mp same]
      exact member
  · intro exact_members
    constructor
    · intro value member
      obtain ⟨completion,inside,rfl⟩ := (exact_members value).mp member
      exact ⟨_,⟨_,⟨completion,inside,rfl⟩,rfl⟩,eq_str_left.mpr rfl⟩
    · rintro _ ⟨_,⟨completion,inside,rfl⟩,rfl⟩
      exact ⟨_,(exact_members _).mpr ⟨completion,inside,rfl⟩,eq_str_left.mpr rfl⟩

/-- The result that is checked is the reported one, bound to its batch. -/
theorem combine_parts {completions : List Dict} {integration batch result : Dict}
    (combined : combine completions integration = .ok (batch,result)) :
    ∃ revision reported, batch.get "targetRevision" = .str revision ∧
      batch.get "members" = .arr ((members_of completions).map Json.obj) ∧
      (∀ completion ∈ completions, Joins revision completion) ∧
      (item integration "result" >>= new_dict) = .ok reported ∧
      (∀ key ∉ ["schemaVersion","batchId","batchDigest","targetRevision"], result.get key = reported.get key) ∧
      Scheduler.validate_integration_result result batch = .ok () := by
  unfold combine at combined
  simp only [bind_ok_iff,pure_ok_iff,Prod.mk.injEq] at combined
  obtain ⟨_,_,_,_,_,_,_,_,_,built,reported,reports,_,valid,rfl,rfl⟩ := combined
  obtain ⟨revision,_,targeted,members,joined⟩ := batch_built built
  refine ⟨revision,reported,targeted,members,joined,bind_ok_iff.mpr reports,?_,valid⟩
  intro key other
  simp only [List.mem_cons,List.not_mem_nil,or_false,not_or] at other
  obtain ⟨version,id,digest,target⟩ := other
  simp [Dict.update,get_set,Ne.symm version,Ne.symm id,Ne.symm digest,Ne.symm target]

end V3Aidlc.IntegrationBatches
