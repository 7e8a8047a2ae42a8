import V3Aidlc.ContextCompilations

/-!
What may be selected. Every selected item is a rendered candidate that is admissible for the
run: allowed by the recipe, in scope, current, relevant and, above the open levels, granted to
exactly this run; a secret is rendered by its reference only (`selected_admissible`).
-/
namespace V3Aidlc.ContextDisclosure
open V3Aidlc.Values V3Aidlc.Loops V3Aidlc.Timestamps V3Aidlc.Contracts V3Aidlc.ContextCompiler V3Aidlc.Greedy
open V3Aidlc.ContextCompilations

/-- A dimension of the scope that the item leaves open or shares with the run. -/
def Shares (declared active : List String) : Prop := declared = [] ∨ ∃ value ∈ declared, value ∈ active

/-- A grant of this item to exactly this project, role and run, that has not expired. -/
structure Grants (grant item run : Dict) (now : Instant) : Prop where
  project : text grant "projectId" = text run "projectId"
  role : text grant "recipientRole" = text run "role"
  run : text run "runId" ∈ strings grant "runIds"
  item : text item "id" ∈ strings grant "itemIds"
  unexpired : ∃ expires, ContextCompiler.parse_time (grant.get "expiresAt") "expiresAt" = .ok expires ∧ now ≤ expires

structure Admissible (recipe run : Dict) (grants : List Json) (now : Instant) (item : Dict) : Prop where
  kind : text item "kind" ∈ strings recipe "allowedKinds"
  source : text item "sourceType" ∈ strings recipe "allowedSources"
  sensitivity : SENSITIVITY_RANK (text item "sensitivity") ≤ SENSITIVITY_RANK (text recipe "maxSensitivity")
  project : text item "projectId" = text run "projectId"
  entities : Shares (strings item "entityIds") (strings run "entityIds")
  stages : Shares (strings item "stages") ((run.get "stage").str?).toList
  modes : Shares (strings item "modes") (strings run "modes")
  roles : Shares (strings item "roles") [text run "role"]
  unexpired : item.get "expiresAt" = .null ∨
    ∃ expires, ContextCompiler.parse_time (item.get "expiresAt") "expiresAt" = .ok expires ∧ now ≤ expires
  relevant : item.get "alwaysInclude" = .bool true ∨ ∃ tag ∈ strings item "relevanceTags", tag ∈ strings run "taskTags"
  granted : text item "sensitivity" ∈ EXPLICIT_GRANT_LEVELS → ∃ grant, .obj grant ∈ grants ∧ Grants grant item run now

/-! ### The filters -/

theorem in_dimension_iff {declared active : List String} : in_dimension declared active = true ↔
    Shares declared active := by
  unfold in_dimension Shares
  simp

section
variable {item run : Dict} {now : Instant}

theorem has_grant_grants {grants : List Dict} (ran : has_grant item run now grants = .ok true) :
    ∃ grant ∈ grants, Grants grant item run now := by
  obtain ⟨grant,member,covers,unexpired⟩ := has_grant_true ran
  simp only [grant_covers,Bool.and_eq_true,decide_eq_true_eq,List.contains_eq_mem] at covers
  obtain ⟨⟨⟨project,role⟩,runs⟩,items⟩ := covers
  exact ⟨grant,member,project,role,runs,items,unexpired⟩

theorem scope_iff : scope_matches item run = .ok true ↔ text item "projectId" = text run "projectId" ∧
    (run.get "stage").hashable = true ∧ Shares (strings item "entityIds") (strings run "entityIds") ∧
    Shares (strings item "stages") ((run.get "stage").str?).toList ∧
      Shares (strings item "modes") (strings run "modes") ∧
    Shares (strings item "roles") [text run "role"] := by
  unfold scope_matches
  by_cases project : text item "projectId" = text run "projectId"
  · cases hashable : (run.get "stage").hashable
    · simp [project]
    · simp [project,in_dimension_iff,and_assoc]
  · simp [project]

/-- The last checks of a valid item. -/
theorem valid_item (valid : validate_context_item item = .ok ()) : validate_payload item = .ok () ∧
    (item.get "expiresAt" = .null ∨ ∃ expires, ContextCompiler.parse_time (item.get "expiresAt") "expiresAt" =
      .ok expires) := by
  unfold validate_context_item at valid
  simp only [bind_ok_iff] at valid
  obtain ⟨_,_,_,_,_,_,_,_,_,_,_,_,_,_,_,_,_,_,_,_,_,_,_,payload,expiry⟩ := valid
  refine ⟨payload,?_⟩
  cases null : (item.get "expiresAt").isNull with
  | true =>
    refine Or.inl ?_
    cases found : item.get "expiresAt" <;> rw [found] at null <;> first | rfl | cases null
  | false =>
    rw [null,if_neg (by simp)] at expiry
    obtain ⟨expires,parsed,_⟩ := bind_ok_iff.mp expiry
    exact Or.inr ⟨expires,parsed⟩

theorem blank_unparsed : instant? "" = none := by decide +kernel

theorem unexpired_current (valid : validate_context_item item = .ok ()) (ran : unexpired item now = .ok true) :
    item.get "expiresAt" = .null ∨
      ∃ expires, ContextCompiler.parse_time (item.get "expiresAt") "expiresAt" = .ok expires ∧ now ≤ expires := by
  rcases (valid_item valid).2 with null | ⟨expires,parsed⟩
  · exact Or.inl null
  · obtain ⟨s,found,time⟩ := (parse_time_ok .ContextError).mp parsed
    have truthy : (item.get "expiresAt").truthy = true := by
      rw [found]
      refine decide_eq_true ?_
      rintro rfl
      rw [blank_unparsed] at time
      cases time
    unfold unexpired at ran
    rw [if_pos truthy,parsed,ok_bind,pure_ok_iff,decide_eq_true_eq] at ran
    exact Or.inr ⟨expires,parsed,ran⟩

/-- A secret is a reference without a content. -/
theorem secret_referenced (valid : validate_context_item item = .ok ()) (secret : text item "sensitivity" = "secret") :
    item.get "content" = .null ∧ ∃ reference, item.get "reference" = .str reference ∧ blank reference = false := by
  have payload := (valid_item valid).1
  unfold validate_payload at payload
  split at payload
  · simp only [bind_ok_iff,ContextCompiler.reject,reject_if_ok] at payload
    obtain ⟨reference,required,_,absent,_⟩ := payload
    obtain ⟨found,filled⟩ := (required_string_ok .ContextError).mp required
    refine ⟨?_,reference,get_of_get? found,filled⟩
    unfold Dict.get
    unfold Dict.has at absent
    rw [Option.isSome_eq_false_iff,Option.isNone_iff_eq_none] at absent
    rw [absent]
    rfl
  · simp only [bind_ok_iff,ContextCompiler.reject,reject_if_ok,secret] at payload
    obtain ⟨_,_,_,_,refused⟩ := payload
    simp at refused

end

section
variable {recipe run : Dict} {granted : List Dict} {now : Instant} {item : Dict}

/-- A valid item that every filter passes is admissible. -/
theorem passes_admissible (tagged : strings run "taskTags" ≠ []) (valid : validate_context_item item = .ok ())
    (passed : passes recipe run granted now item = true) :
    Admissible recipe run (granted.map Json.obj) now item := by
  have eligible : Eligible recipe run granted now (strings run "taskTags") item := by
    unfold passes at passed
    cases decided : verdict recipe run granted now item with
    | error e => simp [decided] at passed
    | ok reason =>
      cases reason with
      | some reason => simp [decided] at passed
      | none => exact first_reason_none.mp decided
  simp only [Eligible,filters,List.forall_mem_cons,pure_ok_iff,List.contains_eq_mem,decide_eq_true_eq] at eligible
  obtain ⟨kind,source,sensitivity,scope,current,discloses,relevance,_⟩ := eligible
  obtain ⟨project,_,entities,stages,modes,roles⟩ := scope_iff.mp scope
  refine ⟨kind,source,sensitivity,project,entities,stages,modes,roles,unexpired_current valid current,?_,?_⟩
  · unfold relevant at relevance
    simp only [Bool.or_eq_true,Json.isTrue,decide_eq_true_eq,bool?_eq_some,List.isEmpty_iff,List.any_eq_true,
      List.contains_eq_mem] at relevance
    rcases relevance with (always | untagged) | shared
    · exact Or.inl always
    · exact absurd untagged tagged
    · exact Or.inr shared
  · intro guarded
    unfold disclosed at discloses
    rw [if_pos (by simpa using guarded)] at discloses
    obtain ⟨grant,member,grants⟩ := has_grant_grants discloses
    exact ⟨grant,List.mem_map.mpr ⟨grant,member,rfl⟩,grants⟩

end

/-! ### What is selected -/

/-- Every selected item is a rendered admissible candidate, and a selected secret has a
    reference and no content. -/
theorem selected_admissible {recipe run : Dict} {candidates grants : Json} {generated_at : String}
    {manifest : ContextManifest}
    (ran : compile_context recipe run candidates grants generated_at = .ok manifest) :
    ∃ now, ContextCompiler.parse_time (.str generated_at) "generatedAt" = .ok now ∧
      ∀ selected ∈ manifest.selected_items,
      (∃ item, .obj item ∈ (candidates.iter?).getD [] ∧ selected = rendered item ∧
        Admissible recipe run ((grants.iter?).getD []) now item) ∧
      (text selected "sensitivity" = "secret" → selected.get "content" = .null ∧
        ∃ reference, selected.get "reference" = .str reference ∧ blank reference = false) := by
  obtain ⟨compiled,assembled,rfl⟩ := compile_ok.mp ran
  obtain ⟨now,granted,items,compiles,outcome⟩ := assemble_compiles assembled
  refine ⟨now,compiles.prepared.generated,?_⟩
  intro selected member
  have member : selected ∈ compiled.selected := member
  rw [outcome.selected] at member
  obtain ⟨item,inside,rfl⟩ := List.mem_map.mp member
  obtain ⟨listed,passed⟩ := List.mem_filter.mp (chosen_wins inside).1
  have valid := compiles.sortable.valid item listed
  refine ⟨⟨item,?_,rfl,?_⟩,?_⟩
  · rw [compiles.candidates_listed]
    exact List.mem_map.mpr ⟨item,listed,rfl⟩
  · rw [compiles.prepared.listed]
    exact passes_admissible compiles.prepared.tagged valid passed
  · intro secret
    rw [rendered_text (by simp)] at secret
    rw [rendered_get (by simp),rendered_get (by simp)]
    exact secret_referenced valid secret

/-! ### A secret that is granted -/

def sample_recipe : Dict :=
  [("id",.str "R"),("version",.str "1"),("title",.str "t"),("role",.str "dev"),
    ("allowedKinds",.arr [.str "secret_reference"]),
    ("requiredKinds",.arr []),("allowedSources",.arr [.str "project_policy"]),("maxSensitivity",.str "secret"),
    ("maxItems",.int 1),("maxBytes",.int 1000),("kindPriority",.arr [.str "secret_reference"])]

def sample_run : Dict :=
  [("runId",.str "RUN"),("projectId",.str "P"),("role",.str "dev"),("taskTags",.arr [.str "deploy"])]

def sample_secret (id claim : String) : Dict :=
  [("id",.str id),("revision",.str "1"),("kind",.str "secret_reference"),("sourceType",.str "project_policy"),
    ("sourceRef",.str "vault"),("sensitivity",.str "secret"),("integrity",.str "verified"),("projectId",.str "P"),
    ("createdAt",.str "2026-01-01T00:00:00Z"),("claimKey",.str claim),("alwaysInclude",.bool true),
      ("reference",.str "vault://token")]

def sample_grant (id : String) : Dict :=
  [("id",.str "G"),("projectId",.str "P"),("recipientRole",.str "dev"),("purpose",.str "deploy"),
    ("grantedBy",.str "owner"),
    ("authority",.str "user_decision"),("expiresAt",.str "2026-02-01T00:00:00Z"),("itemIds",.arr [.str id]),
    ("runIds",.arr [.str "RUN"])]

theorem selected_admissible_sample : ∃ manifest, compile_context sample_recipe sample_run
    (.arr [.obj (sample_secret "S" "token")])
      (.arr [.obj (sample_grant "S")]) "2026-01-01T00:00:00Z" = .ok manifest ∧ manifest.selected_items.length = 1 ∧
    ∀ selected ∈ manifest.selected_items, ∃ item, selected = rendered item ∧ text item "projectId" = "P" ∧
      ∃ grant, .obj grant ∈ [Json.obj (sample_grant "S")] ∧ text item "id" ∈ strings grant "itemIds" := by
  have returns : (assemble sample_recipe sample_run (.arr [.obj (sample_secret "S" "token")])
      (.arr [.obj (sample_grant "S")])
      "2026-01-01T00:00:00Z").toOption.any (fun compiled => compiled.selected.length = 1 &&
        compiled.selected.all (fun selected => text selected "sensitivity" = "secret")) = true := by decide +kernel
  obtain ⟨compiled,assembled,kept⟩ := returns_with returns
  simp only [Bool.and_eq_true,decide_eq_true_eq,List.all_eq_true] at kept
  have ran := compile_ok.mpr ⟨compiled,assembled,rfl⟩
  refine ⟨_,ran,kept.1,?_⟩
  intro selected member
  obtain ⟨now,_,each⟩ := selected_admissible ran
  obtain ⟨⟨item,_,same,admissible⟩,_⟩ := each selected member
  have guarded : text item "sensitivity" ∈ EXPLICIT_GRANT_LEVELS := by
    rw [← rendered_text (by simp),← same,kept.2 selected member]
    decide
  obtain ⟨grant,granted,grants⟩ := admissible.granted guarded
  exact ⟨item,same,admissible.project,grant,granted,grants.item⟩

end V3Aidlc.ContextDisclosure
