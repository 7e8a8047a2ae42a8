import V3Aidlc.Contracts
import Mathlib.Data.Prod.Lex

/-!
Minimum-context assembly and disclosure control (`context_compiler.py`). Each
candidate item passes the filters of the recipe, the scope, the expiry, the
grants and the task tags or is excluded with a reason; among the eligible items
one represents each claim; and the budget takes the resolved items in order.
Every selected item is a rendered candidate that no filter excluded
(`compile_context_selected`).
-/
namespace V3Aidlc.ContextCompiler
open V3Aidlc.Values V3Aidlc.Loops V3Aidlc.Timestamps V3Aidlc.Contracts V3Aidlc.Canonical

def KINDS : List String :=
  ["instruction","objective","requirement","constraint","decision","architecture","artifact_reference",
    "evidence_reference","finding","learning","conversation_excerpt","tool_contract","secret_reference","external_fact",
    "assumption"]
def SOURCES : List String :=
  ["organization_policy","project_policy","user_instruction","canonical_state","governed_contract","verified_evidence",
    "external_source","liaison_summary","assumption"]
def SENSITIVITIES : List String := ["public","internal","confidential","restricted","secret"]
def INTEGRITY : List String := ["authoritative","verified","unverified","assumption"]
def EXPLICIT_GRANT_LEVELS : List String := ["confidential","restricted","secret"]
def DISCLOSURE_AUTHORITIES : List String := ["organization_policy","project_policy","user_decision"]

def SOURCE_AUTHORITY : String → Int
  | "organization_policy" => 100
  | "project_policy" => 95
  | "user_instruction" => 90
  | "canonical_state" => 85
  | "governed_contract" => 80
  | "verified_evidence" => 70
  | "external_source" => 40
  | "liaison_summary" => 20
  | _ => 10

/-- The rank of a known sensitivity. -/
def SENSITIVITY_RANK (sensitivity : String) : Nat := SENSITIVITIES.idxOf sensitivity

structure Exclusion where
  item_id : String
  reason : String

structure ContextManifest where
  manifest_id : String
  run_id : String
  role : String
  recipe_id : String
  recipe_version : String
  generated_at : String
  selected_items : List Dict
  exclusions : List Exclusion
  tool_allowlist : List String
  network_allowlist : List String
  total_bytes : Nat
  sha256 : String

def context_error {α : Type} (message : String) : Py α := fail .ContextError message
def reject (condition : Bool) (message : String) : Py Unit := reject_if .ContextError condition message
def required_string := Contracts.required_string .ContextError
def parse_time := Contracts.parse_time .ContextError

def string_array (value : Json) (field : String) : Py (List String) :=
  Contracts.string_array .ContextError nonempty value field

/-- An array field that may be left out. -/
def strings (d : Dict) (key : String) : List String := (strings? (d.getOr key (.arr []))).getD []

/-! ### Validation -/

def ITEM_STRINGS : List String :=
  ["id","revision","kind","sourceType","sourceRef","sensitivity","integrity","projectId","createdAt","claimKey"]
def ITEM_ARRAYS : List String := ["entityIds","stages","modes","roles","relevanceTags"]

/-- The payload is a content, or a reference when the item is a secret. -/
def validate_payload (item : Dict) : Py Unit :=
  if text item "kind" = "secret_reference" then do
    let _ ← required_string item "reference"
    reject (item.has "content") "Secret references cannot contain secret content"
    reject (text item "sensitivity" ≠ "secret") "Secret references must use secret sensitivity"
  else do
    let _ ← required_string item "content"
    reject (item.has "reference") "Only secret_reference items may contain reference"
    reject (text item "sensitivity" = "secret") "Secret values must be represented as references"

def validate_context_item (item : Dict) : Py Unit := do
  required_strings .ContextError item ITEM_STRINGS
  let kind := text item "kind"
  let source := text item "sourceType"
  let integrity := text item "integrity"
  reject (!KINDS.contains kind) ("Unknown context kind: " ++ kind)
  reject (!SOURCES.contains source) ("Unknown source type: " ++ source)
  reject (!SENSITIVITIES.contains (text item "sensitivity")) ("Unknown sensitivity: " ++ text item "sensitivity")
  reject (!INTEGRITY.contains integrity) ("Unknown integrity: " ++ integrity)
  reject ((source = "external_source" || source = "liaison_summary") && integrity = "authoritative")
    (source ++ " cannot be authoritative")
  reject (source = "assumption" && (integrity ≠ "assumption" || kind ≠ "assumption"))
    "Assumption sources must be labeled as assumptions"
  reject (kind = "assumption" && integrity ≠ "assumption") "Assumption items must use assumption integrity"
  let _ ← parse_time (item.get "createdAt") "createdAt"
  ITEM_ARRAYS.forM (fun field => do let _ ← string_array (item.getOr field (.arr [])) field; return ())
  reject (!(item.get "alwaysInclude").isBool) "alwaysInclude must be boolean"
  validate_payload item
  if (item.get "expiresAt").isNull then return ()
  else do let _ ← parse_time (item.get "expiresAt") "expiresAt"; return ()

def positive_integer (recipe : Dict) (key : String) : Py Unit :=
  match (recipe.get key).int? with
  | none => context_error (key ++ " must be a positive integer")
  | some n => reject (n < 1) (key ++ " must be a positive integer")

def validate_recipe (recipe : Dict) : Py Unit := do
  required_strings .ContextError recipe ["id","version","title","role"]
  let allowed ← string_array (recipe.get "allowedKinds") "allowedKinds"
  let required ← string_array (recipe.get "requiredKinds") "requiredKinds"
  reject (!(allowed ++ required).all KINDS.contains) "Recipe contains unknown context kinds"
  reject (!required.all allowed.contains) "requiredKinds must also be allowed"
  let sources ← string_array (recipe.get "allowedSources") "allowedSources"
  reject (!sources.all SOURCES.contains) "Recipe contains unknown source types"
  let known ← in_set (recipe.get "maxSensitivity") SENSITIVITIES
  reject (!known) "Recipe maxSensitivity is invalid"
  positive_integer recipe "maxItems"
  positive_integer recipe "maxBytes"
  let priority ← string_array (recipe.get "kindPriority") "kindPriority"
  reject (!(priority.all allowed.contains && allowed.all priority.contains))
    "kindPriority must list every allowed kind exactly once"
  let _ ← string_array (recipe.getOr "toolAllowlist" (.arr [])) "toolAllowlist"
  let _ ← string_array (recipe.getOr "networkAllowlist" (.arr [])) "networkAllowlist"
  return ()

def GRANT_STRINGS : List String := ["id","projectId","recipientRole","purpose","grantedBy","authority","expiresAt"]

def validate_disclosure_grant (grant : Dict) : Py Unit := do
  required_strings .ContextError grant GRANT_STRINGS
  let item_ids ← string_array (grant.get "itemIds") "itemIds"
  reject item_ids.isEmpty "Disclosure grants must name at least one exact item"
  let run_ids ← string_array (grant.get "runIds") "runIds"
  reject run_ids.isEmpty "Disclosure grants must name at least one exact run"
  reject (!DISCLOSURE_AUTHORITIES.contains (text grant "authority")) "Disclosure grant authority is not accepted"
  let _ ← parse_time (grant.get "expiresAt") "expiresAt"
  return ()

/-! ### Filters -/

/-- A dimension without declared values is open to every run. -/
def in_dimension (declared active : List String) : Bool := declared.isEmpty || declared.any active.contains

def scope_matches (item run : Dict) : Py Bool :=
  if text item "projectId" ≠ text run "projectId" then return false
  else if !(run.get "stage").hashable then .error .TypeError
  else return in_dimension (strings item "entityIds") (strings run "entityIds") &&
    in_dimension (strings item "stages") ((run.get "stage").str?).toList &&
    in_dimension (strings item "modes") (strings run "modes") &&
    in_dimension (strings item "roles") [text run "role"]

/-- The grant names this item and exactly this run, role and project. -/
def grant_covers (grant item run : Dict) : Bool :=
  text grant "projectId" = text run "projectId" && text grant "recipientRole" = text run "role" &&
    (strings grant "runIds").contains (text run "runId") && (strings grant "itemIds").contains (text item "id")

def has_grant (item run : Dict) (now : Instant) : List Dict → Py Bool
  | [] => return false
  | grant :: rest => do
    validate_disclosure_grant grant
    if grant_covers grant item run then do
      let expires ← parse_time (grant.get "expiresAt") "expiresAt"
      if now ≤ expires then return true else has_grant item run now rest
    else has_grant item run now rest

/-- `not (item.get("expiresAt") and now > ...)`. -/
def unexpired (item : Dict) (now : Instant) : Py Bool :=
  if (item.get "expiresAt").truthy then do
    let expires ← parse_time (item.get "expiresAt") "expiresAt"
    return now ≤ expires
  else return true

/-- Items above the open levels need an exact grant. -/
def disclosed (item run : Dict) (grants : List Dict) (now : Instant) : Py Bool :=
  if EXPLICIT_GRANT_LEVELS.contains (text item "sensitivity") then has_grant item run now grants else return true

def relevant (item : Dict) (task_tags : List String) : Bool :=
  (item.get "alwaysInclude").isTrue || task_tags.isEmpty || (strings item "relevanceTags").any task_tags.contains

/-- The filters in the order of the source, each with the reason for excluding. -/
def filters (recipe run : Dict) (grants : List Dict) (now : Instant) (task_tags : List String) (item : Dict) :
    List (Py Bool × String) :=
  [(return (strings recipe "allowedKinds").contains (text item "kind"),"kind not allowed by recipe"),
    (return (strings recipe "allowedSources").contains (text item "sourceType"),"source not allowed by recipe"),
    (return SENSITIVITY_RANK (text item "sensitivity") ≤ SENSITIVITY_RANK (text recipe "maxSensitivity"),
      "sensitivity exceeds recipe"),
    (scope_matches item run,"outside run scope"),
    (unexpired item now,"context item expired"),
    (disclosed item run grants now,"exact disclosure grant missing"),
    (return relevant item task_tags,"not relevant to run task tags")]

/-- The reason of the first filter that does not pass. -/
def first_reason : List (Py Bool × String) → Py (Option String)
  | [] => return none
  | (filter,reason) :: rest => do
    let passed ← filter
    if passed then first_reason rest else return some reason

structure Sorted where
  seen_ids : List String := []
  exclusions : List Exclusion := []
  eligible : List Dict := []

/-- One pass of the loop over the candidates. -/
def sort_item (recipe run : Dict) (grants : List Dict) (now : Instant) (task_tags : List String) (sorted : Sorted)
    (item : Json) : Py Sorted := do
  let item ← as_dict item
  validate_context_item item
  let id := text item "id"
  reject (sorted.seen_ids.contains id) ("Duplicate context item ID: " ++ id)
  let reason ← first_reason (filters recipe run grants now task_tags item)
  match reason with
  | some reason =>
    return { sorted with seen_ids := sorted.seen_ids ++ [id], exclusions := sorted.exclusions ++ [⟨id,reason⟩] }
  | none => return { sorted with seen_ids := sorted.seen_ids ++ [id], eligible := sorted.eligible ++ [item] }

/-! ### Precedence -/

def authority (item : Dict) : Int := SOURCE_AUTHORITY (text item "sourceType")

def item_payload (item : Dict) : String :=
  match Dict.get? "content" item with
  | some content => (content.str?).getD ""
  | none => text item "reference"

/-- Later wins among equal authorities, then the greater id. -/
def recency (item : Dict) : String ×ₗ String := toLex (text item "createdAt",text item "id")

/-- The item that represents a claim and the exclusions of the others. -/
def resolve_claim (eligible : List Dict) (claim_key : String) : Py (List (Dict × List Exclusion)) :=
  match eligible.filter (fun item => text item "claimKey" = claim_key) with
  | [] => return []
  | first :: rest =>
    let highest := authority (firstMax authority first rest)
    match (first :: rest).filter (fun item => authority item = highest) with
    | [] => return []
    | leader :: leaders => do
      reject (1 < (distinct ((leader :: leaders).map item_payload)).length)
        ("Equal-authority conflict requires reconciliation: " ++ claim_key)
      let winner := firstMax recency leader leaders
      let losers := (first :: rest).filter (fun item => text item "id" ≠ text winner "id")
      return [(winner,losers.map (fun item =>
        ⟨text item "id","superseded by higher-precedence " ++ text winner "id"⟩))]

def resolve (eligible : List Dict) : Py (List (Dict × List Exclusion)) := do
  let claims ← (distinct (eligible.map (fun item => text item "claimKey"))).mapM (resolve_claim eligible)
  return claims.flatten

/-! ### Budget -/

def order_key (recipe item : Dict) : Nat ×ₗ Int ×ₗ Nat ×ₗ String :=
  toLex (if (item.get "alwaysInclude").isTrue then 0 else 1,
    toLex (-authority item,toLex ((strings recipe "kindPriority").idxOf (text item "kind"),text item "id")))

def rendered (item : Dict) : Dict :=
  ["id","revision","kind","sourceType","sourceRef","sensitivity","integrity","claimKey","content","reference"].map
    (fun key => (key,item.get key))

def item_bytes (item : Dict) : Nat := (dumps standard (.obj (rendered item))).utf8ByteSize

structure Budget where
  selected : List Dict := []
  total_bytes : Nat := 0
  exclusions : List Exclusion := []

def limit (recipe : Dict) (key : String) : Int := ((recipe.get key).int?).getD 0

/-- One pass of the loop over the resolved items. -/
def budget_item (recipe : Dict) (budget : Budget) (item : Dict) : Budget :=
  if limit recipe "maxItems" ≤ budget.selected.length ∨
    limit recipe "maxBytes" < (budget.total_bytes + item_bytes item : Nat) then
    { budget with exclusions := budget.exclusions ++ [⟨text item "id","context budget exhausted"⟩] }
  else
    { budget with selected := budget.selected ++ [rendered item], total_bytes := budget.total_bytes + item_bytes item }

/-! ### The manifest -/

/-- What a compilation has decided before it is digested. -/
structure Compilation where
  selected : List Dict
  total_bytes : Nat
  exclusions : List Exclusion

def assemble (recipe run : Dict) (candidates grants : Json) (generated_at : String) : Py Compilation := do
  validate_recipe recipe
  required_strings .ContextError run ["runId","projectId","role"]
  let _ ← string_array (run.getOr "entityIds" (.arr [])) "run.entityIds"
  let _ ← string_array (run.getOr "modes" (.arr [])) "run.modes"
  let task_tags ← string_array (run.getOr "taskTags" (.arr [])) "run.taskTags"
  reject task_tags.isEmpty "run.taskTags must contain at least one bounded task tag"
  reject (text run "role" ≠ text recipe "role") "Run role does not match the context recipe"
  let now ← parse_time (.str generated_at) "generatedAt"
  let grantItems ← iterate grants
  let grants ← grantItems.mapM
      (fun grant => do let grant ← as_dict grant; validate_disclosure_grant grant; return grant)
  let candidates ← iterate candidates
  let sorted ← candidates.foldlM (sort_item recipe run grants now task_tags) {}
  let resolved ← resolve sorted.eligible
  let budget := (sortedBy (order_key recipe) (resolved.map Prod.fst)).foldl (budget_item recipe) {}
  let missing := (strings recipe "requiredKinds").filter
    (fun kind => !(budget.selected.map (fun item => text item "kind")).contains kind)
  reject (!missing.isEmpty) ("Required context kinds are unavailable: " ++ displayList (sortedStrings missing))
  return ⟨budget.selected,budget.total_bytes,
    sorted.exclusions ++ (resolved.map Prod.snd).flatten ++ budget.exclusions⟩

def manifest_body (recipe run : Dict) (generated_at : String) (compiled : Compilation) : Dict :=
  [("runId",run.get "runId"),("role",run.get "role"),("recipeId",recipe.get "id"),
    ("recipeVersion",recipe.get "version"),
    ("generatedAt",.str generated_at),("selectedItems",.arr (compiled.selected.map Json.obj)),
    ("toolAllowlist",recipe.getOr "toolAllowlist" (.arr [])),
    ("networkAllowlist",recipe.getOr "networkAllowlist" (.arr [])),("totalBytes",.int compiled.total_bytes)]

def manifest_of (recipe run : Dict) (generated_at : String) (compiled : Compilation) : ContextManifest :=
  let digest := canonical_digest (.obj (manifest_body recipe run generated_at compiled))
  { manifest_id := "CTX-" ++ text run "runId" ++ "-" ++ String.ofList (digest.toList.take 12)
    run_id := text run "runId"
    role := text run "role"
    recipe_id := text recipe "id"
    recipe_version := text recipe "version"
    generated_at := generated_at
    selected_items := compiled.selected
    exclusions := sortedBy Exclusion.item_id compiled.exclusions
    tool_allowlist := strings recipe "toolAllowlist"
    network_allowlist := strings recipe "networkAllowlist"
    total_bytes := compiled.total_bytes
    sha256 := digest }

def compile_context (recipe run : Dict) (candidates grants : Json) (generated_at : String) : Py ContextManifest := do
  let compiled ← assemble recipe run candidates grants generated_at
  return manifest_of recipe run generated_at compiled

/-! ### What is selected -/

/-- An item that passes every filter. -/
def Eligible (recipe run : Dict) (grants : List Dict) (now : Instant) (task_tags : List String) (item : Dict) : Prop :=
  ∀ filter ∈ filters recipe run grants now task_tags item, filter.1 = .ok true

theorem first_reason_none {checks : List (Py Bool × String)} :
    first_reason checks = .ok none ↔ ∀ check ∈ checks, check.1 = .ok true := by
  induction checks with
  | nil => simp [first_reason]
  | cons check rest ih =>
    obtain ⟨filter,reason⟩ := check
    unfold first_reason
    rw [bind_ok_iff]
    simp only [List.forall_mem_cons]
    constructor
    · rintro ⟨passed,ran,later⟩
      cases passed with
      | false => simp at later
      | true => exact ⟨ran,ih.mp later⟩
    · rintro ⟨ran,later⟩
      exact ⟨true,ran,ih.mpr later⟩

/-- A valid candidate that no filter excludes. -/
def Admitted (recipe run : Dict) (grants : List Dict) (now : Instant) (task_tags : List String) (candidates : List Json)
    (item : Dict) : Prop :=
  .obj item ∈ candidates ∧ validate_context_item item = .ok () ∧ Eligible recipe run grants now task_tags item

section
variable {recipe run : Dict} {grants : List Dict} {now : Instant} {task_tags : List String}

theorem sort_item_eligible {sorted next : Sorted} {item : Json}
    (ran : sort_item recipe run grants now task_tags sorted item = .ok next) {member : Dict}
    (eligible : member ∈ next.eligible) : member ∈ sorted.eligible ∨
      (item = .obj member ∧ validate_context_item member = .ok () ∧
        Eligible recipe run grants now task_tags member) := by
  unfold sort_item at ran
  simp only [bind_ok_iff,as_dict_ok] at ran
  obtain ⟨fields,rfl,_,valid,_,_,reason,examined,ran⟩ := ran
  cases reason with
  | some reason =>
    cases pure_ok_iff.mp ran
    exact .inl eligible
  | none =>
    cases pure_ok_iff.mp ran
    rcases List.mem_append.mp eligible with before | here
    · exact .inl before
    · rw [List.mem_singleton.mp here]
      exact .inr ⟨rfl,valid,first_reason_none.mp examined⟩

theorem sorted_admitted {candidates : List Json} {sorted : Sorted}
    (ran : candidates.foldlM (sort_item recipe run grants now task_tags) {} = .ok sorted) :
    ∀ item ∈ sorted.eligible, Admitted recipe run grants now task_tags candidates item := by
  refine foldlM_invariant
    (fun done state => ∀ item ∈ state.eligible, Admitted recipe run grants now task_tags done item) ?_ (by simp) ran
  intro done state item next holds stepped member eligible
  rcases sort_item_eligible stepped eligible with before | ⟨rfl,valid,here⟩
  · obtain ⟨listed,rest⟩ := holds member before
    exact ⟨by simp [listed],rest⟩
  · exact ⟨by simp,valid,here⟩

/-- A claim is represented by one of its eligible items. -/
theorem resolve_claim_member {eligible : List Dict} {claim_key : String} {resolved : List (Dict × List Exclusion)}
    (ran : resolve_claim eligible claim_key = .ok resolved) : ∀ entry ∈ resolved, entry.1 ∈ eligible := by
  unfold resolve_claim at ran
  split at ran
  · cases pure_ok_iff.mp ran; simp
  · rename_i first rest claimed
    dsimp only at ran
    split at ran
    · cases pure_ok_iff.mp ran; simp
    · rename_i leader leaders led
      simp only [bind_ok_iff,pure_ok_iff] at ran
      obtain ⟨_,_,rfl⟩ := ran
      intro entry member
      rw [List.mem_singleton.mp member]
      have winner : firstMax recency leader leaders ∈ leader :: leaders := (firstMax_spec recency leader leaders).1
      rw [← led] at winner
      have claimant := (List.mem_filter.mp winner).1
      rw [← claimed] at claimant
      exact (List.mem_filter.mp claimant).1

theorem resolve_member {eligible : List Dict} {resolved : List (Dict × List Exclusion)}
    (ran : resolve eligible = .ok resolved) : ∀ entry ∈ resolved, entry.1 ∈ eligible := by
  unfold resolve at ran
  simp only [bind_ok_iff,pure_ok_iff] at ran
  obtain ⟨claims,each,rfl⟩ := ran
  intro entry member
  obtain ⟨claim,inside,here⟩ := List.mem_flatten.mp member
  obtain ⟨_,_,resolvedClaim⟩ := mapM_result each inside
  exact resolve_claim_member resolvedClaim entry here

theorem budget_selected (recipe : Dict) (resolved : List Dict) :
    ∀ selected ∈ (resolved.foldl (budget_item recipe) {}).selected, ∃ item ∈ resolved, selected = rendered item := by
  induction resolved using List.reverseRecOn with
  | nil => simp
  | append_singleton resolved item ih =>
    intro selected member
    rw [List.foldl_append] at member
    simp only [List.foldl_cons,List.foldl_nil] at member
    unfold budget_item at member
    split at member
    · obtain ⟨other,inside,same⟩ := ih selected member
      exact ⟨other,by simp [inside],same⟩
    · rcases List.mem_append.mp member with before | here
      · obtain ⟨other,inside,same⟩ := ih selected before
        exact ⟨other,by simp [inside],same⟩
      · exact ⟨item,by simp,List.mem_singleton.mp here⟩

end

section
variable {recipe run : Dict} {candidates grants : Json} {generated_at : String}

theorem assemble_ok {compiled : Compilation} (ran : assemble recipe run candidates grants generated_at = .ok compiled) :
    (∃ s, Dict.get? "runId" run = some (.str s) ∧ blank s = false) ∧
    (∃ s, Dict.get? "role" run = some (.str s) ∧ blank s = false) ∧
    ∃ now grantDicts task_tags items, parse_time (.str generated_at) "generatedAt" = .ok now ∧
      (∀ grant ∈ grantDicts, ∃ listed ∈ (grants.iter?).getD [], listed = .obj grant) ∧
      candidates.iter? = some items ∧
      ∀ selected ∈ compiled.selected, ∃ item, selected = rendered item ∧
        Admitted recipe run grantDicts now task_tags items item := by
  unfold assemble at ran
  simp only [bind_ok_iff,iterate_ok,required_strings_ok,pure_ok_iff] at ran
  obtain ⟨_,_,_,texts,_,_,_,_,task_tags,_,_,_,_,_,now,parsed,grantItems,listed,grantDicts,granted,items,iterated,
    sorted,ranSorted,resolved,ranResolved,_,_,rfl⟩ := ran
  refine ⟨texts "runId" (by simp),texts "role" (by simp),now,grantDicts,task_tags,items,parsed,?_,iterated,?_⟩
  · intro grant member
    obtain ⟨source,inside,ran⟩ := mapM_result granted member
    simp only [bind_ok_iff,as_dict_ok,pure_ok_iff] at ran
    obtain ⟨_,rfl,_,_,rfl⟩ := ran
    exact ⟨_,by rw [listed]; exact inside,rfl⟩
  · intro selected member
    obtain ⟨item,inside,same⟩ := budget_selected _ _ selected member
    obtain ⟨entry,entryMember,rfl⟩ := List.mem_map.mp (mem_sortedBy.mp inside)
    exact ⟨entry.1,same,sorted_admitted ranSorted entry.1 (resolve_member ranResolved entry entryMember)⟩

/-- Every selected item is a rendered valid candidate that no filter excluded. -/
theorem compile_context_selected {manifest : ContextManifest}
    (ran : compile_context recipe run candidates grants generated_at = .ok manifest) :
    ∃ now grantDicts task_tags items, parse_time (.str generated_at) "generatedAt" = .ok now ∧
      (∀ grant ∈ grantDicts, ∃ listed ∈ (grants.iter?).getD [], listed = .obj grant) ∧
      candidates.iter? = some items ∧
      ∀ selected ∈ manifest.selected_items, ∃ item, selected = rendered item ∧
        Admitted recipe run grantDicts now task_tags items item := by
  unfold compile_context at ran
  simp only [bind_ok_iff,pure_ok_iff] at ran
  obtain ⟨compiled,assembled,rfl⟩ := ran
  exact (assemble_ok assembled).2.2

/-- A grant that is found covers the item and has not run out. -/
theorem has_grant_true {item : Dict} {now : Instant} {grants : List Dict}
    (ran : has_grant item run now grants = .ok true) : ∃ grant ∈ grants, grant_covers grant item run = true ∧
      ∃ expires, parse_time (grant.get "expiresAt") "expiresAt" = .ok expires ∧ now ≤ expires := by
  induction grants with
  | nil => simp [has_grant] at ran
  | cons grant rest ih =>
    unfold has_grant at ran
    simp only [bind_ok_iff] at ran
    obtain ⟨_,_,ran⟩ := ran
    by_cases covers : grant_covers grant item run = true
    · rw [if_pos covers,bind_ok_iff] at ran
      obtain ⟨expires,parsed,ran⟩ := ran
      by_cases current : now ≤ expires
      · exact ⟨grant,by simp,covers,expires,parsed,current⟩
      · rw [if_neg current] at ran
        obtain ⟨other,member,grants⟩ := ih ran
        exact ⟨other,by simp [member],grants⟩
    · rw [if_neg covers] at ran
      obtain ⟨other,member,grants⟩ := ih ran
      exact ⟨other,by simp [member],grants⟩

/-- An eligible item above the open levels was granted to the run. -/
theorem eligible_granted {grants : List Dict} {now : Instant} {task_tags : List String} {item : Dict}
    (eligible : Eligible recipe run grants now task_tags item)
    (guarded : EXPLICIT_GRANT_LEVELS.contains (text item "sensitivity") = true) :
    ∃ grant ∈ grants, grant_covers grant item run = true := by
  have granted : disclosed item run grants now = .ok true := 
    eligible (disclosed item run grants now,"exact disclosure grant missing") (by simp [filters])
  unfold disclosed at granted
  rw [if_pos guarded] at granted
  obtain ⟨grant,member,covers,_⟩ := has_grant_true granted
  exact ⟨grant,member,covers⟩

end

end V3Aidlc.ContextCompiler
