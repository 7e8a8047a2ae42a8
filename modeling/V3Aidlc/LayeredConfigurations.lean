import V3Aidlc.ProtectedSettings
import V3Aidlc.RuntimeProfiles

/-!
A merge of layers whose keys are unambiguous. Written entry by entry, with keys renamed to the
spelling that is there, it is the right-biased merge of the two objects (`merge_iff`); so an
assembled configuration is that of its five layers (`assembled_merge`).
-/
namespace V3Aidlc.LayeredConfigurations
open V3Aidlc.Values V3Aidlc.Loops V3Aidlc.Contracts V3Aidlc.RuntimeConfig V3Aidlc.ConfigurationMerges
open V3Aidlc.ProtectedSettings V3Aidlc.Documents V3Aidlc.DeepMerges V3Aidlc.KeyOrder V3Aidlc.RuntimeProfiles

section
variable (lower : String → String)

mutual
/-- No protected setting of the base is given another value. -/
def allowed : Json → Json → String → Bool
  | .obj override,.obj base,path => allowedFields override base path
  | _,_,_ => true
def allowedFields : List (String × Json) → Dict → String → Bool
  | [],_,_ => true
  | (name,value) :: rest,base,under =>
    (match entry_of lower base name with
      | some entry => !(PROTECTED_PATHS.contains (path_of under entry.1) && !entry.2.eq value) &&
          allowed value entry.2 (path_of under entry.1)
      | none => true) && allowedFields rest base under
end

end

section
variable {lower : String → String}

theorem named_entry {d : Dict} (distinct : Distinct lower d) (name : String) :
    named lower d name = (entry_of lower d name).toList := by
  induction d with
  | nil => rfl
  | cons entry d ih =>
    obtain ⟨fresh,later⟩ := List.nodup_cons.mp distinct
    rw [named_cons,entry_of_cons,ih later]
    split
    · rename_i same
      have absent : entry_of lower d name = none := by
        rw [entry_of_none,← same]
        exact fresh
      simp [absent]
    · rfl

/-- The key that a supplied key is matched with. -/
theorem matched_entry {d : Dict} (distinct : Distinct lower d) (name : String) :
    matched_key lower d name = ((entry_of lower d name).map Prod.fst).getD name := by
  unfold matched_key
  rw [named_entry distinct]
  cases entry_of lower d name <;> rfl

theorem allowedFields_iff {override base : Dict} {under : String} : allowedFields lower override base under = true ↔
    ∀ given ∈ override, ∀ entry, entry_of lower base given.1 = some entry →
      (path_of under entry.1 ∈ PROTECTED_PATHS → entry.2.eq given.2 = true) ∧
        allowed lower given.2 entry.2 (path_of under entry.1) = true := by
  induction override with
  | nil => simp [allowedFields]
  | cons given override ih =>
    obtain ⟨name,value⟩ := given
    rw [allowedFields,Bool.and_eq_true,ih,List.forall_mem_cons]
    cases entry_of lower base name with
    | none => simp
    | some entry => simp [Decidable.or_iff_not_imp_left,Bool.eq_false_iff]

theorem distinct_set {d : Dict} (distinct : Distinct lower d) {entry : String × Json} {name : String}
    (found : entry_of lower d name = some entry) (value : Json) : Distinct lower (d.set entry.1 value) := by
  have keys : (d.set entry.1 value).keys = d.keys := by
    have member : entry.1 ∈ d.keys := List.mem_map_of_mem (entry_of_mem found)
    rw [keys_set,if_pos member]
  rw [distinct_names] at distinct ⊢
  rwa [keys]

theorem distinct_append {d : Dict} (distinct : Distinct lower d) {name : String} (fresh : entry_of lower d name = none)
    (value : Json) : Distinct lower (d ++ [(name,value)]) := by
  unfold Distinct
  rw [List.map_append]
  refine List.Nodup.append distinct (List.nodup_singleton _) ?_
  intro other here there
  rw [List.mem_singleton.mp there] at here
  exact entry_of_none.mp fresh here

/-- What is written for an entry of the override. -/
theorem merge_value_iff {value old next : Json} {path : String}
    (nested : ∀ override base, value = .obj override → old = .obj base → ∀ merged,
      merge lower override base path = .ok merged ↔
        allowedFields lower override base path = true ∧ combined lower base override = merged) :
    merge_value lower value (some old) path = .ok next ↔
      allowed lower value old path = true ∧ combine lower old value = next := by
  cases value with
  | obj override =>
    cases old with
    | obj base =>
      rw [merge_value,combine_obj,allowed,bind_ok_iff]
      constructor
      · rintro ⟨merged,ran,same⟩
        obtain ⟨free,rfl⟩ := (nested override base rfl rfl merged).mp ran
        exact ⟨free,pure_ok_iff.mp same⟩
      · rintro ⟨free,same⟩
        exact ⟨_,(nested override base rfl rfl _).mpr ⟨free,rfl⟩,pure_ok_iff.mpr same⟩
    | _ => simp [merge_value,allowed,combine]
  | _ => simp [merge_value,allowed,combine]

/-- The entries that are left do not see what was written for another name. -/
theorem allowedFields_congr {rest base next : Dict} {under : String}
    (agree : ∀ given ∈ rest, entry_of lower next given.1 = entry_of lower base given.1) :
    allowedFields lower rest next under = allowedFields lower rest base under := by
  rw [Bool.eq_iff_iff,allowedFields_iff,allowedFields_iff]
  constructor
  · intro free given member entry found
    exact free given member entry ((agree given member).trans found)
  · intro free given member entry found
    exact free given member entry ((agree given member).symm.trans found)

section
variable {base rest next : Dict} {name under : String} {value : Json} (distinct : Distinct lower base)
include distinct

theorem merge_fresh (fresh : entry_of lower base name = none) :
    merge lower ((name,value) :: rest) base under = .ok next ↔
      merge lower rest (base ++ [(name,value)]) under = .ok next := by
  have absent : Dict.get? name base = none := by
    rw [Option.eq_none_iff_forall_ne_some]
    intro old held
    rw [get?_entry distinct,fresh] at held
    cases held
  have written : merge_value lower value none (path_of under name) = .ok value := by cases value <;> rfl
  have key : matched_key lower base name = name := by
    rw [matched_entry distinct,fresh]
    rfl
  rw [merge_cons_ok,key,absent,written]
  simp [overrides_protected,absent,set_fresh fresh]

theorem merge_entry {entry : String × Json} (found : entry_of lower base name = some entry) :
    merge lower ((name,value) :: rest) base under = .ok next ↔
      (path_of under entry.1 ∈ PROTECTED_PATHS → entry.2.eq value = true) ∧ ∃ written,
        merge_value lower value (some entry.2) (path_of under entry.1) = .ok written ∧
        merge lower rest (base.set entry.1 written) under = .ok next := by
  have held : Dict.get? entry.1 base = some entry.2 := get?_of_mem (distinct_keys distinct) (entry_of_mem found)
  have key : matched_key lower base name = entry.1 := by
    rw [matched_entry distinct,found]
    rfl
  rw [merge_cons_ok,key,held]
  simp [overrides_protected,held]

end

theorem combined_nil (base : Dict) : combined lower base [] = base := by
  unfold combined
  rw [resolve_eq]
  have same : ∀ entry ∈ base, resolved lower [] entry = id entry := fun _ _ => rfl
  rw [List.map_congr_left same]
  simp

/-- A merge of unambiguous objects is the right-biased one, as long as no protected setting is
    given another value. -/
theorem merge_iff {override : Json} : ∀ {fields base next : Dict} {under : String}, override = .obj fields →
    unambiguous lower override = true → unambiguous lower (.obj base) = true →
    (merge lower fields base under = .ok next ↔
      allowedFields lower fields base under = true ∧ combined lower base fields = next) := by
  induction override using by_parts with
  | obj override ih =>
    intro fields base next under same clear clear'
    obtain rfl := Json.obj.inj same
    obtain ⟨distinct,each⟩ := unambiguous_obj.mp clear
    obtain ⟨distinct',each'⟩ := unambiguous_obj.mp clear'
    clear same clear clear'
    induction override generalizing base with
    | nil =>
      rw [merge,pure_ok_iff,combined_nil]
      simp [allowedFields]
    | cons given rest step =>
      obtain ⟨name,value⟩ := given
      rw [List.forall_mem_cons] at each
      obtain ⟨fresh,distinct⟩ := List.nodup_cons.mp distinct
      have once : entry_of lower rest name = none := entry_of_none.mpr fresh
      have apart : ∀ other ∈ rest, lower name ≠ lower other.1 := by
        intro other member same
        exact fresh (List.mem_map.mpr ⟨other,member,same.symm⟩)
      have later : ∀ base : Dict, Distinct lower base → (∀ entry ∈ base, unambiguous lower entry.2 = true) →
          (merge lower rest base under = .ok next ↔
            allowedFields lower rest base under = true ∧ combined lower base rest = next) := by
        intro base distinct' each'
        exact step (fun entry member => ih entry (List.mem_cons_of_mem _ member)) distinct each.2 distinct' each'
      rw [allowedFields]
      cases found : entry_of lower base name with
      | none =>
        have agree : ∀ other ∈ rest, entry_of lower (base ++ [(name,value)]) other.1 = entry_of lower base other.1 := by
          intro other member
          rw [entry_of_append,entry_of_cons,if_neg (apart other member)]
          cases entry_of lower base other.1 <;> rfl
        rw [merge_fresh distinct' found,later _ (distinct_append distinct' found value)
          (List.forall_mem_append.mpr ⟨each',by simpa using each.1⟩),allowedFields_congr agree,
          combined_fresh value found once]
        simp
      | some entry =>
        have clear_entry : unambiguous lower entry.2 = true := each' entry (entry_of_mem found)
        have nested : ∀ override fields, value = .obj override → entry.2 = .obj fields → ∀ merged,
            merge lower override fields (path_of under entry.1) = .ok merged ↔
              allowedFields lower override fields (path_of under entry.1) = true ∧
                combined lower fields override = merged := by
          intro override fields same same' merged
          exact ih (name,value) List.mem_cons_self same each.1 (same' ▸ clear_entry)
        have agree : ∀ other ∈ rest, entry_of lower (base.set entry.1 (combine lower entry.2 value)) other.1 =
            entry_of lower base other.1 := by
          intro other member
          exact entry_of_set (by rw [entry_of_name found]; exact apart other member) _ _
        have clear_next : ∀ other ∈ base.set entry.1 (combine lower entry.2 value),
            unambiguous lower other.2 = true := by
          intro other member
          rcases mem_set member with kept | rfl
          · exact each' other kept
          · exact unambiguous_combine clear_entry each.1
        have next_iff := later _ (distinct_set distinct' found (combine lower entry.2 value)) clear_next
        rw [allowedFields_congr agree,combined_entry value distinct' found once] at next_iff
        rw [merge_entry distinct' found]
        simp only [merge_value_iff nested,and_assoc,exists_and_left,exists_eq_left',next_iff]
        simp [Decidable.or_iff_not_imp_left,Bool.eq_false_iff,and_assoc]
  | _ => intro _ _ _ _ same; cases same

/-! ### The layers of an assembly -/

theorem merges_combined {layers : List Dict} {base next : Dict}
    (clear : ∀ layer ∈ layers, unambiguous lower (.obj layer) = true) (clear' : unambiguous lower (.obj base) = true)
    (ran : layers.foldlM (fun fields override => merge lower override fields "") base = .ok next) :
    (layers.map Json.obj).foldl (combine lower) (.obj base) = .obj next ∧ unambiguous lower (.obj next) = true := by
  induction layers generalizing base with
  | nil =>
    rw [foldlM_nil_ok.mp ran] at clear' ⊢
    exact ⟨rfl,clear'⟩
  | cons layer layers ih =>
    rw [List.forall_mem_cons] at clear
    obtain ⟨middle,first,ran⟩ := foldlM_cons_ok.mp ran
    obtain ⟨_,rfl⟩ := (merge_iff rfl clear.1 clear').mp first
    rw [List.map_cons,List.foldl_cons,combine_obj]
    refine ih clear.2 ?_ ran
    rw [← combine_obj]
    exact unambiguous_combine clear' clear.1

theorem object_fields {value : Json} (object : value.isDict = true) : value = .obj (fields value) :=
  isDict_iff.mp object

theorem added_object {start next : Dict × List String} {layer : String × Json}
    (added : add_layer lower start layer = .ok next) (truthy : layer.2.truthy = true) : layer.2.isDict = true := by
  unfold add_layer at added
  rw [if_pos truthy] at added
  split at added
  · rename_i held
    rw [held]
    rfl
  · simp [runtime_error] at added

theorem or_empty_object {layer : Json} (object : (or_empty layer).truthy = true → (or_empty layer).isDict = true) :
    (or_empty layer).isDict = true := by
  unfold or_empty at object ⊢
  split
  · rename_i truthy
    rw [if_pos truthy] at object
    exact object truthy
  · rfl

variable {loads : String → Py (Option Json)} {profile : Dict} {defaults project command_line : Json}
  {environment : List (String × String)} {given : List (String × Json)}

/-- The layers of an assembly that is returned are objects. -/
theorem layers_objects (valid : validate_runtime_profile lower profile = .ok ())
    (listed : layers lower loads profile defaults project environment command_line = .ok given)
    {start final : Dict × List String} (ran : given.foldlM (add_layer lower) start = .ok final) :
    ∀ layer ∈ given, layer.2.isDict = true := by
  have objects : ∀ layer ∈ given, layer.2.truthy = true → layer.2.isDict = true := by
    refine foldlM_invariant (fun done _ => ∀ layer ∈ done, layer.2.truthy = true → layer.2.isDict = true) ?_
      (by simp) ran
    intro done state layer next held added other member
    rcases List.mem_append.mp member with earlier | last
    · exact held other earlier
    · rw [List.mem_singleton.mp last]
      exact added_object added
  obtain ⟨_,_,valid⟩ := validate_profile_iff.mp valid
  unfold layers at listed
  obtain ⟨overrides,_,listed⟩ := bind_ok_iff.mp listed
  obtain rfl := pure_ok_iff.mp listed
  simp only [List.forall_mem_cons,List.not_mem_nil,false_implies,implies_true,and_true] at objects ⊢
  refine ⟨or_empty_object objects.1,?_,or_empty_object objects.2.2.1,rfl,or_empty_object objects.2.2.2.2⟩
  rw [valid.configured]
  rfl

/-- The configuration is the merge of the layers, from the weakest to the strongest. -/
theorem assembled_merge (valid : validate_runtime_profile lower profile = .ok ())
    (listed : layers lower loads profile defaults project environment command_line = .ok given)
    (clear : ∀ layer ∈ given, unambiguous lower layer.2 = true) {configuration : Dict} {sources : List String}
    (ran : given.foldlM (add_layer lower) ([],[]) = .ok (configuration,sources)) :
    (given.map Prod.snd).foldl (combine lower) (.obj []) = .obj configuration ∧
      unambiguous lower (.obj configuration) = true := by
  have objects := layers_objects valid listed ran
  have same : (given.map (fun layer => fields layer.2)).map Json.obj = given.map Prod.snd := by
    rw [List.map_map]
    exact List.map_congr_left (fun layer member => (object_fields (objects layer member)).symm)
  rw [← same]
  refine merges_combined ?_ rfl (layers_merged ran)
  intro other member
  obtain ⟨layer,inside,rfl⟩ := List.mem_map.mp member
  rw [← object_fields (objects layer inside)]
  exact clear layer inside

end

end V3Aidlc.LayeredConfigurations
