import V3Aidlc.RuntimeConfig
import V3Aidlc.KeyOrder

/-!
What the validation of a runtime profile asks, and that it does not ask for an order of keys
(`valid_same`): a profile with its keys in another order, at any depth, is valid too.
-/
namespace V3Aidlc.RuntimeProfiles
open V3Aidlc.Values V3Aidlc.Loops V3Aidlc.Contracts V3Aidlc.RuntimeConfig V3Aidlc.Documents
open V3Aidlc.DeepMerges V3Aidlc.KeyOrder

section
variable {lower : String → String}

/-! ### A valid profile -/

/-- What is asked of a profile, with the names of its components and its configuration. -/
structure ValidProfile (lower : String → String) (profile : Dict) (components : List String) (configuration : Dict) :
    Prop where
  texts : ∀ key ∈ ["schemaVersion","profileId","profileKind","description"],
    ∃ s, Dict.get? key profile = some (.str s) ∧ blank s = false
  kind : text profile "profileKind" ∈ PROFILE_KINDS
  held : profile.get "components" = .arr (components.map Json.str)
  nonempty : components ≠ []
  known : ∀ component ∈ components, component ∈ COMPONENTS
  distinct : components.Nodup
  configured : profile.get "configuration" = .obj configuration
  valid : validate_configuration lower profile components configuration = .ok ()

theorem known_components {values : List Json} :
    values.anyM (fun component => do return !(← in_set component COMPONENTS)) = .ok false ↔
      ∃ components : List String, values = components.map Json.str ∧
        ∀ component ∈ components, component ∈ COMPONENTS := by
  rw [anyM_false_iff]
  simp only [bind_ok_iff,pure_ok_iff,Bool.not_eq_false',exists_eq_right,in_set_ok_true]
  induction values with
  | nil => simp
  | cons value rest ih =>
    rw [List.forall_mem_cons,ih]
    constructor
    · rintro ⟨⟨s,known,rfl⟩,components,rfl,others⟩
      exact ⟨s :: components,rfl,List.forall_mem_cons.mpr ⟨known,others⟩⟩
    · rintro ⟨components,listed,known⟩
      cases components with
      | nil => simp at listed
      | cons s components =>
        obtain ⟨rfl,rfl⟩ := List.cons.inj listed
        rw [List.forall_mem_cons] at known
        exact ⟨⟨s,known.1,rfl⟩,components,rfl,known.2⟩

theorem component_names (components : List String) :
    (components.map Json.str).filterMap Json.str? = components := by
  rw [List.filterMap_map]
  exact List.filterMap_some

theorem validate_profile_iff {profile : Dict} : validate_runtime_profile lower profile = .ok () ↔
    ∃ components configuration, ValidProfile lower profile components configuration := by
  unfold validate_runtime_profile
  simp only [bind_ok_iff,reject,reject_if_ok]
  constructor
  · rintro ⟨_,texts,_,kind,valid⟩
    cases held : profile.get "components" with
    | arr values =>
      simp only [held,bind_ok_iff,reject_if_ok] at valid
      obtain ⟨_,nonempty,unknown,searched,_,none,_,distinct,valid⟩ := valid
      subst none
      obtain ⟨components,rfl,known⟩ := known_components.mp searched
      rw [component_names] at distinct valid
      cases configured : profile.get "configuration" with
      | obj configuration =>
        rw [configured] at valid
        exact ⟨components,configuration,(required_strings_ok _).mp texts,by simpa using kind,held,
          by simpa using nonempty,known,by simpa using distinct,configured,valid⟩
      | _ => simp [configured,runtime_error] at valid
    | _ => simp [held,runtime_error] at valid
  · rintro ⟨components,configuration,valid⟩
    refine ⟨(),(required_strings_ok _).mpr valid.texts,(),by simpa using valid.kind,?_⟩
    simp only [valid.held,bind_ok_iff,reject_if_ok,component_names,valid.configured]
    exact ⟨(),by simpa using valid.nonempty,false,known_components.mpr ⟨components,rfl,valid.known⟩,(),rfl,(),
      by simpa using valid.distinct,valid.valid⟩

/-- What is asked of the configuration of a profile. -/
structure ValidConfiguration (lower : String → String) (profile : Dict) (components : List String)
    (configuration : Dict) : Prop where
  state : (configuration.get "state").isDict = true
  authority : (fields (configuration.get "state")).get "authority" = .str "state.db"
  snapshots : ((fields (configuration.get "state")).get "snapshotAuthority").isFalse = true
  security : (configuration.get "security").isDict = true
  secrets : ((fields (configuration.get "security")).get "allowRawSecrets").isFalse = true
  production : text profile "profileKind" = "production" → validate_production configuration components = .ok ()
  references : ∀ entry ∈ walkFields "" configuration, check_secret lower entry = .ok ()

theorem validate_configuration_iff {profile configuration : Dict} {components : List String} :
    validate_configuration lower profile components configuration = .ok () ↔
      ValidConfiguration lower profile components configuration := by
  unfold validate_configuration
  simp only [bind_ok_iff,reject,reject_if_ok,Bool.or_eq_false_iff,Bool.not_eq_false',eq_str_right]
  constructor
  · rintro ⟨_,⟨state,authority⟩,_,snapshots,_,⟨security,secrets⟩,rest⟩
    split at rest
    · obtain ⟨_,production,references⟩ := bind_ok_iff.mp rest
      exact ⟨state,authority,snapshots,security,secrets,fun _ => production,forM_ok_iff.mp references⟩
    · rename_i other
      exact ⟨state,authority,snapshots,security,secrets,fun same => absurd same other,forM_ok_iff.mp rest⟩
  · intro valid
    refine ⟨(),⟨valid.state,valid.authority⟩,(),valid.snapshots,(),⟨valid.security,valid.secrets⟩,?_⟩
    have references := forM_ok_iff (u := ()).mpr valid.references
    split
    · rename_i production
      exact bind_ok_iff.mpr ⟨(),valid.production production,references⟩
    · exact references

/-- The validation of a profile with an assembled configuration is about that configuration. -/
theorem assembled_valid {profile configuration : Dict}
    (valid : validate_runtime_profile lower (profile.set "configuration" (.obj configuration)) = .ok ()) :
    ∃ components, ValidConfiguration lower (profile.set "configuration" (.obj configuration)) components
      configuration := by
  obtain ⟨components,held,valid⟩ := validate_profile_iff.mp valid
  have configured := valid.configured
  rw [get_set,if_pos rfl] at configured
  obtain rfl := Json.obj.inj configured
  exact ⟨components,validate_configuration_iff.mp valid.valid⟩

/-! ### What a walk visits -/

theorem mem_walkFields {under : String} {given : List (String × Json)} {entry : String × Json} :
    entry ∈ walkFields under given ↔ ∃ kv ∈ given, entry = (path_of under kv.1,kv.2) ∨
      entry ∈ walk (path_of under kv.1) kv.2 := by
  induction given with
  | nil => simp [walkFields]
  | cons kv given ih =>
    obtain ⟨k,v⟩ := kv
    rw [walkFields,List.mem_append,List.mem_cons,ih]
    simp

theorem mem_walkItems {under : String} {index : Nat} {items : List Json} {entry : String × Json} :
    entry ∈ walkItems under index items ↔ ∃ i value, items[i]? = some value ∧
      entry ∈ walk (under ++ "[" ++ toString (index + i) ++ "]") value := by
  induction items generalizing index with
  | nil => simp [walkItems]
  | cons value items ih =>
    rw [walkItems,List.mem_append,ih]
    constructor
    · rintro (here | ⟨i,other,found,later⟩)
      · exact ⟨0,value,rfl,here⟩
      · refine ⟨i + 1,other,found,?_⟩
        rwa [Nat.add_assoc,Nat.add_comm 1 i] at later
    · rintro ⟨i,other,found,inside⟩
      cases i with
      | zero =>
        obtain rfl := Option.some.inj found
        exact .inl inside
      | succ i =>
        refine .inr ⟨i,other,found,?_⟩
        rwa [Nat.add_assoc,Nat.add_comm 1 i]

/-- A walk through the same value visits the same values at the same paths. -/
theorem walk_same {v : Json} : ∀ {w : Json} {under : String}, v.proper = true → w.proper = true → same v w = true →
    ∀ entry ∈ walk under w, ∃ value, (entry.1,value) ∈ walk under v ∧ same value entry.2 = true := by
  induction v using by_parts with
  | arr items ih =>
    intro w under proper proper' equal entry visited
    obtain ⟨others,rfl,pairs⟩ := same_list equal
    rw [proper_arr] at proper proper'
    rw [walk,mem_walkItems] at visited
    obtain ⟨i,other,found,inside⟩ := visited
    obtain ⟨item,here,holds⟩ := forall₂_at pairs found
    have member := List.mem_of_getElem? here
    obtain ⟨value,inside,values⟩ := ih item member (proper item member) (proper' other (List.mem_of_getElem? found))
      holds entry inside
    rw [walk]
    exact ⟨value,mem_walkItems.mpr ⟨i,item,here,inside⟩,values⟩
  | obj given ih =>
    intro w under proper proper' equal entry visited
    obtain ⟨others,rfl,equal⟩ := same_dict equal
    have lookups := (same_lookups (proper_dict.mp proper).1 (proper_dict.mp proper').1).mp equal
    rw [walk,mem_walkFields] at visited
    obtain ⟨kv,member,visited⟩ := visited
    obtain ⟨v,here,holds⟩ := rel_left (lookups _) (get?_of_mem (proper_dict.mp proper').1 member)
    rw [walk]
    rcases visited with rfl | inside
    · exact ⟨v,mem_walkFields.mpr ⟨_,get?_mem here,.inl rfl⟩,holds⟩
    · obtain ⟨value,inside,values⟩ := ih _ (get?_mem here) (proper_found proper here)
        ((proper_dict.mp proper').2 kv member) holds entry inside
      exact ⟨value,mem_walkFields.mpr ⟨_,get?_mem here,.inr inside⟩,values⟩
  | _ =>
    intro w under _ _ equal entry visited
    obtain rfl := same_plain rfl rfl equal
    simp [walk] at visited

/-! ### Keys in another order -/

theorem fields_same {v w : Json} (equal : same v w = true) : same (.obj (fields v)) (.obj (fields w)) = true := by
  cases v <;> cases w <;> simp_all [same,fields,Json.dict?,sameFields]

theorem proper_fields {v : Json} (proper : v.proper = true) : (Json.obj (fields v)).proper = true := by
  cases v <;> first | exact proper | rfl

/-- The value of a setting in a section. -/
theorem setting_same {xs ys : Dict} (proper : (Json.obj xs).proper = true) (proper' : (Json.obj ys).proper = true)
    (equal : same (.obj xs) (.obj ys) = true) (part name : String) :
    same ((fields (xs.get part)).get name) ((fields (ys.get part)).get name) = true :=
  get_same (proper_fields (proper_get proper part)) (proper_fields (proper_get proper' part))
    (fields_same (get_same proper proper' equal part)) name

/-- A part that is an object, or absent. -/
theorem part_same {xs ys part : Dict} (proper : (Json.obj xs).proper = true) (proper' : (Json.obj ys).proper = true)
    (equal : same (.obj xs) (.obj ys) = true) {key : String} (held : as_dict (xs.getOr key (.obj [])) = .ok part) :
    ∃ other, as_dict (ys.getOr key (.obj [])) = .ok other ∧
      ∀ name, same (part.get name) (other.get name) = true := by
  have lookups := (same_lookups (proper_dict.mp proper).1 (proper_dict.mp proper').1).mp equal
  unfold Dict.getOr at held ⊢
  rw [as_dict_ok] at held
  cases here : Dict.get? key xs with
  | none =>
    rw [rel_none (lookups _) here]
    rw [here] at held
    obtain rfl := Json.obj.inj held
    exact ⟨[],rfl,fun _ => rfl⟩
  | some v =>
    obtain ⟨w,there,holds⟩ := rel_right (lookups _) here
    rw [here] at held
    obtain rfl : v = .obj part := held
    obtain ⟨other,rfl,holds⟩ := same_dict holds
    rw [there]
    exact ⟨other,rfl,get_same (proper_found proper here) (proper_found proper' there) holds⟩

section
variable {profile other configuration others : Dict} {components : List String}

theorem production_same (proper : (Json.obj configuration).proper = true) (proper' : (Json.obj others).proper = true)
    (equal : same (.obj configuration) (.obj others) = true)
    (valid : validate_production configuration components = .ok ()) :
    validate_production others components = .ok () := by
  unfold validate_production at valid ⊢
  simp only [bind_ok_iff,reject,reject_if_ok,Json.isTrue] at valid ⊢
  obtain ⟨_,complete,_,provenance,telemetry,held,_,enabled,recovery,held',tested⟩ := valid
  obtain ⟨telemetry',found,telemetries⟩ := part_same proper proper' equal held
  obtain ⟨recovery',found',recoveries⟩ := part_same proper proper' equal held'
  rw [same_bool? (setting_same proper proper' equal _ _)] at provenance
  rw [same_bool? (telemetries _)] at enabled
  rw [same_bool? (recoveries _)] at tested
  exact ⟨(),complete,(),provenance,telemetry',found,(),enabled,recovery',found',tested⟩

theorem check_secret_same {path : String} {v w : Json} (equal : same v w = true)
    (checked : check_secret lower (path,v) = .ok ()) : check_secret lower (path,w) = .ok () := by
  have references : secret_reference v = secret_reference w := by
    cases v <;> cases w <;> simp_all [same,secret_reference]
  unfold check_secret at checked ⊢
  rwa [same_isNull equal,references] at checked

theorem configuration_same (proper : (Json.obj configuration).proper = true)
    (proper' : (Json.obj others).proper = true) (equal : same (.obj configuration) (.obj others) = true)
    (kind : text other "profileKind" = text profile "profileKind")
    (valid : ValidConfiguration lower profile components configuration) :
    ValidConfiguration lower other components others := by
  have parts := get_same proper proper' equal
  have settings := setting_same proper proper' equal
  refine ⟨?_,?_,?_,?_,?_,?_,?_⟩
  · rw [← same_isDict (parts "state")]
    exact valid.state
  · have authority := settings "state" "authority"
    rw [valid.authority] at authority
    exact same_str.mp authority
  · unfold Json.isFalse
    rw [← same_bool? (settings _ _)]
    exact valid.snapshots
  · rw [← same_isDict (parts "security")]
    exact valid.security
  · unfold Json.isFalse
    rw [← same_bool? (settings _ _)]
    exact valid.secrets
  · intro production
    rw [kind] at production
    exact production_same proper proper' equal (valid.production production)
  · intro entry visited
    obtain ⟨value,inside,holds⟩ := walk_same (v := .obj configuration) (w := .obj others) proper proper' equal entry
      (by rwa [walk])
    rw [walk] at inside
    exact check_secret_same holds (valid.references _ inside)

/-- A profile is valid whatever the order of its keys. -/
theorem valid_same (proper : (Json.obj profile).proper = true) (proper' : (Json.obj other).proper = true)
    (equal : same (.obj profile) (.obj other) = true) (valid : validate_runtime_profile lower profile = .ok ()) :
    validate_runtime_profile lower other = .ok () := by
  obtain ⟨components,configuration,valid⟩ := validate_profile_iff.mp valid
  have lookups := (same_lookups (proper_dict.mp proper).1 (proper_dict.mp proper').1).mp equal
  have parts := get_same proper proper' equal
  have texts : ∀ key, text other key = text profile key := by
    intro key
    unfold text
    rw [same_str? (parts key)]
  have held : other.get "components" = .arr (components.map Json.str) := by
    have listed := parts "components"
    rw [valid.held] at listed
    obtain ⟨values,found,pairs⟩ := same_list listed
    rw [found,same_strings pairs]
  have configured := parts "configuration"
  rw [valid.configured] at configured
  obtain ⟨others,found,configured⟩ := same_dict configured
  refine validate_profile_iff.mpr ⟨components,others,?_,?_,held,valid.nonempty,valid.known,valid.distinct,found,?_⟩
  · intro key member
    obtain ⟨s,here,visible⟩ := valid.texts key member
    obtain ⟨w,there,holds⟩ := rel_right (lookups _) here
    obtain rfl := same_str.mp holds
    exact ⟨s,there,visible⟩
  · rw [texts]
    exact valid.kind
  · refine validate_configuration_iff.mpr (configuration_same ?_ ?_ configured (texts _)
      (validate_configuration_iff.mp valid.valid))
    · rw [← valid.configured]
      exact proper_get proper "configuration"
    · rw [← found]
      exact proper_get proper' "configuration"

end

end

end V3Aidlc.RuntimeProfiles
