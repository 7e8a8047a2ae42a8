import V3Aidlc.ProtectedSettings
import V3Aidlc.SettingPlaces

/-!
Raw secrets in an assembled configuration. The validation refuses them at every place but
those whose path reads `security.allowRawSecrets`, and there are more of these than the
setting itself. Since the path is protected, the first value that the layers give to such a
place decides whether it holds a raw value (`raw_free_iff`).
-/
namespace V3Aidlc.SecretSettings
open V3Aidlc.Values V3Aidlc.Loops V3Aidlc.Contracts V3Aidlc.RuntimeConfig V3Aidlc.ConfigurationMerges
open V3Aidlc.ProtectedSettings V3Aidlc.RuntimeProfiles V3Aidlc.SettingPlaces

/-! ### Raw values -/

def harmless (value : Json) : Bool := value.isNull || secret_reference value

section
variable (lower : String → String)

/-- Every key whose path has a secret name holds nothing, a reference, or is the setting that
    forbids raw secrets. -/
def RawFree (configuration : Dict) : Prop := ∀ place name value,
  found (place ++ [.key name]) (.obj configuration) = some value →
  contains_secret_name lower (spelled "" (place ++ [.key name])) = true →
  harmless value = true ∨
    (place ++ [.key name] = [.key "security",.key "allowRawSecrets"] ∧ value = .bool false)

/-! ### What layers give to a key -/

/-- The key among these that a name is matched with. -/
def route (keys : List String) (name : String) : String :=
  match keys.filter (fun key => lower key = lower name) with
  | [key] => key
  | _ => name

/-- The keys so far and the values that went to the key, after one more entry. -/
def supply (key : String) (trace : List String × List Json) (entry : String × Json) : List String × List Json :=
  let target := route lower trace.1 entry.1
  (if target ∈ trace.1 then trace.1 else trace.1 ++ [target],
    if target = key then trace.2 ++ [entry.2] else trace.2)

/-- The values that objects give to a key when they are merged in turn. -/
def supplied (key : String) : List Dict → List Json
  | [] => []
  | base :: rest => (rest.flatten.foldl (supply lower key) (base.keys,(Dict.get? key base).toList)).2

/-- The objects that the layers give to the place below `n` empty keys. -/
def level (given : List Dict) : Nat → List Dict
  | 0 => [] :: given
  | n + 1 => objects (supplied lower "" (level given n))

/-- The first value, if there is one, is no raw one. -/
def FirstHarmless (values : List Json) : Prop := ∀ value ∈ values.head?, harmless value = true

/-- No other place with the path of the setting is given a raw value first. -/
structure Guarded (given : List Dict) : Prop where
  direct : ∀ n, FirstHarmless (supplied lower EXEMPT (level lower given n))
  nested : ∀ n, FirstHarmless
    (supplied lower "allowRawSecrets" (objects (supplied lower "security" (level lower given (n + 1)))))

end

/-! ### The value of a key -/

section
variable {lower : String → String} {key under path : String}

theorem matched_route (result : Dict) (name : String) :
    matched_key lower result name = route lower result.keys name := by
  have keys : result.keys.filter (fun key => lower key = lower name) = (named lower result name).map Prod.fst := by
    unfold Dict.keys named
    rw [List.filter_map]
    rfl
  unfold matched_key route
  rw [keys]
  match named lower result name with
  | [] => rfl
  | [_] => rfl
  | _ :: _ :: _ => rfl

/-- A key that is given values holds what they leave when they are written in turn. -/
def Ends (lower : String → String) (path : String) (values : List Json) (final : Option Json) : Prop :=
  match values with
  | [] => final = none
  | first :: rest => ∃ last, rest.foldlM (overwrite lower path) first = .ok last ∧ final = some last

structure Traced (lower : String → String) (key path : String) (trace : List String × List Json) (result : Dict) :
    Prop where
  keys : trace.1 = result.keys
  ends : Ends lower path trace.2 (Dict.get? key result)
  guarded : path ∈ PROTECTED_PATHS → ∀ first ∈ trace.2.head?, ∀ last ∈ Dict.get? key result,
    harmless last = harmless first

theorem harmless_eq {old value : Json} (equal : old.eq value = true) : harmless old = harmless value := by
  cases old <;> cases value <;> simp_all [Json.eq,Json.num?,harmless,Json.isNull,secret_reference]

theorem harmless_overwrite {old value next : Json} (ran : overwrite lower path old value = .ok next)
    (equal : old.eq value = true) : harmless next = harmless old := by
  rcases overwrite_cases ran with ⟨_,_,_,rfl,rfl,_,rfl⟩ | ⟨_,rfl⟩
  · rfl
  · exact (harmless_eq equal).symm

theorem written_fresh {value next : Json} (written : merge_value lower value none path = .ok next) : next = value := by
  cases value <;> exact (Except.ok.inj written).symm

/-- One more value for a key. -/
theorem ends_snoc {values : List Json} {final : Option Json} {value next : Json} (ends : Ends lower path values final)
    (written : merge_value lower value final path = .ok next) : Ends lower path (values ++ [value]) (some next) := by
  cases values with
  | nil =>
    obtain rfl : final = none := ends
    obtain rfl := written_fresh written
    exact ⟨next,rfl,rfl⟩
  | cons first rest =>
    obtain ⟨last,ran,rfl⟩ := ends
    exact ⟨next,foldlM_snoc_ok.mpr ⟨last,ran,written⟩,rfl⟩

/-- One entry of an override. -/
theorem traced_step {trace : List String × List Json} {result : Dict} {entry : String × Json} {value : Json}
    (traced : Traced lower key (path_of under key) trace result)
    (allowed : overrides_protected result (path_of under (matched_key lower result entry.1))
      (matched_key lower result entry.1) entry.2 = false)
    (written : merge_value lower entry.2 (Dict.get? (matched_key lower result entry.1) result)
      (path_of under (matched_key lower result entry.1)) = .ok value) :
    Traced lower key (path_of under key) (supply lower key trace entry)
      (result.set (matched_key lower result entry.1) value) := by
  obtain ⟨keys,values⟩ := trace
  obtain ⟨rfl,ends,guarded⟩ := traced
  unfold supply
  dsimp only at ends guarded ⊢
  rw [← matched_route]
  generalize matched_key lower result entry.1 = target at allowed written ⊢
  refine ⟨(Documents.keys_set _ _ _).symm,?_,?_⟩
  · by_cases here : target = key
    · subst here
      rw [get?_set_self]
      simpa using ends_snoc ends written
    · rw [get?_set_ne _ _ here]
      simpa [here] using ends
  · intro isProtected first member last held
    by_cases here : target = key
    · subst here
      obtain rfl : value = last := by simpa using held
      simp only [↓reduceIte] at member
      cases values with
      | nil =>
        obtain rfl : entry.2 = first := by simpa using member
        have absent : Dict.get? target result = none := ends
        rw [absent] at written
        rw [written_fresh written]
      | cons old rest =>
        obtain rfl : old = first := by simpa using member
        obtain ⟨current,_,there⟩ := ends
        rw [there] at written
        have equal : current.eq entry.2 = true := by
          simpa [overrides_protected,isProtected,there] using allowed
        rw [harmless_overwrite written equal]
        exact guarded isProtected old rfl current there
    · rw [get?_set_ne _ _ here] at held
      rw [if_neg here] at member
      exact guarded isProtected first member last held

theorem traced_merge {override result next : Dict} {trace : List String × List Json}
    (traced : Traced lower key (path_of under key) trace result) (ran : merge lower override result under = .ok next) :
    Traced lower key (path_of under key) (override.foldl (supply lower key) trace) next := by
  induction override generalizing result trace with
  | nil =>
    rw [merge,pure_ok_iff] at ran
    rwa [← ran]
  | cons entry rest ih =>
    obtain ⟨value,allowed,written,ran⟩ := merge_cons_ok.mp ran
    exact ih (traced_step traced allowed written) ran

theorem traced_merges {overrides : List Dict} {base final : Dict} {trace : List String × List Json}
    (traced : Traced lower key (path_of under key) trace base)
    (ran : overrides.foldlM (fun fields override => merge lower override fields under) base = .ok final) :
    Traced lower key (path_of under key) (overrides.flatten.foldl (supply lower key) trace) final := by
  induction overrides generalizing base trace with
  | nil =>
    rw [foldlM_nil_ok.mp ran] at traced
    exact traced
  | cons override overrides ih =>
    obtain ⟨next,first,ran⟩ := foldlM_cons_ok.mp ran
    rw [List.flatten_cons,List.foldl_append]
    exact ih (traced_merge traced first) ran

theorem traced_base (base : Dict) : Traced lower key path (base.keys,(Dict.get? key base).toList) base := by
  refine ⟨rfl,?_,?_⟩
  · cases Dict.get? key base with
    | none => rfl
    | some value => exact ⟨value,rfl,rfl⟩
  · intro _ first member last held
    rw [Option.mem_def.mp held] at member
    obtain rfl : last = first := by simpa using member
    rfl

/-! ### Objects below a key -/

/-- The value is the merge of the objects, or no object where there is none. -/
def Reached (lower : String → String) (path : String) (objects : List Dict) (value : Option Json) : Prop :=
  match objects with
  | [] => ∀ fields, value ≠ some (.obj fields)
  | base :: rest => ∃ merged, value = some (.obj merged) ∧
      rest.foldlM (fun fields override => merge lower override fields path) base = .ok merged

theorem below_plain {value : Option Json} (plain : ∀ fields, value ≠ some (.obj fields)) (key : String) :
    value.bind (found [.key key]) = none := by
  cases value with
  | none => rfl
  | some value =>
    refine found_key_plain ?_
    cases value <;> first | rfl | exact absurd rfl (plain _)

theorem below_object (fields : Dict) (key : String) :
    (some (Json.obj fields)).bind (found [.key key]) = Dict.get? key fields := by
  rw [Option.bind_some,found_key]
  cases Dict.get? key fields <;> rfl

theorem supplied_cons (key : String) (base : Dict) (rest : List Dict) : supplied lower key (base :: rest) =
    (rest.flatten.foldl (supply lower key) (base.keys,(Dict.get? key base).toList)).2 := rfl

section
variable {base final : Dict} {rest : List Dict}
  (ran : rest.foldlM (fun fields override => merge lower override fields under) base = .ok final)
include ran

theorem supplied_traced (key : String) : Traced lower key (path_of under key)
    (rest.flatten.foldl (supply lower key) (base.keys,(Dict.get? key base).toList)) final :=
  traced_merges (traced_base base) ran

/-- The objects that are given to a key make up what is below it. -/
theorem supplied_reached (key : String) :
    Reached lower (path_of under key) (objects (supplied lower key (base :: rest))) (Dict.get? key final) := by
  have ends := (supplied_traced ran key).ends
  rw [supplied_cons]
  cases given : (rest.flatten.foldl (supply lower key) (base.keys,(Dict.get? key base).toList)).2 with
  | nil =>
    rw [given] at ends
    have absent : Dict.get? key final = none := ends
    rw [absent]
    intro fields
    simp
  | cons first others =>
    rw [given] at ends
    obtain ⟨last,written,there⟩ := ends
    rw [there]
    rcases overwrites_objects written with ⟨none,plain⟩ | ⟨object,more,merged,listed,rfl,merges⟩
    · rw [none]
      rintro fields held
      obtain rfl := Option.some.inj held
      cases plain
    · rw [listed]
      exact ⟨merged,rfl,merges⟩

/-- The value of a protected key is harmless when the first value given to it is. -/
theorem supplied_harmless {key : String} (isProtected : path_of under key ∈ PROTECTED_PATHS) :
    FirstHarmless (supplied lower key (base :: rest)) ↔ ∀ value ∈ Dict.get? key final, harmless value = true := by
  obtain ⟨_,ends,guarded⟩ := supplied_traced ran key
  have guarded := guarded isProtected
  rw [supplied_cons]
  unfold FirstHarmless
  cases given : (rest.flatten.foldl (supply lower key) (base.keys,(Dict.get? key base).toList)).2 with
  | nil =>
    rw [given] at ends
    have absent : Dict.get? key final = none := ends
    simp [absent]
  | cons first others =>
    rw [given] at ends guarded
    obtain ⟨last,_,there⟩ := ends
    have equal := guarded first rfl last there
    simp [there,equal]

end

theorem reached_below {given : List Dict} {value : Option Json} (reached : Reached lower under given value)
    (key : String) :
    Reached lower (path_of under key) (objects (supplied lower key given)) (value.bind (found [.key key])) := by
  cases given with
  | nil =>
    rw [below_plain reached]
    intro fields
    simp
  | cons base rest =>
    obtain ⟨merged,rfl,ran⟩ := reached
    rw [below_object]
    exact supplied_reached ran key

theorem harmless_below {given : List Dict} {value : Option Json} (reached : Reached lower under given value)
    {key : String} (isProtected : path_of under key ∈ PROTECTED_PATHS) :
    FirstHarmless (supplied lower key given) ↔
      ∀ inside ∈ value.bind (found [.key key]), harmless inside = true := by
  cases given with
  | nil =>
    rw [below_plain reached]
    simp [FirstHarmless,supplied]
  | cons base rest =>
    obtain ⟨merged,rfl,ran⟩ := reached
    rw [below_object]
    exact supplied_harmless ran isProtected

/-! ### The places with the exempt path -/

theorem nested_split (n : Nat) : beyond n [.key "security",.key "allowRawSecrets"] =
    (List.replicate n (.key "") ++ [.key "security"]) ++ [.key "allowRawSecrets"] := by
  simp [beyond]

section
variable {layers : List Dict} {configuration : Dict}
  (ran : layers.foldlM (fun fields override => merge lower override fields "") [] = .ok configuration)
include ran

theorem level_reached (n : Nat) :
    Reached lower "" (level lower layers n) (found (List.replicate n (.key "")) (.obj configuration)) := by
  induction n with
  | zero => exact ⟨configuration,rfl,ran⟩
  | succ n ih =>
    rw [List.replicate_succ',found_append]
    exact reached_below ih ""

theorem direct_harmless (n : Nat) : FirstHarmless (supplied lower EXEMPT (level lower layers n)) ↔
    ∀ value ∈ found (beyond n [.key EXEMPT]) (.obj configuration), harmless value = true := by
  unfold beyond
  rw [found_append]
  exact harmless_below (level_reached ran n) (by decide +kernel)

theorem nested_harmless (n : Nat) :
    FirstHarmless (supplied lower "allowRawSecrets" (objects (supplied lower "security" (level lower layers n)))) ↔
      ∀ value ∈ found (beyond n [.key "security",.key "allowRawSecrets"]) (.obj configuration),
        harmless value = true := by
  rw [nested_split,found_append,found_append]
  exact harmless_below (reached_below (level_reached ran n) "security") (by decide +kernel)

end

theorem setting_false {configuration : Dict} {profile : Dict} {components : List String}
    (valid : ValidConfiguration lower profile components configuration) {value : Json}
    (held : found [.key "security",.key "allowRawSecrets"] (.obj configuration) = some value) :
    value = .bool false := by
  obtain ⟨part,there,inside⟩ := Option.bind_eq_some_iff.mp held
  have secrets := valid.secrets
  rw [get_of_get? there] at secrets
  cases part with
  | obj security =>
    obtain ⟨setting,here,same⟩ := Option.bind_eq_some_iff.mp inside
    obtain rfl := Option.some.inj same
    have setting_false : (Dict.get security "allowRawSecrets").isFalse = true := secrets
    rw [get_of_get? here] at setting_false
    exact bool?_eq_some.mp (of_decide_eq_true setting_false)
  | _ => cases inside

/-- A valid configuration has no raw secret but at the places with the exempt path. -/
theorem valid_harmless {configuration : Dict} {profile : Dict} {components : List String}
    (valid : ValidConfiguration lower profile components configuration) {place : List Step} {name : String}
      {value : Json}
    (held : found (place ++ [.key name]) (.obj configuration) = some value)
    (secret : contains_secret_name lower (spelled "" (place ++ [.key name])) = true) :
    harmless value = true ∨ spelled "" (place ++ [.key name]) = EXEMPT := by
  have visited : (spelled "" (place ++ [.key name]),value) ∈ walk "" (.obj configuration) := walk_found held
  rw [walk] at visited
  have checked := valid.references _ visited
  unfold check_secret at checked
  rw [reject,reject_if_ok,secret] at checked
  cases plain : harmless value with
  | true => exact .inl rfl
  | false =>
    obtain ⟨holds,direct⟩ := Bool.or_eq_false_iff.mp plain
    simp only [holds,direct] at checked
    exact .inr (by simpa [EXEMPT] using checked)

/-- An assembled configuration has a raw secret exactly when its layers give one first to another
    place with the path of the setting that forbids them. -/
theorem raw_free_iff (lowers : lower EXEMPT = "security.allowrawsecrets") {loads : String → Py (Option Json)}
    {profile : Dict} {defaults project : Json} {environment : List (String × String)} {command_line : Json}
    {assembly : RuntimeAssembly} {given : List (String × Json)}
    (listed : layers lower loads profile defaults project environment command_line = .ok given)
    (ran : assemble_runtime lower loads profile defaults project environment command_line = .ok assembly) :
    RawFree lower assembly.configuration ↔ Guarded lower (given.map (fun layer => fields layer.2)) := by
  obtain ⟨_,given',configuration,sources,listed',merged,valid,rfl⟩ := assemble_ok.mp ran
  obtain rfl := Except.ok.inj (listed.symm.trans listed')
  have merges := layers_merged merged
  obtain ⟨components,valid⟩ := assembled_valid valid
  have exempt_secret : contains_secret_name lower EXEMPT = true := by
    unfold contains_secret_name
    rw [lowers]
    decide +kernel
  constructor
  · intro free
    constructor
    · intro n
      rw [direct_harmless merges]
      intro value held
      have path : spelled "" (List.replicate n (.key "") ++ [.key EXEMPT]) = EXEMPT := exempt_iff.mpr ⟨n,.inl rfl⟩
      rcases free _ _ value held (by rw [path]; exact exempt_secret) with safe | ⟨same,_⟩
      · exact safe
      · have ends := congrArg List.getLast? same
        rw [List.getLast?_concat] at ends
        exact absurd ends (by decide +kernel)
    · intro n
      rw [nested_harmless merges]
      intro value held
      have path : spelled "" (beyond (n + 1) [.key "security",.key "allowRawSecrets"]) = EXEMPT :=
        exempt_iff.mpr ⟨n + 1,.inr rfl⟩
      rw [nested_split] at held path
      rcases free _ _ value held (by rw [path]; exact exempt_secret) with safe | ⟨same,_⟩
      · exact safe
      · have starts := congrArg List.head? same
        exact absurd starts (by simp [List.replicate_succ])
  · intro guarded place name value held secret
    rcases valid_harmless valid held secret with safe | exempt
    · exact .inl safe
    · obtain ⟨n,direct | nested⟩ := exempt_iff.mp exempt
      · rw [direct] at held
        exact .inl ((direct_harmless merges n).mp (guarded.direct n) value held)
      · rw [nested] at held ⊢
        cases n with
        | zero => exact .inr ⟨rfl,setting_false valid held⟩
        | succ n => exact .inl ((nested_harmless merges (n + 1)).mp (guarded.nested n) value held)

/-- Without objects below empty keys only the top-level key counts. -/
theorem guarded_top {given : List Dict} (none : level lower given 1 = []) :
    Guarded lower given ↔ FirstHarmless (supplied lower EXEMPT ([] :: given)) := by
  have later : ∀ n, level lower given (n + 1) = [] := by
    intro n
    induction n with
    | zero => exact none
    | succ n ih =>
      rw [level,ih]
      rfl
  constructor
  · exact fun guarded => guarded.direct 0
  · intro first
    constructor
    · intro n
      cases n with
      | zero => exact first
      | succ n =>
        rw [later]
        simp [FirstHarmless,supplied]
    · intro n
      rw [later]
      simp [FirstHarmless,supplied,objects]

end

/-! ### Two assemblies -/

def exempt_project (value : String) : Json := .obj [(EXEMPT,.str value)]

theorem raw_free_iff_sample : ∃ assembly, assemble_runtime ascii_lower sample_loads sample_profile .null
    (exempt_project "env://POLICY") [] .null = .ok assembly ∧ RawFree ascii_lower assembly.configuration := by
  have returns : (assemble_runtime ascii_lower sample_loads sample_profile .null (exempt_project "env://POLICY") []
      .null).toOption.any (fun _ => true) = true := by decide +kernel
  obtain ⟨assembly,ran,_⟩ := returns_with returns
  have listed : layers ascii_lower sample_loads sample_profile .null (exempt_project "env://POLICY") [] .null =
      .ok [("defaults",.obj []),("profile",sample_profile.get "configuration"),
        ("project",exempt_project "env://POLICY"),("environment",.obj []),("command_line",.obj [])] := by rfl
  refine ⟨assembly,ran,(raw_free_iff (by decide +kernel) listed ran).mpr ((guarded_top rfl).mpr ?_)⟩
  rintro value held
  obtain rfl : Json.str "env://POLICY" = value := Option.some.inj held
  decide +kernel

/-- A raw secret under a key that is spelled as the path of the setting. It is assembled. -/
theorem exempt_password : ∃ assembly, assemble_runtime ascii_lower sample_loads sample_profile .null
    (exempt_project "hunter2") [] .null = .ok assembly ∧ ¬RawFree ascii_lower assembly.configuration := by
  have returns : (assemble_runtime ascii_lower sample_loads sample_profile .null (exempt_project "hunter2") []
      .null).toOption.any (fun assembly => (assembly.configuration.get EXEMPT).str? = some "hunter2") = true := by
    decide +kernel
  obtain ⟨assembly,ran,held⟩ := returns_with returns
  have value : assembly.configuration.get EXEMPT = .str "hunter2" := str?_eq_some.mp (of_decide_eq_true held)
  refine ⟨assembly,ran,fun free => ?_⟩
  have reached : found ([] ++ [.key EXEMPT]) (.obj assembly.configuration) = some (.str "hunter2") := by
    rw [List.nil_append,found_key,get?_of_get value (by simp)]
    rfl
  rcases free [] EXEMPT _ reached (by decide +kernel) with safe | ⟨_,setting⟩
  · exact absurd safe (by decide +kernel)
  · cases setting

end V3Aidlc.SecretSettings
