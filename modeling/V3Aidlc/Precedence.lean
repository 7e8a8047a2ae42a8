import V3Aidlc.LayeredConfigurations
import V3Aidlc.EnvironmentOverrides

/-!
What the five layers of an assembly mean. Where no object has two keys that differ in case
only, a setting has the value of the strongest layer that has its path, and what later
layers do not touch is kept (`ByPrecedence`); the order of keys in the layers is no matter
(`assembled_same`).
-/
namespace V3Aidlc.Precedence
open V3Aidlc.Values V3Aidlc.Loops V3Aidlc.Contracts V3Aidlc.Canonical V3Aidlc.RuntimeConfig V3Aidlc.ConfigurationMerges
open V3Aidlc.ProtectedSettings V3Aidlc.Documents V3Aidlc.DeepMerges V3Aidlc.KeyOrder V3Aidlc.RuntimeProfiles
open V3Aidlc.LayeredConfigurations V3Aidlc.EnvironmentOverrides

/-! ### The order of keys in a merge -/

section
variable {lower : String → String}

theorem allowed_same {override : Json} : ∀ {base override' base' : Json} {path : String},
    unambiguous lower override = true → unambiguous lower base = true → unambiguous lower override' = true →
    unambiguous lower base' = true → same override override' = true → same base base' = true →
    allowed lower override base path = true → allowed lower override' base' path = true := by
  induction override using by_parts with
  | obj override ih =>
    intro base override' base' path clear clear₁ clear₂ clear₃ left right free
    obtain ⟨others,rfl,left⟩ := same_dict left
    cases base with
    | obj base =>
      obtain ⟨base',rfl,right⟩ := same_dict right
      obtain ⟨distinct,each⟩ := unambiguous_obj.mp clear
      obtain ⟨distinct₁,each₁⟩ := unambiguous_obj.mp clear₁
      obtain ⟨distinct₂,each₂⟩ := unambiguous_obj.mp clear₂
      obtain ⟨distinct₃,each₃⟩ := unambiguous_obj.mp clear₃
      rw [allowed,allowedFields_iff] at free ⊢
      intro given' member' entry' found'
      have lookups := (same_lookups (distinct_keys distinct) (distinct_keys distinct₂)).mp left
      obtain ⟨value,here,values⟩ := rel_left (lookups _) (get?_of_mem (distinct_keys distinct₂) member')
      have rights := (same_entries distinct₁ distinct₃).mp right given'.1
      obtain ⟨entry,found,key,holds⟩ := rel_left rights found'
      have member := get?_mem here
      have inside := entry_of_mem found
      have inside' := entry_of_mem found'
      obtain ⟨protects,nested⟩ := free _ member entry found
      rw [← key]
      constructor
      · intro isProtected
        exact eq_of_same (unambiguous_proper (each₁ _ inside)) (unambiguous_proper (each _ member))
          (unambiguous_proper (each₃ _ inside')) (unambiguous_proper (each₂ _ member')) holds values
          (protects isProtected)
      · exact ih _ member (each _ member) (each₁ _ inside) (each₂ _ member') (each₃ _ inside') values holds nested
    | _ =>
      cases base' <;> first | rfl | simp [same] at right
  | _ =>
    intro base override' base' path _ _ _ _ left _ _
    have plain := same_isDict left
    cases override' <;> first | rfl | simp [Json.isDict,Json.dict?] at plain

/-- A merge whose layers have their keys in another order gives the same. -/
theorem merge_same {override base override' base' next : Dict} {under : String}
    (clear : unambiguous lower (.obj override) = true) (clear₁ : unambiguous lower (.obj base) = true)
    (clear₂ : unambiguous lower (.obj override') = true) (clear₃ : unambiguous lower (.obj base') = true)
    (left : same (.obj override) (.obj override') = true) (right : same (.obj base) (.obj base') = true)
    (ran : merge lower override base under = .ok next) :
    ∃ next', merge lower override' base' under = .ok next' ∧ same (.obj next) (.obj next') = true ∧
      unambiguous lower (.obj next) = true ∧ unambiguous lower (.obj next') = true := by
  obtain ⟨free,rfl⟩ := (merge_iff rfl clear clear₁).mp ran
  have free' : allowedFields lower override' base' under = true := by
    have kept : allowed lower (.obj override') (.obj base') under = true :=
      allowed_same clear clear₁ clear₂ clear₃ left right (by rwa [allowed])
    rwa [allowed] at kept
  refine ⟨_,(merge_iff rfl clear₂ clear₃).mpr ⟨free',rfl⟩,?_⟩
  rw [← combine_obj,← combine_obj]
  exact ⟨combine_same clear₁ clear clear₃ clear₂ right left,unambiguous_combine clear₁ clear,
    unambiguous_combine clear₃ clear₂⟩

/-- A layer under its label. -/
def SameLayer (layer other : String × Json) : Prop := layer.1 = other.1 ∧ same layer.2 other.2 = true

theorem add_layer_same {start start' next : Dict × List String} {layer layer' : String × Json}
    (layers : SameLayer layer layer') (starts : same (.obj start.1) (.obj start'.1) = true)
    (sources : start.2 = start'.2) (clear : unambiguous lower layer.2 = true)
    (clear₁ : unambiguous lower (.obj start.1) = true) (clear₂ : unambiguous lower layer'.2 = true)
    (clear₃ : unambiguous lower (.obj start'.1) = true) (ran : add_layer lower start layer = .ok next) :
    ∃ next', add_layer lower start' layer' = .ok next' ∧ same (.obj next.1) (.obj next'.1) = true ∧
      next.2 = next'.2 ∧ unambiguous lower (.obj next.1) = true ∧ unambiguous lower (.obj next'.1) = true := by
  obtain ⟨label,value⟩ := layer
  obtain ⟨label',value'⟩ := layer'
  obtain ⟨rfl,values⟩ := layers
  have truths := same_truthy values
  unfold add_layer at ran ⊢
  simp only at values truths clear clear₂ ran ⊢
  by_cases truthy : value.truthy = true
  · rw [if_pos truthy] at ran
    rw [if_pos (truths ▸ truthy)]
    cases value with
    | obj fields =>
      obtain ⟨fields',rfl,values⟩ := same_dict values
      obtain ⟨configuration,merged,same⟩ := bind_ok_iff.mp ran
      obtain rfl := pure_ok_iff.mp same
      obtain ⟨configuration',merged',configurations,clears⟩ :=
        merge_same clear clear₁ clear₂ clear₃ values starts merged
      exact ⟨_,bind_ok_iff.mpr ⟨_,merged',rfl⟩,configurations,by rw [sources],clears⟩
    | _ => simp [runtime_error] at ran
  · rw [if_neg truthy] at ran
    rw [if_neg (truths ▸ truthy)]
    obtain rfl := pure_ok_iff.mp ran
    exact ⟨_,rfl,starts,sources,clear₁,clear₃⟩

theorem add_layers_same {layers layers' : List (String × Json)} {start start' final : Dict × List String}
    (pairs : List.Forall₂ SameLayer layers layers') (starts : same (.obj start.1) (.obj start'.1) = true)
    (sources : start.2 = start'.2) (clear : ∀ layer ∈ layers, unambiguous lower layer.2 = true)
    (clear₁ : unambiguous lower (.obj start.1) = true) (clear₂ : ∀ layer ∈ layers', unambiguous lower layer.2 = true)
    (clear₃ : unambiguous lower (.obj start'.1) = true) (ran : layers.foldlM (add_layer lower) start = .ok final) :
    ∃ final', layers'.foldlM (add_layer lower) start' = .ok final' ∧ same (.obj final.1) (.obj final'.1) = true ∧
      final.2 = final'.2 ∧ unambiguous lower (.obj final.1) = true ∧ unambiguous lower (.obj final'.1) = true := by
  induction pairs generalizing start start' with
  | nil =>
    obtain rfl := foldlM_nil_ok.mp ran
    exact ⟨_,rfl,starts,sources,clear₁,clear₃⟩
  | cons first _ ih =>
    rw [List.forall_mem_cons] at clear clear₂
    obtain ⟨next,added,ran⟩ := foldlM_cons_ok.mp ran
    obtain ⟨next',added',nexts,same_sources,clears,clears'⟩ :=
      add_layer_same first starts sources clear.1 clear₁ clear₂.1 clear₃ added
    obtain ⟨final',ran',rest⟩ := ih nexts same_sources clear.2 clears clear₂.2 clears' ran
    exact ⟨final',foldlM_cons_ok.mpr ⟨next',added',ran'⟩,rest⟩

end

/-! ### The order of keys in the environment -/

section
variable (loads : String → Py (Option Json))

/-- A text that is read as the same value, or raises the same. -/
def SameReading (raw other : String) : Prop :=
  (∃ v w, parse_env_value loads raw = .ok v ∧ parse_env_value loads other = .ok w ∧ same v w = true) ∨
    ∃ e, parse_env_value loads raw = .error e ∧ parse_env_value loads other = .error e

def SameVariable (setting other : String × String) : Prop :=
  setting.1 = other.1 ∧ SameReading loads setting.2 other.2

/-- The same variables; each environment is visited in the order of the names. -/
def SameEnvironment (environment other : List (String × String)) : Prop :=
  List.Forall₂ (SameVariable loads) (sortedBy Prod.fst environment) (sortedBy Prod.fst other)

/-- What `json.loads` returns holds each key of a dict once. -/
def Reads : Prop := ∀ raw value, loads raw = .ok (some value) → value.proper = true

end

section
variable {lower : String → String} {loads : String → Py (Option Json)}

theorem parsed_proper (reads : Reads loads) {raw : String} {value : Json}
    (parsed : parse_env_value loads raw = .ok value) :
    value.proper = true := by
  unfold parse_env_value at parsed
  obtain ⟨read,loaded,same⟩ := bind_ok_iff.mp parsed
  obtain rfl := pure_ok_iff.mp same
  cases read with
  | none => rfl
  | some value => exact reads raw value loaded

theorem reading_symm (reads : Reads loads) {raw other : String} (reading : SameReading loads raw other) :
    SameReading loads other raw := by
  rcases reading with ⟨v,w,here,there,values⟩ | ⟨e,here,there⟩
  · exact .inl ⟨w,v,there,here,same_symm (parsed_proper reads here) (parsed_proper reads there) values⟩
  · exact .inr ⟨e,there,here⟩

theorem reading_refl (reads : Reads loads) (raw : String) : SameReading loads raw raw := by
  cases parsed : parse_env_value loads raw with
  | ok value => exact .inl ⟨value,value,parsed,parsed,same_refl (parsed_proper reads parsed)⟩
  | error e => exact .inr ⟨e,parsed,parsed⟩

/-- An environment holds its variables in no order. -/
theorem environment_perm (reads : Reads loads) {environment other : List (String × String)}
    (names : (environment.map Prod.fst).Nodup) (moved : environment.Perm other) :
    SameEnvironment loads environment other := by
  have sorted : sortedBy Prod.fst environment = sortedBy Prod.fst other :=
    sortedBy_perm moved (fun _ left _ right => List.inj_on_of_nodup_map names left right)
  unfold SameEnvironment
  rw [sorted]
  exact List.forall₂_same.mpr (fun setting _ => ⟨rfl,reading_refl reads setting.2⟩)

theorem environment_symm (reads : Reads loads) {environment other : List (String × String)}
    (equal : SameEnvironment loads environment other) : SameEnvironment loads other environment := by
  have flipped : List.Forall₂ (fun setting other => SameVariable loads other setting)
      (sortedBy Prod.fst environment) (sortedBy Prod.fst other) :=
    List.Forall₂.imp (fun _ _ both => ⟨both.1.symm,reading_symm reads both.2⟩) equal
  exact flipped.flip

theorem put_override_same (reads : Reads loads) {name raw raw' : String} (readings : SameReading loads raw raw')
    {parts : List String} {cursor cursor' next : Dict} (proper : (Json.obj cursor).proper = true)
    (proper' : (Json.obj cursor').proper = true) (equal : same (.obj cursor) (.obj cursor') = true)
    (ran : put_override loads name raw cursor parts = .ok next) :
    ∃ next', put_override loads name raw' cursor' parts = .ok next' ∧ same (.obj next) (.obj next') = true ∧
      (Json.obj next).proper = true ∧ (Json.obj next').proper = true := by
  induction parts generalizing cursor cursor' next with
  | nil =>
    obtain rfl := pure_ok_iff.mp ran
    exact ⟨_,rfl,equal,proper,proper'⟩
  | cons part rest ih =>
    by_cases more : rest = []
    · subst more
      obtain ⟨value,parsed,rfl⟩ := put_last.mp ran
      rcases readings with ⟨v,w,here,there,values⟩ | ⟨e,failed,_⟩
      · obtain rfl := Except.ok.inj (here.symm.trans parsed)
        have next := proper_set proper part (parsed_proper reads here)
        have next' := proper_set proper' part (parsed_proper reads there)
        exact ⟨_,put_last.mpr ⟨w,there,rfl⟩,set_same proper proper' equal values part next next',next,next'⟩
      · rw [failed] at parsed
        cases parsed
    · obtain ⟨existing,inner,held,inside_ran,rfl⟩ := (put_cons more).mp ran
      have lookups := (same_lookups (proper_dict.mp proper).1 (proper_dict.mp proper').1).mp equal
      have there : ∃ existing', (Dict.get? part cursor').getD (.obj []) = .obj existing' ∧
          same (.obj existing) (.obj existing') = true ∧ (Json.obj existing).proper = true ∧
          (Json.obj existing').proper = true := by
        cases here : Dict.get? part cursor with
        | none =>
          rw [here] at held
          obtain rfl := Json.obj.inj held
          rw [rel_none (lookups _) here]
          exact ⟨[],rfl,rfl,rfl,rfl⟩
        | some v =>
          rw [here] at held
          obtain rfl : v = .obj existing := held
          obtain ⟨w,found,values⟩ := rel_right (lookups _) here
          obtain ⟨existing',rfl,values⟩ := same_dict values
          rw [found]
          exact ⟨existing',rfl,values,proper_found proper here,proper_found proper' found⟩
      obtain ⟨existing',held',values,inside,inside'⟩ := there
      obtain ⟨inner',ran',inners,proper_inner,proper_inner'⟩ := ih inside inside' values inside_ran
      have next := proper_set proper part proper_inner
      have next' := proper_set proper' part proper_inner'
      exact ⟨_,(put_cons more).mpr ⟨existing',inner',held',ran',rfl⟩,
        set_same proper proper' equal inners part next next',next,next'⟩

theorem overrides_same (reads : Reads loads) {start : String} {settings settings' : List (String × String)}
    (pairs : List.Forall₂ (SameVariable loads) settings settings') {cursor cursor' final : Dict}
    (proper : (Json.obj cursor).proper = true) (proper' : (Json.obj cursor').proper = true)
    (equal : same (.obj cursor) (.obj cursor') = true)
    (ran : settings.foldlM (environment_override lower loads start) cursor = .ok final) :
    ∃ final', settings'.foldlM (environment_override lower loads start) cursor' = .ok final' ∧
      same (.obj final) (.obj final') = true ∧ (Json.obj final).proper = true ∧ (Json.obj final').proper = true := by
  induction pairs generalizing cursor cursor' with
  | nil =>
    obtain rfl := foldlM_nil_ok.mp ran
    exact ⟨_,rfl,equal,proper,proper'⟩
  | @cons setting setting' _ _ first _ ih =>
    obtain ⟨next,put,ran⟩ := foldlM_cons_ok.mp ran
    obtain ⟨names,readings⟩ := first
    have stepped : ∃ next', environment_override lower loads start cursor' setting' = .ok next' ∧
        same (.obj next) (.obj next') = true ∧ (Json.obj next).proper = true ∧ (Json.obj next').proper = true := by
      rw [environment_override_ok] at put
      simp only [environment_override_ok,named_by,← names]
      unfold named_by at put
      by_cases named : start.toList.isPrefixOf setting.1.toList = true
      · rw [if_pos named] at put
        simp only [if_pos named]
        obtain ⟨next',put',nexts⟩ := put_override_same reads readings proper proper' equal put.2
        exact ⟨next',⟨put.1,put'⟩,nexts⟩
      · rw [if_neg named] at put
        simp only [if_neg named]
        exact ⟨cursor',rfl,put ▸ equal,put ▸ proper,proper'⟩
    obtain ⟨next',put',nexts,properNext,properNext'⟩ := stepped
    obtain ⟨final',ran',rest⟩ := ih properNext properNext' nexts ran
    exact ⟨final',foldlM_cons_ok.mpr ⟨next',put',ran'⟩,rest⟩

end

/-! ### Assemblies -/

/-- What an assembly is made from. -/
structure Inputs where
  profile : Dict
  defaults : Json
  project : Json
  environment : List (String × String)
  command_line : Json

section
variable (lower : String → String) (loads : String → Py (Option Json))

def assemble (inputs : Inputs) : Py RuntimeAssembly :=
  assemble_runtime lower loads inputs.profile inputs.defaults inputs.project inputs.environment inputs.command_line

def layers_of (inputs : Inputs) : Py (List (String × Json)) :=
  layers lower loads inputs.profile inputs.defaults inputs.project inputs.environment inputs.command_line

/-- A dict holds each of its keys once. -/
structure ProperInputs (inputs : Inputs) : Prop where
  profile : (Json.obj inputs.profile).proper = true
  defaults : inputs.defaults.proper = true
  project : inputs.project.proper = true
  command_line : inputs.command_line.proper = true

/-- The same inputs but for the order of keys. -/
structure Reordered (inputs others : Inputs) : Prop where
  profile : same (.obj inputs.profile) (.obj others.profile) = true
  defaults : same inputs.defaults others.defaults = true
  project : same inputs.project others.project = true
  environment : SameEnvironment loads inputs.environment others.environment
  command_line : same inputs.command_line others.command_line = true

/-- No object of a layer has two keys that differ in case only. -/
def Clear (inputs : Inputs) : Prop :=
  ∀ given, layers_of lower loads inputs = .ok given → ∀ layer ∈ given, unambiguous lower layer.2 = true

/-- Both raise, or both return the same configuration under one digest. -/
structure SameOutcome (result other : Py RuntimeAssembly) : Prop where
  success : (∃ assembly, result = .ok assembly) ↔ ∃ assembly, other = .ok assembly
  configuration : ∀ assembly assembly', result = .ok assembly → other = .ok assembly' →
    same (.obj assembly.configuration) (.obj assembly'.configuration) = true
  digest : ∀ assembly assembly', result = .ok assembly → other = .ok assembly' → assembly.digest = assembly'.digest

/-- What a configuration takes from its layers, which are listed from the weakest. -/
structure ByPrecedence (layers : List Json) (configuration : Json) : Prop where
  merged : configuration = layers.foldl (combine lower) (.obj [])
  strongest : ∀ path value, settled lower path configuration = some value → value.isDict = false →
    layers.reverse.findSome? (settled lower path) = some value
  given : ∀ before layer after path value, before ++ layer :: after = layers →
    settled lower path layer = some value → value.isDict = false → (∀ later ∈ after, Untouched lower path later) →
    settled lower path configuration = some value
  kept : ∀ before after path value, before ++ after = layers →
    settled lower path (before.foldl (combine lower) (.obj [])) = some value →
    (∀ layer ∈ after, Untouched lower path layer) → settled lower path configuration = some value

end

section
variable {lower : String → String} {loads : String → Py (Option Json)} {inputs others : Inputs}

theorem or_empty_same {v w : Json} (equal : same v w = true) : same (or_empty v) (or_empty w) = true := by
  unfold or_empty
  rw [← same_truthy equal]
  split
  · exact equal
  · rfl

theorem or_empty_proper {v : Json} (proper : v.proper = true) : (or_empty v).proper = true := by
  unfold or_empty
  split
  · exact proper
  · rfl

theorem layers_same (reads : Reads loads) (proper : ProperInputs inputs) (proper' : ProperInputs others)
    (reordered : Reordered loads inputs others) {given : List (String × Json)}
    (listed : layers_of lower loads inputs = .ok given) : ∃ given', layers_of lower loads others = .ok given' ∧
      List.Forall₂ SameLayer given given' ∧ ∀ layer ∈ given', layer.2.proper = true := by
  unfold layers_of layers environment_overrides at listed ⊢
  obtain ⟨overrides,ran,listed⟩ := bind_ok_iff.mp listed
  obtain rfl := pure_ok_iff.mp listed
  obtain ⟨overrides',ran',equal,_,overridesProper⟩ := overrides_same reads reordered.environment rfl
    (show (Json.obj []).proper = true from rfl) rfl ran
  refine ⟨_,bind_ok_iff.mpr ⟨overrides',ran',rfl⟩,?_,?_⟩
  · refine .cons ⟨rfl,or_empty_same reordered.defaults⟩ (.cons ⟨rfl,?_⟩ (.cons ⟨rfl,or_empty_same reordered.project⟩
      (.cons ⟨rfl,equal⟩ (.cons ⟨rfl,or_empty_same reordered.command_line⟩ .nil))))
    exact get_same proper.profile proper'.profile reordered.profile "configuration"
  · simp only [List.forall_mem_cons,List.not_mem_nil,false_implies,implies_true,and_true]
    exact ⟨or_empty_proper proper'.defaults,proper_get proper'.profile _,or_empty_proper proper'.project,
      overridesProper,or_empty_proper proper'.command_line⟩

theorem reordered_symm (reads : Reads loads) (proper : ProperInputs inputs) (proper' : ProperInputs others)
    (reordered : Reordered loads inputs others) : Reordered loads others inputs :=
  ⟨same_symm proper.profile proper'.profile reordered.profile,
    same_symm proper.defaults proper'.defaults reordered.defaults,
    same_symm proper.project proper'.project reordered.project,environment_symm reads reordered.environment,
    same_symm proper.command_line proper'.command_line reordered.command_line⟩

theorem clear_same (reads : Reads loads) (proper : ProperInputs inputs) (proper' : ProperInputs others)
    (reordered : Reordered loads inputs others) (clear : Clear lower loads inputs) : Clear lower loads others := by
  intro given' listed' layer' member'
  obtain ⟨given,listed,_⟩ := layers_same reads proper' proper (reordered_symm reads proper proper' reordered) listed'
  obtain ⟨given'',listed'',pairs,propers⟩ := layers_same reads proper proper' reordered listed
  obtain rfl := Except.ok.inj (listed'.symm.trans listed'')
  obtain ⟨layer,member,pair⟩ := forall₂_left (List.Forall₂.flip (R := fun layer' layer => SameLayer layer layer') pairs)
    layer' member'
  exact unambiguous_same (propers _ member') pair.2 (clear given listed layer member)

theorem digest_same {v w : Json} (proper : v.proper = true) (proper' : w.proper = true) (equal : same v w = true) :
    stable_digest v = stable_digest w := by
  have texts : (canonicalText v).toList = (canonicalText w).toList := Encodings.code_same v w proper proper' equal
  unfold stable_digest asciiText
  rw [texts]

/-- An assembly whose inputs have their keys in another order is the same. -/
theorem assembled_same (reads : Reads loads) (proper : ProperInputs inputs) (proper' : ProperInputs others)
    (reordered : Reordered loads inputs others) (clear : Clear lower loads inputs) {assembly : RuntimeAssembly}
    (ran : assemble lower loads inputs = .ok assembly) : ∃ assembly', assemble lower loads others = .ok assembly' ∧
      same (.obj assembly.configuration) (.obj assembly'.configuration) = true ∧
      assembly.digest = assembly'.digest := by
  obtain ⟨valid,given,configuration,sources,listed,merged,again,rfl⟩ := assemble_ok.mp ran
  obtain ⟨given',listed',pairs,_⟩ := layers_same reads proper proper' reordered listed
  have clear' := clear_same reads proper proper' reordered clear given' listed'
  obtain ⟨⟨configuration',sources'⟩,merged',configurations,rfl,clears,clears'⟩ :=
    @add_layers_same lower _ _ _ ([],[]) _ pairs rfl rfl (clear given listed) rfl clear' rfl merged
  have propers := unambiguous_proper clears
  have propers' := unambiguous_proper clears'
  have next := proper_set proper.profile "configuration" propers
  have next' := proper_set proper'.profile "configuration" propers'
  have profiles := set_same proper.profile proper'.profile reordered.profile configurations "configuration" next next'
  refine ⟨_,assemble_ok.mpr ⟨valid_same proper.profile proper'.profile reordered.profile valid,given',_,_,listed',
    merged',valid_same next next' profiles again,rfl⟩,configurations,digest_same propers propers' configurations⟩

/-- The configuration of an assembly takes every setting from its strongest layer, and the
    order of keys in the inputs is no matter. -/
theorem layers_by_precedence (lower : String → String) (loads : String → Py (Option Json)) :
    (∀ inputs given assembly, layers_of lower loads inputs = .ok given →
      (∀ layer ∈ given, unambiguous lower layer.2 = true) → assemble lower loads inputs = .ok assembly →
      ByPrecedence lower (given.map Prod.snd) (.obj assembly.configuration)) ∧
    (Reads loads → ∀ inputs others, ProperInputs inputs → ProperInputs others → Reordered loads inputs others →
      Clear lower loads inputs → SameOutcome (assemble lower loads inputs) (assemble lower loads others)) := by
  constructor
  · intro inputs given assembly listed clear ran
    obtain ⟨valid,given',configuration,sources,listed',merged,_,rfl⟩ := assemble_ok.mp ran
    obtain rfl : given = given' := Except.ok.inj (listed.symm.trans listed')
    obtain ⟨combined,_⟩ := assembled_merge valid listed clear merged
    refine ⟨combined.symm,?_,?_,?_⟩
    · intro path value found plain
      rw [← combined] at found
      exact strongest_layer plain found
    · intro before layer after path value split found plain untouched
      simp only [← combined,← split,List.foldl_append,List.foldl_cons]
      exact untouched_kept (settled_set plain found) untouched
    · intro before after path value split found untouched
      simp only [← combined,← split,List.foldl_append]
      exact untouched_kept found untouched
  · intro reads inputs others proper proper' reordered clear
    have backwards := reordered_symm reads proper proper' reordered
    have clear' := clear_same reads proper proper' reordered clear
    refine ⟨⟨?_,?_⟩,?_,?_⟩
    · rintro ⟨assembly,ran⟩
      obtain ⟨assembly',ran',_⟩ := assembled_same reads proper proper' reordered clear ran
      exact ⟨assembly',ran'⟩
    · rintro ⟨assembly,ran⟩
      obtain ⟨assembly',ran',_⟩ := assembled_same reads proper' proper backwards clear' ran
      exact ⟨assembly',ran'⟩
    · intro assembly assembly' ran ran'
      obtain ⟨again,found,configurations,_⟩ := assembled_same reads proper proper' reordered clear ran
      obtain rfl := Except.ok.inj (ran'.symm.trans found)
      exact configurations
    · intro assembly assembly' ran ran'
      obtain ⟨again,found,_,digests⟩ := assembled_same reads proper proper' reordered clear ran
      obtain rfl := Except.ok.inj (ran'.symm.trans found)
      exact digests

end

/-- A project layer and two variables over the sample profile. -/
def sample_inputs : Inputs where
  profile := sample_profile
  defaults := .obj [("scheduler",.obj [("maxConcurrency",.int 1),("enabled",.bool false)])]
  project := .obj [("Scheduler",.obj [("MaxConcurrency",.int 4)]),("storage",.null)]
  environment := [("V3__SCHEDULER__ENABLED","true"),("V3__NAME","dev")]
  command_line := .null

def reordered_inputs : Inputs where
  profile := sample_profile
  defaults := .obj [("scheduler",.obj [("enabled",.bool false),("maxConcurrency",.int 1)])]
  project := .obj [("storage",.null),("Scheduler",.obj [("MaxConcurrency",.int 4)])]
  environment := [("V3__NAME","dev"),("V3__SCHEDULER__ENABLED","true")]
  command_line := .null

def sample_layers : List (String × Json) :=
  [("defaults",sample_inputs.defaults),("profile",sample_profile.get "configuration"),
    ("project",sample_inputs.project),
    ("environment",.obj [("name",.str "dev"),("scheduler",.obj [("enabled",.bool true)])]),("command_line",.obj [])]

theorem layers_by_precedence_sample : ∃ assembly,
    assemble ascii_lower sample_loads sample_inputs = .ok assembly ∧
    ByPrecedence ascii_lower (sample_layers.map Prod.snd) (.obj assembly.configuration) ∧
    SameOutcome (assemble ascii_lower sample_loads sample_inputs)
      (assemble ascii_lower sample_loads reordered_inputs) := by
  obtain ⟨taken,reordered⟩ := layers_by_precedence ascii_lower sample_loads
  have returns : (assemble ascii_lower sample_loads sample_inputs).toOption.any (fun _ => true) = true := by
    decide +kernel
  obtain ⟨assembly,ran,_⟩ := returns_with returns
  have listed : layers_of ascii_lower sample_loads sample_inputs = .ok sample_layers := by rfl
  have clear : ∀ layer ∈ sample_layers, unambiguous ascii_lower layer.2 = true := by decide +kernel
  have reads : Reads sample_loads := by
    intro raw value read
    unfold sample_loads at read
    split at read
    · cases read
      rfl
    · cases read
  refine ⟨assembly,ran,taken sample_inputs sample_layers assembly listed clear ran,
    reordered reads sample_inputs reordered_inputs ?_ ?_ ?_ ?_⟩
  · constructor <;> decide +kernel
  · constructor <;> decide +kernel
  · refine ⟨by decide +kernel,by decide +kernel,by decide +kernel,?_,by decide +kernel⟩
    exact environment_perm reads (by decide) (List.Perm.swap _ _ _)
  · intro given again
    obtain rfl := Except.ok.inj (listed.symm.trans again)
    exact clear

end V3Aidlc.Precedence
