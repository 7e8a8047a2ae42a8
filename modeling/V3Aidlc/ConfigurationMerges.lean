import V3Aidlc.RuntimeConfig

/-!
What a merge does to the entries of one name. Keys that are the same up to the case form a
group of their own: writing to a dict moves no entry of another group (`named_set`), so the
entries of a name after a merge are those before it with the override's entries of that name
put in one after the other (`merge_named`).
The values that a single entry is given in turn end as the objects since the last value that is
none, merged (`overwrites_objects`).
-/
namespace V3Aidlc.ConfigurationMerges
open V3Aidlc.Values V3Aidlc.Loops V3Aidlc.Contracts V3Aidlc.RuntimeConfig

/-! ### The entries of a name -/

section
variable {lower : String → String} {name : String}

theorem named_congr {other : String} (same : lower other = lower name) (d : Dict) :
    named lower d other = named lower d name := by
  unfold named
  rw [same]

theorem named_cons (entry : String × Json) (d : Dict) :
    named lower (entry :: d) name =
      if lower entry.1 = lower name then entry :: named lower d name else named lower d name := by
  simp [named,List.filter_cons]

/-- Writing to a key writes to the entries of its name only. -/
theorem named_set (d : Dict) (key : String) (value : Json) : named lower (d.set key value) name =
    if lower key = lower name then (named lower d name).set key value else named lower d name := by
  induction d with
  | nil =>
    by_cases same : lower key = lower name <;> simp [Dict.set,named,same]
  | cons entry d ih =>
    obtain ⟨k,v⟩ := entry
    by_cases here : k = key
    · subst here
      by_cases same : lower k = lower name <;> simp [Dict.set,named_cons,same]
    · by_cases same : lower k = lower name
      · by_cases group : lower key = lower name <;> simp [Dict.set,named_cons,here,same,ih,group]
      · by_cases group : lower key = lower name <;> simp [Dict.set,named_cons,here,same,ih,group]

theorem named_get? (d : Dict) {key : String} (same : lower key = lower name) :
    Dict.get? key (named lower d name) = Dict.get? key d := by
  induction d with
  | nil => rfl
  | cons entry d ih =>
    obtain ⟨k,v⟩ := entry
    rw [named_cons]
    by_cases group : lower k = lower name
    · rw [if_pos group]
      simp only [Dict.get?,ih]
    · have other : k ≠ key := by
        rintro rfl
        exact group same
      rw [if_neg group,ih]
      simp [Dict.get?,other]

theorem set_length (d : Dict) (key : String) (value : Json) : d.length ≤ (d.set key value).length := by
  induction d with
  | nil => simp
  | cons entry d ih =>
    obtain ⟨k,v⟩ := entry
    by_cases here : k = key
    · simp [Dict.set,here]
    · simpa [Dict.set,here] using ih

end

/-! ### Putting entries in -/

section
variable (lower : String → String)

/-- The key that an entry is written to: that of a single entry of its name. -/
def put_key (entries : Dict) (supplied_key : String) : String :=
  match entries with
  | [entry] => entry.1
  | _ => supplied_key

/-- An entry written over the entries of its name. -/
def put (under : String) (entries : Dict) (entry : String × Json) : Py Dict := do
  let key := put_key entries entry.1
  let value ← merge_value lower entry.2 (Dict.get? key entries) (path_of under key)
  return entries.set key value

end

section
variable {lower : String → String} {name under : String}

theorem matched_named (result : Dict) {key : String} (same : lower key = lower name) :
    matched_key lower result key = put_key (named lower result name) key :=
  congrArg (fun entries => put_key entries key) (named_congr same result)

theorem matched_key_same (result : Dict) (key : String) : lower (matched_key lower result key) = lower key := by
  unfold matched_key
  split
  · rename_i entry only
    have member : entry ∈ named lower result key := by simp [only]
    exact of_decide_eq_true (List.mem_filter.mp member).2
  · rfl

theorem merge_cons_ok {entry : String × Json} {rest result next : Dict} :
    merge lower (entry :: rest) result under = .ok next ↔ ∃ value,
      overrides_protected result (path_of under (matched_key lower result entry.1))
        (matched_key lower result entry.1) entry.2 = false ∧
      merge_value lower entry.2 (Dict.get? (matched_key lower result entry.1) result)
        (path_of under (matched_key lower result entry.1)) = .ok value ∧
      merge lower rest (result.set (matched_key lower result entry.1) value) under = .ok next := by
  obtain ⟨supplied_key,value⟩ := entry
  rw [merge]
  simp only [bind_ok_iff,reject,reject_if_ok]
  constructor
  · rintro ⟨_,allowed,value,merged,ran⟩
    exact ⟨value,allowed,merged,ran⟩
  · rintro ⟨value,allowed,merged,ran⟩
    exact ⟨(),allowed,value,merged,ran⟩

/-- The entries of a name after a merge. -/
theorem merge_named {override result next : Dict} (ran : merge lower override result under = .ok next) (name : String) :
    (named lower override name).foldlM (put lower under) (named lower result name) = .ok (named lower next name) := by
  induction override generalizing result with
  | nil =>
    rw [merge,pure_ok_iff] at ran
    rw [ran]
    rfl
  | cons entry rest ih =>
    obtain ⟨value,_,merged,ran⟩ := merge_cons_ok.mp ran
    have later := ih ran
    rw [named_set] at later
    rw [named_cons]
    have key : lower (matched_key lower result entry.1) = lower entry.1 := matched_key_same result entry.1
    by_cases same : lower entry.1 = lower name
    · rw [if_pos (key.trans same)] at later
      rw [if_pos same,foldlM_cons_ok]
      refine ⟨_,?_,later⟩
      rw [matched_named result same] at merged ⊢
      rw [matched_named result same] at key
      unfold put
      rw [bind_ok_iff]
      exact ⟨value,by rw [named_get? result (key.trans same)]; exact merged,rfl⟩
    · rw [if_neg (by rw [key]; exact same)] at later
      rw [if_neg same]
      exact later

/-- The entries of a name after overrides that are merged in turn. -/
theorem merges_named {overrides : List Dict} {base merged : Dict}
    (ran : overrides.foldlM (fun fields override => merge lower override fields under) base = .ok merged)
      (name : String) :
    (overrides.flatMap (fun override => named lower override name)).foldlM (put lower under) (named lower base name) =
      .ok (named lower merged name) := by
  induction overrides generalizing base with
  | nil =>
    rw [foldlM_nil_ok.mp ran]
    rfl
  | cons override overrides ih =>
    obtain ⟨next,first,ran⟩ := foldlM_cons_ok.mp ran
    rw [List.flatMap_cons,List.foldlM_append,bind_ok_iff]
    exact ⟨_,merge_named first name,ih ran⟩

/-- Layers are merged in turn; an empty one changes nothing. -/
theorem layers_merged {layers : List (String × Json)} {start final : Dict × List String}
    (ran : layers.foldlM (add_layer lower) start = .ok final) :
    (layers.map (fun layer => fields layer.2)).foldlM (fun fields override => merge lower override fields "") start.1 =
      .ok final.1 := by
  induction layers generalizing start with
  | nil =>
    rw [foldlM_nil_ok.mp ran]
    rfl
  | cons layer layers ih =>
    obtain ⟨next,added,ran⟩ := foldlM_cons_ok.mp ran
    rw [List.map_cons,foldlM_cons_ok]
    refine ⟨next.1,?_,ih ran⟩
    obtain ⟨label,value⟩ := layer
    unfold add_layer at added
    cases value with
    | obj override =>
      cases override with
      | nil =>
        have same : start = next := by simpa [Json.truthy] using added
        rw [same]
        rfl
      | cons entry override =>
        simp only [Json.truthy,List.isEmpty_cons,Bool.not_false,↓reduceIte,bind_ok_iff,pure_ok_iff] at added
        obtain ⟨configuration,merged,rfl⟩ := added
        exact merged
    | _ =>
      dsimp only at added
      split at added
      · simp [runtime_error] at added
      · rw [pure_ok_iff.mp added]
        rfl

/-! ### One entry -/

theorem put_none (entry : String × Json) : put lower under [] entry = .ok [entry] := by
  obtain ⟨k,v⟩ := entry
  cases v <;> rfl

/-- A value written over a value. -/
def overwrite (lower : String → String) (path : String) (old value : Json) : Py Json :=
  merge_value lower value (some old) path

/-- A single entry keeps its key. -/
theorem puts_single {key : String} {old : Json} {entries after : Dict} :
    entries.foldlM (put lower under) [(key,old)] = .ok after ↔ ∃ value,
      (entries.map Prod.snd).foldlM (overwrite lower (path_of under key)) old = .ok value ∧ after = [(key,value)] := by
  induction entries generalizing old with
  | nil =>
    rw [List.map_nil,foldlM_nil_ok]
    constructor
    · rintro rfl
      exact ⟨old,rfl,rfl⟩
    · rintro ⟨value,same,rfl⟩
      rw [foldlM_nil_ok.mp same]
  | cons entry entries ih =>
    have here : put lower under [(key,old)] entry = overwrite lower (path_of under key) old entry.2 >>=
        fun value => pure [(key,value)] := by
      simp [put,put_key,Dict.get?,Dict.set,overwrite]
    rw [foldlM_cons_ok,List.map_cons,here]
    constructor
    · rintro ⟨middle,written,ran⟩
      obtain ⟨value,overwritten,same⟩ := bind_ok_iff.mp written
      rw [← pure_ok_iff.mp same] at ran
      obtain ⟨last,ran,same⟩ := ih.mp ran
      exact ⟨last,foldlM_cons_ok.mpr ⟨value,overwritten,ran⟩,same⟩
    · rintro ⟨last,ran,same⟩
      obtain ⟨value,overwritten,ran⟩ := foldlM_cons_ok.mp ran
      exact ⟨[(key,value)],bind_ok_iff.mpr ⟨value,overwritten,rfl⟩,ih.mpr ⟨last,ran,same⟩⟩

/-- No entry is lost. -/
theorem puts_length {entries before after : Dict} (ran : entries.foldlM (put lower under) before = .ok after) :
    before.length ≤ after.length := by
  refine foldlM_invariant (fun _ current => before.length ≤ current.length) ?_ (le_refl _) ran
  intro _ current entry next long written
  unfold put at written
  obtain ⟨value,_,same⟩ := bind_ok_iff.mp written
  rw [← pure_ok_iff.mp same]
  exact long.trans (set_length _ _ _)

/-- Where there is at most one entry, the first key stays and takes every value. -/
theorem puts_first {before entries after : Dict} (few : before.length ≤ 1)
    (ran : entries.foldlM (put lower under) before = .ok after) :
    (before ++ entries = [] ∧ after = []) ∨ ∃ key old rest value, before ++ entries = (key,old) :: rest ∧
      (rest.map Prod.snd).foldlM (overwrite lower (path_of under key)) old = .ok value ∧ after = [(key,value)] := by
  match before,few with
  | [],_ =>
    cases entries with
    | nil => exact Or.inl ⟨rfl,(foldlM_nil_ok.mp ran).symm⟩
    | cons entry entries =>
      obtain ⟨middle,written,ran⟩ := foldlM_cons_ok.mp ran
      rw [put_none] at written
      cases written
      obtain ⟨value,overwritten,same⟩ := puts_single.mp ran
      exact Or.inr ⟨entry.1,entry.2,entries,value,rfl,overwritten,same⟩
  | [(key,old)],_ =>
    obtain ⟨value,overwritten,same⟩ := puts_single.mp ran
    exact Or.inr ⟨key,old,entries,value,rfl,overwritten,same⟩

/-! ### The values of an entry -/

theorem overwrite_cases {path : String} {old value next : Json} (ran : overwrite lower path old value = .ok next) :
    (∃ override base merged, value = .obj override ∧ old = .obj base ∧ merge lower override base path = .ok merged ∧
      next = .obj merged) ∨ ((value.isDict = false ∨ old.isDict = false) ∧ next = value) := by
  unfold overwrite at ran
  cases value with
  | obj override =>
    cases old with
    | obj base =>
      rw [merge_value] at ran
      obtain ⟨merged,ran,same⟩ := bind_ok_iff.mp ran
      exact Or.inl ⟨override,base,merged,rfl,rfl,ran,(pure_ok_iff.mp same).symm⟩
    | _ =>
      simp only [merge_value,pure_ok_iff] at ran
      exact Or.inr ⟨Or.inr rfl,ran.symm⟩
  | _ =>
    simp only [merge_value,pure_ok_iff] at ran
    exact Or.inr ⟨Or.inl rfl,ran.symm⟩

/-- The last value is kept, unless it is merged into an object. -/
theorem overwrites_last {path : String} {old value constant : Json} {values : List Json}
    (plain : constant.isDict = false)
    (ran : values.foldlM (overwrite lower path) old = .ok value) : value = constant ↔
      (old :: values).getLast? = some constant := by
  induction values using List.reverseRecOn generalizing value with
  | nil =>
    rw [foldlM_nil_ok.mp ran]
    simp
  | append_singleton values last ih =>
    obtain ⟨middle,_,written⟩ := foldlM_snoc_ok.mp ran
    rw [← List.cons_append,List.getLast?_concat,Option.some.injEq]
    rcases overwrite_cases written with ⟨override,base,merged,rfl,_,_,rfl⟩ | ⟨_,rfl⟩
    · constructor
      · rintro rfl
        cases plain
      · rintro rfl
        cases plain
    · rfl

/-- One more object, or none after another value. -/
def one_more (objects : List Dict) (value : Json) : List Dict :=
  match value with
  | .obj fields => objects ++ [fields]
  | _ => []

/-- The objects since the last value that is none. -/
def objects (values : List Json) : List Dict := values.foldl one_more []

theorem objects_snoc (values : List Json) (value : Json) :
    objects (values ++ [value]) = one_more (objects values) value := by
  simp [objects]

theorem overwrites_objects {path : String} {old value : Json} {values : List Json}
    (ran : values.foldlM (overwrite lower path) old = .ok value) :
    (objects (old :: values) = [] ∧ value.isDict = false) ∨ ∃ base rest merged, objects (old :: values) = base :: rest ∧
      value = .obj merged ∧ rest.foldlM (fun fields override => merge lower override fields path) base =
        .ok merged := by
  induction values using List.reverseRecOn generalizing value with
  | nil =>
    rw [← foldlM_nil_ok.mp ran]
    cases old with
    | obj base => exact Or.inr ⟨base,[],base,rfl,rfl,rfl⟩
    | _ => exact Or.inl ⟨rfl,rfl⟩
  | append_singleton values last ih =>
    obtain ⟨middle,before,written⟩ := foldlM_snoc_ok.mp ran
    rw [← List.cons_append,objects_snoc]
    rcases overwrite_cases written with ⟨override,fields,merged,rfl,rfl,last,rfl⟩ | ⟨plain,rfl⟩
    · rcases ih before with ⟨_,plain⟩ | ⟨base,rest,middle,since,same,merges⟩
      · cases plain
      · cases same
        refine Or.inr ⟨base,rest ++ [override],merged,?_,rfl,foldlM_snoc_ok.mpr ⟨fields,merges,last⟩⟩
        rw [since]
        rfl
    · cases value with
      | obj override =>
        rcases plain with plain | plain
        · cases plain
        · rcases ih before with ⟨none,_⟩ | ⟨_,_,_,_,rfl,_⟩
          · refine Or.inr ⟨override,[],override,?_,rfl,rfl⟩
            rw [none]
            rfl
          · cases plain
      | _ => exact Or.inl ⟨rfl,rfl⟩

end

end V3Aidlc.ConfigurationMerges
