import V3Aidlc.Values
import Mathlib.Data.List.Nodup
import Mathlib.Data.List.Find

/-!
The right-biased merge of documents whose keys are read up to a folding of names, such as
that of the letter case. Two objects merge key by key and a key that is there keeps its
spelling; any other pair is replaced. A value that is no object comes from the strongest
layer that has its path (`strongest_layer`), and what no later layer touches is kept
(`untouched_kept`).
-/
namespace V3Aidlc.DeepMerges
open V3Aidlc.Values

/-! ### Definitions -/

section
variable (fold : String → String)

/-- The first entry of a name. -/
def entry_of (d : Dict) (name : String) : Option (String × Json) := d.find? (fun entry => fold entry.1 = fold name)

/-- Each name is there once at most. -/
def Distinct (d : Dict) : Prop := (d.map (fun entry => fold entry.1)).Nodup

mutual
def combine : Json → Json → Json
  | .obj base,.obj override =>
    .obj (resolve base override ++ override.filter (fun entry => (entry_of fold base entry.1).isNone))
  | _,value => value
/-- The entries of the base, each with what the override has for its name. -/
def resolve : List (String × Json) → Dict → Dict
  | [],_ => []
  | (key,old) :: rest,override =>
    (key,match entry_of fold override key with
      | some entry => combine old entry.2
      | none => old) :: resolve rest override
end

def combined (base override : Dict) : Dict :=
  resolve fold base override ++ override.filter (fun entry => (entry_of fold base entry.1).isNone)

mutual
/-- No object in the value has two keys of one name. -/
def unambiguous : Json → Bool
  | .obj fields => decide (fields.map (fun entry => fold entry.1)).Nodup && unambiguousFields fields
  | .arr items => unambiguousItems items
  | _ => true
def unambiguousItems : List Json → Bool
  | [] => true
  | value :: rest => unambiguous value && unambiguousItems rest
def unambiguousFields : List (String × Json) → Bool
  | [] => true
  | (_,value) :: rest => unambiguous value && unambiguousFields rest
end

/-- The value at a path of names. -/
def settled : List String → Json → Option Json
  | [],value => some value
  | name :: rest,.obj fields => (entry_of fold fields name).bind (fun entry => settled rest entry.2)
  | _ :: _,_ => none

/-- The layer has nothing at the path, and no value but objects on the way to it. -/
def Untouched (path : List String) (layer : Json) : Prop :=
  settled fold path layer = none ∧
    ∀ ancestor value, ancestor <+: path → settled fold ancestor layer = some value → value.isDict = true

end

/-- What holds of a document when it holds of its parts holds of every document. -/
theorem by_parts {P : Json → Prop} (null : P .null) (bool : ∀ b, P (.bool b)) (int : ∀ n, P (.int n))
    (float : ∀ x, P (.float x)) (str : ∀ s, P (.str s)) (arr : ∀ items, (∀ value ∈ items, P value) → P (.arr items))
    (obj : ∀ fields : Dict, (∀ entry ∈ fields, P entry.2) → P (.obj fields)) (value : Json) : P value := by
  refine @Json.rec P (fun items => ∀ value ∈ items, P value) (fun fields => ∀ entry ∈ fields, P entry.2)
    (fun entry => P entry.2) null bool int float str arr obj ?_ ?_ ?_ ?_ ?_ value
  · simp
  · intro value rest here later
    exact List.forall_mem_cons.mpr ⟨here,later⟩
  · simp
  · intro entry rest here later
    exact List.forall_mem_cons.mpr ⟨here,later⟩
  · exact fun _ _ here => here

section
variable {fold : String → String}

/-! ### Entries -/

theorem entry_of_congr {name other : String} (same : fold name = fold other) (d : Dict) :
    entry_of fold d name = entry_of fold d other := by
  unfold entry_of
  rw [same]

theorem entry_of_name {d : Dict} {name : String} {entry : String × Json} (found : entry_of fold d name = some entry) :
    fold entry.1 = fold name := by
  simpa using List.find?_some found

theorem entry_of_mem {d : Dict} {name : String} {entry : String × Json} (found : entry_of fold d name = some entry) :
    entry ∈ d :=
  List.mem_of_find?_eq_some found

theorem entry_of_none {d : Dict} {name : String} :
    entry_of fold d name = none ↔ fold name ∉ d.map (fun entry => fold entry.1) := by
  simp [entry_of]

theorem entry_of_cons (entry : String × Json) (d : Dict) (name : String) : entry_of fold (entry :: d) name =
    if fold entry.1 = fold name then some entry else entry_of fold d name := by
  unfold entry_of
  by_cases same : fold entry.1 = fold name <;> simp [same]

theorem entry_of_append (d e : Dict) (name : String) :
    entry_of fold (d ++ e) name = (entry_of fold d name).or (entry_of fold e name) :=
  List.find?_append

/-- Where each name is there once, an entry is found by its name. -/
theorem entry_of_of_mem {d : Dict} (distinct : Distinct fold d) {entry : String × Json}
    (member : entry ∈ d) {name : String} (named : fold entry.1 = fold name) : entry_of fold d name = some entry := by
  cases found : entry_of fold d name with
  | none => exact absurd (named ▸ List.mem_map_of_mem member) (entry_of_none.mp found)
  | some other =>
    have same : fold other.1 = fold entry.1 := (entry_of_name found).trans named.symm
    rw [List.inj_on_of_nodup_map distinct (entry_of_mem found) member same]

theorem unambiguousItems_iff {items : List Json} :
    unambiguousItems fold items = true ↔ ∀ value ∈ items, unambiguous fold value = true := by
  induction items with
  | nil => simp [unambiguousItems]
  | cons value items ih => simp [unambiguousItems,ih]

theorem unambiguousFields_iff {fields : List (String × Json)} :
    unambiguousFields fold fields = true ↔ ∀ entry ∈ fields, unambiguous fold entry.2 = true := by
  induction fields with
  | nil => simp [unambiguousFields]
  | cons entry fields ih => simp [unambiguousFields,ih]

theorem unambiguous_obj {fields : Dict} : unambiguous fold (.obj fields) = true ↔
    Distinct fold fields ∧ ∀ entry ∈ fields, unambiguous fold entry.2 = true := by
  simp [unambiguous,unambiguousFields_iff,Distinct]

/-! ### The merge of two objects -/

/-- What becomes of an entry of the base. -/
def resolved (fold : String → String) (override : Dict) (entry : String × Json) : String × Json :=
  (entry.1,match entry_of fold override entry.1 with
    | some other => combine fold entry.2 other.2
    | none => entry.2)

theorem resolve_eq (base override : Dict) : resolve fold base override = base.map (resolved fold override) := by
  induction base with
  | nil => rfl
  | cons entry base ih =>
    rw [List.map_cons,← ih]
    rfl

theorem combine_obj (base override : Dict) :
    combine fold (.obj base) (.obj override) = .obj (combined fold base override) := by
  rw [combine]
  rfl

theorem combine_plain {base override : Json} (plain : base.isDict = false ∨ override.isDict = false) :
    combine fold base override = override := by
  cases base <;> cases override <;> first | rfl | simp [Json.isDict,Json.dict?] at plain

theorem entry_of_resolve (base override : Dict) (name : String) :
    entry_of fold (resolve fold base override) name = (entry_of fold base name).map (resolved fold override) := by
  rw [resolve_eq]
  unfold entry_of
  rw [List.find?_map]
  rfl

/-- The entry of a name in the merge. -/
theorem entry_of_combined (base override : Dict) (name : String) : entry_of fold (combined fold base override) name =
    match entry_of fold base name,entry_of fold override name with
    | some entry,some other => some (entry.1,combine fold entry.2 other.2)
    | some entry,none => some entry
    | none,found => found := by
  unfold combined
  rw [entry_of_append,entry_of_resolve]
  cases here : entry_of fold base name with
  | some entry =>
    have same := entry_of_congr (entry_of_name here) override
    cases there : entry_of fold override name <;> simp [resolved,same,there]
  | none =>
    have fresh : ∀ entry ∈ override, fold entry.1 = fold name → (entry_of fold base entry.1).isNone = true := by
      intro entry _ named
      rw [entry_of_congr named,here]
      rfl
    simp only [Option.map_none,Option.none_or]
    unfold entry_of at fresh ⊢
    rw [List.find?_filter]
    refine List.find?_congr ?_
    intro entry member
    by_cases named : fold entry.1 = fold name
    · simpa [named] using fresh entry member named
    · simp [named]

theorem names_combined (base override : Dict) : (combined fold base override).map (fun entry => fold entry.1) =
    base.map (fun entry => fold entry.1) ++ (override.filter (fun entry => (entry_of fold base entry.1).isNone)).map
      (fun entry => fold entry.1) := by
  unfold combined
  rw [List.map_append,resolve_eq,List.map_map]
  rfl

/-- A merge of unambiguous documents is one. -/
theorem unambiguous_combine {base : Json} : ∀ {override : Json}, unambiguous fold base = true →
    unambiguous fold override = true → unambiguous fold (combine fold base override) = true := by
  induction base using by_parts with
  | obj base ih =>
    intro override clear clear'
    cases override with
    | obj override =>
      obtain ⟨distinct,each⟩ := unambiguous_obj.mp clear
      obtain ⟨distinct',each'⟩ := unambiguous_obj.mp clear'
      rw [combine_obj]
      refine unambiguous_obj.mpr ⟨?_,?_⟩
      · unfold Distinct
        rw [names_combined]
        refine List.Nodup.append distinct (distinct'.sublist (List.filter_sublist.map _)) ?_
        intro name here there
        obtain ⟨entry,member,rfl⟩ := List.mem_map.mp there
        have fresh := (List.mem_filter.mp member).2
        rw [Option.isNone_iff_eq_none,entry_of_none] at fresh
        exact fresh here
      · intro entry member
        unfold combined at member
        rw [resolve_eq] at member
        rcases List.mem_append.mp member with kept | added
        · obtain ⟨old,inside,rfl⟩ := List.mem_map.mp kept
          unfold resolved
          cases found : entry_of fold override old.1 with
          | none => exact each old inside
          | some other => exact ih old inside (each old inside) (each' other (entry_of_mem found))
        · exact each' entry (List.mem_filter.mp added).1
    | _ => exact clear'
  | _ =>
    intro override _ clear'
    rwa [combine_plain (.inl rfl)]

/-! ### One entry at a time -/

theorem distinct_keys {d : Dict} (distinct : Distinct fold d) : d.keys.Nodup := by
  have names : (d.keys.map fold).Nodup := by
    unfold Dict.keys
    rw [List.map_map]
    exact distinct
  exact names.of_map fold

theorem get?_entry {d : Dict} (distinct : Distinct fold d) {key : String} {value : Json} :
    Dict.get? key d = some value ↔ entry_of fold d key = some (key,value) := by
  constructor
  · intro found
    exact entry_of_of_mem distinct (get?_mem found) rfl
  · intro found
    exact get?_of_mem (distinct_keys distinct) (entry_of_mem found)

/-- Writing to a key changes the entries of its name only. -/
theorem entry_of_set {key name : String} (apart : fold key ≠ fold name) (d : Dict) (value : Json) :
    entry_of fold (d.set key value) name = entry_of fold d name := by
  induction d with
  | nil => simp [Dict.set,entry_of,apart]
  | cons entry d ih =>
    obtain ⟨k,v⟩ := entry
    by_cases here : k = key
    · subst here
      simp [Dict.set,entry_of_cons,apart]
    · simp [Dict.set,here,entry_of_cons,ih]

theorem set_fresh {d : Dict} {key : String} (fresh : entry_of fold d key = none) (value : Json) :
    d.set key value = d ++ [(key,value)] := by
  induction d with
  | nil => rfl
  | cons entry d ih =>
    obtain ⟨k,v⟩ := entry
    rw [entry_of_cons] at fresh
    split at fresh
    · cases fresh
    · rename_i other
      have apart : k ≠ key := fun same => other (congrArg fold same)
      simp [Dict.set,apart,ih fresh]

theorem set_entry {d : Dict} (distinct : Distinct fold d) {entry : String × Json} {name : String}
    (found : entry_of fold d name = some entry) (value : Json) : d.set entry.1 value =
      d.map (fun other => if fold other.1 = fold name then (other.1,value) else other) := by
  induction d with
  | nil => cases found
  | cons first d ih =>
    obtain ⟨k,v⟩ := first
    obtain ⟨fresh,later⟩ := List.nodup_cons.mp distinct
    rw [entry_of_cons] at found
    split at found
    · rename_i named
      obtain rfl := Option.some.inj found
      have rest : d.map (fun other => if fold other.1 = fold name then (other.1,value) else other) = d := by
        refine (List.map_congr_left ?_).trans (List.map_id d)
        intro other member
        have apart : fold other.1 ≠ fold name := by
          intro same
          exact fresh (List.mem_map.mpr ⟨other,member,same.trans named.symm⟩)
        simp [apart]
      simp only at named
      simp [Dict.set,named,rest]
    · rename_i other
      have apart : k ≠ entry.1 := fun same => other (by simpa [same] using entry_of_name found)
      simp only at other
      simp [Dict.set,apart,other,ih later found]

/-- An entry of the override whose name the base does not have comes last. -/
theorem combined_fresh {base rest : Dict} {name : String} (value : Json) (fresh : entry_of fold base name = none)
    (once : entry_of fold rest name = none) :
    combined fold (base ++ [(name,value)]) rest = combined fold base ((name,value) :: rest) := by
  have kept : base.map (resolved fold rest) = base.map (resolved fold ((name,value) :: rest)) := by
    refine List.map_congr_left ?_
    intro entry member
    have apart : fold name ≠ fold entry.1 := by
      intro same
      rw [entry_of_none,same] at fresh
      exact fresh (List.mem_map_of_mem member)
    simp [resolved,entry_of_cons,apart]
  have added : rest.filter (fun entry => (entry_of fold (base ++ [(name,value)]) entry.1).isNone) =
      rest.filter (fun entry => (entry_of fold base entry.1).isNone) := by
    refine List.filter_congr ?_
    intro entry member
    have apart : fold name ≠ fold entry.1 := by
      intro same
      rw [entry_of_none,same] at once
      exact once (List.mem_map_of_mem member)
    rw [entry_of_append,entry_of_cons,if_neg apart]
    cases entry_of fold base entry.1 <;> rfl
  unfold combined
  rw [resolve_eq,resolve_eq,List.map_append,kept,added,List.filter_cons,if_pos (by simp [fresh]),List.append_assoc]
  simp [resolved,once]

/-- An entry of the override whose name the base has goes to the entry of that name. -/
theorem combined_entry {base rest : Dict} {name : String} {entry : String × Json} (value : Json)
    (distinct : Distinct fold base) (found : entry_of fold base name = some entry)
      (once : entry_of fold rest name = none) :
    combined fold (base.set entry.1 (combine fold entry.2 value)) rest =
      combined fold base ((name,value) :: rest) := by
  rw [set_entry distinct found]
  unfold combined
  rw [resolve_eq,resolve_eq,List.map_map,List.filter_cons,if_neg (by simp [found])]
  congr 1
  · refine List.map_congr_left ?_
    intro other member
    by_cases named : fold other.1 = fold name
    · have same : other = entry := Option.some.inj ((entry_of_of_mem distinct member named).symm.trans found)
      subst same
      have absent := (entry_of_congr named rest).trans once
      simp [resolved,named,absent,entry_of_cons]
    · simp [resolved,named,entry_of_cons,Ne.symm named]
  · refine List.filter_congr ?_
    intro other _
    have names : ∀ name', (entry_of fold (base.map (fun other =>
        if fold other.1 = fold name then (other.1,combine fold entry.2 value) else other)) name').isNone =
          (entry_of fold base name').isNone := by
      intro name'
      rw [Bool.eq_iff_iff,Option.isNone_iff_eq_none,Option.isNone_iff_eq_none,entry_of_none,entry_of_none,List.map_map]
      have same : ((fun other : String × Json => fold other.1) ∘ fun other =>
          if fold other.1 = fold name then (other.1,combine fold entry.2 value) else other) =
            fun other => fold other.1 := by
        funext other
        by_cases named : fold other.1 = fold name <;> simp [named]
      rw [same]
    exact names other.1

/-! ### Two layers -/

theorem settled_cons (name : String) (rest : List String) (fields : Dict) :
    settled fold (name :: rest) (.obj fields) =
      (entry_of fold fields name).bind (fun entry => settled fold rest entry.2) := by
  rw [settled]

/-- A value that is no object is the override's, or the override has none there. -/
theorem settled_combine {path : List String} {base override value : Json} (plain : value.isDict = false)
    (found : settled fold path (combine fold base override) = some value) :
    settled fold path override = some value ∨
      settled fold path override = none ∧ settled fold path base = some value := by
  induction path generalizing base override with
  | nil =>
    refine .inl ?_
    have same : combine fold base override = value := Option.some.inj found
    by_cases objects : base.isDict = false ∨ override.isDict = false
    · rw [combine_plain objects] at same
      rw [same]
      rfl
    · cases base <;> cases override <;> simp [Json.isDict,Json.dict?] at objects
      rw [combine_obj] at same
      simp [← same,Json.isDict,Json.dict?] at plain
  | cons name rest ih =>
    by_cases objects : base.isDict = false ∨ override.isDict = false
    · rw [combine_plain objects] at found
      exact .inl found
    · cases base <;> cases override <;> simp [Json.isDict,Json.dict?] at objects
      rename_i base override
      rw [combine_obj,settled_cons,entry_of_combined] at found
      rw [settled_cons,settled_cons]
      cases here : entry_of fold base name with
      | none =>
        cases there : entry_of fold override name with
        | none => simp [here,there] at found
        | some other => exact .inl (by simpa [here,there] using found)
      | some entry =>
        cases there : entry_of fold override name with
        | none => exact .inr ⟨rfl,by simpa [here,there] using found⟩
        | some other => exact ih (by simpa [here,there] using found)

/-- A value that is no object is set, whatever the base. -/
theorem settled_set {path : List String} {base override value : Json} (plain : value.isDict = false)
    (given : settled fold path override = some value) :
    settled fold path (combine fold base override) = some value := by
  induction path generalizing base override with
  | nil =>
    obtain rfl : override = value := Option.some.inj given
    rw [combine_plain (.inr plain)]
    rfl
  | cons name rest ih =>
    by_cases objects : base.isDict = false ∨ override.isDict = false
    · rwa [combine_plain objects]
    · cases base <;> cases override <;> simp [Json.isDict,Json.dict?] at objects
      rename_i base override
      rw [settled_cons] at given
      rw [combine_obj,settled_cons,entry_of_combined]
      cases there : entry_of fold override name with
      | none => simp [there] at given
      | some other =>
        rw [there] at given
        cases here : entry_of fold base name with
        | none => exact given
        | some entry => exact ih given

/-- What a layer does not touch is kept. -/
theorem settled_kept {path : List String} {base override value : Json} (found : settled fold path base = some value)
    (untouched : Untouched fold path override) : settled fold path (combine fold base override) = some value := by
  induction path generalizing base override with
  | nil => cases untouched.1
  | cons name rest ih =>
    have object : override.isDict = true := untouched.2 [] override List.nil_prefix rfl
    cases override <;> simp [Json.isDict,Json.dict?] at object
    rename_i override
    cases base with
    | obj base =>
      rw [settled_cons] at found
      rw [combine_obj,settled_cons,entry_of_combined]
      cases here : entry_of fold base name with
      | none => simp [here] at found
      | some entry =>
        rw [here] at found
        cases there : entry_of fold override name with
        | none => exact found
        | some other =>
          refine ih found ⟨?_,?_⟩
          · have absent := untouched.1
            rwa [settled_cons,there] at absent
          · intro ancestor value inside reached
            refine untouched.2 (name :: ancestor) value (List.prefix_cons_inj name |>.mpr inside) ?_
            rw [settled_cons,there]
            exact reached
    | _ => simp [settled] at found

/-! ### Many layers -/

/-- The value of a setting that is no object is that of the strongest layer that has the
    path. -/
theorem strongest_layer {layers : List Json} {path : List String} {value : Json} (plain : value.isDict = false)
    (found : settled fold path (layers.foldl (combine fold) (.obj [])) = some value) :
    layers.reverse.findSome? (settled fold path) = some value := by
  induction layers using List.reverseRecOn with
  | nil =>
    cases path with
    | nil =>
      obtain rfl := Option.some.inj found
      cases plain
    | cons name rest => simp [settled,entry_of] at found
  | append_singleton layers layer ih =>
    rw [List.foldl_append] at found
    rw [List.reverse_append]
    rcases settled_combine plain found with given | ⟨absent,earlier⟩
    · simp [given]
    · simpa [absent] using ih earlier

theorem untouched_kept {start value : Json} {layers : List Json} {path : List String}
    (found : settled fold path start = some value) (untouched : ∀ layer ∈ layers, Untouched fold path layer) :
    settled fold path (layers.foldl (combine fold) start) = some value := by
  induction layers generalizing start with
  | nil => exact found
  | cons layer layers ih =>
    rw [List.forall_mem_cons] at untouched
    exact ih (settled_kept found untouched.1) untouched.2

end

end V3Aidlc.DeepMerges
