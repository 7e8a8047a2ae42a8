import V3Aidlc.Doubles

/-!
The values a JSON document holds in Python, with Python's own equality, truth
and membership: a boolean is an integer, an integer equals the float of the same
value, and two objects are equal whatever the order of their keys. Strings are
sequences of Unicode scalar values and floats are finite.
-/
namespace V3Aidlc.Values
open V3Aidlc.Doubles

inductive Json where
  | null
  | bool (b : Bool)
  | int (n : Int)
  | float (x : PyFloat)
  | str (s : String)
  | arr (items : List Json)
  | obj (fields : List (String × Json))
  deriving Inhabited

/-- A dict with string keys, in insertion order. -/
abbrev Dict := List (String × Json)

/-! ### Dicts -/

/-- `d[k]` when present; a document holds each key once. -/
def Dict.get? (k : String) : Dict → Option Json
  | [] => none
  | (k',v) :: rest => if k' = k then some v else Dict.get? k rest

/-- `d.get(k)`: `None` when absent. -/
def Dict.get (d : Dict) (k : String) : Json := (Dict.get? k d).getD .null
/-- `d.get(k, default)`. -/
def Dict.getOr (d : Dict) (k : String) (default : Json) : Json := (Dict.get? k d).getD default
/-- `k in d`. -/
def Dict.has (d : Dict) (k : String) : Bool := (Dict.get? k d).isSome

/-- `d[k] = v`: an existing key keeps its place. -/
def Dict.set (k : String) (v : Json) : Dict → Dict
  | [] => [(k,v)]
  | (k',v') :: rest => if k' = k then (k,v) :: rest else (k',v') :: Dict.set k v rest

/-- `d.update(changes)`. -/
def Dict.update (d changes : Dict) : Dict := changes.foldl (fun d kv => Dict.set kv.1 kv.2 d) d

/-- The dict without some keys. -/
def Dict.without (d : Dict) (keys : List String) : Dict := d.filter (fun kv => !keys.contains kv.1)

def Dict.keys (d : Dict) : List String := d.map Prod.fst
def Dict.values (d : Dict) : List Json := d.map Prod.snd

theorem get?_set (d : Dict) (k : String) (v : Json) (k' : String) :
    Dict.get? k' (d.set k v) = if k = k' then some v else Dict.get? k' d := by
  induction d with
  | nil => simp [Dict.set,Dict.get?]
  | cons kv rest ih =>
    obtain ⟨k₀,v₀⟩ := kv
    by_cases same : k₀ = k
    · subst same
      by_cases here : k₀ = k' <;> simp [Dict.set,Dict.get?,here]
    · by_cases here : k₀ = k'
      · subst here
        simp [Dict.set,Dict.get?,same,Ne.symm same]
      · simp [Dict.set,Dict.get?,same,here,ih]

@[simp] theorem get?_set_self (d : Dict) (k : String) (v : Json) : Dict.get? k (d.set k v) = some v := by
  simp [get?_set]
@[simp] theorem get?_set_ne (d : Dict) {k k' : String} (v : Json) (other : k ≠ k') :
    Dict.get? k' (d.set k v) = Dict.get? k' d := by
  simp [get?_set,other]

theorem get?_without (d : Dict) (keys : List String) (k : String) :
    Dict.get? k (d.without keys) = if k ∈ keys then none else Dict.get? k d := by
  induction d with
  | nil => simp [Dict.without,Dict.get?]
  | cons kv rest ih =>
    obtain ⟨k₀,v₀⟩ := kv
    have tail : Dict.get? k (List.filter (fun kv => !keys.contains kv.1) rest) =
        if k ∈ keys then none else Dict.get? k rest := ih
    by_cases dropped : k₀ ∈ keys
    · by_cases here : k₀ = k
      · subst here
        simp [Dict.without,dropped] at tail ⊢
        exact tail
      · simpa [Dict.without,Dict.get?,dropped,here] using tail
    · by_cases here : k₀ = k
      · subst here
        simp [Dict.without,Dict.get?,dropped]
      · simpa [Dict.without,Dict.get?,dropped,here] using tail

theorem get?_mem {d : Dict} {k : String} {v : Json} (found : Dict.get? k d = some v) : (k,v) ∈ d := by
  induction d with
  | nil => simp [Dict.get?] at found
  | cons kv rest ih =>
    obtain ⟨k₀,v₀⟩ := kv
    by_cases here : k₀ = k
    · simp only [Dict.get?,here,↓reduceIte,Option.some.injEq] at found
      simp [here,found]
    · simp only [Dict.get?,here,↓reduceIte] at found
      exact List.mem_cons_of_mem _ (ih found)

/-- `d.get(k)` is what a successful lookup found. -/
theorem get_of_get? {d : Dict} {k : String} {v : Json} (found : Dict.get? k d = some v) : d.get k = v := by
  simp [Dict.get,found]
/-- A value other than `None` was there. -/
theorem get?_of_get {d : Dict} {k : String} {v : Json} (got : d.get k = v) (some_value : v ≠ .null) :
    Dict.get? k d = some v := by
  unfold Dict.get at got
  cases found : Dict.get? k d with
  | none => rw [found] at got; exact absurd got.symm some_value
  | some w => rw [found] at got; rw [← got]; rfl

theorem get_set (d : Dict) (k : String) (v : Json) (k' : String) :
    (d.set k v).get k' = if k = k' then v else d.get k' := by
  unfold Dict.get
  rw [get?_set]
  split <;> rfl

/-- An update leaves the keys that it does not name. -/
theorem get?_update_other {d changes : Dict} {k : String} (other : ∀ kv ∈ changes, kv.1 ≠ k) :
    Dict.get? k (d.update changes) = Dict.get? k d := by
  unfold Dict.update
  induction changes generalizing d with
  | nil => rfl
  | cons kv rest ih =>
    rw [List.foldl_cons,ih (fun entry member => other entry (List.mem_cons_of_mem _ member))]
    exact get?_set_ne _ _ (other kv (by simp))

/-! ### Kinds of values -/

namespace Json

/-- `isinstance(value, str)`. -/
def str? : Json → Option String
  | .str s => some s
  | _ => none
/-- `isinstance(value, int)`: a boolean is an integer too. -/
def int? : Json → Option Int
  | .bool b => some (if b then 1 else 0)
  | .int n => some n
  | _ => none
/-- `isinstance(value, bool)`. -/
def bool? : Json → Option Bool
  | .bool b => some b
  | _ => none
/-- `isinstance(value, list)`. -/
def list? : Json → Option (List Json)
  | .arr items => some items
  | _ => none
/-- `isinstance(value, dict)`. -/
def dict? : Json → Option Dict
  | .obj fields => some fields
  | _ => none
/-- The exact value of a number, booleans included. -/
def num? : Json → Option ℚ
  | .bool b => some (if b then 1 else 0)
  | .int n => some n
  | .float x => some x.value
  | _ => none

def isStr (v : Json) : Bool := v.str?.isSome
def isInt (v : Json) : Bool := v.int?.isSome
def isBool (v : Json) : Bool := v.bool?.isSome
def isList (v : Json) : Bool := v.list?.isSome
def isDict (v : Json) : Bool := v.dict?.isSome
def isNull : Json → Bool
  | .null => true
  | _ => false

/-- `value is True` and `value is False`. -/
def isTrue (v : Json) : Bool := v.bool? = some true
def isFalse (v : Json) : Bool := v.bool? = some false

/-- `bool(value)`. -/
def truthy : Json → Bool
  | .null => false
  | .bool b => b
  | .int n => n ≠ 0
  | .float x => x.value ≠ 0
  | .str s => s ≠ ""
  | .arr items => !items.isEmpty
  | .obj fields => !fields.isEmpty

/-- Lists and dicts cannot be members of a set or keys of a dict. -/
def hashable : Json → Bool
  | .arr _ => false
  | .obj _ => false
  | _ => true

/-- The elements `for x in value` visits; nothing else can be iterated. -/
def iter? : Json → Option (List Json)
  | .arr items => some items
  | .obj fields => some (fields.map (fun kv => .str kv.1))
  | .str s => some (s.toList.map (fun c => .str (String.ofList [c])))
  | _ => none

end Json

@[simp] theorem str?_eq_some {v : Json} {s : String} : v.str? = some s ↔ v = .str s := by
  cases v <;> simp [Json.str?]
@[simp] theorem list?_eq_some {v : Json} {items : List Json} : v.list? = some items ↔ v = .arr items := by
  cases v <;> simp [Json.list?]
@[simp] theorem dict?_eq_some {v : Json} {fields : Dict} : v.dict? = some fields ↔ v = .obj fields := by
  cases v <;> simp [Json.dict?]
@[simp] theorem bool?_eq_some {v : Json} {b : Bool} : v.bool? = some b ↔ v = .bool b := by
  cases v <;> simp [Json.bool?]

theorem no_list {v : Json} (plain : v.list? = none) (items : List Json) : v ≠ .arr items := by
  rintro rfl
  cases plain
theorem no_dict {v : Json} (plain : v.dict? = none) (fields : Dict) : v ≠ .obj fields := by
  rintro rfl
  cases plain

/-! ### Equality -/

mutual
/-- `left == right`. -/
def Json.eq : Json → Json → Bool
  | .null,.null => true
  | .str a,.str b => a = b
  | .arr xs,.arr ys => eqItems xs ys
  | .obj xs,.obj ys => xs.length = ys.length && eqFields xs ys
  | .bool a,right => right.num? = some (if a then 1 else 0)
  | .int a,right => right.num? = some (a : ℚ)
  | .float a,right => right.num? = some a.value
  | _,_ => false
def eqItems : List Json → List Json → Bool
  | [],[] => true
  | x :: xs,y :: ys => x.eq y && eqItems xs ys
  | _,_ => false
/-- Every key of the first dict is in the second with an equal value. -/
def eqFields : List (String × Json) → Dict → Bool
  | [],_ => true
  | (k,x) :: rest,ys =>
    (match Dict.get? k ys with
      | some y => x.eq y
      | none => false) && eqFields rest ys
end

/-- `value in items`. -/
def memList (v : Json) (items : List Json) : Bool := items.any (fun item => v.eq item)

@[simp] theorem eq_str_left {s : String} {v : Json} : (Json.str s).eq v = true ↔ v = .str s := by
  cases v <;> simp [Json.eq,eq_comm]
@[simp] theorem eq_str_right {s : String} {v : Json} : v.eq (.str s) = true ↔ v = .str s := by
  cases v <;> simp [Json.eq,Json.num?]

theorem eq_str_right_false {s : String} {v : Json} : v.eq (.str s) = false ↔ v ≠ .str s := by
  rw [← Bool.not_eq_true,eq_str_right]

/-! ### Documents -/

mutual
/-- Every dict in the value holds each of its keys once. -/
def Json.proper : Json → Bool
  | .arr items => properItems items
  | .obj fields => decide (fields.map Prod.fst).Nodup && properFields fields
  | _ => true
def properItems : List Json → Bool
  | [] => true
  | v :: rest => v.proper && properItems rest
def properFields : List (String × Json) → Bool
  | [] => true
  | (_,v) :: rest => v.proper && properFields rest
end

theorem proper_obj {d : Dict} (proper : (Json.obj d).proper = true) :
    d.keys.Nodup ∧ properFields d = true := by
  simpa [Json.proper,Dict.keys] using proper

theorem proper_field {d : Dict} (proper : properFields d = true) : ∀ kv ∈ d, kv.2.proper = true := by
  induction d with
  | nil => simp
  | cons kv rest ih =>
    obtain ⟨k,v⟩ := kv
    simp only [properFields,Bool.and_eq_true] at proper
    simpa [proper.1] using ih proper.2

/-- What a proper dict holds is proper. -/
theorem proper_get {d : Dict} (proper : (Json.obj d).proper = true) (k : String) : (d.get k).proper = true := by
  unfold Dict.get
  cases found : Dict.get? k d with
  | none => rfl
  | some v => exact proper_field (proper_obj proper).2 _ (get?_mem found)

/-- A dict with distinct keys finds each of its entries. -/
theorem get?_of_mem {d : Dict} (distinct : d.keys.Nodup) {k : String} {v : Json} (member : (k,v) ∈ d) :
    Dict.get? k d = some v := by
  induction d with
  | nil => cases member
  | cons kv rest ih =>
    obtain ⟨k₀,v₀⟩ := kv
    obtain ⟨fresh,later⟩ := List.nodup_cons.mp distinct
    rcases List.mem_cons.mp member with same | tail
    · cases same
      simp [Dict.get?]
    · have other : k₀ ≠ k := fun same => fresh (same ▸ List.mem_map.mpr ⟨_,tail,rfl⟩)
      simpa [Dict.get?,other] using ih later tail

/-- A dict finds the same whatever the order of its keys. -/
theorem get?_perm {left right : Dict} (distinct : left.keys.Nodup) (same : left.Perm right) (key : String) :
    Dict.get? key left = Dict.get? key right := by
  have apart : right.keys.Nodup := (same.map Prod.fst).nodup_iff.mp distinct
  cases found : Dict.get? key left with
  | some v => exact (get?_of_mem apart (same.mem_iff.mp (get?_mem found))).symm
  | none =>
    cases other : Dict.get? key right with
    | none => rfl
    | some v =>
      have back := get?_of_mem distinct (same.mem_iff.mpr (get?_mem other))
      rw [found] at back
      cases back

mutual
/-- A document equals itself. -/
theorem eq_self (v : Json) (proper : v.proper = true) : v.eq v = true := by
  cases v with
  | null => rfl
  | bool b => simp [Json.eq,Json.num?]
  | int n => simp [Json.eq,Json.num?]
  | float x => simp [Json.eq,Json.num?]
  | str s => simp
  | arr items =>
    unfold Json.eq
    exact eqItems_self items (by simpa [Json.proper] using proper)
  | obj fields =>
    obtain ⟨distinct,each⟩ := proper_obj proper
    unfold Json.eq
    simp only [decide_true,Bool.true_and]
    exact eqFields_self fields fields each (fun k v member => get?_of_mem distinct member)
theorem eqItems_self (items : List Json) (proper : properItems items = true) : eqItems items items = true := by
  cases items with
  | nil => rfl
  | cons v rest =>
    simp only [properItems,Bool.and_eq_true] at proper
    unfold eqItems
    rw [eq_self v proper.1,eqItems_self rest proper.2]
    rfl
theorem eqFields_self (fields : List (String × Json)) (d : Dict) (proper : properFields fields = true)
    (found : ∀ k v, (k,v) ∈ fields → Dict.get? k d = some v) : eqFields fields d = true := by
  cases fields with
  | nil => rfl
  | cons kv rest =>
    obtain ⟨k,v⟩ := kv
    simp only [properFields,Bool.and_eq_true] at proper
    unfold eqFields
    rw [found k v (by simp),eqFields_self rest d proper.2 (fun k v member => found k v (by simp [member]))]
    simpa using eq_self v proper.1
end

/-- The keys of a dict are among those of a dict it equals. -/
theorem eqFields_keys {fields : List (String × Json)} {d : Dict} (same : eqFields fields d = true) :
    ∀ k ∈ Dict.keys fields, k ∈ d.keys := by
  induction fields with
  | nil => simp [Dict.keys]
  | cons kv rest ih =>
    obtain ⟨k,v⟩ := kv
    unfold eqFields at same
    simp only [Bool.and_eq_true] at same
    obtain ⟨here,later⟩ := same
    intro other member
    rcases List.mem_cons.mp member with rfl | tail
    · cases found : Dict.get? other d with
      | none => simp [found] at here
      | some w => exact List.mem_map.mpr ⟨_,get?_mem found,rfl⟩
    · exact ih later other tail

end V3Aidlc.Values
