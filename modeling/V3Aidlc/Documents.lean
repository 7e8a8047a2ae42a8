import V3Aidlc.Values
import V3Aidlc.ShortestDecimals
import Mathlib.Data.List.Perm.Subperm
import Mathlib.Data.List.Forall2
import Mathlib.Tactic.Tauto

/-!
Documents and when two of them are the same: the same value of the same type at every place, up
to the order of keys. Python's equality is coarser, since it takes a boolean, an integer and a
float of one value for equal; documents that are equal are the same when the numbers at each
place are of one kind (`same_iff`).
-/
namespace V3Aidlc.Documents
open V3Aidlc.Values V3Aidlc.Doubles V3Aidlc.ShortestDecimals

/-! ### The same document -/

mutual
/-- The same value of the same type at every place; the order of keys does not matter. -/
def same : Json → Json → Bool
  | .null,.null => true
  | .bool a,.bool b => a = b
  | .int a,.int b => a = b
  | .float a,.float b => a = b
  | .str a,.str b => a = b
  | .arr xs,.arr ys => sameItems xs ys
  | .obj xs,.obj ys => xs.length = ys.length && sameFields xs ys
  | _,_ => false
def sameItems : List Json → List Json → Bool
  | [],[] => true
  | x :: xs,y :: ys => same x y && sameItems xs ys
  | _,_ => false
def sameFields : List (String × Json) → Dict → Bool
  | [],_ => true
  | (k,x) :: rest,ys =>
    (match Dict.get? k ys with
      | some y => same x y
      | none => false) && sameFields rest ys
end

mutual
/-- Every float in the value is a double. -/
def doubles : Json → Bool
  | .float x => IsDouble x
  | .arr items => doublesItems items
  | .obj fields => doublesFields fields
  | _ => true
def doublesItems : List Json → Bool
  | [] => true
  | v :: rest => doubles v && doublesItems rest
def doublesFields : List (String × Json) → Bool
  | [] => true
  | (_,v) :: rest => doubles v && doublesFields rest
end

theorem sameItems_iff {xs ys : List Json} : sameItems xs ys = true ↔
    List.Forall₂ (fun x y => same x y = true) xs ys := by
  induction xs generalizing ys with
  | nil => cases ys <;> simp [sameItems]
  | cons x xs ih => cases ys <;> simp [sameItems,ih]

theorem sameFields_iff {xs : List (String × Json)} {ys : Dict} :
    sameFields xs ys = true ↔ ∀ kv ∈ xs, ∃ y, Dict.get? kv.1 ys = some y ∧ same kv.2 y = true := by
  induction xs with
  | nil => simp [sameFields]
  | cons kv xs ih =>
    obtain ⟨k,x⟩ := kv
    cases found : Dict.get? k ys <;> simp [sameFields,found,ih]

theorem doublesItems_iff {items : List Json} : doublesItems items = true ↔ ∀ v ∈ items, doubles v = true := by
  induction items with
  | nil => simp [doublesItems]
  | cons v items ih => simp [doublesItems,ih]

theorem doublesFields_iff {fields : List (String × Json)} : doublesFields fields = true ↔
    ∀ kv ∈ fields, doubles kv.2 = true := by
  induction fields with
  | nil => simp [doublesFields]
  | cons kv fields ih =>
    obtain ⟨k,v⟩ := kv
    simp [doublesFields,ih]

theorem properItems_iff {items : List Json} : properItems items = true ↔ ∀ v ∈ items, v.proper = true := by
  induction items with
  | nil => simp [properItems]
  | cons v items ih => simp [properItems,ih]

theorem properFields_iff {fields : List (String × Json)} : properFields fields = true ↔
    ∀ kv ∈ fields, kv.2.proper = true := by
  induction fields with
  | nil => simp [properFields]
  | cons kv fields ih =>
    obtain ⟨k,v⟩ := kv
    simp [properFields,ih]

/-- A document: each key once in a dict, each float a double. -/
def Document (v : Json) : Prop := v.proper = true ∧ doubles v = true

theorem document_items {items : List Json} (document : Document (.arr items)) : ∀ v ∈ items, Document v := by
  obtain ⟨proper,double⟩ := document
  intro v member
  exact ⟨properItems_iff.mp (by simpa [Json.proper] using proper) v member,
    doublesItems_iff.mp (by simpa [doubles] using double) v member⟩

theorem document_obj {d : Dict} : Document (.obj d) ↔ d.keys.Nodup ∧ ∀ kv ∈ d, Document kv.2 := by
  constructor
  · rintro ⟨proper,double⟩
    obtain ⟨distinct,each⟩ := proper_obj proper
    refine ⟨distinct,fun kv member => ⟨proper_field each kv member,?_⟩⟩
    exact doublesFields_iff.mp (by simpa [doubles] using double) kv member
  · rintro ⟨distinct,each⟩
    refine ⟨?_,by simpa [doubles] using doublesFields_iff.mpr (fun kv member => (each kv member).2)⟩
    have values : properFields d = true := properFields_iff.mpr (fun kv member => (each kv member).1)
    have names : (d.map Prod.fst).Nodup := distinct
    simp [Json.proper,values,names]

theorem document_str (s : String) : Document (.str s) := ⟨rfl,rfl⟩
theorem document_int (n : Int) : Document (.int n) := ⟨rfl,rfl⟩

theorem document_get {d : Dict} (document : Document (.obj d)) (k : String) : Document (d.get k) := by
  unfold Dict.get
  cases found : Dict.get? k d with
  | none => exact ⟨rfl,rfl⟩
  | some v => exact (document_obj.mp document).2 _ (get?_mem found)

theorem document_without {d : Dict} (document : Document (.obj d)) (keys : List String) :
    Document (.obj (d.without keys)) := by
  obtain ⟨distinct,each⟩ := document_obj.mp document
  have kept : (d.without keys).Sublist d := List.filter_sublist
  exact document_obj.mpr ⟨distinct.sublist (kept.map Prod.fst),fun kv member => each kv (kept.subset member)⟩

theorem keys_set (d : Dict) (k : String) (v : Json) :
    (d.set k v).keys = if k ∈ d.keys then d.keys else d.keys ++ [k] := by
  induction d with
  | nil => rfl
  | cons kv rest ih =>
    obtain ⟨k',v'⟩ := kv
    by_cases here : k' = k
    · simp [Dict.set,Dict.keys,here]
    · unfold Dict.keys at ih ⊢
      by_cases later : k ∈ rest.map Prod.fst <;> simp [Dict.set,here,Ne.symm here,ih,later]

theorem mem_set {d : Dict} {k : String} {v : Json} {kv : String × Json} (member : kv ∈ d.set k v) :
    kv ∈ d ∨ kv = (k,v) := by
  induction d with
  | nil => exact Or.inr (List.mem_singleton.mp member)
  | cons first rest ih =>
    obtain ⟨k',v'⟩ := first
    unfold Dict.set at member
    split at member
    · rcases List.mem_cons.mp member with same | tail
      · exact Or.inr same
      · exact Or.inl (List.mem_cons_of_mem _ tail)
    · rcases List.mem_cons.mp member with same | tail
      · exact Or.inl (by simp [same])
      · exact (ih tail).imp (List.mem_cons_of_mem _) id

theorem document_set {d : Dict} (document : Document (.obj d)) (k : String) {v : Json} (value : Document v) :
    Document (.obj (d.set k v)) := by
  obtain ⟨distinct,each⟩ := document_obj.mp document
  refine document_obj.mpr ⟨?_,?_⟩
  · rw [keys_set]
    split
    · exact distinct
    · rename_i fresh
      exact List.Nodup.append distinct (List.nodup_singleton k) (by simpa using fresh)
  · intro kv member
    rcases mem_set member with old | rfl
    · exact each kv old
    · exact value

/-! ### Keys -/

theorem keys_perm {xs ys : Dict} (distinct : xs.keys.Nodup) (lengths : xs.length = ys.length)
    (inside : xs.keys ⊆ ys.keys) :
    xs.keys.Perm ys.keys :=
  (List.subperm_of_subset distinct inside).perm_of_length_le (by simp [Dict.keys,lengths])

theorem mem_keys {d : Dict} {k : String} : k ∈ d.keys ↔ ∃ v, Dict.get? k d = some v := by
  induction d with
  | nil => simp [Dict.keys,Dict.get?]
  | cons kv rest ih =>
    obtain ⟨k',v⟩ := kv
    by_cases here : k' = k
    · simp [Dict.keys,Dict.get?,here]
    · simpa [Dict.keys,Dict.get?,here,Ne.symm here] using ih

/-! ### Related lookups -/

section
variable {α β : Type} {related : α → β → Prop} {a : Option α} {b : Option β}

theorem rel_right (rel : Option.Rel related a b) {x : α} (here : a = some x) : ∃ y, b = some y ∧ related x y := by
  subst here
  cases rel with
  | some holds => exact ⟨_,rfl,holds⟩

theorem rel_left (rel : Option.Rel related a b) {y : β} (there : b = some y) : ∃ x, a = some x ∧ related x y := by
  subst there
  cases rel with
  | some holds => exact ⟨_,rfl,holds⟩

theorem rel_none (rel : Option.Rel related a b) (absent : a = none) : b = none := by
  subst absent
  cases rel
  rfl

theorem rel_of (right : ∀ x, a = some x → ∃ y, b = some y ∧ related x y) (left : ∀ y, b = some y → ∃ x, a = some x) :
    Option.Rel related a b := by
  cases a with
  | some x =>
    obtain ⟨y,rfl,holds⟩ := right x rfl
    exact .some holds
  | none =>
    cases b with
    | none => exact .none
    | some y =>
      obtain ⟨x,here⟩ := left y rfl
      cases here

end

section
variable {related : Json → Json → Prop} {xs ys : Dict}

/-- Dicts with related values have the same keys. -/
theorem keys_of_lookups (distinct : xs.keys.Nodup) (distinct' : ys.keys.Nodup)
    (lookups : ∀ k, Option.Rel related (Dict.get? k xs) (Dict.get? k ys)) : xs.keys.Perm ys.keys := by
  refine (List.perm_ext_iff_of_nodup distinct distinct').mpr (fun k => ?_)
  rw [mem_keys,mem_keys]
  constructor
  · rintro ⟨v,found⟩
    obtain ⟨w,there,_⟩ := rel_right (lookups k) found
    exact ⟨w,there⟩
  · rintro ⟨w,found⟩
    obtain ⟨v,here,_⟩ := rel_left (lookups k) found
    exact ⟨v,here⟩

/-- Dicts of one length, the first of which has its entries in the second, have related values
    under each key. -/
theorem related_lookups (distinct : xs.keys.Nodup) (distinct' : ys.keys.Nodup) :
    (xs.length = ys.length ∧ ∀ kv ∈ xs, ∃ w, Dict.get? kv.1 ys = some w ∧ related kv.2 w) ↔
      ∀ k, Option.Rel related (Dict.get? k xs) (Dict.get? k ys) := by
  constructor
  · rintro ⟨lengths,each⟩ k
    have inside : xs.keys ⊆ ys.keys := by
      intro k member
      obtain ⟨v,found⟩ := mem_keys.mp member
      obtain ⟨w,there,_⟩ := each _ (get?_mem found)
      exact mem_keys.mpr ⟨w,there⟩
    refine rel_of (fun v found => each _ (get?_mem found)) (fun w there => ?_)
    exact mem_keys.mp ((keys_perm distinct lengths inside).mem_iff.mpr (mem_keys.mpr ⟨w,there⟩))
  · intro agree
    have keys := keys_of_lookups distinct distinct' agree
    refine ⟨by simpa [Dict.keys] using keys.length_eq,fun kv member => ?_⟩
    exact rel_right (agree kv.1) (get?_of_mem distinct member)

end

/-- Two dicts are the same when each key finds the same in both. -/
theorem same_lookups {xs ys : Dict} (distinct : xs.keys.Nodup) (distinct' : ys.keys.Nodup) :
    same (.obj xs) (.obj ys) = true ↔ ∀ k, Option.Rel (fun v w => same v w = true) (Dict.get? k xs)
      (Dict.get? k ys) := by
  rw [← related_lookups distinct distinct']
  simp only [same,Bool.and_eq_true,decide_eq_true_eq,sameFields_iff]

/-! ### Equality and sameness -/

mutual
/-- The numbers at the same place of two values are of one kind, and zeros of one sign. -/
def kindred : Json → Json → Bool
  | .bool _,.int _ => false
  | .bool _,.float _ => false
  | .int _,.bool _ => false
  | .int _,.float _ => false
  | .float _,.bool _ => false
  | .float _,.int _ => false
  | .float x,.float y => x = .negZero ↔ y = .negZero
  | .arr xs,.arr ys => kindredItems xs ys
  | .obj xs,.obj ys => kindredFields xs ys
  | _,_ => true
def kindredItems : List Json → List Json → Bool
  | x :: xs,y :: ys => kindred x y && kindredItems xs ys
  | _,_ => true
def kindredFields : List (String × Json) → Dict → Bool
  | [],_ => true
  | (k,x) :: rest,ys =>
    (match Dict.get? k ys with
      | some y => kindred x y
      | none => true) && kindredFields rest ys
end

mutual
/-- Documents are the same when they are equal and their numbers are of one kind. -/
theorem same_iff (v w : Json) : same v w = true ↔ v.eq w = true ∧ kindred v w = true := by
  cases v with
  | arr items =>
    cases w with
    | arr others => simpa [same,Json.eq,kindred] using sameItems_eq items others
    | _ => simp [same,Json.eq]
  | obj fields =>
    cases w with
    | obj others =>
      have members := sameFields_eq fields others
      simp only [same,Json.eq,kindred,Bool.and_eq_true,members]
      exact and_assoc.symm
    | _ => simp [same,Json.eq]
  | null => cases w <;> simp [same,Json.eq,kindred]
  | bool a =>
    cases w with
    | bool b => cases a <;> cases b <;> simp [same,Json.eq,kindred,Json.num?]
    | _ => simp [same,Json.eq,kindred,Json.num?]
  | int a =>
    cases w with
    | int b => simpa [same,Json.eq,kindred,Json.num?] using eq_comm
    | _ => simp [same,Json.eq,kindred,Json.num?]
  | float x =>
    cases w with
    | float y => cases x <;> cases y <;> simp [same,Json.eq,kindred,Json.num?,PyFloat.value,eq_comm]
    | _ => simp [same,Json.eq,kindred,Json.num?]
  | str a => cases w <;> simp [same,Json.eq,kindred]
theorem sameItems_eq (items others : List Json) :
    sameItems items others = true ↔ eqItems items others = true ∧ kindredItems items others = true := by
  cases items with
  | nil => cases others <;> simp [sameItems,eqItems,kindredItems]
  | cons v items =>
    cases others with
    | nil => simp [sameItems,eqItems]
    | cons w others =>
      simp only [sameItems,eqItems,kindredItems,Bool.and_eq_true,same_iff v w,sameItems_eq items others]
      tauto
theorem sameFields_eq (fields : List (String × Json)) (others : Dict) :
    sameFields fields others = true ↔ eqFields fields others = true ∧ kindredFields fields others = true := by
  cases fields with
  | nil => simp [sameFields,eqFields,kindredFields]
  | cons kv fields =>
    obtain ⟨k,v⟩ := kv
    cases found : Dict.get? k others with
    | none => simp [sameFields,eqFields,found]
    | some w =>
      simp only [sameFields,eqFields,kindredFields,found,Bool.and_eq_true,same_iff v w,sameFields_eq fields others]
      tauto
end

end V3Aidlc.Documents
