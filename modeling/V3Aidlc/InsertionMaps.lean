import V3Aidlc.Groups

/-!
Maps that list their entries in the order in which the keys were first set. Setting a
key again keeps its place and replaces its value, so nothing else tells that there was
another value before.
-/
namespace V3Aidlc.InsertionMaps
open V3Aidlc.Groups
variable {κ α : Type} [DecidableEq κ]

structure InsertionMap (κ α : Type) [DecidableEq κ] where
  entries : List (κ × α)
  distinct : (entries.map Prod.fst).Nodup

namespace InsertionMap

def empty : InsertionMap κ α := ⟨[],List.nodup_nil⟩

def keys (m : InsertionMap κ α) : List κ := m.entries.map Prod.fst

def values (m : InsertionMap κ α) : List α := m.entries.map Prod.snd

def get? (m : InsertionMap κ α) (k : κ) : Option α := (m.entries.find? (fun entry => entry.1 = k)).map Prod.snd

/-- The entry, with another value under this key. -/
def replaced (k : κ) (a : α) (entry : κ × α) : κ × α := if entry.1 = k then (k,a) else entry

theorem replaced_key (k : κ) (a : α) (entry : κ × α) : (replaced k a entry).1 = entry.1 := by
  unfold replaced
  split
  · rename_i same
    exact same.symm
  · rfl

theorem replaced_keys (k : κ) (a : α) (entries : List (κ × α)) :
    (entries.map (replaced k a)).map Prod.fst = entries.map Prod.fst := by
  rw [List.map_map]
  exact List.map_congr_left (fun entry _ => replaced_key k a entry)

def set (m : InsertionMap κ α) (k : κ) (a : α) : InsertionMap κ α :=
  if known : k ∈ m.keys then ⟨m.entries.map (replaced k a),replaced_keys k a m.entries ▸ m.distinct⟩
  else ⟨m.entries ++ [(k,a)],by
    rw [List.map_append]
    refine List.nodup_append.mpr ⟨m.distinct,by simp,?_⟩
    intro other inside last isLast same
    have lastIs : last = k := List.mem_singleton.mp isLast
    exact known ((same.trans lastIs) ▸ inside)⟩

theorem entries_set_fresh {m : InsertionMap κ α} {k : κ} (fresh : k ∉ m.keys) (a : α) :
    (m.set k a).entries = m.entries ++ [(k,a)] := by
  unfold set
  rw [dif_neg fresh]

theorem values_set_fresh {m : InsertionMap κ α} {k : κ} (fresh : k ∉ m.keys) (a : α) :
    (m.set k a).values = m.values ++ [a] := by
  unfold values
  rw [entries_set_fresh fresh,List.map_append]
  rfl

/-- A key set again adds no value. -/
theorem length_set_known {m : InsertionMap κ α} {k : κ} (known : k ∈ m.keys) (a : α) :
    (m.set k a).values.length = m.values.length := by
  unfold set values
  rw [dif_pos known]
  simp

theorem keys_set {m : InsertionMap κ α} {k other : κ} (a : α) : other ∈ (m.set k a).keys ↔
    other ∈ m.keys ∨ other = k := by
  unfold set
  split
  · rename_i known
    have same : (m.entries.map (replaced k a)).map Prod.fst = m.keys := replaced_keys k a m.entries
    show other ∈ (m.entries.map (replaced k a)).map Prod.fst ↔ _
    rw [same]
    refine ⟨.inl,?_⟩
    rintro (inside | rfl)
    · exact inside
    · exact known
  · show other ∈ (m.entries ++ [(k,a)]).map Prod.fst ↔ _
    simp [keys]

theorem get?_of_mem {m : InsertionMap κ α} {k : κ} {a : α} (member : (k,a) ∈ m.entries) : m.get? k = some a := by
  unfold get?
  rw [find_keyed Prod.fst m.distinct member]
  rfl

/-- Where each value is stored under a key of its own, the values find themselves. -/
theorem get?_key {m : InsertionMap κ α} {key : α → κ} (own : ∀ entry ∈ m.entries, entry.1 = key entry.2) {a : α}
    (member : a ∈ m.values) : m.get? (key a) = some a := by
  obtain ⟨⟨k,_⟩,inside,rfl⟩ := List.mem_map.mp member
  have same : k = key _ := own _ inside
  exact get?_of_mem (same ▸ inside)

theorem get?_eq_some {m : InsertionMap κ α} {k : κ} {a : α} : m.get? k = some a ↔ (k,a) ∈ m.entries := by
  refine ⟨?_,get?_of_mem⟩
  unfold get?
  rw [Option.map_eq_some_iff]
  rintro ⟨⟨other,_⟩,found,rfl⟩
  have same : other = k := by simpa using List.find?_some found
  exact same ▸ List.mem_of_find?_eq_some found

theorem get?_eq_none {m : InsertionMap κ α} {k : κ} : m.get? k = none ↔ k ∉ m.keys := by
  unfold get? keys
  rw [Option.map_eq_none_iff,List.find?_eq_none]
  constructor
  · intro apart inside
    obtain ⟨entry,member,same⟩ := List.mem_map.mp inside
    exact absurd (decide_eq_true same) (apart entry member)
  · intro absent entry member same
    exact absent (List.mem_map.mpr ⟨entry,member,of_decide_eq_true same⟩)

theorem get?_set (m : InsertionMap κ α) (k other : κ) (a : α) :
    (m.set k a).get? other = if other = k then some a else m.get? other := by
  by_cases known : k ∈ m.keys
  · have search : (m.set k a).get? other =
        ((m.entries.find? (fun entry => entry.1 = other)).map (replaced k a)).map Prod.snd := by
      have read : (fun entry : κ × α => decide (entry.1 = other)) ∘ replaced k a =
          fun entry => decide (entry.1 = other) :=
        funext (fun entry => by rw [Function.comp_apply,replaced_key])
      unfold get? set
      rw [dif_pos known]
      show ((m.entries.map (replaced k a)).find? _).map _ = _
      rw [List.find?_map,read]
    rw [search]
    by_cases same : other = k
    · subst same
      obtain ⟨entry,inside,rfl⟩ := List.mem_map.mp known
      rw [if_pos rfl,find_keyed Prod.fst m.distinct inside]
      simp [replaced]
    · rw [if_neg same]
      unfold get?
      cases found : m.entries.find? (fun entry => entry.1 = other) with
      | none => rfl
      | some entry =>
        have key : entry.1 = other := by simpa using List.find?_some found
        simp [replaced,key,same]
  · have fresh := get?_eq_none.mpr known
    unfold get? at fresh ⊢
    rw [entries_set_fresh known,List.find?_append]
    by_cases same : other = k
    · subst same
      have none_before : m.entries.find? (fun entry => entry.1 = other) = none := by simpa using fresh
      simp [none_before]
    · have other_key : ([(k,a)] : List (κ × α)).find? (fun entry => entry.1 = other) = none := by
        simp [Ne.symm same]
      rw [other_key,Option.or_none,if_neg same]

/-! ### Lists gathered under keys -/

section
variable {β : Type}

/-- One more element under its key. -/
def gather (m : InsertionMap κ (List β)) (item : κ × β) : InsertionMap κ (List β) :=
  m.set item.1 ((m.get? item.1).getD [] ++ [item.2])

theorem get?_gathered (items : List (κ × β)) (m : InsertionMap κ (List β)) (k : κ) :
    ((items.foldl gather m).get? k).getD [] =
      (m.get? k).getD [] ++ (items.filter (fun item => item.1 = k)).map Prod.snd := by
  induction items generalizing m with
  | nil => simp
  | cons item items ih =>
    rw [List.foldl_cons,ih]
    unfold gather
    rw [get?_set]
    by_cases same : item.1 = k
    · subst same
      rw [if_pos rfl,List.filter_cons_of_pos (by simp),List.map_cons,Option.getD_some,List.append_assoc]
      rfl
    · rw [if_neg (Ne.symm same),List.filter_cons_of_neg (by simpa using same)]

theorem keys_gathered {items : List (κ × β)} {m : InsertionMap κ (List β)} {k : κ} :
    k ∈ (items.foldl gather m).keys ↔ k ∈ m.keys ∨ k ∈ items.map Prod.fst := by
  induction items generalizing m with
  | nil => simp
  | cons item items ih =>
    rw [List.foldl_cons,ih]
    unfold gather
    rw [keys_set,List.map_cons,List.mem_cons,or_assoc]

/-- Gathered from nothing, a key has its elements in their order, if it has any. -/
theorem get?_gather {items : List (κ × β)} {k : κ} {group : List β} :
    (items.foldl gather empty).get? k = some group ↔
      (items.filter (fun item => item.1 = k)).map Prod.snd = group ∧ group ≠ [] := by
  have gathered : ((items.foldl gather empty).get? k).getD [] =
      (items.filter (fun item => item.1 = k)).map Prod.snd := get?_gathered items empty k
  have filled : k ∈ (items.foldl gather (empty : InsertionMap κ (List β))).keys ↔
      (items.filter (fun item => item.1 = k)).map Prod.snd ≠ [] := by
    rw [keys_gathered,ne_eq,List.map_eq_nil_iff,List.filter_eq_nil_iff]
    simp [empty,keys]
  cases found : (items.foldl gather (empty : InsertionMap κ (List β))).get? k with
  | none =>
    rw [get?_eq_none,filled,not_not] at found
    rw [found]
    simp [eq_comm]
  | some other =>
    rw [found,Option.getD_some] at gathered
    have known : k ∈ (items.foldl gather (empty : InsertionMap κ (List β))).keys := by
      by_contra absent
      rw [get?_eq_none.mpr absent] at found
      cases found
    rw [filled,← gathered] at known
    rw [← gathered,Option.some.injEq]
    exact ⟨fun same => ⟨same,same ▸ known⟩,And.left⟩

end

end InsertionMap
end V3Aidlc.InsertionMaps
