import V3Aidlc.Canonical
import V3Aidlc.InsertionMaps

/-!
JavaScript objects used as tables: own properties under free names, before a prototype on which a
read falls back and whose setters take a write. Only names that are own properties or that the
prototype does not have behave as the keys of a map (`get?_updates`).
-/
namespace V3Aidlc.PlainObjects
open V3Aidlc.InsertionMaps V3Aidlc.InsertionMaps.InsertionMap V3Aidlc.Canonical V3Aidlc.Groups
variable {α : Type}

/-- The names that an object inherits, and those of them that have a setter. A setter here ignores
    every value that is no object. -/
structure Prototype where
  names : List String
  setters : List String
  known : setters ⊆ names

/-- What a read of a property gives. -/
inductive Property (α : Type) where
  | undefined
  | inherited
  | own (value : α)

def property (proto : Prototype) (o : InsertionMap String α) (name : String) : Property α :=
  match o.get? name with
  | some value => .own value
  | none => if name ∈ proto.names then .inherited else .undefined

/-- `o[name] = value` for a value that is no object. -/
def assign (proto : Prototype) (o : InsertionMap String α) (name : String) (value : α) : InsertionMap String α :=
  if name ∉ o.keys ∧ name ∈ proto.setters then o else o.set name value

/-- The number of a name that is an array index. -/
def array_index (name : String) : Option Nat :=
  name.toNat?.bind (fun index => if toString index = name ∧ index < 2 ^ 32 - 1 then some index else none)

/-- `Object.entries`: array indices in ascending order, then the other names as they were made. -/
def own_entries (o : InsertionMap String α) : List (String × α) :=
  sortedBy (fun entry => (array_index entry.1).getD 0) (o.entries.filter (fun entry => (array_index entry.1).isSome)) ++
    o.entries.filter (fun entry => !(array_index entry.1).isSome)

theorem perm_own_entries (o : InsertionMap String α) : (own_entries o).Perm o.entries :=
  ((perm_sortedBy _ _).append_right _).trans (List.filter_append_perm _ o.entries)

theorem own_entries_distinct (o : InsertionMap String α) : ((own_entries o).map Prod.fst).Nodup :=
  ((perm_own_entries o).map Prod.fst).nodup_iff.mpr o.distinct

/-- `{ ...o }`. -/
def spread (o : InsertionMap String α) : InsertionMap String α := ⟨own_entries o,own_entries_distinct o⟩

theorem get?_spread (o : InsertionMap String α) (name : String) : (spread o).get? name = o.get? name := by
  refine Option.ext (fun value => ?_)
  rw [get?_eq_some,get?_eq_some]
  exact (perm_own_entries o).mem_iff

theorem keys_spread (o : InsertionMap String α) (name : String) : name ∈ (spread o).keys ↔ name ∈ o.keys :=
  ((perm_own_entries o).map Prod.fst).mem_iff

theorem get?_assign (proto : Prototype) (o : InsertionMap String α) (name other : String) (value : α) :
    (assign proto o name value).get? other =
      if other = name then (if name ∉ o.keys ∧ name ∈ proto.setters then none else some value) else o.get? other := by
  unfold assign
  split
  · rename_i swallowed
    by_cases same : other = name
    · rw [if_pos same,same]
      exact get?_eq_none.mpr swallowed.1
    · rw [if_neg same]
  · exact get?_set o name other value

section
variable (proto : Prototype) (revise : Property α → α → α)

/-- A write of what the property read before and a new value make. -/
def update (o : InsertionMap String α) (entry : String × α) : InsertionMap String α :=
  assign proto o entry.1 (revise (property proto o entry.1) entry.2)

theorem get?_update_other (o : InsertionMap String α) {entry : String × α} {name : String} (apart : name ≠ entry.1) :
    (update proto revise o entry).get? name = o.get? name := by
  unfold update
  rw [get?_assign,if_neg apart]

theorem get?_updates_other {name : String} {entries : List (String × α)} (absent : name ∉ entries.map Prod.fst)
    (o : InsertionMap String α) : (entries.foldl (update proto revise) o).get? name = o.get? name := by
  induction entries generalizing o with
  | nil => rfl
  | cons entry entries ih =>
    rw [List.map_cons,List.mem_cons,not_or] at absent
    rw [List.foldl_cons,ih absent.2,get?_update_other proto revise o absent.1]

/-- One update for each of some distinct names: each name has what its own update makes of its
    property before them all, unless a setter takes the write. -/
theorem get?_updates {name : String} {value : α} {entries : List (String × α)} (distinct : (entries.map Prod.fst).Nodup)
    (member : (name,value) ∈ entries) (o : InsertionMap String α) :
    (entries.foldl (update proto revise) o).get? name =
      if name ∉ o.keys ∧ name ∈ proto.setters then none else some (revise (property proto o name) value) := by
  induction entries generalizing o with
  | nil => cases member
  | cons entry entries ih =>
    rw [List.map_cons,List.nodup_cons] at distinct
    rw [List.foldl_cons]
    rcases List.mem_cons.mp member with rfl | later
    · rw [get?_updates_other proto revise distinct.1]
      unfold update
      rw [get?_assign,if_pos rfl]
    · have apart : name ≠ entry.1 := fun same => distinct.1 (same ▸ List.mem_map_of_mem (f := Prod.fst) later)
      have unchanged := get?_update_other proto revise o apart
      have keys : name ∈ (update proto revise o entry).keys ↔ name ∈ o.keys := by
        rw [← not_iff_not,← get?_eq_none,← get?_eq_none,unchanged]
      have reads : property proto (update proto revise o entry) name = property proto o name := by
        unfold property
        rw [unchanged]
      rw [ih distinct.2 later,reads]
      simp only [keys]

/-- No name is made but those that are written. -/
theorem keys_updates {name : String} {entries : List (String × α)} {o : InsertionMap String α}
    (member : name ∈ (entries.foldl (update proto revise) o).keys) : name ∈ o.keys ∨ name ∈ entries.map Prod.fst := by
  by_contra neither
  rw [not_or] at neither
  have absent := get?_updates_other proto revise neither.2 o
  rw [get?_eq_none.mpr neither.1] at absent
  exact get?_eq_none.mp absent member

end

end V3Aidlc.PlainObjects
