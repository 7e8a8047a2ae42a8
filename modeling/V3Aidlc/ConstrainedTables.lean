import V3Aidlc.Loops
import Mathlib.Data.List.Nodup

/-!
Tables with a unique key and a reference to a parent, and the insertion that skips a row it
cannot store. A row without one of its columns or with a taken key is skipped in silence, and
only a row whose parent is missing is an error, so a return does not say that the row is there
(`skipped_silently`). Where the key is free or held by a row of the same content it does
(`proper_insertion`).
-/
namespace V3Aidlc.ConstrainedTables
open V3Aidlc.Loops
variable {ρ κ π γ ε : Type}

/-- Rows whose keys, where they have one, are distinct, and whose parents are known. -/
structure Table (key : ρ → Option κ) (parent : ρ → π) (parents : List π) where
  rows : List ρ
  distinct : (rows.filterMap key).Nodup
  referred : ∀ row ∈ rows, parent row ∈ parents

namespace Table
variable {key : ρ → Option κ} {parent : ρ → π} {parents : List π}

/-- A row has the key. -/
def Taken (table : Table key parent parents) (row : ρ) : Prop := ∃ k, key row = some k ∧ k ∈ table.rows.filterMap key

instance [DecidableEq κ] (table : Table key parent parents) (row : ρ) : Decidable (table.Taken row) :=
  match found : key row with
  | none => isFalse (by rintro ⟨k,known,_⟩; rw [found] at known; cases known)
  | some k => decidable_of_iff (k ∈ table.rows.filterMap key)
      ⟨fun member => ⟨k,found,member⟩,by rintro ⟨k,known,member⟩; rw [found] at known; cases known; exact member⟩

theorem distinct_snoc {table : Table key parent parents} {row : ρ} (free : ¬ table.Taken row) :
    ((table.rows ++ [row]).filterMap key).Nodup := by
  rw [List.filterMap_append,List.nodup_append]
  refine ⟨table.distinct,?_,?_⟩
  · cases keyed : key row <;> simp [keyed]
  · intro k inside other last same
    obtain ⟨here,member,keyed⟩ := List.mem_filterMap.mp last
    rw [List.mem_singleton] at member
    exact free ⟨k,by rw [← member,keyed,same],inside⟩

def push (table : Table key parent parents) (row : ρ) (free : ¬ table.Taken row) (known : parent row ∈ parents) :
    Table key parent parents where
  rows := table.rows ++ [row]
  distinct := distinct_snoc free
  referred := by
    intro other member
    rcases List.mem_append.mp member with early | last
    · exact table.referred other early
    · rw [List.mem_singleton.mp last]
      exact known

/-- `INSERT OR IGNORE`. A row of which a required column is missing is no row. -/
def insertOrIgnore [DecidableEq κ] [DecidableEq π] (refused : ε) (table : Table key parent parents) :
    Option ρ → Except ε (Table key parent parents)
  | none => .ok table
  | some row =>
    if taken : table.Taken row then .ok table
    else if known : parent row ∈ parents then .ok (table.push row taken known)
    else .error refused

/-- A stored row has the key and the content of the row that was given. -/
def Stored (content : ρ → γ) (table : Table key parent parents) (draft : Option ρ) : Prop :=
  ∃ row ∈ draft, ∃ stored ∈ table.rows, key stored = key row ∧ content stored = content row

/-- The row that was given has a key, and a stored row has it too with another content. -/
def Clashes (content : ρ → γ) (table : Table key parent parents) (draft : Option ρ) : Prop :=
  ∃ row ∈ draft, ∃ k, key row = some k ∧ ∃ stored ∈ table.rows, key stored = some k ∧ content stored ≠ content row

/-- A column is missing, or the parent is. -/
def Violates (parent : ρ → π) (parents : List π) (draft : Option ρ) : Prop := ∀ row ∈ draft, parent row ∉ parents

/-- Every column is there, and where there is a key the rows that have it have the same content. -/
def Proper (content : ρ → γ) (table : Table key parent parents) (draft : Option ρ) : Prop :=
  ∃ row ∈ draft, ∀ k, key row = some k → ∀ stored ∈ table.rows, key stored = some k → content stored = content row

/-- Rows with one key are one row. -/
theorem keyed_unique {key : ρ → Option κ} {rows : List ρ} (distinct : (rows.filterMap key).Nodup)
    {row other : ρ} {k : κ} (member : row ∈ rows) (inside : other ∈ rows) (keyed : key row = some k)
    (keyed' : key other = some k) : row = other := by
  induction rows with
  | nil => cases member
  | cons first rest ih =>
    have later : (rest.filterMap key).Nodup := distinct.sublist ((List.sublist_cons_self first rest).filterMap key)
    have apart : ∀ next ∈ rest, key first = some k → key next ≠ some k := by
      intro next here named also
      rw [List.filterMap_cons_some named] at distinct
      exact (List.nodup_cons.mp distinct).1 (List.mem_filterMap.mpr ⟨next,here,also⟩)
    rcases List.mem_cons.mp member with rfl | early
    · rcases List.mem_cons.mp inside with rfl | late
      · rfl
      · exact absurd keyed' (apart other late keyed)
    · rcases List.mem_cons.mp inside with rfl | late
      · exact absurd keyed (apart row early keyed')
      · exact ih later early late

theorem stored_mono {others : List π} {table : Table key parent parents} {later : Table key parent others}
    {draft : Option ρ} {content : ρ → γ} (kept : table.rows <+: later.rows)
    (stored : table.Stored content draft) : later.Stored content draft := by
  obtain ⟨row,given,other,member,same⟩ := stored
  exact ⟨row,given,other,kept.subset member,same⟩

section
variable [DecidableEq κ] [DecidableEq π]
variable {refused : ε} {table after : Table key parent parents} {row : ρ} {draft : Option ρ} {content : ρ → γ}

theorem insert_taken (taken : table.Taken row) : insertOrIgnore refused table (some row) = .ok table :=
  dif_pos taken

theorem insert_free (free : ¬ table.Taken row) (known : parent row ∈ parents) :
    insertOrIgnore refused table (some row) = .ok (table.push row free known) :=
  (dif_neg free).trans (dif_pos known)

theorem insert_orphan (free : ¬ table.Taken row) (orphan : parent row ∉ parents) :
    insertOrIgnore refused table (some row) = .error refused :=
  (dif_neg free).trans (dif_neg orphan)

/-- No row is lost or changed. -/
theorem insert_keeps (ran : insertOrIgnore refused table draft = .ok after) : table.rows <+: after.rows := by
  cases draft with
  | none =>
    obtain rfl := Except.ok.inj ran
    exact List.prefix_refl _
  | some row =>
    by_cases taken : table.Taken row
    · rw [insert_taken taken] at ran
      obtain rfl := Except.ok.inj ran
      exact List.prefix_refl _
    · by_cases known : parent row ∈ parents
      · rw [insert_free taken known] at ran
        rw [← Except.ok.inj ran]
        exact List.prefix_append _ _
      · rw [insert_orphan taken known] at ran
        cases ran

/-- An insertion that meets the condition stores the row or raises, and it raises where the parent
    is missing. -/
theorem proper_insertion (refused : ε) (whole : ∀ row other, content row = content other → parent row = parent other)
    (proper : table.Proper content draft) :
    (∀ after, insertOrIgnore refused table draft = .ok after → after.Stored content draft) ∧
      (Violates parent parents draft → insertOrIgnore refused table draft = .error refused) ∧
        ¬ table.Clashes content draft := by
  obtain ⟨row,given,agree⟩ := proper
  obtain rfl : draft = some row := given
  have held : table.Taken row → ∃ stored ∈ table.rows, key stored = key row ∧ content stored = content row := by
    rintro ⟨k,keyed,inside⟩
    obtain ⟨stored,member,same⟩ := List.mem_filterMap.mp inside
    exact ⟨stored,member,same.trans keyed.symm,agree k keyed stored member same⟩
  refine ⟨?_,?_,?_⟩
  · intro after ran
    by_cases taken : table.Taken row
    · rw [insert_taken taken] at ran
      rw [← Except.ok.inj ran]
      exact ⟨row,rfl,held taken⟩
    · by_cases known : parent row ∈ parents
      · rw [insert_free taken known] at ran
        rw [← Except.ok.inj ran]
        exact ⟨row,rfl,row,List.mem_append_right _ (List.mem_singleton.mpr rfl),rfl,rfl⟩
      · rw [insert_orphan taken known] at ran
        cases ran
  · intro violates
    have orphan : parent row ∉ parents := violates row rfl
    refine insert_orphan (fun taken => ?_) orphan
    obtain ⟨stored,member,_,same⟩ := held taken
    exact orphan (whole stored row same ▸ table.referred stored member)
  · rintro ⟨_,same,k,keyed,stored,member,held,other⟩
    cases same
    exact other (agree k keyed stored member held)

/-- A row that does not meet the condition is skipped: the insertion returns and the row is not
    there. -/
theorem skipped_silently (refused : ε) (improper : ¬ table.Proper content draft) :
    insertOrIgnore refused table draft = .ok table ∧ ¬ table.Stored content draft := by
  cases draft with
  | none => exact ⟨rfl,fun ⟨_,given,_⟩ => (by cases given)⟩
  | some row =>
    have clash : ∃ k, key row = some k ∧ ∃ stored ∈ table.rows, key stored = some k ∧
        content stored ≠ content row := by
      by_contra agree
      push Not at agree
      exact improper ⟨row,rfl,agree⟩
    obtain ⟨k,isKey,stored,member,same,other⟩ := clash
    refine ⟨insert_taken ⟨k,isKey,List.mem_filterMap.mpr ⟨stored,member,same⟩⟩,?_⟩
    rintro ⟨_,given,equal,inside,alike,agrees⟩
    cases given
    obtain rfl := keyed_unique table.distinct member inside same (alike.trans isKey)
    exact other agrees

end

end Table

end V3Aidlc.ConstrainedTables
