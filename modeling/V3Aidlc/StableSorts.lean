import Mathlib.Data.List.Basic
import Mathlib.Order.Lattice

/-!
Stable sorts by a comparison that is total and transitive: equal elements keep their order, so
what is left out of a list does not show in the order of the rest (`filter_mergeSort`). A comparison
by a merit, and among equals by something else, is of this kind (`ranked_total`, `ranked_trans`).
-/
namespace V3Aidlc.StableSorts
variable {α : Type} {le : α → α → Bool}

/-- A list that has the elements of `q` last is cut in one way. -/
theorem cut_unique {q : α → Bool} {front back front' back' : List α} (same : front ++ back = front' ++ back')
    (first : ∀ a ∈ front, q a = false) (last : ∀ a ∈ back, q a = true) (first' : ∀ a ∈ front', q a = false)
    (last' : ∀ a ∈ back', q a = true) : front = front' ∧ back = back' := by
  have cut : ∀ {xs ys : List α}, (∀ a ∈ xs, q a = false) → (∀ a ∈ ys, q a = true) →
      (xs ++ ys).filter q = ys ∧ (xs ++ ys).filter (fun a => !q a) = xs := by
    intro xs ys before after
    rw [List.filter_append,List.filter_append]
    have none : xs.filter q = [] := List.filter_eq_nil_iff.mpr (fun a member => by simp [before a member])
    have whole : ys.filter q = ys := List.filter_eq_self.mpr after
    have all : xs.filter (fun a => !q a) = xs := List.filter_eq_self.mpr (fun a member => by simp [before a member])
    have rest : ys.filter (fun a => !q a) = [] := List.filter_eq_nil_iff.mpr (fun a member => by simp [after a member])
    rw [none,whole,all,rest]
    simp
  obtain ⟨backs,fronts⟩ := cut first last
  obtain ⟨backs',fronts'⟩ := cut first' last'
  exact ⟨fronts.symm.trans ((congrArg _ same).trans fronts'),backs.symm.trans ((congrArg _ same).trans backs')⟩

/-- Sorting and leaving elements out commute. -/
theorem filter_mergeSort (trans : ∀ a b c, le a b = true → le b c = true → le a c = true)
    (total : ∀ a b, (le a b || le b a) = true) (p : α → Bool) (items : List α) :
    (items.mergeSort le).filter p = (items.filter p).mergeSort le := by
  induction items with
  | nil => simp
  | cons a items ih =>
    obtain ⟨front,back,sorted,before,apart⟩ := List.mergeSort_cons trans total a items
    rw [sorted,List.filter_append]
    rw [before,List.filter_append] at ih
    cases wanted : p a with
    | false =>
      rw [List.filter_cons_of_neg (by simp [wanted]),List.filter_cons_of_neg (by simp [wanted])]
      exact ih
    | true =>
      rw [List.filter_cons_of_pos wanted,List.filter_cons_of_pos wanted]
      obtain ⟨front',back',sorted',before',apart'⟩ := List.mergeSort_cons trans total a (items.filter p)
      have after : ∀ {xs ys zs : List α}, zs.mergeSort le = xs ++ a :: ys → ∀ b ∈ ys, le a b = true := by
        intro xs ys zs split b member
        have pairwise := List.pairwise_mergeSort trans total zs
        rw [split] at pairwise
        exact (List.pairwise_cons.mp (List.pairwise_append.mp pairwise).2.1).1 b member
      rw [sorted']
      obtain ⟨rfl,rfl⟩ := cut_unique (q := le a) (ih.trans before')
        (fun b member => by simpa using apart b (List.mem_filter.mp member).1)
        (fun b member => after sorted b (List.mem_filter.mp member).1)
        (fun b member => by simpa using apart' b member) (after sorted')
      rfl

/-! ### Merits -/

section
variable {β : Type} [LinearOrder β] (merit : α → β) {tie : α → α → Prop}

theorem ranked_total (total : ∀ a b, tie a b ∨ tie b a) (a b : α) :
    (merit a < merit b ∨ merit a = merit b ∧ tie a b) ∨ (merit b < merit a ∨ merit b = merit a ∧ tie b a) := by
  rcases lt_trichotomy (merit a) (merit b) with less | same | more
  · exact .inl (.inl less)
  · exact (total a b).imp (fun first => .inr ⟨same,first⟩) (fun second => .inr ⟨same.symm,second⟩)
  · exact .inr (.inl more)

theorem ranked_trans (trans : ∀ a b c, tie a b → tie b c → tie a c) {a b c : α}
    (first : merit a < merit b ∨ merit a = merit b ∧ tie a b)
    (second : merit b < merit c ∨ merit b = merit c ∧ tie b c) :
    merit a < merit c ∨ merit a = merit c ∧ tie a c := by
  rcases first with less | ⟨same,ties⟩
  · rcases second with less' | ⟨same',_⟩
    · exact .inl (less.trans less')
    · exact .inl (same' ▸ less)
  · rcases second with less' | ⟨same',ties'⟩
    · exact .inl (same ▸ less')
    · exact .inr ⟨same.trans same',trans a b c ties ties'⟩

end

end V3Aidlc.StableSorts
