import Mathlib.Data.List.Perm.Basic
import Mathlib.Data.List.Sort

/-!
The first match of a search in a list, and what another order of the list makes of it. Any
match can be made the first one, and an order by a key makes it the least (`least_first`).
Labels are told from texts that start with them as long as what follows the label has no
separator (`label_prefix_iff`).
-/
namespace V3Aidlc.FirstMatches
variable {α γ : Type}

/-! ### Orders -/

theorem perm_first {items : List α} {a : α} (member : a ∈ items) : ∃ rest, items.Perm (a :: rest) := by
  obtain ⟨front,back,rfl⟩ := List.append_of_mem member
  exact ⟨front ++ back,List.perm_middle⟩

/-- Two elements can be put first, in this order. -/
theorem perm_pair {items : List α} {a b : α} (member : a ∈ items) (other : b ∈ items) (apart : a ≠ b) :
    ∃ rest, items.Perm (a :: b :: rest) := by
  obtain ⟨rest,moved⟩ := perm_first member
  have later : b ∈ rest := by
    rcases List.mem_cons.mp (moved.mem_iff.mp other) with same | later
    · exact absurd same.symm apart
    · exact later
  obtain ⟨remaining,again⟩ := perm_first later
  exact ⟨remaining,moved.trans (again.cons a)⟩

/-- In an ascending list the first match has the least key of the matches. -/
theorem find_least {key : α → Nat} {p : α → Bool} {order : List α}
    (ascending : order.Pairwise (fun a b => key a ≤ key b)) {a b : α} (found : order.find? p = some a)
    (member : b ∈ order) (holds : p b = true) : key a ≤ key b := by
  obtain ⟨_,front,back,rfl,none⟩ := List.find?_eq_some_iff_append.mp found
  have rest := (List.pairwise_append.mp ascending).2.1
  rcases List.mem_append.mp member with early | late
  · have := none b early
    simp [holds] at this
  · rcases List.mem_cons.mp late with rfl | later
    · exact le_refl _
    · exact (List.pairwise_cons.mp rest).1 b later

/-- Some order of the list puts the least match of every search first. -/
theorem least_first (key : α → Nat) (items : List α) :
    ∃ order, items.Perm order ∧ ∀ p a, order.find? p = some a → ∀ b ∈ items, p b = true → key a ≤ key b := by
  let before : α → α → Prop := fun a b => key a ≤ key b
  have total : Std.Total before := ⟨fun a b => le_total (key a) (key b)⟩
  have transitive : IsTrans α before := ⟨fun _ _ _ first second => le_trans first second⟩
  refine ⟨items.insertionSort before,(List.perm_insertionSort before items).symm,?_⟩
  intro p a found b member holds
  have ascending := List.pairwise_insertionSort before items
  exact find_least ascending found ((List.perm_insertionSort before items).mem_iff.mpr member) holds

/-! ### Labels -/

/-- A text is a label, two separators and a value without the first of them. A label with its
    separators starts the text exactly when it is this label or starts it. -/
theorem label_prefix_iff {x y : γ} (differ : x ≠ y) {label other value : List γ} (plain : x ∉ value) :
    label ++ [x,y] <+: other ++ [x,y] ++ value ↔ label = other ∨ label ++ [x,y] <+: other := by
  constructor
  · rintro ⟨tail,same⟩
    rw [List.append_assoc,List.append_assoc,List.append_eq_append_iff] at same
    rcases same with ⟨rest,rfl,same⟩ | ⟨rest,rfl,same⟩
    · match rest with
      | [] => exact .inl (by simp)
      | [c] =>
        simp only [List.cons_append,List.nil_append,List.cons.injEq] at same
        exact absurd same.2.1.symm differ
      | c :: d :: rest =>
        simp only [List.cons_append,List.nil_append,List.cons.injEq] at same
        obtain ⟨rfl,rfl,_⟩ := same
        exact .inr ⟨rest,by simp⟩
    · match rest with
      | [] => exact .inl (by simp)
      | c :: rest =>
        simp only [List.cons_append,List.nil_append,List.cons.injEq] at same
        have inside : x ∈ y :: value := by
          rw [same.2]
          simp
        rcases List.mem_cons.mp inside with equal | member
        · exact absurd equal differ
        · exact absurd member plain
  · rintro (rfl | ⟨rest,rfl⟩)
    · exact List.prefix_append _ _
    · exact ⟨rest ++ [x,y] ++ value,by simp⟩

/-- A label and a value without the separator are told from the text. -/
theorem labelled_injective {x y : γ} (differ : x ≠ y) {label other value value' : List γ} (plain : x ∉ value)
    (plain' : x ∉ value') (same : label ++ [x,y] ++ value = other ++ [x,y] ++ value') :
    label = other ∧ value = value' := by
  have first : label ++ [x,y] <+: other ++ [x,y] ++ value' := ⟨value,same⟩
  rcases (label_prefix_iff differ plain').mp first with rfl | ⟨rest,rfl⟩
  · exact ⟨rfl,List.append_cancel_left same⟩
  · have tails : value = rest ++ [x,y] ++ value' := (List.append_right_inj (label ++ [x,y])).mp (by simpa using same)
    exact absurd (by simp [tails]) plain

end V3Aidlc.FirstMatches
