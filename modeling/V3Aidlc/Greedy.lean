import Mathlib.Data.List.Basic
import Mathlib.Data.List.Induction
import Mathlib.Data.List.Nodup

/-!
Greedy selection. The items of a list are visited once, in order, and an item is
chosen when the items chosen before it allow it. Which items are chosen is
decided at their turn (`mem_select_iff`); where more choices only make it harder
to be chosen, the result cannot be extended (`select_maximal`).
-/
namespace V3Aidlc.Greedy

section
variable {α : Type} (ok : List α → α → Bool)

/-- The chosen items after one more item. -/
def visit (chosen : List α) (a : α) : List α := if ok chosen a then chosen ++ [a] else chosen

/-- The items that are chosen from a list. -/
def select (items : List α) : List α := items.foldl (visit ok) []

/-- Each item with the items that were chosen before it. -/
def trailFrom (chosen : List α) : List α → List (List α × α)
  | [] => []
  | a :: rest => (chosen,a) :: trailFrom (visit ok chosen a) rest

def trail (items : List α) : List (List α × α) := trailFrom ok [] items

variable {ok}

theorem select_snoc (items : List α) (a : α) : select ok (items ++ [a]) = visit ok (select ok items) a := by
  simp [select]

theorem trailFrom_snoc (chosen items : List α) (a : α) :
    trailFrom ok chosen (items ++ [a]) = trailFrom ok chosen items ++ [(items.foldl (visit ok) chosen,a)] := by
  induction items generalizing chosen with
  | nil => rfl
  | cons b rest ih => simp [trailFrom,ih]

theorem trail_snoc (items : List α) (a : α) : trail ok (items ++ [a]) = trail ok items ++ [(select ok items,a)] :=
  trailFrom_snoc [] items a

theorem trail_items (items : List α) : (trail ok items).map Prod.snd = items := by
  induction items using List.reverseRecOn with
  | nil => rfl
  | append_singleton items a ih => simp [trail_snoc,ih]

theorem visit_extends (chosen : List α) (a : α) : chosen <+: visit ok chosen a := by
  unfold visit
  split
  · exact List.prefix_append _ _
  · exact List.prefix_refl _

theorem select_append (before after : List α) : select ok before <+: select ok (before ++ after) := by
  induction after using List.reverseRecOn with
  | nil => simp
  | append_singleton after a ih =>
    rw [← List.append_assoc,select_snoc]
    exact ih.trans (visit_extends _ a)

theorem select_sublist (items : List α) : (select ok items).Sublist items := by
  induction items using List.reverseRecOn with
  | nil => exact List.Sublist.refl _
  | append_singleton items a ih =>
    rw [select_snoc]
    unfold visit
    split
    · exact ih.append (List.Sublist.refl _)
    · exact ih.trans (List.sublist_append_left _ _)

theorem select_eq_filter (items : List α) :
    select ok items = ((trail ok items).filter (fun entry => ok entry.1 entry.2)).map Prod.snd := by
  induction items using List.reverseRecOn with
  | nil => rfl
  | append_singleton items a ih =>
    rw [select_snoc,trail_snoc,List.filter_append,List.map_append,← ih]
    unfold visit
    by_cases allowed : ok (select ok items) a = true <;> simp [allowed]

/-- An item is visited with what was selected from the items before it. -/
theorem mem_trail_iff {items chosen : List α} {a : α} :
    (chosen,a) ∈ trail ok items ↔ ∃ before after, items = before ++ a :: after ∧ chosen = select ok before := by
  induction items using List.reverseRecOn with
  | nil => simp [trail,trailFrom]
  | append_singleton items last ih =>
    rw [trail_snoc,List.mem_append,ih,List.mem_singleton,Prod.mk.injEq]
    constructor
    · rintro (⟨before,after,rfl,chosenIs⟩ | ⟨chosenIs,rfl⟩)
      · exact ⟨before,after ++ [last],by simp,chosenIs⟩
      · exact ⟨items,[],rfl,chosenIs⟩
    · rintro ⟨before,after,split,chosenIs⟩
      rcases List.eq_nil_or_concat after with rfl | ⟨rest,other,rfl⟩
      · obtain ⟨rfl,same⟩ := List.append_inj' split rfl
        cases same
        exact .inr ⟨chosenIs,rfl⟩
      · have parts : items ++ [last] = (before ++ a :: rest) ++ [other] := by simp [split]
        obtain ⟨rfl,_⟩ := List.append_inj' parts rfl
        exact .inl ⟨before,rest,rfl,chosenIs⟩

/-- Among distinct items, an item is chosen when it is allowed at its turn. -/
theorem mem_select_iff {before after : List α} {a : α} (distinct : (before ++ a :: after).Nodup) :
    a ∈ select ok (before ++ a :: after) ↔ ok (select ok before) a = true := by
  have absent : a ∉ before := fun member => (List.nodup_append'.mp distinct).2.2 member (by simp)
  rw [select_eq_filter]
  constructor
  · intro member
    obtain ⟨⟨chosen,b⟩,kept,rfl⟩ := List.mem_map.mp member
    obtain ⟨visited,allowed⟩ := List.mem_filter.mp kept
    obtain ⟨front,back,split,rfl⟩ := mem_trail_iff.mp visited
    have here : before = front := by
      rcases List.append_eq_append_iff.mp split with ⟨more,frontIs,_⟩ | ⟨more,beforeIs,tail⟩
      · cases more with
        | nil => simpa using frontIs.symm
        | cons c more =>
          rename_i tail
          rw [List.cons_append] at tail
          obtain ⟨rfl,tail⟩ := List.cons.inj tail
          have twice := distinct
          rw [tail] at twice
          exact absurd twice (by simp [List.nodup_append])
      · cases more with
        | nil => simpa using beforeIs
        | cons c more =>
          rw [List.cons_append] at tail
          obtain ⟨rfl,_⟩ := List.cons.inj tail
          exact absurd (by simp [beforeIs]) absent
    rw [here]
    exact allowed
  · intro allowed
    refine List.mem_map.mpr ⟨(select ok before,a),List.mem_filter.mpr
      ⟨mem_trail_iff.mpr ⟨before,after,rfl,rfl⟩,allowed⟩,rfl⟩

/-- Every item is chosen when each is allowed after all before it. -/
theorem select_all_iff {items : List α} : select ok items = items ↔
    ∀ before a after, items = before ++ a :: after → ok (select ok before) a = true := by
  induction items using List.reverseRecOn with
  | nil => simp [select]
  | append_singleton items last ih =>
    rw [select_snoc]
    constructor
    · intro all before a after split
      by_cases allowed : ok (select ok items) last = true
      · unfold visit at all
        rw [if_pos allowed] at all
        rcases List.eq_nil_or_concat after with rfl | ⟨rest,other,rfl⟩
        · obtain ⟨rfl,same⟩ := List.append_inj' split rfl
          cases same
          exact allowed
        · have parts : items ++ [last] = (before ++ a :: rest) ++ [other] := by simp [split]
          obtain ⟨front,_⟩ := List.append_inj' parts rfl
          exact ih.mp (List.append_cancel_right all) before a rest front
      · unfold visit at all
        rw [if_neg allowed] at all
        have shorter : (select ok items).length ≤ items.length := (select_sublist items).length_le
        rw [all,List.length_append,List.length_singleton] at shorter
        omega
    · intro each
      have before := ih.mpr (fun front a back split => each front a (back ++ [last]) (by simp [split]))
      have allowed := each items last [] rfl
      unfold visit
      rw [before] at allowed ⊢
      rw [if_pos allowed]

/-- The first items are all chosen when they are chosen by themselves. -/
theorem select_front_iff {front back : List α} (distinct : (front ++ back).Nodup) :
    (∀ a ∈ front, a ∈ select ok (front ++ back)) ↔ select ok front = front := by
  constructor
  · intro each
    refine select_all_iff.mpr (fun before a after split => ?_)
    have chosen := each a (by simp [split])
    rw [split,List.append_assoc,List.cons_append] at chosen distinct
    exact (mem_select_iff distinct).mp chosen
  · intro all a member
    refine (select_append front back).subset ?_
    rw [all]
    exact member

/-- Among distinct items, what is left out is what was refused at its turn. -/
theorem refused_iff {items : List α} (distinct : items.Nodup) {a : α} (member : a ∈ items) :
    (∃ chosen, (chosen,a) ∈ trail ok items ∧ ok chosen a = false) ↔ a ∉ select ok items := by
  obtain ⟨before,after,rfl⟩ := List.append_of_mem member
  rw [mem_select_iff distinct,Bool.not_eq_true]
  constructor
  · rintro ⟨chosen,visited,refused⟩
    by_contra allowed
    rw [Bool.not_eq_false] at allowed
    obtain ⟨front,back,split,rfl⟩ := mem_trail_iff.mp visited
    have turns : (before ++ a :: after).Nodup := distinct
    rw [split] at turns
    have taken : a ∈ select ok (before ++ a :: after) := (mem_select_iff distinct).mpr allowed
    rw [split,mem_select_iff turns,refused] at taken
    cases taken
  · intro refused
    exact ⟨_,mem_trail_iff.mpr ⟨before,after,rfl,rfl⟩,refused⟩

/-- What each choice requires of the earlier ones holds pairwise. -/
theorem select_pairwise {related : α → α → Prop} (requires : ∀ chosen a, ok chosen a = true → ∀ b ∈ chosen, related b a)
    (items : List α) : (select ok items).Pairwise related := by
  induction items using List.reverseRecOn with
  | nil => exact .nil
  | append_singleton items a ih =>
    rw [select_snoc]
    unfold visit
    split
    · rename_i allowed
      rw [List.pairwise_append]
      refine ⟨ih,List.pairwise_singleton _ _,?_⟩
      intro b earlier c here
      rw [List.mem_singleton.mp here]
      exact requires _ a allowed b earlier
    · exact ih

/-- More choices never make an item allowed: no item that was left out can be
    added to the result. -/
theorem select_maximal {items : List α}
    (narrows : ∀ chosen more a, more ⊆ items → ok (chosen ++ more) a = true → ok chosen a = true) {a : α}
      (member : a ∈ items) (left : a ∉ select ok items) : ok (select ok items) a = false := by
  by_contra allowed
  rw [Bool.not_eq_false] at allowed
  obtain ⟨before,after,rfl⟩ := List.append_of_mem member
  obtain ⟨more,grown⟩ : select ok before <+: select ok (before ++ a :: after) := select_append before (a :: after)
  have inside : more ⊆ before ++ a :: after := by
    intro b later
    refine (select_sublist (before ++ a :: after) : (select ok _).Sublist _).subset ?_
    rw [← grown]
    exact List.mem_append_right _ later
  rw [← grown] at allowed
  have turn := narrows _ _ _ inside allowed
  refine left ?_
  rw [select_eq_filter]
  exact List.mem_map.mpr ⟨(select ok before,a),List.mem_filter.mpr ⟨mem_trail_iff.mpr ⟨before,after,rfl,rfl⟩,turn⟩,rfl⟩

/-- Items outside `p` that are never allowed do not matter. -/
theorem select_within {p : α → Bool} {items : List α} (inside : ∀ a ∈ select ok items, p a = true) :
    select ok items = select ok (items.filter p) := by
  induction items using List.reverseRecOn with
  | nil => rfl
  | append_singleton items a ih =>
    have before : ∀ b ∈ select ok items, p b = true :=
      fun b member => inside b ((select_append items [a]).subset member)
    have same := ih before
    rw [select_snoc] at inside ⊢
    rw [List.filter_append]
    by_cases wanted : p a = true
    · have kept : [a].filter p = [a] := by simp [wanted]
      rw [kept,select_snoc,← same]
    · have dropped : [a].filter p = [] := by simp [wanted]
      rw [dropped,List.append_nil,← same]
      unfold visit at inside ⊢
      split
      · rename_i allowed
        rw [if_pos allowed] at inside
        exact absurd (inside a (by simp)) wanted
      · rfl

/-- Only items of `p` are chosen exactly when every other item is refused at its
    turn among the items of `p`. -/
theorem select_subset_iff {p : α → Bool} {items : List α} : (∀ a ∈ select ok items, p a = true) ↔
    ∀ before a after, items = before ++ a :: after → p a = false → ok (select ok (before.filter p)) a = false := by
  induction items using List.reverseRecOn with
  | nil => simp [select]
  | append_singleton items last ih =>
    constructor
    · intro inside before a after split outside
      have earlier : ∀ b ∈ select ok before, p b = true := by
        intro b member
        rw [split] at inside
        exact inside b ((select_append before (a :: after)).subset member)
      rw [← select_within earlier]
      by_contra allowed
      rw [Bool.not_eq_false] at allowed
      have taken : a ∈ select ok (items ++ [last]) := by
        rw [select_eq_filter]
        exact List.mem_map.mpr
          ⟨(select ok before,a),List.mem_filter.mpr ⟨mem_trail_iff.mpr ⟨before,after,split,rfl⟩,allowed⟩,rfl⟩
      rw [inside a taken] at outside
      cases outside
    · intro refused
      have before := ih.mpr (fun front a back split outside =>
        refused front a (back ++ [last]) (by simp [split]) outside)
      intro a member
      rw [select_snoc] at member
      unfold visit at member
      split at member
      · rename_i allowed
        rcases List.mem_append.mp member with earlier | here
        · exact before a earlier
        · rw [List.mem_singleton.mp here]
          by_contra outside
          have refusal := refused items last [] rfl (by simpa using outside)
          rw [← select_within before,allowed] at refusal
          cases refusal
      · exact before a member

end

section
variable {α : Type} {ok : List α → α → Bool} {β : Type} {other : List β → β → Bool} {related : α → β → Prop}
  {items : List α} {others : List β}

/-- Two runs over related items under conditions that agree visit related items
    with related choices. -/
theorem trail_related
    (agree : ∀ chosen picked a b, List.Forall₂ related chosen picked → related a b → ok chosen a = other picked b)
    (pairs : List.Forall₂ related items others) :
    List.Forall₂ (fun left right => List.Forall₂ related left.1 right.1 ∧ related left.2 right.2)
      (trail ok items) (trail other others) := by
  suffices general : ∀ chosen picked, List.Forall₂ related chosen picked →
      List.Forall₂ (fun left right => List.Forall₂ related left.1 right.1 ∧ related left.2 right.2)
        (trailFrom ok chosen items) (trailFrom other picked others) from general [] [] .nil
  induction pairs with
  | nil => exact fun _ _ _ => .nil
  | @cons a b _ _ pair _ ih =>
    intro chosen picked before
    refine .cons ⟨before,pair⟩ (ih _ _ ?_)
    unfold visit
    rw [agree chosen picked a b before pair]
    split
    · exact List.rel_append before (.cons pair .nil)
    · exact before

/-- They choose related items. -/
theorem select_related
    (agree : ∀ chosen picked a b, List.Forall₂ related chosen picked → related a b → ok chosen a = other picked b)
    (pairs : List.Forall₂ related items others) : List.Forall₂ related (select ok items) (select other others) := by
  suffices general : ∀ chosen picked, List.Forall₂ related chosen picked →
      List.Forall₂ related (items.foldl (visit ok) chosen) (others.foldl (visit other) picked) from general [] [] .nil
  induction pairs with
  | nil => exact fun _ _ before => before
  | @cons a b _ _ pair _ ih =>
    intro chosen picked before
    refine ih _ _ ?_
    unfold visit
    rw [agree chosen picked a b before pair]
    split
    · exact List.rel_append before (.cons pair .nil)
    · exact before

end

end V3Aidlc.Greedy
