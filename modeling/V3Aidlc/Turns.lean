import V3Aidlc.Loops

/-!
The turns of a loop that may raise: the elements with the states in which the loop comes to them. A
loop returns when every turn does (`foldlM_returns_iff`), a property that each turn can only lose is
kept when no turn loses it (`foldlM_kept_iff`), and elements at whose turns nothing happens
can be left out (`foldlM_filter`).
-/
namespace V3Aidlc.Turns
open V3Aidlc.Loops
variable {ε σ α : Type} {f g : σ → α → Except ε σ} {items : List α} {start final : σ}

/-- The loop comes to this element in this state. -/
def ComesTo (f : σ → α → Except ε σ) (start : σ) (items : List α) (state : σ) (item : α) : Prop :=
  ∃ before after, items = before ++ item :: after ∧ before.foldlM f start = .ok state

theorem comesTo_cons_iff {first item : α} {state : σ} : ComesTo f start (first :: items) state item ↔
    (state = start ∧ item = first) ∨ ∃ next, f start first = .ok next ∧ ComesTo f next items state item := by
  constructor
  · rintro ⟨before,after,split,ran⟩
    cases before with
    | nil =>
      obtain ⟨rfl,_⟩ := List.cons.inj split
      exact .inl ⟨(foldlM_nil_ok.mp ran).symm,rfl⟩
    | cons other before =>
      obtain ⟨rfl,rest⟩ := List.cons.inj split
      obtain ⟨next,stepped,later⟩ := foldlM_cons_ok.mp ran
      exact .inr ⟨next,stepped,before,after,rest,later⟩
  · rintro (⟨rfl,rfl⟩ | ⟨next,stepped,before,after,rfl,ran⟩)
    · exact ⟨[],items,rfl,foldlM_nil_ok.mpr rfl⟩
    · exact ⟨first :: before,after,rfl,foldlM_cons_ok.mpr ⟨next,stepped,ran⟩⟩

theorem comesTo_first {first : α} : ComesTo f start (first :: items) start first :=
  comesTo_cons_iff.mpr (.inl ⟨rfl,rfl⟩)

theorem comesTo_later {first item : α} {next state : σ} (stepped : f start first = .ok next)
    (comes : ComesTo f next items state item) : ComesTo f start (first :: items) state item :=
  comesTo_cons_iff.mpr (.inr ⟨next,stepped,comes⟩)

theorem foldlM_returns_iff : (∃ final, items.foldlM f start = .ok final) ↔
    ∀ state item, ComesTo f start items state item → ∃ next, f state item = .ok next := by
  induction items generalizing start with
  | nil =>
    refine ⟨fun _ state item comes => ?_,fun _ => ⟨start,rfl⟩⟩
    obtain ⟨before,after,split,_⟩ := comes
    simp at split
  | cons first items ih =>
    constructor
    · rintro ⟨final,ran⟩ state item comes
      obtain ⟨next,stepped,later⟩ := foldlM_cons_ok.mp ran
      rcases comesTo_cons_iff.mp comes with ⟨rfl,rfl⟩ | ⟨other,also,rest⟩
      · exact ⟨next,stepped⟩
      · obtain rfl := Except.ok.inj (stepped.symm.trans also)
        exact ih.mp ⟨final,later⟩ state item rest
    · intro each
      obtain ⟨next,stepped⟩ := each start first comesTo_first
      obtain ⟨final,ran⟩ := ih.mpr (fun state item comes => each state item (comesTo_later stepped comes))
      exact ⟨final,foldlM_cons_ok.mpr ⟨next,stepped,ran⟩⟩

/-- What a turn keeps exactly when it does not go wrong holds after the loop exactly when it held
    before and no turn went wrong. -/
theorem foldlM_kept_iff {good : σ → Prop} {wrong : σ → α → Prop}
    (step : ∀ state item next, f state item = .ok next → (good next ↔ good state ∧ ¬ wrong state item))
    (ran : items.foldlM f start = .ok final) :
    good final ↔ good start ∧ ∀ state item, ComesTo f start items state item → ¬ wrong state item := by
  induction items generalizing start with
  | nil =>
    obtain rfl := foldlM_nil_ok.mp ran
    refine (and_iff_left ?_).symm
    rintro state item ⟨before,after,split,_⟩
    simp at split
  | cons first items ih =>
    obtain ⟨next,stepped,later⟩ := foldlM_cons_ok.mp ran
    rw [ih later,step start first next stepped,and_assoc]
    refine and_congr_right (fun _ => ⟨fun ⟨here,rest⟩ state item comes => ?_,fun each => ⟨each _ _ comesTo_first,?_⟩⟩)
    · rcases comesTo_cons_iff.mp comes with ⟨rfl,rfl⟩ | ⟨other,also,there⟩
      · exact here
      · obtain rfl := Except.ok.inj (stepped.symm.trans also)
        exact rest state item there
    · exact fun state item comes => each state item (comesTo_later stepped comes)

/-- Two loops of which the other does the same with the elements of `p`, and the first does nothing
    with the rest. -/
theorem foldlM_filter {p : α → Bool}
    (agree : ∀ state item, ComesTo f start items state item → p item = true → g state item = f state item)
    (idle : ∀ state item, ComesTo f start items state item → p item = false → f state item = .ok state)
    (ran : items.foldlM f start = .ok final) : (items.filter p).foldlM g start = .ok final := by
  induction items generalizing start with
  | nil => exact ran
  | cons first items ih =>
    obtain ⟨next,stepped,later⟩ := foldlM_cons_ok.mp ran
    have rest := ih (fun state item comes => agree state item (comesTo_later stepped comes))
      (fun state item comes => idle state item (comesTo_later stepped comes)) later
    cases wanted : p first with
    | true =>
      rw [List.filter_cons_of_pos wanted]
      exact foldlM_cons_ok.mpr ⟨next,(agree start first comesTo_first wanted).trans stepped,rest⟩
    | false =>
      obtain rfl := Except.ok.inj (stepped.symm.trans (idle start first comesTo_first wanted))
      rw [List.filter_cons_of_neg (by simp [wanted])]
      exact rest

end V3Aidlc.Turns
