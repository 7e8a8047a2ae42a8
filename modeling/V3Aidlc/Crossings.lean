import Mathlib.Data.List.Chain

/-!
Runs of a step relation that must cross a gate. Where every step out of a set leads to a gate, a run that starts
in the set reaches whatever is outside of it through a gate only (`crosses`).
-/
namespace V3Aidlc.Crossings

variable {S : Type} {R : S → S → Prop} {inside gate : S → Prop}

/-- A run from inside a set to outside of it stays in the set up to a gate. -/
theorem crosses (leaves : ∀ source target, inside source → R source target → inside target ∨ gate target)
    {first : S} {states : List S} (run : List.IsChain R (first :: states)) (start : inside first)
    (out : ∃ state ∈ states, ¬ inside state) :
    ∃ front state back, states = front ++ state :: back ∧ (∀ earlier ∈ front, inside earlier) ∧ gate state := by
  induction states generalizing first with
  | nil => simp at out
  | cons second rest ih =>
    obtain ⟨step,run⟩ := List.isChain_cons_cons.mp run
    rcases leaves first second start step with stays | crossed
    · have further : ∃ state ∈ rest, ¬ inside state := by
        obtain ⟨state,member,outside⟩ := out
        rcases List.mem_cons.mp member with rfl | later
        · exact absurd stays outside
        · exact ⟨state,later,outside⟩
      obtain ⟨front,state,back,rfl,held,crossed⟩ := ih run stays further
      exact ⟨second :: front,state,back,rfl,by simpa using ⟨stays,held⟩,crossed⟩
    · exact ⟨[],second,rest,rfl,by simp,crossed⟩

end V3Aidlc.Crossings
