import Mathlib.Data.List.Forall2

/-!
Texts that are read from the left without looking ahead further than one stop. A code is read
when the value and what follows it can be told from the text (`Decodes`); plain texts, lists of
codes between marks and sequences of escaped units are.
-/
namespace V3Aidlc.PrefixCodes
variable {α γ : Type}

/-- What follows a value is nothing or starts with a stop. -/
def Stops (stop : γ → Prop) (rest : List γ) : Prop := ∀ c ∈ rest.head?, stop c

theorem stops_nil (stop : γ → Prop) : Stops stop [] := by
  intro c member
  cases member

theorem stops_cons {stop : γ → Prop} {c : γ} {rest : List γ} : Stops stop (c :: rest) ↔ stop c := by
  simp [Stops]

/-- The texts of two values of a domain agree before a stop only when the values do. -/
def Decodes (code : α → List γ) (stop : γ → Prop) (domain : α → Prop) (same : α → α → Prop) (a : α) : Prop :=
  ∀ b rest rest', domain b → Stops stop rest → Stops stop rest' → code a ++ rest = code b ++ rest' → same a b ∧
    rest = rest'

/-! ### Plain texts -/

/-- Two texts without a stop end at the first stop. -/
theorem plain_decodes {stop : γ → Prop} {s t rest rest' : List γ} (first : ∀ c ∈ s, ¬stop c) (second : ∀ c ∈ t, ¬stop c)
    (ends : Stops stop rest) (ends' : Stops stop rest') (same : s ++ rest = t ++ rest') : s = t ∧ rest = rest' := by
  induction s generalizing t with
  | nil =>
    cases t with
    | nil => exact ⟨rfl,same⟩
    | cons c t =>
      rw [List.nil_append] at same
      rw [same] at ends
      exact absurd (stops_cons.mp ends) (second c (by simp))
  | cons c s ih =>
    cases t with
    | nil =>
      rw [List.nil_append] at same
      rw [← same] at ends'
      exact absurd (stops_cons.mp ends') (first c (by simp))
    | cons d t =>
      obtain ⟨head,tail⟩ := List.cons_eq_cons.mp same
      obtain ⟨texts,rests⟩ := ih (fun x member => first x (by simp [member]))
        (fun x member => second x (by simp [member])) tail
      exact ⟨by rw [head,texts],rests⟩

/-! ### Lists -/

/-- Texts with a mark between each two. -/
def separated (mark : γ) : List (List γ) → List γ
  | [] => []
  | [part] => part
  | part :: rest => part ++ mark :: separated mark rest

/-- What follows the first of some texts, up to the closing mark. -/
def remaining (mark close : γ) (parts : List (List γ)) (rest : List γ) : List γ :=
  if parts = [] then close :: rest else mark :: (separated mark parts ++ close :: rest)

theorem separated_cons (mark close : γ) (part : List γ) (parts : List (List γ)) (rest : List γ) :
    separated mark (part :: parts) ++ close :: rest = part ++ remaining mark close parts rest := by
  cases parts with
  | nil => rfl
  | cons next parts =>
    unfold remaining
    rw [if_neg (by simp)]
    simp [separated]

section
variable {code : α → List γ} {stop : γ → Prop} {domain : α → Prop} {same : α → α → Prop} {mark close : γ}

theorem remaining_stops (markStops : stop mark) (closeStops : stop close) (parts : List (List γ)) (rest : List γ) :
    Stops stop (remaining mark close parts rest) := by
  unfold remaining
  split
  · exact stops_cons.mpr closeStops
  · exact stops_cons.mpr markStops

/-- A list between marks is read when each of its values is. -/
theorem listed_decodes (markStops : stop mark) (closeStops : stop close) (differ : mark ≠ close)
    (opens : ∀ a, domain a → ∃ c rest, code a = c :: rest ∧ c ≠ close)
    {xs ys : List α} {rest rest' : List γ} (each : ∀ x ∈ xs, Decodes code stop domain same x)
    (first : ∀ x ∈ xs, domain x) (second : ∀ y ∈ ys, domain y)
    (texts : separated mark (xs.map code) ++ close :: rest = separated mark (ys.map code) ++ close :: rest') :
    List.Forall₂ same xs ys ∧ rest = rest' := by
  induction xs generalizing ys with
  | nil =>
    cases ys with
    | nil => exact ⟨List.Forall₂.nil,List.tail_eq_of_cons_eq texts⟩
    | cons y ys =>
      obtain ⟨c,tail,head,other⟩ := opens y (second y (by simp))
      rw [List.map_cons,separated_cons,head] at texts
      exact absurd (List.head_eq_of_cons_eq texts).symm other
  | cons x xs ih =>
    cases ys with
    | nil =>
      obtain ⟨c,tail,head,other⟩ := opens x (first x (by simp))
      rw [List.map_cons,separated_cons,head] at texts
      exact absurd (List.head_eq_of_cons_eq texts) other
    | cons y ys =>
      rw [List.map_cons,List.map_cons,separated_cons,separated_cons] at texts
      obtain ⟨here,tails⟩ := each x (by simp) y _ _ (second y (by simp)) (remaining_stops markStops closeStops _ _)
        (remaining_stops markStops closeStops _ _) texts
      have later : separated mark (xs.map code) ++ close :: rest = separated mark (ys.map code) ++ close :: rest' := by
        unfold remaining at tails
        cases xs <;> cases ys
        · simpa [separated] using tails
        · simp at tails
          exact absurd tails.1.symm differ
        · simp at tails
          exact absurd tails.1 differ
        · simpa using tails
      obtain ⟨others,rests⟩ := ih (fun a member => each a (by simp [member]))
        (fun a member => first a (by simp [member]))
        (fun a member => second a (by simp [member])) later
      exact ⟨List.Forall₂.cons here others,rests⟩

end

/-! ### Escaped units -/

/-- A sequence of units is read up to its closing mark when a reader finds each unit again. -/
theorem units_decode {β : Type} {unit : β → List γ} {close : γ} (reader : List γ → Option (β × List γ))
    (reads : ∀ b rest, reader (unit b ++ rest) = some (b,rest)) (opens : ∀ b, ∃ c rest, unit b = c :: rest ∧ c ≠ close)
    {s t : List β} {rest rest' : List γ} (same : s.flatMap unit ++ close :: rest = t.flatMap unit ++ close :: rest') :
    s = t ∧ rest = rest' := by
  induction s generalizing t with
  | nil =>
    cases t with
    | nil => exact ⟨rfl,List.tail_eq_of_cons_eq same⟩
    | cons b t =>
      obtain ⟨c,tail,head,other⟩ := opens b
      rw [List.flatMap_cons,head] at same
      exact absurd (List.head_eq_of_cons_eq same).symm other
  | cons a s ih =>
    cases t with
    | nil =>
      obtain ⟨c,tail,head,other⟩ := opens a
      rw [List.flatMap_cons,head] at same
      exact absurd (List.head_eq_of_cons_eq same) other
    | cons b t =>
      rw [List.flatMap_cons,List.flatMap_cons,List.append_assoc,List.append_assoc] at same
      have read := reads a (s.flatMap unit ++ close :: rest)
      rw [same,reads] at read
      simp only [Option.some.injEq,Prod.mk.injEq] at read
      obtain ⟨units,rests⟩ := ih read.2.symm
      exact ⟨by rw [read.1,units],rests⟩

end V3Aidlc.PrefixCodes
