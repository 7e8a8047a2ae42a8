import V3Aidlc.PrefixCodes

/-!
What can be found in texts that are joined by a mark. A text without the mark is found in the whole
exactly when it is found in a part; one that holds the mark once can also lie across two
neighbours (`halves_separated_iff`), so whether it is found depends on how the parts are ordered.
-/
namespace V3Aidlc.JoinedTexts
open V3Aidlc.PrefixCodes
variable {γ : Type} {mark : γ}

/-! ### One joint -/

/-- What is found around a mark lies before it, after it or across it. -/
theorem infix_joint_iff {text front back : List γ} :
    text <:+: front ++ mark :: back ↔ text <:+: front ∨ text <:+: back ∨
      ∃ x y, text = x ++ mark :: y ∧ x <:+ front ∧ y <+: back := by
  constructor
  · rintro ⟨before,after,whole⟩
    rw [List.append_assoc,List.append_eq_append_iff] at whole
    rcases whole with ⟨rest,split,whole⟩ | ⟨rest,split,whole⟩
    · rw [List.append_eq_append_iff] at whole
      rcases whole with ⟨more,rfl,_⟩ | ⟨more,rfl,whole⟩
      · exact .inl ⟨before,more,by rw [split,List.append_assoc]⟩
      · cases more with
        | nil => exact .inl ⟨before,[],by simp [split]⟩
        | cons c more =>
          obtain ⟨rfl,rfl⟩ := List.cons.inj whole
          exact .inr (.inr ⟨rest,more,rfl,⟨before,split.symm⟩,⟨after,rfl⟩⟩)
    · cases rest with
      | nil =>
        rw [List.nil_append] at whole
        cases text with
        | nil => exact .inl ⟨[],front,rfl⟩
        | cons c text =>
          obtain ⟨rfl,rfl⟩ := List.cons.inj whole
          exact .inr (.inr ⟨[],text,rfl,List.nil_suffix,⟨after,rfl⟩⟩)
      | cons c rest =>
        obtain ⟨rfl,rfl⟩ := List.cons.inj whole
        exact .inr (.inl ⟨rest,after,List.append_assoc ..⟩)
  · rintro (⟨before,after,rfl⟩ | ⟨before,after,rfl⟩ | ⟨x,y,rfl,⟨before,rfl⟩,⟨after,rfl⟩⟩)
    · exact ⟨before,after ++ mark :: back,by simp⟩
    · exact ⟨front ++ mark :: before,after,by simp⟩
    · exact ⟨before,after,by simp⟩

/-- A text that holds the mark once is cut at it in one way. -/
theorem halves_unique {x y x' y' : List γ} (plain : mark ∉ x ∧ mark ∉ y) (same : x ++ mark :: y = x' ++ mark :: y') :
    x = x' ∧ y = y' := by
  have apart : ∀ c ∈ x, ¬ c = mark := by
    rintro c member rfl
    exact plain.1 member
  have other : ∀ c ∈ x', ¬ c = mark := by
    rintro c member rfl
    rw [List.append_eq_append_iff] at same
    rcases same with ⟨rest,rfl,tail⟩ | ⟨rest,rfl,_⟩
    · cases rest with
      | nil => exact plain.1 (by simpa using member)
      | cons d rest =>
        obtain ⟨rfl,rfl⟩ := List.cons.inj tail
        exact plain.2 (by simp)
    · exact plain.1 (List.mem_append_left _ member)
  obtain ⟨halves,tails⟩ := plain_decodes apart other (stops_cons.mpr rfl) (stops_cons.mpr rfl) same
  exact ⟨halves,(List.cons.inj tails).2⟩

/-- A start without the mark is a start of the first part. -/
theorem prefix_joint_iff {y part rest : List γ} (plain : mark ∉ y) : y <+: part ++ mark :: rest ↔ y <+: part := by
  constructor
  · rintro ⟨after,whole⟩
    rw [List.append_eq_append_iff] at whole
    rcases whole with ⟨more,rfl,_⟩ | ⟨more,rfl,tail⟩
    · exact ⟨more,rfl⟩
    · cases more with
      | nil => exact ⟨[],by simp⟩
      | cons c more =>
        obtain ⟨rfl,_⟩ := List.cons.inj tail
        exact absurd (by simp) plain
  · exact fun start => start.trans (List.prefix_append _ _)

/-! ### Joined parts -/

theorem plain_joint_iff {text front back : List γ} (plain : mark ∉ text) :
    text <:+: front ++ mark :: back ↔ text <:+: front ∨ text <:+: back := by
  rw [infix_joint_iff]
  constructor
  · rintro (early | late | ⟨x,y,rfl,_,_⟩)
    · exact .inl early
    · exact .inr late
    · exact absurd (by simp) plain
  · rintro (early | late)
    · exact .inl early
    · exact .inr (.inl late)

/-- What holds of two joined texts when it holds of one holds of any number when it holds of one. -/
theorem separated_iff {p : List γ → Prop} (empty : ¬ p [])
    (joint : ∀ front back, p (front ++ mark :: back) ↔ p front ∨ p back) {parts : List (List γ)} :
    p (separated mark parts) ↔ ∃ part ∈ parts, p part := by
  induction parts with
  | nil => simpa [separated] using empty
  | cons part parts ih =>
    cases parts with
    | nil => simp [separated]
    | cons next parts =>
      have joined : separated mark (part :: next :: parts) = part ++ mark :: separated mark (next :: parts) := rfl
      rw [joined,joint,ih]
      simp only [List.exists_mem_cons_iff]

/-- A text without the mark is found in the parts. -/
theorem plain_separated_iff {text : List γ} (plain : mark ∉ text) (some : text ≠ []) {parts : List (List γ)} :
    text <:+: separated mark parts ↔ ∃ part ∈ parts, text <:+: part :=
  separated_iff (by simpa using some) (fun _ _ => plain_joint_iff plain)

/-- Two neighbours of a list. -/
def Neighbours (items : List γ) (a b : γ) : Prop := [a,b] <:+: items

theorem neighbours_cons {a b first second : γ} {rest : List γ} :
    Neighbours (first :: second :: rest) a b ↔ (a = first ∧ b = second) ∨ Neighbours (second :: rest) a b := by
  unfold Neighbours
  rw [List.infix_cons_iff]
  simp [List.cons_prefix_cons]

theorem Neighbours.map {β : Type} (f : γ → β) {items : List γ} {a b : γ} (near : Neighbours items a b) :
    Neighbours (items.map f) (f a) (f b) := by
  obtain ⟨front,back,rfl⟩ := near
  exact ⟨front.map f,back.map f,by simp⟩

theorem neighbours_map {β : Type} {f : γ → β} {items : List γ} {c d : β} (near : Neighbours (items.map f) c d) :
    ∃ a b, Neighbours items a b ∧ f a = c ∧ f b = d := by
  obtain ⟨front,back,whole⟩ := near
  obtain ⟨before,after,rfl,first,_⟩ := List.map_eq_append_iff.mp whole.symm
  obtain ⟨start,pair,rfl,_,middle⟩ := List.map_eq_append_iff.mp first
  obtain ⟨a,rest,rfl,rfl,tail⟩ := List.map_eq_cons_iff.mp middle
  obtain ⟨b,none,rfl,rfl,last⟩ := List.map_eq_cons_iff.mp tail
  obtain rfl := List.map_eq_nil_iff.mp last
  exact ⟨a,b,⟨start,after,rfl⟩,rfl,rfl⟩

theorem Neighbours.left {items : List γ} {a b : γ} (near : Neighbours items a b) : a ∈ items :=
  near.subset (by simp)

theorem Neighbours.right {items : List γ} {a b : γ} (near : Neighbours items a b) : b ∈ items :=
  near.subset (by simp)

/-- Neighbours in a list without repetition differ. -/
theorem Neighbours.ne {items : List γ} {a b : γ} (near : Neighbours items a b) (apart : items.Nodup) : a ≠ b := by
  have pair := apart.sublist near.sublist
  rintro rfl
  simp at pair

/-- A text of two halves around the mark is found in a part, or lies across two neighbours. -/
theorem halves_separated_iff {x y : List γ} (plain : mark ∉ x ∧ mark ∉ y) {parts : List (List γ)} :
    x ++ mark :: y <:+: separated mark parts ↔ (∃ part ∈ parts, x ++ mark :: y <:+: part) ∨
      ∃ a b, Neighbours parts a b ∧ x <:+ a ∧ y <+: b := by
  induction parts with
  | nil => simp [separated,Neighbours]
  | cons part parts ih =>
    cases parts with
    | nil =>
      have alone : ∀ a b, ¬ Neighbours [part] a b := fun a b near => by simpa using near.length_le
      simp [separated,alone]
    | cons next parts =>
      have first : (∃ other ∈ part :: next :: parts, x ++ mark :: y <:+: other) ↔
          x ++ mark :: y <:+: part ∨ ∃ other ∈ next :: parts, x ++ mark :: y <:+: other := List.exists_mem_cons_iff ..
      have start : ∀ y : List γ, mark ∉ y → (y <+: separated mark (next :: parts) ↔ y <+: next) := by
        intro y plain
        cases parts with
        | nil => rfl
        | cons other parts => exact prefix_joint_iff plain
      have joined : separated mark (part :: next :: parts) = part ++ mark :: separated mark (next :: parts) := rfl
      rw [joined,infix_joint_iff,ih,first]
      simp only [neighbours_cons]
      constructor
      · rintro (here | (later | ⟨a,b,near,ends,starts⟩) | ⟨x',y',same,ends,starts⟩)
        · exact .inl (.inl here)
        · exact .inl (.inr later)
        · exact .inr ⟨a,b,.inr near,ends,starts⟩
        · obtain ⟨rfl,rfl⟩ := halves_unique plain same
          exact .inr ⟨part,next,.inl ⟨rfl,rfl⟩,ends,(start y plain.2).mp starts⟩
      · rintro ((here | later) | ⟨a,b,⟨rfl,rfl⟩ | near,ends,starts⟩)
        · exact .inl here
        · exact .inr (.inl (.inl later))
        · exact .inr (.inr ⟨x,y,rfl,ends,(start y plain.2).mpr starts⟩)
        · exact .inr (.inl (.inr ⟨a,b,near,ends,starts⟩))

end V3Aidlc.JoinedTexts
