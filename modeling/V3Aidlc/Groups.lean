import V3Aidlc.Loops
import Mathlib.Data.List.Perm.Basic
import Mathlib.Data.List.Nodup

/-!
Lists grouped by a key. Groups that are listed under distinct keys hold together what the list
holds, and the elements with a key are those of its group.
-/
namespace V3Aidlc.Groups
open V3Aidlc.Loops

/-! ### Lists -/

/-- A permutation of mapped elements maps a permutation of them. -/
theorem perm_map {α β : Type} {f : α → β} {xs : List α} {ys : List β} (same : (xs.map f).Perm ys) :
    ∃ zs, ys = zs.map f ∧ xs.Perm zs := by
  have images : List.Forall₂ (fun b a => b = f a) (xs.map f) xs := by
    rw [List.forall₂_map_left_iff]
    exact List.forall₂_same.mpr (fun _ _ => rfl)
  obtain ⟨zs,paired,moved⟩ := List.perm_comp_forall₂ same.symm images
  refine ⟨zs,?_,moved.symm⟩
  clear same images moved
  induction paired with
  | nil => rfl
  | cons first _ ih => rw [List.map_cons,← first,← ih]

/-- The only element of a list with a property. -/
theorem filter_unique {α : Type} {p : α → Bool} {items : List α} (apart : items.Nodup) {a : α} (member : a ∈ items)
    (holds : p a = true)
    (only : ∀ b ∈ items, p b = true → b = a) : items.filter p = [a] := by
  refine List.perm_singleton.mp ((List.perm_ext_iff_of_nodup (apart.filter _) (List.nodup_singleton a)).mpr
    (fun b => ?_))
  rw [List.mem_filter,List.mem_singleton]
  constructor
  · rintro ⟨inside,too⟩
    exact only b inside too
  · rintro rfl
    exact ⟨member,holds⟩

/-- A new key at the end is apart from the others. -/
theorem nodup_map_snoc {α β : Type} {f : α → β} {items : List α} {a : α} (distinct : (items.map f).Nodup)
    (free : ∀ item ∈ items, f item ≠ f a) : ((items ++ [a]).map f).Nodup := by
  rw [List.map_append,List.nodup_append]
  refine ⟨distinct,by simp,?_⟩
  intro b member other last
  obtain ⟨item,inside,rfl⟩ := List.mem_map.mp member
  obtain rfl : other = f a := by simpa using last
  exact free item inside

/-- Under distinct keys an element is found by its key. -/
theorem find_keyed {α κ : Type} [DecidableEq κ] (key : α → κ) {items : List α} (distinct : (items.map key).Nodup)
    {a : α} (member : a ∈ items) : items.find? (fun b => key b = key a) = some a := by
  induction items with
  | nil => cases member
  | cons first rest ih =>
    obtain ⟨other,apart⟩ := List.nodup_cons.mp distinct
    rcases List.mem_cons.mp member with rfl | later
    · rw [List.find?_cons_of_pos (by simp)]
    · have differs : key first ≠ key a := fun same => other (same ▸ List.mem_map_of_mem later)
      rw [List.find?_cons_of_neg (by simpa using differs)]
      exact ih apart later

/-- A list with equal keys has an element whose key came before. -/
theorem repeated_key {α κ : Type} [DecidableEq κ] {key : α → κ} {items : List α} (equal : ¬ (items.map key).Nodup) :
    ∃ front second back, items = front ++ second :: back ∧ key second ∈ front.map key := by
  induction items with
  | nil => exact absurd List.nodup_nil equal
  | cons first rest ih =>
    by_cases here : key first ∈ rest.map key
    · obtain ⟨second,member,same⟩ := List.mem_map.mp here
      obtain ⟨front,back,rfl⟩ := List.append_of_mem member
      exact ⟨first :: front,second,back,rfl,by simp [same]⟩
    · have later : ¬ (rest.map key).Nodup := fun distinct => equal (List.nodup_cons.mpr ⟨here,distinct⟩)
      obtain ⟨front,second,back,rfl,member⟩ := ih later
      exact ⟨first :: front,second,back,rfl,List.mem_cons_of_mem _ member⟩

/-- A loop that collects the keys of its elements and refuses one it has seen returns exactly
    when every element passes and no two share a key. -/
theorem foldlM_distinct {ε α κ : Type} {f : List κ → α → Except ε (List κ)} {key : α → κ} {passes : α → Prop}
    (step : ∀ seen item next, f seen item = .ok next ↔ passes item ∧ key item ∉ seen ∧ next = seen ++ [key item])
    {items : List α} {seen final : List κ} (apart : seen.Nodup) :
    items.foldlM f seen = .ok final ↔
      (∀ item ∈ items, passes item) ∧ (seen ++ items.map key).Nodup ∧ final = seen ++ items.map key := by
  induction items generalizing seen with
  | nil =>
    rw [foldlM_nil_ok]
    simpa [apart] using eq_comm
  | cons item rest ih =>
    rw [foldlM_cons_ok,List.forall_mem_cons]
    have same : seen ++ (item :: rest).map key = (seen ++ [key item]) ++ rest.map key := by simp
    rw [same]
    constructor
    · rintro ⟨next,stepped,later⟩
      obtain ⟨here,fresh,rfl⟩ := (step seen item next).mp stepped
      have longer : (seen ++ [key item]).Nodup := List.Nodup.append apart (List.nodup_singleton _)
          (by simpa using fresh)
      obtain ⟨others,distinct,ended⟩ := (ih longer).mp later
      exact ⟨⟨here,others⟩,distinct,ended⟩
    · rintro ⟨⟨here,others⟩,distinct,ended⟩
      have longer : (seen ++ [key item]).Nodup := List.Nodup.of_append_left distinct
      have fresh : key item ∉ seen := fun member =>
        (List.nodup_append.mp longer).2.2 _ member _ (by simp) rfl
      exact ⟨_,(step _ _ _).mpr ⟨here,fresh,rfl⟩,(ih longer).mpr ⟨others,distinct,ended⟩⟩

theorem map_filter_eq {α β : Type} {p : α → Bool} {f : α → β} {g : α → List β} {items : List α}
    (each : ∀ a ∈ items, g a = if p a then [f a] else []) : (items.filter p).map f = items.flatMap g := by
  induction items with
  | nil => rfl
  | cons a items ih =>
    have later := ih (fun b member => each b (by simp [member]))
    rw [List.flatMap_cons,each a (by simp),← later]
    by_cases holds : p a = true <;> simp [holds]

/-- A list that has the elements of `p` first. -/
theorem split_ordered {α : Type} {p : α → Bool} {items : List α}
    (first : items.Pairwise (fun a b => p b = true → p a = true)) :
    items = items.filter p ++ items.filter (fun a => !p a) := by
  induction items with
  | nil => rfl
  | cons a items ih =>
    obtain ⟨here,later⟩ := List.pairwise_cons.mp first
    by_cases holds : p a = true
    · rw [List.filter_cons_of_pos holds,List.filter_cons_of_neg (by simp [holds]),List.cons_append,← ih later]
    · have none : items.filter p = [] := by
        rw [List.filter_eq_nil_iff]
        exact fun b member also => holds (here b member also)
      have whole : items.filter (fun a => !p a) = items := by
        rw [List.filter_eq_self]
        intro b member
        have fails : ¬p b = true := fun also => holds (here b member also)
        simpa using fails
      rw [List.filter_cons_of_neg holds,List.filter_cons_of_pos (by simpa using holds),none,whole,List.nil_append]

/-! ### Lists of pieces -/

/-- Pieces of equal lengths agree when what they make up does. -/
theorem flatMap_pieces {α β : Type} {f g : α → List β} {items : List α}
    (lengths : ∀ a ∈ items, (f a).length = (g a).length) (same : items.flatMap f = items.flatMap g) :
    ∀ a ∈ items, f a = g a := by
  induction items with
  | nil => simp
  | cons first rest ih =>
    rw [List.flatMap_cons,List.flatMap_cons] at same
    obtain ⟨here,later⟩ := List.append_inj same (lengths first (by simp))
    intro a member
    rcases List.mem_cons.mp member with rfl | inside
    · exact here
    · exact ih (fun b inside => lengths b (by simp [inside])) later a inside

/-- Pieces that agree, or have one and the other length: the shorter make up less. -/
theorem flatMap_shorter {α β : Type} {f g : α → List β} {items : List α} {m n : Nat} (less : m < n)
    (each : ∀ a ∈ items, f a = g a ∨ (f a).length = m ∧ (g a).length = n) :
    (items.flatMap f).length ≤ (items.flatMap g).length ∧
      ((∃ a ∈ items, (f a).length = m ∧ (g a).length = n) → (items.flatMap f).length < (items.flatMap g).length) := by
  induction items with
  | nil => simp
  | cons first rest ih =>
    obtain ⟨most,strict⟩ := ih (fun a member => each a (by simp [member]))
    simp only [List.flatMap_cons,List.length_append]
    have here : (f first).length ≤ (g first).length := by
      rcases each first (by simp) with same | ⟨short,long⟩
      · exact Nat.le_of_eq (congrArg List.length same)
      · omega
    refine ⟨by omega,?_⟩
    rintro ⟨a,member,short,long⟩
    rcases List.mem_cons.mp member with rfl | inside
    · omega
    · have := strict ⟨a,inside,short,long⟩
      omega

/-- Pieces that agree but where they are one and the other text: so are the texts. -/
theorem flatMap_swapped {α β : Type} {f g : α → List β} {items : List α} {s t : List β}
    (each : ∀ a ∈ items, f a = g a ∨ f a = s ∧ g a = t) (some_swapped : ∃ a ∈ items, f a = s ∧ g a = t)
    (same : items.flatMap f = items.flatMap g) : s = t := by
  obtain ⟨a,member,first,second⟩ := some_swapped
  have lengths : s.length = t.length := by
    rcases Nat.lt_trichotomy s.length t.length with less | equal | more
    · have shorter := (flatMap_shorter less (fun b inside => (each b inside).imp id
        (fun both => ⟨by rw [both.1],by rw [both.2]⟩))).2 ⟨a,member,by rw [first],by rw [second]⟩
      rw [same] at shorter
      omega
    · exact equal
    · have shorter := (flatMap_shorter more (fun b inside => (each b inside).imp Eq.symm
        (fun both => ⟨by rw [both.2],by rw [both.1]⟩))).2 ⟨a,member,by rw [second],by rw [first]⟩
      rw [same] at shorter
      omega
  have pieces := flatMap_pieces (fun b inside => by
    rcases each b inside with same | ⟨left,right⟩
    · rw [same]
    · rw [left,right,lengths]) same a member
  rw [← first,← second,pieces]

/-! ### Groups -/

/-- Grouping by a key rearranges a list. -/
theorem grouped_perm {α κ : Type} [DecidableEq κ] (key : α → κ) {keys : List κ} (apart : keys.Nodup) {items : List α}
    (listed : ∀ a ∈ items, key a ∈ keys) : (keys.flatMap (fun k => items.filter (fun a => key a = k))).Perm items := by
  induction items with
  | nil =>
    have none : keys.flatMap (fun k => ([] : List α).filter (fun a => key a = k)) = [] := by simp
    rw [none]
  | cons a items ih =>
    obtain ⟨before,after,rfl⟩ := List.append_of_mem (listed a (by simp))
    have others : ∀ part : List κ, key a ∉ part →
        part.flatMap (fun k => (a :: items).filter (fun b => key b = k)) =
          part.flatMap (fun k => items.filter (fun b => key b = k)) := by
      intro part absent
      refine List.flatMap_congr (fun k member => ?_)
      have other : key a ≠ k := fun same => absent (same ▸ member)
      rw [List.filter_cons_of_neg (by simpa using other)]
    obtain ⟨_,later,separate⟩ := List.nodup_append'.mp apart
    have front : key a ∉ before := fun member => separate member (by simp)
    have back : key a ∉ after := (List.nodup_cons.mp later).1
    have rest := ih (fun b member => listed b (by simp [member]))
    rw [List.flatMap_append,List.flatMap_cons] at rest ⊢
    rw [others before front,others after back,List.filter_cons_of_pos (by simp)]
    exact List.perm_middle.trans (rest.cons a)

section
variable {α β : Type} {key : β → α}

/-- The elements of a group all have its key. -/
def Grouped (key : β → α) (k : α) (group : List β) : Prop := ∀ b ∈ group, key b = k

theorem grouped_keys {keys : List α} {groups : List (List β)} (grouped : List.Forall₂ (Grouped key) keys groups) :
    ∀ b ∈ groups.flatten, key b ∈ keys := by
  intro b member
  obtain ⟨group,inside,here⟩ := List.mem_flatten.mp member
  obtain ⟨k,listed,same⟩ := forall₂_left grouped.flip group inside
  rw [same b here]
  exact listed

/-- Groups of one element at most, under increasing keys, are increasing. -/
theorem grouped_ordered [LT α] {keys : List α} {groups : List (List β)}
    (grouped : List.Forall₂ (Grouped key) keys groups)
    (single : ∀ group ∈ groups, group.length ≤ 1) (ordered : keys.Pairwise (· < ·)) :
    (groups.flatten.map key).Pairwise (· < ·) := by
  induction grouped with
  | nil => simp
  | @cons k group keys groups own rest ih =>
    obtain ⟨above,later⟩ := List.pairwise_cons.mp ordered
    rw [List.flatten_cons,List.map_append,List.pairwise_append]
    refine ⟨?_,ih (fun other member => single other (by simp [member])) later,?_⟩
    · have short : (group.map key).length ≤ 1 := by simpa using single group (by simp)
      match group.map key,short with
      | [],_ => simp
      | [_],_ => simp
    · intro a first b second
      obtain ⟨x,inside,rfl⟩ := List.mem_map.mp first
      obtain ⟨y,tail,rfl⟩ := List.mem_map.mp second
      rw [own x inside]
      exact above _ (grouped_keys rest y tail)

/-- The elements with a key are those of its group. -/
theorem grouped_filter [DecidableEq α] {keys : List α} {groups : List (List β)} {related : α → List β → Prop}
    (grouped : List.Forall₂ (fun k group => Grouped key k group ∧ related k group) keys groups)
      (distinct : keys.Nodup) :
    ∀ k ∈ keys, related k (groups.flatten.filter (fun b => key b = k)) := by
  induction grouped with
  | nil => simp
  | @cons k group keys groups own rest ih =>
    obtain ⟨fresh,later⟩ := List.nodup_cons.mp distinct
    have behind : List.Forall₂ (Grouped key) keys groups := rest.imp (fun _ _ both => both.1)
    intro sought member
    rw [List.flatten_cons,List.filter_append]
    rcases List.mem_cons.mp member with rfl | tail
    · have whole : group.filter (fun b => key b = sought) = group := by
        rw [List.filter_eq_self]
        intro b inside
        simpa using own.1 b inside
      have none : groups.flatten.filter (fun b => key b = sought) = [] := by
        rw [List.filter_eq_nil_iff]
        intro b inside same
        have listed := grouped_keys behind b inside
        rw [of_decide_eq_true same] at listed
        exact fresh listed
      rw [whole,none,List.append_nil]
      exact own.2
    · have none : group.filter (fun b => key b = sought) = [] := by
        rw [List.filter_eq_nil_iff]
        intro b inside same
        rw [← of_decide_eq_true same,own.1 b inside] at tail
        exact fresh tail
      rw [none,List.nil_append]
      exact ih later sought tail

end

end V3Aidlc.Groups
