import Mathlib.Data.List.Basic
import Mathlib.Data.List.Forall2

/-!
Computations that may raise. A function of the source that raises is a value of
`Except`, and a loop that may raise is a monadic fold. The rules here say what a
computation that returned has passed on its way: which guards did not fire, what
each step of a loop returned, and which invariant the whole loop keeps.
-/
namespace V3Aidlc.Loops

section
variable {ε α β : Type}

/-- Raises `error` when the condition holds. -/
def raise_if (condition : Bool) (error : ε) : Except ε Unit :=
  if condition then .error error else .ok ()

@[simp] theorem raise_if_ok {condition : Bool} {error : ε} {u : Unit} :
    raise_if condition error = .ok u ↔ condition = false := by
  cases condition <;> simp [raise_if]

@[simp] theorem bind_ok_iff {m : Except ε α} {f : α → Except ε β} {b : β} :
    (m >>= f) = .ok b ↔ ∃ a, m = .ok a ∧ f a = .ok b := by
  cases m <;> simp [bind,Except.bind]

@[simp] theorem pure_ok_iff {a b : α} : (pure a : Except ε α) = .ok b ↔ a = b := by
  simp [pure,Except.pure]

@[simp] theorem map_ok_iff {m : Except ε α} {f : α → β} {b : β} :
    (f <$> m) = .ok b ↔ ∃ a, m = .ok a ∧ f a = b := by
  cases m <;> simp [Functor.map,Except.map]

@[simp] theorem throw_ok_iff {error : ε} {a : α} : (throw error : Except ε α) = .ok a ↔ False := by
  simp [throw,throwThe,MonadExceptOf.throw]

theorem ok_bind (a : α) (f : α → Except ε β) : ((.ok a : Except ε α) >>= f) = f a := rfl

/-- What a check of the result says of a computation. -/
theorem returns_with {m : Except ε α} {p : α → Bool} (returns : m.toOption.any p = true) :
    ∃ a, m = .ok a ∧ p a = true := by
  cases m with
  | error e => cases returns
  | ok a => exact ⟨a,rfl,returns⟩

end

section
variable {ε σ α : Type}

/-- A loop that returned passed every element. -/
theorem forM_ok_iff {f : α → Except ε Unit} {items : List α} {u : Unit} :
    items.forM f = .ok u ↔ ∀ item ∈ items, f item = .ok () := by
  induction items with
  | nil => simp [List.forM,pure,Except.pure]
  | cons item rest ih =>
    have step : (item :: rest).forM f = (f item >>= fun _ => rest.forM f) := rfl
    rw [step,bind_ok_iff]
    constructor
    · rintro ⟨_,first,later⟩ other member
      rcases List.mem_cons.mp member with rfl | tail
      · exact first
      · exact ih.mp later other tail
    · intro all
      exact ⟨(),all item (by simp),ih.mpr (fun other member => all other (by simp [member]))⟩

/-- A search that returned `False` found nothing at any element. -/
theorem anyM_false_iff {f : α → Except ε Bool} {items : List α} :
    items.anyM f = .ok false ↔ ∀ item ∈ items, f item = .ok false := by
  induction items with
  | nil => simp [List.anyM,pure,Except.pure]
  | cons item rest ih =>
    rw [List.anyM,bind_ok_iff,List.forall_mem_cons,← ih]
    constructor
    · rintro ⟨found,here,later⟩
      cases found with
      | true => cases later
      | false => exact ⟨here,later⟩
    · rintro ⟨here,later⟩
      exact ⟨false,here,later⟩

theorem foldlM_nil_ok {f : σ → α → Except ε σ} {start final : σ} :
    ([] : List α).foldlM f start = .ok final ↔ start = final := by
  simp [List.foldlM,pure,Except.pure]

theorem foldlM_cons_ok {f : σ → α → Except ε σ} {start final : σ} {item : α} {rest : List α} :
    (item :: rest).foldlM f start = .ok final ↔
      ∃ next, f start item = .ok next ∧ rest.foldlM f next = .ok final := by
  rw [List.foldlM_cons,bind_ok_iff]

theorem foldlM_snoc_ok {f : σ → α → Except ε σ} {start final : σ} {items : List α} {item : α} :
    (items ++ [item]).foldlM f start = .ok final ↔ ∃ middle, items.foldlM f start = .ok middle ∧
      f middle item = .ok final := by
  rw [List.foldlM_append,bind_ok_iff]
  simp

/-- What holds at the start and is kept by every step that returns holds at the
    end of a loop that returns; the invariant may mention the elements done. -/
theorem foldlM_invariant {f : σ → α → Except ε σ} (invariant : List α → σ → Prop)
    (step : ∀ done state item next, invariant done state → f state item = .ok next →
      invariant (done ++ [item]) next)
    {items : List α} {start final : σ} (initial : invariant [] start)
    (run : items.foldlM f start = .ok final) : invariant items final := by
  suffices general : ∀ (rest done : List α) (state : σ), invariant done state →
      rest.foldlM f state = .ok final → invariant (done ++ rest) final by
    simpa using general items [] start initial run
  intro rest
  induction rest with
  | nil =>
    intro done state holds ended
    rw [foldlM_nil_ok] at ended
    simpa [← ended] using holds
  | cons item rest ih =>
    intro done state holds ran
    obtain ⟨next,stepped,later⟩ := foldlM_cons_ok.mp ran
    simpa using ih (done ++ [item]) next (step done state item next holds stepped) later

end

/-- A loop that returned a list returned what each element gave, in order. -/
theorem mapM_ok_iff {ε α β : Type} {f : α → Except ε β} {items : List α} {results : List β} :
    items.mapM f = .ok results ↔ List.Forall₂ (fun item result => f item = .ok result) items results := by
  induction items generalizing results with
  | nil =>
    rw [List.mapM_nil,pure_ok_iff]
    constructor
    · rintro rfl; exact .nil
    · intro related; cases related; rfl
  | cons item rest ih =>
    rw [List.mapM_cons]
    simp only [bind_ok_iff,pure_ok_iff]
    constructor
    · rintro ⟨first,firstRun,later,laterRun,rfl⟩
      exact .cons firstRun (ih.mp laterRun)
    · intro related
      cases related with
      | cons firstRun laterRun => exact ⟨_,firstRun,_,ih.mpr laterRun,rfl⟩

/-- Each element of a list in step with another has its partner. -/
theorem forall₂_left {α β : Type} {related : α → β → Prop} {items : List α} {others : List β}
    (pairs : List.Forall₂ related items others) : ∀ item ∈ items, ∃ other ∈ others, related item other := by
  intro item member
  induction pairs with
  | nil => cases member
  | cons first _ ih =>
    rcases List.mem_cons.mp member with rfl | later
    · exact ⟨_,by simp,first⟩
    · obtain ⟨other,inside,pair⟩ := ih later
      exact ⟨other,by simp [inside],pair⟩

/-- A relation between partners may use that both are members. -/
theorem forall₂_members {α β : Type} {related kept : α → β → Prop} {items : List α} {others : List β}
    (pairs : List.Forall₂ related items others)
    (keeps : ∀ item ∈ items, ∀ other ∈ others, related item other → kept item other) :
    List.Forall₂ kept items others := by
  induction pairs with
  | nil => exact .nil
  | cons first _ ih =>
    refine .cons (keeps _ (by simp) _ (by simp) first) (ih ?_)
    intro item member other member'
    exact keeps item (List.mem_cons_of_mem _ member) other (List.mem_cons_of_mem _ member')

/-- The partner of the element at a place stands at that place. -/
theorem forall₂_at {α β : Type} {related : α → β → Prop} {items : List α} {others : List β}
    (pairs : List.Forall₂ related items others) {i : Nat} {other : β} (found : others[i]? = some other) :
    ∃ item, items[i]? = some item ∧ related item other := by
  induction pairs generalizing i with
  | nil => simp at found
  | cons first _ ih =>
    cases i with
    | zero =>
      obtain rfl := Option.some.inj found
      exact ⟨_,rfl,first⟩
    | succ i => exact ih found

/-- Each result of a loop is that of one of its elements. -/
theorem mapM_result {ε α β : Type} {f : α → Except ε β} {items : List α} {results : List β}
    (ran : items.mapM f = .ok results) {result : β} (member : result ∈ results) :
    ∃ item ∈ items, f item = .ok result :=
  forall₂_left (mapM_ok_iff.mp ran).flip result member

/-- A loop whose every step returns returns, with what each step promised. -/
theorem mapM_total {ε α β : Type} {f : α → Except ε β} {items : List α} {promised : α → β → Prop}
    (each : ∀ item ∈ items, ∃ result, f item = .ok result ∧ promised item result) :
    ∃ results, items.mapM f = .ok results ∧ List.Forall₂ promised items results := by
  induction items with
  | nil => exact ⟨[],rfl,.nil⟩
  | cons item rest ih =>
    obtain ⟨first,firstRun,kept⟩ := each item (by simp)
    obtain ⟨later,laterRun,keptLater⟩ := ih (fun other member => each other (by simp [member]))
    refine ⟨first :: later,?_,.cons kept keptLater⟩
    exact mapM_ok_iff.mpr (.cons firstRun (mapM_ok_iff.mp laterRun))

/-- What a search kept so far, and what it keeps of the rest. -/
private theorem filterAuxM_mem {ε α : Type} {f : α → Except ε Bool} {items kept found : List α}
    (ran : items.filterAuxM f kept = .ok found) {item : α} :
    item ∈ found ↔ item ∈ kept ∨ item ∈ items ∧ f item = .ok true := by
  induction items generalizing kept with
  | nil =>
    rw [List.filterAuxM,pure_ok_iff] at ran
    simp [ran]
  | cons first rest ih =>
    rw [List.filterAuxM,bind_ok_iff] at ran
    obtain ⟨passes,tested,later⟩ := ran
    rw [ih later]
    by_cases here : item = first
    · subst here
      cases passes <;> simp [tested]
    · cases passes <;> simp [here]

/-- A search that returned found the elements that pass. -/
theorem filterM_mem {ε α : Type} {f : α → Except ε Bool} {items found : List α} (ran : items.filterM f = .ok found)
    {item : α} : item ∈ found ↔ item ∈ items ∧ f item = .ok true := by
  unfold List.filterM at ran
  obtain ⟨kept,searched,equal⟩ := bind_ok_iff.mp ran
  rw [pure_ok_iff] at equal
  rw [← equal,List.mem_reverse,filterAuxM_mem searched]
  simp

/-- A loop depends on its body only at the elements it visits. -/
theorem mapM_congr {ε α β : Type} {f g : α → Except ε β} {items : List α} (same : ∀ item ∈ items, f item = g item) :
    items.mapM f = items.mapM g := by
  induction items with
  | nil => rfl
  | cons item rest ih =>
    rw [List.mapM_cons,List.mapM_cons,same item (by simp),ih (fun other member => same other (by simp [member]))]

end V3Aidlc.Loops
