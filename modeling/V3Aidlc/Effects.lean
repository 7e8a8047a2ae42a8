import V3Aidlc.Loops

/-!
Computations that raise and also change state. A procedure with mutable locals
and calls to the outside is a function from the state before to an outcome and
the state after, where a procedure that raises keeps the state it reached. The
rules follow an invariant, or a condition on the state before and after, through
sequencing and through loops, whether or not the procedure returns.
-/
namespace V3Aidlc.Effects
open V3Aidlc.Loops

/-- A procedure over states `σ` that returns an `α` or raises an `ε`. -/
def Proc (σ ε α : Type) : Type := σ → Except ε α × σ

variable {σ ε α β : Type}

namespace Proc

protected def pure (a : α) : Proc σ ε α := fun s => (.ok a,s)
protected def bind (m : Proc σ ε α) (f : α → Proc σ ε β) : Proc σ ε β := fun s =>
  match m s with
  | (.ok a,s') => f a s'
  | (.error e,s') => (.error e,s')
instance : Monad (Proc σ ε) where
  pure := Proc.pure
  bind := Proc.bind

/-- Reads the state. -/
def read : Proc σ ε σ := fun s => (.ok s,s)
/-- Changes the state. -/
def modify (f : σ → σ) : Proc σ ε Unit := fun s => (.ok (),f s)
/-- A computation that leaves the state alone. -/
def lift (m : Except ε α) : Proc σ ε α := fun s => (m,s)
/-- Runs the body on each element in order, up to the first that raises. -/
def forEach (items : List α) (body : α → Proc σ ε Unit) : Proc σ ε Unit :=
  match items with
  | [] => Proc.pure ()
  | item :: rest => Proc.bind (body item) (fun _ => forEach rest body)

end Proc
open Proc

theorem pure_run (a : α) (s : σ) : (pure a : Proc σ ε α) s = (.ok a,s) := rfl
theorem read_run (s : σ) : (read : Proc σ ε σ) s = (.ok s,s) := rfl
theorem modify_run (f : σ → σ) (s : σ) : (modify f : Proc σ ε Unit) s = (.ok (),f s) := rfl
theorem lift_run (m : Except ε α) (s : σ) : (lift m : Proc σ ε α) s = (m,s) := rfl

/-- A sequence returned when both parts did. -/
theorem bind_returns {m : Proc σ ε α} {f : α → Proc σ ε β} {b : β} {s s' : σ} :
    (m >>= f) s = (.ok b,s') ↔ ∃ a middle, m s = (.ok a,middle) ∧ f a middle = (.ok b,s') := by
  show Proc.bind m f s = _ ↔ _
  unfold Proc.bind
  rcases m s with ⟨_ | a,middle⟩ <;> simp

theorem pure_returns {a b : α} {s s' : σ} : (pure a : Proc σ ε α) s = (.ok b,s') ↔ a = b ∧ s = s' := by
  simp [pure_run]
theorem read_returns {t s s' : σ} : (read : Proc σ ε σ) s = (.ok t,s') ↔ s = t ∧ s = s' := by
  simp [read_run]
theorem modify_returns {f : σ → σ} {u : Unit} {s s' : σ} :
    (modify f : Proc σ ε Unit) s = (.ok u,s') ↔ f s = s' := by
  simp [modify_run]
theorem lift_returns {m : Except ε α} {a : α} {s s' : σ} :
    (lift m : Proc σ ε α) s = (.ok a,s') ↔ m = .ok a ∧ s = s' := by
  simp [lift_run]

/-! ### Invariants -/

/-- The procedure keeps the invariant, whether it returns or raises. -/
def Keeps (invariant : σ → Prop) (m : Proc σ ε α) : Prop := ∀ s, invariant s → invariant (m s).2

theorem keeps_pure (invariant : σ → Prop) (a : α) : Keeps invariant (pure a : Proc σ ε α) :=
  fun _ holds => holds
theorem keeps_read (invariant : σ → Prop) : Keeps invariant (read : Proc σ ε σ) :=
  fun _ holds => holds
theorem keeps_lift (invariant : σ → Prop) (m : Except ε α) : Keeps invariant (lift m : Proc σ ε α) :=
  fun _ holds => holds
theorem keeps_modify {invariant : σ → Prop} {f : σ → σ} (kept : ∀ s, invariant s → invariant (f s)) :
    Keeps invariant (modify f : Proc σ ε Unit) := kept

/-- A sequence keeps what its parts keep; the second part may use what the
    first one returned from a state that kept the invariant. -/
theorem keeps_bind {invariant : σ → Prop} {m : Proc σ ε α} {f : α → Proc σ ε β} (first : Keeps invariant m)
    (second : ∀ s a s', invariant s → m s = (.ok a,s') → invariant s' → invariant (f a s').2) :
    Keeps invariant (m >>= f) := by
  intro s holds
  show invariant (Proc.bind m f s).2
  have middle := first s holds
  unfold Proc.bind
  rcases ran : m s with ⟨e | a,s'⟩
  · rw [ran] at middle; exact middle
  · rw [ran] at middle; exact second s a s' holds ran middle

/-- The sequencing rule when the second part keeps the invariant from anywhere. -/
theorem keeps_seq {invariant : σ → Prop} {m : Proc σ ε α} {f : α → Proc σ ε β} (first : Keeps invariant m)
    (second : ∀ a, Keeps invariant (f a)) : Keeps invariant (m >>= f) :=
  keeps_bind first (fun _ a s' _ _ holds => second a s' holds)

/-- What the first part establishes stays when the second part keeps it. -/
theorem reaches_bind (invariant : σ → Prop) {m : Proc σ ε α} {f : α → Proc σ ε β} {s : σ}
    (first : invariant (m s).2) (second : ∀ a, Keeps invariant (f a)) : invariant ((m >>= f) s).2 := by
  show invariant (Proc.bind m f s).2
  unfold Proc.bind
  rcases ran : m s with ⟨e | a,s'⟩
  · rw [ran] at first; exact first
  · rw [ran] at first; exact second a s' first

theorem keeps_forEach {invariant : σ → Prop} {items : List α} {body : α → Proc σ ε Unit}
    (kept : ∀ item ∈ items, Keeps invariant (body item)) : Keeps invariant (forEach items body) := by
  induction items with
  | nil => exact keeps_pure invariant ()
  | cons item rest ih =>
    exact keeps_seq (kept item (by simp)) (fun _ => ih (fun other member => kept other (by simp [member])))

/-! ### Conditions before and after -/

/-- From a state with `before`, the procedure returns to a state with `after` or
    raises in one with `raised`. -/
def Ensures (before : σ → Prop) (m : Proc σ ε α) (after : α → σ → Prop) (raised : σ → Prop) : Prop :=
  ∀ s, before s → (∀ a s', m s = (.ok a,s') → after a s') ∧ (∀ e s', m s = (.error e,s') → raised s')

section
variable {before : σ → Prop} {raised : σ → Prop}

theorem ensures_pure {a : α} {after : α → σ → Prop} (holds : ∀ s, before s → after a s) :
    Ensures before (pure a : Proc σ ε α) after raised := by
  intro s initial
  refine ⟨?_,?_⟩
  · intro b s' ran
    obtain ⟨rfl,rfl⟩ := pure_returns.mp ran
    exact holds s initial
  · intro e s' ran; simp [pure_run] at ran

theorem ensures_lift {m : Except ε α} {after : α → σ → Prop} (holds : ∀ s a, before s → m = .ok a → after a s)
    (fails : ∀ s, before s → raised s) : Ensures before (lift m : Proc σ ε α) after raised := by
  intro s initial
  refine ⟨?_,?_⟩
  · intro a s' ran
    obtain ⟨returned,rfl⟩ := lift_returns.mp ran
    exact holds s a initial returned
  · intro e s' ran
    simp only [lift_run,Prod.mk.injEq] at ran
    exact ran.2 ▸ fails s initial

theorem ensures_bind {m : Proc σ ε α} {f : α → Proc σ ε β} {middle : α → σ → Prop} {after : β → σ → Prop}
    (first : Ensures before m middle raised) (second : ∀ a, Ensures (middle a) (f a) after raised) :
    Ensures before (m >>= f) after raised := by
  intro s initial
  obtain ⟨returns,raises⟩ := first s initial
  refine ⟨?_,?_⟩
  · intro b s' ran
    obtain ⟨a,state,ranFirst,ranSecond⟩ := bind_returns.mp ran
    exact (second a state (returns a state ranFirst)).1 b s' ranSecond
  · intro e s' ran
    have split : Proc.bind m f s = (.error e,s') := ran
    unfold Proc.bind at split
    rcases executed : m s with ⟨error | a,state⟩
    · rw [executed] at split
      cases split
      exact raises e s' executed
    · rw [executed] at split
      exact (second a state (returns a state executed)).2 e s' split

end

/-! ### Loops that return -/

theorem forEach_nil_returns {body : α → Proc σ ε Unit} {u : Unit} {s s' : σ} :
    forEach [] body s = (.ok u,s') ↔ s = s' := by
  simp [forEach,Proc.pure]

theorem forEach_cons_returns {item : α} {rest : List α} {body : α → Proc σ ε Unit} {u : Unit} {s s' : σ} :
    forEach (item :: rest) body s = (.ok u,s') ↔
      ∃ middle, body item s = (.ok (),middle) ∧ forEach rest body middle = (.ok u,s') := by
  show (body item >>= fun _ => forEach rest body) s = (.ok u,s') ↔ _
  rw [bind_returns]
  exact ⟨fun ⟨_,middle,ran,later⟩ => ⟨middle,ran,later⟩,fun ⟨middle,ran,later⟩ => ⟨(),middle,ran,later⟩⟩

/-- What holds before the loop, relative to the elements done, and is kept by
    each iteration that returns holds after a loop that returns. -/
theorem forEach_invariant {items : List α} {body : α → Proc σ ε Unit} (invariant : List α → σ → Prop)
    (step : ∀ done item rest s s', items = done ++ item :: rest → invariant done s → body item s = (.ok (),s') →
      invariant (done ++ [item]) s')
    {u : Unit} {s s' : σ} (initial : invariant [] s) (ran : forEach items body s = (.ok u,s')) :
    invariant items s' := by
  suffices general : ∀ (rest done : List α) (state : σ), items = done ++ rest → invariant done state →
      forEach rest body state = (.ok u,s') → invariant (done ++ rest) s' by
    simpa using general items [] s rfl initial ran
  intro rest
  induction rest with
  | nil =>
    intro done state _ holds ended
    rw [forEach_nil_returns] at ended
    simpa [← ended] using holds
  | cons item rest ih =>
    intro done state split holds ran
    obtain ⟨middle,stepped,later⟩ := forEach_cons_returns.mp ran
    have next := step done item rest state middle split holds stepped
    simpa using ih (done ++ [item]) middle (by simp [split]) next later

/-! ### Conditions on every outcome -/

/-- The outcome meets `after` when it is a return, and `raised` when it is not. -/
def Met (after : α → σ → Prop) (raised : ε → σ → Prop) : Except ε α × σ → Prop
  | (.ok a,s) => after a s
  | (.error e,s) => raised e s

/-- From a state with `before`, the procedure meets one of the two conditions. -/
def Meets (before : σ → Prop) (m : Proc σ ε α) (after : α → σ → Prop) (raised : ε → σ → Prop) : Prop :=
  ∀ s, before s → Met after raised (m s)

section
variable {before : σ → Prop} {raised : ε → σ → Prop}

theorem met_returned {after : α → σ → Prop} {r : Except ε α × σ} {a : α} {s : σ} (met : Met after raised r)
    (ran : r = (.ok a,s)) : after a s := by
  subst ran
  exact met

theorem met_raised {after : α → σ → Prop} {r : Except ε α × σ} {e : ε} {s : σ} (met : Met after raised r)
    (ran : r = (.error e,s)) : raised e s := by
  subst ran
  exact met

/-- A procedure whose returns and whose errors are known meets what they give. -/
theorem met_of_outcomes {m : Proc σ ε α} {s : σ} {after : α → σ → Prop}
    (returns : ∀ a s', m s = (.ok a,s') → after a s')
    (raises : ∀ e s', m s = (.error e,s') → raised e s') : Met after raised (m s) := by
  rcases ran : m s with ⟨e | a,s'⟩
  · exact raises e s' ran
  · exact returns a s' ran

theorem met_bind {m : Proc σ ε α} {f : α → Proc σ ε β} {s : σ} {middle : α → σ → Prop} {after : β → σ → Prop}
    (first : Met middle raised (m s)) (second : ∀ a s', middle a s' → Met after raised (f a s')) :
    Met after raised ((m >>= f) s) := by
  show Met after raised (Proc.bind m f s)
  unfold Proc.bind
  rcases ran : m s with ⟨e | a,s'⟩
  · rw [ran] at first
    exact first
  · rw [ran] at first
    exact second a s' first

theorem met_weaken {after weaker : α → σ → Prop} {failed : ε → σ → Prop} {r : Except ε α × σ} (met : Met after failed r)
    (post : ∀ a s, after a s → weaker a s) (lost : ∀ e s, failed e s → raised e s) : Met weaker raised r := by
  rcases r with ⟨e | a,s⟩
  · exact lost e s met
  · exact post a s met

theorem meets_bind {m : Proc σ ε α} {f : α → Proc σ ε β} {middle : α → σ → Prop} {after : β → σ → Prop}
    (first : Meets before m middle raised) (second : ∀ a, Meets (middle a) (f a) after raised) :
    Meets before (m >>= f) after raised := fun s initial => met_bind (first s initial) second

/-- A loop keeps the invariant up to the iteration that raises. -/
theorem meets_forEach {items : List α} {body : α → Proc σ ε Unit} (invariant : List α → σ → Prop)
    (step : ∀ done item rest, items = done ++ item :: rest →
      Meets (invariant done) (body item) (fun _ => invariant (done ++ [item])) raised) :
    Meets (invariant []) (forEach items body) (fun _ => invariant items) raised := by
  suffices general : ∀ rest done, items = done ++ rest →
      Meets (invariant done) (forEach rest body) (fun _ => invariant items) raised from general items [] rfl
  intro rest
  induction rest with
  | nil =>
    intro done split s holds
    rw [List.append_nil] at split
    rw [split]
    exact holds
  | cons item rest ih =>
    intro done split
    exact meets_bind (step done item rest split) (fun _ => ih (done ++ [item]) (by simp [split]))

end

/-! ### Execution of one step -/

theorem bind_run_ok {m : Proc σ ε α} {f : α → Proc σ ε β} {a : α} {s s' : σ} (ran : m s = (.ok a,s')) :
    (m >>= f) s = f a s' := by
  show Proc.bind m f s = _
  unfold Proc.bind
  rw [ran]

theorem bind_run_error {m : Proc σ ε α} {f : α → Proc σ ε β} {e : ε} {s s' : σ} (ran : m s = (.error e,s')) :
    (m >>= f) s = (.error e,s') := by
  show Proc.bind m f s = _
  unfold Proc.bind
  rw [ran]

theorem bind_lift_ok {m : Except ε α} {f : α → Proc σ ε β} {a : α} {s : σ} (ran : m = .ok a) :
    (lift m >>= f) s = f a s := bind_run_ok (by rw [lift_run,ran])

theorem bind_lift_error {m : Except ε α} {f : α → Proc σ ε β} {e : ε} {s : σ} (ran : m = .error e) :
    (lift m >>= f) s = (.error e,s) := bind_run_error (by rw [lift_run,ran])

theorem lift_bind {γ : Type} {m : Except ε α} {f : α → Except ε β} {g : β → Proc σ ε γ} :
    (lift (m >>= f) >>= g) = (lift m >>= fun a => lift (f a) >>= g) := by
  funext s
  cases m <;> rfl

theorem lift_pure_bind {a : α} {g : α → Proc σ ε β} : (lift (pure a) >>= g) = g a := rfl

/-- A computation decides whether the procedure goes on. -/
theorem met_lift {m : Except ε α} {f : α → Proc σ ε β} {s : σ} {after : β → σ → Prop} {raised : ε → σ → Prop}
    (returns : ∀ a, m = .ok a → Met after raised (f a s)) (raises : ∀ e, m = .error e → raised e s) :
    Met after raised ((lift m >>= f) s) := by
  cases ran : m with
  | error e => exact raises e ran
  | ok a => exact returns a ran

theorem bind_modify {f : σ → σ} {g : Unit → Proc σ ε β} {s : σ} : (modify f >>= g) s = g () (f s) := bind_run_ok rfl

theorem bind_read {f : σ → Proc σ ε β} {s : σ} : (read >>= f) s = f s s := bind_run_ok rfl

/-! ### Procedures that return -/

/-- From every state the procedure returns. -/
def Total (m : Proc σ ε α) : Prop := ∀ s, ∃ a s', m s = (.ok a,s')

theorem total_pure (a : α) : Total (pure a : Proc σ ε α) := fun s => ⟨a,s,rfl⟩

theorem total_modify (f : σ → σ) : Total (modify f : Proc σ ε Unit) := fun s => ⟨(),f s,rfl⟩

theorem total_bind {m : Proc σ ε α} {f : α → Proc σ ε β} (first : Total m) (second : ∀ a, Total (f a)) :
    Total (m >>= f) := by
  intro s
  obtain ⟨a,middle,ran⟩ := first s
  rw [bind_run_ok ran]
  exact second a middle

/-! ### Logs -/

section
variable {γ : Type} {log : σ → List γ}

/-- A procedure that returns has appended to the log, and what it appended goes
    with what it returned. -/
def Appends (log : σ → List γ) (m : Proc σ ε α) (after : α → List γ → Prop) : Prop :=
  ∀ s a s', m s = (.ok a,s') → ∃ more, log s' = log s ++ more ∧ after a more

theorem appends_pure {a : α} {after : α → List γ → Prop} (holds : after a []) :
    Appends log (pure a : Proc σ ε α) after := by
  intro s b s' ran
  obtain ⟨rfl,rfl⟩ := pure_returns.mp ran
  exact ⟨[],(List.append_nil _).symm,holds⟩

/-- A sequence appends what its parts do, one after the other. -/
theorem appends_bind {m : Proc σ ε α} {f : α → Proc σ ε β} {first : α → List γ → Prop} {after : β → List γ → Prop}
    (ahead : Appends log m first)
    (behind : ∀ a before, first a before → Appends log (f a) (fun b more => after b (before ++ more))) :
    Appends log (m >>= f) after := by
  intro s b s' ran
  obtain ⟨a,middle,ranFirst,ranSecond⟩ := bind_returns.mp ran
  obtain ⟨before,logged,holds⟩ := ahead s a middle ranFirst
  obtain ⟨more,loggedMore,later⟩ := behind a before holds middle b s' ranSecond
  exact ⟨before ++ more,by rw [loggedMore,logged,List.append_assoc],later⟩

theorem appends_weaken {m : Proc σ ε α} {after weaker : α → List γ → Prop} (appends : Appends log m after)
    (weaken : ∀ a more, after a more → weaker a more) : Appends log m weaker := by
  intro s a s' ran
  obtain ⟨more,logged,holds⟩ := appends s a s' ran
  exact ⟨more,logged,weaken a more holds⟩

end

/-! ### Two views of one procedure -/

section
variable {τ : Type} {view : σ → τ}

/-- The second procedure does on the view of a state what the first does on the
    state. -/
def Simulates (view : σ → τ) (m : Proc σ ε α) (n : Proc τ ε α) : Prop := ∀ s, n (view s) = ((m s).1,view (m s).2)

theorem simulates_pure (a : α) : Simulates view (pure a : Proc σ ε α) (pure a) := fun _ => rfl

theorem simulates_bind {m : Proc σ ε α} {n : Proc τ ε α} {f : α → Proc σ ε β} {g : α → Proc τ ε β}
    (first : Simulates view m n) (second : ∀ a, Simulates view (f a) (g a)) : Simulates view (m >>= f) (n >>= g) := by
  intro s
  have stepped := first s
  rcases ran : m s with ⟨e | a,s'⟩
  · rw [ran] at stepped
    rw [bind_run_error ran,bind_run_error stepped]
  · rw [ran] at stepped
    rw [bind_run_ok ran,bind_run_ok stepped]
    exact second a s'

end

end V3Aidlc.Effects
