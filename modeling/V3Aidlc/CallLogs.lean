import V3Aidlc.Effects

/-!
Procedures over a log of their calls to the outside. What answers a call may look at the whole log,
so that nothing is assumed of the outside; a discipline says which calls may follow which log, and
it holds along a procedure when it holds at each of its calls (`keeps_call`, `kept_snoc`).
-/
namespace V3Aidlc.CallLogs
open V3Aidlc.Effects

variable {γ ε α : Type}

/-- A call: its answer depends on what was called before. -/
def call (answer : List γ → γ → Except ε α) (made : γ) : Proc (List γ) ε α :=
  fun log => (answer log made,log ++ [made])

theorem call_returns {answer : List γ → γ → Except ε α} {made : γ} {log log' : List γ} {a : α} :
    call answer made log = (.ok a,log') ↔ answer log made = .ok a ∧ log' = log ++ [made] := by
  simp [call,eq_comm]

/-- Every call since the start was permitted where it stands. -/
def Kept (permitted : List γ → γ → Prop) (start log : List γ) : Prop :=
  start <+: log ∧ ∀ before made, before ++ [made] <+: log → start.length ≤ before.length → permitted before made

variable {permitted : List γ → γ → Prop} {start log : List γ}

theorem kept_refl (permitted : List γ → γ → Prop) (start : List γ) : Kept permitted start start := by
  refine ⟨List.prefix_rfl,fun before made inside long => ?_⟩
  have short := inside.length_le
  simp only [List.length_append,List.length_singleton] at short
  omega

theorem kept_snoc {made : γ} (kept : Kept permitted start log) (fine : permitted log made) :
    Kept permitted start (log ++ [made]) := by
  obtain ⟨started,earlier⟩ := kept
  refine ⟨started.trans (List.prefix_append ..),fun before other inside long => ?_⟩
  rcases List.prefix_concat_iff.mp inside with whole | front
  · obtain ⟨rfl,last⟩ := List.append_inj' whole rfl
    obtain rfl : other = made := by simpa using last
    exact fine
  · exact earlier before other front long

theorem keeps_call (answer : List γ → γ → Except ε α) {made : γ} (fine : ∀ log, permitted log made) :
    Keeps (Kept permitted start) (call answer made) := fun log kept => kept_snoc kept (fine log)

variable {β : Type}

/-- A check that passes, and then the rest. -/
theorem kept_check {m : Except ε α} {f : α → Proc (List γ) ε β} (kept : Kept permitted start log)
    (later : ∀ a, m = .ok a → Kept permitted start (f a log).2) : Kept permitted start ((Proc.lift m >>= f) log).2 := by
  cases m with
  | error e => exact kept
  | ok a => exact later a rfl

/-- A call that is answered, and then the rest. -/
theorem kept_bind {answer : List γ → γ → Except ε α} {made : γ} {f : α → Proc (List γ) ε β}
    (kept : Kept permitted start log) (fine : permitted log made)
    (later : ∀ a, answer log made = .ok a → Kept permitted start (log ++ [made]) →
      Kept permitted start (f a (log ++ [made])).2) : Kept permitted start ((call answer made >>= f) log).2 := by
  have made_fine := kept_snoc kept fine
  cases answered : answer log made with
  | error e =>
    have ran : call answer made log = (.error e,log ++ [made]) := by rw [call,answered]
    rw [bind_run_error ran]
    exact made_fine
  | ok a =>
    rw [bind_run_ok (call_returns.mpr ⟨answered,rfl⟩)]
    exact later a answered made_fine

end V3Aidlc.CallLogs
