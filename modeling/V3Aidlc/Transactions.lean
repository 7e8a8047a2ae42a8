import V3Aidlc.Loops
import Mathlib.Logic.Function.Basic
import Mathlib.Logic.Relation
import Mathlib.Data.List.Nodup

/-!
Optimistic transactions over one locked record. A transaction reads the stored
state once, without a lock, and from what it saw decides which statements to run;
the first of them takes the lock, each sees what the ones before it wrote, and
the commit stores the result. A transaction may fail at any moment, and what it
wrote is then gone.

When a transaction whose statements go through would still read what it read
(`Optimistic`), every interleaving of any number of them leaves what the ones that
committed leave when they run alone, one after another, in the order of their
commits (`serializable`).
-/
namespace V3Aidlc.Transactions
open V3Aidlc.Loops

section
variable {ι σ ε : Type}

def execute (statements : List (σ → Except ε σ)) (s : σ) : Except ε σ :=
  statements.foldlM (fun view statement => statement view) s

/-- A transaction that runs alone. -/
def serial (read : σ → Except ε (List (σ → Except ε σ))) (s : σ) : Except ε σ :=
  read s >>= fun statements => execute statements s

theorem serial_ok {read : σ → Except ε (List (σ → Except ε σ))} {s s' : σ} :
    serial read s = .ok s' ↔ ∃ statements, read s = .ok statements ∧ execute statements s = .ok s' := by
  unfold serial
  rw [bind_ok_iff]

theorem execute_nil {s s' : σ} : execute ([] : List (σ → Except ε σ)) s = .ok s' ↔ s = s' := foldlM_nil_ok

theorem execute_cons {statement : σ → Except ε σ} {rest : List (σ → Except ε σ)} {s s' : σ} :
    execute (statement :: rest) s = .ok s' ↔ ∃ view, statement s = .ok view ∧ execute rest view = .ok s' :=
  foldlM_cons_ok

theorem execute_snoc {done : List (σ → Except ε σ)} {statement : σ → Except ε σ} {s s' : σ} :
    execute (done ++ [statement]) s = .ok s' ↔ ∃ view, execute done s = .ok view ∧ statement view = .ok s' :=
  foldlM_snoc_ok

inductive Phase (σ ε : Type) where
  | waiting
  | ready (statements : List (σ → Except ε σ))
  | writing (view : σ) (rest : List (σ → Except ε σ))
  | committed
  | failed

/-- The stored state, and how far each transaction is. -/
structure System (ι σ ε : Type) where
  stored : σ
  phase : ι → Phase σ ε

def start (initial : σ) : System ι σ ε := ⟨initial,fun _ => .waiting⟩

variable [DecidableEq ι]

def System.enter (system : System ι σ ε) (i : ι) (phase : Phase σ ε) : System ι σ ε :=
  { system with phase := Function.update system.phase i phase }

/-- Nobody holds the lock. -/
def System.Free (system : System ι σ ε) : Prop := ∀ i view rest, system.phase i ≠ .writing view rest

/-- One step of one transaction. A statement that could be seen to fail without
    the lock is a failure like any other. -/
inductive Step (read : ι → σ → Except ε (List (σ → Except ε σ))) : System ι σ ε → System ι σ ε → Prop where
  | reads {system : System ι σ ε} {i : ι} {statements : List (σ → Except ε σ)} (waits : system.phase i = .waiting)
      (saw : read i system.stored = .ok statements) : Step read system (system.enter i (.ready statements))
  | refuses {system : System ι σ ε} {i : ι} {error : ε} (waits : system.phase i = .waiting)
      (saw : read i system.stored = .error error) : Step read system (system.enter i .failed)
  | locks {system : System ι σ ε} {i : ι} {statements : List (σ → Except ε σ)}
      (decided : system.phase i = .ready statements) (free : system.Free) :
      Step read system (system.enter i (.writing system.stored statements))
  | writes {system : System ι σ ε} {i : ι} {view next : σ} {statement : σ → Except ε σ}
      {rest : List (σ → Except ε σ)} (holds : system.phase i = .writing view (statement :: rest))
      (wrote : statement view = .ok next) : Step read system (system.enter i (.writing next rest))
  | throws {system : System ι σ ε} {i : ι} {view : σ} {error : ε} {statement : σ → Except ε σ}
      {rest : List (σ → Except ε σ)} (holds : system.phase i = .writing view (statement :: rest))
      (threw : statement view = .error error) : Step read system (system.enter i .failed)
  | commits {system : System ι σ ε} {i : ι} {view : σ} (wrote : system.phase i = .writing view []) :
      Step read system { system.enter i .committed with stored := view }
  | aborts {system : System ι σ ε} {i : ι} (unfinished : system.phase i ≠ .committed) :
      Step read system (system.enter i .failed)

/-- Any number of steps, in any order. -/
def Steps (read : ι → σ → Except ε (List (σ → Except ε σ))) : System ι σ ε → System ι σ ε → Prop :=
  Relation.ReflTransGen (Step read)

def Reached (read : ι → σ → Except ε (List (σ → Except ε σ))) (initial : σ) (system : System ι σ ε) : Prop :=
  Steps read (start initial) system

end

section
variable {ι σ ε : Type}

/-- Some transactions, each running alone, lead from one state to the other. -/
def Later (read : ι → σ → Except ε (List (σ → Except ε σ))) : σ → σ → Prop :=
  Relation.ReflTransGen (fun s s' => ∃ i, serial (read i) s = .ok s')

/-- A transaction whose statements still go through would still read what it
    read. -/
def Optimistic (read : ι → σ → Except ε (List (σ → Except ε σ))) (initial : σ) : Prop :=
  ∀ (i : ι) (seen s s' : σ) (statements : List (σ → Except ε σ)), Later read initial seen → Later read seen s →
    read i seen = .ok statements → execute statements s = .ok s' → read i s = .ok statements

variable {read : ι → σ → Except ε (List (σ → Except ε σ))} {initial : σ}

theorem later_refl (s : σ) : Later read s s := Relation.ReflTransGen.refl

theorem later_step {s s' s'' : σ} {i : ι} (before : Later read s s') (ran : serial (read i) s' = .ok s'') :
    Later read s s'' := Relation.ReflTransGen.tail before ⟨i,ran⟩

/-- What each transaction running alone keeps holds of every later state. -/
theorem later_keeps {kept : σ → Prop} (step : ∀ i s s', kept s → serial (read i) s = .ok s' → kept s') {s s' : σ}
    (later : Later read s s') (holds : kept s) : kept s' := by
  induction later with
  | refl => exact holds
  | tail _ ran ih =>
    obtain ⟨i,ran⟩ := ran
    exact step i _ _ ih ran

/-- A version that every transaction raises guards the read: statements that go
    through only at the version that was read find the state that was read. -/
theorem optimistic_of_version (version : σ → Nat)
    (raises : ∀ i s s', Later read initial s → serial (read i) s = .ok s' → version s < version s')
    (guards : ∀ i seen s s' statements, Later read initial seen → Later read seen s → read i seen = .ok statements →
      execute statements s = .ok s' → version s = version seen) : Optimistic read initial := by
  intro i seen s s' statements reached later saw ran
  have moved : ∀ s, Later read seen s → s = seen ∨ version seen < version s := by
    intro s later
    induction later with
    | refl => exact .inl rfl
    | tail before ran ih =>
      obtain ⟨j,ran⟩ := ran
      have raised := raises j _ _ (reached.trans before) ran
      rcases ih with same | higher
      · exact .inr (same ▸ raised)
      · exact .inr (by omega)
  rcases moved s later with rfl | higher
  · exact saw
  · have same := guards i seen s s' statements reached later saw ran
    omega

/-! ### Every interleaving has a serial order -/

variable [DecidableEq ι]

/-- The committed transactions, in the order of their commits, lead alone to the
    stored state; each open one has read a state on the way. -/
structure Ordered (read : ι → σ → Except ε (List (σ → Except ε σ))) (initial : σ) (system : System ι σ ε)
    (order : List ι) : Prop where
  distinct : order.Nodup
  members : ∀ i, i ∈ order ↔ system.phase i = .committed
  ran : order.foldlM (fun s i => serial (read i) s) initial = .ok system.stored
  later : Later read initial system.stored
  decided : ∀ i statements, system.phase i = .ready statements →
    ∃ seen, Later read initial seen ∧ Later read seen system.stored ∧ read i seen = .ok statements
  written : ∀ i view rest, system.phase i = .writing view rest →
    ∃ seen done, Later read initial seen ∧ Later read seen system.stored ∧ read i seen = .ok (done ++ rest) ∧
      execute done system.stored = .ok view
  alone : ∀ i j view rest view' rest', system.phase i = .writing view rest → system.phase j = .writing view' rest' →
    i = j

omit [DecidableEq ι] in
theorem ordered_start : Ordered read initial (start initial) [] where
  distinct := List.nodup_nil
  members i := by simp [start]
  ran := rfl
  later := later_refl initial
  decided i statements decided := by cases decided
  written i view rest written := by cases written
  alone i j view rest view' rest' first := by cases first

theorem enter_phase (system : System ι σ ε) (i j : ι) (phase : Phase σ ε) :
    (system.enter i phase).phase j = if j = i then phase else system.phase j := by
  simp [System.enter,Function.update_apply]

/-- A phase that is not a commit, and that has read and written what its
    transaction says, keeps the order. -/
theorem ordered_enter {system : System ι σ ε} {order : List ι} (ordered : Ordered read initial system order) {i : ι}
    {phase : Phase σ ε} (unfinished : system.phase i ≠ .committed) (uncommitted : phase ≠ .committed)
    (decided : ∀ statements, phase = .ready statements →
      ∃ seen, Later read initial seen ∧ Later read seen system.stored ∧ read i seen = .ok statements)
    (written : ∀ view rest, phase = .writing view rest →
      ∃ seen done, Later read initial seen ∧ Later read seen system.stored ∧ read i seen = .ok (done ++ rest) ∧
        execute done system.stored = .ok view)
    (alone : ∀ view rest, phase = .writing view rest → ∀ j, j ≠ i →
      ∀ view' rest', system.phase j ≠ .writing view' rest') :
    Ordered read initial (system.enter i phase) order where
  distinct := ordered.distinct
  members j := by
    rw [enter_phase,ordered.members j]
    by_cases same : j = i
    · subst same
      simp [unfinished,uncommitted]
    · simp [same]
  ran := ordered.ran
  later := ordered.later
  decided j statements isReady := by
    rw [enter_phase] at isReady
    split at isReady
    · rename_i same
      exact same ▸ decided statements isReady
    · exact ordered.decided j statements isReady
  written j view rest isWriting := by
    rw [enter_phase] at isWriting
    split at isWriting
    · rename_i same
      exact same ▸ written view rest isWriting
    · exact ordered.written j view rest isWriting
  alone j k view rest view' rest' first second := by
    rw [enter_phase] at first second
    split at first <;> split at second
    · rename_i sameJ sameK
      exact sameJ.trans sameK.symm
    · rename_i other
      exact absurd second (alone view rest first k other view' rest')
    · rename_i other _
      exact absurd first (alone view' rest' second j other view rest)
    · exact ordered.alone j k view rest view' rest' first second

/-- A transaction may fail at any moment before its commit. -/
theorem ordered_fail {system : System ι σ ε} {order : List ι} (ordered : Ordered read initial system order) {i : ι}
    (unfinished : system.phase i ≠ .committed) : Ordered read initial (system.enter i .failed) order :=
  ordered_enter ordered unfinished (by simp) (by simp) (by simp) (by simp)

/-- A commit appends its transaction: nobody else was writing, so it wrote on
    the stored state, and it would still read what it read. -/
theorem ordered_commit {system : System ι σ ε} {order : List ι} (optimistic : Optimistic read initial)
    (ordered : Ordered read initial system order) {i : ι} {view : σ} (wrote : system.phase i = .writing view []) :
    Ordered read initial { system.enter i .committed with stored := view } (order ++ [i]) := by
  obtain ⟨seen,done,reached,since,saw,executed⟩ := ordered.written i view [] wrote
  rw [List.append_nil] at saw
  have again : read i system.stored = .ok done := optimistic i seen _ view done reached since saw executed
  have alone : serial (read i) system.stored = .ok view := serial_ok.mpr ⟨done,again,executed⟩
  have others : ∀ j, j ≠ i → ∀ view' rest', system.phase j ≠ .writing view' rest' := by
    intro j other view' rest' holds
    exact other (ordered.alone j i view' rest' view [] holds wrote)
  refine { distinct := ?_, members := ?_, ran := ?_, later := ?_, decided := ?_, written := ?_, alone := ?_ }
  · rw [List.nodup_append]
    refine ⟨ordered.distinct,by simp,?_⟩
    rintro j member _ last rfl
    rw [List.mem_singleton.mp last,ordered.members,wrote] at member
    cases member
  · intro j
    show j ∈ order ++ [i] ↔ (system.enter i .committed).phase j = .committed
    rw [enter_phase,List.mem_append,ordered.members j,List.mem_singleton]
    by_cases same : j = i <;> simp [same]
  · exact foldlM_snoc_ok.mpr ⟨system.stored,ordered.ran,alone⟩
  · exact later_step ordered.later alone
  · intro j statements isReady
    have entered : (system.enter i .committed).phase j = .ready statements := isReady
    rw [enter_phase] at entered
    split at entered
    · cases entered
    · obtain ⟨seen,reached,since,saw⟩ := ordered.decided j statements entered
      exact ⟨seen,reached,later_step since alone,saw⟩
  · intro j view' rest' isWriting
    have entered : (system.enter i .committed).phase j = .writing view' rest' := isWriting
    rw [enter_phase] at entered
    split at entered
    · cases entered
    · rename_i other
      exact absurd entered (others j other view' rest')
  · intro j k view' rest' view'' rest'' first _
    have entered : (system.enter i .committed).phase j = .writing view' rest' := first
    rw [enter_phase] at entered
    split at entered
    · cases entered
    · rename_i other
      exact absurd entered (others j other view' rest')

/-- One step keeps the order or appends the transaction that commits. -/
theorem ordered_step {system next : System ι σ ε} {order : List ι} (optimistic : Optimistic read initial)
    (ordered : Ordered read initial system order) (step : Step read system next) :
    ∃ more, Ordered read initial next (order ++ more) := by
  have unchanged : ∀ {next : System ι σ ε}, Ordered read initial next order →
      ∃ more, Ordered read initial next (order ++ more) := fun kept => ⟨[],by rwa [List.append_nil]⟩
  cases step with
  | @reads i statements waits saw =>
    apply unchanged
    refine ordered_enter ordered (by simp [waits]) (by simp) ?_ (by simp) (by simp)
    rintro _ ⟨⟩
    exact ⟨system.stored,ordered.later,later_refl _,saw⟩
  | refuses waits _ => exact unchanged (ordered_fail ordered (by simp [waits]))
  | @locks i statements decided free =>
    apply unchanged
    refine ordered_enter ordered (by simp [decided]) (by simp) (by simp) ?_ ?_
    · rintro _ _ ⟨⟩
      obtain ⟨seen,reached,since,saw⟩ := ordered.decided i statements decided
      exact ⟨seen,[],reached,since,saw,rfl⟩
    · intro _ _ _ j _
      exact free j
  | @writes i view after statement rest holds wrote =>
    apply unchanged
    refine ordered_enter ordered (by simp [holds]) (by simp) (by simp) ?_ ?_
    · rintro _ _ ⟨⟩
      obtain ⟨seen,done,reached,since,saw,executed⟩ := ordered.written i view _ holds
      refine ⟨seen,done ++ [statement],reached,since,by simpa using saw,?_⟩
      exact execute_snoc.mpr ⟨view,executed,wrote⟩
    · intro _ _ _ j other view' rest' holds'
      exact other (ordered.alone j i _ _ _ _ holds' holds)
  | throws holds _ => exact unchanged (ordered_fail ordered (by simp [holds]))
  | @commits i view wrote => exact ⟨[i],ordered_commit optimistic ordered wrote⟩
  | aborts unfinished => exact unchanged (ordered_fail ordered unfinished)

/-- Any further steps only append to the order. -/
theorem ordered_steps {system next : System ι σ ε} {order : List ι} (optimistic : Optimistic read initial)
    (ordered : Ordered read initial system order) (steps : Steps read system next) :
    ∃ more, Ordered read initial next (order ++ more) := by
  induction steps with
  | refl => exact ⟨[],by rwa [List.append_nil]⟩
  | tail _ step ih =>
    obtain ⟨more,before⟩ := ih
    obtain ⟨last,after⟩ := ordered_step optimistic before step
    exact ⟨more ++ last,by rwa [← List.append_assoc]⟩

omit [DecidableEq ι] in
/-- What was appended leads, alone, from the one stored state to the other. -/
theorem ordered_more {system next : System ι σ ε} {order more : List ι} (before : Ordered read initial system order)
    (after : Ordered read initial next (order ++ more)) :
    more.foldlM (fun s i => serial (read i) s) system.stored = .ok next.stored := by
  have ran := after.ran
  rw [List.foldlM_append,before.ran] at ran
  exact ran

/-- Every interleaving leaves what its committed transactions leave alone, one
    after another. -/
theorem serializable {system : System ι σ ε} (optimistic : Optimistic read initial)
    (reached : Reached read initial system) : ∃ order, Ordered read initial system order := by
  obtain ⟨order,ordered⟩ := ordered_steps optimistic ordered_start reached
  exact ⟨[] ++ order,ordered⟩

end

end V3Aidlc.Transactions
