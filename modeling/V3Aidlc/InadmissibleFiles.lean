import V3Aidlc.InvestigationBudgets
import V3Aidlc.StableSorts

/-!
Investigations of repositories with files that cannot be read as texts. A file that `readTextFile`
rejects is passed over where its size at the inspection or the room left rules it out; where the
loop reads it, the whole investigation fails (`tolerates_iff`).
-/
namespace V3Aidlc.InadmissibleFiles
open V3Aidlc.Loops V3Aidlc.Turns V3Aidlc.StableSorts V3Aidlc.RepositoryInspection V3Aidlc.Investigations
open V3Aidlc.InvestigationBudgets
open V3Aidlc.Decisions (trim)
open V3Aidlc.ProjectLead (JsNumber)

/-! ### Rejected files -/

/-- `localeCompare` orders all texts, perhaps with texts that compare as equal. -/
structure Consistent (localeCompare : String → String → Int) : Prop where
  total : ∀ a b, localeCompare a b ≤ 0 ∨ localeCompare b a ≤ 0
  trans : ∀ a b c, localeCompare a b ≤ 0 → localeCompare b c ≤ 0 → localeCompare a c ≤ 0

/-- `readTextFile` rejects the path. -/
def rejects (later : Host) (budget : ContextBudget) (path : String) : Bool :=
  match readTextFile later path budget.maxBytesPerFile with
  | .ok _ => false
  | .error _ => true

/-- The snapshot in which the files with these paths are not tracked. -/
def without (rejected : String → Bool) (snapshot : RepositorySnapshot) : RepositorySnapshot :=
  { snapshot with
    instructions := snapshot.instructions.filter (fun path => !rejected path)
    files := snapshot.files.filter (fun file => !rejected file.path) }

/-- The report has no rejected file, and what it would have were they not tracked. -/
structure LeavesOut (host later : Host) (task : String) (budget : ContextBudget) (snapshot : RepositorySnapshot)
    (report : InvestigationReport) : Prop where
  admissible : ∀ file ∈ report.relevantFiles, rejects later budget file.path = false
  untracked : ∃ other, investigate_snapshot host later (without (rejects later budget) snapshot) task budget =
    .ok other ∧
    other.relevantFiles = report.relevantFiles ∧ other.contextBytes = report.contextBytes ∧
    report.excludedFileCount = other.excludedFileCount +
      (snapshot.files.filter (fun file => rejects later budget file.path)).length

theorem rejects_eq_false {later : Host} {budget : ContextBudget} {path : String} :
    rejects later budget path = false ↔ ∃ read, readTextFile later path budget.maxBytesPerFile = .ok read := by
  unfold rejects
  cases readTextFile later path budget.maxBytesPerFile <;> simp

section
variable {host later : Host} {snapshot : RepositorySnapshot} {taskTokens : List String} {budget : ContextBudget}
  {rejected : String → Bool}

theorem contains_without {path : String} (admissible : rejected path = false) :
    (without rejected snapshot).instructions.contains path = snapshot.instructions.contains path := by
  rw [Bool.eq_iff_iff,List.contains_iff_mem,List.contains_iff_mem]
  show path ∈ snapshot.instructions.filter _ ↔ _
  rw [List.mem_filter]
  simp [admissible]

theorem rank_without {file : RepositoryFile} (admissible : rejected file.path = false) :
    rank file taskTokens (without rejected snapshot).instructions = rank file taskTokens snapshot.instructions := by
  unfold rank
  rw [contains_without admissible]

theorem reason_without {file : RepositoryFile} (admissible : rejected file.path = false) :
    reason (without rejected snapshot) taskTokens file = reason snapshot taskTokens file := by
  unfold reason
  rw [contains_without admissible]

theorem comes_first_total (consistent : Consistent host.localeCompare) (a b : RepositoryFile × Nat) :
    (comes_first host a b || comes_first host b a) = true := by
  unfold comes_first
  rcases Nat.lt_trichotomy a.2 b.2 with less | same | more
  · simp [less.ne,less.ne',less]
  · simpa [same] using consistent.total a.1.path b.1.path
  · simp [more.ne,more.ne',more]

theorem comes_first_trans (consistent : Consistent host.localeCompare) (a b c : RepositoryFile × Nat)
    (first : comes_first host a b = true) (second : comes_first host b c = true) : comes_first host a c = true := by
  unfold comes_first at first second ⊢
  split at first <;> split at second
  · rename_i ab bc
    rw [if_pos (ab.trans bc)]
    simp only [decide_eq_true_eq] at first second ⊢
    exact consistent.trans _ _ _ first second
  · rename_i ab bc
    have less := of_decide_eq_true second
    rw [if_neg (by omega)]
    exact decide_eq_true (by omega)
  · rename_i ab bc
    have less := of_decide_eq_true first
    rw [if_neg (by omega)]
    exact decide_eq_true (by omega)
  · have less := of_decide_eq_true first
    have least := of_decide_eq_true second
    rw [if_neg (by omega)]
    exact decide_eq_true (by omega)

/-- Without some files, the others are ranked as before. -/
theorem ranked_without (consistent : Consistent host.localeCompare) :
    ranked host (without rejected snapshot) taskTokens =
      (ranked host snapshot taskTokens).filter (fun entry => !rejected entry.1.path) := by
  unfold ranked
  rw [filter_mergeSort (comes_first_trans consistent) (comes_first_total consistent),List.filter_filter]
  have entries : (without rejected snapshot).files.map (fun file =>
      (file,rank file taskTokens (without rejected snapshot).instructions)) =
      (snapshot.files.map (fun file => (file,rank file taskTokens snapshot.instructions))).filter
        (fun entry => !rejected entry.1.path) := by
    rw [List.filter_map]
    refine List.map_congr_left (fun file member => ?_)
    have admissible : rejected file.path = false := by simpa using (List.mem_filter.mp member).2
    rw [rank_without admissible]
  rw [entries,List.filter_filter]
  refine congrArg (fun items => List.mergeSort items _) (List.filter_congr (fun entry _ => ?_))
  exact Bool.and_comm _ _

/-- A turn at another file is the same without the rejected ones. -/
theorem turn_without {state : Selection} {entry : RepositoryFile × Nat} (admissible : rejected entry.1.path = false) :
    turn later (without rejected snapshot) taskTokens budget state entry =
      turn later snapshot taskTokens budget state entry := by
  by_cases reads : Reads budget state entry
  · rw [turn_read reads,turn_read reads]
    unfold chosen
    rw [reason_without admissible]
  · rw [turn_unread reads,turn_unread reads]

end

section
variable {host later : Host} {snapshot : RepositorySnapshot} {task : String} {taskTokens : List String}
  {budget : ContextBudget} {entries : List (RepositoryFile × Nat)} {final : Selection}

/-- A valid call goes on to what follows the inspection. -/
theorem investigate_started (given_task : trim task ≠ "")
    (valid : (below_one budget.maxFiles || below_one budget.maxBytes || below_one budget.maxBytesPerFile) = false)
    (inspected : inspect host = .ok snapshot) :
    investigate_later host later task budget = investigate_snapshot host later snapshot task budget := by
  unfold investigate_later
  rw [inspected,valid]
  simp [given_task,raise_if,ok_bind]

theorem investigate_snapshot_ok {report : InvestigationReport} :
    investigate_snapshot host later snapshot task budget = .ok report ↔ ∃ final,
      (ranked host snapshot (tokens task)).foldlM (turn later snapshot (tokens task) budget) ([],0) = .ok final ∧
        report = reported snapshot task final.1 final.2 := by
  unfold investigate_snapshot
  rw [bind_ok_iff]
  refine exists_congr (fun final => and_congr ?_ ?_)
  · rw [← select_turns]
  · exact pure_ok_iff.trans eq_comm

/-- A turn returns where the file that it reads, if any, is not rejected. -/
theorem turn_returns_iff {state : Selection} {entry : RepositoryFile × Nat} :
    (∃ next, turn later snapshot taskTokens budget state entry = .ok next) ↔
      (Reads budget state entry → rejects later budget entry.1.path = false) := by
  by_cases reads : Reads budget state entry
  · rw [turn_read reads,rejects_eq_false]
    simp only [reads,true_implies]
    constructor
    · rintro ⟨next,stepped⟩
      obtain ⟨read,found,_⟩ := bind_ok_iff.mp stepped
      exact ⟨read,found⟩
    · rintro ⟨read,found⟩
      rw [found,ok_bind]
      split
      · exact ⟨_,rfl⟩
      · exact ⟨_,rfl⟩
  · exact ⟨fun _ reading => absurd reading reads,fun _ => ⟨state,turn_unread reads⟩⟩

/-- A loop that returns is the loop without the rejected files. -/
theorem foldlM_without (ran : entries.foldlM (turn later snapshot taskTokens budget) ([],0) = .ok final) :
    (entries.filter (fun entry => !rejects later budget entry.1.path)).foldlM
      (turn later (without (rejects later budget) snapshot) taskTokens budget) ([],0) = .ok final := by
  refine foldlM_filter (fun state entry _ kept => turn_without (by simpa using kept)) ?_ ran
  intro state entry comes left
  refine turn_unread (fun reads => ?_)
  have admissible := turn_returns_iff.mp (foldlM_returns_iff.mp ⟨final,ran⟩ state entry comes) reads
  rw [admissible] at left
  cases left

theorem excluded_without (rejected : String → Bool) (selected : List InvestigatedFile) (contextBytes : Nat) :
    (reported snapshot task selected contextBytes).excludedFileCount =
      (reported (without rejected snapshot) task selected contextBytes).excludedFileCount +
        (snapshot.files.filter (fun file => rejected file.path)).length := by
  have parts := (List.filter_append_perm (fun file => rejected file.path) snapshot.files).length_eq
  rw [List.length_append] at parts
  show ((snapshot.files.length : Int) - selected.length) =
    (((snapshot.files.filter (fun file => !rejected file.path)).length : Int) - selected.length) + _
  omega

/-- A report that was returned leaves out the rejected files. -/
theorem leaves_out (consistent : Consistent host.localeCompare) {report : InvestigationReport}
    (ran : investigate_snapshot host later snapshot task budget = .ok report) :
    LeavesOut host later task budget snapshot report := by
  obtain ⟨final,turns,rfl⟩ := investigate_snapshot_ok.mp ran
  refine ⟨?_,reported (without (rejects later budget) snapshot) task final.1 final.2,?_,rfl,rfl,excluded_without _ _ _⟩
  · exact select_invariant ((select_turns _ ([],0)).trans turns) (by simp)
      (fun entry _ read found => rejects_eq_false.mpr ⟨read,found⟩)
  · refine investigate_snapshot_ok.mpr ⟨final,?_,rfl⟩
    rw [ranked_without consistent]
    exact foldlM_without turns

end

/-- An investigation leaves out the files that `readTextFile` rejects, as if they were not tracked,
    exactly when it does not come to read one of them. -/
theorem tolerates_iff {host later : Host} {task : String} {budget : ContextBudget} {snapshot : RepositorySnapshot}
    (consistent : Consistent host.localeCompare) (given_task : trim task ≠ "")
    (valid : (below_one budget.maxFiles || below_one budget.maxBytes || below_one budget.maxBytesPerFile) = false)
    (inspected : inspect host = .ok snapshot) :
    (∃ report, investigate_later host later task budget = .ok report ∧
      LeavesOut host later task budget snapshot report) ↔
    ∀ state entry,
      ComesTo (turn later snapshot (tokens task) budget) ([],0) (ranked host snapshot (tokens task)) state entry →
        Reads budget state entry → rejects later budget entry.1.path = false := by
  rw [investigate_started given_task valid inspected]
  simp only [← @turn_returns_iff later snapshot (tokens task) budget]
  rw [← foldlM_returns_iff]
  constructor
  · rintro ⟨report,ran,_⟩
    obtain ⟨final,turns,_⟩ := investigate_snapshot_ok.mp ran
    exact ⟨final,turns⟩
  · rintro ⟨final,turns⟩
    have ran := investigate_snapshot_ok.mpr ⟨final,turns,rfl⟩
    exact ⟨_,ran,leaves_out consistent ran⟩

/-- A tracked file of two zero bytes, beside a limit of one byte. -/
theorem tolerates_iff_skipped : ∃ snapshot report,
    investigate_later (notes_host (stored [0,0])) (notes_host (stored [0,0])) "notes" byte_budget = .ok report ∧
      LeavesOut (notes_host (stored [0,0])) (notes_host (stored [0,0])) "notes" byte_budget snapshot report := by
  have inspected : (inspect (notes_host (stored [0,0]))).toOption.any (fun snapshot =>
      (ranked (notes_host (stored [0,0])) snapshot (tokens "notes")).all (fun entry =>
        exceeds entry.1.sizeBytes byte_budget.maxBytesPerFile)) = true := by decide +kernel
  obtain ⟨snapshot,snapped,large⟩ := returns_with inspected
  have consistent : Consistent (notes_host (stored [0,0])).localeCompare :=
    ⟨fun _ _ => .inl le_rfl,fun _ _ _ _ _ => le_rfl⟩
  refine ⟨snapshot,(tolerates_iff consistent (by decide) (by decide +kernel) snapped).mpr ?_⟩
  rintro state entry ⟨before,after,split,_⟩ reads
  have over_limit := List.all_eq_true.mp large entry (by rw [split]; simp)
  rw [reads.file_fits] at over_limit
  cases over_limit

/-- A tracked binary file that is read leaves no report. -/
theorem binary_file_aborts :
    rejects (notes_host (stored [0])) {} "notes.md" = true ∧
      (inspect (notes_host (stored [0]))).toOption.isSome = true ∧
      ∀ report, investigate_later (notes_host (stored [0])) (notes_host (stored [0])) "notes" {} ≠ .ok report := by
  refine ⟨by decide +kernel,by decide +kernel,fun report ran => ?_⟩
  have failed : (investigate_later (notes_host (stored [0])) (notes_host (stored [0])) "notes" {}).toOption.isNone =
      true := by
    decide +kernel
  rw [ran] at failed
  cases failed

end V3Aidlc.InadmissibleFiles
