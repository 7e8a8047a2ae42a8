import V3Aidlc.Investigations
import V3Aidlc.Turns
import V3Aidlc.Utf8
import Mathlib.Algebra.BigOperators.Group.List.Basic
import Mathlib.Algebra.Order.Ring.Rat

/-!
The budget of an investigation. Sizes on disk are compared with the limit of a file, and the size of
the decoded text with the whole budget alone; so a text that is longer than its bytes may pass the
limit of a file, and a limit of files with a fraction lets one more file in (`budgeted_iff`).
-/
namespace V3Aidlc.InvestigationBudgets
open V3Aidlc.Loops V3Aidlc.Turns V3Aidlc.FileTrees V3Aidlc.RepositoryInspection V3Aidlc.Investigations
open V3Aidlc.ProjectLead (JsNumber)

/-! ### Turns of the loop -/

abbrev Selection := List InvestigatedFile × Nat

section
variable {later : Host} {snapshot : RepositorySnapshot} {taskTokens : List String} {budget : ContextBudget}

/-- What is selected of an entry whose file was read. -/
def chosen (snapshot : RepositorySnapshot) (taskTokens : List String) (entry : RepositoryFile × Nat)
    (read : FileContent) : InvestigatedFile :=
  ⟨entry.1.path,entry.1.kind,entry.2,reason snapshot taskTokens entry.1,read.content,read.sizeBytes⟩

/-- The loop at one entry. -/
def turn (later : Host) (snapshot : RepositorySnapshot) (taskTokens : List String) (budget : ContextBudget)
    (state : Selection) (entry : RepositoryFile × Nat) : Except InspectionError Selection :=
  select later snapshot taskTokens budget [entry] state.1 state.2

/-- The file of the entry is read at its turn: there is room for a file, and its size at the
    inspection passes both limits. -/
structure Reads (budget : ContextBudget) (state : Selection) (entry : RepositoryFile × Nat) : Prop where
  room : reaches_limit state.1.length budget.maxFiles = false
  file_fits : exceeds entry.1.sizeBytes budget.maxBytesPerFile = false
  budget_fits : exceeds (state.2 + entry.1.sizeBytes) budget.maxBytes = false

theorem Reads.small {state : Selection} {entry : RepositoryFile × Nat} (reads : Reads budget state entry) :
    ¬ (exceeds entry.1.sizeBytes budget.maxBytesPerFile ||
      exceeds (state.2 + entry.1.sizeBytes) budget.maxBytes) = true := by
  rw [reads.file_fits,reads.budget_fits]
  decide

/-- An entry that is not read comes when there is no room, or is too large. -/
theorem unread_iff {state : Selection} {entry : RepositoryFile × Nat} : ¬ Reads budget state entry ↔
    reaches_limit state.1.length budget.maxFiles = true ∨ (exceeds entry.1.sizeBytes budget.maxBytesPerFile ||
      exceeds (state.2 + entry.1.sizeBytes) budget.maxBytes) = true := by
  rw [Bool.or_eq_true]
  constructor
  · intro unread
    by_contra fits
    simp only [not_or,Bool.not_eq_true] at fits
    exact unread ⟨fits.1,fits.2.1,fits.2.2⟩
  · rintro (full | large | large) reads
    · exact absurd (reads.room.symm.trans full) (by decide)
    · exact absurd (reads.file_fits.symm.trans large) (by decide)
    · exact absurd (reads.budget_fits.symm.trans large) (by decide)

theorem turn_unread {state : Selection} {entry : RepositoryFile × Nat} (unread : ¬ Reads budget state entry) :
    turn later snapshot taskTokens budget state entry = .ok state := by
  unfold turn select
  by_cases full : reaches_limit state.1.length budget.maxFiles = true
  · rw [if_pos full]
  · rw [if_neg full,if_pos ((unread_iff.mp unread).resolve_left full)]
    rfl

theorem turn_read {state : Selection} {entry : RepositoryFile × Nat} (reads : Reads budget state entry) :
    turn later snapshot taskTokens budget state entry = (do
      let read ← readTextFile later entry.1.path budget.maxBytesPerFile
      if exceeds (state.2 + read.sizeBytes) budget.maxBytes then .ok state
      else .ok (state.1 ++ [chosen snapshot taskTokens entry read],state.2 + read.sizeBytes)) := by
  unfold turn select
  rw [if_neg (Bool.eq_false_iff.mp reads.room),if_neg reads.small]
  rfl

/-- A turn leaves everything as it is, or adds the file that it has read. -/
theorem turn_ok_iff {state next : Selection} {entry : RepositoryFile × Nat} :
    turn later snapshot taskTokens budget state entry = .ok next ↔
      (¬ Reads budget state entry ∧ next = state) ∨
      (Reads budget state entry ∧ ∃ read, readTextFile later entry.1.path budget.maxBytesPerFile = .ok read ∧
        ((exceeds (state.2 + read.sizeBytes) budget.maxBytes = true ∧ next = state) ∨
        (exceeds (state.2 + read.sizeBytes) budget.maxBytes = false ∧
          next = (state.1 ++ [chosen snapshot taskTokens entry read],state.2 + read.sizeBytes)))) := by
  by_cases reads : Reads budget state entry
  · rw [turn_read reads,bind_ok_iff]
    simp only [reads,not_true_eq_false,false_and,false_or,true_and]
    refine exists_congr (fun read => and_congr_right (fun _ => ?_))
    cases past : exceeds (state.2 + read.sizeBytes) budget.maxBytes <;> simp [eq_comm]
  · rw [turn_unread reads]
    simpa [reads] using eq_comm

theorem select_full {entries : List (RepositoryFile × Nat)} {state : Selection}
    (full : reaches_limit state.1.length budget.maxFiles = true) :
    select later snapshot taskTokens budget entries state.1 state.2 = .ok state := by
  cases entries with
  | nil => rfl
  | cons entry rest =>
    unfold select
    rw [if_pos full]

/-- The loop is the turns of its entries. -/
theorem select_turns (entries : List (RepositoryFile × Nat)) (state : Selection) :
    select later snapshot taskTokens budget entries state.1 state.2 =
      entries.foldlM (turn later snapshot taskTokens budget) state := by
  induction entries generalizing state with
  | nil => rfl
  | cons entry rest ih =>
    rw [List.foldlM_cons]
    by_cases reads : Reads budget state entry
    · rw [turn_read reads,bind_assoc]
      unfold select
      rw [if_neg (Bool.eq_false_iff.mp reads.room),if_neg reads.small]
      refine bind_congr (fun read => ?_)
      split
      · exact ih state
      · exact ih (_,_)
    · rw [turn_unread reads,ok_bind,← ih]
      by_cases full : reaches_limit state.1.length budget.maxFiles = true
      · rw [select_full full,select_full full]
      · rw [select,if_neg full,if_pos ((unread_iff.mp reads).resolve_left full)]

end

/-! ### The budget -/

/-- A count is at most a limit. -/
def AtMost (count : Nat) : JsNumber → Prop
  | .nan => False
  | .infinity negative => negative = false
  | .finite limit => count ≤ limit

def PositiveLimit : JsNumber → Prop
  | .nan => False
  | .infinity negative => negative = false
  | .finite limit => 0 < limit

structure PositiveBudget (budget : ContextBudget) : Prop where
  maxFiles : PositiveLimit budget.maxFiles
  maxBytes : PositiveLimit budget.maxBytes
  maxBytesPerFile : PositiveLimit budget.maxBytesPerFile

/-- The report keeps to its budget, and its sizes are those of its texts. -/
structure Budgeted (budget : ContextBudget) (report : InvestigationReport) : Prop where
  files : AtMost report.relevantFiles.length budget.maxFiles
  total : report.contextBytes = (report.relevantFiles.map InvestigatedFile.sizeBytes).sum
  bytes : AtMost report.contextBytes budget.maxBytes
  sizes : ∀ file ∈ report.relevantFiles, file.sizeBytes = file.content.utf8ByteSize
  each : ∀ file ∈ report.relevantFiles, AtMost file.sizeBytes budget.maxBytesPerFile

/-- The file of the entry is read and selected at its turn, while its text is larger than a file may
    be, or there is room for a part of a file only. -/
structure Oversteps (later : Host) (budget : ContextBudget) (state : Selection) (entry : RepositoryFile × Nat) :
    Prop where
  reads : Reads budget state entry
  over_limit : ∃ read, readTextFile later entry.1.path budget.maxBytesPerFile = .ok read ∧
    exceeds (state.2 + read.sizeBytes) budget.maxBytes = false ∧
    (exceeds read.sizeBytes budget.maxBytesPerFile = true ∨ exceeds (state.1.length + 1) budget.maxFiles = true)

theorem atMost_iff {limit : JsNumber} (positive : PositiveLimit limit) {count : Nat} :
    AtMost count limit ↔ exceeds count limit = false := by
  cases limit with
  | nan => exact absurd positive id
  | infinity negative =>
    have upward : negative = false := positive
    simp [AtMost,exceeds,upward]
  | finite limit => simp [AtMost,exceeds]

theorem AtMost.mono {limit : JsNumber} {less more : Nat} (least : less ≤ more) (most : AtMost more limit) :
    AtMost less limit := by
  cases limit with
  | nan => exact most
  | infinity negative => exact most
  | finite limit => exact le_trans (Nat.cast_le.mpr least) most

theorem atMost_zero {limit : JsNumber} (positive : PositiveLimit limit) : AtMost 0 limit := by
  cases limit with
  | nan => exact positive
  | infinity negative => exact positive
  | finite limit => exact (Nat.cast_zero (R := ℚ)).le.trans (le_of_lt positive)

section
variable {later : Host} {snapshot : RepositorySnapshot} {taskTokens : List String} {budget : ContextBudget}
  {entries : List (RepositoryFile × Nat)} {final : Selection}

/-- Sums and sizes are right after every turn, and the whole budget is kept. -/
structure Counted (budget : ContextBudget) (state : Selection) : Prop where
  total : state.2 = (state.1.map InvestigatedFile.sizeBytes).sum
  bytes : AtMost state.2 budget.maxBytes
  sizes : ∀ file ∈ state.1, file.sizeBytes = file.content.utf8ByteSize

theorem counted_turn (positive : PositiveBudget budget) {state next : Selection} {entry : RepositoryFile × Nat}
    (counted : Counted budget state) (ran : turn later snapshot taskTokens budget state entry = .ok next) :
    Counted budget next := by
  rcases turn_ok_iff.mp ran with ⟨_,rfl⟩ | ⟨_,read,reads,⟨_,rfl⟩ | ⟨fits,rfl⟩⟩
  · exact counted
  · exact counted
  · obtain ⟨_,_,_,_,_,rfl⟩ := readTextFile_ok.mp reads
    refine ⟨?_,(atMost_iff positive.maxBytes).mpr fits,?_⟩
    · simp [chosen,counted.total]
    · intro file member
      rcases List.mem_append.mp member with early | last
      · exact counted.sizes file early
      · rw [List.mem_singleton.mp last]
        rfl

/-- What only turns that overstep lose: the limits of files and of a file. -/
def Limited (budget : ContextBudget) (state : Selection) : Prop :=
  AtMost state.1.length budget.maxFiles ∧ ∀ file ∈ state.1, AtMost file.sizeBytes budget.maxBytesPerFile

theorem limited_turn (positive : PositiveBudget budget) (state : Selection) (entry : RepositoryFile × Nat)
    (next : Selection) (ran : turn later snapshot taskTokens budget state entry = .ok next) :
    Limited budget next ↔ Limited budget state ∧ ¬ Oversteps later budget state entry := by
  rcases turn_ok_iff.mp ran with ⟨unread,rfl⟩ | ⟨reads,read,found,⟨past,rfl⟩ | ⟨fits,rfl⟩⟩
  · exact (and_iff_left (fun overstep => unread overstep.reads)).symm
  · refine (and_iff_left ?_).symm
    rintro ⟨_,other,again,room,_⟩
    obtain rfl := Except.ok.inj (found.symm.trans again)
    rw [past] at room
    cases room
  · have whole : ¬ Oversteps later budget state entry ↔
        AtMost read.sizeBytes budget.maxBytesPerFile ∧ AtMost (state.1.length + 1) budget.maxFiles := by
      rw [atMost_iff positive.maxBytesPerFile,atMost_iff positive.maxFiles]
      constructor
      · intro kept
        refine ⟨Bool.eq_false_iff.mpr (fun large => kept ⟨reads,read,found,fits,.inl large⟩),?_⟩
        exact Bool.eq_false_iff.mpr (fun many => kept ⟨reads,read,found,fits,.inr many⟩)
      · rintro ⟨small,few⟩ ⟨_,other,again,_,large | many⟩
        · obtain rfl := Except.ok.inj (found.symm.trans again)
          rw [small] at large
          cases large
        · rw [few] at many
          cases many
    rw [whole]
    unfold Limited
    rw [List.length_append,List.length_singleton,List.forall_mem_append,List.forall_mem_singleton]
    constructor
    · rintro ⟨few,early,last⟩
      exact ⟨⟨few.mono (Nat.le_succ _),early⟩,last,few⟩
    · rintro ⟨⟨_,early⟩,last,few⟩
      exact ⟨few,early,last⟩

end

/-- A report keeps to its budget exactly when no turn of the loop that made it oversteps. -/
theorem budgeted_iff {host later : Host} {task : String} {budget : ContextBudget} {snapshot : RepositorySnapshot}
    {report : InvestigationReport} (positive : PositiveBudget budget) (inspected : inspect host = .ok snapshot)
    (ran : investigate_later host later task budget = .ok report) :
    Budgeted budget report ↔ ∀ state entry,
      ComesTo (turn later snapshot (tokens task) budget) ([],0) (ranked host snapshot (tokens task)) state entry →
        ¬ Oversteps later budget state entry := by
  unfold investigate_later investigate_snapshot at ran
  simp only [bind_ok_iff,pure_ok_iff] at ran
  obtain ⟨_,_,_,_,other,again,⟨selected,bytes⟩,looped,rfl⟩ := ran
  obtain rfl := Except.ok.inj (inspected.symm.trans again)
  have turns := (select_turns (ranked host snapshot (tokens task)) ([],0)).symm.trans looped
  have counted : Counted budget (selected,bytes) :=
    foldlM_invariant (fun _ state => Counted budget state)
      (fun _ _ _ _ held stepped => counted_turn positive held stepped)
      ⟨rfl,atMost_zero positive.maxBytes,by simp⟩ turns
  have empty : Limited budget ([],0) := ⟨atMost_zero positive.maxFiles,by simp⟩
  have kept := foldlM_kept_iff (limited_turn positive) turns
  rw [and_iff_right empty] at kept
  rw [← kept]
  constructor
  · exact fun budgeted => ⟨budgeted.files,budgeted.each⟩
  · exact fun limited => ⟨limited.1,counted.total,counted.bytes,counted.sizes,limited.2⟩

/-! ### Files of bytes -/

/-- A file with these bytes, read as UTF-8. -/
def stored (bytes : List UInt8) : Node := .file bytes.length (Utf8.decode bytes)

/-- Every file of the host holds the encoding of a text. -/
def ValidTexts (host : Host) : Prop :=
  ∀ place sizeBytes text, host.tree.get? place = some (.file sizeBytes text) →
    ∃ content, Node.file sizeBytes text = stored (Utf8.encode content)

/-- A limit without a fraction. -/
def WholeLimit : JsNumber → Prop
  | .finite limit => ∃ n : Nat, limit = n
  | _ => True

theorem stored_encode (content : String) : stored (Utf8.encode content) = .file content.utf8ByteSize content := by
  unfold stored
  rw [Utf8.length_encode,Utf8.decode_encode]

/-- No turn oversteps where the files are valid and the limit of files is whole. -/
theorem valid_texts_fit {later : Host} {budget : ContextBudget} (valid : ValidTexts later)
    (whole : WholeLimit budget.maxFiles) (state : Selection) (entry : RepositoryFile × Nat) :
    ¬ Oversteps later budget state entry := by
  rintro ⟨reads,read,found,_,large | many⟩
  · obtain ⟨_,real,sizeBytes,text,readable,rfl⟩ := readTextFile_ok.mp found
    obtain ⟨content,same⟩ := valid real sizeBytes text readable.file
    rw [stored_encode] at same
    obtain ⟨rfl,rfl⟩ := Node.file.inj same
    have fits := readable.fits
    rw [large] at fits
    cases fits
  · have room := reads.room
    cases limit : budget.maxFiles with
    | nan => simp [limit,exceeds] at many
    | infinity negative =>
      rw [limit] at room many
      exact absurd (room.symm.trans many) (by decide)
    | finite value =>
      rw [limit] at room many whole
      obtain ⟨n,rfl⟩ := whole
      simp only [reaches_limit,decide_eq_false_iff_not,not_le,Nat.cast_lt] at room
      simp only [exceeds,decide_eq_true_eq,Nat.cast_lt] at many
      omega

/-- A repository of one file at its top. -/
def notes_host (notes : Node) : Host where
  tree := .dir [("repo",.dir [("notes.md",notes)])]
  maxLinks := 40
  directorySize := fun _ => 4096
  cwd := "/"
  execGit := fun args => .ok (if args = ["ls-files","-z"] then "notes.md\x00" else "/repo\n")
  numeral := fun _ => "24576"
  localeCompare := fun _ _ => 0

theorem get?_single {key name : String} {child : Node} {rest : List String} :
    (Node.dir [(key,child)]).get? (name :: rest) = if name = key then child.get? rest else none := by
  show (List.lookup name [(key,child)]).bind (fun child => child.get? rest) = _
  by_cases same : name = key
  · rw [if_pos same,List.lookup_cons,same,beq_self_eq_true]
    rfl
  · rw [if_neg same,List.lookup_cons,beq_false_of_ne same]
    rfl

theorem notes_host_valid (content : String) : ValidTexts (notes_host (stored (Utf8.encode content))) := by
  intro place sizeBytes text found
  unfold notes_host at found
  cases place with
  | nil => cases found
  | cons name place =>
    rw [get?_single] at found
    split at found
    · cases place with
      | nil => cases found
      | cons name place =>
        rw [get?_single] at found
        split at found
        · cases place with
          | nil => exact ⟨content,(Option.some.inj found).symm⟩
          | cons name place => cases found
        · cases found
    · cases found

/-- A budget is kept for a file that is the encoding of a text. -/
theorem budgeted_iff_ascii : ∃ report,
    investigate_later (notes_host (stored (Utf8.encode "Notes"))) (notes_host (stored (Utf8.encode "Notes"))) "notes"
      {} =
      .ok report ∧ Budgeted {} report := by
  have ran : (investigate_later (notes_host (stored (Utf8.encode "Notes"))) (notes_host (stored (Utf8.encode "Notes")))
      "notes" {}).toOption.any (fun _ => true) = true := by decide +kernel
  have inspected : (inspect (notes_host (stored (Utf8.encode "Notes")))).toOption.any (fun _ => true) = true := by
    decide +kernel
  obtain ⟨report,returned,_⟩ := returns_with ran
  obtain ⟨snapshot,snapped,_⟩ := returns_with inspected
  have positive : PositiveBudget {} := by
    refine ⟨?_,?_,?_⟩ <;> show (0 : ℚ) < _ <;> norm_num
  refine ⟨report,returned,(budgeted_iff positive snapped returned).mpr (fun state entry _ => ?_)⟩
  have whole : WholeLimit (.finite 12) := ⟨12,rfl⟩
  exact valid_texts_fit (notes_host_valid "Notes") whole state entry

def byte_budget : ContextBudget := { maxBytesPerFile := .finite 1 }

theorem byte_budget_positive : PositiveBudget byte_budget := by
  refine ⟨?_,?_,?_⟩ <;> show (0 : ℚ) < _ <;> norm_num [byte_budget]

/-- The byte 0xFF is read as a text of three bytes. -/
theorem invalid_byte_oversized :
    ∃ report, investigate_later (notes_host (stored [0xFF])) (notes_host (stored [0xFF])) "notes" byte_budget =
      .ok report ∧
      ¬ Budgeted byte_budget report := by
  have ran : (investigate_later (notes_host (stored [0xFF]))
      (notes_host (stored [0xFF])) "notes" byte_budget).toOption.any
      (fun report => report.relevantFiles.any (fun file => exceeds file.sizeBytes byte_budget.maxBytesPerFile)) =
        true := by
    decide +kernel
  obtain ⟨report,returned,holds⟩ := returns_with ran
  obtain ⟨file,member,large⟩ := List.any_eq_true.mp holds
  refine ⟨report,returned,fun budgeted => ?_⟩
  rw [(atMost_iff byte_budget_positive.maxBytesPerFile).mp (budgeted.each file member)] at large
  cases large

end V3Aidlc.InvestigationBudgets
