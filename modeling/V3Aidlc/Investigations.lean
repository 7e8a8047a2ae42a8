import V3Aidlc.RepositoryInspection

/-!
Investigations (`packages/context`). Tracked files are ranked by what the task names, and read in
this order while they fit the budget; what a report holds was read under the path of a tracked
file (`investigate_read`).
-/
namespace V3Aidlc.Investigations
open V3Aidlc.Loops V3Aidlc.Canonical V3Aidlc.Paths V3Aidlc.FileTrees V3Aidlc.RepositoryInspection
open V3Aidlc.Decisions (trim)
open V3Aidlc.ProjectLead (JsNumber)

structure ContextBudget where
  maxFiles : JsNumber := .finite 12
  maxBytes : JsNumber := .finite 98304
  maxBytesPerFile : JsNumber := .finite 24576

structure InvestigatedFile where
  path : String
  kind : FileKind
  relevanceScore : Nat
  reason : String
  content : String
  sizeBytes : Nat

structure InvestigationReport where
  schemaVersion : String
  task : String
  root : Place
  headRevision : String
  branch : String
  clean : Bool
  instructions : List String
  relevantFiles : List InvestigatedFile
  existingPatterns : List String
  relatedTests : List String
  unknowns : List String
  risks : List String
  contextBytes : Nat
  excludedFileCount : Int

/-! ### Ranking -/

/-- `toLowerCase`, of which only ASCII letters are looked at: of the others just the Kelvin sign
    and the dotted I have one in their lower case. -/
def lower_char (c : Char) : List Char :=
  if c.toNat = 0x212A then ['k']
  else if c.toNat = 0x130 then ['i',Char.ofNat 0x307]
  else [c.toLower]

def to_lower (text : String) : List Char := text.toList.flatMap lower_char

def token_char (c : Char) : Bool := c.isLower || c.isDigit || c = '_' || c = '-'

/-- The longest runs of characters of the class. -/
def runs : List Char → List (List Char)
  | [] => [[]]
  | c :: rest =>
    if token_char c then
      match runs rest with
      | [] => [[c]]
      | run :: others => (c :: run) :: others
    else [] :: runs rest

/-- `[...new Set(value.toLowerCase().match(/[a-z0-9_-]{3,}/g) ?? [])]`. -/
def tokens (value : String) : List String :=
  distinct (((runs (to_lower value)).filter (fun run => 3 ≤ run.length)).map String.ofList)

/-- `file.path.toLowerCase().includes(token)`. -/
def names_token (path token : String) : Bool := decide (token.toList <:+: to_lower path)

/-- `/(^|\/)(readme|package\.json|pyproject\.toml|prisma\/schema\.prisma)/i`. -/
def is_entry_point (path : String) : Bool :=
  (openings path).any (fun text => ["readme","package.json","pyproject.toml","prisma/schema.prisma"].any
    (fun start => starts start (lower text)))

def rank (file : RepositoryFile) (taskTokens instructions : List String) : Nat :=
  (if instructions.contains file.path then 100 else 0) + (if file.kind = .test then 15 else 0) +
    (if file.kind = .source then 12 else 0) + (if is_entry_point file.path then 10 else 0) +
    8 * (taskTokens.filter (names_token file.path)).length

/-- `right.score - left.score || left.file.path.localeCompare(right.file.path)`, at most zero. -/
def comes_first (host : Host) (left right : RepositoryFile × Nat) : Bool :=
  if left.2 = right.2 then host.localeCompare left.1.path right.1.path ≤ 0 else right.2 < left.2

def ranked (host : Host) (snapshot : RepositorySnapshot) (taskTokens : List String) : List (RepositoryFile × Nat) :=
  ((snapshot.files.map (fun file => (file,rank file taskTokens snapshot.instructions))).filter
    (fun entry => 0 < entry.2 || entry.1.kind = .documentation)).mergeSort (comes_first host)

/-! ### Selection -/

/-- `limit < 1`. -/
def below_one : JsNumber → Bool
  | .nan => false
  | .infinity negative => negative
  | .finite limit => limit < 1

/-- `count >= limit`. -/
def reaches_limit (count : Nat) : JsNumber → Bool
  | .nan => false
  | .infinity negative => negative
  | .finite limit => limit ≤ count

def reason (snapshot : RepositorySnapshot) (taskTokens : List String) (file : RepositoryFile) : String :=
  if snapshot.instructions.contains file.path then "Repository instruction"
  else if taskTokens.any (names_token file.path) then "Path matches the task"
  else file.kind.text ++ " context"

/-- The loop over the ranked files. -/
def select (host : Host) (snapshot : RepositorySnapshot) (taskTokens : List String) (budget : ContextBudget) :
    List (RepositoryFile × Nat) → List InvestigatedFile → Nat → Except InspectionError (List InvestigatedFile × Nat)
  | [],selected,contextBytes => .ok (selected,contextBytes)
  | (file,score) :: rest,selected,contextBytes =>
    if reaches_limit selected.length budget.maxFiles then .ok (selected,contextBytes)
    else if exceeds file.sizeBytes budget.maxBytesPerFile ||
      exceeds (contextBytes + file.sizeBytes) budget.maxBytes then
      select host snapshot taskTokens budget rest selected contextBytes
    else do
      let read ← readTextFile host file.path budget.maxBytesPerFile
      if exceeds (contextBytes + read.sizeBytes) budget.maxBytes then
        select host snapshot taskTokens budget rest selected contextBytes
      else
        select host snapshot taskTokens budget rest
          (selected ++ [⟨file.path,file.kind,score,reason snapshot taskTokens file,read.content,read.sizeBytes⟩])
          (contextBytes + read.sizeBytes)

/-- The report on the files selected from a repository. -/
def reported (snapshot : RepositorySnapshot) (task : String) (selected : List InvestigatedFile) (contextBytes : Nat) :
    InvestigationReport :=
  let relatedTests := (selected.filter (fun file => file.kind = .test)).map (fun file => file.path)
  { schemaVersion := "0.1"
    task := trim task
    root := snapshot.root
    headRevision := snapshot.headRevision
    branch := snapshot.branch
    clean := snapshot.clean
    instructions := snapshot.instructions
    relevantFiles := selected
    existingPatterns := (sortedBy utf16 (distinct (selected.map (fun file => file.kind.text)))).map
      (fun kind => "Selected " ++ kind ++ " files")
    relatedTests := relatedTests
    unknowns :=
      (if selected.length = 0 then ["No bounded repository context matched the task."] else []) ++
        (if relatedTests.length = 0 then ["No related tracked tests were selected."] else [])
    risks := if snapshot.clean then []
      else ["The repository has uncommitted changes; implementation must preserve unrelated work."]
    contextBytes := contextBytes
    excludedFileCount := (snapshot.files.length : Int) - selected.length }

/-- What follows the inspection. The files are read from the host as it is then. -/
def investigate_snapshot (host later : Host) (snapshot : RepositorySnapshot) (task : String) (budget : ContextBudget) :
    Except InspectionError InvestigationReport := do
  let (selected,contextBytes) ← select later snapshot (tokens task) budget (ranked host snapshot (tokens task)) [] 0
  return reported snapshot task selected contextBytes

/-- `InvestigationService.investigate` of a host that may change after the inspection. -/
def investigate_later (host later : Host) (task : String) (budget : ContextBudget := {}) :
    Except InspectionError InvestigationReport := do
  raise_if (trim task = "") (.Error "Investigation task must not be empty")
  raise_if (below_one budget.maxFiles || below_one budget.maxBytes || below_one budget.maxBytesPerFile)
    (.Error "Context budgets must be positive")
  let snapshot ← inspect host
  investigate_snapshot host later snapshot task budget

/-- `InvestigationService.investigate`. -/
def investigate (host : Host) (task : String) (budget : ContextBudget := {}) :
    Except InspectionError InvestigationReport := investigate_later host host task budget

/-! ### What a report holds -/

section
variable {host : Host} {snapshot : RepositorySnapshot} {taskTokens : List String} {budget : ContextBudget}

/-- The content of the file was read under its path. -/
def WasRead (host : Host) (maxBytes : JsNumber) (file : InvestigatedFile) : Prop :=
  readTextFile host file.path maxBytes = .ok ⟨file.path,file.content,file.sizeBytes⟩

theorem read_path {path : String} {maxBytes : JsNumber} {read : FileContent}
    (ran : readTextFile host path maxBytes = .ok read) : read.path = path := by
  obtain ⟨_,_,_,_,_,rfl⟩ := readTextFile_ok.mp ran
  rfl

/-- The rule of the loop: what holds of the files selected before, and of every file that is read
    for an entry, holds of all that is selected. -/
theorem select_invariant {holds : InvestigatedFile → Prop} {entries : List (RepositoryFile × Nat)}
    {selected final : List InvestigatedFile} {bytes total : Nat}
    (ran : select host snapshot taskTokens budget entries selected bytes = .ok (final,total))
    (before : ∀ file ∈ selected, holds file)
    (step : ∀ entry ∈ entries, ∀ read, readTextFile host entry.1.path budget.maxBytesPerFile = .ok read →
      holds ⟨entry.1.path,entry.1.kind,entry.2,reason snapshot taskTokens entry.1,read.content,read.sizeBytes⟩) :
    ∀ file ∈ final, holds file := by
  induction entries generalizing selected bytes with
  | nil =>
    obtain ⟨rfl,_⟩ := Prod.mk.inj (Except.ok.inj ran)
    exact before
  | cons entry rest ih =>
    obtain ⟨here,later⟩ := List.forall_mem_cons.mp step
    unfold select at ran
    by_cases full : reaches_limit selected.length budget.maxFiles = true
    · rw [if_pos full] at ran
      obtain ⟨rfl,_⟩ := Prod.mk.inj (Except.ok.inj ran)
      exact before
    · rw [if_neg full] at ran
      by_cases large : (exceeds entry.1.sizeBytes budget.maxBytesPerFile ||
          exceeds (bytes + entry.1.sizeBytes) budget.maxBytes) = true
      · rw [if_pos large] at ran
        exact ih ran before later
      · rw [if_neg large] at ran
        obtain ⟨read,reads,ran⟩ := bind_ok_iff.mp ran
        by_cases past : exceeds (bytes + read.sizeBytes) budget.maxBytes = true
        · rw [if_pos past] at ran
          exact ih ran before later
        · rw [if_neg past] at ran
          refine ih ran ?_ later
          intro file member
          rcases List.mem_append.mp member with early | last
          · exact before file early
          · rw [List.mem_singleton.mp last]
            exact here read reads

/-- The files of an inspection are listed by `git`. -/
theorem inspect_tracked {snapshot : RepositorySnapshot} (ran : inspect host = .ok snapshot) :
    ∃ listing, host.git ["ls-files","-z"] = .ok listing ∧
      ∀ file ∈ snapshot.files, file.path ∈ tracked_paths listing := by
  unfold inspect at ran
  simp only [bind_ok_iff,pure_ok_iff] at ran
  obtain ⟨root,_,_,_,_,_,_,_,listing,listed,files,read,rfl⟩ := ran
  refine ⟨listing,listed,fun file member => ?_⟩
  obtain ⟨path,inside,made⟩ := mapM_result read member
  obtain ⟨_,_,made⟩ := bind_ok_iff.mp made
  obtain rfl := pure_ok_iff.mp made
  exact inside

theorem ranked_listed {entry : RepositoryFile × Nat} (member : entry ∈ ranked host snapshot taskTokens) :
    entry.1 ∈ snapshot.files := by
  have kept := (List.mem_filter.mp (List.mem_mergeSort.mp member)).1
  obtain ⟨file,inside,rfl⟩ := List.mem_map.mp kept
  exact inside

/-- Every file of a report is tracked, and was read under its path. -/
theorem investigate_read {task : String} {report : InvestigationReport}
    (ran : investigate host task budget = .ok report) :
    ∃ listing, host.git ["ls-files","-z"] = .ok listing ∧ ∀ file ∈ report.relevantFiles,
      file.path ∈ tracked_paths listing ∧ WasRead host budget.maxBytesPerFile file := by
  unfold investigate investigate_later investigate_snapshot at ran
  simp only [bind_ok_iff,pure_ok_iff] at ran
  obtain ⟨_,_,_,_,snapshot,inspected,⟨selected,bytes⟩,chosen,rfl⟩ := ran
  obtain ⟨listing,listed,tracked⟩ := inspect_tracked inspected
  refine ⟨listing,listed,?_⟩
  refine select_invariant chosen (by simp) ?_
  intro entry member read ran
  refine ⟨tracked _ (ranked_listed member),?_⟩
  have path : read.path = entry.1.path := read_path ran
  unfold WasRead
  rw [ran,← path]

end

end V3Aidlc.Investigations
