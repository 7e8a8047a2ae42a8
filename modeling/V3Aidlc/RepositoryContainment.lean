import V3Aidlc.Investigations

/-!
Where the files lie that a repository inspector returns. The tests of a path look at its text and
the read follows links, so a link takes the read out of the root or to a blocked name, and a
blocked name passes the test under another spelling. No other read goes astray
(`containment_iff`).
-/
namespace V3Aidlc.RepositoryContainment
open V3Aidlc.Loops V3Aidlc.Canonical V3Aidlc.Paths V3Aidlc.FileTrees V3Aidlc.RepositoryInspection
open V3Aidlc.Investigations
open V3Aidlc.ProjectLead (JsNumber)

/-! ### Reads in place -/

/-- The text of a file is that of a file inside the root, all links resolved, and neither the path
    nor the real path from the root is blocked. -/
def InPlace (host : Host) (path text : String) : Prop :=
  ∃ root top real sizeBytes, host.root = .ok root ∧ walk host.tree host.maxLinks [] root = some top ∧
    walk host.tree host.maxLinks [] (resolve root path) = some real ∧
    host.tree.get? real = some (.file sizeBytes text) ∧ top <+: real ∧
    blockedNames path = false ∧ blockedNames (relative top real) = false

/-- What is read under the path is in its place. -/
def ReadsInside (host : Host) (path : String) (maxBytes : JsNumber) : Prop :=
  ∀ file, readTextFile host path maxBytes = .ok file → InPlace host path file.content

/-- Every file of a report is in its place. -/
def ReportsInside (host : Host) (task : String) (budget : ContextBudget) : Prop :=
  ∀ report, investigate host task budget = .ok report →
    ∀ file ∈ report.relevantFiles, InPlace host file.path file.content

/-- How a read goes astray, of a path that leads from the top of the repository by these names to
    a real place. -/
inductive Astray (tree : Node) (top : Place) (names : List String) (real : Place) : Prop where
  /-- A link leads out of the root. -/
  | outside (linked : Linked tree top names) (left : ¬ top <+: real)
  /-- A link leads to a blocked name. -/
  | renamed (linked : Linked tree top names) (blocked : blockedNames (relative top real) = true)
  /-- The names are blocked, once they are spelled without empty names and dots. -/
  | respelled (straight : ¬ Linked tree top names) (blocked : blockedNames (join "/" names) = true)

/-- The path passes the checks of a read, and the read goes astray. -/
def Misled (host : Host) (path : String) (maxBytes : JsNumber) : Prop :=
  ∃ root top real sizeBytes text, Readable host root path maxBytes real sizeBytes text ∧
    walk host.tree host.maxLinks [] root = some top ∧
    Astray host.tree top ((resolve root path).drop root.length) real

/-! ### The way from the root -/

section
variable {host : Host} {path : String} {maxBytes : JsNumber}

theorem relative_append (top : Place) (names : List String) : relative top (top ++ names) = join "/" names := by
  have all : common top (top ++ names) = top.length := common_all_iff.mpr (List.prefix_append _ _)
  unfold relative
  rw [all,Nat.sub_self,List.drop_left]
  rfl

/-- The way to a file inside the root leads through the root, and without links on the rest of
    it the file is where the path says. -/
theorem way_from_root {root real : Place} {sizeBytes : Nat} {text : String}
    (readable : Readable host root path maxBytes real sizeBytes text) :
    ∃ top, walk host.tree host.maxLinks [] root = some top ∧
      (¬ Linked host.tree top ((resolve root path).drop root.length) →
        real = top ++ (resolve root path).drop root.length) := by
  obtain ⟨names,split⟩ := readable.within
  have rest : (resolve root path).drop root.length = names := by rw [← split,List.drop_left]
  have plain : ∀ name ∈ names, Plain name := by
    intro name member
    refine resolve_plain (root_plain readable.rooted) path name ?_
    rw [← split]
    exact List.mem_append_right _ member
  obtain ⟨m,way⟩ := leads_of_walk readable.walked
  rw [← split] at way
  obtain ⟨k,top,start,finish⟩ := leads_append way
  refine ⟨top,walk_of_leads start,?_⟩
  rw [rest]
  exact leads_straight finish plain

/-- A file that is read is in its place, or the read went astray. -/
theorem in_place_iff {root real : Place} {sizeBytes : Nat} {text : String}
    (readable : Readable host root path maxBytes real sizeBytes text) :
    InPlace host path text ↔ ∀ top, walk host.tree host.maxLinks [] root = some top →
      ¬ Astray host.tree top ((resolve root path).drop root.length) real := by
  obtain ⟨top,rooted,direct⟩ := way_from_root readable
  constructor
  · rintro ⟨root',top',real',_,same,rooted',walked',_,inside,_,sound⟩ other walked astray
    obtain rfl : root = root' := Except.ok.inj (readable.rooted.symm.trans same)
    obtain rfl : top' = other := Option.some.inj (rooted'.symm.trans walked)
    obtain rfl : real = real' := Option.some.inj (readable.walked.symm.trans walked')
    obtain rfl : top = top' := Option.some.inj (rooted.symm.trans rooted')
    cases astray with
    | outside _ left => exact left inside
    | renamed _ blocked =>
      rw [sound] at blocked
      cases blocked
    | respelled straight blocked =>
      rw [direct straight,relative_append,blocked] at sound
      cases sound
  · intro kept
    have sound := kept top rooted
    by_cases linked : Linked host.tree top ((resolve root path).drop root.length)
    · refine ⟨root,top,real,sizeBytes,readable.rooted,rooted,readable.walked,readable.file,?_,readable.named,?_⟩
      · by_contra left
        exact sound (.outside linked left)
      · by_contra blocked
        exact sound (.renamed linked (by simpa using blocked))
    · have place := direct linked
      refine ⟨root,top,real,sizeBytes,readable.rooted,rooted,readable.walked,readable.file,?_,readable.named,?_⟩
      · rw [place]
        exact List.prefix_append _ _
      · rw [place,relative_append]
        by_contra blocked
        exact sound (.respelled linked (by simpa using blocked))

theorem reads_inside_iff : ReadsInside host path maxBytes ↔ ¬ Misled host path maxBytes := by
  constructor
  · rintro inside ⟨root,top,real,sizeBytes,text,readable,rooted,astray⟩
    have returned := readTextFile_ok.mpr ⟨root,real,sizeBytes,text,readable,rfl⟩
    exact (in_place_iff readable).mp (inside _ returned) top rooted astray
  · intro kept file ran
    obtain ⟨root,real,sizeBytes,text,readable,rfl⟩ := readTextFile_ok.mp ran
    exact (in_place_iff readable).mpr
      (fun top rooted astray => kept ⟨root,top,real,sizeBytes,text,readable,rooted,astray⟩)

end

/-! ### What an investigation reads -/

/-- The paths that the loop reads, with so many files selected and so many bytes in them. -/
def loop_reads (host : Host) (budget : ContextBudget) : List (RepositoryFile × Nat) → Nat → Nat → List String
  | [],_,_ => []
  | (file,_) :: rest,count,contextBytes =>
    if reaches_limit count budget.maxFiles then []
    else if exceeds file.sizeBytes budget.maxBytesPerFile ||
      exceeds (contextBytes + file.sizeBytes) budget.maxBytes then loop_reads host budget rest count contextBytes
    else
      match readTextFile host file.path budget.maxBytesPerFile with
      | .error _ => [file.path]
      | .ok read =>
        if exceeds (contextBytes + read.sizeBytes) budget.maxBytes then
          file.path :: loop_reads host budget rest count contextBytes
        else file.path :: loop_reads host budget rest (count + 1) (contextBytes + read.sizeBytes)

def investigation_reads (host : Host) (task : String) (budget : ContextBudget) : List String :=
  match inspect host with
  | .ok snapshot => loop_reads host budget (ranked host snapshot (tokens task)) 0 0
  | .error _ => []

section
variable {host : Host} {snapshot : RepositorySnapshot} {taskTokens : List String} {task : String}
  {budget : ContextBudget}

theorem loop_reads_listed (entries : List (RepositoryFile × Nat)) (count bytes : Nat) :
    ∀ path ∈ loop_reads host budget entries count bytes, ∃ entry ∈ entries, entry.1.path = path := by
  induction entries generalizing count bytes with
  | nil => simp [loop_reads]
  | cons entry rest ih =>
    have later : ∀ {count bytes path}, path ∈ loop_reads host budget rest count bytes →
        ∃ other ∈ entry :: rest, other.1.path = path := by
      intro count bytes path member
      obtain ⟨other,inside,same⟩ := ih count bytes path member
      exact ⟨other,List.mem_cons_of_mem _ inside,same⟩
    have here : ∃ other ∈ entry :: rest, other.1.path = entry.1.path := ⟨entry,by simp,rfl⟩
    intro path member
    unfold loop_reads at member
    split at member
    · cases member
    · split at member
      · exact later member
      · split at member
        · exact List.mem_singleton.mp member ▸ here
        · split at member
          · rcases List.mem_cons.mp member with rfl | inside
            · exact here
            · exact later inside
          · rcases List.mem_cons.mp member with rfl | inside
            · exact here
            · exact later inside

/-- What the loop selects it has read. -/
theorem select_reads {entries : List (RepositoryFile × Nat)} {selected final : List InvestigatedFile}
    {bytes total : Nat} (ran : select host snapshot taskTokens budget entries selected bytes = .ok (final,total)) :
    ∀ file ∈ final, file ∈ selected ∨ file.path ∈ loop_reads host budget entries selected.length bytes := by
  induction entries generalizing selected bytes with
  | nil =>
    obtain ⟨rfl,_⟩ := Prod.mk.inj (Except.ok.inj ran)
    exact fun file member => .inl member
  | cons entry rest ih =>
    unfold select at ran
    unfold loop_reads
    by_cases full : reaches_limit selected.length budget.maxFiles = true
    · rw [if_pos full] at ran
      obtain ⟨rfl,_⟩ := Prod.mk.inj (Except.ok.inj ran)
      exact fun file member => .inl member
    · rw [if_neg full] at ran ⊢
      by_cases large : (exceeds entry.1.sizeBytes budget.maxBytesPerFile ||
          exceeds (bytes + entry.1.sizeBytes) budget.maxBytes) = true
      · rw [if_pos large] at ran ⊢
        exact ih ran
      · rw [if_neg large] at ran ⊢
        obtain ⟨read,reads,ran⟩ := bind_ok_iff.mp ran
        rw [reads]
        dsimp only
        by_cases past : exceeds (bytes + read.sizeBytes) budget.maxBytes = true
        · rw [if_pos past] at ran ⊢
          exact fun file member => (ih ran file member).imp_right (List.mem_cons_of_mem _)
        · rw [if_neg past] at ran ⊢
          intro file member
          rcases ih ran file member with early | later
          · rcases List.mem_append.mp early with before | last
            · exact .inl before
            · rw [List.mem_singleton.mp last]
              exact .inr List.mem_cons_self
          · rw [List.length_append,List.length_singleton] at later
            exact .inr (List.mem_cons_of_mem _ later)

theorem investigate_reads {report : InvestigationReport} (ran : investigate host task budget = .ok report) :
    ∀ file ∈ report.relevantFiles, file.path ∈ investigation_reads host task budget := by
  unfold investigate investigate_later investigate_snapshot at ran
  simp only [bind_ok_iff,pure_ok_iff] at ran
  obtain ⟨_,_,_,_,snapshot,inspected,⟨selected,bytes⟩,chosen,rfl⟩ := ran
  intro file member
  unfold investigation_reads
  rw [inspected]
  exact (select_reads chosen file member).resolve_left (by simp)

theorem reads_tracked : ∀ path ∈ investigation_reads host task budget,
    ∃ listing, host.git ["ls-files","-z"] = .ok listing ∧ path ∈ tracked_paths listing := by
  intro path member
  unfold investigation_reads at member
  cases inspected : inspect host with
  | error _ => simp [inspected] at member
  | ok snapshot =>
    rw [inspected] at member
    obtain ⟨entry,inside,rfl⟩ := loop_reads_listed _ 0 0 path member
    obtain ⟨listing,listed,tracked⟩ := inspect_tracked inspected
    exact ⟨listing,listed,tracked _ (ranked_listed inside)⟩

/-- A report holds files in their places alone exactly when none of those it holds misleads a read. -/
theorem reports_inside_iff : ReportsInside host task budget ↔ ∀ report, investigate host task budget = .ok report →
    ∀ file ∈ report.relevantFiles, ¬ Misled host file.path budget.maxBytesPerFile := by
  constructor
  · intro inside report ran file member
    obtain ⟨_,_,read⟩ := investigate_read ran
    refine reads_inside_iff.mp (fun other again => ?_)
    obtain rfl := Except.ok.inj ((read file member).2.symm.trans again)
    exact inside report ran file member
  · intro kept report ran file member
    obtain ⟨_,_,read⟩ := investigate_read ran
    exact reads_inside_iff.mpr (kept report ran file member) _ (read file member).2

end

/-- A read returns a file in its place, whatever the tree and the path, exactly when it is not
    misled. A report holds such files alone exactly when no file it holds misleads a read, and so
    when none of the tracked paths that the loop reads does. -/
theorem containment_iff (host : Host) :
    (∀ path maxBytes, ReadsInside host path maxBytes ↔ ¬ Misled host path maxBytes) ∧
      ∀ task budget,
        (ReportsInside host task budget ↔ ∀ report, investigate host task budget = .ok report →
          ∀ file ∈ report.relevantFiles, ¬ Misled host file.path budget.maxBytesPerFile) ∧
        ((∀ path ∈ investigation_reads host task budget, ¬ Misled host path budget.maxBytesPerFile) →
          ReportsInside host task budget) ∧
        ∀ path ∈ investigation_reads host task budget,
          ∃ listing, host.git ["ls-files","-z"] = .ok listing ∧ path ∈ tracked_paths listing :=
  ⟨fun _ _ => reads_inside_iff,fun _ _ => ⟨reports_inside_iff,
    fun sound => reports_inside_iff.mpr fun _ ran file member => sound file.path (investigate_reads ran file member),
    reads_tracked⟩⟩

/-! A link out of the root, and a blocked name with a slash. -/

def linked_host : Host where
  tree := .dir [("repo",.dir [("notes.txt",.link "../secret.txt"),(".env",.file 6 "SECRET")]),
    ("secret.txt",.file 8 "PASSWORD")]
  maxLinks := 40
  directorySize := fun _ => 4096
  cwd := "/"
  execGit := fun args => .ok (if args = ["ls-files","-z"] then "notes.txt\x00" else "/repo\n")
  numeral := fun _ => "65536"
  localeCompare := fun _ _ => 0

theorem linked_root : linked_host.root = .ok ["repo"] := by decide +kernel

theorem linked_top : walk linked_host.tree linked_host.maxLinks [] ["repo"] = some ["repo"] := by decide +kernel

theorem linked_notes : walk linked_host.tree linked_host.maxLinks [] (resolve ["repo"] "notes.txt") =
    some ["secret.txt"] := by decide +kernel

theorem linked_env : walk linked_host.tree linked_host.maxLinks [] (resolve ["repo"] ".env/") =
    some ["repo",".env"] := by decide +kernel

/-- `notes.txt` reads a file outside the repository, also into a report, and `.env/` reads `.env`. -/
theorem link_leaves_root :
    ¬ ReadsInside linked_host "notes.txt" (.finite 65536) ∧ ¬ ReadsInside linked_host ".env/" (.finite 65536) ∧
      ¬ ReportsInside linked_host "notes" {} := by
  have away : ∀ text, ¬ InPlace linked_host "notes.txt" text := by
    rintro text ⟨root,top,real,sizeBytes,rooted,topped,walked,_,inside,_⟩
    obtain rfl : ["repo"] = root := Except.ok.inj (linked_root.symm.trans rooted)
    obtain rfl : ["repo"] = top := Option.some.inj (linked_top.symm.trans topped)
    obtain rfl : ["secret.txt"] = real := Option.some.inj (linked_notes.symm.trans walked)
    exact absurd inside (by decide)
  have blocked : ∀ text, ¬ InPlace linked_host ".env/" text := by
    rintro text ⟨root,top,real,sizeBytes,rooted,topped,walked,_,_,_,sound⟩
    obtain rfl : ["repo"] = root := Except.ok.inj (linked_root.symm.trans rooted)
    obtain rfl : ["repo"] = top := Option.some.inj (linked_top.symm.trans topped)
    obtain rfl : ["repo",".env"] = real := Option.some.inj (linked_env.symm.trans walked)
    exact absurd sound (by decide +kernel)
  refine ⟨?_,?_,?_⟩
  · intro inside
    have read : (readTextFile linked_host "notes.txt" (.finite 65536)).toOption.any (fun _ => true) = true := by
      decide +kernel
    obtain ⟨file,ran,_⟩ := returns_with read
    exact away _ (inside file ran)
  · intro inside
    have read : (readTextFile linked_host ".env/" (.finite 65536)).toOption.any (fun _ => true) = true := by
      decide +kernel
    obtain ⟨file,ran,_⟩ := returns_with read
    exact blocked _ (inside file ran)
  · intro inside
    have investigated : (investigate linked_host "notes" {}).toOption.any (fun report =>
        report.relevantFiles.any (fun file => file.path = "notes.txt")) = true := by
      decide +kernel
    obtain ⟨report,ran,holds⟩ := returns_with investigated
    obtain ⟨file,member,named⟩ := List.any_eq_true.mp holds
    have place := inside report ran file member
    rw [of_decide_eq_true named] at place
    exact away _ place

end V3Aidlc.RepositoryContainment
