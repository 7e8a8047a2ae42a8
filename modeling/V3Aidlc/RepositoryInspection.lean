import V3Aidlc.Decisions
import V3Aidlc.FileTrees
import V3Aidlc.Loops
import V3Aidlc.ProjectLead

/-!
The inspection of a repository (`packages/repository`). A file is read by a path that is tested
as a text: it may not match `blockedNames`, and its normal form may not leave the root. The read
itself follows the links of the file system (`readTextFile_ok`).
-/
namespace V3Aidlc.RepositoryInspection
open V3Aidlc.Loops V3Aidlc.Canonical V3Aidlc.Paths V3Aidlc.FileTrees
open V3Aidlc.Decisions (trim)
open V3Aidlc.ProjectLead (JsNumber)

/-! ### Patterns -/

/-- What `.` does not match. -/
def line_terminator (c : Char) : Bool := [0xA,0xD,0x2028,0x2029].contains c.toNat

/-- Every text that follows a slash. -/
def after_slashes : List Char → List (List Char)
  | [] => []
  | c :: rest => if c = '/' then rest :: after_slashes rest else after_slashes rest

/-- The places where `(^|\/)` ends. -/
def openings (path : String) : List (List Char) := path.toList :: after_slashes path.toList

def starts (start : String) (text : List Char) : Bool := start.toList.isPrefixOf text

def ends (final : String) (text : List Char) : Bool := final.toList.isSuffixOf text

/-- `.*` and then what is looked for. -/
def reaches (here : List Char → Bool) : List Char → Bool
  | [] => here []
  | c :: rest => here (c :: rest) || (!(line_terminator c) && reaches here rest)

/-- Letters of a pattern with the flag `i` match both cases; only ASCII letters do so here. -/
def lower (text : List Char) : List Char := text.map Char.toLower

/-- The name is `.env` or starts with `.env.`. -/
def env_here (text : List Char) : Bool :=
  starts ".env" text && (match text.drop 4 with
    | [] => true
    | c :: _ => c = '.')

/-- `/(^|\/)(\.env($|\.)|\.git\/|node_modules\/|dist\/|.*\.(pem|key|p12|pfx)$)/i`. -/
def blockedNames (path : String) : Bool :=
  (openings path).any (fun text =>
    env_here (lower text) || starts ".git/" (lower text) || starts "node_modules/" (lower text) ||
      starts "dist/" (lower text) ||
      reaches (fun rest => [".pem",".key",".p12",".pfx"].any (fun final => rest = final.toList)) (lower text))

inductive FileKind where
  | source | test | documentation | configuration | other
  deriving DecidableEq

def FileKind.text : FileKind → String
  | .source => "source"
  | .test => "test"
  | .documentation => "documentation"
  | .configuration => "configuration"
  | .other => "other"

/-- One of the names, followed by a slash or the end. -/
def whole_name (names : List String) (text : List Char) : Bool :=
  names.any (fun name => starts name text && (match text.drop name.length with
    | [] => true
    | c :: _ => c = '/'))

/-- `mark[^.]+$`: the mark and then a last part without a dot. -/
def marked_end (mark : String) (text : List Char) : Bool :=
  let last := (text.reverse.takeWhile (fun c => c ≠ '.')).length
  0 < last && ends mark (text.take (text.length - last))

/-- `.config.` and a character that is not a dot. -/
def config_here (text : List Char) : Bool :=
  starts ".config." text && (match text.drop 8 with
    | [] => false
    | c :: _ => c ≠ '.')

def is_test (path : String) : Bool :=
  (openings path).any (whole_name ["test","tests","__tests__"]) || marked_end ".test." path.toList ||
    marked_end ".spec." path.toList

def is_documentation (path : String) : Bool :=
  (openings path).any (fun text => starts "doc/" (lower text) || starts "docs/" (lower text)) ||
    ends ".md" (lower path.toList)

def is_configuration (path : String) : Bool :=
  (openings path).any (fun text =>
    starts "package.json" text || (starts "tsconfig" text && reaches (starts ".json") (text.drop 8)) ||
      reaches config_here text || starts ".github/" text || starts "prisma/" text)

def is_source (path : String) : Bool :=
  [".ts",".tsx",".js",".jsx",".py",".go",".rs",".java",".kt",".rb",".cs",".sql",".css",".html"].any
    (fun final => ends final (lower path.toList))

def classify (path : String) : FileKind :=
  if is_test path then .test
  else if is_documentation path then .documentation
  else if is_configuration path then .configuration
  else if is_source path then .source
  else .other

/-! ### The host -/

inductive InspectionError where
  | RepositoryInspectionError (message : String)
  | Error (message : String)
  /-- What `stat` or `readFile` throws. -/
  | SystemError
  deriving DecidableEq

/-- The file system, with the number of links that it follows, the directory of the process, what
    `git` prints in the requested root, or the message with which it fails, and how numbers are
    written and texts compared. -/
structure Host where
  tree : Node
  maxLinks : Nat
  directorySize : Place → Nat
  cwd : String
  execGit : List String → Except String String
  numeral : JsNumber → String
  localeCompare : String → String → Int

def Host.git (host : Host) (args : List String) : Except InspectionError String :=
  match host.execGit args with
  | .ok stdout => .ok (trim stdout)
  | .error message => .error (.RepositoryInspectionError ("Git inspection failed: " ++ message))

/-- `resolve(await this.git('rev-parse', '--show-toplevel'))`. -/
def Host.root (host : Host) : Except InspectionError Place := do
  let toplevel ← host.git ["rev-parse","--show-toplevel"]
  return resolve (resolve [] host.cwd) toplevel

/-- `stat`: the node that the place leads to, links followed. -/
def Host.stat (host : Host) (place : Place) : Except InspectionError (Node × Nat) :=
  match walk host.tree host.maxLinks [] place with
  | none => .error .SystemError
  | some real =>
    match host.tree.get? real with
    | some (.file sizeBytes text) => .ok (.file sizeBytes text,sizeBytes)
    | some node => .ok (node,host.directorySize real)
    | none => .error .SystemError

/-- `readFile` at a place that was found: a directory cannot be read. -/
def read_node : Node → Except InspectionError String
  | .file _ text => .ok text
  | _ => .error .SystemError

/-- `count > limit`. -/
def exceeds (count : Nat) : JsNumber → Bool
  | .nan => false
  | .infinity negative => negative
  | .finite limit => limit < count

/-! ### The inspector -/

def withinRoot (root candidate : Place) : Bool :=
  let child := relative root candidate
  child = "" || (!(starts "../" child.toList) && child ≠ ".." && !(absolute child))

structure RepositoryFile where
  path : String
  sizeBytes : Nat
  kind : FileKind

structure RepositorySnapshot where
  root : Place
  headRevision : String
  branch : String
  clean : Bool
  instructions : List String
  files : List RepositoryFile

/-- The UTF-16 units of a text, by which `sort` compares. -/
def utf16 (text : String) : List Nat :=
  text.toList.flatMap (fun c =>
    if c.toNat < 65536 then [c.toNat] else [0xD800 + (c.toNat - 65536) / 1024,0xDC00 + (c.toNat - 65536) % 1024])

/-- The paths that `git ls-files -z` lists, without those that are blocked. -/
def tracked_paths (tracked : String) : List String :=
  ((split '\x00' tracked.toList).map String.ofList).filter (fun path => path ≠ "" && !(blockedNames path))

/-- `/(^|\/)AGENTS\.md$/`. -/
def is_instruction (path : String) : Bool := (openings path).any (fun text => text = "AGENTS.md".toList)

/-- `GitRepositoryInspector.inspect`. -/
def inspect (host : Host) : Except InspectionError RepositorySnapshot := do
  let root ← host.root
  let headRevision ← host.git ["rev-parse","HEAD"]
  let branch ← host.git ["branch","--show-current"]
  let status ← host.git ["status","--porcelain=v1"]
  let tracked ← host.git ["ls-files","-z"]
  let files ← (tracked_paths tracked).mapM (fun path => do
    let (_,sizeBytes) ← host.stat (resolve root path)
    return (⟨path,sizeBytes,classify path⟩ : RepositoryFile))
  return {
    root := root
    headRevision := headRevision
    branch := branch
    clean := status = ""
    instructions := sortedBy utf16 ((tracked_paths tracked).filter is_instruction)
    files := files }

structure FileContent where
  path : String
  content : String
  sizeBytes : Nat
  deriving DecidableEq

/-- `GitRepositoryInspector.readTextFile`. -/
def readTextFile (host : Host) (path : String) (maxBytes : JsNumber := .finite 65536) :
    Except InspectionError FileContent := do
  raise_if (blockedNames path) (.RepositoryInspectionError ("Sensitive path is not readable: " ++ path))
  let root ← host.root
  let target := resolve root path
  raise_if (!(withinRoot root target)) (.RepositoryInspectionError ("Path escapes repository root: " ++ path))
  let (node,size) ← host.stat target
  raise_if (exceeds size maxBytes)
    (.RepositoryInspectionError ("File exceeds the " ++ host.numeral maxBytes ++ "-byte context limit: " ++ path))
  let content ← read_node node
  raise_if (content.toList.contains '\x00')
    (.RepositoryInspectionError ("Binary file is not admissible context: " ++ path))
  return ⟨path,content,content.utf8ByteSize⟩

/-! ### What a read says -/

section
variable {host : Host} {path : String} {maxBytes : JsNumber}

theorem root_plain {root : Place} (found : host.root = .ok root) : ∀ part ∈ root, Plain part := by
  unfold Host.root at found
  obtain ⟨toplevel,_,made⟩ := bind_ok_iff.mp found
  rw [← pure_ok_iff.mp made]
  exact resolve_plain (resolve_plain (by simp) host.cwd) toplevel

theorem withinRoot_iff {root candidate : Place} (plain : ∀ part ∈ candidate, Plain part) :
    withinRoot root candidate = true ↔ root <+: candidate := by
  rw [← relative_below_iff plain]
  unfold withinRoot Below starts
  simp only [Bool.or_eq_true,Bool.and_eq_true,decide_eq_true_eq,Bool.not_eq_eq_eq_not,Bool.not_true,ne_eq,and_assoc]
  rw [← Bool.not_eq_true,List.isPrefixOf_iff_prefix]

/-- The checks that a read makes, and the file that it reads. -/
structure Readable (host : Host) (root : Place) (path : String) (maxBytes : JsNumber) (real : Place) (sizeBytes : Nat)
    (text : String) : Prop where
  rooted : host.root = .ok root
  named : blockedNames path = false
  within : root <+: resolve root path
  walked : walk host.tree host.maxLinks [] (resolve root path) = some real
  file : host.tree.get? real = some (.file sizeBytes text)
  fits : exceeds sizeBytes maxBytes = false
  plain : '\x00' ∉ text.toList

theorem stat_file {place : Place} {sizeBytes size : Nat} {text : String}
    (found : host.stat place = .ok (.file sizeBytes text,size)) :
    size = sizeBytes ∧ ∃ real, walk host.tree host.maxLinks [] place = some real ∧
      host.tree.get? real = some (.file sizeBytes text) := by
  unfold Host.stat at found
  cases walked : walk host.tree host.maxLinks [] place with
  | none => simp [walked] at found
  | some real =>
    cases there : host.tree.get? real with
    | none => simp [walked,there] at found
    | some node =>
      cases node with
      | file bytes content =>
        simp only [walked,there,Except.ok.injEq,Prod.mk.injEq,Node.file.injEq] at found
        obtain ⟨⟨rfl,rfl⟩,rfl⟩ := found
        exact ⟨rfl,real,rfl,there⟩
      | link => simp [walked,there] at found
      | dir => simp [walked,there] at found

theorem read_node_ok {node : Node} {text : String} :
    read_node node = .ok text ↔ ∃ sizeBytes, node = .file sizeBytes text := by
  cases node <;> simp [read_node]

/-- A read returns the file that the path leads to, once its checks pass. -/
theorem readTextFile_ok {file : FileContent} :
    readTextFile host path maxBytes = .ok file ↔
      ∃ root real sizeBytes text, Readable host root path maxBytes real sizeBytes text ∧
        file = ⟨path,text,text.utf8ByteSize⟩ := by
  unfold readTextFile
  simp only [bind_ok_iff,raise_if_ok,pure_ok_iff,read_node_ok,Bool.not_eq_false']
  constructor
  · rintro ⟨_,named,root,rooted,_,within,⟨node,size⟩,stated,_,fits,text,⟨sizeBytes,rfl⟩,_,plain,rfl⟩
    obtain ⟨rfl,real,walked,there⟩ := stat_file stated
    have inside := (withinRoot_iff (resolve_plain (root_plain rooted) path)).mp within
    exact ⟨root,real,size,text,⟨rooted,named,inside,walked,there,fits,by simpa using plain⟩,rfl⟩
  · rintro ⟨root,real,sizeBytes,text,readable,rfl⟩
    have within : withinRoot root (resolve root path) = true :=
      (withinRoot_iff (resolve_plain (root_plain readable.rooted) path)).mpr readable.within
    have stated : host.stat (resolve root path) = .ok (.file sizeBytes text,sizeBytes) := by
      unfold Host.stat
      rw [readable.walked]
      simp [readable.file]
    exact ⟨(),readable.named,root,readable.rooted,(),within,_,stated,(),readable.fits,text,⟨sizeBytes,rfl⟩,(),
      by simpa using readable.plain,rfl⟩

end

end V3Aidlc.RepositoryInspection
