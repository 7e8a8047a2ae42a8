import V3Aidlc.InsertionMaps
import V3Aidlc.Investigations
import V3Aidlc.Utf8
import V3Aidlc.Worktrees

/-!
Stored reports of investigations (`packages/context`). A report is written once, to a file named by
the digest of its text, and an attempt that finds the file takes it as it is. So a file never changes
once it is there, and what a stored report stands for is exactly what the first attempt at its path
left, be it the whole text or the beginning of it (`reports_stored`).
-/
namespace V3Aidlc.ArtifactStores
open V3Aidlc.Canonical V3Aidlc.Paths V3Aidlc.InsertionMaps V3Aidlc.Investigations V3Aidlc.Utf8
open V3Aidlc.Worktrees (RealPlace path_text)
open V3Aidlc.PathTexts (resolve_name)

/-! ### The text of a report -/

/-- A line of `JSON.stringify(value, null, 2)`, at a depth. -/
def indent (depth : Nat) : String := "\n" ++ String.ofList (List.replicate (2 * depth) ' ')

def bracketed (opening closing : String) (depth : Nat) (items : List String) : String :=
  if items = [] then opening ++ closing
  else opening ++ indent (depth + 1) ++ join ("," ++ indent (depth + 1)) items ++ indent depth ++ closing

/-- An object by its fields, whose values are written one level deeper. -/
def fields (depth : Nat) (entries : List (String × String)) : String :=
  bracketed "\x7b" "\x7d" depth (entries.map (fun entry => quote entry.1 ++ ": " ++ entry.2))

def texts (depth : Nat) (items : List String) : String := bracketed "[" "]" depth (items.map quote)

def truth (b : Bool) : String := if b then "true" else "false"

def file_text (depth : Nat) (file : InvestigatedFile) : String := fields depth [
  ("path",quote file.path),("kind",quote file.kind.text),("relevanceScore",toString file.relevanceScore),
  ("reason",quote file.reason),("content",quote file.content),("sizeBytes",toString file.sizeBytes)]

/-- `JSON.stringify(report, null, 2)`. -/
def report_text (report : InvestigationReport) : String := fields 0 [
  ("schemaVersion",quote report.schemaVersion),("task",quote report.task),
  ("repository",fields 1 [("root",quote (path_text report.root)),("headRevision",quote report.headRevision),
    ("branch",quote report.branch),("clean",truth report.clean)]),
  ("instructions",texts 1 report.instructions),
  ("relevantFiles",bracketed "[" "]" 1 (report.relevantFiles.map (file_text 2))),
  ("existingPatterns",texts 1 report.existingPatterns),("relatedTests",texts 1 report.relatedTests),
  ("unknowns",texts 1 report.unknowns),("risks",texts 1 report.risks),
  ("contextBytes",toString report.contextBytes),("excludedFileCount",toString report.excludedFileCount)]

def content (report : InvestigationReport) : String := report_text report ++ "\n"

example : fields 0 [("a",texts 1 ["x","y"]),("b",texts 1 []),("c",fields 1 [("d",truth true)])] =
    "\x7b\n  \"a\": [\n    \"x\",\n    \"y\"\n  ],\n  \"b\": [],\n  \"c\": \x7b\n    \"d\": true\n  \x7d\n\x7d" := by decide +kernel

/-! ### The store -/

/-- The files below the directory of the store, by their places. -/
abbrev Files := InsertionMap Place (List UInt8)

structure PersistedArtifact where
  path : Place
  sha256 : String
  sizeBytes : Nat
  deriving DecidableEq

/-- What happens to an attempt: there is no directory for it, the file cannot be made, the write stops after some
    bytes, or it is whole. -/
inductive Outcome where
  | noDirectory | refused
  | cut (bytes : Nat)
  | whole

structure Attempt where
  report : InvestigationReport
  outcome : Outcome

inductive StoreError where
  | SystemError

/-- `ArtifactStore`, in a process. -/
structure ArtifactStore where
  cwd : RealPlace
  root : String

/-- `resolve(directory, name)`, with `directory = resolve(this.root, 'investigations')`. -/
def ArtifactStore.place (store : ArtifactStore) (sha256 : String) : Place :=
  resolve (resolve (resolve store.cwd store.root) "investigations") (sha256 ++ ".json")

def ArtifactStore.artifact (store : ArtifactStore) (report : InvestigationReport) : PersistedArtifact where
  path := store.place (Sha256.sha256 (content report))
  sha256 := Sha256.sha256 (content report)
  sizeBytes := (encode (content report)).length

/-- `persistInvestigation`: the flag `wx` makes a file that is there an error, which is passed over. -/
def persistInvestigation (store : ArtifactStore) (attempt : Attempt) (files : Files) :
    Except StoreError PersistedArtifact × Files :=
  let artifact := store.artifact attempt.report
  match attempt.outcome,files.get? artifact.path with
  | .noDirectory,_ => (.error .SystemError,files)
  | _,some _ => (.ok artifact,files)
  | .refused,none => (.error .SystemError,files)
  | .cut bytes,none =>
    (.error .SystemError,files.set artifact.path ((encode (content attempt.report)).take bytes))
  | .whole,none => (.ok artifact,files.set artifact.path (encode (content attempt.report)))

/-- The files after some attempts. -/
def stored (store : ArtifactStore) (attempts : List Attempt) (files : Files) : Files :=
  attempts.foldl (fun files attempt => (persistInvestigation store attempt files).2) files

/-! ### What is left where nothing was -/

def Attempt.left (attempt : Attempt) : Option (List UInt8) :=
  match attempt.outcome with
  | .noDirectory | .refused => none
  | .cut bytes => some ((encode (content attempt.report)).take bytes)
  | .whole => some (encode (content attempt.report))

/-- What the first of some attempts at a place leaves there. -/
def first_left (store : ArtifactStore) (path : Place) (attempts : List Attempt) : Option (List UInt8) :=
  attempts.findSome? (fun attempt => if (store.artifact attempt.report).path = path then attempt.left else none)

section
variable {store : ArtifactStore} {files : Files}

/-- An attempt: it fails on the directory, finds a file, or is the first at its place. -/
theorem persist_cases (attempt : Attempt) (files : Files) :
    (attempt.left = none ∧ persistInvestigation store attempt files = (.error .SystemError,files)) ∨
    ((files.get? (store.artifact attempt.report).path).isSome ∧
      persistInvestigation store attempt files = (.ok (store.artifact attempt.report),files)) ∨
    files.get? (store.artifact attempt.report).path = none ∧ ∃ bytes, attempt.left = some bytes ∧
      (persistInvestigation store attempt files).2 = files.set (store.artifact attempt.report).path bytes ∧
      ∀ artifact, (persistInvestigation store attempt files).1 = .ok artifact →
        artifact = store.artifact attempt.report ∧ bytes = encode (content attempt.report) := by
  unfold persistInvestigation Attempt.left
  dsimp only
  cases held : files.get? (store.artifact attempt.report).path with
  | some bytes =>
    cases attempt.outcome with
    | noDirectory => exact .inl ⟨rfl,rfl⟩
    | refused => exact .inr (.inl ⟨rfl,rfl⟩)
    | cut _ => exact .inr (.inl ⟨rfl,rfl⟩)
    | whole => exact .inr (.inl ⟨rfl,rfl⟩)
  | none =>
    cases attempt.outcome with
    | noDirectory => exact .inl ⟨rfl,rfl⟩
    | refused => exact .inl ⟨rfl,rfl⟩
    | cut bytes =>
      refine .inr (.inr ⟨rfl,_,rfl,rfl,fun artifact returned => ?_⟩)
      cases returned
    | whole => exact .inr (.inr ⟨rfl,_,rfl,rfl,fun artifact returned => ⟨(Except.ok.inj returned).symm,rfl⟩⟩)

/-- The files after an attempt: as they were, or with what it leaves where nothing was. -/
theorem persisted_get? (attempt : Attempt) (path : Place) :
    (persistInvestigation store attempt files).2.get? path =
      (files.get? path).or (if (store.artifact attempt.report).path = path then attempt.left else none) := by
  rcases persist_cases attempt files with ⟨nothing,same⟩ | ⟨held,same⟩ | ⟨held,bytes,left,after,_⟩
  · rw [same,nothing,ite_self,Option.or_none]
  · rw [same]
    by_cases here : (store.artifact attempt.report).path = path
    · rw [here] at held
      rw [Option.or_of_isSome held]
    · rw [if_neg here,Option.or_none]
  · rw [after,left,InsertionMap.get?_set]
    by_cases here : (store.artifact attempt.report).path = path
    · rw [here] at held
      rw [if_pos here,if_pos here.symm,held]
      rfl
    · rw [if_neg here,if_neg (Ne.symm here),Option.or_none]

theorem stored_cons (attempt : Attempt) (rest : List Attempt) :
    stored store (attempt :: rest) files = stored store rest (persistInvestigation store attempt files).2 := by
  unfold stored
  rw [List.foldl_cons]

theorem stored_get? (attempts : List Attempt) (path : Place) :
    (stored store attempts files).get? path = (files.get? path).or (first_left store path attempts) := by
  induction attempts generalizing files with
  | nil => simp [stored,first_left]
  | cons attempt rest ih =>
    have next : first_left store path (attempt :: rest) =
        (if (store.artifact attempt.report).path = path then attempt.left else none).or (first_left store path rest) := by
      unfold first_left
      rw [List.findSome?_cons]
      cases (if (store.artifact attempt.report).path = path then attempt.left else none) <;> rfl
    rw [stored_cons,ih,persisted_get?,Option.or_assoc,next]

theorem stored_append (before after : List Attempt) :
    stored store (before ++ after) files = stored store after (stored store before files) := List.foldl_append ..

theorem persisted_ok {attempt : Attempt} {artifact : PersistedArtifact}
    (returned : (persistInvestigation store attempt files).1 = .ok artifact) :
    artifact = store.artifact attempt.report ∧
      ((files.get? artifact.path).isSome ∨ attempt.left = some (encode (content attempt.report))) := by
  rcases persist_cases attempt files with ⟨_,same⟩ | ⟨held,same⟩ | ⟨_,bytes,left,_,whole⟩
  · rw [same] at returned
    cases returned
  · rw [same] at returned
    have made := (Except.ok.inj returned).symm
    exact ⟨made,.inl (made ▸ held)⟩
  · obtain ⟨made,complete⟩ := whole artifact returned
    exact ⟨made,.inr (left.trans (congrArg some complete))⟩

/-! ### Places -/

theorem digest_plain {digest : String} (hex : Sha256.isHexDigest digest = true) : Plain (digest ++ ".json") := by
  simp only [Sha256.isHexDigest,decide_eq_true_eq,List.all_eq_true] at hex
  obtain ⟨long,digits⟩ := hex
  have longer : ∀ other : String, other.length < 64 → digest ++ ".json" ≠ other := by
    rintro other short rfl
    rw [String.length_append] at short
    omega
  refine ⟨longer _ (by decide),longer _ (by decide),longer _ (by decide),?_⟩
  · intro slash
    rcases List.mem_append.mp (String.toList_append ▸ slash) with inside | ending
    · exact absurd (digits _ inside) (by decide)
    · exact absurd ending (by decide)

/-- The file of a digest, in the directory of the store. -/
theorem place_of {digest : String} (hex : Sha256.isHexDigest digest = true) :
    store.place digest = resolve store.cwd store.root ++ ["investigations",digest ++ ".json"] := by
  have directory : Plain "investigations" := ⟨by decide,by decide,by decide,by decide⟩
  unfold ArtifactStore.place
  rw [resolve_name _ directory,resolve_name _ (digest_plain hex),List.append_assoc]
  rfl

/-! ### Runs -/

theorem artifact_path (report : InvestigationReport) : (store.artifact report).path =
    resolve store.cwd store.root ++ ["investigations",Sha256.sha256 (content report) ++ ".json"] := by
  unfold ArtifactStore.artifact
  simp only [place_of (Sha256.sha256_hex (content report))]

/-- What is left at the place of a text, beyond attempts with another text of the same digest, is a beginning of it. -/
theorem left_beginning {attempts : List Attempt} {report : InvestigationReport} {bytes : List UInt8}
    (found : first_left store (store.artifact report).path attempts = some bytes) :
    bytes <+: encode (content report) ∨ ∃ attempt ∈ attempts, content attempt.report ≠ content report ∧
      Sha256.sha256 (content attempt.report) = Sha256.sha256 (content report) := by
  obtain ⟨attempt,member,here⟩ := List.exists_of_findSome?_eq_some found
  by_cases there : (store.artifact attempt.report).path = (store.artifact report).path
  · rw [if_pos there] at here
    have digests : Sha256.sha256 (content attempt.report) = Sha256.sha256 (content report) := by
      rw [artifact_path,artifact_path] at there
      have names : Sha256.sha256 (content attempt.report) ++ ".json" = Sha256.sha256 (content report) ++ ".json" := by
        simpa using List.append_cancel_left there
      exact (String.append_left_inj ".json").mp names
    by_cases texts : content attempt.report = content report
    · left
      rw [← texts]
      unfold Attempt.left at here
      cases made : attempt.outcome with
      | noDirectory => simp [made] at here
      | refused => simp [made] at here
      | cut n =>
        rw [made] at here
        exact Option.some.inj here ▸ List.take_prefix ..
      | whole =>
        rw [made] at here
        exact Option.some.inj here ▸ List.prefix_rfl
    · exact .inr ⟨attempt,member,texts,digests⟩
  · rw [if_neg there] at here
    cases here

/-- What a persisted report comes to in a run. -/
structure Stands (store : ArtifactStore) (before : List Attempt) (report : InvestigationReport) (final : Files)
    (artifact : PersistedArtifact) : Prop where
  named : artifact = store.artifact report ∧ artifact.path =
    resolve store.cwd store.root ++ ["investigations",Sha256.sha256 (content report) ++ ".json"]
  kept : ∃ bytes, final.get? artifact.path = some bytes ∧ (bytes <+: encode (content report) ∨
    ∃ attempt ∈ before, content attempt.report ≠ content report ∧
      Sha256.sha256 (content attempt.report) = Sha256.sha256 (content report))
  whole : final.get? artifact.path = some (encode (content report)) ↔
    ∀ bytes, first_left store artifact.path before = some bytes → bytes = encode (content report)

def ReportsStored (store : ArtifactStore) (before : List Attempt) (attempt : Attempt) (after : List Attempt) : Prop :=
  ∀ artifact, (persistInvestigation store attempt (stored store before .empty)).1 = .ok artifact →
    Stands store before attempt.report (stored store (before ++ attempt :: after) .empty) artifact

/-- A report whose attempt returns is named by its digest, has a file from then on, and that file is its text exactly
    when the first attempt that left one there left this text. -/
theorem reports_stored (store : ArtifactStore) (before : List Attempt) (attempt : Attempt) (after : List Attempt) :
    ReportsStored store before attempt after := by
  intro artifact returned
  obtain ⟨made,there⟩ := persisted_ok returned
  subst made
  have nothing : (InsertionMap.empty : Files).get? (store.artifact attempt.report).path = none := rfl
  have earlier : (stored store before .empty).get? (store.artifact attempt.report).path =
      first_left store (store.artifact attempt.report).path before := by
    rw [stored_get?,nothing]
    rfl
  rw [earlier] at there
  -- the file at the place, once the attempt has returned, is the one that was found or the whole text
  have final : (stored store (before ++ attempt :: after) .empty).get? (store.artifact attempt.report).path =
      some ((first_left store (store.artifact attempt.report).path before).getD (encode (content attempt.report))) := by
    rw [stored_append,stored_cons,stored_get?,persisted_get?,earlier,if_pos rfl]
    cases found : first_left store (store.artifact attempt.report).path before with
    | some bytes => rfl
    | none =>
      rcases there with held | left
      · simp [found] at held
      · rw [left,Option.none_or,Option.some_or,Option.getD_none]
  refine ⟨⟨rfl,artifact_path attempt.report⟩,⟨_,final,?_⟩,?_⟩
  · cases found : first_left store (store.artifact attempt.report).path before with
    | some bytes =>
      rw [Option.getD_some]
      exact left_beginning found
    | none =>
      rw [Option.getD_none]
      exact .inl List.prefix_rfl
  · rw [final]
    cases found : first_left store (store.artifact attempt.report).path before with
    | some bytes => simp
    | none => simp

end

/-! ### A write that was cut -/

def sample_store : ArtifactStore := ⟨Worktrees.sample_host.cwd,"artifacts"⟩

def sample_report : InvestigationReport :=
  ⟨"1.0.0","notes",["srv","repo"],"4b825dc","main",true,[],[],[],[],[],[],0,0⟩

theorem bracketed_opens (opening closing : String) (depth : Nat) (items : List String) :
    ∃ rest, bracketed opening closing depth items = opening ++ rest := by
  unfold bracketed
  split
  · exact ⟨closing,rfl⟩
  · exact ⟨indent (depth + 1) ++ join ("," ++ indent (depth + 1)) items ++ indent depth ++ closing,
      by simp only [String.append_assoc]⟩

/-- A brace and a line feed at the least. -/
theorem content_length (report : InvestigationReport) : 1 < (encode (content report)).length := by
  obtain ⟨rest,text⟩ : ∃ rest, report_text report = "\x7b" ++ rest := by
    unfold report_text fields
    exact bracketed_opens ..
  have split : encode (content report) = encode "\x7b" ++ encode rest ++ encode "\n" := by
    simp [content,text,encode]
  have opening : (encode "\x7b").length = 1 := by decide
  have closing : (encode "\n").length = 1 := by decide
  rw [split,List.length_append,List.length_append]
  omega

/-- The attempts at one report, the first of which is cut after a byte. -/
def cut_at (report : InvestigationReport) : List Attempt := [⟨report,.cut 1⟩]

theorem cut_left (store : ArtifactStore) (report : InvestigationReport) :
    first_left store (store.artifact report).path (cut_at report) = some ((encode (content report)).take 1) := by
  simp [first_left,cut_at,Attempt.left]

theorem cut_found (store : ArtifactStore) (report : InvestigationReport) :
    (persistInvestigation store ⟨report,.whole⟩ (stored store (cut_at report) .empty)).1 =
      .ok (store.artifact report) := by
  have held : (stored store (cut_at report) .empty).get? (store.artifact report).path =
      some ((encode (content report)).take 1) := by
    rw [stored_get?,cut_left]
    rfl
  unfold persistInvestigation
  simp only [held]

/-- A write stops after one byte, and the attempt that follows takes this byte for the report. -/
theorem reports_stored_cut : ∃ artifact,
    (persistInvestigation sample_store ⟨sample_report,.whole⟩ (stored sample_store (cut_at sample_report) .empty)).1 =
      .ok artifact ∧
    Stands sample_store (cut_at sample_report) sample_report
      (stored sample_store (cut_at sample_report ++ [⟨sample_report,.whole⟩]) .empty) artifact ∧
    (stored sample_store (cut_at sample_report ++ [⟨sample_report,.whole⟩]) .empty).get? artifact.path ≠
      some (encode (content sample_report)) := by
  have returned := cut_found sample_store sample_report
  have stands : Stands sample_store (cut_at sample_report) sample_report
      (stored sample_store (cut_at sample_report ++ [⟨sample_report,.whole⟩]) .empty) _ :=
    reports_stored sample_store (cut_at sample_report) ⟨sample_report,.whole⟩ [] _ returned
  refine ⟨_,returned,stands,fun whole => ?_⟩
  have short := congrArg List.length (stands.whole.mp whole _ (cut_left sample_store sample_report))
  have long := content_length sample_report
  rw [List.length_take] at short
  omega

end V3Aidlc.ArtifactStores
