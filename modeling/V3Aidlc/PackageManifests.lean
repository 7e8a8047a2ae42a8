import V3Aidlc.PathTexts
import V3Aidlc.RuntimeConfig

/-!
Manifests of packages (`runtime_config.py`). A manifest that is compatible has a list of artifacts
with texts of their own and digests, and wherever it is unpacked, the way to an artifact never leaves
the package, at no name of its path (`package_compatible`).
-/
namespace V3Aidlc.PackageManifests
open V3Aidlc.Values V3Aidlc.Loops V3Aidlc.Contracts V3Aidlc.Sha256 V3Aidlc.Paths V3Aidlc.RuntimeConfig

structure CompatibilityResult where
  compatible : Bool
  reasons : List String
  deriving DecidableEq

def MANIFEST_STRINGS : List String := ["schemaVersion","packageName","packageVersion","frameworkVersion","pythonRequires"]

/-- `Path(path).parts` of a relative path. -/
def parts (path : String) : List String := (components path).filter (fun name => name ≠ "" && name ≠ ".")

/-- One artifact, after those with these paths. -/
def validate_artifact (paths : List String) (artifact : Json) : Py (List String) :=
  match artifact.dict? with
  | none => runtime_error "artifact must be an object"
  | some fields => do
    let path ← required_string .RuntimeConfigError fields "path"
    let digest ← required_string .RuntimeConfigError fields "sha256"
    reject (absolute path || (parts path).contains "..") "artifact path must remain inside the package"
    reject (!isHexDigest digest) "artifact sha256 is invalid"
    reject (paths.contains path) "artifact paths must be unique"
    return paths ++ [path]

def validate_package_manifest (manifest : Dict) : Py Unit := do
  required_strings .RuntimeConfigError manifest MANIFEST_STRINGS
  match manifest.get "artifacts" with
  | .arr artifacts => do
    reject artifacts.isEmpty "artifacts must be a non-empty array"
    let _ ← artifacts.foldlM validate_artifact []
    return ()
  | _ => runtime_error "artifacts must be a non-empty array"

/-- `s in value`: an element, a part of a text or a key. -/
def contained (s : String) : Json → Py Bool
  | .arr items => .ok (memList (.str s) items)
  | .str text => .ok (decide (s.toList <:+: text.toList))
  | .obj fields => .ok ((Dict.keys fields).contains s)
  | _ => .error .TypeError

/-- `set(value)`: elements that can be hashed. -/
def hashed_set (value : Json) : Py (List Json) := do
  let elements ← iterate value
  raise_if (!elements.all Json.hashable) .TypeError
  return elements

/-- The element is one of these texts. -/
def named (names : List String) (element : Json) : Bool := (element.str?).any names.contains

def when_true (condition : Bool) (reason : String) : List String := if condition then [reason] else []

def check_compatibility (manifest : Dict) (framework_version schema_version : String)
    (supported_profile_kinds : List String) : Py CompatibilityResult := do
  validate_package_manifest manifest
  let schema ← contained schema_version (manifest.getOr "supportedSchemaVersions" (.arr []))
  let kinds ← hashed_set (manifest.getOr "supportedProfileKinds" (.arr []))
  let reasons :=
    when_true (text manifest "frameworkVersion" ≠ framework_version) "framework version does not match" ++
    when_true (!schema) "state schema version is not supported" ++
    when_true (!kinds.all (named PROFILE_KINDS)) "manifest declares unknown profile kinds" ++
    when_true (!kinds.any (named supported_profile_kinds)) "no compatible runtime profile kind is available"
  return ⟨reasons.isEmpty,reasons⟩

/-! ### Paths -/

/-- No name of a path leads up, so that the way stays where it began. -/
theorem way_below {names : List String} (up : ".." ∉ names) (root : Place) : root <+: names.foldl enter root := by
  induction names using List.reverseRecOn with
  | nil => exact List.prefix_rfl
  | append_singleton names name ih =>
    obtain ⟨before,last⟩ : ".." ∉ names ∧ ¬ ".." = name := by simpa using up
    rw [List.foldl_concat]
    refine (ih before).trans ?_
    unfold enter
    rw [if_neg (Ne.symm last)]
    split
    · exact List.prefix_rfl
    · exact List.prefix_append ..

theorem parts_up {path : String} : ".." ∈ parts path ↔ ".." ∈ components path := by
  simp [parts]

/-- The way to a path, name by name, never leaves the root. -/
def Inside (path : String) : Prop :=
  ∀ root count, root <+: ((components path).take count).foldl enter root

theorem inside_of {path : String} (up : ".." ∉ components path) : Inside path :=
  fun root _ => way_below (fun member => up (List.mem_of_mem_take member)) root

/-! ### Manifests -/

def artifact_path (artifact : Json) : String := text ((artifact.dict?).getD []) "path"

structure Packaged (artifact : Json) : Prop where
  fields : ∃ fields digest, artifact = .obj fields ∧ Dict.get? "path" fields = some (.str (artifact_path artifact)) ∧
    Dict.get? "sha256" fields = some (.str digest) ∧ isHexDigest digest = true
  filled : blank (artifact_path artifact) = false
  relative : absolute (artifact_path artifact) = false
  below : ".." ∉ components (artifact_path artifact)

structure Manifest (manifest : Dict) (artifacts : List Json) : Prop where
  strings : ∀ key ∈ MANIFEST_STRINGS, ∃ s, Dict.get? key manifest = some (.str s) ∧ blank s = false
  listed : manifest.get "artifacts" = .arr artifacts ∧ artifacts ≠ []
  packaged : ∀ artifact ∈ artifacts, Packaged artifact
  distinct : (artifacts.map artifact_path).Nodup

theorem validate_artifact_ok {paths after : List String} {artifact : Json} :
    validate_artifact paths artifact = .ok after ↔
      Packaged artifact ∧ artifact_path artifact ∉ paths ∧ after = paths ++ [artifact_path artifact] := by
  unfold validate_artifact
  cases artifact with
  | obj fields =>
    simp only [Json.dict?,bind_ok_iff,pure_ok_iff,required_string_ok,RuntimeConfig.reject,reject_if_ok,
      Bool.or_eq_false_iff,Bool.not_eq_false']
    constructor
    · rintro ⟨path,⟨held,filled⟩,digest,⟨sealed_by,_⟩,_,⟨relative,below⟩,_,hex,_,fresh,rfl⟩
      have up : ".." ∉ parts path := by simpa using below
      obtain rfl : artifact_path (.obj fields) = path := text_of_get? held
      exact ⟨⟨⟨fields,digest,rfl,held,sealed_by,hex⟩,filled,relative,fun member => up (parts_up.mpr member)⟩,
        by simpa using fresh,rfl⟩
    · rintro ⟨⟨⟨_,digest,same,held,sealed_by,hex⟩,filled,relative,below⟩,fresh,rfl⟩
      obtain rfl := Json.obj.inj same
      have up : ".." ∉ parts (artifact_path (.obj fields)) := fun member => below (parts_up.mp member)
      exact ⟨_,⟨held,filled⟩,digest,⟨sealed_by,hex_filled hex⟩,(),⟨relative,by simpa using up⟩,(),hex,(),
        by simpa using fresh,rfl⟩
  | _ =>
    refine iff_of_false (by simp [Json.dict?,runtime_error]) ?_
    rintro ⟨⟨⟨_,_,same,_⟩,_⟩,_⟩
    cases same

theorem artifacts_ok {artifacts : List Json} {paths : List String} :
    artifacts.foldlM validate_artifact [] = .ok paths ↔ (∀ artifact ∈ artifacts, Packaged artifact) ∧
      (artifacts.map artifact_path).Nodup ∧ paths = artifacts.map artifact_path := by
  induction artifacts using List.reverseRecOn generalizing paths with
  | nil =>
    rw [foldlM_nil_ok]
    simp [eq_comm]
  | append_singleton artifacts artifact ih =>
    simp only [foldlM_snoc_ok,validate_artifact_ok,ih,List.map_append,List.map_singleton,List.nodup_append]
    constructor
    · rintro ⟨before,⟨each,distinct,rfl⟩,packaged,fresh,rfl⟩
      refine ⟨fun other member => ?_,⟨distinct,by simp,?_⟩,rfl⟩
      · rcases List.mem_append.mp member with early | last
        · exact each other early
        · rw [List.mem_singleton.mp last]
          exact packaged
      · intro a member b last same
        exact fresh (List.mem_singleton.mp last ▸ same ▸ member)
    · rintro ⟨each,⟨distinct,_,apart⟩,rfl⟩
      exact ⟨_,⟨fun other member => each other (by simp [member]),distinct,rfl⟩,each artifact (by simp),
        fun member => apart _ member _ (by simp) rfl,rfl⟩

theorem validate_package_manifest_ok {manifest : Dict} :
    validate_package_manifest manifest = .ok () ↔ ∃ artifacts, Manifest manifest artifacts := by
  unfold validate_package_manifest
  cases listed : manifest.get "artifacts" with
  | arr artifacts =>
    simp only [bind_ok_iff,pure_ok_iff,required_strings_ok,RuntimeConfig.reject,reject_if_ok,artifacts_ok]
    constructor
    · rintro ⟨_,strings,_,filled,_,⟨each,distinct,_⟩,_⟩
      exact ⟨artifacts,strings,⟨listed,by simpa using filled⟩,each,distinct⟩
    · rintro ⟨others,strings,⟨same,filled⟩,each,distinct⟩
      obtain rfl := Json.arr.inj (listed.symm.trans same)
      exact ⟨(),strings,(),by simpa using filled,_,⟨each,distinct,rfl⟩,trivial⟩
  | _ =>
    refine iff_of_false (by simp [bind_ok_iff,runtime_error]) ?_
    rintro ⟨_,_,⟨same,_⟩,_⟩
    rw [listed] at same
    cases same

/-! ### Compatibility -/

/-- What a compatible manifest says of versions and kinds. -/
structure Compatible (manifest : Dict) (framework_version schema_version : String) (supported : List String) : Prop where
  framework : text manifest "frameworkVersion" = framework_version
  schema : contained schema_version (manifest.getOr "supportedSchemaVersions" (.arr [])) = .ok true
  kinds : ∃ kinds, iterate (manifest.getOr "supportedProfileKinds" (.arr [])) = .ok kinds ∧
    (∀ kind ∈ kinds, ∃ s ∈ PROFILE_KINDS, kind = .str s) ∧ ∃ s ∈ supported, .str s ∈ kinds

theorem named_iff {names : List String} {element : Json} : named names element = true ↔ ∃ s ∈ names, element = .str s := by
  cases element <;> simp [named,Json.str?]

theorem when_true_isEmpty {condition : Bool} {reason : String} :
    when_true condition reason = [] ↔ condition = false := by
  cases condition <;> simp [when_true]

theorem check_compatibility_ok {manifest : Dict} {framework_version schema_version : String} {supported : List String}
    {result : CompatibilityResult}
    (ran : check_compatibility manifest framework_version schema_version supported = .ok result) :
    result.compatible = result.reasons.isEmpty ∧
      (result.compatible = true ↔ Compatible manifest framework_version schema_version supported) := by
  unfold check_compatibility hashed_set at ran
  simp only [bind_ok_iff,pure_ok_iff,raise_if_ok] at ran
  obtain ⟨_,_,schema,contains,_,⟨kinds,iterated,_,hashed,rfl⟩,rfl⟩ := ran
  refine ⟨rfl,?_⟩
  simp only [List.isEmpty_iff,List.append_eq_nil_iff,when_true_isEmpty,decide_eq_false_iff_not,not_not,
    Bool.not_eq_false']
  constructor
  · rintro ⟨⟨⟨framework,fine⟩,known⟩,available⟩
    obtain ⟨element,member,one⟩ := List.any_eq_true.mp available
    obtain ⟨s,supported,rfl⟩ := named_iff.mp one
    exact ⟨framework,fine ▸ contains,kinds,iterated,fun kind inside => named_iff.mp (List.all_eq_true.mp known kind inside),
      s,supported,member⟩
  · rintro ⟨framework,fine,others,again,known,s,supported,member⟩
    obtain rfl : kinds = others := Except.ok.inj (iterated.symm.trans again)
    refine ⟨⟨⟨framework,Except.ok.inj (contains.symm.trans fine)⟩,
      List.all_eq_true.mpr (fun kind inside => named_iff.mpr (known kind inside))⟩,
      List.any_eq_true.mpr ⟨_,member,named_iff.mpr ⟨s,supported,rfl⟩⟩⟩

/-- A check that returns says that a package is compatible exactly when it is; its artifacts then have paths of their
    own, and the way to each stays inside the package, wherever that is; and with more kinds supported it stays
    compatible. -/
theorem package_compatible {manifest : Dict} {framework_version schema_version : String} {supported : List String}
    {result : CompatibilityResult}
    (ran : check_compatibility manifest framework_version schema_version supported = .ok result) :
    (result.compatible = true ↔ Compatible manifest framework_version schema_version supported) ∧
    (∃ artifacts, Manifest manifest artifacts ∧ ∀ artifact ∈ artifacts, Inside (artifact_path artifact)) ∧
    ∀ more, supported ⊆ more → result.compatible = true →
      ∃ again, check_compatibility manifest framework_version schema_version more = .ok again ∧ again.compatible = true := by
  obtain ⟨_,meaning⟩ := check_compatibility_ok ran
  unfold check_compatibility at ran
  simp only [bind_ok_iff] at ran
  obtain ⟨_,valid,_,listed,_,hashed,_⟩ := ran
  obtain ⟨artifacts,packaged⟩ := validate_package_manifest_ok.mp valid
  refine ⟨meaning,⟨artifacts,packaged,fun artifact member => inside_of (packaged.packaged artifact member).below⟩,?_⟩
  intro more grown compatible
  obtain ⟨framework,schema,kinds,iterated,known,s,here,member⟩ := meaning.mp compatible
  obtain ⟨again,checked⟩ : ∃ again, check_compatibility manifest framework_version schema_version more = .ok again := by
    unfold check_compatibility
    rw [valid,ok_bind,listed,ok_bind,hashed,ok_bind]
    exact ⟨_,rfl⟩
  exact ⟨again,checked,(check_compatibility_ok checked).2.mpr ⟨framework,schema,kinds,iterated,known,s,grown here,member⟩⟩

def sample_manifest : Dict := [
  ("schemaVersion",.str "0.1"),("packageName",.str "v3-aidlc"),("packageVersion",.str "0.3.0"),
  ("frameworkVersion",.str "0.3.0"),("pythonRequires",.str ">=3.11"),
  ("artifacts",.arr [.obj [("path",.str "src/./v3_aidlc//scheduler.py"),
    ("sha256",.str "ba7816bf8f01cfea414140de5dae2223b00361a396177a9cb410ff61f20015ad")]]),
  ("supportedSchemaVersions",.arr [.str "0.1"]),("supportedProfileKinds",.arr [.str "local",.str "team"])]

theorem package_compatible_local :
    (true = true ↔ Compatible sample_manifest "0.3.0" "0.1" ["local"]) ∧
    (∃ artifacts, Manifest sample_manifest artifacts ∧ ∀ artifact ∈ artifacts, Inside (artifact_path artifact)) ∧
    ∀ more, ["local"] ⊆ more → true = true →
      ∃ again, check_compatibility sample_manifest "0.3.0" "0.1" more = .ok again ∧ again.compatible = true :=
  package_compatible (show check_compatibility sample_manifest "0.3.0" "0.1" ["local"] = .ok ⟨true,[]⟩ by decide +kernel)

end V3Aidlc.PackageManifests
