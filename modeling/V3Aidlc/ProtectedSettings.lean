import V3Aidlc.ConfigurationMerges
import V3Aidlc.RuntimeProfiles

/-!
What becomes of the protected settings. The final validation reads three of them under their own
names; whether provenance is still verified, and whether another spelling stands beside a
setting, is decided by the objects that make up its section: those that the layers give it since
the last value that is no object (`protected_iff`).
-/
namespace V3Aidlc.ProtectedSettings
open V3Aidlc.Values V3Aidlc.Loops V3Aidlc.Contracts V3Aidlc.RuntimeConfig V3Aidlc.ConfigurationMerges
open V3Aidlc.RuntimeProfiles

section
variable (lower : String → String)

/-- The section is there under its own name only, and so is the setting in it. -/
def Keeps (configuration : Dict) (part name : String) (value : Json) : Prop :=
  ∃ object, named lower configuration part = [(part,.obj object)] ∧ named lower object name = [(name,value)]

structure Protected (configuration : Dict) : Prop where
  authority : Keeps lower configuration "state" "authority" (.str "state.db")
  snapshots : Keeps lower configuration "state" "snapshotAuthority" (.bool false)
  secrets : Keeps lower configuration "security" "allowRawSecrets" (.bool false)
  provenance : Keeps lower configuration "security" "verifyProvenance" (.bool true)

/-- The objects that make up a section. -/
def section_objects (layers : List Dict) (part : String) : List Dict :=
  objects ((layers.flatMap (fun layer => named lower layer part)).map Prod.snd)

/-- What is said of a setting in them. -/
def said (layers : List Dict) (part name : String) : Dict :=
  (section_objects lower layers part).flatMap (fun object => named lower object name)

/-- The first object of a section names each of its protected settings once at most, and what is
    said of provenance begins with the setting's own name and ends with `true`. -/
structure Careful (layers : List Dict) : Prop where
  once : ∀ setting ∈ [("state","authority"),("state","snapshotAuthority"),("security","allowRawSecrets"),
    ("security","verifyProvenance")], ∀ base ∈ (section_objects lower layers setting.1).head?,
      (named lower base setting.2).length ≤ 1
  first : (said lower layers "security" "verifyProvenance").head?.map Prod.fst = some "verifyProvenance"
  last : (said lower layers "security" "verifyProvenance").getLast?.map Prod.snd = some (.bool true)

end

section
variable {lower : String → String} {loads : String → Py (Option Json)}

/-! ### One setting -/

theorem keeps_alone {configuration object : Dict} {part name : String} {value : Json}
    (alone : named lower configuration part = [(part,.obj object)]) :
    Keeps lower configuration part name value ↔ named lower object name = [(name,value)] := by
  constructor
  · rintro ⟨other,same,only⟩
    rw [alone] at same
    cases same
    exact only
  · exact fun only => ⟨object,alone,only⟩

theorem named_found {d : Dict} {name : String} {value : Json} (found : Dict.get? name d = some value) :
    (name,value) ∈ named lower d name :=
  List.mem_filter.mpr ⟨get?_mem found,by simp⟩

section
variable {base object : Dict} {rest : List Dict} {path name : String}
  (merges : rest.foldlM (fun fields override => merge lower override fields path) base = .ok object)
include merges

/-- A setting that stands alone was named once at most by the first object. -/
theorem alone_few {entry : String × Json} (only : named lower object name = [entry]) :
    (named lower base name).length ≤ 1 := by
  have longer := puts_length (merges_named merges name)
  rw [only] at longer
  exact longer

/-- A setting that is found is the only one of its spellings when the first object names it once at most. -/
theorem found_iff {value : Json} (found : Dict.get? name object = some value) :
    named lower object name = [(name,value)] ↔ (named lower base name).length ≤ 1 := by
  have written := merges_named merges name
  have member : (name,value) ∈ named lower object name := named_found found
  constructor
  · exact alone_few merges
  · intro few
    rcases puts_first few written with ⟨_,none⟩ | ⟨key,_,_,last,_,_,only⟩
    · rw [none] at member
      cases member
    · rw [only] at member ⊢
      rw [List.mem_singleton.mp member]

/-- A setting ends as a constant under its own name. -/
theorem constant_iff {constant : Json} (plain : constant.isDict = false) : named lower object name = [(name,constant)] ↔
    (named lower base name).length ≤ 1 ∧
      ((base :: rest).flatMap (fun fields => named lower fields name)).head?.map Prod.fst = some name ∧
      ((base :: rest).flatMap (fun fields => named lower fields name)).getLast?.map Prod.snd = some constant := by
  have written := merges_named merges name
  rw [List.flatMap_cons]
  by_cases few : (named lower base name).length ≤ 1
  · rcases puts_first few written with ⟨none,absent⟩ | ⟨key,old,others,last,said,values,only⟩
    · rw [none,absent]
      simp
    · have ends := overwrites_last plain values
      have lasts : ((key,old) :: others).getLast?.map Prod.snd = (old :: others.map Prod.snd).getLast? := by
        rw [← List.getLast?_map]
        rfl
      rw [said,only,lasts,← ends]
      simp [few]
  · simp only [few,false_and,iff_false]
    exact fun only => few (alone_few merges only)

end

/-- A section of the assembled configuration is merged from its objects. -/
theorem section_merged {layers : List (String × Json)} {configuration : Dict} {sources : List String}
    (ran : layers.foldlM (add_layer lower) ([],[]) = .ok (configuration,sources)) {part : String} {object : Dict}
    (found : Dict.get? part configuration = some (.obj object)) :
    named lower configuration part = [(part,.obj object)] ∧ ∃ base rest,
      section_objects lower (layers.map (fun layer => fields layer.2)) part = base :: rest ∧
      rest.foldlM (fun fields override => merge lower override fields part) base = .ok object := by
  have written := merges_named (layers_merged ran) part
  have member : (part,.obj object) ∈ named lower configuration part := named_found found
  rcases puts_first (by simp [named]) written with ⟨_,none⟩ | ⟨key,old,others,value,entries,values,only⟩
  · rw [none] at member
    cases member
  · rw [only] at member ⊢
    cases List.mem_singleton.mp member
    refine ⟨rfl,?_⟩
    have given : section_objects lower (layers.map (fun layer => fields layer.2)) part =
        objects (old :: others.map Prod.snd) := by
      have same : (layers.map (fun layer => fields layer.2)).flatMap (fun layer => named lower layer part) =
          (part,old) :: others := entries
      unfold section_objects
      rw [same]
      rfl
    rcases overwrites_objects values with ⟨_,plain⟩ | ⟨base,rest,merged,objects,same,merges⟩
    · cases plain
    · cases same
      exact ⟨base,rest,given.trans objects,merges⟩

/-! ### The final validation -/

theorem isDict_iff {value : Json} : value.isDict = true ↔ value = .obj (fields value) := by
  cases value <;> simp [Json.isDict,Json.dict?,fields]

theorem configuration_valid {profile configuration : Dict} {components : List String}
    (valid : ValidConfiguration lower profile components configuration) :
    ∃ state security, Dict.get? "state" configuration = some (.obj state) ∧
      Dict.get? "security" configuration = some (.obj security) ∧
      Dict.get? "authority" state = some (.str "state.db") ∧ Dict.get? "snapshotAuthority" state = some (.bool false) ∧
      Dict.get? "allowRawSecrets" security = some (.bool false) := by
  have snapshots := of_decide_eq_true valid.snapshots
  have secrets := of_decide_eq_true valid.secrets
  rw [bool?_eq_some] at snapshots secrets
  exact ⟨_,_,get?_of_get (isDict_iff.mp valid.state) (by simp),get?_of_get (isDict_iff.mp valid.security) (by simp),
    get?_of_get valid.authority (by simp),get?_of_get snapshots (by simp),get?_of_get secrets (by simp)⟩

theorem assemble_ok {profile : Dict} {defaults project : Json} {environment : List (String × String)}
    {command_line : Json}
    {assembly : RuntimeAssembly} :
    assemble_runtime lower loads profile defaults project environment command_line = .ok assembly ↔
      validate_runtime_profile lower profile = .ok () ∧ ∃ given configuration sources,
        layers lower loads profile defaults project environment command_line = .ok given ∧
        given.foldlM (add_layer lower) ([],[]) = .ok (configuration,sources) ∧
        validate_runtime_profile lower (profile.set "configuration" (.obj configuration)) = .ok () ∧
        assembly = ⟨text profile "profileId",text profile "profileKind",configuration,
          stable_digest (.obj configuration),sources⟩ := by
  unfold assemble_runtime
  simp only [bind_ok_iff,pure_ok_iff]
  constructor
  · rintro ⟨_,valid,given,listed,⟨configuration,sources⟩,ran,_,again,rfl⟩
    exact ⟨valid,given,configuration,sources,listed,ran,again,rfl⟩
  · rintro ⟨valid,given,configuration,sources,listed,ran,again,rfl⟩
    exact ⟨(),valid,given,listed,(configuration,sources),ran,(),again,rfl⟩

/-- The protected settings are kept exactly when the layers are careful with their sections. -/
theorem protected_iff {profile : Dict} {defaults project : Json} {environment : List (String × String)}
    {command_line : Json}
    {assembly : RuntimeAssembly}
    (ran : assemble_runtime lower loads profile defaults project environment command_line = .ok assembly) :
    ∃ given, layers lower loads profile defaults project environment command_line = .ok given ∧
      (Protected lower assembly.configuration ↔ Careful lower (given.map (fun layer => fields layer.2))) := by
  obtain ⟨_,given,configuration,sources,listed,merged,valid,rfl⟩ := assemble_ok.mp ran
  obtain ⟨components,valid⟩ := assembled_valid valid
  obtain ⟨state,security,stateFound,securityFound,authority,snapshots,secrets⟩ := configuration_valid valid
  obtain ⟨stateAlone,stateBase,stateRest,stateObjects,stateMerges⟩ := section_merged merged stateFound
  obtain ⟨securityAlone,base,rest,objects,merges⟩ := section_merged merged securityFound
  refine ⟨given,listed,?_⟩
  have saidIs : said lower (given.map (fun layer => fields layer.2)) "security" "verifyProvenance" =
      (base :: rest).flatMap (fun object => named lower object "verifyProvenance") := by
    unfold said
    rw [objects]
  constructor
  · rintro ⟨kept,kept',kept'',provenance⟩
    obtain ⟨once,first,last⟩ := (constant_iff merges rfl).mp ((keeps_alone securityAlone).mp provenance)
    refine ⟨?_,by rw [saidIs]; exact first,by rw [saidIs]; exact last⟩
    simp only [List.forall_mem_cons,List.not_mem_nil,false_implies,implies_true,and_true,stateObjects,objects,
      List.head?_cons,
      Option.mem_def,Option.some.injEq,forall_eq']
    exact ⟨(found_iff stateMerges authority).mp ((keeps_alone stateAlone).mp kept),
      (found_iff stateMerges snapshots).mp ((keeps_alone stateAlone).mp kept'),
      (found_iff merges secrets).mp ((keeps_alone securityAlone).mp kept''),once⟩
  · rintro ⟨once,first,last⟩
    simp only [List.forall_mem_cons,List.not_mem_nil,false_implies,implies_true,and_true,stateObjects,objects,
      List.head?_cons,
      Option.mem_def,Option.some.injEq,forall_eq'] at once
    obtain ⟨once,once',once'',provenance⟩ := once
    rw [saidIs] at first last
    exact ⟨(keeps_alone stateAlone).mpr ((found_iff stateMerges authority).mpr once),
      (keeps_alone stateAlone).mpr ((found_iff stateMerges snapshots).mpr once'),
      (keeps_alone securityAlone).mpr ((found_iff merges secrets).mpr once''),
      (keeps_alone securityAlone).mpr ((constant_iff merges rfl).mpr ⟨provenance,first,last⟩)⟩

end

/-! ### Two assemblies -/

def ascii_lower (s : String) : String := String.ofList (s.toList.map Char.toLower)

def sample_loads (raw : String) : Py (Option Json) := .ok (if raw = "true" then some (.bool true) else none)

def sample_security (provenance : Json) : Json := .obj [("allowRawSecrets",.bool false),("verifyProvenance",provenance)]

def sample_profile : Dict :=
  [("schemaVersion",.str "1"),("profileId",.str "dev"),("profileKind",.str "local"),
    ("description",.str "local development"),
    ("components",.arr [.str "state"]),("configuration",.obj [("state",.obj [("authority",.str "state.db"),
      ("snapshotAuthority",.bool false)]),("security",sample_security (.bool true))])]

theorem protected_iff_sample : ∃ assembly, assemble_runtime ascii_lower sample_loads sample_profile .null .null
      [("V3__SECURITY__VERIFYPROVENANCE","true")] .null = .ok assembly ∧
        Protected ascii_lower assembly.configuration := by
  have returns : (assemble_runtime ascii_lower sample_loads sample_profile .null .null
      [("V3__SECURITY__VERIFYPROVENANCE","true")]
      .null).toOption.any (fun _ => true) = true := by decide +kernel
  obtain ⟨assembly,ran,_⟩ := returns_with returns
  obtain ⟨given,listed,kept⟩ := protected_iff ran
  have computed : layers ascii_lower sample_loads sample_profile .null .null
      [("V3__SECURITY__VERIFYPROVENANCE","true")] .null =
      .ok [("defaults",.obj []),("profile",sample_profile.get "configuration"),("project",.obj []),
        ("environment",.obj [("security",.obj [("verifyprovenance",.bool true)])]),("command_line",.obj [])] := by rfl
  rw [computed] at listed
  cases listed
  exact ⟨assembly,ran,kept.mpr ⟨by decide +kernel,by decide +kernel,rfl⟩⟩

/-- Two overrides of a profile that verifies provenance: `null` for the section, then a section
    that does not verify it. They are assembled. -/
theorem provenance_lost :
    (fields ((fields (sample_profile.get "configuration")).get "security")).get "verifyProvenance" = .bool true ∧
    ∃ assembly, assemble_runtime ascii_lower sample_loads sample_profile .null (.obj [("security",.null)]) []
      (.obj [("security",sample_security (.bool false))]) = .ok assembly ∧
    (fields (assembly.configuration.get "security")).get "verifyProvenance" = .bool false := by
  refine ⟨rfl,?_⟩
  have returns : (assemble_runtime ascii_lower sample_loads sample_profile .null (.obj [("security",.null)]) []
      (.obj [("security",sample_security (.bool false))])).toOption.any (fun assembly =>
        ((fields (assembly.configuration.get "security")).get "verifyProvenance").isFalse) = true := by decide +kernel
  obtain ⟨assembly,ran,unverified⟩ := returns_with returns
  exact ⟨assembly,ran,bool?_eq_some.mp (of_decide_eq_true unverified)⟩

end V3Aidlc.ProtectedSettings
