import V3Aidlc.Contracts

/-!
`runtime_config.py`: runtime profiles and the assembly of a configuration from
five layers. Two functions of the standard library stay parameters: `lower` is
`str.lower`, and `loads` is `json.loads` of a text, `none` where it raises a
`JSONDecodeError`.
-/
namespace V3Aidlc.RuntimeConfig
open V3Aidlc.Values V3Aidlc.Loops V3Aidlc.Contracts V3Aidlc.Canonical V3Aidlc.Sha256

def PROFILE_KINDS : List String := ["local","team","hosted","production"]
def COMPONENTS : List String :=
  ["liaison","project_lead","scheduler","worker","state","artifacts","credential_broker","telemetry"]
def SECRET_TERMS : List String := ["password","secret","token","api_key","apikey","credential"]
def SECRET_REFERENCE_PREFIXES : List String := ["env://","file://","broker://"]
def PROTECTED_PATHS : List String :=
  ["security.allowRawSecrets","security.verifyProvenance","state.authority","state.snapshotAuthority"]

structure RuntimeAssembly where
  profile_id : String
  profile_kind : String
  configuration : Dict
  digest : String
  sources : List String

def runtime_error {α : Type} (message : String) : Py α := fail .RuntimeConfigError message
def reject (condition : Bool) (message : String) : Py Unit := reject_if .RuntimeConfigError condition message

def stable_digest (value : Json) : String := sha256 (asciiText value)

/-- `f"{prefix}.{key}" if prefix else key`. -/
def path_of (under key : String) : String := if under = "" then key else under ++ "." ++ key

/-! ### Profiles -/

mutual
/-- Every value under a value, with its path. -/
def walk (under : String) : Json → List (String × Json)
  | .obj fields => walkFields under fields
  | .arr items => walkItems under 0 items
  | _ => []
def walkFields (under : String) : List (String × Json) → List (String × Json)
  | [] => []
  | (key,child) :: rest => (path_of under key,child) :: walk (path_of under key) child ++ walkFields under rest
def walkItems (under : String) (index : Nat) : List Json → List (String × Json)
  | [] => []
  | child :: rest => walk (under ++ "[" ++ toString index ++ "]") child ++ walkItems under (index + 1) rest
end

section
variable (lower : String → String)

def contains_secret_name (path : String) : Bool :=
  let normalized := (lower path).toList.map (fun c => if c = '-' then '_' else c)
  SECRET_TERMS.any (fun term => term.toList <:+: normalized)

/-- `value.startswith(SECRET_REFERENCE_PREFIXES)` of a string. -/
def secret_reference (value : Json) : Bool :=
  match value with
  | .str s => SECRET_REFERENCE_PREFIXES.any (fun start => start.toList.isPrefixOf s.toList)
  | _ => false

def check_secret (entry : String × Json) : Py Unit :=
  reject (contains_secret_name lower entry.1 && !entry.2.isNull && !secret_reference entry.2 &&
    !(["security.allowRawSecrets"].contains entry.1)) (entry.1 ++ " must contain a secret reference, not a value")

/-- The fields of a section that is an object. -/
def fields (value : Json) : Dict := (value.dict?).getD []

def validate_production (configuration : Dict) (components : List String) : Py Unit := do
  let missing := sortedStrings (COMPONENTS.filter (fun component => !components.contains component))
  reject (!missing.isEmpty) ("production profile is missing components: " ++ displayList missing)
  reject (!((fields (configuration.get "security")).get "verifyProvenance").isTrue) "production must verify provenance"
  let telemetry ← as_dict (configuration.getOr "telemetry" (.obj []))
  reject (!(telemetry.get "enabled").isTrue) "production telemetry must be enabled"
  let recovery ← as_dict (configuration.getOr "recovery" (.obj []))
  reject (!(recovery.get "restoreTestsRequired").isTrue) "production restore tests must be required"

def validate_configuration (profile : Dict) (components : List String) (configuration : Dict) : Py Unit := do
  let state := configuration.get "state"
  reject (!state.isDict || !((fields state).get "authority").eq (.str "state.db")) "state.authority must be state.db"
  reject (!((fields state).get "snapshotAuthority").isFalse) "state.snapshotAuthority must be false"
  let security := configuration.get "security"
  reject (!security.isDict ||
    !((fields security).get "allowRawSecrets").isFalse) "security.allowRawSecrets must be false"
  if text profile "profileKind" = "production" then validate_production configuration components
  (walkFields "" configuration).forM (check_secret lower)

def validate_runtime_profile (profile : Dict) : Py Unit := do
  required_strings .RuntimeConfigError profile ["schemaVersion","profileId","profileKind","description"]
  reject (!PROFILE_KINDS.contains (text profile "profileKind")) "profileKind is invalid"
  match profile.get "components" with
  | .arr components => do
    reject components.isEmpty "components must be a non-empty array"
    let unknown ← components.anyM (fun component => do return !(← in_set component COMPONENTS))
    reject unknown "components contains an unknown component"
    let components := components.filterMap Json.str?
    reject (!decide components.Nodup) "components contains duplicates"
    match profile.get "configuration" with
    | .obj configuration => validate_configuration lower profile components configuration
    | _ => runtime_error "configuration must be an object"
  | _ => runtime_error "components must be a non-empty array"

/-! ### Merging -/

/-- The entries whose key is the name but for the case. -/
def named (d : Dict) (name : String) : Dict := d.filter (fun entry => lower entry.1 = lower name)

/-- A single match up to the case takes the place of the supplied key. -/
def matched_key (result : Dict) (supplied_key : String) : String :=
  match named lower result supplied_key with
  | [entry] => entry.1
  | _ => supplied_key

/-- The path is protected and the key has another value. -/
def overrides_protected (result : Dict) (path key : String) (value : Json) : Bool :=
  PROTECTED_PATHS.contains path && (Dict.get? key result).any (fun old => !old.eq value)

mutual
/-- The value for a key that may have one already. -/
def merge_value (value : Json) (existing : Option Json) (path : String) : Py Json :=
  match value,existing with
  | .obj override,some (.obj base) => do
    let merged ← merge override base path
    return .obj merged
  | value,_ => return value
/-- The entries of an override written over a dict, in their order. -/
def merge : List (String × Json) → Dict → String → Py Dict
  | [],result,_ => return result
  | (supplied_key,value) :: rest,result,under => do
    let key := matched_key lower result supplied_key
    let path := path_of under key
    reject (overrides_protected result path key value) ("protected configuration cannot be overridden: " ++ path)
    let value ← merge_value value (Dict.get? key result) path
    merge rest (result.set key value) under
end

/-! ### Environment variables -/

variable (loads : String → Py (Option Json))

def parse_env_value (raw : String) : Py Json := do
  let value ← loads raw
  return value.getD (.str raw)

/-- `text.split("__")`, with the characters of the part it is in. -/
def split_parts : List Char → List Char → List (List Char)
  | part,'_' :: '_' :: rest => part.reverse :: split_parts [] rest
  | part,c :: rest => split_parts (c :: part) rest
  | part,[] => [part.reverse]

/-- The objects on the way to the last part are made where there is nothing. -/
def put_override (name raw : String) : Dict → List String → Py Dict
  | cursor,[] => return cursor
  | cursor,[part] => do
    let value ← parse_env_value loads raw
    return cursor.set part value
  | cursor,part :: rest =>
    match (Dict.get? part cursor).getD (.obj []) with
    | .obj existing => do
      let inner ← put_override name raw existing rest
      return cursor.set part (.obj inner)
    | _ => runtime_error ("conflicting environment override: " ++ name)

def environment_override (start : String) (result : Dict) (setting : String × String) : Py Dict :=
  if start.toList.isPrefixOf setting.1.toList then do
    let parts := (split_parts [] (setting.1.toList.drop start.length)).filter (fun part => !part.isEmpty)
    reject parts.isEmpty ("invalid environment override: " ++ setting.1)
    put_override loads setting.1 setting.2 result (parts.map (fun part => lower (String.ofList part)))
  else return result

/-- The variables are visited in the order of their names. -/
def environment_overrides (environment : List (String × String)) (start : String := "V3__") : Py Dict :=
  (sortedBy Prod.fst environment).foldlM (environment_override lower loads start) []

/-! ### Assembly -/

/-- `layer or {}`. -/
def or_empty (layer : Json) : Json := if layer.truthy then layer else .obj []

section
variable (profile : Dict) (defaults project : Json) (environment : List (String × String)) (command_line : Json)

/-- The five layers, from the weakest to the strongest. -/
def layers : Py (List (String × Json)) := do
  let overrides ← environment_overrides lower loads environment
  return [("defaults",or_empty defaults),("profile",profile.get "configuration"),("project",or_empty project),
    ("environment",.obj overrides),("command_line",or_empty command_line)]

def add_layer (assembled : Dict × List String) (layer : String × Json) : Py (Dict × List String) :=
  if layer.2.truthy then
    match layer.2 with
    | .obj fields => do
      let configuration ← merge lower fields assembled.1 ""
      return (configuration,assembled.2 ++ [layer.1])
    | _ => runtime_error (layer.1 ++ " configuration must be an object")
  else return assembled

def assemble_runtime : Py RuntimeAssembly := do
  validate_runtime_profile lower profile
  let layers ← layers lower loads profile defaults project environment command_line
  let (configuration,sources) ← layers.foldlM (add_layer lower) ([],[])
  validate_runtime_profile lower (profile.set "configuration" (.obj configuration))
  return ⟨text profile "profileId",text profile "profileKind",configuration,stable_digest (.obj configuration),sources⟩

end

end
end V3Aidlc.RuntimeConfig
