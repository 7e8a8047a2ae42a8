import V3Aidlc.Contracts
import V3Aidlc.Effects
import V3Aidlc.InsertionMaps

/-!
The provider adapters of the TypeScript runtime (`packages/providers`): what a runner
lacks for a request, the run of a structured adapter through its transport, and the
registry that selects a runner. Amounts are whole numbers, as the reference requires.
-/
namespace V3Aidlc.Providers
open V3Aidlc.Values V3Aidlc.Loops V3Aidlc.Canonical V3Aidlc.Contracts V3Aidlc.Effects V3Aidlc.InsertionMaps

inductive AgentRole where
  | investigator | planner | implementer | reviewer
  deriving DecidableEq

inductive Sensitivity where
  | «public» | internal | confidential | restricted | secret
  deriving DecidableEq

inductive Provider where
  | codex | claude
  deriving DecidableEq

inductive ProfileStatus where
  | available | degraded | unavailable
  deriving DecidableEq

inductive Authorization where
  | proceed | proceed_with_record | escalate | block
  deriving DecidableEq

inductive ResultStatus where
  | completed | failed | blocked | cancelled
  deriving DecidableEq

def AgentRole.value : AgentRole → String
  | .investigator => "investigator"
  | .planner => "planner"
  | .implementer => "implementer"
  | .reviewer => "reviewer"

def Sensitivity.value : Sensitivity → String
  | .public => "public"
  | .internal => "internal"
  | .confidential => "confidential"
  | .restricted => "restricted"
  | .secret => "secret"

def Provider.value : Provider → String
  | .codex => "codex"
  | .claude => "claude"

def ProfileStatus.value : ProfileStatus → String
  | .available => "available"
  | .degraded => "degraded"
  | .unavailable => "unavailable"

def Authorization.value : Authorization → String
  | .proceed => "proceed"
  | .proceed_with_record => "proceed_with_record"
  | .escalate => "escalate"
  | .block => "block"

structure CapabilityProfile where
  id : String
  adapterId : String
  adapterVersion : String
  provider : Provider
  model : String
  status : ProfileStatus
  roles : List AgentRole
  capabilities : List String
  tools : List String
  networkHosts : List String
  maxContextBytes : Int
  maxOutputBytes : Int
  maxSensitivity : Sensitivity
  structuredOutput : Bool
  externalEffects : Bool
  idempotent : Bool

structure AgentRunRequest where
  id : String
  projectId : String
  workPackageId : String
  role : AgentRole
  objective : String
  contextManifestId : String
  contextDigest : String
  contextBytes : Int
  sensitivity : Sensitivity
  requiredCapabilities : List String
  requiredTools : List String
  requiredNetworkHosts : List String
  structuredOutput : Bool
  externalEffects : Bool
  maxOutputBytes : Int
  completionCriteria : List String
  authorization : Authorization
  attempt : Int
  idempotencyKey : String

structure Usage where
  inputTokens : Option Int
  outputTokens : Option Int

structure AgentRunResult where
  runId : String
  projectId : String
  workPackageId : String
  adapterId : String
  profileId : String
  requestDigest : String
  status : ResultStatus
  summary : String
  artifactIds : List String
  evidenceIds : List String
  findingIds : List String
  satisfiedCriteria : List String
  usage : Usage
  providerResultRef : String
  startedAt : Int
  finishedAt : Int

structure ProviderInvocation where
  provider : Provider
  model : String
  request : AgentRunRequest
  requestDigest : String

/-- What a transport returns. -/
structure ProviderAnswer where
  stdout : String
  providerResultRef : String
  startedAt : Int
  finishedAt : Int

inductive Raised where
  | ProviderContractError (message : String)
  | Error (message : String)

variable {σ : Type}

/-- `ProviderTransport.invoke`, whatever it does. -/
abbrev ProviderTransport (σ : Type) := ProviderInvocation → Proc σ Raised ProviderAnswer

structure AgentRunner (σ : Type) where
  capabilityProfile : Proc σ Raised CapabilityProfile
  run : AgentRunRequest → Proc σ Raised AgentRunResult

/-! ### The output of a provider -/

structure ProviderOutput where
  status : ResultStatus
  summary : String
  artifactIds : List String
  evidenceIds : List String
  findingIds : List String
  satisfiedCriteria : List String
  usage : Usage

def result_status? : Json → Option ResultStatus
  | .str "completed" => some .completed
  | .str "failed" => some .failed
  | .str "blocked" => some .blocked
  | .str "cancelled" => some .cancelled
  | _ => none

/-- `z.string().min(1)`. -/
def summary? (value : Json) : Option String := value.str?.filter (fun s => s ≠ "")

/-- `z.array(z.string()).default([])`. -/
def ids? (output : Dict) (key : String) : Option (List String) :=
  match Dict.get? key output with
  | none => some []
  | some value => strings? value

/-- The whole number of a JavaScript number, within the safe integers. -/
def safe_integer? (value : Json) : Option Int :=
  let whole := match value with
    | .int n => some n
    | .float x => if x.value.den = 1 then some x.value.num else none
    | _ => none
  whole.filter (fun n => n.natAbs < 2^53)

/-- `z.number().int().nonnegative().optional()`. -/
def tokens? (usage : Dict) (key : String) : Option (Option Int) :=
  match Dict.get? key usage with
  | none => some none
  | some value => ((safe_integer? value).filter (fun n => 0 ≤ n)).map some

def usage? (output : Dict) : Option Usage := do
  let usage ← match Dict.get? "usage" output with
    | none => some []
    | some value => value.dict?
  let inputTokens ← tokens? usage "inputTokens"
  let outputTokens ← tokens? usage "outputTokens"
  return ⟨inputTokens,outputTokens⟩

/-- `outputSchema.safeParse`: unknown keys are left out. -/
def outputSchema (value : Json) : Option ProviderOutput := do
  let output ← value.dict?
  let status ← result_status? (output.get "status")
  let summary ← summary? (output.get "summary")
  let artifactIds ← ids? output "artifactIds"
  let evidenceIds ← ids? output "evidenceIds"
  let findingIds ← ids? output "findingIds"
  let satisfiedCriteria ← ids? output "satisfiedCriteria"
  let usage ← usage? output
  return ⟨status,summary,artifactIds,evidenceIds,findingIds,satisfiedCriteria,usage⟩

/-! ### Requirements -/

def sensitivityRank : Sensitivity → Nat
  | .public => 0
  | .internal => 1
  | .confidential => 2
  | .restricted => 3
  | .secret => 4

def reason_if (condition : Bool) (reason : String) : List String := if condition then [reason] else []

/-- The required items that are not offered, in the order they are required. -/
def lacking (label : String) (required offered : List String) : List String :=
  (required.filter (fun item => !offered.contains item)).map (fun item => "missing " ++ label ++ " " ++ item)

def missing (profile : CapabilityProfile) (request : AgentRunRequest) : List String :=
  reason_if (profile.status ≠ .available) ("profile is " ++ profile.status.value) ++
  reason_if (!profile.roles.contains request.role) ("role " ++ request.role.value ++ " is unsupported") ++
  lacking "capability" request.requiredCapabilities profile.capabilities ++
  lacking "tool" request.requiredTools profile.tools ++
  lacking "network host" request.requiredNetworkHosts profile.networkHosts ++
  reason_if (profile.maxContextBytes < request.contextBytes) "context exceeds runner limit" ++
  reason_if (profile.maxOutputBytes < request.maxOutputBytes) "output exceeds runner limit" ++
  reason_if (sensitivityRank profile.maxSensitivity < sensitivityRank request.sensitivity)
    "context exceeds runner sensitivity clearance" ++
  reason_if (request.structuredOutput && !profile.structuredOutput) "structured output is unsupported" ++
  reason_if (request.externalEffects && !profile.externalEffects) "external effects are unsupported" ++
  reason_if (request.authorization = .block || request.authorization = .escalate)
    ("authorization is " ++ request.authorization.value)

/-! ### Runs -/

def contract_error {α : Type} (message : String) : Except Raised α := .error (.ProviderContractError message)

/-- A completed output meets the criteria with evidence; no other claims any. -/
def check_completion (request : AgentRunRequest) (output : ProviderOutput) : Except Raised Unit :=
  if output.status = .completed then
    raise_if (!(request.completionCriteria.filter (fun criterion =>
      !output.satisfiedCriteria.contains criterion)).isEmpty
      || output.evidenceIds.isEmpty) (.ProviderContractError "Completion claim lacks criteria or evidence")
  else raise_if (!output.satisfiedCriteria.isEmpty)
    (.ProviderContractError "Non-completed result cannot claim satisfied criteria")

section
-- `JSON.stringify` writes the keys of the request in the order of the object, which the
-- interface leaves open; `JSON.parse` fails on malformed text.
variable (stringify : AgentRunRequest → String) (parse : String → Option Json)

def canonicalDigest (request : AgentRunRequest) : String := Sha256.sha256 (stringify request)

/-- What the adapter makes of the answer. -/
def read_answer (profile : CapabilityProfile) (request : AgentRunRequest) (raw : ProviderAnswer) :
    Except Raised AgentRunResult :=
  match parse raw.stdout with
  | none => contract_error "Provider returned malformed JSON"
  | some parsedJson =>
    match outputSchema parsedJson with
    | none => contract_error "Provider output failed schema validation"
    | some parsed => do
      check_completion request parsed
      return {
        runId := request.id
        projectId := request.projectId
        workPackageId := request.workPackageId
        adapterId := profile.adapterId
        profileId := profile.id
        requestDigest := canonicalDigest stringify request
        status := parsed.status
        summary := parsed.summary
        artifactIds := parsed.artifactIds
        evidenceIds := parsed.evidenceIds
        findingIds := parsed.findingIds
        satisfiedCriteria := parsed.satisfiedCriteria
        usage := parsed.usage
        providerResultRef := raw.providerResultRef
        startedAt := raw.startedAt
        finishedAt := raw.finishedAt
      }

def StructuredAdapter.run (profile : CapabilityProfile) (transport : ProviderTransport σ) (request : AgentRunRequest) :
    Proc σ Raised AgentRunResult := do
  let reasons := missing profile request
  Proc.lift (raise_if (!reasons.isEmpty) (.ProviderContractError (join "; " reasons)))
  let raw ← transport ⟨profile.provider,profile.model,request,canonicalDigest stringify request⟩
  Proc.lift (read_answer stringify parse profile request raw)

def StructuredAdapter (profile : CapabilityProfile) (transport : ProviderTransport σ) : AgentRunner σ where
  capabilityProfile := return profile
  run := StructuredAdapter.run stringify parse profile transport

end

/-! ### The registry -/

abbrev ProviderRegistry (σ : Type) := InsertionMap String (AgentRunner σ)

def register (registry : ProviderRegistry σ) (adapterId : String) (runner : AgentRunner σ) :
    Except Raised (ProviderRegistry σ) := do
  raise_if (registry.keys.contains adapterId) (.ProviderContractError ("Duplicate adapter " ++ adapterId))
  return registry.set adapterId runner

abbrev Candidate (σ : Type) := AgentRunner σ × CapabilityProfile

/-- The loop of `select`: the eligible runners and the rejections. -/
def survey (request : AgentRunRequest) : List (String × AgentRunner σ) →
    Proc σ Raised (List (Candidate σ) × List String)
  | [] => return ([],[])
  | (adapterId,runner) :: rest => do
    let profile ← runner.capabilityProfile
    let (eligible,rejections) ← survey request rest
    let reasons := missing profile request
    if reasons.isEmpty then return ((runner,profile) :: eligible,rejections)
    else return (eligible,(adapterId ++ ": " ++ join ", " reasons) :: rejections)

section
-- `localeCompare` of two adapter ids
variable (localeCompare : String → String → Int)

/-- The comparator of the sort. -/
def compare_candidates (left right : CapabilityProfile) : Int :=
  let sensitivity := (sensitivityRank left.maxSensitivity : Int) - sensitivityRank right.maxSensitivity
  if sensitivity ≠ 0 then sensitivity else
  let context := left.maxContextBytes - right.maxContextBytes
  if context ≠ 0 then context else
  let output := left.maxOutputBytes - right.maxOutputBytes
  if output ≠ 0 then output else
  localeCompare left.adapterId right.adapterId

def sorted_candidates (eligible : List (Candidate σ)) : List (Candidate σ) :=
  eligible.insertionSort (fun left right => compare_candidates localeCompare left.2 right.2 ≤ 0)

def select (registry : ProviderRegistry σ) (request : AgentRunRequest) : Proc σ Raised (AgentRunner σ) := do
  let (eligible,rejections) ← survey request registry.entries
  match sorted_candidates localeCompare eligible with
  | [] => Proc.lift (contract_error ("No eligible provider. " ++ join " | " rejections))
  | selected :: _ => return selected.1

end
end V3Aidlc.Providers
