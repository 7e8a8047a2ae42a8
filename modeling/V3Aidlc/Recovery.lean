import V3Aidlc.Contracts

/-!
Durable history and recovery planning (`recovery.py`). A history is a chain: each
event has the next sequence number, the digest of the event before it and the
digest of its own content. A recovery plan reads the dispatches and completions
of a verified history and says what to do with each run that was dispatched.
-/
namespace V3Aidlc.Recovery
open V3Aidlc.Values V3Aidlc.Loops V3Aidlc.Timestamps V3Aidlc.Contracts V3Aidlc.Canonical V3Aidlc.Sha256

def ZERO_HASH : String := String.ofList (List.replicate 64 '0')
def ACTOR_TYPES : List String := ["user","liaison","project_lead","agent","tool","system"]
def LEASE_STATUSES : List String := ["active","released","expired","revoked"]

inductive RecoveryAction where
  | WAIT_FOR_LEASE
  | RECLAIM_AND_REQUEUE
  | VERIFY_EXTERNAL_EFFECT
  | RECONCILE_COMPLETED_RUN
  | RECONCILE_ORPHAN_RUN
  | ESCALATE_ATTEMPT_BUDGET
  deriving DecidableEq

structure RecoveryStep where
  action : RecoveryAction
  run_id : String
  lease_id : Option String
  reason : String

structure RecoveryPlan where
  generated_at : Json
  verified_through_sequence : Nat
  steps : List RecoveryStep

def recovery_error {α : Type} (message : String) : Py α := fail .RecoveryError message
def reject (condition : Bool) (message : String) : Py Unit := reject_if .RecoveryError condition message
def required_string := Contracts.required_string .RecoveryError
def parse_time := Contracts.parse_time .RecoveryError

/-! ### Events -/

/-- The digest of an event without its own digest. -/
def event_hash (event : Dict) : String := canonical_digest (.obj (event.without ["eventHash"]))

def EVENT_STRINGS : List String :=
  ["eventId","projectId","streamId","eventType","aggregateType","aggregateId","occurredAt","recordedAt",
    "idempotencyKey","previousEventHash","eventHash"]

def check_digest (event : Dict) (field : String) : Py Unit :=
  reject (!isHexDigest (text event field)) (field ++ " must be a lowercase SHA-256 digest")

def validate_event (event : Dict) : Py Unit := do
  required_strings .RecoveryError event EVENT_STRINGS
  match (event.get "sequence").int? with
  | none => recovery_error "sequence must be a positive integer"
  | some sequence => do
    reject (sequence < 1) "sequence must be a positive integer"
    match (event.get "actor").dict? with
    | none => recovery_error "actor must be an object"
    | some actor => do
      let _ ← required_string actor "id"
      let known ← in_set (actor.get "type") ACTOR_TYPES
      reject (!known) ("Unknown actor type: " ++ display (actor.get "type"))
      reject (!(event.get "payload").isDict) "payload must be an object"
      let occurred ← parse_time (event.get "occurredAt") "occurredAt"
      let recorded ← parse_time (event.get "recordedAt") "recordedAt"
      reject (recorded < occurred) "occurredAt cannot be after recordedAt"
      check_digest event "previousEventHash"
      check_digest event "eventHash"

/-- What `verify_event_chain` knows after some events: the ids seen are those
    that a causation may name. -/
structure ChainState where
  expected_sequence : Int := 1
  expected_hash : String := ZERO_HASH
  seen_ids : List String := []
  seen_keys : List String := []
  project_id : Option String := none

/-- The causation of an event names an earlier one. -/
def check_causation (causation : Json) (seen : List String) : Py Unit :=
  if causation.isNull then return ()
  else do
    let known ← in_set causation seen
    reject (!known) "causationId must reference an earlier event"

/-- One pass of the loop over the events of a chain. -/
def verify_link (state : ChainState) (event : Dict) : Py ChainState := do
  validate_event event
  reject (!(event.get "sequence").eq (.int state.expected_sequence)) "Event sequence is not contiguous"
  reject (state.project_id.any (fun project => project ≠ text event "projectId"))
    "Event chain contains more than one project"
  reject (state.seen_ids.contains (text event "eventId")) ("Duplicate event ID: " ++ text event "eventId")
  reject (state.seen_keys.contains (text event "idempotencyKey"))
    ("Duplicate idempotency key: " ++ text event "idempotencyKey")
  reject (text event "previousEventHash" ≠ state.expected_hash) "Event hash chain is broken"
  reject (text event "eventHash" ≠ event_hash event) "Event content hash is invalid"
  check_causation (event.get "causationId") state.seen_ids
  return { expected_sequence := state.expected_sequence + 1
           expected_hash := text event "eventHash"
           seen_ids := state.seen_ids ++ [text event "eventId"]
           seen_keys := state.seen_keys ++ [text event "idempotencyKey"]
           project_id := some (state.project_id.getD (text event "projectId")) }

def verify_event_chain (events : List Dict) : Py Unit := do
  let _ ← events.foldlM verify_link {}
  return ()

/-- The event that a draft becomes at the end of a history. -/
def sealed_event (events : List Dict) (draft : Dict) : Dict :=
  let event := draft.set "sequence" (.int (events.length + 1))
  let previous := (events.getLast?.map (fun last => text last "eventHash")).getD ZERO_HASH
  let event := event.set "previousEventHash" (.str previous)
  event.set "eventHash" (.str (event_hash event))

/-- The history after the draft, the event it holds for the draft and whether
    that event is new. -/
def append_event (events : List Dict) (draft : Dict) : Py (List Dict × Dict × Bool) := do
  verify_event_chain events
  match events.find? (fun existing => (existing.get "idempotencyKey").eq (draft.get "idempotencyKey")) with
  | some existing => do
    let comparable := existing.without ["sequence","previousEventHash","eventHash"]
    reject (!(Json.obj comparable).eq (.obj draft)) "Idempotency key was reused with different event data"
    return (events,existing,false)
  | none => do
    let event := sealed_event events draft
    validate_event event
    verify_event_chain (events ++ [event])
    return (events ++ [event],event,true)

/-! ### Leases -/

def LEASE_STRINGS : List String :=
  ["leaseId","projectId","resourceType","resourceId","holderRunId","acquiredAt","heartbeatAt","expiresAt","status",
    "contextManifestId","dispatchDigest","idempotencyKey"]

def validate_lease (lease : Dict) : Py Unit := do
  required_strings .RecoveryError lease LEASE_STRINGS
  reject (!LEASE_STATUSES.contains (text lease "status")) ("Unknown lease status: " ++ text lease "status")
  match (lease.get "attempt").int? with
  | none => recovery_error "Lease attempt must be a positive integer"
  | some attempt => do
    reject (attempt < 1) "Lease attempt must be a positive integer"
    let acquired ← parse_time (lease.get "acquiredAt") "acquiredAt"
    let heartbeat ← parse_time (lease.get "heartbeatAt") "heartbeatAt"
    let expires ← parse_time (lease.get "expiresAt") "expiresAt"
    reject (!(acquired ≤ heartbeat && heartbeat ≤ expires))
      "Lease times must satisfy acquiredAt <= heartbeatAt <= expiresAt"
    reject (!isHexDigest (text lease "dispatchDigest")) "dispatchDigest must be a SHA-256 digest"

/-! ### Recovery planning -/

def payload (event : Dict) : Dict := ((event.get "payload").dict?).getD []

/-- The dispatch of each run and the runs that completed. -/
structure RunHistory where
  dispatches : List (String × Dict) := []
  completed_runs : List String := []

def note_event (history : RunHistory) (event : Dict) : Py RunHistory :=
  if event.get "eventType" |>.eq (.str "run.dispatched") then do
    let run_id ← required_string (payload event) "runId"
    reject ((history.dispatches.map Prod.fst).contains run_id) ("Run was dispatched more than once: " ++ run_id)
    return { history with dispatches := history.dispatches ++ [(run_id,event)] }
  else if event.get "eventType" |>.eq (.str "run.completed") then do
    let run_id ← required_string (payload event) "runId"
    return { history with completed_runs := history.completed_runs ++ [run_id] }
  else return history

def index_lease (leases : List (String × Dict)) (lease : Dict) : Py (List (String × Dict)) := do
  validate_lease lease
  let run_id := text lease "holderRunId"
  reject ((leases.map Prod.fst).contains run_id) ("Multiple current leases for run: " ++ run_id)
  return leases ++ [(run_id,lease)]

/-- `effect_observations.get(effect_key) if effect_key else None`. -/
def observed (effect_observations : Dict) (effect_key : Json) : Py Json :=
  if !effect_key.truthy then return .null
  else if !effect_key.hashable then .error .TypeError
  else match effect_key with
    | .str key => return effect_observations.get key
    | _ => return .null

/-- The step for an unfinished run whose active lease has expired. -/
def expired_step (run_id : String) (event lease : Dict) (effect_observations : Dict) (max_attempts : Int) :
    Py RecoveryStep := do
  let lease_id := some (text lease "leaseId")
  let effect_status ← observed effect_observations ((payload event).get "effectKey")
  if effect_status.eq (.str "succeeded") then
    return ⟨.RECONCILE_COMPLETED_RUN,run_id,lease_id,"The external effect already succeeded; do not repeat it."⟩
  else if ((payload event).get "externalSideEffectPossible").isTrue then
    return ⟨.VERIFY_EXTERNAL_EFFECT,run_id,lease_id,
      "The lease expired after a potentially external effect; verify reality before retrying."⟩
  else if max_attempts ≤ ((lease.get "attempt").int?).getD 0 then
    return ⟨.ESCALATE_ATTEMPT_BUDGET,run_id,lease_id,"The safe retry budget is exhausted."⟩
  else
    return ⟨.RECLAIM_AND_REQUEUE,run_id,lease_id,
      "The lease expired, no external effect is possible, and retry budget remains."⟩

/-- One pass of the loop over the dispatched runs. -/
def recovery_step (history : RunHistory) (leases : List (String × Dict)) (effect_observations : Dict) (now : Instant)
    (max_attempts : Int) (run_id : String) : Py (List RecoveryStep) := do
  let event := (history.dispatches.lookup run_id).getD []
  let lease := leases.lookup run_id
  if history.completed_runs.contains run_id then
    match lease with
    | some lease =>
      if text lease "status" = "active" then
        return [⟨.RECONCILE_COMPLETED_RUN,run_id,some (text lease "leaseId"),
          "The run completed but its lease remains active."⟩]
      else return []
    | none => return []
  else
    match lease with
    | none => return [⟨.RECONCILE_ORPHAN_RUN,run_id,none,"The dispatch has no durable current lease."⟩]
    | some lease =>
      if text lease "status" ≠ "active" then
        return [⟨.RECONCILE_ORPHAN_RUN,run_id,some (text lease "leaseId"),
          "The unfinished run has a " ++ text lease "status" ++ " lease."⟩]
      else do
        let expires ← parse_time (lease.get "expiresAt") "expiresAt"
        if now ≤ expires then
          return [⟨.WAIT_FOR_LEASE,run_id,some (text lease "leaseId"),"The current lease has not expired."⟩]
        else do
          let step ← expired_step run_id event lease effect_observations max_attempts
          return [step]

def plan_recovery (events leases : List Dict) (effect_observations : Dict) (generated_at max_attempts : Json) :
    Py RecoveryPlan := do
  verify_event_chain events
  match max_attempts.int? with
  | none => recovery_error "max_attempts must be a positive integer"
  | some max_attempts => do
    reject (max_attempts < 1) "max_attempts must be a positive integer"
    let now ← parse_time generated_at "generatedAt"
    let history ← events.foldlM note_event {}
    let lease_by_run ← leases.foldlM index_lease []
    let steps ← (sortedStrings (history.dispatches.map Prod.fst)).mapM
      (recovery_step history lease_by_run effect_observations now max_attempts)
    return ⟨generated_at,events.length,steps.flatten⟩

end V3Aidlc.Recovery
