import V3Aidlc.RecordedEvents
import V3Aidlc.Dispatches

/-!
The first loop of an execution. What becomes of a work item is decided by the item
and the profiles alone (`preparation`): it is not authorized, its context does not
compile, no runner accepts it, or it is ready. A pass of the loop does that and
nothing else (`prepare_item_ok`), so the state after the loop is a function of the
preparations (`prepared_all`).
-/
namespace V3Aidlc.Preparations
open V3Aidlc.Values V3Aidlc.Loops V3Aidlc.Effects V3Aidlc.Effects.Proc V3Aidlc.Contracts
open V3Aidlc.Authorization (AuthorizationResult)
open V3Aidlc.ContextCompiler (ContextManifest)
open V3Aidlc.AgentAdapters (NegotiationResult select_adapter)
open V3Aidlc.ReferenceOrchestrator V3Aidlc.RecordedEvents

/-! ### What becomes of a work item -/

inductive Outcome where
  | unauthorized
  | rejected (message : String)
  | incompatible (manifest : ContextManifest) (request : Dict) (message : String)
  | ready (run : Dict) (manifest : ContextManifest) (request profile : Dict) (negotiations : List NegotiationResult)

structure Preparation where
  source : Dict
  candidate : Dict
  work_package_id : String
  authorization : AuthorizationResult
  outcome : Outcome

/-- The outcome of an item whose context is compiled. -/
def negotiated (profiles : List Dict) (source run : Dict) (authorization : AuthorizationResult)
    (manifest : ContextManifest) : Py Outcome := do
  let request ← run_request source manifest authorization
  let selected ← attempt .AdapterError (select_adapter request profiles)
  match selected with
  | .error message => return .incompatible manifest request message
  | .ok (profile,negotiations) => return .ready run manifest request profile negotiations

/-- The outcome of an authorized item. -/
def assembled (settings : Settings) (profiles : List Dict) (source : Dict) (authorization : AuthorizationResult) :
    Py Outcome := do
  let run ← context_run settings source
  let compiled ← attempt .ContextError (compile_for settings source run)
  match compiled with
  | .error message => return .rejected message
  | .ok manifest => negotiated profiles source run authorization manifest

def outcome_of (settings : Settings) (profiles : List Dict) (source : Dict) (authorization : AuthorizationResult) :
    Py Outcome :=
  if authorization.decision.isAuto then assembled settings profiles source authorization else return .unauthorized

def preparation (settings : Settings) (profiles : List Dict) (item : Json) : Py Preparation := do
  let source ← work_source item
  let candidate ← candidate_of source
  let work_package_id ← required_string candidate "workPackageId"
  let authorization ← authorize settings source
  let outcome ← outcome_of settings profiles source authorization
  return ⟨source,candidate,work_package_id,authorization,outcome⟩

namespace Preparation

/-- The package that is handed to the scheduler. -/
def prepared (p : Preparation) : Option Prepared :=
  match p.outcome with
  | .ready run manifest request profile _ =>
    some ⟨p.work_package_id,p.source,p.candidate.set "adapterId" (profile.get "adapterId"),run,manifest,request,profile⟩
  | _ => none

def trace (p : Preparation) : WorkTrace :=
  match p.outcome with
  | .unauthorized => not_eligible p.work_package_id p.authorization none p.authorization.explanation
  | .rejected message => not_eligible p.work_package_id p.authorization none ("context compilation failed: " ++ message)
  | .incompatible manifest _ message =>
    not_eligible p.work_package_id p.authorization (some manifest.manifest_id)
      ("capability negotiation failed: " ++ message)
  | .ready _ manifest _ profile negotiations => pending p.work_package_id p.authorization manifest profile negotiations

/-- The item keeps the execution from going on at all. -/
def blocks (p : Preparation) : Bool :=
  match p.outcome with
  | .unauthorized => p.authorization.decision = .BLOCKED
  | .rejected _ => true
  | .incompatible _ _ _ => true
  | .ready _ _ _ _ _ => false

/-- The item needs a decision of the user. -/
def asks (p : Preparation) : Bool :=
  match p.outcome with
  | .unauthorized => p.authorization.decision = .USER_DECISION_REQUIRED
  | _ => false

def authorization_note (p : Preparation) : Note :=
  note "authorization.evaluated" (.str p.work_package_id)
    [("decision",.str p.authorization.decision.value),
      ("controllingRules",.arr (p.authorization.controlling_rules.map Json.str))]

def outcome_notes (p : Preparation) : List Note :=
  match p.outcome with
  | .unauthorized => []
  | .rejected message => [note "context.rejected" (.str p.work_package_id) [("reason",.str message)]]
  | .incompatible _ request message =>
    [note "capability.rejected" (request.getOr "runId" (.str p.work_package_id)) [("reason",.str message)]]
  | .ready _ _ request profile negotiations =>
    [note "capability.negotiated" (request.get "runId")
      [("adapterId",profile.get "adapterId"),("profileDigest",.str (selected_digest profile negotiations))]]

/-- What the events of the item say. -/
def notes (p : Preparation) : List Note := p.authorization_note :: p.outcome_notes

theorem trace_id (p : Preparation) : p.trace.work_package_id = p.work_package_id := by
  unfold trace
  cases p.outcome <;> rfl

theorem prepared_id {p : Preparation} {prepared : Prepared} (ready : p.prepared = some prepared) :
    prepared.work_package_id = p.work_package_id := by
  unfold Preparation.prepared at ready
  split at ready <;> cases ready
  rfl

end Preparation

/-- What a package that is handed to the scheduler has passed. -/
structure Ready (settings : Settings) (profiles : List Dict) (item : Json) (p : Preparation) (prepared : Prepared) :
    Prop where
  item : item = .obj p.source
  candidate : p.source.get "candidate" = .obj p.candidate
  id : Dict.get? "workPackageId" p.candidate = some (.str p.work_package_id)
  named : blank p.work_package_id = false
  authorized : authorize settings p.source = .ok p.authorization
  auto : p.authorization.decision.isAuto = true
  run : context_run settings p.source = .ok prepared.run
  manifest : compile_for settings p.source prepared.run = .ok prepared.manifest
  request : run_request p.source prepared.manifest p.authorization = .ok prepared.request
  selected : ∃ negotiations, select_adapter prepared.request profiles = .ok (prepared.profile,negotiations)
  source_same : prepared.source = p.source
  id_same : prepared.work_package_id = p.work_package_id
  candidate_same : prepared.candidate = p.candidate.set "adapterId" (prepared.profile.get "adapterId")

theorem attempt_ok {cls : ErrorClass} {α : Type} {m : Py α} {a : α} : attempt cls m = .ok (.ok a) ↔ m = .ok a := by
  unfold attempt
  split
  · simp
  · split <;> simp
  · simp

theorem work_source_ok {item : Json} {source : Dict} : work_source item = .ok source ↔ item = .obj source := by
  unfold work_source
  cases item <;> simp [Json.dict?,orchestrator_error]

theorem required_object_ok {scenario fields : Dict} {key message : String} :
    required_object scenario key message = .ok fields ↔ scenario.get key = .obj fields := by
  unfold required_object
  cases scenario.get key <;> simp [Json.dict?,orchestrator_error]

section
variable {settings : Settings} {profiles : List Dict} {item : Json} {p : Preparation} {prepared : Prepared}

theorem preparation_ok : preparation settings profiles item = .ok p ↔
    item = .obj p.source ∧ p.source.get "candidate" = .obj p.candidate ∧
    Dict.get? "workPackageId" p.candidate = some (.str p.work_package_id) ∧ blank p.work_package_id = false ∧
    authorize settings p.source = .ok p.authorization ∧
    outcome_of settings profiles p.source p.authorization = .ok p.outcome := by
  unfold preparation candidate_of ReferenceOrchestrator.required_string
  simp only [bind_ok_iff,pure_ok_iff,work_source_ok,required_object_ok,required_string_ok]
  constructor
  · rintro ⟨source,rfl,candidate,held,id,⟨named,filled⟩,authorization,authorized,outcome,came,rfl⟩
    exact ⟨rfl,held,named,filled,authorized,came⟩
  · rintro ⟨rfl,held,named,filled,authorized,came⟩
    exact ⟨_,rfl,_,held,_,⟨named,filled⟩,_,authorized,_,came,rfl⟩

/-- An item that is ready was authorized, compiled and accepted. -/
theorem preparation_ready (ran : preparation settings profiles item = .ok p) (ready : p.prepared = some prepared) :
    Ready settings profiles item p prepared := by
  obtain ⟨itemIs,held,named,filled,authorized,came⟩ := preparation_ok.mp ran
  unfold Preparation.prepared at ready
  split at ready
  · rename_i run manifest request profile negotiations outcome
    cases ready
    rw [outcome] at came
    unfold outcome_of at came
    split at came
    · rename_i auto
      unfold assembled at came
      simp only [bind_ok_iff] at came
      obtain ⟨contextRun,contextual,compiled,tried,came⟩ := came
      cases compiled with
      | error message => simp at came
      | ok compiledManifest =>
        unfold negotiated at came
        simp only [bind_ok_iff] at came
        obtain ⟨requested,asked,selected,offered,came⟩ := came
        cases selected with
        | error message => simp at came
        | ok choice =>
          obtain ⟨chosen,results⟩ := choice
          simp only [pure_ok_iff,Outcome.ready.injEq] at came
          obtain ⟨rfl,rfl,rfl,rfl,rfl⟩ := came
          exact ⟨itemIs,held,named,filled,authorized,auto,contextual,attempt_ok.mp tried,asked,
            ⟨_,attempt_ok.mp offered⟩,rfl,rfl,rfl⟩
    · simp at came
  · cases ready

end

/-! ### The request of an item -/

/-- The fields of a request that the orchestrator fills in. -/
def FILLED_IN : List String := ["contextManifestId","contextManifestDigest","contextBytes","authorizationDecision"]

/-- The run request that an item brings along. -/
def given_request (source : Dict) : Dict :=
  match new_dict (source.getOr "runRequest" (.obj [])) with
  | .ok given => given
  | .error _ => []

section
variable {source request : Dict} {manifest : ContextManifest} {authorization : AuthorizationResult}

theorem run_request_ok (ran : run_request source manifest authorization = .ok request) :
    request = (given_request source).update [("contextManifestId",.str manifest.manifest_id),
      ("contextManifestDigest",.str manifest.sha256),("contextBytes",.int (max 1 manifest.total_bytes)),
      ("authorizationDecision",.str authorization.decision.value)] := by
  unfold run_request at ran
  obtain ⟨given,copied,ran⟩ := bind_ok_iff.mp ran
  unfold given_request
  rw [copied]
  exact (pure_ok_iff.mp ran).symm

/-- The other fields are those that the item brings along. -/
theorem run_request_given (ran : run_request source manifest authorization = .ok request) {key : String}
    (other : key ∉ FILLED_IN) : Dict.get? key request = Dict.get? key (given_request source) := by
  rw [run_request_ok ran]
  refine get?_update_other ?_
  rintro kv member rfl
  exact other (List.mem_map_of_mem (f := Prod.fst) member)

theorem run_request_filled_in (ran : run_request source manifest authorization = .ok request) :
    request.get "contextManifestId" = .str manifest.manifest_id ∧
      request.get "contextManifestDigest" = .str manifest.sha256 ∧
      request.get "contextBytes" = .int (max 1 manifest.total_bytes) ∧
      request.get "authorizationDecision" = .str authorization.decision.value := by
  rw [run_request_ok ran]
  simp [Dict.update,get_set]

end

/-! ### A pass of the loop -/

theorem put_trace_fresh {traces : List WorkTrace} {trace : WorkTrace}
    (fresh : trace.work_package_id ∉ traces.map WorkTrace.work_package_id) :
      put_trace trace traces = traces ++ [trace] := by
  induction traces with
  | nil => rfl
  | cons other rest ih =>
    simp only [List.map_cons,List.mem_cons,not_or] at fresh
    unfold put_trace
    rw [if_neg (Ne.symm fresh.1),ih fresh.2]
    rfl

section
variable {σ : Type} {settings : Settings} {s s' : Locals σ}

theorem trace_of_none {id : String} : s.trace_of id = none ↔ id ∉ s.traces.map WorkTrace.work_package_id := by
  unfold Locals.trace_of
  simp [List.find?_eq_none]

/-- The state `s'` is `s` after the part of a preparation that wrote the notes. -/
structure Passed (settings : Settings) (p : Preparation) (notes : List Note) (s s' : Locals σ) : Prop where
  recorded : Recorded settings s'
  said : s'.histories.map said = s.histories.map said ++ notes
  prepared : s'.prepared = s.prepared ++ p.prepared.toList
  traces : s'.traces = put_trace p.trace s.traces
  decision_required : s'.decision_required = (s.decision_required || p.asks)
  hard_block : s'.hard_block = (s.hard_block || p.blocks)
  rest : s'.profiles = s.profiles ∧ s'.any_failure = s.any_failure ∧ s'.any_waiting = s.any_waiting ∧
    s'.completions = s.completions ∧ s'.invocations = s.invocations ∧ s'.answers = s.answers ∧
    s'.evaluations = s.evaluations

/-- Only the history, its counter and its last id matter to what is recorded. -/
theorem recorded_kept {t : Locals σ} (recorded : Recorded settings s) (histories : t.histories = s.histories)
    (number : t.event_number = s.event_number) (last : t.last_event_id = s.last_event_id) : Recorded settings t := by
  refine ⟨?_,?_,?_⟩
  · rw [histories]
    exact recorded.chain
  · rw [histories,number]
    exact recorded.numbered
  · rw [histories,last]
    exact recorded.last

section
variable {source candidate run : Dict} {id : String} {authorization : AuthorizationResult} {manifest : ContextManifest}
  {u : Unit}

theorem negotiate_item_ok (recorded : Recorded settings s)
    (ran : negotiate_item settings source candidate run id authorization manifest s = (.ok u,s')) :
    ∃ outcome, negotiated s.profiles source run authorization manifest = .ok outcome ∧
      Passed settings ⟨source,candidate,id,authorization,outcome⟩
        (Preparation.outcome_notes ⟨source,candidate,id,authorization,outcome⟩) s s' := by
  unfold negotiate_item at ran
  obtain ⟨request,_,here,ran⟩ := bind_returns.mp ran
  obtain ⟨asked,rfl⟩ := lift_returns.mp here
  obtain ⟨_,_,here,ran⟩ := bind_returns.mp ran
  obtain ⟨rfl,rfl⟩ := read_returns.mp here
  obtain ⟨selected,_,here,ran⟩ := bind_returns.mp ran
  obtain ⟨offered,rfl⟩ := lift_returns.mp here
  cases selected with
  | error message =>
    refine ⟨.incompatible manifest request message,?_,?_⟩
    · unfold negotiated
      exact bind_ok_iff.mpr ⟨_,asked,bind_ok_iff.mpr ⟨_,offered,rfl⟩⟩
    obtain ⟨_,_,here,ran⟩ := bind_returns.mp ran
    rw [← modify_returns.mp here] at ran
    obtain ⟨rfl,later⟩ := record_ok (by exact recorded_kept recorded rfl rfl rfl) ran
    exact ⟨later,said_noted,by simp [Preparation.prepared]; rfl,rfl,by simp [Preparation.asks]; rfl,
      by simp [Preparation.blocks]; rfl,rfl,rfl,rfl,rfl,rfl,rfl,rfl⟩
  | ok choice =>
    obtain ⟨profile,negotiations⟩ := choice
    refine ⟨.ready run manifest request profile negotiations,?_,?_⟩
    · unfold negotiated
      exact bind_ok_iff.mpr ⟨_,asked,bind_ok_iff.mpr ⟨_,offered,rfl⟩⟩
    obtain ⟨_,_,here,ran⟩ := bind_returns.mp ran
    rw [← modify_returns.mp here] at ran
    obtain ⟨rfl,later⟩ := record_ok (by exact recorded_kept recorded rfl rfl rfl) ran
    exact ⟨later,said_noted,rfl,rfl,by simp [Preparation.asks]; rfl,by simp [Preparation.blocks]; rfl,
      rfl,rfl,rfl,rfl,rfl,rfl,rfl⟩

theorem compile_item_ok (recorded : Recorded settings s)
    (ran : compile_item settings source candidate id authorization s = (.ok u,s')) :
    ∃ outcome, assembled settings s.profiles source authorization = .ok outcome ∧
      Passed settings ⟨source,candidate,id,authorization,outcome⟩
        (Preparation.outcome_notes ⟨source,candidate,id,authorization,outcome⟩) s s' := by
  unfold compile_item at ran
  obtain ⟨run,_,here,ran⟩ := bind_returns.mp ran
  obtain ⟨contextual,rfl⟩ := lift_returns.mp here
  obtain ⟨compiled,_,here,ran⟩ := bind_returns.mp ran
  obtain ⟨tried,rfl⟩ := lift_returns.mp here
  cases compiled with
  | error message =>
    refine ⟨.rejected message,?_,?_⟩
    · unfold assembled
      exact bind_ok_iff.mpr ⟨_,contextual,bind_ok_iff.mpr ⟨_,tried,rfl⟩⟩
    obtain ⟨_,_,here,ran⟩ := bind_returns.mp ran
    rw [← modify_returns.mp here] at ran
    obtain ⟨rfl,later⟩ := record_ok (by exact recorded_kept recorded rfl rfl rfl) ran
    exact ⟨later,said_noted,by simp [Preparation.prepared]; rfl,rfl,by simp [Preparation.asks]; rfl,
      by simp [Preparation.blocks]; rfl,rfl,rfl,rfl,rfl,rfl,rfl,rfl⟩
  | ok manifest =>
    obtain ⟨outcome,came,passed⟩ := negotiate_item_ok recorded ran
    refine ⟨outcome,?_,passed⟩
    unfold assembled
    exact bind_ok_iff.mpr ⟨_,contextual,bind_ok_iff.mpr ⟨_,tried,came⟩⟩

end

/-- A pass of the loop prepares its item, which no earlier pass has prepared. -/
theorem prepare_item_ok {item : Json} {u : Unit} (recorded : Recorded settings s)
    (ran : prepare_item settings item s = (.ok u,s')) :
    ∃ p, preparation settings s.profiles item = .ok p ∧ s.trace_of p.work_package_id = none ∧
      Passed settings p p.notes s s' := by
  unfold prepare_item at ran
  obtain ⟨source,_,here,ran⟩ := bind_returns.mp ran
  obtain ⟨sourced,rfl⟩ := lift_returns.mp here
  obtain ⟨candidate,_,here,ran⟩ := bind_returns.mp ran
  obtain ⟨held,rfl⟩ := lift_returns.mp here
  obtain ⟨id,_,here,ran⟩ := bind_returns.mp ran
  obtain ⟨named,rfl⟩ := lift_returns.mp here
  obtain ⟨_,_,here,ran⟩ := bind_returns.mp ran
  obtain ⟨rfl,rfl⟩ := read_returns.mp here
  obtain ⟨_,_,here,ran⟩ := bind_returns.mp ran
  obtain ⟨fresh,rfl⟩ := lift_returns.mp here
  obtain ⟨authorization,_,here,ran⟩ := bind_returns.mp ran
  obtain ⟨authorized,rfl⟩ := lift_returns.mp here
  obtain ⟨_,_,here,ran⟩ := bind_returns.mp ran
  obtain ⟨rfl,later⟩ := record_ok recorded here
  have absent : s.trace_of id = none := by
    simpa [ReferenceOrchestrator.reject] using fresh
  have prepared : ∀ outcome, outcome_of settings s.profiles source authorization = .ok outcome →
      preparation settings s.profiles item = .ok ⟨source,candidate,id,authorization,outcome⟩ := by
    intro outcome came
    unfold preparation
    simp only [sourced,held,named,authorized,came,ok_bind]
    rfl
  cases auto : authorization.decision.isAuto with
  | false =>
    simp only [auto,Bool.not_false,↓reduceIte] at ran
    have state := modify_returns.mp ran
    subst state
    refine ⟨⟨source,candidate,id,authorization,.unauthorized⟩,prepared _ (by simp [outcome_of,auto,pure,Except.pure]),
      absent,
      recorded_kept later rfl rfl rfl,said_noted,by simp [Preparation.prepared]; rfl,rfl,rfl,rfl,rfl,rfl,rfl,rfl,rfl,
        rfl,rfl⟩
  | true =>
    simp only [auto,Bool.not_true,Bool.false_eq_true,↓reduceIte] at ran
    obtain ⟨outcome,came,passed⟩ := compile_item_ok later ran
    refine ⟨⟨source,candidate,id,authorization,outcome⟩,prepared _ ?_,absent,passed.recorded,?_,passed.prepared,
      passed.traces,passed.decision_required,passed.hard_block,passed.rest⟩
    · rw [outcome_of,if_pos auto]
      exact came
    · rw [passed.said,said_noted,List.append_assoc]
      rfl

/-! ### The loop -/

/-- Nothing has been dispatched. -/
structure Idle (s : Locals σ) : Prop where
  any_failure : s.any_failure = false
  any_waiting : s.any_waiting = false
  completions : s.completions = []
  invocations : s.invocations = []
  answers : s.answers = []
  evaluations : s.evaluations = []

/-- The state after the items have been prepared. -/
structure PreparedAll (settings : Settings) (profiles : List Dict) (opening : List Note) (items : List Json)
    (works : List Preparation) (s : Locals σ) : Prop where
  each : List.Forall₂ (fun item p => preparation settings profiles item = .ok p) items works
  recorded : Recorded settings s
  profiles : s.profiles = profiles
  said : s.histories.map said = opening ++ works.flatMap Preparation.notes
  prepared : s.prepared = works.filterMap Preparation.prepared
  traces : s.traces = works.map Preparation.trace
  distinct : (works.map Preparation.work_package_id).Nodup
  decision_required : s.decision_required = works.any Preparation.asks
  hard_block : s.hard_block = works.any Preparation.blocks
  idle : Idle s

theorem trace_ids (works : List Preparation) : (works.map Preparation.trace).map WorkTrace.work_package_id =
    works.map Preparation.work_package_id := by
  rw [List.map_map]
  exact List.map_congr_left (fun p _ => p.trace_id)

/-- A pass extends what the earlier ones did. -/
theorem prepared_next {profiles : List Dict} {opening : List Note} {done : List Json} {works : List Preparation}
    {item : Json} {u : Unit} (before : PreparedAll settings profiles opening done works s)
    (ran : prepare_item settings item s = (.ok u,s')) :
    ∃ p, preparation settings profiles item = .ok p ∧
      PreparedAll settings profiles opening (done ++ [item]) (works ++ [p]) s' := by
  obtain ⟨p,prepared,absent,passed⟩ := prepare_item_ok before.recorded ran
  rw [before.profiles] at prepared
  rw [trace_of_none,before.traces,trace_ids] at absent
  obtain ⟨profiles_same,failure,waiting,completions,invocations,answers,evaluations⟩ := passed.rest
  refine ⟨p,prepared,List.rel_append before.each (.cons prepared .nil),passed.recorded,?_,?_,?_,?_,?_,?_,?_,?_⟩
  · rw [profiles_same,before.profiles]
  · rw [passed.said,before.said]
    simp
  · rw [passed.prepared,before.prepared]
    cases ready : p.prepared <;> simp [ready]
  · rw [passed.traces,before.traces,put_trace_fresh (by rwa [p.trace_id,trace_ids])]
    simp
  · rw [List.map_append,List.nodup_append_comm]
    exact List.nodup_cons.mpr ⟨absent,before.distinct⟩
  · rw [passed.decision_required,before.decision_required]
    simp
  · rw [passed.hard_block,before.hard_block]
    simp
  · exact ⟨failure.trans before.idle.any_failure,waiting.trans before.idle.any_waiting,
      completions.trans before.idle.completions,invocations.trans before.idle.invocations,
      answers.trans before.idle.answers,evaluations.trans before.idle.evaluations⟩

/-- The loop over the work items prepares each of them. -/
theorem prepared_all {profiles : List Dict} {opening : List Note} {items : List Json} {u : Unit}
    (initial : PreparedAll settings profiles opening [] [] s)
    (ran : forEach items (prepare_item settings) s = (.ok u,s')) :
    ∃ works, PreparedAll settings profiles opening items works s' := by
  refine forEach_invariant (fun done state => ∃ works, PreparedAll settings profiles opening done works state) ?_
    ⟨[],initial⟩ ran
  rintro done item rest before after split ⟨works,holds⟩ stepped
  obtain ⟨p,_,longer⟩ := prepared_next holds stepped
  exact ⟨works ++ [p],longer⟩

/-- Nothing is dispatched while the items are prepared. -/
theorem keeps_unused {event_type aggregate_type : String} {aggregate_id : Json} {payload : Dict} :
    Keeps (fun s : Locals σ => s.invocations = []) (record settings event_type aggregate_type aggregate_id payload) :=
  keeps_record (fun _ _ _ _ unused => unused)

theorem prepare_item_unused (item : Json) :
    Keeps (fun s : Locals σ => s.invocations = []) (prepare_item settings item) := by
  have negotiate : ∀ source candidate run id authorization manifest, Keeps (fun s : Locals σ => s.invocations = [])
      (negotiate_item settings source candidate run id authorization manifest) := by
    intro source candidate run id authorization manifest
    refine keeps_seq (keeps_lift _ _) (fun request => keeps_seq (keeps_read _) (fun _ => keeps_seq (keeps_lift _ _) ?_))
    rintro (message | ⟨profile,negotiations⟩)
    · exact keeps_seq (keeps_modify (fun _ unused => unused)) (fun _ => keeps_unused)
    · exact keeps_seq (keeps_modify (fun _ unused => unused)) (fun _ => keeps_unused)
  have compile : ∀ source candidate id authorization, Keeps (fun s : Locals σ => s.invocations = [])
      (compile_item settings source candidate id authorization) := by
    intro source candidate id authorization
    refine keeps_seq (keeps_lift _ _) (fun run => keeps_seq (keeps_lift _ _) ?_)
    rintro (message | manifest)
    · exact keeps_seq (keeps_modify (fun _ unused => unused)) (fun _ => keeps_unused)
    · exact negotiate _ _ _ _ _ _
  refine keeps_seq (keeps_lift _ _) (fun source => keeps_seq (keeps_lift _ _) (fun candidate => ?_))
  refine keeps_seq (keeps_lift _ _) (fun id => keeps_seq (keeps_read _)
    (fun _ => keeps_seq (keeps_lift _ _) (fun _ => ?_)))
  refine keeps_seq (keeps_lift _ _) (fun authorization => keeps_seq keeps_unused (fun _ => ?_))
  split
  · exact keeps_modify (fun _ unused => unused)
  · exact compile _ _ _ _

/-- The loop prepares every item, or stops before anything is dispatched. -/
theorem prepare_all_met {profiles : List Dict} {opening : List Note} {items : List Json}
    (initial : PreparedAll settings profiles opening [] [] s) :
    Met (fun _ s' => ∃ works, PreparedAll settings profiles opening items works s') (fun _ s' => s'.invocations = [])
      (forEach items (prepare_item settings) s) := by
  have unused : Keeps (fun s : Locals σ => s.invocations = []) (forEach items (prepare_item settings)) :=
    keeps_forEach (fun item _ => prepare_item_unused item)
  refine met_of_outcomes (fun _ _ ran => prepared_all initial ran) ?_
  intro e s' ran
  have after := unused s initial.idle.invocations
  rwa [ran] at after

end

end V3Aidlc.Preparations
