import V3Aidlc.Effects
import V3Aidlc.InsertionMaps
import Mathlib.Data.List.Induction

/-!
Requests for a decision and the decisions on them (`packages/governance`). The service
stores a decision under the decision's own id and looks for it by the id of its
request. A decision whose id is already taken replaces another request's decision, so
this request is open again; as long as every accepted decision brings a new id, what
is decided stays decided (`settled_iff`).
-/
namespace V3Aidlc.Decisions
open V3Aidlc.Effects V3Aidlc.InsertionMaps

structure DecisionOption where
  id : String
  label : String
  tradeoff : String

/-- A request; its time is none when it is not a valid date. -/
structure DecisionRequest where
  id : String
  projectId : String
  actionId : String
  headline : String
  explanation : String
  impact : String
  actionNeeded : String
  question : String
  options : List DecisionOption
  recommendedOptionId : Option String
  unaffectedWork : String
  requestedAt : Option Int

structure DecisionSubmission where
  id : String
  requestId : String
  projectId : String
  selectedOptionId : String
  userWords : String
  submittedAt : Int

structure GovernanceError where
  message : String
  deriving DecidableEq

/-! ### Validation -/

/-- A character of `\w`. -/
def is_word (c : Char) : Bool := c.isAlphanum || c = '_'

def internal_terms : List String :=
  ["work package","bolt","route instance","posture","canonical state","policy predicate"]

/-- The term starts here, up to case, and ends at a word boundary. -/
def term_here (term text : List Char) : Bool :=
  (text.take term.length).map Char.toLower = term && !((text.drop term.length).head?.any is_word)

/-- `internalTerms.test(text)`, after a character that is or is not of a word. -/
def term_from (after_word : Bool) : List Char → Bool
  | [] => false
  | c :: rest =>
    (!after_word && internal_terms.any (fun term => term_here term.toList (c :: rest))) || term_from (is_word c) rest

def has_internal_term (text : String) : Bool := term_from false text.toList

def option_ok (option : DecisionOption) : Bool := option.id ≠ "" ∧ option.label ≠ "" ∧ option.tradeoff ≠ ""

/-- `decisionRequestSchema.safeParse`. -/
def schema_ok (request : DecisionRequest) : Bool :=
  request.id ≠ "" ∧ request.projectId ≠ "" ∧ request.actionId ≠ "" ∧ request.headline ≠ "" ∧
    request.explanation ≠ "" ∧ request.impact ≠ "" ∧ request.actionNeeded ≠ "" ∧ request.question ≠ "" ∧
    request.options.all option_ok ∧ 2 ≤ request.options.length ∧ request.options.length ≤ 4 ∧
    request.recommendedOptionId ≠ some "" ∧ request.unaffectedWork ≠ "" ∧ request.requestedAt.isSome

def validateDecisionRequest (request : DecisionRequest) : Except GovernanceError DecisionRequest :=
  let ids := request.options.map DecisionOption.id
  if !schema_ok request then .error ⟨"Decision request failed schema validation"⟩
  else if ids.dedup.length ≠ request.options.length then .error ⟨"Decision option IDs must be unique"⟩
  else if request.recommendedOptionId.any (fun id => !ids.contains id) then
    .error ⟨"Recommended option must identify a presented choice"⟩
  else if [request.headline,request.explanation,request.impact,request.actionNeeded].any has_internal_term then
    .error ⟨"Primary user-facing text must use plain language"⟩
  else .ok request

/-- White space and line terminators, as `trim` takes them. -/
def is_space (c : Char) : Bool :=
  [0x9,0xA,0xB,0xC,0xD,0x20,0xA0,0x1680,0x2028,0x2029,0x202F,0x205F,0x3000,0xFEFF].contains c.toNat ||
    (0x2000 ≤ c.toNat && c.toNat ≤ 0x200A)

def trim (text : String) : String :=
  String.ofList ((text.toList.dropWhile is_space).reverse.dropWhile is_space).reverse

def submitDecision (request : DecisionRequest) (input : DecisionSubmission) :
    Except GovernanceError DecisionSubmission :=
  if input.requestId ≠ request.id ∨ input.projectId ≠ request.projectId then
    .error ⟨"Decision does not match its request"⟩
  else if !request.options.any (fun option => option.id = input.selectedOptionId) then
    .error ⟨"Decision must select a presented option"⟩
  else if trim input.userWords = "" then .error ⟨"The user’s exact words are required"⟩
  else .ok { input with userWords := trim input.userWords }

/-- A submission that is accepted keeps its ids. -/
theorem submitDecision_ok {request : DecisionRequest} {input result : DecisionSubmission}
    (accepted : submitDecision request input = .ok result) :
    result.id = input.id ∧ result.requestId = input.requestId ∧ input.requestId = request.id := by
  unfold submitDecision at accepted
  by_cases mismatch : input.requestId ≠ request.id ∨ input.projectId ≠ request.projectId
  · rw [if_pos mismatch] at accepted
    cases accepted
  rw [if_neg mismatch] at accepted
  have sameRequest : input.requestId = request.id := by
    by_contra differs
    exact mismatch (.inl differs)
  by_cases unknown : (!request.options.any (fun option => option.id = input.selectedOptionId)) = true
  · rw [if_pos unknown] at accepted
    cases accepted
  rw [if_neg unknown] at accepted
  by_cases silent : trim input.userWords = ""
  · rw [if_pos silent] at accepted
    cases accepted
  rw [if_neg silent,Except.ok.injEq] at accepted
  subst accepted
  exact ⟨rfl,rfl,sameRequest⟩

/-! ### The service -/

structure InMemoryDecisionService where
  requests : InsertionMap String DecisionRequest
  decisions : InsertionMap String DecisionSubmission

def addRequest (request : DecisionRequest) : Proc InMemoryDecisionService GovernanceError Unit := fun service =>
  match validateDecisionRequest request with
  | .error error => (.error error,service)
  | .ok valid => (.ok (),{ service with requests := service.requests.set request.id valid })

/-- Some stored decision is on this request. -/
def Resolved (service : InMemoryDecisionService) (requestId : String) : Prop :=
  ∃ decision ∈ service.decisions.values, decision.requestId = requestId

instance (service : InMemoryDecisionService) (requestId : String) : Decidable (Resolved service requestId) :=
  inferInstanceAs (Decidable (∃ decision ∈ service.decisions.values, decision.requestId = requestId))

def listPending (service : InMemoryDecisionService) (projectId : String) : List DecisionRequest :=
  service.requests.values.filter (fun request => request.projectId = projectId ∧ ¬ Resolved service request.id)

def decide (input : DecisionSubmission) : Proc InMemoryDecisionService GovernanceError DecisionSubmission :=
  fun service =>
    match service.requests.get? input.requestId with
    | none => (.error ⟨"Unknown decision request"⟩,service)
    | some request =>
      if Resolved service input.requestId then (.error ⟨"Decision request is already resolved"⟩,service)
      else
        match submitDecision request input with
        | .error error => (.error error,service)
        | .ok result => (.ok result,{ service with decisions := service.decisions.set result.id result })

/-- The submission would be accepted: its request is known and open, and it fits. -/
structure Accepts (service : InMemoryDecisionService) (input result : DecisionSubmission) : Prop where
  request : ∃ request, service.requests.get? input.requestId = some request ∧ submitDecision request input = .ok result
  unresolved : ¬ Resolved service input.requestId

theorem decide_ok {service after : InMemoryDecisionService} {input result : DecisionSubmission} :
    decide input service = (.ok result,after) ↔ Accepts service input result ∧
      after = { service with decisions := service.decisions.set result.id result } := by
  unfold decide
  cases known : service.requests.get? input.requestId with
  | none =>
    refine ⟨fun ran => (by cases ran),?_⟩
    rintro ⟨⟨⟨request,found,_⟩,_⟩,_⟩
    rw [known] at found
    cases found
  | some request =>
    by_cases resolved : Resolved service input.requestId
    · simp only [if_pos resolved]
      exact ⟨fun ran => (by cases ran),fun ⟨accepts,_⟩ => absurd resolved accepts.unresolved⟩
    simp only [if_neg resolved]
    cases submitted : submitDecision request input with
    | error error =>
      refine ⟨fun ran => (by cases ran),?_⟩
      rintro ⟨⟨⟨other,found,accepted⟩,_⟩,_⟩
      obtain rfl : request = other := Option.some.inj (known.symm.trans found)
      rw [submitted] at accepted
      cases accepted
    | ok accepted =>
      simp only [Prod.mk.injEq,Except.ok.injEq]
      constructor
      · rintro ⟨rfl,rfl⟩
        exact ⟨⟨⟨request,known,submitted⟩,resolved⟩,rfl⟩
      · rintro ⟨⟨⟨other,found,again⟩,_⟩,rfl⟩
        obtain rfl : request = other := Option.some.inj (known.symm.trans found)
        obtain rfl : accepted = result := Except.ok.inj (submitted.symm.trans again)
        exact ⟨rfl,rfl⟩

/-- What is refused changes nothing. -/
theorem decide_error {service after : InMemoryDecisionService} {input : DecisionSubmission} {error : GovernanceError}
    (refused : decide input service = (.error error,after)) : after = service := by
  unfold decide at refused
  split at refused
  · cases refused
    rfl
  · split at refused
    · cases refused
      rfl
    · split at refused
      · cases refused
        rfl
      · cases refused

theorem addRequest_decisions (request : DecisionRequest) (service : InMemoryDecisionService) :
    (addRequest request service).2.decisions = service.decisions := by
  unfold addRequest
  split <;> rfl

/-! ### Sequences of calls -/

inductive Call where
  | addRequest (request : DecisionRequest)
  | decide (input : DecisionSubmission)

/-- The service, and what the decide calls that succeeded returned. -/
structure History where
  service : InMemoryDecisionService
  results : List DecisionSubmission

def call (history : History) : Call → History
  | .addRequest request => { history with service := (addRequest request history.service).2 }
  | .decide input =>
    match decide input history.service with
    | (.ok result,service) => ⟨service,history.results ++ [result]⟩
    | (.error _,service) => { history with service := service }

theorem call_returned {history : History} {input result : DecisionSubmission} {service : InMemoryDecisionService}
    (ran : decide input history.service = (.ok result,service)) :
    call history (.decide input) = ⟨service,history.results ++ [result]⟩ := by
  simp only [call,ran]

theorem call_refused {history : History} {input : DecisionSubmission} {service : InMemoryDecisionService}
    {error : GovernanceError} (ran : decide input history.service = (.error error,service)) :
    call history (.decide input) = history := by
  simp only [call,ran,decide_error ran]

def run (calls : List Call) : History := calls.foldl call ⟨⟨.empty,.empty⟩,[]⟩

/-- What is decided stays decided: of every moment and every later one. -/
structure Settled (calls : List Call) : Prop where
  exact : ∀ early, early <+: calls → (run early).service.decisions.values = (run early).results ∧
    ((run early).results.map DecisionSubmission.requestId).Nodup
  listed : ∀ early later, early <+: later → later <+: calls → ∀ result ∈ (run early).results, ∀ projectId,
    ∀ request ∈ listPending (run later).service projectId, request.id ≠ result.requestId
  final : ∀ early later, early <+: later → later <+: calls → ∀ result ∈ (run early).results, ∀ input,
    input.requestId = result.requestId → ∃ error, decide input (run later).service = (.error error,(run later).service)
  kept : ∀ early later, early <+: later → later <+: calls → ∀ result ∈ (run early).results,
    (run later).service.decisions.get? result.id = some result

/-- Each decision that is accepted brings an id that no stored decision has. -/
def FreshIds (calls : List Call) : Prop :=
  ∀ before input result, before ++ [.decide input] <+: calls → Accepts (run before).service input result →
    input.id ∉ (run before).service.decisions.keys

/-- The stored decisions are the results, each under its own id and on a request
    of its own. -/
structure Recorded (history : History) : Prop where
  values : history.service.decisions.values = history.results
  ids : ∀ entry ∈ history.service.decisions.entries, entry.1 = entry.2.id
  requests : (history.results.map DecisionSubmission.requestId).Nodup

theorem recorded_start : Recorded ⟨⟨.empty,.empty⟩,[]⟩ := ⟨rfl,by simp [InsertionMap.empty],List.nodup_nil⟩

/-- A call keeps the record, when an accepted decision brings a new id. -/
theorem recorded_call {history : History} (recorded : Recorded history) (next : Call)
    (fresh : ∀ input result, next = .decide input → Accepts history.service input result →
      input.id ∉ history.service.decisions.keys) : Recorded (call history next) := by
  cases next with
  | addRequest request =>
    have same := addRequest_decisions request history.service
    exact ⟨same ▸ recorded.values,same ▸ recorded.ids,recorded.requests⟩
  | decide input =>
    rcases ran : decide input history.service with ⟨error | result,service⟩
    · rw [call_refused ran]
      exact recorded
    · rw [call_returned ran]
      obtain ⟨accepts,rfl⟩ := decide_ok.mp ran
      obtain ⟨request,_,submitted⟩ := accepts.request
      obtain ⟨sameId,sameRequest,_⟩ := submitDecision_ok submitted
      have unused : result.id ∉ history.service.decisions.keys := sameId ▸ fresh input result rfl accepts
      refine ⟨?_,?_,?_⟩
      · show (history.service.decisions.set result.id result).values = _
        rw [InsertionMap.values_set_fresh unused,recorded.values]
      · intro entry member
        have inside : entry ∈ (history.service.decisions.set result.id result).entries := member
        rw [InsertionMap.entries_set_fresh unused] at inside
        rcases List.mem_append.mp inside with before | last
        · exact recorded.ids entry before
        · obtain rfl := List.mem_singleton.mp last
          rfl
      · rw [List.map_append,List.nodup_append]
        refine ⟨recorded.requests,by simp,?_⟩
        intro requestId member other last same
        obtain ⟨decision,inside,rfl⟩ := List.mem_map.mp member
        have onRequest : decision.requestId = result.requestId := same.trans (List.mem_singleton.mp last)
        exact accepts.unresolved ⟨decision,recorded.values ▸ inside,onRequest.trans sameRequest⟩

theorem run_snoc (calls : List Call) (next : Call) : run (calls ++ [next]) = call (run calls) next := by
  unfold run
  rw [List.foldl_append]
  rfl

/-- With new ids the record is kept at every moment. -/
theorem recorded_run {calls : List Call} (fresh : FreshIds calls) :
    ∀ early, early <+: calls → Recorded (run early) := by
  intro early
  induction early using List.reverseRecOn with
  | nil => exact fun _ => recorded_start
  | append_singleton early next ih =>
    intro inside
    have before : early <+: calls := (List.prefix_append early [next]).trans inside
    rw [run_snoc]
    refine recorded_call (ih before) next ?_
    rintro input result rfl accepts
    exact fresh early input result inside accepts

/-- Results are only added. -/
theorem results_grow {early later : List Call} (inside : early <+: later) :
    (run early).results <+: (run later).results := by
  obtain ⟨rest,rfl⟩ := inside
  induction rest using List.reverseRecOn with
  | nil => simp
  | append_singleton rest next ih =>
    rw [← List.append_assoc,run_snoc]
    refine ih.trans ?_
    cases next with
    | addRequest request => exact List.prefix_refl _
    | decide input =>
      rcases ran : decide input (run (early ++ rest)).service with ⟨error | result,service⟩
      · simp [call_refused ran]
      · simp [call_returned ran]

theorem settled_of_fresh {calls : List Call} (fresh : FreshIds calls) : Settled calls := by
  have stored : ∀ {early later : List Call}, early <+: later → later <+: calls → ∀ result ∈ (run early).results,
      result ∈ (run later).service.decisions.values := by
    intro early later before inside result member
    rw [(recorded_run fresh later inside).values]
    exact (results_grow before).subset member
  refine ⟨?_,?_,?_,?_⟩
  · intro early inside
    have recorded := recorded_run fresh early inside
    exact ⟨recorded.values,recorded.requests⟩
  · intro early later before inside result member projectId request listed same
    have pending := (List.mem_filter.mp listed).2
    simp only [decide_eq_true_eq] at pending
    exact pending.2 ⟨result,stored before inside result member,same.symm⟩
  · intro early later before inside result member input same
    have resolved : Resolved (run later).service input.requestId :=
      ⟨result,stored before inside result member,same.symm⟩
    rcases ran : decide input (run later).service with ⟨error | accepted,service⟩
    · exact ⟨error,by rw [decide_error ran]⟩
    · exact absurd resolved (decide_ok.mp ran).1.unresolved
  · intro early later before inside result member
    exact InsertionMap.get?_key (recorded_run fresh later inside).ids (stored before inside result member)

/-- A decision under a known id is one result more, and no stored decision more. -/
theorem fresh_of_settled {calls : List Call} (settled : Settled calls) : FreshIds calls := by
  intro before input result inside accepts known
  have earlier : before <+: calls := (List.prefix_append before _).trans inside
  obtain ⟨request,_,submitted⟩ := accepts.request
  have sameId := (submitDecision_ok submitted).1
  have ran : decide input (run before).service = (.ok result,_) := decide_ok.mpr ⟨accepts,rfl⟩
  have now := (settled.exact _ inside).1
  have then_ := (settled.exact _ earlier).1
  rw [run_snoc,call_returned ran] at now
  have lengths := congrArg List.length now
  have replaced : ((run before).service.decisions.set result.id result).values.length =
      (run before).service.decisions.values.length := InsertionMap.length_set_known (sameId ▸ known) result
  rw [List.length_append,List.length_singleton,← then_] at lengths
  have grown : ((run before).service.decisions.set result.id result).values.length =
      (run before).service.decisions.values.length + 1 := lengths
  omega

/-- What is decided stays decided exactly when every accepted decision brings an
    id that no stored decision has. -/
theorem settled_iff (calls : List Call) : Settled calls ↔ FreshIds calls := ⟨fresh_of_settled,settled_of_fresh⟩

/-! Two requests, decided under one id. -/

def release_request (id : String) : DecisionRequest where
  id := id
  projectId := "PRJ-1"
  actionId := "ACTION-1"
  headline := "Choose where to release"
  explanation := "The change is ready."
  impact := "Your choice controls who receives it."
  actionNeeded := "Choose one option."
  question := "Where should this be released?"
  options := [⟨"staging","Staging only","Safer."⟩,⟨"production","Production","Riskier."⟩]
  recommendedOptionId := some "staging"
  unaffectedWork := "Documentation can continue."
  requestedAt := some 0

def release_decision (requestId : String) : DecisionSubmission :=
  ⟨"DEC-1",requestId,"PRJ-1","staging","Use staging.",0⟩

def repeated_id : List Call :=
  [.addRequest (release_request "DR-1"),.addRequest (release_request "DR-2"),.decide (release_decision "DR-1"),
    .decide (release_decision "DR-2")]

/-- Both are decided; the first is listed again, and its decision is gone. -/
theorem decision_replaced : (run repeated_id).results.map DecisionSubmission.requestId = ["DR-1","DR-2"] ∧
    (run repeated_id).service.decisions.values.map DecisionSubmission.requestId = ["DR-2"] ∧
    (listPending (run repeated_id).service "PRJ-1").map DecisionRequest.id = ["DR-1"] ∧ ¬ Settled repeated_id := by
  have decided : (run repeated_id).results.map DecisionSubmission.requestId = ["DR-1","DR-2"] := by decide
  have stored : (run repeated_id).service.decisions.values.map DecisionSubmission.requestId = ["DR-2"] := by decide
  refine ⟨decided,stored,by decide,?_⟩
  intro settled
  have same := (settled.exact repeated_id (List.prefix_refl _)).1
  rw [same,decided] at stored
  exact absurd stored (by decide)

end V3Aidlc.Decisions
