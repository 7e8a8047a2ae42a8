import V3Aidlc.Analytics
import V3Aidlc.Dashboards
import V3Aidlc.Decisions
import V3Aidlc.Values

/-!
Standing delegations behind the HTTP interface (`packages/governance`, `apps/api`). The requests of a server are
answered one after the other; whatever they are, the first revocation that its project asks for in words takes the
authority of a delegation away, and nothing else does (`delegated_authority`).
-/
namespace V3Aidlc.Delegations
open V3Aidlc.Values V3Aidlc.Decisions V3Aidlc.InsertionMaps
open V3Aidlc.Analytics (ProcessHealthReport)
open V3Aidlc.Dashboards (ProjectDashboard)

structure StandingDelegation where
  id : String
  projectId : String
  grantedBy : String
  actionTypes : List String
  targets : List String
  requiredEvidence : List String
  policyVersion : String
  userWords : String
  grantedAt : Int
  expiresAt : Option Int
  revokedAt : Option Int
  revocationWords : Option String

/-- What an action is authorized for. -/
structure ActionInput where
  projectId : String
  actionType : String
  target : String
  evidenceIds : List String
  time : Int

def delegationAuthorizes (delegation : StandingDelegation) (input : ActionInput) : Bool :=
  delegation.projectId = input.projectId && delegation.revokedAt.isNone &&
    delegation.expiresAt.all (fun expiresAt => input.time < expiresAt) &&
    delegation.actionTypes.contains input.actionType && delegation.targets.contains input.target &&
    delegation.requiredEvidence.all (fun id => input.evidenceIds.contains id)

/-- The delegation, revoked at a time and in words. -/
def StandingDelegation.ended (delegation : StandingDelegation) (time : Int) (words : String) : StandingDelegation :=
  { delegation with revokedAt := some time,revocationWords := some words }

def revokeDelegation (delegation : StandingDelegation) (time : Int) (userWords : String) :
    Except GovernanceError StandingDelegation :=
  if delegation.revokedAt.isSome then .error ⟨"Delegation is already revoked"⟩
  else if trim userWords = "" then .error ⟨"The user’s exact revocation words are required"⟩
  else .ok (delegation.ended time (trim userWords))

/-! ### The server -/

structure Server where
  decisions : InMemoryDecisionService
  delegations : InsertionMap String StandingDelegation

def fresh_server : Server := ⟨⟨.empty,.empty⟩,.empty⟩

def revoke (projectId delegationId userWords : String) (time : Int) (server : Server) :
    Except GovernanceError StandingDelegation × Server :=
  match server.delegations.get? delegationId with
  | none => (.error ⟨"Unknown delegation"⟩,server)
  | some delegation =>
    if delegation.projectId ≠ projectId then (.error ⟨"Unknown delegation"⟩,server)
    else
      match revokeDelegation delegation time userWords with
      | .error error => (.error error,server)
      | .ok revoked => (.ok revoked,{ server with delegations := server.delegations.set revoked.id revoked })

/-- What a service of views answers for a project: it throws, has nothing or has one. -/
abbrev Lookup (α : Type) := Except (Option GovernanceError) (Option α)

/-- Requests that the application routes, with the body that was read, if any, the time of the answer and what the
    service of a view answered. -/
inductive Request where
  | health
  | dashboard (projectId : String) (found : Lookup ProjectDashboard)
  | processHealth (projectId : String) (found : Lookup ProcessHealthReport)
  | listDecisions (projectId : String)
  | decide (projectId requestId : String) (body : Option Dict) (time : Int)
  | revoke (projectId delegationId : String) (body : Option Dict) (time : Int)

inductive Answer where
  | health
  | dashboard (snapshot : ProjectDashboard)
  | processHealth (report : ProcessHealthReport)
  | decisions (pending : List DecisionRequest)
  | created (result : DecisionSubmission)
  | revoked (delegation : StandingDelegation)
  | failed (status : Nat) (error : Option String)

/-- `typeof body[key] === 'string' ? body[key] : ''` -/
def text_field (body : Dict) (key : String) : String :=
  match body.get key with
  | .str s => s
  | _ => ""

/-- The error handler of the application: what is not an error of the governance is left to the framework. -/
def failure (error : Option GovernanceError) : Answer :=
  match error with
  | some error => .failed 400 (some error.message)
  | none => .failed 500 none

def viewed {α : Type} (view : α → Answer) (missing : String) : Lookup α → Answer
  | .error error => failure error
  | .ok none => .failed 404 (some missing)
  | .ok (some found) => view found

/-- The answer to a request. Reading a field of no body throws. -/
def answer (server : Server) : Request → Answer × Server
  | .health => (.health,server)
  | .dashboard _ found => (viewed .dashboard "Project dashboard not found" found,server)
  | .processHealth _ found => (viewed .processHealth "Process health report not found" found,server)
  | .listDecisions projectId => (.decisions (listPending server.decisions projectId),server)
  | .decide _ _ none _ => (failure none,server)
  | .decide projectId requestId (some body) time =>
    match Decisions.decide ⟨text_field body "id",requestId,projectId,text_field body "selectedOptionId",
        text_field body "userWords",time⟩ server.decisions with
    | (.ok result,decisions) => (.created result,{ server with decisions := decisions })
    | (.error error,decisions) => (failure (some error),{ server with decisions := decisions })
  | .revoke _ _ none _ => (failure none,server)
  | .revoke projectId delegationId (some body) time =>
    match Delegations.revoke projectId delegationId (text_field body "userWords") time server with
    | (.ok delegation,after) => (.revoked delegation,after)
    | (.error error,after) => (failure (some error),after)

/-- What happens to a server: a request, or what its owner adds. -/
inductive Event where
  | request (request : Request)
  | addRequest (request : DecisionRequest)
  | addDelegation (delegation : StandingDelegation)

def next (server : Server) : Event → Server
  | .request request => (answer server request).2
  | .addRequest request => { server with decisions := (addRequest request server.decisions).2 }
  | .addDelegation delegation => { server with delegations := server.delegations.set delegation.id delegation }

def reached (server : Server) (events : List Event) : Server := events.foldl next server

/-! ### What takes the authority away -/

/-- The revocation of this delegation that an event asks for, in the words of its project. -/
def revocation (delegation : StandingDelegation) : Event → Option (Int × String)
  | .request (.revoke projectId delegationId (some body) time) =>
    if projectId = delegation.projectId ∧ delegationId = delegation.id ∧ trim (text_field body "userWords") ≠ "" then
      some (time,trim (text_field body "userWords"))
    else none
  | _ => none

/-- The delegation after events: the first revocation counts, unless it was revoked before. -/
def afterwards (delegation : StandingDelegation) (events : List Event) : StandingDelegation :=
  if delegation.revokedAt.isSome then delegation
  else
    match events.findSome? (revocation delegation) with
    | none => delegation
    | some (time,words) => delegation.ended time words

/-- Delegations are stored under their own ids. -/
def Filed (server : Server) : Prop := ∀ id delegation, server.delegations.get? id = some delegation → delegation.id = id

theorem filed_set {server : Server} (filed : Filed server) (delegation : StandingDelegation) :
    Filed { server with delegations := server.delegations.set delegation.id delegation } := by
  intro id found held
  rw [InsertionMap.get?_set] at held
  by_cases this : id = delegation.id
  · rw [if_pos this] at held
    rw [← Option.some.inj held,this]
  · rw [if_neg this] at held
    exact filed id found held

/-- What a revocation that succeeds stores. -/
theorem revoke_ok {projectId delegationId userWords : String} {time : Int} {server after : Server}
    {result : StandingDelegation} :
    revoke projectId delegationId userWords time server = (.ok result,after) ↔
      ∃ held, server.delegations.get? delegationId = some held ∧ held.projectId = projectId ∧ held.revokedAt = none ∧
        trim userWords ≠ "" ∧ result = held.ended time (trim userWords) ∧
        after = { server with delegations := server.delegations.set result.id result } := by
  unfold revoke
  cases found : server.delegations.get? delegationId with
  | none => simp
  | some held =>
    by_cases own : held.projectId = projectId
    · cases revoked : held.revokedAt with
      | some earlier => simp [own,revoked,revokeDelegation]
      | none =>
        by_cases silent : trim userWords = ""
        · simp [own,revoked,silent,revokeDelegation]
        · simp [own,revoked,silent,revokeDelegation]
          grind
    · simp [own]

theorem revoke_error {projectId delegationId userWords : String} {time : Int} {server after : Server}
    {error : GovernanceError} (refused : revoke projectId delegationId userWords time server = (.error error,after)) :
    after = server := by
  unfold revoke at refused
  split at refused
  · simp at refused
    exact refused.2.symm
  · grind

/-- Where the delegations are after an event: one was added, one was revoked, or they are as before. -/
theorem next_cases (server : Server) (event : Event) :
    (∃ delegation, event = .addDelegation delegation ∧
      (next server event).delegations = server.delegations.set delegation.id delegation) ∨
    (∃ projectId delegationId body time held, event = .request (.revoke projectId delegationId (some body) time) ∧
      server.delegations.get? delegationId = some held ∧ held.projectId = projectId ∧ held.revokedAt = none ∧
      trim (text_field body "userWords") ≠ "" ∧
      (next server event).delegations =
        server.delegations.set held.id (held.ended time (trim (text_field body "userWords")))) ∨
    (∀ id held, server.delegations.get? id = some held → held.id = id → held.revokedAt = none → revocation held event = none) ∧
      (∀ delegation, event ≠ .addDelegation delegation) ∧ (next server event).delegations = server.delegations := by
  cases event with
  | addRequest request => exact .inr (.inr ⟨fun _ _ _ _ _ => rfl,by simp,rfl⟩)
  | addDelegation delegation => exact .inl ⟨delegation,rfl,rfl⟩
  | request request =>
    cases request with
    | health => exact .inr (.inr ⟨fun _ _ _ _ _ => rfl,by simp,rfl⟩)
    | dashboard projectId found => exact .inr (.inr ⟨fun _ _ _ _ _ => rfl,by simp,rfl⟩)
    | processHealth projectId found => exact .inr (.inr ⟨fun _ _ _ _ _ => rfl,by simp,rfl⟩)
    | listDecisions projectId => exact .inr (.inr ⟨fun _ _ _ _ _ => rfl,by simp,rfl⟩)
    | decide projectId requestId body time =>
      refine .inr (.inr ⟨fun _ _ _ _ _ => rfl,by simp,?_⟩)
      cases body with
      | none => rfl
      | some body =>
        simp only [next,answer]
        split <;> rfl
    | revoke projectId delegationId body time =>
      cases body with
      | none => exact .inr (.inr ⟨fun _ _ _ _ _ => rfl,by simp,rfl⟩)
      | some body =>
        cases ran : revoke projectId delegationId (text_field body "userWords") time server with
        | mk result after =>
          cases result with
          | ok result =>
            obtain ⟨held,found,own,open_still,spoken,rfl,rfl⟩ := revoke_ok.mp ran
            refine .inr (.inl ⟨projectId,delegationId,body,time,held,rfl,found,own,open_still,spoken,?_⟩)
            simp only [next,answer,ran]
            rfl
          | error error =>
            obtain rfl := revoke_error ran
            refine .inr (.inr ⟨fun id held found filed open_still => ?_,by simp,by simp only [next,answer,ran]⟩)
            unfold revocation
            by_contra asked
            have fits : projectId = held.projectId ∧ delegationId = held.id ∧ trim (text_field body "userWords") ≠ "" := by
              by_contra misfit
              exact asked (if_neg misfit)
            obtain ⟨own,named,spoken⟩ := fits
            have done : revoke projectId delegationId (text_field body "userWords") time after = (.ok _,_) :=
              revoke_ok.mpr ⟨held,named ▸ filed ▸ found,own.symm,open_still,spoken,rfl,rfl⟩
            rw [ran] at done
            simp at done

/-! ### Runs -/

theorem next_filed {server : Server} (event : Event) (filed : Filed server) : Filed (next server event) := by
  rcases next_cases server event with ⟨delegation,_,after⟩ | ⟨_,_,body,time,held,_,_,_,_,_,after⟩ | ⟨_,_,after⟩ <;>
    intro id found member <;> rw [after] at member
  · exact filed_set filed delegation id found member
  · exact filed_set filed (held.ended time (trim (text_field body "userWords"))) id found member
  · exact filed id found member

theorem reached_filed (events : List Event) {server : Server} (filed : Filed server) : Filed (reached server events) := by
  induction events generalizing server with
  | nil => exact filed
  | cons event rest ih => exact ih (next_filed event filed)

/-- One event, as a delegation that is not added again sees it. -/
theorem next_held {server : Server} {delegation : StandingDelegation} {event : Event} (filed : Filed server)
    (held : server.delegations.get? delegation.id = some delegation)
    (kept : ∀ new, event = .addDelegation new → new.id ≠ delegation.id) :
    (next server event).delegations.get? delegation.id = some (afterwards delegation [event]) := by
  rcases next_cases server event with ⟨new,rfl,after⟩ | ⟨projectId,delegationId,body,time,other,rfl,found,own,open_still,spoken,after⟩ | ⟨quiet,_,after⟩ <;>
    rw [after]
  · have apart : delegation.id ≠ new.id := fun same => kept new rfl same.symm
    rw [InsertionMap.get?_set,if_neg apart,held]
    simp [afterwards,revocation]
  · have named := filed delegationId other found
    rw [InsertionMap.get?_set]
    by_cases this : delegation.id = other.id
    · obtain rfl : other = delegation := by
        rw [this,named,found] at held
        exact Option.some.inj held
      rw [if_pos rfl]
      simp [afterwards,revocation,open_still,own,named,spoken]
    · rw [if_neg this,held]
      have elsewhere : delegationId ≠ delegation.id := fun same => this (same.symm.trans named.symm)
      simp [afterwards,revocation,elsewhere]
  · rw [held]
    unfold afterwards
    cases revoked : delegation.revokedAt with
    | some earlier => simp
    | none => simp [quiet delegation.id delegation held rfl revoked]

theorem afterwards_id (delegation : StandingDelegation) (events : List Event) :
    (afterwards delegation events).id = delegation.id := by
  unfold afterwards
  split
  · rfl
  · split <;> rfl

theorem afterwards_cons (delegation : StandingDelegation) (event : Event) (rest : List Event) :
    afterwards delegation (event :: rest) = afterwards (afterwards delegation [event]) rest := by
  cases revoked : delegation.revokedAt with
  | some earlier => simp [afterwards,revoked]
  | none =>
    cases asked : revocation delegation event with
    | none => simp [afterwards,revoked,asked]
    | some found => simp [afterwards,revoked,asked,StandingDelegation.ended]

theorem reached_held {server : Server} {delegation : StandingDelegation} {events : List Event} (filed : Filed server)
    (held : server.delegations.get? delegation.id = some delegation)
    (kept : ∀ new, .addDelegation new ∈ events → new.id ≠ delegation.id) :
    (reached server events).delegations.get? delegation.id = some (afterwards delegation events) := by
  induction events generalizing server delegation with
  | nil =>
    have same : afterwards delegation [] = delegation := by simp [afterwards]
    rw [same]
    exact held
  | cons event rest ih =>
    have first := next_held filed held (fun new this => kept new (this ▸ List.mem_cons_self))
    rw [afterwards_cons,← afterwards_id delegation [event]]
    rw [← afterwards_id delegation [event]] at first
    refine ih (next_filed event filed) first (fun new member => ?_)
    rw [afterwards_id]
    exact kept new (List.mem_cons_of_mem event member)

theorem authorizes_afterwards (delegation : StandingDelegation) (events : List Event) (input : ActionInput) :
    delegationAuthorizes (afterwards delegation events) input = true ↔
      delegationAuthorizes delegation input = true ∧ ∀ event ∈ events, revocation delegation event = none := by
  cases revoked : delegation.revokedAt with
  | some earlier => simp [afterwards,delegationAuthorizes,revoked]
  | none =>
    cases asked : events.findSome? (revocation delegation) with
    | none =>
      have never : ∀ event ∈ events, revocation delegation event = none := List.findSome?_eq_none_iff.mp asked
      simp only [afterwards,revoked,asked,Option.isSome_none,Bool.false_eq_true,if_false]
      exact ⟨fun yes => ⟨yes,never⟩,And.left⟩
    | some found =>
      obtain ⟨event,member,this⟩ := List.exists_of_findSome?_eq_some asked
      have spoken : ¬ ∀ event ∈ events, revocation delegation event = none := by
        intro never
        rw [never event member] at this
        cases this
      simp [afterwards,revoked,asked,StandingDelegation.ended,delegationAuthorizes,spoken]

/-- In any run of a server, a delegation that is added and not added again is as its first revocation leaves it, and
    authorizes what it did until then exactly when its project has not revoked it in words. -/
theorem delegated_authority {before later : List Event} {delegation : StandingDelegation}
    (kept : ∀ new, .addDelegation new ∈ later → new.id ≠ delegation.id) :
    ∃ held, (reached fresh_server (before ++ .addDelegation delegation :: later)).delegations.get? delegation.id = some held ∧
      held = afterwards delegation later ∧
      ∀ input, delegationAuthorizes held input = true ↔
        delegationAuthorizes delegation input = true ∧ ∀ event ∈ later, revocation delegation event = none := by
  have filed : Filed (reached fresh_server before) :=
    reached_filed before (fun id found held => by simp [fresh_server,InsertionMap.empty,InsertionMap.get?] at held)
  have added : (next (reached fresh_server before) (.addDelegation delegation)).delegations.get? delegation.id =
      some delegation := by
    simp [next,InsertionMap.get?_set]
  have split : reached fresh_server (before ++ .addDelegation delegation :: later) =
      reached (next (reached fresh_server before) (.addDelegation delegation)) later := by
    simp [reached]
  rw [split]
  exact ⟨_,reached_held (next_filed _ filed) added kept,rfl,authorizes_afterwards delegation later⟩

/-- A delegation that another project asks to revoke, and then its own. -/
theorem delegated_authority_revoked :
    let delegation : StandingDelegation :=
      ⟨"DEL-1","PRJ-1","owner",["deploy"],["staging"],[],"1","Go ahead",0,none,none,none⟩
    let asked (projectId : String) : Event :=
      .request (.revoke projectId "DEL-1" (some [("userWords",.str "Stop")]) 5)
    ∃ held, (reached fresh_server ([] ++ .addDelegation delegation :: [asked "PRJ-2",asked "PRJ-1"])).delegations.get?
        "DEL-1" = some held ∧
      held = afterwards delegation [asked "PRJ-2",asked "PRJ-1"] ∧
      ∀ input, delegationAuthorizes held input = true ↔
        delegationAuthorizes delegation input = true ∧
          ∀ event ∈ [asked "PRJ-2",asked "PRJ-1"], revocation delegation event = none :=
  delegated_authority (by simp)

end V3Aidlc.Delegations
