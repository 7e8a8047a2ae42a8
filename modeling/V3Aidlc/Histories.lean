import V3Aidlc.Recovery

/-!
Chains of events. What `verify_event_chain` knows after some events is a function
of them (`chain_state`), so a chain is verified event by event (`chain_snoc`),
every prefix of a chain is a chain (`chain_prefix`), and a well-formed draft with
a fresh id and key can always be appended (`append_event_total`). Recovery planning
over a chain succeeds exactly when no run was dispatched twice.
-/
namespace V3Aidlc.Histories
open V3Aidlc.Values V3Aidlc.Loops V3Aidlc.Timestamps V3Aidlc.Contracts V3Aidlc.Canonical V3Aidlc.Sha256 V3Aidlc.Recovery

/-! ### Links of a chain -/

/-- The event continues a chain in this state. -/
structure Linked (state : ChainState) (event : Dict) : Prop where
  valid : validate_event event = .ok ()
  sequence : (event.get "sequence").eq (.int state.expected_sequence) = true
  project : ∀ project ∈ state.project_id, project = text event "projectId"
  fresh_id : text event "eventId" ∉ state.seen_ids
  fresh_key : text event "idempotencyKey" ∉ state.seen_keys
  previous : text event "previousEventHash" = state.expected_hash
  content : text event "eventHash" = event_hash event
  causation : event.get "causationId" = .null ∨ ∃ id ∈ state.seen_ids, event.get "causationId" = .str id

def advance (state : ChainState) (event : Dict) : ChainState where
  expected_sequence := state.expected_sequence + 1
  expected_hash := text event "eventHash"
  seen_ids := state.seen_ids ++ [text event "eventId"]
  seen_keys := state.seen_keys ++ [text event "idempotencyKey"]
  project_id := some (state.project_id.getD (text event "projectId"))

theorem check_causation_ok {causation : Json} {seen : List String} {u : Unit} :
    check_causation causation seen = .ok u ↔ causation = .null ∨ ∃ id ∈ seen, causation = .str id := by
  unfold check_causation
  cases causation with
  | null => simp [Json.isNull]
  | str s => simp [Json.isNull,in_set_str,reject]
  | arr items => simp [Json.isNull,in_set,Json.hashable]
  | obj fields => simp [Json.isNull,in_set,Json.hashable]
  | bool b => simp [Json.isNull,in_set,Json.hashable,reject]
  | int n => simp [Json.isNull,in_set,Json.hashable,reject]
  | float x => simp [Json.isNull,in_set,Json.hashable,reject]

theorem verify_link_ok {state next : ChainState} {event : Dict} :
    verify_link state event = .ok next ↔ Linked state event ∧ next = advance state event := by
  unfold verify_link
  simp only [reject,bind_ok_iff,reject_if_ok,pure_ok_iff,check_causation_ok,Bool.not_eq_false',
    List.contains_eq_mem,decide_eq_false_iff_not,ne_eq,not_not,Option.any_eq_false]
  constructor
  · rintro ⟨_,valid,_,sequence,_,project,_,fresh,_,key,_,previous,_,content,_,causation,rfl⟩
    exact ⟨⟨valid,sequence,by simpa using project,fresh,key,previous,content,causation⟩,rfl⟩
  · rintro ⟨link,rfl⟩
    exact ⟨(),link.valid,(),link.sequence,(),by simpa using link.project,(),link.fresh_id,(),link.fresh_key,(),
      link.previous,(),link.content,(),link.causation,rfl⟩

/-! ### Chains -/

/-- A verified history. -/
def Chain (events : List Dict) : Prop := verify_event_chain events = .ok ()

/-- What the verification knows after these events. -/
def chain_state (events : List Dict) : ChainState where
  expected_sequence := events.length + 1
  expected_hash := (events.getLast?.map (fun last => text last "eventHash")).getD ZERO_HASH
  seen_ids := events.map (fun event => text event "eventId")
  seen_keys := events.map (fun event => text event "idempotencyKey")
  project_id := events.head?.map (fun event => text event "projectId")

theorem advance_chain_state (events : List Dict) (event : Dict) :
    advance (chain_state events) event = chain_state (events ++ [event]) := by
  have last : (events ++ [event]).getLast? = some event := List.getLast?_concat
  unfold advance chain_state
  rw [last]
  cases events <;> simp

theorem chain_iff {events : List Dict} : Chain events ↔ ∃ state, events.foldlM verify_link {} = .ok state := by
  unfold Chain verify_event_chain
  simp

/-- Induction on the chain from its end. -/
theorem chain_state_of_fold {events : List Dict} {state : ChainState}
    (verified : events.foldlM verify_link {} = .ok state) : state = chain_state events := by
  induction events using List.reverseRecOn generalizing state with
  | nil => exact (foldlM_nil_ok.mp verified).symm
  | append_singleton events event ih =>
    obtain ⟨middle,before,linked⟩ := foldlM_snoc_ok.mp verified
    obtain ⟨_,rfl⟩ := verify_link_ok.mp linked
    rw [ih before,advance_chain_state]

theorem chain_nil : Chain [] := rfl

theorem chain_snoc {events : List Dict} {event : Dict} :
    Chain (events ++ [event]) ↔ Chain events ∧ Linked (chain_state events) event := by
  rw [chain_iff,chain_iff]
  constructor
  · rintro ⟨state,verified⟩
    obtain ⟨middle,before,linked⟩ := foldlM_snoc_ok.mp verified
    have known := chain_state_of_fold before
    subst known
    exact ⟨⟨_,before⟩,(verify_link_ok.mp linked).1⟩
  · rintro ⟨⟨state,before⟩,linked⟩
    have known := chain_state_of_fold before
    subst known
    exact ⟨_,foldlM_snoc_ok.mpr ⟨_,before,verify_link_ok.mpr ⟨linked,rfl⟩⟩⟩

/-- A process can stop after any event: what it wrote is a chain. -/
theorem chain_prefix {events earlier : List Dict} (chain : Chain events) (isPrefix : earlier <+: events) :
    Chain earlier := by
  induction events using List.reverseRecOn with
  | nil => rw [List.prefix_nil.mp isPrefix]; exact chain_nil
  | append_singleton events event ih =>
    rcases List.prefix_concat_iff.mp isPrefix with rfl | shorter
    · exact chain
    · exact ih (chain_snoc.mp chain).1 shorter

theorem chain_valid {events : List Dict} (chain : Chain events) {event : Dict} (member : event ∈ events) :
    validate_event event = .ok () := by
  induction events using List.reverseRecOn with
  | nil => cases member
  | append_singleton events last ih =>
    obtain ⟨before,linked⟩ := chain_snoc.mp chain
    rcases List.mem_append.mp member with earlier | here
    · exact ih before earlier
    · rw [List.mem_singleton.mp here]
      exact linked.valid

/-! ### Appending -/

/-- A key that is left out may hold anything. -/
theorem without_set (d : Dict) {key : String} {keys : List String} (v : Json) (member : key ∈ keys) :
    (d.set key v).without keys = d.without keys := by
  induction d with
  | nil => simp [Dict.set,Dict.without,member]
  | cons kv rest ih =>
    obtain ⟨k,w⟩ := kv
    by_cases same : k = key
    · subst same
      simp [Dict.set,Dict.without,member]
    · by_cases listed : k ∈ keys <;> simpa [Dict.set,Dict.without,same,listed] using ih

/-- The event says of itself what its draft said. -/
theorem sealed_get? (events : List Dict) (draft : Dict) {key : String}
    (own : key ∉ ["sequence","previousEventHash","eventHash"]) :
    Dict.get? key (sealed_event events draft) = Dict.get? key draft := by
  simp only [List.mem_cons,List.not_mem_nil,or_false,not_or] at own
  unfold sealed_event
  rw [get?_set_ne _ _ (Ne.symm own.2.2),get?_set_ne _ _ (Ne.symm own.2.1),get?_set_ne _ _ (Ne.symm own.1)]

theorem sealed_get (events : List Dict) (draft : Dict) {key : String}
    (own : key ∉ ["sequence","previousEventHash","eventHash"]) :
    (sealed_event events draft).get key = draft.get key := by
  unfold Dict.get
  rw [sealed_get? events draft own]

theorem sealed_text (events : List Dict) (draft : Dict) {key : String}
    (own : key ∉ ["sequence","previousEventHash","eventHash"]) : text (sealed_event events draft) key = text draft key :=
  text_of_get (sealed_get events draft own)

/-- A draft that continues a history: complete, of the same project, with an id
    and a key that are new, caused by an earlier event or by none. -/
structure Appendable (events : List Dict) (draft : Dict) : Prop where
  strings : ∀ key ∈ EVENT_STRINGS, key ∉ ["previousEventHash","eventHash"] →
    ∃ s, Dict.get? key draft = some (.str s) ∧ blank s = false
  actor : ∃ (actor : Dict) (id : String), draft.get "actor" = .obj actor ∧ required_string actor "id" = .ok id ∧
    in_set (actor.get "type") ACTOR_TYPES = .ok true
  payload : (draft.get "payload").isDict = true
  times : ∃ occurred recorded, parse_time (draft.get "occurredAt") "occurredAt" = .ok occurred ∧
    parse_time (draft.get "recordedAt") "recordedAt" = .ok recorded ∧ occurred ≤ recorded
  project : ∀ event ∈ events.head?, text event "projectId" = text draft "projectId"
  fresh_id : ∀ event ∈ events, text event "eventId" ≠ text draft "eventId"
  fresh_key : ∀ event ∈ events, text event "idempotencyKey" ≠ text draft "idempotencyKey"
  causation : draft.get "causationId" = .null ∨
    ∃ event ∈ events, draft.get "causationId" = .str (text event "eventId")

theorem zero_hash_hex : isHexDigest ZERO_HASH = true := by
  decide +kernel

/-- The digest that a history hands on to the next event. -/
theorem chain_hash_hex {events : List Dict} (chain : Chain events) :
    isHexDigest (chain_state events).expected_hash = true := by
  induction events using List.reverseRecOn with
  | nil => exact zero_hash_hex
  | append_singleton events event _ =>
    have linked := (chain_snoc.mp chain).2
    rw [← advance_chain_state]
    show isHexDigest (text event "eventHash") = true
    rw [linked.content]
    exact sha256_hex _

/-- What a valid event says besides its texts. -/
theorem validate_event_ok {event : Dict} : validate_event event = .ok () ↔
    (∀ key ∈ EVENT_STRINGS, ∃ s, Dict.get? key event = some (.str s) ∧ blank s = false) ∧
    (∃ n, (event.get "sequence").int? = some n ∧ 1 ≤ n) ∧
    (∃ (actor : Dict) (id : String), event.get "actor" = .obj actor ∧ required_string actor "id" = .ok id ∧
      in_set (actor.get "type") ACTOR_TYPES = .ok true) ∧
    (event.get "payload").isDict = true ∧
    (∃ occurred recorded, parse_time (event.get "occurredAt") "occurredAt" = .ok occurred ∧
      parse_time (event.get "recordedAt") "recordedAt" = .ok recorded ∧ occurred ≤ recorded) ∧
    isHexDigest (text event "previousEventHash") = true ∧ isHexDigest (text event "eventHash") = true := by
  unfold validate_event
  rw [bind_ok_iff]
  cases sequence : (event.get "sequence").int? with
  | none => simp [recovery_error]
  | some n =>
    cases actor : (event.get "actor").dict? with
    | none =>
      have absent := no_dict actor
      simp [recovery_error,absent]
    | some fields =>
      have actorIs := dict?_eq_some.mp actor
      simp only [bind_ok_iff,required_strings_ok,reject,reject_if_ok,check_digest,Bool.not_eq_false',
        decide_eq_false_iff_not,not_lt,actorIs,Json.obj.injEq]
      constructor
      · rintro ⟨_,strings,_,positive,id,named,known,typed,_,rfl,_,isObject,o,occurred,r,recorded,_,ordered,_,
          previous,own⟩
        exact ⟨strings,⟨n,rfl,positive⟩,⟨fields,id,rfl,named,typed⟩,isObject,⟨o,r,occurred,recorded,ordered⟩,
          previous,own⟩
      · rintro ⟨strings,⟨_,same,positive⟩,⟨_,id,rfl,named,typed⟩,isObject,⟨o,r,occurred,recorded,ordered⟩,previous,own⟩
        cases same
        exact ⟨(),strings,(),positive,id,named,true,typed,(),rfl,(),isObject,o,occurred,r,recorded,(),ordered,(),
          previous,own⟩

theorem sealed_previous (events : List Dict) (draft : Dict) :
    text (sealed_event events draft) "previousEventHash" = (chain_state events).expected_hash := by
  unfold sealed_event
  refine text_of_get? ?_
  rw [get?_set_ne _ _ (by decide),get?_set_self]
  rfl

theorem sealed_content (events : List Dict) (draft : Dict) :
    text (sealed_event events draft) "eventHash" = event_hash (sealed_event events draft) := by
  unfold event_hash sealed_event
  rw [without_set _ _ (by simp)]
  exact text_of_get? (get?_set_self _ _ _)

theorem sealed_sequence (events : List Dict) (draft : Dict) :
    (sealed_event events draft).get "sequence" = .int (chain_state events).expected_sequence := by
  unfold sealed_event
  refine get_of_get? ?_
  rw [get?_set_ne _ _ (by decide),get?_set_ne _ _ (by decide),get?_set_self]
  rfl

theorem sealed_valid {events : List Dict} {draft : Dict} (chain : Chain events)
    (appendable : Appendable events draft) : validate_event (sealed_event events draft) = .ok () := by
  have previous : isHexDigest (text (sealed_event events draft) "previousEventHash") = true := by
    rw [sealed_previous]
    exact chain_hash_hex chain
  have own : isHexDigest (text (sealed_event events draft) "eventHash") = true := by
    rw [sealed_content]
    exact sha256_hex _
  refine validate_event_ok.mpr ⟨?_,?_,?_,?_,?_,previous,own⟩
  · intro key member
    by_cases digest : key ∈ ["previousEventHash","eventHash"]
    · -- The two digests are texts because they were set to texts.
      have texts : ∃ s, Dict.get? key (sealed_event events draft) = some (.str s) := by
        rcases List.mem_cons.mp digest with rfl | rest
        · unfold sealed_event
          rw [get?_set_ne _ _ (by decide),get?_set_self]
          exact ⟨_,rfl⟩
        · rw [List.mem_singleton.mp rest]
          unfold sealed_event
          rw [get?_set_self]
          exact ⟨_,rfl⟩
      obtain ⟨s,found⟩ := texts
      refine ⟨s,found,hex_filled ?_⟩
      rw [← text_of_get? found]
      rcases List.mem_cons.mp digest with rfl | rest
      · exact previous
      · rw [List.mem_singleton.mp rest]; exact own
    · rw [sealed_get?]
      · exact appendable.strings key member digest
      · simp only [List.mem_cons,List.not_mem_nil,or_false,not_or] at digest ⊢
        refine ⟨?_,digest⟩
        rintro rfl
        exact absurd member (by decide)
  · exact ⟨_,by rw [sealed_sequence]; rfl,by simp [chain_state]⟩
  · rw [sealed_get _ _ (by decide)]; exact appendable.actor
  · rw [sealed_get _ _ (by decide)]; exact appendable.payload
  · rw [sealed_get _ _ (by decide),sealed_get _ _ (by decide)]; exact appendable.times

theorem sealed_linked {events : List Dict} {draft : Dict} (chain : Chain events)
    (appendable : Appendable events draft) : Linked (chain_state events) (sealed_event events draft) := by
  refine ⟨sealed_valid chain appendable,?_,?_,?_,?_,sealed_previous events draft,sealed_content events draft,?_⟩
  · rw [sealed_sequence]
    simp [Json.eq,Json.num?]
  · intro project known
    obtain ⟨event,first,rfl⟩ := Option.map_eq_some_iff.mp known
    rw [sealed_text _ _ (by decide)]
    exact appendable.project event first
  · rw [sealed_text _ _ (by decide)]
    intro seen
    obtain ⟨event,member,same⟩ := List.mem_map.mp seen
    exact appendable.fresh_id event member same
  · rw [sealed_text _ _ (by decide)]
    intro seen
    obtain ⟨event,member,same⟩ := List.mem_map.mp seen
    exact appendable.fresh_key event member same
  · rw [sealed_get _ _ (by decide)]
    rcases appendable.causation with none | ⟨event,member,named⟩
    · exact .inl none
    · exact .inr ⟨_,List.mem_map.mpr ⟨event,member,rfl⟩,named⟩

theorem event_text {event : Dict} (valid : validate_event event = .ok ()) {key : String}
    (member : key ∈ EVENT_STRINGS) :
    event.get key = .str (text event key) := by
  obtain ⟨s,found,_⟩ := (validate_event_ok.mp valid).1 key member
  rw [text_of_get? found,get_of_get? found]

/-- A complete draft with a fresh id and key is appended, whatever the history. -/
theorem append_event_total {events : List Dict} {draft : Dict} (chain : Chain events)
    (appendable : Appendable events draft) :
    append_event events draft = .ok (events ++ [sealed_event events draft],sealed_event events draft,true) := by
  obtain ⟨key,keyed,_⟩ := appendable.strings "idempotencyKey" (by decide) (by decide)
  have unused : events.find? (fun existing => (existing.get "idempotencyKey").eq (draft.get "idempotencyKey")) =
      none := by
    rw [List.find?_eq_none]
    intro existing member same
    rw [get_of_get? keyed,eq_str_right] at same
    refine appendable.fresh_key existing member ?_
    rw [text_of_get? keyed]
    unfold text
    rw [same]
    rfl
  have longer : Chain (events ++ [sealed_event events draft]) := chain_snoc.mpr ⟨chain,sealed_linked chain appendable⟩
  have verified : verify_event_chain events = .ok () := chain
  have verifiedLonger : verify_event_chain (events ++ [sealed_event events draft]) = .ok () := longer
  unfold append_event
  rw [verified,ok_bind,unused]
  simp only [sealed_valid chain appendable,verifiedLonger,ok_bind]
  rfl

/-- A draft whose key is new was appended as the last event of a longer chain. -/
theorem append_event_ok {events later : List Dict} {draft event : Dict} {appended : Bool}
    (fresh : ∀ existing ∈ events, existing.get "idempotencyKey" ≠ draft.get "idempotencyKey")
    {key : String} (keyed : draft.get "idempotencyKey" = .str key)
    (ran : append_event events draft = .ok (later,event,appended)) :
    later = events ++ [event] ∧ event = sealed_event events draft ∧ Chain later := by
  have unused : events.find? (fun existing => (existing.get "idempotencyKey").eq (draft.get "idempotencyKey")) =
      none := by
    rw [List.find?_eq_none]
    intro existing member same
    rw [keyed,eq_str_right] at same
    exact fresh existing member (same.trans keyed.symm)
  unfold append_event at ran
  rw [unused] at ran
  simp only [bind_ok_iff,pure_ok_iff,Prod.mk.injEq] at ran
  obtain ⟨_,_,_,_,_,verified,rfl,rfl,_⟩ := ran
  exact ⟨rfl,rfl,verified⟩

/-! ### Recovery planning -/

theorem nodup_snoc {α : Type} {items : List α} {a : α} : (items ++ [a]).Nodup ↔ items.Nodup ∧ a ∉ items := by
  rw [List.nodup_append_comm,List.singleton_append,List.nodup_cons,and_comm]

def of_type (type : String) (event : Dict) : Bool := (event.get "eventType").eq (.str type)
/-- The run that a dispatch or a completion is about. -/
def run_of (event : Dict) : String := text (payload event) "runId"
def dispatched_runs (events : List Dict) : List String := (events.filter (of_type "run.dispatched")).map run_of
def completed_runs (events : List Dict) : List String := (events.filter (of_type "run.completed")).map run_of

/-- Every dispatch and completion names its run. -/
def Named (events : List Dict) : Prop :=
  ∀ event ∈ events, of_type "run.dispatched" event = true ∨ of_type "run.completed" event = true →
    required_string (payload event) "runId" = .ok (run_of event)

/-- What recovery reads from a history. -/
def run_history (events : List Dict) : RunHistory where
  dispatches := (events.filter (of_type "run.dispatched")).map (fun event => (run_of event,event))
  completed_runs := completed_runs events

theorem run_history_runs (events : List Dict) : (run_history events).dispatches.map Prod.fst =
    dispatched_runs events := by
  simp [run_history,dispatched_runs,Function.comp_def]

theorem required_run {event : Dict} {run_id : String} (found : required_string (payload event) "runId" = .ok run_id) :
    run_id = run_of event :=
  (text_of_get? (required_string_ok _ |>.mp found).1).symm

theorem note_event_ok {events : List Dict} {event : Dict} {next : RunHistory} :
    note_event (run_history events) event = .ok next ↔
      (of_type "run.dispatched" event = true ∨ of_type "run.completed" event = true →
        required_string (payload event) "runId" = .ok (run_of event)) ∧
      (of_type "run.dispatched" event = true → run_of event ∉ dispatched_runs events) ∧
      next = run_history (events ++ [event]) := by
  unfold note_event
  rw [run_history_runs]
  by_cases dispatched : of_type "run.dispatched" event = true
  · have other : of_type "run.completed" event = false := by
      have typed := eq_str_right.mp dispatched
      simp [of_type,typed,Json.eq]
    have here : (event.get "eventType").eq (.str "run.dispatched") = true := dispatched
    simp only [here,↓reduceIte,bind_ok_iff,reject,reject_if_ok,pure_ok_iff,List.contains_eq_mem,
      decide_eq_false_iff_not,dispatched,true_or,forall_const]
    constructor
    · rintro ⟨run_id,named,_,fresh,rfl⟩
      have runIs := required_run named
      subst runIs
      exact ⟨named,fresh,by simp [run_history,completed_runs,dispatched,other]⟩
    · rintro ⟨named,fresh,rfl⟩
      exact ⟨_,named,(),fresh,by simp [run_history,completed_runs,dispatched,other]⟩
  · have here : (event.get "eventType").eq (.str "run.dispatched") = false := Bool.not_eq_true _ ▸ dispatched
    by_cases completed : of_type "run.completed" event = true
    · have completedHere : (event.get "eventType").eq (.str "run.completed") = true := completed
      simp only [here,completedHere,Bool.false_eq_true,↓reduceIte,bind_ok_iff,pure_ok_iff,dispatched,completed,or_true,
        forall_const,false_implies,true_and]
      constructor
      · rintro ⟨run_id,named,rfl⟩
        have runIs := required_run named
        subst runIs
        exact ⟨named,by simp [run_history,completed_runs,dispatched,completed]⟩
      · rintro ⟨named,rfl⟩
        exact ⟨_,named,by simp [run_history,completed_runs,dispatched,completed]⟩
    · have notCompleted : (event.get "eventType").eq (.str "run.completed") = false := Bool.not_eq_true _ ▸ completed
      simp only [here,notCompleted,Bool.false_eq_true,↓reduceIte,pure_ok_iff,dispatched,completed,or_self,false_implies,
        true_and]
      have same : run_history (events ++ [event]) = run_history events := by
        simp [run_history,completed_runs,dispatched,completed]
      rw [same]
      exact eq_comm

/-- Reading the runs of a history succeeds exactly when each run event names its
    run and no run is dispatched twice. -/
theorem note_events_ok {events : List Dict} {history : RunHistory} :
    events.foldlM note_event {} = .ok history ↔
      Named events ∧ (dispatched_runs events).Nodup ∧ history = run_history events := by
  induction events using List.reverseRecOn generalizing history with
  | nil =>
    rw [foldlM_nil_ok]
    exact ⟨fun same => ⟨by simp [Named],by simp [dispatched_runs],same.symm⟩,fun all => all.2.2.symm⟩
  | append_singleton events event ih =>
    have split : (dispatched_runs (events ++ [event])).Nodup ↔ (dispatched_runs events).Nodup ∧
        (of_type "run.dispatched" event = true → run_of event ∉ dispatched_runs events) := by
      by_cases dispatched : of_type "run.dispatched" event = true
      · simp only [dispatched_runs,List.filter_append,List.map_append,List.filter_cons,dispatched,↓reduceIte,
          List.filter_nil,List.map_cons,List.map_nil,nodup_snoc,forall_const]
      · simp [dispatched_runs,dispatched]
    have namedSplit : Named (events ++ [event]) ↔ Named events ∧
        (of_type "run.dispatched" event = true ∨ of_type "run.completed" event = true →
          required_string (payload event) "runId" = .ok (run_of event)) := by
      unfold Named
      refine ⟨fun all => ⟨fun other member => all other (by simp [member]),all event (by simp)⟩,?_⟩
      rintro ⟨earlier,last⟩ other member
      rcases List.mem_append.mp member with before | here
      · exact earlier other before
      · rw [List.mem_singleton.mp here]
        exact last
    rw [List.foldlM_append,bind_ok_iff,split,namedSplit]
    simp only [foldlM_cons_ok,foldlM_nil_ok,exists_eq_right]
    constructor
    · rintro ⟨middle,before,noted⟩
      obtain ⟨named,distinct,rfl⟩ := ih.mp before
      obtain ⟨namedHere,fresh,rfl⟩ := note_event_ok.mp noted
      exact ⟨⟨named,namedHere⟩,⟨distinct,fresh⟩,rfl⟩
    · rintro ⟨⟨named,namedHere⟩,⟨distinct,fresh⟩,rfl⟩
      exact ⟨_,ih.mpr ⟨named,distinct,rfl⟩,note_event_ok.mpr ⟨namedHere,fresh,rfl⟩⟩

/-- The holders of a list of leases. -/
def holders (leases : List Dict) : List String := leases.map (fun lease => text lease "holderRunId")

theorem index_leases_total {leases : List Dict} (valid : ∀ lease ∈ leases, validate_lease lease = .ok ())
    (distinct : (holders leases).Nodup) :
    leases.foldlM index_lease [] = .ok (leases.map (fun lease => (text lease "holderRunId",lease))) := by
  induction leases using List.reverseRecOn with
  | nil => rfl
  | append_singleton leases lease ih =>
    have apart : (holders leases).Nodup ∧ text lease "holderRunId" ∉ holders leases := by
      simpa only [holders,List.map_append,List.map_cons,List.map_nil,nodup_snoc] using distinct
    have before := ih (fun other member => valid other (by simp [member])) apart.1
    rw [List.foldlM_append,before,ok_bind]
    refine foldlM_cons_ok.mpr ⟨_,?_,foldlM_nil_ok.mpr rfl⟩
    unfold index_lease
    rw [valid lease (by simp),ok_bind]
    have unheld : ((leases.map (fun lease => (text lease "holderRunId",lease))).map Prod.fst).contains
        (text lease "holderRunId") = false := by
      simpa [holders] using apart.2
    have accepted : reject (((leases.map (fun lease => (text lease "holderRunId",lease))).map Prod.fst).contains
        (text lease "holderRunId")) ("Multiple current leases for run: " ++ text lease "holderRunId") = .ok () :=
      (reject_if_ok _).mpr unheld
    simp only [accepted,ok_bind,List.map_append,List.map_cons,List.map_nil]
    rfl

theorem lease_expires {lease : Dict} (valid : validate_lease lease = .ok ()) :
    ∃ expires, parse_time (lease.get "expiresAt") "expiresAt" = .ok expires := by
  unfold validate_lease at valid
  cases attempt : (lease.get "attempt").int? with
  | none => simp [attempt,recovery_error] at valid
  | some n =>
    simp only [attempt,bind_ok_iff] at valid
    obtain ⟨_,_,_,_,_,_,_,_,_,_,expires,parsed,_⟩ := valid
    exact ⟨expires,parsed⟩

theorem observed_total (effect_observations : Dict) {effect_key : Json} (hashable : effect_key.hashable = true) :
    ∃ status, observed effect_observations effect_key = .ok status := by
  unfold observed
  by_cases present : effect_key.truthy = true
  · rw [if_neg (by simp [present]),if_neg (by simp [hashable])]
    cases effect_key <;> exact ⟨_,rfl⟩
  · rw [if_pos (by simp [present])]
    exact ⟨_,rfl⟩

theorem expired_step_total (run_id : String) {event : Dict} (lease effect_observations : Dict) (max_attempts : Int)
    (hashable : ((payload event).get "effectKey").hashable = true) :
    ∃ step, expired_step run_id event lease effect_observations max_attempts = .ok step := by
  obtain ⟨status,seen⟩ := observed_total effect_observations hashable
  unfold expired_step
  simp only [seen,ok_bind]
  split_ifs <;> exact ⟨_,rfl⟩

theorem recovery_step_total {history : RunHistory} {leases : List (String × Dict)} (effect_observations : Dict)
    (now : Instant) (max_attempts : Int) {run_id : String}
    (valid : ∀ lease, leases.lookup run_id = some lease → validate_lease lease = .ok ())
    (hashable : ((payload ((history.dispatches.lookup run_id).getD [])).get "effectKey").hashable = true) :
    ∃ steps, recovery_step history leases effect_observations now max_attempts run_id = .ok steps := by
  unfold recovery_step
  cases held : leases.lookup run_id with
  | none => split <;> exact ⟨_,rfl⟩
  | some lease =>
    obtain ⟨expires,parsed⟩ := lease_expires (valid lease held)
    obtain ⟨step,stepped⟩ := expired_step_total run_id lease effect_observations max_attempts hashable
    simp only [parsed,ok_bind,stepped]
    split_ifs <;> exact ⟨_,rfl⟩

theorem lookup_mem {α : Type} {table : List (String × α)} {key : String} {value : α}
    (found : table.lookup key = some value) : (key,value) ∈ table := by
  induction table with
  | nil => cases found
  | cons entry rest ih =>
    obtain ⟨k,v⟩ := entry
    rw [List.lookup_cons] at found
    by_cases here : key = k
    · subst here
      simp only [beq_self_eq_true,Option.some.injEq] at found
      simp [found]
    · simp only [beq_eq_false_iff_ne.mpr here] at found
      exact List.mem_cons_of_mem _ (ih found)

section
variable {events leases : List Dict} {effect_observations : Dict} {generated_at max_attempts : Json}

/-- The inputs that the caller of recovery is responsible for. -/
structure Recoverer (leases : List Dict) (generated_at max_attempts : Json) : Prop where
  valid : ∀ lease ∈ leases, validate_lease lease = .ok ()
  distinct : (holders leases).Nodup
  time : ∃ now, parse_time generated_at "generatedAt" = .ok now
  attempts : ∃ n, max_attempts.int? = some n ∧ 1 ≤ n

/-- Recovery over a chain whose run events name their runs plans exactly when no
    run was dispatched twice. -/
theorem plan_recovery_iff (chain : Chain events) (named : Named events)
    (recoverer : Recoverer leases generated_at max_attempts)
    (hashable : ∀ event ∈ events, of_type "run.dispatched" event = true →
      ((payload event).get "effectKey").hashable = true) :
    (∃ plan, plan_recovery events leases effect_observations generated_at max_attempts = .ok plan) ↔
      (dispatched_runs events).Nodup := by
  obtain ⟨now,parsed⟩ := recoverer.time
  obtain ⟨n,count,positive⟩ := recoverer.attempts
  have verified : verify_event_chain events = .ok () := chain
  have enough : reject (n < 1) "max_attempts must be a positive integer" = .ok () := by
    simp [reject,Int.not_lt.mpr positive]
  unfold plan_recovery
  simp only [verified,ok_bind,count,enough,parsed]
  constructor
  · rintro ⟨plan,ran⟩
    obtain ⟨history,noted,_⟩ := bind_ok_iff.mp ran
    exact (note_events_ok.mp noted).2.1
  · intro distinct
    have noted := note_events_ok.mpr ⟨named,distinct,rfl⟩
    simp only [noted,ok_bind,index_leases_total recoverer.valid recoverer.distinct]
    have each : ∀ run_id ∈ sortedStrings ((run_history events).dispatches.map Prod.fst), ∃ steps,
        recovery_step (run_history events) (leases.map (fun lease => (text lease "holderRunId",lease)))
          effect_observations now n run_id = .ok steps ∧ True := by
      intro run_id _
      have valid : ∀ lease, (leases.map (fun lease => (text lease "holderRunId",lease))).lookup run_id = some lease →
          validate_lease lease = .ok () := by
        intro lease found
        obtain ⟨other,member,same⟩ := List.mem_map.mp (lookup_mem found)
        cases same
        exact recoverer.valid _ member
      have plain : ((payload (((run_history events).dispatches.lookup run_id).getD [])).get "effectKey").hashable =
          true := by
        cases found : (run_history events).dispatches.lookup run_id with
        | none => rfl
        | some event =>
          obtain ⟨other,member,same⟩ := List.mem_map.mp (lookup_mem found)
          cases same
          obtain ⟨inside,dispatched⟩ := List.mem_filter.mp member
          exact hashable _ inside dispatched
      obtain ⟨steps,ran⟩ := recovery_step_total effect_observations now n valid plain
      exact ⟨steps,ran,trivial⟩
    obtain ⟨steps,ran,_⟩ := mapM_total each
    exact ⟨_,by rw [ran]; rfl⟩

/-- Nothing is left to recover once every dispatched run completed and no lease
    is held. -/
theorem plan_recovery_idle {plan : RecoveryPlan}
    (done : ∀ run_id ∈ dispatched_runs events, run_id ∈ completed_runs events)
    (planned : plan_recovery events [] effect_observations generated_at max_attempts = .ok plan) : plan.steps = [] := by
  unfold plan_recovery at planned
  cases count : max_attempts.int? with
  | none => simp [count,recovery_error] at planned
  | some n =>
    simp only [count,bind_ok_iff,pure_ok_iff] at planned
    obtain ⟨_,_,_,_,now,_,history,noted,table,indexed,steps,ran,rfl⟩ := planned
    rw [foldlM_nil_ok] at indexed
    obtain ⟨_,_,rfl⟩ := note_events_ok.mp noted
    rw [run_history_runs] at ran
    subst indexed
    have idle : ∀ run_id result, run_id ∈ sortedStrings (dispatched_runs events) →
        recovery_step (run_history events) [] effect_observations now n run_id = .ok result → result = [] := by
      intro run_id result member stepped
      have complete : (run_history events).completed_runs.contains run_id = true := by
        simpa [run_history] using done run_id (mem_sortedBy.mp member)
      unfold recovery_step at stepped
      simp only [complete,↓reduceIte,List.lookup_nil] at stepped
      exact (pure_ok_iff.mp stepped).symm
    show steps.flatten = []
    rw [List.flatten_eq_nil_iff]
    intro result member
    obtain ⟨run_id,inside,stepped⟩ := mapM_result ran member
    exact idle run_id result inside stepped

end

end V3Aidlc.Histories
