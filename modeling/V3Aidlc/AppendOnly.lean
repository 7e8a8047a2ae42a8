import V3Aidlc.Histories

/-!
Runs of `append_event`. A caller keeps the history it had when a call raises, so
every history it reaches is a verified chain and only ever grows (`append_run`).
Retrying a draft finds the event it became, unless the draft holds a key that the
append assigns itself (`retry_iff`).
-/
namespace V3Aidlc.AppendOnly
open V3Aidlc.Values V3Aidlc.Loops V3Aidlc.Timestamps V3Aidlc.Contracts V3Aidlc.Recovery V3Aidlc.Histories

/-! ### What a verified chain says -/

/-- The reading of `verify_event_chain`: each event is valid and continues the
    events before it. -/
structure Verified (events : List Dict) : Prop where
  valid : ∀ event ∈ events, validate_event event = .ok ()
  sequence : ∀ earlier event later, events = earlier ++ event :: later →
    (event.get "sequence").eq (.int (earlier.length + 1)) = true
  project : ∀ event ∈ events, ∀ other ∈ events, text event "projectId" = text other "projectId"
  ids : (events.map (fun event => text event "eventId")).Nodup
  keys : (events.map (fun event => text event "idempotencyKey")).Nodup
  linked : ∀ earlier event later, events = earlier ++ event :: later →
    text event "previousEventHash" = (earlier.getLast?.map (fun last => text last "eventHash")).getD ZERO_HASH
  content : ∀ event ∈ events, text event "eventHash" = event_hash event
  causation : ∀ earlier event later, events = earlier ++ event :: later →
    event.get "causationId" = .null ∨ ∃ cause ∈ earlier, event.get "causationId" = .str (text cause "eventId")

/-- Each event of a chain continues the events before it. -/
theorem chain_linked {events earlier later : List Dict} {event : Dict} (chain : Chain events)
    (split : events = earlier ++ event :: later) : Linked (chain_state earlier) event := by
  have front : Chain (earlier ++ [event]) :=
    chain_prefix chain ⟨later,by rw [split,List.append_assoc,List.singleton_append]⟩
  exact (chain_snoc.mp front).2

theorem chain_projects {events : List Dict} (chain : Chain events) :
    ∀ event ∈ events, ∀ first ∈ events.head?, text event "projectId" = text first "projectId" := by
  intro event member first known
  obtain ⟨earlier,later,split⟩ := List.append_of_mem member
  have linked := chain_linked chain split
  cases earlier with
  | nil =>
    rw [split] at known
    cases known
    rfl
  | cons head rest =>
    rw [split] at known
    cases known
    exact (linked.project _ rfl).symm

theorem chain_distinct {events : List Dict} (chain : Chain events) :
    (events.map (fun event => text event "eventId")).Nodup ∧
      (events.map (fun event => text event "idempotencyKey")).Nodup := by
  induction events using List.reverseRecOn with
  | nil => simp
  | append_singleton events event ih =>
    obtain ⟨before,linked⟩ := chain_snoc.mp chain
    obtain ⟨ids,keys⟩ := ih before
    simp only [List.map_append,List.map_cons,List.map_nil,nodup_snoc]
    exact ⟨⟨ids,linked.fresh_id⟩,keys,linked.fresh_key⟩

theorem chain_verified {events : List Dict} (chain : Chain events) : Verified events := by
  refine ⟨fun event member => chain_valid chain member,?_,?_,(chain_distinct chain).1,(chain_distinct chain).2,?_,?_,?_⟩
  · intro earlier event later split
    exact (chain_linked chain split).sequence
  · intro event member other otherMember
    cases events with
    | nil => cases member
    | cons first rest =>
      rw [chain_projects chain event member first rfl,chain_projects chain other otherMember first rfl]
  · intro earlier event later split
    exact (chain_linked chain split).previous
  · intro event member
    obtain ⟨earlier,later,split⟩ := List.append_of_mem member
    exact (chain_linked chain split).content
  · intro earlier event later split
    rcases (chain_linked chain split).causation with none | ⟨id,seen,named⟩
    · exact .inl none
    · obtain ⟨cause,member,rfl⟩ := List.mem_map.mp seen
      exact .inr ⟨cause,member,named⟩

/-! ### One call -/

/-- The keys that an append sets in the event. -/
def ASSIGNED : List String := ["sequence","previousEventHash","eventHash"]

/-- The recorded event with the draft's idempotency key. -/
def recorded_for (draft : Dict) (events : List Dict) : Option Dict :=
  events.find? (fun existing => (existing.get "idempotencyKey").eq (draft.get "idempotencyKey"))

/-- What a call did that returned: it replayed a recorded event, or it appended
    the draft as the last event. -/
inductive Accepted (events : List Dict) (draft : Dict) : List Dict → Dict → Bool → Prop where
  | replayed {existing : Dict} (found : recorded_for draft events = some existing)
      (same : (Json.obj (existing.without ASSIGNED)).eq (.obj draft) = true) :
      Accepted events draft events existing false
  | appended (fresh : recorded_for draft events = none) (chain : Chain (events ++ [sealed_event events draft])) :
      Accepted events draft (events ++ [sealed_event events draft]) (sealed_event events draft) true

section
variable {events later : List Dict} {draft event : Dict} {appended : Bool}

theorem append_event_iff : append_event events draft = .ok (later,event,appended) ↔
    Chain events ∧ Accepted events draft later event appended := by
  unfold append_event
  rw [bind_ok_iff]
  cases found : recorded_for draft events with
  | some existing =>
    have known : events.find? (fun existing => (existing.get "idempotencyKey").eq (draft.get "idempotencyKey")) =
        some existing := found
    simp only [known,bind_ok_iff,reject,reject_if_ok,Bool.not_eq_false',pure_ok_iff,Prod.mk.injEq]
    constructor
    · rintro ⟨_,chain,_,same,rfl,rfl,rfl⟩
      exact ⟨chain,.replayed found same⟩
    · rintro ⟨chain,accepted⟩
      cases accepted with
      | replayed here same =>
        rw [found] at here
        cases here
        exact ⟨(),chain,(),same,rfl,rfl,rfl⟩
      | appended fresh _ =>
        rw [found] at fresh
        cases fresh
  | none =>
    have unknown : events.find? (fun existing => (existing.get "idempotencyKey").eq (draft.get "idempotencyKey")) =
        none := found
    simp only [unknown,bind_ok_iff,pure_ok_iff,Prod.mk.injEq]
    constructor
    · rintro ⟨_,chain,_,_,_,longer,rfl,rfl,rfl⟩
      exact ⟨chain,.appended found longer⟩
    · rintro ⟨chain,accepted⟩
      cases accepted with
      | replayed here _ =>
        rw [found] at here
        cases here
      | appended _ longer =>
        exact ⟨(),chain,(),chain_valid longer (by simp),(),longer,rfl,rfl,rfl⟩

theorem accepted_chain (chain : Chain events) (accepted : Accepted events draft later event appended) :
    Chain later := by
  cases accepted with
  | replayed => exact chain
  | appended _ longer => exact longer

theorem accepted_grows (accepted : Accepted events draft later event appended) :
    events <+: later ∧ later.length ≤ events.length + 1 := by
  cases accepted with
  | replayed => exact ⟨List.prefix_refl events,Nat.le_succ _⟩
  | appended => exact ⟨List.prefix_append _ _,by simp⟩

end

/-! ### Runs of calls -/

/-- `append_event(events, draft)` on any JSON value. Only an empty history lets a
    draft that is no object get as far as `dict(draft)`. -/
def append_json (events : List Dict) (draft : Json) : Py (List Dict × Dict × Bool) :=
  match draft,events with
  | .obj draft,_ => append_event events draft
  | other,[] => do
    let draft ← new_dict other
    append_event [] draft
  | _,_ => do
    verify_event_chain events
    .error .AttributeError

/-- The history a caller holds after a call: the old one when the call raised. -/
def held (events : List Dict) (result : Py (List Dict × Dict × Bool)) : List Dict :=
  match result with
  | .ok (later,_,_) => later
  | .error _ => events

/-- The history after a sequence of calls. -/
def append_all (events : List Dict) (drafts : List Json) : List Dict :=
  drafts.foldl (fun history draft => held history (append_json history draft)) events

theorem append_json_ok {events later : List Dict} {draft : Json} {event : Dict} {appended : Bool}
    (ran : append_json events draft = .ok (later,event,appended)) :
    ∃ fields, append_event events fields = .ok (later,event,appended) := by
  unfold append_json at ran
  split at ran
  · exact ⟨_,ran⟩
  · obtain ⟨fields,_,called⟩ := bind_ok_iff.mp ran
    exact ⟨fields,called⟩
  · obtain ⟨_,_,impossible⟩ := bind_ok_iff.mp ran
    cases impossible

theorem append_all_snoc (events : List Dict) (drafts : List Json) (draft : Json) :
    append_all events (drafts ++ [draft]) =
      held (append_all events drafts) (append_json (append_all events drafts) draft) := by
  simp [append_all]

/-- One call keeps the chain and at most appends an event. -/
theorem held_step {events : List Dict} (chain : Chain events) (draft : Json) :
    Chain (held events (append_json events draft)) ∧ events <+: held events (append_json events draft) ∧
      (held events (append_json events draft)).length ≤ events.length + 1 := by
  cases ran : append_json events draft with
  | error e => exact ⟨chain,List.prefix_refl events,Nat.le_succ _⟩
  | ok result =>
    obtain ⟨later,event,appended⟩ := result
    obtain ⟨fields,called⟩ := append_json_ok ran
    obtain ⟨_,accepted⟩ := append_event_iff.mp called
    exact ⟨accepted_chain chain accepted,accepted_grows accepted⟩

theorem append_all_chain {events : List Dict} (chain : Chain events) (drafts : List Json) :
    Chain (append_all events drafts) := by
  induction drafts using List.reverseRecOn with
  | nil => exact chain
  | append_singleton drafts draft ih =>
    rw [append_all_snoc]
    exact (held_step ih draft).1

theorem append_all_extends {events : List Dict} (chain : Chain events) (drafts : List Json) :
    events <+: append_all events drafts := by
  induction drafts using List.reverseRecOn with
  | nil => exact List.prefix_refl events
  | append_singleton drafts draft ih =>
    rw [append_all_snoc]
    exact ih.trans (held_step (append_all_chain chain drafts) draft).2.1

/-- Whatever drafts a caller tries, from the empty history on, its history is a
    verified chain that each call extends by at most one event, and a call that
    raises leaves it as it was. -/
theorem append_run (drafts : List Json) :
    Chain (append_all [] drafts) ∧ Verified (append_all [] drafts) ∧
    ∀ draft, append_all [] drafts <+: append_all [] (drafts ++ [draft]) ∧
      (append_all [] (drafts ++ [draft])).length ≤ (append_all [] drafts).length + 1 ∧
      (∀ e, append_json (append_all [] drafts) draft = .error e →
        append_all [] (drafts ++ [draft]) = append_all [] drafts) ∧
      ∀ later event appended, append_json (append_all [] drafts) draft = .ok (later,event,appended) →
        append_all [] (drafts ++ [draft]) = later ∧ event ∈ later ∧
          (appended = true ↔ later = append_all [] drafts ++ [event]) := by
  have chain := append_all_chain chain_nil drafts
  refine ⟨chain,chain_verified chain,?_⟩
  intro draft
  rw [append_all_snoc]
  refine ⟨(held_step chain draft).2.1,(held_step chain draft).2.2,?_,?_⟩
  · intro e raised
    rw [raised]
    rfl
  · intro later event appended ran
    obtain ⟨fields,called⟩ := append_json_ok ran
    obtain ⟨_,accepted⟩ := append_event_iff.mp called
    refine ⟨by rw [ran]; rfl,?_⟩
    cases accepted with
    | replayed found _ => exact ⟨List.mem_of_find?_eq_some found,by simp⟩
    | appended => exact ⟨by simp,by simp⟩

/-! ### Retries -/

theorem recorded_for_grows {draft event : Dict} {events later : List Dict} (longer : events <+: later)
    (found : recorded_for draft events = some event) : recorded_for draft later = some event := by
  obtain ⟨more,rfl⟩ := longer
  unfold recorded_for at found ⊢
  rw [List.find?_append,found]
  rfl

section
variable {events later : List Dict} {draft event : Dict} {appended : Bool}

theorem sealed_without (events : List Dict) (draft : Dict) :
    (sealed_event events draft).without ASSIGNED = draft.without ASSIGNED := by
  unfold sealed_event
  rw [without_set _ _ (by simp [ASSIGNED]),without_set _ _ (by simp [ASSIGNED]),without_set _ _ (by simp [ASSIGNED])]

/-- A draft whose append was accepted is recorded under its key. -/
theorem accepted_recorded (accepted : Accepted events draft later event appended) :
    recorded_for draft later = some event := by
  cases accepted with
  | replayed found _ => exact found
  | appended fresh longer =>
    have valid := chain_valid longer (by simp : sealed_event events draft ∈ events ++ [sealed_event events draft])
    have keyed := event_text valid (by decide : "idempotencyKey" ∈ EVENT_STRINGS)
    have same : (sealed_event events draft).get "idempotencyKey" = draft.get "idempotencyKey" :=
      sealed_get events draft (by decide)
    unfold recorded_for at fresh ⊢
    rw [List.find?_append,fresh]
    simp only [Option.none_or,List.find?_cons,← same]
    have itself : ((sealed_event events draft).get "idempotencyKey").eq
        ((sealed_event events draft).get "idempotencyKey") =
        true := by
      rw [keyed]
      simp
    rw [itself]

/-- Calling again with a draft that is recorded. -/
theorem retry_run {final : List Dict} (chain : Chain final) (found : recorded_for draft final = some event)
    {outcome : List Dict × Dict × Bool} : append_event final draft = .ok outcome ↔
      (Json.obj (event.without ASSIGNED)).eq (.obj draft) = true ∧ outcome = (final,event,false) := by
  obtain ⟨history,other,fresh⟩ := outcome
  rw [append_event_iff]
  constructor
  · rintro ⟨_,accepted⟩
    cases accepted with
    | replayed here same =>
      rw [found] at here
      cases here
      exact ⟨same,rfl⟩
    | appended none _ =>
      rw [found] at none
      cases none
  · rintro ⟨same,equal⟩
    cases equal
    exact ⟨chain,.replayed found same⟩

theorem without_eq_of_length {keys : List String} (whole : (draft.without keys).length = draft.length) :
    ∀ key ∈ keys, draft.has key = false := by
  intro key member
  have kept : draft.without keys = draft := List.filter_sublist.eq_of_length whole
  unfold Dict.has
  rw [← kept,get?_without,if_pos member]
  rfl

/-- The event that a draft became says the same as the draft exactly when the
    draft holds no assigned key. -/
theorem sealed_same (document : (Json.obj draft).proper = true) :
    (Json.obj ((sealed_event events draft).without ASSIGNED)).eq (.obj draft) = true ↔
      ∀ key ∈ ASSIGNED, draft.has key = false := by
  rw [sealed_without]
  constructor
  · intro same
    unfold Json.eq at same
    simp only [Bool.and_eq_true,decide_eq_true_eq] at same
    exact without_eq_of_length same.1
  · intro free
    have kept : draft.without ASSIGNED = draft := by
      unfold Dict.without
      rw [List.filter_eq_self]
      intro kv member
      have absent : kv.1 ∉ ASSIGNED := by
        intro listed
        have held : draft.has kv.1 = true := by
          unfold Dict.has
          rw [get?_of_mem (proper_obj document).1 member]
          rfl
        rw [free kv.1 listed] at held
        cases held
      simpa using absent
    rw [kept]
    exact eq_self _ document

/-- A draft that equals a recorded event without its assigned keys holds none of
    them: two dicts of one size with distinct keys have the same keys. -/
theorem replayed_free (distinct : event.keys.Nodup)
    (same : (Json.obj (event.without ASSIGNED)).eq (.obj draft) = true) : ∀ key ∈ ASSIGNED, draft.has key = false := by
  unfold Json.eq at same
  simp only [Bool.and_eq_true,decide_eq_true_eq] at same
  obtain ⟨size,fields⟩ := same
  have inside : Dict.keys (event.without ASSIGNED) ⊆ draft.keys := fun key member => eqFields_keys fields key member
  have apart : (Dict.keys (event.without ASSIGNED)).Nodup := (List.filter_sublist.map Prod.fst).nodup distinct
  have all : (Dict.keys (event.without ASSIGNED)).Perm draft.keys := by
    refine (List.subperm_of_subset apart inside).perm_of_length_le ?_
    simp only [Dict.keys,List.length_map]
    exact size.ge
  intro key member
  by_contra held
  have present : ∃ v, Dict.get? key draft = some v := by
    rw [Bool.not_eq_false] at held
    exact Option.isSome_iff_exists.mp held
  obtain ⟨v,found⟩ := present
  have listed : key ∈ Dict.keys (event.without ASSIGNED) := all.mem_iff.mpr (List.mem_map.mpr ⟨_,get?_mem found,rfl⟩)
  obtain ⟨kv,kept,rfl⟩ := List.mem_map.mp listed
  have outside := (List.mem_filter.mp kept).2
  simp [member] at outside

/-- Retrying a draft finds its event. -/
def Retried (draft event : Dict) (history : List Dict) : Prop :=
  append_event history draft = .ok (history,event,false)

/-- The draft can be retried after any drafts with other keys exactly when it
    holds none of the keys that an append assigns. -/
theorem retry_iff (documents : ∀ existing ∈ events, (Json.obj existing).proper = true)
    (document : (Json.obj draft).proper = true) (accepted : append_event events draft = .ok (later,event,appended)) :
    (∀ drafts : List Json, (∀ other : Dict, .obj other ∈ drafts →
        (other.get "idempotencyKey").eq (draft.get "idempotencyKey") = false) →
      Retried draft event (append_all later drafts)) ↔ ∀ key ∈ ASSIGNED, draft.has key = false := by
  obtain ⟨chain,step⟩ := append_event_iff.mp accepted
  have longer := accepted_chain chain step
  have recorded := accepted_recorded step
  have same : (Json.obj (event.without ASSIGNED)).eq (.obj draft) = true ↔ ∀ key ∈ ASSIGNED, draft.has key = false := by
    cases step with
    | replayed found same =>
      have known := documents event (List.mem_of_find?_eq_some found)
      exact ⟨fun _ => replayed_free (proper_obj known).1 same,fun _ => same⟩
    | appended => exact sealed_same document
  rw [← same]
  constructor
  · intro retried
    exact ((retry_run longer recorded).mp (retried [] (by simp))).1
  · intro equal drafts _
    have final := append_all_chain longer drafts
    exact (retry_run final (recorded_for_grows (append_all_extends longer drafts) recorded)).mpr ⟨equal,rfl⟩

end

/-! ### A draft with a sequence -/

def plain_draft : Dict :=
  [("eventId",.str "E"),("projectId",.str "P"),("streamId",.str "S"),("eventType",.str "t"),("aggregateType",.str "a"),
    ("aggregateId",.str "A"),("occurredAt",.str "2026-01-01T00:00:00Z"),("recordedAt",.str "2026-01-01T00:00:00Z"),
    ("actor",.obj [("type",.str "system"),("id",.str "I")]),("idempotencyKey",.str "K"),("payload",.obj [])]

/-- The plain draft, numbered by its sender. -/
def numbered_draft : Dict := plain_draft ++ [("sequence",.int 1)]

/-- A draft continues a history when its texts are there, it has the actor and the times of the
    plain one and it fits what is recorded. -/
theorem plain_appendable {events : List Dict} {draft : Dict} (texts : EVENT_STRINGS.all (fun key =>
      ["previousEventHash","eventHash"].contains key ||
        ((Dict.get? key draft).bind Json.str?).any (fun s => !blank s)) = true)
    (actor : draft.get "actor" = plain_draft.get "actor")
      (occurred : draft.get "occurredAt" = plain_draft.get "occurredAt")
    (recorded : draft.get "recordedAt" = plain_draft.get "recordedAt") (payload : (draft.get "payload").isDict = true)
    (project : ∀ event ∈ events.head?, text event "projectId" = text draft "projectId")
      (fresh : ∀ key ∈ ["eventId","idempotencyKey"], ∀ event ∈ events, text event key ≠ text draft key)
    (causation : draft.get "causationId" = .null ∨
      ∃ event ∈ events, draft.get "causationId" = .str (text event "eventId")) : Appendable events draft := by
  refine ⟨?_,⟨[("type",.str "system"),("id",.str "I")],"I",actor,by decide,by decide⟩,payload,?_,project,
    fresh "eventId" (by simp),fresh "idempotencyKey" (by simp),causation⟩
  · intro key member other
    have present := List.all_eq_true.mp texts key member
    rw [Bool.or_eq_true,List.contains_iff_mem] at present
    obtain ⟨s,textual,seen⟩ := (Option.any_eq_true _ _).mp (present.resolve_left other)
    obtain ⟨value,found,same⟩ := Option.bind_eq_some_iff.mp textual
    rw [str?_eq_some.mp same] at found
    exact ⟨s,found,by simpa using seen⟩
  · rw [occurred,recorded]
    exact ⟨63902822400000000,63902822400000000,by decide +kernel,by decide +kernel,le_refl _⟩

theorem opening_appendable {draft : Dict} (texts : EVENT_STRINGS.all (fun key =>
      ["previousEventHash","eventHash"].contains key ||
        ((Dict.get? key draft).bind Json.str?).any (fun s => !blank s)) = true)
    (actor : draft.get "actor" = plain_draft.get "actor")
      (occurred : draft.get "occurredAt" = plain_draft.get "occurredAt")
    (recorded : draft.get "recordedAt" = plain_draft.get "recordedAt") (payload : (draft.get "payload").isDict = true)
    (uncaused : draft.get "causationId" = .null) : Appendable [] draft :=
  plain_appendable texts actor occurred recorded payload (by simp) (by simp) (.inl uncaused)

theorem numbered_appendable : Appendable [] numbered_draft :=
  opening_appendable rfl rfl rfl rfl rfl rfl

theorem retry_numbered :
    ((∀ drafts : List Json, (∀ other : Dict, .obj other ∈ drafts →
        (other.get "idempotencyKey").eq (numbered_draft.get "idempotencyKey") = false) →
      Retried numbered_draft (sealed_event [] numbered_draft)
        (append_all ([] ++ [sealed_event [] numbered_draft]) drafts)) ↔
      ∀ key ∈ ASSIGNED, numbered_draft.has key = false) :=
  retry_iff (by simp) (by decide +kernel) (append_event_total chain_nil numbered_appendable)

/-- A numbered draft is recorded, and its retry is taken for another event. -/
theorem numbered_retry_raises :
    append_event [] numbered_draft = .ok ([sealed_event [] numbered_draft],sealed_event [] numbered_draft,true) ∧
    ¬ ∃ outcome, append_event [sealed_event [] numbered_draft] numbered_draft = .ok outcome := by
  have appended := append_event_total chain_nil numbered_appendable
  refine ⟨appended,?_⟩
  rintro ⟨outcome,ran⟩
  obtain ⟨chain,step⟩ := append_event_iff.mp appended
  have same := ((retry_run (accepted_chain chain step) (accepted_recorded step)).mp ran).1
  have free := (sealed_same (by decide +kernel)).mp same "sequence" (by decide)
  exact absurd free (by decide)

end V3Aidlc.AppendOnly
