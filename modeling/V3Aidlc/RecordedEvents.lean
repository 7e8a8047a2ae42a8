import V3Aidlc.Histories
import V3Aidlc.ReferenceOrchestrator

/-!
The history an execution writes. Every event carries a number of its own in its id
and its key, so each draft is new and `record` only ever extends a chain
(`record_ok`); with a project that has a name and a clock that can be read it never
fails (`record_total`).
-/
namespace V3Aidlc.RecordedEvents
open V3Aidlc.Values V3Aidlc.Loops V3Aidlc.Effects V3Aidlc.Effects.Proc V3Aidlc.Timestamps V3Aidlc.Contracts
open V3Aidlc.Canonical V3Aidlc.Recovery V3Aidlc.Histories V3Aidlc.ReferenceOrchestrator

/-! ### Numbers in ids and keys -/

theorem event_id_injective {n m : Nat} (same : event_id n = event_id m) : n = m := by
  have texts := congrArg String.toList same
  unfold event_id at texts
  simp only [String.toList_append,List.append_cancel_left_eq,String.toList_ofList] at texts
  have digits := congrArg (fun chars => Nat.ofDigitChars 10 chars 0) texts
  simpa [Nat.ofDigitChars_append,Nat.ofDigitChars_replicate_zero,Nat.ofDigitChars_ten_toDigits] using digits

/-- A separator that occurs in neither front part tells the two parts apart. -/
theorem append_separator_inj {α : Type} [DecidableEq α] {separator : α} {xs ys rest others : List α}
    (left : separator ∉ xs) (right : separator ∉ ys) (same : xs ++ separator :: rest = ys ++ separator :: others) :
    xs = ys := by
  have front : ∀ (zs tail : List α), separator ∉ zs → (zs ++ separator :: tail).takeWhile (· ≠ separator) = zs := by
    intro zs tail absent
    rw [List.takeWhile_append_of_pos]
    · simp
    · intro a member
      have other : a ≠ separator := fun here => absent (here ▸ member)
      simpa using other
  rw [← front xs rest left,same,front ys others right]

theorem colon_not_digit (n : Nat) : ':' ∉ Nat.toDigits 10 n := by
  intro member
  have digit := Nat.isDigit_of_mem_toDigits (by decide) (by decide) member
  exact absurd digit (by decide)

theorem idempotency_key_injective {settings : Settings} {n m : Nat} {event_type other_type aggregate other : String}
    (same : idempotency_key settings n event_type aggregate = idempotency_key settings m other_type other) : n = m := by
  have texts := congrArg String.toList same
  unfold idempotency_key at texts
  have colon : ":".toList = [':'] := rfl
  simp only [String.toList_append,colon,List.append_assoc,List.append_cancel_left_eq,List.cons_append,
    List.cons.injEq,true_and] at texts
  have digits : Nat.toDigits 10 n = Nat.toDigits 10 m := by
    have left : (toString n).toList = Nat.toDigits 10 n := Nat.toList_repr
    have right : (toString m).toList = Nat.toDigits 10 m := Nat.toList_repr
    rw [left,right] at texts
    exact append_separator_inj (colon_not_digit n) (colon_not_digit m) texts
  have values := congrArg (fun chars => Nat.ofDigitChars 10 chars 0) digits
  simpa [Nat.ofDigitChars_ten_toDigits] using values

/-! ### The state of the history -/

section
variable {σ : Type} {settings : Settings}

/-- The history is a chain of numbered events of the project, and the last id is
    that of one of them. -/
structure Recorded (settings : Settings) (s : Locals σ) : Prop where
  chain : Chain s.histories
  numbered : ∀ event ∈ s.histories, ∃ number < s.event_number, ∃ event_type aggregate,
    event.get "projectId" = .str settings.project_id ∧ event.get "eventId" = .str (event_id number) ∧
    event.get "idempotencyKey" = .str (idempotency_key settings number event_type aggregate)
  last : ∀ id ∈ s.last_event_id, ∃ event ∈ s.histories, event.get "eventId" = .str id

theorem recorded_start (world : σ) : Recorded settings (start world) :=
  ⟨chain_nil,by simp [start],by simp [start]⟩

/-- The next event of a state. -/
def next_event (settings : Settings) (event_type aggregate_type : String) (aggregate_id : Json) (payload : Dict)
    (s : Locals σ) : Dict :=
  sealed_event s.histories
    (event_draft settings s.event_number event_type aggregate_type aggregate_id payload s.last_event_id)

/-- The state after an event. -/
def noted (settings : Settings) (event_type aggregate_type : String) (aggregate_id : Json) (payload : Dict)
    (s : Locals σ) : Locals σ :=
  { s with histories := s.histories ++ [next_event settings event_type aggregate_type aggregate_id payload s]
           last_event_id := some (event_id s.event_number)
           event_number := s.event_number + 1 }

variable {event_type aggregate_type : String} {aggregate_id : Json} {payload : Dict} {s s' : Locals σ}

/-- The draft holds what it was given; the causation comes last. -/
theorem draft_get? {number : Nat} {causation_id : Option String} {key : String} {v : Json}
    (found : Dict.get? key (event_draft settings number event_type aggregate_type aggregate_id payload none) = some v) :
    Dict.get? key (event_draft settings number event_type aggregate_type aggregate_id payload causation_id) =
      some v := by
  have extended : ∀ (d : Dict) (w : Json), Dict.get? key d = some v →
      Dict.get? key (d ++ [("causationId",w)]) = some v := by
    intro d w here
    induction d with
    | nil => cases here
    | cons kv rest ih =>
      obtain ⟨k,u⟩ := kv
      by_cases same : k = key
      · simpa [Dict.get?,same] using here
      · simp only [Dict.get?,same,↓reduceIte] at here
        simpa [Dict.get?,same] using ih here
  cases causation_id with
  | none => exact found
  | some id =>
    unfold event_draft
    by_cases empty : id = ""
    · simpa [empty,event_draft] using found
    · simp only [empty,↓reduceIte]
      exact extended _ _ found

theorem next_event_get {key : String} {v : Json} (own : key ∉ ["sequence","previousEventHash","eventHash"])
    (found : Dict.get? key (event_draft settings s.event_number event_type aggregate_type aggregate_id payload none) =
      some v) :
    (next_event settings event_type aggregate_type aggregate_id payload s).get key = v := by
  unfold next_event
  rw [sealed_get _ _ own]
  exact get_of_get? (draft_get? found)

theorem next_event_type : (next_event settings event_type aggregate_type aggregate_id payload s).get "eventType" =
    .str event_type :=
  next_event_get (by decide) (by simp [event_draft,Dict.get?])

theorem next_event_payload : (next_event settings event_type aggregate_type aggregate_id payload s).get "payload" =
    .obj payload :=
  next_event_get (by decide) (by simp [event_draft,Dict.get?])

theorem next_event_project : (next_event settings event_type aggregate_type aggregate_id payload s).get "projectId" =
    .str settings.project_id :=
  next_event_get (by decide) (by simp [event_draft,Dict.get?])

theorem next_event_id : (next_event settings event_type aggregate_type aggregate_id payload s).get "eventId" =
    .str (event_id s.event_number) :=
  next_event_get (by decide) (by simp [event_draft,Dict.get?])

theorem next_event_key : (next_event settings event_type aggregate_type aggregate_id payload s).get "idempotencyKey" =
    .str (idempotency_key settings s.event_number event_type (display aggregate_id)) :=
  next_event_get (by decide) (by simp [event_draft,Dict.get?])

theorem next_event_aggregate :
    (next_event settings event_type aggregate_type aggregate_id payload s).get "aggregateId" =
    aggregate_id :=
  next_event_get (by decide) (by simp [event_draft,Dict.get?])

/-- What an event says: its type, what it is about and its payload. -/
structure Note where
  event_type : Json
  aggregate_id : Json
  payload : Json

def said (event : Dict) : Note := ⟨event.get "eventType",event.get "aggregateId",event.get "payload"⟩

def note (event_type : String) (aggregate_id : Json) (payload : Dict) : Note :=
  ⟨.str event_type,aggregate_id,.obj payload⟩

theorem said_noted : (noted settings event_type aggregate_type aggregate_id payload s).histories.map said =
    s.histories.map said ++ [note event_type aggregate_id payload] := by
  unfold noted said note
  rw [List.map_append,List.map_singleton,next_event_type,next_event_aggregate,next_event_payload]

/-- A longer chain is again a history of the execution. -/
theorem recorded_noted (recorded : Recorded settings s)
    (chain : Chain (noted settings event_type aggregate_type aggregate_id payload s).histories) :
    Recorded settings (noted settings event_type aggregate_type aggregate_id payload s) := by
  refine ⟨chain,?_,?_⟩
  · intro event member
    rcases List.mem_append.mp member with before | here
    · obtain ⟨number,earlier,named⟩ := recorded.numbered event before
      exact ⟨number,Nat.lt_succ_of_lt earlier,named⟩
    · rw [List.mem_singleton.mp here]
      exact ⟨s.event_number,Nat.lt_succ_self _,event_type,display aggregate_id,next_event_project,next_event_id,
        next_event_key⟩
  · intro id known
    cases known
    exact ⟨_,List.mem_append_right _ (List.mem_singleton_self _),next_event_id⟩

/-- No earlier event has the number of the next. -/
theorem fresh_key (recorded : Recorded settings s) : ∀ existing ∈ s.histories, existing.get "idempotencyKey" ≠
    .str (idempotency_key settings s.event_number event_type (display aggregate_id)) := by
  intro existing member same
  obtain ⟨number,earlier,_,_,_,_,keyed⟩ := recorded.numbered existing member
  rw [keyed] at same
  have equal := idempotency_key_injective (Json.str.inj same)
  omega

theorem draft_key (s : Locals σ) :
    (event_draft settings s.event_number event_type aggregate_type aggregate_id payload s.last_event_id).get
      "idempotencyKey" = .str (idempotency_key settings s.event_number event_type (display aggregate_id)) :=
  get_of_get? (draft_get? (by simp [event_draft,Dict.get?]))

/-- What `record` did when it returned. -/
theorem record_ok {u : Unit} (recorded : Recorded settings s)
    (ran : record settings event_type aggregate_type aggregate_id payload s = (.ok u,s')) :
    s' = noted settings event_type aggregate_type aggregate_id payload s ∧ Recorded settings s' := by
  unfold record at ran
  obtain ⟨before,middle,here,ran⟩ := bind_returns.mp ran
  obtain ⟨rfl,rfl⟩ := read_returns.mp here
  obtain ⟨⟨later,event,appended⟩,middle,here,ran⟩ := bind_returns.mp ran
  obtain ⟨extended,rfl⟩ := lift_returns.mp here
  have fresh : ∀ existing ∈ s.histories, existing.get "idempotencyKey" ≠
      (event_draft settings s.event_number event_type aggregate_type aggregate_id payload s.last_event_id).get
        "idempotencyKey" := by
    rw [draft_key]
    exact fresh_key recorded
  obtain ⟨laterIs,eventIs,chain⟩ := append_event_ok fresh (draft_key s) extended
  have id : text event "eventId" = event_id s.event_number := by
    have held : event.get "eventId" = .str (event_id s.event_number) := by
      rw [eventIs]
      exact next_event_id
    unfold text
    rw [held]
    rfl
  have state : s' = noted settings event_type aggregate_type aggregate_id payload s := by
    rw [← modify_returns.mp ran]
    simp [noted,next_event,laterIs,eventIs,← id]
  refine ⟨state,?_⟩
  rw [state]
  refine recorded_noted recorded ?_
  have longer : (noted settings event_type aggregate_type aggregate_id payload s).histories = later := by
    rw [laterIs,eventIs]
    rfl
  rw [longer]
  exact chain

/-- A `record` that raises changes nothing. -/
theorem record_raised {e : PyError}
    (ran : record settings event_type aggregate_type aggregate_id payload s = (.error e,s')) : s' = s := by
  cases extended : append_event s.histories
      (event_draft settings s.event_number event_type aggregate_type aggregate_id payload s.last_event_id) with
  | error failed =>
    have run : record settings event_type aggregate_type aggregate_id payload s = (.error failed,s) := by
      unfold record
      simp only [bind,Proc.bind,Effects.Proc.read,Effects.Proc.lift,extended]
    rw [run] at ran
    cases ran
    rfl
  | ok result =>
    obtain ⟨histories,appended,fresh⟩ := result
    have run : (record settings event_type aggregate_type aggregate_id payload s).1 = .ok () := by
      unfold record
      simp only [bind,Proc.bind,Effects.Proc.read,Effects.Proc.lift,Effects.Proc.modify,extended]
    rw [ran] at run
    cases run

/-- What does not depend on the history, `record` keeps. -/
theorem keeps_record {invariant : Locals σ → Prop}
    (frame : ∀ s histories id number, invariant s →
      invariant { s with histories := histories, last_event_id := id, event_number := number }) :
    Keeps invariant (record settings event_type aggregate_type aggregate_id payload : Execution σ Unit) := by
  unfold record
  refine keeps_seq (keeps_read _) (fun s => keeps_seq (keeps_lift _ _) (fun result => keeps_modify ?_))
  intro s holds
  exact frame s _ _ _ holds

/-! ### Writing without failing -/

/-- The settings let every event be written. -/
structure Grounded (settings : Settings) : Prop where
  project : blank settings.project_id = false
  time : blank settings.now = false
  clock : ∃ now, instant? settings.now = some now

theorem blank_append {left right : String} : blank (left ++ right) = (blank left && blank right) := by
  simp [blank,String.toList_append]

theorem id_filled (number : Nat) : blank (event_id number) = false := by
  unfold event_id
  rw [blank_append]
  have front : blank "TRACE-EVT-" = false := by decide
  simp [front]

theorem key_filled (number : Nat) (event_type aggregate : String) :
    blank (idempotency_key settings number event_type aggregate) = false := by
  unfold idempotency_key
  have colon : blank ":" = false := by decide
  simp [blank_append,colon]

/-- The next draft can always be appended, whatever it is about. -/
theorem draft_appendable (grounded : Grounded settings) (recorded : Recorded settings s) {id : String}
    (typed : blank event_type = false) (aggregated : blank aggregate_type = false) (named : blank id = false) :
    Appendable s.histories
      (event_draft settings s.event_number event_type aggregate_type (.str id) payload s.last_event_id) := by
  have held : ∀ {key : String} {v : Json},
      Dict.get? key (event_draft settings s.event_number event_type aggregate_type (.str id) payload none) = some v →
      Dict.get? key (event_draft settings s.event_number event_type aggregate_type (.str id) payload s.last_event_id) =
        some v := fun found => draft_get? found
  have project : text (event_draft settings s.event_number event_type aggregate_type (.str id) payload s.last_event_id)
      "projectId" = settings.project_id := text_of_get? (held (by simp [event_draft,Dict.get?]))
  have own_id : text (event_draft settings s.event_number event_type aggregate_type (.str id) payload s.last_event_id)
      "eventId" = event_id s.event_number := text_of_get? (held (by simp [event_draft,Dict.get?]))
  have own_key : text (event_draft settings s.event_number event_type aggregate_type (.str id) payload s.last_event_id)
      "idempotencyKey" = idempotency_key settings s.event_number event_type (display (.str id)) :=
    text_of_get? (held (by simp [event_draft,Dict.get?]))
  have textual : ∀ {event : Dict} {key v : String}, event.get key = .str v → text event key = v := by
    intro event key v got
    unfold text
    rw [got]
    rfl
  obtain ⟨now,clock⟩ := grounded.clock
  refine ⟨?_,?_,?_,?_,?_,?_,?_,?_⟩
  · intro key member other
    simp only [EVENT_STRINGS,List.mem_cons,List.not_mem_nil,or_false] at member
    have stream : blank ("project:" ++ settings.project_id) = false := by
      rw [blank_append]
      have front : blank "project:" = false := by decide
      simp [front]
    rcases member with rfl | rfl | rfl | rfl | rfl | rfl | rfl | rfl | rfl | rfl | rfl
    · exact ⟨_,held (by simp [event_draft,Dict.get?]; rfl),id_filled _⟩
    · exact ⟨_,held (by simp [event_draft,Dict.get?]),grounded.project⟩
    · exact ⟨_,held (by simp [event_draft,Dict.get?]),stream⟩
    · exact ⟨_,held (by simp [event_draft,Dict.get?]),typed⟩
    · exact ⟨_,held (by simp [event_draft,Dict.get?]),aggregated⟩
    · exact ⟨_,held (by simp [event_draft,Dict.get?]),named⟩
    · exact ⟨_,held (by simp [event_draft,Dict.get?]),grounded.time⟩
    · exact ⟨_,held (by simp [event_draft,Dict.get?]),grounded.time⟩
    · exact ⟨_,held (by simp [event_draft,Dict.get?]; rfl),key_filled _ _ _⟩
    · exact absurd (by simp) other
    · exact absurd (by simp) other
  · exact ⟨_,"reference-project-lead",get_of_get? (held (by simp [event_draft,Dict.get?]; rfl)),by decide,by decide⟩
  · rw [get_of_get? (held (by simp [event_draft,Dict.get?]; rfl))]
    rfl
  · have occurred : (event_draft settings s.event_number event_type aggregate_type
      (.str id) payload s.last_event_id).get
        "occurredAt" = .str settings.now := get_of_get? (held (by simp [event_draft,Dict.get?]))
    have stamped : (event_draft settings s.event_number event_type aggregate_type (.str id) payload s.last_event_id).get
        "recordedAt" = .str settings.now := get_of_get? (held (by simp [event_draft,Dict.get?]))
    have read : ∀ field, Recovery.parse_time (.str settings.now) field = .ok now :=
      fun field => (parse_time_ok _).mpr ⟨_,rfl,clock⟩
    exact ⟨now,now,by rw [occurred]; exact read _,by rw [stamped]; exact read _,le_refl _⟩
  · intro event first
    obtain ⟨_,_,_,_,of_project,_,_⟩ := recorded.numbered event (List.mem_of_mem_head? first)
    rw [project,textual of_project]
  · intro event member same
    obtain ⟨number,earlier,_,_,_,numbered,_⟩ := recorded.numbered event member
    rw [own_id,textual numbered] at same
    have equal := event_id_injective same
    omega
  · intro event member same
    obtain ⟨number,earlier,_,_,_,_,keyed⟩ := recorded.numbered event member
    rw [own_key,textual keyed] at same
    have equal := idempotency_key_injective same
    omega
  · cases last : s.last_event_id with
    | none => exact .inl (by simp [event_draft,Dict.get,Dict.get?])
    | some previous =>
      obtain ⟨event,member,known⟩ := recorded.last previous last
      refine .inr ⟨event,member,?_⟩
      rw [textual known]
      have filled : previous ≠ "" := by
        rintro rfl
        obtain ⟨number,_,_,_,_,numbered,_⟩ := recorded.numbered event member
        rw [known] at numbered
        have blank_id := id_filled number
        rw [← Json.str.inj numbered] at blank_id
        cases blank_id
      simp [event_draft,filled,Dict.get,Dict.get?]

/-- In a grounded execution every event about something with a name is written. -/
theorem record_total (grounded : Grounded settings) (recorded : Recorded settings s) {id : String}
    (typed : blank event_type = false) (aggregated : blank aggregate_type = false) (named : blank id = false) :
    record settings event_type aggregate_type (.str id) payload s =
      (.ok (),noted settings event_type aggregate_type (.str id) payload s) := by
  have appendable : Appendable s.histories
      (event_draft settings s.event_number event_type aggregate_type (.str id) payload s.last_event_id) :=
    draft_appendable grounded recorded typed aggregated named
  have appended := append_event_total recorded.chain appendable
  have id_text : text (next_event settings event_type aggregate_type (.str id) payload s) "eventId" =
      event_id s.event_number := by
    unfold text
    rw [next_event_id]
    rfl
  unfold record
  simp only [bind,Proc.bind,Effects.Proc.read,Effects.Proc.lift,Effects.Proc.modify,appended]
  unfold noted
  rw [← id_text]
  rfl

/-- An execution that wrote an event can write more. -/
theorem grounded_of_record {u : Unit} (recorded : Recorded settings s)
    (ran : record settings event_type aggregate_type aggregate_id payload s = (.ok u,s')) : Grounded settings := by
  obtain ⟨rfl,later⟩ := record_ok recorded ran
  have valid := chain_valid later.chain (List.mem_append_right _ (List.mem_singleton_self
    (next_event settings event_type aggregate_type aggregate_id payload s)))
  obtain ⟨texts,_,_,_,⟨occurred,_,read,_,_⟩,_,_⟩ := validate_event_ok.mp valid
  have timed : (next_event settings event_type aggregate_type aggregate_id payload s).get "occurredAt" =
      .str settings.now :=
    next_event_get (by decide) (by simp [event_draft,Dict.get?])
  obtain ⟨project,projectIs,project_filled⟩ := texts "projectId" (by decide)
  obtain ⟨time,timeIs,time_filled⟩ := texts "occurredAt" (by decide)
  have project_same : project = settings.project_id :=
    Json.str.inj ((get_of_get? projectIs).symm.trans next_event_project)
  have time_same : time = settings.now := Json.str.inj ((get_of_get? timeIs).symm.trans timed)
  rw [timed] at read
  obtain ⟨now,nowIs,clock⟩ := (parse_time_ok _).mp read
  cases nowIs
  exact ⟨project_same ▸ project_filled,time_same ▸ time_filled,⟨_,clock⟩⟩

end

end V3Aidlc.RecordedEvents
