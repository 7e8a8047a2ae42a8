import V3Aidlc.RecordedEvents

/-!
Which errors a computation can raise. The contracts of a run, a gate and an
integration raise errors of their own (`Governed`); what writes the history never
does (`record_ungoverned`).
-/
namespace V3Aidlc.Failures
open V3Aidlc.Values V3Aidlc.Loops V3Aidlc.Effects V3Aidlc.Effects.Proc V3Aidlc.Contracts V3Aidlc.Recovery
open V3Aidlc.ReferenceOrchestrator V3Aidlc.RecordedEvents

/-- The classes of the errors that a negative outcome of the work raises. -/
def GOVERNED : List ErrorClass := [.AdapterError,.EvidenceGateError,.SchedulerError]

def Governed (e : PyError) : Prop := ∃ cls ∈ GOVERNED, ∃ message, e = .contract cls message

/-- The computation raises no such error. -/
def Ungoverned {α : Type} (m : Py α) : Prop := ∀ e, m = .error e → ¬ Governed e

section
variable {α β : Type}

theorem ungoverned_ok (a : α) : Ungoverned (.ok a : Py α) := fun _ raised => by cases raised
theorem ungoverned_pure (a : α) : Ungoverned (pure a : Py α) := ungoverned_ok a

theorem ungoverned_error {e : PyError} (other : ¬ Governed e) : Ungoverned (.error e : Py α) := by
  intro raised equal
  cases equal
  exact other

theorem ungoverned_bind {m : Py α} {f : α → Py β} (first : Ungoverned m) (second : ∀ a, Ungoverned (f a)) :
    Ungoverned (m >>= f) := by
  intro e raised
  cases ran : m with
  | error failure =>
    rw [ran] at raised
    cases raised
    exact first e ran
  | ok a =>
    rw [ran] at raised
    exact second a e raised

theorem ungoverned_foldlM {σ : Type} {f : σ → α → Py σ} {items : List α} {start : σ}
    (each : ∀ state item, Ungoverned (f state item)) : Ungoverned (items.foldlM f start) := by
  induction items generalizing start with
  | nil => exact ungoverned_pure start
  | cons item rest ih =>
    rw [List.foldlM_cons]
    exact ungoverned_bind (each start item) (fun _ => ih)

theorem ungoverned_forM {f : α → Py Unit} {items : List α} (each : ∀ item, Ungoverned (f item)) :
    Ungoverned (items.forM f) := by
  induction items with
  | nil => exact ungoverned_pure ()
  | cons item rest ih => exact ungoverned_bind (each item) (fun _ => ih)

theorem language_ungoverned {e : PyError} (language : ∀ cls message, e ≠ .contract cls message) : ¬ Governed e := by
  rintro ⟨cls,_,message,equal⟩
  exact language cls message equal

theorem ungoverned_fail {cls : ErrorClass} {message : String} (other : cls ∉ GOVERNED) :
    Ungoverned (fail cls message : Py α) := by
  refine ungoverned_error ?_
  rintro ⟨governed,member,text,equal⟩
  cases equal
  exact other member

theorem ungoverned_reject {cls : ErrorClass} {condition : Bool} {message : String} (other : cls ∉ GOVERNED) :
    Ungoverned (reject_if cls condition message) := by
  cases condition
  · exact ungoverned_ok ()
  · exact ungoverned_fail other

theorem ungoverned_required_string {cls : ErrorClass} {value : Dict} {key : String} (other : cls ∉ GOVERNED) :
    Ungoverned (Contracts.required_string cls value key) := by
  unfold Contracts.required_string
  split
  · split
    · exact ungoverned_fail other
    · exact ungoverned_ok _
  · exact ungoverned_fail other

theorem ungoverned_required_strings {cls : ErrorClass} {value : Dict} {keys : List String} (other : cls ∉ GOVERNED) :
    Ungoverned (required_strings cls value keys) :=
  ungoverned_forM (fun _ => ungoverned_bind (ungoverned_required_string other) (fun _ => ungoverned_pure ()))

theorem ungoverned_in_set {v : Json} {members : List String} : Ungoverned (in_set v members) := by
  unfold in_set
  split
  · split <;> exact ungoverned_ok _
  · exact ungoverned_error (language_ungoverned (by simp))

theorem ungoverned_parse_time {cls : ErrorClass} {value : Json} {field : String} (other : cls ∉ GOVERNED) :
    Ungoverned (Contracts.parse_time cls value field) := by
  unfold Contracts.parse_time
  split
  · unfold parse_timestamp
    split
    · exact ungoverned_fail other
    · exact ungoverned_fail other
    · split
      · exact ungoverned_ok _
      · exact ungoverned_error (language_ungoverned (by simp))
  · exact ungoverned_error (language_ungoverned (by simp))

end

/-! ### The history -/

theorem recovery_not_governed : ErrorClass.RecoveryError ∉ GOVERNED := by decide
theorem orchestrator_not_governed : ErrorClass.OrchestratorError ∉ GOVERNED := by decide

theorem validate_event_ungoverned (event : Dict) : Ungoverned (validate_event event) := by
  have refused : ∀ {condition : Bool} {message : String}, Ungoverned (Recovery.reject condition message) :=
    ungoverned_reject recovery_not_governed
  have timed : ∀ value field, Ungoverned (Recovery.parse_time value field) :=
    fun _ _ => ungoverned_parse_time recovery_not_governed
  unfold validate_event
  refine ungoverned_bind (ungoverned_required_strings recovery_not_governed) (fun _ => ?_)
  split
  · exact ungoverned_fail recovery_not_governed
  refine ungoverned_bind refused (fun _ => ?_)
  split
  · exact ungoverned_fail recovery_not_governed
  refine ungoverned_bind (ungoverned_required_string recovery_not_governed) (fun _ => ?_)
  refine ungoverned_bind ungoverned_in_set (fun _ => ungoverned_bind refused
    (fun _ => ungoverned_bind refused (fun _ => ?_)))
  refine ungoverned_bind (timed _ _) (fun _ => ungoverned_bind (timed _ _)
    (fun _ => ungoverned_bind refused (fun _ => ?_)))
  exact ungoverned_bind refused (fun _ => refused)

theorem verify_link_ungoverned (state : ChainState) (event : Dict) : Ungoverned (verify_link state event) := by
  have refused : ∀ {condition : Bool} {message : String}, Ungoverned (Recovery.reject condition message) :=
    ungoverned_reject recovery_not_governed
  have caused : Ungoverned (check_causation (event.get "causationId") state.seen_ids) := by
    unfold check_causation
    split
    · exact ungoverned_pure ()
    · exact ungoverned_bind ungoverned_in_set (fun _ => refused)
  unfold verify_link
  refine ungoverned_bind (validate_event_ungoverned event) (fun _ => ?_)
  refine ungoverned_bind refused (fun _ => ungoverned_bind refused (fun _ => ungoverned_bind refused (fun _ => ?_)))
  refine ungoverned_bind refused (fun _ => ungoverned_bind refused (fun _ => ungoverned_bind refused (fun _ => ?_)))
  exact ungoverned_bind caused (fun _ => ungoverned_pure _)

theorem verify_event_chain_ungoverned (events : List Dict) : Ungoverned (verify_event_chain events) :=
  ungoverned_bind (ungoverned_foldlM verify_link_ungoverned) (fun _ => ungoverned_pure ())

theorem append_event_ungoverned (events : List Dict) (draft : Dict) : Ungoverned (append_event events draft) := by
  unfold append_event
  refine ungoverned_bind (verify_event_chain_ungoverned events) (fun _ => ?_)
  split
  · exact ungoverned_bind (ungoverned_reject recovery_not_governed) (fun _ => ungoverned_pure _)
  · refine ungoverned_bind (validate_event_ungoverned _) (fun _ => ?_)
    exact ungoverned_bind (verify_event_chain_ungoverned _) (fun _ => ungoverned_pure _)

/-- Writing an event raises no error of the work. -/
theorem record_ungoverned {σ : Type} {settings : Settings} {event_type aggregate_type : String} {aggregate_id : Json}
    {payload : Dict} {s s' : Locals σ} {e : PyError}
    (ran : record settings event_type aggregate_type aggregate_id payload s = (.error e,s')) : ¬ Governed e := by
  have appended := append_event_ungoverned s.histories
    (event_draft settings s.event_number event_type aggregate_type aggregate_id payload s.last_event_id)
  unfold record at ran
  rw [bind_read] at ran
  cases extended : append_event s.histories
      (event_draft settings s.event_number event_type aggregate_type aggregate_id payload s.last_event_id) with
  | error failed =>
    rw [bind_lift_error extended] at ran
    cases ran
    exact appended _ extended
  | ok result =>
    rw [bind_lift_ok extended] at ran
    cases ran

end V3Aidlc.Failures
