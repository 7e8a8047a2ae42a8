import V3Aidlc.Recovery

/-!
Findings (`recovery.py`). A finding is a document whose fields go with its status, and the statuses go
from one to the next by a table. Along every history of valid documents a finding is open at first
only, ends where it is resolved or superseded, and comes back from a settled status in one way: an
accepted risk that is repaired, in a document that has given up its resolution (`finding_history`).
-/
namespace V3Aidlc.Findings
open V3Aidlc.Values V3Aidlc.Loops V3Aidlc.Contracts V3Aidlc.Timestamps
open V3Aidlc.Recovery (recovery_error reject required_string parse_time)

def FINDING_CATEGORIES : List String :=
  ["defect","risk","evidence_gap","security","compliance","ambiguity","integration","operations"]
def SEVERITIES : List String := ["info","low","medium","high","critical"]
def FINDING_STATUSES : List String := ["open","acknowledged","repairing","resolved","accepted_risk","superseded"]

def FINDING_STRINGS : List String :=
  ["id","projectId","subjectId","subjectRevision","sourceEventId","category","severity","status","summary","details",
    "ownerRole","discoveredAt"]

/-- Statuses with a resolution. -/
def SETTLED : List String := ["resolved","accepted_risk","superseded"]
def RESOLUTION_KEYS : List String := ["resolution","resolutionEventId","resolvedAt"]

def string_array (value : Json) (field : String) (minimum : Nat) : Py (List String) :=
  Contracts.string_array .RecoveryError nonempty value field minimum

def status (finding : Dict) : String := text finding "status"

/-- What a settled finding has to name besides its resolution. -/
def validate_settled (finding : Dict) (status : String) : Py Unit :=
  if status = "resolved" then do
    let _ ← string_array (finding.get "resolutionEvidenceIds") "resolutionEvidenceIds" 1
    return ()
  else if status = "accepted_risk" then required_strings .RecoveryError finding ["decisionId"]
  else required_strings .RecoveryError finding ["supersededByFindingId"]

def validate_resolution (finding : Dict) : Py Unit := do
  required_strings .RecoveryError finding ["resolution","resolutionEventId"]
  let resolvedAt ← required_string finding "resolvedAt"
  let _ ← parse_time (.str resolvedAt) "resolvedAt"
  validate_settled finding (status finding)

def claims_resolution (finding : Dict) : Bool := RESOLUTION_KEYS.any (fun key => (Dict.get? key finding).isSome)

/-- The checks that do not look at a resolution. -/
def validate_fields (finding : Dict) : Py Unit := do
  required_strings .RecoveryError finding FINDING_STRINGS
  reject (!FINDING_CATEGORIES.contains (text finding "category"))
    ("Unknown finding category: " ++ text finding "category")
  reject (!SEVERITIES.contains (text finding "severity")) ("Unknown finding severity: " ++ text finding "severity")
  reject (!FINDING_STATUSES.contains (status finding)) ("Unknown finding status: " ++ status finding)
  let _ ← string_array (finding.getOr "evidenceIds" (.arr [])) "evidenceIds" 0
  let _ ← parse_time (finding.get "discoveredAt") "discoveredAt"
  return ()

def validate_finding (finding : Dict) : Py Unit := do
  validate_fields finding
  if SETTLED.contains (status finding) then validate_resolution finding
  else reject (claims_resolution finding) "Open findings cannot claim a terminal resolution"

def FINDING_TRANSITIONS : List (String × List String) :=
  [("open",["acknowledged","repairing","resolved","accepted_risk","superseded"]),
    ("acknowledged",["repairing","resolved","accepted_risk","superseded"]),
    ("repairing",["acknowledged","resolved","accepted_risk","superseded"]),
    ("resolved",[]),("accepted_risk",["repairing","resolved","superseded"]),("superseded",[])]

def require_finding_transition (current requested : String) : Py Unit :=
  match FINDING_TRANSITIONS.lookup current with
  | none => recovery_error "Unknown finding state"
  | some allowed => do
    reject (!FINDING_STATUSES.contains requested) "Unknown finding state"
    reject (!allowed.contains requested) ("Finding cannot transition from " ++ current ++ " to " ++ requested)

/-! ### Transitions -/

/-- The transition stands in the table. -/
def Allowed (current requested : String) : Prop :=
  ∃ row ∈ FINDING_TRANSITIONS, row.1 = current ∧ requested ∈ row.2

instance (current requested : String) : Decidable (Allowed current requested) :=
  inferInstanceAs (Decidable (∃ row ∈ FINDING_TRANSITIONS, _))

theorem allowed_of {current requested : String} (ran : require_finding_transition current requested = .ok ()) :
    Allowed current requested := by
  unfold require_finding_transition at ran
  cases found : FINDING_TRANSITIONS.lookup current with
  | none => simp [found,recovery_error] at ran
  | some allowed =>
    simp only [found,bind_ok_iff,reject,reject_if_ok,Bool.not_eq_false',List.contains_iff_mem] at ran
    obtain ⟨_,_,member⟩ := ran
    obtain ⟨before,after,same,_⟩ := List.lookup_eq_some_iff.mp found
    exact ⟨(current,allowed),by simp [same],rfl,member⟩

/-- Nothing leads back to the first status, nothing out of the last two, and a settled status comes to an open one
    as a risk that is repaired. -/
theorem allowed_cases {current requested : String} (allowed : Allowed current requested) :
    requested ≠ "open" ∧ current ≠ "resolved" ∧ current ≠ "superseded" ∧
      (current ∈ SETTLED → requested ∉ SETTLED → current = "accepted_risk" ∧ requested = "repairing") := by
  obtain ⟨⟨source,targets⟩,member,rfl,inside⟩ := allowed
  have each : ∀ row ∈ FINDING_TRANSITIONS, ∀ requested ∈ row.2, requested ≠ "open" ∧ row.1 ≠ "resolved" ∧
      row.1 ≠ "superseded" ∧
      (row.1 ∈ SETTLED → requested ∉ SETTLED → row.1 = "accepted_risk" ∧ requested = "repairing") := by
    decide +kernel
  exact each _ member requested inside

/-! ### Documents -/

theorem settled_resolution {finding : Dict} (valid : validate_finding finding = .ok ()) :
    (status finding ∈ SETTLED → ∀ key ∈ RESOLUTION_KEYS, ∃ s, Dict.get? key finding = some (.str s) ∧ blank s = false) ∧
      (status finding ∉ SETTLED → ∀ key ∈ RESOLUTION_KEYS, Dict.get? key finding = none) := by
  obtain ⟨_,_,last⟩ := bind_ok_iff.mp valid
  constructor
  · intro settled
    rw [if_pos (List.contains_iff_mem.mpr settled)] at last
    unfold validate_resolution at last
    simp only [bind_ok_iff,required_strings_ok] at last
    obtain ⟨_,strings,resolvedAt,named,_⟩ := last
    intro key member
    simp only [RESOLUTION_KEYS,List.mem_cons,List.not_mem_nil,or_false] at member
    rcases member with rfl | rfl | rfl
    · exact strings _ (by simp)
    · exact strings _ (by simp)
    · exact ⟨resolvedAt,(required_string_ok .RecoveryError).mp named⟩
  · intro free key member
    rw [if_neg (fun settled => free (List.contains_iff_mem.mp settled))] at last
    have none : claims_resolution finding = false := (reject_if_ok .RecoveryError).mp last
    unfold claims_resolution at none
    simpa using List.any_eq_false.mp none key member

/-- Documents with the same fields but the status and the resolution. -/
structure Edited (finding other : Dict) : Prop where
  same : ∀ key ∈ "evidenceIds" :: FINDING_STRINGS, key ≠ "status" → Dict.get? key other = Dict.get? key finding
  known : ∃ s ∈ FINDING_STATUSES, Dict.get? "status" other = some (.str s) ∧ blank s = false

theorem validate_fields_edited {finding other : Dict} (edited : Edited finding other)
    (valid : validate_fields finding = .ok ()) : validate_fields other = .ok () := by
  obtain ⟨same,s,known,held,filled⟩ := edited
  have texts : ∀ key ∈ FINDING_STRINGS, key ≠ "status" → text other key = text finding key := fun key member differs => by
    unfold text Dict.get
    rw [same key (by simp [member]) differs]
  have gets : finding.getOr "evidenceIds" (.arr []) = other.getOr "evidenceIds" (.arr []) := by
    unfold Dict.getOr
    rw [same "evidenceIds" (by simp) (by decide)]
  have discovered : finding.get "discoveredAt" = other.get "discoveredAt" := by
    unfold Dict.get
    rw [same "discoveredAt" (by simp [FINDING_STRINGS]) (by decide)]
  have named : status other = s := text_of_get? held
  unfold validate_fields at valid ⊢
  simp only [bind_ok_iff,required_strings_ok,reject,reject_if_ok,Bool.not_eq_false',List.contains_iff_mem] at valid ⊢
  obtain ⟨_,strings,_,category,_,severity,_,_,ids,listed,time⟩ := valid
  refine ⟨(),fun key member => ?_,(),?_,(),?_,(),by rwa [named],ids,gets ▸ listed,discovered ▸ time⟩
  · by_cases this : key = "status"
    · rw [this]
      exact ⟨s,held,filled⟩
    · rw [same key (by simp [member]) this]
      exact strings key member
  · rw [texts "category" (by simp [FINDING_STRINGS]) (by decide)]
    exact category
  · rw [texts "severity" (by simp [FINDING_STRINGS]) (by decide)]
    exact severity

/-- A settled finding with an open status is refused for its resolution, and without it accepted. -/
theorem reopened {finding : Dict} (valid : validate_finding finding = .ok ()) (settled : status finding ∈ SETTLED)
    {s : String} (known : s ∈ FINDING_STATUSES) (free : s ∉ SETTLED) :
    validate_finding (finding.set "status" (.str s)) =
      .error (.contract .RecoveryError "Open findings cannot claim a terminal resolution") ∧
    validate_finding ((finding.set "status" (.str s)).without RESOLUTION_KEYS) = .ok () := by
  obtain ⟨_,fields,_⟩ := bind_ok_iff.mp valid
  obtain ⟨_,resolution,_⟩ := (settled_resolution valid).1 settled "resolution" (by simp [RESOLUTION_KEYS])
  have filled : blank s = false := by
    have each : ∀ s ∈ FINDING_STATUSES, blank s = false := by decide +kernel
    exact each s known
  have kept : ∀ key, key ≠ "status" → Dict.get? key (finding.set "status" (.str s)) = Dict.get? key finding :=
    fun key differs => get?_set_ne finding (.str s) (Ne.symm differs)
  have dropped : ∀ key ∈ "evidenceIds" :: FINDING_STRINGS,
      Dict.get? key ((finding.set "status" (.str s)).without RESOLUTION_KEYS) =
        Dict.get? key (finding.set "status" (.str s)) := by
    intro key member
    have apart : ∀ key ∈ "evidenceIds" :: FINDING_STRINGS, key ∉ RESOLUTION_KEYS := by decide +kernel
    rw [get?_without,if_neg (apart key member)]
  have edited : Edited finding (finding.set "status" (.str s)) :=
    ⟨fun key _ differs => kept key differs,s,known,get?_set_self ..,filled⟩
  have stripped : Edited finding ((finding.set "status" (.str s)).without RESOLUTION_KEYS) :=
    ⟨fun key member differs => (dropped key member).trans (kept key differs),s,known,
      (dropped "status" (by simp [FINDING_STRINGS])).trans (get?_set_self ..),filled⟩
  have named : status (finding.set "status" (.str s)) = s := text_of_get? (get?_set_self ..)
  have named' : status ((finding.set "status" (.str s)).without RESOLUTION_KEYS) = s :=
    text_of_get? ((dropped "status" (by simp [FINDING_STRINGS])).trans (get?_set_self ..))
  have outside : ¬ SETTLED.contains s = true := fun inside => free (List.contains_iff_mem.mp inside)
  constructor
  · have claimed : claims_resolution (finding.set "status" (.str s)) = true :=
      List.any_eq_true.mpr ⟨"resolution",by simp [RESOLUTION_KEYS],by rw [kept _ (by decide),resolution]; rfl⟩
    unfold validate_finding
    rw [validate_fields_edited edited fields,ok_bind,named,if_neg outside,claimed]
    rfl
  · have unclaimed : claims_resolution ((finding.set "status" (.str s)).without RESOLUTION_KEYS) = false := by
      refine List.any_eq_false.mpr (fun key member => ?_)
      rw [get?_without,if_pos member]
      simp
    unfold validate_finding
    rw [validate_fields_edited stripped fields,ok_bind,named',if_neg outside,unclaimed]
    rfl

/-! ### Histories -/

/-- Documents of a finding, one after the other. -/
structure History (findings : List Dict) : Prop where
  valid : ∀ finding ∈ findings, validate_finding finding = .ok ()
  steps : List.IsChain (fun before after => require_finding_transition (status before) (status after) = .ok ()) findings

/-- A finding in its history: what may stand before and after it, and how it may come back. -/
theorem finding_history {front back : List Dict} {finding : Dict} (history : History (front ++ finding :: back)) :
    (status finding = "open" → front = []) ∧ (status finding = "resolved" ∨ status finding = "superseded" → back = []) ∧
    (∀ key ∈ RESOLUTION_KEYS, (Dict.get? key finding).isSome ↔ status finding ∈ SETTLED) ∧
    (status finding ∈ SETTLED → ∀ next ∈ back.head?, status next ∉ SETTLED →
      status finding = "accepted_risk" ∧ status next = "repairing") ∧
    (status finding ∈ SETTLED → ∀ s ∈ FINDING_STATUSES, s ∉ SETTLED →
      validate_finding (finding.set "status" (.str s)) =
        .error (.contract .RecoveryError "Open findings cannot claim a terminal resolution") ∧
      validate_finding ((finding.set "status" (.str s)).without RESOLUTION_KEYS) = .ok ()) := by
  have valid := history.valid finding (by simp)
  obtain ⟨claimed,unclaimed⟩ := settled_resolution valid
  obtain ⟨_,after,into⟩ := List.isChain_append.mp history.steps
  refine ⟨fun opens => ?_,fun ends => ?_,fun key member => ?_,fun settled next follows free => ?_,
    fun settled s known free => reopened valid settled known free⟩
  · rcases List.eq_nil_or_concat front with none | ⟨earlier,last,rfl⟩
    · exact none
    · have step := into last (by simp) finding (by simp)
      exact absurd opens (allowed_cases (allowed_of step)).1
  · cases back with
    | nil => rfl
    | cons next rest =>
      obtain ⟨_,resolved,superseded,_⟩ := allowed_cases (allowed_of (List.isChain_cons_cons.mp after).1)
      exact (ends.elim resolved superseded).elim
  · by_cases settled : status finding ∈ SETTLED
    · obtain ⟨s,held,_⟩ := claimed settled key member
      simp [held,settled]
    · simp [unclaimed settled key member,settled]
  · cases back with
    | nil => cases follows
    | cons other rest =>
      obtain rfl : other = next := by simpa using follows
      obtain ⟨_,_,_,back⟩ := allowed_cases (allowed_of (List.isChain_cons_cons.mp after).1)
      exact back settled free

def sample_finding (status : String) (resolution : Dict) : Dict :=
  [("id",.str "F-1"),("projectId",.str "PRJ-1"),("subjectId",.str "WP-1"),("subjectRevision",.str "r1"),
    ("sourceEventId",.str "EV-1"),("category",.str "risk"),("severity",.str "high"),("status",.str status),
    ("summary",.str "Slow"),("details",.str "Too slow"),("ownerRole",.str "lead"),
    ("discoveredAt",.str "2026-09-17T12:00:00Z")] ++ resolution

def accepted_finding : Dict := sample_finding "accepted_risk" [("resolution",.str "Accepted"),
  ("resolutionEventId",.str "EV-2"),("resolvedAt",.str "2026-09-18T12:00:00Z"),("decisionId",.str "D-1")]

/-- A risk that was accepted, and is repaired after all. -/
theorem finding_history_accepted : History [sample_finding "open" [],accepted_finding,sample_finding "repairing" []] ∧
    ∀ key ∈ RESOLUTION_KEYS, (Dict.get? key accepted_finding).isSome ↔ status accepted_finding ∈ SETTLED := by
  have history : History ([sample_finding "open" []] ++ accepted_finding :: [sample_finding "repairing" []]) := by
    refine ⟨?_,?_⟩
    · decide +kernel
    · decide +kernel
  exact ⟨history,(finding_history history).2.2.1⟩

end V3Aidlc.Findings
