import V3Aidlc.TamperEvidence

/-!
What a replay repeats. A call that finds the key of its draft compares the draft with the
recorded event by Python's equality, which takes a boolean, an integer and a float of one value
for equal; digests are computed on texts, which tell them apart. A replay repeats the recorded
data exactly when the numbers at each place are of one kind (`replays_repeat_iff`).
-/
namespace V3Aidlc.Replays
open V3Aidlc.Values V3Aidlc.Contracts V3Aidlc.Canonical V3Aidlc.Sha256 V3Aidlc.Recovery V3Aidlc.Histories
open V3Aidlc.AppendOnly
open V3Aidlc.Documents V3Aidlc.Encodings V3Aidlc.TamperEvidence

/-- The draft with the sequence and the previous digest of a recorded event. -/
def completed (draft recorded : Dict) : Dict :=
  (draft.set "sequence" (recorded.get "sequence")).set "previousEventHash" (recorded.get "previousEventHash")

/-- The draft says what was recorded: it has the text of the recorded event without the assigned
    keys, and completed it has its digest. -/
structure Repeats (draft recorded : Dict) : Prop where
  same_text : canonicalText (.obj draft) = canonicalText (.obj (recorded.without ASSIGNED))
  same_digest : event_hash (completed draft recorded) = text recorded "eventHash"

/-- Where the draft equals what is recorded for its key, the numbers of both are of one kind. -/
def OneKind (events : List Dict) (draft : Dict) : Prop :=
  ∀ recorded, recorded_for draft events = some recorded →
    (Json.obj (recorded.without ASSIGNED)).eq (.obj draft) = true →
    kindred (.obj (recorded.without ASSIGNED)) (.obj draft) = true

section
variable {events : List Dict} {draft recorded : Dict}

/-- A draft that is the same as a recorded event without the assigned keys has the content of
    that event once it is completed. -/
theorem completed_content (valid : validate_event recorded = .ok ()) (document : Document (.obj draft))
    (document' : Document (.obj recorded)) (equal : same (.obj draft) (.obj (recorded.without ASSIGNED)) = true) :
    content (completed draft recorded) = content recorded := by
  have whole : Document (.obj (completed draft recorded)) :=
    document_set (document_set document _ (document_get document' _)) _ (document_get document' _)
  have body := document_without whole ["eventHash"]
  have body' := document_without document' ["eventHash"]
  have lookups := (same_lookups (document_obj.mp document).1
      (document_obj.mp (document_without document' ASSIGNED)).1).mp equal
  have sequence : ∃ v, Dict.get? "sequence" recorded = some v := by
    obtain ⟨n,number,_⟩ := (validate_event_ok.mp valid).2.1
    refine ⟨recorded.get "sequence",get?_of_get rfl ?_⟩
    intro absent
    rw [absent] at number
    cases number
  obtain ⟨v,found⟩ := sequence
  obtain ⟨s,previous,_⟩ := (validate_event_ok.mp valid).1 "previousEventHash" (by decide)
  refine (canonicalText_iff body body').mpr ((same_lookups (document_obj.mp body).1 (document_obj.mp body').1).mpr ?_)
  intro key
  rw [get?_without,get?_without]
  by_cases digest : key ∈ ["eventHash"]
  · rw [if_pos digest,if_pos digest]
    exact Option.Rel.none
  · rw [if_neg digest,if_neg digest]
    unfold completed
    by_cases isPrevious : key = "previousEventHash"
    · rw [isPrevious,get?_set_self,previous,get_of_get? previous]
      exact Option.Rel.some (same_self (document_str s))
    · rw [get?_set_ne _ _ (Ne.symm isPrevious)]
      by_cases isSequence : key = "sequence"
      · rw [isSequence,get?_set_self,found,get_of_get? found]
        exact Option.Rel.some (same_self ((document_obj.mp document').2 _ (get?_mem found)))
      · have related := lookups key
        have own : key ∉ ASSIGNED := by
          simp only [ASSIGNED,List.mem_cons,List.not_mem_nil,or_false,not_or] at digest ⊢
          exact ⟨isSequence,isPrevious,digest⟩
        rw [get?_without,if_neg own] at related
        rw [get?_set_ne _ _ (Ne.symm isSequence)]
        exact related

end

/-- A replay repeats what was recorded exactly when the numbers of the draft are of the kinds
    recorded for its key. -/
theorem replays_repeat_iff {events : List Dict} {draft : Dict} (chain : Chain events) (documents : Recorded events)
    (document : Document (.obj draft)) :
    (∀ later recorded, append_event events draft = .ok (later,recorded,false) → Repeats draft recorded) ↔
      OneKind events draft := by
  have known : ∀ {recorded}, recorded_for draft events = some recorded → recorded ∈ events := fun found =>
    List.mem_of_find?_eq_some found
  constructor
  · intro repeats recorded found equal
    have replayed : append_event events draft = .ok (events,recorded,false) :=
      append_event_iff.mpr ⟨chain,.replayed found equal⟩
    have texts := (repeats events recorded replayed).same_text
    have without := document_without (documents recorded (known found)) ASSIGNED
    exact ((same_iff _ _).mp ((canonicalText_iff without document).mp texts.symm)).2
  · intro kinds later recorded replayed
    obtain ⟨_,accepted⟩ := append_event_iff.mp replayed
    cases accepted with
    | replayed found equal =>
      have member := known found
      have without := document_without (documents recorded member) ASSIGNED
      have repeated := (same_iff _ _).mpr ⟨equal,kinds recorded found equal⟩
      have texts := ((canonicalText_iff without document).mpr repeated).symm
      refine ⟨texts,?_⟩
      have contents := completed_content (chain_valid chain member) document (documents recorded member)
        ((canonicalText_iff document without).mp texts)
      rw [(chain_verified chain).content recorded member]
      exact congrArg sha256 contents

/-! ### Samples -/

/-- A draft whose payload counts something. -/
def counting_draft (count : Json) : Dict := plain_draft.set "payload" (.obj [("n",count)])

theorem counting_appendable (count : Json) : Appendable [] (counting_draft count) :=
  opening_appendable rfl rfl rfl rfl rfl rfl

theorem counting_document (n : Int) : Document (.obj (counting_draft (.int n))) := ⟨rfl,rfl⟩

theorem counting_recorded (n : Int) (draft : Dict) (key : draft.get "idempotencyKey" = .str "K") :
    recorded_for draft [sealed_event [] (counting_draft (.int n))] =
      some (sealed_event [] (counting_draft (.int n))) := by
  unfold recorded_for
  rw [List.find?_cons_of_pos]
  rw [key,sealed_get _ _ (by decide)]
  rfl

theorem counting_without (n : Int) :
    (sealed_event [] (counting_draft (.int n))).without ASSIGNED = counting_draft (.int n) := by
  rw [sealed_without]
  rfl

theorem replays_repeat_sample :
    Repeats (counting_draft (.int 1)) (sealed_event [] (counting_draft (.int 1))) := by
  have chain := single_chain (counting_appendable (.int 1))
  have found := counting_recorded 1 (counting_draft (.int 1)) rfl
  have kinds : OneKind [sealed_event [] (counting_draft (.int 1))] (counting_draft (.int 1)) := by
    intro recorded here _
    rw [found] at here
    cases here
    rw [counting_without]
    decide +kernel
  have replayed : append_event [sealed_event [] (counting_draft (.int 1))] (counting_draft (.int 1)) =
      .ok ([sealed_event [] (counting_draft (.int 1))],sealed_event [] (counting_draft (.int 1)),false) := by
    refine append_event_iff.mpr ⟨chain,.replayed found ?_⟩
    rw [counting_without]
    decide +kernel
  exact (replays_repeat_iff chain (single_recorded (counting_document 1)) (counting_document 1)).mpr kinds _ _ replayed

/-- The draft counts `true` where `1` was recorded: it is taken for a retry. -/
theorem truth_replayed :
    Chain [sealed_event [] (counting_draft (.int 1))] ∧
    append_event [sealed_event [] (counting_draft (.int 1))] (counting_draft (.bool true)) =
      .ok ([sealed_event [] (counting_draft (.int 1))],sealed_event [] (counting_draft (.int 1)),false) ∧
    canonicalText (.obj (counting_draft (.bool true))) ≠
      canonicalText (.obj ((sealed_event [] (counting_draft (.int 1))).without ASSIGNED)) := by
  have chain := single_chain (counting_appendable (.int 1))
  have found := counting_recorded 1 (counting_draft (.bool true)) rfl
  refine ⟨chain,append_event_iff.mpr ⟨chain,.replayed found ?_⟩,?_⟩
  · rw [counting_without]
    decide +kernel
  · rw [counting_without]
    intro texts
    have equal := (canonicalText_iff ⟨rfl,rfl⟩ (counting_document 1)).mp texts
    exact absurd equal (by decide +kernel)

end V3Aidlc.Replays
