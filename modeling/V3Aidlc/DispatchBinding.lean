import V3Aidlc.Dispatches
import V3Aidlc.Seals

/-!
A dispatch is bound to its digest. Every accepted negotiation gives a dispatch that the
validator accepts, and an accepted dispatch carries the digest of everything else in it,
its request included, so two of them with one digest are the same document and none can
be changed in one field (`dispatch_bound`).
-/
namespace V3Aidlc.DispatchBinding
open V3Aidlc.Values V3Aidlc.Loops V3Aidlc.Contracts V3Aidlc.Sha256 V3Aidlc.AgentAdapters V3Aidlc.Dispatches
open V3Aidlc.Documents V3Aidlc.Seals

theorem dispatch_sealed {dispatch : Dict} (valid : validate_dispatch dispatch = .ok ()) :
    Sealed "dispatchDigest" dispatch := by
  unfold validate_dispatch at valid
  simp only [bind_ok_iff] at valid
  obtain ⟨_,texts,_,_,rest⟩ := valid
  obtain ⟨digest,found,_⟩ := (required_strings_ok _).mp texts "dispatchDigest" (by simp [DISPATCH_STRINGS])
  cases isRequest : (dispatch.get "request").dict? with
  | none => simp [isRequest,adapter_error] at rest
  | some request =>
    simp only [isRequest,bind_ok_iff,AgentAdapters.reject,reject_if_ok,decide_eq_false_iff_not,ne_eq,not_not] at rest
    obtain ⟨_,_,_,_,_,_,signed⟩ := rest
    unfold Sealed
    rw [found,← text_of_get? found,← signed]
    rfl

/-- Two dispatches that differ in the field `changed` at most: its value is another, or it
    is there in one only. -/
def AgreeBut (changed : String) (dispatch other : Dict) : Prop :=
  ∀ key, key ≠ changed → Dict.get? key other = Dict.get? key dispatch

/-- What the digest of an accepted dispatch binds. -/
structure Bound (dispatch other : Dict) : Prop where
  by_digest : dispatch.get "dispatchDigest" = other.get "dispatchDigest" → same (.obj dispatch) (.obj other) = true
  by_field : ∀ changed, AgreeBut changed dispatch other → same (.obj dispatch) (.obj other) = true

theorem accepted_bound {dispatch other : Dict} (document : Document (.obj dispatch)) (document' : Document (.obj other))
    (valid : validate_dispatch dispatch = .ok ()) (valid' : validate_dispatch other = .ok ())
    (free : Apart "dispatchDigest" dispatch other) : Bound dispatch other := by
  have isSealed := dispatch_sealed valid
  have isSealed' := dispatch_sealed valid'
  constructor
  · intro digests
    rw [get_of_get? isSealed,get_of_get? isSealed'] at digests
    refine sealed_same document document' isSealed isSealed' free ?_
    rw [isSealed,isSealed',digests]
  · intro changed agree
    exact sealed_apart document document' isSealed isSealed' free agree

/-- Every accepted negotiation and visible lease gives a valid dispatch, and the digest of a
    valid dispatch binds it as long as the texts of the two dispatches do not collide. -/
theorem dispatch_bound :
    (∀ request profile result lease_id, negotiate_capabilities request profile = .ok result →
      result.decision = .ACCEPTED → blank lease_id = false →
      ∃ dispatch, build_dispatch request profile lease_id = .ok dispatch ∧ validate_dispatch dispatch = .ok ()) ∧
    (∀ dispatch other : Dict, Document (.obj dispatch) → Document (.obj other) →
      validate_dispatch dispatch = .ok () → validate_dispatch other = .ok () →
      Apart "dispatchDigest" dispatch other → Bound dispatch other) := by
  constructor
  · intro request profile result lease_id negotiated accepted leased
    obtain ⟨requested,offered,rfl⟩ := negotiate_ok.mp negotiated
    exact ⟨_,build_dispatch_ok.mpr ⟨requested,offered,accepted_iff.mp accepted,leased,rfl⟩,
      built_dispatch_valid requested offered leased⟩
  · intro dispatch other document document' valid valid' free
    exact accepted_bound document document' valid valid' free

theorem signed_document {request profile : Dict} (document : Document (.obj request))
    (document' : Document (.obj profile)) (lease_id : String) :
    Document (.obj (signed_dispatch request profile lease_id)) := by
  have distinct : (unsigned_dispatch request profile lease_id).keys.Nodup := by
    show ["schemaVersion","runId","projectId","workPackageId","adapterId","adapterVersion","profileId","profileDigest",
      "contextManifestId","contextManifestDigest","leaseId","attempt","idempotencyKey","requestDigest","request"].Nodup
    decide
  refine document_set (document_obj.mpr ⟨distinct,?_⟩) _ (document_str _)
  simp only [unsigned_dispatch,List.forall_mem_cons,List.not_mem_nil,false_implies,implies_true,and_true]
  refine ⟨document_str _,document_get document _,document_get document _,document_get document _,
    document_get document' _,document_get document' _,document_get document' _,document_str _,document_get document _,
    document_get document _,document_str _,document_get document _,document_get document _,document_str _,document⟩

/-- A document that reads as a valid dispatch is one. -/
theorem valid_of_lookups {dispatch other : Dict} (document : Document (.obj dispatch)) (document' : Document (.obj other))
    (reads : ∀ key, Dict.get? key other = Dict.get? key dispatch) (valid : validate_dispatch dispatch = .ok ()) :
    validate_dispatch other = .ok () := by
  have get : other.get = dispatch.get := funext fun key => congrArg (·.getD .null) (reads key)
  have texts : text other = text dispatch := by
    funext key
    unfold text
    rw [get]
  have contents : canonical_digest (.obj (other.without ["dispatchDigest"])) =
      canonical_digest (.obj (dispatch.without ["dispatchDigest"])) :=
    congrArg sha256 (content_of_lookups document document' (fun key _ => reads key)).symm
  have checks : required_strings .AdapterError other = required_strings .AdapterError dispatch := by
    funext keys
    unfold required_strings Contracts.required_string
    rw [get]
  have counts : positive_integer other "attempt" = positive_integer dispatch "attempt" := by
    unfold positive_integer
    rw [get]
  have matches_request : ∀ request, check_match other request "dispatch" "request" =
      check_match dispatch request "dispatch" "request" := by
    intro request
    funext key
    unfold check_match item
    simp only [reads]
  unfold validate_dispatch at valid ⊢
  rw [checks,counts,get,texts,contents]
  simp only [matches_request]
  exact valid

/-- The dispatch with its keys in the reverse order is the same document. -/
theorem dispatch_bound_ordinary : ∃ dispatch,
    build_dispatch (ordinary_request 1 false) (ordinary_profile true false) "LEASE-1" = .ok dispatch ∧
    validate_dispatch dispatch = .ok () ∧ validate_dispatch dispatch.reverse = .ok () ∧
    same (.obj dispatch) (.obj dispatch.reverse) = true := by
  have requested : validate_run_request (ordinary_request 1 false) = .ok () := by decide +kernel
  have accepted : (negotiation (ordinary_request 1 false) (ordinary_profile true false)).decision = .ACCEPTED := by
    decide +kernel
  obtain ⟨dispatch,built,valid⟩ := dispatch_bound.1 _ _ _ "LEASE-1"
    (negotiate_ok.mpr ⟨requested,ordinary_offered true false,rfl⟩) accepted (by decide)
  have document : Document (.obj dispatch) := by
    obtain ⟨_,_,_,_,rfl⟩ := build_dispatch_ok.mp built
    exact signed_document (by constructor <;> decide +kernel) (by constructor <;> decide +kernel) "LEASE-1"
  obtain ⟨distinct,values⟩ := document_obj.mp document
  have reversed : Document (.obj dispatch.reverse) := by
    refine document_obj.mpr ⟨?_,fun field member => values field (List.mem_reverse.mp member)⟩
    exact ((List.reverse_perm dispatch).map Prod.fst).nodup_iff.mpr distinct
  have reads : ∀ key, Dict.get? key dispatch.reverse = Dict.get? key dispatch :=
    fun key => (get?_perm distinct (List.reverse_perm dispatch).symm key).symm
  have valid' := valid_of_lookups document reversed reads valid
  have free : Apart "dispatchDigest" dispatch dispatch.reverse := by
    have contents := content_of_lookups document reversed (fun key (_ : key ≠ "dispatchDigest") => reads key)
    rintro text (rfl | rfl) other (rfl | rfl) _ <;> simp only [contents]
  have bound := dispatch_bound.2 dispatch dispatch.reverse document reversed valid valid' free
  refine ⟨dispatch,built,valid,valid',bound.by_digest ?_⟩
  unfold Dict.get
  rw [reads]

end V3Aidlc.DispatchBinding
