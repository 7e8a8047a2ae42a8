import V3Aidlc.AppendOnly
import V3Aidlc.Seals

/-!
The last digest of a chain commits to the whole of it. As long as no two of the contents at
hand share a digest, two verified chains that end in one digest hold the same events, and two
that share an event hold the same events before it (`tamper_evident`).
-/
namespace V3Aidlc.TamperEvidence
open V3Aidlc.Values V3Aidlc.Contracts V3Aidlc.Canonical V3Aidlc.Sha256 V3Aidlc.Recovery V3Aidlc.Histories
open V3Aidlc.AppendOnly
open V3Aidlc.Documents V3Aidlc.Encodings V3Aidlc.PrefixCodes

/-- The text that the digest of an event is computed on. -/
def content (event : Dict) : String := canonicalText (.obj (event.without ["eventHash"]))

def SameEvent (event other : Dict) : Prop := same (.obj event) (.obj other) = true

/-- The events are documents: each key once in a dict, each float a double. -/
def Recorded (events : List Dict) : Prop := ∀ event ∈ events, Document (.obj event)

/-- No two contents of these events have one digest. -/
def CollisionFree (events : List Dict) : Prop := Set.InjOn sha256 {text | ∃ event ∈ events, content event = text}

theorem recorded_append {events others : List Dict} : Recorded (events ++ others) ↔
    Recorded events ∧ Recorded others := by
  simp [Recorded,or_imp,forall_and]

/-! ### One event -/

theorem same_num {v w : Json} (equal : same v w = true) : v.num? = w.num? := by
  cases v <;> cases w <;> simp_all [same,Json.num?]

theorem eq_int {v : Json} {n : Int} (equal : v.eq (.int n) = true) : v.num? = some (n : ℚ) := by
  cases v <;> simp_all [Json.eq,Json.num?]

theorem same_get {event other : Dict} (document : Document (.obj event)) (document' : Document (.obj other))
    (equal : SameEvent event other) (key : String) : same (event.get key) (other.get key) = true := by
  have related := (same_lookups (document_obj.mp document).1 (document_obj.mp document').1).mp equal key
  unfold Dict.get
  generalize Dict.get? key event = here at related ⊢
  generalize Dict.get? key other = there at related ⊢
  cases related with
  | none => rfl
  | some values => exact values

theorem same_text {event other : Dict} (document : Document (.obj event)) (document' : Document (.obj other))
    (equal : SameEvent event other) (key : String) : text event key = text other key := by
  have values := same_get document document' equal key
  unfold text
  cases here : event.get key <;> cases there : other.get key <;> rw [here,there] at values <;> simp_all [same,Json.str?]

/-- Events of one content and one digest are the same. -/
theorem same_event {event other : Dict} (valid : validate_event event = .ok ()) (valid' : validate_event other = .ok ())
    (document : Document (.obj event)) (document' : Document (.obj other)) (contents : content event = content other)
    (digests : text event "eventHash" = text other "eventHash") : SameEvent event other := by
  obtain ⟨s,found,_⟩ := (validate_event_ok.mp valid).1 "eventHash" (by decide)
  obtain ⟨t,there,_⟩ := (validate_event_ok.mp valid').1 "eventHash" (by decide)
  rw [text_of_get? found,text_of_get? there] at digests
  have rests : Seals.content "eventHash" event = Seals.content "eventHash" other := contents
  refine Seals.same_of_content document document' rests ?_
  rw [found,there,digests]

/-! ### Chains -/

theorem chain_sequence {earlier : List Dict} {event : Dict} (chain : Chain (earlier ++ [event])) :
    (event.get "sequence").num? = some ((earlier.length + 1 : Int) : ℚ) :=
  eq_int ((chain_verified chain).sequence earlier event [] rfl)

/-- Events that are the same stand at the same place of their chains. -/
theorem same_place {earlier others : List Dict} {event other : Dict} (chain : Chain (earlier ++ [event]))
    (chain' : Chain (others ++ [other])) (document : Document (.obj event)) (document' : Document (.obj other))
    (equal : SameEvent event other) : earlier.length = others.length := by
  have numbers := same_num (same_get document document' equal "sequence")
  rw [chain_sequence chain,chain_sequence chain'] at numbers
  have places := Int.cast_injective (Option.some.inj numbers)
  omega

theorem collision_free_mono {events others : List Dict} (free : CollisionFree others) (inside : events ⊆ others) :
    CollisionFree events := by
  refine Set.InjOn.mono ?_ free
  rintro text ⟨event,member,rfl⟩
  exact ⟨event,inside member,rfl⟩

/-- Two last events of one digest are the same. -/
theorem last_same {earlier others : List Dict} {event other : Dict} (chain : Chain (earlier ++ [event]))
    (chain' : Chain (others ++ [other])) (document : Document (.obj event)) (document' : Document (.obj other))
    (free : CollisionFree [event,other]) (digests : text event "eventHash" = text other "eventHash") :
    SameEvent event other := by
  have own := (chain_verified chain).content event (by simp)
  have own' := (chain_verified chain').content other (by simp)
  have hashes : sha256 (content event) = sha256 (content other) := by
    rw [own,own'] at digests
    exact digests
  have contents : content event = content other := free ⟨event,by simp,rfl⟩ ⟨other,by simp,rfl⟩ hashes
  exact same_event (chain_valid chain (by simp)) (chain_valid chain' (by simp)) document document' contents digests

/-- Chains that share an event hold the same events before it: induction from the end, each
    event naming the digest of the one before. -/
theorem shared_before {earlier others : List Dict} {event other : Dict} (chain : Chain (earlier ++ [event]))
    (chain' : Chain (others ++ [other])) (documents : Recorded (earlier ++ [event]))
      (documents' : Recorded (others ++ [other]))
    (free : CollisionFree (earlier ++ others)) (equal : SameEvent event other) :
      List.Forall₂ SameEvent earlier others := by
  induction earlier using List.reverseRecOn generalizing others event other with
  | nil =>
    have place := same_place chain chain' (documents event (by simp)) (documents' other (by simp)) equal
    rw [List.length_eq_zero_iff.mp place.symm]
    exact List.Forall₂.nil
  | append_singleton earlier last ih =>
    have place := same_place chain chain' (documents event (by simp)) (documents' other (by simp)) equal
    rcases List.eq_nil_or_concat' others with none | ⟨before,last',rfl⟩
    · rw [none] at place
      simp at place
    · have previous := (chain_verified chain).linked (earlier ++ [last]) event [] rfl
      have previous' := (chain_verified chain').linked (before ++ [last']) other [] rfl
      have named := same_text (documents event (by simp)) (documents' other (by simp)) equal "previousEventHash"
      have digests : text last "eventHash" = text last' "eventHash" := by
        rw [previous,previous'] at named
        simpa using named
      have shorter : Chain (earlier ++ [last]) := chain_prefix chain (List.prefix_append _ _)
      have shorter' : Chain (before ++ [last']) := chain_prefix chain' (List.prefix_append _ _)
      have lastDocument : Document (.obj last) := documents last (by simp)
      have lastDocument' : Document (.obj last') := documents' last' (by simp)
      have lasts := last_same shorter shorter' lastDocument lastDocument'
        (collision_free_mono free (by simp)) digests
      have inside : earlier ++ before ⊆ earlier ++ [last] ++ (before ++ [last']) := by
        intro event member
        simp only [List.mem_append] at member ⊢
        tauto
      have fronts := ih shorter shorter' (recorded_append.mp documents).1 (recorded_append.mp documents').1
        (collision_free_mono free inside) lasts
      exact List.rel_append fronts (List.Forall₂.cons lasts List.Forall₂.nil)

theorem chain_front {events earlier later : List Dict} {event : Dict} (chain : Chain events)
    (split : events = earlier ++ event :: later) : Chain (earlier ++ [event]) :=
  chain_prefix chain ⟨later,by rw [split,List.append_assoc,List.singleton_append]⟩

/-- Two verified chains that end in one digest hold the same events, and two that share an
    event hold the same events before it. -/
theorem tamper_evident {events others : List Dict} (chain : Chain events) (chain' : Chain others)
    (documents : Recorded events) (documents' : Recorded others) (free : CollisionFree (events ++ others)) :
    (∀ digest, events.getLast?.map (fun last => text last "eventHash") = some digest →
      others.getLast?.map (fun last => text last "eventHash") = some digest → List.Forall₂ SameEvent events others) ∧
    (∀ earlier event later earlier' event' later', events = earlier ++ event :: later →
      others = earlier' ++ event' :: later' → SameEvent event event' → List.Forall₂ SameEvent earlier earlier') := by
  have shared : ∀ earlier event later earlier' event' later', events = earlier ++ event :: later →
      others = earlier' ++ event' :: later' → SameEvent event event' → List.Forall₂ SameEvent earlier earlier' := by
    intro earlier event later earlier' event' later' split split' equal
    have front : earlier ++ [event] ⊆ events := by simp [split]
    have front' : earlier' ++ [event'] ⊆ others := by simp [split']
    have inside : earlier ++ earlier' ⊆ events ++ others := by
      intro other member
      rw [split,split']
      simp only [List.mem_append,List.mem_cons] at member ⊢
      tauto
    exact shared_before (chain_front chain split) (chain_front chain' split')
      (fun e member => documents e (front member))
      (fun e member => documents' e (front' member)) (collision_free_mono free inside) equal
  refine ⟨?_,shared⟩
  intro digest ends ends'
  obtain ⟨last,isLast,lastDigest⟩ := Option.map_eq_some_iff.mp ends
  obtain ⟨last',isLast',lastDigest'⟩ := Option.map_eq_some_iff.mp ends'
  obtain ⟨earlier,split⟩ := List.getLast?_eq_some_iff.mp isLast
  obtain ⟨earlier',split'⟩ := List.getLast?_eq_some_iff.mp isLast'
  have lastDocument : Document (.obj last) := documents last (by simp [split])
  have lastDocument' : Document (.obj last') := documents' last' (by simp [split'])
  have pair : [last,last'] ⊆ events ++ others := by simp [split,split']
  have lasts : SameEvent last last' :=
    last_same (split ▸ chain) (split' ▸ chain') lastDocument lastDocument' (collision_free_mono free pair)
      (lastDigest.trans lastDigest'.symm)
  rw [split,split']
  exact List.rel_append (shared earlier last [] earlier' last' [] split split' lasts)
    (List.Forall₂.cons lasts List.Forall₂.nil)

theorem sealed_document (events : List Dict) {draft : Dict} (document : Document (.obj draft)) :
    Document (.obj (sealed_event events draft)) :=
  document_set (document_set (document_set document _ (document_int _)) _ (document_str _)) _ (document_str _)

/-- What is appended to a chain of documents makes a longer one. -/
theorem sealed_chain {events : List Dict} {draft : Dict} (chain : Chain events) (documents : Recorded events)
    (appendable : Appendable events draft) (document : Document (.obj draft)) :
    Chain (events ++ [sealed_event events draft]) ∧ Recorded (events ++ [sealed_event events draft]) := by
  refine ⟨chain_snoc.mpr ⟨chain,sealed_linked chain appendable⟩,recorded_append.mpr ⟨documents,?_⟩⟩
  intro event member
  rw [List.mem_singleton.mp member]
  exact sealed_document events document

theorem single_chain {draft : Dict} (appendable : Appendable [] draft) : Chain [sealed_event [] draft] := by
  rw [← List.nil_append [sealed_event [] draft]]
  exact chain_snoc.mpr ⟨chain_nil,sealed_linked chain_nil appendable⟩

theorem single_recorded {draft : Dict} (document : Document (.obj draft)) : Recorded [sealed_event [] draft] := by
  intro event member
  rw [List.mem_singleton.mp member]
  exact sealed_document [] document

/-! ### A history and a copy of it with the keys in another order -/

/-- The plain draft as the effect of another, under an id and a key of its own. -/
def caused_draft : Dict :=
  ((plain_draft.set "eventId" (.str "F")).set "idempotencyKey" (.str "L")).set "causationId" (.str "E")

/-- The history of an event and of one that it has caused. -/
def two_events (opening caused : Dict) : List Dict :=
  [sealed_event [] opening] ++ [sealed_event [sealed_event [] opening] caused]

theorem two_last (opening caused : Dict) :
    (two_events opening caused).getLast?.map (fun last => text last "eventHash") =
      some (text (sealed_event [sealed_event [] opening] caused) "eventHash") := by
  simp [two_events]

/-- Drafts that read as the plain one and the one it causes make a chain of two documents. -/
theorem two_chain {opening caused : Dict} (reads : ∀ key, Dict.get? key opening = Dict.get? key plain_draft)
    (reads' : ∀ key, Dict.get? key caused = Dict.get? key caused_draft)
    (document : Document (.obj opening)) (document' : Document (.obj caused)) :
    Chain (two_events opening caused) ∧ Recorded (two_events opening caused) := by
  have get : ∀ key, opening.get key = plain_draft.get key := fun key => congrArg (·.getD .null) (reads key)
  have get' : ∀ key, caused.get key = caused_draft.get key := fun key => congrArg (·.getD .null) (reads' key)
  have opens : Appendable [] opening := by
    refine opening_appendable ?_ (get _) (get _) (get _) ?_ ?_
    · simp only [reads]
      decide +kernel
    · rw [get]
      rfl
    · rw [get]
      rfl
  have first : ∀ key, key ∉ ["sequence","previousEventHash","eventHash"] →
      text (sealed_event [] opening) key = text plain_draft key :=
    fun key own => (sealed_text [] opening own).trans (text_of_get (get key))
  have second : ∀ key, text caused key = text caused_draft key := fun key => text_of_get (get' key)
  have follows : Appendable [sealed_event [] opening] caused := by
    refine plain_appendable ?_ (get' _) (get' _) (get' _) ?_ ?_ ?_ (.inr ?_)
    · simp only [reads']
      decide +kernel
    · rw [get']
      rfl
    · rintro event ⟨⟩
      rw [first _ (by decide),second]
      decide
    · intro key member event inside
      rw [List.mem_singleton.mp inside,second]
      rcases List.mem_pair.mp member with rfl | rfl
      · rw [first _ (by decide)]
        decide
      · rw [first _ (by decide)]
        decide
    · refine ⟨sealed_event [] opening,List.mem_singleton_self _,?_⟩
      rw [get',first _ (by decide)]
      rfl
  exact sealed_chain (single_chain opens) (single_recorded document) follows document'

/-- What an appended event says besides its own digest. -/
def undigested (events : List Dict) (draft : Dict) : Dict :=
  ((draft.set "sequence" (.int (events.length + 1))).set "previousEventHash"
    (.str (chain_state events).expected_hash)).without ["eventHash"]

theorem appended_content (events : List Dict) (draft : Dict) :
    content (sealed_event events draft) = canonicalText (.obj (undigested events draft)) := by
  unfold content sealed_event
  rw [without_set _ _ (by simp)]
  rfl

theorem appended_digest (events : List Dict) (draft : Dict) :
    text (sealed_event events draft) "eventHash" = sha256 (content (sealed_event events draft)) :=
  sealed_content events draft

theorem first_hands (draft : Dict) :
    (chain_state [sealed_event [] draft]).expected_hash = sha256 (content (sealed_event [] draft)) :=
  appended_digest [] draft

/-- Drafts that read the same have one content at one place after one digest. -/
theorem appended_same {events others : List Dict} {draft other : Dict} (document : Document (.obj draft))
    (document' : Document (.obj other)) (reads : ∀ key, Dict.get? key draft = Dict.get? key other)
    (lengths : events.length = others.length)
    (digests : (chain_state events).expected_hash = (chain_state others).expected_hash) :
    content (sealed_event events draft) = content (sealed_event others other) := by
  refine Seals.content_of_lookups (sealed_document events document) (sealed_document others document') ?_
  intro key rest
  have previous : (events.getLast?.map (fun last => text last "eventHash")).getD ZERO_HASH =
      (others.getLast?.map (fun last => text last "eventHash")).getD ZERO_HASH := digests
  unfold sealed_event
  simp only [get?_set,if_neg (Ne.symm rest),reads,lengths,previous]

/-- Events of two contents are free of collisions when the two have two digests. -/
theorem two_contents {events : List Dict} {one other : String} (apart : sha256 one ≠ sha256 other)
    (contents : ∀ event ∈ events, content event = one ∨ content event = other) : CollisionFree events := by
  rintro text ⟨event,member,rfl⟩ text' ⟨event',member',rfl⟩ digests
  rcases contents event member with here | here <;> rcases contents event' member' with there | there <;>
    rw [here,there] at digests ⊢
  · exact absurd digests apart
  · exact absurd digests.symm apart

def first_digest : String := "97c4085969aa05fdb1c0d81ecff7146756038a53c38dc993cce585d0f4d985b0"

theorem digest_fields (fields : Dict) : sha256 (canonicalText (.obj fields)) =
    String.ofList (hashed (encoded ('\x7b' :: (separated ',' ((sortedBy Prod.fst fields).map entry) ++
      ['\x7d'])))) := by
  unfold sha256
  rw [← code_obj,List.append_nil]
  rfl

theorem first_digested : sha256 (content (sealed_event [] plain_draft)) = first_digest := by
  rw [appended_content,digest_fields]
  decide +kernel

theorem digests_apart : sha256 (content (sealed_event [] plain_draft)) ≠
    sha256 (content (sealed_event [sealed_event [] plain_draft] caused_draft)) := by
  rw [first_digested,appended_content]
  unfold undigested
  rw [first_hands,first_digested,digest_fields]
  decide +kernel

/-- The copy whose records hold their keys backwards ends in the digest of the history: it holds
    the same events. -/
theorem tamper_evident_reordered :
    (two_events plain_draft caused_draft).map Dict.keys ≠
      (two_events plain_draft.reverse caused_draft.reverse).map Dict.keys ∧
    List.Forall₂ SameEvent (two_events plain_draft caused_draft)
      (two_events plain_draft.reverse caused_draft.reverse) := by
  have opening : Document (.obj plain_draft) := by constructor <;> decide +kernel
  have caused : Document (.obj caused_draft) := by constructor <;> decide +kernel
  have opening' : Document (.obj plain_draft.reverse) := by constructor <;> decide +kernel
  have caused' : Document (.obj caused_draft.reverse) := by constructor <;> decide +kernel
  have reads : ∀ key, Dict.get? key plain_draft.reverse = Dict.get? key plain_draft :=
    get?_perm (document_obj.mp opening').1 plain_draft.reverse_perm
  have reads' : ∀ key, Dict.get? key caused_draft.reverse = Dict.get? key caused_draft :=
    get?_perm (document_obj.mp caused').1 caused_draft.reverse_perm
  obtain ⟨chain,documents⟩ := two_chain (fun _ => rfl) (fun _ => rfl) opening caused
  obtain ⟨chain',documents'⟩ := two_chain reads reads' opening' caused'
  have first : content (sealed_event [] plain_draft.reverse) = content (sealed_event [] plain_draft) :=
    appended_same opening' opening reads rfl rfl
  have handed : (chain_state [sealed_event [] plain_draft.reverse]).expected_hash =
      (chain_state [sealed_event [] plain_draft]).expected_hash := by
    rw [first_hands,first_hands,first]
  have second : content (sealed_event [sealed_event [] plain_draft.reverse] caused_draft.reverse) =
      content (sealed_event [sealed_event [] plain_draft] caused_draft) :=
    appended_same caused' caused reads' (by simp) handed
  have free : CollisionFree (two_events plain_draft caused_draft ++
      two_events plain_draft.reverse caused_draft.reverse) := by
    refine two_contents digests_apart ?_
    intro event member
    simp only [two_events,List.cons_append,List.nil_append,List.mem_cons,List.not_mem_nil,or_false] at member
    rcases member with rfl | rfl | rfl | rfl
    · exact .inl rfl
    · exact .inr rfl
    · exact .inl first
    · exact .inr second
  have digests : text (sealed_event [sealed_event [] plain_draft.reverse] caused_draft.reverse) "eventHash" =
      text (sealed_event [sealed_event [] plain_draft] caused_draft) "eventHash" := by
    rw [appended_digest,appended_digest,second]
  have copy_last : (two_events plain_draft.reverse caused_draft.reverse).getLast?.map (fun last => text last "eventHash") =
      some (text (sealed_event [sealed_event [] plain_draft] caused_draft) "eventHash") := by
    rw [two_last,digests]
  have same := (tamper_evident chain chain' documents documents' free).1 _ (two_last plain_draft caused_draft) copy_last
  exact ⟨by decide +kernel,same⟩

end V3Aidlc.TamperEvidence
