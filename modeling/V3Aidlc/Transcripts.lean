import V3Aidlc.Relays
import Mathlib.Logic.Relation

/-!
What an accepted transcript guarantees. Its messages have distinct ids and are each
admitted by the protocol, and a correlation names a message that has been seen. A message
has seen itself when its correlation is checked, and conversations are not compared, so
the links of a transcript lead strictly back inside one conversation exactly when no
message correlates to itself or to another conversation (`transcript_linked_iff`).
-/
namespace V3Aidlc.Transcripts
open V3Aidlc.Values V3Aidlc.Loops V3Aidlc.Contracts V3Aidlc.Canonical V3Aidlc.ConversationalGateway V3Aidlc.Relays

/-! ### Links -/

/-- The message at the first place names the one at the second as its source. -/
def Links (envelopes : List Dict) (later earlier : Nat) : Prop :=
  ∃ message source, envelopes[later]? = some message ∧ envelopes[earlier]? = some source ∧
    message.get "correlationId" ≠ .null ∧ message.get "correlationId" = source.get "messageId"

def conversation_at (envelopes : List Dict) (place : Nat) : Option Json :=
  (envelopes[place]?).map (fun envelope => envelope.get "conversationId")

/-- A correlation leads to a strictly earlier message of the same conversation. -/
def LinkedBack (envelopes : List Dict) : Prop :=
  ∀ place message, envelopes[place]? = some message → message.get "correlationId" ≠ .null →
    ∃ earlier < place, Links envelopes place earlier ∧
      conversation_at envelopes earlier = conversation_at envelopes place

/-- What the protocol promises of a transcript. -/
structure Coherent (python : Interpreter) (envelopes : List Dict) : Prop where
  distinct : (envelopes.map (fun envelope => envelope.get "messageId")).Nodup
  admitted : ∀ envelope ∈ envelopes, validate_envelope python envelope = .ok ()
  linked : LinkedBack envelopes
  terminates : WellFounded (fun earlier later => Links envelopes later earlier)
  one_conversation : ∀ later earlier, Relation.ReflTransGen (Links envelopes) later earlier →
    conversation_at envelopes earlier = conversation_at envelopes later

/-- No message names itself as its source, or an earlier message of another conversation. -/
def LinksHome (envelopes : List Dict) : Prop :=
  ∀ place message, envelopes[place]? = some message → message.get "correlationId" ≠ .null →
    message.get "correlationId" ≠ message.get "messageId" ∧
    ∀ earlier < place, Links envelopes place earlier →
      conversation_at envelopes earlier = conversation_at envelopes place

theorem links_unique {envelopes : List Dict}
    (distinct : (envelopes.map (fun envelope => envelope.get "messageId")).Nodup) {later first second : Nat}
    (toFirst : Links envelopes later first) (toSecond : Links envelopes later second) : first = second := by
  obtain ⟨message,source,atLater,atFirst,_,named⟩ := toFirst
  obtain ⟨same,other,stillLater,atSecond,_,alsoNamed⟩ := toSecond
  obtain rfl : message = same := Option.some.inj (atLater.symm.trans stillLater)
  have bound : first < (envelopes.map (fun envelope => envelope.get "messageId")).length := by
    rw [List.length_map]
    exact (List.getElem?_eq_some_iff.mp atFirst).1
  apply (List.getElem?_inj bound distinct).mp
  rw [List.getElem?_map,List.getElem?_map,atFirst,atSecond,Option.map_some,Option.map_some,← named,alsoNamed]

/-- Links that each lead back can only be followed finitely often, and stay in the
    conversation that each of them keeps. -/
theorem coherent_of_linked {python : Interpreter} {envelopes : List Dict}
    (distinct : (envelopes.map (fun envelope => envelope.get "messageId")).Nodup)
    (admitted : ∀ envelope ∈ envelopes, validate_envelope python envelope = .ok ())
    (linked : LinkedBack envelopes) : Coherent python envelopes := by
  have back : ∀ later earlier, Links envelopes later earlier →
      earlier < later ∧ conversation_at envelopes earlier = conversation_at envelopes later := by
    intro later earlier link
    have ⟨message,_,atLater,_,correlated,_⟩ := link
    obtain ⟨found,before,toFound,same⟩ := linked later message atLater correlated
    obtain rfl := links_unique distinct link toFound
    exact ⟨before,same⟩
  refine ⟨distinct,admitted,linked,?_,?_⟩
  · exact Subrelation.wf (fun {earlier later} link => (back later earlier link).1) Nat.lt_wfRel.wf
  · intro later earlier followed
    induction followed with
    | refl => rfl
    | tail _ last ih => exact (back _ _ last).2.trans ih

/-! ### Accepted transcripts -/

section
variable {python : Interpreter}

/-- What the loop has established of the envelopes it went through. -/
structure Followed (python : Interpreter) (done : List Dict) (seen : List String) : Prop where
  ids : done.map (fun envelope => envelope.get "messageId") = seen.map Json.str
  distinct : seen.Nodup
  admitted : ∀ envelope ∈ done, validate_envelope python envelope = .ok ()
  correlated : ∀ place message, done[place]? = some message → message.get "correlationId" ≠ .null →
    ∃ earlier ≤ place, Links done place earlier

theorem message_id_text {envelope : Dict} (valid : validate_envelope python envelope = .ok ()) :
    envelope.get "messageId" = .str (text envelope "messageId") := by
  unfold validate_envelope at valid
  obtain ⟨⟨kind,payload⟩,parts,_⟩ := bind_ok_iff.mp valid
  obtain ⟨s,isText⟩ := text_of_filled (envelope_parts_ok parts).message_id
  unfold text
  rw [isText]
  rfl

theorem check_correlation_ok {seen : List String} {correlation : Json} {u : Unit} :
    check_correlation seen correlation = .ok u ↔ correlation = .null ∨ ∃ id ∈ seen, correlation = .str id := by
  unfold check_correlation ConversationalGateway.reject
  cases correlation <;> simp [Json.isNull,in_set,Json.hashable]

theorem links_append {done rest : List Dict} {later earlier : Nat} (link : Links done later earlier) :
    Links (done ++ rest) later earlier := by
  obtain ⟨message,source,atLater,atEarlier,correlated,named⟩ := link
  refine ⟨message,source,?_,?_,correlated,named⟩
  · rw [List.getElem?_append_left (List.getElem?_eq_some_iff.mp atLater).1]
    exact atLater
  · rw [List.getElem?_append_left (List.getElem?_eq_some_iff.mp atEarlier).1]
    exact atEarlier

theorem found_snoc {done : List Dict} {last message : Dict} {place : Nat}
    (found : (done ++ [last])[place]? = some message) :
    done[place]? = some message ∨ (place = done.length ∧ message = last) := by
  rcases Nat.lt_or_ge place done.length with before | after
  · rw [List.getElem?_append_left before] at found
    exact .inl found
  · have bound := (List.getElem?_eq_some_iff.mp found).1
    rw [List.length_append,List.length_singleton] at bound
    obtain rfl : place = done.length := by omega
    rw [List.getElem?_concat_length] at found
    exact .inr ⟨rfl,(Option.some.inj found).symm⟩

theorem followed_entry {done : List Dict} {seen next : List String} {envelope : Dict}
    (so_far : Followed python done seen) (ran : validate_entry python seen envelope = .ok next) :
    Followed python (done ++ [envelope]) next := by
  unfold validate_entry ConversationalGateway.reject at ran
  simp only [bind_ok_iff,reject_if_ok,check_correlation_ok,pure_ok_iff,List.contains_eq_mem,
    decide_eq_false_iff_not] at ran
  obtain ⟨_,valid,_,fresh,_,correlated,rfl⟩ := ran
  have named := message_id_text valid
  have ids : (done ++ [envelope]).map (fun envelope => envelope.get "messageId") =
      (seen ++ [text envelope "messageId"]).map Json.str := by
    simp [so_far.ids,named]
  refine ⟨ids,?_,?_,?_⟩
  · refine List.nodup_append.mpr ⟨so_far.distinct,List.nodup_singleton _,?_⟩
    intro id member last isLast same
    rw [List.mem_singleton.mp isLast] at same
    exact fresh (same ▸ member)
  · intro other member
    rcases List.mem_append.mp member with before | last
    · exact so_far.admitted other before
    · rw [List.mem_singleton.mp last]
      exact valid
  · intro place message found correlates
    rcases found_snoc found with before | ⟨rfl,rfl⟩
    · obtain ⟨earlier,bound,link⟩ := so_far.correlated place message before correlates
      exact ⟨earlier,bound,links_append link⟩
    · -- the message that was added: its source is among the ids, its own included
      rcases correlated with none | ⟨id,listed,names⟩
      · exact absurd none correlates
      · have held : Json.str id ∈ (done ++ [message]).map (fun envelope => envelope.get "messageId") := by
          rw [ids]
          exact List.mem_map_of_mem listed
        obtain ⟨source,inside,same⟩ := List.mem_map.mp held
        obtain ⟨earlier,atEarlier⟩ := List.mem_iff_getElem?.mp inside
        refine ⟨earlier,?_,message,source,found,atEarlier,correlates,names.trans same.symm⟩
        have bound := (List.getElem?_eq_some_iff.mp atEarlier).1
        rw [List.length_append,List.length_singleton] at bound
        omega

theorem transcript_followed {envelopes : List Dict} (ran : validate_transcript python envelopes = .ok ()) :
    ∃ seen, Followed python envelopes seen := by
  unfold validate_transcript at ran
  obtain ⟨seen,looped,_⟩ := bind_ok_iff.mp ran
  refine ⟨seen,foldlM_invariant (Followed python) ?_ ⟨rfl,List.nodup_nil,by simp,by simp⟩ looped⟩
  intro done state envelope next so_far stepped
  exact followed_entry so_far stepped

theorem transcript_linked_iff {envelopes : List Dict} (ran : validate_transcript python envelopes = .ok ()) :
    Coherent python envelopes ↔ LinksHome envelopes := by
  obtain ⟨seen,followed⟩ := transcript_followed ran
  have distinct : (envelopes.map (fun envelope => envelope.get "messageId")).Nodup := by
    rw [followed.ids]
    exact followed.distinct.map (fun _ _ same => Json.str.inj same)
  constructor
  · intro coherent place message found correlates
    refine ⟨fun own => ?_,fun earlier _ link => ?_⟩
    · -- a message that names itself is its own source for ever
      have itself : Links envelopes place place := ⟨message,message,found,found,correlates,own⟩
      exact coherent.terminates.irrefl.irrefl place itself
    · exact coherent.one_conversation place earlier (.single link)
  · intro home
    refine coherent_of_linked distinct followed.admitted (fun place message found correlates => ?_)
    obtain ⟨foreign,kept⟩ := home place message found correlates
    obtain ⟨earlier,bound,link⟩ := followed.correlated place message found correlates
    have before : earlier < place := by
      refine Nat.lt_of_le_of_ne bound ?_
      rintro rfl
      obtain ⟨same,source,found',atEarlier,_,named⟩ := link
      obtain rfl : same = source := Option.some.inj (found'.symm.trans atEarlier)
      obtain rfl : message = same := Option.some.inj (found.symm.trans found')
      exact foreign named
    exact ⟨earlier,before,link,kept earlier before link⟩

end

/-! ### A message that correlates to itself -/

def sample_request (message_id : String) (correlation : Json) : Dict :=
  sample_envelope "user_request" "user" "liaison" message_id correlation
    (.obj [("verbatimRequest",.str "Plan the migration.")])

theorem transcript_linked_iff_reply :
    Coherent sample_python [sample_request "MSG-1" .null,sample_request "MSG-2" (.str "MSG-1")] ↔
      LinksHome [sample_request "MSG-1" .null,sample_request "MSG-2" (.str "MSG-1")] :=
  transcript_linked_iff (by decide +kernel :
    validate_transcript sample_python [sample_request "MSG-1" .null,sample_request "MSG-2" (.str "MSG-1")] = .ok ())

theorem own_correlation_accepted :
    validate_transcript sample_python [sample_request "MSG-1" (.str "MSG-1")] = .ok () ∧
      ¬ Coherent sample_python [sample_request "MSG-1" (.str "MSG-1")] := by
  refine ⟨by decide +kernel,fun coherent => ?_⟩
  obtain ⟨earlier,before,_⟩ := coherent.linked 0 (sample_request "MSG-1" (.str "MSG-1")) rfl
    (by simp [sample_request,sample_envelope,Dict.get,Dict.get?])
  exact absurd before (Nat.not_lt_zero earlier)

end V3Aidlc.Transcripts
