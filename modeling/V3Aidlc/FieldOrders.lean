import V3Aidlc.Relays
import V3Aidlc.JoinedTexts
import V3Aidlc.FirstMatches
import V3Aidlc.Encodings

/-!
The text of a message for the user against the order in which its fields are joined. An internal id
lies within one field, and so does a jargon term of one word. A term of two words can lie across two
fields when one is joined after the other, and the order of a set is up to the process
(`order_independent_iff`).
-/
namespace V3Aidlc.FieldOrders
open V3Aidlc.Values V3Aidlc.Loops V3Aidlc.Contracts V3Aidlc.Canonical V3Aidlc.ConversationalGateway
open V3Aidlc.PrefixCodes V3Aidlc.JoinedTexts V3Aidlc.FirstMatches V3Aidlc.Encodings V3Aidlc.Relays

/-- A blank is no word character, and `str.lower` works on both sides of one by itself. -/
structure Spaced (python : Interpreter) : Prop where
  boundary : python.is_word ' ' = false
  lowered : ∀ front back, python.lower (front ++ " " ++ back) = python.lower front ++ " " ++ python.lower back

/-- The same process with another order of the set. -/
def reordered (python : Interpreter) (order : List String) (perm : order.Perm USER_MESSAGE_FIELDS) : Interpreter :=
  { python with order := order, order_perm := perm }

/-! ### Internal ids -/

section
variable {python : Interpreter}

theorem id_run_joint (spaced : Spaced python) (previous : Char) (front back : List Char) :
    id_run python previous (front ++ ' ' :: back) = id_run python previous front := by
  have stops : isIdChar ' ' = false := by decide
  induction front generalizing previous with
  | nil => simp [id_run,stops,word_boundary,spaced.boundary]
  | cons c front ih => rw [List.cons_append,id_run,id_run,ih]

/-- Where the rest of a text has the alternative `kind` of the pattern, and what follows it. -/
theorem id_here_iff {text : List Char} : id_here python text = true ↔
    ∃ kind ∈ INTERNAL_ID_KINDS, ∃ c rest, text = (kind.toList ++ ['-']) ++ c :: rest ∧ isIdChar c = true ∧
      id_run python c rest = true := by
  unfold id_here
  rw [List.any_eq_true]
  refine exists_congr (fun kind => and_congr_right (fun _ => ?_))
  have length : kind.length + 1 = (kind.toList ++ ['-']).length := by
    rw [List.length_append,String.length_toList,List.length_singleton]
  rw [length]
  by_cases starts : (kind.toList ++ ['-']) <+: text
  · obtain ⟨tail,rfl⟩ := starts
    rw [List.isPrefixOf_iff_prefix.mpr (List.prefix_append _ _),List.drop_left]
    cases tail with
    | nil => simp
    | cons c tail =>
      simp only [Bool.and_eq_true,List.append_cancel_left_eq,List.cons.injEq]
      constructor
      · exact fun both => ⟨c,tail,⟨rfl,rfl⟩,both⟩
      · rintro ⟨_,_,⟨rfl,rfl⟩,both⟩
        exact both
  · have absent : (kind.toList ++ ['-']).isPrefixOf text = false := by
      rwa [← Bool.not_eq_true,List.isPrefixOf_iff_prefix]
    rw [absent]
    simp only [Bool.false_eq_true,false_iff]
    rintro ⟨c,rest,rfl,_⟩
    exact starts (List.prefix_append _ _)

theorem kinds_unspaced : ∀ kind ∈ INTERNAL_ID_KINDS, ' ' ∉ kind.toList ++ ['-'] := by decide

theorem id_here_joint (spaced : Spaced python) (front back : List Char) :
    id_here python (front ++ ' ' :: back) = id_here python front := by
  rw [Bool.eq_iff_iff,id_here_iff,id_here_iff]
  refine exists_congr (fun kind => and_congr_right (fun known => ?_))
  constructor
  · rintro ⟨c,rest,split,isId,run⟩
    obtain ⟨tail,rfl⟩ := (prefix_joint_iff (kinds_unspaced kind known)).mp ⟨c :: rest,split.symm⟩
    rw [List.append_assoc,List.append_cancel_left_eq] at split
    cases tail with
    | nil =>
      obtain ⟨rfl,_⟩ := List.cons.inj split
      exact absurd isId (by decide)
    | cons d tail =>
      rw [List.cons_append] at split
      obtain ⟨rfl,rfl⟩ := List.cons.inj split
      rw [id_run_joint spaced] at run
      exact ⟨d,tail,rfl,isId,run⟩
  · rintro ⟨c,rest,rfl,isId,run⟩
    exact ⟨c,rest ++ ' ' :: back,by simp,isId,(id_run_joint spaced c rest back).trans run⟩

/-- A blank before a text is like its start. -/
theorem id_search_blank (spaced : Spaced python) (text : List Char) :
    id_search python (some ' ') text = id_search python none text := by
  cases text with
  | nil => rfl
  | cons c text => simp [id_search,word_boundary,spaced.boundary]

theorem id_search_joint (spaced : Spaced python) (previous : Option Char) (front back : List Char) :
    id_search python previous (front ++ ' ' :: back) =
      (id_search python previous front || id_search python none back) := by
  induction front generalizing previous with
  | nil =>
    have none_here : id_here python ([] ++ ' ' :: back) = id_here python [] := id_here_joint spaced [] back
    have empty : id_here python [] = false := by
      rw [← Bool.not_eq_true,id_here_iff]
      rintro ⟨kind,_,c,rest,same,_⟩
      simp at same
    have opened : id_search python previous ([] ++ ' ' :: back) =
        (word_boundary python previous (some ' ') && id_here python ([] ++ ' ' :: back) ||
          id_search python (some ' ') back) := rfl
    rw [opened,none_here,empty,id_search_blank spaced]
    simp [id_search]
  | cons c front ih =>
    have here : id_here python (c :: (front ++ ' ' :: back)) = id_here python (c :: front) :=
      id_here_joint spaced (c :: front) back
    rw [List.cons_append,id_search,id_search,ih,here,Bool.or_assoc]

/-- An id of the joined text lies within one part. -/
theorem id_search_separated (spaced : Spaced python) (parts : List (List Char)) :
    id_search python none (separated ' ' parts) = parts.any (id_search python none) := by
  rw [Bool.eq_iff_iff,List.any_eq_true]
  refine separated_iff (p := fun text => id_search python none text = true) (by simp [id_search]) (fun front back => ?_)
  rw [id_search_joint spaced,Bool.or_eq_true]

/-! ### Jargon -/

theorem lower_join (spaced : Spaced python) (part : String) (parts : List String) :
    python.lower (join " " (part :: parts)) = join " " ((part :: parts).map python.lower) := by
  induction parts generalizing part with
  | nil => rfl
  | cons next parts ih =>
    have joined : join " " (part :: next :: parts) = part ++ " " ++ join " " (next :: parts) := rfl
    rw [joined,spaced.lowered,ih]
    rfl

/-- A term of two words lies across two texts, where the second is joined after the first. -/
def Across (python : Interpreter) (front back : String) : Prop :=
  ∃ x y, x ++ " " ++ y ∈ INTERNAL_JARGON ∧ x.toList <:+ (python.lower front).toList ∧
    y.toList <+: (python.lower back).toList

/-- Terms have one word or two. -/
theorem jargon_words : ∀ term ∈ INTERNAL_JARGON, (' ' ∉ term.toList ∧ term.toList ≠ []) ∨
    ∃ x y, term = x ++ " " ++ y ∧ ' ' ∉ x.toList ∧ ' ' ∉ y.toList := by
  intro term known
  simp only [INTERNAL_JARGON,List.mem_cons,List.not_mem_nil,or_false] at known
  rcases known with rfl | rfl | rfl | rfl | rfl | rfl
  · exact .inl (by decide)
  · exact .inr ⟨"work","package",by decide⟩
  · exact .inr ⟨"route","instance",by decide⟩
  · exact .inl (by decide)
  · exact .inr ⟨"canonical","state",by decide⟩
  · exact .inr ⟨"policy","predicate",by decide⟩

theorem used_jargon_iff {combined : String} : used_jargon python combined ≠ [] ↔
    ∃ term ∈ INTERNAL_JARGON, term.toList <:+: (python.lower combined).toList := by
  unfold used_jargon
  rw [ne_eq,sorted_nil,List.filter_eq_nil_iff]
  simp only [decide_eq_true_eq,not_forall,not_not,exists_prop]

theorem two_words (x y : String) : (x ++ " " ++ y).toList = x.toList ++ ' ' :: y.toList := by simp

/-- The halves of a term of two words have one word each. -/
theorem halves_plain {x y : String} (known : x ++ " " ++ y ∈ INTERNAL_JARGON) : ' ' ∉ x.toList ∧ ' ' ∉ y.toList := by
  rcases jargon_words _ known with ⟨plain,_⟩ | ⟨x',y',same,plain⟩
  · rw [two_words] at plain
    exact absurd (by simp) plain
  · have texts : x'.toList ++ ' ' :: y'.toList = x.toList ++ ' ' :: y.toList := by
      rw [← two_words,← two_words,same]
    obtain ⟨first,second⟩ := halves_unique plain texts
    rwa [← first,← second]

/-- A term of the joined text lies within a part or across two neighbours. -/
theorem jargon_joined (spaced : Spaced python) {parts : List String} (filled : parts ≠ []) :
    used_jargon python (join " " parts) ≠ [] ↔ (∃ part ∈ parts, used_jargon python part ≠ []) ∨
      ∃ front back, Neighbours parts front back ∧ Across python front back := by
  have joined : (python.lower (join " " parts)).toList =
      separated ' ' ((parts.map python.lower).map String.toList) := by
    obtain ⟨part,rest,rfl⟩ := List.exists_cons_of_ne_nil filled
    have single : " ".toList = [' '] := rfl
    rw [lower_join spaced,join_separated single]
  have within : ∀ text : List Char, (∃ part ∈ (parts.map python.lower).map String.toList, text <:+: part) ↔
      ∃ part ∈ parts, text <:+: (python.lower part).toList := by
    intro text
    simp only [List.mem_map,exists_exists_and_eq_and]
  rw [used_jargon_iff,joined]
  simp only [used_jargon_iff]
  constructor
  · rintro ⟨term,known,found⟩
    rcases jargon_words term known with ⟨plain,some⟩ | ⟨x,y,rfl,plain⟩
    · obtain ⟨part,member,inside⟩ := (within _).mp ((plain_separated_iff plain some).mp found)
      exact .inl ⟨part,member,term,known,inside⟩
    · rw [two_words,halves_separated_iff plain,within] at found
      rcases found with ⟨part,member,inside⟩ | ⟨front,back,near,ends,starts⟩
      · exact .inl ⟨part,member,_,known,by rwa [two_words]⟩
      · rw [List.map_map] at near
        obtain ⟨first,second,beside,rfl,rfl⟩ := neighbours_map near
        exact .inr ⟨first,second,beside,x,y,known,ends,starts⟩
  · rintro (⟨part,member,term,known,inside⟩ | ⟨front,back,near,x,y,known,ends,starts⟩)
    · rcases jargon_words term known with ⟨plain,some⟩ | ⟨x,y,rfl,plain⟩
      · exact ⟨term,known,(plain_separated_iff plain some).mpr ((within _).mpr ⟨part,member,inside⟩)⟩
      · refine ⟨_,known,?_⟩
        rw [two_words] at inside ⊢
        exact (halves_separated_iff plain).mpr (.inl ((within _).mpr ⟨part,member,inside⟩))
    · refine ⟨_,known,?_⟩
      rw [two_words,halves_separated_iff (halves_plain known),List.map_map]
      exact .inr ⟨_,_,near.map _,ends,starts⟩

/-! ### The order of the fields -/

/-- The four fields hold text. -/
def Complete (payload : Dict) : Prop := ∀ key ∈ USER_MESSAGE_FIELDS, filled (payload.get key) = true

/-- A text has an internal id or a jargon term, as the code looks for them. -/
def Internal (python : Interpreter) (s : String) : Prop :=
  id_search python none s.toList = true ∨ used_jargon python s ≠ []

theorem internal_joined (spaced : Spaced python) {parts : List String} (filled : parts ≠ []) :
    Internal python (join " " parts) ↔ (∃ part ∈ parts, Internal python part) ∨
      ∃ front back, Neighbours parts front back ∧ Across python front back := by
  have single : " ".toList = [' '] := rfl
  have ids : id_search python none (join " " parts).toList = true ↔
      ∃ part ∈ parts, id_search python none part.toList = true := by
    rw [join_separated single,id_search_separated spaced,List.any_map,List.any_eq_true]
    rfl
  unfold Internal
  rw [ids,jargon_joined spaced filled]
  simp only [and_or_left,exists_or,or_assoc]

/-- Rejected for an internal id or for jargon. -/
def RejectedInternals (result : Py Unit) : Prop :=
  result = gateway_error "Internal IDs must not appear in primary user-facing text" ∨
    ∃ used, result = gateway_error ("Unexplained framework jargon in user-facing text: " ++ displayList used)

/-- What the rest of the message needs, once its text is admitted. -/
def validate_rest (payload : Dict) (kind : MessageKind) : Py Unit :=
  if kind = .DECISION_REQUEST then validate_decision_request payload else return

theorem filled_text {payload : Dict} {key : String} (holds : filled (payload.get key) = true) :
    payload.has key = true ∧ user_text payload key = .ok (text payload key) := by
  unfold user_text Dict.has text
  unfold Dict.get at *
  cases found : Dict.get? key payload with
  | none => simp [found,filled] at holds
  | some value =>
    rw [found,Option.getD_some] at holds
    cases value with
    | str s =>
      unfold filled at holds
      rw [Bool.not_eq_true'] at holds
      simp [holds,Json.str?]
    | _ => cases holds

/-- What is left of the validation when the text is complete. -/
theorem validate_joined {payload : Dict} (complete : Complete payload) (kind : MessageKind) :
    validate_user_message python payload kind = (do
      ConversationalGateway.reject (id_search python none (join " " (python.order.map (text payload))).toList)
        "Internal IDs must not appear in primary user-facing text"
      ConversationalGateway.reject (!(used_jargon python (join " " (python.order.map (text payload)))).isEmpty)
        ("Unexplained framework jargon in user-facing text: " ++
          displayList (used_jargon python (join " " (python.order.map (text payload)))))
      validate_rest payload kind) := by
  have held : missing_keys USER_MESSAGE_FIELDS payload = [] :=
    missing_keys_nil.mpr (fun key known => (filled_text (complete key known)).1)
  have texts : python.order.mapM (user_text payload) = .ok (python.order.map (text payload)) := by
    rw [mapM_ok_iff,List.forall₂_map_right_iff,List.forall₂_same]
    exact fun key known => (filled_text (complete key (python.order_perm.mem_iff.mp known))).2
  unfold validate_user_message
  rw [held,texts]
  rfl

/-- A message whose text is complete is rejected for what its joined text holds, or judged by the
    rest of it. -/
theorem validate_complete {payload : Dict} (complete : Complete payload) (kind : MessageKind) :
    (Internal python (join " " (python.order.map (text payload))) ∧
      RejectedInternals (validate_user_message python payload kind)) ∨
    (¬ Internal python (join " " (python.order.map (text payload))) ∧
      validate_user_message python payload kind = validate_rest payload kind) := by
  rw [validate_joined complete]
  unfold Internal
  cases ids : id_search python none (join " " (python.order.map (text payload))).toList with
  | true => exact .inl ⟨.inl rfl,.inl rfl⟩
  | false =>
    by_cases jargon : used_jargon python (join " " (python.order.map (text payload))) = []
    · refine .inr ⟨by simp [jargon],?_⟩
      rw [jargon]
      rfl
    · refine .inl ⟨.inr jargon,.inr ⟨used_jargon python (join " " (python.order.map (text payload))),?_⟩⟩
      have listed : (used_jargon python (join " " (python.order.map (text payload)))).isEmpty = false := by
        rwa [← Bool.not_eq_true,List.isEmpty_iff]
      rw [listed]
      rfl

/-- What a decision request is rejected for. -/
def DECISION_MESSAGES : List String :=
  ["A decision request must provide two to four options","Each decision option needs id, label, and tradeoff",
    "An evidence-supported decision request must include a recommendation"]

/-- Accepted, or rejected with a message about the decision request. -/
def JudgesDecision (result : Py Unit) : Prop := result = .ok () ∨
    ∃ message ∈ DECISION_MESSAGES, result = gateway_error message

theorem judges_reject {message : String} (known : message ∈ DECISION_MESSAGES) (condition : Bool) :
    JudgesDecision (ConversationalGateway.reject condition message) := by
  cases condition with
  | true => exact .inr ⟨message,known,rfl⟩
  | false => exact .inl rfl

theorem judges_bind {first : Py Unit} {next : Unit → Py Unit} (begins : JudgesDecision first)
    (goes : JudgesDecision (next ())) : JudgesDecision (first >>= next) := by
  rcases begins with rfl | ⟨message,known,rfl⟩
  · exact goes
  · exact .inr ⟨message,known,rfl⟩

theorem judges_options (options : List Json) : JudgesDecision (options.forM validate_option) := by
  induction options with
  | nil => exact .inl rfl
  | cons option rest ih =>
    refine judges_bind ?_ ih
    unfold validate_option
    cases option.dict? with
    | none => exact .inr ⟨_,by simp [DECISION_MESSAGES],rfl⟩
    | some fields => exact judges_reject (by simp [DECISION_MESSAGES]) _

theorem judges_request (payload : Dict) : JudgesDecision (validate_decision_request payload) := by
  unfold validate_decision_request
  cases (payload.get "options").list? with
  | none => exact .inr ⟨"A decision request must provide two to four options",by simp [DECISION_MESSAGES],rfl⟩
  | some options =>
    refine judges_bind ?_ (judges_bind (judges_options options) ?_)
    · exact judges_reject (by simp [DECISION_MESSAGES]) _
    · exact judges_reject (by simp [DECISION_MESSAGES]) _

/-- The rest of a message is never rejected for internal ids or jargon. -/
theorem rest_elsewhere (payload : Dict) (kind : MessageKind) : ¬ RejectedInternals (validate_rest payload kind) := by
  have judged : JudgesDecision (validate_rest payload kind) := by
    unfold validate_rest
    split
    · exact judges_request payload
    · exact .inl rfl
  intro rejected
  rcases judged with accepted | ⟨message,known,same⟩
  · rw [accepted] at rejected
    rcases rejected with ids | ⟨_,jargon⟩
    · cases ids
    · cases jargon
  · rw [same] at rejected
    simp only [DECISION_MESSAGES,List.mem_cons,List.not_mem_nil,or_false] at known
    rcases rejected with ids | ⟨used,jargon⟩
    · have texts : message = "Internal IDs must not appear in primary user-facing text" := by
        simpa [gateway_error,fail] using ids
      subst texts
      simp at known
    · have texts : message = "Unexplained framework jargon in user-facing text: " ++ displayList used := by
        simpa [gateway_error,fail] using jargon
      have first := congrArg (fun s => s.toList.head?) texts
      rcases known with rfl | rfl | rfl <;> simp at first

/-! ### The verdict -/

/-- The verdict is the same in every order, and a message whose text is complete is rejected for
    internal ids or jargon exactly when a single field has some. -/
structure OrderFree (python : Interpreter) (payload : Dict) (kind : MessageKind) : Prop where
  verdict : ∀ order perm order' perm', validate_user_message (reordered python order perm) payload kind = .ok () ↔
    validate_user_message (reordered python order' perm') payload kind = .ok ()
  fieldwise : Complete payload → ∀ order perm,
    (RejectedInternals (validate_user_message (reordered python order perm) payload kind) ↔
      ∃ key ∈ USER_MESSAGE_FIELDS, Internal python (text payload key))

/-- No field has internal ids or jargon, but a term lies across two of them. -/
structure Straddled (python : Interpreter) (payload : Dict) : Prop where
  complete : Complete payload
  clean : ∀ key ∈ USER_MESSAGE_FIELDS, ¬ Internal python (text payload key)
  across : ∃ key ∈ USER_MESSAGE_FIELDS, ∃ other ∈ USER_MESSAGE_FIELDS, key ≠ other ∧
    Across python (text payload key) (text payload other)

theorem fields_apart : USER_MESSAGE_FIELDS.Nodup := by decide

/-- What the joined text holds in one order. -/
theorem internal_ordered (spaced : Spaced python) (payload : Dict) (order : List String)
    (perm : order.Perm USER_MESSAGE_FIELDS) :
    Internal python (join " " (order.map (text payload))) ↔
      (∃ key ∈ USER_MESSAGE_FIELDS, Internal python (text payload key)) ∨
        ∃ key other, Neighbours order key other ∧ Across python (text payload key) (text payload other) := by
  have some : order.map (text payload) ≠ [] := by
    intro none
    have empty := perm.length_eq
    rw [List.map_eq_nil_iff.mp none] at empty
    cases empty
  rw [internal_joined spaced some]
  constructor
  · rintro (⟨_,member,internal⟩ | ⟨_,_,near,across⟩)
    · obtain ⟨key,inside,rfl⟩ := List.mem_map.mp member
      exact .inl ⟨key,perm.mem_iff.mp inside,internal⟩
    · obtain ⟨key,other,beside,rfl,rfl⟩ := neighbours_map near
      exact .inr ⟨key,other,beside,across⟩
  · rintro (⟨key,known,internal⟩ | ⟨key,other,near,across⟩)
    · exact .inl ⟨_,List.mem_map_of_mem (perm.mem_iff.mpr known),internal⟩
    · exact .inr ⟨_,_,near.map _,across⟩

/-- What a text holds does not depend on the order of the set. -/
theorem internal_reordered (order : List String) (perm : order.Perm USER_MESSAGE_FIELDS) (s : String) :
    Internal (reordered python order perm) s ↔ Internal python s := by
  have run : id_run (reordered python order perm) = id_run python := by
    funext previous text
    induction text generalizing previous with
    | nil => rfl
    | cons c text ih =>
      rw [id_run,id_run,ih]
      rfl
  have here : id_here (reordered python order perm) = id_here python := by
    funext text
    unfold id_here
    rw [run]
  have search : id_search (reordered python order perm) = id_search python := by
    funext previous text
    induction text generalizing previous with
    | nil => rfl
    | cons c text ih =>
      rw [id_search,id_search,ih,here]
      rfl
  unfold Internal
  rw [search]
  exact Iff.rfl

/-- How a message whose text is complete is judged in one order. -/
theorem judged_ordered (spaced : Spaced python) {payload : Dict} (complete : Complete payload) (kind : MessageKind)
    (order : List String) (perm : order.Perm USER_MESSAGE_FIELDS) :
    (RejectedInternals (validate_user_message (reordered python order perm) payload kind) ↔
      (∃ key ∈ USER_MESSAGE_FIELDS, Internal python (text payload key)) ∨
        ∃ key other, Neighbours order key other ∧ Across python (text payload key) (text payload other)) ∧
    (validate_user_message (reordered python order perm) payload kind = .ok () ↔
      ¬ RejectedInternals (validate_user_message (reordered python order perm) payload kind) ∧
        validate_rest payload kind = .ok ()) := by
  rw [← internal_ordered spaced payload order perm]
  have accepted : ¬ RejectedInternals (.ok ()) := by
    rintro (ids | ⟨_,jargon⟩)
    · cases ids
    · cases jargon
  have same := @internal_reordered python order perm (join " " (order.map (text payload)))
  rcases @validate_complete (reordered python order perm) payload complete kind with
    ⟨internal,rejected⟩ | ⟨plain,rest⟩
  · refine ⟨⟨fun _ => same.mp internal,fun _ => rejected⟩,?_,fun both => absurd rejected both.1⟩
    intro passed
    rw [passed] at rejected
    exact absurd rejected accepted
  · rw [rest]
    have elsewhere := rest_elsewhere payload kind
    exact ⟨⟨fun rejected => absurd rejected elsewhere,fun internal => absurd (same.mpr internal) plain⟩,
      fun passed => ⟨elsewhere,passed⟩,fun both => both.2⟩

/-- A message without a complete text is accepted in no order. -/
theorem incomplete_refused {payload : Dict} (incomplete : ¬ Complete payload) (kind : MessageKind) :
    validate_user_message python payload kind ≠ .ok () := by
  intro passed
  unfold validate_user_message at passed
  simp only [bind_ok_iff] at passed
  obtain ⟨_,_,texts,read,_⟩ := passed
  refine incomplete (fun key known => ?_)
  obtain ⟨s,_,held⟩ := forall₂_left (mapM_ok_iff.mp read) key (python.order_perm.mem_iff.mpr known)
  unfold user_text at held
  cases value : payload.get key with
  | str s =>
    rw [value] at held
    cases empty : blank s with
    | true => simp [empty,gateway_error] at held
    | false => simp [filled,empty]
  | _ => simp [value,gateway_error] at held

/-- The verdict does not depend on the order of the fields, and is that of the single fields, unless
    a term of two words lies across two fields and no field has internal ids or jargon itself. -/
theorem order_independent_iff (python : Interpreter) (spaced : Spaced python) (payload : Dict) (kind : MessageKind) :
    OrderFree python payload kind ↔ ¬ Straddled python payload := by
  constructor
  · rintro free ⟨complete,clean,key,known,other,otherKnown,apart,across⟩
    obtain ⟨rest,moved⟩ := perm_pair known otherKnown apart
    have judged := judged_ordered spaced complete kind (key :: other :: rest) moved.symm
    have rejected := judged.1.mpr (.inr ⟨key,other,⟨[],rest,rfl⟩,across⟩)
    obtain ⟨field,member,internal⟩ := (free.fieldwise complete _ moved.symm).mp rejected
    exact clean field member internal
  · intro straight
    by_cases complete : Complete payload
    · have fieldwise : ∀ order perm, RejectedInternals
        (validate_user_message (reordered python order perm) payload kind) ↔
          ∃ key ∈ USER_MESSAGE_FIELDS, Internal python (text payload key) := by
        intro order perm
        rw [(judged_ordered spaced complete kind order perm).1]
        refine ⟨?_,.inl⟩
        rintro (internal | ⟨key,other,near,across⟩)
        · exact internal
        · by_contra clean
          have distinct : order.Nodup := perm.nodup_iff.mpr fields_apart
          exact straight ⟨complete,fun field member internal => clean ⟨field,member,internal⟩,key,
            perm.mem_iff.mp near.left,other,perm.mem_iff.mp near.right,near.ne distinct,across⟩
      refine ⟨fun order perm order' perm' => ?_,fun _ => fieldwise⟩
      rw [(judged_ordered spaced complete kind order perm).2,(judged_ordered spaced complete kind order' perm').2,
        fieldwise,fieldwise]
    · refine ⟨fun order perm order' perm' => ?_,fun whole => absurd whole complete⟩
      exact iff_of_false (incomplete_refused complete kind) (incomplete_refused complete kind)

end

/-! A term of two words that one order makes. -/

theorem sample_spaced : Spaced sample_python where
  boundary := by decide
  lowered front back := by
    refine String.toList_inj.mp ?_
    show ((front ++ " " ++ back).map Char.toLower).toList =
      ((front.map Char.toLower) ++ " " ++ (back.map Char.toLower)).toList
    simp

def split_message : Dict :=
  [("headline",.str "The team starts to work"),("explanation",.str "Package updates are ready."),
    ("impact",.str "None."),("actionNeeded",.str "None.")]

theorem order_independent_iff_split : OrderFree sample_python split_message .PROGRESS_UPDATE ↔
    ¬ Straddled sample_python split_message :=
  order_independent_iff sample_python sample_spaced split_message .PROGRESS_UPDATE

theorem turned_fields : ["explanation","headline","impact","actionNeeded"].Perm USER_MESSAGE_FIELDS := .swap _ _ _

theorem split_message_depends : ¬ OrderFree sample_python split_message .PROGRESS_UPDATE := by
  intro free
  have refused : ¬ validate_user_message (reordered sample_python USER_MESSAGE_FIELDS (.refl _)) split_message
      .PROGRESS_UPDATE = .ok () := by
    decide +kernel
  have accepted : validate_user_message (reordered sample_python _ turned_fields) split_message
      .PROGRESS_UPDATE = .ok () := by
    decide +kernel
  exact refused ((free.verdict _ turned_fields _ _).mp accepted)

end V3Aidlc.FieldOrders
