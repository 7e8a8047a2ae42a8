import V3Aidlc.CiEvidence

/-!
The CI gate over collected evidence. A record counts for a required check when it starts with
the name of the check, so that a check named `build: docs` counts for `build`, and only the
first such record is read: reruns and records of other revisions hide each other by their
order. The gate decides by the required checks alone, in every order, exactly when neither
happens (`ci_gate_iff`).
-/
namespace V3Aidlc.CiGates
open V3Aidlc.Loops V3Aidlc.WorkPackages V3Aidlc.ProjectLead V3Aidlc.Verification V3Aidlc.FirstMatches V3Aidlc.Groups
open V3Aidlc.CiEvidence

/-! ### Polls -/

/-- One call of `collectCiEvidence`: the answer of the client is that of this moment. -/
structure Poll where
  listChecks : ListChecks
  repository : String
  pullRequest : PullRequestSnapshot
  workPackageId : String
  now : Option Int
  clock : Int

def Poll.collect (poll : Poll) : Except Thrown (List VerificationEvidence) :=
  collectCiEvidence poll.listChecks poll.repository poll.pullRequest poll.workPackageId poll.now poll.clock

/-- A check, as a poll saw it. -/
structure Observation where
  poll : Poll
  check : CheckSnapshot

def Observation.record (seen : Observation) : VerificationEvidence :=
  check_evidence seen.poll.workPackageId seen.poll.now seen.poll.clock seen.check

/-- The checks that the client lists. -/
def Poll.observations (poll : Poll) : List Observation :=
  match poll.listChecks poll.repository poll.pullRequest.headRevision with
  | .ok checks => checks.map (fun check => ⟨poll,check⟩)
  | .error _ => []

/-- A poll that returns has a record of each check it saw. -/
theorem collect_records {poll : Poll} {evidence : List VerificationEvidence} (ran : poll.collect = .ok evidence) :
    evidence = poll.observations.map Observation.record := by
  unfold Poll.collect collectCiEvidence at ran
  rw [bind_ok_iff] at ran
  obtain ⟨checks,listed,made⟩ := ran
  have each : List.Forall₂ (fun check record =>
      record = check_evidence poll.workPackageId poll.now poll.clock check) checks evidence := by
    refine (mapM_ok_iff.mp made).imp (fun check record returned => ?_)
    by_cases other : check.headRevision = poll.pullRequest.headRevision
    · simp only [other,ne_eq,not_true_eq_false,if_false] at returned
      exact (pure_ok_iff.mp returned).symm
    · simp [other] at returned
  have records : poll.observations.map Observation.record =
      checks.map (check_evidence poll.workPackageId poll.now poll.clock) := by
    unfold Poll.observations
    rw [listed,List.map_map]
    rfl
  rw [records]
  clear listed made records
  induction each with
  | nil => rfl
  | cons first _ ih => rw [List.map_cons,← first,← ih]

theorem polls_records {polls : List Poll} {parts : List (List VerificationEvidence)}
    (ran : polls.mapM Poll.collect = .ok parts) :
    parts.flatten = (polls.flatMap Poll.observations).map Observation.record := by
  have each := mapM_ok_iff.mp ran
  clear ran
  induction each with
  | nil => rfl
  | cons first _ ih =>
    rw [List.flatten_cons,List.flatMap_cons,List.map_append,← ih,collect_records first]

/-! ### What a required check finds -/

/-- The record of the check is taken for one of the required name. -/
def found (name : String) (check : CheckSnapshot) : Prop :=
  check.name = name ∨ (name ++ ": ").toList <+: check.name.toList

/-- A check of the required name at the head. -/
def own (name headRevision : String) (check : CheckSnapshot) : Prop :=
  check.name = name ∧ check.headRevision = headRevision

def succeeded (check : CheckSnapshot) : Prop := check.status = .completed ∧ check.conclusion = some .success

/-- The check counts as passed. -/
def passes (name headRevision : String) (check : CheckSnapshot) : Prop :=
  own name headRevision check ∧ succeeded check

/-- The check counts as failed: it has another name, or has completed without success. -/
def fails (name : String) (check : CheckSnapshot) : Prop :=
  check.name ≠ name ∨ check.status = .completed ∧ check.conclusion ≠ some .success

/-- The check counts as undecided: it has not completed, or has succeeded at another revision. -/
def waits (name headRevision : String) (check : CheckSnapshot) : Prop :=
  check.name = name ∧ (check.status ≠ .completed ∨ succeeded check ∧ check.headRevision ≠ headRevision)

instance (name : String) (check : CheckSnapshot) : Decidable (found name check) :=
  inferInstanceAs (Decidable (_ ∨ _))
instance (name headRevision : String) (check : CheckSnapshot) : Decidable (own name headRevision check) :=
  inferInstanceAs (Decidable (_ ∧ _))
instance (check : CheckSnapshot) : Decidable (succeeded check) := inferInstanceAs (Decidable (_ ∧ _))
instance (name headRevision : String) (check : CheckSnapshot) : Decidable (passes name headRevision check) :=
  inferInstanceAs (Decidable (_ ∧ _))
instance (name : String) (check : CheckSnapshot) : Decidable (fails name check) := inferInstanceAs (Decidable (_ ∨ _))
instance (name headRevision : String) (check : CheckSnapshot) : Decidable (waits name headRevision check) :=
  inferInstanceAs (Decidable (_ ∧ _))

/-- What a check counts for, once its record is found. -/
def counts (name headRevision : String) (check : CheckSnapshot) : Outcome :=
  if fails name check then .failed else if passes name headRevision check then .passed else .inconclusive

/-- What the first found check of the list counts for. -/
def first_counts (name headRevision : String) (seen : List Observation) : Outcome :=
  match seen.find? (fun one => found name one.check) with
  | none => .inconclusive
  | some one => counts name headRevision one.check

section
variable {name headRevision : String} {check : CheckSnapshot}

theorem own_found (this : own name headRevision check) : found name check := .inl this.1

theorem counts_failed_iff : counts name headRevision check = .failed ↔ fails name check := by
  unfold counts
  by_cases failing : fails name check
  · simp [failing]
  · by_cases passing : passes name headRevision check
    · simp [failing,passing]
    · simp [failing,passing]

theorem counts_passed_iff : counts name headRevision check = .passed ↔ passes name headRevision check := by
  unfold counts
  by_cases passing : passes name headRevision check
  · have sound : ¬ fails name check := by
      rintro (other | ⟨_,bad⟩)
      · exact other passing.1.1
      · exact bad passing.2.2
    simp [passing,sound]
  · by_cases failing : fails name check
    · simp [failing,passing]
    · simp [failing,passing]

theorem counts_inconclusive_iff : counts name headRevision check = .inconclusive ↔ waits name headRevision check := by
  have failed : counts name headRevision check = .failed ↔ fails name check := counts_failed_iff
  have passed : counts name headRevision check = .passed ↔ passes name headRevision check := counts_passed_iff
  have third : counts name headRevision check = .inconclusive ↔
      ¬ fails name check ∧ ¬ passes name headRevision check := by
    rw [← failed,← passed]
    cases counts name headRevision check <;> simp
  rw [third]
  unfold fails passes own waits succeeded
  by_cases named : check.name = name
  · by_cases complete : check.status = .completed
    · by_cases success : check.conclusion = some .success
      · simp [named,complete,success]
      · simp [named,complete,success]
    · simp [named,complete]
  · simp [named]

/-! ### The texts of records -/

theorem assertion_pending_iff : assertion check = "pending" ↔ check.status ≠ .completed := by
  unfold assertion
  by_cases complete : check.status = .completed
  · by_cases success : check.conclusion = some .success
    · simp [complete,success]
    · cases concluded : check.conclusion with
      | none => simp [complete]
      | some conclusion => cases conclusion <;> simp [complete,CiConclusion.text]
  · simp [complete]

theorem assertion_passed_iff : assertion check = "passed" ↔ succeeded check := by
  unfold assertion succeeded
  by_cases complete : check.status = .completed
  · by_cases success : check.conclusion = some .success
    · simp [complete,success]
    · cases concluded : check.conclusion with
      | none => simp [complete]
      | some conclusion => cases conclusion <;> simp [complete,CiConclusion.text]
  · simp [complete]

/-- No result of a check has a colon. -/
theorem assertion_plain (check : CheckSnapshot) : ':' ∉ (assertion check).toList := by
  have conclusions : ∀ conclusion : CiConclusion, ':' ∉ conclusion.text.toList := by
    intro conclusion
    cases conclusion <;> decide
  unfold assertion
  by_cases complete : check.status = .completed
  · by_cases success : check.conclusion = some .success
    · simp [complete,success]
    · cases concluded : check.conclusion with
      | none => simp [complete]
      | some conclusion =>
        have other : conclusion ≠ .success := by
          rintro rfl
          exact success concluded
        simpa [complete,other] using conclusions conclusion
  · simp [complete]

theorem starts_found_iff : starts_with (name ++ ": ") (check.name ++ ": " ++ assertion check) = true ↔
    found name check := by
  have separators : ": ".toList = [':',' '] := rfl
  unfold starts_with found
  rw [List.isPrefixOf_iff_prefix]
  simp only [String.toList_append,separators]
  rw [label_prefix_iff (by decide) (assertion_plain check),String.toList_inj,eq_comm]

/-- The text of a record is that of a name and a plain result exactly when both are. -/
theorem text_iff {result : String} (plain : ':' ∉ result.toList) :
    check.name ++ ": " ++ assertion check = name ++ ": " ++ result ↔ check.name = name ∧ assertion check = result := by
  have separators : ": ".toList = [':',' '] := rfl
  constructor
  · intro same
    have texts := congrArg String.toList same
    simp only [String.toList_append,separators] at texts
    obtain ⟨names,results⟩ := labelled_injective (by decide) (assertion_plain check) plain texts
    exact ⟨String.toList_inj.mp names,String.toList_inj.mp results⟩
  · rintro ⟨rfl,rfl⟩
    rfl

theorem record_counts {seen : Observation} (here : found name seen.check) :
    record_outcome name headRevision seen.record = counts name headRevision seen.check := by
  have first : seen.record.assertions.find? (starts_with (name ++ ": ")) =
      some (seen.check.name ++ ": " ++ assertion seen.check) := by
    unfold Observation.record check_evidence
    exact List.find?_cons_of_pos (starts_found_iff.mpr here)
  have pending : seen.check.name ++ ": " ++ assertion seen.check = name ++ ": pending" ↔
      seen.check.name = name ∧ seen.check.status ≠ .completed := by
    have joined : name ++ ": pending" = name ++ ": " ++ "pending" := by rw [String.append_assoc]; rfl
    rw [joined,text_iff (by decide),assertion_pending_iff]
  have passed : seen.check.name ++ ": " ++ assertion seen.check = name ++ ": passed" ↔
      seen.check.name = name ∧ succeeded seen.check := by
    have joined : name ++ ": passed" = name ++ ": " ++ "passed" := by rw [String.append_assoc]; rfl
    rw [joined,text_iff (by decide),assertion_passed_iff]
  have revision : seen.record.subjectRevision = seen.check.headRevision := rfl
  unfold record_outcome
  rw [first]
  simp only [Option.some.injEq,pending,passed,revision,ne_eq,not_and,counts,fails,passes,own,succeeded]
  by_cases named : seen.check.name = name
  · by_cases complete : seen.check.status = .completed
    · by_cases success : seen.check.conclusion = some .success
      · simp [named,complete,success]
      · simp [named,complete,success]
    · simp [named,complete]
  · simp [named]

/-- A required check counts for what the first check that is found counts for. -/
theorem check_outcome_records (seen : List Observation) :
    check_outcome name headRevision (seen.map Observation.record) = first_counts name headRevision seen := by
  have search : find_record name (seen.map Observation.record) =
      (seen.find? (fun one => found name one.check)).map Observation.record := by
    unfold find_record
    rw [List.find?_map]
    congr 2
    funext one
    have same : starts_with (name ++ ": ") (one.check.name ++ ": " ++ assertion one.check) = true ↔
        found name one.check :=
      starts_found_iff
    rw [Bool.eq_iff_iff]
    simpa [Observation.record,check_evidence] using same
  unfold check_outcome first_counts
  rw [search]
  cases first : seen.find? (fun one => found name one.check) with
  | none => rfl
  | some one => exact record_counts (by simpa using List.find?_some first)

end

/-! ### Orders of the evidence -/

section
variable {required : List String} {name headRevision : String} {seen order : List Observation}

theorem gate_records_failed :
    (evaluateCiGate required headRevision (seen.map Observation.record)).outcome = .failed ↔
      ∃ name ∈ required, first_counts name headRevision seen = .failed := by
  rw [gate_failed_iff]
  exact exists_congr (fun name => and_congr_right (fun _ => by rw [check_outcome_records]))

theorem gate_records_passed :
    (evaluateCiGate required headRevision (seen.map Observation.record)).outcome = .passed ↔
      ∀ name ∈ required, first_counts name headRevision seen = .passed := by
  rw [gate_passed_iff]
  exact forall₂_congr (fun name _ => by rw [check_outcome_records])

theorem gate_records_single :
    (evaluateCiGate [name] headRevision (seen.map Observation.record)).outcome =
      first_counts name headRevision seen := by
  rw [gate_single,check_outcome_records]

/-- Where all that is found counts for the same, the first that is found does. -/
theorem first_counts_all {outcome : Outcome} (some_found : ∃ one ∈ seen, found name one.check)
    (all : ∀ one ∈ seen, found name one.check → counts name headRevision one.check = outcome) :
    first_counts name headRevision seen = outcome := by
  unfold first_counts
  cases first : seen.find? (fun one => found name one.check) with
  | none =>
    obtain ⟨one,member,here⟩ := some_found
    have := List.find?_eq_none.mp first one member
    simp [here] at this
  | some one =>
    exact all one (List.mem_of_find?_eq_some first) (by simpa using List.find?_some first)

/-- The first that is found is one of those found, or nothing is. -/
theorem first_counts_cases (name headRevision : String) (seen : List Observation) :
    (∀ one ∈ seen, ¬ found name one.check) ∧ first_counts name headRevision seen = .inconclusive ∨
      ∃ one ∈ seen, found name one.check ∧
        first_counts name headRevision seen = counts name headRevision one.check := by
  unfold first_counts
  cases first : seen.find? (fun one => found name one.check) with
  | none => exact .inl ⟨fun one member => by simpa using List.find?_eq_none.mp first one member,rfl⟩
  | some one =>
    exact .inr ⟨one,List.mem_of_find?_eq_some first,by simpa using List.find?_some first,rfl⟩

theorem first_counts_cons {one : Observation} (here : found name one.check) (rest : List Observation) :
    first_counts name headRevision (one :: rest) = counts name headRevision one.check := by
  unfold first_counts
  rw [List.find?_cons_of_pos (by simpa using here)]

/-- A check that is found has the name or a longer one, so that the shortest have the name. -/
theorem found_same_length {check : CheckSnapshot} (here : found name check) (short : check.name.length ≤ name.length) :
    check.name = name := by
  rcases here with named | start
  · exact named
  · have := start.length_le
    have separators : ": ".length = 2 := rfl
    rw [String.length_toList,String.length_toList,String.length_append,separators] at this
    omega

/-- Some order shows, under every name at once, a good check of this very name where there is
    one. -/
theorem fair_order (good : CheckSnapshot → Prop) [DecidablePred good] (seen : List Observation) :
    ∃ order, seen.Perm order ∧ ∀ name headRevision, (∃ one ∈ seen, one.check.name = name ∧ good one.check) →
      ∃ one ∈ seen, one.check.name = name ∧ good one.check ∧
        first_counts name headRevision order = counts name headRevision one.check := by
  let key : Observation → Nat := fun one => 2 * one.check.name.length + if good one.check then 0 else 1
  obtain ⟨order,moved,least⟩ := least_first key seen
  refine ⟨order,moved,?_⟩
  rintro name headRevision ⟨kept,member,named,fits⟩
  cases first : order.find? (fun one => found name one.check) with
  | none =>
    have := List.find?_eq_none.mp first kept (moved.mem_iff.mp member)
    simp [found,named] at this
  | some one =>
    have here : found name one.check := by simpa using List.find?_some first
    have small := least _ one first kept member (by simp [found,named])
    simp only [key,named,fits,if_true] at small
    have same : one.check.name = name := found_same_length here (by split at small <;> omega)
    have fit : good one.check := by
      by_contra bad
      rw [same,if_neg bad] at small
      omega
    refine ⟨one,moved.mem_iff.mpr (List.mem_of_find?_eq_some first),same,fit,?_⟩
    unfold first_counts
    rw [first]

end

/-! ### What the gate should decide -/

/-- Every required check was seen at the head, and only with success. -/
def Satisfied (required : List String) (headRevision : String) (seen : List Observation) : Prop :=
  ∀ name ∈ required, (∃ one ∈ seen, own name headRevision one.check) ∧
    ∀ one ∈ seen, own name headRevision one.check → succeeded one.check

/-- The gate decides by the required checks at the head, whatever the order of the evidence, and
    no other check satisfies, fails or hides one of them. -/
structure Decides (required : List String) (headRevision : String) (seen : List Observation)
    (evidence : List VerificationEvidence) : Prop where
  promotable : (evaluateCiGate required headRevision evidence).promotable = true ↔ Satisfied required headRevision seen
  ordered : ∀ other, evidence.Perm other →
    (evaluateCiGate required headRevision other).outcome = (evaluateCiGate required headRevision evidence).outcome
  alone : ∀ order, seen.Perm order → ∀ name ∈ required,
    (evaluateCiGate [name] headRevision (order.map Observation.record)).outcome =
      (evaluateCiGate [name] headRevision
        ((order.filter (fun one => own name headRevision one.check)).map Observation.record)).outcome

/-- What is found under the name is its own checks at the head, or is all undecided, or is all
    failed with one of its own. -/
def Undisturbed (name headRevision : String) (seen : List Observation) : Prop :=
  (∀ one ∈ seen, found name one.check → own name headRevision one.check) ∨
    (∀ one ∈ seen, found name one.check → waits name headRevision one.check) ∨
      (∀ one ∈ seen, found name one.check → fails name one.check) ∧ ∃ one ∈ seen, own name headRevision one.check

/-- All that is found has passed; or a name finds failed checks only; or no name finds a failed
    check, and one finds none that has passed. -/
def Agreed (required : List String) (headRevision : String) (seen : List Observation) : Prop :=
  (∀ name ∈ required, (∃ one ∈ seen, found name one.check) ∧
      ∀ one ∈ seen, found name one.check → passes name headRevision one.check) ∨
    (∃ name ∈ required, (∃ one ∈ seen, found name one.check) ∧
      ∀ one ∈ seen, found name one.check → fails name one.check) ∨
    (∀ name ∈ required, ∀ one ∈ seen, found name one.check → ¬ fails name one.check) ∧
      ∃ name ∈ required, ∀ one ∈ seen, found name one.check → ¬ passes name headRevision one.check

section
variable {required : List String} {headRevision : String} {seen : List Observation}

/-! ### One required check -/

theorem filter_own {name : String} {order : List Observation}
    (only : ∀ one ∈ order, found name one.check → own name headRevision one.check) :
    first_counts name headRevision (order.filter (fun one => own name headRevision one.check)) =
      first_counts name headRevision order := by
  induction order with
  | nil => rfl
  | cons one rest ih =>
    obtain ⟨here,later⟩ := List.forall_mem_cons.mp only
    by_cases mine : own name headRevision one.check
    · rw [List.filter_cons_of_pos (by simpa using mine),first_counts_cons (own_found mine),
        first_counts_cons (own_found mine)]
    · have unseen : ¬ found name one.check := fun this => mine (here this)
      rw [List.filter_cons_of_neg (by simpa using mine),ih later]
      unfold first_counts
      rw [List.find?_cons_of_neg (by simpa using unseen)]

/-- A check that is not the name's own counts for what the first of its own counts for. -/
theorem stranger_counts {name : String}
    (alone : ∀ order, seen.Perm order → first_counts name headRevision order =
      first_counts name headRevision (order.filter (fun one => own name headRevision one.check)))
    {stranger mine : Observation} (member : stranger ∈ seen) (here : found name stranger.check)
    (other : ¬ own name headRevision stranger.check) (inside : mine ∈ seen)
    (owned : own name headRevision mine.check) :
    counts name headRevision stranger.check = counts name headRevision mine.check := by
  obtain ⟨rest,moved⟩ := perm_pair member inside (by rintro rfl; exact other owned)
  have same := alone _ moved
  rw [first_counts_cons here,List.filter_cons_of_neg (by simpa using other),
    List.filter_cons_of_pos (by simpa using owned),first_counts_cons (own_found owned)] at same
  exact same

theorem undisturbed_iff {name : String} :
    (∀ order, seen.Perm order → first_counts name headRevision order =
      first_counts name headRevision (order.filter (fun one => own name headRevision one.check))) ↔
      Undisturbed name headRevision seen := by
  constructor
  · intro alone
    by_cases only : ∀ one ∈ seen, found name one.check → own name headRevision one.check
    · exact .inl only
    · push Not at only
      obtain ⟨stranger,member,here,other⟩ := only
      refine .inr ?_
      by_cases owns : ∃ mine ∈ seen, own name headRevision mine.check
      · obtain ⟨mine,inside,owned⟩ := owns
        -- All that is found counts for what the stranger counts for.
        have all : ∀ one ∈ seen, found name one.check →
            counts name headRevision one.check = counts name headRevision stranger.check := by
          intro one at_ this
          by_cases its : own name headRevision one.check
          · exact (stranger_counts alone member here other at_ its).symm
          · exact (stranger_counts alone at_ this its inside owned).trans
              (stranger_counts alone member here other inside owned).symm
        cases outcome : counts name headRevision stranger.check with
        | passed => exact absurd (counts_passed_iff.mp outcome).1 other
        | failed =>
          exact .inr ⟨fun one at_ this => counts_failed_iff.mp ((all one at_ this).trans outcome),mine,inside,owned⟩
        | inconclusive =>
          exact .inl (fun one at_ this => counts_inconclusive_iff.mp ((all one at_ this).trans outcome))
      · refine .inl (fun one at_ this => counts_inconclusive_iff.mp ?_)
        obtain ⟨rest,moved⟩ := perm_first at_
        have same := alone _ moved
        have none : (one :: rest).filter (fun one => own name headRevision one.check) = [] := by
          refine List.filter_eq_nil_iff.mpr (fun mine inside => ?_)
          simpa using fun owned => owns ⟨mine,moved.mem_iff.mpr inside,owned⟩
        rw [none,first_counts_cons this] at same
        exact same
  · rintro (only | waiting | ⟨failing,mine,inside,owned⟩) order moved
    · exact (filter_own (fun one member => only one (moved.mem_iff.mpr member))).symm
    · have undecided : ∀ some : List Observation, some ⊆ seen →
        first_counts name headRevision some = .inconclusive := by
        intro some kept
        rcases first_counts_cases name headRevision some with ⟨_,same⟩ | ⟨one,member,here,same⟩
        · exact same
        · exact same.trans (counts_inconclusive_iff.mpr (waiting one (kept member) here))
      have inside := moved.symm.subset
      rw [undecided _ inside,undecided _ (List.Subset.trans (List.filter_subset_self _) inside)]
    · have all : ∀ one ∈ order, found name one.check → counts name headRevision one.check = .failed :=
        fun one member here => counts_failed_iff.mpr (failing one (moved.mem_iff.mpr member) here)
      have kept := moved.mem_iff.mp inside
      rw [first_counts_all ⟨mine,kept,own_found owned⟩ all,
        first_counts_all ⟨mine,List.mem_filter.mpr ⟨kept,by simpa using owned⟩,own_found owned⟩
          (fun one member => all one (List.mem_filter.mp member).1)]

/-! ### All required checks -/

theorem first_moved (headRevision : String) {name : String} {one : Observation} (member : one ∈ seen)
    (here : found name one.check) :
    ∃ order, seen.Perm order ∧ first_counts name headRevision order = counts name headRevision one.check := by
  obtain ⟨rest,moved⟩ := perm_first member
  exact ⟨one :: rest,moved,first_counts_cons here rest⟩

/-- The outcome of the gate over the records of the observations. -/
def verdict (required : List String) (headRevision : String) (seen : List Observation) : Outcome :=
  (evaluateCiGate required headRevision (seen.map Observation.record)).outcome

theorem agreed_of_stable
    (stable : ∀ order, seen.Perm order → verdict required headRevision order = verdict required headRevision seen) :
    Agreed required headRevision seen := by
  cases outcome : verdict required headRevision seen with
  | passed =>
    refine .inl (fun name needed => ⟨?_,fun one member here => ?_⟩)
    · have passed := gate_records_passed.mp outcome name needed
      rcases first_counts_cases name headRevision seen with ⟨_,same⟩ | ⟨one,member,here,_⟩
      · rw [passed] at same
        cases same
      · exact ⟨one,member,here⟩
    · obtain ⟨order,moved,same⟩ := first_moved headRevision member here
      have passed := gate_records_passed.mp ((stable order moved).trans outcome) name needed
      exact counts_passed_iff.mp (same.symm.trans passed)
  | failed =>
    refine .inr (.inl ?_)
    by_contra spared
    -- Otherwise some order shows a check that has not failed under every name.
    obtain ⟨order,moved,fair⟩ := fair_order (fun check => ¬ fails check.name check) seen
    obtain ⟨name,needed,failed⟩ := gate_records_failed.mp ((stable order moved).trans outcome)
    rcases first_counts_cases name headRevision order with ⟨_,same⟩ | ⟨one,member,here,_⟩
    · rw [failed] at same
      cases same
    · have kept : ∃ one ∈ seen, found name one.check ∧ ¬ fails name one.check := by
        by_contra none
        push Not at none
        exact spared ⟨name,needed,⟨one,moved.mem_iff.mpr member,here⟩,none⟩
      obtain ⟨other,inside,_,sound⟩ := kept
      have named : other.check.name = name := by
        by_contra differs
        exact sound (.inl differs)
      obtain ⟨shown,_,same,fits,first⟩ := fair name headRevision ⟨other,inside,named,by rw [named]; exact sound⟩
      rw [failed,same] at *
      exact fits (counts_failed_iff.mp first.symm)
  | inconclusive =>
    refine .inr (.inr ⟨fun name needed one member here failing => ?_,?_⟩)
    · obtain ⟨order,moved,same⟩ := first_moved headRevision member here
      have failed := gate_records_failed.mpr ⟨name,needed,same.trans (counts_failed_iff.mpr failing)⟩
      cases (failed.symm.trans ((stable order moved).trans outcome))
    · by_contra every
      push Not at every
      -- Every name finds a check that has passed, and some order shows them all.
      obtain ⟨order,moved,fair⟩ := fair_order (fun check => passes check.name headRevision check) seen
      have passed : verdict required headRevision order = .passed := by
        refine gate_records_passed.mpr (fun name needed => ?_)
        obtain ⟨one,member,_,passing⟩ := every name needed
        have named : one.check.name = name := passing.1.1
        obtain ⟨shown,_,same,fits,first⟩ := fair name headRevision ⟨one,member,named,by rw [named]; exact passing⟩
        rw [same] at fits
        exact first.trans (counts_passed_iff.mpr fits)
      cases (passed.symm.trans ((stable order moved).trans outcome))

/-- Where the condition holds the outcome is one for all orders, and passed exactly when the
    required checks are satisfied. -/
theorem agreed_verdict (agreed : Agreed required headRevision seen) :
    ∃ outcome, (∀ order, seen.Perm order → verdict required headRevision order = outcome) ∧
      (outcome = .passed ↔ Satisfied required headRevision seen) := by
  rcases agreed with passing | ⟨name,needed,⟨seen_one,inside,shown⟩,failing⟩ | ⟨sound,name,needed,unpassed⟩
  · refine ⟨.passed,fun order moved => gate_records_passed.mpr (fun name needed => ?_),iff_of_true rfl ?_⟩
    · obtain ⟨⟨one,member,here⟩,all⟩ := passing name needed
      exact first_counts_all ⟨one,moved.mem_iff.mp member,here⟩
        (fun other at_ this => counts_passed_iff.mpr (all other (moved.mem_iff.mpr at_) this))
    · intro name needed
      obtain ⟨⟨one,member,here⟩,all⟩ := passing name needed
      exact ⟨⟨one,member,(all one member here).1⟩,fun other at_ mine => (all other at_ (own_found mine)).2⟩
  · refine ⟨.failed,fun order moved => gate_records_failed.mpr ⟨name,needed,?_⟩,iff_of_false (by simp) ?_⟩
    · exact first_counts_all ⟨seen_one,moved.mem_iff.mp inside,shown⟩
        (fun other at_ this => counts_failed_iff.mpr (failing other (moved.mem_iff.mpr at_) this))
    · intro satisfied
      obtain ⟨⟨one,member,mine⟩,all⟩ := satisfied name needed
      rcases failing one member (own_found mine) with other | ⟨_,bad⟩
      · exact other mine.1
      · exact bad (all one member mine).2
  · refine ⟨.inconclusive,fun order moved => ?_,iff_of_false (by simp) ?_⟩
    · cases outcome : verdict required headRevision order with
      | inconclusive => rfl
      | failed =>
        obtain ⟨other,also,failed⟩ := gate_records_failed.mp outcome
        rcases first_counts_cases other headRevision order with ⟨_,same⟩ | ⟨one,member,here,same⟩
        · rw [failed] at same
          cases same
        · exact absurd (counts_failed_iff.mp (same.symm.trans failed))
            (sound other also one (moved.mem_iff.mpr member) here)
      | passed =>
        have passed := gate_records_passed.mp outcome name needed
        rcases first_counts_cases name headRevision order with ⟨_,same⟩ | ⟨one,member,here,same⟩
        · rw [passed] at same
          cases same
        · exact absurd (counts_passed_iff.mp (same.symm.trans passed)) (unpassed one (moved.mem_iff.mpr member) here)
    · intro satisfied
      obtain ⟨⟨one,member,mine⟩,all⟩ := satisfied name needed
      exact unpassed one member (own_found mine) ⟨mine,all one member mine⟩

end

section
variable {polls : List Poll} {parts : List (List VerificationEvidence)}

/-- The gate over the evidence of any polls decides by the required checks at the head exactly
    when no other check disturbs one of them and the first match decides in no case. -/
theorem ci_gate_iff (ran : polls.mapM Poll.collect = .ok parts) (required : List String) (headRevision : String) :
    Decides required headRevision (polls.flatMap Poll.observations) parts.flatten ↔
      (∀ name ∈ required, Undisturbed name headRevision (polls.flatMap Poll.observations)) ∧
        Agreed required headRevision (polls.flatMap Poll.observations) := by
  rw [polls_records ran]
  constructor
  · rintro ⟨_,ordered,alone⟩
    refine ⟨fun name needed => undisturbed_iff.mp (fun order moved => ?_),
      agreed_of_stable (fun order moved => ordered _ (moved.map _))⟩
    have same := alone order moved name needed
    rwa [gate_records_single,gate_records_single] at same
  · rintro ⟨undisturbed,agreed⟩
    obtain ⟨outcome,stable,passed⟩ := agreed_verdict agreed
    have here := stable _ (List.Perm.refl _)
    refine ⟨?_,?_,?_⟩
    · rw [gate_promotable_iff,← passed,← here]
      rfl
    · intro other moved
      obtain ⟨order,rfl,also⟩ := perm_map moved
      exact (stable order also).trans here.symm
    · intro order moved name needed
      rw [gate_records_single,gate_records_single]
      exact undisturbed_iff.mpr (undisturbed name needed) order moved

end

/-! A check of another name, and a rerun. -/

def listed_check (id name : String) (conclusion : CiConclusion) : CheckSnapshot where
  id := id
  name := name
  url := "https://github.test/checks/1"
  headRevision := "head"
  status := .completed
  conclusion := some conclusion
  completedAt := some 0

def head_poll (checks : List CheckSnapshot) : Poll where
  listChecks := fun _ _ => .ok checks
  repository := "owner/repo"
  pullRequest := ⟨"head"⟩
  workPackageId := "WP-1"
  now := none
  clock := 0

theorem head_observations (checks : List CheckSnapshot) :
    [head_poll checks].flatMap Poll.observations = checks.map (fun check => ⟨head_poll checks,check⟩) := by
  simp [Poll.observations,head_poll]

theorem head_polls {checks : List CheckSnapshot} (head : ∀ check ∈ checks, check.headRevision = "head") :
    [head_poll checks].mapM Poll.collect = .ok [(head_poll checks).observations.map Observation.record] := by
  have records : (head_poll checks).observations.map Observation.record =
      checks.map (check_evidence "WP-1" none 0) := by
    unfold Poll.observations head_poll
    rw [List.map_map]
    rfl
  have collected : (head_poll checks).collect = .ok (checks.map (check_evidence "WP-1" none 0)) := by
    unfold Poll.collect collectCiEvidence head_poll
    rw [ok_bind,mapM_ok_iff,List.forall₂_map_right_iff,List.forall₂_same]
    intro check member
    simp [head check member]
  rw [records,mapM_ok_iff]
  exact .cons collected .nil

/-- A failure that comes after a success is not read, and a check named `build: docs` is taken
    for `build`. -/
theorem rerun_hidden :
    let rerun := [head_poll [listed_check "1" "build" .success,listed_check "2" "build" .failure]]
    let stranger := [head_poll [listed_check "1" "build: docs" .success,listed_check "2" "build" .success]]
    (∃ parts, rerun.mapM Poll.collect = .ok parts ∧
      (evaluateCiGate ["build"] "head" parts.flatten).promotable = true ∧
      ¬ Decides ["build"] "head" (rerun.flatMap Poll.observations) parts.flatten) ∧
    ∃ parts, stranger.mapM Poll.collect = .ok parts ∧
      (evaluateCiGate ["build"] "head" parts.flatten).outcome = .failed ∧
      ¬ Decides ["build"] "head" (stranger.flatMap Poll.observations) parts.flatten := by
  intro rerun stranger
  refine ⟨⟨_,head_polls (by decide),?_⟩,_,head_polls (by decide),?_⟩
  · have promotable : (evaluateCiGate ["build"] "head" (List.flatten
        [(head_poll [listed_check "1" "build" .success,listed_check "2" "build" .failure]).observations.map
          Observation.record])).promotable = true := by
      rw [gate_promotable_iff,List.flatten_singleton,gate_records_single]
      decide
    refine ⟨promotable,fun decides => ?_⟩
    have unsatisfied : ¬ Satisfied ["build"] "head" (rerun.flatMap Poll.observations) := by
      rw [head_observations]
      unfold Satisfied
      decide
    exact unsatisfied (decides.promotable.mp promotable)
  · have failed : (evaluateCiGate ["build"] "head" (List.flatten
        [(head_poll [listed_check "1" "build: docs" .success,listed_check "2" "build" .success]).observations.map
          Observation.record])).outcome = .failed := by
      rw [List.flatten_singleton,gate_records_single]
      decide
    refine ⟨failed,fun decides => ?_⟩
    have satisfied : Satisfied ["build"] "head" (stranger.flatMap Poll.observations) := by
      rw [head_observations]
      unfold Satisfied
      decide
    have passed := gate_promotable_iff.mp (decides.promotable.mpr satisfied)
    rw [failed] at passed
    cases passed

/-- Two required checks beside one that is not required. -/
def two_checks (lint : CiConclusion) : List CheckSnapshot :=
  [listed_check "1" "docs" .failure,listed_check "2" "lint" lint,listed_check "3" "build" .success]

theorem ci_gate_iff_two :
    Decides ["build","lint"] "head" ([head_poll (two_checks .success)].flatMap Poll.observations)
      (List.flatten [(head_poll (two_checks .success)).observations.map Observation.record]) ∧
    Decides ["build","lint"] "head" ([head_poll (two_checks .failure)].flatMap Poll.observations)
      (List.flatten [(head_poll (two_checks .failure)).observations.map Observation.record]) := by
  have passes := (ci_gate_iff (head_polls (by decide)) ["build","lint"] "head" :
    Decides _ _ ([head_poll (two_checks .success)].flatMap Poll.observations) _ ↔ _)
  have fails := (ci_gate_iff (head_polls (by decide)) ["build","lint"] "head" :
    Decides _ _ ([head_poll (two_checks .failure)].flatMap Poll.observations) _ ↔ _)
  rw [head_observations] at passes fails
  unfold Undisturbed at passes fails
  rw [head_observations,head_observations]
  exact ⟨passes.mpr ⟨by decide,.inl (by decide)⟩,fails.mpr ⟨by decide,.inr (.inl (by decide))⟩⟩

end V3Aidlc.CiGates
