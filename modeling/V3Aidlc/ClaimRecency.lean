import V3Aidlc.ContextBudgets

/-!
Which item represents a claim, and when it was created. The leading items of a claim are compared by
the text of their creation time, so a later instant that is spelled in another zone or with other
digits can lose to an earlier one. The representative is the latest in time exactly when no claim is
misordered (`represented_latest_iff`).
-/
namespace V3Aidlc.ClaimRecency
open V3Aidlc.Values V3Aidlc.Loops V3Aidlc.Timestamps V3Aidlc.Contracts V3Aidlc.Canonical
open V3Aidlc.ContextCompiler V3Aidlc.ContextCompilations V3Aidlc.ContextDisclosure V3Aidlc.ContextBudgets

/-- The instant at which a validated item was created. -/
def created (item : Dict) : Instant := (instant? (text item "createdAt")).getD 0

/-- The instant and then the id. -/
def moment (item : Dict) : Instant ×ₗ String := toLex (created item,text item "id")

/-- The item is of the claim and of the highest authority in it. -/
structure Leader (eligible : List Dict) (claim_key : String) (item : Dict) : Prop where
  member : item ∈ eligible
  claim : text item "claimKey" = claim_key
  leads : Leads eligible item

/-- An eligible item of the claim that no exclusion supersedes. -/
structure Represents (exclusions : List Exclusion) (eligible : List Dict) (claim_key : String) (item : Dict) :
    Prop where
  member : item ∈ eligible
  claim : text item "claimKey" = claim_key
  kept : ∀ winner, (⟨text item "id","superseded by higher-precedence " ++ winner⟩ : Exclusion) ∉ exclusions

/-- No leader of the claim was created later, or at the same instant with a greater id. -/
def Latest (eligible : List Dict) (claim_key : String) (item : Dict) : Prop :=
  Leader eligible claim_key item ∧ ∀ other, Leader eligible claim_key other → moment other ≤ moment item

/-- A leader whose spelling of its creation sorts last was created before another leader. -/
def Misordered (eligible : List Dict) (claim_key : String) : Prop :=
  ∃ early late, Leader eligible claim_key early ∧ Leader eligible claim_key late ∧
    (∀ other, Leader eligible claim_key other → recency other ≤ recency early) ∧ moment early < moment late

section
variable {eligible : List Dict} {claim_key : String}

/-- The winner of a claim is the leader whose spelling sorts last. -/
theorem wins_leader {item : Dict} (member : item ∈ eligible) (claim : text item "claimKey" = claim_key) :
    wins eligible item = true ↔ Leader eligible claim_key item ∧
      ∀ other, Leader eligible claim_key other → recency other ≤ recency item := by
  rw [wins_iff]
  unfold rank
  constructor
  · intro won
    have leads : Leads eligible item := by
      intro other inside same
      rcases Prod.Lex.toLex_le_toLex.mp (won other inside same) with less | ⟨equal,_⟩
      · exact less.le
      · exact equal.le
    refine ⟨⟨member,claim,leads⟩,?_⟩
    intro other leader
    have same : SameClaim other item := leader.claim.trans claim.symm
    rcases Prod.Lex.toLex_le_toLex.mp (won other leader.member same) with less | ⟨_,later⟩
    · exact absurd (leader.leads item member same.symm) (not_le.mpr less)
    · exact later
  · rintro ⟨leader,latest⟩ other inside same
    rw [Prod.Lex.toLex_le_toLex]
    rcases (leader.leads other inside same).lt_or_eq with less | equal
    · exact .inl less
    · refine .inr ⟨equal,latest other ⟨inside,same.trans claim,?_⟩⟩
      intro third inside' same'
      exact (leader.leads third inside' (same'.trans same)).trans equal.ge

/-- The winners are the latest in time exactly when the claim is not misordered. -/
theorem winners_latest_iff : (∀ item ∈ eligible, text item "claimKey" = claim_key → wins eligible item = true →
      Latest eligible claim_key item) ↔ ¬ Misordered eligible claim_key := by
  constructor
  · rintro latest ⟨early,late,leader,leader',last,before⟩
    have won := (wins_leader leader.member leader.claim).mpr ⟨leader,last⟩
    exact absurd ((latest early leader.member leader.claim won).2 late leader') (not_le.mpr before)
  · intro ordered item member claim won
    obtain ⟨leader,last⟩ := (wins_leader member claim).mp won
    refine ⟨leader,fun other leader' => ?_⟩
    by_contra later
    exact ordered ⟨item,other,leader,leader',last,not_le.mp later⟩

end

/-! ### Exclusions -/

section
variable {recipe run : Dict} {granted items : List Dict} {now : Instant}

theorem reason_apart (winner : String) : "superseded by higher-precedence " ++ winner ≠ "context budget exhausted" := by
  intro same
  have first := congrArg (fun s : String => s.toList.head?) same
  simp at first

/-- An item is excluded as superseded exactly when it does not win its claim. -/
theorem superseded_excluded_iff (sortable : Sortable recipe run granted now items) {item : Dict}
    (member : item ∈ eligible_items recipe run granted now items) :
    (∀ winner, (⟨text item "id","superseded by higher-precedence " ++ winner⟩ : Exclusion) ∉
      excluded_items recipe run granted now items) ↔
        wins (eligible_items recipe run granted now items) item = true := by
  have distinct := sortable_distinct sortable
  obtain ⟨listed,passed⟩ := List.mem_filter.mp member
  constructor
  · intro kept
    by_contra lost
    have some_entry : ∃ winner, superseded (eligible_items recipe run granted now items) item =
        [⟨text item "id","superseded by higher-precedence " ++ winner⟩] := by
      unfold superseded
      rw [if_neg lost]
      exact ⟨_,rfl⟩
    obtain ⟨winner,only⟩ := some_entry
    refine kept winner ?_
    refine List.mem_append_left _ (List.mem_append_right _ (List.mem_flatMap.mpr ⟨item,member,?_⟩))
    rw [only]
    exact List.mem_singleton_self _
  · intro won winner excluded
    rcases List.mem_append.mp excluded with excluded | budget
    · rcases List.mem_append.mp excluded with early | late
      · obtain ⟨other,inside,found⟩ := List.mem_filterMap.mp early
        unfold filtered at found
        cases decided : verdict recipe run granted now other with
        | error error => simp [decided] at found
        | ok reason =>
          cases reason with
          | none => simp [decided] at found
          | some reason =>
            simp only [decided,Option.some.injEq,Exclusion.mk.injEq] at found
            obtain rfl := id_apart sortable.distinct inside listed found.1
            unfold passes at passed
            simp [decided] at passed
      · obtain ⟨other,inside,found⟩ := List.mem_flatMap.mp late
        by_cases also : wins (eligible_items recipe run granted now items) other = true
        · unfold superseded at found
          rw [if_pos also] at found
          cases found
        · unfold superseded at found
          rw [if_neg also,List.mem_singleton,Exclusion.mk.injEq] at found
          obtain rfl := id_apart distinct member inside found.1
          exact also won
    · obtain ⟨_,_,same⟩ := List.mem_map.mp budget
      exact reason_apart winner (Exclusion.mk.inj same).2.symm

theorem represents_iff (sortable : Sortable recipe run granted now items) {exclusions : List Exclusion}
    (reported : ∀ exclusion, exclusion ∈ exclusions ↔ exclusion ∈ excluded_items recipe run granted now items)
    {claim_key : String} {item : Dict} :
    Represents exclusions (eligible_items recipe run granted now items) claim_key item ↔
      item ∈ eligible_items recipe run granted now items ∧ text item "claimKey" = claim_key ∧
        wins (eligible_items recipe run granted now items) item = true := by
  constructor
  · rintro ⟨member,claim,kept⟩
    refine ⟨member,claim,(superseded_excluded_iff sortable member).mp (fun winner => ?_)⟩
    rw [← reported]
    exact kept winner
  · rintro ⟨member,claim,won⟩
    refine ⟨member,claim,fun winner => ?_⟩
    rw [reported]
    exact (superseded_excluded_iff sortable member).mpr won winner

theorem reported_iff {generated_at : String} {compiled : Compilation}
    (outcome : Outcome recipe run granted now items compiled) (exclusion : Exclusion) :
    exclusion ∈ (manifest_of recipe run generated_at compiled).exclusions ↔
      exclusion ∈ excluded_items recipe run granted now items :=
  mem_sortedBy.trans outcome.exclusions.mem_iff

end

/-- In a manifest that was compiled each claim of an eligible item has one representative, and the
    representatives are the latest in time of the leaders exactly when no claim is misordered. -/
theorem represented_latest_iff {recipe run : Dict} {candidates grants : Json} {generated_at : String}
    {manifest : ContextManifest} (ran : compile_context recipe run candidates grants generated_at = .ok manifest) :
    ∃ now granted items, Compiles recipe run granted now items candidates grants generated_at ∧
      (∀ claim_key, (∃ item ∈ eligible_items recipe run granted now items, text item "claimKey" = claim_key) →
        ∃! item, Represents manifest.exclusions (eligible_items recipe run granted now items) claim_key item) ∧
      ((∀ claim_key item, Represents manifest.exclusions (eligible_items recipe run granted now items) claim_key item →
          Latest (eligible_items recipe run granted now items) claim_key item) ↔
        ∀ claim_key, ¬ Misordered (eligible_items recipe run granted now items) claim_key) := by
  obtain ⟨compiled,assembled,rfl⟩ := compile_ok.mp ran
  obtain ⟨now,granted,items,compiles,outcome⟩ := assemble_compiles assembled
  have distinct := sortable_distinct compiles.sortable
  set eligible := eligible_items recipe run granted now items with eligibleIs
  have represents : ∀ claim_key item, Represents (manifest_of recipe run generated_at compiled).exclusions eligible
      claim_key item ↔ item ∈ eligible ∧ text item "claimKey" = claim_key ∧ wins eligible item = true :=
    fun _ _ => represents_iff compiles.sortable (reported_iff outcome)
  refine ⟨now,granted,items,compiles,?_,?_⟩
  · intro claim_key claimed
    obtain ⟨winner,single⟩ := claim_won distinct claimed
    have inside : winner ∈ (eligible.filter (fun item => text item "claimKey" = claim_key)).filter (wins eligible) := by
      rw [single]; simp
    obtain ⟨claimant,won⟩ := List.mem_filter.mp inside
    obtain ⟨member,claim⟩ := List.mem_filter.mp claimant
    have claim : text winner "claimKey" = claim_key := by simpa using claim
    refine ⟨winner,(represents claim_key winner).mpr ⟨member,claim,won⟩,?_⟩
    intro other representsOther
    obtain ⟨otherMember,otherClaim,otherWon⟩ := (represents claim_key other).mp representsOther
    exact winner_unique distinct otherMember member (otherClaim.trans claim.symm) otherWon won
  · refine forall_congr' (fun claim_key => ?_)
    rw [← winners_latest_iff]
    refine forall_congr' (fun item => ?_)
    rw [represents]
    tauto

/-! ### Two items of one claim -/

def earlier_item : Dict := sample_secret "S" "token"

/-- An hour later. -/
def later_item : Dict := (sample_secret "T" "token").set "createdAt" (.str "2026-01-01T01:00:00Z")

theorem later_leads : moment earlier_item < moment later_item ∧ recency earlier_item < recency later_item := by
  constructor <;> decide +kernel

theorem represented_latest_later : ∃ manifest now, compile_context sample_recipe sample_run
      (.arr [.obj later_item,.obj earlier_item]) (.arr [.obj (sample_grant "S"),.obj (sample_grant "T")])
      "2026-01-01T02:00:00Z" = .ok manifest ∧
    eligible_items sample_recipe sample_run [sample_grant "S",sample_grant "T"] now [later_item,earlier_item] =
      [later_item,earlier_item] ∧
    Represents manifest.exclusions [later_item,earlier_item] "token" later_item ∧
    Latest [later_item,earlier_item] "token" later_item := by
  have returns : (assemble sample_recipe sample_run (.arr [.obj later_item,.obj earlier_item])
      (.arr [.obj (sample_grant "S"),.obj (sample_grant "T")]) "2026-01-01T02:00:00Z").toOption.any
        (fun _ => true) = true := by decide +kernel
  obtain ⟨compiled,assembled,_⟩ := returns_with returns
  have ran := compile_ok.mpr ⟨compiled,assembled,rfl⟩
  obtain ⟨now,granted,items,compiles,single,latest⟩ := represented_latest_iff ran
  have grantedIs : granted = [sample_grant "S",sample_grant "T"] := listed_dicts compiles.prepared.listed
  have itemsAre : items = [later_item,earlier_item] := listed_dicts compiles.candidates_listed
  subst grantedIs itemsAre
  have passed : (ContextCompiler.parse_time (.str "2026-01-01T02:00:00Z") "generatedAt").toOption.all (fun now =>
      passes sample_recipe sample_run [sample_grant "S",sample_grant "T"] now later_item &&
        passes sample_recipe sample_run [sample_grant "S",sample_grant "T"] now earlier_item) = true := by decide +kernel
  rw [compiles.prepared.generated] at passed
  obtain ⟨first,second⟩ := Bool.and_eq_true_iff.mp passed
  have both : eligible_items sample_recipe sample_run [sample_grant "S",sample_grant "T"] now
      [later_item,earlier_item] = [later_item,earlier_item] := by
    unfold eligible_items
    rw [List.filter_cons_of_pos first,List.filter_cons_of_pos second,List.filter_nil]
  rw [both] at single latest
  obtain ⟨after,sorts⟩ := later_leads
  have ordered : ∀ claim_key, ¬ Misordered [later_item,earlier_item] claim_key := by
    rintro claim_key ⟨early,late,leads,leads',last,before⟩
    rcases List.mem_pair.mp leads.member with rfl | rfl <;> rcases List.mem_pair.mp leads'.member with rfl | rfl
    · exact absurd before (lt_irrefl _)
    · exact absurd before after.asymm
    · exact absurd (last _ leads') sorts.not_ge
    · exact absurd before (lt_irrefl _)
  obtain ⟨item,represents,_⟩ := single "token" ⟨later_item,by simp,rfl⟩
  have isLatest := latest.mpr ordered "token" item represents
  have leader : Leader [later_item,earlier_item] "token" later_item := by
    refine ⟨by simp,rfl,?_⟩
    intro other inside _
    rcases List.mem_pair.mp inside with rfl | rfl <;> decide +kernel
  rcases List.mem_pair.mp represents.member with rfl | rfl
  · exact ⟨_,now,ran,both,represents,isLatest⟩
  · exact absurd (isLatest.2 later_item leader) after.not_ge

/-! ### Two spellings of time -/

/-- Nine in the morning in a zone nine hours ahead: midnight. -/
def midnight_item : Dict := (sample_secret "S" "token").set "createdAt" (.str "2026-01-01T09:00:00+09:00")

/-- The item of midnight represents the claim, and the later one is excluded. -/
theorem midnight_represents : ∃ manifest now, compile_context sample_recipe sample_run
      (.arr [.obj midnight_item,.obj later_item]) (.arr [.obj (sample_grant "S"),.obj (sample_grant "T")])
      "2026-01-01T02:00:00Z" = .ok manifest ∧
    ContextCompiler.parse_time (.str "2026-01-01T02:00:00Z") "generatedAt" = .ok now ∧
    ∃ eligible, eligible = eligible_items sample_recipe sample_run [sample_grant "S",sample_grant "T"] now
        [midnight_item,later_item] ∧
      Represents manifest.exclusions eligible "token" midnight_item ∧ ¬ Latest eligible "token" midnight_item := by
  have returns : (assemble sample_recipe sample_run (.arr [.obj midnight_item,.obj later_item])
      (.arr [.obj (sample_grant "S"),.obj (sample_grant "T")]) "2026-01-01T02:00:00Z").toOption.any
        (fun _ => true) = true := by decide +kernel
  obtain ⟨compiled,assembled,_⟩ := returns_with returns
  obtain ⟨now,granted,items,compiles,outcome⟩ := assemble_compiles assembled
  have grantedIs : granted = [sample_grant "S",sample_grant "T"] := listed_dicts compiles.prepared.listed
  have itemsAre : items = [midnight_item,later_item] := listed_dicts compiles.candidates_listed
  subst grantedIs itemsAre
  have time := compiles.prepared.generated
  have passed : (ContextCompiler.parse_time (.str "2026-01-01T02:00:00Z") "generatedAt").toOption.all (fun now =>
      passes sample_recipe sample_run [sample_grant "S",sample_grant "T"] now midnight_item &&
        passes sample_recipe sample_run [sample_grant "S",sample_grant "T"] now later_item) = true := by decide +kernel
  rw [time] at passed
  obtain ⟨first,second⟩ := Bool.and_eq_true_iff.mp passed
  have both : eligible_items sample_recipe sample_run [sample_grant "S",sample_grant "T"] now
      [midnight_item,later_item] = [midnight_item,later_item] := by
    unfold eligible_items
    rw [List.filter_cons_of_pos first,List.filter_cons_of_pos second,List.filter_nil]
  have won : wins [midnight_item,later_item] midnight_item = true := by decide +kernel
  refine ⟨_,now,compile_ok.mpr ⟨compiled,assembled,rfl⟩,time,_,rfl,?_,?_⟩
  · rw [represents_iff compiles.sortable (reported_iff outcome),both]
    exact ⟨by simp,rfl,won⟩
  · rw [both]
    rintro ⟨_,latest⟩
    have leader : Leader [midnight_item,later_item] "token" later_item := by
      refine ⟨by simp,rfl,?_⟩
      intro other inside _
      simp only [List.mem_cons,List.not_mem_nil,or_false] at inside
      rcases inside with rfl | rfl <;> decide +kernel
    have after : created midnight_item < created later_item := by decide +kernel
    rcases Prod.Lex.toLex_le_toLex.mp (latest later_item leader) with less | ⟨equal,_⟩
    · exact absurd less (lt_asymm after)
    · exact absurd equal after.ne'

end V3Aidlc.ClaimRecency
