import V3Aidlc.ContextDisclosure

/-!
What does not matter for a context. The candidates and the grants may come in any order, and
candidates that a filter excludes may be added or left out: the selection and its digest are
the same and each candidate is accounted for once (`compile_context_invariants`,
`ignored_added`).
-/
namespace V3Aidlc.ContextPermutations
open V3Aidlc.Values V3Aidlc.Loops V3Aidlc.Timestamps V3Aidlc.Contracts V3Aidlc.Canonical
open V3Aidlc.ContextCompiler V3Aidlc.Greedy
open V3Aidlc.Groups V3Aidlc.ContextCompilations V3Aidlc.ContextDisclosure

/-! ### The order of the grants -/

section
variable {recipe run : Dict} {granted others : List Dict} {now : Instant}

/-- The grant is for the item and has not expired. -/
def grants_now (item run : Dict) (now : Instant) (grant : Dict) : Bool :=
  grant_covers grant item run && (ContextCompiler.parse_time (grant.get "expiresAt") "expiresAt").toOption.any
    (fun expires => now ≤ expires)

theorem grant_expires {grant : Dict} (valid : validate_disclosure_grant grant = .ok ()) :
    ∃ expires, ContextCompiler.parse_time (grant.get "expiresAt") "expiresAt" = .ok expires := by
  unfold validate_disclosure_grant at valid
  simp only [bind_ok_iff] at valid
  obtain ⟨_,_,_,_,_,_,_,_,_,_,_,_,expires,parsed,_⟩ := valid
  exact ⟨expires,parsed⟩

/-- Among valid grants it does not matter which comes first. -/
theorem has_grant_any (item : Dict) (valid : ∀ grant ∈ granted, validate_disclosure_grant grant = .ok ()) :
    has_grant item run now granted = .ok (granted.any (grants_now item run now)) := by
  induction granted with
  | nil => rfl
  | cons grant granted ih =>
    have later := ih (fun other member => valid other (by simp [member]))
    obtain ⟨expires,parsed⟩ := grant_expires (valid grant (by simp))
    have here : grants_now item run now grant = (grant_covers grant item run && decide (now ≤ expires)) := by
      unfold grants_now
      rw [parsed]
      rfl
    unfold has_grant
    rw [valid grant (by simp),ok_bind,List.any_cons,here]
    by_cases covers : grant_covers grant item run = true
    · rw [if_pos covers,parsed,ok_bind,covers]
      by_cases current : now ≤ expires
      · rw [if_pos current]
        simp [current,pure,Except.pure]
      · rw [if_neg current,later]
        simp [current]
    · rw [if_neg covers,later]
      simp [covers]

theorem verdict_perm (valid : ∀ grant ∈ granted, validate_disclosure_grant grant = .ok ())
    (same : granted.Perm others) :
    verdict recipe run granted now = verdict recipe run others now := by
  funext item
  have valid' : ∀ grant ∈ others, validate_disclosure_grant grant = .ok () :=
    fun grant member => valid grant (same.mem_iff.mpr member)
  have discloses : disclosed item run granted now = disclosed item run others now := by
    unfold disclosed
    rw [has_grant_any item valid,has_grant_any item valid',same.any_eq]
  unfold verdict filters
  rw [discloses]

end

/-! ### The order of the candidates -/

section
variable {recipe : Dict} {left right : List Dict}

theorem wins_perm (same : left.Perm right) : wins left = wins right := by
  funext item
  rw [Bool.eq_iff_iff,wins_iff,wins_iff]
  exact forall_congr' (fun other => by rw [same.mem_iff])

theorem agreed_perm (same : left.Perm right) (agreed : Agreed left) : Agreed right := by
  have leads : ∀ item, Leads right item → Leads left item :=
    fun item leads other member => leads other (same.mem_iff.mp member)
  intro item member other otherMember claim first second
  exact agreed item (same.mem_iff.mpr member) other (same.mem_iff.mpr otherMember) claim (leads item first)
    (leads other second)

/-- The winner of an item's claim. -/
theorem item_winner (distinct : (left.map (fun item => text item "id")).Nodup) {item : Dict} (member : item ∈ left) :
    ∃ winner ∈ left, wins left winner = true ∧ SameClaim winner item := by
  obtain ⟨winner,single⟩ := claim_won distinct ⟨item,member,rfl⟩
  have inside : winner ∈ (left.filter (fun other => text other "claimKey" = text item "claimKey")).filter
      (wins left) := by
    rw [single]
    simp
  obtain ⟨claimant,won⟩ := List.mem_filter.mp inside
  obtain ⟨listed,claim⟩ := List.mem_filter.mp claimant
  exact ⟨winner,listed,won,of_decide_eq_true claim⟩

theorem superseded_perm (distinct : (left.map (fun item => text item "id")).Nodup) (same : left.Perm right) :
    (left.flatMap (superseded left)).Perm (right.flatMap (superseded right)) := by
  have distinct' : (right.map (fun item => text item "id")).Nodup := (same.map _).nodup_iff.mp distinct
  have agree : ∀ item ∈ left, superseded left item = superseded right item := by
    intro item member
    obtain ⟨winner,listed,won,claim⟩ := item_winner distinct member
    rw [superseded_eq distinct member listed won claim,
      superseded_eq distinct' (same.mem_iff.mp member) (same.mem_iff.mp listed)
        (by rw [← wins_perm same]; exact won) claim]
  rw [List.flatMap_congr agree]
  exact same.flatMap_right _

theorem ordered_same (distinct : (left.map (fun item => text item "id")).Nodup) (same : left.Perm right) :
    ordered recipe left = ordered recipe right := by
  unfold ordered
  rw [← wins_perm same]
  exact ordered_perm (distinct.sublist (List.filter_sublist.map _)) (same.filter _)

theorem chosen_same (distinct : (left.map (fun item => text item "id")).Nodup) (same : left.Perm right) :
    chosen recipe left = chosen recipe right := by
  unfold chosen
  rw [ordered_same distinct same]

end

/-! ### Accounting for every candidate -/

section
variable {recipe run : Dict} {granted : List Dict} {now : Instant}

theorem filtered_ids {items : List Dict}
    (decided : ∀ item ∈ items, ∃ reason, verdict recipe run granted now item = .ok reason) :
    (items.filterMap (filtered recipe run granted now)).map Exclusion.item_id =
      (items.filter (fun item => !passes recipe run granted now item)).map (fun item => text item "id") := by
  induction items with
  | nil => rfl
  | cons item items ih =>
    have later := ih (fun other member => decided other (by simp [member]))
    obtain ⟨reason,known⟩ := decided item (by simp)
    cases reason <;> simp [filtered,passes,known,later]

theorem superseded_ids (eligible items : List Dict) : (items.flatMap (superseded eligible)).map Exclusion.item_id =
    (items.filter (fun item => !wins eligible item)).map (fun item => text item "id") := by
  induction items with
  | nil => rfl
  | cons item items ih =>
    rw [List.flatMap_cons,List.map_append,ih]
    by_cases won : wins eligible item = true <;> simp [superseded,won]

theorem budget_ids (recipe : Dict) (items : List Dict) :
    ((select (fits recipe) items).map (fun item => text item "id") ++
      (exhausted recipe items).map Exclusion.item_id).Perm
      (items.map (fun item => text item "id")) := by
  have visited := (List.filter_append_perm (fun entry => fits recipe entry.1 entry.2) (trail (fits recipe) items)).map
    (fun entry => text entry.2 "id")
  have all : (trail (fits recipe) items).map (fun entry => text entry.2 "id") =
      items.map (fun item => text item "id") := by
    have mapped : ((trail (fits recipe) items).map Prod.snd).map (fun item => text item "id") =
        items.map (fun item => text item "id") := by
      rw [trail_items]
    rw [List.map_map] at mapped
    exact mapped
  rw [List.map_append,all] at visited
  rw [select_eq_filter,List.map_map]
  unfold exhausted
  rw [List.map_map]
  exact visited

/-- Each candidate is chosen or excluded, once. -/
theorem accounted {items : List Dict} (sortable : Sortable recipe run granted now items) :
    ((chosen recipe (eligible_items recipe run granted now items)).map (fun item => text item "id") ++
      (excluded_items recipe run granted now items).map Exclusion.item_id).Perm
        (items.map (fun item => text item "id")) := by
  set eligible := eligible_items recipe run granted now items with eligibleIs
  have sorted := (List.filter_append_perm (passes recipe run granted now) items).map (fun item => text item "id")
  have resolved := (List.filter_append_perm (wins eligible) eligible).map (fun item => text item "id")
  have budgeted := (budget_ids recipe (ordered recipe eligible)).trans ((perm_sortedBy _ _).map _)
  rw [List.map_append] at sorted resolved
  rw [← filtered_ids sortable.decided] at sorted
  rw [← superseded_ids] at resolved
  unfold excluded_items
  rw [List.map_append,List.map_append,← eligibleIs]
  rw [List.perm_iff_count] at sorted resolved budgeted ⊢
  intro id
  have first := sorted id
  have second := resolved id
  have third := budgeted id
  simp only [List.count_append] at first second third ⊢
  unfold chosen
  have same : items.filter (passes recipe run granted now) = eligible := rfl
  rw [same] at first
  omega

end

/-! ### More candidates that a filter excludes -/

/-- The second value lists what the first does, in some order. -/
def Listing (v w : Json) : Prop := ∀ items, v.iter? = some items → ∃ moved, w.iter? = some moved ∧ items.Perm moved

theorem listing_refl (v : Json) : Listing v v := fun items listed => ⟨items,listed,List.Perm.refl _⟩

theorem listing_arr {xs ys : List Json} (same : xs.Perm ys) : Listing (.arr xs) (.arr ys) := by
  intro items listed
  cases listed
  exact ⟨ys,rfl,same⟩

section
variable {recipe run : Dict} {grants others : Json} {generated_at : String} {now : Instant}
  {granted granted' : List Dict}

theorem prepared_perm (moved : Listing grants others) (prepared : Prepared recipe run grants generated_at now granted) :
    ∃ granted', Prepared recipe run others generated_at now granted' ∧ granted.Perm granted' := by
  obtain ⟨items,listed,same⟩ := moved _ prepared.listed
  obtain ⟨granted',rfl,perm⟩ := perm_map same
  exact ⟨granted',{ prepared with
    listed := listed
    grants_valid := fun grant member => prepared.grants_valid grant (perm.mem_iff.mpr member) },perm⟩

/-- Candidates that a filter excludes change nothing but the exclusions. -/
theorem extended_outcome {items extra big : List Dict} (sortable : Sortable recipe run granted now items)
    (valid : ∀ grant ∈ granted, validate_disclosure_grant grant = .ok ()) (same : granted.Perm granted')
    (extended : big.Perm (items ++ extra))
    (ignored : ∀ item ∈ extra, ∃ reason, verdict recipe run granted now item = .ok (some reason)) :
    (eligible_items recipe run granted now items).Perm (eligible_items recipe run granted' now big) ∧
      (excluded_items recipe run granted' now big).Perm
        (excluded_items recipe run granted now items ++ extra.filterMap (filtered recipe run granted now)) := by
  have verdicts : verdict recipe run granted now = verdict recipe run granted' now := verdict_perm valid same
  have pass : passes recipe run granted' now = passes recipe run granted now := by
    unfold passes
    rw [verdicts]
  have filter : filtered recipe run granted' now = filtered recipe run granted now := by
    unfold filtered
    rw [verdicts]
  have none_eligible : extra.filter (passes recipe run granted now) = [] := by
    rw [List.filter_eq_nil_iff]
    intro item member
    obtain ⟨reason,known⟩ := ignored item member
    simp [passes,known]
  have eligible : (eligible_items recipe run granted now items).Perm (eligible_items recipe run granted' now big) := by
    have kept := extended.filter (passes recipe run granted now)
    rw [List.filter_append,none_eligible,List.append_nil] at kept
    unfold eligible_items
    rw [pass]
    exact kept.symm
  have distinct := sortable_distinct sortable
  refine ⟨eligible,?_⟩
  have reasons : (big.filterMap (filtered recipe run granted' now)).Perm
      (items.filterMap (filtered recipe run granted now) ++ extra.filterMap (filtered recipe run granted now)) := by
    rw [filter,← List.filterMap_append]
    exact extended.filterMap _
  have losers := superseded_perm distinct eligible
  unfold excluded_items
  rw [← ordered_same distinct eligible]
  refine ((reasons.append losers.symm).append_right _).trans ?_
  simp only [List.append_assoc]
  refine List.Perm.append_left _ (List.perm_append_comm.trans ?_)
  rw [List.append_assoc]

/-- Valid candidates with ids of their own that a filter excludes. -/
structure Ignored (recipe run : Dict) (grants : Json) (generated_at : String) (candidates : List Json)
    (extra : List Dict) : Prop where
  valid : ∀ item ∈ extra, validate_context_item item = .ok ()
  distinct : (extra.map (fun item => text item "id")).Nodup
  fresh : ∀ item ∈ extra, ∀ other, .obj other ∈ candidates → text other "id" ≠ text item "id"
  excluded : ∀ now granted, ContextCompiler.parse_time (.str generated_at) "generatedAt" = .ok now →
    grants.iter? = some (granted.map Json.obj) →
      ∀ item ∈ extra, ∃ reason, verdict recipe run granted now item = .ok (some reason)

theorem arr_listed {xs : List Json} {items : List Dict} (listed : (Json.arr xs).iter? = some (items.map Json.obj)) :
    xs = items.map Json.obj :=
  Option.some.inj listed

variable {xs more : List Json} {items big extra : List Dict}

theorem extended_compiles (moved : Listing grants others) (extended : more.Perm (xs ++ extra.map Json.obj))
    (ignored : Ignored recipe run grants generated_at xs extra)
    (compiles : Compiles recipe run granted now items (.arr xs) grants generated_at) :
    ∃ granted' big, Compiles recipe run granted' now big (.arr more) others generated_at ∧ granted.Perm granted' ∧
      big.Perm (items ++ extra) := by
  obtain ⟨granted',prepared,same⟩ := prepared_perm moved compiles.prepared
  have xsAre := arr_listed compiles.candidates_listed
  rw [xsAre,← List.map_append] at extended
  obtain ⟨big,rfl,perm⟩ := perm_map extended.symm
  have excluded := ignored.excluded now granted compiles.prepared.generated compiles.prepared.listed
  obtain ⟨eligible,_⟩ := extended_outcome compiles.sortable compiles.prepared.grants_valid same perm.symm excluded
  have verdicts : verdict recipe run granted now = verdict recipe run granted' now :=
    verdict_perm compiles.prepared.grants_valid same
  have distinct := sortable_distinct compiles.sortable
  refine ⟨granted',big,⟨prepared,rfl,⟨?_,?_,?_⟩,agreed_perm eligible compiles.agreed,?_⟩,same,perm.symm⟩
  · intro item member
    rcases List.mem_append.mp (perm.mem_iff.mpr member) with old | new
    · exact compiles.sortable.valid item old
    · exact ignored.valid item new
  · refine (perm.map _).nodup_iff.mp ?_
    rw [List.map_append]
    refine List.Nodup.append compiles.sortable.distinct ignored.distinct ?_
    intro id old new
    obtain ⟨other,listed,rfl⟩ := List.mem_map.mp old
    obtain ⟨item,member,ids⟩ := List.mem_map.mp new
    exact ignored.fresh item member other (by rw [xsAre]; exact List.mem_map.mpr ⟨other,listed,rfl⟩) ids.symm
  · intro item member
    rw [← verdicts]
    rcases List.mem_append.mp (perm.mem_iff.mpr member) with old | new
    · exact compiles.sortable.decided item old
    · obtain ⟨reason,known⟩ := excluded item new
      exact ⟨some reason,known⟩
  · rw [← chosen_same distinct eligible]
    exact compiles.covered

theorem reduced_compiles (moved : Listing others grants) (extended : more.Perm (xs ++ extra.map Json.obj))
    (ignored : Ignored recipe run grants generated_at xs extra)
    (compiles : Compiles recipe run granted' now big (.arr more) others generated_at) :
    ∃ granted items, Compiles recipe run granted now items (.arr xs) grants generated_at := by
  obtain ⟨granted,prepared,same⟩ := prepared_perm moved compiles.prepared
  rw [arr_listed compiles.candidates_listed] at extended
  obtain ⟨all,split,perm⟩ := perm_map extended
  obtain ⟨items,rest,rfl,rfl,restIs⟩ := List.map_eq_append_iff.mp split.symm
  have injective : Function.Injective Json.obj := fun _ _ same => Json.obj.inj same
  rw [List.map_injective_iff.mpr injective restIs] at perm
  have excluded := ignored.excluded now granted prepared.generated prepared.listed
  have verdicts : verdict recipe run granted now = verdict recipe run granted' now :=
    verdict_perm prepared.grants_valid same.symm
  have distinct := (perm.map (fun item => text item "id")).nodup_iff.mp compiles.sortable.distinct
  rw [List.map_append,List.nodup_append'] at distinct
  have sortable : Sortable recipe run granted now items := by
    refine ⟨?_,distinct.1,?_⟩
    · intro item member
      exact compiles.sortable.valid item (perm.mem_iff.mpr (by simp [member]))
    · intro item member
      rw [verdicts]
      exact compiles.sortable.decided item (perm.mem_iff.mpr (by simp [member]))
  obtain ⟨eligible,_⟩ := extended_outcome sortable prepared.grants_valid same.symm perm excluded
  refine ⟨granted,items,prepared,rfl,sortable,agreed_perm eligible.symm compiles.agreed,?_⟩
  rw [chosen_same (sortable_distinct sortable) eligible]
  exact compiles.covered

end

/-! ### Manifests -/

section
variable {recipe run : Dict} {grants others : Json} {generated_at : String} {xs more : List Json} {extra : List Dict}

/-- Exclusions that are told apart by their items are sorted in one way. -/
theorem exclusions_sorted {now : Instant} {granted items : List Dict} (sortable : Sortable recipe run granted now items)
    {left right : List Exclusion} (outcome : left.Perm (excluded_items recipe run granted now items))
      (same : left.Perm right) :
    sortedBy Exclusion.item_id left = sortedBy Exclusion.item_id right := by
  have ids := (accounted sortable).nodup_iff.mpr sortable.distinct
  have apart : (left.map Exclusion.item_id).Nodup := (outcome.map _).nodup_iff.mpr (List.nodup_append'.mp ids).2.1
  exact sortedBy_perm same (fun a first b second equal => List.inj_on_of_nodup_map apart first second equal)

/-- A manifest for more candidates, where a filter excludes each that is added. -/
theorem extended_manifest (moved : Listing grants others) (extended : more.Perm (xs ++ extra.map Json.obj))
    (ignored : Ignored recipe run grants generated_at xs extra) {manifest : ContextManifest}
    (ran : compile_context recipe run (.arr xs) grants generated_at = .ok manifest) :
    ∃ larger added, compile_context recipe run (.arr more) others generated_at = .ok larger ∧
      larger = { manifest with exclusions := sortedBy Exclusion.item_id (manifest.exclusions ++ added) } ∧
      added.map Exclusion.item_id = extra.map (fun item => text item "id") := by
  obtain ⟨compiled,assembled,rfl⟩ := compile_ok.mp ran
  obtain ⟨now,granted,items,compiles,outcome⟩ := assemble_compiles assembled
  obtain ⟨granted',big,compiles',same,perm⟩ := extended_compiles moved extended ignored compiles
  obtain ⟨compiled',assembled',outcome'⟩ := compiles_assemble compiles'
  have excluded := ignored.excluded now granted compiles.prepared.generated compiles.prepared.listed
  obtain ⟨eligible,exclusions⟩ := extended_outcome compiles.sortable compiles.prepared.grants_valid same perm excluded
  have chosen : chosen recipe _ = chosen recipe _ := chosen_same (sortable_distinct compiles.sortable) eligible
  have selected : compiled'.selected = compiled.selected := by rw [outcome'.selected,outcome.selected,chosen]
  have total : compiled'.total_bytes = compiled.total_bytes := by rw [outcome'.total_bytes,outcome.total_bytes,chosen]
  refine ⟨_,extra.filterMap (filtered recipe run granted now),compile_ok.mpr ⟨compiled',assembled',rfl⟩,?_,?_⟩
  · have sorted : sortedBy Exclusion.item_id compiled'.exclusions = sortedBy Exclusion.item_id
        (sortedBy Exclusion.item_id compiled.exclusions ++ extra.filterMap (filtered recipe run granted now)) := by
      refine exclusions_sorted compiles'.sortable outcome'.exclusions ?_
      exact (outcome'.exclusions.trans exclusions).trans
        ((outcome.exclusions.symm.trans (perm_sortedBy _ _).symm).append_right _)
    unfold manifest_of manifest_body
    rw [selected,total,sorted]
  · have all : extra.filter (fun item => !passes recipe run granted now item) = extra := by
      rw [List.filter_eq_self]
      intro item member
      obtain ⟨reason,known⟩ := excluded item member
      simp [passes,known]
    have decided : ∀ item ∈ extra, ∃ reason, verdict recipe run granted now item = .ok reason := by
      intro item member
      obtain ⟨reason,known⟩ := excluded item member
      exact ⟨some reason,known⟩
    rw [filtered_ids decided,all]

/-- A compilation that raises still raises with candidates that a filter excludes. -/
theorem extended_raises (moved : Listing others grants) (extended : more.Perm (xs ++ extra.map Json.obj))
    (ignored : Ignored recipe run grants generated_at xs extra) {e : PyError}
    (raised : compile_context recipe run (.arr xs) grants generated_at = .error e) :
    ∃ e', compile_context recipe run (.arr more) others generated_at = .error e' := by
  cases ran : compile_context recipe run (.arr more) others generated_at with
  | error e' => exact ⟨e',rfl⟩
  | ok larger =>
    obtain ⟨compiled,assembled,_⟩ := compile_ok.mp ran
    obtain ⟨now,granted',big,compiles,_⟩ := assemble_compiles assembled
    obtain ⟨granted,items,compiles'⟩ := reduced_compiles moved extended ignored compiles
    obtain ⟨smaller,assembled',_⟩ := compiles_assemble compiles'
    rw [compile_ok.mpr ⟨smaller,assembled',rfl⟩] at raised
    cases raised

end

/-- Valid candidates that a filter excludes, added anywhere, leave the manifest as it is but for
    their own exclusions, and a compilation that raises still raises. -/
theorem ignored_added {recipe run : Dict} {grants : Json} {generated_at : String} {xs more : List Json}
    {extra : List Dict}
    (extended : more.Perm (xs ++ extra.map Json.obj)) (ignored : Ignored recipe run grants generated_at xs extra) :
    (∀ manifest, compile_context recipe run (.arr xs) grants generated_at = .ok manifest →
      ∃ added, added.map Exclusion.item_id = extra.map (fun item => text item "id") ∧
        compile_context recipe run (.arr more) grants generated_at =
          .ok { manifest with exclusions := sortedBy Exclusion.item_id (manifest.exclusions ++ added) }) ∧
    (∀ e, compile_context recipe run (.arr xs) grants generated_at = .error e →
      ∃ e', compile_context recipe run (.arr more) grants generated_at = .error e') := by
  constructor
  · intro manifest ran
    obtain ⟨larger,added,compiled,rfl,ids⟩ := extended_manifest (listing_refl grants) extended ignored ran
    exact ⟨added,ids,compiled⟩
  · intro e raised
    exact extended_raises (listing_refl grants) extended ignored raised

/-- A secret of another project. -/
def sample_foreign : Dict := (sample_secret "F" "foreign").set "projectId" (.str "Q")

theorem sample_ignored : Ignored sample_recipe sample_run (.arr [.obj (sample_grant "S")]) "2026-01-01T00:00:00Z"
    [.obj (sample_secret "S" "token")] [sample_foreign] := by
  refine ⟨?_,by simp,?_,?_⟩
  · intro item member
    rw [List.mem_singleton.mp member]
    decide +kernel
  · intro item member other listed
    rw [List.mem_singleton.mp member,Json.obj.inj (List.mem_singleton.mp listed)]
    decide
  · intro now granted _ _ item member
    rw [List.mem_singleton.mp member]
    exact ⟨"outside run scope",rfl⟩

theorem ignored_added_sample :
    ∃ (manifest : ContextManifest) (added : List Exclusion), added.map Exclusion.item_id = ["F"] ∧
    compile_context sample_recipe sample_run (.arr [.obj sample_foreign,.obj (sample_secret "S" "token")])
      (.arr [.obj (sample_grant "S")]) "2026-01-01T00:00:00Z" =
      .ok { manifest with exclusions := sortedBy Exclusion.item_id (manifest.exclusions ++ added) } := by
  have returns : (assemble sample_recipe sample_run (.arr [.obj (sample_secret "S" "token")])
      (.arr [.obj (sample_grant "S")])
      "2026-01-01T00:00:00Z").toOption.any (fun _ => true) = true := by decide +kernel
  obtain ⟨compiled,assembled,_⟩ := returns_with returns
  have ran := compile_ok.mpr ⟨compiled,assembled,rfl⟩
  obtain ⟨added,ids,larger⟩ := (ignored_added (List.Perm.swap _ _ _) sample_ignored).1 _ ran
  exact ⟨_,added,ids,larger⟩

/-! ### Every manifest -/

/-- What holds of a manifest compiled from these candidates and grants at this time. -/
structure Accounted (recipe run : Dict) (now : Instant) (granted items : List Dict) (manifest : ContextManifest) :
    Prop where
  distinct : (items.map (fun item => text item "id")).Nodup
  once : (manifest.selected_items.map (fun item => text item "id") ++ manifest.exclusions.map Exclusion.item_id).Perm
    (items.map (fun item => text item "id"))
  claims : (manifest.selected_items.map (fun item => text item "claimKey")).Nodup
  highest : ∀ selected ∈ manifest.selected_items, ∀ item ∈ items,
    Eligible recipe run granted now (strings run "taskTags") item →
    text item "claimKey" = text selected "claimKey" → authority item ≤ authority selected
  count : (manifest.selected_items.length : Int) ≤ limit recipe "maxItems"
  total : manifest.total_bytes = (manifest.selected_items.map
    (fun item => (dumps standard (.obj item)).utf8ByteSize)).sum
  within : (manifest.total_bytes : Int) ≤ limit recipe "maxBytes"

theorem recipe_limits {recipe : Dict} (valid : validate_recipe recipe = .ok ()) :
    0 ≤ limit recipe "maxItems" ∧ 0 ≤ limit recipe "maxBytes" := by
  have positive : ∀ key, positive_integer recipe key = .ok () → 0 ≤ limit recipe key := by
    intro key checked
    unfold positive_integer at checked
    unfold limit
    split at checked
    · simp [context_error,fail] at checked
    · rename_i n found
      simp only [ContextCompiler.reject,reject_if_ok,decide_eq_false_iff_not,not_lt] at checked
      rw [found]
      show 0 ≤ n
      omega
  unfold validate_recipe at valid
  simp only [bind_ok_iff] at valid
  obtain ⟨_,_,_,_,_,_,_,_,_,_,_,_,_,_,_,_,_,_,_,items,_,bytes,_⟩ := valid
  exact ⟨positive _ items,positive _ bytes⟩

section
variable {recipe run : Dict} {eligible : List Dict}

theorem chosen_claims (distinct : (eligible.map (fun item => text item "id")).Nodup) :
    ((chosen recipe eligible).map (fun item => text item "claimKey")).Nodup := by
  have winners : ((eligible.filter (wins eligible)).map (fun item => text item "claimKey")).Nodup := by
    refine List.Nodup.map_on ?_ ((List.Nodup.of_map _ distinct).filter _)
    intro item member other otherMember claim
    obtain ⟨inside,won⟩ := List.mem_filter.mp member
    obtain ⟨otherInside,otherWon⟩ := List.mem_filter.mp otherMember
    exact winner_unique distinct inside otherInside claim won otherWon
  have visited : ((ordered recipe eligible).map (fun item => text item "claimKey")).Nodup :=
    ((perm_sortedBy _ _).map _).nodup_iff.mpr winners
  exact visited.sublist ((select_sublist _).map _)

theorem rank_authority {item other : Dict} (below : rank item ≤ rank other) : authority item ≤ authority other := by
  rcases Prod.Lex.toLex_le_toLex.mp below with less | ⟨equal,_⟩
  · exact le_of_lt less
  · exact le_of_eq equal

end

theorem manifest_accounted {recipe run : Dict} {candidates grants : Json} {generated_at : String}
    {manifest : ContextManifest}
    (ran : compile_context recipe run candidates grants generated_at = .ok manifest) :
    ∃ now granted items, ContextCompiler.parse_time (.str generated_at) "generatedAt" = .ok now ∧
      grants.iter? = some (granted.map Json.obj) ∧ candidates.iter? = some (items.map Json.obj) ∧
      Accounted recipe run now granted items manifest := by
  obtain ⟨compiled,assembled,rfl⟩ := compile_ok.mp ran
  obtain ⟨now,granted,items,compiles,outcome⟩ := assemble_compiles assembled
  have distinct := sortable_distinct compiles.sortable
  obtain ⟨room,space⟩ := recipe_limits compiles.prepared.recipe_valid
  obtain ⟨few,small⟩ := select_fits recipe (ordered recipe (eligible_items recipe run granted now items)) room space
  have texts : ∀ key ∈ ["id","claimKey"], compiled.selected.map (fun item => text item key) =
      (chosen recipe (eligible_items recipe run granted now items)).map (fun item => text item key) := by
    intro key listed
    rw [outcome.selected,List.map_map]
    refine List.map_congr_left (fun item _ => rendered_text ?_)
    simp only [List.mem_cons,List.not_mem_nil,or_false] at listed
    rcases listed with rfl | rfl <;> simp
  refine ⟨now,granted,items,compiles.prepared.generated,compiles.prepared.listed,compiles.candidates_listed,
    compiles.sortable.distinct,?_,?_,?_,?_,?_,?_⟩
  · show (compiled.selected.map _ ++ (sortedBy Exclusion.item_id compiled.exclusions).map _).Perm _
    rw [texts "id" (by simp)]
    exact ((((perm_sortedBy _ _).trans outcome.exclusions).map _).append_left _).trans (accounted compiles.sortable)
  · show (compiled.selected.map _).Nodup
    rw [texts "claimKey" (by simp)]
    exact chosen_claims distinct
  · intro selected member item listed eligible claim
    have member : selected ∈ compiled.selected := member
    rw [outcome.selected] at member
    obtain ⟨winner,inside,rfl⟩ := List.mem_map.mp member
    obtain ⟨_,won⟩ := chosen_wins inside
    have passed : passes recipe run granted now item = true := by
      unfold passes verdict
      rw [first_reason_none.mpr eligible]
    have competes : item ∈ eligible_items recipe run granted now items := List.mem_filter.mpr ⟨listed,passed⟩
    rw [rendered_text (by simp)] at claim
    have kept : authority (rendered winner) = authority winner := by
      unfold authority
      rw [rendered_text (by simp)]
    rw [kept]
    exact rank_authority (wins_iff.mp won item competes claim)
  · show (compiled.selected.length : Int) ≤ _
    rw [outcome.selected,List.length_map]
    exact few
  · show compiled.total_bytes = (compiled.selected.map _).sum
    rw [outcome.total_bytes,outcome.selected,List.map_map]
    rfl
  · show (compiled.total_bytes : Int) ≤ _
    rw [outcome.total_bytes]
    exact small

/-- Both return the same manifest, or both raise. -/
def Alike (left right : Py ContextManifest) : Prop :=
  (∃ manifest, left = .ok manifest ∧ right = .ok manifest) ∨ ∃ e e', left = .error e ∧ right = .error e'

theorem permuted_alike (recipe run : Dict) (generated_at : String) {xs ys gs hs : List Json} (moved : xs.Perm ys)
    (regranted : gs.Perm hs) : Alike (compile_context recipe run (.arr xs) (.arr gs) generated_at)
      (compile_context recipe run (.arr ys) (.arr hs) generated_at) := by
  have extended : ys.Perm (xs ++ ([] : List Dict).map Json.obj) := by
    rw [List.map_nil,List.append_nil]
    exact moved.symm
  have ignored : Ignored recipe run (.arr gs) generated_at xs [] := ⟨by simp,by simp,by simp,by simp⟩
  cases ran : compile_context recipe run (.arr xs) (.arr gs) generated_at with
  | ok manifest =>
    obtain ⟨larger,added,compiled,rfl,ids⟩ := extended_manifest (listing_arr regranted) extended ignored ran
    have none_added : added = [] := List.map_eq_nil_iff.mp ids
    obtain ⟨smaller,_,rfl⟩ := compile_ok.mp ran
    have sorted : sortedBy Exclusion.item_id (sortedBy Exclusion.item_id smaller.exclusions ++ []) =
        sortedBy Exclusion.item_id smaller.exclusions := by
      rw [List.append_nil]
      exact List.Pairwise.insertionSort_eq (pairwise_sortedBy Exclusion.item_id smaller.exclusions)
    refine Or.inl ⟨_,rfl,?_⟩
    rw [compiled,none_added]
    unfold manifest_of
    dsimp only
    rw [sorted]
  | error e =>
    obtain ⟨e',raised⟩ := extended_raises (listing_arr regranted.symm) extended ignored ran
    exact Or.inr ⟨e,e',rfl,raised⟩

/-- The order of the candidates and the grants does not matter, and every manifest accounts for
    its candidates. -/
theorem compile_context_invariants (recipe run : Dict) (generated_at : String) :
    (∀ xs ys gs hs : List Json, xs.Perm ys → gs.Perm hs →
      Alike (compile_context recipe run (.arr xs) (.arr gs) generated_at)
      (compile_context recipe run (.arr ys) (.arr hs) generated_at)) ∧
    (∀ candidates grants manifest, compile_context recipe run candidates grants generated_at = .ok manifest →
      ∃ now granted items, ContextCompiler.parse_time (.str generated_at) "generatedAt" = .ok now ∧
        grants.iter? = some (granted.map Json.obj) ∧ candidates.iter? = some (items.map Json.obj) ∧
        Accounted recipe run now granted items manifest) :=
  ⟨fun _ _ _ _ moved regranted => permuted_alike recipe run generated_at moved regranted,
    fun _ _ _ ran => manifest_accounted ran⟩

theorem compile_context_invariants_sample : ∃ manifest,
    compile_context sample_recipe sample_run (.arr [.obj (sample_secret "S" "token"),.obj (sample_secret "T" "key")])
      (.arr [.obj (sample_grant "S"),.obj (sample_grant "T")]) "2026-01-01T00:00:00Z" = .ok manifest ∧
    compile_context sample_recipe sample_run (.arr [.obj (sample_secret "T" "key"),.obj (sample_secret "S" "token")])
      (.arr [.obj (sample_grant "T"),.obj (sample_grant "S")]) "2026-01-01T00:00:00Z" = .ok manifest := by
  have returns : (assemble sample_recipe sample_run
      (.arr [.obj (sample_secret "S" "token"),.obj (sample_secret "T" "key")])
      (.arr [.obj (sample_grant "S"),.obj (sample_grant "T")])
      "2026-01-01T00:00:00Z").toOption.any (fun _ => true) = true := by
    decide +kernel
  obtain ⟨compiled,assembled,_⟩ := returns_with returns
  rcases (compile_context_invariants sample_recipe sample_run "2026-01-01T00:00:00Z").1 _ _ _ _ (List.Perm.swap _ _ [])
    (List.Perm.swap _ _ []) with both | ⟨e,_,raised,_⟩
  · exact both
  · rw [compile_ok.mpr ⟨compiled,assembled,rfl⟩] at raised
    cases raised

end V3Aidlc.ContextPermutations
