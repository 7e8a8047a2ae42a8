import V3Aidlc.Dispatches

/-!
The choice of a runner. Among the profiles that accept a request the selection takes the one with the
least excess, by clearance, context, output and then adapter id. The ids are distinct, so no two
profiles have the same excess, and the order in which the profiles were registered has no part in
the choice (`selection_determined`).
-/
namespace V3Aidlc.AdapterSelection
open V3Aidlc.Values V3Aidlc.Loops V3Aidlc.Contracts V3Aidlc.Canonical V3Aidlc.AgentAdapters V3Aidlc.Dispatches

/-- By how much a profile exceeds the request, and its id. -/
def excess (request profile : Dict) : Int ×ₗ Int ×ₗ Int ×ₗ String :=
  toLex ((SENSITIVITY_RANK (text profile "maxSensitivity") : Int) - SENSITIVITY_RANK (text request "sensitivity"),
    toLex (integer profile "maxContextBytes" - integer request "contextBytes",
      toLex (integer profile "maxOutputBytes" - integer request "maxOutputBytes",text profile "adapterId")))

/-- The profile is offered, accepts the request, and no other that accepts has less excess. -/
structure Best (request : Dict) (profiles : List Dict) (chosen : Dict) : Prop where
  offered : chosen ∈ profiles
  accepts : Accepts chosen request
  least : ∀ other ∈ profiles, Accepts other request → other ≠ chosen → excess request chosen < excess request other

/-- Valid inputs with distinct ids, of which some profile accepts the request. -/
structure Selectable (request : Dict) (profiles : List Dict) : Prop where
  requested : validate_run_request request = .ok ()
  valid : ∀ profile ∈ profiles, validate_capability_profile profile = .ok ()
  distinct : (profiles.map (fun profile => text profile "adapterId")).Nodup
  accepted : ∃ profile ∈ profiles, Accepts profile request

section
variable {request : Dict} {profiles : List Dict}

/-- Two profiles with the same excess have the same id. -/
theorem excess_id {first second : Dict} (same : excess request first = excess request second) :
    text first "adapterId" = text second "adapterId" := by
  unfold excess at same
  simp only [EmbeddingLike.apply_eq_iff_eq,Prod.mk.injEq] at same
  exact same.2.2.2

theorem id_apart (distinct : (profiles.map (fun profile => text profile "adapterId")).Nodup) {first second : Dict}
    (firstIn : first ∈ profiles) (secondIn : second ∈ profiles)
      (same : text first "adapterId" = text second "adapterId") :
    first = second :=
  List.inj_on_of_nodup_map distinct firstIn secondIn same

/-- There is at most one best profile. -/
theorem best_unique {chosen other : Dict} (first : Best request profiles chosen)
    (second : Best request profiles other) :
    chosen = other := by
  by_contra differ
  have less := first.least other second.offered second.accepts (Ne.symm differ)
  have more := second.least chosen first.offered first.accepts differ
  exact absurd less (lt_asymm more)

theorem best_perm {others : List Dict} {chosen : Dict} (same : profiles.Perm others)
    (best : Best request profiles chosen) :
    Best request others chosen :=
  ⟨same.mem_iff.mp best.offered,best.accepts,fun other member => best.least other (same.mem_iff.mpr member)⟩

theorem selectable_perm {others : List Dict} (same : profiles.Perm others) (selectable : Selectable request profiles) :
    Selectable request others := by
  obtain ⟨requested,valid,distinct,profile,member,accepts⟩ := selectable
  exact ⟨requested,fun other inside => valid other (same.mem_iff.mpr inside),(same.map _).nodup_iff.mp distinct,
    profile,same.mem_iff.mp member,accepts⟩

/-! ### The source's selection -/

theorem mem_accepted {profile : Dict} {result : NegotiationResult} :
    (profile,result) ∈ (negotiations request profiles).filter (fun result => result.2.decision = .ACCEPTED) ↔
      profile ∈ profiles ∧ Accepts profile request ∧ result = negotiation request profile := by
  unfold negotiations
  rw [List.mem_filter,List.mem_map,decide_eq_true_iff]
  constructor
  · rintro ⟨⟨_,member,same⟩,accepted⟩
    obtain ⟨rfl,rfl⟩ := Prod.mk.inj same
    exact ⟨member,accepted_iff.mp accepted,rfl⟩
  · rintro ⟨member,accepts,rfl⟩
    exact ⟨⟨profile,member,rfl⟩,accepted_iff.mpr accepts⟩

theorem preference_excess (request : Dict) (result : Dict × NegotiationResult) :
    preference request result = excess request result.1 := rfl

/-- The first of the sorted negotiations is that of the best profile. -/
theorem sorted_best (distinct : (profiles.map (fun profile => text profile "adapterId")).Nodup)
    {chosen : Dict × NegotiationResult} {rest : List (Dict × NegotiationResult)}
    (sorted : sortedBy (preference request)
      ((negotiations request profiles).filter (fun result => result.2.decision = .ACCEPTED)) = chosen :: rest) :
    Best request profiles chosen.1 := by
  have inside : chosen ∈ (negotiations request profiles).filter (fun result => result.2.decision = .ACCEPTED) :=
    mem_sortedBy.mp (by rw [sorted]; simp)
  obtain ⟨offered,accepts,_⟩ := mem_accepted.mp inside
  refine ⟨offered,accepts,?_⟩
  intro other member otherAccepts differ
  have listed : (other,negotiation request other) ∈ chosen :: rest := by
    rw [← sorted]
    exact mem_sortedBy.mpr (mem_accepted.mpr ⟨member,otherAccepts,rfl⟩)
  have ordered := pairwise_sortedBy (preference request)
    ((negotiations request profiles).filter (fun result => result.2.decision = .ACCEPTED))
  rw [sorted] at ordered
  have later : (other,negotiation request other) ∈ rest := by
    rcases List.mem_cons.mp listed with same | later
    · exact absurd (congrArg Prod.fst same) differ
    · exact later
  have atMost := (List.pairwise_cons.mp ordered).1 _ later
  rw [preference_excess,preference_excess] at atMost
  refine lt_of_le_of_ne atMost ?_
  intro same
  exact differ (id_apart distinct member offered (excess_id same).symm)

/-- A selection that returned chose the best profile of selectable inputs. -/
theorem selected_best {chosen : Dict} {results : List NegotiationResult}
    (selected : select_adapter request profiles = .ok (chosen,results)) :
    Selectable request profiles ∧ Best request profiles chosen := by
  obtain ⟨offered,requested,_,accepts,_⟩ := select_adapter_ok selected
  unfold select_adapter at selected
  obtain ⟨found,ran,selected⟩ := bind_ok_iff.mp selected
  obtain ⟨_,valid,distinct,rfl⟩ := negotiate_all_ok.mp ran
  refine ⟨⟨requested,valid,distinct,chosen,offered,accepts⟩,?_⟩
  obtain ⟨_,_,selected⟩ := bind_ok_iff.mp selected
  split at selected
  · simp [adapter_error] at selected
  · rename_i first rest sorted
    simp only [pure_ok_iff,Prod.mk.injEq] at selected
    obtain ⟨rfl,_⟩ := selected
    exact sorted_best distinct sorted

theorem selection_returns (selectable : Selectable request profiles) :
    ∃ chosen results, select_adapter request profiles = .ok (chosen,results) := by
  obtain ⟨requested,valid,distinct,profile,member,accepts⟩ := selectable
  have ran : profiles.foldlM (negotiate_next request) [] = .ok (negotiations request profiles) :=
    negotiate_all_ok.mpr ⟨fun _ => requested,valid,distinct,rfl⟩
  have some_profile : (negotiations request profiles).isEmpty = false := by
    unfold negotiations
    rw [List.isEmpty_map,List.isEmpty_eq_false_iff]
    exact List.ne_nil_of_mem member
  unfold select_adapter
  rw [ran,ok_bind,some_profile]
  cases sorted : sortedBy (preference request)
      ((negotiations request profiles).filter (fun result => result.2.decision = .ACCEPTED)) with
  | nil =>
    have inside : (profile,negotiation request profile) ∈ sortedBy (preference request)
        ((negotiations request profiles).filter (fun result => result.2.decision = .ACCEPTED)) :=
      mem_sortedBy.mpr (mem_accepted.mpr ⟨member,accepts,rfl⟩)
    rw [sorted] at inside
    cases inside
  | cons first rest => exact ⟨first.1,(negotiations request profiles).map Prod.snd,rfl⟩

end

/-- A selection returns exactly for valid inputs with distinct ids and a profile that accepts; it chooses
    the best of them, the same one in every order, and the dispatch of the chosen runner is built under
    any lease id that is not blank. -/
theorem selection_determined (request : Dict) (profiles : List Dict) :
    ((∃ chosen results, select_adapter request profiles = .ok (chosen,results)) ↔ Selectable request profiles) ∧
    ∀ chosen results, select_adapter request profiles = .ok (chosen,results) →
      negotiate_capabilities request chosen = .ok (negotiation request chosen) ∧
      (negotiation request chosen).decision = .ACCEPTED ∧ Best request profiles chosen ∧
      (∀ others, profiles.Perm others → ∃ others_results, select_adapter request others = .ok (chosen,others_results)) ∧
      ∀ lease_id, blank lease_id = false → ∃ dispatch, build_dispatch request chosen lease_id = .ok dispatch := by
  refine ⟨⟨fun ⟨_,_,selected⟩ => (selected_best selected).1,selection_returns⟩,?_⟩
  intro chosen results selected
  obtain ⟨selectable,best⟩ := selected_best selected
  have offered := selectable.valid chosen best.offered
  refine ⟨negotiate_ok.mpr ⟨selectable.requested,offered,rfl⟩,accepted_iff.mpr best.accepts,best,?_,?_⟩
  · intro others same
    obtain ⟨other,others_results,ran⟩ := selection_returns (selectable_perm same selectable)
    obtain rfl := best_unique (best_perm same best) (selected_best ran).2
    exact ⟨others_results,ran⟩
  · intro lease_id leased
    exact ⟨_,build_dispatch_ok.mpr ⟨selectable.requested,offered,best.accepts,leased,rfl⟩⟩

/-- A runner that is cleared for more than the ordinary one. -/
def cleared_profile : Dict :=
  ((ordinary_profile true true).set "adapterId" (.str "claude")).set "maxSensitivity" (.str "restricted")

example : (select_adapter (ordinary_request 1 false) [cleared_profile,ordinary_profile true true]).toOption.map
    (fun selected => text selected.1 "adapterId") = some "codex" := by decide +kernel

end V3Aidlc.AdapterSelection
