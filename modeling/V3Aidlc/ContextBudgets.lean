import V3Aidlc.ContextPermutations

/-!
What the budget drops. The mandatory winners come first in the order of the budget, so they are
all kept exactly when both limits hold all of them. Nothing raises when they do not: only the
required kinds are checked afterwards (`mandatory_kept_iff`, `mandatory_dropped`).
-/
namespace V3Aidlc.ContextBudgets
open V3Aidlc.Values V3Aidlc.Loops V3Aidlc.Timestamps V3Aidlc.Contracts V3Aidlc.Canonical
open V3Aidlc.ContextCompiler V3Aidlc.Greedy
open V3Aidlc.Groups V3Aidlc.ContextCompilations V3Aidlc.ContextDisclosure V3Aidlc.ContextPermutations

def always (item : Dict) : Bool := (item.get "alwaysInclude").isTrue

/-- The mandatory items among the winners of their claims. -/
def mandatory (eligible : List Dict) : List Dict := (eligible.filter (wins eligible)).filter always

def Dropped (exclusions : List Exclusion) (item : Dict) : Prop :=
  ⟨text item "id","context budget exhausted"⟩ ∈ exclusions

/-- Both limits hold all of the items. -/
def Holds (recipe : Dict) (items : List Dict) : Prop :=
  (items.length : Int) ≤ limit recipe "maxItems" ∧ (bytes items : Int) ≤ limit recipe "maxBytes"

/-! ### Items that all fit -/

section
variable {recipe : Dict} {items eligible : List Dict}

theorem bytes_append (before after : List Dict) : bytes (before ++ after) = bytes before + bytes after := by
  simp [bytes]

theorem bytes_sublist {some all : List Dict} (sub : some.Sublist all) : bytes some ≤ bytes all :=
  (sub.map item_bytes).sum_le_sum (by simp)

theorem bytes_perm {left right : List Dict} (same : left.Perm right) : bytes left = bytes right :=
  (same.map item_bytes).sum_eq

/-- Every item is chosen exactly when the limits hold all of them. -/
theorem all_fit_iff (positive : 0 ≤ limit recipe "maxItems") (positive' : 0 ≤ limit recipe "maxBytes") :
    select (fits recipe) items = items ↔ Holds recipe items := by
  constructor
  · intro all
    have room := select_fits recipe items positive positive'
    rw [all] at room
    exact room
  · rintro ⟨few,small⟩
    refine select_all_iff.mpr (fun before item after split => ?_)
    have chosen : (select (fits recipe) before).Sublist before := select_sublist before
    have shorter := chosen.length_le
    have lighter := bytes_sublist chosen
    have longer : before.length < items.length := by simp [split]
    have heavier : bytes before + item_bytes item ≤ bytes items := by
      rw [split,List.append_cons,bytes_append,bytes_snoc]
      omega
    generalize select (fits recipe) before = front at shorter lighter ⊢
    unfold fits
    rw [Bool.and_eq_true,decide_eq_true_eq,decide_eq_true_eq]
    constructor <;> omega

theorem holds_perm {left right : List Dict} (same : left.Perm right) : Holds recipe left ↔ Holds recipe right := by
  unfold Holds
  rw [same.length_eq,bytes_perm same]

/-! ### Mandatory items come first -/

theorem order_always {item other : Dict} (before : order_key recipe item ≤ order_key recipe other)
    (required : always other = true) :
    always item = true := by
  by_contra optional
  have first : (if always item then 0 else 1) ≤ (if always other then 0 else 1) := by
    rcases Prod.Lex.toLex_le_toLex.mp before with less | ⟨equal,_⟩
    · exact le_of_lt less
    · exact le_of_eq equal
  rw [if_neg optional,if_pos required] at first
  omega

/-- The budget visits the mandatory winners before the others. -/
theorem ordered_split (recipe : Dict) (eligible : List Dict) : ordered recipe eligible =
    (ordered recipe eligible).filter always ++ (ordered recipe eligible).filter (fun item => !always item) :=
  split_ordered ((pairwise_sortedBy (order_key recipe) (eligible.filter (wins eligible))).imp order_always)

theorem ordered_mandatory (recipe : Dict) (eligible : List Dict) :
    ((ordered recipe eligible).filter always).Perm (mandatory eligible) :=
  (perm_sortedBy (order_key recipe) (eligible.filter (wins eligible))).filter always

theorem ordered_nodup (distinct : (eligible.map (fun item => text item "id")).Nodup) :
    (ordered recipe eligible).Nodup :=
  (perm_sortedBy (order_key recipe) (eligible.filter (wins eligible))).nodup_iff.mpr
    ((List.Nodup.of_map _ distinct).filter _)

theorem mandatory_chosen_iff (distinct : (eligible.map (fun item => text item "id")).Nodup)
    (positive : 0 ≤ limit recipe "maxItems") (positive' : 0 ≤ limit recipe "maxBytes") :
    (∀ item ∈ mandatory eligible, item ∈ chosen recipe eligible) ↔ Holds recipe (mandatory eligible) := by
  have apart : (ordered recipe eligible).Nodup := ordered_nodup distinct
  have split := ordered_split recipe eligible
  have front := ordered_mandatory recipe eligible
  unfold chosen
  generalize ordered recipe eligible = visited at apart split front ⊢
  rw [← holds_perm front,← all_fit_iff positive positive']
  rw [split] at apart
  rw [← select_front_iff apart,← split]
  exact forall_congr' (fun item => imp_congr_left front.mem_iff.symm)

/-! ### Dropped items -/

theorem dropped_iff (distinct : (eligible.map (fun item => text item "id")).Nodup) {item : Dict}
    (member : item ∈ ordered recipe eligible) :
    Dropped (exhausted recipe (ordered recipe eligible)) item ↔ item ∉ chosen recipe eligible := by
  have inside : ∀ other ∈ ordered recipe eligible, other ∈ eligible :=
    fun other visited => (mem_ordered.mp visited).1
  unfold chosen
  rw [← refused_iff (ordered_nodup distinct) member]
  unfold Dropped exhausted
  constructor
  · intro dropped
    obtain ⟨⟨front,other⟩,refused,same⟩ := List.mem_map.mp dropped
    obtain ⟨visited,refused⟩ := List.mem_filter.mp refused
    obtain ⟨before,after,split,_⟩ := mem_trail_iff.mp visited
    have otherMember : other ∈ ordered recipe eligible := by simp [split]
    obtain rfl := id_apart distinct (inside other otherMember) (inside item member) (Exclusion.mk.inj same).1
    exact ⟨front,visited,by simpa using refused⟩
  · rintro ⟨front,visited,refused⟩
    exact List.mem_map.mpr ⟨(front,item),List.mem_filter.mpr ⟨visited,by simp [refused]⟩,rfl⟩

end

section
variable {recipe run : Dict} {granted items : List Dict} {now : Instant}

/-- A winner is dropped by the budget or not excluded at all. -/
theorem excluded_iff (sortable : Sortable recipe run granted now items) {item : Dict}
    (member : item ∈ ordered recipe (eligible_items recipe run granted now items)) :
    Dropped (excluded_items recipe run granted now items) item ↔
      item ∉ chosen recipe (eligible_items recipe run granted now items) := by
  have distinct := sortable_distinct sortable
  rw [← dropped_iff distinct member]
  constructor
  · intro excluded
    rw [dropped_iff distinct member]
    intro selected
    have once := (accounted sortable).nodup_iff.mpr sortable.distinct
    exact (List.nodup_append'.mp once).2.2 (List.mem_map.mpr ⟨item,selected,rfl⟩) (List.mem_map.mpr ⟨_,excluded,rfl⟩)
  · intro dropped
    exact List.mem_append_right _ dropped

end

/-- Where a manifest is returned, the budget drops no mandatory winner exactly when both limits
    hold all of them. -/
theorem mandatory_kept_iff {recipe run : Dict} {candidates grants : Json} {generated_at : String}
    {manifest : ContextManifest}
    (ran : compile_context recipe run candidates grants generated_at = .ok manifest) :
    ∃ now granted items, ContextCompiler.parse_time (.str generated_at) "generatedAt" = .ok now ∧
      grants.iter? = some (granted.map Json.obj) ∧ candidates.iter? = some (items.map Json.obj) ∧
      ((∀ item ∈ mandatory (eligible_items recipe run granted now items), ¬Dropped manifest.exclusions item) ↔
        Holds recipe (mandatory (eligible_items recipe run granted now items))) := by
  obtain ⟨compiled,assembled,rfl⟩ := compile_ok.mp ran
  obtain ⟨now,granted,items,compiles,outcome⟩ := assemble_compiles assembled
  obtain ⟨positive,positive'⟩ := recipe_limits compiles.prepared.recipe_valid
  refine ⟨now,granted,items,compiles.prepared.generated,compiles.prepared.listed,compiles.candidates_listed,?_⟩
  rw [← mandatory_chosen_iff (sortable_distinct compiles.sortable) positive positive']
  refine forall₂_congr (fun item required => ?_)
  have visited : item ∈ ordered recipe (eligible_items recipe run granted now items) :=
    mem_ordered.mpr (List.mem_filter.mp (List.mem_filter.mp required).1)
  have reported : Dropped (sortedBy Exclusion.item_id compiled.exclusions) item ↔
      Dropped (excluded_items recipe run granted now items) item :=
    mem_sortedBy.trans outcome.exclusions.mem_iff
  show ¬Dropped (sortedBy Exclusion.item_id compiled.exclusions) item ↔ _
  rw [reported,excluded_iff compiles.sortable visited,not_not]

theorem listed_dicts {dicts items : List Dict}
    (listed : (Json.arr (dicts.map Json.obj)).iter? = some (items.map Json.obj)) : items = dicts :=
  (List.map_injective_iff.mpr (fun _ _ same => Json.obj.inj same) (arr_listed listed)).symm

/-- Room for two items. -/
def roomy_recipe : Dict := sample_recipe.set "maxItems" (.int 2)

/-- A secret that is relevant and need not be included. -/
def optional_secret : Dict :=
  ((sample_secret "A" "door").set "alwaysInclude" (.bool false)).set "relevanceTags" (.arr [.str "deploy"])

def three_secrets : List Dict := [optional_secret,sample_secret "S" "token",sample_secret "T" "key"]
def three_grants : List Dict := [sample_grant "A",sample_grant "S",sample_grant "T"]

/-- Two mandatory secrets take the room there is, and the one that is not is dropped. -/
theorem mandatory_kept_iff_three : ∃ manifest, compile_context roomy_recipe sample_run
    (.arr (three_secrets.map Json.obj)) (.arr (three_grants.map Json.obj)) "2026-01-01T00:00:00Z" = .ok manifest ∧
    manifest.selected_items.map (fun item => text item "id") = ["S","T"] ∧
    Dropped manifest.exclusions optional_secret ∧
    ∃ now, ∀ item ∈ mandatory (eligible_items roomy_recipe sample_run three_grants now three_secrets),
      ¬Dropped manifest.exclusions item := by
  have returns : (assemble roomy_recipe sample_run (.arr (three_secrets.map Json.obj))
      (.arr (three_grants.map Json.obj)) "2026-01-01T00:00:00Z").toOption.any (fun compiled =>
        compiled.selected.map (fun item => text item "id") = ["S","T"] && compiled.exclusions.any (fun exclusion => exclusion.item_id = "A" &&
          exclusion.reason = "context budget exhausted")) = true := by decide +kernel
  obtain ⟨compiled,assembled,chosen⟩ := returns_with returns
  obtain ⟨selected,dropped⟩ := Bool.and_eq_true_iff.mp chosen
  obtain ⟨⟨id,reason⟩,excluded,same⟩ := List.any_eq_true.mp dropped
  simp only [Bool.and_eq_true,decide_eq_true_eq] at same selected
  obtain ⟨rfl,rfl⟩ := same
  have ran := compile_ok.mpr ⟨compiled,assembled,rfl⟩
  obtain ⟨now,granted,items,_,listed,iterated,kept⟩ := mandatory_kept_iff ran
  have grantedIs : granted = three_grants := listed_dicts listed
  have itemsAre : items = three_secrets := listed_dicts iterated
  rw [grantedIs,itemsAre] at kept
  have sub : (mandatory (eligible_items roomy_recipe sample_run three_grants now three_secrets)).Sublist
      [sample_secret "S" "token",sample_secret "T" "key"] :=
    (List.filter_sublist.trans List.filter_sublist).filter always
  have small : (bytes [sample_secret "S" "token",sample_secret "T" "key"] : Int) ≤ limit roomy_recipe "maxBytes" := by
    decide +kernel
  have room : limit roomy_recipe "maxItems" = 2 := by decide +kernel
  have shorter : (mandatory (eligible_items roomy_recipe sample_run three_grants now three_secrets)).length ≤ 2 :=
    sub.length_le
  have lighter := bytes_sublist sub
  exact ⟨_,ran,selected,mem_sortedBy.mpr excluded,now,kept.mpr ⟨by omega,by omega⟩⟩

/-- Two granted mandatory secrets where there is room for one item: the second is dropped and
    the manifest is returned. -/
theorem mandatory_dropped : ∃ manifest now, compile_context sample_recipe sample_run
      (.arr [.obj (sample_secret "S" "token"),.obj (sample_secret "T" "key")])
        (.arr [.obj (sample_grant "S"),.obj (sample_grant "T")])
      "2026-01-01T00:00:00Z" = .ok manifest ∧ ContextCompiler.parse_time (.str "2026-01-01T00:00:00Z") "generatedAt" =
        .ok now ∧
    ∃ item ∈ mandatory (eligible_items sample_recipe sample_run [sample_grant "S",sample_grant "T"] now
      [sample_secret "S" "token",sample_secret "T" "key"]), Dropped manifest.exclusions item := by
  have returns : (assemble sample_recipe sample_run
      (.arr [.obj (sample_secret "S" "token"),.obj (sample_secret "T" "key")])
      (.arr [.obj (sample_grant "S"),.obj (sample_grant "T")]) "2026-01-01T00:00:00Z").toOption.any (fun compiled =>
        compiled.exclusions.any (fun exclusion => exclusion.item_id = "T" &&
          exclusion.reason = "context budget exhausted")) = true := by
    decide +kernel
  obtain ⟨compiled,assembled,dropped⟩ := returns_with returns
  obtain ⟨⟨id,reason⟩,excluded,same⟩ := List.any_eq_true.mp dropped
  simp only [Bool.and_eq_true,decide_eq_true_eq] at same
  obtain ⟨rfl,rfl⟩ := same
  have time : (ContextCompiler.parse_time (.str "2026-01-01T00:00:00Z") "generatedAt").toOption.any (fun now =>
      passes sample_recipe sample_run [sample_grant "S",sample_grant "T"] now (sample_secret "T" "key") &&
        wins (eligible_items sample_recipe sample_run [sample_grant "S",sample_grant "T"] now
          [sample_secret "S" "token",sample_secret "T" "key"]) (sample_secret "T" "key")) = true := by decide +kernel
  obtain ⟨now,parsed,winner⟩ := returns_with time
  obtain ⟨passed,won⟩ := Bool.and_eq_true_iff.mp winner
  refine ⟨_,now,compile_ok.mpr ⟨compiled,assembled,rfl⟩,parsed,sample_secret "T" "key",?_,mem_sortedBy.mpr excluded⟩
  exact List.mem_filter.mpr ⟨List.mem_filter.mpr ⟨List.mem_filter.mpr ⟨by simp,passed⟩,won⟩,rfl⟩

end V3Aidlc.ContextBudgets
