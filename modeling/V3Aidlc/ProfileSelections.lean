import V3Aidlc.Doubles
import V3Aidlc.StableSorts
import Mathlib.Data.Prod.Lex
import Mathlib.Data.String.Basic

/-!
The choice of a provider profile by its benchmarks (`packages/evaluations`). The posture says which
numbers count, in which order; the profile that is chosen has none before it, and whatever is said of
the others, or left unsaid, the choice stays (`profile_selected`).
-/
namespace V3Aidlc.ProfileSelections
open V3Aidlc.Doubles V3Aidlc.StableSorts

/-- The numbers are finite doubles. -/
structure ProviderBenchmark where
  profileId : String
  taskKind : String
  sampleSize : ℚ
  passRate : ℚ
  meanScore : ℚ
  medianLatencyMs : ℚ
  meanCostMicros : ℚ
  measuredAt : Int
  deriving DecidableEq

inductive Posture where
  | fast | balanced | assured
  deriving DecidableEq

def Posture.text : Posture → String
  | .fast => "fast"
  | .balanced => "balanced"
  | .assured => "assured"

structure SelectionInput where
  eligibleProfileIds : List String
  taskKind : String
  posture : Posture
  benchmarks : List ProviderBenchmark
  minimumSamples : Option ℚ

structure Selection where
  profileId : String
  reason : String
  deriving DecidableEq

/-- `first || second` of numbers. -/
def or_else (first second : ℚ) : ℚ := if first = 0 then second else first

/-- `meanScore * passRate / Math.max(1, meanCostMicros)` -/
def ProviderBenchmark.value (benchmark : ProviderBenchmark) : ℚ :=
  roundDouble (roundDouble (benchmark.meanScore * benchmark.passRate) / max 1 benchmark.meanCostMicros)

section
-- `localeCompare` of two ids, and how a number is written
variable (localeCompare : String → String → ℚ) (numeral : ℚ → String)

/-- What the comparison returns, its differences taken exactly: they have the signs of those in doubles. -/
def comparison (posture : Posture) (left right : ProviderBenchmark) : ℚ :=
  match posture with
  | .fast => or_else (left.medianLatencyMs - right.medianLatencyMs)
      (or_else (right.passRate - left.passRate) (localeCompare left.profileId right.profileId))
  | .assured => or_else (right.passRate - left.passRate)
      (or_else (right.meanScore - left.meanScore) (localeCompare left.profileId right.profileId))
  | .balanced => or_else (right.value - left.value) (localeCompare left.profileId right.profileId)

def in_order (posture : Posture) (left right : ProviderBenchmark) : Bool := comparison localeCompare posture left right ≤ 0

def eligible (input : SelectionInput) (item : ProviderBenchmark) : Bool :=
  input.eligibleProfileIds.contains item.profileId && item.taskKind = input.taskKind &&
    input.minimumSamples.getD 5 ≤ item.sampleSize

def selected (posture : Posture) (benchmark : ProviderBenchmark) : Selection where
  profileId := benchmark.profileId
  reason := posture.text ++ " routing used " ++ numeral benchmark.sampleSize ++ " comparable evaluation samples."

def selectProfile (input : SelectionInput) : Option Selection :=
  (((input.benchmarks.filter (eligible input)).mergeSort (in_order localeCompare input.posture)).head?).map
    (selected numeral input.posture)

end

/-! ### What counts -/

/-- The numbers that count, the lower the better. -/
def merit (posture : Posture) (benchmark : ProviderBenchmark) : ℚ ×ₗ ℚ :=
  match posture with
  | .fast => toLex (benchmark.medianLatencyMs,-benchmark.passRate)
  | .assured => toLex (-benchmark.passRate,-benchmark.meanScore)
  | .balanced => toLex (-benchmark.value,0)

/-- A comparison of texts puts any two in order, and follows its own order. -/
structure Collation (localeCompare : String → String → ℚ) : Prop where
  total : ∀ s t, localeCompare s t ≤ 0 ∨ localeCompare t s ≤ 0
  trans : ∀ s t u, localeCompare s t ≤ 0 → localeCompare t u ≤ 0 → localeCompare s u ≤ 0

section
variable {localeCompare : String → String → ℚ} {posture : Posture}

theorem or_else_le {first second : ℚ} : or_else first second ≤ 0 ↔ first < 0 ∨ first = 0 ∧ second ≤ 0 := by
  unfold or_else
  by_cases zero : first = 0
  · simp [zero]
  · rw [if_neg zero,le_iff_lt_or_eq]
    simp [zero]

/-- One is in order with another when its merit comes first, or is the same and its id comes first. -/
theorem in_order_iff {left right : ProviderBenchmark} : in_order localeCompare posture left right = true ↔
    merit posture left < merit posture right ∨
      merit posture left = merit posture right ∧ localeCompare left.profileId right.profileId ≤ 0 := by
  unfold in_order comparison merit
  cases posture <;> simp only [decide_eq_true_eq,or_else_le,Prod.Lex.toLex_lt_toLex,toLex_inj,Prod.mk.injEq,sub_neg,
    sub_eq_zero,neg_lt_neg_iff,neg_inj]
  -- equalities of rates are the other way round
  all_goals grind

theorem in_order_total (collation : Collation localeCompare) (left right : ProviderBenchmark) :
    (in_order localeCompare posture left right || in_order localeCompare posture right left) = true := by
  rw [Bool.or_eq_true,in_order_iff,in_order_iff]
  exact ranked_total (merit posture) (fun a b => collation.total a.profileId b.profileId) left right

theorem in_order_trans (collation : Collation localeCompare) (a b c : ProviderBenchmark)
    (first : in_order localeCompare posture a b = true) (second : in_order localeCompare posture b c = true) :
    in_order localeCompare posture a c = true := by
  rw [in_order_iff] at first second ⊢
  exact ranked_trans (merit posture) (fun a b c => collation.trans a.profileId b.profileId c.profileId) first second

end

/-! ### The choice -/

/-- A benchmark that may be chosen, and that no other comes before. -/
structure Chosen (localeCompare : String → String → ℚ) (input : SelectionInput) (chosen : ProviderBenchmark) : Prop where
  listed : chosen ∈ input.benchmarks
  eligible : eligible input chosen = true
  first : ∀ other ∈ input.benchmarks, ProfileSelections.eligible input other = true →
    merit input.posture chosen < merit input.posture other ∨
      merit input.posture chosen = merit input.posture other ∧ localeCompare chosen.profileId other.profileId ≤ 0

section
variable {localeCompare : String → String → ℚ} {numeral : ℚ → String} {input : SelectionInput}

theorem head_chosen (collation : Collation localeCompare) {chosen : ProviderBenchmark}
    (head : ((input.benchmarks.filter (eligible input)).mergeSort (in_order localeCompare input.posture)).head? =
      some chosen) : Chosen localeCompare input chosen := by
  obtain ⟨rest,sorted⟩ := List.head?_eq_some_iff.mp head
  have mem : ∀ item, item ∈ chosen :: rest ↔ item ∈ input.benchmarks ∧ eligible input item = true := by
    intro item
    rw [← sorted,List.mem_mergeSort,List.mem_filter]
  obtain ⟨listed,able⟩ := (mem chosen).mp (by simp)
  have pairwise : List.Pairwise (fun left right => in_order localeCompare input.posture left right = true) _ :=
    List.pairwise_mergeSort (in_order_trans collation) (in_order_total collation)
      (input.benchmarks.filter (eligible input))
  rw [sorted] at pairwise
  refine ⟨listed,able,fun other member fits => ?_⟩
  rcases List.mem_cons.mp ((mem other).mpr ⟨member,fits⟩) with rfl | later
  · have itself : localeCompare other.profileId other.profileId ≤ 0 := (collation.total _ _).elim id id
    exact .inr ⟨rfl,itself⟩
  · exact in_order_iff.mp ((List.pairwise_cons.mp pairwise).1 other later)

/-- What is chosen stays chosen when others are left out. -/
theorem head_kept (collation : Collation localeCompare) {chosen : ProviderBenchmark} {keep : ProviderBenchmark → Bool}
    (head : ((input.benchmarks.filter (eligible input)).mergeSort (in_order localeCompare input.posture)).head? =
      some chosen) (kept : keep chosen = true) :
    (((input.benchmarks.filter keep).filter (eligible input)).mergeSort (in_order localeCompare input.posture)).head? =
      some chosen := by
  obtain ⟨rest,sorted⟩ := List.head?_eq_some_iff.mp head
  have commute : (input.benchmarks.filter keep).filter (eligible input) =
      (input.benchmarks.filter (eligible input)).filter keep := by
    rw [List.filter_filter,List.filter_filter]
    exact List.filter_congr (fun item _ => Bool.and_comm ..)
  rw [commute,← filter_mergeSort (in_order_trans collation) (in_order_total collation),sorted,
    List.filter_cons_of_pos kept]
  rfl

end

/-- The choice fails only where no benchmark is eligible. It is of one that no other comes before, and it is made of
    any part of the benchmarks that still has this one. -/
theorem profile_selected {localeCompare : String → String → ℚ} (collation : Collation localeCompare)
    (numeral : ℚ → String) (input : SelectionInput) :
    (selectProfile localeCompare numeral input = none ↔ ∀ item ∈ input.benchmarks, eligible input item = false) ∧
    ∀ selection, selectProfile localeCompare numeral input = some selection → ∃ chosen,
      Chosen localeCompare input chosen ∧ selection = selected numeral input.posture chosen ∧
        ∀ keep : ProviderBenchmark → Bool, keep chosen = true →
          selectProfile localeCompare numeral { input with benchmarks := input.benchmarks.filter keep } =
            some selection := by
  constructor
  · unfold selectProfile
    rw [Option.map_eq_none_iff,List.head?_eq_none_iff,← List.length_eq_zero_iff,List.length_mergeSort,
      List.length_eq_zero_iff,List.filter_eq_nil_iff]
    simp
  · intro selection found
    obtain ⟨chosen,head,rfl⟩ := Option.map_eq_some_iff.mp found
    exact ⟨chosen,head_chosen collation head,rfl,fun keep kept => Option.map_eq_some_iff.mpr
      ⟨chosen,head_kept collation head kept,rfl⟩⟩

/-- The order of the code points. -/
def plain_compare (s t : String) : ℚ := if s ≤ t then (if t ≤ s then 0 else -1) else 1

theorem plain_collation : Collation plain_compare := by
  have below : ∀ s t, plain_compare s t ≤ 0 ↔ s ≤ t := by
    intro s t
    unfold plain_compare
    split_ifs with first second <;> simp [first]
  refine ⟨fun s t => ?_,fun s t u => ?_⟩
  · rw [below,below]
    exact le_total s t
  · rw [below,below,below]
    exact le_trans

def sample_benchmark (profileId : String) (passRate medianLatencyMs : ℚ) : ProviderBenchmark :=
  ⟨profileId,"implementation",8,passRate,1/2,medianLatencyMs,100,0⟩

def sample_input : SelectionInput where
  eligibleProfileIds := ["small","large"]
  taskKind := "implementation"
  posture := .fast
  benchmarks := [sample_benchmark "large" (3/4) 40,sample_benchmark "small" (3/4) 30,sample_benchmark "other" 1 10]
  minimumSamples := none

theorem profile_selected_small :
    ∃ selection chosen, selectProfile plain_compare (fun _ => "8") sample_input = some selection ∧
      Chosen plain_compare sample_input chosen ∧ selection = selected (fun _ => "8") .fast chosen := by
  obtain ⟨unchosen,found⟩ := profile_selected plain_collation (fun _ => "8") sample_input
  have some : ∃ benchmark ∈ sample_input.benchmarks, eligible sample_input benchmark = true := by decide +kernel
  cases is : selectProfile plain_compare (fun _ => "8") sample_input with
  | none =>
    obtain ⟨benchmark,listed,may⟩ := some
    simp [unchosen.mp is benchmark listed] at may
  | some selection =>
    obtain ⟨chosen,first,made,_⟩ := found selection is
    exact ⟨selection,chosen,rfl,first,made⟩

end V3Aidlc.ProfileSelections
