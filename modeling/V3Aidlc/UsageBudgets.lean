import V3Aidlc.Operations
import Mathlib.Data.List.Perm.Subperm

/-!
Usage ledgers and budgets (`operations.py`). A ledger is aggregated part by part, in any order
(`ledger_split`), and the more of a ledger has been recorded the stricter is the decision of a budget on it
(`budget_tightens`).
-/
namespace V3Aidlc.UsageBudgets
open V3Aidlc.Values V3Aidlc.Loops V3Aidlc.Contracts V3Aidlc.Timestamps
open V3Aidlc.Operations (operations_error reject required_string)

/-! ### Entries -/

def USAGE_STRINGS : List String :=
  ["entryId","projectId","workPackageId","runId","provider","model","occurredAt","currency"]
def USAGE_AMOUNTS : List String := ["inputUnits","outputUnits","toolSeconds","storageByteHours","costMicros"]

/-- `_parse_time`. -/
def parse_time (value : Json) (key : String) : Py Instant :=
  match value with
  | .str s => parse_timestamp .OperationsError s key
  | _ => operations_error (key ++ " must be an ISO-8601 timestamp")

/-- `_nonnegative_int`; a truth value is not an integer here. -/
def nonnegative_int (value : Json) (key : String) : Py Nat :=
  match value with
  | .int n => if n < 0 then operations_error (key ++ " must be a non-negative integer") else .ok n.toNat
  | _ => operations_error (key ++ " must be a non-negative integer")

def entry_id (entry : Dict) : String := text entry "entryId"
def currency (entry : Dict) : String := text entry "currency"
/-- An amount of a validated entry. -/
def amount (entry : Dict) (key : String) : Nat :=
  match entry.get key with
  | .int n => n.toNat
  | _ => 0

section
-- `str.isupper`, whose tables are those of the interpreter
variable (isupper : String → Bool)

def validate_usage (entry : Dict) : Py Unit := do
  required_strings .OperationsError entry USAGE_STRINGS
  let _ ← parse_time (entry.get "occurredAt") "occurredAt"
  USAGE_AMOUNTS.forM (fun key => do
    let _ ← nonnegative_int (entry.get key) key
    return ())
  reject ((currency entry).length ≠ 3 || !isupper (currency entry)) "currency must be an uppercase ISO-style code"

/-! ### Ledgers -/

structure UsageReport where
  totals : List (String × Nat)
  currency : String
  entryCount : Nat
  deriving DecidableEq

structure Tally where
  seen : List String
  totals : List (String × Nat)
  currencies : List String

def no_totals : List (String × Nat) := USAGE_AMOUNTS.map (fun key => (key,0))

def add_usage (tally : Tally) (entry : Dict) : Py Tally := do
  validate_usage isupper entry
  reject (tally.seen.contains (entry_id entry)) ("duplicate usage entry: " ++ entry_id entry)
  return {
    seen := tally.seen ++ [entry_id entry]
    totals := tally.totals.map (fun total => (total.1,total.2 + amount entry total.1))
    currencies := if tally.currencies.contains (currency entry) then tally.currencies
      else tally.currencies ++ [currency entry] }

def aggregate_usage (entries : List Dict) : Py UsageReport := do
  let tally ← entries.foldlM (add_usage isupper) ⟨[],no_totals,[]⟩
  reject (1 < tally.currencies.length) "usage aggregation cannot mix currencies"
  return ⟨tally.totals,tally.currencies.head?.getD "USD",entries.length⟩

end

/-! ### Budgets -/

inductive BudgetDecision where
  | WITHIN
  | WARN
  | BLOCK
  deriving DecidableEq

structure BudgetEvaluation where
  budget_id : String
  decision : BudgetDecision
  actual : Nat
  limit : Nat
  remaining : Int
  reasons : List String

def budget_decision (limit warn_at actual : Nat) : BudgetDecision × List String :=
  if limit < actual then (.BLOCK,["budget limit exceeded"])
  else if warn_at ≤ actual then (.WARN,["budget warning threshold reached"])
  else (.WITHIN,["budget remains available"])

def evaluate_budget (budget : Dict) (actual : Json) : Py BudgetEvaluation := do
  required_strings .OperationsError budget ["budgetId","dimension","period"]
  let limit ← nonnegative_int (budget.get "limit") "limit"
  let warn_at ← nonnegative_int (budget.get "warnAt") "warnAt"
  let actual ← nonnegative_int actual "actual"
  reject (limit < 1 || limit < warn_at) "budget thresholds are invalid"
  let (decision,reasons) := budget_decision limit warn_at actual
  return ⟨text budget "budgetId",decision,actual,limit,limit - actual,reasons⟩

/-! ### What an aggregation accepts -/

def total (entries : List Dict) (key : String) : Nat := (entries.map (fun entry => amount entry key)).sum

def report (entries : List Dict) : UsageReport :=
  ⟨USAGE_AMOUNTS.map (fun key => (key,total entries key)),(entries.map currency).head?.getD "USD",entries.length⟩

variable {isupper : String → Bool}

/-- Entries that belong in one ledger. -/
structure Ledger (isupper : String → Bool) (entries : List Dict) : Prop where
  valid : ∀ entry ∈ entries, validate_usage isupper entry = .ok ()
  ids : (entries.map entry_id).Nodup
  currencies : ∀ entry ∈ entries, ∀ other ∈ entries, currency entry = currency other

/-- The currencies so far, each once. -/
def Seen (currencies : List String) (entries : List Dict) : Prop :=
  currencies.Nodup ∧ currencies.head? = (entries.map currency).head? ∧ ∀ s, s ∈ currencies ↔ ∃ entry ∈ entries, currency entry = s

theorem seen_add {currencies : List String} {entries : List Dict} (seen : Seen currencies entries) (entry : Dict) :
    Seen (if currencies.contains (currency entry) then currencies else currencies ++ [currency entry])
      (entries ++ [entry]) := by
  obtain ⟨distinct,first,same⟩ := seen
  by_cases known : currency entry ∈ currencies
  · obtain ⟨other,member,_⟩ := (same (currency entry)).mp known
    have filled : entries ≠ [] := List.ne_nil_of_mem member
    rw [if_pos (by simpa using known)]
    refine ⟨distinct,?_,fun s => ?_⟩
    · rw [first]
      cases entries with
      | nil => exact absurd rfl filled
      | cons head rest => rfl
    · rw [same]
      grind
  · rw [if_neg (by simpa using known)]
    refine ⟨List.nodup_append.mpr ⟨distinct,by simp,?_⟩,?_,fun s => ?_⟩
    · intro a inside b last same
      rw [List.mem_singleton.mp last] at same
      exact known (same ▸ inside)
    · rw [List.head?_append,first,List.map_append,List.head?_append]
      rfl
    · rw [List.mem_append,same]
      grind

/-- The tally after entries. -/
theorem tallied {entries : List Dict} {tally : Tally} :
    entries.foldlM (add_usage isupper) ⟨[],no_totals,[]⟩ = .ok tally →
      (∀ entry ∈ entries, validate_usage isupper entry = .ok ()) ∧ (entries.map entry_id).Nodup ∧
        tally.seen = entries.map entry_id ∧ tally.totals = (report entries).totals ∧ Seen tally.currencies entries := by
  induction entries using List.reverseRecOn generalizing tally with
  | nil =>
    intro ran
    obtain rfl := Loops.foldlM_nil_ok.mp ran
    simp [report,total,no_totals,Seen]
  | append_singleton entries entry ih =>
    intro ran
    obtain ⟨before,earlier,last⟩ := Loops.foldlM_snoc_ok.mp ran
    obtain ⟨valid,distinct,ids,totals,seen⟩ := ih earlier
    obtain ⟨⟨⟩,fine,last⟩ := Loops.bind_ok_iff.mp last
    obtain ⟨⟨⟩,fresh,last⟩ := Loops.bind_ok_iff.mp last
    obtain rfl := Loops.pure_ok_iff.mp last
    have unseen : entry_id entry ∉ entries.map entry_id := by simpa [reject,ids] using fresh
    refine ⟨?_,?_,?_,?_,seen_add seen entry⟩
    · intro other member
      rcases List.mem_append.mp member with early | new
      · exact valid other early
      · rw [List.mem_singleton.mp new]
        exact fine
    · rw [List.map_append]
      exact List.nodup_append.mpr ⟨distinct,by simp,by simpa using fun x inside same => unseen (by simpa using ⟨x,inside,same⟩)⟩
    · simp [ids]
    · simp [totals,report,total,List.map_map,Function.comp_def]

theorem ledger_tally {entries : List Dict} (valid : ∀ entry ∈ entries, validate_usage isupper entry = .ok ())
    (distinct : (entries.map entry_id).Nodup) : ∃ tally, entries.foldlM (add_usage isupper) ⟨[],no_totals,[]⟩ = .ok tally := by
  induction entries using List.reverseRecOn with
  | nil => exact ⟨_,rfl⟩
  | append_singleton entries entry ih =>
    rw [List.map_append] at distinct
    obtain ⟨before,_,apart⟩ := List.nodup_append.mp distinct
    obtain ⟨tally,earlier⟩ := ih (fun other member => valid other (List.mem_append_left _ member)) before
    obtain ⟨_,_,ids,_⟩ := tallied earlier
    have fresh : entry_id entry ∉ tally.seen := by
      rw [ids]
      exact fun member => apart _ member _ (by simp) rfl
    have ran : ∃ next, add_usage isupper tally entry = .ok next := by
      simp only [add_usage,valid entry (by simp),Loops.ok_bind]
      simp [reject,fresh]
    obtain ⟨next,ran⟩ := ran
    exact ⟨next,Loops.foldlM_snoc_ok.mpr ⟨tally,earlier,ran⟩⟩

/-- What is aggregated is a ledger, and the result is made of its sums. -/
theorem aggregate_ok {entries : List Dict} {result : UsageReport} :
    aggregate_usage isupper entries = .ok result ↔ Ledger isupper entries ∧ result = report entries := by
  have of_tally : ∀ tally, entries.foldlM (add_usage isupper) ⟨[],no_totals,[]⟩ = .ok tally →
      (aggregate_usage isupper entries = .ok result ↔ tally.currencies.length ≤ 1 ∧ report entries = result) := by
    intro tally ran
    obtain ⟨_,_,_,totals,_,first,_⟩ := tallied ran
    simp only [aggregate_usage,ran,Loops.ok_bind]
    rw [totals,first]
    simp [reject,report]
  have one_currency : ∀ tally, entries.foldlM (add_usage isupper) ⟨[],no_totals,[]⟩ = .ok tally →
      (tally.currencies.length ≤ 1 ↔ ∀ entry ∈ entries, ∀ other ∈ entries, currency entry = currency other) := by
    intro tally ran
    obtain ⟨_,_,_,_,distinct,_,same⟩ := tallied ran
    constructor
    · intro short entry member other inside
      have here := (same (currency entry)).mpr ⟨entry,member,rfl⟩
      have there := (same (currency other)).mpr ⟨other,inside,rfl⟩
      rcases held : tally.currencies with _ | ⟨s,_ | ⟨t,rest⟩⟩ <;> rw [held] at here there short
      · simp at here
      · rw [List.mem_singleton.mp here,List.mem_singleton.mp there]
      · simp at short
    · intro equal
      rcases held : tally.currencies with _ | ⟨s,_ | ⟨t,rest⟩⟩
      · simp
      · simp
      · obtain ⟨entry,member,first⟩ := (same s).mp (by simp [held])
        obtain ⟨other,inside,second⟩ := (same t).mp (by simp [held])
        have apart : s ≠ t := by
          rw [held] at distinct
          exact fun equals => (List.nodup_cons.mp distinct).1 (by simp [equals])
        exact absurd (first.symm.trans ((equal entry member other inside).trans second)) apart
  constructor
  · intro ran
    obtain ⟨tally,counted,_⟩ := Loops.bind_ok_iff.mp ran
    obtain ⟨valid,distinct,_⟩ := tallied counted
    obtain ⟨short,same⟩ := (of_tally tally counted).mp ran
    exact ⟨⟨valid,distinct,(one_currency tally counted).mp short⟩,same.symm⟩
  · rintro ⟨ledger,rfl⟩
    obtain ⟨tally,counted⟩ := ledger_tally ledger.valid ledger.ids
    exact (of_tally tally counted).mpr ⟨(one_currency tally counted).mpr ledger.currencies,rfl⟩

/-! ### Parts of a ledger -/

/-- Two reports as one. -/
def UsageReport.plus (first second : UsageReport) : UsageReport :=
  ⟨List.zipWith (fun a b => (a.1,a.2 + b.2)) first.totals second.totals,
    if first.entryCount = 0 then second.currency else first.currency,first.entryCount + second.entryCount⟩

/-- The entries may stand in one ledger. -/
def Compatible (entry other : Dict) : Prop := entry_id entry ≠ entry_id other ∧ currency entry = currency other

theorem report_append (front back : List Dict) : report (front ++ back) = (report front).plus (report back) := by
  have totals : List.zipWith (fun a b : String × Nat => (a.1,a.2 + b.2)) (report front).totals (report back).totals =
      (report (front ++ back)).totals := by
    simp [report,total,List.zipWith_map,List.zipWith_self,List.map_append,List.sum_append]
  unfold UsageReport.plus
  rw [totals]
  cases front with
  | nil => simp [report]
  | cons entry rest =>
    simp [report]
    omega

theorem ledger_append {front back : List Dict} : Ledger isupper (front ++ back) ↔
    Ledger isupper front ∧ Ledger isupper back ∧ ∀ entry ∈ front, ∀ other ∈ back, Compatible entry other := by
  constructor
  · rintro ⟨valid,ids,currencies⟩
    rw [List.map_append] at ids
    obtain ⟨first,second,apart⟩ := List.nodup_append.mp ids
    refine ⟨⟨fun entry member => valid entry (by simp [member]),first,fun entry member other inside =>
        currencies entry (by simp [member]) other (by simp [inside])⟩,
      ⟨fun entry member => valid entry (by simp [member]),second,fun entry member other inside =>
        currencies entry (by simp [member]) other (by simp [inside])⟩,fun entry member other inside => ⟨?_,?_⟩⟩
    · exact apart _ (List.mem_map_of_mem member) _ (List.mem_map_of_mem inside)
    · exact currencies entry (by simp [member]) other (by simp [inside])
  · rintro ⟨first,second,compatible⟩
    refine ⟨fun entry member => ?_,?_,fun entry member other inside => ?_⟩
    · rcases List.mem_append.mp member with early | late
      · exact first.valid entry early
      · exact second.valid entry late
    · rw [List.map_append]
      refine List.nodup_append.mpr ⟨first.ids,second.ids,fun a member b inside => ?_⟩
      obtain ⟨entry,early,rfl⟩ := List.mem_map.mp member
      obtain ⟨other,late,rfl⟩ := List.mem_map.mp inside
      exact (compatible entry early other late).1
    · rcases List.mem_append.mp member with early | late <;> rcases List.mem_append.mp inside with early' | late'
      · exact first.currencies entry early other early'
      · exact (compatible entry early other late').2
      · exact (compatible other early' entry late).2.symm
      · exact second.currencies entry late other late'

/-- A ledger is aggregated in two parts: exactly when both are ledgers whose entries go together, and to the sum. -/
theorem ledger_split (front back : List Dict) (result : UsageReport) :
    aggregate_usage isupper (front ++ back) = .ok result ↔
      ∃ first second, aggregate_usage isupper front = .ok first ∧ aggregate_usage isupper back = .ok second ∧
        (∀ entry ∈ front, ∀ other ∈ back, Compatible entry other) ∧ result = first.plus second := by
  simp only [aggregate_ok,ledger_append,report_append]
  constructor
  · rintro ⟨⟨first,second,compatible⟩,rfl⟩
    exact ⟨_,_,⟨first,rfl⟩,⟨second,rfl⟩,compatible,rfl⟩
  · rintro ⟨_,_,⟨first,rfl⟩,⟨second,rfl⟩,compatible,rfl⟩
    exact ⟨⟨first,second,compatible⟩,rfl⟩

/-! ### Decisions on a growing ledger -/

/-- A total of the report. -/
def UsageReport.amount (report : UsageReport) (key : String) : Nat := (report.totals.lookup key).getD 0

def BudgetDecision.rank : BudgetDecision → Nat
  | .WITHIN => 0
  | .WARN => 1
  | .BLOCK => 2

theorem lookup_made (f : String → Nat) (keys : List String) (key : String) :
    ((keys.map (fun k => (k,f k))).lookup key).getD 0 = if key ∈ keys then f key else 0 := by
  induction keys with
  | nil => simp
  | cons head rest ih =>
    by_cases this : key = head
    · simp [this]
    · have other : (key == head) = false := by simpa using this
      rw [List.map_cons,List.lookup_cons,other]
      simp only [ih]
      simp [this]

theorem report_amount (entries : List Dict) (key : String) :
    (report entries).amount key = if key ∈ USAGE_AMOUNTS then total entries key else 0 := lookup_made ..

theorem ledger_sub {part whole : List Dict} (inside : part.Subperm whole) (ledger : Ledger isupper whole) :
    Ledger isupper part := by
  obtain ⟨order,same,sub⟩ := inside
  refine ⟨fun entry member => ledger.valid entry (sub.subset (same.mem_iff.mpr member)),?_,fun entry member other there =>
    ledger.currencies entry (sub.subset (same.mem_iff.mpr member)) other (sub.subset (same.mem_iff.mpr there))⟩
  exact ((same.map entry_id).nodup_iff).mp (ledger.ids.sublist (sub.map entry_id))

theorem total_le {part whole : List Dict} (inside : part.Subperm whole) (key : String) : total part key ≤ total whole key := by
  obtain ⟨order,same,sub⟩ := inside
  have equal : total order key = total part key := (same.map _).sum_eq
  rw [← equal]
  exact (sub.map _).sum_le_sum (by simp)

theorem nonnegative_int_nat (n : Nat) (key : String) : nonnegative_int (.int n) key = .ok n := by
  have least : ¬ (n : Int) < 0 := by omega
  simp only [nonnegative_int,least,if_false]
  rfl

theorem evaluate_budget_ok {budget : Dict} {actual : Nat} {result : BudgetEvaluation}
    (ran : evaluate_budget budget (.int actual) = .ok result) : ∃ limit warn_at, nonnegative_int (budget.get "limit") "limit" = .ok limit ∧
      nonnegative_int (budget.get "warnAt") "warnAt" = .ok warn_at ∧ warn_at ≤ limit ∧
      result.decision = (budget_decision limit warn_at actual).1 ∧ result.remaining = limit - actual := by
  obtain ⟨_,_,ran⟩ := Loops.bind_ok_iff.mp ran
  obtain ⟨limit,limited,ran⟩ := Loops.bind_ok_iff.mp ran
  obtain ⟨warn_at,warned,ran⟩ := Loops.bind_ok_iff.mp ran
  obtain ⟨given,counted,ran⟩ := Loops.bind_ok_iff.mp ran
  obtain ⟨⟨⟩,fine,ran⟩ := Loops.bind_ok_iff.mp ran
  obtain rfl := Loops.pure_ok_iff.mp ran
  obtain rfl : actual = given := Except.ok.inj ((nonnegative_int_nat actual "actual").symm.trans counted)
  have fine : (decide (limit < 1) || decide (limit < warn_at)) = false := (reject_if_ok .OperationsError).mp fine
  have ordered : warn_at ≤ limit := by
    rw [Bool.or_eq_false_iff,decide_eq_false_iff_not,decide_eq_false_iff_not] at fine
    omega
  exact ⟨limit,warn_at,limited,warned,ordered,rfl,rfl⟩

theorem decision_mono {limit warn_at less more : Nat} (ordered : warn_at ≤ limit) (grown : less ≤ more) :
    (budget_decision limit warn_at less).1.rank ≤ (budget_decision limit warn_at more).1.rank := by
  unfold budget_decision
  split_ifs <;> simp [BudgetDecision.rank] <;> omega

/-- Entries of a ledger, in any order, are a ledger; and no budget decides less strictly on the whole than on them. -/
theorem budget_tightens {part whole : List Dict} {result : UsageReport} (inside : part.Subperm whole)
    (ran : aggregate_usage isupper whole = .ok result) :
    ∃ earlier, aggregate_usage isupper part = .ok earlier ∧
      ∀ budget key before after, evaluate_budget budget (.int (earlier.amount key)) = .ok before →
        evaluate_budget budget (.int (result.amount key)) = .ok after →
        before.decision.rank ≤ after.decision.rank ∧ after.remaining ≤ before.remaining := by
  obtain ⟨ledger,rfl⟩ := aggregate_ok.mp ran
  refine ⟨report part,aggregate_ok.mpr ⟨ledger_sub inside ledger,rfl⟩,?_⟩
  intro budget key before after first second
  have grown : (report part).amount key ≤ (report whole).amount key := by
    rw [report_amount,report_amount]
    by_cases known : key ∈ USAGE_AMOUNTS
    · simpa [known] using total_le inside key
    · simp [known]
  obtain ⟨limit,warn_at,limited,warned,ordered,decided,remaining⟩ := evaluate_budget_ok first
  obtain ⟨limit',warn_at',limited',warned',_,decided',remaining'⟩ := evaluate_budget_ok second
  obtain rfl : limit = limit' := Except.ok.inj (limited.symm.trans limited')
  obtain rfl : warn_at = warn_at' := Except.ok.inj (warned.symm.trans warned')
  rw [decided,decided',remaining,remaining']
  exact ⟨decision_mono ordered grown,by omega⟩

def ascii_upper (s : String) : Bool := s.toList.all Char.isUpper

def sample_usage (id : String) (units : Int) : Dict :=
  [("entryId",.str id),("projectId",.str "PRJ-1"),("workPackageId",.str "WP-1"),("runId",.str "RUN-1"),
    ("provider",.str "local"),("model",.str "small"),("occurredAt",.str "2026-09-17T12:00:00Z"),("currency",.str "EUR"),
    ("inputUnits",.int units),("outputUnits",.int 0),("toolSeconds",.int 0),("storageByteHours",.int 0),
    ("costMicros",.int 3)]

/-- The later of two entries, and both. -/
theorem budget_tightens_recorded :
    ∃ earlier, aggregate_usage ascii_upper [sample_usage "U-2" 5] = .ok earlier ∧
      ∀ budget key before after, evaluate_budget budget (.int (earlier.amount key)) = .ok before →
        evaluate_budget budget (.int ((report [sample_usage "U-1" 4,sample_usage "U-2" 5]).amount key)) = .ok after →
        before.decision.rank ≤ after.decision.rank ∧ after.remaining ≤ before.remaining :=
  budget_tightens (List.Sublist.subperm (by simp)) (show aggregate_usage ascii_upper
    [sample_usage "U-1" 4,sample_usage "U-2" 5] = .ok (report [sample_usage "U-1" 4,sample_usage "U-2" 5]) by decide +kernel)

end V3Aidlc.UsageBudgets
