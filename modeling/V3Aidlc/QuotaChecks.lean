import V3Aidlc.OrganizationQuotas
import V3Aidlc.Organizations
import V3Aidlc.PlainObjects

/-!
`checkQuota` (`packages/organizations`) beside the consumption of the stored quotas (`packages/database`). Costs that
are allowed can be consumed, one call for each and in any order, and costs that are refused cannot; only a cost that
is not a number, of a dimension with a quota, is allowed and cannot be consumed (`checked_consumed`).
-/
namespace V3Aidlc.QuotaChecks
open V3Aidlc.OrganizationQuotas V3Aidlc.InsertionMaps V3Aidlc.PlainObjects V3Aidlc.Transactions V3Aidlc.Groups
open V3Aidlc.ProjectLead (JsNumber)
open V3Aidlc.Organizations (AuthorizationResult)
open V3Aidlc.WorkPackages (Thrown)

structure QuotaGrant where
  dimension : String
  maximum : ℚ
  used : ℚ

/-- `cost < 0 || grant.used + cost > grant.maximum`. No comparison with NaN holds. -/
def exceeds (grant : QuotaGrant) : JsNumber → Bool
  | .nan => false
  | .infinity _ => true
  | .finite cost => cost < 0 || grant.maximum < grant.used + cost

/-- Why a cost is refused. -/
def refusal (grants : List QuotaGrant) (entry : String × JsNumber) : Option String :=
  match grants.find? (fun item => item.dimension = entry.1) with
  | none => some ("No organization quota is configured for " ++ entry.1 ++ ".")
  | some grant =>
    if exceeds grant entry.2 then some ("The organization quota for " ++ entry.1 ++ " would be exceeded.") else none

def checkQuota (grants : List QuotaGrant) (costs : InsertionMap String JsNumber) : AuthorizationResult :=
  match (own_entries costs).findSome? (refusal grants) with
  | some reason => ⟨false,reason,none⟩
  | none => ⟨true,"The requested capacity is within organization quotas.",none⟩

/-- The grants that the stored quotas of an organization are. -/
def grants_of (organizationId : String) (quotas : List OrganizationQuotaRow) : List QuotaGrant :=
  (quotas.filter (fun row => row.organizationId = organizationId)).map (fun row => ⟨row.dimension,row.maximum,row.used⟩)

/-- Consumptions one after the other, up to the first that throws. -/
def consume_all (organizationId : String) (entries : List (String × JsNumber)) (quotas : List OrganizationQuotaRow) :
    Except Thrown (List OrganizationQuotaRow) :=
  entries.foldlM (fun quotas entry => serial (consumeOrganizationQuota organizationId entry.1 entry.2) quotas) quotas

def row_of (organizationId dimension : String) (quotas : List OrganizationQuotaRow) : Option OrganizationQuotaRow :=
  quotas.find? (fun row => row.account = (organizationId,dimension))

/-- The amount can be taken from the quota. -/
def Affordable (organizationId : String) (quotas : List OrganizationQuotaRow) (entry : String × JsNumber) : Prop :=
  ∃ value row, entry.2 = .finite value ∧ 0 ≤ value ∧ row_of organizationId entry.1 quotas = some row ∧
    row.used + value ≤ row.maximum

/-- The row after an amount was taken. -/
def charged (value : ℚ) (row : OrganizationQuotaRow) : OrganizationQuotaRow :=
  { row with used := row.used + value,version := row.version + 1 }

section
variable {organizationId dimension : String} {quotas after : List OrganizationQuotaRow} {value : ℚ}
  {row : OrganizationQuotaRow}

/-! ### One consumption -/

theorem counted_once (keyed : Keyed quotas) (member : row ∈ quotas) :
    quotas.countP (fun other => Unchanged row other) = 1 := by
  have distinct : quotas.Nodup := keyed.ids.of_map
  have own : (fun other => decide (Unchanged row other)) row = true := by simp [Unchanged]
  rw [List.countP_eq_length_filter,filter_unique distinct member own]
  · rfl
  · intro other inside unchanged
    exact List.inj_on_of_nodup_map keyed.ids inside member (of_decide_eq_true unchanged).1

theorem consumed_ok (keyed : Keyed quotas) {entry : String × JsNumber} :
    serial (consumeOrganizationQuota organizationId entry.1 entry.2) quotas = .ok after ↔
      ∃ value row, entry.2 = .finite value ∧ 0 ≤ value ∧ row_of organizationId entry.1 quotas = some row ∧
        row.used + value ≤ row.maximum ∧ after = quotas.map (consume row value) := by
  rw [serial_ok]
  constructor
  · rintro ⟨statements,saw,executed⟩
    obtain ⟨value,row,finite,positive,found,allowed,rfl⟩ := consumeOrganizationQuota_ok.mp saw
    exact ⟨value,row,finite,positive,found,allowed,(execute_quota_ok.mp executed).2⟩
  · rintro ⟨value,row,finite,positive,found,allowed,rfl⟩
    exact ⟨_,consumeOrganizationQuota_ok.mpr ⟨value,row,finite,positive,found,allowed,rfl⟩,
      execute_quota_ok.mpr ⟨counted_once keyed (List.mem_of_find?_eq_some found),rfl⟩⟩

theorem consumed_keyed (keyed : Keyed quotas) : Keyed (quotas.map (consume row value)) := by
  refine keyed_of_identities ?_ keyed
  rw [List.map_map]
  exact List.map_congr_left fun other _ => consume_identity row value other

/-- The quota of another dimension is as before. -/
theorem consumed_other (keyed : Keyed quotas) (found : row_of organizationId dimension quotas = some row)
    {other : String} (apart : other ≠ dimension) :
    row_of organizationId other (quotas.map (consume row value)) = row_of organizationId other quotas := by
  have accounts : (fun quota => decide (quota.account = (organizationId,other))) ∘ consume row value =
      fun quota => decide (quota.account = (organizationId,other)) := by
    funext quota
    simp only [Function.comp_apply,consume_account]
  unfold row_of
  rw [List.find?_map,accounts]
  cases held : quotas.find? (fun quota => quota.account = (organizationId,other)) with
  | none => rfl
  | some quota =>
    have own : row.account = (organizationId,dimension) := by simpa using List.find?_some found
    have others : quota.account = (organizationId,other) := by simpa using List.find?_some held
    have differ : quota.id ≠ row.id := by
      intro same
      obtain rfl := List.inj_on_of_nodup_map keyed.ids (List.mem_of_find?_eq_some held)
        (List.mem_of_find?_eq_some found) same
      exact apart (congrArg Prod.snd (others.symm.trans own))
    simp [consume,Unchanged,differ]

theorem consumed_own (found : row_of organizationId dimension quotas = some row) :
    row_of organizationId dimension (quotas.map (consume row value)) = some (charged value row) := find_consume found

/-! ### All of them -/

theorem other_dimension {entry : String × JsNumber} {rest : List (String × JsNumber)}
    (alone : entry.1 ∉ rest.map Prod.fst) : ∀ other ∈ rest, other.1 ≠ entry.1 :=
  fun _ member same => alone (same ▸ List.mem_map_of_mem member)

/-- Amounts of different dimensions can be taken, in the order given, exactly when each can be taken at the start. -/
theorem consume_all_iff {entries : List (String × JsNumber)} (keyed : Keyed quotas)
    (distinct : (entries.map Prod.fst).Nodup) :
    (∃ after, consume_all organizationId entries quotas = .ok after) ↔
      ∀ entry ∈ entries, Affordable organizationId quotas entry := by
  induction entries generalizing quotas with
  | nil => exact ⟨fun _ entry member => by simp at member,fun _ => ⟨quotas,rfl⟩⟩
  | cons entry rest ih =>
    obtain ⟨alone,distinct⟩ := List.nodup_cons.mp distinct
    have apart := other_dimension alone
    constructor
    · rintro ⟨after,ran⟩
      obtain ⟨middle,first,later⟩ := Loops.foldlM_cons_ok.mp ran
      obtain ⟨value,row,finite,positive,found,allowed,rfl⟩ := (consumed_ok keyed).mp first
      intro other member
      rcases List.mem_cons.mp member with rfl | inside
      · exact ⟨value,row,finite,positive,found,allowed⟩
      · have affordable := (ih (consumed_keyed keyed) distinct).mp ⟨after,later⟩ other inside
        unfold Affordable at affordable ⊢
        rwa [consumed_other keyed found (apart other inside)] at affordable
    · intro affordable
      obtain ⟨value,row,finite,positive,found,allowed⟩ := affordable entry (by simp)
      have later : ∀ other ∈ rest, Affordable organizationId (quotas.map (consume row value)) other := by
        intro other inside
        unfold Affordable
        rw [consumed_other keyed found (apart other inside)]
        exact affordable other (List.mem_cons_of_mem _ inside)
      obtain ⟨after,ran⟩ := (ih (consumed_keyed keyed) distinct).mpr later
      exact ⟨after,Loops.foldlM_cons_ok.mpr
        ⟨_,(consumed_ok keyed).mpr ⟨value,row,finite,positive,found,allowed,rfl⟩,ran⟩⟩

/-- Each amount is taken once, from the quota of its own dimension. -/
theorem consume_all_taken {entries : List (String × JsNumber)} (keyed : Keyed quotas)
    (distinct : (entries.map Prod.fst).Nodup) (ran : consume_all organizationId entries quotas = .ok after) :
    (∀ dimension ∉ entries.map Prod.fst, row_of organizationId dimension after = row_of organizationId dimension quotas) ∧
      ∀ dimension value, (dimension,.finite value) ∈ entries →
        row_of organizationId dimension after = (row_of organizationId dimension quotas).map (charged value) := by
  induction entries generalizing quotas with
  | nil =>
    obtain rfl : quotas = after := Loops.foldlM_nil_ok.mp ran
    exact ⟨fun _ _ => rfl,fun _ _ member => by simp at member⟩
  | cons entry rest ih =>
    obtain ⟨alone,distinct⟩ := List.nodup_cons.mp distinct
    have apart := other_dimension alone
    obtain ⟨middle,first,later⟩ := Loops.foldlM_cons_ok.mp ran
    obtain ⟨value,row,finite,positive,found,allowed,rfl⟩ := (consumed_ok keyed).mp first
    obtain ⟨others,taken⟩ := ih (consumed_keyed keyed) distinct later
    constructor
    · intro dimension absent
      rw [List.map_cons,List.mem_cons,not_or] at absent
      rw [others dimension absent.2,consumed_other keyed found absent.1]
    · intro dimension amount member
      rcases List.mem_cons.mp member with same | inside
      · obtain ⟨rfl,rfl⟩ : dimension = entry.1 ∧ amount = value := by
          subst same
          exact ⟨rfl,by simpa using finite⟩
        rw [others entry.1 alone,found]
        exact consumed_own found
      · rw [taken dimension amount inside,consumed_other keyed found (apart _ inside)]

/-! ### The check -/

theorem find_grant : (grants_of organizationId quotas).find? (fun item => item.dimension = dimension) =
    (row_of organizationId dimension quotas).map (fun row => ⟨row.dimension,row.maximum,row.used⟩) := by
  unfold grants_of row_of
  rw [List.find?_map,List.find?_filter]
  congr 2
  funext row
  simp [OrganizationQuotaRow.account,Prod.ext_iff]

/-- A cost is not refused when it can be taken, or is no number and there is a quota to compare it with. -/
theorem refusal_none {entry : String × JsNumber} :
    refusal (grants_of organizationId quotas) entry = none ↔
      Affordable organizationId quotas entry ∨ entry.2 = .nan ∧ (row_of organizationId entry.1 quotas).isSome = true := by
  unfold refusal Affordable
  rw [find_grant]
  cases row_of organizationId entry.1 quotas with
  | none => simp
  | some row => cases number : entry.2 <;> simp [exceeds]

theorem affordable_number {entry : String × JsNumber} (affordable : Affordable organizationId quotas entry) :
    entry.2 ≠ .nan := by
  obtain ⟨value,_,finite,_⟩ := affordable
  simp [finite]

theorem nan_unconsumed (organizationId dimension : String) (quotas : List OrganizationQuotaRow) :
    serial (consumeOrganizationQuota organizationId dimension .nan) quotas =
      .error (.Error "Quota consumption must be non-negative") := rfl

theorem allowed_iff {costs : InsertionMap String JsNumber} :
    (checkQuota (grants_of organizationId quotas) costs).allowed = true ↔
      ∀ entry ∈ own_entries costs, refusal (grants_of organizationId quotas) entry = none := by
  unfold checkQuota
  rw [← List.findSome?_eq_none_iff]
  cases (own_entries costs).findSome? (refusal (grants_of organizationId quotas)) <;> simp

end

/-- What is allowed, and is a number, can be consumed in whatever order; then each dimension is charged its cost, and the
    quotas of the others are as they were. What is no number is allowed where there is a quota, and its consumption
    throws. -/
theorem checked_consumed {organizationId : String} {quotas : List OrganizationQuotaRow} (keyed : Keyed quotas)
    {costs : InsertionMap String JsNumber} {order : List (String × JsNumber)} (listed : order.Perm (own_entries costs)) :
    ((checkQuota (grants_of organizationId quotas) costs).allowed = true ∧ (∀ entry ∈ order, entry.2 ≠ .nan) ↔
      ∃ after, consume_all organizationId order quotas = .ok after) ∧
    (∀ after, consume_all organizationId order quotas = .ok after →
      (∀ dimension ∉ order.map Prod.fst, row_of organizationId dimension after = row_of organizationId dimension quotas) ∧
      ∀ dimension value, (dimension,.finite value) ∈ order →
        row_of organizationId dimension after = (row_of organizationId dimension quotas).map (charged value)) ∧
    ((checkQuota (grants_of organizationId quotas) costs).allowed = true ↔ ∀ entry ∈ order,
      Affordable organizationId quotas entry ∨
        entry.2 = .nan ∧ (row_of organizationId entry.1 quotas).isSome = true) ∧
    ∀ dimension later, serial (consumeOrganizationQuota organizationId dimension .nan) later =
      .error (.Error "Quota consumption must be non-negative") := by
  have distinct : (order.map Prod.fst).Nodup := (listed.map Prod.fst).nodup_iff.mpr (own_entries_distinct costs)
  have allowed : (checkQuota (grants_of organizationId quotas) costs).allowed = true ↔ ∀ entry ∈ order,
      Affordable organizationId quotas entry ∨
        entry.2 = .nan ∧ (row_of organizationId entry.1 quotas).isSome = true := by
    rw [allowed_iff]
    simp only [refusal_none,listed.mem_iff]
  refine ⟨?_,fun after ran => consume_all_taken keyed distinct ran,allowed,nan_unconsumed organizationId⟩
  rw [consume_all_iff keyed distinct,allowed]
  constructor
  · rintro ⟨checked,numbers⟩ entry member
    exact (checked entry member).resolve_right fun other => numbers entry member other.1
  · intro affordable
    exact ⟨fun entry member => .inl (affordable entry member),
      fun entry member => affordable_number (affordable entry member)⟩

def runs_quota : OrganizationQuotaRow := ⟨"QUOTA-1","ORG-1","runs",10,9,4⟩
def seats_quota : OrganizationQuotaRow := ⟨"QUOTA-2","ORG-1","seats",5,0,1⟩

def sample_costs (runs : JsNumber) : InsertionMap String JsNumber := ⟨[("runs",runs),("seats",.finite 5)],by simp⟩

theorem sample_listed (runs : JsNumber) : [("seats",JsNumber.finite 5),("runs",runs)].Perm (own_entries (sample_costs runs)) :=
  (List.Perm.swap ..).trans (perm_own_entries (sample_costs runs)).symm

theorem checked_consumed_sample :
    (∃ after, consume_all "ORG-1" [("seats",.finite 5),("runs",.finite 1)] [runs_quota,seats_quota] = .ok after ∧
      row_of "ORG-1" "runs" after = some (charged 1 runs_quota)) ∧
    (checkQuota (grants_of "ORG-1" [runs_quota,seats_quota]) (sample_costs .nan)).allowed = true ∧
    ¬∃ after, consume_all "ORG-1" [("seats",.finite 5),("runs",.nan)] [runs_quota,seats_quota] = .ok after := by
  have keyed : Keyed [runs_quota,seats_quota] := ⟨by decide,by decide⟩
  have runs : row_of "ORG-1" "runs" [runs_quota,seats_quota] = some runs_quota := by decide +kernel
  have seats : row_of "ORG-1" "seats" [runs_quota,seats_quota] = some seats_quota := by decide +kernel
  have run_affordable : Affordable "ORG-1" [runs_quota,seats_quota] ("runs",.finite 1) :=
    ⟨1,runs_quota,rfl,by norm_num,runs,by norm_num [runs_quota]⟩
  have seats_affordable : Affordable "ORG-1" [runs_quota,seats_quota] ("seats",.finite 5) :=
    ⟨5,seats_quota,rfl,by norm_num,seats,by norm_num [seats_quota]⟩
  obtain ⟨ran,taken,checked,_⟩ := @checked_consumed "ORG-1" _ keyed _ _ (sample_listed (.finite 1))
  obtain ⟨after,done⟩ := ran.mp ⟨checked.mpr (by simp [run_affordable,seats_affordable]),by simp⟩
  have charged_runs := (taken after done).2 "runs" 1 (by simp)
  rw [runs] at charged_runs
  obtain ⟨ran',_,checked',_⟩ := @checked_consumed "ORG-1" _ keyed _ _ (sample_listed .nan)
  refine ⟨⟨after,done,charged_runs⟩,checked'.mpr (by simp [runs,seats_affordable]),?_⟩
  intro consumed
  exact (ran'.mpr consumed).2 ("runs",.nan) (by simp) rfl

end V3Aidlc.QuotaChecks
