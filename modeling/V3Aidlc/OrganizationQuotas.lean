import V3Aidlc.Groups
import V3Aidlc.ProjectLead
import V3Aidlc.Transactions
import Mathlib.Algebra.BigOperators.Group.List.Basic
import Mathlib.Algebra.Order.Ring.Rat

/-!
Quotas of an organization (`packages/database`). A call of `consumeOrganizationQuota`
checks the maximum against what it read, and adds to what is stored only when the row
still has the version and the use it read. So however the calls of many clients
interleave, a quota is never overbooked and no consumption is lost (`quota_exact`).
-/
namespace V3Aidlc.OrganizationQuotas
open V3Aidlc.Loops V3Aidlc.Groups V3Aidlc.WorkPackages V3Aidlc.ProjectLead V3Aidlc.Transactions

structure OrganizationQuotaRow where
  id : String
  organizationId : String
  dimension : String
  maximum : ℚ
  used : ℚ
  version : Nat
  deriving DecidableEq

/-- What names a row; no update touches it. -/
def OrganizationQuotaRow.identity (row : OrganizationQuotaRow) : String × String × String :=
  (row.id,row.organizationId,row.dimension)

/-- The unique index on organization and dimension. -/
def OrganizationQuotaRow.account (row : OrganizationQuotaRow) : String × String := (row.organizationId,row.dimension)

/-- `prisma.organizationQuota.create`, with the defaults and the two unique
    indexes of the table. -/
def create_quota (id organizationId dimension : String) (maximum : ℚ) (quotas : List OrganizationQuotaRow) :
    Except Thrown (List OrganizationQuotaRow) :=
  if quotas.any (fun row => row.id = id) then .error (.Error "Unique constraint failed on the fields: (id)")
  else if quotas.any (fun row => row.account = (organizationId,dimension)) then
    .error (.Error "Unique constraint failed on the fields: (organizationId,dimension)")
  else .ok (quotas ++ [⟨id,organizationId,dimension,maximum,0,1⟩])

def setOrganizationQuota (id organizationId dimension : String) (maximum : JsNumber)
    (quotas : List OrganizationQuotaRow) : Except Thrown (List OrganizationQuotaRow) :=
  match maximum with
  | .finite value =>
    if value < 0 then .error (.Error "Quota maximum must be non-negative")
    else create_quota id organizationId dimension value quotas
  | _ => .error (.Error "Quota maximum must be non-negative")

/-- The condition of the update: the row, at the version and the use read. -/
def Unchanged (quota row : OrganizationQuotaRow) : Prop :=
  row.id = quota.id ∧ row.version = quota.version ∧ row.used = quota.used

instance (quota row : OrganizationQuotaRow) : Decidable (Unchanged quota row) :=
  inferInstanceAs (Decidable (_ ∧ _ ∧ _))

def consume (quota : OrganizationQuotaRow) (amount : ℚ) (row : OrganizationQuotaRow) : OrganizationQuotaRow :=
  if Unchanged quota row then { row with used := row.used + amount, version := row.version + 1 } else row

/-- `tx.organizationQuota.updateMany`, and the check of the count. -/
def update_quota (quota : OrganizationQuotaRow) (amount : ℚ) (quotas : List OrganizationQuotaRow) :
    Except Thrown (List OrganizationQuotaRow) :=
  if quotas.countP (fun row => Unchanged quota row) ≠ 1 then .error (.Error "Concurrent quota update detected")
  else .ok (quotas.map (consume quota amount))

/-- `consumeOrganizationQuota` up to its write: the amount is checked before the
    transaction, the maximum against the row read in it. -/
def consumeOrganizationQuota (organizationId dimension : String) (amount : JsNumber)
    (quotas : List OrganizationQuotaRow) :
    Except Thrown (List (List OrganizationQuotaRow → Except Thrown (List OrganizationQuotaRow))) :=
  match amount with
  | .finite value =>
    if value < 0 then .error (.Error "Quota consumption must be non-negative")
    else
      match quotas.find? (fun row => row.account = (organizationId,dimension)) with
      | none => .error (.Error "No OrganizationQuota found")
      | some quota =>
        if quota.maximum < quota.used + value then .error (.Error ("Organization quota exceeded for " ++ dimension))
        else .ok [update_quota quota value]
  | _ => .error (.Error "Quota consumption must be non-negative")

theorem consumeOrganizationQuota_ok {organizationId dimension : String} {amount : JsNumber}
    {quotas : List OrganizationQuotaRow}
    {statements : List (List OrganizationQuotaRow → Except Thrown (List OrganizationQuotaRow))} :
    consumeOrganizationQuota organizationId dimension amount quotas = .ok statements ↔
      ∃ value quota, amount = .finite value ∧ 0 ≤ value ∧
        quotas.find? (fun row => row.account = (organizationId,dimension)) = some quota ∧
        quota.used + value ≤ quota.maximum ∧ statements = [update_quota quota value] := by
  unfold consumeOrganizationQuota
  cases amount with
  | nan => simp
  | infinity negative => simp
  | finite value =>
    by_cases negative : value < 0
    · simp [negative]
    cases found : quotas.find? (fun row => row.account = (organizationId,dimension)) with
    | none => simp [negative]
    | some quota =>
      by_cases exceeded : quota.maximum < quota.used + value
      · simp [negative,exceeded]
      · simp only [negative,exceeded,↓reduceIte,Except.ok.injEq,JsNumber.finite.injEq,Option.some.injEq]
        constructor
        · rintro rfl
          exact ⟨value,quota,rfl,not_lt.mp negative,rfl,not_lt.mp exceeded,rfl⟩
        · rintro ⟨_,_,rfl,_,rfl,_,rfl⟩
          rfl

theorem execute_quota_ok {quota : OrganizationQuotaRow} {amount : ℚ} {quotas after : List OrganizationQuotaRow} :
    execute [update_quota quota amount] quotas = .ok after ↔
      quotas.countP (fun row => Unchanged quota row) = 1 ∧ after = quotas.map (consume quota amount) := by
  simp only [execute_cons,execute_nil,exists_eq_right]
  unfold update_quota
  by_cases unraced : quotas.countP (fun row => Unchanged quota row) = 1
  · rw [if_neg (by simp [unraced]),Except.ok.injEq]
    exact ⟨fun same => ⟨unraced,same.symm⟩,fun ⟨_,same⟩ => same.symm⟩
  · rw [if_pos unraced]
    simp [unraced]

/-! ### The guard -/

/-- Both indexes are unique. -/
structure Keyed (quotas : List OrganizationQuotaRow) : Prop where
  ids : (quotas.map OrganizationQuotaRow.id).Nodup
  accounts : (quotas.map OrganizationQuotaRow.account).Nodup

theorem consume_identity (quota : OrganizationQuotaRow) (amount : ℚ) (row : OrganizationQuotaRow) :
    (consume quota amount row).identity = row.identity := by
  unfold consume
  split <;> rfl

theorem consume_account (quota : OrganizationQuotaRow) (amount : ℚ) (row : OrganizationQuotaRow) :
    (consume quota amount row).account = row.account := congrArg Prod.snd (consume_identity quota amount row)

/-- The row of an account after an update of it. -/
theorem find_consume {account : String × String} {quotas : List OrganizationQuotaRow} {quota : OrganizationQuotaRow}
    {amount : ℚ} (found : quotas.find? (fun row => row.account = account) = some quota) :
    (quotas.map (consume quota amount)).find? (fun row => row.account = account) =
      some { quota with used := quota.used + amount, version := quota.version + 1 } := by
  have same_accounts : (fun row => decide (row.account = account)) ∘ consume quota amount =
      fun row => decide (row.account = account) := by
    funext row
    simp only [Function.comp_apply,consume_account]
  rw [List.find?_map,same_accounts,found]
  simp [consume,Unchanged]

/-- The version stored for an account. -/
def stored_version (account : String × String) (quotas : List OrganizationQuotaRow) : Nat :=
  match quotas.find? (fun row => row.account = account) with
  | none => 0
  | some row => row.version

/-- Rows of the same names, updated since: the one that meets the condition is the
    one of the account that was read. -/
theorem updated_version {seen now : List OrganizationQuotaRow} (keyed : Keyed seen)
    (same : now.map OrganizationQuotaRow.identity = seen.map OrganizationQuotaRow.identity)
    {account : String × String} {quota : OrganizationQuotaRow}
    (found : seen.find? (fun row => row.account = account) = some quota)
    (unraced : now.countP (fun row => Unchanged quota row) = 1) : stored_version account now = quota.version := by
  have positive : 0 < now.countP (fun row => Unchanged quota row) := by omega
  obtain ⟨row,member,condition⟩ := List.countP_pos_iff.mp positive
  obtain ⟨named,versioned,_⟩ : Unchanged quota row := of_decide_eq_true condition
  have before : row.identity ∈ seen.map OrganizationQuotaRow.identity := same ▸ List.mem_map_of_mem member
  obtain ⟨old,oldMember,sameIdentity⟩ := List.mem_map.mp before
  have sameId : old.id = quota.id := (congrArg Prod.fst sameIdentity).trans named
  have isQuota : old = quota := List.inj_on_of_nodup_map keyed.ids oldMember (List.mem_of_find?_eq_some found) sameId
  have sameAccount : row.account = account := by
    have owned : quota.account = account := by simpa using List.find?_some found
    exact (congrArg Prod.snd sameIdentity).symm.trans (isQuota ▸ owned)
  have accounts : now.map OrganizationQuotaRow.account = seen.map OrganizationQuotaRow.account := by
    have images := congrArg (List.map Prod.snd) same
    rwa [List.map_map,List.map_map] at images
  have distinct : (now.map OrganizationQuotaRow.account).Nodup := accounts ▸ keyed.accounts
  unfold stored_version
  rw [← sameAccount,find_keyed OrganizationQuotaRow.account distinct member]
  exact versioned

theorem keyed_of_identities {quotas others : List OrganizationQuotaRow}
    (same : quotas.map OrganizationQuotaRow.identity = others.map OrganizationQuotaRow.identity)
      (keyed : Keyed others) :
    Keyed quotas where
  ids := by
    have images := congrArg (List.map Prod.fst) same
    rw [List.map_map,List.map_map] at images
    exact images ▸ keyed.ids
  accounts := by
    have images := congrArg (List.map Prod.snd) same
    rw [List.map_map,List.map_map] at images
    exact images ▸ keyed.accounts

section
variable {ι : Type} {organizationId dimension : String} {amounts : ι → JsNumber}

/-- The transactions of the clients. -/
def consumptions (organizationId dimension : String) (amounts : ι → JsNumber) (i : ι)
    (quotas : List OrganizationQuotaRow) :
    Except Thrown (List (List OrganizationQuotaRow → Except Thrown (List OrganizationQuotaRow))) :=
  consumeOrganizationQuota organizationId dimension (amounts i) quotas

/-- What a call that commits alone does: it adds its amount, which the maximum
    allows. -/
theorem serial_consumption_ok {i : ι} {quotas after : List OrganizationQuotaRow}
    (ran : serial (consumptions organizationId dimension amounts i) quotas = .ok after) :
    ∃ value quota, amounts i = .finite value ∧ 0 ≤ value ∧
      quotas.find? (fun row => row.account = (organizationId,dimension)) = some quota ∧
      quota.used + value ≤ quota.maximum ∧ after = quotas.map (consume quota value) := by
  obtain ⟨statements,saw,executed⟩ := serial_ok.mp ran
  obtain ⟨value,quota,finite,positive,found,allowed,rfl⟩ := consumeOrganizationQuota_ok.mp saw
  obtain ⟨_,after⟩ := execute_quota_ok.mp executed
  exact ⟨value,quota,finite,positive,found,allowed,after⟩

theorem serial_identities {i : ι} {quotas after : List OrganizationQuotaRow}
    (ran : serial (consumptions organizationId dimension amounts i) quotas = .ok after) :
    after.map OrganizationQuotaRow.identity = quotas.map OrganizationQuotaRow.identity := by
  obtain ⟨value,quota,_,_,_,_,rfl⟩ := serial_consumption_ok ran
  have same : OrganizationQuotaRow.identity ∘ consume quota value = OrganizationQuotaRow.identity := by
    funext row
    exact consume_identity quota value row
  rw [List.map_map,same]

theorem later_identities {seen now : List OrganizationQuotaRow}
    (later : Later (consumptions organizationId dimension amounts) seen now) :
    now.map OrganizationQuotaRow.identity = seen.map OrganizationQuotaRow.identity := by
  have step : ∀ i (quotas after : List OrganizationQuotaRow),
      quotas.map OrganizationQuotaRow.identity = seen.map OrganizationQuotaRow.identity →
      serial (consumptions organizationId dimension amounts i) quotas = .ok after →
      after.map OrganizationQuotaRow.identity = seen.map OrganizationQuotaRow.identity :=
    fun _ _ _ same ran => (serial_identities ran).trans same
  exact later_keeps step later rfl

theorem serial_raises {i : ι} {quotas after : List OrganizationQuotaRow}
    (ran : serial (consumptions organizationId dimension amounts i) quotas = .ok after) :
    stored_version (organizationId,dimension) quotas < stored_version (organizationId,dimension) after := by
  obtain ⟨value,quota,_,_,found,_,rfl⟩ := serial_consumption_ok ran
  unfold stored_version
  simp only [found,find_consume found]
  omega

theorem consumptions_optimistic (organizationId dimension : String) (amounts : ι → JsNumber)
    {initial : List OrganizationQuotaRow} (keyed : Keyed initial) :
    Optimistic (consumptions organizationId dimension amounts) initial := by
  refine optimistic_of_version (stored_version (organizationId,dimension)) ?_ ?_
  · intro i quotas after _ ran
    exact serial_raises ran
  · intro i seen now after statements reached later saw executed
    obtain ⟨value,quota,_,_,found,_,rfl⟩ := consumeOrganizationQuota_ok.mp saw
    obtain ⟨unraced,_⟩ := execute_quota_ok.mp executed
    have keyedSeen : Keyed seen := keyed_of_identities (later_identities reached) keyed
    rw [updated_version keyedSeen (later_identities later) found unraced]
    unfold stored_version
    rw [found]

/-! ### No overbooking, no lost consumption -/

/-- The calls that committed, in order, took these amounts from the quota. -/
structure Consumed (organizationId dimension : String) (amounts : ι → JsNumber) (quota : OrganizationQuotaRow)
    (stored : List OrganizationQuotaRow) (order : List ι) (row : OrganizationQuotaRow) (taken : List ℚ) : Prop where
  found : stored.find? (fun row => row.account = (organizationId,dimension)) = some row
  maximum : row.maximum = quota.maximum
  amounts : List.Forall₂ (fun i amount => amounts i = .finite amount) order taken
  used : row.used = taken.sum
  nonnegative : 0 ≤ row.used
  bounded : row.used ≤ row.maximum

/-- One more commit takes its amount once, within the maximum. -/
theorem consumed_snoc {quota row : OrganizationQuotaRow} {stored after : List OrganizationQuotaRow} {order : List ι}
    {taken : List ℚ} (consumed : Consumed organizationId dimension amounts quota stored order row taken) {i : ι}
    (ran : serial (consumptions organizationId dimension amounts i) stored = .ok after) :
    ∃ value, Consumed organizationId dimension amounts quota after (order ++ [i])
      { row with used := row.used + value, version := row.version + 1 } (taken ++ [value]) := by
  obtain ⟨value,again,finite,positive,found,allowed,rfl⟩ := serial_consumption_ok ran
  obtain rfl : row = again := Option.some.inj (consumed.found.symm.trans found)
  refine ⟨value,find_consume found,consumed.maximum,List.rel_append consumed.amounts (.cons finite .nil),?_,?_,allowed⟩
  · rw [List.sum_append,List.sum_singleton,← consumed.used]
  · exact add_nonneg consumed.nonnegative positive

theorem consumed_run {quota : OrganizationQuotaRow} {initial stored : List OrganizationQuotaRow} {order : List ι}
    (found : initial.find? (fun row => row.account = (organizationId,dimension)) = some quota)
    (unused : quota.used = 0) (positive : 0 ≤ quota.maximum)
    (ran : order.foldlM (fun quotas i => serial (consumptions organizationId dimension amounts i) quotas) initial =
      .ok stored) :
    ∃ row taken, Consumed organizationId dimension amounts quota stored order row taken := by
  have before : Consumed organizationId dimension amounts quota initial [] quota [] :=
    ⟨found,rfl,.nil,unused,unused.ge,unused ▸ positive⟩
  refine foldlM_invariant (fun done quotas => ∃ row taken,
    Consumed organizationId dimension amounts quota quotas done row taken) ?_ ⟨quota,[],before⟩ ran
  rintro done quotas i after ⟨row,taken,consumed⟩ committed
  obtain ⟨value,next⟩ := consumed_snoc consumed committed
  exact ⟨_,_,next⟩

end

/-- A row that was just created: it is found, unused, and the indexes stay unique. -/
theorem setOrganizationQuota_ok {id organizationId dimension : String} {maximum : JsNumber}
    {before initial : List OrganizationQuotaRow} (keyed : Keyed before)
    (created : setOrganizationQuota id organizationId dimension maximum before = .ok initial) :
    ∃ value, maximum = .finite value ∧ 0 ≤ value ∧ Keyed initial ∧
      initial.find? (fun row => row.account = (organizationId,dimension)) =
        some ⟨id,organizationId,dimension,value,0,1⟩ := by
  unfold setOrganizationQuota at created
  cases maximum with
  | nan => cases created
  | infinity negative => cases created
  | finite value =>
    by_cases negative : value < 0
    · simp [negative] at created
    simp only [negative,↓reduceIte] at created
    unfold create_quota at created
    by_cases taken : ∃ row ∈ before, row.id = id
    · rw [if_pos (by simpa using taken)] at created
      cases created
    rw [if_neg (by simpa using taken)] at created
    by_cases used : ∃ row ∈ before, row.account = (organizationId,dimension)
    · rw [if_pos (by simpa using used)] at created
      cases created
    rw [if_neg (by simpa using used),Except.ok.injEq] at created
    subst created
    refine ⟨value,rfl,not_lt.mp negative,⟨?_,?_⟩,?_⟩
    · rw [List.map_append]
      refine List.nodup_append.mpr ⟨keyed.ids,by simp,?_⟩
      rintro name member _ last rfl
      obtain ⟨row,inside,rfl⟩ := List.mem_map.mp member
      exact taken ⟨row,inside,by simpa using last⟩
    · rw [List.map_append]
      refine List.nodup_append.mpr ⟨keyed.accounts,by simp,?_⟩
      rintro name member _ last rfl
      obtain ⟨row,inside,rfl⟩ := List.mem_map.mp member
      exact used ⟨row,inside,List.mem_singleton.mp last⟩
    · have nobody : before.find? (fun row => row.account = (organizationId,dimension)) = none := by
        rw [List.find?_eq_none]
        intro row member same
        exact used ⟨row,member,by simpa using same⟩
      rw [List.find?_append,nobody]
      simp [OrganizationQuotaRow.account]

/-- Whatever the interleaving, what is used of a quota since it was set is what
    the calls that committed took, each once, and stays within its maximum. -/
theorem quota_exact {ι : Type} [DecidableEq ι] (amounts : ι → JsNumber) {id organizationId dimension : String}
    {maximum : JsNumber} {before initial : List OrganizationQuotaRow}
      {system : System ι (List OrganizationQuotaRow) Thrown}
    (keyed : Keyed before) (created : setOrganizationQuota id organizationId dimension maximum before = .ok initial)
    (reached : Reached (consumptions organizationId dimension amounts) initial system) :
    ∃ (order : List ι) (taken : List ℚ) (row : OrganizationQuotaRow),
      order.Nodup ∧ (∀ i, i ∈ order ↔ system.phase i = .committed) ∧
      List.Forall₂ (fun i amount => amounts i = .finite amount) order taken ∧
      system.stored.find? (fun row => row.account = (organizationId,dimension)) = some row ∧
      maximum = .finite row.maximum ∧ row.used = taken.sum ∧ 0 ≤ row.used ∧ row.used ≤ row.maximum := by
  obtain ⟨value,finite,positive,keyedInitial,found⟩ := setOrganizationQuota_ok keyed created
  obtain ⟨order,ordered⟩ := serializable (consumptions_optimistic organizationId dimension amounts keyedInitial) reached
  obtain ⟨row,taken,consumed⟩ := consumed_run found rfl positive ordered.ran
  have same : row.maximum = value := consumed.maximum
  exact ⟨order,taken,row,ordered.distinct,ordered.members,consumed.amounts,consumed.found,same ▸ finite,consumed.used,
    consumed.nonnegative,consumed.bounded⟩

/-! Two clients read the same use of a quota of 10; only the first to write gets
    its 6. -/

def raced_amounts : Bool → JsNumber := fun _ => .finite 6

def raced_quota : OrganizationQuotaRow := ⟨"QUOTA-1","ORG-1","runs",10,0,1⟩

theorem raced_steps : ∃ system : System Bool (List OrganizationQuotaRow) Thrown,
    Reached (consumptions "ORG-1" "runs" raced_amounts) [raced_quota] system ∧
      system.phase false = .committed ∧ system.phase true = .failed := by
  have read (i : Bool) : consumptions "ORG-1" "runs" raced_amounts i
      (start (ι := Bool) (ε := Thrown) [raced_quota]).stored = .ok [update_quota raced_quota 6] :=
    consumeOrganizationQuota_ok.mpr ⟨6,raced_quota,rfl,by norm_num,rfl,by norm_num [raced_quota],rfl⟩
  have bothRead := (Relation.ReflTransGen.refl.tail (Step.reads rfl (read false))).tail (Step.reads rfl (read true))
  have firstWrites := (bothRead.tail (.locks (i := false) rfl (by rintro (_ | _) _ _ ⟨⟩))).tail
    (.writes (i := false) rfl rfl)
  have firstCommits := firstWrites.tail (.commits (i := false) rfl)
  have secondWrites := firstCommits.tail (.locks (i := true) rfl (by rintro (_ | _) _ _ ⟨⟩))
  exact ⟨_,secondWrites.tail (.throws (i := true) rfl rfl),rfl,rfl⟩

theorem quota_exact_raced : ∃ system : System Bool (List OrganizationQuotaRow) Thrown, system.phase true = .failed ∧
    ∃ (order : List Bool) (taken : List ℚ) (row : OrganizationQuotaRow),
      order.Nodup ∧ (∀ i, i ∈ order ↔ system.phase i = .committed) ∧
      List.Forall₂ (fun i amount => raced_amounts i = .finite amount) order taken ∧
      system.stored.find? (fun row => row.account = ("ORG-1","runs")) = some row ∧
      JsNumber.finite 10 = .finite row.maximum ∧ row.used = taken.sum ∧ 0 ≤ row.used ∧ row.used ≤ row.maximum := by
  have created : setOrganizationQuota "QUOTA-1" "ORG-1" "runs" (.finite 10) [] = .ok [raced_quota] := by
    norm_num [setOrganizationQuota,create_quota,raced_quota]
  obtain ⟨system,reached,_,failed⟩ := raced_steps
  exact ⟨system,failed,quota_exact raced_amounts ⟨by simp,by simp⟩ created reached⟩

end V3Aidlc.OrganizationQuotas
