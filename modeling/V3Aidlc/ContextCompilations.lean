import V3Aidlc.ContextCompiler
import V3Aidlc.Greedy
import V3Aidlc.Groups

/-!
What a compilation of a context decides, free of the order in which it decides: the filters
sort the candidates, the greatest item of each claim wins it, and the budget is a greedy
selection from the winners in their order (`assemble_compiles`, `compiles_assemble`).
-/
namespace V3Aidlc.ContextCompilations
open V3Aidlc.Values V3Aidlc.Loops V3Aidlc.Timestamps V3Aidlc.Contracts V3Aidlc.Canonical
open V3Aidlc.ContextCompiler V3Aidlc.Greedy V3Aidlc.Groups

/-! ### What is checked first -/

/-- The recipe, the run, the time and the grants pass their checks. -/
structure Prepared (recipe run : Dict) (grants : Json) (generated_at : String) (now : Instant) (granted : List Dict) :
    Prop where
  recipe_valid : validate_recipe recipe = .ok ()
  run_named : ∀ key ∈ ["runId","projectId","role"], ∃ s, Dict.get? key run = some (.str s) ∧ blank s = false
  entities : ∃ xs, ContextCompiler.string_array (run.getOr "entityIds" (.arr [])) "run.entityIds" = .ok xs
  modes : ∃ xs, ContextCompiler.string_array (run.getOr "modes" (.arr [])) "run.modes" = .ok xs
  tags : ContextCompiler.string_array (run.getOr "taskTags" (.arr [])) "run.taskTags" = .ok (strings run "taskTags")
  tagged : strings run "taskTags" ≠ []
  role : text run "role" = text recipe "role"
  generated : ContextCompiler.parse_time (.str generated_at) "generatedAt" = .ok now
  listed : grants.iter? = some (granted.map Json.obj)
  grants_valid : ∀ grant ∈ granted, validate_disclosure_grant grant = .ok ()

theorem strings_of_array {d : Dict} {key field : String} {xs : List String}
    (checked : ContextCompiler.string_array (d.getOr key (.arr [])) field = .ok xs) : strings d key = xs := by
  have found := ((string_array_ok .ContextError).mp checked).1
  unfold strings
  rw [found]
  rfl

theorem grants_ok {items : List Json} {granted : List Dict} :
    items.mapM (fun grant => do let grant ← as_dict grant; validate_disclosure_grant grant; return grant) =
      .ok granted ↔
      items = granted.map Json.obj ∧ ∀ grant ∈ granted, validate_disclosure_grant grant = .ok () := by
  rw [mapM_ok_iff]
  constructor
  · intro pairs
    induction pairs with
    | nil => simp
    | cons first _ ih =>
      simp only [bind_ok_iff,as_dict_ok,pure_ok_iff] at first
      obtain ⟨_,rfl,_,valid,rfl⟩ := first
      obtain ⟨rfl,rest⟩ := ih
      exact ⟨rfl,by simpa using ⟨valid,rest⟩⟩
  · rintro ⟨rfl,valid⟩
    induction granted with
    | nil => exact List.Forall₂.nil
    | cons grant granted ih =>
      refine List.Forall₂.cons ?_ (ih (fun other member => valid other (by simp [member])))
      simp [valid grant (by simp)]

/-! ### Sorting the candidates -/

section
variable (recipe run : Dict) (grants : List Dict) (now : Instant)

/-- What the filters decide about a candidate. -/
def verdict (item : Dict) : Py (Option String) :=
  first_reason (filters recipe run grants now (strings run "taskTags") item)

def passes (item : Dict) : Bool :=
  match verdict recipe run grants now item with
  | .ok none => true
  | _ => false

/-- The exclusion of a candidate that a filter does not pass. -/
def filtered (item : Dict) : Option Exclusion :=
  match verdict recipe run grants now item with
  | .ok (some reason) => some ⟨text item "id",reason⟩
  | _ => none

/-- The candidates can be sorted: they are valid, have ids of their own and no filter raises. -/
structure Sortable (items : List Dict) : Prop where
  valid : ∀ item ∈ items, validate_context_item item = .ok ()
  distinct : (items.map (fun item => text item "id")).Nodup
  decided : ∀ item ∈ items, ∃ reason, verdict recipe run grants now item = .ok reason

def sorting (items : List Dict) : Sorted where
  seen_ids := items.map (fun item => text item "id")
  exclusions := items.filterMap (filtered recipe run grants now)
  eligible := items.filter (passes recipe run grants now)

end

section
variable {recipe run : Dict} {grants : List Dict} {now : Instant}

theorem sort_item_ok {items : List Dict} {item : Json} {next : Sorted} :
    sort_item recipe run grants now (strings run "taskTags") (sorting recipe run grants now items) item = .ok next ↔
      ∃ d reason, item = .obj d ∧ validate_context_item d = .ok () ∧
        text d "id" ∉ items.map (fun item => text item "id") ∧
        verdict recipe run grants now d = .ok reason ∧ next = sorting recipe run grants now (items ++ [d]) := by
  unfold sort_item
  simp only [bind_ok_iff,as_dict_ok,ContextCompiler.reject,reject_if_ok]
  constructor
  · rintro ⟨d,rfl,_,valid,_,fresh,reason,decided,ran⟩
    refine ⟨d,reason,rfl,valid,by simpa [sorting] using fresh,decided,?_⟩
    have known : verdict recipe run grants now d = .ok reason := decided
    cases reason <;> simpa [sorting,filtered,passes,known] using (pure_ok_iff.mp ran).symm
  · rintro ⟨d,reason,rfl,valid,fresh,decided,rfl⟩
    refine ⟨d,rfl,(),valid,(),by simpa [sorting] using fresh,reason,decided,?_⟩
    cases reason <;> simp [sorting,filtered,passes,decided]

theorem sort_items_ok {items : List Json} {sorted : Sorted} :
    items.foldlM (sort_item recipe run grants now (strings run "taskTags")) {} = .ok sorted ↔
      ∃ dicts, items = dicts.map Json.obj ∧ Sortable recipe run grants now dicts ∧
        sorted = sorting recipe run grants now dicts := by
  induction items using List.reverseRecOn generalizing sorted with
  | nil =>
    rw [foldlM_nil_ok]
    constructor
    · rintro rfl
      exact ⟨[],rfl,⟨by simp,by simp,by simp⟩,rfl⟩
    · rintro ⟨dicts,none,_,rfl⟩
      rw [List.map_eq_nil_iff.mp none.symm]
      rfl
  | append_singleton items item ih =>
    rw [foldlM_snoc_ok]
    constructor
    · rintro ⟨middle,before,ran⟩
      obtain ⟨dicts,rfl,sortable,rfl⟩ := ih.mp before
      obtain ⟨d,reason,rfl,valid,fresh,decided,rfl⟩ := sort_item_ok.mp ran
      refine ⟨dicts ++ [d],by simp,⟨?_,?_,?_⟩,rfl⟩
      · simpa [or_imp,forall_and] using ⟨sortable.valid,valid⟩
      · rw [List.map_append]
        exact List.Nodup.append sortable.distinct (List.nodup_singleton _) (by simpa using fresh)
      · simpa [or_imp,forall_and] using ⟨sortable.decided,reason,decided⟩
    · rintro ⟨all,split,sortable,rfl⟩
      rcases List.eq_nil_or_concat' all with rfl | ⟨dicts,d,rfl⟩
      · simp at split
      · rw [List.map_append] at split
        obtain ⟨rfl,last⟩ := List.append_inj' split rfl
        obtain ⟨reason,decided⟩ := sortable.decided d (by simp)
        have distinct := sortable.distinct
        rw [List.map_append,List.nodup_append'] at distinct
        have front : Sortable recipe run grants now dicts :=
          ⟨fun x member => sortable.valid x (by simp [member]),distinct.1,
            fun x member => sortable.decided x (by simp [member])⟩
        refine ⟨sorting recipe run grants now dicts,ih.mpr ⟨dicts,rfl,front,rfl⟩,sort_item_ok.mpr ?_⟩
        refine ⟨d,reason,by simpa using last,sortable.valid d (by simp),?_,decided,rfl⟩
        intro member
        exact distinct.2.2 member (by simp)

end

/-! ### Resolving the claims -/

/-- Greater authority wins a claim, then the later creation, then the greater id. -/
def rank (item : Dict) : Int ×ₗ String ×ₗ String := toLex (authority item,recency item)

def SameClaim (item other : Dict) : Prop := text item "claimKey" = text other "claimKey"

instance (item other : Dict) : Decidable (SameClaim item other) := inferInstanceAs (Decidable (_ = _))

/-- No eligible item of its claim is above the item. -/
def wins (eligible : List Dict) (item : Dict) : Bool :=
  ∀ other ∈ eligible, SameClaim other item → rank other ≤ rank item

def Leads (eligible : List Dict) (item : Dict) : Prop :=
  ∀ other ∈ eligible, SameClaim other item → authority other ≤ authority item

/-- The items of the greatest authority of a claim agree. -/
def Agreed (eligible : List Dict) : Prop :=
  ∀ item ∈ eligible, ∀ other ∈ eligible, SameClaim item other → Leads eligible item → Leads eligible other →
    item_payload item = item_payload other

/-- The exclusion of an item that another of its claim supersedes. -/
def superseded (eligible : List Dict) (item : Dict) : List Exclusion :=
  if wins eligible item then []
  else [⟨text item "id","superseded by higher-precedence " ++
    (((eligible.filter (wins eligible)).find? (fun winner => SameClaim winner item)).map
      (fun winner => text winner "id")).getD ""⟩]

theorem wins_iff {eligible : List Dict} {item : Dict} :
    wins eligible item = true ↔ ∀ other ∈ eligible, SameClaim other item → rank other ≤ rank item := by
  simp [wins]

section
variable {eligible : List Dict}

theorem id_apart (distinct : (eligible.map (fun item => text item "id")).Nodup) {item other : Dict}
    (member : item ∈ eligible)
    (member' : other ∈ eligible) (ids : text item "id" = text other "id") : item = other :=
  List.inj_on_of_nodup_map distinct member member' ids

theorem rank_id {item other : Dict} (ranks : rank item = rank other) : text item "id" = text other "id" := by
  have parts := congrArg (fun r => (ofLex (ofLex r).2).2) ranks
  exact parts

/-- A claim is won by one item at most. -/
theorem winner_unique (distinct : (eligible.map (fun item => text item "id")).Nodup) {item other : Dict}
    (member : item ∈ eligible)
    (member' : other ∈ eligible) (same : SameClaim item other) (won : wins eligible item = true)
      (won' : wins eligible other = true) :
    item = other := by
  have above := wins_iff.mp won other member' same.symm
  have below := wins_iff.mp won' item member same
  exact id_apart distinct member member' (rank_id (le_antisymm below above))

theorem winner_found (distinct : (eligible.map (fun item => text item "id")).Nodup) {item winner : Dict}
    (member : winner ∈ eligible) (won : wins eligible winner = true) (same : SameClaim winner item) :
    (eligible.filter (wins eligible)).find? (fun other => SameClaim other item) = some winner := by
  have inside : winner ∈ eligible.filter (wins eligible) := List.mem_filter.mpr ⟨member,won⟩
  cases found : (eligible.filter (wins eligible)).find? (fun other => SameClaim other item) with
  | none => exact absurd (decide_eq_true same) (List.find?_eq_none.mp found winner inside)
  | some other =>
    obtain ⟨otherMember,otherWon⟩ := List.mem_filter.mp (List.mem_of_find?_eq_some found)
    have claim : SameClaim other item := by simpa using List.find?_some found
    rw [winner_unique distinct otherMember member (claim.trans same.symm) otherWon won]

theorem superseded_eq (distinct : (eligible.map (fun item => text item "id")).Nodup) {item winner : Dict}
    (member : item ∈ eligible)
    (winnerMember : winner ∈ eligible) (won : wins eligible winner = true) (same : SameClaim winner item) :
    superseded eligible item = if text item "id" ≠ text winner "id" then
      [⟨text item "id","superseded by higher-precedence " ++ text winner "id"⟩] else [] := by
  unfold superseded
  rw [winner_found distinct winnerMember won same]
  by_cases itself : text item "id" = text winner "id"
  · rw [id_apart distinct member winnerMember itself,if_pos won,if_neg (by simp)]
  · have lost : ¬wins eligible item = true := fun also =>
      itself (by rw [winner_unique distinct member winnerMember same.symm also won])
    rw [if_neg lost,if_pos itself]
    rfl

theorem distinct_single {items : List String} : ¬1 < (distinct items).length ↔ ∀ a ∈ items, ∀ b ∈ items, a = b := by
  have apart := nodup_distinct items
  constructor
  · intro few a left b right
    have first := mem_distinct.mpr left
    have second := mem_distinct.mpr right
    match only : distinct items with
    | [] => rw [only] at first; cases first
    | [c] =>
      rw [only] at first second
      rw [List.mem_singleton.mp first,List.mem_singleton.mp second]
    | c :: d :: rest => simp [only] at few
  · intro equal
    match only : distinct items with
    | [] => simp
    | [c] => simp
    | c :: d :: rest =>
      rw [only] at apart
      have left : c ∈ items := mem_distinct.mp (by simp [only])
      have right : d ∈ items := mem_distinct.mp (by simp [only])
      rw [equal c left d right] at apart
      simp at apart

section
variable {claim_key : String} {claimants : List Dict}
  (claimed : ∀ item, item ∈ claimants ↔ item ∈ eligible ∧ text item "claimKey" = claim_key)
include claimed

theorem same_claim {item other : Dict} (member : item ∈ claimants) (member' : other ∈ claimants) :
    SameClaim item other :=
  ((claimed item).mp member).2.trans ((claimed other).mp member').2.symm

/-- The claimants of the highest authority are those that lead. -/
theorem leading_iff {top item : Dict} (topMember : top ∈ claimants)
    (greatest : ∀ other ∈ claimants, authority other ≤ authority top) (member : item ∈ claimants) :
    Leads eligible item ↔ authority item = authority top := by
  obtain ⟨inside,claim⟩ := (claimed item).mp member
  obtain ⟨topInside,topClaim⟩ := (claimed top).mp topMember
  constructor
  · intro leads
    exact le_antisymm (greatest item member) (leads _ topInside (topClaim.trans claim.symm))
  · intro equal other otherInside same
    rw [equal]
    exact greatest other ((claimed other).mpr ⟨otherInside,same.trans claim⟩)

/-- The latest of the leaders of a claim wins it. -/
theorem latest_wins {winner : Dict} (member : winner ∈ claimants)
    (leads : ∀ other ∈ claimants, authority other ≤ authority winner)
    (latest : ∀ other ∈ claimants, authority other = authority winner → recency other ≤ recency winner) :
    wins eligible winner = true := by
  refine wins_iff.mpr (fun other otherMember same => ?_)
  have claimant : other ∈ claimants := (claimed other).mpr ⟨otherMember,same.trans ((claimed winner).mp member).2⟩
  unfold rank
  rw [Prod.Lex.toLex_le_toLex]
  rcases (leads other claimant).lt_or_eq with less | equal
  · exact Or.inl less
  · exact Or.inr ⟨equal,latest other claimant equal⟩

section
variable (distinct : (eligible.map (fun item => text item "id")).Nodup) {winner : Dict} (member : winner ∈ claimants)
  (won : wins eligible winner = true)
include distinct member won

theorem single_winner (apart : claimants.Nodup) : claimants.filter (wins eligible) = [winner] := by
  refine filter_unique apart member won (fun other member' also => ?_)
  exact winner_unique distinct ((claimed other).mp member').1 ((claimed winner).mp member).1
    (same_claim claimed member' member) also won

/-- All claimants but the winner are superseded by it. -/
theorem losers_superseded : (claimants.filter (fun item => text item "id" ≠ text winner "id")).map (fun item =>
      (⟨text item "id","superseded by higher-precedence " ++ text winner "id"⟩ : Exclusion)) =
    claimants.flatMap (superseded eligible) := by
  refine map_filter_eq (fun item member' => ?_)
  rw [superseded_eq distinct ((claimed item).mp member').1 ((claimed winner).mp member).1 won
    (same_claim claimed member member')]
  simp

end

/-- The leaders' payloads are one exactly when no two leading items of the claim differ. -/
theorem leaders_agree {leaders : List Dict} (leading : ∀ item, item ∈ leaders ↔
    item ∈ claimants ∧ Leads eligible item) :
    (∀ a ∈ leaders.map item_payload, ∀ b ∈ leaders.map item_payload, a = b) ↔
      ∀ item ∈ eligible, ∀ other ∈ eligible, text item "claimKey" = claim_key → text other "claimKey" = claim_key →
        Leads eligible item → Leads eligible other → item_payload item = item_payload other := by
  constructor
  · intro agree item inside other otherInside claim otherClaim leads otherLeads
    have leader := (leading item).mpr ⟨(claimed item).mpr ⟨inside,claim⟩,leads⟩
    have otherLeader := (leading other).mpr ⟨(claimed other).mpr ⟨otherInside,otherClaim⟩,otherLeads⟩
    exact agree _ (List.mem_map.mpr ⟨item,leader,rfl⟩) _ (List.mem_map.mpr ⟨other,otherLeader,rfl⟩)
  · intro agree a left b right
    obtain ⟨item,leader,rfl⟩ := List.mem_map.mp left
    obtain ⟨other,otherLeader,rfl⟩ := List.mem_map.mp right
    obtain ⟨member,leads⟩ := (leading item).mp leader
    obtain ⟨otherMember,otherLeads⟩ := (leading other).mp otherLeader
    obtain ⟨inside,claim⟩ := (claimed item).mp member
    obtain ⟨otherInside,otherClaim⟩ := (claimed other).mp otherMember
    exact agree item inside other otherInside claim otherClaim leads otherLeads

end

/-- What is decided about a claim that some eligible item makes. -/
theorem resolve_claim_ok (distinct : (eligible.map (fun item => text item "id")).Nodup) {claim_key : String}
    (claimed : ∃ item ∈ eligible, text item "claimKey" = claim_key) {resolved : List (Dict × List Exclusion)} :
    resolve_claim eligible claim_key = .ok resolved ↔
      (∀ item ∈ eligible, ∀ other ∈ eligible, text item "claimKey" = claim_key → text other "claimKey" = claim_key →
        Leads eligible item → Leads eligible other → item_payload item = item_payload other) ∧
      ∃ winner, (eligible.filter (fun item => text item "claimKey" = claim_key)).filter (wins eligible) = [winner] ∧
        resolved = [(winner,(eligible.filter (fun item => text item "claimKey" = claim_key)).flatMap
          (superseded eligible))] := by
  have member_iff : ∀ item, item ∈ eligible.filter (fun item => text item "claimKey" = claim_key) ↔
      item ∈ eligible ∧ text item "claimKey" = claim_key := by simp
  have apart : (eligible.filter (fun item => text item "claimKey" = claim_key)).Nodup :=
    (List.Nodup.of_map _ distinct).filter _
  unfold resolve_claim
  generalize eligible.filter (fun item => text item "claimKey" = claim_key) = claimants at member_iff apart ⊢
  cases claimants with
  | nil =>
    obtain ⟨item,member,same⟩ := claimed
    have inside := (member_iff item).mpr ⟨member,same⟩
    cases inside
  | cons first rest =>
    dsimp only
    obtain ⟨topMember,greatest⟩ := firstMax_spec authority first rest
    set highest := authority (firstMax authority first rest) with highestIs
    cases leads : (first :: rest).filter (fun item => authority item = highest) with
    | nil =>
      have inside : firstMax authority first rest ∈ (first :: rest).filter (fun item => authority item = highest) :=
        List.mem_filter.mpr ⟨topMember,by simp [highestIs]⟩
      rw [leads] at inside
      cases inside
    | cons leader leaders =>
      dsimp only
      obtain ⟨latestMember,latest⟩ := firstMax_spec recency leader leaders
      set winner := firstMax recency leader leaders with winnerIs
      have leader_iff : ∀ item, item ∈ leader :: leaders ↔ item ∈ first :: rest ∧ authority item = highest := by
        intro item
        rw [← leads]
        simp
      have leading : ∀ item, item ∈ leader :: leaders ↔ item ∈ first :: rest ∧ Leads eligible item := by
        intro item
        rw [leader_iff]
        exact and_congr_right (fun member => (leading_iff member_iff topMember greatest member).symm)
      obtain ⟨claims,top⟩ := (leader_iff winner).mp latestMember
      have won : wins eligible winner = true :=
        latest_wins member_iff claims (fun other member => by rw [top]; exact greatest other member)
          (fun other member equal => latest other ((leader_iff other).mpr ⟨member,equal.trans top⟩))
      have single := single_winner member_iff distinct claims won apart
      simp only [bind_ok_iff,ContextCompiler.reject,reject_if_ok,pure_ok_iff,
        losers_superseded member_iff distinct claims won,decide_eq_false_iff_not,distinct_single,
        leaders_agree member_iff leading,single,List.cons.injEq,and_true,exists_eq_left',exists_const]
      constructor
      · rintro ⟨agree,rfl⟩
        exact ⟨agree,rfl⟩
      · rintro ⟨agree,rfl⟩
        exact ⟨agree,rfl⟩

/-- Some item wins each claim. -/
theorem claim_won (distinct : (eligible.map (fun item => text item "id")).Nodup) {claim_key : String}
    (claimed : ∃ item ∈ eligible, text item "claimKey" = claim_key) :
    ∃ winner, (eligible.filter (fun item => text item "claimKey" = claim_key)).filter (wins eligible) = [winner] := by
  have member_iff : ∀ item, item ∈ eligible.filter (fun item => text item "claimKey" = claim_key) ↔
      item ∈ eligible ∧ text item "claimKey" = claim_key := by simp
  have apart : (eligible.filter (fun item => text item "claimKey" = claim_key)).Nodup :=
    (List.Nodup.of_map _ distinct).filter _
  obtain ⟨item,inside,claim⟩ := claimed
  have some_claimant := (member_iff item).mpr ⟨inside,claim⟩
  generalize eligible.filter (fun item => text item "claimKey" = claim_key) = claimants
    at member_iff apart some_claimant ⊢
  cases claimants with
  | nil => cases some_claimant
  | cons first rest =>
    obtain ⟨topMember,greatest⟩ := firstMax_spec rank first rest
    have won : wins eligible (firstMax rank first rest) = true :=
      wins_iff.mpr (fun other otherInside same => greatest other
        ((member_iff other).mpr ⟨otherInside,same.trans ((member_iff _).mp topMember).2⟩))
    exact ⟨_,single_winner member_iff distinct topMember won apart⟩

theorem claims_of_key (key : String) : key ∈ Canonical.distinct (eligible.map (fun item => text item "claimKey")) ↔
    ∃ item ∈ eligible, text item "claimKey" = key := by
  rw [mem_distinct]
  simp

theorem claims_parts (distinct : (eligible.map (fun item => text item "id")).Nodup) {keys : List String}
    {claims : List (List (Dict × List Exclusion))}
    (claimed : ∀ key ∈ keys, ∃ item ∈ eligible, text item "claimKey" = key)
    (decided : List.Forall₂ (fun key result => resolve_claim eligible key = .ok result) keys claims) :
    claims.flatten.map Prod.fst =
      (keys.flatMap (fun key => eligible.filter (fun item => text item "claimKey" = key))).filter (wins eligible) ∧
    (claims.flatten.map Prod.snd).flatten =
      (keys.flatMap (fun key => eligible.filter (fun item => text item "claimKey" = key))).flatMap
        (superseded eligible) := by
  induction decided with
  | nil => exact ⟨rfl,rfl⟩
  | @cons key result keys claims here _ ih =>
    obtain ⟨winners,losers⟩ := ih (fun other member => claimed other (by simp [member]))
    obtain ⟨_,winner,single,rfl⟩ := (resolve_claim_ok distinct (claimed key (by simp))).mp here
    rw [List.flatten_cons,List.flatMap_cons,List.map_append,List.map_append,List.flatten_append,winners,losers,
      List.filter_append,List.flatMap_append,single]
    exact ⟨rfl,by simp⟩

/-- The winners and the exclusions of the others, whatever the order of the claims. -/
theorem resolve_agreed (distinct : (eligible.map (fun item => text item "id")).Nodup)
    {resolved : List (Dict × List Exclusion)}
    (ran : resolve eligible = .ok resolved) : Agreed eligible ∧
      (resolved.map Prod.fst).Perm (eligible.filter (wins eligible)) ∧
      (resolved.map Prod.snd).flatten.Perm (eligible.flatMap (superseded eligible)) := by
  unfold resolve at ran
  simp only [bind_ok_iff,pure_ok_iff] at ran
  obtain ⟨claims,each,rfl⟩ := ran
  have decided := mapM_ok_iff.mp each
  have listed : ∀ item ∈ eligible, text item "claimKey" ∈ Canonical.distinct
      (eligible.map (fun item => text item "claimKey")) :=
    fun item member => (claims_of_key _).mpr ⟨item,member,rfl⟩
  have grouped := grouped_perm (fun item => text item "claimKey") (nodup_distinct _) listed
  obtain ⟨winners,losers⟩ := claims_parts distinct (fun key member => (claims_of_key key).mp member) decided
  refine ⟨?_,?_,?_⟩
  · intro item inside other otherInside same leads otherLeads
    obtain ⟨result,_,own⟩ := forall₂_left decided (text item "claimKey") (listed item inside)
    have decision := (resolve_claim_ok distinct ⟨item,inside,rfl⟩).mp own
    exact decision.1 item inside other otherInside rfl same.symm leads otherLeads
  · rw [winners]
    exact grouped.filter _
  · rw [losers]
    exact grouped.flatMap_right _

theorem resolve_total (distinct : (eligible.map (fun item => text item "id")).Nodup) (agreed : Agreed eligible) :
    ∃ resolved, resolve eligible = .ok resolved := by
  have each : ∀ key ∈ Canonical.distinct (eligible.map (fun item => text item "claimKey")), ∃ result,
      resolve_claim eligible key = .ok result ∧ True := by
    intro key listed
    have claimed := (claims_of_key key).mp listed
    obtain ⟨winner,single⟩ := claim_won distinct claimed
    refine ⟨_,(resolve_claim_ok distinct claimed).mpr ⟨?_,winner,single,rfl⟩,trivial⟩
    intro item inside other otherInside claim otherClaim
    exact agreed item inside other otherInside (claim.trans otherClaim.symm)
  obtain ⟨claims,ran,_⟩ := mapM_total each
  refine ⟨claims.flatten,?_⟩
  unfold resolve
  rw [ran]
  rfl

end

/-! ### The budget -/

def bytes (items : List Dict) : Nat := (items.map item_bytes).sum

/-- The item fits beside those that are chosen. -/
def fits (recipe : Dict) (chosen : List Dict) (item : Dict) : Bool :=
  decide ((chosen.length : Int) < limit recipe "maxItems") &&
    decide (((bytes chosen + item_bytes item : Nat) : Int) ≤ limit recipe "maxBytes")

/-- The exclusions of the items that do not fit at their turn. -/
def exhausted (recipe : Dict) (items : List Dict) : List Exclusion :=
  ((trail (fits recipe) items).filter (fun entry => !fits recipe entry.1 entry.2)).map
    (fun entry => ⟨text entry.2 "id","context budget exhausted"⟩)

theorem bytes_snoc (items : List Dict) (item : Dict) : bytes (items ++ [item]) = bytes items + item_bytes item := by
  simp [bytes]

/-- The budget loop is a greedy selection. -/
theorem budget_greedy (recipe : Dict) (items : List Dict) : items.foldl (budget_item recipe) {} =
    ⟨(select (fits recipe) items).map rendered,bytes (select (fits recipe) items),exhausted recipe items⟩ := by
  induction items using List.reverseRecOn with
  | nil => rfl
  | append_singleton items item ih =>
    rw [List.foldl_append,ih]
    have turn : exhausted recipe (items ++ [item]) = exhausted recipe items ++
        if fits recipe (select (fits recipe) items) item then [] else
          [⟨text item "id","context budget exhausted"⟩] := by
      unfold exhausted
      rw [trail_snoc,List.filter_append,List.map_append]
      by_cases room : fits recipe (select (fits recipe) items) item = true <;> simp [room]
    rw [turn,select_snoc,List.foldl_cons,List.foldl_nil]
    unfold budget_item visit
    dsimp only
    rw [List.length_map]
    by_cases room : fits recipe (select (fits recipe) items) item = true
    · have within := room
      simp only [fits,Bool.and_eq_true,decide_eq_true_eq] at within
      rw [if_pos room,if_pos room,if_neg (by omega),List.map_append,bytes_snoc]
      simp
    · have full := room
      simp only [fits,Bool.and_eq_true,decide_eq_true_eq] at full
      rw [if_neg room,if_neg room,if_pos (by omega)]

/-- The chosen items stay within the limits. -/
theorem select_fits (recipe : Dict) (items : List Dict) (positive : 0 ≤ limit recipe "maxItems")
    (positive' : 0 ≤ limit recipe "maxBytes") :
    ((select (fits recipe) items).length : Int) ≤ limit recipe "maxItems" ∧
      (bytes (select (fits recipe) items) : Int) ≤ limit recipe "maxBytes" := by
  induction items using List.reverseRecOn with
  | nil => simpa [select,bytes] using ⟨positive,positive'⟩
  | append_singleton items item ih =>
    rw [select_snoc]
    unfold visit
    split
    · rename_i room
      simp only [fits,Bool.and_eq_true,decide_eq_true_eq] at room
      rw [bytes_snoc,List.length_append,List.length_singleton]
      omega
    · exact ih

/-! ### The whole compilation -/

/-- The winners in the order in which the budget visits them. -/
def ordered (recipe : Dict) (eligible : List Dict) : List Dict :=
  sortedBy (order_key recipe) (eligible.filter (wins eligible))

def chosen (recipe : Dict) (eligible : List Dict) : List Dict := select (fits recipe) (ordered recipe eligible)

section
variable (recipe run : Dict) (granted : List Dict) (now : Instant) (items : List Dict)

def eligible_items : List Dict := items.filter (passes recipe run granted now)

/-- Every candidate that is not selected, with its reason. -/
def excluded_items : List Exclusion :=
  items.filterMap (filtered recipe run granted now) ++
    (eligible_items recipe run granted now items).flatMap (superseded (eligible_items recipe run granted now items)) ++
    exhausted recipe (ordered recipe (eligible_items recipe run granted now items))

/-- A compilation of these items has an outcome. -/
structure Compiles (candidates grants : Json) (generated_at : String) : Prop where
  prepared : Prepared recipe run grants generated_at now granted
  candidates_listed : candidates.iter? = some (items.map Json.obj)
  sortable : Sortable recipe run granted now items
  agreed : Agreed (eligible_items recipe run granted now items)
  covered : ∀ kind ∈ strings recipe "requiredKinds",
    ∃ item ∈ chosen recipe (eligible_items recipe run granted now items),
    text item "kind" = kind

/-- The outcome: the chosen items, their bytes and the exclusions in some order. -/
structure Outcome (compiled : Compilation) : Prop where
  selected : compiled.selected = (chosen recipe (eligible_items recipe run granted now items)).map rendered
  total_bytes : compiled.total_bytes = bytes (chosen recipe (eligible_items recipe run granted now items))
  exclusions : compiled.exclusions.Perm (excluded_items recipe run granted now items)

end

theorem rendered_get {item : Dict} {key : String}
    (member : key ∈ ["id","revision","kind","sourceType","sourceRef","sensitivity","integrity","claimKey","content",
      "reference"]) :
    (rendered item).get key = item.get key := by
  simp only [List.mem_cons,List.not_mem_nil,or_false] at member
  rcases member with rfl | rfl | rfl | rfl | rfl | rfl | rfl | rfl | rfl | rfl <;> rfl

theorem rendered_text {item : Dict} {key : String}
    (member : key ∈ ["id","revision","kind","sourceType","sourceRef","sensitivity","integrity","claimKey","content",
      "reference"]) :
    text (rendered item) key = text item key :=
  text_of_get (rendered_get member)

section
variable {recipe run : Dict} {granted : List Dict} {now : Instant} {items : List Dict}

theorem sortable_distinct (sortable : Sortable recipe run granted now items) :
    ((eligible_items recipe run granted now items).map (fun item => text item "id")).Nodup :=
  sortable.distinct.sublist (List.filter_sublist.map _)

/-- The order of the budget is decided by keys that no two items share. -/
theorem ordered_perm {recipe : Dict} {left right : List Dict} (distinct : (left.map (fun item => text item "id")).Nodup)
    (same : left.Perm right) : sortedBy (order_key recipe) left = sortedBy (order_key recipe) right := by
  refine sortedBy_perm same (fun item member other otherMember keys => ?_)
  have ids : text item "id" = text other "id" := congrArg (fun key => (ofLex (ofLex (ofLex key).2).2).2) keys
  exact id_apart distinct member otherMember ids

theorem ordered_winners (recipe : Dict) {eligible winners : List Dict}
    (distinct : (eligible.map (fun item => text item "id")).Nodup)
    (same : winners.Perm (eligible.filter (wins eligible))) :
      sortedBy (order_key recipe) winners = ordered recipe eligible :=
  (ordered_perm (distinct.sublist (List.filter_sublist.map _)) same.symm).symm

theorem missing_none {selected : List Dict} {required : List String} :
    (!(required.filter (fun kind =>
      !((selected.map rendered).map (fun item => text item "kind")).contains kind)).isEmpty) = false ↔
      ∀ kind ∈ required, ∃ item ∈ selected, text item "kind" = kind := by
  have kinds : (selected.map rendered).map (fun item => text item "kind") =
      selected.map (fun item => text item "kind") := by
    rw [List.map_map]
    exact List.map_congr_left (fun item _ => rendered_text (by simp))
  rw [kinds]
  simp

end

section
variable {recipe run : Dict} {candidates grants : Json} {generated_at : String}

/-- What a compilation that returned has decided. -/
theorem assemble_compiles {compiled : Compilation}
    (ran : assemble recipe run candidates grants generated_at = .ok compiled) :
    ∃ now granted items, Compiles recipe run granted now items candidates grants generated_at ∧
      Outcome recipe run granted now items compiled := by
  unfold assemble at ran
  simp only [bind_ok_iff,iterate_ok,required_strings_ok,pure_ok_iff,ContextCompiler.reject,reject_if_ok,
    budget_greedy] at ran
  obtain ⟨_,recipeValid,_,named,entities,entitiesRead,modes,modesRead,task_tags,tags,_,tagged,_,role,now,parsed,
    grantItems,listed,granted,
    grantsRead,candidateItems,iterated,sorted,ranSorted,resolved,ranResolved,_,covered,rfl⟩ := ran
  have tagsAre : strings run "taskTags" = task_tags := strings_of_array tags
  rw [← tagsAre] at tags tagged ranSorted
  obtain ⟨rfl,grantsValid⟩ := grants_ok.mp grantsRead
  obtain ⟨items,rfl,sortable,rfl⟩ := sort_items_ok.mp ranSorted
  have distinct := sortable_distinct sortable
  obtain ⟨agreed,winners,losers⟩ := resolve_agreed distinct ranResolved
  have sorted := ordered_winners recipe distinct winners
  rw [sorted] at covered ⊢
  refine ⟨now,granted,items,
    ⟨⟨recipeValid,named,⟨entities,entitiesRead⟩,⟨modes,modesRead⟩,tags,by simpa using tagged,by simpa using role,
    parsed,listed,grantsValid⟩,iterated,sortable,agreed,missing_none.mp covered⟩,rfl,rfl,?_⟩
  exact (losers.append_left _).append_right _

/-- A compilation whose conditions hold returns. -/
theorem compiles_assemble {now : Instant} {granted items : List Dict}
    (compiles : Compiles recipe run granted now items candidates grants generated_at) :
    ∃ compiled, assemble recipe run candidates grants generated_at = .ok compiled ∧
      Outcome recipe run granted now items compiled := by
  obtain ⟨prepared,iterated,sortable,agreed,covered⟩ := compiles
  have distinct := sortable_distinct sortable
  obtain ⟨resolved,ranResolved⟩ := resolve_total distinct agreed
  obtain ⟨_,winners,losers⟩ := resolve_agreed distinct ranResolved
  have sorted := ordered_winners recipe distinct winners
  obtain ⟨entities,entitiesRead⟩ := prepared.entities
  obtain ⟨modes,modesRead⟩ := prepared.modes
  let eligible := eligible_items recipe run granted now items
  refine ⟨⟨(chosen recipe eligible).map rendered,bytes (chosen recipe eligible),
    items.filterMap (filtered recipe run granted now) ++ (resolved.map Prod.snd).flatten ++
      exhausted recipe (ordered recipe eligible)⟩,?_,?_⟩
  · unfold assemble
    simp only [bind_ok_iff,iterate_ok,required_strings_ok,pure_ok_iff,ContextCompiler.reject,reject_if_ok,budget_greedy]
    refine ⟨(),prepared.recipe_valid,(),prepared.run_named,entities,entitiesRead,modes,modesRead,_,prepared.tags,(),
      by simpa using prepared.tagged,(),by simpa using prepared.role,now,prepared.generated,_,prepared.listed,granted,
      grants_ok.mpr ⟨rfl,prepared.grants_valid⟩,_,iterated,_,sort_items_ok.mpr ⟨items,rfl,sortable,rfl⟩,resolved,
        ranResolved,?_⟩
    rw [sorted]
    exact ⟨(),missing_none.mpr covered,rfl⟩
  · exact ⟨rfl,rfl,(losers.append_left _).append_right _⟩

end

theorem compile_ok {recipe run : Dict} {candidates grants : Json} {generated_at : String} {manifest : ContextManifest} :
    compile_context recipe run candidates grants generated_at = .ok manifest ↔
      ∃ compiled, assemble recipe run candidates grants generated_at = .ok compiled ∧
        manifest = manifest_of recipe run generated_at compiled := by
  unfold compile_context
  rw [bind_ok_iff]
  refine exists_congr (fun compiled => and_congr Iff.rfl ?_)
  rw [pure_ok_iff]
  exact eq_comm

theorem mem_ordered {recipe item : Dict} {eligible : List Dict} :
    item ∈ ordered recipe eligible ↔ item ∈ eligible ∧ wins eligible item = true := by
  unfold ordered
  rw [mem_sortedBy,List.mem_filter]

theorem chosen_wins {recipe item : Dict} {eligible : List Dict} (member : item ∈ chosen recipe eligible) :
    item ∈ eligible ∧ wins eligible item = true :=
  mem_ordered.mp ((select_sublist (ordered recipe eligible)).subset member)

end V3Aidlc.ContextCompilations
