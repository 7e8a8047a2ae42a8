import V3Aidlc.Feasibility

/-!
The selection of modes against a valid route. Its rules are tried one by one on the facts and on the
optional modes asked for, so a selection holds the chosen rules in order, inherits what the route
and these modes demand, and only grows with more facts and more optional modes
(`selection_exact`).
-/
namespace V3Aidlc.ModeSelections
open V3Aidlc.Values V3Aidlc.Loops V3Aidlc.Contracts V3Aidlc.Canonical V3Aidlc.LifecycleContracts

/-! ### What a selection is meant to hold -/

/-- The predicate holds of a fact that is present. -/
def Holds (predicate facts : Dict) : Prop :=
  ∃ actual, Dict.get? (text predicate "fact") facts = some actual ∧
    ((∃ expected, Dict.get? "equals" predicate = some expected ∧ actual.eq expected = true) ∨
      (Dict.get? "equals" predicate = none ∧ ∃ member ∈ items predicate "in", actual.eq member = true))

/-- The rule puts its mode in. -/
def Chosen (facts : Dict) (optional : List String) (rule : Dict) : Prop :=
  text rule "requirement" = "required" ∨
    (text rule "requirement" = "conditional" ∧ ∀ predicate ∈ records rule "whenAll", Holds predicate facts) ∨
      (text rule "requirement" = "optional" ∧ text rule "modeId" ∈ optional)

/-- The selection holds the modes of the chosen rules, each once and in their order, and inherits
    the controls of the route and of these modes. -/
structure SelectsModes (route mode_library stage_contract facts : Dict) (optional : List String)
    (result : SelectionResult) : Prop where
  chosen : ∀ mode_id requirement, (∃ selection ∈ result.selected, selection.mode_id = mode_id ∧
      selection.requirement = requirement) ↔
    ∃ rule ∈ records stage_contract "modeRules", Chosen facts optional rule ∧ text rule "modeId" = mode_id ∧
      text rule "requirement" = requirement
  once : (result.selected.map ModeSelection.mode_id).Nodup
  ordered : (result.selected.map ModeSelection.mode_id).Sublist
    ((records stage_contract "modeRules").map (fun rule => text rule "modeId"))
  inherited : ∀ control, control ∈ result.inherited_controls ↔ control ∈ hard_controls route ∨
    ∃ selection ∈ result.selected, ∃ mode, mode_library.get selection.mode_id = .obj mode ∧ control ∈ hard_controls mode

/-- No posture, or one that the route allows. -/
def AllowedPosture (route : Dict) (posture : Json) : Prop :=
  posture = .null ∨ ∃ name, posture = .str name ∧ .str name ∈ items route "allowedPostures"

/-- The optional modes that the stage offers. -/
def Offered (stage_contract : Dict) (optional : List String) : Prop :=
  ∀ mode_id ∈ optional, ∃ rule ∈ records stage_contract "modeRules", text rule "requirement" = "optional" ∧
    text rule "modeId" = mode_id

/-- The facts with others under new names. -/
def Extends (facts more : Dict) : Prop := ∀ name value, Dict.get? name facts = some value →
    Dict.get? name more = some value

/-! ### Valid rules -/

/-- What the selection needs of a rule that was validated. -/
structure ValidRule (mode_library rule : Dict) : Prop where
  mode : ∃ mode, mode_library.get (text rule "modeId") = .obj mode
  predicates : ∀ predicate ∈ items rule "whenAll", ∃ (fields : Dict) (fact : String), predicate = .obj fields ∧
    fields.get "fact" = .str fact

section
variable {mode_library : Dict}

theorem required_array_ok {value : Json} {message : String} {values : List Json} :
    required_array value message = .ok values ↔ value = .arr values ∧ values ≠ [] := by
  unfold required_array
  cases found : value.list? with
  | none =>
    have other : ¬ value = .arr values := fun same => by simp [same,Json.list?] at found
    simp [contract_error,other]
  | some held =>
    obtain rfl := list?_eq_some.mp found
    simp only [bind_ok_iff,LifecycleContracts.reject,reject_if_ok,pure_ok_iff,Json.arr.injEq]
    constructor
    · rintro ⟨_,some,rfl⟩
      exact ⟨rfl,by simpa using some⟩
    · rintro ⟨rfl,some⟩
      exact ⟨(),by simpa using some,rfl⟩

theorem within_ok {values : List Json} {known : List String} {message : List String → String} :
    within values known message = .ok () ↔ ∀ value ∈ values, ∃ name ∈ known, value = .str name := by
  unfold within
  simp only [bind_ok_iff,raise_if_ok,LifecycleContracts.reject,reject_if_ok,Bool.not_eq_false',List.isEmpty_iff,
    List.filter_eq_nil_iff,List.all_eq_true,Bool.not_eq_true',Bool.not_eq_false,List.any_eq_true,eq_str_right]
  constructor
  · rintro ⟨_,_,each⟩
    exact each
  · intro each
    refine ⟨(),?_,each⟩
    intro value member
    obtain ⟨name,_,rfl⟩ := each value member
    rfl

theorem validate_predicate_ok {predicate : Json} (ran : LifecycleContracts.validate_predicate predicate = .ok ()) :
    ∃ (fields : Dict) (fact : String), predicate = .obj fields ∧ fields.get "fact" = .str fact := by
  unfold LifecycleContracts.validate_predicate Contracts.validate_predicate at ran
  cases found : predicate.dict? with
  | none => simp [found] at ran
  | some fields =>
    simp only [found,bind_ok_iff,required_string_ok] at ran
    obtain ⟨fact,⟨held,_⟩,_⟩ := ran
    exact ⟨fields,fact,dict?_eq_some.mp found,get_of_get? held⟩

theorem validate_mode_rule_ok {stage_id rule : Json} {seen next : List String}
    (ran : validate_mode_rule mode_library stage_id seen rule = .ok next) :
    ∃ fields, rule = .obj fields ∧ ValidRule mode_library fields ∧ text fields "modeId" ∉ seen ∧
      next = seen ++ [text fields "modeId"] := by
  unfold validate_mode_rule at ran
  cases found : rule.dict? with
  | none => simp [found,contract_error] at ran
  | some fields =>
    simp only [found,bind_ok_iff,LifecycleContracts.reject,reject_if_ok,pure_ok_iff,as_dict_ok,iterate_ok,
      forM_ok_iff,require_string,required_string_ok,List.contains_eq_mem,decide_eq_false_iff_not] at ran
    obtain ⟨_,⟨named,_⟩,_,_,_,_,_,fresh,_,_,mode,held,_,_,_,_,_,_,_,_,predicates,listed,_,valid,rfl⟩ := ran
    have same := text_of_get? named
    subst same
    refine ⟨fields,dict?_eq_some.mp found,⟨⟨mode,held⟩,?_⟩,fresh,rfl⟩
    intro predicate member
    refine validate_predicate_ok (valid predicate ?_)
    unfold items Dict.get at member
    unfold Dict.getOr at listed
    cases given : Dict.get? "whenAll" fields with
    | none => simp [given,Json.list?] at member
    | some value =>
      rw [given,Option.getD_some] at member listed
      cases value with
      | arr values =>
        obtain rfl : values = predicates := Option.some.inj listed
        exact member
      | _ => simp [Json.list?] at member

/-- The rules of a stage that was validated. -/
theorem validate_stage_ok {stage : Dict} (ran : validate_stage mode_library stage = .ok ()) :
    (∀ rule ∈ records stage "modeRules", ValidRule mode_library rule) ∧
      ((records stage "modeRules").map (fun rule => text rule "modeId")).Nodup := by
  unfold validate_stage at ran
  obtain ⟨rules,listed,ran⟩ := bind_ok_iff.mp ran
  obtain ⟨final,ran,_⟩ := bind_ok_iff.mp ran
  have given : items stage "modeRules" = rules := by
    unfold items
    rw [(required_array_ok.mp listed).1]
    rfl
  unfold records
  rw [given]
  have held := foldlM_invariant (fun done seen => (∀ rule ∈ done.filterMap Json.dict?, ValidRule mode_library rule) ∧
    (done.filterMap Json.dict?).map (fun rule => text rule "modeId") = seen ∧ seen.Nodup) ?_ (by simp) ran
  · obtain ⟨valid,rfl,distinct⟩ := held
    exact ⟨valid,distinct⟩
  · rintro done seen rule next ⟨valid,rfl,distinct⟩ step
    obtain ⟨fields,rfl,here,fresh,rfl⟩ := validate_mode_rule_ok step
    refine ⟨?_,by simp [Json.dict?],List.Nodup.append distinct (List.nodup_singleton _) (by simpa using fresh)⟩
    intro other member
    rw [List.filterMap_append] at member
    rcases List.mem_append.mp member with early | last
    · exact valid other early
    · obtain rfl : other = fields := by simpa [Json.dict?] using last
      exact here

/-- What a valid route says of its stages and of its default posture. -/
theorem validate_route_contract_ok {route : Dict} (ran : validate_route_contract route mode_library = .ok ()) :
    (∀ stage ∈ records route "stages", validate_stage mode_library stage = .ok ()) ∧
      memList (route.get "defaultPosture") (items route "allowedPostures") = true ∧
      ∀ name, .str name ∈ items route "allowedPostures" → name ∈ POSTURES := by
  unfold validate_route_contract at ran
  simp only [bind_ok_iff,LifecycleContracts.reject,reject_if_ok,required_array_ok,forM_ok_iff] at ran
  obtain ⟨_,_,_,_,_,_,postures,⟨allowed,_⟩,_,named,_,usual,_,_,stages,⟨listed,_⟩,_,_,_,_,_,_,_,staged,_⟩ := ran
  have postured : items route "allowedPostures" = postures := by
    unfold items
    rw [allowed]
    rfl
  have records_eq : records route "stages" = stages.filterMap Json.dict? := by
    unfold records items
    rw [listed]
    rfl
  rw [postured,records_eq]
  refine ⟨staged,by simpa using usual,?_⟩
  intro name member
  obtain ⟨_,known,same⟩ := within_ok.mp named _ member
  exact Json.str.inj same ▸ known

/-! ### The selection -/

theorem holds_iff {fields facts : Dict} {fact : String} (named : fields.get "fact" = .str fact) :
    predicate_matches fields facts = true ↔ Holds fields facts := by
  have read : text fields "fact" = fact := by
    unfold text
    rw [named]
    rfl
  unfold predicate_matches Holds
  rw [named,read]
  cases present : Dict.get? fact facts with
  | none => simp [present]
  | some actual =>
    cases equals : Dict.get? "equals" fields with
    | some expected => simp [present]
    | none =>
      unfold items
      cases given : fields.get "in" with
      | arr members => simp [present,Json.list?,memList,List.any_eq_true]
      | _ => simp [present,Json.list?]

theorem all_match_iff {rule facts : Dict} (valid : ValidRule mode_library rule) :
    all_match (items rule "whenAll") facts = true ↔ ∀ predicate ∈ records rule "whenAll", Holds predicate facts := by
  unfold all_match records
  rw [List.all_eq_true]
  simp only [List.mem_filterMap,dict?_eq_some]
  constructor
  · rintro each fields ⟨_,member,rfl⟩
    obtain ⟨_,_,same,named⟩ := valid.predicates _ member
    cases same
    exact (holds_iff named).mp (each _ member)
  · intro each predicate member
    obtain ⟨fields,_,rfl,named⟩ := valid.predicates predicate member
    exact (holds_iff named).mpr (each fields ⟨_,member,rfl⟩)

/-- A rule puts its mode in when it is chosen. -/
theorem select_mode_iff {rule facts : Dict} {optional : List String} (valid : ValidRule mode_library rule) :
    (Chosen facts optional rule ∧ ∃ reason, select_mode facts (optional.map Json.str) rule =
      some ⟨text rule "modeId",text rule "requirement",reason⟩) ∨
    (¬ Chosen facts optional rule ∧ select_mode facts (optional.map Json.str) rule = none) := by
  have wanted : memList (.str (text rule "modeId")) (optional.map Json.str) = true ↔ text rule "modeId" ∈ optional := by
    unfold memList
    simp
  unfold select_mode Chosen
  rw [← all_match_iff valid,← wanted]
  by_cases required : text rule "requirement" = "required"
  · simp [required]
  · by_cases conditional : text rule "requirement" = "conditional"
    · by_cases matched : all_match (items rule "whenAll") facts = true <;> simp [conditional,matched]
    · by_cases isOptional : text rule "requirement" = "optional"
      · by_cases asked : memList (.str (text rule "modeId")) (optional.map Json.str) = true <;> simp [isOptional,asked]
      · simp [required,conditional,isOptional]

/-- The modes that the rules put in. -/
def selections (facts : Dict) (optional : List String) (rules : List Dict) : List ModeSelection :=
  rules.filterMap (select_mode facts (optional.map Json.str))

/-- What the route and the selected modes demand. -/
def inherited (route mode_library : Dict) (selected : List ModeSelection) : List String :=
  sortedStrings (distinct (hard_controls route ++
    selected.flatMap (fun selection => hard_controls (((mode_library.get selection.mode_id).dict?).getD []))))

theorem mem_selections {facts : Dict} {optional : List String} {rules : List Dict}
    (valid : ∀ rule ∈ rules, ValidRule mode_library rule) {mode_id requirement : String} :
    (∃ selection ∈ selections facts optional rules, selection.mode_id = mode_id ∧ selection.requirement = requirement) ↔
      ∃ rule ∈ rules, Chosen facts optional rule ∧ text rule "modeId" = mode_id ∧
        text rule "requirement" = requirement := by
  unfold selections
  simp only [List.mem_filterMap]
  constructor
  · rintro ⟨selection,⟨rule,member,put⟩,rfl,rfl⟩
    rcases @select_mode_iff mode_library rule facts optional (valid rule member) with
      ⟨chosen,reason,same⟩ | ⟨_,out⟩
    · obtain rfl := Option.some.inj (same.symm.trans put)
      exact ⟨rule,member,chosen,rfl,rfl⟩
    · rw [out] at put
      cases put
  · rintro ⟨rule,member,chosen,rfl,rfl⟩
    rcases @select_mode_iff mode_library rule facts optional (valid rule member) with
      ⟨_,reason,same⟩ | ⟨refused,_⟩
    · exact ⟨_,⟨rule,member,same⟩,rfl,rfl⟩
    · exact absurd chosen refused

theorem selections_ordered {facts : Dict} {optional : List String} {rules : List Dict}
    (valid : ∀ rule ∈ rules, ValidRule mode_library rule) :
    ((selections facts optional rules).map ModeSelection.mode_id).Sublist
      (rules.map (fun rule => text rule "modeId")) := by
  induction rules with
  | nil => exact List.Sublist.refl _
  | cons rule rest ih =>
    obtain ⟨here,later⟩ := List.forall_mem_cons.mp valid
    unfold selections at ih ⊢
    rcases @select_mode_iff mode_library rule facts optional here with ⟨_,reason,same⟩ | ⟨_,out⟩
    · rw [List.filterMap_cons_some same,List.map_cons,List.map_cons]
      exact (ih later).cons_cons _
    · rw [List.filterMap_cons_none out,List.map_cons]
      exact (ih later).cons _

/-- Each selected mode is known to the library. -/
theorem selections_known {facts : Dict} {optional : List String} {rules : List Dict}
    (valid : ∀ rule ∈ rules, ValidRule mode_library rule) :
    ∀ selection ∈ selections facts optional rules, ∃ mode, mode_library.get selection.mode_id = .obj mode := by
  intro selection member
  obtain ⟨rule,inside,_,same,_⟩ := (mem_selections valid).mp ⟨selection,member,rfl,rfl⟩
  rw [← same]
  exact (valid rule inside).mode

theorem mem_inherited {route : Dict} {selected : List ModeSelection} {control : String}
    (known : ∀ selection ∈ selected, ∃ mode, mode_library.get selection.mode_id = .obj mode) :
    control ∈ inherited route mode_library selected ↔ control ∈ hard_controls route ∨
      ∃ selection ∈ selected, ∃ mode, mode_library.get selection.mode_id = .obj mode ∧
        control ∈ hard_controls mode := by
  unfold inherited sortedStrings
  rw [mem_sortedBy,mem_distinct,List.mem_append,List.mem_flatMap]
  refine or_congr_right (exists_congr (fun selection => and_congr_right (fun member => ?_)))
  obtain ⟨mode,held⟩ := known selection member
  rw [held]
  simp [Json.dict?]

/-! ### More facts and more optional modes -/

theorem holds_mono {predicate facts more : Dict} (extends_facts : Extends facts more) (holds : Holds predicate facts) :
    Holds predicate more := by
  obtain ⟨actual,present,matched⟩ := holds
  exact ⟨actual,extends_facts _ _ present,matched⟩

theorem chosen_mono {facts more : Dict} {optional wider : List String} (extends_facts : Extends facts more)
    (asked : optional ⊆ wider) {rule : Dict} (chosen : Chosen facts optional rule) : Chosen more wider rule := by
  rcases chosen with required | ⟨conditional,holds⟩ | ⟨isOptional,member⟩
  · exact .inl required
  · exact .inr (.inl ⟨conditional,fun predicate inside => holds_mono extends_facts (holds predicate inside)⟩)
  · exact .inr (.inr ⟨isOptional,asked member⟩)

/-- A selected mode stays selected. -/
theorem selections_mono {facts more : Dict} {optional wider : List String} {rules : List Dict}
    (valid : ∀ rule ∈ rules, ValidRule mode_library rule) (extends_facts : Extends facts more)
    (asked : optional ⊆ wider) : ∀ selection ∈ selections facts optional rules,
      ∃ other ∈ selections more wider rules, other.mode_id = selection.mode_id := by
  intro selection member
  obtain ⟨rule,inside,put,same,requires⟩ := (mem_selections valid).mp ⟨selection,member,rfl,rfl⟩
  obtain ⟨other,found,sameMode,_⟩ := (mem_selections valid).mpr
    ⟨rule,inside,chosen_mono extends_facts asked put,same,requires⟩
  exact ⟨other,found,sameMode⟩

/-- Selections that keep their modes keep what these demand. -/
theorem inherited_mono {route : Dict} {selected more : List ModeSelection}
    (known : ∀ selection ∈ selected, ∃ mode, mode_library.get selection.mode_id = .obj mode)
    (known_more : ∀ selection ∈ more, ∃ mode, mode_library.get selection.mode_id = .obj mode)
    (kept : ∀ selection ∈ selected, ∃ other ∈ more, other.mode_id = selection.mode_id) :
    inherited route mode_library selected ⊆ inherited route mode_library more := by
  intro control member
  rcases (mem_inherited known).mp member with own | ⟨selection,inside,mode,held,demanded⟩
  · exact (mem_inherited known_more).mpr (.inl own)
  · obtain ⟨other,found,same⟩ := kept selection inside
    exact (mem_inherited known_more).mpr (.inr ⟨other,found,mode,by rw [same]; exact held,demanded⟩)

/-! ### The selection of a valid route -/

/-- A valid request is answered with the modes that the rules of its stage put in. -/
theorem select_modes_ok {route stage_contract : Dict} {stage : String} {posture : Json} {optional : List String}
    (valid : validate_route_contract route mode_library = .ok ()) (staged : stage_of route stage = some stage_contract)
    (allowed : AllowedPosture route posture) (offered : Offered stage_contract optional) (facts : Dict) :
    ∃ selected_posture, select_modes route mode_library stage facts posture (optional.map Json.str) =
      .ok ⟨text route "id",text route "version",stage,selected_posture,
        selections facts optional (records stage_contract "modeRules"),
        inherited route mode_library (selections facts optional (records stage_contract "modeRules"))⟩ := by
  obtain ⟨_,usual,postures⟩ := validate_route_contract_ok valid
  have permitted : memList (if posture.truthy then posture else route.get "defaultPosture")
      (items route "allowedPostures") = true := by
    rcases allowed with rfl | ⟨name,rfl,member⟩
    · exact usual
    · have visible : (Json.str name).truthy = true := by
        have known := postures name member
        simp only [POSTURES,List.mem_cons,List.not_mem_nil,or_false] at known
        rcases known with rfl | rfl | rfl | rfl | rfl <;> decide
      rw [if_pos visible]
      unfold memList
      rw [List.any_eq_true]
      exact ⟨_,member,eq_str_left.mpr rfl⟩
  refine ⟨if posture.truthy then posture else route.get "defaultPosture",?_⟩
  unfold select_modes
  rw [valid,ok_bind]
  simp only [permitted,staged]
  rw [bind_ok_iff]
  refine ⟨(),rfl,?_⟩
  rw [bind_ok_iff]
  refine ⟨(),within_ok.mpr ?_,rfl⟩
  intro value member
  obtain ⟨mode_id,inside,rfl⟩ := List.mem_map.mp member
  obtain ⟨rule,listed,isOptional,rfl⟩ := offered mode_id inside
  exact ⟨_,List.mem_map_of_mem (List.mem_filter.mpr ⟨listed,by simpa using isOptional⟩),rfl⟩

/-- Modes that the stage does not offer are refused. -/
theorem offered_of_ok {route stage_contract facts : Dict} {stage : String} {posture : Json} {optional : List String}
    {result : SelectionResult} (staged : stage_of route stage = some stage_contract)
    (ran : select_modes route mode_library stage facts posture (optional.map Json.str) = .ok result) :
    Offered stage_contract optional := by
  unfold select_modes at ran
  simp only [bind_ok_iff,staged] at ran
  obtain ⟨_,_,_,_,_,named,_⟩ := ran
  intro mode_id member
  obtain ⟨_,known,same⟩ := within_ok.mp named _ (List.mem_map_of_mem member)
  obtain ⟨rule,kept,rfl⟩ := List.mem_map.mp known
  obtain ⟨listed,isOptional⟩ := List.mem_filter.mp kept
  exact ⟨rule,listed,of_decide_eq_true isOptional,(Json.str.inj same).symm⟩

/-- A valid route answers every request for modes that its stage offers. The selection holds exactly
    the chosen modes and inherits exactly what the route and these modes demand; the posture changes
    neither, and more facts and more optional modes take nothing away. -/
theorem selection_exact {route stage_contract : Dict} {stage : String} {posture : Json} {optional : List String}
    (valid : validate_route_contract route mode_library = .ok ()) (staged : stage_of route stage = some stage_contract)
    (allowed : AllowedPosture route posture) (facts : Dict) :
    ((∃ result, select_modes route mode_library stage facts posture (optional.map Json.str) = .ok result) ↔
      Offered stage_contract optional) ∧
    ∀ result, select_modes route mode_library stage facts posture (optional.map Json.str) = .ok result →
      SelectsModes route mode_library stage_contract facts optional result ∧
      (∀ other, AllowedPosture route other → ∃ again,
        select_modes route mode_library stage facts other (optional.map Json.str) = .ok again ∧
          again.selected = result.selected ∧ again.inherited_controls = result.inherited_controls) ∧
      ∀ more wider, Extends facts more → optional ⊆ wider → Offered stage_contract wider → ∃ again,
        select_modes route mode_library stage more posture (wider.map Json.str) = .ok again ∧
          result.selected.map ModeSelection.mode_id ⊆ again.selected.map ModeSelection.mode_id ∧
          result.inherited_controls ⊆ again.inherited_controls := by
  have listed : stage_contract ∈ records route "stages" := List.mem_of_find?_eq_some staged
  obtain ⟨rules,distinct⟩ := validate_stage_ok ((validate_route_contract_ok valid).1 stage_contract listed)
  refine ⟨⟨fun ⟨_,ran⟩ => offered_of_ok staged ran,fun offered => ?_⟩,?_⟩
  · obtain ⟨_,ran⟩ := select_modes_ok valid staged allowed offered facts
    exact ⟨_,ran⟩
  intro result ran
  have offered := offered_of_ok staged ran
  obtain ⟨selected_posture,chosen⟩ := select_modes_ok valid staged allowed offered facts
  obtain rfl := Except.ok.inj (chosen.symm.trans ran)
  refine ⟨⟨fun _ _ => mem_selections rules,(selections_ordered rules).nodup distinct,selections_ordered rules,
    fun _ => mem_inherited (selections_known rules)⟩,?_,?_⟩
  · intro other also
    obtain ⟨_,again⟩ := select_modes_ok valid staged also offered facts
    exact ⟨_,again,rfl,rfl⟩
  · intro more wider extends_facts asked offered_too
    obtain ⟨_,again⟩ := select_modes_ok valid staged allowed offered_too more
    have kept := selections_mono rules extends_facts asked
    refine ⟨_,again,?_,inherited_mono (selections_known rules) (selections_known rules) kept⟩
    intro mode_id member
    obtain ⟨selection,inside,rfl⟩ := List.mem_map.mp member
    obtain ⟨other,found,same⟩ := kept selection inside
    exact same ▸ List.mem_map_of_mem found

end

/-! ### A route with a rule of each kind -/

/-- A mode with controls of its own. -/
def controlled_mode (controls : List String) : Json :=
  .obj (Feasibility.sample_mode.set "hardControls" (.arr (controls.map Json.str)))

def tiered_library : Dict :=
  [("REVIEW",controlled_mode ["CTRL-REVIEW"]),("HARDEN",controlled_mode ["CTRL-SECRETS","CTRL-SIGNED"]),
    ("PROTO",controlled_mode ["CTRL-REVIEW","CTRL-LABELLED"])]

def tiered_stage : Dict :=
  [("id",.str "implementation"),("modeRules",.arr [.obj [("modeId",.str "REVIEW"),("requirement",.str "required")],
    .obj [("modeId",.str "HARDEN"),("requirement",.str "conditional"),
      ("whenAll",.arr [.obj [("fact",.str "risk"),("equals",.str "high")]])],
    .obj [("modeId",.str "PROTO"),("requirement",.str "optional")]])]

def tiered_route : Dict :=
  ((Feasibility.sample_route.set "allowedPostures" (.arr [.str "balanced",.str "assured"])).set "hardControls"
    (.arr [.str "CTRL-AUDIT"])).set "stages" (.arr [.obj tiered_stage])

theorem tiered_offered {optional : List String} (asked : optional ⊆ ["PROTO"]) : Offered tiered_stage optional := by
  intro mode_id member
  obtain rfl := List.mem_singleton.mp (asked member)
  have listed : [("modeId",.str "PROTO"),("requirement",.str "optional")] ∈ records tiered_stage "modeRules" :=
    List.mem_cons_of_mem _ (List.mem_cons_of_mem _ (List.mem_singleton_self _))
  exact ⟨_,listed,rfl,rfl⟩

/-- The required mode comes alone. At high risk and with the optional mode asked for, the others join it; another
    posture changes nothing. -/
theorem selection_exact_tiered : ∃ alone all assured,
    select_modes tiered_route tiered_library "implementation" [] (.str "balanced") [] = .ok alone ∧
    select_modes tiered_route tiered_library "implementation" [("risk",.str "high")] (.str "balanced") [.str "PROTO"] =
      .ok all ∧
    select_modes tiered_route tiered_library "implementation" [("risk",.str "high")] (.str "assured") [.str "PROTO"] =
      .ok assured ∧
    alone.selected.map ModeSelection.mode_id = ["REVIEW"] ∧ alone.inherited_controls = ["CTRL-AUDIT","CTRL-REVIEW"] ∧
    all.selected.map ModeSelection.mode_id = ["REVIEW","HARDEN","PROTO"] ∧
    all.inherited_controls = ["CTRL-AUDIT","CTRL-LABELLED","CTRL-REVIEW","CTRL-SECRETS","CTRL-SIGNED"] ∧
    SelectsModes tiered_route tiered_library tiered_stage [("risk",.str "high")] ["PROTO"] all ∧
    assured.selected = all.selected ∧ assured.inherited_controls = all.inherited_controls := by
  have valid : validate_route_contract tiered_route tiered_library = .ok () := by decide +kernel
  have staged : stage_of tiered_route "implementation" = some tiered_stage := rfl
  have balanced : AllowedPosture tiered_route (.str "balanced") := .inr ⟨"balanced",rfl,List.mem_cons_self⟩
  have other : AllowedPosture tiered_route (.str "assured") :=
    .inr ⟨"assured",rfl,List.mem_cons_of_mem _ (List.mem_singleton_self _)⟩
  obtain ⟨alone,quiet⟩ := (@selection_exact tiered_library _ _ _ _ [] valid staged balanced []).1.mpr
    (tiered_offered (List.nil_subset _))
  obtain ⟨answered,risky⟩ := @selection_exact tiered_library _ _ _ _ ["PROTO"] valid staged balanced [("risk",.str "high")]
  obtain ⟨all,ran⟩ := answered.mpr (tiered_offered (List.Subset.refl _))
  obtain ⟨selects,postures,_⟩ := risky all ran
  obtain ⟨assured,again,same,controls⟩ := postures _ other
  have single : (select_modes tiered_route tiered_library "implementation" [] (.str "balanced") []).toOption.map
      (fun result => (result.selected.map ModeSelection.mode_id,result.inherited_controls)) =
        some (["REVIEW"],["CTRL-AUDIT","CTRL-REVIEW"]) := by decide +kernel
  have every : (select_modes tiered_route tiered_library "implementation" [("risk",.str "high")] (.str "balanced")
      [.str "PROTO"]).toOption.map (fun result => (result.selected.map ModeSelection.mode_id,result.inherited_controls)) =
        some (["REVIEW","HARDEN","PROTO"],["CTRL-AUDIT","CTRL-LABELLED","CTRL-REVIEW","CTRL-SECRETS","CTRL-SIGNED"]) := by
    decide +kernel
  rw [show select_modes tiered_route tiered_library "implementation" [] (.str "balanced") [] = .ok alone from quiet]
    at single
  rw [show select_modes tiered_route tiered_library "implementation" [("risk",.str "high")] (.str "balanced")
    [.str "PROTO"] = .ok all from ran] at every
  obtain ⟨one,own⟩ := Prod.mk.inj (Option.some.inj single)
  obtain ⟨three,theirs⟩ := Prod.mk.inj (Option.some.inj every)
  exact ⟨alone,all,assured,quiet,ran,again,one,own,three,theirs,selects,same,controls⟩

end V3Aidlc.ModeSelections
