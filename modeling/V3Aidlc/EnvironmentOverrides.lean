import V3Aidlc.RuntimeConfig

/-!
How the environment is read. A variable is put at the path that its name spells
(`environment_override_ok`): objects are made on the way where there is nothing, another
value on the way is a conflict, and what is at the end of the path is replaced.
-/
namespace V3Aidlc.EnvironmentOverrides
open V3Aidlc.Values V3Aidlc.Loops V3Aidlc.Contracts V3Aidlc.Canonical V3Aidlc.RuntimeConfig

/-- The path that a name spells after the start of the names. -/
def override_path (lower : String → String) (start name : String) : List String :=
  ((split_parts [] (name.toList.drop start.length)).filter (fun part => !part.isEmpty)).map
    (fun part => lower (String.ofList part))

/-- A name that is read. -/
def named_by (start : String) (setting : String × String) : Bool := start.toList.isPrefixOf setting.1.toList

section
variable {lower : String → String} {loads : String → Py (Option Json)} {name raw part : String} {cursor next : Dict}

theorem put_last : put_override loads name raw cursor [part] = .ok next ↔ ∃ value,
    parse_env_value loads raw = .ok value ∧ cursor.set part value = next := by
  rw [put_override]
  simp only [bind_ok_iff,pure_ok_iff]

theorem put_cons {rest : List String} (more : rest ≠ []) :
    put_override loads name raw cursor (part :: rest) = .ok next ↔ ∃ existing inner,
      (Dict.get? part cursor).getD (.obj []) = .obj existing ∧
        put_override loads name raw existing rest = .ok inner ∧ cursor.set part (.obj inner) = next := by
  rw [put_override]
  · cases held : (Dict.get? part cursor).getD (.obj []) with
    | obj existing => simp only [bind_ok_iff,pure_ok_iff,Json.obj.injEq,exists_and_left,exists_eq_left']
    | _ => simp [runtime_error]
  · exact more

theorem environment_override_ok {start : String} {setting : String × String} :
    environment_override lower loads start cursor setting = .ok next ↔
      if named_by start setting then override_path lower start setting.1 ≠ [] ∧
        put_override loads setting.1 setting.2 cursor (override_path lower start setting.1) = .ok next
      else cursor = next := by
  unfold environment_override named_by override_path
  split
  · simp only [bind_ok_iff,reject,reject_if_ok,List.isEmpty_eq_false_iff,ne_eq,List.map_eq_nil_iff,exists_and_left,
      exists_const]
  · rw [pure_ok_iff]

end

/-! ### Writes at paths -/

/-- A path and the value that is put there. -/
abbrev Setting := List String × Json

/-- The value at a path of keys. -/
def reach : List String → Json → Option Json
  | [],value => some value
  | key :: rest,.obj fields => (Dict.get? key fields).bind (reach rest)
  | _ :: _,_ => none

/-- What putting a value at a path leaves, unless there is a value on the way that is no
    object. -/
def write : Dict → List String → Json → Option Dict
  | _,[],_ => none
  | cursor,[part],value => some (cursor.set part value)
  | cursor,part :: rest,value =>
    match (Dict.get? part cursor).getD (.obj []) with
    | .obj existing => (write existing rest value).map (fun inner => cursor.set part (.obj inner))
    | _ => none

def writes (given : List Setting) (cursor : Dict) : Option Dict :=
  given.foldlM (fun cursor setting => write cursor setting.1 setting.2) cursor

section
variable {cursor next : Dict} {part : String} {rest path : List String} {value found : Json}

theorem write_cons (more : rest ≠ []) : write cursor (part :: rest) value = some next ↔ ∃ existing inner,
    (Dict.get? part cursor).getD (.obj []) = .obj existing ∧ write existing rest value = some inner ∧
      cursor.set part (.obj inner) = next := by
  rw [write]
  · cases held : (Dict.get? part cursor).getD (.obj []) with
    | obj existing => simp
    | _ => simp
  · exact more

theorem reach_cons (key : String) (rest : List String) (fields : Dict) :
    reach (key :: rest) (.obj fields) = (Dict.get? key fields).bind (reach rest) := by
  rw [reach]

/-- What is beyond a key that may not be there yet. -/
theorem reach_existing {existing : Dict} {key : String}
    (held : (Dict.get? part cursor).getD (.obj []) = .obj existing) :
    reach (part :: key :: rest) (.obj cursor) = reach (key :: rest) (.obj existing) := by
  rw [reach_cons]
  cases here : Dict.get? part cursor with
  | none =>
    rw [here] at held
    obtain rfl := Json.obj.inj held
    rfl
  | some v =>
    rw [here] at held
    obtain rfl : v = .obj existing := held
    rfl

/-- A write puts the value at its path, makes objects on the way and leaves the rest. -/
theorem write_reach (written : write cursor path value = some next) (place : List String) :
    (path <+: place → reach place (.obj next) = reach (place.drop path.length) value) ∧
    (place <+: path → place ≠ path → ∃ fields, reach place (.obj next) = some (.obj fields)) ∧
    (¬path <+: place → ¬place <+: path → reach place (.obj next) = reach place (.obj cursor)) := by
  induction path generalizing cursor next place with
  | nil => cases written
  | cons part rest ih =>
    cases place with
    | nil =>
      refine ⟨fun inside => ?_,fun _ _ => ⟨next,rfl⟩,fun _ outside => absurd List.nil_prefix outside⟩
      simp at inside
    | cons key others =>
      by_cases same : part = key
      · subst same
        simp only [List.cons_prefix_cons,true_and,List.length_cons,List.drop_succ_cons,ne_eq,List.cons.injEq]
        by_cases more : rest = []
        · subst more
          obtain rfl := Option.some.inj written
          refine ⟨fun _ => ?_,fun above other => absurd (List.prefix_nil.mp above) other,
            fun outside => absurd List.nil_prefix outside⟩
          rw [reach_cons,get?_set_self]
          rfl
        · obtain ⟨existing,inner,held,deeper,rfl⟩ := (write_cons more).mp written
          have inside : reach (part :: others) (.obj (cursor.set part (.obj inner))) = reach others (.obj inner) := by
            rw [reach_cons,get?_set_self]
            rfl
          obtain ⟨below,above,beside⟩ := ih deeper others
          rw [inside]
          refine ⟨below,above,fun outside outside' => ?_⟩
          cases others with
          | nil => exact absurd List.nil_prefix outside'
          | cons second others => rw [beside outside outside',reach_existing held]
      · have kept : reach (key :: others) (.obj next) = reach (key :: others) (.obj cursor) := by
          rw [reach_cons,reach_cons]
          by_cases more : rest = []
          · subst more
            obtain rfl := Option.some.inj written
            rw [get?_set_ne _ _ same]
          · obtain ⟨_,_,_,_,rfl⟩ := (write_cons more).mp written
            rw [get?_set_ne _ _ same]
        exact ⟨fun inside => absurd (List.cons_prefix_cons.mp inside).1 same,
          fun inside => absurd (List.cons_prefix_cons.mp inside).1.symm same,fun _ _ => kept⟩

/-- A write is refused exactly where there is another value on the way. -/
theorem write_refused : write cursor path value = none ↔ path = [] ∨ ∃ place found, place <+: path ∧ place ≠ path ∧
    reach place (.obj cursor) = some found ∧ found.isDict = false := by
  induction path generalizing cursor with
  | nil => simp [write]
  | cons part rest ih =>
    by_cases more : rest = []
    · subst more
      simp only [write,reduceCtorEq,List.cons_ne_nil,false_or,false_iff]
      rintro ⟨place,found,inside,apart,reached,plain⟩
      cases place with
      | nil =>
        obtain rfl := Option.some.inj reached
        cases plain
      | cons key others =>
        obtain ⟨rfl,shorter⟩ := List.cons_prefix_cons.mp inside
        rw [List.prefix_nil.mp shorter] at apart
        exact apart rfl
    · have root : ∀ {found : Json}, reach [] (.obj cursor) = some found → found.isDict = true := by
        intro found reached
        obtain rfl := Option.some.inj reached
        rfl
      simp only [reduceCtorEq,false_or]
      by_cases object : ((Dict.get? part cursor).getD (.obj [])).isDict = true
      · obtain ⟨existing,held⟩ : ∃ existing, (Dict.get? part cursor).getD (.obj []) = .obj existing :=
          ⟨_,dict?_eq_some.mp (Option.some_get object).symm⟩
        have refused : write cursor (part :: rest) value = none ↔ write existing rest value = none := by
          rw [Option.eq_none_iff_forall_ne_some,Option.eq_none_iff_forall_ne_some]
          constructor
          · intro never inner written
            exact never _ ((write_cons more).mpr ⟨existing,inner,held,written,rfl⟩)
          · intro never next written
            obtain ⟨_,inner,held',deeper,_⟩ := (write_cons more).mp written
            obtain rfl := Json.obj.inj (held.symm.trans held')
            exact never inner deeper
        rw [refused,ih]
        simp only [more,false_or]
        constructor
        · rintro ⟨place,found,inside,apart,reached,plain⟩
          cases place with
          | nil =>
            obtain rfl := Option.some.inj reached
            cases plain
          | cons key others =>
            refine ⟨part :: key :: others,found,List.cons_prefix_cons.mpr ⟨rfl,inside⟩,?_,?_,plain⟩
            · exact fun same => apart (List.cons.inj same).2
            · rwa [reach_existing held]
        · rintro ⟨place,found,inside,apart,reached,plain⟩
          match place with
          | [] => exact absurd (root reached) (by simp [plain])
          | [key] =>
            obtain ⟨rfl,_⟩ := List.cons_prefix_cons.mp inside
            rw [reach_cons] at reached
            obtain ⟨v,here,same⟩ := Option.bind_eq_some_iff.mp reached
            rw [here] at held
            obtain rfl : v = .obj existing := held
            obtain rfl := Option.some.inj same
            cases plain
          | key :: second :: others =>
            obtain ⟨rfl,shorter⟩ := List.cons_prefix_cons.mp inside
            rw [reach_existing held] at reached
            exact ⟨second :: others,found,shorter,fun same => apart (by rw [same]),reached,plain⟩
      · have plain := Bool.eq_false_iff.mpr object
        have refused : write cursor (part :: rest) value = none := by
          rw [Option.eq_none_iff_forall_ne_some]
          intro next written
          obtain ⟨existing,_,held,_⟩ := (write_cons more).mp written
          rw [held] at plain
          cases plain
        refine iff_of_true refused ?_
        cases here : Dict.get? part cursor with
        | none =>
          rw [here] at plain
          cases plain
        | some v =>
          rw [here] at plain
          refine ⟨[part],v,List.cons_prefix_cons.mpr ⟨rfl,List.nil_prefix⟩,?_,?_,plain⟩
          · exact fun same => more (List.cons.inj same).2.symm
          · rw [reach_cons,here]
            rfl

end

/-! ### The last setting that leads to a place -/

/-- What the last of the settings whose path leads to the place has there. -/
def told (given : List Setting) (place : List String) : Option Json :=
  (given.reverse.find? (fun setting => setting.1.isPrefixOf place)).bind
    (fun setting => reach (place.drop setting.1.length) setting.2)

/-- Some setting has, on the way to its place, a value of the settings before it that is no
    object. -/
def Blocked (given : List Setting) : Prop := ∃ before setting, before ++ [setting] <+: given ∧
  ∃ place found, place <+: setting.1 ∧ place ≠ setting.1 ∧ told before place = some found ∧ found.isDict = false

/-- Some setting has no place, or is blocked. -/
def Refused (given : List Setting) : Prop := (∃ setting ∈ given, setting.1 = []) ∨ Blocked given

theorem told_snoc (given : List Setting) (setting : Setting) (place : List String) :
    told (given ++ [setting]) place =
      if setting.1 <+: place then reach (place.drop setting.1.length) setting.2 else told given place := by
  unfold told
  rw [List.reverse_append,List.reverse_singleton,List.singleton_append,List.find?_cons]
  by_cases leads : setting.1 <+: place
  · rw [if_pos leads,List.isPrefixOf_iff_prefix.mpr leads]
    rfl
  · have other : setting.1.isPrefixOf place = false := by
      rw [← Bool.not_eq_true,List.isPrefixOf_iff_prefix]
      exact leads
    rw [if_neg leads,other]

theorem writes_snoc (given : List Setting) (setting : Setting) (cursor : Dict) :
    writes (given ++ [setting]) cursor =
      (writes given cursor).bind (fun state => write state setting.1 setting.2) := by
  unfold writes
  rw [List.foldlM_append]
  simp

/-- A value that is no object is at a place exactly when the last setting that leads there
    has it. -/
theorem written_told {given : List Setting} : ∀ {state : Dict}, writes given [] = some state →
    ∀ place found, found.isDict = false → (reach place (.obj state) = some found ↔ told given place = some found) := by
  induction given using List.reverseRecOn with
  | nil =>
    intro state written place found plain
    obtain rfl := Option.some.inj written
    cases place with
    | nil =>
      refine iff_of_false ?_ (by simp [told])
      intro reached
      obtain rfl := Option.some.inj reached
      cases plain
    | cons key rest => simp [told,reach,Dict.get?]
  | append_singleton given setting ih =>
    intro state written place found plain
    rw [writes_snoc] at written
    obtain ⟨before,ran,written⟩ := Option.bind_eq_some_iff.mp written
    obtain ⟨below,above,beside⟩ := write_reach written place
    rw [told_snoc]
    by_cases leads : setting.1 <+: place
    · rw [if_pos leads,below leads]
    · rw [if_neg leads,← ih ran place found plain]
      by_cases passed : place <+: setting.1
      · have apart : place ≠ setting.1 := by
          rintro rfl
          exact leads List.prefix_rfl
        obtain ⟨fields,reached⟩ := above passed apart
        refine iff_of_false ?_ ?_
        · intro held
          obtain rfl := Option.some.inj (reached.symm.trans held)
          cases plain
        · intro held
          have refused : write before setting.1 setting.2 = none :=
            write_refused.mpr (.inr ⟨place,found,passed,apart,held,plain⟩)
          rw [refused] at written
          cases written
      · rw [beside leads passed]

theorem blocked_snoc {given : List Setting} {setting : Setting} : Blocked (given ++ [setting]) ↔ Blocked given ∨
    ∃ place found, place <+: setting.1 ∧ place ≠ setting.1 ∧ told given place = some found ∧ found.isDict = false := by
  constructor
  · rintro ⟨before,other,inside,blocks⟩
    rcases List.prefix_concat_iff.mp inside with whole | shorter
    · obtain ⟨rfl,same⟩ := List.append_inj' whole rfl
      obtain rfl := List.singleton_inj.mp same
      exact .inr blocks
    · exact .inl ⟨before,other,shorter,blocks⟩
  · rintro (⟨before,other,inside,blocks⟩ | blocks)
    · exact ⟨before,other,inside.trans (List.prefix_append _ _),blocks⟩
    · exact ⟨given,setting,List.prefix_rfl,blocks⟩

/-- The settings are refused exactly when one of them has no place or is blocked. -/
theorem writes_refused {given : List Setting} : writes given [] = none ↔ Refused given := by
  induction given using List.reverseRecOn with
  | nil => simp [writes,Refused,Blocked]
  | append_singleton given setting ih =>
    have snoc : Refused (given ++ [setting]) ↔ Refused given ∨ setting.1 = [] ∨
        ∃ place found, place <+: setting.1 ∧ place ≠ setting.1 ∧ told given place = some found ∧
          found.isDict = false := by
      unfold Refused
      rw [blocked_snoc]
      simp only [List.mem_append,List.mem_singleton,or_and_right,exists_or,exists_eq_left]
      exact or_or_or_comm
    rw [snoc,← ih,writes_snoc]
    cases ran : writes given [] with
    | none => simp
    | some state =>
      simp only [Option.bind_some,reduceCtorEq,false_or,write_refused]
      refine or_congr Iff.rfl (exists_congr fun place => exists_congr fun found => ?_)
      constructor
      · rintro ⟨inside,apart,reached,plain⟩
        exact ⟨inside,apart,(written_told ran place found plain).mp reached,plain⟩
      · rintro ⟨inside,apart,given,plain⟩
        exact ⟨inside,apart,(written_told ran place found plain).mpr given,plain⟩

/-! ### The environment -/

/-- The variables that are read, in the order of their names, as settings. -/
def settings (lower : String → String) (loads : String → Py (Option Json)) (start : String)
    (environment : List (String × String)) : Py (List Setting) :=
  ((sortedBy Prod.fst environment).filter (named_by start)).mapM (fun setting => do
    let value ← parse_env_value loads setting.2
    return (override_path lower start setting.1,value))

section
variable {lower : String → String} {loads : String → Py (Option Json)}

/-- A result that is returned, or a configuration error. -/
def Returns (result : Py Dict) (expected : Option Dict) : Prop :=
  match expected with
  | some next => result = .ok next
  | none => ∃ message, result = .error (.contract .RuntimeConfigError message)

theorem put_returns {name raw : String} {value : Json} (parsed : parse_env_value loads raw = .ok value)
    {path : List String} (spelled : path ≠ []) {cursor : Dict} :
    Returns (put_override loads name raw cursor path) (write cursor path value) := by
  induction path generalizing cursor with
  | nil => exact absurd rfl spelled
  | cons part rest ih =>
    by_cases more : rest = []
    · subst more
      exact put_last.mpr ⟨value,parsed,rfl⟩
    · rw [put_override,write]
      · cases held : (Dict.get? part cursor).getD (.obj []) with
        | obj existing =>
          have inner := @ih more existing
          dsimp only
          cases deeper : write existing rest value with
          | none =>
            rw [deeper] at inner
            obtain ⟨message,failed⟩ := inner
            rw [failed]
            exact ⟨message,rfl⟩
          | some next =>
            rw [deeper] at inner
            exact bind_ok_iff.mpr ⟨next,inner,rfl⟩
        | _ => exact ⟨_,rfl⟩
      · exact more
      · exact more

theorem override_returns {start : String} {setting : String × String} {value : Json}
    (named : named_by start setting = true) (parsed : parse_env_value loads setting.2 = .ok value) {cursor : Dict} :
    Returns (environment_override lower loads start cursor setting)
      (write cursor (override_path lower start setting.1) value) := by
  by_cases spelled : override_path lower start setting.1 = []
  · have unnamed : ((split_parts [] (setting.1.toList.drop start.length)).filter (fun part => !part.isEmpty)) = [] :=
      List.map_eq_nil_iff.mp spelled
    rw [spelled]
    refine ⟨"invalid environment override: " ++ setting.1,?_⟩
    unfold named_by at named
    unfold environment_override
    rw [if_pos named,unnamed]
    rfl
  · have put := @put_returns _ setting.1 _ _ parsed _ spelled cursor
    cases written : write cursor (override_path lower start setting.1) value with
    | some next =>
      rw [written] at put
      refine environment_override_ok.mpr ?_
      rw [if_pos named]
      exact ⟨spelled,put⟩
    | none =>
      rw [written] at put
      obtain ⟨message,failed⟩ := put
      have nonempty : ((split_parts [] (setting.1.toList.drop start.length)).filter
          (fun part => !part.isEmpty)).isEmpty = false := by
        rw [List.isEmpty_eq_false_iff]
        exact fun none => spelled (List.map_eq_nil_iff.mpr none)
      unfold named_by at named
      refine ⟨message,?_⟩
      unfold environment_override
      rw [if_pos named]
      dsimp only
      rw [nonempty]
      exact failed

/-- The overrides of an environment are those of its settings. -/
theorem overrides_returns {start : String} {environment : List (String × String)} {given : List Setting}
    (read : settings lower loads start environment = .ok given) :
    Returns (environment_overrides lower loads environment start) (writes given []) := by
  suffices general : ∀ (entries : List (String × String)) (given : List Setting) (cursor : Dict),
      (entries.filter (named_by start)).mapM (fun setting => do
        let value ← parse_env_value loads setting.2
        return (override_path lower start setting.1,value)) = .ok given →
      Returns (entries.foldlM (environment_override lower loads start) cursor) (writes given cursor) from
    general _ _ _ read
  intro entries
  induction entries with
  | nil =>
    intro given cursor read
    obtain rfl := pure_ok_iff.mp read
    rfl
  | cons setting rest ih =>
    intro given cursor read
    by_cases named : named_by start setting = true
    · rw [List.filter_cons_of_pos named,List.mapM_cons] at read
      obtain ⟨first,here,later⟩ := bind_ok_iff.mp read
      obtain ⟨others,rest_read,same⟩ := bind_ok_iff.mp later
      obtain rfl := pure_ok_iff.mp same
      obtain ⟨value,parsed,same⟩ := bind_ok_iff.mp here
      obtain rfl := pure_ok_iff.mp same
      have step := @override_returns lower loads start setting value named parsed cursor
      rw [List.foldlM_cons]
      unfold writes
      rw [List.foldlM_cons]
      cases written : write cursor (override_path lower start setting.1) value with
      | none =>
        rw [written] at step
        obtain ⟨message,failed⟩ := step
        rw [failed]
        exact ⟨message,rfl⟩
      | some next =>
        rw [written] at step
        have stepped : environment_override lower loads start cursor setting = .ok next := step
        rw [stepped]
        exact ih others next rest_read
    · rw [List.filter_cons_of_neg named] at read
      have skipped : environment_override lower loads start cursor setting = .ok cursor := by
        rw [environment_override_ok,if_neg named]
      rw [List.foldlM_cons,skipped]
      exact ih given cursor read

end

end V3Aidlc.EnvironmentOverrides
