import V3Aidlc.RuntimeProfiles

/-!
The places of a configuration and their paths. A walk visits every key at every place, also
in lists of lists (`walk_found`). A path is a text: a key may hold a point, and an empty key
leaves no trace at the front, so the path of `security.allowRawSecrets` is that of other
places too (`exempt_iff`).
-/
namespace V3Aidlc.SettingPlaces
open V3Aidlc.Values V3Aidlc.Loops V3Aidlc.Contracts V3Aidlc.RuntimeConfig V3Aidlc.RuntimeProfiles

inductive Step where
  | key (name : String)
  | index (i : Nat)
  deriving DecidableEq

/-- The value at a place. -/
def found : List Step → Json → Option Json
  | [],value => some value
  | .key name :: rest,.obj fields => (Dict.get? name fields).bind (found rest)
  | .index i :: rest,.arr items => items[i]?.bind (found rest)
  | _ :: _,_ => none

/-- The path of a place. -/
def spelled (under : String) : List Step → String
  | [] => under
  | .key name :: rest => spelled (path_of under name) rest
  | .index i :: rest => spelled (under ++ "[" ++ toString i ++ "]") rest

/-! ### What a walk visits -/

theorem found_key (name : String) (rest : List Step) (fields : Dict) :
    found (.key name :: rest) (.obj fields) = (Dict.get? name fields).bind (found rest) := by
  rw [found]

theorem found_key_plain {name : String} {rest : List Step} {value : Json} (plain : value.isDict = false) :
    found (.key name :: rest) value = none := by
  cases value <;> first | rfl | simp [Json.isDict,Json.dict?] at plain

theorem found_append (place rest : List Step) (value : Json) :
    found (place ++ rest) value = (found place value).bind (found rest) := by
  induction place generalizing value with
  | nil => rfl
  | cons step place ih =>
    cases step with
    | key name =>
      cases value with
      | obj fields =>
        rw [List.cons_append,found_key,found_key]
        cases Dict.get? name fields <;> simp [ih]
      | _ => rfl
    | index i =>
      cases value with
      | arr items =>
        simp only [List.cons_append,found]
        cases items[i]? <;> simp [ih]
      | _ => rfl

theorem walk_found {place : List Step} {name under : String} {value inside : Json}
    (reached : found (place ++ [.key name]) value = some inside) :
    (spelled under (place ++ [.key name]),inside) ∈ walk under value := by
  induction place generalizing under value with
  | nil =>
    cases value with
    | obj fields =>
      obtain ⟨v,here,same⟩ := Option.bind_eq_some_iff.mp reached
      obtain rfl := Option.some.inj same
      rw [walk]
      exact mem_walkFields.mpr ⟨_,get?_mem here,.inl rfl⟩
    | _ => cases reached
  | cons step place ih =>
    cases step with
    | key other =>
      cases value with
      | obj fields =>
        obtain ⟨v,here,reached⟩ := Option.bind_eq_some_iff.mp reached
        rw [walk]
        exact mem_walkFields.mpr ⟨_,get?_mem here,.inr (ih reached)⟩
      | _ => cases reached
    | index i =>
      cases value with
      | arr items =>
        obtain ⟨v,here,reached⟩ := Option.bind_eq_some_iff.mp reached
        rw [walk,mem_walkItems]
        refine ⟨i,v,here,?_⟩
        rw [Nat.zero_add]
        exact ih reached
      | _ => cases reached

/-! ### The places of one path -/

/-- The marks that a path has between its keys. -/
def marks (path : String) : Nat := path.toList.count '.' + path.toList.count '['

theorem path_of_nested {under : String} (nested : under ≠ "") (name : String) :
    path_of under name = under ++ "." ++ name := by
  unfold path_of
  rw [if_neg nested]

theorem marks_append (s t : String) : marks (s ++ t) = marks s + marks t := by
  unfold marks
  rw [String.toList_append,List.count_append,List.count_append]
  omega

theorem longer {under : String} (nested : under ≠ "") (more : String) : under ++ more ≠ "" := by
  intro empty
  exact nested (String.append_eq_empty_iff.mp empty).1

/-- Every step below a key that is not empty leaves a mark. -/
theorem marks_spelled {under : String} (nested : under ≠ "") (place : List Step) :
    marks under + place.length ≤ marks (spelled under place) := by
  have point : marks "." = 1 := by decide +kernel
  have bracket : marks "[" = 1 := by decide +kernel
  induction place generalizing under with
  | nil => simp [spelled]
  | cons step place ih =>
    cases step with
    | key name =>
      rw [spelled,path_of_nested nested]
      have later := ih (longer (longer nested ".") name)
      rw [marks_append,marks_append,point] at later
      rw [List.length_cons]
      omega
    | index i =>
      rw [spelled]
      have later := ih (longer (longer (longer nested "[") (toString i)) "]")
      rw [marks_append,marks_append,marks_append,bracket] at later
      rw [List.length_cons]
      omega

/-- The path that a raw value may have. -/
def EXEMPT : String := "security.allowRawSecrets"

theorem exempt_marks : marks EXEMPT = 1 := by decide +kernel

/-- The only point of the exempt path is that between its two keys. -/
theorem exempt_pair {under name : String} (equal : under ++ "." ++ name = EXEMPT) :
    under = "security" ∧ name = "allowRawSecrets" := by
  have texts : "security".toList ++ '.' :: "allowRawSecrets".toList = under.toList ++ '.' :: name.toList := by
    have exempt : EXEMPT = "security" ++ "." ++ "allowRawSecrets" := by decide +kernel
    rw [exempt] at equal
    simpa using (congrArg String.toList equal).symm
  obtain ⟨left,_,right⟩ := (List.append_cons_inj_of_notMem (by decide +kernel) (by decide +kernel)).mp texts
  exact ⟨String.toList_inj.mp left.symm,String.toList_inj.mp right.symm⟩

theorem exempt_below {under : String} (nested : under ≠ "") {place : List Step} :
    spelled under place = EXEMPT ↔
      place = [] ∧ under = EXEMPT ∨ place = [.key "allowRawSecrets"] ∧ under = "security" := by
  constructor
  · intro equal
    have few := marks_spelled nested place
    rw [equal,exempt_marks] at few
    match place with
    | [] => exact .inl ⟨rfl,equal⟩
    | [.key name] =>
      rw [spelled,spelled,path_of_nested nested] at equal
      obtain ⟨rfl,rfl⟩ := exempt_pair equal
      exact .inr ⟨rfl,rfl⟩
    | [.index i] =>
      have inside : '[' ∈ EXEMPT.toList := by
        rw [← equal]
        simp [spelled]
      exact absurd inside (by decide +kernel)
    | _ :: _ :: _ =>
      simp only [List.length_cons] at few
      omega
  · rintro (⟨rfl,rfl⟩ | ⟨rfl,rfl⟩)
    · rfl
    · decide +kernel

/-- Below `n` empty keys. -/
def beyond (n : Nat) (place : List Step) : List Step := List.replicate n (.key "") ++ place

/-- The places whose path is the exempt one. -/
theorem exempt_iff {place : List Step} : spelled "" place = EXEMPT ↔ ∃ n,
    place = beyond n [.key EXEMPT] ∨ place = beyond n [.key "security",.key "allowRawSecrets"] := by
  constructor
  · intro equal
    induction place with
    | nil => exact absurd equal (by decide +kernel)
    | cons step place ih =>
      cases step with
      | key name =>
        by_cases empty : name = ""
        · subst empty
          obtain ⟨n,below⟩ := ih equal
          refine ⟨n + 1,?_⟩
          rcases below with rfl | rfl
          · exact .inl rfl
          · exact .inr rfl
        · rw [spelled] at equal
          rcases (exempt_below empty).mp equal with ⟨rfl,same⟩ | ⟨rfl,same⟩
          · exact ⟨0,.inl (congrArg (fun name => [Step.key name]) same)⟩
          · exact ⟨0,.inr (congrArg (fun name => [Step.key name,.key "allowRawSecrets"]) same)⟩
      | index i =>
        rw [spelled] at equal
        have bracket : '[' ∈ ("" ++ "[" ++ toString i ++ "]").toList := by simp
        have nested : "" ++ "[" ++ toString i ++ "]" ≠ "" := by
          intro empty
          rw [empty] at bracket
          cases bracket
        rcases (exempt_below nested).mp equal with ⟨_,same⟩ | ⟨_,same⟩
        · rw [same] at bracket
          exact absurd bracket (by decide +kernel)
        · rw [same] at bracket
          exact absurd bracket (by decide +kernel)
  · rintro ⟨n,rfl | rfl⟩
    · induction n with
      | zero => rfl
      | succ n ih => exact ih
    · induction n with
      | zero => decide +kernel
      | succ n ih => exact ih

end V3Aidlc.SettingPlaces
