import V3Aidlc.Canonical
import V3Aidlc.PrefixCodes

/-!
POSIX paths as texts and as places. A place is the list of names on the way from the top; the
normal form of a path has neither empty names nor dots (`resolve_plain`), and the path from one
place to another stays below the first exactly when the first leads to the second
(`relative_below_iff`).
-/
namespace V3Aidlc.Paths
open V3Aidlc.Canonical V3Aidlc.PrefixCodes

/-- The names on the way from the top. -/
abbrev Place := List String

/-! ### Components -/

/-- `text.split(mark)`: the parts between marks, empty parts included. -/
def split (mark : Char) : List Char → List (List Char)
  | [] => [[]]
  | c :: rest =>
    if c = mark then [] :: split mark rest
    else match split mark rest with
      | [] => [[c]]
      | part :: parts => (c :: part) :: parts

theorem split_plain (mark : Char) (text : List Char) : ∀ part ∈ split mark text, mark ∉ part := by
  induction text with
  | nil => simp [split]
  | cons c rest ih =>
    unfold split
    by_cases marked : c = mark
    · rw [if_pos marked]
      exact List.forall_mem_cons.mpr ⟨by simp,ih⟩
    · rw [if_neg marked]
      have other : ¬ mark = c := fun same => marked same.symm
      cases parts : split mark rest with
      | nil => simpa using other
      | cons part others =>
        rw [parts,List.forall_mem_cons] at ih
        refine List.forall_mem_cons.mpr ⟨?_,ih.2⟩
        simpa [other] using ih.1

def components (path : String) : List String := (split '/' path.toList).map String.ofList

def absolute (path : String) : Bool := path.toList.head? = some '/'

/-! ### Normal forms -/

/-- The name of an entry. -/
structure Plain (name : String) : Prop where
  named : name ≠ ""
  single : name ≠ "."
  double : name ≠ ".."
  whole : '/' ∉ name.toList

/-- One component, from a place. -/
def enter (here : Place) (name : String) : Place :=
  if name = "" ∨ name = "." then here else if name = ".." then here.dropLast else here ++ [name]

/-- `path.resolve(base, path)`. -/
def resolve (base : Place) (path : String) : Place :=
  (components path).foldl enter (if absolute path then [] else base)

theorem enter_plain {here : Place} {name : String} (plain : ∀ part ∈ here, Plain part) (whole : '/' ∉ name.toList) :
    ∀ part ∈ enter here name, Plain part := by
  unfold enter
  by_cases stays : name = "" ∨ name = "."
  · rw [if_pos stays]
    exact plain
  · rw [if_neg stays]
    push Not at stays
    by_cases up : name = ".."
    · rw [if_pos up]
      exact fun part member => plain part (List.mem_of_mem_dropLast member)
    · rw [if_neg up]
      intro part member
      rcases List.mem_append.mp member with early | last
      · exact plain part early
      · rw [List.mem_singleton.mp last]
        exact ⟨stays.1,stays.2,up,whole⟩

theorem enter_all_plain {names : List String} {here : Place} (plain : ∀ part ∈ here, Plain part)
    (whole : ∀ name ∈ names, '/' ∉ name.toList) : ∀ part ∈ names.foldl enter here, Plain part := by
  induction names generalizing here with
  | nil => exact plain
  | cons name rest ih =>
    obtain ⟨first,later⟩ := List.forall_mem_cons.mp whole
    exact ih (enter_plain plain first) later

theorem resolve_plain {base : Place} (plain : ∀ part ∈ base, Plain part) (path : String) :
    ∀ part ∈ resolve base path, Plain part := by
  refine enter_all_plain ?_ ?_
  · by_cases top : absolute path = true
    · simp [top]
    · simpa [top] using plain
  · intro name member
    obtain ⟨part,inside,rfl⟩ := List.mem_map.mp member
    simpa using split_plain '/' path.toList part inside

/-! ### From place to place -/

/-- What two places have in common, from the top. -/
def common : Place → Place → Nat
  | name :: rest,other :: others => if name = other then common rest others + 1 else 0
  | _,_ => 0

/-- `path.relative(start, place)`. -/
def relative (start place : Place) : String :=
  join "/" (List.replicate (start.length - common start place) ".." ++ place.drop (common start place))

theorem common_le (start place : Place) : common start place ≤ start.length := by
  induction start generalizing place with
  | nil => simp [common]
  | cons name rest ih =>
    cases place with
    | nil => simp [common]
    | cons other others =>
      unfold common
      by_cases same : name = other
      · simpa [same] using ih others
      · simp [same]

theorem common_all_iff {start place : Place} : common start place = start.length ↔ start <+: place := by
  induction start generalizing place with
  | nil => simp [common]
  | cons name rest ih =>
    cases place with
    | nil => simp [common]
    | cons other others =>
      unfold common
      by_cases same : name = other
      · simp [same,ih]
      · simp [same]

/-- A joined path starts with its first name, which ends the path or is followed by a slash. -/
theorem join_first (name : String) (rest : List String) :
    ∃ tail, (join "/" (name :: rest)).toList = name.toList ++ tail ∧ Stops (fun c => c = '/') tail := by
  cases rest with
  | nil => exact ⟨[],by simp [join],stops_nil _⟩
  | cons other others =>
    refine ⟨'/' :: (join "/" (other :: others)).toList,?_,stops_cons.mpr rfl⟩
    have slash : "/".toList = ['/'] := rfl
    rw [join,String.toList_append,String.toList_append,slash]
    · simp
    · simp

/-- The path does not leave the place it starts from. -/
def Below (path : String) : Prop :=
  path = "" ∨ (¬ "../".toList <+: path.toList ∧ path ≠ ".." ∧ absolute path = false)

theorem below_plain {name : String} (plain : Plain name) (rest : List String) : Below (join "/" (name :: rest)) := by
  obtain ⟨tail,text,stops⟩ := join_first name rest
  have whole : ∀ c ∈ name.toList, ¬ c = '/' := by
    rintro c member rfl
    exact plain.whole member
  have differs : ∀ other, Stops (fun c => c = '/') other → (join "/" (name :: rest)).toList ≠ "..".toList ++ other := by
    intro other ends same
    have names := (plain_decodes whole (by simp) stops ends (text.symm.trans same)).1
    exact plain.double (String.toList_inj.mp names)
  refine .inr ⟨?_,?_,?_⟩
  · rintro ⟨more,same⟩
    exact differs ('/' :: more) (stops_cons.mpr rfl) same.symm
  · intro same
    exact differs [] (stops_nil _) (by rw [same]; rfl)
  · unfold absolute
    rw [text]
    cases letters : name.toList with
    | nil => exact absurd (String.toList_inj.mp (letters.trans rfl)) plain.named
    | cons c others =>
      have first : c ≠ '/' := whole c (by simp [letters])
      simp [first]

theorem not_below_up (rest : List String) : ¬ Below (join "/" (".." :: rest)) := by
  obtain ⟨tail,text,stops⟩ := join_first ".." rest
  rintro (empty | ⟨up,single,_⟩)
  · rw [empty] at text
    cases text
  · cases tail with
    | nil => exact single (String.toList_inj.mp (by simpa using text))
    | cons c more =>
      obtain rfl : c = '/' := stops c rfl
      exact up ⟨more,text.symm⟩

/-- The path from a place to another stays below the first exactly when it leads to the second. -/
theorem relative_below_iff {start place : Place} (plain : ∀ part ∈ place, Plain part) :
    Below (relative start place) ↔ start <+: place := by
  rw [← common_all_iff]
  unfold relative
  by_cases all : common start place = start.length
  · rw [all,Nat.sub_self]
    refine iff_of_true ?_ rfl
    simp only [List.replicate_zero,List.nil_append]
    cases rest : place.drop start.length with
    | nil => exact .inl rfl
    | cons name others => exact below_plain (plain name (List.mem_of_mem_drop (rest ▸ List.mem_cons_self))) others
  · have less : common start place < start.length := lt_of_le_of_ne (common_le start place) all
    refine iff_of_false ?_ all
    obtain ⟨ups,count⟩ : ∃ ups, start.length - common start place = ups + 1 :=
      ⟨start.length - common start place - 1,by omega⟩
    rw [count,List.replicate_succ,List.cons_append]
    exact not_below_up _

end V3Aidlc.Paths
