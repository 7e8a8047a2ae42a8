import V3Aidlc.Loops
import V3Aidlc.Timestamps
import V3Aidlc.Sha256

/-!
What every contract module of the package has in common: the exceptions that can
leave it, and the field checks that each module repeats with its own exception
class (`_required_string`, `_string_array`, `_parse_time`, the predicates of
rules and the canonical digest).
-/
namespace V3Aidlc.Contracts
open V3Aidlc.Values V3Aidlc.Loops V3Aidlc.Timestamps V3Aidlc.Canonical V3Aidlc.Sha256

/-- The package's own exception classes, each a `ValueError`. -/
inductive ErrorClass where
  | OrchestratorError
  | AdapterError
  | AuthorizationError
  | ContextError
  | EvidenceGateError
  | ContractError
  | RecoveryError
  | SchedulerError
  | RuntimeConfigError
  | SecurityError
  | GatewayError
  | OperationsError
  deriving DecidableEq

/-- What can be raised: a contract error with its message, an exception of the
    language, or anything an adapter raises. -/
inductive PyError where
  | contract (cls : ErrorClass) (message : String)
  | TypeError
  | AttributeError
  | KeyError
  | ValueError
  | OverflowError
  | adapter (message : String)
  deriving DecidableEq

abbrev Py (α : Type) := Except PyError α

variable (cls : ErrorClass)

def fail {α : Type} (message : String) : Py α := .error (.contract cls message)
def reject_if (condition : Bool) (message : String) : Py Unit := raise_if condition (.contract cls message)

@[simp] theorem fail_ok {α : Type} {message : String} {a : α} : fail cls message = .ok a ↔ False := by
  simp [fail]
@[simp] theorem reject_if_ok {condition : Bool} {message : String} {u : Unit} :
    reject_if cls condition message = .ok u ↔ condition = false := raise_if_ok

/-- `try: ... except cls as error`: the message of an exception of one class,
    which the caller handles; any other goes on. -/
def attempt {α : Type} (m : Py α) : Py (Except String α) :=
  match m with
  | .ok a => .ok (.ok a)
  | .error (.contract raised message) => if raised =
    cls then .ok (.error message) else .error (.contract raised message)
  | .error other => .error other

/-! ### Access to untyped values -/

/-- The value as the dict that a `.get` on it needs. -/
def as_dict (v : Json) : Py Dict :=
  match v with
  | .obj fields => .ok fields
  | _ => .error .AttributeError
/-- `d[k]`. -/
def item (d : Dict) (k : String) : Py Json :=
  match Dict.get? k d with
  | some v => .ok v
  | none => .error .KeyError
/-- The elements of `for x in value`. -/
def iterate (v : Json) : Py (List Json) :=
  match v.iter? with
  | some items => .ok items
  | none => .error .TypeError
/-- `dict(value)`: a copy of a dict, or the dict of a sequence of pairs. -/
def new_dict (v : Json) : Py Dict :=
  match v with
  | .obj fields => .ok fields
  | other => do
    let pairs ← iterate other
    pairs.foldlM (fun fields pair => do
      let parts ← iterate pair
      match parts with
      | [.str key,value] => .ok (Dict.set key value fields)
      | [_,_] => .error .TypeError
      | _ => .error .ValueError) []

/-- `value in {...}` for a set of strings; an unhashable value raises. -/
def in_set (v : Json) (members : List String) : Py Bool :=
  if v.hashable then
    match v with
    | .str s => .ok (members.contains s)
    | _ => .ok false
  else .error .TypeError
/-- `str(value)` in a message; only the common cases are spelled out. -/
def display (v : Json) : String :=
  match v with
  | .str s => s
  | .null => "None"
  | .bool b => if b then "True" else "False"
  | other => dumps standard other

/-- `str(items)` of a list of strings in a message. -/
def displayList (items : List String) : String := "[" ++ join ", " (items.map (fun s => "'" ++ s ++ "'")) ++ "]"
/-- A string field of a validated dict. -/
def text (d : Dict) (k : String) : String := ((d.get k).str?).getD ""
/-- An array field of a validated dict. -/
def items (d : Dict) (k : String) : List Json := ((d.get k).list?).getD []
/-- The dicts among the elements of an array field. -/
def records (d : Dict) (k : String) : List Dict := (items d k).filterMap Json.dict?

@[simp] theorem as_dict_ok {v : Json} {d : Dict} : as_dict v = .ok d ↔ v = .obj d := by
  cases v <;> simp [as_dict]
@[simp] theorem item_ok {d : Dict} {k : String} {v : Json} : item d k = .ok v ↔ Dict.get? k d = some v := by
  unfold item; cases Dict.get? k d <;> simp
@[simp] theorem iterate_ok {v : Json} {items : List Json} : iterate v = .ok items ↔ v.iter? = some items := by
  unfold iterate; cases v.iter? <;> simp
theorem in_set_str (s : String) (members : List String) : in_set (.str s) members = .ok (members.contains s) := rfl
theorem in_set_ok_true {v : Json} {members : List String} :
    in_set v members = .ok true ↔ ∃ s ∈ members, v = .str s := by
  cases v <;> simp [in_set,Json.hashable]

theorem text_of_get {d e : Dict} {key : String} (same : d.get key = e.get key) : text d key = text e key := by
  unfold text; rw [same]

theorem text_of_get? {d : Dict} {key s : String} (found : Dict.get? key d = some (.str s)) : text d key = s := by
  unfold text; rw [get_of_get? found]; rfl
theorem text_filled {d : Dict} {key s : String} (named : s ≠ "") (same : text d key = s) : d.get key = .str s := by
  unfold text at same
  cases held : d.get key <;> rw [held] at same <;> simp [Json.str?,Ne.symm named] at same
  rw [same]

/-! ### Strings -/

/-- `str.isspace` of one character. -/
def isSpace (c : Char) : Bool :=
  let n := c.toNat
  (9 ≤ n ∧ n ≤ 13) ∨ (28 ≤ n ∧ n ≤ 32) ∨ n = 0x85 ∨ n = 0xA0 ∨ n = 0x1680 ∨ (0x2000 ≤ n ∧ n ≤ 0x200A) ∨
    n = 0x2028 ∨ n = 0x2029 ∨ n = 0x202F ∨ n = 0x205F ∨ n = 0x3000

/-- `not s.strip()`. -/
def blank (s : String) : Bool := s.toList.all isSpace

/-- A value that is a string with a visible character. -/
def filled (v : Json) : Bool :=
  match v with
  | .str s => !blank s
  | _ => false

def required_string (value : Dict) (key : String) : Py String :=
  match value.get key with
  | .str s => if blank s then fail cls (key ++ " must be a non-empty string") else .ok s
  | _ => fail cls (key ++ " must be a non-empty string")

def required_strings (value : Dict) (keys : List String) : Py Unit :=
  keys.forM (fun key => do let _ ← required_string cls value key; return ())

theorem required_string_ok {value : Dict} {key s : String} :
    required_string cls value key = .ok s ↔ Dict.get? key value = some (.str s) ∧ blank s = false := by
  unfold required_string Dict.get
  cases found : Dict.get? key value with
  | none => simp
  | some v =>
    cases v with
    | str t =>
      cases b : blank t
      · simp only [Option.getD_some,b,Bool.false_eq_true,↓reduceIte,Except.ok.injEq,Option.some.injEq,Json.str.injEq]
        exact ⟨fun same => ⟨same,same ▸ b⟩,fun both => both.1⟩
      · simp only [Option.getD_some,b,↓reduceIte,fail_ok,Option.some.injEq,Json.str.injEq,false_iff,not_and]
        rintro rfl; simp [b]
    | _ => simp

theorem required_strings_ok {value : Dict} {keys : List String} {u : Unit} :
    required_strings cls value keys = .ok u ↔
      ∀ key ∈ keys, ∃ s, Dict.get? key value = some (.str s) ∧ blank s = false := by
  unfold required_strings
  rw [forM_ok_iff]
  simp [required_string_ok]

/-- The strings of a value that is an array of strings. -/
def strings? : Json → Option (List String)
  | .arr items => items.mapM Json.str?
  | _ => none

/-- The array checks differ in what an element must be: any string but the empty
    one, or one with a visible character. -/
def string_array (ok : String → Bool) (value : Json) (field : String) (minimum : Nat := 0) : Py (List String) :=
  match strings? value with
  | none => fail cls (field ++ " must be a string array")
  | some items => do
    reject_if cls (!items.all ok) (field ++ " must be a string array")
    reject_if cls (items.length < minimum) (field ++ " must contain at least " ++ toString minimum ++ " item(s)")
    reject_if cls (!decide items.Nodup) (field ++ " contains duplicates")
    return items

def nonempty (s : String) : Bool := s ≠ ""
def visible (s : String) : Bool := !blank s

theorem string_array_ok {ok : String → Bool} {value : Json} {field : String} {minimum : Nat} {items : List String} :
    string_array cls ok value field minimum = .ok items ↔
      strings? value = some items ∧ (∀ s ∈ items, ok s = true) ∧ minimum ≤ items.length ∧ items.Nodup := by
  unfold string_array
  cases strings? value with
  | none => simp
  | some found =>
    simp only [bind_ok_iff,reject_if_ok,pure_ok_iff,Option.some.injEq,Bool.not_eq_false',List.all_eq_true,
      decide_eq_false_iff_not,not_lt,decide_eq_true_eq]
    constructor
    · rintro ⟨_,all,_,long,_,distinct,rfl⟩; exact ⟨rfl,all,long,distinct⟩
    · rintro ⟨rfl,all,long,distinct⟩; exact ⟨(),all,(),long,(),distinct,rfl⟩

private theorem mapM_str_eq {values : List Json} {items : List String} :
    values.mapM Json.str? = some items ↔ values = items.map Json.str := by
  induction values generalizing items with
  | nil => cases items <;> simp
  | cons v rest ih =>
    cases items with
    | nil => simp [Option.bind_eq_some_iff]
    | cons s more =>
      simp only [List.mapM_cons,Option.bind_eq_bind,Option.bind_eq_some_iff,str?_eq_some,Option.pure_def,
        Option.some.injEq,List.cons.injEq,List.map_cons,ih]
      constructor
      · rintro ⟨_,rfl,_,rfl,rfl,rfl⟩; exact ⟨rfl,rfl⟩
      · rintro ⟨rfl,rfl⟩; exact ⟨_,rfl,_,rfl,rfl,rfl⟩

theorem strings?_eq_some {value : Json} {items : List String} :
    strings? value = some items ↔ value = .arr (items.map Json.str) := by
  cases value with
  | arr values => simp [strings?,mapM_str_eq]
  | _ => simp [strings?]

/-! ### Times -/

/-- `value.replace("Z", "+00:00")`. -/
def zuluReplaced (s : String) : List Char := s.toList.flatMap (fun c => if c = 'Z' then "+00:00".toList else [c])

/-- The instant a timestamp denotes: `.astimezone(timezone.utc)` of a string
    with an offset. -/
def parse_timestamp (s : String) (field : String) : Py Instant :=
  match fromisoformat (zuluReplaced s) with
  | none => fail cls (field ++ " must be an ISO-8601 timestamp")
  | some (_,none) => fail cls (field ++ " must include a timezone")
  | some (clock,some offset) => if inRange (clock - offset) then .ok (clock - offset) else .error .OverflowError

/-- `_parse_time` of the modules that call `replace` before they look at the
    type: a value that is no string has no such attribute. -/
def parse_time (value : Json) (field : String) : Py Instant :=
  match value with
  | .str s => parse_timestamp cls s field
  | _ => .error .AttributeError

/-- The timestamps that every module reads, and the instant they denote. -/
def instant? (s : String) : Option Instant :=
  match fromisoformat (zuluReplaced s) with
  | some (clock,some offset) => if inRange (clock - offset) then some (clock - offset) else none
  | _ => none

theorem parse_timestamp_ok {s field : String} {t : Instant} :
    parse_timestamp cls s field = .ok t ↔ instant? s = some t := by
  unfold parse_timestamp instant?
  rcases fromisoformat (zuluReplaced s) with _ | ⟨clock,_ | offset⟩
  · simp
  · simp
  · by_cases range : inRange (clock - offset) <;> simp [range]

theorem parse_time_ok {value : Json} {field : String} {t : Instant} :
    parse_time cls value field = .ok t ↔ ∃ s, value = .str s ∧ instant? s = some t := by
  cases value <;> simp [parse_time,parse_timestamp_ok]

/-! ### Predicates of rules -/

def PREDICATE_KEYS : List String := ["equals","in"]

/-- One condition of a rule: a fact and exactly one of the two operators. The
    message texts are the module's. -/
def validate_predicate (notObject oneOperator : String) (unsupported : List String → String) (notArray : String)
    (predicate : Json) : Py Unit :=
  match predicate.dict? with
  | some fields => do
    let _ ← required_string cls fields "fact"
    reject_if cls (fields.has "equals" == fields.has "in") oneOperator
    let unexpected := fields.keys.filter (fun key => !("fact" :: PREDICATE_KEYS).contains key)
    reject_if cls (!unexpected.isEmpty) (unsupported unexpected)
    reject_if cls (fields.has "in" &&
      (match fields.get "in" with
        | .arr items => items.isEmpty
        | _ => true)) notArray
  | none => fail cls notObject

/-- `predicate_matches(predicate, facts)` on a validated predicate: a fact that
    is missing matches nothing. -/
def predicate_matches (predicate : Dict) (facts : Dict) : Bool :=
  match predicate.get "fact" with
  | .str fact =>
    match Dict.get? fact facts with
    | none => false
    | some actual =>
      match Dict.get? "equals" predicate with
      | some expected => actual.eq expected
      | none =>
        match predicate.get "in" with
        | .arr members => memList actual members
        | _ => false
  | _ => false

/-- The conditions of a rule, as `all(... for predicate in conditions)`. -/
def all_match (conditions : List Json) (facts : Dict) : Bool :=
  conditions.all (fun predicate =>
    match predicate.dict? with
    | some fields => predicate_matches fields facts
    | none => false)

/-- Whether `name in value` makes a rule go on to index the value with the name,
    which only a dict allows; other values cannot be searched at all. -/
def unusable (value : Json) (name : String) : Bool :=
  match value with
  | .arr items => memList (.str name) items
  | .str s => decide (name.toList <:+: s.toList)
  | _ => true

/-- Facts for rules with these conditions. A list or a text has no facts, so the
    first condition of each rule fails on it, or raises. -/
def as_facts (rules : List (List Json)) (facts : Json) : Py Dict :=
  match facts with
  | .obj fields => .ok fields
  | other => do
    let asked := rules.filterMap (fun conditions => (conditions.head?.bind Json.dict?).map
        (fun first => text first "fact"))
    raise_if (asked.any (unusable other)) .TypeError
    return []

/-! ### Digests -/

/-- `hashlib.sha256(canonical text).hexdigest()`. -/
def canonical_digest (value : Json) : String := sha256 (canonicalText value)

/-- A digest is not blank. -/
theorem hex_filled {s : String} (hex : isHexDigest s = true) : blank s = false := by
  unfold isHexDigest at hex
  simp only [decide_eq_true_eq,List.all_eq_true] at hex
  obtain ⟨long,digits⟩ := hex
  have nonempty : s.toList ≠ [] := by
    intro empty
    have short : s.toList.length = 64 := by rw [String.length_toList]; exact long
    rw [empty] at short
    cases short
  obtain ⟨c,rest,chars⟩ := List.exists_cons_of_ne_nil nonempty
  have digit := digits c (by rw [chars]; simp)
  unfold blank
  rw [chars]
  have visible : isSpace c = false := by
    have bounds : (48 ≤ c.toNat ∧ c.toNat ≤ 57) ∨ (97 ≤ c.toNat ∧ c.toNat ≤ 102) := digit
    simp only [isSpace,decide_eq_false_iff_not]
    omega
  simp [visible]

end V3Aidlc.Contracts
