import V3Aidlc.Values
import Mathlib.Data.List.Forall2
import Mathlib.Data.List.Sort
import Mathlib.Data.String.Basic

/-!
`json.dumps` with sorted keys and `ensure_ascii=False`, the text that digests
and byte budgets are computed on. Sorting by key is Python's order on strings,
by code point.
-/
namespace V3Aidlc.Canonical
open V3Aidlc.Values

/-! ### Sorting -/

/-- `sorted(items, key=...)`: insertion sort, which keeps the order of items
    with equal keys. -/
def sortedBy {α β : Type} [LE β] [DecidableLE β] (key : α → β) (items : List α) : List α :=
  items.insertionSort (fun a b => key a ≤ key b)

def sortedStrings (items : List String) : List String := sortedBy id items

theorem mem_sortedBy {α β : Type} [LE β] [DecidableLE β] {key : α → β} {items : List α} {a : α} :
    a ∈ sortedBy key items ↔ a ∈ items :=
  (List.perm_insertionSort _ items).mem_iff

theorem perm_sortedBy {α β : Type} [LE β] [DecidableLE β] (key : α → β) (items : List α) :
    (sortedBy key items).Perm items :=
  List.perm_insertionSort _ items

theorem pairwise_sortedBy {α β : Type} [LinearOrder β] (key : α → β) (items : List α) :
    (sortedBy key items).Pairwise (fun a b => key a ≤ key b) := by
  have total : Std.Total (fun a b : α => key a ≤ key b) := ⟨fun a b => le_total (key a) (key b)⟩
  have trans : IsTrans α (fun a b : α => key a ≤ key b) := ⟨fun _ _ _ => le_trans⟩
  exact List.pairwise_insertionSort _ items

theorem sortedBy_perm {α β : Type} [LinearOrder β] {key : α → β} {xs ys : List α} (same : xs.Perm ys)
    (apart : ∀ a ∈ xs, ∀ b ∈ xs, key a = key b → a = b) : sortedBy key xs = sortedBy key ys := by
  refine List.Perm.eq_of_pairwise ?_ (pairwise_sortedBy key xs) (pairwise_sortedBy key ys)
    ((perm_sortedBy key xs).trans (same.trans (perm_sortedBy key ys).symm))
  intro a b left right below above
  exact apart a (mem_sortedBy.mp left) b (same.mem_iff.mpr (mem_sortedBy.mp right)) (le_antisymm below above)

theorem sortedStrings_perm {xs ys : List String} (same : xs.Perm ys) : sortedStrings xs = sortedStrings ys :=
  sortedBy_perm same (fun _ _ _ _ equal => equal)

theorem sorted_nil {items : List String} : sortedStrings items = [] ↔ items = [] := by
  rw [List.eq_nil_iff_forall_not_mem,List.eq_nil_iff_forall_not_mem]
  simp [sortedStrings,mem_sortedBy]

theorem sorted_strictly {items : List String} (distinct : items.Nodup) : (sortedStrings items).Pairwise (· < ·) := by
  have apart : (sortedStrings items).Nodup := (perm_sortedBy id items).nodup_iff.mpr distinct
  have ordered : (sortedStrings items).Pairwise (· ≤ ·) := pairwise_sortedBy id items
  exact (ordered.and apart).imp (fun both => lt_of_le_of_ne both.1 both.2)

/-- A map that keeps the key commutes with sorting by it. -/
theorem sorted_map {α β γ : Type} [LE γ] [DecidableLE γ] {key : α → γ} {key' : β → γ} {f : α → β}
    (keeps : ∀ a, key' (f a) = key a)
    (items : List α) : sortedBy key' (items.map f) = (sortedBy key items).map f := by
  unfold sortedBy
  symm
  apply List.map_insertionSort
  intro a _ b _
  rw [keeps,keeps]

/-- Sorting by keys that agree keeps lists in step. -/
theorem sortedBy_related {α γ β : Type} [LinearOrder β] {left : α → β} {right : γ → β} {related : α → γ → Prop}
    (agree : ∀ a b, related a b → left a = right b) {xs : List α} {ys : List γ} (pairs : List.Forall₂ related xs ys) :
    List.Forall₂ related (sortedBy left xs) (sortedBy right ys) := by
  have inserted : ∀ {a : α} {b : γ} {xs : List α} {ys : List γ}, related a b → List.Forall₂ related xs ys →
      List.Forall₂ related (xs.orderedInsert (fun x y => left x ≤ left y) a)
        (ys.orderedInsert (fun x y => right x ≤ right y) b) := by
    intro a b xs ys pair rest
    induction rest with
    | nil => exact .cons pair .nil
    | @cons x y xs ys first later ih =>
      simp only [List.orderedInsert_cons,agree a b pair,agree x y first]
      split
      · exact .cons pair (.cons first later)
      · exact .cons first ih
  unfold sortedBy
  induction pairs with
  | nil => exact .nil
  | cons first _ ih => exact inserted first ih

/-- The distinct elements of a collection of strings, in order of first
    occurrence. -/
def distinct (items : List String) : List String := items.reverse.dedup.reverse

theorem mem_distinct {items : List String} {s : String} : s ∈ distinct items ↔ s ∈ items := by
  simp [distinct]

theorem nodup_distinct (items : List String) : (distinct items).Nodup := by
  unfold distinct
  rw [List.nodup_reverse]
  exact List.nodup_dedup _

theorem distinct_perm {xs ys : List String} (same : ∀ s, s ∈ xs ↔ s ∈ ys) : (distinct xs).Perm (distinct ys) := by
  rw [List.perm_ext_iff_of_nodup (nodup_distinct xs) (nodup_distinct ys)]
  intro s
  rw [mem_distinct,mem_distinct,same]

/-- `max(items, key=...)`: the first of the greatest. -/
def firstMax {α β : Type} [LT β] [DecidableLT β] (key : α → β) : α → List α → α
  | best,[] => best
  | best,item :: rest => firstMax key (if key best < key item then item else best) rest

theorem firstMax_spec {α β : Type} [LinearOrder β] (key : α → β) (best : α) (rest : List α) :
    firstMax key best rest ∈ best :: rest ∧ ∀ x ∈ best :: rest, key x ≤ key (firstMax key best rest) := by
  induction rest generalizing best with
  | nil => simp [firstMax]
  | cons item rest ih =>
    obtain ⟨member,greatest⟩ := ih (if key best < key item then item else best)
    unfold firstMax
    by_cases better : key best < key item
    · rw [if_pos better] at member greatest ⊢
      refine ⟨List.mem_cons_of_mem _ member,?_⟩
      intro x xMember
      rcases List.mem_cons.mp xMember with rfl | later
      · exact better.le.trans (greatest item (by simp))
      · exact greatest x later
    · rw [if_neg better] at member greatest ⊢
      refine ⟨?_,?_⟩
      · rcases List.mem_cons.mp member with same | later
        · rw [same]; simp
        · exact List.mem_cons_of_mem _ (List.mem_cons_of_mem _ later)
      · intro x xMember
        rcases List.mem_cons.mp xMember with rfl | later
        · exact greatest x (by simp)
        · rcases List.mem_cons.mp later with rfl | tail
          · exact (not_lt.mp better).trans (greatest best (by simp))
          · exact greatest x (List.mem_cons_of_mem _ tail)

/-! ### Text -/

def hexDigit (n : Nat) : Char := if n < 10 then Char.ofNat (48 + n) else Char.ofNat (87 + n)

/-- One character of a string literal. -/
def escapeChar (c : Char) : List Char :=
  if c = '"' then ['\\','"']
  else if c = '\\' then ['\\','\\']
  else if c = '\n' then ['\\','n']
  else if c = '\r' then ['\\','r']
  else if c = '\t' then ['\\','t']
  else if c = Char.ofNat 12 then ['\\','f']
  else if c = Char.ofNat 8 then ['\\','b']
  else if c.toNat < 32 then ['\\','u','0','0',hexDigit (c.toNat / 16),hexDigit (c.toNat % 16)]
  else [c]

def quote (s : String) : String := "\"" ++ String.ofList (s.toList.flatMap escapeChar) ++ "\""

/-- `separator.join(parts)`. -/
def join (separator : String) : List String → String
  | [] => ""
  | [part] => part
  | part :: rest => part ++ separator ++ join separator rest

/-- The separators between items and between a key and its value. -/
structure Separators where
  item : String
  key : String

def compact : Separators := ⟨",",":"⟩
def standard : Separators := ⟨", ",": "⟩

mutual
/-- `json.dumps(value, sort_keys=True, ensure_ascii=False)`. -/
def dumps (separators : Separators) : Json → String
  | .null => "null"
  | .bool b => if b then "true" else "false"
  | .int n => toString n
  | .float x => x.repr
  | .str s => quote s
  | .arr items => "[" ++ join separators.item (dumpsItems separators items) ++ "]"
  | .obj fields =>
    "\x7b" ++ join separators.item
      ((sortedBy Prod.fst (dumpsFields separators fields)).map
        (fun kv => quote kv.1 ++ separators.key ++ kv.2)) ++ "\x7d"
def dumpsItems (separators : Separators) : List Json → List String
  | [] => []
  | v :: rest => dumps separators v :: dumpsItems separators rest
def dumpsFields (separators : Separators) : List (String × Json) → List (String × String)
  | [] => []
  | (k,v) :: rest => (k,dumps separators v) :: dumpsFields separators rest
end

/-- `json.dumps(value, sort_keys=True, separators=(",", ":"), ensure_ascii=False)`. -/
def canonicalText (value : Json) : String := dumps compact value

def hexCode (n : Nat) : List Char :=
  ['\\','u',hexDigit (n / 4096 % 16),hexDigit (n / 256 % 16),hexDigit (n / 16 % 16),hexDigit (n % 16)]

/-- A character as the surrogates that `ensure_ascii` writes for it. -/
def asciiChar (c : Char) : List Char :=
  if c.toNat < 127 then [c]
  else if c.toNat < 65536 then hexCode c.toNat
  else hexCode (0xD800 + (c.toNat - 65536) / 1024) ++ hexCode (0xDC00 + (c.toNat - 65536) % 1024)

/-- `json.dumps(value, sort_keys=True, separators=(",", ":"))`: only literals hold other characters. -/
def asciiText (value : Json) : String := String.ofList ((canonicalText value).toList.flatMap asciiChar)

end V3Aidlc.Canonical
