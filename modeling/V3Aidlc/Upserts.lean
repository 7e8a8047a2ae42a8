import V3Aidlc.ConstrainedTables
import Mathlib.Data.List.Induction

/-!
Tables whose rows are written again. An insertion under a taken key merges its row into the one
that holds the key, and what a table then holds is a replay of the rows it was given: under each
key the first row, merged with the last (`held_replay`). Rows that keep what they have are the first
under their keys (`replay_ignore`), and a replay that is broken off and begun again comes out
as if it had never been (`puts_retry`).
-/
namespace V3Aidlc.Upserts
open V3Aidlc.ConstrainedTables
variable {ρ κ π ε : Type}

/-- What a row becomes when another one is inserted under its key. -/
structure Merge (key : ρ → Option κ) (parent : ρ → π) where
  into : ρ → ρ → ρ
  key_into : ∀ stored row, key (into stored row) = key stored
  parent_into : ∀ stored row, parent (into stored row) = parent stored

namespace Merge
variable {key : ρ → Option κ} {parent : ρ → π}

/-- `OR IGNORE` -/
def ignore (key : ρ → Option κ) (parent : ρ → π) : Merge key parent where
  into := fun stored _ => stored
  key_into := fun _ _ => rfl
  parent_into := fun _ _ => rfl

/-- Only the first row and the last count. -/
structure Lasting (merge : Merge key parent) : Prop where
  absorbs : ∀ stored row last, merge.into (merge.into stored row) last = merge.into stored last
  itself : ∀ row, merge.into row row = row

theorem ignore_lasting : (ignore key parent).Lasting := ⟨fun _ _ _ => rfl,fun _ => rfl⟩

end Merge

section
variable {key : ρ → Option κ} {parent : ρ → π} [DecidableEq κ]

/-- The rows have one key. -/
def Rival (key : ρ → Option κ) (row other : ρ) : Prop := key row ≠ none ∧ key other = key row

instance (row other : ρ) : Decidable (Rival key row other) := inferInstanceAs (Decidable (_ ∧ _))

/-- The row is inserted, or merged into the one that holds its key. -/
def put (merge : Merge key parent) (row : ρ) : List ρ → List ρ
  | [] => [row]
  | stored :: rest => if Rival key row stored then merge.into stored row :: rest else stored :: put merge row rest

/-- The row with the key. -/
def held (key : ρ → Option κ) (k : κ) (rows : List ρ) : Option ρ := rows.find? (fun row => key row = some k)

def puts (merge : Merge key parent) (rows drafts : List ρ) : List ρ :=
  drafts.foldl (fun rows row => put merge row rows) rows

/-- The rows of a table that was given these rows. -/
def replay (merge : Merge key parent) (drafts : List ρ) : List ρ := puts merge [] drafts

/-- The first row under each key, and each row without a key. -/
def firsts (key : ρ → Option κ) : List ρ → List ρ
  | [] => []
  | row :: rest => row :: (firsts key rest).filter (fun other => ¬ Rival key row other)

variable {merge : Merge key parent} {row other : ρ} {rows drafts : List ρ} {k : κ}

/-! ### One row -/

omit [DecidableEq κ] in
theorem rival_comm : Rival key row other ↔ Rival key other row := by
  constructor <;> exact fun ⟨keyed,same⟩ => ⟨same ▸ keyed,same.symm⟩

omit [DecidableEq κ] in
theorem rival_some (keyed : key row = some k) : Rival key row other ↔ key other = some k := by
  simp [Rival,keyed]

theorem put_free (free : ∀ stored ∈ rows, ¬ Rival key row stored) : put merge row rows = rows ++ [row] := by
  induction rows with
  | nil => rfl
  | cons stored rest ih =>
    rw [put,if_neg (free stored (by simp)),ih (fun other member => free other (by simp [member]))]
    rfl

theorem put_keys : (put merge row rows).filterMap key =
    if ∃ stored ∈ rows, Rival key row stored then rows.filterMap key
    else rows.filterMap key ++ (key row).toList := by
  induction rows with
  | nil => cases keyed : key row <;> simp [put,keyed]
  | cons stored rest ih =>
    by_cases here : Rival key row stored
    · have taken : ∃ other ∈ stored :: rest, Rival key row other := ⟨stored,by simp,here⟩
      rw [put,if_pos here,if_pos taken]
      simp [List.filterMap_cons,merge.key_into]
    · have same : (∃ other ∈ stored :: rest, Rival key row other) ↔ ∃ other ∈ rest, Rival key row other := by
        simp [here]
      rw [put,if_neg here,if_congr same rfl rfl,List.filterMap_cons,ih,List.filterMap_cons]
      cases key stored <;> split_ifs <;> rfl

theorem mem_put (member : other ∈ put merge row rows) :
    other ∈ rows ∨ (other = row ∧ ∀ stored ∈ rows, ¬ Rival key row stored) ∨
      ∃ stored ∈ rows, Rival key row stored ∧ other = merge.into stored row := by
  induction rows with
  | nil => exact .inr (.inl ⟨List.mem_singleton.mp member,by simp⟩)
  | cons stored rest ih =>
    by_cases here : Rival key row stored
    · rw [put,if_pos here] at member
      rcases List.mem_cons.mp member with rfl | later
      · exact .inr (.inr ⟨stored,by simp,here,rfl⟩)
      · exact .inl (by simp [later])
    · rw [put,if_neg here] at member
      rcases List.mem_cons.mp member with rfl | later
      · exact .inl (by simp)
      · rcases ih later with early | ⟨rfl,free⟩ | ⟨found,inside,rest⟩
        · exact .inl (by simp [early])
        · exact .inr (.inl ⟨rfl,by simpa [here] using free⟩)
        · exact .inr (.inr ⟨found,by simp [inside],rest⟩)

/-- Only the row with the key of what is put changes. -/
theorem held_put : held key k (put merge row rows) =
    if key row = some k then some ((held key k rows).elim row (fun stored => merge.into stored row))
    else held key k rows := by
  induction rows with
  | nil => by_cases keyed : key row = some k <;> simp [put,held,keyed]
  | cons stored rest ih =>
    simp only [held] at ih ⊢
    by_cases here : Rival key row stored
    · rw [put,if_pos here]
      by_cases keyed : key row = some k
      · simp [keyed,(rival_some keyed).mp here,merge.key_into]
      · have other : key stored ≠ some k := fun same => keyed (here.2.symm.trans same)
        simp [keyed,other,merge.key_into]
    · rw [put,if_neg here]
      by_cases first : key stored = some k
      · have keyed : key row ≠ some k := fun same => here ((rival_some same).mpr first)
        simp [first,keyed]
      · simpa [first] using ih

/-! ### Replays -/

theorem puts_append (front back : List ρ) : puts merge rows (front ++ back) = puts merge (puts merge rows front) back :=
  List.foldl_append

theorem puts_cons : puts merge rows (row :: drafts) = puts merge (put merge row rows) drafts := rfl

theorem puts_snoc : puts merge rows (drafts ++ [row]) = put merge row (puts merge rows drafts) := by
  simp [puts]

/-- The rows with the key, in order. -/
def under (key : ρ → Option κ) (k : κ) (drafts : List ρ) : List ρ := drafts.filter (fun row => key row = some k)

/-- A row that is held is merged with the last that is given under its key. -/
theorem held_puts (lasting : merge.Lasting) : held key k (puts merge rows drafts) =
    match (under key k drafts).head?,(under key k drafts).getLast? with
    | some first,some last => some (merge.into ((held key k rows).getD first) last)
    | _,_ => held key k rows := by
  induction drafts using List.reverseRecOn with
  | nil => rfl
  | append_singleton drafts row ih =>
    rw [puts_snoc,held_put,ih]
    by_cases keyed : key row = some k
    · have more : under key k (drafts ++ [row]) = under key k drafts ++ [row] := by simp [under,keyed]
      rw [if_pos keyed,more,List.getLast?_concat]
      cases list : under key k drafts with
      | nil => cases held key k rows <;> simp [lasting.itself]
      | cons first later =>
        have last : (first :: later).getLast? = some ((first :: later).getLast (by simp)) :=
          List.getLast?_eq_getLast_of_ne_nil _
        simp [last,lasting.absorbs]
    · have same : under key k (drafts ++ [row]) = under key k drafts := by simp [under,keyed]
      rw [if_neg keyed,same]

/-- Under each key there is the first row that was given, merged with the last. -/
theorem held_replay (lasting : merge.Lasting) {stored : ρ} : held key k (replay merge drafts) = some stored ↔
    ∃ first last, (under key k drafts).head? = some first ∧ (under key k drafts).getLast? = some last ∧
      stored = merge.into first last := by
  rw [replay,held_puts lasting]
  cases list : under key k drafts with
  | nil => simp [held]
  | cons first later =>
    have last : (first :: later).getLast? = some ((first :: later).getLast (by simp)) :=
      List.getLast?_eq_getLast_of_ne_nil _
    simp only [last,List.head?_cons]
    constructor
    · intro same
      exact ⟨first,_,rfl,rfl,(Option.some.inj same).symm⟩
    · rintro ⟨_,_,same,also,rfl⟩
      cases same
      cases also
      rfl

/-! ### Rows that stay as they are -/

theorem firsts_sublist (drafts : List ρ) : (firsts key drafts).Sublist drafts := by
  induction drafts with
  | nil => exact List.Sublist.slnil
  | cons row rest ih => exact (List.filter_sublist.trans ih).cons_cons row

theorem put_ignore_taken (taken : ∃ stored ∈ rows, Rival key row stored) : put (.ignore key parent) row rows = rows := by
  induction rows with
  | nil => simp at taken
  | cons stored rest ih =>
    by_cases here : Rival key row stored
    · rw [put,if_pos here]
      rfl
    · rw [put,if_neg here,ih (by simpa [here] using taken)]

theorem puts_ignore : puts (.ignore key parent) rows drafts =
    rows ++ (firsts key drafts).filter (fun row => ∀ stored ∈ rows, ¬ Rival key row stored) := by
  induction drafts generalizing rows with
  | nil => simp [puts,firsts]
  | cons row rest ih =>
    rw [puts_cons,ih,firsts]
    by_cases free : ∀ stored ∈ rows, ¬ Rival key row stored
    · rw [put_free free,List.filter_cons_of_pos (by simpa using free),List.filter_filter,List.append_assoc]
      have symmetric : ∀ other, Rival key other row ↔ Rival key row other := fun _ => rival_comm
      refine congrArg (rows ++ row :: ·) (List.filter_congr fun other _ => ?_)
      simp [or_imp,forall_and,symmetric other]
    · push Not at free
      rw [put_ignore_taken free,List.filter_cons_of_neg (by simpa using free),List.filter_filter]
      refine congrArg (rows ++ ·) (List.filter_congr fun other _ => ?_)
      obtain ⟨stored,member,rival⟩ := free
      have apart : (∀ held ∈ rows, ¬ Rival key other held) → ¬ Rival key row other := by
        intro free same
        have taken : Rival key other stored := by
          refine ⟨(rival_comm.mp same).1,?_⟩
          rw [rival.2,same.2]
        exact free stored member taken
      simpa using apart

theorem replay_ignore : replay (.ignore key parent) drafts = firsts key drafts := by
  simp [replay,puts_ignore]

/-! ### Keys -/

omit [DecidableEq κ] in
theorem taken_key : (∃ stored ∈ rows, Rival key row stored) ↔ ∃ k, key row = some k ∧ k ∈ rows.filterMap key := by
  constructor
  · rintro ⟨stored,member,keyed,same⟩
    obtain ⟨k,isKey⟩ := Option.ne_none_iff_exists'.mp keyed
    exact ⟨k,isKey,List.mem_filterMap.mpr ⟨stored,member,same.trans isKey⟩⟩
  · rintro ⟨k,isKey,inside⟩
    obtain ⟨stored,member,same⟩ := List.mem_filterMap.mp inside
    exact ⟨stored,member,(rival_some isKey).mpr same⟩

theorem keys_put : k ∈ (put merge row rows).filterMap key ↔ k ∈ rows.filterMap key ∨ key row = some k := by
  rw [put_keys]
  split_ifs with taken
  · obtain ⟨taken,isKey,inside⟩ := taken_key.mp taken
    constructor
    · exact .inl
    · rintro (member | same)
      · exact member
      · rwa [← Option.some.inj (isKey.symm.trans same)]
  · simp [Option.mem_toList]

theorem keys_puts : k ∈ (puts merge rows drafts).filterMap key ↔ k ∈ rows.filterMap key ∨ k ∈ drafts.filterMap key := by
  induction drafts generalizing rows with
  | nil => simp [puts]
  | cons row rest ih =>
    rw [puts_cons,ih,keys_put,List.filterMap_cons]
    cases keyed : key row <;> simp [eq_comm,or_assoc]

theorem put_distinct (distinct : (rows.filterMap key).Nodup) : ((put merge row rows).filterMap key).Nodup := by
  rw [put_keys]
  split_ifs with taken
  · exact distinct
  · refine List.nodup_append.mpr ⟨distinct,by cases key row <;> simp,?_⟩
    rintro k member _ last rfl
    exact taken (taken_key.mpr ⟨k,Option.mem_toList.mp last,member⟩)

theorem puts_distinct (distinct : (rows.filterMap key).Nodup) : ((puts merge rows drafts).filterMap key).Nodup := by
  induction drafts generalizing rows with
  | nil => exact distinct
  | cons row rest ih => exact ih (put_distinct distinct)

theorem held_mem (distinct : (rows.filterMap key).Nodup) :
    held key k rows = some row ↔ row ∈ rows ∧ key row = some k := by
  constructor
  · intro found
    exact ⟨List.mem_of_find?_eq_some found,by simpa using List.find?_some found⟩
  · rintro ⟨member,keyed⟩
    cases found : held key k rows with
    | none => exact absurd keyed (by simpa using List.find?_eq_none.mp found row member)
    | some other =>
      have inside : other ∈ rows := List.mem_of_find?_eq_some found
      have same : key other = some k := by simpa using List.find?_some found
      rw [Table.keyed_unique distinct inside member same keyed]

/-- A stored row after these rows: merged with the last under its key. -/
def amended (merge : Merge key parent) (drafts : List ρ) (stored : ρ) : ρ :=
  match key stored with
  | none => stored
  | some k => ((under key k drafts).getLast?).elim stored (merge.into stored)

theorem amended_keyed {stored : ρ} (keyed : key stored = some k) :
    amended merge drafts stored = ((under key k drafts).getLast?).elim stored (merge.into stored) := by
  simp [amended,keyed]

@[simp] theorem amended_nil (stored : ρ) : amended merge [] stored = stored := by
  cases keyed : key stored <;> simp [amended,keyed,under]

@[simp] theorem map_amended_nil (rows : List ρ) : rows.map (amended merge []) = rows := List.map_id'' amended_nil rows

theorem amended_key (stored : ρ) : key (amended merge drafts stored) = key stored := by
  cases keyed : key stored with
  | none => simp [amended,keyed]
  | some k =>
    rw [amended_keyed keyed]
    cases (under key k drafts).getLast? <;> simp [merge.key_into,keyed]

theorem amended_rival {stored : ρ} (rival : Rival key row stored) : amended merge [row] stored = merge.into stored row := by
  obtain ⟨k,keyed⟩ := Option.ne_none_iff_exists'.mp rival.1
  simp [amended_keyed ((rival_some keyed).mp rival),under,keyed]

theorem amended_other {stored : ρ} (other : ¬ Rival key row stored) : amended merge [row] stored = stored := by
  cases keyed : key stored with
  | none => simp [amended,keyed]
  | some k =>
    have missing : key row ≠ some k := fun same => other ((rival_some same).mpr keyed)
    simp [amended_keyed keyed,under,missing]

/-- Where the key is taken, the row is merged in its place. -/
theorem put_taken (distinct : (rows.filterMap key).Nodup) (taken : ∃ stored ∈ rows, Rival key row stored) :
    put merge row rows = rows.map (amended merge [row]) := by
  induction rows with
  | nil => simp at taken
  | cons stored rest ih =>
    by_cases here : Rival key row stored
    · have alone : ∀ other ∈ rest, amended merge [row] other = id other := by
        intro other member
        refine amended_other fun rival => ?_
        obtain ⟨k,keyed⟩ := Option.ne_none_iff_exists'.mp rival.1
        rw [List.filterMap_cons_some ((rival_some keyed).mp here),List.nodup_cons] at distinct
        exact distinct.1 (List.mem_filterMap.mpr ⟨other,member,(rival_some keyed).mp rival⟩)
      rw [put,if_pos here,List.map_cons,amended_rival here,List.map_congr_left alone,List.map_id]
    · have later : (rest.filterMap key).Nodup := distinct.sublist ((List.sublist_cons_self stored rest).filterMap key)
      rw [put,if_neg here,List.map_cons,amended_other here,ih later (by simpa [here] using taken)]

theorem amended_snoc (lasting : merge.Lasting) (stored : ρ) :
    amended merge [row] (amended merge drafts stored) = amended merge (drafts ++ [row]) stored := by
  cases keyed : key stored with
  | none => simp [amended,keyed]
  | some k =>
    rw [amended_keyed ((amended_key stored).trans keyed),amended_keyed keyed,amended_keyed keyed]
    by_cases same : key row = some k
    · cases (under key k drafts).getLast? <;> simp [under,same,lasting.absorbs]
    · simp [under,same]

/-- Rows under taken keys are merged in their places. -/
theorem puts_taken (lasting : merge.Lasting) (distinct : (rows.filterMap key).Nodup)
    (taken : ∀ row ∈ drafts, ∃ stored ∈ rows, Rival key row stored) :
    puts merge rows drafts = rows.map (amended merge drafts) := by
  induction drafts using List.reverseRecOn with
  | nil => simp [puts]
  | append_singleton drafts row ih =>
    have before := ih (fun other member => taken other (by simp [member]))
    have there : ∃ stored ∈ puts merge rows drafts, Rival key row stored := by
      obtain ⟨k,keyed,inside⟩ := taken_key.mp (taken row (by simp))
      exact taken_key.mpr ⟨k,keyed,keys_puts.mpr (.inl inside)⟩
    rw [puts_snoc,put_taken (puts_distinct distinct) there,before,List.map_map]
    exact List.map_congr_left (fun stored _ => amended_snoc lasting stored)

/-- What was put once and is put again, in the same order, changes nothing. -/
theorem puts_retry (lasting : merge.Lasting) (distinct : (rows.filterMap key).Nodup)
    (given : ∀ row ∈ drafts, key row ≠ none) : puts merge (puts merge rows drafts) drafts = puts merge rows drafts := by
  have once : ((puts merge rows drafts).filterMap key).Nodup := puts_distinct distinct
  have taken : ∀ row ∈ drafts, ∃ stored ∈ puts merge rows drafts, Rival key row stored := by
    intro row member
    obtain ⟨k,keyed⟩ := Option.ne_none_iff_exists'.mp (given row member)
    exact taken_key.mpr ⟨k,keyed,keys_puts.mpr (.inr (List.mem_filterMap.mpr ⟨row,member,keyed⟩))⟩
  have alone : ∀ stored ∈ puts merge rows drafts, amended merge drafts stored = id stored := by
    intro stored member
    cases keyed : key stored with
    | none => simp [amended,keyed]
    | some k =>
      have found := (held_mem once).mpr ⟨member,keyed⟩
      rw [held_puts lasting] at found
      rw [amended_keyed keyed]
      cases list : under key k drafts with
      | nil => rfl
      | cons first later =>
        have last : (first :: later).getLast? = some ((first :: later).getLast (by simp)) :=
          List.getLast?_eq_getLast_of_ne_nil _
        rw [list,last] at found
        simp only [List.head?_cons,Option.some.injEq] at found
        simp [last,← found,lasting.absorbs]
  rw [puts_taken lasting once taken,List.map_congr_left alone,List.map_id]

/-- Rows that are broken off and begun again come out as if they had been given once. -/
theorem puts_attempts (lasting : merge.Lasting) {attempts : List (List ρ)}
    (begun : ∀ front ∈ attempts, front <+: drafts) (distinct : (rows.filterMap key).Nodup)
    (given : ∀ row ∈ drafts, key row ≠ none) :
    puts merge rows (attempts.flatten ++ drafts) = puts merge rows drafts := by
  induction attempts generalizing rows with
  | nil => rfl
  | cons front later ih =>
    obtain ⟨rest,whole⟩ := begun front (by simp)
    have keyed : ∀ row ∈ front, key row ≠ none := fun row member => given row (by simp [← whole,member])
    have apart : ((puts merge rows front).filterMap key).Nodup := puts_distinct distinct
    have after := ih (fun other member => begun other (by simp [member])) apart
    rw [List.flatten_cons,List.append_assoc,puts_append,after,← whole,puts_append,puts_retry lasting distinct keyed,
      puts_append]

/-- What is said of each row is said of the whole. -/
theorem puts_map {σ : Type} {key' : σ → Option κ} {parent' : σ → π} {merge' : Merge key' parent'} {f : ρ → σ}
    (keeps : ∀ row, key' (f row) = key row)
    (commutes : ∀ stored row, merge'.into (f stored) (f row) = f (merge.into stored row)) :
    (puts merge rows drafts).map f = puts merge' (rows.map f) (drafts.map f) := by
  have one : ∀ row rows, (put merge row rows).map f = put merge' (f row) (rows.map f) := by
    intro row rows
    induction rows with
    | nil => rfl
    | cons stored rest ih =>
      have same : Rival key' (f row) (f stored) ↔ Rival key row stored := by simp [Rival,keeps]
      rw [List.map_cons,put,put,if_congr same rfl rfl,commutes,← ih]
      split_ifs <;> rfl
  induction drafts generalizing rows with
  | nil => rfl
  | cons row rest ih => rw [puts_cons,ih,one,List.map_cons,puts_cons]

/-- Rows whose rivals are all kept or all left out are put among the rows that are kept. -/
theorem put_own {own : ρ → Bool} (kept : ∀ stored row, own (merge.into stored row) = own stored)
    (rivals : ∀ stored ∈ rows, Rival key row stored → own stored = own row) :
    (put merge row rows).filter own = if own row then put merge row (rows.filter own) else rows.filter own := by
  induction rows with
  | nil => cases mine : own row <;> simp [put,mine]
  | cons stored rest ih =>
    have later := ih (fun other member => rivals other (by simp [member]))
    by_cases here : Rival key row stored
    · have same := rivals stored (by simp) here
      cases mine : own row <;> simp [put,here,kept,same,mine]
    · cases mine : own row <;> cases theirs : own stored <;> simp [put,here,theirs] <;> simpa [mine] using later

/-- A row without a key is kept as it is. -/
theorem unkeyed_puts : (puts merge rows drafts).filter (fun row => key row = none) =
    rows.filter (fun row => key row = none) ++ drafts.filter (fun row => key row = none) := by
  have one : ∀ row rows, (put merge row rows).filter (fun row => key row = none) =
      rows.filter (fun row => key row = none) ++ [row].filter (fun row => key row = none) := by
    intro row rows
    induction rows with
    | nil => rfl
    | cons stored rest ih =>
      by_cases here : Rival key row stored
      · have keyed : key stored ≠ none := (rival_comm.mp here).1
        simp [put,here,here.1,merge.key_into,keyed]
      · have split : ∀ xs : List ρ, (stored :: xs).filter (fun row => key row = none) =
            [stored].filter (fun row => key row = none) ++ xs.filter (fun row => key row = none) :=
          fun xs => List.filter_append [stored] xs
        rw [put,if_neg here,split,ih,split rest,List.append_assoc]
  induction drafts generalizing rows with
  | nil => simp [puts]
  | cons row rest ih => rw [puts_cons,ih,one,List.append_assoc,← List.filter_append,List.singleton_append]

/-- A row is one without a key, as it was given, or what became of the first under its key. -/
theorem replay_cases (lasting : merge.Lasting) (member : row ∈ replay merge drafts) :
    key row = none ∧ row ∈ drafts ∨ ∃ k first last, key row = some k ∧ (under key k drafts).head? = some first ∧
      (under key k drafts).getLast? = some last ∧ row = merge.into first last := by
  cases keyed : key row with
  | none =>
    have kept : row ∈ (replay merge drafts).filter (fun row => key row = none) := by simp [member,keyed]
    rw [replay,unkeyed_puts] at kept
    exact .inl ⟨rfl,by simpa [keyed] using kept⟩
  | some k =>
    have distinct : ((replay merge drafts).filterMap key).Nodup := puts_distinct List.nodup_nil
    obtain ⟨first,last,head,tail,same⟩ := (held_replay lasting).mp ((held_mem distinct).mpr ⟨member,keyed⟩)
    exact .inr ⟨k,first,last,rfl,head,tail,same⟩

/-- What is given as something else is first where that is. -/
theorem firsts_map {σ : Type} {key' : σ → Option κ} {f : σ → ρ} (keeps : ∀ given, key (f given) = key' given)
    (given : List σ) : firsts key (given.map f) = (firsts key' given).map f := by
  induction given with
  | nil => rfl
  | cons first rest ih => simp [firsts,ih,List.filter_map,Function.comp_def,Rival,keeps]

theorem under_map {σ : Type} {key' : σ → Option κ} {f : σ → ρ} (keeps : ∀ given, key (f given) = key' given) (k : κ)
    (given : List σ) : under key k (given.map f) = (under key' k given).map f := by
  simp [under,List.filter_map,Function.comp_def,keeps]

/-! ### Tables -/

variable {parents others : List π} {table after : Table key parent parents} {refused : ε} {draft : Option ρ}

/-- The table with the row, where its key is taken or its parent is known. -/
def store (merge : Merge key parent) (table : Table key parent parents) (row : ρ)
    (room : table.Taken row ∨ parent row ∈ parents) : Table key parent parents where
  rows := put merge row table.rows
  distinct := put_distinct table.distinct
  referred := by
    intro other member
    rcases mem_put member with early | ⟨rfl,free⟩ | ⟨stored,inside,_,rfl⟩
    · exact table.referred other early
    · rcases room with taken | known
      · obtain ⟨stored,inside,rival⟩ := taken_key.mpr taken
        exact absurd rival (free stored inside)
      · exact known
    · rw [merge.parent_into]
      exact table.referred stored inside

/-- `INSERT … ON CONFLICT DO UPDATE`. The parent is looked for only where the row is new. -/
def upsert [DecidableEq π] (refused : ε) (merge : Merge key parent) (table : Table key parent parents) (row : ρ) :
    Except ε (Table key parent parents) :=
  if room : table.Taken row ∨ parent row ∈ parents then .ok (store merge table row room) else .error refused

/-- The same rows, where more parents are known. -/
def widen (table : Table key parent parents) (wider : parents ⊆ others) : Table key parent others where
  rows := table.rows
  distinct := table.distinct
  referred := fun row member => wider (table.referred row member)

omit [DecidableEq κ] in
theorem table_ext {table other : Table key parent parents} (same : table.rows = other.rows) : table = other := by
  cases table
  cases other
  cases same
  rfl

/-- The table of what its rows say to `f`. -/
def image {σ : Type} {key' : σ → Option κ} {parent' : σ → π} (f : ρ → σ) (keeps : ∀ row, key' (f row) = key row)
    (refers : ∀ row, parent' (f row) = parent row) (table : Table key parent parents) : Table key' parent' parents where
  rows := table.rows.map f
  distinct := by
    have same : (table.rows.map f).filterMap key' = table.rows.filterMap key := by
      rw [List.filterMap_map]
      exact List.filterMap_congr (fun stored _ => keeps stored)
    rw [same]
    exact table.distinct
  referred := by
    intro row member
    obtain ⟨stored,inside,rfl⟩ := List.mem_map.mp member
    rw [refers]
    exact table.referred stored inside

section
variable [DecidableEq π]

/-- An insertion skips, stores and refuses alike. -/
theorem insert_image {σ : Type} {key' : σ → Option κ} {parent' : σ → π} {f : ρ → σ}
    (keeps : ∀ row, key' (f row) = key row) (refers : ∀ row, parent' (f row) = parent row) :
    (table.insertOrIgnore refused draft).map (image f keeps refers) =
      (image f keeps refers table).insertOrIgnore refused (draft.map f) := by
  cases draft with
  | none => rfl
  | some row =>
    have keys : (table.rows.map f).filterMap key' = table.rows.filterMap key := by
      rw [List.filterMap_map]
      exact List.filterMap_congr (fun stored _ => keeps stored)
    have same : (image f keeps refers table).Taken (f row) ↔ table.Taken row := by
      simp only [Table.Taken,image,keys,keeps]
    by_cases taken : table.Taken row
    · rw [Table.insert_taken taken]
      exact (Table.insert_taken (same.mpr taken)).symm
    · by_cases known : parent row ∈ parents
      · have also : parent' (f row) ∈ parents := (refers row).symm ▸ known
        rw [Table.insert_free taken known]
        refine Eq.trans (congrArg Except.ok (table_ext ?_)) (Table.insert_free (fun held => taken (same.mp held)) also).symm
        simp [image,Table.push]
      · have also : parent' (f row) ∉ parents := (refers row).symm ▸ known
        rw [Table.insert_orphan taken known]
        exact (Table.insert_orphan (fun held => taken (same.mp held)) also).symm

/-- An insertion returns where it finds the key or the parent. -/
theorem upsert_returns : (∃ after, upsert refused merge table row = .ok after) ↔
    table.Taken row ∨ parent row ∈ parents := by
  by_cases room : table.Taken row ∨ parent row ∈ parents <;> simp [upsert,room]

theorem upsert_rows (ran : upsert refused merge table row = .ok after) : after.rows = put merge row table.rows := by
  by_cases room : table.Taken row ∨ parent row ∈ parents
  · rw [upsert,dif_pos room] at ran
    rw [← Except.ok.inj ran]
    rfl
  · simp [upsert,room] at ran

/-- A skipped row is merged away. -/
theorem insert_rows (ran : table.insertOrIgnore refused draft = .ok after) :
    after.rows = puts (.ignore key parent) table.rows draft.toList := by
  cases draft with
  | none =>
    rw [← Except.ok.inj ran]
    rfl
  | some row =>
    by_cases taken : table.Taken row
    · rw [Table.insert_taken taken] at ran
      rw [← Except.ok.inj ran]
      exact (put_ignore_taken (taken_key.mpr taken)).symm
    · have free : ∀ stored ∈ table.rows, ¬ Rival key row stored := by
        intro stored member rival
        exact taken (taken_key.mp ⟨stored,member,rival⟩)
      by_cases known : parent row ∈ parents
      · rw [Table.insert_free taken known] at ran
        rw [← Except.ok.inj ran]
        exact (put_free free).symm
      · rw [Table.insert_orphan taken known] at ran
        cases ran

end

end

end V3Aidlc.Upserts
