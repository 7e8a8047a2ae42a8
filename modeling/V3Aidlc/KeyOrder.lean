import V3Aidlc.Loops
import V3Aidlc.Documents
import V3Aidlc.Encodings
import V3Aidlc.DeepMerges

/-!
What does not depend on the order of keys. Documents that are the same up to that order are
equal to the same documents (`eq_of_same`), hold the same under each name (`same_entries`)
and merge to the same (`combine_same`).
-/
namespace V3Aidlc.KeyOrder
open V3Aidlc.Values V3Aidlc.Loops V3Aidlc.Documents V3Aidlc.DeepMerges

/-! ### Same values -/

theorem same_str {s : String} {w : Json} : same (.str s) w = true ↔ w = .str s := by
  cases w <;> simp [same,eq_comm]

theorem same_dict {fields : Dict} {w : Json} (equal : same (.obj fields) w = true) :
    ∃ others, w = .obj others ∧ same (.obj fields) (.obj others) = true := by
  cases w with
  | obj others => exact ⟨others,rfl,equal⟩
  | _ => simp [same] at equal

theorem same_list {items : List Json} {w : Json} (equal : same (.arr items) w = true) :
    ∃ others, w = .arr others ∧ List.Forall₂ (fun x y => same x y = true) items others := by
  cases w with
  | arr others => exact ⟨others,rfl,sameItems_iff.mp (by simpa [same] using equal)⟩
  | _ => simp [same] at equal

theorem same_strings {texts : List String} {others : List Json}
    (pairs : List.Forall₂ (fun x y => same x y = true) (texts.map Json.str) others) : others = texts.map Json.str := by
  rw [List.forall₂_map_left_iff] at pairs
  induction pairs with
  | nil => rfl
  | cons first _ ih =>
    rw [same_str.mp first,ih]
    rfl

section
variable {v w : Json} (equal : same v w = true)
include equal

theorem same_str? : v.str? = w.str? := by
  cases v <;> cases w <;> simp_all [same,Json.str?]

theorem same_bool? : v.bool? = w.bool? := by
  cases v <;> cases w <;> simp_all [same,Json.bool?]

theorem same_isDict : v.isDict = w.isDict := by
  cases v <;> cases w <;> simp_all [same,Json.isDict,Json.dict?]

theorem same_isNull : v.isNull = w.isNull := by
  cases v <;> cases w <;> simp_all [same,Json.isNull]

theorem same_truthy : v.truthy = w.truthy := by
  cases v with
  | obj fields =>
    obtain ⟨others,rfl,equal⟩ := same_dict equal
    simp only [same,Bool.and_eq_true,decide_eq_true_eq] at equal
    cases fields <;> cases others <;> simp_all [Json.truthy]
  | arr items =>
    obtain ⟨others,rfl,pairs⟩ := same_list equal
    cases pairs <;> rfl
  | _ => cases w <;> simp_all [same,Json.truthy]

end

theorem proper_arr {items : List Json} : (Json.arr items).proper = true ↔ ∀ v ∈ items, v.proper = true := by
  rw [← properItems_iff]
  simp [Json.proper]

theorem proper_dict {fields : Dict} : (Json.obj fields).proper = true ↔
    fields.keys.Nodup ∧ ∀ kv ∈ fields, kv.2.proper = true := by
  rw [← properFields_iff]
  simp [Json.proper,Dict.keys]

theorem proper_found {fields : Dict} (proper : (Json.obj fields).proper = true) {k : String} {v : Json}
    (found : Dict.get? k fields = some v) : v.proper = true :=
  (proper_dict.mp proper).2 _ (get?_mem found)

theorem get_same {xs ys : Dict} (proper : (Json.obj xs).proper = true) (proper' : (Json.obj ys).proper = true)
    (equal : same (.obj xs) (.obj ys) = true) (k : String) : same (xs.get k) (ys.get k) = true := by
  have lookups := (same_lookups (proper_dict.mp proper).1 (proper_dict.mp proper').1).mp equal
  unfold Dict.get
  cases here : Dict.get? k xs with
  | some v =>
    obtain ⟨w,there,holds⟩ := rel_right (lookups _) here
    rw [there]
    exact holds
  | none =>
    rw [rel_none (lookups _) here]
    rfl

theorem same_refl {v : Json} (proper : v.proper = true) : same v v = true := by
  induction v using by_parts with
  | arr items ih =>
    rw [proper_arr] at proper
    have pairs : List.Forall₂ (fun x y => same x y = true) items items :=
      List.forall₂_same.mpr (fun v member => ih v member (proper v member))
    simpa [same,sameItems_iff] using pairs
  | obj fields ih =>
    obtain ⟨distinct,each⟩ := proper_dict.mp proper
    refine (same_lookups distinct distinct).mpr (fun k => rel_of ?_ (fun w found => ⟨w,found⟩))
    intro v found
    exact ⟨v,found,ih _ (get?_mem found) (each _ (get?_mem found))⟩
  | _ => simp [same]

/-- The order of keys is no matter of sides. -/
theorem same_symm {v : Json} : ∀ {w : Json}, v.proper = true → w.proper = true → same v w = true →
    same w v = true := by
  induction v using by_parts with
  | arr items ih =>
    intro w proper proper' equal
    obtain ⟨others,rfl,pairs⟩ := same_list equal
    rw [proper_arr] at proper proper'
    have flipped : List.Forall₂ (fun x y => same y x = true) items others :=
      forall₂_members pairs (fun x member y member' holds => ih x member (proper x member) (proper' y member') holds)
    simpa [same,sameItems_iff] using flipped.flip
  | obj fields ih =>
    intro w proper proper' equal
    obtain ⟨others,rfl,equal⟩ := same_dict equal
    have lookups := (same_lookups (proper_dict.mp proper).1 (proper_dict.mp proper').1).mp equal
    refine (same_lookups (proper_dict.mp proper').1 (proper_dict.mp proper).1).mpr (fun k => rel_of ?_ ?_)
    · intro w found
      obtain ⟨v,here,holds⟩ := rel_left (lookups _) found
      exact ⟨v,here,ih _ (get?_mem here) (proper_found proper here) (proper_found proper' found) holds⟩
    · intro v found
      obtain ⟨w,there,_⟩ := rel_right (lookups _) found
      exact ⟨w,there⟩
  | _ => intro w _ _ equal; cases w <;> simp_all [same]

theorem eqFields_iff {fields : List (String × Json)} {others : Dict} : eqFields fields others = true ↔
    ∀ kv ∈ fields, ∃ w, Dict.get? kv.1 others = some w ∧ kv.2.eq w = true := by
  induction fields with
  | nil => simp [eqFields]
  | cons kv fields ih =>
    obtain ⟨k,v⟩ := kv
    cases found : Dict.get? k others <;> simp [eqFields,found,ih]

theorem eqItems_iff {items others : List Json} : eqItems items others = true ↔
    List.Forall₂ (fun v w => v.eq w = true) items others := by
  induction items generalizing others with
  | nil => cases others <;> simp [eqItems]
  | cons v items ih => cases others <;> simp [eqItems,ih]

theorem eq_lookups {xs ys : Dict} (distinct : xs.keys.Nodup) (distinct' : ys.keys.Nodup) :
    (Json.obj xs).eq (.obj ys) = true ↔
      ∀ k, Option.Rel (fun v w => v.eq w = true) (Dict.get? k xs) (Dict.get? k ys) := by
  rw [← related_lookups distinct distinct']
  simp only [Json.eq,Bool.and_eq_true,decide_eq_true_eq,eqFields_iff]

/-- A value that is neither an array nor an object is the same as itself only. -/
theorem same_plain {v w : Json} (plain : v.isDict = false) (plain' : v.isList = false) (equal : same v w = true) :
    w = v := by
  cases v <;> cases w <;> simp_all [same,Json.isDict,Json.dict?,Json.isList,Json.list?]

/-- Equality does not depend on the order of keys. -/
theorem eq_of_same {v : Json} : ∀ {w v' w' : Json}, v.proper = true → w.proper = true → v'.proper = true →
    w'.proper = true → same v v' = true → same w w' = true → v.eq w = true → v'.eq w' = true := by
  induction v using by_parts with
  | arr items ih =>
    intro w v' w' proper proper₁ proper₂ proper₃ left right equal
    obtain ⟨items',rfl,pairs⟩ := same_list left
    cases w with
    | arr others =>
      obtain ⟨others',rfl,pairs'⟩ := same_list right
      rw [proper_arr] at proper proper₁ proper₂ proper₃
      have equals : List.Forall₂ (fun v w => v.eq w = true) items others :=
        eqItems_iff.mp (by simpa [Json.eq] using equal)
      suffices List.Forall₂ (fun v w => v.eq w = true) items' others' by simpa [Json.eq,eqItems_iff] using this
      clear left right equal
      induction equals generalizing items' others' with
      | nil =>
        cases pairs
        cases pairs'
        exact .nil
      | cons first rest step =>
        cases pairs with
        | cons here pairs =>
          cases pairs' with
          | cons there pairs' =>
            simp only [List.forall_mem_cons] at ih proper proper₁ proper₂ proper₃
            exact .cons (ih.1 proper.1 proper₁.1 proper₂.1 proper₃.1 here there first)
              (step ih.2 proper.2 _ pairs proper₂.2 proper₁.2 _ pairs' proper₃.2)
    | _ => simp [Json.eq] at equal
  | obj fields ih =>
    intro w v' w' proper proper₁ proper₂ proper₃ left right equal
    obtain ⟨fields',rfl,left⟩ := same_dict left
    cases w with
    | obj others =>
      obtain ⟨others',rfl,right⟩ := same_dict right
      obtain ⟨distinct,_⟩ := proper_dict.mp proper
      obtain ⟨distinct₁,_⟩ := proper_dict.mp proper₁
      obtain ⟨distinct₂,_⟩ := proper_dict.mp proper₂
      obtain ⟨distinct₃,_⟩ := proper_dict.mp proper₃
      have lefts := (same_lookups distinct distinct₂).mp left
      have rights := (same_lookups distinct₁ distinct₃).mp right
      have equals := (eq_lookups distinct distinct₁).mp equal
      refine (eq_lookups distinct₂ distinct₃).mpr (fun k => rel_of ?_ ?_)
      · intro v' found
        obtain ⟨v,here,leftSame⟩ := rel_left (lefts _) found
        obtain ⟨w,there,holds⟩ := rel_right (equals _) here
        obtain ⟨w',found',rightSame⟩ := rel_right (rights _) there
        exact ⟨w',found',ih _ (get?_mem here) (proper_found proper here) (proper_found proper₁ there)
          (proper_found proper₂ found) (proper_found proper₃ found') leftSame rightSame holds⟩
      · intro w' found
        obtain ⟨w,there,_⟩ := rel_left (rights _) found
        obtain ⟨v,here,_⟩ := rel_left (equals _) there
        obtain ⟨v',found',_⟩ := rel_right (lefts _) here
        exact ⟨v',found'⟩
    | _ => simp [Json.eq] at equal
  | _ =>
    intro w v' w' _ _ _ _ left right equal
    obtain rfl := same_plain rfl rfl left
    have plain : w.isDict = false ∧ w.isList = false := by
      cases w <;> simp_all [Json.eq,Json.num?,Json.isDict,Json.dict?,Json.isList,Json.list?]
    obtain rfl := same_plain plain.1 plain.2 right
    exact equal

/-- Writing the same under a key keeps dicts the same. -/
theorem set_same {xs ys : Dict} {v w : Json} (proper : (Json.obj xs).proper = true)
    (proper' : (Json.obj ys).proper = true) (equal : same (.obj xs) (.obj ys) = true) (values : same v w = true)
    (key : String) (next : (Json.obj (xs.set key v)).proper = true) (next' : (Json.obj (ys.set key w)).proper = true) :
    same (.obj (xs.set key v)) (.obj (ys.set key w)) = true := by
  have lookups := (same_lookups (proper_dict.mp proper).1 (proper_dict.mp proper').1).mp equal
  refine (same_lookups (proper_dict.mp next).1 (proper_dict.mp next').1).mpr (fun k => ?_)
  by_cases here : key = k
  · subst here
    rw [get?_set_self,get?_set_self]
    exact .some values
  · rw [get?_set_ne _ _ here,get?_set_ne _ _ here]
    exact lookups k

theorem proper_set {d : Dict} (proper : (Json.obj d).proper = true) (key : String) {v : Json}
    (value : v.proper = true) :
    (Json.obj (d.set key v)).proper = true := by
  obtain ⟨distinct,each⟩ := proper_dict.mp proper
  refine proper_dict.mpr ⟨?_,?_⟩
  · rw [keys_set]
    split
    · exact distinct
    · rename_i fresh
      exact List.Nodup.append distinct (List.nodup_singleton _) (by simpa using fresh)
  · intro kv member
    rcases mem_set member with kept | rfl
    · exact each kv kept
    · exact value

/-! ### Unambiguous documents -/

section
variable {fold : String → String}

theorem distinct_names {d : Dict} : Distinct fold d ↔ (d.keys.map fold).Nodup := by
  unfold Distinct Dict.keys
  rw [List.map_map]
  rfl

theorem unambiguous_arr {items : List Json} :
    unambiguous fold (.arr items) = true ↔ ∀ v ∈ items, unambiguous fold v = true := by
  rw [← unambiguousItems_iff]
  simp [unambiguous]

theorem unambiguous_proper {v : Json} (clear : unambiguous fold v = true) : v.proper = true := by
  induction v using by_parts with
  | arr items ih =>
    rw [unambiguous_arr] at clear
    exact proper_arr.mpr (fun v member => ih v member (clear v member))
  | obj fields ih =>
    obtain ⟨distinct,each⟩ := unambiguous_obj.mp clear
    exact proper_dict.mpr ⟨distinct_keys distinct,fun kv member => ih kv member (each kv member)⟩
  | _ => rfl

theorem unambiguous_same {v : Json} : ∀ {w : Json}, w.proper = true → same v w = true →
    unambiguous fold v = true → unambiguous fold w = true := by
  induction v using by_parts with
  | arr items ih =>
    intro w proper equal clear
    obtain ⟨others,rfl,pairs⟩ := same_list equal
    rw [unambiguous_arr] at clear ⊢
    rw [proper_arr] at proper
    have kept : List.Forall₂ (fun _ w => unambiguous fold w = true) items others :=
      forall₂_members pairs (fun v member w member' holds => ih v member (proper w member') holds (clear v member))
    intro w member
    obtain ⟨_,_,holds⟩ := Loops.forall₂_left kept.flip w member
    exact holds
  | obj fields ih =>
    intro w proper equal clear
    obtain ⟨others,rfl,equal⟩ := same_dict equal
    obtain ⟨distinct,each⟩ := unambiguous_obj.mp clear
    obtain ⟨distinct',each'⟩ := proper_dict.mp proper
    have lookups := (same_lookups (distinct_keys distinct) distinct').mp equal
    refine unambiguous_obj.mpr ⟨?_,?_⟩
    · have keys := keys_of_lookups (distinct_keys distinct) distinct' lookups
      rw [distinct_names] at distinct ⊢
      exact (keys.map fold).nodup_iff.mp distinct
    · intro kv member
      obtain ⟨v,here,holds⟩ := rel_left (lookups _) (get?_of_mem distinct' member)
      exact ih _ (get?_mem here) (each' kv member) holds (each _ (get?_mem here))
  | _ => intro w _ equal clear; cases w <;> simp_all [same]

/-- One key with one value. -/
def SameEntry (entry other : String × Json) : Prop := entry.1 = other.1 ∧ same entry.2 other.2 = true

/-- Unambiguous dicts are the same when they have the same under each name. -/
theorem same_entries {d e : Dict} (distinct : Distinct fold d) (distinct' : Distinct fold e) :
    same (.obj d) (.obj e) = true ↔ ∀ name, Option.Rel SameEntry (entry_of fold d name) (entry_of fold e name) := by
  rw [same_lookups (distinct_keys distinct) (distinct_keys distinct')]
  constructor
  · intro lookups name
    refine rel_of ?_ ?_
    · intro entry here
      obtain ⟨w,there,holds⟩ := rel_right (lookups entry.1) (get?_of_mem (distinct_keys distinct) (entry_of_mem here))
      rw [get?_entry distinct',entry_of_congr (entry_of_name here)] at there
      exact ⟨_,there,rfl,holds⟩
    · intro other there
      obtain ⟨v,here,_⟩ := rel_left (lookups other.1) (get?_of_mem (distinct_keys distinct') (entry_of_mem there))
      rw [get?_entry distinct,entry_of_congr (entry_of_name there)] at here
      exact ⟨_,here⟩
  · intro entries k
    refine rel_of ?_ ?_
    · intro v found
      obtain ⟨⟨k',w⟩,there,key,holds⟩ := rel_right (entries k) ((get?_entry distinct).mp found)
      obtain rfl : k = k' := key
      exact ⟨w,(get?_entry distinct').mpr there,holds⟩
    · intro w found
      obtain ⟨⟨k',v⟩,here,key,_⟩ := rel_left (entries k) ((get?_entry distinct').mp found)
      obtain rfl : k' = k := key
      exact ⟨v,(get?_entry distinct).mpr here⟩

/-- A merge does not depend on the order of keys in either layer. -/
theorem combine_same {base : Json} : ∀ {override base' override' : Json}, unambiguous fold base = true →
    unambiguous fold override = true → unambiguous fold base' = true → unambiguous fold override' = true →
    same base base' = true → same override override' = true →
    same (combine fold base override) (combine fold base' override') = true := by
  induction base using by_parts with
  | obj base ih =>
    intro override base' override' clear clear₁ clear₂ clear₃ left right
    obtain ⟨base',rfl,left⟩ := same_dict left
    by_cases object : override.isDict = true
    · obtain ⟨fields,rfl⟩ : ∃ fields, override = .obj fields := by
        cases override <;> simp_all [Json.isDict,Json.dict?]
      obtain ⟨fields',rfl,right⟩ := same_dict right
      have next := unambiguous_combine clear clear₁
      have next' := unambiguous_combine clear₂ clear₃
      rw [combine_obj] at next next' ⊢
      rw [combine_obj]
      obtain ⟨distinct,each⟩ := unambiguous_obj.mp clear
      obtain ⟨distinct₁,each₁⟩ := unambiguous_obj.mp clear₁
      obtain ⟨distinct₂,each₂⟩ := unambiguous_obj.mp clear₂
      obtain ⟨distinct₃,each₃⟩ := unambiguous_obj.mp clear₃
      refine (same_entries (unambiguous_obj.mp next).1 (unambiguous_obj.mp next').1).mpr (fun name => ?_)
      have lefts := (same_entries distinct distinct₂).mp left name
      have rights := (same_entries distinct₁ distinct₃).mp right name
      rw [entry_of_combined,entry_of_combined]
      cases here : entry_of fold base name with
      | none =>
        rw [rel_none lefts here]
        exact rights
      | some entry =>
        obtain ⟨entry',here',key,values⟩ := rel_right lefts here
        rw [here']
        cases there : entry_of fold fields name with
        | none =>
          rw [rel_none rights there]
          exact .some ⟨key,values⟩
        | some other =>
          obtain ⟨other',there',_,given⟩ := rel_right rights there
          rw [there']
          exact .some ⟨key,ih entry (entry_of_mem here) (each _ (entry_of_mem here)) (each₁ _ (entry_of_mem there))
            (each₂ _ (entry_of_mem here')) (each₃ _ (entry_of_mem there')) values given⟩
    · have plain := Bool.eq_false_iff.mpr object
      rw [combine_plain (.inr plain),combine_plain (.inr ((same_isDict right).symm.trans plain))]
      exact right
  | _ =>
    intro override base' override' _ _ _ _ left right
    rw [combine_plain (.inl rfl),combine_plain (.inl ((same_isDict left).symm.trans rfl))]
    exact right

end

end V3Aidlc.KeyOrder
