import V3Aidlc.Canonical
import V3Aidlc.Documents
import V3Aidlc.PrefixCodes
import V3Aidlc.Loops

/-!
The canonical text of a document determines it: two documents have one text exactly when they
are the same (`canonicalText_iff`). A value can be told from its text with anything after it
that starts with a stop, by induction on the value.
-/
namespace V3Aidlc.Encodings
open V3Aidlc.Values V3Aidlc.Doubles V3Aidlc.Canonical V3Aidlc.ShortestDecimals V3Aidlc.PrefixCodes
open V3Aidlc.Loops V3Aidlc.Documents

/-! ### Scalars -/

theorem int_text (n : Int) : (toString n).toList = (if n < 0 then ['-'] else []) ++ Nat.toDigits 10 n.natAbs := by
  rw [Int.toString_eq_repr,Int.repr_eq_if]
  by_cases negative : n < 0
  · rw [if_neg (by omega),if_pos negative,String.toList_append,Nat.toList_repr]
    rw [show (-n).toNat = n.natAbs by omega]
    rfl
  · rw [if_pos (by omega),if_neg negative,Nat.toList_repr]
    rw [show n.toNat = n.natAbs by omega]
    rfl

theorem int_numeral (n : Int) : (∀ c ∈ (toString n).toList, c.isDigit = true ∨ c = '-') ∧ (toString n).toList ≠ [] := by
  rw [int_text]
  constructor
  · intro c member
    rcases List.mem_append.mp member with sign | digit
    · split at sign
      · exact Or.inr (List.mem_singleton.mp sign)
      · cases sign
    · exact Or.inl (toDigits_digits _ c digit)
  · intro empty
    exact Nat.toDigits_ne_nil (List.append_eq_nil_iff.mp empty).2

theorem int_injective {m n : Int} (texts : toString m = toString n) : m = n := by
  have characters : (toString m).toList = (toString n).toList := by rw [texts]
  have digit : ∀ k rest, '-' :: rest ≠ Nat.toDigits 10 k := by
    intro k rest equal
    exact absurd (toDigits_digits k '-' (by rw [← equal]; simp)) (by decide)
  have sizes : ∀ {j k : Nat}, Nat.toDigits 10 j = Nat.toDigits 10 k → j = k := by
    intro j k equal
    rw [← spelled_toDigits j,equal,spelled_toDigits]
  rw [int_text,int_text] at characters
  by_cases mNegative : m < 0 <;> by_cases nNegative : n < 0
  · rw [if_pos mNegative,if_pos nNegative] at characters
    have equal := sizes (List.append_cancel_left characters)
    omega
  · rw [if_pos mNegative,if_neg nNegative] at characters
    exact absurd characters (digit _ _)
  · rw [if_neg mNegative,if_pos nNegative] at characters
    exact absurd characters.symm (digit _ _)
  · rw [if_neg mNegative,if_neg nNegative] at characters
    have equal := sizes (List.append_cancel_left characters)
    omega

/-! ### Strings -/

def hexValue (c : Char) : Nat := if c.toNat < 58 then c.toNat - 48 else c.toNat - 87

/-- One character of a string literal, read back. -/
def readChar : List Char → Option (Char × List Char)
  | '\\' :: 'u' :: '0' :: '0' :: high :: low :: rest => some (Char.ofNat (16 * hexValue high + hexValue low),rest)
  | '\\' :: 'n' :: rest => some ('\n',rest)
  | '\\' :: 'r' :: rest => some ('\r',rest)
  | '\\' :: 't' :: rest => some ('\t',rest)
  | '\\' :: 'f' :: rest => some (Char.ofNat 12,rest)
  | '\\' :: 'b' :: rest => some (Char.ofNat 8,rest)
  | '\\' :: c :: rest => some (c,rest)
  | c :: rest => some (c,rest)
  | [] => none

theorem hex_read {n : Nat} (small : n < 32) : 16 * hexValue (hexDigit (n / 16)) + hexValue (hexDigit (n % 16)) = n := by
  have all : ∀ k < 32, 16 * hexValue (hexDigit (k / 16)) + hexValue (hexDigit (k % 16)) = k := by decide
  exact all n small

theorem readChar_escape (c : Char) (rest : List Char) : readChar (escapeChar c ++ rest) = some (c,rest) := by
  unfold escapeChar
  split_ifs with quote backslash newline carriage tab feed back control
  · rw [quote]
    rfl
  · rw [backslash]
    rfl
  · rw [newline]
    rfl
  · rw [carriage]
    rfl
  · rw [tab]
    rfl
  · rw [feed]
    rfl
  · rw [back]
    rfl
  · show some (Char.ofNat (16 * hexValue (hexDigit (c.toNat / 16)) + hexValue (hexDigit (c.toNat % 16))),rest) = _
    rw [hex_read control,Char.ofNat_toNat]
  · show readChar (c :: rest) = _
    unfold readChar
    split <;> simp_all

theorem escape_opens (c : Char) : ∃ d rest, escapeChar c = d :: rest ∧ d ≠ '"' := by
  unfold escapeChar
  split_ifs with quote <;> first
    | exact ⟨_,_,rfl,by decide⟩
    | exact ⟨_,_,rfl,quote⟩

theorem quote_decodes {s t : String} {rest rest' : List Char}
    (texts : (quote s).toList ++ rest = (quote t).toList ++ rest') :
    s = t ∧ rest = rest' := by
  have literal : ∀ u : String, ∀ after, (quote u).toList ++ after =
      '"' :: (u.toList.flatMap escapeChar ++ '"' :: after) := by
    intro u after
    simp [quote]
  rw [literal,literal] at texts
  obtain ⟨characters,rests⟩ := units_decode readChar readChar_escape escape_opens (List.tail_eq_of_cons_eq texts)
  exact ⟨String.toList_inj.mp characters,rests⟩

/-! ### The text of a document -/

def code (v : Json) : List Char := (canonicalText v).toList

def entry (kv : String × Json) : List Char := (quote kv.1).toList ++ ':' :: code kv.2

theorem join_separated {separator : String} {mark : Char} (single : separator.toList = [mark]) (parts : List String) :
    (join separator parts).toList = separated mark (parts.map String.toList) := by
  induction parts with
  | nil => rfl
  | cons part parts ih =>
    cases parts with
    | nil => rfl
    | cons next parts =>
      unfold join
      rw [String.toList_append,String.toList_append,ih,single]
      simp [separated]

theorem dumpsItems_eq (separators : Separators) (items : List Json) :
    dumpsItems separators items = items.map (dumps separators) := by
  induction items with
  | nil => rfl
  | cons v items ih => simp [dumpsItems,ih]

theorem dumpsFields_eq (separators : Separators) (fields : List (String × Json)) :
    dumpsFields separators fields = fields.map (fun kv => (kv.1,dumps separators kv.2)) := by
  induction fields with
  | nil => rfl
  | cons kv fields ih => simp [dumpsFields,ih]

theorem code_arr (items : List Json) (rest : List Char) :
    code (.arr items) ++ rest = '[' :: (separated ',' (items.map code) ++ ']' :: rest) := by
  have text : code (.arr items) = ("[" ++ join compact.item (dumpsItems compact items) ++ "]").toList := by
    unfold code canonicalText
    rw [dumps]
  have single : compact.item.toList = [','] := rfl
  have codes : String.toList ∘ dumps compact = code := rfl
  rw [text,dumpsItems_eq,String.toList_append,String.toList_append,join_separated single,List.map_map,codes]
  simp

theorem code_obj (fields : Dict) (rest : List Char) :
    code (.obj fields) ++ rest = '\x7b' :: (separated ',' ((sortedBy Prod.fst fields).map entry) ++
      '\x7d' :: rest) := by
  have text : code (.obj fields) = ("\x7b" ++ join compact.item ((sortedBy Prod.fst (dumpsFields compact fields)).map
      (fun kv => quote kv.1 ++ compact.key ++ kv.2)) ++ "\x7d").toList := by
    unfold code canonicalText
    rw [dumps]
  have single : compact.item.toList = [','] := rfl
  have sorted : sortedBy Prod.fst (fields.map (fun kv => (kv.1,dumps compact kv.2))) =
      (sortedBy Prod.fst fields).map (fun kv => (kv.1,dumps compact kv.2)) :=
    sorted_map (fun _ => rfl) fields
  have entries : (String.toList ∘ (fun kv : String × String => quote kv.1 ++ compact.key ++ kv.2)) ∘
      (fun kv : String × Json => (kv.1,dumps compact kv.2)) = entry := by
    funext kv
    simp [entry,compact,code,canonicalText]
  rw [text,dumpsFields_eq,sorted,String.toList_append,String.toList_append,join_separated single,List.map_map,
    List.map_map,entries]
  simp

/-! ### The first character -/

inductive Kind where
  | null
  | truth
  | number
  | text
  | list
  | dict
  | mark
  deriving DecidableEq

def kindOf : Json → Kind
  | .null => .null
  | .bool _ => .truth
  | .int _ => .number
  | .float _ => .number
  | .str _ => .text
  | .arr _ => .list
  | .obj _ => .dict

/-- The kind of value that a character starts. -/
def leading (c : Char) : Kind :=
  if c = 'n' then .null
  else if c = 't' ∨ c = 'f' then .truth
  else if c = '"' then .text
  else if c = '[' then .list
  else if c = '\x7b' then .dict
  else if c.isDigit = true ∨ c = '-' then .number
  else .mark

theorem digit_leads {c : Char} (digit : c.isDigit = true ∨ c = '-') : leading c = .number := by
  have other : ∀ d : Char, (d.isDigit = false ∧ d ≠ '-') → c ≠ d := by
    rintro d ⟨plain,sign⟩ rfl
    rcases digit with digit | minus
    · rw [digit] at plain
      cases plain
    · exact sign minus
  unfold leading
  rw [if_neg (other 'n' (by decide)),if_neg (by simp [other 't' (by decide),other 'f' (by decide)]),
    if_neg (other '"' (by decide)),if_neg (other '[' (by decide)),if_neg (other '\x7b' (by decide)),if_pos digit]

theorem code_leads {v : Json} (document : Document v) : ∃ c rest, code v = c :: rest ∧ leading c = kindOf v := by
  cases v with
  | null => exact ⟨'n',_,rfl,rfl⟩
  | bool b => cases b <;> exact ⟨_,_,rfl,rfl⟩
  | int n =>
    obtain ⟨digits,some_digit⟩ := int_numeral n
    obtain ⟨c,rest,text⟩ := List.exists_cons_of_ne_nil some_digit
    have same : code (.int n) = (toString n).toList := by
      unfold code canonicalText
      rw [dumps]
    exact ⟨c,rest,by rw [same,text],digit_leads (digits c (by rw [text]; simp))⟩
  | float x =>
    have same : code (.float x) = x.repr.toList := by
      unfold code canonicalText
      rw [dumps]
    obtain ⟨text,shape,_,signed⟩ := repr_reads (x := x) (by simpa [doubles] using document.2)
    rcases signed with ⟨_,negative⟩ | ⟨_,positive⟩
    · exact ⟨'-',text,by rw [same,negative],rfl⟩
    · obtain ⟨d,rest,head,digit⟩ := shape.leading
      exact ⟨d,rest,by rw [same,positive,head],digit_leads (Or.inl digit)⟩
  | str s =>
    have same : code (.str s) = (quote s).toList := by
      unfold code canonicalText
      rw [dumps]
    exact ⟨'"',s.toList.flatMap escapeChar ++ ['"'],by rw [same]; simp [quote],rfl⟩
  | arr items => exact ⟨'[',_,by rw [← List.append_nil (code _),code_arr],rfl⟩
  | obj fields => exact ⟨'\x7b',_,by rw [← List.append_nil (code _),code_obj],rfl⟩

/-! ### Reading a document -/

def Stop (c : Char) : Prop := c = ',' ∨ c = ']' ∨ c = '\x7d'

theorem comma_stops : Stop ',' := Or.inl rfl
theorem bracket_stops : Stop ']' := Or.inr (Or.inl rfl)
theorem brace_stops : Stop '\x7d' := Or.inr (Or.inr rfl)

/-- The document can be told from its text. -/
def Readable (v : Json) : Prop := Decodes code Stop Document (fun v w => same v w = true) v

theorem numeral_plain {c : Char} (numeral : Numeral c) : ¬Stop c := by
  rintro (rfl | rfl | rfl) <;> rcases numeral with digit | h | h | h | h <;> first | cases digit | cases h

theorem entry_readable {kv : String × Json} (readable : Readable kv.2) :
    Decodes entry Stop (fun kv => Document kv.2) (fun a b => a.1 = b.1 ∧ same a.2 b.2 = true) kv := by
  intro other rest rest' document ends ends' texts
  unfold entry at texts
  rw [List.append_assoc,List.append_assoc] at texts
  obtain ⟨keys,after⟩ := quote_decodes texts
  obtain ⟨values,rests⟩ := readable other.2 rest rest' document ends ends' (List.tail_eq_of_cons_eq after)
  exact ⟨⟨keys,values⟩,rests⟩

theorem int_code (n : Int) : code (.int n) = (toString n).toList := by
  unfold code canonicalText
  rw [dumps]

theorem float_code (x : PyFloat) : code (.float x) = x.repr.toList := by
  unfold code canonicalText
  rw [dumps]

theorem int_plain (n : Int) : ∀ c ∈ code (.int n), Numeral c ∧ c ≠ '.' ∧ c ≠ 'e' := by
  intro c member
  rw [int_code] at member
  rcases (int_numeral n).1 c member with digit | rfl
  · refine ⟨Or.inl digit,?_,?_⟩ <;> rintro rfl <;> cases digit
  · exact ⟨Or.inr (Or.inl rfl),by decide,by decide⟩

theorem same_kind {v w : Json} {rest rest' : List Char} (document : Document v) (document' : Document w)
    (texts : code v ++ rest = code w ++ rest') : kindOf v = kindOf w := by
  obtain ⟨c,left,leftText,leftKind⟩ := code_leads document
  obtain ⟨d,right,rightText,rightKind⟩ := code_leads document'
  rw [leftText,rightText] at texts
  rw [← rightKind,← List.head_eq_of_cons_eq texts,leftKind]

/-- A number is told from the next stop on, and an integer from a float by the marks of the latter. -/
theorem number_readable {v : Json} (number : kindOf v = .number) (document : Document v) : Readable v := by
  have plain : ∀ w, kindOf w = .number → Document w → ∀ c ∈ code w, ¬Stop c := by
    intro w number document c member
    cases w with
    | int n => exact numeral_plain (int_plain n c member).1
    | float x =>
      rw [float_code] at member
      exact numeral_plain ((repr_marked (by simpa [doubles] using document.2)).1 c member)
    | _ => cases number
  have marked : ∀ n x, Document (.float x) → code (.int n) ≠ code (.float x) := by
    intro n x document texts
    obtain ⟨_,_,mark⟩ := repr_marked (x := x) (by simpa [doubles] using document.2)
    rw [← float_code,← texts] at mark
    rcases mark with point | power
    · exact (int_plain n _ point).2.1 rfl
    · exact (int_plain n _ power).2.2 rfl
  intro w rest rest' document' ends ends' texts
  have kinds : kindOf w = .number := (same_kind document document' texts).symm.trans number
  obtain ⟨codes,rests⟩ := plain_decodes (plain v number document) (plain w kinds document') ends ends' texts
  refine ⟨?_,rests⟩
  cases v with
  | int m =>
    cases w with
    | int n =>
      rw [int_code,int_code] at codes
      simpa [same] using int_injective (String.toList_inj.mp codes)
    | float y => exact absurd codes (marked m y document')
    | _ => cases kinds
  | float x =>
    cases w with
    | int n => exact absurd codes.symm (marked n x document)
    | float y =>
      rw [float_code,float_code] at codes
      simpa [same] using repr_injective (by simpa [doubles] using document.2) (by simpa [doubles] using document'.2)
        (String.toList_inj.mp codes)
    | _ => cases kinds
  | _ => cases number

theorem list_readable {items : List Json} (document : Document (.arr items)) (each : ∀ v ∈ items, Readable v) :
    Readable (.arr items) := by
  intro w rest rest' document' ends ends' texts
  have kinds := same_kind document document' texts
  cases w with
  | arr others =>
    rw [code_arr,code_arr] at texts
    have opens : ∀ v, Document v → ∃ c rest, code v = c :: rest ∧ c ≠ ']' := by
      intro v document
      obtain ⟨c,rest,text,kind⟩ := code_leads document
      refine ⟨c,rest,text,?_⟩
      rintro rfl
      cases v <;> cases kind
    obtain ⟨members,rests⟩ := listed_decodes comma_stops bracket_stops (by decide) opens each
      (document_items document) (document_items document') (List.tail_eq_of_cons_eq texts)
    refine ⟨?_,rests⟩
    unfold same
    exact sameItems_iff.mpr members
  | _ => cases kinds

theorem dict_readable {fields : Dict} (document : Document (.obj fields)) (each : ∀ kv ∈ fields, Readable kv.2) :
    Readable (.obj fields) := by
  intro w rest rest' document' ends ends' texts
  have kinds := same_kind document document' texts
  cases w with
  | obj others =>
    rw [code_obj,code_obj] at texts
    have opens : ∀ kv : String × Json, Document kv.2 → ∃ c rest, entry kv = c :: rest ∧ c ≠ '\x7d' := by
      intro kv _
      exact ⟨'"',kv.1.toList.flatMap escapeChar ++ '"' :: ':' :: code kv.2,by simp [entry,quote],by decide⟩
    obtain ⟨distinct,documents⟩ := document_obj.mp document
    obtain ⟨distinct',documents'⟩ := document_obj.mp document'
    obtain ⟨members,rests⟩ := listed_decodes comma_stops brace_stops (by decide) opens
      (fun kv member => entry_readable (each kv (mem_sortedBy.mp member)))
      (fun kv member => documents kv (mem_sortedBy.mp member)) (fun kv member => documents' kv (mem_sortedBy.mp member))
      (List.tail_eq_of_cons_eq texts)
    refine ⟨?_,rests⟩
    have lengths : fields.length = others.length := by
      rw [← (perm_sortedBy Prod.fst fields).length_eq,← (perm_sortedBy Prod.fst others).length_eq]
      exact members.length_eq
    have found : sameFields fields others = true := by
      refine sameFields_iff.mpr (fun kv member => ?_)
      obtain ⟨other,inside,keys,values⟩ := forall₂_left members kv (mem_sortedBy.mpr member)
      refine ⟨other.2,?_,values⟩
      rw [keys]
      exact get?_of_mem distinct' (mem_sortedBy.mp inside)
    simp [same,lengths,found]
  | _ => cases kinds

mutual
/-- Every document can be told from its text. -/
theorem document_readable (v : Json) (document : Document v) : Readable v := by
  cases v with
  | null =>
    intro w rest rest' document' ends ends' texts
    have kinds := same_kind document document' texts
    cases w with
    | null => exact ⟨rfl,List.append_cancel_left texts⟩
    | _ => cases kinds
  | bool a =>
    intro w rest rest' document' ends ends' texts
    have kinds := same_kind document document' texts
    cases w with
    | bool b =>
      cases a <;> cases b
      · exact ⟨rfl,List.append_cancel_left texts⟩
      · exact absurd (List.head_eq_of_cons_eq texts) (by decide)
      · exact absurd (List.head_eq_of_cons_eq texts) (by decide)
      · exact ⟨rfl,List.append_cancel_left texts⟩
    | _ => cases kinds
  | int n => exact number_readable rfl document
  | float x => exact number_readable rfl document
  | str s =>
    intro w rest rest' document' ends ends' texts
    have kinds := same_kind document document' texts
    cases w with
    | str t =>
      obtain ⟨strings,rests⟩ := quote_decodes (s := s) (t := t) texts
      exact ⟨by simpa [same] using strings,rests⟩
    | _ => cases kinds
  | arr items => exact list_readable document (items_readable items (document_items document))
  | obj fields => exact dict_readable document (fields_readable fields (document_obj.mp document).2)
theorem items_readable (items : List Json) (documents : ∀ v ∈ items, Document v) : ∀ v ∈ items, Readable v := by
  cases items with
  | nil => simp
  | cons v items =>
    have first := document_readable v (documents v (by simp))
    have later := items_readable items (fun w member => documents w (by simp [member]))
    simpa using And.intro first later
theorem fields_readable (fields : List (String × Json)) (documents : ∀ kv ∈ fields, Document kv.2) :
    ∀ kv ∈ fields, Readable kv.2 := by
  cases fields with
  | nil => simp
  | cons kv fields =>
    obtain ⟨k,v⟩ := kv
    have first := document_readable v (documents (k,v) (by simp))
    have later := fields_readable fields (fun w member => documents w (by simp [member]))
    intro kv member
    rcases List.mem_cons.mp member with rfl | tail
    · exact first
    · exact later kv tail
end

/-- Documents with one canonical text are the same. -/
theorem same_of_text {v w : Json} (document : Document v) (document' : Document w)
    (texts : canonicalText v = canonicalText w) :
    same v w = true := by
  have characters : code v ++ [] = code w ++ [] := by
    unfold code
    rw [texts]
  exact (document_readable v document w [] [] document' (stops_nil _) (stops_nil _) characters).1

/-! ### Writing a document -/

theorem map_of_keys {fields others : Dict} (keys : fields.keys = others.keys)
    (agree : ∀ a ∈ fields, ∀ b ∈ others, a.1 = b.1 → entry a = entry b) : fields.map entry = others.map entry := by
  induction fields generalizing others with
  | nil => cases others <;> simp_all [Dict.keys]
  | cons a fields ih =>
    cases others with
    | nil => simp [Dict.keys] at keys
    | cons b others =>
      obtain ⟨head,tail⟩ := List.cons_eq_cons.mp keys
      rw [List.map_cons,List.map_cons,agree a (by simp) b (by simp) head]
      rw [ih tail (fun x left y right => agree x (by simp [left]) y (by simp [right]))]

/-- Dicts of the same keys have their entries in the same order. -/
theorem entries_same {fields others : Dict} (distinct : fields.keys.Nodup) (distinct' : others.keys.Nodup)
    (lengths : fields.length = others.length)
    (each : ∀ kv ∈ fields, ∃ w, Dict.get? kv.1 others = some w ∧ code kv.2 = code w) :
    (sortedBy Prod.fst fields).map entry = (sortedBy Prod.fst others).map entry := by
  have inside : fields.keys ⊆ others.keys := by
    intro k member
    obtain ⟨kv,kvMember,rfl⟩ := List.mem_map.mp member
    obtain ⟨w,found,_⟩ := each kv kvMember
    exact List.mem_map.mpr ⟨_,get?_mem found,rfl⟩
  have keys : fields.keys.Perm others.keys := keys_perm distinct lengths inside
  have sorted : ∀ d : Dict, Dict.keys (sortedBy Prod.fst d) = sortedStrings d.keys := by
    intro d
    have swapped : sortedBy id (d.map Prod.fst) = (sortedBy Prod.fst d).map Prod.fst := sorted_map (fun _ => rfl) d
    exact swapped.symm
  refine map_of_keys ?_ ?_
  · rw [sorted,sorted]
    exact sortedStrings_perm keys
  · intro a left b right equal
    obtain ⟨w,found,codes⟩ := each a (mem_sortedBy.mp left)
    have here : Dict.get? b.1 others = some b.2 := get?_of_mem distinct' (mem_sortedBy.mp right)
    rw [equal,here] at found
    unfold entry
    rw [equal,codes,Option.some.inj found]

mutual
/-- The same documents have one canonical text. -/
theorem code_same (v w : Json) (proper : v.proper = true) (proper' : w.proper = true) (equal : same v w = true) :
    code v = code w := by
  cases v with
  | arr items =>
    cases w with
    | arr others =>
      have members := items_same items others (by simpa [Json.proper] using proper)
          (by simpa [Json.proper] using proper')
        (by simpa [same] using equal)
      rw [← List.append_nil (code (.arr items)),← List.append_nil (code (.arr others)),code_arr,code_arr,members]
    | _ => simp [same] at equal
  | obj fields =>
    cases w with
    | obj others =>
      simp only [same,Bool.and_eq_true,decide_eq_true_eq] at equal
      obtain ⟨distinct,each⟩ := proper_obj proper
      obtain ⟨distinct',each'⟩ := proper_obj proper'
      have members := fields_same fields others each each' equal.2
      have entries := entries_same distinct distinct' equal.1 members
      rw [← List.append_nil (code (.obj fields)),← List.append_nil (code (.obj others)),code_obj,code_obj,entries]
    | _ => simp [same] at equal
  | null => cases w <;> simp_all [same]
  | bool a => cases w <;> simp_all [same]
  | int a => cases w <;> simp_all [same]
  | float a => cases w <;> simp_all [same]
  | str a => cases w <;> simp_all [same]
theorem items_same (items others : List Json) (proper : properItems items = true) (proper' : properItems others = true)
    (equal : sameItems items others = true) : items.map code = others.map code := by
  cases items with
  | nil => cases others <;> simp_all [sameItems]
  | cons v items =>
    cases others with
    | nil => simp [sameItems] at equal
    | cons w others =>
      simp only [sameItems,properItems,Bool.and_eq_true] at equal proper proper'
      rw [List.map_cons,List.map_cons,code_same v w proper.1 proper'.1 equal.1,
        items_same items others proper.2 proper'.2 equal.2]
theorem fields_same (fields : List (String × Json)) (others : Dict) (proper : properFields fields = true)
    (proper' : properFields others = true) (equal : sameFields fields others = true) :
    ∀ kv ∈ fields, ∃ w, Dict.get? kv.1 others = some w ∧ code kv.2 = code w := by
  cases fields with
  | nil => simp
  | cons kv fields =>
    obtain ⟨k,v⟩ := kv
    cases found : Dict.get? k others with
    | none => simp [sameFields,found] at equal
    | some w =>
      simp only [sameFields,found,properFields,Bool.and_eq_true] at equal proper
      have here := code_same v w proper.1 (proper_field proper' _ (get?_mem found)) equal.1
      have later := fields_same fields others proper.2 proper' equal.2
      intro kv member
      rcases List.mem_cons.mp member with rfl | tail
      · exact ⟨w,found,here⟩
      · exact later kv tail
end

/-- A document is the same as itself. -/
theorem same_self {v : Json} (document : Document v) : same v v = true := same_of_text document document rfl

/-- Two documents have one canonical text exactly when they are the same. -/
theorem canonicalText_iff {v w : Json} (document : Document v) (document' : Document w) :
    canonicalText v = canonicalText w ↔ same v w = true := by
  constructor
  · exact same_of_text document document'
  · intro equal
    exact String.toList_inj.mp (code_same v w document.1 document'.1 equal)


end V3Aidlc.Encodings
