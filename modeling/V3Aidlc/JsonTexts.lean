import V3Aidlc.Encodings

/-!
Reading JSON (`json.loads`), and that it undoes `json.dumps`: the text that is written for a
document with sorted keys and ASCII escapes reads as the document with its keys in order
(`loads_written`). A text is read from the left with as much fuel as it has characters.
NaN, the infinities and lone surrogates are not values of `Json`, so their texts are not read.
-/
namespace V3Aidlc.JsonTexts
open V3Aidlc.Values V3Aidlc.Doubles V3Aidlc.Canonical V3Aidlc.ShortestDecimals V3Aidlc.Documents
open V3Aidlc.PrefixCodes V3Aidlc.Encodings

/-! ### The reader -/

def blankChar (c : Char) : Bool := c = ' ' || c = '\t' || c = '\n' || c = '\r'

def skipBlank (text : List Char) : List Char := text.dropWhile blankChar

def hexDigit? (c : Char) : Option Nat :=
  if '0' ≤ c ∧ c ≤ '9' then some (c.toNat - 48)
  else if 'a' ≤ c ∧ c ≤ 'f' then some (c.toNat - 87)
  else if 'A' ≤ c ∧ c ≤ 'F' then some (c.toNat - 55)
  else none

/-- Four hexadecimal digits. -/
def readHex : List Char → Option (Nat × List Char)
  | a :: b :: c :: d :: rest => do
    return (4096 * (← hexDigit? a) + 256 * (← hexDigit? b) + 16 * (← hexDigit? c) + (← hexDigit? d),rest)
  | _ => none

/-- The low surrogate after a high one. -/
def readLow (high : Nat) : List Char → Option (Char × List Char)
  | '\\' :: 'u' :: text => do
    let (low,rest) ← readHex text
    if 0xDC00 ≤ low ∧ low ≤ 0xDFFF then
      some (Char.ofNat (0x10000 + (high - 0xD800) * 1024 + (low - 0xDC00)),rest)
    else none
  | _ => none

/-- What follows a backslash. -/
def readEscape : List Char → Option (Char × List Char)
  | '"' :: rest => some ('"',rest)
  | '\\' :: rest => some ('\\',rest)
  | '/' :: rest => some ('/',rest)
  | 'b' :: rest => some (Char.ofNat 8,rest)
  | 'f' :: rest => some (Char.ofNat 12,rest)
  | 'n' :: rest => some ('\n',rest)
  | 'r' :: rest => some ('\r',rest)
  | 't' :: rest => some ('\t',rest)
  | 'u' :: text => do
    let (n,rest) ← readHex text
    if 0xD800 ≤ n ∧ n ≤ 0xDBFF then readLow n rest
    else if 0xDC00 ≤ n ∧ n ≤ 0xDFFF then none
    else some (Char.ofNat n,rest)
  | _ => none

/-- The characters up to the closing quote. -/
def readString : Nat → List Char → Option (List Char × List Char)
  | 0,_ => none
  | _ + 1,[] => none
  | _ + 1,'"' :: rest => some ([],rest)
  | fuel + 1,'\\' :: text => do
    let (c,rest) ← readEscape text
    let (more,last) ← readString fuel rest
    return (c :: more,last)
  | fuel + 1,c :: text =>
    if c.toNat < 32 then none
    else (readString fuel text).map (fun (more,last) => (c :: more,last))

def digitsOf (text : List Char) : List Char := text.takeWhile Char.isDigit
def afterDigits (text : List Char) : List Char := text.dropWhile Char.isDigit

/-- `0|[1-9][0-9]*` -/
def readWhole : List Char → Option (List Char × List Char)
  | '0' :: rest => some (['0'],rest)
  | text => if digitsOf text = [] then none else some (digitsOf text,afterDigits text)

/-- `(\.[0-9]+)?` -/
def readPart : List Char → List Char × List Char
  | '.' :: rest => if digitsOf rest = [] then ([],'.' :: rest) else (digitsOf rest,afterDigits rest)
  | text => ([],text)

/-- `[-+]?` -/
def readSign : List Char → Bool × List Char
  | '-' :: rest => (true,rest)
  | '+' :: rest => (false,rest)
  | text => (false,text)

/-- `([eE][-+]?[0-9]+)?` -/
def readPower : List Char → Option ℤ × List Char
  | [] => (none,[])
  | c :: text =>
    let (negative,digits) := readSign text
    if (c = 'e' ∨ c = 'E') ∧ digitsOf digits ≠ [] then
      (some (if negative then -(spelled (digitsOf digits) : ℤ) else spelled (digitsOf digits)),afterDigits digits)
    else (none,c :: text)

/-- The value of an unsigned number. -/
def sizeOf (whole part : List Char) (power : Option ℤ) : ℚ :=
  spelled (whole ++ part) * 10 ^ (power.getD 0 - part.length)

/-- The double next to a number with this sign. -/
def floatOf (negative : Bool) (size : ℚ) : PyFloat :=
  if negative then (if roundDouble size = 0 then .negZero else .finite (-roundDouble size))
  else .finite (roundDouble size)

/-- `int(text)` or `float(text)` of the parts of a number. -/
def numberOf (negative : Bool) (whole part : List Char) (power : Option ℤ) : Json :=
  if part = [] ∧ power = none then .int (if negative then -(spelled whole : ℤ) else spelled whole)
  else .float (floatOf negative (sizeOf whole part power))

/-- The sign of a number. -/
def readMinus : List Char → Bool × List Char
  | '-' :: rest => (true,rest)
  | text => (false,text)

def readNumber (text : List Char) : Option (Json × List Char) := do
  let (negative,body) := readMinus text
  let (whole,rest) ← readWhole body
  let (part,rest) := readPart rest
  let (power,rest) := readPower rest
  return (numberOf negative whole part power,rest)

mutual
/-- `scan_once`: the value at the start of the text. -/
def readValue : Nat → List Char → Option (Json × List Char)
  | 0,_ => none
  | _ + 1,'n' :: 'u' :: 'l' :: 'l' :: rest => some (.null,rest)
  | _ + 1,'t' :: 'r' :: 'u' :: 'e' :: rest => some (.bool true,rest)
  | _ + 1,'f' :: 'a' :: 'l' :: 's' :: 'e' :: rest => some (.bool false,rest)
  | fuel + 1,'"' :: text => (readString fuel text).map (fun (s,rest) => (.str (String.ofList s),rest))
  | fuel + 1,'[' :: text =>
    match skipBlank text with
    | ']' :: rest => some (.arr [],rest)
    | text => (readItems fuel text).map (fun (items,rest) => (.arr items,rest))
  | fuel + 1,'\x7b' :: text =>
    match skipBlank text with
    | '\x7d' :: rest => some (.obj [],rest)
    | text => (readFields fuel text).map (fun (pairs,rest) => (.obj (Dict.update [] pairs),rest))
  | _ + 1,text => readNumber text
def readItems : Nat → List Char → Option (List Json × List Char)
  | 0,_ => none
  | fuel + 1,text => do
    let (v,rest) ← readValue fuel text
    match skipBlank rest with
    | ']' :: rest => some ([v],rest)
    | ',' :: rest => (readItems fuel (skipBlank rest)).map (fun (items,last) => (v :: items,last))
    | _ => none
def readFields : Nat → List Char → Option (List (String × Json) × List Char)
  | fuel + 1,'"' :: text => do
    let (k,rest) ← readString fuel text
    match skipBlank rest with
    | ':' :: rest => do
      let (v,rest) ← readValue fuel (skipBlank rest)
      match skipBlank rest with
      | '\x7d' :: rest => some ([(String.ofList k,v)],rest)
      | ',' :: rest => (readFields fuel (skipBlank rest)).map (fun (pairs,last) => ((String.ofList k,v) :: pairs,last))
      | _ => none
    | _ => none
  | _,_ => none
end

/-- `json.loads(text)`, where it returns. -/
def loads (text : String) : Option Json := do
  let (v,rest) ← readValue (text.length + 1) (skipBlank text.toList)
  if skipBlank rest = [] then some v else none

/-! ### Strings -/

/-- One character of a literal, with ASCII escapes. -/
def unit (c : Char) : List Char := (escapeChar c).flatMap asciiChar

theorem ascii_plain {c : Char} (plain : c.toNat < 127) : asciiChar c = [c] := by simp [asciiChar,plain]

theorem hexDigit_read {k : Nat} (small : k < 16) : hexDigit? (hexDigit k) = some k := by
  have all : ∀ j < 16, hexDigit? (hexDigit j) = some j := by decide
  exact all k small

theorem hexDigit_plain {k : Nat} (small : k < 16) : asciiChar (hexDigit k) = [hexDigit k] := by
  have all : ∀ j < 16, (hexDigit j).toNat < 127 := by decide
  exact ascii_plain (all k small)

theorem readHex_code {n : Nat} (small : n < 65536) (rest : List Char) :
    readHex ([hexDigit (n / 4096 % 16),hexDigit (n / 256 % 16),hexDigit (n / 16 % 16),hexDigit (n % 16)] ++ rest) =
      some (n,rest) := by
  have value : 4096 * (n / 4096 % 16) + 256 * (n / 256 % 16) + 16 * (n / 16 % 16) + n % 16 = n := by omega
  simp [readHex,hexDigit_read (Nat.mod_lt _ _),value]

theorem scalar_value (c : Char) : c.toNat < 0xD800 ∨ 0xDFFF < c.toNat ∧ c.toNat < 0x110000 := c.valid

/-- An escaped code point is read. -/
theorem readEscape_code {c : Char} (small : c.toNat < 65536) (rest : List Char) :
    readEscape ((hexCode c.toNat).tail ++ rest) = some (c,rest) := by
  have read := readHex_code small rest
  have scalar := scalar_value c
  have high : ¬ (0xD800 ≤ c.toNat ∧ c.toNat ≤ 0xDBFF) := by omega
  have low : ¬ (0xDC00 ≤ c.toNat ∧ c.toNat ≤ 0xDFFF) := by omega
  simp only [hexCode,List.tail_cons,List.cons_append,List.nil_append] at read ⊢
  simp [readEscape,read,high,low,Char.ofNat_toNat]

theorem readEscape_high {high : Nat} (range : 0xD800 ≤ high ∧ high ≤ 0xDBFF) (text : List Char) :
    readEscape ((hexCode high).tail ++ text) = readLow high text := by
  have read := readHex_code (n := high) (by omega) text
  simp only [hexCode,List.tail_cons,List.cons_append,List.nil_append] at read ⊢
  simp [readEscape,read,range]

theorem readLow_code (high : Nat) {low : Nat} (range : 0xDC00 ≤ low ∧ low ≤ 0xDFFF) (rest : List Char) :
    readLow high (hexCode low ++ rest) =
      some (Char.ofNat (0x10000 + (high - 0xD800) * 1024 + (low - 0xDC00)),rest) := by
  have read := readHex_code (n := low) (by omega) rest
  simp only [hexCode,List.cons_append,List.nil_append] at read ⊢
  simp [readLow,read,range]

/-- Two surrogates are read as one character. -/
theorem readEscape_pair {c : Char} (large : 65536 ≤ c.toNat) (rest : List Char) :
    readEscape ((hexCode (0xD800 + (c.toNat - 65536) / 1024)).tail ++
      (hexCode (0xDC00 + (c.toNat - 65536) % 1024) ++ rest)) = some (c,rest) := by
  have scalar := scalar_value c
  obtain ⟨high,highIs⟩ : ∃ high, high = 0xD800 + (c.toNat - 65536) / 1024 := ⟨_,rfl⟩
  obtain ⟨low,lowIs⟩ : ∃ low, low = 0xDC00 + (c.toNat - 65536) % 1024 := ⟨_,rfl⟩
  have value : 0x10000 + (high - 0xD800) * 1024 + (low - 0xDC00) = c.toNat := by omega
  rw [← highIs,← lowIs,readEscape_high (by omega),readLow_code high (by omega),value,Char.ofNat_toNat]

theorem readString_escape {fuel : Nat} {c : Char} {text rest : List Char} (escaped : readEscape text = some (c,rest)) :
    readString (fuel + 1) ('\\' :: text) = (readString fuel rest).map (fun (more,last) => (c :: more,last)) := by
  simp only [readString,escaped,Option.bind_eq_bind,Option.bind_some]
  cases readString fuel rest <;> rfl

theorem readString_unit (fuel : Nat) (c : Char) (rest : List Char) :
    readString (fuel + 1) (unit c ++ rest) = (readString fuel rest).map (fun (more,last) => (c :: more,last)) := by
  unfold unit escapeChar
  split_ifs with quote backslash newline carriage tab feed back control
  · rw [quote]
    exact readString_escape rfl
  · rw [backslash]
    exact readString_escape rfl
  · rw [newline]
    exact readString_escape rfl
  · rw [carriage]
    exact readString_escape rfl
  · rw [tab]
    exact readString_escape rfl
  · rw [feed]
    exact readString_escape rfl
  · rw [back]
    exact readString_escape rfl
  · have code : (['\\','u','0','0',hexDigit (c.toNat / 16),hexDigit (c.toNat % 16)]).flatMap asciiChar =
        hexCode c.toNat := by
      have zero : hexDigit 0 = '0' := rfl
      have thousands : c.toNat / 4096 % 16 = 0 := by omega
      have hundreds : c.toNat / 256 % 16 = 0 := by omega
      have tens : c.toNat / 16 % 16 = c.toNat / 16 := by omega
      simp [hexCode,hexDigit_plain (k := c.toNat / 16) (by omega),hexDigit_plain (k := c.toNat % 16) (by omega),
        ascii_plain,thousands,hundreds,tens,zero]
    rw [code]
    exact readString_escape (readEscape_code (by omega) rest)
  · simp only [List.flatMap_cons,List.flatMap_nil,List.append_nil]
    by_cases plain : c.toNat < 127
    · rw [ascii_plain plain]
      show readString (fuel + 1) (c :: rest) = _
      simp [readString,control]
    · by_cases small : c.toNat < 65536
      · simp only [asciiChar,plain,small,if_true,if_false]
        exact readString_escape (readEscape_code small rest)
      · simp only [asciiChar,plain,small,if_false,List.append_assoc]
        exact readString_escape (readEscape_pair (by omega) rest)

theorem readString_units {fuel : Nat} {s : List Char} (enough : s.length < fuel) (rest : List Char) :
    readString fuel (s.flatMap unit ++ '"' :: rest) = some (s,rest) := by
  induction s generalizing fuel with
  | nil =>
    obtain ⟨n,rfl⟩ : ∃ n, fuel = n + 1 := ⟨fuel - 1,by simp at enough; omega⟩
    rfl
  | cons c s ih =>
    obtain ⟨n,rfl⟩ : ∃ n, fuel = n + 1 := ⟨fuel - 1,by simp at enough; omega⟩
    rw [List.flatMap_cons,List.append_assoc,readString_unit,ih (by simpa using enough)]
    rfl

/-! ### Numbers -/

/-- What follows does not go on with digits. -/
def Ended (rest : List Char) : Prop := Stops (fun c => c.isDigit = false) rest

theorem digits_read {ds rest : List Char} (digits : Digits ds) (ended : Ended rest) :
    digitsOf (ds ++ rest) = ds ∧ afterDigits (ds ++ rest) = rest := by
  unfold digitsOf afterDigits
  rw [List.takeWhile_append_of_pos digits,List.dropWhile_append_of_pos digits]
  cases rest with
  | nil => simp
  | cons c rest =>
    have stop : c.isDigit = false := ended c (by simp)
    simp [stop]

/-- The digits of a positive number do not start with zero. -/
theorem leading_digit {m : Nat} (positive : 0 < m) :
    ∃ d rest, Nat.toDigits 10 m = d :: rest ∧ d.isDigit = true ∧ d ≠ '0' := by
  induction m using Nat.strong_induction_on with
  | _ m ih =>
    by_cases small : m < 10
    · have all : ∀ k < 10, 0 < k → k.digitChar.isDigit = true ∧ k.digitChar ≠ '0' := by decide
      exact ⟨m.digitChar,[],Nat.toDigits_of_lt_base small,all m small positive⟩
    · obtain ⟨d,rest,text,digit,other⟩ := ih (m / 10) (by omega) (by omega)
      rw [Nat.toDigits_of_base_le (by omega) (by omega),text]
      exact ⟨d,_,rfl,digit,other⟩

/-- A whole number as it is written. -/
def Opens (whole : List Char) : Prop := whole = ['0'] ∨ Digits whole ∧ ∃ d ds, whole = d :: ds ∧ d ≠ '0'

theorem opens_digit {whole : List Char} (opens : Opens whole) : ∃ d ds, whole = d :: ds ∧ d.isDigit = true := by
  rcases opens with rfl | ⟨digits,d,ds,rfl,_⟩
  · exact ⟨'0',[],rfl,rfl⟩
  · exact ⟨d,ds,rfl,digits d (by simp)⟩

theorem opens_number (k : Nat) : Opens (Nat.toDigits 10 k) := by
  by_cases zero : k = 0
  · exact .inl (by simp [zero])
  · obtain ⟨d,ds,text,_,other⟩ := leading_digit (Nat.pos_of_ne_zero zero)
    exact .inr ⟨toDigits_digits k,d,ds,text,other⟩

theorem readWhole_opens {whole rest : List Char} (opens : Opens whole) (ended : Ended rest) :
    readWhole (whole ++ rest) = some (whole,rest) := by
  rcases opens with rfl | ⟨digits,d,ds,rfl,other⟩
  · rfl
  · obtain ⟨front,back⟩ := digits_read digits ended
    have plain : readWhole (d :: ds ++ rest) = if digitsOf (d :: ds ++ rest) = [] then none
        else some (digitsOf (d :: ds ++ rest),afterDigits (d :: ds ++ rest)) := by
      unfold readWhole
      split
      · rename_i same
        exact absurd (List.head_eq_of_cons_eq same) other
      · rfl
    rw [plain,front,back]
    simp

theorem readPart_point {ds rest : List Char} (digits : Digits ds) (some_digit : ds ≠ []) (ended : Ended rest) :
    readPart ('.' :: (ds ++ rest)) = (ds,rest) := by
  obtain ⟨front,back⟩ := digits_read digits ended
  simp [readPart,front,back,some_digit]

theorem readPart_none {rest : List Char} (plain : ∀ c ∈ rest.head?, c ≠ '.') : readPart rest = ([],rest) := by
  unfold readPart
  split
  · exact absurd rfl (plain '.' (by simp))
  · rfl

theorem readPower_none {rest : List Char} (plain : ∀ c ∈ rest.head?, c ≠ 'e' ∧ c ≠ 'E') :
    readPower rest = (none,rest) := by
  cases rest with
  | nil => rfl
  | cons c rest =>
    obtain ⟨small,capital⟩ := plain c (by simp)
    simp [readPower,small,capital]

theorem readPower_signed (k : ℤ) (padding : Nat) {rest : List Char} (ended : Ended rest) :
    readPower ('e' :: (if k < 0 then '-' else '+') ::
      (List.replicate padding '0' ++ Nat.toDigits 10 k.natAbs ++ rest)) = (some k,rest) := by
  obtain ⟨front,back⟩ := digits_read (digits_append (zeros_digits padding) (toDigits_digits k.natAbs)) ended
  have some_digit : ¬ List.replicate padding '0' ++ Nat.toDigits 10 k.natAbs = [] :=
    fun empty => Nat.toDigits_ne_nil (List.append_eq_nil_iff.mp empty).2
  have value : spelled (List.replicate padding '0' ++ Nat.toDigits 10 k.natAbs) = k.natAbs := by
    rw [spelled_zeros,spelled_toDigits]
  generalize List.replicate padding '0' ++ Nat.toDigits 10 k.natAbs = ds at front back some_digit value ⊢
  by_cases negative : k < 0
  · simp [readPower,readSign,negative,front,back,some_digit,value,abs_of_neg negative]
  · simp [readPower,readSign,negative,front,back,some_digit,value,abs_of_nonneg (not_lt.mp negative)]

theorem stop_plain {rest : List Char} (ends : Stops Stop rest) :
    Ended rest ∧ (∀ c ∈ rest.head?, c ≠ '.') ∧ ∀ c ∈ rest.head?, c ≠ 'e' ∧ c ≠ 'E' := by
  refine ⟨fun c head => ?_,fun c head => ?_,fun c head => ?_⟩
  all_goals
    rcases ends c head with rfl | rfl | rfl <;> decide

/-- A text whose parts are these reads as the number. -/
theorem readNumber_parts {negative : Bool} {body r r' rest whole part : List Char} {power : Option ℤ} (text : List Char)
    (sign : readMinus text = (negative,body)) (first : readWhole body = some (whole,r))
    (second : readPart r = (part,r')) (third : readPower r' = (power,rest)) :
    readNumber text = some (numberOf negative whole part power,rest) := by
  simp [readNumber,sign,first,second,third]

theorem readMinus_digit {d : Char} {text : List Char} (digit : d.isDigit = true) :
    readMinus (d :: text) = (false,d :: text) := by
  unfold readMinus
  split
  · rename_i same
    obtain ⟨rfl,_⟩ := List.cons.inj same
    cases digit
  · rfl

theorem readNumber_int (n : Int) {rest : List Char} (ends : Stops Stop rest) :
    readNumber ((toString n).toList ++ rest) = some (.int n,rest) := by
  obtain ⟨ended,noPoint,noPower⟩ := stop_plain ends
  have whole := readWhole_opens (opens_number n.natAbs) ended
  rw [int_text]
  by_cases negative : n < 0
  · have read := readNumber_parts ('-' :: (Nat.toDigits 10 n.natAbs ++ rest)) rfl whole
      (readPart_none noPoint) (readPower_none noPower)
    simpa [negative,numberOf,spelled_toDigits,abs_of_neg negative] using read
  · obtain ⟨d,ds,text,digit⟩ := opens_digit (opens_number n.natAbs)
    have minus : readMinus (Nat.toDigits 10 n.natAbs ++ rest) = (false,Nat.toDigits 10 n.natAbs ++ rest) := by
      rw [text]
      exact readMinus_digit digit
    have read := readNumber_parts _ minus whole (readPart_none noPoint) (readPower_none noPower)
    simpa [negative,numberOf,spelled_toDigits,abs_of_nonneg (not_lt.mp negative)] using read

/-- The text reads as an unsigned float of this size. -/
def Spells (text : List Char) (size : ℚ) : Prop :=
  (∃ d ds, text = d :: ds ∧ d.isDigit = true) ∧ ∀ rest, Stops Stop rest → ∃ whole part power r r',
    readWhole (text ++ rest) = some (whole,r) ∧ readPart r = (part,r') ∧ readPower r' = (power,rest) ∧
      (part ≠ [] ∨ power ≠ none) ∧ sizeOf whole part power = size

theorem spells_point {whole part : List Char} (opens : Opens whole) (digits : Digits part) (some_digit : part ≠ []) :
    Spells (whole ++ '.' :: part) (spelled (whole ++ part) * 10 ^ (-(part.length : ℤ))) := by
  refine ⟨?_,fun rest ends => ?_⟩
  · obtain ⟨d,ds,rfl,digit⟩ := opens_digit opens
    exact ⟨d,_,rfl,digit⟩
  · obtain ⟨ended,_,noPower⟩ := stop_plain ends
    have point : Ended ('.' :: (part ++ rest)) := stops_cons.mpr rfl
    refine ⟨whole,part,none,_,rest,?_,readPart_point digits some_digit ended,readPower_none noPower,.inl some_digit,?_⟩
    · rw [List.append_assoc]
      exact readWhole_opens opens point
    · simp [sizeOf]

theorem spells_power {d : Char} {ds : List Char} (k : ℤ) (padding : Nat) (digits : Digits (d :: ds)) (other : d ≠ '0') :
    Spells (d :: ((if ds = [] then [] else '.' :: ds) ++ 'e' :: (if k < 0 then '-' else '+') ::
      (List.replicate padding '0' ++ Nat.toDigits 10 k.natAbs)))
      (spelled (d :: ds) * 10 ^ (k - ds.length)) := by
  have digit : d.isDigit = true := digits d (by simp)
  refine ⟨⟨d,_,rfl,digit⟩,fun rest ends => ?_⟩
  have power := readPower_signed k padding (stop_plain ends).1
  have opens : Opens [d] := .inr ⟨fun c member => by simpa [List.mem_singleton.mp member] using digit,d,[],rfl,other⟩
  have exponent : ∀ text, Ended ('e' :: text) := fun text => stops_cons.mpr rfl
  have size : sizeOf [d] ds (some k) = spelled (d :: ds) * 10 ^ (k - ds.length) := by simp [sizeOf]
  by_cases single : ds = []
  · refine ⟨[d],[],some k,_,_,?_,readPart_none (by simp),power,.inr (by simp),by rw [← size,single]⟩
    simpa [single] using readWhole_opens opens (exponent _)
  · have part : Digits ds := fun c member => digits c (by simp [member])
    refine ⟨[d],ds,some k,_,_,?_,readPart_point part single (exponent _),power,.inl single,size⟩
    simpa [single] using readWhole_opens opens (stops_cons.mpr rfl : Ended ('.' :: _))

/-- The text of a positive decimal spells it. -/
theorem spells_decimal {m : Nat} (positive : 0 < m) (e : ℤ) : Spells (decimalText m e).toList (m * 10 ^ e) := by
  have digits := toDigits_digits m
  have spells := spelled_toDigits m
  obtain ⟨d,ds,block,_,other⟩ := leading_digit positive
  have lengths : (Nat.toDigits 10 m).length = ds.length + 1 := by simp [block]
  rcases decimalText_notations m e with ⟨small,text⟩ | ⟨large,text⟩ | ⟨inside,negative,text⟩ | ⟨padding,text⟩
  · obtain ⟨k,kIs⟩ : ∃ k, (-(((Nat.toDigits 10 m).length : ℤ) + e)).toNat = k := ⟨_,rfl⟩
    have read := spells_point (.inl rfl) (digits_append (zeros_digits k) digits) (by simp [block])
    have zeros : spelled (['0'] ++ (List.replicate k '0' ++ Nat.toDigits 10 m)) = m := by
      rw [← List.replicate_one,spelled_zeros,spelled_zeros,spells]
    have length : -((List.replicate k '0' ++ Nat.toDigits 10 m).length : ℤ) = e := by
      rw [List.length_append,List.length_replicate]
      omega
    rw [zeros,length] at read
    rw [text,kIs]
    exact read
  · have opens : Opens (Nat.toDigits 10 m ++ List.replicate e.toNat '0') :=
      .inr ⟨digits_append digits (zeros_digits _),d,_,by rw [block]; rfl,other⟩
    have read := spells_point opens (zeros_digits 1) (by simp)
    have shift : (10 : ℚ) ^ e.toNat = 10 ^ e := by
      rw [← zpow_natCast,Int.toNat_of_nonneg large]
    rw [spelled_shift,spelled_shift,spells] at read
    push_cast at read
    rw [shift] at read
    rw [text]
    simpa using read
  · obtain ⟨k,kIs⟩ : ∃ k, (((Nat.toDigits 10 m).length : ℤ) + e).toNat = k + 1 :=
      ⟨_,(Nat.succ_pred_eq_of_pos (by omega)).symm⟩
    have front : Digits ((Nat.toDigits 10 m).take (k + 1)) := fun c member => digits c (List.mem_of_mem_take member)
    have back : Digits ((Nat.toDigits 10 m).drop (k + 1)) := fun c member => digits c (List.mem_of_mem_drop member)
    have opens : Opens ((Nat.toDigits 10 m).take (k + 1)) := .inr ⟨front,d,ds.take k,by rw [block]; rfl,other⟩
    have length : -(((Nat.toDigits 10 m).drop (k + 1)).length : ℤ) = e := by
      rw [List.length_drop]
      omega
    have read := spells_point opens back (List.ne_nil_of_length_pos (by omega))
    rw [List.take_append_drop,spells,length] at read
    rw [text,kIs]
    exact read
  · have read := spells_power (((Nat.toDigits 10 m).length : ℤ) + e - 1) padding
      (block ▸ digits) other
    have exponent : ((Nat.toDigits 10 m).length : ℤ) + e - 1 - ds.length = e := by omega
    rw [← block,spells,exponent] at read
    rw [text]
    simpa [block] using read

theorem readNumber_spells {text rest : List Char} {size : ℚ} (spells : Spells text size) (ends : Stops Stop rest)
    (negative : Bool) : readNumber ((if negative then ['-'] else []) ++ text ++ rest) =
      some (.float (floatOf negative size),rest) := by
  obtain ⟨⟨d,ds,rfl,digit⟩,parts⟩ := spells
  obtain ⟨whole,part,power,r,r',first,second,third,marked,rfl⟩ := parts rest ends
  have sign : readMinus ((if negative then ['-'] else []) ++ d :: ds ++ rest) = (negative,d :: ds ++ rest) := by
    cases negative with
    | false => exact readMinus_digit digit
    | true => rfl
  have float : ¬ (part = [] ∧ power = none) := by tauto
  rw [readNumber_parts _ sign first second third,numberOf,if_neg float]

/-- The text of a double is a sign and what spells its size. -/
theorem repr_spells {x : PyFloat} (double : IsDouble x) : ∃ negative text size,
    x.repr.toList = (if negative then ['-'] else []) ++ text ∧ Spells text size ∧ floatOf negative size = x := by
  have zero : Spells ['0','.','0'] 0 := by
    have read := spells_point (.inl rfl) (zeros_digits 1) (by simp)
    have nothing : spelled ['0','0'] = 0 := by decide
    simpa [nothing] using read
  have nothing : roundDouble 0 = 0 := by simp [roundDouble]
  cases x with
  | negZero => exact ⟨true,['0','.','0'],0,rfl,zero,by simp [floatOf,nothing]⟩
  | finite q =>
    by_cases none : q = 0
    · subst none
      exact ⟨false,['0','.','0'],0,by simp [PyFloat.repr],zero,by simp [floatOf,nothing]⟩
    · have size : 0 < |q| := abs_pos.mpr none
      obtain ⟨reads,positive⟩ := written_reads size (size_double double)
      generalize written : stripZeros 17 (shortestFrom |q| 1 16) = d at reads positive
      have text : (PyFloat.finite q).repr = (if q < 0 then "-" else "") ++ decimalText d.1.toNat d.2 := by
        simp only [PyFloat.repr,none,if_false,written]
      have value : (d.1.toNat : ℚ) * 10 ^ d.2 = decimalValue d := by
        unfold decimalValue
        congr 1
        exact_mod_cast Int.toNat_of_nonneg positive.le
      have spells := spells_decimal (m := d.1.toNat) (by omega) d.2
      have rounded : roundDouble ((d.1.toNat : ℚ) * 10 ^ d.2) = |q| := value ▸ reads
      by_cases negative : q < 0
      · refine ⟨true,_,_,by simp [text,negative],spells,?_⟩
        simp [floatOf,rounded,none,abs_of_neg negative]
      · refine ⟨false,_,_,by simp [text,negative],spells,?_⟩
        simp [floatOf,rounded,abs_of_nonneg (not_lt.mp negative)]

/-! ### Documents -/

mutual
/-- The document with the keys of each dict in order. -/
def sorted : Json → Json
  | .arr items => .arr (sortedItems items)
  | .obj fields => .obj (sortedBy Prod.fst (sortedFields fields))
  | v => v
def sortedItems : List Json → List Json
  | [] => []
  | v :: rest => sorted v :: sortedItems rest
def sortedFields : List (String × Json) → List (String × Json)
  | [] => []
  | (k,v) :: rest => (k,sorted v) :: sortedFields rest
end

/-- `json.dumps(value, sort_keys=True)`. -/
def writtenText (v : Json) : String := String.ofList ((dumps standard v).toList.flatMap asciiChar)

def written (v : Json) : List Char := (writtenText v).toList

def literal (s : String) : List Char := '"' :: (s.toList.flatMap unit ++ ['"'])

def field (kv : String × Json) : List Char := literal kv.1 ++ ':' :: ' ' :: written kv.2

/-- Texts with a comma and a blank between each two. -/
def listed : List (List Char) → List Char
  | [] => []
  | [part] => part
  | part :: rest => part ++ ',' :: ' ' :: listed rest

theorem sortedItems_eq (items : List Json) : sortedItems items = items.map sorted := by
  induction items with
  | nil => rfl
  | cons v items ih => simp [sortedItems,ih]

theorem sortedFields_eq (fields : List (String × Json)) :
    sortedFields fields = fields.map (fun kv => (kv.1,sorted kv.2)) := by
  induction fields with
  | nil => rfl
  | cons kv fields ih => simp [sortedFields,ih]

theorem written_eq (v : Json) : written v = (dumps standard v).toList.flatMap asciiChar := by
  simp [written,writtenText]

theorem ascii_mark {c : Char} (plain : c.toNat < 127) (text : List Char) :
    (c :: text).flatMap asciiChar = c :: text.flatMap asciiChar := by
  simp [ascii_plain plain]

theorem quote_ascii (s : String) : (quote s).toList.flatMap asciiChar = literal s := by
  simp [quote,literal,List.flatMap_assoc,ascii_plain]
  rfl

theorem join_ascii (parts : List String) : (join standard.item parts).toList.flatMap asciiChar =
    listed (parts.map (fun part => part.toList.flatMap asciiChar)) := by
  have mark : standard.item.toList.flatMap asciiChar = [',',' '] := by decide
  induction parts with
  | nil => rfl
  | cons part parts ih =>
    cases parts with
    | nil => rfl
    | cons next parts => simp [join,listed,mark,ih]

theorem written_arr (items : List Json) : written (.arr items) = '[' :: (listed (items.map written) ++ [']']) := by
  have each : (fun part : String => part.toList.flatMap asciiChar) ∘ dumps standard = written := by
    funext v
    exact (written_eq v).symm
  rw [written_eq,dumps,dumpsItems_eq]
  simp only [String.toList_append,List.flatMap_append,join_ascii,List.map_map,each]
  simp [ascii_plain]

theorem written_obj (fields : Dict) :
    written (.obj fields) = '\x7b' :: (listed ((sortedBy Prod.fst fields).map field) ++ ['\x7d']) := by
  have order : sortedBy Prod.fst (fields.map (fun kv => (kv.1,dumps standard kv.2))) =
      (sortedBy Prod.fst fields).map (fun kv => (kv.1,dumps standard kv.2)) := sorted_map (fun _ => rfl) fields
  have mark : standard.key.toList.flatMap asciiChar = [':',' '] := by decide
  have each : (fun part : String => part.toList.flatMap asciiChar) ∘
      (fun kv : String × String => quote kv.1 ++ standard.key ++ kv.2) ∘
        (fun kv : String × Json => (kv.1,dumps standard kv.2)) = field := by
    funext kv
    simp [field,quote_ascii,mark,written_eq]
  rw [written_eq,dumps,dumpsFields_eq,order]
  simp only [String.toList_append,List.flatMap_append,join_ascii,List.map_map,each]
  simp [ascii_plain]

/-! ### Reading what was written -/

theorem skipBlank_mark {c : Char} (mark : blankChar c = false) (text : List Char) : skipBlank (c :: text) = c :: text := by
  simp [skipBlank,mark]

theorem skipBlank_space (text : List Char) : skipBlank (' ' :: text) = skipBlank text := rfl

/-- A text that starts with a digit or a minus is a number. -/
theorem readValue_number (fuel : Nat) {c : Char} {text : List Char} (lead : c.isDigit = true ∨ c = '-') :
    readValue (fuel + 1) (c :: text) = readNumber (c :: text) := by
  have other : ∀ d : Char, d.isDigit = false → d ≠ '-' → c ≠ d := by
    rintro d plain noMinus rfl
    rcases lead with digit | minus
    · simp [plain] at digit
    · exact noMinus minus
  rw [readValue]
  all_goals
    intros
    rename_i same
    exact other _ (by decide) (by decide) (List.cons.inj same).1

theorem numeral_ascii {text : List Char} (numeral : ∀ c ∈ text, Numeral c) : text.flatMap asciiChar = text := by
  induction text with
  | nil => rfl
  | cons c text ih =>
    have plain : c.toNat < 127 := by
      rcases numeral c (by simp) with digit | rfl | rfl | rfl | rfl
      · simp only [Char.isDigit,Bool.and_eq_true,decide_eq_true_eq] at digit
        have top : c.toNat ≤ 57 := digit.2
        omega
      all_goals decide
    rw [ascii_mark plain,ih (fun d member => numeral d (by simp [member]))]

/-- A number is written as a text that starts with a digit or a minus and reads as it. -/
theorem number_written {v : Json} (number : kindOf v = .number) (document : Document v) :
    (∃ c rest, written v = c :: rest ∧ (c.isDigit = true ∨ c = '-')) ∧
      ∀ rest, Stops Stop rest → readNumber (written v ++ rest) = some (v,rest) := by
  cases v with
  | int n =>
    have numeral : ∀ c ∈ (toString n).toList, Numeral c := fun c member =>
      ((int_numeral n).1 c member).imp_right .inl
    have text : written (.int n) = (toString n).toList := by rw [written_eq,dumps,numeral_ascii numeral]
    obtain ⟨c,rest,same⟩ := List.exists_cons_of_ne_nil (int_numeral n).2
    rw [text]
    refine ⟨⟨c,rest,same,(int_numeral n).1 c (same ▸ List.mem_cons_self)⟩,fun rest ends => readNumber_int n ends⟩
  | float x =>
    have double : IsDouble x := by simpa [doubles] using document.2
    obtain ⟨negative,body,size,same,spells,rfl⟩ := repr_spells double
    have text : written (.float (floatOf negative size)) = (if negative then ['-'] else []) ++ body := by
      rw [written_eq,dumps,numeral_ascii (repr_marked double).1,same]
    rw [text]
    refine ⟨?_,fun rest ends => readNumber_spells spells ends negative⟩
    obtain ⟨d,ds,rfl,digit⟩ := spells.1
    cases negative with
    | false => exact ⟨d,ds,rfl,.inl digit⟩
    | true => exact ⟨'-',_,rfl,.inr rfl⟩
  | _ => cases number

/-- No value that is written starts with a blank or a closing bracket. -/
theorem written_leads {v : Json} (document : Document v) :
    ∃ c rest, written v = c :: rest ∧ blankChar c = false ∧ c ≠ ']' := by
  have number : kindOf v = .number → ∃ c rest, written v = c :: rest ∧ blankChar c = false ∧ c ≠ ']' := by
    intro kind
    obtain ⟨c,rest,text,lead⟩ := (number_written kind document).1
    refine ⟨c,rest,text,?_,?_⟩
    · by_contra blank
      simp only [blankChar,Bool.not_eq_false,Bool.or_eq_true,decide_eq_true_eq] at blank
      rcases lead with digit | rfl
      · rcases blank with ((rfl | rfl) | rfl) | rfl <;> cases digit
      · rcases blank with ((blank | blank) | blank) | blank <;> cases blank
    · rintro rfl
      rcases lead with digit | minus
      · cases digit
      · cases minus
  cases v with
  | null => exact ⟨'n',_,by rw [written_eq]; rfl,by decide,by decide⟩
  | bool b => cases b <;> exact ⟨_,_,by rw [written_eq]; rfl,by decide,by decide⟩
  | int n => exact number rfl
  | float x => exact number rfl
  | str s => exact ⟨'"',_,by rw [written_eq,dumps,quote_ascii]; rfl,by decide,by decide⟩
  | arr items => exact ⟨'[',_,written_arr items,by decide,by decide⟩
  | obj fields => exact ⟨'\x7b',_,written_obj fields,by decide,by decide⟩

/-- With this much fuel the value is read from its text, up to what follows. -/
def ReadBack (v : Json) : Prop :=
  ∀ fuel rest, (written v).length < fuel → Stops Stop rest → readValue fuel (written v ++ rest) = some (sorted v,rest)

theorem number_readBack {v : Json} (number : kindOf v = .number) (document : Document v) : ReadBack v := by
  intro fuel rest enough ends
  obtain ⟨⟨c,text,same,lead⟩,read⟩ := number_written number document
  obtain ⟨n,rfl⟩ : ∃ n, fuel = n + 1 := ⟨fuel - 1,by omega⟩
  have plain : sorted v = v := by cases v <;> first | rfl | cases number
  have value := read rest ends
  rw [same] at value ⊢
  rw [plain,← value]
  exact readValue_number n lead

theorem units_length (s : List Char) : s.length ≤ (s.flatMap unit).length := by
  have each : ∀ c, 1 ≤ (unit c).length := by
    intro c
    obtain ⟨d,rest,text,_⟩ := escape_opens c
    have first : 1 ≤ (asciiChar d).length := by
      unfold asciiChar hexCode
      split_ifs <;> simp
    simp only [unit,text,List.flatMap_cons,List.length_append]
    omega
  induction s with
  | nil => simp
  | cons c s ih =>
    have here := each c
    simp only [List.flatMap_cons,List.length_append,List.length_cons]
    omega

theorem readString_literal (fuel : Nat) {s : String} (enough : (literal s).length ≤ fuel + 1) (rest : List Char) :
    readString fuel (s.toList.flatMap unit ++ '"' :: rest) = some (s.toList,rest) := by
  have longer := units_length s.toList
  simp only [literal,List.length_cons,List.length_append,List.length_nil] at enough
  exact readString_units (by omega) rest

theorem listed_cons (part : List Char) {parts : List (List Char)} (more : parts ≠ []) :
    listed (part :: parts) = part ++ ',' :: ' ' :: listed parts := by
  cases parts with
  | nil => exact absurd rfl more
  | cons next parts => rfl

/-- A list of values is read, up to its closing bracket. -/
theorem readItems_listed {items : List Json} (filled : items ≠ []) (documents : ∀ v ∈ items, Document v)
    (each : ∀ v ∈ items, ReadBack v) (fuel : Nat) (enough : (listed (items.map written)).length + 1 < fuel)
    (rest : List Char) :
    readItems fuel (listed (items.map written) ++ ']' :: rest) = some (items.map sorted,rest) := by
  induction items generalizing fuel with
  | nil => exact absurd rfl filled
  | cons v items ih =>
    obtain ⟨n,rfl⟩ : ∃ n, fuel = n + 1 := ⟨fuel - 1,by omega⟩
    have close : blankChar ']' = false := by decide
    have comma : blankChar ',' = false := by decide
    by_cases last : items = []
    · subst last
      have read := each v (by simp) n (']' :: rest) (by simpa [listed] using enough) (stops_cons.mpr bracket_stops)
      simp only [List.map_cons,List.map_nil,listed,readItems]
      simp [read,skipBlank_mark close]
    · have more : items.map written ≠ [] := by simpa using last
      have text : listed ((v :: items).map written) = written v ++ ',' :: ' ' :: listed (items.map written) :=
        listed_cons _ more
      rw [text] at enough ⊢
      simp only [List.length_append,List.length_cons] at enough
      have read := each v (by simp) n (',' :: ' ' :: (listed (items.map written) ++ ']' :: rest)) (by omega)
        (stops_cons.mpr comma_stops)
      have later := ih last (fun w member => documents w (by simp [member])) (fun w member => each w (by simp [member]))
        n (by omega)
      have opens : skipBlank (listed (items.map written) ++ ']' :: rest) =
          listed (items.map written) ++ ']' :: rest := by
        obtain ⟨w,others,rfl⟩ := List.exists_cons_of_ne_nil last
        obtain ⟨c,tail,same,blank,_⟩ := written_leads (documents w (by simp))
        have first : ∃ tail, listed ((w :: others).map written) = c :: tail := by
          cases others with
          | nil => exact ⟨tail,same⟩
          | cons => exact ⟨_,by rw [List.map_cons,listed_cons _ (by simp),same]; rfl⟩
        obtain ⟨tail,same⟩ := first
        rw [same]
        exact skipBlank_mark blank _
      rw [List.append_assoc,readItems]
      simp only [List.cons_append,read,Option.bind_eq_bind,Option.bind_some,skipBlank_mark comma,skipBlank_space,opens,
        later]
      rfl

/-- The key and the value of a field are read, up to what follows. -/
theorem readFields_field {kv : String × Json} (readBack : ReadBack kv.2) (document : Document kv.2) (fuel : Nat)
    (enough : (field kv).length < fuel) (rest : List Char) (ends : Stops Stop rest) :
    readFields (fuel + 1) (field kv ++ rest) =
      match skipBlank rest with
      | '\x7d' :: rest => some ([(kv.1,sorted kv.2)],rest)
      | ',' :: rest => (readFields fuel (skipBlank rest)).map (fun (pairs,last) => ((kv.1,sorted kv.2) :: pairs,last))
      | _ => none := by
  obtain ⟨k,v⟩ := kv
  simp only [field,List.length_append,List.length_cons] at enough
  have name := readString_literal fuel (s := k) (by omega) (':' :: ' ' :: (written v ++ rest))
  have value := readBack fuel rest (show (written v).length < fuel by omega) ends
  have colon : blankChar ':' = false := by decide
  have opens : skipBlank (written v ++ rest) = written v ++ rest := by
    obtain ⟨c,tail,same,blank,_⟩ := written_leads document
    rw [same]
    exact skipBlank_mark blank _
  have text : field (k,v) ++ rest =
      '"' :: (k.toList.flatMap unit ++ '"' :: ':' :: ' ' :: (written v ++ rest)) := by simp [field,literal]
  rw [text,readFields]
  simp only [name,Option.bind_eq_bind,Option.bind_some,skipBlank_mark colon,skipBlank_space,opens,value,
    String.ofList_toList]

/-- The fields of a dict are read, up to its closing brace. -/
theorem readFields_listed {fields : Dict} (filled : fields ≠ []) (documents : ∀ kv ∈ fields, Document kv.2)
    (each : ∀ kv ∈ fields, ReadBack kv.2) (fuel : Nat) (enough : (listed (fields.map field)).length + 1 < fuel)
    (rest : List Char) : readFields fuel (listed (fields.map field) ++ '\x7d' :: rest) =
      some (fields.map (fun kv => (kv.1,sorted kv.2)),rest) := by
  induction fields generalizing fuel with
  | nil => exact absurd rfl filled
  | cons kv fields ih =>
    obtain ⟨n,rfl⟩ : ∃ n, fuel = n + 1 := ⟨fuel - 1,by omega⟩
    have close : blankChar '\x7d' = false := by decide
    have comma : blankChar ',' = false := by decide
    by_cases last : fields = []
    · subst last
      have read := readFields_field (each kv (by simp)) (documents kv (by simp)) n (by simpa [listed] using enough)
        ('\x7d' :: rest) (stops_cons.mpr brace_stops)
      simpa [listed,skipBlank_mark close] using read
    · have more : fields.map field ≠ [] := by simpa using last
      have text : listed ((kv :: fields).map field) = field kv ++ ',' :: ' ' :: listed (fields.map field) :=
        listed_cons _ more
      rw [text] at enough ⊢
      simp only [List.length_append,List.length_cons] at enough
      have read := readFields_field (each kv (by simp)) (documents kv (by simp)) n (by omega)
        (',' :: ' ' :: (listed (fields.map field) ++ '\x7d' :: rest)) (stops_cons.mpr comma_stops)
      have later := ih last (fun w member => documents w (by simp [member])) (fun w member => each w (by simp [member]))
        n (by omega)
      have opens : skipBlank (listed (fields.map field) ++ '\x7d' :: rest) =
          listed (fields.map field) ++ '\x7d' :: rest := by
        obtain ⟨w,others,rfl⟩ := List.exists_cons_of_ne_nil last
        have first : ∃ tail, listed ((w :: others).map field) = '"' :: tail := by
          cases others with
          | nil => exact ⟨_,rfl⟩
          | cons => exact ⟨_,by rw [List.map_cons,listed_cons _ (by simp)]; rfl⟩
        obtain ⟨tail,same⟩ := first
        rw [same]
        exact skipBlank_mark (by decide) _
      rw [List.append_assoc]
      simp only [List.cons_append,read,skipBlank_mark comma,skipBlank_space,opens,later]
      rfl

theorem update_fresh {pairs d : Dict} (distinct : (d ++ pairs).keys.Nodup) : Dict.update d pairs = d ++ pairs := by
  induction pairs generalizing d with
  | nil => simp [Dict.update]
  | cons kv pairs ih =>
    obtain ⟨k,v⟩ := kv
    have fresh : ∀ {e : Dict}, k ∉ e.keys → e.set k v = e ++ [(k,v)] := by
      intro e
      induction e with
      | nil => intro _; rfl
      | cons first e later =>
        intro absent
        simp only [Dict.keys,List.map_cons,List.mem_cons,not_or] at absent
        simp [Dict.set,Ne.symm absent.1,later absent.2]
    have absent : k ∉ d.keys := by
      simp only [Dict.keys,List.map_append,List.map_cons,List.nodup_append] at distinct
      exact fun member => distinct.2.2 k member k (by simp) rfl
    have split : d ++ (k,v) :: pairs = (d ++ [(k,v)]) ++ pairs := by simp
    rw [split] at distinct ⊢
    rw [← ih distinct,← fresh absent]
    rfl

theorem list_readBack {items : List Json} (documents : ∀ v ∈ items, Document v) (each : ∀ v ∈ items, ReadBack v) :
    ReadBack (.arr items) := by
  intro fuel rest enough ends
  rw [written_arr] at enough ⊢
  simp only [List.length_cons,List.length_append,List.length_nil] at enough
  obtain ⟨n,rfl⟩ : ∃ n, fuel = n + 1 := ⟨fuel - 1,by omega⟩
  have close : blankChar ']' = false := by decide
  by_cases empty : items = []
  · subst empty
    simp [readValue,listed,skipBlank_mark close,sorted,sortedItems]
  · have read := readItems_listed empty documents each n (by omega) rest
    have opens : ∃ c tail, listed (items.map written) ++ ']' :: rest = c :: tail ∧ blankChar c = false ∧ c ≠ ']' := by
      obtain ⟨w,others,rfl⟩ := List.exists_cons_of_ne_nil empty
      obtain ⟨c,tail,same,blank,other⟩ := written_leads (documents w (by simp))
      cases others with
      | nil => exact ⟨c,_,by simp only [List.map_cons,List.map_nil,listed,same]; rfl,blank,other⟩
      | cons => exact ⟨c,_,by rw [List.map_cons,listed_cons _ (by simp),same]; rfl,blank,other⟩
    obtain ⟨c,tail,same,blank,other⟩ := opens
    rw [List.cons_append,List.append_assoc,List.singleton_append,readValue,sorted,sortedItems_eq]
    simp only [same,skipBlank_mark blank] at read ⊢
    split
    · rename_i closed
      exact absurd (List.head_eq_of_cons_eq closed) other
    · rw [read]
      rfl

theorem dict_readBack {fields : Dict} (document : Document (.obj fields)) (each : ∀ kv ∈ fields, ReadBack kv.2) :
    ReadBack (.obj fields) := by
  intro fuel rest enough ends
  obtain ⟨distinct,documents⟩ := document_obj.mp document
  rw [written_obj] at enough ⊢
  simp only [List.length_cons,List.length_append,List.length_nil] at enough
  obtain ⟨n,rfl⟩ : ∃ n, fuel = n + 1 := ⟨fuel - 1,by omega⟩
  have close : blankChar '\x7d' = false := by decide
  have order : sortedBy Prod.fst (sortedFields fields) =
      (sortedBy Prod.fst fields).map (fun kv => (kv.1,sorted kv.2)) := by
    rw [sortedFields_eq]
    exact sorted_map (fun _ => rfl) fields
  by_cases empty : fields = []
  · subst empty
    simp [readValue,listed,skipBlank_mark close,sorted,sortedFields,sortedBy]
  · have more : sortedBy Prod.fst fields ≠ [] := by
      intro none
      exact empty (List.Perm.nil_eq (none ▸ perm_sortedBy Prod.fst fields)).symm
    have read := readFields_listed more (fun kv member => documents kv (mem_sortedBy.mp member))
      (fun kv member => each kv (mem_sortedBy.mp member)) n (by omega) rest
    have opens : ∃ tail, listed ((sortedBy Prod.fst fields).map field) ++ '\x7d' :: rest = '"' :: tail := by
      obtain ⟨w,others,same⟩ := List.exists_cons_of_ne_nil more
      rw [same]
      cases others with
      | nil => exact ⟨_,rfl⟩
      | cons => exact ⟨_,by rw [List.map_cons,listed_cons _ (by simp)]; rfl⟩
    have apart : Dict.keys ((sortedBy Prod.fst fields).map (fun kv => (kv.1,sorted kv.2))) |>.Nodup := by
      have same : Dict.keys ((sortedBy Prod.fst fields).map (fun kv => (kv.1,sorted kv.2))) =
          (sortedBy Prod.fst fields).map Prod.fst := by simp [Dict.keys]
      rw [same]
      exact ((perm_sortedBy Prod.fst fields).map Prod.fst).nodup_iff.mpr distinct
    obtain ⟨tail,same⟩ := opens
    have quoteMark : blankChar '"' = false := by decide
    rw [List.cons_append,List.append_assoc,List.singleton_append,readValue,sorted,order]
    simp only [same,skipBlank_mark quoteMark] at read ⊢
    split
    · rename_i closed
      cases List.head_eq_of_cons_eq closed
    · rw [read]
      simp [update_fresh (d := []) apart]

mutual
/-- Every document is read back from its text, with its keys in order. -/
theorem document_readBack (v : Json) (document : Document v) : ReadBack v := by
  cases v with
  | null =>
    intro fuel rest enough ends
    obtain ⟨n,rfl⟩ : ∃ n, fuel = n + 1 := ⟨fuel - 1,by omega⟩
    have text : written .null = ['n','u','l','l'] := by rw [written_eq]; rfl
    simp [text,readValue,sorted]
  | bool b =>
    intro fuel rest enough ends
    obtain ⟨n,rfl⟩ : ∃ n, fuel = n + 1 := ⟨fuel - 1,by omega⟩
    cases b with
    | false =>
      have text : written (.bool false) = ['f','a','l','s','e'] := by rw [written_eq]; rfl
      simp [text,readValue,sorted]
    | true =>
      have text : written (.bool true) = ['t','r','u','e'] := by rw [written_eq]; rfl
      simp [text,readValue,sorted]
  | int n => exact number_readBack rfl document
  | float x => exact number_readBack rfl document
  | str s =>
    intro fuel rest enough ends
    obtain ⟨n,rfl⟩ : ∃ n, fuel = n + 1 := ⟨fuel - 1,by omega⟩
    have text : written (.str s) = literal s := by rw [written_eq,dumps,quote_ascii]
    have read := readString_literal n (s := s) (by rw [← text]; omega) rest
    rw [text,literal,List.cons_append,List.append_assoc,List.singleton_append,readValue,read]
    simp [sorted]
  | arr items => exact list_readBack (document_items document) (items_readBack items (document_items document))
  | obj fields => exact dict_readBack document (fields_readBack fields (document_obj.mp document).2)
theorem items_readBack (items : List Json) (documents : ∀ v ∈ items, Document v) : ∀ v ∈ items, ReadBack v := by
  cases items with
  | nil => simp
  | cons v items =>
    have first := document_readBack v (documents v (by simp))
    have later := items_readBack items (fun w member => documents w (by simp [member]))
    simpa using And.intro first later
theorem fields_readBack (fields : List (String × Json)) (documents : ∀ kv ∈ fields, Document kv.2) :
    ∀ kv ∈ fields, ReadBack kv.2 := by
  cases fields with
  | nil => simp
  | cons kv fields =>
    obtain ⟨k,v⟩ := kv
    have first := document_readBack v (documents (k,v) (by simp))
    have later := fields_readBack fields (fun w member => documents w (by simp [member]))
    intro kv member
    rcases List.mem_cons.mp member with rfl | tail
    · exact first
    · exact later kv tail
end

/-- `json.loads` undoes `json.dumps`, up to the order of keys. -/
theorem loads_written {v : Json} (document : Document v) : loads (writtenText v) = some (sorted v) := by
  obtain ⟨c,rest,same,blank,_⟩ := written_leads document
  have read := document_readBack v document ((writtenText v).length + 1) [] (by simp [written,String.length_toList])
    (stops_nil _)
  have opens : skipBlank (writtenText v).toList = written v := by
    show skipBlank (written v) = written v
    rw [same]
    exact skipBlank_mark blank rest
  rw [List.append_nil] at read
  simp only [loads,opens,read,Option.bind_eq_bind,Option.bind_some]
  rfl

end V3Aidlc.JsonTexts
