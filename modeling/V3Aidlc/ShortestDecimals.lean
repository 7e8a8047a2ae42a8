import V3Aidlc.Doubles

/-!
The text of a double determines it. Seventeen digits are enough for a decimal to read back
as the double next to it (`shortestFrom_reads`), the text of a decimal reads as its value
(`read_decimalText`), and so no two doubles have one text (`repr_injective`).
-/
namespace V3Aidlc.ShortestDecimals
open V3Aidlc.Doubles

/-! ### Rounding to a near double -/

theorem roundHalfEven_near {x : ℚ} {n : ℤ} (near : |x - n| < 1/2) : roundHalfEven x = n := by
  obtain ⟨low,high⟩ := roundHalfEven_bounds x
  obtain ⟨above,below⟩ := abs_lt.mp near
  have less : (roundHalfEven x : ℚ) < n + 1 := by linarith
  have more : (n : ℚ) < roundHalfEven x + 1 := by linarith
  have less : roundHalfEven x < n + 1 := by exact_mod_cast less
  have more : n < roundHalfEven x + 1 := by exact_mod_cast more
  omega

theorem unit_pos (e : ℤ) : (0 : ℚ) < 2 ^ e := zpow_pos (by norm_num) e

theorem ulpExponent_eq {r : ℚ} {k : ℤ} (low : (2 : ℚ) ^ k ≤ r) (high : r < 2 ^ (k + 1)) : ulpExponent r = k - 52 := by
  have pos : 0 < r := (unit_pos k).trans_le low
  have atLeast : k ≤ Int.log 2 r := (Int.zpow_le_iff_le_log Nat.one_lt_two pos).mp (by exact_mod_cast low)
  have below : Int.log 2 r < k + 1 := (Int.lt_zpow_iff_log_lt Nat.one_lt_two pos).mp (by exact_mod_cast high)
  unfold ulpExponent
  omega

/-- A value nearer than half a unit in the last place to a multiple of it rounds to that. -/
theorem roundPositive_near {r : ℚ} {n e : ℤ} (unit : ulpExponent r = e) (near : |r - n * 2 ^ e| < 2 ^ e / 2) :
    roundPositive r = n * 2 ^ e := by
  have pos := unit_pos e
  have scaled : |r / 2 ^ e - n| < 1/2 := by
    have same : r / 2 ^ e - n = (r - n * 2 ^ e) / 2 ^ e := by field_simp
    rw [same,abs_div,abs_of_pos pos,div_lt_iff₀ pos]
    linarith
  unfold roundPositive
  rw [unit,roundHalfEven_near scaled]

/-- A positive double is a whole number of its units, of 53 bits. -/
theorem double_units {q : ℚ} (pos : 0 < q) (double : roundDouble q = q) :
    ∃ n : ℤ, q = n * 2 ^ ulpExponent q ∧ 2 ^ 52 ≤ n ∧ n < 2 ^ 53 := by
  have positive : roundPositive q = q := by
    unfold roundDouble at double
    rwa [if_neg pos.ne',if_pos pos] at double
  have unit := unit_pos (ulpExponent q)
  set n := roundHalfEven (q / 2 ^ ulpExponent q) with nIs
  have same : q = n * 2 ^ ulpExponent q := positive.symm
  have quotient : q / 2 ^ ulpExponent q = n := by
    rw [div_eq_iff unit.ne']
    exact same
  have large := mantissa_large pos
  rw [quotient] at large
  have top : q < 2 ^ (Int.log 2 q + 1) := by exact_mod_cast Int.lt_zpow_succ_log_self Nat.one_lt_two q
  have split : (2 : ℚ) ^ (Int.log 2 q + 1) = 2 ^ (53 : ℤ) * 2 ^ ulpExponent q := by
    rw [← zpow_add₀ (by norm_num)]
    congr 1
    unfold ulpExponent
    omega
  have small : (n : ℚ) < 2 ^ (53 : ℤ) := by
    rw [split] at top
    rw [← quotient]
    exact (div_lt_iff₀ unit).mpr top
  refine ⟨n,same,?_,?_⟩
  · exact_mod_cast large
  · exact_mod_cast small

/-- A value within one part in `2 * 10^16` of a positive double rounds to it. -/
theorem roundPositive_double {q r : ℚ} (pos : 0 < q) (double : roundDouble q = q) (near : |r - q| * (2 * 10 ^ 16) ≤ q) :
    0 < r ∧ roundPositive r = q := by
  obtain ⟨n,units,low,high⟩ := double_units pos double
  set e := ulpExponent q with eIs
  have unit := unit_pos e
  have lowQ : (2 : ℚ) ^ 52 ≤ n := by exact_mod_cast low
  have highQ : (n : ℚ) ≤ 2 ^ 53 - 1 := by
    have less : n ≤ 2 ^ 53 - 1 := by omega
    exact_mod_cast less
  have close : |r - q| < 2 ^ e / 2 := by nlinarith
  obtain ⟨above,below⟩ := abs_lt.mp close
  have first : (2 : ℚ) ^ (e + 52) = 2 ^ 52 * 2 ^ e := by
    rw [zpow_add₀ (by norm_num)]
    norm_num
    ring
  have next : (2 : ℚ) ^ (e + 52 + 1) = 2 ^ 53 * 2 ^ e := by
    rw [zpow_add₀ (by norm_num),first]
    norm_num
    ring
  have positive : 0 < r := by nlinarith
  refine ⟨positive,?_⟩
  by_cases same : (2 : ℚ) ^ (e + 52) ≤ r
  · have top : r < 2 ^ (e + 52 + 1) := by
      rw [next]
      nlinarith
    have exponent : ulpExponent r = e := by
      rw [ulpExponent_eq same top]
      omega
    rw [units]
    exact roundPositive_near exponent (by rw [← units]; exact close)
  · -- Below a power of two the last place is worth half as much.
    have lower := not_le.mp same
    rw [first] at lower
    have least : n = 2 ^ 52 := by
      have small : (n : ℚ) * 2 ^ e < (2 ^ 52 + 1) * 2 ^ e := by nlinarith
      have small : (n : ℚ) < 2 ^ 52 + 1 := lt_of_mul_lt_mul_right small unit.le
      have small : n < 2 ^ 52 + 1 := by exact_mod_cast small
      omega
    have half : (2 : ℚ) ^ e = 2 * 2 ^ (e - 1) := by
      rw [zpow_sub₀ (by norm_num)]
      norm_num
      ring
    have whole : q = (2 ^ 53 : ℤ) * 2 ^ (e - 1) := by
      rw [units,least,half]
      push_cast
      ring
    have bottom : (2 : ℚ) ^ (e + 51) ≤ r := by
      have split : (2 : ℚ) ^ (e + 51) = 2 ^ 51 * 2 ^ e := by
        rw [zpow_add₀ (by norm_num)]
        norm_num
        ring
      rw [split]
      nlinarith
    have exponent : ulpExponent r = e - 1 := by
      rw [ulpExponent_eq bottom (by rw [show e + 51 + 1 = e + 52 by ring]; exact not_le.mp same)]
      omega
    rw [whole]
    refine roundPositive_near exponent ?_
    rw [← whole]
    have size : q = 2 ^ 53 * 2 ^ (e - 1) := by
      rw [whole]
      push_cast
      rfl
    have unit := unit_pos (e - 1)
    nlinarith

/-! ### The search -/

/-- The value of a digit block with its exponent. -/
def decimalValue (d : ℤ × ℤ) : ℚ := d.1 * 10 ^ d.2

def Reads (q : ℚ) (d : ℤ × ℤ) : Prop := roundDouble (decimalValue d) = q

theorem seventeen_digits {q : ℚ} (pos : 0 < q) (double : roundDouble q = q) :
    Reads q (((nearDecimals q 17).head?).getD (0,0)) := by
  set exponent := Int.log 10 q - 16 with exponentIs
  have unit : (0 : ℚ) < 10 ^ exponent := zpow_pos (by norm_num) _
  have head : ((nearDecimals q 17).head?).getD (0,0) = (roundHalfEven (q / 10 ^ exponent),exponent) := rfl
  obtain ⟨low,high⟩ := roundHalfEven_bounds (q / 10 ^ exponent)
  have error : |roundHalfEven (q / 10 ^ exponent) * 10 ^ exponent - q| ≤ 10 ^ exponent / 2 := by
    have back : q / 10 ^ exponent * 10 ^ exponent = q := div_mul_cancel₀ q unit.ne'
    rw [abs_le]
    constructor <;> nlinarith
  have size : (10 : ℚ) ^ exponent * 10 ^ 16 ≤ q := by
    have first : ((10 : ℕ) : ℚ) ^ Int.log 10 q ≤ q := Int.zpow_log_le_self (by norm_num) pos
    have split : (10 : ℚ) ^ exponent * 10 ^ 16 = 10 ^ Int.log 10 q := by
      rw [exponentIs,zpow_sub₀ (by norm_num)]
      norm_num
    rw [split]
    exact_mod_cast first
  have near : |roundHalfEven (q / 10 ^ exponent) * 10 ^ exponent - q| * (2 * 10 ^ 16) ≤ q := by nlinarith
  obtain ⟨positive,rounds⟩ := roundPositive_double pos double near
  unfold Reads decimalValue roundDouble
  rw [head]
  dsimp only
  rw [if_neg positive.ne',if_pos positive]
  exact rounds

/-- The search ends at a decimal that reads back when the last candidate does. -/
theorem shortestFrom_reads {q : ℚ} {digits fuel : Nat}
    (last : Reads q (((nearDecimals q (digits + fuel)).head?).getD (0,0))) :
    Reads q (shortestFrom q digits fuel) := by
  induction fuel generalizing digits with
  | zero => exact last
  | succ fuel ih =>
    unfold shortestFrom
    split
    · rename_i d found
      simpa [Reads,decimalValue] using List.find?_some found
    · exact ih (by rw [show digits + 1 + fuel = digits + (fuel + 1) by omega]; exact last)

theorem stripZeros_value (fuel : Nat) (d : ℤ × ℤ) : decimalValue (stripZeros fuel d) = decimalValue d := by
  induction fuel generalizing d with
  | zero => rfl
  | succ fuel ih =>
    obtain ⟨m,e⟩ := d
    unfold stripZeros
    split
    · rename_i divides
      rw [ih]
      have whole : (m : ℚ) = (m / 10 : ℤ) * 10 := by
        have exact_division : m = m / 10 * 10 := by omega
        exact_mod_cast exact_division
      unfold decimalValue
      dsimp only
      rw [whole,zpow_add₀ (by norm_num)]
      norm_num
      ring
    · rfl

theorem reads_positive {q : ℚ} (pos : 0 < q) {d : ℤ × ℤ} (reads : Reads q d) : 0 < d.1 := by
  unfold Reads at reads
  have unit : (0 : ℚ) < 10 ^ d.2 := zpow_pos (by norm_num) _
  by_contra not_positive
  have small : decimalValue d ≤ 0 := by
    unfold decimalValue
    have block : (d.1 : ℚ) ≤ 0 := by exact_mod_cast not_lt.mp not_positive
    nlinarith
  rcases small.lt_or_eq with negative | zero
  · have rounded := roundDouble_neg_iff.mpr negative
    rw [reads] at rounded
    exact absurd pos (not_lt.mpr rounded.le)
  · rw [zero] at reads
    simp [roundDouble] at reads
    exact absurd reads.symm pos.ne'

/-- The digit block and the exponent that a positive double is written with. -/
theorem written_reads {q : ℚ} (pos : 0 < q) (double : roundDouble q = q) :
    Reads q (stripZeros 17 (shortestFrom q 1 16)) ∧ 0 < (stripZeros 17 (shortestFrom q 1 16)).1 := by
  have found : Reads q (shortestFrom q 1 16) := shortestFrom_reads (seventeen_digits pos double)
  have stripped : Reads q (stripZeros 17 (shortestFrom q 1 16)) := by
    unfold Reads
    rw [stripZeros_value]
    exact found
  exact ⟨stripped,reads_positive pos stripped⟩

/-! ### Reading a decimal -/

/-- The number that a list of digits spells. -/
def spelled (digits : List Char) : Nat := Nat.ofDigitChars 10 digits 0

/-- Digits with a point among them. -/
def readFixed (text : List Char) : ℚ :=
  let part := (text.dropWhile (· ≠ '.')).drop 1
  spelled (text.takeWhile (· ≠ '.') ++ part) * 10 ^ (-(part.length : ℤ))

/-- Digits after a sign. -/
def readExponent : List Char → ℤ
  | [] => 0
  | sign :: digits => if sign = '-' then -spelled digits else spelled digits

def readDecimal (text : List Char) : ℚ :=
  readFixed (text.takeWhile (· ≠ 'e')) * 10 ^ readExponent ((text.dropWhile (· ≠ 'e')).drop 1)

theorem spelled_toDigits (n : Nat) : spelled (Nat.toDigits 10 n) = n := Nat.ofDigitChars_ten_toDigits

theorem spelled_zeros (n : Nat) (digits : List Char) : spelled (List.replicate n '0' ++ digits) = spelled digits := by
  unfold spelled
  rw [Nat.ofDigitChars_append,Nat.ofDigitChars_replicate_zero]
  simp

theorem spelled_shift (digits : List Char) (n : Nat) :
    spelled (digits ++ List.replicate n '0') = spelled digits * 10 ^ n := by
  unfold spelled
  rw [Nat.ofDigitChars_append,Nat.ofDigitChars_replicate_zero,mul_comm]

def Digits (text : List Char) : Prop := ∀ c ∈ text, c.isDigit = true

theorem toDigits_digits (n : Nat) : Digits (Nat.toDigits 10 n) :=
  fun _ member => Nat.isDigit_of_mem_toDigits (by norm_num) (by norm_num) member

theorem zeros_digits (n : Nat) : Digits (List.replicate n '0') := by
  intro c member
  rw [(List.mem_replicate.mp member).2]
  rfl

theorem digits_append {left right : List Char} (first : Digits left) (second : Digits right) :
    Digits (left ++ right) := by
  intro c member
  rcases List.mem_append.mp member with here | there
  · exact first c here
  · exact second c there

theorem digits_ne {text : List Char} (digits : Digits text) {mark : Char} (other : mark.isDigit = false) :
    ∀ c ∈ text, c ≠ mark := by
  rintro c member rfl
  rw [digits c member] at other
  cases other

/-- A text is split at its first mark. -/
theorem split_mark {mark : Char} {before : List Char} (without : ∀ c ∈ before, c ≠ mark) (rest : List Char) :
    (before ++ mark :: rest).takeWhile (· ≠ mark) = before ∧
      ((before ++ mark :: rest).dropWhile (· ≠ mark)).drop 1 = rest := by
  have passed : ∀ c ∈ before, decide (c ≠ mark) = true := fun c member => decide_eq_true (without c member)
  constructor
  · rw [List.takeWhile_append_of_pos passed]
    simp
  · rw [List.dropWhile_append_of_pos passed]
    simp

theorem split_unmarked {mark : Char} {text : List Char} (without : ∀ c ∈ text, c ≠ mark) :
    text.takeWhile (· ≠ mark) = text ∧ (text.dropWhile (· ≠ mark)).drop 1 = [] := by
  have passed : ∀ c ∈ text, decide (c ≠ mark) = true := fun c member => decide_eq_true (without c member)
  constructor
  · rw [← List.append_nil text,List.takeWhile_append_of_pos (by simpa using passed)]
    simp
  · rw [← List.append_nil text,List.dropWhile_append_of_pos (by simpa using passed)]
    rfl

theorem readFixed_point {whole part : List Char} (digits : Digits whole) :
    readFixed (whole ++ '.' :: part) = spelled (whole ++ part) * 10 ^ (-(part.length : ℤ)) := by
  have plain : ∀ c ∈ whole, c ≠ '.' := digits_ne digits rfl
  obtain ⟨before,after⟩ := split_mark plain part
  unfold readFixed
  rw [before,after]

theorem readFixed_digits {text : List Char} (digits : Digits text) : readFixed text = spelled text := by
  have plain : ∀ c ∈ text, c ≠ '.' := digits_ne digits rfl
  obtain ⟨before,after⟩ := split_unmarked plain
  unfold readFixed
  rw [before,after]
  simp

theorem readDecimal_fixed {whole part : List Char} (first : Digits whole) (second : Digits part) :
    readDecimal (whole ++ '.' :: part) = spelled (whole ++ part) * 10 ^ (-(part.length : ℤ)) := by
  have plain : ∀ c ∈ whole ++ '.' :: part, c ≠ 'e' := by
    intro c member
    rcases List.mem_append.mp member with here | there
    · exact digits_ne first rfl c here
    · rcases List.mem_cons.mp there with rfl | later
      · decide
      · exact digits_ne second rfl c later
  obtain ⟨before,after⟩ := split_unmarked plain
  unfold readDecimal
  rw [before,after,readFixed_point first]
  simp [readExponent]

theorem readDecimal_exponent {mantissa exponent : List Char} (plain : ∀ c ∈ mantissa, c ≠ 'e') :
    readDecimal (mantissa ++ 'e' :: exponent) = readFixed mantissa * 10 ^ readExponent exponent := by
  obtain ⟨before,after⟩ := split_mark plain exponent
  unfold readDecimal
  rw [before,after]

/-- The notations of a decimal: a leading zero, trailing zeros, a point among the digits, an
    exponent. -/
theorem decimalText_notations (m : Nat) (e : ℤ) :
    let block := Nat.toDigits 10 m
    let point : ℤ := block.length + e
    (point ≤ 0 ∧ (decimalText m e).toList = '0' :: '.' :: (List.replicate (-point).toNat '0' ++ block)) ∨
    (0 ≤ e ∧ (decimalText m e).toList = (block ++ List.replicate e.toNat '0') ++ ['.','0']) ∨
    (0 < point ∧ e < 0 ∧ (decimalText m e).toList = block.take point.toNat ++ '.' :: block.drop point.toNat) ∨
    ∃ padding : Nat, (decimalText m e).toList =
      (block.take 1 ++ if block.drop 1 = [] then [] else '.' :: block.drop 1) ++
        'e' :: (if point - 1 < 0 then '-' else '+') ::
          (List.replicate padding '0' ++ Nat.toDigits 10 (point - 1).natAbs) := by
  intro block point
  have digits : (toString m).toList = block := Nat.toList_repr
  have length : (toString m).length = block.length := by
    rw [← digits,String.length_toList]
  unfold decimalText
  dsimp only
  rw [length]
  by_cases fixed : -4 < point ∧ point ≤ 16
  · rw [if_pos fixed]
    by_cases small : point ≤ 0
    · refine Or.inl ⟨small,?_⟩
      rw [if_pos small]
      show ("0." ++ String.ofList (List.replicate (-point).toNat '0') ++ toString m).toList = _
      rw [String.toList_append,String.toList_append,digits]
      simp
    · rw [if_neg small]
      by_cases whole : e ≥ 0
      · refine Or.inr (Or.inl ⟨whole,?_⟩)
        rw [if_pos whole]
        show (toString m ++ String.ofList (List.replicate e.toNat '0') ++ ".0").toList = _
        rw [String.toList_append,String.toList_append,String.toList_ofList,digits]
        rfl
      · refine Or.inr (Or.inr (Or.inl ⟨not_le.mp small,not_le.mp whole,?_⟩))
        rw [if_neg whole,String.toList_append,String.toList_append,String.toList_ofList,String.toList_ofList,digits]
        simp
        rfl
  · refine Or.inr (Or.inr (Or.inr ⟨if (toString (point - 1).natAbs).length < 2 then 1 else 0,?_⟩))
    have size : (toString (point - 1).natAbs).toList = Nat.toDigits 10 (point - 1).natAbs := Nat.toList_repr
    have mark : (if point - 1 < 0 then "-" else "+").toList = [if point - 1 < 0 then '-' else '+'] := by
      split <;> rfl
    have pad : (if (toString (point - 1).natAbs).length < 2 then "0" else "").toList =
        List.replicate (if (toString (point - 1).natAbs).length < 2 then 1 else 0) '0' := by
      split <;> rfl
    have part : (if String.ofList (block.drop 1) = "" then "" else "." ++ String.ofList (block.drop 1)).toList =
        if block.drop 1 = [] then [] else '.' :: block.drop 1 := by
      by_cases empty : block.drop 1 = []
      · rw [if_pos empty,empty]
        rfl
      · rw [if_neg empty,if_neg (by simpa using empty)]
        simp
    rw [if_neg fixed,show (block.length : ℤ) + e = point from rfl,digits]
    repeat rw [String.toList_append]
    rw [mark,pad,part,size]
    simp

theorem readExponent_signed (k : ℤ) (padding : Nat) :
    readExponent ((if k < 0 then '-' else '+') :: (List.replicate padding '0' ++ Nat.toDigits 10 k.natAbs)) = k := by
  unfold readExponent
  dsimp only
  rw [spelled_zeros,spelled_toDigits]
  by_cases negative : k < 0
  · rw [if_pos negative,if_pos rfl]
    omega
  · rw [if_neg negative,if_neg (by decide)]
    omega

theorem readFixed_mantissa {block : List Char} (digits : Digits block) (some_digit : block ≠ []) :
    readFixed (block.take 1 ++ if block.drop 1 = [] then [] else '.' :: block.drop 1) =
      spelled block * 10 ^ (1 - (block.length : ℤ)) := by
  cases block with
  | nil => exact absurd rfl some_digit
  | cons d rest =>
    have first : Digits [d] := fun c member => digits c (by simpa using Or.inl (List.mem_singleton.mp member))
    cases rest with
    | nil =>
      have only := readFixed_digits first
      simpa using only
    | cons d' rest =>
      have point : readFixed ([d] ++ '.' :: d' :: rest) = _ := readFixed_point first
      simpa using point

/-- The text of a decimal reads as its value. -/
theorem read_decimalText (m : Nat) (e : ℤ) : readDecimal (decimalText m e).toList = m * 10 ^ e := by
  have digits := toDigits_digits m
  have spells := spelled_toDigits m
  rcases decimalText_notations m e with ⟨small,text⟩ | ⟨whole,text⟩ | ⟨inside,negative,text⟩ | ⟨padding,text⟩
  · set k := (-(((Nat.toDigits 10 m).length : ℤ) + e)).toNat with kIs
    have read := readDecimal_fixed (zeros_digits 1) (digits_append (zeros_digits k) digits)
    have value : spelled (List.replicate 1 '0' ++ (List.replicate k '0' ++ Nat.toDigits 10 m)) = m := by
      rw [spelled_zeros,spelled_zeros,spells]
    have length : -((List.replicate k '0' ++ Nat.toDigits 10 m).length : ℤ) = e := by
      rw [List.length_append,List.length_replicate]
      omega
    rw [value,length] at read
    rw [text]
    exact read
  · have read := readDecimal_fixed (digits_append digits (zeros_digits e.toNat)) (zeros_digits 1)
    rw [spelled_shift,spelled_shift,spells] at read
    rw [text]
    refine read.trans ?_
    have shift : (10 : ℚ) ^ e.toNat = 10 ^ e := by
      rw [← zpow_natCast,Int.toNat_of_nonneg whole]
    push_cast
    rw [shift]
    simp
  · set point := (((Nat.toDigits 10 m).length : ℤ) + e).toNat with pointIs
    have first : Digits ((Nat.toDigits 10 m).take point) := fun c member => digits c (List.mem_of_mem_take member)
    have second : Digits ((Nat.toDigits 10 m).drop point) := fun c member => digits c (List.mem_of_mem_drop member)
    have read := readDecimal_fixed first second
    have length : -(((Nat.toDigits 10 m).drop point).length : ℤ) = e := by
      rw [List.length_drop]
      omega
    rw [List.take_append_drop,spells,length] at read
    rw [text]
    exact read
  · have mantissa := readFixed_mantissa digits Nat.toDigits_ne_nil
    have plain : ∀ c ∈ (Nat.toDigits 10 m).take 1 ++
        if (Nat.toDigits 10 m).drop 1 = [] then [] else '.' :: (Nat.toDigits 10 m).drop 1, c ≠ 'e' := by
      intro c member
      rcases List.mem_append.mp member with here | there
      · exact digits_ne digits rfl c (List.mem_of_mem_take here)
      · split at there
        · cases there
        · rcases List.mem_cons.mp there with rfl | later
          · decide
          · exact digits_ne digits rfl c (List.mem_of_mem_drop later)
    rw [text,readDecimal_exponent plain,mantissa,readExponent_signed,spells,mul_assoc,← zpow_add₀ (by norm_num)]
    congr 2
    omega

/-! ### The text of a double -/

/-- What the text of a number is made of. -/
def Numeral (c : Char) : Prop := c.isDigit = true ∨ c = '-' ∨ c = '+' ∨ c = '.' ∨ c = 'e'

theorem numeral_digits {text : List Char} (digits : Digits text) : ∀ c ∈ text, Numeral c :=
  fun c member => Or.inl (digits c member)

theorem numeral_append {left right : List Char} (first : ∀ c ∈ left, Numeral c) (second : ∀ c ∈ right, Numeral c) :
    ∀ c ∈ left ++ right, Numeral c := by
  intro c member
  rcases List.mem_append.mp member with here | there
  · exact first c here
  · exact second c there

theorem numeral_cons {d : Char} {text : List Char} (head : Numeral d) (tail : ∀ c ∈ text, Numeral c) :
    ∀ c ∈ d :: text, Numeral c := by
  intro c member
  rcases List.mem_cons.mp member with rfl | later
  · exact head
  · exact tail c later

/-- The text of a decimal starts with a digit and has a point or an exponent. -/
structure DecimalShape (text : List Char) : Prop where
  numeral : ∀ c ∈ text, Numeral c
  marked : '.' ∈ text ∨ 'e' ∈ text
  leading : ∃ d rest, text = d :: rest ∧ d.isDigit = true

theorem decimalText_shape (m : Nat) (e : ℤ) : DecimalShape (decimalText m e).toList := by
  have digits := toDigits_digits m
  obtain ⟨d,rest,block⟩ := List.exists_cons_of_ne_nil (Nat.toDigits_ne_nil (b := 10) (n := m))
  have first : d.isDigit = true := digits d (by rw [block]; simp)
  have point : Numeral '.' := Or.inr (Or.inr (Or.inr (Or.inl rfl)))
  have power : Numeral 'e' := Or.inr (Or.inr (Or.inr (Or.inr rfl)))
  rcases decimalText_notations m e with ⟨small,text⟩ | ⟨whole,text⟩ | ⟨inside,negative,text⟩ | ⟨padding,text⟩
  · rw [text]
    refine ⟨?_,Or.inl (by simp),'0',_,rfl,rfl⟩
    exact numeral_cons (Or.inl rfl) (numeral_cons point (numeral_digits (digits_append (zeros_digits _) digits)))
  · rw [text]
    refine ⟨?_,Or.inl (by simp),d,rest ++ List.replicate e.toNat '0' ++ ['.','0'],by rw [block]; rfl,first⟩
    exact numeral_append (numeral_digits (digits_append digits (zeros_digits _)))
      (numeral_cons point (numeral_digits (zeros_digits 1)))
  · rw [text]
    obtain ⟨k,kIs⟩ : ∃ k, (((Nat.toDigits 10 m).length : ℤ) + e).toNat = k + 1 :=
      ⟨_,(Nat.succ_pred_eq_of_pos (by omega)).symm⟩
    refine ⟨?_,Or.inl (by simp),d,rest.take k ++ '.' :: (Nat.toDigits 10 m).drop (k + 1),?_,first⟩
    · exact numeral_append (fun c member => Or.inl (digits c (List.mem_of_mem_take member)))
        (numeral_cons point (fun c member => Or.inl (digits c (List.mem_of_mem_drop member))))
    · rw [kIs,block]
      rfl
  · rw [text]
    refine ⟨?_,Or.inr (by simp),d,_,by rw [block]; rfl,first⟩
    refine numeral_append (numeral_append (fun c member => Or.inl (digits c (List.mem_of_mem_take member))) ?_)
      (numeral_cons power (numeral_cons ?_ (numeral_digits (digits_append (zeros_digits _) (toDigits_digits _)))))
    · split
      · simp
      · exact numeral_cons point (fun c member => Or.inl (digits c (List.mem_of_mem_drop member)))
    · split
      · exact Or.inr (Or.inl rfl)
      · exact Or.inr (Or.inr (Or.inl rfl))

/-- The value is one that a double holds. -/
def IsDouble (x : PyFloat) : Prop := roundDouble x.value = x.value

instance (x : PyFloat) : Decidable (IsDouble x) := inferInstanceAs (Decidable (_ = _))

def Negative : PyFloat → Prop
  | .negZero => True
  | .finite q => q < 0

theorem size_double {q : ℚ} (double : roundDouble q = q) : roundDouble |q| = |q| := by
  rcases le_or_gt 0 q with positive | negative
  · rw [abs_of_nonneg positive]
    exact double
  · rw [abs_of_neg negative]
    unfold roundDouble at double ⊢
    rw [if_neg negative.ne,if_neg (not_lt.mpr negative.le)] at double
    rw [if_neg (by linarith),if_pos (by linarith)]
    linarith

/-- The text of a double is a sign and a decimal that reads as its size. -/
theorem repr_reads {x : PyFloat} (double : IsDouble x) :
    ∃ text, DecimalShape text ∧ roundDouble (readDecimal text) = |x.value| ∧
      (Negative x ∧ x.repr.toList = '-' :: text ∨ ¬Negative x ∧ x.repr.toList = text) := by
  have zero_shape : DecimalShape ['0','.','0'] := by
    have point : Numeral '.' := Or.inr (Or.inr (Or.inr (Or.inl rfl)))
    exact ⟨numeral_cons (Or.inl rfl) (numeral_cons point (numeral_digits (zeros_digits 1))),Or.inl (by simp),'0',_,rfl,
      rfl⟩
  have zero_reads : roundDouble (readDecimal ['0','.','0']) = 0 := by
    have read : readDecimal ['0','.','0'] = _ := readDecimal_fixed (zeros_digits 1) (zeros_digits 1)
    have nothing : spelled (List.replicate 1 '0' ++ ['0']) = 0 := by decide
    rw [read,nothing]
    simp [roundDouble]
  cases x with
  | negZero => exact ⟨['0','.','0'],zero_shape,by simpa [PyFloat.value] using zero_reads,Or.inl ⟨trivial,rfl⟩⟩
  | finite q =>
    by_cases zero : q = 0
    · subst zero
      exact ⟨['0','.','0'],zero_shape,by simpa [PyFloat.value] using zero_reads,
        Or.inr ⟨by simp [Negative],by simp [PyFloat.repr]⟩⟩
    · have size : 0 < |q| := abs_pos.mpr zero
      obtain ⟨reads,positive⟩ := written_reads size (size_double double)
      generalize written : stripZeros 17 (shortestFrom |q| 1 16) = d at reads positive
      have text : (PyFloat.finite q).repr = (if q < 0 then "-" else "") ++ decimalText d.1.toNat d.2 := by
        unfold PyFloat.repr
        dsimp only
        rw [if_neg zero,written]
      have value : (d.1.toNat : ℚ) * 10 ^ d.2 = decimalValue d := by
        unfold decimalValue
        congr 1
        exact_mod_cast Int.toNat_of_nonneg positive.le
      refine ⟨(decimalText d.1.toNat d.2).toList,decimalText_shape _ _,?_,?_⟩
      · rw [read_decimalText,value]
        exact reads
      · by_cases negative : q < 0
        · refine Or.inl ⟨negative,?_⟩
          rw [text,if_pos negative,String.toList_append]
          rfl
        · refine Or.inr ⟨negative,?_⟩
          rw [text,if_neg negative,String.toList_append]
          rfl

/-- A double is a sign and a size. -/
theorem sign_and_size {x y : PyFloat} (signs : Negative x ↔ Negative y) (sizes : |x.value| = |y.value|) : x = y := by
  cases x with
  | negZero =>
    cases y with
    | negZero => rfl
    | finite q =>
      have negative : q < 0 := signs.mp trivial
      have zero : |q| = 0 := by simpa [PyFloat.value] using sizes.symm
      exact absurd (abs_eq_zero.mp zero) negative.ne
  | finite p =>
    cases y with
    | negZero =>
      have negative : p < 0 := signs.mpr trivial
      have zero : |p| = 0 := by simpa [PyFloat.value] using sizes
      exact absurd (abs_eq_zero.mp zero) negative.ne
    | finite q =>
      have sizes : |p| = |q| := sizes
      by_cases negative : p < 0
      · have other : q < 0 := signs.mp negative
        rw [abs_of_neg negative,abs_of_neg other] at sizes
        rw [neg_inj.mp sizes]
      · have other : ¬q < 0 := fun small => negative (signs.mpr small)
        rw [abs_of_nonneg (not_lt.mp negative),abs_of_nonneg (not_lt.mp other)] at sizes
        rw [sizes]

/-- No two doubles have one text. -/
theorem repr_injective {x y : PyFloat} (first : IsDouble x) (second : IsDouble y) (same : x.repr = y.repr) : x = y := by
  obtain ⟨left,leftShape,leftReads,leftText⟩ := repr_reads first
  obtain ⟨right,rightShape,rightReads,rightText⟩ := repr_reads second
  obtain ⟨c,_,leftHead,cDigit⟩ := leftShape.leading
  obtain ⟨d,_,rightHead,dDigit⟩ := rightShape.leading
  have characters : x.repr.toList = y.repr.toList := by rw [same]
  have unsigned : ∀ c : Char, c.isDigit = true → c ≠ '-' := by
    rintro c digit rfl
    cases digit
  rcases leftText with ⟨xNegative,xText⟩ | ⟨xPositive,xText⟩ <;> rcases rightText with ⟨yNegative,yText⟩ |
    ⟨yPositive,yText⟩
  · rw [xText,yText] at characters
    refine sign_and_size ⟨fun _ => yNegative,fun _ => xNegative⟩ ?_
    rw [← leftReads,← rightReads,List.tail_eq_of_cons_eq characters]
  · rw [xText,yText,rightHead] at characters
    exact absurd (List.head_eq_of_cons_eq characters).symm (unsigned d dDigit)
  · rw [xText,yText,leftHead] at characters
    exact absurd (List.head_eq_of_cons_eq characters) (unsigned c cDigit)
  · rw [xText,yText] at characters
    refine sign_and_size ⟨fun negative => absurd negative xPositive,fun negative => absurd negative yPositive⟩ ?_
    rw [← leftReads,← rightReads,characters]

/-- The text of a double is a numeral that no integer has. -/
theorem repr_marked {x : PyFloat} (double : IsDouble x) :
    (∀ c ∈ x.repr.toList, Numeral c) ∧ x.repr.toList ≠ [] ∧ ('.' ∈ x.repr.toList ∨ 'e' ∈ x.repr.toList) := by
  obtain ⟨text,shape,_,signed⟩ := repr_reads double
  obtain ⟨d,rest,head,_⟩ := shape.leading
  rcases signed with ⟨_,same⟩ | ⟨_,same⟩ <;> rw [same]
  · refine ⟨numeral_cons (Or.inr (Or.inl rfl)) shape.numeral,by simp,?_⟩
    exact shape.marked.imp (List.mem_cons_of_mem _) (List.mem_cons_of_mem _)
  · exact ⟨shape.numeral,by simp [head],shape.marked⟩

end V3Aidlc.ShortestDecimals
