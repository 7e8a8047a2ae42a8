import Mathlib.Data.Rat.Floor
import Mathlib.Data.Int.Log
import Mathlib.Algebra.Order.Round
import Mathlib.Tactic.Linarith
import Mathlib.Tactic.Positivity
import Mathlib.Tactic.Ring
import Mathlib.Tactic.FieldSimp

/-!
Binary floating point with 53 significant bits, on exact rationals: rounding a
rational to the nearest double with ties to even, and the shortest decimal that
reads back as a given double. Exponents are not bounded, so the rounding is that
of a double wherever the value neither overflows nor is subnormal.
-/
namespace V3Aidlc.Doubles

/-- The nearest integer, ties to even. -/
def roundHalfEven (q : ℚ) : ℤ :=
  let low := ⌊q⌋
  let rest := q - low
  if rest < 1/2 then low else if 1/2 < rest then low + 1 else if low % 2 = 0 then low else low + 1

/-- The exponent of the last of the 53 bits of a positive rational. -/
def ulpExponent (q : ℚ) : ℤ := Int.log 2 q - 52

/-- A positive rational rounded to 53 significant bits. -/
def roundPositive (q : ℚ) : ℚ := roundHalfEven (q / 2 ^ ulpExponent q) * 2 ^ ulpExponent q

/-- The double nearest to a rational. -/
def roundDouble (q : ℚ) : ℚ :=
  if q = 0 then 0 else if 0 < q then roundPositive q else - roundPositive (-q)

/-! ### Bounds on rounding -/

theorem roundHalfEven_bounds (q : ℚ) : q - 1/2 ≤ roundHalfEven q ∧ (roundHalfEven q : ℚ) ≤ q + 1/2 := by
  have low := Int.floor_le q
  have high := Int.lt_floor_add_one q
  unfold roundHalfEven
  dsimp only
  split_ifs <;> constructor <;> push_cast <;> linarith

/-- Rounding does not cross an integer. -/
theorem roundHalfEven_le {q : ℚ} {n : ℤ} (le : q ≤ n) : roundHalfEven q ≤ n := by
  have floorLe : ⌊q⌋ ≤ n := Int.cast_le.mp ((Int.floor_le q).trans le)
  rcases floorLe.lt_or_eq with below | same
  · unfold roundHalfEven
    dsimp only
    split_ifs <;> omega
  · have rest : q - (⌊q⌋ : ℚ) < 1/2 := by rw [same]; linarith
    unfold roundHalfEven
    dsimp only
    rw [if_pos rest,same]

private theorem two_zpow_pos (e : ℤ) : (0 : ℚ) < 2 ^ e := zpow_pos (by norm_num) e

/-- The first of the 53 bits of a positive rational is set. -/
theorem mantissa_large {q : ℚ} (pos : 0 < q) : (2 : ℚ) ^ (52 : ℤ) ≤ q / 2 ^ ulpExponent q := by
  have first := Int.zpow_log_le_self Nat.one_lt_two pos
  rw [le_div_iff₀ (two_zpow_pos _),← zpow_add₀ (by norm_num : (2 : ℚ) ≠ 0)]
  have same : (52 : ℤ) + ulpExponent q = Int.log 2 q := by unfold ulpExponent; omega
  rw [same]
  exact_mod_cast first

theorem roundPositive_pos {q : ℚ} (pos : 0 < q) : 0 < roundPositive q := by
  have large := mantissa_large pos
  have near := (roundHalfEven_bounds (q / 2 ^ ulpExponent q)).1
  have size : (1 : ℚ) ≤ 2 ^ (52 : ℤ) := by norm_num
  have mantissaPos : (0 : ℚ) < roundHalfEven (q / 2 ^ ulpExponent q) := by linarith
  exact mul_pos mantissaPos (two_zpow_pos _)

/-- The rounded value differs by half a unit in the last place at most. -/
theorem roundPositive_ge (q : ℚ) : q - 2 ^ ulpExponent q / 2 ≤ roundPositive q := by
  have near := (roundHalfEven_bounds (q / 2 ^ ulpExponent q)).1
  have unit := two_zpow_pos (ulpExponent q)
  have scaled := mul_le_mul_of_nonneg_right near unit.le
  have cancel : q / 2 ^ ulpExponent q * 2 ^ ulpExponent q = q := div_mul_cancel₀ q unit.ne'
  unfold roundPositive
  rw [sub_mul,cancel] at scaled
  linarith

/-- Rounding does not cross a multiple of the unit in the last place. -/
theorem roundPositive_le {q : ℚ} {n : ℤ} (le : q ≤ n * 2 ^ ulpExponent q) :
    roundPositive q ≤ n * 2 ^ ulpExponent q := by
  have unit := two_zpow_pos (ulpExponent q)
  have scaled : q / 2 ^ ulpExponent q ≤ n := (div_le_iff₀ unit).mpr le
  have rounded : (roundHalfEven (q / 2 ^ ulpExponent q) : ℚ) ≤ n := Int.cast_le.mpr (roundHalfEven_le scaled)
  exact mul_le_mul_of_nonneg_right rounded unit.le

theorem roundDouble_neg_iff {q : ℚ} : roundDouble q < 0 ↔ q < 0 := by
  unfold roundDouble
  rcases lt_trichotomy q 0 with neg | rfl | pos
  · have := roundPositive_pos (neg_pos.mpr neg)
    simp only [neg.ne,↓reduceIte,not_lt.mpr neg.le]
    constructor <;> intro _ <;> linarith
  · simp
  · have := roundPositive_pos pos
    simp only [pos.ne',pos,↓reduceIte]
    constructor <;> intro _ <;> linarith

/-- Rounding does not fall below an integer. -/
theorem roundHalfEven_ge {q : ℚ} {n : ℤ} (le : n ≤ q) : n ≤ roundHalfEven q := by
  have floorGe : n ≤ ⌊q⌋ := Int.le_floor.mpr le
  unfold roundHalfEven
  dsimp only
  split_ifs <;> omega

theorem roundHalfEven_mono {x y : ℚ} (le : x ≤ y) : roundHalfEven x ≤ roundHalfEven y := by
  rcases (Int.floor_le_floor le).lt_or_eq with below | same
  · -- An integer stands between the two.
    have above : x ≤ (⌊x⌋ + 1 : ℤ) := by push_cast; exact (Int.lt_floor_add_one x).le
    calc roundHalfEven x ≤ ⌊x⌋ + 1 := roundHalfEven_le above
      _ ≤ ⌊y⌋ := below
      _ ≤ roundHalfEven y := roundHalfEven_ge (Int.floor_le y)
  · unfold roundHalfEven
    dsimp only
    rw [same]
    split_ifs <;> first | omega | linarith

/-- A power of two as a whole number of units in the last place. -/
private theorem units_of_power (q : ℚ) (k : ℕ) :
    (((2 : ℤ) ^ k : ℤ) : ℚ) * 2 ^ ulpExponent q = 2 ^ (Int.log 2 q + k - 52) := by
  rw [Int.cast_pow,Int.cast_ofNat,← zpow_natCast,← zpow_add₀ (by norm_num : (2 : ℚ) ≠ 0)]
  congr 1
  unfold ulpExponent
  omega

/-- The rounding of a smaller value is no larger. Values of different exponents have a power of
    two between them, which neither rounding crosses. -/
theorem roundPositive_mono {x y : ℚ} (pos : 0 < x) (le : x ≤ y) : roundPositive x ≤ roundPositive y := by
  rcases (Int.log_mono_right pos le : Int.log 2 x ≤ Int.log 2 y).lt_or_eq with below | same
  · have high : x ≤ ((2 : ℤ) ^ 53 : ℤ) * 2 ^ ulpExponent x := by
      have bound := (Int.lt_zpow_succ_log_self (b := 2) Nat.one_lt_two x).le
      rw [units_of_power]
      have same : Int.log 2 x + (53 : ℕ) - 52 = Int.log 2 x + 1 := by omega
      rw [same]
      exact_mod_cast bound
    have mantissa : (((2 : ℤ) ^ 52 : ℤ) : ℚ) ≤ y / 2 ^ ulpExponent y := by
      exact_mod_cast mantissa_large (pos.trans_le le)
    have rounded : (((2 : ℤ) ^ 52 : ℤ) : ℚ) ≤ roundHalfEven (y / 2 ^ ulpExponent y) :=
      Int.cast_le.mpr (roundHalfEven_ge mantissa)
    calc roundPositive x ≤ ((2 : ℤ) ^ 53 : ℤ) * 2 ^ ulpExponent x := roundPositive_le high
      _ = 2 ^ (Int.log 2 x + (53 : ℕ) - 52) := units_of_power x 53
      _ ≤ 2 ^ (Int.log 2 y + (52 : ℕ) - 52) := zpow_le_zpow_right₀ (by norm_num) (by omega)
      _ = ((2 : ℤ) ^ 52 : ℤ) * 2 ^ ulpExponent y := (units_of_power y 52).symm
      _ ≤ roundPositive y := mul_le_mul_of_nonneg_right rounded (two_zpow_pos _).le
  · have exponent : ulpExponent x = ulpExponent y := by unfold ulpExponent; rw [same]
    have unit := two_zpow_pos (ulpExponent y)
    have scaled : x / 2 ^ ulpExponent y ≤ y / 2 ^ ulpExponent y := div_le_div_of_nonneg_right le unit.le
    unfold roundPositive
    rw [exponent]
    exact mul_le_mul_of_nonneg_right (Int.cast_le.mpr (roundHalfEven_mono scaled)) unit.le

theorem roundDouble_mono {x y : ℚ} (le : x ≤ y) : roundDouble x ≤ roundDouble y := by
  unfold roundDouble
  rcases lt_trichotomy x 0 with negX | rfl | posX
  · have below := roundPositive_pos (neg_pos.mpr negX)
    rw [if_neg negX.ne,if_neg (not_lt.mpr negX.le)]
    rcases lt_trichotomy y 0 with negY | rfl | posY
    · rw [if_neg negY.ne,if_neg (not_lt.mpr negY.le)]
      exact neg_le_neg (roundPositive_mono (neg_pos.mpr negY) (neg_le_neg le))
    · rw [if_pos rfl]
      linarith
    · rw [if_neg posY.ne',if_pos posY]
      linarith [roundPositive_pos posY]
  · rw [if_pos rfl]
    rcases le.lt_or_eq with posY | rfl
    · rw [if_neg posY.ne',if_pos posY]
      exact (roundPositive_pos posY).le
    · simp
  · have posY := posX.trans_le le
    rw [if_neg posX.ne',if_pos posX,if_neg posY.ne',if_pos posY]
    exact roundPositive_mono posX le

/-- Below 2^33 the last place is worth at most 2^-20. -/
private theorem ulp_small {q : ℚ} (pos : 0 < q) (bound : q < 2 ^ (33 : ℤ)) : ulpExponent q ≤ -20 := by
  have below : Int.log 2 q < 33 := (Int.lt_zpow_iff_log_lt Nat.one_lt_two pos).mp (by exact_mod_cast bound)
  unfold ulpExponent
  omega

/-- An integer bound on a value below 2^33 is a bound on its double, and the
    other way when the value is a whole number of millionths. -/
theorem roundDouble_le_iff {micros : ℤ} {n : ℤ} (nonneg : 0 ≤ micros) (bound : micros < 2 ^ 33 * 1000000) :
    roundDouble ((micros : ℚ) / 1000000) ≤ n ↔ micros ≤ n * 1000000 := by
  rcases nonneg.eq_or_lt with rfl | positive
  · simp [roundDouble]
  · set q : ℚ := (micros : ℚ) / 1000000 with qIs
    have pos : 0 < q := div_pos (by exact_mod_cast positive) (by norm_num)
    have small : q < 2 ^ (33 : ℤ) := by
      rw [qIs,div_lt_iff₀ (by norm_num)]
      have cast : (micros : ℚ) < ((2 ^ 33 * 1000000 : ℤ) : ℚ) := Int.cast_lt.mpr bound
      calc (micros : ℚ) < ((2 ^ 33 * 1000000 : ℤ) : ℚ) := cast
        _ = 2 ^ (33 : ℤ) * 1000000 := by norm_num
    have exponent := ulp_small pos small
    have back : (micros : ℚ) = q * 1000000 := by rw [qIs]; field_simp
    have reduced : roundDouble q = roundPositive q := by
      unfold roundDouble; rw [if_neg pos.ne',if_pos pos]
    rw [reduced]
    constructor
    · intro rounded
      by_contra above
      have oneMore : n * 1000000 + 1 ≤ micros := by omega
      have oneMoreQ : (n : ℚ) * 1000000 + 1 ≤ q * 1000000 := by rw [← back]; exact_mod_cast oneMore
      have unit : (2 : ℚ) ^ ulpExponent q ≤ 2 ^ (-20 : ℤ) := zpow_le_zpow_right₀ (by norm_num) exponent
      have tiny : (2 : ℚ) ^ (-20 : ℤ) = 1/1048576 := by norm_num
      have near := roundPositive_ge q
      rw [tiny] at unit
      linarith
    · intro below
      have le : q ≤ n := by
        rw [qIs,div_le_iff₀ (by norm_num)]
        exact_mod_cast below
      -- An integer is a multiple of every power of two that is at most one.
      have grid : (n : ℚ) = (n * 2 ^ (-ulpExponent q).toNat : ℤ) * 2 ^ ulpExponent q := by
        have whole : ((2 : ℚ) ^ (-ulpExponent q).toNat) * 2 ^ ulpExponent q = 1 := by
          rw [← zpow_natCast,← zpow_add₀ (by norm_num : (2 : ℚ) ≠ 0)]
          rw [Int.toNat_of_nonneg (by omega)]
          simp
        push_cast
        rw [mul_assoc,whole,mul_one]
      rw [grid] at le ⊢
      exact roundPositive_le le

/-- A finite double: the negative zero, which is equal to zero but written
    otherwise, or the value itself. -/
inductive PyFloat where
  | negZero
  | finite (value : ℚ)
  deriving DecidableEq

def PyFloat.value : PyFloat → ℚ
  | .negZero => 0
  | .finite q => q

/-! ### The shortest decimal of a double -/

/-- The decimals with `digits` significant digits next to `q > 0`, below and
    above, as a digit block and the exponent of its last digit. -/
def nearDecimals (q : ℚ) (digits : Nat) : List (ℤ × ℤ) :=
  let exponent := Int.log 10 q - ((digits : ℤ) - 1)
  let scaled := q / 10 ^ exponent
  let nearest := roundHalfEven scaled
  let other := if nearest = ⌊scaled⌋ then nearest + 1 else nearest - 1
  [(nearest,exponent),(other,exponent)]

/-- The first decimal, by number of digits, that reads back as `q`. -/
def shortestFrom (q : ℚ) : (digits fuel : Nat) → ℤ × ℤ
  | digits, 0 => ((nearDecimals q digits).head?).getD (0,0)
  | digits, fuel+1 =>
    match (nearDecimals q digits).find? (fun d => roundDouble (d.1 * 10 ^ d.2) = q) with
    | some d => d
    | none => shortestFrom q (digits+1) fuel

/-- Trailing zeros of the digit block move into the exponent. -/
def stripZeros : Nat → ℤ × ℤ → ℤ × ℤ
  | 0, d => d
  | fuel+1, (m,e) => if m ≠ 0 ∧ m % 10 = 0 then stripZeros fuel (m / 10,e+1) else (m,e)

private def zeros (n : Nat) : String := String.ofList (List.replicate n '0')

/-- The text of a digit block `m` with decimal exponent `e`: fixed notation from
    1e-4 to below 1e16, an exponent of at least two digits outside. -/
def decimalText (m : Nat) (e : ℤ) : String :=
  let block := toString m
  let point : ℤ := block.length + e
  if -4 < point ∧ point ≤ 16 then
    if point ≤ 0 then "0." ++ zeros (-point).toNat ++ block
    else if e ≥ 0 then block ++ zeros e.toNat ++ ".0"
    else String.ofList (block.toList.take point.toNat) ++ "." ++ String.ofList (block.toList.drop point.toNat)
  else
    let power := point - 1
    let head := String.ofList (block.toList.take 1)
    let tail := String.ofList (block.toList.drop 1)
    let size := toString power.natAbs
    head ++ (if tail = "" then "" else "." ++ tail) ++ "e" ++ (if power < 0 then "-" else "+") ++
      (if size.length < 2 then "0" else "") ++ size

/-- `float.__repr__` on a finite double. -/
def PyFloat.repr : PyFloat → String
  | .negZero => "-0.0"
  | .finite q =>
    if q = 0 then "0.0"
    else
      let (m,e) := stripZeros 17 (shortestFrom |q| 1 16)
      (if q < 0 then "-" else "") ++ decimalText m.toNat e

end V3Aidlc.Doubles
