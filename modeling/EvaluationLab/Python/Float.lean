import Mathlib.Algebra.Order.Round
import Mathlib.Data.Int.Log
import Mathlib.Data.Rat.Floor
import Mathlib.Data.Nat.Sqrt
import Mathlib.Algebra.Ring.Int.Parity
import Mathlib.Tactic.Linarith
import Mathlib.Tactic.FieldSimp
import Mathlib.Tactic.Positivity

/-! Correctly rounded binary64 operations on finite values, and `round` to twelve digits. -/
namespace EvaluationLab.Python

/-- The nearest integer, the even one at a midpoint. -/
def roundEven (q : ℚ) : ℤ :=
  if Int.fract q = 1 / 2 then if Even ⌊q⌋ then ⌊q⌋ else ⌊q⌋ + 1 else round q

/-- The spacing of binary64 values around `q`. -/
def ulp (q : ℚ) : ℚ := 2 ^ (max (Int.log 2 |q|) (-1022) - 52)

/-- The binary64 value nearest to `q`, for `q` in range. -/
def nearestFloat (q : ℚ) : ℚ := roundEven (q / ulp q) * ulp q

/-- The binary64 value nearest to the square root of `q`. -/
def sqrtFloat (q : ℚ) : ℚ :=
  let unit : ℚ := 2 ^ (Int.log 2 q / 2 - 52)
  let n : ℕ := Nat.sqrt ⌊q / unit ^ 2⌋₊
  if ((n : ℚ) + 1 / 2) ^ 2 < q / unit ^ 2 then (n + 1) * unit else n * unit

/-- `round(x, 12)`. -/
def round12 (x : ℚ) : ℚ := nearestFloat (roundEven (x * 10 ^ 12) / 10 ^ 12)

theorem roundEven_le_of_le {q : ℚ} {n : ℤ} (h : q ≤ n) : roundEven q ≤ n := by
  have hceil : ⌈q⌉ ≤ n := Int.ceil_le.mpr h
  have hfloor : ⌊q⌋ ≤ ⌈q⌉ := Int.floor_le_ceil q
  unfold roundEven
  split_ifs with hmid heven
  · omega
  · have hstrict : ⌊q⌋ < ⌈q⌉ := by
      rw [Int.lt_ceil]
      have hself := Int.self_sub_floor q
      linarith
    omega
  · have hround : round q ≤ ⌈q⌉ := by
      unfold round
      split_ifs <;> omega
    omega

theorem le_roundEven_of_le {q : ℚ} {n : ℤ} (h : n ≤ q) : n ≤ roundEven q := by
  have hfloor : n ≤ ⌊q⌋ := Int.le_floor.mpr h
  have hceil : ⌊q⌋ ≤ ⌈q⌉ := Int.floor_le_ceil q
  unfold roundEven
  split_ifs with hmid heven
  · exact hfloor
  · omega
  · have hround : ⌊q⌋ ≤ round q := by
      unfold round
      split_ifs <;> omega
    omega

theorem fract_half_iff (q : ℚ) : Int.fract q = 1 / 2 ↔ q = ⌊q⌋ + 1 / 2 := by
  have hself := Int.floor_add_fract q
  constructor
  · intro h
    linarith
  · intro h
    linarith

theorem floor_neg_of_half {q : ℚ} (h : Int.fract q = 1 / 2) : ⌊-q⌋ = -⌊q⌋ - 1 := by
  have hq := (fract_half_iff q).mp h
  rw [Int.floor_eq_iff]
  push_cast
  constructor <;> linarith

/-- Midpoints are opposite to midpoints. -/
theorem fract_neg_half {q : ℚ} (h : Int.fract q = 1 / 2) : Int.fract (-q) = 1 / 2 := by
  have hq := (fract_half_iff q).mp h
  rw [Int.fract, floor_neg_of_half h]
  push_cast
  linarith

/-- Rounding to the even integer is odd. -/
theorem roundEven_neg (q : ℚ) : roundEven (-q) = -roundEven q := by
  unfold roundEven
  by_cases h : Int.fract q = 1 / 2
  · rw [if_pos h, if_pos (fract_neg_half h), floor_neg_of_half h]
    have hparity : Even (-⌊q⌋ - 1) ↔ ¬ Even ⌊q⌋ := by
      rw [Int.even_sub_one, even_neg]
    by_cases heven : Even ⌊q⌋
    · rw [if_neg (fun hodd => hparity.mp hodd heven), if_pos heven]
      ring
    · rw [if_pos (hparity.mpr heven), if_neg heven]
      ring
  · have hneg : Int.fract (-q) ≠ 1 / 2 := fun hn => h (by simpa using fract_neg_half hn)
    rw [if_neg h, if_neg hneg]
    obtain ⟨hlow, hhigh⟩ := round_eq_iff.mp (rfl : round q = round q)
    -- a number half below its rounding would be a midpoint
    have hstrict : q ≠ (round q : ℚ) - 1 / 2 := by
      intro hq
      have hfloor : ⌊q⌋ = round q - 1 := by
        rw [Int.floor_eq_iff]
        push_cast
        constructor <;> linarith
      apply h
      rw [Int.fract, hfloor]
      push_cast
      linarith
    have hlow' : (round q : ℚ) - 1 / 2 < q := lt_of_le_of_ne hlow (Ne.symm hstrict)
    rw [round_eq_iff]
    push_cast
    constructor <;> linarith

theorem ulp_pos (q : ℚ) : 0 < ulp q := by
  unfold ulp
  exact zpow_pos (by norm_num) _

/-- One is a whole number of units below it. -/
theorem ulp_inv_of_le_one {q : ℚ} (h0 : 0 ≤ q) (h1 : q ≤ 1) : ∃ n : ℤ, (n : ℚ) * ulp q = 1 := by
  have hlog : Int.log 2 |q| ≤ 0 := by
    rw [abs_of_nonneg h0]
    by_cases hq : q = 0
    · simp [hq]
    · have hpos : 0 < q := lt_of_le_of_ne h0 (Ne.symm hq)
      have hmono := Int.log_mono_right (b := 2) hpos h1
      simpa using hmono
  have hexp : max (Int.log 2 |q|) (-1022) - 52 ≤ 0 := by omega
  obtain ⟨k, hk⟩ := Int.eq_ofNat_of_zero_le (Int.neg_nonneg_of_nonpos hexp)
  refine ⟨2 ^ k, ?_⟩
  unfold ulp
  rw [show max (Int.log 2 |q|) (-1022) - 52 = -(k : ℤ) by omega, zpow_neg, zpow_natCast]
  push_cast
  exact mul_inv_cancel₀ (by positivity)

/-- Rounding to the nearest binary64 value stays in the unit interval. -/
theorem nearestFloat_unit {q : ℚ} (h0 : 0 ≤ q) (h1 : q ≤ 1) : 0 ≤ nearestFloat q ∧ nearestFloat q ≤ 1 := by
  have hu := ulp_pos q
  obtain ⟨n, hn⟩ := ulp_inv_of_le_one h0 h1
  have hlow : (0 : ℤ) ≤ roundEven (q / ulp q) := le_roundEven_of_le (by push_cast; positivity)
  have hhigh : roundEven (q / ulp q) ≤ n := by
    apply roundEven_le_of_le
    rw [div_le_iff₀ hu, hn]
    exact h1
  have hlow' : (0 : ℚ) ≤ (roundEven (q / ulp q) : ℚ) := by exact_mod_cast hlow
  have hhigh' : (roundEven (q / ulp q) : ℚ) ≤ n := by exact_mod_cast hhigh
  unfold nearestFloat
  constructor
  · positivity
  · calc (roundEven (q / ulp q) : ℚ) * ulp q ≤ n * ulp q := mul_le_mul_of_nonneg_right hhigh' hu.le
      _ = 1 := hn

theorem nearestFloat_neg (q : ℚ) : nearestFloat (-q) = -nearestFloat q := by
  have hulp : ulp (-q) = ulp q := by rw [ulp, abs_neg, ulp]
  rw [nearestFloat, hulp, neg_div, roundEven_neg, nearestFloat]
  push_cast
  ring

theorem round12_neg (x : ℚ) : round12 (-x) = -round12 x := by
  rw [round12, neg_mul, roundEven_neg, round12]
  push_cast
  rw [neg_div, nearestFloat_neg]

theorem round12_unit {x : ℚ} (h0 : 0 ≤ x) (h1 : x ≤ 1) : 0 ≤ round12 x ∧ round12 x ≤ 1 := by
  have hlow : (0 : ℤ) ≤ roundEven (x * 10 ^ 12) := le_roundEven_of_le (by push_cast; positivity)
  have hhigh : roundEven (x * 10 ^ 12) ≤ 10 ^ 12 := by
    apply roundEven_le_of_le
    push_cast
    linarith
  have hlow' : (0 : ℚ) ≤ (roundEven (x * 10 ^ 12) : ℚ) := by exact_mod_cast hlow
  have hhigh' : (roundEven (x * 10 ^ 12) : ℚ) ≤ 10 ^ 12 := by exact_mod_cast hhigh
  apply nearestFloat_unit
  · positivity
  · rw [div_le_one (by positivity)]
    exact hhigh'

/-- The spacing around a normal number is at most the number. -/
theorem ulp_le {q : ℚ} (h : 1 / 2 ^ 1022 ≤ q) : ulp q ≤ q := by
  have hpos : 0 < q := lt_of_lt_of_le (by positivity) h
  have hlog : -1022 ≤ Int.log 2 q := by
    have hmono := Int.log_mono_right (b := 2) (by positivity) h
    rwa [show (1 : ℚ) / 2 ^ 1022 = ((2 : ℕ) : ℚ) ^ (-1022 : ℤ) by rw [zpow_neg, one_div]; norm_cast,
      Int.log_zpow (by decide)] at hmono
  have hself : ((2 : ℕ) : ℚ) ^ Int.log 2 q ≤ q := Int.zpow_log_le_self (by decide) hpos
  unfold ulp
  rw [abs_of_pos hpos, max_eq_left hlog]
  calc (2 : ℚ) ^ (Int.log 2 q - 52) ≤ 2 ^ Int.log 2 q := zpow_le_zpow_right₀ (by norm_num) (by omega)
    _ ≤ q := by exact_mod_cast hself

/-- A number rounds to at most its double. -/
theorem nearestFloat_le {q : ℚ} (h : 1 / 2 ^ 1022 ≤ q) : nearestFloat q ≤ 2 * q := by
  have hu := ulp_pos q
  have hround : roundEven (q / ulp q) ≤ ⌈q / ulp q⌉ := roundEven_le_of_le (Int.le_ceil _)
  have hceil : (⌈q / ulp q⌉ : ℚ) ≤ q / ulp q + 1 := (Int.ceil_lt_add_one _).le
  have hround' : (roundEven (q / ulp q) : ℚ) ≤ q / ulp q + 1 := le_trans (by exact_mod_cast hround) hceil
  unfold nearestFloat
  calc (roundEven (q / ulp q) : ℚ) * ulp q ≤ (q / ulp q + 1) * ulp q := mul_le_mul_of_nonneg_right hround' hu.le
    _ = q + ulp q := by field_simp
    _ ≤ 2 * q := by linarith [ulp_le h]

example : round12 (nearestFloat (1 / 3)) = nearestFloat (333333333333 / 10 ^ 12) := by decide +kernel
example : sqrtFloat 2 = 6369051672525773 / 2 ^ 52 := by decide +kernel

end EvaluationLab.Python
