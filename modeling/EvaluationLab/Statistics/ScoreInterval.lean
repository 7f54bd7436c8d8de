import Mathlib.Analysis.Real.Sqrt
import Mathlib.Tactic.FieldSimp
import Mathlib.Tactic.Linarith
import Mathlib.Tactic.Ring

/-! Score intervals of a proportion: the interval is where a quadratic is not positive, and from that it
contains the proportion, stays inside the unit interval and grows with the proportion. -/
namespace EvaluationLab.Statistics
noncomputable section

-- named instances: the numerals of a definition hold no proof of their own
scoped instance atLeastTwo_two : Nat.AtLeastTwo 2 := inferInstance

scoped instance atLeastTwo_four : Nat.AtLeastTwo 4 := inferInstance

/-- The centre of the interval around `p`, for the squared quantile over the sample size. -/
def scoreCenter (s p : ℝ) : ℝ := (p + s / 2) / (1 + s)

/-- Its half width. -/
def scoreHalf (s p : ℝ) : ℝ := √(s * (p * (1 - p) + s / 4)) / (1 + s)

def scoreLower (s p : ℝ) : ℝ := scoreCenter s p - scoreHalf s p

def scoreUpper (s p : ℝ) : ℝ := scoreCenter s p + scoreHalf s p

section Interval

variable {s p q x : ℝ}

theorem scoreHalf_nonneg (hs : 0 < s) : 0 ≤ scoreHalf s p := by
  unfold scoreHalf
  positivity

theorem scoreHalf_sq (hs : 0 < s) (hp : 0 ≤ p) (hp' : p ≤ 1) :
    ((1 + s) * scoreHalf s p) ^ 2 = s * (p * (1 - p) + s / 4) := by
  have hvariance : 0 ≤ p * (1 - p) := mul_nonneg hp (by linarith)
  have hroot : 0 ≤ s * (p * (1 - p) + s / 4) := by positivity
  have hscale : (1 + s) * scoreHalf s p = √(s * (p * (1 - p) + s / 4)) := by
    rw [scoreHalf]
    field_simp
  rw [hscale, Real.sq_sqrt hroot]

/-- The interval is the set of proportions that the score test does not reject. -/
theorem mem_score_iff (hs : 0 < s) (hp : 0 ≤ p) (hp' : p ≤ 1) :
    (x - p) ^ 2 ≤ s * (x * (1 - x)) ↔ scoreLower s p ≤ x ∧ x ≤ scoreUpper s p := by
  have hpos : 0 < 1 + s := by linarith
  have hcenter : (1 + s) * scoreCenter s p = p + s / 2 := by
    rw [scoreCenter]
    field_simp
  have hquadratic : (1 + s) * ((x - p) ^ 2 - s * (x * (1 - x))) =
      ((1 + s) * (x - scoreCenter s p)) ^ 2 - ((1 + s) * scoreHalf s p) ^ 2 := by
    have hdistance : (1 + s) * (x - scoreCenter s p) = (1 + s) * x - (p + s / 2) := by rw [mul_sub, hcenter]
    rw [scoreHalf_sq hs hp hp', hdistance]
    ring
  have hwithin : (x - p) ^ 2 ≤ s * (x * (1 - x)) ↔
      ((1 + s) * (x - scoreCenter s p)) ^ 2 ≤ ((1 + s) * scoreHalf s p) ^ 2 := by
    rw [← mul_le_mul_iff_of_pos_left hpos, ← sub_nonpos, ← mul_sub, hquadratic, sub_nonpos]
  have hhalf : 0 ≤ (1 + s) * scoreHalf s p := mul_nonneg hpos.le (scoreHalf_nonneg hs)
  rw [hwithin, sq_le_sq, abs_of_nonneg hhalf, abs_mul, abs_of_pos hpos, mul_le_mul_iff_of_pos_left hpos, abs_le,
    scoreLower, scoreUpper]
  constructor
  · rintro ⟨hlow, hhigh⟩
    exact ⟨by linarith, by linarith⟩
  · rintro ⟨hlow, hhigh⟩
    exact ⟨by linarith, by linarith⟩

theorem lower_le_upper (hs : 0 < s) : scoreLower s p ≤ scoreUpper s p := by
  have hhalf := scoreHalf_nonneg (p := p) hs
  rw [scoreLower, scoreUpper]
  linarith

/-- A proportion is in its interval. -/
theorem score_contains (hs : 0 < s) (hp : 0 ≤ p) (hp' : p ≤ 1) : scoreLower s p ≤ p ∧ p ≤ scoreUpper s p := by
  rw [← mem_score_iff hs hp hp', sub_self]
  have hvariance : 0 ≤ p * (1 - p) := mul_nonneg hp (by linarith)
  nlinarith

/-- What is not rejected is a proportion. -/
theorem unit_of_score (hs : 0 < s) (h : (x - p) ^ 2 ≤ s * (x * (1 - x))) : 0 ≤ x ∧ x ≤ 1 := by
  have hvariance : 0 ≤ x * (1 - x) := by
    have hnonneg : 0 ≤ s * (x * (1 - x)) := (sq_nonneg _).trans h
    exact nonneg_of_mul_nonneg_right hnonneg hs
  constructor
  · by_contra hneg
    nlinarith
  · by_contra hlarge
    nlinarith

theorem score_unit (hs : 0 < s) (hp : 0 ≤ p) (hp' : p ≤ 1) : 0 ≤ scoreLower s p ∧ scoreUpper s p ≤ 1 := by
  have hlower := (mem_score_iff hs hp hp').mpr ⟨le_refl _, lower_le_upper hs⟩
  have hupper := (mem_score_iff hs hp hp').mpr ⟨lower_le_upper hs, le_refl _⟩
  exact ⟨(unit_of_score hs hlower).1, (unit_of_score hs hupper).2⟩

/-- The interval of the other outcome is the mirror image. -/
theorem score_mirror (hs : 0 < s) : scoreLower s (1 - p) = 1 - scoreUpper s p ∧ scoreUpper s (1 - p) = 1 - scoreLower s p := by
  have hcenter : scoreCenter s (1 - p) = 1 - scoreCenter s p := by
    rw [scoreCenter, scoreCenter]
    field_simp
    ring
  have hhalf : scoreHalf s (1 - p) = scoreHalf s p := by
    rw [scoreHalf, scoreHalf]
    congr 3
    ring
  rw [scoreLower, scoreLower, scoreUpper, scoreUpper, hcenter, hhalf]
  constructor <;> ring

/-- The upper bound grows with the proportion. -/
theorem scoreUpper_mono (hs : 0 < s) (hp : 0 ≤ p) (hpq : p ≤ q) (hq : q ≤ 1) : scoreUpper s p ≤ scoreUpper s q := by
  have hq0 : 0 ≤ q := hp.trans hpq
  by_cases hle : scoreUpper s p ≤ q
  · exact hle.trans (score_contains hs hq0 hq).2
  · -- past `q` the bound of `p` is nearer to `q` than to `p`, so it is not rejected for `q` either
    have hlt : q < scoreUpper s p := not_le.mp hle
    have hupper := (mem_score_iff hs hp (hpq.trans hq)).mpr ⟨lower_le_upper hs, le_refl _⟩
    have hnearer : (scoreUpper s p - q) ^ 2 ≤ (scoreUpper s p - p) ^ 2 := by
      apply pow_le_pow_left₀ <;> linarith
    exact ((mem_score_iff hs hq0 hq).mp (hnearer.trans hupper)).2

theorem scoreLower_mono (hs : 0 < s) (hp : 0 ≤ p) (hpq : p ≤ q) (hq : q ≤ 1) : scoreLower s p ≤ scoreLower s q := by
  have hmirror := scoreUpper_mono (p := 1 - q) (q := 1 - p) hs (by linarith) (by linarith) (by linarith)
  rw [(score_mirror hs).2, (score_mirror hs).2] at hmirror
  linarith

end Interval

end

end EvaluationLab.Statistics
