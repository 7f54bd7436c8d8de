import EvaluationLab.BM0.Estimate
import EvaluationLab.Statistics.ScoreInterval

/-! The Wilson interval in exact arithmetic: the bounds before they are clamped and rounded. -/
namespace EvaluationLab.BM0
open Python Statistics

/-- The quantile as the constant of the source holds it. -/
def wilsonQuantile : ℚ := nearestFloat (1959963984540054 / 10 ^ 15)

theorem wilsonQuantile_pos : (0 : ℝ) < wilsonQuantile := by
  have hpos : 0 < wilsonQuantile := by decide +kernel
  exact_mod_cast hpos

noncomputable section

/-- `center - half` and `center + half` of `wilson_interval_v1`, with no operation rounded. -/
def exactWilson (failures denominator : ℤ) : ℝ × ℝ :=
  let z : ℝ := wilsonQuantile
  let p : ℝ := failures / denominator
  let z2 := z * z
  let center := (p + z2 / (2 * denominator)) / (1 + z2 / denominator)
  let half := z * √((p * (1 - p) + z2 / (4 * denominator)) / denominator) / (1 + z2 / denominator)
  (center - half, center + half)

variable {failures denominator : ℤ}

/-- The bounds are those of a score interval. -/
theorem exactWilson_eq (hd : 0 < denominator) : exactWilson failures denominator =
    (scoreLower ((wilsonQuantile : ℝ) * wilsonQuantile / denominator) (failures / denominator),
      scoreUpper ((wilsonQuantile : ℝ) * wilsonQuantile / denominator) (failures / denominator)) := by
  have hn : (0 : ℝ) < denominator := by exact_mod_cast hd
  have hz := wilsonQuantile_pos
  have hroot : (wilsonQuantile : ℝ) * √(((failures : ℝ) / denominator * (1 - (failures : ℝ) / denominator) +
      (wilsonQuantile : ℝ) * wilsonQuantile / (4 * denominator)) / denominator) =
      √((wilsonQuantile : ℝ) * wilsonQuantile / denominator * ((failures : ℝ) / denominator * (1 - (failures : ℝ) / denominator) +
        (wilsonQuantile : ℝ) * wilsonQuantile / denominator / 4)) := by
    rw [← Real.sqrt_sq hz.le, ← Real.sqrt_mul (sq_nonneg _), Real.sqrt_sq hz.le]
    congr 1
    field_simp
  have hcenter : (wilsonQuantile : ℝ) * wilsonQuantile / (2 * denominator) =
      (wilsonQuantile : ℝ) * wilsonQuantile / denominator / 2 := by
    field_simp
  simp only [exactWilson, scoreLower, scoreUpper, scoreCenter, scoreHalf, hroot, hcenter]

/-- The bounds contain the observed rate between zero and one, so clamping leaves them alone; they are mirrored
when failures and successes change places, and both grow with the failures. -/
theorem exactWilson_bounds (h0 : 0 ≤ failures) (h1 : failures ≤ denominator) (hd : 0 < denominator) :
    (0 ≤ (exactWilson failures denominator).1 ∧ (exactWilson failures denominator).1 ≤ failures / denominator ∧
      (failures : ℝ) / denominator ≤ (exactWilson failures denominator).2 ∧ (exactWilson failures denominator).2 ≤ 1) ∧
    (max 0 (exactWilson failures denominator).1 = (exactWilson failures denominator).1 ∧
      min 1 (exactWilson failures denominator).2 = (exactWilson failures denominator).2) ∧
    ((exactWilson (denominator - failures) denominator).1 = 1 - (exactWilson failures denominator).2 ∧
      (exactWilson (denominator - failures) denominator).2 = 1 - (exactWilson failures denominator).1) ∧
    ∀ failures', failures ≤ failures' → failures' ≤ denominator →
      (exactWilson failures denominator).1 ≤ (exactWilson failures' denominator).1 ∧
      (exactWilson failures denominator).2 ≤ (exactWilson failures' denominator).2 := by
  have hn : (0 : ℝ) < denominator := by exact_mod_cast hd
  have hz := wilsonQuantile_pos
  have hs : (0 : ℝ) < (wilsonQuantile : ℝ) * wilsonQuantile / denominator := by positivity
  have hk : (0 : ℝ) ≤ failures := by exact_mod_cast h0
  have hkn : (failures : ℝ) ≤ denominator := by exact_mod_cast h1
  have hp : (0 : ℝ) ≤ failures / denominator := div_nonneg hk hn.le
  have hp' : (failures : ℝ) / denominator ≤ 1 := div_le_one_of_le₀ hkn hn.le
  have hmirror : ((denominator - failures : ℤ) : ℝ) / denominator = 1 - failures / denominator := by
    push_cast
    field_simp
  obtain ⟨hlow, hhigh⟩ := score_unit hs hp hp'
  obtain ⟨hbelow, habove⟩ := score_contains hs hp hp'
  rw [exactWilson_eq hd, exactWilson_eq hd, hmirror]
  refine ⟨⟨hlow, hbelow, habove, hhigh⟩, ⟨max_eq_right hlow, min_eq_right hhigh⟩, score_mirror hs, fun failures' h2 h3 => ?_⟩
  have hkk : (failures : ℝ) ≤ failures' := by exact_mod_cast h2
  have hkn' : (failures' : ℝ) ≤ denominator := by exact_mod_cast h3
  have hpq : (failures : ℝ) / denominator ≤ failures' / denominator := div_le_div_of_nonneg_right hkk hn.le
  have hq : (failures' : ℝ) / denominator ≤ 1 := div_le_one_of_le₀ hkn' hn.le
  rw [exactWilson_eq hd]
  exact ⟨scoreLower_mono hs hp hpq hq, scoreUpper_mono hs hp hpq hq⟩

theorem exactWilson_bounds_sample : 0 ≤ (exactWilson 1 4).1 ∧ (exactWilson 1 4).2 ≤ 1 ∧
    (exactWilson (4 - 1) 4).1 = 1 - (exactWilson 1 4).2 ∧ (exactWilson 1 4).1 ≤ (exactWilson 2 4).1 := by
  obtain ⟨⟨hlow, -, -, hhigh⟩, -, ⟨hmirror, -⟩, hmono⟩ := exactWilson_bounds (show (0 : ℤ) ≤ 1 by decide)
    (show (1 : ℤ) ≤ 4 by decide) (by decide)
  exact ⟨hlow, hhigh, hmirror, (hmono 2 (by decide) (by decide)).1⟩

end

end EvaluationLab.BM0
