import Mathlib.Algebra.Order.BigOperators.Group.List
import Mathlib.Algebra.Order.Field.Basic
import Mathlib.Algebra.BigOperators.Group.List.Basic
import Mathlib.Algebra.Order.Ring.Abs
import Mathlib.Tactic.Ring

/-! The mean of a list: between the bounds of its members, and close to the mean of close members. -/
namespace EvaluationLab.Statistics

variable {α β : Type} [Field α] [LinearOrder α] [IsStrictOrderedRing α]

def mean (xs : List α) : α := xs.sum / xs.length

variable {xs : List α} {b : α}

theorem length_pos_of_ne_nil {ys : List β} (hne : ys ≠ []) : (0 : α) < ys.length := by
  exact_mod_cast List.length_pos_of_ne_nil hne

theorem mean_le (hne : xs ≠ []) (h : ∀ x ∈ xs, x ≤ b) : mean xs ≤ b := by
  have hsum := List.sum_le_card_nsmul xs b h
  rw [nsmul_eq_mul] at hsum
  rw [mean, div_le_iff₀ (length_pos_of_ne_nil hne), mul_comm]
  exact hsum

theorem le_mean (hne : xs ≠ []) (h : ∀ x ∈ xs, b ≤ x) : b ≤ mean xs := by
  have hsum := List.card_nsmul_le_sum xs b h
  rw [nsmul_eq_mul] at hsum
  rw [mean, le_div_iff₀ (length_pos_of_ne_nil hne), mul_comm]
  exact hsum

omit [LinearOrder α] [IsStrictOrderedRing α] in
theorem mean_sub_mean (ys : List β) (f g : β → α) :
    mean (ys.map f) - mean (ys.map g) = mean (ys.map fun y => f y - g y) := by
  rw [mean, mean, mean, List.length_map, List.length_map, List.length_map, ← sub_div]
  congr 1
  induction ys with
  | nil => simp
  | cons y ys ih =>
    simp only [List.map_cons, List.sum_cons, ← ih]
    ring

/-- Members that differ by at most `b` have means that differ by at most `b`. -/
theorem abs_mean_sub_mean_le {ys : List β} {f g : β → α} (hne : ys ≠ []) (h : ∀ y ∈ ys, |f y - g y| ≤ b) :
    |mean (ys.map f) - mean (ys.map g)| ≤ b := by
  have hmap : ys.map (fun y => f y - g y) ≠ [] := fun hnil => hne (List.map_eq_nil_iff.mp hnil)
  rw [mean_sub_mean, abs_le]
  constructor
  · apply le_mean hmap
    intro x hx
    obtain ⟨y, hy, rfl⟩ := List.mem_map.mp hx
    exact (abs_le.mp (h y hy)).1
  · apply mean_le hmap
    intro x hx
    obtain ⟨y, hy, rfl⟩ := List.mem_map.mp hx
    exact (abs_le.mp (h y hy)).2

end EvaluationLab.Statistics
