import Mathlib.Algebra.BigOperators.Group.List.Basic
import Mathlib.Data.List.Forall2
import Mathlib.Data.List.Nodup
import Mathlib.Tactic.Abel

/-! Sums over the groups of a list. -/
namespace EvaluationLab.Structure

variable {α β κ M : Type} [AddCommMonoid M]

/-- One key of a list without repetition contributes once. -/
theorem sum_map_single [DecidableEq κ] {keys : List κ} {key : κ} (hnodup : keys.Nodup) (hkey : key ∈ keys)
    (w : M) : (keys.map fun k => if key = k then w else 0).sum = w := by
  induction keys with
  | nil => cases hkey
  | cons k keys ih =>
    obtain ⟨hnew, htail⟩ := List.nodup_cons.mp hnodup
    rw [List.map_cons, List.sum_cons]
    by_cases hk : key = k
    · have hzero : (keys.map fun j => if key = j then w else 0) = keys.map fun _ => 0 := by
        apply List.map_congr_left
        intro j hj
        rw [if_neg]
        rintro rfl
        exact hnew (hk ▸ hj)
      rw [if_pos hk, hzero]
      simp
    · have hrest : key ∈ keys := (List.mem_cons.mp hkey).resolve_left hk
      rw [if_neg hk, zero_add, ih htail hrest]

/-- Summing group by group sums the whole list. -/
theorem sum_groups [DecidableEq κ] {keys : List κ} {xs : List α} (key : α → κ) (w : α → M)
    (hnodup : keys.Nodup) (hkeys : ∀ x ∈ xs, key x ∈ keys) :
    (keys.map fun k => ((xs.filter fun x => key x = k).map w).sum).sum = (xs.map w).sum := by
  induction xs with
  | nil => simp
  | cons x xs ih =>
    rw [List.forall_mem_cons] at hkeys
    have hsplit : ∀ k, (((x :: xs).filter fun y => key y = k).map w).sum =
        (if key x = k then w x else 0) + ((xs.filter fun y => key y = k).map w).sum := by
      intro k
      by_cases hk : key x = k
      · simp [hk]
      · simp [hk]
    simp only [hsplit]
    rw [List.sum_map_add, ih hkeys.2, sum_map_single hnodup hkeys.1, List.map_cons, List.sum_cons]

/-- Aligned lists have equal sums over aligned selections. -/
theorem sum_filter_aligned {R : α → β → Prop} {xs : List α} {ys : List β} (h : List.Forall₂ R xs ys)
    {p : α → Bool} {q : β → Bool} {f : α → M} {g : β → M} (hpq : ∀ x y, R x y → p x = q y)
    (hfg : ∀ x y, R x y → f x = g y) : ((xs.filter p).map f).sum = ((ys.filter q).map g).sum := by
  induction h with
  | nil => rfl
  | @cons x y xs ys hxy _ ih =>
    by_cases hp : p x = true
    · rw [List.filter_cons_of_pos hp, List.filter_cons_of_pos (hpq x y hxy ▸ hp), List.map_cons, List.map_cons,
        List.sum_cons, List.sum_cons, ih, hfg x y hxy]
    · rw [List.filter_cons_of_neg hp, List.filter_cons_of_neg (hpq x y hxy ▸ hp), ih]

end EvaluationLab.Structure
