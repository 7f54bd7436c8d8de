import EvaluationLab.Python.Text
import Mathlib.Data.List.Lex
import Mathlib.Order.Defs.LinearOrder

/-! The order of strings is the lexicographic order of their code points. -/
namespace EvaluationLab.Python

theorem strLt_iff (s t : PyStr) : strLt s t = true ↔ s < t := by
  induction s generalizing t with
  | nil =>
    cases t with
    | nil => simp [strLt]
    | cons b t => simp [strLt]
  | cons a s ih =>
    cases t with
    | nil => simp [strLt]
    | cons b t =>
      rw [strLt, List.cons_lt_cons_iff, Bool.or_eq_true, Bool.and_eq_true, decide_eq_true_eq, beq_iff_eq, ih]

theorem strLe_iff (s t : PyStr) : strLe s t = true ↔ s ≤ t := by
  rw [strLe, Bool.not_eq_true', ← Bool.not_eq_true, strLt_iff, not_lt]

theorem strLe_of_strLt {s t : PyStr} (h : strLt s t = true) : strLe s t = true :=
  (strLe_iff s t).mpr (le_of_lt ((strLt_iff s t).mp h))

theorem ne_of_strLt {s t : PyStr} (h : strLt s t = true) : s ≠ t :=
  ne_of_lt ((strLt_iff s t).mp h)

instance {α : Type} (key : α → PyStr) : Std.Total fun a b => strLe (key a) (key b) = true where
  total a b := by
    rw [strLe_iff, strLe_iff]
    exact le_total _ _

instance {α : Type} (key : α → PyStr) : IsTrans α fun a b => strLe (key a) (key b) = true where
  trans a b c hab hbc := by
    rw [strLe_iff] at hab hbc ⊢
    exact le_trans hab hbc

/-- Rows with different keys are in strictly increasing order once sorted. -/
theorem pairwise_strLt_insertionSort {α : Type} (key : α → PyStr) {rows : List α} (h : (rows.map key).Nodup) :
    (rows.insertionSort fun a b => strLe (key a) (key b) = true).Pairwise fun a b => strLt (key a) (key b) = true := by
  have hsorted := List.pairwise_insertionSort (fun a b => strLe (key a) (key b) = true) rows
  have hdistinct := ((List.perm_insertionSort (fun a b => strLe (key a) (key b) = true) rows).map key).nodup_iff.mpr h
  rw [List.Nodup, List.pairwise_map] at hdistinct
  refine (hsorted.and hdistinct).imp fun {a b} hab => ?_
  rw [strLt_iff]
  exact lt_of_le_of_ne ((strLe_iff _ _).mp hab.1) hab.2

instance {α : Type} (key : α → PyStr) : Std.Antisymm fun a b => strLt (key a) (key b) = true where
  antisymm a b hab hba := by
    rw [strLt_iff] at hab hba
    exact absurd hba (lt_asymm hab)

/-- The order in which rows with different keys come does not show once they are sorted. -/
theorem insertionSort_eq_of_perm {α : Type} (key : α → PyStr) {rows rows' : List α} (h : rows.Perm rows')
    (hkeys : (rows.map key).Nodup) :
    (rows.insertionSort fun a b => strLe (key a) (key b) = true) =
      rows'.insertionSort fun a b => strLe (key a) (key b) = true := by
  have hperm := ((List.perm_insertionSort (fun a b => strLe (key a) (key b) = true) rows).trans h).trans
    (List.perm_insertionSort (fun a b => strLe (key a) (key b) = true) rows').symm
  exact hperm.eq_of_pairwise' (pairwise_strLt_insertionSort key hkeys)
    (pairwise_strLt_insertionSort key ((h.map key).nodup_iff.mp hkeys))

end EvaluationLab.Python
