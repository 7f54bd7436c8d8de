import Mathlib.Data.List.Sort
import Mathlib.Data.List.Dedup

/-! What comes out sorted does not show the order it came in. -/
namespace EvaluationLab.Structure

variable {α : Type} (r : α → α → Prop) [DecidableRel r] [Std.Total r] [IsTrans α r] [Std.Antisymm r] {xs ys : List α}

theorem sort_eq_of_perm (h : xs.Perm ys) : xs.insertionSort r = ys.insertionSort r := by
  have hperm := ((List.perm_insertionSort r xs).trans h).trans (List.perm_insertionSort r ys).symm
  exact hperm.eq_of_pairwise' (List.pairwise_insertionSort r xs) (List.pairwise_insertionSort r ys)

/-- Lists without repetition and of the same members are sorted into the same list. -/
theorem sort_eq_of_mem_iff (hxs : xs.Nodup) (hys : ys.Nodup) (h : ∀ x, x ∈ xs ↔ x ∈ ys) :
    xs.insertionSort r = ys.insertionSort r :=
  sort_eq_of_perm r ((List.perm_ext_iff_of_nodup hxs hys).mpr h)

end EvaluationLab.Structure
