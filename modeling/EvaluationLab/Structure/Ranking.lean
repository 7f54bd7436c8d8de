import Mathlib.Data.List.Sort

/-! The first few of a list in a given order: what they are, and that nothing else could stand there. -/
namespace EvaluationLab.Structure

variable {α : Type} (r : α → α → Prop)

/-- `best` are the first `n` of `xs` in the order and `rest` are the others. -/
structure Foremost (n : ℕ) (xs best rest : List α) : Prop where
  split : (best ++ rest).Perm xs
  ordered : best.Pairwise r
  ahead : ∀ x ∈ best, ∀ y ∈ rest, r x y
  full : best.length = min n xs.length

variable {r} {n : ℕ} {xs best rest : List α}

/-- Of a list without repetition only the order of different members matters. -/
theorem Foremost.mono {s : α → α → Prop} (h : Foremost r n xs best rest) (hxs : xs.Nodup)
    (hrs : ∀ x ∈ xs, ∀ y ∈ xs, x ≠ y → r x y → s x y) : Foremost s n xs best rest := by
  have hbest : ∀ x ∈ best, x ∈ xs := fun x hx => h.split.mem_iff.mp (List.mem_append_left _ hx)
  have hrest : ∀ x ∈ rest, x ∈ xs := fun x hx => h.split.mem_iff.mp (List.mem_append_right _ hx)
  obtain ⟨hnodup, -, hdisjoint⟩ := List.pairwise_append.mp (h.split.nodup_iff.mpr hxs)
  refine ⟨h.split, ?_, ?_, h.full⟩
  · exact (h.ordered.and hnodup).imp_of_mem fun {x y} hx hy hxy => hrs x (hbest x hx) y (hbest y hy) hxy.2 hxy.1
  · intro x hx y hy
    exact hrs x (hbest x hx) y (hrest y hy) (hdisjoint x hx y hy) (h.ahead x hx y hy)

section Sorted

variable [DecidableRel r] [Std.Total r] [IsTrans α r]

/-- A sorted list, cut. -/
theorem foremost_sort (n : ℕ) (xs : List α) :
    Foremost r n xs ((xs.insertionSort r).take n) ((xs.insertionSort r).drop n) := by
  have hsorted : ((xs.insertionSort r).take n ++ (xs.insertionSort r).drop n).Pairwise r := by
    rw [List.take_append_drop]
    exact List.pairwise_insertionSort r xs
  obtain ⟨hordered, -, hahead⟩ := List.pairwise_append.mp hsorted
  refine ⟨?_, hordered, hahead, ?_⟩
  · rw [List.take_append_drop]
    exact List.perm_insertionSort r xs
  · rw [List.length_take, List.length_insertionSort]

/-- Where the order tells the members apart, the first few are those of the sorted list. -/
theorem Foremost.eq_sort (h : Foremost r n xs best rest) (hanti : ∀ x ∈ xs, ∀ y ∈ xs, r x y → r y x → x = y) :
    best = (xs.insertionSort r).take n := by
  have hrest : ∀ y ∈ rest.insertionSort r, y ∈ rest := fun y hy => (List.mem_insertionSort r).mp hy
  have hsorted : (best ++ rest.insertionSort r).Pairwise r :=
    List.pairwise_append.mpr ⟨h.ordered, List.pairwise_insertionSort r rest, fun x hx y hy => h.ahead x hx y (hrest y hy)⟩
  have hperm : (best ++ rest.insertionSort r).Perm xs :=
    ((List.perm_insertionSort r rest).append_left best).trans h.split
  have hall : best ++ rest.insertionSort r = xs.insertionSort r := by
    refine (hperm.trans (List.perm_insertionSort r xs).symm).eq_of_pairwise ?_ hsorted (List.pairwise_insertionSort r xs)
    intro x y hx hy hxy hyx
    exact hanti x (hperm.mem_iff.mp hx) y ((List.mem_insertionSort r).mp hy) hxy hyx
  have htake := congrArg (List.take n) hall
  rw [List.take_append] at htake
  by_cases hn : n ≤ xs.length
  · have hlength : best.length = n := by rw [h.full, min_eq_left hn]
    rw [← htake, hlength, Nat.sub_self, List.take_zero, List.append_nil, ← hlength, List.take_length]
  · have hlength : best.length = xs.length := by rw [h.full, min_eq_right (by omega)]
    have hnil : rest = [] := by
      have hcount := h.split.length_eq
      rw [List.length_append] at hcount
      exact List.eq_nil_of_length_eq_zero (by omega)
    rw [← hall, hnil, List.insertionSort_nil, List.append_nil, List.take_of_length_le (by omega)]

end Sorted

end EvaluationLab.Structure
