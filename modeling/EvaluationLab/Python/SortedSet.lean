import EvaluationLab.Python.Order
import Mathlib.Data.List.Dedup

/-! The distinct texts of a list in ascending order, and the groups of a list under a key. -/
namespace EvaluationLab.Python

/-- `sorted(set(texts))`. -/
def sortedSet (texts : List PyStr) : List PyStr := texts.dedup.insertionSort fun s t => strLe s t = true

theorem mem_sortedSet {texts : List PyStr} {t : PyStr} : t ∈ sortedSet texts ↔ t ∈ texts := by
  rw [sortedSet, List.mem_insertionSort, List.mem_dedup]

/-- A set has no members when its list has none. -/
theorem sortedSet_eq_nil_iff {texts : List PyStr} : sortedSet texts = [] ↔ texts = [] := by
  unfold sortedSet
  rw [← List.length_eq_zero_iff, List.length_insertionSort, List.length_eq_zero_iff, List.dedup_eq_nil]

theorem ascending_sortedSet (texts : List PyStr) : (sortedSet texts).Pairwise fun s t => strLt s t = true := by
  have hkeys : (texts.dedup.map id).Nodup := by
    rw [List.map_id]
    exact List.nodup_dedup texts
  exact pairwise_strLt_insertionSort id hkeys

theorem nodup_sortedSet (texts : List PyStr) : (sortedSet texts).Nodup :=
  (ascending_sortedSet texts).imp fun h => ne_of_strLt h

/-- Only the members count. -/
theorem sortedSet_congr {texts texts' : List PyStr} (h : ∀ t, t ∈ texts ↔ t ∈ texts') :
    sortedSet texts = sortedSet texts' := by
  have hperm : texts.dedup.Perm texts'.dedup := by
    rw [List.perm_ext_iff_of_nodup (List.nodup_dedup _) (List.nodup_dedup _)]
    intro t
    rw [List.mem_dedup, List.mem_dedup, h]
  have hkeys : (texts.dedup.map id).Nodup := by
    rw [List.map_id]
    exact List.nodup_dedup texts
  exact insertionSort_eq_of_perm id hperm hkeys

/-- A list that ascends is its own sorted set. -/
theorem sortedSet_eq_self {texts : List PyStr} (h : texts.Pairwise fun s t => strLt s t = true) :
    sortedSet texts = texts := by
  have hnodup : texts.Nodup := h.imp fun hlt => ne_of_strLt hlt
  rw [sortedSet, hnodup.dedup]
  exact List.Pairwise.insertionSort_eq (h.imp fun hlt => strLe_of_strLt hlt)

section Distinct

variable {α : Type} [DecidableEq α]

theorem length_dedup_congr {xs ys : List α} (h : ∀ x, x ∈ xs ↔ x ∈ ys) : xs.dedup.length = ys.dedup.length := by
  apply List.Perm.length_eq
  rw [List.perm_ext_iff_of_nodup (List.nodup_dedup _) (List.nodup_dedup _)]
  intro x
  rw [List.mem_dedup, List.mem_dedup, h]

/-- `len(set(xs)) > 1`. -/
theorem one_lt_length_dedup_iff {xs : List α} : 1 < xs.dedup.length ↔ ∃ x ∈ xs, ∃ y ∈ xs, x ≠ y := by
  constructor
  · intro h
    have hnodup := List.nodup_dedup xs
    have hmem : ∀ x ∈ xs.dedup, x ∈ xs := fun x => List.mem_dedup.mp
    cases hlist : xs.dedup with
    | nil => simp [hlist] at h
    | cons x l =>
      cases l with
      | nil => simp [hlist] at h
      | cons y l =>
        rw [hlist] at hnodup hmem
        refine ⟨x, hmem x (by simp), y, hmem y (by simp), fun heq => ?_⟩
        rw [List.nodup_cons] at hnodup
        exact hnodup.1 (heq ▸ List.mem_cons_self)
  · rintro ⟨x, hx, y, hy, hne⟩
    by_contra hle
    have hone : ∀ l : List α, l.length ≤ 1 → x ∈ l → y ∈ l → x = y := by
      intro l hl hx hy
      cases l with
      | nil => cases hx
      | cons a l =>
        cases l with
        | nil => rw [List.mem_singleton.mp hx, List.mem_singleton.mp hy]
        | cons b l => simp at hl
    exact hne (hone _ (not_lt.mp hle) (List.mem_dedup.mpr hx) (List.mem_dedup.mpr hy))

end Distinct

section Groups

variable {α : Type}

/-- The members of each key, the keys in ascending order. -/
def groupsOf (key : α → PyStr) (xs : List α) : List (PyStr × List α) :=
  (sortedSet (xs.map key)).map fun k => (k, xs.filter fun x => key x = k)

theorem mem_groupsOf {key : α → PyStr} {xs : List α} {g : PyStr × List α} : g ∈ groupsOf key xs ↔
    (∃ x ∈ xs, key x = g.1) ∧ g.2 = xs.filter fun x => key x = g.1 := by
  rw [groupsOf, List.mem_map]
  constructor
  · rintro ⟨k, hk, rfl⟩
    exact ⟨List.mem_map.mp (mem_sortedSet.mp hk), rfl⟩
  · rintro ⟨hk, hg⟩
    refine ⟨g.1, mem_sortedSet.mpr (List.mem_map.mpr hk), ?_⟩
    rw [← hg]

theorem keys_groupsOf (key : α → PyStr) (xs : List α) : (groupsOf key xs).map Prod.fst = sortedSet (xs.map key) := by
  rw [groupsOf, List.map_map]
  exact List.map_id _

/-- No group is empty. -/
theorem groupsOf_ne_nil {key : α → PyStr} {xs : List α} {g : PyStr × List α} (h : g ∈ groupsOf key xs) : g.2 ≠ [] := by
  obtain ⟨⟨x, hx, hkey⟩, hg⟩ := mem_groupsOf.mp h
  rw [hg]
  exact List.ne_nil_of_mem (List.mem_filter.mpr ⟨hx, decide_eq_true hkey⟩)

/-- Grouping labelled members is grouping by the label. -/
theorem groupsOf_labelled (key : α → PyStr) (xs : List α) :
    (groupsOf Prod.fst (xs.map fun x => (key x, x))).map (fun g => (g.1, g.2.map Prod.snd)) = groupsOf key xs := by
  have hkeys : (xs.map fun x => (key x, x)).map Prod.fst = xs.map key := by
    rw [List.map_map]
    rfl
  rw [groupsOf, groupsOf, hkeys, List.map_map]
  apply List.map_congr_left
  intro k _
  dsimp only [Function.comp]
  rw [List.filter_map, List.map_map]
  congr 1
  exact List.map_id _

end Groups

end EvaluationLab.Python
