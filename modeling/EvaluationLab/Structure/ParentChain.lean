import Mathlib.Data.Finset.Dedup
import Mathlib.Data.Finset.Max
import Mathlib.Data.List.Chain
import Mathlib.Logic.Relation
import Mathlib.Tactic.Common

/-! Parent pointers whose classes turn out to be linear chains. -/
namespace EvaluationLab.Structure

variable {α τ : Type}

/-- Local conditions on parent pointers: a parent is a node of smaller rank and the same class,
no two nodes share a parent, and a class has at most one root. -/
structure LinearParents (nodes : List α) (parent : α → Option α) (rank : α → ℕ) (cls : α → τ) : Prop where
  parent_mem : ∀ a ∈ nodes, ∀ p, parent a = some p → p ∈ nodes
  rank_lt : ∀ a ∈ nodes, ∀ p, parent a = some p → rank p < rank a
  cls_eq : ∀ a ∈ nodes, ∀ p, parent a = some p → cls p = cls a
  only_child : ∀ a ∈ nodes, ∀ b ∈ nodes, ∀ p, parent a = some p → parent b = some p → a = b
  only_root : ∀ a ∈ nodes, ∀ b ∈ nodes, cls a = cls b → parent a = none → parent b = none → a = b

/-- `line` leads from a root down to `a`. -/
inductive LeadsTo (parent : α → Option α) : α → List α → Prop where
  | root {a : α} : parent a = none → LeadsTo parent a [a]
  | child {a p : α} {line : List α} : parent a = some p → LeadsTo parent p line → LeadsTo parent a (line ++ [a])

variable {nodes : List α} {parent : α → Option α} {rank : α → ℕ} {cls : α → τ}

theorem LeadsTo.ne_nil {a : α} {line : List α} (h : LeadsTo parent a line) : line ≠ [] := by
  cases h <;> simp

theorem LeadsTo.getLast? {a : α} {line : List α} (h : LeadsTo parent a line) : line.getLast? = some a := by
  cases h <;> simp

theorem LeadsTo.head_root {a : α} {line : List α} (h : LeadsTo parent a line) :
    ∀ r ∈ line.head?, parent r = none := by
  induction h with
  | root h => simpa using h
  | @child a p line _ hp ih =>
    rw [List.head?_append_of_ne_nil _ hp.ne_nil]
    exact ih

theorem LeadsTo.isChain {a : α} {line : List α} (h : LeadsTo parent a line) :
    line.IsChain fun x y => parent y = some x := by
  induction h with
  | root h => exact .singleton _
  | @child a p line hpar hp ih =>
    apply ih.append (.singleton _)
    intro x hx y hy
    rw [hp.getLast?] at hx
    cases hx
    cases hy
    exact hpar

/-- Every node of a line is led to by the line up to it. -/
theorem LeadsTo.take {a : α} {nodes : List α} (h : LeadsTo parent a nodes) :
    ∀ i (hi : i < nodes.length), LeadsTo parent nodes[i] (nodes.take (i + 1)) := by
  induction h with
  | @root a h =>
    intro i hi
    have h0 : i = 0 := by simpa using hi
    subst h0
    exact .root h
  | @child a p line hpar hp ih =>
    intro i hi
    by_cases hlast : i < line.length
    · rw [List.getElem_append_left hlast, List.take_append_of_le_length (by omega)]
      exact ih i hlast
    · have hi' : i = line.length := by simp at hi; omega
      subst hi'
      rw [List.getElem_append_right (le_refl _), List.take_of_length_le (by simp)]
      simpa using LeadsTo.child hpar hp

namespace LinearParents
variable (h : LinearParents nodes parent rank cls)
include h

/-- No node is its own ancestor. -/
theorem acyclic (a : α) : ¬ Relation.TransGen (fun x p => x ∈ nodes ∧ parent x = some p) a a := by
  have descend : ∀ {x y : α}, Relation.TransGen (fun x p => x ∈ nodes ∧ parent x = some p) x y →
      rank y < rank x := by
    intro x y hxy
    induction hxy with
    | single hs => exact h.rank_lt _ hs.1 _ hs.2
    | tail _ hs ih => exact (h.rank_lt _ hs.1 _ hs.2).trans ih
  intro hcycle
  exact lt_irrefl _ (descend hcycle)

/-- Every node is reached from a root. -/
theorem exists_line (a : α) (ha : a ∈ nodes) : ∃ line, LeadsTo parent a line := by
  induction hr : rank a using Nat.strong_induction_on generalizing a with
  | _ n ih =>
    cases hp : parent a with
    | none => exact ⟨[a], .root hp⟩
    | some p =>
      obtain ⟨line, hline⟩ := ih (rank p) (hr ▸ h.rank_lt a ha p hp) p (h.parent_mem a ha p hp) rfl
      exact ⟨line ++ [a], .child hp hline⟩

theorem mem_of_line {a : α} {line : List α} (hline : LeadsTo parent a line) (ha : a ∈ nodes) :
    ∀ x ∈ line, x ∈ nodes ∧ cls x = cls a ∧ rank x ≤ rank a := by
  induction hline with
  | root _ => simpa using ha
  | @child a p line hpar hp ih =>
    have hmem := ih (h.parent_mem a ha p hpar)
    have hcls := h.cls_eq a ha p hpar
    have hrank := h.rank_lt a ha p hpar
    intro x hx
    rcases List.mem_append.mp hx with hx | hx
    · obtain ⟨hxn, hxc, hxr⟩ := hmem x hx
      exact ⟨hxn, hxc.trans hcls, by omega⟩
    · cases List.mem_singleton.mp hx
      exact ⟨ha, rfl, le_refl _⟩

theorem nodup_of_line {a : α} {line : List α} (hline : LeadsTo parent a line) (ha : a ∈ nodes) :
    line.Nodup := by
  induction hline with
  | root _ => simp
  | @child a p line hpar hp ih =>
    have hpn := h.parent_mem a ha p hpar
    have hnew : a ∉ line := by
      intro hx
      have hle := (h.mem_of_line hp hpn a hx).2.2
      have hlt := h.rank_lt a ha p hpar
      omega
    exact (ih hpn).append (List.nodup_singleton a) (by simpa using hnew)

/-- Nodes of one class at one depth are one node. -/
theorem eq_of_depth {a b : α} {line line' : List α} (ha : a ∈ nodes) (hb : b ∈ nodes) (hcls : cls a = cls b)
    (hline : LeadsTo parent a line) (hline' : LeadsTo parent b line') (hlen : line.length = line'.length) :
    a = b := by
  induction hline generalizing b line' with
  | root hroot =>
    cases hline' with
    | root hroot' => exact h.only_root _ ha _ hb hcls hroot hroot'
    | child _ hp => exact absurd (by simpa using hlen) hp.ne_nil
  | @child a p line hpar hp ih =>
    cases hline' with
    | root _ => exact absurd (by simpa using hlen) hp.ne_nil
    | @child b q line' hpar' hq =>
      have hpq : p = q := by
        apply ih (h.parent_mem a ha p hpar) (h.parent_mem b hb q hpar') _ hq (by simpa using hlen)
        rw [h.cls_eq a ha p hpar, h.cls_eq b hb q hpar', hcls]
      exact h.only_child a ha b hb p hpar (hpq ▸ hpar')

/-- The nodes of a class are exactly the members of one line. -/
theorem exists_class_line (a : α) (ha : a ∈ nodes) :
    ∃ last line, last ∈ nodes ∧ LeadsTo parent last line ∧ ∀ x, x ∈ line ↔ x ∈ nodes ∧ cls x = cls a := by
  classical
  -- the deepest node of the class ends the line
  let members := (nodes.filter fun x => cls x = cls a).toFinset
  choose! line hline using h.exists_line
  have hne : members.Nonempty := ⟨a, by simp [members, ha]⟩
  obtain ⟨last, hlast, hmax⟩ := members.exists_max_image (fun x => (line x).length) hne
  obtain ⟨hmem, hcls⟩ : last ∈ nodes ∧ cls last = cls a := by simpa [members] using hlast
  refine ⟨last, line last, hmem, hline last hmem, ?_⟩
  intro x
  constructor
  · intro hx
    obtain ⟨hxn, hxc, -⟩ := h.mem_of_line (hline last hmem) hmem x hx
    exact ⟨hxn, hxc.trans hcls⟩
  · rintro ⟨hxn, hxc⟩
    have hle := hmax x (by simp [members, hxn, hxc])
    have hpos := List.length_pos_of_ne_nil (hline x hxn).ne_nil
    have hi : (line x).length - 1 < (line last).length := by omega
    have htake := (hline last hmem).take _ hi
    have hin := List.getElem_mem hi
    have hnode := h.mem_of_line (hline last hmem) hmem _ hin
    have heq := h.eq_of_depth hxn hnode.1 (hxc.trans (hnode.2.1.trans hcls).symm) (hline x hxn) htake
      (by rw [List.length_take]; omega)
    rw [heq]
    exact hin

end LinearParents
end EvaluationLab.Structure
