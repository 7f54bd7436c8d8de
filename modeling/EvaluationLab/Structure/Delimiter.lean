import Mathlib.Data.List.Infix
import Mathlib.Tactic.Common

/-! Two texts joined by a line of their own: what the joined text leaves open. -/
namespace EvaluationLab.Structure

variable {α : Type} (mark : α) (line : List α)

/-- `head`, the line between two marks, and `tail`. -/
def delimited (head tail : List α) : List α := head ++ mark :: (line ++ mark :: tail)

/-- The second head goes on after the first one with the line, which stands in the first tail as well. -/
def Continues (head tail head' tail' : List α) : Prop :=
  ∃ rest, head' ++ [mark] = head ++ mark :: (line ++ mark :: rest) ∧ tail = rest ++ (line ++ mark :: tail')

/-- A head without the line: no line after its first one is it. -/
def Unlined (head : List α) : Prop := ¬(mark :: (line ++ [mark])) <:+: head ++ [mark]

variable {mark line} {head tail head' tail' : List α}

theorem delimited_of_continues (h : Continues mark line head tail head' tail') :
    delimited mark line head tail = delimited mark line head' tail' := by
  obtain ⟨rest, hhead, rfl⟩ := h
  have hsplit : delimited mark line head' tail' = (head' ++ [mark]) ++ (line ++ mark :: tail') := by simp [delimited]
  rw [hsplit, hhead]
  simp [delimited]

/-- A head that is the start of the other is the same, or the other continues it. -/
theorem continues_of_append (hline : mark ∉ line) {more : List α}
    (h : delimited mark line head tail = delimited mark line (head ++ more) tail') :
    (more = [] ∧ tail = tail') ∨ Continues mark line head tail (head ++ more) tail' := by
  rw [delimited, delimited, List.append_assoc, List.append_cancel_left_eq] at h
  cases more with
  | nil =>
    rw [List.nil_append, List.cons.injEq] at h
    have htail := List.append_cancel_left h.2
    exact .inl ⟨rfl, (List.cons.inj htail).2⟩
  | cons c more =>
    rw [List.cons_append, List.cons.injEq] at h
    obtain ⟨rfl, h⟩ := h
    right
    rcases List.append_eq_append_iff.mp h with ⟨rest, rfl, hrest⟩ | ⟨rest, hline', hrest⟩
    · cases rest with
      | nil =>
        rw [List.nil_append, List.cons.injEq] at hrest
        refine ⟨[], by simp, ?_⟩
        rw [hrest.2, List.nil_append]
      | cons d rest =>
        rw [List.cons_append, List.cons.injEq] at hrest
        obtain ⟨rfl, rfl⟩ := hrest
        exact ⟨rest ++ [mark], by simp, by simp⟩
    · cases rest with
      | nil =>
        rw [List.append_nil] at hline'
        rw [List.nil_append, List.cons.injEq] at hrest
        refine ⟨[], by simp [hline'], ?_⟩
        rw [← hrest.2, List.nil_append]
      | cons d rest =>
        rw [List.cons_append, List.cons.injEq] at hrest
        exact absurd (by rw [hline', ← hrest.1]; simp) hline

/-- Joined texts are equal just when their parts are, or one head continues the other. -/
theorem delimited_eq_iff (hline : mark ∉ line) : delimited mark line head tail = delimited mark line head' tail' ↔
    (head = head' ∧ tail = tail') ∨ Continues mark line head tail head' tail' ∨ Continues mark line head' tail' head tail := by
  constructor
  · intro h
    rcases List.append_eq_append_iff.mp h with ⟨more, rfl, -⟩ | ⟨more, rfl, -⟩
    · rcases continues_of_append hline h with ⟨rfl, htail⟩ | hcontinues
      · exact .inl ⟨(List.append_nil head).symm, htail⟩
      · exact .inr (.inl hcontinues)
    · rcases continues_of_append hline h.symm with ⟨rfl, htail⟩ | hcontinues
      · exact .inl ⟨List.append_nil head', htail.symm⟩
      · exact .inr (.inr hcontinues)
  · rintro (⟨rfl, rfl⟩ | h | h)
    · rfl
    · exact delimited_of_continues h
    · exact (delimited_of_continues h).symm

theorem not_continues_of_unlined (h : Unlined mark line head') : ¬Continues mark line head tail head' tail' := by
  rintro ⟨rest, hhead, -⟩
  refine h ⟨head, rest, ?_⟩
  rw [hhead]
  simp

/-- Heads without the line are told apart, and their tails are. -/
theorem delimited_injective (hline : mark ∉ line) (hhead : Unlined mark line head) (hhead' : Unlined mark line head')
    (h : delimited mark line head tail = delimited mark line head' tail') : head = head' ∧ tail = tail' := by
  rcases (delimited_eq_iff hline).mp h with hsame | hcontinues | hcontinues
  · exact hsame
  · exact absurd hcontinues (not_continues_of_unlined hhead')
  · exact absurd hcontinues (not_continues_of_unlined hhead)

end EvaluationLab.Structure
