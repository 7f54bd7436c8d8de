import EvaluationLab.Python.Text
import Mathlib.Tactic.Common

/-! `str.replace` and `re.sub`: leftmost matches that do not overlap, each written anew. A
matcher says how many characters it takes at a place, after the character before it; none
means that it does not match there. -/
namespace EvaluationLab.Python

abbrev Matcher := Option ℕ → PyStr → ℕ

/-- `skip` characters of the last match are still to be dropped. -/
def substituteFrom (matcher : Matcher) (replacement : PyStr) : (skip : ℕ) → (before : Option ℕ) → PyStr → PyStr
  | _, _, [] => []
  | skip + 1, _, c :: s => substituteFrom matcher replacement skip (some c) s
  | 0, before, c :: s =>
    match matcher before (c :: s) with
    | 0 => c :: substituteFrom matcher replacement 0 (some c) s
    | length + 1 => replacement ++ substituteFrom matcher replacement length (some c) s

def substitute (matcher : Matcher) (replacement text : PyStr) : PyStr :=
  substituteFrom matcher replacement 0 none text

/-- Matches a fixed text. -/
def literal (old : PyStr) : Matcher := fun _ s => if old.isPrefixOf s then old.length else 0

/-- `text.replace(old, new)` for a text `old` that is not empty. -/
def replace (text old new : PyStr) : PyStr := substitute (literal old) new text

section Marked

variable {α : Type} {lead needle : List α} {mark : α}

/-- A text without the mark that a marked replacement begins is found in its unmarked part. -/
theorem prefix_lead (lead : List α) {a rest : List α} (hmark : mark ∉ a) (h : a <+: lead ++ mark :: rest) : a <+: lead := by
  rcases List.prefix_or_prefix_of_prefix h (List.prefix_append lead (mark :: rest)) with ha | ha
  · exact ha
  · obtain ⟨b, rfl⟩ := ha
    rw [List.prefix_append_right_inj] at h
    cases b with
    | nil => simp
    | cons c b =>
      have hc : c = mark := (List.cons_prefix_cons.mp h).1
      exact absurd (by simp [hc]) hmark

theorem infix_lead {rest : List α} (hmark : mark ∉ needle) (h : needle <:+: lead ++ mark :: rest) :
    needle <:+: lead ∨ needle <:+: rest := by
  induction lead with
  | nil =>
    rw [List.nil_append, List.infix_cons_iff] at h
    rcases h with h | h
    · left
      exact (prefix_lead [] hmark h).isInfix
    · exact .inr h
  | cons c lead ih =>
    rw [List.cons_append, List.infix_cons_iff] at h
    rcases h with h | h
    · left
      exact (prefix_lead (c :: lead) hmark h).isInfix
    · rcases ih h with h | h
      · exact .inl (h.trans (List.suffix_cons c lead).isInfix)
      · exact .inr h

end Marked

section Infix

variable {matcher : Matcher} {lead needle : PyStr} {mark : ℕ}

/-- No part of the needle's end can be the start of a replacement. -/
def Apart (needle lead : PyStr) : Prop := ∀ p a, needle = p ++ a → a ≠ [] → ¬a <+: lead

theorem Apart.tail {c : ℕ} (h : Apart (c :: needle) lead) : Apart needle lead := by
  intro p a hn ha
  exact h (c :: p) a (by rw [hn]; rfl) ha

/-- What starts a substituted text, and cannot run into a replacement, starts the text. -/
theorem prefix_of_prefix_substitute (matcher : Matcher) (before : Option ℕ) {s : PyStr} (hmark : mark ∉ needle)
    (hapart : Apart needle lead) (h : needle <+: substituteFrom matcher (lead ++ [mark]) 0 before s) :
    needle <+: s := by
  induction s generalizing needle before with
  | nil => simpa [substituteFrom] using h
  | cons c s ih =>
    cases needle with
    | nil => exact List.nil_prefix
    | cons n needle =>
      rw [substituteFrom] at h
      split at h
      · obtain ⟨rfl, hrest⟩ := List.cons_prefix_cons.mp h
        have hprefix := ih _ (fun hm => hmark (List.mem_cons_of_mem _ hm)) hapart.tail hrest
        exact List.cons_prefix_cons.mpr ⟨rfl, hprefix⟩
      · rw [List.append_assoc] at h
        exact absurd (prefix_lead lead hmark h) (hapart [] _ rfl (List.cons_ne_nil _ _))

/-- What a substituted text contains, and neither lies in a replacement nor runs into one,
stands in the text where nothing matched. -/
theorem unmatched_of_infix_substitute {skip : ℕ} {before : Option ℕ} {s : PyStr} (hne : needle ≠ [])
    (hmark : mark ∉ needle) (hlead : ¬needle <:+: lead) (hapart : Apart needle lead)
    (h : needle <:+: substituteFrom matcher (lead ++ [mark]) skip before s) :
    ∃ before' t, t <:+ s ∧ needle <+: t ∧ matcher before' t = 0 := by
  induction s generalizing skip before with
  | nil =>
    rw [substituteFrom, List.infix_nil] at h
    exact absurd h hne
  | cons c s ih =>
    have hlater : (∃ before' t, t <:+ s ∧ needle <+: t ∧ matcher before' t = 0) →
        ∃ before' t, t <:+ c :: s ∧ needle <+: t ∧ matcher before' t = 0 := by
      rintro ⟨before', t, ht, hneedle, hm⟩
      exact ⟨before', t, ht.trans (List.suffix_cons c s), hneedle, hm⟩
    cases skip with
    | succ skip =>
      rw [substituteFrom] at h
      exact hlater (ih h)
    | zero =>
      rw [substituteFrom] at h
      split at h
      · rename_i hzero
        rcases List.infix_cons_iff.mp h with h | h
        · refine ⟨before, c :: s, List.suffix_refl _, ?_, hzero⟩
          apply prefix_of_prefix_substitute matcher before hmark hapart
          rw [substituteFrom, hzero]
          exact h
        · exact hlater (ih h)
      · rw [List.append_assoc] at h
        rcases infix_lead hmark h with h | h
        · exact absurd h hlead
        · exact hlater (ih h)

/-- A substitution does not make up a text that its replacement has no part of. -/
theorem infix_of_infix_substitute {s : PyStr} (hne : needle ≠ []) (hmark : mark ∉ needle)
    (hlead : ¬needle <:+: lead) (hapart : Apart needle lead)
    (h : needle <:+: substitute matcher (lead ++ [mark]) s) : needle <:+: s := by
  obtain ⟨_, t, ht, hneedle, _⟩ := unmatched_of_infix_substitute hne hmark hlead hapart h
  exact hneedle.isInfix.trans ht.isInfix

/-- A replaced text does not come back. -/
theorem not_infix_replace {s : PyStr} (hne : needle ≠ []) (hmark : mark ∉ needle)
    (hlead : ¬needle <:+: lead) (hapart : Apart needle lead) : ¬needle <:+: replace s needle (lead ++ [mark]) := by
  intro h
  obtain ⟨_, t, _, hneedle, hm⟩ := unmatched_of_infix_substitute hne hmark hlead hapart h
  rw [literal, if_pos (List.isPrefixOf_iff_prefix.mpr hneedle)] at hm
  exact hne (List.eq_nil_of_length_eq_zero hm)

/-- A replacement that opens with a character the needle lacks keeps apart from it. -/
theorem apart_of_not_mem {c : ℕ} {rest : PyStr} (h : c ∉ needle) : Apart needle (c :: rest) := by
  rintro p a rfl ha hprefix
  cases a with
  | nil => exact ha rfl
  | cons d a =>
    obtain ⟨rfl, -⟩ := List.cons_prefix_cons.mp hprefix
    exact h (by simp)

end Infix

end EvaluationLab.Python
