import EvaluationLab.Python.Value
import Mathlib.Data.List.Infix

/-! Regular expressions searched for in a text, and characters they cannot do without. -/
namespace EvaluationLab.Python

/-- A regular expression over classes of characters. -/
inductive Pattern where
  | skip
  | one (cls : ℕ → Bool)
  | seq (first second : Pattern)
  | alt (first second : Pattern)
  | many (least : ℕ) (cls : ℕ → Bool)
  | boundary

/-- Where a run of at least `least` characters of a class can end. -/
def manyEnds (cls : ℕ → Bool) : (least : ℕ) → (before : Option ℕ) → PyStr → List (Option ℕ × PyStr)
  | 0, before, [] => [(before, [])]
  | _ + 1, _, [] => []
  | 0, before, c :: s => (before, c :: s) :: if cls c then manyEnds cls 0 (some c) s else []
  | least + 1, _, c :: s => if cls c then manyEnds cls least (some c) s else []

section Search

variable [PyRuntime]

/-- Where a match that starts here can end: the character before that place and the text after it. -/
def Pattern.ends : Pattern → (before : Option ℕ) → PyStr → List (Option ℕ × PyStr)
  | .skip, before, s => [(before, s)]
  | .one _, _, [] => []
  | .one cls, _, c :: s => if cls c then [(some c, s)] else []
  | .seq first second, before, s => (first.ends before s).flatMap fun r => second.ends r.1 r.2
  | .alt first second, before, s => first.ends before s ++ second.ends before s
  | .many least cls, before, s => manyEnds cls least before s
  | .boundary, before, s =>
    if before.any PyRuntime.isWord != s.head?.any PyRuntime.isWord then [(before, s)] else []

def Pattern.searchFrom (pattern : Pattern) : (before : Option ℕ) → PyStr → Bool
  | before, [] => !(pattern.ends before []).isEmpty
  | before, c :: s => !(pattern.ends before (c :: s)).isEmpty || pattern.searchFrom (some c) s

/-- `re.search(pattern, text)` finds a match. -/
def Pattern.search (pattern : Pattern) (text : PyStr) : Bool := pattern.searchFrom none text

end Search

/-- Every match has a character of the class. -/
def Pattern.Requires (cls : ℕ → Bool) : Pattern → Prop
  | .skip => False
  | .one p => ∀ c, p c = true → cls c = true
  | .seq first second => first.Requires cls ∨ second.Requires cls
  | .alt first second => first.Requires cls ∧ second.Requires cls
  | .many least p => 0 < least ∧ ∀ c, p c = true → cls c = true
  | .boundary => False

theorem manyEnds_suffix {cls : ℕ → Bool} {least : ℕ} {before : Option ℕ} {s : PyStr} {r : Option ℕ × PyStr}
    (h : r ∈ manyEnds cls least before s) : r.2 <:+ s := by
  induction s generalizing least before with
  | nil =>
    cases least with
    | zero =>
      rw [manyEnds, List.mem_singleton] at h
      subst h
      exact List.suffix_refl _
    | succ least => cases h
  | cons c s ih =>
    cases least with
    | zero =>
      rw [manyEnds, List.mem_cons] at h
      rcases h with rfl | h
      · exact List.suffix_refl _
      · split_ifs at h with hc
        · exact (ih h).trans (List.suffix_cons c s)
        · cases h
    | succ least =>
      rw [manyEnds] at h
      split_ifs at h with hc
      · exact (ih h).trans (List.suffix_cons c s)
      · cases h

variable [PyRuntime]

theorem Pattern.ends_suffix {pattern : Pattern} {before : Option ℕ} {s : PyStr} {r : Option ℕ × PyStr}
    (h : r ∈ pattern.ends before s) : r.2 <:+ s := by
  induction pattern generalizing before s r with
  | skip =>
    rw [ends, List.mem_singleton] at h
    subst h
    exact List.suffix_refl _
  | one cls =>
    cases s with
    | nil => cases h
    | cons c s =>
      rw [ends] at h
      split_ifs at h with hc
      · rw [List.mem_singleton.mp h]
        exact List.suffix_cons c s
      · cases h
  | seq first second hfirst hsecond =>
    rw [ends, List.mem_flatMap] at h
    obtain ⟨m, hm, hr⟩ := h
    exact (hsecond hr).trans (hfirst hm)
  | alt first second hfirst hsecond =>
    rw [ends, List.mem_append] at h
    rcases h with h | h
    · exact hfirst h
    · exact hsecond h
  | many least cls => exact manyEnds_suffix h
  | boundary =>
    rw [ends] at h
    split_ifs at h with hb
    · rw [List.mem_singleton.mp h]
    · cases h

/-- A pattern does not match in a text without the characters it requires. -/
theorem Pattern.ends_eq_nil {cls : ℕ → Bool} {pattern : Pattern} (h : pattern.Requires cls) {s : PyStr}
    (hs : ∀ c ∈ s, cls c = false) (before : Option ℕ) : pattern.ends before s = [] := by
  induction pattern generalizing before s with
  | skip => exact h.elim
  | one p =>
    cases s with
    | nil => rfl
    | cons c s =>
      have hc : p c ≠ true := fun hp => by
        have hq := h c hp
        rw [hs c List.mem_cons_self] at hq
        cases hq
      rw [ends, if_neg hc]
  | seq first second hfirst hsecond =>
    rw [ends, List.flatMap_eq_nil_iff]
    intro r hr
    rcases h with h | h
    · rw [hfirst h hs before] at hr
      cases hr
    · exact hsecond h (fun c hc => hs c ((ends_suffix hr).subset hc)) r.1
  | alt first second hfirst hsecond => rw [ends, hfirst h.1 hs, hsecond h.2 hs, List.append_nil]
  | many least p =>
    obtain ⟨hleast, hcls⟩ := h
    obtain ⟨n, rfl⟩ := Nat.exists_eq_succ_of_ne_zero hleast.ne'
    cases s with
    | nil => rfl
    | cons c s =>
      have hc : p c ≠ true := fun hp => by
        have hq := hcls c hp
        rw [hs c List.mem_cons_self] at hq
        cases hq
      rw [ends, manyEnds, if_neg hc]
  | boundary => exact h.elim

theorem Pattern.search_eq_false {cls : ℕ → Bool} {pattern : Pattern} (h : pattern.Requires cls) {text : PyStr}
    (htext : ∀ c ∈ text, cls c = false) : pattern.search text = false := by
  have hfrom : ∀ before, pattern.searchFrom before text = false := by
    induction text with
    | nil =>
      intro before
      rw [searchFrom, ends_eq_nil h htext]
      rfl
    | cons c s ih =>
      intro before
      rw [searchFrom, ends_eq_nil h htext, ih (fun d hd => htext d (List.mem_cons_of_mem c hd))]
      rfl
  exact hfrom none

end EvaluationLab.Python
