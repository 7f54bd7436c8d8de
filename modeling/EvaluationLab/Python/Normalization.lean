import EvaluationLab.Python.JsonEncoder

/-! Unicode normal forms, case folding and the collapse of white space, as far as the code relies on
them. -/
namespace EvaluationLab.Python

/-- A character that JSON writes with a backslash. -/
def Escaped (c : ℕ) : Prop := c < 32 ∨ c = 34 ∨ c = 92

instance (c : ℕ) : Decidable (Escaped c) := inferInstanceAs (Decidable (_ ∨ _))

/-- `unicodedata.normalize("NFKC", …)` and `str.casefold`, which folds character by character. -/
class PyNormalization where
  nfkc : PyStr → PyStr
  casefoldPoint : ℕ → PyStr
  nfkc_ascii : ∀ s : PyStr, (∀ c ∈ s, c < 128) → nfkc s = s
  casefoldPoint_ascii : ∀ c < 128, casefoldPoint c = [asciiLower c]
  /-- A text that is not blank does not become blank. -/
  nfkc_solid : ∀ s : PyStr, (∃ c ∈ s, isSpace c = false) → ∃ c ∈ nfkc s, isSpace c = false
  casefoldPoint_solid : ∀ c, isSpace c = false → ∃ d ∈ casefoldPoint c, isSpace d = false
  /-- No other character folds to one that JSON escapes. -/
  casefoldPoint_escaped : ∀ c, ∀ d ∈ casefoldPoint c, Escaped d → c = d

section Normal

variable [PyNormalization]

/-- `str.casefold`. -/
def casefold (s : PyStr) : PyStr := s.flatMap PyNormalization.casefoldPoint

/-- `str.split()`. -/
def words (s : PyStr) : List PyStr := (s.splitOnP isSpace).filter fun w => w ≠ []

/-- `" ".join(normalize("NFKC", s).casefold().split())`. -/
def normal (s : PyStr) : PyStr := [32].intercalate (words (casefold (PyNormalization.nfkc s)))

omit [PyNormalization] in
theorem exists_word {s : PyStr} {c : ℕ} (hc : c ∈ s) (hsolid : isSpace c = false) : ∃ w ∈ words s, c ∈ w := by
  have hpiece : ∃ w ∈ s.splitOnP isSpace, c ∈ w := by
    induction s with
    | nil => cases hc
    | cons d s ih =>
      rw [List.splitOnP_cons_eq_if_modifyHead]
      rcases List.mem_cons.mp hc with rfl | hc
      · rw [if_neg (by rw [hsolid]; exact Bool.false_ne_true)]
        obtain ⟨w, ws, hw⟩ := List.exists_cons_of_ne_nil (List.splitOnP_ne_nil isSpace s)
        rw [hw]
        exact ⟨c :: w, List.mem_cons_self, List.mem_cons_self⟩
      · obtain ⟨w, hw, hcw⟩ := ih hc
        split_ifs
        · exact ⟨w, List.mem_cons_of_mem _ hw, hcw⟩
        · cases hsplit : s.splitOnP isSpace with
          | nil => exact absurd hsplit (List.splitOnP_ne_nil isSpace s)
          | cons v vs =>
            rw [hsplit] at hw
            rcases List.mem_cons.mp hw with rfl | hw
            · exact ⟨d :: w, List.mem_cons_self, List.mem_cons_of_mem _ hcw⟩
            · exact ⟨w, List.mem_cons_of_mem _ hw, hcw⟩
  obtain ⟨w, hw, hcw⟩ := hpiece
  exact ⟨w, List.mem_filter.mpr ⟨hw, decide_eq_true (List.ne_nil_of_mem hcw)⟩, hcw⟩

omit [PyNormalization] in
theorem mem_intercalate {ws : List PyStr} {w : PyStr} {c : ℕ} (hw : w ∈ ws) (hc : c ∈ w) : c ∈ [32].intercalate ws := by
  induction ws with
  | nil => cases hw
  | cons v vs ih =>
    cases vs with
    | nil =>
      rw [List.mem_singleton.mp hw] at hc
      simpa using hc
    | cons u us =>
      have hsplit : [32].intercalate (v :: u :: us) = v ++ ([32] ++ [32].intercalate (u :: us)) := by
        simp [List.intercalate]
      rw [hsplit, List.mem_append, List.mem_append]
      rcases List.mem_cons.mp hw with rfl | hw
      · exact .inl hc
      · exact .inr (.inr (ih hw))

/-- A normal text is blank only if the text is. -/
theorem exists_solid_normal {s : PyStr} (h : ∃ c ∈ s, isSpace c = false) : ∃ c ∈ normal s, isSpace c = false := by
  obtain ⟨c, hc, hsolid⟩ := PyNormalization.nfkc_solid s h
  obtain ⟨d, hd, hsolid'⟩ := PyNormalization.casefoldPoint_solid c hsolid
  obtain ⟨w, hw, hdw⟩ := exists_word (List.mem_flatMap.mpr ⟨c, hc, hd⟩) hsolid'
  exact ⟨d, mem_intercalate hw hdw, hsolid'⟩

end Normal

namespace Latin

/-- A dot over an `s` is composed with it. -/
def composed : PyStr → PyStr
  | 115 :: 0x307 :: s => 0x1e61 :: composed s
  | c :: s => c :: composed s
  | [] => []

theorem composed_ascii {s : PyStr} (h : ∀ c ∈ s, c < 128) : composed s = s := by
  fun_induction composed s with
  | case1 s _ => exact absurd (h 0x307 (by simp)) (by decide)
  | case2 c s _ ih => rw [ih fun d hd => h d (List.mem_cons_of_mem _ hd)]
  | case3 => rfl

theorem composed_solid {s : PyStr} (h : ∃ c ∈ s, isSpace c = false) : ∃ c ∈ composed s, isSpace c = false := by
  fun_induction composed s with
  | case1 s _ => exact ⟨0x1e61, List.mem_cons_self, by decide⟩
  | case2 c s _ ih =>
    obtain ⟨d, hd, hsolid⟩ := h
    rcases List.mem_cons.mp hd with rfl | hd
    · exact ⟨d, List.mem_cons_self, hsolid⟩
    · obtain ⟨e, he, hsolid⟩ := ih ⟨d, hd, hsolid⟩
      exact ⟨e, List.mem_cons_of_mem _ he, hsolid⟩
  | case3 =>
    obtain ⟨c, hc, -⟩ := h
    cases hc

/-- The small letters of a character: `ß` has two. -/
def folded (c : ℕ) : PyStr := if c = 0xdf then [115, 115] else [asciiLower c]

theorem isSpace_asciiLower (c : ℕ) : isSpace (asciiLower c) = isSpace c := by
  unfold asciiLower
  split_ifs with h
  · have hall : ∀ c ∈ List.range' 65 26, isSpace (c + 32) = isSpace c := by decide +kernel
    rw [Bool.and_eq_true, decide_eq_true_eq, decide_eq_true_eq] at h
    exact hall c (List.mem_range'_1.mpr (by omega))
  · rfl

/-- The tables as far as they are about ASCII text, `ß`, and `s` with a dot over it. -/
scoped instance : PyNormalization where
  nfkc := composed
  casefoldPoint := folded
  nfkc_ascii _ := composed_ascii
  casefoldPoint_ascii c hc := if_neg (by omega)
  nfkc_solid _ := composed_solid
  casefoldPoint_solid c hc := by
    unfold folded
    split_ifs
    · exact ⟨115, List.mem_cons_self, by decide⟩
    · exact ⟨asciiLower c, List.mem_cons_self, by rw [isSpace_asciiLower, hc]⟩
  casefoldPoint_escaped c d hd hescaped := by
    unfold folded at hd
    split_ifs at hd
    · have hd : d = 115 := by simpa using hd
      subst hd
      exact absurd hescaped (by decide)
    · have hd : d = asciiLower c := List.mem_singleton.mp hd
      unfold asciiLower at hd
      unfold Escaped at hescaped
      split_ifs at hd with hupper
      · rw [Bool.and_eq_true, decide_eq_true_eq, decide_eq_true_eq] at hupper
        omega
      · exact hd.symm

end Latin

end EvaluationLab.Python
