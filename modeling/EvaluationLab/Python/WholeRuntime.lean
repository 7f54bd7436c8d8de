import EvaluationLab.Python.AsciiRuntime
import EvaluationLab.Python.Loaded
import Mathlib.Tactic.Ring

/-! The interpreter on ASCII text and floats that are natural numbers: there a float reads back
as it was written. -/
namespace EvaluationLab.Python

/-- The interpreter on ASCII text and whole floats. -/
@[reducible] def wholeRuntime : PyRuntime := { asciiRuntime with roundFloat := fun q => .finite (⌊q⌋₊ : ℕ) }

namespace Whole

scoped instance : PyRuntime := wholeRuntime

theorem decimalRepr_natCast (n : ℕ) : decimalRepr (.finite n) = natText n ++ [46, 48] := by
  have hneg : ¬((n : ℚ) < 0) := not_lt.mpr (Nat.cast_nonneg n)
  have hfloor : ⌊|(n : ℚ)|⌋ = (n : ℤ) := by rw [abs_of_nonneg (Nat.cast_nonneg n), Int.floor_natCast]
  have hrest : fractionDigits 17 (|(n : ℚ)| - (⌊|(n : ℚ)|⌋ : ℤ)) = [48] := by
    rw [hfloor, abs_of_nonneg (Nat.cast_nonneg n), Int.cast_natCast, sub_self]
    decide +kernel
  rw [decimalRepr, if_neg hneg, hrest, hfloor]
  rfl

/-- A whole float, and nothing of a number after it. -/
theorem parseNumber_whole {digits rest : PyStr} (negative : Bool) (hdigits : ∀ c ∈ digits, isAsciiDigit c = true)
    (hne : digits ≠ []) (hzero : digits.head? = some 48 → digits = [48]) (hrest : Ends rest) :
    parseNumber negative (digits ++ 46 :: 48 :: rest) =
      if negative ∧ digitsValue (digits ++ [48]) = 0 then .ok (.float .negativeZero, rest)
      else .ok (.float (PyRuntime.roundFloat ((if negative then -1 else 1 : ℤ) * (digitsValue (digits ++ [48]) : ℕ) *
        (10 : ℚ) ^ ((0 : ℤ) - 1))), rest) := by
  have hpoint : ∀ s : PyStr, (46 :: s).takeWhile isAsciiDigit = [] := fun s => rfl
  have htake : (digits ++ 46 :: 48 :: rest).takeWhile isAsciiDigit = digits := by
    rw [List.takeWhile_append_of_pos hdigits, hpoint, List.append_nil]
  have hone := hrest.takeWhile [48] (by decide)
  have hdrop : (48 :: rest).dropWhile isAsciiDigit = rest := by
    have happend := List.takeWhile_append_dropWhile (p := isAsciiDigit) (l := 48 :: rest)
    rw [List.singleton_append] at hone
    rw [hone] at happend
    exact (List.cons.inj happend).2
  have hfraction : takeFraction (46 :: 48 :: rest) = ([48], rest) := by
    rw [List.singleton_append] at hone
    rw [takeFraction, hone]
    dsimp only
    rw [hdrop]
  unfold parseNumber
  split
  · rename_i tail heq
    have hone : digits = [48] := by
      apply hzero
      cases digits with
      | nil => exact absurd rfl hne
      | cons c s => rw [(List.cons.inj heq).1, List.head?_cons]
    subst hone
    obtain rfl : tail = 46 :: 48 :: rest := (List.cons.inj heq).2.symm
    dsimp only
    rw [if_neg (by decide), List.length_singleton, List.drop_one, List.singleton_append, List.tail_cons, hfraction]
    dsimp only
    rw [hrest.takeExponent]
    dsimp only
    rw [if_neg (by simp)]
    rfl
  · dsimp only
    rw [htake, if_neg hne, List.drop_left, hfraction]
    dsimp only
    rw [hrest.takeExponent]
    dsimp only
    rw [if_neg (by simp)]
    rfl

theorem digitsValue_snoc_zero (n : ℕ) : digitsValue (natText n ++ [48]) = n * 10 := by
  have hvalue := digitsValue_natText n
  unfold digitsValue at hvalue ⊢
  rw [List.foldl_append, hvalue]
  rfl

theorem readsBack_whole (n : ℕ) : ReadsBack (.finite n) := by
  intro depth fuel rest hrest
  have htext : renderFloat (.finite n) = natText n ++ [46, 48] := decimalRepr_natCast n
  have hzero : (natText n).head? = some 48 → natText n = [48] := by
    intro hhead
    by_cases h : n = 0
    · rw [h]
      exact natText_small (by decide)
    · exact absurd hhead (head_natText (Nat.pos_of_ne_zero h))
  have hnumber := parseNumber_whole false (fun c => natText_digit (n := n)) (natText_ne_nil n) hzero hrest
  have hvalue : ((1 : ℤ) : ℚ) * ((n * 10 : ℕ) : ℚ) * (10 : ℚ) ^ ((0 : ℤ) - 1) = n := by
    push_cast
    norm_num
    ring
  rw [if_neg (by simp), digitsValue_snoc_zero, if_neg Bool.false_ne_true, hvalue] at hnumber
  have hround : PyRuntime.roundFloat (n : ℚ) = .finite n := by
    show PyFloat.finite ((⌊(n : ℚ)⌋₊ : ℕ) : ℚ) = .finite n
    rw [Nat.floor_natCast]
  rw [hround] at hnumber
  cases hdigits : natText n with
  | nil => exact absurd hdigits (natText_ne_nil n)
  | cons c t =>
    have hdigit : isAsciiDigit c = true := natText_digit (n := n) (by rw [hdigits]; exact List.mem_cons_self)
    rw [hdigits, List.cons_append] at hnumber
    rw [htext, hdigits, List.append_assoc, List.cons_append, parseValue_number hdigit]
    exact hnumber

theorem readsBack_negativeZero : ReadsBack .negativeZero := by
  intro depth fuel rest hrest
  have hnumber : parseNumber true ([48] ++ 46 :: 48 :: rest) = .ok (.float .negativeZero, rest) := by
    rw [parseNumber_whole true (by decide) (by decide) (fun _ => rfl) hrest, if_pos ⟨rfl, rfl⟩]
  show parseValue depth (fuel + 1) (45 :: 48 :: 46 :: 48 :: rest) = _
  rw [parseValue_minus (by decide)]
  exact hnumber

scoped instance : RoundTripFloats where
  rounded q := readsBack_whole ⌊q⌋₊
  negativeZero := readsBack_negativeZero

end Whole

end EvaluationLab.Python
