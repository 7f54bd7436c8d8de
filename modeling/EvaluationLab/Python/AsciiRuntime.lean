import EvaluationLab.Python.Sha256
import Mathlib.Algebra.Order.Floor.Defs
import Mathlib.Data.Rat.Floor

/-! The interpreter on ASCII text, finite decimal floats and UTC times: every answer it gives
there is Python's. -/
namespace EvaluationLab.Python

/-- The last `width` decimal digits of a number. -/
def paddedDigits : (width n : ℕ) → PyStr
  | 0, _ => []
  | width + 1, n => paddedDigits width (n / 10) ++ [48 + n % 10]

theorem paddedDigits_digit (width n : ℕ) : ∀ c ∈ paddedDigits width n, isAsciiDigit c = true := by
  induction width generalizing n with
  | zero =>
    intro c hc
    cases hc
  | succ width ih =>
    intro c hc
    rcases List.mem_append.mp hc with hc | hc
    · exact ih (n / 10) c hc
    · have hlt := Nat.mod_lt n (by decide : 0 < 10)
      rw [List.mem_singleton.mp hc]
      simp only [isAsciiDigit, Bool.and_eq_true, decide_eq_true_eq]
      omega

/-- The decimal digits of a fraction below one, as many as it has up to `limit`. -/
def fractionDigits : (limit : ℕ) → ℚ → PyStr
  | 0, _ => []
  | limit + 1, q =>
    let digit := ⌊q * 10⌋.natAbs
    if q * 10 - digit = 0 then [48 + digit % 10]
    else (48 + digit % 10) :: fractionDigits limit (q * 10 - digit)

theorem fractionDigits_ascii (limit : ℕ) (q : ℚ) : ∀ c ∈ fractionDigits limit q, c < 128 := by
  induction limit generalizing q with
  | zero =>
    intro c hc
    cases hc
  | succ limit ih =>
    intro c hc
    have hlt := Nat.mod_lt ⌊q * 10⌋.natAbs (by decide : 0 < 10)
    unfold fractionDigits at hc
    dsimp only at hc
    split_ifs at hc
    · rw [List.mem_singleton.mp hc]
      omega
    · rcases List.mem_cons.mp hc with rfl | hc
      · omega
      · exact ih _ c hc

/-- `repr` of a float that is a short decimal. -/
def decimalRepr : PyFloat → PyStr
  | .finite q =>
    (if q < 0 then [45] else []) ++ natText ⌊|q|⌋.natAbs ++ 46 :: fractionDigits 17 (|q| - ⌊|q|⌋)
  | .negativeZero => [45, 48, 46, 48]
  | .infinity false => [105, 110, 102]
  | .infinity true => [45, 105, 110, 102]
  | .nan => [110, 97, 110]

theorem decimalRepr_ascii (x : PyFloat) : ∀ c ∈ decimalRepr x, c < 128 := by
  intro c hc
  cases x with
  | finite q =>
    rw [decimalRepr, List.append_assoc] at hc
    rcases List.mem_append.mp hc with hc | hc
    · split_ifs at hc
      · rw [List.mem_singleton.mp hc]
        decide
      · cases hc
    · rcases List.mem_append.mp hc with hc | hc
      · exact natText_ascii hc
      · rcases List.mem_cons.mp hc with rfl | hc
        · decide
        · exact fractionDigits_ascii _ _ c hc
  | negativeZero =>
    revert c
    decide
  | infinity negative =>
    revert c
    cases negative <;> decide
  | nan =>
    revert c
    decide

/-- Year, month and day of a day counted from 1 March of the year 0. -/
def civilDate (day : ℕ) : ℕ × ℕ × ℕ :=
  let era := day / 146097
  let dayOfEra := day % 146097
  let yearOfEra := (dayOfEra - dayOfEra / 1460 + dayOfEra / 36524 - dayOfEra / 146096) / 365
  let dayOfYear := dayOfEra - (365 * yearOfEra + yearOfEra / 4 - yearOfEra / 100)
  let month := (5 * dayOfYear + 2) / 153
  (yearOfEra + era * 400 + (if 10 ≤ month then 1 else 0),
    if 10 ≤ month then month - 9 else month + 3, dayOfYear - (153 * month + 2) / 5 + 1)

/-- The day of a date, counted from 1 March of the year 0. -/
def civilDay (year month day : ℕ) : ℕ :=
  let year := if month ≤ 2 then year - 1 else year
  let month := if month ≤ 2 then month + 9 else month - 3
  let yearOfEra := year % 400
  year / 400 * 146097 + yearOfEra * 365 + yearOfEra / 4 - yearOfEra / 100 + (153 * month + 2) / 5 + day - 1

/-- The day of the epoch. -/
def epochDay : ℕ := civilDay 1970 1 1

/-- `isoformat` of a UTC time given in microseconds, with `Z` for the offset. -/
def utcIsoformat (time : ℤ) : PyStr :=
  let (year, month, day) := civilDate (time / 86400000000 + epochDay).toNat
  let rest := (time % 86400000000).toNat
  let seconds := rest / 1000000
  paddedDigits 4 year ++ 45 :: paddedDigits 2 month ++ 45 :: paddedDigits 2 day ++
    84 :: paddedDigits 2 (seconds / 3600) ++ 58 :: paddedDigits 2 (seconds / 60 % 60) ++
    58 :: paddedDigits 2 (seconds % 60) ++
    (if rest % 1000000 = 0 then [] else 46 :: paddedDigits 6 (rest % 1000000)) ++ [90]

/-- A time is written with digits and five other characters. -/
theorem utcIsoformat_forall {P : ℕ → Prop} (hdigit : ∀ c, isAsciiDigit c = true → P c)
    (hmark : ∀ c ∈ py "-:.TZ", P c) (time : ℤ) : ∀ c ∈ utcIsoformat time, P c := by
  have hmarks : py "-:.TZ" = [45, 58, 46, 84, 90] := by decide +kernel
  rw [hmarks] at hmark
  simp only [List.forall_mem_cons] at hmark
  obtain ⟨hdash, hcolon, hpoint, ht, hz, -⟩ := hmark
  have hdigits : ∀ width n, ∀ c ∈ paddedDigits width n, P c :=
    fun width n c hc => hdigit c (paddedDigits_digit width n c hc)
  have hfraction : ∀ n, ∀ c ∈ (if n = 0 then [] else 46 :: paddedDigits 6 n), P c := by
    intro n
    split_ifs
    · simp
    · rw [List.forall_mem_cons]
      exact ⟨hpoint, hdigits 6 n⟩
  unfold utcIsoformat
  simp only [List.append_assoc, List.cons_append, List.forall_mem_append, List.forall_mem_cons]
  exact ⟨hdigits _ _, hdash, hdigits _ _, hdash, hdigits _ _, ht, hdigits _ _, hcolon, hdigits _ _, hcolon,
    hdigits _ _, hfraction _, hz, by simp⟩

/-- `datetime.fromisoformat` of `YYYY-MM-DDTHH:MM:SS+00:00`. -/
def utcFromisoformat (text : PyStr) : ParsedTime :=
  let digitsAt (start width : ℕ) : ℕ :=
    ((text.drop start).take width).foldl (fun n c => n * 10 + (c - 48)) 0
  let marks := [4, 7, 10, 13, 16].map fun i => (text.drop i).take 1
  let digits := (text.take 4) ++ [5, 8, 11, 14, 17].flatMap fun i => (text.drop i).take 2
  if marks = [[45], [45], [84], [58], [58]] ∧ digits.all isAsciiDigit ∧ digits.length = 14 ∧
      text.drop 19 = py "+00:00" then
    .aware ((((civilDay (digitsAt 0 4) (digitsAt 5 2) (digitsAt 8 2) : ℤ) - epochDay) * 86400 +
      digitsAt 11 2 * 3600 + digitsAt 14 2 * 60 + digitsAt 17 2) * 1000000)
  else .malformed

/-- The interpreter on ASCII text. -/
@[reducible] def asciiRuntime : PyRuntime where
  sha256 := Sha256.sha256
  lower s := s.map asciiLower
  isDigit := isAsciiDigit
  isWord := isAsciiWord
  floatRepr := decimalRepr
  roundFloat q := .finite q
  recursionLimit := 1000
  fromisoformat := utcFromisoformat
  isoformat := utcIsoformat
  lower_ascii _ _ := rfl
  isDigit_ascii _ _ := rfl
  isWord_ascii _ _ := rfl
  isWord_of_isDigit c h := by simp [isAsciiWord, h]
  floatRepr_ascii := decimalRepr_ascii
  isoformat_chars := utcIsoformat_forall (fun _ hc => .inl hc) (fun _ hc => .inr hc)

namespace Ascii

scoped instance : PyRuntime := asciiRuntime

end Ascii

example : utcIsoformat 1783339506000007 = py "2026-07-06T12:05:06.000007Z" := by decide +kernel

end EvaluationLab.Python
