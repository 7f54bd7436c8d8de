import EvaluationLab.Python.Equality

/-! Comparison of numbers. An integer is compared with a float by value. -/
namespace EvaluationLab.Python

/-- `x < y` on numbers. -/
def numberLt : PyFloat → PyFloat → Bool
  | .nan, _ => false
  | _, .nan => false
  | .infinity a, .infinity b => a && !b
  | .infinity a, _ => a
  | _, .infinity b => !b
  | .finite p, .finite q => p < q
  | .finite p, .negativeZero => p < 0
  | .negativeZero, .finite q => 0 < q
  | .negativeZero, .negativeZero => false

/-- `v < w`; what is not a number is not compared. -/
def pyLt (v w : Json) : Bool :=
  match number v, number w with
  | some x, some y => numberLt x y
  | _, _ => false

theorem numberLt_int (m n : ℤ) : numberLt (.finite m) (.finite n) = decide (m < n) := by
  simp [numberLt]

theorem pyLt_int (m n : ℤ) : pyLt (.int m) (.int n) = decide (m < n) := numberLt_int m n

end EvaluationLab.Python
