import EvaluationLab.Python.Number
import EvaluationLab.Python.Loaded

/-! Addition of numbers, and the sum and the maximum of a list. Integers are added exactly; with a
float among them the result is rounded. -/
namespace EvaluationLab.Python
open Effect

def overflowError : PyExc :=
  ⟨"OverflowError", ["OverflowError", "ArithmeticError", "Exception"], "int too large to convert to float"⟩

/-- The value of a float that is finite; zero for the others. -/
def PyFloat.value : PyFloat → ℚ
  | .finite q => q
  | _ => 0

section Addition

variable [PyRuntime]

/-- `x + y` on floats. -/
def addFloat : PyFloat → PyFloat → PyFloat
  | .nan, _ => .nan
  | _, .nan => .nan
  | .infinity a, .infinity b => if a = b then .infinity a else .nan
  | .infinity a, _ => .infinity a
  | _, .infinity b => .infinity b
  | .negativeZero, .negativeZero => .negativeZero
  | x, y => PyRuntime.roundFloat (x.value + y.value)

/-- `float(value)` of a number. -/
def toFloat : Json → Except PyExc PyFloat
  | .float x => .ok x
  | .int n =>
    match PyRuntime.roundFloat n with
    | .infinity _ => .error overflowError
    | x => .ok x
  | .bool b => .ok (.finite (if b then 1 else 0))
  | _ => .error (typeError "unsupported operand type(s)")

/-- `v + w` on numbers. -/
def addNumbers : Json → Json → Except PyExc Json
  | .int m, .int n => .ok (.int (m + n))
  | v, w => do
    let x ← toFloat v
    let y ← toFloat w
    return .float (addFloat x y)

/-- `sum(values)`. -/
def sumNumbers (values : List Json) : Except PyExc Json := values.foldlM addNumbers (.int 0)

/-- A number that is written as it is read, unless it is not finite. -/
def Total (v : Json) : Prop := Legible v ∨ ∃ x, v = .float x ∧ x ≠ .negativeZero ∧ ∀ q, x ≠ .finite q

theorem total_addFloat [RoundTripFloats] (x y : PyFloat) : Total (.float (addFloat x y)) := by
  have hinf : ∀ z : PyFloat, (z ≠ .negativeZero ∧ ∀ q, z ≠ .finite q) → Total (.float z) :=
    fun z hz => .inr ⟨z, rfl, hz.1, hz.2⟩
  have hround : ∀ q, Total (.float (PyRuntime.roundFloat q)) := fun q => .inl (RoundTripFloats.rounded q)
  cases x <;> cases y <;> unfold addFloat
  case finite.finite => exact hround _
  case finite.negativeZero => exact hround _
  case negativeZero.finite => exact hround _
  case negativeZero.negativeZero => exact .inl RoundTripFloats.negativeZero
  case infinity.infinity =>
    dsimp only
    split_ifs
    · exact hinf _ (by simp)
    · exact hinf _ (by simp)
  all_goals exact hinf _ (by simp)

theorem total_addNumbers [RoundTripFloats] {v w r : Json} (h : addNumbers v w = .ok r) : Total r := by
  unfold addNumbers at h
  split at h
  · cases h
    exact .inl trivial
  · simp only [bind_eq_ok_iff, pure_eq_ok_iff] at h
    obtain ⟨x, -, y, -, rfl⟩ := h
    exact total_addFloat x y

/-- A sum is written as it is read, unless it is not finite. -/
theorem total_sumNumbers [RoundTripFloats] {values : List Json} {r : Json} (h : sumNumbers values = .ok r) : Total r := by
  have hfold : ∀ (values : List Json) (start : Json), Total start → values.foldlM addNumbers start = .ok r → Total r := by
    intro values
    induction values with
    | nil =>
      intro start hstart h
      rw [List.foldlM_nil, pure_eq_ok_iff] at h
      exact h ▸ hstart
    | cons v vs ih =>
      intro start _ h
      rw [List.foldlM_cons, bind_eq_ok_iff] at h
      obtain ⟨next, hnext, h⟩ := h
      exact ih next (total_addNumbers hnext) h
  exact hfold values (.int 0) (.inl trivial) h

end Addition

/-- `max(values, default=0)`: the first of the greatest. -/
def maxNumber : List Json → Json
  | [] => .int 0
  | v :: vs => vs.foldl (fun m w => if pyLt m w then w else m) v

end EvaluationLab.Python
