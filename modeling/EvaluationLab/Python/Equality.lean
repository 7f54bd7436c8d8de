import EvaluationLab.Python.Value
import Mathlib.Data.Rat.Cast.Order

/-! `==` on decoded documents: numbers are compared by value, whatever their types, and objects
without regard to the order of their keys. -/
namespace EvaluationLab.Python

/-- The number a value is compared as. -/
def number : Json → Option PyFloat
  | .bool b => some (.finite (if b then 1 else 0))
  | .int n => some (.finite n)
  | .float x => some x
  | _ => none

def numberEq : PyFloat → PyFloat → Bool
  | .nan, _ => false
  | _, .nan => false
  | .infinity a, .infinity b => a == b
  | .infinity _, _ => false
  | _, .infinity _ => false
  | .finite p, .finite q => p == q
  | .finite p, .negativeZero => p == 0
  | .negativeZero, .finite q => q == 0
  | .negativeZero, .negativeZero => true

mutual

/-- `v == w`. -/
def pyEq : Json → Json → Bool
  | .null, .null => true
  | .str s, .str t => s == t
  | .arr vs, .arr ws => itemsEq vs ws
  | .obj fs, .obj gs => fs.length == gs.length && fieldsEq fs gs
  | .bool b, w => (number w).any (numberEq (.finite (if b then 1 else 0)))
  | .int n, w => (number w).any (numberEq (.finite n))
  | .float x, w => (number w).any (numberEq x)
  | _, _ => false

def itemsEq : List Json → List Json → Bool
  | [], [] => true
  | v :: vs, w :: ws => pyEq v w && itemsEq vs ws
  | _, _ => false

/-- Every field has an equal field of its name on the other side. -/
def fieldsEq : List (PyStr × Json) → List (PyStr × Json) → Bool
  | [], _ => true
  | (k, v) :: fs, gs => (gs.lookup k).any (pyEq v) && fieldsEq fs gs

end

/-- A boolean is compared as a number, also inside a list. -/
example : pyEq (.arr [.bool true, .null]) (.arr [.int 1, .null]) = true := by
  simp [pyEq, itemsEq, number, numberEq]

theorem pyEq_str (v : Json) (t : PyStr) : pyEq v (.str t) = true ↔ v = .str t := by
  cases v <;> simp [pyEq, number]

theorem pyEq_null (v : Json) : pyEq v .null = true ↔ v = .null := by
  cases v <;> simp [pyEq, number]

theorem pyEq_int (v : Json) (n : ℤ) : pyEq v (.int n) = (number v).any fun x => numberEq x (.finite n) := by
  cases v <;> simp [pyEq, number]

/-- A value equals only one integer. -/
theorem pyEq_int_inj {v : Json} {m n : ℤ} (hm : pyEq v (.int m) = true) (hn : pyEq v (.int n) = true) : m = n := by
  rw [pyEq_int, Option.any_eq_true] at hm hn
  obtain ⟨x, hx, hm⟩ := hm
  obtain ⟨y, hy, hn⟩ := hn
  obtain rfl : x = y := Option.some.inj (hx.symm.trans hy)
  cases x with
  | finite q =>
    rw [numberEq, beq_iff_eq] at hm hn
    exact Int.cast_injective (hm.symm.trans hn)
  | negativeZero =>
    rw [numberEq, beq_iff_eq] at hm hn
    exact Int.cast_injective (hm.trans hn.symm)
  | infinity negative => cases hm
  | nan => cases hm

theorem pyEq_int_self (n : ℤ) : pyEq (.int n) (.int n) = true := by
  simp [pyEq, number, numberEq]

/-- A list of texts equals only itself. -/
theorem pyEq_texts {v : Json} {texts : List PyStr} (h : pyEq v (.arr (texts.map .str)) = true) :
    v = .arr (texts.map .str) := by
  cases v with
  | arr items =>
    rw [pyEq] at h
    congr 1
    induction items generalizing texts with
    | nil =>
      cases texts with
      | nil => rfl
      | cons t ts => cases h
    | cons w ws ih =>
      cases texts with
      | nil => cases h
      | cons t ts =>
        rw [List.map_cons, itemsEq, Bool.and_eq_true] at h
        rw [List.map_cons, (pyEq_str w t).mp h.1, ih h.2]
  | obj fields => simp [pyEq] at h
  | _ => simp [pyEq, number] at h

theorem fieldsEq_iff {fs gs : List (PyStr × Json)} :
    fieldsEq fs gs = true ↔ ∀ f ∈ fs, ∃ w, gs.lookup f.1 = some w ∧ pyEq f.2 w = true := by
  induction fs with
  | nil => simp [fieldsEq]
  | cons f fs ih =>
    obtain ⟨k, v⟩ := f
    rw [fieldsEq, Bool.and_eq_true, ih, List.forall_mem_cons, Option.any_eq_true]

theorem pyEq_obj_iff {fs gs : List (PyStr × Json)} : pyEq (.obj fs) (.obj gs) = true ↔
    fs.length = gs.length ∧ ∀ f ∈ fs, ∃ w, gs.lookup f.1 = some w ∧ pyEq f.2 w = true := by
  rw [pyEq, Bool.and_eq_true, beq_iff_eq, fieldsEq_iff]

/-- A list equals itself when its items do. -/
theorem pyEq_arr_self {items : List Json} (h : ∀ v ∈ items, pyEq v v = true) :
    pyEq (.arr items) (.arr items) = true := by
  rw [pyEq]
  induction items with
  | nil => rfl
  | cons v vs ih =>
    rw [List.forall_mem_cons] at h
    rw [itemsEq, h.1, ih h.2]
    rfl

theorem pyEq_texts_self (texts : List PyStr) : pyEq (.arr (texts.map .str)) (.arr (texts.map .str)) = true := by
  apply pyEq_arr_self
  intro v hv
  obtain ⟨t, -, rfl⟩ := List.mem_map.mp hv
  exact (pyEq_str _ _).mpr rfl

end EvaluationLab.Python
