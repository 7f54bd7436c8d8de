import EvaluationLab.Python.Value
import Mathlib.Tactic.NormNum

/-! `json.dumps(value, ensure_ascii=False, sort_keys=True, separators=(",", ":"))`. -/
namespace EvaluationLab.Python

/-- `sys.int_info.default_max_str_digits`: longer integers have no decimal text. -/
def maxStrDigits : ℕ := 4300

def intTextError : PyExc :=
  valueError "Exceeds the limit (4300 digits) for integer string conversion; use sys.set_int_max_str_digits() to increase the limit"

def intParseError (digits : ℕ) : PyExc :=
  valueError (py "Exceeds the limit (4300 digits) for integer string conversion: value has " ++ natText digits ++
    py " digits; use sys.set_int_max_str_digits() to increase the limit")

def intPrintable (n : ℤ) : Bool := n.natAbs < 10 ^ maxStrDigits

/-- `len(value)`: no object has more than `sys.maxsize` items. -/
def pyLen {α : Type} (items : List α) : ℕ := min items.length (2 ^ 63 - 1)

theorem intPrintable_of_small {n : ℤ} (h : n.natAbs < 2 ^ 63) : intPrintable n = true := by
  have hlimit : 2 ^ 63 ≤ 10 ^ maxStrDigits :=
    le_trans (by norm_num : 2 ^ 63 ≤ 10 ^ 19) (Nat.pow_le_pow_right (by decide) (by decide))
  unfold intPrintable
  exact decide_eq_true (lt_of_lt_of_le h hlimit)

theorem intPrintable_pyLen {α : Type} (items : List α) : intPrintable (pyLen items) = true := by
  apply intPrintable_of_small
  unfold pyLen
  omega

def hexDigit (n : ℕ) : ℕ := if n < 10 then 48 + n else 87 + n

def escapePoint (c : ℕ) : PyStr :=
  if c = 34 then [92, 34]
  else if c = 92 then [92, 92]
  else if c = 8 then [92, 98]
  else if c = 9 then [92, 116]
  else if c = 10 then [92, 110]
  else if c = 12 then [92, 102]
  else if c = 13 then [92, 114]
  else if c < 32 then [92, 117, 48, 48, hexDigit (c / 16), hexDigit (c % 16)]
  else [c]

def renderString (s : PyStr) : PyStr := 34 :: s.flatMap escapePoint ++ [34]

/-- Texts joined by a comma. -/
def commaJoin : List PyStr → PyStr
  | [] => []
  | [t] => t
  | t :: ts => t ++ 44 :: commaJoin ts

/-- Rendered members in the order of their keys. -/
def sortByKey (members : List (PyStr × PyStr)) : List (PyStr × PyStr) :=
  members.insertionSort fun a b => strLe a.1 b.1 = true

variable [PyRuntime]

def renderFloat : PyFloat → PyStr
  | .nan => "NaN"
  | .infinity false => "Infinity"
  | .infinity true => "-Infinity"
  | x => PyRuntime.floatRepr x

mutual

def render : Json → PyStr
  | .null => "null"
  | .bool true => "true"
  | .bool false => "false"
  | .int n => intText n
  | .float x => renderFloat x
  | .str s => renderString s
  | .arr items => 91 :: commaJoin (renderItems items) ++ [93]
  | .obj fields =>
    123 :: commaJoin ((sortByKey (renderFields fields)).map fun m => renderString m.1 ++ 58 :: m.2) ++ [125]

def renderItems : List Json → List PyStr
  | [] => []
  | v :: vs => render v :: renderItems vs

def renderFields : List (PyStr × Json) → List (PyStr × PyStr)
  | [] => []
  | (k, v) :: fs => (k, render v) :: renderFields fs

end

mutual

/-- No integer of the document is too long to print. -/
def intsPrintable : Json → Bool
  | .int n => intPrintable n
  | .arr items => itemsPrintable items
  | .obj fields => fieldsPrintable fields
  | _ => true

def itemsPrintable : List Json → Bool
  | [] => true
  | v :: vs => intsPrintable v && itemsPrintable vs

def fieldsPrintable : List (PyStr × Json) → Bool
  | [] => true
  | (_, v) :: fs => intsPrintable v && fieldsPrintable fs

end

omit [PyRuntime] in
theorem intsPrintable_obj (fields : List (PyStr × Json)) :
    intsPrintable (.obj fields) = fields.all fun f => intsPrintable f.2 := by
  rw [intsPrintable]
  induction fields with
  | nil => rfl
  | cons f fs ih => rw [fieldsPrintable, ih, List.all_cons]

omit [PyRuntime] in
theorem intsPrintable_arr (items : List Json) : intsPrintable (.arr items) = items.all intsPrintable := by
  rw [intsPrintable]
  induction items with
  | nil => rfl
  | cons v vs ih => rw [itemsPrintable, ih, List.all_cons]

omit [PyRuntime] in
theorem escapePoint_scalar (c : ℕ) : encodable (escapePoint c) = isScalar c := by
  unfold escapePoint
  split_ifs with h1 h2 h3 h4 h5 h6 h7 h8
  all_goals try (subst_vars; decide)
  · have hd : ∀ c < 32, encodable [92, 117, 48, 48, hexDigit (c / 16), hexDigit (c % 16)] = isScalar c := by
      decide
    exact hd c h8
  · simp [encodable]

omit [PyRuntime] in
theorem encodable_renderString (s : PyStr) : encodable (renderString s) = encodable s := by
  have h : encodable (s.flatMap escapePoint) = encodable s := by
    induction s with
    | nil => rfl
    | cons c s ih =>
      rw [List.flatMap_cons, encodable_append, escapePoint_scalar, ih]
      rfl
  have hcons : ∀ t : PyStr, encodable (34 :: t) = encodable t := fun t => by
    simp [encodable, isScalar]
  rw [renderString, List.cons_append, hcons, encodable_append, h]
  simp [encodable, isScalar]

omit [PyRuntime] in
theorem encodable_commaJoin (ts : List PyStr) :
    encodable (commaJoin ts) = ts.all encodable := by
  have hcomma : ∀ t : PyStr, encodable (44 :: t) = encodable t := fun t => by
    simp [encodable, isScalar]
  induction ts with
  | nil => rfl
  | cons t ts ih =>
    cases ts with
    | nil => simp [commaJoin]
    | cons u us =>
      rw [commaJoin, encodable_append, hcomma, ih, List.all_cons (l := u :: us)]
      simp

theorem renderFloat_ascii (x : PyFloat) : ∀ c ∈ renderFloat x, c < 128 := by
  unfold renderFloat
  split
  · decide
  · decide
  · decide
  · exact PyRuntime.floatRepr_ascii _

mutual

/-- The rendered text has a UTF-8 encoding exactly when every string of the document has one. -/
theorem encodable_render : ∀ v : Json, encodable (render v) = (texts v).all encodable
  | .null => by simp only [render, texts, List.all_nil]; decide
  | .bool true => by simp only [render, texts, List.all_nil]; decide
  | .bool false => by simp only [render, texts, List.all_nil]; decide
  | .int n => by
    simp only [render, texts, List.all_nil]
    exact encodable_of_ascii fun c h => intText_ascii h
  | .float x => by
    simp only [render, texts, List.all_nil]
    exact encodable_of_ascii (renderFloat_ascii x)
  | .str s => by simp [render, texts, encodable_renderString]
  | .arr items => by
    have hb : ∀ t : PyStr, encodable (91 :: t ++ [93]) = encodable t := fun t => by
      rw [encodable_append]; simp [encodable, isScalar]
    rw [render, hb, encodable_commaJoin, encodable_renderItems, texts]
  | .obj fields => by
    have hb : ∀ t : PyStr, encodable (123 :: t ++ [125]) = encodable t := fun t => by
      rw [encodable_append]; simp [encodable, isScalar]
    have hperm : (sortByKey (renderFields fields)).Perm (renderFields fields) :=
      List.perm_insertionSort _ _
    have hm : ∀ m : PyStr × PyStr, encodable (renderString m.1 ++ 58 :: m.2) =
        (encodable m.1 && encodable m.2) := fun m => by
      rw [encodable_append, encodable_renderString]
      simp [encodable, isScalar]
    rw [render, hb, encodable_commaJoin, List.all_map]
    simp only [Function.comp_def, hm]
    rw [hperm.all_eq, encodable_renderFields, texts]

theorem encodable_renderItems : ∀ vs : List Json,
    (renderItems vs).all encodable = (itemTexts vs).all encodable
  | [] => rfl
  | v :: vs => by
    simp [renderItems, itemTexts, encodable_render v, encodable_renderItems vs]

theorem encodable_renderFields : ∀ fs : List (PyStr × Json),
    ((renderFields fs).all fun m => encodable m.1 && encodable m.2) = (fieldTexts fs).all encodable
  | [] => rfl
  | (k, v) :: fs => by
    simp [renderFields, fieldTexts, encodable_render v, encodable_renderFields fs, Bool.and_assoc]

end

end EvaluationLab.Python
