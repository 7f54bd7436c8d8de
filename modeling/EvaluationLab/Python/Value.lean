import EvaluationLab.Python.Text
import Mathlib.Data.Rat.Defs
import Mathlib.Algebra.Order.Field.Rat
import Mathlib.Data.Nat.Basic

/-! Python exceptions, JSON values, and what the code relies on of the interpreter. -/
namespace EvaluationLab.Python

/-- A raised exception: the name of its class, every class an `except` clause may match it
by, and its text. -/
structure PyExc where
  name : PyStr
  classes : List String
  message : PyStr
  deriving DecidableEq

/-- The exception is caught by `except cls`. -/
def PyExc.isA (e : PyExc) (cls : String) : Prop := cls ∈ e.classes

instance (e : PyExc) (cls : String) : Decidable (e.isA cls) :=
  inferInstanceAs (Decidable (_ ∈ _))

def valueError (message : PyStr) : PyExc :=
  ⟨"ValueError", ["ValueError", "Exception"], message⟩

def unicodeEncodeError : PyExc :=
  ⟨"UnicodeEncodeError", ["UnicodeEncodeError", "UnicodeError", "ValueError", "Exception"],
    "surrogates not allowed"⟩

def jsonDecodeError : PyExc :=
  ⟨"JSONDecodeError", ["JSONDecodeError", "ValueError", "Exception"], "invalid JSON"⟩

def typeError (message : PyStr) : PyExc := ⟨"TypeError", ["TypeError", "Exception"], message⟩

def recursionError (activity : PyStr) : PyExc :=
  ⟨"RecursionError", ["RecursionError", "RuntimeError", "Exception"],
    py "maximum recursion depth exceeded while " ++ activity⟩

def connectionError (message : PyStr) : PyExc :=
  ⟨"ConnectionError", ["ConnectionError", "OSError", "Exception"], message⟩

/-- A `float` value. -/
inductive PyFloat where
  | finite (value : ℚ)
  | negativeZero
  | infinity (negative : Bool)
  | nan
  deriving DecidableEq

/-- A decoded JSON document. An object keeps its keys in insertion order. -/
inductive Json where
  | null
  | bool (value : Bool)
  | int (value : ℤ)
  | float (value : PyFloat)
  | str (value : PyStr)
  | arr (items : List Json)
  | obj (fields : List (PyStr × Json))

namespace Json

/-- `bool(value)`. -/
def truthy : Json → Bool
  | null => false
  | bool b => b
  | int n => n != 0
  | float (.finite q) => q != 0
  | float .negativeZero => false
  | float (.infinity _) => true
  | float .nan => true
  | str s => !s.isEmpty
  | arr items => !items.isEmpty
  | obj fields => !fields.isEmpty

/-- Lists and objects cannot be looked up in a set. -/
def hashable : Json → Bool
  | arr _ => false
  | obj _ => false
  | _ => true

def isNull : Json → Bool
  | null => true
  | _ => false

/-- `isinstance(value, bool)`. -/
def isBool : Json → Bool
  | bool _ => true
  | _ => false

/-- `value == text` for a string `text`. -/
def isStr (text : PyStr) : Json → Bool
  | str s => s == text
  | _ => false

end Json

mutual

/-- Every string of a document, keys included, in the order they are met. -/
def texts : Json → List PyStr
  | .str s => [s]
  | .arr items => itemTexts items
  | .obj fields => fieldTexts fields
  | _ => []

def itemTexts : List Json → List PyStr
  | [] => []
  | v :: vs => texts v ++ itemTexts vs

def fieldTexts : List (PyStr × Json) → List PyStr
  | [] => []
  | (k, v) :: fs => k :: texts v ++ fieldTexts fs

end

theorem fieldTexts_append (fs gs : List (PyStr × Json)) :
    fieldTexts (fs ++ gs) = fieldTexts fs ++ fieldTexts gs := by
  induction fs with
  | nil => rfl
  | cons f fs ih => simp [fieldTexts, ih]

theorem mem_itemTexts_map {α : Type} {f : α → Json} {xs : List α} {t : PyStr} :
    t ∈ itemTexts (xs.map f) ↔ ∃ x ∈ xs, t ∈ texts (f x) := by
  induction xs with
  | nil => simp [itemTexts]
  | cons x xs ih => simp [itemTexts, ih]

/-- `document.get(key)`: an absent key reads as `None`. -/
def dictGet (fields : List (PyStr × Json)) (key : PyStr) : Json :=
  (fields.lookup key).getD .null

/-- `document[key] = value`: an existing key keeps its place. -/
def dictSet (fields : List (PyStr × Json)) (key : PyStr) (value : Json) : List (PyStr × Json) :=
  if (fields.lookup key).isSome then fields.map fun f => if f.1 = key then (key, value) else f
  else fields ++ [(key, value)]

/-- `document.setdefault(key, value)`. -/
def dictSetdefault (fields : List (PyStr × Json)) (key : PyStr) (value : Json) : List (PyStr × Json) :=
  if (fields.lookup key).isSome then fields else fields ++ [(key, value)]

/-- What `datetime.fromisoformat` makes of a text. -/
inductive ParsedTime where
  | malformed
  | naive
  | aware (microseconds : ℤ)

/-- What the code relies on of the interpreter and of the Unicode database: a digest, the
character classes beyond ASCII, decimal conversions of floats, ISO times and the recursion
limit. A time is a count of microseconds. -/
class PyRuntime where
  sha256 : List UInt8 → BitVec 256
  lower : PyStr → PyStr
  isDigit : ℕ → Bool
  isWord : ℕ → Bool
  floatRepr : PyFloat → PyStr
  roundFloat : ℚ → PyFloat
  recursionLimit : ℕ
  fromisoformat : PyStr → ParsedTime
  isoformat : ℤ → PyStr
  lower_ascii : ∀ s : PyStr, (∀ c ∈ s, c < 128) → lower s = s.map asciiLower
  isDigit_ascii : ∀ c < 128, isDigit c = isAsciiDigit c
  isWord_ascii : ∀ c < 128, isWord c = isAsciiWord c
  isWord_of_isDigit : ∀ c, isDigit c = true → isWord c = true
  floatRepr_ascii : ∀ x, ∀ c ∈ floatRepr x, c < 128
  /-- An ISO time in UTC is written with digits and `-`, `:`, `.`, `T`, `Z`. -/
  isoformat_chars : ∀ t, ∀ c ∈ isoformat t, isAsciiDigit c = true ∨ c ∈ py "-:.TZ"

end EvaluationLab.Python
