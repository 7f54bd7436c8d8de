import EvaluationLab.Python.JsonEncoder

/-! What the code relies on of the Unicode database beyond the character classes. -/
namespace EvaluationLab.Python

/-- Upper-casing of an ASCII code point. -/
def asciiUpper (c : ℕ) : ℕ := if 97 ≤ c && c ≤ 122 then c - 32 else c

/-- `str.upper`, and the quoted form of a string in a message. -/
class PyUnicode where
  upper : PyStr → PyStr
  repr : PyStr → PyStr
  upper_ascii : ∀ s : PyStr, (∀ c ∈ s, c < 128) → upper s = s.map asciiUpper

section Repr

variable [PyRuntime] [PyUnicode]

/-- Texts joined by `", "`. -/
def joinTexts : List PyStr → PyStr
  | [] => []
  | [t] => t
  | t :: ts => t ++ py ", " ++ joinTexts ts

mutual

/-- `repr(value)`. -/
def pyRepr : Json → PyStr
  | .null => "None"
  | .bool true => "True"
  | .bool false => "False"
  | .int n => intText n
  | .float x => PyRuntime.floatRepr x
  | .str s => PyUnicode.repr s
  | .arr items => py "[" ++ joinTexts (itemReprs items) ++ py "]"
  | .obj fields => py "\x7b" ++ joinTexts (fieldReprs fields) ++ py "\x7d"

def itemReprs : List Json → List PyStr
  | [] => []
  | v :: vs => pyRepr v :: itemReprs vs

def fieldReprs : List (PyStr × Json) → List PyStr
  | [] => []
  | (k, v) :: fs => (PyUnicode.repr k ++ py ": " ++ pyRepr v) :: fieldReprs fs

end

/-- `str(value)`. An integer with too many digits has no text. -/
def pyStr : Json → Except PyExc PyStr
  | .str s => .ok s
  | v => if intsPrintable v then .ok (pyRepr v) else .error intTextError

end Repr

namespace Ascii

/-- Unicode on ASCII text without quotes. -/
scoped instance : PyUnicode where
  upper s := s.map asciiUpper
  repr s := 39 :: s ++ [39]
  upper_ascii _ _ := rfl

end Ascii

end EvaluationLab.Python
