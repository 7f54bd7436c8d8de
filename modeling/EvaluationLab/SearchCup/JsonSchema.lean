import EvaluationLab.SearchCup.Schema

/-! The closed schemas as JSON Schema 2020-12 means them, and where `validate_shape` reads a document
otherwise. -/
namespace EvaluationLab.SearchCup
open Python Effect

section Equality

mutual

/-- Equality of JSON documents: a boolean is no number. -/
def jsonEq : Json → Json → Bool
  | .null, .null => true
  | .bool a, .bool b => a == b
  | .str s, .str t => s == t
  | .arr vs, .arr ws => itemsJsonEq vs ws
  | .obj fs, .obj gs => fs.length == gs.length && fieldsJsonEq fs gs
  | .int n, w => !w.isBool && (number w).any (numberEq (.finite n))
  | .float x, w => !w.isBool && (number w).any (numberEq x)
  | _, _ => false

def itemsJsonEq : List Json → List Json → Bool
  | [], [] => true
  | v :: vs, w :: ws => jsonEq v w && itemsJsonEq vs ws
  | _, _ => false

def fieldsJsonEq : List (PyStr × Json) → List (PyStr × Json) → Bool
  | [], _ => true
  | (k, v) :: fs, gs => (gs.lookup k).any (jsonEq v) && fieldsJsonEq fs gs

end

mutual

/-- What JSON takes for equal, Python does. -/
theorem pyEq_of_jsonEq : ∀ v w : Json, jsonEq v w = true → pyEq v w = true
  | .null, w, h => by cases w <;> first | rfl | cases h
  | .bool a, w, h => by
    cases w <;> first | cases h | skip
    rw [jsonEq, beq_iff_eq] at h
    subst h
    cases a <;> simp [pyEq, number, numberEq]
  | .str s, w, h => by
    cases w <;> first | cases h | skip
    exact h
  | .arr vs, w, h => by
    cases w <;> first | cases h | skip
    rw [jsonEq] at h
    rw [pyEq]
    exact itemsEq_of_itemsJsonEq vs _ h
  | .obj fs, w, h => by
    cases w <;> first | cases h | skip
    rw [jsonEq, Bool.and_eq_true] at h
    rw [pyEq, Bool.and_eq_true]
    exact ⟨h.1, fieldsEq_of_fieldsJsonEq fs _ h.2⟩
  | .int n, w, h => by
    rw [jsonEq, Bool.and_eq_true] at h
    rw [pyEq]
    exact h.2
  | .float x, w, h => by
    rw [jsonEq, Bool.and_eq_true] at h
    rw [pyEq]
    exact h.2

theorem itemsEq_of_itemsJsonEq : ∀ vs ws : List Json, itemsJsonEq vs ws = true → itemsEq vs ws = true
  | [], ws, h => by cases ws <;> first | rfl | cases h
  | v :: vs, ws, h => by
    cases ws with
    | nil => cases h
    | cons w ws =>
      rw [itemsJsonEq, Bool.and_eq_true] at h
      rw [itemsEq, Bool.and_eq_true]
      exact ⟨pyEq_of_jsonEq v w h.1, itemsEq_of_itemsJsonEq vs ws h.2⟩

theorem fieldsEq_of_fieldsJsonEq : ∀ fs gs : List (PyStr × Json), fieldsJsonEq fs gs = true → fieldsEq fs gs = true
  | [], _, _ => rfl
  | (k, v) :: fs, gs, h => by
    rw [fieldsJsonEq, Bool.and_eq_true, Option.any_eq_true] at h
    obtain ⟨⟨w, hw, hvalue⟩, hrest⟩ := h
    rw [fieldsEq, hw, Option.any_some, Bool.and_eq_true]
    exact ⟨pyEq_of_jsonEq v w hvalue, fieldsEq_of_fieldsJsonEq fs gs hrest⟩

end

end Equality

section Published

/-- The two regular expressions of the schemas: `\S` and `^[0-9a-f]{64}$`. -/
inductive TextPattern where
  | visible
  | hash

/-- `re.search(pattern, s)`. -/
def TextPattern.search : TextPattern → PyStr → Bool
  | .visible, s => s.any fun c => !isSpace c
  | .hash, s => isHash s

/-- White space and line ends of ECMA-262. -/
def ecmaSpace (c : ℕ) : Bool :=
  (9 ≤ c && c ≤ 13) || c == 32 || c == 0xA0 || c == 0x1680 || (0x2000 ≤ c && c ≤ 0x200A) || c == 0x2028 ||
  c == 0x2029 || c == 0x202F || c == 0x205F || c == 0x3000 || c == 0xFEFF

/-- The pattern as ECMA-262 matches it: the end is the end of the text. -/
def TextPattern.ecmaSearch : TextPattern → PyStr → Bool
  | .visible, s => s.any fun c => !ecmaSpace c
  | .hash, s => isHex64 s

/-- The schemas as they are published. -/
inductive Published where
  | object (properties : List (PyStr × Published)) (required : List PyStr)
  | array (items : Published) (minItems : ℕ)
  | enum (values : List PyStr)
  | const (value : Json)
  | anyOf (alternatives : List Published)
  | string (minLength : ℕ) (pattern : Option TextPattern)
  | integer (minimum : ℤ)
  | number (minimum exclusiveMinimum : Option ℤ)
  | boolean
  | null

mutual

/-- The schema as `validate_shape` reads it. -/
def Published.toSchema : Published → Schema
  | .object properties required => .object (propertiesToSchema properties) required
  | .array items minItems => .array items.toSchema minItems
  | .enum values => .enum values
  | .const value => .const value
  | .anyOf alternatives => .anyOf (alternativesToSchema alternatives)
  | .string minLength pattern => .string minLength fun s => pattern.all (·.search s)
  | .integer minimum => .integer minimum
  | .number minimum exclusiveMinimum => .number minimum exclusiveMinimum
  | .boolean => .boolean
  | .null => .null

def propertiesToSchema : List (PyStr × Published) → List (PyStr × Schema)
  | [] => []
  | (k, s) :: rest => (k, s.toSchema) :: propertiesToSchema rest

def alternativesToSchema : List Published → List Schema
  | [] => []
  | s :: rest => s.toSchema :: alternativesToSchema rest

end

/-- `HASH`. -/
def publishedHash : Published := .string 0 (some .hash)

/-- `TEXT`. -/
def publishedText : Published := .string 1 (some .visible)

example : publishedHash.toSchema = hashSchema := rfl
example : publishedText.toSchema = textSchema := rfl

mutual

/-- The documents that are valid under a schema as JSON Schema means it. -/
def Valid : Published → Json → Prop
  | .object properties required, value => ∃ fields, value = .obj fields ∧ (∀ k ∈ required, k ∈ fields.map Prod.fst) ∧
      (∀ k ∈ fields.map Prod.fst, k ∈ properties.map Prod.fst) ∧ ∀ f ∈ fields, ValidProperty properties f.1 f.2
  | .array items minItems, value => ∃ values, value = .arr values ∧ minItems ≤ values.length ∧
      values.Pairwise (fun v w => jsonEq w v = false) ∧ ∀ v ∈ values, Valid items v
  | .enum values, value => ∃ t ∈ values, value = .str t
  | .const expected, value => jsonEq value expected = true
  | .anyOf alternatives, value => ValidAny alternatives value
  | .string minLength pattern, value => ∃ s, value = .str s ∧ minLength ≤ s.length ∧ pattern.all (·.ecmaSearch s) = true
  | .integer minimum, value => value.isBool = false ∧ ∃ x, number value = some x ∧
      ∃ n : ℤ, numberEq x (.finite n) = true ∧ minimum ≤ n
  | .number minimum exclusiveMinimum, value => value.isBool = false ∧
      ∃ x, number value = some x ∧ withinBounds minimum exclusiveMinimum x = true
  | .boolean, value => ∃ b, value = .bool b
  | .null, value => value = .null

def ValidProperty : List (PyStr × Published) → PyStr → Json → Prop
  | [], _, _ => False
  | (k, schema) :: rest, key, value => if k = key then Valid schema value else ValidProperty rest key value

def ValidAny : List Published → Json → Prop
  | [], _ => False
  | schema :: rest, value => Valid schema value ∨ ValidAny rest value

end

/-- The texts that only Python finds a pattern in: 64 digits with a line end after them, and ECMA-262
white space with a byte order mark in it. -/
def TextPattern.Slips : TextPattern → PyStr → Prop
  | .hash, s => ∃ digits, isHex64 digits = true ∧ s = digits ++ [10]
  | .visible, s => (∀ c ∈ s, ecmaSpace c = true) ∧ 0xFEFF ∈ s

mutual

/-- Somewhere the document slips past a pattern, or equals a constant only as Python compares. Where
there are alternatives, it does so under each that it would meet. -/
def Misread : Published → Json → Prop
  | .object properties _, value => ∃ fields, value = .obj fields ∧ ∃ f ∈ fields, MisreadProperty properties f.1 f.2
  | .array items _, value => ∃ values, value = .arr values ∧ ∃ v ∈ values, Misread items v
  | .const expected, value => pyEq value expected = true ∧ jsonEq value expected = false
  | .anyOf alternatives, value => MisreadAll alternatives value
  | .string _ pattern, value => ∃ s, value = .str s ∧ ∃ p, pattern = some p ∧ p.Slips s
  | .enum _, _ => False
  | .integer _, _ => False
  | .number _ _, _ => False
  | .boolean, _ => False
  | .null, _ => False

def MisreadProperty : List (PyStr × Published) → PyStr → Json → Prop
  | [], _, _ => False
  | (k, schema) :: rest, key, value => if k = key then Misread schema value else MisreadProperty rest key value

def MisreadAll : List Published → Json → Prop
  | [], _ => True
  | schema :: rest, value => (Misread schema value ∨ ¬ Valid schema value) ∧ MisreadAll rest value

end

end Published

section Patterns

theorem isHex64_append_newline {digits : PyStr} (h : isHex64 digits = true) : isHex64 (digits ++ [10]) = false := by
  rw [isHex64, Bool.and_eq_true, beq_iff_eq] at h
  rw [isHex64, List.length_append, h.1]
  rfl

/-- `$` is also found before a last line end. -/
theorem isHash_iff (s : PyStr) : isHash s = true ↔ isHex64 s = true ∨ TextPattern.hash.Slips s := by
  unfold isHash TextPattern.Slips
  rw [Bool.or_eq_true, Bool.and_eq_true, beq_iff_eq]
  refine or_congr_right ⟨fun h => ?_, ?_⟩
  · exact ⟨s.dropLast, h.2, (List.dropLast_append_getLast? 10 h.1).symm⟩
  · rintro ⟨digits, hdigits, rfl⟩
    rw [List.getLast?_concat, List.dropLast_concat]
    exact ⟨rfl, hdigits⟩

/-- Only the byte order mark is white space to ECMA-262 and not to Python. -/
theorem ecmaSpace_not_isSpace {c : ℕ} (h : ecmaSpace c = true) (hc : isSpace c = false) : c = 0xFEFF := by
  simp only [ecmaSpace, isSpace, Bool.or_eq_true, Bool.or_eq_false_iff, Bool.and_eq_true, Bool.and_eq_false_iff,
    decide_eq_true_eq, decide_eq_false_iff_not, beq_iff_eq, beq_eq_false_iff_ne] at h hc
  omega

/-- ECMA-262 does not find the pattern in a text that slips through. -/
theorem ecmaSearch_of_slips {p : TextPattern} {s : PyStr} (h : p.Slips s) : p.ecmaSearch s = false := by
  cases p with
  | hash =>
    obtain ⟨digits, hdigits, rfl⟩ := h
    exact isHex64_append_newline hdigits
  | visible =>
    rw [TextPattern.ecmaSearch, List.any_eq_false]
    intro c hc
    simp [h.1 c hc]

/-- A text that only Python finds the pattern in slips through. -/
theorem slips_of_search {p : TextPattern} {s : PyStr} (h : p.search s = true) (hecma : p.ecmaSearch s = false) : p.Slips s := by
  cases p with
  | hash =>
    rw [TextPattern.search, isHash_iff] at h
    rw [TextPattern.ecmaSearch] at hecma
    exact h.resolve_left (by simp [hecma])
  | visible =>
    rw [TextPattern.search, List.any_eq_true] at h
    obtain ⟨c, hc, hvisible⟩ := h
    rw [Bool.not_eq_true'] at hvisible
    rw [TextPattern.ecmaSearch, List.any_eq_false] at hecma
    have hall : ∀ d ∈ s, ecmaSpace d = true := fun d hd => by simpa using hecma d hd
    have hmark := ecmaSpace_not_isSpace (hall c hc) hvisible
    exact ⟨hall, hmark ▸ hc⟩

end Patterns

section Soundness

theorem keys_propertiesToSchema (properties : List (PyStr × Published)) :
    (propertiesToSchema properties).map Prod.fst = properties.map Prod.fst := by
  induction properties with
  | nil => rfl
  | cons p ps ih =>
    rw [propertiesToSchema, List.map_cons, List.map_cons, ih]

mutual

/-- A misread document is not valid. -/
theorem not_valid_of_misread : ∀ (schema : Published) (value : Json), Misread schema value → ¬ Valid schema value
  | .object properties required, value, h, hvalid => by
    rw [Misread] at h
    rw [Valid] at hvalid
    obtain ⟨fields, rfl, f, hf, hmisread⟩ := h
    obtain ⟨fields', hfields, -, -, hall⟩ := hvalid
    obtain rfl := Json.obj.inj hfields
    exact not_valid_of_misreadProperty properties f.1 f.2 hmisread (hall f hf)
  | .array items minItems, value, h, hvalid => by
    rw [Misread] at h
    rw [Valid] at hvalid
    obtain ⟨values, rfl, v, hv, hmisread⟩ := h
    obtain ⟨values', hvalues, -, -, hall⟩ := hvalid
    obtain rfl := Json.arr.inj hvalues
    exact not_valid_of_misread items v hmisread (hall v hv)
  | .enum values, value, h, _ => by
    rw [Misread] at h
    exact h
  | .const expected, value, h, hvalid => by
    rw [Misread] at h
    rw [Valid, h.2] at hvalid
    cases hvalid
  | .anyOf alternatives, value, h, hvalid => by
    rw [Misread] at h
    rw [Valid] at hvalid
    exact not_valid_of_misreadAll alternatives value h hvalid
  | .string minLength pattern, value, h, hvalid => by
    rw [Misread] at h
    rw [Valid] at hvalid
    obtain ⟨s, rfl, p, rfl, hslips⟩ := h
    obtain ⟨s', hs, -, hpattern⟩ := hvalid
    obtain rfl := Json.str.inj hs
    rw [Option.all_some, ecmaSearch_of_slips hslips] at hpattern
    cases hpattern
  | .integer minimum, value, h, _ => by
    rw [Misread] at h
    exact h
  | .number minimum exclusiveMinimum, value, h, _ => by
    rw [Misread] at h
    exact h
  | .boolean, value, h, _ => by
    rw [Misread] at h
    exact h
  | .null, value, h, _ => by
    rw [Misread] at h
    exact h

theorem not_valid_of_misreadProperty : ∀ (properties : List (PyStr × Published)) (key : PyStr) (value : Json),
    MisreadProperty properties key value → ¬ ValidProperty properties key value
  | [], key, value, h, _ => by
    rw [MisreadProperty] at h
    exact h
  | (k, schema) :: rest, key, value, h, hvalid => by
    rw [MisreadProperty] at h
    rw [ValidProperty] at hvalid
    by_cases hk : k = key
    · rw [if_pos hk] at h hvalid
      exact not_valid_of_misread schema value h hvalid
    · rw [if_neg hk] at h hvalid
      exact not_valid_of_misreadProperty rest key value h hvalid

theorem not_valid_of_misreadAll : ∀ (alternatives : List Published) (value : Json),
    MisreadAll alternatives value → ¬ ValidAny alternatives value
  | [], value, _, hvalid => by
    rw [ValidAny] at hvalid
    exact hvalid
  | schema :: rest, value, h, hvalid => by
    rw [MisreadAll] at h
    rw [ValidAny] at hvalid
    rcases hvalid with hvalid | hvalid
    · rcases h.1 with hmisread | hnot
      · exact not_valid_of_misread schema value hmisread hvalid
      · exact hnot hvalid
    · exact not_valid_of_misreadAll rest value h.2 hvalid

end

/-- Alternatives that are not all misread or missed have a valid one. -/
theorem validAny_of_not_misreadAll : ∀ (alternatives : List Published) (value : Json), ¬ MisreadAll alternatives value →
    ValidAny alternatives value
  | [], value, h => by
    rw [MisreadAll] at h
    exact (h trivial).elim
  | schema :: rest, value, h => by
    rw [MisreadAll] at h
    rw [ValidAny]
    by_cases hvalid : Valid schema value
    · exact .inl hvalid
    · exact .inr (validAny_of_not_misreadAll rest value fun hm => h ⟨.inr hvalid, hm⟩)

mutual

/-- An accepted document that is not misread is valid. -/
theorem valid_of_fits : ∀ (schema : Published) (value : Json), Fits schema.toSchema value → ¬ Misread schema value →
    Valid schema value
  | .object properties required, value, h, hread => by
    rw [Published.toSchema, Fits, keys_propertiesToSchema] at h
    rw [Misread] at hread
    rw [Valid]
    obtain ⟨fields, rfl, hrequired, hallowed, hfields⟩ := h
    refine ⟨fields, rfl, hrequired, hallowed, fun f hf => ?_⟩
    exact valid_of_fitsProperty properties f.1 f.2 (hfields f hf) fun hm => hread ⟨fields, rfl, f, hf, hm⟩
  | .array items minItems, value, h, hread => by
    rw [Published.toSchema, Fits] at h
    rw [Misread] at hread
    rw [Valid]
    obtain ⟨values, rfl, hlength, hdistinct, hvalues⟩ := h
    refine ⟨values, rfl, hlength, hdistinct.imp fun {v w} hvw => ?_, fun v hv => ?_⟩
    · by_contra hequal
      rw [Bool.not_eq_false] at hequal
      rw [pyEq_of_jsonEq w v hequal] at hvw
      cases hvw
    · exact valid_of_fits items v (hvalues v hv) fun hm => hread ⟨values, rfl, v, hv, hm⟩
  | .enum values, value, h, _ => by
    rw [Published.toSchema, Fits] at h
    rw [Valid]
    exact h
  | .const expected, value, h, hread => by
    rw [Published.toSchema, Fits] at h
    rw [Misread] at hread
    rw [Valid]
    by_contra hequal
    rw [Bool.not_eq_true] at hequal
    exact hread ⟨h.2, hequal⟩
  | .anyOf alternatives, value, _, hread => by
    rw [Misread] at hread
    rw [Valid]
    exact validAny_of_not_misreadAll alternatives value hread
  | .string minLength pattern, value, h, hread => by
    rw [Published.toSchema, Fits] at h
    rw [Misread] at hread
    rw [Valid]
    obtain ⟨s, rfl, hlength, hpattern⟩ := h
    refine ⟨s, rfl, hlength, ?_⟩
    cases pattern with
    | none => rfl
    | some p =>
      by_contra hecma
      rw [Option.all_some, Bool.not_eq_true] at hecma
      exact hread ⟨s, rfl, p, rfl, slips_of_search hpattern hecma⟩
  | .integer minimum, value, h, _ => by
    rw [Published.toSchema, Fits] at h
    rw [Valid]
    obtain ⟨n, rfl, hn⟩ := h
    exact ⟨rfl, .finite n, rfl, n, by simp [numberEq], hn⟩
  | .number minimum exclusiveMinimum, value, h, _ => by
    rw [Published.toSchema, Fits] at h
    rw [Valid]
    exact h
  | .boolean, value, h, _ => by
    rw [Published.toSchema, Fits] at h
    rw [Valid]
    exact h
  | .null, value, h, _ => by
    rw [Published.toSchema, Fits] at h
    rw [Valid]
    exact h

theorem valid_of_fitsProperty : ∀ (properties : List (PyStr × Published)) (key : PyStr) (value : Json),
    FitsProperty (propertiesToSchema properties) key value → ¬ MisreadProperty properties key value →
      ValidProperty properties key value
  | [], key, value, h, _ => by
    rw [propertiesToSchema, FitsProperty] at h
    exact h.elim
  | (k, schema) :: rest, key, value, h, hread => by
    rw [propertiesToSchema, FitsProperty] at h
    rw [MisreadProperty] at hread
    rw [ValidProperty]
    by_cases hk : k = key
    · rw [if_pos hk] at h hread ⊢
      exact valid_of_fits schema value h hread
    · rw [if_neg hk] at h hread ⊢
      exact valid_of_fitsProperty rest key value h hread

end

end Soundness

end EvaluationLab.SearchCup
