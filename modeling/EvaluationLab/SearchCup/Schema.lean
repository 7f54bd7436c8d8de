import EvaluationLab.Python.Dict
import EvaluationLab.Python.Number
import EvaluationLab.QA0.PublicSeed

/-! The closed schemas of the offline search contracts, and the documents that fit one. -/
namespace EvaluationLab.SearchCup
open Python Effect
open QA0 (Fields)

/-- `value[key]` of a document whose shape has been checked. -/
def get (value : Json) (key : PyStr) : Json :=
  match value with
  | .obj fields => dictGet fields key
  | _ => .null

/-- The vocabulary of the closed schemas. The default of every list is that no item repeats. -/
inductive Schema where
  | object (properties : List (PyStr × Schema)) (required : List PyStr)
  | array (items : Schema) (minItems : ℕ)
  | enum (values : List PyStr)
  | const (value : Json)
  | anyOf (alternatives : List Schema)
  | string (minLength : ℕ) (pattern : PyStr → Bool)
  | integer (minimum : ℤ)
  | number (minimum exclusiveMinimum : Option ℤ)
  | boolean
  | null

section Vocabulary

/-- `obj(properties, optional=…)`. -/
def obj (properties : List (PyStr × Schema)) (optional : List PyStr) : Schema :=
  .object properties ((properties.map Prod.fst).filter fun k => k ∉ optional)

/-- `arr(items, minimum)`. -/
def arr (items : Schema) (minimum : ℕ) : Schema := .array items minimum

def isHex (c : ℕ) : Bool := isAsciiDigit c || (97 ≤ c && c ≤ 102)

/-- A text that is 64 lower-case hexadecimal digits. -/
def isHex64 (s : PyStr) : Bool := s.length == 64 && s.all isHex

/-- `re.search("^[0-9a-f]{64}$", s)`: the end is also found before a last newline. -/
def isHash (s : PyStr) : Bool := isHex64 s || (s.getLast? == some 10 && isHex64 s.dropLast)

def textSchema : Schema := .string 1 fun s => s.any fun c => !isSpace c

def hashSchema : Schema := .string 0 isHash

def countSchema : Schema := .integer 0

def numberSchema : Schema := .number (some 0) none

/-- `{"type": "string"}`. -/
def stringSchema : Schema := .string 0 fun _ => true

/-- `{"anyOf": [schema, {"type": "null"}]}`. -/
def orNull (schema : Schema) : Schema := .anyOf [schema, .null]

def textsSchema : Schema := arr textSchema 0

def refSchema : Schema := obj [("id", textSchema), ("version", textSchema), ("fingerprint", hashSchema)] []

def measureSchema : Schema := obj [
  ("state", .enum ["KNOWN", "UNKNOWN", "NOT_APPLICABLE"]),
  ("value", orNull numberSchema),
  ("unit", textSchema),
  ("reason", textSchema)] []

end Vocabulary

section Validation

/-- `type(value) is type(other)`. -/
def sameType : Json → Json → Bool
  | .null, .null => true
  | .bool _, .bool _ => true
  | .int _, .int _ => true
  | .float _, .float _ => true
  | .str _, .str _ => true
  | .arr _, .arr _ => true
  | .obj _, .obj _ => true
  | _, _ => false

def shapeError (path reason : PyStr) : PyExc := valueError (path ++ py ": " ++ reason)

/-- No item equals an earlier one. -/
def distinctItems : (seen : List Json) → List Json → Bool
  | _, [] => true
  | seen, v :: vs => !seen.any (pyEq v) && distinctItems (seen ++ [v]) vs

/-- The bounds of a number. An integer is finite. -/
def withinBounds (minimum exclusiveMinimum : Option ℤ) (x : PyFloat) : Bool :=
  let finite := match x with
    | .nan => false
    | .infinity _ => false
    | _ => true
  finite && !minimum.any (fun m => numberLt x (.finite m)) &&
    !exclusiveMinimum.any fun m => numberLt x (.finite m) || numberEq x (.finite m)

mutual

/-- `validate_shape`. -/
def validateShape : Schema → (path : PyStr) → Json → Except PyExc Unit
  | .anyOf alternatives, path, value => validateAny alternatives path value
  | .const expected, path, value =>
    check (sameType value expected = true ∧ pyEq value expected = true) (shapeError path "invalid constant")
  | .enum values, path, value => check (values.any (fun t => value.isStr t) = true) (shapeError path "invalid enum")
  | .object properties required, path, .obj fields => do
    check (∀ k ∈ required, k ∈ fields.map Prod.fst) (shapeError path "missing required fields")
    check (∀ k ∈ fields.map Prod.fst, k ∈ properties.map Prod.fst) (shapeError path "unexpected fields")
    fields.forM fun f => validateProperty properties f.1 (path ++ py "." ++ f.1) f.2
  | .array items minItems, path, .arr values => do
    check (minItems ≤ values.length) (shapeError path "too few items")
    check (distinctItems [] values = true) (shapeError path "duplicate items")
    values.forM fun v => validateShape items (path ++ py "[]") v
  | .string minLength pattern, path, .str s =>
    check (minLength ≤ s.length ∧ pattern s = true) (shapeError path "invalid text")
  | .integer minimum, path, .int n => check (minimum ≤ n) (shapeError path "invalid number")
  | .number minimum exclusiveMinimum, path, .int n =>
    check (withinBounds minimum exclusiveMinimum (.finite n) = true) (shapeError path "invalid number")
  | .number minimum exclusiveMinimum, path, .float x =>
    check (withinBounds minimum exclusiveMinimum x = true) (shapeError path "invalid number")
  | .boolean, _, .bool _ => .ok ()
  | .null, _, .null => .ok ()
  | _, path, _ => .error (shapeError path "invalid type")

/-- The first alternative that fits. Every error of `validate_shape` is a `ValueError`. -/
def validateAny : List Schema → (path : PyStr) → Json → Except PyExc Unit
  | [], path, _ => .error (shapeError path "no allowed shape")
  | schema :: rest, path, value =>
    match validateShape schema path value with
    | .ok _ => .ok ()
    | .error _ => validateAny rest path value

/-- The value of a field against the property of its name. -/
def validateProperty : List (PyStr × Schema) → (key path : PyStr) → Json → Except PyExc Unit
  | [], _, path, _ => .error (shapeError path "unexpected fields")
  | (k, schema) :: rest, key, path, value =>
    if k = key then validateShape schema path value else validateProperty rest key path value

end

/-- `validate_shape` at the root of a contract. -/
def validateContract (schema : Schema) (value : Json) : Except PyExc Unit := validateShape schema (py "contract") value

end Validation

section Fits

mutual

/-- The documents a schema accepts. -/
def Fits : Schema → Json → Prop
  | .anyOf alternatives, value => FitsAny alternatives value
  | .const expected, value => sameType value expected = true ∧ pyEq value expected = true
  | .enum values, value => ∃ t ∈ values, value = .str t
  | .object properties required, value => ∃ fields, value = .obj fields ∧ (∀ k ∈ required, k ∈ fields.map Prod.fst) ∧
      (∀ k ∈ fields.map Prod.fst, k ∈ properties.map Prod.fst) ∧ ∀ f ∈ fields, FitsProperty properties f.1 f.2
  | .array items minItems, value => ∃ values, value = .arr values ∧ minItems ≤ values.length ∧
      values.Pairwise (fun v w => pyEq w v = false) ∧ ∀ v ∈ values, Fits items v
  | .string minLength pattern, value => ∃ s, value = .str s ∧ minLength ≤ s.length ∧ pattern s = true
  | .integer minimum, value => ∃ n, value = .int n ∧ minimum ≤ n
  | .number minimum exclusiveMinimum, value => value.isBool = false ∧
      ∃ x, number value = some x ∧ withinBounds minimum exclusiveMinimum x = true
  | .boolean, value => ∃ b, value = .bool b
  | .null, value => value = .null

def FitsAny : List Schema → Json → Prop
  | [], _ => False
  | schema :: rest, value => Fits schema value ∨ FitsAny rest value

def FitsProperty : List (PyStr × Schema) → PyStr → Json → Prop
  | [], _, _ => False
  | (k, schema) :: rest, key, value => if k = key then Fits schema value else FitsProperty rest key value

end

theorem distinctItems_iff (seen values : List Json) : distinctItems seen values = true ↔
    values.Pairwise (fun v w => pyEq w v = false) ∧ ∀ v ∈ seen, ∀ w ∈ values, pyEq w v = false := by
  induction values generalizing seen with
  | nil => simp [distinctItems]
  | cons v vs ih =>
    rw [distinctItems, Bool.and_eq_true, ih, List.pairwise_cons, Bool.not_eq_true', List.any_eq_false]
    simp only [List.mem_append, List.mem_singleton, List.forall_mem_cons, Bool.not_eq_true]
    constructor
    · rintro ⟨hnew, hrest, hseen⟩
      exact ⟨⟨hseen v (.inr rfl), hrest⟩, fun u hu => ⟨hnew u hu, hseen u (.inl hu)⟩⟩
    · rintro ⟨⟨hfirst, hrest⟩, hseen⟩
      refine ⟨fun u hu => (hseen u hu).1, hrest, ?_⟩
      rintro u (hu | rfl)
      · exact (hseen u hu).2
      · exact hfirst

mutual

/-- A document passes a schema exactly when it fits. -/
theorem validateShape_ok_iff : ∀ (schema : Schema) (path : PyStr) (value : Json),
    validateShape schema path value = .ok () ↔ Fits schema value
  | .anyOf alternatives, path, value => by
    rw [validateShape, Fits]
    exact validateAny_ok_iff alternatives path value
  | .const expected, path, value => by
    rw [validateShape, Fits, check_eq_ok_iff]
  | .enum values, path, value => by
    rw [validateShape, Fits, check_eq_ok_iff, List.any_eq_true]
    refine exists_congr fun t => and_congr_right fun _ => ?_
    cases value <;> simp [Json.isStr]
  | .object properties required, path, value => by
    rw [Fits]
    cases value with
    | obj fields =>
      rw [validateShape]
      simp only [bind_eq_ok_iff, exists_unit_iff, check_eq_ok_iff, forM_eq_ok_iff,
        validateProperty_ok_iff properties, Json.obj.injEq, exists_eq_left']
    | _ => simp [validateShape]
  | .array items minItems, path, value => by
    rw [Fits]
    cases value with
    | arr values =>
      rw [validateShape]
      simp only [bind_eq_ok_iff, exists_unit_iff, check_eq_ok_iff, forM_eq_ok_iff,
        validateShape_ok_iff items, Json.arr.injEq, exists_eq_left', distinctItems_iff]
      simp
    | _ => simp [validateShape]
  | .string minLength pattern, path, value => by
    rw [Fits]
    cases value <;> simp [validateShape]
  | .integer minimum, path, value => by
    rw [Fits]
    cases value <;> simp [validateShape]
  | .number minimum exclusiveMinimum, path, value => by
    rw [Fits]
    cases value <;> simp [validateShape, number, Json.isBool]
  | .boolean, path, value => by
    rw [Fits]
    cases value <;> simp [validateShape]
  | .null, path, value => by
    rw [Fits]
    cases value <;> simp [validateShape]

theorem validateAny_ok_iff : ∀ (alternatives : List Schema) (path : PyStr) (value : Json),
    validateAny alternatives path value = .ok () ↔ FitsAny alternatives value
  | [], path, value => by simp [validateAny, FitsAny]
  | schema :: rest, path, value => by
    have hfirst := validateShape_ok_iff schema path value
    rw [validateAny, FitsAny, ← hfirst, ← validateAny_ok_iff rest path value]
    cases validateShape schema path value with
    | ok u => simp
    | error e => simp

theorem validateProperty_ok_iff : ∀ (properties : List (PyStr × Schema)) (key path : PyStr) (value : Json),
    validateProperty properties key path value = .ok () ↔ FitsProperty properties key value
  | [], key, path, value => by simp [validateProperty, FitsProperty]
  | (k, schema) :: rest, key, path, value => by
    rw [validateProperty, FitsProperty]
    split_ifs
    · exact validateShape_ok_iff schema path value
    · exact validateProperty_ok_iff rest key path value

end

@[simp] theorem validateContract_ok_iff {schema : Schema} {value : Json} {u : Unit} :
    validateContract schema value = .ok u ↔ Fits schema value := validateShape_ok_iff schema _ value

theorem fitsProperty_iff (properties : List (PyStr × Schema)) (key : PyStr) (value : Json) :
    FitsProperty properties key value ↔ ∃ schema, properties.lookup key = some schema ∧ Fits schema value := by
  induction properties with
  | nil => simp [FitsProperty]
  | cons p ps ih =>
    obtain ⟨k, schema⟩ := p
    rw [FitsProperty, List.lookup_cons]
    by_cases hk : k = key
    · subst hk
      simp
    · rw [if_neg hk, ih, beq_eq_false_iff_ne.mpr (Ne.symm hk)]

@[simp] theorem fits_orNull (schema : Schema) (value : Json) : Fits (orNull schema) value ↔ Fits schema value ∨ value = .null := by
  rw [orNull, Fits, FitsAny, FitsAny, FitsAny, Fits, or_false]

theorem fits_enum (values : List PyStr) (value : Json) : Fits (.enum values) value ↔ ∃ t ∈ values, value = .str t := by
  rw [Fits]

theorem fits_arr (items : Schema) (minimum : ℕ) (value : Json) : Fits (arr items minimum) value ↔
    ∃ values, value = .arr values ∧ minimum ≤ values.length ∧ values.Pairwise (fun v w => pyEq w v = false) ∧
      ∀ v ∈ values, Fits items v := by
  rw [arr, Fits]

theorem fits_text {value : Json} (h : Fits textSchema value) : ∃ s, value = .str s := by
  rw [textSchema, Fits] at h
  obtain ⟨s, rfl, -⟩ := h
  exact ⟨s, rfl⟩

theorem fits_hash {value : Json} (h : Fits hashSchema value) : ∃ s, value = .str s ∧ isHash s = true := by
  rw [hashSchema, Fits] at h
  obtain ⟨s, rfl, -, hs⟩ := h
  exact ⟨s, rfl, hs⟩

theorem fits_count {value : Json} (h : Fits countSchema value) : ∃ n : ℕ, value = .int n := by
  rw [countSchema, Fits] at h
  obtain ⟨n, rfl, hn⟩ := h
  exact ⟨n.toNat, by rw [Int.toNat_of_nonneg hn]⟩

theorem fits_boolean {value : Json} (h : Fits .boolean value) : ∃ b, value = .bool b := by
  rwa [Fits] at h

theorem fits_string {value : Json} (h : Fits stringSchema value) : ∃ s, value = .str s := by
  rw [stringSchema, Fits] at h
  obtain ⟨s, rfl, -⟩ := h
  exact ⟨s, rfl⟩

/-- Every property of a document that fits is read with a value that fits. -/
theorem fits_get {properties : List (PyStr × Schema)} {value : Json} (h : Fits (obj properties []) value) {k : PyStr}
    {schema : Schema} (hk : properties.lookup k = some schema) : Fits schema (get value k) := by
  rw [obj, Fits] at h
  obtain ⟨fields, rfl, hrequired, -, hfields⟩ := h
  have hmem : k ∈ fields.map Prod.fst := by
    apply hrequired
    rw [List.mem_filter]
    refine ⟨(lookup_isSome_iff properties k).mp (by rw [hk]; rfl), by simp⟩
  have hvalue := hfields _ (mem_of_lookup (lookup_of_key hmem))
  rw [fitsProperty_iff] at hvalue
  obtain ⟨schema', hschema, hvalue⟩ := hvalue
  rw [hk] at hschema
  cases hschema
  exact hvalue

theorem fits_obj_keys {properties : List (PyStr × Schema)} {value : Json} (h : Fits (obj properties []) value) :
    ∃ fields, value = .obj fields ∧ ∀ k, k ∈ fields.map Prod.fst ↔ k ∈ properties.map Prod.fst := by
  rw [obj, Fits] at h
  obtain ⟨fields, rfl, hrequired, hallowed, -⟩ := h
  refine ⟨fields, rfl, fun k => ⟨hallowed k, fun hk => hrequired k ?_⟩⟩
  rw [List.mem_filter]
  exact ⟨hk, by simp⟩

end Fits

end EvaluationLab.SearchCup
