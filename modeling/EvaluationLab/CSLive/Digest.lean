import EvaluationLab.QA0.Fingerprint

/-! Canonical documents and digests of the controlled source, and event lists that each digest
links to the one before it. -/
namespace EvaluationLab.CSLive
open Python Effect

mutual

/-- No float of the document is NaN or infinite. -/
def floatsFinite : Json → Bool
  | .float .nan => false
  | .float (.infinity _) => false
  | .arr items => itemsFinite items
  | .obj fields => fieldsFinite fields
  | _ => true

def itemsFinite : List Json → Bool
  | [] => true
  | v :: vs => floatsFinite v && itemsFinite vs

def fieldsFinite : List (PyStr × Json) → Bool
  | [] => true
  | (_, v) :: fs => floatsFinite v && fieldsFinite fs

end

/-- `SourceError`, whose text is its code. -/
def sourceError (code : PyStr) : PyExc := ⟨"SourceError", ["SourceError", "ValueError", "Exception"], code⟩

/-- A document that `digest` takes: its texts can be encoded, its integers printed and its
floats written in JSON. -/
structure Digestible (value : Json) : Prop where
  texts_encodable : ∀ t ∈ texts value, encodable t = true
  ints_printable : intsPrintable value = true
  floats_finite : floatsFinite value = true

theorem digestible_iff (value : Json) : Digestible value ↔
    (∀ t ∈ texts value, encodable t = true) ∧ intsPrintable value = true ∧ floatsFinite value = true :=
  ⟨fun ⟨ht, hi, hf⟩ => ⟨ht, hi, hf⟩, fun ⟨ht, hi, hf⟩ => ⟨ht, hi, hf⟩⟩

@[simp] theorem digestible_null : Digestible .null := ⟨by simp [texts], rfl, rfl⟩
@[simp] theorem digestible_bool (b : Bool) : Digestible (.bool b) := ⟨by simp [texts], rfl, rfl⟩

@[simp] theorem digestible_str (s : PyStr) : Digestible (.str s) ↔ encodable s = true := by
  simp [digestible_iff, texts, intsPrintable, floatsFinite]

@[simp] theorem digestible_int (n : ℤ) : Digestible (.int n) ↔ intPrintable n = true := by
  simp [digestible_iff, texts, intsPrintable, floatsFinite]

@[simp] theorem digestible_finite (q : ℚ) : Digestible (.float (.finite q)) := ⟨by simp [texts], rfl, rfl⟩

@[simp] theorem digestible_arr (items : List Json) : Digestible (.arr items) ↔ ∀ v ∈ items, Digestible v := by
  induction items with
  | nil => simp [digestible_iff, texts, itemTexts, intsPrintable, itemsPrintable, floatsFinite, itemsFinite]
  | cons v vs ih =>
    rw [List.forall_mem_cons, ← ih]
    simp only [digestible_iff, texts, itemTexts, intsPrintable, itemsPrintable, floatsFinite, itemsFinite,
      List.forall_mem_append, Bool.and_eq_true]
    tauto

@[simp] theorem digestible_obj (fields : List (PyStr × Json)) :
    Digestible (.obj fields) ↔ ∀ f ∈ fields, encodable f.1 = true ∧ Digestible f.2 := by
  induction fields with
  | nil => simp [digestible_iff, texts, fieldTexts, intsPrintable, fieldsPrintable, floatsFinite, fieldsFinite]
  | cons f fs ih =>
    obtain ⟨k, v⟩ := f
    rw [List.forall_mem_cons, ← ih]
    simp only [digestible_iff, texts, fieldTexts, intsPrintable, fieldsPrintable, floatsFinite, fieldsFinite,
      List.cons_append, List.forall_mem_cons, List.forall_mem_append, Bool.and_eq_true]
    tauto

section Digest

variable [PyRuntime]

def canonical (value : Json) : Except PyExc PyStr :=
  if ¬floatsFinite value then .error (valueError "Out of range float values are not JSON compliant")
  else QA0.canonicalJson value

def digest (value : Json) : Except PyExc PyStr := do
  let text ← canonical value
  let bytes ← QA0.encode text
  return QA0.hexDigest (PyRuntime.sha256 bytes)

theorem canonical_eq_ok_iff (value : Json) (text : PyStr) :
    canonical value = .ok text ↔ floatsFinite value = true ∧ intsPrintable value = true ∧ text = render value := by
  unfold canonical QA0.canonicalJson
  split_ifs with hfinite hprint
  · simp [hfinite, hprint, eq_comm]
  · simp [hprint]
  · simp [hfinite]

theorem digest_eq_ok_iff (value : Json) (d : PyStr) : digest value = .ok d ↔
    Digestible value ∧ d = QA0.hexDigest (PyRuntime.sha256 (utf8 (render value))) := by
  have htexts : encodable (render value) = true ↔ ∀ t ∈ texts value, encodable t = true := by
    rw [encodable_render, List.all_eq_true]
  unfold digest QA0.encode
  simp only [bind_eq_ok_iff, pure_eq_ok_iff, canonical_eq_ok_iff]
  constructor
  · rintro ⟨_, ⟨hfinite, hprint, rfl⟩, bytes, hbytes, rfl⟩
    split_ifs at hbytes with hencode
    cases hbytes
    exact ⟨⟨htexts.mp hencode, hprint, hfinite⟩, rfl⟩
  · rintro ⟨h, rfl⟩
    exact ⟨_, ⟨h.floats_finite, h.ints_printable, rfl⟩, _, if_pos (htexts.mpr h.texts_encodable), rfl⟩

theorem digest_of {value : Json} (h : Digestible value) :
    digest value = .ok (QA0.hexDigest (PyRuntime.sha256 (utf8 (render value)))) :=
  (digest_eq_ok_iff value _).mpr ⟨h, rfl⟩

theorem canonical_error {value : Json} {e : PyExc} (h : canonical value = .error e) : ¬e.isA "SourceError" := by
  unfold canonical QA0.canonicalJson at h
  split_ifs at h
  · cases h
    decide
  · cases h
    decide

/-- A document that cannot be digested is not reported as a `SourceError`. -/
theorem digest_error {value : Json} {e : PyExc} (h : digest value = .error e) : ¬e.isA "SourceError" := by
  unfold digest at h
  cases hcanonical : canonical value with
  | error e' =>
    rw [hcanonical] at h
    cases h
    exact canonical_error hcanonical
  | ok text =>
    rw [hcanonical] at h
    by_cases hencode : encodable text = true
    · have hbytes : QA0.encode text = .ok (utf8 text) := if_pos hencode
      change (QA0.encode text >>= _) = _ at h
      rw [hbytes] at h
      cases h
    · have hbytes : QA0.encode text = .error unicodeEncodeError := if_neg hencode
      change (QA0.encode text >>= _) = _ at h
      rw [hbytes] at h
      cases h
      decide

end Digest

end EvaluationLab.CSLive
