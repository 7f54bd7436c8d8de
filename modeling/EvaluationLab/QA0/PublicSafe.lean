import EvaluationLab.Python.JsonDecoder
import EvaluationLab.Effect.Outcome

/-! Canonical fingerprints and the public-safety scan shared by the evaluation tracks. -/
namespace EvaluationLab.QA0
open Python Effect

variable [PyRuntime]

/-- `canonical_json`. An integer with too many digits has no text. -/
def canonicalJson (value : Json) : Except PyExc PyStr :=
  if intsPrintable value then .ok (render value)
  else .error intTextError

/-- `text.encode("utf-8")`. -/
def encode (text : PyStr) : Except PyExc (List UInt8) :=
  if encodable text then .ok (utf8 text) else .error unicodeEncodeError

def hexDigest (d : BitVec 256) : PyStr :=
  (List.range 64).map fun i => hexDigit (d.toNat / 16 ^ (63 - i) % 16)

def digestText (bytes : List UInt8) : PyStr := py "sha256:" ++ hexDigest (PyRuntime.sha256 bytes)

def sha256Json (value : Json) : Except PyExc PyStr := do
  let text ← canonicalJson value
  let bytes ← encode text
  return digestText bytes

/-- `_scan_strings`. -/
def scanStrings (document : Json) : List PyStr := texts document

def forbiddenFragments : List PyStr :=
  ["docs.google.com/", "drive.google.com/", "mail.google.com/", "session_raw", "raw_file_id",
    "oauth", "api_key", "authorization: bearer"]

/-- `_looks_like_private_locator`. -/
def looksLikePrivateLocator (value : PyStr) : Bool :=
  forbiddenFragments.any fun fragment => contains fragment (PyRuntime.lower value)

/-- A match of `ERR-\d{4,}\b` at the start. Digits are word characters, so only the whole
run of digits can end at a word boundary. -/
def errorIdAt (isDigit isWord : ℕ → Bool) (s : PyStr) : Bool :=
  (py "ERR-").isPrefixOf s &&
    (let rest := s.drop 4
     4 ≤ (rest.takeWhile isDigit).length &&
      match rest.dropWhile isDigit with
      | [] => true
      | c :: _ => !isWord c)

/-- A match of `\bERR-\d{4,}\b` anywhere, after the character `before`. -/
def errorIdFrom (isDigit isWord : ℕ → Bool) : (before : Option ℕ) → PyStr → Bool
  | _, [] => false
  | before, c :: s =>
    (!(before.any isWord) && errorIdAt isDigit isWord (c :: s)) || errorIdFrom isDigit isWord (some c) s

/-- `re.search(r"\bERR-\d{4,}\b", text)`. -/
def exposesErrorId (text : PyStr) : Bool := errorIdFrom PyRuntime.isDigit PyRuntime.isWord none text

/-- The scan passes over this string. -/
def publicSafeText (text : PyStr) : Bool := !looksLikePrivateLocator text && !exposesErrorId text

def assertPublicSafe (document : Json) : Except PyExc Unit :=
  match (scanStrings document).find? (fun text => !publicSafeText text) with
  | none => .ok ()
  | some text =>
    if looksLikePrivateLocator text then
      .error (valueError (py "public-safe contract contains forbidden locator/secret marker: " ++ text))
    else .error (valueError "public-safe artifact must not expose exact private Error_ID")

theorem assertPublicSafe_ok_iff (document : Json) :
    assertPublicSafe document = .ok () ↔ ∀ t ∈ texts document, publicSafeText t = true := by
  unfold assertPublicSafe scanStrings
  cases h : (texts document).find? (fun text => !publicSafeText text) with
  | none => simpa using h
  | some t =>
    have hm := List.mem_of_find?_eq_some h
    have hb := List.find?_some h
    constructor
    · intro he
      dsimp only at he
      split_ifs at he
    · intro ha
      simp [ha t hm] at hb

/-- A document has a fingerprint exactly when its strings can be encoded and its integers printed. -/
theorem sha256Json_ok_iff (value : Json) :
    (∃ d, sha256Json value = .ok d) ↔
      (∀ t ∈ texts value, encodable t = true) ∧ intsPrintable value = true := by
  have hr : encodable (render value) = true ↔ ∀ t ∈ texts value, encodable t = true := by
    rw [encodable_render, List.all_eq_true]
  rw [← hr]
  unfold sha256Json canonicalJson encode
  by_cases hp : intsPrintable value = true
  · by_cases he : encodable (render value) = true
    · simp [hp, he, bind_eq_ok_iff]
    · simp [hp, he, bind_eq_ok_iff]
  · simp [hp, bind_eq_ok_iff]

/-- The scan of an ASCII string, decided without the Unicode database. -/
def asciiSafeText (s : PyStr) : Bool :=
  !(forbiddenFragments.any fun fragment => contains fragment (s.map asciiLower)) &&
    !errorIdFrom isAsciiDigit isAsciiWord none s

omit [PyRuntime] in
private theorem errorIdAt_congr {d d' w w' : ℕ → Bool} {s : PyStr} (hd : ∀ c ∈ s, d c = d' c)
    (hw : ∀ c ∈ s, w c = w' c) : errorIdAt d w s = errorIdAt d' w' s := by
  have hdrop : ∀ c ∈ s.drop 4, d c = d' c := fun c hc => hd c (List.mem_of_mem_drop hc)
  have ht : (s.drop 4).takeWhile d = (s.drop 4).takeWhile d' := by
    generalize s.drop 4 = l at hdrop
    induction l with
    | nil => rfl
    | cons a l ih =>
      rw [List.takeWhile_cons, List.takeWhile_cons, hdrop a (by simp),
        ih fun c hc => hdrop c (by simp [hc])]
  have hw' : (s.drop 4).dropWhile d = (s.drop 4).dropWhile d' := by
    generalize s.drop 4 = l at hdrop
    induction l with
    | nil => rfl
    | cons a l ih =>
      rw [List.dropWhile_cons, List.dropWhile_cons, hdrop a (by simp),
        ih fun c hc => hdrop c (by simp [hc])]
  unfold errorIdAt
  simp only [ht, hw']
  congr 2
  cases h : (s.drop 4).dropWhile d' with
  | nil => rfl
  | cons c t =>
    have hc : c ∈ s := List.mem_of_mem_drop ((List.dropWhile_sublist d').subset (h ▸ List.mem_cons_self))
    simp only [hw c hc]

omit [PyRuntime] in
private theorem errorIdFrom_congr {d d' w w' : ℕ → Bool} {s : PyStr} (before : Option ℕ)
    (hb : ∀ c ∈ before, w c = w' c) (hd : ∀ c ∈ s, d c = d' c) (hw : ∀ c ∈ s, w c = w' c) :
    errorIdFrom d w before s = errorIdFrom d' w' before s := by
  induction s generalizing before with
  | nil => rfl
  | cons c s ih =>
    have hbefore : before.any w = before.any w' := by
      cases before with
      | none => rfl
      | some b => exact hb b rfl
    have htail := ih (some c) (fun x hx => hw x (by simp_all)) (fun x hx => hd x (by simp [hx]))
      (fun x hx => hw x (by simp [hx]))
    rw [errorIdFrom, errorIdFrom, hbefore, errorIdAt_congr hd hw, htail]

theorem publicSafeText_of_ascii {s : PyStr} (h : ∀ c ∈ s, c < 128) :
    publicSafeText s = asciiSafeText s := by
  unfold publicSafeText asciiSafeText looksLikePrivateLocator exposesErrorId
  rw [PyRuntime.lower_ascii s h, errorIdFrom_congr none (by simp)
    (fun c hc => PyRuntime.isDigit_ascii c (h c hc)) (fun c hc => PyRuntime.isWord_ascii c (h c hc))]

/-- Every forbidden fragment has a letter `o` or an underscore, and every private id an `E`. -/
theorem publicSafeText_of_plain {s : PyStr}
    (h : ∀ c ∈ s, c < 128 ∧ asciiLower c ≠ 111 ∧ asciiLower c ≠ 95 ∧ c ≠ 69) :
    publicSafeText s = true := by
  rw [publicSafeText_of_ascii fun c hc => (h c hc).1]
  have hfragment : ∀ f ∈ forbiddenFragments, 111 ∈ f ∨ 95 ∈ f := by decide
  have hmiss : ∀ f ∈ forbiddenFragments, contains f (s.map asciiLower) = false := by
    intro f hf
    rcases hfragment f hf with ho | hu
    · refine contains_eq_false ho fun hm => ?_
      obtain ⟨c, hc, he⟩ := List.mem_map.mp hm
      exact (h c hc).2.1 he
    · refine contains_eq_false hu fun hm => ?_
      obtain ⟨c, hc, he⟩ := List.mem_map.mp hm
      exact (h c hc).2.2.1 he
  have hid : ∀ before, errorIdFrom isAsciiDigit isAsciiWord before s = false := by
    intro before
    induction s generalizing before with
    | nil => rfl
    | cons c s ih =>
      have hc : (py "ERR-").isPrefixOf (c :: s) = false := by
        have he := (h c (by simp)).2.2.2
        have hpy : py "ERR-" = 69 :: py "RR-" := by decide
        rw [hpy, List.isPrefixOf_cons_cons]
        simp [Ne.symm he]
      rw [errorIdFrom, errorIdAt, hc, Bool.false_and, Bool.and_false, Bool.false_or]
      refine ih (fun x hx => h x (by simp [hx])) (fun f hf => ?_) (some c)
      have hf' := hmiss f hf
      rw [List.map_cons, contains, Bool.or_eq_false_iff] at hf'
      exact hf'.2
  unfold asciiSafeText
  rw [hid none, Bool.not_false, Bool.and_true, Bool.not_eq_true', List.any_eq_false]
  exact fun f hf => by simp [hmiss f hf]

theorem digestText_plain (bytes : List UInt8) :
    ∀ c ∈ digestText bytes, c < 128 ∧ asciiLower c ≠ 111 ∧ asciiLower c ≠ 95 ∧ c ≠ 69 := by
  intro c hc
  have hhex : ∀ n < 16, hexDigit n < 128 ∧ asciiLower (hexDigit n) ≠ 111 ∧
      asciiLower (hexDigit n) ≠ 95 ∧ hexDigit n ≠ 69 := by decide
  have hstart : ∀ c ∈ py "sha256:", c < 128 ∧ asciiLower c ≠ 111 ∧ asciiLower c ≠ 95 ∧ c ≠ 69 := by
    decide
  rcases List.mem_append.mp hc with hc | hc
  · exact hstart c hc
  · obtain ⟨i, -, rfl⟩ := List.mem_map.mp hc
    exact hhex _ (Nat.mod_lt _ (by decide))

/-- Strings that may enter a published document: the scan passes and they can be encoded. -/
def CleanText (s : PyStr) : Prop := publicSafeText s = true ∧ encodable s = true

theorem cleanText_of_plain {s : PyStr}
    (h : ∀ c ∈ s, c < 128 ∧ asciiLower c ≠ 111 ∧ asciiLower c ≠ 95 ∧ c ≠ 69) : CleanText s :=
  ⟨publicSafeText_of_plain h, encodable_of_ascii fun c hc => (h c hc).1⟩

theorem cleanText_digestText (bytes : List UInt8) : CleanText (digestText bytes) :=
  cleanText_of_plain (digestText_plain bytes)

theorem cleanText_of_ascii {s : PyStr} (h : ∀ c ∈ s, c < 128) (hs : asciiSafeText s = true) :
    CleanText s :=
  ⟨(publicSafeText_of_ascii h).trans hs, encodable_of_ascii h⟩

theorem sha256Json_clean {value : Json} {d : PyStr} (h : sha256Json value = .ok d) : CleanText d := by
  unfold sha256Json at h
  simp only [bind_eq_ok_iff, pure_eq_ok_iff] at h
  obtain ⟨_, -, bytes, -, rfl⟩ := h
  exact cleanText_digestText bytes

/-- A literal is clean: ASCII, and the scan passes. -/
def asciiClean (s : PyStr) : Bool := s.all (· < 128) && asciiSafeText s

theorem cleanText_of_asciiClean {s : PyStr} (h : asciiClean s = true) : CleanText s := by
  simp only [asciiClean, Bool.and_eq_true, List.all_eq_true, decide_eq_true_eq] at h
  exact cleanText_of_ascii h.1 h.2

theorem cleanTexts_of_asciiClean {s : List PyStr} (h : s.all asciiClean = true) :
    ∀ t ∈ s, CleanText t :=
  fun t ht => cleanText_of_asciiClean (List.all_eq_true.mp h t ht)

/-- A document all of whose strings may be published. -/
def CleanJson (document : Json) : Prop := ∀ t ∈ texts document, CleanText t

@[simp] theorem cleanJson_str (s : PyStr) : CleanJson (.str s) ↔ CleanText s := by
  simp [CleanJson, texts]

@[simp] theorem cleanJson_null : CleanJson .null := by simp [CleanJson, texts]
@[simp] theorem cleanJson_bool (b : Bool) : CleanJson (.bool b) := by simp [CleanJson, texts]
@[simp] theorem cleanJson_int (n : ℤ) : CleanJson (.int n) := by simp [CleanJson, texts]
@[simp] theorem cleanJson_float (x : PyFloat) : CleanJson (.float x) := by simp [CleanJson, texts]

/-- An object is clean when its keys and its values are. -/
theorem cleanJson_obj_iff (fields : List (PyStr × Json)) :
    CleanJson (.obj fields) ↔
      (∀ k ∈ fields.map Prod.fst, CleanText k) ∧ ∀ v ∈ fields.map Prod.snd, CleanJson v := by
  have hall : ∀ P : PyStr → Prop, (∀ t ∈ fieldTexts fields, P t) ↔
      (∀ k ∈ fields.map Prod.fst, P k) ∧ ∀ v ∈ fields.map Prod.snd, ∀ t ∈ texts v, P t := by
    intro P
    induction fields with
    | nil => simp [fieldTexts]
    | cons f fs ih =>
      obtain ⟨k, v⟩ := f
      rw [fieldTexts, List.cons_append, List.forall_mem_cons, List.forall_mem_append, ih]
      simp only [List.map_cons, List.forall_mem_cons]
      constructor
      · rintro ⟨hk, hv, hks, hvs⟩
        exact ⟨⟨hk, hks⟩, hv, hvs⟩
      · rintro ⟨⟨hk, hks⟩, hv, hvs⟩
        exact ⟨hk, hv, hks, hvs⟩
  show (∀ t ∈ texts (.obj fields), CleanText t) ↔ _
  rw [texts]
  exact hall CleanText

/-- A document passes the scan and has a fingerprint exactly when it is clean and printable. -/
theorem publishable_iff (document : Json) :
    (assertPublicSafe document = .ok () ∧ ∃ d, sha256Json document = .ok d) ↔
      CleanJson document ∧ intsPrintable document = true := by
  rw [assertPublicSafe_ok_iff, sha256Json_ok_iff]
  constructor
  · rintro ⟨hsafe, hencode, hprint⟩
    exact ⟨fun t ht => ⟨hsafe t ht, hencode t ht⟩, hprint⟩
  · rintro ⟨hclean, hprint⟩
    exact ⟨fun t ht => (hclean t ht).1, fun t ht => (hclean t ht).2, hprint⟩

end EvaluationLab.QA0
