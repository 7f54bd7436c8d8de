import EvaluationLab.Python.Dict
import EvaluationLab.Python.JsonDecoder
import EvaluationLab.Python.Pattern
import EvaluationLab.CSLive.Digest

/-! The bounded scan for credentials and private locators that every search contract passes. -/
namespace EvaluationLab.SearchCup
open Python Effect
open CSLive (floatsFinite itemsFinite fieldsFinite)

section Unquote

/-- A decoder in the middle of a character: how many bytes it is owed, the value so far and the
bounds of the next byte. -/
structure Pending where
  need : ℕ
  acc : ℕ
  lo : ℕ
  hi : ℕ

/-- The first byte of a character: what it yields at once, and what it is owed. -/
def startCharacter (n : ℕ) : PyStr × Pending :=
  if n < 0x80 then ([n], ⟨0, 0, 0, 0⟩)
  else if 0xC2 ≤ n && n ≤ 0xDF then ([], ⟨1, n - 0xC0, 0x80, 0xBF⟩)
  else if n == 0xE0 then ([], ⟨2, 0, 0xA0, 0xBF⟩)
  else if n == 0xED then ([], ⟨2, 0xD, 0x80, 0x9F⟩)
  else if 0xE1 ≤ n && n ≤ 0xEF then ([], ⟨2, n - 0xE0, 0x80, 0xBF⟩)
  else if n == 0xF0 then ([], ⟨3, 0, 0x90, 0xBF⟩)
  else if 0xF1 ≤ n && n ≤ 0xF3 then ([], ⟨3, n - 0xF0, 0x80, 0xBF⟩)
  else if n == 0xF4 then ([], ⟨3, 4, 0x80, 0x8F⟩)
  else ([0xFFFD], ⟨0, 0, 0, 0⟩)

/-- `bytes.decode("utf-8", "replace")`: what cannot be decoded becomes U+FFFD. -/
def decodeReplace : Pending → List UInt8 → PyStr
  | ⟨0, _, _, _⟩, [] => []
  | ⟨_ + 1, _, _, _⟩, [] => [0xFFFD]
  | ⟨0, _, _, _⟩, b :: bs => (startCharacter b.toNat).1 ++ decodeReplace (startCharacter b.toNat).2 bs
  | ⟨need + 1, acc, lo, hi⟩, b :: bs =>
    let n := b.toNat
    if lo ≤ n && n ≤ hi then
      if need = 0 then (acc * 64 + (n - 0x80)) :: decodeReplace ⟨0, 0, 0, 0⟩ bs
      else decodeReplace ⟨need, acc * 64 + (n - 0x80), 0x80, 0xBF⟩ bs
    else 0xFFFD :: (startCharacter n).1 ++ decodeReplace (startCharacter n).2 bs

/-- `unquote_to_bytes` of an ASCII text. -/
def unquoteToBytes : PyStr → List UInt8
  | [] => []
  | 37 :: a :: b :: rest =>
    match hexValue a, hexValue b with
    | some x, some y => .ofNat (x * 16 + y) :: unquoteToBytes rest
    | _, _ => 37 :: unquoteToBytes (a :: b :: rest)
  | c :: rest => .ofNat c :: unquoteToBytes rest

/-- Every run of ASCII characters is decoded for itself; `run` is the current one, reversed. -/
def unquoteRuns : (run : PyStr) → PyStr → PyStr
  | run, [] => decodeReplace ⟨0, 0, 0, 0⟩ (unquoteToBytes run.reverse)
  | run, c :: s =>
    if c < 128 then unquoteRuns (c :: run) s
    else decodeReplace ⟨0, 0, 0, 0⟩ (unquoteToBytes run.reverse) ++ c :: unquoteRuns [] s

/-- `urllib.parse.unquote`. -/
def unquote (s : PyStr) : PyStr := if 37 ∈ s then unquoteRuns [] s else s

end Unquote

section Patterns

/-- The letter a character counts as when case is ignored. -/
def foldPoint (c : ℕ) : ℕ :=
  if c = 0x130 ∨ c = 0x131 then 105
  else if c = 0x17F then 115
  else if c = 0x212A then 107
  else asciiLower c

/-- A text of lower-case letters and signs, whatever the case it is met in. -/
def anyCase : PyStr → Pattern
  | [] => .skip
  | c :: s => .seq (.one fun d => foldPoint d == c) (anyCase s)

def isAlnum (c : ℕ) : Bool := isAsciiDigit c || (97 ≤ foldPoint c && foldPoint c ≤ 122)

def among (signs : PyStr) (c : ℕ) : Bool := c ∈ signs

/-- `(?:docs|drive)\.google\.com`. -/
def documentLocator : Pattern := .seq (.alt (anyCase "docs") (anyCase "drive")) (anyCase ".google.com")

/-- `(?:file|gdrive)://`. -/
def fileLocator : Pattern := .seq (.alt (anyCase "file") (anyCase "gdrive")) (anyCase "://")

/-- `\b(?:sk|ghp|github_pat)[-_][A-Za-z0-9_-]{12,}`. -/
def accessKey : Pattern :=
  .seq .boundary (.seq (.alt (anyCase "sk") (.alt (anyCase "ghp") (anyCase "github_pat")))
    (.seq (.one (among "-_")) (.many 12 fun c => isAlnum c || among "_-" c)))

/-- `\b(?:Bearer|Basic)\s+[A-Za-z0-9+/=_-]{8,}`. -/
def authorizationHeader : Pattern :=
  .seq .boundary (.seq (.alt (anyCase "bearer") (anyCase "basic"))
    (.seq (.many 1 isSpace) (.many 8 fun c => isAlnum c || among "+/=_-" c)))

/-- `-----BEGIN (?:RSA |EC |OPENSSH )?PRIVATE KEY-----`. -/
def privateKey : Pattern :=
  .seq (anyCase "-----begin ")
    (.seq (.alt (anyCase "rsa ") (.alt (anyCase "ec ") (.alt (anyCase "openssh ") .skip))) (anyCase "private key-----"))

/-- `\b(?:api[_-]?key|access[_-]?token|password)\s*[:=]\s*\S+`. -/
def assignedSecret : Pattern :=
  let joined (a b : PyStr) : Pattern := .seq (anyCase a) (.seq (.alt (.one (among "_-")) .skip) (anyCase b))
  .seq .boundary (.seq (.alt (joined "api" "key") (.alt (joined "access" "token") (anyCase "password")))
    (.seq (.many 0 isSpace) (.seq (.one (among ":=")) (.seq (.many 0 isSpace) (.many 1 fun c => !isSpace c)))))

def privatePatterns : List Pattern :=
  [documentLocator, fileLocator, accessKey, authorizationHeader, privateKey, assignedSecret]

def privateKeys : List PyStr :=
  ["api_key", "apikey", "access_token", "refresh_token", "authorization", "password", "credentials", "private_key",
    "private_archive", "raw", "l0", "health", "relationship", "financial", "google_drive", "hidden_registry",
    "answer_key"]

/-- `re.sub(r"[^a-z0-9]", "", key)`. -/
def normalizedKey (key : PyStr) : PyStr := key.filter fun c => isAsciiDigit c || (97 ≤ c && c ≤ 122)

end Patterns

section Scan

variable [PyRuntime]

def privateField (key : PyStr) : Bool := normalizedKey (PyRuntime.lower key) ∈ privateKeys.map normalizedKey

def privateText (text : PyStr) : Bool := privatePatterns.any fun pattern => pattern.search (unquote (unquote text))

/-- The visit of a text. -/
def visitText (text : PyStr) : Except PyExc Unit :=
  check (privateText text = false) (valueError "excluded credential or private locator")

mutual

def visit : Json → Except PyExc Unit
  | .obj fields => visitFields fields
  | .arr items => visitItems items
  | .str s => visitText s
  | _ => .ok ()

def visitItems : List Json → Except PyExc Unit
  | [] => .ok ()
  | v :: vs => do
    visit v
    visitItems vs

def visitFields : List (PyStr × Json) → Except PyExc Unit
  | [] => .ok ()
  | (k, v) :: fs => do
    check (privateField k = false) (valueError "excluded private field")
    visitText k
    visit v
    visitFields fs

end

/-- `assert_content_safe`. A document has no other way not to be finite JSON. -/
def assertContentSafe (value : Json) : Except PyExc Unit := do
  check (floatsFinite value = true) (valueError "non-finite JSON number")
  visit value

mutual

/-- The documents the scan passes. -/
def ContentSafe : Json → Prop
  | .obj fields => FieldsSafe fields
  | .arr items => ItemsSafe items
  | .str s => privateText s = false
  | .float x => floatsFinite (.float x) = true
  | _ => True

def ItemsSafe : List Json → Prop
  | [] => True
  | v :: vs => ContentSafe v ∧ ItemsSafe vs

def FieldsSafe : List (PyStr × Json) → Prop
  | [] => True
  | (k, v) :: fs => (privateField k = false ∧ privateText k = false ∧ ContentSafe v) ∧ FieldsSafe fs

end

mutual

theorem contentSafe_iff_visit : ∀ value : Json,
    (floatsFinite value = true ∧ visit value = .ok ()) ↔ ContentSafe value
  | .null => by simp [floatsFinite, visit, ContentSafe]
  | .bool _ => by simp [floatsFinite, visit, ContentSafe]
  | .int _ => by simp [floatsFinite, visit, ContentSafe]
  | .float x => by simp [visit, ContentSafe]
  | .str s => by simp [floatsFinite, visit, ContentSafe, visitText]
  | .arr items => by
    rw [floatsFinite, visit, ContentSafe]
    exact itemsSafe_iff_visit items
  | .obj fields => by
    rw [floatsFinite, visit, ContentSafe]
    exact fieldsSafe_iff_visit fields

theorem itemsSafe_iff_visit : ∀ items : List Json,
    (itemsFinite items = true ∧ visitItems items = .ok ()) ↔ ItemsSafe items
  | [] => by simp [itemsFinite, visitItems, ItemsSafe]
  | v :: vs => by
    rw [itemsFinite, visitItems, ItemsSafe, ← contentSafe_iff_visit v, ← itemsSafe_iff_visit vs, Bool.and_eq_true,
      bind_eq_ok_iff, exists_unit_iff]
    tauto

theorem fieldsSafe_iff_visit : ∀ fields : List (PyStr × Json),
    (fieldsFinite fields = true ∧ visitFields fields = .ok ()) ↔ FieldsSafe fields
  | [] => by simp [fieldsFinite, visitFields, FieldsSafe]
  | (k, v) :: fs => by
    rw [fieldsFinite, visitFields, FieldsSafe, ← contentSafe_iff_visit v, ← fieldsSafe_iff_visit fs, Bool.and_eq_true]
    simp only [bind_eq_ok_iff, exists_unit_iff, check_eq_ok_iff, visitText]
    tauto

end

@[simp] theorem assertContentSafe_ok_iff {value : Json} {u : Unit} :
    assertContentSafe value = .ok u ↔ ContentSafe value := by
  unfold assertContentSafe
  simp only [bind_eq_ok_iff, exists_unit_iff, check_eq_ok_iff]
  exact contentSafe_iff_visit value

theorem contentSafe_arr_iff (items : List Json) : ContentSafe (.arr items) ↔ ∀ v ∈ items, ContentSafe v := by
  rw [ContentSafe]
  induction items with
  | nil => simp [ItemsSafe]
  | cons v vs ih => rw [ItemsSafe, ih, List.forall_mem_cons]

/-- A key that may stand in a published object. -/
def SafeKey (key : PyStr) : Prop := privateField key = false ∧ privateText key = false

theorem contentSafe_obj_iff (fields : List (PyStr × Json)) :
    ContentSafe (.obj fields) ↔ ∀ f ∈ fields, SafeKey f.1 ∧ ContentSafe f.2 := by
  rw [ContentSafe]
  induction fields with
  | nil => simp [FieldsSafe]
  | cons f fs ih =>
    obtain ⟨k, v⟩ := f
    rw [FieldsSafe, ih, List.forall_mem_cons, SafeKey]
    tauto

theorem ContentSafe.get {fields : List (PyStr × Json)} (h : ContentSafe (.obj fields)) (k : PyStr) :
    ContentSafe (dictGet fields k) := by
  rw [dictGet]
  cases hk : fields.lookup k with
  | none => exact trivial
  | some v => exact ((contentSafe_obj_iff fields).mp h (k, v) (mem_of_lookup hk)).2

mutual

/-- The keys of a document, at every depth. -/
def keysIn : Json → List PyStr
  | .obj fields => fieldsKeysIn fields
  | .arr items => itemsKeysIn items
  | _ => []

def itemsKeysIn : List Json → List PyStr
  | [] => []
  | v :: vs => keysIn v ++ itemsKeysIn vs

def fieldsKeysIn : List (PyStr × Json) → List PyStr
  | [] => []
  | (k, v) :: fs => k :: (keysIn v ++ fieldsKeysIn fs)

end

mutual

/-- The texts of a document, at every depth. -/
def textsIn : Json → List PyStr
  | .obj fields => fieldsTextsIn fields
  | .arr items => itemsTextsIn items
  | .str s => [s]
  | _ => []

def itemsTextsIn : List Json → List PyStr
  | [] => []
  | v :: vs => textsIn v ++ itemsTextsIn vs

def fieldsTextsIn : List (PyStr × Json) → List PyStr
  | [] => []
  | (_, v) :: fs => textsIn v ++ fieldsTextsIn fs

end

mutual

/-- A document is safe key by key and text by text. -/
theorem contentSafe_of_strings : ∀ {value : Json}, floatsFinite value = true → (∀ k ∈ keysIn value, SafeKey k) →
    (∀ s ∈ textsIn value, privateText s = false) → ContentSafe value
  | .null, _, _, _ | .bool _, _, _, _ | .int _, _, _, _ => trivial
  | .float _, hfinite, _, _ => hfinite
  | .str s, _, _, htexts => htexts s List.mem_cons_self
  | .arr items, hfinite, hkeys, htexts => by
    rw [floatsFinite] at hfinite
    rw [ContentSafe]
    exact itemsSafe_of_strings hfinite hkeys htexts
  | .obj fields, hfinite, hkeys, htexts => by
    rw [floatsFinite] at hfinite
    rw [ContentSafe]
    exact fieldsSafe_of_strings hfinite hkeys htexts

theorem itemsSafe_of_strings : ∀ {items : List Json}, itemsFinite items = true → (∀ k ∈ itemsKeysIn items, SafeKey k) →
    (∀ s ∈ itemsTextsIn items, privateText s = false) → ItemsSafe items
  | [], _, _, _ => trivial
  | v :: vs, hfinite, hkeys, htexts => by
    rw [itemsFinite, Bool.and_eq_true] at hfinite
    rw [itemsKeysIn, List.forall_mem_append] at hkeys
    rw [itemsTextsIn, List.forall_mem_append] at htexts
    exact ⟨contentSafe_of_strings hfinite.1 hkeys.1 htexts.1, itemsSafe_of_strings hfinite.2 hkeys.2 htexts.2⟩

theorem fieldsSafe_of_strings : ∀ {fields : List (PyStr × Json)}, fieldsFinite fields = true →
    (∀ k ∈ fieldsKeysIn fields, SafeKey k) → (∀ s ∈ fieldsTextsIn fields, privateText s = false) → FieldsSafe fields
  | [], _, _, _ => trivial
  | (k, v) :: fs, hfinite, hkeys, htexts => by
    rw [fieldsFinite, Bool.and_eq_true] at hfinite
    rw [fieldsKeysIn, List.forall_mem_cons, List.forall_mem_append] at hkeys
    rw [fieldsTextsIn, List.forall_mem_append] at htexts
    exact ⟨⟨hkeys.1.1, hkeys.1.2, contentSafe_of_strings hfinite.1 hkeys.2.1 htexts.1⟩,
      fieldsSafe_of_strings hfinite.2 hkeys.2.2 htexts.2⟩

end

mutual

/-- The order of keys does not matter to the scan. -/
theorem contentSafe_sortKeys : ∀ value : Json, ContentSafe (sortKeys value) ↔ ContentSafe value
  | .null | .bool _ | .int _ | .float _ | .str _ => Iff.rfl
  | .arr items => by
    rw [sortKeys, ContentSafe, ContentSafe]
    exact itemsSafe_sortItems items
  | .obj fields => by
    rw [sortKeys, contentSafe_obj_iff, ContentSafe, ← fieldsSafe_sortFields fields]
    simp only [List.mem_insertionSort]
    rw [← contentSafe_obj_iff, ContentSafe]

theorem itemsSafe_sortItems : ∀ items : List Json, ItemsSafe (sortItems items) ↔ ItemsSafe items
  | [] => Iff.rfl
  | v :: vs => by rw [sortItems, ItemsSafe, ItemsSafe, contentSafe_sortKeys v, itemsSafe_sortItems vs]

theorem fieldsSafe_sortFields : ∀ fields : List (PyStr × Json), FieldsSafe (sortFields fields) ↔ FieldsSafe fields
  | [] => Iff.rfl
  | (k, v) :: fs => by rw [sortFields, FieldsSafe, FieldsSafe, contentSafe_sortKeys v, fieldsSafe_sortFields fs]

end

end Scan

section Plain

variable [PyRuntime]

/-- Every private pattern needs a sign, a space, or one of the letters of an access key. -/
def isMark (c : ℕ) : Bool := among ".:-=" c || isSpace c || among "hk" (foldPoint c)

omit [PyRuntime] in
theorem anyCase_requires {text : PyStr} {cls : ℕ → Bool} {c : ℕ} (hc : c ∈ text)
    (hcls : ∀ d, foldPoint d = c → cls d = true) : (anyCase text).Requires cls := by
  induction text with
  | nil => cases hc
  | cons d s ih =>
    rw [anyCase, Pattern.Requires]
    rcases List.mem_cons.mp hc with rfl | hc
    · left
      intro e he
      exact hcls e (beq_iff_eq.mp he)
    · exact .inr (ih hc)

omit [PyRuntime] in
/-- A sign is folded from itself only. -/
theorem isMark_of_foldPoint {c d : ℕ} (hc : c ∈ py ".:-hk") (h : foldPoint d = c) : isMark d = true := by
  have hmarks : py ".:-hk" = [46, 58, 45] ++ py "hk" := by decide +kernel
  rw [hmarks, List.mem_append] at hc
  rcases hc with hc | hc
  · have hlow : d < 128 := by
      unfold foldPoint asciiLower at h
      simp only [List.mem_cons, List.not_mem_nil, or_false] at hc
      split_ifs at h <;> omega
    have hall : ∀ d < 128, foldPoint d ∈ [46, 58, 45] → isMark d = true := by decide +kernel
    exact hall d hlow (h ▸ hc)
  · have hletter : among "hk" (foldPoint d) = true := decide_eq_true (h ▸ hc)
    rw [isMark, hletter, Bool.or_true]

omit [PyRuntime] in
theorem privatePatterns_require : ∀ pattern ∈ privatePatterns, pattern.Requires isMark := by
  intro pattern h
  have hmark : ∀ {text : PyStr} {c : ℕ}, c ∈ text → c ∈ py ".:-hk" → (anyCase text).Requires isMark :=
    fun hc hm => anyCase_requires hc fun d hd => isMark_of_foldPoint hm hd
  have hone : ∀ {signs : PyStr}, (∀ c ∈ signs, isMark c = true) → (Pattern.one (among signs)).Requires isMark :=
    fun hs c hc => hs c (of_decide_eq_true hc)
  simp only [privatePatterns, List.mem_cons, List.not_mem_nil, or_false] at h
  rcases h with rfl | rfl | rfl | rfl | rfl | rfl
  · exact .inr (hmark (c := 46) (by decide +kernel) (by decide +kernel))
  · exact .inr (hmark (c := 58) (by decide +kernel) (by decide +kernel))
  · exact .inr (.inl ⟨hmark (c := 107) (by decide +kernel) (by decide +kernel),
      hmark (c := 104) (by decide +kernel) (by decide +kernel),
      hmark (c := 104) (by decide +kernel) (by decide +kernel)⟩)
  · exact .inr (.inr (.inl ⟨by decide, fun c hc => by simp [isMark, hc]⟩))
  · exact .inl (hmark (c := 45) (by decide +kernel) (by decide +kernel))
  · exact .inr (.inr (.inr (.inl (hone (by decide +kernel)))))

/-- A text without marks and percent escapes is not private. -/
theorem privateText_of_plain {text : PyStr} (hpercent : 37 ∉ text) (hplain : ∀ c ∈ text, isMark c = false) :
    privateText text = false := by
  have hunquote : unquote text = text := if_neg hpercent
  rw [privateText, hunquote, hunquote, List.any_eq_false]
  intro pattern hp
  rw [Pattern.search_eq_false (privatePatterns_require pattern hp) hplain]
  decide

/-- Hexadecimal digits are no marks. -/
def hexText (text : PyStr) : Bool := text.all fun c => (48 ≤ c && c ≤ 57) || (97 ≤ c && c ≤ 102)

/-- A text that is seen not to be private without a search, or else is searched. -/
def quickSafe (text : PyStr) : Bool := hexText text || text.all (fun c => c != 37 && !isMark c) || !privateText text

theorem privateText_of_quickSafe {text : PyStr} (h : quickSafe text = true) : privateText text = false := by
  rw [quickSafe, Bool.or_eq_true, Bool.or_eq_true, Bool.not_eq_true'] at h
  rcases h with (hhex | hplain) | hsearch
  · have hall : ∀ c < 103, (48 ≤ c ∧ c ≤ 57 ∨ 97 ≤ c ∧ c ≤ 102) → c ≠ 37 ∧ isMark c = false := by decide +kernel
    simp only [hexText, List.all_eq_true, Bool.or_eq_true, Bool.and_eq_true, decide_eq_true_eq] at hhex
    have hchar : ∀ c ∈ text, c ≠ 37 ∧ isMark c = false := fun c hc => hall c (by have := hhex c hc; omega) (hhex c hc)
    exact privateText_of_plain (fun hm => (hchar 37 hm).1 rfl) fun c hc => (hchar c hc).2
  · simp only [List.all_eq_true, Bool.and_eq_true, bne_iff_ne, Bool.not_eq_true'] at hplain
    exact privateText_of_plain (fun hm => (hplain 37 hm).1 rfl) fun c hc => (hplain c hc).2
  · exact hsearch

/-- A document whose keys and texts are seen to be safe. -/
theorem contentSafe_of_quickSafe {value : Json} (hfinite : floatsFinite value = true)
    (hfields : (keysIn value).all (fun k => !privateField k) = true) (hkeys : (keysIn value).all quickSafe = true)
    (htexts : (textsIn value).all quickSafe = true) : ContentSafe value := by
  simp only [List.all_eq_true, Bool.not_eq_true'] at hfields hkeys htexts
  exact contentSafe_of_strings hfinite (fun k hk => ⟨hfields k hk, privateText_of_quickSafe (hkeys k hk)⟩)
    fun s hs => privateText_of_quickSafe (htexts s hs)

end Plain

end EvaluationLab.SearchCup
