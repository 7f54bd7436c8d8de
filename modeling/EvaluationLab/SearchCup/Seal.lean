import EvaluationLab.SearchCup.Documents

/-! Canonical fingerprints of documents, and documents that carry their own. -/
namespace EvaluationLab.SearchCup
open Python Effect
open QA0 (Fields)

variable [PyRuntime]

/-- `fingerprint`. -/
def fingerprint (value : Json) : Except PyExc PyStr := do
  let text ← QA0.canonicalJson value
  let bytes ← QA0.encode text
  return QA0.hexDigest (PyRuntime.sha256 bytes)

/-- The digest of a canonical text. -/
def textDigest (text : PyStr) : PyStr := QA0.hexDigest (PyRuntime.sha256 (utf8 text))

/-- A document whose canonical text can be hashed. -/
def Hashable (value : Json) : Prop := intsPrintable value = true ∧ encodable (render value) = true

theorem fingerprint_eq_ok_iff {value : Json} {d : PyStr} :
    fingerprint value = .ok d ↔ Hashable value ∧ d = textDigest (render value) := by
  unfold fingerprint QA0.canonicalJson QA0.encode
  simp only [bind_eq_ok_iff, pure_eq_ok_iff]
  constructor
  · rintro ⟨text, htext, bytes, hbytes, rfl⟩
    split_ifs at htext with hprint
    cases htext
    split_ifs at hbytes with hencode
    cases hbytes
    exact ⟨⟨hprint, hencode⟩, rfl⟩
  · rintro ⟨⟨hprint, hencode⟩, rfl⟩
    exact ⟨_, if_pos hprint, _, if_pos hencode, rfl⟩

def fingerprintKey : PyStr := "canonical_fingerprint"

/-- The fields that are not the fingerprint. -/
def unsealed (fields : Fields) : Fields := fields.filter fun f => f.1 ≠ fingerprintKey

/-- `seal`. -/
def sealDocument (document : Fields) : Except PyExc Fields := do
  assertContentSafe (.obj document)
  let text ← QA0.canonicalJson (.obj document)
  match ← loads text with
  | .obj fields =>
    let digest ← fingerprint (.obj (unsealed fields))
    return unsealed fields ++ [(fingerprintKey, .str digest)]
  | _ => throw (typeError "'str' object cannot be interpreted as an integer")

/-- `verify_seal`. -/
def verifySeal (document : Json) : Except PyExc Unit := do
  assertContentSafe document
  match document with
  | .obj fields =>
    let fresh ← sealDocument fields
    check (pyEq (dictGet fields fingerprintKey) (dictGet fresh fingerprintKey) = true)
      (valueError "canonical fingerprint mismatch")
  | _ => throw (valueError "canonical fingerprint mismatch")

/-- The fingerprint a document should carry. -/
def sealDigest (fields : Fields) : PyStr := textDigest (render (.obj (unsealed fields)))

section Unsealed

omit [PyRuntime]

theorem keys_unsealed {fields : Fields} (h : (fields.map Prod.fst).Nodup) : ((unsealed fields).map Prod.fst).Nodup :=
  (List.filter_sublist.map _).nodup h

theorem lookup_unsealed (fields : Fields) (k : PyStr) :
    (unsealed fields).lookup k = if k = fingerprintKey then none else fields.lookup k := by
  split_ifs with hk
  · subst hk
    rw [List.lookup_eq_none_iff]
    intro f hf
    exact bne_iff_ne.mpr (of_decide_eq_true (List.mem_filter.mp hf).2).symm
  · exact lookup_filter_ne fields hk

/-- Taking the fingerprint out and sorting the keys can be done in either order. -/
theorem sameJson_unsealed {fields fields' : Fields} (h : (fields.map Prod.fst).Nodup)
    (h' : (fields'.map Prod.fst).Nodup) (hsame : SameJson (.obj fields) (.obj fields')) :
    SameJson (.obj (unsealed fields)) (.obj (unsealed fields')) := by
  rw [sameJson_obj_iff h h'] at hsame
  rw [sameJson_obj_iff (keys_unsealed h) (keys_unsealed h')]
  intro k
  rw [lookup_unsealed, lookup_unsealed]
  split_ifs
  · rfl
  · exact hsame k

theorem sameJson_sortedFields {fields : Fields} : SameJson (.obj (sortedFields fields)) (.obj fields) := by
  rw [← sortKeys_obj]
  exact sortKeys_sortKeys _

/-- A document is its body and its fingerprint. -/
theorem sameJson_sealed {fields : Fields} (h : (fields.map Prod.fst).Nodup) {s : PyStr}
    (hs : dictGet fields fingerprintKey = .str s) :
    SameJson (.obj fields) (.obj (unsealed fields ++ [(fingerprintKey, .str s)])) := by
  have hperm := perm_cons_filter h (mem_of_dictGet hs)
  exact sortKeys_perm (hperm.trans (List.perm_append_singleton _ _).symm) h

end Unsealed

theorem render_of_sameJson {v w : Json} (h : SameJson v w) : render v = render w := by
  rw [← render_sortKeys v, h, render_sortKeys]

omit [PyRuntime] in
theorem nodup_sortedFields {fields : Fields} (h : (fields.map Prod.fst).Nodup) :
    ((sortedFields fields).map Prod.fst).Nodup := (keys_sortedFields fields).nodup_iff.mpr h

theorem sealDigest_of_sameJson {fields fields' : Fields} (h : (fields.map Prod.fst).Nodup)
    (h' : (fields'.map Prod.fst).Nodup) (hsame : SameJson (.obj fields) (.obj fields')) :
    sealDigest fields = sealDigest fields' := by
  rw [sealDigest, sealDigest, render_of_sameJson (sameJson_unsealed h h' hsame)]

/-- A document that can be sealed. -/
structure Sealable (fields : Fields) : Prop where
  safe : ContentSafe (.obj fields)
  printable : intsPrintable (.obj fields) = true
  shallow : nesting (.obj fields) ≤ PyRuntime.recursionLimit
  hashable : Hashable (.obj (unsealed fields))

/-- The sealed form of a document. -/
def sealedFields (fields : Fields) : Fields :=
  unsealed (sortedFields fields) ++ [(fingerprintKey, .str (sealDigest fields))]

theorem hashable_of_sameJson {v w : Json} (h : SameJson v w) : Hashable v ↔ Hashable w := by
  rw [Hashable, Hashable, render_of_sameJson h, ← intsPrintable_sortKeys v, h, intsPrintable_sortKeys]

theorem sealDocument_eq_ok_iff {fields r : Fields} (hlegible : Legible (.obj fields)) :
    sealDocument fields = .ok r ↔ Sealable fields ∧ r = sealedFields fields := by
  have hkeys := hlegible.nodup
  have hsame := sameJson_unsealed (nodup_sortedFields hkeys) hkeys sameJson_sortedFields
  have hcanonical : ∀ t, QA0.canonicalJson (.obj fields) = .ok t ↔ intsPrintable (.obj fields) = true ∧ render (.obj fields) = t := by
    intro t
    unfold QA0.canonicalJson
    split_ifs with hprint <;> simp [hprint]
  unfold sealDocument
  simp only [bind_eq_ok_iff, exists_unit_iff, assertContentSafe_ok_iff, hcanonical]
  constructor
  · rintro ⟨hsafe, _, ⟨hprint, rfl⟩, w, hload, hw⟩
    obtain ⟨hshallow, rfl⟩ := (loads_render_iff hlegible hprint).mp hload
    rw [sortKeys_obj] at hw
    simp only [bind_eq_ok_iff, pure_eq_ok_iff, fingerprint_eq_ok_iff] at hw
    obtain ⟨d, ⟨hhash, rfl⟩, rfl⟩ := hw
    rw [hashable_of_sameJson hsame] at hhash
    refine ⟨⟨hsafe, hprint, hshallow, hhash⟩, ?_⟩
    rw [sealedFields, sealDigest, render_of_sameJson hsame]
  · rintro ⟨⟨hsafe, hprint, hshallow, hhash⟩, rfl⟩
    refine ⟨hsafe, _, ⟨hprint, rfl⟩, _, (loads_render_iff hlegible hprint).mpr ⟨hshallow, rfl⟩, ?_⟩
    rw [sortKeys_obj]
    simp only [bind_eq_ok_iff, pure_eq_ok_iff, fingerprint_eq_ok_iff]
    refine ⟨_, ⟨(hashable_of_sameJson hsame).mpr hhash, rfl⟩, ?_⟩
    rw [sealedFields, sealDigest, render_of_sameJson hsame]

theorem dictGet_sealedFields (fields : Fields) :
    dictGet (sealedFields fields) fingerprintKey = .str (sealDigest fields) := dictGet_append_self _ _ _

/-- A document carries its own fingerprint. -/
structure Sealed (document : Json) (fields : Fields) : Prop where
  shape : document = .obj fields
  sealable : Sealable fields
  fingerprint : dictGet fields fingerprintKey = .str (sealDigest fields)

theorem verifySeal_ok_iff {document : Json} (hlegible : Legible document) :
    verifySeal document = .ok () ↔ ∃ fields, Sealed document fields := by
  unfold verifySeal
  cases document with
  | obj fields =>
    simp only [bind_eq_ok_iff, exists_unit_iff, assertContentSafe_ok_iff, check_eq_ok_iff,
      sealDocument_eq_ok_iff hlegible]
    constructor
    · rintro ⟨-, _, ⟨hseal, rfl⟩, heq⟩
      rw [dictGet_sealedFields, pyEq_str] at heq
      exact ⟨fields, rfl, hseal, heq⟩
    · rintro ⟨_, ⟨⟩, hseal, hfingerprint⟩
      refine ⟨hseal.safe, _, ⟨hseal, rfl⟩, ?_⟩
      rw [dictGet_sealedFields, pyEq_str]
      exact hfingerprint
  | _ =>
    simp only [bind_eq_ok_iff, exists_unit_iff]
    constructor
    · rintro ⟨-, h⟩
      cases h
    · rintro ⟨_, hsealed⟩
      cases hsealed.shape

section Digest

/-- A digest is 64 hexadecimal digits. -/
theorem isHex64_textDigest (text : PyStr) : isHex64 (textDigest text) = true := by
  have hdigit : ∀ n < 16, isHex (hexDigit n) = true := by decide
  rw [isHex64, Bool.and_eq_true, beq_iff_eq, List.all_eq_true]
  constructor
  · simp [textDigest, QA0.hexDigest]
  · intro c hc
    obtain ⟨i, -, rfl⟩ := List.mem_map.mp hc
    exact hdigit _ (Nat.mod_lt _ (by decide))

omit [PyRuntime] in
theorem isHex_of_isHex64 {s : PyStr} (h : isHex64 s = true) : ∀ c ∈ s, isHex c = true := by
  rw [isHex64, Bool.and_eq_true, List.all_eq_true] at h
  exact h.2

omit [PyRuntime] in
theorem isHash_of_isHex64 {s : PyStr} (h : isHex64 s = true) : isHash s = true := by
  rw [isHash, h, Bool.true_or]

omit [PyRuntime] in
theorem plain_of_isHex {c : ℕ} (h : isHex c = true) : c ≠ 37 ∧ isMark c = false := by
  have hlow : c < 128 := by
    simp only [isHex, isAsciiDigit, Bool.or_eq_true, Bool.and_eq_true, decide_eq_true_eq] at h
    omega
  have hall : ∀ c < 128, isHex c = true → c ≠ 37 ∧ isMark c = false := by decide +kernel
  exact hall c hlow h

/-- A digest may be published. -/
theorem privateText_textDigest (text : PyStr) : privateText (textDigest text) = false := by
  have hplain := fun c hc => plain_of_isHex (isHex_of_isHex64 (isHex64_textDigest text) c hc)
  exact privateText_of_plain (fun hm => (hplain 37 hm).1 rfl) fun c hc => (hplain c hc).2

/-- The key of the fingerprint may be published. -/
theorem safeKey_fingerprintKey : SafeKey fingerprintKey := by
  constructor
  · have hlow : ∀ c ∈ fingerprintKey, c < 128 := by decide +kernel
    have hmem : normalizedKey (fingerprintKey.map asciiLower) ∉ privateKeys.map normalizedKey := by decide +kernel
    rw [privateField, PyRuntime.lower_ascii _ hlow]
    exact decide_eq_false hmem
  · have hplain : 37 ∉ fingerprintKey ∧ ∀ c ∈ fingerprintKey, isMark c = false := by decide +kernel
    exact privateText_of_plain hplain.1 hplain.2

end Digest

section Reseal

/-- A sealed document seals to itself. -/
theorem sealed_of_seal {fields r : Fields} (hlegible : Legible (.obj fields)) (h : sealDocument fields = .ok r) :
    Sealed (.obj r) r ∧ Legible (.obj r) := by
  obtain ⟨hseal, rfl⟩ := (sealDocument_eq_ok_iff hlegible).mp h
  have hkeys := hlegible.nodup
  have hsorted : Legible (.obj (sortedFields fields)) := by
    rw [← sortKeys_obj]
    exact legible_sortKeys hlegible
  have hbody : Legible (.obj (unsealed (sortedFields fields))) := by
    rw [Legible, fieldsLegible_iff] at hsorted ⊢
    exact ⟨keys_unsealed hsorted.1, fun f hf => hsorted.2 f (List.mem_of_mem_filter hf)⟩
  have hnew : fingerprintKey ∉ (unsealed (sortedFields fields)).map Prod.fst := by
    rw [← lookup_isSome_iff, lookup_unsealed, if_pos rfl]
    simp
  have hresult : Legible (.obj (sealedFields fields)) := by
    rw [Legible, fieldsLegible_iff] at hbody ⊢
    constructor
    · rw [sealedFields, List.map_append, List.nodup_append]
      refine ⟨hbody.1, by simp, ?_⟩
      rintro a ha b hb rfl
      rw [List.map_singleton, List.mem_singleton] at hb
      rw [hb] at ha
      exact hnew ha
    · intro f hf
      rcases List.mem_append.mp hf with hf | hf
      · exact hbody.2 f hf
      · rw [List.mem_singleton.mp hf]
        exact trivial
  have hagain : unsealed (sealedFields fields) = unsealed (sortedFields fields) := by
    unfold unsealed sealedFields
    rw [List.filter_append, unsealed, List.filter_filter]
    simp
  have hsame := sameJson_unsealed (nodup_sortedFields hkeys) hkeys sameJson_sortedFields
  have hmember : ∀ f ∈ sealedFields fields, f ∈ sortedFields fields ∨ f = (fingerprintKey, .str (sealDigest fields)) := by
    intro f hf
    rcases List.mem_append.mp hf with hf | hf
    · exact .inl (List.mem_of_mem_filter hf)
    · exact .inr (List.mem_singleton.mp hf)
  refine ⟨⟨rfl, ⟨?_, ?_, ?_, ?_⟩, ?_⟩, hresult⟩
  · have hsafe := hseal.safe
    rw [← contentSafe_sortKeys, sortKeys_obj, contentSafe_obj_iff] at hsafe
    rw [contentSafe_obj_iff]
    intro f hf
    rcases hmember f hf with hf | rfl
    · exact hsafe f hf
    · exact ⟨safeKey_fingerprintKey, privateText_textDigest _⟩
  · have hprint := hseal.printable
    rw [← intsPrintable_sortKeys, sortKeys_obj, intsPrintable_obj, List.all_eq_true] at hprint
    rw [intsPrintable_obj, List.all_eq_true]
    intro f hf
    rcases hmember f hf with hf | rfl
    · exact hprint f hf
    · rfl
  · have hshallow := hseal.shallow
    rw [← nesting_sortKeys_eq, sortKeys_obj, nesting] at hshallow
    rw [nesting]
    refine le_trans (Nat.add_le_add_right ?_ 1) hshallow
    rw [fieldsNesting_le_iff]
    intro f hf
    rcases hmember f hf with hf | rfl
    · exact (fieldsNesting_le_iff _ _).mp le_rfl f hf
    · exact Nat.zero_le _
  · rw [hagain, hashable_of_sameJson hsame]
    exact hseal.hashable
  · rw [dictGet_sealedFields, sealDigest, sealDigest, hagain, render_of_sameJson hsame]

end Reseal

section Sealing

variable {fields fields' : Fields}

theorem sealable_of_sameJson (hkeys : (fields.map Prod.fst).Nodup) (hkeys' : (fields'.map Prod.fst).Nodup)
    (h : SameJson (.obj fields) (.obj fields')) (hseal : Sealable fields) : Sealable fields' where
  safe := (contentSafe_of_sameJson h).mp hseal.safe
  printable := by
    rw [← intsPrintable_sortKeys, ← h, intsPrintable_sortKeys]
    exact hseal.printable
  shallow := by
    rw [← nesting_sortKeys_eq, ← h, nesting_sortKeys_eq]
    exact hseal.shallow
  hashable := (hashable_of_sameJson (sameJson_unsealed hkeys hkeys' h)).mp hseal.hashable

/-- The same documents are sealed alike. -/
theorem sealedFields_of_sameJson (hkeys : (fields.map Prod.fst).Nodup) (hkeys' : (fields'.map Prod.fst).Nodup)
    (h : SameJson (.obj fields) (.obj fields')) : sealedFields fields = sealedFields fields' := by
  have hsorted : sortedFields fields = sortedFields fields' := by
    rw [SameJson, sortKeys_obj, sortKeys_obj, Json.obj.injEq] at h
    exact h
  rw [sealedFields, sealedFields, hsorted, sealDigest_of_sameJson hkeys hkeys' h]

/-- A document with the canonical text of a sealed one is sealed. -/
theorem sealed_of_sameJson {document : Json} {fields : Fields} (hlegible : Legible document)
    (hfields : Legible (.obj fields)) (h : SameJson document (.obj fields)) (hsealed : Sealed (.obj fields) fields) :
    ∃ fields', Sealed document fields' := by
  cases document with
  | obj fields' =>
    have hkeys := hlegible.nodup
    have hkeys' := hfields.nodup
    refine ⟨fields', rfl, sealable_of_sameJson hkeys' hkeys (sameJson_symm h) hsealed.sealable, ?_⟩
    have hget := sameJson_get hlegible.uniqueKeys hfields.uniqueKeys h fingerprintKey
    rw [get, get, hsealed.fingerprint] at hget
    rw [sealDigest_of_sameJson hkeys hkeys' h]
    exact sortKeys_eq_str.mp hget
  | arr items =>
    rw [SameJson, sortKeys_obj, sortKeys] at h
    cases h
  | _ =>
    rw [SameJson, sortKeys_obj] at h
    cases h

/-- A key of a sealed document other than the fingerprint. -/
theorem lookup_sealedFields (hkeys : (fields.map Prod.fst).Nodup) {k : PyStr} (hk : k ≠ fingerprintKey) :
    (sealedFields fields).lookup k = (fields.lookup k).map sortKeys := by
  rw [sealedFields, List.lookup_append, lookup_unsealed, if_neg hk, lookup_sortedFields hkeys]
  have hlast : ([(fingerprintKey, Json.str (sealDigest fields))] : Fields).lookup k = none := by
    rw [List.lookup_cons, beq_eq_false_iff_ne.mpr hk]
    rfl
  rw [hlast, Option.or_none]

/-- SHA-256 tells the canonical texts of two documents apart. -/
def ToldApart (v w : Json) : Prop :=
  PyRuntime.sha256 (utf8 (render v)) = PyRuntime.sha256 (utf8 (render w)) → utf8 (render v) = utf8 (render w)

/-- Documents with one fingerprint are the same, when SHA-256 tells them apart. -/
theorem sameJson_of_fingerprint {v w : Json} {d : PyStr} (hv : Legible v) (hw : Legible w) (hfv : fingerprint v = .ok d)
    (hfw : fingerprint w = .ok d) (hapart : ToldApart v w) : SameJson v w := by
  obtain ⟨⟨hprint, hencode⟩, hd⟩ := fingerprint_eq_ok_iff.mp hfv
  obtain ⟨⟨hprint', hencode'⟩, hd'⟩ := fingerprint_eq_ok_iff.mp hfw
  rw [hd] at hd'
  have hbytes := hapart (QA0.hexDigest_injective hd')
  exact sortKeys_eq_of_render_eq hv hw hprint hprint' (utf8_injective hencode hencode' hbytes)

/-- Documents with the same seal are the same, when their digests tell their bodies apart. -/
theorem sameJson_of_seal (hlegible : Legible (.obj fields)) (hlegible' : Legible (.obj fields'))
    (hsealed : Sealed (.obj fields) fields) (hsealed' : Sealed (.obj fields') fields')
    (hequal : sealDigest fields = sealDigest fields') (hapart : ToldApart (.obj (unsealed fields)) (.obj (unsealed fields'))) :
    SameJson (.obj fields) (.obj fields') := by
  have hbody : ∀ {gs : Fields}, Legible (.obj gs) → Legible (.obj (unsealed gs)) := by
    intro gs h
    rw [Legible, fieldsLegible_iff] at h ⊢
    exact ⟨keys_unsealed h.1, fun f hf => h.2 f (List.mem_of_mem_filter hf)⟩
  have hbytes := hapart (QA0.hexDigest_injective hequal)
  obtain ⟨hprint, hencode⟩ := hsealed.sealable.hashable
  obtain ⟨hprint', hencode'⟩ := hsealed'.sealable.hashable
  have htext := utf8_injective hencode hencode' hbytes
  have hsame : SameJson (.obj (unsealed fields)) (.obj (unsealed fields')) :=
    sortKeys_eq_of_render_eq (hbody hlegible) (hbody hlegible') hprint hprint' htext
  rw [sameJson_obj_iff (keys_unsealed hlegible.nodup) (keys_unsealed hlegible'.nodup)] at hsame
  rw [sameJson_obj_iff hlegible.nodup hlegible'.nodup]
  intro k
  by_cases hk : k = fingerprintKey
  · subst hk
    rw [lookup_of_dictGet hsealed.fingerprint Json.noConfusion, lookup_of_dictGet hsealed'.fingerprint Json.noConfusion,
      hequal]
  · have hvalue := hsame k
    rwa [lookup_unsealed, lookup_unsealed, if_neg hk, if_neg hk] at hvalue

end Sealing

end EvaluationLab.SearchCup
