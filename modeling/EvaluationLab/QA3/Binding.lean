import EvaluationLab.QA3.Receipts
import EvaluationLab.QA3.Shapes

/-! What it takes to load a checked receipt from Git, and what a source that was loaded is. -/
namespace EvaluationLab.QA3
open Python Effect QA0

section Path

/-- A path below the result directory, written as it is normalized. -/
structure IsBounded (path : PyStr) : Prop where
  nonempty : path ≠ []
  relative : path.head? ≠ some 47
  inside : py ".." ∉ pathParts path
  normalized : asPosix path = path
  below : (py "results/b2/").isPrefixOf path = true

theorem boundedReceiptPath_eq_ok_iff {value : Json} {path : PyStr} :
    boundedReceiptPath value = .ok path ↔ ∃ s, value = .str s ∧ strip s = path ∧ IsBounded path := by
  unfold boundedReceiptPath
  constructor
  · intro h
    cases value with
    | str s =>
      simp only [bind_eq_ok_iff, exists_unit_iff, check_eq_ok_iff, pure_eq_ok_iff] at h
      obtain ⟨hne, ⟨hhead, hparts, hposix, hbelow⟩, rfl⟩ := h
      exact ⟨s, rfl, rfl, hne, hhead, hparts, hposix, hbelow⟩
    | _ => cases h
  · rintro ⟨s, rfl, rfl, h⟩
    simp only [bind_eq_ok_iff, exists_unit_iff, check_eq_ok_iff, pure_eq_ok_iff]
    exact ⟨h.nonempty, ⟨h.relative, h.inside, h.normalized, h.below⟩, trivial⟩

/-- A path that was accepted is accepted as it is. -/
theorem boundedReceiptPath_self {value : Json} {path : PyStr} (h : boundedReceiptPath value = .ok path) :
    boundedReceiptPath (.str path) = .ok path := by
  obtain ⟨s, -, rfl, hbounded⟩ := boundedReceiptPath_eq_ok_iff.mp h
  exact boundedReceiptPath_eq_ok_iff.mpr ⟨_, rfl, strip_strip s, hbounded⟩

end Path

variable [PyRuntime]

section Checked

def withoutFingerprint (receipt : Fields) : Fields := receipt.filter fun f => f.1 ≠ py "receipt_fingerprint"

/-- A receipt whose gate is `PASS` and which carries the fingerprint of the rest of it. -/
structure IsChecked (receipt : Fields) (fingerprint : PyStr) : Prop where
  carried : dictGet receipt "receipt_fingerprint" = .str fingerprint
  reproduced : sha256Json (.obj (withoutFingerprint receipt)) = .ok fingerprint
  gate : dictGet receipt "gate" = .str "PASS"

theorem isSha256_of_sha256Json {value : Json} {d : PyStr} (h : sha256Json value = .ok d) : BM0.isSha256 d = true := by
  unfold sha256Json at h
  simp only [bind_eq_ok_iff, pure_eq_ok_iff] at h
  obtain ⟨_, -, bytes, -, rfl⟩ := h
  exact BM0.isSha256_digestText bytes

omit [PyRuntime] in
theorem isStr_iff {value : Json} {t : PyStr} : value.isStr t = true ↔ value = .str t :=
  ⟨eq_str_of_isStr, by rintro rfl; exact beq_self_eq_true t⟩

theorem verifyCheckedReceipt_eq_ok_iff {receipt : Json} {checked : Fields} :
    verifyCheckedReceipt receipt = .ok checked ↔ ∃ document fingerprint, receipt = .obj document ∧
      IsChecked document fingerprint ∧
      checked = withoutFingerprint document ++ [(py "receipt_fingerprint", .str fingerprint)] := by
  have hgate : py "gate" ≠ py "receipt_fingerprint" := by decide +kernel
  unfold verifyCheckedReceipt
  simp only [bind_eq_ok_iff, exists_unit_iff, check_eq_ok_iff, pure_eq_ok_iff, obj_eq_ok_iff, isStr_iff]
  constructor
  · rintro ⟨document, rfl, -, fingerprint, hsha, hcarried, hpass, rfl⟩
    rw [dictGet_filter_ne _ hgate] at hpass
    refine ⟨document, fingerprint, rfl, ⟨hcarried, hsha, hpass⟩, ?_⟩
    rw [hcarried]
    rfl
  · rintro ⟨document, fingerprint, rfl, h, rfl⟩
    refine ⟨document, rfl, ?_, fingerprint, h.reproduced, h.carried, ?_, ?_⟩
    · rw [h.carried]
      exact isSha256_of_sha256Json h.reproduced
    · rw [dictGet_filter_ne _ hgate]
      exact h.gate
    · rw [h.carried]
      rfl

/-- Only the fingerprint of a checked receipt changes its place. -/
theorem dictGet_of_verifyCheckedReceipt {document checked : Fields}
    (h : verifyCheckedReceipt (.obj document) = .ok checked) (k : PyStr) : dictGet checked k = dictGet document k := by
  obtain ⟨document', fingerprint, hdocument, hchecked, rfl⟩ := verifyCheckedReceipt_eq_ok_iff.mp h
  cases hdocument
  by_cases hk : k = py "receipt_fingerprint"
  · rw [hk, withoutFingerprint, dictGet_append_self, hchecked.carried]
  · rw [withoutFingerprint, dictGet_append_of_ne _ _ hk, dictGet_filter_ne _ hk]

omit [PyRuntime] in
theorem withoutFingerprint_checked (document : Fields) (v : Json) :
    withoutFingerprint (withoutFingerprint document ++ [(py "receipt_fingerprint", v)]) = withoutFingerprint document := by
  have hlast : withoutFingerprint [(py "receipt_fingerprint", v)] = [] := by simp [withoutFingerprint]
  have hidem : withoutFingerprint (withoutFingerprint document) = withoutFingerprint document := by
    simp [withoutFingerprint, List.filter_filter]
  unfold withoutFingerprint at hlast hidem ⊢
  rw [List.filter_append, hlast, hidem, List.append_nil]

/-- A checked receipt is checked again with the same result. -/
theorem verifyCheckedReceipt_self {receipt : Json} {checked : Fields} (h : verifyCheckedReceipt receipt = .ok checked) :
    verifyCheckedReceipt (.obj checked) = .ok checked := by
  obtain ⟨document, fingerprint, rfl, hchecked, hform⟩ := verifyCheckedReceipt_eq_ok_iff.mp h
  have hget := dictGet_of_verifyCheckedReceipt h
  have hbody : withoutFingerprint checked = withoutFingerprint document := by rw [hform, withoutFingerprint_checked]
  refine verifyCheckedReceipt_eq_ok_iff.mpr ⟨checked, fingerprint, rfl, ⟨?_, ?_, ?_⟩, ?_⟩
  · rw [hget, hchecked.carried]
  · rw [hbody, hchecked.reproduced]
  · rw [hget, hchecked.gate]
  · rw [hbody, hform]

theorem IsChecked.of_verify {receipt : Json} {checked : Fields} (h : verifyCheckedReceipt receipt = .ok checked) :
    ∃ fingerprint, IsChecked checked fingerprint := by
  obtain ⟨document, fingerprint, hdocument, hchecked, -⟩ := verifyCheckedReceipt_eq_ok_iff.mp (verifyCheckedReceipt_self h)
  cases hdocument
  exact ⟨fingerprint, hchecked⟩

end Checked

section Reference

/-- A reference is read back from its document as it is. -/
theorem eq_of_validateEvidenceRef {r r' : EvidenceRef} (h : validateEvidenceRef r.toJson = .ok r') : r = r' := by
  obtain ⟨fields, hfields, hlookup⟩ := lookup_of_validateEvidenceRef h
  cases hfields
  have hkeys : ∀ r : EvidenceRef, (r.fields.map Prod.fst).Nodup := fun _ => nodup_evidenceRefKeys
  apply sameJson_evidenceRef
  rw [EvidenceRef.toJson, EvidenceRef.toJson, sameJson_obj_iff (hkeys r) (hkeys r')]
  intro k
  rw [hlookup]

variable [PyUnicode]

/-- A reference to a receipt by its path, that is accepted. -/
structure IsReceiptRef (r : EvidenceRef) : Prop where
  kind : r.kind = py "B2_RECEIPT"
  path : boundedReceiptPath (.str r.sourceLocator) = .ok r.sourceLocator
  sourceId : r.sourceId = py "B2_RECEIPT:" ++ r.sourceLocator
  accepted : validateEvidenceRef r.toJson = .ok r

theorem receiptRef_of {value : Json} {path gitCommit : PyStr} {checked : Fields} {r : EvidenceRef}
    (hpath : boundedReceiptPath value = .ok path) (hchecked : verifyCheckedReceipt (.obj checked) = .ok checked)
    (h : receiptEvidenceRef path (.obj checked) gitCommit = .ok r) : IsReceiptRef r ∧ r.sourceLocator = path ∧
      r.gitCommit = gitCommit ∧ dictGet checked "receipt_fingerprint" = .str r.sourceFingerprint := by
  unfold receiptEvidenceRef at h
  simp only [bind_eq_ok_iff] at h
  obtain ⟨path', hpath', checked', hchecked', scope, -, h⟩ := h
  rw [boundedReceiptPath_self hpath] at hpath'
  cases hpath'
  rw [hchecked] at hchecked'
  cases hchecked'
  obtain rfl := eq_of_validateEvidenceRef h
  obtain ⟨fingerprint, hfingerprint⟩ := IsChecked.of_verify hchecked
  refine ⟨⟨rfl, boundedReceiptPath_self hpath, rfl, h⟩, rfl, rfl, ?_⟩
  exact eq_str_asText hfingerprint.carried

end Reference

section Source

variable [PyUnicode]

/-- A source as it is kept: a checked receipt, and an accepted reference with its fingerprint. -/
structure IsSource (s : ReceiptSource) : Prop where
  ref : IsReceiptRef s.evidenceRef
  checked : verifyCheckedReceipt (.obj s.receipt) = .ok s.receipt
  fingerprint : dictGet s.receipt "receipt_fingerprint" = .str s.evidenceRef.sourceFingerprint

/-- What is read of a receipt source, which does not depend on its place in the list. -/
theorem normalizeReceiptSource_eq_ok_iff {value : Json} {i : ℕ} {s : ReceiptSource} :
    normalizeReceiptSource (value, i) = .ok s ↔ ∃ source path gitCommit, value = .obj source ∧
      hasKeys source ["path", "git_commit", "receipt"] = true ∧
      boundedReceiptPath (dictGet source "path") = .ok path ∧ pyStr (dictGet source "git_commit") = .ok gitCommit ∧
      verifyCheckedReceipt (dictGet source "receipt") = .ok s.receipt ∧
      receiptEvidenceRef path (.obj s.receipt) gitCommit = .ok s.evidenceRef := by
  unfold normalizeReceiptSource
  simp only [bind_eq_ok_iff, exists_unit_iff, check_eq_ok_iff, pure_eq_ok_iff, obj_eq_ok_iff]
  constructor
  · rintro ⟨source, rfl, hkeys, path, hpath, gitCommit, hcommit, checked, hchecked, ref, href, rfl⟩
    exact ⟨source, path, gitCommit, rfl, hkeys, hpath, hcommit, hchecked, href⟩
  · rintro ⟨source, path, gitCommit, rfl, hkeys, hpath, hcommit, hchecked, href⟩
    exact ⟨source, rfl, hkeys, path, hpath, gitCommit, hcommit, s.receipt, hchecked, s.evidenceRef, href, rfl⟩

theorem isSource_of_normalize {value : Json} {i : ℕ} {s : ReceiptSource}
    (h : normalizeReceiptSource (value, i) = .ok s) : IsSource s := by
  obtain ⟨source, path, gitCommit, -, -, hpath, -, hchecked, href⟩ := normalizeReceiptSource_eq_ok_iff.mp h
  have hself := verifyCheckedReceipt_self hchecked
  obtain ⟨hr, -, -, hfingerprint⟩ := receiptRef_of hpath hself href
  exact ⟨hr, hself, hfingerprint⟩

theorem normalizeReceiptSources_eq_ok_iff {values : List Json} {sources : List ReceiptSource} :
    normalizeReceiptSources values = .ok sources ↔
      List.Forall₂ (fun v s => normalizeReceiptSource (v, 0) = .ok s) values sources := by
  have hindex : (fun (p : Json × ℕ) s => normalizeReceiptSource p = .ok s) =
      fun p s => normalizeReceiptSource (p.1, 0) = .ok s := by
    funext ⟨v, i⟩ s
    rw [normalizeReceiptSource_eq_ok_iff, normalizeReceiptSource_eq_ok_iff]
  have hvalues : values.zipIdx.map Prod.fst = values := List.zipIdx_map_fst 0 values
  unfold normalizeReceiptSources
  rw [mapM_eq_ok_iff, hindex]
  conv_rhs => rw [← hvalues, List.forall₂_map_left_iff]

/-- The source that Git has at a reference. -/
def FromGit (repository : Repository) (reference : Json) (s : ReceiptSource) : Prop :=
  ∃ v, loadReceiptSource repository reference = .ok v ∧ normalizeReceiptSource (v, 0) = .ok s

theorem FromGit.unique {repository : Repository} {reference : Json} {s s' : ReceiptSource}
    (h : FromGit repository reference s) (h' : FromGit repository reference s') : s = s' := by
  obtain ⟨v, hv, hs⟩ := h
  obtain ⟨v', hv', hs'⟩ := h'
  cases hv.symm.trans hv'
  exact Except.ok.inj (hs.symm.trans hs')

theorem loaded_eq_ok_iff {repository : Repository} {references : List Json} {sources : List ReceiptSource} :
    (loadReceiptSourcesAtGitCommit references repository >>= normalizeReceiptSources) = .ok sources ↔
      List.Forall₂ (FromGit repository) references sources := by
  rw [bind_eq_ok_iff]
  simp only [loadReceiptSourcesAtGitCommit, mapM_eq_ok_iff, normalizeReceiptSources_eq_ok_iff]
  exact forall₂_through

/-- A source that Git has at its own reference. -/
structure InGit (repository : Repository) (s : ReceiptSource) : Prop extends IsSource s where
  loaded : FromGit repository s.evidenceRef.toJson s
  stored : ∃ document, receiptAtGitCommit repository s.evidenceRef.sourceLocator s.evidenceRef.gitCommit =
    .ok (.obj document) ∧ verifyCheckedReceipt (.obj document) = .ok s.receipt

omit [PyUnicode] in
/-- What a reference loads is what its path and its commit load. -/
theorem loadReceiptSource_eq_ok_iff {repository : Repository} {reference v : Json} :
    loadReceiptSource repository reference = .ok v ↔ ∃ r path receipt, validateEvidenceRef reference = .ok r ∧
      r.kind = py "B2_RECEIPT" ∧ boundedReceiptPath (.str r.sourceLocator) = .ok path ∧
      r.sourceId = py "B2_RECEIPT:" ++ path ∧ receiptAtGitCommit repository path r.gitCommit = .ok receipt ∧
      v = .obj [("path", .str path), ("git_commit", .str r.gitCommit), ("receipt", receipt)] := by
  unfold loadReceiptSource
  simp only [bind_eq_ok_iff, exists_unit_iff, check_eq_ok_iff, pure_eq_ok_iff]
  constructor
  · rintro ⟨r, hvalid, hkind, path, hpath, hid, receipt, hreceipt, rfl⟩
    exact ⟨r, path, receipt, hvalid, hkind, hpath, hid, hreceipt, rfl⟩
  · rintro ⟨r, path, receipt, hvalid, hkind, hpath, hid, hreceipt, rfl⟩
    exact ⟨r, hvalid, hkind, path, hpath, hid, receipt, hreceipt, rfl⟩

/-- A source loaded at a reference has the identity and the commit of the reference. -/
theorem FromGit.inGit {repository : Repository} {reference : Json} {s : ReceiptSource}
    (h : FromGit repository reference s) : InGit repository s ∧ ∃ r, validateEvidenceRef reference = .ok r ∧
      s.sourceId = r.sourceId ∧ s.evidenceRef.gitCommit = r.gitCommit := by
  obtain ⟨v, hload, hnormal⟩ := h
  obtain ⟨r, path, receipt, hvalid, -, hpath, hid, hreceipt, rfl⟩ := loadReceiptSource_eq_ok_iff.mp hload
  have hsource := isSource_of_normalize hnormal
  obtain ⟨source, path', gitCommit, hv, -, hpath', hcommit', hchecked, href⟩ :=
    normalizeReceiptSource_eq_ok_iff.mp hnormal
  cases hv
  have hpath'' : boundedReceiptPath (.str path) = .ok path' := hpath'
  rw [boundedReceiptPath_self hpath] at hpath''
  cases hpath''
  have hcommit : gitCommit = r.gitCommit := (Except.ok.inj hcommit').symm
  subst hcommit
  have hchecked : verifyCheckedReceipt receipt = .ok s.receipt := hchecked
  obtain ⟨-, hlocator, hcommit, -⟩ := receiptRef_of hpath (verifyCheckedReceipt_self hchecked) href
  have hself : loadReceiptSource repository s.evidenceRef.toJson =
      .ok (.obj [("path", .str path), ("git_commit", .str r.gitCommit), ("receipt", receipt)]) := by
    refine loadReceiptSource_eq_ok_iff.mpr
      ⟨s.evidenceRef, path, receipt, hsource.ref.accepted, hsource.ref.kind, ?_, ?_, ?_, ?_⟩
    · rw [hlocator]
      exact boundedReceiptPath_self hpath
    · rw [← hlocator]
      exact hsource.ref.sourceId
    · rw [hcommit]
      exact hreceipt
    · rw [hcommit]
  have hsourceId : s.sourceId = r.sourceId := by
    rw [ReceiptSource.sourceId, hsource.ref.sourceId, hlocator, hid]
  refine ⟨⟨hsource, ⟨_, hself, hnormal⟩, ?_⟩, r, hvalid, hsourceId, hcommit⟩
  obtain ⟨document, _, rfl, -, -⟩ := verifyCheckedReceipt_eq_ok_iff.mp hchecked
  refine ⟨document, ?_, hchecked⟩
  rw [hlocator, hcommit]
  exact hreceipt

/-- Sources that Git has are loaded again by their own references, in any order. -/
theorem loaded_self {repository : Repository} {sources : List ReceiptSource} (h : ∀ s ∈ sources, InGit repository s) :
    (loadReceiptSourcesAtGitCommit (sources.map fun s => s.evidenceRef.toJson) repository >>=
      normalizeReceiptSources) = .ok sources := by
  rw [loaded_eq_ok_iff, List.forall₂_map_left_iff, List.forall₂_same]
  exact fun s hs => (h s hs).loaded

end Source

end EvaluationLab.QA3
