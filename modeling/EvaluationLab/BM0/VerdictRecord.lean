import EvaluationLab.BM0.Grid

/-! A planned attempt can be recorded with either verdict. -/
namespace EvaluationLab.BM0
open Python Effect QA0

section Fields

/-- What `_identifier` accepts. -/
def IsIdentifier (s : PyStr) : Prop := strip s ≠ [] ∧ s = strip s ∧ isIdentifier s = true

theorem checkIdentifiers_iff {label : PyStr} {fields : List (PyStr × PyStr)} :
    checkIdentifiers label fields = .ok () ↔ ∀ f ∈ fields, IsIdentifier f.2 := by
  unfold checkIdentifiers checkIdentifier checkText IsIdentifier
  simp only [forM_eq_ok_iff, bind_eq_ok_iff, exists_unit_iff, check_eq_ok_iff, and_assoc]

theorem isIdentifier_ascii {s : PyStr} (h : isIdentifier s = true) : ∀ c ∈ s, c < 128 := by
  have hmarks : ∀ c ∈ py "._:@+-/", c < 128 := by decide
  have hword : ∀ c, isAlphanumeric c = true → c < 128 := by
    intro c hc
    simp only [isAlphanumeric, isAsciiDigit, Bool.or_eq_true, Bool.and_eq_true, decide_eq_true_eq] at hc
    omega
  cases s with
  | nil => simp
  | cons a s =>
    simp only [isIdentifier, Bool.and_eq_true, List.all_eq_true, Bool.or_eq_true, List.contains_eq_mem,
      decide_eq_true_eq] at h
    obtain ⟨⟨ha, -⟩, hs⟩ := h
    rw [List.forall_mem_cons]
    refine ⟨hword a ha, fun c hc => ?_⟩
    rcases hs c hc with hc | hc
    · exact hword c hc
    · exact hmarks c hc

theorem checkLineage_iff {d : Declared} {unsupported inconsistent : PyStr} :
    checkLineage d unsupported inconsistent = .ok () ↔ d.targetId ∈ targetIdsByClass d.targetClass ∧
      ∃ row ∈ canonicalFamilyLineage, row.targetId = d.targetId ∧ d.entryId = row.entryId ∧
        d.familyId = row.familyId ∧ d.targetClass = row.targetClass := by
  unfold checkLineage
  simp only [bind_eq_ok_iff, exists_unit_iff, check_eq_ok_iff]

theorem requireSha256_iff {value label : PyStr} : requireSha256 value label = .ok () ↔ isSha256 value = true := by
  unfold requireSha256
  rw [check_eq_ok_iff]

@[simp] theorem optionalText_none : optionalText none = .null := rfl
@[simp] theorem optionalText_some (s : PyStr) : optionalText (some s) = .str s := rfl
@[simp] theorem optionalInteger_none : optionalInteger none = .null := rfl
@[simp] theorem optionalInteger_some (n : ℤ) : optionalInteger (some n) = .int n := rfl

end Fields

theorem checkCorpusItem_case {t : TrialIdentity} (h : checkCorpusItem t = .ok ()) :
    isSha256 t.caseFingerprint = true := by
  unfold checkCorpusItem at h
  split at h
  all_goals simp only [bind_eq_ok_iff, exists_unit_iff, requireSha256_iff] at h
  · exact h.2.1
  · exact h.2.1
  · exact h.1
  · exact h.2.1

theorem checkObservedIdentity_apart {o : Observation} (h : checkObservedIdentity o = .ok ())
    (hs : o.targetClass ≠ .systemEvalOnly) : o.requestedModelId ≠ systemScopeId ∧ o.endpointId ≠ systemScopeId := by
  unfold checkObservedIdentity at h
  rw [if_neg hs] at h
  split_ifs at h with hscope
  all_goals
    simp only [not_or] at hscope
    exact ⟨hscope.2.2.1, hscope.2.2.2.2⟩

variable [PyRuntime]

/-- The fingerprint of a document that has one. -/
def digestOf (document : Json) : PyStr := digestText (utf8 (render document))

theorem isSha256_digestOf (document : Json) : isSha256 (digestOf document) = true := isSha256_digestText _

theorem cleanText_digestOf (document : Json) : CleanText (digestOf document) := cleanText_digestText _

theorem sha256Json_eq {document : Json} {d : PyStr} (h : sha256Json document = .ok d) : d = digestOf document := by
  unfold sha256Json canonicalJson encode at h
  simp only [bind_eq_ok_iff, pure_eq_ok_iff] at h
  obtain ⟨text, htext, bytes, hbytes, rfl⟩ := h
  split_ifs at htext hbytes
  cases htext
  cases hbytes
  rfl

/-- A document that may be published has its fingerprint. -/
theorem sha256Json_digestOf {document : Json} (hclean : CleanJson document) (hprint : intsPrintable document = true) :
    sha256Json document = .ok (digestOf document) := by
  obtain ⟨-, d, hd⟩ := (publishable_iff document).mpr ⟨hclean, hprint⟩
  rw [hd, sha256Json_eq hd]

theorem verifyFingerprint_iff {claimed field label : PyStr} {content : Json} :
    verifyFingerprint claimed content field label = .ok () ↔ sha256Json content = .ok claimed := by
  unfold verifyFingerprint
  simp only [bind_eq_ok_iff, exists_unit_iff, check_eq_ok_iff, requireSha256_iff]
  constructor
  · rintro ⟨-, computed, hcomputed, rfl⟩
    exact hcomputed
  · intro h
    exact ⟨sha256Json_eq h ▸ isSha256_digestOf content, claimed, h, rfl⟩

theorem cleanJson_append {fields fields' : List (PyStr × Json)} :
    CleanJson (.obj (fields ++ fields')) ↔ CleanJson (.obj fields) ∧ CleanJson (.obj fields') := by
  unfold CleanJson
  simp only [texts, fieldTexts_append, List.forall_mem_append]

omit [PyRuntime] in
theorem intsPrintable_append {fields fields' : List (PyStr × Json)} :
    intsPrintable (.obj (fields ++ fields')) = true ↔
      intsPrintable (.obj fields) = true ∧ intsPrintable (.obj fields') = true := by
  rw [intsPrintable_obj, intsPrintable_obj, intsPrintable_obj, List.all_append, Bool.and_eq_true]

omit [PyRuntime] in
theorem mem_texts_obj {fields : List (PyStr × Json)} {key s : PyStr} {value : Json} (h : (key, value) ∈ fields)
    (hs : s ∈ texts value) : s ∈ texts (.obj fields) := by
  rw [texts]
  induction fields with
  | nil => cases h
  | cons f fs ih =>
    obtain ⟨k, v⟩ := f
    simp only [fieldTexts, List.mem_append, List.mem_cons]
    rcases List.mem_cons.mp h with he | h
    · cases he
      exact .inl (.inr hs)
    · exact .inr (ih h)

/-- A sealed document is accepted with the fingerprint of its fields. -/
theorem sealDocument_clean {fields : List (PyStr × Json)} {key : PyStr} (hclean : CleanJson (.obj fields))
    (hkey : CleanText key) : CleanJson (sealDocument fields key (digestOf (.obj fields))) := by
  unfold sealDocument
  rw [cleanJson_append]
  refine ⟨hclean, (cleanJson_obj_iff _).mpr ⟨by simpa using hkey, ?_⟩⟩
  simpa using cleanText_digestOf _

/-- An attempt that ran within its plan and was answered. -/
structure Recordable (t : TrialIdentity) (started completed : PyStr) : Prop where
  valid : validateTrialIdentity t = .ok ()
  apart : t.targetClass ≠ .systemEvalOnly → t.requestedModelId ≠ systemScopeId ∧ t.endpointId ≠ systemScopeId
  declared : CleanJson (.obj t.toDeclared.fields) ∧ intsPrintable (.obj t.toDeclared.fields) = true
  sampling : sha256Json t.samplingControls.toJson = .ok (digestOf t.samplingControls.toJson)
  reasoning : sha256Json t.reasoningControls.toJson = .ok (digestOf t.reasoningControls.toJson)
  ordered : ∃ s c, timestamp "bm0-observation.timestamps" "request_started_at" started = .ok s ∧
    timestamp "bm0-observation.timestamps" "response_completed_at" completed = .ok c ∧ s ≤ c
  times : CleanText started ∧ CleanText completed

/-- A fingerprint of evidence. -/
def evidenceFingerprint : PyStr :=
  "sha256:0123456789abcdef0123456789abcdef0123456789abcdef0123456789abcdef"

/-- The record of a planned attempt whose output passed or failed its invariant. -/
def verdictRecord (t : TrialIdentity) (started completed : PyStr) (failed : Bool) : Observation :=
  let system : Bool := t.targetClass = .systemEvalOnly
  let accounting : Attribution := if system then .notApplicable else .unavailable
  let value : ℤ := if failed then 1 else 0
  let record : Observation := {
    toDeclared := t.toDeclared
    attemptId := t.attemptId
    resolvedModelOrVersionId := t.expectedResolvedModelOrVersionId
    identityCertainty := t.requiredIdentityCertainty
    aliasLimitation := t.aliasLimitation
    providerRequestId := if system then none else some "request-1"
    samplingControlsFingerprint := digestOf t.samplingControls.toJson
    reasoningControlsFingerprint := digestOf t.reasoningControls.toJson
    requestStartedAt := started
    responseCompletedAt := completed
    rawResponseFingerprint := some evidenceFingerprint
    evidenceReceiptFingerprint := some evidenceFingerprint
    usage := ⟨accounting, none, none, none⟩
    latency := ⟨accounting, none⟩
    cost := ⟨accounting, none, none, none⟩
    providerTerminalStatus := if system then .notApplicable else .success
    providerHttpStatus := if system then none else some 200
    terminalStatus := if failed then .fail else .pass
    unknownDisposition := none
    modelFailureValue := if system then none else some value
    systemInvariantFailureValue := if system then some value else none
    evidenceComplete := true
    hardInvariantPass := some !failed
    adjudicationStatus := .notRequired
    observationFingerprint := [] }
  { record with observationFingerprint := digestOf (.obj record.fields) }

section Checks
variable {t : TrialIdentity} {started completed : PyStr}

/-- What a valid attempt says of its identifiers, its strings and the identity it is planned with. -/
theorem validateTrialIdentity_parts (h : validateTrialIdentity t = .ok ()) :
    (∀ f ∈ t.identifiers, IsIdentifier f.2) ∧
    (∀ e, t.expectedResolvedModelOrVersionId = some e → isIdentifier e = true) ∧
    (t.targetId ∈ targetIdsByClass t.targetClass ∧
      ∃ row ∈ canonicalFamilyLineage, row.targetId = t.targetId ∧ t.entryId = row.entryId ∧
        t.familyId = row.familyId ∧ t.targetClass = row.targetClass) ∧
    isSha256 t.caseFingerprint = true ∧ checkPlannedIdentity t = .ok () ∧
    (∀ f ∈ t.fingerprints, isSha256 f.2 = true) ∧ 0 ≤ t.replicateIndex ∧
    ∀ s ∈ texts t.toJson, publicSafeText s = true := by
  unfold validateTrialIdentity at h
  simp only [bind_eq_ok_iff, exists_unit_iff, check_eq_ok_iff, checkIdentifiers_iff, checkLineage_iff,
    requireSha256_iff, forM_eq_ok_iff, checkInteger, assertPublicSafe_ok_iff] at h
  obtain ⟨hids, hexpected, -, -, hlineage, hitem, hplanned, -, -, -, hfps, -, -, hindex, -, hsafe⟩ := h
  exact ⟨hids, hexpected, hlineage, checkCorpusItem_case hitem, hplanned, hfps, hindex, hsafe⟩

omit [PyRuntime] in
/-- The identity a valid attempt is planned with. -/
theorem checkPlannedIdentity_cases (h : checkPlannedIdentity t = .ok ()) :
    (t.targetClass = .systemEvalOnly ∧ t.applicabilityResult = .notApplicable ∧
      (t.providerSubjectId = systemScopeId ∧ t.modelSubjectId = systemScopeId ∧ t.requestedModelId = systemScopeId ∧
        t.expectedResolvedModelOrVersionId = some systemScopeId ∧ t.endpointId = systemScopeId) ∧
      t.requiredIdentityCertainty = .systemScope ∧ t.aliasLimitation = .notApplicableSystemScope ∧
      t.capabilityMode = py "SYSTEM_EVAL") ∨
    (t.targetClass ≠ .systemEvalOnly ∧ t.applicabilityResult = .applicable ∧
      (t.providerSubjectId ≠ systemScopeId ∧ t.modelSubjectId ≠ systemScopeId ∧
        t.expectedResolvedModelOrVersionId ≠ some systemScopeId) ∧
      ((t.requiredIdentityCertainty = .exact ∧ t.expectedResolvedModelOrVersionId ≠ none ∧
          (t.aliasLimitation = .none ∨ t.aliasLimitation = .movingAliasResolutionRequired)) ∨
        (t.requiredIdentityCertainty = .aliasOnly ∧ t.expectedResolvedModelOrVersionId = none ∧
          t.aliasLimitation = .unverifiableAliasDisclosed))) := by
  unfold checkPlannedIdentity at h
  by_cases hs : t.targetClass = .systemEvalOnly
  · simp only [if_pos hs, bind_eq_ok_iff, exists_unit_iff, check_eq_ok_iff, List.cons.injEq] at h
    obtain ⟨happ, ⟨hprovider, hmodel, -⟩, hrequested, hexpected, hcertainty, hlimit, hendpoint, hmode⟩ := h
    exact .inl ⟨hs, happ, ⟨hprovider, hmodel, hrequested, hexpected, hendpoint⟩, hcertainty, hlimit, hmode⟩
  · rw [if_neg hs] at h
    split_ifs at h with hscope happ
    simp only [List.mem_cons, List.not_mem_nil, or_false, not_or] at hscope
    obtain ⟨hprovider, hmodel, hsnapshot⟩ := hscope
    refine .inr ⟨hs, not_not.mp happ, ⟨Ne.symm hprovider, Ne.symm hmodel, ?_⟩, ?_⟩
    all_goals cases hc : t.requiredIdentityCertainty <;> simp only [hc, check_eq_ok_iff, reduceCtorEq] at h
    · rw [h.1]
      exact fun he => hsnapshot (Option.some.inj he).symm
    · rw [h.1]
      exact Option.some_ne_none _ ∘ Eq.symm
    · exact .inl ⟨rfl, by simp [h.1], h.2⟩
    · exact .inr ⟨rfl, h.1, h.2.2⟩

@[simp] theorem verdictRecord_declared (t : TrialIdentity) (started completed : PyStr) (failed : Bool) :
    (verdictRecord t started completed failed).toDeclared = t.toDeclared := rfl

@[simp] theorem verdictRecord_attemptId (t : TrialIdentity) (started completed : PyStr) (failed : Bool) :
    (verdictRecord t started completed failed).attemptId = t.attemptId := rfl

theorem verdictRecord_identifiers (h : ∀ f ∈ t.identifiers, IsIdentifier f.2) (failed : Bool) :
    ∀ f ∈ (verdictRecord t started completed failed).identifiers, IsIdentifier f.2 := by
  simp only [TrialIdentity.identifiers, Observation.identifiers, verdictRecord, List.forall_mem_cons] at h ⊢
  tauto

theorem verdictRecord_observedIdentity (hplanned : checkPlannedIdentity t = .ok ())
    (hapart : t.targetClass ≠ .systemEvalOnly → t.requestedModelId ≠ systemScopeId ∧ t.endpointId ≠ systemScopeId)
    (failed : Bool) : checkObservedIdentity (verdictRecord t started completed failed) = .ok () := by
  unfold checkObservedIdentity
  rcases checkPlannedIdentity_cases hplanned with ⟨hs, happ, hids, hcertainty, hlimit, hmode⟩ |
    ⟨hs, happ, hids, hcertainty⟩
  · simp [verdictRecord, hs, happ, hids, hcertainty, hlimit, hmode, bind_eq_ok_iff]
  · obtain ⟨hrequested, hendpoint⟩ := hapart hs
    rcases hcertainty with ⟨hc, hresolved, hlimit⟩ | ⟨hc, hresolved, hlimit⟩
    · simp [verdictRecord, hs, happ, hids, hrequested, hendpoint, hc, hresolved, hlimit]
    · simp [verdictRecord, hs, happ, hids, hrequested, hendpoint, hc, hresolved, hlimit]

theorem verdictRecord_verdict (t : TrialIdentity) (started completed : PyStr) (failed : Bool) :
    unknownSemantics (verdictRecord t started completed failed) = .ok none ∧
      checkVerdict (verdictRecord t started completed failed) none = .ok () := by
  by_cases hs : t.targetClass = .systemEvalOnly
  · cases failed <;>
      simp [verdictRecord, hs, unknownSemantics, checkVerdict, expectedModelValue, expectedSystemValue,
        nonModelScorableTerminals, bind_eq_ok_iff]
  · cases failed <;>
      simp [verdictRecord, hs, unknownSemantics, checkVerdict, expectedModelValue, expectedSystemValue,
        nonModelScorableTerminals, bind_eq_ok_iff]

theorem verdictRecord_accounting (t : TrialIdentity) (started completed : PyStr) (failed : Bool) :
    checkUsage (verdictRecord t started completed failed).usage = .ok () ∧
      checkLatency (verdictRecord t started completed failed).latency = .ok () ∧
      checkCost (verdictRecord t started completed failed).cost = .ok () := by
  by_cases hs : t.targetClass = .systemEvalOnly
  · simp [verdictRecord, hs, checkUsage, checkLatency, checkCost]
  · simp [verdictRecord, hs, checkUsage, checkLatency, checkCost]

theorem verdictRecord_scorable (t : TrialIdentity) (started completed : PyStr) (hplanned : checkPlannedIdentity t = .ok ()) (failed : Bool) :
    checkScorable (verdictRecord t started completed failed) = .ok () ∧
      checkUnknownAttribution (verdictRecord t started completed failed) = .ok () := by
  have hterminal : (verdictRecord t started completed failed).terminalStatus ∈ modelScorableTerminals ∧
      (verdictRecord t started completed failed).terminalStatus ≠ .unknown := by
    cases failed <;> simp [verdictRecord, modelScorableTerminals]
  have hunknown : checkUnknownAttribution (verdictRecord t started completed failed) = .ok () := by
    unfold checkUnknownAttribution
    rw [if_neg fun h => hterminal.2 h.1]
    rfl
  refine ⟨?_, hunknown⟩
  unfold checkScorable
  rw [if_pos hterminal.1]
  simp only [bind_eq_ok_iff, exists_unit_iff, check_eq_ok_iff]
  refine ⟨⟨rfl, .inl rfl⟩, ⟨by simp [verdictRecord], by simp [verdictRecord]⟩, ?_⟩
  rcases checkPlannedIdentity_cases hplanned with ⟨hs, -⟩ | ⟨hs, -, -, hcertainty⟩
  · rw [verdictRecord_declared, if_pos hs]
    rfl
  · rw [verdictRecord_declared, if_neg hs]
    simp only [bind_eq_ok_iff, exists_unit_iff, check_eq_ok_iff]
    constructor
    · unfold checkScorableIdentity
      rcases hcertainty with ⟨hc, hresolved, hlimit⟩ | ⟨hc, hresolved, hlimit⟩
      · simp [verdictRecord, hc, hresolved, hlimit]
      · simp [verdictRecord, hc, hresolved, hlimit]
    · simp [Observation.attributableResponse, verdictRecord, hs]

/-- The identifiers of a valid attempt may be published. -/
theorem Recordable.cleanText (h : Recordable t started completed) {key s : PyStr} {value : Json}
    (hfield : (key, value) ∈ t.toDeclared.fields ++ t.ownFields) (hs : s ∈ texts value)
    (hascii : isIdentifier s = true) : CleanText s := by
  obtain ⟨-, -, -, -, -, -, -, hsafe⟩ := validateTrialIdentity_parts h.valid
  exact ⟨hsafe s (mem_texts_obj hfield hs), encodable_of_ascii (isIdentifier_ascii hascii)⟩

/-- The texts an execution is described with may be published. -/
theorem cleanText_texts : (∀ x : IdentityCertainty, CleanText x.text) ∧ (∀ x : AliasLimitation, CleanText x.text) ∧
    (∀ x : Attribution, CleanText x.text) ∧ (∀ x : ProviderTerminal, CleanText x.text) ∧
    (∀ x : Terminal, CleanText x.text) ∧ ∀ x : AdjudicationStatus, CleanText x.text := by
  refine ⟨?_, ?_, ?_, ?_, ?_, ?_⟩
  all_goals intro x
  all_goals cases x <;> exact cleanText_of_asciiClean (by decide +kernel)

/-- Accounting without numbers may be published. -/
theorem cleanJson_accounting (a : Attribution) : CleanJson (Usage.toJson ⟨a, none, none, none⟩) ∧
    CleanJson (Latency.toJson ⟨a, none⟩) ∧ CleanJson (Cost.toJson ⟨a, none, none, none⟩) := by
  refine ⟨?_, ?_, ?_⟩
  all_goals cases a <;> exact cleanTexts_of_asciiClean (by decide +kernel)

theorem Recordable.ownFields_clean (h : Recordable t started completed) (failed : Bool) :
    CleanJson (.obj (verdictRecord t started completed failed).ownFields) := by
  obtain ⟨hids, hexpected, -⟩ := validateTrialIdentity_parts h.valid
  have hattempt : CleanText t.attemptId := by
    have hid : IsIdentifier t.attemptId := hids ("attempt_id", t.attemptId) (by simp [TrialIdentity.identifiers])
    exact h.cleanText (List.mem_append_right _ (by simp [TrialIdentity.ownFields]) :
      (py "attempt_id", .str t.attemptId) ∈ _) (by simp [texts]) hid.2.2
  have hresolved : CleanJson (optionalText t.expectedResolvedModelOrVersionId) := by
    cases he : t.expectedResolvedModelOrVersionId with
    | none => exact cleanJson_null
    | some e =>
      rw [optionalText, cleanJson_str]
      exact h.cleanText (List.mem_append_right _ (by simp [TrialIdentity.ownFields]) :
        (py "expected_resolved_model_or_version_id", optionalText t.expectedResolvedModelOrVersionId) ∈ _)
        (by simp [he, optionalText, texts]) (hexpected e he)
  obtain ⟨hcertainty, hlimit, -, hprovider, hterminal, hadjudication⟩ := cleanText_texts
  obtain ⟨hstarted, hcompleted⟩ := h.times
  have hliteral : ∀ s ∈ [py "b2-bm0-observation/v1", py "request-1", evidenceFingerprint], CleanText s :=
    cleanTexts_of_asciiClean (by decide +kernel)
  simp only [List.forall_mem_cons] at hliteral
  obtain ⟨hschema, hrequest, hevidence, -⟩ := hliteral
  have htimes : CleanJson (.obj [("request_started_at", .str started), ("response_completed_at", .str completed)]) := by
    have hkeys : ∀ k ∈ [py "request_started_at", py "response_completed_at"], CleanText k :=
      cleanTexts_of_asciiClean (by decide +kernel)
    refine (cleanJson_obj_iff _).mpr ⟨hkeys, ?_⟩
    simp [hstarted, hcompleted]
  have hdigest := cleanText_digestOf
  rw [cleanJson_obj_iff]
  constructor
  · simp only [Observation.ownFields, List.map_cons, List.map_nil]
    exact cleanTexts_of_asciiClean (by decide +kernel)
  · by_cases hs : t.targetClass = .systemEvalOnly
    · obtain ⟨husage, hlatency, hcost⟩ := cleanJson_accounting .notApplicable
      simp [Observation.ownFields, verdictRecord, hs, hattempt, hresolved, hcertainty,
        hlimit, hprovider, hterminal, hadjudication, hschema, hevidence, htimes, hdigest, husage, hlatency, hcost]
    · obtain ⟨husage, hlatency, hcost⟩ := cleanJson_accounting .unavailable
      simp [Observation.ownFields, verdictRecord, hs, hattempt, hresolved, hcertainty,
        hlimit, hprovider, hterminal, hadjudication, hschema, hrequest, hevidence, htimes, hdigest, husage, hlatency,
        hcost]

theorem intsPrintable_ownFields (t : TrialIdentity) (started completed : PyStr) (failed : Bool) :
    intsPrintable (.obj (verdictRecord t started completed failed).ownFields) = true := by
  have htext : ∀ s : Option PyStr, intsPrintable (optionalText s) = true := by
    intro s
    cases s <;> rfl
  have hsmall : ∀ n : ℤ, n.natAbs < 2 ^ 63 → intPrintable n = true := fun n hn => intPrintable_of_small hn
  rw [intsPrintable_obj]
  by_cases hs : t.targetClass = .systemEvalOnly <;> cases failed <;>
    simp [Observation.ownFields, verdictRecord, hs, htext, hsmall, intsPrintable, fieldsPrintable, Usage.toJson,
      Latency.toJson, Cost.toJson]

theorem Recordable.fields_publishable (h : Recordable t started completed) (failed : Bool) :
    CleanJson (.obj (verdictRecord t started completed failed).fields) ∧
      intsPrintable (.obj (verdictRecord t started completed failed).fields) = true := by
  unfold Observation.fields
  rw [cleanJson_append, intsPrintable_append]
  exact ⟨⟨h.declared.1, h.ownFields_clean failed⟩, h.declared.2, intsPrintable_ownFields t started completed failed⟩

/-- The record of a verdict is accepted. -/
theorem Recordable.record_valid (h : Recordable t started completed) (failed : Bool) :
    validateObservation (verdictRecord t started completed failed) = .ok () := by
  obtain ⟨hids, hexpected, hlineage, hcase, hplanned, hfps, hindex, hsafe⟩ := validateTrialIdentity_parts h.valid
  obtain ⟨hclean, hprint⟩ := h.fields_publishable failed
  obtain ⟨s, c, hs, hc, hle⟩ := h.ordered
  obtain ⟨hsemantics, hverdict⟩ := verdictRecord_verdict t started completed failed
  obtain ⟨hscorable, hunknown⟩ := verdictRecord_scorable t started completed hplanned failed
  have hevidence : isSha256 evidenceFingerprint = true := by decide +kernel
  obtain ⟨husage, hlatency, hcost⟩ := verdictRecord_accounting t started completed failed
  unfold validateObservation
  simp only [bind_eq_ok_iff, exists_unit_iff, check_eq_ok_iff, checkIdentifiers_iff, forM_eq_ok_iff, checkLineage_iff,
    requireSha256_iff, checkInteger, assertPublicSafe_ok_iff, verifyFingerprint_iff]
  refine ⟨verdictRecord_identifiers hids failed, ?_, hlineage, hcase, verdictRecord_observedIdentity hplanned h.apart failed,
    ?_, hindex, s, hs, c, hc, hle, ?_, ?_, ?_, ?_, ?_, ?_, ?_, ?_, none, hsemantics, hverdict, rfl, hscorable, hunknown,
    ?_, ?_, ?_, ?_, ?_⟩
  · have hrequest : isIdentifier (py "request-1") = true := by decide +kernel
    simp only [List.forall_mem_cons]
    refine ⟨hexpected, ?_, by simp⟩
    intro v hv
    simp only [verdictRecord] at hv
    split_ifs at hv
    cases hv
    exact hrequest
  · simp only [Observation.fingerprintMembers, List.forall_mem_cons]
    exact ⟨isSha256_digestOf _, isSha256_digestOf _, hfps⟩
  · simpa [verdictRecord] using hevidence
  · simpa [verdictRecord] using hevidence
  · exact husage
  · exact hlatency
  · exact hcost
  · simp [verdictRecord]
  · cases failed <;> simp [verdictRecord]
  · cases failed <;> simp [verdictRecord]
  · intro hsystem
    rw [verdictRecord_declared] at hsystem
    simp [verdictRecord, hsystem]
  · cases failed <;> simp [verdictRecord]
  · cases failed <;> simp [verdictRecord]
  · intro text htext
    exact (sealDocument_clean hclean (cleanText_of_asciiClean (by decide +kernel)) text htext).1
  · exact sha256Json_digestOf hclean hprint

theorem verdictRecord_resolved (hplanned : checkPlannedIdentity t = .ok ()) (failed : Bool) :
    checkResolvedIdentity (verdictRecord t started completed failed) t = .ok () := by
  unfold checkResolvedIdentity
  rcases checkPlannedIdentity_cases hplanned with ⟨-, -, hids, hc, hlimit, -⟩ |
    ⟨-, -, -, ⟨hc, -, -⟩ | ⟨hc, hresolved, hlimit⟩⟩
  · simp [verdictRecord, hc, hids, hlimit]
  · simp [verdictRecord, hc]
  · simp [verdictRecord, hc, hresolved, hlimit]

theorem Recordable.record_matches (h : Recordable t started completed) (failed : Bool) :
    (verdictRecord t started completed failed).Matches t where
  valid := h.record_valid failed
  declared := rfl
  sampling := h.sampling
  reasoning := h.reasoning
  resolved := by
    obtain ⟨-, -, -, -, hplanned, -⟩ := validateTrialIdentity_parts h.valid
    exact verdictRecord_resolved hplanned failed

/-- An attempt that has a record could have been recorded with either verdict at the same times. -/
theorem Observation.Matches.recordable {o : Observation} (h : o.Matches t) (ht : validateTrialIdentity t = .ok ()) :
    Recordable t o.requestStartedAt o.responseCompletedAt := by
  have hvalid := h.valid
  unfold validateObservation at hvalid
  simp only [bind_eq_ok_iff, exists_unit_iff, check_eq_ok_iff, assertPublicSafe_ok_iff, verifyFingerprint_iff] at hvalid
  obtain ⟨-, -, -, -, hidentity, -, -, started, hstarted, completed, hcompleted, hle, -, -, -, -, -, -, -, -,
    semantics, -, -, -, -, -, -, -, -, hsafe, hdigest⟩ := hvalid
  have hpublic : assertPublicSafe (.obj o.fields) = .ok () := by
    rw [assertPublicSafe_ok_iff]
    intro text htext
    apply hsafe
    rw [Observation.toJson, sealDocument, texts, fieldTexts_append]
    exact List.mem_append_left _ (by simpa [texts] using htext)
  obtain ⟨hclean, hprint⟩ := (publishable_iff _).mp ⟨hpublic, _, hdigest⟩
  unfold Observation.fields at hclean hprint
  rw [cleanJson_append] at hclean
  rw [intsPrintable_append, h.declared] at hprint
  have hown := hclean.2
  rw [h.declared] at hclean
  have htimes : ∀ s ∈ [o.requestStartedAt, o.responseCompletedAt], CleanText s := by
    intro s hs
    apply hown s
    apply mem_texts_obj (by simp [Observation.ownFields] :
      (py "timestamps", Json.obj [("request_started_at", .str o.requestStartedAt),
        ("response_completed_at", .str o.responseCompletedAt)]) ∈ o.ownFields)
    simp only [List.mem_cons, List.not_mem_nil, or_false] at hs
    rcases hs with rfl | rfl
    · simp [texts, fieldTexts]
    · simp [texts, fieldTexts]
  exact {
    valid := ht
    apart := by
      have hdeclared := h.declared
      intro hs
      obtain ⟨hrequested, hendpoint⟩ := checkObservedIdentity_apart hidentity (hdeclared ▸ hs)
      rw [hdeclared] at hrequested hendpoint
      exact ⟨hrequested, hendpoint⟩
    declared := ⟨hclean.1, hprint.1⟩
    sampling := sha256Json_eq h.sampling ▸ h.sampling
    reasoning := sha256Json_eq h.reasoning ▸ h.reasoning
    ordered := ⟨started, completed, hstarted, hcompleted, hle⟩
    times := ⟨htimes _ (by simp), htimes _ (by simp)⟩ }

end Checks

end EvaluationLab.BM0
