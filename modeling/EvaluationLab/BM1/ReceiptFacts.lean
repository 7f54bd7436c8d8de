import EvaluationLab.BM1.Receipt

/-! When a receipt can be built: everything in it that the runner chose may always be
published, so only what the provider and the transport supplied can stand in the way. -/
namespace EvaluationLab.BM1
open Python Effect QA0

variable [PyRuntime]

theorem Terminal.clean (t : Terminal) : CleanText t.text := by
  cases t <;> exact cleanText_of_asciiClean (by decide +kernel)

theorem Reason.clean (r : Reason) : CleanText r.text := by
  cases r <;> exact cleanText_of_asciiClean (by decide +kernel)

example : asciiClean "PASS" = true := by decide +kernel

theorem ProviderTerminal.clean (t : ProviderTerminal) : CleanText t.text := by
  cases t <;> exact cleanText_of_asciiClean (by decide +kernel)

theorem ScorerStatus.clean (s : ScorerStatus) : CleanText s.text := by
  cases s <;> exact cleanText_of_asciiClean (by decide +kernel)

theorem IdentityCertainty.clean (c : IdentityCertainty) : CleanText c.text ∧ CleanText c.limitation := by
  cases c <;> exact ⟨cleanText_of_asciiClean (by decide +kernel), cleanText_of_asciiClean (by decide +kernel)⟩

theorem isoformat_clean (t : ℤ) : CleanText (PyRuntime.isoformat t) := by
  have hchar : ∀ c, isAsciiDigit c = true ∨ c ∈ py "-:.TZ" →
      c < 128 ∧ asciiLower c ≠ 111 ∧ asciiLower c ≠ 95 ∧ c ≠ 69 := by
    intro c hc
    rcases hc with hc | hc
    · simp only [isAsciiDigit, Bool.and_eq_true, decide_eq_true_eq] at hc
      have hlower : asciiLower c = c := by
        unfold asciiLower
        split_ifs with h
        · simp only [Bool.and_eq_true, decide_eq_true_eq] at h
          omega
        · rfl
      rw [hlower]
      omega
    · have hmem : ∀ c ∈ py "-:.TZ", c < 128 ∧ asciiLower c ≠ 111 ∧ asciiLower c ≠ 95 ∧ c ≠ 69 := by
        decide
      exact hmem c hc
  exact cleanText_of_plain fun c hc => hchar c (PyRuntime.isoformat_chars t c hc)

omit [PyRuntime] in
theorem decisionScore_printable (passed : Bool) {k : ℤ} (h : (decisionScore passed).modelFailureValue = some k) :
    intPrintable k = true := by
  rw [← Option.some.inj h]
  apply intPrintable_of_small
  cases passed <;> decide

omit [PyRuntime] in
theorem intsPrintable_optionalStr (o : Option PyStr) : intsPrintable (optionalStr o) = true := by
  cases o <;> rfl

@[simp] theorem cleanJson_optionalStr (o : Option PyStr) :
    CleanJson (optionalStr o) ↔ ∀ s, o = some s → CleanText s := by
  cases o <;> simp [optionalStr]

@[simp] theorem cleanJson_optionalNumber (o : Option ℤ) : CleanJson (optionalNumber o) := by
  cases o <;> simp [optionalNumber]

@[simp] theorem cleanJson_optionalBool (o : Option Bool) : CleanJson (optionalBool o) := by
  cases o <;> simp [optionalBool]

/-- The numbers and strings of a response that a receipt repeats may be published. -/
structure NormalizedProviderResponse.Publishable (n : NormalizedProviderResponse) : Prop where
  responseId : ∀ t, n.providerResponseId = some t → CleanText t
  modelId : ∀ t, n.resolvedModelId = some t → CleanText t
  finishReason : ∀ t, n.finishReason = some t → CleanText t
  finalText : ∀ t, n.finalText = some t → encodable t = true
  httpStatus : ∀ k, n.httpStatus = some k → intPrintable k = true
  inputTokens : ∀ k, n.inputTokens = some k → intPrintable k = true
  outputTokens : ∀ k, n.outputTokens = some k → intPrintable k = true
  totalTokens : ∀ i o, n.inputTokens = some i → n.outputTokens = some o → intPrintable (i + o) = true

/-- An evidence projection that may be repeated in a receipt. -/
structure Evidence.Sound (e : Evidence) : Prop where
  clean : CleanJson e.toJson
  printable : intsPrintable e.toJson = true

/-- What the runner itself puts into a receipt is in order. -/
structure ReceiptInput.Sound (x : ReceiptInput) (cases : CaseLookup) : Prop where
  valid : x.manifest.Valid cases
  planned : x.attempt ∈ x.manifest.attemptPlan
  provider : providerOf x.manifest x.attempt.providerId = .ok x.provider
  case : caseOf cases x.attempt.caseId = .ok x.case
  body : ∃ d, sha256Json x.requestBody = .ok d
  claim : ∀ c, x.claim = some c → CleanText c.claimFingerprint
  evidence : ∀ e, x.evidence = some e → e.Sound
  scorer : ∀ s k, x.scorer = some s → s.modelFailureValue = some k → intPrintable k = true

/-- What the provider and the transport put into a receipt may be published. -/
def ReceiptInput.Publishable (x : ReceiptInput) : Prop :=
  (∀ n, x.normalized = some n → n.Publishable) ∧ ∀ c, x.errorClass = some c → CleanText c

/-- Digests are clean and byte counts can be printed. -/
structure ReceiptDigests.Sound (d : ReceiptDigests) : Prop where
  wrapper : CleanText d.wrapper
  runtimeControls : CleanText d.runtimeControls
  case : CleanText d.case
  prompt : CleanText d.prompt
  request : CleanText d.request
  requestBytes : intPrintable d.requestBytes = true
  finalContent : ∀ t, d.finalContent = some t → CleanText t
  finalContentBytes : intPrintable d.finalContentBytes = true
  pricing : CleanText d.pricing
  scorer : CleanText d.scorer
  oracle : CleanText d.oracle
  evidence : ∀ t, d.evidence = some t → CleanText t

theorem shaText_clean {t d : PyStr} (h : shaText t = .ok d) : CleanText d := by
  simp only [shaText, bind_eq_ok_iff, pure_eq_ok_iff] at h
  obtain ⟨bytes, -, rfl⟩ := h
  exact cleanText_digestText bytes

theorem jsonBytes_ok_iff (value : Json) :
    (∃ n, jsonBytes value = .ok n) ↔ ∃ d, sha256Json value = .ok d := by
  unfold jsonBytes sha256Json
  simp only [bind_eq_ok_iff, pure_eq_ok_iff]
  constructor
  · rintro ⟨n, t, ht, b, hb, -⟩
    exact ⟨_, t, ht, b, hb, rfl⟩
  · rintro ⟨d, t, ht, b, hb, -⟩
    exact ⟨_, t, ht, b, hb, rfl⟩

theorem jsonBytes_printable {value : Json} {n : ℕ} (h : jsonBytes value = .ok n) :
    intPrintable n = true := by
  simp only [jsonBytes, bind_eq_ok_iff, pure_eq_ok_iff] at h
  obtain ⟨t, -, b, -, rfl⟩ := h
  exact intPrintable_pyLen b

theorem contentDigest_ok_iff (text : Option PyStr) :
    (∃ d, contentDigest text = .ok d) ↔ ∀ t, text = some t → encodable t = true := by
  unfold contentDigest encode
  cases text with
  | none => simp
  | some t =>
    by_cases ht : t = []
    · subst ht
      simp [encodable]
    · by_cases he : encodable t = true
      · simp [ht, he]
      · simp [ht, he]

theorem contentDigest_sound {text : Option PyStr} {fp : Option PyStr} {n : ℕ}
    (h : contentDigest text = .ok (fp, n)) :
    (∀ t, fp = some t → CleanText t) ∧ intPrintable n = true := by
  have hzero : intPrintable ((0 : ℕ) : ℤ) = true := intPrintable_of_small (by decide)
  unfold contentDigest at h
  split at h
  · simp only [Except.ok.injEq, Prod.mk.injEq] at h
    obtain ⟨rfl, rfl⟩ := h
    exact ⟨by simp, hzero⟩
  · split_ifs at h with ht
    · simp only [Except.ok.injEq, Prod.mk.injEq] at h
      obtain ⟨rfl, rfl⟩ := h
      exact ⟨by simp, hzero⟩
    · simp only [bind_eq_ok_iff, pure_eq_ok_iff, Prod.mk.injEq] at h
      obtain ⟨bytes, -, rfl, rfl⟩ := h
      refine ⟨?_, intPrintable_pyLen bytes⟩
      intro t ht
      rw [← Option.some.inj ht]
      exact cleanText_digestText bytes

theorem optionalDigest_clean {document : Option Json} {fp : Option PyStr}
    (h : optionalDigest document = .ok fp) : ∀ t, fp = some t → CleanText t := by
  unfold optionalDigest at h
  split at h
  · simp only [Except.ok.injEq] at h
    subst h
    simp
  · simp only [bind_eq_ok_iff, pure_eq_ok_iff] at h
    obtain ⟨d, hd, rfl⟩ := h
    intro t ht
    rw [← Option.some.inj ht]
    exact sha256Json_clean hd

/-- Digests are sound however they were computed. -/
theorem receiptDigests_sound {x : ReceiptInput} {d : ReceiptDigests} (h : receiptDigests x = .ok d) :
    d.Sound ∧ d.cost = receiptCost x.provider x.normalized ∧
      contentDigest (x.normalized.bind (·.finalText)) = .ok (d.finalContent, d.finalContentBytes) ∧
      sha256Json x.requestBody = .ok d.request ∧
      optionalDigest (x.evidence.map Evidence.toJson) = .ok d.evidence := by
  simp only [receiptDigests, bind_eq_ok_iff, pure_eq_ok_iff] at h
  obtain ⟨wrapper, hwrapper, controls, hcontrols, case, hcase, prompt, -, promptFp, hpromptFp, request,
    hrequest, requestBytes, hbytes, ⟨final, finalBytes⟩, hfinal, pricing, hpricing, scorer, hscorer, oracle,
    horacle, evidence, hevidence, rfl⟩ := h
  obtain ⟨hfinalClean, hfinalBytes⟩ := contentDigest_sound hfinal
  refine ⟨⟨sha256Json_clean hwrapper, sha256Json_clean hcontrols, sha256Json_clean hcase,
    shaText_clean hpromptFp, sha256Json_clean hrequest, jsonBytes_printable hbytes, hfinalClean, hfinalBytes,
    sha256Json_clean hpricing, sha256Json_clean hscorer, sha256Json_clean horacle,
    optionalDigest_clean hevidence⟩, rfl, hfinal, hrequest, hevidence⟩

namespace ReceiptInput.Sound

variable {x : ReceiptInput} {cases : CaseLookup}

theorem provider_mem (hx : x.Sound cases) : x.provider ∈ x.manifest.providers ∧
    checkProvider x.provider = .ok () := by
  obtain ⟨⟨p, hp, hmem, -, hcheck⟩, -⟩ := hx.valid.planned hx.planned
  rw [hx.provider, Except.ok.injEq] at hp
  subst hp
  exact ⟨hmem, hcheck⟩

/-- The strings of the manifest's own provider, attempt and pricing are clean. -/
theorem manifest_clean (hx : x.Sound cases) :
    CleanText x.manifest.manifestId ∧ CleanJson x.attempt.toJson ∧ CleanJson x.provider.toJson := by
  have hclean := hx.valid.clean
  have hobj : CleanJson x.manifest.toJson := hclean
  rw [Manifest.toJson, cleanJson_obj_iff] at hobj
  have hvalues := hobj.2
  have hid : CleanJson (.str x.manifest.manifestId) := hvalues _ (by simp [Manifest.fields])
  have hproviders : CleanJson (.arr (x.manifest.providers.map Provider.toJson)) :=
    hvalues _ (by simp [Manifest.fields])
  have hattempts : CleanJson (.arr (x.manifest.attemptPlan.map Attempt.toJson)) :=
    hvalues _ (by simp [Manifest.fields])
  refine ⟨by simpa using hid, fun t ht => ?_, fun t ht => ?_⟩
  · exact hattempts t (by rw [texts, mem_itemTexts_map]; exact ⟨_, hx.planned, ht⟩)
  · exact hproviders t (by rw [texts, mem_itemTexts_map]; exact ⟨_, hx.provider_mem.1, ht⟩)

omit [PyRuntime] in
private theorem strings_printable (items : List PyStr) : intsPrintable (strings items) = true := by
  rw [strings, intsPrintable]
  induction items with
  | nil => rfl
  | cons s ss ih => simpa [itemsPrintable, intsPrintable] using ih

private theorem controls_digest (hx : x.Sound cases) : ∃ d, sha256Json (.obj [
    ("reasoning_control", x.provider.reasoningControl.toJson),
    ("sampling_control", x.provider.samplingControl.toJson),
    ("runtime_contract", x.manifest.runtimeContract.toJson)]) = .ok d := by
  have hprovider := hx.manifest_clean.2.2
  rw [Provider.toJson, cleanJson_obj_iff] at hprovider
  have hvalues := hprovider.2
  have hreasoning : CleanJson x.provider.reasoningControl.toJson := hvalues _ (by simp)
  have hsampling : CleanJson x.provider.samplingControl.toJson := hvalues _ (by simp)
  have hruntime : CleanJson x.manifest.runtimeContract.toJson := by
    rw [hx.valid.runtime]
    exact cleanTexts_of_asciiClean (by decide)
  have hprint : intsPrintable x.manifest.runtimeContract.toJson = true := by
    rw [hx.valid.runtime]
    decide +kernel
  refine ((publishable_iff _).mpr ⟨?_, ?_⟩).2
  · rw [cleanJson_obj_iff]
    simp only [List.map_cons, List.map_nil]
    refine ⟨cleanTexts_of_asciiClean (by decide), ?_⟩
    simp only [List.forall_mem_cons]
    exact ⟨hreasoning, hsampling, hruntime, by simp⟩
  · simp [intsPrintable, fieldsPrintable, ReasoningControl.toJson, SamplingControl.toJson,
      strings_printable, hprint]

private theorem pricing_digest (hx : x.Sound cases) :
    ∃ d, sha256Json x.provider.pricing.toJson = .ok d := by
  have hprovider := hx.manifest_clean.2.2
  rw [Provider.toJson, cleanJson_obj_iff] at hprovider
  have hpricing : CleanJson x.provider.pricing.toJson := hprovider.2 _ (by simp)
  refine ((publishable_iff _).mpr ⟨hpricing, ?_⟩).2
  simp [Pricing.toJson, intsPrintable, fieldsPrintable, usd, intsPrintable_optionalStr]

/-- The digests exist as soon as the final text can be encoded. -/
theorem digests_ok_iff (hx : x.Sound cases) :
    (∃ d, receiptDigests x = .ok d) ↔
      ∀ t, x.normalized.bind (·.finalText) = some t → encodable t = true := by
  obtain ⟨case, decision, prompt, promptFp, hcase, -, hprompt, hpromptFp, caseFp, hcaseFp⟩ :=
    (hx.valid.planned hx.planned).caseFound
  rw [hx.case, Except.ok.injEq] at hcase
  subst hcase
  obtain ⟨⟨wrapper, hwrapper⟩, ⟨scorer, hscorer⟩, oracle, horacle⟩ := hx.valid.frozenFingerprints
  obtain ⟨controls, hcontrols⟩ := hx.controls_digest
  obtain ⟨pricing, hpricing⟩ := hx.pricing_digest
  obtain ⟨body, hbody⟩ := hx.body
  obtain ⟨bytes, hbytes⟩ := (jsonBytes_ok_iff x.requestBody).mpr hx.body
  obtain ⟨evidence, hevidence⟩ : ∃ d, optionalDigest (x.evidence.map Evidence.toJson) = .ok d := by
    cases he : x.evidence with
    | none => exact ⟨none, rfl⟩
    | some e =>
      have hsound := hx.evidence e he
      obtain ⟨d, hd⟩ := ((publishable_iff e.toJson).mpr ⟨hsound.clean, hsound.printable⟩).2
      exact ⟨some d, by simp [optionalDigest, hd]⟩
  rw [← contentDigest_ok_iff]
  constructor
  · rintro ⟨d, hd⟩
    exact ⟨_, (receiptDigests_sound hd).2.2.1⟩
  · rintro ⟨⟨final, finalBytes⟩, hfinal⟩
    refine ⟨⟨receiptCost x.provider x.normalized, wrapper, controls, caseFp, promptFp, body, bytes, final,
      finalBytes, pricing, scorer, oracle, evidence⟩, ?_⟩
    simp only [receiptDigests, bind_eq_ok_iff, pure_eq_ok_iff]
    exact ⟨wrapper, hwrapper, controls, hcontrols, caseFp, hcaseFp, prompt, hprompt, promptFp, hpromptFp, body,
      hbody, bytes, hbytes, (final, finalBytes), hfinal, pricing, hpricing, scorer, hscorer, oracle, horacle,
      evidence, hevidence, rfl⟩

omit [PyRuntime] in
private theorem optionalNumber_printable (o : Option ℤ) :
    intsPrintable (optionalNumber o) = true ↔ ∀ k, o = some k → intPrintable k = true := by
  cases o <;> simp [optionalNumber, intsPrintable]

example : asciiClean scorerId = true := by decide +kernel

private theorem attemptFields_clean (hx : x.Sound cases) {d : ReceiptDigests} (hd : d.Sound) :
    CleanJson (.obj (receiptRow x d).attemptFields) ↔
      (∀ t, x.normalized.bind (·.resolvedModelId) = some t → CleanText t) ∧
      ∀ t, x.normalized.bind (·.providerResponseId) = some t → CleanText t := by
  obtain ⟨hid, hattempt, hprovider⟩ := hx.manifest_clean
  rw [Attempt.toJson, cleanJson_obj_iff] at hattempt
  rw [Provider.toJson, cleanJson_obj_iff] at hprovider
  have ha := hattempt.2
  have hp := hprovider.2
  simp only [List.map_cons, List.map_nil, List.forall_mem_cons, cleanJson_str] at ha hp
  obtain ⟨-, hattemptId, htrialId, -, -, hcaseId, hvariant, -⟩ := ha
  obtain ⟨hproviderId, hmodel, hendpoint, hadapter, hversion, -⟩ := hp
  have hclaim : ∀ t, x.claim.map (·.claimFingerprint) = some t → CleanText t := by
    intro t ht
    obtain ⟨c, hc, rfl⟩ := Option.map_eq_some_iff.mp ht
    exact hx.claim c hc
  have hliterals := cleanTexts_of_asciiClean
    (s := ["b2-bm1-attempt-receipt/v1", wrapperId, entryId, familyId]) (by decide +kernel)
  simp only [List.forall_mem_cons] at hliterals
  obtain ⟨hschema, hwrapper, hentry, hfamily, -⟩ := hliterals
  rw [cleanJson_obj_iff, ReceiptRow.attemptFields]
  simp only [List.map_cons, List.map_nil]
  refine (and_iff_right (cleanTexts_of_asciiClean (by decide +kernel))).trans ?_
  simp only [receiptRow, List.forall_mem_cons, cleanJson_str, cleanJson_int, cleanJson_float,
    cleanJson_optionalStr, IdentityCertainty.clean, isoformat_clean, hid, hattemptId, htrialId, hcaseId,
    hvariant, hproviderId, hmodel, hendpoint, hadapter, hversion, iff_true_intro hclaim,
    hx.valid.fingerprint_clean, hd.wrapper, hd.runtimeControls, hd.case, hd.prompt, hd.request, hschema,
    hwrapper, hentry, hfamily, List.not_mem_nil, true_and, and_true, false_implies, implies_true]

private theorem outcomeFields_clean (hx : x.Sound cases) {d : ReceiptDigests} (hd : d.Sound) :
    CleanJson (.obj (receiptRow x d).outcomeFields) ↔
      (∀ t, x.errorClass = some t → CleanText t) ∧
      ∀ t, x.normalized.bind (·.finishReason) = some t → CleanText t := by
  have hliterals := cleanTexts_of_asciiClean (s := [scorerId, oracleId]) (by decide +kernel)
  simp only [List.forall_mem_cons] at hliterals
  obtain ⟨hscorer, horacle, -⟩ := hliterals
  have hattribution : ∀ available, CleanJson (attribution available) := by
    intro available
    cases available <;> exact (cleanJson_str _).mpr (cleanText_of_asciiClean (by decide +kernel))
  have husage : CleanJson (receiptRow x d).usage.toJson := by
    rw [Usage.toJson, cleanJson_obj_iff]
    refine ⟨cleanTexts_of_asciiClean (by simp only [List.map_cons, List.map_nil]; decide +kernel), ?_⟩
    simp [hattribution]
  have hcost : CleanJson (receiptRow x d).cost.toJson := by
    have husd : CleanText "USD" := cleanText_of_asciiClean (by decide +kernel)
    rw [Cost.toJson, cleanJson_obj_iff]
    refine ⟨cleanTexts_of_asciiClean (by simp only [List.map_cons, List.map_nil]; decide +kernel), ?_⟩
    cases (receiptRow x d).cost.amount <;> simp [hattribution, usd, husd, receiptRow, hd.pricing]
  have hstatus : ∀ t, (x.scorer.map (·.scorerStatus)).map ScorerStatus.text = some t → CleanText t := by
    intro t ht
    obtain ⟨s, -, rfl⟩ := Option.map_eq_some_iff.mp ht
    exact s.clean
  have hevidence : ∀ e, x.evidence = some e → CleanText e.durability ∧
      (∀ t, e.responseFingerprint = some t → CleanText t) ∧
      (∀ t, e.destinationFingerprint = some t → CleanText t) ∧
      ∀ t, e.storageAuthorityFingerprint = some t → CleanText t := by
    intro e he
    have hclean := (hx.evidence e he).clean
    rw [Evidence.toJson, cleanJson_obj_iff] at hclean
    have hvalues := hclean.2
    simp only [List.map_cons, List.map_nil, List.forall_mem_cons, cleanJson_str,
      cleanJson_optionalStr] at hvalues
    obtain ⟨-, -, -, -, hresponse, -, -, -, -, hdurability, -, hdestination, hstorage, -⟩ := hvalues
    exact ⟨hdurability, hresponse, hdestination, hstorage⟩
  have hraw : ∀ t, x.evidence.bind (·.responseFingerprint) = some t → CleanText t := by
    intro t ht
    obtain ⟨e, he, het⟩ := Option.bind_eq_some_iff.mp ht
    exact (hevidence e he).2.1 t het
  have hdurability : ∀ t, x.evidence.map (·.durability) = some t → CleanText t := by
    intro t ht
    obtain ⟨e, he, rfl⟩ := Option.map_eq_some_iff.mp ht
    exact (hevidence e he).1
  have hdestination : ∀ t, x.evidence.bind (·.destinationFingerprint) = some t → CleanText t := by
    intro t ht
    obtain ⟨e, he, het⟩ := Option.bind_eq_some_iff.mp ht
    exact (hevidence e he).2.2.1 t het
  have hstorage : ∀ t, x.evidence.bind (·.storageAuthorityFingerprint) = some t → CleanText t := by
    intro t ht
    obtain ⟨e, he, het⟩ := Option.bind_eq_some_iff.mp ht
    exact (hevidence e he).2.2.2 t het
  rw [cleanJson_obj_iff, ReceiptRow.outcomeFields]
  simp only [List.map_cons, List.map_nil]
  refine (and_iff_right (cleanTexts_of_asciiClean (by decide +kernel))).trans ?_
  simp only [List.forall_mem_cons, husage, hcost]
  simp only [receiptRow, cleanJson_str, cleanJson_int, cleanJson_bool,
    cleanJson_optionalStr, cleanJson_optionalNumber, cleanJson_optionalBool, Terminal.clean, Reason.clean, ProviderTerminal.clean,
    iff_true_intro hd.finalContent, iff_true_intro hd.evidence, hd.scorer, hd.oracle, hscorer, horacle,
    iff_true_intro hstatus, iff_true_intro hraw, iff_true_intro hdurability, iff_true_intro hdestination,
    iff_true_intro hstorage, List.not_mem_nil, true_and, and_true, false_implies, implies_true]

private theorem row_printable (hx : x.Sound cases) {d : ReceiptDigests} (hd : d.Sound) :
    intsPrintable (receiptRow x d).toJson = true ↔
      (∀ k, x.normalized.bind (·.httpStatus) = some k → intPrintable k = true) ∧
      (∀ k, (receiptRow x d).usage.inputTokens = some k → intPrintable k = true) ∧
      (∀ k, (receiptRow x d).usage.outputTokens = some k → intPrintable k = true) ∧
      ∀ k, (receiptRow x d).usage.totalTokens = some k → intPrintable k = true := by
  have hstr : ∀ s, intsPrintable (.str s) = true := fun _ => rfl
  have hbool : ∀ b, intsPrintable (.bool b) = true := fun _ => rfl
  have hfloat : ∀ q, intsPrintable (.float q) = true := fun _ => rfl
  have hint : ∀ n, intsPrintable (.int n) = intPrintable n := fun _ => rfl
  have hoptionalBool : ∀ o, intsPrintable (optionalBool o) = true := by
    intro o
    cases o <;> rfl
  have hraw : intPrintable ((x.evidence.map (·.responseBytes)).getD 0 : ℕ) = true := by
    cases he : x.evidence with
    | none => exact intPrintable_of_small (by decide)
    | some e =>
      have hprint := (hx.evidence e he).printable
      rw [Evidence.toJson, intsPrintable_obj] at hprint
      simp only [List.all_cons, Bool.and_eq_true] at hprint
      exact hprint.2.2.2.2.2.1
  have hfailure : ∀ k, x.scorer.bind (·.modelFailureValue) = some k → intPrintable k = true := by
    intro k hk
    obtain ⟨s, hs, hsk⟩ := Option.bind_eq_some_iff.mp hk
    exact hx.scorer s k hs hsk
  have hcost : intsPrintable (receiptRow x d).cost.toJson = true := by
    rw [Cost.toJson, intsPrintable_obj]
    cases (receiptRow x d).cost.amount <;> rfl
  have husage : intsPrintable (receiptRow x d).usage.toJson = true ↔
      (∀ k, (receiptRow x d).usage.inputTokens = some k → intPrintable k = true) ∧
      (∀ k, (receiptRow x d).usage.outputTokens = some k → intPrintable k = true) ∧
      ∀ k, (receiptRow x d).usage.totalTokens = some k → intPrintable k = true := by
    rw [Usage.toJson, intsPrintable_obj]
    simp only [List.all_cons, List.all_nil, Bool.and_eq_true, optionalNumber_printable, attribution, hstr,
      true_and, and_true]
  rw [ReceiptRow.toJson, intsPrintable_obj, List.all_append, ReceiptRow.attemptFields,
    ReceiptRow.outcomeFields]
  simp only [List.all_cons, List.all_nil, Bool.and_eq_true, hcost, husage]
  simp only [receiptRow, hstr, hbool, hfloat, hint, hoptionalBool, intsPrintable_optionalStr,
    optionalNumber_printable, hd.requestBytes, hd.finalContentBytes, hraw, iff_true_intro hfailure, true_and,
    and_true]

/-- The receipt is built exactly when what came from outside may be published. -/
theorem receipt_ok_iff (hx : x.Sound cases) : (∃ r, receipt x = .ok r) ↔ x.Publishable := by
  have hrow : ∀ d : ReceiptDigests, d.Sound →
      ((assertPublicSafe (receiptRow x d).toJson = .ok () ∧
        ∃ fp, sha256Json (receiptRow x d).toJson = .ok fp) ↔
      ((∀ t, x.normalized.bind (·.resolvedModelId) = some t → CleanText t) ∧
        ∀ t, x.normalized.bind (·.providerResponseId) = some t → CleanText t) ∧
      ((∀ t, x.errorClass = some t → CleanText t) ∧
        ∀ t, x.normalized.bind (·.finishReason) = some t → CleanText t) ∧
      (∀ k, x.normalized.bind (·.httpStatus) = some k → intPrintable k = true) ∧
      (∀ k, (receiptRow x d).usage.inputTokens = some k → intPrintable k = true) ∧
      (∀ k, (receiptRow x d).usage.outputTokens = some k → intPrintable k = true) ∧
      ∀ k, (receiptRow x d).usage.totalTokens = some k → intPrintable k = true) := by
    intro d hd
    have happend : CleanJson (receiptRow x d).toJson ↔
        CleanJson (.obj (receiptRow x d).attemptFields) ∧ CleanJson (.obj (receiptRow x d).outcomeFields) := by
      simp only [ReceiptRow.toJson, CleanJson, texts, fieldTexts_append, List.forall_mem_append]
    rw [publishable_iff, happend, hx.attemptFields_clean hd, hx.outcomeFields_clean hd, hx.row_printable hd,
      and_assoc]
  constructor
  · rintro ⟨r, hr⟩
    simp only [receipt, bind_eq_ok_iff, exists_unit_iff, pure_eq_ok_iff] at hr
    obtain ⟨d, hd, hsafe, fp, hfp, -⟩ := hr
    obtain ⟨⟨hmodel, hid⟩, ⟨herror, hfinish⟩, hhttp, hin, hout, htotal⟩ :=
      (hrow d (receiptDigests_sound hd).1).mp ⟨hsafe, fp, hfp⟩
    have hfinal := hx.digests_ok_iff.mp ⟨d, hd⟩
    refine ⟨fun n hn => ?_, herror⟩
    simp only [receiptRow, hn, Option.bind_some] at hmodel hid hfinish hhttp hin hout htotal hfinal
    refine ⟨hid, hmodel, hfinish, hfinal, hhttp, hin, hout, fun i o hi ho => htotal _ ?_⟩
    rw [hi, ho]
    rfl
  · rintro ⟨hn, herror⟩
    have hsupplied : ∀ {α : Type} {f : NormalizedProviderResponse → Option α} {P : α → Prop},
        (∀ n, x.normalized = some n → ∀ t, f n = some t → P t) →
        ∀ t, x.normalized.bind f = some t → P t := by
      intro α f P h t ht
      obtain ⟨n, hxn, hft⟩ := Option.bind_eq_some_iff.mp ht
      exact h n hxn t hft
    obtain ⟨d, hd⟩ := hx.digests_ok_iff.mpr (hsupplied fun n hxn => (hn n hxn).finalText)
    have htotal : ∀ k, (receiptRow x d).usage.totalTokens = some k → intPrintable k = true := by
      intro k hk
      simp only [receiptRow, Option.bind_eq_bind, Option.bind_eq_some_iff, Option.pure_def] at hk
      obtain ⟨i, ⟨n, hxn, hi⟩, o, ⟨n', hxn', ho⟩, hk⟩ := hk
      rw [hxn, Option.some.injEq] at hxn'
      subst hxn'
      rw [← Option.some.inj hk]
      exact (hn n hxn).totalTokens i o hi ho
    obtain ⟨hsafe, fp, hfp⟩ := (hrow d (receiptDigests_sound hd).1).mpr
      ⟨⟨hsupplied fun n hxn => (hn n hxn).modelId, hsupplied fun n hxn => (hn n hxn).responseId⟩,
        ⟨herror, hsupplied fun n hxn => (hn n hxn).finishReason⟩,
        hsupplied fun n hxn => (hn n hxn).httpStatus, hsupplied fun n hxn => (hn n hxn).inputTokens,
        hsupplied fun n hxn => (hn n hxn).outputTokens, htotal⟩
    refine ⟨{ receiptRow x d with receiptFingerprint := fp }, ?_⟩
    simp only [receipt, bind_eq_ok_iff, exists_unit_iff, pure_eq_ok_iff]
    exact ⟨d, hd, hsafe, fp, hfp, rfl⟩

end ReceiptInput.Sound

/-- A built receipt repeats its input. -/
theorem receipt_row {x : ReceiptInput} {r : Receipt} (h : receipt x = .ok r) :
    ∃ d, receiptDigests x = .ok d ∧ r.toReceiptRow = receiptRow x d ∧ CleanText r.receiptFingerprint := by
  simp only [receipt, bind_eq_ok_iff, exists_unit_iff, pure_eq_ok_iff] at h
  obtain ⟨d, hd, -, fp, hfp, rfl⟩ := h
  exact ⟨d, hd, rfl, sha256Json_clean hfp⟩

end EvaluationLab.BM1
