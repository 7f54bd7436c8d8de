import EvaluationLab.SearchCup.Receipt

/-! A document is a valid receipt exactly when it has the canonical text of one that the reducer
writes. -/
namespace EvaluationLab.SearchCup
open Python Effect Structure
open QA0 (Fields)

section Receipt

variable [PyRuntime]

section Legible

variable [RoundTripFloats] {ledger : ResourceLedger} {inputs : ReceiptInputs} {r : Reduction}

/-- The arguments are documents. -/
structure ReceiptInputs.Legible (inputs : ReceiptInputs) : Prop where
  entrantFingerprint : Python.Legible inputs.entrantFingerprint
  elapsedMs : Python.Legible inputs.elapsedMs
  operatorMs : Python.Legible inputs.operatorMs
  waitingMs : Python.Legible inputs.waitingMs
  outcomes : Python.Legible inputs.outcomes
  priceEvidence : Python.Legible inputs.priceEvidence

omit [RoundTripFloats] [PyRuntime] in
theorem measure_eq_ok_iff {value m : Json} {unit reason : PyStr} {state : Option PyStr} :
    measure value unit state reason = .ok m ↔ validateMeasure m none = .ok () ∧
      m = .obj [(py "state", .str (state.getD (if value.isNull then "UNKNOWN" else "KNOWN"))), (py "value", value),
        (py "unit", .str unit), (py "reason", .str reason)] := by
  unfold measure
  simp only [bind_eq_ok_iff, exists_unit_iff, pure_eq_ok_iff]
  constructor
  · rintro ⟨h, rfl⟩
    exact ⟨h, rfl⟩
  · rintro ⟨h, rfl⟩
    exact ⟨h, rfl⟩

omit [RoundTripFloats] [PyRuntime] in
theorem fits_of_validateMeasure {m : Json} {unit : Option PyStr} (h : validateMeasure m unit = .ok ()) :
    Fits measureSchema m := by
  unfold validateMeasure at h
  simp only [bind_eq_ok_iff, exists_unit_iff, validateContract_ok_iff] at h
  exact h.1

omit [RoundTripFloats] in
/-- A total that is a number of the schema is finite. -/
theorem legible_of_total {v : Json} (htotal : Total v) (hfits : Fits (orNull numberSchema) v) : Legible v := by
  rcases htotal with hlegible | ⟨x, rfl, hzero, hfinite⟩
  · exact hlegible
  · rw [fits_orNull, numberSchema, Fits] at hfits
    rcases hfits with ⟨-, y, hy, hbounds⟩ | hnull
    · cases hy
      cases x with
      | finite q => exact absurd rfl (hfinite q)
      | negativeZero => exact absurd rfl hzero
      | infinity negative => simp [withinBounds] at hbounds
      | nan => simp [withinBounds] at hbounds
    · cases hnull

omit [RoundTripFloats] in
theorem legible_measure {value m : Json} {unit reason : PyStr} {state : Option PyStr} (htotal : Total value)
    (h : measure value unit state reason = .ok m) : Legible m := by
  obtain ⟨hvalid, rfl⟩ := measure_eq_ok_iff.mp h
  have hvalue : Fits (orNull numberSchema) (get _ "value") := fits_get (fits_of_validateMeasure hvalid) rfl
  have hkeys : ([py "state", py "value", py "unit", py "reason"] : List PyStr).Nodup := by decide +kernel
  rw [Legible, fieldsLegible_iff]
  refine ⟨hkeys, ?_⟩
  simp only [List.forall_mem_cons]
  exact ⟨trivial, legible_of_total htotal hvalue, trivial, trivial, by simp⟩

theorem legible_totalMeasure {values : List Json} {unit : PyStr} {m : Json} (h : totalMeasure values unit = .ok m) :
    Legible m := by
  have hnull : Total .null := .inl trivial
  unfold totalMeasure at h
  simp only [bind_eq_ok_iff, exists_unit_iff] at h
  obtain ⟨-, h⟩ := h
  split_ifs at h
  · exact legible_measure hnull h
  · exact legible_measure hnull h
  · obtain ⟨total, htotal, h⟩ := bind_eq_ok_iff.mp h
    exact legible_measure (total_sumNumbers htotal) h

omit [RoundTripFloats] in
theorem legible_retrieverFingerprint {spec : SearchSpecV2} {v : Json} (h : spec.retrieverFingerprint = .ok v) : Legible v := by
  unfold SearchSpecV2.retrieverFingerprint at h
  split_ifs at h
  · simp only [bind_eq_ok_iff, pure_eq_ok_iff] at h
    obtain ⟨d, -, rfl⟩ := h
    trivial
  · cases h
    trivial

omit [RoundTripFloats] in
theorem legible_textsJson (texts : List PyStr) : Legible (textsJson texts) := by
  rw [textsJson, Legible, itemsLegible_iff]
  intro v hv
  obtain ⟨s, -, rfl⟩ := List.mem_map.mp hv
  trivial

/-- What the reducer computes is a document. -/
structure Reduction.Legible (r : Reduction) : Prop where
  tokens : Python.Legible r.tokens
  money : Python.Legible r.money
  retriever : Python.Legible r.retriever
  byClass : Python.Legible (.obj r.byClass)

theorem legible_reduce {elapsedMs : Json} (h : ledger.reduce elapsedMs = .ok r) : r.Legible := by
  unfold ResourceLedger.reduce at h
  simp only [bind_eq_ok_iff, exists_unit_iff, pure_eq_ok_iff] at h
  obtain ⟨tokens, htokens, money, hmoney, runtime, -, -, retriever, hretriever, resource, -, byClass, hclass, rfl⟩ := h
  refine ⟨legible_totalMeasure htokens, legible_totalMeasure hmoney, legible_retrieverFingerprint hretriever, ?_⟩
  rw [mapM_eq_ok_iff] at hclass
  simp only [List.forall₂_cons_left_iff, List.forall₂_nil_left_iff, bind_eq_ok_iff, pure_eq_ok_iff] at hclass
  obtain ⟨_, _, ⟨m, hm, rfl⟩, ⟨_, _, ⟨m', hm', rfl⟩, ⟨_, _, ⟨m'', hm'', rfl⟩, rfl, rfl⟩, rfl⟩, rfl⟩ := hclass
  have hkeys : ([py "SEARCH", py "VERIFY", py "MODEL"] : List PyStr).Nodup := by decide +kernel
  rw [Legible, fieldsLegible_iff]
  refine ⟨hkeys, ?_⟩
  simp only [List.forall_mem_cons]
  exact ⟨legible_totalMeasure hm, legible_totalMeasure hm', legible_totalMeasure hm'', by simp⟩

/-- The keys of a receipt, less its fingerprint. -/
def receiptKeys : List PyStr := [
  "schema_id", "run_id", "spec_fingerprint", "track_id", "fairness_mode", "entrant_fingerprint",
  "retriever_fingerprint", "resource_contract_fingerprint", "events", "search_unit", "search_attempted",
  "search_succeeded", "search_failed", "search_remaining", "search_turns", "results", "follow_links",
  "provider_requests", "automatic_retries", "manual_retries", "retry_policy", "tokens", "money",
  "money_by_class", "paid_failed_attempts", "elapsed_ms", "operator_ms", "waiting_ms",
  "infrastructure_failures", "outcome_inputs", "price_evidence", "terminal_status", "reason_codes",
  "quality_score", "secret_exclusion", "evidence_kind"]

omit [RoundTripFloats] in
theorem keys_receiptFields : (ledger.receiptFields inputs r).map Prod.fst = receiptKeys := rfl

omit [RoundTripFloats] [PyRuntime] in
theorem receiptKeys_nodup : receiptKeys.Nodup := by decide +kernel

theorem legible_receiptFields (hinputs : inputs.Legible) (hreduce : ledger.reduce inputs.elapsedMs = .ok r) :
    Legible (.obj (ledger.receiptFields inputs r)) := by
  have hr := legible_reduce hreduce
  have hspec := ledger.spec.legible
  have hresource : Legible ledger.spec.resources := Legible.get hspec _
  obtain ⟨-, hrun, -⟩ := readLedger_eq_ok_iff.mp ledger.accepted
  obtain ⟨s, hs⟩ := fits_text hrun
  rw [Legible, fieldsLegible_iff, keys_receiptFields]
  refine ⟨receiptKeys_nodup, ?_⟩
  unfold ResourceLedger.receiptFields
  have hcount : ∀ n, Legible (countJson n) := fun _ => trivial
  have hstr : ∀ t, Legible (.str t) := fun _ => trivial
  have hsecret : Legible (.obj [(py "scanner", .str "public-safe-patterns/v1"), (py "status", .str "PASS")]) :=
    legible_of_floatless (by decide +kernel)
  simp only [List.forall_mem_cons, hcount, hstr, hs, Legible.get hspec, Legible.get hresource, legible_textsJson,
    ledger.canonical.1, hinputs.entrantFingerprint, hinputs.elapsedMs, hinputs.operatorMs, hinputs.waitingMs,
    hinputs.outcomes, hinputs.priceEvidence, hr.tokens, hr.money, hr.retriever, hr.byClass, hsecret, true_and]
  exact ⟨trivial, by simp⟩

end Legible

section Same

variable {ledger : ResourceLedger} {inputs inputs' : ReceiptInputs} {r : Reduction}

/-- The arguments have the same canonical texts. -/
structure ReceiptInputs.Same (inputs inputs' : ReceiptInputs) : Prop where
  entrantFingerprint : SameJson inputs.entrantFingerprint inputs'.entrantFingerprint
  elapsedMs : SameJson inputs.elapsedMs inputs'.elapsedMs
  operatorMs : SameJson inputs.operatorMs inputs'.operatorMs
  waitingMs : SameJson inputs.waitingMs inputs'.waitingMs
  outcomes : SameJson inputs.outcomes inputs'.outcomes
  priceEvidence : SameJson inputs.priceEvidence inputs'.priceEvidence

omit [PyRuntime] in
theorem sortedConstants_measure : SortedConstants measureSchema := by
  simp [measureSchema, obj, orNull, numberSchema, textSchema, SortedConstants, PropertiesSorted, AlternativesSorted]

omit [PyRuntime] in
theorem sortedConstants_refs : SortedConstants (arr refSchema 0) := by
  simp [arr, refSchema, obj, textSchema, hashSchema, SortedConstants, PropertiesSorted]

omit [PyRuntime] in
theorem validateMeasure_of_sameJson {m m' : Json} (hm : UniqueKeys m) (hm' : UniqueKeys m') (h : SameJson m m')
    (unit : Option PyStr) : validateMeasure m unit = .ok () ↔ validateMeasure m' unit = .ok () := by
  have hget := sameJson_get hm hm' h
  unfold validateMeasure
  simp only [bind_eq_ok_iff, exists_unit_iff, validateContract_ok_iff, check_eq_ok_iff,
    fits_of_sameJson sortedConstants_measure hm hm' h, isStr_of_sameJson (hget _), isNull_of_sameJson (hget _)]

omit [PyRuntime] in
/-- Every outcome is a measure, whatever the order they are in. -/
theorem outcomes_sortKeys {outcomes : Json} (h : UniqueKeys outcomes) :
    (∃ vs, valuesOf (sortKeys outcomes) = .ok vs ∧ ∀ m ∈ vs, validateMeasure m none = .ok ()) ↔
      ∃ vs, valuesOf outcomes = .ok vs ∧ ∀ m ∈ vs, validateMeasure m none = .ok () := by
  cases outcomes with
  | obj fields =>
    have hvalue : ∀ f ∈ fields, UniqueKeys f.2 := by
      rw [UniqueKeys, fieldsUniqueKeys_iff] at h
      exact h.2
    have hvalid : ∀ f ∈ fields, (validateMeasure (sortKeys f.2) none = .ok () ↔ validateMeasure f.2 none = .ok ()) :=
      fun f hf => validateMeasure_of_sameJson (uniqueKeys_sortKeys (hvalue f hf)) (hvalue f hf) (sortKeys_sortKeys _) none
    simp only [sortKeys_obj, valuesOf, Except.ok.injEq, exists_eq_left', List.forall_mem_map, mem_sortedFields,
      forall_exists_index, and_imp, forall_apply_eq_imp_iff₂]
    exact forall₂_congr hvalid
  | _ => exact Iff.rfl

theorem ReceiptInputs.check_eq_ok_iff {u : Unit} : inputs.check = .ok u ↔ Fits hashSchema inputs.entrantFingerprint ∧
    Fits numberSchema inputs.elapsedMs ∧ validateMeasure inputs.operatorMs (some "ms") = .ok () ∧
    validateMeasure inputs.waitingMs (some "ms") = .ok () ∧ Fits (arr refSchema 0) inputs.priceEvidence ∧
    ContentSafe inputs.outcomes ∧
      ∃ vs, valuesOf inputs.outcomes = .ok vs ∧ ∀ m ∈ vs, validateMeasure m none = .ok () := by
  unfold ReceiptInputs.check
  simp only [bind_eq_ok_iff, exists_unit_iff, validateContract_ok_iff, assertContentSafe_ok_iff, forM_eq_ok_iff]

/-- The same arguments pass the same checks. -/
theorem ReceiptInputs.Same.check_iff (h : inputs.Same inputs') (hi : inputs.Legible) (hi' : inputs'.Legible) :
    inputs.check = .ok () ↔ inputs'.check = .ok () := by
  have hhash : SortedConstants hashSchema := trivial
  have hnumber : SortedConstants numberSchema := trivial
  rw [check_eq_ok_iff, check_eq_ok_iff,
    fits_of_sameJson hhash hi.entrantFingerprint.uniqueKeys hi'.entrantFingerprint.uniqueKeys h.entrantFingerprint,
    fits_of_sameJson hnumber hi.elapsedMs.uniqueKeys hi'.elapsedMs.uniqueKeys h.elapsedMs,
    fits_of_sameJson sortedConstants_refs hi.priceEvidence.uniqueKeys hi'.priceEvidence.uniqueKeys h.priceEvidence,
    validateMeasure_of_sameJson hi.operatorMs.uniqueKeys hi'.operatorMs.uniqueKeys h.operatorMs,
    validateMeasure_of_sameJson hi.waitingMs.uniqueKeys hi'.waitingMs.uniqueKeys h.waitingMs,
    contentSafe_of_sameJson h.outcomes, ← outcomes_sortKeys hi.outcomes.uniqueKeys, h.outcomes,
    outcomes_sortKeys hi'.outcomes.uniqueKeys]

/-- The elapsed time of checked arguments is a number, and the same only as itself. -/
theorem ReceiptInputs.Same.elapsedMs_eq (h : inputs.Same inputs') (hcheck : inputs'.check = .ok ()) :
    inputs.elapsedMs = inputs'.elapsedMs := by
  have hfits := (ReceiptInputs.check_eq_ok_iff.mp hcheck).2.1
  rw [numberSchema, Fits] at hfits
  obtain ⟨hbool, x, hx, -⟩ := hfits
  have hscalar := h.elapsedMs
  rwa [sameJson_scalar] at hscalar
  · intro items hitems
    rw [hitems] at hx
    cases hx
  · intro fields hfields
    rw [hfields] at hx
    cases hx

/-- The same arguments lead to the same receipt. -/
theorem sameJson_receiptFields (h : inputs.Same inputs') :
    SameJson (.obj (ledger.receiptFields inputs r)) (.obj (ledger.receiptFields inputs' r)) := by
  have hfields : sortFields (ledger.receiptFields inputs r) = sortFields (ledger.receiptFields inputs' r) := by
    have hentrant : sortKeys inputs.entrantFingerprint = sortKeys inputs'.entrantFingerprint := h.entrantFingerprint
    have helapsed : sortKeys inputs.elapsedMs = sortKeys inputs'.elapsedMs := h.elapsedMs
    have hoperator : sortKeys inputs.operatorMs = sortKeys inputs'.operatorMs := h.operatorMs
    have hwaiting : sortKeys inputs.waitingMs = sortKeys inputs'.waitingMs := h.waitingMs
    have houtcomes : sortKeys inputs.outcomes = sortKeys inputs'.outcomes := h.outcomes
    have hprices : sortKeys inputs.priceEvidence = sortKeys inputs'.priceEvidence := h.priceEvidence
    unfold ResourceLedger.receiptFields
    simp only [sortFields, truthy_of_sameJson h.priceEvidence, hentrant, helapsed, hoperator, hwaiting, houtcomes,
      hprices]
  rw [SameJson, sortKeys, sortKeys, hfields]

end Same

section Revalidation

variable [RoundTripFloats] {document : Json} {spec : SearchSpecV2} {ledger : ResourceLedger} {inputs : ReceiptInputs}
  {receipt : Fields}

theorem receipt_eq_ok_iff (hinputs : inputs.Legible) : ledger.receipt inputs = .ok receipt ↔ inputs.check = .ok () ∧
    ∃ r, ledger.reduce inputs.elapsedMs = .ok r ∧ Sealable (ledger.receiptFields inputs r) ∧
      receipt = sealedFields (ledger.receiptFields inputs r) := by
  unfold ResourceLedger.receipt
  simp only [bind_eq_ok_iff, exists_unit_iff]
  refine and_congr_right fun _ => exists_congr fun r => and_congr_right fun hreduce => ?_
  exact sealDocument_eq_ok_iff (legible_receiptFields hinputs hreduce)

/-- The same arguments give the same receipt. -/
theorem receipt_of_same {inputs' : ReceiptInputs} (hsame : inputs.Same inputs') (hinputs : inputs.Legible)
    (hinputs' : inputs'.Legible) (h : ledger.receipt inputs' = .ok receipt) : ledger.receipt inputs = .ok receipt := by
  rw [receipt_eq_ok_iff hinputs'] at h
  obtain ⟨hcheck, r, hreduce, hseal, hreceipt⟩ := h
  have helapsed := hsame.elapsedMs_eq hcheck
  have hreduce' : ledger.reduce inputs.elapsedMs = .ok r := by rw [helapsed, hreduce]
  have hkeys := (legible_receiptFields hinputs hreduce').nodup
  have hkeys' := (legible_receiptFields hinputs' hreduce).nodup
  have hfields : SameJson (.obj (ledger.receiptFields inputs r)) (.obj (ledger.receiptFields inputs' r)) :=
    sameJson_receiptFields hsame
  rw [receipt_eq_ok_iff hinputs]
  refine ⟨(hsame.check_iff hinputs hinputs').mpr hcheck, r, hreduce', ?_, ?_⟩
  · exact sealable_of_sameJson hkeys' hkeys (sameJson_symm hfields) hseal
  · rw [hreceipt, sealedFields_of_sameJson hkeys hkeys' hfields]

omit [RoundTripFloats] in
theorem legible_required (h : Legible document) {k : PyStr} {v : Json} (hv : required document k = .ok v) : Legible v := by
  unfold required at hv
  split at hv
  · split at hv
    · rename_i hlookup
      cases hv
      exact h.lookup hlookup
    · cases hv
  · cases hv

omit [RoundTripFloats] in
theorem ReceiptInputs.legible_ofReceipt (h : Python.Legible document) (hinputs : ReceiptInputs.ofReceipt document = .ok inputs) :
    inputs.Legible := by
  unfold ReceiptInputs.ofReceipt at hinputs
  simp only [bind_eq_ok_iff, pure_eq_ok_iff] at hinputs
  obtain ⟨_, h1, _, h2, _, h3, _, h4, _, h5, _, h6, rfl⟩ := hinputs
  exact ⟨legible_required h h1, legible_required h h2, legible_required h h3, legible_required h h4,
    legible_required h h5, legible_required h h6⟩

omit [RoundTripFloats] in
/-- A key of a document with the canonical text of a sealed one. -/
theorem required_of_sameJson {fields : Fields} (hlegible : Legible document) (hfields : Legible (.obj fields))
    (hseal : Legible (.obj (sealedFields fields))) (h : SameJson document (.obj (sealedFields fields))) {k : PyStr} {v : Json}
    (hk : k ≠ fingerprintKey) (hv : fields.lookup k = some v) : ∃ w, required document k = .ok w ∧ SameJson w v := by
  cases document with
  | obj gs =>
    rw [sameJson_obj_iff hlegible.nodup hseal.nodup] at h
    have hvalue := h k
    rw [lookup_sealedFields hfields.nodup hk, hv, Option.map_some, Option.map_some, sortKeys_sortKeys] at hvalue
    obtain ⟨w, hw, hsame⟩ := Option.map_eq_some_iff.mp hvalue
    refine ⟨w, ?_, hsame⟩
    rw [required, hw]
  | arr items =>
    rw [SameJson, sortKeys_obj, sortKeys] at h
    cases h
  | _ =>
    rw [SameJson, sortKeys_obj] at h
    cases h

/-- A document with the canonical text of a receipt leads back to that receipt. -/
theorem rebuildReceipt_of_same (hlegible : Legible document) (hinputs : inputs.Legible)
    (h : ledger.receipt inputs = .ok receipt) (hsame : SameJson document (.obj receipt)) :
    rebuildReceipt document ledger.spec = .ok receipt := by
  have hreceipt := h
  rw [receipt_eq_ok_iff hinputs] at hreceipt
  obtain ⟨hcheck, r, hreduce, hseal, hsealed⟩ := hreceipt
  have hfields := legible_receiptFields hinputs hreduce
  have hlegible' : Legible (.obj (sealedFields (ledger.receiptFields inputs r))) :=
    (sealed_of_seal hfields ((sealDocument_eq_ok_iff hfields).mpr ⟨hseal, rfl⟩)).2
  rw [hsealed] at hsame
  have hfield : ∀ {k : PyStr} {v : Json}, k ≠ fingerprintKey → (ledger.receiptFields inputs r).lookup k = some v →
      ∃ w, required document k = .ok w ∧ SameJson w v :=
    fun hk hv => required_of_sameJson hlegible hfields hlegible' hsame hk hv
  obtain ⟨hfrozen, hrun, -, -, htext, -⟩ := readLedger_eq_ok_iff.mp ledger.accepted
  obtain ⟨s, hs⟩ := fits_text hrun
  obtain ⟨runId, hrunId, hrunSame⟩ := hfield (k := "run_id") (by decide +kernel) rfl
  obtain ⟨events, hevents, heventsSame⟩ := hfield (k := "events") (by decide +kernel) rfl
  obtain ⟨entrant, hentrant, hentrantSame⟩ := hfield (k := "entrant_fingerprint") (by decide +kernel) rfl
  obtain ⟨elapsed, helapsed, helapsedSame⟩ := hfield (k := "elapsed_ms") (by decide +kernel) rfl
  obtain ⟨operator, hoperator, hoperatorSame⟩ := hfield (k := "operator_ms") (by decide +kernel) rfl
  obtain ⟨waiting, hwaiting, hwaitingSame⟩ := hfield (k := "waiting_ms") (by decide +kernel) rfl
  obtain ⟨outcomes, houtcomes, houtcomesSame⟩ := hfield (k := "outcome_inputs") (by decide +kernel) rfl
  obtain ⟨prices, hprices, hpricesSame⟩ := hfield (k := "price_evidence") (by decide +kernel) rfl
  have hrunEq : runId = ledger.runId := by
    rw [hs] at hrunSame ⊢
    exact sortKeys_eq_str.mp hrunSame
  have hcanonical : QA0.canonicalJson events = .ok ledger.eventsJson := by
    unfold QA0.canonicalJson at htext ⊢
    rwa [← intsPrintable_sortKeys, heventsSame, intsPrintable_sortKeys, render_of_sameJson heventsSame]
  have hbuild : ResourceLedger.build ledger.spec runId ledger.eventsJson = .ok ledger := by
    rw [ResourceLedger.build_eq_ok_iff]
    exact ⟨rfl, hrunEq.symm, rfl⟩
  have hinputs' : ReceiptInputs.ofReceipt document = .ok ⟨entrant, elapsed, operator, waiting, outcomes, prices⟩ := by
    rw [ReceiptInputs.ofReceipt, hentrant, helapsed, hoperator, hwaiting, houtcomes, hprices]
    rfl
  have hsameInputs : (ReceiptInputs.mk entrant elapsed operator waiting outcomes prices).Same inputs :=
    ⟨hentrantSame, helapsedSame, hoperatorSame, hwaitingSame, houtcomesSame, hpricesSame⟩
  have hagain := receipt_of_same hsameInputs (ReceiptInputs.legible_ofReceipt hlegible hinputs') hinputs h
  unfold rebuildReceipt
  simp only [bind_eq_ok_iff]
  exact ⟨runId, hrunId, events, hevents, _, hcanonical, ledger, hbuild, _, hinputs', hagain⟩

omit [RoundTripFloats] in
theorem rebuildReceipt_eq_ok (hlegible : Legible document) (h : rebuildReceipt document spec = .ok receipt) :
    ∃ (ledger : ResourceLedger) (inputs : ReceiptInputs), ledger.spec = spec ∧ inputs.Legible ∧
      ledger.receipt inputs = .ok receipt := by
  unfold rebuildReceipt at h
  simp only [bind_eq_ok_iff] at h
  obtain ⟨runId, -, events, -, text, -, ledger, hbuild, inputs, hinputs, hreceipt⟩ := h
  exact ⟨ledger, inputs, (ResourceLedger.build_eq_ok_iff.mp hbuild).1, ReceiptInputs.legible_ofReceipt hlegible hinputs,
    hreceipt⟩

/-- A receipt is sealed. -/
theorem sealed_receipt (hinputs : inputs.Legible) (h : ledger.receipt inputs = .ok receipt) :
    Sealed (.obj receipt) receipt ∧ Legible (.obj receipt) := by
  rw [receipt_eq_ok_iff hinputs] at h
  obtain ⟨-, r, hreduce, hseal, hsealed⟩ := h
  have hfields := legible_receiptFields hinputs hreduce
  exact sealed_of_seal hfields ((sealDocument_eq_ok_iff hfields).mpr ⟨hseal, hsealed⟩)

omit [RoundTripFloats] in
theorem validateResourceReceipt_eq_ok : validateResourceReceipt document spec = .ok () ↔
    verifySeal document = .ok () ∧ ∃ rebuilt, rebuildReceipt document spec = .ok rebuilt ∧
      pyEq document (.obj rebuilt) = true := by
  unfold validateResourceReceipt
  simp only [bind_eq_ok_iff, exists_unit_iff, check_eq_ok_iff, reshaping_eq_ok_iff]

/-- A document validates as a receipt exactly when it has the canonical text of a receipt of some
ledger of the declaration, as long as the digest tells its body from that of the rebuilt receipt. -/
theorem validateResourceReceipt_ok_iff (hlegible : Legible document)
    (hapart : ∀ fields rebuilt, document = .obj fields → rebuildReceipt document spec = .ok rebuilt →
      ToldApart (.obj (unsealed fields)) (.obj (unsealed rebuilt))) :
    validateResourceReceipt document spec = .ok () ↔
      ∃ (ledger : ResourceLedger) (inputs : ReceiptInputs) (receipt : Fields) (text : PyStr), ledger.spec = spec ∧
        inputs.Legible ∧ ledger.receipt inputs = .ok receipt ∧ QA0.canonicalJson document = .ok text ∧
          QA0.canonicalJson (.obj receipt) = .ok text := by
  rw [validateResourceReceipt_eq_ok, verifySeal_ok_iff hlegible]
  constructor
  · rintro ⟨⟨fields, hsealed⟩, rebuilt, hrebuilt, hequal⟩
    obtain ⟨ledger, inputs, hspec, hinputs, hreceipt⟩ := rebuildReceipt_eq_ok hlegible hrebuilt
    obtain ⟨hsealed', hlegible'⟩ := sealed_receipt hinputs hreceipt
    obtain rfl := hsealed.shape
    have hdigest : sealDigest fields = sealDigest rebuilt := by
      have hsame := dictGet_str_of_pyEq hlegible.nodup hequal hsealed'.fingerprint
      rw [hsealed.fingerprint] at hsame
      exact Json.str.inj hsame
    have hsame := sameJson_of_seal hlegible hlegible' hsealed hsealed' hdigest (hapart fields rebuilt rfl hrebuilt)
    refine ⟨ledger, inputs, rebuilt, render (.obj rebuilt), hspec, hinputs, hreceipt, ?_, if_pos hsealed'.sealable.printable⟩
    rw [← render_of_sameJson hsame]
    exact if_pos hsealed.sealable.printable
  · rintro ⟨ledger, inputs, receipt, text, rfl, hinputs, hreceipt, htext, htext'⟩
    obtain ⟨hsealed', hlegible'⟩ := sealed_receipt hinputs hreceipt
    unfold QA0.canonicalJson at htext htext'
    split_ifs at htext htext' with hprint hprint'
    have hrender : render document = render (.obj receipt) := Except.ok.inj (htext.trans htext'.symm)
    have hsame : SameJson document (.obj receipt) := sortKeys_eq_of_render_eq hlegible hlegible' hprint hprint' hrender
    have hfinite : CSLive.floatsFinite (.obj receipt) = true := ((contentSafe_iff_visit _).mpr hsealed'.sealable.safe).1
    exact ⟨sealed_of_sameJson hlegible hlegible' hsame hsealed', receipt,
      rebuildReceipt_of_same hlegible hinputs hreceipt hsame, pyEq_of_sameJson hfinite hlegible'.uniqueKeys hsame⟩

end Revalidation

end Receipt

section Sample

open Python.Whole

def sampleInputs : ReceiptInputs where
  entrantFingerprint := .str zeroDigest
  elapsedMs := .int 10
  operatorMs := sampleMeasure 0 "ms"
  waitingMs := sampleMeasure 0 "ms"
  outcomes := .obj []
  priceEvidence := .arr []

theorem legible_sampleInputs : sampleInputs.Legible where
  entrantFingerprint := trivial
  elapsedMs := trivial
  operatorMs := legible_of_floatless (by decide +kernel)
  waitingMs := legible_of_floatless (by decide +kernel)
  outcomes := legible_of_floatless (by decide +kernel)
  priceEvidence := legible_of_floatless (by decide +kernel)

theorem exists_sampleReceipt : ∃ receipt, sampleLedger.receipt sampleInputs = .ok receipt := by
  have hok : (sampleLedger.receipt sampleInputs).isOk = true := by decide +kernel
  cases h : sampleLedger.receipt sampleInputs with
  | ok receipt => exact ⟨receipt, rfl⟩
  | error e =>
    rw [h] at hok
    cases hok

/-- The receipt of the sample run validates. -/
theorem validateResourceReceipt_sample : ∃ receipt, sampleLedger.receipt sampleInputs = .ok receipt ∧
    validateResourceReceipt (.obj receipt) sampleLedger.spec = .ok () := by
  obtain ⟨receipt, h⟩ := exists_sampleReceipt
  obtain ⟨hsealed, hlegible⟩ := sealed_receipt legible_sampleInputs h
  have hagain := rebuildReceipt_of_same hlegible legible_sampleInputs h (sameJson_refl _)
  have htext : QA0.canonicalJson (.obj receipt) = .ok (render (.obj receipt)) := if_pos hsealed.sealable.printable
  have hapart : ∀ fields rebuilt, Json.obj receipt = .obj fields → rebuildReceipt (.obj receipt) sampleLedger.spec = .ok rebuilt →
      ToldApart (.obj (unsealed fields)) (.obj (unsealed rebuilt)) := by
    intro fields rebuilt hshape hrebuilt
    rw [hagain] at hrebuilt
    obtain rfl := Json.obj.inj hshape
    obtain rfl := Except.ok.inj hrebuilt
    exact fun _ => rfl
  exact ⟨receipt, h, (validateResourceReceipt_ok_iff hlegible hapart).mpr ⟨sampleLedger, sampleInputs, receipt, _, rfl, legible_sampleInputs, h, htext, htext⟩⟩

end Sample

end EvaluationLab.SearchCup
