import EvaluationLab.QA3.Shapes
import EvaluationLab.Python.AsciiRuntime
import EvaluationLab.Python.JsonLoads

/-! When a reconciliation that passes means that the adapter is the reference representation. -/
namespace EvaluationLab.QA3
open Python Effect QA0

section Exactness

/-- A set has no members when its list has none. -/
theorem sortedSet_eq_nil_iff {texts : List PyStr} : sortedSet texts = [] ↔ texts = [] := by
  unfold sortedSet
  rw [← List.length_eq_zero_iff, List.length_insertionSort, List.length_eq_zero_iff, List.dedup_eq_nil]

/-- Everything that is compared agrees, the value of the metric apart. -/
structure OthersAgree (canonical : NeutralRecord) (digest : PyStr) (adapter : AdapterRepresentation) : Prop where
  source_digest : adapter.sourceDigest = digest
  adapter_record_id : adapter.adapterRecordId = adapterAlias digest
  canonical_ref : adapter.canonicalRef = canonical.evidenceRef
  metric_texts : ∀ k ∈ metricTexts, dictGet adapter.metric k = dictGet canonical.metric k
  terminal_status : adapter.terminalStatus = canonical.terminalStatus
  hard_invariant_pass : adapter.hardInvariantPass = canonical.hardInvariantPass
  disclosed : canonical.hasOptionalMetadata = true → adapter.limitations ≠ []

example : ∀ k ∈ metricTexts, k ∈ metricFields := by decide +kernel

theorem mismatchesOf_eq_nil_iff {canonical : NeutralRecord} {digest : PyStr} {adapter : AdapterRepresentation}
    (h : MetricShape canonical.metric) : mismatchesOf canonical digest adapter = [] ↔
      OthersAgree canonical digest adapter ∧
        pyEq (dictGet adapter.metric "value") (dictGet canonical.metric "value") = true := by
  have hnil : ∀ (p : Prop) [Decidable p] (name : PyStr), (if p then [] else [name]) = [] ↔ p := by
    intro p _ name
    split_ifs with hp <;> simp [hp]
  have hpos : ∀ (p : Prop) [Decidable p] (name : PyStr), (if p then [name] else []) = [] ↔ ¬ p := by
    intro p _ name
    split_ifs with hp <;> simp [hp]
  have hmetric : (∀ k ∈ metricFields, pyEq (dictGet adapter.metric k) (dictGet canonical.metric k) = true) ↔
      (∀ k ∈ metricTexts, dictGet adapter.metric k = dictGet canonical.metric k) ∧
        pyEq (dictGet adapter.metric "value") (dictGet canonical.metric "value") = true := by
    simp only [metricFields_iff, or_imp, forall_and, forall_eq]
    apply and_congr_left
    intro _
    apply forall₂_congr
    intro k hk
    obtain ⟨s, hs⟩ := h.texts k hk
    rw [hs, pyEq_str]
  unfold mismatchesOf
  simp only [List.append_eq_nil_iff, hnil, hpos, List.map_eq_nil_iff, List.filter_eq_nil_iff, Bool.not_eq_true',
    Bool.not_eq_false, hmetric, not_and]
  constructor
  · rintro ⟨⟨⟨⟨⟨⟨hdigest, hid⟩, href⟩, htexts, hvalue⟩, hstatus⟩, hverdict⟩, hdisclosed⟩
    exact ⟨⟨hdigest, hid, href, htexts, hstatus, hverdict, hdisclosed⟩, hvalue⟩
  · rintro ⟨⟨hdigest, hid, href, htexts, hstatus, hverdict, hdisclosed⟩, hvalue⟩
    exact ⟨⟨⟨⟨⟨⟨hdigest, hid⟩, href⟩, htexts, hvalue⟩, hstatus⟩, hverdict⟩, hdisclosed⟩

variable [PyRuntime]

/-- Where a reconciliation passes. -/
def Reconciles (record adapter : Fields) : Prop :=
  ∃ r, reconcileAdapter (.obj record) (.obj adapter) true = .ok r ∧ r.status = .pass

theorem reconciles_iff {record adapter : Fields} {canonical : NeutralRecord} {a : AdapterRepresentation}
    (hcanonical : validateNeutralRecord (.obj record) = .ok canonical)
    (hadapter : validateAdapterRepresentation (.obj adapter) = .ok a) (hshape : MetricShape canonical.metric) :
    Reconciles record adapter ↔ ∃ digest, sha256Json (.obj canonical.document) = .ok digest ∧
      OthersAgree canonical digest a ∧ pyEq (dictGet a.metric "value") (dictGet canonical.metric "value") = true := by
  cases hdigest : sha256Json (.obj canonical.document) with
  | error e =>
    have hrun : reconcileAdapter (.obj record) (.obj adapter) true = .error e := by
      unfold reconcileAdapter
      rw [hcanonical]
      change (sha256Json (.obj canonical.document) >>= _) = _
      rw [hdigest]
      rfl
    constructor
    · rintro ⟨r, h, -⟩
      rw [hrun] at h
      cases h
    · rintro ⟨digest, h, -⟩
      cases h
  | ok digest =>
    have hrun : ∃ r, reconcileAdapter (.obj record) (.obj adapter) true = .ok r ∧
        (r.status = .pass ↔ mismatchesOf canonical digest a = []) := by
      unfold reconcileAdapter
      rw [hcanonical, hadapter]
      change ∃ r, (sha256Json (.obj canonical.document) >>= _) = _ ∧ _
      rw [hdigest]
      refine ⟨_, rfl, ?_⟩
      dsimp only
      rw [← @sortedSet_eq_nil_iff (mismatchesOf canonical digest a)]
      split_ifs with hnil
      · simp [hnil]
      · simp [hnil]
    obtain ⟨r, hr, hstatus⟩ := hrun
    constructor
    · rintro ⟨r', hr', hpass⟩
      rw [hr] at hr'
      cases hr'
      exact ⟨digest, rfl, (mismatchesOf_eq_nil_iff hshape).mp (hstatus.mp hpass)⟩
    · rintro ⟨digest', hdigest', hagree⟩
      cases hdigest'
      exact ⟨r, hr, hstatus.mpr ((mismatchesOf_eq_nil_iff hshape).mpr hagree)⟩

/-- An accepted record is read as its own fields. -/
structure RecordShape (record : Fields) (canonical : NeutralRecord) : Prop where
  document : canonical.document = record
  reference : validateEvidenceRef (dictGet record "evidence_ref") = .ok canonical.evidenceRef
  metric : dictGet record "metric" = .obj canonical.metric
  shape : MetricShape canonical.metric

theorem recordShape_of {record : Fields} {canonical : NeutralRecord}
    (h : validateNeutralRecord (.obj record) = .ok canonical) : RecordShape record canonical := by
  unfold validateNeutralRecord at h
  simp only [bind_eq_ok_iff, exists_unit_iff, check_eq_ok_iff, obj_eq_ok_iff, Json.obj.injEq] at h
  obtain ⟨_, rfl, -, -, _, -, reference, hreference, metric, hmetric, status, -, verdict, -, h⟩ := h
  obtain ⟨hobj, hshape⟩ := metricShape_of hmetric
  split at h
  · simp only [bind_eq_ok_iff, exists_unit_iff, pure_eq_ok_iff] at h
    obtain ⟨-, rfl⟩ := h
    exact ⟨rfl, hreference, hobj, hshape⟩
  · simp only [bind_eq_ok_iff, exists_unit_iff, pure_eq_ok_iff] at h
    obtain ⟨-, rfl⟩ := h
    exact ⟨rfl, hreference, hobj, hshape⟩
  · cases h

/-- An accepted representation has the fields it is read as. -/
structure AdapterShape (adapter : Fields) (a : AdapterRepresentation) (raw : Json) : Prop where
  reference : validateEvidenceRef raw = .ok a.canonicalRef
  lookup : ∀ k, adapter.lookup k = (adapterFields a.adapterRecordId a.sourceDigest raw (.obj a.metric)
    a.terminalStatus a.hardInvariantPass a.limitations).lookup k

theorem adapterShape_of {adapter : Fields} {a : AdapterRepresentation}
    (h : validateAdapterRepresentation (.obj adapter) = .ok a) : ∃ raw, AdapterShape adapter a raw := by
  unfold validateAdapterRepresentation at h
  simp only [bind_eq_ok_iff, exists_unit_iff, check_eq_ok_iff, obj_eq_ok_iff, Json.obj.injEq, hasKeys_eq_true_iff,
    member_eq_ok_iff, boolean_eq_ok_iff] at h
  obtain ⟨_, rfl, hkeys, hschema, hid, _, hrecordId, hdigest, reference, hreference, metric, hmetric, status, ⟨hstatus, -⟩,
    verdict, hverdict, h⟩ := h
  obtain ⟨recordId, hrecordId⟩ := dictGet_of_text hrecordId
  split at h
  · next hwriteback =>
    simp only [bind_eq_ok_iff, exists_unit_iff, pure_eq_ok_iff] at h
    obtain ⟨texts, hlimitations, -, rfl⟩ := h
    have hitems : ∃ items, dictGet adapter "limitations" = .arr items := by
      unfold stringArray at hlimitations
      split at hlimitations
      · exact ⟨_, ‹_›⟩
      · cases hlimitations
    obtain ⟨items, hitems⟩ := hitems
    have hne : ∀ {key : PyStr} {v : Json}, dictGet adapter key = v → v ≠ .null → adapter.lookup key = some v :=
      fun hv hnull => lookup_of_dictGet hv hnull
    have hnull : dictGet adapter "canonical_ref" ≠ .null := by
      intro hnull
      rw [hnull] at hreference
      cases hreference
    refine ⟨dictGet adapter "canonical_ref", hreference, ?_⟩
    apply lookup_eq_template
    · intro k hk
      exact (hkeys k).mp hk
    · simp only [adapterFields, List.forall_mem_cons, List.not_mem_nil, false_implies, implies_true, and_true]
      exact ⟨hne (eq_str_of_isStr hschema) Json.noConfusion, hne (eq_str_of_isStr hid) Json.noConfusion,
        hne (eq_str_asText hrecordId) Json.noConfusion, hne (isSha256_str hdigest) Json.noConfusion,
        hne rfl hnull, hne hmetric Json.noConfusion, hne hstatus Json.noConfusion, hne hverdict Json.noConfusion,
        hne hwriteback Json.noConfusion, by rw [hitems]; exact hne hitems Json.noConfusion⟩
  · cases h

/-- A flat document is copied with its keys sorted. -/
theorem jsonCopy_of_flat {fields : Fields} (hlimit : 1 ≤ PyRuntime.recursionLimit) (hlegible : Legible (.obj fields))
    (hprint : intsPrintable (.obj fields) = true) (hflat : ∀ f ∈ fields, nesting f.2 = 0) :
    jsonCopy (.obj fields) = .ok (sortKeys (.obj fields)) := by
  have hnesting : nesting (.obj fields) ≤ PyRuntime.recursionLimit := by
    have hfields : fieldsNesting fields ≤ 0 := (fieldsNesting_le_iff fields 0).mpr fun f hf => (hflat f hf).le
    rw [nesting]
    omega
  unfold jsonCopy canonicalJson
  rw [if_pos hprint]
  exact loads_render hlegible hprint hnesting

/-- The adapter is the representation, its limitations apart. -/
structure Represents (canonical : NeutralRecord) (adapter reference : Fields) : Prop where
  same : ∀ k ≠ py "limitations", (adapter.lookup k).map sortKeys = (reference.lookup k).map sortKeys
  disclosed : canonical.hasOptionalMetadata = true → ∀ items, adapter.lookup (py "limitations") = some (.arr items) →
    items ≠ []

omit [PyRuntime] in
theorem nodup_adapterKeys : adapterKeys.Nodup := by decide +kernel

omit [PyRuntime] in
theorem adapterFields_same_iff {i i' d d' t t' : PyStr} {r r' m m' : Json} {h h' : Bool} {ls ls' : List Json} :
    (∀ k ≠ py "limitations", ((adapterFields i d r m t h ls).lookup k).map sortKeys =
      ((adapterFields i' d' r' m' t' h' ls').lookup k).map sortKeys) ↔
    i = i' ∧ d = d' ∧ SameJson r r' ∧ SameJson m m' ∧ t = t' ∧ h = h' := by
  constructor
  · intro hsame
    have hkeys : ((adapterFields i d r m t h ls).map Prod.fst).Nodup := nodup_adapterKeys
    have hkeys' : ((adapterFields i' d' r' m' t' h' ls').map Prod.fst).Nodup := nodup_adapterKeys
    have hfield : ∀ k v v', (k, v) ∈ adapterFields i d r m t h ls → (k, v') ∈ adapterFields i' d' r' m' t' h' ls' →
        k ≠ py "limitations" → SameJson v v' := by
      intro k v v' hmem hmem' hne
      have hk := hsame k hne
      rw [lookup_of_mem hkeys hmem, lookup_of_mem hkeys' hmem'] at hk
      exact Option.some.inj hk
    have hid := hfield "adapter_record_id" (.str i) (.str i') (by simp [adapterFields]) (by simp [adapterFields])
      (by decide +kernel)
    have hdigest := hfield "source_digest" (.str d) (.str d') (by simp [adapterFields]) (by simp [adapterFields])
      (by decide +kernel)
    have hreference := hfield "canonical_ref" r r' (by simp [adapterFields]) (by simp [adapterFields]) (by decide +kernel)
    have hmetric := hfield "metric" m m' (by simp [adapterFields]) (by simp [adapterFields]) (by decide +kernel)
    have hstatus := hfield "terminal_status" (.str t) (.str t') (by simp [adapterFields]) (by simp [adapterFields])
      (by decide +kernel)
    have hverdict := hfield "hard_invariant_pass" (.bool h) (.bool h') (by simp [adapterFields])
      (by simp [adapterFields]) (by decide +kernel)
    exact ⟨Json.str.inj hid, Json.str.inj hdigest, hreference, hmetric, Json.str.inj hstatus, Json.bool.inj hverdict⟩
  · rintro ⟨rfl, rfl, hreference, hmetric, rfl, rfl⟩ k hk
    apply lookup_map_of_forall₂
    simp only [adapterFields, List.forall₂_cons, List.Forall₂.nil, and_true, true_and, implies_true]
    exact ⟨fun _ => hreference, fun _ => hmetric, fun h => absurd h.symm hk⟩

theorem referenceAdapter_eq {record : Fields} {canonical : NeutralRecord} {digest : PyStr}
    (hlimit : 1 ≤ PyRuntime.recursionLimit) (hrecord : Legible (.obj record))
    (hcanonical : validateNeutralRecord (.obj record) = .ok canonical)
    (hdigest : sha256Json (.obj canonical.document) = .ok digest) :
    referenceAdapter (.obj record) true false = .ok (some (.obj (adapterFields (adapterAlias digest) digest
      (sortKeys (dictGet record "evidence_ref")) (sortKeys (.obj canonical.metric)) canonical.terminalStatus
      canonical.hardInvariantPass []))) := by
  have hshape := recordShape_of hcanonical
  obtain ⟨ref, href, hlookup⟩ := lookup_of_validateEvidenceRef hshape.reference
  have hprint : ∀ f ∈ record, intsPrintable f.2 = true := by
    have hdocument := ((sha256Json_ok_iff _).mp ⟨digest, hdigest⟩).2
    rw [hshape.document, intsPrintable_obj, List.all_eq_true] at hdocument
    exact hdocument
  have hfield : ∀ {key : PyStr} {fields : Fields}, dictGet record key = .obj fields →
      Legible (.obj fields) ∧ intsPrintable (.obj fields) = true := by
    intro key fields hkey
    have hkey := lookup_of_dictGet hkey Json.noConfusion
    exact ⟨hrecord.lookup hkey, hprint _ (mem_of_lookup hkey)⟩
  obtain ⟨hrefLegible, hrefPrint⟩ := hfield href
  obtain ⟨hmetricLegible, hmetricPrint⟩ := hfield hshape.metric
  have hrefFlat : ∀ f ∈ ref, nesting f.2 = 0 := by
    rintro ⟨k, v⟩ hf
    have hv := lookup_of_mem hrefLegible.nodup hf
    rw [hlookup] at hv
    have hmem := mem_of_lookup hv
    simp only [EvidenceRef.fields, List.mem_cons, Prod.mk.injEq, List.not_mem_nil, or_false] at hmem
    rcases hmem with ⟨-, rfl⟩ | ⟨-, rfl⟩ | ⟨-, rfl⟩ | ⟨-, rfl⟩ | ⟨-, rfl⟩ | ⟨-, rfl⟩ <;> rfl
  have hmetricFlat : ∀ f ∈ canonical.metric, nesting f.2 = 0 := by
    rintro ⟨k, v⟩ hf
    have hv := dictGet_of_lookup (lookup_of_mem hmetricLegible.nodup hf)
    have hk := (hshape.shape.keys k).mp (List.mem_map_of_mem hf)
    dsimp only
    rcases metricFields_iff.mp hk with htext | rfl
    · obtain ⟨s, hs⟩ := hshape.shape.texts k htext
      rw [← hv, hs]
      rfl
    · rcases hshape.shape.value with hvalue | ⟨n, hvalue⟩ | ⟨x, hvalue⟩ <;> rw [← hv, hvalue] <;> rfl
  have hcopy := jsonCopy_of_flat hlimit hrefLegible hrefPrint hrefFlat
  have hcopy' := jsonCopy_of_flat hlimit hmetricLegible hmetricPrint hmetricFlat
  unfold referenceAdapter
  rw [hcanonical]
  change (sha256Json (.obj canonical.document) >>= _) = _
  rw [hdigest]
  change (jsonCopy (dictGet canonical.document "evidence_ref") >>= _) = _
  rw [hshape.document, href, hcopy]
  change (jsonCopy (.obj canonical.metric) >>= _) = _
  rw [hcopy']
  rfl

theorem represents_iff {record adapter : Fields} {canonical : NeutralRecord} {a : AdapterRepresentation}
    (hlimit : 1 ≤ PyRuntime.recursionLimit) (hrecord : Legible (.obj record)) (hlegible : Legible (.obj adapter))
    (hcanonical : validateNeutralRecord (.obj record) = .ok canonical)
    (hadapter : validateAdapterRepresentation (.obj adapter) = .ok a) :
    (∃ reference, referenceAdapter (.obj record) true false = .ok (some (.obj reference)) ∧
      Represents canonical adapter reference) ↔ ∃ digest, sha256Json (.obj canonical.document) = .ok digest ∧
      OthersAgree canonical digest a ∧ ¬ HasExtra a.metric ∧
        a.metric.lookup (py "value") = some (dictGet canonical.metric "value") := by
  have hshape := recordShape_of hcanonical
  obtain ⟨raw, haRef, haLookup⟩ := adapterShape_of hadapter
  have hkeys : ((adapterFields a.adapterRecordId a.sourceDigest raw (.obj a.metric) a.terminalStatus
    a.hardInvariantPass a.limitations).map Prod.fst).Nodup := nodup_adapterKeys
  have haField : ∀ {k v}, (k, v) ∈ adapterFields a.adapterRecordId a.sourceDigest raw (.obj a.metric) a.terminalStatus
      a.hardInvariantPass a.limitations → adapter.lookup k = some v := by
    intro k v hmem
    rw [haLookup, lookup_of_mem hkeys hmem]
  have hrawLegible : Legible raw := hlegible.lookup (haField (k := "canonical_ref") (by simp [adapterFields]))
  have hmetricLegible : Legible (.obj a.metric) := hlegible.lookup (haField (k := "metric") (by simp [adapterFields]))
  have hlimitations : adapter.lookup (py "limitations") = some (.arr a.limitations) := haField (by simp [adapterFields])
  have hrefLegible : Legible (dictGet record "evidence_ref") := by
    obtain ⟨ref, href, -⟩ := lookup_of_validateEvidenceRef hshape.reference
    rw [href]
    exact hrecord.lookup (lookup_of_dictGet href Json.noConfusion)
  have hcanonicalLegible : Legible (.obj canonical.metric) :=
    hrecord.lookup (lookup_of_dictGet hshape.metric Json.noConfusion)
  have hsameRef : SameJson raw (sortKeys (dictGet record "evidence_ref")) ↔ a.canonicalRef = canonical.evidenceRef := by
    have ha := sameJson_of_validateEvidenceRef haRef hrawLegible.uniqueKeys
    have hc := sameJson_of_validateEvidenceRef hshape.reference hrefLegible.uniqueKeys
    unfold SameJson at ha hc ⊢
    rw [sortKeys_sortKeys, ha, hc]
    constructor
    · exact sameJson_evidenceRef
    · intro h
      rw [h]
  have hsameMetric : SameJson (.obj a.metric) (sortKeys (.obj canonical.metric)) ↔
      SameJson (.obj a.metric) (.obj canonical.metric) := by
    unfold SameJson
    rw [sortKeys_sortKeys]
  cases hdigest : sha256Json (.obj canonical.document) with
  | error e =>
    have hrun : referenceAdapter (.obj record) true false = .error e := by
      unfold referenceAdapter
      rw [hcanonical]
      change (sha256Json (.obj canonical.document) >>= _) = _
      rw [hdigest]
      rfl
    constructor
    · rintro ⟨reference, h, -⟩
      rw [hrun] at h
      cases h
    · rintro ⟨digest, h, -⟩
      cases h
  | ok digest =>
    rw [referenceAdapter_eq hlimit hrecord hcanonical hdigest]
    constructor
    · rintro ⟨reference, h, hsame, hdisclosed⟩
      cases h
      simp only [haLookup, adapterFields_same_iff, hsameRef, hsameMetric,
        hshape.shape.sameJson_iff hcanonicalLegible.nodup hmetricLegible.nodup] at hsame
      obtain ⟨hid, hsource, href, ⟨htexts, hextra, hvalue⟩, hstatus, hverdict⟩ := hsame
      exact ⟨digest, rfl, ⟨hsource, hid, href, htexts, hstatus, hverdict, fun h => hdisclosed h _ hlimitations⟩,
        hextra, hvalue⟩
    · rintro ⟨digest', h, hagree, hextra, hvalue⟩
      cases h
      refine ⟨_, rfl, ?_, ?_⟩
      · simp only [haLookup, adapterFields_same_iff, hsameRef, hsameMetric,
          hshape.shape.sameJson_iff hcanonicalLegible.nodup hmetricLegible.nodup]
        exact ⟨hagree.adapter_record_id, hagree.source_digest, hagree.canonical_ref,
          ⟨hagree.metric_texts, hextra, hvalue⟩, hagree.terminal_status, hagree.hard_invariant_pass⟩
      · intro h items hitems
        rw [hlimitations] at hitems
        cases hitems
        exact hagree.disclosed h

omit [PyRuntime] in
/-- The values of two metrics are taken for equal, or for different, against what they are. -/
def ValueMisjudged (adapter canonical : Fields) : Prop :=
  (pyEq (dictGet adapter "value") (dictGet canonical "value") = true ∧ (HasExtra adapter ∨
    adapter.lookup (py "value") = none ∨ dictGet adapter "value" ≠ dictGet canonical "value")) ∨
  (dictGet canonical "value" = .float .nan ∧ dictGet adapter "value" = .float .nan ∧ ¬ HasExtra adapter)

omit [PyRuntime] in
theorem MetricShape.misjudged_iff {canonical adapter : Fields} (h : MetricShape canonical) :
    ValueMisjudged adapter canonical ↔ ¬ (pyEq (dictGet adapter "value") (dictGet canonical "value") = true ↔
      ¬ HasExtra adapter ∧ adapter.lookup (py "value") = some (dictGet canonical "value")) := by
  have hlookup : adapter.lookup (py "value") = some (dictGet canonical "value") ↔
      adapter.lookup (py "value") ≠ none ∧ dictGet adapter "value" = dictGet canonical "value" := by
    rw [dictGet, dictGet]
    cases adapter.lookup (py "value") <;> simp
  have hself := h.pyEq_value
  rw [hlookup]
  unfold ValueMisjudged
  constructor
  · rintro (⟨heq, hextra | hnone | hne⟩ | ⟨hnan, hnan', hextra⟩) hiff
    · exact (hiff.mp heq).1 hextra
    · exact (hiff.mp heq).2.1 hnone
    · exact hne (hiff.mp heq).2.2
    · have hthere : adapter.lookup (py "value") ≠ none := by
        intro hnone
        rw [dictGet, hnone] at hnan'
        cases hnan'
      have heq := hiff.mpr ⟨hextra, hthere, hnan'.trans hnan.symm⟩
      rw [hnan'.trans hnan.symm, hself] at heq
      exact heq hnan
  · intro hiff
    by_cases heq : pyEq (dictGet adapter "value") (dictGet canonical "value") = true
    · refine .inl ⟨heq, ?_⟩
      by_contra hnone
      push Not at hnone
      exact hiff ⟨fun _ => hnone, fun _ => heq⟩
    · have hsame : ¬ HasExtra adapter ∧ adapter.lookup (py "value") ≠ none ∧
          dictGet adapter "value" = dictGet canonical "value" := by
        by_contra hnot
        exact hiff ⟨fun h => absurd h heq, fun h => absurd h hnot⟩
      rw [hsame.2.2, hself, not_not] at heq
      exact .inr ⟨heq, hsame.2.2.trans heq, hsame.1⟩

/-- A reconciliation passes exactly when the adapter is the reference representation, unless all else
agrees and the value is misjudged: an extra key of the metric, a value left out for `None`, a number
of another type, or a NaN. -/
theorem reconcile_exact_iff (hlimit : 1 ≤ PyRuntime.recursionLimit) {record adapter : Fields}
    (hrecord : Legible (.obj record)) (hlegible : Legible (.obj adapter)) {canonical : NeutralRecord}
    (hcanonical : validateNeutralRecord (.obj record) = .ok canonical) {a : AdapterRepresentation}
    (hadapter : validateAdapterRepresentation (.obj adapter) = .ok a) :
    (Reconciles record adapter ↔ ∃ reference, referenceAdapter (.obj record) true false = .ok (some (.obj reference)) ∧
      Represents canonical adapter reference) ↔
    ¬ ∃ digest, sha256Json (.obj canonical.document) = .ok digest ∧ OthersAgree canonical digest a ∧
      ValueMisjudged a.metric canonical.metric := by
  have hshape := (recordShape_of hcanonical).shape
  rw [reconciles_iff hcanonical hadapter hshape, represents_iff hlimit hrecord hlegible hcanonical hadapter]
  by_cases hagree : ∃ digest, sha256Json (.obj canonical.document) = .ok digest ∧ OthersAgree canonical digest a
  · obtain ⟨digest, hdigest, hothers⟩ := hagree
    have hunique : ∀ Q : Prop, (∃ d, sha256Json (.obj canonical.document) = .ok d ∧ OthersAgree canonical d a ∧ Q) ↔ Q := by
      intro Q
      constructor
      · rintro ⟨-, -, -, hQ⟩
        exact hQ
      · intro hQ
        exact ⟨digest, hdigest, hothers, hQ⟩
    rw [hunique, hunique, hunique, hshape.misjudged_iff, not_not]
  · have hnone : ∀ Q : Prop, ¬ ∃ d, sha256Json (.obj canonical.document) = .ok d ∧ OthersAgree canonical d a ∧ Q := by
      rintro Q ⟨d, hd, hothers, -⟩
      exact hagree ⟨d, hd, hothers⟩
    constructor
    · intro _
      exact hnone _
    · intro _
      exact iff_of_false (hnone _) (hnone _)

end Exactness

section Frozen
open Python.Ascii

def frozenMetric : Fields := [
  ("metric_id", .str "accuracy"), ("metric_version", .str "v1"), ("definition", .str "share of cases"),
  ("value", .int 1), ("unit", .str "ratio"), ("scope_type", .str "RUN"), ("scope_id", .str "run-1"),
  ("observed_at", .str "2026-07-06T12:05:06Z"), ("provenance_state", .str "VERIFIED"),
  ("causal_attribution", .str "UNKNOWN")]

def frozenReference : EvidenceRef where
  kind := "B2_RECEIPT"
  sourceId := "B2_RECEIPT:results/b2/qa1.json"
  sourceLocator := "results/b2/qa1.json"
  sourceFingerprint := "sha256:0123456789abcdef0123456789abcdef0123456789abcdef0123456789abcdef"
  gitCommit := "0123456789abcdef0123456789abcdef01234567"
  scope := "PROFILE"

def frozenRecord : Fields := [
  ("schema_version", .str neutralRecordSchemaVersion), ("record_id", .str "record-1"),
  ("evidence_ref", frozenReference.toJson), ("metric", .obj frozenMetric), ("terminal_status", .str "PASS"),
  ("hard_invariant_pass", .bool true)]

/-- The fingerprint of the record. -/
def frozenDigest : PyStr := "sha256:3a5442824a022ee97523daebbbe41dc9ae95c236f2c263e6e929e85d2fdac9d1"

/-- The reference representation with a field added to its metric. -/
def paddedAdapter : Fields := adapterFields (adapterAlias frozenDigest) frozenDigest frozenReference.toJson
  (.obj ((py "note", .str "added") :: frozenMetric)) "PASS" true []

theorem legible_frozenRecord : Legible (.obj frozenRecord) := by
  simp only [frozenRecord, frozenMetric, EvidenceRef.toJson, EvidenceRef.fields, Legible, FieldsLegible, and_true]
  decide +kernel

theorem legible_paddedAdapter : Legible (.obj paddedAdapter) := by
  simp only [paddedAdapter, adapterFields, frozenMetric, EvidenceRef.toJson, EvidenceRef.fields, Legible, FieldsLegible,
    ItemsLegible, and_true]
  decide +kernel

/-- The record and the adapter are accepted, and reconciled. -/
theorem frozenRecord_evaluated : (validateNeutralRecord (.obj frozenRecord)).isOk = true ∧
    (validateAdapterRepresentation (.obj paddedAdapter)).isOk = true ∧
    (reconcileAdapter (.obj frozenRecord) (.obj paddedAdapter) true).toOption.any (fun r => r.status = .pass) = true := by
  decide +kernel

theorem accepts_frozenRecord : ∃ canonical, validateNeutralRecord (.obj frozenRecord) = .ok canonical := by
  have haccepts := frozenRecord_evaluated.1
  cases h : validateNeutralRecord (.obj frozenRecord) with
  | ok canonical => exact ⟨canonical, rfl⟩
  | error e =>
    rw [h] at haccepts
    cases haccepts

theorem accepts_paddedAdapter : ∃ a, validateAdapterRepresentation (.obj paddedAdapter) = .ok a := by
  have haccepts := frozenRecord_evaluated.2.1
  cases h : validateAdapterRepresentation (.obj paddedAdapter) with
  | ok a => exact ⟨a, rfl⟩
  | error e =>
    rw [h] at haccepts
    cases haccepts

/-- A metric with a field added is reconciled with the record that lacks it. -/
theorem added_field_reconciled : ∃ canonical a, validateNeutralRecord (.obj frozenRecord) = .ok canonical ∧
    validateAdapterRepresentation (.obj paddedAdapter) = .ok a ∧ Reconciles frozenRecord paddedAdapter ∧
    ¬ ∃ reference, referenceAdapter (.obj frozenRecord) true false = .ok (some (.obj reference)) ∧
      Represents canonical paddedAdapter reference := by
  obtain ⟨canonical, hcanonical⟩ := accepts_frozenRecord
  obtain ⟨a, ha⟩ := accepts_paddedAdapter
  refine ⟨canonical, a, hcanonical, ha, ?_, ?_⟩
  · have hpass := frozenRecord_evaluated.2.2
    unfold Reconciles
    cases h : reconcileAdapter (.obj frozenRecord) (.obj paddedAdapter) true with
    | ok r =>
      rw [h] at hpass
      exact ⟨r, rfl, of_decide_eq_true hpass⟩
    | error e =>
      rw [h] at hpass
      cases hpass
  · rw [represents_iff (by decide) legible_frozenRecord legible_paddedAdapter hcanonical ha]
    rintro ⟨digest, -, -, hextra, -⟩
    obtain ⟨raw, -, hlookup⟩ := adapterShape_of ha
    have hmetric := hlookup "metric"
    have hown : paddedAdapter.lookup (py "metric") = some (.obj ((py "note", .str "added") :: frozenMetric)) := rfl
    have hread : (adapterFields a.adapterRecordId a.sourceDigest raw (.obj a.metric) a.terminalStatus
      a.hardInvariantPass a.limitations).lookup (py "metric") = some (.obj a.metric) := rfl
    rw [hown, hread, Option.some.injEq, Json.obj.injEq] at hmetric
    apply hextra
    rw [← hmetric]
    exact ⟨py "note", List.mem_cons_self, by decide +kernel⟩

/-- The characterisation at that record and that adapter. -/
theorem reconcile_exact_iff_frozen : ∃ canonical a, (Reconciles frozenRecord paddedAdapter ↔
    ∃ reference, referenceAdapter (.obj frozenRecord) true false = .ok (some (.obj reference)) ∧
      Represents canonical paddedAdapter reference) ↔
    ¬ ∃ digest, sha256Json (.obj canonical.document) = .ok digest ∧ OthersAgree canonical digest a ∧
      ValueMisjudged a.metric canonical.metric := by
  obtain ⟨canonical, hcanonical⟩ := accepts_frozenRecord
  obtain ⟨a, ha⟩ := accepts_paddedAdapter
  exact ⟨canonical, a, reconcile_exact_iff (by decide) legible_frozenRecord legible_paddedAdapter hcanonical ha⟩

end Frozen

end EvaluationLab.QA3
