import EvaluationLab.QA3.Dashboard
import EvaluationLab.QA3.Summary

/-! What an accepted projection says: nothing but what the checked receipts in Git say. -/
namespace EvaluationLab.QA3
open Python Effect QA0

section Rows

theorem asCount_isSome {v : Json} (h : (asCount v).isSome = true) : ∃ n, v = .int n := by
  cases v with
  | int n => exact ⟨n, rfl⟩
  | _ => cases h

/-- A count that equals an integer is that integer. -/
theorem count_eq {v : Json} {n : ℤ} (hcount : (asCount v).isSome = true) (h : pyEq v (.int n) = true) : v = .int n := by
  obtain ⟨m, rfl⟩ := asCount_isSome hcount
  rw [pyEq_int_inj (pyEq_int_self m) h]

theorem profile_keys (p : Profile) : p.fields.map Prod.fst =
    ["profile_id", "gate", "formal_family_count", "case_count", "known_bad_count", "control_count",
      "terminal_statuses", "field_semantics", "scope_type", "scope_id", "observed_at", "evidence_ref"] := rfl

theorem delta_keys (p : Profile) : p.deltaFields.map Prod.fst = deltaKeys := rfl

theorem nodup_profileKeys : profileKeys.Nodup := by decide +kernel

theorem nodup_deltaKeys : deltaKeys.Nodup := by decide +kernel

variable [PyRuntime]

/-- What the loop over the profiles establishes of one of them. -/
structure ProfileRow (snapshot : Snapshot) (manifest : Manifest) (sources : List ReceiptSource) (v : Json)
    (p : Profile) : Prop where
  shown : SameJson v (.obj p.fields)
  observedAt : p.observedAt = snapshot.observedAt
  included : p.evidenceRef.sourceId ∈ manifest.included
  bound : ∃ s ∈ sources, s.evidenceRef = p.evidenceRef ∧ receiptProfileSummary s.receipt = .ok p.summary

theorem profileRow_of {snapshot : Snapshot} {manifest : Manifest} {sources : List ReceiptSource} {v : Json} {p : Profile}
    (hv : UniqueKeys v) (h : checkProfile snapshot manifest sources v = .ok p) :
    ProfileRow snapshot manifest sources v p := by
  unfold checkProfile at h
  simp only [bind_eq_ok_iff, exists_unit_iff, check_eq_ok_iff, obj_eq_ok_iff, hasKeys_eq_true_iff, forM_eq_ok_iff] at h
  obtain ⟨profile, rfl, hkeys, id, hid, ⟨-, hsemantics, hscope, hscopeId, hobserved⟩, hcounts, -, -, -, ref, href,
    ⟨hincluded, -⟩, h⟩ := h
  cases hsource : sourceOf sources ref.sourceId with
  | none =>
    rw [hsource] at h
    cases h
  | some source =>
    rw [hsource] at h
    simp only [bind_eq_ok_iff, exists_unit_iff, check_eq_ok_iff, pure_eq_ok_iff] at h
    obtain ⟨hbind, expected, hexpected, hsummary, rfl⟩ := h
    have hmem : source ∈ sources := List.mem_of_find?_eq_some hsource
    refine ⟨?_, rfl, hincluded, source, hmem, hbind.symm, hexpected⟩
    have hfield : ∀ f ∈ expected.fields, pyEq (dictGet profile f.1) f.2 = true := hsummary
    simp only [ProfileSummary.fields, List.forall_mem_cons, List.not_mem_nil, false_implies, implies_true, and_true]
      at hfield
    obtain ⟨hprofileId, hgate, hfamilies, hcases, hknownBad, hcontrols, hterminals⟩ := hfield
    simp only [countKeys, List.forall_mem_cons, List.not_mem_nil, false_implies, implies_true, and_true] at hcounts
    obtain ⟨hfamiliesCount, hcasesCount, hknownBadCount, hcontrolsCount⟩ := hcounts
    have hprofileId := (pyEq_str _ _).mp hprofileId
    have hstripped := strip_profileId (summaryShape_of hexpected).profile
    -- the scope is compared with the identity without edge whitespace, which it does not have
    have hscopeId : dictGet profile "scope_id" = .str expected.profileId := by
      rw [QA0.text, hprofileId] at hid
      dsimp only at hid
      rw [hstripped.1, if_neg hstripped.2] at hid
      rw [eq_str_of_isStr hscopeId, Except.ok.inj hid]
    have href : SameJson (dictGet profile "evidence_ref") ref.toJson :=
      sameJson_of_validateEvidenceRef href (hv.dictGet "evidence_ref")
    apply sameJson_of_template hv.nodup
    · exact nodup_profileKeys
    · exact hkeys
    · have hsame : ∀ {v w : Json}, v = w → SameJson v w := by
        rintro v w rfl
        exact sameJson_refl v
      simp only [Profile.fields, ProfileSummary.fields, List.cons_append, List.nil_append, List.forall_mem_cons,
        List.not_mem_nil, false_implies, implies_true, and_true]
      exact ⟨hsame hprofileId, hsame ((pyEq_str _ _).mp hgate), hsame (count_eq hfamiliesCount hfamilies),
        hsame (count_eq hcasesCount hcases), hsame (count_eq hknownBadCount hknownBad),
        hsame (count_eq hcontrolsCount hcontrols), hsame (pyEq_texts hterminals), hsame (eq_str_of_isStr hsemantics),
        hsame (eq_str_of_isStr hscope), hsame hscopeId, hsame (eq_str_of_isStr hobserved), href⟩

omit [PyRuntime] in
/-- What the loop over the deltas establishes of one of them: it is the delta of a profile. -/
theorem delta_of {snapshot : Snapshot} {profiles : List Profile} {v : Json} {id : PyStr} (hv : UniqueKeys v)
    (hobserved : ∀ p ∈ profiles, p.observedAt = snapshot.observedAt)
    (h : checkDelta snapshot profiles v = .ok id) :
    ∃ p ∈ profiles, p.profileId = id ∧ SameJson v (.obj p.deltaFields) := by
  unfold checkDelta at h
  simp only [bind_eq_ok_iff, exists_unit_iff, check_eq_ok_iff, obj_eq_ok_iff, hasKeys_eq_true_iff] at h
  obtain ⟨delta, rfl, hkeys, -, h⟩ := h
  cases hfound : profiles.find? fun p => (dictGet delta "profile_id").isStr p.profileId with
  | none =>
    rw [hfound] at h
    cases h
  | some p =>
    rw [hfound] at h
    simp only [bind_eq_ok_iff, exists_unit_iff, check_eq_ok_iff, pure_eq_ok_iff] at h
    obtain ⟨⟨hmetric, hstatus, hreason, hbaseline, hcurrent, hdelta, hscope, hscopeId, hat, href⟩, rfl⟩ := h
    have hmem : p ∈ profiles := List.mem_of_find?_eq_some hfound
    have hid := List.find?_some hfound
    refine ⟨p, hmem, rfl, ?_⟩
    have hrefKeys : (p.evidenceRef.fields.map Prod.fst).Nodup := nodup_evidenceRefKeys
    have href : SameJson (dictGet delta "evidence_ref") p.evidenceRef.toJson := by
      apply sameJson_of_pyEq_texts (hv.dictGet "evidence_ref") hrefKeys ?_ href
      intro f hf
      simp only [EvidenceRef.fields, List.mem_cons, List.not_mem_nil, or_false] at hf
      rcases hf with rfl | rfl | rfl | rfl | rfl | rfl <;> exact ⟨_, rfl⟩
    have hsame : ∀ {v : Json} {t : PyStr}, v.isStr t = true → SameJson v (.str t) := by
      intro v t ht
      rw [eq_str_of_isStr ht]
      exact sameJson_refl _
    have hnull : ∀ {v : Json}, v.isNull = true → SameJson v .null := by
      intro v hnull
      cases v with
      | null => exact sameJson_refl _
      | _ => cases hnull
    apply sameJson_of_template hv.nodup
    · exact nodup_deltaKeys
    · exact hkeys
    · simp only [Profile.deltaFields, List.forall_mem_cons, List.not_mem_nil, false_implies, implies_true, and_true]
      rw [hobserved p hmem]
      exact ⟨hsame hid, hsame hmetric, hsame hstatus, hsame hreason, hnull hbaseline, hnull hcurrent, hnull hdelta,
        hsame hscope, hsame hscopeId, hsame hat, href⟩

end Rows

section Document

variable [PyRuntime]

/-- The references to evidence that a projection declares. -/
def declaredRefs (document : Fields) : List Json :=
  match dictGet document "source_manifest" with
  | .obj manifest =>
    match dictGet manifest "evidence_refs" with
    | .arr refs => refs
    | _ => []
  | _ => []

/-- The time at which a projection says it was observed. -/
def observedAtOf (document : Fields) : Json :=
  match dictGet document "source_snapshot" with
  | .obj snapshot => dictGet snapshot "observed_at"
  | _ => .null

/-- The receipt that Git has at the path and the commit of a profile's reference is checked, and the profile
shows its summary. -/
structure Rehydrates (repository : Repository) (p : Profile) : Prop where
  receipt : ∃ receipt, receiptAtGitCommit repository p.evidenceRef.sourceLocator p.evidenceRef.gitCommit =
    .ok (.obj receipt) ∧ IsChecked receipt p.evidenceRef.sourceFingerprint ∧
    receiptProfileSummary receipt = .ok p.summary

/-- A section of a projection whose list of values is empty. -/
def HasNoValue (document : Fields) (key values : PyStr) : Prop :=
  ∃ part, dictGet document key = .obj part ∧ dictGet part values = .arr [] ∧
    dictGet part "terminal_status" = .str "NOT_EVALUABLE" ∧
    ∀ k, k ∈ part.map Prod.fst ↔ k ∈ [py "terminal_status", py "reason", values, py "evidence_refs"]

/-- A projection that reports some profiles: it shows each of them, with the delta that has no value, and
nothing else, and its sources are theirs. -/
structure Reports (repository : Repository) (document : Fields) (profiles : List Profile) : Prop where
  observed : ∀ p ∈ profiles, observedAtOf document = .str p.observedAt
  declared : ∃ manifest declared, dictGet document "source_manifest" = .obj manifest ∧
    stringArray (dictGet manifest "declared_source_ids") "declared_source_ids" false = .ok declared ∧
    (profiles.map fun p => p.evidenceRef.sourceId).Perm declared
  distinct : (profiles.map Profile.profileId).Nodup
  shown : ∃ rows, dictGet document "profiles" = .arr rows ∧
    List.Forall₂ (fun v p => SameJson v (.obj p.fields)) rows profiles
  rehydrated : ∀ p ∈ profiles, Rehydrates repository p
  referenced : (∀ v ∈ declaredRefs document, ∃ p ∈ profiles, SameJson v p.evidenceRef.toJson) ∧
    ∀ p ∈ profiles, ∃ v ∈ declaredRefs document, SameJson v p.evidenceRef.toJson
  deltas : ∃ rows order, dictGet document "quality_deltas" = .arr rows ∧ order.Perm profiles ∧
    List.Forall₂ (fun v p => SameJson v (.obj p.deltaFields)) rows order
  recurrence : HasNoValue document "regression_recurrence" "series"
  performance : HasNoValue document "performance" "metrics"

variable [PyUnicode]

theorem Rehydrates.of_inGit {repository : Repository} {s : ReceiptSource} {p : Profile} (h : InGit repository s)
    (href : s.evidenceRef = p.evidenceRef) (hsummary : receiptProfileSummary s.receipt = .ok p.summary) :
    Rehydrates repository p := by
  obtain ⟨document, hstored, hverify⟩ := h.stored
  have hget := dictGet_of_verifyCheckedReceipt hverify
  obtain ⟨receipt, fingerprint, hreceipt, hchecked, -⟩ := verifyCheckedReceipt_eq_ok_iff.mp hverify
  cases hreceipt
  have hfingerprint : fingerprint = p.evidenceRef.sourceFingerprint := by
    have hcarried := h.fingerprint
    rw [hget, hchecked.carried, href] at hcarried
    exact Json.str.inj hcarried
  refine ⟨document, ?_, hfingerprint ▸ hchecked, ?_⟩
  · rw [← href]
    exact hstored
  · rw [← hsummary]
    exact receiptProfileSummary_congr fun k => (hget k).symm

/-- The repository of a verification. -/
theorem canonicalSources_inGit {receiptSources : Option (List Json)} {root : Option Repository} {own : Repository}
    {manifest : Manifest} {sources : List ReceiptSource}
    (h : canonicalSources receiptSources root own manifest = .ok sources) :
    ∀ s ∈ sources, InGit (root.getD own) s := by
  have hloaded : ∀ {repository references}, (loadReceiptSourcesAtGitCommit references repository >>=
      normalizeReceiptSources) = .ok sources → ∀ s ∈ sources, InGit repository s := by
    intro repository references hbind s hs
    obtain ⟨reference, -, hfrom⟩ := exists_of_mem_right (loaded_eq_ok_iff.mp hbind) hs
    exact hfrom.inGit.1
  unfold canonicalSources at h
  split at h
  · exact hloaded h
  · cases h
  · unfold bindReceiptSourcesToGit at h
    simp only [bind_eq_ok_iff, exists_unit_iff, check_eq_ok_iff, pure_eq_ok_iff] at h
    obtain ⟨claimed, -, loaded, hload, bound, hbound, -, rfl⟩ := h
    exact hloaded (bind_eq_ok_iff.mpr ⟨loaded, hload, hbound⟩)

omit [PyUnicode] in
/-- What the check of the manifest establishes. -/
theorem manifest_of {projection : Fields} {snapshot : Snapshot} {manifest : Manifest}
    (h : checkManifest projection snapshot = .ok manifest) :
    ∃ part declared, dictGet projection "source_manifest" = .obj part ∧
      dictGet part "evidence_refs" = .arr manifest.rawRefs ∧
      stringArray (dictGet part "declared_source_ids") "declared_source_ids" false = .ok declared ∧
      declared.Perm manifest.included ∧ manifest.included.Nodup ∧
      List.Forall₂ (fun v r => validateEvidenceRef v = .ok r) manifest.rawRefs manifest.refs ∧
      (manifest.refs.map EvidenceRef.sourceId).Perm manifest.included := by
  unfold checkManifest at h
  simp only [bind_eq_ok_iff, exists_unit_iff, check_eq_ok_iff, obj_eq_ok_iff] at h
  obtain ⟨part, hpart, -, _, -, declared, hdeclared, included, -, excluded, -, ⟨hnodup, hincluded, -⟩,
    ⟨hsub, hsup, -⟩, -, h⟩ := h
  split at h
  · rename_i rawRefs hrefs
    simp only [bind_eq_ok_iff, exists_unit_iff, check_eq_ok_iff, pure_eq_ok_iff, mapM_eq_ok_iff] at h
    obtain ⟨-, refs, hvalid, ⟨hrefsNodup, hrefsSub, hrefsSup⟩, -, rfl⟩ := h
    refine ⟨part, declared, hpart, hrefs, hdeclared, ?_, hincluded, hvalid, ?_⟩
    · rw [List.perm_ext_iff_of_nodup hnodup hincluded]
      exact fun id => ⟨hsub id, hsup id⟩
    · rw [List.perm_ext_iff_of_nodup hrefsNodup hincluded]
      intro id
      constructor
      · intro hid
        obtain ⟨r, hr, rfl⟩ := List.mem_map.mp hid
        exact hrefsSub r hr
      · exact hrefsSup id
  · cases h

omit [PyRuntime] [PyUnicode] in
theorem hasNoValue_of {projection : Fields} {key values message : PyStr} {template : Fields}
    (hkeys : template.map Prod.fst = [py "terminal_status", py "reason", values, py "evidence_refs"])
    (hstatus : (py "terminal_status", .str "NOT_EVALUABLE") ∈ template) (hvalues : (values, .arr []) ∈ template)
    (h : checkSection projection key template message = .ok ()) : HasNoValue projection key values := by
  unfold checkSection at h
  simp only [bind_eq_ok_iff, check_eq_ok_iff, obj_eq_ok_iff, hasKeys_eq_true_iff] at h
  obtain ⟨part, hpart, hpartKeys, hequal⟩ := h
  refine ⟨part, hpart, ?_, ?_, ?_⟩
  · exact @pyEq_texts _ [] (hequal _ hvalues)
  · exact (pyEq_str _ _).mp (hequal _ hstatus)
  · rw [← hkeys]
    exact hpartKeys

omit [PyRuntime] [PyUnicode] in
theorem sources_of {manifest : Manifest} {sources : List ReceiptSource} (h : checkSources manifest sources = .ok ()) :
    (sources.map ReceiptSource.sourceId).Nodup ∧
      ∀ r ∈ manifest.refs, ∃ s ∈ sources, s.evidenceRef = r := by
  unfold checkSources at h
  simp only [bind_eq_ok_iff, exists_unit_iff, check_eq_ok_iff] at h
  obtain ⟨hnodup, -, hrefs⟩ := h
  refine ⟨hnodup, ?_⟩
  intro r hr
  obtain ⟨s, hs, heq⟩ := Option.map_eq_some_iff.mp (hrefs r hr)
  exact ⟨s, List.mem_of_find?_eq_some hs, heq⟩

omit [PyUnicode] in
/-- What the check of the profiles establishes: they have one source each, and each included source. -/
theorem profiles_of {projection : Fields} {snapshot : Snapshot} {manifest : Manifest} {sources : List ReceiptSource}
    {profiles : List Profile} (hunique : UniqueKeys (.obj projection)) (hincluded : manifest.included.Nodup)
    (hsources : (sources.map ReceiptSource.sourceId).Nodup)
    (h : checkProfiles projection snapshot manifest sources = .ok profiles) :
    ∃ rows, dictGet projection "profiles" = .arr rows ∧
      List.Forall₂ (ProfileRow snapshot manifest sources) rows profiles ∧ (profiles.map Profile.profileId).Nodup ∧
      (profiles.map fun p => p.evidenceRef.sourceId).Perm manifest.included := by
  unfold checkProfiles at h
  split at h
  · rename_i rows hrows
    simp only [bind_eq_ok_iff, exists_unit_iff, check_eq_ok_iff, pure_eq_ok_iff, mapM_eq_ok_iff] at h
    obtain ⟨-, profiles, hchecked, ⟨hdistinct, hsub, hsup⟩, rfl⟩ := h
    have hitems : ∀ v ∈ rows, UniqueKeys v := by
      have harr := hunique.dictGet "profiles"
      rw [hrows] at harr
      exact harr.items
    have hshown : List.Forall₂ (ProfileRow snapshot manifest sources) rows profiles := by
      rw [List.forall₂_iff_get] at hchecked ⊢
      refine ⟨hchecked.1, fun i hi hi' => profileRow_of (hitems _ (List.get_mem _ _)) (hchecked.2 i hi hi')⟩
    -- profiles of one source have one summary, and so one identity
    have hsame : ∀ p ∈ profiles, ∀ q ∈ profiles, p.evidenceRef.sourceId = q.evidenceRef.sourceId →
        p.profileId = q.profileId := by
      intro p hp q hq heq
      obtain ⟨_, -, hrow⟩ := exists_of_mem_right hshown hp
      obtain ⟨_, -, hrow'⟩ := exists_of_mem_right hshown hq
      obtain ⟨s, hs, hbound, hsummary⟩ := hrow.bound
      obtain ⟨s', hs', hbound', hsummary'⟩ := hrow'.bound
      have hid : s.sourceId = s'.sourceId := by
        rw [ReceiptSource.sourceId, ReceiptSource.sourceId, hbound, hbound', heq]
      obtain rfl := List.inj_on_of_nodup_map hsources hs hs' hid
      rw [Profile.profileId, Profile.profileId, Except.ok.inj (hsummary.symm.trans hsummary')]
    have hnodup : (profiles.map fun p => p.evidenceRef.sourceId).Nodup := by
      rw [List.Nodup, List.pairwise_map] at hdistinct ⊢
      exact hdistinct.imp_of_mem fun hp hq hne heq => hne (hsame _ hp _ hq heq)
    refine ⟨rows, hrows, hshown, hdistinct, ?_⟩
    rw [List.perm_ext_iff_of_nodup hnodup hincluded]
    intro id
    constructor
    · intro hid
      obtain ⟨p, hp, rfl⟩ := List.mem_map.mp hid
      exact hsub p hp
    · exact hsup id
  · cases h

omit [PyRuntime] [PyUnicode] in
/-- What the check of the deltas establishes: there is one for each profile. -/
theorem deltas_of {projection : Fields} {snapshot : Snapshot} {profiles : List Profile}
    (hunique : UniqueKeys (.obj projection)) (hobserved : ∀ p ∈ profiles, p.observedAt = snapshot.observedAt)
    (h : checkDeltas projection snapshot profiles = .ok ()) :
    ∃ rows order, dictGet projection "quality_deltas" = .arr rows ∧ order.Perm profiles ∧
      List.Forall₂ (fun v p => SameJson v (.obj p.deltaFields)) rows order := by
  unfold checkDeltas at h
  split at h
  · rename_i rows hrows
    simp only [bind_eq_ok_iff, exists_unit_iff, check_eq_ok_iff, mapM_eq_ok_iff] at h
    obtain ⟨hlen, ids, hchecked, hids⟩ := h
    have hitems : ∀ v ∈ rows, UniqueKeys v := by
      have harr := hunique.dictGet "quality_deltas"
      rw [hrows] at harr
      exact harr.items
    have hfound : List.Forall₂ (fun v id => ∃ p, (p ∈ profiles ∧ SameJson v (.obj p.deltaFields)) ∧ p.profileId = id)
        rows ids := by
      rw [List.forall₂_iff_get] at hchecked ⊢
      refine ⟨hchecked.1, fun i hi hi' => ?_⟩
      obtain ⟨p, hp, hid, hsame⟩ := delta_of (hitems _ (List.get_mem _ _)) hobserved (hchecked.2 i hi hi')
      exact ⟨p, ⟨hp, hsame⟩, hid⟩
    obtain ⟨order, hrow, hmap⟩ := forall₂_through.mpr hfound
    have hmap : order.map Profile.profileId = ids := forall₂_eq_map_iff.mp hmap
    have hlength : order.length = profiles.length := by rw [← hlen, hrow.length_eq]
    have hnodup : (order.map Profile.profileId).Nodup := by
      rw [hmap, ← List.dedup_eq_self]
      apply (List.dedup_sublist ids).eq_of_length
      rw [hids, ← hmap, List.length_map, hlength]
    have hsub : order ⊆ profiles := by
      intro p hp
      obtain ⟨_, -, hmem, -⟩ := exists_of_mem_right hrow hp
      exact hmem
    refine ⟨rows, order, hrows, ?_, hrow.imp fun _ _ h => h.2⟩
    exact (List.subperm_of_subset (List.Nodup.of_map _ hnodup) hsub).perm_of_length_le hlength.ge
  · cases h

omit [PyRuntime] [PyUnicode] in
theorem observedAt_of {projection : Fields} {snapshot : Snapshot} (h : checkSnapshot projection = .ok snapshot) :
    observedAtOf projection = .str snapshot.observedAt := by
  unfold checkSnapshot at h
  simp only [bind_eq_ok_iff, exists_unit_iff, check_eq_ok_iff, obj_eq_ok_iff] at h
  obtain ⟨part, hpart, -, _, -, -, hend, h⟩ := h
  split at h
  · rw [pure_eq_ok_iff] at h
    subst h
    rw [observedAtOf, hpart]
    dsimp only
    cases hat : dictGet part "observed_at" with
    | str s => rfl
    | _ =>
      rw [hat] at hend
      cases hend
  · cases h

omit [PyUnicode] in
/-- The report of a projection is one of the document with its fingerprint. -/
theorem Reports.of_filter {repository : Repository} {document : Fields} {profiles : List Profile}
    (h : Reports repository (document.filter fun f => f.1 ≠ py "projection_fingerprint") profiles) :
    Reports repository document profiles := by
  have hget : ∀ k ∈ projectionKeys,
      dictGet (document.filter fun f => f.1 ≠ py "projection_fingerprint") k = dictGet document k := by
    have hne : ∀ k ∈ projectionKeys, k ≠ py "projection_fingerprint" := by decide +kernel
    exact fun k hk => dictGet_filter_ne document (hne k hk)
  have hpart : ∀ key values, key ∈ projectionKeys →
      HasNoValue (document.filter fun f => f.1 ≠ py "projection_fingerprint") key values →
      HasNoValue document key values := by
    intro key values hkey hvalues
    unfold HasNoValue at hvalues ⊢
    rwa [hget key hkey] at hvalues
  have hsnapshot := hget "source_snapshot" (by decide +kernel)
  have hmanifest := hget "source_manifest" (by decide +kernel)
  refine ⟨?_, ?_, h.distinct, ?_, h.rehydrated, ?_, ?_, hpart _ _ (by decide +kernel) h.recurrence,
    hpart _ _ (by decide +kernel) h.performance⟩
  · have hobserved := h.observed
    unfold observedAtOf at hobserved ⊢
    rwa [hsnapshot] at hobserved
  · have hdeclared := h.declared
    rwa [hmanifest] at hdeclared
  · have hshown := h.shown
    rwa [hget "profiles" (by decide +kernel)] at hshown
  · have hreferenced := h.referenced
    unfold declaredRefs at hreferenced ⊢
    rwa [hmanifest] at hreferenced
  · have hdeltas := h.deltas
    rwa [hget "quality_deltas" (by decide +kernel)] at hdeltas

/-- An accepted projection reports profiles that rehydrate from Git. -/
theorem reports_of_verify {own : Repository} {document : Fields} {receiptSources : Option (List Json)}
    {root : Option Repository} {result : Json} (hunique : UniqueKeys (.obj document))
    (h : verifyDashboardProjection own (.obj document) receiptSources root = .ok result) :
    ∃ profiles, Reports (root.getD own) document profiles := by
  unfold verifyDashboardProjection at h
  simp only [bind_eq_ok_iff, exists_unit_iff, check_eq_ok_iff, obj_eq_ok_iff, Json.obj.injEq] at h
  obtain ⟨_, rfl, -, -, -, -, _, -, -, snapshot, hsnapshot, manifest, hmanifest, sources, hsources, hcanonical, profiles,
    hprofiles, hdeltas, hrecurrence, -, hperformance, -, -⟩ := h
  refine ⟨profiles, Reports.of_filter ?_⟩
  have hunique : UniqueKeys (.obj (document.filter fun f => f.1 ≠ py "projection_fingerprint")) := by
    rw [UniqueKeys, fieldsUniqueKeys_iff] at hunique ⊢
    exact ⟨hunique.1.sublist (List.filter_sublist.map _), fun f hf => hunique.2 f (List.mem_of_mem_filter hf)⟩
  obtain ⟨part, declared, hpart, hrawRefs, hdeclared, hperm, hincluded, hrefs, hrefIds⟩ := manifest_of hmanifest
  obtain ⟨hsourceIds, hrefSources⟩ := sources_of hcanonical
  obtain ⟨rows, hrows, hshown, hdistinct, hprofileIds⟩ := profiles_of hunique hincluded hsourceIds hprofiles
  have hobserved : ∀ p ∈ profiles, p.observedAt = snapshot.observedAt := by
    intro p hp
    obtain ⟨_, -, hrow⟩ := exists_of_mem_right hshown hp
    exact hrow.observedAt
  -- a profile and a declared reference of one source are of one reference
  have href : ∀ p ∈ profiles, ∀ r ∈ manifest.refs, p.evidenceRef.sourceId = r.sourceId → p.evidenceRef = r := by
    intro p hp r hr heq
    obtain ⟨_, -, hrow⟩ := exists_of_mem_right hshown hp
    obtain ⟨s, hs, hbound, -⟩ := hrow.bound
    obtain ⟨s', hs', hbound'⟩ := hrefSources r hr
    have hid : s.sourceId = s'.sourceId := by
      rw [ReceiptSource.sourceId, ReceiptSource.sourceId, hbound, hbound', heq]
    rw [← hbound, List.inj_on_of_nodup_map hsourceIds hs hs' hid, hbound']
  have hrefUnique : ∀ v ∈ manifest.rawRefs, UniqueKeys v := by
    have hpartUnique := hunique.dictGet "source_manifest"
    rw [hpart] at hpartUnique
    have harr := hpartUnique.dictGet "evidence_refs"
    rw [hrawRefs] at harr
    exact harr.items
  have hids := hprofileIds.trans hrefIds.symm
  have hdeclaredRefs :
      declaredRefs (document.filter fun f => f.1 ≠ py "projection_fingerprint") = manifest.rawRefs := by
    rw [declaredRefs, hpart]
    dsimp only
    rw [hrawRefs]
  refine ⟨?_, ⟨part, declared, hpart, hdeclared, hprofileIds.trans hperm.symm⟩, hdistinct,
    ⟨rows, hrows, hshown.imp fun _ _ hrow => hrow.shown⟩, ?_, ⟨?_, ?_⟩, deltas_of hunique hobserved hdeltas,
    ?_, ?_⟩
  · intro p hp
    rw [observedAt_of hsnapshot, hobserved p hp]
  · intro p hp
    obtain ⟨_, -, hrow⟩ := exists_of_mem_right hshown hp
    obtain ⟨s, hs, hbound, hsummary⟩ := hrow.bound
    exact Rehydrates.of_inGit (canonicalSources_inGit hsources s hs) hbound hsummary
  · intro v hv
    rw [hdeclaredRefs] at hv
    obtain ⟨r, hr, hvalid⟩ := exists_of_mem_left hrefs hv
    obtain ⟨p, hp, hid⟩ := List.mem_map.mp ((hids.mem_iff).mpr (List.mem_map_of_mem hr))
    exact ⟨p, hp, href p hp r hr hid ▸ sameJson_of_validateEvidenceRef hvalid (hrefUnique v hv)⟩
  · intro p hp
    rw [hdeclaredRefs]
    obtain ⟨r, hr, hid⟩ := List.mem_map.mp ((hids.mem_iff).mp (List.mem_map_of_mem hp))
    obtain ⟨v, hv, hvalid⟩ := exists_of_mem_right hrefs hr
    exact ⟨v, hv, href p hp r hr hid.symm ▸ sameJson_of_validateEvidenceRef hvalid (hrefUnique v hv)⟩
  · exact hasNoValue_of rfl (.head _) (by simp) hrecurrence
  · exact hasNoValue_of rfl (.head _) (by simp) hperformance

/-- Two lists of a key that are the same up to their order. -/
def SameRows (document document' : Fields) (key : PyStr) : Prop :=
  ∃ rows rows' order, dictGet document key = .arr rows ∧ dictGet document' key = .arr rows' ∧ order.Perm rows' ∧
    List.Forall₂ SameJson rows order

/-- Every reference that the one declares is declared by the other. -/
def SameRefs (document document' : Fields) : Prop :=
  (∀ v ∈ declaredRefs document, ∃ w ∈ declaredRefs document', SameJson v w) ∧
    ∀ w ∈ declaredRefs document', ∃ v ∈ declaredRefs document, SameJson v w

omit [PyUnicode] in
/-- A reference and the time pin the whole profile. -/
theorem Reports.subset {repository : Repository} {document document' : Fields} {profiles profiles' : List Profile}
    (h : Reports repository document profiles) (h' : Reports repository document' profiles')
    (hobserved : observedAtOf document = observedAtOf document')
    (hrefs : ∀ v ∈ declaredRefs document, ∃ w ∈ declaredRefs document', SameJson v w) : profiles ⊆ profiles' := by
  intro p hp
  obtain ⟨v, hv, hvp⟩ := h.referenced.2 p hp
  obtain ⟨w, hw, hvw⟩ := hrefs v hv
  obtain ⟨q, hq, hwq⟩ := h'.referenced.1 w hw
  have href : p.evidenceRef = q.evidenceRef := by
    apply sameJson_evidenceRef
    unfold SameJson at hvp hvw hwq ⊢
    rw [← hvp, hvw, hwq]
  have hat : p.observedAt = q.observedAt := by
    have heq := (h.observed p hp).symm.trans (hobserved.trans (h'.observed q hq))
    exact Json.str.inj heq
  have hsummary : p.summary = q.summary := by
    obtain ⟨receipt, hreceipt, -, hp⟩ := (h.rehydrated p hp).receipt
    obtain ⟨receipt', hreceipt', -, hq⟩ := (h'.rehydrated q hq).receipt
    rw [href, hreceipt', Except.ok.injEq, Json.obj.injEq] at hreceipt
    subst hreceipt
    exact Except.ok.inj (hp.symm.trans hq)
  have heq : p = q := by
    cases p
    cases q
    simp_all
  exact heq ▸ hq

omit [PyRuntime] [PyUnicode] in
theorem sameRows_of {document document' : Fields} {key : PyStr} {rows rows' : List Json}
    {profiles profiles' : List Profile} {show_ : Profile → Json} (hrows : dictGet document key = .arr rows)
    (hrows' : dictGet document' key = .arr rows') (hperm : profiles.Perm profiles')
    (h : List.Forall₂ (fun v p => SameJson v (show_ p)) rows profiles)
    (h' : List.Forall₂ (fun v p => SameJson v (show_ p)) rows' profiles') : SameRows document document' key := by
  obtain ⟨order, hmiddle, horder⟩ := List.perm_comp_forall₂ hperm (r := fun p v => SameJson v (show_ p)) h'.flip
  refine ⟨rows, rows', order, hrows, hrows', horder, ?_⟩
  refine (forall₂_through.mp ⟨profiles, h, hmiddle⟩).imp ?_
  rintro v w ⟨p, hv, hw⟩
  exact hv.trans hw.symm

end Document

end EvaluationLab.QA3
