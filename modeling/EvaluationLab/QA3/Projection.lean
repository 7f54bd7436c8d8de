import EvaluationLab.QA3.Acceptance
import EvaluationLab.Python.AsciiRuntime

/-! When a projection that was built is verified, and what one that is verified reports. -/
namespace EvaluationLab.QA3
open Python Effect QA0

section Checks

/-- The first source of an identity is the only one. -/
theorem sourceOf_eq {sources : List ReceiptSource} (hnodup : (sources.map ReceiptSource.sourceId).Nodup)
    {s : ReceiptSource} (hs : s ∈ sources) : sourceOf sources s.sourceId = some s := by
  cases h : sourceOf sources s.sourceId with
  | none =>
    have hnone := List.find?_eq_none.mp h s hs
    simp at hnone
  | some s' =>
    have hid := List.find?_some h
    rw [decide_eq_true_eq] at hid
    rw [List.inj_on_of_nodup_map hnodup (List.mem_of_find?_eq_some h) hs hid]

theorem hasKeys_self (document : Fields) : hasKeys document (document.map Prod.fst) = true :=
  hasKeys_eq_true_iff.mpr fun _ => Iff.rfl

theorem sorted_perm (texts : List PyStr) : (texts.insertionSort fun s t => strLe s t = true).Perm texts :=
  List.perm_insertionSort _ _

variable {snapshotId gitCommit observedAt : PyStr} {declared observed : List PyStr} {profiles : List Profile}

theorem checkSnapshot_projection (hid : strip snapshotId ≠ []) (hcommit : BM0.isGitSha gitCommit = true)
    (hat : observedAt.getLast? = some 90) :
    checkSnapshot (projectionFields snapshotId gitCommit observedAt declared observed profiles) =
      .ok ⟨gitCommit, observedAt⟩ := by
  unfold checkSnapshot
  simp only [bind_eq_ok_iff, exists_unit_iff, check_eq_ok_iff, obj_eq_ok_iff]
  refine ⟨snapshotFields snapshotId gitCommit observedAt, rfl, hasKeys_self _, ⟨strip snapshotId, ?_, ?_⟩⟩
  · exact if_neg hid
  · exact ⟨hcommit, decide_eq_true hat, rfl⟩

variable [PyRuntime]

theorem checkManifest_projection (hdeclared : declared.Nodup) (hne : declared ≠ []) (hperm : observed.Perm declared)
    (htext : ∀ id ∈ declared, strip id = id ∧ id ≠ [])
    (hrefs : (profiles.map fun p => p.evidenceRef.sourceId).Perm declared)
    (haccepted : ∀ p ∈ profiles, validateEvidenceRef p.evidenceRef.toJson = .ok p.evidenceRef)
    (hcommit : ∀ p ∈ profiles, p.evidenceRef.gitCommit = gitCommit) :
    checkManifest (projectionFields snapshotId gitCommit observedAt declared observed profiles) ⟨gitCommit, observedAt⟩ =
      .ok ⟨observed.insertionSort fun s t => strLe s t = true, profiles.map fun p => p.evidenceRef.toJson,
        profiles.map Profile.evidenceRef⟩ := by
  have hread : ∀ (texts : List PyStr) (label : PyStr), texts.Perm declared →
      stringArray (textArray (texts.insertionSort fun s t => strLe s t = true)) label false =
        .ok (texts.insertionSort fun s t => strLe s t = true) := by
    intro texts label htexts
    have hsorted := (sorted_perm texts).trans htexts
    refine stringArray_texts (.inl ?_) fun t ht => htext t (hsorted.mem_iff.mp ht)
    intro hnil
    rw [hnil] at hsorted
    exact hne hsorted.nil_eq.symm
  have hobserved := (sorted_perm observed).trans hperm
  unfold checkManifest
  simp only [bind_eq_ok_iff, exists_unit_iff, check_eq_ok_iff, obj_eq_ok_iff]
  refine ⟨manifestFields declared observed (.arr (profiles.map fun p => p.evidenceRef.toJson)), rfl, hasKeys_self _,
    ⟨_, rfl, ?_⟩⟩
  refine ⟨_, hread declared _ (.refl _), _, hread observed _ hperm, [], rfl, ?_, ?_, ?_, ?_⟩
  · exact ⟨(sorted_perm declared).nodup_iff.mpr hdeclared, hobserved.nodup_iff.mpr hdeclared, .nil⟩
  · refine ⟨?_, ?_, rfl⟩
    · intro id hid
      exact hobserved.mem_iff.mpr ((sorted_perm declared).mem_iff.mp hid)
    · intro id hid
      exact (sorted_perm declared).mem_iff.mpr (hobserved.mem_iff.mp hid)
  · refine ⟨?_, ?_, ?_, ?_, ?_⟩
    · rw [List.length_insertionSort]
      exact pyEq_int_self _
    · rw [List.length_insertionSort]
      exact pyEq_int_self _
    · exact pyEq_int_self 0
    · exact beq_self_eq_true _
    · exact beq_self_eq_true _
  · have hvalue : dictGet (manifestFields declared observed (.arr (profiles.map fun p => p.evidenceRef.toJson)))
        "evidence_refs" = .arr (profiles.map fun p => p.evidenceRef.toJson) := rfl
    have hids : (profiles.map Profile.evidenceRef).map EvidenceRef.sourceId =
        profiles.map fun p => p.evidenceRef.sourceId := by
      rw [List.map_map]
      rfl
    rw [hvalue]
    dsimp only
    simp only [bind_eq_ok_iff, exists_unit_iff, check_eq_ok_iff, pure_eq_ok_iff, mapM_eq_ok_iff]
    refine ⟨?_, profiles.map Profile.evidenceRef, ?_, ?_, ?_, rfl⟩
    · intro hnil
      rw [List.map_eq_nil_iff] at hnil
      rw [hnil] at hrefs
      exact hne hrefs.nil_eq.symm
    · rw [List.forall₂_map_left_iff, List.forall₂_map_right_iff, List.forall₂_same]
      exact haccepted
    · rw [hids]
      refine ⟨hrefs.nodup_iff.mpr hdeclared, ?_, ?_⟩
      · intro r hr
        obtain ⟨p, hp, rfl⟩ := List.mem_map.mp hr
        exact hobserved.mem_iff.mpr (hrefs.mem_iff.mp (List.mem_map.mpr ⟨p, hp, rfl⟩))
      · intro id hid
        exact hrefs.mem_iff.mpr (hobserved.mem_iff.mp hid)
    · intro r hr
      obtain ⟨p, hp, rfl⟩ := List.mem_map.mp hr
      exact hcommit p hp

/-- A source whose receipt a profile shows. -/
structure Shows (observedAt : PyStr) (s : ReceiptSource) (p : Profile) : Prop where
  summary : receiptProfileSummary s.receipt = .ok p.summary
  observedAt : p.observedAt = observedAt
  evidenceRef : p.evidenceRef = s.evidenceRef

theorem Shows.gate {s : ReceiptSource} {p : Profile} (h : Shows observedAt s p) (hs : IsSource s) :
    p.summary.gate = py "PASS" := by
  obtain ⟨_, hchecked⟩ := IsChecked.of_verify hs.checked
  rw [(summaryShape_of h.summary).gate, hchecked.gate]
  rfl

omit [PyRuntime] in
/-- Terminal statuses are texts without edge whitespace. -/
theorem strip_terminalStatus {status : PyStr} (h : status ∈ terminalStatuses) : strip status = status ∧ status ≠ [] := by
  have hall : ∀ status ∈ terminalStatuses, strip status = status ∧ status ≠ [] := by decide +kernel
  exact hall status h

/-- A profile that shows a source passes its check. -/
theorem checkProfile_shown {manifest : Manifest} {sources : List ReceiptSource} {s : ReceiptSource} {p : Profile}
    (h : Shows observedAt s p) (hs : s ∈ sources) (hsource : IsSource s)
    (hsources : (sources.map ReceiptSource.sourceId).Nodup) (hincluded : s.sourceId ∈ manifest.included)
    (hcommit : s.evidenceRef.gitCommit = gitCommit) :
    checkProfile ⟨gitCommit, observedAt⟩ manifest sources (.obj p.fields) = .ok p := by
  have hshape := summaryShape_of h.summary
  have hstripped := strip_profileId hshape.profile
  have hblank : ¬strip p.summary.profileId = [] := by
    rw [hstripped.1]
    exact hstripped.2
  have hgate := h.gate hsource
  have href := h.evidenceRef
  have hget : dictGet p.fields "evidence_ref" = p.evidenceRef.toJson := rfl
  unfold checkProfile
  simp only [bind_eq_ok_iff, exists_unit_iff, check_eq_ok_iff, obj_eq_ok_iff, forM_eq_ok_iff]
  refine ⟨p.fields, rfl, hasKeys_self _, strip p.profileId, ?_, ⟨?_, ?_, ?_, ?_, ?_⟩, ?_, p.summary.terminalStatuses, ?_,
    hshape.terminals, p.evidenceRef, ?_, ⟨?_, ?_⟩, ?_⟩
  · exact if_neg hblank
  · exact isStr_iff.mpr (congrArg Json.str hgate)
  · exact beq_self_eq_true _
  · exact beq_self_eq_true _
  · exact isStr_iff.mpr (congrArg Json.str hstripped.1.symm)
  · exact isStr_iff.mpr (congrArg Json.str h.observedAt)
  · have hcount : ∀ {n : ℤ}, 0 ≤ n → (asCount (.int n)).isSome = true := by
      intro n hn
      rw [asCount, if_pos hn]
      rfl
    simp only [countKeys, List.forall_mem_cons, List.not_mem_nil, false_implies, implies_true, and_true]
    exact ⟨hcount hshape.formalFamilyCount, hcount hshape.caseCount, hcount hshape.knownBadCount,
      hcount hshape.controlCount⟩
  · exact stringArray_texts (.inr rfl) fun t ht => strip_terminalStatus (hshape.terminals.2 t ht)
  · rw [hget, href]
    exact hsource.ref.accepted
  · rw [href]
    exact hincluded
  · rw [href]
    exact hcommit
  · rw [href]
    have hfound : sourceOf sources s.evidenceRef.sourceId = some s := sourceOf_eq hsources hs
    rw [hfound]
    dsimp only
    simp only [bind_eq_ok_iff, exists_unit_iff, check_eq_ok_iff, pure_eq_ok_iff]
    refine ⟨trivial, p.summary, h.summary, ?_, ?_⟩
    · simp only [ProfileSummary.fields, List.forall_mem_cons, List.not_mem_nil, false_implies, implies_true, and_true]
      exact ⟨(pyEq_str _ _).mpr rfl, (pyEq_str _ _).mpr rfl, pyEq_int_self _, pyEq_int_self _, pyEq_int_self _,
        pyEq_int_self _, pyEq_texts_self _⟩
    · rw [← href, ← h.observedAt]

omit [PyRuntime] in
theorem pyEq_ref_self (r : EvidenceRef) : pyEq r.toJson r.toJson = true := by
  have hkeys : (r.fields.map Prod.fst).Nodup := nodup_evidenceRefKeys
  rw [EvidenceRef.toJson, pyEq_obj_iff]
  refine ⟨rfl, fun f hf => ⟨f.2, lookup_of_mem hkeys hf, ?_⟩⟩
  simp only [EvidenceRef.fields, List.mem_cons, List.not_mem_nil, or_false] at hf
  rcases hf with rfl | rfl | rfl | rfl | rfl | rfl <;> exact (pyEq_str _ _).mpr rfl

omit [PyRuntime] in
theorem pyEq_refs_self (profiles : List Profile) :
    pyEq (.arr (profiles.map fun p => p.evidenceRef.toJson)) (.arr (profiles.map fun p => p.evidenceRef.toJson)) = true := by
  apply pyEq_arr_self
  intro v hv
  obtain ⟨p, -, rfl⟩ := List.mem_map.mp hv
  exact pyEq_ref_self _

omit [PyRuntime] in
/-- Every profile has its delta, where no two profiles have one identity. -/
theorem checkDeltas_projection (hdistinct : (profiles.map Profile.profileId).Nodup)
    (hobserved : ∀ p ∈ profiles, p.observedAt = observedAt) :
    checkDeltas (projectionFields snapshotId gitCommit observedAt declared observed profiles) ⟨gitCommit, observedAt⟩
      profiles = .ok () := by
  have hvalue : dictGet (projectionFields snapshotId gitCommit observedAt declared observed profiles) "quality_deltas" =
      .arr (profiles.map fun p => .obj p.deltaFields) := rfl
  have hfound : ∀ p ∈ profiles, profiles.find? (fun q => (Json.str p.profileId).isStr q.profileId) = some p := by
    intro p hp
    cases hfind : profiles.find? fun q => (Json.str p.profileId).isStr q.profileId with
    | none =>
      have hnone := List.find?_eq_none.mp hfind p hp
      exact absurd (beq_self_eq_true _) hnone
    | some q =>
      have hid := List.find?_some hfind
      have hid : p.profileId = q.profileId := Json.str.inj (eq_str_of_isStr hid)
      rw [List.inj_on_of_nodup_map hdistinct hp (List.mem_of_find?_eq_some hfind) hid]
  have hdelta : ∀ p ∈ profiles, checkDelta ⟨gitCommit, observedAt⟩ profiles (.obj p.deltaFields) = .ok p.profileId := by
    intro p hp
    have hid : dictGet p.deltaFields "profile_id" = .str p.profileId := rfl
    unfold checkDelta
    simp only [bind_eq_ok_iff, exists_unit_iff, check_eq_ok_iff, obj_eq_ok_iff]
    refine ⟨p.deltaFields, rfl, hasKeys_self _, rfl, ?_⟩
    rw [hid, hfound p hp]
    dsimp only
    simp only [bind_eq_ok_iff, exists_unit_iff, check_eq_ok_iff, pure_eq_ok_iff]
    refine ⟨⟨beq_self_eq_true _, beq_self_eq_true _, beq_self_eq_true _, rfl, rfl, rfl, beq_self_eq_true _,
      beq_self_eq_true _, isStr_iff.mpr (congrArg Json.str (hobserved p hp)), pyEq_ref_self _⟩, trivial⟩
  unfold checkDeltas
  rw [hvalue]
  simp only [bind_eq_ok_iff, exists_unit_iff, check_eq_ok_iff, mapM_eq_ok_iff]
  refine ⟨List.length_map _, profiles.map Profile.profileId, ?_, ?_⟩
  · rw [List.forall₂_map_left_iff, List.forall₂_map_right_iff, List.forall₂_same]
    exact hdelta
  · rw [List.dedup_eq_self.mpr hdistinct, List.length_map]

omit [PyRuntime] in
theorem checkSection_projection {key message : PyStr} {template : Fields} (projection : Fields)
    (hpart : dictGet projection key = .obj template) (hnodup : (template.map Prod.fst).Nodup)
    (hself : ∀ f ∈ template, pyEq f.2 f.2 = true) : checkSection projection key template message = .ok () := by
  unfold checkSection
  simp only [bind_eq_ok_iff, check_eq_ok_iff, obj_eq_ok_iff]
  refine ⟨template, hpart, hasKeys_self _, ?_⟩
  intro f hf
  rw [dictGet_of_lookup (lookup_of_mem hnodup hf)]
  exact hself f hf

omit [PyRuntime] in
theorem checkVisibility_projection :
    checkVisibility (projectionFields snapshotId gitCommit observedAt declared observed profiles) profiles
      (.arr (profiles.map fun p => p.evidenceRef.toJson)) = .ok () := by
  unfold checkVisibility
  simp only [bind_eq_ok_iff, check_eq_ok_iff, obj_eq_ok_iff]
  exact ⟨visibilityFields profiles (.arr (profiles.map fun p : Profile => p.evidenceRef.toJson)), rfl, hasKeys_self _,
    pyEq_texts_self _, rfl, rfl, rfl, pyEq_refs_self profiles⟩

end Checks

section Build

/-- A projection with its fingerprint. -/
def withProjectionFingerprint (projection : Fields) (fingerprint : PyStr) : Fields :=
  projection ++ [(py "projection_fingerprint", .str fingerprint)]

/-- What is left of it without the fingerprint. -/
theorem filter_withProjectionFingerprint {projection : Fields} {fingerprint : PyStr}
    (hkeys : projection.map Prod.fst = projectionKeys) :
    (withProjectionFingerprint projection fingerprint).filter (fun f => f.1 ≠ py "projection_fingerprint") =
      projection := by
  have hne : ∀ k ∈ projectionKeys, k ≠ py "projection_fingerprint" := by decide +kernel
  rw [withProjectionFingerprint, List.filter_append, List.filter_eq_self.mpr, List.filter_cons_of_neg (by simp),
    List.filter_nil, List.append_nil]
  intro f hf
  exact decide_eq_true (hne f.1 (hkeys ▸ List.mem_map_of_mem hf))

variable [PyRuntime] [PyUnicode]

/-- What it took to build a projection: sources that Git has, in the order of their profiles. -/
structure Built (receiptSources : List Json) (declared observed : List PyStr) (observedAt snapshotId : PyStr)
    (repository : Repository) (sources : List ReceiptSource) (profiles : List Profile)
    (gitCommit fingerprint : PyStr) : Prop where
  nonempty : declared ≠ []
  distinct : declared.Nodup
  timed : observedAt.getLast? = some 90
  named : strip snapshotId ≠ []
  same : observed.Perm declared
  bound : ∃ bound, bindReceiptSourcesToGit receiptSources repository = .ok bound ∧ bound.Perm sources
  complete : (sources.map ReceiptSource.sourceId).Perm declared
  inGit : ∀ s ∈ sources, InGit repository s
  commit : ∀ s ∈ sources, s.evidenceRef.gitCommit = gitCommit
  shown : List.Forall₂ (Shows observedAt) sources profiles
  safe : assertPublicSafe (.obj (projectionFields snapshotId gitCommit observedAt declared observed profiles)) = .ok ()
  fingerprint : sha256Json (.obj (projectionFields snapshotId gitCommit observedAt declared observed profiles)) =
    .ok fingerprint

/-- A source that is bound, and what was claimed of it. -/
structure Bound (repository : Repository) (claimed source : ReceiptSource) : Prop where
  inGit : InGit repository source
  sourceId : source.sourceId = claimed.sourceId
  commit : source.evidenceRef.gitCommit = claimed.evidenceRef.gitCommit
  equal : pyEq (.obj claimed.receipt) (.obj source.receipt) = true

theorem bound_of {receiptSources : List Json} {repository : Repository} {sources : List ReceiptSource}
    (h : bindReceiptSourcesToGit receiptSources repository = .ok sources) :
    ∃ claimed, normalizeReceiptSources receiptSources = .ok claimed ∧
      List.Forall₂ (Bound repository) claimed sources := by
  unfold bindReceiptSourcesToGit at h
  simp only [bind_eq_ok_iff, exists_unit_iff, check_eq_ok_iff, pure_eq_ok_iff] at h
  obtain ⟨claimed, hclaimed, loaded, hload, _, hbound, ⟨-, hnodup, hsame⟩, rfl⟩ := h
  have hfrom := loaded_eq_ok_iff.mp (bind_eq_ok_iff.mpr ⟨loaded, hload, hbound⟩)
  rw [List.forall₂_map_left_iff] at hfrom
  refine ⟨claimed, hclaimed, ?_⟩
  rw [sameSources, Bool.and_eq_true, List.all_eq_true] at hsame
  rw [List.forall₂_iff_get] at hfrom ⊢
  refine ⟨hfrom.1, fun i hi hi' => ?_⟩
  obtain ⟨hinGit, r, hvalid, hid, hcommit⟩ := (hfrom.2 i hi hi').inGit
  obtain rfl := eq_of_validateEvidenceRef hvalid
  have hequal := hsame.2 _ (List.get_mem claimed ⟨i, hi⟩)
  rw [Option.any_eq_true] at hequal
  obtain ⟨e, he, hequal⟩ := hequal
  have hfound := sourceOf_eq hnodup (List.get_mem _ ⟨i, hi'⟩)
  have hsource : sourceOf _ (claimed.get ⟨i, hi⟩).sourceId = some e := he
  rw [hid] at hfound
  cases hfound.symm.trans hsource
  rw [Bool.and_eq_true] at hequal
  exact ⟨hinGit, hid, hcommit, hequal.1⟩

theorem built_of {receiptSources : List Json} {declared : List PyStr} {observedAt snapshotId : PyStr}
    {repository : Repository} {projection : Json}
    (h : buildDashboardProjection receiptSources declared observedAt snapshotId (some repository) = .ok projection) :
    ∃ observed sources profiles gitCommit fingerprint,
      Built receiptSources declared observed observedAt snapshotId repository sources profiles gitCommit fingerprint ∧
      projection = .obj (withProjectionFingerprint
        (projectionFields snapshotId gitCommit observedAt declared observed profiles) fingerprint) := by
  unfold buildDashboardProjection at h
  simp only [bind_eq_ok_iff, exists_unit_iff, check_eq_ok_iff] at h
  obtain ⟨⟨hne, hdistinct⟩, hat, hid, claimed, hclaimed, hobserved, ⟨hsub, hsup⟩, h⟩ := h
  split at h
  · rename_i gitCommit repository' hcommits hroot
    cases hroot
    simp only [bind_eq_ok_iff, exists_unit_iff, pure_eq_ok_iff, mapM_eq_ok_iff] at h
    obtain ⟨bound, hbind, shown, hshown, hsafe, fingerprint, hfingerprint, rfl⟩ := h
    obtain ⟨claimed', hclaimed', haligned⟩ := bound_of hbind
    cases hclaimed.symm.trans hclaimed'
    have hshows : List.Forall₂ (Shows observedAt) bound shown := by
      refine hshown.imp ?_
      rintro s p ⟨summary, hsummary, rfl⟩
      exact ⟨hsummary, rfl, rfl⟩
    -- the profiles are sorted, and the sources are put in the same order
    have hperm : (shown.insertionSort fun p q => strLe p.profileId q.profileId = true).Perm shown :=
      List.perm_insertionSort _ _
    obtain ⟨sources, hsources, horder⟩ :=
      List.perm_comp_forall₂ hperm (r := fun p s => Shows observedAt s p) hshows.flip
    have hids : claimed.map ReceiptSource.sourceId = bound.map ReceiptSource.sourceId := by
      rw [← List.forall₂_eq_eq_eq, List.forall₂_map_left_iff, List.forall₂_map_right_iff]
      exact haligned.imp fun _ _ h => h.sourceId.symm
    refine ⟨claimed.map ReceiptSource.sourceId, sources, _, gitCommit, fingerprint, ?_, rfl⟩
    have hpermDeclared : (claimed.map ReceiptSource.sourceId).Perm declared := by
      rw [List.perm_ext_iff_of_nodup hobserved hdistinct]
      exact fun id => ⟨hsub id, hsup id⟩
    refine ⟨hne, hdistinct, hat, hid, hpermDeclared, ⟨bound, hbind, horder.symm⟩, ?_, ?_, ?_, hsources.flip, hsafe,
      hfingerprint⟩
    · have hmap := horder.map ReceiptSource.sourceId
      rw [← hids] at hmap
      exact hmap.trans hpermDeclared
    · intro s hs
      obtain ⟨_, -, hs⟩ := exists_of_mem_right haligned (horder.mem_iff.mp hs)
      exact hs.inGit
    · intro s hs
      obtain ⟨c, hc, hs⟩ := exists_of_mem_right haligned (horder.mem_iff.mp hs)
      have hmem : c.evidenceRef.gitCommit ∈ (claimed.map fun s => s.evidenceRef.gitCommit).dedup :=
        List.mem_dedup.mpr (List.mem_map.mpr ⟨c, hc, rfl⟩)
      rw [hcommits, List.mem_singleton] at hmem
      rw [hs.commit, hmem]
  · cases h
  · cases h

/-- The profile of the receipt of a source, as it is supplied. -/
def sourceProfile (source : Json) : Except PyExc PyStr := do
  let source ← obj source "receipt source"
  let receipt ← obj (dictGet source "receipt") "checked receipt"
  profileId receipt

omit [PyRuntime] [PyUnicode] in
/-- Equal receipts are of one profile. -/
theorem isProfile_of_pyEq {receipt receipt' : Fields} {id : PyStr} (hkeys : (receipt.map Prod.fst).Nodup)
    (h : pyEq (.obj receipt) (.obj receipt') = true) (hid : IsProfile receipt' id) : IsProfile receipt id := by
  rcases hid with ⟨hschema, rfl⟩ | ⟨row, hrow, hschema, hprofile, rfl⟩
  · exact .inl ⟨dictGet_str_of_pyEq hkeys h hschema, rfl⟩
  · exact .inr ⟨row, hrow, dictGet_str_of_pyEq hkeys h hschema, dictGet_str_of_pyEq hkeys h hprofile, rfl⟩

theorem sourceProfile_of_normalize {value : Json} {claimed : ReceiptSource} {receipt : Fields} {id : PyStr}
    (hunique : UniqueKeys value) (hclaimed : normalizeReceiptSource (value, 0) = .ok claimed)
    (hequal : pyEq (.obj claimed.receipt) (.obj receipt) = true) (hid : IsProfile receipt id) :
    sourceProfile value = .ok id := by
  obtain ⟨source, path, gitCommit, rfl, -, -, -, hchecked, -⟩ := normalizeReceiptSource_eq_ok_iff.mp hclaimed
  obtain ⟨document, fingerprint, hdocument, -, hform⟩ := verifyCheckedReceipt_eq_ok_iff.mp hchecked
  have hkeys : (claimed.receipt.map Prod.fst).Nodup := by
    have hreceipt := hunique.dictGet "receipt"
    rw [hdocument] at hreceipt
    rw [hform, List.map_append, withoutFingerprint]
    refine List.nodup_append.mpr ⟨hreceipt.nodup.sublist (List.filter_sublist.map _), List.nodup_singleton _, ?_⟩
    intro k hk l hl heq
    obtain ⟨f, hf, rfl⟩ := List.mem_map.mp hk
    obtain ⟨g, hg, rfl⟩ := List.mem_map.mp hl
    rw [List.mem_singleton] at hg
    subst hg
    exact of_decide_eq_true (List.mem_filter.mp hf).2 heq
  have hprofile := profileId_of_isProfile (isProfile_of_pyEq hkeys hequal hid)
  rw [hdocument] at hchecked
  have hget := dictGet_of_verifyCheckedReceipt hchecked
  have hsame : profileId document = profileId claimed.receipt := by simp only [profileId, hget]
  unfold sourceProfile
  simp only [bind_eq_ok_iff, obj_eq_ok_iff]
  exact ⟨source, rfl, document, hdocument, hsame.trans hprofile⟩

/-- The supplied receipts have the profiles that are shown. -/
theorem sourceProfiles_of {receiptSources : List Json} {repository : Repository} {bound : List ReceiptSource}
    (hunique : ∀ v ∈ receiptSources, UniqueKeys v)
    (hbind : bindReceiptSourcesToGit receiptSources repository = .ok bound) {ids : List PyStr}
    (hids : List.Forall₂ (fun s id => IsProfile s.receipt id) bound ids) :
    receiptSources.map sourceProfile = ids.map .ok := by
  obtain ⟨claimed, hclaimed, haligned⟩ := bound_of hbind
  have hclaimed := normalizeReceiptSources_eq_ok_iff.mp hclaimed
  have hthrough := forall₂_through.mp ⟨claimed, hclaimed, forall₂_through.mp ⟨bound, haligned, hids⟩⟩
  rw [← List.forall₂_eq_eq_eq, List.forall₂_map_left_iff, List.forall₂_map_right_iff]
  rw [List.forall₂_iff_get] at hthrough ⊢
  refine ⟨hthrough.1, fun i hi hi' => ?_⟩
  obtain ⟨c, hc, s, hs, hid⟩ := hthrough.2 i hi hi'
  exact sourceProfile_of_normalize (hunique _ (List.get_mem _ _)) hc hs.equal hid

omit [PyUnicode] in
/-- A profile is read under the identity it shows. -/
theorem profileId_of_checkProfile {snapshot : Snapshot} {manifest : Manifest} {sources : List ReceiptSource}
    {p q : Profile} (h : checkProfile snapshot manifest sources (.obj p.fields) = .ok q) : p.profileId = q.profileId := by
  unfold checkProfile at h
  simp only [bind_eq_ok_iff, exists_unit_iff, check_eq_ok_iff, obj_eq_ok_iff, Json.obj.injEq] at h
  obtain ⟨_, rfl, -, _, -, -, -, _, -, -, ref, -, -, h⟩ := h
  split at h
  · cases h
  · simp only [bind_eq_ok_iff, exists_unit_iff, check_eq_ok_iff, pure_eq_ok_iff] at h
    obtain ⟨-, expected, -, hsummary, rfl⟩ := h
    have hid := (pyEq_str _ _).mp (hsummary (py "profile_id", .str expected.profileId) (.head _))
    exact Json.str.inj hid

variable {receiptSources : List Json} {declared observed : List PyStr} {observedAt snapshotId : PyStr}
  {repository own : Repository} {sources : List ReceiptSource} {profiles : List Profile} {gitCommit fingerprint : PyStr}

theorem distinct_of_verify {document : Json} {supplied : Option (List Json)} {root : Option Repository}
    (h : verifyDashboardProjection own (.obj (withProjectionFingerprint
      (projectionFields snapshotId gitCommit observedAt declared observed profiles) fingerprint)) supplied root =
      .ok document) : (profiles.map Profile.profileId).Nodup := by
  unfold verifyDashboardProjection at h
  simp only [bind_eq_ok_iff, exists_unit_iff, check_eq_ok_iff, obj_eq_ok_iff, Json.obj.injEq] at h
  obtain ⟨_, rfl, -, -, -, -, _, -, -, snapshot, -, manifest, -, canonical, -, -, shown, hread, -⟩ := h
  have hrows : dictGet (projectionFields snapshotId gitCommit observedAt declared observed profiles) "profiles" =
      .arr (profiles.map fun p => .obj p.fields) := rfl
  rw [filter_withProjectionFingerprint rfl] at hread
  unfold checkProfiles at hread
  rw [hrows] at hread
  simp only [bind_eq_ok_iff, exists_unit_iff, check_eq_ok_iff, pure_eq_ok_iff, mapM_eq_ok_iff] at hread
  obtain ⟨-, checked, hchecked, ⟨hdistinct, -⟩, -⟩ := hread
  rw [List.forall₂_map_left_iff] at hchecked
  have hids : profiles.map Profile.profileId = checked.map Profile.profileId := by
    rw [← List.forall₂_eq_eq_eq, List.forall₂_map_left_iff, List.forall₂_map_right_iff]
    exact hchecked.imp fun _ _ h => profileId_of_checkProfile h
  rw [hids]
  exact hdistinct

omit [PyUnicode] in
/-- A path below the result directory gives an identity without edge whitespace. -/
theorem strip_sourceId {s : ReceiptSource} (h : IsSource s) : strip s.sourceId = s.sourceId ∧ s.sourceId ≠ [] := by
  obtain ⟨_, _, hstrip, hbounded⟩ := boundedReceiptPath_eq_ok_iff.mp h.ref.path
  have hid : s.sourceId = 66 :: py "2_RECEIPT:" ++ s.evidenceRef.sourceLocator := h.ref.sourceId
  rw [hid]
  constructor
  · apply strip_append_eq_self (by decide +kernel) ?_ hbounded.nonempty
    rw [← hstrip, strip_strip]
  · exact List.cons_ne_nil _ _

omit [PyUnicode] in
theorem isGitSha_of_accepted {r : EvidenceRef} (h : validateEvidenceRef r.toJson = .ok r) :
    BM0.isGitSha r.gitCommit = true := by
  unfold validateEvidenceRef at h
  simp only [bind_eq_ok_iff, exists_unit_iff, check_eq_ok_iff, obj_eq_ok_iff] at h
  obtain ⟨fields, hfields, -, _, -, _, -, _, -, _, -, -, hcommit, -⟩ := h
  cases hfields
  exact hcommit

/-- The profiles and the sources of a projection that was built, seen from the profiles. -/
theorem Built.profile (h : Built receiptSources declared observed observedAt snapshotId repository sources profiles
    gitCommit fingerprint) {p : Profile} (hp : p ∈ profiles) : ∃ s ∈ sources, Shows observedAt s p :=
  exists_of_mem_right h.shown hp

theorem Built.sourceIds (h : Built receiptSources declared observed observedAt snapshotId repository sources profiles
    gitCommit fingerprint) : (profiles.map fun p => p.evidenceRef.sourceId) = sources.map ReceiptSource.sourceId := by
  rw [← List.forall₂_eq_eq_eq, List.forall₂_map_left_iff, List.forall₂_map_right_iff]
  refine h.shown.flip.imp ?_
  intro p s hs
  exact congrArg EvidenceRef.sourceId hs.evidenceRef

theorem checkManifest_built (h : Built receiptSources declared observed observedAt snapshotId repository sources profiles
    gitCommit fingerprint) :
    checkManifest (projectionFields snapshotId gitCommit observedAt declared observed profiles) ⟨gitCommit, observedAt⟩ =
      .ok ⟨observed.insertionSort fun s t => strLe s t = true, profiles.map fun p => p.evidenceRef.toJson,
        profiles.map Profile.evidenceRef⟩ := by
  apply checkManifest_projection h.distinct h.nonempty h.same
  · intro id hid
    obtain ⟨s, hs, rfl⟩ := List.mem_map.mp (h.complete.mem_iff.mpr hid)
    exact strip_sourceId (h.inGit s hs).toIsSource
  · rw [h.sourceIds]
    exact h.complete
  · intro p hp
    obtain ⟨s, hs, hshows⟩ := h.profile hp
    rw [hshows.evidenceRef]
    exact (h.inGit s hs).ref.accepted
  · intro p hp
    obtain ⟨s, hs, hshows⟩ := h.profile hp
    rw [hshows.evidenceRef]
    exact h.commit s hs

theorem checkSources_built (h : Built receiptSources declared observed observedAt snapshotId repository sources profiles
    gitCommit fingerprint) {canonical : List ReceiptSource} (hperm : canonical.Perm sources) {rawRefs : List Json} :
    checkSources ⟨observed.insertionSort fun s t => strLe s t = true, rawRefs, profiles.map Profile.evidenceRef⟩
      canonical = .ok () := by
  have hids := (hperm.map ReceiptSource.sourceId).trans h.complete
  have hincluded := (sorted_perm observed).trans h.same
  have hnodup := hids.nodup_iff.mpr h.distinct
  unfold checkSources
  simp only [bind_eq_ok_iff, exists_unit_iff, check_eq_ok_iff]
  refine ⟨hnodup, ⟨?_, ?_⟩, ?_⟩
  · intro s hs
    exact hincluded.mem_iff.mpr (hids.mem_iff.mp (List.mem_map_of_mem hs))
  · intro id hid
    exact hids.mem_iff.mpr (hincluded.mem_iff.mp hid)
  · intro r hr
    obtain ⟨p, hp, rfl⟩ := List.mem_map.mp hr
    obtain ⟨s, hs, hshows⟩ := h.profile hp
    have hfound : sourceOf canonical p.evidenceRef.sourceId = some s := by
      rw [hshows.evidenceRef]
      exact sourceOf_eq hnodup (hperm.mem_iff.mpr hs)
    rw [hfound, hshows.evidenceRef]
    rfl

theorem checkProfiles_built (h : Built receiptSources declared observed observedAt snapshotId repository sources profiles
    gitCommit fingerprint) (hdistinct : (profiles.map Profile.profileId).Nodup) {canonical : List ReceiptSource}
    (hperm : canonical.Perm sources) {rawRefs : List Json} {refs : List EvidenceRef} :
    checkProfiles (projectionFields snapshotId gitCommit observedAt declared observed profiles) ⟨gitCommit, observedAt⟩
      ⟨observed.insertionSort fun s t => strLe s t = true, rawRefs, refs⟩ canonical = .ok profiles := by
  have hids := (hperm.map ReceiptSource.sourceId).trans h.complete
  have hincluded := (sorted_perm observed).trans h.same
  have hrows : dictGet (projectionFields snapshotId gitCommit observedAt declared observed profiles) "profiles" =
      .arr (profiles.map fun p => .obj p.fields) := rfl
  unfold checkProfiles
  rw [hrows]
  simp only [bind_eq_ok_iff, exists_unit_iff, check_eq_ok_iff, pure_eq_ok_iff, mapM_eq_ok_iff]
  refine ⟨?_, profiles, ?_, ⟨hdistinct, ?_, ?_⟩, rfl⟩
  · intro hnil
    rw [List.map_eq_nil_iff] at hnil
    have hempty := h.sourceIds
    rw [hnil, List.map_nil] at hempty
    have hcomplete := h.complete
    rw [← hempty] at hcomplete
    exact h.nonempty hcomplete.nil_eq.symm
  · rw [List.forall₂_map_left_iff, List.forall₂_same]
    intro p hp
    obtain ⟨s, hs, hshows⟩ := h.profile hp
    have hmem := hperm.mem_iff.mpr hs
    exact checkProfile_shown hshows hmem (h.inGit s hs).toIsSource (hids.nodup_iff.mpr h.distinct)
      (hincluded.mem_iff.mpr (hids.mem_iff.mp (List.mem_map_of_mem hmem))) (h.commit s hs)
  · intro p hp
    obtain ⟨s, hs, hshows⟩ := h.profile hp
    rw [hshows.evidenceRef]
    exact hincluded.mem_iff.mpr (h.complete.mem_iff.mp (List.mem_map_of_mem hs))
  · intro id hid
    rw [h.sourceIds]
    exact h.complete.mem_iff.mpr (hincluded.mem_iff.mp hid)

example : py "projection_fingerprint" ∉ projectionKeys := by decide +kernel

theorem safe_built (h : Built receiptSources declared observed observedAt snapshotId repository sources profiles
    gitCommit fingerprint) : assertPublicSafe (.obj (withProjectionFingerprint
      (projectionFields snapshotId gitCommit observedAt declared observed profiles) fingerprint)) = .ok () := by
  have hsafe := h.safe
  have hkey : publicSafeText (py "projection_fingerprint") = true :=
    (cleanText_of_asciiClean (by decide +kernel)).1
  rw [assertPublicSafe_ok_iff, texts] at hsafe ⊢
  rw [withProjectionFingerprint, fieldTexts_append, List.forall_mem_append]
  refine ⟨hsafe, ?_⟩
  simp only [fieldTexts, texts, List.append_nil, List.forall_mem_cons, List.not_mem_nil, false_implies, implies_true,
    and_true]
  exact ⟨hkey, (sha256Json_clean h.fingerprint).1⟩

/-- A projection that was built is verified as it is, where its profiles are distinct and the canonical sources are
those it was built of. -/
theorem verify_of_built (h : Built receiptSources declared observed observedAt snapshotId repository sources profiles
    gitCommit fingerprint) (hdistinct : (profiles.map Profile.profileId).Nodup) {supplied : Option (List Json)}
    {root : Option Repository} {canonical : List ReceiptSource} (hperm : canonical.Perm sources)
    (hcanonical : ∀ included refs, canonicalSources supplied root own ⟨included,
      profiles.map fun p => p.evidenceRef.toJson, refs⟩ = .ok canonical) :
    verifyDashboardProjection own (.obj (withProjectionFingerprint
      (projectionFields snapshotId gitCommit observedAt declared observed profiles) fingerprint)) supplied root =
      .ok (.obj (withProjectionFingerprint
        (projectionFields snapshotId gitCommit observedAt declared observed profiles) fingerprint)) := by
  have hfingerprint : dictGet (withProjectionFingerprint
      (projectionFields snapshotId gitCommit observedAt declared observed profiles) fingerprint)
      "projection_fingerprint" = .str fingerprint := rfl
  have hobserved : ∀ p ∈ profiles, p.observedAt = observedAt := by
    intro p hp
    obtain ⟨s, -, hshows⟩ := h.profile hp
    exact hshows.observedAt
  have hcommit : BM0.isGitSha gitCommit = true := by
    obtain ⟨id, hid⟩ := List.exists_mem_of_ne_nil _ h.nonempty
    obtain ⟨s, hs, -⟩ := List.mem_map.mp (h.complete.mem_iff.mpr hid)
    rw [← h.commit s hs]
    exact isGitSha_of_accepted (h.inGit s hs).ref.accepted
  have hrecurrence : [py "terminal_status", py "reason", py "series", py "evidence_refs"].Nodup := by decide +kernel
  have hperformance : [py "terminal_status", py "reason", py "metrics", py "evidence_refs"].Nodup := by decide +kernel
  unfold verifyDashboardProjection
  simp only [bind_eq_ok_iff, exists_unit_iff, check_eq_ok_iff, obj_eq_ok_iff, pure_eq_ok_iff]
  refine ⟨_, rfl, ?_⟩
  rw [filter_withProjectionFingerprint rfl, hfingerprint]
  refine ⟨hasKeys_self _, beq_self_eq_true _, beq_self_eq_true _, isSha256_of_sha256Json h.fingerprint, fingerprint,
    h.fingerprint, beq_self_eq_true _, ⟨gitCommit, observedAt⟩, checkSnapshot_projection h.named hcommit h.timed, _,
    checkManifest_built h, canonical, hcanonical _ _, checkSources_built h hperm, profiles,
    checkProfiles_built h hdistinct hperm, checkDeltas_projection hdistinct hobserved, ?_, checkVisibility_projection, ?_,
    ?_, projectionLimitations, ?_, safe_built h, rfl⟩
  · refine checkSection_projection _ rfl ?_ ?_
    · exact hrecurrence
    simp only [recurrenceFields, List.forall_mem_cons, List.not_mem_nil, false_implies, implies_true, and_true]
    exact ⟨(pyEq_str _ _).mpr rfl, (pyEq_str _ _).mpr rfl, rfl, pyEq_refs_self profiles⟩
  · refine checkSection_projection _ rfl ?_ ?_
    · exact hperformance
    simp only [performanceFields, List.forall_mem_cons, List.not_mem_nil, false_implies, implies_true, and_true]
    exact ⟨(pyEq_str _ _).mpr rfl, (pyEq_str _ _).mpr rfl, rfl, pyEq_refs_self profiles⟩
  · exact checkSection_projection _ rfl (by decide +kernel) (by decide +kernel)
  · exact stringArray_texts (.inl (by decide +kernel)) (by decide +kernel)

/-- The profiles that are shown are distinct when those of the supplied receipts are. -/
theorem Built.distinct_iff (h : Built receiptSources declared observed observedAt snapshotId repository sources profiles
    gitCommit fingerprint) (hunique : ∀ v ∈ receiptSources, UniqueKeys v) :
    (receiptSources.map sourceProfile).Nodup ↔ (profiles.map Profile.profileId).Nodup := by
  obtain ⟨bound, hbound, hperm⟩ := h.bound
  obtain ⟨shown, hshown, horder⟩ := List.perm_comp_forall₂ hperm (r := fun s p => Shows observedAt s p) h.shown
  have hids : List.Forall₂ (fun s id => IsProfile s.receipt id) bound (shown.map Profile.profileId) := by
    rw [List.forall₂_map_right_iff]
    exact hshown.imp fun _ _ hs => (summaryShape_of hs.summary).profile
  rw [sourceProfiles_of hunique hbound hids, List.nodup_map_iff fun _ _ h => Except.ok.inj h]
  exact (horder.map Profile.profileId).nodup_iff

/-- Distinct profiles are verified against what Git has. -/
theorem Built.verified (h : Built receiptSources declared observed observedAt snapshotId repository sources profiles
    gitCommit fingerprint) (hdistinct : (profiles.map Profile.profileId).Nodup) :
    verifyDashboardProjection own (.obj (withProjectionFingerprint
      (projectionFields snapshotId gitCommit observedAt declared observed profiles) fingerprint)) none (some repository) =
      .ok (.obj (withProjectionFingerprint
        (projectionFields snapshotId gitCommit observedAt declared observed profiles) fingerprint)) := by
  apply verify_of_built h hdistinct (.refl sources)
  intro included refs
  have hloaded := loaded_self h.inGit
  have hrefs : (sources.map fun s => s.evidenceRef.toJson) = profiles.map fun p => p.evidenceRef.toJson := by
    rw [← List.forall₂_eq_eq_eq, List.forall₂_map_left_iff, List.forall₂_map_right_iff]
    exact h.shown.imp fun _ _ hs => congrArg EvidenceRef.toJson hs.evidenceRef.symm
  rw [hrefs] at hloaded
  exact hloaded

end Build

section Unique

theorem uniqueKeys_textArray (texts : List PyStr) : UniqueKeys (textArray texts) := by
  rw [textArray, UniqueKeys, itemsUniqueKeys_iff]
  intro v hv
  obtain ⟨t, -, rfl⟩ := List.mem_map.mp hv
  trivial

theorem uniqueKeys_ref (r : EvidenceRef) : UniqueKeys r.toJson := by
  have hkeys : (r.fields.map Prod.fst).Nodup := nodup_evidenceRefKeys
  refine ⟨hkeys, ?_⟩
  simp [EvidenceRef.fields, FieldsUniqueKeys, UniqueKeys]

theorem uniqueKeys_map {α : Type} {show_ : α → Json} (xs : List α) (h : ∀ x, UniqueKeys (show_ x)) :
    UniqueKeys (.arr (xs.map show_)) := by
  rw [UniqueKeys, itemsUniqueKeys_iff]
  intro v hv
  obtain ⟨x, -, rfl⟩ := List.mem_map.mp hv
  exact h x

theorem uniqueKeys_profile (p : Profile) : UniqueKeys (.obj p.fields) := by
  refine ⟨nodup_profileKeys, ?_⟩
  simp only [Profile.fields, ProfileSummary.fields, List.cons_append, List.nil_append, FieldsUniqueKeys, UniqueKeys,
    true_and, and_true]
  exact ⟨uniqueKeys_textArray _, uniqueKeys_ref _⟩

theorem uniqueKeys_delta (p : Profile) : UniqueKeys (.obj p.deltaFields) := by
  refine ⟨nodup_deltaKeys, ?_⟩
  simp only [Profile.deltaFields, FieldsUniqueKeys, UniqueKeys, true_and, and_true]
  exact uniqueKeys_ref _

/-- A projection that was built repeats no key. -/
theorem uniqueKeys_projection (snapshotId gitCommit observedAt : PyStr) (declared observed : List PyStr)
    (profiles : List Profile) (fingerprint : PyStr) : UniqueKeys (.obj (withProjectionFingerprint
      (projectionFields snapshotId gitCommit observedAt declared observed profiles) fingerprint)) := by
  have hrefs : UniqueKeys (.arr (profiles.map fun p => p.evidenceRef.toJson)) :=
    uniqueKeys_map profiles fun p => uniqueKeys_ref p.evidenceRef
  have hpart : ∀ (keys : List PyStr) {part : Fields}, keys.Nodup → part.map Prod.fst = keys → FieldsUniqueKeys part →
      UniqueKeys (.obj part) := by
    intro keys part hnodup hkeys hfields
    exact ⟨hkeys ▸ hnodup, hfields⟩
  have hsnapshot : UniqueKeys (.obj (snapshotFields snapshotId gitCommit observedAt)) :=
    hpart ["snapshot_id", "git_commit", "observed_at", "single_snapshot_only"] (by decide +kernel) rfl
      (by simp [snapshotFields, FieldsUniqueKeys, UniqueKeys])
  have hmanifest : UniqueKeys (.obj (manifestFields declared observed
      (.arr (profiles.map fun p => p.evidenceRef.toJson)))) := by
    refine hpart manifestKeys (by decide +kernel) rfl ?_
    simp only [manifestFields, FieldsUniqueKeys]
    exact ⟨trivial, uniqueKeys_textArray _, uniqueKeys_textArray _, uniqueKeys_textArray [], trivial, trivial, trivial,
      trivial, trivial, hrefs, trivial⟩
  have hrecurrence : UniqueKeys (.obj (recurrenceFields (.arr (profiles.map fun p => p.evidenceRef.toJson)))) :=
    hpart ["terminal_status", "reason", "series", "evidence_refs"] (by decide +kernel) rfl
      ⟨trivial, trivial, uniqueKeys_textArray [], hrefs, trivial⟩
  have hvisibility : UniqueKeys (.obj (visibilityFields profiles
      (.arr (profiles.map fun p => p.evidenceRef.toJson)))) :=
    hpart ["statuses", "preserves_unknown", "preserves_not_evaluable", "preserves_error", "evidence_refs"]
      (by decide +kernel) rfl ⟨uniqueKeys_textArray _, trivial, trivial, trivial, hrefs, trivial⟩
  have hperformance : UniqueKeys (.obj (performanceFields (.arr (profiles.map fun p => p.evidenceRef.toJson)))) :=
    hpart ["terminal_status", "reason", "metrics", "evidence_refs"] (by decide +kernel) rfl
      ⟨trivial, trivial, uniqueKeys_textArray [], hrefs, trivial⟩
  have hbrand : UniqueKeys (.obj brandFields) :=
    hpart ["status", "claims_unlocked"] (by decide +kernel) rfl ⟨trivial, uniqueKeys_textArray [], trivial⟩
  refine hpart (projectionKeys ++ [py "projection_fingerprint"]) (by decide +kernel) rfl ?_
  simp only [withProjectionFingerprint, projectionFields, List.cons_append, List.nil_append, FieldsUniqueKeys]
  exact ⟨trivial, trivial, trivial, hsnapshot, hmanifest, uniqueKeys_map profiles uniqueKeys_profile,
    uniqueKeys_map profiles uniqueKeys_delta, hrecurrence, hvisibility, hperformance, hbrand, uniqueKeys_textArray _,
    trivial, trivial⟩

end Unique

section Frozen

open Python.Ascii

/-- A receipt with the fields that a profile is read of. -/
def frozenReceipt : Fields := [
  ("schema_version", .str "b2-qa0-receipt/v1"),
  ("gate", .str "PASS"),
  ("case_count", .int 2),
  ("known_bad_count", .int 1),
  ("control_count", .int 1),
  ("terminal_statuses", textArray ["FAIL"]),
  ("receipt_fingerprint", .str "sha256:67fe89ce5b02dace7df0ddecd226223abe9a1f5196ba19dc9e17250fc549ae3d")]

def frozenCommit : PyStr := List.replicate 40 97

def frozenSource (path : PyStr) (receipt : Fields) : Json :=
  .obj [("path", .str path), ("git_commit", .str frozenCommit), ("receipt", .obj receipt)]

/-- A repository with one commit, which has some receipts. -/
def frozenRepository (files : List (PyStr × Fields)) : Repository where
  isDir := true
  objectType commit := .ok (if commit = frozenCommit then some (utf8 (py "commit\n")) else none)
  contents _ path := .ok ((files.lookup path).map fun receipt => utf8 (render (.obj receipt)))

/-- The projection of the receipt as it is kept under some paths. -/
def frozenBuild (paths : List PyStr) : Except PyExc Json :=
  buildDashboardProjection (paths.map fun path => frozenSource path frozenReceipt)
    (paths.map fun path => py "B2_RECEIPT:" ++ path) "2026-01-01T00:00:00Z" "snapshot"
    (some (frozenRepository (paths.map fun path => (path, frozenReceipt))))

/-- One receipt builds a projection, and so does its copy beside it. -/
theorem frozenBuild_evaluated : ([py "path", py "git_commit", py "receipt"].Nodup ∧ (frozenReceipt.map Prod.fst).Nodup) ∧
    (frozenBuild ["results/b2/a"]).isOk = true ∧ (frozenBuild ["results/b2/a", "results/b2/b"]).isOk = true := by
  decide +kernel

theorem uniqueKeys_frozenSource (path : PyStr) : UniqueKeys (frozenSource path frozenReceipt) := by
  obtain ⟨hsource, hreceipt⟩ := frozenBuild_evaluated.1
  refine ⟨hsource, ?_⟩
  simp only [FieldsUniqueKeys, UniqueKeys, true_and, and_true]
  exact ⟨hreceipt, by simp [frozenReceipt, FieldsUniqueKeys, UniqueKeys, ItemsUniqueKeys, textArray]⟩

end Frozen

section Main

variable [PyRuntime] [PyUnicode]

/-- A projection that was built is verified, both against what Git has and against the supplied sources, exactly when
no two of the supplied receipts are of one profile. -/
theorem verify_built_iff {receiptSources : List Json} {declared : List PyStr} {observedAt snapshotId : PyStr}
    {repository own : Repository} {projection : Json} (hunique : ∀ v ∈ receiptSources, UniqueKeys v)
    (h : buildDashboardProjection receiptSources declared observedAt snapshotId (some repository) = .ok projection) :
    (verifyDashboardProjection own projection none (some repository) = .ok projection ∧
      verifyDashboardProjection own projection (some receiptSources) (some repository) = .ok projection) ↔
      (receiptSources.map sourceProfile).Nodup := by
  obtain ⟨observed, sources, profiles, gitCommit, fingerprint, hbuilt, rfl⟩ := built_of h
  rw [hbuilt.distinct_iff hunique]
  constructor
  · rintro ⟨hverify, -⟩
    exact distinct_of_verify hverify
  · intro hdistinct
    obtain ⟨bound, hbound, hperm⟩ := hbuilt.bound
    exact ⟨hbuilt.verified hdistinct, verify_of_built hbuilt hdistinct hperm fun _ _ => hbound⟩

end Main

section Frozen

open Python.Ascii

theorem frozen_builds : ∃ projection, frozenBuild ["results/b2/a"] = .ok projection := by
  have hok := frozenBuild_evaluated.2.1
  cases h : frozenBuild ["results/b2/a"] with
  | ok projection => exact ⟨projection, rfl⟩
  | error e =>
    rw [h] at hok
    cases hok

theorem frozen_distinct : ([frozenSource "results/b2/a" frozenReceipt].map sourceProfile).Nodup := by
  rw [List.map_singleton]
  exact List.nodup_singleton _

/-- Two receipts of one profile give a projection that is never verified. -/
theorem repeated_profile_rejected : ∃ projection, frozenBuild ["results/b2/a", "results/b2/b"] = .ok projection ∧
    ∀ own supplied root, verifyDashboardProjection own projection supplied root ≠ .ok projection := by
  have hok := frozenBuild_evaluated.2.2
  have hrepeated : ¬([py "results/b2/a", "results/b2/b"].map fun path =>
      sourceProfile (frozenSource path frozenReceipt)).Nodup := by
    have hsame : sourceProfile (frozenSource "results/b2/a" frozenReceipt) =
        sourceProfile (frozenSource "results/b2/b" frozenReceipt) := rfl
    simp [hsame]
  cases h : frozenBuild ["results/b2/a", "results/b2/b"] with
  | error e =>
    rw [h] at hok
    cases hok
  | ok projection =>
    refine ⟨projection, rfl, ?_⟩
    intro own supplied root hverify
    obtain ⟨observed, sources, profiles, gitCommit, fingerprint, hbuilt, rfl⟩ := built_of h
    have hunique : ∀ v ∈ [py "results/b2/a", "results/b2/b"].map fun path => frozenSource path frozenReceipt,
        UniqueKeys v := by
      intro v hv
      obtain ⟨path, -, rfl⟩ := List.mem_map.mp hv
      exact uniqueKeys_frozenSource path
    exact hrepeated ((hbuilt.distinct_iff hunique).mpr (distinct_of_verify hverify))

theorem verify_built_iff_frozen : ∃ projection, frozenBuild ["results/b2/a"] = .ok projection ∧
    ((verifyDashboardProjection (frozenRepository []) projection none
        (some (frozenRepository [("results/b2/a", frozenReceipt)])) = .ok projection ∧
      verifyDashboardProjection (frozenRepository []) projection (some [frozenSource "results/b2/a" frozenReceipt])
        (some (frozenRepository [("results/b2/a", frozenReceipt)])) = .ok projection) ↔
      ([frozenSource "results/b2/a" frozenReceipt].map sourceProfile).Nodup) := by
  obtain ⟨projection, h⟩ := frozen_builds
  refine ⟨projection, h, ?_⟩
  apply verify_built_iff ?_ h
  intro v hv
  rw [List.mem_singleton.mp hv]
  exact uniqueKeys_frozenSource _

end Frozen

section Main

variable [PyRuntime] [PyUnicode]

/-- An accepted projection reports, for each declared source, what the checked receipt in Git says, and no value
besides; two of them with the same references and the same time agree. -/
theorem accepted_reports {own : Repository} {document : Json} {receiptSources : Option (List Json)}
    {root : Option Repository} {result : Json} (hunique : UniqueKeys document)
    (h : verifyDashboardProjection own document receiptSources root = .ok result) :
    ∃ fields profiles, document = .obj fields ∧ Reports (root.getD own) fields profiles ∧
      ∀ {fields' receiptSources' root' result'}, UniqueKeys (.obj fields') →
        verifyDashboardProjection own (.obj fields') receiptSources' root' = .ok result' →
        root'.getD own = root.getD own → SameRefs fields fields' → observedAtOf fields = observedAtOf fields' →
        SameRows fields fields' "profiles" ∧ SameRows fields fields' "quality_deltas" := by
  obtain ⟨fields, rfl⟩ : ∃ fields, document = .obj fields := by
    unfold verifyDashboardProjection at h
    simp only [bind_eq_ok_iff, obj_eq_ok_iff] at h
    obtain ⟨fields, rfl, -⟩ := h
    exact ⟨fields, rfl⟩
  obtain ⟨profiles, hreports⟩ := reports_of_verify hunique h
  refine ⟨fields, profiles, rfl, hreports, ?_⟩
  intro fields' receiptSources' root' result' hunique' h' hroot hrefs hobserved
  obtain ⟨profiles', hreports'⟩ := reports_of_verify hunique' h'
  rw [hroot] at hreports'
  have hsub := hreports.subset hreports' hobserved hrefs.1
  have hrefs' : ∀ w ∈ declaredRefs fields', ∃ v ∈ declaredRefs fields, SameJson w v := by
    intro w hw
    obtain ⟨v, hv, hsame⟩ := hrefs.2 w hw
    exact ⟨v, hv, hsame.symm⟩
  have hsup := hreports'.subset hreports hobserved.symm hrefs'
  have hperm : profiles.Perm profiles' := by
    rw [List.perm_ext_iff_of_nodup (List.Nodup.of_map _ hreports.distinct) (List.Nodup.of_map _ hreports'.distinct)]
    exact fun p => ⟨fun hp => hsub hp, fun hp => hsup hp⟩
  obtain ⟨rows, hrows, hshown⟩ := hreports.shown
  obtain ⟨rows', hrows', hshown'⟩ := hreports'.shown
  obtain ⟨deltas, order, hdeltas, horder, hdelta⟩ := hreports.deltas
  obtain ⟨deltas', order', hdeltas', horder', hdelta'⟩ := hreports'.deltas
  constructor
  · exact sameRows_of hrows hrows' hperm hshown hshown'
  · exact sameRows_of hdeltas hdeltas' (horder.trans (hperm.trans horder'.symm)) hdelta hdelta'

end Main

section Frozen

open Python.Ascii

theorem accepted_reports_frozen : ∃ document fields profiles, document = .obj fields ∧
    verifyDashboardProjection (frozenRepository []) document none
      (some (frozenRepository [("results/b2/a", frozenReceipt)])) = .ok document ∧
    Reports (frozenRepository [("results/b2/a", frozenReceipt)]) fields profiles := by
  obtain ⟨projection, h⟩ := frozen_builds
  have hunique : ∀ v ∈ [frozenSource "results/b2/a" frozenReceipt], UniqueKeys v := by
    intro v hv
    rw [List.mem_singleton.mp hv]
    exact uniqueKeys_frozenSource _
  obtain ⟨observed, sources, profiles, gitCommit, fingerprint, hbuilt, rfl⟩ := built_of h
  have hverify : verifyDashboardProjection (frozenRepository []) _ none (some _) = .ok _ :=
    hbuilt.verified ((hbuilt.distinct_iff hunique).mp frozen_distinct)
  obtain ⟨fields, shown, hfields, hreports, -⟩ := accepted_reports (uniqueKeys_projection _ _ _ _ _ _ _) hverify
  exact ⟨_, fields, shown, hfields, hverify, hreports⟩

end Frozen

end EvaluationLab.QA3
