import EvaluationLab.SearchCup.PoolFacts

/-! A published pool is accepted again exactly when the identities it is published under are already in
normal form. -/
namespace EvaluationLab.SearchCup
open Python Effect
open QA0 (Fields)

section RoundTrip

variable [PyRuntime] [PyNormalization]

section Sealing

omit [PyNormalization]

variable {fields : Fields}

omit [PyRuntime] in
theorem nodup_snoc (hkeys : (fields.map Prod.fst).Nodup) {k : PyStr} (hnew : k ∉ fields.map Prod.fst) (v : Json) :
    ((fields ++ [(k, v)]).map Prod.fst).Nodup := by
  rw [List.map_append, List.nodup_append]
  refine ⟨hkeys, by simp, ?_⟩
  rintro a ha b hb rfl
  rw [List.map_singleton, List.mem_singleton] at hb
  rw [hb] at ha
  exact hnew ha

theorem nodup_sealedFields (hkeys : (fields.map Prod.fst).Nodup) : ((sealedFields fields).map Prod.fst).Nodup := by
  have hsorted := keys_unsealed (nodup_sortedFields hkeys)
  have hnew : fingerprintKey ∉ (unsealed (sortedFields fields)).map Prod.fst := by
    rw [← lookup_isSome_iff, lookup_unsealed, if_pos rfl]
    simp
  exact nodup_snoc hsorted hnew _

/-- A sealed document is the document and its fingerprint. -/
theorem sameJson_sealedFields (hkeys : (fields.map Prod.fst).Nodup) (hnew : fingerprintKey ∉ fields.map Prod.fst) :
    SameJson (.obj (sealedFields fields)) (.obj (fields ++ [(fingerprintKey, .str (sealDigest fields))])) := by
  rw [sameJson_obj_iff (nodup_sealedFields hkeys) (nodup_snoc hkeys hnew _)]
  intro k
  by_cases hk : k = fingerprintKey
  · have hnone : fields.lookup fingerprintKey = none := by
      rw [← Option.not_isSome_iff_eq_none, lookup_isSome_iff]
      exact hnew
    subst hk
    rw [lookup_of_dictGet (dictGet_sealedFields fields) Json.noConfusion, List.lookup_append, hnone, Option.none_or]
    simp
  · have hlast : ([(fingerprintKey, Json.str (sealDigest fields))] : Fields).lookup k = none := by
      rw [List.lookup_cons, beq_eq_false_iff_ne.mpr hk]
      rfl
    rw [lookup_sealedFields hkeys hk, List.lookup_append, hlast, Option.or_none, Option.map_map]
    congr 1
    exact funext fun v => sortKeys_sortKeys v

theorem get_sealedFields (hkeys : (fields.map Prod.fst).Nodup) {k : PyStr} (hk : k ≠ fingerprintKey) :
    dictGet (sealedFields fields) k = sortKeys (dictGet fields k) := by
  rw [dictGet, dictGet, lookup_sealedFields hkeys hk]
  cases fields.lookup k <;> rfl

end Sealing

section Validation

variable {pool policy c : Json}

theorem validateCandidate_ok_iff : validateCandidate policy c = .ok () ↔
    candidateId policy (get c "fields") = .ok (asText (get c "candidate_id")) ∧
      pyEq (normalizedFields policy (get c "fields")) (get c "fields") = true := by
  unfold validateCandidate
  simp only [bind_eq_ok_iff, check_eq_ok_iff]
  constructor
  · rintro ⟨identity, hidentity, hequal, hfields⟩
    exact ⟨by rw [hequal, hidentity], hfields⟩
  · rintro ⟨hidentity, hfields⟩
    exact ⟨_, hidentity, rfl, hfields⟩

theorem validatePoolBody_ok_iff : validatePoolBody pool = .ok () ↔ ∃ policy, required pool "policy" = .ok policy ∧
    Fits poolPolicySchema policy ∧ Fits (poolSchema (visibleFields policy)) pool ∧
    ((∀ k ∈ identityFields policy, k ∈ visibleFields policy) ∧ ∀ k ∈ visibleFields policy, tellsProvenance k = false) ∧
    ((asItems (get pool "candidates")).map fun c => asText (get c "candidate_id")) =
      sortedSet ((asItems (get pool "candidates")).map fun c => asText (get c "candidate_id")) ∧
    ∀ c ∈ asItems (get pool "candidates"), validateCandidate policy c = .ok () := by
  unfold validatePoolBody
  simp only [bind_eq_ok_iff, exists_unit_iff, validateContract_ok_iff, check_eq_ok_iff, forM_eq_ok_iff]

end Validation

section Policy

variable {policy : Json}

omit [PyRuntime] [PyNormalization] in
theorem asTexts_sortKeys (v : Json) : asTexts (sortKeys v) = asTexts v := by
  cases v with
  | arr items =>
    rw [sortKeys, sortItems_eq_map, asTexts, asTexts, List.map_map]
    exact List.map_congr_left fun v _ => asText_sortKeys v
  | _ => rfl

omit [PyRuntime] [PyNormalization] in
theorem identityFields_sortKeys (h : UniqueKeys policy) : identityFields (sortKeys policy) = identityFields policy := by
  rw [identityFields, get_sortKeys h, asTexts_sortKeys, identityFields]

omit [PyRuntime] [PyNormalization] in
theorem visibleFields_sortKeys (h : UniqueKeys policy) : visibleFields (sortKeys policy) = visibleFields policy := by
  rw [visibleFields, get_sortKeys h, asTexts_sortKeys, visibleFields]

end Policy

section Fields

variable {policy : Json} {visible : List PyStr}

omit [PyRuntime] [PyNormalization] in
theorem fits_fieldsSchema_iff {v : Json} : Fits (fieldsSchema visible) v ↔ ∃ fields : Fields, v = .obj fields ∧
    (∀ k, k ∈ fields.map Prod.fst ↔ k ∈ visible) ∧ ∀ f ∈ fields, Fits textSchema f.2 := by
  have hnames : (visible.map fun k => (k, textSchema)).map Prod.fst = visible := by
    rw [List.map_map]
    exact List.map_id _
  have hproperty : ∀ k w, FitsProperty (visible.map fun k => (k, textSchema)) k w ↔ k ∈ visible ∧ Fits textSchema w := by
    intro k w
    induction visible with
    | nil => simp [FitsProperty]
    | cons v vs ih =>
      have hnames' : (vs.map fun k => (k, textSchema)).map Prod.fst = vs := by
        rw [List.map_map]
        exact List.map_id _
      rw [List.map_cons, FitsProperty]
      by_cases hk : v = k
      · simp [hk]
      · rw [if_neg hk, ih hnames', List.mem_cons]
        simp [Ne.symm hk]
  rw [fieldsSchema, obj, Fits, hnames]
  constructor
  · rintro ⟨fields, rfl, hrequired, hallowed, hfields⟩
    refine ⟨fields, rfl, fun k => ⟨hallowed k, fun hk => hrequired k ?_⟩, fun f hf => ((hproperty _ _).mp (hfields f hf)).2⟩
    exact List.mem_filter.mpr ⟨hk, by simp⟩
  · rintro ⟨fields, rfl, hkeys, hfields⟩
    refine ⟨fields, rfl, fun k hk => (hkeys k).mpr (List.mem_filter.mp hk).1, fun k => (hkeys k).mp, fun f hf => ?_⟩
    exact (hproperty _ _).mpr ⟨(hkeys _).mp (List.mem_map_of_mem hf), hfields f hf⟩

omit [PyRuntime] in
/-- A normal text is a text. -/
theorem fits_text_normal {v : Json} (h : Fits textSchema v) : Fits textSchema (.str (normal (asText v))) := by
  rw [textSchema, Fits] at h
  obtain ⟨s, rfl, -, hs⟩ := h
  have hsolid : ∃ c ∈ s, isSpace c = false := by simpa using hs
  obtain ⟨c, hc, hspace⟩ := exists_solid_normal hsolid
  rw [textSchema, Fits]
  refine ⟨_, rfl, List.length_pos_of_mem hc, ?_⟩
  rw [List.any_eq_true]
  exact ⟨c, hc, by rw [hspace]; rfl⟩

omit [PyRuntime] in
theorem fits_normalizedFields {fields : Json} (h : Fits (fieldsSchema visible) fields) :
    Fits (fieldsSchema visible) (normalizedFields policy fields) := by
  rw [fits_fieldsSchema_iff] at h ⊢
  obtain ⟨fs, rfl, hkeys, hfields⟩ := h
  refine ⟨_, rfl, ?_, fun f hf => ?_⟩
  · rw [List.map_map]
    exact hkeys
  · obtain ⟨g, hg, rfl⟩ := List.mem_map.mp hf
    dsimp only
    split_ifs
    · exact fits_text_normal (hfields g hg)
    · exact hfields g hg

omit [PyRuntime] in
theorem get_normalizedFields {fields : Json} (h : Fits (fieldsSchema visible) fields) {k : PyStr} (hk : k ∈ visible)
    (hidentity : k ∈ identityFields policy) :
    get (normalizedFields policy fields) k = .str (normal (asText (get fields k))) := by
  obtain ⟨fs, rfl, hkeys, -⟩ := fits_fieldsSchema_iff.mp h
  have hlookup := lookup_of_key ((hkeys k).mpr hk)
  rw [normalizedFields, get, dictGet,
    lookup_mapValues (fun k v => if k ∈ identityFields policy then Json.str (normal (asText v)) else v), hlookup,
    Option.map_some, if_pos hidentity]
  rfl

end Fields

section Shape

variable {policy : Json} {group : List Json} {visible : List PyStr}

omit [PyRuntime] [PyNormalization] in
theorem texts_of_ref {e : Json} (h : Fits refSchema e) : ∃ fields : Fields, e = .obj fields ∧ ∀ f ∈ fields, ∃ t, f.2 = .str t := by
  rw [refSchema, obj, Fits] at h
  obtain ⟨fields, rfl, -, -, hfields⟩ := h
  refine ⟨fields, rfl, fun f hf => ?_⟩
  have hproperty := hfields f hf
  simp only [FitsProperty] at hproperty
  split_ifs at hproperty
  · exact fits_text hproperty
  · exact fits_text hproperty
  · obtain ⟨s, hs, -⟩ := fits_hash hproperty
    exact ⟨s, hs⟩

omit [PyNormalization] in
theorem render_eq_of_pyEq_ref {v w : Json} (hv : UniqueKeys v) (hw : UniqueKeys w) (href : Fits refSchema w)
    (h : pyEq v w = true) : render v = render w := by
  obtain ⟨fields, rfl, htexts⟩ := texts_of_ref href
  exact render_of_sameJson (sameJson_of_pyEq_texts hv hw.nodup htexts h)

theorem Admitted.evidence {item : Json} (h : Admitted policy item) : Fits (arr refSchema 1) (get item "evidence") :=
  fits_get h.shape rfl

omit [PyNormalization] in
/-- The evidence of a group is a list of distinct references. -/
theorem fits_evidenceOf (hplain : ∀ item ∈ group, Plain item) (hne : group ≠ [])
    (h : ∀ item ∈ group, Fits (arr refSchema 1) (get item "evidence")) :
    Fits (arr refSchema 1) (.arr (evidenceOf group)) := by
  have hrefs : ∀ e ∈ allEvidence group, Fits refSchema e := by
    intro e he
    obtain ⟨item, hitem, hmem⟩ := List.mem_flatMap.mp he
    obtain ⟨values, hvalues, -, -, hall⟩ := (fits_arr _ _ _).mp (h item hitem)
    rw [hvalues] at hmem
    exact hall e hmem
  have hkeys : ∀ e ∈ allEvidence group, UniqueKeys e := fun e he => (plain_allEvidence hplain e he).legible.uniqueKeys
  rw [fits_arr]
  refine ⟨_, rfl, ?_, ?_, ?_⟩
  · obtain ⟨item, rest, rfl⟩ := List.exists_cons_of_ne_nil hne
    obtain ⟨values, hvalues, hlength, -, -⟩ := (fits_arr _ _ _).mp (h item List.mem_cons_self)
    obtain ⟨e, values, rfl⟩ := List.exists_cons_of_length_pos hlength
    have hmem : e ∈ allEvidence (item :: rest) := by
      refine List.mem_flatMap.mpr ⟨item, List.mem_cons_self, ?_⟩
      rw [hvalues]
      exact List.mem_cons_self
    obtain ⟨d, -, hfound, -⟩ := find_text (List.mem_map_of_mem (f := render) hmem)
    have hkept : d ∈ evidenceOf (item :: rest) :=
      List.mem_filterMap.mpr ⟨_, mem_sortedSet.mpr (List.mem_map_of_mem hmem), hfound⟩
    exact List.length_pos_of_mem hkept
  · unfold evidenceOf
    dsimp only
    rw [← allEvidence, List.pairwise_filterMap]
    apply (nodup_sortedSet _).imp
    intro t t' hne' e he e' he'
    obtain ⟨hmem, htext⟩ : e ∈ allEvidence group ∧ render e = t := by
      have hfound := List.find?_some he
      rw [decide_eq_true_eq] at hfound
      exact ⟨List.mem_reverse.mp (List.mem_of_find?_eq_some he), hfound⟩
    obtain ⟨hmem', htext'⟩ : e' ∈ allEvidence group ∧ render e' = t' := by
      have hfound := List.find?_some he'
      rw [decide_eq_true_eq] at hfound
      exact ⟨List.mem_reverse.mp (List.mem_of_find?_eq_some he'), hfound⟩
    by_contra hequal
    rw [Bool.not_eq_false] at hequal
    have hrender := render_eq_of_pyEq_ref (hkeys e' hmem') (hkeys e hmem) (hrefs e hmem) hequal
    rw [htext, htext'] at hrender
    exact hne' hrender.symm
  · intro e he
    obtain ⟨item, hitem, hmem⟩ := mem_evidenceOf he
    exact hrefs e (List.mem_flatMap.mpr ⟨item, hitem, hmem⟩)

/-- An identity is a text. -/
theorem fits_candidateId {policy fields : Json} {id : PyStr} (h : candidateId policy fields = .ok id) :
    Fits textSchema (.str id) := by
  unfold candidateId at h
  simp only [bind_eq_ok_iff, pure_eq_ok_iff] at h
  obtain ⟨digest, -, rfl⟩ := h
  rw [textSchema, Fits]
  have hsome : (py "candidate-").any (fun c => !isSpace c) = true := by decide +kernel
  refine ⟨_, rfl, ?_, ?_⟩
  · rw [List.length_append]
    exact le_trans (by decide +kernel) (Nat.le_add_right _ _)
  · rw [List.any_append, hsome, Bool.true_or]

omit [PyRuntime] [PyNormalization] in
/-- Objects with different texts under a key are told apart. -/
theorem pairwise_pyEq_of_ids {α : Type} {f : α → Fields} (id : α → PyStr) (key : PyStr) {xs : List α}
    (hkeys : ∀ x ∈ xs, ((f x).map Prod.fst).Nodup) (hid : ∀ x, dictGet (f x) key = .str (id x))
    (h : xs.Pairwise fun x y => id x ≠ id y) :
    (xs.map fun x => Json.obj (f x)).Pairwise fun v w => pyEq w v = false := by
  rw [List.pairwise_map]
  refine h.imp_of_mem fun {x y} _ hy hne => ?_
  by_contra hequal
  rw [Bool.not_eq_false] at hequal
  have hsame := dictGet_str_of_pyEq (hkeys y hy) hequal (hid x)
  rw [hid y, Json.str.injEq] at hsame
  exact hne hsame.symm

end Shape

section Published

variable {policy : Json} {items : List Json}

theorem ascending_itemGroups (policy : Json) (items : List Json) :
    (itemGroups policy items).Pairwise fun g g' => strLt g.1 g'.1 = true := by
  have hkeys := ascending_sortedSet (items.map (identityOf policy))
  rwa [← keys_groupsOf, List.pairwise_map] at hkeys

/-- A group of admitted items under their identity. -/
structure AdmittedGroup (policy : Json) (g : PyStr × List Json) : Prop where
  nonempty : g.2 ≠ []
  plain : ∀ item ∈ g.2, Plain item
  admitted : ∀ item ∈ g.2, Admitted policy item
  identity : ∀ item ∈ g.2, candidateId policy (get item "fields") = .ok g.1

theorem admittedGroup (hitems : ∀ item ∈ items, Admitted policy item) (hkeys : ∀ item ∈ items, UniqueKeys item) :
    ∀ g ∈ itemGroups policy items, AdmittedGroup policy g := by
  intro g hg
  obtain ⟨-, hmembers⟩ := mem_itemGroups.mp hg
  have hmem : ∀ item ∈ g.2, item ∈ items ∧ identityOf policy item = g.1 := by
    intro item hitem
    rw [hmembers] at hitem
    obtain ⟨hitem, hid⟩ := List.mem_filter.mp hitem
    exact ⟨hitem, of_decide_eq_true hid⟩
  refine ⟨groupsOf_ne_nil hg, fun item hitem => ?_, fun item hitem => hitems item (hmem item hitem).1, fun item hitem => ?_⟩
  · obtain ⟨hitem, -⟩ := hmem item hitem
    exact (hitems item hitem).plain (hkeys item hitem)
  · obtain ⟨hitem, hid⟩ := hmem item hitem
    rw [(hitems item hitem).identityOf_eq, hid]

/-- The fields a group is published with are those of its first item. -/
theorem AdmittedGroup.fields {g : PyStr × List Json} (h : AdmittedGroup policy g) : ∃ item ∈ g.2,
    get (candidate policy g) "fields" = normalizedFields policy (get item "fields") := by
  obtain ⟨id, group⟩ := g
  obtain ⟨item, rest, rfl⟩ := List.exists_cons_of_ne_nil h.nonempty
  exact ⟨item, List.mem_cons_self, rfl⟩

theorem AdmittedGroup.fits_evidence {g : PyStr × List Json} (h : AdmittedGroup policy g) :
    Fits (arr refSchema 1) (.arr (evidenceOf g.2)) :=
  fits_evidenceOf h.plain h.nonempty fun item hitem => (h.admitted item hitem).evidence

theorem AdmittedGroup.fits_id {g : PyStr × List Json} (h : AdmittedGroup policy g) : Fits textSchema (.str g.1) := by
  obtain ⟨item, rest, hgroup⟩ := List.exists_cons_of_ne_nil h.nonempty
  exact fits_candidateId (h.identity item (by rw [hgroup]; exact List.mem_cons_self))

theorem AdmittedGroup.fits_candidate {g : PyStr × List Json} (h : AdmittedGroup policy g) :
    Fits (candidateSchema (visibleFields policy)) (candidate policy g) := by
  have hkeys : ([py "candidate_id", py "fields", py "evidence"] : List PyStr).Nodup := by decide +kernel
  obtain ⟨item, hitem, hfields⟩ := h.fields
  have hshape : Fits (fieldsSchema (visibleFields policy)) (get (candidate policy g) "fields") := by
    rw [hfields]
    exact fits_normalizedFields (fits_get (h.admitted item hitem).shape rfl)
  exact fits_obj hkeys (.cons ⟨rfl, h.fits_id⟩ (.cons ⟨rfl, hshape⟩ (.cons ⟨rfl, h.fits_evidence⟩ .nil)))

theorem AdmittedGroup.fits_collision {g : PyStr × List Json} (h : AdmittedGroup policy g) :
    Fits collisionSchema (collision g) := by
  have hkeys : ([py "candidate_id", py "terminal_status", py "evidence"] : List PyStr).Nodup := by decide +kernel
  have hstatus : Fits (constText "UNKNOWN_IDENTITY") (.str "UNKNOWN_IDENTITY") := by
    rw [constText, Fits]
    exact ⟨rfl, (pyEq_str _ _).mpr rfl⟩
  exact fits_obj hkeys (.cons ⟨rfl, h.fits_id⟩ (.cons ⟨rfl, hstatus⟩ (.cons ⟨rfl, h.fits_evidence⟩ .nil)))

example : fingerprintKey ∉ ([py "candidate_id", py "terminal_status", py "evidence"] : List PyStr) := by decide +kernel

/-- The document of the published pool has the shape of a pool. -/
theorem fits_publicFields (hpolicy : PoolPolicy policy) (hitems : ∀ item ∈ items, Admitted policy item)
    (hkeys : ∀ item ∈ items, UniqueKeys item) {digest : PyStr} (hdigest : isHash digest = true) :
    Fits (poolSchema (visibleFields policy))
      (.obj (publicFields policy (itemGroups policy items) ++ [(fingerprintKey, .str digest)])) := by
  have hnames : ([py "schema_id", py "policy", py "candidates", py "collisions", py "canonical_fingerprint"] : List PyStr).Nodup := by
    decide +kernel
  have hgroups := admittedGroup hitems hkeys
  have hdistinct : ∀ p : PyStr × List Json → Bool,
      ((itemGroups policy items).filter p).Pairwise fun g g' => g.1 ≠ g'.1 := by
    intro p
    exact ((ascending_itemGroups policy items).imp fun h => ne_of_strLt h).filter p
  have hschema : Fits (constText "search-candidate-pool/v2") (.str "search-candidate-pool/v2") := by
    rw [constText, Fits]
    exact ⟨rfl, (pyEq_str _ _).mpr rfl⟩
  have hcandidates : Fits (arr (candidateSchema (visibleFields policy)) 0)
      (.arr (((itemGroups policy items).filter fun g => !collides policy g.2).map (candidate policy))) := by
    rw [fits_arr]
    refine ⟨_, rfl, Nat.zero_le _, ?_, ?_⟩
    · refine pairwise_pyEq_of_ids Prod.fst (py "candidate_id") ?_ ?_ (hdistinct _)
      · intro g hg
        exact (plain_candidate policy (hgroups g (List.mem_of_mem_filter hg)).plain).legible.nodup
      · exact fun g => rfl
    · rw [List.forall_mem_map]
      exact fun g hg => (hgroups g (List.mem_of_mem_filter hg)).fits_candidate
  have hcollisions : Fits (arr collisionSchema 0)
      (.arr (((itemGroups policy items).filter fun g => collides policy g.2).map collision)) := by
    rw [fits_arr]
    refine ⟨_, rfl, Nat.zero_le _, ?_, ?_⟩
    · refine pairwise_pyEq_of_ids Prod.fst (py "candidate_id") ?_ ?_ (hdistinct _)
      · intro g hg
        exact (plain_collision (hgroups g (List.mem_of_mem_filter hg)).plain).legible.nodup
      · exact fun g => rfl
    · rw [List.forall_mem_map]
      exact fun g hg => (hgroups g (List.mem_of_mem_filter hg)).fits_collision
  have hhash : Fits hashSchema (.str digest) := by
    rw [hashSchema, Fits]
    exact ⟨_, rfl, Nat.zero_le _, hdigest⟩
  exact fits_obj hnames (.cons ⟨rfl, hschema⟩ (.cons ⟨rfl, hpolicy.shape⟩ (.cons ⟨rfl, hcandidates⟩
    (.cons ⟨rfl, hcollisions⟩ (.cons ⟨rfl, hhash⟩ .nil)))))

omit [PyRuntime] [PyNormalization] in
theorem worded_poolSchema (visible : List PyStr) : Worded (poolSchema visible) :=
  ⟨⟨_, rfl⟩, worded_poolPolicySchema, ⟨trivial, worded_fieldsSchema visible, worded_refSchema, trivial⟩,
    ⟨trivial, ⟨_, rfl⟩, worded_refSchema, trivial⟩, trivial, trivial⟩

end Published

section Settled

variable {policy : Json} {items : List Json}

/-- The identity of an item is not changed by normalizing it again. -/
def Settled (policy item : Json) : Prop :=
  ∀ k ∈ identityFields policy, normal (normal (asText (get (get item "fields") k))) = normal (asText (get (get item "fields") k))

omit [PyRuntime] in
/-- Published fields of a settled item are normal. -/
theorem normalizedFields_settled {visible : List PyStr} {fields : Json} (hfields : Fits (fieldsSchema visible) fields)
    (hkeys : UniqueKeys fields) (hsettled : ∀ k ∈ identityFields policy,
      normal (normal (asText (get fields k))) = normal (asText (get fields k))) :
    normalizedFields policy (sortKeys (normalizedFields policy fields)) = sortKeys (normalizedFields policy fields) := by
  obtain ⟨fs, rfl, -, -⟩ := fits_fieldsSchema_iff.mp hfields
  rw [normalizedFields, sortKeys_obj, normalizedFields, Json.obj.injEq]
  conv_rhs => rw [← List.map_id (sortedFields _)]
  apply List.map_congr_left
  intro f hf
  obtain ⟨_, hmapped, rfl⟩ := mem_sortedFields.mp hf
  obtain ⟨g, hg, rfl⟩ := List.mem_map.mp hmapped
  dsimp only [id]
  split_ifs with hk
  · have hget : get (.obj fs) g.1 = g.2 := dictGet_of_lookup (lookup_of_mem hkeys.nodup hg)
    have hnormal := hsettled g.1 hk
    rw [hget] at hnormal
    exact congrArg (fun t => (g.1, Json.str t)) hnormal
  · rfl

/-- The identity of published fields is the one they were published under. -/
theorem candidateId_settled {visible : List PyStr} {fields : Json} (hpolicyKeys : UniqueKeys policy)
    (hvisible : ∀ k ∈ identityFields policy, k ∈ visible) (hfields : Fits (fieldsSchema visible) fields)
    (hkeys : UniqueKeys (normalizedFields policy fields)) (hsettled : ∀ k ∈ identityFields policy,
      normal (normal (asText (get fields k))) = normal (asText (get fields k))) {id : PyStr}
    (hid : candidateId policy fields = .ok id) :
    candidateId (sortKeys policy) (sortKeys (normalizedFields policy fields)) = .ok id := by
  have hkey : candidateKey (sortKeys policy) (sortKeys (normalizedFields policy fields)) = candidateKey policy fields := by
    rw [candidateKey, candidateKey, identityFields_sortKeys hpolicyKeys, Json.obj.injEq]
    apply List.map_congr_left
    intro k hk
    rw [get_sortKeys hkeys, asText_sortKeys, get_normalizedFields hfields (hvisible k hk) hk, asText, hsettled k hk]
  have hsame : SameJson (.obj [(py "key", candidateKey policy fields), (py "policy", policy)])
      (.obj [(py "key", candidateKey policy fields), (py "policy", sortKeys policy)]) := by
    apply sameJson_of_sortFields
    simp only [sortFields, sortKeys_sortKeys]
  unfold candidateId at hid ⊢
  simp only [bind_eq_ok_iff, pure_eq_ok_iff] at hid ⊢
  obtain ⟨digest, hdigest, rfl⟩ := hid
  exact ⟨digest, by rw [hkey]; exact fingerprint_of_sameJson hsame hdigest, rfl⟩

omit [PyRuntime] in
/-- Fields that pass for normal come from settled ones. -/
theorem settled_of_pyEq {visible : List PyStr} {fields : Json} (hpolicyKeys : UniqueKeys policy)
    (hfields : Fits (fieldsSchema visible) fields) (hkeys : UniqueKeys (normalizedFields policy fields))
    (hequal : pyEq (normalizedFields (sortKeys policy) (sortKeys (normalizedFields policy fields)))
      (sortKeys (normalizedFields policy fields)) = true) {k : PyStr} (hk : k ∈ identityFields policy) (hvisible : k ∈ visible) :
    normal (normal (asText (get fields k))) = normal (asText (get fields k)) := by
  have hshape : Fits (fieldsSchema visible) (normalizedFields policy fields) := fits_normalizedFields hfields
  have hsorted : Fits (fieldsSchema visible) (sortKeys (normalizedFields policy fields)) :=
    (fits_sortKeys (worded_fieldsSchema visible).sorted hkeys).mpr hshape
  have hvalue : get (sortKeys (normalizedFields policy fields)) k = .str (normal (asText (get fields k))) := by
    rw [get_sortKeys hkeys, get_normalizedFields hfields hvisible hk]
    rfl
  have hagain : get (normalizedFields (sortKeys policy) (sortKeys (normalizedFields policy fields))) k =
      .str (normal (normal (asText (get fields k)))) := by
    rw [get_normalizedFields hsorted hvisible (by rw [identityFields_sortKeys hpolicyKeys]; exact hk), hvalue, asText]
  obtain ⟨fs, hfs, -⟩ := fits_fieldsSchema_iff.mp hsorted
  have hunique : UniqueKeys (sortKeys (normalizedFields policy fields)) := uniqueKeys_sortKeys hkeys
  rw [hfs] at hequal hvalue hagain hunique
  rw [normalizedFields] at hequal hagain
  have hnodup : ((fs.map fun f => (f.1, if f.1 ∈ identityFields (sortKeys policy) then .str (normal (asText f.2))
      else f.2)).map Prod.fst).Nodup := by
    rw [List.map_map]
    exact hunique.nodup
  have hboth := dictGet_str_of_pyEq hnodup hequal hvalue
  rw [get, hboth, Json.str.injEq] at hagain
  exact hagain.symm

end Settled

section Accepted

variable {policy : Json} {items : List Json}

/-- The group of an item is published as a candidate. -/
def Undisputed (policy : Json) (items : List Json) (item : Json) : Prop :=
  collides policy (identified policy items (identityOf policy item)) = false

/-- The items of a candidate have the same normal fields. -/
theorem settled_congr {group : List Json} (hpolicy : PoolPolicy policy) (hplain : ∀ item ∈ group, Plain item)
    (hadmitted : ∀ item ∈ group, Admitted policy item) (hcollides : collides policy group = false) {x y : Json}
    (hx : x ∈ group) (hy : y ∈ group) (h : Settled policy x) : Settled policy y := by
  intro k hk
  have hplainX := plain_normalizedFields policy (Plain.get (hplain x hx) "fields")
  have hplainY := plain_normalizedFields policy (Plain.get (hplain y hy) "fields")
  have hrender : render (normalizedFields policy (get x "fields")) = render (normalizedFields policy (get y "fields")) := by
    by_contra hne
    rw [collides_iff.mpr ⟨x, hx, y, hy, .inr hne⟩] at hcollides
    cases hcollides
  have hsame := sameJson_get hplainX.legible.uniqueKeys hplainY.legible.uniqueKeys
    (sameJson_of_render_eq hplainX hplainY hrender) k
  have hvisible := hpolicy.visible k hk
  rw [get_normalizedFields (fits_get (hadmitted x hx).shape rfl) hvisible hk,
    get_normalizedFields (fits_get (hadmitted y hy).shape rfl) hvisible hk] at hsame
  have hnormal : normal (asText (get (get x "fields") k)) = normal (asText (get (get y "fields") k)) := Json.str.inj hsame
  rw [← hnormal]
  exact h k hk

/-- A published candidate passes exactly when its items are settled. -/
theorem validateCandidate_published_iff (hpolicy : PoolPolicy policy) (hpolicyKeys : UniqueKeys policy)
    {g : PyStr × List Json} (hg : AdmittedGroup policy g) (hcollides : collides policy g.2 = false) :
    validateCandidate (sortKeys policy) (sortKeys (candidate policy g)) = .ok () ↔ ∀ item ∈ g.2, Settled policy item := by
  have hplain := plain_candidate policy hg.plain
  obtain ⟨item, hitem, hfields⟩ := hg.fields
  have hid : get (candidate policy g) "candidate_id" = .str g.1 := rfl
  have hshape : Fits (fieldsSchema (visibleFields policy)) (get item "fields") := fits_get (hg.admitted item hitem).shape rfl
  have hitemKeys := UniqueKeys.get (hg.plain item hitem).legible.uniqueKeys "fields"
  have hkeys : UniqueKeys (normalizedFields policy (get item "fields")) :=
    (plain_normalizedFields policy (Plain.get (hg.plain item hitem) _)).legible.uniqueKeys
  have hpublished : Fits (fieldsSchema (visibleFields policy)) (sortKeys (normalizedFields policy (get item "fields"))) :=
    (fits_sortKeys (worded_fieldsSchema _).sorted hkeys).mpr (fits_normalizedFields hshape)
  rw [validateCandidate_ok_iff, get_sortKeys hplain.legible.uniqueKeys, get_sortKeys hplain.legible.uniqueKeys, hfields, hid]
  constructor
  · rintro ⟨-, hequal⟩ other hother
    refine settled_congr hpolicy hg.plain hg.admitted hcollides hitem hother fun k hk => ?_
    exact settled_of_pyEq hpolicyKeys hshape hkeys hequal hk (hpolicy.visible k hk)
  · intro hall
    have hsettled := hall item hitem
    have hagain : normalizedFields (sortKeys policy) (sortKeys (normalizedFields policy (get item "fields"))) =
        sortKeys (normalizedFields policy (get item "fields")) := by
      have hsame : ∀ v, normalizedFields (sortKeys policy) v = normalizedFields policy v := by
        intro v
        cases v <;> simp only [normalizedFields, identityFields_sortKeys hpolicyKeys]
      rw [hsame, normalizedFields_settled hshape hitemKeys hsettled]
    refine ⟨candidateId_settled hpolicyKeys hpolicy.visible hshape hkeys hsettled (hg.identity item hitem), ?_⟩
    obtain ⟨fs, hfs, -, htexts⟩ := fits_fieldsSchema_iff.mp hpublished
    have hunique : UniqueKeys (sortKeys (normalizedFields policy (get item "fields"))) := uniqueKeys_sortKeys hkeys
    rw [hagain]
    rw [hfs] at hunique ⊢
    exact pyEq_texts_self hunique.nodup fun f hf => fits_text (htexts f hf)

example : ([py "candidates", py "collisions", fingerprintKey, py "policy", py "schema_id"] : List PyStr).Nodup := by
  decide +kernel

/-- The published pool of a list of items. -/
def publishedFields (policy : Json) (items : List Json) : Fields := sealedFields (publicFields policy (itemGroups policy items))

/-- The groups that are published as candidates. -/
def undisputedGroups (policy : Json) (items : List Json) : List (PyStr × List Json) :=
  (itemGroups policy items).filter fun g => !collides policy g.2

omit [PyNormalization] in
theorem nodup_publicFields [PyNormalization] (policy : Json) (groups : List (PyStr × List Json)) :
    ((publicFields policy groups).map Prod.fst).Nodup := by
  have hnames : ([py "schema_id", py "policy", py "candidates", py "collisions"] : List PyStr).Nodup := by decide +kernel
  exact hnames

theorem fingerprintKey_notMem_publicFields (policy : Json) (groups : List (PyStr × List Json)) :
    fingerprintKey ∉ (publicFields policy groups).map Prod.fst := by
  have hnames : fingerprintKey ∉ ([py "schema_id", py "policy", py "candidates", py "collisions"] : List PyStr) := by
    decide +kernel
  exact hnames

theorem policy_publishedFields (policy : Json) (items : List Json) :
    (publishedFields policy items).lookup (py "policy") = some (sortKeys policy) := by
  have hpolicy : (publicFields policy (itemGroups policy items)).lookup (py "policy") = some policy := rfl
  rw [publishedFields, lookup_sealedFields (nodup_publicFields _ _) (by decide +kernel), hpolicy, Option.map_some]

example : fingerprintKey ≠ py "candidates" := by decide +kernel

theorem candidates_publishedFields (policy : Json) (items : List Json) :
    asItems (dictGet (publishedFields policy items) "candidates") =
      (undisputedGroups policy items).map fun g => sortKeys (candidate policy g) := by
  rw [publishedFields, get_sealedFields (nodup_publicFields _ _) (by decide +kernel), asItems_sortKeys]
  exact List.map_map

/-- The identities of the candidates. -/
theorem ids_publishedFields (hitems : ∀ item ∈ items, Plain item) :
    ((asItems (dictGet (publishedFields policy items) "candidates")).map fun c => asText (get c "candidate_id")) =
      (undisputedGroups policy items).map Prod.fst := by
  rw [candidates_publishedFields, List.map_map]
  apply List.map_congr_left
  intro g hg
  have hplain := plain_candidate policy (plain_itemGroups policy hitems g (List.mem_of_mem_filter hg))
  simp only [Function.comp, get_sortKeys hplain.legible.uniqueKeys, asText_sortKeys]
  rfl

/-- A published pool is accepted exactly when its candidates are. -/
theorem validatePool_published_iff (hpolicy : PoolPolicy policy) (hpolicyKeys : UniqueKeys policy)
    (hitems : ∀ item ∈ items, Admitted policy item) (hkeys : ∀ item ∈ items, UniqueKeys item)
    (hseal : Sealable (publicFields policy (itemGroups policy items))) :
    validatePool (.obj (publishedFields policy items)) = .ok () ↔
      ∀ g ∈ undisputedGroups policy items, validateCandidate (sortKeys policy) (sortKeys (candidate policy g)) = .ok () := by
  have hplain : ∀ item ∈ items, Plain item := fun item hitem => (hitems item hitem).plain (hkeys item hitem)
  have hpublic := plain_publicFields (hpolicy.plain hpolicyKeys) (plain_itemGroups policy hplain)
  obtain ⟨hsealed, hsealedLegible⟩ := sealed_of_seal hpublic.legible ((sealDocument_eq_ok_iff hpublic.legible).mpr ⟨hseal, rfl⟩)
  have hbody := fits_publicFields hpolicy hitems hkeys
    (isHash_of_isHex64 (isHex64_textDigest (render (.obj (unsealed (publicFields policy (itemGroups policy items)))))))
  have hbodyKeys : UniqueKeys (.obj (publicFields policy (itemGroups policy items) ++
      [(fingerprintKey, .str (sealDigest (publicFields policy (itemGroups policy items))))])) := by
    apply Legible.uniqueKeys
    apply Plain.legible
    rw [plain_obj_iff] at hpublic ⊢
    refine ⟨nodup_snoc hpublic.1 (fingerprintKey_notMem_publicFields _ _) _, fun f hf => ?_⟩
    rcases List.mem_append.mp hf with hf | hf
    · exact hpublic.2 f hf
    · rw [List.mem_singleton.mp hf]
      exact ⟨trivial, rfl⟩
  have hshape := (fits_of_sameJson (worded_poolSchema _).sorted hsealedLegible.uniqueKeys hbodyKeys
    (sameJson_sealedFields (nodup_publicFields _ _) (fingerprintKey_notMem_publicFields _ _))).mpr hbody
  have hascending : ((undisputedGroups policy items).map Prod.fst).Pairwise fun s t => strLt s t = true := by
    rw [List.pairwise_map]
    exact (ascending_itemGroups policy items).filter _
  have hrequired : required (.obj (publishedFields policy items)) "policy" = .ok (sortKeys policy) := by
    rw [required, policy_publishedFields]
  unfold validatePool
  simp only [bind_eq_ok_iff, exists_unit_iff, reshaping_eq_ok_iff, validatePoolBody_ok_iff]
  constructor
  · rintro ⟨-, policy', hpolicy', -, -, -, -, hall⟩
    rw [hrequired] at hpolicy'
    cases hpolicy'
    rw [get, candidates_publishedFields, List.forall_mem_map] at hall
    exact hall
  · intro hall
    refine ⟨(verifySeal_ok_iff hsealedLegible).mpr ⟨_, hsealed⟩, sortKeys policy, hrequired, ?_, ?_, ?_, ?_, ?_⟩
    · exact (fits_sortKeys worded_poolPolicySchema.sorted hpolicyKeys).mpr hpolicy.shape
    · rw [visibleFields_sortKeys hpolicyKeys]
      exact hshape
    · rw [identityFields_sortKeys hpolicyKeys, visibleFields_sortKeys hpolicyKeys]
      exact ⟨hpolicy.visible, hpolicy.blind⟩
    · rw [get, ids_publishedFields hplain, sortedSet_eq_self hascending]
    · rw [get, candidates_publishedFields, List.forall_mem_map]
      exact hall

/-- A published pool is accepted, and its identities are found again, exactly when the identity of every item
that is published as a candidate is not changed by normalizing it twice. -/
theorem poolCandidates_roundTrip_iff {pool : Fields × Fields} (hpolicyKeys : UniqueKeys policy)
    (hkeys : ∀ item ∈ items, UniqueKeys item) (h : poolCandidates items policy = .ok pool) :
    (validatePool (.obj pool.1) = .ok () ∧ ∀ c ∈ asItems (dictGet pool.1 "candidates"),
      candidateId (dictGet pool.1 "policy") (get c "fields") = .ok (asText (get c "candidate_id"))) ↔
        ∀ item ∈ items, Undisputed policy items item → Settled policy item := by
  obtain ⟨published, hidden⟩ := pool
  obtain ⟨hpolicy, -, hitems, -, -, hseal, -⟩ := poolCandidates_eq_ok_iff.mp h
  have hplain : ∀ item ∈ items, Plain item := fun item hitem => (hitems item hitem).plain (hkeys item hitem)
  have hgroups := admittedGroup hitems hkeys
  have hlegible := (plain_publicFields (hpolicy.plain hpolicyKeys) (plain_itemGroups policy hplain)).legible
  obtain ⟨hsealable, rfl⟩ := (sealDocument_eq_ok_iff hlegible).mp hseal
  have hundisputed : ∀ g ∈ undisputedGroups policy items, AdmittedGroup policy g ∧ collides policy g.2 = false := by
    intro g hg
    obtain ⟨hg, hcollides⟩ := List.mem_filter.mp hg
    exact ⟨hgroups g hg, by simpa using hcollides⟩
  have hsettled : (∀ g ∈ undisputedGroups policy items, ∀ item ∈ g.2, Settled policy item) ↔
      ∀ item ∈ items, Undisputed policy items item → Settled policy item := by
    constructor
    · intro hall item hitem hfree
      have hg : (identityOf policy item, identified policy items (identityOf policy item)) ∈ itemGroups policy items :=
        mem_itemGroups.mpr ⟨⟨item, hitem, rfl⟩, rfl⟩
      refine hall _ (List.mem_filter.mpr ⟨hg, ?_⟩) item (List.mem_filter.mpr ⟨hitem, decide_eq_true rfl⟩)
      rw [Undisputed] at hfree
      rw [hfree]
      rfl
    · intro hall g hg item hitem
      obtain ⟨hg, hcollides⟩ := List.mem_filter.mp hg
      have hmembers := (mem_itemGroups.mp hg).2
      rw [hmembers] at hitem hcollides
      obtain ⟨hmem, hid⟩ := List.mem_filter.mp hitem
      refine hall item hmem ?_
      rw [Undisputed, of_decide_eq_true hid, identified]
      simpa using hcollides
  rw [← publishedFields, ← hsettled, validatePool_published_iff hpolicy hpolicyKeys hitems hkeys hsealable]
  constructor
  · rintro ⟨hall, -⟩ g hg
    obtain ⟨hadmitted, hcollides⟩ := hundisputed g hg
    exact (validateCandidate_published_iff hpolicy hpolicyKeys hadmitted hcollides).mp (hall g hg)
  · intro hall
    have hvalid : ∀ g ∈ undisputedGroups policy items,
        validateCandidate (sortKeys policy) (sortKeys (candidate policy g)) = .ok () := by
      intro g hg
      obtain ⟨hadmitted, hcollides⟩ := hundisputed g hg
      exact (validateCandidate_published_iff hpolicy hpolicyKeys hadmitted hcollides).mpr (hall g hg)
    refine ⟨hvalid, ?_⟩
    rw [candidates_publishedFields, List.forall_mem_map, dictGet_of_lookup (policy_publishedFields policy items)]
    exact fun g hg => (validateCandidate_ok_iff.mp (hvalid g hg)).1

end Accepted

end RoundTrip

section Sample

open Python.Whole Python.Latin

example : identityFields (poolPolicyOf ["name"] ["name"]) = [py "name"] := by decide +kernel

theorem poolCandidates_roundTrip_sample : ∃ pool, poolCandidates [poolItemOf [("name", .str "Ada")] "first"]
      (poolPolicyOf ["name"] ["name"]) = .ok pool ∧ validatePool (.obj pool.1) = .ok () ∧
    ∀ c ∈ asItems (dictGet pool.1 "candidates"),
      candidateId (dictGet pool.1 "policy") (get c "fields") = .ok (asText (get c "candidate_id")) := by
  have hsettled : ∀ k ∈ identityFields (poolPolicyOf ["name"] ["name"]),
      normal (normal (asText (get (get (poolItemOf [("name", .str "Ada")] "first") "fields") k))) =
        normal (asText (get (get (poolItemOf [("name", .str "Ada")] "first") "fields") k)) := by decide +kernel
  obtain ⟨pool, hpool⟩ := exists_of_isOk (poolSample_accepted "first" (by simp))
  refine ⟨pool, hpool, (poolCandidates_roundTrip_iff poolPolicyOf_uniqueKeys (poolSample_uniqueKeys "first" (by simp))
    hpool).mpr fun item hitem _ => ?_⟩
  rw [List.mem_singleton.mp hitem]
  exact hsettled

/-- The two letters of a folded `ß` and a dot compose only the second time. -/
theorem poolCandidates_dotted : ∃ pool, poolCandidates [poolItemOf [("name", .str [0xdf, 0x307])] "first"]
      (poolPolicyOf ["name"] ["name"]) = .ok pool ∧ validatePool (.obj pool.1) ≠ .ok () := by
  have hrefused : (match poolCandidates [poolItemOf [("name", .str [0xdf, 0x307])] "first"] (poolPolicyOf ["name"] ["name"]) with
      | .ok pool => !(validatePool (.obj pool.1)).isOk
      | .error _ => false) = true := by decide +kernel
  cases hpool : poolCandidates [poolItemOf [("name", .str [0xdf, 0x307])] "first"] (poolPolicyOf ["name"] ["name"]) with
  | ok pool =>
    refine ⟨pool, rfl, fun hvalid => ?_⟩
    rw [hpool] at hrefused
    dsimp only at hrefused
    rw [hvalid] at hrefused
    cases hrefused
  | error e =>
    rw [hpool] at hrefused
    cases hrefused

example : normal (normal [0xdf, 0x307]) ≠ normal [0xdf, 0x307] := by decide +kernel

end Sample

end EvaluationLab.SearchCup
