import EvaluationLab.Python.WholeRuntime
import EvaluationLab.SearchCup.Pool
import EvaluationLab.SearchCup.Worded

/-! What a pool depends on: the set of its items, and of them only what is visible. -/
namespace EvaluationLab.SearchCup
open Python Effect
open QA0 (Fields)

section Facts

variable [PyRuntime] [PyNormalization]

section Items

variable {policy item : Json}

/-- An item that is admitted to the pool. -/
structure Admitted (policy item : Json) : Prop where
  shape : Fits (poolItemSchema (visibleFields policy)) item
  safe : ContentSafe item
  identified : ∃ identity, candidateId policy (get item "fields") = .ok identity

/-- The identity of an admitted item. -/
def identityOf (policy item : Json) : PyStr :=
  match candidateId policy (get item "fields") with
  | .ok identity => identity
  | .error _ => []

theorem Admitted.identityOf_eq (h : Admitted policy item) :
    candidateId policy (get item "fields") = .ok (identityOf policy item) := by
  obtain ⟨identity, hidentity⟩ := h.identified
  rw [identityOf, hidentity]

theorem labelItem_eq_ok_iff {r : PyStr × Json} :
    labelItem policy item = .ok r ↔ Admitted policy item ∧ r = (identityOf policy item, item) := by
  unfold labelItem
  simp only [bind_eq_ok_iff, exists_unit_iff, validateContract_ok_iff, assertContentSafe_ok_iff, pure_eq_ok_iff]
  constructor
  · rintro ⟨hshape, hsafe, identity, hidentity, rfl⟩
    refine ⟨⟨hshape, hsafe, identity, hidentity⟩, ?_⟩
    rw [identityOf, hidentity]
  · rintro ⟨h, rfl⟩
    exact ⟨h.shape, h.safe, _, h.identityOf_eq, rfl⟩

theorem labelItems_eq_ok_iff {items : List Json} {labelled : List (PyStr × Json)} :
    items.mapM (labelItem policy) = .ok labelled ↔
      (∀ item ∈ items, Admitted policy item) ∧ labelled = items.map fun item => (identityOf policy item, item) := by
  induction items generalizing labelled with
  | nil =>
    rw [List.mapM_nil, pure_eq_ok_iff]
    simp [eq_comm]
  | cons item items ih =>
    rw [List.mapM_cons]
    simp only [bind_eq_ok_iff, pure_eq_ok_iff, labelItem_eq_ok_iff, ih, List.forall_mem_cons, List.map_cons]
    constructor
    · rintro ⟨_, ⟨h, rfl⟩, _, ⟨hs, rfl⟩, rfl⟩
      exact ⟨⟨h, hs⟩, rfl⟩
    · rintro ⟨⟨h, hs⟩, rfl⟩
      exact ⟨_, ⟨h, rfl⟩, _, ⟨hs, rfl⟩, rfl⟩

/-- The groups of the items of a pool. -/
def itemGroups (policy : Json) (items : List Json) : List (PyStr × List Json) := groupsOf (identityOf policy) items

theorem mem_itemGroups {items : List Json} {g : PyStr × List Json} : g ∈ itemGroups policy items ↔
    (∃ item ∈ items, identityOf policy item = g.1) ∧ g.2 = items.filter fun item => identityOf policy item = g.1 :=
  mem_groupsOf

end Items

section Accepted

variable {policy : Json} {items : List Json} {published hidden : Fields}

/-- A policy under which a pool is published. -/
structure PoolPolicy (policy : Json) : Prop where
  shape : Fits poolPolicySchema policy
  safe : ContentSafe policy
  visible : ∀ k ∈ identityFields policy, k ∈ visibleFields policy
  blind : ∀ k ∈ visibleFields policy, tellsProvenance k = false

/-- The document the hidden ledger seals. -/
def hiddenFields (published : Fields) (ledger : List Json) : Fields :=
  [(py "schema_id", .str "search-provenance-ledger/v2"),
    (py "candidate_set_fingerprint", dictGet published fingerprintKey), (py "entries", .arr ledger)]

/-- No alias and no submission of an item shows in a text. -/
def Unseen (items : List Json) (text : PyStr) : Prop :=
  ∀ item ∈ items, contains (casefold (sourceAlias item)) (casefold text) = false ∧
    contains (casefold (submissionId item)) (casefold text) = false

theorem poolCandidates_eq_ok_iff : poolCandidates items policy = .ok (published, hidden) ↔ PoolPolicy policy ∧ items ≠ [] ∧
    (∀ item ∈ items, Admitted policy item) ∧ ∃ ledger, (itemGroups policy items).mapM ledgerEntry = .ok ledger ∧
      sealDocument (publicFields policy (itemGroups policy items)) = .ok published ∧
      sealDocument (hiddenFields published ledger) = .ok hidden ∧
      ∃ text, QA0.canonicalJson (.obj published) = .ok text ∧ Unseen items text := by
  have hgroups : poolGroups (items.map fun item => (identityOf policy item, item)) = itemGroups policy items :=
    groupsOf_labelled _ _
  unfold poolCandidates
  simp only [bind_eq_ok_iff, exists_unit_iff, validateContract_ok_iff, assertContentSafe_ok_iff, check_eq_ok_iff,
    pure_eq_ok_iff, labelItems_eq_ok_iff, Prod.mk.injEq]
  constructor
  · rintro ⟨hshape, hsafe, hvisible, hne, hblind, labelled, ⟨hitems, rfl⟩, ledger, hledger, published', hpublished, hidden',
      hhidden, text, htext, hunseen, rfl, rfl⟩
    rw [hgroups] at hledger hpublished
    exact ⟨⟨hshape, hsafe, hvisible, hblind⟩, hne, hitems, ledger, hledger, hpublished, hhidden, text, htext, hunseen⟩
  · rintro ⟨hpolicy, hne, hitems, ledger, hledger, hpublished, hhidden, text, htext, hunseen⟩
    rw [← hgroups] at hledger hpublished
    exact ⟨hpolicy.shape, hpolicy.safe, hpolicy.visible, hne, hpolicy.blind, _, ⟨hitems, rfl⟩, ledger, hledger, published,
      hpublished, hidden, hhidden, text, htext, hunseen, rfl, rfl⟩

end Accepted

section Schemas

omit [PyRuntime] [PyNormalization] in
theorem worded_fieldsSchema (visible : List PyStr) : Worded (fieldsSchema visible) := by
  rw [fieldsSchema, obj, Worded]
  induction visible with
  | nil => exact trivial
  | cons k ks ih => exact ⟨trivial, ih⟩

omit [PyRuntime] [PyNormalization] in
theorem worded_poolItemSchema (visible : List PyStr) : Worded (poolItemSchema visible) :=
  ⟨worded_fieldsSchema visible, trivial, worded_refSchema, worded_refSchema, trivial, trivial⟩

omit [PyRuntime] [PyNormalization] in
theorem worded_poolPolicySchema : Worded poolPolicySchema :=
  ⟨trivial, trivial, ⟨_, rfl⟩, trivial, trivial, ⟨_, rfl⟩, ⟨_, rfl⟩, trivial⟩

end Schemas

section Groups

variable {policy : Json} {group : List Json}

theorem collides_iff : collides policy group = true ↔ ∃ x ∈ group, ∃ y ∈ group, objectFingerprint x ≠ objectFingerprint y ∨
    render (normalizedFields policy (get x "fields")) ≠ render (normalizedFields policy (get y "fields")) := by
  rw [collides, Bool.or_eq_true, decide_eq_true_eq, decide_eq_true_eq, one_lt_length_dedup_iff, one_lt_length_dedup_iff]
  simp only [List.mem_map]
  constructor
  · rintro (⟨_, ⟨x, hx, rfl⟩, _, ⟨y, hy, rfl⟩, hne⟩ | ⟨_, ⟨x, hx, rfl⟩, _, ⟨y, hy, rfl⟩, hne⟩)
    · exact ⟨x, hx, y, hy, .inl hne⟩
    · exact ⟨x, hx, y, hy, .inr hne⟩
  · rintro ⟨x, hx, y, hy, hne | hne⟩
    · exact .inl ⟨_, ⟨x, hx, rfl⟩, _, ⟨y, hy, rfl⟩, hne⟩
    · exact .inr ⟨_, ⟨x, hx, rfl⟩, _, ⟨y, hy, rfl⟩, hne⟩

omit [PyNormalization] in
theorem mem_evidenceOf {e : Json} (h : e ∈ evidenceOf group) : ∃ item ∈ group, e ∈ asItems (get item "evidence") := by
  obtain ⟨text, -, hfound⟩ := List.mem_filterMap.mp h
  have hmem := List.mem_of_find?_eq_some hfound
  rw [List.mem_reverse, List.mem_flatMap] at hmem
  exact hmem

omit [PyNormalization] in
theorem plain_evidenceOf (h : ∀ item ∈ group, Plain item) : ∀ e ∈ evidenceOf group, Plain e := by
  intro e he
  obtain ⟨item, hitem, hmem⟩ := mem_evidenceOf he
  exact Plain.asItems (Plain.get (h item hitem) _) e hmem

theorem plain_normalizedFields (policy : Json) {fields : Json} (h : Plain fields) : Plain (normalizedFields policy fields) := by
  cases fields with
  | obj fs =>
    rw [plain_obj_iff] at h
    rw [normalizedFields, plain_obj_iff, List.map_map]
    refine ⟨h.1, fun f hf => ?_⟩
    obtain ⟨g, hg, rfl⟩ := List.mem_map.mp hf
    dsimp only
    split_ifs
    · exact ⟨trivial, rfl⟩
    · exact h.2 g hg
  | _ => exact ⟨trivial, rfl⟩

theorem plain_candidate (policy : Json) {g : PyStr × List Json} (h : ∀ item ∈ g.2, Plain item) : Plain (candidate policy g) := by
  have hkeys : ([py "candidate_id", py "fields", py "evidence"] : List PyStr).Nodup := by decide +kernel
  have hfields : Plain ((g.2.head?.map fun item => normalizedFields policy (get item "fields")).getD .null) := by
    cases hhead : g.2.head? with
    | none => exact ⟨trivial, rfl⟩
    | some item => exact plain_normalizedFields policy (Plain.get (h item (List.mem_of_head? hhead)) _)
  rw [candidate, plain_obj_iff]
  refine ⟨hkeys, ?_⟩
  simp only [List.forall_mem_cons]
  exact ⟨⟨trivial, rfl⟩, hfields, plain_arr_iff.mpr (plain_evidenceOf h), by simp⟩

omit [PyNormalization] in
theorem plain_collision {g : PyStr × List Json} (h : ∀ item ∈ g.2, Plain item) : Plain (collision g) := by
  have hkeys : ([py "candidate_id", py "terminal_status", py "evidence"] : List PyStr).Nodup := by decide +kernel
  rw [collision, plain_obj_iff]
  refine ⟨hkeys, ?_⟩
  simp only [List.forall_mem_cons]
  exact ⟨⟨trivial, rfl⟩, ⟨trivial, rfl⟩, plain_arr_iff.mpr (plain_evidenceOf h), by simp⟩

theorem plain_publicFields {groups : List (PyStr × List Json)} (hpolicy : Plain policy)
    (h : ∀ g ∈ groups, ∀ item ∈ g.2, Plain item) : Plain (.obj (publicFields policy groups)) := by
  have hkeys : ([py "schema_id", py "policy", py "candidates", py "collisions"] : List PyStr).Nodup := by decide +kernel
  rw [publicFields, plain_obj_iff]
  refine ⟨hkeys, ?_⟩
  simp only [List.forall_mem_cons]
  refine ⟨⟨trivial, rfl⟩, hpolicy, ?_, ?_, by simp⟩
  · rw [plain_arr_iff, List.forall_mem_map]
    exact fun g hg => plain_candidate policy (h g (List.mem_of_mem_filter hg))
  · rw [plain_arr_iff, List.forall_mem_map]
    exact fun g hg => plain_collision (h g (List.mem_of_mem_filter hg))

theorem plain_itemGroups (policy : Json) {items : List Json} (h : ∀ item ∈ items, Plain item) :
    ∀ g ∈ itemGroups policy items, ∀ item ∈ g.2, Plain item := by
  intro g hg item hitem
  rw [(mem_itemGroups.mp hg).2] at hitem
  exact h item (List.mem_of_mem_filter hitem)

theorem Admitted.plain {item : Json} (h : Admitted policy item) (hkeys : UniqueKeys item) : Plain item :=
  plain_of_fits (worded_poolItemSchema _) hkeys h.shape

omit [PyNormalization] in
theorem PoolPolicy.plain (h : PoolPolicy policy) (hkeys : UniqueKeys policy) : Plain policy :=
  plain_of_fits worded_poolPolicySchema hkeys h.shape

end Groups

section Alike

/-- Items that only their provenance tells apart. -/
structure Alike (item item' : Json) : Prop where
  fields : SameJson (get item "fields") (get item' "fields")
  object : objectFingerprint item = objectFingerprint item'
  evidence : SameJson (get item "evidence") (get item' "evidence")

omit [PyRuntime] [PyNormalization] in
theorem Alike.refl (item : Json) : Alike item item := ⟨rfl, rfl, rfl⟩

omit [PyRuntime] [PyNormalization] in
theorem Alike.symm {item item' : Json} (h : Alike item item') : Alike item' item :=
  ⟨sameJson_symm h.fields, h.object.symm, sameJson_symm h.evidence⟩

/-- Every item of one list has one like it in the other. -/
structure Covers (items items' : List Json) : Prop where
  forth : ∀ item ∈ items, ∃ item' ∈ items', Alike item item'
  back : ∀ item' ∈ items', ∃ item ∈ items, Alike item item'

omit [PyRuntime] [PyNormalization] in
theorem asText_of_sameJson {v w : Json} (h : SameJson v w) : asText v = asText w := by
  rw [← asText_sortKeys, h, asText_sortKeys]

omit [PyRuntime] in
theorem candidateKey_of_sameJson {policy fields fields' : Json} (hkeys : UniqueKeys fields) (hkeys' : UniqueKeys fields')
    (h : SameJson fields fields') : candidateKey policy fields = candidateKey policy fields' := by
  rw [candidateKey, candidateKey, Json.obj.injEq]
  apply List.map_congr_left
  intro name _
  rw [asText_of_sameJson (sameJson_get hkeys hkeys' h name)]

theorem Alike.identityOf_eq {policy item item' : Json} (h : Alike item item') (hkeys : UniqueKeys item)
    (hkeys' : UniqueKeys item') : identityOf policy item = identityOf policy item' := by
  have hkey : candidateKey policy (get item "fields") = candidateKey policy (get item' "fields") :=
    candidateKey_of_sameJson (UniqueKeys.get hkeys _) (UniqueKeys.get hkeys' _) h.fields
  rw [identityOf, identityOf, candidateId, candidateId, hkey]

omit [PyRuntime] in
theorem sameJson_normalizedFields {policy fields fields' : Json} (hkeys : UniqueKeys fields) (hkeys' : UniqueKeys fields')
    (h : SameJson fields fields') : SameJson (normalizedFields policy fields) (normalizedFields policy fields') := by
  have hnormal : ∀ fs : Fields, ∀ k, (fs.map fun f => (f.1, if f.1 ∈ identityFields policy then
      Json.str (normal (asText f.2)) else f.2)).lookup k =
        (fs.lookup k).map fun v => if k ∈ identityFields policy then .str (normal (asText v)) else v :=
    fun fs k => lookup_mapValues (fun k v => if k ∈ identityFields policy then Json.str (normal (asText v)) else v) fs k
  have hmap : ∀ fs : Fields, (fs.map fun f => (f.1, if f.1 ∈ identityFields policy then
      Json.str (normal (asText f.2)) else f.2)).map Prod.fst = fs.map Prod.fst := fun fs => by
    rw [List.map_map]
    rfl
  cases fields with
  | obj fs =>
    cases fields' with
    | obj fs' =>
      rw [sameJson_obj_iff hkeys.nodup hkeys'.nodup] at h
      rw [normalizedFields, normalizedFields,
        sameJson_obj_iff (by rw [hmap]; exact hkeys.nodup) (by rw [hmap]; exact hkeys'.nodup)]
      intro k
      have hk := h k
      rw [hnormal, hnormal, Option.map_map, Option.map_map]
      cases hv : fs.lookup k with
      | none =>
        cases hw : fs'.lookup k with
        | none => rfl
        | some w => simp [hv, hw] at hk
      | some v =>
        cases hw : fs'.lookup k with
        | none => simp [hv, hw] at hk
        | some w =>
          rw [hv, hw] at hk
          have hsame : sortKeys v = sortKeys w := Option.some.inj hk
          simp only [Option.map_some, Function.comp]
          split_ifs
          · rw [asText_of_sameJson hsame]
          · rw [hsame]
    | arr items =>
      rw [SameJson, sortKeys_obj, sortKeys] at h
      cases h
    | _ =>
      rw [SameJson, sortKeys_obj] at h
      cases h
  | arr items =>
    cases fields' with
    | obj fs =>
      rw [SameJson, sortKeys_obj, sortKeys] at h
      cases h
    | _ => rfl
  | _ =>
    cases fields' with
    | obj fs =>
      rw [SameJson, sortKeys_obj] at h
      cases h
    | _ => rfl

omit [PyRuntime] [PyNormalization] in
theorem sameJson_of_sortFields {fields fields' : Fields} (h : sortFields fields = sortFields fields') :
    SameJson (.obj fields) (.obj fields') := by
  rw [SameJson, sortKeys_obj, sortKeys_obj, sortedFields, sortedFields, h]

omit [PyRuntime] [PyNormalization] in
theorem asItems_sortKeys (v : Json) : asItems (sortKeys v) = (asItems v).map sortKeys := by
  cases v with
  | arr items => exact sortItems_eq_map items
  | _ => rfl

omit [PyNormalization] in
theorem Alike.texts {item item' : Json} (h : Alike item item') :
    (asItems (get item "evidence")).map render = (asItems (get item' "evidence")).map render := by
  have hrender : ∀ v : Json, (asItems v).map render = (asItems (sortKeys v)).map render := by
    intro v
    rw [asItems_sortKeys, List.map_map]
    exact List.map_congr_left fun e _ => (render_sortKeys e).symm
  rw [hrender, h.evidence, ← hrender]

end Alike

section Covered

variable {policy : Json} {group group' : List Json}

omit [PyRuntime] [PyNormalization] in
theorem Covers.symm (h : Covers group group') : Covers group' group where
  forth item hitem := by
    obtain ⟨item', hitem', halike⟩ := h.back item hitem
    exact ⟨item', hitem', halike.symm⟩
  back item hitem := by
    obtain ⟨item', hitem', halike⟩ := h.forth item hitem
    exact ⟨item', hitem', halike.symm⟩

omit [PyRuntime] [PyNormalization] in
/-- Order and repetition do not count. -/
theorem covers_of_mem_iff (h : ∀ item, item ∈ group ↔ item ∈ group') : Covers group group' where
  forth item hitem := ⟨item, (h item).mp hitem, .refl item⟩
  back item hitem := ⟨item, (h item).mpr hitem, .refl item⟩

/-- The evidence of the items of a group. -/
def allEvidence (group : List Json) : List Json := group.flatMap fun item => asItems (get item "evidence")

omit [PyNormalization] in
theorem Covers.mem_texts (h : Covers group group') {t : PyStr} (ht : t ∈ (allEvidence group).map render) :
    t ∈ (allEvidence group').map render := by
  rw [List.mem_map] at ht ⊢
  obtain ⟨e, he, rfl⟩ := ht
  obtain ⟨item, hitem, hmem⟩ := List.mem_flatMap.mp he
  obtain ⟨item', hitem', halike⟩ := h.forth item hitem
  have htext : render e ∈ (asItems (get item' "evidence")).map render := by
    rw [← halike.texts]
    exact List.mem_map_of_mem hmem
  obtain ⟨e', he', heq⟩ := List.mem_map.mp htext
  exact ⟨e', List.mem_flatMap.mpr ⟨item', hitem', he'⟩, heq⟩

omit [PyNormalization] in
/-- The evidence that is kept of a text. -/
theorem find_text {evidence : List Json} {t : PyStr} (h : t ∈ evidence.map render) :
    ∃ e ∈ evidence, evidence.reverse.find? (fun e => render e = t) = some e ∧ render e = t := by
  obtain ⟨e, he, rfl⟩ := List.mem_map.mp h
  have hsome : (evidence.reverse.find? fun d => render d = render e).isSome = true := by
    rw [List.find?_isSome]
    exact ⟨e, List.mem_reverse.mpr he, decide_eq_true rfl⟩
  obtain ⟨d, hd⟩ := Option.isSome_iff_exists.mp hsome
  have htext := List.find?_some hd
  rw [decide_eq_true_eq] at htext
  exact ⟨d, List.mem_reverse.mp (List.mem_of_find?_eq_some hd), hd, htext⟩

omit [PyNormalization] in
theorem plain_allEvidence (h : ∀ item ∈ group, Plain item) : ∀ e ∈ allEvidence group, Plain e := by
  intro e he
  obtain ⟨item, hitem, hmem⟩ := List.mem_flatMap.mp he
  exact Plain.asItems (Plain.get (h item hitem) _) e hmem

omit [PyNormalization] in
/-- Which of the equal evidence is kept does not show. -/
theorem Covers.evidenceOf_eq (h : Covers group group') (hplain : ∀ item ∈ group, Plain item)
    (hplain' : ∀ item ∈ group', Plain item) : (evidenceOf group).map sortKeys = (evidenceOf group').map sortKeys := by
  have htexts : sortedSet ((allEvidence group).map render) = sortedSet ((allEvidence group').map render) :=
    sortedSet_congr fun t => ⟨h.mem_texts, h.symm.mem_texts⟩
  unfold evidenceOf
  dsimp only
  rw [← allEvidence, ← allEvidence, htexts, List.map_filterMap, List.map_filterMap]
  apply List.filterMap_congr
  intro t ht
  have hmem' := mem_sortedSet.mp ht
  obtain ⟨e, he, hfound, htext⟩ := find_text (h.symm.mem_texts hmem')
  obtain ⟨e', he', hfound', htext'⟩ := find_text hmem'
  rw [hfound, hfound', Option.map_some, Option.map_some]
  congr 1
  exact sameJson_of_render_eq (plain_allEvidence hplain e he) (plain_allEvidence hplain' e' he') (htext.trans htext'.symm)

theorem Covers.collides_of (h : Covers group group') (hplain : ∀ item ∈ group, Plain item)
    (hplain' : ∀ item ∈ group', Plain item) (hcollides : collides policy group = true) :
    collides policy group' = true := by
  have hnormal : ∀ item ∈ group, ∀ item' ∈ group', Alike item item' →
      render (normalizedFields policy (get item "fields")) = render (normalizedFields policy (get item' "fields")) := by
    intro item hitem item' hitem' halike
    have hkeys := UniqueKeys.get (hplain item hitem).legible.uniqueKeys "fields"
    have hkeys' := UniqueKeys.get (hplain' item' hitem').legible.uniqueKeys "fields"
    exact render_of_sameJson (sameJson_normalizedFields hkeys hkeys' halike.fields)
  rw [collides_iff] at hcollides ⊢
  obtain ⟨x, hx, y, hy, hne⟩ := hcollides
  obtain ⟨x', hx', hxalike⟩ := h.forth x hx
  obtain ⟨y', hy', hyalike⟩ := h.forth y hy
  refine ⟨x', hx', y', hy', ?_⟩
  rw [← hxalike.object, ← hyalike.object, ← hnormal x hx x' hx' hxalike, ← hnormal y hy y' hy' hyalike]
  exact hne

theorem Covers.collides_eq (policy : Json) (h : Covers group group') (hplain : ∀ item ∈ group, Plain item)
    (hplain' : ∀ item ∈ group', Plain item) : collides policy group = collides policy group' := by
  rw [Bool.eq_iff_iff]
  exact ⟨h.collides_of hplain hplain', h.symm.collides_of hplain' hplain⟩

/-- Where no two items collide, any of them may come first. -/
theorem Covers.sameJson_candidate (h : Covers group group') (hplain : ∀ item ∈ group, Plain item)
    (hplain' : ∀ item ∈ group', Plain item) (hne : group ≠ []) (hcollides : collides policy group = false) (id : PyStr) :
    SameJson (candidate policy (id, group)) (candidate policy (id, group')) := by
  obtain ⟨x, xs, rfl⟩ := List.exists_cons_of_ne_nil hne
  obtain ⟨x', hx', halike⟩ := h.forth x List.mem_cons_self
  obtain ⟨y, ys, rfl⟩ := List.exists_cons_of_ne_nil (List.ne_nil_of_mem hx')
  have hcollides' := hcollides
  rw [h.collides_eq policy hplain hplain'] at hcollides'
  have hfirst : SameJson (normalizedFields policy (get x "fields")) (normalizedFields policy (get x' "fields")) :=
    sameJson_normalizedFields (UniqueKeys.get (hplain x List.mem_cons_self).legible.uniqueKeys _)
      (UniqueKeys.get (hplain' x' hx').legible.uniqueKeys _) halike.fields
  have hsecond : SameJson (normalizedFields policy (get x' "fields")) (normalizedFields policy (get y "fields")) := by
    apply sameJson_of_render_eq (plain_normalizedFields policy (Plain.get (hplain' x' hx') _))
      (plain_normalizedFields policy (Plain.get (hplain' y List.mem_cons_self) _))
    by_contra hne
    have hcollision : collides policy (y :: ys) = true := collides_iff.mpr ⟨x', hx', y, List.mem_cons_self, .inr hne⟩
    rw [hcollision] at hcollides'
    cases hcollides'
  have hfields : sortKeys (normalizedFields policy (get x "fields")) = sortKeys (normalizedFields policy (get y "fields")) :=
    Eq.trans hfirst hsecond
  apply sameJson_of_sortFields
  simp only [sortFields, sortKeys, sortItems_eq_map, List.head?_cons, Option.map_some, Option.getD_some, hfields,
    h.evidenceOf_eq hplain hplain']

omit [PyNormalization] in
theorem Covers.sameJson_collision (h : Covers group group') (hplain : ∀ item ∈ group, Plain item)
    (hplain' : ∀ item ∈ group', Plain item) (id : PyStr) : SameJson (collision (id, group)) (collision (id, group')) := by
  apply sameJson_of_sortFields
  simp only [sortFields, sortKeys, sortItems_eq_map, h.evidenceOf_eq hplain hplain']

end Covered

section Independence

variable {policy : Json} {items items' : List Json}

/-- The items of one identity. -/
def identified (policy : Json) (items : List Json) (id : PyStr) : List Json :=
  items.filter fun item => identityOf policy item = id

theorem Covers.identityOf_mem (h : Covers items items') (hkeys : ∀ item ∈ items, UniqueKeys item)
    (hkeys' : ∀ item ∈ items', UniqueKeys item) {id : PyStr} (hid : id ∈ items.map (identityOf policy)) :
    id ∈ items'.map (identityOf policy) := by
  obtain ⟨item, hitem, rfl⟩ := List.mem_map.mp hid
  obtain ⟨item', hitem', halike⟩ := h.forth item hitem
  rw [halike.identityOf_eq (hkeys item hitem) (hkeys' item' hitem')]
  exact List.mem_map_of_mem hitem'

theorem Covers.identified (policy : Json) (h : Covers items items') (hkeys : ∀ item ∈ items, UniqueKeys item)
    (hkeys' : ∀ item ∈ items', UniqueKeys item) (id : PyStr) :
    Covers (identified policy items id) (identified policy items' id) where
  forth item hitem := by
    obtain ⟨hitem, hid⟩ := List.mem_filter.mp hitem
    obtain ⟨item', hitem', halike⟩ := h.forth item hitem
    refine ⟨item', List.mem_filter.mpr ⟨hitem', ?_⟩, halike⟩
    rwa [← halike.identityOf_eq (hkeys item hitem) (hkeys' item' hitem')]
  back item' hitem' := by
    obtain ⟨hitem', hid⟩ := List.mem_filter.mp hitem'
    obtain ⟨item, hitem, halike⟩ := h.back item' hitem'
    refine ⟨item, List.mem_filter.mpr ⟨hitem, ?_⟩, halike⟩
    rwa [halike.identityOf_eq (hkeys item hitem) (hkeys' item' hitem')]

theorem itemGroups_eq : itemGroups policy items =
    (sortedSet (items.map (identityOf policy))).map fun id => (id, identified policy items id) := rfl

omit [PyRuntime] [PyNormalization] in
theorem map_filter_map_congr {α β γ : Type} {keys : List α} {f f' : α → β} {p : β → Bool} {c : β → γ}
    (hp : ∀ k ∈ keys, p (f k) = p (f' k)) (hc : ∀ k ∈ keys, p (f k) = true → c (f k) = c (f' k)) :
    ((keys.map f).filter p).map c = ((keys.map f').filter p).map c := by
  rw [List.filter_map, List.filter_map, List.map_map, List.map_map]
  have hfilter : keys.filter (p ∘ f) = keys.filter (p ∘ f') := List.filter_congr hp
  rw [← hfilter]
  apply List.map_congr_left
  intro k hk
  obtain ⟨hk, hpk⟩ := List.mem_filter.mp hk
  exact hc k hk hpk

/-- What is published does not depend on provenance, order or repetition. -/
theorem Covers.sameJson_publicFields (h : Covers items items') (hplain : ∀ item ∈ items, Plain item)
    (hplain' : ∀ item ∈ items', Plain item) : SameJson (.obj (publicFields policy (itemGroups policy items)))
      (.obj (publicFields policy (itemGroups policy items'))) := by
  have hkeys : ∀ item ∈ items, UniqueKeys item := fun item hitem => (hplain item hitem).legible.uniqueKeys
  have hkeys' : ∀ item ∈ items', UniqueKeys item := fun item hitem => (hplain' item hitem).legible.uniqueKeys
  have hids : sortedSet (items.map (identityOf policy)) = sortedSet (items'.map (identityOf policy)) :=
    sortedSet_congr fun id => ⟨h.identityOf_mem hkeys hkeys', h.symm.identityOf_mem hkeys' hkeys⟩
  have hgroup := fun id => h.identified policy hkeys hkeys' id
  have hg : ∀ id, ∀ item ∈ SearchCup.identified policy items id, Plain item :=
    fun id item hitem => hplain item (List.mem_of_mem_filter hitem)
  have hg' : ∀ id, ∀ item ∈ SearchCup.identified policy items' id, Plain item :=
    fun id item hitem => hplain' item (List.mem_of_mem_filter hitem)
  have hcollides := fun id => (hgroup id).collides_eq policy (hg id) (hg' id)
  have hne : ∀ id ∈ sortedSet (items'.map (identityOf policy)), SearchCup.identified policy items id ≠ [] := by
    intro id hid
    obtain ⟨item, hitem, hid⟩ := List.mem_map.mp (h.symm.identityOf_mem hkeys' hkeys (mem_sortedSet.mp hid))
    exact List.ne_nil_of_mem (List.mem_filter.mpr ⟨hitem, decide_eq_true hid⟩)
  apply sameJson_of_sortFields
  simp only [publicFields, sortFields, sortKeys, sortItems_eq_map, List.map_map, itemGroups_eq, hids]
  congr 3
  · congr 2
    apply map_filter_map_congr
    · intro id _
      simp only [hcollides id]
    · intro id hid hok
      have hfree : collides policy (SearchCup.identified policy items id) = false := by simpa using hok
      exact (hgroup id).sameJson_candidate (hg id) (hg' id) (hne id hid) hfree id
  · congr 3
    apply map_filter_map_congr
    · intro id _
      exact hcollides id
    · intro id _ _
      exact (hgroup id).sameJson_collision (hg id) (hg' id) id

/-- The hidden entries of two lists with the same items. -/
theorem ledger_congr (h : ∀ item, item ∈ items ↔ item ∈ items') :
    (itemGroups policy items).mapM ledgerEntry = (itemGroups policy items').mapM ledgerEntry := by
  have hids : sortedSet (items.map (identityOf policy)) = sortedSet (items'.map (identityOf policy)) :=
    sortedSet_congr fun id => by simp only [List.mem_map, h]
  have hentry : ∀ id, ledgerEntry (id, identified policy items id) = ledgerEntry (id, identified policy items' id) := by
    intro id
    have hsources : sortedSet ((identified policy items id).map fun item => render (provenanceOf item)) =
        sortedSet ((identified policy items' id).map fun item => render (provenanceOf item)) :=
      sortedSet_congr fun t => by simp only [identified, List.mem_map, List.mem_filter, h]
    unfold ledgerEntry
    rw [hsources]
  rw [itemGroups_eq, itemGroups_eq, hids, List.mapM_map, List.mapM_map]
  exact mapM_congr fun id _ => hentry id

/-- What is published does not depend on where the items come from; and neither what is published nor the
hidden ledger depends on the order and the repetition of the items. -/
theorem poolCandidates_blind :
    (∀ (policy : Json) (items items' : List Json) (pool pool' : Fields × Fields), UniqueKeys policy →
      (∀ item ∈ items, UniqueKeys item) → (∀ item ∈ items', UniqueKeys item) → Covers items items' →
      poolCandidates items policy = .ok pool → poolCandidates items' policy = .ok pool' → pool.1 = pool'.1) ∧
    ∀ (policy : Json) (items items' : List Json) (pool : Fields × Fields), UniqueKeys policy →
      (∀ item ∈ items, UniqueKeys item) → (∀ item, item ∈ items ↔ item ∈ items') →
      poolCandidates items policy = .ok pool → poolCandidates items' policy = .ok pool := by
  constructor
  · rintro policy items items' ⟨published, hidden⟩ ⟨published', hidden'⟩ hpolicyKeys hkeys hkeys' hcovers hpool hpool'
    obtain ⟨hpolicy, -, hitems, ledger, -, hseal, -⟩ := poolCandidates_eq_ok_iff.mp hpool
    obtain ⟨-, -, hitems', ledger', -, hseal', -⟩ := poolCandidates_eq_ok_iff.mp hpool'
    have hplain : ∀ item ∈ items, Plain item := fun item hitem => (hitems item hitem).plain (hkeys item hitem)
    have hplain' : ∀ item ∈ items', Plain item := fun item hitem => (hitems' item hitem).plain (hkeys' item hitem)
    have hlegible := (plain_publicFields (hpolicy.plain hpolicyKeys) (plain_itemGroups policy hplain)).legible
    have hlegible' := (plain_publicFields (hpolicy.plain hpolicyKeys) (plain_itemGroups policy hplain')).legible
    obtain ⟨-, rfl⟩ := (sealDocument_eq_ok_iff hlegible).mp hseal
    obtain ⟨-, rfl⟩ := (sealDocument_eq_ok_iff hlegible').mp hseal'
    exact sealedFields_of_sameJson hlegible.nodup hlegible'.nodup (hcovers.sameJson_publicFields hplain hplain')
  · rintro policy items items' ⟨published, hidden⟩ hpolicyKeys hkeys hmem hpool
    obtain ⟨hpolicy, hne, hitems, ledger, hledger, hseal, hhidden, text, htext, hunseen⟩ := poolCandidates_eq_ok_iff.mp hpool
    have hplain : ∀ item ∈ items, Plain item := fun item hitem => (hitems item hitem).plain (hkeys item hitem)
    have hplain' : ∀ item ∈ items', Plain item := fun item hitem => hplain item ((hmem item).mpr hitem)
    have hlegible := (plain_publicFields (hpolicy.plain hpolicyKeys) (plain_itemGroups policy hplain)).legible
    have hlegible' := (plain_publicFields (hpolicy.plain hpolicyKeys) (plain_itemGroups policy hplain')).legible
    have hsame : SameJson (.obj (publicFields policy (itemGroups policy items)))
        (.obj (publicFields policy (itemGroups policy items'))) :=
      (covers_of_mem_iff hmem).sameJson_publicFields hplain hplain'
    obtain ⟨hsealable, rfl⟩ := (sealDocument_eq_ok_iff hlegible).mp hseal
    rw [ledger_congr hmem] at hledger
    refine poolCandidates_eq_ok_iff.mpr ⟨hpolicy, ?_, fun item hitem => hitems item ((hmem item).mpr hitem), ledger, hledger,
      ?_, hhidden, text, htext, fun item hitem => hunseen item ((hmem item).mpr hitem)⟩
    · obtain ⟨item, rest, rfl⟩ := List.exists_cons_of_ne_nil hne
      exact List.ne_nil_of_mem ((hmem item).mp List.mem_cons_self)
    · exact (sealDocument_eq_ok_iff hlegible').mpr ⟨sealable_of_sameJson hlegible.nodup hlegible'.nodup hsame hsealable,
        sealedFields_of_sameJson hlegible.nodup hlegible'.nodup hsame⟩

end Independence

end Facts

section Sample

/-- A policy on given fields. -/
def poolPolicyOf (identity visible : List PyStr) : Json := .obj [
  ("id", .str "policy"), ("version", .str "1"), ("normalization", .str "NFKC_CASEFOLD_WHITESPACE_V1"),
  ("identity_fields", .arr (identity.map .str)), ("visible_fields", .arr (visible.map .str)),
  ("collision_policy", .str "UNKNOWN_IDENTITY"), ("ordering", .str "CANDIDATE_ID_ASC")]

/-- An item with given fields from a given source. -/
def poolItemOf (fields : Fields) (source : PyStr) : Json := .obj [
  ("fields", .obj fields), ("object_fingerprint", .str zeroDigest),
  ("evidence", .arr [sampleRef "evidence" zeroDigest]), ("frozen_submission", sampleRef source zeroDigest),
  ("source_alias", .str source)]

open Python.Whole Python.Latin

theorem exists_of_isOk {α : Type} {x : Except PyExc α} (h : x.isOk = true) : ∃ a, x = .ok a := by
  cases x with
  | ok a => exact ⟨a, rfl⟩
  | error e => cases h

/-- One item is accepted from either of two sources. -/
theorem poolSample_accepted : ∀ source ∈ (["first", "second"] : List PyStr),
    (poolCandidates [poolItemOf [("name", .str "Ada")] source] (poolPolicyOf ["name"] ["name"])).isOk = true := by
  decide +kernel

theorem poolSample_uniqueKeys : ∀ source ∈ (["first", "second"] : List PyStr),
    ∀ item ∈ [poolItemOf [("name", .str "Ada")] source], UniqueKeys item := by
  have hfloatless : ∀ source ∈ (["first", "second"] : List PyStr),
      floatless (poolItemOf [("name", .str "Ada")] source) = true := by decide +kernel
  intro source hsource item hitem
  rw [List.mem_singleton.mp hitem]
  exact (legible_of_floatless (hfloatless source hsource)).uniqueKeys

theorem poolPolicyOf_uniqueKeys : UniqueKeys (poolPolicyOf ["name"] ["name"]) :=
  (legible_of_floatless (by decide +kernel)).uniqueKeys

theorem poolCandidates_blind_sample : ∃ pool pool',
    poolCandidates [poolItemOf [("name", .str "Ada")] "first"] (poolPolicyOf ["name"] ["name"]) = .ok pool ∧
    poolCandidates [poolItemOf [("name", .str "Ada")] "second"] (poolPolicyOf ["name"] ["name"]) = .ok pool' ∧
    pool.1 = pool'.1 ∧
    poolCandidates [poolItemOf [("name", .str "Ada")] "first", poolItemOf [("name", .str "Ada")] "first"]
      (poolPolicyOf ["name"] ["name"]) = .ok pool := by
  have hcovers : Covers [poolItemOf [("name", .str "Ada")] "first"] [poolItemOf [("name", .str "Ada")] "second"] := by
    have halike : Alike (poolItemOf [("name", .str "Ada")] "first") (poolItemOf [("name", .str "Ada")] "second") :=
      ⟨rfl, rfl, rfl⟩
    constructor
    · simpa using halike
    · simpa using halike
  obtain ⟨pool, hpool⟩ := exists_of_isOk (poolSample_accepted "first" (by simp))
  obtain ⟨pool', hpool'⟩ := exists_of_isOk (poolSample_accepted "second" (by simp))
  refine ⟨pool, pool', hpool, hpool', ?_, ?_⟩
  · exact poolCandidates_blind.1 _ _ _ _ _ poolPolicyOf_uniqueKeys (poolSample_uniqueKeys "first" (by simp))
      (poolSample_uniqueKeys "second" (by simp)) hcovers hpool hpool'
  · exact poolCandidates_blind.2 _ _ _ _ poolPolicyOf_uniqueKeys (poolSample_uniqueKeys "first" (by simp)) (by simp) hpool

end Sample

end EvaluationLab.SearchCup
