import EvaluationLab.Python.Equality
import EvaluationLab.Python.JsonRoundTrip

/-! Objects as dictionaries: what a lookup says of the fields, and when two objects are the same. -/
namespace EvaluationLab.Python

section Fields

theorem lookup_of_mem {α : Type} {fields : List (PyStr × α)} {k : PyStr} {v : α} (hkeys : (fields.map Prod.fst).Nodup)
    (h : (k, v) ∈ fields) : fields.lookup k = some v := by
  induction fields with
  | nil => cases h
  | cons f fs ih =>
    obtain ⟨k', v'⟩ := f
    rw [List.map_cons, List.nodup_cons] at hkeys
    rw [List.lookup_cons]
    rcases List.mem_cons.mp h with heq | hmem
    · cases heq
      rw [beq_self_eq_true]
    · have hne : (k == k') = false := beq_eq_false_iff_ne.mpr fun he => hkeys.1 (List.mem_map.mpr ⟨(k, v), hmem, he⟩)
      rw [hne]
      exact ih hkeys.2 hmem

theorem mem_of_lookup {α : Type} {fields : List (PyStr × α)} {k : PyStr} {v : α} (h : fields.lookup k = some v) :
    (k, v) ∈ fields := by
  induction fields with
  | nil => cases h
  | cons f fs ih =>
    obtain ⟨k', v'⟩ := f
    rw [List.lookup_cons] at h
    by_cases hk : k = k'
    · subst hk
      rw [beq_self_eq_true] at h
      cases h
      exact List.mem_cons_self
    · rw [beq_eq_false_iff_ne.mpr hk] at h
      exact List.mem_cons_of_mem _ (ih h)

/-- A field is put before the others. -/
theorem perm_cons_filter {fields : List (PyStr × Json)} {k : PyStr} {v : Json} (hkeys : (fields.map Prod.fst).Nodup)
    (h : (k, v) ∈ fields) : fields.Perm ((k, v) :: fields.filter fun f => f.1 ≠ k) := by
  induction fields with
  | nil => cases h
  | cons f fs ih =>
    obtain ⟨k', v'⟩ := f
    rw [List.map_cons, List.nodup_cons] at hkeys
    rcases List.mem_cons.mp h with heq | hmem
    · cases heq
      have hrest : fs.filter (fun f => f.1 ≠ k) = fs := by
        rw [List.filter_eq_self]
        intro g hg
        exact decide_eq_true fun he => hkeys.1 (List.mem_map.mpr ⟨g, hg, he⟩)
      rw [List.filter_cons_of_neg (by simp), hrest]
    · have hne : k' ≠ k := fun he => hkeys.1 (List.mem_map.mpr ⟨(k, v), hmem, he.symm⟩)
      rw [List.filter_cons_of_pos (by simpa using hne)]
      exact ((ih hkeys.2 hmem).cons _).trans (.swap _ _ _)

/-- A field stays when the fields of another key are taken out. -/
theorem lookup_filter_ne {α : Type} (fields : List (PyStr × α)) {k l : PyStr} (hk : k ≠ l) :
    (fields.filter fun f => f.1 ≠ l).lookup k = fields.lookup k := by
  induction fields with
  | nil => rfl
  | cons f fs ih =>
    obtain ⟨m, v⟩ := f
    by_cases hm : m = l
    · subst hm
      rw [List.filter_cons_of_neg (by simp), List.lookup_cons, beq_eq_false_iff_ne.mpr hk]
      exact ih
    · rw [List.filter_cons_of_pos (by simpa using hm), List.lookup_cons, List.lookup_cons, ih]

theorem lookup_eq_some_iff {α : Type} {fields : List (PyStr × α)} {k : PyStr} {v : α} (hkeys : (fields.map Prod.fst).Nodup) :
    fields.lookup k = some v ↔ (k, v) ∈ fields :=
  ⟨mem_of_lookup, lookup_of_mem hkeys⟩

theorem lookup_isSome_iff {α : Type} (fields : List (PyStr × α)) (k : PyStr) :
    (fields.lookup k).isSome = true ↔ k ∈ fields.map Prod.fst := by
  rw [← not_iff_not, Bool.not_eq_true, Option.isSome_eq_false_iff, Option.isNone_iff_eq_none, List.lookup_eq_none_iff,
    List.mem_map]
  push Not
  constructor
  · rintro h f hf rfl
    exact absurd (h f hf) (by simp)
  · intro h f hf
    exact bne_iff_ne.mpr (h f hf).symm

/-- A field is found at the place of its key. -/
theorem lookup_idxOf {α : Type} (fields : List (PyStr × α)) (key : PyStr) :
    fields.lookup key = (fields[(fields.map Prod.fst).idxOf key]?).map Prod.snd := by
  induction fields with
  | nil => rfl
  | cons f fs ih =>
    obtain ⟨k, v⟩ := f
    rw [List.map_cons, List.idxOf_cons, List.lookup_cons]
    by_cases h : key = k
    · subst h
      simp
    · have hne : (key == k) = false := beq_eq_false_iff_ne.mpr h
      have hne' : (k == key) = false := beq_eq_false_iff_ne.mpr (Ne.symm h)
      rw [hne, hne', cond_false]
      dsimp only
      rw [ih, List.getElem?_cons_succ]

theorem lookup_map_snd {α β : Type} (g : α → β) (fields : List (PyStr × α)) (k : PyStr) :
    (fields.map fun f => (f.1, g f.2)).lookup k = (fields.lookup k).map g := by
  induction fields with
  | nil => rfl
  | cons f fs ih =>
    obtain ⟨k', v⟩ := f
    rw [List.map_cons, List.lookup_cons, List.lookup_cons]
    by_cases h : k = k'
    · subst h
      simp
    · rw [beq_eq_false_iff_ne.mpr h]
      exact ih

/-- Fields without a repeated key are told by their lookups, up to their order. -/
theorem perm_of_lookup {α : Type} {fields fields' : List (PyStr × α)} (hkeys : (fields.map Prod.fst).Nodup)
    (hkeys' : (fields'.map Prod.fst).Nodup) (h : ∀ k, fields.lookup k = fields'.lookup k) : fields.Perm fields' := by
  rw [List.perm_ext_iff_of_nodup (List.Nodup.of_map _ hkeys) (List.Nodup.of_map _ hkeys')]
  rintro ⟨k, v⟩
  rw [← lookup_eq_some_iff hkeys, ← lookup_eq_some_iff hkeys', h]

theorem lookup_of_perm {α : Type} {fields fields' : List (PyStr × α)} (h : fields.Perm fields')
    (hkeys : (fields.map Prod.fst).Nodup) (k : PyStr) : fields.lookup k = fields'.lookup k := by
  have hkeys' : (fields'.map Prod.fst).Nodup := (h.map Prod.fst).nodup_iff.mp hkeys
  apply Option.ext
  intro v
  rw [lookup_eq_some_iff hkeys, lookup_eq_some_iff hkeys', h.mem_iff]

/-- An object with the fields of another and no key besides. -/
theorem lookup_eq_template {α : Type} {document template : List (PyStr × α)}
    (hkeys : ∀ k ∈ document.map Prod.fst, k ∈ template.map Prod.fst)
    (hvalues : ∀ f ∈ template, document.lookup f.1 = some f.2) (k : PyStr) : document.lookup k = template.lookup k := by
  cases h : template.lookup k with
  | some v => exact hvalues (k, v) (mem_of_lookup h)
  | none =>
    have hnot : k ∉ template.map Prod.fst := by
      rw [← lookup_isSome_iff, h]
      simp
    have hnone : (document.lookup k).isSome = false := by
      rw [← Bool.not_eq_true, lookup_isSome_iff]
      exact fun hk => hnot (hkeys k hk)
    rwa [Option.isSome_eq_false_iff, Option.isNone_iff_eq_none] at hnone

/-- Two objects with the same keys in the same places, where the values of one key agree. -/
theorem lookup_map_of_forall₂ {α β : Type} {g : α → β} {k : PyStr} {fields fields' : List (PyStr × α)}
    (h : List.Forall₂ (fun f f' => f.1 = f'.1 ∧ (f.1 = k → g f.2 = g f'.2)) fields fields') :
    (fields.lookup k).map g = (fields'.lookup k).map g := by
  induction h with
  | nil => rfl
  | @cons f f' fs fs' hf _ ih =>
    obtain ⟨l, v⟩ := f
    obtain ⟨l', v'⟩ := f'
    obtain ⟨rfl, hvalue⟩ := hf
    rw [List.lookup_cons, List.lookup_cons]
    by_cases hk : k = l
    · subst hk
      rw [beq_self_eq_true]
      exact congrArg some (hvalue rfl)
    · rw [beq_eq_false_iff_ne.mpr hk]
      exact ih

/-- A value that is not `None` is there. -/
theorem lookup_of_dictGet {fields : List (PyStr × Json)} {k : PyStr} {v : Json} (h : dictGet fields k = v)
    (hv : v ≠ .null) : fields.lookup k = some v := by
  unfold dictGet at h
  cases hlookup : fields.lookup k with
  | none =>
    rw [hlookup] at h
    exact absurd h.symm hv
  | some w =>
    rw [hlookup] at h
    exact congrArg some h

theorem dictGet_filter_ne (fields : List (PyStr × Json)) {k l : PyStr} (hk : k ≠ l) :
    dictGet (fields.filter fun f => f.1 ≠ l) k = dictGet fields k := by
  rw [dictGet, dictGet, lookup_filter_ne fields hk]

theorem dictGet_append_of_ne (fields : List (PyStr × Json)) (v : Json) {k l : PyStr} (hk : k ≠ l) :
    dictGet (fields ++ [(l, v)]) k = dictGet fields k := by
  have hlookup : (fields ++ [(l, v)]).lookup k = fields.lookup k := by
    rw [List.lookup_append, List.lookup_cons, beq_eq_false_iff_ne.mpr hk, List.lookup_nil, Option.or_none]
  rw [dictGet, dictGet, hlookup]

theorem dictGet_append_self (fields : List (PyStr × Json)) (k : PyStr) (v : Json) :
    dictGet ((fields.filter fun f => f.1 ≠ k) ++ [(k, v)]) k = v := by
  have hnone : (fields.filter fun f => f.1 ≠ k).lookup k = none := by
    rw [List.lookup_eq_none_iff]
    intro f hf
    exact bne_iff_ne.mpr (of_decide_eq_true (List.mem_filter.mp hf).2).symm
  rw [dictGet, List.lookup_append, hnone, Option.none_or, List.lookup_cons, beq_self_eq_true]
  rfl

theorem dictGet_of_lookup {fields : List (PyStr × Json)} {k : PyStr} {v : Json} (h : fields.lookup k = some v) :
    dictGet fields k = v := by
  rw [dictGet, h]
  rfl

theorem lookup_of_key {fields : List (PyStr × Json)} {k : PyStr} (h : k ∈ fields.map Prod.fst) :
    fields.lookup k = some (dictGet fields k) := by
  obtain ⟨v, hv⟩ := Option.isSome_iff_exists.mp ((lookup_isSome_iff fields k).mpr h)
  rw [hv, dictGet_of_lookup hv]

theorem mem_of_dictGet {fields : List (PyStr × Json)} {k t : PyStr} (h : dictGet fields k = .str t) :
    (k, .str t) ∈ fields :=
  mem_of_lookup (lookup_of_dictGet h Json.noConfusion)

end Fields

section Same

/-- The same document but for the order of keys in its objects. -/
def SameJson (v w : Json) : Prop := sortKeys v = sortKeys w

theorem sameJson_refl (v : Json) : SameJson v v := rfl

/-- A value that is neither a list nor an object is the same only as itself. -/
theorem sameJson_scalar {v w : Json} (harr : ∀ items, w ≠ .arr items) (hobj : ∀ fields, w ≠ .obj fields) :
    SameJson v w ↔ v = w := by
  unfold SameJson
  have hw : sortKeys w = w := by
    cases w with
    | arr items => exact absurd rfl (harr items)
    | obj fields => exact absurd rfl (hobj fields)
    | _ => rfl
  rw [hw]
  constructor
  · intro h
    cases v with
    | arr items => exact absurd h.symm (harr _)
    | obj fields => exact absurd h.symm (hobj _)
    | _ => exact h
  · rintro rfl
    exact hw

/-- Objects are the same when they have the same values under the same keys. -/
theorem sameJson_obj_iff {fields fields' : List (PyStr × Json)} (hkeys : (fields.map Prod.fst).Nodup)
    (hkeys' : (fields'.map Prod.fst).Nodup) : SameJson (.obj fields) (.obj fields') ↔
      ∀ k, (fields.lookup k).map sortKeys = (fields'.lookup k).map sortKeys := by
  have hsorted : ∀ fs : List (PyStr × Json), (fs.map Prod.fst).Nodup → ((sortFields fs).map Prod.fst).Nodup := by
    intro fs h
    rw [map_sortFields, List.map_map]
    exact h
  have hlookup : ∀ (fs : List (PyStr × Json)) k, (sortFields fs).lookup k = (fs.lookup k).map sortKeys := by
    intro fs k
    rw [map_sortFields, lookup_map_snd]
  unfold SameJson
  rw [sortKeys, sortKeys, Json.obj.injEq]
  constructor
  · intro h k
    rw [← hlookup, ← hlookup]
    have hperm := List.perm_insertionSort (fun f g => strLe f.1 g.1 = true) (sortFields fields)
    rw [h] at hperm
    have hperm : (sortFields fields).Perm (sortFields fields') := hperm.symm.trans (List.perm_insertionSort _ _)
    exact lookup_of_perm hperm (hsorted fields hkeys) k
  · intro h
    apply insertionSort_eq_of_perm Prod.fst _ (hsorted fields hkeys)
    apply perm_of_lookup (hsorted fields hkeys) (hsorted fields' hkeys')
    intro k
    rw [hlookup, hlookup, h]

mutual

/-- Sorting keys again changes nothing. -/
theorem sortKeys_sortKeys : ∀ v : Json, sortKeys (sortKeys v) = sortKeys v
  | .null | .bool _ | .int _ | .float _ | .str _ => rfl
  | .arr items => by rw [sortKeys, sortKeys, sortItems_sortItems items]
  | .obj fields => by
    have hmap : sortFields ((sortFields fields).insertionSort fun f g => strLe f.1 g.1 = true) =
        (sortFields (sortFields fields)).insertionSort fun f g => strLe f.1 g.1 = true := by
      rw [map_sortFields, map_sortFields (sortFields fields)]
      exact List.map_insertionSort _ _ _ _ fun _ _ _ _ => Iff.rfl
    rw [sortKeys, sortKeys, hmap, sortFields_sortFields fields]
    exact congrArg Json.obj (List.Pairwise.insertionSort_eq (List.pairwise_insertionSort _ _))

theorem sortItems_sortItems : ∀ vs : List Json, sortItems (sortItems vs) = sortItems vs
  | [] => rfl
  | v :: vs => by rw [sortItems, sortItems, sortKeys_sortKeys v, sortItems_sortItems vs]

theorem sortFields_sortFields : ∀ fs : List (PyStr × Json), sortFields (sortFields fs) = sortFields fs
  | [] => rfl
  | (k, v) :: fs => by rw [sortFields, sortFields, sortKeys_sortKeys v, sortFields_sortFields fs]

end

mutual

/-- No object of a document repeats a key. -/
def UniqueKeys : Json → Prop
  | .arr items => ItemsUniqueKeys items
  | .obj fields => (fields.map Prod.fst).Nodup ∧ FieldsUniqueKeys fields
  | _ => True

def ItemsUniqueKeys : List Json → Prop
  | [] => True
  | v :: vs => UniqueKeys v ∧ ItemsUniqueKeys vs

def FieldsUniqueKeys : List (PyStr × Json) → Prop
  | [] => True
  | (_, v) :: fs => UniqueKeys v ∧ FieldsUniqueKeys fs

end

theorem itemsUniqueKeys_iff (items : List Json) : ItemsUniqueKeys items ↔ ∀ v ∈ items, UniqueKeys v := by
  induction items with
  | nil => simp [ItemsUniqueKeys]
  | cons v vs ih => rw [ItemsUniqueKeys, ih, List.forall_mem_cons]

theorem fieldsUniqueKeys_iff (fields : List (PyStr × Json)) :
    FieldsUniqueKeys fields ↔ ∀ f ∈ fields, UniqueKeys f.2 := by
  induction fields with
  | nil => simp [FieldsUniqueKeys]
  | cons f fs ih => rw [FieldsUniqueKeys, ih, List.forall_mem_cons]

theorem UniqueKeys.nodup {fields : List (PyStr × Json)} (h : UniqueKeys (.obj fields)) : (fields.map Prod.fst).Nodup := by
  rw [UniqueKeys] at h
  exact h.1

theorem UniqueKeys.items {items : List Json} (h : UniqueKeys (.arr items)) : ∀ v ∈ items, UniqueKeys v := by
  rw [UniqueKeys, itemsUniqueKeys_iff] at h
  exact h

theorem UniqueKeys.dictGet {fields : List (PyStr × Json)} (h : UniqueKeys (.obj fields)) (k : PyStr) :
    UniqueKeys (dictGet fields k) := by
  rw [UniqueKeys, fieldsUniqueKeys_iff] at h
  rw [Python.dictGet]
  cases hk : fields.lookup k with
  | none => exact trivial
  | some v => exact h.2 _ (mem_of_lookup hk)

/-- Equal objects have the same keys. -/
theorem keys_of_pyEq {fs gs : List (PyStr × Json)} (hkeys : (fs.map Prod.fst).Nodup)
    (h : pyEq (.obj fs) (.obj gs) = true) : (fs.map Prod.fst).Perm (gs.map Prod.fst) := by
  obtain ⟨hlen, hfields⟩ := pyEq_obj_iff.mp h
  have hsub : fs.map Prod.fst ⊆ gs.map Prod.fst := by
    intro k hk
    obtain ⟨f, hf, rfl⟩ := List.mem_map.mp hk
    obtain ⟨w, hw, -⟩ := hfields f hf
    exact List.mem_map.mpr ⟨(f.1, w), mem_of_lookup hw, rfl⟩
  exact (List.subperm_of_subset hkeys hsub).perm_of_length_le (by simp [hlen])

/-- A text of one of two equal objects is a text of the other. -/
theorem dictGet_str_of_pyEq {fs gs : List (PyStr × Json)} (hkeys : (fs.map Prod.fst).Nodup)
    (h : pyEq (.obj fs) (.obj gs) = true) {k t : PyStr} (hk : dictGet gs k = .str t) : dictGet fs k = .str t := by
  have hlookup := lookup_of_dictGet hk Json.noConfusion
  have hmem : k ∈ fs.map Prod.fst := by
    rw [(keys_of_pyEq hkeys h).mem_iff, ← lookup_isSome_iff, hlookup]
    rfl
  obtain ⟨v, hv⟩ := Option.isSome_iff_exists.mp ((lookup_isSome_iff fs k).mpr hmem)
  obtain ⟨w, hw, heq⟩ := (pyEq_obj_iff.mp h).2 (k, v) (mem_of_lookup hv)
  rw [hlookup, Option.some.injEq] at hw
  subst hw
  rw [dictGet_of_lookup hv]
  exact (pyEq_str v t).mp heq

/-- An object with the keys of a template and the same values is the template. -/
theorem sameJson_of_template {document template : List (PyStr × Json)} (hdocument : (document.map Prod.fst).Nodup)
    (htemplate : (template.map Prod.fst).Nodup)
    (hkeys : ∀ k, k ∈ document.map Prod.fst ↔ k ∈ template.map Prod.fst)
    (hvalues : ∀ f ∈ template, SameJson (dictGet document f.1) f.2) : SameJson (.obj document) (.obj template) := by
  rw [sameJson_obj_iff hdocument htemplate]
  intro k
  rw [← lookup_map_snd, ← lookup_map_snd]
  apply lookup_eq_template
  · intro k hk
    rw [List.map_map] at hk ⊢
    exact (hkeys k).mp hk
  · intro f hf
    obtain ⟨g, hg, rfl⟩ := List.mem_map.mp hf
    have hkey : g.1 ∈ document.map Prod.fst := (hkeys _).mpr (List.mem_map.mpr ⟨g, hg, rfl⟩)
    rw [lookup_map_snd, lookup_of_key hkey]
    exact congrArg some (hvalues g hg)

/-- An object that equals one of texts is the same. -/
theorem sameJson_of_pyEq_texts {v : Json} {template : List (PyStr × Json)} (hv : UniqueKeys v)
    (htemplate : (template.map Prod.fst).Nodup) (htexts : ∀ f ∈ template, ∃ t, f.2 = .str t)
    (h : pyEq v (.obj template) = true) : SameJson v (.obj template) := by
  cases v with
  | obj fields =>
    have hkeys := keys_of_pyEq hv.nodup h
    apply sameJson_of_template hv.nodup htemplate fun k => hkeys.mem_iff
    intro f hf
    obtain ⟨t, ht⟩ := htexts f hf
    have hget : dictGet template f.1 = .str t := by
      rw [← ht]
      exact dictGet_of_lookup (lookup_of_mem htemplate hf)
    rw [dictGet_str_of_pyEq hv.nodup h hget, ht]
    exact sameJson_refl _
  | arr items => simp [pyEq] at h
  | _ => simp [pyEq, number] at h

variable [PyRuntime]

theorem fieldsLegible_iff (fields : List (PyStr × Json)) : FieldsLegible fields ↔ ∀ f ∈ fields, Legible f.2 := by
  induction fields with
  | nil => simp [FieldsLegible]
  | cons f fs ih => rw [FieldsLegible, ih, List.forall_mem_cons]

theorem Legible.nodup {fields : List (PyStr × Json)} (h : Legible (.obj fields)) : (fields.map Prod.fst).Nodup := by
  rw [Legible] at h
  exact h.1

theorem Legible.lookup {fields : List (PyStr × Json)} (h : Legible (.obj fields)) {k : PyStr} {v : Json}
    (hk : fields.lookup k = some v) : Legible v := by
  rw [Legible, fieldsLegible_iff] at h
  exact h.2 _ (mem_of_lookup hk)

mutual

theorem Legible.uniqueKeys : ∀ {v : Json}, Legible v → UniqueKeys v
  | .null, _ | .bool _, _ | .int _, _ | .float _, _ | .str _, _ => trivial
  | .arr items, h => by
    rw [Legible] at h
    rw [UniqueKeys]
    exact ItemsLegible.uniqueKeys h
  | .obj fields, h => by
    rw [Legible] at h
    rw [UniqueKeys]
    exact ⟨h.1, FieldsLegible.uniqueKeys h.2⟩

theorem ItemsLegible.uniqueKeys : ∀ {vs : List Json}, ItemsLegible vs → ItemsUniqueKeys vs
  | [], _ => trivial
  | v :: vs, h => by
    rw [ItemsLegible] at h
    rw [ItemsUniqueKeys]
    exact ⟨h.1.uniqueKeys, ItemsLegible.uniqueKeys h.2⟩

theorem FieldsLegible.uniqueKeys : ∀ {fs : List (PyStr × Json)}, FieldsLegible fs → FieldsUniqueKeys fs
  | [], _ => trivial
  | (k, v) :: fs, h => by
    rw [FieldsLegible] at h
    rw [FieldsUniqueKeys]
    exact ⟨h.1.uniqueKeys, FieldsLegible.uniqueKeys h.2⟩

end

end Same

end EvaluationLab.Python
