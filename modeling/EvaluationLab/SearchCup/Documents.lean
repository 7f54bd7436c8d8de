import EvaluationLab.BM0.Fields
import EvaluationLab.CSLive.Digest
import EvaluationLab.Python.Loaded
import EvaluationLab.SearchCup.Content
import EvaluationLab.SearchCup.Schema

/-! What a contract sees of a document does not depend on the order of its keys. -/
namespace EvaluationLab.SearchCup
open Python Effect
open CSLive (floatsFinite itemsFinite fieldsFinite)

section Access

/-- `document[key]` of a document that was not checked for the key. -/
def required (document : Json) (key : PyStr) : Except PyExc Json :=
  match document with
  | .obj fields =>
    match fields.lookup key with
    | some value => .ok value
    | none => .error (BM0.keyError key)
  | _ => .error (typeError "indices must be integers")

/-- `except (KeyError, TypeError): raise ValueError(message)`. -/
def reshaping {α : Type} (message : PyStr) : Except PyExc α → Except PyExc α
  | .ok a => .ok a
  | .error e => if e.isA "KeyError" ∨ e.isA "TypeError" then .error (valueError message) else .error e

theorem reshaping_eq_ok_iff {α : Type} {message : PyStr} {x : Except PyExc α} {a : α} :
    reshaping message x = .ok a ↔ x = .ok a := by
  cases x with
  | ok b => rfl
  | error e =>
    rw [reshaping]
    split_ifs <;> simp

/-- A new value for every key. -/
theorem lookup_mapValues {α β : Type} (g : PyStr → α → β) (fields : List (PyStr × α)) (k : PyStr) :
    (fields.map fun f => (f.1, g f.1 f.2)).lookup k = (fields.lookup k).map (g k) := by
  induction fields with
  | nil => rfl
  | cons f fs ih =>
    obtain ⟨k', v⟩ := f
    rw [List.map_cons, List.lookup_cons, List.lookup_cons]
    by_cases h : k = k'
    · subst h
      simp
    · rw [beq_eq_false_iff_ne.mpr h]
      exact ih

end Access

section Sorted

/-- The fields of an object with sorted keys. -/
def sortedFields (fields : List (PyStr × Json)) : List (PyStr × Json) :=
  (sortFields fields).insertionSort fun f g => strLe f.1 g.1 = true

theorem sortKeys_obj (fields : List (PyStr × Json)) : sortKeys (.obj fields) = .obj (sortedFields fields) := by
  rw [sortKeys, sortedFields]

theorem mem_sortedFields {fields : List (PyStr × Json)} {f : PyStr × Json} :
    f ∈ sortedFields fields ↔ ∃ g ∈ fields, (g.1, sortKeys g.2) = f := by
  rw [sortedFields, List.mem_insertionSort, map_sortFields, List.mem_map]

theorem keys_sortedFields (fields : List (PyStr × Json)) :
    ((sortedFields fields).map Prod.fst).Perm (fields.map Prod.fst) := by
  have hperm := (List.perm_insertionSort (fun f g => strLe f.1 g.1 = true) (sortFields fields)).map Prod.fst
  rw [map_sortFields, List.map_map] at hperm
  rw [sortedFields, map_sortFields]
  exact hperm

theorem lookup_sortedFields {fields : List (PyStr × Json)} (h : (fields.map Prod.fst).Nodup) (k : PyStr) :
    (sortedFields fields).lookup k = (fields.lookup k).map sortKeys := by
  have hkeys := (keys_sortedFields fields).nodup_iff.mpr h
  rw [sortedFields] at hkeys ⊢
  rw [lookup_of_perm (List.perm_insertionSort _ _) hkeys, map_sortFields, lookup_map_snd]

theorem dictGet_sortedFields {fields : List (PyStr × Json)} (h : (fields.map Prod.fst).Nodup) (k : PyStr) :
    dictGet (sortedFields fields) k = sortKeys (dictGet fields k) := by
  rw [dictGet, dictGet, lookup_sortedFields h]
  cases fields.lookup k <;> rfl

theorem get_sortKeys {v : Json} (h : UniqueKeys v) (k : PyStr) : get (sortKeys v) k = sortKeys (get v k) := by
  cases v with
  | obj fields =>
    rw [sortKeys_obj]
    exact dictGet_sortedFields h.nodup k
  | _ => rfl

theorem UniqueKeys.get {v : Json} (h : UniqueKeys v) (k : PyStr) : UniqueKeys (get v k) := by
  cases v with
  | obj fields => exact h.dictGet k
  | _ => exact trivial

mutual

theorem uniqueKeys_sortKeys : ∀ {v : Json}, UniqueKeys v → UniqueKeys (sortKeys v)
  | .null, _ | .bool _, _ | .int _, _ | .float _, _ | .str _, _ => trivial
  | .arr items, h => by
    rw [UniqueKeys] at h
    rw [sortKeys, UniqueKeys]
    exact itemsUniqueKeys_sortItems h
  | .obj fields, h => by
    rw [UniqueKeys] at h
    rw [sortKeys_obj, UniqueKeys, fieldsUniqueKeys_iff]
    refine ⟨(keys_sortedFields fields).nodup_iff.mpr h.1, fun f hf => ?_⟩
    rw [sortedFields, List.mem_insertionSort] at hf
    exact (fieldsUniqueKeys_iff _).mp (fieldsUniqueKeys_sortFields h.2) f hf

theorem itemsUniqueKeys_sortItems : ∀ {vs : List Json}, ItemsUniqueKeys vs → ItemsUniqueKeys (sortItems vs)
  | [], _ => trivial
  | _ :: _, h => ⟨uniqueKeys_sortKeys h.1, itemsUniqueKeys_sortItems h.2⟩

theorem fieldsUniqueKeys_sortFields : ∀ {fs : List (PyStr × Json)}, FieldsUniqueKeys fs → FieldsUniqueKeys (sortFields fs)
  | [], _ => trivial
  | (_, _) :: _, h => ⟨uniqueKeys_sortKeys h.1, fieldsUniqueKeys_sortFields h.2⟩

end

theorem sortItems_eq_map (items : List Json) : sortItems items = items.map sortKeys := by
  induction items with
  | nil => rfl
  | cons v vs ih => rw [sortItems, ih, List.map_cons]

end Sorted

section Equality

mutual

/-- Equality does not depend on the order of keys. -/
theorem pyEq_sortKeys : ∀ (v : Json) {w : Json}, UniqueKeys w → pyEq (sortKeys v) (sortKeys w) = pyEq v w
  | .null, w, _ => by cases w <;> simp [sortKeys, pyEq]
  | .bool _, w, _ => by cases w <;> simp [sortKeys, pyEq, number]
  | .int _, w, _ => by cases w <;> simp [sortKeys, pyEq, number]
  | .float _, w, _ => by cases w <;> simp [sortKeys, pyEq, number]
  | .str _, w, _ => by cases w <;> simp [sortKeys, pyEq]
  | .arr vs, w, h => by
    cases w with
    | arr ws => exact itemsEq_sortItems vs h
    | _ => simp [sortKeys, pyEq]
  | .obj fs, w, h => by
    cases w with
    | obj gs =>
      have hlength : (sortedFields fs).length = (sortedFields gs).length ↔ fs.length = gs.length := by
        simp [sortedFields, map_sortFields]
      have hfields : (∀ f ∈ sortedFields fs, ∃ w, (sortedFields gs).lookup f.1 = some w ∧ pyEq f.2 w = true) ↔
          ∀ f ∈ fs, ∃ w, gs.lookup f.1 = some w ∧ pyEq f.2 w = true := by
        rw [← fieldsEq_iff, ← fieldsEq_iff, ← fieldsEq_sortFields fs h, fieldsEq_iff, fieldsEq_iff]
        simp only [sortedFields, List.mem_insertionSort]
      rw [sortKeys_obj, sortKeys_obj, Bool.eq_iff_iff, pyEq_obj_iff, pyEq_obj_iff, hlength, hfields]
    | _ => simp [sortKeys, pyEq]

theorem itemsEq_sortItems : ∀ (vs : List Json) {ws : List Json}, UniqueKeys (.arr ws) →
    itemsEq (sortItems vs) (sortItems ws) = itemsEq vs ws
  | [], ws, _ => by cases ws <;> rfl
  | v :: vs, [], _ => rfl
  | v :: vs, w :: ws, h => by
    rw [UniqueKeys, ItemsUniqueKeys] at h
    rw [sortItems, sortItems, itemsEq, itemsEq, pyEq_sortKeys v h.1, @itemsEq_sortItems vs ws h.2]

theorem fieldsEq_sortFields : ∀ (fs : List (PyStr × Json)) {gs : List (PyStr × Json)}, UniqueKeys (.obj gs) →
    fieldsEq (sortFields fs) (sortedFields gs) = fieldsEq fs gs
  | [], _, _ => rfl
  | (k, v) :: fs, gs, h => by
    rw [sortFields, fieldsEq, fieldsEq, fieldsEq_sortFields fs h, lookup_sortedFields h.nodup]
    cases hk : gs.lookup k with
    | none => rfl
    | some w =>
      have hw : UniqueKeys w := by
        rw [UniqueKeys, fieldsUniqueKeys_iff] at h
        exact h.2 _ (mem_of_lookup hk)
      rw [Option.map_some, Option.any_some, Option.any_some, pyEq_sortKeys v hw]

end

theorem numberEq_self {x : PyFloat} (h : floatsFinite (.float x) = true) : numberEq x x = true := by
  cases x with
  | finite q => simp [numberEq]
  | negativeZero => rfl
  | infinity negative => simp [numberEq]
  | nan => cases h

mutual

/-- A document without NaN equals itself. -/
theorem pyEq_self : ∀ {v : Json}, floatsFinite v = true → UniqueKeys v → pyEq v v = true
  | .null, _, _ => rfl
  | .bool b, _, _ => by simp [pyEq, number, numberEq]
  | .int n, _, _ => by simp [pyEq, number, numberEq]
  | .float x, h, _ => by
    rw [pyEq, number, Option.any_some]
    exact numberEq_self h
  | .str s, _, _ => by simp [pyEq]
  | .arr items, h, hkeys => by
    rw [floatsFinite] at h
    rw [UniqueKeys] at hkeys
    rw [pyEq]
    exact itemsEq_self h hkeys
  | .obj fields, h, hkeys => by
    have hlookup : ∀ f ∈ fields, fields.lookup f.1 = some f.2 := fun f hf => lookup_of_mem hkeys.nodup hf
    rw [floatsFinite] at h
    rw [UniqueKeys] at hkeys
    rw [pyEq, beq_self_eq_true, Bool.true_and]
    exact fieldsEq_self h hkeys.2 hlookup

theorem itemsEq_self : ∀ {vs : List Json}, itemsFinite vs = true → ItemsUniqueKeys vs → itemsEq vs vs = true
  | [], _, _ => rfl
  | v :: vs, h, hkeys => by
    rw [itemsFinite, Bool.and_eq_true] at h
    rw [itemsEq, pyEq_self h.1 hkeys.1, itemsEq_self h.2 hkeys.2]
    rfl

theorem fieldsEq_self : ∀ {fs gs : List (PyStr × Json)}, fieldsFinite fs = true → FieldsUniqueKeys fs →
    (∀ f ∈ fs, gs.lookup f.1 = some f.2) → fieldsEq fs gs = true
  | [], _, _, _, _ => rfl
  | (k, v) :: fs, gs, h, hkeys, hlookup => by
    rw [fieldsFinite, Bool.and_eq_true] at h
    rw [List.forall_mem_cons] at hlookup
    rw [fieldsEq, hlookup.1, Option.any_some, pyEq_self h.1 hkeys.1, fieldsEq_self h.2 hkeys.2 hlookup.2]
    rfl

end

theorem pyEq_of_sameJson {v w : Json} (hw : floatsFinite w = true) (hkeys : UniqueKeys w) (h : SameJson v w) :
    pyEq v w = true := by
  rw [← pyEq_sortKeys v hkeys, h, pyEq_sortKeys w hkeys]
  exact pyEq_self hw hkeys

theorem sameType_sortKeys (v w : Json) : sameType (sortKeys v) w = sameType v w := by
  cases v <;> cases w <;> rfl

theorem number_sortKeys (v : Json) : number (sortKeys v) = number v := by
  cases v <;> rfl

theorem truthy_sortKeys (v : Json) : (sortKeys v).truthy = v.truthy := by
  cases v with
  | arr items => cases items <;> rfl
  | obj fields =>
    have hlength : (sortedFields fields).length = fields.length := by simp [sortedFields, map_sortFields]
    rw [sortKeys_obj, Json.truthy, Json.truthy]
    cases fields with
    | nil => rfl
    | cons f fs =>
      cases hs : sortedFields (f :: fs) with
      | nil =>
        rw [hs] at hlength
        cases hlength
      | cons g gs => rfl
  | _ => rfl

theorem sortKeys_eq_scalar {v w : Json} (h : sortKeys v = w) (harr : ∀ items, w ≠ .arr items)
    (hobj : ∀ fields, w ≠ .obj fields) : v = w := by
  cases v with
  | arr items => exact absurd h.symm (harr _)
  | obj fields => exact absurd h.symm (hobj _)
  | _ => exact h

theorem sortKeys_eq_str {v : Json} {s : PyStr} : sortKeys v = .str s ↔ v = .str s :=
  ⟨fun h => sortKeys_eq_scalar h (fun _ => Json.noConfusion) fun _ => Json.noConfusion, fun h => by rw [h]; rfl⟩

end Equality

section Shape

/-- A list of sorted items has the items that repeat where the list has them. -/
theorem pairwise_sortKeys {values : List Json} (h : ∀ v ∈ values, UniqueKeys v) :
    (values.map sortKeys).Pairwise (fun v w => pyEq w v = false) ↔ values.Pairwise fun v w => pyEq w v = false := by
  rw [List.pairwise_map]
  constructor
  · intro hp
    exact hp.imp_of_mem fun {v w} hv _ hne => by rwa [pyEq_sortKeys w (h v hv)] at hne
  · intro hp
    exact hp.imp_of_mem fun {v w} hv _ hne => by rwa [pyEq_sortKeys w (h v hv)]

/-- A constant of the schemas has no object in it, and comes with its own keys sorted. -/
def SortedConstant (value : Json) : Prop := UniqueKeys value ∧ sortKeys value = value

mutual

/-- Every constant of the schema is sorted. -/
def SortedConstants : Schema → Prop
  | .object properties _ => PropertiesSorted properties
  | .array items _ => SortedConstants items
  | .const value => SortedConstant value
  | .anyOf alternatives => AlternativesSorted alternatives
  | _ => True

def AlternativesSorted : List Schema → Prop
  | [] => True
  | s :: ss => SortedConstants s ∧ AlternativesSorted ss

def PropertiesSorted : List (PyStr × Schema) → Prop
  | [] => True
  | (_, s) :: ps => SortedConstants s ∧ PropertiesSorted ps

end

mutual

/-- Whether a document fits does not depend on the order of its keys. -/
theorem fits_sortKeys : ∀ {schema : Schema}, SortedConstants schema → ∀ {value : Json}, UniqueKeys value →
    (Fits schema (sortKeys value) ↔ Fits schema value)
  | .anyOf alternatives, hs, value, h => by
    rw [Fits, Fits]
    exact fitsAny_sortKeys hs h
  | .const expected, hs, value, h => by
    have heq : pyEq (sortKeys value) expected = pyEq value expected := by
      have hboth := pyEq_sortKeys value hs.1
      rwa [hs.2] at hboth
    rw [Fits, Fits, sameType_sortKeys, heq]
  | .enum values, _, value, _ => by
    rw [Fits, Fits]
    simp only [sortKeys_eq_str]
  | .object properties required, hs, value, h => by
    rw [SortedConstants] at hs
    rw [Fits, Fits]
    cases value with
    | obj fields =>
      have hvalue : ∀ f ∈ fields, UniqueKeys f.2 := by
        rw [UniqueKeys, fieldsUniqueKeys_iff] at h
        exact h.2
      have hfields : (∀ f ∈ sortedFields fields, FitsProperty properties f.1 f.2) ↔
          ∀ f ∈ fields, FitsProperty properties f.1 f.2 := by
        simp only [mem_sortedFields, forall_exists_index, and_imp, forall_apply_eq_imp_iff₂]
        exact forall₂_congr fun f hf => fitsProperty_sortKeys hs (hvalue f hf)
      simp only [sortKeys_obj, Json.obj.injEq, exists_eq_left', (keys_sortedFields fields).mem_iff, hfields]
    | _ => simp [sortKeys]
  | .array items minItems, hs, value, h => by
    rw [SortedConstants] at hs
    rw [Fits, Fits]
    cases value with
    | arr values =>
      have hitems := h.items
      have hall : (∀ v ∈ values.map sortKeys, Fits items v) ↔ ∀ v ∈ values, Fits items v := by
        rw [List.forall_mem_map]
        exact forall₂_congr fun v hv => fits_sortKeys hs (hitems v hv)
      simp only [sortKeys, sortItems_eq_map, Json.arr.injEq, exists_eq_left', List.length_map,
        pairwise_sortKeys hitems, hall]
    | _ => simp [sortKeys]
  | .string minLength pattern, _, value, _ => by
    rw [Fits, Fits]
    simp only [sortKeys_eq_str]
  | .integer minimum, _, value, _ => by
    rw [Fits, Fits]
    cases value <;> simp [sortKeys]
  | .number minimum exclusiveMinimum, _, value, _ => by
    rw [Fits, Fits, number_sortKeys]
    cases value <;> simp [sortKeys, Json.isBool]
  | .boolean, _, value, _ => by
    rw [Fits, Fits]
    cases value <;> simp [sortKeys]
  | .null, _, value, _ => by
    rw [Fits, Fits]
    cases value <;> simp [sortKeys]

theorem fitsAny_sortKeys : ∀ {alternatives : List Schema}, AlternativesSorted alternatives → ∀ {value : Json},
    UniqueKeys value → (FitsAny alternatives (sortKeys value) ↔ FitsAny alternatives value)
  | [], _, _, _ => by rw [FitsAny, FitsAny]
  | _ :: _, hs, _, h => by rw [FitsAny, FitsAny, fits_sortKeys hs.1 h, fitsAny_sortKeys hs.2 h]

theorem fitsProperty_sortKeys : ∀ {properties : List (PyStr × Schema)}, PropertiesSorted properties →
    ∀ {key : PyStr} {value : Json}, UniqueKeys value →
    (FitsProperty properties key (sortKeys value) ↔ FitsProperty properties key value)
  | [], _, _, _, _ => by rw [FitsProperty, FitsProperty]
  | (k, schema) :: rest, hs, key, value, h => by
    rw [FitsProperty, FitsProperty]
    split_ifs
    · exact fits_sortKeys hs.1 h
    · exact fitsProperty_sortKeys hs.2 h

end

end Shape

section Legibility

mutual

theorem intsPrintable_sortKeys : ∀ v : Json, intsPrintable (sortKeys v) = intsPrintable v
  | .null | .bool _ | .int _ | .float _ | .str _ => rfl
  | .arr items => by rw [sortKeys, intsPrintable, intsPrintable, itemsPrintable_sortItems items]
  | .obj fields => by
    rw [sortKeys_obj, intsPrintable_obj, intsPrintable, ← fieldsPrintable_sortFields fields, ← intsPrintable,
      intsPrintable_obj, Bool.eq_iff_iff, List.all_eq_true, List.all_eq_true]
    simp only [sortedFields, List.mem_insertionSort]

theorem itemsPrintable_sortItems : ∀ vs : List Json, itemsPrintable (sortItems vs) = itemsPrintable vs
  | [] => rfl
  | v :: vs => by
    rw [sortItems, itemsPrintable, itemsPrintable, intsPrintable_sortKeys v, itemsPrintable_sortItems vs]

theorem fieldsPrintable_sortFields : ∀ fs : List (PyStr × Json), fieldsPrintable (sortFields fs) = fieldsPrintable fs
  | [] => rfl
  | (_, v) :: fs => by
    rw [sortFields, fieldsPrintable, fieldsPrintable, intsPrintable_sortKeys v, fieldsPrintable_sortFields fs]

end

variable [PyRuntime]

mutual

theorem legible_sortKeys : ∀ {v : Json}, Legible v → Legible (sortKeys v)
  | .null, h | .bool _, h | .int _, h | .float _, h | .str _, h => h
  | .arr items, h => by
    rw [Legible] at h
    rw [sortKeys, Legible]
    exact itemsLegible_sortItems h
  | .obj fields, h => by
    rw [Legible] at h
    rw [sortKeys_obj, Legible, fieldsLegible_iff]
    refine ⟨(keys_sortedFields fields).nodup_iff.mpr h.1, fun f hf => ?_⟩
    rw [sortedFields, List.mem_insertionSort] at hf
    exact (fieldsLegible_iff _).mp (fieldsLegible_sortFields h.2) f hf

theorem itemsLegible_sortItems : ∀ {vs : List Json}, ItemsLegible vs → ItemsLegible (sortItems vs)
  | [], _ => trivial
  | _ :: _, h => ⟨legible_sortKeys h.1, itemsLegible_sortItems h.2⟩

theorem fieldsLegible_sortFields : ∀ {fs : List (PyStr × Json)}, FieldsLegible fs → FieldsLegible (sortFields fs)
  | [], _ => trivial
  | (_, _) :: _, h => ⟨legible_sortKeys h.1, fieldsLegible_sortFields h.2⟩

end

mutual

/-- A document without floats and repeated keys. -/
def floatless : Json → Bool
  | .float _ => false
  | .arr items => itemsFloatless items
  | .obj fields => decide (fields.map Prod.fst).Nodup && fieldsFloatless fields
  | _ => true

def itemsFloatless : List Json → Bool
  | [] => true
  | v :: vs => floatless v && itemsFloatless vs

def fieldsFloatless : List (PyStr × Json) → Bool
  | [] => true
  | (_, v) :: fs => floatless v && fieldsFloatless fs

end

mutual

theorem legible_of_floatless : ∀ {v : Json}, floatless v = true → Legible v
  | .null, _ | .bool _, _ | .int _, _ | .str _, _ => trivial
  | .float _, h => by cases h
  | .arr items, h => by
    rw [floatless] at h
    rw [Legible]
    exact itemsLegible_of_floatless h
  | .obj fields, h => by
    rw [floatless, Bool.and_eq_true, decide_eq_true_eq] at h
    rw [Legible]
    exact ⟨h.1, fieldsLegible_of_floatless h.2⟩

theorem itemsLegible_of_floatless : ∀ {vs : List Json}, itemsFloatless vs = true → ItemsLegible vs
  | [], _ => trivial
  | v :: vs, h => by
    rw [itemsFloatless, Bool.and_eq_true] at h
    exact ⟨legible_of_floatless h.1, itemsLegible_of_floatless h.2⟩

theorem fieldsLegible_of_floatless : ∀ {fs : List (PyStr × Json)}, fieldsFloatless fs = true → FieldsLegible fs
  | [], _ => trivial
  | (_, v) :: fs, h => by
    rw [fieldsFloatless, Bool.and_eq_true] at h
    exact ⟨legible_of_floatless h.1, fieldsLegible_of_floatless h.2⟩

end

theorem Legible.get {v : Json} (h : Legible v) (k : PyStr) : Legible (get v k) := by
  cases v with
  | obj fields =>
    rw [SearchCup.get, dictGet]
    cases hk : fields.lookup k with
    | none => exact trivial
    | some w => exact h.lookup hk
  | _ => exact trivial

end Legibility

section Same

theorem sameJson_symm {v w : Json} (h : SameJson v w) : SameJson w v := Eq.symm h

theorem fits_of_sameJson {schema : Schema} (hschema : SortedConstants schema) {v w : Json} (hv : UniqueKeys v)
    (hw : UniqueKeys w) (h : SameJson v w) : Fits schema v ↔ Fits schema w := by
  rw [← fits_sortKeys hschema hv, h, fits_sortKeys hschema hw]

theorem sameJson_get {v w : Json} (hv : UniqueKeys v) (hw : UniqueKeys w) (h : SameJson v w) (k : PyStr) :
    SameJson (get v k) (get w k) := by
  rw [SameJson, ← get_sortKeys hv, h, get_sortKeys hw]

theorem isStr_sortKeys (v : Json) (s : PyStr) : (sortKeys v).isStr s = v.isStr s := by
  cases v <;> rfl

theorem isNull_sortKeys (v : Json) : (sortKeys v).isNull = v.isNull := by
  cases v <;> rfl

theorem isStr_of_sameJson {v w : Json} (h : SameJson v w) (s : PyStr) : v.isStr s = w.isStr s := by
  rw [← isStr_sortKeys, h, isStr_sortKeys]

theorem isNull_of_sameJson {v w : Json} (h : SameJson v w) : v.isNull = w.isNull := by
  rw [← isNull_sortKeys, h, isNull_sortKeys]

theorem truthy_of_sameJson {v w : Json} (h : SameJson v w) : v.truthy = w.truthy := by
  rw [← truthy_sortKeys, h, truthy_sortKeys]

theorem contentSafe_of_sameJson [PyRuntime] {v w : Json} (h : SameJson v w) : ContentSafe v ↔ ContentSafe w := by
  rw [← contentSafe_sortKeys, h, contentSafe_sortKeys]

end Same

end EvaluationLab.SearchCup
