import EvaluationLab.SearchCup.SearchSpec

/-! Documents without numbers: their canonical text tells them apart. -/
namespace EvaluationLab.SearchCup
open Python
open QA0 (Fields)

variable [PyRuntime]

/-- A document whose canonical text tells it from every other one. -/
structure Plain (v : Json) : Prop where
  legible : Legible v
  printable : intsPrintable v = true

mutual

/-- The schema accepts no number. -/
def Worded : Schema → Prop
  | .object properties _ => PropertiesWorded properties
  | .array items _ => Worded items
  | .const value => ∃ s, value = .str s
  | .anyOf _ | .integer _ | .number _ _ => False
  | _ => True

def PropertiesWorded : List (PyStr × Schema) → Prop
  | [] => True
  | (_, s) :: ps => Worded s ∧ PropertiesWorded ps

end

theorem plain_obj_iff {fields : Fields} : Plain (.obj fields) ↔ (fields.map Prod.fst).Nodup ∧ ∀ f ∈ fields, Plain f.2 := by
  constructor
  · rintro ⟨hlegible, hprint⟩
    rw [Legible, fieldsLegible_iff] at hlegible
    rw [intsPrintable_obj, List.all_eq_true] at hprint
    exact ⟨hlegible.1, fun f hf => ⟨hlegible.2 f hf, hprint f hf⟩⟩
  · rintro ⟨hkeys, hfields⟩
    constructor
    · rw [Legible, fieldsLegible_iff]
      exact ⟨hkeys, fun f hf => (hfields f hf).legible⟩
    · rw [intsPrintable_obj, List.all_eq_true]
      exact fun f hf => (hfields f hf).printable

omit [PyRuntime] in
theorem itemsPrintable_iff (items : List Json) : itemsPrintable items = true ↔ ∀ v ∈ items, intsPrintable v = true := by
  induction items with
  | nil => simp [itemsPrintable]
  | cons v vs ih => rw [itemsPrintable, Bool.and_eq_true, ih, List.forall_mem_cons]

theorem plain_arr_iff {items : List Json} : Plain (.arr items) ↔ ∀ v ∈ items, Plain v := by
  constructor
  · rintro ⟨hlegible, hprint⟩
    rw [Legible, itemsLegible_iff] at hlegible
    rw [intsPrintable, itemsPrintable_iff] at hprint
    exact fun v hv => ⟨hlegible v hv, hprint v hv⟩
  · intro hitems
    constructor
    · rw [Legible, itemsLegible_iff]
      exact fun v hv => (hitems v hv).legible
    · rw [intsPrintable, itemsPrintable_iff]
      exact fun v hv => (hitems v hv).printable

mutual

/-- A document of texts is plain. -/
theorem plain_of_fits : ∀ {schema : Schema}, Worded schema → ∀ {v : Json}, UniqueKeys v → Fits schema v → Plain v
  | .object properties _, hs, v, hkeys, h => by
    rw [Fits] at h
    obtain ⟨fields, rfl, -, -, hfields⟩ := h
    rw [UniqueKeys, fieldsUniqueKeys_iff] at hkeys
    rw [plain_obj_iff]
    exact ⟨hkeys.1, fun f hf => plain_of_fitsProperty hs (hkeys.2 f hf) (hfields f hf)⟩
  | .array items _, hs, v, hkeys, h => by
    rw [Worded] at hs
    rw [Fits] at h
    obtain ⟨values, rfl, -, -, hvalues⟩ := h
    rw [plain_arr_iff]
    exact fun w hw => plain_of_fits hs (hkeys.items w hw) (hvalues w hw)
  | .const value, hs, v, _, h => by
    obtain ⟨s, rfl⟩ := hs
    rw [Fits] at h
    rw [(pyEq_str _ _).mp h.2]
    exact ⟨trivial, rfl⟩
  | .enum _, _, v, _, h => by
    rw [Fits] at h
    obtain ⟨t, -, rfl⟩ := h
    exact ⟨trivial, rfl⟩
  | .string _ _, _, v, _, h => by
    rw [Fits] at h
    obtain ⟨s, rfl, -⟩ := h
    exact ⟨trivial, rfl⟩
  | .boolean, _, v, _, h => by
    rw [Fits] at h
    obtain ⟨b, rfl⟩ := h
    exact ⟨trivial, rfl⟩
  | .null, _, v, _, h => by
    rw [Fits] at h
    rw [h]
    exact ⟨trivial, rfl⟩

theorem plain_of_fitsProperty : ∀ {properties : List (PyStr × Schema)}, PropertiesWorded properties →
    ∀ {key : PyStr} {v : Json}, UniqueKeys v → FitsProperty properties key v → Plain v
  | [], _, _, _, _, h => by
    rw [FitsProperty] at h
    exact h.elim
  | (k, schema) :: rest, hs, key, v, hkeys, h => by
    rw [FitsProperty] at h
    split_ifs at h
    · exact plain_of_fits hs.1 hkeys h
    · exact plain_of_fitsProperty hs.2 hkeys h

end

omit [PyRuntime] in
theorem worded_refSchema : Worded refSchema := ⟨trivial, trivial, trivial, trivial⟩

theorem Plain.get {v : Json} (h : Plain v) (k : PyStr) : Plain (get v k) := by
  cases v with
  | obj fields =>
    rw [SearchCup.get, dictGet]
    cases hk : fields.lookup k with
    | none => exact ⟨trivial, rfl⟩
    | some w => exact (plain_obj_iff.mp h).2 _ (mem_of_lookup hk)
  | _ => exact ⟨trivial, rfl⟩

theorem Plain.asItems {v : Json} (h : Plain v) : ∀ e ∈ asItems v, Plain e := by
  cases v with
  | arr items => exact plain_arr_iff.mp h
  | _ => simp [SearchCup.asItems]

/-- Plain documents with one canonical text are the same. -/
theorem sameJson_of_render_eq {v w : Json} (hv : Plain v) (hw : Plain w) (h : render v = render w) : SameJson v w :=
  sortKeys_eq_of_render_eq hv.legible hw.legible hv.printable hw.printable h

section Schemas

omit [PyRuntime]

mutual

theorem Worded.sorted : ∀ {schema : Schema}, Worded schema → SortedConstants schema
  | .object _ _, h => PropertiesWorded.sorted h
  | .array items _, h => by
    rw [Worded] at h
    rw [SortedConstants]
    exact h.sorted
  | .const value, h => by
    obtain ⟨s, rfl⟩ := h
    exact ⟨trivial, rfl⟩
  | .enum _, _ | .string _ _, _ | .boolean, _ | .null, _ => trivial

theorem PropertiesWorded.sorted : ∀ {properties : List (PyStr × Schema)}, PropertiesWorded properties →
    PropertiesSorted properties
  | [], _ => trivial
  | (_, _) :: _, h => ⟨h.1.sorted, PropertiesWorded.sorted h.2⟩

end

/-- An object with the properties of a schema, in their order. -/
theorem fits_obj {properties : List (PyStr × Schema)} {fields : Fields} (hkeys : (properties.map Prod.fst).Nodup)
    (h : List.Forall₂ (fun p f => p.1 = f.1 ∧ Fits p.2 f.2) properties fields) : Fits (obj properties []) (.obj fields) := by
  have hnames : properties.map Prod.fst = fields.map Prod.fst := by
    clear hkeys
    induction h with
    | nil => rfl
    | cons hpf _ ih => rw [List.map_cons, List.map_cons, hpf.1, ih]
  rw [obj, Fits]
  refine ⟨fields, rfl, fun k hk => ?_, fun k hk => ?_, fun f hf => ?_⟩
  · rw [← hnames]
    exact (List.mem_filter.mp hk).1
  · rwa [hnames]
  · obtain ⟨p, hp, hname, hfits⟩ : ∃ p ∈ properties, p.1 = f.1 ∧ Fits p.2 f.2 := by
      clear hkeys hnames
      induction h with
      | nil => cases hf
      | cons hpf _ ih =>
        rcases List.mem_cons.mp hf with rfl | hf
        · exact ⟨_, List.mem_cons_self, hpf⟩
        · obtain ⟨p, hp, hpf⟩ := ih hf
          exact ⟨p, List.mem_cons_of_mem _ hp, hpf⟩
    rw [fitsProperty_iff, ← hname]
    exact ⟨p.2, lookup_of_mem hkeys hp, hfits⟩

/-- An object of texts equals itself. -/
theorem pyEq_texts_self {fields : Fields} (hkeys : (fields.map Prod.fst).Nodup) (h : ∀ f ∈ fields, ∃ t, f.2 = .str t) :
    pyEq (.obj fields) (.obj fields) = true := by
  rw [pyEq_obj_iff]
  refine ⟨rfl, fun f hf => ⟨f.2, lookup_of_mem hkeys hf, ?_⟩⟩
  obtain ⟨t, ht⟩ := h f hf
  rw [ht, pyEq_str]

end Schemas

theorem fingerprint_of_sameJson {v w : Json} (h : SameJson v w) {d : PyStr} (hv : fingerprint v = .ok d) :
    fingerprint w = .ok d := by
  rw [fingerprint_eq_ok_iff] at hv ⊢
  exact ⟨(hashable_of_sameJson h).mp hv.1, by rw [hv.2, render_of_sameJson h]⟩

end EvaluationLab.SearchCup
