import EvaluationLab.QA3.Adapter
import EvaluationLab.Python.Dict

/-! What the validators of the projection track establish of the documents they accept. -/
namespace EvaluationLab.QA3
open Python Effect QA0

section Checks

theorem member_eq_ok_iff {value : Json} {texts : List PyStr} {e : PyExc} {s : PyStr} :
    member value texts e = .ok s ↔ value = .str s ∧ s ∈ texts := by
  unfold member
  simp only [bind_eq_ok_iff, exists_unit_iff, check_eq_ok_iff]
  cases value with
  | str t =>
    simp only [bind_eq_ok_iff, exists_unit_iff, check_eq_ok_iff, pure_eq_ok_iff, Json.str.injEq]
    constructor
    · rintro ⟨-, hmem, rfl⟩
      exact ⟨rfl, hmem⟩
    · rintro ⟨rfl, hmem⟩
      exact ⟨rfl, hmem, rfl⟩
  | _ =>
    constructor
    · rintro ⟨-, h⟩
      cases h
    · rintro ⟨h, -⟩
      cases h

/-- A field that passes `_text` is a string. -/
theorem dictGet_of_text {document : Fields} {key label s : PyStr} (h : text document key label = .ok s) :
    ∃ raw, dictGet document key = .str raw := by
  unfold text at h
  split at h
  · exact ⟨_, ‹_›⟩
  · cases h

theorem obj_eq_ok_iff {value : Json} {label : PyStr} {fields : Fields} :
    obj value label = .ok fields ↔ value = .obj fields := by
  cases value with
  | obj fs => simp [obj]
  | _ => simp [obj]

theorem boolean_eq_ok_iff {value : Json} {message : PyStr} {b : Bool} :
    boolean value message = .ok b ↔ value = .bool b := by
  cases value with
  | bool c => simp [boolean]
  | _ =>
    constructor
    · intro h
      cases h
    · intro h
      cases h

theorem eq_str_of_isStr {value : Json} {t : PyStr} (h : value.isStr t = true) : value = .str t := by
  cases value with
  | str s => exact congrArg Json.str (beq_iff_eq.mp h)
  | _ => cases h

theorem hasKeys_eq_true_iff {document : Fields} {keys : List PyStr} :
    hasKeys document keys = true ↔ ∀ k, k ∈ document.map Prod.fst ↔ k ∈ keys := by
  unfold hasKeys
  rw [Bool.and_eq_true, List.all_eq_true, List.all_eq_true]
  simp only [decide_eq_true_eq]
  constructor
  · rintro ⟨h, h'⟩ k
    exact ⟨h k, h' k⟩
  · intro h
    exact ⟨fun k => (h k).mp, fun k => (h k).mpr⟩

theorem eq_str_asText {value : Json} {s : PyStr} (h : value = .str s) : value = .str (asText value) := by
  rw [h]
  rfl

theorem isSha256_str {value : Json} (h : isSha256 value = true) : value = .str (asText value) := by
  cases value with
  | str s => rfl
  | _ => cases h

theorem isGitCommit_str {value : Json} (h : isGitCommit value = true) : value = .str (asText value) := by
  cases value with
  | str s => rfl
  | _ => cases h

end Checks

section Reference

theorem keys_evidenceRef (r : EvidenceRef) : r.fields.map Prod.fst = evidenceRefKeys := rfl

theorem nodup_evidenceRefKeys : evidenceRefKeys.Nodup := by decide +kernel

/-- References that are the same as documents are equal. -/
theorem sameJson_evidenceRef {r r' : EvidenceRef} (h : SameJson r.toJson r'.toJson) : r = r' := by
  have hkeys : ∀ r : EvidenceRef, (r.fields.map Prod.fst).Nodup := fun _ => nodup_evidenceRefKeys
  have hlookup := (sameJson_obj_iff (hkeys r) (hkeys r')).mp h
  have hfield : ∀ k s s', (k, Json.str s) ∈ r.fields → (k, Json.str s') ∈ r'.fields → s = s' := by
    intro k s s' hmem hmem'
    have hk := hlookup k
    rw [lookup_of_mem (hkeys r) hmem, lookup_of_mem (hkeys r') hmem'] at hk
    exact Json.str.inj (Option.some.inj hk)
  obtain ⟨kind, sourceId, sourceLocator, sourceFingerprint, gitCommit, scope⟩ := r
  obtain ⟨kind', sourceId', sourceLocator', sourceFingerprint', gitCommit', scope'⟩ := r'
  have hkind := hfield "kind" kind kind' (by simp [EvidenceRef.fields]) (by simp [EvidenceRef.fields])
  have hsource := hfield "source_id" sourceId sourceId' (by simp [EvidenceRef.fields]) (by simp [EvidenceRef.fields])
  have hlocator := hfield "source_locator" sourceLocator sourceLocator' (by simp [EvidenceRef.fields])
    (by simp [EvidenceRef.fields])
  have hfingerprint := hfield "source_fingerprint" sourceFingerprint sourceFingerprint' (by simp [EvidenceRef.fields])
    (by simp [EvidenceRef.fields])
  have hcommit := hfield "git_commit" gitCommit gitCommit' (by simp [EvidenceRef.fields]) (by simp [EvidenceRef.fields])
  have hscope := hfield "scope" scope scope' (by simp [EvidenceRef.fields]) (by simp [EvidenceRef.fields])
  subst hkind hsource hlocator hfingerprint hcommit hscope
  rfl

variable [PyRuntime]

/-- An accepted reference is the fields it is read as. -/
theorem lookup_of_validateEvidenceRef {reference : Json} {r : EvidenceRef} (h : validateEvidenceRef reference = .ok r) :
    ∃ fields, reference = .obj fields ∧ ∀ k, fields.lookup k = r.fields.lookup k := by
  unfold validateEvidenceRef at h
  simp only [bind_eq_ok_iff, exists_unit_iff, check_eq_ok_iff, pure_eq_ok_iff, obj_eq_ok_iff, member_eq_ok_iff,
    hasKeys_eq_true_iff] at h
  obtain ⟨fields, rfl, hkeys, kind, ⟨hkind, -⟩, _, hsource, _, hlocator, _, hscope, hfingerprint, hcommit, -, -, rfl⟩ := h
  obtain ⟨source, hsource⟩ := dictGet_of_text hsource
  obtain ⟨locator, hlocator⟩ := dictGet_of_text hlocator
  obtain ⟨scope, hscope⟩ := dictGet_of_text hscope
  refine ⟨fields, rfl, ?_⟩
  apply lookup_eq_template
  · intro k hk
    exact (hkeys k).mp hk
  · have hstr : ∀ {key : PyStr} {s : PyStr}, dictGet fields key = .str s → fields.lookup key = some (.str s) :=
      fun hs => lookup_of_dictGet hs Json.noConfusion
    simp only [EvidenceRef.fields, List.forall_mem_cons, List.not_mem_nil, false_implies, implies_true, and_true]
    exact ⟨hstr hkind, hstr (eq_str_asText hsource), hstr (eq_str_asText hlocator), hstr (isSha256_str hfingerprint),
      hstr (isGitCommit_str hcommit), hstr (eq_str_asText hscope)⟩

/-- An accepted reference without a repeated key is the document of what it is read as. -/
theorem sameJson_of_validateEvidenceRef {reference : Json} {r : EvidenceRef} (h : validateEvidenceRef reference = .ok r)
    (hunique : UniqueKeys reference) : SameJson reference r.toJson := by
  obtain ⟨fields, rfl, hlookup⟩ := lookup_of_validateEvidenceRef h
  have hkeys : (r.fields.map Prod.fst).Nodup := nodup_evidenceRefKeys
  rw [EvidenceRef.toJson, sameJson_obj_iff hunique.nodup hkeys]
  intro k
  rw [hlookup]

end Reference

section Metric

/-- What is read of an accepted metric: ten fields, nine of them texts, and a value that is a number or
`None`. -/
structure MetricShape (metric : Fields) : Prop where
  keys : ∀ k, k ∈ metric.map Prod.fst ↔ k ∈ metricFields
  texts : ∀ k ∈ metricTexts, ∃ s, dictGet metric k = .str s
  value : dictGet metric "value" = .null ∨ (∃ n, dictGet metric "value" = .int n) ∨
    ∃ x, dictGet metric "value" = .float x

theorem metricShape_of {value : Json} {metric : Fields} (h : validateMetric value = .ok metric) :
    value = .obj metric ∧ MetricShape metric := by
  unfold validateMetric at h
  simp only [bind_eq_ok_iff, exists_unit_iff, check_eq_ok_iff, obj_eq_ok_iff, hasKeys_eq_true_iff, forM_eq_ok_iff] at h
  obtain ⟨fields, rfl, hkeys, htexts, h⟩ := h
  have hvalue : dictGet fields "value" = .null ∨ (∃ n, dictGet fields "value" = .int n) ∨
      ∃ x, dictGet fields "value" = .float x := by
    cases hv : dictGet fields "value" with
    | null => exact .inl rfl
    | int n => exact .inr (.inl ⟨n, rfl⟩)
    | float x => exact .inr (.inr ⟨x, rfl⟩)
    | _ =>
      rw [hv] at h
      simp only [asNumber] at h
      cases h
  have hfields : fields = metric := by
    split at h
    · simp only [bind_eq_ok_iff, pure_eq_ok_iff] at h
      obtain ⟨_, -, _, -, _, -, rfl⟩ := h
      rfl
    · simp only [bind_eq_ok_iff, pure_eq_ok_iff] at h
      obtain ⟨_, -, _, -, _, -, _, -, _, -, rfl⟩ := h
      rfl
  subst hfields
  refine ⟨rfl, hkeys, ?_, hvalue⟩
  intro k hk
  obtain ⟨s, hs, -⟩ := htexts k hk
  exact dictGet_of_text hs

theorem metricFields_iff {k : PyStr} : k ∈ metricFields ↔ k ∈ metricTexts ∨ k = py "value" := by
  simp only [metricFields, metricTexts, List.mem_cons, List.not_mem_nil, or_false]
  tauto

/-- The value of a metric equals itself unless it is not a number. -/
theorem MetricShape.pyEq_value {metric : Fields} (h : MetricShape metric) :
    pyEq (dictGet metric "value") (dictGet metric "value") = true ↔ dictGet metric "value" ≠ .float .nan := by
  rcases h.value with hv | ⟨n, hv⟩ | ⟨x, hv⟩
  · rw [hv]
    simp [pyEq]
  · rw [hv]
    simp [pyEq_int_self]
  · rw [hv]
    cases x with
    | finite q => simp [pyEq, number, numberEq]
    | negativeZero => simp [pyEq, number, numberEq]
    | infinity negative => simp [pyEq, number, numberEq]
    | nan => simp [pyEq, number, numberEq]

/-- A metric has keys beyond the ten. -/
def HasExtra (metric : Fields) : Prop := ∃ k ∈ metric.map Prod.fst, k ∉ metricFields

/-- A metric is the same as an accepted one when it has its texts, its value, and no key besides. -/
theorem MetricShape.sameJson_iff {metric other : Fields} (h : MetricShape metric) (hkeys : (metric.map Prod.fst).Nodup)
    (hother : (other.map Prod.fst).Nodup) : SameJson (.obj other) (.obj metric) ↔
      (∀ k ∈ metricTexts, dictGet other k = dictGet metric k) ∧ ¬ HasExtra other ∧
      other.lookup (py "value") = some (dictGet metric "value") := by
  have hvalue : metric.lookup (py "value") = some (dictGet metric "value") := by
    have hmem : py "value" ∈ metric.map Prod.fst := (h.keys _).mpr (metricFields_iff.mpr (.inr rfl))
    obtain ⟨v, hv⟩ := Option.isSome_iff_exists.mp ((lookup_isSome_iff metric _).mpr hmem)
    rw [hv, dictGet_of_lookup hv]
  have hscalar : ∀ w, SameJson w (dictGet metric "value") ↔ w = dictGet metric "value" := by
    intro w
    apply sameJson_scalar
    · intro items
      rcases h.value with hv | ⟨n, hv⟩ | ⟨x, hv⟩ <;> rw [hv] <;> exact Json.noConfusion
    · intro fields
      rcases h.value with hv | ⟨n, hv⟩ | ⟨x, hv⟩ <;> rw [hv] <;> exact Json.noConfusion
  rw [sameJson_obj_iff hother hkeys]
  constructor
  · intro hsame
    refine ⟨?_, ?_, ?_⟩
    · intro k hk
      obtain ⟨s, hs⟩ := h.texts k hk
      have hlookup := hsame k
      rw [lookup_of_dictGet hs Json.noConfusion, Option.map_some, Option.map_eq_some_iff] at hlookup
      obtain ⟨w, hw, heq⟩ := hlookup
      have hws : w = .str s := (sameJson_scalar (fun _ => Json.noConfusion) fun _ => Json.noConfusion).mp heq
      rw [hs, dictGet_of_lookup hw, hws]
    · rintro ⟨k, hk, hextra⟩
      have hlookup := hsame k
      have hnone : (metric.lookup k).isSome = false := by
        rw [← Bool.not_eq_true, lookup_isSome_iff, h.keys]
        exact hextra
      rw [← lookup_isSome_iff, ← Option.isSome_map (f := sortKeys), hlookup, Option.isSome_map, hnone] at hk
      cases hk
    · have hlookup := hsame (py "value")
      rw [hvalue, Option.map_some, Option.map_eq_some_iff] at hlookup
      obtain ⟨w, hw, heq⟩ := hlookup
      rw [hw, (hscalar w).mp heq]
  · rintro ⟨htexts, hextra, hother⟩ k
    by_cases hk : k ∈ metricFields
    · rcases metricFields_iff.mp hk with htext | rfl
      · obtain ⟨s, hs⟩ := h.texts k htext
        have hs' := (htexts k htext).trans hs
        rw [lookup_of_dictGet hs Json.noConfusion, lookup_of_dictGet hs' Json.noConfusion]
      · rw [hother, hvalue]
    · have hnone : ∀ fields : Fields, k ∉ fields.map Prod.fst → fields.lookup k = none := by
        intro fields hnot
        rw [← Option.isNone_iff_eq_none, ← Option.isSome_eq_false_iff, ← Bool.not_eq_true, lookup_isSome_iff]
        exact hnot
      rw [hnone other fun hmem => hextra ⟨k, hmem, hk⟩, hnone metric fun hmem => hk ((h.keys k).mp hmem)]

end Metric

end EvaluationLab.QA3
