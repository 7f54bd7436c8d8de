import EvaluationLab.QA3.Binding

/-! What a summary of a receipt is, whatever the receipt. -/
namespace EvaluationLab.QA3
open Python Effect QA0

section Summary

/-- The profiles of a projection, by the schema and the profile of their receipts. -/
def profileTable : List (PyStr × PyStr × PyStr) := [
  ("b2-qa1-receipt/v1", "GROUNDING", "QA1-GROUNDING"),
  ("b2-qa1-receipt/v1", "TOOL_AGENT", "QA1-TOOL_AGENT"),
  ("b2-qa2-receipt/v1", "SAFETY_ROBUSTNESS", "QA2-SAFETY_ROBUSTNESS"),
  ("b2-qa3-projection-integrity-receipt/v1", "PROJECTION_INTEGRITY", "QA3-A-PROJECTION_INTEGRITY")]

example : (profileTable.map fun row => row.2.2).Nodup := by decide +kernel

/-- A receipt is of the first profile by its schema alone, of another by its schema and its profile. -/
def IsProfile (receipt : Fields) (id : PyStr) : Prop :=
  dictGet receipt "schema_version" = .str "b2-qa0-receipt/v1" ∧ id = py "QA0" ∨
    ∃ row ∈ profileTable, dictGet receipt "schema_version" = .str row.1 ∧ dictGet receipt "profile" = .str row.2.1 ∧
      id = row.2.2

theorem isMember_eq_true_iff {value : Json} {texts : List PyStr} :
    isMember value texts = .ok true ↔ ∃ t ∈ texts, value = .str t := by
  unfold isMember
  simp only [bind_eq_ok_iff, exists_unit_iff, check_eq_ok_iff, pure_eq_ok_iff, List.any_eq_true, isStr_iff]
  constructor
  · rintro ⟨-, h⟩
    exact h
  · rintro ⟨t, ht, rfl⟩
    exact ⟨rfl, t, ht, rfl⟩

theorem isProfile_of_profileId {receipt : Fields} {id : PyStr} (h : profileId receipt = .ok id) :
    IsProfile receipt id := by
  unfold profileId at h
  dsimp only at h
  split_ifs at h with hqa0 hqa1 hqa2 hqa3
  · exact .inl ⟨eq_str_of_isStr hqa0, (pure_eq_ok_iff.mp h).symm⟩
  · have hschema := eq_str_of_isStr hqa1
    rw [bind_eq_ok_iff] at h
    obtain ⟨found, hmember, h⟩ := h
    split_ifs at h with hfound
    · rw [hfound, isMember_eq_true_iff] at hmember
      obtain ⟨t, ht, hprofile⟩ := hmember
      rw [hprofile, pure_eq_ok_iff] at h
      simp only [List.mem_cons, List.not_mem_nil, or_false] at ht
      rcases ht with rfl | rfl
      · exact .inr ⟨_, .head _, hschema, hprofile, h.symm⟩
      · exact .inr ⟨_, .tail _ (.head _), hschema, hprofile, h.symm⟩
  · refine .inr ⟨_, .tail _ (.tail _ (.head _)), eq_str_of_isStr hqa2.1, eq_str_of_isStr hqa2.2, ?_⟩
    exact (pure_eq_ok_iff.mp h).symm
  · refine .inr ⟨_, .tail _ (.tail _ (.tail _ (.head _))), eq_str_of_isStr hqa3.1, eq_str_of_isStr hqa3.2, ?_⟩
    exact (pure_eq_ok_iff.mp h).symm

theorem profileId_of_isProfile {receipt : Fields} {id : PyStr} (h : IsProfile receipt id) :
    profileId receipt = .ok id := by
  unfold profileId
  rcases h with ⟨hschema, rfl⟩ | ⟨row, hrow, hschema, hprofile, rfl⟩
  · rw [hschema]
    rfl
  · rw [hschema, hprofile]
    simp only [profileTable, List.mem_cons, List.not_mem_nil, or_false] at hrow
    rcases hrow with rfl | rfl | rfl | rfl
    · rfl
    · rfl
    · rfl
    · rfl

/-- The identity of a profile is a text without edge whitespace. -/
theorem strip_profileId {receipt : Fields} {id : PyStr} (h : IsProfile receipt id) : strip id = id ∧ id ≠ [] := by
  have hzero : strip (py "QA0") = py "QA0" ∧ py "QA0" ≠ [] := by decide +kernel
  have htable : ∀ row ∈ profileTable, strip row.2.2 = row.2.2 ∧ row.2.2 ≠ [] := by decide +kernel
  rcases h with ⟨-, rfl⟩ | ⟨row, hrow, -, -, rfl⟩
  · exact hzero
  · exact htable row hrow

/-- What a summary is, whatever the receipt: known identity, counts from zero on, distinct terminal
statuses. -/
structure SummaryShape (receipt : Fields) (summary : ProfileSummary) : Prop where
  profile : IsProfile receipt summary.profileId
  gate : summary.gate = asText (dictGet receipt "gate")
  formalFamilyCount : 0 ≤ summary.formalFamilyCount
  caseCount : 0 ≤ summary.caseCount
  knownBadCount : 0 ≤ summary.knownBadCount
  controlCount : 0 ≤ summary.controlCount
  terminals : summary.terminalStatuses.Nodup ∧ ∀ status ∈ summary.terminalStatuses, status ∈ terminalStatuses
  evaluated : summary.terminalStatuses ≠ []

theorem asCount_eq_some_iff {v : Json} {n : ℤ} : asCount v = some n ↔ v = .int n ∧ 0 ≤ n := by
  cases v with
  | int m =>
    rw [asCount]
    split_ifs with hm
    · simp only [Option.some.injEq, Json.int.injEq]
      constructor
      · rintro rfl
        exact ⟨rfl, hm⟩
      · rintro ⟨rfl, -⟩
        rfl
    · simp only [Json.int.injEq, false_iff]
      rintro ⟨rfl, h⟩
      exact hm h
  | _ => simp [asCount]

theorem receiptCount_eq_ok_iff {receipt : Fields} {field : PyStr} {n : ℤ} :
    receiptCount receipt field = .ok n ↔ dictGet receipt field = .int n ∧ 0 ≤ n := by
  rw [← asCount_eq_some_iff, receiptCount]
  cases asCount (dictGet receipt field) with
  | some m => simp
  | none => simp

theorem familyCount_nonneg {receipt : Fields} {n m : ℤ} (hknownBad : receiptCount receipt "known_bad_count" = .ok m)
    (h : familyCount receipt = .ok n) : 0 ≤ n := by
  obtain ⟨hknownBad, hm⟩ := receiptCount_eq_ok_iff.mp hknownBad
  unfold familyCount at h
  split at h
  · rename_i count _ hcount
    obtain ⟨-, hn⟩ := asCount_eq_some_iff.mp hcount
    cases h
    exact hn
  · cases h
    exact Int.natCast_nonneg _
  · rw [hknownBad] at h
    dsimp only [asInt] at h
    split_ifs at h
    cases h
    exact hm

/-- The texts an array of texts is read as. -/
theorem stringArray_mem {value : Json} {label : PyStr} {allowEmpty : Bool} {texts : List PyStr}
    (h : stringArray value label allowEmpty = .ok texts) :
    (texts = [] → allowEmpty = true) ∧ ∀ t ∈ texts, strip t = t ∧ t ≠ [] := by
  unfold stringArray at h
  split at h
  · simp only [bind_eq_ok_iff, exists_unit_iff, check_eq_ok_iff, mapM_eq_ok_iff] at h
    obtain ⟨hempty, hitems⟩ := h
    constructor
    · rintro rfl
      rw [List.forall₂_nil_right_iff] at hitems
      exact hempty.resolve_left fun hne => hne hitems
    · intro t ht
      obtain ⟨item, -, hitem⟩ := exists_of_mem_right hitems ht
      split at hitem
      · split_ifs at hitem with hblank
        cases hitem
        exact ⟨strip_strip _, hblank⟩
      · cases hitem
  · cases h

/-- Texts without edge whitespace are read as they are. -/
theorem stringArray_texts {label : PyStr} {allowEmpty : Bool} {texts : List PyStr} (hne : texts ≠ [] ∨ allowEmpty = true)
    (h : ∀ t ∈ texts, strip t = t ∧ t ≠ []) : stringArray (.arr (texts.map .str)) label allowEmpty = .ok texts := by
  unfold stringArray
  dsimp only
  rw [bind_eq_ok_iff]
  refine ⟨(), check_of (hne.imp_left fun hne hnil => hne (List.map_eq_nil_iff.mp hnil)), ?_⟩
  rw [mapM_eq_ok_iff, List.forall₂_map_left_iff, List.forall₂_same]
  intro t ht
  obtain ⟨hstrip, hblank⟩ := h t ht
  dsimp only
  rw [hstrip, if_neg hblank]

theorem summaryShape_of {receipt : Fields} {summary : ProfileSummary} (h : receiptProfileSummary receipt = .ok summary) :
    SummaryShape receipt summary := by
  unfold receiptProfileSummary at h
  simp only [bind_eq_ok_iff, exists_unit_iff, check_eq_ok_iff, pure_eq_ok_iff] at h
  obtain ⟨cases, hcases, knownBad, hknownBad, controls, hcontrols, terminals, hterminals, hallowed, id, hid, families,
    hfamilies, rfl⟩ := h
  refine ⟨isProfile_of_profileId hid, rfl, familyCount_nonneg hknownBad hfamilies, (receiptCount_eq_ok_iff.mp hcases).2,
    (receiptCount_eq_ok_iff.mp hknownBad).2, (receiptCount_eq_ok_iff.mp hcontrols).2, hallowed, ?_⟩
  intro hnil
  cases (stringArray_mem hterminals).1 hnil

/-- A summary only depends on what the receipt has under its keys. -/
theorem receiptProfileSummary_congr {receipt receipt' : Fields} (h : ∀ k, dictGet receipt k = dictGet receipt' k) :
    receiptProfileSummary receipt = receiptProfileSummary receipt' := by
  simp only [receiptProfileSummary, receiptCount, profileId, familyCount, h]

end Summary

end EvaluationLab.QA3
