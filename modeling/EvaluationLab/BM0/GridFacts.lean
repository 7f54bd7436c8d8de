import EvaluationLab.BM0.Paired

/-! What is missing from a grid, and what the metrics tabulate over it. -/
namespace EvaluationLab.BM0
open Python Effect QA0

/-- Every attempt of the list has been recorded. -/
def Covers (observations : List Observation) (attempts : List TrialIdentity) : Prop :=
  ∀ t ∈ attempts, ∃ o ∈ observations, o.attemptId = t.attemptId

instance (observations : List Observation) (attempts : List TrialIdentity) :
    Decidable (Covers observations attempts) :=
  inferInstanceAs (Decidable (∀ t ∈ attempts, ∃ o ∈ observations, o.attemptId = t.attemptId))

theorem Grid.isObserved_iff {g : Grid} {t : TrialIdentity} :
    g.isObserved t = true ↔ ∃ o ∈ g.observed, o.attemptId = t.attemptId := by
  unfold Grid.isObserved Grid.observationOf
  rw [List.find?_isSome]
  simp

theorem mem_sortTexts {texts : List PyStr} {s : PyStr} : s ∈ sortTexts texts ↔ s ∈ texts := by
  unfold sortTexts
  exact List.mem_insertionSort _

theorem Grid.mem_missingOf {g : Grid} {attempts : List TrialIdentity} {id : PyStr} :
    id ∈ g.missingOf attempts ↔ ∃ t ∈ attempts, g.isObserved t = false ∧ t.attemptId = id := by
  unfold Grid.missingOf
  rw [mem_sortTexts, List.mem_map]
  simp [and_assoc]

/-- Nothing is missing exactly when everything is recorded. -/
theorem Grid.missingOf_eq_nil {g : Grid} {attempts : List TrialIdentity} :
    g.missingOf attempts = [] ↔ Covers g.observed attempts := by
  rw [List.eq_nil_iff_forall_not_mem]
  constructor
  · intro h t ht
    cases hobs : g.isObserved t with
    | true => exact Grid.isObserved_iff.mp hobs
    | false => exact absurd (Grid.mem_missingOf.mpr ⟨t, ht, hobs, rfl⟩) (h t.attemptId)
  · intro h id hid
    obtain ⟨t, ht, hobs, -⟩ := Grid.mem_missingOf.mp hid
    rw [Grid.isObserved_iff.mpr (h t ht)] at hobs
    cases hobs

theorem mem_modelSubjects {attempts : List TrialIdentity} {id : PyStr} :
    id ∈ modelSubjects attempts ↔ ∃ t ∈ attempts, t.modelSubjectId = id := by
  unfold modelSubjects
  rw [mem_sortTexts, List.mem_dedup, List.mem_map]

theorem mem_caseKeys {attempts : List TrialIdentity} {key : CaseKey} :
    key ∈ caseKeys attempts ↔ ∃ t ∈ attempts, t.caseKey = key := by
  unfold caseKeys
  rw [List.mem_insertionSort, List.mem_dedup, List.mem_map]

theorem nodup_modelSubjects (attempts : List TrialIdentity) : (modelSubjects attempts).Nodup := by
  unfold modelSubjects sortTexts
  exact (List.perm_insertionSort _ _).nodup_iff.mpr (List.nodup_dedup _)

theorem nodup_caseKeys (attempts : List TrialIdentity) : (caseKeys attempts).Nodup := by
  unfold caseKeys
  exact (List.perm_insertionSort _ _).nodup_iff.mpr (List.nodup_dedup _)

section Tabulate
variable {κ ρ : Type} {f : κ → Except PyExc ρ} {keys : List κ} {rows : List (κ × ρ)}

theorem tabulate_row {x : κ} {e : κ × ρ} :
    (do let result ← f x; return (x, result) : Except PyExc (κ × ρ)) = .ok e ↔ e.1 = x ∧ f x = .ok e.2 := by
  obtain ⟨k, r⟩ := e
  simp only [bind_eq_ok_iff, pure_eq_ok_iff, Prod.mk.injEq]
  constructor
  · rintro ⟨a, ha, rfl, rfl⟩
    exact ⟨rfl, ha⟩
  · rintro ⟨rfl, hr⟩
    exact ⟨r, hr, rfl, rfl⟩

theorem tabulate_mem (h : tabulate f keys = .ok rows) {e : κ × ρ} (he : e ∈ rows) :
    e.1 ∈ keys ∧ f e.1 = .ok e.2 := by
  obtain ⟨x, hx, hrow⟩ := mapM_mem h he
  obtain ⟨rfl, hf⟩ := tabulate_row.mp hrow
  exact ⟨hx, hf⟩

theorem mem_tabulate (h : tabulate f keys = .ok rows) {x : κ} (hx : x ∈ keys) :
    ∃ r, (x, r) ∈ rows ∧ f x = .ok r := by
  obtain ⟨e, he, hrow⟩ := mem_mapM h hx
  obtain ⟨rfl, hf⟩ := tabulate_row.mp hrow
  exact ⟨e.2, he, hf⟩

theorem tabulate_fst (h : tabulate f keys = .ok rows) : rows.map Prod.fst = keys := by
  have hall := mapM_eq_ok_iff.mp h
  clear h
  induction hall with
  | nil => rfl
  | cons hrow _ ih => rw [List.map_cons, ih, (tabulate_row.mp hrow).1]

theorem tabulate_ok (h : ∀ x ∈ keys, ∃ r, f x = .ok r) : ∃ rows, tabulate f keys = .ok rows := by
  apply mapM_ok_of_forall
  intro x hx
  obtain ⟨r, hr⟩ := h x hx
  exact ⟨(x, r), tabulate_row.mpr ⟨rfl, hr⟩⟩

end Tabulate

theorem Grid.observationOf_some {g : Grid} {id : PyStr} {o : Observation} (h : g.observationOf id = some o) :
    o ∈ g.observed ∧ o.attemptId = id := by
  have hid := List.find?_some h
  exact ⟨List.mem_of_find?_eq_some h, of_decide_eq_true hid⟩

/-- The rows of some attempts carry the ids of those that are observed. -/
theorem Grid.rowsOf_ids (g : Grid) (attempts : List TrialIdentity) :
    (g.rowsOf attempts).map Observation.attemptId =
      (attempts.filter g.isObserved).map TrialIdentity.attemptId := by
  induction attempts with
  | nil => rfl
  | cons t ts ih =>
    cases ho : g.observationOf t.attemptId with
    | none =>
      have hno : ¬g.isObserved t = true := by simp [Grid.isObserved, ho]
      have hrow : g.rowsOf (t :: ts) = g.rowsOf ts := by simp [Grid.rowsOf, ho]
      rw [hrow, ih, List.filter_cons_of_neg hno]
    | some o =>
      have hyes : g.isObserved t = true := by simp [Grid.isObserved, ho]
      have hrow : g.rowsOf (t :: ts) = o :: g.rowsOf ts := by simp [Grid.rowsOf, ho]
      rw [hrow, List.filter_cons_of_pos hyes, List.map_cons, List.map_cons, ih, (Grid.observationOf_some ho).2]

theorem Grid.length_rowsOf (g : Grid) (attempts : List TrialIdentity) :
    (g.rowsOf attempts).length = (attempts.filter g.isObserved).length := by
  have hids := congrArg List.length (g.rowsOf_ids attempts)
  simpa using hids

/-- Every attempt of a covered list has its row. -/
theorem Grid.length_rowsOf_covered {g : Grid} {attempts : List TrialIdentity} (h : Covers g.observed attempts) :
    (g.rowsOf attempts).length = attempts.length := by
  rw [g.length_rowsOf, List.filter_eq_self.mpr]
  intro t ht
  exact Grid.isObserved_iff.mpr (h t ht)

variable [PyRuntime]

/-- What acceptance establishes of a grid. -/
structure Grid.Accepted (g : Grid) : Prop where
  planIds : (g.planned.map TrialIdentity.attemptId).Nodup
  rowIds : (g.observed.map Observation.attemptId).Nodup
  recorded : ∀ o ∈ g.observed, Recorded g.planned o

theorem validateObservationGrid_accepted {m : BenchmarkManifest} {expected : ArtifactFingerprints}
    {observations : List Observation} {g : Grid} (h : validateObservationGrid m expected observations = .ok g) :
    g.Accepted ∧ m.Planned ∧ g.planned = m.plannedAttempts ∧ g.observed = observations := by
  obtain ⟨hfrozen, hids, hrecorded, rfl⟩ := validateObservationGrid_iff.mp h
  have hplanned := validateBenchmarkManifest_planned hfrozen.validated
  exact ⟨⟨hplanned.ids, hids, hrecorded⟩, hplanned, rfl, rfl⟩

namespace Grid.Accepted
variable {g : Grid} (h : g.Accepted)
include h

theorem observationOf_of_mem {o : Observation} (ho : o ∈ g.observed) : g.observationOf o.attemptId = some o := by
  cases hf : g.observationOf o.attemptId with
  | none =>
    have hnone := List.find?_eq_none.mp hf o ho
    simp at hnone
  | some o' =>
    obtain ⟨hmem, hid⟩ := Grid.observationOf_some hf
    rw [List.inj_on_of_nodup_map h.rowIds hmem ho hid]

/-- The observed rows whose attempt is selected are the rows of the selected attempts. -/
theorem rows_perm (q : TrialIdentity → Bool) :
    (g.observed.filter fun o => (attemptOf g.planned o.attemptId).any q).Perm (g.rowsOf (g.planned.filter q)) := by
  have hleft : (g.observed.filter fun o => (attemptOf g.planned o.attemptId).any q).Nodup :=
    (h.rowIds.of_map _).filter _
  have hright : (g.rowsOf (g.planned.filter q)).Nodup := by
    apply List.Nodup.of_map Observation.attemptId
    rw [g.rowsOf_ids]
    exact h.planIds.sublist ((List.filter_sublist.trans List.filter_sublist).map _)
  rw [List.perm_ext_iff_of_nodup hleft hright]
  intro o
  rw [List.mem_filter, Grid.rowsOf, List.mem_filterMap]
  constructor
  · rintro ⟨ho, hany⟩
    obtain ⟨t, hfind, hq⟩ : ∃ t, attemptOf g.planned o.attemptId = some t ∧ q t = true := by
      simpa [Option.any_eq_true] using hany
    refine ⟨t, List.mem_filter.mpr ⟨attemptOf_mem hfind, hq⟩, ?_⟩
    rw [attemptOf_attemptId hfind]
    exact h.observationOf_of_mem ho
  · rintro ⟨t, ht, hobs⟩
    obtain ⟨htm, hq⟩ := List.mem_filter.mp ht
    obtain ⟨ho, hid⟩ := Grid.observationOf_some hobs
    refine ⟨ho, ?_⟩
    rw [hid, attemptOf_of_mem h.planIds htm]
    simpa using hq

/-- A row repeats what its attempt declares. -/
theorem declared {o : Observation} (ho : o ∈ g.observed) :
    ∃ t, attemptOf g.planned o.attemptId = some t ∧ o.toDeclared = t.toDeclared := by
  obtain ⟨t, hfind, hmatch⟩ := h.recorded o ho
  exact ⟨t, hfind, hmatch.declared⟩

/-- The rows of one model in the primary estimate are those of its attempts there. -/
theorem modelRows_perm (classes : List TargetClass) (modelId : PyStr) :
    ((g.comparableRows classes).filter fun o => o.modelSubjectId = modelId).Perm
      (g.rowsOf (g.planned.filter fun t => inPrimaryEstimate classes t ∧ t.modelSubjectId = modelId)) := by
  have hsame : ((g.comparableRows classes).filter fun o => o.modelSubjectId = modelId) =
      g.observed.filter fun o => (attemptOf g.planned o.attemptId).any
        fun t => inPrimaryEstimate classes t ∧ t.modelSubjectId = modelId := by
    unfold Grid.comparableRows
    rw [List.filter_filter]
    apply List.filter_congr
    intro o ho
    obtain ⟨t, hfind, hdecl⟩ := h.declared ho
    have hclass : o.targetClass = t.targetClass := congrArg (fun d => d.targetClass) hdecl
    have hmodel : o.modelSubjectId = t.modelSubjectId := congrArg (fun d => d.modelSubjectId) hdecl
    simp only [hfind, Option.any_some, inPrimaryEstimate, hclass, hmodel, decide_eq_true_eq]
    rw [Bool.eq_iff_iff]
    simp only [Bool.and_eq_true, decide_eq_true_eq]
    tauto
  rw [hsame]
  exact h.rows_perm _

end Grid.Accepted

end EvaluationLab.BM0
