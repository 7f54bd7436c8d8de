import EvaluationLab.BM0.GridFacts
import EvaluationLab.BM0.ScoredIdentity
import EvaluationLab.Structure.Grouping

/-! The per-model failure counts are the sums of the per-case ones. -/
namespace EvaluationLab.BM0
open Python Effect QA0 Structure

/-- The scored value of an attempt's observation. -/
def Grid.scoredValue (g : Grid) (t : TrialIdentity) : Option ℤ :=
  (g.observationOf t.attemptId).bind fun o => o.modelFailureValue.filter fun v => v = 0 ∨ v = 1

theorem Grid.failureValues_rowsOf (g : Grid) (attempts : List TrialIdentity) :
    failureValues (g.rowsOf attempts) = attempts.filterMap g.scoredValue := by
  unfold failureValues Grid.rowsOf Grid.scoredValue
  rw [List.filterMap_filterMap]

section Selected
variable {α : Type}

theorem sum_filterMap (v : α → Option ℤ) (xs : List α) :
    (xs.filterMap v).sum = (xs.map fun x => (v x).getD 0).sum := by
  induction xs with
  | nil => rfl
  | cons x xs ih =>
    cases hv : v x with
    | none => simp [hv, ih]
    | some w => simp [hv, ih]

theorem length_filterMap (v : α → Option ℤ) (xs : List α) :
    (xs.filterMap v).length = (xs.map fun x => (v x).toList.length).sum := by
  induction xs with
  | nil => rfl
  | cons x xs ih =>
    cases hv : v x with
    | none => simp [hv, ih]
    | some w => simp [hv, ih, Nat.add_comm]

end Selected

theorem wilsonUnless_ok (missing : Prop) [Decidable missing] (reason : PyStr) (rows : List Observation) :
    ∃ i, wilsonUnless missing reason (failureValues rows).sum (failureValues rows).length = .ok i := by
  unfold wilsonUnless
  split_ifs
  · exact ⟨_, rfl⟩
  · exact wilsonInterval_ok (failureValues_bounds rows).1 (failureValues_bounds rows).2

/-- What a case reports once its cluster is recorded. -/
structure CaseFailure.Reports (c : CaseFailure) (g : Grid) (attempts : List TrialIdentity) (key : CaseKey) :
    Prop where
  entry : c.entryId = key.entryId
  case : c.caseId = key.caseId
  failures : c.failureCount = some (failureValues (g.rowsOf attempts)).sum
  denominator : c.modelScorableDenominator = some (failureValues (g.rowsOf attempts)).length
  unit : ∀ q ∈ c.cfp, 0 ≤ q ∧ q ≤ 1

theorem Grid.caseFailure_ok (g : Grid) (relevant : List TrialIdentity) (key : CaseKey) :
    ∃ c, g.caseFailure relevant key = .ok c := by
  unfold Grid.caseFailure
  simp only [bind_eq_ok_iff, pure_eq_ok_iff]
  obtain ⟨i, hi⟩ := wilsonUnless_ok (g.missingOf (relevant.filter fun t => t.caseKey = key) ≠ [])
    "MISSING_PLANNED_OBSERVATIONS" (g.rowsOf (relevant.filter fun t => t.caseKey = key))
  exact ⟨_, i, hi, rfl⟩

theorem Grid.modelCases_ok (g : Grid) (relevant : List TrialIdentity) (modelId : PyStr) :
    ∃ r, g.modelCases relevant modelId = .ok r := by
  have hall : ∀ k ∈ (caseKeys relevant).filter fun k => k.modelSubjectId = modelId,
      ∃ c, g.caseFailure relevant k = .ok c := fun k _ => g.caseFailure_ok relevant k
  obtain ⟨cases, hcases⟩ := mapM_ok_of_forall hall
  exact ⟨_, by rw [Grid.modelCases, hcases]; rfl⟩

theorem Grid.caseFailure_reports {g : Grid} {relevant : List TrialIdentity} {key : CaseKey} {c : CaseFailure}
    (h : g.caseFailure relevant key = .ok c)
    (hcovers : Covers g.observed (relevant.filter fun t => t.caseKey = key)) :
    c.Reports g (relevant.filter fun t => t.caseKey = key) key := by
  have hmissing := Grid.missingOf_eq_nil.mpr hcovers
  unfold Grid.caseFailure at h
  simp only [bind_eq_ok_iff, pure_eq_ok_iff] at h
  obtain ⟨interval, -, rfl⟩ := h
  refine ⟨rfl, rfl, by simp [hmissing], by simp [hmissing], ?_⟩
  intro q hq
  have hunit := rate_unit (failureValues_bounds (g.rowsOf (relevant.filter fun t => t.caseKey = key))).1
    (failureValues_bounds _).2
  dsimp only at hq
  split_ifs at hq <;> cases hq <;> exact hunit

/-- A case of the primary estimate: planned in the private holdout, of an entry in the classes. -/
def plannedInEstimate (m : BenchmarkManifest) (classes : List TargetClass) (entryId caseId : PyStr) : Bool :=
  (m.plannedAttempts.any fun t => t.caseId = caseId ∧ t.corpusPoolId = primaryEstimatePool) &&
    canonicalFamilyLineage.any fun row => row.entryId = entryId ∧ row.targetClass ∈ classes

def CaseFailure.inEstimate (m : BenchmarkManifest) (classes : List TargetClass) (c : CaseFailure) : Bool :=
  plannedInEstimate m classes c.entryId c.caseId

/-- An entry belongs to one target class. -/
theorem lineage_entry_inj {row row' : Lineage} (h : row ∈ canonicalFamilyLineage)
    (h' : row' ∈ canonicalFamilyLineage) (he : row.entryId = row'.entryId) : row = row' := by
  have hnodup : (canonicalFamilyLineage.map Lineage.entryId).Nodup := by decide +kernel
  exact List.inj_on_of_nodup_map hnodup h h' he

theorem length_failureValues_cons (o : Observation) (rows : List Observation) :
    (failureValues (o :: rows)).length = (failureValues rows).length + if o.scored then 1 else 0 := by
  unfold failureValues Observation.scored
  rw [List.filterMap_cons]
  cases hv : o.modelFailureValue with
  | none => simp
  | some v =>
    by_cases h01 : v = 0 ∨ v = 1
    · rcases h01 with rfl | rfl <;> simp [Option.filter]
    · simp [Option.filter, h01]

/-- The row is counted under an excluded terminal. -/
def Observation.excluded (o : Observation) : Bool :=
  o.terminalStatus ∈ nonModelScorableTerminals ∨ o.terminalStatus = .unknown ∧ o.modelFailureValue = none

theorem sum_excludedCounts_cons (o : Observation) (rows : List Observation) :
    ((excludedCounts (o :: rows)).map Prod.snd).sum =
      ((excludedCounts rows).map Prod.snd).sum + if o.excluded then 1 else 0 := by
  simp only [excludedCounts, terminalCounts, nonModelScorableTerminals, List.map_append, List.map_cons,
    List.map_nil, List.sum_append, List.sum_cons, List.sum_nil, List.countP_cons, Observation.excluded,
    decide_eq_true_eq, List.mem_cons, List.not_mem_nil, or_false]
  split_ifs <;> first | omega | simp_all

/-- A row of a model is excluded exactly when it is not scored. -/
theorem Observation.Judged.excluded {o : Observation} {semantics : Option UnknownSemantics}
    (h : o.Judged semantics) (hm : o.targetClass ≠ .systemEvalOnly) : o.excluded = !o.scored := by
  have hvalue : o.modelFailureValue = expectedModelValue o semantics := by
    have hverdict := h.verdict
    unfold checkVerdict at hverdict
    simp only [bind_eq_ok_iff, exists_unit_iff, check_eq_ok_iff] at hverdict
    exact hverdict.1.1
  unfold Observation.excluded Observation.scored
  rw [hvalue, expectedModelValue, if_neg hm]
  rcases unknownSemantics_cases h.disposition with ⟨ht, hnone⟩ | ⟨d, ht, -, hsome⟩
  · rw [hnone]
    cases hterm : o.terminalStatus <;> simp_all [nonModelScorableTerminals]
  · rw [ht, hsome]
    cases d <;> simp [UnknownDisposition.semantics, nonModelScorableTerminals]

/-- The scored and the excluded rows of a model are all of them. -/
theorem excludedCounts_partition {rows : List Observation}
    (h : ∀ o ∈ rows, o.targetClass ≠ .systemEvalOnly ∧ ∃ semantics, o.Judged semantics) :
    (failureValues rows).length + ((excludedCounts rows).map Prod.snd).sum = rows.length := by
  induction rows with
  | nil => rfl
  | cons o rows ih =>
    rw [List.forall_mem_cons] at h
    obtain ⟨⟨hm, semantics, hjudged⟩, hrest⟩ := h
    have htail := ih hrest
    rw [length_failureValues_cons, sum_excludedCounts_cons, hjudged.excluded hm, List.length_cons]
    cases o.scored <;> simp <;> omega

/-- The planned attempts of a model in the primary estimate. -/
def estimateAttempts (m : BenchmarkManifest) (classes : List TargetClass) (modelId : PyStr) :
    List TrialIdentity :=
  m.plannedAttempts.filter fun t => inPrimaryEstimate classes t ∧ t.modelSubjectId = modelId

theorem metricTargetClasses_subset {m : BenchmarkManifest} {metricId : PyStr} {classes : List TargetClass}
    (h : metricTargetClasses m metricId = .ok classes) :
    (∀ c ∈ classes, c ∈ m.comparisonClasses) ∧ .systemEvalOnly ∉ classes := by
  unfold metricTargetClasses at h
  simp only [bind_eq_ok_iff, exists_unit_iff, check_eq_ok_iff, pure_eq_ok_iff] at h
  obtain ⟨found, hfound, hsub, -, rfl⟩ := h
  refine ⟨hsub, ?_⟩
  cases hl : modelMetricTargetClasses.lookup metricId with
  | none => simp [hl, require] at hfound
  | some c =>
    simp only [hl, require, Except.ok.injEq] at hfound
    have hall : ∀ e ∈ modelMetricTargetClasses, TargetClass.systemEvalOnly ∉ e.2 := by decide +kernel
    obtain ⟨k, hk⟩ : ∃ k, (k, c) ∈ modelMetricTargetClasses := by
      obtain ⟨pre, post, heq, -⟩ := List.lookup_eq_some_iff.mp hl
      exact ⟨metricId, by rw [heq]; simp⟩
    exact hfound ▸ hall _ hk

section Accepted
variable [PyRuntime]

theorem validateTrialIdentity_lineage {t : TrialIdentity} (h : validateTrialIdentity t = .ok ()) :
    ∃ row ∈ canonicalFamilyLineage, row.entryId = t.entryId ∧ row.targetClass = t.targetClass := by
  unfold validateTrialIdentity at h
  simp only [bind_eq_ok_iff, exists_unit_iff] at h
  obtain ⟨-, -, -, -, hlineage, -⟩ := h
  unfold checkLineage at hlineage
  simp only [bind_eq_ok_iff, exists_unit_iff, check_eq_ok_iff] at hlineage
  obtain ⟨-, row, hrow, -, hentry, -, hclass⟩ := hlineage
  exact ⟨row, hrow, hentry.symm, hclass.symm⟩

/-- A case of the primary estimate has all of its cluster there: its id fixes pool and entry. -/
theorem BenchmarkManifest.Planned.cluster_eq {m : BenchmarkManifest} (hp : m.Planned)
    {classes : List TargetClass} (hclasses : ∀ c ∈ classes, c ∈ m.comparisonClasses) {key : CaseKey}
    (hkey : plannedInEstimate m classes key.entryId key.caseId = true) :
    ((activeAttempts m m.plannedAttempts).filter fun t => t.caseKey = key) =
      (estimateAttempts m classes key.modelSubjectId).filter fun t => t.caseKey = key := by
  unfold activeAttempts estimateAttempts
  rw [List.filter_filter, List.filter_filter]
  apply List.filter_congr
  intro t ht
  rw [Bool.eq_iff_iff]
  simp only [Bool.and_eq_true, decide_eq_true_eq, inPrimaryEstimate]
  constructor
  · rintro ⟨rfl, -⟩
    simp only [plannedInEstimate, Bool.and_eq_true, List.any_eq_true, decide_eq_true_eq] at hkey
    obtain ⟨⟨u, hu, hcase, hpool⟩, row, hrow, hentry, hclass⟩ := hkey
    have hbinding := hp.oneCase t ht u hu hcase.symm
    have hpool' : t.corpusPoolId = u.corpusPoolId := congrArg CaseBinding.corpusPoolId hbinding
    obtain ⟨row', hrow', hentry', hclass'⟩ := validateTrialIdentity_lineage (hp.valid t ht)
    have hsame := lineage_entry_inj hrow hrow' (hentry.trans hentry'.symm)
    rw [hsame, hclass'] at hclass
    exact ⟨rfl, ⟨hclass, hpool'.trans hpool⟩, rfl⟩
  · rintro ⟨rfl, ⟨hclass, -⟩, -⟩
    exact ⟨rfl, hclasses _ hclass⟩

/-- Summing over the clusters of a model's estimate cases sums over its estimate attempts. -/
theorem BenchmarkManifest.Planned.sum_clusters {M : Type} [AddCommMonoid M] {m : BenchmarkManifest}
    (hp : m.Planned) {classes : List TargetClass} (hclasses : ∀ c ∈ classes, c ∈ m.comparisonClasses)
    (modelId : PyStr) (w : TrialIdentity → M) :
    ((((caseKeys (activeAttempts m m.plannedAttempts)).filter fun k => k.modelSubjectId = modelId).filter
        fun k => plannedInEstimate m classes k.entryId k.caseId).map fun k =>
          (((activeAttempts m m.plannedAttempts).filter fun t => t.caseKey = k).map w).sum).sum =
      ((estimateAttempts m classes modelId).map w).sum := by
  have hcluster : ∀ k ∈ ((caseKeys (activeAttempts m m.plannedAttempts)).filter
      fun k => k.modelSubjectId = modelId).filter fun k => plannedInEstimate m classes k.entryId k.caseId,
      (((activeAttempts m m.plannedAttempts).filter fun t => t.caseKey = k).map w).sum =
        (((estimateAttempts m classes modelId).filter fun t => t.caseKey = k).map w).sum := by
    intro k hk
    obtain ⟨hk, hestimate⟩ := List.mem_filter.mp hk
    have hmodel : k.modelSubjectId = modelId := by simpa using (List.mem_filter.mp hk).2
    rw [hp.cluster_eq hclasses hestimate, hmodel]
  rw [List.map_congr_left hcluster]
  apply sum_groups TrialIdentity.caseKey w (((nodup_caseKeys _).filter _).filter _)
  -- the cluster of an estimate attempt is one of the summed ones
  intro t ht
  obtain ⟨htm, hscope⟩ := List.mem_filter.mp ht
  simp only [decide_eq_true_eq, inPrimaryEstimate] at hscope
  obtain ⟨⟨hclass, hpool⟩, hmodel⟩ := hscope
  obtain ⟨row, hrow, hentry, hrowclass⟩ := validateTrialIdentity_lineage (hp.valid t htm)
  have hactive : t ∈ activeAttempts m m.plannedAttempts :=
    List.mem_filter.mpr ⟨htm, by simpa using hclasses _ hclass⟩
  rw [List.mem_filter, List.mem_filter, mem_caseKeys]
  refine ⟨⟨⟨t, hactive, rfl⟩, decide_eq_true hmodel⟩, ?_⟩
  simp only [plannedInEstimate, Bool.and_eq_true, List.any_eq_true, decide_eq_true_eq]
  exact ⟨⟨t, htm, rfl, hpool⟩, row, hrow, hentry, hrowclass ▸ hclass⟩

/-- A model's totals are the sums of its cases in the primary estimate. -/
structure CountsAgree (m : BenchmarkManifest) (classes : List TargetClass) (r : ModelFailure)
    (cases : List CaseFailure) : Prop where
  reported : ∀ c ∈ cases, c.failureCount ≠ none ∧ c.modelScorableDenominator ≠ none
  failures : r.failureCount =
    some ((cases.filter fun c => c.inEstimate m classes).map fun c => c.failureCount.getD 0).sum
  denominator : r.modelScorableDenominator =
    some ((cases.filter fun c => c.inEstimate m classes).map fun c => c.modelScorableDenominator.getD 0).sum

/-- A model's scored and excluded rows are its planned attempts, and its failures are among them. -/
structure CountsAddUp (r : ModelFailure) : Prop where
  partition : ∃ denominator excluded, r.modelScorableDenominator = some denominator ∧
    r.excludedTerminalCounts = some excluded ∧
    denominator + (excluded.map Prod.snd).sum = r.recordedAttemptCount
  recorded : r.recordedAttemptCount = r.plannedAttemptCount
  bounded : ∃ failures : ℤ, ∃ denominator : ℕ, r.failureCount = some failures ∧
    r.modelScorableDenominator = some denominator ∧ 0 ≤ failures ∧ failures ≤ denominator
  unit : ∀ q ∈ r.failureRate, 0 ≤ q ∧ q ≤ 1

section Complete
variable {m : BenchmarkManifest} {g : Grid} {classes : List TargetClass}

omit [PyRuntime] in
theorem Grid.modelFailure_ok (g : Grid) (classes : List TargetClass) (modelId : PyStr) :
    ∃ r, g.modelFailure classes modelId = .ok r := by
  unfold Grid.modelFailure
  dsimp only
  by_cases hmissing : g.missingOf (g.planned.filter (inPrimaryEstimate classes)) = []
  · obtain ⟨i, hi⟩ := wilsonInterval_ok
      (failureValues_bounds ((g.comparableRows classes).filter fun o => o.modelSubjectId = modelId)).1
      (failureValues_bounds _).2
    rw [if_neg (by simpa using hmissing), hi]
    exact ⟨_, rfl⟩
  · rw [if_pos hmissing]
    exact ⟨_, rfl⟩

omit [PyRuntime] in
/-- What a model reports once the primary estimate is recorded. -/
theorem Grid.modelFailure_complete {modelId : PyStr} {r : ModelFailure}
    (h : g.modelFailure classes modelId = .ok r)
    (hcovers : Covers g.observed (g.planned.filter (inPrimaryEstimate classes))) :
    r.failureCount = some (failureValues ((g.comparableRows classes).filter fun o => o.modelSubjectId = modelId)).sum ∧
    r.modelScorableDenominator =
      some (failureValues ((g.comparableRows classes).filter fun o => o.modelSubjectId = modelId)).length ∧
    r.excludedTerminalCounts =
      some (excludedCounts ((g.comparableRows classes).filter fun o => o.modelSubjectId = modelId)) ∧
    r.recordedAttemptCount = ((g.comparableRows classes).filter fun o => o.modelSubjectId = modelId).length ∧
    r.plannedAttemptCount =
      (g.planned.filter fun t => inPrimaryEstimate classes t ∧ t.modelSubjectId = modelId).length ∧
    ∀ q ∈ r.failureRate, 0 ≤ q ∧ q ≤ 1 := by
  have hunit := rate_unit
    (failureValues_bounds ((g.comparableRows classes).filter fun o => o.modelSubjectId = modelId)).1
    (failureValues_bounds _).2
  have hcount : (g.planned.filter (inPrimaryEstimate classes)).countP (fun t => t.modelSubjectId = modelId) =
      (g.planned.filter fun t => inPrimaryEstimate classes t ∧ t.modelSubjectId = modelId).length := by
    rw [List.countP_eq_length_filter, List.filter_filter]
    congr 1
    apply List.filter_congr
    intro t _
    rw [Bool.eq_iff_iff]
    simp [and_comm]
  unfold Grid.modelFailure at h
  dsimp only at h
  rw [if_neg (by simpa using Grid.missingOf_eq_nil.mpr hcovers)] at h
  simp only [bind_eq_ok_iff, pure_eq_ok_iff] at h
  obtain ⟨interval, -, rfl⟩ := h
  refine ⟨rfl, rfl, rfl, rfl, hcount, ?_⟩
  intro q hq
  dsimp only at hq
  split_ifs at hq <;> cases hq
  exact hunit

theorem Grid.Accepted.row_judged (ha : g.Accepted) (hsystem : .systemEvalOnly ∉ classes) :
    ∀ o ∈ g.comparableRows classes, o.targetClass ≠ .systemEvalOnly ∧ ∃ semantics, o.Judged semantics := by
  intro o ho
  obtain ⟨hmem, hclass⟩ := List.mem_filter.mp ho
  simp only [decide_eq_true_eq] at hclass
  obtain ⟨t, -, hmatch⟩ := ha.recorded o hmem
  refine ⟨?_, validateObservation_judged hmatch.valid⟩
  intro hs
  exact hsystem (hs ▸ hclass.1)

theorem Grid.modelFailure_addsUp (ha : g.Accepted) (hsystem : .systemEvalOnly ∉ classes)
    (hcovers : Covers g.observed g.planned) {modelId : PyStr} {r : ModelFailure}
    (h : g.modelFailure classes modelId = .ok r) : CountsAddUp r := by
  have hscope : ∀ q : TrialIdentity → Bool, Covers g.observed (g.planned.filter q) :=
    fun q t ht => hcovers t (List.mem_filter.mp ht).1
  obtain ⟨hfailures, hdenominator, hexcluded, hrecorded, hplanned, hunit⟩ :=
    Grid.modelFailure_complete h (hscope _)
  have hbounds := failureValues_bounds ((g.comparableRows classes).filter fun o => o.modelSubjectId = modelId)
  constructor
  · refine ⟨_, _, hdenominator, hexcluded, ?_⟩
    rw [hrecorded]
    apply excludedCounts_partition
    intro o ho
    exact ha.row_judged hsystem o (List.mem_filter.mp ho).1
  · rw [hrecorded, hplanned, (ha.modelRows_perm classes modelId).length_eq,
      Grid.length_rowsOf_covered (hscope _)]
  · exact ⟨_, _, hfailures, hdenominator, hbounds.1, hbounds.2⟩
  · exact hunit

theorem Grid.modelFailure_agrees (ha : g.Accepted) (hp : m.Planned) (hplanned : g.planned = m.plannedAttempts)
    (hclasses : ∀ c ∈ classes, c ∈ m.comparisonClasses) (hcovers : Covers g.observed g.planned)
    {modelId : PyStr} {r : ModelFailure} {cases : ModelCases} (h : g.modelFailure classes modelId = .ok r)
    (hcases : g.modelCases (activeAttempts m g.planned) modelId = .ok cases) :
    CountsAgree m classes r cases.cases ∧ ∀ c ∈ cases.cases, ∀ q ∈ c.cfp, 0 ≤ q ∧ q ≤ 1 := by
  have hscope : ∀ q : TrialIdentity → Bool, Covers g.observed (g.planned.filter q) :=
    fun q t ht => hcovers t (List.mem_filter.mp ht).1
  obtain ⟨hfailures, hdenominator, -⟩ := Grid.modelFailure_complete h (hscope _)
  unfold Grid.modelCases at hcases
  simp only [bind_eq_ok_iff, pure_eq_ok_iff] at hcases
  obtain ⟨results, hresults, rfl⟩ := hcases
  have hreports : List.Forall₂ (fun k c => CaseFailure.Reports c g
      ((activeAttempts m g.planned).filter fun t => t.caseKey = k) k)
      ((caseKeys (activeAttempts m g.planned)).filter fun k => k.modelSubjectId = modelId) results := by
    apply (mapM_eq_ok_iff.mp hresults).imp
    intro k c hkc
    apply Grid.caseFailure_reports hkc
    intro t ht
    exact hcovers t (List.mem_filter.mp (List.mem_filter.mp ht).1).1
  -- the rows of the model are those of its estimate attempts
  have hrows : (failureValues ((g.comparableRows classes).filter fun o => o.modelSubjectId = modelId)).Perm
      ((estimateAttempts m classes modelId).filterMap g.scoredValue) := by
    rw [estimateAttempts, ← hplanned, ← Grid.failureValues_rowsOf]
    exact (ha.modelRows_perm classes modelId).filterMap _
  have hestimate : ∀ k c, CaseFailure.Reports c g ((activeAttempts m g.planned).filter fun t => t.caseKey = k) k →
      plannedInEstimate m classes k.entryId k.caseId = c.inEstimate m classes := by
    intro k c hr
    rw [CaseFailure.inEstimate, hr.entry, hr.case]
  constructor
  · constructor
    · intro c hc
      obtain ⟨k, -, hr⟩ := exists_of_mem_right hreports hc
      simp [hr.failures, hr.denominator]
    · rw [hfailures, hrows.sum_eq, sum_filterMap, ← hp.sum_clusters hclasses modelId, ← hplanned]
      congr 1
      apply sum_filter_aligned hreports hestimate
      intro k c hr
      rw [hr.failures, Grid.failureValues_rowsOf, sum_filterMap, Option.getD_some]
    · rw [hdenominator, hrows.length_eq, length_filterMap, ← hp.sum_clusters hclasses modelId, ← hplanned]
      congr 1
      apply sum_filter_aligned hreports hestimate
      intro k c hr
      rw [hr.denominator, Grid.failureValues_rowsOf, length_filterMap, Option.getD_some]
  · intro c hc
    obtain ⟨k, -, hr⟩ := exists_of_mem_right hreports hc
    exact hr.unit

end Complete

/-- On a complete grid both metrics return; each model's counts are the sums over its cases in the
primary estimate, and they account for every planned attempt. -/
theorem failure_counts_agree {m : BenchmarkManifest} {expected : ArtifactFingerprints}
    {observations : List Observation} {g : Grid} {metricId : PyStr} {classes : List TargetClass}
    (hgrid : validateObservationGrid m expected observations = .ok g)
    (hmetric : metricTargetClasses m metricId = .ok classes)
    (hcomplete : Covers observations m.plannedAttempts) :
    ∃ d c, modelFailureDenominator m expected observations metricId = .ok d ∧
      caseFailureProbability m expected observations = .ok c ∧
      (∀ t ∈ m.plannedAttempts, inPrimaryEstimate classes t = true → ∃ r, (t.modelSubjectId, r) ∈ d.byModel) ∧
      ∀ e ∈ d.byModel, CountsAddUp e.2 ∧ ∃ cases, (e.1, cases) ∈ c.byModel ∧
        CountsAgree m classes e.2 cases.cases ∧ ∀ k ∈ cases.cases, ∀ q ∈ k.cfp, 0 ≤ q ∧ q ≤ 1 := by
  obtain ⟨ha, hp, hplanned, hobserved⟩ := validateObservationGrid_accepted hgrid
  obtain ⟨hclasses, hsystem⟩ := metricTargetClasses_subset hmetric
  have hcovers : Covers g.observed g.planned := hobserved ▸ hplanned ▸ hcomplete
  have hmodel : ∀ x ∈ modelSubjects (g.planned.filter (inPrimaryEstimate classes)),
      ∃ r, g.modelFailure classes x = .ok r := fun x _ => g.modelFailure_ok classes x
  have hcluster : ∀ x ∈ modelSubjects (activeAttempts m g.planned),
      ∃ r, g.modelCases (activeAttempts m g.planned) x = .ok r := fun x _ => g.modelCases_ok _ x
  obtain ⟨models, hmodels⟩ := tabulate_ok hmodel
  obtain ⟨clusters, hclusters⟩ := tabulate_ok hcluster
  have hdenominator : ∃ d, modelFailureDenominator m expected observations metricId = .ok d ∧
      d.byModel = models := by
    simp only [modelFailureDenominator, Grid.modelFailureDenominator, bind_eq_ok_iff, pure_eq_ok_iff]
    exact ⟨_, ⟨g, hgrid, classes, hmetric, models, hmodels, rfl⟩, rfl⟩
  have hprobability : ∃ c, caseFailureProbability m expected observations = .ok c ∧ c.byModel = clusters := by
    simp only [caseFailureProbability, Grid.caseFailureProbability, bind_eq_ok_iff, pure_eq_ok_iff]
    exact ⟨_, ⟨g, hgrid, clusters, hclusters, rfl⟩, rfl⟩
  obtain ⟨d, hd, rfl⟩ := hdenominator
  obtain ⟨c, hc, rfl⟩ := hprobability
  refine ⟨d, c, hd, hc, ?_, ?_⟩
  · intro t ht hscope
    obtain ⟨r, hr, -⟩ := mem_tabulate hmodels
      (mem_modelSubjects.mpr ⟨t, List.mem_filter.mpr ⟨hplanned ▸ ht, hscope⟩, rfl⟩)
    exact ⟨r, hr⟩
  · intro e he
    obtain ⟨hkey, hrow⟩ := tabulate_mem hmodels he
    -- a model of the estimate has its cases among the active ones
    have hactive : e.1 ∈ modelSubjects (activeAttempts m g.planned) := by
      obtain ⟨t, ht, hid⟩ := mem_modelSubjects.mp hkey
      obtain ⟨htm, hscope⟩ := List.mem_filter.mp ht
      simp only [inPrimaryEstimate, decide_eq_true_eq] at hscope
      exact mem_modelSubjects.mpr ⟨t, List.mem_filter.mpr ⟨htm, by simpa using hclasses _ hscope.1⟩, hid⟩
    obtain ⟨cases, hentry, hcases⟩ := mem_tabulate hclusters hactive
    obtain ⟨hagree, hunit⟩ := Grid.modelFailure_agrees ha hp hplanned hclasses hcovers hrow hcases
    exact ⟨Grid.modelFailure_addsUp ha hsystem hcovers hrow, cases, hentry, hagree, hunit⟩

end Accepted

section Frozen
open Python.Ascii

/-- On the complete grid of the frozen benchmark the counts of its model agree. -/
theorem failure_counts_agree_frozen :
    ∃ d c, modelFailureDenominator frozenBenchmark benchmarkArtifacts (benchmarkRecords benchmarkPlan true)
        "model_failure_rate" = .ok d ∧
      caseFailureProbability frozenBenchmark benchmarkArtifacts (benchmarkRecords benchmarkPlan true) = .ok c ∧
      ∃ r, (firstRoot.modelSubjectId, r) ∈ d.byModel ∧ CountsAddUp r ∧
        ∃ cases, (firstRoot.modelSubjectId, cases) ∈ c.byModel ∧
          CountsAgree frozenBenchmark defaultComparableClasses r cases.cases := by
  have hmetric : metricTargetClasses frozenBenchmark "model_failure_rate" = .ok defaultComparableClasses := by
    decide +kernel
  have hcomplete : Covers (benchmarkRecords benchmarkPlan true) frozenBenchmark.plannedAttempts := by
    intro t ht
    exact ⟨_, List.mem_map.mpr ⟨t, ht, rfl⟩, rfl⟩
  obtain ⟨d, c, hd, hc, hall, hagree⟩ :=
    failure_counts_agree (benchmarkRecords_accepted (List.Sublist.refl _) true) hmetric hcomplete
  obtain ⟨r, hr⟩ := hall firstRoot (List.mem_cons_self) (by decide +kernel)
  obtain ⟨hadds, cases, hcases, hcounts, -⟩ := hagree _ hr
  exact ⟨d, c, hd, hc, r, hr, hadds, cases, hcases, hcounts⟩

end Frozen

end EvaluationLab.BM0
