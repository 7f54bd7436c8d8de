import EvaluationLab.BM0.GridFacts
import EvaluationLab.BM0.FrozenBenchmark

/-! No metric passes before its scope is recorded, and what an instability estimate rests on. -/
namespace EvaluationLab.BM0
open Python Effect QA0

theorem Grid.terminalPartition_pass {g : Grid} (h : g.terminalPartition.terminalStatus = .pass) :
    Covers g.observed g.planned := by
  apply Grid.missingOf_eq_nil.mp
  unfold Grid.terminalPartition at h
  dsimp only at h
  split_ifs at h with h0 h1
  · simpa using h1

theorem Grid.modelFailureDenominator_pass {g : Grid} {classes : List TargetClass} {metricId : PyStr}
    {r : ModelFailureDenominator} (h : g.modelFailureDenominator classes metricId = .ok r)
    (hpass : r.terminalStatus = .pass) :
    r.targetClasses = classes ∧ Covers g.observed (g.planned.filter (inPrimaryEstimate classes)) := by
  unfold Grid.modelFailureDenominator at h
  simp only [bind_eq_ok_iff, pure_eq_ok_iff] at h
  obtain ⟨byModel, -, rfl⟩ := h
  refine ⟨rfl, Grid.missingOf_eq_nil.mp ?_⟩
  dsimp only at hpass
  split_ifs at hpass with h0
  · simpa using h0

theorem Grid.caseFailureProbability_pass {g : Grid} {m : BenchmarkManifest} {r : CaseFailureProbability}
    (h : g.caseFailureProbability m = .ok r) (hpass : r.terminalStatus = .pass) :
    Covers g.observed (activeAttempts m g.planned) := by
  unfold Grid.caseFailureProbability at h
  simp only [bind_eq_ok_iff, pure_eq_ok_iff] at h
  obtain ⟨byModel, -, rfl⟩ := h
  apply Grid.missingOf_eq_nil.mp
  dsimp only at hpass
  split_ifs at hpass with hall
  exact hall.2.1

theorem CaseFailureProbability.familyRates_pass [PyRandom] {cfp : CaseFailureProbability}
    {r : FamilyConditionalFailureRate} (h : cfp.familyRates = .ok r) (hpass : r.terminalStatus = .pass) :
    cfp.terminalStatus = .pass := by
  unfold CaseFailureProbability.familyRates at h
  simp only [bind_eq_ok_iff, pure_eq_ok_iff] at h
  obtain ⟨byModel, -, rfl⟩ := h
  dsimp only at hpass
  split_ifs at hpass with hall
  exact hall.1

/-- A control rate passes only for a model whose controls are all recorded. -/
theorem Grid.controlRate_pass {g : Grid} {controls : List TrialIdentity} {modelId : PyStr} {r : ControlRate}
    (h : g.controlRate controls modelId = .ok r) (hpass : r.terminalStatus = .pass) :
    Covers g.observed (controls.filter fun t => t.modelSubjectId = modelId) := by
  unfold Grid.controlRate at h
  simp only [bind_eq_ok_iff, pure_eq_ok_iff] at h
  obtain ⟨interval, -, rfl⟩ := h
  apply Grid.missingOf_eq_nil.mp
  dsimp only at hpass
  split_ifs at hpass with hall
  simpa using hall.2

theorem Grid.controlFalsePositiveRate_pass {g : Grid} {m : BenchmarkManifest} {r : ControlFalsePositiveRate}
    (h : g.controlFalsePositiveRate m = .ok r) (hpass : r.terminalStatus = .pass) :
    Covers g.observed ((activeAttempts m g.planned).filter fun t => t.corpusPoolId = .control) := by
  unfold Grid.controlFalsePositiveRate at h
  simp only [bind_eq_ok_iff, pure_eq_ok_iff] at h
  obtain ⟨byModel, htab, rfl⟩ := h
  dsimp only at hpass
  split_ifs at hpass with hall
  intro t ht
  -- the attempt's own model has passed
  obtain ⟨row, hrow, hrate⟩ := mem_tabulate htab (mem_modelSubjects.mpr ⟨t, ht, rfl⟩)
  apply Grid.controlRate_pass hrate (hall.2 _ hrow)
  simpa using ht

theorem Grid.systemInvariantFailureRate_pass {g : Grid} {r : SystemInvariantFailureRate}
    (h : g.systemInvariantFailureRate = .ok r) (hpass : r.terminalStatus = .pass) :
    Covers g.observed (g.planned.filter (inPrimaryEstimate [.systemEvalOnly])) := by
  unfold Grid.systemInvariantFailureRate at h
  simp only [bind_eq_ok_iff, pure_eq_ok_iff] at h
  obtain ⟨interval, -, rfl⟩ := h
  apply Grid.missingOf_eq_nil.mp
  dsimp only at hpass
  split_ifs at hpass with h0
  · simpa using h0

theorem Grid.pairedCompleteCase_pass {g : Grid} {classes : List TargetClass} {metricId leftId rightId : PyStr}
    {r : PairedCompleteCase} (h : g.pairedCompleteCase classes metricId leftId rightId = .ok r)
    (hpass : r.terminalStatus = .pass) :
    Covers g.observed (g.planned.filter (inPairedScope classes leftId rightId)) := by
  unfold Grid.pairedCompleteCase at h
  split_ifs at h with hmissing
  · cases h
    cases hpass
  · exact Grid.missingOf_eq_nil.mp (by simpa using hmissing)

/-- The classes a paired comparison reports are those it is made over. -/
theorem Grid.pairedCompleteCase_classes {g : Grid} {classes : List TargetClass}
    {metricId leftId rightId : PyStr} {r : PairedCompleteCase}
    (h : g.pairedCompleteCase classes metricId leftId rightId = .ok r) : r.targetClasses = classes := by
  unfold Grid.pairedCompleteCase Grid.pairComplete at h
  split_ifs at h with hmissing
  · cases h
    rfl
  · simp only [bind_eq_ok_iff] at h
    obtain ⟨ordinals, -, left, -, right, -, h⟩ := h
    split_ifs at h <;> cases h <;> rfl

/-- The attempts of a case cluster. -/
def clusterOf (m : BenchmarkManifest) (key : CaseKey) : List TrialIdentity :=
  (activeAttempts m m.plannedAttempts).filter fun t => t.caseKey = key

/-- A case passes only when its cluster is recorded. -/
theorem Grid.caseFailure_pass {g : Grid} {relevant : List TrialIdentity} {key : CaseKey} {c : CaseFailure}
    (h : g.caseFailure relevant key = .ok c) (hpass : c.terminalStatus = .pass) :
    c.caseId = key.caseId ∧ Covers g.observed (relevant.filter fun t => t.caseKey = key) := by
  unfold Grid.caseFailure at h
  simp only [bind_eq_ok_iff, pure_eq_ok_iff] at h
  obtain ⟨interval, -, rfl⟩ := h
  refine ⟨rfl, Grid.missingOf_eq_nil.mp ?_⟩
  dsimp only at hpass
  split_ifs at hpass with h0
  simpa using h0

/-- What one model's instability rests on: recorded clusters of that model, one for each eligible case. -/
structure RestsOn (m : BenchmarkManifest) (observations : List Observation) (modelId : PyStr)
    (w : ModelInstability) (keys : List CaseKey) : Prop where
  distinct : keys.Nodup
  counted : keys.length = w.eligibleDistinctCaseCount
  recorded : ∀ k ∈ keys, k.modelSubjectId = modelId ∧ Covers observations (clusterOf m k)
  switching : ∀ id ∈ w.switchingCaseIds, ∃ k ∈ keys, k.caseId = id

theorem modelInstability_restsOn {m : BenchmarkManifest} {g : Grid} {modelId : PyStr} {cases : ModelCases}
    (hplanned : g.planned = m.plannedAttempts)
    (h : g.modelCases (activeAttempts m g.planned) modelId = .ok cases) :
    ∃ keys, RestsOn m g.observed modelId (modelInstability cases.cases) keys := by
  unfold Grid.modelCases at h
  simp only [bind_eq_ok_iff, pure_eq_ok_iff] at h
  obtain ⟨results, hresults, rfl⟩ := h
  have hall := mapM_eq_ok_iff.mp hresults
  have hnodup : ((caseKeys (activeAttempts m g.planned)).filter fun k => k.modelSubjectId = modelId).Nodup :=
    (nodup_caseKeys _).filter _
  have hmodel : ∀ k ∈ (caseKeys (activeAttempts m g.planned)).filter (fun k => k.modelSubjectId = modelId),
      k.modelSubjectId = modelId := by
    intro k hk
    simpa using (List.mem_filter.mp hk).2
  -- the clusters of the eligible cases, in the order of the cases
  obtain ⟨keys, hsub, hfor⟩ := forall₂_filter_right hall CaseFailure.eligible
  have heligible : ∀ c ∈ results.filter CaseFailure.eligible, c.terminalStatus = .pass := by
    intro c hc
    have he := (List.mem_filter.mp hc).2
    simp only [CaseFailure.eligible, decide_eq_true_eq] at he
    exact he.1
  refine ⟨keys, ?_, ?_, ?_, ?_⟩
  · exact hnodup.sublist hsub
  · exact hfor.length_eq
  · intro k hk
    refine ⟨hmodel k (hsub.subset hk), ?_⟩
    obtain ⟨c, hc, hkc⟩ := exists_of_mem_left hfor hk
    rw [clusterOf, ← hplanned]
    exact (Grid.caseFailure_pass hkc (heligible c hc)).2
  · intro id hid
    obtain ⟨c, hc, rfl⟩ := List.mem_map.mp (mem_sortTexts.mp hid)
    have hc' := (List.mem_filter.mp hc).1
    obtain ⟨k, hk, hkc⟩ := exists_of_mem_right hfor hc'
    exact ⟨k, hk, (Grid.caseFailure_pass hkc (heligible c hc')).1.symm⟩

/-- Every model with active attempts has an entry, and an entry passes with an eligible case. -/
theorem CaseFailureProbability.withinCaseInstability_pass {m : BenchmarkManifest} {g : Grid}
    {cfp : CaseFailureProbability} (hplanned : g.planned = m.plannedAttempts)
    (h : g.caseFailureProbability m = .ok cfp) :
    (cfp.withinCaseInstability.terminalStatus = .pass → ∀ t ∈ activeAttempts m m.plannedAttempts,
      ∃ w, (t.modelSubjectId, w) ∈ cfp.withinCaseInstability.byModel ∧ 0 < w.eligibleDistinctCaseCount) ∧
    ∀ e ∈ cfp.withinCaseInstability.byModel, ∃ keys, RestsOn m g.observed e.1 e.2 keys := by
  unfold Grid.caseFailureProbability at h
  simp only [bind_eq_ok_iff, pure_eq_ok_iff] at h
  obtain ⟨byModel, htab, rfl⟩ := h
  constructor
  · intro hpass t ht
    obtain ⟨cases, hrow, -⟩ := mem_tabulate htab (mem_modelSubjects.mpr ⟨t, hplanned ▸ ht, rfl⟩)
    have hentry : (t.modelSubjectId, modelInstability cases.cases) ∈
        byModel.map fun model => (model.1, modelInstability model.2.cases) :=
      List.mem_map.mpr ⟨_, hrow, rfl⟩
    refine ⟨_, hentry, ?_⟩
    unfold CaseFailureProbability.withinCaseInstability at hpass
    dsimp only at hpass
    split_ifs at hpass with hall
    have hstatus := hall.2 _ hentry
    unfold modelInstability at hstatus ⊢
    dsimp only at hstatus ⊢
    split_ifs at hstatus with hne
    exact List.length_pos_of_ne_nil hne
  · intro e he
    obtain ⟨model, hmodel, rfl⟩ := List.mem_map.mp he
    exact modelInstability_restsOn hplanned (tabulate_mem htab hmodel).2

section Metrics
variable [PyRuntime] [PyRandom] (m : BenchmarkManifest) (expected : ArtifactFingerprints)
  (observations : List Observation)

/-- A metric passes only when every planned attempt in its scope is recorded. Within-case instability
is the exception: it passes on the clusters that are recorded, and rests on nothing else. -/
theorem passing_metrics_are_complete :
    (∀ r, typedTerminalPartition m expected observations = .ok r → r.terminalStatus = .pass →
      Covers observations m.plannedAttempts) ∧
    (∀ r, infrastructureErrorRate m expected observations = .ok r → r.terminalStatus = .pass →
      Covers observations m.plannedAttempts) ∧
    (∀ metricId r, modelFailureDenominator m expected observations metricId = .ok r → r.terminalStatus = .pass →
      Covers observations (m.plannedAttempts.filter (inPrimaryEstimate r.targetClasses))) ∧
    (∀ r, caseFailureProbability m expected observations = .ok r → r.terminalStatus = .pass →
      Covers observations (activeAttempts m m.plannedAttempts)) ∧
    (∀ r, familyConditionalFailureRate m expected observations = .ok r → r.terminalStatus = .pass →
      Covers observations (activeAttempts m m.plannedAttempts)) ∧
    (∀ r, controlFalsePositiveRate m expected observations = .ok r → r.terminalStatus = .pass →
      Covers observations ((activeAttempts m m.plannedAttempts).filter fun t => t.corpusPoolId = .control)) ∧
    (∀ r, systemInvariantFailureRate m expected observations = .ok r → r.terminalStatus = .pass →
      Covers observations (m.plannedAttempts.filter (inPrimaryEstimate [.systemEvalOnly]))) ∧
    (∀ leftId rightId metricId r, pairedCompleteCase m expected observations leftId rightId metricId = .ok r →
      r.terminalStatus = .pass →
      Covers observations (m.plannedAttempts.filter (inPairedScope r.targetClasses leftId rightId))) ∧
    (∀ r, withinCaseInstability m expected observations = .ok r →
      (r.terminalStatus = .pass → ∀ t ∈ activeAttempts m m.plannedAttempts,
        ∃ w, (t.modelSubjectId, w) ∈ r.byModel ∧ 0 < w.eligibleDistinctCaseCount) ∧
      ∀ e ∈ r.byModel, ∃ keys, RestsOn m observations e.1 e.2 keys) := by
  have hgrid : ∀ {g}, validateObservationGrid m expected observations = .ok g →
      g.planned = m.plannedAttempts ∧ g.observed = observations := by
    intro g hg
    obtain ⟨-, -, -, rfl⟩ := validateObservationGrid_iff.mp hg
    exact ⟨rfl, rfl⟩
  have hpartition : ∀ r, typedTerminalPartition m expected observations = .ok r → r.terminalStatus = .pass →
      Covers observations m.plannedAttempts := by
    intro r hr hpass
    simp only [typedTerminalPartition, bind_eq_ok_iff, pure_eq_ok_iff] at hr
    obtain ⟨g, hg, rfl⟩ := hr
    obtain ⟨hplanned, hobserved⟩ := hgrid hg
    exact hobserved ▸ hplanned ▸ Grid.terminalPartition_pass hpass
  have hcases : ∀ r, caseFailureProbability m expected observations = .ok r → r.terminalStatus = .pass →
      Covers observations (activeAttempts m m.plannedAttempts) := by
    intro r hr hpass
    simp only [caseFailureProbability, bind_eq_ok_iff] at hr
    obtain ⟨g, hg, hr⟩ := hr
    obtain ⟨hplanned, hobserved⟩ := hgrid hg
    exact hobserved ▸ hplanned ▸ Grid.caseFailureProbability_pass hr hpass
  refine ⟨hpartition, ?_, ?_, hcases, ?_, ?_, ?_, ?_, ?_⟩
  · intro r hr hpass
    simp only [infrastructureErrorRate, bind_eq_ok_iff, pure_eq_ok_iff] at hr
    obtain ⟨p, hp, rfl⟩ := hr
    exact hpartition p hp hpass
  · intro metricId r hr hpass
    simp only [modelFailureDenominator, bind_eq_ok_iff] at hr
    obtain ⟨g, hg, classes, -, hr⟩ := hr
    obtain ⟨hplanned, hobserved⟩ := hgrid hg
    obtain ⟨hclasses, hcovers⟩ := Grid.modelFailureDenominator_pass hr hpass
    rw [hclasses, ← hplanned, ← hobserved]
    exact hcovers
  · intro r hr hpass
    simp only [familyConditionalFailureRate, bind_eq_ok_iff] at hr
    obtain ⟨cfp, hcfp, hr⟩ := hr
    exact hcases cfp hcfp (CaseFailureProbability.familyRates_pass hr hpass)
  · intro r hr hpass
    simp only [controlFalsePositiveRate, bind_eq_ok_iff] at hr
    obtain ⟨g, hg, hr⟩ := hr
    obtain ⟨hplanned, hobserved⟩ := hgrid hg
    exact hobserved ▸ hplanned ▸ Grid.controlFalsePositiveRate_pass hr hpass
  · intro r hr hpass
    simp only [systemInvariantFailureRate, bind_eq_ok_iff] at hr
    obtain ⟨g, hg, hr⟩ := hr
    obtain ⟨hplanned, hobserved⟩ := hgrid hg
    exact hobserved ▸ hplanned ▸ Grid.systemInvariantFailureRate_pass hr hpass
  · intro leftId rightId metricId r hr hpass
    simp only [pairedCompleteCase, bind_eq_ok_iff, exists_unit_iff] at hr
    obtain ⟨-, g, hg, classes, -, hr⟩ := hr
    obtain ⟨hplanned, hobserved⟩ := hgrid hg
    rw [Grid.pairedCompleteCase_classes hr, ← hplanned, ← hobserved]
    exact Grid.pairedCompleteCase_pass hr hpass
  · intro r hr
    simp only [withinCaseInstability, caseFailureProbability, bind_eq_ok_iff, pure_eq_ok_iff] at hr
    obtain ⟨cfp, ⟨g, hg, hcfp⟩, rfl⟩ := hr
    obtain ⟨hplanned, hobserved⟩ := hgrid hg
    rw [← hobserved]
    exact CaseFailureProbability.withinCaseInstability_pass hplanned hcfp

end Metrics

section Frozen
open Python.Ascii

/-- Within-case instability passes on the frozen benchmark although its second hidden case is unrecorded. -/
theorem frozen_instability_passes_partial :
    ∃ r, withinCaseInstability frozenBenchmark benchmarkArtifacts
        (benchmarkRecords [firstRoot, firstRetry] false) = .ok r ∧ r.terminalStatus = .pass ∧
      ¬Covers (benchmarkRecords [firstRoot, firstRetry] false)
        (activeAttempts frozenBenchmark frozenBenchmark.plannedAttempts) := by
  have hsub : [firstRoot, firstRetry].Sublist benchmarkPlan := List.sublist_append_left _ [secondRoot, controlRoot]
  have hgrid := benchmarkRecords_accepted hsub false
  have hpass : returns (Grid.caseFailureProbability ⟨benchmarkPlan, benchmarkRecords [firstRoot, firstRetry] false⟩
      frozenBenchmark) (fun cfp => cfp.withinCaseInstability.terminalStatus = .pass) = true := by decide +kernel
  obtain ⟨cfp, hcfp, hstatus⟩ := exists_of_returns hpass
  refine ⟨cfp.withinCaseInstability, ?_, of_decide_eq_true hstatus, by decide +kernel⟩
  simp only [withinCaseInstability, caseFailureProbability, hgrid, bind_eq_ok_iff, pure_eq_ok_iff]
  exact ⟨cfp, ⟨_, rfl, hcfp⟩, rfl⟩

end Frozen

end EvaluationLab.BM0
