import EvaluationLab.BM0.FrozenBenchmark
import EvaluationLab.BM0.PairedFacts
import EvaluationLab.Python.Order
import EvaluationLab.Structure.Sorting

/-! No metric depends on the order of the observations, nor on the order in which a set of attempts is walked. -/
namespace EvaluationLab.BM0
open Python Effect QA0 Structure

section Sorted

theorem sortTexts_perm {texts texts' : List PyStr} (h : texts.Perm texts') : sortTexts texts = sortTexts texts' :=
  have : Std.Antisymm fun s t : PyStr => strLe s t = true :=
    ⟨fun s t hst hts => le_antisymm ((strLe_iff s t).mp hst) ((strLe_iff t s).mp hts)⟩
  have : IsTrans PyStr fun s t => strLe s t = true := inferInstanceAs (IsTrans PyStr fun s t => strLe (id s) (id t) = true)
  have : Std.Total fun s t : PyStr => strLe s t = true :=
    inferInstanceAs (Std.Total fun s t : PyStr => strLe (id s) (id t) = true)
  sort_eq_of_perm _ h

theorem tupleLe_iff (xs ys : List PyStr) : tupleLe xs ys = true ↔ xs ≤ ys := by
  induction xs generalizing ys with
  | nil => exact iff_of_true rfl (not_lt.mp (List.not_lt_nil ys))
  | cons x xs ih =>
    cases ys with
    | nil => simp [tupleLe]
    | cons y ys =>
      rw [tupleLe, ← not_lt, List.cons_lt_cons_iff, not_or, not_and, not_lt, not_lt]
      split_ifs with hxy
      · rw [ih]
        simp [hxy]
      · rw [strLe_iff]
        exact ⟨fun h => ⟨h, fun hyx => absurd hyx.symm hxy⟩, And.left⟩

theorem CaseKey.parts_injective : Function.Injective CaseKey.parts := by
  intro j k h
  cases j
  cases k
  simpa [CaseKey.parts] using h

instance : Std.Total fun j k : CaseKey => tupleLe j.parts k.parts = true where
  total j k := by
    rw [tupleLe_iff, tupleLe_iff]
    exact le_total _ _

instance : IsTrans CaseKey fun j k => tupleLe j.parts k.parts = true where
  trans i j k hij hjk := by
    rw [tupleLe_iff] at hij hjk ⊢
    exact le_trans hij hjk

instance : Std.Antisymm fun j k : CaseKey => tupleLe j.parts k.parts = true where
  antisymm j k hjk hkj := by
    rw [tupleLe_iff] at hjk hkj
    exact CaseKey.parts_injective (le_antisymm hjk hkj)

theorem caseKeys_perm {attempts attempts' : List TrialIdentity} (h : attempts.Perm attempts') :
    caseKeys attempts = caseKeys attempts' :=
  sort_eq_of_perm _ (h.map TrialIdentity.caseKey).dedup

theorem modelSubjects_perm {attempts attempts' : List TrialIdentity} (h : attempts.Perm attempts') :
    modelSubjects attempts = modelSubjects attempts' :=
  sortTexts_perm (h.map fun t => t.modelSubjectId).dedup

end Sorted

/-- An order in which a set of attempts is walked. -/
structure SetOrder where
  walk : List TrialIdentity → List TrialIdentity
  perm : ∀ attempts, (walk attempts).Perm attempts

section Walked

/-- `case_failure_probability_v1` with `relevant_attempt_ids` in the order it is walked. -/
def Grid.caseFailureOver (g : Grid) (m : BenchmarkManifest) (relevant : List TrialIdentity) :
    Except PyExc CaseFailureProbability := do
  let missing := g.missingOf relevant
  let byModel ← tabulate (g.modelCases relevant) (modelSubjects relevant)
  let pass := byModel ≠ [] ∧ missing = [] ∧ ∀ r ∈ byModel, ∀ c ∈ r.2.cases, c.terminalStatus = .pass
  let reason : Option PyStr :=
    if byModel = [] then some "NO_PREDECLARED_MODEL_CASES"
    else if missing ≠ [] then some "MISSING_PLANNED_OBSERVATIONS"
    else if pass then none
    else some "ONE_OR_MORE_ZERO_CASE_SCORABLE_DENOMINATORS"
  return ⟨if pass then .pass else .notEvaluable, reason, m.comparisonClasses, missing, byModel⟩

/-- `control_false_positive_rate_v1` with `control_ids` in the order it is walked. -/
def Grid.controlRatesOver (g : Grid) (controls : List TrialIdentity) : Except PyExc ControlFalsePositiveRate := do
  let byModel ← tabulate (g.controlRate controls) (modelSubjects controls)
  let pass := byModel ≠ [] ∧ ∀ r ∈ byModel, r.2.terminalStatus = .pass
  return ⟨if pass then .pass else .notEvaluable, if pass then none else some "CONTROL_GRID_NOT_SCORABLE",
    g.missingOf controls, byModel⟩

theorem Grid.caseFailureProbability_eq_over (g : Grid) (m : BenchmarkManifest) :
    g.caseFailureProbability m = g.caseFailureOver m (activeAttempts m g.planned) := rfl

theorem Grid.controlFalsePositiveRate_eq_over (g : Grid) (m : BenchmarkManifest) : g.controlFalsePositiveRate m =
    g.controlRatesOver ((activeAttempts m g.planned).filter fun t => t.corpusPoolId = .control) := rfl

variable [PyRuntime] (m : BenchmarkManifest) (expected : ArtifactFingerprints) (order : SetOrder)
  (observations : List Observation)

/-- The metrics that walk a set of attempts, for one order of the walk. -/
def caseFailureProbabilityWalked : Except PyExc CaseFailureProbability := do
  let g ← validateObservationGrid m expected observations
  g.caseFailureOver m (order.walk (activeAttempts m g.planned))

def familyConditionalFailureRateWalked [PyRandom] : Except PyExc FamilyConditionalFailureRate := do
  let cfp ← caseFailureProbabilityWalked m expected order observations
  cfp.familyRates

def withinCaseInstabilityWalked : Except PyExc WithinCaseInstability := do
  let cfp ← caseFailureProbabilityWalked m expected order observations
  return cfp.withinCaseInstability

def controlFalsePositiveRateWalked : Except PyExc ControlFalsePositiveRate := do
  let g ← validateObservationGrid m expected observations
  g.controlRatesOver (order.walk ((order.walk (activeAttempts m g.planned)).filter fun t => t.corpusPoolId = .control))

end Walked

section Relevant

theorem terminalCounts_perm {rows rows' : List Observation} (h : rows.Perm rows') (statuses : List Terminal) :
    terminalCounts rows statuses = terminalCounts rows' statuses := by
  simp only [terminalCounts, h.countP_eq]

theorem excludedCounts_perm {rows rows' : List Observation} (h : rows.Perm rows') :
    excludedCounts rows = excludedCounts rows' := by
  rw [excludedCounts, excludedCounts, terminalCounts_perm h, h.countP_eq]

theorem length_failureValues_perm {rows rows' : List Observation} (h : rows.Perm rows') :
    (failureValues rows).length = (failureValues rows').length := (h.filterMap _).length_eq

variable (g : Grid) {relevant relevant' : List TrialIdentity} (h : relevant.Perm relevant')
include h

theorem Grid.missingOf_perm : g.missingOf relevant = g.missingOf relevant' :=
  sortTexts_perm ((h.filter fun t => !g.isObserved t).map TrialIdentity.attemptId)

theorem Grid.rowsOf_perm : (g.rowsOf relevant).Perm (g.rowsOf relevant') := h.filterMap _

/-- The walk of a set does not show in a case. -/
theorem Grid.caseFailure_perm : g.caseFailure relevant = g.caseFailure relevant' := by
  funext key
  have hattempts := h.filter fun t => decide (t.caseKey = key)
  have hrows := g.rowsOf_perm hattempts
  unfold Grid.caseFailure
  simp only [g.missingOf_perm hattempts, sum_failureValues_perm hrows, length_failureValues_perm hrows, hrows.length_eq,
    hattempts.length_eq]

theorem Grid.caseFailureOver_perm (m : BenchmarkManifest) : g.caseFailureOver m relevant = g.caseFailureOver m relevant' := by
  have hcases : g.modelCases relevant = g.modelCases relevant' := by
    funext modelId
    rw [Grid.modelCases, Grid.modelCases, caseKeys_perm h, g.caseFailure_perm h]
  rw [Grid.caseFailureOver, Grid.caseFailureOver, hcases, modelSubjects_perm h, g.missingOf_perm h]

theorem Grid.controlRatesOver_perm : g.controlRatesOver relevant = g.controlRatesOver relevant' := by
  have hrates : g.controlRate relevant = g.controlRate relevant' := by
    funext modelId
    have hattempts := h.filter fun t => decide (t.modelSubjectId = modelId)
    have hrows := g.rowsOf_perm hattempts
    unfold Grid.controlRate
    simp only [g.missingOf_perm hattempts, sum_failureValues_perm hrows, length_failureValues_perm hrows]
  rw [Grid.controlRatesOver, Grid.controlRatesOver, hrates, modelSubjects_perm h, g.missingOf_perm h]

end Relevant

section Pairs

theorem joinRows_perm {left left' right right' : List (PairKey × Observation)} (hl : left.Perm left')
    (hr : right.Perm right') (hright : (right.map Prod.fst).Nodup) : (joinRows left right).Perm (joinRows left' right') := by
  rw [joinRows_eq, joinRows_eq]
  exact (joined_perm hl hr hright).map Prod.snd

/-- The comparison of two models does not see the order of their rows. -/
theorem Grid.pairResult_perm (g : Grid) (classes : List TargetClass) (metricId : PyStr)
    {left left' right right' : List (PairKey × Observation)} (hl : left.Perm left') (hr : right.Perm right')
    (hright : (right.map Prod.fst).Nodup) :
    g.pairResult classes metricId left right = g.pairResult classes metricId left' right' := by
  have hjoin := joinRows_perm hl hr hright
  have hincluded : (includedPairs left right).Perm (includedPairs left' right') := hjoin.filter _
  have hdesign : (left = [] ∨ ¬(left.map Prod.fst).Perm (right.map Prod.fst)) ↔
      (left' = [] ∨ ¬(left'.map Prod.fst).Perm (right'.map Prod.fst)) := by
    have hkeys : (left.map Prod.fst).Perm (right.map Prod.fst) ↔ (left'.map Prod.fst).Perm (right'.map Prod.fst) :=
      ⟨fun h => ((hl.map _).symm.trans h).trans (hr.map _), fun h => ((hl.map _).trans h).trans (hr.map _).symm⟩
    rw [hkeys, ← List.length_eq_zero_iff, ← List.length_eq_zero_iff, hl.length_eq]
  have hcompatible : (∃ p ∈ joinRows left right, g.compatiblePair p = false) ↔
      ∃ p ∈ joinRows left' right', g.compatiblePair p = false := by
    simp only [hjoin.mem_iff]
  have hempty : includedPairs left right = [] ↔ includedPairs left' right' = [] := by
    rw [← List.length_eq_zero_iff, ← List.length_eq_zero_iff, hincluded.length_eq]
  have hfirst := sum_failureValues_perm (hincluded.map Prod.fst)
  have hsecond := sum_failureValues_perm (hincluded.map Prod.snd)
  unfold Grid.pairResult
  simp only [hdesign, hcompatible, hempty, hl.length_eq, hincluded.length_eq, hfirst, hsecond]

end Pairs

section Reordered

variable [PyRuntime]

/-- Two accepted grids over one plan whose observations come in different orders. -/
structure Grid.Reordered (g g' : Grid) : Prop where
  accepted : g.Accepted
  accepted' : g'.Accepted
  planned : g'.planned = g.planned
  observed : g.observed.Perm g'.observed

theorem Grid.Accepted.observationOf_iff {g : Grid} (h : g.Accepted) {id : PyStr} {o : Observation} :
    g.observationOf id = some o ↔ o ∈ g.observed ∧ o.attemptId = id := by
  constructor
  · exact Grid.observationOf_some
  · rintro ⟨ho, rfl⟩
    exact h.observationOf_of_mem ho

theorem Grid.Accepted.pairKey_ok {g : Grid} (h : g.Accepted) {ordinals : List (PyStr × ℕ)}
    (hordinals : retryOrdinals g.planned = .ok ordinals) {o : Observation} (ho : o ∈ g.observed) :
    ∃ k, o.pairKey ordinals = .ok k := by
  obtain ⟨t, ht, -⟩ := h.recorded o ho
  obtain ⟨rows, hrows, -⟩ := bind_eq_ok_iff.mp hordinals
  obtain ⟨n, -, hn⟩ := mem_tabulate hrows (attemptOf_mem ht)
  have hordinal : retryOrdinal g.planned t = some (.ok n) := by
    cases hr : retryOrdinal g.planned t with
    | none =>
      rw [hr] at hn
      cases hn
    | some r =>
      rw [hr, Option.getD_some] at hn
      rw [hn]
  exact ⟨_, (h.pairKey_eq_ok_iff hordinals ho ht).mpr ⟨n, hordinal, rfl⟩⟩

namespace Grid.Reordered
variable {g g' : Grid} (h : g.Reordered g')
include h

theorem observationOf_eq : g'.observationOf = g.observationOf := by
  funext id
  apply Option.ext
  intro o
  rw [h.accepted'.observationOf_iff, h.accepted.observationOf_iff, h.observed.mem_iff]

theorem missingOf_eq : g'.missingOf = g.missingOf := by
  funext attempts
  simp only [Grid.missingOf, Grid.isObserved, h.observationOf_eq]

theorem rowsOf_eq : g'.rowsOf = g.rowsOf := by
  funext attempts
  simp only [Grid.rowsOf, h.observationOf_eq]

theorem comparableRows_perm (classes : List TargetClass) : (g.comparableRows classes).Perm (g'.comparableRows classes) := by
  rw [Grid.comparableRows, Grid.comparableRows, h.planned]
  exact h.observed.filter _

theorem terminalPartition_eq : g'.terminalPartition = g.terminalPartition := by
  have hcounts := terminalCounts_perm h.observed terminalStatuses
  simp only [Grid.terminalPartition, h.missingOf_eq, h.planned, h.observed.countP_eq, h.observed.length_eq, hcounts]

theorem modelFailure_eq (classes : List TargetClass) : g'.modelFailure classes = g.modelFailure classes := by
  funext modelId
  have hrows := (h.comparableRows_perm classes).filter fun o => decide (o.modelSubjectId = modelId)
  have hcounts := excludedCounts_perm hrows
  simp only [Grid.modelFailure, h.missingOf_eq, h.planned, sum_failureValues_perm hrows, length_failureValues_perm hrows,
    hrows.length_eq, hcounts]

theorem modelFailureDenominator_eq (classes : List TargetClass) (metricId : PyStr) :
    g'.modelFailureDenominator classes metricId = g.modelFailureDenominator classes metricId := by
  rw [Grid.modelFailureDenominator, Grid.modelFailureDenominator, h.modelFailure_eq, h.missingOf_eq, h.planned]

theorem caseFailureOver_eq (m : BenchmarkManifest) (relevant : List TrialIdentity) :
    g'.caseFailureOver m relevant = g.caseFailureOver m relevant := by
  have hcase : g'.caseFailure relevant = g.caseFailure relevant := by
    funext key
    rw [Grid.caseFailure, Grid.caseFailure, h.missingOf_eq, h.rowsOf_eq]
  have hcases : g'.modelCases relevant = g.modelCases relevant := by
    funext modelId
    rw [Grid.modelCases, Grid.modelCases, hcase]
  rw [Grid.caseFailureOver, Grid.caseFailureOver, hcases, h.missingOf_eq]

theorem controlRatesOver_eq (controls : List TrialIdentity) : g'.controlRatesOver controls = g.controlRatesOver controls := by
  have hrate : g'.controlRate controls = g.controlRate controls := by
    funext modelId
    rw [Grid.controlRate, Grid.controlRate, h.missingOf_eq, h.rowsOf_eq]
  rw [Grid.controlRatesOver, Grid.controlRatesOver, hrate, h.missingOf_eq]

theorem systemInvariantFailureRate_eq : g'.systemInvariantFailureRate = g.systemInvariantFailureRate := by
  have hrows := h.observed.filter fun o => decide (o.attemptId ∈
    (g.planned.filter (inPrimaryEstimate [.systemEvalOnly])).map TrialIdentity.attemptId)
  have hcounts := terminalCounts_perm hrows nonDefinitiveTerminals
  simp only [Grid.systemInvariantFailureRate, h.missingOf_eq, h.planned, hrows.countP_eq, hrows.length_eq, hcounts]

/-- The keyed rows of a model are those of the other grid in another order, or neither grid has them. -/
theorem pairRows_eq (classes : List TargetClass) {ordinals : List (PyStr × ℕ)}
    (hordinals : retryOrdinals g.planned = .ok ordinals) (modelId : PyStr) :
    (∃ rows rows', g.pairRows classes ordinals modelId = .ok rows ∧ g'.pairRows classes ordinals modelId = .ok rows' ∧
      rows.Perm rows' ∧ (rows.map Prod.fst).Nodup) ∨
    ∃ e, g.pairRows classes ordinals modelId = .error e ∧ g'.pairRows classes ordinals modelId = .error e := by
  have hselected := (h.comparableRows_perm classes).filter fun o => decide (o.modelSubjectId = modelId)
  have hkeys : ∀ o ∈ (g'.comparableRows classes).filter (fun o => o.modelSubjectId = modelId),
      ∃ e, (do let key ← o.pairKey ordinals; return (key, o) : Except PyExc (PairKey × Observation)) = .ok e := by
    intro o ho
    have hobserved : o ∈ g'.observed := List.mem_of_mem_filter (List.mem_of_mem_filter ho)
    obtain ⟨k, hk⟩ := h.accepted.pairKey_ok hordinals (h.observed.mem_iff.mpr hobserved)
    exact ⟨(k, o), by rw [hk]; rfl⟩
  obtain ⟨keyed', hkeyed'⟩ := mapM_ok_of_forall hkeys
  obtain ⟨keyed, hkeyed, hperm⟩ := List.perm_comp_forall₂ hselected (mapM_eq_ok_iff.mp hkeyed')
  have hnodup := (hperm.map Prod.fst).nodup_iff
  have hrows : ∀ {g : Grid} {keyed : List (PairKey × Observation)},
      ((g.comparableRows classes).filter fun o => o.modelSubjectId = modelId).mapM (fun o => do
        let key ← o.pairKey ordinals
        return (key, o)) = .ok keyed →
      g.pairRows classes ordinals modelId =
        (do check (keyed.map Prod.fst).Nodup (valueError "duplicate paired comparison identity"); return keyed) := by
    intro g keyed hk
    rw [Grid.pairRows, hk]
    rfl
  rw [hrows (mapM_eq_ok_iff.mpr hkeyed), hrows hkeyed']
  by_cases hd : (keyed.map Prod.fst).Nodup
  · rw [check_of hd, check_of (hnodup.mp hd)]
    exact .inl ⟨keyed, keyed', rfl, rfl, hperm, hd⟩
  · refine .inr ⟨valueError "duplicate paired comparison identity", ?_, ?_⟩
    · rw [check, if_neg hd]
      rfl
    · rw [check, if_neg fun hd' => hd (hnodup.mpr hd')]
      rfl

theorem pairedCompleteCase_eq (classes : List TargetClass) (metricId leftId rightId : PyStr) :
    g'.pairedCompleteCase classes metricId leftId rightId = g.pairedCompleteCase classes metricId leftId rightId := by
  have hresult : ∀ left right, g'.pairResult classes metricId left right = g.pairResult classes metricId left right := by
    intro left right
    simp only [Grid.pairResult, Grid.compatiblePair, h.planned]
  have hcomplete : g'.pairComplete classes metricId leftId rightId = g.pairComplete classes metricId leftId rightId := by
    rw [g'.pairComplete_eq, g.pairComplete_eq, h.planned]
    cases hordinals : retryOrdinals g.planned with
    | error e => rfl
    | ok ordinals =>
      rcases h.pairRows_eq classes hordinals leftId with ⟨left, left', hleft, hleft', hl, -⟩ | ⟨e, hleft, hleft'⟩
      · rcases h.pairRows_eq classes hordinals rightId with ⟨right, right', hright, hright', hr, hkeys⟩ | ⟨e, hright, hright'⟩
        · simp only [hleft, hleft', hright, hright', hresult, g.pairResult_perm classes metricId hl hr hkeys, bind, Except.bind]
        · simp only [hleft, hleft', hright, hright', bind, Except.bind]
      · simp only [hleft, hleft', bind, Except.bind]
  rw [Grid.pairedCompleteCase, Grid.pairedCompleteCase, h.missingOf_eq, h.planned, hcomplete]

end Grid.Reordered

/-- A permutation of accepted observations is accepted. -/
theorem validateObservationGrid_reordered {m : BenchmarkManifest} {expected : ArtifactFingerprints}
    {observations observations' : List Observation} {g : Grid}
    (h : validateObservationGrid m expected observations = .ok g) (hperm : observations.Perm observations') :
    ∃ g', validateObservationGrid m expected observations' = .ok g' ∧ g.Reordered g' := by
  obtain ⟨hfrozen, hids, hrecorded, rfl⟩ := validateObservationGrid_iff.mp h
  have h' : validateObservationGrid m expected observations' = .ok ⟨m.plannedAttempts, observations'⟩ :=
    validateObservationGrid_iff.mpr ⟨hfrozen, (hperm.map _).nodup_iff.mp hids,
      fun o ho => hrecorded o (hperm.mem_iff.mpr ho), rfl⟩
  exact ⟨_, h', (validateObservationGrid_accepted h).1, (validateObservationGrid_accepted h').1, rfl, hperm⟩

/-- Every analysis of a frozen manifest returns the same result for any order of the accepted observations, and for any
order in which it walks a set of attempts. -/
theorem analysis_order_independent [PyRandom] (m : BenchmarkManifest) (expected : ArtifactFingerprints)
    (observations observations' : List Observation) (g : Grid)
    (haccepted : validateObservationGrid m expected observations = .ok g) (hperm : observations.Perm observations') :
    typedTerminalPartition m expected observations' = typedTerminalPartition m expected observations ∧
    infrastructureErrorRate m expected observations' = infrastructureErrorRate m expected observations ∧
    (∀ metricId, modelFailureDenominator m expected observations' metricId =
      modelFailureDenominator m expected observations metricId) ∧
    (∀ order, caseFailureProbabilityWalked m expected order observations' =
      caseFailureProbability m expected observations) ∧
    (∀ order, familyConditionalFailureRateWalked m expected order observations' =
      familyConditionalFailureRate m expected observations) ∧
    (∀ order, controlFalsePositiveRateWalked m expected order observations' =
      controlFalsePositiveRate m expected observations) ∧
    (∀ order, withinCaseInstabilityWalked m expected order observations' =
      withinCaseInstability m expected observations) ∧
    systemInvariantFailureRate m expected observations' = systemInvariantFailureRate m expected observations ∧
    (∀ leftId rightId metricId, pairedCompleteCase m expected observations' leftId rightId metricId =
      pairedCompleteCase m expected observations leftId rightId metricId) := by
  obtain ⟨g', haccepted', h⟩ := validateObservationGrid_reordered haccepted hperm
  have hpartition : typedTerminalPartition m expected observations' = typedTerminalPartition m expected observations := by
    rw [typedTerminalPartition, typedTerminalPartition, haccepted, haccepted']
    exact congrArg Except.ok h.terminalPartition_eq
  have hcases : ∀ order, caseFailureProbabilityWalked m expected order observations' =
      caseFailureProbability m expected observations := by
    intro order
    have hwalk := g.caseFailureOver_perm (order.perm (activeAttempts m g.planned)) m
    rw [caseFailureProbabilityWalked, caseFailureProbability, haccepted, haccepted']
    show g'.caseFailureOver m (order.walk (activeAttempts m g'.planned)) = _
    rw [h.caseFailureOver_eq, h.planned, hwalk]
    rfl
  refine ⟨hpartition, ?_, ?_, hcases, ?_, ?_, ?_, ?_, ?_⟩
  · rw [infrastructureErrorRate, infrastructureErrorRate, hpartition]
  · intro metricId
    simp only [modelFailureDenominator, haccepted, haccepted', h.modelFailureDenominator_eq, bind, Except.bind]
  · intro order
    rw [familyConditionalFailureRateWalked, familyConditionalFailureRate, hcases]
  · intro order
    have hactive := order.perm (activeAttempts m g.planned)
    have hcontrols := (order.perm _).trans (hactive.filter fun t => decide (t.corpusPoolId = .control))
    rw [controlFalsePositiveRateWalked, controlFalsePositiveRate, haccepted, haccepted']
    show g'.controlRatesOver (order.walk ((order.walk (activeAttempts m g'.planned)).filter _)) = _
    rw [h.controlRatesOver_eq, h.planned, g.controlRatesOver_perm hcontrols]
    rfl
  · intro order
    rw [withinCaseInstabilityWalked, withinCaseInstability, hcases]
  · simp only [systemInvariantFailureRate, haccepted, haccepted', h.systemInvariantFailureRate_eq, bind, Except.bind]
  · intro leftId rightId metricId
    simp only [pairedCompleteCase, haccepted, haccepted', h.pairedCompleteCase_eq, bind, Except.bind]

end Reordered

section Frozen
open Python.Ascii

/-- The walk from the end. -/
def backwards : SetOrder := ⟨List.reverse, List.reverse_perm⟩

/-- A generator that always picks the first. -/
@[reducible] def firstChoice : PyRandom := ⟨fun _ _ _ => 0, fun _ _ _ h => h⟩

/-- A case and its retry, recorded in either order. -/
theorem analysis_order_independent_sample :
    typedTerminalPartition frozenBenchmark benchmarkArtifacts (benchmarkRecords [firstRetry, firstRoot] true) =
      typedTerminalPartition frozenBenchmark benchmarkArtifacts (benchmarkRecords [firstRoot, firstRetry] true) ∧
    caseFailureProbabilityWalked frozenBenchmark benchmarkArtifacts backwards (benchmarkRecords [firstRetry, firstRoot] true) =
      caseFailureProbability frozenBenchmark benchmarkArtifacts (benchmarkRecords [firstRoot, firstRetry] true) := by
  have hsub : [firstRoot, firstRetry].Sublist benchmarkPlan := List.sublist_append_left _ [secondRoot, controlRoot]
  have hperm : (benchmarkRecords [firstRoot, firstRetry] true).Perm (benchmarkRecords [firstRetry, firstRoot] true) :=
    (List.Perm.swap firstRetry firstRoot []).map _
  have : PyRandom := firstChoice
  obtain ⟨hpartition, -, -, hcases, -⟩ := analysis_order_independent frozenBenchmark benchmarkArtifacts _ _ _
    (benchmarkRecords_accepted hsub true) hperm
  exact ⟨hpartition, hcases backwards⟩

end Frozen

end EvaluationLab.BM0
