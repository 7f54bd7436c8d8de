import EvaluationLab.Lab.Mitigation
import EvaluationLab.Python.Float

/-! Policies, what they get wrong on a suite, and the two regression gates built on that. -/
namespace EvaluationLab.Lab
open Python Effect

section Tally

variable {α κ : Type}

/-- One answer of a policy, under the label its case is reported by. -/
structure Prediction (κ : Type) where
  label : κ
  expected : Bool
  predicted : Bool
  correct : Bool

structure PolicyResult (κ : Type) where
  policy : PyStr
  accuracy : ℚ
  falseAcceptRate : ℚ
  failures : List PyStr
  predictions : List (Prediction κ)

/-- What the loop over the cases has counted so far. -/
structure Tally (κ : Type) where
  predictions : List (Prediction κ)
  failures : List PyStr
  negatives : ℕ
  falseAccepts : ℕ

def Tally.record (t : Tally κ) (variantId : PyStr) (label : κ) (expected predicted : Bool) : Tally κ where
  predictions := t.predictions ++ [⟨label, expected, predicted, predicted == expected⟩]
  failures := if predicted == expected then t.failures else t.failures ++ [variantId]
  negatives := if expected then t.negatives else t.negatives + 1
  falseAccepts := if !expected && predicted then t.falseAccepts + 1 else t.falseAccepts

/-- A policy answers a case, and may know how many it has answered before. -/
abbrev Policy (α : Type) := ℕ → α → Except PyExc Bool

/-- How the cases of a suite are named, reported and labelled. -/
structure Labelled (α κ : Type) where
  variantId : α → PyStr
  label : α → κ
  expected : α → Bool

def tallyFrom (by_ : Labelled α κ) (policy : Policy α) : ℕ → Tally κ → List α → Except PyExc (Tally κ)
  | _, t, [] => .ok t
  | n, t, c :: cases => do
    let predicted ← policy n c
    tallyFrom by_ policy (n + 1) (t.record (by_.variantId c) (by_.label c) (by_.expected c) predicted) cases

/-- `evaluate_policy` and `evaluate_historical_policy`. -/
def evaluate (by_ : Labelled α κ) (absent : PyStr) (name : PyStr) (policy : Policy α) (cases : List α) :
    Except PyExc (PolicyResult κ) := do
  check (cases ≠ []) (valueError absent)
  let t ← tallyFrom by_ policy 0 ⟨[], [], 0, 0⟩ cases
  return {
    policy := name
    accuracy := nearestFloat ((cases.length - t.failures.length) / cases.length)
    falseAcceptRate := if t.negatives = 0 then 0 else nearestFloat (t.falseAccepts / t.negatives)
    failures := t.failures
    predictions := t.predictions }

/-- A policy that only looks at its case. -/
def Policy.pure (accepts : α → Bool) : Policy α := fun _ c => .ok (accepts c)

/-- A policy made no mistake exactly when every answer is the expected one. -/
theorem tallyFrom_failures_nil {by_ : Labelled α κ} {policy : Policy α} {n : ℕ} {t t' : Tally κ} {cases : List α}
    (h : tallyFrom by_ policy n t cases = .ok t') : t'.failures = [] ↔
      t.failures = [] ∧ ∀ i c, cases[i]? = some c → policy (n + i) c = .ok (by_.expected c) := by
  induction cases generalizing n t with
  | nil =>
    cases h
    simp
  | cons c cases ih =>
    obtain ⟨predicted, hpredicted, hrest⟩ := bind_eq_ok_iff.mp h
    rw [ih hrest]
    have hhead : (t.record (by_.variantId c) (by_.label c) (by_.expected c) predicted).failures = [] ↔
        t.failures = [] ∧ policy n c = .ok (by_.expected c) := by
      rw [hpredicted, Except.ok.injEq]
      unfold Tally.record
      by_cases hcorrect : predicted = by_.expected c
      · simp [hcorrect]
      · simp [hcorrect]
    rw [hhead, and_assoc]
    apply and_congr_right
    intro _
    constructor
    · rintro ⟨hnow, hlater⟩ i c' hc'
      cases i with
      | zero =>
        cases hc'
        exact hnow
      | succ i =>
        rw [show n + (i + 1) = n + 1 + i by omega]
        exact hlater i c' hc'
    · intro hall
      constructor
      · exact hall 0 c rfl
      · intro i c' hc'
        rw [show n + 1 + i = n + (i + 1) by omega]
        exact hall (i + 1) c' hc'

/-- The mistakes of a policy that only looks at its case. -/
theorem tallyFrom_pure (by_ : Labelled α κ) (accepts : α → Bool) (n : ℕ) (t : Tally κ) (cases : List α) :
    ∃ t', tallyFrom by_ (Policy.pure accepts) n t cases = .ok t' ∧
      t'.failures = t.failures ++ (cases.filter fun c => accepts c != by_.expected c).map by_.variantId := by
  induction cases generalizing n t with
  | nil => exact ⟨t, rfl, by simp⟩
  | cons c cases ih =>
    obtain ⟨t', ht', hfailures⟩ := ih (n + 1) (t.record (by_.variantId c) (by_.label c) (by_.expected c) (accepts c))
    refine ⟨t', ht', ?_⟩
    rw [hfailures]
    unfold Tally.record
    by_cases hcorrect : accepts c = by_.expected c
    · simp [hcorrect]
    · simp [hcorrect]

end Tally

/-- The outcome of a gate. -/
inductive GateStatus where
  | pass | fail
  deriving DecidableEq

def GateStatus.of (passed : Prop) [Decidable passed] : GateStatus := if passed then .pass else .fail

theorem GateStatus.of_eq_pass {passed : Prop} [Decidable passed] : GateStatus.of passed = .pass ↔ passed := by
  unfold GateStatus.of
  split_ifs with h
  · simp [h]
  · simp [h]

section Closure

structure Integration where
  status : GateStatus
  schemaVersion : Json
  specFingerprint : Json
  loadedMitigationId : Json
  loadedSafeguardId : Json

structure Regression where
  knownBadFailuresDetected : ℕ
  guardFailures : ℕ
  status : GateStatus

/-- What `run_experiment` returns. -/
structure ExperimentResult where
  runId : PyStr
  caseId : PyStr
  mitigationId : PyStr
  safeguardId : PyStr
  fixtureCount : ℕ
  baseline : PolicyResult PyStr
  treatment : PolicyResult PyStr
  accuracyDelta : ℚ
  integration : Integration
  regression : Regression

variable [PyUnicode]

/-- `naive_any_done`: local completion is mistaken for parent completion. -/
def naiveAnyDone (children : List Child) : Bool :=
  children.any fun child => PyUnicode.upper child.status == py "DONE"

def evaluatePolicy (name : PyStr) (policy : Policy Case) (cases : List Case) : Except PyExc (PolicyResult PyStr) :=
  evaluate ⟨Case.variantId, Case.variantId, Case.expectedClose⟩ "at least one evaluation case is required" name
    policy cases

/-- The policy `treatment_policy` of `run_experiment`. -/
def treatmentPolicy (companion : CompanionRuntime) : Policy Case := fun n c => do
  let decision ← companion.evaluate n c.children
  return decision.isStr (py "ACCEPT")

/-- `run_experiment`. -/
def runExperiment (companion : CompanionRuntime) (suite : CaseSuite) (mitigationSpec : Json) :
    Except PyExc ExperimentResult := do
  let validated ← validateMitigationSpec companion "<mitigation-spec>" mitigationSpec
  check (validated.mitigationId = suite.mitigationId)
    (valueError "case suite and MitigationSpec mitigation_id do not match")
  check (validated.runtime.safeguardId = suite.safeguardId)
    (valueError "case suite and MitigationSpec safeguard_id do not match")
  check (suite.caseId ∈ validated.regressionCases)
    (valueError "case suite is not registered by the MitigationSpec")
  let (guardSafeguardId, runtimeSpec) ← runtimeGuard companion validated
  let baseline ← evaluatePolicy "naive_any_done" (.pure fun c => naiveAnyDone c.children) suite.cases
  let treatment ← evaluatePolicy suite.safeguardId (treatmentPolicy companion) suite.cases
  let probe ← evaluatePolicy "known_bad_regression_probe" (.pure fun c => naiveAnyDone c.children) suite.cases
  return {
    runId := suite.runId
    caseId := suite.caseId
    mitigationId := suite.mitigationId
    safeguardId := suite.safeguardId
    fixtureCount := suite.cases.length
    baseline := baseline
    treatment := treatment
    accuracyDelta := nearestFloat (treatment.accuracy - baseline.accuracy)
    integration := {
      status := .of (treatment.failures = [])
      schemaVersion := runtimeSpec.schemaVersion
      specFingerprint := runtimeSpec.fingerprint
      loadedMitigationId := runtimeSpec.mitigationId
      loadedSafeguardId := guardSafeguardId }
    regression := {
      knownBadFailuresDetected := probe.failures.length
      guardFailures := treatment.failures.length
      status := .of (probe.failures ≠ [] ∧ treatment.failures = []) } }

end Closure

section Historical

/-- What a prediction on a historical case is reported by. -/
structure HistoricalLabel where
  variantId : PyStr
  mechanismId : PyStr
  variant : Variant

structure HistoricalRegression where
  knownBadFailuresDetected : ℕ
  referenceGateFailures : ℕ
  status : GateStatus

/-- What `run_historical_benchmark` returns. -/
structure HistoricalResult where
  benchmarkId : PyStr
  runId : PyStr
  privacy : PyStr
  observations : ℤ
  rawCategories : ℤ
  mechanismClusters : ℕ
  publicCases : ℕ
  fixtureCount : ℕ
  mechanisms : List Mechanism
  baseline : PolicyResult HistoricalLabel
  treatment : PolicyResult HistoricalLabel
  accuracyDelta : ℚ
  regression : HistoricalRegression

/-- `confidence_only_baseline`: fluent confidence is treated as sufficient evidence. -/
def confidenceOnlyBaseline (c : HistoricalCase) : Bool := c.surfaceConfidence == .high

/-- `constraint_gate_policy`. -/
def constraintGatePolicy (c : HistoricalCase) : Bool :=
  c.evidenceState == .supported && !c.constraints.isEmpty && c.constraints.all fun constraint => constraint.status == .pass

def evaluateHistoricalPolicy (name : PyStr) (policy : Policy HistoricalCase) (cases : List HistoricalCase) :
    Except PyExc (PolicyResult HistoricalLabel) :=
  evaluate ⟨HistoricalCase.variantId, fun c => ⟨c.variantId, c.mechanismId, c.variant⟩, HistoricalCase.expectedAccept⟩
    "at least one historical evaluation case is required" name policy cases

/-- `run_historical_benchmark`. -/
def runHistoricalBenchmark (suite : HistoricalBenchmarkSuite) : Except PyExc HistoricalResult := do
  let baseline ← evaluateHistoricalPolicy "confidence_only" (.pure confidenceOnlyBaseline) suite.cases
  let treatment ← evaluateHistoricalPolicy "uniform_constraint_gate" (.pure constraintGatePolicy) suite.cases
  let trapCount := suite.cases.countP fun c => !c.expectedAccept
  let controls := suite.cases.countP fun c => c.expectedAccept
  return {
    benchmarkId := suite.benchmarkId
    runId := suite.runId
    privacy := suite.privacy
    observations := suite.sourceObservations
    rawCategories := suite.sourceCategories
    mechanismClusters := suite.mechanisms.length
    publicCases := suite.cases.length
    fixtureCount := suite.cases.length
    mechanisms := suite.mechanisms
    baseline := baseline
    treatment := treatment
    accuracyDelta := nearestFloat (treatment.accuracy - baseline.accuracy)
    regression := {
      knownBadFailuresDetected := baseline.failures.length
      referenceGateFailures := treatment.failures.length
      status := .of (baseline.failures.length = trapCount ∧ treatment.failures = [] ∧ trapCount = controls ∧
        controls = suite.mechanisms.length) } }

end Historical

end EvaluationLab.Lab
