import EvaluationLab.BM0.Estimate

/-! The metrics of the analysis plan, computed from a frozen manifest and its observations. -/
namespace EvaluationLab.BM0
open Python Effect

/-- `MODEL_METRIC_TARGET_CLASSES`. -/
def modelMetricTargetClasses : List (PyStr × List TargetClass) := [
  ("model_failure_rate", defaultComparableClasses), ("sandboxed_agent_failure_rate", [.agentStandardized])]

/-- `_metric_target_classes`. -/
def metricTargetClasses (m : BenchmarkManifest) (metricId : PyStr) : Except PyExc (List TargetClass) := do
  let classes ← require (modelMetricTargetClasses.lookup metricId)
    (valueError "unsupported model-failure metric ID")
  check (∀ c ∈ classes, c ∈ m.comparisonClasses)
    (valueError (py "metric " ++ metricId ++ py " is not active under the frozen comparison classes"))
  check (metricId = py "sandboxed_agent_failure_rate" → m.sandboxEquivalence.status = .established)
    (valueError "sandboxed agent failure cannot run without established equivalence")
  return classes

/-- `typed_terminal_partition_v1`'s result. -/
structure TerminalPartition where
  terminalStatus : Terminal
  reason : Option PyStr
  totalAttempts : ℕ
  recordedTerminalCount : ℕ
  missingAttemptIds : List PyStr
  terminalCounts : List (Terminal × ℕ)
  scorableTerminalCount : ℕ
  nonScorableTerminalCount : ℕ
  nonScorableAttemptRate : Option ℚ
  deriving DecidableEq

/-- The row carries no value in its attribution class. -/
def Observation.nonScorable (o : Observation) : Bool :=
  if o.targetClass = .systemEvalOnly then o.systemInvariantFailureValue.isNone else o.modelFailureValue.isNone

def Grid.terminalPartition (g : Grid) : TerminalPartition :=
  let missing := g.missingOf g.planned
  let nonScorable := g.observed.countP Observation.nonScorable
  let outcome : Terminal × Option PyStr :=
    if g.planned.length = 0 then (.notEvaluable, some "ZERO_SCHEDULED_ATTEMPTS")
    else if missing ≠ [] then (.notEvaluable, some "MISSING_PLANNED_OBSERVATIONS")
    else (.pass, none)
  { terminalStatus := outcome.1
    reason := outcome.2
    totalAttempts := g.planned.length
    recordedTerminalCount := g.observed.length
    missingAttemptIds := missing
    terminalCounts := terminalCounts g.observed terminalStatuses
    scorableTerminalCount := g.observed.length - nonScorable
    nonScorableTerminalCount := nonScorable
    nonScorableAttemptRate := if outcome.1 = .pass then some (rate nonScorable g.planned.length) else none }

/-- `infrastructure_error_rate_v1`'s result. -/
structure InfrastructureErrorRate where
  terminalStatus : Terminal
  reason : Option PyStr
  plannedAttemptCount : ℕ
  recordedAttemptCount : ℕ
  missingAttemptIds : List PyStr
  infrastructureErrorCount : Option ℕ
  infrastructureErrorRate : Option ℚ
  deriving DecidableEq

def TerminalPartition.infrastructureErrorRate (p : TerminalPartition) : InfrastructureErrorRate :=
  let errorCount := if p.terminalStatus ≠ .pass then none else p.terminalCounts.lookup .error
  { terminalStatus := p.terminalStatus
    reason := p.reason
    plannedAttemptCount := p.totalAttempts
    recordedAttemptCount := p.recordedTerminalCount
    missingAttemptIds := p.missingAttemptIds
    infrastructureErrorCount := errorCount
    infrastructureErrorRate := errorCount.map fun n => rate n p.totalAttempts }

/-- One model of `model_failure_denominator_v1`. -/
structure ModelFailure where
  terminalStatus : Terminal
  reason : Option PyStr
  plannedAttemptCount : ℕ
  recordedAttemptCount : ℕ
  failureCount : Option ℤ
  modelScorableDenominator : Option ℕ
  failureRate : Option ℚ
  excludedTerminalCounts : Option (List (Terminal × ℕ))
  wilson95 : Interval
  deriving DecidableEq

/-- `model_failure_denominator_v1`'s result. -/
structure ModelFailureDenominator where
  metricId : PyStr
  terminalStatus : Terminal
  reason : Option PyStr
  missingAttemptIds : List PyStr
  targetClasses : List TargetClass
  byModel : List (PyStr × ModelFailure)
  deriving DecidableEq

/-- The attempt is one of the classes and of the private holdout. -/
def inPrimaryEstimate (classes : List TargetClass) (t : TrialIdentity) : Bool :=
  t.targetClass ∈ classes ∧ t.corpusPoolId = primaryEstimatePool

/-- `comparable_rows`. -/
def Grid.comparableRows (g : Grid) (classes : List TargetClass) : List Observation :=
  g.observed.filter fun o => o.targetClass ∈ classes ∧
    (attemptOf g.planned o.attemptId).any fun t => t.corpusPoolId = primaryEstimatePool

/-- `excluded_counts`: the fixed non-scorable terminals, and `UNKNOWN` without a value. -/
def excludedCounts (rows : List Observation) : List (Terminal × ℕ) :=
  terminalCounts rows nonModelScorableTerminals ++
    [(.unknown, rows.countP fun o => o.terminalStatus = .unknown ∧ o.modelFailureValue = none)]

def Grid.modelFailure (g : Grid) (classes : List TargetClass) (modelId : PyStr) : Except PyExc ModelFailure :=
  let planned := (g.planned.filter (inPrimaryEstimate classes)).countP fun t => t.modelSubjectId = modelId
  let rows := (g.comparableRows classes).filter fun o => o.modelSubjectId = modelId
  let values := failureValues rows
  if g.missingOf (g.planned.filter (inPrimaryEstimate classes)) ≠ [] then
    .ok {
      terminalStatus := .notEvaluable
      reason := some "MISSING_PLANNED_OBSERVATIONS"
      plannedAttemptCount := planned
      recordedAttemptCount := rows.length
      failureCount := none
      modelScorableDenominator := none
      failureRate := none
      excludedTerminalCounts := none
      wilson95 := suppressedWilson "MISSING_PLANNED_OBSERVATIONS" }
  else do
    let interval ← wilsonInterval values.sum values.length
    return {
      terminalStatus := if values.length ≠ 0 then .pass else .notEvaluable
      reason := if values.length ≠ 0 then none else some "ZERO_MODEL_SCORABLE_DENOMINATOR"
      plannedAttemptCount := planned
      recordedAttemptCount := rows.length
      failureCount := some values.sum
      modelScorableDenominator := some values.length
      failureRate := if values.length ≠ 0 then some (rate values.sum values.length) else none
      excludedTerminalCounts := some (excludedCounts rows)
      wilson95 := interval }

/-- The sorted model subjects of some attempts. -/
def modelSubjects (attempts : List TrialIdentity) : List PyStr :=
  sortTexts (attempts.map fun t => t.modelSubjectId).dedup

/-- A result for each key, under its key. -/
def tabulate {κ ρ : Type} (f : κ → Except PyExc ρ) (keys : List κ) : Except PyExc (List (κ × ρ)) :=
  keys.mapM fun key => do
    let result ← f key
    return (key, result)

def Grid.modelFailureDenominator (g : Grid) (classes : List TargetClass) (metricId : PyStr) :
    Except PyExc ModelFailureDenominator := do
  let planned := g.planned.filter (inPrimaryEstimate classes)
  let missing := g.missingOf planned
  let byModel ← tabulate (g.modelFailure classes) (modelSubjects planned)
  let outcome : Terminal × Option PyStr :=
    if missing ≠ [] then (.notEvaluable, some "MISSING_PLANNED_OBSERVATIONS")
    else if byModel = [] then (.notEvaluable, some "NO_PREDECLARED_METRIC_ATTEMPTS")
    else if ∃ r ∈ byModel, r.2.terminalStatus ≠ .pass then
      (.notEvaluable, some "ONE_OR_MORE_ZERO_MODEL_SCORABLE_DENOMINATORS")
    else (.pass, none)
  return ⟨metricId, outcome.1, outcome.2, missing, classes, byModel⟩

/-- The case cluster an attempt belongs to. -/
structure CaseKey where
  modelSubjectId : PyStr
  entryId : PyStr
  familyId : PyStr
  caseId : PyStr
  variantId : PyStr
  deriving DecidableEq

def TrialIdentity.caseKey (t : TrialIdentity) : CaseKey :=
  ⟨t.modelSubjectId, t.entryId, t.familyId, t.caseId, t.variantId⟩

def CaseKey.parts (k : CaseKey) : List PyStr := [k.modelSubjectId, k.entryId, k.familyId, k.caseId, k.variantId]

/-- Python's order of tuples of strings. -/
def tupleLe : List PyStr → List PyStr → Bool
  | [], _ => true
  | _ :: _, [] => false
  | a :: as, b :: bs => if a = b then tupleLe as bs else strLe a b

/-- The sorted case clusters of some attempts. -/
def caseKeys (attempts : List TrialIdentity) : List CaseKey :=
  (attempts.map TrialIdentity.caseKey).dedup.insertionSort fun j k => tupleLe j.parts k.parts = true

/-- One case of `case_failure_probability_v1`. -/
structure CaseFailure where
  entryId : PyStr
  familyId : PyStr
  caseId : PyStr
  variantId : PyStr
  terminalStatus : Terminal
  reason : Option PyStr
  plannedTrialCount : ℕ
  recordedTrialCount : ℕ
  failureCount : Option ℤ
  modelScorableDenominator : Option ℕ
  cfp : Option ℚ
  wilson95 : Interval
  deriving DecidableEq

/-- One model of `case_failure_probability_v1`. -/
structure ModelCases where
  distinctCaseCount : ℕ
  cases : List CaseFailure
  deriving DecidableEq

/-- `case_failure_probability_v1`'s result. -/
structure CaseFailureProbability where
  terminalStatus : Terminal
  reason : Option PyStr
  comparisonClasses : List TargetClass
  missingAttemptIds : List PyStr
  byModel : List (PyStr × ModelCases)
  deriving DecidableEq

/-- `relevant_attempt_ids`: the attempts of the active comparison classes. -/
def activeAttempts (m : BenchmarkManifest) (planned : List TrialIdentity) : List TrialIdentity :=
  planned.filter fun t => t.targetClass ∈ m.comparisonClasses

/-- The observations of some attempts, in the order of the plan. -/
def Grid.rowsOf (g : Grid) (attempts : List TrialIdentity) : List Observation :=
  attempts.filterMap fun t => g.observationOf t.attemptId

def Grid.caseFailure (g : Grid) (relevant : List TrialIdentity) (key : CaseKey) : Except PyExc CaseFailure := do
  let attempts := relevant.filter fun t => t.caseKey = key
  let rows := g.rowsOf attempts
  let values := failureValues rows
  let missing := g.missingOf attempts ≠ []
  let interval ← wilsonUnless missing "MISSING_PLANNED_OBSERVATIONS" values.sum values.length
  let outcome : Terminal × Option PyStr :=
    if missing then (.notEvaluable, some "MISSING_PLANNED_OBSERVATIONS")
    else if values.length = 0 then (.notEvaluable, some "ZERO_CASE_SCORABLE_DENOMINATOR")
    else (.pass, none)
  return {
    entryId := key.entryId
    familyId := key.familyId
    caseId := key.caseId
    variantId := key.variantId
    terminalStatus := outcome.1
    reason := outcome.2
    plannedTrialCount := attempts.length
    recordedTrialCount := rows.length
    failureCount := if missing then none else some values.sum
    modelScorableDenominator := if missing then none else some values.length
    cfp := if outcome.1 = .pass then some (rate values.sum values.length) else none
    wilson95 := interval }

def Grid.modelCases (g : Grid) (relevant : List TrialIdentity) (modelId : PyStr) : Except PyExc ModelCases := do
  let cases ← ((caseKeys relevant).filter fun k => k.modelSubjectId = modelId).mapM (g.caseFailure relevant)
  return ⟨cases.length, cases⟩

def Grid.caseFailureProbability (g : Grid) (m : BenchmarkManifest) : Except PyExc CaseFailureProbability := do
  let relevant := activeAttempts m g.planned
  let missing := g.missingOf relevant
  let byModel ← tabulate (g.modelCases relevant) (modelSubjects relevant)
  let pass := byModel ≠ [] ∧ missing = [] ∧ ∀ r ∈ byModel, ∀ c ∈ r.2.cases, c.terminalStatus = .pass
  let reason : Option PyStr :=
    if byModel = [] then some "NO_PREDECLARED_MODEL_CASES"
    else if missing ≠ [] then some "MISSING_PLANNED_OBSERVATIONS"
    else if pass then none
    else some "ONE_OR_MORE_ZERO_CASE_SCORABLE_DENOMINATORS"
  return ⟨if pass then .pass else .notEvaluable, reason, m.comparisonClasses, missing, byModel⟩

/-- One family entry of `family_conditional_failure_rate_v1`. -/
structure FamilyRate where
  entryId : PyStr
  familyId : PyStr
  terminalStatus : Terminal
  reason : Option PyStr
  distinctCaseCount : ℕ
  totalRecordedTrialCount : ℕ
  fcfr : Option ℚ
  caseClusterBootstrap95 : Bootstrap
  deriving DecidableEq

/-- `family_conditional_failure_rate_v1`'s result. -/
structure FamilyConditionalFailureRate where
  terminalStatus : Terminal
  reason : Option PyStr
  byModel : List (PyStr × List FamilyRate)
  deriving DecidableEq

/-- `mapping[key] = value`: an existing key keeps its place. -/
def setKey {κ ρ : Type} [DecidableEq κ] (mapping : List (κ × ρ)) (key : κ) (value : ρ) : List (κ × ρ) :=
  if key ∈ mapping.map Prod.fst then mapping.map fun e => if e.1 = key then (key, value) else e
  else mapping ++ [(key, value)]

/-- `estimates`: the failure probability of each passing case, by `case_id`. -/
def caseEstimates (cases : List CaseFailure) : List (PyStr × ℚ) :=
  (cases.filter fun c => c.terminalStatus = .pass).foldl
    (fun estimates c => (c.cfp.map (setKey estimates c.caseId)).getD estimates) []

def familyRate [PyRandom] (cases : List CaseFailure) (key : PyStr × PyStr) : Except PyExc FamilyRate := do
  let members := cases.filter fun c => c.entryId = key.1 ∧ c.familyId = key.2
  let estimates := caseEstimates members
  let invalid := (∃ c ∈ members, c.terminalStatus ≠ .pass) ∨ estimates = []
  let uncertainty ← fcfrCaseClusterBootstrap (if invalid then [] else estimates)
  return {
    entryId := key.1
    familyId := key.2
    terminalStatus := if invalid then .notEvaluable else .pass
    reason := if invalid then some "INCOMPLETE_OR_NONSCORABLE_CASE_CLUSTER" else none
    distinctCaseCount := members.length
    totalRecordedTrialCount := (members.map CaseFailure.recordedTrialCount).sum
    fcfr := if invalid then none
      else some (round12 (nearestFloat (sumFloats (estimates.map Prod.snd) / estimates.length)))
    caseClusterBootstrap95 := uncertainty }

/-- The sorted family entries of some cases. -/
def familyKeys (cases : List CaseFailure) : List (PyStr × PyStr) :=
  (cases.map fun c => (c.entryId, c.familyId)).dedup.insertionSort fun x y => pairLe x y = true

def CaseFailureProbability.familyRates [PyRandom] (cfp : CaseFailureProbability) :
    Except PyExc FamilyConditionalFailureRate := do
  let byModel ← cfp.byModel.mapM fun model => do
    let families ← (familyKeys model.2.cases).mapM (familyRate model.2.cases)
    return (model.1, families)
  let pass := cfp.terminalStatus = .pass ∧ ∀ r ∈ byModel, ∀ f ∈ r.2, f.terminalStatus = .pass
  return ⟨if pass then .pass else .notEvaluable,
    if pass then none else some (cfp.reason.getD "INCOMPLETE_CASE_CLUSTER"), byModel⟩

/-- One model of `control_false_positive_rate_v1`. -/
structure ControlRate where
  terminalStatus : Terminal
  reason : Option PyStr
  falsePositiveCount : Option ℤ
  controlScorableDenominator : Option ℕ
  cfpr : Option ℚ
  wilson95 : Interval
  deriving DecidableEq

/-- `control_false_positive_rate_v1`'s result. -/
structure ControlFalsePositiveRate where
  terminalStatus : Terminal
  reason : Option PyStr
  missingAttemptIds : List PyStr
  byModel : List (PyStr × ControlRate)
  deriving DecidableEq

def Grid.controlRate (g : Grid) (controls : List TrialIdentity) (modelId : PyStr) : Except PyExc ControlRate := do
  let attempts := controls.filter fun t => t.modelSubjectId = modelId
  let values := failureValues (g.rowsOf attempts)
  let missing := g.missingOf attempts ≠ []
  let outcome : Terminal × Option PyStr :=
    if values.length ≠ 0 ∧ ¬missing then (.pass, none)
    else if missing then (.notEvaluable, some "MISSING_PLANNED_CONTROL_OBSERVATIONS")
    else (.notEvaluable, some "ZERO_CONTROL_SCORABLE_DENOMINATOR")
  let interval ← wilsonUnless missing "MISSING_PLANNED_CONTROL_OBSERVATIONS" values.sum values.length
  return {
    terminalStatus := outcome.1
    reason := outcome.2
    falsePositiveCount := if missing then none else some values.sum
    controlScorableDenominator := if missing then none else some values.length
    cfpr := if outcome.1 = .pass then some (rate values.sum values.length) else none
    wilson95 := interval }

def Grid.controlFalsePositiveRate (g : Grid) (m : BenchmarkManifest) : Except PyExc ControlFalsePositiveRate := do
  let controls := (activeAttempts m g.planned).filter fun t => t.corpusPoolId = .control
  let byModel ← tabulate (g.controlRate controls) (modelSubjects controls)
  let pass := byModel ≠ [] ∧ ∀ r ∈ byModel, r.2.terminalStatus = .pass
  return ⟨if pass then .pass else .notEvaluable, if pass then none else some "CONTROL_GRID_NOT_SCORABLE",
    g.missingOf controls, byModel⟩

/-- One model of `within_case_instability_v1`. -/
structure ModelInstability where
  terminalStatus : Terminal
  reason : Option PyStr
  eligibleDistinctCaseCount : ℕ
  switchingDistinctCaseCount : ℕ
  withinCaseInstability : Option ℚ
  switchingCaseIds : List PyStr
  deriving DecidableEq

/-- `within_case_instability_v1`'s result. -/
structure WithinCaseInstability where
  terminalStatus : Terminal
  reason : Option PyStr
  byModel : List (PyStr × ModelInstability)
  deriving DecidableEq

/-- A case with at least two scored trials. -/
def CaseFailure.eligible (c : CaseFailure) : Bool :=
  c.terminalStatus = .pass ∧ 2 ≤ c.modelScorableDenominator.getD 0

/-- A case with both outcomes. -/
def CaseFailure.switching (c : CaseFailure) : Bool :=
  0 < c.failureCount.getD 0 ∧ c.failureCount.getD 0 < c.modelScorableDenominator.getD 0

def modelInstability (cases : List CaseFailure) : ModelInstability :=
  let eligible := cases.filter CaseFailure.eligible
  let switching := eligible.filter CaseFailure.switching
  { terminalStatus := if eligible ≠ [] then .pass else .notEvaluable
    reason := if eligible ≠ [] then none else some "NO_REPEAT_ELIGIBLE_CASES"
    eligibleDistinctCaseCount := eligible.length
    switchingDistinctCaseCount := switching.length
    withinCaseInstability := if eligible ≠ [] then some (rate switching.length eligible.length) else none
    switchingCaseIds := sortTexts (switching.map CaseFailure.caseId) }

def CaseFailureProbability.withinCaseInstability (cfp : CaseFailureProbability) : WithinCaseInstability :=
  let byModel := cfp.byModel.map fun model => (model.1, modelInstability model.2.cases)
  let pass := byModel ≠ [] ∧ ∀ r ∈ byModel, r.2.terminalStatus = .pass
  ⟨if pass then .pass else .notEvaluable, if pass then none else some "NO_REPEAT_ELIGIBLE_CASES", byModel⟩

/-- `system_invariant_failure_rate_v1`'s result. -/
structure SystemInvariantFailureRate where
  terminalStatus : Terminal
  reason : Option PyStr
  plannedSystemAttemptCount : ℕ
  missingAttemptIds : List PyStr
  recordedSystemAttemptCount : ℕ
  failureCount : Option ℕ
  systemScorableDenominator : Option ℕ
  failureRate : Option ℚ
  excludedTerminalCounts : Option (List (Terminal × ℕ))
  wilson95 : Interval
  deriving DecidableEq

def Grid.systemInvariantFailureRate (g : Grid) : Except PyExc SystemInvariantFailureRate := do
  let attempts := g.planned.filter (inPrimaryEstimate [.systemEvalOnly])
  let missing := g.missingOf attempts
  let rows := g.observed.filter fun o => o.attemptId ∈ attempts.map TrialIdentity.attemptId
  let failures := rows.countP fun o => o.terminalStatus = .fail
  let denominator := rows.countP (fun o => o.terminalStatus = .pass) + failures
  let outcome : Terminal × Option PyStr :=
    if missing ≠ [] then (.notEvaluable, some "MISSING_PLANNED_SYSTEM_OBSERVATIONS")
    else if attempts = [] then (.notEvaluable, some "NO_PREDECLARED_SYSTEM_ATTEMPTS")
    else if denominator = 0 then (.notEvaluable, some "ZERO_SYSTEM_SCORABLE_DENOMINATOR")
    else (.pass, none)
  let interval ← wilsonUnless (missing ≠ []) "MISSING_PLANNED_SYSTEM_OBSERVATIONS" failures denominator
  return {
    terminalStatus := outcome.1
    reason := outcome.2
    plannedSystemAttemptCount := attempts.length
    missingAttemptIds := missing
    recordedSystemAttemptCount := rows.length
    failureCount := if missing ≠ [] then none else some failures
    systemScorableDenominator := if missing ≠ [] then none else some denominator
    failureRate := if missing = [] ∧ denominator ≠ 0 then some (rate failures denominator) else none
    excludedTerminalCounts := if missing ≠ [] then none else some (terminalCounts rows nonDefinitiveTerminals)
    wilson95 := interval }

variable [PyRuntime] (m : BenchmarkManifest) (expected : ArtifactFingerprints) (observations : List Observation)

def typedTerminalPartition : Except PyExc TerminalPartition := do
  let g ← validateObservationGrid m expected observations
  return g.terminalPartition

def infrastructureErrorRate : Except PyExc InfrastructureErrorRate := do
  let partition ← typedTerminalPartition m expected observations
  return partition.infrastructureErrorRate

def modelFailureDenominator (metricId : PyStr) : Except PyExc ModelFailureDenominator := do
  let g ← validateObservationGrid m expected observations
  let classes ← metricTargetClasses m metricId
  g.modelFailureDenominator classes metricId

def caseFailureProbability : Except PyExc CaseFailureProbability := do
  let g ← validateObservationGrid m expected observations
  g.caseFailureProbability m

def familyConditionalFailureRate [PyRandom] : Except PyExc FamilyConditionalFailureRate := do
  let cfp ← caseFailureProbability m expected observations
  cfp.familyRates

def controlFalsePositiveRate : Except PyExc ControlFalsePositiveRate := do
  let g ← validateObservationGrid m expected observations
  g.controlFalsePositiveRate m

def withinCaseInstability : Except PyExc WithinCaseInstability := do
  let cfp ← caseFailureProbability m expected observations
  return cfp.withinCaseInstability

def systemInvariantFailureRate : Except PyExc SystemInvariantFailureRate := do
  let g ← validateObservationGrid m expected observations
  g.systemInvariantFailureRate

end EvaluationLab.BM0
