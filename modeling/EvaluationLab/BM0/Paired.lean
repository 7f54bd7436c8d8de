import EvaluationLab.BM0.Metrics
import EvaluationLab.BM0.Retry

/-! The paired comparison of two model subjects over complete cases. -/
namespace EvaluationLab.BM0
open Python Effect

/-- The attempts agree on the members of `PAIR_COMPATIBILITY_FIELDS` that name the case. -/
def samePairCase (a b : TrialIdentity) : Prop :=
  a.benchmarkId = b.benchmarkId ∧ a.targetId = b.targetId ∧ a.targetClass = b.targetClass ∧
    a.entryId = b.entryId ∧ a.familyId = b.familyId ∧ a.caseId = b.caseId ∧ a.variantId = b.variantId ∧
    a.mechanismLineageId = b.mechanismLineageId ∧ a.caseFingerprint = b.caseFingerprint ∧
    a.generatorOrMutationVersion = b.generatorOrMutationVersion ∧
    a.contaminationStatus = b.contaminationStatus ∧ a.exposureStatus = b.exposureStatus ∧
    a.corpusItemAlias = b.corpusItemAlias ∧ a.corpusItemCommitment = b.corpusItemCommitment ∧
    a.corpusPoolId = b.corpusPoolId ∧ a.mutationParentCommitment = b.mutationParentCommitment

/-- The attempts agree on the members of `PAIR_COMPATIBILITY_FIELDS` that configure the run. -/
def samePairConfiguration (a b : TrialIdentity) : Prop :=
  a.promptTemplateVersion = b.promptTemplateVersion ∧ a.promptFingerprint = b.promptFingerprint ∧
    a.contextFingerprint = b.contextFingerprint ∧ a.toolSchemaFingerprint = b.toolSchemaFingerprint ∧
    a.sandboxFingerprint = b.sandboxFingerprint ∧ a.stateMachineFingerprint = b.stateMachineFingerprint ∧
    a.capabilityMode = b.capabilityMode ∧ a.systemWrapperVersion = b.systemWrapperVersion ∧
    a.developerWrapperVersion = b.developerWrapperVersion ∧ a.samplingControls.same b.samplingControls ∧
    a.reasoningControls = b.reasoningControls ∧ a.harnessVersion = b.harnessVersion ∧
    a.adapterVersion = b.adapterVersion ∧ a.scorerId = b.scorerId ∧ a.scorerVersion = b.scorerVersion ∧
    a.scorerFingerprint = b.scorerFingerprint ∧ a.oracleId = b.oracleId ∧ a.oracleVersion = b.oracleVersion ∧
    a.oracleFingerprint = b.oracleFingerprint ∧ a.replicateIndex = b.replicateIndex ∧
    a.randomSeed = b.randomSeed ∧ a.environmentFingerprint = b.environmentFingerprint

def pairCompatible (a b : TrialIdentity) : Prop := samePairCase a b ∧ samePairConfiguration a b

instance (a b : TrialIdentity) : Decidable (samePairCase a b) := inferInstanceAs (Decidable (_ ∧ _))
instance (a b : TrialIdentity) : Decidable (samePairConfiguration a b) := inferInstanceAs (Decidable (_ ∧ _))
instance (a b : TrialIdentity) : Decidable (pairCompatible a b) := inferInstanceAs (Decidable (_ ∧ _))

/-- `pair_key`. -/
structure PairKey where
  entryId : PyStr
  familyId : PyStr
  caseId : PyStr
  variantId : PyStr
  replicateIndex : ℤ
  retryOrdinal : ℕ
  deriving DecidableEq

/-- `paired_complete_case_v1`'s result. -/
structure PairedCompleteCase where
  metricId : PyStr
  targetClasses : List TargetClass
  terminalStatus : Terminal
  reason : Option PyStr
  pairedScorableCount : ℕ
  excludedPairCount : ℕ
  leftFailureRate : Option ℚ
  rightFailureRate : Option ℚ
  failureRateDeltaLeftMinusRight : Option ℚ
  deriving DecidableEq

/-- The result of a comparison that cannot be evaluated. -/
def unpaired (metricId : PyStr) (classes : List TargetClass) (reason : PyStr) (excluded : ℕ) : PairedCompleteCase :=
  ⟨metricId, classes, .notEvaluable, some reason, 0, excluded, none, none, none⟩

/-- Stands for a walk that never ends. -/
def endless : PyExc := ⟨"endless", [], "the ancestor walk does not end"⟩

/-- `retry_ordinals`. -/
def retryOrdinals (planned : List TrialIdentity) : Except PyExc (List (PyStr × ℕ)) :=
  tabulate (fun t => (retryOrdinal planned t).getD (.error endless)) planned >>= fun ordinals =>
    .ok (ordinals.map fun o => (o.1.attemptId, o.2))

def Observation.pairKey (ordinals : List (PyStr × ℕ)) (o : Observation) : Except PyExc PairKey := do
  let ordinal ← require (ordinals.lookup o.attemptId) (keyError o.attemptId)
  return ⟨o.entryId, o.familyId, o.caseId, o.variantId, o.replicateIndex, ordinal⟩

/-- `model_rows[model_id]`: the rows of a model by their pair key. -/
def Grid.pairRows (g : Grid) (classes : List TargetClass) (ordinals : List (PyStr × ℕ)) (modelId : PyStr) :
    Except PyExc (List (PairKey × Observation)) := do
  let selected := (g.comparableRows classes).filter fun o => o.modelSubjectId = modelId
  let keyed ← selected.mapM fun o => do
    let key ← o.pairKey ordinals
    return (key, o)
  check (keyed.map Prod.fst).Nodup (valueError "duplicate paired comparison identity")
  return keyed

/-- The rows of two models under one key. -/
def joinRows (left right : List (PairKey × Observation)) : List (Observation × Observation) :=
  left.filterMap fun l => (right.lookup l.1).map fun r => (l.2, r)

def Observation.scored (o : Observation) : Bool := o.modelFailureValue = some 0 ∨ o.modelFailureValue = some 1

/-- The planned attempts of a joined pair are compatible. -/
def Grid.compatiblePair (g : Grid) (pair : Observation × Observation) : Bool :=
  match attemptOf g.planned pair.1.attemptId, attemptOf g.planned pair.2.attemptId with
  | some a, some b => pairCompatible a b
  | _, _ => false

/-- The comparison once no observation of either model is missing. -/
def Grid.pairComplete (g : Grid) (classes : List TargetClass) (metricId leftId rightId : PyStr) :
    Except PyExc PairedCompleteCase := do
  let ordinals ← retryOrdinals g.planned
  let left ← g.pairRows classes ordinals leftId
  let right ← g.pairRows classes ordinals rightId
  if left = [] ∨ ¬(left.map Prod.fst).Perm (right.map Prod.fst) then
    return unpaired metricId classes "UNPAIRED_PREDECLARED_DESIGN" 0
  else
    let pairs := joinRows left right
    let included := pairs.filter fun p => p.1.scored ∧ p.2.scored
    if ∃ p ∈ pairs, g.compatiblePair p = false then
      return unpaired metricId classes "PAIRED_IDENTITY_MISMATCH" 0
    else if included = [] then
      return unpaired metricId classes "ZERO_PAIRED_MODEL_SCORABLE_DENOMINATOR" left.length
    else
      let leftRate := nearestFloat ((failureValues (included.map Prod.fst)).sum / included.length)
      let rightRate := nearestFloat ((failureValues (included.map Prod.snd)).sum / included.length)
      return {
        metricId
        targetClasses := classes
        terminalStatus := .pass
        reason := none
        pairedScorableCount := included.length
        excludedPairCount := left.length - included.length
        leftFailureRate := some (round12 leftRate)
        rightFailureRate := some (round12 rightRate)
        failureRateDeltaLeftMinusRight := some (round12 (nearestFloat (leftRate - rightRate))) }

/-- The attempt is of one of two models and in the primary estimate. -/
def inPairedScope (classes : List TargetClass) (leftId rightId : PyStr) (t : TrialIdentity) : Bool :=
  inPrimaryEstimate classes t ∧ (t.modelSubjectId = leftId ∨ t.modelSubjectId = rightId)

def Grid.pairedCompleteCase (g : Grid) (classes : List TargetClass) (metricId leftId rightId : PyStr) :
    Except PyExc PairedCompleteCase :=
  if g.missingOf (g.planned.filter (inPairedScope classes leftId rightId)) ≠ [] then
    .ok (unpaired metricId classes "MISSING_PLANNED_OBSERVATIONS" 0)
  else g.pairComplete classes metricId leftId rightId

def pairedCompleteCase [PyRuntime] (m : BenchmarkManifest) (expected : ArtifactFingerprints)
    (observations : List Observation) (leftId rightId metricId : PyStr) : Except PyExc PairedCompleteCase := do
  check (leftId ≠ rightId) (valueError "paired comparison requires two distinct model subjects")
  let g ← validateObservationGrid m expected observations
  let classes ← metricTargetClasses m metricId
  g.pairedCompleteCase classes metricId leftId rightId

end EvaluationLab.BM0
