import EvaluationLab.BM0.Manifest

/-! `validate_benchmark_manifest`: what it checks of the planned attempts, and of the whole. -/
namespace EvaluationLab.BM0
open Python Effect QA0

/-- What a `case_id` stands for. -/
structure CaseBinding where
  targetId : PyStr
  entryId : PyStr
  familyId : PyStr
  variantId : PyStr
  mechanismLineageId : PyStr
  caseFingerprint : PyStr
  generatorOrMutationVersion : PyStr
  contaminationStatus : Contamination
  exposureStatus : Exposure
  corpusPoolId : Pool
  corpusItemAlias : PyStr
  corpusItemCommitment : PyStr
  deriving DecidableEq

def TrialIdentity.caseBinding (t : TrialIdentity) : CaseBinding where
  targetId := t.targetId
  entryId := t.entryId
  familyId := t.familyId
  variantId := t.variantId
  mechanismLineageId := t.mechanismLineageId
  caseFingerprint := t.caseFingerprint
  generatorOrMutationVersion := t.generatorOrMutationVersion
  contaminationStatus := t.contaminationStatus
  exposureStatus := t.exposureStatus
  corpusPoolId := t.corpusPoolId
  corpusItemAlias := t.corpusItemAlias
  corpusItemCommitment := t.corpusItemCommitment

/-- What a model subject stands for. -/
structure SubjectBinding where
  providerSubjectId : PyStr
  modelSnapshotId : PyStr
  requestedModelId : PyStr
  expectedResolvedModelOrVersionId : Option PyStr
  requiredIdentityCertainty : IdentityCertainty
  aliasLimitation : AliasLimitation
  deriving DecidableEq

def TrialIdentity.subjectBinding (t : TrialIdentity) : SubjectBinding where
  providerSubjectId := t.providerSubjectId
  modelSnapshotId := t.modelSnapshotId
  requestedModelId := t.requestedModelId
  expectedResolvedModelOrVersionId := t.expectedResolvedModelOrVersionId
  requiredIdentityCertainty := t.requiredIdentityCertainty
  aliasLimitation := t.aliasLimitation

structure AttemptBindings where
  cases : List (PyStr × CaseBinding) := []
  subjects : List (PyStr × SubjectBinding) := []

/-- The declaration of a subject for an entry. -/
def declarationOf (records : List ApplicabilityRecord) (subjectId entryId : PyStr) : Option ApplicabilityRecord :=
  records.find? fun r => r.modelSubjectId = subjectId ∧ r.entryId = entryId

/-- An attempt is backed by an applicable declaration of its subject. -/
def checkDeclaration (records : List ApplicabilityRecord) (t : TrialIdentity) : Except PyExc Unit := do
  check (∃ r ∈ records, r.modelSubjectId = t.modelSubjectId)
    (valueError "planned model attempt lacks a complete applicability disclosure")
  let e := valueError "planned model attempt is not backed by an APPLICABLE declaration"
  match declarationOf records t.modelSubjectId t.entryId with
  | none => throw e
  | some r =>
    check (r.providerSubjectId = t.providerSubjectId ∧ r.requestedModelId = t.requestedModelId ∧
      r.targetId = t.targetId ∧ r.capabilityMode = t.capabilityMode ∧ r.applicabilityResult = .applicable) e

def bindAttempt (records : List ApplicabilityRecord) (b : AttemptBindings) (t : TrialIdentity) :
    Except PyExc AttemptBindings := do
  let cases ← bindOnce b.cases t.caseId t.caseBinding
    (valueError "one case_id cannot masquerade as multiple case variants")
  if t.targetClass = .systemEvalOnly then return { b with cases }
  else
    let subjects ← bindOnce b.subjects t.modelSubjectId t.subjectBinding
      (valueError "one model subject cannot aggregate multiple providers or snapshots")
    checkDeclaration records t
    return ⟨cases, subjects⟩

/-- The attempt of an id. -/
def attemptOf (attempts : List TrialIdentity) (attemptId : PyStr) : Option TrialIdentity :=
  attempts.find? fun t => t.attemptId = attemptId

/-- The place of an attempt id in the plan. -/
def attemptIndex (attempts : List TrialIdentity) (attemptId : PyStr) : ℕ :=
  attempts.findIdx fun t => t.attemptId = attemptId

/-- A retry names a parent that precedes it and shares its identity. -/
def checkRetry (attempts : List TrialIdentity) (t : TrialIdentity) : Except PyExc Unit :=
  match t.parentAttemptId with
  | none => pure ()
  | some parentId =>
    match attemptOf attempts parentId with
    | none => throw (valueError "retry parent must be present in the frozen manifest")
    | some parent => do
      check (attemptIndex attempts parentId < attemptIndex attempts t.attemptId)
        (valueError "retry parent must precede its child in manifest order")
      check (t.sameRetryIdentity parent) (valueError "retry attempt identity drifted from its parent")

/-- The retries of a plan. -/
def checkRetries (attempts : List TrialIdentity) : Except PyExc Unit := do
  attempts.forM (checkRetry attempts)
  check (attempts.filterMap TrialIdentity.parentAttemptId).Nodup (valueError "retry chains cannot branch")
  check (∀ t ∈ attempts,
      (attempts.filter fun u => u.trialId = t.trialId ∧ u.parentAttemptId = none).length = 1)
    (valueError "each trial must have exactly one root attempt")

def forbiddenEventFields : List PyStr :=
  ["terminal_status", "model_failure_value", "score", "output", "adjudication_decision"]

def checkStopRule (r : StopRule) (plannedAttemptCount : ℤ) : Except PyExc Unit :=
  check (r.outcomeBlind = true ∧ r.forbiddenEventFields.Nodup ∧
      (∀ f ∈ r.forbiddenEventFields, f ∈ forbiddenEventFields) ∧
      (∀ f ∈ forbiddenEventFields, f ∈ r.forbiddenEventFields) ∧
      r.plannedAttemptCount = plannedAttemptCount)
    (valueError "manifest stop rule is not the frozen no-peeking method")

variable [PyRuntime]

/-- What the study state asks of the whole manifest. -/
def checkStudyState (m : BenchmarkManifest) (expectedCorpusAggregate : PyStr) : Except PyExc Unit :=
  match m.studyState with
  | .designOnly =>
    check (m.providerRosterStatus = py "NOT_SELECTED" ∧ m.corpusCommitmentStatus = py "NOT_COMMITTED" ∧
        m.corpusAggregateCommitment = none ∧ m.adjudicationMode = py "NOT_SELECTED" ∧
        m.adjudicationPlan.isNone = true ∧ m.plannedAttempts.isEmpty = true ∧ m.plannedAttemptCount = 0 ∧
        m.sandboxEquivalence.status = .notEstablished ∧ m.modelApplicability.isEmpty = true)
      (valueError "design-only template cannot select roster/corpus/adjudication")
  | .frozen =>
    check (m.providerRosterStatus = py "SELECTED" ∧ m.corpusCommitmentStatus = py "SEALED" ∧
        m.corpusAggregateCommitment = some expectedCorpusAggregate ∧ m.adjudicationMode = py "HUMAN_HUMAN" ∧
        m.adjudicationPlan.isSome = true ∧ m.plannedAttempts.isEmpty = false ∧
        ∃ t ∈ m.plannedAttempts, t.corpusPoolId = .privateHiddenHoldout)
      (valueError "frozen execution manifest is incomplete")

def validateBenchmarkManifest (m : BenchmarkManifest) (expected : Option ArtifactFingerprints) :
    Except PyExc Unit := do
  let label := py "benchmark-manifest"
  checkIdentifier label "manifest_id" m.manifestId
  checkText label "provider_roster_status" m.providerRosterStatus
  checkText label "corpus_commitment_status" m.corpusCommitmentStatus
  m.corpusAggregateCommitment.toList.forM fun c => requireSha256 c (label ++ py ".corpus_aggregate_commitment")
  checkText label "adjudication_mode" m.adjudicationMode
  m.adjudicationPlan.toList.forM validateAdjudicationPlan
  check (m.frozenBeforeHiddenAccess = true) (valueError "manifest must freeze before hidden-corpus access")
  checkHiddenHoldoutAuthority m.hiddenHoldoutAuthority label
  checkSandboxEquivalence m.sandboxEquivalence m.comparisonClasses
  validateModelApplicabilityRecords m.modelApplicability m.sandboxEquivalence.status (m.studyState = .frozen)
  m.artifactFingerprints.entries.forM fun e => requireSha256 e.2 (py "artifact_fingerprints." ++ e.1)
  check (m.studyState = .frozen → expected ≠ none)
    (valueError "a FROZEN manifest requires independently supplied artifact fingerprints")
  check (∀ e, expected = some e → m.artifactFingerprints = e)
    (valueError "manifest artifact fingerprint binding drifted")
  m.plannedAttempts.forM validateTrialIdentity
  checkInteger label "planned_attempt_count" m.plannedAttemptCount 0
  check (m.plannedAttemptCount = m.plannedAttempts.length)
    (valueError "planned_attempt_count does not match planned_attempts")
  check (m.plannedAttempts.map TrialIdentity.attemptId).Nodup (valueError "planned attempt IDs must be unique")
  check (∀ t ∈ m.plannedAttempts, ∀ u ∈ m.plannedAttempts, t.studyId = u.studyId)
    (valueError "a frozen manifest cannot mix study identities")
  let expectedCorpusAggregate ← corpusAggregateCommitment m.plannedAttempts
  let _ ← m.plannedAttempts.foldlM (bindAttempt m.modelApplicability) {}
  checkRetries m.plannedAttempts
  check (∀ t ∈ m.plannedAttempts, t.targetClass ∈ m.comparisonClasses ∨ t.targetClass = .systemEvalOnly)
    (valueError "planned model/agent attempts must stay inside comparison classes")
  checkStopRule m.stopRule m.plannedAttemptCount
  checkStudyState m expectedCorpusAggregate
  assertPublicSafe m.toJson
  verifyFingerprint m.manifestFingerprint (.obj m.fields) "manifest_fingerprint" label

/-- A manifest that is accepted as `FROZEN` against independently supplied fingerprints. -/
structure BenchmarkManifest.Frozen (m : BenchmarkManifest) (expected : ArtifactFingerprints) : Prop where
  state : m.studyState = .frozen
  validated : validateBenchmarkManifest m (some expected) = .ok ()

end EvaluationLab.BM0
