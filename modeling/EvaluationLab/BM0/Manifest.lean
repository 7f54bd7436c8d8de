import EvaluationLab.BM0.Trial

/-! The benchmark manifest: adjudication plan, applicability grid, planned attempts and stop rule. -/
namespace EvaluationLab.BM0
open Python Effect QA0

inductive MetricId where
  | caseFailureProbability | familyConditionalFailureRate | controlFalsePositiveRate | withinCaseInstability
  | infrastructureErrorRate | terminalDistribution | modelFailureRate | sandboxedAgentFailureRate
  | systemInvariantFailureRate | nonScorableAttemptRate
  deriving DecidableEq

def MetricId.text : MetricId → PyStr
  | caseFailureProbability => "case_failure_probability"
  | familyConditionalFailureRate => "family_conditional_failure_rate"
  | controlFalsePositiveRate => "control_false_positive_rate"
  | withinCaseInstability => "within_case_instability"
  | infrastructureErrorRate => "infrastructure_error_rate"
  | terminalDistribution => "terminal_distribution"
  | modelFailureRate => "model_failure_rate"
  | sandboxedAgentFailureRate => "sandboxed_agent_failure_rate"
  | systemInvariantFailureRate => "system_invariant_failure_rate"
  | nonScorableAttemptRate => "non_scorable_attempt_rate"

/-- A human adjudicator the plan names. -/
structure Assignment where
  adjudicatorId : PyStr
  configurationFingerprint : PyStr
  deriving DecidableEq

/-- An adjudication plan. Its mode, authority order and policies are the frozen constants. -/
structure AdjudicationPlan where
  planId : PyStr
  metricIds : List MetricId
  primaryAdjudicators : List Assignment
  tiebreakAdjudicator : Assignment
  rubricVersion : PyStr
  rubricFingerprint : PyStr
  planFingerprint : PyStr

inductive ComparisonResult where
  | defaultComparable | comparableAfterSandboxEquivalence | comparabilityLimit | notApplicable
  deriving DecidableEq

def ComparisonResult.text : ComparisonResult → PyStr
  | defaultComparable => "DEFAULT_COMPARABLE"
  | comparableAfterSandboxEquivalence => "COMPARABLE_AFTER_SANDBOX_EQUIVALENCE"
  | comparabilityLimit => "COMPARABILITY_LIMIT"
  | notApplicable => "NOT_APPLICABLE"

inductive ApplicabilityReason where
  | declaredCapabilitySupported | providerCapabilityUnavailable | declaredEnvironmentUnsupported
  | systemEvalOnlyNoModelTrial
  deriving DecidableEq

def ApplicabilityReason.text : ApplicabilityReason → PyStr
  | declaredCapabilitySupported => "DECLARED_CAPABILITY_SUPPORTED"
  | providerCapabilityUnavailable => "PROVIDER_CAPABILITY_UNAVAILABLE"
  | declaredEnvironmentUnsupported => "DECLARED_ENVIRONMENT_UNSUPPORTED"
  | systemEvalOnlyNoModelTrial => "SYSTEM_EVAL_ONLY_NO_MODEL_TRIAL"

structure ApplicabilityRecord where
  providerSubjectId : PyStr
  modelSubjectId : PyStr
  requestedModelId : PyStr
  entryId : PyStr
  targetId : PyStr
  familyId : PyStr
  targetClass : TargetClass
  capabilityMode : PyStr
  applicabilityResult : Applicability
  comparisonResult : ComparisonResult
  reasonCode : ApplicabilityReason
  evidenceFingerprint : PyStr
  declaredBeforeExecution : Bool

inductive AuthorityType where
  | privateFileId | privateArchiveId | notInPublicRepoDeclaration
  deriving DecidableEq

def AuthorityType.text : AuthorityType → PyStr
  | privateFileId => "PRIVATE_FILE_ID"
  | privateArchiveId => "PRIVATE_ARCHIVE_ID"
  | notInPublicRepoDeclaration => "NOT_IN_PUBLIC_REPO_DECLARATION"

/-- The external authority of the private holdout, bound and without public content. -/
structure HiddenHoldoutAuthority where
  authorityType : AuthorityType
  authorityId : PyStr
  authorityFingerprint : PyStr

inductive EvidenceType where
  | sandboxImage | toolSurface | budgetRetry | networkCredentialPolicy | independentEquivalenceReceipt
  deriving DecidableEq

def EvidenceType.text : EvidenceType → PyStr
  | sandboxImage => "SANDBOX_IMAGE"
  | toolSurface => "TOOL_SURFACE"
  | budgetRetry => "BUDGET_RETRY"
  | networkCredentialPolicy => "NETWORK_CREDENTIAL_POLICY"
  | independentEquivalenceReceipt => "INDEPENDENT_EQUIVALENCE_RECEIPT"

/-- `SANDBOX_EQUIVALENCE_EVIDENCE_TYPES`. -/
def sandboxEquivalenceEvidenceTypes : List EvidenceType :=
  [.sandboxImage, .toolSurface, .budgetRetry, .networkCredentialPolicy, .independentEquivalenceReceipt]

structure EvidenceRef where
  evidenceType : EvidenceType
  evidenceId : PyStr
  evidenceFingerprint : PyStr

inductive EquivalenceStatus where
  | notEstablished | established
  deriving DecidableEq

def EquivalenceStatus.text : EquivalenceStatus → PyStr
  | notEstablished => "NOT_ESTABLISHED"
  | established => "ESTABLISHED"

structure SandboxEquivalence where
  status : EquivalenceStatus
  evidenceRefs : List EvidenceRef

/-- The fingerprints of the six artifacts a manifest is bound to. -/
structure ArtifactFingerprints where
  measurementContractCore : PyStr
  targetMatrix : PyStr
  metricRegistry : PyStr
  corpusPolicy : PyStr
  analysisPlan : PyStr
  analysisImplementation : PyStr
  deriving DecidableEq

inductive StudyState where
  | designOnly | frozen
  deriving DecidableEq

def StudyState.text : StudyState → PyStr
  | designOnly => "DESIGN_ONLY"
  | frozen => "FROZEN"

/-- The frozen no-peeking stop rule; only what it may state in several ways is kept. -/
structure StopRule where
  outcomeBlind : Bool
  forbiddenEventFields : List PyStr
  plannedAttemptCount : ℤ

/-- A benchmark manifest. Its schema, work order and base revision are constants. -/
structure BenchmarkManifest where
  manifestId : PyStr
  studyState : StudyState
  providerRosterStatus : PyStr
  corpusCommitmentStatus : PyStr
  corpusAggregateCommitment : Option PyStr
  adjudicationMode : PyStr
  adjudicationPlan : Option AdjudicationPlan
  frozenBeforeHiddenAccess : Bool
  hiddenHoldoutAuthority : HiddenHoldoutAuthority
  comparisonClasses : List TargetClass
  sandboxEquivalence : SandboxEquivalence
  modelApplicability : List ApplicabilityRecord
  artifactFingerprints : ArtifactFingerprints
  plannedAttempts : List TrialIdentity
  plannedAttemptCount : ℤ
  stopRule : StopRule
  manifestFingerprint : PyStr

def textItems (items : List PyStr) : Json := .arr (items.map .str)

def Assignment.toJson (a : Assignment) : Json := .obj [
  ("adjudicator_type", .str "HUMAN"), ("adjudicator_id", .str a.adjudicatorId),
  ("configuration_fingerprint", .str a.configurationFingerprint)]

def adjudicationAuthorityOrder : List PyStr := ["DETERMINISTIC_ORACLE", "STRUCTURED_RULE_SCORER",
  "BLINDED_INDEPENDENT_HUMAN_REVIEW", "CALIBRATED_LLM_JUDGE_ASSISTANCE_ONLY"]

def adjudicationRoutePolicy : Json := .obj [
  ("deterministic_oracle", .str "FINAL_WHEN_APPLICABLE"),
  ("structured_rule_scorer", .str "FINAL_WHEN_ORACLE_NOT_APPLICABLE"),
  ("open_nondeterministic", .str "HUMAN_HUMAN_MINIMUM_TWO_INDEPENDENT")]

def llmJudgeAssistancePolicy : Json := .obj [
  ("allowed", .bool true), ("final_authority", .bool false), ("calibration_set_required", .bool true),
  ("known_bad_control_required", .bool true), ("exact_identity_and_version_required", .bool true),
  ("judge_error_audit_required", .bool true), ("hidden_from_primary_humans_until_decision", .bool true)]

def agreementMeasure : PyStr := "RAW_EXACT_AGREEMENT_OVER_TWO_PRIMARY_HUMAN_DECISIONS"

def agreementReportingPolicy : Json := .obj [
  ("required", .bool true), ("measure", .str agreementMeasure),
  ("disagreement_escalation_required", .bool true), ("auditable_final_label_required", .bool true)]

/-- The plan without its fingerprint. -/
def AdjudicationPlan.fields (p : AdjudicationPlan) : List (PyStr × Json) := [
  ("plan_id", .str p.planId), ("mode", .str "HUMAN_HUMAN"),
  ("authority_order", textItems adjudicationAuthorityOrder), ("route_policy", adjudicationRoutePolicy),
  ("llm_judge_assistance_policy", llmJudgeAssistancePolicy),
  ("agreement_reporting_policy", agreementReportingPolicy),
  ("metric_ids", textItems (p.metricIds.map MetricId.text)),
  ("primary_adjudicators", .arr (p.primaryAdjudicators.map Assignment.toJson)),
  ("tiebreak_adjudicator", p.tiebreakAdjudicator.toJson), ("rubric_version", .str p.rubricVersion),
  ("rubric_fingerprint", .str p.rubricFingerprint)]

def AdjudicationPlan.toJson (p : AdjudicationPlan) : Json :=
  sealDocument p.fields "plan_fingerprint" p.planFingerprint

def ApplicabilityRecord.toJson (r : ApplicabilityRecord) : Json := .obj [
  ("provider_subject_id", .str r.providerSubjectId), ("model_subject_id", .str r.modelSubjectId),
  ("requested_model_id", .str r.requestedModelId), ("entry_id", .str r.entryId),
  ("target_id", .str r.targetId), ("family_id", .str r.familyId), ("target_class", .str r.targetClass.text),
  ("capability_mode", .str r.capabilityMode), ("applicability_result", .str r.applicabilityResult.text),
  ("comparison_result", .str r.comparisonResult.text), ("reason_code", .str r.reasonCode.text),
  ("evidence_fingerprint", .str r.evidenceFingerprint),
  ("declared_before_execution", .bool r.declaredBeforeExecution)]

def HiddenHoldoutAuthority.toJson (h : HiddenHoldoutAuthority) : Json := .obj [
  ("binding_status", .str "BOUND"), ("authority_type", .str h.authorityType.text),
  ("authority_id", .str h.authorityId), ("authority_fingerprint", .str h.authorityFingerprint),
  ("public_repository_content_status", .str "ABSENT"),
  ("secret_locator_in_public_repository", .bool false)]

def EvidenceRef.toJson (r : EvidenceRef) : Json := .obj [
  ("evidence_type", .str r.evidenceType.text), ("evidence_id", .str r.evidenceId),
  ("evidence_fingerprint", .str r.evidenceFingerprint)]

def SandboxEquivalence.toJson (s : SandboxEquivalence) : Json := .obj [
  ("status", .str s.status.text), ("evidence_refs", .arr (s.evidenceRefs.map EvidenceRef.toJson))]

def ArtifactFingerprints.entries (a : ArtifactFingerprints) : List (PyStr × PyStr) := [
  ("measurement_contract_core", a.measurementContractCore), ("target_matrix", a.targetMatrix),
  ("metric_registry", a.metricRegistry), ("corpus_policy", a.corpusPolicy),
  ("analysis_plan", a.analysisPlan), ("analysis_implementation", a.analysisImplementation)]

def fixedAttemptStopMethodId : PyStr := "BM0-SAP-01-FIXED-ATTEMPT-STOP-V1"

def StopRule.toJson (r : StopRule) : Json := .obj [
  ("method_id", .str fixedAttemptStopMethodId), ("outcome_blind", .bool r.outcomeBlind),
  ("required_event_fields", textItems ["attempt_id", "recorded"]),
  ("forbidden_event_fields", textItems r.forbiddenEventFields),
  ("planned_attempt_count", .int r.plannedAttemptCount)]

/-- The manifest without its fingerprint. -/
def BenchmarkManifest.fields (m : BenchmarkManifest) : List (PyStr × Json) := [
  ("schema_version", .str "b2-bm0-benchmark-manifest/v1"), ("manifest_id", .str m.manifestId),
  ("contract_id", .str workOrderId), ("contract_revision", .str workOrderRevision),
  ("implementation_base_sha", .str implementationBaseSha), ("study_state", .str m.studyState.text),
  ("provider_roster_status", .str m.providerRosterStatus),
  ("corpus_commitment_status", .str m.corpusCommitmentStatus),
  ("corpus_aggregate_commitment", optionalText m.corpusAggregateCommitment),
  ("adjudication_mode", .str m.adjudicationMode),
  ("adjudication_plan", (m.adjudicationPlan.map AdjudicationPlan.toJson).getD .null),
  ("frozen_before_hidden_access", .bool m.frozenBeforeHiddenAccess),
  ("hidden_holdout_authority", m.hiddenHoldoutAuthority.toJson),
  ("comparison_classes", textItems (m.comparisonClasses.map TargetClass.text)),
  ("sandbox_equivalence", m.sandboxEquivalence.toJson),
  ("model_applicability", .arr (m.modelApplicability.map ApplicabilityRecord.toJson)),
  ("artifact_fingerprints", .obj (m.artifactFingerprints.entries.map fun e => (e.1, .str e.2))),
  ("planned_attempts", .arr (m.plannedAttempts.map TrialIdentity.toJson)),
  ("planned_attempt_count", .int m.plannedAttemptCount), ("stop_rule", m.stopRule.toJson)]

def BenchmarkManifest.toJson (m : BenchmarkManifest) : Json :=
  sealDocument m.fields "manifest_fingerprint" m.manifestFingerprint

/-- `DEFAULT_COMPARABLE_CLASSES`. -/
def defaultComparableClasses : List TargetClass := [.modelDirect, .modelContextGrounded]

variable [PyRuntime]

/-- `HIDDEN_HOLDOUT_DECLARATION`. -/
def hiddenHoldoutDeclaration : Json := .obj [
  ("declaration_id", .str hiddenHoldoutDeclarationId),
  ("authority_type", .str "NOT_IN_PUBLIC_REPO_DECLARATION"),
  ("exact_prompt_input_label_oracle_content", .str "NOT_IN_PUBLIC_REPOSITORY"),
  ("private_locator_or_secret", .str "NOT_RECORDED_IN_PUBLIC_REPOSITORY"),
  ("binding_scope", .str "PRIVATE_HIDDEN_HOLDOUT_AUTHORITY_ONLY")]

/-- `checked_assignment`. -/
def checkedAssignment (a : Assignment) (label : PyStr) : Except PyExc Unit := do
  checkIdentifier label "adjudicator_id" a.adjudicatorId
  requireSha256 a.configurationFingerprint (label ++ py ".configuration_fingerprint")

def validateAdjudicationPlan (p : AdjudicationPlan) : Except PyExc Unit := do
  let label := py "adjudication-plan"
  checkIdentifier label "plan_id" p.planId
  check (p.metricIds ≠ []) (valueError "adjudication-plan.metric_ids must be a non-empty array")
  check p.metricIds.Nodup (valueError "adjudication-plan.metric_ids must contain unique values")
  checkIdentifier label "rubric_version" p.rubricVersion
  requireSha256 p.rubricFingerprint "adjudication-plan.rubric_fingerprint"
  check (p.primaryAdjudicators.length = 2) (valueError "adjudication plan requires exactly two primaries")
  p.primaryAdjudicators.zipIdx.forM fun a =>
    checkedAssignment a.1 (label ++ py ".primary_adjudicators[" ++ natText a.2 ++ py "]")
  checkedAssignment p.tiebreakAdjudicator (label ++ py ".tiebreak_adjudicator")
  check ((p.primaryAdjudicators ++ [p.tiebreakAdjudicator]).map Assignment.adjudicatorId).Nodup
    (valueError "adjudication plan identities must be distinct")
  assertPublicSafe p.toJson
  verifyFingerprint p.planFingerprint (.obj p.fields) "plan_fingerprint" label

/-- The result, comparison and reason an applicability record has to state. -/
def expectedApplicability (r : ApplicabilityRecord) (sandbox : EquivalenceStatus) :
    Except PyExc (Applicability × ComparisonResult × ApplicabilityReason) :=
  if r.targetClass = .systemEvalOnly then
    if r.capabilityMode = py "SYSTEM_EVAL" then
      .ok (.notApplicable, .notApplicable, .systemEvalOnlyNoModelTrial)
    else .error (valueError "system-only applicability must use SYSTEM_EVAL capability mode")
  else if r.applicabilityResult = .notApplicable then
    if r.reasonCode = .providerCapabilityUnavailable ∨ r.reasonCode = .declaredEnvironmentUnsupported then
      .ok (.notApplicable, .notApplicable, r.reasonCode)
    else .error (valueError "non-system NOT_APPLICABLE requires a capability/environment reason")
  else
    let comparison :=
      if r.targetClass = .agentStandardized then
        if sandbox = .established then ComparisonResult.comparableAfterSandboxEquivalence else .comparabilityLimit
      else .defaultComparable
    .ok (.applicable, comparison, .declaredCapabilitySupported)

def ApplicabilityRecord.identifiers (r : ApplicabilityRecord) : List (PyStr × PyStr) := [
  ("provider_subject_id", r.providerSubjectId), ("model_subject_id", r.modelSubjectId),
  ("requested_model_id", r.requestedModelId), ("entry_id", r.entryId), ("target_id", r.targetId),
  ("family_id", r.familyId), ("target_class", r.targetClass.text), ("capability_mode", r.capabilityMode),
  ("applicability_result", r.applicabilityResult.text), ("comparison_result", r.comparisonResult.text),
  ("reason_code", r.reasonCode.text)]

/-- One applicability record by itself. -/
def checkApplicabilityRecord (r : ApplicabilityRecord) (sandbox : EquivalenceStatus) (label : PyStr) :
    Except PyExc Unit := do
  checkIdentifiers label r.identifiers
  check (systemScopeId ∉ [r.providerSubjectId, r.modelSubjectId, r.requestedModelId])
    (valueError "per-model applicability records require a real provider/model subject")
  requireSha256 r.evidenceFingerprint (label ++ py ".evidence_fingerprint")
  check (r.declaredBeforeExecution = true) (valueError "applicability must be declared before execution")
  check (∃ row ∈ canonicalFamilyLineage, row.entryId = r.entryId ∧ r.targetId = row.targetId ∧
      r.familyId = row.familyId ∧ r.targetClass = row.targetClass)
    (valueError "model applicability lineage drifted")
  let expected ← expectedApplicability r sandbox
  check ((r.applicabilityResult, r.comparisonResult, r.reasonCode) = expected)
    (valueError "model applicability semantics drifted")

/-- The subjects met so far, and the entries each has declared. -/
structure ApplicabilityGrid where
  subjects : List (PyStr × PyStr × PyStr) := []
  declared : List (PyStr × PyStr) := []

def bindApplicability (sandbox : EquivalenceStatus) (g : ApplicabilityGrid) (r : ApplicabilityRecord × ℕ) :
    Except PyExc ApplicabilityGrid := do
  checkApplicabilityRecord r.1 sandbox (py "model-applicability[" ++ natText r.2 ++ py "]")
  let subjects ← bindOnce g.subjects r.1.modelSubjectId (r.1.providerSubjectId, r.1.requestedModelId)
    (valueError "one applicability subject cannot span providers or requested models")
  check ((r.1.modelSubjectId, r.1.entryId) ∉ g.declared)
    (valueError "duplicate provider/model applicability entry")
  return ⟨subjects, g.declared ++ [(r.1.modelSubjectId, r.1.entryId)]⟩

def validateModelApplicabilityRecords (records : List ApplicabilityRecord) (sandbox : EquivalenceStatus)
    (requireSelectedSubject : Bool) : Except PyExc Unit := do
  check (requireSelectedSubject = true → records ≠ [])
    (valueError "a frozen selected roster requires per-model applicability records")
  let grid ← records.zipIdx.foldlM (bindApplicability sandbox) {}
  grid.subjects.forM fun s =>
    check (∀ row ∈ canonicalFamilyLineage, (s.1, row.entryId) ∈ grid.declared)
      (valueError (s.1 ++ py " must disclose applicability for all 16 formal entries"))

def checkHiddenHoldoutAuthority (h : HiddenHoldoutAuthority) (label : PyStr) : Except PyExc Unit := do
  checkIdentifier (label ++ py ".hidden_holdout_authority") "authority_id" h.authorityId
  requireSha256 h.authorityFingerprint (label ++ py ".hidden_holdout_authority.authority_fingerprint")
  if h.authorityType = .notInPublicRepoDeclaration then do
    let e := valueError "public NOT_IN_PUBLIC_REPO authority declaration is not exact or verifiable"
    check (h.authorityId = hiddenHoldoutDeclarationId) e
    let declared ← sha256Json hiddenHoldoutDeclaration
    check (h.authorityFingerprint = declared) e
  else pure ()

def checkSandboxEquivalence (s : SandboxEquivalence) (comparisonClasses : List TargetClass) :
    Except PyExc Unit := do
  s.evidenceRefs.zipIdx.forM fun r => do
    checkIdentifier (py "sandbox.evidence_refs[" ++ natText r.2 ++ py "]") "evidence_id" r.1.evidenceId
    requireSha256 r.1.evidenceFingerprint "sandbox evidence fingerprint"
  check (s.evidenceRefs.map EvidenceRef.evidenceId).Nodup
    (valueError "sandbox equivalence evidence IDs must be unique")
  check (comparisonClasses ≠ [])
    (valueError "benchmark-manifest.comparison_classes must be a non-empty array")
  check comparisonClasses.Nodup
    (valueError "benchmark-manifest.comparison_classes must contain unique values")
  match s.status with
  | .notEstablished =>
    check (s.evidenceRefs.length = 0 ∧ comparisonClasses = defaultComparableClasses)
      (valueError "unproven sandbox equivalence cannot expand comparability")
  | .established =>
    check (s.evidenceRefs.map EvidenceRef.evidenceType = sandboxEquivalenceEvidenceTypes ∧
        comparisonClasses = defaultComparableClasses ++ [.agentStandardized])
      (valueError "established equivalence requires evidence and exact expansion")
  check (.systemEvalOnly ∉ comparisonClasses)
    (valueError "system-only targets can never enter model comparison")

end EvaluationLab.BM0
