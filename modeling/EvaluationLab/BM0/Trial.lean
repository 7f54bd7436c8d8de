import EvaluationLab.BM0.Fields

/-! The identity of a planned attempt, and the commitment to the private holdout. -/
namespace EvaluationLab.BM0
open Python Effect QA0

/-- What an attempt declares before it runs and its observation has to repeat. -/
structure Declared where
  benchmarkId : PyStr
  trialId : PyStr
  providerSubjectId : PyStr
  modelSubjectId : PyStr
  requestedModelId : PyStr
  endpointId : PyStr
  capabilityMode : PyStr
  systemWrapperVersion : PyStr
  developerWrapperVersion : PyStr
  targetId : PyStr
  targetClass : TargetClass
  applicabilityResult : Applicability
  entryId : PyStr
  familyId : PyStr
  caseId : PyStr
  variantId : PyStr
  mechanismLineageId : PyStr
  caseFingerprint : PyStr
  generatorOrMutationVersion : PyStr
  contaminationStatus : Contamination
  exposureStatus : Exposure
  corpusItemAlias : PyStr
  replicateIndex : ℤ
  promptFingerprint : PyStr
  contextFingerprint : PyStr
  toolSchemaFingerprint : PyStr
  sandboxFingerprint : PyStr
  stateMachineFingerprint : PyStr
  scorerId : PyStr
  scorerVersion : PyStr
  scorerFingerprint : PyStr
  oracleId : PyStr
  oracleVersion : PyStr
  oracleFingerprint : PyStr
  deriving DecidableEq

structure SamplingControls where
  temperature : Option Number
  topP : Option Number
  maxOutputTokens : ℤ
  seed : Option ℤ
  automaticRetries : ℤ
  additionalParametersFingerprint : PyStr

inductive ReasoningMode where
  | disabled | providerDefault | fixed
  deriving DecidableEq

def ReasoningMode.text : ReasoningMode → PyStr
  | disabled => "DISABLED"
  | providerDefault => "PROVIDER_DEFAULT"
  | fixed => "FIXED"

structure ReasoningControls where
  mode : ReasoningMode
  effort : Option PyStr
  maxReasoningTokens : Option ℤ
  configurationFingerprint : PyStr
  deriving DecidableEq

/-- The identity a retry shares with its parent, sampling controls aside. -/
structure TrialDesign extends Declared where
  studyId : PyStr
  modelSnapshotId : PyStr
  expectedResolvedModelOrVersionId : Option PyStr
  requiredIdentityCertainty : IdentityCertainty
  aliasLimitation : AliasLimitation
  reasoningControls : ReasoningControls
  corpusPoolId : Pool
  corpusItemCommitment : PyStr
  mutationParentCommitment : Option PyStr
  promptTemplateVersion : PyStr
  harnessVersion : PyStr
  adapterId : PyStr
  adapterVersion : PyStr
  randomSeed : ℤ
  environmentFingerprint : PyStr
  deriving DecidableEq

/-- A planned attempt. Its schema and contract versions are the constants of this revision. -/
structure TrialIdentity extends TrialDesign where
  attemptId : PyStr
  parentAttemptId : Option PyStr
  samplingControls : SamplingControls

/-- `==` of two sampling controls. -/
def SamplingControls.same (s t : SamplingControls) : Prop :=
  sameNumber s.temperature t.temperature ∧ sameNumber s.topP t.topP ∧ s.maxOutputTokens = t.maxOutputTokens ∧
    s.seed = t.seed ∧ s.automaticRetries = t.automaticRetries ∧
    s.additionalParametersFingerprint = t.additionalParametersFingerprint

instance (s t : SamplingControls) : Decidable (s.same t) := inferInstanceAs (Decidable (_ ∧ _))

/-- Two attempts agree on all `retry_identity_fields`. -/
def TrialIdentity.sameRetryIdentity (a b : TrialIdentity) : Prop :=
  a.toTrialDesign = b.toTrialDesign ∧ a.samplingControls.same b.samplingControls

instance (a b : TrialIdentity) : Decidable (a.sameRetryIdentity b) := inferInstanceAs (Decidable (_ ∧ _))

def SamplingControls.toJson (s : SamplingControls) : Json := .obj [
  ("temperature", (s.temperature.map Number.toJson).getD .null), ("top_p", (s.topP.map Number.toJson).getD .null),
  ("max_output_tokens", .int s.maxOutputTokens), ("seed", optionalInteger s.seed),
  ("automatic_retries", .int s.automaticRetries),
  ("additional_parameters_fingerprint", .str s.additionalParametersFingerprint)]

def ReasoningControls.toJson (r : ReasoningControls) : Json := .obj [
  ("mode", .str r.mode.text), ("effort", optionalText r.effort),
  ("max_reasoning_tokens", optionalInteger r.maxReasoningTokens),
  ("configuration_fingerprint", .str r.configurationFingerprint)]

/-- The declared members of a document that name the subject and the target. -/
def Declared.subjectFields (d : Declared) : List (PyStr × Json) := [
  ("benchmark_id", .str d.benchmarkId), ("contract_version", .str workOrderRevision),
  ("trial_id", .str d.trialId), ("provider_subject_id", .str d.providerSubjectId),
  ("model_subject_id", .str d.modelSubjectId), ("requested_model_id", .str d.requestedModelId),
  ("endpoint_id", .str d.endpointId), ("capability_mode", .str d.capabilityMode),
  ("system_wrapper_version", .str d.systemWrapperVersion),
  ("developer_wrapper_version", .str d.developerWrapperVersion),
  ("target_id", .str d.targetId), ("target_class", .str d.targetClass.text),
  ("applicability_result", .str d.applicabilityResult.text), ("entry_id", .str d.entryId),
  ("family_id", .str d.familyId)]

/-- The declared members of a document that name the case and how it is scored. -/
def Declared.caseFields (d : Declared) : List (PyStr × Json) := [
  ("case_id", .str d.caseId), ("variant_id", .str d.variantId),
  ("mechanism_lineage_id", .str d.mechanismLineageId), ("case_fingerprint", .str d.caseFingerprint),
  ("generator_or_mutation_version", .str d.generatorOrMutationVersion),
  ("contamination_status", .str d.contaminationStatus.text), ("exposure_status", .str d.exposureStatus.text),
  ("corpus_item_alias", .str d.corpusItemAlias), ("replicate_index", .int d.replicateIndex),
  ("prompt_fingerprint", .str d.promptFingerprint), ("context_fingerprint", .str d.contextFingerprint),
  ("tool_schema_fingerprint", .str d.toolSchemaFingerprint), ("sandbox_fingerprint", .str d.sandboxFingerprint),
  ("state_machine_fingerprint", .str d.stateMachineFingerprint), ("scorer_id", .str d.scorerId),
  ("scorer_version", .str d.scorerVersion), ("scorer_fingerprint", .str d.scorerFingerprint),
  ("oracle_id", .str d.oracleId), ("oracle_version", .str d.oracleVersion),
  ("oracle_fingerprint", .str d.oracleFingerprint)]

def Declared.fields (d : Declared) : List (PyStr × Json) := d.subjectFields ++ d.caseFields

def TrialIdentity.ownFields (t : TrialIdentity) : List (PyStr × Json) := [
  ("schema_version", .str "b2-bm0-trial-identity/v1"), ("study_id", .str t.studyId),
  ("attempt_id", .str t.attemptId), ("parent_attempt_id", optionalText t.parentAttemptId),
  ("model_snapshot_id", .str t.modelSnapshotId),
  ("expected_resolved_model_or_version_id", optionalText t.expectedResolvedModelOrVersionId),
  ("required_identity_certainty", .str t.requiredIdentityCertainty.text),
  ("alias_limitation", .str t.aliasLimitation.text), ("sampling_controls", t.samplingControls.toJson),
  ("reasoning_controls", t.reasoningControls.toJson), ("corpus_pool_id", .str t.corpusPoolId.text),
  ("corpus_item_commitment", .str t.corpusItemCommitment),
  ("mutation_parent_commitment", optionalText t.mutationParentCommitment),
  ("prompt_template_version", .str t.promptTemplateVersion), ("harness_version", .str t.harnessVersion),
  ("adapter_id", .str t.adapterId), ("adapter_version", .str t.adapterVersion),
  ("random_seed", .int t.randomSeed), ("environment_fingerprint", .str t.environmentFingerprint)]

def TrialIdentity.toJson (t : TrialIdentity) : Json := .obj (t.toDeclared.fields ++ t.ownFields)

variable [PyRuntime]

/-- The sampling controls of an attempt. -/
def checkSamplingControls (s : SamplingControls) : Except PyExc Unit := do
  let label := py "trial-identity.sampling_controls"
  [("temperature", s.temperature, 2), ("top_p", s.topP, 1)].forM fun (f : String × Option Number × ℚ) =>
    match f.2.1 with
    | none => pure ()
    | some x => do
      let value ← checkNumber label (py f.1) x
      check (value ≤ f.2.2) (valueError (py "sampling_controls." ++ py f.1 ++ py " exceeds its frozen range"))
  checkInteger label "max_output_tokens" s.maxOutputTokens 1
  check (∀ n, s.seed = some n → 0 ≤ n)
    (valueError "sampling_controls.seed must be null or a non-negative integer")
  checkInteger label "automatic_retries" s.automaticRetries 0
  check (s.automaticRetries = 0) (valueError "BM0 initial automatic_retries must remain zero")
  requireSha256 s.additionalParametersFingerprint "sampling_controls.additional_parameters_fingerprint"

def checkReasoningControls (r : ReasoningControls) : Except PyExc Unit := do
  check (∀ e, r.effort = some e → isIdentifier e = true)
    (valueError "reasoning_controls.effort must be null or an identifier")
  check (∀ n, r.maxReasoningTokens = some n → 0 ≤ n)
    (valueError "reasoning_controls.max_reasoning_tokens must be null or non-negative")
  requireSha256 r.configurationFingerprint "reasoning_controls.configuration_fingerprint"

/-- The model identity an attempt is planned with. -/
def checkPlannedIdentity (t : TrialIdentity) : Except PyExc Unit :=
  let subjectIdentity := [t.providerSubjectId, t.modelSubjectId, t.modelSnapshotId]
  if t.targetClass = .systemEvalOnly then do
    check (t.applicabilityResult = .notApplicable)
      (valueError "system-only trials must disclose model/provider NOT_APPLICABLE")
    check (subjectIdentity = [systemScopeId, systemScopeId, systemScopeId])
      (valueError "system-only trials must use the non-model SYSTEM_SCOPE identity")
    check (t.requestedModelId = systemScopeId ∧ t.expectedResolvedModelOrVersionId = some systemScopeId ∧
        t.requiredIdentityCertainty = .systemScope ∧ t.aliasLimitation = .notApplicableSystemScope ∧
        t.endpointId = systemScopeId ∧ t.capabilityMode = py "SYSTEM_EVAL")
      (valueError "system-only identity fields must be explicit SYSTEM_SCOPE")
  else if systemScopeId ∈ subjectIdentity then
    throw (valueError "model and agent trials cannot use the SYSTEM_SCOPE identity")
  else if t.applicabilityResult ≠ .applicable then
    throw (valueError "model and agent trials must be declared APPLICABLE before execution")
  else
    match t.requiredIdentityCertainty with
    | .exact =>
      check (t.expectedResolvedModelOrVersionId = some t.modelSnapshotId ∧
          (t.aliasLimitation = .none ∨ t.aliasLimitation = .movingAliasResolutionRequired))
        (valueError "EXACT identity requires one frozen expected resolved version")
    | .aliasOnly =>
      check (t.expectedResolvedModelOrVersionId = none ∧ t.modelSnapshotId = py "UNRESOLVED_ALIAS" ∧
          t.aliasLimitation = .unverifiableAliasDisclosed)
        (valueError "ALIAS_ONLY identity must disclose unresolved alias limits")
    | _ => throw (valueError "unsupported required identity certainty")

/-- The corpus item an attempt runs against. -/
def checkCorpusItem (t : TrialIdentity) : Except PyExc Unit := do
  match t.corpusPoolId, t.mutationParentCommitment with
  | .mechanismPreservingMutation, none => throw (valueError "mutation_parent_commitment must be sha256:<64hex>")
  | .mechanismPreservingMutation, some parent => requireSha256 parent "mutation_parent_commitment"
  | _, none => pure ()
  | _, some _ =>
    throw (valueError "only mechanism-preserving mutation attempts may bind a mutation parent")
  requireSha256 t.caseFingerprint "case_fingerprint"
  check (t.exposureStatus = t.corpusPoolId.exposureStatus)
    (valueError "trial exposure status does not match its corpus lane")
  check (¬(t.corpusPoolId = .privateHiddenHoldout ∧ t.contaminationStatus = .knownExposed))
    (valueError "known-exposed cases cannot enter the private holdout")

/-- The declared lineage of a target. -/
def checkLineage (d : Declared) (unsupported inconsistent : PyStr) : Except PyExc Unit := do
  check (d.targetId ∈ targetIdsByClass d.targetClass) (valueError unsupported)
  check (∃ row ∈ canonicalFamilyLineage, row.targetId = d.targetId ∧ d.entryId = row.entryId ∧
      d.familyId = row.familyId ∧ d.targetClass = row.targetClass)
    (valueError inconsistent)

def TrialIdentity.identifiers (t : TrialIdentity) : List (PyStr × PyStr) := [
  ("benchmark_id", t.benchmarkId), ("study_id", t.studyId), ("trial_id", t.trialId),
  ("attempt_id", t.attemptId), ("provider_subject_id", t.providerSubjectId),
  ("model_subject_id", t.modelSubjectId), ("model_snapshot_id", t.modelSnapshotId),
  ("requested_model_id", t.requestedModelId), ("endpoint_id", t.endpointId),
  ("capability_mode", t.capabilityMode), ("system_wrapper_version", t.systemWrapperVersion),
  ("developer_wrapper_version", t.developerWrapperVersion), ("target_id", t.targetId),
  ("entry_id", t.entryId), ("family_id", t.familyId), ("case_id", t.caseId), ("variant_id", t.variantId),
  ("mechanism_lineage_id", t.mechanismLineageId),
  ("generator_or_mutation_version", t.generatorOrMutationVersion), ("corpus_item_alias", t.corpusItemAlias),
  ("prompt_template_version", t.promptTemplateVersion), ("harness_version", t.harnessVersion),
  ("adapter_id", t.adapterId), ("adapter_version", t.adapterVersion), ("scorer_id", t.scorerId),
  ("scorer_version", t.scorerVersion), ("oracle_id", t.oracleId), ("oracle_version", t.oracleVersion)]

def Declared.fingerprints (d : Declared) : List (PyStr × PyStr) := [
  ("prompt_fingerprint", d.promptFingerprint), ("context_fingerprint", d.contextFingerprint),
  ("tool_schema_fingerprint", d.toolSchemaFingerprint), ("sandbox_fingerprint", d.sandboxFingerprint),
  ("state_machine_fingerprint", d.stateMachineFingerprint), ("scorer_fingerprint", d.scorerFingerprint),
  ("oracle_fingerprint", d.oracleFingerprint)]

def validateTrialIdentity (t : TrialIdentity) : Except PyExc Unit := do
  let label := py "trial-identity"
  checkIdentifiers label t.identifiers
  check (∀ e, t.expectedResolvedModelOrVersionId = some e → isIdentifier e = true)
    (valueError "expected_resolved_model_or_version_id must be null or an identifier")
  check (∀ p, t.parentAttemptId = some p → isIdentifier p = true)
    (valueError "parent_attempt_id must be null or an opaque identifier")
  check (t.parentAttemptId ≠ some t.attemptId) (valueError "an attempt cannot be its own parent")
  checkLineage t.toDeclared "trial target ID does not belong to its declared class"
    "trial entry/family/target lineage is inconsistent"
  checkCorpusItem t
  checkPlannedIdentity t
  check (PyRuntime.lower t.modelSnapshotId ∉ [py "latest", py "default", py "auto", py "not_selected"])
    (valueError "model snapshot identity must be immutable, not a moving alias")
  requireSha256 t.corpusItemCommitment "corpus_item_commitment"
  requireSha256 t.environmentFingerprint "environment_fingerprint"
  t.fingerprints.forM fun f => requireSha256 f.2 (label ++ py "." ++ f.1)
  checkSamplingControls t.samplingControls
  checkReasoningControls t.reasoningControls
  checkInteger label "replicate_index" t.replicateIndex 0
  checkInteger label "random_seed" t.randomSeed 0
  assertPublicSafe t.toJson

/-- `bindings[key] = value`, unless the key is bound to something else. -/
def bindOnce {κ β : Type} [DecidableEq κ] [DecidableEq β] (bindings : List (κ × β)) (key : κ) (value : β)
    (e : PyExc) : Except PyExc (List (κ × β)) :=
  match bindings.lookup key with
  | some bound => if bound = value then .ok bindings else .error e
  | none => .ok (bindings ++ [(key, value)])

/-- The bindings `corpus_aggregate_commitment_v1` collects. -/
structure CorpusBindings where
  aliases : List (PyStr × Pool × PyStr) := []
  commitments : List (PyStr × Pool × PyStr) := []
  mutationParents : List PyStr := []

def bindCorpusItem (b : CorpusBindings) (t : TrialIdentity) : Except PyExc CorpusBindings := do
  let aliases ← bindOnce b.aliases t.corpusItemAlias (t.corpusPoolId, t.corpusItemCommitment)
    (valueError "one corpus alias cannot cross pools or bind multiple commitments")
  let commitments ← bindOnce b.commitments t.corpusItemCommitment (t.corpusPoolId, t.corpusItemAlias)
    (valueError "one corpus item commitment cannot cross pools or bind multiple aliases")
  check (t.mutationParentCommitment ≠ some t.corpusItemCommitment)
    (valueError "a mutation cannot name itself as its parent commitment")
  return ⟨aliases, commitments, b.mutationParents ++ t.mutationParentCommitment.toList⟩

/-- Pairs in the order of Python tuples of strings. -/
def pairLe (a b : PyStr × PyStr) : Bool := if a.1 = b.1 then strLe a.2 b.2 else strLe a.1 b.1

/-- The hidden items of the collected bindings, in order. -/
def CorpusBindings.hiddenItems (b : CorpusBindings) : List (PyStr × PyStr) :=
  let items := b.aliases.filterMap fun row =>
    if row.2.1 = .privateHiddenHoldout then some (row.1, row.2.2) else none
  items.insertionSort fun x y => pairLe x y = true

/-- The document `corpus_aggregate_commitment_v1` fingerprints. -/
def corpusDocument (items : List (PyStr × PyStr)) : Json := .obj [
  ("commitment_scheme", .str "B2-BM0-CORPUS-AGGREGATE-V1"),
  ("corpus_pool_id", .str Pool.privateHiddenHoldout.text), ("item_count", .int items.length),
  ("items", .arr (items.map fun item => .obj [
    ("corpus_item_alias", .str item.1), ("corpus_item_commitment", .str item.2)]))]

def corpusAggregateCommitment (attempts : List TrialIdentity) : Except PyExc PyStr := do
  attempts.forM validateTrialIdentity
  let bindings ← attempts.foldlM bindCorpusItem {}
  let items := bindings.hiddenItems
  check (∀ p ∈ bindings.mutationParents, p ∉ items.map Prod.snd)
    (valueError "a mutation parent cannot belong to the private hidden holdout")
  sha256Json (corpusDocument items)

end EvaluationLab.BM0
