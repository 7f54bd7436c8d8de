import EvaluationLab.BM1.Case
import EvaluationLab.BM0.Lineage

/-! The frozen smoke manifest: its typed form, its document and its validation. -/
namespace EvaluationLab.BM1
open Python Effect QA0

structure Baseline where
  commitSha : PyStr
  treeSha : PyStr
  deriving DecidableEq

structure CaseRow where
  caseId : PyStr
  variant : PyStr
  caseFingerprint : PyStr
  promptFingerprint : PyStr
  expectedDecision : PyStr
  deriving DecidableEq

structure CaseBinding where
  entryId : PyStr
  targetId : PyStr
  targetClass : PyStr
  familyId : PyStr
  fixturePath : PyStr
  seedLineage : PyStr
  wrapperId : PyStr
  wrapperFingerprint : PyStr
  scorerId : PyStr
  scorerFingerprint : PyStr
  oracleId : PyStr
  oracleFingerprint : PyStr
  cases : List CaseRow
  deriving DecidableEq

structure IdentityPolicy where
  required : Bool
  acceptedResolvedModelIds : List PyStr
  onMismatch : PyStr
  deriving DecidableEq

structure ReasoningControl where
  mode : PyStr
  effort : PyStr
  deriving DecidableEq

structure SamplingControl where
  mode : PyStr
  omittedParameters : List PyStr
  comparabilityLimit : PyStr
  deriving DecidableEq

/-- Prices are read as exact rationals. -/
structure Pricing where
  currency : PyStr
  unit : PyStr
  inputUsdPerMillionTokens : ℚ
  outputUsdPerMillionTokens : ℚ
  validThrough : Option PyStr
  deriving DecidableEq

structure Provider where
  providerId : PyStr
  requestedModelId : PyStr
  endpointId : PyStr
  adapterId : PyStr
  adapterVersion : PyStr
  identityPolicy : IdentityPolicy
  reasoningControl : ReasoningControl
  samplingControl : SamplingControl
  pricing : Pricing
  deriving DecidableEq

structure RuntimeContract where
  plannedProviderAttempts : ℤ
  automaticRetries : ℤ
  maxProviderRequestsPerAttempt : ℤ
  maxInputTokensPerAttempt : ℤ
  maxOutputTokensPerAttempt : ℤ
  timeoutSeconds : ℤ
  maxTotalSmokeSpendUsd : ℚ
  maxProviderLocalErrorsBeforeGlobalStop : ℤ
  fallbackOrModelSubstitution : ℤ
  liveAttemptClaim : PyStr
  deriving DecidableEq

structure Attempt where
  sequence : ℤ
  attemptId : PyStr
  trialId : PyStr
  providerId : PyStr
  requestedModelId : PyStr
  caseId : PyStr
  variant : PyStr
  replicateIndex : ℤ
  deriving DecidableEq

structure PublicPrivateBoundary where
  publicReceiptBodies : PyStr
  privateRawBundle : PyStr
  privateLocatorInPublicReceipt : Bool
  reasoningBodyInPublicReceipt : Bool
  finalBodyInPublicReceipt : Bool
  secretValueInPublicReceipt : Bool
  deriving DecidableEq

structure ImplementationScope where
  approvedPaths : List PyStr
  sixthPathRequiresExplicitApproval : Bool
  deriving DecidableEq

structure PhaseAuthorization where
  p2OfflineImplementation : Bool
  credentialPresenceOrValueAccess : Bool
  authenticatedProviderRequest : Bool
  liveExecution : Bool
  spend : Bool
  merge : Bool
  runReady : Bool
  bm2 : Bool
  deriving DecidableEq

structure Manifest where
  schemaVersion : PyStr
  manifestId : PyStr
  workOrderId : PyStr
  workOrderRevision : PyStr
  bm0ContractVersion : PyStr
  implementationBaseline : Baseline
  caseBinding : CaseBinding
  providers : List Provider
  runtimeContract : RuntimeContract
  attemptPlan : List Attempt
  publicPrivateBoundary : PublicPrivateBoundary
  implementationScope : ImplementationScope
  authorization : PhaseAuthorization
  manifestFingerprint : PyStr
  deriving DecidableEq

def strings (items : List PyStr) : Json := .arr (items.map .str)

def optionalStr : Option PyStr → Json
  | none => .null
  | some s => .str s

def usd (amount : ℚ) : Json := .float (.finite amount)

def CaseRow.toJson (r : CaseRow) : Json := .obj [
  ("case_id", .str r.caseId), ("variant", .str r.variant),
  ("case_fingerprint", .str r.caseFingerprint), ("prompt_fingerprint", .str r.promptFingerprint),
  ("expected_decision", .str r.expectedDecision)]

def CaseBinding.toJson (b : CaseBinding) : Json := .obj [
  ("entry_id", .str b.entryId), ("target_id", .str b.targetId), ("target_class", .str b.targetClass),
  ("family_id", .str b.familyId), ("fixture_path", .str b.fixturePath),
  ("seed_lineage", .str b.seedLineage), ("wrapper_id", .str b.wrapperId),
  ("wrapper_fingerprint", .str b.wrapperFingerprint), ("scorer_id", .str b.scorerId),
  ("scorer_fingerprint", .str b.scorerFingerprint), ("oracle_id", .str b.oracleId),
  ("oracle_fingerprint", .str b.oracleFingerprint), ("cases", .arr (b.cases.map CaseRow.toJson))]

def ReasoningControl.toJson (c : ReasoningControl) : Json :=
  .obj [("mode", .str c.mode), ("effort", .str c.effort)]

def SamplingControl.toJson (c : SamplingControl) : Json := .obj [
  ("mode", .str c.mode), ("omitted_parameters", strings c.omittedParameters),
  ("comparability_limit", .str c.comparabilityLimit)]

def Pricing.toJson (p : Pricing) : Json := .obj [
  ("currency", .str p.currency), ("unit", .str p.unit),
  ("input_usd_per_million_tokens", usd p.inputUsdPerMillionTokens),
  ("output_usd_per_million_tokens", usd p.outputUsdPerMillionTokens),
  ("valid_through", optionalStr p.validThrough)]

def Provider.toJson (p : Provider) : Json := .obj [
  ("provider_id", .str p.providerId), ("requested_model_id", .str p.requestedModelId),
  ("endpoint_id", .str p.endpointId), ("adapter_id", .str p.adapterId),
  ("adapter_version", .str p.adapterVersion),
  ("identity_policy", .obj [
    ("required", .bool p.identityPolicy.required),
    ("accepted_resolved_model_ids", strings p.identityPolicy.acceptedResolvedModelIds),
    ("on_mismatch", .str p.identityPolicy.onMismatch)]),
  ("reasoning_control", p.reasoningControl.toJson),
  ("sampling_control", p.samplingControl.toJson), ("pricing", p.pricing.toJson)]

def RuntimeContract.toJson (c : RuntimeContract) : Json := .obj [
  ("planned_provider_attempts", .int c.plannedProviderAttempts),
  ("automatic_retries", .int c.automaticRetries),
  ("max_provider_requests_per_attempt", .int c.maxProviderRequestsPerAttempt),
  ("max_input_tokens_per_attempt", .int c.maxInputTokensPerAttempt),
  ("max_output_tokens_per_attempt", .int c.maxOutputTokensPerAttempt),
  ("timeout_seconds", .int c.timeoutSeconds),
  ("max_total_smoke_spend_usd", usd c.maxTotalSmokeSpendUsd),
  ("max_provider_local_errors_before_global_stop", .int c.maxProviderLocalErrorsBeforeGlobalStop),
  ("fallback_or_model_substitution", .int c.fallbackOrModelSubstitution),
  ("live_attempt_claim", .str c.liveAttemptClaim)]

def Attempt.toJson (a : Attempt) : Json := .obj [
  ("sequence", .int a.sequence), ("attempt_id", .str a.attemptId), ("trial_id", .str a.trialId),
  ("provider_id", .str a.providerId), ("requested_model_id", .str a.requestedModelId),
  ("case_id", .str a.caseId), ("variant", .str a.variant), ("replicate_index", .int a.replicateIndex)]

/-- The manifest document without its own fingerprint. -/
def Manifest.fields (m : Manifest) : Fields := [
  ("schema_version", .str m.schemaVersion), ("manifest_id", .str m.manifestId),
  ("work_order_id", .str m.workOrderId), ("work_order_revision", .str m.workOrderRevision),
  ("bm0_contract_version", .str m.bm0ContractVersion),
  ("implementation_baseline", .obj [
    ("commit_sha", .str m.implementationBaseline.commitSha),
    ("tree_sha", .str m.implementationBaseline.treeSha)]),
  ("case_binding", m.caseBinding.toJson),
  ("providers", .arr (m.providers.map Provider.toJson)),
  ("runtime_contract", m.runtimeContract.toJson),
  ("attempt_plan", .arr (m.attemptPlan.map Attempt.toJson)),
  ("public_private_boundary", .obj [
    ("public_receipt_bodies", .str m.publicPrivateBoundary.publicReceiptBodies),
    ("private_raw_bundle", .str m.publicPrivateBoundary.privateRawBundle),
    ("private_locator_in_public_receipt", .bool m.publicPrivateBoundary.privateLocatorInPublicReceipt),
    ("reasoning_body_in_public_receipt", .bool m.publicPrivateBoundary.reasoningBodyInPublicReceipt),
    ("final_body_in_public_receipt", .bool m.publicPrivateBoundary.finalBodyInPublicReceipt),
    ("secret_value_in_public_receipt", .bool m.publicPrivateBoundary.secretValueInPublicReceipt)]),
  ("implementation_scope", .obj [
    ("approved_paths", strings m.implementationScope.approvedPaths),
    ("sixth_path_requires_explicit_approval",
      .bool m.implementationScope.sixthPathRequiresExplicitApproval)]),
  ("authorization", .obj [
    ("p2_offline_implementation", .bool m.authorization.p2OfflineImplementation),
    ("credential_presence_or_value_access", .bool m.authorization.credentialPresenceOrValueAccess),
    ("authenticated_provider_request", .bool m.authorization.authenticatedProviderRequest),
    ("live_execution", .bool m.authorization.liveExecution),
    ("spend", .bool m.authorization.spend), ("merge", .bool m.authorization.merge),
    ("run_ready", .bool m.authorization.runReady), ("bm2", .bool m.authorization.bm2)])]

def Manifest.toJson (m : Manifest) : Json :=
  .obj (m.fields ++ ([("manifest_fingerprint", .str m.manifestFingerprint)] : Fields))

def openaiProviderId : PyStr := "openai"
def googleProviderId : PyStr := "google"

def maxPlannedAttempts : ℕ := 4
def maxInputTokensPerAttempt : ℤ := 8000
def maxOutputTokensPerAttempt : ℤ := 2000
def timeoutSeconds : ℤ := 120
def maxTotalSmokeSpendUsd : ℚ := 1 / 5
def maxProviderResponseBytes : ℕ := 4 * 1024 * 1024

/-- The frozen model, endpoint, adapter and omitted sampling parameters of a provider. -/
def expectedProvider (providerId : PyStr) : Option (PyStr × PyStr × PyStr × List PyStr) :=
  if providerId = openaiProviderId then
    some ("gpt-5.6-terra", "responses-api:/responses", "BM1-OPENAI-RESPONSES-V1",
      ["temperature", "top_p"])
  else if providerId = googleProviderId then
    some ("gemini-3.8-flash", "interactions-api:/v1beta/interactions", "BM1-GOOGLE-INTERACTIONS-V1",
      ["temperature", "top_p", "top_k"])
  else none

def runtimeExpected : RuntimeContract :=
  ⟨4, 0, 1, 8000, 2000, 120, 1 / 5, 2, 0, "DURABLE_BEFORE_PROVIDER_CALL"⟩

/-- Provider, case and variant of each planned attempt, in order. -/
def expectedAttempts : List (PyStr × PyStr × PyStr) := [
  (openaiProviderId, targetCaseId, "KNOWN_BAD"), (openaiProviderId, controlCaseId, "CONTROL"),
  (googleProviderId, targetCaseId, "KNOWN_BAD"), (googleProviderId, controlCaseId, "CONTROL")]

def approvedPaths : List PyStr := ["b2/bm1.py", "schemas/bm1_live_smoke_manifest.schema.json",
  "cases/b2/public-safe/benchmark/bm1-live-smoke-manifest.json", "tests/test_b2_bm1.py",
  "docs/b2/bm1-live-multi-model.md"]

/-- `_provider`: the first provider of that id. -/
def providerOf (m : Manifest) (providerId : PyStr) : Except PyExc Provider :=
  match m.providers.find? fun p => p.providerId = providerId with
  | some p => .ok p
  | none => .error (contractError "provider not in manifest")

def isLowerHex (c : ℕ) : Bool := isAsciiDigit c || (97 ≤ c && c ≤ 102)

/-- `_sha_ok`. -/
def shaOk (s : PyStr) : Bool :=
  (py "sha256:").isPrefixOf s && (s.drop 7).length == 64 && (s.drop 7).all isLowerHex

variable [PyRuntime]

/-- `_sha_text`. -/
def shaText (value : PyStr) : Except PyExc PyStr := do
  let bytes ← encode value
  return digestText bytes

/-- `_fingerprint_ok`, given the document without the fingerprint. -/
def fingerprintOk (fingerprint : PyStr) (candidate : Json) (field label : PyStr) : Except PyExc Unit := do
  check (shaOk fingerprint = true) (contractError (label ++ "." ++ field ++ " malformed"))
  let actual ← sha256Json candidate
  check (fingerprint = actual) (contractError (label ++ "." ++ field ++ " mismatch"))

def checkCaseRow (caseLookup : Option CaseLookup) (row : CaseRow) (expected : PyStr × PyStr) :
    Except PyExc Unit := do
  check (row.caseId = expected.1 ∧ row.variant = expected.2) (contractError "case order drift")
  match caseLookup with
  | none => return ()
  | some cases =>
    let case ← caseOf cases expected.1
    let caseFingerprint ← sha256Json case
    let prompt ← renderCasePrompt case
    let promptFingerprint ← shaText prompt
    let decision ← expectedDecisionForCase case
    check (row.caseFingerprint = caseFingerprint ∧ row.promptFingerprint = promptFingerprint ∧
      row.expectedDecision = decision) (contractError "case fingerprint/oracle drift")

def checkProvider (p : Provider) : Except PyExc Unit := do
  match expectedProvider p.providerId with
  | none => throw (contractError "provider roster drift")
  | some (model, endpoint, adapter, omitted) =>
    check (p.requestedModelId = model ∧ p.endpointId = endpoint ∧ p.adapterId = adapter ∧
        p.adapterVersion = py "v1" ∧
        p.identityPolicy = ⟨true, [model], "NOT_EVALUABLE"⟩ ∧ p.reasoningControl = ⟨"FIXED", "low"⟩)
      (contractError "provider identity/runtime drift")
    check (p.samplingControl.mode = py "PROVIDER_DEFAULT" ∧ p.samplingControl.omittedParameters = omitted ∧
        p.samplingControl.comparabilityLimit ≠ [])
      (contractError "sampling drift")
    check (p.pricing.currency = py "USD" ∧ p.pricing.unit = py "PER_1M_TOKENS")
      (contractError "pricing contract malformed")

/-- The attempts of the plan against the frozen matrix, with the ids seen so far. -/
def checkAttempts (m : Manifest) :
    ℤ → List PyStr → List Attempt → List (PyStr × PyStr × PyStr) → Except PyExc Unit
  | sequence, seen, attempt :: attempts, expected :: rest => do
    check (attempt.sequence = sequence ∧
        (attempt.providerId, attempt.caseId, attempt.variant) = expected ∧
        attempt.attemptId ≠ [] ∧ attempt.attemptId ∉ seen ∧ attempt.trialId ≠ [] ∧
        attempt.replicateIndex = 0)
      (contractError "attempt matrix/identity drift")
    let provider ← providerOf m attempt.providerId
    check (attempt.requestedModelId = provider.requestedModelId)
      (contractError "attempt matrix/identity drift")
    checkAttempts m (sequence + 1) (attempt.attemptId :: seen) attempts rest
  | _, _, _, _ => .ok ()

def validateManifest (m : Manifest) (caseLookup : Option CaseLookup) : Except PyExc Manifest := do
  check (m.schemaVersion = py "b2-bm1-live-smoke-manifest/v1" ∧ m.workOrderId = py "WO-B2-BM1" ∧
      m.workOrderRevision = py "v0.1" ∧ m.bm0ContractVersion = py "v0.2")
    (contractError "manifest authority/version drift")
  check (m.implementationBaseline = ⟨"74304a23d7e542b28dcd519f9b58d394447fc696",
      "84f5bc1a56f8c93c92717cf928dc928a63ab118f"⟩)
    (contractError "implementation baseline drift")
  let binding := m.caseBinding
  let wrapper ← wrapperFingerprint
  let scorer ← scorerFingerprint
  let oracle ← oracleFingerprint
  check (binding.entryId = entryId ∧ binding.targetId = py "BM0-TUT-E11-QA2-CONSTRAINT-ACTION-PERSISTENCE" ∧
      binding.targetClass = py "MODEL_DIRECT" ∧ binding.familyId = familyId ∧
      binding.fixturePath = py "cases/b2/public-safe/robustness/qa2-robustness-fixtures.json" ∧
      binding.seedLineage = seedLineage ∧ binding.wrapperId = wrapperId ∧
      binding.wrapperFingerprint = wrapper ∧ binding.scorerId = scorerId ∧
      binding.scorerFingerprint = scorer ∧ binding.oracleId = oracleId ∧
      binding.oracleFingerprint = oracle)
    (contractError "case binding drift")
  check ((BM0.targetLineageByEntry entryId).any fun lineage =>
      lineage.targetId = py "BM0-TUT-E11-QA2-CONSTRAINT-ACTION-PERSISTENCE" ∧ lineage.familyId = familyId)
    (contractError "BM0 lineage drift")
  check (binding.cases.length = 2) (contractError "TARGET+CONTROL required")
  (binding.cases.zip [(targetCaseId, py "KNOWN_BAD"), (controlCaseId, py "CONTROL")]).forM
    fun row => checkCaseRow caseLookup row.1 row.2
  check (m.providers.length = 2) (contractError "two-provider roster required")
  check ((∀ p ∈ m.providers, p.providerId = openaiProviderId ∨ p.providerId = googleProviderId) ∧
      (∃ p ∈ m.providers, p.providerId = openaiProviderId) ∧
      ∃ p ∈ m.providers, p.providerId = googleProviderId)
    (contractError "provider roster drift")
  m.providers.forM checkProvider
  check (m.runtimeContract = runtimeExpected) (contractError "runtime contract drift")
  check (m.attemptPlan.length = 4) (contractError "exact four attempts required")
  checkAttempts m 1 [] m.attemptPlan expectedAttempts
  check (m.publicPrivateBoundary = ⟨"FINGERPRINTS_AND_TYPED_METADATA_ONLY", "REQUIRED_FOR_CALLED_ATTEMPT",
      false, false, false, false⟩)
    (contractError "public/private boundary drift")
  check (m.implementationScope = ⟨approvedPaths, true⟩) (contractError "changed-path envelope drift")
  check (m.authorization = ⟨true, false, false, false, false, false, false, false⟩)
    (contractError "P2 authorization drift")
  fingerprintOk m.manifestFingerprint (.obj m.fields) "manifest_fingerprint" "manifest"
  assertPublicSafe m.toJson
  return m

end EvaluationLab.BM1
