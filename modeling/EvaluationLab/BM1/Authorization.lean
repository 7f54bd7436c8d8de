import EvaluationLab.BM1.ManifestFacts

/-! The RUN-READY receipt, the live authorization and the attempt claim bound to them. -/
namespace EvaluationLab.BM1
open Python Effect QA0

structure StorageBinding where
  identifier : PyStr
  storageKind : PyStr
  labelFingerprint : PyStr
  storageAuthorityFingerprint : PyStr

structure RuntimeLimits where
  maximumProviderRequests : ℤ
  maximumTotalSpendUsd : ℚ
  automaticRetries : ℤ
  timeoutSeconds : ℤ
  maxInputTokensPerAttempt : ℤ
  maxOutputTokensPerAttempt : ℤ
  deriving DecidableEq

structure RunReady where
  schemaVersion : PyStr
  runReadyId : PyStr
  manifestFingerprint : PyStr
  executionCommitSha : PyStr
  executionTreeSha : PyStr
  providerAuthorityFingerprint : PyStr
  credentialDecisionFingerprint : PyStr
  rawBundleDestination : StorageBinding
  attemptClaimStore : StorageBinding
  authorizedAttemptIds : List PyStr
  runtimeLimits : RuntimeLimits
  issuedAt : PyStr
  receiptFingerprint : PyStr

structure LiveAuthorization where
  schemaVersion : PyStr
  authorizationId : PyStr
  manifestFingerprint : PyStr
  executionCommitSha : PyStr
  executionTreeSha : PyStr
  runReadyReceiptFingerprint : PyStr
  userAuthorizationFingerprint : PyStr
  rawBundleDestinationFingerprint : PyStr
  rawStorageAuthorityFingerprint : PyStr
  attemptClaimStoreFingerprint : PyStr
  claimStorageAuthorityFingerprint : PyStr
  authorizedAttemptIds : List PyStr
  maximumProviderRequests : ℤ
  maximumTotalSpendUsd : ℚ
  automaticRetries : ℤ
  issuedAt : PyStr
  expiresAt : PyStr
  receiptFingerprint : PyStr

def rawBundleStorageKind : PyStr := "DURABLE_PRIVATE_REPLAY_BUNDLE"
def claimStoreStorageKind : PyStr := "DURABLE_PRIVATE_ATTEMPT_CLAIMS"

def StorageBinding.toJson (b : StorageBinding) (idKey : PyStr) : Json := .obj [
  (idKey, .str b.identifier), ("storage_kind", .str b.storageKind),
  ("label_fingerprint", .str b.labelFingerprint),
  ("storage_authority_fingerprint", .str b.storageAuthorityFingerprint)]

def RunReady.fields (r : RunReady) : Fields := [
  ("schema_version", .str r.schemaVersion), ("run_ready_id", .str r.runReadyId),
  ("manifest_fingerprint", .str r.manifestFingerprint),
  ("execution_commit_sha", .str r.executionCommitSha), ("execution_tree_sha", .str r.executionTreeSha),
  ("provider_authority_fingerprint", .str r.providerAuthorityFingerprint),
  ("credential_decision_fingerprint", .str r.credentialDecisionFingerprint),
  ("raw_bundle_destination", r.rawBundleDestination.toJson "destination_id"),
  ("attempt_claim_store", r.attemptClaimStore.toJson "store_id"),
  ("authorized_attempt_ids", strings r.authorizedAttemptIds),
  ("runtime_limits", .obj [
    ("maximum_provider_requests", .int r.runtimeLimits.maximumProviderRequests),
    ("maximum_total_spend_usd", usd r.runtimeLimits.maximumTotalSpendUsd),
    ("automatic_retries", .int r.runtimeLimits.automaticRetries),
    ("timeout_seconds", .int r.runtimeLimits.timeoutSeconds),
    ("max_input_tokens_per_attempt", .int r.runtimeLimits.maxInputTokensPerAttempt),
    ("max_output_tokens_per_attempt", .int r.runtimeLimits.maxOutputTokensPerAttempt)]),
  ("issued_at", .str r.issuedAt)]

def LiveAuthorization.fields (a : LiveAuthorization) : Fields := [
  ("schema_version", .str a.schemaVersion), ("authorization_id", .str a.authorizationId),
  ("manifest_fingerprint", .str a.manifestFingerprint),
  ("execution_commit_sha", .str a.executionCommitSha), ("execution_tree_sha", .str a.executionTreeSha),
  ("run_ready_receipt_fingerprint", .str a.runReadyReceiptFingerprint),
  ("user_authorization_fingerprint", .str a.userAuthorizationFingerprint),
  ("raw_bundle_destination_fingerprint", .str a.rawBundleDestinationFingerprint),
  ("raw_storage_authority_fingerprint", .str a.rawStorageAuthorityFingerprint),
  ("attempt_claim_store_fingerprint", .str a.attemptClaimStoreFingerprint),
  ("claim_storage_authority_fingerprint", .str a.claimStorageAuthorityFingerprint),
  ("authorized_attempt_ids", strings a.authorizedAttemptIds),
  ("maximum_provider_requests", .int a.maximumProviderRequests),
  ("maximum_total_spend_usd", usd a.maximumTotalSpendUsd),
  ("automatic_retries", .int a.automaticRetries),
  ("issued_at", .str a.issuedAt), ("expires_at", .str a.expiresAt)]

/-- A document with its own fingerprint as the last member. -/
def sealed (fields : Fields) (fingerprint : PyStr) : Json :=
  .obj (fields ++ ([("receipt_fingerprint", .str fingerprint)] : Fields))

/-- `_opaque_id`. -/
def opaqueId (value label : PyStr) : Except PyExc PyStr := do
  check (value ≠ [] ∧ contains "/" value = false ∧ contains "\\" value = false)
    (authorizationError (label ++ " must be opaque/non-path"))
  return value

def hex40 (s : PyStr) : Bool := s.length == 40 && s.all isLowerHex

variable [PyRuntime]

def buildRawDestinationFingerprint (destinationId : PyStr) : Except PyExc PyStr := do
  let destinationId ← opaqueId destinationId "raw destination id"
  sha256Json (.obj [("destination_id", .str destinationId), ("storage_kind", .str rawBundleStorageKind)])

def buildClaimStoreFingerprint (storeId : PyStr) : Except PyExc PyStr := do
  let storeId ← opaqueId storeId "claim store id"
  sha256Json (.obj [("store_id", .str storeId), ("storage_kind", .str claimStoreStorageKind)])

/-- `_parse_time`. -/
def parseTime (value : PyStr) : Except PyExc ℤ :=
  let iso := if value.getLast? = some 90 then value.dropLast ++ py "+00:00" else value
  match PyRuntime.fromisoformat iso with
  | .malformed => .error (authorizationError "authorization timestamp malformed")
  | .naive => .error (authorizationError "authorization timezone missing")
  | .aware t => .ok t

/-- `_validate_storage_binding`. -/
def validateStorageBinding (b : StorageBinding) (kind label : PyStr) : Except PyExc Unit := do
  check (b.storageKind = kind) (authorizationError (label ++ " schema/storage kind mismatch"))
  let identifier ← opaqueId b.identifier (label ++ " id")
  let expectedLabel ←
    if kind = rawBundleStorageKind then buildRawDestinationFingerprint identifier
    else buildClaimStoreFingerprint identifier
  check (b.labelFingerprint = expectedLabel ∧ shaOk b.storageAuthorityFingerprint = true)
    (authorizationError (label ++ " fingerprint malformed"))

/-- A broken fingerprint of a live document is an authorization failure; a document that
cannot be fingerprinted at all keeps its own error. -/
def authorityFingerprintOk (fingerprint : PyStr) (candidate : Json) (label : PyStr) : Except PyExc Unit :=
  match fingerprintOk fingerprint candidate "receipt_fingerprint" label with
  | .ok () => .ok ()
  | .error e => .error (if e.isA "BM1ContractError" then authorizationError e.message else e)

def validateRunReadyReceipt (doc : RunReady) (m : Manifest) (commitSha treeSha : PyStr) :
    Except PyExc RunReady := do
  let checked ← validateManifest m none
  check (doc.schemaVersion = py "b2-bm1-run-ready/v2") (authorizationError "RUN-READY schema/keys drift")
  check (doc.manifestFingerprint = checked.manifestFingerprint ∧ doc.executionCommitSha = commitSha ∧
      doc.executionTreeSha = treeSha)
    (authorizationError "RUN-READY manifest/head/tree mismatch")
  check (hex40 commitSha = true ∧ hex40 treeSha = true ∧ shaOk doc.providerAuthorityFingerprint = true ∧
      shaOk doc.credentialDecisionFingerprint = true)
    (authorizationError "RUN-READY Authority binding malformed")
  validateStorageBinding doc.rawBundleDestination rawBundleStorageKind "raw_bundle_destination"
  validateStorageBinding doc.attemptClaimStore claimStoreStorageKind "attempt_claim_store"
  check (doc.authorizedAttemptIds = checked.attemptPlan.map Attempt.attemptId)
    (authorizationError "RUN-READY attempts drift")
  check (doc.runtimeLimits = ⟨4, 1 / 5, 0, 120, 8000, 2000⟩) (authorizationError "RUN-READY limits drift")
  let _ ← parseTime doc.issuedAt
  authorityFingerprintOk doc.receiptFingerprint (.obj doc.fields) "run_ready"
  assertPublicSafe (sealed doc.fields doc.receiptFingerprint)
  return doc

/-- The checks of `validate_live_authorization` that come before the external verifier is asked. -/
def checkLiveAuthorization (doc : LiveAuthorization) (m : Manifest) (commitSha treeSha : PyStr)
    (runReadyReceipt : RunReady) (now : ℤ) : Except PyExc RunReady := do
  let checked ← validateManifest m none
  let runReady ← validateRunReadyReceipt runReadyReceipt checked commitSha treeSha
  check (doc.schemaVersion = py "b2-bm1-live-authorization/v3")
    (authorizationError "live authorization schema/keys drift")
  check (doc.manifestFingerprint = checked.manifestFingerprint ∧ doc.executionCommitSha = commitSha ∧
      doc.executionTreeSha = treeSha)
    (authorizationError "live manifest/head/tree mismatch")
  let raw := runReady.rawBundleDestination
  let claims := runReady.attemptClaimStore
  check (doc.runReadyReceiptFingerprint = runReady.receiptFingerprint ∧
      shaOk doc.userAuthorizationFingerprint = true ∧
      doc.rawBundleDestinationFingerprint = raw.labelFingerprint ∧
      doc.rawStorageAuthorityFingerprint = raw.storageAuthorityFingerprint ∧
      doc.attemptClaimStoreFingerprint = claims.labelFingerprint ∧
      doc.claimStorageAuthorityFingerprint = claims.storageAuthorityFingerprint)
    (authorizationError "live trusted provenance/storage mismatch")
  check (doc.authorizedAttemptIds = checked.attemptPlan.map Attempt.attemptId)
    (authorizationError "live attempts drift")
  check (doc.maximumProviderRequests = 4 ∧ doc.maximumTotalSpendUsd = 1 / 5 ∧ doc.automaticRetries = 0)
    (authorizationError "live limits drift")
  let issued ← parseTime doc.issuedAt
  let expires ← parseTime doc.expiresAt
  check (issued < expires ∧ issued ≤ now ∧ now ≤ expires)
    (authorizationError "live authorization inactive/expired")
  authorityFingerprintOk doc.receiptFingerprint (.obj doc.fields) "live_authorization"
  return runReady

/-- What a claim says about the attempt it admits. -/
structure Claim where
  manifestFingerprint : PyStr
  liveAuthorizationFingerprint : Option PyStr
  runReadyReceiptFingerprint : Option PyStr
  userAuthorizationFingerprint : Option PyStr
  rawBundleDestinationFingerprint : Option PyStr
  rawStorageAuthorityFingerprint : Option PyStr
  attemptClaimStoreFingerprint : Option PyStr
  claimStorageAuthorityFingerprint : Option PyStr
  authorizationId : Option PyStr
  executionCommitSha : Option PyStr
  executionTreeSha : Option PyStr
  attemptId : PyStr
  trialId : PyStr
  sequence : ℤ
  providerId : PyStr
  requestedModelId : PyStr
  caseId : PyStr
  variant : PyStr
  requestFingerprint : Option PyStr
  claimFingerprint : PyStr
  deriving DecidableEq

def Claim.fields (c : Claim) : Fields := [
  ("schema_version", .str "b2-bm1-attempt-claim/v3"),
  ("manifest_fingerprint", .str c.manifestFingerprint),
  ("live_authorization_fingerprint", optionalStr c.liveAuthorizationFingerprint),
  ("run_ready_receipt_fingerprint", optionalStr c.runReadyReceiptFingerprint),
  ("user_authorization_fingerprint", optionalStr c.userAuthorizationFingerprint),
  ("raw_bundle_destination_fingerprint", optionalStr c.rawBundleDestinationFingerprint),
  ("raw_storage_authority_fingerprint", optionalStr c.rawStorageAuthorityFingerprint),
  ("attempt_claim_store_fingerprint", optionalStr c.attemptClaimStoreFingerprint),
  ("claim_storage_authority_fingerprint", optionalStr c.claimStorageAuthorityFingerprint),
  ("authorization_id", optionalStr c.authorizationId),
  ("execution_commit_sha", optionalStr c.executionCommitSha),
  ("execution_tree_sha", optionalStr c.executionTreeSha),
  ("attempt_id", .str c.attemptId), ("trial_id", .str c.trialId), ("sequence", .int c.sequence),
  ("provider_id", .str c.providerId), ("requested_model_id", .str c.requestedModelId),
  ("case_id", .str c.caseId), ("variant", .str c.variant),
  ("request_fingerprint", optionalStr c.requestFingerprint)]

/-- `build_attempt_claim` for a request body. -/
def buildAttemptClaim (m : Manifest) (attempt : Attempt) (auth : Option LiveAuthorization)
    (requestBody : Json) : Except PyExc Claim := do
  let requestFingerprint ← sha256Json requestBody
  let claim : Claim := {
    manifestFingerprint := m.manifestFingerprint
    liveAuthorizationFingerprint := auth.map (·.receiptFingerprint)
    runReadyReceiptFingerprint := auth.map (·.runReadyReceiptFingerprint)
    userAuthorizationFingerprint := auth.map (·.userAuthorizationFingerprint)
    rawBundleDestinationFingerprint := auth.map (·.rawBundleDestinationFingerprint)
    rawStorageAuthorityFingerprint := auth.map (·.rawStorageAuthorityFingerprint)
    attemptClaimStoreFingerprint := auth.map (·.attemptClaimStoreFingerprint)
    claimStorageAuthorityFingerprint := auth.map (·.claimStorageAuthorityFingerprint)
    authorizationId := auth.map (·.authorizationId)
    executionCommitSha := auth.map (·.executionCommitSha)
    executionTreeSha := auth.map (·.executionTreeSha)
    attemptId := attempt.attemptId
    trialId := attempt.trialId
    sequence := attempt.sequence
    providerId := attempt.providerId
    requestedModelId := attempt.requestedModelId
    caseId := attempt.caseId
    variant := attempt.variant
    requestFingerprint := some requestFingerprint
    claimFingerprint := [] }
  assertPublicSafe (.obj claim.fields)
  let claimFingerprint ← sha256Json (.obj claim.fields)
  return { claim with claimFingerprint }

/-- A claim names its attempt and the request it admits, and its fingerprint is its own. -/
theorem buildAttemptClaim_ok {m : Manifest} {attempt : Attempt} {auth : Option LiveAuthorization}
    {body : Json} {claim : Claim} (h : buildAttemptClaim m attempt auth body = .ok claim) :
    claim.attemptId = attempt.attemptId ∧
      (∃ d, sha256Json body = .ok d ∧ claim.requestFingerprint = some d) ∧
      sha256Json (.obj claim.fields) = .ok claim.claimFingerprint := by
  simp only [buildAttemptClaim, bind_eq_ok_iff, exists_unit_iff, pure_eq_ok_iff] at h
  obtain ⟨d, hd, -, fp, hfp, rfl⟩ := h
  exact ⟨rfl, ⟨d, hd, rfl⟩, hfp⟩

end EvaluationLab.BM1
