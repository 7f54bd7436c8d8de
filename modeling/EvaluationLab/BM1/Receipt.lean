import EvaluationLab.BM1.Authorization
import EvaluationLab.BM1.Response

/-! Private evidence, its public projection and the attempt receipt. -/
namespace EvaluationLab.BM1
open Python Effect QA0

/-- What a sink keeps of a called attempt. -/
structure PrivateRecord where
  requestBody : Json
  rawResponse : Option Fields
  finalText : Option PyStr
  errorClass : Option PyStr

def PrivateRecord.toJson (r : PrivateRecord) : Json := .obj [
  ("request_body", r.requestBody),
  ("raw_response", match r.rawResponse with
    | none => .null
    | some raw => .obj raw),
  ("final_text", optionalStr r.finalText), ("error_class", optionalStr r.errorClass)]

structure Evidence where
  attemptId : PyStr
  requestFingerprint : PyStr
  requestBytes : ℕ
  responseFingerprint : Option PyStr
  responseBytes : ℕ
  finalContentFingerprint : Option PyStr
  finalContentBytes : ℕ
  errorClass : Option PyStr
  durability : PyStr
  destinationId : Option PyStr
  destinationFingerprint : Option PyStr
  storageAuthorityFingerprint : Option PyStr

def Evidence.toJson (e : Evidence) : Json := .obj [
  ("schema_version", .str "b2-bm1-raw-evidence-receipt/v3"), ("attempt_id", .str e.attemptId),
  ("request_fingerprint", .str e.requestFingerprint), ("request_bytes", .int e.requestBytes),
  ("response_fingerprint", optionalStr e.responseFingerprint), ("response_bytes", .int e.responseBytes),
  ("final_content_fingerprint", optionalStr e.finalContentFingerprint),
  ("final_content_bytes", .int e.finalContentBytes), ("error_class", optionalStr e.errorClass),
  ("durability", .str e.durability), ("destination_id", optionalStr e.destinationId),
  ("destination_fingerprint", optionalStr e.destinationFingerprint),
  ("storage_authority_fingerprint", optionalStr e.storageAuthorityFingerprint)]

/-- Where a sink keeps its records, as its evidence names it. -/
structure Destination where
  durability : PyStr
  destinationId : Option PyStr
  destinationFingerprint : Option PyStr
  storageAuthorityFingerprint : Option PyStr

structure Usage where
  inputTokens : Option ℤ
  outputTokens : Option ℤ
  totalTokens : Option ℤ

structure Cost where
  amount : Option ℚ
  pricingFingerprint : PyStr

structure ReceiptRow where
  manifestId : PyStr
  manifestFingerprint : PyStr
  attemptId : PyStr
  trialId : PyStr
  providerId : PyStr
  endpointId : PyStr
  requestedModelId : PyStr
  resolvedModelOrVersionId : Option PyStr
  identityCertainty : IdentityCertainty
  providerResponseId : Option PyStr
  adapterId : PyStr
  adapterVersion : PyStr
  wrapperFingerprint : PyStr
  runtimeControlsFingerprint : PyStr
  caseId : PyStr
  variant : PyStr
  caseFingerprint : PyStr
  promptFingerprint : PyStr
  requestFingerprint : PyStr
  requestBytes : ℕ
  attemptClaimFingerprint : Option PyStr
  startedAt : ℤ
  completedAt : ℤ
  latencyMs : ℚ
  providerTerminalStatus : ProviderTerminal
  providerHttpStatus : Option ℤ
  terminalStatus : Terminal
  terminalReason : Reason
  errorClass : Option PyStr
  rawResponseFingerprint : Option PyStr
  rawResponseBytes : ℕ
  finalContentPresent : Bool
  finalContentFingerprint : Option PyStr
  finalContentBytes : ℕ
  finishReason : Option PyStr
  usage : Usage
  cost : Cost
  scorerFingerprint : PyStr
  oracleFingerprint : PyStr
  scorerStatus : Option ScorerStatus
  modelFailureValue : Option ℤ
  hardInvariantPass : Option Bool
  evidenceReceiptFingerprint : Option PyStr
  evidenceDurability : Option PyStr
  evidenceDestinationFingerprint : Option PyStr
  evidenceStorageAuthorityFingerprint : Option PyStr
  replayAvailable : Bool

structure Receipt extends ReceiptRow where
  receiptFingerprint : PyStr

def optionalNumber : Option ℤ → Json
  | none => .null
  | some n => .int n

def optionalBool : Option Bool → Json
  | none => .null
  | some b => .bool b

def attribution (available : Bool) : Json :=
  .str (if available then "ATTRIBUTABLE" else "UNAVAILABLE")

def Usage.toJson (u : Usage) : Json := .obj [
  ("attribution_status", attribution (u.inputTokens.isSome && u.outputTokens.isSome)),
  ("input_tokens", optionalNumber u.inputTokens), ("output_tokens", optionalNumber u.outputTokens),
  ("total_tokens", optionalNumber u.totalTokens)]

def Cost.toJson (c : Cost) : Json := .obj [
  ("attribution_status", attribution c.amount.isSome),
  ("currency", match c.amount with
    | none => .null
    | some _ => .str "USD"),
  ("amount", match c.amount with
    | none => .null
    | some amount => usd amount),
  ("pricing_fingerprint", .str c.pricingFingerprint)]

/-- What `_receipt` is called with. -/
structure ReceiptInput where
  manifest : Manifest
  attempt : Attempt
  provider : Provider
  case : Json
  requestBody : Json
  normalized : Option NormalizedProviderResponse
  evidence : Option Evidence
  claim : Option Claim
  scorer : Option Score
  started : ℤ
  completed : ℤ
  terminal : Terminal
  reason : Reason
  providerTerminal : ProviderTerminal
  errorClass : Option PyStr

/-- The digests and amounts a receipt computes from its input. -/
structure ReceiptDigests where
  cost : Option ℚ
  wrapper : PyStr
  runtimeControls : PyStr
  case : PyStr
  prompt : PyStr
  request : PyStr
  requestBytes : ℕ
  finalContent : Option PyStr
  finalContentBytes : ℕ
  pricing : PyStr
  scorer : PyStr
  oracle : PyStr
  evidence : Option PyStr

variable [PyRuntime]

/-- The members of a row that say what was attempted. -/
def ReceiptRow.attemptFields (r : ReceiptRow) : Fields := [
  ("schema_version", .str "b2-bm1-attempt-receipt/v1"),
  ("manifest_id", .str r.manifestId), ("manifest_fingerprint", .str r.manifestFingerprint),
  ("attempt_id", .str r.attemptId), ("trial_id", .str r.trialId),
  ("provider_id", .str r.providerId), ("endpoint_id", .str r.endpointId),
  ("requested_model_id", .str r.requestedModelId),
  ("resolved_model_or_version_id", optionalStr r.resolvedModelOrVersionId),
  ("identity_certainty", .str r.identityCertainty.text),
  ("identity_limitation", .str r.identityCertainty.limitation),
  ("provider_response_id", optionalStr r.providerResponseId),
  ("adapter_id", .str r.adapterId), ("adapter_version", .str r.adapterVersion),
  ("wrapper_id", .str wrapperId), ("wrapper_fingerprint", .str r.wrapperFingerprint),
  ("runtime_controls_fingerprint", .str r.runtimeControlsFingerprint),
  ("entry_id", .str entryId), ("family_id", .str familyId),
  ("case_id", .str r.caseId), ("variant", .str r.variant),
  ("case_fingerprint", .str r.caseFingerprint), ("prompt_fingerprint", .str r.promptFingerprint),
  ("request_fingerprint", .str r.requestFingerprint), ("request_bytes", .int r.requestBytes),
  ("attempt_claim_fingerprint", optionalStr r.attemptClaimFingerprint),
  ("started_at", .str (PyRuntime.isoformat r.startedAt)),
  ("completed_at", .str (PyRuntime.isoformat r.completedAt)),
  ("latency_ms", .float (.finite r.latencyMs))]

/-- The members of a row that say how it ended. -/
def ReceiptRow.outcomeFields (r : ReceiptRow) : Fields := [
  ("provider_terminal_status", .str r.providerTerminalStatus.text),
  ("provider_http_status", optionalNumber r.providerHttpStatus),
  ("terminal_status", .str r.terminalStatus.text), ("terminal_reason", .str r.terminalReason.text),
  ("error_class", optionalStr r.errorClass),
  ("raw_response_fingerprint", optionalStr r.rawResponseFingerprint),
  ("raw_response_bytes", .int r.rawResponseBytes),
  ("final_content_present", .bool r.finalContentPresent),
  ("final_content_fingerprint", optionalStr r.finalContentFingerprint),
  ("final_content_bytes", .int r.finalContentBytes),
  ("finish_reason", optionalStr r.finishReason),
  ("usage", r.usage.toJson), ("cost", r.cost.toJson),
  ("scorer_id", .str scorerId), ("scorer_fingerprint", .str r.scorerFingerprint),
  ("oracle_id", .str oracleId), ("oracle_fingerprint", .str r.oracleFingerprint),
  ("scorer_status", optionalStr (r.scorerStatus.map ScorerStatus.text)),
  ("model_failure_value", optionalNumber r.modelFailureValue),
  ("hard_invariant_pass", optionalBool r.hardInvariantPass),
  ("evidence_receipt_fingerprint", optionalStr r.evidenceReceiptFingerprint),
  ("evidence_durability", optionalStr r.evidenceDurability),
  ("evidence_destination_fingerprint", optionalStr r.evidenceDestinationFingerprint),
  ("evidence_storage_authority_fingerprint", optionalStr r.evidenceStorageAuthorityFingerprint),
  ("replay_available", .bool r.replayAvailable)]

def ReceiptRow.toJson (r : ReceiptRow) : Json := .obj (r.attemptFields ++ r.outcomeFields)

/-- The digest and the encoded length of a text, absent for no text and for empty text. -/
def contentDigest (text : Option PyStr) : Except PyExc (Option PyStr × ℕ) :=
  match text with
  | none => .ok (none, 0)
  | some t =>
    if t = [] then .ok (none, 0)
    else do
      let bytes ← encode t
      return (some (digestText bytes), pyLen bytes)

/-- The digest of an optional document. -/
def optionalDigest (document : Option Json) : Except PyExc (Option PyStr) :=
  match document with
  | none => .ok none
  | some value => do
    let digest ← sha256Json value
    return some digest

/-- The encoded length of a document's canonical text. -/
def jsonBytes (value : Json) : Except PyExc ℕ := do
  let text ← canonicalJson value
  let bytes ← encode text
  return pyLen bytes

/-- The encoded length of a response, zero for none. -/
def responseBytesOf (response : Option Fields) : Except PyExc ℕ :=
  match response with
  | none => .ok 0
  | some raw => jsonBytes (.obj raw)

/-- `_evidence_receipt`. -/
def evidenceReceipt (attemptId : PyStr) (record : PrivateRecord) (d : Destination) :
    Except PyExc Evidence := do
  let requestFingerprint ← sha256Json record.requestBody
  let requestBytes ← jsonBytes record.requestBody
  let responseFingerprint ← optionalDigest (record.rawResponse.map Json.obj)
  let responseBytes ← responseBytesOf record.rawResponse
  let finalContent ← contentDigest record.finalText
  let evidence : Evidence := {
    attemptId, requestFingerprint, requestBytes, responseFingerprint, responseBytes
    finalContentFingerprint := finalContent.1
    finalContentBytes := finalContent.2
    errorClass := record.errorClass
    durability := d.durability
    destinationId := d.destinationId
    destinationFingerprint := d.destinationFingerprint
    storageAuthorityFingerprint := d.storageAuthorityFingerprint }
  assertPublicSafe evidence.toJson
  return evidence

/-- The attributed cost of a receipt: none when usage is missing or breaks the token guard. -/
def receiptCost (p : Provider) (normalized : Option NormalizedProviderResponse) : Option ℚ :=
  match normalized with
  | none => none
  | some n =>
    match cost p n.inputTokens n.outputTokens with
    | .ok amount => amount
    | .error _ => none

def receiptDigests (x : ReceiptInput) : Except PyExc ReceiptDigests := do
  let wrapper ← wrapperFingerprint
  let runtimeControls ← sha256Json (.obj [
    ("reasoning_control", x.provider.reasoningControl.toJson),
    ("sampling_control", x.provider.samplingControl.toJson),
    ("runtime_contract", x.manifest.runtimeContract.toJson)])
  let case ← sha256Json x.case
  let promptText ← renderCasePrompt x.case
  let prompt ← shaText promptText
  let request ← sha256Json x.requestBody
  let requestBytes ← jsonBytes x.requestBody
  let finalContent ← contentDigest (x.normalized.bind (·.finalText))
  let pricing ← sha256Json x.provider.pricing.toJson
  let scorer ← scorerFingerprint
  let oracle ← oracleFingerprint
  let evidence ← optionalDigest (x.evidence.map Evidence.toJson)
  return {
    cost := receiptCost x.provider x.normalized
    wrapper, runtimeControls, case, prompt, request, requestBytes
    finalContent := finalContent.1
    finalContentBytes := finalContent.2
    pricing, scorer, oracle, evidence }

def receiptRow (x : ReceiptInput) (d : ReceiptDigests) : ReceiptRow :=
  let resolved := x.normalized.bind (·.resolvedModelId)
  let inputTokens := x.normalized.bind (·.inputTokens)
  let outputTokens := x.normalized.bind (·.outputTokens)
  let final := x.normalized.bind (·.finalText)
  { manifestId := x.manifest.manifestId
    manifestFingerprint := x.manifest.manifestFingerprint
    attemptId := x.attempt.attemptId
    trialId := x.attempt.trialId
    providerId := x.provider.providerId
    endpointId := x.provider.endpointId
    requestedModelId := x.provider.requestedModelId
    resolvedModelOrVersionId := resolved
    identityCertainty := identity x.provider resolved
    providerResponseId := x.normalized.bind (·.providerResponseId)
    adapterId := x.provider.adapterId
    adapterVersion := x.provider.adapterVersion
    wrapperFingerprint := d.wrapper
    runtimeControlsFingerprint := d.runtimeControls
    caseId := x.attempt.caseId
    variant := x.attempt.variant
    caseFingerprint := d.case
    promptFingerprint := d.prompt
    requestFingerprint := d.request
    requestBytes := d.requestBytes
    attemptClaimFingerprint := x.claim.map (·.claimFingerprint)
    startedAt := x.started
    completedAt := x.completed
    latencyMs := max 0 ((x.completed - x.started : ℤ) / 1000)
    providerTerminalStatus := x.providerTerminal
    providerHttpStatus := x.normalized.bind (·.httpStatus)
    terminalStatus := x.terminal
    terminalReason := x.reason
    errorClass := x.errorClass
    rawResponseFingerprint := x.evidence.bind (·.responseFingerprint)
    rawResponseBytes := (x.evidence.map (·.responseBytes)).getD 0
    finalContentPresent := final.any fun text => !(strip text).isEmpty
    finalContentFingerprint := d.finalContent
    finalContentBytes := d.finalContentBytes
    finishReason := x.normalized.bind (·.finishReason)
    usage := ⟨inputTokens, outputTokens, do return (← inputTokens) + (← outputTokens)⟩
    cost := ⟨d.cost, d.pricing⟩
    scorerFingerprint := d.scorer
    oracleFingerprint := d.oracle
    scorerStatus := x.scorer.map (·.scorerStatus)
    modelFailureValue := x.scorer.bind (·.modelFailureValue)
    hardInvariantPass := x.scorer.bind (·.hardInvariantPass)
    evidenceReceiptFingerprint := d.evidence
    evidenceDurability := x.evidence.map (·.durability)
    evidenceDestinationFingerprint := x.evidence.bind (·.destinationFingerprint)
    evidenceStorageAuthorityFingerprint := x.evidence.bind (·.storageAuthorityFingerprint)
    replayAvailable := x.evidence.isSome && final.isSome }

/-- `_receipt`. -/
def receipt (x : ReceiptInput) : Except PyExc Receipt := do
  let digests ← receiptDigests x
  let row := receiptRow x digests
  assertPublicSafe row.toJson
  let receiptFingerprint ← sha256Json row.toJson
  return { row with receiptFingerprint }

end EvaluationLab.BM1
