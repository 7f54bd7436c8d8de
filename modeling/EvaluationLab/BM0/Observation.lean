import EvaluationLab.BM0.Trial

/-! What is recorded of an executed attempt, and its validation. -/
namespace EvaluationLab.BM0
open Python Effect QA0

inductive Terminal where
  | pass | fail | unknown | notEvaluable | blocked | error
  deriving DecidableEq

def Terminal.text : Terminal → PyStr
  | pass => "PASS"
  | fail => "FAIL"
  | unknown => "UNKNOWN"
  | notEvaluable => "NOT_EVALUABLE"
  | blocked => "BLOCKED"
  | error => "ERROR"

/-- `TERMINAL_STATUSES`. -/
def terminalStatuses : List Terminal := [.pass, .fail, .unknown, .notEvaluable, .blocked, .error]

/-- `MODEL_SCORABLE_TERMINALS`. -/
def modelScorableTerminals : List Terminal := [.pass, .fail]

/-- `NON_MODEL_SCORABLE_TERMINALS`. -/
def nonModelScorableTerminals : List Terminal := [.notEvaluable, .blocked, .error]

/-- `NON_DEFINITIVE_TERMINALS`. -/
def nonDefinitiveTerminals : List Terminal := nonModelScorableTerminals ++ [.unknown]

inductive UnknownDisposition where
  | correctAbstention | correctUnknownPreservation | unjustifiedUnknown | unresolvedScorerEvidence
  | unresolvedAdjudicationEvidence
  deriving DecidableEq

def UnknownDisposition.text : UnknownDisposition → PyStr
  | correctAbstention => "CORRECT_ABSTENTION"
  | correctUnknownPreservation => "CORRECT_UNKNOWN_PRESERVATION"
  | unjustifiedUnknown => "UNJUSTIFIED_UNKNOWN"
  | unresolvedScorerEvidence => "UNRESOLVED_SCORER_EVIDENCE"
  | unresolvedAdjudicationEvidence => "UNRESOLVED_ADJUDICATION_EVIDENCE"

inductive AdjudicationStatus where
  | notRequired | resolved | unresolved | error
  deriving DecidableEq

def AdjudicationStatus.text : AdjudicationStatus → PyStr
  | notRequired => "NOT_REQUIRED"
  | resolved => "RESOLVED"
  | unresolved => "UNRESOLVED"
  | error => "ERROR"

structure UnknownSemantics where
  modelFailureValue : Option ℤ
  evidenceComplete : Bool
  hardInvariantPass : Option Bool
  adjudicationStatuses : List AdjudicationStatus

/-- `UNKNOWN_DISPOSITION_SEMANTICS`. -/
def UnknownDisposition.semantics : UnknownDisposition → UnknownSemantics
  | correctAbstention => ⟨some 0, true, some true, [.notRequired, .resolved]⟩
  | correctUnknownPreservation => ⟨some 0, true, some true, [.notRequired, .resolved]⟩
  | unjustifiedUnknown => ⟨some 1, true, some false, [.notRequired, .resolved]⟩
  | unresolvedScorerEvidence => ⟨none, false, none, [.unresolved]⟩
  | unresolvedAdjudicationEvidence => ⟨none, false, none, [.unresolved]⟩

/-- The dispositions `_unknown_policy` permits, given the correct one of the family. -/
def permittedDispositions : Option UnknownDisposition → List UnknownDisposition
  | some correct => [correct, .unjustifiedUnknown, .unresolvedScorerEvidence, .unresolvedAdjudicationEvidence]
  | none => [.unresolvedScorerEvidence, .unresolvedAdjudicationEvidence]

/-- The correct disposition of each entry of `APPROVED_TARGET_MEASUREMENT_BINDINGS`. -/
def unknownPolicies : List (PyStr × Option UnknownDisposition) := [
  ("E01", some .correctUnknownPreservation), ("E02", some .correctAbstention), ("E03", none),
  ("E04", some .correctUnknownPreservation), ("E05", some .correctUnknownPreservation),
  ("E06", some .correctUnknownPreservation), ("E07", some .correctUnknownPreservation),
  ("E08", some .correctAbstention), ("E09", some .correctAbstention), ("E10", some .correctAbstention),
  ("E11", some .correctAbstention), ("E12", some .correctAbstention), ("E13", some .correctAbstention),
  ("E14", none), ("E15", none), ("E16", none)]

inductive Attribution where
  | attributable | unavailable | notApplicable
  deriving DecidableEq

def Attribution.text : Attribution → PyStr
  | attributable => "ATTRIBUTABLE"
  | unavailable => "UNAVAILABLE"
  | notApplicable => "NOT_APPLICABLE"

structure Usage where
  attributionStatus : Attribution
  inputTokens : Option ℤ
  outputTokens : Option ℤ
  totalTokens : Option ℤ

structure Latency where
  attributionStatus : Attribution
  milliseconds : Option Number

structure Cost where
  attributionStatus : Attribution
  currency : Option PyStr
  amount : Option Number
  pricingSourceFingerprint : Option PyStr

inductive ProviderTerminal where
  | success | providerError | networkError | schemaError | runtimeError | notApplicable
  deriving DecidableEq

def ProviderTerminal.text : ProviderTerminal → PyStr
  | success => "SUCCESS"
  | providerError => "PROVIDER_ERROR"
  | networkError => "NETWORK_ERROR"
  | schemaError => "SCHEMA_ERROR"
  | runtimeError => "RUNTIME_ERROR"
  | notApplicable => "NOT_APPLICABLE"

/-- The record of one executed attempt. -/
structure Observation extends Declared where
  attemptId : PyStr
  resolvedModelOrVersionId : Option PyStr
  identityCertainty : IdentityCertainty
  aliasLimitation : AliasLimitation
  providerRequestId : Option PyStr
  samplingControlsFingerprint : PyStr
  reasoningControlsFingerprint : PyStr
  requestStartedAt : PyStr
  responseCompletedAt : PyStr
  rawResponseFingerprint : Option PyStr
  evidenceReceiptFingerprint : Option PyStr
  usage : Usage
  latency : Latency
  cost : Cost
  providerTerminalStatus : ProviderTerminal
  providerHttpStatus : Option ℤ
  terminalStatus : Terminal
  unknownDisposition : Option UnknownDisposition
  modelFailureValue : Option ℤ
  systemInvariantFailureValue : Option ℤ
  evidenceComplete : Bool
  hardInvariantPass : Option Bool
  adjudicationStatus : AdjudicationStatus
  observationFingerprint : PyStr

def Usage.toJson (u : Usage) : Json := .obj [
  ("attribution_status", .str u.attributionStatus.text), ("input_tokens", optionalInteger u.inputTokens),
  ("output_tokens", optionalInteger u.outputTokens), ("total_tokens", optionalInteger u.totalTokens)]

def Latency.toJson (l : Latency) : Json := .obj [
  ("attribution_status", .str l.attributionStatus.text),
  ("milliseconds", (l.milliseconds.map Number.toJson).getD .null)]

def Cost.toJson (c : Cost) : Json := .obj [
  ("attribution_status", .str c.attributionStatus.text), ("currency", optionalText c.currency),
  ("amount", (c.amount.map Number.toJson).getD .null),
  ("pricing_source_fingerprint", optionalText c.pricingSourceFingerprint)]

/-- What an observation records of its execution. -/
def Observation.ownFields (o : Observation) : List (PyStr × Json) := [
  ("schema_version", .str "b2-bm0-observation/v1"), ("attempt_id", .str o.attemptId),
  ("resolved_model_or_version_id", optionalText o.resolvedModelOrVersionId),
  ("identity_certainty", .str o.identityCertainty.text), ("alias_limitation", .str o.aliasLimitation.text),
  ("provider_request_id", optionalText o.providerRequestId),
  ("sampling_controls_fingerprint", .str o.samplingControlsFingerprint),
  ("reasoning_controls_fingerprint", .str o.reasoningControlsFingerprint),
  ("timestamps", .obj [("request_started_at", .str o.requestStartedAt),
    ("response_completed_at", .str o.responseCompletedAt)]),
  ("raw_response_fingerprint", optionalText o.rawResponseFingerprint),
  ("evidence_receipt_fingerprint", optionalText o.evidenceReceiptFingerprint),
  ("usage", o.usage.toJson), ("latency", o.latency.toJson), ("cost", o.cost.toJson),
  ("provider_terminal_status", .str o.providerTerminalStatus.text),
  ("provider_http_status", optionalInteger o.providerHttpStatus),
  ("terminal_status", .str o.terminalStatus.text),
  ("unknown_disposition", optionalText (o.unknownDisposition.map UnknownDisposition.text)),
  ("model_failure_value", optionalInteger o.modelFailureValue),
  ("system_invariant_failure_value", optionalInteger o.systemInvariantFailureValue),
  ("evidence_complete", .bool o.evidenceComplete),
  ("hard_invariant_pass", (o.hardInvariantPass.map Json.bool).getD .null),
  ("adjudication_status", .str o.adjudicationStatus.text)]

/-- The observation without its fingerprint. -/
def Observation.fields (o : Observation) : List (PyStr × Json) := o.toDeclared.fields ++ o.ownFields

def Observation.toJson (o : Observation) : Json :=
  sealDocument o.fields "observation_fingerprint" o.observationFingerprint

def Observation.identifiers (o : Observation) : List (PyStr × PyStr) := [
  ("benchmark_id", o.benchmarkId), ("attempt_id", o.attemptId), ("trial_id", o.trialId),
  ("provider_subject_id", o.providerSubjectId), ("model_subject_id", o.modelSubjectId),
  ("requested_model_id", o.requestedModelId), ("endpoint_id", o.endpointId),
  ("capability_mode", o.capabilityMode), ("system_wrapper_version", o.systemWrapperVersion),
  ("developer_wrapper_version", o.developerWrapperVersion), ("target_id", o.targetId),
  ("entry_id", o.entryId), ("family_id", o.familyId), ("case_id", o.caseId), ("variant_id", o.variantId),
  ("mechanism_lineage_id", o.mechanismLineageId),
  ("generator_or_mutation_version", o.generatorOrMutationVersion), ("corpus_item_alias", o.corpusItemAlias),
  ("scorer_id", o.scorerId), ("scorer_version", o.scorerVersion), ("oracle_id", o.oracleId),
  ("oracle_version", o.oracleVersion)]

/-- The identity an observation discloses, by target class and certainty. -/
def checkObservedIdentity (o : Observation) : Except PyExc Unit :=
  if o.targetClass = .systemEvalOnly then do
    check (o.applicabilityResult = .notApplicable)
      (valueError "system observation must disclose model/provider NOT_APPLICABLE")
    check (o.providerSubjectId = systemScopeId ∧ o.modelSubjectId = systemScopeId ∧
        o.requestedModelId = systemScopeId ∧ o.resolvedModelOrVersionId = some systemScopeId ∧
        o.endpointId = systemScopeId)
      (valueError "system-only observations cannot identify a model subject")
    check (o.identityCertainty = .systemScope ∧ o.aliasLimitation = .notApplicableSystemScope ∧
        o.providerRequestId = none ∧ o.capabilityMode = py "SYSTEM_EVAL")
      (valueError "system-only runtime identity must be explicit")
  else if o.providerSubjectId = systemScopeId ∨ o.modelSubjectId = systemScopeId ∨
      o.requestedModelId = systemScopeId ∨ o.resolvedModelOrVersionId = some systemScopeId ∨
      o.endpointId = systemScopeId then
    throw (valueError "model and agent observations cannot use SYSTEM_SCOPE")
  else if o.applicabilityResult ≠ .applicable then
    throw (valueError "model and agent observations require an APPLICABLE declaration")
  else
    match o.identityCertainty with
    | .exact =>
      check (o.resolvedModelOrVersionId ≠ none ∧
          (o.aliasLimitation = .none ∨ o.aliasLimitation = .movingAliasResolutionRequired))
        (valueError "EXACT observations require one resolved model version")
    | .aliasOnly =>
      check (o.resolvedModelOrVersionId = none ∧ o.aliasLimitation = .unverifiableAliasDisclosed)
        (valueError "ALIAS_ONLY observations must preserve the disclosed limitation")
    | .unknown =>
      check (o.resolvedModelOrVersionId = none ∧ o.aliasLimitation ≠ .notApplicableSystemScope)
        (valueError "UNKNOWN observations cannot assert a resolved model or system-only limitation")
    | .systemScope => throw (valueError "non-system observations cannot use SYSTEM_SCOPE certainty")

/-- A member that has to be there. -/
def require {α : Type} (value : Option α) (e : PyExc) : Except PyExc α :=
  match value with
  | some x => .ok x
  | none => .error e

/-- `_integer` of a member that may be absent. -/
def requireInteger (label key : PyStr) (value : Option ℤ) : Except PyExc ℤ := do
  let n ← require value (valueError (label ++ py "." ++ key ++ py " must be an integer >= 0"))
  checkInteger label key n 0
  return n

def checkUsage (u : Usage) : Except PyExc Unit :=
  let label := py "bm0-observation.usage"
  if u.attributionStatus = .attributable then do
    let input ← requireInteger label "input_tokens" u.inputTokens
    let output ← requireInteger label "output_tokens" u.outputTokens
    let total ← requireInteger label "total_tokens" u.totalTokens
    check (total = input + output) (valueError "attributable usage token total is inconsistent")
  else
    check (u.inputTokens = none ∧ u.outputTokens = none ∧ u.totalTokens = none)
      (valueError "unattributed usage cannot carry token counts")

/-- `_number` of a member that may be absent. -/
def requireNumber (label key : PyStr) (value : Option Number) : Except PyExc Unit := do
  let x ← require value (valueError (label ++ py "." ++ key ++ py " must be a finite number >= 0.0"))
  let _ ← checkNumber label key x

def checkLatency (l : Latency) : Except PyExc Unit :=
  if l.attributionStatus = .attributable then
    requireNumber "bm0-observation.latency" "milliseconds" l.milliseconds
  else check (l.milliseconds = none) (valueError "unattributed latency cannot carry milliseconds")

def checkCost (c : Cost) : Except PyExc Unit :=
  let label := py "bm0-observation.cost"
  if c.attributionStatus = .attributable then do
    let currency ← require c.currency (valueError (label ++ py ".currency must be a non-empty string"))
    checkText label "currency" currency
    requireNumber label "amount" c.amount
    let source ← require c.pricingSourceFingerprint
      (valueError (label ++ py ".pricing_source_fingerprint must be sha256:<64hex>"))
    requireSha256 source (label ++ py ".pricing_source_fingerprint")
  else
    check (c.currency = none ∧ c.amount = none ∧ c.pricingSourceFingerprint = none)
      (valueError "unattributed cost cannot carry amount or pricing data")

/-- The disposition of an `UNKNOWN` terminal is one its family permits. -/
def unknownSemantics (o : Observation) : Except PyExc (Option UnknownSemantics) :=
  match o.terminalStatus, o.unknownDisposition with
  | .unknown, none => throw (valueError "UNKNOWN requires an explicit family-bound disposition")
  | .unknown, some disposition => do
    let correct ← require (unknownPolicies.lookup o.entryId) (keyError o.entryId)
    check (disposition ∈ permittedDispositions correct)
      (valueError "UNKNOWN disposition is forbidden by the target family policy")
    return some disposition.semantics
  | _, some _ => throw (valueError "non-UNKNOWN terminals cannot carry an UNKNOWN disposition")
  | _, none => return none

/-- `expected_model_value`. -/
def expectedModelValue (o : Observation) (semantics : Option UnknownSemantics) : Option ℤ :=
  if o.targetClass = .systemEvalOnly then none
  else
    match o.terminalStatus with
    | .pass => some 0
    | .fail => some 1
    | _ => semantics.bind UnknownSemantics.modelFailureValue

/-- `expected_system_value`. -/
def expectedSystemValue (o : Observation) : Option ℤ :=
  if o.targetClass = .systemEvalOnly then
    match o.terminalStatus with
    | .pass => some 0
    | .fail => some 1
    | _ => none
  else none

/-- The failure values and the hard verdict follow from the terminal. -/
def checkVerdict (o : Observation) (semantics : Option UnknownSemantics) : Except PyExc Unit := do
  check (o.modelFailureValue = expectedModelValue o semantics ∧
      o.systemInvariantFailureValue = expectedSystemValue o)
    (valueError "failure value does not match terminal and attribution class")
  check (o.terminalStatus = .pass → o.hardInvariantPass = some true)
    (valueError "PASS requires hard invariant PASS")
  check (o.terminalStatus = .fail → o.hardInvariantPass = some false)
    (valueError "FAIL requires hard invariant FAIL")
  check (o.terminalStatus ∈ nonModelScorableTerminals → o.hardInvariantPass = none)
    (valueError "fixed non-scorable terminals cannot carry a hard verdict")

/-- An `UNKNOWN` terminal carries the evidence its disposition speaks of. -/
def checkUnknownEvidence (o : Observation) : Option UnknownSemantics → Except PyExc Unit
  | none => pure ()
  | some semantics => do
    check (o.evidenceComplete = semantics.evidenceComplete ∧
        o.hardInvariantPass = semantics.hardInvariantPass ∧
        o.adjudicationStatus ∈ semantics.adjudicationStatuses)
      (valueError "UNKNOWN evidence, verdict, or adjudication state contradicts its disposition")
    if o.unknownDisposition = some .unresolvedScorerEvidence then
      check (o.evidenceReceiptFingerprint = none)
        (valueError "unresolved scorer evidence cannot carry a completed evidence receipt")
    else
      check (o.evidenceReceiptFingerprint ≠ none)
        (valueError "resolved or adjudication-stage UNKNOWN requires an evidence receipt")

/-- A successful provider call whose accounting is not out of scope. -/
def Observation.attributableResponse (o : Observation) : Prop :=
  o.providerRequestId ≠ none ∧ o.providerTerminalStatus = .success ∧
    (∃ status ∈ o.providerHttpStatus, 200 ≤ status ∧ status < 300) ∧
    .notApplicable ∉ [o.usage.attributionStatus, o.latency.attributionStatus, o.cost.attributionStatus]

instance (o : Observation) : Decidable o.attributableResponse := inferInstanceAs (Decidable (_ ∧ _))

/-- The identity of a scored model observation, checked a second time. -/
def checkScorableIdentity (o : Observation) : Except PyExc Unit :=
  match o.identityCertainty with
  | .exact =>
    check (o.resolvedModelOrVersionId ≠ none ∧
        (o.aliasLimitation = .none ∨ o.aliasLimitation = .movingAliasResolutionRequired))
      (valueError "scorable EXACT observations require one resolved model version")
  | .aliasOnly =>
    check (o.resolvedModelOrVersionId = none ∧ o.aliasLimitation = .unverifiableAliasDisclosed)
      (valueError "scorable ALIAS_ONLY observations must preserve the disclosed limitation")
  | _ => throw (valueError "scorable model observations require EXACT or disclosed ALIAS_ONLY identity")

/-- A scored observation is backed by complete evidence. -/
def checkScorable (o : Observation) : Except PyExc Unit :=
  if o.terminalStatus ∈ modelScorableTerminals then do
    check (o.evidenceComplete = true ∧
        (o.adjudicationStatus = .notRequired ∨ o.adjudicationStatus = .resolved))
      (valueError "model-scorable terminals require complete/resolved evidence")
    check (o.rawResponseFingerprint ≠ none ∧ o.evidenceReceiptFingerprint ≠ none)
      (valueError "scorable observations require raw-response and evidence receipts")
    if o.targetClass = .systemEvalOnly then pure ()
    else do
      checkScorableIdentity o
      check o.attributableResponse
        (valueError (py "scorable model observations require successful provider receipts; " ++
          py "usage, latency, and cost may be unavailable but not inapplicable"))
  else pure ()

/-- An `UNKNOWN` of a model is attributed to an identified model and a response. -/
def checkUnknownAttribution (o : Observation) : Except PyExc Unit :=
  if o.terminalStatus = .unknown ∧ o.targetClass ≠ .systemEvalOnly then do
    check (o.identityCertainty = .exact ∨ o.identityCertainty = .aliasOnly)
      (valueError "family-resolved UNKNOWN requires attributable model identity")
    check (o.attributableResponse ∧ o.rawResponseFingerprint ≠ none)
      (valueError "UNKNOWN model outcomes require a successful attributable response")
  else pure ()

def Observation.fingerprintMembers (o : Observation) : List (PyStr × PyStr) :=
  ("sampling_controls_fingerprint", o.samplingControlsFingerprint) ::
    ("reasoning_controls_fingerprint", o.reasoningControlsFingerprint) :: o.toDeclared.fingerprints

variable [PyRuntime]

/-- `_timestamp`, in microseconds. -/
def timestamp (label key value : PyStr) : Except PyExc ℤ := do
  checkText label key value
  match PyRuntime.fromisoformat (value.flatMap fun c => if c = 90 then py "+00:00" else [c]) with
  | .malformed => throw (valueError (label ++ py "." ++ key ++ py " must be an RFC3339 timestamp"))
  | .naive => throw (valueError (label ++ py "." ++ key ++ py " must include a timezone"))
  | .aware t => return t

def validateObservation (o : Observation) : Except PyExc Unit := do
  let label := py "bm0-observation"
  checkIdentifiers label o.identifiers
  [("resolved_model_or_version_id", o.resolvedModelOrVersionId),
    ("provider_request_id", o.providerRequestId)].forM fun (f : String × Option PyStr) =>
      check (∀ v, f.2 = some v → isIdentifier v = true)
        (valueError (label ++ py "." ++ py f.1 ++ py " must be null or an identifier"))
  checkLineage o.toDeclared "observation target identity is inconsistent"
    "observation canonical family lineage is inconsistent"
  requireSha256 o.caseFingerprint (label ++ py ".case_fingerprint")
  checkObservedIdentity o
  o.fingerprintMembers.forM fun f => requireSha256 f.2 (label ++ py "." ++ f.1)
  checkInteger label "replicate_index" o.replicateIndex 0
  let started ← timestamp (label ++ py ".timestamps") "request_started_at" o.requestStartedAt
  let completed ← timestamp (label ++ py ".timestamps") "response_completed_at" o.responseCompletedAt
  check (started ≤ completed) (valueError "observation timestamps are reversed")
  o.rawResponseFingerprint.toList.forM fun v => requireSha256 v (label ++ py ".raw_response_fingerprint")
  o.evidenceReceiptFingerprint.toList.forM fun v => requireSha256 v (label ++ py ".evidence_receipt_fingerprint")
  checkUsage o.usage
  checkLatency o.latency
  checkCost o.cost
  check (∀ status ∈ o.providerHttpStatus, 100 ≤ status ∧ status ≤ 599)
    (valueError "provider_http_status must be null or an HTTP status")
  check (∀ v ∈ o.modelFailureValue, v = 0 ∨ v = 1) (valueError "model_failure_value must be 0, 1, or null")
  check (∀ v ∈ o.systemInvariantFailureValue, v = 0 ∨ v = 1)
    (valueError "system_invariant_failure_value must be 0, 1, or null")
  let semantics ← unknownSemantics o
  checkVerdict o semantics
  checkUnknownEvidence o semantics
  checkScorable o
  checkUnknownAttribution o
  check (o.targetClass = .systemEvalOnly → o.providerTerminalStatus = .notApplicable ∧
      o.providerHttpStatus = none ∧ o.usage.attributionStatus = .notApplicable ∧
      o.latency.attributionStatus = .notApplicable ∧ o.cost.attributionStatus = .notApplicable)
    (valueError "system-only observations must mark provider accounting not applicable")
  check (¬(o.terminalStatus = .error ∧ o.adjudicationStatus = .resolved))
    (valueError "ERROR cannot claim resolved adjudication")
  check (¬(o.terminalStatus = .error ∧ o.targetClass ≠ .systemEvalOnly ∧ o.providerTerminalStatus = .success))
    (valueError "ERROR cannot carry a successful provider terminal")
  assertPublicSafe o.toJson
  verifyFingerprint o.observationFingerprint (.obj o.fields) "observation_fingerprint" label

end EvaluationLab.BM0
