import EvaluationLab.BlindEval.Metadata
import EvaluationLab.Effect.Outcome
import EvaluationLab.Python.Float

/-! The request of one blind evaluation, what is observed of a response, and the body-free
receipt of the attempt. -/
namespace EvaluationLab.BlindEval
open Python Effect

structure BlindEvalRequest where
  runId : PyStr
  providerLabel : PyStr
  providerProtocol : PyStr
  requestedModelId : PyStr
  endpoint : PyStr
  apiKeyEnv : PyStr
  contextBytes : List UInt8
  promptBytes : List UInt8
  timeoutSeconds : PyFloat := .finite 120
  temperature : PyFloat := .finite 0
  maxTokens : ℤ := 8192
  thinkingMode : Option PyStr := none
  reasoningEffort : Option PyStr := none
  gitCommit : Option PyStr := none

/-- The user message around the two inputs. -/
def envelopeText (context prompt : PyStr) : PyStr :=
  py "===== LONG_CONTEXT | " ++ inputEnvelopeVersion ++ py " =====\n" ++ context ++
    py "\n===== TASK =====\n" ++ prompt

/-- `build_input_envelope`, or the text of its `UnicodeDecodeError`. -/
def buildInputEnvelope (contextBytes promptBytes : List UInt8) : Except PyStr (List UInt8) :=
  match decodeUtf8 contextBytes with
  | none => .error (decodeErrorText contextBytes)
  | some context =>
    match decodeUtf8 promptBytes with
    | none => .error (decodeErrorText promptBytes)
    | some prompt => .ok (utf8 (envelopeText context prompt))

/-- The token counts of `usage`, in the order the code normalizes them. -/
abbrev Usage := List (PyStr × ℤ)

/-- What is known of one response, without any body. -/
structure ProviderObservation where
  httpStatus : Option ℤ := none
  responseJsonParsed : Option Bool := none
  responseSchemaParsed : Option Bool := none
  messageSchemaParsed : Option Bool := none
  resolvedModelId : Option PyStr := none
  responseId : Option PyStr := none
  finishReason : Option PyStr := none
  reasoningFieldPresent : Option Bool := none
  reasoningBytes : Option ℕ := none
  reasoningSha256 : Option PyStr := none
  finalContentFieldPresent : Option Bool := none
  finalContentBytes : Option ℕ := none
  finalContentSha256 : Option PyStr := none
  usage : Option Usage := none

inductive TerminalStatus where
  | pass | notEvaluable | error
  deriving DecidableEq, Repr

def TerminalStatus.text : TerminalStatus → PyStr
  | pass => "PASS"
  | notEvaluable => "NOT_EVALUABLE"
  | error => "ERROR"

structure BlindEvalReceipt where
  schemaVersion : PyStr
  runId : PyStr
  terminalStatus : TerminalStatus
  protocolVersion : PyStr
  envelopeVersion : PyStr
  providerLabel : PyStr
  providerProtocol : PyStr
  requestedModelId : Option PyStr
  requestedThinkingMode : Option PyStr
  requestedReasoningEffort : Option PyStr
  resolvedModelId : Option PyStr
  contextSha256 : PyStr
  promptSha256 : PyStr
  inputEnvelopeSha256 : PyStr
  contextBytes : ℕ
  promptBytes : ℕ
  rawOutputSha256 : Option PyStr
  rawOutputBytes : Option ℕ
  startedAt : PyStr
  completedAt : PyStr
  durationMs : PyFloat
  httpStatus : Option ℤ
  providerResponseId : Option PyStr
  responseJsonParsed : Option Bool
  responseSchemaParsed : Option Bool
  messageSchemaParsed : Option Bool
  finishReason : Option PyStr
  reasoningFieldPresent : Option Bool
  reasoningBytes : Option ℕ
  reasoningSha256 : Option PyStr
  finalContentFieldPresent : Option Bool
  finalContentBytes : Option ℕ
  finalContentSha256 : Option PyStr
  usage : Option Usage
  providerAttempts : ℕ
  automaticRetries : ℕ
  qualityScore : Option PyFloat
  errorCode : Option PyStr
  safeErrorMessage : Option PyStr
  gitCommit : Option PyStr

def orNull {α : Type} (toJson : α → Json) : Option α → Json
  | some a => toJson a
  | none => .null

def usageJson (usage : Usage) : Json := .obj (usage.map fun count => (count.1, .int count.2))

namespace BlindEvalReceipt

/-- The first fields of `asdict(receipt)`: what was asked, and when. -/
def requestFields (r : BlindEvalReceipt) : List (PyStr × Json) := [
  ("schema_version", .str r.schemaVersion),
  ("run_id", .str r.runId),
  ("terminal_status", .str r.terminalStatus.text),
  ("protocol_version", .str r.protocolVersion),
  ("envelope_version", .str r.envelopeVersion),
  ("provider_label", .str r.providerLabel),
  ("provider_protocol", .str r.providerProtocol),
  ("requested_model_id", orNull .str r.requestedModelId),
  ("requested_thinking_mode", orNull .str r.requestedThinkingMode),
  ("requested_reasoning_effort", orNull .str r.requestedReasoningEffort),
  ("resolved_model_id", orNull .str r.resolvedModelId),
  ("context_sha256", .str r.contextSha256),
  ("prompt_sha256", .str r.promptSha256),
  ("input_envelope_sha256", .str r.inputEnvelopeSha256),
  ("context_bytes", .int r.contextBytes),
  ("prompt_bytes", .int r.promptBytes),
  ("raw_output_sha256", orNull .str r.rawOutputSha256),
  ("raw_output_bytes", orNull (fun n : ℕ => .int n) r.rawOutputBytes),
  ("started_at", .str r.startedAt),
  ("completed_at", .str r.completedAt),
  ("duration_ms", .float r.durationMs)]

/-- The other fields: what came of it. -/
def outcomeFields (r : BlindEvalReceipt) : List (PyStr × Json) := [
  ("http_status", orNull .int r.httpStatus),
  ("provider_response_id", orNull .str r.providerResponseId),
  ("response_json_parsed", orNull .bool r.responseJsonParsed),
  ("response_schema_parsed", orNull .bool r.responseSchemaParsed),
  ("message_schema_parsed", orNull .bool r.messageSchemaParsed),
  ("finish_reason", orNull .str r.finishReason),
  ("reasoning_field_present", orNull .bool r.reasoningFieldPresent),
  ("reasoning_bytes", orNull (fun n : ℕ => .int n) r.reasoningBytes),
  ("reasoning_sha256", orNull .str r.reasoningSha256),
  ("final_content_field_present", orNull .bool r.finalContentFieldPresent),
  ("final_content_bytes", orNull (fun n : ℕ => .int n) r.finalContentBytes),
  ("final_content_sha256", orNull .str r.finalContentSha256),
  ("usage", orNull usageJson r.usage),
  ("provider_attempts", .int r.providerAttempts),
  ("automatic_retries", .int r.automaticRetries),
  ("quality_score", orNull .float r.qualityScore),
  ("error_code", orNull .str r.errorCode),
  ("safe_error_message", orNull .str r.safeErrorMessage),
  ("git_commit", orNull .str r.gitCommit)]

/-- `asdict(receipt)`. -/
def document (r : BlindEvalReceipt) : List (PyStr × Json) := r.requestFields ++ r.outcomeFields

/-- A receipt of a passed attempt carries the evidence of its answer, twice. -/
def PassEvidence (r : BlindEvalReceipt) : Prop :=
  r.providerAttempts = 1 ∧ r.rawOutputSha256.isSome = true ∧ r.rawOutputBytes.isSome = true ∧
    r.finalContentSha256 = r.rawOutputSha256 ∧ r.finalContentBytes = r.rawOutputBytes

/-- Any other receipt carries none. -/
def NoRawEvidence (r : BlindEvalReceipt) : Prop := r.rawOutputSha256 = none ∧ r.rawOutputBytes = none

instance (r : BlindEvalReceipt) : Decidable r.PassEvidence := inferInstanceAs (Decidable (_ ∧ _))
instance (r : BlindEvalReceipt) : Decidable r.NoRawEvidence := inferInstanceAs (Decidable (_ ∧ _))

/-- `as_dict`. The terminal status is one of the three by its type. -/
def asDict (r : BlindEvalReceipt) : Except PyExc (List (PyStr × Json)) := do
  check (r.providerAttempts = 0 ∨ r.providerAttempts = 1) (valueError "provider attempts must be zero or one")
  check (r.automaticRetries = 0) (valueError "automatic retries must remain zero")
  check (r.qualityScore = none) (valueError "the bridge must not emit a model-quality score")
  if r.terminalStatus = .pass then
    check r.PassEvidence (valueError "PASS requires one attempt and matching final evidence")
  else check r.NoRawEvidence (valueError "non-PASS receipt must not carry raw-output evidence")
  return r.document

theorem asDict_eq_ok {r : BlindEvalReceipt} (hattempts : r.providerAttempts ≤ 1)
    (hretries : r.automaticRetries = 0) (hscore : r.qualityScore = none)
    (hpass : r.terminalStatus = .pass → r.PassEvidence)
    (hother : r.terminalStatus ≠ .pass → r.NoRawEvidence) : r.asDict = .ok r.document := by
  have hcount : r.providerAttempts = 0 ∨ r.providerAttempts = 1 := by omega
  unfold asDict
  by_cases hstatus : r.terminalStatus = .pass
  · rw [check_of hcount, check_of hretries, check_of hscore, if_pos hstatus, check_of (hpass hstatus)]
    rfl
  · rw [check_of hcount, check_of hretries, check_of hscore, if_neg hstatus, check_of (hother hstatus)]
    rfl

end BlindEvalReceipt

/-- The real number a finite float stands for. -/
def finiteValue : PyFloat → ℚ
  | .finite q => q
  | _ => 0

/-- The binary64 result of an operation whose exact result is `q`; `negative` is the sign of a
result that rounds to zero. -/
def binary64 (negative : Bool) (q : ℚ) : PyFloat :=
  let r := nearestFloat q
  if r = 0 then if negative then .negativeZero else .finite 0
  else if 2 ^ 1024 ≤ |r| then .infinity (decide (r < 0))
  else .finite r

/-- `a - b`. -/
def floatSub : PyFloat → PyFloat → PyFloat
  | .nan, _ => .nan
  | _, .nan => .nan
  | .infinity s, .infinity t => if s = t then .nan else .infinity s
  | .infinity s, _ => .infinity s
  | _, .infinity t => .infinity (!t)
  | a, b =>
    let q := finiteValue a - finiteValue b
    binary64 (q < 0 || (a = .negativeZero && b = .finite 0)) q

/-- The float of a finite value put through an exact operation that keeps its sign. -/
def mapFinite (f : ℚ → ℚ) : PyFloat → PyFloat
  | .finite q => binary64 (q < 0) (f q)
  | x => x

/-- `round((finished - started) * 1000.0, 3)`. -/
def elapsedMs (started finished : PyFloat) : PyFloat :=
  mapFinite (fun x => roundEven (x * 1000) / 1000) (mapFinite (· * 1000) (floatSub finished started))

example : elapsedMs (.finite (1 / 4)) (.finite (3 / 4)) = .finite 500 := by decide +kernel

end EvaluationLab.BlindEval
