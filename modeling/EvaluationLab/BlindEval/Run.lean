import EvaluationLab.BlindEval.Response
import EvaluationLab.Effect.Procedure

/-! One blind evaluation: every exit before and after the single provider call, each with its
own receipt. -/
namespace EvaluationLab.BlindEval
open Python Effect

/-- One POST request handed to the transport. -/
structure TransportCall where
  endpoint : PyStr
  headers : List (PyStr × PyStr)
  payload : Json
  timeoutSeconds : PyFloat

/-- What a run asks of its surroundings: two clocks, the credential and the provider. -/
inductive BridgeOp where
  | now
  | perf
  | credential (name : PyStr)
  | transport (call : TransportCall)

/-- A credential that is no string is none. -/
def bridge : Interface where
  Op := BridgeOp
  Answer
    | .now => PyStr
    | .perf => PyFloat
    | .credential _ => Option PyStr
    | .transport _ => Except Raised ProviderHTTPResponse

/-- A computation of the bridge. -/
abbrev Bridge := Procedure bridge Raised

def nowFn : Bridge PyStr := Procedure.ask (I := bridge) .now
def perfFn : Bridge PyFloat := Procedure.ask (I := bridge) .perf
def credentialLookup (name : PyStr) : Bridge (Option PyStr) := Procedure.ask (I := bridge) (.credential name)

def post (call : TransportCall) : Bridge (Except Raised ProviderHTTPResponse) :=
  Procedure.ask (I := bridge) (.transport call)

/-- The transport returns a response or raises. -/
def transport (call : TransportCall) : Bridge ProviderHTTPResponse := do
  let answer ← post call
  Procedure.ofExcept answer

/-- The payload of the provider request. -/
def requestPayload (req : BlindEvalRequest) (content : PyStr) : Json :=
  .obj ([(py "model", .str req.requestedModelId),
      (py "messages", .arr [.obj [("role", .str "user"), ("content", .str content)]]),
      (py "temperature", .float req.temperature), (py "max_tokens", .int req.maxTokens)] ++
    (match req.thinkingMode with
      | some mode => [(py "thinking", .obj [("type", .str mode)])]
      | none => []) ++
    match req.reasoningEffort with
      | some effort => [(py "reasoning_effort", .str effort)]
      | none => [])

def requestHeaders (apiKey : PyStr) : List (PyStr × PyStr) := [
  ("Authorization", py "Bearer " ++ apiKey), ("Content-Type", "application/json"),
  ("Accept", "application/json"), ("User-Agent", "llm-evaluation-lab-b2-blind-eval/1")]

variable [PyRuntime]

/-- `_invoke_openai_compatible`. -/
def invokeOpenaiCompatible (req : BlindEvalRequest) (apiKey : PyStr) (envelope : List UInt8) :
    Bridge ProviderResult := do
  match decodeUtf8 envelope with
  | none => throw (.exception (some (decodeErrorText envelope)))
  | some content =>
    let response ← transport
      ⟨req.endpoint, requestHeaders apiKey, requestPayload req content, req.timeoutSeconds⟩
    Procedure.ofExcept (readResponse response)

/-- The start of a run, as every receipt of it repeats it. -/
structure Started where
  startedAt : PyStr
  startedPerf : PyFloat

/-- What one exit of a run reports. -/
structure Exit where
  terminalStatus : TerminalStatus
  rawOutput : Option PyStr := none
  providerAttempts : ℕ := 0
  observation : ProviderObservation := {}
  errorCode : Option PyStr := none
  safeErrorMessage : Option PyStr := none

/-- The text when it is one of the supported values. -/
def supported (values : List PyStr) (text : Option PyStr) : Option PyStr := text.filter fun t => t ∈ values

/-- The receipt built from an exit, once both clocks are read and the answer is encoded. -/
def receiptOf (req : BlindEvalRequest) (envelope : List UInt8) (started : Started) (exit : Exit)
    (completedAt : PyStr) (rawBytes : Option (List UInt8)) (finished : PyFloat) : BlindEvalReceipt where
  schemaVersion := protocolVersion
  runId := req.runId
  terminalStatus := exit.terminalStatus
  protocolVersion := protocolVersion
  envelopeVersion := inputEnvelopeVersion
  providerLabel := req.providerLabel
  providerProtocol := req.providerProtocol
  requestedModelId := safeProviderMetadata (.str req.requestedModelId) .model
  requestedThinkingMode := supported thinkingModes req.thinkingMode
  requestedReasoningEffort := supported reasoningEfforts req.reasoningEffort
  resolvedModelId := exit.observation.resolvedModelId
  contextSha256 := sha256Bytes req.contextBytes
  promptSha256 := sha256Bytes req.promptBytes
  inputEnvelopeSha256 := sha256Bytes envelope
  contextBytes := req.contextBytes.length
  promptBytes := req.promptBytes.length
  rawOutputSha256 := rawBytes.map sha256Bytes
  rawOutputBytes := rawBytes.map List.length
  startedAt := started.startedAt
  completedAt := completedAt
  durationMs := elapsedMs started.startedPerf finished
  httpStatus := exit.observation.httpStatus
  providerResponseId := exit.observation.responseId
  responseJsonParsed := exit.observation.responseJsonParsed
  responseSchemaParsed := exit.observation.responseSchemaParsed
  messageSchemaParsed := exit.observation.messageSchemaParsed
  finishReason := exit.observation.finishReason
  reasoningFieldPresent := exit.observation.reasoningFieldPresent
  reasoningBytes := exit.observation.reasoningBytes
  reasoningSha256 := exit.observation.reasoningSha256
  finalContentFieldPresent := exit.observation.finalContentFieldPresent
  finalContentBytes := exit.observation.finalContentBytes
  finalContentSha256 := exit.observation.finalContentSha256
  usage := exit.observation.usage
  providerAttempts := exit.providerAttempts
  automaticRetries := automaticRetries
  qualityScore := none
  errorCode := exit.errorCode
  safeErrorMessage := exit.safeErrorMessage
  gitCommit := req.gitCommit

/-- `raw_output.encode("utf-8")`. -/
def encodeRaw (rawOutput : Option PyStr) : Except Raised (Option (List UInt8)) :=
  match rawOutput with
  | none => .ok none
  | some text => if encodable text then .ok (some (utf8 text)) else .error (.exception (some (encodeErrorText text)))

/-- `_receipt`, returned with the answer of the exit. -/
def finish (req : BlindEvalRequest) (envelope : List UInt8) (started : Started) (exit : Exit) :
    Bridge (BlindEvalReceipt × Option PyStr) := do
  let completedAt ← nowFn
  let rawBytes ← Procedure.ofExcept (encodeRaw exit.rawOutput)
  let finished ← perfFn
  return (receiptOf req envelope started exit completedAt rawBytes finished, exit.rawOutput)

/-- An exit before any call, that finds the run not evaluable. -/
def refusal (errorCode safeErrorMessage : PyStr) : Exit where
  terminalStatus := .notEvaluable
  errorCode := some errorCode
  safeErrorMessage := some safeErrorMessage

/-- The exit of a call that raised. -/
def failedExit (apiKey : PyStr) : Raised → Except Raised Exit
  | .providerCall e => .ok
    { terminalStatus := .notEvaluable, providerAttempts := 1, observation := e.observation,
      errorCode := some e.errorCode, safeErrorMessage := some e.safeMessage }
  | .exception (some text) => .ok
    { terminalStatus := .notEvaluable, providerAttempts := 1, errorCode := some "TRANSPORT_ERROR",
      safeErrorMessage := some (safeErrorMessage text [apiKey]) }
  | .exception none => .error (.exception none)

/-- The exit of a call that returned an answer. -/
def passedExit (result : ProviderResult) : Exit where
  terminalStatus := .pass
  rawOutput := some result.rawOutput
  providerAttempts := 1
  observation := result.observation

/-- The outcome of a call that may raise, as a value. -/
def attempt {α : Type} (call : Bridge α) : Bridge (Except Raised α) :=
  tryCatch (do
    let a ← call
    return .ok a) fun e => pure (.error e)

/-- `run_blind_eval`. -/
def runBlindEval (req : BlindEvalRequest) (authorizeLiveCall : Bool) : Bridge (BlindEvalReceipt × Option PyStr) := do
  let startedAt ← nowFn
  let startedPerf ← perfFn
  let started : Started := ⟨startedAt, startedPerf⟩
  match buildInputEnvelope req.contextBytes req.promptBytes with
  | .error text =>
    finish req [] started { terminalStatus := .error, errorCode := some "INVALID_UTF8_INPUT", safeErrorMessage := some (safeErrorMessage text []) }
  | .ok envelope =>
    if authorizeLiveCall = false then
      finish req envelope started
        (refusal "LIVE_CALL_NOT_AUTHORIZED" "live call requires explicit authorization")
    else if req.providerProtocol ≠ openaiCompatibleProtocol then
      finish req envelope started
        (refusal "UNSUPPORTED_PROVIDER_PROTOCOL" "provider protocol is not implemented by this bridge version")
    else if safeProviderMetadata (.str req.requestedModelId) .model ≠ some req.requestedModelId then
      finish req envelope started
        (refusal "INVALID_REQUESTED_MODEL_ID" "requested model ID violates the strict token policy")
    else if req.thinkingMode ≠ none ∧ supported thinkingModes req.thinkingMode = none then
      finish req envelope started
        (refusal "INVALID_THINKING_MODE" "thinking mode is not supported by this bridge version")
    else if req.reasoningEffort ≠ none ∧ supported reasoningEfforts req.reasoningEffort = none then
      finish req envelope started
        (refusal "INVALID_REASONING_EFFORT" "reasoning effort is not supported by this bridge version")
    else if req.reasoningEffort ≠ none ∧ req.thinkingMode ≠ some "enabled" then
      finish req envelope started
        (refusal "INVALID_REASONING_CONFIGURATION" "reasoning effort requires explicitly enabled thinking mode")
    else
      match (← credentialLookup req.apiKeyEnv) with
      | none | some [] =>
        finish req envelope started
          (refusal "MISSING_CREDENTIAL" "configured provider credential is unavailable")
      | some apiKey =>
        match (← attempt (invokeOpenaiCompatible req apiKey envelope)) with
        | .error raised =>
          let exit ← Procedure.ofExcept (failedExit apiKey raised)
          finish req envelope started exit
        | .ok result => finish req envelope started (passedExit result)

end EvaluationLab.BlindEval
