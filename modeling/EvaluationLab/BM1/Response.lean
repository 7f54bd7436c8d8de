import EvaluationLab.BM1.Manifest

/-! What a provider is sent, what comes back, and how a response is normalized, priced and
identified before anything is scored. -/
namespace EvaluationLab.BM1
open Python Effect QA0

inductive ProviderTerminal where
  | success | providerError | networkError | runtimeError
  deriving DecidableEq, Repr

def ProviderTerminal.text : ProviderTerminal → PyStr
  | success => "SUCCESS"
  | providerError => "PROVIDER_ERROR"
  | networkError => "NETWORK_ERROR"
  | runtimeError => "RUNTIME_ERROR"

/-- The terminal reason of an attempt whose provider did not succeed. -/
def ProviderTerminal.failure : ProviderTerminal → Option Reason
  | success => none
  | providerError => some .providerError
  | networkError => some .networkError
  | runtimeError => some .runtimeError

structure NormalizedProviderResponse where
  providerTerminalStatus : ProviderTerminal
  httpStatus : Option ℤ
  providerResponseId : Option PyStr
  resolvedModelId : Option PyStr
  finalText : Option PyStr
  finishReason : Option PyStr
  inputTokens : Option ℤ
  outputTokens : Option ℤ
  errorClass : Option PyStr
  deriving DecidableEq

/-- A response that never came, or could not be read. -/
def failedResponse (terminal : ProviderTerminal) (errorClass : PyStr) : NormalizedProviderResponse :=
  ⟨terminal, none, none, none, none, none, none, none, some errorClass⟩

def optionalText : Json → Option PyStr
  | .str s => if s = [] then none else some s
  | _ => none

def optionalInt : Json → Option ℤ
  | .int n => if 0 ≤ n then some n else none
  | _ => none

/-- `_optional_int(status) or (200 if success else None)`: a zero status is no status. -/
def httpStatusOr (status : Option ℤ) (success : Bool) : Option ℤ :=
  match status with
  | some n => if n = 0 then (if success then some 200 else none) else some n
  | none => if success then some 200 else none

/-- The text blocks of one output item. -/
def itemBlocks (itemType blockType : PyStr) : Json → List PyStr
  | .obj item =>
    if (dictGet item "type").isStr itemType then
      match dictGet item "content" with
      | .arr content => content.filterMap fun block =>
          match block with
          | .obj fields =>
            if (dictGet fields "type").isStr blockType then
              match dictGet fields "text" with
              | .str s => some s
              | _ => none
            else none
          | _ => none
      | _ => []
    else []
  | _ => []

/-- The final text: a plain `output_text`, or the joined blocks of the output list. -/
def finalTextOf (raw : Fields) (listKey itemType blockType : PyStr) : Option PyStr :=
  match dictGet raw "output_text" with
  | .str s => some s
  | _ =>
    match dictGet raw listKey with
    | .arr items =>
      let blocks := items.flatMap (itemBlocks itemType blockType)
      if blocks = [] then none else some blocks.flatten
    | _ => none

/-- `raw.get("usage")`, or an empty object. -/
def usageOf (raw : Fields) : Fields :=
  match dictGet raw "usage" with
  | .obj usage => usage
  | _ => []

/-- A response whose body carries an error. -/
def providerErrorResponse (raw : Fields) (inputKey outputKey : PyStr) : NormalizedProviderResponse :=
  ⟨.providerError, optionalInt (dictGet raw "_http_status"), optionalText (dictGet raw "id"),
    optionalText (dictGet raw "model"), none, none, optionalInt (dictGet (usageOf raw) inputKey),
    optionalInt (dictGet (usageOf raw) outputKey), some "ProviderResponseError"⟩

/-- A response without an error, of the given terminal status and finish reason. -/
def providerTerminalResponse (raw : Fields) (success : Bool) (text finishReason : Option PyStr)
    (inputKey outputKey : PyStr) : NormalizedProviderResponse :=
  ⟨if success then .success else .providerError,
    httpStatusOr (optionalInt (dictGet raw "_http_status")) success, optionalText (dictGet raw "id"),
    optionalText (dictGet raw "model"), text, finishReason,
    optionalInt (dictGet (usageOf raw) inputKey), optionalInt (dictGet (usageOf raw) outputKey),
    if success then none else some "ProviderTerminalStatus"⟩

def normalizeOpenaiResponse (raw : Fields) : Except PyExc NormalizedProviderResponse := do
  if (dictGet raw "error").truthy then
    return providerErrorResponse raw "input_tokens" "output_tokens"
  else
    let text := finalTextOf raw "output" "message" "output_text"
    let status := dictGet raw "status"
    -- membership in `{None, "completed"}` hashes the status first
    check (status.hashable = true) (typeError "unhashable type")
    return providerTerminalResponse raw (status.isNull || status.isStr "completed") text
      (optionalText status) "input_tokens" "output_tokens"

def normalizeGoogleResponse (raw : Fields) : NormalizedProviderResponse :=
  if (dictGet raw "error").truthy then
    providerErrorResponse raw "total_input_tokens" "total_output_tokens"
  else
    let text := finalTextOf raw "steps" "model_output" "text"
    let status : PyStr := (optionalText (dictGet raw "status")).getD "completed"
    providerTerminalResponse raw (status == py "completed") text (some status)
      "total_input_tokens" "total_output_tokens"

def normalizeProviderResponse (providerId : PyStr) (raw : Fields) :
    Except PyExc NormalizedProviderResponse :=
  if providerId = openaiProviderId then normalizeOpenaiResponse raw
  else if providerId = googleProviderId then .ok (normalizeGoogleResponse raw)
  else .error (contractError "unsupported provider")

/-- What the opener of a live transport did with a request. -/
inductive HttpExchange where
  | response (status : Option ℤ) (code : ℤ) (body : List UInt8)
  | httpError (code : ℤ) (body : List UInt8)
  | raised (e : PyExc)

/-- What a transport did with a request. -/
inductive Exchange where
  | live (exchange : HttpExchange)
  | offline (outcome : Except PyExc Json)

/-- `_identity`, with whether it is auditable. -/
inductive IdentityCertainty where
  | exact | aliasOnly | unknown
  deriving DecidableEq, Repr

def IdentityCertainty.text : IdentityCertainty → PyStr
  | exact => "EXACT"
  | aliasOnly => "ALIAS_ONLY"
  | unknown => "UNKNOWN"

def IdentityCertainty.limitation : IdentityCertainty → PyStr
  | exact => "NONE"
  | aliasOnly => "UNVERIFIABLE_ALIAS_DISCLOSED"
  | unknown => "RESOLVED_ID_MISSING"

def identity (p : Provider) (resolved : Option PyStr) : IdentityCertainty :=
  match resolved with
  | some id => if id = p.requestedModelId then .exact else if id = [] then .unknown else .aliasOnly
  | none => .unknown

/-- `_cost`. -/
def cost (p : Provider) (inputTokens outputTokens : Option ℤ) : Except PyExc (Option ℚ) :=
  match inputTokens, outputTokens with
  | some i, some o =>
    if i > maxInputTokensPerAttempt ∨ o > maxOutputTokensPerAttempt then
      .error (globalStop "provider-reported tokens exceed guard")
    else .ok (some ((i * p.pricing.inputUsdPerMillionTokens +
      o * p.pricing.outputUsdPerMillionTokens) / 1000000))
  | _, _ => .ok none

/-- The token guard of `_cost`. -/
def overTokenGuard (inputTokens outputTokens : Option ℤ) : Prop :=
  ∃ i o, inputTokens = some i ∧ outputTokens = some o ∧
    (i > maxInputTokensPerAttempt ∨ o > maxOutputTokensPerAttempt)

def worstCaseAttemptCostUsd (p : Provider) : Except PyExc ℚ := do
  let amount ← cost p (some maxInputTokensPerAttempt) (some maxOutputTokensPerAttempt)
  return amount.getD 0

theorem cost_isOk_iff (p : Provider) (i o : Option ℤ) :
    (∃ c, cost p i o = .ok c) ↔ ¬overTokenGuard i o := by
  unfold cost overTokenGuard
  cases i with
  | none => simp
  | some i =>
    cases o with
    | none => simp
    | some o =>
      by_cases h : i > maxInputTokensPerAttempt ∨ o > maxOutputTokensPerAttempt
      · simp [h]
      · simp [h]

variable [PyRuntime]

def invalidJsonResponse (status : ℤ) (kind : PyStr) : Fields :=
  [("_http_status", .int status), ("error", .obj [("type", .str kind)])]

/-- `_decode_json`. -/
def decodeJson (body : List UInt8) (status : ℤ) : Except PyExc Fields := do
  check (body.length ≤ maxProviderResponseBytes) (contractError "provider response byte guard exceeded")
  if body = [] then return [("_http_status", .int status)]
  else
    match decodeUtf8 body with
    | none => return invalidJsonResponse status "INVALID_JSON_RESPONSE"
    | some text =>
      match loads text with
      | .ok (.obj fields) => return dictSet fields "_http_status" (.int status)
      | .ok _ => return invalidJsonResponse status "NON_OBJECT_JSON_RESPONSE"
      | .error e =>
        if e.isA "JSONDecodeError" then return invalidJsonResponse status "INVALID_JSON_RESPONSE"
        else throw e

/-- The response object of a live exchange, as `run_next` reads it from the opener. -/
def httpCandidate : HttpExchange → Except PyExc Json
  | .response status code body => do
    let fields ← decodeJson (body.take (maxProviderResponseBytes + 1)) (status.getD code)
    return .obj fields
  | .httpError code body => do
    let fields ← decodeJson (body.take (maxProviderResponseBytes + 1)) code
    return .obj (dictSetdefault fields "error"
      (.obj [("type", .str "HTTP_ERROR"), ("status", .int code)]))
  | .raised e =>
    .error (if e.isA "URLError" then connectionError "provider network request failed" else e)

def candidate : Exchange → Except PyExc Json
  | .live exchange => httpCandidate exchange
  | .offline outcome => outcome

/-- The response object of an exchange; anything but an object is a `TypeError`. -/
def rawResponse (exchange : Exchange) : Except PyExc Fields := do
  match ← candidate exchange with
  | .obj fields => return fields
  | _ => throw (typeError "transport response must be object")

def secretFragments : List PyStr := ["authorization: bearer ", "\"authorization\":\"bearer ",
  "x-goog-api-key", "sk-proj-", "sk-live-"]

def secretText (s : PyStr) : Bool :=
  secretFragments.any fun fragment => contains fragment (PyRuntime.lower s)

/-- `_secret_marker`. -/
def secretMarker (document : Json) : Bool := (texts document).any secretText

def buildOpenaiRequest (requestedModelId prompt : PyStr) (maxOutputTokens : ℤ) : Except PyExc Json := do
  let body : Json := .obj [
    ("model", .str requestedModelId), ("input", .str prompt),
    ("reasoning", .obj [("effort", .str "low")]),
    ("max_output_tokens", .int maxOutputTokens), ("store", .bool false)]
  assertPublicSafe body
  return body

def buildGoogleRequest (requestedModelId prompt : PyStr) (maxOutputTokens : ℤ) : Except PyExc Json := do
  let body : Json := .obj [
    ("model", .str requestedModelId), ("input", .str prompt),
    ("generation_config", .obj [
      ("thinking_level", .str "low"), ("max_output_tokens", .int maxOutputTokens)]),
    ("store", .bool false)]
  assertPublicSafe body
  return body

def buildProviderRequest (p : Provider) (prompt : PyStr) : Except PyExc Json :=
  if p.providerId = openaiProviderId then
    buildOpenaiRequest p.requestedModelId prompt maxOutputTokensPerAttempt
  else if p.providerId = googleProviderId then
    buildGoogleRequest p.requestedModelId prompt maxOutputTokensPerAttempt
  else .error (contractError "unsupported provider")

end EvaluationLab.BM1
