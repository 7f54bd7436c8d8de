import EvaluationLab.BlindEval.Receipt

/-! The reading of one provider response: its text, its usage, its evidence, and the typed
error of every response without an answer. -/
namespace EvaluationLab.BlindEval
open Python

structure ProviderHTTPResponse where
  status : ℤ
  body : List UInt8
  deriving DecidableEq

structure ProviderResult where
  rawOutput : PyStr
  observation : ProviderObservation

/-- A typed failure without a provider body. -/
structure ProviderCallError where
  errorCode : PyStr
  safeMessage : PyStr
  observation : ProviderObservation

/-- What a provider call may raise. Any exception but the typed one is told apart by its text
alone, which is missing when `str(exc)` raises itself. -/
inductive Raised where
  | providerCall (e : ProviderCallError)
  | exception (text : Option PyStr)

/-- The text of one part of a list of parts. -/
def partText : Json → Option PyStr
  | .obj part =>
    match dictGet part "text" with
    | .str text => some text
    | _ => none
  | _ => none

/-- `_extract_text_content`. -/
def extractTextContent : Json → Option PyStr
  | .str s => some s
  | .arr items =>
    let parts := items.filterMap partText
    if parts = [] then none else some parts.flatten
  | _ => none

/-- A token count: an integer of 63 bits. -/
def tokenCount : Json → Option ℤ
  | .int n => if 0 ≤ n ∧ n ≤ 2 ^ 63 - 1 then some n else none
  | _ => none

/-- The first of the candidate keys that holds a count. -/
def firstCount (usage : List (PyStr × Json)) (candidates : List PyStr) : Option ℤ :=
  candidates.findSome? fun key => tokenCount (dictGet usage key)

/-- `_extract_usage`. -/
def extractUsage : Json → Option Usage
  | .obj usage =>
    let normalized := [(py "prompt_tokens", [py "prompt_tokens", py "input_tokens"]),
        (py "completion_tokens", [py "completion_tokens", py "output_tokens"]),
        (py "total_tokens", [py "total_tokens"])].filterMap fun (target, candidates) =>
      (firstCount usage candidates).map fun count => (target, count)
    if normalized = [] then none else some normalized
  | _ => none

/-- `choices[0]`, when it is an object. -/
def firstChoice (document : List (PyStr × Json)) : Option (List (PyStr × Json)) :=
  match dictGet document "choices" with
  | .arr (.obj choice :: _) => some choice
  | _ => none

/-- `choices[0].message`, when it is an object. -/
def messageOf (choice : List (PyStr × Json)) : Option (List (PyStr × Json)) :=
  match dictGet choice "message" with
  | .obj message => some message
  | _ => none

/-- The first of the reasoning fields a message has. -/
def reasoningKey (message : List (PyStr × Json)) : Option PyStr :=
  [py "reasoning_content", py "reasoning", py "analysis"].find? fun key => (message.lookup key).isSome

variable [PyRuntime]

/-- The evidence of a message field: its text, its length and its hash. -/
structure Evidence where
  text : Option PyStr
  bytes : Option ℕ
  sha256 : Option PyStr

/-- `_content_evidence`, or the text of its `UnicodeEncodeError`. -/
def contentEvidence (value : Json) (fieldPresent : Bool) : Except PyStr Evidence :=
  if fieldPresent = false then .ok ⟨none, none, none⟩
  else
    match extractTextContent value with
    | none => .ok ⟨none, some 0, none⟩
    | some text =>
      if encodable text then
        let encoded := utf8 text
        .ok ⟨some text, some encoded.length, if strip text = [] then none else some (sha256Bytes encoded)⟩
      else .error (encodeErrorText text)

/-- What a provider response is rejected with. -/
def reject (errorCode safeMessage : PyStr) (observation : ProviderObservation) : Raised :=
  .providerCall ⟨errorCode, safeMessage, observation⟩

/-- The JSON document of a response body. A text that is no JSON is rejected; other exceptions
pass. -/
def readDocument (response : ProviderHTTPResponse) : Except Raised Json :=
  let invalid := reject "INVALID_PROVIDER_JSON" "provider response is not valid UTF-8 JSON"
    { httpStatus := some response.status, responseJsonParsed := some false,
      responseSchemaParsed := some false, messageSchemaParsed := some false }
  match decodeUtf8 response.body with
  | none => .error invalid
  | some text =>
    match loads text with
    | .ok document => .ok document
    | .error e => .error (if e.isA "JSONDecodeError" then invalid else .exception (some e.message))

/-- The observation of a response whose message was read. -/
def messageObservation (status : ℤ) (document choice message : List (PyStr × Json))
    (reasoning content : Evidence) : ProviderObservation where
  httpStatus := some status
  responseJsonParsed := some true
  responseSchemaParsed := some true
  messageSchemaParsed := some true
  resolvedModelId := safeProviderMetadata (dictGet document "model") .model
  responseId := safeProviderMetadata (dictGet document "id") .responseId
  finishReason := safeProviderMetadata (dictGet choice "finish_reason") .finishReason
  reasoningFieldPresent := some (reasoningKey message).isSome
  reasoningBytes := reasoning.bytes
  reasoningSha256 := reasoning.sha256
  finalContentFieldPresent := some (message.lookup (py "content")).isSome
  finalContentBytes := content.bytes
  finalContentSha256 := content.sha256
  usage := extractUsage (dictGet document "usage")

/-- The reading of `choices[0].message`. -/
def readMessage (status : ℤ) (document choice message : List (PyStr × Json)) : Except Raised ProviderResult := do
  let reasoning ← (contentEvidence (((reasoningKey message).map (dictGet message)).getD .null)
    (reasoningKey message).isSome).mapError fun text => .exception (some text)
  let content ← (contentEvidence (dictGet message "content") (message.lookup (py "content")).isSome).mapError
    fun text => .exception (some text)
  let observation := messageObservation status document choice message reasoning content
  match content.text with
  | none => throw (reject "EMPTY_FINAL_CONTENT" "provider returned empty final content" observation)
  | some text =>
    if strip text = [] then
      throw (reject "EMPTY_FINAL_CONTENT" "provider returned empty final content" observation)
    else return ⟨text, observation⟩

/-- The reading of a response, as `_invoke_openai_compatible` does it. -/
def readResponse (response : ProviderHTTPResponse) : Except Raised ProviderResult := do
  if response.status < 200 ∨ 300 ≤ response.status then
    -- the message prints the status, which fails for one of too many digits
    if intPrintable response.status then
      throw (reject "PROVIDER_HTTP_ERROR" (py "provider returned HTTP " ++ intText response.status)
        { httpStatus := some response.status })
    else throw (.exception (some intTextError.message))
  else
    match ← readDocument response with
    | .obj document =>
      match firstChoice document with
      | none => throw (reject "INVALID_PROVIDER_SCHEMA" "provider response has no choices[0]"
          { httpStatus := some response.status, responseJsonParsed := some true,
            responseSchemaParsed := some false, messageSchemaParsed := some false,
            resolvedModelId := safeProviderMetadata (dictGet document "model") .model,
            responseId := safeProviderMetadata (dictGet document "id") .responseId,
            usage := extractUsage (dictGet document "usage") })
      | some choice =>
        match messageOf choice with
        | none => throw (reject "INVALID_PROVIDER_SCHEMA" "provider response has no choices[0].message"
            { httpStatus := some response.status, responseJsonParsed := some true,
              responseSchemaParsed := some true, messageSchemaParsed := some false,
              resolvedModelId := safeProviderMetadata (dictGet document "model") .model,
              responseId := safeProviderMetadata (dictGet document "id") .responseId,
              finishReason := safeProviderMetadata (dictGet choice "finish_reason") .finishReason,
              usage := extractUsage (dictGet document "usage") })
        | some message => readMessage response.status document choice message
    | _ => throw (reject "INVALID_PROVIDER_SCHEMA" "provider response JSON must be an object"
        { httpStatus := some response.status, responseJsonParsed := some true,
          responseSchemaParsed := some false, messageSchemaParsed := some false })

end EvaluationLab.BlindEval
