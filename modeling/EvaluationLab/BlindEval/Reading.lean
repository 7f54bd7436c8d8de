import EvaluationLab.BlindEval.Response

/-! Which responses hold an answer, and what the reading of a response makes of them. -/
namespace EvaluationLab.BlindEval
open Python Effect

section Document

/-- `choices[0].message` of a document. -/
def choiceMessage (document : List (PyStr × Json)) : Option (List (PyStr × Json)) :=
  (firstChoice document).bind messageOf

/-- The extracted text of `choices[0].message.content`. -/
def contentText (document : List (PyStr × Json)) : Option PyStr :=
  (choiceMessage document).bind fun message => extractTextContent (dictGet message "content")

/-- The value of the reasoning field of a message. -/
def reasoningValue (message : List (PyStr × Json)) : Json :=
  ((reasoningKey message).map (dictGet message)).getD .null

/-- The extracted text of the message's reasoning field. -/
def reasoningText (document : List (PyStr × Json)) : Option PyStr :=
  (choiceMessage document).bind fun message => extractTextContent (reasoningValue message)

/-- The texts of a document's message can be encoded, as far as they are there. -/
def Readable (document : List (PyStr × Json)) : Prop :=
  ∀ text, contentText document = some text ∨ reasoningText document = some text → encodable text = true

theorem extract_reasoning_absent {message : List (PyStr × Json)} (h : (reasoningKey message).isSome = false) :
    extractTextContent (reasoningValue message) = none := by
  rw [Option.isSome_eq_false_iff, Option.isNone_iff_eq_none] at h
  rw [reasoningValue, h]
  rfl

theorem extract_content_absent {message : List (PyStr × Json)} {key : PyStr}
    (h : (message.lookup key).isSome = false) : extractTextContent (dictGet message key) = none := by
  rw [Option.isSome_eq_false_iff, Option.isNone_iff_eq_none] at h
  rw [dictGet, h]
  rfl

theorem choiceMessage_eq_some {document choice message : List (PyStr × Json)}
    (hchoice : firstChoice document = some choice) (hmessage : messageOf choice = some message) :
    choiceMessage document = some message := by
  rw [choiceMessage, hchoice]
  exact hmessage

end Document

variable [PyRuntime]

/-- The JSON object of a response body. -/
def bodyDocument (response : ProviderHTTPResponse) : Option (List (PyStr × Json)) :=
  match decodeUtf8 response.body with
  | none => none
  | some text =>
    match loads text with
    | .ok (.obj document) => some document
    | _ => none

/-- A response of the second hundred whose message content extracts to `text`, a text with a
UTF-8 encoding that is not blank. -/
structure Answers (response : ProviderHTTPResponse) (text : PyStr) : Prop where
  success : 200 ≤ response.status ∧ response.status < 300
  extracted : (bodyDocument response).bind contentText = some text
  encodable : encodable text = true
  notBlank : strip text ≠ []

/-- The reasoning text of a response, if it has one, has a UTF-8 encoding. -/
def ReasoningEncodable (response : ProviderHTTPResponse) : Prop :=
  ∀ text, (bodyDocument response).bind reasoningText = some text → encodable text = true

theorem contentEvidence_eq {value : Json} {present : Bool} (h : present = false → extractTextContent value = none) :
    contentEvidence value present = match extractTextContent value with
      | none => .ok ⟨none, if present then some 0 else none, none⟩
      | some text =>
        if encodable text then
          .ok ⟨some text, some (utf8 text).length, if strip text = [] then none else some (sha256Bytes (utf8 text))⟩
        else .error (encodeErrorText text) := by
  unfold contentEvidence
  cases present with
  | false => rw [h rfl]; rfl
  | true => rfl

/-- Evidence of a field holds its extracted text, which can be encoded. -/
theorem contentEvidence_ok {value : Json} {present : Bool} {e : Evidence}
    (h : present = false → extractTextContent value = none) (hok : contentEvidence value present = .ok e) :
    e.text = extractTextContent value ∧ ∀ text, extractTextContent value = some text →
      encodable text = true ∧ e.bytes = some (utf8 text).length ∧
        (strip text ≠ [] → e.sha256 = some (sha256Bytes (utf8 text))) := by
  rw [contentEvidence_eq h] at hok
  cases hvalue : extractTextContent value with
  | none =>
    rw [hvalue] at hok
    cases hok
    exact ⟨rfl, fun text htext => by cases htext⟩
  | some text =>
    rw [hvalue] at hok
    dsimp only at hok
    by_cases hencodable : encodable text = true
    · rw [if_pos hencodable] at hok
      cases hok
      constructor
      · rfl
      · rintro _ ⟨rfl⟩
        exact ⟨hencodable, rfl, fun hblank => if_neg hblank⟩
    · rw [if_neg hencodable] at hok
      cases hok

theorem contentEvidence_of_encodable {value : Json} {present : Bool}
    (h : present = false → extractTextContent value = none)
    (hencodable : ∀ text, extractTextContent value = some text → encodable text = true) :
    ∃ e, contentEvidence value present = .ok e := by
  rw [contentEvidence_eq h]
  cases hvalue : extractTextContent value with
  | none => exact ⟨_, rfl⟩
  | some text =>
    dsimp only
    rw [if_pos (hencodable text hvalue)]
    exact ⟨_, rfl⟩

omit [PyRuntime] in
theorem mapError_eq_ok {ε δ α : Type} {x : Except ε α} {f : ε → δ} {a : α} (h : x.mapError f = .ok a) :
    x = .ok a := by
  cases x with
  | ok b => exact congrArg Except.ok (Except.ok.inj h)
  | error e => cases h

/-- A message that reads as a result, and what the result holds. -/
theorem readMessage_ok {status : ℤ} {document choice message : List (PyStr × Json)} {result : ProviderResult}
    (h : readMessage status document choice message = .ok result) :
    extractTextContent (dictGet message "content") = some result.rawOutput ∧
      encodable result.rawOutput = true ∧ strip result.rawOutput ≠ [] ∧
      (∀ text, extractTextContent (reasoningValue message) = some text → encodable text = true) ∧
      ∃ reasoning content,
        contentEvidence (reasoningValue message) (reasoningKey message).isSome = .ok reasoning ∧
        contentEvidence (dictGet message "content") (message.lookup (py "content")).isSome = .ok content ∧
        result.observation = messageObservation status document choice message reasoning content ∧
        content.bytes = some (utf8 result.rawOutput).length ∧
        content.sha256 = some (sha256Bytes (utf8 result.rawOutput)) := by
  unfold readMessage at h
  simp only [bind_eq_ok_iff] at h
  obtain ⟨reasoning, hreasoning, content, hcontent, h⟩ := h
  obtain ⟨-, hr⟩ := contentEvidence_ok extract_reasoning_absent (mapError_eq_ok hreasoning)
  obtain ⟨htext, hc⟩ := contentEvidence_ok extract_content_absent (mapError_eq_ok hcontent)
  split at h
  · cases h
  · rename_i text hsome
    by_cases hblank : strip text = []
    · rw [if_pos hblank] at h
      cases h
    · rw [if_neg hblank] at h
      cases h
      rw [hsome] at htext
      obtain ⟨hencodable, hbytes, hsha⟩ := hc text htext.symm
      exact ⟨htext.symm, hencodable, hblank, fun t ht => (hr t ht).1, reasoning, content,
        mapError_eq_ok hreasoning, mapError_eq_ok hcontent, rfl, hbytes, hsha hblank⟩

theorem readMessage_of_text {status : ℤ} {document choice message : List (PyStr × Json)} {text : PyStr}
    (htext : extractTextContent (dictGet message "content") = some text) (hencodable : encodable text = true)
    (hblank : strip text ≠ [])
    (hr : ∀ text, extractTextContent (reasoningValue message) = some text → encodable text = true) :
    ∃ observation, readMessage status document choice message = .ok ⟨text, observation⟩ := by
  obtain ⟨reasoning, hreasoning⟩ := contentEvidence_of_encodable extract_reasoning_absent hr
  have hreadable : ∀ t, extractTextContent (dictGet message "content") = some t → encodable t = true := by
    intro t ht
    rw [htext, Option.some.injEq] at ht
    rwa [← ht]
  obtain ⟨content, hcontent⟩ := contentEvidence_of_encodable extract_content_absent hreadable
  obtain ⟨hsome, -⟩ := contentEvidence_ok extract_content_absent hcontent
  refine ⟨messageObservation status document choice message reasoning content, ?_⟩
  unfold readMessage
  rw [← reasoningValue, hreasoning, hcontent]
  show (match content.text with
    | none => _
    | some text => _) = _
  rw [hsome, htext]
  dsimp only
  rw [if_neg hblank]
  rfl

theorem readDocument_ok {response : ProviderHTTPResponse} {document : List (PyStr × Json)} :
    readDocument response = .ok (.obj document) ↔ bodyDocument response = some document := by
  unfold readDocument bodyDocument
  cases decodeUtf8 response.body with
  | none => simp
  | some text =>
    dsimp only
    cases loads text with
    | error e => simp
    | ok value => cases value <;> simp

/-- The reading of a successful response whose message is there. -/
theorem readResponse_message {response : ProviderHTTPResponse} {document choice message : List (PyStr × Json)}
    (hstatus : 200 ≤ response.status ∧ response.status < 300) (hdocument : bodyDocument response = some document)
    (hchoice : firstChoice document = some choice) (hmessage : messageOf choice = some message) :
    readResponse response = readMessage response.status document choice message := by
  have hno : ¬(response.status < 200 ∨ 300 ≤ response.status) := by omega
  unfold readResponse
  rw [if_neg hno, readDocument_ok.mpr hdocument]
  dsimp only [bind, Except.bind]
  rw [hchoice]
  dsimp only
  rw [hmessage]

/-- A result comes from a successful response with a message. -/
theorem readResponse_ok {response : ProviderHTTPResponse} {result : ProviderResult}
    (h : readResponse response = .ok result) : ∃ document choice message,
      (200 ≤ response.status ∧ response.status < 300) ∧ bodyDocument response = some document ∧
      firstChoice document = some choice ∧ messageOf choice = some message ∧
      readMessage response.status document choice message = .ok result := by
  unfold readResponse at h
  by_cases hstatus : response.status < 200 ∨ 300 ≤ response.status
  · rw [if_pos hstatus] at h
    split at h <;> cases h
  · rw [if_neg hstatus] at h
    obtain ⟨value, hvalue, h⟩ := bind_eq_ok_iff.mp h
    split at h
    · rename_i document
      split at h
      · cases h
      · rename_i choice hchoice
        split at h
        · cases h
        · rename_i message hmessage
          exact ⟨document, choice, message, by omega, readDocument_ok.mp hvalue, hchoice, hmessage, h⟩
    · cases h

/-- The hash in the evidence of a field is that of its extracted text. -/
theorem contentEvidence_sha256 {value : Json} {present : Bool} {e : Evidence} {digest : PyStr}
    (h : present = false → extractTextContent value = none) (hok : contentEvidence value present = .ok e)
    (hdigest : e.sha256 = some digest) :
    ∃ text, extractTextContent value = some text ∧ digest = sha256Bytes (utf8 text) := by
  rw [contentEvidence_eq h] at hok
  cases hvalue : extractTextContent value with
  | none =>
    rw [hvalue] at hok
    cases hok
    cases hdigest
  | some text =>
    rw [hvalue] at hok
    dsimp only at hok
    by_cases hencodable : encodable text = true
    · rw [if_pos hencodable] at hok
      cases hok
      dsimp only at hdigest
      split_ifs at hdigest
      exact ⟨text, rfl, (Option.some.inj hdigest).symm⟩
    · rw [if_neg hencodable] at hok
      cases hok

theorem contentEvidence_error {value : Json} {present : Bool} {message : PyStr}
    (h : present = false → extractTextContent value = none) (herror : contentEvidence value present = .error message) :
    ∃ text, extractTextContent value = some text ∧ encodable text = false := by
  rw [contentEvidence_eq h] at herror
  cases hvalue : extractTextContent value with
  | none =>
    rw [hvalue] at herror
    cases herror
  | some text =>
    rw [hvalue] at herror
    dsimp only at herror
    by_cases hencodable : encodable text = true
    · rw [if_pos hencodable] at herror
      cases herror
    · exact ⟨text, rfl, Bool.eq_false_iff.mpr hencodable⟩

/-- A response of the second hundred. -/
def Successful (response : ProviderHTTPResponse) : Prop := 200 ≤ response.status ∧ response.status < 300

/-- The ways a response is rejected, with the observation each keeps. -/
inductive Rejection (response : ProviderHTTPResponse) : Raised → Prop where
  | httpError : ¬Successful response → intPrintable response.status = true →
      Rejection response (reject "PROVIDER_HTTP_ERROR"
        (py "provider returned HTTP " ++ intText response.status) { httpStatus := some response.status })
  | unread (text : PyStr) :
      (∀ document, Successful response → bodyDocument response = some document → ¬Readable document) →
      Rejection response (.exception (some text))
  | invalidJson : bodyDocument response = none →
      Rejection response (reject "INVALID_PROVIDER_JSON" "provider response is not valid UTF-8 JSON"
        { httpStatus := some response.status, responseJsonParsed := some false,
          responseSchemaParsed := some false, messageSchemaParsed := some false })
  | notObject : bodyDocument response = none →
      Rejection response (reject "INVALID_PROVIDER_SCHEMA" "provider response JSON must be an object"
        { httpStatus := some response.status, responseJsonParsed := some true,
          responseSchemaParsed := some false, messageSchemaParsed := some false })
  | noChoice {document : List (PyStr × Json)} : Successful response → bodyDocument response = some document →
      firstChoice document = none →
      Rejection response (reject "INVALID_PROVIDER_SCHEMA" "provider response has no choices[0]"
        { httpStatus := some response.status, responseJsonParsed := some true,
          responseSchemaParsed := some false, messageSchemaParsed := some false,
          resolvedModelId := safeProviderMetadata (dictGet document "model") .model,
          responseId := safeProviderMetadata (dictGet document "id") .responseId,
          usage := extractUsage (dictGet document "usage") })
  | noMessage {document choice : List (PyStr × Json)} : Successful response →
      bodyDocument response = some document → firstChoice document = some choice → messageOf choice = none →
      Rejection response (reject "INVALID_PROVIDER_SCHEMA" "provider response has no choices[0].message"
        { httpStatus := some response.status, responseJsonParsed := some true,
          responseSchemaParsed := some true, messageSchemaParsed := some false,
          resolvedModelId := safeProviderMetadata (dictGet document "model") .model,
          responseId := safeProviderMetadata (dictGet document "id") .responseId,
          finishReason := safeProviderMetadata (dictGet choice "finish_reason") .finishReason,
          usage := extractUsage (dictGet document "usage") })
  | empty {document choice message : List (PyStr × Json)} {reasoning content : Evidence} :
      Successful response → bodyDocument response = some document → firstChoice document = some choice →
      messageOf choice = some message →
      contentEvidence (reasoningValue message) (reasoningKey message).isSome = .ok reasoning →
      contentEvidence (dictGet message "content") (message.lookup (py "content")).isSome = .ok content →
      (∀ text, content.text = some text → strip text = []) →
      Rejection response (reject "EMPTY_FINAL_CONTENT" "provider returned empty final content"
        (messageObservation response.status document choice message reasoning content))

omit [PyRuntime] in
theorem mapError_eq_error {ε δ α : Type} {x : Except ε α} {f : ε → δ} {e : δ} (h : x.mapError f = .error e) :
    ∃ d, x = .error d ∧ e = f d := by
  cases x with
  | ok b => cases h
  | error d => exact ⟨d, rfl, (Except.error.inj h).symm⟩

theorem readMessage_error {response : ProviderHTTPResponse} {document choice message : List (PyStr × Json)}
    {raised : Raised} (hsuccess : Successful response) (hdocument : bodyDocument response = some document)
    (hchoice : firstChoice document = some choice) (hmessage : messageOf choice = some message)
    (h : readMessage response.status document choice message = .error raised) : Rejection response raised := by
  have hm := choiceMessage_eq_some hchoice hmessage
  unfold readMessage at h
  rw [← reasoningValue] at h
  cases hreasoning : contentEvidence (reasoningValue message) (reasoningKey message).isSome with
  | error text =>
    rw [hreasoning] at h
    cases h
    refine .unread text fun d _ hd hreadable => ?_
    obtain rfl := Option.some.inj (hdocument.symm.trans hd)
    obtain ⟨t, ht, hbad⟩ := contentEvidence_error extract_reasoning_absent hreasoning
    rw [hreadable t (.inr (by rw [reasoningText, hm]; exact ht))] at hbad
    cases hbad
  | ok reasoning =>
    rw [hreasoning] at h
    cases hcontent : contentEvidence (dictGet message "content") (message.lookup (py "content")).isSome with
    | error text =>
      rw [hcontent] at h
      cases h
      refine .unread text fun d _ hd hreadable => ?_
      obtain rfl := Option.some.inj (hdocument.symm.trans hd)
      obtain ⟨t, ht, hbad⟩ := contentEvidence_error extract_content_absent hcontent
      rw [hreadable t (.inl (by rw [contentText, hm]; exact ht))] at hbad
      cases hbad
    | ok content =>
      rw [hcontent] at h
      change (match content.text with
        | none => _
        | some text => _) = _ at h
      split at h
      · rename_i hnone
        cases h
        exact .empty hsuccess hdocument hchoice hmessage hreasoning hcontent fun text htext => by
          rw [hnone] at htext
          cases htext
      · rename_i text hsome
        by_cases hblank : strip text = []
        · rw [if_pos hblank] at h
          cases h
          exact .empty hsuccess hdocument hchoice hmessage hreasoning hcontent fun t ht => by
            rw [hsome, Option.some.injEq] at ht
            rwa [← ht]
        · rw [if_neg hblank] at h
          cases h

theorem readDocument_error {response : ProviderHTTPResponse} {raised : Raised}
    (h : readDocument response = .error raised) : Rejection response raised := by
  have hnone : bodyDocument response = none := by
    rw [← Option.not_isSome_iff_eq_none, Option.isSome_iff_exists]
    rintro ⟨document, hdocument⟩
    rw [readDocument_ok.mpr hdocument] at h
    cases h
  unfold readDocument at h
  dsimp only at h
  split at h
  · cases h
    exact .invalidJson hnone
  · split at h
    · cases h
    · split_ifs at h
      · cases h
        exact .invalidJson hnone
      · cases h
        exact .unread _ fun document _ hdocument => by
          rw [hnone] at hdocument
          cases hdocument

theorem readResponse_error {response : ProviderHTTPResponse} {raised : Raised}
    (h : readResponse response = .error raised) : Rejection response raised := by
  unfold readResponse at h
  by_cases hstatus : response.status < 200 ∨ 300 ≤ response.status
  · have hfailed : ¬Successful response := by
      unfold Successful
      omega
    rw [if_pos hstatus] at h
    by_cases hprintable : intPrintable response.status = true
    · rw [if_pos hprintable] at h
      cases h
      exact .httpError hfailed hprintable
    · rw [if_neg hprintable] at h
      cases h
      exact .unread _ fun document hsuccess => absurd hsuccess hfailed
  · have hsuccess : Successful response := by
      unfold Successful
      omega
    rw [if_neg hstatus] at h
    cases hvalue : readDocument response with
    | error e =>
      rw [hvalue] at h
      cases h
      exact readDocument_error hvalue
    | ok value =>
      rw [hvalue] at h
      dsimp only [bind, Except.bind] at h
      split at h
      · rename_i document
        have hdocument := readDocument_ok.mp hvalue
        split at h
        · rename_i hchoice
          cases h
          exact .noChoice hsuccess hdocument hchoice
        · rename_i choice hchoice
          split at h
          · rename_i hmessage
            cases h
            exact .noMessage hsuccess hdocument hchoice hmessage
          · rename_i message hmessage
            exact readMessage_error hsuccess hdocument hchoice hmessage h
      · rename_i hother
        cases h
        refine .notObject ?_
        rw [← Option.not_isSome_iff_eq_none, Option.isSome_iff_exists]
        rintro ⟨document, hdocument⟩
        rw [readDocument_ok.mpr hdocument] at hvalue
        exact hother document (Except.ok.inj hvalue).symm

theorem answers_of_readResponse {response : ProviderHTTPResponse} {result : ProviderResult}
    (h : readResponse response = .ok result) : Answers response result.rawOutput ∧ ReasoningEncodable response := by
  obtain ⟨document, choice, message, hstatus, hdocument, hchoice, hmessage, hread⟩ := readResponse_ok h
  obtain ⟨htext, hencodable, hblank, hreasoning, -⟩ := readMessage_ok hread
  have hm := choiceMessage_eq_some hchoice hmessage
  constructor
  · refine ⟨hstatus, ?_, hencodable, hblank⟩
    rw [hdocument, Option.bind_some, contentText, hm]
    exact htext
  · intro text ht
    rw [hdocument, Option.bind_some, reasoningText, hm] at ht
    exact hreasoning text ht

/-- What a result observed of its response. -/
theorem observation_of_readResponse {response : ProviderHTTPResponse} {result : ProviderResult}
    (h : readResponse response = .ok result) : result.observation.httpStatus = some response.status ∧
      result.observation.finalContentBytes = some (utf8 result.rawOutput).length ∧
      result.observation.finalContentSha256 = some (sha256Bytes (utf8 result.rawOutput)) := by
  obtain ⟨document, choice, message, -, -, -, -, hread⟩ := readResponse_ok h
  obtain ⟨-, -, -, -, reasoning, content, -, -, hobservation, hbytes, hsha⟩ := readMessage_ok hread
  rw [hobservation]
  exact ⟨rfl, hbytes, hsha⟩

/-- A response with an answer reads as it, unless its reasoning text cannot be encoded. -/
theorem readResponse_of_answers {response : ProviderHTTPResponse} {text : PyStr} (h : Answers response text)
    (hr : ReasoningEncodable response) : ∃ observation, readResponse response = .ok ⟨text, observation⟩ := by
  obtain ⟨document, hdocument, hcontent⟩ := Option.bind_eq_some_iff.mp h.extracted
  obtain ⟨message, hm, htext⟩ := Option.bind_eq_some_iff.mp hcontent
  obtain ⟨choice, hchoice, hmessage⟩ := Option.bind_eq_some_iff.mp hm
  rw [readResponse_message h.success hdocument hchoice hmessage]
  apply readMessage_of_text htext h.encodable h.notBlank
  intro t ht
  apply hr
  rw [hdocument, Option.bind_some, reasoningText, hm]
  exact ht

end EvaluationLab.BlindEval
