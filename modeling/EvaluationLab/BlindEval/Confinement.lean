import EvaluationLab.BlindEval.Conclusion
import EvaluationLab.BlindEval.Redaction

/-! Whether the credential of a run reaches its receipt. -/
namespace EvaluationLab.BlindEval
open Python Effect

/-- The text fields of a request. -/
def BlindEvalRequest.texts (req : BlindEvalRequest) : List PyStr :=
  [req.runId, req.providerLabel, req.providerProtocol, req.requestedModelId, req.endpoint, req.apiKeyEnv] ++
    req.thinkingMode.toList ++ req.reasoningEffort.toList ++ req.gitCommit.toList

/-- The text of a string. -/
def stringText : Json → Option PyStr
  | .str text => some text
  | _ => none

/-- The string fields of a receipt. -/
def BlindEvalReceipt.strings (r : BlindEvalReceipt) : List PyStr := r.document.filterMap fun field => stringText field.2

/-- The texts of an observation. -/
def ProviderObservation.texts (o : ProviderObservation) : List PyStr :=
  o.resolvedModelId.toList ++ o.responseId.toList ++ o.finishReason.toList ++ o.reasoningSha256.toList ++
    o.finalContentSha256.toList

def ProviderCallError.texts (e : ProviderCallError) : List PyStr :=
  [e.errorCode, e.safeMessage] ++ e.observation.texts

/-- No string field of the receipt contains the key. -/
def Confined (key : PyStr) (receipt : BlindEvalReceipt) : Prop := ∀ text ∈ receipt.strings, ¬key <:+: text

/-- The fixed texts of the bridge that have a word of twenty characters. -/
def bridgeTexts : List PyStr := [protocolVersion, inputEnvelopeVersion, "LIVE_CALL_NOT_AUTHORIZED",
  "UNSUPPORTED_PROVIDER_PROTOCOL", "INVALID_REQUESTED_MODEL_ID", "INVALID_THINKING_MODE",
  "INVALID_REASONING_EFFORT", "INVALID_REASONING_CONFIGURATION", "INVALID_PROVIDER_JSON",
  "INVALID_PROVIDER_SCHEMA"]

/-- The texts an exit brings into its receipt. -/
def Exit.texts (exit : Exit) : List PyStr :=
  exit.errorCode.toList ++ exit.safeErrorMessage.toList ++ exit.observation.texts

/-- The fixed texts of the bridge without a word of twenty characters. -/
def shortTexts : List PyStr := [TerminalStatus.pass.text, TerminalStatus.notEvaluable.text, TerminalStatus.error.text,
  "INVALID_UTF8_INPUT", "TRANSPORT_ERROR", "PROVIDER_HTTP_ERROR", "provider returned HTTP",
  "provider response is not valid UTF-8 JSON", "provider response JSON must be an object",
  "provider response has no choices[0]", "provider response has no choices[0].message", "EMPTY_FINAL_CONTENT",
  "provider returned empty final content"]

theorem shortTexts_short : (∀ t ∈ shortTexts, shortWords t = true) ∧
    py "provider returned HTTP " = py "provider returned HTTP" ++ [32] := by decide +kernel

theorem PlainKey.not_infix_shortTexts {key text : PyStr} (hplain : PlainKey key) (h : text ∈ shortTexts) : ¬key <:+: text :=
  hplain.not_infix_of_shortWords (shortTexts_short.1 text h)

theorem refusal_texts : ∀ exit ∈ refusals, ∀ t ∈ exit.texts, t ∈ bridgeTexts ∨ shortWords t = true := by
  decide +kernel

section Confinement

variable [PyRuntime]

/-- Bytes whose hash may stand in the receipt. -/
def Hashed (req : BlindEvalRequest) (transcript : Transcript) (bytes : List UInt8) : Prop :=
  bytes = [] ∨ bytes = req.contextBytes ∨ bytes = req.promptBytes ∨
    buildInputEnvelope req.contextBytes req.promptBytes = .ok bytes ∨
    ∃ e ∈ transcript.exchanges, ∃ response document text, e.answer = .ok response ∧
      bodyDocument response = some document ∧
      (contentText document = some text ∨ reasoningText document = some text) ∧ bytes = utf8 text

/-- The key is no part of what the bridge writes on its own: its constants, its clock, its
hashes and the number of a status. -/
structure Foreign (key : PyStr) (req : BlindEvalRequest) (transcript : Transcript) : Prop where
  constants : ∀ text ∈ bridgeTexts, ¬key <:+: text
  times : ∀ time ∈ transcript.times, ¬key <:+: time
  hashes : ∀ bytes, Hashed req transcript bytes → ¬key <:+: sha256Bytes bytes
  statuses : ∀ e ∈ transcript.exchanges, ∀ response, e.answer = .ok response → ¬key <:+: intText response.status
  inputError : ∀ text, buildInputEnvelope req.contextBytes req.promptBytes = .error text →
    ¬key <:+: safeErrorMessage text []

/-- A successful response that shows the key in its `model`, its `id` or its finish reason. -/
def ResponseEchoes (key : PyStr) (response : ProviderHTTPResponse) : Prop :=
  Successful response ∧ ∃ document, bodyDocument response = some document ∧
    Readable document ∧
    (TokenShows key (dictGet document "model") .model ∨ TokenShows key (dictGet document "id") .responseId ∨
      ∃ choice, firstChoice document = some choice ∧
        TokenShows key (dictGet choice "finish_reason") .finishReason)

/-- The transport shows the key: in the metadata of a response, or in a typed error of its own. -/
def Echoed (key : PyStr) (transcript : Transcript) : Prop :=
  ∃ e ∈ transcript.exchanges, (∃ response, e.answer = .ok response ∧ ResponseEchoes key response) ∨
    ∃ error, e.answer = .error (.providerCall error) ∧ ∃ text ∈ error.texts, key <:+: text

/-- The run was ended by an exception that has only a text. -/
def Excepted (transcript : Transcript) : Prop :=
  ∃ e ∈ transcript.exchanges, ∃ text, reading e.answer = .error (.exception text)

/-- What keeps the key out of the receipt. -/
structure Kept (key : PyStr) (req : BlindEvalRequest) (transcript : Transcript) : Prop where
  foreign : Foreign key req transcript
  ending : Excepted transcript → OrdinaryEnding key
  notEchoed : ¬Echoed key transcript

section Strings

omit [PyRuntime]

theorem stringText_str (text : PyStr) : stringText (.str text) = some text := rfl

theorem stringText_int (n : ℤ) : stringText (.int n) = none := rfl

theorem stringText_float (x : PyFloat) : stringText (.float x) = none := rfl

theorem stringText_orNull_str (o : Option PyStr) : stringText (orNull .str o) = o := by cases o <;> rfl

/-- An optional field of another type is no string. -/
theorem stringText_orNull {α : Type} {toJson : α → Json} (h : ∀ a, stringText (toJson a) = none) (o : Option α) :
    stringText (orNull toJson o) = none := by
  cases o with
  | none => rfl
  | some a => exact h a

theorem mem_strings {r : BlindEvalReceipt} {text : PyStr} : text ∈ r.strings ↔
    some text ∈ [some r.schemaVersion, some r.runId, some r.terminalStatus.text, some r.protocolVersion,
      some r.envelopeVersion, some r.providerLabel, some r.providerProtocol, r.requestedModelId,
      r.requestedThinkingMode, r.requestedReasoningEffort, r.resolvedModelId, some r.contextSha256,
      some r.promptSha256, some r.inputEnvelopeSha256, r.rawOutputSha256, some r.startedAt, some r.completedAt,
      r.providerResponseId, r.finishReason, r.reasoningSha256, r.finalContentSha256, r.errorCode,
      r.safeErrorMessage, r.gitCommit] := by
  have hmap : text ∈ r.strings ↔ some text ∈ r.document.map fun field => stringText field.2 := by
    rw [BlindEvalReceipt.strings, List.mem_filterMap, List.mem_map]
  have hcount : ∀ o : Option ℕ, stringText (orNull (fun n : ℕ => .int n) o) = none :=
    stringText_orNull fun n => rfl
  have hint : ∀ o : Option ℤ, stringText (orNull .int o) = none := stringText_orNull fun n => rfl
  have hbool : ∀ o : Option Bool, stringText (orNull .bool o) = none := stringText_orNull fun b => rfl
  have hfloat : ∀ o : Option PyFloat, stringText (orNull .float o) = none := stringText_orNull fun x => rfl
  have husage : ∀ o : Option Usage, stringText (orNull usageJson o) = none := stringText_orNull fun u => rfl
  rw [hmap]
  simp only [BlindEvalReceipt.document, BlindEvalReceipt.requestFields, BlindEvalReceipt.outcomeFields,
    List.map_append, List.map_cons, List.map_nil, stringText_str, stringText_int, stringText_float,
    stringText_orNull_str, hcount, hint, hbool, hfloat, husage, List.mem_append, List.mem_cons, List.not_mem_nil,
    or_false, false_or, reduceCtorEq, or_assoc]

end Strings

section Receipt

variable {key : PyStr} {req : BlindEvalRequest} {envelope : List UInt8} {started : Started} {exit : Exit}
  {completedAt : PyStr} {rawBytes : Option (List UInt8)} {finished : PyFloat}

/-- What an exit brings stands in the receipt. -/
theorem mem_strings_of_exit {text : PyStr} (h : text ∈ exit.texts) :
    text ∈ (receiptOf req envelope started exit completedAt rawBytes finished).strings := by
  rw [mem_strings]
  simp only [Exit.texts, ProviderObservation.texts, List.mem_append, Option.mem_toList] at h
  simp only [receiptOf, List.mem_cons, List.not_mem_nil, or_false]
  rcases h with (h | h) | ((((h | h) | h) | h) | h) <;> simp [h]

omit [PyRuntime] in
theorem not_infix_supported {values : List PyStr} {value : Option PyStr} {text : PyStr}
    (h : ∀ t ∈ value.toList, ¬key <:+: t) (hsupported : some text = supported values value) : ¬key <:+: text := by
  have hsome := Option.filter_eq_some_iff.mp hsupported.symm
  exact h text (by rw [hsome.1]; exact List.mem_singleton_self text)

omit [PyRuntime] in
theorem not_infix_requestedModel (hplain : PlainKey key) {value text : PyStr} (h : ¬key <:+: value)
    (hsome : some text = safeProviderMetadata (.str value) .model) : ¬key <:+: text := by
  obtain ⟨s, hs, rfl, -⟩ := safeProviderMetadata_eq_some.mp hsome.symm
  cases hs
  rwa [infix_strip_iff hplain]

/-- A receipt is confined once the texts of its exit, its hashes and its clock are. -/
theorem confined_receiptOf (hplain : PlainKey key) (hrequest : ∀ t ∈ req.texts, ¬key <:+: t)
    (hconstants : ∀ t ∈ bridgeTexts, ¬key <:+: t) (htimes : ¬key <:+: started.startedAt ∧ ¬key <:+: completedAt)
    (hhashes : ∀ bytes, bytes = req.contextBytes ∨ bytes = req.promptBytes ∨ bytes = envelope ∨
      rawBytes = some bytes → ¬key <:+: sha256Bytes bytes)
    (hexit : ∀ t ∈ exit.texts, ¬key <:+: t) :
    Confined key (receiptOf req envelope started exit completedAt rawBytes finished) := by
  intro text htext
  rw [mem_strings] at htext
  have hprotocol : ¬key <:+: protocolVersion := hconstants _ (by simp [bridgeTexts])
  have hstatus : ¬key <:+: exit.terminalStatus.text := by
    apply hplain.not_infix_shortTexts
    cases exit.terminalStatus <;> simp [shortTexts]
  have hexit' : ∀ o : Option PyStr, (∀ t ∈ o.toList, t ∈ exit.texts) → some text = o → ¬key <:+: text := by
    rintro _ ho rfl
    exact hexit text (ho text (List.mem_singleton_self text))
  have hmem : ∀ o ∈ [exit.errorCode, exit.safeErrorMessage, exit.observation.resolvedModelId,
      exit.observation.responseId, exit.observation.finishReason, exit.observation.reasoningSha256,
      exit.observation.finalContentSha256], ∀ t ∈ o.toList, t ∈ exit.texts := by
    intro o ho t ht
    simp only [List.mem_cons, List.not_mem_nil, or_false] at ho
    simp only [Exit.texts, ProviderObservation.texts, List.mem_append]
    rcases ho with rfl | rfl | rfl | rfl | rfl | rfl | rfl <;> simp [ht]
  simp only [BlindEvalRequest.texts, List.mem_append, Option.mem_toList] at hrequest
  simp only [receiptOf, List.mem_cons, List.not_mem_nil, or_false, Option.some.injEq] at htext
  rcases htext with rfl | rfl | rfl | rfl | rfl | rfl | rfl | hmodel | hthinking | heffort | hresolved | rfl | rfl |
    rfl | hraw | rfl | rfl | hresponse | hreason | hreasoning | hfinal | hcode | hmessage | hcommit
  · exact hprotocol
  · exact hrequest _ (by simp)
  · exact hstatus
  · exact hprotocol
  · exact hconstants _ (by simp [bridgeTexts])
  · exact hrequest _ (by simp)
  · exact hrequest _ (by simp)
  · exact not_infix_requestedModel hplain (hrequest _ (by simp)) hmodel
  · exact not_infix_supported (fun t ht => hrequest t (by simp [Option.mem_toList.mp ht])) hthinking
  · exact not_infix_supported (fun t ht => hrequest t (by simp [Option.mem_toList.mp ht])) heffort
  · exact hexit' _ (hmem _ (by simp)) hresolved
  · exact hhashes _ (.inl rfl)
  · exact hhashes _ (.inr (.inl rfl))
  · exact hhashes _ (.inr (.inr (.inl rfl)))
  · obtain ⟨bytes, hbytes, rfl⟩ := Option.map_eq_some_iff.mp hraw.symm
    exact hhashes _ (.inr (.inr (.inr hbytes)))
  · exact htimes.1
  · exact htimes.2
  · exact hexit' _ (hmem _ (by simp)) hresponse
  · exact hexit' _ (hmem _ (by simp)) hreason
  · exact hexit' _ (hmem _ (by simp)) hreasoning
  · exact hexit' _ (hmem _ (by simp)) hfinal
  · exact hexit' _ (hmem _ (by simp)) hcode
  · exact hexit' _ (hmem _ (by simp)) hmessage
  · exact hrequest text (by simp [hcommit.symm])

end Receipt

section Exits

variable {key : PyStr} {req : BlindEvalRequest} {transcript : Transcript}

/-- A refusal does not show the key. -/
theorem refuses_free (hplain : PlainKey key) (hforeign : Foreign key req transcript) {exit : Exit}
    (h : Refuses req exit) : ∀ t ∈ exit.texts, ¬key <:+: t := by
  intro t ht
  rcases h with h | ⟨text, htext, rfl⟩
  · rcases refusal_texts exit h t ht with hmem | hshort
    · exact hforeign.constants t hmem
    · exact hplain.not_infix_of_shortWords hshort
  · rcases List.mem_cons.mp ht with rfl | ht
    · exact hplain.not_infix_shortTexts (by simp [shortTexts])
    · rw [List.mem_singleton.mp ht]
      exact hforeign.inputError text htext

omit [PyRuntime] in
theorem token_free_iff (hplain : PlainKey key) {value : Json} {kind : MetadataKind} :
    (∀ t ∈ (safeProviderMetadata value kind).toList, ¬key <:+: t) ↔ ¬TokenShows key value kind := by
  rw [tokenShows_iff hplain, not_exists]
  simp only [Option.mem_toList, not_and]

/-- The hashes of a message's evidence do not show a foreign key. -/
theorem evidence_free {e : Exchange} {response : ProviderHTTPResponse} {document message : List (PyStr × Json)}
    {reasoning content : Evidence} (hforeign : Foreign key req transcript) (he : e ∈ transcript.exchanges)
    (hanswer : e.answer = .ok response) (hdocument : bodyDocument response = some document)
    (hm : choiceMessage document = some message)
    (hreasoning : contentEvidence (reasoningValue message) (reasoningKey message).isSome = .ok reasoning)
    (hcontent : contentEvidence (dictGet message "content") (message.lookup (py "content")).isSome = .ok content) :
    (∀ t ∈ reasoning.sha256.toList, ¬key <:+: t) ∧ ∀ t ∈ content.sha256.toList, ¬key <:+: t := by
  constructor
  · intro t ht
    obtain ⟨text, htext, rfl⟩ := contentEvidence_sha256 extract_reasoning_absent hreasoning (Option.mem_toList.mp ht)
    apply hforeign.hashes
    exact .inr (.inr (.inr (.inr ⟨e, he, response, document, text, hanswer, hdocument,
      .inr (by rw [reasoningText, hm]; exact htext), rfl⟩)))
  · intro t ht
    obtain ⟨text, htext, rfl⟩ := contentEvidence_sha256 extract_content_absent hcontent (Option.mem_toList.mp ht)
    apply hforeign.hashes
    exact .inr (.inr (.inr (.inr ⟨e, he, response, document, text, hanswer, hdocument,
      .inl (by rw [contentText, hm]; exact htext), rfl⟩)))

omit [PyRuntime] in
/-- Observed evidence shows the key exactly when the metadata does. -/
theorem observation_free_iff (hplain : PlainKey key) {status : ℤ} {document choice message : List (PyStr × Json)}
    {reasoning content : Evidence} (hreasoning : ∀ t ∈ reasoning.sha256.toList, ¬key <:+: t)
    (hcontent : ∀ t ∈ content.sha256.toList, ¬key <:+: t) :
    (∀ t ∈ (messageObservation status document choice message reasoning content).texts, ¬key <:+: t) ↔
      ¬(TokenShows key (dictGet document "model") .model ∨ TokenShows key (dictGet document "id") .responseId ∨
        TokenShows key (dictGet choice "finish_reason") .finishReason) := by
  simp only [ProviderObservation.texts, messageObservation, List.forall_mem_append, token_free_iff hplain, not_or]
  constructor
  · rintro ⟨⟨⟨⟨hmodel, hid⟩, hreason⟩, -⟩, -⟩
    exact ⟨hmodel, hid, hreason⟩
  · rintro ⟨hmodel, hid, hreason⟩
    exact ⟨⟨⟨⟨hmodel, hid⟩, hreason⟩, hreasoning⟩, hcontent⟩

theorem not_echoes_of_none {response : ProviderHTTPResponse} (h : bodyDocument response = none) :
    ¬ResponseEchoes key response := by
  rintro ⟨-, document, hdocument, -⟩
  rw [h] at hdocument
  cases hdocument

/-- Whether a response echoes the key, once its document is known. -/
theorem responseEchoes_iff {response : ProviderHTTPResponse} {document : List (PyStr × Json)}
    (hsuccess : Successful response) (hdocument : bodyDocument response = some document)
    (hreadable : Readable document) : ResponseEchoes key response ↔
      TokenShows key (dictGet document "model") .model ∨ TokenShows key (dictGet document "id") .responseId ∨
        ∃ choice, firstChoice document = some choice ∧
          TokenShows key (dictGet choice "finish_reason") .finishReason := by
  constructor
  · rintro ⟨-, d, hd, -, htokens⟩
    obtain rfl := Option.some.inj (hdocument.symm.trans hd)
    exact htokens
  · intro htokens
    exact ⟨hsuccess, document, hdocument, hreadable, htokens⟩

omit [PyRuntime] in
theorem readable_of_noMessage {document : List (PyStr × Json)} (h : choiceMessage document = none) :
    Readable document := by
  intro text htext
  rw [contentText, reasoningText, h] at htext
  rcases htext with htext | htext <;> cases htext

theorem readable_of_evidence {document message : List (PyStr × Json)} {reasoning content : Evidence}
    (hm : choiceMessage document = some message)
    (hreasoning : contentEvidence (reasoningValue message) (reasoningKey message).isSome = .ok reasoning)
    (hcontent : contentEvidence (dictGet message "content") (message.lookup (py "content")).isSome = .ok content) :
    Readable document := by
  intro text htext
  rw [contentText, reasoningText, hm] at htext
  rcases htext with htext | htext
  · exact ((contentEvidence_ok extract_content_absent hcontent).2 text htext).1
  · exact ((contentEvidence_ok extract_reasoning_absent hreasoning).2 text htext).1

/-- An exit with a fixed code and message shows the key exactly when its observation does. -/
theorem rejected_free_iff {code message : PyStr} {observation : ProviderObservation} {exit : Exit}
    (hcode : ¬key <:+: code) (hmessage : ¬key <:+: message)
    (hexit : failedExit key (reject code message observation) = .ok exit) :
    (∀ t ∈ exit.texts, ¬key <:+: t) ↔ ∀ t ∈ observation.texts, ¬key <:+: t := by
  cases hexit
  simp only [Exit.texts, Option.toList_some, List.forall_mem_append, List.forall_mem_singleton]
  constructor
  · exact fun h => h.2
  · exact fun h => ⟨⟨hcode, hmessage⟩, h⟩

/-- The exit of a plain exception does not show the key. -/
theorem exception_free (hplain : PlainKey key) (hending : OrdinaryEnding key) {text : Option PyStr} {exit : Exit}
    (hexit : failedExit key (.exception text) = .ok exit) : ∀ t ∈ exit.texts, ¬key <:+: t := by
  cases text with
  | none => cases hexit
  | some text =>
    cases hexit
    intro t ht
    rcases List.mem_cons.mp ht with rfl | ht
    · exact hplain.not_infix_shortTexts (by simp [shortTexts])
    · rw [List.mem_singleton.mp ht]
      exact not_infix_safeErrorMessage hplain hending text

/-- A rejected response that does not echo the key does not show it. -/
theorem rejection_free (hplain : PlainKey key) (hforeign : Foreign key req transcript) {e : Exchange}
    {response : ProviderHTTPResponse} {raised : Raised} {exit : Exit} (he : e ∈ transcript.exchanges)
    (hanswer : e.answer = .ok response) (hending : ∀ text, raised = .exception text → OrdinaryEnding key)
    (h : Rejection response raised) (hexit : failedExit key raised = .ok exit)
    (hechoes : ¬ResponseEchoes key response) : ∀ t ∈ exit.texts, ¬key <:+: t := by
  have hschema : ¬key <:+: py "INVALID_PROVIDER_SCHEMA" := hforeign.constants _ (by simp [bridgeTexts])
  cases h with
  | httpError _ _ =>
    have hmessage : ¬key <:+: py "provider returned HTTP " ++ intText response.status := by
      intro hwithin
      rw [shortTexts_short.2, List.append_assoc] at hwithin
      rcases infix_lead hplain.no_space hwithin with hwithin | hwithin
      · exact hplain.not_infix_shortTexts (by simp [shortTexts]) hwithin
      · exact hforeign.statuses e he response hanswer hwithin
    rw [rejected_free_iff (hplain.not_infix_shortTexts (by simp [shortTexts])) hmessage hexit]
    intro t ht
    cases ht
  | unread text _ => exact exception_free hplain (hending _ rfl) hexit
  | invalidJson _ =>
    rw [rejected_free_iff (hforeign.constants _ (by simp [bridgeTexts]))
      (hplain.not_infix_shortTexts (by simp [shortTexts])) hexit]
    intro t ht
    cases ht
  | notObject _ =>
    rw [rejected_free_iff hschema (hplain.not_infix_shortTexts (by simp [shortTexts])) hexit]
    intro t ht
    cases ht
  | @noChoice document hsuccess hdocument hchoice =>
    have hm : choiceMessage document = none := by
      rw [choiceMessage, hchoice]
      rfl
    rw [responseEchoes_iff hsuccess hdocument (readable_of_noMessage hm)] at hechoes
    rw [rejected_free_iff hschema (hplain.not_infix_shortTexts (by simp [shortTexts])) hexit]
    simp only [ProviderObservation.texts, Option.toList_none, List.append_nil, List.forall_mem_append,
      token_free_iff hplain]
    rw [not_or, not_or] at hechoes
    exact ⟨hechoes.1, hechoes.2.1⟩
  | @noMessage document choice hsuccess hdocument hchoice hmessage =>
    have hm : choiceMessage document = none := by
      rw [choiceMessage, hchoice]
      exact hmessage
    rw [responseEchoes_iff hsuccess hdocument (readable_of_noMessage hm)] at hechoes
    rw [rejected_free_iff hschema (hplain.not_infix_shortTexts (by simp [shortTexts])) hexit]
    simp only [ProviderObservation.texts, Option.toList_none, List.append_nil, List.forall_mem_append,
      token_free_iff hplain]
    simp only [hchoice, Option.some.injEq, exists_eq_left', not_or] at hechoes
    exact ⟨⟨hechoes.1, hechoes.2.1⟩, hechoes.2.2⟩
  | @empty document choice message reasoning content hsuccess hdocument hchoice hmessage hreasoning hcontent _ =>
    have hm := choiceMessage_eq_some hchoice hmessage
    obtain ⟨hr, hc⟩ := evidence_free hforeign he hanswer hdocument hm hreasoning hcontent
    rw [responseEchoes_iff hsuccess hdocument (readable_of_evidence hm hreasoning hcontent)] at hechoes
    rw [rejected_free_iff (hplain.not_infix_shortTexts (by simp [shortTexts]))
        (hplain.not_infix_shortTexts (by simp [shortTexts])) hexit, observation_free_iff hplain hr hc]
    simpa only [hchoice, Option.some.injEq, exists_eq_left'] using hechoes

omit [PyRuntime] in
/-- An observation of the metadata of a document shows what they show. -/
theorem observation_shown (hplain : PlainKey key) {document : List (PyStr × Json)} {o : ProviderObservation}
    (hmodel : o.resolvedModelId = safeProviderMetadata (dictGet document "model") .model)
    (hid : o.responseId = safeProviderMetadata (dictGet document "id") .responseId)
    (hreason : ∀ choice, firstChoice document = some choice →
      o.finishReason = safeProviderMetadata (dictGet choice "finish_reason") .finishReason)
    (htokens : TokenShows key (dictGet document "model") .model ∨ TokenShows key (dictGet document "id") .responseId ∨
      ∃ choice, firstChoice document = some choice ∧ TokenShows key (dictGet choice "finish_reason") .finishReason) :
    ∃ t ∈ o.texts, key <:+: t := by
  simp only [tokenShows_iff hplain] at htokens
  rcases htokens with ⟨t, ht, hwithin⟩ | ⟨t, ht, hwithin⟩ | ⟨choice, hchoice, t, ht, hwithin⟩
  · exact ⟨t, by simp [ProviderObservation.texts, hmodel, ht], hwithin⟩
  · exact ⟨t, by simp [ProviderObservation.texts, hid, ht], hwithin⟩
  · exact ⟨t, by simp [ProviderObservation.texts, hreason choice hchoice, ht], hwithin⟩

/-- A rejected response that echoes the key is rejected with an error that shows it. -/
theorem rejection_shown (hplain : PlainKey key) {response : ProviderHTTPResponse} {raised : Raised}
    (h : Rejection response raised) (hechoes : ResponseEchoes key response) :
    ∃ error, raised = .providerCall error ∧ ∃ t ∈ error.observation.texts, key <:+: t := by
  obtain ⟨hsuccess, document, hdocument, hreadable, htokens⟩ := hechoes
  cases h with
  | httpError hfailed _ => exact absurd hsuccess hfailed
  | unread text hunreadable => exact absurd hreadable (hunreadable document hsuccess hdocument)
  | invalidJson hnone =>
    rw [hnone] at hdocument
    cases hdocument
  | notObject hnone =>
    rw [hnone] at hdocument
    cases hdocument
  | noChoice _ hd hchoice =>
    obtain rfl := Option.some.inj (hdocument.symm.trans hd)
    refine ⟨_, rfl, observation_shown hplain rfl rfl ?_ htokens⟩
    intro choice hsome
    rw [hchoice] at hsome
    cases hsome
  | noMessage _ hd hchoice _ =>
    obtain rfl := Option.some.inj (hdocument.symm.trans hd)
    refine ⟨_, rfl, observation_shown hplain rfl rfl ?_ htokens⟩
    intro choice hsome
    obtain rfl := Option.some.inj (hchoice.symm.trans hsome)
    rfl
  | empty _ hd hchoice _ _ _ _ =>
    obtain rfl := Option.some.inj (hdocument.symm.trans hd)
    refine ⟨_, rfl, observation_shown hplain rfl rfl ?_ htokens⟩
    intro choice hsome
    obtain rfl := Option.some.inj (hchoice.symm.trans hsome)
    rfl

/-- What a passed response observes: the metadata and the evidence of its message. -/
theorem passed_observation {response : ProviderHTTPResponse} {result : ProviderResult}
    (h : readResponse response = .ok result) : Successful response ∧ ∃ document choice message reasoning content,
      bodyDocument response = some document ∧ firstChoice document = some choice ∧
      choiceMessage document = some message ∧
      contentEvidence (reasoningValue message) (reasoningKey message).isSome = .ok reasoning ∧
      contentEvidence (dictGet message "content") (message.lookup (py "content")).isSome = .ok content ∧
      result.observation = messageObservation response.status document choice message reasoning content := by
  obtain ⟨document, choice, message, hsuccess, hdocument, hchoice, hmessage, hread⟩ := readResponse_ok h
  obtain ⟨-, -, -, -, reasoning, content, hr, hc, hobservation, -⟩ := readMessage_ok hread
  exact ⟨hsuccess, document, choice, message, reasoning, content, hdocument, hchoice,
    choiceMessage_eq_some hchoice hmessage, hr, hc, hobservation⟩

end Exits

section Runs

variable {key : PyStr} {req : BlindEvalRequest}

/-- With the texts of its exit, a run that is foreign to the key is confined. -/
theorem confined_of_foreign {envelope : List UInt8} {started : Started} {exit : Exit} {completedAt : PyStr}
    {rawBytes : Option (List UInt8)} {finished : PyFloat} {credentials : List (Option PyStr)}
    {exchanges : List Exchange} (hplain : PlainKey key) (hrequest : ∀ t ∈ req.texts, ¬key <:+: t)
    (hforeign : Foreign key req ⟨[started.startedAt, completedAt], credentials, exchanges⟩)
    (henvelope : EnvelopeOf req envelope)
    (hraw : ∀ bytes, rawBytes = some bytes →
      Hashed req ⟨[started.startedAt, completedAt], credentials, exchanges⟩ bytes)
    (hexit : ∀ t ∈ exit.texts, ¬key <:+: t) :
    Confined key (receiptOf req envelope started exit completedAt rawBytes finished) := by
  apply confined_receiptOf hplain hrequest hforeign.constants
  · exact ⟨hforeign.times _ (by simp), hforeign.times _ (by simp)⟩
  · rintro bytes (rfl | rfl | rfl | hbytes)
    · exact hforeign.hashes _ (.inr (.inl rfl))
    · exact hforeign.hashes _ (.inr (.inr (.inl rfl)))
    · rcases henvelope with rfl | henvelope
      · exact hforeign.hashes _ (.inl rfl)
      · exact hforeign.hashes _ (.inr (.inr (.inr (.inl henvelope))))
    · exact hforeign.hashes _ (hraw bytes hbytes)
  · exact hexit

theorem not_confined_of_exit {envelope : List UInt8} {started : Started} {exit : Exit} {completedAt : PyStr}
    {rawBytes : Option (List UInt8)} {finished : PyFloat} (h : ∃ t ∈ exit.texts, key <:+: t) :
    ¬Confined key (receiptOf req envelope started exit completedAt rawBytes finished) := by
  obtain ⟨t, ht, hwithin⟩ := h
  exact fun hconfined => hconfined t (mem_strings_of_exit ht) hwithin

theorem exit_of_error {e : ProviderCallError} {exit : Exit} (hexit : failedExit key (.providerCall e) = .ok exit) :
    exit.texts = e.texts := by
  cases hexit
  rfl

/-- A failed call that the transport did not use to echo the key. -/
theorem failed_free {started completedAt : PyStr} {credentials : List (Option PyStr)} {call : TransportCall}
    {answer : Except Raised ProviderHTTPResponse} {raised : Raised} {exit : Exit} (hplain : PlainKey key)
    (hkept : Kept key req ⟨[started, completedAt], credentials, [⟨call, answer⟩]⟩)
    (hread : reading answer = .error raised) (hexit : failedExit key raised = .ok exit) :
    ∀ t ∈ exit.texts, ¬key <:+: t := by
  have hmem : (⟨call, answer⟩ : Exchange) ∈
      (⟨[started, completedAt], credentials, [⟨call, answer⟩]⟩ : Transcript).exchanges := List.mem_singleton_self _
  have hending : ∀ text, raised = .exception text → OrdinaryEnding key := by
    rintro text rfl
    exact hkept.ending ⟨_, hmem, text, hread⟩
  cases answer with
  | ok response =>
    apply rejection_free hplain hkept.foreign hmem rfl hending (readResponse_error hread) hexit
    exact fun hechoes => hkept.notEchoed ⟨_, hmem, .inl ⟨response, rfl, hechoes⟩⟩
  | error error =>
    cases hread
    cases raised with
    | providerCall e =>
      rw [exit_of_error hexit]
      intro t ht hwithin
      exact hkept.notEchoed ⟨_, hmem, .inr ⟨e, rfl, t, ht, hwithin⟩⟩
    | exception text => exact exception_free hplain (hending text rfl) hexit

/-- A failed call that echoed the key shows it in its exit. -/
theorem failed_shown {call : TransportCall} {times : List PyStr} {credentials : List (Option PyStr)}
    {answer : Except Raised ProviderHTTPResponse} {raised : Raised} {exit : Exit} (hplain : PlainKey key)
    (hechoed : Echoed key ⟨times, credentials, [⟨call, answer⟩]⟩) (hread : reading answer = .error raised)
    (hexit : failedExit key raised = .ok exit) : ∃ t ∈ exit.texts, key <:+: t := by
  obtain ⟨e, he, hecho⟩ := hechoed
  obtain rfl := List.mem_singleton.mp he
  rcases hecho with ⟨response, rfl, hecho⟩ | ⟨error, rfl, t, ht, hwithin⟩
  · obtain ⟨error, rfl, t, ht, hwithin⟩ := rejection_shown hplain (readResponse_error hread) hecho
    rw [exit_of_error hexit]
    exact ⟨t, List.mem_append_right _ ht, hwithin⟩
  · cases hread
    rw [exit_of_error hexit]
    exact ⟨t, ht, hwithin⟩

/-- A passed response that does not echo the key does not show it. -/
theorem passed_free {response : ProviderHTTPResponse} {result : ProviderResult} {transcript : Transcript}
    {call : TransportCall} (hplain : PlainKey key) (hforeign : Foreign key req transcript)
    (hmem : ⟨call, .ok response⟩ ∈ transcript.exchanges) (hread : readResponse response = .ok result)
    (hechoes : ¬ResponseEchoes key response) : ∀ t ∈ (passedExit result).texts, ¬key <:+: t := by
  obtain ⟨hsuccess, document, choice, message, reasoning, content, hdocument, hchoice, hm, hr, hc, hobservation⟩ :=
    passed_observation hread
  obtain ⟨hrfree, hcfree⟩ := evidence_free hforeign hmem rfl hdocument hm hr hc
  rw [responseEchoes_iff hsuccess hdocument (readable_of_evidence hm hr hc)] at hechoes
  simp only [hchoice, Option.some.injEq, exists_eq_left'] at hechoes
  show ∀ t ∈ result.observation.texts, _
  rw [hobservation, observation_free_iff hplain hrfree hcfree]
  exact hechoes

theorem passed_shown {response : ProviderHTTPResponse} {result : ProviderResult} (hplain : PlainKey key)
    (hread : readResponse response = .ok result) (hechoes : ResponseEchoes key response) :
    ∃ t ∈ (passedExit result).texts, key <:+: t := by
  obtain ⟨-, document, choice, message, reasoning, content, hdocument, hchoice, -, -, -, hobservation⟩ :=
    passed_observation hread
  obtain ⟨-, d, hd, -, htokens⟩ := hechoes
  obtain rfl := Option.some.inj (hdocument.symm.trans hd)
  show ∃ t ∈ result.observation.texts, _
  rw [hobservation]
  refine observation_shown hplain rfl rfl ?_ htokens
  intro choice' hsome
  obtain rfl := Option.some.inj (hchoice.symm.trans hsome)
  rfl

theorem passed_hashed {response : ProviderHTTPResponse} {result : ProviderResult} {transcript : Transcript}
    {call : TransportCall} (hmem : ⟨call, .ok response⟩ ∈ transcript.exchanges)
    (hread : readResponse response = .ok result) : Hashed req transcript (utf8 result.rawOutput) := by
  have hanswers := (answers_of_readResponse hread).1
  obtain ⟨document, hdocument, htext⟩ := Option.bind_eq_some_iff.mp hanswers.extracted
  exact .inr (.inr (.inr (.inr ⟨_, hmem, response, document, _, rfl, hdocument, .inl htext, rfl⟩)))

end Runs

end Confinement

section Frozen
open Python.Ascii

def frozenKey : PyStr := "AbCdEfGh0123456789xyz"

theorem frozenKey_plain : PlainKey frozenKey := by
  constructor
  · decide +kernel
  · decide +kernel

theorem frozenKey_request : ∀ t ∈ frozenRequest.texts, ¬frozenKey <:+: t := by
  have h : ∀ t ∈ frozenRequest.texts, contains frozenKey t = false := by decide +kernel
  intro t ht
  rw [← contains_iff, h t ht]
  exact Bool.false_ne_true

/-- The credential of every lookup is the key. -/
theorem frozenKey_credentials (answer : Except Raised ProviderHTTPResponse)
    (h : (frozenOutcome frozenKey answer).2.credentials = [some frozenKey]) :
    ∀ credential ∈ (frozenOutcome frozenKey answer).2.credentials, credential = some frozenKey := by
  rw [h]
  exact fun credential hc => List.mem_singleton.mp hc

/-- A response whose `model` is the key. -/
def echoedModel : ProviderHTTPResponse := ⟨200, utf8 (py "\x7b\"model\":\"" ++ frozenKey ++ py
  "\",\"choices\":[\x7b\"message\":\x7b\"content\":\"4\"\x7d\x7d]\x7d")⟩

/-- The resolved model of the receipt a run returned. -/
def returnedModel (result : Except Raised (BlindEvalReceipt × Option PyStr)) : Option PyStr :=
  match result with
  | .ok (receipt, _) => receipt.resolvedModelId
  | .error _ => none

/-- A response that keeps the key to itself. -/
def silentResponse : ProviderHTTPResponse :=
  ⟨200, utf8 "\x7b\"choices\":[\x7b\"message\":\x7b\"content\":\"4\"\x7d\x7d]\x7d"⟩

/-- Both runs return after one lookup of the key, and the first resolves it as its model. -/
theorem frozenKey_runs :
    returnedModel (frozenOutcome frozenKey (.ok echoedModel)).1 = some frozenKey ∧
    (frozenOutcome frozenKey (.ok echoedModel)).2.credentials = [some frozenKey] ∧
    (frozenOutcome frozenKey (.ok silentResponse)).1.isOk = true ∧
    (frozenOutcome frozenKey (.ok silentResponse)).2.credentials = [some frozenKey] := by decide +kernel

end Frozen

end EvaluationLab.BlindEval
