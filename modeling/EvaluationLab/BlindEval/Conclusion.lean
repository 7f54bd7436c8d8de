import EvaluationLab.BlindEval.Reading
import EvaluationLab.BlindEval.Run

/-! How a run can end: refused before the call, passed, failed after the call, or ended by an
exception that has no text. -/
namespace EvaluationLab.BlindEval
open Python Effect

structure Exchange where
  call : TransportCall
  answer : Except Raised ProviderHTTPResponse

/-- What the surroundings of a run have answered so far. -/
structure Transcript where
  times : List PyStr := []
  credentials : List (Option PyStr) := []
  exchanges : List Exchange := []

/-- The transcript with one more answer. -/
def Transcript.record (t : Transcript) : (op : BridgeOp) → bridge.Answer op → Transcript
  | .now, (time : PyStr) => { t with times := t.times ++ [time] }
  | .perf, _ => t
  | .credential _, (value : Option PyStr) => { t with credentials := t.credentials ++ [value] }
  | .transport call, (answer : Except Raised ProviderHTTPResponse) =>
    { t with exchanges := t.exchanges ++ [⟨call, answer⟩] }

/-- The surroundings may answer anything; every answer is written down. -/
def openBridge : Semantics bridge Transcript where
  allowed _ _ := True
  step t op answer t' := t' = t.record op answer

theorem wp_nowFn {Q : Except Raised PyStr → Transcript → Prop} {t : Transcript} :
    Procedure.wp openBridge nowFn Q t ↔ ∀ time, Q (.ok time) { t with times := t.times ++ [time] } := by
  constructor
  · intro h time
    exact h.2 time _ rfl
  · intro h
    exact ⟨trivial, fun time t' ht => ht ▸ h time⟩

theorem wp_perfFn {Q : Except Raised PyFloat → Transcript → Prop} {t : Transcript} :
    Procedure.wp openBridge perfFn Q t ↔ ∀ value, Q (.ok value) t := by
  constructor
  · intro h value
    exact h.2 value _ rfl
  · intro h
    exact ⟨trivial, fun value t' ht => ht ▸ h value⟩

theorem wp_credentialLookup {name : PyStr} {Q : Except Raised (Option PyStr) → Transcript → Prop} {t : Transcript} :
    Procedure.wp openBridge (credentialLookup name) Q t ↔
      ∀ value, Q (.ok value) { t with credentials := t.credentials ++ [value] } := by
  constructor
  · intro h value
    exact h.2 value _ rfl
  · intro h
    exact ⟨trivial, fun value t' ht => ht ▸ h value⟩

theorem wp_transport {call : TransportCall} {Q : Except Raised ProviderHTTPResponse → Transcript → Prop}
    {t : Transcript} : Procedure.wp openBridge (transport call) Q t ↔
      ∀ answer, Q answer { t with exchanges := t.exchanges ++ [⟨call, answer⟩] } := by
  unfold transport
  rw [Procedure.wp_bind]
  constructor
  · intro h answer
    exact h.2 answer _ rfl
  · intro h
    exact ⟨trivial, fun answer t' ht => ht ▸ h answer⟩

theorem wp_attempt {α : Type} {call : Bridge α} {Q : Except Raised (Except Raised α) → Transcript → Prop}
    {t : Transcript} : Procedure.wp openBridge (attempt call) Q t ↔
      Procedure.wp openBridge call (fun result t' => Q (.ok result) t') t := by
  unfold attempt
  rw [Procedure.wp_tryCatch, Procedure.wp_bind]
  have hcases : ∀ (result : Except Raised α) (t' : Transcript), Procedure.continueWith openBridge
      (fun a => (pure (.ok a) : Bridge (Except Raised α)))
      (fun r w' => match r with
        | .ok a => Q (.ok a) w'
        | .error e => Procedure.wp openBridge (pure (.error e) : Bridge (Except Raised α)) Q w') result t' ↔
      Q (.ok result) t' := by
    intro result t'
    cases result <;> exact Iff.rfl
  constructor
  · exact fun h => Procedure.wp_mono h fun r t' => (hcases r t').mp
  · exact fun h => Procedure.wp_mono h fun r t' => (hcases r t').mpr

section Runs

variable [PyRuntime]

/-- The exits before a call whose texts are fixed. -/
def refusals : List Exit := [
  refusal "LIVE_CALL_NOT_AUTHORIZED" "live call requires explicit authorization",
  refusal "UNSUPPORTED_PROVIDER_PROTOCOL" "provider protocol is not implemented by this bridge version",
  refusal "INVALID_REQUESTED_MODEL_ID" "requested model ID violates the strict token policy",
  refusal "INVALID_THINKING_MODE" "thinking mode is not supported by this bridge version",
  refusal "INVALID_REASONING_EFFORT" "reasoning effort is not supported by this bridge version",
  refusal "INVALID_REASONING_CONFIGURATION" "reasoning effort requires explicitly enabled thinking mode",
  refusal "MISSING_CREDENTIAL" "configured provider credential is unavailable"]

/-- The exit of a run whose inputs are not UTF-8. -/
def invalidInput (text : PyStr) : Exit where
  terminalStatus := .error
  errorCode := some "INVALID_UTF8_INPUT"
  safeErrorMessage := some (safeErrorMessage text [])

/-- An exit before the call. -/
def Refuses (req : BlindEvalRequest) (exit : Exit) : Prop :=
  exit ∈ refusals ∨ ∃ text, buildInputEnvelope req.contextBytes req.promptBytes = .error text ∧ exit = invalidInput text

/-- The envelope a receipt hashes: empty when the inputs are not UTF-8. -/
def EnvelopeOf (req : BlindEvalRequest) (envelope : List UInt8) : Prop :=
  envelope = [] ∨ buildInputEnvelope req.contextBytes req.promptBytes = .ok envelope

/-- What became of the call: the reading of its answer. -/
def reading (answer : Except Raised ProviderHTTPResponse) : Except Raised ProviderResult := answer >>= readResponse

/-- The call that a run makes with a credential. -/
def callOf (req : BlindEvalRequest) (apiKey content : PyStr) : TransportCall :=
  ⟨req.endpoint, requestHeaders apiKey, requestPayload req content, req.timeoutSeconds⟩

/-- The result of a run and the transcript of its surroundings. -/
inductive Concludes (req : BlindEvalRequest) :
    Except Raised (BlindEvalReceipt × Option PyStr) → Transcript → Prop where
  | refused {envelope : List UInt8} {started : Started} {exit : Exit} {completedAt : PyStr} {finished : PyFloat}
      {credentials : List (Option PyStr)} :
      EnvelopeOf req envelope → Refuses req exit →
      Concludes req (.ok (receiptOf req envelope started exit completedAt none finished, none))
        ⟨[started.startedAt, completedAt], credentials, []⟩
  | passed {envelope : List UInt8} {started : Started} {completedAt apiKey content : PyStr} {finished : PyFloat}
      {answer : Except Raised ProviderHTTPResponse} {result : ProviderResult} :
      apiKey ≠ [] → buildInputEnvelope req.contextBytes req.promptBytes = .ok envelope →
      reading answer = .ok result → encodable result.rawOutput = true →
      Concludes req (.ok (receiptOf req envelope started (passedExit result) completedAt
          (some (utf8 result.rawOutput)) finished, some result.rawOutput))
        ⟨[started.startedAt, completedAt], [some apiKey], [⟨callOf req apiKey content, answer⟩]⟩
  | failed {envelope : List UInt8} {started : Started} {completedAt apiKey content : PyStr} {finished : PyFloat}
      {answer : Except Raised ProviderHTTPResponse} {raised : Raised} {exit : Exit} :
      apiKey ≠ [] → buildInputEnvelope req.contextBytes req.promptBytes = .ok envelope →
      reading answer = .error raised → failedExit apiKey raised = .ok exit →
      Concludes req (.ok (receiptOf req envelope started exit completedAt none finished, none))
        ⟨[started.startedAt, completedAt], [some apiKey], [⟨callOf req apiKey content, answer⟩]⟩
  | uncaught {startedAt apiKey content : PyStr} {answer : Except Raised ProviderHTTPResponse} {raised : Raised} :
      apiKey ≠ [] → reading answer = .error raised → failedExit apiKey raised = .error raised →
      Concludes req (.error raised) ⟨[startedAt], [some apiKey], [⟨callOf req apiKey content, answer⟩]⟩

/-- An exit whose answer can be encoded reads both clocks once more and returns. -/
theorem wp_finish {req : BlindEvalRequest} {envelope : List UInt8} {started : Started} {exit : Exit}
    (rawBytes : Option (List UInt8)) {Q : Except Raised (BlindEvalReceipt × Option PyStr) → Transcript → Prop}
    {t : Transcript} (hraw : encodeRaw exit.rawOutput = .ok rawBytes)
    (h : ∀ completedAt finished,
      Q (.ok (receiptOf req envelope started exit completedAt rawBytes finished, exit.rawOutput))
        { t with times := t.times ++ [completedAt] }) :
    Procedure.wp openBridge (finish req envelope started exit) Q t := by
  unfold finish
  rw [Procedure.wp_bind, wp_nowFn]
  intro completedAt
  rw [Procedure.continueWith_ok, Procedure.wp_bind, hraw, Procedure.wp_ofExcept, Procedure.continueWith_ok,
    Procedure.wp_bind, wp_perfFn]
  intro finished
  exact h completedAt finished

theorem wp_refuse {req : BlindEvalRequest} {envelope : List UInt8} {started : Started} {exit : Exit}
    {credentials : List (Option PyStr)} (hraw : exit.rawOutput = none) (henvelope : EnvelopeOf req envelope)
    (h : Refuses req exit) :
    Procedure.wp openBridge (finish req envelope started exit) (Concludes req)
      ⟨[started.startedAt], credentials, []⟩ := by
  apply wp_finish none
  · rw [hraw]
    rfl
  · intro completedAt finished
    rw [hraw]
    exact .refused henvelope h

theorem refuses_of_mem {req : BlindEvalRequest} {exit : Exit} (h : exit ∈ refusals) : Refuses req exit := .inl h

/-- A read response holds an answer that can be encoded. -/
theorem encodable_of_reading {answer : Except Raised ProviderHTTPResponse} {result : ProviderResult}
    (h : reading answer = .ok result) : encodable result.rawOutput = true := by
  obtain ⟨response, -, hread⟩ := bind_eq_ok_iff.mp h
  exact (answers_of_readResponse hread).1.encodable

omit [PyRuntime] in
/-- An envelope is the encoding of a text, so it decodes again. -/
theorem decode_envelope {contextBytes promptBytes envelope : List UInt8}
    (h : buildInputEnvelope contextBytes promptBytes = .ok envelope) :
    ∃ content, decodeUtf8 envelope = some content := by
  unfold buildInputEnvelope at h
  cases hcontext : decodeUtf8 contextBytes with
  | none => simp [hcontext] at h
  | some context =>
    cases hprompt : decodeUtf8 promptBytes with
    | none => simp [hcontext, hprompt] at h
    | some prompt =>
      simp only [hcontext, hprompt, Except.ok.injEq] at h
      refine ⟨envelopeText context prompt, ?_⟩
      rw [← h]
      apply decodeUtf8_utf8
      have hfixed : encodable (py "===== LONG_CONTEXT | " ++ inputEnvelopeVersion ++ py " =====\n") = true ∧
          encodable (py "\n===== TASK =====\n") = true := by decide +kernel
      rw [envelopeText, encodable_append, encodable_append, encodable_append, encodable_of_decodeUtf8 hcontext,
        encodable_of_decodeUtf8 hprompt, hfixed.1, hfixed.2]
      rfl

theorem wp_invoke {req : BlindEvalRequest} {apiKey : PyStr} {envelope : List UInt8}
    {Q : Except Raised ProviderResult → Transcript → Prop} {t : Transcript}
    (henvelope : buildInputEnvelope req.contextBytes req.promptBytes = .ok envelope)
    (h : ∀ content answer, Q (reading answer)
      { t with exchanges := t.exchanges ++ [⟨callOf req apiKey content, answer⟩] }) :
    Procedure.wp openBridge (invokeOpenaiCompatible req apiKey envelope) Q t := by
  obtain ⟨content, hcontent⟩ := decode_envelope henvelope
  unfold invokeOpenaiCompatible
  rw [hcontent]
  dsimp only
  rw [Procedure.wp_bind, wp_transport]
  intro answer
  have hread := h content answer
  cases answer with
  | error raised => exact hread
  | ok response => exact hread

theorem failedExit_raw {apiKey : PyStr} {raised : Raised} {exit : Exit} (h : failedExit apiKey raised = .ok exit) :
    exit.rawOutput = none := by
  unfold failedExit at h
  split at h
  · cases h
    rfl
  · cases h
    rfl
  · cases h

/-- An exception that escapes is the one that was raised. -/
theorem failedExit_error {apiKey : PyStr} {raised escaped : Raised} (h : failedExit apiKey raised = .error escaped) :
    escaped = raised := by
  unfold failedExit at h
  split at h <;> cases h
  rfl

/-- Every run ends in one of the ways listed. -/
theorem runBlindEval_concludes (req : BlindEvalRequest) (authorizeLiveCall : Bool) :
    Procedure.wp openBridge (runBlindEval req authorizeLiveCall) (Concludes req) {} := by
  unfold runBlindEval
  rw [Procedure.wp_bind, wp_nowFn]
  intro startedAt
  rw [Procedure.continueWith_ok, Procedure.wp_bind, wp_perfFn]
  intro startedPerf
  rw [Procedure.continueWith_ok]
  dsimp only
  split
  · rename_i text henvelope
    exact wp_refuse rfl (.inl rfl) (.inr ⟨text, henvelope, rfl⟩)
  · rename_i envelope henvelope
    split_ifs
    · exact wp_refuse rfl (.inr henvelope) (refuses_of_mem (by simp [refusals]))
    · exact wp_refuse rfl (.inr henvelope) (refuses_of_mem (by simp [refusals]))
    · exact wp_refuse rfl (.inr henvelope) (refuses_of_mem (by simp [refusals]))
    · exact wp_refuse rfl (.inr henvelope) (refuses_of_mem (by simp [refusals]))
    · exact wp_refuse rfl (.inr henvelope) (refuses_of_mem (by simp [refusals]))
    · exact wp_refuse rfl (.inr henvelope) (refuses_of_mem (by simp [refusals]))
    · rw [Procedure.wp_bind, wp_credentialLookup]
      intro credential
      rw [Procedure.continueWith_ok]
      split
      · exact wp_refuse rfl (.inr henvelope) (refuses_of_mem (by simp [refusals]))
      · exact wp_refuse rfl (.inr henvelope) (refuses_of_mem (by simp [refusals]))
      · rename_i apiKey hkey
        have hne : apiKey ≠ [] := by
          rintro rfl
          exact hkey rfl
        rw [Procedure.wp_bind, wp_attempt]
        apply wp_invoke henvelope
        intro content answer
        rw [Procedure.continueWith_ok]
        split
        · rename_i raised hraised
          rw [Procedure.wp_bind, Procedure.wp_ofExcept]
          cases hexit : failedExit apiKey raised with
          | error escaped =>
            rw [Procedure.continueWith_error, failedExit_error hexit]
            rw [failedExit_error hexit] at hexit
            exact .uncaught hne hraised hexit
          | ok exit =>
            rw [Procedure.continueWith_ok]
            apply wp_finish none
            · rw [failedExit_raw hexit]
              rfl
            · intro completedAt finished
              rw [failedExit_raw hexit]
              exact .failed hne henvelope hraised hexit
        · rename_i result hresult
          have hencodable := encodable_of_reading hresult
          apply wp_finish (some (utf8 result.rawOutput))
          · exact if_pos hencodable
          · intro completedAt finished
            exact .passed hne henvelope hresult hencodable

end Runs

section Frozen
open Python.Ascii

/-- A run with one credential, one answer and a clock that stands still. -/
def scriptedAnswer (apiKey : PyStr) (answer : Except Raised ProviderHTTPResponse) : (op : BridgeOp) → bridge.Answer op
  | .now => py "2026-07-06T12:00:00Z"
  | .perf => PyFloat.finite 0
  | .credential _ => some apiKey
  | .transport _ => answer

def scripted (apiKey : PyStr) (answer : Except Raised ProviderHTTPResponse) (t : Transcript) (op : BridgeOp) :
    bridge.Answer op × Transcript :=
  (scriptedAnswer apiKey answer op, t.record op (scriptedAnswer apiKey answer op))

theorem exec_scripted {α : Type} (apiKey : PyStr) (answer : Except Raised ProviderHTTPResponse) (p : Bridge α)
    (t : Transcript) : Procedure.Exec openBridge p t (Procedure.outcome (scripted apiKey answer) p t).1
      (Procedure.outcome (scripted apiKey answer) p t).2 := by
  apply Procedure.exec_outcome
  intro _ _
  rfl

def frozenRequest : BlindEvalRequest where
  runId := "B2-BLIND-20260706T120000Z-0badcafe"
  providerLabel := "lab"
  providerProtocol := openaiCompatibleProtocol
  requestedModelId := "lab/model-1"
  endpoint := "https://provider.invalid/v1/chat/completions"
  apiKeyEnv := "LAB_API_KEY"
  contextBytes := utf8 "Two and two."
  promptBytes := utf8 "Add them."

/-- The frozen request's run with a credential and an answer. -/
def frozenOutcome (apiKey : PyStr) (answer : Except Raised ProviderHTTPResponse) :
    Except Raised (BlindEvalReceipt × Option PyStr) × Transcript :=
  Procedure.outcome (scripted apiKey answer) (runBlindEval frozenRequest true) {}

theorem exec_frozenOutcome (apiKey : PyStr) (answer : Except Raised ProviderHTTPResponse) :
    Procedure.Exec openBridge (runBlindEval frozenRequest true) {} (frozenOutcome apiKey answer).1
      (frozenOutcome apiKey answer).2 :=
  exec_scripted apiKey answer (runBlindEval frozenRequest true) {}

end Frozen

end EvaluationLab.BlindEval
