import EvaluationLab.BlindEval.Conclusion

/-! The accounts of a blind evaluation: one receipt for every run, one attempt for every call,
and an answer exactly when the attempt passed. -/
namespace EvaluationLab.BlindEval
open Python Effect

section Account

variable [PyRuntime]

/-- The receipt and the answer of a passed attempt agree with the response they came from. -/
structure Evidenced (receipt : BlindEvalReceipt) (text : PyStr) (transcript : Transcript) : Prop where
  rawSha256 : receipt.rawOutputSha256 = some (sha256Bytes (utf8 text))
  rawBytes : receipt.rawOutputBytes = some (utf8 text).length
  finalSha256 : receipt.finalContentSha256 = some (sha256Bytes (utf8 text))
  finalBytes : receipt.finalContentBytes = some (utf8 text).length
  answered : ∃ call response, transcript.exchanges = [⟨call, .ok response⟩] ∧ Answers response text ∧
    receipt.httpStatus = some response.status

/-- A returned receipt and answer, against the calls that were made. -/
structure Accounted (receipt : BlindEvalReceipt) (raw : Option PyStr) (transcript : Transcript) : Prop where
  oneCall : transcript.exchanges.length ≤ 1
  attempts : receipt.providerAttempts = transcript.exchanges.length
  accepted : ∃ document, receipt.asDict = .ok document
  answered_iff : raw ≠ none ↔ receipt.terminalStatus = .pass
  evidenced : ∀ text, raw = some text → Evidenced receipt text transcript
  complete : ∀ call response text, ⟨call, .ok response⟩ ∈ transcript.exchanges → Answers response text →
    receipt.terminalStatus = .pass

/-- A run that returns, with its accounts in order. -/
def RunAccounted (result : Except Raised (BlindEvalReceipt × Option PyStr)) (transcript : Transcript) : Prop :=
  ∃ receipt raw, result = .ok (receipt, raw) ∧ Accounted receipt raw transcript

/-- Every exception the transport raised has a text, and every response with an answer has no
reasoning text that cannot be encoded. -/
def Orderly (transcript : Transcript) : Prop :=
  ∀ e ∈ transcript.exchanges, e.answer ≠ .error (.exception none) ∧
    ∀ response text, e.answer = .ok response → Answers response text → ReasoningEncodable response

theorem orderly_singleton {times : List PyStr} {credentials : List (Option PyStr)} {call : TransportCall}
    {answer : Except Raised ProviderHTTPResponse} :
    Orderly ⟨times, credentials, [⟨call, answer⟩]⟩ ↔ answer ≠ .error (.exception none) ∧
      ∀ response text, answer = .ok response → Answers response text → ReasoningEncodable response := by
  unfold Orderly
  rw [List.forall_mem_singleton]

omit [PyRuntime] in
theorem accepted_of_noRaw {receipt : BlindEvalReceipt} (hattempts : receipt.providerAttempts ≤ 1)
    (hretries : receipt.automaticRetries = 0) (hscore : receipt.qualityScore = none)
    (hstatus : receipt.terminalStatus ≠ .pass) (hraw : receipt.NoRawEvidence) :
    ∃ document, receipt.asDict = .ok document :=
  ⟨_, BlindEvalReceipt.asDict_eq_ok hattempts hretries hscore (fun h => absurd h hstatus) fun _ => hraw⟩

theorem refuses_exit {req : BlindEvalRequest} {exit : Exit} (h : Refuses req exit) :
    exit.providerAttempts = 0 ∧ exit.terminalStatus ≠ .pass := by
  rcases h with h | ⟨text, -, rfl⟩
  · simp only [refusals, List.mem_cons, List.not_mem_nil, or_false] at h
    rcases h with rfl | rfl | rfl | rfl | rfl | rfl | rfl <;> exact ⟨rfl, TerminalStatus.noConfusion⟩
  · exact ⟨rfl, TerminalStatus.noConfusion⟩

/-- A run that is refused accounts for no call. -/
theorem accounted_refused {req : BlindEvalRequest} {envelope : List UInt8} {started : Started} {exit : Exit}
    {completedAt : PyStr} {finished : PyFloat} {credentials : List (Option PyStr)} (h : Refuses req exit) :
    Accounted (receiptOf req envelope started exit completedAt none finished) none
      ⟨[started.startedAt, completedAt], credentials, []⟩ := by
  obtain ⟨hattempts, hstatus⟩ := refuses_exit h
  constructor
  · exact Nat.zero_le _
  · exact hattempts
  · exact accepted_of_noRaw (hattempts.trans_le (Nat.zero_le _)) rfl rfl hstatus ⟨rfl, rfl⟩
  · exact ⟨fun hne => absurd rfl hne, fun hpass => absurd hpass hstatus⟩
  · intro text htext
    cases htext
  · intro call response text hmem
    cases hmem

theorem failedExit_facts {apiKey : PyStr} {raised : Raised} {exit : Exit} (h : failedExit apiKey raised = .ok exit) :
    exit.providerAttempts = 1 ∧ exit.terminalStatus = .notEvaluable := by
  unfold failedExit at h
  split at h
  · cases h
    exact ⟨rfl, rfl⟩
  · cases h
    exact ⟨rfl, rfl⟩
  · cases h

/-- A failed call is accounted for unless its response held an answer. -/
theorem accounted_failed_iff {req : BlindEvalRequest} {envelope : List UInt8} {started : Started} {exit : Exit}
    {completedAt apiKey : PyStr} {call : TransportCall} {finished : PyFloat} {raised : Raised}
    {answer : Except Raised ProviderHTTPResponse} (h : failedExit apiKey raised = .ok exit) :
    Accounted (receiptOf req envelope started exit completedAt none finished) none
      ⟨[started.startedAt, completedAt], [some apiKey], [⟨call, answer⟩]⟩ ↔
      ∀ response text, answer = .ok response → ¬Answers response text := by
  obtain ⟨hattempts, hstatus⟩ := failedExit_facts h
  have hnotPass : exit.terminalStatus ≠ .pass := by
    rw [hstatus]
    decide
  constructor
  · intro haccounted response text hanswer hanswers
    subst hanswer
    exact hnotPass (haccounted.complete call response text (List.mem_singleton_self _) hanswers)
  · intro hnone
    constructor
    · exact le_refl _
    · exact hattempts
    · exact accepted_of_noRaw (le_of_eq hattempts) rfl rfl hnotPass ⟨rfl, rfl⟩
    · exact ⟨fun hne => absurd rfl hne, fun hpass => absurd hpass hnotPass⟩
    · intro text htext
      cases htext
    · intro call' response text hmem hanswers
      have hexchange := List.mem_singleton.mp hmem
      rw [Exchange.mk.injEq] at hexchange
      exact absurd hanswers (hnone response text hexchange.2.symm)

/-- A passed call is accounted for. -/
theorem accounted_passed {req : BlindEvalRequest} {envelope : List UInt8} {started : Started}
    {completedAt apiKey : PyStr} {call : TransportCall} {finished : PyFloat} {result : ProviderResult}
    {answer : Except Raised ProviderHTTPResponse} (h : reading answer = .ok result) :
    Accounted (receiptOf req envelope started (passedExit result) completedAt
        (some (utf8 result.rawOutput)) finished) (some result.rawOutput)
      ⟨[started.startedAt, completedAt], [some apiKey], [⟨call, answer⟩]⟩ := by
  obtain ⟨response, rfl, hread⟩ := bind_eq_ok_iff.mp h
  obtain ⟨hstatus, hbytes, hsha⟩ := observation_of_readResponse hread
  constructor
  · exact le_refl _
  · rfl
  · exact ⟨_, BlindEvalReceipt.asDict_eq_ok (le_refl _) rfl rfl (fun _ => ⟨rfl, rfl, rfl, hsha, hbytes⟩)
      fun hne => absurd rfl hne⟩
  · exact ⟨fun _ => rfl, fun _ => Option.some_ne_none _⟩
  · intro text htext
    rw [Option.some.injEq] at htext
    subst htext
    exact ⟨rfl, rfl, hsha, hbytes, call, response, rfl, (answers_of_readResponse hread).1, hstatus⟩
  · intro _ _ _ _ _
    rfl

/-- A reading fails exactly when the response it reads has no answer, or a reasoning text that
cannot be encoded. -/
theorem not_answers_iff {answer : Except Raised ProviderHTTPResponse} {raised : Raised}
    (h : reading answer = .error raised) :
    (∀ response text, answer = .ok response → ¬Answers response text) ↔
      ∀ response text, answer = .ok response → Answers response text → ReasoningEncodable response := by
  constructor
  · intro hnone response text hanswer hanswers
    exact absurd hanswers (hnone response text hanswer)
  · intro hencodable response text hanswer hanswers
    subst hanswer
    obtain ⟨observation, hread⟩ := readResponse_of_answers hanswers (hencodable response text rfl hanswers)
    have hok : reading (.ok response) = .ok ⟨text, observation⟩ := hread
    rw [hok] at h
    cases h

theorem failedExit_uncaught {apiKey : PyStr} {raised escaped : Raised} (h : failedExit apiKey raised = .error escaped) :
    raised = .exception none := by
  unfold failedExit at h
  split at h
  · cases h
  · cases h
  · rfl

/-- A text is missing only from an exception that the transport raised. -/
theorem answer_of_uncaught {answer : Except Raised ProviderHTTPResponse}
    (h : reading answer = .error (.exception none)) : answer = .error (.exception none) := by
  cases answer with
  | error raised =>
    cases h
    rfl
  | ok response => cases readResponse_error h

/-- In every run the accounts are in order exactly when the surroundings were orderly. -/
theorem run_accounted_iff (req : BlindEvalRequest) (authorizeLiveCall : Bool)
    (result : Except Raised (BlindEvalReceipt × Option PyStr)) (transcript : Transcript)
    (h : Procedure.Exec openBridge (runBlindEval req authorizeLiveCall) {} result transcript) :
    RunAccounted result transcript ↔ Orderly transcript := by
  have hconcludes : Concludes req result transcript := h.sound (runBlindEval_concludes req authorizeLiveCall)
  cases hconcludes with
  | refused _ hrefuses =>
    constructor
    · intro _ e he
      cases he
    · intro _
      exact ⟨_, _, rfl, accounted_refused hrefuses⟩
  | passed _ _ hread =>
    obtain ⟨response, rfl, hreadResponse⟩ := bind_eq_ok_iff.mp hread
    constructor
    · intro _
      rw [orderly_singleton]
      constructor
      · intro hraised
        cases hraised
      · rintro _ text ⟨rfl⟩ _
        exact (answers_of_readResponse hreadResponse).2
    · intro _
      exact ⟨_, _, rfl, accounted_passed hread⟩
  | @failed envelope started completedAt apiKey content finished answer raised exit _ _ hread hexit =>
    have htext : answer ≠ .error (.exception none) := by
      rintro rfl
      cases hread
      cases hexit
    rw [orderly_singleton, ← not_answers_iff hread]
    constructor
    · rintro ⟨_, _, ⟨⟩, haccounted⟩
      exact ⟨htext, (accounted_failed_iff hexit).mp haccounted⟩
    · rintro ⟨-, hnone⟩
      exact ⟨_, _, rfl, (accounted_failed_iff hexit).mpr hnone⟩
  | uncaught _ hread hexit =>
    obtain rfl := failedExit_uncaught hexit
    constructor
    · rintro ⟨_, _, ⟨⟩, _⟩
    · intro horderly
      exact absurd (answer_of_uncaught hread) (orderly_singleton.mp horderly).1

end Account

section Frozen
open Python.Ascii

/-- An answer beside a reasoning text with a lone surrogate. -/
def brokenReasoning : ProviderHTTPResponse :=
  ⟨200, utf8 "\x7b\"choices\":[\x7b\"message\":\x7b\"content\":\"4\",\"reasoning\":\"\\ud800\"\x7d\x7d]\x7d"⟩

/-- The responses a transcript holds. -/
def answeredResponses (transcript : Transcript) : List ProviderHTTPResponse :=
  transcript.exchanges.filterMap fun e => e.answer.toOption

/-- The terminal status a run returned. -/
def returnedStatus (result : Except Raised (BlindEvalReceipt × Option PyStr)) : Option TerminalStatus :=
  match result with
  | .ok (receipt, _) => some receipt.terminalStatus
  | .error _ => none

theorem brokenReasoning_answers : Answers brokenReasoning "4" := by
  constructor
  · decide
  · decide +kernel
  · decide +kernel
  · decide +kernel

theorem brokenReasoning_status : returnedStatus (frozenOutcome "lab-secret" (.ok brokenReasoning)).1 = some .notEvaluable := by
  decide +kernel

theorem brokenReasoning_answered :
    answeredResponses (frozenOutcome "lab-secret" (.ok brokenReasoning)).2 = [brokenReasoning] := by
  decide +kernel

/-- A response with an answer whose attempt did not pass. -/
theorem frozen_answer_lost : ∃ result transcript,
    Procedure.Exec openBridge (runBlindEval frozenRequest true) {} result transcript ∧
      ¬RunAccounted result transcript := by
  refine ⟨_, _, exec_frozenOutcome "lab-secret" (.ok brokenReasoning), ?_⟩
  rintro ⟨receipt, raw, hresult, haccounted⟩
  have hmem : brokenReasoning ∈ answeredResponses (frozenOutcome "lab-secret" (.ok brokenReasoning)).2 := by
    rw [brokenReasoning_answered]
    exact List.mem_singleton_self _
  obtain ⟨⟨call, answer⟩, hexchange, hanswer⟩ := List.mem_filterMap.mp hmem
  cases answer with
  | error raised => cases hanswer
  | ok response =>
    obtain rfl := Option.some.inj hanswer
    have hpass := haccounted.complete call _ "4" hexchange brokenReasoning_answers
    have hstatus := brokenReasoning_status
    rw [hresult, returnedStatus, hpass] at hstatus
    cases hstatus

/-- A response with an answer alone. -/
def plainAnswer : ProviderHTTPResponse :=
  ⟨200, utf8 "\x7b\"choices\":[\x7b\"message\":\x7b\"content\":\"4\"\x7d\x7d]\x7d"⟩

theorem run_accounted_frozen : RunAccounted (frozenOutcome "lab-secret" (.ok plainAnswer)).1 (frozenOutcome "lab-secret" (.ok plainAnswer)).2 ↔
    Orderly (frozenOutcome "lab-secret" (.ok plainAnswer)).2 :=
  run_accounted_iff frozenRequest true _ _ (exec_frozenOutcome "lab-secret" (.ok plainAnswer))

end Frozen

end EvaluationLab.BlindEval
