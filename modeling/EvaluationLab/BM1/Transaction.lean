import EvaluationLab.BM1.Quiet
import EvaluationLab.BM1.ReceiptFacts

/-! Everything one call of `run_next` can do to a runner and its stores. Each property of the
runner is read off from here. -/
namespace EvaluationLab.BM1
open Python Effect QA0

variable [PyRuntime]

/-- What has been spent and the worst case of what is left stay below the ceiling. -/
def Afforded (R : Runner) (s : RunnerState) : Prop :=
  ∃ remaining, remainingWorstCase R.manifest s.receipts.length = .ok remaining ∧
    actualSpend s.receipts + remaining ≤ maxTotalSmokeSpendUsd + 1 / 1000000000000

/-- The attempt a runner may send next: it is the first without a receipt, the limits leave
room for it, and its worst case is still affordable. -/
structure Begins (R : Runner) (s : RunnerState) (t : Selected) : Prop where
  running : s.globalStopReason = none
  room : s.receipts.length < maxPlannedAttempts
  requests : s.providerRequestCount < maxPlannedAttempts
  current : R.manifest.attemptPlan[s.receipts.length]? = some t.attempt
  prepared : prepareAttempt R t.attempt = .ok t
  afforded : Afforded R s

/-- The claim a transaction carries was built for its attempt and its body. -/
def Transaction.Claimed (R : Runner) (t : Transaction) : Prop :=
  ∃ auth, buildAttemptClaim R.manifest t.attempt auth t.body = .ok t.claim

/-- A receipt is appended, or cannot be built. -/
inductive Appends (input : ℤ → ReceiptInput) (s : RunnerState) : Except PyExc Receipt → RunnerState → Prop where
  | receipted {completed : ℤ} {r : Receipt} : receipt (input completed) = .ok r →
      Appends input s (.ok r) { s with receipts := s.receipts ++ [r] }
  | refused {completed : ℤ} {e : PyExc} : receipt (input completed) = .error e →
      Appends input s (.error e) s

/-- The store after a write that may have failed: at most one record under a fresh name. -/
def RecordsGrow (s s' : Store) : Prop :=
  s'.records = s.records ∧ s.recordNames ⊆ s'.recordNames ∨
    ∃ name record, name ∉ s.recordNames ∧ s'.records = (name, record) :: s.records ∧
      s'.recordNames = name :: s.recordNames

/-- The evidence of a called attempt is kept. -/
structure Keeps (R : Runner) (t : Transaction) (record : PrivateRecord) (evidence : Evidence)
    (s s' : Store) : Prop where
  fresh : t.attempt.attemptId ∉ s.recordNames
  records : s'.records = (t.attempt.attemptId, record) :: s.records
  recordNames : s'.recordNames = t.attempt.attemptId :: s.recordNames
  sent : s'.sent = s.sent
  projected : evidenceReceipt t.attempt.attemptId record R.sink.destination = .ok evidence
  checked : checkEvidence R evidence = .ok ()

/-- The handler an exception of the provider call meets, and what it makes of it. -/
def recoveredAs (e : PyExc) : Option (ProviderTerminal × PyStr) :=
  if e.isA "BM1AuthorizationError" then none
  else if e.isA "TimeoutError" then some (.networkError, "TimeoutError")
  else if e.isA "ConnectionError" ∨ e.isA "OSError" then some (.networkError, "NetworkError")
  else if e.isA "Exception" then some (.runtimeError, e.name)
  else none

/-- The provider call raises, before or after a response object was read. -/
inductive CallFails (providerId : PyStr) (exchange : Exchange) : Option Fields → PyExc → Prop where
  | unread {e : PyExc} : rawResponse exchange = .error e → CallFails providerId exchange none e
  | unnormalized {raw : Fields} {e : PyExc} : rawResponse exchange = .ok raw →
      secretMarker (.obj raw) = false → normalizeProviderResponse providerId raw = .error e →
      CallFails providerId exchange (some raw) e

/-- What the transaction goes on with after the provider call. -/
inductive Observed (providerId : PyStr) (exchange : Exchange) :
    Option Fields → NormalizedProviderResponse → Option PyStr → Prop where
  | response {raw : Fields} {n : NormalizedProviderResponse} : rawResponse exchange = .ok raw →
      secretMarker (.obj raw) = false → normalizeProviderResponse providerId raw = .ok n →
      Observed providerId exchange (some raw) n none
  | failure {raw : Option Fields} {e : PyExc} {terminal : ProviderTerminal} {errorClass : PyStr} :
      CallFails providerId exchange raw e → recoveredAs e = some (terminal, errorClass) →
      Observed providerId exchange raw (failedResponse terminal errorClass) (some errorClass)

/-- The runner after a receipt of that reason. -/
def countedFailure (reason : Reason) (s : RunnerState) : RunnerState :=
  if reason ∈ providerLocalFailures then
    { s with
      providerLocalErrorCount := s.providerLocalErrorCount + 1
      globalStopReason :=
        if s.providerLocalErrorCount + 1 ≥ 2 then some .secondProviderLocalError else s.globalStopReason }
  else s

/-- What becomes of an attempt whose evidence is kept. -/
inductive Settles (R : Runner) (t : Transaction) (n : NormalizedProviderResponse) (evidence : Evidence)
    (errorClass : Option PyStr) (s : RunnerState) : Except PyExc Receipt → RunnerState → Prop where
  | unjudged {e : PyExc} : judge t.toSelected n errorClass = .error e →
      Settles R t n evidence errorClass s (.error e) s
  | guarded {v : Verdict} {e : PyExc} {r : Except PyExc Receipt} {s' : RunnerState} :
      judge t.toSelected n errorClass = .ok v → cost t.provider n.inputTokens n.outputTokens = .error e →
      Appends (receiptInput R t (some n) (some evidence) (tokenBudgetVerdict v))
        { s with globalStopReason := some .costCeilingGuard } r s' →
      Settles R t n evidence errorClass s r s'
  | unreceipted {v : Verdict} {completed : ℤ} {e : PyExc} : judge t.toSelected n errorClass = .ok v →
      receipt (receiptInput R t (some n) (some evidence) v completed) = .error e →
      Settles R t n evidence errorClass s (.error e) s
  | judged {v : Verdict} {amount : Option ℚ} {completed : ℤ} {r : Receipt} :
      judge t.toSelected n errorClass = .ok v → cost t.provider n.inputTokens n.outputTokens = .ok amount →
      receipt (receiptInput R t (some n) (some evidence) v completed) = .ok r →
      Settles R t n evidence errorClass s (.ok r)
        (countedFailure v.reason { s with receipts := s.receipts ++ [r] })

/-- What the transaction does once the provider has been called. -/
inductive Concludes (R : Runner) (t : Transaction) (exchange : Exchange) (w : World) :
    Except PyExc Receipt → World → Prop where
  | authorization {raw : Option Fields} {e : PyExc} :
      CallFails t.provider.providerId exchange raw e → e.isA "BM1AuthorizationError" →
      Concludes R t exchange w (.error e) ({ w.1 with globalStopReason := some .liveAuthorizationStop }, w.2)
  | escaped {raw : Option Fields} {e : PyExc} : CallFails t.provider.providerId exchange raw e →
      ¬e.isA "BM1AuthorizationError" → recoveredAs e = none → Concludes R t exchange w (.error e) w
  | secret {raw : Fields} {completed : ℤ} {r : Receipt} : rawResponse exchange = .ok raw →
      secretMarker (.obj raw) = true →
      receipt (receiptInput R t none none (errorVerdict .secretLeakSuspected "SecretLeakGuard") completed) =
        .ok r →
      Concludes R t exchange w (.ok r)
        ({ w.1 with globalStopReason := some .secretLeakSuspected, receipts := w.1.receipts ++ [r] }, w.2)
  | unkept {raw : Option Fields} {n : NormalizedProviderResponse} {errorClass : Option PyStr}
      {r : Except PyExc Receipt} {w' : World} :
      Observed t.provider.providerId exchange raw n errorClass → RecordsGrow w.2 w'.2 →
      w'.2.sent = w.2.sent →
      Appends (receiptInput R t (some n) none (errorVerdict .evidenceWriteError "EvidenceWriteError"))
        { w.1 with globalStopReason := some .evidenceWriteError } r w'.1 →
      Concludes R t exchange w r w'
  | kept {raw : Option Fields} {n : NormalizedProviderResponse} {errorClass : Option PyStr}
      {evidence : Evidence} {r : Except PyExc Receipt} {w' : World} :
      Observed t.provider.providerId exchange raw n errorClass →
      Keeps R t ⟨t.body, raw, n.finalText, errorClass <|> n.errorClass⟩ evidence w.2 w'.2 →
      Settles R t n evidence errorClass w.1 r w'.1 → Concludes R t exchange w r w'

/-- The exchange has the form of the runner's mode. -/
def Exchange.Fits (R : Runner) (exchange : Exchange) : Prop :=
  match R.mode, exchange with
  | .live _, .live _ => True
  | .offline _, .offline _ => True
  | _, _ => False

/-- The runner once it has counted a request. -/
def counted (s : RunnerState) : RunnerState := { s with providerRequestCount := s.providerRequestCount + 1 }

/-- The log entry of the request of `t`. -/
def Transaction.sent (t : Transaction) (s : RunnerState) (exchange : Exchange) : Sent :=
  ⟨counted s, t.attempt.attemptId, t.provider.providerId, t.body, exchange⟩

/-- A world in which the request of `t` has been counted and sent. -/
def afterSend (w : World) (t : Transaction) (exchange : Exchange) : World :=
  (counted w.1, { w.2 with sent := w.2.sent ++ [t.sent w.1 exchange] })

/-- Everything a call of `run_next` can do. -/
inductive Transition (R : Runner) (w : World) : Except PyExc Receipt → World → Prop where
  | refused {e : PyExc} {w' : World} : SameAccount w w' → Transition R w (.error e) w'
  | ceiling {e : PyExc} : w.1.globalStopReason = none →
      Transition R w (.error e) ({ w.1 with globalStopReason := some .costCeilingGuard }, w.2)
  | gate {t : Transaction} {reason : Reason} {errorClass : PyStr} {v : World}
      {a : Except PyExc Receipt} {s' : RunnerState} {e : PyExc} :
      Begins R w.1 t.toSelected → t.Claimed R → SameAccount w v →
      Appends (receiptInput R t none none (errorVerdict reason errorClass))
        { v.1 with globalStopReason := some reason } a s' →
      reason = .liveAuthorizationStop ∨ reason = .livePreProviderStop →
      Transition R w (.error e) (s', v.2)
  | sent {t : Transaction} {exchange : Exchange} {v : World} {r : Except PyExc Receipt} {w' : World} :
      Begins R w.1 t.toSelected → t.Claimed R → SameAccount w v → exchange.Fits R →
      Concludes R t exchange (afterSend v t exchange) r w' → Transition R w r w'

/-- An error that `except Exception` would catch. -/
def Ordinary {α : Type} (x : Except PyExc α) : Prop := ∀ e, x = .error e → e.isA "Exception"

omit [PyRuntime] in
theorem Ordinary.bind {α β : Type} {x : Except PyExc α} {f : α → Except PyExc β} (hx : Ordinary x)
    (hf : ∀ a, Ordinary (f a)) : Ordinary (x >>= f) := by
  intro e he
  cases x with
  | error e' =>
    cases he
    exact hx e rfl
  | ok a => exact hf a e he

omit [PyRuntime] in
theorem Ordinary.ok {α : Type} (a : α) : Ordinary (.ok a : Except PyExc α) := fun _ h => by cases h

omit [PyRuntime] in
theorem Ordinary.check {c : Prop} [Decidable c] {e : PyExc} (h : e.isA "Exception") :
    Ordinary (check c e) := by
  intro e' he
  unfold Effect.check at he
  split_ifs at he
  cases he
  exact h

theorem ordinary_canonicalJson (value : Json) : Ordinary (canonicalJson value) := by
  intro e he
  unfold canonicalJson at he
  split_ifs at he
  cases he
  show "Exception" ∈ _
  simp [intTextError, valueError]

omit [PyRuntime] in
theorem ordinary_encode (text : PyStr) : Ordinary (encode text) := by
  intro e he
  unfold encode at he
  split_ifs at he
  cases he
  show "Exception" ∈ _
  simp [unicodeEncodeError]

theorem ordinary_assertPublicSafe (document : Json) : Ordinary (assertPublicSafe document) := by
  intro e he
  unfold assertPublicSafe at he
  split at he
  · cases he
  · split_ifs at he <;> cases he <;> (show "Exception" ∈ _) <;> simp [valueError]

theorem ordinary_sha256Json (value : Json) : Ordinary (sha256Json value) :=
  (ordinary_canonicalJson value).bind fun _ => (ordinary_encode _).bind fun _ => Ordinary.ok _

theorem ordinary_jsonBytes (value : Json) : Ordinary (jsonBytes value) :=
  (ordinary_canonicalJson value).bind fun _ => (ordinary_encode _).bind fun _ => Ordinary.ok _

theorem ordinary_evidenceReceipt (attemptId : PyStr) (record : PrivateRecord) (d : Destination) :
    Ordinary (evidenceReceipt attemptId record d) := by
  refine (ordinary_sha256Json _).bind fun _ => (ordinary_jsonBytes _).bind fun _ => ?_
  refine Ordinary.bind ?_ fun _ => Ordinary.bind ?_ fun _ => Ordinary.bind ?_ fun _ =>
    (ordinary_assertPublicSafe _).bind fun _ => Ordinary.ok _
  · cases record.rawResponse with
    | none => exact Ordinary.ok _
    | some raw => exact (ordinary_sha256Json _).bind fun _ => Ordinary.ok _
  · cases record.rawResponse with
    | none => exact Ordinary.ok _
    | some raw => exact ordinary_jsonBytes _
  · cases record.finalText with
    | none => exact Ordinary.ok _
    | some t =>
      unfold contentDigest
      dsimp only
      split_ifs
      · exact Ordinary.ok _
      · exact (ordinary_encode _).bind fun _ => Ordinary.ok _

theorem ordinary_checkEvidence (R : Runner) (evidence : Evidence) : Ordinary (checkEvidence R evidence) := by
  refine (ordinary_assertPublicSafe _).bind fun _ => ?_
  cases R.mode with
  | offline ts => exact Ordinary.ok _
  | live b =>
    refine Ordinary.check ?_
    show "Exception" ∈ _
    simp [globalStop]

theorem prepareAttempt_ok {R : Runner} {attempt : Attempt} {t : Selected}
    (h : prepareAttempt R attempt = .ok t) :
    t.attempt = attempt ∧ providerOf R.manifest attempt.providerId = .ok t.provider ∧
      caseOf R.cases attempt.caseId = .ok t.case := by
  simp only [prepareAttempt, bind_eq_ok_iff, pure_eq_ok_iff] at h
  obtain ⟨provider, hprovider, case, hcase, prompt, -, body, -, rfl⟩ := h
  exact ⟨rfl, hprovider, hcase⟩

theorem evidence_some {evidence : Evidence} (h : evidence.Sound) : ∀ e, some evidence = some e → e.Sound := by
  intro e he
  rw [← Option.some.inj he]
  exact h

/-- A transaction puts nothing unpublishable into its receipts on its own account. -/
theorem receiptInput_sound {R : Runner} {s : RunnerState} {t : Transaction}
    (hbegins : Begins R s t.toSelected) (hclaimed : t.Claimed R) (n : Option NormalizedProviderResponse)
    {evidence : Option Evidence} (hevidence : ∀ e, evidence = some e → e.Sound) {v : Verdict}
    (hscorer : ∀ score k, v.scorer = some score → score.modelFailureValue = some k → intPrintable k = true)
    (completed : ℤ) : (receiptInput R t n evidence v completed).Sound R.cases := by
  obtain ⟨-, hprovider, hcase⟩ := prepareAttempt_ok hbegins.prepared
  obtain ⟨auth, hclaim⟩ := hclaimed
  obtain ⟨-, ⟨d, hd, -⟩, hfingerprint⟩ := buildAttemptClaim_ok hclaim
  refine ⟨R.valid, List.mem_of_getElem? hbegins.current, hprovider, hcase, ⟨d, hd⟩, ?_, hevidence, hscorer⟩
  intro c hc
  rw [← Option.some.inj hc]
  exact sha256Json_clean hfingerprint

/-- A receipt without a response only depends on the name of the error. -/
theorem receipt_without_response {R : Runner} {s : RunnerState} {t : Transaction}
    (hbegins : Begins R s t.toSelected) (hclaimed : t.Claimed R) (reason : Reason) {errorClass : PyStr}
    (herror : CleanText errorClass) (completed : ℤ) :
    ∃ r, receipt (receiptInput R t none none (errorVerdict reason errorClass) completed) = .ok r := by
  have hsound : (receiptInput R t none none (errorVerdict reason errorClass) completed).Sound R.cases :=
    receiptInput_sound hbegins hclaimed none (by simp) (by simp [errorVerdict]) completed
  refine hsound.receipt_ok_iff.mpr ⟨by simp [receiptInput], ?_⟩
  intro c hc
  rw [← Option.some.inj hc]
  exact herror

end EvaluationLab.BM1
