import EvaluationLab.BM1.Frozen
import EvaluationLab.BM1.EvidenceFacts
import EvaluationLab.BM1.RunNext

/-! Surroundings that answer by functions, with stores that never fail. A runner evaluated in
them has one of the runs its environment allows. -/
namespace EvaluationLab.BM1
open Python Effect QA0 Effect.Procedure

structure Surroundings where
  now : ℤ
  verify : Except PyExc Bool
  storage : StorageAttributes
  openUrl : PyStr → HttpExchange
  call : PyStr → Except PyExc Json

def ClaimRead.ofOption : Option Claim → ClaimRead
  | none => .absent
  | some claim => .stored claim

/-- The record of an attempt, or an error for a name without content. -/
def recordOf (s : Store) (attemptId : PyStr) : Except PyExc (Option PrivateRecord) :=
  match s.records.lookup attemptId with
  | some record => .ok (some record)
  | none => if attemptId ∈ s.recordNames then .error jsonDecodeError else .ok none

def serve (x : Surroundings) (w : World) : (op : Op) → op.Answer × World
  | .self => (w.1, w)
  | .setSelf state => ((), (state, w.2))
  | .now => (x.now, w)
  | .transportNow _ => (x.now, w)
  | .verify _ _ _ => (x.verify, w)
  | .storageAttributes => (x.storage, w)
  | .createClaim claim =>
    if claim.attemptId ∈ w.2.claimNames then (.alreadyExists, w)
    else (.created, (w.1, { w.2 with
      claims := claim :: w.2.claims
      claimNames := claim.attemptId :: w.2.claimNames }))
  | .readClaim attemptId => (.ofOption (w.2.claims.find? fun claim => claim.attemptId = attemptId), w)
  | .openUrl attemptId providerId body =>
    (x.openUrl attemptId, (w.1, { w.2 with
      sent := w.2.sent ++ [⟨w.1, attemptId, providerId, body, .live (x.openUrl attemptId)⟩] }))
  | .call attemptId providerId body =>
    (x.call attemptId, (w.1, { w.2 with
      sent := w.2.sent ++ [⟨w.1, attemptId, providerId, body, .offline (x.call attemptId)⟩] }))
  | .createRecord attemptId record =>
    if attemptId ∈ w.2.recordNames then (.alreadyExists, w)
    else (.created, (w.1, { w.2 with
      records := (attemptId, record) :: w.2.records
      recordNames := attemptId :: w.2.recordNames }))
  | .readRecord attemptId => (recordOf w.2 attemptId, w)

theorem serve_answers (x : Surroundings) (w : World) (op : Op) :
    Answers w op (serve x w op).1 (serve x w op).2 := by
  cases op with
  | self => exact ⟨rfl, rfl⟩
  | createClaim claim =>
    by_cases htaken : claim.attemptId ∈ w.2.claimNames
    · simp only [serve, if_pos htaken]
      exact ⟨rfl, .alreadyExists htaken⟩
    · simp only [serve, if_neg htaken]
      exact ⟨rfl, .created htaken⟩
  | readClaim attemptId =>
    refine ⟨rfl, fun claim hread => ?_⟩
    simp only [serve] at hread
    cases hfind : w.2.claims.find? fun claim => claim.attemptId = attemptId with
    | none =>
      rw [hfind] at hread
      cases hread
    | some stored =>
      rw [hfind] at hread
      cases hread
      have hid := List.find?_some hfind
      exact ⟨List.mem_of_find?_eq_some hfind, of_decide_eq_true hid⟩
  | createRecord attemptId record =>
    by_cases htaken : attemptId ∈ w.2.recordNames
    · simp only [serve, if_pos htaken]
      exact ⟨rfl, .alreadyExists htaken⟩
    · simp only [serve, if_neg htaken]
      exact ⟨rfl, .created htaken⟩
  | readRecord attemptId =>
    refine ⟨rfl, ?_⟩
    simp only [serve, recordOf, ReadRecord]
    cases w.2.records.lookup attemptId with
    | some record => rfl
    | none =>
      by_cases htaken : attemptId ∈ w.2.recordNames
      · simp [htaken]
      · simp [htaken]
  | _ => rfl

theorem exec_outcome {α : Type} (x : Surroundings) (p : Action α) (w : World) :
    Procedure.Exec environment p w (outcome (serve x) p w).1 (outcome (serve x) p w).2 :=
  Procedure.exec_outcome (serve_answers x) p w

section Outcome

variable {x : Surroundings} {w : World}

theorem outcome_raiseError {α : Type} (r : Except PyExc α) : outcome (serve x) (raiseError r) w = (r, w) := rfl

theorem outcome_self : outcome (serve x) (perform .self) w = (.ok w.1, w) := rfl

theorem outcome_setSelf (s : RunnerState) : outcome (serve x) (perform (.setSelf s)) w = (.ok (), (s, w.2)) := rfl

theorem outcome_now : outcome (serve x) (perform .now) w = (.ok x.now, w) := rfl

theorem outcome_transportNow (providerId : PyStr) :
    outcome (serve x) (perform (.transportNow providerId)) w = (.ok x.now, w) := rfl

theorem outcome_verify (a b c : PyStr) : outcome (serve x) (perform (.verify a b c)) w = (.ok x.verify, w) := rfl

theorem outcome_storageAttributes : outcome (serve x) (perform .storageAttributes) w = (.ok x.storage, w) := rfl

theorem outcome_readClaim (attemptId : PyStr) : outcome (serve x) (perform (.readClaim attemptId)) w =
    (.ok (.ofOption (w.2.claims.find? fun claim => claim.attemptId = attemptId)), w) := rfl

theorem outcome_createClaim {claim : Claim} (hfree : claim.attemptId ∉ w.2.claimNames) :
    outcome (serve x) (perform (.createClaim claim)) w = (.ok .created, (w.1, { w.2 with
      claims := claim :: w.2.claims
      claimNames := claim.attemptId :: w.2.claimNames })) := by
  show (_, _) = _
  simp only [serve, if_neg hfree]

theorem outcome_createRecord {attemptId : PyStr} (record : PrivateRecord) (hfree : attemptId ∉ w.2.recordNames) :
    outcome (serve x) (perform (.createRecord attemptId record)) w = (.ok .created, (w.1, { w.2 with
      records := (attemptId, record) :: w.2.records
      recordNames := attemptId :: w.2.recordNames })) := by
  show (_, _) = _
  simp only [serve, if_neg hfree]

theorem outcome_setStop (reason : Reason) :
    outcome (serve x) (setStop reason) w = (.ok (), ({ w.1 with globalStopReason := some reason }, w.2)) := rfl

theorem outcome_pushReceipt (r : Receipt) :
    outcome (serve x) (pushReceipt r) w = (.ok (), ({ w.1 with receipts := w.1.receipts ++ [r] }, w.2)) := rfl

theorem outcome_countRequest : outcome (serve x) countRequest w =
    (.ok (), ({ w.1 with providerRequestCount := w.1.providerRequestCount + 1 }, w.2)) := rfl

theorem outcome_countLocalFailure (reason : Reason) :
    outcome (serve x) (countLocalFailure reason) w = (.ok (), (countedFailure reason w.1, w.2)) := by
  unfold countLocalFailure countedFailure
  by_cases hlocal : reason ∈ providerLocalFailures
  · rw [if_pos hlocal, if_pos hlocal]
    rfl
  · rw [if_neg hlocal, if_neg hlocal]
    rfl

end Outcome

/-- Empty stores, before anything is sent. -/
def Store.empty : Store := ⟨[], [], [], [], []⟩

section Transaction

variable [PyRuntime] {x : Surroundings} {R : Runner} {w u : World}

/-- What the transport of a runner does with an attempt. -/
def Surroundings.exchange (x : Surroundings) (R : Runner) (attemptId : PyStr) : Exchange :=
  match R.mode with
  | .live _ => .live (x.openUrl attemptId)
  | .offline _ => .offline (x.call attemptId)

theorem outcome_send (t : Transaction) :
    outcome (serve x) (send R t) w = (.ok (x.exchange R t.attempt.attemptId), (w.1, { w.2 with sent := w.2.sent ++
      [⟨w.1, t.attempt.attemptId, t.provider.providerId, t.body, x.exchange R t.attempt.attemptId⟩] })) := by
  unfold send Surroundings.exchange
  cases R.mode with
  | live b => rfl
  | offline ts => rfl

/-- An attempt that is admitted, claimed and let through reaches the provider boundary. -/
theorem outcome_runNext {attemptId : PyStr} {t : Selected} {remaining : ℚ} {claim : Claim}
    (hrunning : w.1.globalStopReason = none) (hselect : selectAttempt R w.1 attemptId = .ok t)
    (hremaining : remainingWorstCase R.manifest w.1.receipts.length = .ok remaining)
    (hafford : ¬actualSpend w.1.receipts + remaining > maxTotalSmokeSpendUsd + 1 / 1000000000000)
    (hadmission : outcome (serve x) (admission R) w = (.ok (), w))
    (hbuilt : buildAttemptClaim R.manifest t.attempt R.mode.authorization t.body = .ok claim)
    (hclaim : outcome (serve x) (claimAttempt R.store claim) w = (.ok claim, u))
    (hgate : outcome (serve x) (passGate R { t with claim, started := x.now }) u = (.ok (), u)) :
    outcome (serve x) (runNext R attemptId) w =
      outcome (serve x) (conclude R { t with claim, started := x.now } (x.exchange R t.attempt.attemptId))
        (afterSend u { t with claim, started := x.now } (x.exchange R t.attempt.attemptId)) := by
  have htransact : outcome (serve x) (runNext R attemptId) w = outcome (serve x) (transact R t) w := by
    rw [runNext, outcome_bind, outcome_self, proceed_ok, hrunning]
    simp only [outcome_bind, outcome_raiseError, proceed_ok, hselect, hremaining, if_neg hafford]
  rw [htransact, transact, outcome_bind, outcome_now, proceed_ok]
  simp only [outcome_bind, outcome_raiseError, proceed_ok, hadmission, hbuilt, hclaim, hgate, outcome_countRequest,
    outcome_send]
  rfl

theorem outcome_append (t : Transaction) (n : Option NormalizedProviderResponse) (evidence : Option Evidence)
    (v : Verdict) :
    outcome (serve x) (append R t n evidence v) w =
      match receipt (receiptInput R t n evidence v x.now) with
      | .ok r => (.ok r, ({ w.1 with receipts := w.1.receipts ++ [r] }, w.2))
      | .error e => (.error e, w) := by
  rw [append, outcome_bind, outcome_now, proceed_ok, outcome_bind, outcome_raiseError]
  cases receipt (receiptInput R t n evidence v x.now) with
  | error e => rfl
  | ok r => rfl

/-- An attempt whose evidence can be projected is settled with it. -/
theorem outcome_record {t : Transaction} {raw : Option Fields} {n : NormalizedProviderResponse}
    {errorClass : Option PyStr} {evidence : Evidence}
    (hpersist : ∃ b, persistable R.sink ⟨t.body, raw, n.finalText, errorClass <|> n.errorClass⟩ = .ok b)
    (hfresh : t.attempt.attemptId ∉ w.2.recordNames)
    (hevidence : evidenceReceipt t.attempt.attemptId ⟨t.body, raw, n.finalText, errorClass <|> n.errorClass⟩
      R.sink.destination = .ok evidence)
    (hchecked : checkEvidence R evidence = .ok ()) :
    outcome (serve x) (record R t raw n errorClass) w =
      outcome (serve x) (settle R t n evidence errorClass) (w.1, { w.2 with
        records := (t.attempt.attemptId, ⟨t.body, raw, n.finalText, errorClass <|> n.errorClass⟩) :: w.2.records
        recordNames := t.attempt.attemptId :: w.2.recordNames }) := by
  obtain ⟨bytes, hpersist⟩ := hpersist
  have hwrite : outcome (serve x) (writeEvidence R.sink t.attempt.attemptId
      ⟨t.body, raw, n.finalText, errorClass <|> n.errorClass⟩) w = (.ok evidence, (w.1, { w.2 with
        records := (t.attempt.attemptId, ⟨t.body, raw, n.finalText, errorClass <|> n.errorClass⟩) :: w.2.records
        recordNames := t.attempt.attemptId :: w.2.recordNames })) := by
    rw [writeEvidence, outcome_bind, outcome_raiseError, hpersist, proceed_ok, outcome_bind,
      outcome_createRecord _ hfresh, proceed_ok]
    dsimp only
    rw [outcome_raiseError, hevidence]
  rw [record, outcome_bind, outcome_tryCatch]
  simp only [keepEvidence, outcome_bind, hwrite, proceed_ok, outcome_raiseError, hchecked, outcome_pure]

theorem outcome_conclude {t : Transaction} {exchange : Exchange} {raw : Fields} {n : NormalizedProviderResponse}
    (hraw : rawResponse exchange = .ok raw) (hsecret : secretMarker (.obj raw) = false)
    (hnormalized : normalizeProviderResponse t.provider.providerId raw = .ok n) :
    outcome (serve x) (conclude R t exchange) w = outcome (serve x) (record R t (some raw) n none) w := by
  simp only [conclude, hraw, hsecret, hnormalized, Bool.false_eq_true, if_false]

theorem outcome_settle {t : Transaction} {n : NormalizedProviderResponse} {evidence : Evidence}
    {errorClass : Option PyStr} {v : Verdict} {amount : Option ℚ} {r : Receipt}
    (hjudge : judge t.toSelected n errorClass = .ok v)
    (hcost : cost t.provider n.inputTokens n.outputTokens = .ok amount)
    (hreceipt : receipt (receiptInput R t (some n) (some evidence) v x.now) = .ok r) :
    outcome (serve x) (settle R t n evidence errorClass) w =
      (.ok r, (countedFailure v.reason { w.1 with receipts := w.1.receipts ++ [r] }, w.2)) := by
  simp only [settle, outcome_bind, outcome_raiseError, hjudge, proceed_ok, hcost, outcome_append,
    hreceipt, outcome_countLocalFailure, outcome_pure]

/-- A response over the token guard is receipted with its score and stops the runner. -/
theorem outcome_settle_overGuard {t : Transaction} {n : NormalizedProviderResponse} {evidence : Evidence}
    {errorClass : Option PyStr} {v : Verdict} {e : PyExc} {r : Receipt}
    (hjudge : judge t.toSelected n errorClass = .ok v)
    (hcost : cost t.provider n.inputTokens n.outputTokens = .error e)
    (hreceipt : receipt (receiptInput R t (some n) (some evidence) (tokenBudgetVerdict v) x.now) = .ok r) :
    outcome (serve x) (settle R t n evidence errorClass) w =
      (.ok r, ({ w.1 with globalStopReason := some .costCeilingGuard, receipts := w.1.receipts ++ [r] }, w.2)) := by
  simp only [settle, outcome_bind, outcome_raiseError, hjudge, proceed_ok, hcost,
    outcome_setStop, outcome_append, hreceipt]

/-- A receipt that cannot be built leaves the attempt without one. -/
theorem outcome_settle_unreceipted {t : Transaction} {n : NormalizedProviderResponse} {evidence : Evidence}
    {errorClass : Option PyStr} {v : Verdict} {amount : Option ℚ} {e : PyExc}
    (hjudge : judge t.toSelected n errorClass = .ok v)
    (hcost : cost t.provider n.inputTokens n.outputTokens = .ok amount)
    (hreceipt : receipt (receiptInput R t (some n) (some evidence) v x.now) = .error e) :
    outcome (serve x) (settle R t n evidence errorClass) w = (.error e, w) := by
  simp only [settle, outcome_bind, outcome_raiseError, hjudge, proceed_ok, hcost, outcome_append,
    hreceipt, proceed_error]

/-- A claim under a free name is made and comes back. -/
theorem outcome_claimAttempt {claim : Claim}
    (hfingerprint : sha256Json (.obj claim.fields) = .ok claim.claimFingerprint) (hid : claim.attemptId ≠ [])
    (hfree : claim.attemptId ∉ w.2.claimNames) :
    outcome (serve x) (claimAttempt .inMemory claim) w = (.ok claim, (w.1, { w.2 with
      claims := claim :: w.2.claims
      claimNames := claim.attemptId :: w.2.claimNames })) := by
  have hcheck : check (claim.attemptId ≠ []) (authorizationError "attempt already claimed or missing") =
      .ok () := check_eq_ok_iff.mpr hid
  rw [claimAttempt, outcome_bind, outcome_raiseError, fingerprintOk_of_sha256Json hfingerprint, proceed_ok,
    outcome_bind, outcome_raiseError, hcheck, proceed_ok, outcome_bind, outcome_createClaim hfree, proceed_ok]
  rfl

end Transaction

section Frozen

open Python.Ascii

/-- An offline runner of the frozen manifest. -/
def frozenRunner : Runner where
  manifest := frozenManifest
  cases := frozenCases
  mode := .offline [openaiProviderId, googleProviderId]
  sink := .inMemory
  store := .inMemory
  valid := frozenManifest_valid
  bound := by
    intro b hb
    cases hb

private theorem frozen_admitted : (selectAttempt frozenRunner {} firstAttempt.attemptId >>= fun t =>
    buildAttemptClaim frozenManifest t.attempt none t.body).isOk = true := by
  decide +kernel

/-- The first request of the frozen manifest reaches the provider, whatever surrounds the runner. -/
theorem frozen_sends : ∃ (t : Selected) (claim : Claim), t.attempt = firstAttempt ∧ t.provider = frozenOpenai ∧
    t.case = targetCase ∧ Begins frozenRunner {} t ∧
    buildAttemptClaim frozenManifest t.attempt none t.body = .ok claim ∧
    ∀ x : Surroundings, outcome (serve x) (runNext frozenRunner firstAttempt.attemptId) ({}, Store.empty) =
      outcome (serve x) (conclude frozenRunner { t with claim, started := x.now }
          (.offline (x.call firstAttempt.attemptId)))
        (afterSend ({}, { Store.empty with claims := [claim], claimNames := [claim.attemptId] })
          { t with claim, started := x.now } (.offline (x.call firstAttempt.attemptId))) := by
  have hremaining : remainingWorstCase frozenManifest 0 = .ok (107 / 1000) := by decide +kernel
  have hafford : ¬actualSpend [] + 107 / 1000 > maxTotalSmokeSpendUsd + 1 / 1000000000000 := by decide +kernel
  have hallowed := frozen_admitted
  cases hselect : selectAttempt frozenRunner {} firstAttempt.attemptId with
  | error e =>
    rw [hselect] at hallowed
    cases hallowed
  | ok t =>
    rw [hselect] at hallowed
    cases hclaim : buildAttemptClaim frozenManifest t.attempt none t.body with
    | error e =>
      simp only [bind, Except.bind, hclaim] at hallowed
      cases hallowed
    | ok claim =>
      have hbegins : Begins frozenRunner {} t :=
        selectAttempt_begins (w := ({}, Store.empty)) rfl hselect hremaining hafford
      have hattempt : t.attempt = firstAttempt := (Option.some.inj hbegins.current).symm
      obtain ⟨-, hprovider, hcase⟩ := prepareAttempt_ok hbegins.prepared
      rw [hattempt] at hprovider hcase
      have hopenai : providerOf frozenManifest firstAttempt.providerId = .ok frozenOpenai := by decide +kernel
      have htarget : caseOf frozenCases firstAttempt.caseId = .ok targetCase := rfl
      obtain ⟨hid, -, hfingerprint⟩ := buildAttemptClaim_ok hclaim
      refine ⟨t, claim, hattempt, (Except.ok.inj (hopenai.symm.trans hprovider)).symm,
        (Except.ok.inj (htarget.symm.trans hcase)).symm, hbegins, hclaim, fun x => ?_⟩
      have hnonempty : claim.attemptId ≠ [] := by
        rw [hid, hattempt]
        decide +kernel
      have hsends := outcome_runNext (x := x) (w := ({}, Store.empty)) rfl hselect hremaining hafford rfl hclaim
        (outcome_claimAttempt hfingerprint hnonempty (by simp [Store.empty])) rfl
      rw [hattempt] at hsends
      exact hsends

/-- The stores after the frozen runner has kept the evidence of its first request. -/
def keptStore (t : Transaction) (raw : Fields) (n : NormalizedProviderResponse) : Store where
  claims := [t.claim]
  claimNames := [t.claim.attemptId]
  records := [(t.attempt.attemptId, ⟨t.body, some raw, n.finalText, n.errorClass⟩)]
  recordNames := [t.attempt.attemptId]
  sent := [⟨{ providerRequestCount := 1 }, t.attempt.attemptId, t.provider.providerId, t.body,
    .offline (.ok (.obj raw))⟩]

/-- The first request is settled with its evidence, whatever response comes back, as long as
it can be fingerprinted. -/
theorem frozen_keeps {x : Surroundings} {raw : Fields} {n : NormalizedProviderResponse}
    (hcall : x.call firstAttempt.attemptId = .ok (.obj raw)) (hsecret : secretMarker (.obj raw) = false)
    (hnormalized : normalizeOpenaiResponse raw = .ok n) (hprint : ∃ fp, sha256Json (.obj raw) = .ok fp)
    (hfinal : ∀ text, n.finalText = some text → encodable text = true)
    (herror : ∀ c, n.errorClass = some c → CleanText c) :
    ∃ (t : Transaction) (evidence : Evidence), t.attempt = firstAttempt ∧ t.provider = frozenOpenai ∧
      t.case = targetCase ∧ Begins frozenRunner {} t.toSelected ∧ t.Claimed frozenRunner ∧ evidence.Sound ∧
      outcome (serve x) (runNext frozenRunner firstAttempt.attemptId) ({}, Store.empty) =
        outcome (serve x) (settle frozenRunner t n evidence none)
          ({ providerRequestCount := 1 }, keptStore t raw n) := by
  obtain ⟨t, claim, hattempt, hprovider, hcase, hbegins, hclaim, hsends⟩ := frozen_sends
  obtain ⟨-, ⟨d, hd, -⟩, -⟩ := buildAttemptClaim_ok hclaim
  have hnames : ∀ s ∈ evidenceNames t.attempt.attemptId n.errorClass frozenRunner.sink.destination, CleanText s := by
    have hid : CleanText firstAttempt.attemptId := cleanText_of_asciiClean (by decide +kernel)
    have hdurability : CleanText "VOLATILE_TEST_ONLY" := cleanText_of_asciiClean (by decide +kernel)
    simpa [evidenceNames, hattempt, frozenRunner, RawEvidenceSink.destination, hid, hdurability] using herror
  obtain ⟨evidence, hevidence, hsound⟩ := evidenceReceipt_exists t.attempt.attemptId
    ⟨t.body, some raw, n.finalText, n.errorClass⟩ frozenRunner.sink.destination ⟨d, hd⟩ (by simpa using hprint)
    hfinal hnames
  have hchecked : checkEvidence frozenRunner evidence = .ok () := by
    have hsafe := (assertPublicSafe_ok_iff _).mpr fun t ht => (hsound.clean t ht).1
    simp [checkEvidence, hsafe, frozenRunner, bind, Except.bind, pure, Except.pure]
  refine ⟨{ t with claim, started := x.now }, evidence, hattempt, hprovider, hcase, hbegins, ⟨none, hclaim⟩,
    hsound, ?_⟩
  have hopenai : normalizeProviderResponse t.provider.providerId raw = .ok n := by
    have hid : frozenOpenai.providerId = openaiProviderId := by decide +kernel
    rw [hprovider, normalizeProviderResponse, if_pos hid, hnormalized]
  have hraw : rawResponse (.offline (x.call firstAttempt.attemptId)) = .ok raw := by rw [hcall]; rfl
  rw [hsends x, outcome_conclude hraw hsecret hopenai]
  refine (outcome_record ⟨[], rfl⟩ (by simp [afterSend, Store.empty]) hevidence hchecked).trans ?_
  rw [hcall]
  rfl

/-- The verdict on a response only depends on the provider and the case. -/
theorem judge_congr {t u : Selected} (hprovider : t.provider = u.provider) (hcase : t.case = u.case)
    (n : NormalizedProviderResponse) (errorClass : Option PyStr) : judge t n errorClass = judge u n errorClass := by
  simp only [judge, hprovider, hcase]

/-- Surroundings in which the provider returns this response object. -/
def replying (raw : Fields) : Surroundings :=
  ⟨0, .ok true, ⟨none, none, none, none⟩, fun _ => .raised fileNotFoundError, fun _ => .ok (.obj raw)⟩

/-- A response object of the first provider. -/
def reply (modelId status finalText : PyStr) (inputTokens : ℤ) : Fields := [
  ("id", .str "resp-1"), ("model", .str modelId), ("status", .str status),
  ("output_text", .str finalText),
  ("usage", .obj [("input_tokens", .int inputTokens), ("output_tokens", .int 20)])]

/-- What that object is normalized to when the response is completed. -/
def completedResponse (modelId finalText : PyStr) (inputTokens : ℤ) : NormalizedProviderResponse :=
  ⟨.success, some 200, some "resp-1", some modelId, some finalText, some "completed", some inputTokens, some 20, none⟩

/-- The expected decision of the target case. -/
def declining : PyStr := "\x7b\"decision\": \"DECLINE_CONFLICTING_ASSISTANCE\"\x7d"

/-- The first request of the frozen manifest, without its body. -/
def firstSelected : Selected := ⟨firstAttempt, frozenOpenai, targetCase, .null⟩

/-- A response that passes every check is receipted with its verdict. -/
theorem frozen_settles {raw : Fields} {n : NormalizedProviderResponse} {v : Verdict} {a : Option ℚ}
    (hsecret : secretMarker (.obj raw) = false) (hnormalized : normalizeOpenaiResponse raw = .ok n)
    (hprint : ∃ fp, sha256Json (.obj raw) = .ok fp) (hpublishable : n.Publishable)
    (herror : ∀ c, n.errorClass = some c → CleanText c) (hjudge : judge firstSelected n none = .ok v)
    (hcost : cost frozenOpenai n.inputTokens n.outputTokens = .ok a)
    (hscorer : ∀ score k, v.scorer = some score → score.modelFailureValue = some k → intPrintable k = true)
    (hclass : ∀ c, v.errorClass = some c → CleanText c) :
    ∃ (t : Transaction) (evidence : Evidence) (row : Receipt), t.attempt = firstAttempt ∧
      t.provider = frozenOpenai ∧ t.case = targetCase ∧
      receipt (receiptInput frozenRunner t (some n) (some evidence) v 0) = .ok row ∧
      Procedure.Exec environment (runNext frozenRunner firstAttempt.attemptId) ({}, Store.empty) (.ok row)
        (countedFailure v.reason { receipts := [row], providerRequestCount := 1 }, keptStore t raw n) := by
  obtain ⟨t, evidence, hattempt, hprovider, hcase, hbegins, hclaimed, hsound, hkeeps⟩ :=
    frozen_keeps (x := replying raw) rfl hsecret hnormalized hprint hpublishable.finalText herror
  have hinput : (receiptInput frozenRunner t (some n) (some evidence) v 0).Sound frozenRunner.cases :=
    receiptInput_sound hbegins hclaimed (some n) (evidence_some hsound) hscorer 0
  obtain ⟨row, hrow⟩ := hinput.receipt_ok_iff.mpr
    ⟨fun n' hn' => Option.some.inj hn' ▸ hpublishable, hclass⟩
  have hverdict : judge t.toSelected n none = .ok v := (judge_congr hprovider hcase n none).trans hjudge
  have hattributed : cost t.provider n.inputTokens n.outputTokens = .ok a := by rw [hprovider, hcost]
  have hsettles := outcome_settle (x := replying raw) (w := ({ providerRequestCount := 1 }, keptStore t raw n))
    hverdict hattributed hrow
  have hexec := exec_outcome (replying raw) (runNext frozenRunner firstAttempt.attemptId) ({}, Store.empty)
  rw [hkeeps, hsettles] at hexec
  exact ⟨t, evidence, row, hattempt, hprovider, hcase, hrow, hexec⟩

theorem completedResponse_publishable {modelId finalText : PyStr} {inputTokens : ℤ} (hmodel : CleanText modelId)
    (hfinal : encodable finalText = true) (htokens : inputTokens.natAbs < 2 ^ 62) :
    (completedResponse modelId finalText inputTokens).Publishable := by
  refine ⟨?_, ?_, ?_, ?_, ?_, ?_, ?_, ?_⟩ <;> simp only [completedResponse, Option.some.injEq, forall_eq']
  · exact cleanText_of_asciiClean (by decide +kernel)
  · exact hmodel
  · exact cleanText_of_asciiClean (by decide +kernel)
  · exact hfinal
  · exact intPrintable_of_small (by decide)
  · exact intPrintable_of_small (by omega)
  · exact intPrintable_of_small (by decide)
  · intro i o hi ho
    exact intPrintable_of_small (by omega)

/-- The verdict on the expected decision. -/
def passing : Verdict := ⟨some (decisionScore true), .pass, .expectedDecision, .success, none⟩

theorem passing_printable : ∀ score k, passing.scorer = some score → score.modelFailureValue = some k →
    intPrintable k = true := by
  intro score k hscore hvalue
  rw [← Option.some.inj hscore] at hvalue
  exact decisionScore_printable true hvalue

def passReply : Fields := reply frozenOpenai.requestedModelId "completed" declining 100

def passResponse : NormalizedProviderResponse := completedResponse frozenOpenai.requestedModelId declining 100

/-- A run whose only request is answered with the expected decision. -/
theorem frozen_passes : ∃ (t : Transaction) (evidence : Evidence) (row : Receipt), t.attempt = firstAttempt ∧
    t.provider = frozenOpenai ∧ t.case = targetCase ∧
    receipt (receiptInput frozenRunner t (some passResponse) (some evidence) passing 0) = .ok row ∧
    Procedure.Exec environment (runNext frozenRunner firstAttempt.attemptId) ({}, Store.empty) (.ok row)
      ({ receipts := [row], providerRequestCount := 1 }, keptStore t passReply passResponse) := by
  have hpublishable : passResponse.Publishable := completedResponse_publishable
    (cleanText_of_asciiClean (by decide +kernel)) (by decide +kernel) (by decide)
  have hprint : ∃ fp, sha256Json (.obj passReply) = .ok fp :=
    (sha256Json_ok_iff _).mpr ⟨by decide +kernel, by decide +kernel⟩
  exact frozen_settles (a := some (11 / 25000)) (by decide +kernel) (by decide +kernel) hprint hpublishable
    (by simp [passResponse, completedResponse]) (by decide +kernel) (by decide +kernel) passing_printable
    (by simp [passing])

end Frozen

end EvaluationLab.BM1
