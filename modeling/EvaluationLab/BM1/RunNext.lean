import EvaluationLab.BM1.Transaction

/-! `run_next` does exactly what `Transition` says. -/
namespace EvaluationLab.BM1
open Python Effect QA0

variable [PyRuntime] {R : Runner} {w : World}

omit [PyRuntime] in
theorem wp_setStop {reason : Reason} {Q : Except PyExc Unit → World → Prop} :
    Procedure.wp environment (setStop reason) Q w ↔
      Q (.ok ()) ({ w.1 with globalStopReason := some reason }, w.2) := by
  rw [setStop, Procedure.wp_bind, wp_self, Procedure.continueWith_ok, wp_setSelf]

omit [PyRuntime] in
theorem wp_countRequest {Q : Except PyExc Unit → World → Prop} :
    Procedure.wp environment countRequest Q w ↔
      Q (.ok ()) ({ w.1 with providerRequestCount := w.1.providerRequestCount + 1 }, w.2) := by
  rw [countRequest, Procedure.wp_bind, wp_self, Procedure.continueWith_ok, wp_setSelf]

omit [PyRuntime] in
theorem wp_pushReceipt {r : Receipt} {Q : Except PyExc Unit → World → Prop} :
    Procedure.wp environment (pushReceipt r) Q w ↔
      Q (.ok ()) ({ w.1 with receipts := w.1.receipts ++ [r] }, w.2) := by
  rw [pushReceipt, Procedure.wp_bind, wp_self, Procedure.continueWith_ok, wp_setSelf]

omit [PyRuntime] in
theorem wp_countLocalFailure {reason : Reason} {Q : Except PyExc Unit → World → Prop} :
    Procedure.wp environment (countLocalFailure reason) Q w ↔
      Q (.ok ()) (countedFailure reason w.1, w.2) := by
  unfold countLocalFailure countedFailure
  by_cases hlocal : reason ∈ providerLocalFailures
  · rw [if_pos hlocal, if_pos hlocal, Procedure.wp_bind, wp_self, Procedure.continueWith_ok, wp_setSelf]
  · rw [if_neg hlocal, if_neg hlocal, Procedure.wp_pure]

/-- `_append` pushes the receipt it builds, or raises what kept it from being built. -/
theorem append_spec (t : Transaction) (n : Option NormalizedProviderResponse) (evidence : Option Evidence)
    (v : Verdict) :
    Procedure.wp environment (append R t n evidence v) (fun r w' => ∃ completed,
      (∃ row, receipt (receiptInput R t n evidence v completed) = .ok row ∧ r = .ok row ∧
        w' = ({ w.1 with receipts := w.1.receipts ++ [row] }, w.2)) ∨
      ∃ e, receipt (receiptInput R t n evidence v completed) = .error e ∧ r = .error e ∧ w' = w) w := by
  rw [append, Procedure.wp_bind, wp_now]
  intro completed
  rw [Procedure.continueWith_ok, Procedure.wp_bind, wp_raiseError]
  cases hr : receipt (receiptInput R t n evidence v completed) with
  | error e => exact ⟨completed, .inr ⟨e, hr, rfl, rfl⟩⟩
  | ok row =>
    simp only [Procedure.continueWith_ok, Procedure.wp_bind, wp_pushReceipt, Procedure.wp_pure]
    exact ⟨completed, .inl ⟨row, hr, rfl, rfl⟩⟩

/-- The same after a stop reason has been set. -/
theorem stop_append_spec {reason : Reason} (t : Transaction) (n : Option NormalizedProviderResponse)
    (evidence : Option Evidence) (v : Verdict) :
    Procedure.wp environment (do setStop reason; append R t n evidence v) (fun r w' => w'.2 = w.2 ∧
      Appends (receiptInput R t n evidence v) { w.1 with globalStopReason := some reason } r w'.1) w := by
  rw [Procedure.wp_bind, wp_setStop, Procedure.continueWith_ok]
  refine Procedure.wp_mono (append_spec t n evidence v) ?_
  rintro r w' ⟨completed, ⟨row, hrow, rfl, rfl⟩ | ⟨e, he, rfl, rfl⟩⟩
  · exact ⟨rfl, .receipted hrow⟩
  · exact ⟨rfl, .refused he⟩

theorem settle_spec (t : Transaction) (n : NormalizedProviderResponse) (evidence : Evidence)
    (errorClass : Option PyStr) :
    Procedure.wp environment (settle R t n evidence errorClass)
      (fun r w' => w'.2 = w.2 ∧ Settles R t n evidence errorClass w.1 r w'.1) w := by
  rw [settle, Procedure.wp_bind, wp_raiseError]
  cases hjudge : judge t.toSelected n errorClass with
  | error e => exact ⟨rfl, .unjudged hjudge⟩
  | ok v =>
    rw [Procedure.continueWith_ok]
    cases hcost : cost t.provider n.inputTokens n.outputTokens with
    | error e =>
      refine Procedure.wp_mono (stop_append_spec t (some n) (some evidence) (tokenBudgetVerdict v)) ?_
      rintro r w' ⟨hstore, happends⟩
      exact ⟨hstore, .guarded hjudge hcost happends⟩
    | ok amount =>
      rw [Procedure.wp_bind]
      refine Procedure.wp_mono (append_spec t (some n) (some evidence) v) ?_
      rintro r w' ⟨completed, ⟨row, hrow, rfl, rfl⟩ | ⟨e, he, rfl, rfl⟩⟩
      · rw [Procedure.continueWith_ok, Procedure.wp_bind, wp_countLocalFailure]
        exact ⟨rfl, .judged hjudge hcost hrow⟩
      · exact ⟨rfl, .unreceipted hjudge he⟩

/-- A sink either stores the record and projects it, or raises an ordinary error. -/
theorem writeEvidence_spec (sink : RawEvidenceSink) (attemptId : PyStr) (record : PrivateRecord) :
    Procedure.wp environment (writeEvidence sink attemptId record)
      (fun r w' => w'.1 = w.1 ∧ w'.2.sent = w.2.sent ∧ RecordsGrow w.2 w'.2 ∧ Ordinary r ∧
        ∀ evidence, r = .ok evidence → attemptId ∉ w.2.recordNames ∧
          w'.2.records = (attemptId, record) :: w.2.records ∧
          w'.2.recordNames = attemptId :: w.2.recordNames ∧
          evidenceReceipt attemptId record sink.destination = .ok evidence) w := by
  have hsame : RecordsGrow w.2 w.2 := .inl ⟨rfl, fun _ h => h⟩
  have hnone : ∀ e : PyExc, ∀ evidence : Evidence, (.error e : Except PyExc Evidence) ≠ .ok evidence :=
    fun _ _ h => by cases h
  rw [writeEvidence, Procedure.wp_bind, wp_raiseError]
  cases hpersist : persistable sink record with
  | error e =>
    have hordinary : Ordinary (persistable sink record) := by
      unfold persistable
      cases sink with
      | inMemory => exact Ordinary.ok _
      | file s => exact (ordinary_canonicalJson _).bind fun _ => ordinary_encode _
    refine ⟨rfl, rfl, hsame, ?_, fun evidence h => absurd h (hnone e evidence)⟩
    intro e' he'
    cases he'
    exact hordinary e hpersist
  | ok bytes =>
    rw [Procedure.continueWith_ok, Procedure.wp_bind, wp_createRecord]
    intro creation s' hcreate
    cases hcreate with
    | created hfresh =>
      refine ⟨rfl, rfl, .inr ⟨_, _, hfresh, rfl, rfl⟩, ordinary_evidenceReceipt _ _ _, ?_⟩
      exact fun evidence h => ⟨hfresh, rfl, rfl, h⟩
    | alreadyExists htaken =>
      refine ⟨rfl, rfl, hsame, ?_, fun evidence h => absurd h (hnone _ evidence)⟩
      intro e' he'
      cases he'
      show "Exception" ∈ _
      simp [contractError]
    | raised e he =>
      refine ⟨rfl, rfl, hsame, ?_, fun evidence h => absurd h (hnone e evidence)⟩
      intro e' he'
      cases he'
      exact he
    | torn e he hfresh =>
      refine ⟨rfl, rfl, .inl ⟨rfl, List.subset_cons_self _ _⟩, ?_, fun evidence h => absurd h (hnone e evidence)⟩
      intro e' he'
      cases he'
      exact he
    | raisedAfter e he hfresh =>
      refine ⟨rfl, rfl, .inr ⟨_, _, hfresh, rfl, rfl⟩, ?_, fun evidence h => absurd h (hnone e evidence)⟩
      intro e' he'
      cases he'
      exact he

theorem keepEvidence_spec (t : Transaction) (record : PrivateRecord) :
    Procedure.wp environment (keepEvidence R t record)
      (fun r w' => w'.1 = w.1 ∧ w'.2.sent = w.2.sent ∧ RecordsGrow w.2 w'.2 ∧ Ordinary r ∧
        ∀ written, r = .ok written → ∃ evidence, written = some evidence ∧
          Keeps R t record evidence w.2 w'.2) w := by
  rw [keepEvidence, Procedure.wp_bind]
  refine Procedure.wp_mono (writeEvidence_spec R.sink t.attempt.attemptId record) ?_
  rintro r w' ⟨hself, hsent, hgrow, hordinary, hkept⟩
  cases r with
  | error e =>
    refine ⟨hself, hsent, hgrow, ?_, fun written h => by cases h⟩
    intro e' he'
    cases he'
    exact hordinary e rfl
  | ok evidence =>
    obtain ⟨hfresh, hrecords, hnames, hprojected⟩ := hkept evidence rfl
    rw [Procedure.continueWith_ok, Procedure.wp_bind, wp_raiseError]
    cases hchecked : checkEvidence R evidence with
    | error e =>
      refine ⟨hself, hsent, hgrow, ?_, fun written h => by cases h⟩
      intro e' he'
      cases he'
      exact ordinary_checkEvidence R evidence e hchecked
    | ok u =>
      refine ⟨hself, hsent, hgrow, Ordinary.ok _, ?_⟩
      intro written h
      cases h
      exact ⟨evidence, rfl, hfresh, hrecords, hnames, hsent, hprojected, hchecked⟩

/-- Once a response is observed the transaction ends with or without its evidence. -/
theorem record_spec (t : Transaction) (exchange : Exchange) {raw : Option Fields}
    {n : NormalizedProviderResponse} {errorClass : Option PyStr}
    (hobserved : Observed t.provider.providerId exchange raw n errorClass) :
    Procedure.wp environment (record R t raw n errorClass) (Concludes R t exchange w) w := by
  rw [record, Procedure.wp_bind, Procedure.wp_tryCatch]
  refine Procedure.wp_mono (keepEvidence_spec t _) ?_
  rintro r u ⟨hself, hsent, hgrow, hordinary, hkept⟩
  cases r with
  | error e =>
    have he : e.isA "Exception" := hordinary e rfl
    simp only [he, if_true, Procedure.wp_pure, Procedure.continueWith_ok]
    refine Procedure.wp_mono (stop_append_spec t (some n) none
      (errorVerdict .evidenceWriteError "EvidenceWriteError")) ?_
    rintro r w' ⟨hstore, happends⟩
    rw [hself] at happends
    exact .unkept hobserved (by rwa [hstore]) (by rw [hstore, hsent]) happends
  | ok written =>
    obtain ⟨evidence, rfl, hkeeps⟩ := hkept written rfl
    simp only [Procedure.continueWith_ok]
    refine Procedure.wp_mono (settle_spec t n evidence errorClass) ?_
    rintro r w' ⟨hstore, hsettles⟩
    rw [hself] at hsettles
    exact .kept hobserved (by rwa [hstore]) hsettles

theorem recover_spec (t : Transaction) (exchange : Exchange) {raw : Option Fields} {e : PyExc}
    (hfails : CallFails t.provider.providerId exchange raw e) :
    Procedure.wp environment (recover R t raw e) (Concludes R t exchange w) w := by
  unfold recover
  by_cases hauth : e.isA "BM1AuthorizationError"
  · rw [if_pos hauth, Procedure.wp_bind, wp_setStop]
    exact .authorization hfails hauth
  · rw [if_neg hauth]
    have hrecovered : ∀ {terminal : ProviderTerminal} {errorClass : PyStr},
        recoveredAs e = some (terminal, errorClass) →
        Observed t.provider.providerId exchange raw (failedResponse terminal errorClass) (some errorClass) :=
      fun h => .failure hfails h
    by_cases htimeout : e.isA "TimeoutError"
    · rw [if_pos htimeout]
      exact record_spec t exchange (hrecovered (by simp [recoveredAs, hauth, htimeout]))
    · rw [if_neg htimeout]
      by_cases hnetwork : e.isA "ConnectionError" ∨ e.isA "OSError"
      · rw [if_pos hnetwork]
        exact record_spec t exchange (hrecovered (by simp [recoveredAs, hauth, htimeout, hnetwork]))
      · rw [if_neg hnetwork]
        by_cases hexception : e.isA "Exception"
        · rw [if_pos hexception]
          exact record_spec t exchange
            (hrecovered (by simp [recoveredAs, hauth, htimeout, hnetwork, hexception]))
        · rw [if_neg hexception]
          exact .escaped hfails hauth (by simp [recoveredAs, hauth, htimeout, hnetwork, hexception])

/-- After the provider boundary the transaction ends in one of the ways listed by `Concludes`. -/
theorem conclude_spec {s : RunnerState} {t : Transaction} (hbegins : Begins R s t.toSelected)
    (hclaimed : t.Claimed R) (exchange : Exchange) :
    Procedure.wp environment (conclude R t exchange) (Concludes R t exchange w) w := by
  unfold conclude
  cases hraw : rawResponse exchange with
  | error e => exact recover_spec t exchange (.unread hraw)
  | ok raw =>
    dsimp only
    by_cases hsecret : secretMarker (.obj raw) = true
    · rw [if_pos hsecret, Procedure.wp_bind, wp_setStop, Procedure.continueWith_ok, Procedure.wp_tryCatch]
      refine Procedure.wp_mono (append_spec t none none _) ?_
      rintro r w' ⟨completed, ⟨row, hrow, rfl, rfl⟩ | ⟨e, he, rfl, rfl⟩⟩
      · exact .secret hraw hsecret hrow
      · -- the receipt of a leak repeats nothing of the response, so it is always built
        have hclean : CleanText "SecretLeakGuard" := cleanText_of_asciiClean (by decide +kernel)
        obtain ⟨row, hrow⟩ :=
          receipt_without_response hbegins hclaimed .secretLeakSuspected hclean completed
        rw [he] at hrow
        cases hrow
    · rw [if_neg hsecret]
      have hsecret' : secretMarker (.obj raw) = false := by simpa using hsecret
      cases hn : normalizeProviderResponse t.provider.providerId raw with
      | error e => exact recover_spec t exchange (.unnormalized hraw hsecret' hn)
      | ok n => exact record_spec t exchange (.response hraw hsecret' hn)

theorem send_spec (t : Transaction) :
    Procedure.wp environment (send R t) (fun r w' => ∃ exchange, r = .ok exchange ∧ exchange.Fits R ∧
      w' = (w.1, { w.2 with sent := w.2.sent ++
        [⟨w.1, t.attempt.attemptId, t.provider.providerId, t.body, exchange⟩] })) w := by
  unfold send
  cases hmode : R.mode with
  | live b =>
    rw [Procedure.wp_bind]
    refine wp_perform.mpr ?_
    rintro x w' rfl
    exact ⟨.live x, rfl, by simp [Exchange.Fits, hmode], rfl⟩
  | offline ts =>
    rw [Procedure.wp_bind]
    refine wp_perform.mpr ?_
    rintro x w' rfl
    exact ⟨.offline x, rfl, by simp [Exchange.Fits, hmode], rfl⟩

/-- The final gate lets the transaction through or ends it with a stop. -/
theorem passGate_spec (t : Transaction) :
    Procedure.wp environment (passGate R t) (fun r w' => match r with
      | .ok _ => SameAccount w w'
      | .error _ => SameAccount w w' ∨ ∃ v reason errorClass a s', SameAccount w v ∧
          (reason = .liveAuthorizationStop ∨ reason = .livePreProviderStop) ∧
          Appends (receiptInput R t none none (errorVerdict reason errorClass))
            { v.1 with globalStopReason := some reason } a s' ∧ w' = (s', v.2)) w := by
  unfold passGate
  cases R.mode with
  | offline ts => exact SameAccount.refl w
  | live b =>
    dsimp only
    rw [finalGate, Procedure.wp_tryCatch]
    refine Procedure.wp_mono (quiet_finalChecks R b t w) ?_
    intro r v hv
    cases r with
    | ok u => exact hv
    | error e =>
      dsimp only
      by_cases hauth : e.isA "BM1AuthorizationError"
      · rw [if_pos hauth, Procedure.wp_bind, wp_setStop, Procedure.continueWith_ok, Procedure.wp_bind]
        refine Procedure.wp_mono (append_spec t none none _) ?_
        rintro a w' ⟨completed, ⟨row, hrow, rfl, rfl⟩ | ⟨e', he', rfl, rfl⟩⟩
        · exact .inr ⟨v, _, _, _, _, hv, .inl rfl, .receipted hrow, rfl⟩
        · exact .inr ⟨v, _, _, _, _, hv, .inl rfl, .refused he', rfl⟩
      · rw [if_neg hauth]
        by_cases hexception : e.isA "Exception"
        · rw [if_pos hexception, Procedure.wp_bind, wp_setStop, Procedure.continueWith_ok, Procedure.wp_bind]
          refine Procedure.wp_mono (append_spec t none none _) ?_
          rintro a w' ⟨completed, ⟨row, hrow, rfl, rfl⟩ | ⟨e', he', rfl, rfl⟩⟩
          · exact .inr ⟨v, _, _, _, _, hv, .inr rfl, .receipted hrow, rfl⟩
          · exact .inr ⟨v, _, _, _, _, hv, .inr rfl, .refused he', rfl⟩
        · rw [if_neg hexception]
          exact .inl hv

theorem transact_spec {t : Selected} (hbegins : Begins R w.1 t) :
    Procedure.wp environment (transact R t) (Transition R w) w := by
  rw [transact, Procedure.wp_bind, wp_now]
  intro started
  rw [Procedure.continueWith_ok, Procedure.wp_bind]
  refine Procedure.wp_mono (quiet_admission R w) ?_
  intro r u hu
  cases r with
  | error e => exact .refused hu
  | ok _ =>
    rw [Procedure.continueWith_ok, Procedure.wp_bind, wp_raiseError]
    cases hbuilt : buildAttemptClaim R.manifest t.attempt R.mode.authorization t.body with
    | error e => exact .refused hu
    | ok built =>
      rw [Procedure.continueWith_ok, Procedure.wp_bind]
      refine Procedure.wp_mono (Procedure.wp_and (quiet_claimAttempt R.store built u)
        (claimAttempt_returns R.store built u)) ?_
      rintro r v ⟨hv, hreturns⟩
      have hwv := hu.trans hv
      cases r with
      | error e => exact .refused hwv
      | ok claim =>
        obtain rfl := hreturns claim rfl
        have hclaimed : Transaction.Claimed R { t with claim := claim, started } := ⟨_, hbuilt⟩
        rw [Procedure.continueWith_ok, Procedure.wp_bind]
        refine Procedure.wp_mono (passGate_spec _) ?_
        intro r x hx
        cases r with
        | error e =>
          rcases hx with hx | ⟨y, reason, errorClass, a, s', hy, hreason, happends, rfl⟩
          · exact .refused (hwv.trans hx)
          · exact .gate hbegins hclaimed (hwv.trans hy) happends hreason
        | ok _ =>
          have hwx := hwv.trans hx
          rw [Procedure.continueWith_ok, Procedure.wp_bind, wp_countRequest, Procedure.continueWith_ok,
            Procedure.wp_bind]
          refine Procedure.wp_mono (send_spec _) ?_
          rintro r y ⟨exchange, rfl, hfits, rfl⟩
          rw [Procedure.continueWith_ok]
          refine Procedure.wp_mono (conclude_spec hbegins hclaimed exchange) ?_
          intro r z hz
          exact .sent hbegins hclaimed hwx hfits hz

theorem selectAttempt_begins {attemptId : PyStr} {t : Selected}
    (hrunning : w.1.globalStopReason = none) (hselect : selectAttempt R w.1 attemptId = .ok t)
    {remaining : ℚ} (hremaining : remainingWorstCase R.manifest w.1.receipts.length = .ok remaining)
    (hafford : ¬actualSpend w.1.receipts + remaining > maxTotalSmokeSpendUsd + 1 / 1000000000000) :
    Begins R w.1 t := by
  simp only [selectAttempt, bind_eq_ok_iff, exists_unit_iff, check_eq_ok_iff] at hselect
  obtain ⟨⟨hroom, hrequests⟩, hselect⟩ := hselect
  cases hcurrent : R.manifest.attemptPlan[w.1.receipts.length]? with
  | none =>
    rw [hcurrent] at hselect
    cases hselect
  | some attempt =>
    rw [hcurrent] at hselect
    simp only [bind_eq_ok_iff, exists_unit_iff, check_eq_ok_iff, pure_eq_ok_iff] at hselect
    obtain ⟨-, selected, hprepared, -, rfl⟩ := hselect
    have hattempt := (prepareAttempt_ok hprepared).1
    refine ⟨hrunning, hroom, hrequests, ?_, ?_, remaining, hremaining, not_lt.mp hafford⟩
    · rw [hcurrent, hattempt]
    · rw [hattempt]
      exact hprepared

/-- The inversion of `run_next`. -/
theorem runNext_spec (attemptId : PyStr) :
    Procedure.wp environment (runNext R attemptId) (Transition R w) w := by
  rw [runNext, Procedure.wp_bind, wp_self, Procedure.continueWith_ok]
  cases hrunning : w.1.globalStopReason with
  | some reason => exact .refused (SameAccount.refl w)
  | none =>
    dsimp only
    rw [Procedure.wp_bind, wp_raiseError]
    cases hselect : selectAttempt R w.1 attemptId with
    | error e => exact .refused (SameAccount.refl w)
    | ok selected =>
      rw [Procedure.continueWith_ok, Procedure.wp_bind, wp_raiseError]
      cases hremaining : remainingWorstCase R.manifest w.1.receipts.length with
      | error e => exact .refused (SameAccount.refl w)
      | ok remaining =>
        rw [Procedure.continueWith_ok, Procedure.wp_ite]
        refine ⟨fun _ => ?_, fun hafford => ?_⟩
        · rw [Procedure.wp_bind, wp_setStop]
          exact .ceiling hrunning
        · exact transact_spec (selectAttempt_begins hrunning hselect hremaining hafford)

end EvaluationLab.BM1
