import EvaluationLab.BM1.Discipline
import EvaluationLab.BM1.EvidenceFacts
import EvaluationLab.BM1.TerminalSemantics

/-! Which exchanges leave their attempt a receipt, and that a run of such exchanges accounts for
every request it made. -/
namespace EvaluationLab.BM1
open Python Effect QA0

section Runs

variable [PyRuntime] {R : Runner} {w w' : World}

/-- What the provider sent, or the transport raised, can be receipted: an exception is one of the
handled ones, and what a receipt repeats of a response may be published and read. -/
structure Receiptable (p : Provider) (exchange : Exchange) : Prop where
  caught : ∀ raw e, CallFails p.providerId exchange raw e →
    ∃ terminal errorClass, recoveredAs e = some (terminal, errorClass) ∧ encodable errorClass = true
  publishable : ∀ n, responseOf p.providerId exchange = some n → n.Publishable
  readable : ∀ n, responseOf p.providerId exchange = some n → n.providerTerminalStatus = .success →
    identity p n.resolvedModelId = .exact → ∀ text, n.finalText = some text → strip text ≠ [] → Readable text

theorem failedResponse_publishable (terminal : ProviderTerminal) (errorClass : PyStr) :
    (failedResponse terminal errorClass).Publishable := by
  constructor <;> simp [failedResponse]

/-- The errors a normalized response names by itself may be published. -/
theorem normalizeProviderResponse_errorClass {providerId : PyStr} {raw : Fields} {n : NormalizedProviderResponse}
    (h : normalizeProviderResponse providerId raw = .ok n) : ∀ c, n.errorClass = some c → CleanText c := by
  have herror : ∀ inputKey outputKey c, (providerErrorResponse raw inputKey outputKey).errorClass = some c →
      CleanText c := by
    intro inputKey outputKey c hc
    rw [← Option.some.inj hc]
    exact cleanText_of_asciiClean (by decide +kernel)
  have hterminal : ∀ success text finishReason inputKey outputKey c,
      (providerTerminalResponse raw success text finishReason inputKey outputKey).errorClass = some c →
      CleanText c := by
    intro success text finishReason inputKey outputKey c hc
    cases success with
    | true => cases hc
    | false =>
      rw [← Option.some.inj hc]
      exact cleanText_of_asciiClean (by decide +kernel)
  unfold normalizeProviderResponse at h
  split_ifs at h with hopenai hgoogle
  · unfold normalizeOpenaiResponse at h
    split_ifs at h with htruthy
    · rw [pure_eq_ok_iff] at h
      exact h ▸ herror _ _
    · simp only [bind_eq_ok_iff, exists_unit_iff, check_eq_ok_iff, pure_eq_ok_iff] at h
      exact h.2 ▸ hterminal _ _ _ _ _
  · rw [Except.ok.injEq] at h
    unfold normalizeGoogleResponse at h
    split_ifs at h with htruthy
    · exact h ▸ herror _ _
    · exact h ▸ hterminal _ _ _ _ _

/-- What a transaction goes on with after a receiptable exchange. -/
theorem Observed.receiptable {t : Selected} {exchange : Exchange} {raw : Option Fields}
    {n : NormalizedProviderResponse} {errorClass : Option PyStr} {expected : PyStr}
    (h : Observed t.provider.providerId exchange raw n errorClass) (hexchange : Receiptable t.provider exchange)
    (hcase : expectedDecisionForCase t.case = .ok expected) :
    n.Publishable ∧ (∀ c, (errorClass <|> n.errorClass) = some c → encodable c = true) ∧
      ∃ v, judge t n errorClass = .ok v := by
  have hresponse := h.responseOf
  cases h with
  | response hraw hsecret hn =>
    have hsome : BM1.responseOf t.provider.providerId exchange = some n := by
      simp [BM1.responseOf, hraw, hsecret, hn]
    refine ⟨hexchange.publishable n hsome, ?_, judge_exists none hcase (hexchange.readable n hsome)⟩
    intro c hc
    exact (normalizeProviderResponse_errorClass hn c hc).2
  | @failure raw e terminal errorClass hfails hrecovered =>
    obtain ⟨terminal', errorClass', heq, hencodable⟩ := hexchange.caught raw e hfails
    rw [hrecovered, Option.some.injEq, Prod.mk.injEq] at heq
    obtain ⟨rfl, rfl⟩ := heq
    refine ⟨failedResponse_publishable _ _, ?_, judge_exists _ hcase ?_⟩
    · intro c hc
      rw [← Option.some.inj hc]
      exact hencodable
    · intro hsuccess
      unfold recoveredAs at hrecovered
      split_ifs at hrecovered <;> cases hrecovered <;> cases hsuccess

/-- The names of a sink's destination can be encoded. -/
theorem RawEvidenceSink.destination_encodable (sink : RawEvidenceSink) (attemptId : PyStr) (errorClass : Option PyStr)
    (hid : encodable attemptId = true) (herror : ∀ c, errorClass = some c → encodable c = true) :
    ∀ s ∈ evidenceNames attemptId errorClass sink.destination, encodable s = true := by
  have herrors : ∀ s ∈ errorClass.toList, encodable s = true := by
    intro s hs
    exact herror s (Option.mem_toList.mp hs)
  cases sink with
  | inMemory =>
    intro s hs
    simp only [evidenceNames, RawEvidenceSink.destination, List.mem_cons, List.mem_append, Option.toList_none,
      List.not_mem_nil, or_false] at hs
    rcases hs with rfl | rfl | hs
    · exact hid
    · decide +kernel
    · exact herrors s hs
  | file f =>
    obtain ⟨document, hauthority⟩ := f.authority
    have hbuilt := f.built
    simp only [buildRawDestinationFingerprint, opaqueId, bind_eq_ok_iff, exists_unit_iff, pure_eq_ok_iff] at hbuilt
    obtain ⟨_, ⟨-, rfl⟩, hfingerprint⟩ := hbuilt
    have hdestination : encodable f.destinationId = true :=
      ((sha256Json_ok_iff _).mp ⟨_, hfingerprint⟩).1 f.destinationId (by simp [texts, fieldTexts])
    intro s hs
    simp only [evidenceNames, RawEvidenceSink.destination, List.mem_cons, List.mem_append, Option.toList_some,
      List.not_mem_nil, or_false] at hs
    rcases hs with rfl | rfl | ((hs | rfl) | rfl) | rfl
    · exact hid
    · decide +kernel
    · exact herrors s hs
    · exact hdestination
    · exact (sha256Json_clean hfingerprint).2
    · exact (sha256Json_clean hauthority).2

/-- Evidence that is kept may be repeated in a receipt. -/
theorem Keeps.evidence_sound {t : Transaction} {record : PrivateRecord} {evidence : Evidence} {s s' : Store}
    (h : Keeps R t record evidence s s') (hplanned : t.attempt ∈ R.manifest.attemptPlan)
    (herror : ∀ c, record.errorClass = some c → encodable c = true) : evidence.Sound := by
  refine evidenceReceipt_sound h.projected (R.sink.destination_encodable _ _ ?_ herror)
  have hattempts : CleanJson (.arr (R.manifest.attemptPlan.map Attempt.toJson)) := by
    have hmanifest : CleanJson R.manifest.toJson := R.valid.clean
    rw [Manifest.toJson, cleanJson_obj_iff] at hmanifest
    exact hmanifest.2 _ (by simp [Manifest.fields])
  have hattempt : CleanText t.attempt.attemptId := by
    refine hattempts _ ?_
    rw [texts, mem_itemTexts_map]
    exact ⟨t.attempt, hplanned, by simp [Attempt.toJson, texts, fieldTexts]⟩
  exact hattempt.2

/-- The score of a verdict can be printed. -/
theorem Judged.printable {t : Selected} {n : NormalizedProviderResponse} {errorClass : Option PyStr} {v : Verdict}
    (h : Judged t n errorClass v) (score : Score) (k : ℤ) (hscorer : v.scorer = some score)
    (hvalue : score.modelFailureValue = some k) : intPrintable k = true := by
  rcases h.decided with ⟨-, -, hnone, -⟩ | ⟨-, -, passed, hscore, -⟩
  · rw [hscorer, Option.bind_some, hvalue] at hnone
    cases hnone
  · rw [hscorer, Option.some.injEq] at hscore
    rw [hscore] at hvalue
    exact decisionScore_printable passed hvalue

/-- After a receiptable exchange the receipt of its attempt is appended. -/
theorem Concludes.receipted {s : RunnerState} {t : Transaction} {exchange : Exchange} {r : Except PyExc Receipt}
    (h : Concludes R t exchange w r w') (hbegins : Begins R s t.toSelected) (hclaimed : t.Claimed R)
    (hexchange : Receiptable t.provider exchange) :
    ∃ row, w'.1.receipts = w.1.receipts ++ [row] ∧ row.attemptId = t.attempt.attemptId := by
  have hplanned := List.mem_of_getElem? hbegins.current
  obtain ⟨expected, hcase⟩ : ∃ expected, expectedDecisionForCase t.case = .ok expected := by
    obtain ⟨-, case, expected, -, -, hfound, hexpected, -⟩ := R.valid.planned hplanned
    have heq := (prepareAttempt_ok hbegins.prepared).2.2.symm.trans hfound
    exact ⟨expected, Except.ok.inj heq ▸ hexpected⟩
  have hnamed : ∀ {x : ReceiptInput} {row : Receipt}, x.attempt = t.attempt → receipt x = .ok row →
      row.attemptId = t.attempt.attemptId := by
    intro x row hattempt hrow
    obtain ⟨d, -, hd, -⟩ := receipt_row hrow
    rw [← hattempt, hd]
    rfl
  cases h with
  | authorization hfails hauthorization =>
    obtain ⟨terminal, errorClass, hrecovered, -⟩ := hexchange.caught _ _ hfails
    rw [recoveredAs, if_pos hauthorization] at hrecovered
    cases hrecovered
  | escaped hfails _ hescaped =>
    obtain ⟨terminal, errorClass, hrecovered, -⟩ := hexchange.caught _ _ hfails
    rw [hescaped] at hrecovered
    cases hrecovered
  | secret _ _ hrow => exact ⟨_, rfl, hnamed (by rfl) hrow⟩
  | @unkept raw n errorClass r w' hobserved _ _ ha =>
    obtain ⟨hpublishable, -, -⟩ := hobserved.receiptable hexchange hcase
    generalize w'.1 = s' at ha
    cases ha with
    | receipted hrow => exact ⟨_, rfl, hnamed (by rfl) hrow⟩
    | @refused completed e hrefused =>
      have hsound : (receiptInput R t (some n) none
          (errorVerdict .evidenceWriteError "EvidenceWriteError") completed).Sound R.cases :=
        receiptInput_sound hbegins hclaimed (some n) (by simp) (by simp [errorVerdict]) completed
      have hclass : ∀ c, some (py "EvidenceWriteError") = some c → CleanText c := by
        intro c hc
        rw [← Option.some.inj hc]
        exact cleanText_of_asciiClean (by decide +kernel)
      obtain ⟨row, hrow⟩ := hsound.receipt_ok_iff.mpr ⟨fun n' hn => Option.some.inj hn ▸ hpublishable, hclass⟩
      rw [hrefused] at hrow
      cases hrow
  | @kept raw n errorClass evidence r w' hobserved hkeeps hsettles =>
    obtain ⟨hpublishable, hencodable, v', hjudge'⟩ := hobserved.receiptable hexchange hcase
    have hevidence := hkeeps.evidence_sound hplanned hencodable
    have herror : ∀ c, (errorClass <|> n.errorClass) = some c → CleanText c := by
      have hnames := (evidenceReceipt_ok_iff.mp hkeeps.projected).1.clean_iff.mp hevidence.clean
      intro c hc
      refine hnames c ?_
      simp only [evidenceNames, hc, Option.toList_some, List.mem_cons, List.mem_append]
      simp
    have hbuilt : ∀ {v : Verdict} (completed : ℤ),
        (∀ score k, v.scorer = some score → score.modelFailureValue = some k → intPrintable k = true) →
        (∀ c, v.errorClass = some c → CleanText c) →
        ∃ row, receipt (receiptInput R t (some n) (some evidence) v completed) = .ok row := by
      intro v completed hscorer hclass
      exact (receiptInput_sound hbegins hclaimed (some n) (evidence_some hevidence) hscorer
        completed).receipt_ok_iff.mpr ⟨fun n' hn => Option.some.inj hn ▸ hpublishable, hclass⟩
    generalize w'.1 = s' at hsettles
    cases hsettles with
    | unjudged hfailed =>
      rw [hjudge'] at hfailed
      cases hfailed
    | @unreceipted v completed e hjudge hrefused =>
      have hjudged := judge_ok hjudge
      obtain ⟨row, hrow⟩ := hbuilt completed hjudged.printable (hjudged.errorClass ▸ herror)
      rw [hrefused] at hrow
      cases hrow
    | @guarded v e r s' hjudge hcost ha =>
      cases ha with
      | receipted hrow => exact ⟨_, rfl, hnamed (by rfl) hrow⟩
      | @refused completed e hrefused =>
        have hclass : ∀ c, some (py "TokenBudgetGuard") = some c → CleanText c := by
          intro c hc
          rw [← Option.some.inj hc]
          exact cleanText_of_asciiClean (by decide +kernel)
        obtain ⟨row, hrow⟩ := hbuilt (v := tokenBudgetVerdict v) completed (judge_ok hjudge).printable hclass
        rw [hrefused] at hrow
        cases hrow
    | judged hjudge hcost hrow =>
      refine ⟨_, ?_, hnamed (by rfl) hrow⟩
      unfold countedFailure
      split_ifs <;> rfl

/-- The counter of a run is the number of its requests, and each of their attempts is receipted. -/
structure Accounted (w u : World) : Prop where
  requests : u.1.providerRequestCount = (sentSince w u).length
  receipted : ∀ s ∈ sentSince w u, s.attemptId ∈ u.1.receipts.map (·.attemptId)

/-- The receipts of a runner only grow. -/
theorem Moves.receipts_prefix (h : Moves R w w') : w.1.receipts <+: w'.1.receipts := by
  rcases h.newReceipt with heq | ⟨row, heq, -⟩
  · rw [heq]
  · rw [heq]
    exact List.prefix_append _ _

/-- The provider of a planned attempt is found under its own name. -/
theorem Begins.provider {s : RunnerState} {t : Selected} (h : Begins R s t) :
    providerOf R.manifest t.provider.providerId = .ok t.provider := by
  have hfound := (prepareAttempt_ok h.prepared).2.1
  obtain ⟨⟨p, hp, -, hpid, -⟩, -⟩ := R.valid.planned (List.mem_of_getElem? h.current)
  rw [hfound, Except.ok.injEq] at hp
  rw [hp, hpid, hfound, hp]

/-- A move of a receiptable exchange keeps a run accounted for. -/
theorem Accounted.move {u v : World} (h : Accounted w u) (hruns : Runs R w u) (hmove : Moves R u v)
    (hall : ∀ s ∈ sentSince u v, ∀ p, providerOf R.manifest s.providerId = .ok p → Receiptable p s.exchange) :
    Accounted w v := by
  have hsince : sentSince w v = sentSince w u ++ sentSince u v := sentSince_trans hruns hmove
  have hearlier : ∀ s ∈ sentSince w u, s.attemptId ∈ v.1.receipts.map (·.attemptId) := fun s hs =>
    (hmove.receipts_prefix.map _).subset (h.receipted s hs)
  cases hmove.sends with
  | nothing hnone hcount =>
    rw [hnone, List.append_nil] at hsince
    exact ⟨by rw [hcount, h.requests, hsince], by rwa [hsince]⟩
  | @request t exchange v' r hbegins hclaimed hsame _ hconcludes hone hcount =>
    constructor
    · rw [hcount, h.requests, hsince, hone, List.length_append, List.length_singleton]
    · obtain ⟨row, hrow, hid⟩ := hconcludes.receipted hbegins hclaimed
        (hall (t.sent u.1 exchange) (by rw [hone]; exact List.mem_singleton.mpr rfl) t.provider hbegins.provider)
      intro s hs
      rw [hsince, hone] at hs
      rcases List.mem_append.mp hs with hs | hs
      · exact hearlier s hs
      · rw [List.mem_singleton.mp hs, hrow]
        simp [Transaction.sent, hid]

/-- In every run whose exchanges are receiptable, every request made is counted, and its attempt
has exactly one receipt. -/
theorem requests_are_receipted (hnew : w.1 = {}) (h : Reaches R w w')
    (hall : ∀ s ∈ sentSince w w', ∀ p, providerOf R.manifest s.providerId = .ok p → Receiptable p s.exchange) :
    w'.1.providerRequestCount = (sentSince w w').length ∧
    ∀ s ∈ sentSince w w', (w'.1.receipts.map (·.attemptId)).count s.attemptId = 1 := by
  have haccounted : Accounted w w' := by
    refine h.runs.preserves_sending (P := fun u => Accounted w u ∧ Runs R w u) ?_ hall ?_ |>.1
    · have hnone : sentSince w w = [] := sentSince_of_append (List.append_nil _).symm
      exact ⟨⟨by rw [hnone, hnew, List.length_nil], by simp [hnone]⟩, .refl⟩
    · exact fun u v hu hmove hsent => ⟨hu.1.move hu.2 hmove hsent, hu.2.tail hmove⟩
  have hnodup : (w'.1.receipts.map (·.attemptId)).Nodup :=
    R.valid.attemptIds_nodup.sublist (h.disciplined hnew).order.sublist
  refine ⟨haccounted.requests, fun s hs => ?_⟩
  exact List.count_eq_one_of_mem hnodup (haccounted.receipted s hs)

end Runs

section Frozen

open Python.Ascii Effect.Procedure

/-- The expected decision, from the requested model, is receiptable. -/
theorem passReply_receiptable : Receiptable frozenOpenai (.offline (.ok (.obj passReply))) := by
  have hresponse : responseOf frozenOpenai.providerId (.offline (.ok (.obj passReply))) = some passResponse := by
    decide +kernel
  have hnormalized : normalizeProviderResponse frozenOpenai.providerId passReply = .ok passResponse := by
    decide +kernel
  have hcase : expectedDecisionForCase targetCase = .ok decisionDecline := by decide +kernel
  constructor
  · intro raw e hfails
    cases hfails with
    | unread hraw => cases hraw
    | unnormalized hraw _ hfailed =>
      cases hraw
      rw [hnormalized] at hfailed
      cases hfailed
  · intro n hn
    rw [hresponse, Option.some.injEq] at hn
    subst hn
    exact completedResponse_publishable (cleanText_of_asciiClean (by decide +kernel)) (by decide +kernel) (by decide)
  · intro n hn _ _ text htext _
    rw [hresponse, Option.some.injEq] at hn
    subst hn
    rw [← Option.some.inj htext]
    exact (scoreE11Output_ok_iff hcase declining).mp ⟨decisionScore true, by decide +kernel⟩

/-- The request of a new frozen runner whose answer passes has its one receipt. -/
theorem requests_are_receipted_frozen : ∃ w' s, Reaches frozenRunner ({}, Store.empty) w' ∧
    sentSince ({}, Store.empty) w' = [s] ∧ s.exchange = .offline (.ok (.obj passReply)) ∧
    (w'.1.receipts.map (·.attemptId)).count s.attemptId = 1 := by
  obtain ⟨t, evidence, row, -, hprovider, -, -, hexec⟩ := frozen_passes
  have hreaches : Reaches frozenRunner ({}, Store.empty) _ := .runNext .start hexec
  have hopenai : providerOf frozenManifest frozenOpenai.providerId = .ok frozenOpenai := by decide +kernel
  refine ⟨_, _, hreaches, rfl, rfl, (requests_are_receipted rfl hreaches ?_).2 _ (List.mem_singleton.mpr rfl)⟩
  intro s hs p hp
  rw [List.mem_singleton.mp hs] at hp ⊢
  dsimp only at hp
  rw [hprovider] at hp
  rw [← Except.ok.inj (hopenai.symm.trans hp)]
  exact passReply_receiptable

/-- A completed response whose model id names a secret marker is kept as evidence and judged, but
its receipt is refused: the call raises, and the request it counted has no receipt. -/
theorem frozen_response_unreceipted : ∃ e w',
    Procedure.Exec environment (runNext frozenRunner firstAttempt.attemptId) ({}, Store.empty) (.error e) w' ∧
    (sentSince ({}, Store.empty) w').map Sent.exchange =
      [.offline (.ok (.obj (reply "oauth" "completed" declining 100)))] ∧
    w'.1.providerRequestCount = 1 ∧ w'.1.receipts = [] := by
  have hprint : ∃ fp, sha256Json (.obj (reply "oauth" "completed" declining 100)) = .ok fp :=
    (sha256Json_ok_iff _).mpr ⟨by decide +kernel, by decide +kernel⟩
  have hfinal : encodable declining = true := by decide +kernel
  obtain ⟨t, evidence, -, hprovider, hcase, hbegins, hclaimed, hsound, hkeeps⟩ := frozen_keeps
    (x := replying (reply "oauth" "completed" declining 100)) rfl (by decide +kernel)
    (n := completedResponse "oauth" declining 100) (by decide +kernel) hprint
    (by intro text htext; rw [← Option.some.inj htext]; exact hfinal) (by simp [completedResponse])
  have hjudge : judge t.toSelected (completedResponse "oauth" declining 100) none =
      .ok ⟨none, .notEvaluable, .identityNotAuditable, .success, none⟩ :=
    (judge_congr (u := firstSelected) hprovider hcase _ none).trans (by decide +kernel)
  have hcost : cost t.provider (some 100) (some 20) = .ok (some (11 / 25000)) := by
    rw [hprovider]
    decide +kernel
  have hinput := receiptInput_sound hbegins hclaimed (some (completedResponse "oauth" declining 100))
    (evidence_some hsound) (v := ⟨none, .notEvaluable, .identityNotAuditable, .success, none⟩) (by simp) 0
  have hrefused : ¬(receiptInput frozenRunner t (some (completedResponse "oauth" declining 100)) (some evidence)
      ⟨none, .notEvaluable, .identityNotAuditable, .success, none⟩ 0).Publishable := by
    intro hpublishable
    have hclean := ((hpublishable.1 _ rfl).modelId _ rfl).1
    revert hclean
    decide +kernel
  have hexec := exec_outcome (replying (reply "oauth" "completed" declining 100))
    (runNext frozenRunner firstAttempt.attemptId) ({}, Store.empty)
  cases hreceipt : receipt (receiptInput frozenRunner t (some (completedResponse "oauth" declining 100))
      (some evidence) ⟨none, .notEvaluable, .identityNotAuditable, .success, none⟩ 0) with
  | ok row => exact absurd (hinput.receipt_ok_iff.mp ⟨row, hreceipt⟩) hrefused
  | error e =>
    rw [hkeeps, outcome_settle_unreceipted (x := replying _) hjudge hcost hreceipt] at hexec
    exact ⟨e, _, hexec, rfl, rfl, rfl⟩

end Frozen

end EvaluationLab.BM1
