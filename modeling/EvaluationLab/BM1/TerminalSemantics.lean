import EvaluationLab.BM1.Surroundings
import EvaluationLab.BM1.Verdict

/-! A receipt carries a failure value when it passed or failed, and only then. The token guard
is the one place where the runner departs from this. -/
namespace EvaluationLab.BM1
open Python Effect QA0

section Runs

variable [PyRuntime] {R : Runner} {w w' : World}

/-- The terminal semantics a receipt shares with a benchmark observation. -/
structure TerminalSemantics (row : Receipt) : Prop where
  failureValue : row.modelFailureValue ≠ none ↔ row.terminalStatus = .pass ∨ row.terminalStatus = .fail
  hardInvariant : row.hardInvariantPass ≠ none ↔ row.terminalStatus = .pass ∨ row.terminalStatus = .fail
  pass : row.terminalStatus = .pass → row.modelFailureValue = some 0
  fail : row.terminalStatus = .fail → row.modelFailureValue = some 1
  grounds : row.terminalStatus = .pass ∨ row.terminalStatus = .fail →
    row.providerTerminalStatus = .success ∧ row.identityCertainty = .exact ∧
      row.evidenceReceiptFingerprint ≠ none

/-- The response that an exchange is normalized to. -/
def responseOf (providerId : PyStr) (exchange : Exchange) : Option NormalizedProviderResponse :=
  match rawResponse exchange with
  | .error _ => none
  | .ok raw =>
    if secretMarker (.obj raw) then none
    else
      match normalizeProviderResponse providerId raw with
      | .error _ => none
      | .ok n => some n

/-- A successful, auditable response whose text carries an accepted decision. -/
def Scorable (p : Provider) (n : NormalizedProviderResponse) : Prop :=
  n.providerTerminalStatus = .success ∧ identity p n.resolvedModelId = .exact ∧
    ∃ text, n.finalText = some text ∧ decisionOf text ≠ none

/-- A scorable response whose reported tokens break the guard. -/
def ScoredOverGuard (p : Provider) (exchange : Exchange) : Prop :=
  ∃ n, responseOf p.providerId exchange = some n ∧ Scorable p n ∧
    overTokenGuard n.inputTokens n.outputTokens

theorem Observed.responseOf {providerId : PyStr} {exchange : Exchange} {raw : Option Fields}
    {n : NormalizedProviderResponse} {errorClass : Option PyStr}
    (h : Observed providerId exchange raw n errorClass) :
    BM1.responseOf providerId exchange = some n ∨ n.providerTerminalStatus ≠ .success := by
  cases h with
  | response hraw hsecret hn => exact .inl (by simp [BM1.responseOf, hraw, hsecret, hn])
  | @failure raw e terminal errorClass hfails hrecovered =>
    refine .inr ?_
    show terminal ≠ .success
    unfold recoveredAs at hrecovered
    split_ifs at hrecovered <;> cases hrecovered <;> exact ProviderTerminal.noConfusion

/-- A verdict either carries no failure value and neither passes nor fails, or it is the verdict
of an accepted decision. -/
theorem Judged.decided {t : Selected} {n : NormalizedProviderResponse} {errorClass : Option PyStr}
    {v : Verdict} (h : Judged t n errorClass v) :
    (v.terminal ≠ .pass ∧ v.terminal ≠ .fail ∧ v.scorer.bind (·.modelFailureValue) = none ∧
      v.scorer.bind (·.hardInvariantPass) = none) ∨
    Scorable t.provider n ∧ v.providerTerminal = .success ∧
      ∃ passed, v.scorer = some (decisionScore passed) ∧ v.terminal = if passed then .pass else .fail := by
  cases h with
  | providerFailed _ => exact .inl ⟨Terminal.noConfusion, Terminal.noConfusion, rfl, rfl⟩
  | notAuditable _ _ => exact .inl ⟨Terminal.noConfusion, Terminal.noConfusion, rfl, rfl⟩
  | empty _ _ _ => exact .inl ⟨Terminal.noConfusion, Terminal.noConfusion, rfl, rfl⟩
  | scored hsuccess hidentity hfinal _ hscore =>
    rcases scoreE11Output_ok hscore with ⟨-, rfl⟩ | ⟨decision, expected, hdecision, -, rfl⟩
    · exact .inl ⟨Terminal.noConfusion, Terminal.noConfusion, rfl, rfl⟩
    · refine .inr ⟨⟨hsuccess, hidentity, _, hfinal, ?_⟩, rfl, _, rfl, rfl⟩
      rw [hdecision]
      exact Option.some_ne_none _

omit [PyRuntime] in
private theorem semantics_of_none {row : Receipt} (hvalue : row.modelFailureValue = none)
    (hhard : row.hardInvariantPass = none) (hpass : row.terminalStatus ≠ .pass)
    (hfail : row.terminalStatus ≠ .fail) : TerminalSemantics row := by
  have hneither : ¬(row.terminalStatus = .pass ∨ row.terminalStatus = .fail) := by
    rintro (h | h)
    · exact hpass h
    · exact hfail h
  refine ⟨?_, ?_, fun h => absurd h hpass, fun h => absurd h hfail, fun h => absurd h hneither⟩
  · exact iff_of_false (not_not.mpr hvalue) hneither
  · exact iff_of_false (not_not.mpr hhard) hneither

/-- A receipt appended in a move whose exchange is not scored over the token guard keeps the
terminal semantics. -/
theorem NewReceipt.terminalSemantics {row : Receipt} (h : NewReceipt R w w' row)
    (hguard : ∀ s ∈ sentSince w w', ∀ p, providerOf R.manifest s.providerId = .ok p → ¬ScoredOverGuard p s.exchange) :
    TerminalSemantics row := by
  cases h with
  | unscored hnext hscorer _ hterminal =>
    obtain ⟨d, -, hd, -⟩ := receipt_row hnext.built
    have hterminal' : row.terminalStatus = .error ∨ row.terminalStatus = .blocked := by
      rw [hd]
      exact hterminal
    refine semantics_of_none ?_ ?_ ?_ ?_
    · rw [hd]
      simp [receiptRow, hscorer]
    · rw [hd]
      simp [receiptRow, hscorer]
    · rcases hterminal' with h | h <;> rw [h] <;> exact Terminal.noConfusion
    · rcases hterminal' with h | h <;> rw [h] <;> exact Terminal.noConfusion
  | @settled t exchange raw n errorClass evidence s v completed hbegins _ _ hsent hobserved _ _ _ hjudge hnext =>
    obtain ⟨d, hdigests, hd, -⟩ := receipt_row hnext.built
    have hevidence := (receiptDigests_sound hdigests).2.2.2.2
    have hdecided := (judge_ok hjudge).decided
    have hprovider := (prepareAttempt_ok hbegins.prepared).2.1
    have hentry : t.sent w.1 exchange ∈ sentSince w w' := by
      rw [sentSince_of_append hsent]
      exact List.mem_singleton.mpr rfl
    have hfields : row.modelFailureValue = (guardedVerdict t.provider n v).scorer.bind (·.modelFailureValue) ∧
        row.hardInvariantPass = (guardedVerdict t.provider n v).scorer.bind (·.hardInvariantPass) ∧
        row.terminalStatus = (guardedVerdict t.provider n v).terminal ∧
        row.providerTerminalStatus = (guardedVerdict t.provider n v).providerTerminal ∧
        row.identityCertainty = identity t.provider n.resolvedModelId ∧
        row.evidenceReceiptFingerprint = d.evidence := by
      rw [hd]
      exact ⟨rfl, rfl, rfl, rfl, rfl, rfl⟩
    obtain ⟨hvalue, hhard, hterminal, hproviderTerminal, hidentity, hfingerprint⟩ := hfields
    cases hcost : cost t.provider n.inputTokens n.outputTokens with
    | ok amount =>
      have hv : guardedVerdict t.provider n v = v := by simp [guardedVerdict, hcost]
      rw [hv] at hvalue hhard hterminal hproviderTerminal
      rcases hdecided with ⟨hpass, hfail, hnovalue, hnohard⟩ | ⟨hscorable, hsuccess, passed, hscorer, hverdict⟩
      · exact semantics_of_none (hvalue.trans hnovalue) (hhard.trans hnohard) (by rwa [hterminal])
          (by rwa [hterminal])
      · rw [hscorer] at hvalue hhard
        rw [hverdict] at hterminal
        have hwritten : row.evidenceReceiptFingerprint ≠ none := by
          rw [hfingerprint]
          intro hnone
          rw [hnone] at hevidence
          simp only [receiptInput, Option.map_some, optionalDigest, bind_eq_ok_iff, pure_eq_ok_iff] at hevidence
          obtain ⟨_, -, habsurd⟩ := hevidence
          cases habsurd
        have hgrounds := And.intro (hproviderTerminal.trans hsuccess)
          (And.intro (hidentity.trans hscorable.2.1) hwritten)
        cases passed with
        | true => exact ⟨by simp_all [decisionScore], by simp_all [decisionScore], fun _ => hvalue,
            fun h => by simp_all, fun _ => hgrounds⟩
        | false => exact ⟨by simp_all [decisionScore], by simp_all [decisionScore], fun h => by simp_all,
            fun _ => hvalue, fun _ => hgrounds⟩
    | error e =>
      have hv : guardedVerdict t.provider n v = tokenBudgetVerdict v := by simp [guardedVerdict, hcost]
      rw [hv] at hvalue hhard hterminal
      have hover : overTokenGuard n.inputTokens n.outputTokens := by
        by_contra hwithin
        obtain ⟨amount, hok⟩ := (cost_isOk_iff t.provider _ _).mpr hwithin
        rw [hcost] at hok
        cases hok
      rcases hdecided with ⟨-, -, hnovalue, hnohard⟩ | ⟨hscorable, -, -⟩
      · exact semantics_of_none (hvalue.trans hnovalue) (hhard.trans hnohard)
          (by rw [hterminal]; exact Terminal.noConfusion) (by rw [hterminal]; exact Terminal.noConfusion)
      · -- the guard fired after an accepted decision was scored
        rcases hobserved.responseOf with hresponse | hfailed
        · have hid : t.provider.providerId = t.attempt.providerId := by
            obtain ⟨⟨p, hp, -, hpid, -⟩, -⟩ := R.valid.planned (List.mem_of_getElem? hbegins.current)
            rw [hprovider, Except.ok.injEq] at hp
            rw [hp]
            exact hpid
          refine absurd ⟨n, hresponse, hscorable, hover⟩ (hguard _ hentry t.provider ?_)
          show providerOf R.manifest t.provider.providerId = _
          rw [hid]
          exact hprovider
        · exact absurd hscorable.1 hfailed

/-- In every run none of whose exchanges is scored over the token guard, every receipt keeps the
terminal semantics. -/
theorem receipts_keep_terminal_semantics (hnew : w.1 = {}) (h : Reaches R w w')
    (hguard : ∀ s ∈ sentSince w w', ∀ p, providerOf R.manifest s.providerId = .ok p → ¬ScoredOverGuard p s.exchange) :
    ∀ row ∈ w'.1.receipts, TerminalSemantics row := by
  refine h.runs.preserves_sending (P := fun u => ∀ row ∈ u.1.receipts, TerminalSemantics row) ?_ hguard ?_
  · intro row hrow
    rw [hnew] at hrow
    cases hrow
  · intro u v hu hmove hv row hrow
    rcases hmove.newReceipt with heq | ⟨row', heq, hreceipt⟩
    · exact hu row (heq ▸ hrow)
    · rw [heq] at hrow
      rcases List.mem_append.mp hrow with hrow | hrow
      · exact hu row hrow
      · rw [List.mem_singleton.mp hrow]
        exact hreceipt.terminalSemantics hv

end Runs

section Frozen

open Python.Ascii Effect.Procedure

/-- A passing response below the token guard is receipted with its failure value. -/
theorem receipts_keep_terminal_semantics_frozen : ∃ w' row, Reaches frozenRunner ({}, Store.empty) w' ∧
    w'.1.receipts = [row] ∧ row.terminalStatus = .pass ∧ TerminalSemantics row := by
  obtain ⟨t, evidence, row, -, hprovider, -, hrow, hexec⟩ := frozen_passes
  have hreaches : Reaches frozenRunner ({}, Store.empty) _ := .runNext .start hexec
  obtain ⟨d, -, hd, -⟩ := receipt_row hrow
  refine ⟨_, row, hreaches, rfl, by rw [hd]; rfl, ?_⟩
  refine receipts_keep_terminal_semantics rfl hreaches ?_ row (by simp)
  rintro s hs p hp ⟨n, hresponse, -, i, o, hi, ho, hover⟩
  have hopenai : providerOf frozenManifest frozenOpenai.providerId = .ok frozenOpenai := by decide +kernel
  have hpass : responseOf frozenOpenai.providerId (.offline (.ok (.obj passReply))) = some passResponse := by
    decide +kernel
  rw [List.mem_singleton.mp hs] at hp hresponse
  dsimp only at hp hresponse
  rw [hprovider] at hp
  rw [← Except.ok.inj (hopenai.symm.trans hp), hpass, Option.some.injEq] at hresponse
  rw [← hresponse] at hi ho
  cases hi
  cases ho
  revert hover
  decide

/-- The receipt of an accepted decision over the token guard is an error that keeps its score. -/
theorem frozen_scores_over_guard : ∃ w' row, Reaches frozenRunner ({}, Store.empty) w' ∧
    w'.1.receipts = [row] ∧ row.terminalStatus = .error ∧ row.modelFailureValue = some 0 ∧
    row.hardInvariantPass = some true ∧ ¬TerminalSemantics row := by
  have hpublishable : (completedResponse frozenOpenai.requestedModelId declining 9000).Publishable :=
    completedResponse_publishable (cleanText_of_asciiClean (by decide +kernel)) (by decide +kernel) (by decide)
  have hprint : ∃ fp, sha256Json (.obj (reply frozenOpenai.requestedModelId "completed" declining 9000)) = .ok fp :=
    (sha256Json_ok_iff _).mpr ⟨by decide +kernel, by decide +kernel⟩
  obtain ⟨t, evidence, -, hprovider, hcase, hbegins, hclaimed, hsound, hkeeps⟩ := frozen_keeps
    (x := replying (reply frozenOpenai.requestedModelId "completed" declining 9000)) rfl (by decide +kernel)
    (n := completedResponse frozenOpenai.requestedModelId declining 9000) (by decide +kernel) hprint
    hpublishable.finalText (by simp [completedResponse])
  have hclass : ∀ c, (tokenBudgetVerdict passing).errorClass = some c → CleanText c := by
    intro c hc
    rw [← Option.some.inj hc]
    exact cleanText_of_asciiClean (by decide +kernel)
  obtain ⟨row, hrow⟩ := (receiptInput_sound hbegins hclaimed _
    (evidence_some hsound) (v := tokenBudgetVerdict passing) passing_printable 0).receipt_ok_iff.mpr
    ⟨fun n' hn' => Option.some.inj hn' ▸ hpublishable, hclass⟩
  have hjudge : judge t.toSelected (completedResponse frozenOpenai.requestedModelId declining 9000) none =
      .ok passing :=
    (judge_congr (u := firstSelected) hprovider hcase _ none).trans (by decide +kernel)
  have hcost : cost t.provider (some 9000) (some 20) = .error (globalStop "provider-reported tokens exceed guard") := by
    rw [hprovider]
    decide +kernel
  have hexec := exec_outcome (replying (reply frozenOpenai.requestedModelId "completed" declining 9000))
    (runNext frozenRunner firstAttempt.attemptId) ({}, Store.empty)
  rw [hkeeps, outcome_settle_overGuard (x := replying _) hjudge hcost hrow] at hexec
  obtain ⟨d, -, hd, -⟩ := receipt_row hrow
  have hterminal : row.terminalStatus = .error := by rw [hd]; rfl
  have hvalue : row.modelFailureValue = some 0 := by rw [hd]; rfl
  have hhard : row.hardInvariantPass = some true := by rw [hd]; rfl
  refine ⟨_, row, .runNext .start hexec, rfl, hterminal, hvalue, hhard, fun hsemantics => ?_⟩
  have hscored := hsemantics.failureValue.mp (by rw [hvalue]; exact Option.some_ne_none _)
  rw [hterminal] at hscored
  rcases hscored with h | h <;> cases h

end Frozen

end EvaluationLab.BM1
