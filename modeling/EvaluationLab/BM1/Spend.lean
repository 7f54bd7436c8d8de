import EvaluationLab.BM1.Run
import EvaluationLab.BM1.Surroundings
import Mathlib.Algebra.Order.BigOperators.Group.List
import Mathlib.Tactic.Linarith

/-! The spend ceiling: no request is made that could overrun it, and no run does. -/
namespace EvaluationLab.BM1
open Python Effect

/-- No token is priced below zero. -/
def Manifest.NonNegativePrices (m : Manifest) : Prop :=
  ∀ p ∈ m.providers, 0 ≤ p.pricing.inputUsdPerMillionTokens ∧ 0 ≤ p.pricing.outputUsdPerMillionTokens

/-- The ceiling with the slack of its guard. -/
def spendLimit : ℚ := maxTotalSmokeSpendUsd + 1 / 1000000000000

theorem cost_within {p : Provider} {i o : ℤ}
    (hguard : ¬(i > maxInputTokensPerAttempt ∨ o > maxOutputTokensPerAttempt)) :
    cost p (some i) (some o) = .ok (some ((i * p.pricing.inputUsdPerMillionTokens +
      o * p.pricing.outputUsdPerMillionTokens) / 1000000)) := by
  unfold cost
  dsimp only
  rw [if_neg hguard]

theorem worstCaseAttemptCostUsd_ok (p : Provider) :
    worstCaseAttemptCostUsd p = .ok ((8000 * p.pricing.inputUsdPerMillionTokens +
      2000 * p.pricing.outputUsdPerMillionTokens) / 1000000) := by
  unfold worstCaseAttemptCostUsd
  rw [cost_within (by decide), maxInputTokensPerAttempt, maxOutputTokensPerAttempt]
  rfl

/-- Within the token guard an attempt costs at most its worst case, and usage that is missing or
breaks the guard costs nothing. -/
theorem receiptCost_le_worstCase {p : Provider} {amount : ℚ} (hin : 0 ≤ p.pricing.inputUsdPerMillionTokens)
    (hout : 0 ≤ p.pricing.outputUsdPerMillionTokens) (hworst : worstCaseAttemptCostUsd p = .ok amount)
    (n : Option NormalizedProviderResponse) : (receiptCost p n).getD 0 ≤ amount ∧ 0 ≤ amount := by
  rw [worstCaseAttemptCostUsd_ok, Except.ok.injEq] at hworst
  have hnonneg : 0 ≤ amount := by
    rw [← hworst]
    positivity
  refine ⟨?_, hnonneg⟩
  unfold receiptCost
  cases n with
  | none => exact hnonneg
  | some n =>
    dsimp only
    unfold cost
    cases n.inputTokens with
    | none => exact hnonneg
    | some i =>
      cases n.outputTokens with
      | none => exact hnonneg
      | some o =>
        dsimp only
        by_cases hguard : i > maxInputTokensPerAttempt ∨ o > maxOutputTokensPerAttempt
        · rw [if_pos hguard]
          exact hnonneg
        · rw [if_neg hguard, ← hworst]
          have hi : (i : ℚ) ≤ 8000 := by
            have : i ≤ 8000 := not_lt.mp fun h => hguard (.inl h)
            exact_mod_cast this
          have ho : (o : ℚ) ≤ 2000 := by
            have : o ≤ 2000 := not_lt.mp fun h => hguard (.inr h)
            exact_mod_cast this
          have hinput := mul_le_mul_of_nonneg_right hi hin
          have houtput := mul_le_mul_of_nonneg_right ho hout
          show (_ : ℚ) / 1000000 ≤ _
          linarith

section Runs

variable [PyRuntime] {R : Runner} {w w' : World}

theorem worstCaseOf_nonneg (hprices : R.manifest.NonNegativePrices) {attempt : Attempt}
    (hplanned : attempt ∈ R.manifest.attemptPlan) {amount : ℚ} (h : worstCaseOf R.manifest attempt = .ok amount) :
    0 ≤ amount := by
  obtain ⟨⟨p, hp, hmem, -⟩, -⟩ := R.valid.planned hplanned
  simp only [worstCaseOf, hp, bind_eq_ok_iff] at h
  obtain ⟨q, hq, hworst⟩ := h
  rw [← Except.ok.inj hq] at hworst
  obtain ⟨hin, hout⟩ := hprices p hmem
  exact (receiptCost_le_worstCase hin hout hworst none).2

/-- The worst case of what is left starts with that of the current attempt. -/
theorem remainingWorstCase_current (hprices : R.manifest.NonNegativePrices) {index : ℕ} {attempt : Attempt}
    {remaining : ℚ} (hcurrent : R.manifest.attemptPlan[index]? = some attempt)
    (h : remainingWorstCase R.manifest index = .ok remaining) :
    ∃ amount, worstCaseOf R.manifest attempt = .ok amount ∧ amount ≤ remaining := by
  have hrest : ∀ (attempts : List Attempt) (costs : List ℚ), (∀ a ∈ attempts, a ∈ R.manifest.attemptPlan) →
      attempts.mapM (worstCaseOf R.manifest) = .ok costs → 0 ≤ costs.sum := by
    intro attempts
    induction attempts with
    | nil =>
      intro costs _ hcosts
      rw [List.mapM_nil, pure_eq_ok_iff] at hcosts
      rw [← hcosts, List.sum_nil]
    | cons a as ih =>
      intro costs hplanned hcosts
      rw [List.mapM_cons] at hcosts
      simp only [bind_eq_ok_iff, pure_eq_ok_iff] at hcosts
      obtain ⟨c, hc, cs, hcs, rfl⟩ := hcosts
      have hhead := worstCaseOf_nonneg hprices (hplanned a (by simp)) hc
      have htail := ih cs (fun b hb => hplanned b (by simp [hb])) hcs
      rw [List.sum_cons]
      exact add_nonneg hhead htail
  obtain ⟨hlt, hget⟩ := List.getElem?_eq_some_iff.mp hcurrent
  unfold remainingWorstCase at h
  rw [List.drop_eq_getElem_cons hlt, hget, List.mapM_cons] at h
  simp only [bind_eq_ok_iff, pure_eq_ok_iff] at h
  obtain ⟨costs, ⟨amount, hamount, cs, hcs, rfl⟩, hsum⟩ := h
  have htail := hrest _ cs (fun a ha => List.mem_of_mem_drop ha) hcs
  refine ⟨amount, hamount, ?_⟩
  rw [← hsum, List.sum_cons]
  linarith

omit [PyRuntime] in
theorem actualSpend_append (receipts : List Receipt) (row : Receipt) :
    actualSpend (receipts ++ [row]) = actualSpend receipts + row.cost.amount.getD 0 := by
  simp [actualSpend]

/-- A move keeps the attributed spend below the limit: a receipt without a response costs
nothing, and one with a response was afforded before the request. -/
theorem Moves.spend (hprices : R.manifest.NonNegativePrices) (h : Moves R w w')
    (hspend : actualSpend w.1.receipts ≤ spendLimit) : actualSpend w'.1.receipts ≤ spendLimit := by
  rcases h.newReceipt with heq | ⟨row, heq, hnew⟩
  · rw [heq]
    exact hspend
  · obtain ⟨x, hnext⟩ := hnew.next
    obtain ⟨d, hdigests, hd, -⟩ := receipt_row hnext.built
    have hcost : row.cost.amount = receiptCost x.provider x.normalized := by
      rw [hd]
      exact (receiptDigests_sound hdigests).2.1
    rw [heq, actualSpend_append, hcost]
    rcases hnext.called with hnone | ⟨remaining, hremaining, hafforded⟩
    · rw [hnone]
      show _ + 0 ≤ _
      linarith
    · obtain ⟨amount, hamount, hle⟩ := remainingWorstCase_current hprices hnext.current hremaining
      simp only [worstCaseOf, hnext.provider, bind_eq_ok_iff] at hamount
      obtain ⟨q, hq, hworst⟩ := hamount
      rw [← Except.ok.inj hq] at hworst
      obtain ⟨⟨p, hp, hmem, -⟩, -⟩ := R.valid.planned (List.mem_of_getElem? hnext.current)
      rw [hnext.provider, Except.ok.injEq] at hp
      obtain ⟨hin, hout⟩ := hprices x.provider (hp ▸ hmem)
      have hpaid := (receiptCost_le_worstCase hin hout hworst x.normalized).1
      unfold spendLimit
      linarith

/-- A request that is new in the log was afforded when it was made. -/
theorem Moves.sent_afforded (h : Moves R w w') :
    w'.2.sent = w.2.sent ∨ ∃ s, w'.2.sent = w.2.sent ++ [s] ∧ Afforded R s.account := by
  cases h with
  | blocked _ _ _ _ => exact .inl rfl
  | transaction h =>
    cases h with
    | refused hsame => exact .inl hsame.sent
    | ceiling _ => exact .inl rfl
    | gate _ _ hsame _ _ => exact .inl hsame.sent
    | @sent t exchange v _ _ hbegins _ hsame _ hconcludes =>
      refine .inr ⟨t.sent w.1 exchange, ?_, ?_⟩
      · rw [hconcludes.sent, afterSend, hsame.sent, hsame.self]
      · exact hbegins.afforded

/-- In every run of a runner without negative prices, each request is made while the spend so far
and the worst case of every attempt without a receipt stay below the ceiling, and the attributed
spend never exceeds it. -/
theorem runner_spend_ceiling (hprices : R.manifest.NonNegativePrices) (hnew : w.1 = {}) (h : Reaches R w w') :
    (∀ s ∈ sentSince w w', ∃ remaining,
      remainingWorstCase R.manifest s.account.receipts.length = .ok remaining ∧
      actualSpend s.account.receipts + remaining ≤ maxTotalSmokeSpendUsd + 1 / 1000000000000) ∧
    actualSpend w'.1.receipts ≤ maxTotalSmokeSpendUsd + 1 / 1000000000000 := by
  have hspent : actualSpend w'.1.receipts ≤ spendLimit := by
    refine h.runs.preserves (P := fun u => actualSpend u.1.receipts ≤ spendLimit) ?_ ?_
    · rw [hnew]
      norm_num [actualSpend, spendLimit, maxTotalSmokeSpendUsd]
    · exact fun u v hu hmove => hmove.spend hprices hu
  have hlog : ∃ sent, w'.2.sent = w.2.sent ++ sent ∧ ∀ s ∈ sent, Afforded R s.account := by
    refine h.runs.preserves (P := fun u => ∃ sent, u.2.sent = w.2.sent ++ sent ∧
      ∀ s ∈ sent, Afforded R s.account) ⟨[], by simp, by simp⟩ ?_
    rintro u v ⟨sent, heq, hall⟩ hmove
    rcases hmove.sent_afforded with hsame | ⟨s, hs, hafforded⟩
    · exact ⟨sent, hsame.trans heq, hall⟩
    · refine ⟨sent ++ [s], by rw [hs, heq, List.append_assoc], ?_⟩
      intro s' hs'
      rcases List.mem_append.mp hs' with hs' | hs'
      · exact hall s' hs'
      · rw [List.mem_singleton.mp hs']
        exact hafforded
  obtain ⟨sent, heq, hall⟩ := hlog
  refine ⟨?_, hspent⟩
  rw [sentSince_of_append heq]
  exact hall

end Runs

section Frozen

open Python.Ascii

/-- The frozen prices are not negative, so its run stays below the ceiling. -/
theorem runner_spend_ceiling_frozen : ∃ w', Reaches frozenRunner ({}, Store.empty) w' ∧
    w'.2.sent.length = 1 ∧ actualSpend w'.1.receipts ≤ maxTotalSmokeSpendUsd + 1 / 1000000000000 := by
  obtain ⟨t, evidence, row, -, -, -, -, hexec⟩ := frozen_passes
  have hreaches : Reaches frozenRunner ({}, Store.empty) _ := .runNext .start hexec
  have hprices : frozenManifest.NonNegativePrices := by
    unfold Manifest.NonNegativePrices
    decide +kernel
  exact ⟨_, hreaches, rfl, (runner_spend_ceiling hprices rfl hreaches).2⟩

end Frozen

end EvaluationLab.BM1
