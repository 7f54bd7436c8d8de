import EvaluationLab.BM1.Verdict
import EvaluationLab.BM1.Surroundings

/-! Order, limits and stops: what the receipts and the counters of a runner look like after any
sequence of calls. -/
namespace EvaluationLab.BM1
open Python Effect QA0

section Runs

variable [PyRuntime] {R : Runner} {w w' : World}

/-- The reasons a runner may stop for. -/
def stopReasons : List Reason := [.liveAuthorizationStop, .livePreProviderStop, .secretLeakSuspected,
  .evidenceWriteError, .costCeilingGuard, .secondProviderLocalError]

def localFailures (receipts : List Receipt) : ℕ :=
  (receipts.filter fun r => r.terminalReason ∈ providerLocalFailures).length

/-- How the receipts and the failure counter change in one move. -/
inductive Receipting (s s' : RunnerState) : Prop where
  | unreceipted : s'.receipts = s.receipts → s'.providerLocalErrorCount = s.providerLocalErrorCount →
      Receipting s s'
  | blocked {row : Receipt} : s' = { s with receipts := s.receipts ++ [row] } →
      row.terminalStatus = .blocked → s.globalStopReason = some row.terminalReason → Receipting s s'
  | uncounted {row : Receipt} : s.globalStopReason = none →
      s'.receipts = s.receipts ++ [row] → row.terminalStatus ≠ .blocked →
      row.terminalReason ∉ providerLocalFailures →
      s'.providerLocalErrorCount = s.providerLocalErrorCount → Receipting s s'
  | counted {row : Receipt} : s.globalStopReason = none →
      s'.receipts = s.receipts ++ [row] → row.terminalStatus ≠ .blocked →
      row.terminalReason ∈ providerLocalFailures →
      s'.providerLocalErrorCount = s.providerLocalErrorCount + 1 →
      (2 ≤ s'.providerLocalErrorCount → s'.globalStopReason = some .secondProviderLocalError) →
      Receipting s s'

/-- What one move does to the state of a runner. A stopped runner only receipts blocked attempts. -/
structure StateStep (s s' : RunnerState) : Prop where
  stop : s'.globalStopReason = s.globalStopReason ∨ ∃ reason ∈ stopReasons, s'.globalStopReason = some reason
  stopped : s.globalStopReason ≠ none → s'.globalStopReason = s.globalStopReason
  requests : s'.providerRequestCount = s.providerRequestCount ∨
    s.providerRequestCount < maxPlannedAttempts ∧ s'.providerRequestCount = s.providerRequestCount + 1
  receipting : Receipting s s'

/-- A receipt of no provider-local reason, appended to a state with the receipts and the counter of `s`. -/
private theorem Appends.receipting {input : ℤ → ReceiptInput} {a : Except PyExc Receipt}
    {s t s' : RunnerState} (h : Appends input t a s') (hrunning : s.globalStopReason = none)
    (hreceipts : t.receipts = s.receipts)
    (hcount : t.providerLocalErrorCount = s.providerLocalErrorCount)
    (hterminal : ∀ completed, (input completed).terminal ≠ .blocked)
    (hreason : ∀ completed, (input completed).reason ∉ providerLocalFailures) :
    s'.globalStopReason = t.globalStopReason ∧ s'.providerRequestCount = t.providerRequestCount ∧
      Receipting s s' := by
  cases h with
  | refused _ => exact ⟨rfl, rfl, .unreceipted hreceipts hcount⟩
  | receipted hrow =>
    obtain ⟨d, -, hd, -⟩ := receipt_row hrow
    refine ⟨rfl, rfl, .uncounted hrunning (by rw [← hreceipts]) ?_ ?_ hcount⟩
    · rw [hd]
      exact hterminal _
    · rw [hd]
      exact hreason _

private theorem Settles.stateStep {t : Transaction} {n : NormalizedProviderResponse} {evidence : Evidence}
    {errorClass : Option PyStr} {s s' : RunnerState} {r : Except PyExc Receipt}
    (hrunning : s.globalStopReason = none) (h : Settles R t n evidence errorClass s r s') :
    (s'.globalStopReason = s.globalStopReason ∨ ∃ reason ∈ stopReasons, s'.globalStopReason = some reason) ∧
      s'.providerRequestCount = s.providerRequestCount ∧ Receipting s s' := by
  cases h with
  | unjudged _ => exact ⟨.inl rfl, rfl, .unreceipted rfl rfl⟩
  | unreceipted _ _ => exact ⟨.inl rfl, rfl, .unreceipted rfl rfl⟩
  | guarded _ _ ha =>
    obtain ⟨hs, hr, hreceipting⟩ := ha.receipting (s := s) hrunning rfl rfl (fun _ => Terminal.noConfusion)
      (fun _ => by simp [receiptInput, tokenBudgetVerdict, providerLocalFailures])
    exact ⟨.inr ⟨_, by simp [stopReasons], hs⟩, hr, hreceipting⟩
  | judged hjudge _ hrow =>
    obtain ⟨d, -, hd, -⟩ := receipt_row hrow
    have hterminal := (judge_ok hjudge).terminal_ne_blocked
    unfold countedFailure
    split_ifs with hlocal hsecond
    · refine ⟨.inr ⟨_, by simp [stopReasons], rfl⟩, rfl, .counted hrunning rfl ?_ ?_ rfl fun _ => rfl⟩
      · rw [hd]
        exact hterminal
      · rw [hd]
        exact hlocal
    · refine ⟨.inl rfl, rfl, .counted hrunning rfl ?_ ?_ rfl fun h => absurd h hsecond⟩
      · rw [hd]
        exact hterminal
      · rw [hd]
        exact hlocal
    · refine ⟨.inl rfl, rfl, .uncounted hrunning rfl ?_ ?_ rfl⟩
      · rw [hd]
        exact hterminal
      · rw [hd]
        exact hlocal

omit [PyRuntime] in
/-- Receipting only looks at the receipts, the failure counter and, for blocked ones, the stop. -/
private theorem Receipting.of_running {s t s' : RunnerState} (h : Receipting t s')
    (ht : t.globalStopReason = none) (hs : s.globalStopReason = none) (hreceipts : t.receipts = s.receipts)
    (hcount : t.providerLocalErrorCount = s.providerLocalErrorCount) : Receipting s s' := by
  cases h with
  | unreceipted hr hc => exact .unreceipted (hr.trans hreceipts) (hc.trans hcount)
  | blocked _ _ hstop => simp [ht] at hstop
  | uncounted _ hr hb hl hc => exact .uncounted hs (hreceipts ▸ hr) hb hl (hc.trans hcount)
  | counted _ hr hb hl hc hsecond => exact .counted hs (hreceipts ▸ hr) hb hl (hcount ▸ hc) hsecond

private theorem Concludes.stateStep {t : Transaction} {exchange : Exchange} {r : Except PyExc Receipt}
    (hrunning : w.1.globalStopReason = none) (h : Concludes R t exchange w r w') :
    (w'.1.globalStopReason = w.1.globalStopReason ∨
      ∃ reason ∈ stopReasons, w'.1.globalStopReason = some reason) ∧
      w'.1.providerRequestCount = w.1.providerRequestCount ∧ Receipting w.1 w'.1 := by
  cases h with
  | authorization _ _ => exact ⟨.inr ⟨_, by simp [stopReasons], rfl⟩, rfl, .unreceipted rfl rfl⟩
  | escaped _ _ _ => exact ⟨.inl rfl, rfl, .unreceipted rfl rfl⟩
  | secret _ _ hrow =>
    obtain ⟨d, -, hd, -⟩ := receipt_row hrow
    refine ⟨.inr ⟨_, by simp [stopReasons], rfl⟩, rfl, .uncounted hrunning rfl ?_ ?_ rfl⟩
    · rw [hd]
      exact Terminal.noConfusion
    · rw [hd]
      simp [receiptRow, receiptInput, errorVerdict, providerLocalFailures]
  | unkept _ _ _ ha =>
    obtain ⟨hs, hr, hreceipting⟩ := ha.receipting (s := w.1) hrunning rfl rfl (fun _ => Terminal.noConfusion)
      (fun _ => by simp [receiptInput, errorVerdict, providerLocalFailures])
    exact ⟨.inr ⟨_, by simp [stopReasons], hs⟩, hr, hreceipting⟩
  | kept _ _ hsettles => exact hsettles.stateStep hrunning

theorem Moves.stateStep (h : Moves R w w') : StateStep w.1 w'.1 := by
  cases h with
  | blocked hreason _ _ hrow =>
    obtain ⟨d, -, hd, -⟩ := receipt_row hrow
    refine ⟨.inl rfl, fun _ => rfl, .inl rfl, .blocked rfl ?_ ?_⟩
    · rw [hd]
      rfl
    · rw [hd]
      exact hreason
  | transaction h =>
    cases h with
    | refused hsame =>
      rw [hsame.self]
      exact ⟨.inl rfl, fun _ => rfl, .inl rfl, .unreceipted rfl rfl⟩
    | ceiling hrunning =>
      exact ⟨.inr ⟨_, by simp [stopReasons], rfl⟩, fun hstop => absurd hrunning hstop, .inl rfl, .unreceipted rfl rfl⟩
    | gate hbegins _ hsame ha hreason =>
      have hlocal : ∀ reason : Reason, reason = .liveAuthorizationStop ∨ reason = .livePreProviderStop →
          reason ∉ providerLocalFailures ∧ reason ∈ stopReasons := by
        rintro reason (rfl | rfl) <;> simp [providerLocalFailures, stopReasons]
      have hreceipts := congrArg RunnerState.receipts hsame.self
      have hcount := congrArg RunnerState.providerLocalErrorCount hsame.self
      have hrequests := congrArg RunnerState.providerRequestCount hsame.self
      obtain ⟨hs, hr, hreceipting⟩ := ha.receipting (s := w.1) hbegins.running (by exact hreceipts) (by exact hcount)
        (fun _ => Terminal.noConfusion) (fun _ => (hlocal _ hreason).1)
      exact ⟨.inr ⟨_, (hlocal _ hreason).2, hs⟩, fun hstop => absurd hbegins.running hstop,
        .inl (hr.trans hrequests), hreceipting⟩
    | sent hbegins _ hsame _ hconcludes =>
      have hself := hsame.self
      have hrunning := hbegins.running
      obtain ⟨hs, hr, hreceipting⟩ := hconcludes.stateStep (by simp only [afterSend, counted, hself, hrunning])
      simp only [afterSend, counted, hself] at hs hr hreceipting
      exact ⟨hs, fun hstop => absurd hrunning hstop, .inr ⟨hbegins.requests, hr⟩,
        hreceipting.of_running hrunning hrunning rfl rfl⟩

/-- The state of a runner that has obeyed its plan, its limits and its stops. -/
structure Disciplined (R : Runner) (s : RunnerState) : Prop where
  order : s.receipts.map (·.attemptId) <+: R.manifest.attemptPlan.map Attempt.attemptId
  requests : s.providerRequestCount ≤ maxPlannedAttempts
  localErrors : s.providerLocalErrorCount = localFailures s.receipts
  second : 2 ≤ s.providerLocalErrorCount → s.globalStopReason ≠ none
  stopKind : ∀ reason, s.globalStopReason = some reason → reason ∈ stopReasons
  tail : ∃ finished blocked, s.receipts = finished ++ blocked ∧
    (∀ r ∈ finished, r.terminalStatus ≠ .blocked) ∧
    ∀ r ∈ blocked, r.terminalStatus = .blocked ∧ s.globalStopReason = some r.terminalReason

theorem disciplined_new (R : Runner) : Disciplined R {} := by
  refine ⟨List.nil_prefix, Nat.zero_le _, rfl, ?_, ?_, [], [], rfl, ?_, ?_⟩
  · intro h
    cases h
  · intro reason h
    cases h
  · simp
  · simp

omit [PyRuntime] in
private theorem prefix_snoc {α : Type} {xs ys : List α} {a : α} (h : xs <+: ys)
    (ha : ys[xs.length]? = some a) : xs ++ [a] <+: ys := by
  obtain ⟨zs, rfl⟩ := h
  rw [List.getElem?_append_right (le_refl _), Nat.sub_self] at ha
  cases zs with
  | nil => simp at ha
  | cons z zs =>
    simp only [List.getElem?_cons_zero, Option.some.injEq] at ha
    subst ha
    exact ⟨zs, by simp⟩

/-- A receipt built in a move names the next planned attempt. -/
theorem Moves.order (hmove : Moves R w w')
    (h : w.1.receipts.map (·.attemptId) <+: R.manifest.attemptPlan.map Attempt.attemptId) :
    w'.1.receipts.map (·.attemptId) <+: R.manifest.attemptPlan.map Attempt.attemptId := by
  rcases hmove.newReceipt with heq | ⟨row, heq, hnew⟩
  · rw [heq]
    exact h
  · obtain ⟨x, hrow, -, hcurrent, -⟩ := hnew.next
    obtain ⟨d, -, hd, -⟩ := receipt_row hrow
    have hid : row.attemptId = x.attempt.attemptId := by rw [hd]; rfl
    rw [heq, List.map_append, List.map_singleton, hid]
    refine prefix_snoc h ?_
    rw [List.length_map, List.getElem?_map, hcurrent, Option.map_some]

omit [PyRuntime] in
private theorem localFailures_snoc (receipts : List Receipt) (row : Receipt) :
    localFailures (receipts ++ [row]) =
      localFailures receipts + if row.terminalReason ∈ providerLocalFailures then 1 else 0 := by
  unfold localFailures
  rw [List.filter_append, List.length_append]
  by_cases h : row.terminalReason ∈ providerLocalFailures <;> simp [h]

omit [PyRuntime] in
theorem stopReasons_not_local {reason : Reason} (h : reason ∈ stopReasons) :
    reason ∉ providerLocalFailures := by
  revert reason
  decide

theorem Moves.disciplined (hmove : Moves R w w') (h : Disciplined R w.1) : Disciplined R w'.1 := by
  obtain ⟨hstop, hstopped, hrequests, hreceipting⟩ := hmove.stateStep
  have hkind : ∀ reason, w'.1.globalStopReason = some reason → reason ∈ stopReasons := by
    intro reason hreason
    rcases hstop with heq | ⟨reason', hmem, heq⟩
    · exact h.stopKind reason (heq ▸ hreason)
    · rw [heq, Option.some.injEq] at hreason
      exact hreason ▸ hmem
  have hkeep : w.1.globalStopReason ≠ none → w'.1.globalStopReason ≠ none := by
    intro hne
    rw [hstopped hne]
    exact hne
  obtain ⟨finished, blocked, heq, hfinished, hblocked⟩ := h.tail
  have hlimit : w'.1.providerRequestCount ≤ maxPlannedAttempts := by
    rcases hrequests with heq | ⟨hlt, heq⟩
    · rw [heq]
      exact h.requests
    · omega
  have hrest : ∀ r ∈ blocked, r.terminalStatus = .blocked ∧ w'.1.globalStopReason = some r.terminalReason := by
    intro r hr
    obtain ⟨hterminal, hreason⟩ := hblocked r hr
    refine ⟨hterminal, ?_⟩
    rw [hstopped (by rw [hreason]; exact Option.some_ne_none _), hreason]
  -- an attempt can only be finished while the runner has not stopped, so nothing is blocked yet
  have hnone : w.1.globalStopReason = none → blocked = [] := by
    intro hrunning
    refine List.eq_nil_iff_forall_not_mem.mpr fun r hr => ?_
    have hreason := (hblocked r hr).2
    rw [hrunning] at hreason
    cases hreason
  refine ⟨hmove.order h.order, hlimit, ?_, ?_, hkind, ?_⟩
  · cases hreceipting with
    | unreceipted hr hc => rw [hc, hr, h.localErrors]
    | @blocked row hs hterminal hreason =>
      have hlocal := stopReasons_not_local (h.stopKind _ hreason)
      rw [hs]
      show w.1.providerLocalErrorCount = localFailures (w.1.receipts ++ [row])
      rw [localFailures_snoc, if_neg hlocal, h.localErrors, Nat.add_zero]
    | uncounted _ hr _ hlocal hc => rw [hc, hr, localFailures_snoc, if_neg hlocal, h.localErrors, Nat.add_zero]
    | counted _ hr _ hlocal hc _ => rw [hc, hr, localFailures_snoc, if_pos hlocal, h.localErrors]
  · intro htwo
    cases hreceipting with
    | unreceipted _ hc => exact hkeep (h.second (hc ▸ htwo))
    | blocked hs _ hreason => exact hkeep (by rw [hreason]; exact Option.some_ne_none _)
    | uncounted _ _ _ _ hc => exact hkeep (h.second (hc ▸ htwo))
    | counted _ _ _ _ _ hsecond =>
      rw [hsecond htwo]
      exact Option.some_ne_none _
  · have hfinish : ∀ {row : Receipt}, w.1.globalStopReason = none → row.terminalStatus ≠ .blocked →
        w'.1.receipts = w.1.receipts ++ [row] → ∃ finished' blocked', w'.1.receipts = finished' ++ blocked' ∧
          (∀ r ∈ finished', r.terminalStatus ≠ .blocked) ∧
          ∀ r ∈ blocked', r.terminalStatus = .blocked ∧ w'.1.globalStopReason = some r.terminalReason := by
      intro row hrunning hterminal hr
      refine ⟨finished ++ [row], [], ?_, ?_, by simp⟩
      · rw [hr, heq, hnone hrunning]
        simp
      · intro r hmem
        rcases List.mem_append.mp hmem with hmem | hmem
        · exact hfinished r hmem
        · rw [List.mem_singleton.mp hmem]
          exact hterminal
    cases hreceipting with
    | unreceipted hr _ => exact ⟨finished, blocked, hr.trans heq, hfinished, hrest⟩
    | @blocked row hs hterminal hreason =>
      refine ⟨finished, blocked ++ [row], ?_, hfinished, ?_⟩
      · rw [hs, ← List.append_assoc, ← heq]
      · intro r hmem
        rcases List.mem_append.mp hmem with hmem | hmem
        · exact hrest r hmem
        · rw [List.mem_singleton.mp hmem]
          exact ⟨hterminal, by rw [hs]; exact hreason⟩
    | uncounted hrunning hr hterminal _ _ => exact hfinish hrunning hterminal hr
    | counted hrunning hr hterminal _ _ _ => exact hfinish hrunning hterminal hr

theorem runNext_stopped {reason : Reason} (hstop : w.1.globalStopReason = some reason) (attemptId : PyStr) :
    Procedure.wp environment (runNext R attemptId)
      (fun r u => r = .error (globalStop reason.text) ∧ u = w) w := by
  rw [runNext, Procedure.wp_bind, wp_self, Procedure.continueWith_ok, hstop]
  exact ⟨rfl, rfl⟩

/-- A stopped runner that runs on only receipts blocked attempts. -/
theorem runAll_stopped {reason : Reason} (hstop : w.1.globalStopReason = some reason) :
    Procedure.wp environment (runAll R) (fun _ u => u.2 = w.2 ∧
      ∃ rows, u.1 = { w.1 with receipts := w.1.receipts ++ rows } ∧
        ∀ row ∈ rows, row.terminalStatus = .blocked ∧ row.terminalReason = reason) w := by
  have hloop : Procedure.wp environment (runAllLoop R (maxPlannedAttempts + 1)) (fun _ u => u.2 = w.2 ∧
      ∃ rows, u.1 = { w.1 with receipts := w.1.receipts ++ rows } ∧
        ∀ row ∈ rows, row.terminalStatus = .blocked ∧ row.terminalReason = reason) w := by
    rw [runAllLoop, Procedure.wp_bind, wp_self, Procedure.continueWith_ok, Procedure.wp_ite]
    refine ⟨fun _ => ?_, fun _ => ⟨rfl, [], by simp, by simp⟩⟩
    rw [hstop]
    refine Procedure.wp_mono (blockRest_spec hstop rfl) ?_
    rintro r u ⟨-, hstore, rows, hself, hrows, -⟩
    exact ⟨hstore, rows, hself, hrows⟩
  rw [runAll, Procedure.wp_bind]
  refine Procedure.wp_mono hloop ?_
  intro r u hu
  cases r with
  | error e => exact hu
  | ok _ =>
    rw [Procedure.continueWith_ok, Procedure.wp_bind, wp_self, Procedure.continueWith_ok, Procedure.wp_bind,
      wp_raiseError]
    cases check (u.1.providerRequestCount ≤ maxPlannedAttempts)
        (globalStop "provider request count exceeded frozen matrix") with
    | error e => exact hu
    | ok _ => exact hu

theorem Reaches.disciplined (hnew : w.1 = {}) (h : Reaches R w w') : Disciplined R w'.1 := by
  refine h.runs.preserves (P := fun u => Disciplined R u.1) ?_ ?_
  · rw [hnew]
    exact disciplined_new R
  · exact fun u v hu hmove => hmove.disciplined hu

/-- After any calls of a new runner: the receipts follow the plan, the requests stay within the
limit, a stop is final, two provider-local failures stop the runner, and a full run that
returns has one receipt for every planned attempt, blocked ones last. -/
theorem runner_stop_discipline (hnew : w.1 = {}) (h : Reaches R w w') :
    w'.1.receipts.map (·.attemptId) <+: R.manifest.attemptPlan.map Attempt.attemptId ∧
    w'.1.providerRequestCount ≤ maxPlannedAttempts ∧
    (∀ reason, w'.1.globalStopReason = some reason →
      (∀ attemptId r u, Procedure.Exec environment (runNext R attemptId) w' r u →
        r = .error (globalStop reason.text) ∧ u = w') ∧
      ∀ r u, Procedure.Exec environment (runAll R) w' r u →
        u.1.globalStopReason = some reason ∧ u.2.sent = w'.2.sent ∧
          ∀ row ∈ u.1.receipts.drop w'.1.receipts.length,
            row.terminalStatus = .blocked ∧ row.terminalReason = reason) ∧
    (2 ≤ localFailures w'.1.receipts →
      (∀ attemptId r u, Procedure.Exec environment (runNext R attemptId) w' r u → u.2.sent = w'.2.sent) ∧
      ∀ r u, Procedure.Exec environment (runAll R) w' r u → u.2.sent = w'.2.sent) ∧
    ∀ rows u, Procedure.Exec environment (runAll R) w' (.ok rows) u →
      rows.length = maxPlannedAttempts ∧
      rows.map (·.attemptId) = R.manifest.attemptPlan.map Attempt.attemptId ∧
      ∃ finished blocked, rows = finished ++ blocked ∧ (∀ r ∈ finished, r.terminalStatus ≠ .blocked) ∧
        ∀ r ∈ blocked, r.terminalStatus = .blocked ∧ u.1.globalStopReason = some r.terminalReason := by
  have hd := h.disciplined hnew
  have hstopped : ∀ reason, w'.1.globalStopReason = some reason →
      (∀ attemptId r u, Procedure.Exec environment (runNext R attemptId) w' r u →
        r = .error (globalStop reason.text) ∧ u = w') ∧
      ∀ r u, Procedure.Exec environment (runAll R) w' r u →
        u.1.globalStopReason = some reason ∧ u.2.sent = w'.2.sent ∧
          ∀ row ∈ u.1.receipts.drop w'.1.receipts.length,
            row.terminalStatus = .blocked ∧ row.terminalReason = reason := by
    intro reason hreason
    refine ⟨fun attemptId r u hexec => hexec.sound (runNext_stopped hreason attemptId), ?_⟩
    intro r u hexec
    obtain ⟨hstore, rows, hself, hrows⟩ := hexec.sound (runAll_stopped hreason)
    refine ⟨by rw [hself]; exact hreason, by rw [hstore], ?_⟩
    rw [hself]
    simpa using hrows
  refine ⟨hd.order, hd.requests, hstopped, ?_, ?_⟩
  · intro htwo
    have hne := hd.second (by rw [hd.localErrors]; exact htwo)
    obtain ⟨reason, hreason⟩ := Option.ne_none_iff_exists'.mp hne
    obtain ⟨hnext, hall⟩ := hstopped reason hreason
    refine ⟨fun attemptId r u hexec => ?_, fun r u hexec => (hall r u hexec).2.1⟩
    rw [(hnext attemptId r u hexec).2]
  · intro rows u hexec
    obtain ⟨-, hrows⟩ := hexec.sound runAll_spec
    obtain ⟨rfl, hlen⟩ := hrows rows rfl
    have hu := (h.runAll hexec).disciplined hnew
    have hcount : (R.manifest.attemptPlan.map Attempt.attemptId).length = maxPlannedAttempts := by
      rw [List.length_map]
      exact R.valid.attemptCount
    have hle := hu.order.length_le
    have heq : u.1.receipts.map (·.attemptId) = R.manifest.attemptPlan.map Attempt.attemptId := by
      refine hu.order.eq_of_length ?_
      rw [List.length_map] at hle ⊢
      omega
    refine ⟨?_, heq, hu.tail⟩
    rw [List.length_map] at hle
    omega

end Runs

section Frozen

open Python.Ascii

/-- A new runner of the frozen manifest keeps the discipline after its first attempt passes. -/
theorem runner_stop_discipline_frozen : ∃ w' row, Reaches frozenRunner ({}, Store.empty) w' ∧
    w'.1.receipts = [row] ∧ row.terminalStatus = .pass ∧
    [row].map (·.attemptId) <+: frozenManifest.attemptPlan.map Attempt.attemptId ∧
    w'.1.providerRequestCount ≤ maxPlannedAttempts := by
  obtain ⟨t, evidence, row, -, -, -, hrow, hexec⟩ := frozen_passes
  have hreaches : Reaches frozenRunner ({}, Store.empty) _ := .runNext .start hexec
  obtain ⟨d, -, hd, -⟩ := receipt_row hrow
  have hdiscipline := runner_stop_discipline rfl hreaches
  exact ⟨_, row, hreaches, rfl, by rw [hd]; rfl, hdiscipline.1, hdiscipline.2.1⟩

end Frozen

end EvaluationLab.BM1
