import EvaluationLab.BM1.RunNext
import Mathlib.Logic.Relation

/-! Whole runs of a runner: any sequence of `run_next` and `run_all` calls. -/
namespace EvaluationLab.BM1
open Python Effect QA0

variable [PyRuntime] {R : Runner} {w w' : World}

/-- One transaction, or one receipt of an attempt that a stop blocks. -/
inductive Moves (R : Runner) (w : World) : World → Prop where
  | transaction {r : Except PyExc Receipt} {w' : World} : Transition R w r w' → Moves R w w'
  | blocked {reason : Reason} {selected : Selected} {now : ℤ} {r : Receipt} :
      w.1.globalStopReason = some reason →
      R.manifest.attemptPlan[w.1.receipts.length]? = some selected.attempt →
      prepareAttempt R selected.attempt = .ok selected →
      receipt (blockedInput R selected reason now) = .ok r →
      Moves R w ({ w.1 with receipts := w.1.receipts ++ [r] }, w.2)

abbrev Runs (R : Runner) : World → World → Prop := Relation.ReflTransGen (Moves R)

/-- The calls a caller may make, in any order and with any arguments. -/
inductive Reaches (R : Runner) (w : World) : World → Prop where
  | start : Reaches R w w
  | runNext {u v : World} {attemptId : PyStr} {r : Except PyExc Receipt} :
      Reaches R w u → Procedure.Exec environment (runNext R attemptId) u r v → Reaches R w v
  | runAll {u v : World} {r : Except PyExc (List Receipt)} :
      Reaches R w u → Procedure.Exec environment (runAll R) u r v → Reaches R w v

/-- The verdict that is receipted: the token guard may replace it. -/
def guardedVerdict (p : Provider) (n : NormalizedProviderResponse) (v : Verdict) : Verdict :=
  match cost p n.inputTokens n.outputTokens with
  | .ok _ => v
  | .error _ => tokenBudgetVerdict v

/-- What a new receipt was built from. -/
structure NextReceipt (R : Runner) (w : World) (x : ReceiptInput) (row : Receipt) : Prop where
  built : receipt x = .ok row
  manifest : x.manifest = R.manifest
  current : R.manifest.attemptPlan[w.1.receipts.length]? = some x.attempt
  provider : providerOf R.manifest x.attempt.providerId = .ok x.provider
  called : x.normalized = none ∨ Afforded R w.1

/-- The two kinds of receipts a move appends: of an attempt without evidence, which is never
scored, and of a called attempt whose evidence is kept. -/
inductive NewReceipt (R : Runner) (w w' : World) (row : Receipt) : Prop where
  | unscored {x : ReceiptInput} : NextReceipt R w x row → x.scorer = none → x.evidence = none →
      x.terminal = .error ∨ x.terminal = .blocked → NewReceipt R w w' row
  | settled {t : Transaction} {exchange : Exchange} {raw : Option Fields} {n : NormalizedProviderResponse}
      {errorClass : Option PyStr} {evidence : Evidence} {s : Store} {v : Verdict} {completed : ℤ} :
      Begins R w.1 t.toSelected → t.Claimed R → exchange.Fits R →
      w'.2.sent = w.2.sent ++ [t.sent w.1 exchange] →
      Observed t.provider.providerId exchange raw n errorClass →
      s.records = w.2.records → s.recordNames = w.2.recordNames →
      Keeps R t ⟨t.body, raw, n.finalText, errorClass <|> n.errorClass⟩ evidence s w'.2 →
      judge t.toSelected n errorClass = .ok v →
      NextReceipt R w (receiptInput R t (some n) (some evidence) (guardedVerdict t.provider n v) completed)
        row →
      NewReceipt R w w' row

theorem NewReceipt.next {row : Receipt} (h : NewReceipt R w w' row) : ∃ x, NextReceipt R w x row := by
  cases h with
  | unscored hnext _ _ _ => exact ⟨_, hnext⟩
  | settled _ _ _ _ _ _ _ _ _ hnext => exact ⟨_, hnext⟩

private theorem Begins.next {t : Transaction} {n : Option NormalizedProviderResponse}
    {evidence : Option Evidence} {v : Verdict} {completed : ℤ} {row : Receipt} (h : Begins R w.1 t.toSelected)
    (hrow : receipt (receiptInput R t n evidence v completed) = .ok row) :
    NextReceipt R w (receiptInput R t n evidence v completed) row :=
  ⟨hrow, rfl, h.current, (prepareAttempt_ok h.prepared).2.1, .inr h.afforded⟩

private theorem Appends.unscored {t : Transaction} {n : Option NormalizedProviderResponse} {v : Verdict}
    {s s' : RunnerState} {a : Except PyExc Receipt} (hbegins : Begins R w.1 t.toSelected)
    (hreceipts : s.receipts = w.1.receipts) (hscorer : v.scorer = none) (hterminal : v.terminal = .error)
    (h : Appends (receiptInput R t n none v) s a s') :
    s'.receipts = w.1.receipts ∨ ∃ row, s'.receipts = w.1.receipts ++ [row] ∧ NewReceipt R w w' row := by
  cases h with
  | refused _ => exact .inl hreceipts
  | receipted hrow =>
    refine .inr ⟨_, ?_, .unscored (hbegins.next hrow) hscorer rfl (.inl hterminal)⟩
    rw [← hreceipts]

/-- A move appends at most one receipt. -/
theorem Moves.newReceipt (h : Moves R w w') : w'.1.receipts = w.1.receipts ∨
    ∃ row, w'.1.receipts = w.1.receipts ++ [row] ∧ NewReceipt R w w' row := by
  cases h with
  | blocked hreason hcurrent hprepared hrow =>
    refine .inr ⟨_, rfl, .unscored ⟨hrow, rfl, hcurrent, ?_, .inl rfl⟩ rfl rfl (.inr rfl)⟩
    exact (prepareAttempt_ok hprepared).2.1
  | transaction h =>
    cases h with
    | refused hsame => exact .inl (by rw [hsame.self])
    | ceiling _ => exact .inl rfl
    | gate hbegins _ hsame ha _ =>
      have hreceipts := congrArg RunnerState.receipts hsame.self
      exact Appends.unscored hbegins (by exact hreceipts) rfl rfl ha
    | sent hbegins hclaimed hsame hfits hconcludes =>
      have hreceipts := congrArg RunnerState.receipts hsame.self
      cases hconcludes with
      | authorization _ _ => exact .inl hreceipts
      | escaped _ _ _ => exact .inl hreceipts
      | secret _ _ hrow =>
        refine .inr ⟨_, ?_, .unscored (hbegins.next hrow) rfl rfl (.inl rfl)⟩
        rw [← hreceipts]
        rfl
      | unkept _ _ _ ha => exact Appends.unscored hbegins (by exact hreceipts) rfl rfl ha
      | kept hobserved hkeeps hsettles =>
        have hsent := hkeeps.sent
        simp only [afterSend, hsame.sent, hsame.self] at hsent
        have hsettled : ∀ {v : Verdict} {completed : ℤ} {row : Receipt}, judge _ _ _ = .ok v →
            receipt (receiptInput R _ (some _) (some _) (guardedVerdict _ _ v) completed) = .ok row →
            NewReceipt R w w' row := fun hjudge hrow =>
          .settled hbegins hclaimed hfits hsent hobserved (by exact hsame.records) (by exact hsame.recordNames)
            hkeeps hjudge (hbegins.next hrow)
        generalize w'.1 = s' at hsettles
        cases hsettles with
        | unjudged _ => exact .inl hreceipts
        | unreceipted _ _ => exact .inl hreceipts
        | guarded hjudge hcost ha =>
          cases ha with
          | refused _ => exact .inl hreceipts
          | receipted hrow =>
            refine .inr ⟨_, ?_, hsettled hjudge (by simpa only [guardedVerdict, hcost] using hrow)⟩
            rw [← hreceipts]
            rfl
        | judged hjudge hcost hrow =>
          refine .inr ⟨_, ?_, hsettled hjudge (by simpa only [guardedVerdict, hcost] using hrow)⟩
          rw [← hreceipts]
          unfold countedFailure
          split_ifs <;> rfl

theorem Concludes.sent {t : Transaction} {exchange : Exchange} {r : Except PyExc Receipt}
    (h : Concludes R t exchange w r w') : w'.2.sent = w.2.sent := by
  cases h with
  | authorization _ _ => rfl
  | escaped _ _ _ => rfl
  | secret _ _ _ => rfl
  | unkept _ _ hsent _ => exact hsent
  | kept _ hkeeps _ => exact hkeeps.sent

/-- The log of sent requests only grows. -/
theorem Moves.sent_prefix (h : Moves R w w') : w.2.sent <+: w'.2.sent := by
  cases h with
  | blocked _ _ _ _ => exact List.prefix_refl _
  | transaction h =>
    cases h with
    | refused hsame => rw [hsame.sent]
    | ceiling _ => exact List.prefix_refl _
    | gate _ _ hsame _ _ =>
      show w.2.sent <+: _
      rw [← hsame.sent]
    | sent _ _ hsame _ hconcludes =>
      rw [hconcludes.sent, afterSend, hsame.sent]
      exact List.prefix_append _ _

/-- A call that returns has appended the receipt it returns. -/
theorem Transition.returned {row : Receipt} (h : Transition R w (.ok row) w') :
    w'.1.receipts = w.1.receipts ++ [row] := by
  cases h with
  | sent hbegins hclaimed hsame hfits hconcludes =>
    have hself := congrArg RunnerState.receipts hsame.self
    rw [← hself]
    cases hconcludes with
    | secret _ _ _ => rfl
    | unkept _ _ _ ha =>
      generalize w'.1 = s' at ha
      cases ha with
      | receipted _ => rfl
    | kept _ _ hsettles =>
      generalize w'.1 = s' at hsettles
      cases hsettles with
      | guarded _ _ ha =>
        cases ha with
        | receipted _ => rfl
      | judged _ _ _ =>
        unfold countedFailure
        split_ifs <;> rfl

/-- Blocking the rest of the plan only adds blocked receipts of that reason. -/
theorem blockRest_spec {reason : Reason} {attempts : List Attempt} (hstop : w.1.globalStopReason = some reason)
    (hrest : R.manifest.attemptPlan.drop w.1.receipts.length = attempts) :
    Procedure.wp environment (blockRest R reason attempts) (fun r u => Runs R w u ∧ u.2 = w.2 ∧
      ∃ rows, u.1 = { w.1 with receipts := w.1.receipts ++ rows } ∧
        (∀ row ∈ rows, row.terminalStatus = .blocked ∧ row.terminalReason = reason) ∧
        (r = .ok () → rows.length = attempts.length)) w := by
  induction attempts generalizing w with
  | nil => exact ⟨.refl, rfl, [], by simp, by simp, fun _ => rfl⟩
  | cons attempt attempts ih =>
    have hcurrent : R.manifest.attemptPlan[w.1.receipts.length]? = some attempt := by
      rw [← List.head?_drop, hrest, List.head?_cons]
    have hdrop : R.manifest.attemptPlan.drop (w.1.receipts.length + 1) = attempts := by
      rw [← List.tail_drop, hrest, List.tail_cons]
    rw [blockRest, Procedure.wp_bind, wp_now]
    intro now
    rw [Procedure.continueWith_ok, Procedure.wp_bind, wp_raiseError]
    cases hprepared : prepareAttempt R attempt with
    | error e => exact ⟨.refl, rfl, [], by simp, by simp, fun h => by cases h⟩
    | ok selected =>
      have hattempt := (prepareAttempt_ok hprepared).1
      rw [Procedure.continueWith_ok, Procedure.wp_bind, wp_raiseError]
      cases hrow : receipt (blockedInput R selected reason now) with
      | error e => exact ⟨.refl, rfl, [], by simp, by simp, fun h => by cases h⟩
      | ok row =>
        have hmove : Moves R w ({ w.1 with receipts := w.1.receipts ++ [row] }, w.2) :=
          .blocked hstop (by rw [hattempt]; exact hcurrent) (by rw [hattempt]; exact hprepared) hrow
        have hblocked : row.terminalStatus = .blocked ∧ row.terminalReason = reason := by
          obtain ⟨d, -, hd, -⟩ := receipt_row hrow
          constructor
          · rw [hd]; rfl
          · rw [hd]; rfl
        rw [Procedure.continueWith_ok, Procedure.wp_bind, wp_pushReceipt, Procedure.continueWith_ok]
        refine Procedure.wp_mono (ih hstop (by simpa using hdrop)) ?_
        rintro r u ⟨hruns, hstore, rows, hself, hrows, hlen⟩
        refine ⟨.head hmove hruns, hstore, row :: rows, by simp [hself], ?_, ?_⟩
        · intro row' hrow'
          rcases List.mem_cons.mp hrow' with rfl | hrow'
          · exact hblocked
          · exact hrows row' hrow'
        · intro hr
          rw [List.length_cons, List.length_cons, hlen hr]

/-- The loop of `run_all` makes moves, and only ends with a receipt for every planned attempt. -/
theorem runAllLoop_spec {rounds : ℕ} (hrounds : maxPlannedAttempts ≤ w.1.receipts.length + rounds) :
    Procedure.wp environment (runAllLoop R rounds) (fun r u => Runs R w u ∧
      (r = .ok () → maxPlannedAttempts ≤ u.1.receipts.length)) w := by
  induction rounds generalizing w with
  | zero => exact ⟨.refl, fun _ => hrounds⟩
  | succ rounds ih =>
    rw [runAllLoop, Procedure.wp_bind, wp_self, Procedure.continueWith_ok, Procedure.wp_ite]
    refine ⟨fun hroom => ?_, fun hfull => ⟨.refl, fun _ => not_lt.mp hfull⟩⟩
    cases hstop : w.1.globalStopReason with
    | some reason =>
      refine Procedure.wp_mono (blockRest_spec hstop rfl) ?_
      rintro r u ⟨hruns, -, rows, hself, -, hlen⟩
      refine ⟨hruns, fun hr => ?_⟩
      have hcount := R.valid.attemptCount
      have hrows := hlen hr
      rw [List.length_drop] at hrows
      rw [hself]
      simp only [List.length_append]
      omega
    | none =>
      dsimp only
      cases hcurrent : R.manifest.attemptPlan[w.1.receipts.length]? with
      | none => exact ⟨.refl, fun h => by cases h⟩
      | some attempt =>
        rw [Procedure.wp_bind]
        refine Procedure.wp_mono (runNext_spec attempt.attemptId) ?_
        intro r u htransition
        have hmove : Moves R w u := .transaction htransition
        cases r with
        | error e => exact ⟨.single hmove, fun h => by cases h⟩
        | ok row =>
          have hreceipts := htransition.returned
          rw [Procedure.continueWith_ok]
          refine Procedure.wp_mono (ih ?_) ?_
          · rw [hreceipts, List.length_append, List.length_singleton]
            omega
          · rintro r v ⟨hruns, hlen⟩
            exact ⟨.head hmove hruns, hlen⟩

theorem runAll_spec : Procedure.wp environment (runAll R) (fun r u => Runs R w u ∧
    ∀ rows, r = .ok rows → rows = u.1.receipts ∧ maxPlannedAttempts ≤ rows.length) w := by
  rw [runAll, Procedure.wp_bind]
  refine Procedure.wp_mono (runAllLoop_spec (by omega)) ?_
  rintro r u ⟨hruns, hlen⟩
  cases r with
  | error e => exact ⟨hruns, fun rows h => by cases h⟩
  | ok _ =>
    rw [Procedure.continueWith_ok, Procedure.wp_bind, wp_self, Procedure.continueWith_ok, Procedure.wp_bind,
      wp_raiseError]
    cases check (u.1.providerRequestCount ≤ maxPlannedAttempts)
        (globalStop "provider request count exceeded frozen matrix") with
    | error e => exact ⟨hruns, fun rows h => by cases h⟩
    | ok _ =>
      refine ⟨hruns, fun rows h => ?_⟩
      cases h
      exact ⟨rfl, hlen rfl⟩

/-- Every sequence of calls is a sequence of moves. -/
theorem Reaches.runs (h : Reaches R w w') : Runs R w w' := by
  induction h with
  | start => exact .refl
  | runNext _ hexec ih => exact ih.tail (.transaction (hexec.sound (runNext_spec _)))
  | runAll _ hexec ih => exact ih.trans (hexec.sound runAll_spec).1

/-- A property of the first world that every move keeps holds in every world reached. -/
theorem Runs.preserves {P : World → Prop} (h : Runs R w w') (hw : P w)
    (hmove : ∀ u v, P u → Moves R u v → P v) : P w' := by
  induction h with
  | refl => exact hw
  | tail _ hm ih => exact hmove _ _ ih hm

theorem Runs.sent_prefix (h : Runs R w w') : w.2.sent <+: w'.2.sent :=
  h.preserves (P := fun u => w.2.sent <+: u.2.sent) (List.prefix_refl _)
    fun _ _ hu hmove => hu.trans hmove.sent_prefix

/-- The requests sent on the way from one world to a later one. -/
def sentSince (w w' : World) : List Sent := w'.2.sent.drop w.2.sent.length

omit [PyRuntime] in
theorem sentSince_of_append {sent : List Sent} (h : w'.2.sent = w.2.sent ++ sent) : sentSince w w' = sent := by
  rw [sentSince, h, List.drop_left]

theorem Concludes.requests {t : Transaction} {exchange : Exchange} {r : Except PyExc Receipt}
    (h : Concludes R t exchange w r w') : w'.1.providerRequestCount = w.1.providerRequestCount := by
  have happends : ∀ {input : ℤ → ReceiptInput} {s s' : RunnerState} {a : Except PyExc Receipt},
      Appends input s a s' → s'.providerRequestCount = s.providerRequestCount := by
    intro input s s' a ha
    cases ha <;> rfl
  cases h with
  | authorization _ _ => rfl
  | escaped _ _ _ => rfl
  | secret _ _ _ => rfl
  | unkept _ _ _ ha =>
    rw [happends ha]
  | kept _ _ hsettles =>
    generalize w'.1 = s' at hsettles
    cases hsettles with
    | unjudged _ => rfl
    | unreceipted _ _ => rfl
    | guarded _ _ ha =>
      rw [happends ha]
    | judged _ _ _ =>
      unfold countedFailure
      split_ifs <;> rfl

/-- A move makes no request, or one, which it counts. -/
inductive Sends (R : Runner) (w w' : World) : Prop where
  | nothing : sentSince w w' = [] → w'.1.providerRequestCount = w.1.providerRequestCount → Sends R w w'
  | request {t : Transaction} {exchange : Exchange} {v : World} {r : Except PyExc Receipt} :
      Begins R w.1 t.toSelected → t.Claimed R → SameAccount w v → exchange.Fits R →
      Concludes R t exchange (afterSend v t exchange) r w' → sentSince w w' = [t.sent w.1 exchange] →
      w'.1.providerRequestCount = w.1.providerRequestCount + 1 → Sends R w w'

theorem Moves.sends (h : Moves R w w') : Sends R w w' := by
  have hsilent : ∀ {u : World}, u.2.sent = w.2.sent → sentSince w u = [] := by
    intro u hu
    exact sentSince_of_append (by rw [hu, List.append_nil])
  cases h with
  | blocked _ _ _ _ => exact .nothing (hsilent (by rfl)) rfl
  | transaction h =>
    cases h with
    | refused hsame => exact .nothing (hsilent hsame.sent) (by rw [hsame.self])
    | ceiling _ => exact .nothing (hsilent (by rfl)) rfl
    | gate _ _ hsame ha _ =>
      have hcount := congrArg RunnerState.providerRequestCount hsame.self
      refine .nothing (hsilent (by exact hsame.sent)) ?_
      cases ha with
      | receipted _ => exact hcount
      | refused _ => exact hcount
    | @sent t exchange v r w' hbegins hclaimed hsame hfits hconcludes =>
      refine .request hbegins hclaimed hsame hfits hconcludes (sentSince_of_append ?_) ?_
      · rw [hconcludes.sent, afterSend, hsame.sent, hsame.self]
      · rw [hconcludes.requests, afterSend, counted, hsame.self]

theorem sentSince_trans {u v : World} (h : Runs R w u) (hmove : Moves R u v) :
    sentSince w v = sentSince w u ++ sentSince u v := by
  obtain ⟨before, hbefore⟩ := h.sent_prefix
  obtain ⟨after, hafter⟩ := hmove.sent_prefix
  rw [sentSince_of_append hbefore.symm, sentSince_of_append hafter.symm]
  refine sentSince_of_append ?_
  rw [← hafter, ← hbefore, List.append_assoc]

/-- A condition on the requests of a run is a condition on the requests of each of its moves. -/
theorem Runs.preserves_sending {P : World → Prop} {C : Sent → Prop} (h : Runs R w w') (hw : P w)
    (hsent : ∀ s ∈ sentSince w w', C s)
    (hmove : ∀ u v, P u → Moves R u v → (∀ s ∈ sentSince u v, C s) → P v) : P w' := by
  induction h with
  | refl => exact hw
  | @tail u v hruns hm ih =>
    rw [sentSince_trans hruns hm] at hsent
    exact hmove u v (ih fun s hs => hsent s (List.mem_append_left _ hs)) hm
      fun s hs => hsent s (List.mem_append_right _ hs)

end EvaluationLab.BM1
