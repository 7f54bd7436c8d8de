import EvaluationLab.BM1.Fleet
import EvaluationLab.BM1.TerminalSemantics

/-! Which exchange a score comes from: a runner sends each attempt at most once, and a receipt that
passed or failed belongs to the one exchange of its attempt, whose body had to be a complete and
auditable success. The HTTP status takes no part in this. -/
namespace EvaluationLab.BM1
open Python Effect QA0

section Runs

variable [PyRuntime] {R : Runner} {w w' : World} {row : Receipt}

/-- A runner on its own. -/
def lone (w : World) : Fleet Unit := ⟨fun _ => ⟨w.1, none⟩, w.2⟩

omit [PyRuntime] in
theorem fleet_of_environment (u : World) (op : Op) (r : op.Answer) (v : World) (h : environment.step u op r v) :
    fleetEnvironment.step u op r v :=
  ⟨u.2.records, u.2.recordNames, h⟩

omit [PyRuntime] in
theorem lone_set (w : World) (s : RunnerState) (rest : Option (Program boundary Unit)) (store : Store) :
    (lone w).set () ⟨s, rest⟩ store = ⟨fun _ => ⟨s, rest⟩, store⟩ := by
  simp only [lone, Concurrent.System.set, Concurrent.System.mk.injEq, and_true]
  funext i
  simp

theorem lone_call {α : Type} {u v : World} {p : Program boundary α} {a : α}
    (hcall : RunnerCall R (p >>= fun _ => .done ())) (hexec : Program.Exec environment p u a v) :
    FleetReaches (fun _ => R) (lone u) (lone v) := by
  have hfleet : Program.Exec fleetEnvironment (p >>= fun _ => .done ()) u () v :=
    (Program.Exec.mono fleet_of_environment hexec).bind (.done () v)
  have hbegins : FleetStep (fun _ => R) (lone u) ((lone u).set () ⟨u.1, some _⟩ u.2) := .begins rfl hcall
  have hruns : FleetReaches (fun _ => R) ((lone u).set () ⟨u.1, some _⟩ u.2) ((lone u).set () ⟨v.1, none⟩ v.2) :=
    Concurrent.Steps.of_exec hfleet
  have hends : (lone u).set () ⟨v.1, none⟩ v.2 = lone v := lone_set u v.1 none v.2
  rw [hends] at hruns
  exact .head hbegins hruns

/-- The calls of one runner are those of a fleet of one. -/
theorem Reaches.lone (h : Reaches R w w') : FleetReaches (fun _ => R) (lone w) (lone w') := by
  induction h with
  | start => exact .refl
  | runNext _ hexec ih => exact ih.trans (lone_call (.runNext _) hexec)
  | runAll _ hexec ih => exact ih.trans (lone_call .runAll hexec)

/-- A new runner sends each attempt at most once. -/
theorem Reaches.sent_once (hnew : w.1 = {}) (hunsent : w.2.sent = []) (h : Reaches R w w') :
    (w'.2.sent.map (·.attemptId)).Nodup := by
  have hstart : (BM1.lone w).New := ⟨fun _ => by rw [BM1.lone, hnew], hunsent⟩
  obtain ⟨held, hclaims, -⟩ := claims_protected.steps (fun i p => runnerCall_obeys) hstart.claimsHold
    (fun i p hp => by rw [hstart.fresh] at hp; cases hp) h.lone
  exact hclaims.once

/-- A body that is scored: a successful response of the exact model with an accepted decision and
tokens within the guard. -/
structure ScoredBody (p : Provider) (exchange : Exchange) (n : NormalizedProviderResponse) : Prop where
  response : responseOf p.providerId exchange = some n
  scorable : Scorable p n
  withinGuard : ¬overTokenGuard n.inputTokens n.outputTokens

/-- The receipt was scored on the body of the exchange of its own attempt. -/
structure ScoredOn (R : Runner) (s : Sent) (row : Receipt) : Prop where
  attempt : s.attemptId = row.attemptId
  scored : ∃ p n, providerOf R.manifest s.providerId = .ok p ∧ ScoredBody p s.exchange n

/-- A new receipt that passed or failed was scored on the exchange of its move. -/
theorem NewReceipt.scoredOn (h : NewReceipt R w w' row) (hscored : row.terminalStatus = .pass ∨ row.terminalStatus = .fail) :
    ∃ s ∈ w'.2.sent, ScoredOn R s row := by
  cases h with
  | unscored hnext _ _ hterminal =>
    obtain ⟨d, -, hd, -⟩ := receipt_row hnext.built
    have hsame : row.terminalStatus = .error ∨ row.terminalStatus = .blocked := by
      rw [hd]
      exact hterminal
    rcases hsame with h | h <;> rw [h] at hscored <;> simp at hscored
  | @settled t exchange raw n errorClass evidence s v completed hbegins _ _ hsent hobserved _ _ _ hjudge hnext =>
    obtain ⟨d, -, hd, -⟩ := receipt_row hnext.built
    have hentry : t.sent w.1 exchange ∈ w'.2.sent := by
      rw [hsent]
      exact List.mem_append_right _ (List.mem_singleton.mpr rfl)
    have hterminal : row.terminalStatus = (guardedVerdict t.provider n v).terminal := by
      rw [hd]
      rfl
    have hid : t.provider.providerId = t.attempt.providerId := by
      obtain ⟨⟨p, hp, -, hpid, -⟩, -⟩ := R.valid.planned (List.mem_of_getElem? hbegins.current)
      rw [(prepareAttempt_ok hbegins.prepared).2.1, Except.ok.injEq] at hp
      rw [hp]
      exact hpid
    have hprovider : providerOf R.manifest t.provider.providerId = .ok t.provider := by
      rw [hid]
      exact (prepareAttempt_ok hbegins.prepared).2.1
    refine ⟨_, hentry, ?_, t.provider, n, hprovider, ?_⟩
    · rw [hd]
      rfl
    · cases hcost : cost t.provider n.inputTokens n.outputTokens with
      | error e =>
        have hguarded : guardedVerdict t.provider n v = tokenBudgetVerdict v := by simp [guardedVerdict, hcost]
        rw [hterminal, hguarded] at hscored
        simp [tokenBudgetVerdict] at hscored
      | ok amount =>
        have hkept : guardedVerdict t.provider n v = v := by simp [guardedVerdict, hcost]
        rw [hterminal, hkept] at hscored
        have hwithin := (cost_isOk_iff t.provider n.inputTokens n.outputTokens).mp ⟨amount, hcost⟩
        rcases (judge_ok hjudge).decided with ⟨hpass, hfail, -⟩ | ⟨hscorable, -⟩
        · rcases hscored with h | h
          · exact absurd h hpass
          · exact absurd h hfail
        · rcases hobserved.responseOf with hresponse | hfailed
          · exact ⟨hresponse, hscorable, hwithin⟩
          · exact absurd hscorable.1 hfailed

theorem Reaches.scoredOn (hnew : w.1 = {}) (h : Reaches R w w') : ∀ row ∈ w'.1.receipts,
    row.terminalStatus = .pass ∨ row.terminalStatus = .fail → ∃ s ∈ w'.2.sent, ScoredOn R s row := by
  refine h.runs.preserves (P := fun u => ∀ row ∈ u.1.receipts,
    row.terminalStatus = .pass ∨ row.terminalStatus = .fail → ∃ s ∈ u.2.sent, ScoredOn R s row) ?_ ?_
  · intro row hrow
    rw [hnew] at hrow
    cases hrow
  · intro u v hu hmove row hrow hscored
    have hold : ∀ row ∈ u.1.receipts, row.terminalStatus = .pass ∨ row.terminalStatus = .fail →
        ∃ s ∈ v.2.sent, ScoredOn R s row := by
      intro row hrow hscored
      obtain ⟨s, hs, hon⟩ := hu row hrow hscored
      exact ⟨s, hmove.sent_prefix.subset hs, hon⟩
    rcases hmove.newReceipt with heq | ⟨row', heq, hreceipt⟩
    · exact hold row (heq ▸ hrow) hscored
    · rw [heq] at hrow
      rcases List.mem_append.mp hrow with hrow | hrow
      · exact hold row hrow hscored
      · rw [List.mem_singleton.mp hrow] at hscored ⊢
        exact hreceipt.scoredOn hscored

omit [PyRuntime] in
/-- A normalized success carries no error. -/
theorem error_of_success {providerId : PyStr} {raw : Fields} {n : NormalizedProviderResponse}
    (h : normalizeProviderResponse providerId raw = .ok n) (hsuccess : n.providerTerminalStatus = .success) :
    (dictGet raw "error").truthy = false := by
  by_contra herror
  rw [Bool.not_eq_false] at herror
  unfold normalizeProviderResponse normalizeOpenaiResponse normalizeGoogleResponse at h
  rw [if_pos herror, if_pos herror] at h
  split_ifs at h
  · rw [← Except.ok.inj h] at hsuccess
    cases hsuccess
  · rw [← Except.ok.inj h] at hsuccess
    cases hsuccess

/-- An HTTP error is only scored on a body that has an error of its own, and a false one. -/
theorem ScoredBody.falseError {p : Provider} {n : NormalizedProviderResponse} {code : ℤ} {body : List UInt8}
    (h : ScoredBody p (.live (.httpError code body)) n) :
    ∃ fields error, decodeJson (body.take (maxProviderResponseBytes + 1)) code = .ok fields ∧
      fields.lookup (py "error") = some error ∧ error.truthy = false := by
  obtain ⟨hresponse, hscorable, -⟩ := h
  unfold responseOf at hresponse
  cases hraw : rawResponse (.live (.httpError code body)) with
  | error e =>
    rw [hraw] at hresponse
    cases hresponse
  | ok raw =>
    rw [hraw] at hresponse
    dsimp only at hresponse
    split_ifs at hresponse
    cases hn : normalizeProviderResponse p.providerId raw with
    | error e =>
      rw [hn] at hresponse
      cases hresponse
    | ok n' =>
      rw [hn] at hresponse
      obtain rfl := Option.some.inj hresponse
      have herror := error_of_success hn hscorable.1
      cases hdecoded : decodeJson (body.take (maxProviderResponseBytes + 1)) code with
      | error e =>
        simp [rawResponse, candidate, httpCandidate, hdecoded, bind, Except.bind] at hraw
      | ok fields =>
        have hset : raw = dictSetdefault fields "error"
            (.obj [("type", .str "HTTP_ERROR"), ("status", .int code)]) := by
          simp only [rawResponse, candidate, httpCandidate, hdecoded, bind, Except.bind, pure, Except.pure,
            Except.ok.injEq] at hraw
          exact hraw.symm
        rw [hset, dictSetdefault] at herror
        cases hown : fields.lookup (py "error") with
        | some error =>
          rw [hown, Option.isSome_some, if_pos rfl, dictGet, hown] at herror
          exact ⟨fields, error, rfl, hown, herror⟩
        | none =>
          rw [hown, Option.isSome_none, if_neg Bool.false_ne_true, dictGet, List.lookup_append, hown,
            Option.none_or, List.lookup_cons, beq_self_eq_true] at herror
          cases herror

/-- After any calls of a new runner, each attempt was sent at most once, and a receipt that passed
or failed was scored on the one exchange of its attempt: its body is a successful response of the
exact model with an accepted decision and tokens within the guard, whatever the HTTP status; the
body of an HTTP error must even spell out a false error. -/
theorem scores_come_from_success (hnew : w.1 = {}) (hunsent : w.2.sent = []) (h : Reaches R w w') :
    (w'.2.sent.map (·.attemptId)).Nodup ∧
    ∀ row ∈ w'.1.receipts, row.terminalStatus = .pass ∨ row.terminalStatus = .fail →
      ∃ s ∈ w'.2.sent, s.attemptId = row.attemptId ∧ ∃ p n, providerOf R.manifest s.providerId = .ok p ∧
        ScoredBody p s.exchange n ∧
        ∀ code body, s.exchange = .live (.httpError code body) →
          ∃ fields error, decodeJson (body.take (maxProviderResponseBytes + 1)) code = .ok fields ∧
            fields.lookup (py "error") = some error ∧ error.truthy = false := by
  refine ⟨h.sent_once hnew hunsent, ?_⟩
  intro row hrow hscored
  obtain ⟨s, hs, hattempt, p, n, hprovider, hbody⟩ := h.scoredOn hnew row hrow hscored
  refine ⟨s, hs, hattempt, p, n, hprovider, hbody, ?_⟩
  intro code body hexchange
  rw [hexchange] at hbody
  exact hbody.falseError

end Runs

section Frozen

open Python.Ascii

/-- The passing receipt of the frozen runner was scored on the exchange of its attempt. -/
theorem scores_come_from_success_frozen : ∃ w' row s p n, Reaches frozenRunner ({}, Store.empty) w' ∧
    w'.1.receipts = [row] ∧ row.terminalStatus = .pass ∧ s ∈ w'.2.sent ∧ s.attemptId = row.attemptId ∧
    providerOf frozenManifest s.providerId = .ok p ∧ ScoredBody p s.exchange n := by
  obtain ⟨t, evidence, row, -, -, -, hrow, hexec⟩ := frozen_passes
  have hreaches : Reaches frozenRunner ({}, Store.empty) _ := .runNext .start hexec
  obtain ⟨d, -, hd, -⟩ := receipt_row hrow
  have hpass : row.terminalStatus = .pass := by rw [hd]; rfl
  obtain ⟨s, hs, hattempt, p, n, hprovider, hbody, -⟩ :=
    (scores_come_from_success rfl rfl hreaches).2 row (List.mem_singleton_self row) (.inl hpass)
  exact ⟨_, row, s, p, n, hreaches, rfl, hpass, hs, hattempt, hprovider, hbody⟩

end Frozen

end EvaluationLab.BM1
