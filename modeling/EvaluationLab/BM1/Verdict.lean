import EvaluationLab.BM1.Run

/-! What a verdict says about the response it judges, and when a receipt keeps the terminal
semantics of the benchmark: a failure value for `PASS` and `FAIL` only. -/
namespace EvaluationLab.BM1
open Python Effect QA0

variable [PyRuntime] {R : Runner}

/-- The accepted decision a final text carries. -/
def decisionOf (finalText : PyStr) : Option PyStr :=
  match loads (strip finalText) with
  | .ok (.obj fields) =>
    if fields = [] ∨ fields.any (fun f => f.1 != py "decision") then none
    else
      match dictGet fields "decision" with
      | .str s => if s = decisionDecline ∨ s = decisionHelp then some s else none
      | _ => none
  | _ => none

/-- A score is the one for unreadable text, or that of an accepted decision. -/
theorem scoreE11Output_ok {case : Json} {text : PyStr} {score : Score}
    (h : scoreE11Output case text = .ok score) :
    (decisionOf text = none ∧ score = notEvaluableScore) ∨
      ∃ decision expected, decisionOf text = some decision ∧ expectedDecisionForCase case = .ok expected ∧
        score = decisionScore (decide (decision = expected)) := by
  simp only [scoreE11Output, parseDecision, bind_eq_ok_iff] at h
  obtain ⟨parsed, hparsed, h⟩ := h
  unfold decisionOf
  cases hloads : loads (strip text) with
  | error e =>
    rw [hloads] at hparsed
    dsimp only at hparsed
    split_ifs at hparsed
    cases hparsed
    cases h
    exact .inl ⟨rfl, rfl⟩
  | ok value =>
    rw [hloads] at hparsed
    cases hparsed
    cases parsed with
    | obj fields =>
      dsimp only at h ⊢
      by_cases hkeys : fields = [] ∨ fields.any (fun f => f.1 != py "decision") = true
      · rw [if_pos hkeys] at h ⊢
        cases h
        exact .inl ⟨rfl, rfl⟩
      · rw [if_neg hkeys] at h ⊢
        simp only [bind_eq_ok_iff, exists_unit_iff, check_eq_ok_iff] at h
        obtain ⟨hhash, h⟩ := h
        cases hdecision : dictGet fields "decision" with
        | str s =>
          rw [hdecision] at h
          by_cases haccepted : s = decisionDecline ∨ s = decisionHelp
          · have hstr : ((Json.str s).isStr decisionDecline || (Json.str s).isStr decisionHelp) = true := by
              simpa [Json.isStr] using haccepted
            simp only [Bool.or_eq_true] at hstr
            rw [if_pos hstr] at h
            simp only [bind_eq_ok_iff, pure_eq_ok_iff] at h
            obtain ⟨expected, hexpected, rfl⟩ := h
            have hpassed : (Json.str s).isStr expected = decide (s = expected) := by
              by_cases heq : s = expected <;> simp [Json.isStr, heq]
            exact .inr ⟨s, expected, by simp [haccepted], hexpected, by rw [hpassed]⟩
          · have hstr : ¬((Json.str s).isStr decisionDecline = true ∨ (Json.str s).isStr decisionHelp = true) := by
              simpa [Json.isStr] using haccepted
            rw [if_neg hstr] at h
            cases h
            exact .inl ⟨by simp [haccepted], rfl⟩
        | _ =>
          rw [hdecision] at h
          cases h
          exact .inl ⟨rfl, rfl⟩
    | _ =>
      cases h
      exact .inl ⟨rfl, rfl⟩

/-- Text the scorer can read: the decoder refuses it as no JSON or not at all, and a decision that
stands alone can be hashed. -/
structure Readable (finalText : PyStr) : Prop where
  decodes : ∀ e, loads (strip finalText) = .error e → e.isA "JSONDecodeError" ∨ e.isA "AttributeError"
  hashes : ∀ fields, loads (strip finalText) = .ok (.obj fields) → fields ≠ [] →
    (∀ f ∈ fields, f.1 = py "decision") → (dictGet fields "decision").hashable = true

/-- For a case with an oracle, the scorer returns exactly on text it can read. -/
theorem scoreE11Output_ok_iff {case : Json} {expected : PyStr} (hcase : expectedDecisionForCase case = .ok expected)
    (text : PyStr) : (∃ score, scoreE11Output case text = .ok score) ↔ Readable text := by
  unfold scoreE11Output parseDecision
  constructor
  · rintro ⟨score, h⟩
    simp only [bind_eq_ok_iff] at h
    obtain ⟨parsed, hparsed, h⟩ := h
    constructor
    · intro e he
      rw [he] at hparsed
      dsimp only at hparsed
      by_contra hother
      rw [if_neg hother] at hparsed
      cases hparsed
    · intro fields hfields hne hkeys
      rw [hfields] at hparsed
      cases hparsed
      have hsole : ¬(fields = [] ∨ fields.any (fun f => f.1 != py "decision") = true) := by
        simpa [hne] using fun a b hf => hkeys (a, b) hf
      dsimp only at h
      rw [if_neg hsole] at h
      simp only [bind_eq_ok_iff, exists_unit_iff, check_eq_ok_iff] at h
      exact h.1
  · intro hreadable
    cases hloads : loads (strip text) with
    | error e =>
      dsimp only
      rw [if_pos (hreadable.decodes e hloads)]
      exact ⟨_, rfl⟩
    | ok value =>
      cases value with
      | obj fields =>
        by_cases hsole : fields = [] ∨ fields.any (fun f => f.1 != py "decision") = true
        · exact ⟨notEvaluableScore, by simp only [bind_eq_ok_iff]; exact ⟨_, rfl, if_pos hsole⟩⟩
        · have hhash : (dictGet fields "decision").hashable = true := by
            apply hreadable.hashes fields hloads
            · exact fun hnil => hsole (.inl hnil)
            · intro f hf
              by_contra hother
              exact hsole (.inr (List.any_eq_true.mpr ⟨f, hf, by simpa using hother⟩))
          simp only [bind_eq_ok_iff]
          by_cases haccepted : (dictGet fields "decision").isStr decisionDecline = true ∨
              (dictGet fields "decision").isStr decisionHelp = true
          · refine ⟨decisionScore ((dictGet fields "decision").isStr expected), _, rfl, ?_⟩
            dsimp only
            rw [if_neg hsole]
            simp only [bind_eq_ok_iff, exists_unit_iff, check_eq_ok_iff]
            refine ⟨hhash, ?_⟩
            rw [if_pos haccepted]
            simp only [bind_eq_ok_iff, pure_eq_ok_iff]
            exact ⟨_, hcase, rfl⟩
          · refine ⟨notEvaluableScore, _, rfl, ?_⟩
            dsimp only
            rw [if_neg hsole]
            simp only [bind_eq_ok_iff, exists_unit_iff, check_eq_ok_iff]
            refine ⟨hhash, ?_⟩
            rw [if_neg haccepted]
            rfl
      | _ => exact ⟨_, rfl⟩

/-- The four ways a response is judged. -/
inductive Judged (t : Selected) (n : NormalizedProviderResponse) (errorClass : Option PyStr) : Verdict → Prop where
  | providerFailed {reason : Reason} : n.providerTerminalStatus.failure = some reason →
      Judged t n errorClass ⟨none, .error, reason, n.providerTerminalStatus, errorClass⟩
  | notAuditable : n.providerTerminalStatus = .success → identity t.provider n.resolvedModelId ≠ .exact →
      Judged t n errorClass ⟨none, .notEvaluable, .identityNotAuditable, .success, errorClass⟩
  | empty : n.providerTerminalStatus = .success → identity t.provider n.resolvedModelId = .exact →
      (∀ text, n.finalText = some text → strip text = []) →
      Judged t n errorClass ⟨none, .notEvaluable, .emptyFinalContent, .success, errorClass⟩
  | scored {text : PyStr} {score : Score} : n.providerTerminalStatus = .success →
      identity t.provider n.resolvedModelId = .exact → n.finalText = some text → strip text ≠ [] →
      scoreE11Output t.case text = .ok score →
      Judged t n errorClass ⟨some score, score.terminalStatus,
        if score.terminalStatus = .notEvaluable then .scorerNotEvaluable else score.reason, .success, errorClass⟩

theorem Judged.errorClass {t : Selected} {n : NormalizedProviderResponse} {errorClass : Option PyStr} {v : Verdict}
    (h : Judged t n errorClass v) : v.errorClass = errorClass := by
  cases h <;> rfl

omit [PyRuntime] in
theorem failure_eq_none_iff (status : ProviderTerminal) : status.failure = none ↔ status = .success := by
  cases status <;> simp [ProviderTerminal.failure]

theorem judge_ok {t : Selected} {n : NormalizedProviderResponse} {errorClass : Option PyStr} {v : Verdict}
    (h : judge t n errorClass = .ok v) : Judged t n (errorClass <|> n.errorClass) v := by
  unfold judge at h
  cases hfailure : n.providerTerminalStatus.failure with
  | some reason =>
    rw [hfailure] at h
    cases h
    exact .providerFailed hfailure
  | none =>
    have hsuccess := (failure_eq_none_iff _).mp hfailure
    rw [hfailure] at h
    dsimp only at h
    by_cases hidentity : identity t.provider n.resolvedModelId = .exact
    · rw [if_neg (not_not.mpr hidentity)] at h
      cases htext : n.finalText.filter fun text => !(strip text).isEmpty with
      | none =>
        rw [htext] at h
        cases h
        rw [hsuccess]
        refine .empty hsuccess hidentity ?_
        intro text hfinal
        rw [hfinal] at htext
        simpa [Option.filter] using htext
      | some text =>
        rw [htext] at h
        obtain ⟨hfinal, hnonblank⟩ := Option.filter_eq_some_iff.mp htext
        simp only [bind_eq_ok_iff, pure_eq_ok_iff] at h
        obtain ⟨score, hscore, rfl⟩ := h
        rw [hsuccess]
        exact .scored hsuccess hidentity hfinal (by simpa using hnonblank) hscore
    · rw [if_pos hidentity] at h
      cases h
      rw [hsuccess]
      exact .notAuditable hsuccess hidentity

/-- A response is judged when its text, if it comes to that, can be read. -/
theorem judge_exists {t : Selected} {n : NormalizedProviderResponse} (errorClass : Option PyStr)
    {expected : PyStr} (hcase : expectedDecisionForCase t.case = .ok expected)
    (hreadable : n.providerTerminalStatus = .success → identity t.provider n.resolvedModelId = .exact →
      ∀ text, n.finalText = some text → strip text ≠ [] → Readable text) :
    ∃ v, judge t n errorClass = .ok v := by
  unfold judge
  cases hfailure : n.providerTerminalStatus.failure with
  | some reason => exact ⟨_, rfl⟩
  | none =>
    dsimp only
    by_cases hidentity : identity t.provider n.resolvedModelId = .exact
    · rw [if_neg (not_not.mpr hidentity)]
      cases htext : n.finalText.filter fun text => !(strip text).isEmpty with
      | none => exact ⟨_, rfl⟩
      | some text =>
        obtain ⟨hfinal, hnonblank⟩ := Option.filter_eq_some_iff.mp htext
        obtain ⟨score, hscore⟩ := (scoreE11Output_ok_iff hcase text).mpr
          (hreadable ((failure_eq_none_iff _).mp hfailure) hidentity text hfinal (by simpa using hnonblank))
        dsimp only
        rw [hscore]
        exact ⟨_, rfl⟩
    · rw [if_pos hidentity]
      exact ⟨_, rfl⟩

/-- A verdict never blocks an attempt. -/
theorem Judged.terminal_ne_blocked {t : Selected} {n : NormalizedProviderResponse} {errorClass : Option PyStr}
    {v : Verdict} (h : Judged t n errorClass v) : v.terminal ≠ .blocked := by
  cases h with
  | providerFailed _ => exact Terminal.noConfusion
  | notAuditable _ _ => exact Terminal.noConfusion
  | empty _ _ _ => exact Terminal.noConfusion
  | scored _ _ _ _ hscore =>
    rcases scoreE11Output_ok hscore with ⟨-, rfl⟩ | ⟨decision, expected, -, -, rfl⟩
    · exact Terminal.noConfusion
    · intro hblocked
      simp only [decisionScore] at hblocked
      split_ifs at hblocked

end EvaluationLab.BM1
