import EvaluationLab.BM0.FrozenBenchmark

/-! Who answered: a scored observation is of the planned model, or of a disclosed alias. -/
namespace EvaluationLab.BM0
open Python Effect QA0

/-- The outcome checks an accepted observation has passed. -/
structure Observation.Judged (o : Observation) (semantics : Option UnknownSemantics) : Prop where
  disposition : unknownSemantics o = .ok semantics
  verdict : checkVerdict o semantics = .ok ()
  unknownEvidence : checkUnknownEvidence o semantics = .ok ()
  scorable : checkScorable o = .ok ()
  unknownAttribution : checkUnknownAttribution o = .ok ()

theorem unknownSemantics_cases {o : Observation} {semantics : Option UnknownSemantics}
    (h : unknownSemantics o = .ok semantics) :
    (o.terminalStatus ≠ .unknown ∧ semantics = none) ∨
      ∃ d, o.terminalStatus = .unknown ∧ o.unknownDisposition = some d ∧ semantics = some d.semantics := by
  unfold unknownSemantics at h
  by_cases ht : o.terminalStatus = .unknown
  · cases hd : o.unknownDisposition with
    | none => simp [ht, hd] at h
    | some d =>
      simp only [ht, hd, bind_eq_ok_iff, exists_unit_iff, pure_eq_ok_iff] at h
      obtain ⟨_, -, -, rfl⟩ := h
      exact .inr ⟨d, ht, rfl, rfl⟩
  · refine .inl ⟨ht, ?_⟩
    cases hd : o.unknownDisposition <;> cases hterm : o.terminalStatus <;> simp_all

/-- A system observation carries no model value. -/
theorem checkVerdict_system {o : Observation} {semantics : Option UnknownSemantics}
    (h : checkVerdict o semantics = .ok ()) (hs : o.targetClass = .systemEvalOnly) : o.modelFailureValue = none := by
  unfold checkVerdict at h
  simp only [bind_eq_ok_iff, exists_unit_iff, check_eq_ok_iff] at h
  rw [h.1.1, expectedModelValue, if_pos hs]

/-- Only `PASS`, `FAIL` and a resolved `UNKNOWN` carry a model value. -/
theorem checkVerdict_scored {o : Observation} {semantics : Option UnknownSemantics} {v : ℤ}
    (h : checkVerdict o semantics = .ok ()) (hv : o.modelFailureValue = some v) :
    o.targetClass ≠ .systemEvalOnly ∧
      (o.terminalStatus = .pass ∧ v = 0 ∨ o.terminalStatus = .fail ∧ v = 1 ∨
        ∃ s, semantics = some s ∧ s.modelFailureValue = some v) := by
  have hsystem : o.targetClass ≠ .systemEvalOnly := by
    intro hs
    rw [checkVerdict_system h hs] at hv
    cases hv
  unfold checkVerdict at h
  simp only [bind_eq_ok_iff, exists_unit_iff, check_eq_ok_iff] at h
  rw [h.1.1, expectedModelValue, if_neg hsystem] at hv
  refine ⟨hsystem, ?_⟩
  cases ht : o.terminalStatus <;> simp only [ht] at hv
  · exact .inl ⟨rfl, (Option.some.inj hv).symm⟩
  · exact .inr (.inl ⟨rfl, (Option.some.inj hv).symm⟩)
  all_goals exact .inr (.inr (Option.bind_eq_some_iff.mp hv))

/-- What stands behind the value of a scored model observation. -/
structure Observation.Attributed (o : Observation) : Prop where
  certainty : o.identityCertainty = .exact ∨ o.identityCertainty = .aliasOnly
  response : o.attributableResponse
  rawResponse : o.rawResponseFingerprint ≠ none
  evidence : o.evidenceReceiptFingerprint ≠ none

theorem checkScorableIdentity_certainty {o : Observation} (h : checkScorableIdentity o = .ok ()) :
    o.identityCertainty = .exact ∨ o.identityCertainty = .aliasOnly := by
  unfold checkScorableIdentity at h
  cases hc : o.identityCertainty <;> simp_all

/-- A `PASS` or `FAIL` of a model is attributed. -/
theorem checkScorable_attributed {o : Observation} (h : checkScorable o = .ok ())
    (ht : o.terminalStatus ∈ modelScorableTerminals) (hm : o.targetClass ≠ .systemEvalOnly) : o.Attributed := by
  unfold checkScorable at h
  rw [if_pos ht] at h
  simp only [bind_eq_ok_iff, exists_unit_iff, check_eq_ok_iff, if_neg hm] at h
  obtain ⟨-, ⟨hraw, hevidence⟩, hidentity, hresponse⟩ := h
  exact ⟨checkScorableIdentity_certainty hidentity, hresponse, hraw, hevidence⟩

/-- An `UNKNOWN` with a value is attributed: only unresolved dispositions go without evidence. -/
theorem checkUnknown_attributed {o : Observation} {d : UnknownDisposition} {v : ℤ}
    (hevidence : checkUnknownEvidence o (some d.semantics) = .ok ()) (hattr : checkUnknownAttribution o = .ok ())
    (ht : o.terminalStatus = .unknown) (hm : o.targetClass ≠ .systemEvalOnly)
    (hd : o.unknownDisposition = some d) (hv : d.semantics.modelFailureValue = some v) : o.Attributed := by
  have hresolved : o.unknownDisposition ≠ some .unresolvedScorerEvidence := by
    intro hu
    rw [hd] at hu
    cases hu
    cases hv
  unfold checkUnknownAttribution at hattr
  rw [if_pos ⟨ht, hm⟩] at hattr
  simp only [checkUnknownEvidence, bind_eq_ok_iff, exists_unit_iff, check_eq_ok_iff, if_neg hresolved] at hevidence hattr
  exact ⟨hattr.1, hattr.2.1, hattr.2.2, hevidence.2⟩

theorem Observation.Judged.attributed {o : Observation} {semantics : Option UnknownSemantics} {v : ℤ}
    (h : o.Judged semantics) (hv : o.modelFailureValue = some v) : o.Attributed := by
  obtain ⟨hm, hcase⟩ := checkVerdict_scored h.verdict hv
  rcases hcase with ⟨ht, -⟩ | ⟨ht, -⟩ | ⟨s, hs, hvs⟩
  · exact checkScorable_attributed h.scorable (by simp [ht, modelScorableTerminals]) hm
  · exact checkScorable_attributed h.scorable (by simp [ht, modelScorableTerminals]) hm
  · rcases unknownSemantics_cases h.disposition with ⟨-, hnone⟩ | ⟨d, ht, hd, hsome⟩
    · rw [hnone] at hs
      cases hs
    · rw [hsome] at hs
      cases hs
      exact checkUnknown_attributed (hsome ▸ h.unknownEvidence) h.unknownAttribution ht hm hd hvs

/-- An identified observation of a planned model attempt names the planned model. -/
theorem checkResolvedIdentity_identified {o : Observation} {t : TrialIdentity}
    (h : checkResolvedIdentity o t = .ok ()) (hs : t.requiredIdentityCertainty ≠ .systemScope)
    (hc : o.identityCertainty = .exact ∨ o.identityCertainty = .aliasOnly) :
    (o.identityCertainty = .exact ∧ t.requiredIdentityCertainty = .exact ∧
        o.resolvedModelOrVersionId = t.expectedResolvedModelOrVersionId) ∨
      (o.identityCertainty = .aliasOnly ∧ t.requiredIdentityCertainty = .aliasOnly ∧
        o.aliasLimitation = .unverifiableAliasDisclosed) := by
  unfold checkResolvedIdentity at h
  rw [if_neg hs] at h
  rcases hc with hc | hc
  · simp only [hc, check_eq_ok_iff] at h
    exact .inl ⟨hc, h.1, h.2.1⟩
  · simp only [hc, check_eq_ok_iff] at h
    exact .inr ⟨hc, h.1, h.2.2⟩

section Accepted
variable [PyRuntime]

theorem validateObservation_judged {o : Observation} (h : validateObservation o = .ok ()) :
    ∃ semantics, o.Judged semantics := by
  unfold validateObservation at h
  simp only [bind_eq_ok_iff, exists_unit_iff, check_eq_ok_iff] at h
  obtain ⟨-, -, -, -, -, -, -, started, -, completed, -, -, -, -, -, -, -, -, -, -, semantics, hdisposition,
    hverdict, hunknown, hscorable, hattribution, -⟩ := h
  exact ⟨semantics, hdisposition, hverdict, hunknown, hscorable, hattribution⟩

/-- The certainty a model attempt is planned with. -/
theorem validateTrialIdentity_certainty {t : TrialIdentity} (h : validateTrialIdentity t = .ok ())
    (hm : t.targetClass ≠ .systemEvalOnly) :
    (t.requiredIdentityCertainty = .exact ∧ t.expectedResolvedModelOrVersionId = some t.modelSnapshotId) ∨
      (t.requiredIdentityCertainty = .aliasOnly ∧ t.aliasLimitation = .unverifiableAliasDisclosed) := by
  unfold validateTrialIdentity at h
  simp only [bind_eq_ok_iff, exists_unit_iff] at h
  obtain ⟨-, -, -, -, -, -, hplanned, -⟩ := h
  unfold checkPlannedIdentity at hplanned
  simp only [if_neg hm] at hplanned
  split_ifs at hplanned
  cases hc : t.requiredIdentityCertainty <;> simp only [hc, check_eq_ok_iff] at hplanned
  · exact .inl ⟨rfl, hplanned.1⟩
  · exact .inr ⟨rfl, hplanned.2.2⟩
  all_goals simp at hplanned

/-- The model the plan asks for is the one that is scored. -/
def Observation.IdentifiedAs (o : Observation) (t : TrialIdentity) : Prop :=
  (o.identityCertainty = .exact ∧ o.resolvedModelOrVersionId = t.expectedResolvedModelOrVersionId ∧
      t.expectedResolvedModelOrVersionId = some t.modelSnapshotId) ∨
    (o.identityCertainty = .aliasOnly ∧ t.requiredIdentityCertainty = .aliasOnly ∧
      t.aliasLimitation = .unverifiableAliasDisclosed ∧ o.aliasLimitation = .unverifiableAliasDisclosed)

/-- A scored observation is of the planned model or a disclosed alias, with a successful response and
evidence behind it; a system observation is never scored as a model. -/
theorem scored_observations_are_identified {m : BenchmarkManifest} {expected : ArtifactFingerprints}
    {observations : List Observation} {g : Grid}
    (h : validateObservationGrid m expected observations = .ok g) :
    ∀ o ∈ observations,
      (o.targetClass ≠ .systemEvalOnly → (o.modelFailureValue = some 0 ∨ o.modelFailureValue = some 1) →
        ∃ t ∈ m.plannedAttempts, t.attemptId = o.attemptId ∧ o.IdentifiedAs t ∧
          o.providerTerminalStatus = .success ∧
          (∃ status, o.providerHttpStatus = some status ∧ 200 ≤ status ∧ status < 300) ∧
          o.rawResponseFingerprint ≠ none ∧ o.evidenceReceiptFingerprint ≠ none) ∧
      (o.targetClass = .systemEvalOnly → o.modelFailureValue = none) := by
  obtain ⟨hfrozen, -, hrecorded, -⟩ := validateObservationGrid_iff.mp h
  have hplanned := validateBenchmarkManifest_planned hfrozen.validated
  intro o ho
  obtain ⟨t, hfind, hmatch⟩ := hrecorded o ho
  obtain ⟨semantics, hjudged⟩ := validateObservation_judged hmatch.valid
  constructor
  · intro hm hvalue
    obtain ⟨v, hv⟩ : ∃ v, o.modelFailureValue = some v := by
      rcases hvalue with hv | hv
      · exact ⟨0, hv⟩
      · exact ⟨1, hv⟩
    have hattr := hjudged.attributed hv
    have htm : t.targetClass ≠ .systemEvalOnly := hmatch.declared ▸ hm
    have ht := attemptOf_mem hfind
    refine ⟨t, ht, attemptOf_attemptId hfind, ?_, hattr.response.2.1, hattr.response.2.2.1, hattr.rawResponse,
      hattr.evidence⟩
    rcases validateTrialIdentity_certainty (hplanned.valid t ht) htm with ⟨hreq, hexp⟩ | ⟨hreq, hlimit⟩
    · rcases checkResolvedIdentity_identified hmatch.resolved (by simp [hreq]) hattr.certainty with
        ⟨hc, -, hres⟩ | ⟨-, hother, -⟩
      · exact .inl ⟨hc, hres, hexp⟩
      · simp [hreq] at hother
    · rcases checkResolvedIdentity_identified hmatch.resolved (by simp [hreq]) hattr.certainty with
        ⟨-, hother, -⟩ | ⟨hc, -, hdisclosed⟩
      · simp [hreq] at hother
      · exact .inr ⟨hc, hreq, hlimit, hdisclosed⟩
  · intro hs
    exact checkVerdict_system hjudged.verdict hs

end Accepted

section Frozen
open Python.Ascii

/-- A failed attempt of the frozen benchmark is scored, and it is of the planned model. -/
theorem scored_observations_are_identified_frozen :
    ∃ o ∈ benchmarkRecords benchmarkPlan true, o.targetClass ≠ .systemEvalOnly ∧ o.modelFailureValue = some 1 ∧
      ∃ t ∈ frozenBenchmark.plannedAttempts, t.attemptId = o.attemptId ∧ o.IdentifiedAs t := by
  have hroot : verdictRecord firstRoot benchmarkStarted benchmarkCompleted true ∈ benchmarkRecords benchmarkPlan true :=
    List.mem_map.mpr ⟨firstRoot, by simp [benchmarkPlan], rfl⟩
  have hclass : firstRoot.targetClass ≠ .systemEvalOnly := by decide
  obtain ⟨hscored, -⟩ := scored_observations_are_identified (benchmarkRecords_accepted (List.Sublist.refl _) true) _ hroot
  obtain ⟨t, ht, hid, hidentified, -⟩ := hscored hclass (.inr rfl)
  exact ⟨_, hroot, hclass, rfl, t, ht, hid, hidentified⟩

end Frozen

end EvaluationLab.BM0
