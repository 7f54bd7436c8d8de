import EvaluationLab.BM0.Adjudication

/-! Adjudication does not depend on the order of the records, and a verdict is final. -/
namespace EvaluationLab.BM0
open Python Effect QA0

def primariesOf (records : List AdjudicationRecord) : List AdjudicationRecord :=
  records.filter fun r => r.roundRole = .primary

def tiebreakersOf (records : List AdjudicationRecord) : List AdjudicationRecord :=
  records.filter fun r => r.roundRole = .tiebreak

/-- Both planned primaries have reported, neither of them an error. -/
structure BothReported (plan : AdjudicationPlan) (primaries : List AdjudicationRecord) : Prop where
  noError : ¬∃ r ∈ primaries, r.recordStatus = .error
  two : primaries.length = 2
  planned : ∀ a ∈ plan.primaryAdjudicators, a ∈ primaries.map AdjudicationRecord.assignment

/-- Both primaries have reported a verdict. -/
structure BothDecided (plan : AdjudicationPlan) (primaries : List AdjudicationRecord) : Prop
    extends BothReported plan primaries where
  noUnknown : ¬∃ r ∈ primaries, r.decision = some .unknown

/-- What the rounds settle, with the reason. -/
inductive Settled (plan : AdjudicationPlan) (primaries tiebreakers : List AdjudicationRecord) :
    Terminal → PyStr → Option Decision → Prop
  | primaryError (herror : ∃ r ∈ primaries, r.recordStatus = .error) (hno : tiebreakers.length = 0) :
    Settled plan primaries tiebreakers .error "ADJUDICATION_INFRASTRUCTURE_ERROR" none
  | incomplete (herror : ¬∃ r ∈ primaries, r.recordStatus = .error) (hcount : primaries.length ≠ 2)
      (hno : tiebreakers.length = 0) :
    Settled plan primaries tiebreakers .unknown "INCOMPLETE_OR_AMBIGUOUS_ADJUDICATION_SET" none
  | insufficient (hboth : BothReported plan primaries) (hunknown : ∃ r ∈ primaries, r.decision = some .unknown)
      (hno : tiebreakers.length = 0) :
    Settled plan primaries tiebreakers .unknown "PRIMARY_INSUFFICIENT_EVIDENCE" none
  | agreed (hboth : BothDecided plan primaries) (decision : Option Decision)
      (hagree : ∀ r ∈ primaries, r.decision = decision) (hno : tiebreakers.length = 0) :
    Settled plan primaries tiebreakers ((decision.map Decision.terminal).getD .unknown) "PRIMARY_AGREEMENT" decision
  | disagreed (hboth : BothDecided plan primaries)
      (hdisagree : ¬∀ r ∈ primaries, ∀ s ∈ primaries, r.decision = s.decision) (hno : tiebreakers.length ≠ 1) :
    Settled plan primaries tiebreakers .unknown "PRIMARY_DISAGREEMENT_REQUIRES_TIEBREAK" none
  | tiebreakError (hboth : BothDecided plan primaries)
      (hdisagree : ¬∀ r ∈ primaries, ∀ s ∈ primaries, r.decision = s.decision) (tiebreaker : AdjudicationRecord)
      (hone : tiebreakers = [tiebreaker]) (herror : tiebreaker.recordStatus = .error) :
    Settled plan primaries tiebreakers .error "ADJUDICATION_INFRASTRUCTURE_ERROR" none
  | tiebreakInsufficient (hboth : BothDecided plan primaries)
      (hdisagree : ¬∀ r ∈ primaries, ∀ s ∈ primaries, r.decision = s.decision) (tiebreaker : AdjudicationRecord)
      (hone : tiebreakers = [tiebreaker]) (herror : tiebreaker.recordStatus ≠ .error)
      (hunknown : tiebreaker.decision = some .unknown) :
    Settled plan primaries tiebreakers .unknown "TIEBREAK_INSUFFICIENT_EVIDENCE" none
  | tiebreak (hboth : BothDecided plan primaries)
      (hdisagree : ¬∀ r ∈ primaries, ∀ s ∈ primaries, r.decision = s.decision) (tiebreaker : AdjudicationRecord)
      (hone : tiebreakers = [tiebreaker]) (herror : tiebreaker.recordStatus ≠ .error)
      (hunknown : tiebreaker.decision ≠ some .unknown) :
    Settled plan primaries tiebreakers ((tiebreaker.decision.map Decision.terminal).getD .unknown)
      "PREDECLARED_TIEBREAK" tiebreaker.decision

/-- The records of one resolution are about one attempt, metric and rubric. -/
theorem checkAdjudicated_congr {planned : List TrialIdentity} {plan : AdjudicationPlan} {r s : AdjudicationRecord}
    (h : ∀ f ∈ adjudicationIdentityFields, f.2 r = f.2 s) :
    checkAdjudicated planned plan r = checkAdjudicated planned plan s := by
  simp only [adjudicationIdentityFields, List.forall_mem_cons] at h
  obtain ⟨hstudy, hattempt, halias, hmetric, hversion, hfingerprint, -⟩ := h
  unfold checkAdjudicated
  rw [hstudy, hattempt, halias, hmetric, hversion, hfingerprint]

section Rounds
variable {plan : AdjudicationPlan} {primaries primaries' tiebreakers : List AdjudicationRecord}

theorem BothReported.perm (h : primaries.Perm primaries') (hb : BothReported plan primaries) :
    BothReported plan primaries' where
  noError := by
    simp only [← h.mem_iff]
    exact hb.noError
  two := h.length_eq ▸ hb.two
  planned := by
    intro a ha
    exact (h.map _).mem_iff.mp (hb.planned a ha)

theorem BothDecided.perm (h : primaries.Perm primaries') (hb : BothDecided plan primaries) :
    BothDecided plan primaries' where
  toBothReported := hb.toBothReported.perm h
  noUnknown := by
    simp only [← h.mem_iff]
    exact hb.noUnknown

/-- The order of the primaries does not matter. -/
theorem Settled.perm (h : primaries.Perm primaries') {terminal : Terminal} {reason : PyStr}
    {decision : Option Decision} (hs : Settled plan primaries tiebreakers terminal reason decision) :
    Settled plan primaries' tiebreakers terminal reason decision := by
  have hdis : (¬∀ r ∈ primaries, ∀ s ∈ primaries, r.decision = s.decision) →
      ¬∀ r ∈ primaries', ∀ s ∈ primaries', r.decision = s.decision := by
    simp only [h.mem_iff]
    exact id
  cases hs with
  | primaryError herror hno =>
    simp only [h.mem_iff] at herror
    exact .primaryError herror hno
  | incomplete herror hcount hno =>
    simp only [h.mem_iff] at herror
    exact .incomplete herror (h.length_eq ▸ hcount) hno
  | insufficient hboth hunknown hno =>
    simp only [h.mem_iff] at hunknown
    exact .insufficient (hboth.perm h) hunknown hno
  | agreed hboth _ hagree hno =>
    simp only [h.mem_iff] at hagree
    exact .agreed (hboth.perm h) _ hagree hno
  | disagreed hboth hdisagree hno => exact .disagreed (hboth.perm h) (hdis hdisagree) hno
  | tiebreakError hboth hdisagree t hone herror => exact .tiebreakError (hboth.perm h) (hdis hdisagree) t hone herror
  | tiebreakInsufficient hboth hdisagree t hone herror hunknown =>
    exact .tiebreakInsufficient (hboth.perm h) (hdis hdisagree) t hone herror hunknown
  | tiebreak hboth hdisagree t hone herror hunknown =>
    exact .tiebreak (hboth.perm h) (hdis hdisagree) t hone herror hunknown

theorem resolveDisputed_settled {r : AdjudicationResolution} (hboth : BothDecided plan primaries)
    (hdisagree : ¬∀ r ∈ primaries, ∀ s ∈ primaries, r.decision = s.decision)
    (h : resolveDisputed primaries tiebreakers = .ok r) :
    Settled plan primaries tiebreakers r.terminalStatus r.reason r.decision := by
  unfold resolveDisputed at h
  dsimp only at h
  split at h
  · rename_i tiebreaker
    split_ifs at h with herror hunknown
    · cases h
      exact .tiebreakError hboth hdisagree tiebreaker rfl herror
    · cases h
      exact .tiebreakInsufficient hboth hdisagree tiebreaker rfl herror hunknown
    · cases h
      exact .tiebreak hboth hdisagree tiebreaker rfl herror hunknown
  · rename_i hmany
    cases h
    apply Settled.disagreed hboth hdisagree
    intro hone
    obtain ⟨t, ht⟩ := List.length_eq_one_iff.mp hone
    exact hmany t ht

theorem resolveReported_settled {r : AdjudicationResolution} (hboth : BothReported plan primaries)
    (h : resolveReported primaries tiebreakers = .ok r) :
    Settled plan primaries tiebreakers r.terminalStatus r.reason r.decision := by
  unfold resolveReported at h
  by_cases hunknown : ∃ r ∈ primaries, r.decision = some .unknown
  · simp only [if_pos hunknown, bind_eq_ok_iff, exists_unit_iff, check_eq_ok_iff, pure_eq_ok_iff] at h
    obtain ⟨hno, rfl⟩ := h
    exact .insufficient hboth hunknown hno
  rw [if_neg hunknown] at h
  by_cases hagree : ∀ r ∈ primaries, ∀ s ∈ primaries, r.decision = s.decision
  · simp only [if_pos hagree, bind_eq_ok_iff, exists_unit_iff, check_eq_ok_iff, pure_eq_ok_iff] at h
    obtain ⟨hno, rfl⟩ := h
    apply Settled.agreed ⟨hboth, hunknown⟩ _ _ hno
    intro r hr
    cases primaries with
    | nil => cases hr
    | cons first rest => exact hagree r hr first List.mem_cons_self
  · rw [if_neg hagree] at h
    exact resolveDisputed_settled ⟨hboth, hunknown⟩ hagree h

/-- The rounds settle what they return. -/
theorem resolveRounds_settled {r : AdjudicationResolution} (h : resolveRounds plan primaries tiebreakers = .ok r) :
    Settled plan primaries tiebreakers r.terminalStatus r.reason r.decision := by
  unfold resolveRounds at h
  by_cases herror : ∃ r ∈ primaries, r.recordStatus = .error
  · simp only [if_pos herror, bind_eq_ok_iff, exists_unit_iff, check_eq_ok_iff, pure_eq_ok_iff] at h
    obtain ⟨hno, rfl⟩ := h
    exact .primaryError herror hno
  rw [if_neg herror] at h
  by_cases hcount : primaries.length = 2
  · rw [if_neg (not_not.mpr hcount)] at h
    simp only [bind_eq_ok_iff, exists_unit_iff, check_eq_ok_iff] at h
    exact resolveReported_settled ⟨herror, hcount, h.1⟩ h.2
  · simp only [if_pos hcount, bind_eq_ok_iff, exists_unit_iff, check_eq_ok_iff, pure_eq_ok_iff] at h
    obtain ⟨hno, rfl⟩ := h
    exact .incomplete herror hcount hno

/-- What can be settled is returned. -/
theorem Settled.returned {terminal : Terminal} {reason : PyStr} {decision : Option Decision}
    (h : Settled plan primaries tiebreakers terminal reason decision) :
    resolveRounds plan primaries tiebreakers =
      .ok (adjudicationResolutionResult terminal reason decision primaries tiebreakers) := by
  have hboth : BothReported plan primaries → resolveRounds plan primaries tiebreakers =
      resolveReported primaries tiebreakers := by
    intro hb
    unfold resolveRounds
    rw [if_neg hb.noError, if_neg (not_not.mpr hb.two), check_of hb.planned]
    rfl
  have hdisputed : BothDecided plan primaries → (¬∀ r ∈ primaries, ∀ s ∈ primaries, r.decision = s.decision) →
      resolveRounds plan primaries tiebreakers = resolveDisputed primaries tiebreakers := by
    intro hb hdisagree
    rw [hboth hb.toBothReported, resolveReported, if_neg hb.noUnknown, if_neg hdisagree]
  cases h with
  | primaryError herror hno =>
    unfold resolveRounds
    rw [if_pos herror, check_of hno]
    rfl
  | incomplete herror hcount hno =>
    unfold resolveRounds
    rw [if_neg herror, if_pos hcount, check_of hno]
    rfl
  | insufficient hreported hunknown hno =>
    rw [hboth hreported, resolveReported, if_pos hunknown, check_of hno]
    rfl
  | agreed hdecided _ hagree hno =>
    have hsame : ∀ r ∈ primaries, ∀ s ∈ primaries, r.decision = s.decision :=
      fun r hr s hs => (hagree r hr).trans (hagree s hs).symm
    have hfirst : primaries.head?.bind AdjudicationRecord.decision = decision := by
      cases primaries with
      | nil => cases hdecided.two
      | cons first rest => exact hagree first List.mem_cons_self
    rw [hboth hdecided.toBothReported, resolveReported, if_neg hdecided.noUnknown, if_pos hsame, check_of hno,
      hfirst]
    rfl
  | disagreed hdecided hdisagree hno =>
    rw [hdisputed hdecided hdisagree]
    unfold resolveDisputed
    split
    · exact absurd rfl hno
    · rfl
  | tiebreakError hdecided hdisagree t hone herror =>
    rw [hdisputed hdecided hdisagree, hone, resolveDisputed, if_pos herror]
    rfl
  | tiebreakInsufficient hdecided hdisagree t hone herror hunknown =>
    rw [hdisputed hdecided hdisagree, hone, resolveDisputed, if_neg herror, if_pos hunknown]
    rfl
  | tiebreak hdecided hdisagree t hone herror hunknown =>
    rw [hdisputed hdecided hdisagree, hone, resolveDisputed, if_neg herror, if_neg hunknown]
    rfl

/-- A verdict rests on two decided primaries. -/
theorem Settled.decided {terminal : Terminal} {reason : PyStr} {decision : Option Decision}
    (hs : Settled plan primaries tiebreakers terminal reason decision)
    (hfinal : terminal = .pass ∨ terminal = .fail) : BothDecided plan primaries := by
  cases hs with
  | primaryError | incomplete | insufficient => simp at hfinal
  | agreed hboth | disagreed hboth | tiebreakError hboth | tiebreakInsufficient hboth | tiebreak hboth => exact hboth

/-- More records do not change a verdict. -/
theorem Settled.final {tiebreakers' : List AdjudicationRecord} {terminal terminal' : Terminal}
    {reason reason' : PyStr} {decision decision' : Option Decision}
    (hs : Settled plan primaries tiebreakers terminal reason decision)
    (hs' : Settled plan primaries' tiebreakers' terminal' reason' decision')
    (hprimaries : primaries.Perm primaries') (htiebreakers : tiebreakers ⊆ tiebreakers')
    (hmost : tiebreakers'.length ≤ 1) (hfinal : terminal = .pass ∨ terminal = .fail) : terminal' = terminal ∧ decision' = decision := by
  have hdecided := (hs.decided hfinal).perm hprimaries
  cases hs with
  | primaryError | incomplete | insufficient | disagreed | tiebreakError | tiebreakInsufficient => simp at hfinal
  | agreed _ _ hagree _ =>
    simp only [hprimaries.mem_iff] at hagree
    have hsame : ∀ r ∈ primaries', ∀ s ∈ primaries', r.decision = s.decision :=
      fun r hr s hs => (hagree r hr).trans (hagree s hs).symm
    cases hs' with
    | primaryError herror => exact absurd herror hdecided.noError
    | incomplete _ hcount => exact absurd hdecided.two hcount
    | insufficient _ hunknown => exact absurd hunknown hdecided.noUnknown
    | agreed _ _ hagree' =>
      obtain ⟨first, hfirst⟩ := List.exists_mem_of_length_pos (hdecided.two ▸ Nat.two_pos)
      have hd := (hagree' first hfirst).symm.trans (hagree first hfirst)
      exact ⟨by rw [hd], hd⟩
    | disagreed _ hdisagree | tiebreakError _ hdisagree | tiebreakInsufficient _ hdisagree | tiebreak _ hdisagree =>
      exact absurd hsame hdisagree
  | tiebreak _ hdisagree t hone herror hunknown =>
    simp only [hprimaries.mem_iff] at hdisagree
    have ht : t ∈ tiebreakers' := htiebreakers (hone ▸ List.mem_singleton_self t)
    cases hs' with
    | primaryError herror => exact absurd herror hdecided.noError
    | incomplete _ hcount => exact absurd hdecided.two hcount
    | insufficient _ hunknown => exact absurd hunknown hdecided.noUnknown
    | agreed _ _ hagree => exact absurd (fun r hr s hs => (hagree r hr).trans (hagree s hs).symm) hdisagree
    | disagreed _ _ hno => exact absurd (le_antisymm hmost (List.length_pos_of_mem ht)) hno
    | tiebreakError _ _ t' hone' herror' =>
      rw [hone', List.mem_singleton] at ht
      exact absurd (ht ▸ herror') herror
    | tiebreakInsufficient _ _ t' hone' _ hunknown' =>
      rw [hone', List.mem_singleton] at ht
      exact absurd (ht ▸ hunknown') hunknown
    | tiebreak _ _ t' hone' =>
      rw [hone', List.mem_singleton] at ht
      rw [ht]
      exact ⟨rfl, rfl⟩

end Rounds

section Resolution
variable [PyRuntime] {m : BenchmarkManifest} {expected : ArtifactFingerprints}
  {records records' : List AdjudicationRecord}

/-- What acceptance establishes of some records, in any order. -/
structure Adjudicated (m : BenchmarkManifest) (plan : AdjudicationPlan) (records : List AdjudicationRecord) :
    Prop where
  valid : ∀ r ∈ records, validateAdjudicationRecord r = .ok ()
  identity : ∀ f ∈ adjudicationIdentityFields, ∀ r ∈ records, ∀ s ∈ records, f.2 r = f.2 s
  planned : ∀ r ∈ records, checkAdjudicated m.plannedAttempts plan r = .ok ()
  distinct : (records.map AdjudicationRecord.adjudicatorId).Nodup
  primaries : ∀ r ∈ primariesOf records, r.assignment ∈ plan.primaryAdjudicators
  oneTiebreak : (tiebreakersOf records).length ≤ 1
  tiebreak : ∀ r ∈ tiebreakersOf records, r.assignment = plan.tiebreakAdjudicator
  twoPrimaries : (primariesOf records).length ≤ 2

theorem Adjudicated.perm {plan : AdjudicationPlan} (h : records.Perm records') (ha : Adjudicated m plan records) :
    Adjudicated m plan records' where
  valid := fun r hr => ha.valid r (h.mem_iff.mpr hr)
  identity := fun f hf r hr s hs => ha.identity f hf r (h.mem_iff.mpr hr) s (h.mem_iff.mpr hs)
  planned := fun r hr => ha.planned r (h.mem_iff.mpr hr)
  distinct := (h.map _).nodup_iff.mp ha.distinct
  primaries := fun r hr => ha.primaries r ((h.filter _).mem_iff.mpr hr)
  oneTiebreak := (h.filter _).length_eq ▸ ha.oneTiebreak
  tiebreak := fun r hr => ha.tiebreak r ((h.filter _).mem_iff.mpr hr)
  twoPrimaries := (h.filter _).length_eq ▸ ha.twoPrimaries

/-- A non-empty list resolves exactly when it is accepted and its rounds do. -/
theorem resolveAdjudication_iff (hne : records ≠ []) {r : AdjudicationResolution} :
    resolveAdjudication m expected records = .ok r ↔ m.Frozen expected ∧
      ∃ plan, m.adjudicationPlan = some plan ∧ Adjudicated m plan records ∧
        resolveRounds plan (primariesOf records) (tiebreakersOf records) = .ok r := by
  obtain ⟨first, rest, rfl⟩ := List.exists_cons_of_ne_nil hne
  unfold resolveAdjudication checkAdjudicators
  simp only [bind_eq_ok_iff, exists_unit_iff, check_eq_ok_iff, forM_eq_ok_iff]
  constructor
  · rintro ⟨hvalidated, hstate, plan, hplan, hvalid, hidentity, hplanned,
      ⟨hdistinct, hprimaries, hone, htiebreak, htwo⟩, hrounds⟩
    have hplan' : m.adjudicationPlan = some plan := by
      cases hm : m.adjudicationPlan with
      | none => simp [hm, require] at hplan
      | some p => simpa [hm, require] using hplan
    refine ⟨⟨hstate, hvalidated⟩, plan, hplan', ?_, hrounds⟩
    exact {
      valid := hvalid
      identity := hidentity
      planned := by
        intro r hr
        rw [checkAdjudicated_congr fun f hf => hidentity f hf r hr first List.mem_cons_self]
        exact hplanned
      distinct := hdistinct
      primaries := hprimaries
      oneTiebreak := hone
      tiebreak := by
        intro r hr
        obtain ⟨t, ht⟩ := List.length_eq_one_iff.mp (le_antisymm hone (List.length_pos_of_mem hr))
        apply htiebreak
        rw [tiebreakersOf, ht, List.mem_singleton] at hr
        rw [ht, hr]
        rfl
      twoPrimaries := htwo }
  · rintro ⟨⟨hstate, hvalidated⟩, plan, hplan, ha, hrounds⟩
    refine ⟨hvalidated, hstate, plan, by simp [hplan, require], ha.valid, ha.identity,
      ha.planned first List.mem_cons_self, ⟨ha.distinct, ha.primaries, ha.oneTiebreak, ?_, ha.twoPrimaries⟩, hrounds⟩
    intro r hr
    exact ha.tiebreak r (List.mem_of_mem_head? hr)

/-- A completed record with complete evidence for its decision. -/
structure AdjudicationRecord.Decides (r : AdjudicationRecord) (d : Decision) : Prop where
  completed : r.recordStatus = .completed
  evidence : r.evidenceComplete = true
  decision : r.decision = some d

/-- Both planned primaries decide `d`, or they disagree and the planned tiebreaker decides `d`. -/
structure Upheld (plan : AdjudicationPlan) (records : List AdjudicationRecord) (d : Decision) : Prop where
  verdict : d = .pass ∨ d = .fail
  rounds : ∃ p q dp dq, primariesOf records = [p, q] ∧
    [p.assignment, q.assignment].Perm plan.primaryAdjudicators ∧
    (p.Decides dp ∧ (dp = .pass ∨ dp = .fail)) ∧ (q.Decides dq ∧ (dq = .pass ∨ dq = .fail)) ∧
    ((dp = d ∧ dq = d ∧ tiebreakersOf records = []) ∨
      (dp ≠ dq ∧ ∃ t, tiebreakersOf records = [t] ∧ t.assignment = plan.tiebreakAdjudicator ∧
        t.adjudicatorId ∉ [p.adjudicatorId, q.adjudicatorId] ∧ t.Decides d))

theorem validateAdjudicationRecord_decides {r : AdjudicationRecord} (h : validateAdjudicationRecord r = .ok ())
    (herror : r.recordStatus ≠ .error) (hunknown : r.decision ≠ some .unknown) :
    ∃ d, r.Decides d ∧ (d = .pass ∨ d = .fail) := by
  unfold validateAdjudicationRecord at h
  simp only [bind_eq_ok_iff, exists_unit_iff] at h
  obtain ⟨-, -, -, -, -, hdecision, -⟩ := h
  have hcompleted : r.recordStatus = .completed := by
    cases hs : r.recordStatus with
    | completed => rfl
    | error => exact absurd hs herror
  unfold checkDecision at hdecision
  simp only [hcompleted, bind_eq_ok_iff, exists_unit_iff, check_eq_ok_iff] at hdecision
  obtain ⟨hsome, hevidence, -⟩ := hdecision
  obtain ⟨d, hd⟩ := Option.ne_none_iff_exists'.mp hsome
  cases d with
  | pass => exact ⟨.pass, ⟨hcompleted, hevidence (.inl hd), hd⟩, .inl rfl⟩
  | fail => exact ⟨.fail, ⟨hcompleted, hevidence (.inr hd), hd⟩, .inr rfl⟩
  | unknown => exact absurd hd hunknown

/-- The plan of a frozen manifest names two primaries. -/
theorem BenchmarkManifest.Frozen.primaryCount (h : m.Frozen expected) {plan : AdjudicationPlan}
    (hplan : m.adjudicationPlan = some plan) : plan.primaryAdjudicators.length = 2 := by
  have hvalidated := h.validated
  unfold validateBenchmarkManifest at hvalidated
  simp only [bind_eq_ok_iff, exists_unit_iff, forM_eq_ok_iff] at hvalidated
  obtain ⟨-, -, -, -, -, hplans, -⟩ := hvalidated
  have hvalid := hplans plan (by simp [hplan])
  unfold validateAdjudicationPlan at hvalid
  simp only [bind_eq_ok_iff, exists_unit_iff, check_eq_ok_iff] at hvalid
  obtain ⟨-, -, -, -, -, htwo, -⟩ := hvalid
  exact htwo

theorem Adjudicated.assignments_perm {plan : AdjudicationPlan} (ha : Adjudicated m plan records)
    (htwo : plan.primaryAdjudicators.length = 2) {p q : AdjudicationRecord} (hpq : primariesOf records = [p, q]) :
    [p.assignment, q.assignment].Perm plan.primaryAdjudicators := by
  have hids : ((primariesOf records).map AdjudicationRecord.adjudicatorId).Nodup :=
    ha.distinct.sublist (List.filter_sublist.map _)
  have hnodup : [p.assignment, q.assignment].Nodup := by
    rw [hpq] at hids
    simp only [List.map_cons, List.map_nil, List.nodup_cons, List.mem_singleton, List.not_mem_nil,
      not_false_eq_true, List.nodup_nil, and_true] at hids ⊢
    exact fun h => hids (congrArg Assignment.adjudicatorId h)
  have hsub : [p.assignment, q.assignment] ⊆ plan.primaryAdjudicators := by
    intro a hmem
    have hall := ha.primaries
    rw [hpq] at hall
    simp only [List.mem_cons, List.not_mem_nil, or_false] at hmem
    rcases hmem with rfl | rfl
    · exact hall p (by simp)
    · exact hall q (by simp)
  exact (hnodup.subperm hsub).perm_of_length_le (by simp [htwo])

/-- The tiebreaker is none of the primaries. -/
theorem Adjudicated.tiebreak_distinct {plan : AdjudicationPlan} (ha : Adjudicated m plan records)
    {t p : AdjudicationRecord} (ht : t ∈ tiebreakersOf records) (hp : p ∈ primariesOf records) :
    t.adjudicatorId ≠ p.adjudicatorId := by
  obtain ⟨htm, htrole⟩ := List.mem_filter.mp ht
  obtain ⟨hpm, hprole⟩ := List.mem_filter.mp hp
  intro hid
  have hsame := List.inj_on_of_nodup_map ha.distinct htm hpm hid
  rw [hsame] at htrole
  have hrole := (of_decide_eq_true htrole).symm.trans (of_decide_eq_true hprole)
  cases hrole

/-- A verdict is settled by the rounds of accepted records. -/
theorem resolveAdjudication_settled {r : AdjudicationResolution}
    (h : resolveAdjudication m expected records = .ok r)
    (hfinal : r.terminalStatus = .pass ∨ r.terminalStatus = .fail) :
    m.Frozen expected ∧ ∃ plan, m.adjudicationPlan = some plan ∧ Adjudicated m plan records ∧
      Settled plan (primariesOf records) (tiebreakersOf records) r.terminalStatus r.reason r.decision := by
  by_cases hne : records = []
  · subst hne
    unfold resolveAdjudication at h
    simp only [bind_eq_ok_iff, exists_unit_iff, pure_eq_ok_iff] at h
    obtain ⟨-, -, plan, -, -, rfl⟩ := h
    simp [adjudicationResolutionResult] at hfinal
  · obtain ⟨hfrozen, plan, hplan, ha, hrounds⟩ := (resolveAdjudication_iff hne).mp h
    exact ⟨hfrozen, plan, hplan, ha, resolveRounds_settled hrounds⟩

theorem resolveAdjudication_upheld {r : AdjudicationResolution}
    (h : resolveAdjudication m expected records = .ok r)
    (hfinal : r.terminalStatus = .pass ∨ r.terminalStatus = .fail) :
    ∃ plan d, m.adjudicationPlan = some plan ∧ r.decision = some d ∧ r.terminalStatus = d.terminal ∧
      Upheld plan records d := by
  obtain ⟨hfrozen, plan, hplan, ha, hsettled⟩ := resolveAdjudication_settled h hfinal
  have hdecided := hsettled.decided hfinal
  obtain ⟨p, q, hpq⟩ := List.length_eq_two.mp hdecided.two
  have hmem : ∀ r ∈ primariesOf records, r ∈ records := fun r hr => (List.mem_filter.mp hr).1
  have hdecides : ∀ r ∈ primariesOf records, ∃ d, r.Decides d ∧ (d = .pass ∨ d = .fail) := by
    intro r hr
    apply validateAdjudicationRecord_decides (ha.valid r (hmem r hr))
    · exact fun herror => hdecided.noError ⟨r, hr, herror⟩
    · exact fun hunknown => hdecided.noUnknown ⟨r, hr, hunknown⟩
  have hp : p ∈ primariesOf records := by simp [hpq]
  have hq : q ∈ primariesOf records := by simp [hpq]
  obtain ⟨dp, hdp, hvp⟩ := hdecides p hp
  obtain ⟨dq, hdq, hvq⟩ := hdecides q hq
  have hassigned := ha.assignments_perm (hfrozen.primaryCount hplan) hpq
  generalize r.terminalStatus = terminal at hsettled hfinal ⊢
  generalize r.reason = reason at hsettled
  generalize r.decision = decision at hsettled ⊢
  cases hsettled with
  | primaryError | incomplete | insufficient | disagreed | tiebreakError | tiebreakInsufficient => simp at hfinal
  | agreed _ _ hagree hno =>
    have hd : decision = some dp := (hagree p hp).symm.trans hdp.decision
    have hdd : dq = dp := Option.some.inj (hdq.decision.symm.trans ((hagree q hq).trans hd))
    rw [hd]
    exact ⟨plan, dp, hplan, rfl, rfl, hvp, p, q, dp, dq, hpq, hassigned, ⟨hdp, hvp⟩, ⟨hdq, hvq⟩,
      .inl ⟨rfl, hdd, List.length_eq_zero_iff.mp hno⟩⟩
  | tiebreak _ hdisagree t hone herror hunknown =>
    have ht : t ∈ tiebreakersOf records := by simp [hone]
    obtain ⟨d, hd, hv⟩ := validateAdjudicationRecord_decides (ha.valid t (List.mem_filter.mp ht).1) herror hunknown
    have hne : dp ≠ dq := by
      rintro rfl
      apply hdisagree
      intro r hr s hs
      rw [hpq, List.mem_cons, List.mem_singleton] at hr hs
      rcases hr with rfl | rfl <;> rcases hs with rfl | rfl <;> simp [hdp.decision, hdq.decision]
    have hdistinct : t.adjudicatorId ∉ [p.adjudicatorId, q.adjudicatorId] := by
      simp [ha.tiebreak_distinct ht hp, ha.tiebreak_distinct ht hq]
    rw [hd.decision]
    exact ⟨plan, d, hplan, rfl, rfl, hv, p, q, dp, dq, hpq, hassigned, ⟨hdp, hvp⟩, ⟨hdq, hvq⟩,
      .inr ⟨hne, t, hone, ha.tiebreak t ht, hdistinct, hd⟩⟩

/-- The same records in another order settle the same. -/
theorem resolveAdjudication_perm (hperm : records.Perm records') {r : AdjudicationResolution}
    (h : resolveAdjudication m expected records = .ok r) :
    ∃ r', resolveAdjudication m expected records' = .ok r' ∧ r'.terminalStatus = r.terminalStatus ∧
      r'.reason = r.reason ∧ r'.decision = r.decision := by
  by_cases hne : records = []
  · rw [hne] at hperm h
    rw [hperm.nil_eq.symm]
    exact ⟨r, h, rfl, rfl, rfl⟩
  · have hne' : records' ≠ [] := fun he => hne (he ▸ hperm).eq_nil
    obtain ⟨hfrozen, plan, hplan, ha, hrounds⟩ := (resolveAdjudication_iff hne).mp h
    have htiebreakers : tiebreakersOf records' = tiebreakersOf records := by
      have hp : (tiebreakersOf records).Perm (tiebreakersOf records') := hperm.filter _
      have hone := ha.oneTiebreak
      generalize tiebreakersOf records = ts at hp hone
      match ts with
      | [] => exact hp.nil_eq.symm
      | [t] => exact List.perm_singleton.mp hp.symm
      | _ :: _ :: _ => simp at hone
    have hreturned := ((resolveRounds_settled hrounds).perm (hperm.filter _)).returned
    rw [← htiebreakers] at hreturned
    exact ⟨_, (resolveAdjudication_iff hne').mpr ⟨hfrozen, plan, hplan, ha.perm hperm, hreturned⟩, rfl, rfl, rfl⟩

/-- Every way to extend records with a verdict settles that verdict. -/
theorem resolveAdjudication_final (hsub : records.Subperm records') {r r' : AdjudicationResolution}
    (h : resolveAdjudication m expected records = .ok r) (h' : resolveAdjudication m expected records' = .ok r')
    (hfinal : r.terminalStatus = .pass ∨ r.terminalStatus = .fail) :
    r'.terminalStatus = r.terminalStatus ∧ r'.decision = r.decision := by
  obtain ⟨-, plan, hplan, -, hsettled⟩ := resolveAdjudication_settled h hfinal
  have hne' : records' ≠ [] := by
    rintro rfl
    have hnil : records = [] := List.subperm_nil.mp hsub
    rw [hnil] at hsettled
    cases (hsettled.decided hfinal).two
  obtain ⟨-, plan', hplan', ha', hrounds'⟩ := (resolveAdjudication_iff hne').mp h'
  rw [hplan] at hplan'
  cases hplan'
  have hprimaries : (primariesOf records).Perm (primariesOf records') := by
    apply (hsub.filter _).perm_of_length_le
    exact (hsettled.decided hfinal).two ▸ ha'.twoPrimaries
  exact hsettled.final (resolveRounds_settled hrounds') hprimaries (hsub.filter _).subset ha'.oneTiebreak hfinal

/-- Once a primary reports insufficient evidence there is no verdict. -/
theorem resolveAdjudication_unknown (hsub : records.Subperm records') {u : AdjudicationRecord} (hu : u ∈ records)
    (hrole : u.roundRole = .primary) (hunknown : u.decision = some .unknown) {r' : AdjudicationResolution}
    (h' : resolveAdjudication m expected records' = .ok r') :
    r'.terminalStatus ≠ .pass ∧ r'.terminalStatus ≠ .fail := by
  have hnot : ¬(r'.terminalStatus = .pass ∨ r'.terminalStatus = .fail) := by
    intro hfinal
    obtain ⟨-, plan, -, -, hsettled⟩ := resolveAdjudication_settled h' hfinal
    have hmem : u ∈ primariesOf records' := List.mem_filter.mpr ⟨hsub.subset hu, by simp [hrole]⟩
    exact (hsettled.decided hfinal).noUnknown ⟨u, hmem, hunknown⟩
  exact not_or.mp hnot

/-- Adjudication is order-free and final: the order of the records is irrelevant, a verdict is upheld by
the planned adjudicators, stands under more records, and is out of reach of an undecided primary. -/
theorem adjudication_is_final (m : BenchmarkManifest) (expected : ArtifactFingerprints) :
    (∀ records records' r, records.Perm records' → resolveAdjudication m expected records = .ok r →
      ∃ r', resolveAdjudication m expected records' = .ok r' ∧ r'.terminalStatus = r.terminalStatus ∧
        r'.reason = r.reason ∧ r'.decision = r.decision) ∧
    (∀ records r, resolveAdjudication m expected records = .ok r →
      (r.terminalStatus = .pass ∨ r.terminalStatus = .fail) →
      ∃ plan d, m.adjudicationPlan = some plan ∧ r.decision = some d ∧ r.terminalStatus = d.terminal ∧
        Upheld plan records d) ∧
    (∀ records records' r r', records.Subperm records' → resolveAdjudication m expected records = .ok r →
      resolveAdjudication m expected records' = .ok r' →
      (r.terminalStatus = .pass ∨ r.terminalStatus = .fail) →
      r'.terminalStatus = r.terminalStatus ∧ r'.decision = r.decision) ∧
    ∀ (records records' : List AdjudicationRecord) r', records.Subperm records' →
      (∃ u ∈ records, u.roundRole = .primary ∧ u.decision = some .unknown) →
      resolveAdjudication m expected records' = .ok r' →
      r'.terminalStatus ≠ .pass ∧ r'.terminalStatus ≠ .fail := by
  refine ⟨?_, ?_, ?_, ?_⟩
  · intro records records' r hperm h
    exact resolveAdjudication_perm hperm h
  · intro records r h hfinal
    exact resolveAdjudication_upheld h hfinal
  · intro records records' r r' hsub h h' hfinal
    exact resolveAdjudication_final hsub h h' hfinal
  · rintro records records' r' hsub ⟨u, hu, hrole, hunknown⟩ h'
    exact resolveAdjudication_unknown hsub hu hrole hunknown h'

end Resolution

end EvaluationLab.BM0
