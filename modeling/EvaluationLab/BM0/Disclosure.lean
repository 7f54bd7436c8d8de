import EvaluationLab.BM0.Agreement
import EvaluationLab.BM0.VerdictRecord
import EvaluationLab.BM0.Completeness

/-! What a metric discloses of the recorded outcomes before its scope is complete. -/
namespace EvaluationLab.BM0
open Python Effect QA0

/-- The two lists record the same attempts. -/
def SameCoverage (observations observations' : List Observation) : Prop :=
  ∀ id, id ∈ observations.map Observation.attemptId ↔ id ∈ observations'.map Observation.attemptId

section Coverage
variable {g g' : Grid}

theorem covers_congr {observations observations' : List Observation} (h : SameCoverage observations observations')
    (attempts : List TrialIdentity) : Covers observations attempts ↔ Covers observations' attempts := by
  have hids : ∀ t : TrialIdentity, (∃ o ∈ observations, o.attemptId = t.attemptId) ↔
      ∃ o ∈ observations', o.attemptId = t.attemptId := by
    intro t
    have ht := h t.attemptId
    rwa [List.mem_map, List.mem_map] at ht
  unfold Covers
  simp only [hids]

theorem Grid.isObserved_congr (h : SameCoverage g.observed g'.observed) : g.isObserved = g'.isObserved := by
  funext t
  rw [Bool.eq_iff_iff, Grid.isObserved_iff, Grid.isObserved_iff]
  have ht := h t.attemptId
  rwa [List.mem_map, List.mem_map] at ht

theorem Grid.missingOf_congr (h : SameCoverage g.observed g'.observed) (attempts : List TrialIdentity) :
    g.missingOf attempts = g'.missingOf attempts := by
  unfold Grid.missingOf
  rw [Grid.isObserved_congr h]

theorem Grid.rowCount_congr (h : SameCoverage g.observed g'.observed) (attempts : List TrialIdentity) :
    (g.rowsOf attempts).length = (g'.rowsOf attempts).length := by
  rw [g.length_rowsOf, g'.length_rowsOf, Grid.isObserved_congr h]

end Coverage

theorem tabulate_congr {κ ρ : Type} {f f' : κ → Except PyExc ρ} {keys : List κ} (h : ∀ x ∈ keys, f x = f' x) :
    tabulate f keys = tabulate f' keys := by
  unfold tabulate
  apply mapM_congr
  intro x hx
  rw [h x hx]

/-- Two tabulations with one result agree on every key. -/
theorem tabulate_agree {κ ρ : Type} {f f' : κ → Except PyExc ρ} {keys : List κ} {rows : List (κ × ρ)}
    (h : tabulate f keys = .ok rows) (h' : tabulate f' keys = .ok rows) :
    ∀ x ∈ keys, ∃ r, f x = .ok r ∧ f' x = .ok r := by
  intro x hx
  obtain ⟨e, hrow, hrow'⟩ := mapM_agree h h' x hx
  obtain ⟨-, hf⟩ := tabulate_row.mp hrow
  obtain ⟨-, hf'⟩ := tabulate_row.mp hrow'
  exact ⟨e.2, hf, hf'⟩

theorem Grid.controlRate_ok (g : Grid) (controls : List TrialIdentity) (modelId : PyStr) :
    ∃ r, g.controlRate controls modelId = .ok r := by
  unfold Grid.controlRate
  simp only [bind_eq_ok_iff, pure_eq_ok_iff]
  obtain ⟨i, hi⟩ := wilsonUnless_ok (g.missingOf (controls.filter fun t => t.modelSubjectId = modelId) ≠ [])
    "MISSING_PLANNED_CONTROL_OBSERVATIONS" (g.rowsOf (controls.filter fun t => t.modelSubjectId = modelId))
  exact ⟨_, i, hi, rfl⟩

/-- What the controls of a model report once they are recorded. -/
theorem Grid.controlRate_reports {g : Grid} {controls : List TrialIdentity} {modelId : PyStr} {r : ControlRate}
    (h : g.controlRate controls modelId = .ok r)
    (hcovers : Covers g.observed (controls.filter fun t => t.modelSubjectId = modelId)) :
    r.falsePositiveCount = some (failureValues (g.rowsOf (controls.filter fun t => t.modelSubjectId = modelId))).sum := by
  have hmissing := Grid.missingOf_eq_nil.mpr hcovers
  unfold Grid.controlRate at h
  simp only [bind_eq_ok_iff, pure_eq_ok_iff] at h
  obtain ⟨interval, -, rfl⟩ := h
  simp [hmissing]

section Agree
variable {m : BenchmarkManifest} {g g' : Grid}

/-- Equal results report the same of every case. -/
theorem Grid.caseFailure_agree (heq : g.caseFailureProbability m = g'.caseFailureProbability m)
    (hplan : g.planned = g'.planned) :
    ∀ t ∈ activeAttempts m g.planned, ∃ c,
      g.caseFailure (activeAttempts m g.planned) t.caseKey = .ok c ∧
        g'.caseFailure (activeAttempts m g.planned) t.caseKey = .ok c := by
  intro t ht
  have hcases : ∀ x ∈ modelSubjects (activeAttempts m g.planned),
      ∃ r, g.modelCases (activeAttempts m g.planned) x = .ok r := fun x _ => g.modelCases_ok _ x
  obtain ⟨models, hmodels⟩ := tabulate_ok hcases
  have hmodels' : tabulate (g'.modelCases (activeAttempts m g.planned)) (modelSubjects (activeAttempts m g.planned)) =
      .ok models := by
    unfold Grid.caseFailureProbability at heq
    rw [← hplan] at heq
    dsimp only at heq
    rw [hmodels] at heq
    obtain ⟨models', hmodels', hsame⟩ := bind_eq_ok_iff.mp heq.symm
    rw [pure_eq_ok_iff] at hsame
    have hlist : models' = models := congrArg CaseFailureProbability.byModel hsame
    rw [hmodels', hlist]
  obtain ⟨r, hr, hr'⟩ := tabulate_agree hmodels hmodels' t.modelSubjectId (mem_modelSubjects.mpr ⟨t, ht, rfl⟩)
  unfold Grid.modelCases at hr hr'
  simp only [bind_eq_ok_iff, pure_eq_ok_iff] at hr hr'
  obtain ⟨cases, hmap, rfl⟩ := hr
  obtain ⟨cases', hmap', hsame⟩ := hr'
  have hlist : cases' = cases := congrArg ModelCases.cases hsame
  rw [hlist] at hmap'
  exact mapM_agree hmap hmap' t.caseKey
    (List.mem_filter.mpr ⟨mem_caseKeys.mpr ⟨t, ht, rfl⟩, by simp [TrialIdentity.caseKey]⟩)

/-- Equal results report the same of every model's controls. -/
theorem Grid.controlRate_agree {controls : List TrialIdentity}
    (heq : g.controlFalsePositiveRate m = g'.controlFalsePositiveRate m) (hplan : g.planned = g'.planned)
    (hcontrols : controls = (activeAttempts m g.planned).filter fun t => t.corpusPoolId = .control) :
    ∀ t ∈ controls, ∃ r, g.controlRate controls t.modelSubjectId = .ok r ∧
      g'.controlRate controls t.modelSubjectId = .ok r := by
  intro t ht
  have hrates : ∀ x ∈ modelSubjects controls, ∃ r, g.controlRate controls x = .ok r := fun x _ => g.controlRate_ok _ x
  obtain ⟨models, hmodels⟩ := tabulate_ok hrates
  have hmodels' : tabulate (g'.controlRate controls) (modelSubjects controls) = .ok models := by
    unfold Grid.controlFalsePositiveRate at heq
    rw [← hplan, ← hcontrols] at heq
    dsimp only at heq
    rw [hmodels] at heq
    obtain ⟨models', hmodels', hsame⟩ := bind_eq_ok_iff.mp heq.symm
    rw [pure_eq_ok_iff] at hsame
    have hlist : models' = models := congrArg ControlFalsePositiveRate.byModel hsame
    rw [hmodels', hlist]
  exact tabulate_agree hmodels hmodels' t.modelSubjectId (mem_modelSubjects.mpr ⟨t, ht, rfl⟩)

end Agree

section Suppressed
variable {g g' : Grid} {relevant : List TrialIdentity} (hsame : SameCoverage g.observed g'.observed)
include hsame

/-- A case with a missing attempt reports no outcome. -/
theorem Grid.caseFailure_suppressed {key : CaseKey}
    (hmissing : ¬Covers g.observed (relevant.filter fun t => t.caseKey = key)) :
    g.caseFailure relevant key = g'.caseFailure relevant key := by
  have hne : g.missingOf (relevant.filter fun t => t.caseKey = key) ≠ [] :=
    fun h => hmissing (Grid.missingOf_eq_nil.mp h)
  have hne' := Grid.missingOf_congr hsame _ ▸ hne
  unfold Grid.caseFailure
  simp only [hne, hne', wilsonUnless, if_true, if_false, ne_eq, not_false_eq_true, Grid.rowCount_congr hsame,
    reduceCtorEq]

theorem Grid.modelCases_suppressed
    (hmissing : ∀ t ∈ relevant, ¬Covers g.observed (relevant.filter fun u => u.caseKey = t.caseKey)) (modelId : PyStr) :
    g.modelCases relevant modelId = g'.modelCases relevant modelId := by
  have hcases : ∀ k ∈ (caseKeys relevant).filter (fun k => k.modelSubjectId = modelId),
      g.caseFailure relevant k = g'.caseFailure relevant k := by
    intro k hk
    obtain ⟨t, ht, rfl⟩ := mem_caseKeys.mp (List.mem_filter.mp hk).1
    exact Grid.caseFailure_suppressed hsame (hmissing t ht)
  unfold Grid.modelCases
  rw [mapM_congr hcases]

/-- A model with a missing control reports no outcome of its controls. -/
theorem Grid.controlRate_suppressed {modelId : PyStr}
    (hmissing : ¬Covers g.observed (relevant.filter fun t => t.modelSubjectId = modelId)) :
    g.controlRate relevant modelId = g'.controlRate relevant modelId := by
  have hne : g.missingOf (relevant.filter fun t => t.modelSubjectId = modelId) ≠ [] :=
    fun h => hmissing (Grid.missingOf_eq_nil.mp h)
  have hne' := Grid.missingOf_congr hsame _ ▸ hne
  unfold Grid.controlRate
  simp only [hne, hne', wilsonUnless, if_true, if_false, ne_eq, not_false_eq_true, not_true_eq_false, and_false,
    reduceCtorEq]

end Suppressed

/-- The rows named by the selected attempts are as many as the rows of those attempts. -/
theorem Grid.Accepted.namedRows_length [PyRuntime] {g : Grid} (ha : g.Accepted) (q : TrialIdentity → Bool) :
    (g.observed.filter fun o => o.attemptId ∈ (g.planned.filter q).map TrialIdentity.attemptId).length =
      (g.rowsOf (g.planned.filter q)).length := by
  rw [← (ha.rows_perm q).length_eq]
  congr 1
  apply List.filter_congr
  intro o ho
  obtain ⟨t, hfind, -⟩ := ha.recorded o ho
  have ht := attemptOf_mem hfind
  have hid := attemptOf_attemptId hfind
  rw [hfind, Option.any_some, Bool.eq_iff_iff, decide_eq_true_eq, List.mem_map]
  constructor
  · rintro ⟨u, hu, huid⟩
    obtain ⟨hum, hq⟩ := List.mem_filter.mp hu
    rwa [eq_of_attemptId ha.planIds ht hum (hid.trans huid.symm)]
  · intro hq
    exact ⟨t, List.mem_filter.mpr ⟨ht, hq⟩, hid⟩

section Study
variable {m : BenchmarkManifest} {g g' : Grid} (hplan : g.planned = g'.planned)
  (hsame : SameCoverage g.observed g'.observed)
include hplan hsame

theorem Grid.caseFailureProbability_suppressed
    (hmissing : ∀ t ∈ activeAttempts m g.planned,
      ¬Covers g.observed ((activeAttempts m g.planned).filter fun u => u.caseKey = t.caseKey)) :
    g.caseFailureProbability m = g'.caseFailureProbability m := by
  unfold Grid.caseFailureProbability
  rw [← hplan]
  simp only [Grid.missingOf_congr hsame,
    tabulate_congr fun x _ => Grid.modelCases_suppressed hsame hmissing x]

theorem Grid.controlFalsePositiveRate_suppressed
    (hmissing : ∀ t ∈ (activeAttempts m g.planned).filter fun t => t.corpusPoolId = .control,
      ¬Covers g.observed (((activeAttempts m g.planned).filter fun t => t.corpusPoolId = .control).filter
        fun u => u.modelSubjectId = t.modelSubjectId)) :
    g.controlFalsePositiveRate m = g'.controlFalsePositiveRate m := by
  have hrates : ∀ x ∈ modelSubjects ((activeAttempts m g.planned).filter fun t => t.corpusPoolId = .control),
      g.controlRate ((activeAttempts m g.planned).filter fun t => t.corpusPoolId = .control) x =
        g'.controlRate ((activeAttempts m g.planned).filter fun t => t.corpusPoolId = .control) x := by
    intro x hx
    obtain ⟨t, ht, rfl⟩ := mem_modelSubjects.mp hx
    exact Grid.controlRate_suppressed hsame (hmissing t ht)
  unfold Grid.controlFalsePositiveRate
  rw [← hplan]
  simp only [Grid.missingOf_congr hsame, tabulate_congr hrates]

variable [PyRuntime] (ha : g.Accepted) (ha' : g'.Accepted)
include ha ha'

/-- With an attempt of the estimate missing, a model only reports how many are recorded. -/
theorem Grid.modelFailure_suppressed {classes : List TargetClass}
    (hmissing : ¬Covers g.observed (g.planned.filter (inPrimaryEstimate classes))) :
    g.modelFailure classes = g'.modelFailure classes := by
  have hne : g.missingOf (g.planned.filter (inPrimaryEstimate classes)) ≠ [] :=
    fun h => hmissing (Grid.missingOf_eq_nil.mp h)
  have hne' := Grid.missingOf_congr hsame _ ▸ hne
  funext modelId
  have hrows : ((g.comparableRows classes).filter fun o => o.modelSubjectId = modelId).length =
      ((g'.comparableRows classes).filter fun o => o.modelSubjectId = modelId).length := by
    rw [(ha.modelRows_perm classes modelId).length_eq, (ha'.modelRows_perm classes modelId).length_eq, ← hplan]
    exact Grid.rowCount_congr hsame _
  unfold Grid.modelFailure
  rw [← hplan]
  dsimp only
  rw [if_pos hne, if_pos hne', hrows]

theorem Grid.modelFailureDenominator_suppressed {classes : List TargetClass} (metricId : PyStr)
    (hmissing : ¬Covers g.observed (g.planned.filter (inPrimaryEstimate classes))) :
    g.modelFailureDenominator classes metricId = g'.modelFailureDenominator classes metricId := by
  have hmodels := Grid.modelFailure_suppressed hplan hsame ha ha' hmissing
  unfold Grid.modelFailureDenominator
  rw [← hplan]
  simp only [Grid.missingOf_congr hsame, hmodels]

theorem Grid.systemInvariantFailureRate_suppressed
    (hmissing : ¬Covers g.observed (g.planned.filter (inPrimaryEstimate [.systemEvalOnly]))) :
    g.systemInvariantFailureRate = g'.systemInvariantFailureRate := by
  have hne : g.missingOf (g.planned.filter (inPrimaryEstimate [.systemEvalOnly])) ≠ [] :=
    fun h => hmissing (Grid.missingOf_eq_nil.mp h)
  have hne' := Grid.missingOf_congr hsame _ ▸ hne
  have hrows := (ha.namedRows_length (inPrimaryEstimate [.systemEvalOnly])).trans
    ((Grid.rowCount_congr hsame _).trans
      (hplan ▸ (ha'.namedRows_length (inPrimaryEstimate [.systemEvalOnly])).symm))
  unfold Grid.systemInvariantFailureRate
  rw [← hplan]
  simp only [Grid.missingOf_congr hsame, hne', wilsonUnless, if_true, if_false, ne_eq, not_false_eq_true, hrows,
    false_and]

end Study

theorem failureValues_const {rows : List Observation} {v : ℤ} (hv : v = 0 ∨ v = 1)
    (h : ∀ o ∈ rows, o.modelFailureValue = some v) : (failureValues rows).sum = rows.length * v := by
  have hvalues : failureValues rows = rows.map fun _ => v := by
    unfold failureValues
    rw [← List.filterMap_eq_map]
    apply List.filterMap_congr
    intro o ho
    rw [h o ho]
    rcases hv with rfl | rfl
    · simp [Option.filter]
    · simp [Option.filter]
  rw [hvalues, List.map_const', List.sum_replicate, nsmul_eq_mul]

section Rejudged
variable [PyRuntime]

/-- The observation recorded again, with a verdict of its own. -/
def rejudged (planned : List TrialIdentity) (failed : Bool) (o : Observation) : Observation :=
  match attemptOf planned o.attemptId with
  | none => o
  | some t => verdictRecord t o.requestStartedAt o.responseCompletedAt failed

theorem rejudged_attemptId (planned : List TrialIdentity) (failed : Bool) (o : Observation) :
    (rejudged planned failed o).attemptId = o.attemptId := by
  unfold rejudged
  cases hf : attemptOf planned o.attemptId with
  | none => rfl
  | some t => exact attemptOf_attemptId hf

theorem rejudged_ids (planned : List TrialIdentity) (failed : Bool) (observations : List Observation) :
    (observations.map (rejudged planned failed)).map Observation.attemptId =
      observations.map Observation.attemptId := by
  rw [List.map_map]
  exact List.map_congr_left fun o _ => rejudged_attemptId planned failed o

theorem rejudged_sameCoverage (planned : List TrialIdentity) (failed : Bool) (observations : List Observation) :
    SameCoverage (observations.map (rejudged planned failed)) observations := by
  intro id
  rw [rejudged_ids]

variable {m : BenchmarkManifest} {expected : ArtifactFingerprints} {observations : List Observation} {g : Grid}

/-- Any accepted list is still accepted with every verdict replaced. -/
theorem rejudged_accepted (h : validateObservationGrid m expected observations = .ok g) (failed : Bool) :
    validateObservationGrid m expected (observations.map (rejudged m.plannedAttempts failed)) =
      .ok ⟨m.plannedAttempts, observations.map (rejudged m.plannedAttempts failed)⟩ := by
  obtain ⟨hfrozen, hids, hrecorded, -⟩ := validateObservationGrid_iff.mp h
  have hplanned := validateBenchmarkManifest_planned hfrozen.validated
  refine validateObservationGrid_iff.mpr ⟨hfrozen, ?_, ?_, rfl⟩
  · rwa [rejudged_ids]
  · intro o' ho'
    obtain ⟨o, ho, rfl⟩ := List.mem_map.mp ho'
    obtain ⟨t, hfind, hmatch⟩ := hrecorded o ho
    have hrecordable := hmatch.recordable (hplanned.valid t (attemptOf_mem hfind))
    refine ⟨t, by rw [rejudged_attemptId, hfind], ?_⟩
    simp only [rejudged, hfind]
    exact hrecordable.record_matches failed

/-- A model attempt that is recorded again carries the value of the verdict. -/
theorem rejudged_value (observations : List Observation) (failed : Bool)
    (hids : (m.plannedAttempts.map TrialIdentity.attemptId).Nodup)
    {attempts : List TrialIdentity} (hmem : ∀ t ∈ attempts, t ∈ m.plannedAttempts ∧ t.targetClass ≠ .systemEvalOnly) :
    ∀ o ∈ Grid.rowsOf ⟨m.plannedAttempts, observations.map (rejudged m.plannedAttempts failed)⟩ attempts,
      o.modelFailureValue = some (if failed then 1 else 0) := by
  intro o ho
  obtain ⟨t, ht, hrow⟩ := List.mem_filterMap.mp ho
  obtain ⟨hmap, hid⟩ := Grid.observationOf_some hrow
  obtain ⟨o', -, rfl⟩ := List.mem_map.mp hmap
  obtain ⟨htm, hclass⟩ := hmem t ht
  rw [rejudged_attemptId] at hid
  have hfind : attemptOf m.plannedAttempts o'.attemptId = some t := hid ▸ attemptOf_of_mem hids htm
  simp [rejudged, hfind, verdictRecord, hclass]

/-- On recorded attempts the two verdicts are told apart by their number of failures. -/
theorem rejudged_distinct (hids : (m.plannedAttempts.map TrialIdentity.attemptId).Nodup)
    {attempts : List TrialIdentity} (hmem : ∀ t ∈ attempts, t ∈ m.plannedAttempts ∧ t.targetClass ≠ .systemEvalOnly)
    (hne : attempts ≠ []) (hcovers : Covers observations attempts) :
    (failureValues (Grid.rowsOf ⟨m.plannedAttempts, observations.map (rejudged m.plannedAttempts false)⟩ attempts)).sum ≠
      (failureValues (Grid.rowsOf ⟨m.plannedAttempts, observations.map (rejudged m.plannedAttempts true)⟩ attempts)).sum := by
  have hpass := failureValues_const (.inl rfl) (rejudged_value observations false hids hmem)
  have hfail := failureValues_const (.inr rfl) (rejudged_value observations true hids hmem)
  have hcovers' := (covers_congr (rejudged_sameCoverage m.plannedAttempts true observations) attempts).mpr hcovers
  have hlength := Grid.length_rowsOf_covered
    (g := ⟨m.plannedAttempts, observations.map (rejudged m.plannedAttempts true)⟩) hcovers'
  have hpos := List.length_pos_of_ne_nil hne
  rw [hpass, hfail, hlength]
  simp only [mul_zero, mul_one]
  omega

theorem BenchmarkManifest.Planned.mem_active (hp : m.Planned) {t : TrialIdentity}
    (ht : t ∈ activeAttempts m m.plannedAttempts) : t ∈ m.plannedAttempts ∧ t.targetClass ≠ .systemEvalOnly := by
  obtain ⟨htm, hclass⟩ := List.mem_filter.mp ht
  refine ⟨htm, fun hs => hp.systemApart ?_⟩
  simpa [hs] using hclass

/-- A complete case tells the verdicts apart. -/
theorem rejudged_caseFailure (hp : m.Planned) {t : TrialIdentity} (ht : t ∈ activeAttempts m m.plannedAttempts)
    (hcovers : Covers observations (clusterOf m t.caseKey)) :
    Grid.caseFailureProbability ⟨m.plannedAttempts, observations.map (rejudged m.plannedAttempts false)⟩ m ≠
      Grid.caseFailureProbability ⟨m.plannedAttempts, observations.map (rejudged m.plannedAttempts true)⟩ m := by
  intro heq
  have hscope : ∀ u ∈ clusterOf m t.caseKey, u ∈ m.plannedAttempts ∧ u.targetClass ≠ .systemEvalOnly := by
    intro u hu
    exact hp.mem_active (List.mem_filter.mp hu).1
  have hmember : t ∈ clusterOf m t.caseKey := List.mem_filter.mpr ⟨ht, by simp⟩
  have hdistinct := rejudged_distinct hp.ids hscope (List.ne_nil_of_mem hmember) hcovers
  have hcovered := fun failed =>
    (covers_congr (rejudged_sameCoverage m.plannedAttempts failed observations) (clusterOf m t.caseKey)).mpr hcovers
  obtain ⟨c, hpass, hfail⟩ := Grid.caseFailure_agree heq rfl t ht
  have hcount := (Grid.caseFailure_reports hpass (hcovered false)).failures
  rw [(Grid.caseFailure_reports hfail (hcovered true)).failures] at hcount
  exact hdistinct (Option.some.inj hcount).symm

/-- The control attempts of the active comparison classes. -/
def controlAttempts (m : BenchmarkManifest) : List TrialIdentity :=
  (activeAttempts m m.plannedAttempts).filter fun t => t.corpusPoolId = .control

/-- The complete controls of a model tell the verdicts apart. -/
theorem rejudged_controlRate (hp : m.Planned) {t : TrialIdentity} (ht : t ∈ controlAttempts m)
    (hcovers : Covers observations ((controlAttempts m).filter fun u => u.modelSubjectId = t.modelSubjectId)) :
    Grid.controlFalsePositiveRate ⟨m.plannedAttempts, observations.map (rejudged m.plannedAttempts false)⟩ m ≠
      Grid.controlFalsePositiveRate ⟨m.plannedAttempts, observations.map (rejudged m.plannedAttempts true)⟩ m := by
  intro heq
  have hscope : ∀ u ∈ (controlAttempts m).filter fun u => u.modelSubjectId = t.modelSubjectId,
      u ∈ m.plannedAttempts ∧ u.targetClass ≠ .systemEvalOnly := by
    intro u hu
    exact hp.mem_active (List.mem_filter.mp (List.mem_filter.mp hu).1).1
  have hmember : t ∈ (controlAttempts m).filter fun u => u.modelSubjectId = t.modelSubjectId :=
    List.mem_filter.mpr ⟨ht, by simp⟩
  have hdistinct := rejudged_distinct hp.ids hscope (List.ne_nil_of_mem hmember) hcovers
  have hcovered := fun failed =>
    (covers_congr (rejudged_sameCoverage m.plannedAttempts failed observations)
      ((controlAttempts m).filter fun u => u.modelSubjectId = t.modelSubjectId)).mpr hcovers
  obtain ⟨r, hpass, hfail⟩ := Grid.controlRate_agree heq rfl rfl t ht
  have hcount := Grid.controlRate_reports hpass (hcovered false)
  rw [Grid.controlRate_reports hfail (hcovered true)] at hcount
  exact hdistinct (Option.some.inj hcount).symm

end Rejudged

section Metrics
variable [PyRuntime] (m : BenchmarkManifest) (expected : ArtifactFingerprints)

/-- What a partial grid must not disclose: each metric with a missing attempt in its scope returns the
same for both lists. -/
structure OutcomeBlind (observations observations' : List Observation) : Prop where
  modelFailure : ∀ metricId classes, metricTargetClasses m metricId = .ok classes →
    ¬Covers observations (m.plannedAttempts.filter (inPrimaryEstimate classes)) →
    modelFailureDenominator m expected observations metricId = modelFailureDenominator m expected observations' metricId
  system : ¬Covers observations (m.plannedAttempts.filter (inPrimaryEstimate [.systemEvalOnly])) →
    systemInvariantFailureRate m expected observations = systemInvariantFailureRate m expected observations'
  cases : ¬Covers observations (activeAttempts m m.plannedAttempts) →
    caseFailureProbability m expected observations = caseFailureProbability m expected observations'
  controls : ¬Covers observations (controlAttempts m) →
    controlFalsePositiveRate m expected observations = controlFalsePositiveRate m expected observations'

/-- No case of an incomplete comparison is complete, and no model's controls among incomplete controls. -/
structure NoCompletePart (observations : List Observation) : Prop where
  cases : ¬Covers observations (activeAttempts m m.plannedAttempts) →
    ∀ t ∈ activeAttempts m m.plannedAttempts, ¬Covers observations (clusterOf m t.caseKey)
  controls : ¬Covers observations (controlAttempts m) →
    ∀ t ∈ controlAttempts m,
      ¬Covers observations ((controlAttempts m).filter fun u => u.modelSubjectId = t.modelSubjectId)

variable {m expected}

theorem outcomeBlind_of_noCompletePart {observations observations' : List Observation} {g g' : Grid}
    (hg : validateObservationGrid m expected observations = .ok g)
    (hg' : validateObservationGrid m expected observations' = .ok g')
    (hsame : SameCoverage observations observations') (hpart : NoCompletePart m observations) :
    OutcomeBlind m expected observations observations' := by
  obtain ⟨ha, -, hplanned, hobserved⟩ := validateObservationGrid_accepted hg
  obtain ⟨ha', -, hplanned', hobserved'⟩ := validateObservationGrid_accepted hg'
  have hplan : g.planned = g'.planned := hplanned.trans hplanned'.symm
  have hcover : SameCoverage g.observed g'.observed := by rwa [hobserved, hobserved']
  constructor
  · intro metricId classes hmetric hmissing
    rw [← hobserved, ← hplanned] at hmissing
    simp only [modelFailureDenominator, hg, hg', hmetric]
    exact Grid.modelFailureDenominator_suppressed hplan hcover ha ha' metricId hmissing
  · intro hmissing
    rw [← hobserved, ← hplanned] at hmissing
    simp only [systemInvariantFailureRate, hg, hg']
    exact Grid.systemInvariantFailureRate_suppressed hplan hcover ha ha' hmissing
  · intro hmissing
    have hcases := hpart.cases hmissing
    unfold clusterOf at hcases
    rw [← hobserved, ← hplanned] at hcases
    simp only [caseFailureProbability, hg, hg']
    exact Grid.caseFailureProbability_suppressed hplan hcover hcases
  · intro hmissing
    have hcontrols := hpart.controls hmissing
    unfold controlAttempts at hcontrols
    rw [← hobserved, ← hplanned] at hcontrols
    simp only [controlFalsePositiveRate, hg, hg']
    exact Grid.controlFalsePositiveRate_suppressed hplan hcover hcontrols

/-- The outcomes of a partial grid stay undisclosed exactly when no case cluster and no model's controls
are complete while others of their metric are not. -/
theorem partial_grid_blind_iff {recorded : List Observation} {g : Grid}
    (h : validateObservationGrid m expected recorded = .ok g) :
    (∀ observations observations' : List Observation,
      (∃ g, validateObservationGrid m expected observations = .ok g) →
      (∃ g, validateObservationGrid m expected observations' = .ok g) →
      SameCoverage observations recorded → SameCoverage observations' recorded →
      OutcomeBlind m expected observations observations') ↔ NoCompletePart m recorded := by
  obtain ⟨-, hp, -, -⟩ := validateObservationGrid_accepted h
  constructor
  · intro hblind
    have hpass := rejudged_accepted h false
    have hfail := rejudged_accepted h true
    have hcover := rejudged_sameCoverage m.plannedAttempts false recorded
    have hboth := hblind _ _ ⟨_, hpass⟩ ⟨_, hfail⟩ hcover (rejudged_sameCoverage m.plannedAttempts true recorded)
    constructor
    · intro hmissing t ht hcomplete
      apply rejudged_caseFailure hp ht hcomplete
      have heq := hboth.cases fun hc => hmissing ((covers_congr hcover _).mp hc)
      simp only [caseFailureProbability, hpass, hfail] at heq
      exact heq
    · intro hmissing t ht hcomplete
      apply rejudged_controlRate hp ht hcomplete
      have heq := hboth.controls fun hc => hmissing ((covers_congr hcover _).mp hc)
      simp only [controlFalsePositiveRate, hpass, hfail] at heq
      exact heq
  · rintro hpart observations observations' ⟨g₁, hg₁⟩ ⟨g₂, hg₂⟩ hcover hcover'
    apply outcomeBlind_of_noCompletePart hg₁ hg₂
    · intro id
      exact (hcover id).trans (hcover' id).symm
    · exact {
        cases := by
          intro hmissing t ht hcomplete
          exact hpart.cases (fun hc => hmissing ((covers_congr hcover _).mpr hc)) t ht
            ((covers_congr hcover _).mp hcomplete)
        controls := by
          intro hmissing t ht hcomplete
          exact hpart.controls (fun hc => hmissing ((covers_congr hcover _).mpr hc)) t ht
            ((covers_congr hcover _).mp hcomplete) }

end Metrics

section Frozen
open Python.Ascii

/-- With the second hidden case and the control unrecorded, the failures of the first hidden case show. -/
theorem frozen_case_failures_disclosed :
    (∃ g, validateObservationGrid frozenBenchmark benchmarkArtifacts (benchmarkRecords [firstRoot, firstRetry] false) =
      .ok g) ∧
    (∃ g, validateObservationGrid frozenBenchmark benchmarkArtifacts (benchmarkRecords [firstRoot, firstRetry] true) =
      .ok g) ∧
    SameCoverage (benchmarkRecords [firstRoot, firstRetry] false) (benchmarkRecords [firstRoot, firstRetry] true) ∧
    ¬Covers (benchmarkRecords [firstRoot, firstRetry] false)
      (activeAttempts frozenBenchmark frozenBenchmark.plannedAttempts) ∧
    caseFailureProbability frozenBenchmark benchmarkArtifacts (benchmarkRecords [firstRoot, firstRetry] false) ≠
      caseFailureProbability frozenBenchmark benchmarkArtifacts (benchmarkRecords [firstRoot, firstRetry] true) := by
  have hsub : [firstRoot, firstRetry].Sublist benchmarkPlan := List.sublist_append_left _ [secondRoot, controlRoot]
  refine ⟨⟨_, benchmarkRecords_accepted hsub false⟩, ⟨_, benchmarkRecords_accepted hsub true⟩, ?_, ?_, ?_⟩
  · intro id
    simp [benchmarkRecords]
  · decide +kernel
  · have hpass : returns (Grid.caseFailureProbability ⟨benchmarkPlan, benchmarkRecords [firstRoot, firstRetry] false⟩
        frozenBenchmark) (fun r => ∃ e ∈ r.byModel, ∃ c ∈ e.2.cases, c.failureCount = some 2) = false := by
      decide +kernel
    have hfail : returns (Grid.caseFailureProbability ⟨benchmarkPlan, benchmarkRecords [firstRoot, firstRetry] true⟩
        frozenBenchmark) (fun r => ∃ e ∈ r.byModel, ∃ c ∈ e.2.cases, c.failureCount = some 2) = true := by
      decide +kernel
    intro heq
    simp only [caseFailureProbability, benchmarkRecords_accepted hsub] at heq
    have hsame : Grid.caseFailureProbability ⟨benchmarkPlan, benchmarkRecords [firstRoot, firstRetry] false⟩
        frozenBenchmark = Grid.caseFailureProbability
          ⟨benchmarkPlan, benchmarkRecords [firstRoot, firstRetry] true⟩ frozenBenchmark := heq
    rw [hsame, hfail] at hpass
    cases hpass

/-- With one attempt of the first hidden case recorded, its outcome stays undisclosed. -/
theorem partial_grid_blind_frozen :
    OutcomeBlind frozenBenchmark benchmarkArtifacts (benchmarkRecords [firstRoot] false)
      (benchmarkRecords [firstRoot] true) := by
  have hsub : [firstRoot].Sublist benchmarkPlan := List.sublist_append_left _ [firstRetry, secondRoot, controlRoot]
  have hpart : NoCompletePart frozenBenchmark (benchmarkRecords [firstRoot] false) := by
    constructor
    · intro _
      decide +kernel
    · intro _
      decide +kernel
  apply (partial_grid_blind_iff (benchmarkRecords_accepted hsub false)).mpr hpart
  · exact ⟨_, benchmarkRecords_accepted hsub false⟩
  · exact ⟨_, benchmarkRecords_accepted hsub true⟩
  · exact fun _ => Iff.rfl
  · intro id
    simp [benchmarkRecords]

end Frozen

end EvaluationLab.BM0
