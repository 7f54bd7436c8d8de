import EvaluationLab.BM0.OrderIndependence
import EvaluationLab.Python.SortedSet
import EvaluationLab.Statistics.Mean
import Mathlib.Data.List.GetD

/-! The family failure rate in any arithmetic: which cases it is the mean of, each counted once, and between which of
them its bootstrap interval lies when operations are exact. -/
namespace EvaluationLab.BM0
open Python Effect Statistics

/-- How the result of an operation is rounded, and what `round(x, 12)` makes of it. -/
structure Arithmetic where
  result : ℚ → ℚ
  round12 : ℚ → ℚ

/-- Binary64. -/
def Arithmetic.floats : Arithmetic := ⟨nearestFloat, Python.round12⟩

/-- Exact operations. Only `round(x, 12)` rounds. -/
def Arithmetic.exact : Arithmetic := ⟨id, fun x => roundEven (x * 10 ^ 12) / 10 ^ 12⟩

section Definitions

variable (A : Arithmetic)

/-- `round(numerator / denominator, 12)`. -/
def rateIn (numerator denominator : ℤ) : ℚ := A.round12 (A.result (numerator / denominator))

/-- `sum(values)`. -/
def sumIn (values : List ℚ) : ℚ := values.foldl (fun total x => A.result (total + x)) 0

def resampledMeansIn [PyRandom] (values : List ℚ) : List ℚ :=
  let count := values.length
  let mean := fun resample => A.result (sumIn A ((List.range count).map fun i =>
    values.getD (PyRandom.choice 20260904 count (resample * count + i)) 0) / count)
  ((List.range 10000).map mean).insertionSort (· ≤ ·)

/-- `fcfr_case_cluster_bootstrap_v1`. -/
def fcfrCaseClusterBootstrapIn [PyRandom] (caseEstimates : List (PyStr × ℚ)) : Except PyExc Bootstrap := do
  let ordered := caseEstimates.insertionSort fun x y => strLe x.1 y.1 = true
  ordered.forM fun e => do
    check (e.1 ≠ []) (valueError "FCFR cluster keys must be non-empty case IDs")
    check (0 ≤ e.2 ∧ e.2 ≤ 1) (valueError "FCFR case estimates must be finite probabilities")
  let values := ordered.map Prod.snd
  if values.length < 2 then
    return ⟨.notEvaluable, some "FEWER_THAN_TWO_DISTINCT_CASE_CLUSTERS", values.length, none, none⟩
  else
    let bootstrap := resampledMeansIn A values
    return ⟨.pass, none, values.length, some (A.round12 (bootstrap.getD 249 0)),
      some (A.round12 (bootstrap.getD 9750 0))⟩

def Grid.caseFailureIn (g : Grid) (relevant : List TrialIdentity) (key : CaseKey) : Except PyExc CaseFailure := do
  let attempts := relevant.filter fun t => t.caseKey = key
  let rows := g.rowsOf attempts
  let values := failureValues rows
  let missing := g.missingOf attempts ≠ []
  let interval ← wilsonUnless missing "MISSING_PLANNED_OBSERVATIONS" values.sum values.length
  let outcome : Terminal × Option PyStr :=
    if missing then (.notEvaluable, some "MISSING_PLANNED_OBSERVATIONS")
    else if values.length = 0 then (.notEvaluable, some "ZERO_CASE_SCORABLE_DENOMINATOR")
    else (.pass, none)
  return {
    entryId := key.entryId
    familyId := key.familyId
    caseId := key.caseId
    variantId := key.variantId
    terminalStatus := outcome.1
    reason := outcome.2
    plannedTrialCount := attempts.length
    recordedTrialCount := rows.length
    failureCount := if missing then none else some values.sum
    modelScorableDenominator := if missing then none else some values.length
    cfp := if outcome.1 = .pass then some (rateIn A values.sum values.length) else none
    wilson95 := interval }

def Grid.modelCasesIn (g : Grid) (relevant : List TrialIdentity) (modelId : PyStr) : Except PyExc ModelCases := do
  let cases ← ((caseKeys relevant).filter fun k => k.modelSubjectId = modelId).mapM (g.caseFailureIn A relevant)
  return ⟨cases.length, cases⟩

/-- `case_failure_probability_v1` of an accepted grid. -/
def Grid.caseFailureProbabilityIn (g : Grid) (m : BenchmarkManifest) : Except PyExc CaseFailureProbability := do
  let relevant := activeAttempts m g.planned
  let missing := g.missingOf relevant
  let byModel ← tabulate (g.modelCasesIn A relevant) (modelSubjects relevant)
  let pass := byModel ≠ [] ∧ missing = [] ∧ ∀ r ∈ byModel, ∀ c ∈ r.2.cases, c.terminalStatus = .pass
  let reason : Option PyStr :=
    if byModel = [] then some "NO_PREDECLARED_MODEL_CASES"
    else if missing ≠ [] then some "MISSING_PLANNED_OBSERVATIONS"
    else if pass then none
    else some "ONE_OR_MORE_ZERO_CASE_SCORABLE_DENOMINATORS"
  return ⟨if pass then .pass else .notEvaluable, reason, m.comparisonClasses, missing, byModel⟩

def familyRateIn [PyRandom] (cases : List CaseFailure) (key : PyStr × PyStr) : Except PyExc FamilyRate := do
  let members := cases.filter fun c => c.entryId = key.1 ∧ c.familyId = key.2
  let estimates := caseEstimates members
  let invalid := (∃ c ∈ members, c.terminalStatus ≠ .pass) ∨ estimates = []
  let uncertainty ← fcfrCaseClusterBootstrapIn A (if invalid then [] else estimates)
  return {
    entryId := key.1
    familyId := key.2
    terminalStatus := if invalid then .notEvaluable else .pass
    reason := if invalid then some "INCOMPLETE_OR_NONSCORABLE_CASE_CLUSTER" else none
    distinctCaseCount := members.length
    totalRecordedTrialCount := (members.map CaseFailure.recordedTrialCount).sum
    fcfr := if invalid then none
      else some (A.round12 (A.result (sumIn A (estimates.map Prod.snd) / estimates.length)))
    caseClusterBootstrap95 := uncertainty }

def CaseFailureProbability.familyRatesIn [PyRandom] (cfp : CaseFailureProbability) :
    Except PyExc FamilyConditionalFailureRate := do
  let byModel ← cfp.byModel.mapM fun model => do
    let families ← (familyKeys model.2.cases).mapM (familyRateIn A model.2.cases)
    return (model.1, families)
  let pass := cfp.terminalStatus = .pass ∧ ∀ r ∈ byModel, ∀ f ∈ r.2, f.terminalStatus = .pass
  return ⟨if pass then .pass else .notEvaluable,
    if pass then none else some (cfp.reason.getD "INCOMPLETE_CASE_CLUSTER"), byModel⟩

variable [PyRuntime] [PyRandom] (m : BenchmarkManifest) (expected : ArtifactFingerprints) (observations : List Observation)

/-- `family_conditional_failure_rate_v1`. -/
def familyConditionalFailureRateIn : Except PyExc FamilyConditionalFailureRate := do
  let g ← validateObservationGrid m expected observations
  let cfp ← g.caseFailureProbabilityIn A m
  cfp.familyRatesIn A

omit [PyRuntime] [PyRandom] in
theorem caseFailureProbabilityIn_floats (g : Grid) :
    g.caseFailureProbabilityIn .floats m = g.caseFailureProbability m := rfl

omit [PyRuntime] in
theorem familyRatesIn_floats (cfp : CaseFailureProbability) : cfp.familyRatesIn .floats = cfp.familyRates := rfl

/-- In binary64 this is the metric itself. -/
theorem familyConditionalFailureRateIn_floats :
    familyConditionalFailureRateIn .floats m expected observations = familyConditionalFailureRate m expected observations := by
  rw [familyConditionalFailureRateIn, familyConditionalFailureRate, caseFailureProbability]
  cases validateObservationGrid m expected observations with
  | error e => rfl
  | ok g => rfl

end Definitions

section Cases

variable {A : Arithmetic} {g : Grid} {relevant : List TrialIdentity}

/-- The failure values of one case cluster. -/
def Grid.valuesOf (g : Grid) (relevant : List TrialIdentity) (key : CaseKey) : List ℤ :=
  failureValues (g.rowsOf (relevant.filter fun t => t.caseKey = key))

/-- A case of the table: its key, and its rate when it passes. -/
theorem caseFailureIn_spec {key : CaseKey} {c : CaseFailure} (h : g.caseFailureIn A relevant key = .ok c) :
    (c.entryId = key.entryId ∧ c.familyId = key.familyId ∧ c.caseId = key.caseId) ∧
      (c.terminalStatus = .pass → g.valuesOf relevant key ≠ [] ∧
        c.cfp = some (rateIn A (g.valuesOf relevant key).sum (g.valuesOf relevant key).length)) := by
  simp only [Grid.caseFailureIn, bind_eq_ok_iff, pure_eq_ok_iff] at h
  obtain ⟨_, -, rfl⟩ := h
  refine ⟨⟨rfl, rfl, rfl⟩, fun hpass => ?_⟩
  dsimp only at hpass ⊢
  rw [if_pos hpass]
  refine ⟨fun hnil => ?_, rfl⟩
  rw [Grid.valuesOf] at hnil
  split_ifs at hpass with hmissing hzero
  exact hzero (by rw [hnil]; rfl)

/-- The clusters of a model in one family of an entry. -/
def keysOf (relevant : List TrialIdentity) (modelId entryId familyId : PyStr) : List CaseKey :=
  (caseKeys relevant).filter fun k => k.modelSubjectId = modelId ∧ k.entryId = entryId ∧ k.familyId = familyId

theorem mem_keysOf {modelId entryId familyId : PyStr} {k : CaseKey} : k ∈ keysOf relevant modelId entryId familyId ↔
    (∃ t ∈ relevant, t.caseKey = k) ∧ k.modelSubjectId = modelId ∧ k.entryId = entryId ∧ k.familyId = familyId := by
  rw [keysOf, List.mem_filter, mem_caseKeys, decide_eq_true_eq]

/-- The cases of a model in one family are those of its clusters there. -/
theorem members_spec {modelId entryId familyId : PyStr} {r : ModelCases} (h : g.modelCasesIn A relevant modelId = .ok r) :
    List.Forall₂ (fun k c => g.caseFailureIn A relevant k = .ok c) (keysOf relevant modelId entryId familyId)
      (r.cases.filter fun c => c.entryId = entryId ∧ c.familyId = familyId) := by
  simp only [Grid.modelCasesIn, bind_eq_ok_iff, pure_eq_ok_iff] at h
  obtain ⟨cases, hcases, rfl⟩ := h
  have hkeys : keysOf relevant modelId entryId familyId = (((caseKeys relevant).filter fun k => k.modelSubjectId = modelId).filter
      fun k => k.entryId = entryId ∧ k.familyId = familyId) := by
    rw [keysOf, List.filter_filter]
    refine List.filter_congr fun k _ => ?_
    rw [Bool.eq_iff_iff]
    simp only [decide_eq_true_eq, Bool.and_eq_true]
    tauto
  rw [hkeys]
  refine List.rel_filter (fun k c hkc => ?_) (mapM_eq_ok_iff.mp hcases)
  obtain ⟨⟨hentry, hfamily, -⟩, -⟩ := caseFailureIn_spec hkc
  simp only [decide_eq_true_eq, hentry, hfamily]

/-- A case id stands for one variant. -/
def OneVariant (relevant : List TrialIdentity) : Prop :=
  ∀ t ∈ relevant, ∀ u ∈ relevant, t.caseId = u.caseId → t.variantId = u.variantId

/-- The clusters of one family ascend by case id, and no id is there twice. -/
theorem ascending_keysOf (h : OneVariant relevant) (modelId entryId familyId : PyStr) :
    ((keysOf relevant modelId entryId familyId).map CaseKey.caseId).Pairwise fun s t => strLt s t = true := by
  have hsorted : (caseKeys relevant).Pairwise fun j k => tupleLe j.parts k.parts = true :=
    List.pairwise_insertionSort _ _
  have hkeys := (hsorted.and (nodup_caseKeys relevant)).filter
    fun k => decide (k.modelSubjectId = modelId ∧ k.entryId = entryId ∧ k.familyId = familyId)
  rw [List.pairwise_map]
  refine hkeys.imp_of_mem fun {j k} hj hk hjk => ?_
  obtain ⟨⟨t, ht, rfl⟩, hj⟩ := mem_keysOf.mp hj
  obtain ⟨⟨u, hu, rfl⟩, hk⟩ := mem_keysOf.mp hk
  have hne : t.caseKey.caseId ≠ u.caseKey.caseId := by
    intro hcase
    apply hjk.2
    simp only [TrialIdentity.caseKey, CaseKey.mk.injEq] at hj hk hcase ⊢
    exact ⟨hj.1.trans hk.1.symm, hj.2.1.trans hk.2.1.symm, hj.2.2.trans hk.2.2.symm, hcase, h t ht u hu hcase⟩
  have hle := hjk.1
  simp only [CaseKey.parts, tupleLe, hj, hk, if_true, if_neg hne] at hle
  rw [strLt_iff]
  exact lt_of_le_of_ne ((strLe_iff _ _).mp hle) hne

end Cases

section Estimates

/-- Related lists are related member by member. -/
theorem forall₂_mem {α β : Type} {R : α → β → Prop} {xs : List α} {ys : List β} (h : List.Forall₂ R xs ys) :
    List.Forall₂ (fun x y => x ∈ xs ∧ y ∈ ys ∧ R x y) xs ys := by
  have hright : List.Forall₂ (fun y x => y ∈ ys ∧ R x y) ys xs :=
    (List.forall₂_and_left ys xs).mpr ⟨fun _ hy => hy, h.flip⟩
  exact (List.forall₂_and_left xs ys).mpr ⟨fun _ hx => hx, hright.flip⟩

/-- Passing cases of different ids keep their estimates, in their order. -/
theorem caseEstimates_eq {cases : List CaseFailure} {rates : List (PyStr × ℚ)} (h : List.Forall₂
      (fun e c => c.terminalStatus = .pass ∧ c.caseId = e.1 ∧ c.cfp = some e.2) rates cases)
    (hkeys : (rates.map Prod.fst).Nodup) : caseEstimates cases = rates := by
  have hall : ∀ c ∈ cases, c.terminalStatus = .pass := by
    intro c hc
    obtain ⟨e, -, he⟩ := exists_of_mem_right h hc
    exact he.1
  have hfold : ∀ acc : List (PyStr × ℚ), ((acc ++ rates).map Prod.fst).Nodup → cases.foldl (fun estimates c =>
      (c.cfp.map (setKey estimates c.caseId)).getD estimates) acc = acc ++ rates := by
    clear hkeys hall
    induction h with
    | nil =>
      intro acc _
      rw [List.foldl_nil, List.append_nil]
    | @cons e c rates cases hec _ ih =>
      intro acc hnodup
      have hfresh : e.1 ∉ acc.map Prod.fst := by
        rw [List.map_append, List.map_cons, List.nodup_append] at hnodup
        exact fun hmem => hnodup.2.2 _ hmem _ List.mem_cons_self rfl
      rw [List.foldl_cons, hec.2.1, hec.2.2, Option.map_some, Option.getD_some, setKey, if_neg hfresh, ih _ (by
        rwa [List.append_assoc, List.singleton_append]), List.append_assoc, List.singleton_append]
  rw [caseEstimates, List.filter_eq_self.mpr fun c hc => decide_eq_true (hall c hc)]
  exact hfold [] hkeys

/-- A family that passes: the mean and the interval of its estimates, all of whose cases pass. -/
theorem familyRateIn_pass {A : Arithmetic} [PyRandom] {cases : List CaseFailure} {key : PyStr × PyStr} {f : FamilyRate}
    (h : familyRateIn A cases key = .ok f) :
    (f.entryId = key.1 ∧ f.familyId = key.2) ∧
    (f.terminalStatus = .pass →
      (∀ c ∈ cases.filter (fun c => c.entryId = key.1 ∧ c.familyId = key.2), c.terminalStatus = .pass) ∧
      caseEstimates (cases.filter fun c => c.entryId = key.1 ∧ c.familyId = key.2) ≠ [] ∧
      f.fcfr = some (A.round12 (A.result (sumIn A ((caseEstimates (cases.filter fun c =>
        c.entryId = key.1 ∧ c.familyId = key.2)).map Prod.snd) / (caseEstimates (cases.filter fun c =>
        c.entryId = key.1 ∧ c.familyId = key.2)).length))) ∧
      fcfrCaseClusterBootstrapIn A (caseEstimates (cases.filter fun c => c.entryId = key.1 ∧ c.familyId = key.2)) =
        .ok f.caseClusterBootstrap95) := by
  simp only [familyRateIn, bind_eq_ok_iff, pure_eq_ok_iff] at h
  generalize cases.filter (fun c => decide (c.entryId = key.1 ∧ c.familyId = key.2)) = members at h ⊢
  obtain ⟨b, hb, rfl⟩ := h
  refine ⟨⟨rfl, rfl⟩, fun hpass => ?_⟩
  dsimp only at hpass ⊢
  by_cases hinvalid : (∃ c ∈ members, c.terminalStatus ≠ .pass) ∨ caseEstimates members = []
  · rw [if_pos hinvalid] at hpass
    cases hpass
  · rw [if_neg hinvalid] at hb ⊢
    rw [not_or] at hinvalid
    obtain ⟨hcases, hestimates⟩ := hinvalid
    push Not at hcases
    exact ⟨hcases, hestimates, rfl, hb⟩

end Estimates

/-- A model in one family of an entry. -/
structure FamilyGroup where
  modelId : PyStr
  entryId : PyStr
  familyId : PyStr

/-- The group a family entry of a model is about. -/
def FamilyRate.group (f : FamilyRate) (modelId : PyStr) : FamilyGroup := ⟨modelId, f.entryId, f.familyId⟩

/-- An attempt of the group that the metric counts. -/
def FamilyGroup.has (group : FamilyGroup) (m : BenchmarkManifest) (t : TrialIdentity) : Bool :=
  t.targetClass ∈ m.comparisonClasses ∧ t.modelSubjectId = group.modelId ∧ t.entryId = group.entryId ∧
    t.familyId = group.familyId

/-- The distinct cases planned for a group. -/
def casesOf (m : BenchmarkManifest) (group : FamilyGroup) : List PyStr :=
  sortedSet ((m.plannedAttempts.filter (group.has m)).map fun t => t.caseId)

/-- The scorable trials of a case of the group: 1 for a failure, 0 for none. -/
def trialsOf (m : BenchmarkManifest) (observations : List Observation) (group : FamilyGroup) (caseId : PyStr) : List ℤ :=
  failureValues (observations.filter fun o => (attemptOf m.plannedAttempts o.attemptId).any fun t =>
    group.has m t ∧ t.caseId = caseId)

/-- Failures per scorable trial. -/
def ratioOf (m : BenchmarkManifest) (observations : List Observation) (group : FamilyGroup) (caseId : PyStr) : ℚ :=
  (trialsOf m observations group caseId).sum / (trialsOf m observations group caseId).length

/-- The failure probability of a case as the metric computes it. -/
def caseRateIn (A : Arithmetic) (m : BenchmarkManifest) (observations : List Observation) (group : FamilyGroup)
    (caseId : PyStr) : ℚ := A.round12 (A.result (ratioOf m observations group caseId))

/-- The failure probabilities of the cases of a group. -/
def caseRatesIn (A : Arithmetic) (m : BenchmarkManifest) (observations : List Observation) (group : FamilyGroup) : List ℚ :=
  (casesOf m group).map (caseRateIn A m observations group)

section Family

variable [PyRuntime] {A : Arithmetic} {m : BenchmarkManifest} {g : Grid} {group : FamilyGroup}

theorem oneVariant_active (hplanned : m.Planned) : OneVariant (activeAttempts m m.plannedAttempts) := by
  intro t ht u hu hcase
  have hbinding := hplanned.oneCase t (List.mem_of_mem_filter ht) u (List.mem_of_mem_filter hu) hcase
  exact congrArg CaseBinding.variantId hbinding

/-- The clusters of a group are its distinct cases. -/
theorem keysOf_caseId (group : FamilyGroup) (hplanned : m.Planned) :
    (keysOf (activeAttempts m m.plannedAttempts) group.modelId group.entryId group.familyId).map CaseKey.caseId =
      casesOf m group := by
  rw [casesOf, ← sortedSet_eq_self (ascending_keysOf (oneVariant_active hplanned) _ _ _)]
  refine sortedSet_congr fun id => ?_
  simp only [List.mem_map, mem_keysOf, List.mem_filter, activeAttempts, FamilyGroup.has, decide_eq_true_eq]
  constructor
  · rintro ⟨_, ⟨⟨t, ⟨ht, hclass⟩, rfl⟩, hmodel, hentry, hfamily⟩, rfl⟩
    exact ⟨t, ⟨ht, hclass, hmodel, hentry, hfamily⟩, rfl⟩
  · rintro ⟨t, ⟨ht, hclass, hmodel, hentry, hfamily⟩, rfl⟩
    exact ⟨t.caseKey, ⟨⟨t, ⟨ht, hclass⟩, rfl⟩, hmodel, hentry, hfamily⟩, rfl⟩

/-- The values of a cluster are the trials of its case. -/
theorem valuesOf_perm (hplanned : m.Planned) (haccepted : g.Accepted) (hplan : g.planned = m.plannedAttempts) {k : CaseKey}
    (hk : k ∈ keysOf (activeAttempts m m.plannedAttempts) group.modelId group.entryId group.familyId) :
    (trialsOf m g.observed group k.caseId).Perm (g.valuesOf (activeAttempts m m.plannedAttempts) k) := by
  obtain ⟨⟨u, hu, rfl⟩, hmodel, hentry, hfamily⟩ := mem_keysOf.mp hk
  have hrows := haccepted.rows_perm fun t => decide (group.has m t ∧ t.caseId = u.caseKey.caseId)
  rw [hplan] at hrows
  have hattempts : m.plannedAttempts.filter (fun t => decide (group.has m t ∧ t.caseId = u.caseKey.caseId)) =
      (activeAttempts m m.plannedAttempts).filter fun t => t.caseKey = u.caseKey := by
    rw [activeAttempts, List.filter_filter]
    refine List.filter_congr fun t ht => ?_
    rw [Bool.eq_iff_iff]
    simp only [FamilyGroup.has, Bool.and_eq_true, decide_eq_true_eq, TrialIdentity.caseKey, CaseKey.mk.injEq] at hmodel hentry hfamily ⊢
    constructor
    · rintro ⟨⟨hclass, htmodel, htentry, htfamily⟩, hcase⟩
      have hbinding := hplanned.oneCase t ht u (List.mem_of_mem_filter hu) hcase
      exact ⟨⟨htmodel.trans hmodel.symm, htentry.trans hentry.symm, htfamily.trans hfamily.symm, hcase,
        congrArg CaseBinding.variantId hbinding⟩, hclass⟩
    · rintro ⟨⟨htmodel, htentry, htfamily, hcase, -⟩, hclass⟩
      exact ⟨⟨hclass, htmodel.trans hmodel, htentry.trans hentry, htfamily.trans hfamily⟩, hcase⟩
  rw [hattempts] at hrows
  exact hrows.filterMap _

/-- The rate of a cluster, from the trials of its case. -/
theorem rate_valuesOf (hplanned : m.Planned) (haccepted : g.Accepted) (hplan : g.planned = m.plannedAttempts) {k : CaseKey}
    (hk : k ∈ keysOf (activeAttempts m m.plannedAttempts) group.modelId group.entryId group.familyId) :
    rateIn A (g.valuesOf (activeAttempts m m.plannedAttempts) k).sum (g.valuesOf (activeAttempts m m.plannedAttempts) k).length =
      caseRateIn A m g.observed group k.caseId := by
  have hperm := valuesOf_perm hplanned haccepted hplan hk
  rw [caseRateIn, ratioOf, rateIn, hperm.sum_eq, hperm.length_eq, Int.cast_natCast]

/-- What a passing family reports: the mean of its distinct cases, each once, and the interval from the same estimates. -/
structure Reports [PyRandom] (A : Arithmetic) (m : BenchmarkManifest) (observations : List Observation) (group : FamilyGroup)
    (f : FamilyRate) : Prop where
  cases : casesOf m group ≠ []
  scorable : ∀ c ∈ casesOf m group, trialsOf m observations group c ≠ []
  fcfr : f.fcfr = some (A.round12 (A.result (sumIn A ((casesOf m group).map (caseRateIn A m observations group)) /
    (casesOf m group).length)))
  bootstrap : fcfrCaseClusterBootstrapIn A ((casesOf m group).map fun c => (c, caseRateIn A m observations group c)) =
    .ok f.caseClusterBootstrap95

variable [PyRandom] {cfp : CaseFailureProbability} {rates : FamilyConditionalFailureRate}

theorem reports_of_pass (hplanned : m.Planned) (haccepted : g.Accepted) (hplan : g.planned = m.plannedAttempts)
    (hcfp : g.caseFailureProbabilityIn A m = .ok cfp) (hrates : cfp.familyRatesIn A = .ok rates)
    {model : PyStr × List FamilyRate} (hmodel : model ∈ rates.byModel) {f : FamilyRate} (hf : f ∈ model.2)
    (hpass : f.terminalStatus = .pass) : Reports A m g.observed ⟨model.1, f.entryId, f.familyId⟩ f := by
  simp only [CaseFailureProbability.familyRatesIn, bind_eq_ok_iff, pure_eq_ok_iff] at hrates
  obtain ⟨byModel, hbyModel, rfl⟩ := hrates
  obtain ⟨r, hr, hrow⟩ := mapM_mem hbyModel hmodel
  simp only [bind_eq_ok_iff, pure_eq_ok_iff] at hrow
  obtain ⟨families, hfamilies, rfl⟩ := hrow
  obtain ⟨key, -, hfamily⟩ := mapM_mem hfamilies hf
  obtain ⟨⟨hentry, hfamilyId⟩, hspec⟩ := familyRateIn_pass hfamily
  obtain ⟨hcases, hestimates, hfcfr, hbootstrap⟩ := hspec hpass
  simp only [Grid.caseFailureProbabilityIn, bind_eq_ok_iff, pure_eq_ok_iff] at hcfp
  obtain ⟨table, htable, rfl⟩ := hcfp
  obtain ⟨-, hmodelCases⟩ := tabulate_mem htable hr
  rw [hplan] at hmodelCases
  rw [hentry, hfamilyId]
  have hmembers := forall₂_mem (members_spec hmodelCases : List.Forall₂ _ (keysOf _ r.1 key.1 key.2) _)
  have hids := keysOf_caseId ⟨r.1, key.1, key.2⟩ hplanned
  have hestimate : caseEstimates (r.2.cases.filter fun c => c.entryId = key.1 ∧ c.familyId = key.2) =
      (casesOf m ⟨r.1, key.1, key.2⟩).map fun c => (c, caseRateIn A m g.observed ⟨r.1, key.1, key.2⟩ c) := by
    rw [← hids, List.map_map]
    apply caseEstimates_eq
    · rw [List.forall₂_map_left_iff]
      refine hmembers.imp fun k c hkc => ?_
      obtain ⟨hk, hc, hcase⟩ := hkc
      obtain ⟨⟨-, -, hid⟩, hpassing⟩ := caseFailureIn_spec hcase
      refine ⟨hcases c hc, hid, ?_⟩
      rw [(hpassing (hcases c hc)).2]
      exact congrArg some (rate_valuesOf hplanned haccepted hplan hk)
    · rw [List.map_map]
      show ((keysOf _ r.1 key.1 key.2).map CaseKey.caseId).Nodup
      rw [hids]
      exact nodup_sortedSet _
  rw [hestimate] at hestimates hfcfr hbootstrap
  refine ⟨fun hnil => hestimates (by rw [hnil]; rfl), fun c hc => ?_, ?_, hbootstrap⟩
  · rw [← hids] at hc
    obtain ⟨k, hk, rfl⟩ := List.mem_map.mp hc
    obtain ⟨c, hc, -, -, hcase⟩ := exists_of_mem_left hmembers hk
    have hvalues := ((caseFailureIn_spec hcase).2 (hcases c hc)).1
    exact fun hnil => hvalues (List.nil_perm.mp (hnil ▸ valuesOf_perm hplanned haccepted hplan hk))
  · rw [hfcfr, List.map_map, List.length_map]
    rfl

end Family

section Exact

theorem abs_sub_roundEven_le (q : ℚ) : |q - roundEven q| ≤ 1 / 2 := by
  unfold roundEven
  split_ifs with hmid heven
  · have hq := (fract_half_iff q).mp hmid
    rw [abs_le]
    constructor <;> linarith
  · have hq := (fract_half_iff q).mp hmid
    push_cast
    rw [abs_le]
    constructor <;> linarith
  · exact abs_sub_round q

theorem roundEven_mono {x y : ℚ} (h : x ≤ y) : roundEven x ≤ roundEven y := by
  by_contra hlt
  have hstep : (roundEven y : ℚ) + 1 ≤ roundEven x := by exact_mod_cast not_le.mp hlt
  have hx := (abs_le.mp (abs_sub_roundEven_le x)).1
  have hy := (abs_le.mp (abs_sub_roundEven_le y)).2
  have heq : x = y := by linarith
  exact hlt (by rw [heq])

/-- Exact rounding to twelve digits is off by at most half a unit of the last one. -/
theorem abs_sub_exact_round12 (x : ℚ) : |x - Arithmetic.exact.round12 x| ≤ 1 / (2 * 10 ^ 12) := by
  have hscaled := abs_sub_roundEven_le (x * 10 ^ 12)
  have heq : x - Arithmetic.exact.round12 x = (x * 10 ^ 12 - roundEven (x * 10 ^ 12)) / 10 ^ 12 := by
    rw [Arithmetic.exact, sub_div, mul_div_cancel_right₀ x (by norm_num)]
  rw [heq, abs_div, abs_of_pos (by norm_num : (0 : ℚ) < 10 ^ 12), div_le_iff₀ (by norm_num)]
  linarith

theorem exact_round12_mono {x y : ℚ} (h : x ≤ y) : Arithmetic.exact.round12 x ≤ Arithmetic.exact.round12 y := by
  have hscaled : (roundEven (x * 10 ^ 12) : ℚ) ≤ roundEven (y * 10 ^ 12) := by
    exact_mod_cast roundEven_mono (mul_le_mul_of_nonneg_right h (by norm_num))
  exact div_le_div_of_nonneg_right hscaled (by norm_num)

/-- A rounded number is not rounded again. -/
theorem exact_round12_round12 (x : ℚ) :
    Arithmetic.exact.round12 (Arithmetic.exact.round12 x) = Arithmetic.exact.round12 x := by
  have hint : (roundEven (x * 10 ^ 12) / 10 ^ 12 : ℚ) * 10 ^ 12 = roundEven (x * 10 ^ 12) :=
    div_mul_cancel₀ _ (by norm_num)
  have hround : roundEven (roundEven (x * 10 ^ 12) : ℚ) = roundEven (x * 10 ^ 12) :=
    le_antisymm (roundEven_le_of_le le_rfl) (le_roundEven_of_le le_rfl)
  simp only [Arithmetic.exact, hint, hround]

theorem sumIn_exact (values : List ℚ) : sumIn .exact values = values.sum := by
  rw [List.sum_eq_foldl]
  rfl

variable [PyRandom] {values : List ℚ} {lo hi : ℚ}

/-- Every resampled mean lies where the values do. -/
theorem resampledMeansIn_bounds (hne : values ≠ []) (hlo : ∀ v ∈ values, lo ≤ v) (hhi : ∀ v ∈ values, v ≤ hi) :
    ∀ x ∈ resampledMeansIn .exact values, lo ≤ x ∧ x ≤ hi := by
  intro x hx
  rw [resampledMeansIn, List.mem_insertionSort, List.mem_map] at hx
  obtain ⟨resample, -, rfl⟩ := hx
  have hcount : 0 < values.length := List.length_pos_of_ne_nil hne
  generalize hdrawn : (List.range values.length).map (fun i =>
    values.getD (PyRandom.choice 20260904 values.length (resample * values.length + i)) 0) = drawn
  have hmem : ∀ v ∈ drawn, v ∈ values := by
    intro v hv
    rw [← hdrawn] at hv
    obtain ⟨i, -, rfl⟩ := List.mem_map.mp hv
    have hlt := PyRandom.choice_lt 20260904 values.length (resample * values.length + i) hcount
    rw [List.getD_eq_getElem _ _ hlt]
    exact List.getElem_mem hlt
  have hlength : drawn.length = values.length := by
    rw [← hdrawn, List.length_map, List.length_range]
  have hdrawnNe : drawn ≠ [] := List.ne_nil_of_length_pos (by omega)
  have hmean : Arithmetic.exact.result (sumIn .exact drawn / values.length) = mean drawn := by
    rw [sumIn_exact, mean, hlength]
    rfl
  rw [hmean]
  exact ⟨le_mean hdrawnNe fun v hv => hlo v (hmem v hv), mean_le hdrawnNe fun v hv => hhi v (hmem v hv)⟩

/-- The interval lies between two rounded numbers when the estimates do. -/
theorem bootstrapIn_bounds {rates : List (PyStr × ℚ)} {b : Bootstrap}
    (h : fcfrCaseClusterBootstrapIn .exact rates = .ok b) (hcount : 2 ≤ rates.length) (hlo : ∀ e ∈ rates, lo ≤ e.2)
    (hhi : ∀ e ∈ rates, e.2 ≤ hi) (hloRound : Arithmetic.exact.round12 lo = lo) (hhiRound : Arithmetic.exact.round12 hi = hi) :
    ∃ l u, b.lower = some l ∧ b.upper = some u ∧ lo ≤ l ∧ l ≤ u ∧ u ≤ hi := by
  simp only [fcfrCaseClusterBootstrapIn, bind_eq_ok_iff, exists_unit_iff] at h
  obtain ⟨-, h⟩ := h
  generalize hvalues : (rates.insertionSort fun x y => strLe x.1 y.1 = true).map Prod.snd = values at h
  have hlength : values.length = rates.length := by
    rw [← hvalues, List.length_map, List.length_insertionSort]
  have hmem : ∀ v ∈ values, ∃ e ∈ rates, e.2 = v := by
    intro v hv
    rw [← hvalues] at hv
    obtain ⟨e, he, rfl⟩ := List.mem_map.mp hv
    exact ⟨e, (List.mem_insertionSort _).mp he, rfl⟩
  rw [if_neg (by omega), pure_eq_ok_iff] at h
  subst h
  have hne : values ≠ [] := List.ne_nil_of_length_pos (by omega)
  have hbounds : ∀ x ∈ resampledMeansIn .exact values, lo ≤ x ∧ x ≤ hi := by
    refine resampledMeansIn_bounds hne (fun v hv => ?_) fun v hv => ?_
    · obtain ⟨e, he, rfl⟩ := hmem v hv
      exact hlo e he
    · obtain ⟨e, he, rfl⟩ := hmem v hv
      exact hhi e he
  have hten : (resampledMeansIn .exact values).length = 10000 := by
    rw [resampledMeansIn, List.length_insertionSort, List.length_map, List.length_range]
  have hsorted : (resampledMeansIn .exact values).Pairwise (· ≤ ·) := List.pairwise_insertionSort _ _
  refine ⟨_, _, rfl, rfl, ?_, ?_, ?_⟩
  · rw [← hloRound, List.getD_eq_getElem _ _ (by omega)]
    exact exact_round12_mono (hbounds _ (List.getElem_mem _)).1
  · rw [List.getD_eq_getElem _ _ (by omega : 249 < _), List.getD_eq_getElem _ _ (by omega : 9750 < _)]
    exact exact_round12_mono (List.pairwise_iff_getElem.mp hsorted 249 9750 _ _ (by decide))
  · rw [← hhiRound, List.getD_eq_getElem _ _ (by omega)]
    exact exact_round12_mono (hbounds _ (List.getElem_mem _)).2

end Exact

section Results

variable {A : Arithmetic} {m : BenchmarkManifest} {observations : List Observation} {group : FamilyGroup} {f : FamilyRate}

theorem exists_extremes {values : List ℚ} (hne : values ≠ []) :
    (∃ lo, IsLeast {v | v ∈ values} lo) ∧ ∃ hi, IsGreatest {v | v ∈ values} hi := by
  have hfinset : values.toFinset.Nonempty := by
    rwa [List.toFinset_nonempty_iff]
  have hset : {v | v ∈ values} = (values.toFinset : Set ℚ) := by
    ext v
    simp
  rw [hset]
  exact ⟨⟨_, values.toFinset.isLeast_min' hfinset⟩, _, values.toFinset.isGreatest_max' hfinset⟩

variable [PyRandom]

/-- The rate of a passing family, in exact arithmetic, is the mean of its cases' ratios. -/
theorem Reports.near_mean (h : Reports .exact m observations group f) : ∃ q, f.fcfr = some q ∧
    |q - mean ((casesOf m group).map (ratioOf m observations group))| ≤ 1 / 10 ^ 12 := by
  refine ⟨_, h.fcfr, ?_⟩
  have hvalue : Arithmetic.exact.result (sumIn .exact ((casesOf m group).map (caseRateIn .exact m observations group)) /
      (casesOf m group).length) = mean (caseRatesIn .exact m observations group) := by
    rw [sumIn_exact, mean, caseRatesIn, List.length_map]
    rfl
  rw [hvalue]
  have hround := abs_sub_exact_round12 (mean (caseRatesIn .exact m observations group))
  have hcases := abs_mean_sub_mean_le (f := caseRateIn .exact m observations group) (g := ratioOf m observations group)
    (b := 1 / (2 * 10 ^ 12)) h.cases fun c _ => by
      rw [abs_sub_comm]
      exact abs_sub_exact_round12 (ratioOf m observations group c)
  rw [abs_sub_comm] at hround
  have htriangle := abs_sub_le (Arithmetic.exact.round12 (mean (caseRatesIn .exact m observations group)))
    (mean (caseRatesIn .exact m observations group)) (mean ((casesOf m group).map (ratioOf m observations group)))
  rw [caseRatesIn] at htriangle hround
  rw [caseRatesIn]
  linarith

/-- The interval of a passing family of at least two cases, in exact arithmetic, lies between the least and the greatest
failure probability of its cases. -/
theorem Reports.interval (h : Reports .exact m observations group f) (hcount : 2 ≤ (casesOf m group).length) :
    ∃ l u lo hi, f.caseClusterBootstrap95.lower = some l ∧ f.caseClusterBootstrap95.upper = some u ∧
      IsLeast {v | v ∈ caseRatesIn .exact m observations group} lo ∧
      IsGreatest {v | v ∈ caseRatesIn .exact m observations group} hi ∧ lo ≤ l ∧ l ≤ u ∧ u ≤ hi := by
  have hne : caseRatesIn .exact m observations group ≠ [] := fun hnil => h.cases (List.map_eq_nil_iff.mp hnil)
  obtain ⟨⟨lo, hlo⟩, hi, hhi⟩ := exists_extremes hne
  have hrounded : ∀ v ∈ caseRatesIn .exact m observations group, Arithmetic.exact.round12 v = v := by
    intro v hv
    obtain ⟨c, -, rfl⟩ := List.mem_map.mp hv
    exact exact_round12_round12 _
  have hestimate : ∀ e ∈ (casesOf m group).map (fun c => (c, caseRateIn .exact m observations group c)),
      e.2 ∈ caseRatesIn .exact m observations group := by
    intro e he
    obtain ⟨c, hc, rfl⟩ := List.mem_map.mp he
    exact List.mem_map_of_mem hc
  obtain ⟨l, u, hl, hu, hlow, hle, hhigh⟩ := bootstrapIn_bounds h.bootstrap (by rwa [List.length_map])
    (fun e he => hlo.2 (hestimate e he)) (fun e he => hhi.2 (hestimate e he)) (hrounded lo hlo.1) (hrounded hi hhi.1)
  exact ⟨l, u, lo, hi, hl, hu, hlo, hhi, hlow, hle, hhigh⟩

variable [PyRuntime]

theorem reports_of_rates {expected : ArtifactFingerprints} {rates : FamilyConditionalFailureRate}
    (h : familyConditionalFailureRateIn A m expected observations = .ok rates) {model : PyStr × List FamilyRate}
    (hmodel : model ∈ rates.byModel) (hf : f ∈ model.2) (hpass : f.terminalStatus = .pass) :
    Reports A m observations (f.group model.1) f := by
  simp only [familyConditionalFailureRateIn, bind_eq_ok_iff] at h
  obtain ⟨g, hg, cfp, hcfp, hrates⟩ := h
  obtain ⟨haccepted, hplanned, hplan, hobserved⟩ := validateObservationGrid_accepted hg
  rw [← hobserved]
  exact reports_of_pass hplanned haccepted hplan hcfp hrates hmodel hf hpass

/-- The family failure rate counts each distinct case once: in exact arithmetic it is the mean of the cases' ratios up to
its rounding, with an interval between the least and the greatest of their rates whatever is drawn; and in any arithmetic,
binary64 among them, rate and interval depend on the cases and their ratios only. -/
theorem fcfr_counts_cases_once :
    (∀ m expected observations rates, familyConditionalFailureRateIn .exact m expected observations = .ok rates →
      ∀ model ∈ rates.byModel, ∀ f ∈ model.2, f.terminalStatus = .pass →
        (∀ c ∈ casesOf m (f.group model.1), trialsOf m observations (f.group model.1) c ≠ []) ∧
        (∃ q, f.fcfr = some q ∧
          |q - mean ((casesOf m (f.group model.1)).map (ratioOf m observations (f.group model.1)))| ≤ 1 / 10 ^ 12) ∧
        (2 ≤ (casesOf m (f.group model.1)).length →
          ∃ l u lo hi, f.caseClusterBootstrap95.lower = some l ∧ f.caseClusterBootstrap95.upper = some u ∧
            IsLeast {v | v ∈ caseRatesIn .exact m observations (f.group model.1)} lo ∧
            IsGreatest {v | v ∈ caseRatesIn .exact m observations (f.group model.1)} hi ∧ lo ≤ l ∧ l ≤ u ∧ u ≤ hi)) ∧
    (∀ A m m' expected expected' observations observations' rates rates',
      familyConditionalFailureRateIn A m expected observations = .ok rates →
      familyConditionalFailureRateIn A m' expected' observations' = .ok rates' →
      ∀ model ∈ rates.byModel, ∀ model' ∈ rates'.byModel, ∀ f ∈ model.2, ∀ f' ∈ model'.2,
        f.terminalStatus = .pass → f'.terminalStatus = .pass → f'.group model'.1 = f.group model.1 →
        casesOf m' (f.group model.1) = casesOf m (f.group model.1) →
        (∀ c ∈ casesOf m (f.group model.1),
          ratioOf m' observations' (f.group model.1) c = ratioOf m observations (f.group model.1) c) →
        f'.fcfr = f.fcfr ∧ f'.caseClusterBootstrap95 = f.caseClusterBootstrap95) ∧
    ∀ m expected observations, familyConditionalFailureRateIn .floats m expected observations =
      familyConditionalFailureRate m expected observations := by
  refine ⟨?_, ?_, familyConditionalFailureRateIn_floats⟩
  · intro m expected observations rates h model hmodel f hf hpass
    have hreports := reports_of_rates h hmodel hf hpass
    exact ⟨hreports.scorable, hreports.near_mean, hreports.interval⟩
  · intro A m m' expected expected' observations observations' rates rates' h h' model hmodel model' hmodel' f hf f' hf'
      hpass hpass' hgroup hcases hratios
    have hreports := reports_of_rates h hmodel hf hpass
    have hreports' := reports_of_rates h' hmodel' hf' hpass'
    rw [hgroup] at hreports'
    have hrate : ∀ c ∈ casesOf m (f.group model.1),
        caseRateIn A m' observations' (f.group model.1) c = caseRateIn A m observations (f.group model.1) c := by
      intro c hc
      rw [caseRateIn, caseRateIn, hratios c hc]
    have hfcfr := hreports'.fcfr
    have hbootstrap := hreports'.bootstrap
    rw [hcases, List.map_congr_left hrate, ← hreports.fcfr] at hfcfr
    rw [hcases, List.map_congr_left fun c hc => congrArg (Prod.mk c) (hrate c hc), hreports.bootstrap] at hbootstrap
    exact ⟨hfcfr, (Except.ok.inj hbootstrap).symm⟩

end Results

section Sample
open Python.Ascii

local instance alwaysFirst : PyRandom := firstChoice

theorem bootstrapIn_ok {A : Arithmetic} {rates : List (PyStr × ℚ)} (h : ∀ e ∈ rates, e.1 ≠ [] ∧ 0 ≤ e.2 ∧ e.2 ≤ 1) :
    ∃ b, fcfrCaseClusterBootstrapIn A rates = .ok b := by
  have hchecked : ((rates.insertionSort fun x y => strLe x.1 y.1 = true).forM fun e => do
      check (e.1 ≠ []) (valueError "FCFR cluster keys must be non-empty case IDs")
      check (0 ≤ e.2 ∧ e.2 ≤ 1) (valueError "FCFR case estimates must be finite probabilities")) = .ok () := by
    rw [forM_eq_ok_iff]
    intro e he
    simp only [bind_eq_ok_iff, exists_unit_iff, check_eq_ok_iff]
    exact h e ((List.mem_insertionSort _).mp he)
  unfold fcfrCaseClusterBootstrapIn
  dsimp only
  rw [hchecked]
  by_cases hfew : ((rates.insertionSort fun x y => strLe x.1 y.1 = true).map Prod.snd).length < 2
  · exact ⟨_, if_pos hfew⟩
  · exact ⟨_, if_neg hfew⟩

/-- Every case of the benchmark has failed: the table holds one family of three cases. -/
theorem benchmarkCases : ∃ cfp, (⟨benchmarkPlan, benchmarkRecords benchmarkPlan true⟩ : Grid).caseFailureProbabilityIn .exact
    frozenBenchmark = .ok cfp ∧ ∃ cases, cfp.byModel = [(py "model-a", cases)] ∧
      familyKeys cases.cases = [(py "E11", py "constraint-action-persistence")] ∧
      (∀ c ∈ cases.cases, c.terminalStatus = .pass) ∧
      caseEstimates (cases.cases.filter fun c => c.entryId = py "E11" ∧ c.familyId = py "constraint-action-persistence") =
        [(py "case-1", 1), (py "case-2", 1), (py "case-3", 1)] := by
  have hreturns : returns ((⟨benchmarkPlan, benchmarkRecords benchmarkPlan true⟩ : Grid).caseFailureProbabilityIn .exact
      frozenBenchmark) (fun cfp => decide (cfp.byModel.map Prod.fst = [py "model-a"]) && cfp.byModel.all fun r =>
        decide (familyKeys r.2.cases = [(py "E11", py "constraint-action-persistence")]) &&
        (decide (∀ c ∈ r.2.cases, c.terminalStatus = .pass) &&
        decide (caseEstimates (r.2.cases.filter fun c => c.entryId = py "E11" ∧ c.familyId = py "constraint-action-persistence") =
          [(py "case-1", 1), (py "case-2", 1), (py "case-3", 1)]))) = true := by decide +kernel
  obtain ⟨cfp, hcfp, htable⟩ := exists_of_returns hreturns
  rw [Bool.and_eq_true, decide_eq_true_eq, List.all_eq_true] at htable
  obtain ⟨⟨model, cases⟩, rest, hbyModel, hmodel, hrest⟩ := List.map_eq_cons_iff.mp htable.1
  rw [List.map_eq_nil_iff] at hrest
  obtain rfl : model = py "model-a" := hmodel
  subst hrest
  have hrow := htable.2 (py "model-a", cases) (by rw [hbyModel]; exact List.mem_cons_self)
  simp only [Bool.and_eq_true, decide_eq_true_eq] at hrow
  exact ⟨cfp, hcfp, cases, hbyModel, hrow⟩

/-- The rate of that family in exact arithmetic. -/
theorem fcfr_counts_cases_once_sample : ∃ rates model f q,
    familyConditionalFailureRateIn .exact frozenBenchmark benchmarkArtifacts (benchmarkRecords benchmarkPlan true) = .ok rates ∧
      model ∈ rates.byModel ∧ f ∈ model.2 ∧ f.terminalStatus = .pass ∧ f.fcfr = some q ∧
      |q - mean ((casesOf frozenBenchmark (f.group model.1)).map
        (ratioOf frozenBenchmark (benchmarkRecords benchmarkPlan true) (f.group model.1)))| ≤ 1 / 10 ^ 12 := by
  obtain ⟨cfp, hcfp, cases, hbyModel, hkeys, hpass, hestimates⟩ := benchmarkCases
  have hrates : ∀ e ∈ ([(py "case-1", 1), (py "case-2", 1), (py "case-3", 1)] : List (PyStr × ℚ)),
      e.1 ≠ [] ∧ 0 ≤ e.2 ∧ e.2 ≤ 1 := by decide +kernel
  obtain ⟨b, hb⟩ := bootstrapIn_ok (A := .exact) hrates
  have hrate : ∃ f, familyRateIn .exact cases.cases (py "E11", py "constraint-action-persistence") = .ok f ∧
      f.terminalStatus = .pass := by
    have hvalid : ¬((∃ c ∈ cases.cases.filter (fun c => c.entryId = py "E11" ∧ c.familyId = py "constraint-action-persistence"),
        c.terminalStatus ≠ .pass) ∨ caseEstimates (cases.cases.filter fun c => c.entryId = py "E11" ∧
          c.familyId = py "constraint-action-persistence") = []) := by
      rintro (⟨c, hc, hfails⟩ | hnone)
      · exact hfails (hpass c (List.mem_of_mem_filter hc))
      · rw [hestimates] at hnone
        cases hnone
    refine ⟨_, bind_eq_ok_iff.mpr ⟨b, ?_, rfl⟩, if_neg hvalid⟩
    rw [if_neg hvalid, hestimates, hb]
  obtain ⟨f, hf, hfpass⟩ := hrate
  have hrates : ∃ rates, cfp.familyRatesIn .exact = .ok rates ∧ rates.byModel = [(py "model-a", [f])] := by
    refine ⟨_, bind_eq_ok_iff.mpr ⟨[(py "model-a", [f])], ?_, rfl⟩, rfl⟩
    simp only [hbyModel, mapM_eq_ok_iff, List.forall₂_cons, List.Forall₂.nil, and_true, bind_eq_ok_iff, pure_eq_ok_iff,
      Prod.mk.injEq, true_and]
    refine ⟨[f], ?_, rfl⟩
    rw [hkeys]
    exact .cons hf .nil
  obtain ⟨rates, hrates, hmodels⟩ := hrates
  have hgrid := benchmarkRecords_accepted (List.Sublist.refl benchmarkPlan) true
  have hreturned : familyConditionalFailureRateIn .exact frozenBenchmark benchmarkArtifacts
      (benchmarkRecords benchmarkPlan true) = .ok rates :=
    bind_eq_ok_iff.mpr ⟨_, hgrid, bind_eq_ok_iff.mpr ⟨cfp, hcfp, hrates⟩⟩
  have hmodel : (py "model-a", [f]) ∈ rates.byModel := by
    rw [hmodels]
    exact List.mem_cons_self
  obtain ⟨-, ⟨q, hq, hnear⟩, -⟩ := fcfr_counts_cases_once.1 _ _ _ rates hreturned _ hmodel f List.mem_cons_self hfpass
  exact ⟨rates, _, f, q, hreturned, hmodel, List.mem_cons_self, hfpass, hq, hnear⟩

end Sample

end EvaluationLab.BM0
