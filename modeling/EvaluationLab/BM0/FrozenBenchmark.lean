import EvaluationLab.BM0.VerdictRecord
import EvaluationLab.Python.AsciiRuntime

/-! A frozen benchmark of one model: a hidden case with a retry, a second hidden case and a control. -/
namespace EvaluationLab.BM0
open Python Effect QA0

/-- A benchmark case: its id, the alias and commitment of its corpus item, and its pool. -/
structure BenchmarkCase where
  caseId : PyStr
  corpusItemAlias : PyStr
  corpusItemCommitment : PyStr
  pool : Pool

def firstHiddenCase : BenchmarkCase where
  caseId := "case-1"
  corpusItemAlias := "item-1"
  corpusItemCommitment := "sha256:1111111111111111111111111111111111111111111111111111111111111111"
  pool := .privateHiddenHoldout

def secondHiddenCase : BenchmarkCase where
  caseId := "case-2"
  corpusItemAlias := "item-2"
  corpusItemCommitment := "sha256:2222222222222222222222222222222222222222222222222222222222222222"
  pool := .privateHiddenHoldout

def controlCase : BenchmarkCase where
  caseId := "case-3"
  corpusItemAlias := "item-3"
  corpusItemCommitment := "sha256:3333333333333333333333333333333333333333333333333333333333333333"
  pool := .control

def benchmarkDeclared (c : BenchmarkCase) (trialId : PyStr) : Declared where
  benchmarkId := "benchmark-1"
  trialId := trialId
  providerSubjectId := "provider-a"
  modelSubjectId := "model-a"
  requestedModelId := "model-a"
  endpointId := "endpoint-a"
  capabilityMode := "DIRECT"
  systemWrapperVersion := "v1"
  developerWrapperVersion := "v1"
  targetId := "BM0-TUT-E11-QA2-CONSTRAINT-ACTION-PERSISTENCE"
  targetClass := .modelDirect
  applicabilityResult := .applicable
  entryId := "E11"
  familyId := "constraint-action-persistence"
  caseId := c.caseId
  variantId := "variant-1"
  mechanismLineageId := "lineage-1"
  caseFingerprint := evidenceFingerprint
  generatorOrMutationVersion := "v1"
  contaminationStatus := .assessedClear
  exposureStatus := c.pool.exposureStatus
  corpusItemAlias := c.corpusItemAlias
  replicateIndex := 0
  promptFingerprint := evidenceFingerprint
  contextFingerprint := evidenceFingerprint
  toolSchemaFingerprint := evidenceFingerprint
  sandboxFingerprint := evidenceFingerprint
  stateMachineFingerprint := evidenceFingerprint
  scorerId := "scorer-1"
  scorerVersion := "v1"
  scorerFingerprint := evidenceFingerprint
  oracleId := "oracle-1"
  oracleVersion := "v1"
  oracleFingerprint := evidenceFingerprint

def benchmarkAttempt (c : BenchmarkCase) (trialId attemptId : PyStr) (parent : Option PyStr) : TrialIdentity where
  toDeclared := benchmarkDeclared c trialId
  studyId := "study-1"
  modelSnapshotId := "model-a-2026"
  expectedResolvedModelOrVersionId := some "model-a-2026"
  requiredIdentityCertainty := .exact
  aliasLimitation := .none
  reasoningControls := ⟨.disabled, none, none, evidenceFingerprint⟩
  corpusPoolId := c.pool
  corpusItemCommitment := c.corpusItemCommitment
  mutationParentCommitment := none
  promptTemplateVersion := "v1"
  harnessVersion := "v1"
  adapterId := "adapter-1"
  adapterVersion := "v1"
  randomSeed := 0
  environmentFingerprint := evidenceFingerprint
  attemptId := attemptId
  parentAttemptId := parent
  samplingControls := ⟨none, none, 64, none, 0, evidenceFingerprint⟩

def firstRoot : TrialIdentity := benchmarkAttempt firstHiddenCase "trial-1" "attempt-1" none
def firstRetry : TrialIdentity := benchmarkAttempt firstHiddenCase "trial-1" "attempt-2" (some "attempt-1")
def secondRoot : TrialIdentity := benchmarkAttempt secondHiddenCase "trial-2" "attempt-3" none
def controlRoot : TrialIdentity := benchmarkAttempt controlCase "trial-3" "attempt-4" none

def benchmarkPlan : List TrialIdentity := [firstRoot, firstRetry, secondRoot, controlRoot]

/-- The model's declaration for a target. -/
def benchmarkApplicability (row : Lineage) : ApplicabilityRecord :=
  let record : ApplicabilityRecord := {
    providerSubjectId := "provider-a"
    modelSubjectId := "model-a"
    requestedModelId := "model-a"
    entryId := row.entryId
    targetId := row.targetId
    familyId := row.familyId
    targetClass := row.targetClass
    capabilityMode := "DIRECT"
    applicabilityResult := .applicable
    comparisonResult := .defaultComparable
    reasonCode := .declaredCapabilitySupported
    evidenceFingerprint := evidenceFingerprint
    declaredBeforeExecution := true }
  match row.targetClass with
  | .systemEvalOnly =>
    { record with
      capabilityMode := "SYSTEM_EVAL"
      applicabilityResult := .notApplicable
      comparisonResult := .notApplicable
      reasonCode := .systemEvalOnlyNoModelTrial }
  | .agentStandardized => { record with comparisonResult := .comparabilityLimit }
  | _ => record

def benchmarkArtifacts : ArtifactFingerprints where
  measurementContractCore := evidenceFingerprint
  targetMatrix := evidenceFingerprint
  metricRegistry := evidenceFingerprint
  corpusPolicy := evidenceFingerprint
  analysisPlan := evidenceFingerprint
  analysisImplementation := evidenceFingerprint

open Python.Ascii

def benchmarkAdjudication : AdjudicationPlan :=
  let plan : AdjudicationPlan := {
    planId := "plan-1"
    metricIds := [.modelFailureRate]
    primaryAdjudicators := [⟨"human-1", evidenceFingerprint⟩, ⟨"human-2", evidenceFingerprint⟩]
    tiebreakAdjudicator := ⟨"human-3", evidenceFingerprint⟩
    rubricVersion := "v1"
    rubricFingerprint := evidenceFingerprint
    planFingerprint := [] }
  { plan with planFingerprint := digestOf (.obj plan.fields) }

def benchmarkHiddenItems : List (PyStr × PyStr) :=
  [firstHiddenCase, secondHiddenCase].map fun c => (c.corpusItemAlias, c.corpusItemCommitment)

def frozenBenchmark : BenchmarkManifest :=
  let manifest : BenchmarkManifest := {
    manifestId := "manifest-1"
    studyState := .frozen
    providerRosterStatus := "SELECTED"
    corpusCommitmentStatus := "SEALED"
    corpusAggregateCommitment := some (digestOf (corpusDocument benchmarkHiddenItems))
    adjudicationMode := "HUMAN_HUMAN"
    adjudicationPlan := some benchmarkAdjudication
    frozenBeforeHiddenAccess := true
    hiddenHoldoutAuthority := ⟨.privateFileId, "authority-1", evidenceFingerprint⟩
    comparisonClasses := defaultComparableClasses
    sandboxEquivalence := ⟨.notEstablished, []⟩
    modelApplicability := canonicalFamilyLineage.map benchmarkApplicability
    artifactFingerprints := benchmarkArtifacts
    plannedAttempts := benchmarkPlan
    plannedAttemptCount := 4
    stopRule := ⟨true, forbiddenEventFields, 4⟩
    manifestFingerprint := [] }
  { manifest with manifestFingerprint := digestOf (.obj manifest.fields) }

theorem benchmarkPlan_valid : ∀ t ∈ benchmarkPlan, validateTrialIdentity t = .ok () := by
  have h : benchmarkPlan.all (fun t => decide (validateTrialIdentity t = .ok ())) = true := by decide +kernel
  intro t ht
  exact of_decide_eq_true (List.all_eq_true.mp h t ht)

theorem benchmarkApplicability_valid :
    validateModelApplicabilityRecords (canonicalFamilyLineage.map benchmarkApplicability) .notEstablished true =
      .ok () := by decide +kernel

/-- The plan has as many attempts as the manifest says. -/
example : benchmarkPlan.length = frozenBenchmark.plannedAttemptCount := by decide +kernel

/-- The computation returns a result that passes the test. -/
def returns {α : Type} (x : Except PyExc α) (p : α → Bool) : Bool :=
  match x with
  | .ok a => p a
  | .error _ => false

theorem exists_of_returns {α : Type} {x : Except PyExc α} {p : α → Bool} (h : returns x p = true) :
    ∃ a, x = .ok a ∧ p a = true := by
  cases x with
  | error e => cases h
  | ok a => exact ⟨a, rfl, h⟩

theorem benchmarkPlan_bound :
    ∃ b, benchmarkPlan.foldlM (bindAttempt (canonicalFamilyLineage.map benchmarkApplicability)) {} = .ok b := by
  have h : returns (benchmarkPlan.foldlM (bindAttempt (canonicalFamilyLineage.map benchmarkApplicability)) {})
      (fun _ => true) = true := by decide +kernel
  obtain ⟨b, hb, -⟩ := exists_of_returns h
  exact ⟨b, hb⟩

/-- A closed document may be published when its strings are clean ASCII. -/
theorem publishable_of_asciiClean {document : Json} (h : (texts document).all asciiClean = true) : CleanJson document :=
  cleanTexts_of_asciiClean h

theorem benchmarkCorpus :
    corpusAggregateCommitment benchmarkPlan = .ok (digestOf (corpusDocument benchmarkHiddenItems)) := by
  have h : returns (benchmarkPlan.foldlM bindCorpusItem {})
      (fun b => b.hiddenItems = benchmarkHiddenItems ∧ b.mutationParents = []) = true := by decide +kernel
  obtain ⟨b, hb, hitems⟩ := exists_of_returns h
  obtain ⟨hhidden, hparents⟩ := of_decide_eq_true hitems
  unfold corpusAggregateCommitment
  simp only [bind_eq_ok_iff, exists_unit_iff, check_eq_ok_iff, forM_eq_ok_iff]
  refine ⟨benchmarkPlan_valid, b, hb, by simp [hparents], ?_⟩
  rw [hhidden]
  exact sha256Json_digestOf (publishable_of_asciiClean (by decide +kernel)) (by decide +kernel)

theorem benchmarkAdjudication_clean : CleanJson benchmarkAdjudication.toJson := by
  unfold AdjudicationPlan.toJson
  exact sealDocument_clean (publishable_of_asciiClean (by decide +kernel)) (cleanText_of_asciiClean (by decide +kernel))

theorem benchmarkAdjudication_valid : validateAdjudicationPlan benchmarkAdjudication = .ok () := by
  have hassignments : ∀ a ∈ benchmarkAdjudication.primaryAdjudicators.zipIdx,
      checkedAssignment a.1 (py "adjudication-plan" ++ py ".primary_adjudicators[" ++ natText a.2 ++ py "]") = .ok () := by
    decide +kernel
  unfold validateAdjudicationPlan
  simp only [bind_eq_ok_iff, exists_unit_iff, check_eq_ok_iff, forM_eq_ok_iff, assertPublicSafe_ok_iff,
    verifyFingerprint_iff]
  refine ⟨by decide +kernel, by decide +kernel, by decide +kernel, by decide +kernel, by decide +kernel, rfl,
    hassignments, by decide +kernel, by decide +kernel, ?_, ?_⟩
  · intro t ht
    exact (benchmarkAdjudication_clean t ht).1
  · exact sha256Json_digestOf (publishable_of_asciiClean (by decide +kernel)) (by decide +kernel)

/-- The plan of adjudication carries its own digest. -/
example : benchmarkAdjudication.planFingerprint = digestOf (.obj benchmarkAdjudication.fields) := by decide +kernel

/-- The members of the manifest other than its plan of adjudication and its corpus commitment. -/
theorem frozenBenchmark_clean : CleanJson (.obj frozenBenchmark.fields) := by
  have happlicability : CleanJson (.arr ((canonicalFamilyLineage.map benchmarkApplicability).map
      ApplicabilityRecord.toJson)) := publishable_of_asciiClean (by decide +kernel)
  have hattempts : CleanJson (.arr (benchmarkPlan.map TrialIdentity.toJson)) :=
    publishable_of_asciiClean (by decide +kernel)
  have hcorpus : CleanJson (optionalText (some (digestOf (corpusDocument benchmarkHiddenItems)))) := by
    rw [optionalText_some, cleanJson_str]
    exact cleanText_digestOf _
  have hkeys : ∀ k ∈ frozenBenchmark.fields.map Prod.fst, CleanText k :=
    cleanTexts_of_asciiClean (by decide +kernel)
  rw [cleanJson_obj_iff]
  refine ⟨hkeys, ?_⟩
  simp only [BenchmarkManifest.fields, List.map_cons, List.map_nil, List.forall_mem_cons]
  refine ⟨?_, ?_, ?_, ?_, ?_, ?_, ?_, ?_, hcorpus, ?_, benchmarkAdjudication_clean, ?_, ?_, ?_, ?_, happlicability, ?_,
    hattempts, ?_, ?_, by simp⟩
  all_goals exact publishable_of_asciiClean (by decide +kernel)

theorem frozenBenchmark_valid : frozenBenchmark.Frozen benchmarkArtifacts where
  state := rfl
  validated := by
    obtain ⟨b, hb⟩ := benchmarkPlan_bound
    unfold validateBenchmarkManifest
    simp only [bind_eq_ok_iff, exists_unit_iff, check_eq_ok_iff, forM_eq_ok_iff, assertPublicSafe_ok_iff,
      verifyFingerprint_iff, requireSha256_iff]
    refine ⟨by decide +kernel, by decide +kernel, by decide +kernel, ?_, by decide +kernel, ?_, rfl, by decide +kernel,
      by decide +kernel, benchmarkApplicability_valid, by decide +kernel, by simp, ?_, benchmarkPlan_valid,
      by decide +kernel, rfl, by decide +kernel, by decide +kernel, _, benchmarkCorpus, b, hb, by decide +kernel,
      by decide +kernel, by decide +kernel, ?_, ?_, ?_⟩
    · intro c hc
      rw [Option.mem_toList] at hc
      cases hc
      exact isSha256_digestOf _
    · intro p hp
      rw [Option.mem_toList] at hp
      cases hp
      exact benchmarkAdjudication_valid
    · intro e he
      exact Option.some.inj he
    · have hstate : frozenBenchmark.plannedAttempts.isEmpty = false ∧
          ∃ t ∈ frozenBenchmark.plannedAttempts, t.corpusPoolId = .privateHiddenHoldout := by decide +kernel
      unfold checkStudyState
      rw [show frozenBenchmark.studyState = .frozen from rfl, check_eq_ok_iff]
      exact ⟨rfl, rfl, rfl, rfl, rfl, hstate⟩
    · intro t ht
      have hsealed := sealDocument_clean frozenBenchmark_clean
        (cleanText_of_asciiClean (by decide +kernel) : CleanText (py "manifest_fingerprint"))
      exact (hsealed t ht).1
    · exact sha256Json_digestOf frozenBenchmark_clean (by decide +kernel)

/-- When the attempts of the benchmark start and are answered. -/
def benchmarkStarted : PyStr := "2026-07-06T12:05:00Z"
def benchmarkCompleted : PyStr := "2026-07-06T12:06:00Z"

theorem benchmarkPlan_recordable : ∀ t ∈ benchmarkPlan, Recordable t benchmarkStarted benchmarkCompleted := by
  have htimes : returns (do
      let s ← timestamp "bm0-observation.timestamps" "request_started_at" benchmarkStarted
      let c ← timestamp "bm0-observation.timestamps" "response_completed_at" benchmarkCompleted
      return (s, c)) (fun p => p.1 ≤ p.2) = true := by decide +kernel
  have hclean : benchmarkPlan.all (fun t =>
      (texts (.obj t.toDeclared.fields)).all asciiClean && intsPrintable (.obj t.toDeclared.fields) &&
        ((texts t.samplingControls.toJson).all asciiClean && intsPrintable t.samplingControls.toJson) &&
        ((texts t.reasoningControls.toJson).all asciiClean && intsPrintable t.reasoningControls.toJson) &&
        decide (t.requestedModelId ≠ systemScopeId ∧ t.endpointId ≠ systemScopeId)) = true := by decide +kernel
  obtain ⟨p, hp, hle⟩ := exists_of_returns htimes
  simp only [bind_eq_ok_iff, pure_eq_ok_iff] at hp
  obtain ⟨s, hs, c, hc, rfl⟩ := hp
  intro t ht
  have htclean := List.all_eq_true.mp hclean t ht
  simp only [Bool.and_eq_true, decide_eq_true_eq] at htclean
  obtain ⟨⟨⟨⟨hdeclared, hprint⟩, hsampling, hsampling'⟩, hreasoning, hreasoning'⟩, hapart⟩ := htclean
  exact {
    valid := benchmarkPlan_valid t ht
    apart := fun _ => hapart
    declared := ⟨publishable_of_asciiClean hdeclared, hprint⟩
    sampling := sha256Json_digestOf (publishable_of_asciiClean hsampling) hsampling'
    reasoning := sha256Json_digestOf (publishable_of_asciiClean hreasoning) hreasoning'
    ordered := ⟨s, c, hs, hc, of_decide_eq_true hle⟩
    times := ⟨cleanText_of_asciiClean (by decide +kernel), cleanText_of_asciiClean (by decide +kernel)⟩ }

/-- Some attempts of the benchmark, recorded with their verdicts. -/
def benchmarkRecords (attempts : List TrialIdentity) (failed : Bool) : List Observation :=
  attempts.map fun t => verdictRecord t benchmarkStarted benchmarkCompleted failed

/-- Any part of the plan can be recorded. -/
theorem benchmarkRecords_accepted {attempts : List TrialIdentity} (hsub : attempts.Sublist benchmarkPlan)
    (failed : Bool) :
    validateObservationGrid frozenBenchmark benchmarkArtifacts (benchmarkRecords attempts failed) =
      .ok ⟨benchmarkPlan, benchmarkRecords attempts failed⟩ := by
  have hids : (benchmarkPlan.map TrialIdentity.attemptId).Nodup := by decide +kernel
  have hrecords : (benchmarkRecords attempts failed).map Observation.attemptId =
      attempts.map TrialIdentity.attemptId := by
    unfold benchmarkRecords
    rw [List.map_map]
    rfl
  refine validateObservationGrid_iff.mpr ⟨frozenBenchmark_valid, ?_, ?_, rfl⟩
  · rw [hrecords]
    exact hids.sublist (hsub.map _)
  · intro o ho
    obtain ⟨t, ht, rfl⟩ := List.mem_map.mp ho
    have htm : t ∈ benchmarkPlan := hsub.subset ht
    exact ⟨t, attemptOf_of_mem hids htm, (benchmarkPlan_recordable t htm).record_matches failed⟩

end EvaluationLab.BM0
