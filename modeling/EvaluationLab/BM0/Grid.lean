import EvaluationLab.BM0.Observation
import EvaluationLab.BM0.ManifestFacts

/-! The observation grid: the records accepted against the planned attempts of a frozen manifest. -/
namespace EvaluationLab.BM0
open Python Effect QA0

/-- `==` of two members that are texts or integers. -/
def sameMember : Json → Json → Bool
  | .str s, .str t => s == t
  | .int m, .int n => m == n
  | _, _ => false

/-- The declared members on which two documents differ, in the order they are compared. -/
def Declared.differing (a b : Declared) : List PyStr :=
  ((a.fields.zip b.fields).filter fun p => !sameMember p.1.2 p.2.2).map fun p => p.1.1

/-- The observation is about the planned attempt. -/
def checkSameIdentity (o : Observation) (t : TrialIdentity) : Except PyExc Unit :=
  match o.toDeclared.differing t.toDeclared with
  | [] => pure ()
  | key :: _ => throw (valueError (py "observation identity mismatch for " ++ key))

/-- The model that answered is the planned one, or its identity is disclosed as unknown. -/
def checkResolvedIdentity (o : Observation) (t : TrialIdentity) : Except PyExc Unit :=
  if t.requiredIdentityCertainty = .systemScope then
    check (o.identityCertainty = .systemScope ∧ o.resolvedModelOrVersionId = some systemScopeId ∧
        o.aliasLimitation = .notApplicableSystemScope)
      (valueError "system observation identity drifted")
  else
    match o.identityCertainty with
    | .exact =>
      check (t.requiredIdentityCertainty = .exact ∧
          o.resolvedModelOrVersionId = t.expectedResolvedModelOrVersionId ∧
          o.aliasLimitation = t.aliasLimitation)
        (valueError "resolved model identity drifted or silently fell back")
    | .aliasOnly =>
      check (t.requiredIdentityCertainty = .aliasOnly ∧ o.resolvedModelOrVersionId = none ∧
          o.aliasLimitation = .unverifiableAliasDisclosed)
        (valueError "unverifiable alias limitation was not preserved")
    | .unknown =>
      check (o.terminalStatus ∉ modelScorableTerminals ∧ o.resolvedModelOrVersionId = none ∧
          o.aliasLimitation = t.aliasLimitation)
        (valueError "unknown runtime identity did not fail closed")
    | .systemScope => throw (valueError "observation identity certainty drifted")

/-- Texts in the order of `sorted`. -/
def sortTexts (texts : List PyStr) : List PyStr := texts.insertionSort fun s t => strLe s t = true

/-- `validate_observation_grid_v1`'s result. -/
structure Grid where
  planned : List TrialIdentity
  observed : List Observation

/-- `grid["observed"].get(attempt_id)`. -/
def Grid.observationOf (g : Grid) (attemptId : PyStr) : Option Observation :=
  g.observed.find? fun o => o.attemptId = attemptId

/-- `attempt_id in grid["observed"]`. -/
def Grid.isObserved (g : Grid) (t : TrialIdentity) : Bool := (g.observationOf t.attemptId).isSome

/-- `missing_attempt_ids`, over a part of the plan. -/
def Grid.missingOf (g : Grid) (attempts : List TrialIdentity) : List PyStr :=
  sortTexts ((attempts.filter fun t => !g.isObserved t).map TrialIdentity.attemptId)

section Texts

@[simp] theorem TargetClass.text_eq_iff {a b : TargetClass} : a.text = b.text ↔ a = b := by
  constructor
  · intro h
    cases a <;> cases b <;> first | rfl | exact absurd h (by decide)
  · exact congrArg _

@[simp] theorem Applicability.text_eq_iff {a b : Applicability} : a.text = b.text ↔ a = b := by
  constructor
  · intro h
    cases a <;> cases b <;> first | rfl | exact absurd h (by decide)
  · exact congrArg _

@[simp] theorem Contamination.text_eq_iff {a b : Contamination} : a.text = b.text ↔ a = b := by
  constructor
  · intro h
    cases a <;> cases b <;> first | rfl | exact absurd h (by decide)
  · exact congrArg _

@[simp] theorem Exposure.text_eq_iff {a b : Exposure} : a.text = b.text ↔ a = b := by
  constructor
  · intro h
    cases a <;> cases b <;> first | rfl | exact absurd h (by decide)
  · exact congrArg _

end Texts

/-- Nothing differs between two declarations only when they are equal. -/
theorem Declared.eq_of_differing {a b : Declared} (h : a.differing b = []) : a = b := by
  cases a
  cases b
  simpa [differing, fields, subjectFields, caseFields, sameMember] using h

/-- Every member of a declaration is compared with itself without difference. -/
theorem Declared.differing_self (a : Declared) : a.differing a = [] := by
  simp [differing, fields, subjectFields, caseFields, sameMember]

theorem checkSameIdentity_iff {o : Observation} {t : TrialIdentity} :
    checkSameIdentity o t = .ok () ↔ o.toDeclared = t.toDeclared := by
  unfold checkSameIdentity
  constructor
  · intro h
    cases hd : o.toDeclared.differing t.toDeclared with
    | nil => exact Declared.eq_of_differing hd
    | cons key rest => simp [hd] at h
  · intro h
    rw [h, Declared.differing_self]
    rfl

variable [PyRuntime]

/-- One more observation of the grid. -/
def recordObservation (planned : List TrialIdentity) (observed : List Observation) (o : Observation) :
    Except PyExc (List Observation) := do
  validateObservation o
  match attemptOf planned o.attemptId with
  | none => throw (valueError "observation references an unplanned attempt")
  | some t => do
    check (o.attemptId ∉ observed.map Observation.attemptId) (valueError "duplicate observation attempt ID")
    checkSameIdentity o t
    let sampling ← sha256Json t.samplingControls.toJson
    check (o.samplingControlsFingerprint = sampling) (valueError "observation sampling controls drifted")
    let reasoning ← sha256Json t.reasoningControls.toJson
    check (o.reasoningControlsFingerprint = reasoning) (valueError "observation reasoning controls drifted")
    checkResolvedIdentity o t
    return observed ++ [o]

def validateObservationGrid (m : BenchmarkManifest) (expected : ArtifactFingerprints)
    (observations : List Observation) : Except PyExc Grid := do
  validateBenchmarkManifest m (some expected)
  check (m.studyState = .frozen) (valueError "observation grid requires a FROZEN manifest")
  let observed ← observations.foldlM (recordObservation m.plannedAttempts) []
  return ⟨m.plannedAttempts, observed⟩

/-- What the grid establishes of an observation and its planned attempt. -/
structure Observation.Matches (o : Observation) (t : TrialIdentity) : Prop where
  valid : validateObservation o = .ok ()
  declared : o.toDeclared = t.toDeclared
  sampling : sha256Json t.samplingControls.toJson = .ok o.samplingControlsFingerprint
  reasoning : sha256Json t.reasoningControls.toJson = .ok o.reasoningControlsFingerprint
  resolved : checkResolvedIdentity o t = .ok ()

/-- The observation matches the planned attempt of its id. -/
def Recorded (planned : List TrialIdentity) (o : Observation) : Prop :=
  ∃ t, attemptOf planned o.attemptId = some t ∧ o.Matches t

theorem recordObservation_iff {planned : List TrialIdentity} {observed r : List Observation} {o : Observation} :
    recordObservation planned observed o = .ok r ↔
      Recorded planned o ∧ o.attemptId ∉ observed.map Observation.attemptId ∧ r = observed ++ [o] := by
  unfold recordObservation Recorded
  simp only [bind_eq_ok_iff, exists_unit_iff]
  cases hf : attemptOf planned o.attemptId with
  | none => simp
  | some t =>
    simp only [bind_eq_ok_iff, exists_unit_iff, check_eq_ok_iff, pure_eq_ok_iff, checkSameIdentity_iff,
      Option.some.injEq, exists_eq_left']
    constructor
    · rintro ⟨hvalid, hnew, hsame, sampling, hs, rfl, reasoning, hr, rfl, hres, rfl⟩
      exact ⟨⟨hvalid, hsame, hs, hr, hres⟩, hnew, rfl⟩
    · rintro ⟨⟨hvalid, hsame, hs, hr, hres⟩, hnew, rfl⟩
      exact ⟨hvalid, hnew, hsame, _, hs, rfl, _, hr, rfl, hres, rfl⟩

/-- A grid is accepted exactly when the manifest is and every observation matches its own attempt. -/
theorem validateObservationGrid_iff {m : BenchmarkManifest} {expected : ArtifactFingerprints}
    {observations : List Observation} {g : Grid} :
    validateObservationGrid m expected observations = .ok g ↔
      m.Frozen expected ∧ (observations.map Observation.attemptId).Nodup ∧
        (∀ o ∈ observations, Recorded m.plannedAttempts o) ∧
        g = ⟨m.plannedAttempts, observations⟩ := by
  have hfold : ∀ observed, observations.foldlM (recordObservation m.plannedAttempts) [] = .ok observed ↔
      (∀ o ∈ observations, Recorded m.plannedAttempts o) ∧
        (observations.map Observation.attemptId).Nodup ∧ observed = observations := by
    intro observed
    rw [foldlM_collect fun _ _ _ => recordObservation_iff]
    simp
  unfold validateObservationGrid
  simp only [bind_eq_ok_iff, exists_unit_iff, check_eq_ok_iff, pure_eq_ok_iff, hfold]
  constructor
  · rintro ⟨hvalid, hstate, observed, ⟨hall, hnodup, rfl⟩, rfl⟩
    exact ⟨⟨hstate, hvalid⟩, hnodup, hall, rfl⟩
  · rintro ⟨⟨hstate, hvalid⟩, hnodup, hall, rfl⟩
    exact ⟨hvalid, hstate, observations, ⟨hall, hnodup, rfl⟩, rfl⟩

end EvaluationLab.BM0
