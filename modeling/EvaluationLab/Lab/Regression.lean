import EvaluationLab.Lab.Experiment

/-! When a regression gate that passes has caught the known-bad policy. -/
namespace EvaluationLab.Lab
open Python Effect

section Counting

variable {α : Type}

/-- A policy is wrong on what it accepts against the label and on what it refuses against it. -/
theorem length_wrong (accepts expected : α → Bool) (cases : List α) :
    (cases.filter fun c => accepts c != expected c).length =
      cases.countP (fun c => !expected c && accepts c) + cases.countP fun c => expected c && !accepts c := by
  induction cases with
  | nil => rfl
  | cons c cases ih =>
    cases ha : accepts c <;> cases he : expected c <;>
      simp only [List.filter_cons, List.countP_cons, ha, he, bne_self_eq_false, Bool.true_bne, Bool.false_bne,
        Bool.not_true, Bool.not_false, Bool.and_true, Bool.and_false, if_true, Bool.false_eq_true, if_false,
        List.length_cons] <;> omega

theorem countP_rejected (accepts expected : α → Bool) (cases : List α) :
    cases.countP (fun c => !expected c) =
      cases.countP (fun c => !expected c && accepts c) + cases.countP fun c => !expected c && !accepts c := by
  induction cases with
  | nil => rfl
  | cons c cases ih =>
    cases ha : accepts c <;> cases he : expected c <;>
      simp only [List.countP_cons, ha, he, Bool.not_true, Bool.not_false, Bool.and_true, Bool.and_false, if_true,
        Bool.false_eq_true, if_false] <;> omega

/-- As many mistakes as cases to reject: mistakes on the other cases make up for cases rejected. -/
theorem length_wrong_eq_iff (accepts expected : α → Bool) (cases : List α) :
    (cases.filter fun c => accepts c != expected c).length = cases.countP (fun c => !expected c) ↔
      cases.countP (fun c => expected c && !accepts c) = cases.countP fun c => !expected c && !accepts c := by
  rw [length_wrong, countP_rejected accepts]
  omega

/-- A loop that adds one member at each step. -/
theorem foldlM_length {β : Type} {f : List β → α → Except PyExc (List β)}
    (hstep : ∀ acc x acc', f acc x = .ok acc' → acc'.length = acc.length + 1) {xs : List α} {acc r : List β}
    (h : xs.foldlM f acc = .ok r) : r.length = acc.length + xs.length := by
  induction xs generalizing acc with
  | nil =>
    rw [List.foldlM_nil, pure_eq_ok_iff] at h
    subst h
    simp
  | cons x xs ih =>
    rw [List.foldlM_cons] at h
    obtain ⟨acc', hx, hrest⟩ := bind_eq_ok_iff.mp h
    have hlength := hstep acc x acc' hx
    rw [ih hrest, hlength, List.length_cons]
    omega

end Counting

section Historical

/-- The reference gate is right on every case. -/
def GateRight (suite : HistoricalBenchmarkSuite) : Prop :=
  ∀ c ∈ suite.cases, constraintGatePolicy c = c.expectedAccept

/-- The known-bad baseline accepts every case that must be rejected. -/
def BaselineFalls (suite : HistoricalBenchmarkSuite) : Prop :=
  ∀ c ∈ suite.cases, c.expectedAccept = false → confidenceOnlyBaseline c = true

/-- The labels are balanced, and the baseline rejects as many cases of one label as of the other,
some of them rightly. -/
def MistakesTraded (suite : HistoricalBenchmarkSuite) : Prop :=
  suite.cases.countP (fun c => !c.expectedAccept) = suite.cases.countP (fun c => c.expectedAccept) ∧
  suite.cases.countP (fun c => c.expectedAccept) = suite.mechanisms.length ∧
  suite.cases.countP (fun c => c.expectedAccept && !confidenceOnlyBaseline c) =
    suite.cases.countP (fun c => !c.expectedAccept && !confidenceOnlyBaseline c) ∧
  ∃ c ∈ suite.cases, c.expectedAccept = false ∧ confidenceOnlyBaseline c = false

theorem cases_ne_nil [PyUnicode] {path : PyStr} {document : Json} {suite : HistoricalBenchmarkSuite}
    (h : loadHistoricalBenchmark path document = .ok suite) : suite.cases ≠ [] := by
  unfold loadHistoricalBenchmark at h
  simp only [bind_eq_ok_iff, exists_unit_iff, check_eq_ok_iff, pure_eq_ok_iff] at h
  obtain ⟨root, -, fields, -, privacy, -, -, scope, -, mechanisms, -, cases, hcases, -, -, -, -, -, -, -, -, -, -, -, -,
    -, -, -, -, rfl⟩ := h
  unfold validateHistoricalCases at hcases
  simp only [bind_eq_ok_iff, exists_unit_iff, check_eq_ok_iff, pure_eq_ok_iff] at hcases
  obtain ⟨items, hitems, loaded, hloaded, -, rfl⟩ := hcases
  have hlength := foldlM_length (fun acc raw acc' hstep => by
    unfold loadHistoricalCase at hstep
    simp only [bind_eq_ok_iff, exists_unit_iff, check_eq_ok_iff, pure_eq_ok_iff] at hstep
    obtain ⟨-, -, -, -, -, -, -, -, -, -, -, -, -, -, -, -, -, -, -, -, -, -, -, -, -, -, -, -, -, -, -, rfl⟩ := hstep
    simp) hloaded
  have hne : items ≠ [] := by
    unfold nonEmptyArray at hitems
    split at hitems
    · simp only [bind_eq_ok_iff, exists_unit_iff, check_eq_ok_iff, pure_eq_ok_iff] at hitems
      obtain ⟨hne, rfl⟩ := hitems
      exact hne
    · cases hitems
  have hpos := List.length_pos_iff.mpr hne
  rw [List.length_nil, List.length_zipIdx, zero_add] at hlength
  apply List.ne_nil_of_length_pos
  show 0 < loaded.length
  omega

/-- The benchmark always runs on a loaded suite, and passes on counts alone. -/
theorem runHistoricalBenchmark_pass_iff {suite : HistoricalBenchmarkSuite} (hne : suite.cases ≠ []) :
    ∃ result, runHistoricalBenchmark suite = .ok result ∧ (result.regression.status = .pass ↔
      suite.cases.countP (fun c => c.expectedAccept && !confidenceOnlyBaseline c) =
        suite.cases.countP (fun c => !c.expectedAccept && !confidenceOnlyBaseline c) ∧ GateRight suite ∧
      suite.cases.countP (fun c => !c.expectedAccept) = suite.cases.countP (fun c => c.expectedAccept) ∧
      suite.cases.countP (fun c => c.expectedAccept) = suite.mechanisms.length) := by
  unfold runHistoricalBenchmark evaluateHistoricalPolicy evaluate
  obtain ⟨baseline, hbaseline, hbad⟩ := tallyFrom_pure ⟨HistoricalCase.variantId,
    fun c => (⟨c.variantId, c.mechanismId, c.variant⟩ : HistoricalLabel), HistoricalCase.expectedAccept⟩
    confidenceOnlyBaseline 0 ⟨[], [], 0, 0⟩ suite.cases
  obtain ⟨treatment, htreatment, hwrong⟩ := tallyFrom_pure ⟨HistoricalCase.variantId,
    fun c => (⟨c.variantId, c.mechanismId, c.variant⟩ : HistoricalLabel), HistoricalCase.expectedAccept⟩
    constraintGatePolicy 0 ⟨[], [], 0, 0⟩ suite.cases
  have hchecked : check (suite.cases ≠ []) (valueError "at least one historical evaluation case is required") =
    .ok () := check_of hne
  rw [hchecked, hbaseline, htreatment]
  refine ⟨_, rfl, ?_⟩
  dsimp only
  rw [GateStatus.of_eq_pass, hbad, hwrong, List.nil_append, List.nil_append, List.length_map, length_wrong_eq_iff,
    List.map_eq_nil_iff, List.filter_eq_nil_iff]
  simp only [GateRight, bne_iff_ne, ne_eq, not_not]

theorem historical_caught_iff {suite : HistoricalBenchmarkSuite} (hne : suite.cases ≠ []) :
    ∃ result, runHistoricalBenchmark suite = .ok result ∧
      ((result.regression.status = .pass → GateRight suite ∧ BaselineFalls suite) ↔
        ¬ (GateRight suite ∧ MistakesTraded suite)) := by
  obtain ⟨result, hrun, hpass⟩ := runHistoricalBenchmark_pass_iff hne
  refine ⟨result, hrun, ?_⟩
  rw [hpass]
  constructor
  · rintro hcaught ⟨hgate, hbalanced, hmechanisms, htraded, c, hc, hreject, hrejected⟩
    have hfalls := (hcaught ⟨htraded, hgate, hbalanced, hmechanisms⟩).2 c hc hreject
    rw [hrejected] at hfalls
    cases hfalls
  · rintro hnot ⟨htraded, hgate, hbalanced, hmechanisms⟩
    refine ⟨hgate, ?_⟩
    intro c hc hreject
    by_contra hrefused
    exact hnot ⟨hgate, hbalanced, hmechanisms, htraded, c, hc, hreject, Bool.eq_false_of_not_eq_true hrefused⟩

end Historical

section Closure

variable [PyUnicode]

/-- The guard is right on every case. -/
def GuardRight (companion : CompanionRuntime) (suite : CaseSuite) : Prop :=
  ∀ i c, suite.cases[i]? = some c → treatmentPolicy companion i c = .ok c.expectedClose

/-- The known-bad policy closes some parent that must stay open. -/
def ClosesEarly (suite : CaseSuite) : Prop :=
  ∃ c ∈ suite.cases, c.expectedClose = false ∧ naiveAnyDone c.children = true

/-- The known-bad policy leaves some parent open that may be closed. -/
def LeavesOpen (suite : CaseSuite) : Prop :=
  ∃ c ∈ suite.cases, c.expectedClose = true ∧ naiveAnyDone c.children = false

theorem runExperiment_pass_iff {companion : CompanionRuntime} {suite : CaseSuite} {mitigation : Json}
    {result : ExperimentResult} (h : runExperiment companion suite mitigation = .ok result) :
    result.regression.status = .pass ↔ (ClosesEarly suite ∨ LeavesOpen suite) ∧ GuardRight companion suite := by
  unfold runExperiment at h
  simp only [bind_eq_ok_iff, exists_unit_iff, check_eq_ok_iff] at h
  obtain ⟨-, -, -, -, -, ⟨guardSafeguardId, runtimeSpec⟩, -, h⟩ := h
  simp only [pure_eq_ok_iff] at h
  obtain ⟨baseline, -, treatment, htreatment, probe, hprobe, rfl⟩ := h
  dsimp only
  rw [GateStatus.of_eq_pass]
  unfold evaluatePolicy evaluate at htreatment hprobe
  simp only [bind_eq_ok_iff, exists_unit_iff, check_eq_ok_iff, pure_eq_ok_iff] at htreatment hprobe
  obtain ⟨-, t, ht, rfl⟩ := htreatment
  obtain ⟨-, p, hp, rfl⟩ := hprobe
  obtain ⟨p', hp', hfailures⟩ := tallyFrom_pure ⟨Case.variantId, Case.variantId, Case.expectedClose⟩
    (fun c => naiveAnyDone c.children) 0 ⟨[], [], 0, 0⟩ suite.cases
  rw [hp] at hp'
  cases hp'
  have hguard : t.failures = [] ↔ GuardRight companion suite := by
    rw [tallyFrom_failures_nil ht]
    simp [GuardRight]
  have hnaive : p.failures ≠ [] ↔ ClosesEarly suite ∨ LeavesOpen suite := by
    rw [hfailures, List.nil_append, Ne, List.map_eq_nil_iff, List.filter_eq_nil_iff]
    push Not
    constructor
    · rintro ⟨c, hc, hwrong⟩
      cases hexpected : c.expectedClose with
      | false => exact .inl ⟨c, hc, hexpected, by simpa [hexpected] using hwrong⟩
      | true => exact .inr ⟨c, hc, hexpected, by simpa [hexpected] using hwrong⟩
    · rintro (⟨c, hc, hexpected, hclosed⟩ | ⟨c, hc, hexpected, hopen⟩)
      · exact ⟨c, hc, by simp [hexpected, hclosed]⟩
      · exact ⟨c, hc, by simp [hexpected, hopen]⟩
  dsimp only
  rw [hguard, hnaive]

theorem experiment_caught_iff {companion : CompanionRuntime} {suite : CaseSuite} {mitigation : Json}
    {result : ExperimentResult} (h : runExperiment companion suite mitigation = .ok result) :
    (result.regression.status = .pass → GuardRight companion suite ∧ ClosesEarly suite) ↔
      (GuardRight companion suite → LeavesOpen suite → ClosesEarly suite) := by
  rw [runExperiment_pass_iff h]
  constructor
  · intro hcaught hguard hleaves
    exact (hcaught ⟨.inr hleaves, hguard⟩).2
  · rintro htells ⟨hcloses | hleaves, hguard⟩
    · exact ⟨hguard, hcloses⟩
    · exact ⟨hguard, htells hguard hleaves⟩

/-- A historical regression that passes has caught the baseline on every trap unless its mistakes on
controls make up for traps it saw; a closure regression that passes has caught the naive policy
closing early unless all it does wrong is to leave parents open. -/
theorem regression_catches_iff :
    (∀ path document suite, loadHistoricalBenchmark path document = .ok suite →
      ∃ result, runHistoricalBenchmark suite = .ok result ∧
        ((result.regression.status = .pass → GateRight suite ∧ BaselineFalls suite) ↔
          ¬ (GateRight suite ∧ MistakesTraded suite))) ∧
    (∀ path document suite companion mitigation result, loadCaseSuite path document = .ok suite →
      runExperiment companion suite mitigation = .ok result →
        ((result.regression.status = .pass → GuardRight companion suite ∧ ClosesEarly suite) ↔
          (GuardRight companion suite → LeavesOpen suite → ClosesEarly suite))) := by
  constructor
  · intro path document suite hload
    exact historical_caught_iff (cases_ne_nil hload)
  · intro path document suite companion mitigation result _ hrun
    exact experiment_caught_iff hrun

end Closure

section Frozen
open Python.Ascii

/-- A trap the baseline rejects, and a control it rejects too. -/
def tradedDocument : Json := .obj [("historical_benchmark", .obj [
  ("privacy", .str "PUBLIC_SAFE"),
  ("source_scope", .obj [("mechanism_clusters", .int 1), ("public_cases", .int 2), ("observations", .int 1),
    ("raw_categories", .int 1)]),
  ("mechanisms", .arr [.obj [("mechanism_id", .str "M1"), ("name", .str "closure"), ("gate", .str "evidence"),
    ("source_categories", .str "one")]]),
  ("inputs", .arr [
    .obj [("variant_id", .str "M1-TRAP"), ("mechanism_id", .str "M1"), ("variant", .str "TRAP"),
      ("evidence_state", .str "UNKNOWN"), ("surface_confidence", .str "LOW"), ("expected_accept", .bool false),
      ("constraints", .arr [.obj [("constraint_id", .str "K1"), ("status", .str "UNKNOWN")]]),
      ("scenario", .str "open child"), ("candidate", .str "close")],
    .obj [("variant_id", .str "M1-CONTROL"), ("mechanism_id", .str "M1"), ("variant", .str "CONTROL"),
      ("evidence_state", .str "SUPPORTED"), ("surface_confidence", .str "LOW"), ("expected_accept", .bool true),
      ("constraints", .arr [.obj [("constraint_id", .str "K1"), ("status", .str "PASS")]]),
      ("scenario", .str "all closed"), ("candidate", .str "close")]]),
  ("benchmark_id", .str "BENCH"), ("title", .str "Traded"), ("run_id", .str "RUN")])]

def tradedSuite : HistoricalBenchmarkSuite where
  benchmarkId := "BENCH"
  title := "Traded"
  runId := "RUN"
  privacy := "PUBLIC_SAFE"
  sourceObservations := 1
  sourceCategories := 1
  mechanisms := [⟨"M1", "closure", "evidence", "one"⟩]
  cases := [
    ⟨"M1-TRAP", "M1", .trap, "open child", "close", .low, .unknown, [⟨"K1", .unknown⟩], false⟩,
    ⟨"M1-CONTROL", "M1", .control, "all closed", "close", .low, .supported, [⟨"K1", .pass⟩], true⟩]

theorem load_tradedDocument : loadHistoricalBenchmark "suite.json" tradedDocument = .ok tradedSuite := by
  decide +kernel

/-- A parent whose only child was cancelled may be closed. -/
def cancelledDocument : Json := .obj [
  ("privacy", .str "PUBLIC_SAFE"), ("case_id", .str "EVAL-CASE-001"), ("title", .str "Cancelled"),
  ("run_id", .str "RUN"), ("mitigation_id", .str "MIT-CLOSURE-GUARD-001"), ("safeguard_id", .str "CM-GUARD-001"),
  ("inputs", .arr [.obj [("variant_id", .str "all-cancelled"), ("expected_close", .bool true),
    ("children", .arr [.obj [("child_id", .str "quick-check"), ("status", .str "CANCELLED")]])]])]

def cancelledSuite : CaseSuite where
  caseId := "EVAL-CASE-001"
  title := "Cancelled"
  runId := "RUN"
  mitigationId := "MIT-CLOSURE-GUARD-001"
  safeguardId := "CM-GUARD-001"
  privacy := "PUBLIC_SAFE"
  cases := [⟨"all-cancelled", [⟨"quick-check", "CANCELLED"⟩], true⟩]

theorem load_cancelledDocument : loadCaseSuite "suite.json" cancelledDocument = .ok cancelledSuite := by
  decide +kernel

/-- `BUILTIN_MITIGATION_SPEC`. -/
def builtinMitigationSpec : Json := .obj [
  ("schema_version", .str "mitigation-spec/v1"), ("mitigation_id", .str "MIT-CLOSURE-GUARD-001"),
  ("target_failure", .str "premature_parent_closure"),
  ("intervention", .str "Require every required child to be terminal before closure."),
  ("control", .str "naive_any_done"), ("treatment", .str "companion_mind.runtime.ClosureGuard"),
  ("metrics", .arr [.str "accuracy", .str "premature_closure_rate", .str "known_bad_failures_detected"]),
  ("decision_rule", .str (py "Adopt only when premature closure falls to zero, the all-terminal case " ++
    py "remains accepted, and the known-bad regression probe still fails.")),
  ("regression_cases", .arr [.str "EVAL-CASE-001"]),
  ("runtime", .obj [("guard_type", .str "closure_guard"), ("safeguard_id", .str "CM-GUARD-001"),
    ("terminal_statuses", .arr [.str "CANCELLED", .str "DONE"]),
    ("blocking_statuses", .arr [.str "BLOCKED", .str "OPEN", .str "PENDING", .str "UNKNOWN", .str "WAITING",
      .str "WAITING-EXTERNAL", .str "WAITING-ON-TRIGGER"]),
    ("empty_evidence_decision", .str "HOLD"), ("non_terminal_decision", .str "REJECT"),
    ("all_terminal_decision", .str "ACCEPT")])]

/-- A guard that accepts a parent all of whose children are terminal. -/
def terminalGuard : CompanionRuntime where
  fromMapping spec := .ok ⟨.str spec.schemaVersion, .str "fingerprint", .str spec.mitigationId⟩
  closureGuard _ := .ok (.str "CM-GUARD-001")
  evaluate _ children := .ok (.str (if children.all fun child => child.status = py "CANCELLED" ∨ child.status = py "DONE"
    then "ACCEPT" else "REJECT"))

theorem runs_cancelledSuite : ∃ result, runExperiment terminalGuard cancelledSuite builtinMitigationSpec = .ok result := by
  have hruns : (runExperiment terminalGuard cancelledSuite builtinMitigationSpec).isOk = true := by decide +kernel
  cases h : runExperiment terminalGuard cancelledSuite builtinMitigationSpec with
  | ok result => exact ⟨result, rfl⟩
  | error e =>
    rw [h] at hruns
    cases hruns

/-- Both gates pass without the known-bad policy caught: on a baseline that rejects the trap and the
control alike, and on a parent that the naive policy leaves open. -/
theorem passes_without_catching :
    (∃ document suite result, loadHistoricalBenchmark "suite.json" document = .ok suite ∧
      runHistoricalBenchmark suite = .ok result ∧ result.regression.status = .pass ∧ ¬ BaselineFalls suite) ∧
    ∃ document suite companion mitigation result, loadCaseSuite "suite.json" document = .ok suite ∧
      runExperiment companion suite mitigation = .ok result ∧ result.regression.status = .pass ∧ ¬ ClosesEarly suite := by
  constructor
  · obtain ⟨result, hrun, hpass⟩ := runHistoricalBenchmark_pass_iff (show tradedSuite.cases ≠ [] by decide)
    refine ⟨tradedDocument, tradedSuite, result, load_tradedDocument, hrun, hpass.mpr ?_, ?_⟩
    · unfold GateRight
      decide
    · unfold BaselineFalls
      decide
  · obtain ⟨result, hrun⟩ := runs_cancelledSuite
    refine ⟨cancelledDocument, cancelledSuite, terminalGuard, builtinMitigationSpec, result, load_cancelledDocument,
      hrun, ?_, ?_⟩
    · have hright : GuardRight terminalGuard cancelledSuite := by
        intro i c hc
        cases i with
        | zero =>
          cases hc
          decide +kernel
        | succ i => cases hc
      have hleaves : LeavesOpen cancelledSuite := by
        unfold LeavesOpen
        decide +kernel
      exact (runExperiment_pass_iff hrun).mpr ⟨.inr hleaves, hright⟩
    · unfold ClosesEarly
      decide +kernel

/-- The characterisation at the two suites above. -/
theorem regression_catches_iff_frozen :
    (∃ result, runHistoricalBenchmark tradedSuite = .ok result ∧
      ((result.regression.status = .pass → GateRight tradedSuite ∧ BaselineFalls tradedSuite) ↔
        ¬ (GateRight tradedSuite ∧ MistakesTraded tradedSuite))) ∧
    ∃ result, runExperiment terminalGuard cancelledSuite builtinMitigationSpec = .ok result ∧
      ((result.regression.status = .pass → GuardRight terminalGuard cancelledSuite ∧ ClosesEarly cancelledSuite) ↔
        (GuardRight terminalGuard cancelledSuite → LeavesOpen cancelledSuite → ClosesEarly cancelledSuite)) := by
  obtain ⟨result, hrun⟩ := runs_cancelledSuite
  exact ⟨regression_catches_iff.1 "suite.json" tradedDocument tradedSuite load_tradedDocument, result, hrun,
    regression_catches_iff.2 "suite.json" cancelledDocument cancelledSuite terminalGuard builtinMitigationSpec result
      load_cancelledDocument hrun⟩

end Frozen

end EvaluationLab.Lab
