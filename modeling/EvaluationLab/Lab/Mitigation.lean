import EvaluationLab.Lab.Suite

/-! The mitigation contract, and the sibling runtime that executes it. -/
namespace EvaluationLab.Lab
open Python Effect

/-- The `runtime` object of a contract. -/
structure RuntimeClauses where
  guardType : PyStr
  safeguardId : PyStr
  emptyEvidenceDecision : PyStr
  nonTerminalDecision : PyStr
  allTerminalDecision : PyStr
  terminalStatuses : List PyStr
  blockingStatuses : List PyStr
  deriving DecidableEq

structure MitigationSpec where
  schemaVersion : PyStr
  mitigationId : PyStr
  targetFailure : PyStr
  intervention : PyStr
  control : PyStr
  treatment : PyStr
  decisionRule : PyStr
  metrics : List PyStr
  regressionCases : List PyStr
  runtime : RuntimeClauses
  deriving DecidableEq

/-- What `companion_mind.runtime.MitigationSpec` tells of a contract. -/
structure RuntimeSpec where
  schemaVersion : Json
  fingerprint : Json
  mitigationId : Json

/-- The package `companion_mind.runtime`, where it is installed: what it reads in a contract, the
safeguard its guard names, and what the guard decides at each of its calls. -/
structure CompanionRuntime where
  fromMapping : MitigationSpec → Except PyExc RuntimeSpec
  closureGuard : RuntimeSpec → Except PyExc Json
  evaluate : ℕ → List Child → Except PyExc Json

variable [PyUnicode]

/-- `_string_array`. -/
def stringArray (document : List (PyStr × Json)) (key path : PyStr) : Except PyExc (List PyStr) := do
  let items ← nonEmptyArray (dictGet document key)
    (path ++ py ": " ++ PyUnicode.repr key ++ py " must be a non-empty array")
  items.zipIdx.mapM fun item => do
    let text ← nonEmptyText item.1 (path ++ py ": " ++ indexed key item.2 ++ py " must be a non-empty string")
    return strip text

/-- `validate_mitigation_spec`. -/
def validateMitigationSpec (companion : CompanionRuntime) (path : PyStr) (document : Json) :
    Except PyExc MitigationSpec := do
  let fields ← mapping document (path ++ py ": mitigation spec must be an object")
  let schemaVersion ← requiredText fields "schema_version" path
  let mitigationId ← requiredText fields "mitigation_id" path
  let targetFailure ← requiredText fields "target_failure" path
  let intervention ← requiredText fields "intervention" path
  let control ← requiredText fields "control" path
  let treatment ← requiredText fields "treatment" path
  let decisionRule ← requiredText fields "decision_rule" path
  check (schemaVersion = py "mitigation-spec/v1")
    (valueError (path ++ py ": unsupported schema_version " ++ PyUnicode.repr schemaVersion))
  check (targetFailure = py "premature_parent_closure")
    (valueError (path ++ py ": unsupported target_failure " ++ PyUnicode.repr targetFailure))
  let runtime ← mapping (dictGet fields "runtime") (path ++ py ": 'runtime' must be an object")
  let guardType ← requiredText runtime "guard_type" path
  let safeguardId ← requiredText runtime "safeguard_id" path
  let emptyEvidenceDecision ← requiredText runtime "empty_evidence_decision" path
  let nonTerminalDecision ← requiredText runtime "non_terminal_decision" path
  let allTerminalDecision ← requiredText runtime "all_terminal_decision" path
  let terminal ← stringArray runtime "terminal_statuses" path
  let blocking ← stringArray runtime "blocking_statuses" path
  let terminal := sortedTexts (terminal.map PyUnicode.upper)
  let blocking := sortedTexts (blocking.map PyUnicode.upper)
  let overlap := (terminal.filter (· ∈ blocking)).dedup
  check (overlap = [])
    (valueError (path ++ py ": terminal and blocking statuses overlap: " ++ joinTexts (sortedTexts overlap)))
  let metrics ← stringArray fields "metrics" path
  let regressionCases ← stringArray fields "regression_cases" path
  let spec : MitigationSpec := ⟨schemaVersion, mitigationId, targetFailure, intervention, control, treatment,
    decisionRule, metrics, regressionCases, ⟨guardType, safeguardId, emptyEvidenceDecision, nonTerminalDecision,
      allTerminalDecision, terminal, blocking⟩⟩
  let _ ← companion.fromMapping spec
  return spec

/-- `_runtime_guard`: the safeguard the guard names, and the contract as the runtime read it. -/
def runtimeGuard (companion : CompanionRuntime) (spec : MitigationSpec) : Except PyExc (Json × RuntimeSpec) := do
  let runtimeSpec ← companion.fromMapping spec
  let safeguardId ← companion.closureGuard runtimeSpec
  return (safeguardId, runtimeSpec)

end EvaluationLab.Lab
