import EvaluationLab.Effect.Outcome
import EvaluationLab.Python.Unicode
import EvaluationLab.Python.Value

/-! The documents a case suite and a historical benchmark are loaded from. -/
namespace EvaluationLab.Lab
open Python Effect

section Fields

def nonEmptyText (value : Json) (message : PyStr) : Except PyExc PyStr :=
  match value with
  | .str text => do
    check (strip text ≠ []) (valueError message)
    return text
  | _ => throw (valueError message)

def nonEmptyArray (value : Json) (message : PyStr) : Except PyExc (List Json) :=
  match value with
  | .arr items => do
    check (items ≠ []) (valueError message)
    return items
  | _ => throw (valueError message)

def boolean (value : Json) (message : PyStr) : Except PyExc Bool :=
  match value with
  | .bool b => .ok b
  | _ => throw (valueError message)

def mapping (value : Json) (message : PyStr) : Except PyExc (List (PyStr × Json)) :=
  match value with
  | .obj fields => .ok fields
  | _ => throw (valueError message)

/-- A text that names a member of an enumeration. -/
def member {α : Type} (parsed : Option α) (message : PyStr) : Except PyExc α :=
  match parsed with
  | some value => .ok value
  | none => throw (valueError message)

variable [PyUnicode]

/-- `_required_text`. -/
def requiredText (document : List (PyStr × Json)) (key path : PyStr) : Except PyExc PyStr :=
  nonEmptyText (dictGet document key) (path ++ py ": " ++ PyUnicode.repr key ++ py " must be a non-empty string")

/-- `_positive_integer`. -/
def positiveInteger (document : List (PyStr × Json)) (key path : PyStr) : Except PyExc ℤ :=
  let message := path ++ py ": " ++ PyUnicode.repr key ++ py " must be a positive integer"
  match dictGet document key with
  | .int n => do
    check (1 ≤ n) (valueError message)
    return n
  | _ => throw (valueError message)

/-- `f"{label}[{index}]"`. -/
def indexed (label : PyStr) (index : ℕ) : PyStr := label ++ py "[" ++ natText index ++ py "]"

end Fields

section Closure

structure Child where
  childId : PyStr
  status : PyStr
  deriving DecidableEq

/-- A case of a closure suite: the children of a parent, and whether it may be closed. -/
structure Case where
  variantId : PyStr
  children : List Child
  expectedClose : Bool
  deriving DecidableEq

structure CaseSuite where
  caseId : PyStr
  title : PyStr
  runId : PyStr
  mitigationId : PyStr
  safeguardId : PyStr
  privacy : PyStr
  cases : List Case
  deriving DecidableEq

variable [PyUnicode]

def loadChild (label : PyStr) (raw : Json) : Except PyExc Child := do
  let child ← mapping raw (label ++ py " must be an object")
  let childId ← nonEmptyText (dictGet child "child_id") (label ++ py ".child_id must be a non-empty string")
  let status ← nonEmptyText (dictGet child "status") (label ++ py ".status must be a non-empty string")
  return ⟨childId, status⟩

/-- One pass of the loop of `_validate_cases`. -/
def loadCase (path : PyStr) (loaded : List Case) (raw : Json × ℕ) : Except PyExc (List Case) := do
  let label := indexed (path ++ py ": inputs") raw.2
  let document ← mapping raw.1 (label ++ py " must be an object")
  let variantId ← nonEmptyText (dictGet document "variant_id") (label ++ py ".variant_id must be a non-empty string")
  check (variantId ∉ loaded.map Case.variantId)
    (valueError (path ++ py ": duplicate variant_id " ++ PyUnicode.repr variantId))
  let expected ← boolean (dictGet document "expected_close") (label ++ py ".expected_close must be boolean")
  let rawChildren ← nonEmptyArray (dictGet document "children") (label ++ py ".children must be a non-empty array")
  let children ← rawChildren.zipIdx.mapM fun child => loadChild (indexed (label ++ py ".children") child.2) child.1
  return loaded ++ [⟨variantId, children, expected⟩]

/-- `_validate_cases`. -/
def validateCases (rawCases : Json) (path : PyStr) : Except PyExc (List Case) := do
  let items ← nonEmptyArray rawCases (path ++ py ": 'inputs' must be a non-empty array")
  items.zipIdx.foldlM (loadCase path) []

/-- `load_case_suite` of a file that holds the document. -/
def loadCaseSuite (path : PyStr) (document : Json) : Except PyExc CaseSuite := do
  let fields ← mapping document (path ++ py ": case document must be an object")
  let privacy ← requiredText fields "privacy" path
  check (privacy = py "PUBLIC" ∨ privacy = py "PUBLIC_SAFE" ∨ privacy = py "REDACTED")
    (valueError (path ++ py ": unsupported privacy value " ++ PyUnicode.repr privacy))
  let caseId ← requiredText fields "case_id" path
  let title ← requiredText fields "title" path
  let runId ← requiredText fields "run_id" path
  let mitigationId ← requiredText fields "mitigation_id" path
  let safeguardId ← requiredText fields "safeguard_id" path
  let cases ← validateCases (dictGet fields "inputs") path
  return ⟨caseId, title, runId, mitigationId, safeguardId, privacy, cases⟩

end Closure

section Historical

structure Mechanism where
  mechanismId : PyStr
  name : PyStr
  gate : PyStr
  sourceCategories : PyStr
  deriving DecidableEq

inductive Variant where
  | trap | control
  deriving DecidableEq

def Variant.ofText? (text : PyStr) : Option Variant :=
  if text = py "TRAP" then some .trap else if text = py "CONTROL" then some .control else none

inductive EvidenceState where
  | supported | contradicted | unknown | notLoaded
  deriving DecidableEq

def EvidenceState.ofText? (text : PyStr) : Option EvidenceState :=
  if text = py "SUPPORTED" then some .supported
  else if text = py "CONTRADICTED" then some .contradicted
  else if text = py "UNKNOWN" then some .unknown
  else if text = py "NOT_LOADED" then some .notLoaded
  else none

inductive Confidence where
  | high | low
  deriving DecidableEq

def Confidence.ofText? (text : PyStr) : Option Confidence :=
  if text = py "HIGH" then some .high else if text = py "LOW" then some .low else none

inductive ConstraintStatus where
  | pass | fail | unknown
  deriving DecidableEq

def ConstraintStatus.ofText? (text : PyStr) : Option ConstraintStatus :=
  if text = py "PASS" then some .pass
  else if text = py "FAIL" then some .fail
  else if text = py "UNKNOWN" then some .unknown
  else none

structure Constraint where
  constraintId : PyStr
  status : ConstraintStatus
  deriving DecidableEq

structure HistoricalCase where
  variantId : PyStr
  mechanismId : PyStr
  variant : Variant
  scenario : PyStr
  candidate : PyStr
  surfaceConfidence : Confidence
  evidenceState : EvidenceState
  constraints : List Constraint
  expectedAccept : Bool
  deriving DecidableEq

structure HistoricalBenchmarkSuite where
  benchmarkId : PyStr
  title : PyStr
  runId : PyStr
  privacy : PyStr
  sourceObservations : ℤ
  sourceCategories : ℤ
  mechanisms : List Mechanism
  cases : List HistoricalCase
  deriving DecidableEq

variable [PyUnicode]

def loadMechanism (path : PyStr) (loaded : List Mechanism) (raw : Json × ℕ) : Except PyExc (List Mechanism) := do
  let label := indexed (path ++ py ": mechanisms") raw.2
  let document ← mapping raw.1 (label ++ py " must be an object")
  let mechanismId ← requiredText document "mechanism_id" path
  check (mechanismId ∉ loaded.map Mechanism.mechanismId)
    (valueError (path ++ py ": duplicate mechanism_id " ++ PyUnicode.repr mechanismId))
  let name ← requiredText document "name" path
  let gate ← requiredText document "gate" path
  let sourceCategories ← requiredText document "source_categories" path
  return loaded ++ [⟨mechanismId, name, gate, sourceCategories⟩]

/-- `_validate_mechanisms`. -/
def validateMechanisms (rawMechanisms : Json) (path : PyStr) : Except PyExc (List Mechanism) := do
  let items ← nonEmptyArray rawMechanisms (path ++ py ": 'mechanisms' must be a non-empty array")
  items.zipIdx.foldlM (loadMechanism path) []

def loadConstraint (label path : PyStr) (raw : Json) : Except PyExc Constraint := do
  let document ← mapping raw (label ++ py " must be an object")
  let statusText ← requiredText document "status" path
  let status ← member (ConstraintStatus.ofText? statusText)
    (label ++ py ": unsupported status " ++ PyUnicode.repr statusText)
  let constraintId ← requiredText document "constraint_id" path
  return ⟨constraintId, status⟩

/-- One pass of the loop of `_validate_historical_cases`. What it has seen is read off the cases
loaded so far. -/
def loadHistoricalCase (mechanismIds : List PyStr) (path : PyStr) (loaded : List HistoricalCase) (raw : Json × ℕ) :
    Except PyExc (List HistoricalCase) := do
  let label := indexed (path ++ py ": historical inputs") raw.2
  let document ← mapping raw.1 (label ++ py " must be an object")
  let variantId ← requiredText document "variant_id" path
  check (variantId ∉ loaded.map HistoricalCase.variantId)
    (valueError (path ++ py ": duplicate historical variant_id " ++ PyUnicode.repr variantId))
  let mechanismId ← requiredText document "mechanism_id" path
  check (mechanismId ∈ mechanismIds)
    (valueError (label ++ py ": unknown mechanism_id " ++ PyUnicode.repr mechanismId))
  let variantText ← requiredText document "variant" path
  let variant ← member (Variant.ofText? variantText) (label ++ py ": variant must be TRAP or CONTROL")
  check ((mechanismId, variant) ∉ loaded.map fun c => (c.mechanismId, c.variant))
    (valueError (path ++ py ": duplicate " ++ variantText ++ py " for mechanism " ++ mechanismId))
  let evidenceText ← requiredText document "evidence_state" path
  let evidenceState ← member (EvidenceState.ofText? evidenceText)
    (label ++ py ": unsupported evidence_state " ++ PyUnicode.repr evidenceText)
  let confidenceText ← requiredText document "surface_confidence" path
  let confidence ← member (Confidence.ofText? confidenceText)
    (label ++ py ": surface_confidence must be HIGH or LOW")
  let expected ← boolean (dictGet document "expected_accept") (label ++ py ".expected_accept must be boolean")
  let rawConstraints ← nonEmptyArray (dictGet document "constraints")
    (label ++ py ".constraints must be a non-empty array")
  let constraints ← rawConstraints.zipIdx.mapM fun constraint =>
    loadConstraint (indexed (label ++ py ".constraints") constraint.2) path constraint.1
  let scenario ← requiredText document "scenario" path
  let candidate ← requiredText document "candidate" path
  return loaded ++ [⟨variantId, mechanismId, variant, scenario, candidate, confidence, evidenceState, constraints,
    expected⟩]

/-- `sorted(texts)`. -/
def sortedTexts (texts : List PyStr) : List PyStr := texts.insertionSort fun s t => strLe s t = true

/-- `_validate_historical_cases`. -/
def validateHistoricalCases (rawCases : Json) (mechanismIds : List PyStr) (path : PyStr) :
    Except PyExc (List HistoricalCase) := do
  let items ← nonEmptyArray rawCases (path ++ py ": historical 'inputs' must be a non-empty array")
  let cases ← items.zipIdx.foldlM (loadHistoricalCase mechanismIds path) []
  let incomplete := sortedTexts (mechanismIds.filter fun id =>
    ¬ ([Variant.trap, .control].all fun variant => (id, variant) ∈ cases.map fun c => (c.mechanismId, c.variant)))
  check (incomplete = [])
    (valueError (path ++ py ": every mechanism needs one TRAP and one CONTROL: " ++ joinTexts incomplete))
  return cases

/-- `load_historical_benchmark` of a file that holds the document. -/
def loadHistoricalBenchmark (path : PyStr) (root : Json) : Except PyExc HistoricalBenchmarkSuite := do
  let rootFields ← mapping root (path ++ py ": case document must be an object")
  let document ← mapping (dictGet rootFields "historical_benchmark")
    (path ++ py ": missing historical_benchmark object")
  let privacy ← requiredText document "privacy" path
  check (privacy = py "PUBLIC_SAFE") (valueError (path ++ py ": historical benchmark must be PUBLIC_SAFE"))
  let sourceScope ← mapping (dictGet document "source_scope") (path ++ py ": source_scope must be an object")
  let mechanisms ← validateMechanisms (dictGet document "mechanisms") path
  let cases ← validateHistoricalCases (dictGet document "inputs") (mechanisms.map Mechanism.mechanismId) path
  let declaredMechanisms ← positiveInteger sourceScope "mechanism_clusters" path
  let declaredCases ← positiveInteger sourceScope "public_cases" path
  check (declaredMechanisms = mechanisms.length)
    (valueError (path ++ py ": declared mechanism cluster count does not match fixture"))
  check (declaredCases = cases.length)
    (valueError (path ++ py ": declared public case count does not match fixture"))
  let benchmarkId ← requiredText document "benchmark_id" path
  let title ← requiredText document "title" path
  let runId ← requiredText document "run_id" path
  let observations ← positiveInteger sourceScope "observations" path
  let categories ← positiveInteger sourceScope "raw_categories" path
  return ⟨benchmarkId, title, runId, privacy, observations, categories, mechanisms, cases⟩

end Historical

end EvaluationLab.Lab
