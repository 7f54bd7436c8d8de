import EvaluationLab.QA0.PublicSeed
import EvaluationLab.BM0.Fields
import EvaluationLab.Python.Float

/-! References to canonical evidence, and the checks the projection track makes on fields. -/
namespace EvaluationLab.QA3
open Python Effect QA0

section Fields

/-- `value in {…}` for a set of texts: lists and objects cannot be looked up. -/
def isMember (value : Json) (texts : List PyStr) : Except PyExc Bool := do
  check (value.hashable = true) (typeError "unhashable type")
  return texts.any fun t => value.isStr t

/-- Raise `e` unless `value` is one of the texts, which is returned. -/
def member (value : Json) (texts : List PyStr) (e : PyExc) : Except PyExc PyStr := do
  check (value.hashable = true) (typeError "unhashable type")
  match value with
  | .str s =>
    check (s ∈ texts) e
    return s
  | _ => throw e

/-- `set(document) == keys`. -/
def hasKeys (document : Fields) (keys : List PyStr) : Bool :=
  (document.map Prod.fst).all (· ∈ keys) && keys.all (· ∈ document.map Prod.fst)

/-- `_string_list`. -/
def stringArray (value : Json) (label : PyStr) (allowEmpty : Bool) : Except PyExc (List PyStr) :=
  match value with
  | .arr items => do
    check (items ≠ [] ∨ allowEmpty = true) (valueError (label ++ py " must be a string array"))
    items.mapM fun item => match item with
      | .str s =>
        if strip s = [] then .error (valueError (label ++ py " must contain non-empty strings")) else .ok (strip s)
      | _ => .error (valueError (label ++ py " must contain non-empty strings"))
  | _ => throw (valueError (label ++ py " must be a string array"))

/-- `_number`. -/
def asNumber (value : Json) (label : PyStr) : Except PyExc PyFloat :=
  match value with
  | .int n => do
    check (n.natAbs < 2 ^ 1024 - 2 ^ 970) BM0.overflowError
    return .finite (nearestFloat n)
  | .float x => .ok x
  | _ => throw (valueError (label ++ py " must be numeric"))

/-- `_is_sha256`. -/
def isSha256 (value : Json) : Bool :=
  match value with
  | .str s => BM0.isSha256 s
  | _ => false

/-- `_is_git_commit`. -/
def isGitCommit (value : Json) : Bool :=
  match value with
  | .str s => BM0.isGitSha s
  | _ => false

/-- `sorted(set(texts))`. -/
def sortedSet (texts : List PyStr) : List PyStr := texts.dedup.insertionSort fun s t => strLe s t = true

/-- A value that is a text. Every field it is used on has been checked to be one. -/
def asText (value : Json) : PyStr :=
  match value with
  | .str s => s
  | _ => []

end Fields

/-- `CanonicalEvidenceRef`: where a canonical receipt or run is kept, and its fingerprint. -/
structure EvidenceRef where
  kind : PyStr
  sourceId : PyStr
  sourceLocator : PyStr
  sourceFingerprint : PyStr
  gitCommit : PyStr
  scope : PyStr
  deriving DecidableEq

def EvidenceRef.fields (r : EvidenceRef) : Fields := [
  ("kind", .str r.kind),
  ("source_id", .str r.sourceId),
  ("source_locator", .str r.sourceLocator),
  ("source_fingerprint", .str r.sourceFingerprint),
  ("git_commit", .str r.gitCommit),
  ("scope", .str r.scope)]

def EvidenceRef.toJson (r : EvidenceRef) : Json := .obj r.fields

def evidenceRefKeys : List PyStr :=
  ["kind", "source_id", "source_locator", "source_fingerprint", "git_commit", "scope"]

variable [PyRuntime]

/-- `validate_evidence_ref`. -/
def validateEvidenceRef (reference : Json) : Except PyExc EvidenceRef := do
  let label : PyStr := "CanonicalEvidenceRef"
  let ref ← obj reference label
  check (hasKeys ref evidenceRefKeys = true) (valueError "CanonicalEvidenceRef has an invalid shape")
  let kind ← member (dictGet ref "kind") ["B2_RECEIPT", "SQLITE_RUN"]
    (valueError "CanonicalEvidenceRef.kind is unsupported")
  let _ ← text ref "source_id" label
  let _ ← text ref "source_locator" label
  let _ ← text ref "scope" label
  check (isSha256 (dictGet ref "source_fingerprint") = true) (valueError "CanonicalEvidenceRef fingerprint is invalid")
  check (isGitCommit (dictGet ref "git_commit") = true)
    (valueError "CanonicalEvidenceRef git_commit must be a full commit SHA")
  let expected : PyStr := if kind = py "B2_RECEIPT" then "B2_RECEIPT:" else "SQLITE_RUN:"
  check (expected.isPrefixOf (asText (dictGet ref "source_id")) = true)
    (valueError "CanonicalEvidenceRef source_id does not match its kind")
  assertPublicSafe reference
  return {
    kind
    sourceId := asText (dictGet ref "source_id")
    sourceLocator := asText (dictGet ref "source_locator")
    sourceFingerprint := asText (dictGet ref "source_fingerprint")
    gitCommit := asText (dictGet ref "git_commit")
    scope := asText (dictGet ref "scope") }

end EvaluationLab.QA3
