import EvaluationLab.QA3.EvidenceRef
import EvaluationLab.Python.Equality
import EvaluationLab.Python.Unicode

/-! Checked receipts, the repository they are read from, and what a profile shows of one. -/
namespace EvaluationLab.QA3
open Python Effect QA0

section Path

/-- `PurePosixPath(path).parts` of a relative path. -/
def pathParts (path : PyStr) : List PyStr := (path.splitOn 47).filter fun part => part ≠ [] ∧ part ≠ py "."

/-- `PurePosixPath(path).as_posix()` of a relative path. -/
def asPosix (path : PyStr) : PyStr := if pathParts path = [] then py "." else [47].intercalate (pathParts path)

/-- `_bounded_receipt_path`. -/
def boundedReceiptPath (path : Json) : Except PyExc PyStr :=
  match path with
  | .str s => do
    check (strip s ≠ []) (valueError "receipt path must be a non-empty string")
    let normalized := strip s
    check (normalized.head? ≠ some 47 ∧ py ".." ∉ pathParts normalized ∧ asPosix normalized = normalized ∧
        (py "results/b2/").isPrefixOf normalized = true)
      (valueError "receipt path must be a bounded repository-relative B2 result path")
    return normalized
  | _ => throw (valueError "receipt path must be a non-empty string")

end Path

/-- What `git` answers in a repository: the type of an object, and the bytes of a path at a commit,
where it exits with zero. -/
structure Repository where
  isDir : Bool
  objectType : PyStr → Except PyExc (Option (List UInt8))
  contents : (commit path : PyStr) → Except PyExc (Option (List UInt8))

/-- A receipt that was checked, and the reference to it. -/
structure ReceiptSource where
  receipt : Fields
  evidenceRef : EvidenceRef

def ReceiptSource.sourceId (s : ReceiptSource) : PyStr := s.evidenceRef.sourceId

/-- `bytes.strip()`. -/
def stripBytes (bytes : List UInt8) : List UInt8 :=
  let isSpaceByte : UInt8 → Bool := fun b => b = 32 ∨ 9 ≤ b ∧ b ≤ 13
  ((bytes.dropWhile isSpaceByte).reverse.dropWhile isSpaceByte).reverse

section Receipts

variable [PyRuntime]

/-- `verify_checked_receipt`. -/
def verifyCheckedReceipt (receipt : Json) : Except PyExc Fields := do
  let document ← obj receipt "checked receipt"
  let fingerprint := dictGet document "receipt_fingerprint"
  let body := document.filter fun f => f.1 ≠ py "receipt_fingerprint"
  check (isSha256 fingerprint = true) (valueError "checked receipt fingerprint does not reproduce")
  let reproduced ← sha256Json (.obj body)
  check (fingerprint.isStr reproduced = true) (valueError "checked receipt fingerprint does not reproduce")
  check ((dictGet body "gate").isStr "PASS" = true)
    (valueError "only PASS checked receipts may enter a GREEN projection")
  return body ++ [(py "receipt_fingerprint", fingerprint)]

/-- `_receipt_at_git_commit`. -/
def receiptAtGitCommit (repository : Repository) (path gitCommit : PyStr) : Except PyExc Json := do
  check (repository.isDir = true) (valueError "canonical receipt repository root does not exist")
  let path ← boundedReceiptPath (.str path)
  check (BM0.isGitSha gitCommit = true) (valueError "canonical receipt git_commit must be a full commit SHA")
  let objectType ← repository.objectType gitCommit
  check (objectType.map stripBytes = some (utf8 (py "commit")))
    (valueError "canonical receipt git_commit is not a Git commit object")
  match ← repository.contents gitCommit path with
  | none => throw (valueError "canonical receipt is unavailable at its declared path+commit")
  | some bytes =>
    let invalid := valueError "canonical receipt at the declared path+commit is invalid JSON"
    match decodeUtf8 bytes with
    | none => throw invalid
    | some text =>
      match loads text with
      | .ok receipt => return receipt
      | .error e => throw (if e.isA "JSONDecodeError" then invalid else e)

/-- One pass of the loop of `_load_receipt_sources_at_git_commit`. -/
def loadReceiptSource (repository : Repository) (reference : Json) : Except PyExc Json := do
  let ref ← validateEvidenceRef reference
  check (ref.kind = py "B2_RECEIPT") (valueError "dashboard profiles require B2_RECEIPT canonical sources")
  let path ← boundedReceiptPath (.str ref.sourceLocator)
  check (ref.sourceId = py "B2_RECEIPT:" ++ path) (valueError "canonical receipt locator is not a bounded B2 path")
  let receipt ← receiptAtGitCommit repository path ref.gitCommit
  return .obj [("path", .str path), ("git_commit", .str ref.gitCommit), ("receipt", receipt)]

/-- `_load_receipt_sources_at_git_commit`. -/
def loadReceiptSourcesAtGitCommit (evidenceRefs : List Json) (repository : Repository) : Except PyExc (List Json) :=
  evidenceRefs.mapM (loadReceiptSource repository)

variable [PyUnicode]

/-- `receipt_evidence_ref`. -/
def receiptEvidenceRef (path : PyStr) (receipt : Json) (gitCommit : PyStr) : Except PyExc EvidenceRef := do
  let path ← boundedReceiptPath (.str path)
  let checked ← verifyCheckedReceipt receipt
  let scope ← pyStr ((checked.lookup (py "scope")).getD (.str "UNKNOWN"))
  validateEvidenceRef (EvidenceRef.toJson {
    kind := "B2_RECEIPT"
    sourceId := py "B2_RECEIPT:" ++ path
    sourceLocator := path
    sourceFingerprint := asText (dictGet checked "receipt_fingerprint")
    gitCommit := gitCommit
    scope := scope })

/-- One pass of the loop of `_normalize_receipt_sources`. -/
def normalizeReceiptSource (sourceValue : Json × ℕ) : Except PyExc ReceiptSource := do
  let label := py "receipt source " ++ natText sourceValue.2
  let source ← obj sourceValue.1 label
  check (hasKeys source ["path", "git_commit", "receipt"] = true) (valueError (label ++ py " has an invalid shape"))
  let path ← boundedReceiptPath (dictGet source "path")
  let gitCommit ← pyStr (dictGet source "git_commit")
  let checked ← verifyCheckedReceipt (dictGet source "receipt")
  let ref ← receiptEvidenceRef path (.obj checked) gitCommit
  return ⟨checked, ref⟩

/-- `_normalize_receipt_sources`. -/
def normalizeReceiptSources (receiptSources : List Json) : Except PyExc (List ReceiptSource) :=
  receiptSources.zipIdx.mapM normalizeReceiptSource

/-- `claimed_by_id == exact_by_id`, where no source is repeated. -/
def sameSources (claimed exact : List ReceiptSource) : Bool :=
  claimed.length == exact.length && claimed.all fun c => (exact.find? fun e => e.sourceId = c.sourceId).any fun e =>
    pyEq (.obj c.receipt) (.obj e.receipt) && c.evidenceRef = e.evidenceRef

/-- `_bind_receipt_sources_to_git`. -/
def bindReceiptSourcesToGit (receiptSources : List Json) (repository : Repository) :
    Except PyExc (List ReceiptSource) := do
  let claimed ← normalizeReceiptSources receiptSources
  let loaded ← loadReceiptSourcesAtGitCommit (claimed.map fun c => c.evidenceRef.toJson) repository
  let exact ← normalizeReceiptSources loaded
  check ((claimed.map ReceiptSource.sourceId).Nodup ∧ (exact.map ReceiptSource.sourceId).Nodup ∧
      sameSources claimed exact = true)
    (valueError "claimed receipt sources do not match exact Git path+commit evidence")
  return exact

end Receipts

section Summary

/-- `_profile_id`. -/
def profileId (receipt : Fields) : Except PyExc PyStr := do
  let schema := dictGet receipt "schema_version"
  let profile := dictGet receipt "profile"
  let unsupported : Except PyExc PyStr := .error (valueError "unsupported checked receipt profile")
  if schema.isStr "b2-qa0-receipt/v1" then return "QA0"
  else if schema.isStr "b2-qa1-receipt/v1" then
    if ← isMember profile ["GROUNDING", "TOOL_AGENT"] then return py "QA1-" ++ asText profile else unsupported
  else if schema.isStr "b2-qa2-receipt/v1" ∧ profile.isStr "SAFETY_ROBUSTNESS" then return "QA2-SAFETY_ROBUSTNESS"
  else if schema.isStr "b2-qa3-projection-integrity-receipt/v1" ∧ profile.isStr "PROJECTION_INTEGRITY" then
    return "QA3-A-PROJECTION_INTEGRITY"
  else unsupported

/-- `isinstance(value, int)`: a boolean is an integer. -/
def asInt : Json → Option ℤ
  | .int n => some n
  | .bool b => some (if b then 1 else 0)
  | _ => none

/-- A non-negative integer that is not a boolean. -/
def asCount : Json → Option ℤ
  | .int n => if 0 ≤ n then some n else none
  | _ => none

/-- `_family_count`. -/
def familyCount (receipt : Fields) : Except PyExc ℤ :=
  match asCount (dictGet receipt "family_count"), dictGet receipt "family_composition" with
  | some n, _ => .ok n
  | none, .obj composition => .ok composition.length
  | none, _ =>
    let absent : Except PyExc ℤ := .error (valueError "checked receipt does not expose an auditable family count")
    if (dictGet receipt "schema_version").isStr "b2-qa0-receipt/v1" then
      match asInt (dictGet receipt "known_bad_count") with
      | some n =>
        if pyEq (dictGet receipt "known_bad_count") (dictGet receipt "control_count") then .ok n else absent
      | none => absent
    else absent

/-- What a profile shows of its receipt. -/
structure ProfileSummary where
  profileId : PyStr
  gate : PyStr
  formalFamilyCount : ℤ
  caseCount : ℤ
  knownBadCount : ℤ
  controlCount : ℤ
  terminalStatuses : List PyStr
  deriving DecidableEq

def ProfileSummary.fields (s : ProfileSummary) : Fields := [
  ("profile_id", .str s.profileId),
  ("gate", .str s.gate),
  ("formal_family_count", .int s.formalFamilyCount),
  ("case_count", .int s.caseCount),
  ("known_bad_count", .int s.knownBadCount),
  ("control_count", .int s.controlCount),
  ("terminal_statuses", .arr (s.terminalStatuses.map .str))]

/-- A count a summary takes from the receipt. -/
def receiptCount (receipt : Fields) (field : PyStr) : Except PyExc ℤ :=
  match asCount (dictGet receipt field) with
  | some n => .ok n
  | none => .error (valueError (py "checked receipt " ++ field ++ py " must be a non-negative integer"))

/-- `_receipt_profile_summary`. The gate of a receipt that is summarised is a text. -/
def receiptProfileSummary (receipt : Fields) : Except PyExc ProfileSummary := do
  let caseCount ← receiptCount receipt "case_count"
  let knownBadCount ← receiptCount receipt "known_bad_count"
  let controlCount ← receiptCount receipt "control_count"
  let terminals ← stringArray (dictGet receipt "terminal_statuses") "checked receipt terminal_statuses" false
  check (terminals.Nodup ∧ ∀ status ∈ terminals, status ∈ terminalStatuses)
    (valueError "checked receipt terminal statuses are invalid")
  let profile ← profileId receipt
  let families ← familyCount receipt
  return {
    profileId := profile
    gate := asText (dictGet receipt "gate")
    formalFamilyCount := families
    caseCount
    knownBadCount
    controlCount
    terminalStatuses := terminals }

end Summary

end EvaluationLab.QA3
