import EvaluationLab.QA3.EvidenceRef
import EvaluationLab.Python.Equality

/-! The neutral record, its reference adapter, and the reconciliation of an adapter with a record. -/
namespace EvaluationLab.QA3
open Python Effect QA0

def neutralRecordSchemaVersion : PyStr := "b2-qa3-neutral-projection-record/v1"

def referenceAdapterSchemaVersion : PyStr := "b2-qa3-reference-adapter/v1"

def referenceAdapterId : PyStr := "vendor-neutral-reference/v1"

/-- `SCOPE_TYPES`. -/
def scopeTypes : List PyStr :=
  ["PERSONAL_CURRENT", "PERSONAL_HISTORY", "GLOBAL_CURRENT", "GLOBAL_HISTORY", "RUN", "PROFILE", "UNKNOWN"]

/-- `PROVENANCE_STATES`. -/
def provenanceStates : List PyStr := ["VERIFIED", "USER_REPORTED", "INFERRED", "UNKNOWN"]

/-- The fields of a metric, in the order they are compared. -/
def metricFields : List PyStr :=
  ["metric_id", "metric_version", "definition", "value", "unit", "scope_type", "scope_id", "observed_at",
    "provenance_state", "causal_attribution"]

/-- The fields of a metric that are texts. -/
def metricTexts : List PyStr :=
  ["metric_id", "metric_version", "definition", "unit", "scope_type", "scope_id", "observed_at", "provenance_state",
    "causal_attribution"]

/-- A neutral record that was accepted: the document, and the fields that are read of it. -/
structure NeutralRecord where
  document : Fields
  evidenceRef : EvidenceRef
  metric : Fields
  terminalStatus : PyStr
  hardInvariantPass : Bool

/-- `"optional_metadata" in canonical`. -/
def NeutralRecord.hasOptionalMetadata (r : NeutralRecord) : Bool := (r.document.lookup (py "optional_metadata")).isSome

/-- An adapter representation that was accepted. Its identity and its refusal of writeback are fixed. -/
structure AdapterRepresentation where
  adapterRecordId : PyStr
  sourceDigest : PyStr
  canonicalRef : EvidenceRef
  metric : Fields
  terminalStatus : PyStr
  hardInvariantPass : Bool
  limitations : List Json

variable [PyRuntime]

/-- The part of `validate_neutral_record` that is about the metric. -/
def validateMetric (value : Json) : Except PyExc Fields := do
  let metric ← obj value "neutral projection metric"
  check (hasKeys metric metricFields = true) (valueError "neutral projection metric has an invalid shape")
  metricTexts.forM fun key => do
    let _ ← text metric key "neutral projection metric"
  match dictGet metric "value" with
  | .null => pure ()
  | value => do
    let _ ← asNumber value "neutral projection metric.value"
  let _ ← member (dictGet metric "scope_type") scopeTypes (valueError "neutral projection metric scope is unsupported")
  let _ ← member (dictGet metric "provenance_state") provenanceStates
    (valueError "neutral projection metric provenance_state is unsupported")
  let _ ← member (dictGet metric "causal_attribution") provenanceStates
    (valueError "neutral projection metric causal_attribution is unsupported")
  return metric

/-- The value of a field that must be a boolean. -/
def boolean (value : Json) (message : PyStr) : Except PyExc Bool :=
  match value with
  | .bool b => .ok b
  | _ => throw (valueError message)

/-- `validate_neutral_record`. -/
def validateNeutralRecord (document : Json) : Except PyExc NeutralRecord := do
  let record ← obj document "neutral projection record"
  let required : List PyStr :=
    ["schema_version", "record_id", "evidence_ref", "metric", "terminal_status", "hard_invariant_pass"]
  check ((record.map Prod.fst).all (fun k => k ∈ required ∨ k = py "optional_metadata") = true ∧
      required.all (· ∈ record.map Prod.fst) = true)
    (valueError "neutral projection record has an invalid shape")
  check ((dictGet record "schema_version").isStr neutralRecordSchemaVersion = true)
    (valueError "unsupported neutral projection record schema")
  let _ ← text record "record_id" "neutral projection record"
  let evidenceRef ← validateEvidenceRef (dictGet record "evidence_ref")
  let metric ← validateMetric (dictGet record "metric")
  let terminalStatus ← member (dictGet record "terminal_status") terminalStatuses
    (valueError "neutral projection terminal status is unsupported")
  let hardInvariantPass ← boolean (dictGet record "hard_invariant_pass")
    "neutral projection hard_invariant_pass must be boolean"
  match record.lookup (py "optional_metadata") with
  | none | some (.obj _) => pure ()
  | some _ => throw (valueError "optional_metadata must be an object")
  assertPublicSafe document
  return { document := record, evidenceRef, metric, terminalStatus, hardInvariantPass }

def adapterKeys : List PyStr :=
  ["schema_version", "adapter_id", "adapter_record_id", "source_digest", "canonical_ref", "metric", "terminal_status",
    "hard_invariant_pass", "writeback_permitted", "limitations"]

/-- The document of an adapter representation. -/
def adapterFields (adapterRecordId sourceDigest : PyStr) (canonicalRef metric : Json) (terminalStatus : PyStr)
    (hardInvariantPass : Bool) (limitations : List Json) : Fields := [
  ("schema_version", .str referenceAdapterSchemaVersion),
  ("adapter_id", .str referenceAdapterId),
  ("adapter_record_id", .str adapterRecordId),
  ("source_digest", .str sourceDigest),
  ("canonical_ref", canonicalRef),
  ("metric", metric),
  ("terminal_status", .str terminalStatus),
  ("hard_invariant_pass", .bool hardInvariantPass),
  ("writeback_permitted", .bool false),
  ("limitations", .arr limitations)]

/-- `validate_adapter_representation`. -/
def validateAdapterRepresentation (document : Json) : Except PyExc AdapterRepresentation := do
  let label : PyStr := "adapter representation"
  let adapter ← obj document label
  check (hasKeys adapter adapterKeys = true) (valueError "adapter representation has an invalid shape")
  check ((dictGet adapter "schema_version").isStr referenceAdapterSchemaVersion = true)
    (valueError "unsupported reference adapter schema")
  check ((dictGet adapter "adapter_id").isStr referenceAdapterId = true)
    (valueError "unsupported reference adapter identity")
  let _ ← text adapter "adapter_record_id" label
  check (isSha256 (dictGet adapter "source_digest") = true) (valueError "adapter source_digest is invalid")
  let canonicalRef ← validateEvidenceRef (dictGet adapter "canonical_ref")
  let metric ← obj (dictGet adapter "metric") "adapter metric"
  let terminalStatus ← member (dictGet adapter "terminal_status") terminalStatuses
    (valueError "adapter terminal status is unsupported")
  let hardInvariantPass ← boolean (dictGet adapter "hard_invariant_pass") "adapter hard_invariant_pass must be boolean"
  match dictGet adapter "writeback_permitted" with
  | .bool false => pure ()
  | _ => throw (valueError "reference adapter must never permit canonical writeback")
  let _ ← stringArray (dictGet adapter "limitations") "adapter limitations" true
  assertPublicSafe document
  return {
    adapterRecordId := asText (dictGet adapter "adapter_record_id")
    sourceDigest := asText (dictGet adapter "source_digest")
    canonicalRef
    metric
    terminalStatus
    hardInvariantPass
    limitations := match dictGet adapter "limitations" with
      | .arr items => items
      | _ => [] }

/-- `"neutral:" + digest.removeprefix("sha256:")[:20]` of a digest. -/
def adapterAlias (digest : PyStr) : PyStr := py "neutral:" ++ (digest.drop 7).take 20

/-- `json.loads(canonical_json(value))`. -/
def jsonCopy (value : Json) : Except PyExc Json := do
  let text ← canonicalJson value
  loads text

/-- `reference_adapter`. -/
def referenceAdapter (canonicalRecord : Json) (available dropOptionalMetadata : Bool) : Except PyExc (Option Json) := do
  let canonical ← validateNeutralRecord canonicalRecord
  if available then
    let sourceDigest ← sha256Json (.obj canonical.document)
    let canonicalRef ← jsonCopy (dictGet canonical.document "evidence_ref")
    let metric ← jsonCopy (.obj canonical.metric)
    let limitations : List Json := if dropOptionalMetadata && canonical.hasOptionalMetadata then
      [.str "optional_metadata omitted by reference adapter"] else []
    return some (.obj (adapterFields (adapterAlias sourceDigest) sourceDigest canonicalRef metric canonical.terminalStatus
      canonical.hardInvariantPass limitations))
  else return none

inductive ReconciliationStatus where
  | pass | fail | error
  deriving DecidableEq

/-- What `reconcile_adapter` returns. The verdict is never changed, nor the record. -/
structure Reconciliation where
  status : ReconciliationStatus
  reason : PyStr
  mismatches : List PyStr
  canonicalTerminalStatus : PyStr
  fingerprintBefore : PyStr
  fingerprintAfter : PyStr
  limitations : List Json

/-- The names of the comparisons that fail, in the order they are made. -/
def mismatchesOf (canonical : NeutralRecord) (before : PyStr) (adapter : AdapterRepresentation) : List PyStr :=
  (if adapter.sourceDigest = before then [] else [py "source_digest"]) ++
  (if adapter.adapterRecordId = adapterAlias before then [] else [py "adapter_record_id"]) ++
  (if adapter.canonicalRef = canonical.evidenceRef then [] else [py "canonical_ref"]) ++
  ((metricFields.filter fun field => !pyEq (dictGet adapter.metric field) (dictGet canonical.metric field)).map fun field =>
    py "metric." ++ field) ++
  (if adapter.terminalStatus = canonical.terminalStatus then [] else [py "terminal_status"]) ++
  (if adapter.hardInvariantPass = canonical.hardInvariantPass then [] else [py "hard_invariant_pass"]) ++
  (if canonical.hasOptionalMetadata ∧ adapter.limitations = [] then [py "lossy_mapping_undisclosed"] else [])

/-- `reconcile_adapter`. -/
def reconcileAdapter (canonicalRecord adapterRepresentation : Json) (adapterAvailable : Bool) :
    Except PyExc Reconciliation := do
  let canonical ← validateNeutralRecord canonicalRecord
  let before ← sha256Json (.obj canonical.document)
  if adapterAvailable then
    let (mismatches, limitations) ← match validateAdapterRepresentation adapterRepresentation with
      | .ok adapter => .ok (mismatchesOf canonical before adapter, adapter.limitations)
      | .error e => if e.isA "ValueError" then .ok ([py "adapter_schema"], []) else .error e
    let after ← sha256Json (.obj canonical.document)
    let unique := sortedSet mismatches
    return {
      status := if unique = [] then .pass else .fail
      reason := if unique = [] then "RECONCILED" else "NOT_RECONCILED"
      mismatches := unique
      canonicalTerminalStatus := canonical.terminalStatus
      fingerprintBefore := before
      fingerprintAfter := after
      limitations := limitations }
  else
    let after ← sha256Json (.obj canonical.document)
    return {
      status := .error
      reason := "ADAPTER_UNAVAILABLE"
      mismatches := []
      canonicalTerminalStatus := canonical.terminalStatus
      fingerprintBefore := before
      fingerprintAfter := after
      limitations := [.str "Adapter infrastructure was unavailable; canonical quality evidence is unchanged."] }

end EvaluationLab.QA3
