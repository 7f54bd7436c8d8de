import EvaluationLab.QA3.Receipts

/-! The static quality projection: how it is built from checked receipts, and how it is verified. -/
namespace EvaluationLab.QA3
open Python Effect QA0

def qualityProjectionSchemaVersion : PyStr := "b2-qa3-quality-delta-projection/v1"

/-- A displayed profile. Its semantics and its scope are fixed. -/
structure Profile where
  summary : ProfileSummary
  observedAt : PyStr
  evidenceRef : EvidenceRef
  deriving DecidableEq

def Profile.profileId (p : Profile) : PyStr := p.summary.profileId

def Profile.fields (p : Profile) : Fields := p.summary.fields ++ ([
  ("field_semantics", .str "profile_checked_receipt_summary"),
  ("scope_type", .str "PROFILE"),
  ("scope_id", .str p.profileId),
  ("observed_at", .str p.observedAt),
  ("evidence_ref", p.evidenceRef.toJson)] : Fields)

/-- The quality delta of a profile without a baseline. -/
def Profile.deltaFields (p : Profile) : Fields := [
  ("profile_id", .str p.profileId),
  ("metric_id", .str "profile_gate_delta"),
  ("terminal_status", .str "NOT_EVALUABLE"),
  ("reason", .str "NO_BASELINE"),
  ("baseline_value", .null),
  ("current_value", .null),
  ("delta", .null),
  ("scope_type", .str "PROFILE"),
  ("scope_id", .str p.profileId),
  ("observed_at", .str p.observedAt),
  ("evidence_ref", p.evidenceRef.toJson)]

section Build

def textArray (texts : List PyStr) : Json := .arr (texts.map .str)

/-- The section of the projection that says where its sources come from. -/
def snapshotFields (snapshotId gitCommit observedAt : PyStr) : Fields := [
  ("snapshot_id", .str snapshotId),
  ("git_commit", .str gitCommit),
  ("observed_at", .str observedAt),
  ("single_snapshot_only", .bool true)]

def manifestFields (declared observed : List PyStr) (evidenceRefs : Json) : Fields := [
  ("selection_predicate", .str "all approved checked B2 QA0 through QA3-A receipts in the declared snapshot"),
  ("declared_source_ids", textArray (declared.insertionSort fun s t => strLe s t = true)),
  ("included_source_ids", textArray (observed.insertionSort fun s t => strLe s t = true)),
  ("excluded_source_ids", .arr []),
  ("source_count", .int declared.length),
  ("included_count", .int observed.length),
  ("excluded_count", .int 0),
  ("dedupe_identity", .str "CanonicalEvidenceRef.source_id"),
  ("completeness_status", .str "PASS"),
  ("evidence_refs", evidenceRefs)]

def recurrenceFields (evidenceRefs : Json) : Fields := [
  ("terminal_status", .str "NOT_EVALUABLE"),
  ("reason", .str "NO_CANONICAL_RECURRENCE_SERIES"),
  ("series", .arr []),
  ("evidence_refs", evidenceRefs)]

def visibilityFields (profiles : List Profile) (evidenceRefs : Json) : Fields := [
  ("statuses", textArray (sortedSet (profiles.flatMap fun p => p.summary.terminalStatuses))),
  ("preserves_unknown", .bool true),
  ("preserves_not_evaluable", .bool true),
  ("preserves_error", .bool true),
  ("evidence_refs", evidenceRefs)]

def performanceFields (evidenceRefs : Json) : Fields := [
  ("terminal_status", .str "NOT_EVALUABLE"),
  ("reason", .str "NO_CANONICAL_PERFORMANCE_METRICS_IN_SELECTED_RECEIPTS"),
  ("metrics", .arr []),
  ("evidence_refs", evidenceRefs)]

def brandFields : Fields := [("status", .str "OPTIONAL_NOT_SELECTED"), ("claims_unlocked", .arr [])]

def projectionLimitations : List PyStr := [
  "The selected checked receipts are one snapshot, not a time series or model-version trend.",
  "No baseline means NOT_EVALUABLE / NO_BASELINE, never zero improvement.",
  "No live provider, paid service, private source body, or brand-specific adapter is represented.",
  "Deleting this projection does not delete or modify any canonical receipt or SQLite run."]

/-- The projection of some profiles, without its fingerprint. -/
def projectionFields (snapshotId gitCommit observedAt : PyStr) (declared observed : List PyStr)
    (profiles : List Profile) : Fields :=
  let evidenceRefs : Json := .arr (profiles.map fun p => p.evidenceRef.toJson)
  [("schema_version", .str qualityProjectionSchemaVersion),
  ("projection_id", .str "B2-QA3-STATIC-QUALITY-PROJECTION-001"),
  ("authority", .str "DERIVED_READ_ONLY_PROJECTION"),
  ("source_snapshot", .obj (snapshotFields snapshotId gitCommit observedAt)),
  ("source_manifest", .obj (manifestFields declared observed evidenceRefs)),
  ("profiles", .arr (profiles.map fun p => .obj p.fields)),
  ("quality_deltas", .arr (profiles.map fun p => .obj p.deltaFields)),
  ("regression_recurrence", .obj (recurrenceFields evidenceRefs)),
  ("terminal_state_visibility", .obj (visibilityFields profiles evidenceRefs)),
  ("performance", .obj (performanceFields evidenceRefs)),
  ("brand_adapters", .obj brandFields),
  ("limitations", textArray projectionLimitations)]

variable [PyRuntime] [PyUnicode]

/-- `build_dashboard_projection`. -/
def buildDashboardProjection (receiptSources : List Json) (declared : List PyStr) (observedAt snapshotId : PyStr)
    (repositoryRoot : Option Repository) : Except PyExc Json := do
  check (declared ≠ [] ∧ declared.Nodup) (valueError "declared source identities must be non-empty and unique")
  check (observedAt.getLast? = some 90) (valueError "observed_at must be an explicit UTC timestamp")
  check (strip snapshotId ≠ []) (valueError "snapshot_id must be a non-empty string")
  let claimed ← normalizeReceiptSources receiptSources
  let observed := claimed.map ReceiptSource.sourceId
  check observed.Nodup (valueError "duplicate canonical source identity")
  check ((∀ id ∈ observed, id ∈ declared) ∧ ∀ id ∈ declared, id ∈ observed)
    (valueError "global projection requires the complete declared source set")
  let commits := (claimed.map fun s => s.evidenceRef.gitCommit).dedup
  match commits, repositoryRoot with
  | [gitCommit], some repository =>
    let sources ← bindReceiptSourcesToGit receiptSources repository
    let profiles ← sources.mapM fun source => do
      let summary ← receiptProfileSummary source.receipt
      return (⟨summary, observedAt, source.evidenceRef⟩ : Profile)
    let profiles := profiles.insertionSort fun p q => strLe p.profileId q.profileId = true
    let projection := projectionFields snapshotId gitCommit observedAt declared observed profiles
    assertPublicSafe (.obj projection)
    let fingerprint ← sha256Json (.obj projection)
    return .obj (projection ++ [(py "projection_fingerprint", .str fingerprint)])
  | [_], none =>
    throw (valueError "repository_root is required to bind receipt sources to exact Git evidence")
  | _, _ => throw (valueError "one static snapshot cannot silently mix git contexts")

end Build

section Verify

/-- The part of a snapshot that the rest of a projection must agree with. -/
structure Snapshot where
  gitCommit : PyStr
  observedAt : PyStr

def endsWithZ (value : Json) : Bool :=
  match value with
  | .str s => s.getLast? = some 90
  | _ => false

def checkSnapshot (projection : Fields) : Except PyExc Snapshot := do
  let snapshot ← obj (dictGet projection "source_snapshot") "source_snapshot"
  check (hasKeys snapshot ["snapshot_id", "git_commit", "observed_at", "single_snapshot_only"] = true)
    (valueError "source_snapshot has an invalid shape")
  let _ ← text snapshot "snapshot_id" "source_snapshot"
  check (isGitCommit (dictGet snapshot "git_commit") = true)
    (valueError "source_snapshot git_commit must be a full commit SHA")
  check (endsWithZ (dictGet snapshot "observed_at") = true)
    (valueError "source_snapshot observed_at must be explicit UTC")
  match dictGet snapshot "single_snapshot_only" with
  | .bool true => return ⟨asText (dictGet snapshot "git_commit"), asText (dictGet snapshot "observed_at")⟩
  | _ => throw (valueError "source_snapshot must remain a single snapshot")

/-- What a manifest declares: the included identities, and the references to their evidence. -/
structure Manifest where
  included : List PyStr
  rawRefs : List Json
  refs : List EvidenceRef

def manifestKeys : List PyStr :=
  ["selection_predicate", "declared_source_ids", "included_source_ids", "excluded_source_ids", "source_count",
    "included_count", "excluded_count", "dedupe_identity", "completeness_status", "evidence_refs"]

variable [PyRuntime]

def checkManifest (projection : Fields) (snapshot : Snapshot) : Except PyExc Manifest := do
  let manifest ← obj (dictGet projection "source_manifest") "source_manifest"
  check (hasKeys manifest manifestKeys = true) (valueError "source_manifest has an invalid shape")
  let _ ← text manifest "selection_predicate" "source_manifest"
  let declared ← stringArray (dictGet manifest "declared_source_ids") "declared_source_ids" false
  let included ← stringArray (dictGet manifest "included_source_ids") "included_source_ids" false
  let excluded ← stringArray (dictGet manifest "excluded_source_ids") "excluded_source_ids" true
  check (declared.Nodup ∧ included.Nodup ∧ excluded.Nodup) (valueError "projection source identities must be unique")
  check ((∀ id ∈ declared, id ∈ included) ∧ (∀ id ∈ included, id ∈ declared) ∧ excluded = [])
    (valueError "GREEN projection requires the complete declared source set")
  check (pyEq (dictGet manifest "source_count") (.int declared.length) = true ∧
      pyEq (dictGet manifest "included_count") (.int included.length) = true ∧
      pyEq (dictGet manifest "excluded_count") (.int excluded.length) = true ∧
      (dictGet manifest "dedupe_identity").isStr "CanonicalEvidenceRef.source_id" = true ∧
      (dictGet manifest "completeness_status").isStr "PASS" = true)
    (valueError "source_manifest counts or completeness semantics disagree")
  match dictGet manifest "evidence_refs" with
  | .arr rawRefs =>
    check (rawRefs ≠ []) (valueError "source_manifest evidence_refs must be non-empty")
    let refs ← rawRefs.mapM validateEvidenceRef
    check ((refs.map EvidenceRef.sourceId).Nodup ∧ (∀ r ∈ refs, r.sourceId ∈ included) ∧
        ∀ id ∈ included, id ∈ refs.map EvidenceRef.sourceId)
      (valueError "source_manifest evidence refs do not reproduce included identities")
    check (∀ r ∈ refs, r.gitCommit = snapshot.gitCommit) (valueError "projection cannot mix canonical git contexts")
    return ⟨included, rawRefs, refs⟩
  | _ => throw (valueError "source_manifest evidence_refs must be non-empty")

/-- `canonical_by_id[source_id]`. -/
def sourceOf (sources : List ReceiptSource) (id : PyStr) : Option ReceiptSource := sources.find? fun s => s.sourceId = id

def checkSources (manifest : Manifest) (sources : List ReceiptSource) : Except PyExc Unit := do
  check (sources.map ReceiptSource.sourceId).Nodup (valueError "canonical receipt source identities must be unique")
  check ((∀ s ∈ sources, s.sourceId ∈ manifest.included) ∧ ∀ id ∈ manifest.included, id ∈ sources.map ReceiptSource.sourceId)
    (valueError "canonical receipt sources do not reproduce the declared set")
  check (∀ r ∈ manifest.refs, (sourceOf sources r.sourceId).map ReceiptSource.evidenceRef = some r)
    (valueError "canonical receipt refs do not match declared path+commit evidence")

def profileKeys : List PyStr :=
  ["profile_id", "gate", "formal_family_count", "case_count", "known_bad_count", "control_count", "terminal_statuses",
    "field_semantics", "scope_type", "scope_id", "observed_at", "evidence_ref"]

def countKeys : List PyStr := ["formal_family_count", "case_count", "known_bad_count", "control_count"]

/-- One pass of the loop over the profiles. -/
def checkProfile (snapshot : Snapshot) (manifest : Manifest) (sources : List ReceiptSource) (value : Json) :
    Except PyExc Profile := do
  let profile ← obj value "profile"
  check (hasKeys profile profileKeys = true) (valueError "profile has an invalid shape")
  let id ← text profile "profile_id" "profile"
  check ((dictGet profile "gate").isStr "PASS" = true ∧
      (dictGet profile "field_semantics").isStr "profile_checked_receipt_summary" = true ∧
      (dictGet profile "scope_type").isStr "PROFILE" = true ∧ (dictGet profile "scope_id").isStr id = true ∧
      (dictGet profile "observed_at").isStr snapshot.observedAt = true)
    (valueError "profile semantics, scope, or snapshot disagree")
  countKeys.forM fun field =>
    check ((asCount (dictGet profile field)).isSome = true)
      (valueError (py "profile " ++ field ++ py " must be a non-negative integer"))
  let terminals ← stringArray (dictGet profile "terminal_statuses") "profile terminal_statuses" true
  check (terminals.Nodup ∧ ∀ status ∈ terminals, status ∈ terminalStatuses)
    (valueError "profile terminal statuses are invalid")
  let ref ← validateEvidenceRef (dictGet profile "evidence_ref")
  check (ref.sourceId ∈ manifest.included ∧ ref.gitCommit = snapshot.gitCommit)
    (valueError "profile evidence ref is outside the declared snapshot")
  match sourceOf sources ref.sourceId with
  | none => throw (BM0.keyError ref.sourceId)
  | some source =>
    check (ref = source.evidenceRef) (valueError "profile evidence ref does not bind to canonical receipt")
    let expected ← receiptProfileSummary source.receipt
    check (∀ f ∈ expected.fields, pyEq (dictGet profile f.1) f.2 = true)
      (valueError "profile scalar/status summary does not rehydrate from canonical receipt")
    return ⟨expected, snapshot.observedAt, ref⟩

def checkProfiles (projection : Fields) (snapshot : Snapshot) (manifest : Manifest) (sources : List ReceiptSource) :
    Except PyExc (List Profile) :=
  match dictGet projection "profiles" with
  | .arr values => do
    check (values ≠ []) (valueError "profiles must be a non-empty array")
    let profiles ← values.mapM (checkProfile snapshot manifest sources)
    check ((profiles.map Profile.profileId).Nodup ∧ (∀ p ∈ profiles, p.evidenceRef.sourceId ∈ manifest.included) ∧
        ∀ id ∈ manifest.included, id ∈ profiles.map fun p => p.evidenceRef.sourceId)
      (valueError "profiles must map one-to-one to declared receipt sources")
    return profiles
  | _ => throw (valueError "profiles must be a non-empty array")

def deltaKeys : List PyStr :=
  ["profile_id", "metric_id", "terminal_status", "reason", "baseline_value", "current_value", "delta", "scope_type",
    "scope_id", "observed_at", "evidence_ref"]

/-- One pass of the loop over the quality deltas, which gives the profile it is about. -/
def checkDelta (snapshot : Snapshot) (profiles : List Profile) (value : Json) : Except PyExc PyStr := do
  let delta ← obj value "quality delta"
  check (hasKeys delta deltaKeys = true) (valueError "quality delta has an invalid shape")
  check ((dictGet delta "profile_id").hashable = true) (typeError "unhashable type")
  match profiles.find? fun p => (dictGet delta "profile_id").isStr p.profileId with
  | none => throw (valueError "quality delta references an unknown profile")
  | some profile =>
    check ((dictGet delta "metric_id").isStr "profile_gate_delta" = true ∧
        (dictGet delta "terminal_status").isStr "NOT_EVALUABLE" = true ∧
        (dictGet delta "reason").isStr "NO_BASELINE" = true ∧
        (dictGet delta "baseline_value").isNull = true ∧ (dictGet delta "current_value").isNull = true ∧
        (dictGet delta "delta").isNull = true ∧ (dictGet delta "scope_type").isStr "PROFILE" = true ∧
        (dictGet delta "scope_id").isStr profile.profileId = true ∧
        (dictGet delta "observed_at").isStr snapshot.observedAt = true ∧
        pyEq (dictGet delta "evidence_ref") profile.evidenceRef.toJson = true)
      (valueError "quality delta invents a baseline, value, scope, or source")
    return profile.profileId

def checkDeltas (projection : Fields) (snapshot : Snapshot) (profiles : List Profile) : Except PyExc Unit :=
  match dictGet projection "quality_deltas" with
  | .arr values => do
    check (values.length = profiles.length) (valueError "quality_deltas must map one-to-one to profiles")
    let ids ← values.mapM (checkDelta snapshot profiles)
    check (ids.dedup.length = profiles.length) (valueError "quality delta profile identities must be unique")
  | _ => throw (valueError "quality_deltas must map one-to-one to profiles")

/-- A section that must have the fields of a template, as `==` compares them. -/
def checkSection (projection : Fields) (key : PyStr) (template : Fields) (message : PyStr) : Except PyExc Unit := do
  let document ← obj (dictGet projection key) key
  check (hasKeys document (template.map Prod.fst) = true ∧
      ∀ f ∈ template, pyEq (dictGet document f.1) f.2 = true) (valueError message)

/-- The terminal visibility, whose three flags must be `True` itself. -/
def checkVisibility (projection : Fields) (profiles : List Profile) (evidenceRefs : Json) : Except PyExc Unit := do
  let visibility ← obj (dictGet projection "terminal_state_visibility") "terminal_state_visibility"
  let isTrue : Json → Bool := fun v => match v with
    | .bool b => b
    | _ => false
  check (hasKeys visibility ((visibilityFields profiles evidenceRefs).map Prod.fst) = true ∧
      pyEq (dictGet visibility "statuses")
        (textArray (sortedSet (profiles.flatMap fun p => p.summary.terminalStatuses))) = true ∧
      isTrue (dictGet visibility "preserves_unknown") = true ∧
      isTrue (dictGet visibility "preserves_not_evaluable") = true ∧
      isTrue (dictGet visibility "preserves_error") = true ∧
      pyEq (dictGet visibility "evidence_refs") evidenceRefs = true)
    (valueError "terminal visibility does not reproduce canonical receipt terminals")

def projectionKeys : List PyStr :=
  ["schema_version", "projection_id", "authority", "source_snapshot", "source_manifest", "profiles", "quality_deltas",
    "regression_recurrence", "terminal_state_visibility", "performance", "brand_adapters", "limitations"]

variable [PyUnicode]

/-- The canonical sources: those of the manifest, or those supplied, where they are what Git has. -/
def canonicalSources (receiptSources : Option (List Json)) (repositoryRoot : Option Repository)
    (ownRepository : Repository) (manifest : Manifest) : Except PyExc (List ReceiptSource) :=
  match receiptSources, repositoryRoot with
  | none, root => do
    let loaded ← loadReceiptSourcesAtGitCommit manifest.rawRefs (root.getD ownRepository)
    normalizeReceiptSources loaded
  | some _, none =>
    throw (valueError "caller-supplied receipt sources require repository_root for exact Git binding")
  | some sources, some root => bindReceiptSourcesToGit sources root

/-- `verify_dashboard_projection`, of a module that lies in `ownRepository`. -/
def verifyDashboardProjection (ownRepository : Repository) (document : Json) (receiptSources : Option (List Json))
    (repositoryRoot : Option Repository) : Except PyExc Json := do
  let whole ← obj document "quality projection"
  let fingerprint := dictGet whole "projection_fingerprint"
  let projection := whole.filter fun f => f.1 ≠ py "projection_fingerprint"
  check (hasKeys projection projectionKeys = true) (valueError "quality projection has an invalid top-level shape")
  check ((dictGet projection "schema_version").isStr qualityProjectionSchemaVersion = true)
    (valueError "unsupported quality projection schema")
  check ((dictGet projection "authority").isStr "DERIVED_READ_ONLY_PROJECTION" = true)
    (valueError "dashboard cannot become a canonical authority")
  check (isSha256 fingerprint = true) (valueError "quality projection fingerprint does not reproduce")
  let reproduced ← sha256Json (.obj projection)
  check (fingerprint.isStr reproduced = true) (valueError "quality projection fingerprint does not reproduce")
  let snapshot ← checkSnapshot projection
  let manifest ← checkManifest projection snapshot
  let sources ← canonicalSources receiptSources repositoryRoot ownRepository manifest
  checkSources manifest sources
  let profiles ← checkProfiles projection snapshot manifest sources
  checkDeltas projection snapshot profiles
  let evidenceRefs : Json := .arr (profiles.map fun p => p.evidenceRef.toJson)
  checkSection projection "regression_recurrence" (recurrenceFields evidenceRefs)
    "single-snapshot recurrence must remain explicitly unavailable"
  checkVisibility projection profiles evidenceRefs
  checkSection projection "performance" (performanceFields evidenceRefs)
    "performance must remain unavailable without canonical metrics"
  checkSection projection "brand_adapters" brandFields "brand-specific adapters are outside QA3 v0.1"
  let _ ← stringArray (dictGet projection "limitations") "limitations" false
  let verified : Json := .obj (projection ++ [(py "projection_fingerprint", fingerprint)])
  assertPublicSafe verified
  return verified

end Verify

end EvaluationLab.QA3
