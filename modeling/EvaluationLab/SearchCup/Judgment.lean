import EvaluationLab.SearchCup.Pool

/-! Judgment on a frozen package: what a package binds together, what a record of a judge must say, and the
journal of first passes and human overrides. -/
namespace EvaluationLab.SearchCup
open Python Effect
open QA0 (Fields)

section Schemas

/-- `DIMENSION`. -/
def dimensionSchema : Schema := obj [
  ("id", textSchema),
  ("allowed_values", arr textSchema 1),
  ("evidence_threshold", textSchema),
  ("unknown_rule", constText "INSUFFICIENT_EVIDENCE_NOT_NEGATIVE"),
  ("hard_constraint", .boolean),
  ("satisfying_values", arr textSchema 0)] []

/-- `RUBRIC`. -/
def rubricSchema : Schema := obj [
  ("id", textSchema),
  ("version", textSchema),
  ("dimensions", arr dimensionSchema 1),
  ("confidence_allowed", .boolean),
  ("hard_constraints_first", constBool true),
  ("aggregation", obj [
    ("method", textSchema),
    ("tie_policy", .enum ["ADJUDICATE", "PRESERVE_DISAGREEMENT"]),
    ("unknown_policy", constText "PRESERVE"),
    ("frozen_before_outputs", constBool true)] [])] []

def triggers : List PyStr := ["DISAGREEMENT", "CRITICAL_UNKNOWN", "IDENTITY_COLLISION", "CONTRADICTION", "RUBRIC_EDGE"]

/-- `ADJUDICATION`. -/
def adjudicationSchema : Schema := obj [
  ("id", textSchema),
  ("version", textSchema),
  ("allowed", .boolean),
  ("triggers", arr (.enum triggers) 0),
  ("thresholds", refSchema),
  ("evidence_policy", constText "FROZEN_PACKET_ONLY"),
  ("append_only", constBool true)] []

def evidencePacketSchema : Schema := obj [
  ("id", textSchema),
  ("version", textSchema),
  ("entries", arr (obj [
    ("reference", refSchema),
    ("excerpt", textSchema),
    ("captured_at", textSchema),
    ("locator", textSchema),
    ("corpus_fingerprint", orNull hashSchema)] []) 0)] []

def sourceOverlaySchema : Schema := obj [
  ("kind", .enum ["SYNTHETIC", "FROZEN", "LIVE"]),
  ("corpus", orNull refSchema),
  ("reference_set", orNull refSchema),
  ("capture_cutoff", stringOrNull),
  ("adjudication_time", stringOrNull),
  ("drift_policy", orNull refSchema)] []

/-- `ENTRANT`. -/
def entrantSchema : Schema := obj [
  ("entrant_id", textSchema),
  ("provider", textSchema),
  ("requested_model_id", textSchema),
  ("resolved_model_id", stringOrNull),
  ("resolution_status", .enum ["KNOWN", "UNKNOWN"]),
  ("identity_status", .enum ["AS_REQUESTED", "DECLARED_ALIAS", "UNRESOLVED", "SUBSTITUTED"]),
  ("alias_evidence", orNull refSchema),
  ("endpoint_mode", textSchema),
  ("config_fingerprint", hashSchema)] []

/-- `RECORD_SCHEMA`. -/
def recordSchema : Schema := obj [
  ("record_id", textSchema),
  ("run_id", textSchema),
  ("candidate_id", textSchema),
  ("judge_alias", textSchema),
  ("judge_identity", entrantSchema),
  ("package_fingerprint", hashSchema),
  ("rubric_fingerprint", hashSchema),
  ("state", .enum ["ACCEPT", "REJECT", "UNKNOWN", "NOT_EVALUABLE", "ERROR", "BLOCKED"]),
  ("dimensions", arr (obj [("id", textSchema), ("value", textSchema)] []) 1),
  ("confidence", orNull numberSchema),
  ("evidence_used", arr refSchema 0),
  ("reason_codes", arr textSchema 1),
  ("failure_class", .enum ["NONE", "INSUFFICIENT_EVIDENCE", "INFRASTRUCTURE", "POLICY"]),
  ("committed_at", textSchema),
  ("observed_peer_records", .const (.arr [])),
  ("canonical_fingerprint", hashSchema)] []

def firstPassSchema : Schema := obj [("kind", constText "FIRST_PASS"), ("record", recordSchema)] []

def overrideSchema : Schema := obj [
  ("kind", constText "HUMAN_OVERRIDE"),
  ("candidate_id", textSchema),
  ("prior_machine_fingerprints", arr hashSchema 1),
  ("adjudicator_alias", textSchema),
  ("decision", .enum ["ACCEPT", "REJECT", "UNKNOWN"]),
  ("trigger", .enum triggers),
  ("reason_code", textSchema),
  ("evidence_used", arr refSchema 1),
  ("timestamp", textSchema),
  ("previous_journal_fingerprint", hashSchema),
  ("canonical_fingerprint", hashSchema)] []

end Schemas

variable [PyRuntime]

section Package

variable [PyNormalization]

/-- A dimension whose satisfying values are explicit. -/
def checkDimension (dimension : Json) : Except PyExc Unit :=
  check ((∀ v ∈ asTexts (get dimension "satisfying_values"), v ∈ asTexts (get dimension "allowed_values")) ∧
      ((get dimension "hard_constraint").truthy = true → (get dimension "satisfying_values").truthy = true))
    (valueError "rubric hard-constraint satisfaction must be explicit")

/-- A captured piece of evidence against the corpus or the cutoff. -/
def checkCapture (overlay entry : Json) : Except PyExc Unit := do
  let capture ← timestamp (asText (get entry "captured_at"))
  if (get overlay "kind").isStr "FROZEN" then
    check ((get overlay "corpus").isNull = false ∧ (get overlay "reference_set").isNull = false ∧
        pyEq (get entry "corpus_fingerprint") (get (get overlay "corpus") "fingerprint") = true)
      (valueError "evidence outside frozen corpus")
  if (get overlay "kind").isStr "LIVE" then
    check ((get overlay "capture_cutoff").isNull = false ∧ (get overlay "adjudication_time").isNull = false ∧
        (get overlay "drift_policy").isNull = false)
      (valueError "live adjudication overlay incomplete")
    let cutoff ← timestamp (asText (get overlay "capture_cutoff"))
    check (capture ≤ cutoff) (valueError "live evidence/cutoff mismatch")
    let adjudication ← timestamp (asText (get overlay "adjudication_time"))
    check (cutoff ≤ adjudication) (valueError "live evidence/cutoff mismatch")

/-- The evidence references of a packet. -/
def references (packet : Json) : List PyStr := (asItems (get packet "entries")).map fun e => render (get e "reference")

/-- `judgment_contract`. -/
def judgmentContract (pool packet rubric adjudication output resource overlay : Json) : Except PyExc Fields := do
  validatePool pool
  validateContract rubricSchema rubric
  validateContract adjudicationSchema adjudication
  validateContract refSchema output
  validateContract hashSchema resource
  assertContentSafe packet
  check ((get pool "collisions").truthy = false)
    (valueError "UNKNOWN_IDENTITY must be adjudicated before candidate freeze")
  check ((get pool "candidates").truthy = true) (valueError "frozen judgment pool must not be empty")
  check ((asItems (get rubric "dimensions")).map fun d => asText (get d "id")).Nodup
    (valueError "duplicate rubric dimensions")
  (asItems (get rubric "dimensions")).forM checkDimension
  validateContract evidencePacketSchema packet
  check (references packet).Nodup (valueError "conflicting evidence identity")
  (asItems (get pool "candidates")).forM fun item =>
    check (∀ e ∈ asItems (get item "evidence"), render e ∈ references packet)
      (valueError "candidate evidence missing from frozen packet")
  validateContract sourceOverlaySchema overlay
  (asItems (get packet "entries")).forM (checkCapture overlay)
  sealDocument [(py "schema_id", .str "search-judgment-package/v2"), (py "candidate_pool", pool),
    (py "evidence_packet", packet), (py "rubric", rubric), (py "adjudication", adjudication),
    (py "output_schema", output), (py "resource_fingerprint", resource), (py "source_overlay", overlay),
    (py "allowed_tools", .arr []), (py "order_policy", .str "CANDIDATE_ID_ASC"),
    (py "independent_first_pass", .bool true)]

/-- `judgment_package`. -/
def judgmentPackage (pool packet rubric adjudication output resource overlay : Json) (spec : SearchSpecV2) :
    Except PyExc Fields := do
  let core ← judgmentContract pool packet rubric adjudication output resource overlay
  let doc := spec.asDict
  check (hasTrack doc "JUDGMENT_ONLY" = true ∧ (get doc "spec_status").isStr "FROZEN" = true)
    (valueError "judgment package requires frozen Judgment-only SearchSpec")
  let resources ← fingerprint (get doc "resources")
  check (resource.isStr resources = true) (valueError "judgment contract/SearchSpec binding mismatch")
  let frozen ← required (get doc "judgment_contract") "fingerprint"
  let contract ← fingerprint (.obj core)
  check (frozen.isStr contract = true) (valueError "judgment contract/SearchSpec binding mismatch")
  let candidates ← fingerprint pool
  let evidence ← fingerprint packet
  let rubricDigest ← fingerprint rubric
  let policy ← fingerprint adjudication
  let blinding ← fingerprint (get pool "policy")
  let order ← fingerprint (dictGet core "order_policy")
  let aggregation ← fingerprint (get rubric "aggregation")
  [(py "candidate_set", candidates), (py "evidence_packet", evidence), (py "rubric", rubricDigest),
      (py "adjudication_policy", policy), (py "output_schema", asText (get output "fingerprint")),
      (py "blind_transform", blinding), (py "order_policy", order), (py "aggregation_policy", aggregation)].forM fun bound => do
    let reference ← required (get doc "overlay") bound.1
    let value ← required reference "fingerprint"
    check (value.isStr bound.2 = true) (valueError "judgment overlay/SearchSpec binding mismatch")
  sealDocument (core ++ [(py "searchspec", doc)])

/-- `SearchSpecV2(canonical_content)`. -/
def SearchSpecV2.build (content : PyStr) : Except PyExc SearchSpecV2 :=
  match h : readSearchSpec content with
  | .ok document => .ok ⟨content, document, h⟩
  | .error e => .error e

/-- `SearchSpecV2.from_mapping`. -/
def SearchSpecV2.fromMapping (document : Json) : Except PyExc SearchSpecV2 := do
  validateSearchSpec document
  let text ← QA0.canonicalJson document
  SearchSpecV2.build text

/-- The package that the parts of a package make. -/
def rebuildPackage (package : Json) : Except PyExc Fields := do
  let document ← required package "searchspec"
  let spec ← SearchSpecV2.fromMapping document
  let pool ← required package "candidate_pool"
  let packet ← required package "evidence_packet"
  let rubric ← required package "rubric"
  let adjudication ← required package "adjudication"
  let output ← required package "output_schema"
  let resource ← required package "resource_fingerprint"
  let overlay ← required package "source_overlay"
  judgmentPackage pool packet rubric adjudication output resource overlay spec

/-- `validate_package`. -/
def validatePackage (package : Json) : Except PyExc Unit := do
  verifySeal package
  let rebuilt ← reshaping "judgment package shape mismatch" (rebuildPackage package)
  check (pyEq package (.obj rebuilt) = true) (valueError "judgment package contains unfrozen fields or controls")

end Package

section Record

/-- `validate_entrant`. -/
def validateEntrant (entrant : Json) : Except PyExc Unit := do
  validateContract entrantSchema entrant
  assertContentSafe entrant
  let known := (get entrant "resolution_status").isStr "KNOWN"
  check (known = (get entrant "resolved_model_id").truthy) (valueError "model resolution missingness mismatch")
  let identity := asText (get entrant "identity_status")
  check (known = false → identity = py "UNRESOLVED") (valueError "unresolved model cannot assert resolved identity")
  check (known = true → identity ≠ py "UNRESOLVED" ∧ (identity = py "AS_REQUESTED" →
      pyEq (get entrant "requested_model_id") (get entrant "resolved_model_id") = true))
    (valueError "unrecorded model substitution")
  check (identity = py "DECLARED_ALIAS" → (get entrant "alias_evidence").isNull = false)
    (valueError "model alias requires frozen evidence")

def recordId (record : Json) : PyStr := asText (get record "record_id")

def runId (record : Json) : PyStr := asText (get record "run_id")

def judgeAlias (record : Json) : PyStr := asText (get record "judge_alias")

/-- `document["candidate_id"]`, of a record, of an override or of a candidate. -/
def candidateOf (document : Json) : PyStr := asText (get document "candidate_id")

def stateOf (record : Json) : PyStr := asText (get record "state")

/-- `document["canonical_fingerprint"]`. -/
def sealOf (document : Json) : PyStr := asText (get document fingerprintKey)

/-- The candidates of a package. -/
def frozenCandidates (package : Json) : List Json := asItems (get (get package "candidate_pool") "candidates")

/-- The failure class of a state. -/
def expectedFailure (state : PyStr) : PyStr :=
  if state = py "ACCEPT" ∨ state = py "REJECT" then "NONE"
  else if state = py "UNKNOWN" then "INSUFFICIENT_EVIDENCE"
  else if state = py "BLOCKED" then "POLICY"
  else "INFRASTRUCTURE"

/-- Every document of one list is in another, by canonical text. -/
def Within (documents others : List Json) : Prop := ∀ e ∈ documents, render e ∈ others.map render

instance (documents others : List Json) : Decidable (Within documents others) := inferInstanceAs (Decidable (∀ _ ∈ _, _))

/-- The dimension of the rubric that a recorded one names: the last of its id. -/
def rubricDimension (package item : Json) : Json :=
  ((asItems (get (get package "rubric") "dimensions")).reverse.find? fun d =>
    asText (get d "id") = asText (get item "id")).getD .null

/-- `confidence > 1`. -/
def aboveOne (confidence : Json) : Bool := (number confidence).any fun x => numberLt (.finite 1) x

variable [PyNormalization]

/-- `validate_record`. -/
def validateRecord (record package : Json) : Except PyExc Unit := do
  validateContract recordSchema record
  verifySeal record
  validatePackage package
  let _ ← timestamp (asText (get record "committed_at"))
  let judge := get record "judge_identity"
  validateEntrant judge
  check (asText (get judge "entrant_id") = judgeAlias record) (valueError "sealed judge identity/alias mismatch")
  let state := stateOf record
  check (state ∈ (["ACCEPT", "REJECT", "UNKNOWN"] : List PyStr) →
      (get judge "resolution_status").isStr "KNOWN" = true ∧ (get judge "identity_status").isStr "SUBSTITUTED" = false)
    (valueError "unresolved/substituted judge cannot issue comparable judgment")
  check (pyEq (get record "package_fingerprint") (get package fingerprintKey) = true)
    (valueError "judgment package binding mismatch")
  let rubric ← fingerprint (get package "rubric")
  check (asText (get record "rubric_fingerprint") = rubric) (valueError "judgment package binding mismatch")
  match (frozenCandidates package).find? fun c => candidateOf c = candidateOf record with
  | none => throw (valueError "candidate not frozen in package")
  | some candidate => do
    check (Within (asItems (get record "evidence_used")) (asItems (get candidate "evidence")))
      (valueError "new evidence forbidden")
    let named := (asItems (get record "dimensions")).map fun d => asText (get d "id")
    let declared := ((asItems (get (get package "rubric") "dimensions")).map fun d => asText (get d "id")).dedup
    check (named.length = declared.length ∧ (∀ d ∈ named, d ∈ declared) ∧ ∀ d ∈ declared, d ∈ named)
      (valueError "rubric dimension mismatch")
    (asItems (get record "dimensions")).forM fun item =>
      check (asText (get item "value") ∈ asTexts (get (rubricDimension package item) "allowed_values") ++ [py "UNKNOWN"])
        (valueError "value outside frozen rubric")
    check (asText (get record "failure_class") = expectedFailure state) (valueError "judgment state/failure mismatch")
    check (state = py "ACCEPT" ∨ state = py "REJECT" → (get record "evidence_used").truthy = true)
      (valueError "quality decision requires frozen evidence")
    check (state = py "ACCEPT" ∨ state = py "REJECT" → ∀ item ∈ asItems (get record "dimensions"),
        ¬(asText (get item "value") = py "UNKNOWN" ∧ (get (rubricDimension package item) "hard_constraint").truthy = true))
      (valueError "hard-constraint UNKNOWN cannot become quality decision")
    check (state = py "ACCEPT" → ∀ item ∈ asItems (get record "dimensions"),
        (get (rubricDimension package item) "hard_constraint").truthy = true →
          asText (get item "value") ∈ asTexts (get (rubricDimension package item) "satisfying_values"))
      (valueError "hard constraints precede soft acceptance")
    let confidence := get record "confidence"
    check (confidence.isNull = false → aboveOne confidence = false ∧
        (get (get package "rubric") "confidence_allowed").truthy = true)
      (valueError "confidence violates frozen rubric")

end Record

section Journal

def isFirstPass (entry : Json) : Bool := (get entry "kind").isStr "FIRST_PASS"

def isOverride (entry : Json) : Bool := (get entry "kind").isStr "HUMAN_OVERRIDE"

/-- The records of the first passes. -/
def recordsOf (entries : List Json) : List Json := (entries.filter isFirstPass).map fun e => get e "record"

/-- The judge and the candidate of a record. -/
def judged (record : Json) : PyStr × PyStr := (judgeAlias record, candidateOf record)

/-- A record beside one that came before it. -/
def checkPeer (record old : Json) : Except PyExc Unit := do
  check (runId old = runId record) (valueError "one journal requires one run identity")
  check (judgeAlias old = judgeAlias record → pyEq (get old "judge_identity") (get record "judge_identity") = true)
    (valueError "judge identity changed during run")
  check (recordId old ≠ recordId record ∧ judged old ≠ judged record) (valueError "first-pass overwrite forbidden")

variable [PyNormalization]

/-- A first pass after the entries before it. -/
def checkFirstPass (aliases : List PyStr) (package : Json) (prior : List Json) (entry : Json) : Except PyExc Unit := do
  validateContract firstPassSchema entry
  let record := get entry "record"
  validateRecord record package
  check (judgeAlias record ∈ aliases) (valueError "undeclared judge alias")
  (recordsOf prior).forM (checkPeer record)
  check (∀ old ∈ prior, isOverride old = false) (valueError "first pass must precede synthesis/adjudication")

omit [PyNormalization] in
/-- `timestamp(first) >= timestamp(second)`. -/
def notBefore (first second : PyStr) (error : PyExc) : Except PyExc Unit := do
  let t ← timestamp first
  let s ← timestamp second
  check (s ≤ t) error

/-- The pairs of a declared judge and a frozen candidate. -/
def expectedPairs (aliases : List PyStr) (package : Json) : List (PyStr × PyStr) :=
  aliases.flatMap fun j => (frozenCandidates package).map fun c => (j, candidateOf c)

omit [PyNormalization] in
/-- An override after the entries before it. -/
def checkOverride (aliases : List PyStr) (package : Json) (prior : List Json) (entry : Json) : Except PyExc Unit := do
  validateContract overrideSchema entry
  verifySeal entry
  let policy := get package "adjudication"
  let trigger := asText (get entry "trigger")
  check ((get policy "allowed").truthy = true ∧ trigger ∈ asTexts (get policy "triggers"))
    (valueError "adjudication trigger not frozen")
  let chain ← fingerprint (.arr prior)
  check (asText (get entry "previous_journal_fingerprint") = chain) (valueError "adjudication chain mismatch")
  let records := recordsOf prior
  check ((∀ r ∈ records, judged r ∈ expectedPairs aliases package) ∧
      ∀ p ∈ expectedPairs aliases package, p ∈ records.map judged)
    (valueError "all independent first passes required before adjudication")
  let related := records.filter fun r => candidateOf r = candidateOf entry
  let named := asTexts (get entry "prior_machine_fingerprints")
  check ((∀ d ∈ named, d ∈ related.map sealOf) ∧ (∀ r ∈ related, sealOf r ∈ named) ∧ related ≠ [])
    (valueError "override must preserve all prior machine judgments")
  check (trigger = py "DISAGREEMENT" → 2 ≤ (related.map stateOf).dedup.length)
    (valueError "disagreement trigger lacks disagreement")
  check (trigger = py "CRITICAL_UNKNOWN" → py "UNKNOWN" ∈ related.map stateOf)
    (valueError "UNKNOWN trigger lacks unresolved judgment")
  check (trigger ≠ py "IDENTITY_COLLISION") (valueError "identity collisions must be resolved before package freeze")
  match (frozenCandidates package).find? fun c => candidateOf c = candidateOf entry with
  | none => throw ⟨"StopIteration", ["StopIteration", "Exception"], []⟩
  | some candidate => do
    check (Within (asItems (get entry "evidence_used")) (asItems (get candidate "evidence")))
      (valueError "adjudicator cannot add evidence")
    let time := asText (get entry "timestamp")
    records.forM fun r => notBefore time (asText (get r "committed_at")) (valueError "override predates first pass")
    (prior.filter isOverride).forM fun old =>
      notBefore time (asText (get old "timestamp")) (valueError "override predates append-only history")

/-- `JudgmentJournal._validate_entry`. -/
def validateEntry (aliases : List PyStr) (package : Json) (prior : List Json) (entry : Json) : Except PyExc Unit :=
  match entry with
  | .obj _ =>
    if isFirstPass entry then checkFirstPass aliases package prior entry
    else if isOverride entry then checkOverride aliases package prior entry
    else throw (valueError "unsupported judgment journal entry")
  | _ => throw ⟨"AttributeError", ["AttributeError", "Exception"], "object has no attribute 'get'"⟩

/-- `JudgmentJournal.__post_init__`: the package and the entries that the texts stand for. -/
def readJournal (packageJson : PyStr) (aliases : List PyStr) (entriesJson : PyStr) : Except PyExc (Json × List Json) := do
  let package ← loads packageJson
  validatePackage package
  check (aliases ≠ [] ∧ aliases.Nodup) (valueError "judge aliases must be unique")
  validateContract (arr textSchema 1) (.arr (aliases.map .str))
  assertContentSafe (.arr (aliases.map .str))
  match ← loads entriesJson with
  | .arr entries => do
    let text ← QA0.canonicalJson (.arr entries)
    check (text = entriesJson) (valueError "journal must be canonical")
    let entries ← entries.foldlM (fun prior entry => do validateEntry aliases package prior entry; return prior ++ [entry]) []
    return (package, entries)
  | _ => throw (valueError "journal must be canonical")

/-- `JudgmentJournal`: texts that were accepted, and what they stand for. -/
structure JudgmentJournal where
  packageJson : PyStr
  judgeAliases : List PyStr
  entriesJson : PyStr
  package : Json
  entries : List Json
  accepted : readJournal packageJson judgeAliases entriesJson = .ok (package, entries)

/-- `JudgmentJournal(package_json, judge_aliases, entries_json)`. -/
def JudgmentJournal.build (packageJson : PyStr) (aliases : List PyStr) (entriesJson : PyStr) : Except PyExc JudgmentJournal :=
  match h : readJournal packageJson aliases entriesJson with
  | .ok (package, entries) => .ok ⟨packageJson, aliases, entriesJson, package, entries, h⟩
  | .error e => .error e

/-- `JudgmentJournal.append`. -/
def JudgmentJournal.append (journal : JudgmentJournal) (entry : Json) : Except PyExc JudgmentJournal := do
  let text ← QA0.canonicalJson (.arr (journal.entries ++ [entry]))
  JudgmentJournal.build journal.packageJson journal.judgeAliases text

end Journal

end EvaluationLab.SearchCup
