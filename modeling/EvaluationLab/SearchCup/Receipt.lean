import EvaluationLab.Python.Sum
import EvaluationLab.SearchCup.LedgerFacts

/-! The receipt of a ledger: what its events add up to, and the check that recomputes it. -/
namespace EvaluationLab.SearchCup
open Python Effect Structure
open QA0 (Fields)

variable [PyRuntime]

section Measures

/-- `measure`. The state follows from the value unless it is given. -/
def measure (value : Json) (unit : PyStr) (state : Option PyStr) (reason : PyStr) : Except PyExc Json := do
  let derived : PyStr := if value.isNull then "UNKNOWN" else "KNOWN"
  let result : Json := .obj [("state", .str (state.getD derived)), ("value", value), ("unit", .str unit),
    ("reason", .str reason)]
  validateMeasure result none
  return result

def hasState (m : Json) (state : PyStr) : Bool := (get m "state").isStr state

/-- `total_measure`. -/
def totalMeasure (values : List Json) (unit : PyStr) : Except PyExc Json := do
  values.forM fun m => validateMeasure m (some unit)
  if values.any (hasState · "UNKNOWN") then
    measure .null unit none "at least one raw component unobservable"
  else if values.any (hasState · "NOT_APPLICABLE") then
    measure .null unit (some "NOT_APPLICABLE") "component not applicable; no zero imputation"
  else
    let total ← sumNumbers (values.map (get · "value"))
    measure total unit none "sum of raw observed components"

end Measures

section Reduction

/-- The arguments of `receipt`. -/
structure ReceiptInputs where
  entrantFingerprint : Json
  elapsedMs : Json
  operatorMs : Json
  waitingMs : Json
  outcomes : Json
  priceEvidence : Json

/-- The values of an object; what is no object has none. -/
def valuesOf (document : Json) : Except PyExc (List Json) :=
  match document with
  | .obj fields => .ok (fields.map Prod.snd)
  | _ => .error ⟨"AttributeError", ["AttributeError", "Exception"], "object has no attribute 'values'"⟩

def ReceiptInputs.check (inputs : ReceiptInputs) : Except PyExc Unit := do
  validateContract hashSchema inputs.entrantFingerprint
  validateContract numberSchema inputs.elapsedMs
  validateMeasure inputs.operatorMs (some "ms")
  validateMeasure inputs.waitingMs (some "ms")
  validateContract (arr refSchema 0) inputs.priceEvidence
  assertContentSafe inputs.outcomes
  (← valuesOf inputs.outcomes).forM fun m => validateMeasure m none

variable (ledger : ResourceLedger)

def ResourceLedger.attempts : List Json := ledger.events.filter crossedBoundary

/-- The attempts of a kind. -/
def ResourceLedger.attemptsOf (k : PyStr) : List Json := ledger.attempts.filter fun e => kind e = k

def ResourceLedger.search : List Json := ledger.attemptsOf "SEARCH"

def ResourceLedger.verification : List Json := ledger.attemptsOf "VERIFY"

def ResourceLedger.searchTurns : ℕ := top (ledger.search.map turn)

/-- The attempts with a status. -/
def withStatus (events : List Json) (s : PyStr) : ℕ := (events.filter fun e => status e = s).length

def withRetryKind (events : List Json) (k : PyStr) : ℕ := (events.filter fun e => retryKind e = k).length

/-- A label, when something was exceeded. -/
def violation (label : PyStr) (exceeded : Bool) : List PyStr := if exceeded then [label] else []

/-- A measured quantity against its ceiling. -/
def againstCeiling (label : PyStr) (observed ceiling : Json) : List PyStr :=
  if hasState ceiling "KNOWN" then
    if !hasState observed "KNOWN" then [label ++ py "_COMPLIANCE_UNKNOWN"]
    else violation (label ++ py "_EXCEEDED") (pyLt (get ceiling "value") (get observed "value"))
  else []

def ResourceLedger.violations (tokens money runtime : Json) (priced : Bool) : List PyStr :=
  let resource := ledger.spec.resources
  violation "SEARCH_CALLS_EXCEEDED" (count resource "max_search_calls" < ledger.search.length) ++
  violation "SEARCH_TURNS_EXCEEDED" (count resource "max_search_turns" < ledger.searchTurns) ++
  violation "FOLLOW_LINKS_EXCEEDED" (count resource "max_follow_links" < ledger.verification.length) ++
  violation "RESULT_LIMIT_EXCEEDED"
    (ledger.search.any fun e => count resource "max_results_per_call" < count e "result_count") ++
  violation "CALL_TIMEOUT_EXCEEDED"
    (ledger.attempts.any fun e => pyLt (get resource "timeout_per_call_ms") (get e "elapsed_ms")) ++
  againstCeiling "TOKENS" tokens (get resource "token_ceiling") ++
  againstCeiling "MONEY" money (get resource "money_ceiling") ++
  againstCeiling "RUNTIME" runtime (get resource "max_total_runtime_ms") ++
  violation "PRICE_EVIDENCE_MISSING" (hasMode ledger.spec.asDict "F3" && hasState money "KNOWN" && !priced) ++
  violation "REQUEST_REJECTED" (ledger.events.any fun e => status e = py "REJECTED")

/-- The failed attempts that cost money, or may have. -/
def ResourceLedger.paidFailedAttempts : List PyStr :=
  (ledger.attempts.filter fun e => status e = py "FAILED" && (!hasState (get e "money") "KNOWN" ||
    pyLt (.int 0) (get (get e "money") "value"))).map eventId

/-- `fingerprint(doc["retriever"]) if doc["retriever"] else None`. -/
def SearchSpecV2.retrieverFingerprint (spec : SearchSpecV2) : Except PyExc Json :=
  if (get spec.asDict "retriever").truthy then do return .str (← SearchCup.fingerprint (get spec.asDict "retriever"))
  else .ok .null

def terminalStatus (violations : List PyStr) (infrastructure : ℕ) : PyStr :=
  if violations ≠ [] then "BLOCKED" else if infrastructure ≠ 0 then "NOT_EVALUABLE" else "PASS"

/-- What `receipt` computes besides its arguments. -/
structure Reduction where
  tokens : Json
  money : Json
  runtime : Json
  retriever : Json
  resource : PyStr
  byClass : List (PyStr × Json)

def ResourceLedger.reduce (elapsedMs : Json) : Except PyExc Reduction := do
  let tokens ← totalMeasure (ledger.attempts.map (get · "tokens")) "tokens"
  let money ← totalMeasure (ledger.attempts.map (get · "money")) ledger.spec.currency
  let runtime ← measure elapsedMs "ms" none "observed fixture value"
  check (pyLt elapsedMs (maxNumber (ledger.attempts.map (get · "elapsed_ms"))) = false)
    (valueError "elapsed time shorter than a recorded call")
  let retriever ← ledger.spec.retrieverFingerprint
  let resource ← fingerprint ledger.spec.resources
  let byClass ← (["SEARCH", "VERIFY", "MODEL"] : List PyStr).mapM fun k => do
    return (k, ← totalMeasure ((ledger.attemptsOf k).map (get · "money")) (asText (get money "unit")))
  return ⟨tokens, money, runtime, retriever, resource, byClass⟩

def countJson (n : ℕ) : Json := .int n

def textsJson (texts : List PyStr) : Json := .arr (texts.map .str)

/-- The document a receipt seals. -/
def ResourceLedger.receiptFields (inputs : ReceiptInputs) (r : Reduction) : Fields :=
  let resource := ledger.spec.resources
  let violations := ledger.violations r.tokens r.money r.runtime inputs.priceEvidence.truthy
  let infrastructure := withStatus ledger.attempts "FAILED"
  [(py "schema_id", .str "search-resource-receipt/v2"), (py "run_id", ledger.runId),
    (py "spec_fingerprint", .str ledger.spec.fingerprint), (py "track_id", get ledger.spec.asDict "track_id"),
    (py "fairness_mode", get ledger.spec.asDict "fairness_mode"),
    (py "entrant_fingerprint", inputs.entrantFingerprint), (py "retriever_fingerprint", r.retriever),
    (py "resource_contract_fingerprint", .str r.resource), (py "events", .arr ledger.events),
    (py "search_unit", get resource "search_unit"), (py "search_attempted", countJson ledger.search.length),
    (py "search_succeeded", countJson (withStatus ledger.search "SUCCEEDED")),
    (py "search_failed", countJson (withStatus ledger.search "FAILED")),
    (py "search_remaining", countJson (count resource "max_search_calls" - ledger.search.length)),
    (py "search_turns", countJson ledger.searchTurns),
    (py "results", countJson (ledger.search.map fun e => count e "result_count").sum),
    (py "follow_links", countJson ledger.verification.length),
    (py "provider_requests", countJson (ledger.attemptsOf "MODEL").length),
    (py "automatic_retries", countJson (withRetryKind ledger.attempts "AUTOMATIC")),
    (py "manual_retries", countJson (withRetryKind ledger.attempts "MANUAL")),
    (py "retry_policy", get resource "retry_policy"), (py "tokens", r.tokens), (py "money", r.money),
    (py "money_by_class", .obj r.byClass), (py "paid_failed_attempts", textsJson ledger.paidFailedAttempts),
    (py "elapsed_ms", inputs.elapsedMs), (py "operator_ms", inputs.operatorMs),
    (py "waiting_ms", inputs.waitingMs), (py "infrastructure_failures", countJson infrastructure),
    (py "outcome_inputs", inputs.outcomes), (py "price_evidence", inputs.priceEvidence),
    (py "terminal_status", .str (terminalStatus violations infrastructure)),
    (py "reason_codes", textsJson (violations.insertionSort fun s t => strLe s t = true)),
    (py "quality_score", .null),
    (py "secret_exclusion", .obj [(py "scanner", .str "public-safe-patterns/v1"), (py "status", .str "PASS")]),
    (py "evidence_kind", .str "OFFLINE_SUPPLIED_ACCOUNTING_FACTS_NOT_EXECUTION")]

/-- `ResourceLedger.receipt`. -/
def ResourceLedger.receipt (inputs : ReceiptInputs) : Except PyExc Fields := do
  inputs.check
  let r ← ledger.reduce inputs.elapsedMs
  sealDocument (ledger.receiptFields inputs r)

end Reduction

section Revalidation

/-- The arguments a receipt was made of. -/
def ReceiptInputs.ofReceipt (document : Json) : Except PyExc ReceiptInputs := do
  return {
    entrantFingerprint := ← required document "entrant_fingerprint"
    elapsedMs := ← required document "elapsed_ms"
    operatorMs := ← required document "operator_ms"
    waitingMs := ← required document "waiting_ms"
    outcomes := ← required document "outcome_inputs"
    priceEvidence := ← required document "price_evidence" }

/-- The receipt again, from the events and the arguments of a document. -/
def rebuildReceipt (document : Json) (spec : SearchSpecV2) : Except PyExc Fields := do
  let runId ← required document "run_id"
  let text ← QA0.canonicalJson (← required document "events")
  let ledger ← ResourceLedger.build spec runId text
  let inputs ← ReceiptInputs.ofReceipt document
  ledger.receipt inputs

/-- `validate_resource_receipt`. -/
def validateResourceReceipt (document : Json) (spec : SearchSpecV2) : Except PyExc Unit := do
  verifySeal document
  let rebuilt ← reshaping "resource receipt shape mismatch" (rebuildReceipt document spec)
  check (pyEq document (.obj rebuilt) = true) (valueError "resource receipt accounting mismatch")

end Revalidation

end EvaluationLab.SearchCup
