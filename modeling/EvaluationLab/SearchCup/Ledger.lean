import EvaluationLab.SearchCup.SearchSpec
import EvaluationLab.Structure.Grown

/-! The accounting ledger: which events it admits, and what holds of every ledger. -/
namespace EvaluationLab.SearchCup
open Python Effect Structure
open QA0 (Fields)

section Event

def eventProperties : List (PyStr × Schema) := [
  ("event_id", textSchema),
  ("kind", .enum ["SEARCH", "VERIFY", "MODEL"]),
  ("unit", .enum ["RAW_BACKEND_ATTEMPT", "INTEGRATED_STACK_INVOCATION", "VERIFICATION", "MODEL_REQUEST"]),
  ("status", .enum ["SUCCEEDED", "FAILED", "REJECTED"]),
  ("crossed_boundary", .boolean),
  ("turn", countSchema),
  ("result_count", countSchema),
  ("elapsed_ms", numberSchema),
  ("tokens", measureSchema),
  ("money", measureSchema),
  ("retry_kind", .enum ["NONE", "MANUAL", "AUTOMATIC"]),
  ("retry_of", stringOrNull),
  ("failure_class", .enum ["NONE", "INFRASTRUCTURE", "BUDGET", "POLICY"]),
  ("request_fingerprint", orNull refSchema),
  ("result_fingerprints", arr refSchema 0)]

/-- `EVENT_SCHEMA`. -/
def eventSchema : Schema := obj eventProperties []

def eventId (event : Json) : PyStr := asText (get event "event_id")

def kind (event : Json) : PyStr := asText (get event "kind")

def status (event : Json) : PyStr := asText (get event "status")

def retryKind (event : Json) : PyStr := asText (get event "retry_kind")

def crossedBoundary (event : Json) : Bool := (get event "crossed_boundary").truthy

/-- A checked count. -/
def count (document : Json) (key : PyStr) : ℕ := (asInt (get document key)).toNat

def turn (event : Json) : ℕ := count event "turn"

def retryOf (event : Json) : Option PyStr :=
  match get event "retry_of" with
  | .str s => some s
  | _ => none

/-- `e["kind"] == "SEARCH" and e["crossed_boundary"]`. -/
def attemptedSearch (event : Json) : Bool := kind event = py "SEARCH" && crossedBoundary event

def automatic (event : Json) : Bool := retryKind event = py "AUTOMATIC"

def eventError (message : PyStr) : PyExc := valueError message

end Event

section Checks

variable [PyRuntime]

def SearchSpecV2.resources (spec : SearchSpecV2) : Json := get spec.asDict "resources"

def SearchSpecV2.currency (spec : SearchSpecV2) : PyStr := asText (get (get spec.resources "money_ceiling") "unit")

def SearchSpecV2.automaticRetries (spec : SearchSpecV2) : ℕ := count spec.resources "automatic_retries"

/-- The status of an event against its failure class and what it consumed. -/
def checkStatus (event : Json) : Except PyExc Unit := do
  let failure := asText (get event "failure_class")
  check (crossedBoundary event = !(status event = py "REJECTED" : Bool)) (eventError "attempt/status mismatch")
  check (status event = py "SUCCEEDED" → failure = py "NONE") (eventError "successful event cannot have failure")
  check (status event = py "FAILED" → failure = py "INFRASTRUCTURE")
    (eventError "backend failure must remain infrastructure")
  if status event = py "REJECTED" then
    check ((failure = py "BUDGET" ∨ failure = py "POLICY") ∧ count event "result_count" = 0 ∧
      (get event "result_fingerprints").truthy = false) (eventError "invalid pre-boundary rejection")
    check (∀ k ∈ (["money", "tokens"] : List PyStr), (get (get event k) "state").isStr "KNOWN" = true ∧
      pyEq (get (get event k) "value") (.int 0) = true)
      (eventError "pre-boundary rejection must not consume backend resources")
  check ((asItems (get event "result_fingerprints")).length = count event "result_count")
    (eventError "result provenance count mismatch")

/-- The unit an event of this kind is counted in. -/
def SearchSpecV2.expectedUnit (spec : SearchSpecV2) (event : Json) : PyStr :=
  if kind event = py "SEARCH" then asText (get spec.resources "search_unit")
  else if kind event = py "VERIFY" then "VERIFICATION" else "MODEL_REQUEST"

def checkUnit (spec : SearchSpecV2) (event : Json) : Except PyExc Unit := do
  if spec.expectedUnit event = py "NONE" then
    check (crossedBoundary event = false) (eventError "Judgment-only prohibits search attempts")
  else
    check (asText (get event "unit") = spec.expectedUnit event) (eventError "resource-unit equivalence is forbidden")
  check (hasTrack spec.asDict "JUDGMENT_ONLY" = true → kind event = py "VERIFY" → crossedBoundary event = false)
    (eventError "Judgment-only prohibits live verification")
  check (crossedBoundary event = true → (get event "request_fingerprint").isNull = false)
    (eventError "attempt must retain request provenance")

/-- The turns of the searches attempted so far. -/
def turns (prior : List Json) : List ℕ := (prior.filter attemptedSearch).map turn

def checkTurn (event : Json) (prior : List Json) : Except PyExc Unit :=
  if attemptedSearch event then
    check (Rises (turns prior) (turn event)) (eventError "search-turn sequence invalid")
  else
    check (kind event ≠ py "SEARCH" → turn event = 0) (eventError "non-search event cannot increment search turns")

/-- `next(e for e in prior if …)` found nothing. -/
def stopIteration : PyExc := ⟨"StopIteration", ["StopIteration", "Exception"], []⟩

/-- The automatic retries whose chain ends in the event of this id. -/
def automaticRetriesOf (root : PyStr) (prior : List Json) : ℕ :=
  (prior.filter fun e => automatic e && (rootOf eventId retryOf prior e).map eventId == some root).length

/-- A retry against the history. The chain is followed for as many steps as there are events. -/
def checkRetry (spec : SearchSpecV2) (event : Json) (prior : List Json) : Except PyExc Unit :=
  if retryKind event = py "NONE" then check (retryOf event = none) (eventError "undeclared retry")
  else
    match (retryOf event).bind (memberOf eventId prior) with
    | none => throw (eventError "retry must reference a prior failed same-kind attempt")
    | some target => do
      check (kind target = kind event ∧ status target = py "FAILED")
        (eventError "retry must reference a prior failed same-kind attempt")
      check (retryKind event = py "MANUAL" →
        (get spec.resources "manual_retry_policy").isStr "NEW_BUDGETED_EVENT" = true)
        (eventError "manual retry forbidden")
      if automatic event then
        match rootOf eventId retryOf prior target with
        | none => throw stopIteration
        | some root =>
          check (automaticRetriesOf (eventId root) prior < spec.automaticRetries)
            (eventError "automatic retry policy exceeded")

/-- `ResourceLedger._validate_event`. -/
def validateEvent (spec : SearchSpecV2) (prior : List Json) (event : Json) : Except PyExc Unit := do
  validateContract eventSchema event
  assertContentSafe event
  validateMeasure (get event "tokens") (some "tokens")
  validateMeasure (get event "money") (some spec.currency)
  check (eventId event ∉ prior.map eventId) (eventError "duplicate accounting event")
  checkStatus event
  checkUnit spec event
  checkTurn event prior
  checkRetry spec event prior

/-- `ResourceLedger.__post_init__`: the events a canonical text stands for. -/
def readLedger (spec : SearchSpecV2) (runId : Json) (eventsJson : PyStr) : Except PyExc (List Json) := do
  check ((get spec.asDict "spec_status").isStr "FROZEN" = true) (eventError "accounting requires frozen SearchSpec")
  validateContract textSchema runId
  assertContentSafe runId
  match ← loads eventsJson with
  | .arr events =>
    let text ← QA0.canonicalJson (.arr events)
    check (text = eventsJson) (eventError "noncanonical accounting events")
    events.foldlM (fun prior event => do validateEvent spec prior event; return prior ++ [event]) []
  | _ => throw (eventError "noncanonical accounting events")

/-- `ResourceLedger`: a history that was accepted, and its events. -/
structure ResourceLedger where
  spec : SearchSpecV2
  runId : Json
  eventsJson : PyStr
  events : List Json
  accepted : readLedger spec runId eventsJson = .ok events

/-- `ResourceLedger(spec, run_id, events_json)`. -/
def ResourceLedger.build (spec : SearchSpecV2) (runId : Json) (eventsJson : PyStr) : Except PyExc ResourceLedger :=
  match h : readLedger spec runId eventsJson with
  | .ok events => .ok ⟨spec, runId, eventsJson, events, h⟩
  | .error e => .error e

/-- `ResourceLedger.append`. -/
def ResourceLedger.append (ledger : ResourceLedger) (event : Json) : Except PyExc ResourceLedger := do
  let text ← QA0.canonicalJson (.arr (ledger.events ++ [event]))
  ResourceLedger.build ledger.spec ledger.runId text

/-- The ledgers that appending leads to from the empty one. -/
inductive Reachable (spec : SearchSpecV2) : ResourceLedger → Prop where
  | empty {runId : Json} {ledger : ResourceLedger} : ResourceLedger.build spec runId "[]" = .ok ledger →
      Reachable spec ledger
  | append {ledger next : ResourceLedger} {event : Json} : Reachable spec ledger → ledger.append event = .ok next →
      Reachable spec next

end Checks

end EvaluationLab.SearchCup
