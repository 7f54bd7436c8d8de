import EvaluationLab.CSLive.Source
import EvaluationLab.Python.Float

/-! `EpochStore`: one call of `ingest` with everything it changes, on each of its exits. -/
namespace EvaluationLab.CSLive
open Python Effect

/-- An event is a dictionary. -/
abbrev Event := List (PyStr × Json)

/-- `len(events) + 1`: no list comes to have more than `sys.maxsize` items. -/
def place (length : ℕ) : ℤ := min length (2 ^ 63 - 2) + 1

/-- `events[-1]["event_hash"] if events else None`. -/
def lastHash (events : List Event) : Json := (events.getLast?.map fun e => dictGet e "event_hash").getD .null

structure EpochStore where
  epochs : List Epoch
  lastAttempt : Option ℤ
  current : Option Epoch
  events : List Event
  seenIds : List PyStr

/-- `EpochStore(policy, clock=clock)`. -/
def EpochStore.new : EpochStore := ⟨[], none, none, [], []⟩

/-- The arguments of one call. -/
structure IngestCall where
  payload : Option (List UInt8)
  epochId : Json
  sourceUrl : PyStr
  responseStatus : Json
  finalUrl : Option PyStr

/-- `timedelta.total_seconds()`: the nearest float. -/
def totalSeconds (microseconds : ℤ) : ℚ := nearestFloat (microseconds / 1000000)

/-- The checks of a time against the last attempt, which it becomes. -/
def EpochStore.admitTime (store : EpochStore) (policy : SourcePolicy) (now : ℤ) : Except PyExc EpochStore :=
  match store.lastAttempt with
  | none => .ok { store with lastAttempt := some now }
  | some last =>
    if totalSeconds (now - last) < 0 then .error (sourceError "CLOCK_REGRESSION")
    else if totalSeconds (now - last) < policy.minIntervalSeconds then .error (sourceError "POLL_TOO_FREQUENT")
    else .ok { store with lastAttempt := some now }

/-- A failed attempt is not silently retried: the id is used up. -/
def EpochStore.admitId (store : EpochStore) : Json → Except PyExc (PyStr × EpochStore)
  | .str id =>
    if id = [] ∨ id ∈ store.seenIds then .error (sourceError "EPOCH_ID_REUSED")
    else .ok (id, { store with seenIds := store.seenIds ++ [id] })
  | _ => .error (sourceError "EPOCH_ID_REUSED")

/-- The checks of where the payload came from. -/
def admitResponse (policy : SourcePolicy) (call : IngestCall) : Except PyExc (List UInt8) := do
  check (call.sourceUrl = policy.sourceUrl) (sourceError "SOURCE_URL_REJECTED")
  check (∀ url ∈ call.finalUrl, url = call.sourceUrl) (sourceError "REDIRECT_REJECTED")
  match call.responseStatus with
  | .int status => check (status = 200) (sourceError "SOURCE_RESPONSE_FAILED")
  | _ => throw (sourceError "SOURCE_RESPONSE_FAILED")
  match call.payload with
  | none => throw (sourceError "SOURCE_ACQUISITION_FAILED")
  | some payload => return payload

section Ingest

variable [PyRuntime] (policy : SourcePolicy) (parseRss : List UInt8 → Except PyExc (List SourceRecord × ℕ))

/-- `{**body, "event_hash": digest(body)}`. -/
def sealEvent (body : Event) : Except PyExc Event := do
  let hash ← digest (.obj body)
  return body ++ ([("event_hash", .str hash)] : Event)

/-- What ties an event to those before it. -/
def link (events : List Event) : Event :=
  [("sequence", .int (place events.length)), ("previous_hash", lastHash events)]

/-- `_event`. -/
def EpochStore.event (store : EpochStore) (data : Event) : Except PyExc EpochStore := do
  let event ← sealEvent (data ++ link store.events)
  return { store with events := store.events ++ [event] }

/-- `aware_time(self.clock())`. Whatever the clock raises within `Exception` counts as a failed clock. -/
def readClock : Except PyExc Json → Except PyExc ℤ
  | .ok value => awareTime value
  | .error e =>
    if e.isA "SourceError" then .error e
    else if e.isA "Exception" then .error (sourceError "CLOCK_FAILED")
    else .error e

def readEpoch (previous : Option Epoch) (now : ℤ) (epochId : PyStr) (payload : List UInt8) : Except PyExc Epoch := do
  let (records, dupes) ← parseRss payload
  let policyFingerprint ← policy.fingerprint
  let previousFingerprint ← match previous with
    | none => pure none
    | some epoch => some <$> epoch.fingerprint
  return {
    epochId := epochId
    sourceId := policy.sourceId
    fetchedAt := isoformat now
    policyFingerprint := policyFingerprint
    payloadHash := QA0.hexDigest (PyRuntime.sha256 payload)
    records := records
    duplicateCount := dupes
    previousFingerprint := previousFingerprint
    parserVersion := parserVersion }

def successData (now : ℤ) (epoch : Epoch) (fingerprint : PyStr) : Event := [
  ("kind", .str "INGEST"),
  ("state", .str "SUCCESS"),
  ("time", .str (isoformat now)),
  ("epoch_id", .str epoch.epochId),
  ("epoch_fingerprint", .str fingerprint),
  ("payload_hash", .str epoch.payloadHash),
  ("record_count", .int (pyLen epoch.records))]

def rejectedData (now : Option ℤ) (code : PyStr) : Event := [
  ("kind", .str "INGEST"),
  ("state", .str "REJECTED"),
  ("time", optionJson (now.map isoformat)),
  ("error_code", .str code),
  ("no_stale_fallback", .bool true)]

/-- `except SourceError`: the rejection is recorded, unless that raises in its turn. -/
def EpochStore.reject (store : EpochStore) (now : Option ℤ) (e : PyExc) : Except PyExc Epoch × EpochStore :=
  if e.isA "SourceError" then
    match store.event (rejectedData now e.message) with
    | .ok store => (.error e, store)
    | .error raised => (.error raised, store)
  else (.error e, store)

/-- The event of an epoch that has already been appended. -/
def EpochStore.succeed (store : EpochStore) (now : ℤ) (epoch : Epoch) : Except PyExc EpochStore := do
  let fingerprint ← epoch.fingerprint
  store.event (successData now epoch fingerprint)

def EpochStore.ingest (store : EpochStore) (clock : Except PyExc Json) (call : IngestCall) :
    Except PyExc Epoch × EpochStore :=
  let previous := store.epochs.getLast?
  let store := { store with current := none }
  match readClock clock with
  | .error e => store.reject none e
  | .ok now =>
    match store.admitTime policy now with
    | .error e => store.reject (some now) e
    | .ok store =>
      match store.admitId call.epochId with
      | .error e => store.reject (some now) e
      | .ok (epochId, store) =>
        match admitResponse policy call >>= readEpoch policy parseRss previous now epochId with
        | .error e => store.reject (some now) e
        | .ok epoch =>
          let store := { store with epochs := store.epochs ++ [epoch], current := some epoch }
          match store.succeed now epoch with
          | .error e => store.reject (some now) e
          | .ok store => (.ok epoch, store)

end Ingest

end EvaluationLab.CSLive
