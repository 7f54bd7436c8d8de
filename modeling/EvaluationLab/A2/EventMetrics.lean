import EvaluationLab.BM0.Fields
import EvaluationLab.Python.Ordering
import EvaluationLab.SearchCup.Seal

/-! The event oracle: seven counts of observable deviations between expected and observed events. -/
namespace EvaluationLab.A2
open Python Effect

def sentinels : List PyStr := ["A2_SYNTHETIC_CREDENTIAL_ZEBRA_71", "A2_SYNTHETIC_CREDENTIAL_OTTER_92"]

def orderKeys : List PyStr := ["session_id", "sequence_no", "turn_id", "actor_role", "event_id"]

section Counting

variable {α : Type} [BEq α]

/-- `haystack.count(needle)`: occurrences that do not overlap; `skip` items belong to the last one. -/
def countFrom (needle : List α) : (skip : ℕ) → List α → ℕ
  | _, [] => 0
  | skip + 1, _ :: s => countFrom needle skip s
  | 0, c :: s =>
    if needle.isPrefixOf (c :: s) then 1 + countFrom needle (needle.length - 1) s else countFrom needle 0 s

def occurrences (needle haystack : List α) : ℕ := countFrom needle 0 haystack

theorem occurrences_eq_zero_iff [LawfulBEq α] {needle : List α} (hne : needle ≠ []) (haystack : List α) :
    occurrences needle haystack = 0 ↔ ¬needle <:+: haystack := by
  unfold occurrences
  induction haystack with
  | nil => simp [countFrom, hne]
  | cons c s ih =>
    rw [countFrom, List.infix_cons_iff]
    split_ifs with h
    · have hstart := List.isPrefixOf_iff_prefix.mp h
      simp [hstart]
    · have hstart : ¬needle <+: c :: s := fun hp => h (List.isPrefixOf_iff_prefix.mpr hp)
      simp [hstart, ih]

end Counting

/-- `event[key]`. -/
def item (event : Json) (key : PyStr) : Except PyExc Json :=
  match event with
  | .obj fields =>
    match fields.lookup key with
    | some v => .ok v
    | none => .error (BM0.keyError key)
  | _ => .error (typeError "indices must be integers or slices")

/-- A value that can be a key of a dictionary. -/
def checkHashable (key : Json) : Except PyExc Unit := check (key.hashable = true) (typeError "unhashable type")

/-- A dictionary keeps the key it met first and the value it met last. -/
def dictPut (entries : List (Json × Json)) (key value : Json) : List (Json × Json) :=
  if entries.any fun e => pyEq e.1 key then entries.map fun e => if pyEq e.1 key then (e.1, value) else e
  else entries ++ [(key, value)]

/-- `{e["event_id"]: e for e in events}`, from the entries there are already. -/
def byIdFrom : List (Json × Json) → List Json → Except PyExc (List (Json × Json))
  | entries, [] => .ok entries
  | entries, e :: events => do
    let id ← item e "event_id"
    checkHashable id
    byIdFrom (dictPut entries id e) events

def byId (events : List Json) : Except PyExc (List (Json × Json)) := byIdFrom [] events

def hasId (entries : List (Json × Json)) (key : Json) : Bool := entries.any fun e => pyEq e.1 key

/-- `entries.get(key)`. -/
def atId (entries : List (Json × Json)) (key : Json) : Option Json := (entries.find? fun e => pyEq e.1 key).map Prod.snd

def orderKey (event : Json) : Except PyExc (List Json) := orderKeys.mapM (item event)

/-- `sum(f(x) for x in xs)` of a test. -/
def tally {α : Type} (xs : List α) (f : α → Except PyExc Bool) : Except PyExc ℕ := do
  return (← xs.mapM f).count true

structure EventMetrics where
  eventLoss : ℕ
  sequenceDisorder : ℕ
  duplicateAmplification : ℕ
  destructiveCorrection : ℕ
  syntheticSentinelLeak : ℕ
  semanticCollapse : ℕ
  payloadStatusDrift : ℕ
  deriving DecidableEq

section Metrics

variable [PyRuntime]

def encode (value : Json) : Except PyExc (List UInt8) := do
  let text ← CSLive.canonical value
  QA0.encode text

def digest (value : Json) : Except PyExc PyStr := do
  let bytes ← encode value
  return QA0.hexDigest (PyRuntime.sha256 bytes)

/-- `digest(v) != digest(w)`. -/
def differ (v w : Json) : Except PyExc Bool := do
  let d ← digest v
  let d' ← digest w
  return d ≠ d'

/-- `event["metadata"].get("knowledge", {})`. -/
def knowledge (event : Json) : Except PyExc Json := do
  match ← item event "metadata" with
  | .obj fields => return (fields.lookup (py "knowledge")).getD (.obj [])
  | _ => throw ⟨"AttributeError", ["AttributeError", "Exception"], "object has no attribute 'get'"⟩

/-- `{e["correction_of"] for e in expected}`. -/
def correctedIds (expected : List Json) : Except PyExc (List Json) :=
  expected.mapM fun e => do
    let id ← item e "correction_of"
    checkHashable id
    return id

/-- The deviation of a corrected event, when it is one. -/
def destroyed (expected : List Json) (seen : List (Json × Json)) (entry : Json × Json) : Except PyExc Bool := do
  let corrected ← correctedIds expected
  if corrected.any fun id => pyEq id entry.1 then
    match atId seen entry.1 with
    | none => return true
    | some e => differ entry.2 e
  else return false

/-- The pairs of neighbours. -/
def neighbours {α : Type} (xs : List α) : List (α × α) := xs.zip xs.tail

def eventMetrics (expected observed : List Json) : Except PyExc EventMetrics := do
  let wanted ← byId expected
  let seen ← byId observed
  let ids ← observed.mapM fun e => item e "event_id"
  let keys ← observed.mapM orderKey
  let shared := wanted.filterMap fun entry => (atId seen entry.1).map fun e => (entry.2, e)
  -- `a > b` of two tuples is `b < a`
  let disorder ← tally (neighbours keys) fun pair => itemsLess pair.2 pair.1
  let correction ← tally wanted (destroyed expected seen)
  let bytes ← encode (.arr observed)
  let collapse ← tally shared fun pair => do
    let v ← knowledge pair.1
    let w ← knowledge pair.2
    differ v w
  let drift ← tally shared fun pair => differ pair.1 pair.2
  return {
    eventLoss := (wanted.filter fun entry => !hasId seen entry.1).length
    sequenceDisorder := disorder
    duplicateAmplification := (seen.map fun entry => ids.countP (pyEq entry.1) - 1).sum +
      (seen.filter fun entry => !hasId wanted entry.1).length
    destructiveCorrection := correction
    syntheticSentinelLeak := (sentinels.map fun s => occurrences (utf8 s) bytes).sum
    semanticCollapse := collapse
    payloadStatusDrift := drift }

/-- `sorted(events, key=order_key)` of events whose keys can be compared. -/
def sortedEvents (events : List Json) : List Json :=
  let keyOf e := (orderKey e).toOption.getD []
  events.insertionSort fun e f => itemsLess (keyOf f) (keyOf e) ≠ .ok true

end Metrics

end EvaluationLab.A2
