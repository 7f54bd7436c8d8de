import EvaluationLab.CSLive.Digest
import EvaluationLab.Python.AsciiRuntime
import EvaluationLab.Python.Substitution

/-! The policy, the records and the epochs of a controlled source. -/
namespace EvaluationLab.CSLive
open Python Effect

/-- `datetime.min` and `datetime.max` in UTC, in microseconds. -/
def minTime : ℤ := -62135596800000000
def maxTime : ℤ := 253402300799999999

/-- `time.isoformat()` of a time in UTC. -/
def isoformat (time : ℤ) : PyStr := (utcIsoformat time).dropLast ++ py "+00:00"

theorem encodable_isoformat (time : ℤ) : encodable (isoformat time) = true := by
  have hascii : ∀ c ∈ utcIsoformat time, c < 128 := by
    apply utcIsoformat_forall
    · intro c hc
      simp only [isAsciiDigit, Bool.and_eq_true, decide_eq_true_eq] at hc
      omega
    · decide +kernel
  rw [isoformat, encodable_append, Bool.and_eq_true]
  constructor
  · exact encodable_of_ascii fun c hc => hascii c (List.mem_of_mem_dropLast hc)
  · decide +kernel

/-- `aware_time`. Only a text has `replace`; a time whose UTC lies outside the calendar overflows. -/
def awareTime [PyRuntime] : Json → Except PyExc ℤ
  | .str text =>
    match PyRuntime.fromisoformat (replace text "Z" "+00:00") with
    | .aware time =>
      if minTime ≤ time ∧ time ≤ maxTime then .ok time else .error (sourceError "INVALID_OBSERVATION_TIME")
    | _ => .error (sourceError "INVALID_OBSERVATION_TIME")
  | _ => .error (sourceError "INVALID_OBSERVATION_TIME")

/-- A policy that was admitted: some of what `__post_init__` checks. -/
structure SourcePolicy where
  sourceId : PyStr
  sourceUrl : PyStr
  allowedItemHost : PyStr
  maxInputBytes : ℕ
  maxItems : ℕ
  maxBodyBytes : ℕ
  minIntervalSeconds : ℤ
  mode : PyStr
  mode_synthetic : mode = py "SYNTHETIC_ONLY"
  sourceId_given : sourceId ≠ []
  maxInputBytes_bound : 0 < maxInputBytes ∧ maxInputBytes ≤ 2097152
  maxItems_bound : 0 < maxItems ∧ maxItems ≤ 100
  maxBodyBytes_bound : 0 < maxBodyBytes ∧ maxBodyBytes ≤ 32768
  interval_bound : 86400 ≤ minIntervalSeconds

/-- `asdict(policy)`. -/
def SourcePolicy.toJson (p : SourcePolicy) : Json := .obj [
  ("source_id", .str p.sourceId),
  ("source_url", .str p.sourceUrl),
  ("allowed_item_host", .str p.allowedItemHost),
  ("max_input_bytes", .int p.maxInputBytes),
  ("max_items", .int p.maxItems),
  ("max_body_bytes", .int p.maxBodyBytes),
  ("min_interval_seconds", .int p.minIntervalSeconds),
  ("mode", .str p.mode)]

def SourcePolicy.fingerprint [PyRuntime] (p : SourcePolicy) : Except PyExc PyStr := digest p.toJson

structure SourceRecord where
  sourceId : PyStr
  itemId : PyStr
  title : PyStr
  body : PyStr
  link : PyStr
  publishedRaw : PyStr
  publishedState : PyStr
  publishedUtc : Option PyStr
  expiresRaw : PyStr
  expiresState : PyStr
  expiresUtc : Option PyStr
  fieldEvidenceJson : PyStr

/-- A text or `None`. -/
def optionJson (text : Option PyStr) : Json := (text.map Json.str).getD .null

/-- `asdict(record)`. -/
def SourceRecord.toJson (r : SourceRecord) : Json := .obj [
  ("source_id", .str r.sourceId),
  ("item_id", .str r.itemId),
  ("title", .str r.title),
  ("body", .str r.body),
  ("link", .str r.link),
  ("published_raw", .str r.publishedRaw),
  ("published_state", .str r.publishedState),
  ("published_utc", optionJson r.publishedUtc),
  ("expires_raw", .str r.expiresRaw),
  ("expires_state", .str r.expiresState),
  ("expires_utc", optionJson r.expiresUtc),
  ("field_evidence_json", .str r.fieldEvidenceJson)]

def SourceRecord.contentHash [PyRuntime] (r : SourceRecord) : Except PyExc PyStr := digest r.toJson

structure Epoch where
  epochId : PyStr
  sourceId : PyStr
  fetchedAt : PyStr
  policyFingerprint : PyStr
  payloadHash : PyStr
  records : List SourceRecord
  duplicateCount : ℕ
  previousFingerprint : Option PyStr
  parserVersion : PyStr

/-- `PARSER_VERSION`. -/
def parserVersion : PyStr := "t6-cslive-rss/v1"

/-- `asdict(epoch)`. -/
def Epoch.toJson (e : Epoch) : Json := .obj [
  ("epoch_id", .str e.epochId),
  ("source_id", .str e.sourceId),
  ("fetched_at", .str e.fetchedAt),
  ("policy_fingerprint", .str e.policyFingerprint),
  ("payload_hash", .str e.payloadHash),
  ("records", .arr (e.records.map SourceRecord.toJson)),
  ("duplicate_count", .int e.duplicateCount),
  ("previous_fingerprint", optionJson e.previousFingerprint),
  ("parser_version", .str e.parserVersion)]

def Epoch.fingerprint [PyRuntime] (e : Epoch) : Except PyExc PyStr := digest e.toJson

theorem digestible_optionJson (text : Option PyStr) :
    Digestible (optionJson text) ↔ ∀ t ∈ text, encodable t = true := by
  cases text <;> simp [optionJson]

/-- The texts of a policy and its interval are all that may keep it from being digested. -/
theorem digestible_policy (p : SourcePolicy) : Digestible p.toJson ↔
    encodable p.sourceId = true ∧ encodable p.sourceUrl = true ∧ encodable p.allowedItemHost = true ∧
      intPrintable p.minIntervalSeconds = true := by
  have hkeys : (["source_id", "source_url", "allowed_item_host", "max_input_bytes", "max_items", "max_body_bytes",
      "min_interval_seconds", "mode", "SYNTHETIC_ONLY"] : List PyStr).all encodable = true := by decide +kernel
  have hcounts : intPrintable p.maxInputBytes = true ∧ intPrintable p.maxItems = true ∧
      intPrintable p.maxBodyBytes = true := by
    have hinput := p.maxInputBytes_bound
    have hitems := p.maxItems_bound
    have hbody := p.maxBodyBytes_bound
    refine ⟨intPrintable_of_small ?_, intPrintable_of_small ?_, intPrintable_of_small ?_⟩ <;> omega
  simp only [List.all_cons, List.all_nil, Bool.and_eq_true] at hkeys
  simp only [SourcePolicy.toJson, digestible_obj, List.forall_mem_cons, digestible_str, digestible_int, hkeys, hcounts,
    p.mode_synthetic, true_and, and_true, List.not_mem_nil, false_imp_iff, implies_true]

/-- What a record holds besides the names of its fields. -/
def SourceRecord.texts (r : SourceRecord) : List PyStr :=
  [r.sourceId, r.itemId, r.title, r.body, r.link, r.publishedRaw, r.publishedState] ++ r.publishedUtc.toList ++
    [r.expiresRaw, r.expiresState] ++ r.expiresUtc.toList ++ [r.fieldEvidenceJson]

theorem digestible_record (r : SourceRecord) : Digestible r.toJson ↔ ∀ t ∈ r.texts, encodable t = true := by
  have hkeys : (["source_id", "item_id", "title", "body", "link", "published_raw", "published_state", "published_utc",
      "expires_raw", "expires_state", "expires_utc", "field_evidence_json"] : List PyStr).all encodable = true := by
    decide +kernel
  simp only [List.all_cons, List.all_nil, Bool.and_eq_true] at hkeys
  simp only [SourceRecord.toJson, SourceRecord.texts, digestible_obj, List.forall_mem_cons, List.forall_mem_append,
    digestible_str, digestible_optionJson, hkeys, Option.mem_toList, Option.mem_def, true_and, and_true, List.not_mem_nil,
    false_imp_iff, implies_true, and_assoc]

theorem digestible_epoch (e : Epoch) : Digestible e.toJson ↔
    (∀ t ∈ [e.epochId, e.sourceId, e.fetchedAt, e.policyFingerprint, e.payloadHash], encodable t = true) ∧
      (∀ r ∈ e.records, Digestible r.toJson) ∧ intPrintable e.duplicateCount = true ∧
      (∀ t ∈ e.previousFingerprint, encodable t = true) ∧ encodable e.parserVersion = true := by
  have hkeys : (["epoch_id", "source_id", "fetched_at", "policy_fingerprint", "payload_hash", "records",
      "duplicate_count", "previous_fingerprint", "parser_version"] : List PyStr).all encodable = true := by
    decide +kernel
  simp only [List.all_cons, List.all_nil, Bool.and_eq_true] at hkeys
  simp only [Epoch.toJson, digestible_obj, List.forall_mem_cons, digestible_str, digestible_int, digestible_arr,
    digestible_optionJson, List.forall_mem_map, hkeys, true_and, and_true, and_assoc, List.not_mem_nil, false_imp_iff,
    implies_true]

end EvaluationLab.CSLive
