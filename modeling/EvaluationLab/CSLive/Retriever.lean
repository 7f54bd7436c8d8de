import EvaluationLab.CSLive.EpochStore

/-! `ControlledSourceRetriever`: an index over one epoch that two entrants search in turn. -/
namespace EvaluationLab.CSLive
open Python Effect

structure SearchRequest where
  entrantId : Json
  callNumber : Json
  query : Json

structure SearchResult where
  title : PyStr
  body : PyStr
  sourceId : PyStr
  itemId : PyStr
  url : PyStr
  contentHash : PyStr
  score : PyFloat
  rank : ℕ

/-- `asdict(result)`. -/
def SearchResult.toJson (r : SearchResult) : Json := .obj [
  ("title", .str r.title),
  ("body", .str r.body),
  ("source_id", .str r.sourceId),
  ("item_id", .str r.itemId),
  ("url", .str r.url),
  ("content_hash", .str r.contentHash),
  ("score", .float r.score),
  ("rank", .int r.rank)]

structure SearchResponse where
  state : PyStr
  errorCode : Option PyStr
  results : List SearchResult
  provenanceJson : PyStr

/-- A row of the table `docs`. -/
structure DocsRow where
  title : PyStr
  body : PyStr
  sourceId : PyStr
  itemId : PyStr
  link : PyStr
  contentHash : PyStr

def DocsRow.texts (row : DocsRow) : List PyStr :=
  [row.title, row.body, row.sourceId, row.itemId, row.link, row.contentHash]

/-- The errors of a query that are caught. -/
inductive QueryError where
  | operational
  | database

/-- FTS5: what `QUERY_SQL` selects from a table for a query and a limit. Texts are read from
UTF-8, scores are numbers, and a list of rows has a length. -/
structure Fts5 where
  select : List DocsRow → PyStr → ℕ → Except QueryError (List (DocsRow × ℚ))
  rows_encodable : ∀ docs query limit found, select docs query limit = .ok found →
    ∀ row ∈ found, ∀ t ∈ row.1.texts, encodable t = true
  rows_countable : ∀ docs query limit found, select docs query limit = .ok found → found.length < 2 ^ 63

structure RetrieverConfig where
  maxCalls : ℕ
  maxResults : ℕ
  runtimeFingerprint : PyStr

/-- `TOKENIZER`. -/
def tokenizer : PyStr := "unicode61 remove_diacritics 0"

/-- `self.config`. -/
def RetrieverConfig.toJson (c : RetrieverConfig) : Json := .obj [
  ("candidate_id", .str "t6-controlled-source-fts5-v1"),
  ("max_calls", .int c.maxCalls),
  ("max_results", .int c.maxResults),
  ("tokenizer", .str tokenizer),
  ("title_weight", .float (.finite 1)),
  ("body_weight", .float (.finite 1)),
  ("tie_break", .arr [.str "source_id", .str "item_id"]),
  ("query_rewrite", .bool false),
  ("runtime_fingerprint", .str c.runtimeFingerprint)]

structure Retriever where
  epoch : Epoch
  config : RetrieverConfig
  configFingerprint : PyStr
  epochFingerprint : PyStr
  counts : List (PyStr × ℕ)
  provenance : List Event
  docs : List DocsRow

/-- `0 < n <= cap` for an `int`. -/
def boundedCount (value : Json) (cap : ℕ) : Option ℕ :=
  match value with
  | .int n => if 0 < n ∧ n ≤ cap then some n.toNat else none
  | _ => none

/-- `sorted(epoch.records, key=lambda r: (r.source_id, r.item_id))`. -/
def sortedRecords (epoch : Epoch) : List SourceRecord :=
  epoch.records.insertionSort fun r s =>
    strLt r.sourceId s.sourceId = true ∨ r.sourceId = s.sourceId ∧ strLe r.itemId s.itemId = true

section Search

variable [PyRuntime]

/-- The row that is inserted for a record: a text that cannot be encoded cannot be bound. -/
def docsRow (r : SourceRecord) : Except PyExc DocsRow := do
  let contentHash ← r.contentHash
  let row : DocsRow := ⟨r.title, r.body, r.sourceId, r.itemId, r.link, contentHash⟩
  check (row.texts.all encodable = true) unicodeEncodeError
  return row

/-- `ControlledSourceRetriever(epoch, ...)` where `runtime_identity()` answers `identity`. -/
def openRetriever (identity : Except PyExc Json) (epoch : Epoch) (expectedRuntime : Json) (entrants : List PyStr)
    (maxCalls maxResults : Json) : Except PyExc Retriever := do
  match boundedCount maxCalls 4, boundedCount maxResults 10 with
  | some maxCalls, some maxResults =>
    check (entrants.length = 2 ∧ entrants.Nodup) (sourceError "RETRIEVER_CONFIG_REJECTED")
    let actual ← identity
    let actualText ← canonical actual
    let expectedText ← canonical expectedRuntime
    check (actualText = expectedText) (sourceError "RUNTIME_DRIFT")
    check (epoch.parserVersion = parserVersion) (sourceError "PARSER_VERSION_DRIFT")
    let runtimeFingerprint ← digest actual
    let config : RetrieverConfig := ⟨maxCalls, maxResults, runtimeFingerprint⟩
    let configFingerprint ← digest config.toJson
    let epochFingerprint ← epoch.fingerprint
    let docs ← (sortedRecords epoch).mapM docsRow
    return {
      epoch := epoch
      config := config
      configFingerprint := configFingerprint
      epochFingerprint := epochFingerprint
      counts := entrants.map fun entrant => (entrant, 0)
      provenance := []
      docs := docs }
  | _, _ => throw (sourceError "RETRIEVER_CONFIG_REJECTED")

/-- What the tests before the query make of a request. -/
inductive Verdict where
  | rejected (code : PyStr)
  | admitted (entrant query : PyStr)

/-- The tests of the entrant's turn and of the query. -/
def Retriever.judgeTurn (r : Retriever) (request : SearchRequest) : Except PyExc Verdict :=
  match request.entrantId with
  | .str entrant =>
    match r.counts.lookup entrant with
    | none => .ok (.rejected "UNKNOWN_ENTRANT")
    | some count =>
      match request.callNumber with
      | .int number =>
        if number ≠ count + 1 then .ok (.rejected "CALL_SEQUENCE_REJECTED")
        else if r.config.maxCalls ≤ count then .ok (.rejected "CALL_BUDGET_EXHAUSTED")
        else
          match request.query with
          | .str query =>
            if query = [] then .ok (.rejected "QUERY_CONTRACT_REJECTED")
            else do
              let bytes ← QA0.encode query
              if 4096 < bytes.length then return .rejected "QUERY_CONTRACT_REJECTED"
              return .admitted entrant query
          | _ => .ok (.rejected "QUERY_CONTRACT_REJECTED")
      | _ => .ok (.rejected "CALL_SEQUENCE_REJECTED")
  | _ => .ok (.rejected "UNKNOWN_ENTRANT")

/-- The tests in their order. -/
def Retriever.judge (r : Retriever) (stamp : PyStr) (request : SearchRequest) : Except PyExc Verdict := do
  let configFingerprint ← digest r.config.toJson
  if configFingerprint ≠ r.configFingerprint then return .rejected "RETRIEVER_BINDING_DRIFT"
  let epochFingerprint ← r.epoch.fingerprint
  if epochFingerprint ≠ r.epochFingerprint then return .rejected "RETRIEVER_BINDING_DRIFT"
  let asked ← awareTime (.str stamp)
  let fetched ← awareTime (.str r.epoch.fetchedAt)
  if asked < fetched then return .rejected "QUERY_BEFORE_EPOCH"
  r.judgeTurn request

/-- `self._counts[entrant] += 1`. -/
def Retriever.countCall (r : Retriever) (entrant : PyStr) : Retriever :=
  { r with counts := r.counts.map fun (name, count) => (name, if name = entrant then count + 1 else count) }

/-- The rows that a query finds, ranked as they come. -/
def Retriever.runQuery (r : Retriever) (fts : Fts5) (query : PyStr) : Option PyStr × List SearchResult :=
  match fts.select r.docs query r.config.maxResults with
  | .ok rows => (none, rows.mapIdx fun i row =>
      ⟨row.1.title, row.1.body, row.1.sourceId, row.1.itemId, row.1.link, row.1.contentHash, .finite row.2, i + 1⟩)
  | .error .operational => (some "FTS_QUERY_FAILED", [])
  | .error .database => (some "INDEX_QUERY_FAILED", [])

/-- What a call comes to before it is recorded. -/
structure Finding where
  error : Option PyStr
  attempted : Bool
  results : List SearchResult

/-- `"SUCCESS" if error is None else "FAILED" if attempted else "REJECTED"`. -/
def Finding.state (f : Finding) : PyStr :=
  if f.error = none then "SUCCESS" else if f.attempted then "FAILED" else "REJECTED"

/-- `value if isinstance(value, str) else None`. -/
def onlyStr : Json → Json
  | .str s => .str s
  | _ => .null

/-- `value if type(value) is int else None`. -/
def onlyInt : Json → Json
  | .int n => .int n
  | _ => .null

/-- What the event of a call holds besides its link. -/
def Retriever.searchData (r : Retriever) (stamp : PyStr) (request : SearchRequest) (f : Finding)
    (epochFingerprint configFingerprint : PyStr) (fingerprints : List PyStr) : Event := [
  ("entrant_id", onlyStr request.entrantId),
  ("call_number", onlyInt request.callNumber),
  ("query", onlyStr request.query),
  ("state", .str f.state),
  ("error_code", optionJson f.error),
  ("match_attempts", .int (if f.attempted then 1 else 0)),
  ("time", .str stamp),
  ("epoch_id", .str r.epoch.epochId),
  ("epoch_fingerprint", .str epochFingerprint),
  ("config_fingerprint", .str configFingerprint),
  ("result_count", .int (pyLen f.results)),
  ("result_fingerprints", .arr (fingerprints.map Json.str)),
  ("automatic_retries", .int 0),
  ("follow_links", .int 0),
  ("network_calls", .int 0)]

/-- The event of a call. -/
def Retriever.searchEvent (r : Retriever) (stamp : PyStr) (request : SearchRequest) (f : Finding) :
    Except PyExc Event := do
  let epochFingerprint ← r.epoch.fingerprint
  let configFingerprint ← digest r.config.toJson
  let fingerprints ← f.results.mapM fun result => digest result.toJson
  sealEvent (link r.provenance ++ r.searchData stamp request f epochFingerprint configFingerprint fingerprints)

/-- The event of a call is appended before the response quotes it. -/
def Retriever.record (r : Retriever) (stamp : PyStr) (request : SearchRequest) (f : Finding) :
    Except PyExc SearchResponse × Retriever :=
  match r.searchEvent stamp request f with
  | .error e => (.error e, r)
  | .ok event =>
    ((canonical (.obj event)).map fun provenanceJson => ⟨f.state, f.error, f.results, provenanceJson⟩,
      { r with provenance := r.provenance ++ [event] })

def Retriever.search (r : Retriever) (fts : Fts5) (clock : Except PyExc Json) (request : SearchRequest) :
    Except PyExc SearchResponse × Retriever :=
  match clock >>= awareTime with
  | .error e => (.error e, r)
  | .ok now =>
    match r.judge (isoformat now) request with
    | .error e => (.error e, r)
    | .ok (.rejected code) => r.record (isoformat now) request ⟨some code, false, []⟩
    | .ok (.admitted entrant query) =>
      let counted := r.countCall entrant
      let answer := counted.runQuery fts query
      counted.record (isoformat now) request ⟨answer.1, true, answer.2⟩

end Search

end EvaluationLab.CSLive
