import EvaluationLab.Effect.Program
import EvaluationLab.SearchCup.Competition
import EvaluationLab.SearchCup.SearchContracts

/-! The budgeted search proxy of an entrant, and a match run with it. -/
namespace EvaluationLab.SearchCup
open Python Effect

structure SearchTrace where
  entrantId : PyStr
  callNumber : ℤ
  query : PyStr
  status : PyStr
  resultCount : ℕ
  errorType : Option PyStr := none
  errorCode : Option PyStr := none
  errorMessage : Option PyStr := none
  backendId : Option PyStr := none
  backendRequestId : Option PyStr := none
  backendResponseId : Option PyStr := none
  httpStatus : Option ℤ := none
  retryable : Option Bool := none
  backendAttempts : ℕ := 1
  automaticRetries : ℕ := 0
  startedAtUtc : Option PyStr := none
  durationMs : Option PyFloat := none

structure SearchBackendError where
  message : PyStr
  backendId : PyStr
  errorCode : PyStr
  requestId : Option PyStr
  responseId : Option PyStr
  httpStatus : Option ℤ
  retryable : Bool

/-- The exception a backend error is. -/
def SearchBackendError.raised (e : SearchBackendError) : PyExc :=
  ⟨"SearchBackendError", ["SearchBackendError", "RuntimeError", "Exception"], e.message⟩

/-- `SearchBudgetExceeded`. -/
def searchBudgetExceeded (message : PyStr) : PyExc :=
  ⟨"SearchBudgetExceeded", ["SearchBudgetExceeded", "RuntimeError", "Exception"], message⟩

/-- The items a backend hands over: each a `SearchResult`, or something else. -/
abbrev ResultItems := List (Option SearchResult)

/-- A `SearchBackendResponse` before its items are looked at. -/
structure BackendResponse where
  results : ResultItems
  backendId : PyStr
  requestId : PyStr
  responseId : Option PyStr

/-- What a call of the backend comes to. An error raised while its items are read is raised by it. -/
inductive BackendReply where
  | response (response : BackendResponse)
  | items (items : ResultItems)
  | failure (e : SearchBackendError)
  | raised (e : PyExc) (isException : e.isA "Exception")

/-- What a call takes from outside: `uuid4().hex`, the time and the duration. -/
structure CallStamp where
  hex : PyStr
  startedAt : PyStr
  durationMs : PyFloat

structure BudgetedSearchProxy where
  entrantId : PyStr
  maxCalls : ℤ
  backendId : PyStr
  traces : List SearchTrace

namespace BudgetedSearchProxy

def new (entrantId : PyStr) (maxCalls : ℤ) (backendId : PyStr) : Except PyExc BudgetedSearchProxy := do
  check (1 ≤ maxCalls) (valueError "max_calls must be positive")
  return ⟨entrantId, maxCalls, backendId, []⟩

variable (proxy : BudgetedSearchProxy)

def callsUsed : ℕ := proxy.traces.length

/-- The trace of a call that a backend error ended. -/
def backendErrorTrace (stamp : CallStamp) (query : PyStr) (e : SearchBackendError) : SearchTrace where
  entrantId := proxy.entrantId
  callNumber := proxy.callsUsed + 1
  query := query
  status := "FAILED"
  resultCount := 0
  errorType := some e.raised.name
  errorCode := some e.errorCode
  errorMessage := some e.message
  backendId := some e.backendId
  backendRequestId := some (match e.requestId with
    | some id => if id = [] then py "sc-" ++ stamp.hex else id
    | none => py "sc-" ++ stamp.hex)
  backendResponseId := e.responseId
  httpStatus := e.httpStatus
  retryable := some e.retryable
  startedAtUtc := some stamp.startedAt
  durationMs := some stamp.durationMs

/-- The trace of a call that any other exception ended. -/
def unexpectedTrace (stamp : CallStamp) (query backendId : PyStr) (e : PyExc) : SearchTrace where
  entrantId := proxy.entrantId
  callNumber := proxy.callsUsed + 1
  query := query
  status := "FAILED"
  resultCount := 0
  errorType := some e.name
  errorCode := some "UNEXPECTED_BACKEND_ERROR"
  errorMessage := some e.message
  backendId := some backendId
  backendRequestId := some (py "sc-" ++ stamp.hex)
  retryable := some false
  startedAtUtc := some stamp.startedAt
  durationMs := some stamp.durationMs

def succeededTrace (stamp : CallStamp) (query : PyStr) (response : BackendResponse) : SearchTrace where
  entrantId := proxy.entrantId
  callNumber := proxy.callsUsed + 1
  query := query
  status := "SUCCEEDED"
  resultCount := response.results.length
  backendId := some response.backendId
  backendRequestId := some response.requestId
  backendResponseId := response.responseId
  httpStatus := some 200
  retryable := some false
  startedAtUtc := some stamp.startedAt
  durationMs := some stamp.durationMs

/-- A response is checked, traced and returned. -/
def accept (stamp : CallStamp) (query : PyStr) (response : BackendResponse) :
    Except PyExc (List SearchResult) × SearchTrace :=
  match response.results.mapM id with
  | some results => (.ok results, proxy.succeededTrace stamp query response)
  | none =>
    let e := typeError "search backend returned a non-SearchResult item"
    (.error e, proxy.unexpectedTrace stamp query response.backendId e)

/-- What comes of a call for which there is a ticket: its outcome, its trace, and the requests the backend was sent. -/
def attempt (stamp : CallStamp) (backend : SearchRequest → BackendReply) (query : PyStr) :
    (Except PyExc (List SearchResult) × SearchTrace) × List SearchRequest :=
  match h : checkRequest proxy.entrantId query (proxy.callsUsed + 1) (py "sc-" ++ stamp.hex) with
  | .error e => ((.error e, proxy.unexpectedTrace stamp query proxy.backendId e), [])
  | .ok () =>
    let request : SearchRequest := ⟨_, _, _, _, h⟩
    match backend request with
    | .response response => (proxy.accept stamp query response, [request])
    | .items items => (proxy.accept stamp query ⟨items, proxy.backendId, request.requestId, none⟩, [request])
    | .failure e => ((.error e.raised, proxy.backendErrorTrace stamp query e), [request])
    | .raised e _ => ((.error e, proxy.unexpectedTrace stamp query proxy.backendId e), [request])

/-- The error of a call for which no ticket is left. -/
def budgetError : PyExc :=
  searchBudgetExceeded (proxy.entrantId ++ py ": search call " ++ natText (proxy.callsUsed + 1) ++
    py " rejected; budget is " ++ intText proxy.maxCalls)

/-- `search`, with the requests the backend was sent. -/
def search (stamp : CallStamp) (backend : SearchRequest → BackendReply) (query : PyStr) :
    Except PyExc (List SearchResult) × BudgetedSearchProxy × List SearchRequest :=
  if proxy.maxCalls ≤ proxy.callsUsed then (.error proxy.budgetError, proxy, [])
  else
    let ((outcome, trace), requests) := proxy.attempt stamp backend query
    (outcome, { proxy with traces := proxy.traces ++ [trace] }, requests)

end BudgetedSearchProxy

/-- A proxy, the requests its backend was sent so far, and the calls made with what each came to. -/
structure SearchHistory where
  proxy : BudgetedSearchProxy
  requests : List SearchRequest
  calls : List (PyStr × Except PyExc (List SearchResult))

namespace SearchHistory

/-- Nothing has been searched for. -/
def start (proxy : BudgetedSearchProxy) : SearchHistory := ⟨proxy, [], []⟩

def search (h : SearchHistory) (stamp : CallStamp) (backend : SearchRequest → BackendReply) (query : PyStr) :
    Except PyExc (List SearchResult) × SearchHistory :=
  let (outcome, proxy, requests) := h.proxy.search stamp backend query
  (outcome, ⟨proxy, h.requests ++ requests, h.calls ++ [(query, outcome)]⟩)

end SearchHistory

/-- The histories of a new proxy: any queries in any order, whatever the backend does. -/
inductive Sought (entrantId : PyStr) (maxCalls : ℤ) : SearchHistory → Prop where
  | start {backendId : PyStr} {proxy : BudgetedSearchProxy} :
      BudgetedSearchProxy.new entrantId maxCalls backendId = .ok proxy → Sought entrantId maxCalls (.start proxy)
  | search {h : SearchHistory} (stamp : CallStamp) (backend : SearchRequest → BackendReply) (query : PyStr) :
      Sought entrantId maxCalls h → Sought entrantId maxCalls (h.search stamp backend query).2

section Match

structure URLReadResult where
  url : PyStr
  status : PyStr
  title : PyStr
  text : PyStr

/-- What an entrant may do with its tools. -/
inductive ToolCall where
  | searchWeb (query : PyStr)
  | readUrl (url : PyStr)
  | searchCalls
  | traces

/-- `EntrantTools`. -/
abbrev EntrantTools : Interface where
  Op := ToolCall
  Answer
    | .searchWeb _ => Except PyExc (List SearchResult)
    | .readUrl _ => Except PyExc URLReadResult
    | .searchCalls => ℕ
    | .traces => List SearchTrace

/-- `FakeSearchBackend.__call__`. -/
def fakeSearchBackend (results : List (PyStr × ResultItems)) (request : SearchRequest) : BackendReply :=
  .items ((results.lookup request.query).getD [])

/-- `FakeURLReader.read`. What an unknown URL reads as is built, and checked, for every one. -/
def fakeUrlReader (pages : List (PyStr × URLReadResult)) (url : PyStr) : Except PyExc URLReadResult := do
  let _ ← requiredText (.str url) "URL read URL"
  return (pages.lookup url).getD ⟨url, "NOT_FOUND", [], []⟩

/-- The tools of one entrant. -/
def entrantTools (stamps : ℕ → CallStamp) (results : List (PyStr × ResultItems)) (pages : List (PyStr × URLReadResult))
    (h : SearchHistory) : (op : EntrantTools.Op) → EntrantTools.Answer op × SearchHistory
  | .searchWeb query => h.search (stamps h.proxy.callsUsed) (fakeSearchBackend results) query
  | .readUrl url => (fakeUrlReader pages url, h)
  | .searchCalls => (h.proxy.callsUsed, h)
  | .traces => (h.proxy.traces, h)

structure CandidateCard where
  canonicalContent : PyStr
  fingerprint : PyStr

/-- `CompetitionSpec`, as far as a match reads it. -/
structure CompetitionSpec where
  competitionId : PyStr
  maxSearchCalls : ℤ
  entrants : List EntrantConfig
  canonicalContent : PyStr
  fingerprint : PyStr

/-- What a provider is given besides the tools. -/
structure ProviderInput where
  candidateContent : List UInt8
  competitionContent : List UInt8
  candidateFingerprint : PyStr
  competitionFingerprint : PyStr
  entrant : EntrantConfig

/-- An adapter: any program over the tools that ends in a submission or an error. -/
abbrev EntrantProvider := ProviderInput → Program EntrantTools (Except PyExc Submission)

/-- `EntrantOutcome` with its evidence. -/
structure EntrantEvidence extends EntrantOutcome where
  traces : List SearchTrace
  errorType : Option PyStr
  errorMessage : Option PyStr

/-- What a match is run with besides the card and the competition. -/
structure MatchSetup where
  providers : PyStr → Option EntrantProvider
  searchFixtures : PyStr → Except PyExc (List (PyStr × ResultItems))
  urlFixtures : PyStr → Except PyExc (List (PyStr × URLReadResult))
  stamps : PyStr → ℕ → CallStamp

variable [PyRuntime] (candidate : CandidateCard) (competition : CompetitionSpec)

/-- What an entrant's submission is checked against before it is frozen. -/
def closeSubmission (entrant : EntrantConfig) (searchCalls : ℕ) (submission : Submission) : Except PyExc FrozenSubmission := do
  check (submission.entrant = entrant) (valueError "provider changed entrant identity or configuration")
  check (submission.candidateFingerprint = candidate.fingerprint)
    (valueError "provider returned a different Candidate Card fingerprint")
  check (submission.competitionFingerprint = competition.fingerprint)
    (valueError "provider returned a different CompetitionSpec fingerprint")
  check (submission.searchCalls = searchCalls) (valueError "provider search-call count does not match tool trace")
  FrozenSubmission.freeze submission

/-- `provider.run(…)`, its arguments included. -/
def runProvider (provider : EntrantProvider) (entrant : EntrantConfig) : Program EntrantTools (Except PyExc Submission) :=
  match QA0.encode candidate.canonicalContent with
  | .error e => .done (.error e)
  | .ok candidateContent =>
    match QA0.encode competition.canonicalContent with
    | .error e => .done (.error e)
    | .ok competitionContent => provider ⟨candidateContent, competitionContent, candidate.fingerprint,
        competition.fingerprint, entrant⟩

/-- One pass of the loop of `run_match`: the outcome of an entrant, with the history of its proxy. -/
def runEntrant (setup : MatchSetup) (entrant : EntrantConfig) : Except PyExc (EntrantEvidence × SearchHistory) := do
  let results ← setup.searchFixtures entrant.entrantId
  let proxy ← BudgetedSearchProxy.new entrant.entrantId competition.maxSearchCalls "fake-search-pro-offline"
  let pages ← setup.urlFixtures entrant.entrantId
  match setup.providers entrant.entrantId with
  | none => return (⟨⟨entrant.entrantId, "FAILED", none⟩, [], some "MissingProvider",
      some "no provider adapter configured"⟩, .start proxy)
  | some provider =>
    let tools := entrantTools (setup.stamps entrant.entrantId) results pages
    let (returned, history) := (runProvider candidate competition provider entrant).run tools (.start proxy)
    match returned >>= closeSubmission candidate competition entrant history.proxy.callsUsed with
    | .ok frozen => return (⟨⟨entrant.entrantId, "FROZEN", some frozen⟩, history.proxy.traces, none, none⟩, history)
    | .error e =>
      if e.isA "Exception" then
        return (⟨⟨entrant.entrantId, "FAILED", none⟩, history.proxy.traces, some e.name, some e.message⟩, history)
      else throw e

def runEntrants (setup : MatchSetup) : Except PyExc (List (EntrantEvidence × SearchHistory)) :=
  competition.entrants.mapM (runEntrant candidate competition setup)

/-- `run_match`. -/
def runMatch (setup : MatchSetup) : Except PyExc MatchRun := do
  let closed ← runEntrants candidate competition setup
  return {
    competitionId := competition.competitionId
    candidateFingerprint := candidate.fingerprint
    competitionFingerprint := competition.fingerprint
    expectedEntrantIds := competition.entrants.map EntrantConfig.entrantId
    outcomes := closed.map fun c => c.1.toEntrantOutcome
    entrantExecutionClosed := true }

end Match

end EvaluationLab.SearchCup
