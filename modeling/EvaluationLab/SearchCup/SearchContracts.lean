import EvaluationLab.Effect.Outcome
import EvaluationLab.Python.Text
import EvaluationLab.Python.Value

/-! What a search request and its results check when they are built. -/
namespace EvaluationLab.SearchCup
open Python Effect

/-- `_required_text`. -/
def requireText (value label : PyStr) : Except PyExc Unit :=
  check (strip value ≠ []) (valueError (label ++ " must be a non-empty string"))

/-- `SearchRequest.__post_init__`. -/
def checkRequest (entrantId query : PyStr) (callNumber : ℤ) (requestId : PyStr) : Except PyExc Unit := do
  requireText entrantId "entrant_id"
  requireText query "query"
  check (0 ≤ callNumber) (valueError "call_number must not be negative")
  if requestId ≠ [] then requireText requestId "request_id"

structure SearchRequest where
  entrantId : PyStr
  query : PyStr
  callNumber : ℤ
  requestId : PyStr
  valid : checkRequest entrantId query callNumber requestId = .ok ()

structure SearchResult where
  title : PyStr
  url : PyStr
  snippet : PyStr
  deriving DecidableEq

/-- The checks on a request pass when it has an entrant and a query, and an id that is empty or says something. -/
theorem checkRequest_iff {entrantId query requestId : PyStr} {callNumber : ℤ} :
    checkRequest entrantId query callNumber requestId = .ok () ↔
      strip entrantId ≠ [] ∧ strip query ≠ [] ∧ 0 ≤ callNumber ∧ (requestId = [] ∨ strip requestId ≠ []) := by
  simp only [checkRequest, requireText, bind_eq_ok_iff, exists_unit_iff, check_eq_ok_iff]
  refine and_congr_right fun _ => and_congr_right fun _ => and_congr_right fun _ => ?_
  split_ifs with hid
  · rw [check_eq_ok_iff]
    exact (or_iff_right hid).symm
  · exact iff_of_true rfl (.inl (not_not.mp hid))

def searchResult (title url snippet : PyStr) : Except PyExc SearchResult := do
  requireText title "search result title"
  requireText url "search result URL"
  return ⟨title, url, snippet⟩

structure SearchBackendResponse where
  results : List SearchResult
  backendId : PyStr
  requestId : PyStr
  responseId : Option PyStr
  deriving DecidableEq

end EvaluationLab.SearchCup
