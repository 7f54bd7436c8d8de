import EvaluationLab.SearchCup.FreezeThaw
import EvaluationLab.SearchCup.SearchProxy

/-! What a search proxy accounts for: tickets, traces and requests sent, over every history, and in a match. -/
namespace EvaluationLab.SearchCup
open Python Effect

/-- A request of the entrant with this query is sent to the backend. -/
def Sendable (entrantId query : PyStr) : Prop := strip entrantId ≠ [] ∧ strip query ≠ []

instance (entrantId query : PyStr) : Decidable (Sendable entrantId query) := inferInstanceAs (Decidable (_ ∧ _))

section Attempt

variable (proxy : BudgetedSearchProxy) (stamp : CallStamp) (backend : SearchRequest → BackendReply) (query : PyStr)

theorem strip_requestId (hex : PyStr) : strip (py "sc-" ++ hex) ≠ [] := by
  have hsolid : isSpace 115 = false := by decide
  have hstart : py "sc-" ++ hex = 115 :: (py "c-" ++ hex) := by
    rw [show py "sc-" = 115 :: py "c-" by decide +kernel, List.cons_append]
  rw [hstart, strip, List.dropWhile_cons_of_neg (by rw [hsolid]; exact Bool.false_ne_true), ne_eq, List.reverse_eq_nil_iff,
    List.dropWhile_eq_nil_iff]
  intro hall
  have h := hall 115 (List.mem_reverse.mpr List.mem_cons_self)
  rw [hsolid] at h
  cases h

theorem checkRequest_iff_sendable : checkRequest proxy.entrantId query (proxy.callsUsed + 1) (py "sc-" ++ stamp.hex) = .ok () ↔
    Sendable proxy.entrantId query := by
  rw [checkRequest_iff]
  have hnumber : (0 : ℤ) ≤ proxy.callsUsed + 1 := by omega
  constructor
  · rintro ⟨hentrant, hquery, -⟩
    exact ⟨hentrant, hquery⟩
  · rintro ⟨hentrant, hquery⟩
    exact ⟨hentrant, hquery, hnumber, .inr (strip_requestId stamp.hex)⟩

/-- What the trace of a call says: what was asked, and whether the call returned. One that is not sent does not return. -/
structure Tells (entrantId : PyStr) (call : PyStr × Except PyExc (List SearchResult)) (trace : SearchTrace) : Prop where
  query : trace.query = call.1
  status : trace.status = if call.2.isOk then py "SUCCEEDED" else py "FAILED"
  unsent : ¬Sendable entrantId call.1 → call.2.isOk = false

theorem tells_accept (response : BackendResponse) (hsend : Sendable proxy.entrantId query) :
    Tells proxy.entrantId (query, (proxy.accept stamp query response).1) (proxy.accept stamp query response).2 ∧
      (proxy.accept stamp query response).2.callNumber = proxy.callsUsed + 1 := by
  unfold BudgetedSearchProxy.accept
  cases response.results.mapM id with
  | some results => exact ⟨⟨rfl, rfl, absurd hsend⟩, rfl⟩
  | none => exact ⟨⟨rfl, rfl, fun _ => rfl⟩, rfl⟩

/-- A call with a ticket leaves one trace, and sends its request to the backend when it is one that can be sent. -/
theorem attempt_spec :
    Tells proxy.entrantId (query, (proxy.attempt stamp backend query).1.1) (proxy.attempt stamp backend query).1.2 ∧
    (proxy.attempt stamp backend query).1.2.callNumber = proxy.callsUsed + 1 ∧
    (proxy.attempt stamp backend query).2.map (fun r => (r.callNumber, r.query)) =
      if Sendable proxy.entrantId query then [((proxy.callsUsed : ℤ) + 1, query)] else [] := by
  have hvalid := checkRequest_iff_sendable proxy stamp query
  unfold BudgetedSearchProxy.attempt
  split
  · rename_i e hcheck
    rw [hcheck] at hvalid
    rw [if_neg fun h => nomatch hvalid.mpr h]
    exact ⟨⟨rfl, rfl, fun _ => rfl⟩, rfl, rfl⟩
  · rename_i hcheck
    have hsend := hvalid.mp hcheck
    rw [if_pos hsend]
    dsimp only
    cases backend ⟨_, _, _, _, hcheck⟩ with
    | response response =>
      obtain ⟨htells, hnumber⟩ := tells_accept proxy stamp query response hsend
      exact ⟨htells, hnumber, rfl⟩
    | items items =>
      obtain ⟨htells, hnumber⟩ :=
        tells_accept proxy stamp query ⟨items, proxy.backendId, py "sc-" ++ stamp.hex, none⟩ hsend
      exact ⟨htells, hnumber, rfl⟩
    | failure e => exact ⟨⟨rfl, rfl, fun _ => rfl⟩, rfl, rfl⟩
    | raised e _ => exact ⟨⟨rfl, rfl, fun _ => rfl⟩, rfl, rfl⟩

end Attempt

section History

variable {entrantId : PyStr} {maxCalls : ℤ} {h : SearchHistory}

/-- What holds of the history of a proxy: the calls it had tickets for are traced one by one, and the requests sent are
those of them that can be sent. -/
structure Tallied (entrantId : PyStr) (maxCalls : ℤ) (h : SearchHistory) : Prop where
  entrant : h.proxy.entrantId = entrantId
  budget : h.proxy.maxCalls = maxCalls
  limit : (h.proxy.traces.length : ℤ) ≤ maxCalls
  traced : List.Forall₂ (Tells entrantId) (h.calls.take maxCalls.toNat) h.proxy.traces
  numbered : h.proxy.traces.map SearchTrace.callNumber = (List.range h.proxy.traces.length).map fun n : ℕ => (n : ℤ) + 1
  sent : h.requests.map (fun r => (r.callNumber, r.query)) =
    (h.proxy.traces.filter fun t => Sendable entrantId t.query).map fun t => (t.callNumber, t.query)

theorem tallied_start {backendId : PyStr} {proxy : BudgetedSearchProxy}
    (hnew : BudgetedSearchProxy.new entrantId maxCalls backendId = .ok proxy) : Tallied entrantId maxCalls (.start proxy) := by
  simp only [BudgetedSearchProxy.new, bind_eq_ok_iff, exists_unit_iff, check_eq_ok_iff, pure_eq_ok_iff] at hnew
  obtain ⟨hpositive, rfl⟩ := hnew
  refine ⟨rfl, rfl, ?_, ?_, rfl, rfl⟩
  · exact le_trans (Int.natCast_nonneg 0) (le_trans zero_le_one hpositive)
  · rw [SearchHistory.start, List.take_nil]
    exact .nil

/-- Without a ticket nothing is sent and nothing changes. -/
theorem search_exhausted (h : SearchHistory) (stamp : CallStamp) (backend : SearchRequest → BackendReply) (query : PyStr)
    (hused : h.proxy.maxCalls ≤ h.proxy.traces.length) :
    h.search stamp backend query = (.error h.proxy.budgetError,
      ⟨h.proxy, h.requests, h.calls ++ [(query, .error h.proxy.budgetError)]⟩) := by
  rw [SearchHistory.search, BudgetedSearchProxy.search, BudgetedSearchProxy.callsUsed, if_pos hused]
  dsimp only
  rw [List.append_nil]

/-- With a ticket the call is traced, and its request sent when it can be. -/
theorem search_ticketed (h : SearchHistory) (stamp : CallStamp) (backend : SearchRequest → BackendReply) (query : PyStr)
    (hunused : h.proxy.traces.length < h.proxy.maxCalls) : ∃ outcome trace sent,
      Tells h.proxy.entrantId (query, outcome) trace ∧ trace.callNumber = h.proxy.traces.length + 1 ∧
      sent.map (fun r => (r.callNumber, r.query)) =
        (if Sendable h.proxy.entrantId query then [((h.proxy.traces.length : ℤ) + 1, query)] else []) ∧
      h.search stamp backend query = (outcome,
        ⟨{ h.proxy with traces := h.proxy.traces ++ [trace] }, h.requests ++ sent, h.calls ++ [(query, outcome)]⟩) := by
  obtain ⟨htells, hnumber, hsent⟩ := attempt_spec h.proxy stamp backend query
  refine ⟨_, _, _, htells, hnumber, hsent, ?_⟩
  rw [SearchHistory.search, BudgetedSearchProxy.search, BudgetedSearchProxy.callsUsed, if_neg (not_le.mpr hunused)]

theorem Tallied.search (ht : Tallied entrantId maxCalls h) (stamp : CallStamp) (backend : SearchRequest → BackendReply)
    (query : PyStr) : Tallied entrantId maxCalls (h.search stamp backend query).2 := by
  have hlength := ht.traced.length_eq
  rw [List.length_take] at hlength
  by_cases hused : maxCalls ≤ h.proxy.traces.length
  · rw [search_exhausted h stamp backend query (by rwa [ht.budget])]
    refine ⟨ht.entrant, ht.budget, ht.limit, ?_, ht.numbered, ht.sent⟩
    rw [List.take_append_of_le_length (by omega)]
    exact ht.traced
  · obtain ⟨outcome, trace, sent, htells, hnumber, hsent, heq⟩ := search_ticketed h stamp backend query (by rw [ht.budget]; omega)
    rw [heq]
    refine ⟨ht.entrant, ht.budget, ?_, ?_, ?_, ?_⟩
    · simp only [List.length_append, List.length_singleton]
      omega
    · have hall : h.calls.take maxCalls.toNat = h.calls := List.take_of_length_le (by omega)
      have htraced := ht.traced
      rw [hall] at htraced
      rw [List.take_of_length_le (by rw [List.length_append, List.length_singleton]; omega)]
      rw [ht.entrant] at htells
      exact List.rel_append htraced (.cons htells .nil)
    · simp only [List.map_append, ht.numbered, List.length_append, List.length_singleton, List.range_succ, List.map_cons,
        List.map_nil, hnumber]
    · simp only [List.map_append, ht.sent, List.filter_append]
      congr 1
      rw [List.filter_singleton, htells.query]
      rw [hsent, ht.entrant]
      by_cases hsend : Sendable entrantId query
      · simp [hsend, hnumber, htells.query]
      · simp [hsend]

/-- Every history is tallied. -/
theorem sought_tallied (hs : Sought entrantId maxCalls h) : Tallied entrantId maxCalls h := by
  induction hs with
  | start hnew => exact tallied_start hnew
  | search stamp backend query _ ih => exact ih.search stamp backend query

/-- Requests sent and calls that could not be sent make up the traces. -/
theorem Tallied.requests_length (ht : Tallied entrantId maxCalls h) :
    h.requests.length + h.proxy.traces.countP (fun t => ¬Sendable entrantId t.query) = h.proxy.traces.length := by
  have hsent := congrArg List.length ht.sent
  rw [List.length_map, List.length_map, ← List.countP_eq_length_filter] at hsent
  rw [hsent, List.length_eq_countP_add_countP fun t : SearchTrace => decide (Sendable entrantId t.query)]
  simp only [decide_not, decide_eq_true_eq]

/-- What an entrant does with its tools is a history of its proxy. -/
theorem sought_run {α : Type} (p : Program EntrantTools α) (stamps : ℕ → CallStamp) (results : List (PyStr × ResultItems))
    (pages : List (PyStr × URLReadResult)) (hs : Sought entrantId maxCalls h) :
    Sought entrantId maxCalls (p.run (entrantTools stamps results pages) h).2 := by
  induction p generalizing h with
  | done a => exact hs
  | ask op next ih =>
    apply ih
    cases op with
    | searchWeb query => exact hs.search _ _ query
    | readUrl url => exact hs
    | searchCalls => exact hs
    | traces => exact hs

end History

section Match

variable [PyRuntime] {candidate : CandidateCard} {competition : CompetitionSpec} {setup : MatchSetup}

/-- A frozen outcome comes with the submission that was checked against the entrant's own calls. -/
theorem runEntrant_frozen {entrant : EntrantConfig} {evidence : EntrantEvidence} {history : SearchHistory}
    (h : runEntrant candidate competition setup entrant = .ok (evidence, history)) (hfrozen : evidence.status = py "FROZEN") :
    evidence.entrantId = entrant.entrantId ∧ evidence.traces = history.proxy.traces ∧
      Sought entrant.entrantId competition.maxSearchCalls history ∧
      ∃ submission frozen, FrozenSubmission.freeze submission = .ok frozen ∧ evidence.frozenSubmission = some frozen ∧
        submission.searchCalls = history.proxy.traces.length := by
  have hstates : py "FAILED" ≠ py "FROZEN" := by decide +kernel
  simp only [runEntrant, bind_eq_ok_iff] at h
  obtain ⟨results, -, proxy, hproxy, pages, -, h⟩ := h
  cases hprovider : setup.providers entrant.entrantId with
  | none =>
    rw [hprovider] at h
    cases h
    exact absurd hfrozen hstates
  | some provider =>
    rw [hprovider] at h
    dsimp only at h
    have hsought := sought_run (runProvider candidate competition provider entrant) (setup.stamps entrant.entrantId) results
      pages (.start hproxy)
    rcases hrun : (runProvider candidate competition provider entrant).run
      (entrantTools (setup.stamps entrant.entrantId) results pages) (.start proxy) with ⟨returned, reached⟩
    rw [hrun] at h hsought
    dsimp only at h hsought
    cases hclose : returned >>= closeSubmission candidate competition entrant reached.proxy.callsUsed with
    | error e =>
      rw [hclose] at h
      dsimp only at h
      split_ifs at h
      cases h
      exact absurd hfrozen hstates
    | ok frozen =>
      rw [hclose] at h
      cases h
      simp only [bind_eq_ok_iff, closeSubmission, exists_unit_iff, check_eq_ok_iff] at hclose
      obtain ⟨submission, -, -, -, -, hcalls, hfreeze⟩ := hclose
      exact ⟨rfl, rfl, hsought, submission, frozen, hfreeze, rfl, hcalls⟩

end Match

section Sample

open Python.Ascii

def sampleStamp : CallStamp := ⟨"5f0c", "2026-01-01T00:00:00+00:00", .finite 1⟩

/-- A backend that finds nothing. -/
def emptyBackend (_ : SearchRequest) : BackendReply := .items []

def sampleProxy : BudgetedSearchProxy := ⟨"entrant", 20, "backend", []⟩

/-- A search of blanks, then one of a word. -/
def blankThenWord : SearchHistory :=
  (((SearchHistory.start sampleProxy).search sampleStamp emptyBackend "   ").2.search sampleStamp emptyBackend "jobs").2

theorem sought_blankThenWord : Sought "entrant" 20 blankThenWord := by
  have hnew : BudgetedSearchProxy.new "entrant" 20 "backend" = .ok sampleProxy := rfl
  exact .search sampleStamp emptyBackend "jobs" (.search sampleStamp emptyBackend "   " (.start hnew))

end Sample

end EvaluationLab.SearchCup
