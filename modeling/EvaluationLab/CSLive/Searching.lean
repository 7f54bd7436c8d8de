import EvaluationLab.CSLive.Ingestion
import EvaluationLab.CSLive.Retriever
import EvaluationLab.Python.Dict

/-! What holds of a retriever after any sequence of calls: every call is answered and recorded,
entrants take their turns within their budgets, and answers do not depend on what came before. -/
namespace EvaluationLab.CSLive
open Python Effect

section Lookup

/-- Adding one to the entry of a name. -/
theorem lookup_countCall (counts : List (PyStr × ℕ)) (entrant name : PyStr) :
    (counts.map fun (n, count) => (n, if n = entrant then count + 1 else count)).lookup name =
      (counts.lookup name).map fun count => if name = entrant then count + 1 else count := by
  induction counts with
  | nil => rfl
  | cons c cs ih =>
    obtain ⟨n, count⟩ := c
    rw [List.map_cons, List.lookup_cons, List.lookup_cons]
    by_cases h : name = n
    · subst h
      simp
    · have hne : (name == n) = false := beq_eq_false_iff_ne.mpr h
      rw [hne]
      exact ih

end Lookup

section Runs

variable [PyRuntime]

/-- What may keep a call from being recorded is absent: the clock answers an aware time, which
the text of that time names again, the epoch has such a time, and the request can be written. -/
structure Answerable (r : Retriever) (clock : Except PyExc Json) (request : SearchRequest) : Prop where
  clock_aware : ∃ now, (clock >>= awareTime) = .ok now ∧ awareTime (.str (isoformat now)) = .ok now
  epoch_aware : ∃ fetched, awareTime (.str r.epoch.fetchedAt) = .ok fetched
  entrant_encodable : ∀ entrant, request.entrantId = .str entrant → encodable entrant = true
  number_printable : ∀ number, request.callNumber = .int number → intPrintable number = true
  query_encodable : ∀ query, request.query = .str query → encodable query = true

/-- The retrievers that answerable calls lead to. -/
inductive Searched (fts : Fts5) (opened : Retriever) : Retriever → Prop where
  | opened : Searched fts opened opened
  | search {r : Retriever} (clock : Except PyExc Json) (request : SearchRequest) : Searched fts opened r →
      Answerable r clock request → Searched fts opened (r.search fts clock request).2

omit [PyRuntime] in
def isOne : Json → Bool
  | .int n => n == 1
  | _ => false

omit [PyRuntime] in
/-- The event of an attempt of the entrant. -/
def isAttempt (entrant : PyStr) (event : Event) : Bool :=
  isOne (dictGet event "match_attempts") && (dictGet event "entrant_id").isStr entrant

omit [PyRuntime] in
/-- The call numbers of an entrant's attempts. -/
def attemptNumbers (events : List Event) (entrant : PyStr) : List Json :=
  (events.filter (isAttempt entrant)).map fun event => dictGet event "call_number"

omit [PyRuntime] in
/-- An entrant's attempts are numbered from one, and its budget is not exceeded. -/
def InTurn (maxCalls : ℕ) (events : List Event) : Prop :=
  ∀ entrant, ∃ n ≤ maxCalls, attemptNumbers events entrant = (List.range n).map fun i => .int (i + 1)

/-- What one call gives back and leaves behind. -/
structure Answered (fts : Fts5) (opened r : Retriever) (request : SearchRequest)
    (outcome : Except PyExc SearchResponse × Retriever) : Prop where
  responds : ∃ response event, outcome.1 = .ok response ∧ outcome.2.provenance = r.provenance ++ [event]
  rejected_keeps : ∀ response, outcome.1 = .ok response → response.state = py "REJECTED" → outcome.2.counts = r.counts
  attempt_answers : ∀ response, outcome.1 = .ok response → response.state ≠ py "REJECTED" →
    ∃ query, request.query = .str query ∧ (response.errorCode, response.results) = opened.runQuery fts query

/-- What a retriever keeps of the one that was opened. -/
structure Tied (opened r : Retriever) : Prop where
  epoch_eq : r.epoch = opened.epoch
  config_eq : r.config = opened.config
  configFingerprint_eq : r.configFingerprint = opened.configFingerprint
  epochFingerprint_eq : r.epochFingerprint = opened.epochFingerprint
  docs_eq : r.docs = opened.docs
  hash_digestible : Digestible (lastHash r.provenance)

/-- How the counts of a retriever stand to its events. -/
structure Counted (opened r : Retriever) : Prop where
  numbers : ∀ entrant, attemptNumbers r.provenance entrant =
    (List.range ((r.counts.lookup entrant).getD 0)).map fun i => .int (i + 1)
  within : ∀ entrant, (r.counts.lookup entrant).getD 0 ≤ opened.config.maxCalls

/-- The fingerprints of a retriever that was opened. -/
structure Opened (opened : Retriever) : Prop where
  config_digest : digest opened.config.toJson = .ok opened.configFingerprint
  epoch_digest : opened.epoch.fingerprint = .ok opened.epochFingerprint
  counts_zero : ∀ entrant, (opened.counts.lookup entrant).getD 0 = 0
  provenance_nil : opened.provenance = []

theorem opened_of {identity : Except PyExc Json} {epoch : Epoch} {expectedRuntime : Json} {entrants : List PyStr}
    {maxCalls maxResults : Json} {r : Retriever}
    (h : openRetriever identity epoch expectedRuntime entrants maxCalls maxResults = .ok r) : Opened r := by
  unfold openRetriever at h
  split at h
  · simp only [bind_eq_ok_iff, exists_unit_iff, check_eq_ok_iff, pure_eq_ok_iff] at h
    obtain ⟨-, actual, -, actualText, -, expectedText, -, -, -, runtimeFingerprint, -, configFingerprint, hconfig,
      epochFingerprint, hepoch, docs, -, rfl⟩ := h
    refine ⟨hconfig, hepoch, ?_, rfl⟩
    intro entrant
    induction entrants with
    | nil => rfl
    | cons e es ih =>
      dsimp only at ih ⊢
      rw [List.map_cons, List.lookup_cons]
      split
      · rfl
      · exact ih
  · cases h

section Recording

omit [PyRuntime] in
theorem digestible_onlyStr {value : Json} (h : ∀ s, value = .str s → encodable s = true) :
    Digestible (onlyStr value) := by
  cases value with
  | str s => exact (digestible_str s).mpr (h s rfl)
  | _ => exact digestible_null

omit [PyRuntime] in
theorem digestible_onlyInt {value : Json} (h : ∀ n, value = .int n → intPrintable n = true) :
    Digestible (onlyInt value) := by
  cases value with
  | int n => exact (digestible_int n).mpr (h n rfl)
  | _ => exact digestible_null

omit [PyRuntime] in
/-- The fields of an event besides its link. -/
def searchKeys : List PyStr := [
  "entrant_id", "call_number", "query", "state", "error_code", "match_attempts", "time", "epoch_id",
  "epoch_fingerprint", "config_fingerprint", "result_count", "result_fingerprints", "automatic_retries",
  "follow_links", "network_calls"]

omit [PyRuntime] in
theorem searchData_keys (r : Retriever) (stamp : PyStr) (request : SearchRequest) (f : Finding)
    (epochFingerprint configFingerprint : PyStr) (fingerprints : List PyStr) :
    (r.searchData stamp request f epochFingerprint configFingerprint fingerprints).map Prod.fst = searchKeys := rfl

omit [PyRuntime] in
/-- A field of the data is read from its place, whatever follows the data. -/
theorem dictGet_searchData {r : Retriever} {stamp : PyStr} {request : SearchRequest} {f : Finding}
    {epochFingerprint configFingerprint : PyStr} {fingerprints : List PyStr} {events : List Event} {more : Event}
    {key : PyStr} {value : Json} (i : ℕ) (hkey : searchKeys.idxOf key = i) (hlink : key ∉ linkKeys)
    (hvalue : ((r.searchData stamp request f epochFingerprint configFingerprint fingerprints)[i]?).map Prod.snd =
      some value) :
    dictGet (link events ++ r.searchData stamp request f epochFingerprint configFingerprint fingerprints ++ more) key =
      value := by
  have hnot : key ∉ (link events).map Prod.fst := by
    intro hmem
    apply hlink
    rcases List.mem_cons.mp hmem with rfl | hmem
    · exact List.mem_cons_self
    · rw [List.mem_singleton.mp hmem]
      exact List.mem_cons_of_mem _ List.mem_cons_self
  rw [List.append_assoc, dictGet_append_right _ hnot]
  apply dictGet_append_left
  rw [lookup_idxOf, searchData_keys, hkey, hvalue]

/-- What is read of the event of a call. -/
structure Records (request : SearchRequest) (f : Finding) (event : Event) : Prop where
  entrant : dictGet event "entrant_id" = onlyStr request.entrantId
  number : dictGet event "call_number" = onlyInt request.callNumber
  attempts : dictGet event "match_attempts" = .int (if f.attempted then 1 else 0)
  hash : Digestible (dictGet event "event_hash")

/-- A call whose parts can be digested is recorded. -/
theorem record_of {opened r : Retriever} {stamp : PyStr} {request : SearchRequest} {f : Finding} (ho : Opened opened)
    (hr : Tied opened r) (hstamp : encodable stamp = true)
    (hentrant : ∀ entrant, request.entrantId = .str entrant → encodable entrant = true)
    (hnumber : ∀ number, request.callNumber = .int number → intPrintable number = true)
    (hquery : ∀ query, request.query = .str query → encodable query = true)
    (hresults : ∀ result ∈ f.results, Digestible result.toJson) (herror : ∀ code ∈ f.error, encodable code = true) :
    ∃ response event, r.record stamp request f = (.ok response, { r with provenance := r.provenance ++ [event] }) ∧
      response.state = f.state ∧ response.errorCode = f.error ∧ response.results = f.results ∧
      Records request f event := by
  have hconfig : digest r.config.toJson = .ok opened.configFingerprint := hr.config_eq ▸ ho.config_digest
  have hepoch : r.epoch.fingerprint = .ok opened.epochFingerprint := hr.epoch_eq ▸ ho.epoch_digest
  have hepochId : encodable r.epoch.epochId = true := by
    have hdigestible := ((digest_eq_ok_iff _ _).mp hepoch).1
    exact ((digestible_epoch r.epoch).mp hdigestible).1 _ List.mem_cons_self
  obtain ⟨fingerprints, hfingerprints⟩ := mapM_ok_of_forall fun result hresult => ⟨_, digest_of (hresults result hresult)⟩
  have hencodable : ∀ t ∈ fingerprints, encodable t = true := by
    intro t ht
    obtain ⟨result, -, hdigest⟩ := mapM_mem hfingerprints ht
    exact encodable_digest hdigest
  have hstate : encodable f.state = true := by
    unfold Finding.state
    split_ifs <;> decide +kernel
  have hattempts : intPrintable (if f.attempted then 1 else 0) = true := by
    apply intPrintable_of_small
    split_ifs <;> decide
  have hzero : intPrintable 0 = true := intPrintable_of_small (by decide)
  have hdata : Digestible (.obj (r.searchData stamp request f opened.epochFingerprint opened.configFingerprint
      fingerprints)) := by
    have hkeys : searchKeys.all encodable = true := by decide +kernel
    have hepochHash := encodable_digest hepoch
    have hconfigHash := encodable_digest hconfig
    simp only [searchKeys, List.all_cons, List.all_nil, Bool.and_eq_true] at hkeys
    simp only [Retriever.searchData, digestible_obj, List.forall_mem_cons, digestible_str, digestible_int,
      digestible_arr, digestible_optionJson, List.forall_mem_map, hkeys, hstate, hattempts, hstamp, hepochId,
      hepochHash, hconfigHash, hzero, intPrintable_pyLen, digestible_onlyStr hentrant, digestible_onlyInt hnumber,
      digestible_onlyStr hquery, List.not_mem_nil, false_imp_iff, implies_true, and_true, true_and]
    exact ⟨herror, hencodable⟩
  have hbody := digestible_append (digestible_link hr.hash_digestible) hdata
  obtain ⟨hash, hdigest, hhash⟩ := exists_digest hbody
  have hevent : r.searchEvent stamp request f = .ok (link r.provenance ++ r.searchData stamp request f
      opened.epochFingerprint opened.configFingerprint fingerprints ++ ([("event_hash", .str hash)] : Event)) := by
    unfold Retriever.searchEvent sealEvent
    rw [hepoch, hconfig, hfingerprints]
    change (digest _ >>= _) = _
    rw [hdigest]
    rfl
  obtain ⟨text, htext⟩ : ∃ text, canonical (.obj (link r.provenance ++ r.searchData stamp request f
      opened.epochFingerprint opened.configFingerprint fingerprints ++ ([("event_hash", .str hash)] : Event))) =
        .ok text := by
    have hquoted := digestible_append hbody ((digestible_obj ([("event_hash", .str hash)] : Event)).mpr (by
      rw [List.forall_mem_singleton]
      exact ⟨show encodable (py "event_hash") = true by decide +kernel, (digestible_str hash).mpr hhash⟩))
    exact ⟨_, (canonical_eq_ok_iff _ _).mpr ⟨hquoted.floats_finite, hquoted.ints_printable, rfl⟩⟩
  refine ⟨⟨f.state, f.error, f.results, text⟩, link r.provenance ++ r.searchData stamp request f
    opened.epochFingerprint opened.configFingerprint fingerprints ++ ([("event_hash", .str hash)] : Event), ?_, rfl,
    rfl, rfl, ?_⟩
  · unfold Retriever.record
    rw [hevent]
    dsimp only
    rw [htext]
    rfl
  · constructor
    · exact dictGet_searchData 0 (by decide +kernel) (by decide +kernel) rfl
    · exact dictGet_searchData 1 (by decide +kernel) (by decide +kernel) rfl
    · exact dictGet_searchData 5 (by decide +kernel) (by decide +kernel) rfl
    · have hlast : py "event_hash" ∉ (link r.provenance ++ r.searchData stamp request f opened.epochFingerprint
          opened.configFingerprint fingerprints).map Prod.fst := by
        rw [List.map_append, searchData_keys]
        have hkeys : py "event_hash" ∉ ([py "sequence", py "previous_hash"] ++ searchKeys) := by decide +kernel
        exact hkeys
      rw [dictGet_append_right _ hlast]
      simpa [dictGet] using hhash

end Recording

section Step

/-- The tests admit the request as the entrant's next call. -/
structure Admits (r : Retriever) (request : SearchRequest) (entrant query : PyStr) (count : ℕ) : Prop where
  entrant_eq : request.entrantId = .str entrant
  query_eq : request.query = .str query
  counted : r.counts.lookup entrant = some count
  number_eq : request.callNumber = .int (count + 1)
  within : count < r.config.maxCalls

omit [PyRuntime] in
theorem judgeTurn_spec {r : Retriever} {request : SearchRequest}
    (hquery : ∀ query, request.query = .str query → encodable query = true) :
    (∃ code, r.judgeTurn request = .ok (.rejected code) ∧ encodable code = true) ∨
      ∃ entrant query count, r.judgeTurn request = .ok (.admitted entrant query) ∧
        Admits r request entrant query count := by
  have hunknown : encodable (py "UNKNOWN_ENTRANT") = true := by decide +kernel
  have hsequence : encodable (py "CALL_SEQUENCE_REJECTED") = true := by decide +kernel
  have hbudget : encodable (py "CALL_BUDGET_EXHAUSTED") = true := by decide +kernel
  have hcontract : encodable (py "QUERY_CONTRACT_REJECTED") = true := by decide +kernel
  unfold Retriever.judgeTurn
  cases hentrant : request.entrantId with
  | str entrant =>
    dsimp only
    cases hcount : r.counts.lookup entrant with
    | none => exact .inl ⟨_, rfl, hunknown⟩
    | some count =>
      dsimp only
      cases hnumber : request.callNumber with
      | int number =>
        dsimp only
        by_cases hnext : number ≠ count + 1
        · rw [if_pos hnext]
          exact .inl ⟨_, rfl, hsequence⟩
        rw [if_neg hnext]
        by_cases hspent : r.config.maxCalls ≤ count
        · rw [if_pos hspent]
          exact .inl ⟨_, rfl, hbudget⟩
        rw [if_neg hspent]
        cases hq : request.query with
        | str query =>
          dsimp only
          by_cases hempty : query = []
          · rw [if_pos hempty]
            exact .inl ⟨_, rfl, hcontract⟩
          have hbytes : QA0.encode query = .ok (utf8 query) := if_pos (hquery query hq)
          rw [if_neg hempty, hbytes]
          by_cases hlong : 4096 < (utf8 query).length
          · left
            refine ⟨_, ?_, hcontract⟩
            change (if 4096 < (utf8 query).length then _ else _) = _
            rw [if_pos hlong]
            rfl
          · right
            refine ⟨entrant, query, count, ?_, hentrant, hq, hcount, ?_, not_le.mp hspent⟩
            · change (if 4096 < (utf8 query).length then _ else _) = _
              rw [if_neg hlong]
              rfl
            · rw [hnumber, not_not.mp hnext]
        | _ => exact .inl ⟨_, rfl, hcontract⟩
      | _ => exact .inl ⟨_, rfl, hsequence⟩
  | _ => exact .inl ⟨_, rfl, hunknown⟩

/-- The tests come to a verdict on a call that can be answered. -/
theorem judge_spec {opened r : Retriever} {request : SearchRequest} {stamp : PyStr} {now fetched : ℤ}
    (ho : Opened opened) (hr : Tied opened r) (hstamp : awareTime (.str stamp) = .ok now)
    (hepoch : awareTime (.str r.epoch.fetchedAt) = .ok fetched)
    (hquery : ∀ query, request.query = .str query → encodable query = true) :
    (∃ code, r.judge stamp request = .ok (.rejected code) ∧ encodable code = true) ∨
      ∃ entrant query count, r.judge stamp request = .ok (.admitted entrant query) ∧
        Admits r request entrant query count := by
  have hconfigDigest : digest r.config.toJson = .ok r.configFingerprint := by
    rw [hr.config_eq, hr.configFingerprint_eq]
    exact ho.config_digest
  have hepochDigest : r.epoch.fingerprint = .ok r.epochFingerprint := by
    rw [hr.epoch_eq, hr.epochFingerprint_eq]
    exact ho.epoch_digest
  have hjudge : r.judge stamp request =
      if now < fetched then .ok (.rejected "QUERY_BEFORE_EPOCH") else r.judgeTurn request := by
    unfold Retriever.judge
    rw [hconfigDigest, hepochDigest, hstamp, hepoch]
    change (if r.configFingerprint ≠ r.configFingerprint then _ else if r.epochFingerprint ≠ r.epochFingerprint then _
      else if now < fetched then _ else _) = _
    rw [if_neg (not_not.mpr rfl), if_neg (not_not.mpr rfl)]
    rfl
  rw [hjudge]
  by_cases hearly : now < fetched
  · rw [if_pos hearly]
    exact .inl ⟨_, rfl, by decide +kernel⟩
  · rw [if_neg hearly]
    exact judgeTurn_spec hquery

omit [PyRuntime] in
theorem attemptNumbers_append (events : List Event) (event : Event) (entrant : PyStr) :
    attemptNumbers (events ++ [event]) entrant =
      attemptNumbers events entrant ++ (if isAttempt entrant event then [dictGet event "call_number"] else []) := by
  unfold attemptNumbers
  rw [List.filter_append, List.map_append]
  by_cases h : isAttempt entrant event = true <;> simp [h]

omit [PyRuntime] in
/-- What a query finds can be digested. -/
theorem runQuery_digestible (r : Retriever) (fts : Fts5) (query : PyStr) :
    (∀ result ∈ (r.runQuery fts query).2, Digestible result.toJson) ∧
      ∀ code ∈ (r.runQuery fts query).1, encodable code = true := by
  unfold Retriever.runQuery
  cases hselect : fts.select r.docs query r.config.maxResults with
  | ok found =>
    constructor
    · intro result hresult
      obtain ⟨i, hi, rfl⟩ := List.mem_mapIdx.mp hresult
      have hcount := fts.rows_countable _ _ _ _ hselect
      have hrow := fts.rows_encodable _ _ _ _ hselect found[i] (List.getElem_mem hi)
      have hkeys : (["title", "body", "source_id", "item_id", "url", "content_hash", "score", "rank"] :
          List PyStr).all encodable = true := by decide +kernel
      have hrank : intPrintable ((i + 1 : ℕ) : ℤ) = true := by
        apply intPrintable_of_small
        omega
      simp only [List.all_cons, List.all_nil, Bool.and_eq_true] at hkeys
      simp only [DocsRow.texts, List.forall_mem_cons] at hrow
      simp only [SearchResult.toJson, digestible_obj, List.forall_mem_cons, digestible_str, digestible_int,
        digestible_finite, hkeys, hrow, hrank, List.not_mem_nil, false_imp_iff, implies_true, and_true]
    · simp
  | error e =>
    cases e with
    | operational =>
      refine ⟨by simp, ?_⟩
      intro code hcode
      cases hcode
      decide +kernel
    | database =>
      refine ⟨by simp, ?_⟩
      intro code hcode
      cases hcode
      decide +kernel

omit [PyRuntime] in
theorem Tied.append {opened r : Retriever} {event : Event} (h : Tied opened r)
    (hevent : Digestible (dictGet event "event_hash")) :
    Tied opened { r with provenance := r.provenance ++ [event] } := by
  refine ⟨h.epoch_eq, h.config_eq, h.configFingerprint_eq, h.epochFingerprint_eq, h.docs_eq, ?_⟩
  rw [lastHash_append]
  exact hevent

omit [PyRuntime] in
/-- The event of a rejected call is nobody's attempt. -/
theorem isAttempt_rejected {request : SearchRequest} {code : PyStr} {event : Event}
    (h : Records request ⟨some code, false, []⟩ event) (entrant : PyStr) : isAttempt entrant event = false := by
  rw [isAttempt, h.attempts]
  rfl

omit [PyRuntime] in
/-- The event of an attempt is the entrant's own. -/
theorem isAttempt_admitted {request : SearchRequest} {error : Option PyStr} {results : List SearchResult} {event : Event}
    {entrant : PyStr} (h : Records request ⟨error, true, results⟩ event) (hentrant : request.entrantId = .str entrant)
    (name : PyStr) : isAttempt name event = (entrant == name) := by
  rw [isAttempt, h.attempts, h.entrant, hentrant]
  rfl

omit [PyRuntime] in
/-- A call that is admitted takes the entrant's next number. -/
theorem Counted.attempt {opened r : Retriever} {request : SearchRequest} {error : Option PyStr}
    {results : List SearchResult} {event : Event} {entrant query : PyStr} {count : ℕ} (hc : Counted opened r)
    (hconfig : r.config = opened.config) (hadmits : Admits r request entrant query count)
    (hevent : Records request ⟨error, true, results⟩ event) :
    Counted opened { r.countCall entrant with provenance := r.provenance ++ [event] } := by
  have hcount : (r.counts.lookup entrant).getD 0 = count := by
    rw [hadmits.counted]
    rfl
  have hlookup : ∀ name, (((r.countCall entrant).counts.lookup name).getD 0) =
      if name = entrant then count + 1 else (r.counts.lookup name).getD 0 := by
    intro name
    unfold Retriever.countCall
    rw [lookup_countCall]
    by_cases hname : name = entrant
    · rw [if_pos hname, hname, hadmits.counted]
      simp
    · rw [if_neg hname]
      cases r.counts.lookup name <;> simp [hname]
  constructor
  · intro name
    dsimp only
    rw [hlookup, attemptNumbers_append, isAttempt_admitted hevent hadmits.entrant_eq, hc.numbers, hevent.number,
      hadmits.number_eq]
    by_cases hname : name = entrant
    · subst hname
      rw [hcount, if_pos rfl, if_pos (beq_self_eq_true _), List.range_succ, List.map_append]
      rfl
    · rw [if_neg hname, if_neg (by simpa using Ne.symm hname), List.append_nil]
  · intro name
    dsimp only
    rw [hlookup]
    by_cases hname : name = entrant
    · rw [if_pos hname, ← hconfig]
      exact hadmits.within
    · rw [if_neg hname]
      exact hc.within name

/-- One answerable call. -/
theorem search_step {fts : Fts5} {opened r : Retriever} {clock : Except PyExc Json} {request : SearchRequest}
    (ho : Opened opened) (hr : Tied opened r) (hc : Counted opened r) (h : Answerable r clock request) :
    Answered fts opened r request (r.search fts clock request) ∧ Tied opened (r.search fts clock request).2 ∧
      Counted opened (r.search fts clock request).2 := by
  obtain ⟨now, hclock, hnow⟩ := h.clock_aware
  obtain ⟨fetched, hfetched⟩ := h.epoch_aware
  unfold Retriever.search
  rw [hclock]
  dsimp only
  rcases judge_spec ho hr hnow hfetched h.query_encodable with
    ⟨code, hjudge, hcode⟩ | ⟨entrant, query, count, hjudge, hadmits⟩
  · rw [hjudge]
    dsimp only
    obtain ⟨response, event, hrecord, hstate, herror, hresults, hevent⟩ :=
      record_of (f := ⟨some code, false, []⟩) ho hr (encodable_isoformat now) h.entrant_encodable h.number_printable
        h.query_encodable (by simp) (by
          intro c hmem
          cases hmem
          exact hcode)
    rw [hrecord]
    refine ⟨⟨⟨response, event, rfl, rfl⟩, fun _ _ _ => rfl, ?_⟩, hr.append hevent.hash, ?_, hc.within⟩
    · intro answer hanswer hattempted
      cases hanswer
      exact absurd hstate hattempted
    · intro name
      dsimp only
      rw [attemptNumbers_append, isAttempt_rejected hevent, if_neg Bool.false_ne_true, List.append_nil]
      exact hc.numbers name
  · rw [hjudge]
    dsimp only
    have hcounted : Tied opened (r.countCall entrant) :=
      ⟨hr.epoch_eq, hr.config_eq, hr.configFingerprint_eq, hr.epochFingerprint_eq, hr.docs_eq, hr.hash_digestible⟩
    have hanswer : (r.countCall entrant).runQuery fts query = opened.runQuery fts query := by
      unfold Retriever.runQuery
      rw [hcounted.docs_eq, hcounted.config_eq]
    obtain ⟨hresults, hcodes⟩ := runQuery_digestible (r.countCall entrant) fts query
    obtain ⟨response, event, hrecord, hstate, herror, hfound, hevent⟩ :=
      record_of (f := ⟨((r.countCall entrant).runQuery fts query).1, true, ((r.countCall entrant).runQuery fts query).2⟩)
        ho hcounted (encodable_isoformat now) h.entrant_encodable h.number_printable h.query_encodable hresults hcodes
    rw [hrecord]
    refine ⟨⟨⟨response, event, rfl, rfl⟩, ?_, ?_⟩, hcounted.append hevent.hash, hc.attempt hr.config_eq hadmits hevent⟩
    · intro answer hgiven hrejected
      cases hgiven
      rw [hstate] at hrejected
      unfold Finding.state at hrejected
      exfalso
      split_ifs at hrejected with _ hattempted
      · exact absurd hrejected (by decide +kernel)
      · exact absurd hrejected (by decide +kernel)
      · exact hattempted rfl
    · intro answer hgiven _
      cases hgiven
      refine ⟨query, hadmits.query_eq, ?_⟩
      rw [herror, hfound, ← hanswer]

/-- The budgets and the turns hold of every retriever that is reached. -/
theorem searched_invariant {fts : Fts5} {opened r : Retriever} (ho : Opened opened) (h : Searched fts opened r) :
    Tied opened r ∧ Counted opened r := by
  induction h with
  | opened =>
    refine ⟨⟨rfl, rfl, rfl, rfl, rfl, ?_⟩, ?_, ?_⟩
    · rw [ho.provenance_nil]
      simp [lastHash]
    · intro entrant
      rw [ho.provenance_nil, ho.counts_zero]
      rfl
    · intro entrant
      rw [ho.counts_zero]
      exact Nat.zero_le _
  | search clock request _ hanswerable ih => exact (search_step ho ih.1 ih.2 hanswerable).2

/-- Every answerable call is answered and recorded, in turn and within the budget. -/
theorem search_accounted {fts : Fts5} {identity : Except PyExc Json} {epoch : Epoch} {expectedRuntime : Json}
    {entrants : List PyStr} {maxCalls maxResults : Json} {opened r : Retriever}
    (hopened : openRetriever identity epoch expectedRuntime entrants maxCalls maxResults = .ok opened)
    (hreached : Searched fts opened r) {clock : Except PyExc Json} {request : SearchRequest}
    (h : Answerable r clock request) :
    Answered fts opened r request (r.search fts clock request) ∧
      InTurn opened.config.maxCalls (r.search fts clock request).2.provenance := by
  have ho := opened_of hopened
  obtain ⟨hr, hc⟩ := searched_invariant ho hreached
  obtain ⟨hanswered, -, hcounted⟩ := search_step ho hr hc h
  refine ⟨hanswered, ?_⟩
  intro entrant
  exact ⟨_, hcounted.within entrant, hcounted.numbers entrant⟩

end Step

end Runs

section Frozen

open Python.Ascii

def frozenEpoch : Epoch where
  epochId := "epoch-1"
  sourceId := "synthetic-rss"
  fetchedAt := "2026-07-06T12:05:06+00:00"
  policyFingerprint := "policy"
  payloadHash := "payload"
  records := []
  duplicateCount := 0
  previousFingerprint := none
  parserVersion := parserVersion

def frozenRuntime : Json := .obj [("fts5", .bool true)]

/-- A table without rows. -/
def frozenFts : Fts5 where
  select _ _ _ := .ok []
  rows_encodable _ _ _ _ hfound row hrow := by
    cases hfound
    cases hrow
  rows_countable _ _ _ _ hfound := by
    cases hfound
    decide

def frozenOpened : Except PyExc Retriever :=
  openRetriever (.ok frozenRuntime) frozenEpoch frozenRuntime ["fixture-a", "fixture-b"] (.int 4) (.int 10)

def frozenRetriever : Retriever := frozenOpened.toOption.get (by decide +kernel)

theorem frozenOpened_eq : frozenOpened = .ok frozenRetriever := by
  have hsome : frozenOpened.toOption = some frozenRetriever := (Option.some_get _).symm
  cases h : frozenOpened with
  | error e =>
    rw [h] at hsome
    cases hsome
  | ok r =>
    rw [h] at hsome
    exact congrArg Except.ok (Option.some.inj hsome)

def frozenRequest (query : PyStr) : SearchRequest := ⟨.str "fixture-a", .int 1, .str query⟩

theorem answerable_frozen : Answerable frozenRetriever frozenClock (frozenRequest "jobs") where
  clock_aware := ⟨1783339506000000, by decide +kernel, by decide +kernel⟩
  epoch_aware := ⟨1783339506000000, by decide +kernel⟩
  entrant_encodable entrant hentrant := by
    cases hentrant
    decide +kernel
  number_printable number hnumber := by
    cases hnumber
    exact intPrintable_of_small (by decide)
  query_encodable query hquery := by
    cases hquery
    decide +kernel

/-- The first call of an entrant. -/
theorem search_accounted_frozen :
    InTurn frozenRetriever.config.maxCalls (frozenRetriever.search frozenFts frozenClock (frozenRequest "jobs")).2.provenance ∧
      (frozenRetriever.search frozenFts frozenClock (frozenRequest "jobs")).2.provenance.length = 1 :=
  ⟨(search_accounted frozenOpened_eq Searched.opened answerable_frozen).2, by decide +kernel⟩

/-- The same call with a lone surrogate for its query: no answer and no event. -/
theorem surrogate_query_unanswered :
    ¬Answered frozenFts frozenRetriever frozenRetriever (frozenRequest [0xD800])
      (frozenRetriever.search frozenFts frozenClock (frozenRequest [0xD800])) := by
  have hnone : (frozenRetriever.search frozenFts frozenClock (frozenRequest [0xD800])).1.isOk = false := by
    decide +kernel
  rintro ⟨⟨response, event, hresponse, -⟩, -, -⟩
  rw [hresponse] at hnone
  cases hnone

end Frozen

end EvaluationLab.CSLive
