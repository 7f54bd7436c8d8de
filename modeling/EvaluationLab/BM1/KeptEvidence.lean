import EvaluationLab.BM1.Verdict
import EvaluationLab.BM1.EvidenceFacts
import EvaluationLab.BM1.Surroundings

/-! What the receipts of a run say about the private records behind them: a receipt with evidence
has its record in the sink for good, and repeats what was kept only as digests and counts. -/
namespace EvaluationLab.BM1
open Python Effect QA0

section Runs

variable [PyRuntime] {R : Runner} {w w' : World} {row : Receipt} {record : PrivateRecord}

/-- A receipt repeats this record by its digests and byte counts. -/
structure Describes (row : Receipt) (record : PrivateRecord) : Prop where
  body : ∃ fields, record.requestBody = .obj fields
  request : sha256Json record.requestBody = .ok row.requestFingerprint
  requestBytes : jsonBytes record.requestBody = .ok row.requestBytes
  response : optionalDigest (record.rawResponse.map Json.obj) = .ok row.rawResponseFingerprint
  responseBytes : responseBytesOf record.rawResponse = .ok row.rawResponseBytes
  final : contentDigest record.finalText = .ok (row.finalContentFingerprint, row.finalContentBytes)
  available : row.replayAvailable = record.finalText.isSome

/-- What the scorer said of the text of the record, as the receipt has it. The token guard only
replaces the terminal status. -/
structure ScoredFrom (R : Runner) (row : Receipt) (record : PrivateRecord) (score : Score) : Prop where
  text : ∃ text case, record.finalText = some text ∧ strip text ≠ [] ∧ caseOf R.cases row.caseId = .ok case ∧
    scoreE11Output case text = .ok score
  failureValue : row.modelFailureValue = score.modelFailureValue
  hardInvariant : row.hardInvariantPass = score.hardInvariantPass
  terminal : row.terminalReason ≠ .costCeilingGuard → row.terminalStatus = score.terminalStatus

/-- The receipt has its evidence: the sink holds the record that it describes. -/
structure Backed (R : Runner) (s : Store) (row : Receipt) : Prop where
  taken : row.attemptId ∈ s.recordNames
  record : ∃ record, s.records.lookup row.attemptId = some record ∧ Describes row record ∧
    ∀ status, row.scorerStatus = some status → ∃ score, ScoredFrom R row record score

/-- A receipt without evidence says nothing about a response and cannot be replayed. -/
structure Unbacked (row : Receipt) : Prop where
  response : row.rawResponseFingerprint = none
  scorer : row.scorerStatus = none
  available : row.replayAvailable = false

omit [PyRuntime] in
/-- A record under a taken name stays what it is. -/
theorem RecordsGrow.lookup {s s' : Store} {name : PyStr} (h : RecordsGrow s s') (hname : name ∈ s.recordNames) :
    name ∈ s'.recordNames ∧ s'.records.lookup name = s.records.lookup name := by
  rcases h with ⟨hrecords, hnames⟩ | ⟨fresh, record, hfresh, hrecords, hnames⟩
  · exact ⟨hnames hname, by rw [hrecords]⟩
  · have hne : name ≠ fresh := fun heq => hfresh (heq ▸ hname)
    refine ⟨by rw [hnames]; exact List.mem_cons_of_mem _ hname, ?_⟩
    rw [hrecords, List.lookup_cons, beq_false_of_ne hne]

theorem Backed.grow {s s' : Store} (h : Backed R s row) (hgrow : RecordsGrow s s') : Backed R s' row := by
  obtain ⟨hname, hlookup⟩ := hgrow.lookup h.taken
  obtain ⟨record, hrecord, hdescribes⟩ := h.record
  exact ⟨hname, record, hlookup.trans hrecord, hdescribes⟩

/-- A receipt names a planned attempt of its manifest. -/
structure NamesAttempt (R : Runner) (row : Receipt) : Prop where
  attempt : ∃ attempt ∈ R.manifest.attemptPlan, row.attemptId = attempt.attemptId ∧ row.caseId = attempt.caseId
  manifest : row.manifestFingerprint = R.manifest.manifestFingerprint
  fingerprint : CleanText row.receiptFingerprint

theorem NewReceipt.namesAttempt (h : NewReceipt R w w' row) : NamesAttempt R row := by
  obtain ⟨x, hnext⟩ := h.next
  obtain ⟨d, -, hd, hclean⟩ := receipt_row hnext.built
  refine ⟨⟨x.attempt, List.mem_of_getElem? hnext.current, ?_, ?_⟩, ?_, hclean⟩
  · rw [hd]
    rfl
  · rw [hd]
    rfl
  · rw [hd, ← hnext.manifest]
    rfl

theorem Reaches.namesAttempt (hnew : w.1 = {}) (h : Reaches R w w') : ∀ row ∈ w'.1.receipts, NamesAttempt R row := by
  refine h.runs.preserves (P := fun u => ∀ row ∈ u.1.receipts, NamesAttempt R row) ?_ ?_
  · intro row hrow
    rw [hnew] at hrow
    cases hrow
  · intro u v hu hmove row hrow
    rcases hmove.newReceipt with heq | ⟨row', heq, hreceipt⟩
    · exact hu row (heq ▸ hrow)
    · rw [heq] at hrow
      rcases List.mem_append.mp hrow with hrow | hrow
      · exact hu row hrow
      · rw [List.mem_singleton.mp hrow]
        exact hreceipt.namesAttempt

/-- A move adds at most one record, under a fresh name. -/
theorem Moves.recordsGrow (h : Moves R w w') : RecordsGrow w.2 w'.2 := by
  have hsame : ∀ {s : Store}, s.records = w.2.records → s.recordNames = w.2.recordNames → RecordsGrow w.2 s := by
    intro s hrecords hnames
    refine .inl ⟨hrecords, ?_⟩
    rw [hnames]
    exact fun _ => id
  cases h with
  | blocked _ _ _ _ => exact hsame rfl rfl
  | transaction h =>
    cases h with
    | refused hquiet => exact hsame hquiet.records hquiet.recordNames
    | ceiling _ => exact hsame rfl rfl
    | gate _ _ hquiet _ _ => exact hsame hquiet.records hquiet.recordNames
    | sent _ _ hquiet _ hconcludes =>
      have hrecords := hquiet.records
      have hnames := hquiet.recordNames
      cases hconcludes with
      | authorization _ _ => exact hsame hrecords hnames
      | escaped _ _ _ => exact hsame hrecords hnames
      | secret _ _ _ => exact hsame hrecords hnames
      | unkept _ hgrow _ _ => simpa only [RecordsGrow, afterSend, hrecords, hnames] using hgrow
      | kept _ hkeeps _ =>
        obtain ⟨hfresh, hkept, hkeptNames, -, -, -⟩ := hkeeps
        simp only [afterSend, hrecords, hnames] at hfresh hkept hkeptNames
        exact .inr ⟨_, _, hfresh, hkept, hkeptNames⟩

omit [PyRuntime] in
/-- The scorer of a receipted verdict is the one the judge consulted. -/
theorem guardedVerdict_scorer (p : Provider) (n : NormalizedProviderResponse) (v : Verdict) :
    (guardedVerdict p n v).scorer = v.scorer ∧
      ((guardedVerdict p n v).reason ≠ .costCeilingGuard → (guardedVerdict p n v).terminal = v.terminal) := by
  unfold guardedVerdict
  cases cost p n.inputTokens n.outputTokens with
  | ok amount => exact ⟨rfl, fun _ => rfl⟩
  | error e => exact ⟨rfl, fun h => absurd rfl h⟩

private theorem receiptDigests_bytes {x : ReceiptInput} {d : ReceiptDigests} (h : receiptDigests x = .ok d) :
    jsonBytes x.requestBody = .ok d.requestBytes := by
  simp only [receiptDigests, bind_eq_ok_iff, pure_eq_ok_iff] at h
  obtain ⟨_, -, _, -, _, -, _, -, _, -, _, -, requestBytes, hbytes, _, -, _, -, _, -, _, -, _, -, rfl⟩ := h
  exact hbytes

private theorem obj_of_build {p : Provider} {prompt : PyStr} {body : Json}
    (h : buildProviderRequest p prompt = .ok body) : ∃ fields, body = .obj fields := by
  unfold buildProviderRequest buildOpenaiRequest buildGoogleRequest at h
  split_ifs at h
  · simp only [bind_eq_ok_iff, exists_unit_iff, pure_eq_ok_iff] at h
    exact ⟨_, h.2.symm⟩
  · simp only [bind_eq_ok_iff, exists_unit_iff, pure_eq_ok_iff] at h
    exact ⟨_, h.2.symm⟩

private theorem prepareAttempt_body {attempt : Attempt} {t : Selected} (h : prepareAttempt R attempt = .ok t) :
    ∃ fields, t.body = .obj fields := by
  simp only [prepareAttempt, bind_eq_ok_iff, pure_eq_ok_iff] at h
  obtain ⟨provider, -, case, -, prompt, -, body, hbody, rfl⟩ := h
  exact obj_of_build hbody

/-- A new receipt has its evidence in the store, or has none. -/
theorem NewReceipt.backed (h : NewReceipt R w w' row) : Backed R w'.2 row ∨ Unbacked row := by
  cases h with
  | unscored hnext hscorer hevidence _ =>
    obtain ⟨d, -, hd, -⟩ := receipt_row hnext.built
    right
    constructor
    · rw [hd]
      simp [receiptRow, hevidence]
    · rw [hd]
      simp [receiptRow, hscorer]
    · rw [hd]
      simp [receiptRow, hevidence]
  | @settled t exchange raw n errorClass evidence s v completed hbegins _ _ _ _ _ _ hkeeps hjudge hnext =>
    left
    obtain ⟨d, hdigests, hd, -⟩ := receipt_row hnext.built
    obtain ⟨-, -, hfinal, hrequest, -⟩ := receiptDigests_sound hdigests
    obtain ⟨hprojects, -⟩ := evidenceReceipt_ok_iff.mp hkeeps.projected
    have hid : row.attemptId = t.attempt.attemptId := by rw [hd]; rfl
    have htaken : row.attemptId ∈ w'.2.recordNames := by
      rw [hid, hkeeps.recordNames]
      exact List.mem_cons_self
    have hlookup : w'.2.records.lookup row.attemptId =
        some ⟨t.body, raw, n.finalText, errorClass <|> n.errorClass⟩ := by
      rw [hid, hkeeps.records, List.lookup_cons, beq_self_eq_true]
    refine ⟨htaken, _, hlookup, ?_, ?_⟩
    · have hbytes := receiptDigests_bytes hdigests
      constructor
      · exact prepareAttempt_body hbegins.prepared
      · rw [hd]
        exact hrequest
      · rw [hd]
        exact hbytes
      · rw [hd]
        exact hprojects.response
      · rw [hd]
        exact hprojects.responseBytes
      · rw [hd]
        exact hfinal
      · rw [hd]
        simp [receiptRow, receiptInput]
    · intro status hstatus
      obtain ⟨hscorer, hguard⟩ := guardedVerdict_scorer t.provider n v
      have hv : v.scorer.map (·.scorerStatus) = some status := by
        rw [← hstatus, hd, ← hscorer]
        rfl
      obtain ⟨-, hcase⟩ := (prepareAttempt_ok hbegins.prepared).2
      cases judge_ok hjudge with
      | providerFailed _ => cases hv
      | notAuditable _ _ => cases hv
      | empty _ _ _ => cases hv
      | @scored text score _ _ htext hblank hscore =>
        refine ⟨score, ⟨text, t.case, htext, hblank, ?_, hscore⟩, ?_, ?_, ?_⟩
        · rw [hd]
          exact hcase
        · rw [hd]
          show (guardedVerdict t.provider n _).scorer.bind _ = _
          rw [hscorer]
          rfl
        · rw [hd]
          show (guardedVerdict t.provider n _).scorer.bind _ = _
          rw [hscorer]
          rfl
        · rw [hd]
          exact hguard

theorem Reaches.backed (hnew : w.1 = {}) (h : Reaches R w w') :
    ∀ row ∈ w'.1.receipts, Backed R w'.2 row ∨ Unbacked row := by
  refine h.runs.preserves (P := fun u => ∀ row ∈ u.1.receipts, Backed R u.2 row ∨ Unbacked row) ?_ ?_
  · intro row hrow
    rw [hnew] at hrow
    cases hrow
  · intro u v hu hmove row hrow
    have hold : ∀ row ∈ u.1.receipts, Backed R v.2 row ∨ Unbacked row :=
      fun row hrow => (hu row hrow).imp_left fun hbacked => hbacked.grow hmove.recordsGrow
    rcases hmove.newReceipt with heq | ⟨row', heq, hreceipt⟩
    · exact hold row (heq ▸ hrow)
    · rw [heq] at hrow
      rcases List.mem_append.mp hrow with hrow | hrow
      · exact hold row hrow
      · rw [List.mem_singleton.mp hrow]
        exact hreceipt.backed

/-- A record under a taken name stays in every later world. -/
theorem Reaches.lookup {name : PyStr} (h : Reaches R w w') (hname : name ∈ w.2.recordNames) :
    w'.2.records.lookup name = w.2.records.lookup name := by
  refine (h.runs.preserves (P := fun u => name ∈ u.2.recordNames ∧
    u.2.records.lookup name = w.2.records.lookup name) ⟨hname, rfl⟩ ?_).2
  rintro u v ⟨hu, hlookup⟩ hmove
  obtain ⟨hv, heq⟩ := hmove.recordsGrow.lookup hu
  exact ⟨hv, heq.trans hlookup⟩

/-- After any calls of a new runner, every receipt either has its evidence in the sink, where the
record that it describes stays whatever is called later, or tells nothing of a response. -/
theorem receipts_have_evidence (hnew : w.1 = {}) (h : Reaches R w w') : ∀ row ∈ w'.1.receipts,
    (∃ record, Describes row record ∧ ∀ u, Reaches R w' u → u.2.records.lookup row.attemptId = some record) ∨
    row.rawResponseFingerprint = none ∧ row.scorerStatus = none ∧ row.replayAvailable = false := by
  intro row hrow
  rcases h.backed hnew row hrow with hbacked | hunbacked
  · obtain ⟨record, hrecord, hdescribes, -⟩ := hbacked.record
    exact .inl ⟨record, hdescribes, fun u hu => (hu.lookup hbacked.taken).trans hrecord⟩
  · exact .inr ⟨hunbacked.response, hunbacked.scorer, hunbacked.available⟩

end Runs

section Frozen

open Python.Ascii

/-- The receipt of a passing response has its evidence, whatever is called afterwards. -/
theorem receipts_have_evidence_frozen : ∃ w' row, Reaches frozenRunner ({}, Store.empty) w' ∧
    w'.1.receipts = [row] ∧ row.terminalStatus = .pass ∧ ∃ record, Describes row record ∧
      ∀ u, Reaches frozenRunner w' u → u.2.records.lookup row.attemptId = some record := by
  obtain ⟨t, evidence, row, -, -, -, hrow, hexec⟩ := frozen_passes
  have hreaches : Reaches frozenRunner ({}, Store.empty) _ := .runNext .start hexec
  obtain ⟨d, -, hd, -⟩ := receipt_row hrow
  refine ⟨_, row, hreaches, rfl, by rw [hd]; rfl, ?_⟩
  rcases receipts_have_evidence rfl hreaches row (by simp) with hrecord | ⟨-, hscorer, -⟩
  · exact hrecord
  · rw [hd] at hscorer
    cases hscorer

end Frozen

end EvaluationLab.BM1
