import EvaluationLab.BM1.KeptEvidence

/-! `replay_scorer`: the private record of a receipt is read back, held against the fingerprints of
the receipt, and scored again. -/
namespace EvaluationLab.BM1
open Python Effect QA0

section Model

structure ReplayRow where
  manifestId : PyStr
  manifestFingerprint : PyStr
  attemptId : PyStr
  sourcePublicReceiptFingerprint : PyStr
  sourceRawResponseFingerprint : Option PyStr
  scorerFingerprint : PyStr
  oracleFingerprint : PyStr
  terminalStatus : Terminal
  modelFailureValue : Option ℤ
  hardInvariantPass : Option Bool

def ReplayRow.toJson (r : ReplayRow) : Json := .obj [
  ("schema_version", .str "b2-bm1-scorer-replay-receipt/v1"), ("manifest_id", .str r.manifestId),
  ("manifest_fingerprint", .str r.manifestFingerprint), ("attempt_id", .str r.attemptId),
  ("source_public_receipt_fingerprint", .str r.sourcePublicReceiptFingerprint),
  ("source_raw_response_fingerprint", optionalStr r.sourceRawResponseFingerprint),
  ("scorer_id", .str scorerId), ("scorer_fingerprint", .str r.scorerFingerprint),
  ("oracle_id", .str oracleId), ("oracle_fingerprint", .str r.oracleFingerprint),
  ("terminal_status", .str r.terminalStatus.text), ("model_failure_value", optionalNumber r.modelFailureValue),
  ("hard_invariant_pass", optionalBool r.hardInvariantPass)]

structure ReplayReceipt extends ReplayRow where
  replayFingerprint : PyStr

variable [PyRuntime]

/-- `read_for_replay` of either sink. -/
def readForReplay (attemptId : PyStr) : Action PrivateRecord := do
  match ← perform (.readRecord attemptId) with
  | .error e => throw e
  | .ok none => throw (contractError "private replay not found")
  | .ok (some record) => return record

def checkRequestBody (record : PrivateRecord) (row : Receipt) : Except PyExc Unit :=
  match record.requestBody with
  | .obj request => do
    let fingerprint ← sha256Json (.obj request)
    check (row.requestFingerprint = fingerprint) (contractError "private request replay mismatch")
  | _ => .error (contractError "private request replay mismatch")

def checkRawResponse (record : PrivateRecord) (row : Receipt) : Except PyExc Unit :=
  match record.rawResponse with
  | none => .ok ()
  | some raw => do
    let fingerprint ← sha256Json (.obj raw)
    check (row.rawResponseFingerprint = some fingerprint) (contractError "private raw replay mismatch")

def checkFinalText (record : PrivateRecord) (row : Receipt) : Except PyExc PyStr :=
  match record.finalText with
  | none => .error (contractError "private final replay mismatch")
  | some text => do
    let fingerprint ← shaText text
    check (row.finalContentFingerprint = some fingerprint) (contractError "private final replay mismatch")
    return text

/-- A private record against the fingerprints of its receipt; its final text is what is scored. -/
def checkPrivate (record : PrivateRecord) (row : Receipt) : Except PyExc PyStr := do
  checkRequestBody record row
  checkRawResponse record row
  checkFinalText record row

/-- The replay of a checked text. -/
def replayText (m : Manifest) (cases : CaseLookup) (attempt : Attempt) (row : Receipt) (text : PyStr) :
    Except PyExc ReplayReceipt := do
  let case ← caseOf cases attempt.caseId
  let score ← scoreE11Output case text
  let scorerFingerprint ← scorerFingerprint
  let oracleFingerprint ← oracleFingerprint
  let replay : ReplayRow := {
    manifestId := m.manifestId
    manifestFingerprint := m.manifestFingerprint
    attemptId := row.attemptId
    sourcePublicReceiptFingerprint := row.receiptFingerprint
    sourceRawResponseFingerprint := row.rawResponseFingerprint
    scorerFingerprint, oracleFingerprint
    terminalStatus := score.terminalStatus
    modelFailureValue := score.modelFailureValue
    hardInvariantPass := score.hardInvariantPass }
  assertPublicSafe replay.toJson
  let replayFingerprint ← sha256Json replay.toJson
  return { replay with replayFingerprint }

def replayScorer (m : Manifest) (cases : CaseLookup) (row : Receipt) : Action ReplayReceipt := do
  let checked ← raiseError (validateManifest m (some cases))
  match checked.attemptPlan.find? fun attempt => attempt.attemptId = row.attemptId with
  | none => throw (contractError "manifest/attempt replay mismatch")
  | some attempt =>
    raiseError (check (row.manifestFingerprint = checked.manifestFingerprint)
      (contractError "manifest/attempt replay mismatch"))
    let record ← readForReplay row.attemptId
    raiseError (checkPrivate record row >>= replayText checked cases attempt row)

end Model

section Runs

variable [PyRuntime] {R : Runner} {w w' u : World} {row : Receipt} {record : PrivateRecord}

omit [PyRuntime] in
/-- A kept record reads back, and reading changes nothing. -/
theorem exec_readForReplay {attemptId : PyStr} {α : Type} {f : PrivateRecord → Action α} {r : Except PyExc α}
    (hlookup : w.2.records.lookup attemptId = some record) :
    Procedure.Exec environment (readForReplay attemptId >>= f) w r u ↔ Procedure.Exec environment (f record) w r u := by
  have hread : ∀ answer v, environment.step w (.readRecord attemptId) answer v ↔ answer = .ok (some record) ∧ v = w := by
    intro answer v
    show v = w ∧ ReadRecord w.2 attemptId answer ↔ _
    rw [ReadRecord, hlookup]
    exact and_comm
  constructor
  · rintro (_ | ⟨hstep, hexec⟩)
    obtain ⟨rfl, rfl⟩ := (hread _ _).mp hstep
    exact hexec
  · intro hexec
    exact .ask ((hread _ _).mpr ⟨rfl, rfl⟩) hexec

omit [PyRuntime] in
theorem exec_raiseError {α : Type} {x r : Except PyExc α} :
    Procedure.Exec environment (raiseError x) w r u ↔ r = x ∧ u = w := by
  constructor
  · rintro (_ | _)
    exact ⟨rfl, rfl⟩
  · rintro ⟨rfl, rfl⟩
    exact .done _ _

/-- A text with a content digest is encoded by it; only empty text has none. -/
theorem contentDigest_some {text : PyStr} {fp : Option PyStr} {n : ℕ} (h : contentDigest (some text) = .ok (fp, n)) :
    (text = [] ∧ fp = none) ∨ ∃ digest, fp = some digest ∧ shaText text = .ok digest := by
  unfold contentDigest at h
  dsimp only at h
  split_ifs at h with hempty
  · simp only [Except.ok.injEq, Prod.mk.injEq] at h
    exact .inl ⟨hempty, h.1.symm⟩
  · simp only [bind_eq_ok_iff, pure_eq_ok_iff, Prod.mk.injEq] at h
    obtain ⟨bytes, hbytes, hfp, -⟩ := h
    exact .inr ⟨_, hfp.symm, by simp [shaText, hbytes, bind, Except.bind, pure, Except.pure]⟩

theorem Describes.checkRequestBody (h : Describes row record) : checkRequestBody record row = .ok () := by
  obtain ⟨request, hrequest⟩ := h.body
  have hbody := h.request
  rw [hrequest] at hbody
  simp only [BM1.checkRequestBody, hrequest, bind_eq_ok_iff, check_eq_ok_iff]
  exact ⟨_, hbody, rfl⟩

theorem Describes.checkRawResponse (h : Describes row record) : checkRawResponse record row = .ok () := by
  have hresponse := h.response
  unfold BM1.checkRawResponse
  cases hraw : record.rawResponse with
  | none => rfl
  | some raw =>
    simp only [hraw, Option.map_some, optionalDigest, bind_eq_ok_iff, pure_eq_ok_iff] at hresponse
    obtain ⟨digest, hdigest, heq⟩ := hresponse
    simp only [bind_eq_ok_iff, check_eq_ok_iff]
    exact ⟨digest, hdigest, heq.symm⟩

/-- A record with final content passes every comparison with the receipt that describes it. -/
theorem Describes.checkPrivate (h : Describes row record) {text : PyStr} (htext : record.finalText = some text)
    (hnonempty : text ≠ []) : checkPrivate record row = .ok text := by
  have hfinal := h.final
  rw [htext] at hfinal
  rcases contentDigest_some hfinal with ⟨hempty, -⟩ | ⟨digest, hfp, hdigest⟩
  · exact absurd hempty hnonempty
  · simp only [BM1.checkPrivate, bind_eq_ok_iff, exists_unit_iff]
    refine ⟨h.checkRequestBody, h.checkRawResponse, ?_⟩
    simp only [checkFinalText, htext, bind_eq_ok_iff, exists_unit_iff, check_eq_ok_iff, pure_eq_ok_iff]
    exact ⟨digest, hdigest, hfp, trivial⟩

/-- Without final content a record is refused, although its receipt may call it available. -/
theorem Describes.checkPrivate_empty (h : Describes row record) (hnone : row.finalContentFingerprint = none) :
    BM1.checkPrivate record row = .error (contractError "private final replay mismatch") := by
  have hfinal := h.final
  have hrefused : checkFinalText record row = .error (contractError "private final replay mismatch") := by
    unfold checkFinalText
    cases htext : record.finalText with
    | none => rfl
    | some text =>
      rw [htext, hnone] at hfinal
      rcases contentDigest_some hfinal with ⟨rfl, -⟩ | ⟨digest, hfp, -⟩
      · have hempty : ∃ digest, shaText [] = .ok digest := ⟨_, rfl⟩
        obtain ⟨digest, hdigest⟩ := hempty
        simp [hdigest, hnone, check, bind, Except.bind]
      · cases hfp
  rw [BM1.checkPrivate, h.checkRequestBody, h.checkRawResponse, hrefused]
  rfl

/-- The ids of an accepted manifest may be published. -/
theorem Manifest.Valid.names_clean {m : Manifest} {cases : CaseLookup} (hv : m.Valid cases) {attempt : Attempt}
    (hattempt : attempt ∈ m.attemptPlan) : CleanText m.manifestId ∧ CleanText attempt.attemptId := by
  have hobj : CleanJson m.toJson := hv.clean
  rw [Manifest.toJson, cleanJson_obj_iff] at hobj
  have hid : CleanJson (.str m.manifestId) := hobj.2 _ (by simp [Manifest.fields])
  have hattempts : CleanJson (.arr (m.attemptPlan.map Attempt.toJson)) := hobj.2 _ (by simp [Manifest.fields])
  refine ⟨by simpa using hid, hattempts _ ?_⟩
  rw [texts, mem_itemTexts_map]
  exact ⟨attempt, hattempt, by simp [Attempt.toJson, texts, fieldTexts]⟩

/-- A number or flag of a replay can be printed. -/
private theorem optional_printable {score : Score} {case : Json} {text : PyStr} (h : scoreE11Output case text = .ok score) :
    intsPrintable (optionalNumber score.modelFailureValue) = true ∧
      intsPrintable (optionalBool score.hardInvariantPass) = true := by
  rcases scoreE11Output_ok h with ⟨-, rfl⟩ | ⟨decision, expected, -, -, rfl⟩
  · exact ⟨rfl, rfl⟩
  · exact ⟨decisionScore_printable _ rfl, rfl⟩

/-- The names a replay repeats may be published, so that only the score of its text decides. -/
theorem NamesAttempt.replayText (h : NamesAttempt R row) {attempt : Attempt} (hattempt : attempt ∈ R.manifest.attemptPlan)
    (hid : row.attemptId = attempt.attemptId) (hresponse : ∀ fp, row.rawResponseFingerprint = some fp → CleanText fp)
    {case : Json} {text : PyStr} {score : Score} (hcase : caseOf R.cases attempt.caseId = .ok case)
    (hscore : scoreE11Output case text = .ok score) :
    ∃ replay, replayText R.manifest R.cases attempt row text = .ok replay ∧
      replay.terminalStatus = score.terminalStatus ∧ replay.modelFailureValue = score.modelFailureValue ∧
      replay.hardInvariantPass = score.hardInvariantPass := by
  obtain ⟨-, ⟨scorer, hscorer⟩, oracle, horacle⟩ := R.valid.frozenFingerprints
  have hmanifest : CleanText R.manifest.manifestId ∧ CleanText attempt.attemptId := R.valid.names_clean hattempt
  have hschema : CleanText "b2-bm1-scorer-replay-receipt/v1" := cleanText_of_asciiClean (by decide +kernel)
  have hscorerId : CleanText scorerId := cleanText_of_asciiClean (by decide +kernel)
  have horacleId : CleanText oracleId := cleanText_of_asciiClean (by decide +kernel)
  have hclean : CleanJson (ReplayRow.toJson ⟨R.manifest.manifestId, R.manifest.manifestFingerprint, row.attemptId,
      row.receiptFingerprint, row.rawResponseFingerprint, scorer, oracle, score.terminalStatus, score.modelFailureValue,
      score.hardInvariantPass⟩) := by
    rw [ReplayRow.toJson, cleanJson_obj_iff]
    simp only [List.map_cons, List.map_nil]
    refine ⟨cleanTexts_of_asciiClean (by decide +kernel), ?_⟩
    simp only [List.forall_mem_cons, cleanJson_str, cleanJson_optionalStr, cleanJson_optionalNumber,
      cleanJson_optionalBool, hid, hmanifest, hschema, hscorerId, horacleId, R.valid.fingerprint_clean, h.fingerprint,
      score.terminalStatus.clean, sha256Json_clean hscorer, sha256Json_clean horacle, true_and]
    exact ⟨hresponse, by simp⟩
  obtain ⟨hvalue, hflag⟩ := optional_printable hscore
  have hprint : intsPrintable (ReplayRow.toJson ⟨R.manifest.manifestId, R.manifest.manifestFingerprint, row.attemptId,
      row.receiptFingerprint, row.rawResponseFingerprint, scorer, oracle, score.terminalStatus, score.modelFailureValue,
      score.hardInvariantPass⟩) = true := by
    have hstr : ∀ s, intsPrintable (.str s) = true := fun _ => rfl
    rw [ReplayRow.toJson, intsPrintable_obj]
    simp only [List.all_cons, List.all_nil, hstr, intsPrintable_optionalStr, hvalue, hflag, Bool.and_self]
  obtain ⟨hsafe, fp, hfp⟩ := (publishable_iff _).mpr ⟨hclean, hprint⟩
  refine ⟨⟨⟨R.manifest.manifestId, R.manifest.manifestFingerprint, row.attemptId, row.receiptFingerprint,
    row.rawResponseFingerprint, scorer, oracle, score.terminalStatus, score.modelFailureValue,
    score.hardInvariantPass⟩, fp⟩, ?_, rfl, rfl, rfl⟩
  simp only [BM1.replayText, bind_eq_ok_iff, exists_unit_iff, pure_eq_ok_iff]
  exact ⟨case, hcase, score, hscore, scorer, hscorer, oracle, horacle, hsafe, fp, hfp, rfl⟩

omit [PyRuntime] in
private theorem find?_of_nodup {α κ : Type} [DecidableEq κ] {key : α → κ} {xs : List α} (h : (xs.map key).Nodup)
    {x : α} (hx : x ∈ xs) : xs.find? (fun y => key y = key x) = some x := by
  cases hfind : xs.find? fun y => key y = key x with
  | none => simpa using List.find?_eq_none.mp hfind x hx
  | some y =>
    have hkey : key y = key x := by simpa using List.find?_some hfind
    rw [List.inj_on_of_nodup_map h (List.mem_of_find?_eq_some hfind) hx hkey]

/-- What a replay of a kept receipt does. -/
theorem exec_replayScorer (h : NamesAttempt R row) {attempt : Attempt} (hattempt : attempt ∈ R.manifest.attemptPlan)
    (hid : row.attemptId = attempt.attemptId) (hlookup : w.2.records.lookup row.attemptId = some record)
    {r : Except PyExc ReplayReceipt} : Procedure.Exec environment (replayScorer R.manifest R.cases row) w r u ↔
      r = (checkPrivate record row >>= BM1.replayText R.manifest R.cases attempt row) ∧ u = w := by
  have hfind : R.manifest.attemptPlan.find? (fun a => a.attemptId = row.attemptId) = some attempt := by
    rw [hid]
    exact find?_of_nodup R.valid.attemptIds_nodup hattempt
  have hmatches : check (row.manifestFingerprint = R.manifest.manifestFingerprint)
      (contractError "manifest/attempt replay mismatch") = .ok () := check_of h.manifest
  have hreads : replayScorer R.manifest R.cases row = (readForReplay row.attemptId >>= fun record =>
      raiseError (checkPrivate record row >>= BM1.replayText R.manifest R.cases attempt row)) := by
    unfold replayScorer
    rw [R.valid.validated]
    show (match R.manifest.attemptPlan.find? fun a => a.attemptId = row.attemptId with
      | none => _
      | some attempt => _) = _
    rw [hfind]
    dsimp only
    rw [hmatches]
    rfl
  rw [hreads, exec_readForReplay hlookup, exec_raiseError]

/-- Replaying a receipt of a run, whatever the run did: a receipt with a score is replayed to that
score, and to its terminal status unless the token guard replaced it; a receipt that is called
available without final content is refused. -/
theorem replay_agrees (hnew : w.1 = {}) (h : Reaches R w w') (hrow : row ∈ w'.1.receipts)
    (havailable : row.replayAvailable = true) :
    (row.scorerStatus ≠ none → ∃ replay, (∀ r u, Procedure.Exec environment (replayScorer R.manifest R.cases row) w' r u ↔
        r = .ok replay ∧ u = w') ∧
      replay.modelFailureValue = row.modelFailureValue ∧ replay.hardInvariantPass = row.hardInvariantPass ∧
      (row.terminalReason ≠ .costCeilingGuard → replay.terminalStatus = row.terminalStatus)) ∧
    (row.finalContentFingerprint = none → ∀ r u,
      Procedure.Exec environment (replayScorer R.manifest R.cases row) w' r u ↔
        r = .error (contractError "private final replay mismatch") ∧ u = w') := by
  have hnames := h.namesAttempt hnew row hrow
  obtain ⟨attempt, hattempt, hid, hcaseId⟩ := hnames.attempt
  rcases h.backed hnew row hrow with hbacked | hunbacked
  · obtain ⟨record, hrecord, hdescribes, hscored⟩ := hbacked.record
    constructor
    · intro hscorer
      obtain ⟨status, hstatus⟩ := Option.ne_none_iff_exists'.mp hscorer
      obtain ⟨score, ⟨text, case, htext, hblank, hcase, hscore⟩, hvalue, hhard, hterminal⟩ := hscored status hstatus
      have hnonempty : text ≠ [] := by
        rintro rfl
        exact hblank rfl
      rw [hcaseId] at hcase
      obtain ⟨replay, hreplay, hreplayed, hreplayedValue, hreplayedHard⟩ :=
        hnames.replayText hattempt hid (optionalDigest_clean hdescribes.response) hcase hscore
      refine ⟨replay, fun r u => ?_, hreplayedValue.trans hvalue.symm, hreplayedHard.trans hhard.symm, ?_⟩
      · rw [exec_replayScorer hnames hattempt hid hrecord, hdescribes.checkPrivate htext hnonempty]
        exact and_congr_left fun _ => by rw [← hreplay]; rfl
      · exact fun hguard => hreplayed.trans (hterminal hguard).symm
    · intro hnone r u
      rw [exec_replayScorer hnames hattempt hid hrecord, hdescribes.checkPrivate_empty hnone]
      rfl
  · rw [hunbacked.available] at havailable
    cases havailable

end Runs

section Frozen

open Python.Ascii

/-- The receipt of a passing response is replayed to its verdict. -/
theorem replay_agrees_frozen : ∃ w' row replay, Reaches frozenRunner ({}, Store.empty) w' ∧
    w'.1.receipts = [row] ∧ row.terminalStatus = .pass ∧ replay.terminalStatus = .pass ∧
    replay.modelFailureValue = some 0 ∧
    Procedure.Exec environment (replayScorer frozenManifest frozenCases row) w' (.ok replay) w' := by
  obtain ⟨t, evidence, row, -, -, -, hrow, hexec⟩ := frozen_passes
  have hreaches : Reaches frozenRunner ({}, Store.empty) _ := .runNext .start hexec
  obtain ⟨d, -, hd, -⟩ := receipt_row hrow
  have hpass : row.terminalStatus = .pass := by rw [hd]; rfl
  have hvalue : row.modelFailureValue = some 0 := by rw [hd]; rfl
  have hscored : row.scorerStatus ≠ none := by
    rw [hd]
    exact Option.some_ne_none _
  obtain ⟨replay, hreplays, hreplayed, -, hterminal⟩ :=
    (replay_agrees rfl hreaches (List.mem_singleton_self row) (by rw [hd]; rfl)).1 hscored
  refine ⟨_, row, replay, hreaches, rfl, hpass, ?_, hreplayed.trans hvalue, (hreplays _ _).mpr ⟨rfl, rfl⟩⟩
  exact (hterminal (by rw [hd]; exact Reason.noConfusion)).trans hpass

end Frozen

end EvaluationLab.BM1
