import EvaluationLab.BM0.Grid

/-! The records of human adjudicators and their resolution under the frozen plan. -/
namespace EvaluationLab.BM0
open Python Effect QA0

/-- What a model judge contributed before the human decision; it is never the final authority. -/
structure JudgeAssistance where
  judgeId : PyStr
  judgeVersion : PyStr
  judgeConfigurationFingerprint : PyStr
  calibrationSetFingerprint : PyStr
  knownBadControlReceiptFingerprint : PyStr
  judgeErrorAuditFingerprint : PyStr

inductive RoundRole where
  | primary | tiebreak
  deriving DecidableEq

def RoundRole.text : RoundRole → PyStr
  | primary => "PRIMARY"
  | tiebreak => "TIEBREAK"

inductive RecordStatus where
  | completed | error
  deriving DecidableEq

def RecordStatus.text : RecordStatus → PyStr
  | completed => "COMPLETED"
  | error => "ERROR"

inductive Decision where
  | pass | fail | unknown
  deriving DecidableEq

/-- A decision is the terminal of the same name. -/
def Decision.terminal : Decision → Terminal
  | pass => .pass
  | fail => .fail
  | unknown => .unknown

/-- The record of one adjudicator. Its schema, human authority and absence of conflict are constants. -/
structure AdjudicationRecord where
  adjudicationId : PyStr
  studyId : PyStr
  attemptId : PyStr
  itemAlias : PyStr
  metricId : PyStr
  roundRole : RoundRole
  adjudicatorId : PyStr
  adjudicatorConfigurationFingerprint : PyStr
  llmJudgeAssistance : Option JudgeAssistance
  recordStatus : RecordStatus
  decision : Option Decision
  blindToModelIdentity : Bool
  blindToProviderIdentity : Bool
  blindToPeerDecisions : Bool
  blindToLlmAssistanceBeforeDecision : Bool
  rubricVersion : PyStr
  rubricFingerprint : PyStr
  evidenceComplete : Bool
  rationaleCode : PyStr
  recordFingerprint : PyStr

def JudgeAssistance.fingerprints (a : JudgeAssistance) : List (PyStr × PyStr) := [
  ("judge_configuration_fingerprint", a.judgeConfigurationFingerprint),
  ("calibration_set_fingerprint", a.calibrationSetFingerprint),
  ("known_bad_control_receipt_fingerprint", a.knownBadControlReceiptFingerprint),
  ("judge_error_audit_fingerprint", a.judgeErrorAuditFingerprint)]

def JudgeAssistance.toJson (a : JudgeAssistance) : Json := .obj [
  ("judge_id", .str a.judgeId), ("judge_version", .str a.judgeVersion),
  ("judge_configuration_fingerprint", .str a.judgeConfigurationFingerprint),
  ("calibration_set_fingerprint", .str a.calibrationSetFingerprint),
  ("known_bad_control_receipt_fingerprint", .str a.knownBadControlReceiptFingerprint),
  ("judge_error_audit_fingerprint", .str a.judgeErrorAuditFingerprint), ("final_authority", .bool false)]

/-- The record without its fingerprint. -/
def AdjudicationRecord.fields (r : AdjudicationRecord) : List (PyStr × Json) := [
  ("schema_version", .str "b2-bm0-adjudication-record/v1"), ("adjudication_id", .str r.adjudicationId),
  ("study_id", .str r.studyId), ("attempt_id", .str r.attemptId), ("item_alias", .str r.itemAlias),
  ("metric_id", .str r.metricId), ("round_role", .str r.roundRole.text), ("adjudicator_type", .str "HUMAN"),
  ("authority_role", .str "BLINDED_INDEPENDENT_HUMAN_REVIEW"), ("adjudicator_id", .str r.adjudicatorId),
  ("adjudicator_configuration_fingerprint", .str r.adjudicatorConfigurationFingerprint),
  ("llm_judge_assistance", (r.llmJudgeAssistance.map JudgeAssistance.toJson).getD .null),
  ("record_status", .str r.recordStatus.text),
  ("decision", optionalText (r.decision.map fun d => d.terminal.text)),
  ("blind_to_model_identity", .bool r.blindToModelIdentity),
  ("blind_to_provider_identity", .bool r.blindToProviderIdentity),
  ("blind_to_peer_decisions", .bool r.blindToPeerDecisions),
  ("blind_to_llm_assistance_before_decision", .bool r.blindToLlmAssistanceBeforeDecision),
  ("rubric_version", .str r.rubricVersion), ("rubric_fingerprint", .str r.rubricFingerprint),
  ("evidence_complete", .bool r.evidenceComplete), ("conflict_status", .str "NONE"),
  ("rationale_code", .str r.rationaleCode)]

def AdjudicationRecord.toJson (r : AdjudicationRecord) : Json :=
  sealDocument r.fields "record_fingerprint" r.recordFingerprint

def AdjudicationRecord.identifiers (r : AdjudicationRecord) : List (PyStr × PyStr) := [
  ("adjudication_id", r.adjudicationId), ("study_id", r.studyId), ("attempt_id", r.attemptId),
  ("item_alias", r.itemAlias), ("metric_id", r.metricId), ("adjudicator_id", r.adjudicatorId),
  ("rubric_version", r.rubricVersion), ("rationale_code", r.rationaleCode)]

def checkJudgeAssistance (a : JudgeAssistance) : Except PyExc Unit := do
  let label := py "adjudication-record.llm_judge_assistance"
  checkIdentifier label "judge_id" a.judgeId
  checkIdentifier label "judge_version" a.judgeVersion
  a.fingerprints.forM fun f => requireSha256 f.2 (label ++ py "." ++ f.1)

/-- The decision and the evidence of a record follow its status. -/
def checkDecision (r : AdjudicationRecord) : Except PyExc Unit :=
  match r.recordStatus with
  | .completed => do
    check (r.decision ≠ none) (valueError "completed adjudication requires a decision")
    check ((r.decision = some .pass ∨ r.decision = some .fail) → r.evidenceComplete = true)
      (valueError "PASS/FAIL adjudication requires complete evidence")
    check (r.decision = some .unknown → r.evidenceComplete = false)
      (valueError "UNKNOWN adjudication must preserve missing evidence")
  | .error =>
    check (r.decision = none ∧ r.evidenceComplete = false)
      (valueError "adjudication ERROR cannot carry a decision or complete evidence")

/-- The human adjudicator a record names. -/
def AdjudicationRecord.assignment (r : AdjudicationRecord) : Assignment :=
  ⟨r.adjudicatorId, r.adjudicatorConfigurationFingerprint⟩

/-- What is reported of the agreement between the adjudicators. -/
structure AgreementReport where
  primaryHumanRecordCount : ℕ
  completedPrimaryHumanRecordCount : ℕ
  exactAgreement : Option Bool
  rawAgreementRate : Option ℚ
  disagreementEscalated : Bool
  tiebreakHumanRecordCount : ℕ
  llmJudgeAssistanceRecordCount : ℕ
  auditableFinalLabel : Bool

/-- `resolve_adjudication_v1`'s result. -/
structure AdjudicationResolution where
  terminalStatus : Terminal
  reason : PyStr
  decision : Option Decision
  agreementReport : AgreementReport

/-- `_adjudication_resolution_result`. -/
def adjudicationResolutionResult (terminalStatus : Terminal) (reason : PyStr) (decision : Option Decision)
    (primaries tiebreakers : List AdjudicationRecord) : AdjudicationResolution :=
  let completed := primaries.filter fun r => r.recordStatus = .completed
  let agreement : Option Bool := match completed with
    | [first, second] => some (first.decision = second.decision)
    | _ => none
  { terminalStatus
    reason
    decision
    agreementReport := {
      primaryHumanRecordCount := primaries.length
      completedPrimaryHumanRecordCount := completed.length
      exactAgreement := agreement
      rawAgreementRate := agreement.map fun agreed => if agreed then 1 else 0
      disagreementEscalated := agreement = some false ∧ tiebreakers.length = 1
      tiebreakHumanRecordCount := tiebreakers.length
      llmJudgeAssistanceRecordCount :=
        (primaries ++ tiebreakers).countP fun r => r.llmJudgeAssistance.isSome
      auditableFinalLabel := (decision = some .pass ∨ decision = some .fail) ∧
        some terminalStatus = decision.map Decision.terminal } }

/-- The identity fields all records of one resolution share, with what they are called. -/
def adjudicationIdentityFields : List (PyStr × (AdjudicationRecord → PyStr)) := [
  ("study_id", AdjudicationRecord.studyId), ("attempt_id", AdjudicationRecord.attemptId),
  ("item_alias", AdjudicationRecord.itemAlias), ("metric_id", AdjudicationRecord.metricId),
  ("rubric_version", AdjudicationRecord.rubricVersion),
  ("rubric_fingerprint", AdjudicationRecord.rubricFingerprint)]

/-- The records are about an attempt, a metric and a rubric of the plan. -/
def checkAdjudicated (planned : List TrialIdentity) (plan : AdjudicationPlan) (first : AdjudicationRecord) :
    Except PyExc Unit := do
  let attempt ← require (attemptOf planned first.attemptId)
    (valueError "adjudication references an unplanned attempt")
  check (first.studyId = attempt.studyId)
    (valueError "adjudication study does not match the planned attempt")
  check (first.itemAlias = attempt.corpusItemAlias)
    (valueError "adjudication item alias does not match the planned attempt")
  check (first.metricId ∈ plan.metricIds.map MetricId.text)
    (valueError "adjudication metric is absent from the frozen plan")
  check (first.rubricVersion = plan.rubricVersion ∧ first.rubricFingerprint = plan.rubricFingerprint)
    (valueError "adjudication rubric drifted from the frozen plan")

/-- The adjudicators are those of the plan, each in its own round. -/
def checkAdjudicators (plan : AdjudicationPlan) (rows primaries tiebreakers : List AdjudicationRecord) :
    Except PyExc Unit := do
  check (rows.map AdjudicationRecord.adjudicatorId).Nodup
    (valueError "adjudicators must be distinct across all rounds")
  check (∀ r ∈ primaries, r.assignment ∈ plan.primaryAdjudicators)
    (valueError "an unplanned primary adjudicator was supplied")
  check (tiebreakers.length ≤ 1) (valueError "at most one predeclared tiebreak adjudicator is allowed")
  check (∀ r ∈ tiebreakers.head?, r.assignment = plan.tiebreakAdjudicator)
    (valueError "an unplanned tiebreak adjudicator was supplied")
  check (primaries.length ≤ 2) (valueError "at most two predeclared primary adjudicators are allowed")

/-- The tiebreak between two verdicts. -/
def resolveDisputed (primaries tiebreakers : List AdjudicationRecord) : Except PyExc AdjudicationResolution :=
  let result := fun terminal reason decision =>
    adjudicationResolutionResult terminal reason decision primaries tiebreakers
  match tiebreakers with
  | [tiebreaker] =>
    if tiebreaker.recordStatus = .error then
      return result .error "ADJUDICATION_INFRASTRUCTURE_ERROR" none
    else if tiebreaker.decision = some .unknown then
      return result .unknown "TIEBREAK_INSUFFICIENT_EVIDENCE" none
    else
      return result ((tiebreaker.decision.map Decision.terminal).getD .unknown) "PREDECLARED_TIEBREAK"
        tiebreaker.decision
  | _ => return result .unknown "PRIMARY_DISAGREEMENT_REQUIRES_TIEBREAK" none

/-- The decisions of both primaries: insufficient evidence, agreement, or a dispute. -/
def resolveReported (primaries tiebreakers : List AdjudicationRecord) : Except PyExc AdjudicationResolution :=
  let result := fun terminal reason decision =>
    adjudicationResolutionResult terminal reason decision primaries tiebreakers
  if ∃ r ∈ primaries, r.decision = some .unknown then do
    check (tiebreakers.length = 0)
      (valueError "a tiebreaker cannot convert insufficient evidence into PASS or FAIL")
    return result .unknown "PRIMARY_INSUFFICIENT_EVIDENCE" none
  else if ∀ r ∈ primaries, ∀ s ∈ primaries, r.decision = s.decision then do
    check (tiebreakers.length = 0) (valueError "a tiebreaker is forbidden when primaries agree")
    let decision := primaries.head?.bind AdjudicationRecord.decision
    return result ((decision.map Decision.terminal).getD .unknown) "PRIMARY_AGREEMENT" decision
  else resolveDisputed primaries tiebreakers

/-- The rounds in order: errors and missing primaries first, then what both primaries decided. -/
def resolveRounds (plan : AdjudicationPlan) (primaries tiebreakers : List AdjudicationRecord) :
    Except PyExc AdjudicationResolution :=
  let result := fun terminal reason decision =>
    adjudicationResolutionResult terminal reason decision primaries tiebreakers
  if ∃ r ∈ primaries, r.recordStatus = .error then do
    check (tiebreakers.length = 0) (valueError "a tiebreaker is forbidden when a primary adjudication errored")
    return result .error "ADJUDICATION_INFRASTRUCTURE_ERROR" none
  else if primaries.length ≠ 2 then do
    check (tiebreakers.length = 0) (valueError "a tiebreaker requires both predeclared primary adjudications")
    return result .unknown "INCOMPLETE_OR_AMBIGUOUS_ADJUDICATION_SET" none
  else do
    check (∀ a ∈ plan.primaryAdjudicators, a ∈ primaries.map AdjudicationRecord.assignment)
      (valueError "the primary adjudicator set drifted from the frozen plan")
    resolveReported primaries tiebreakers

variable [PyRuntime]

def validateAdjudicationRecord (r : AdjudicationRecord) : Except PyExc Unit := do
  let label := py "adjudication-record"
  checkIdentifiers label r.identifiers
  requireSha256 r.adjudicatorConfigurationFingerprint "adjudicator_configuration_fingerprint"
  r.llmJudgeAssistance.toList.forM checkJudgeAssistance
  check (r.blindToModelIdentity ∧ r.blindToProviderIdentity ∧ r.blindToPeerDecisions ∧
      r.blindToLlmAssistanceBeforeDecision)
    (valueError "adjudication must remain blind to identity and peer decisions")
  requireSha256 r.rubricFingerprint "rubric_fingerprint"
  checkDecision r
  assertPublicSafe r.toJson
  verifyFingerprint r.recordFingerprint (.obj r.fields) "record_fingerprint" label

def resolveAdjudication (m : BenchmarkManifest) (expected : ArtifactFingerprints)
    (records : List AdjudicationRecord) : Except PyExc AdjudicationResolution := do
  validateBenchmarkManifest m (some expected)
  check (m.studyState = .frozen) (valueError "adjudication resolution requires a FROZEN manifest")
  let plan ← require m.adjudicationPlan (valueError "frozen manifest is missing its adjudication plan")
  records.forM validateAdjudicationRecord
  match records with
  | [] => return adjudicationResolutionResult .unknown "MISSING_PRIMARY_ADJUDICATIONS" none [] []
  | first :: _ => do
    adjudicationIdentityFields.forM fun f =>
      check (∀ r ∈ records, ∀ s ∈ records, f.2 r = f.2 s)
        (valueError (py "adjudication records disagree on " ++ f.1))
    checkAdjudicated m.plannedAttempts plan first
    let primaries := records.filter fun r => r.roundRole = .primary
    let tiebreakers := records.filter fun r => r.roundRole = .tiebreak
    checkAdjudicators plan records primaries tiebreakers
    resolveRounds plan primaries tiebreakers

end EvaluationLab.BM0
