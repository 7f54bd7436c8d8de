import EvaluationLab.SearchCup.Submission

/-! The judge of a match: frozen submissions scored against a hidden registry, in exact arithmetic. -/
namespace EvaluationLab.SearchCup
open Python Effect

section Registry

variable [PyRuntime]

/-- `url.strip().rstrip("/").lower()`. -/
def urlKey (url : PyStr) : PyStr := PyRuntime.lower ((strip url).rdropWhile (· = 47))

/-- `RegistryLeadAssessment`. -/
structure RegistryLeadAssessment where
  sourceUrl : PyStr
  realOpen : Bool
  practicalFit : Bool
  geographyEligible : Bool
  actionable : Bool
  primarySource : Bool
  fabricated : Bool
  usOnly : Bool
  seniorOrPhdMismatch : Bool
  deriving DecidableEq

/-- `RegistryLeadAssessment.key`. -/
def RegistryLeadAssessment.key (a : RegistryLeadAssessment) : PyStr := urlKey a.sourceUrl

/-- `asdict(assessment)`. -/
def RegistryLeadAssessment.toJson (a : RegistryLeadAssessment) : Json := .obj [
  ("source_url", .str a.sourceUrl), ("real_open", .bool a.realOpen), ("practical_fit", .bool a.practicalFit),
  ("geography_eligible", .bool a.geographyEligible), ("actionable", .bool a.actionable),
  ("primary_source", .bool a.primarySource), ("fabricated", .bool a.fabricated), ("us_only", .bool a.usOnly),
  ("senior_or_phd_mismatch", .bool a.seniorOrPhdMismatch)]

/-- `JudgeRegistrySnapshot`. -/
structure JudgeRegistrySnapshot where
  snapshotId : PyStr
  knownWellKeys : List PyStr
  assessments : List RegistryLeadAssessment
  fingerprint : PyStr

/-- What the fingerprint of a snapshot is taken of. -/
def JudgeRegistrySnapshot.payload (snapshot : JudgeRegistrySnapshot) : Json := .obj [
  ("snapshot_id", .str snapshot.snapshotId), ("known_well_keys", textArray snapshot.knownWellKeys),
  ("assessments", .arr (snapshot.assessments.map RegistryLeadAssessment.toJson))]

/-- `JudgeRegistrySnapshot.verify`. -/
def JudgeRegistrySnapshot.verify (snapshot : JudgeRegistrySnapshot) : Except PyExc Unit := do
  let actual ← SearchCup.fingerprint snapshot.payload
  check (actual = snapshot.fingerprint) (valueError "judge registry snapshot hash mismatch")

/-- `_assessment_map(snapshot).get(key)`: the last assessment of a key counts. -/
def assessmentFor : List RegistryLeadAssessment → PyStr → Option RegistryLeadAssessment
  | [], _ => none
  | item :: items, key => (assessmentFor items key).or (if item.key = key then some item else none)

end Registry

/-- `EntrantOutcome`, as far as the judge reads it. -/
structure EntrantOutcome where
  entrantId : PyStr
  status : PyStr
  frozenSubmission : Option FrozenSubmission

/-- `MatchRun`. -/
structure MatchRun where
  competitionId : PyStr
  candidateFingerprint : PyStr
  competitionFingerprint : PyStr
  expectedEntrantIds : List PyStr
  outcomes : List EntrantOutcome
  entrantExecutionClosed : Bool

/-- `MatchRun.frozen_outcomes`. -/
def MatchRun.frozenOutcomes (run : MatchRun) : List EntrantOutcome := run.outcomes.filter fun item => item.status = py "FROZEN"

/-- `MatchRun.all_frozen`. -/
def MatchRun.allFrozen (run : MatchRun) : Bool :=
  run.entrantExecutionClosed && run.outcomes.length == run.expectedEntrantIds.length &&
    run.outcomes.all fun item => item.status = py "FROZEN"

/-- `RegistryAccessDenied`. -/
def registryAccessDenied (message : PyStr) : PyExc :=
  ⟨"RegistryAccessDenied", ["RegistryAccessDenied", "RuntimeError", "Exception"], message⟩

/-- `LeadJudgment`. -/
structure LeadJudgment where
  sourceUrl : PyStr
  realOpenPoints : ℚ
  practicalFitPoints : ℚ
  noveltyPoints : ℚ
  geographyPoints : ℚ
  actionabilityPoints : ℚ
  penalty : ℚ
  applyNow : Bool
  reasons : List PyStr

/-- `SearchBehaviorProfile`. -/
structure SearchBehaviorProfile where
  entrantId : PyStr
  leadCount : ℕ
  searchCalls : ℤ
  precision : ℚ
  noveltyYield : ℚ
  falseWellRate : ℚ
  geographyErrorRate : ℚ

/-- `CompetitionScore`. -/
structure CompetitionScore where
  entrantId : PyStr
  provider : PyStr
  exactModelId : PyStr
  realOpen : ℚ
  practicalFit : ℚ
  novelty : ℚ
  geography : ℚ
  actionability : ℚ
  searchEfficiency : ℚ
  penalties : ℚ
  total : ℚ
  submissionSha256 : PyStr
  judgments : List LeadJudgment
  behavior : SearchBehaviorProfile

/-- `CompetitionReport`. -/
structure CompetitionReport where
  competitionId : PyStr
  candidateFingerprint : PyStr
  competitionFingerprint : PyStr
  registryFingerprint : PyStr
  scores : List CompetitionScore
  reportFingerprint : PyStr

section Judge

variable [PyRuntime]

/-- `HiddenRegistryGate.open`. -/
def HiddenRegistryGate.open (run : MatchRun) (snapshot : JudgeRegistrySnapshot) : Except PyExc Unit := do
  check (run.entrantExecutionClosed = true) (registryAccessDenied "entrant execution is still open")
  check (run.allFrozen = true)
    (registryAccessDenied "all configured entrant submissions must be frozen before judging")
  snapshot.verify

/-- The penalties of a lead, each with its reason. -/
def leadPenalties (lead : Lead) (assessment : RegistryLeadAssessment) (known : List PyStr) : List (ℚ × PyStr) :=
  let remoteScope := PyRuntime.lower lead.remoteScope
  (if assessment.realOpen = false ∧ lead.openStatus = py "OPEN" then
    [(5, py "closed/stale role reported as open")] else []) ++
  (if assessment.usOnly = true ∧ ([py "world", py "europe", py "emea"].any fun term => contains term remoteScope) = true then
    [(8, py "US-only role overstated as geographically applicable")] else []) ++
  (if assessment.seniorOrPhdMismatch = true then [(5, py "senior/PhD mismatch sold as fit")] else []) ++
  (if urlKey lead.sourceUrl ∈ known ∧ lead.claimedNovel = true then [(3, py "known well presented as novel")] else []) ++
  (if assessment.primarySource = false ∨ lead.officialSource = false then
    [(3, py "credible primary source missing")] else [])

/-- `_lead_judgment`. -/
def leadJudgment (lead : Lead) (assessment : RegistryLeadAssessment) (known applyNow : List PyStr) : LeadJudgment :=
  let isApplyNow := decide (lead.sourceUrl ∈ applyNow)
  let multiplier : ℚ := if isApplyNow then 2 else 1
  if assessment.fabricated = true then {
    sourceUrl := lead.sourceUrl
    realOpenPoints := 0
    practicalFitPoints := 0
    noveltyPoints := 0
    geographyPoints := 0
    actionabilityPoints := 0
    penalty := 0
    applyNow := isApplyNow
    reasons := ["fabricated lead: score forced to zero"] }
  else
    let penalties := leadPenalties lead assessment known
    { sourceUrl := lead.sourceUrl
      realOpenPoints := if assessment.realOpen then 25 else 0
      practicalFitPoints := if assessment.practicalFit then 25 else 0
      noveltyPoints := if urlKey lead.sourceUrl ∈ known then 0 else 20
      geographyPoints := if assessment.geographyEligible then 15 else 0
      actionabilityPoints := if assessment.actionable then 10 else 0
      penalty := (penalties.map fun p => p.1 * multiplier).sum
      applyNow := isApplyNow
      reasons := penalties.map Prod.snd }

/-- The assessment of a lead the registry does not know. -/
def unassessed (sourceUrl : PyStr) : RegistryLeadAssessment := {
  sourceUrl
  realOpen := false
  practicalFit := false
  geographyEligible := false
  actionable := false
  primarySource := false
  fabricated := false
  usOnly := false
  seniorOrPhdMismatch := false }

/-- What a lead is judged by. -/
def assessmentOf (snapshot : JudgeRegistrySnapshot) (lead : Lead) : RegistryLeadAssessment :=
  (assessmentFor snapshot.assessments (urlKey lead.sourceUrl)).getD (unassessed lead.sourceUrl)

/-- The judgments of a submission. -/
def judgmentsOf (submission : Submission) (snapshot : JudgeRegistrySnapshot) : List LeadJudgment :=
  submission.leads.map fun lead =>
    leadJudgment lead (assessmentOf snapshot lead) snapshot.knownWellKeys submission.applyNowUrls

/-- `float(count or 1)`. -/
def divisorOf (judgments : List LeadJudgment) : ℚ := if judgments.length = 0 then 1 else judgments.length

/-- `sum(points(item) for item in judgments) / divisor`. -/
def averageOf (judgments : List LeadJudgment) (points : LeadJudgment → ℚ) : ℚ :=
  (judgments.map points).sum / divisorOf judgments

/-- The share of the searches that ended in an open role one can act on. -/
def efficiencyOf (judgments : List LeadJudgment) (searchCalls : ℤ) : ℚ :=
  let validActionable := judgments.countP fun item => 0 < item.realOpenPoints ∧ 0 < item.actionabilityPoints
  5 * min 1 ((validActionable : ℚ) / (max 1 searchCalls : ℤ))

/-- `max(0.0, min(100.0, value))`. -/
def clampTotal (value : ℚ) : ℚ := max 0 (min 100 value)

/-- The score of one submission. -/
def scoreOf (entrantId sha256 : PyStr) (submission : Submission) (judgments : List LeadJudgment) : CompetitionScore :=
  let average := averageOf judgments
  let divisor := divisorOf judgments
  let real := average LeadJudgment.realOpenPoints
  let fit := average LeadJudgment.practicalFitPoints
  let novelty := average LeadJudgment.noveltyPoints
  let geography := average LeadJudgment.geographyPoints
  let action := average LeadJudgment.actionabilityPoints
  let penalties := average LeadJudgment.penalty
  let efficiency := efficiencyOf judgments submission.searchCalls
  let falseWells := judgments.countP fun item => item.realOpenPoints = 0
  let geoErrors := judgments.countP fun item => item.geographyPoints = 0
  let novel := judgments.countP fun item => 0 < item.noveltyPoints
  { entrantId
    provider := submission.entrant.provider
    exactModelId := submission.entrant.exactModelId
    realOpen := real
    practicalFit := fit
    novelty := novelty
    geography := geography
    actionability := action
    searchEfficiency := efficiency
    penalties := penalties
    total := clampTotal (real + fit + novelty + geography + action + efficiency - penalties)
    submissionSha256 := sha256
    judgments := judgments
    behavior := {
      entrantId
      leadCount := judgments.length
      searchCalls := submission.searchCalls
      precision := ((judgments.length : ℚ) - falseWells) / divisor
      noveltyYield := (novel : ℚ) / (max 1 submission.searchCalls : ℤ)
      falseWellRate := falseWells / divisor
      geographyErrorRate := geoErrors / divisor } }

/-- The score of one outcome. -/
def scoreOutcome (snapshot : JudgeRegistrySnapshot) (outcome : EntrantOutcome) : Except PyExc CompetitionScore := do
  let frozen ← match outcome.frozenSubmission with
    | some frozen => pure frozen
    | none => throw (valueError "frozen outcome is missing evidence")
  let submission ← frozen.thawVerified
  return scoreOf outcome.entrantId frozen.sha256 submission (judgmentsOf submission snapshot)

/-- `(-item.total, item.entrant_id)` of one score is not after that of another. -/
def scoreLe (s t : CompetitionScore) : Prop := t.total < s.total ∨ t.total = s.total ∧ strLe s.entrantId t.entrantId = true

instance : DecidableRel scoreLe := fun _ _ => inferInstanceAs (Decidable (_ ∨ _))

/-- A number as it is reported. -/
def reported (value : ℚ) : Json := .float (PyRuntime.roundFloat value)

/-- `asdict(judgment)`. -/
def LeadJudgment.toJson (j : LeadJudgment) : Json := .obj [
  ("source_url", .str j.sourceUrl), ("real_open_points", reported j.realOpenPoints),
  ("practical_fit_points", reported j.practicalFitPoints), ("novelty_points", reported j.noveltyPoints),
  ("geography_points", reported j.geographyPoints), ("actionability_points", reported j.actionabilityPoints),
  ("penalty", reported j.penalty), ("apply_now", .bool j.applyNow), ("reasons", textArray j.reasons)]

/-- `asdict(behavior)`. -/
def SearchBehaviorProfile.toJson (b : SearchBehaviorProfile) : Json := .obj [
  ("entrant_id", .str b.entrantId), ("lead_count", .int b.leadCount), ("search_calls", .int b.searchCalls),
  ("precision", reported b.precision), ("novelty_yield", reported b.noveltyYield),
  ("false_well_rate", reported b.falseWellRate), ("geography_error_rate", reported b.geographyErrorRate)]

/-- `asdict(score)`. -/
def CompetitionScore.toJson (s : CompetitionScore) : Json := .obj [
  ("entrant_id", .str s.entrantId), ("provider", .str s.provider), ("exact_model_id", .str s.exactModelId),
  ("real_open", reported s.realOpen), ("practical_fit", reported s.practicalFit), ("novelty", reported s.novelty),
  ("geography", reported s.geography), ("actionability", reported s.actionability),
  ("search_efficiency", reported s.searchEfficiency), ("penalties", reported s.penalties), ("total", reported s.total),
  ("submission_sha256", .str s.submissionSha256), ("judgments", .arr (s.judgments.map LeadJudgment.toJson)),
  ("behavior", s.behavior.toJson)]

/-- What the fingerprint of a report is taken of. -/
def reportPayload (run : MatchRun) (registryFingerprint : PyStr) (scores : List CompetitionScore) : Json := .obj [
  ("competition_id", .str run.competitionId), ("candidate_fingerprint", .str run.candidateFingerprint),
  ("competition_fingerprint", .str run.competitionFingerprint), ("registry_fingerprint", .str registryFingerprint),
  ("scores", .arr (scores.map CompetitionScore.toJson))]

/-- `judge_match`. -/
def judgeMatch (run : MatchRun) (snapshot : JudgeRegistrySnapshot) : Except PyExc CompetitionReport := do
  HiddenRegistryGate.open run snapshot
  let scores ← run.frozenOutcomes.mapM (scoreOutcome snapshot)
  let ordered := scores.insertionSort scoreLe
  let reportFingerprint ← fingerprint (reportPayload run snapshot.fingerprint ordered)
  return {
    competitionId := run.competitionId
    candidateFingerprint := run.candidateFingerprint
    competitionFingerprint := run.competitionFingerprint
    registryFingerprint := snapshot.fingerprint
    scores := ordered
    reportFingerprint }

end Judge

end EvaluationLab.SearchCup
