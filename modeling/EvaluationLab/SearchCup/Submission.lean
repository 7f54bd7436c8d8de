import EvaluationLab.Python.Sum
import EvaluationLab.SearchCup.Seal

/-! The entries of a match: entrants, leads and submissions, and submissions frozen for judgment. -/
namespace EvaluationLab.SearchCup
open Python Effect
open QA0 (Fields)

section Reading

/-- `document.get(key, default)`. -/
def getOr (document : Json) (key : PyStr) (fallback : Json) : Json :=
  match document with
  | .obj fields => (fields.lookup key).getD fallback
  | _ => fallback

/-- `isinstance(value, Mapping)`. -/
def isMapping : Json → Bool
  | .obj _ => true
  | _ => false

/-- `_required_text`. -/
def requiredText (value : Json) (label : PyStr) : Except PyExc PyStr :=
  match value with
  | .str s => if strip s = [] then .error (valueError (label ++ py " must be a non-empty string")) else .ok (strip s)
  | _ => .error (valueError (label ++ py " must be a non-empty string"))

/-- `_required_bool`. -/
def requiredBool (value : Json) (label : PyStr) : Except PyExc Bool :=
  match value with
  | .bool b => .ok b
  | _ => .error (valueError (label ++ py " must be boolean"))

/-- `_string_tuple`. -/
def stringTuple (value : Json) (label : PyStr) (allowEmpty : Bool) : Except PyExc (List PyStr) :=
  match value with
  | .arr items => do
    let normalized ← items.mapM fun item => requiredText item (label ++ py "[]")
    check (normalized ≠ [] ∨ allowEmpty = true) (valueError (label ++ py " must not be empty"))
    return normalized
  | _ => .error (valueError (label ++ py " must be an array"))

end Reading

/-- `EntrantConfig`. -/
structure EntrantConfig where
  entrantId : PyStr
  provider : PyStr
  exactModelId : PyStr
  endpointMode : PyStr
  samplingJson : PyStr
  deriving DecidableEq

/-- `Lead`. The confidence is a number of any type. -/
structure Lead where
  company : PyStr
  role : PyStr
  sourceUrl : PyStr
  officialSource : Bool
  openStatus : PyStr
  remoteScope : PyStr
  locationConstraint : PyStr
  employmentType : PyStr
  requiredSkills : List PyStr
  candidateFit : PyStr
  mismatchRisks : List PyStr
  portfolioRelevance : PyStr
  confidence : Json
  nextAction : PyStr
  evidenceUrls : List PyStr
  claimedNovel : Bool

/-- `Submission`. -/
structure Submission where
  entrant : EntrantConfig
  candidateFingerprint : PyStr
  competitionFingerprint : PyStr
  leads : List Lead
  applyNowUrls : List PyStr
  searchStrategySummary : PyStr
  rejectedOrDowngraded : List PyStr
  uncertainties : List PyStr
  searchCalls : ℤ

/-- `FrozenSubmission`. -/
structure FrozenSubmission where
  entrantId : PyStr
  canonicalContent : PyStr
  sha256 : PyStr
  deriving DecidableEq

section Constructors

/-- The texts of a lead that have to say something, under their labels. -/
def Lead.labelled (l : Lead) : List (PyStr × PyStr) := [
  ("company", l.company), ("role", l.role), ("source_url", l.sourceUrl), ("open_status", l.openStatus),
  ("remote_scope", l.remoteScope), ("location_constraint", l.locationConstraint),
  ("employment_type", l.employmentType), ("candidate_fit", l.candidateFit),
  ("portfolio_relevance", l.portfolioRelevance), ("next_action", l.nextAction)]

/-- `x <= y` on numbers. -/
def numberLe (x y : PyFloat) : Bool := numberLt x y || numberEq x y

/-- `Lead.__post_init__`. -/
def Lead.postInit (l : Lead) : Except PyExc Unit := do
  l.labelled.forM fun entry => do
    let _ ← requiredText (.str entry.2) entry.1
  check (l.openStatus ∈ (["OPEN", "CLOSED", "UNVERIFIED"] : List PyStr))
    (valueError "open_status must be OPEN, CLOSED, or UNVERIFIED")
  let x ← match number l.confidence with
    | some x => pure x
    | none => throw (typeError "'<=' not supported")
  check (numberLe (.finite 0) x = true ∧ numberLe x (.finite 1) = true)
    (valueError "confidence must be between 0 and 1")
  check (l.evidenceUrls ≠ []) (valueError "lead must include at least one evidence URL")

/-- `Submission.__post_init__`. -/
def Submission.postInit (s : Submission) : Except PyExc Unit := do
  check (s.leads.length ≤ 20) (valueError "submission may contain at most 20 leads")
  check (s.applyNowUrls.length ≤ 5) (valueError "submission may contain at most five Apply-Now leads")
  check (∀ url ∈ s.applyNowUrls, url ∈ s.leads.map Lead.sourceUrl)
    (valueError "Apply-Now URLs must refer to submitted leads")
  check (0 ≤ s.searchCalls ∧ s.searchCalls ≤ 20) (valueError "search_calls must be between 0 and 20")
  let _ ← requiredText (.str s.searchStrategySummary) "search_strategy_summary"

end Constructors

section Documents

variable [PyRuntime]

/-- `EntrantConfig.from_mapping`. -/
def EntrantConfig.fromMapping (document : Json) : Except PyExc EntrantConfig := do
  let sampling := getOr document "sampling" (.obj [])
  check (isMapping sampling = true) (valueError "entrant sampling must be an object")
  let entrantId ← requiredText (get document "entrant_id") "entrant_id"
  let provider ← requiredText (get document "provider") "provider"
  let exactModelId ← requiredText (get document "exact_model_id") "exact_model_id"
  let endpointMode ← requiredText (get document "endpoint_mode") "endpoint_mode"
  let samplingJson ← QA0.canonicalJson sampling
  return { entrantId, provider, exactModelId, endpointMode, samplingJson }

/-- The document of an entrant with the given sampling. -/
def EntrantConfig.documentOf (e : EntrantConfig) (sampling : Json) : Json := .obj [
  ("entrant_id", .str e.entrantId), ("provider", .str e.provider), ("exact_model_id", .str e.exactModelId),
  ("endpoint_mode", .str e.endpointMode), ("sampling", sampling)]

/-- `EntrantConfig.as_dict`. -/
def EntrantConfig.asDict (e : EntrantConfig) : Except PyExc Json := do
  return e.documentOf (← loads e.samplingJson)

/-- A list of texts. -/
def textArray (texts : List PyStr) : Json := .arr (texts.map .str)

/-- `asdict(lead)`, its tuples written as lists. -/
def Lead.toJson (l : Lead) : Json := .obj [
  ("company", .str l.company), ("role", .str l.role), ("source_url", .str l.sourceUrl),
  ("official_source", .bool l.officialSource), ("open_status", .str l.openStatus),
  ("remote_scope", .str l.remoteScope), ("location_constraint", .str l.locationConstraint),
  ("employment_type", .str l.employmentType), ("required_skills", textArray l.requiredSkills),
  ("candidate_fit", .str l.candidateFit), ("mismatch_risks", textArray l.mismatchRisks),
  ("portfolio_relevance", .str l.portfolioRelevance), ("confidence", l.confidence),
  ("next_action", .str l.nextAction), ("evidence_urls", textArray l.evidenceUrls),
  ("claimed_novel", .bool l.claimedNovel)]

/-- `float(value)` of a number. Integers of at most 53 bits are floats. -/
def exactFloat (value : Json) : Except PyExc PyFloat :=
  match value with
  | .int n => if n.natAbs ≤ 2 ^ 53 then .ok (.finite n) else toFloat value
  | _ => toFloat value

/-- `Lead.from_mapping`. -/
def Lead.fromMapping (document : Json) : Except PyExc Lead := do
  let confidence := get document "confidence"
  check ((number confidence).isSome = true ∧ confidence.isBool = false) (valueError "confidence must be numeric")
  let company ← requiredText (get document "company") "company"
  let role ← requiredText (get document "role") "role"
  let sourceUrl ← requiredText (get document "source_url") "source_url"
  let officialSource ← requiredBool (get document "official_source") "official_source"
  let openStatus ← requiredText (get document "open_status") "open_status"
  let remoteScope ← requiredText (get document "remote_scope") "remote_scope"
  let locationConstraint ← requiredText (get document "location_constraint") "location_constraint"
  let employmentType ← requiredText (get document "employment_type") "employment_type"
  let requiredSkills ← stringTuple (getOr document "required_skills" (.arr [])) "required_skills" true
  let candidateFit ← requiredText (get document "candidate_fit") "candidate_fit"
  let mismatchRisks ← stringTuple (getOr document "mismatch_risks" (.arr [])) "mismatch_risks" true
  let portfolioRelevance ← requiredText (get document "portfolio_relevance") "portfolio_relevance"
  let value ← exactFloat confidence
  let nextAction ← requiredText (get document "next_action") "next_action"
  let evidenceUrls ← stringTuple (getOr document "evidence_urls" (.arr [])) "evidence_urls" false
  let claimedNovel ← requiredBool (getOr document "claimed_novel" (.bool false)) "claimed_novel"
  let lead : Lead := {
    company, role, sourceUrl, officialSource, openStatus, remoteScope, locationConstraint, employmentType, requiredSkills
    candidateFit, mismatchRisks, portfolioRelevance
    confidence := .float value
    nextAction, evidenceUrls, claimedNovel }
  lead.postInit
  return lead

/-- The document of a submission whose entrant has the given document. -/
def Submission.documentOf (s : Submission) (entrant : Json) : Json := .obj [
  ("entrant", entrant), ("candidate_fingerprint", .str s.candidateFingerprint),
  ("competition_fingerprint", .str s.competitionFingerprint), ("leads", .arr (s.leads.map Lead.toJson)),
  ("apply_now_urls", textArray s.applyNowUrls), ("search_strategy_summary", .str s.searchStrategySummary),
  ("rejected_or_downgraded", textArray s.rejectedOrDowngraded), ("uncertainties", textArray s.uncertainties),
  ("search_calls", .int s.searchCalls)]

/-- `Submission.as_dict`. -/
def Submission.asDict (s : Submission) : Except PyExc Json := do
  return s.documentOf (← s.entrant.asDict)

/-- `Submission.from_mapping`. -/
def Submission.fromMapping (document : Json) : Except PyExc Submission := do
  let rawEntrant := get document "entrant"
  let rawLeads ← match get document "leads" with
    | .arr items => pure items
    | _ => throw (valueError "submission is missing entrant or leads")
  check (isMapping rawEntrant = true) (valueError "submission is missing entrant or leads")
  check (∀ item ∈ rawLeads, isMapping item = true) (valueError "every submitted lead must be an object")
  let searchCalls ← match get document "search_calls" with
    | .int n => pure n
    | _ => throw (valueError "submission search_calls must be an integer")
  let entrant ← EntrantConfig.fromMapping rawEntrant
  let candidateFingerprint ← requiredText (get document "candidate_fingerprint") "candidate_fingerprint"
  let competitionFingerprint ← requiredText (get document "competition_fingerprint") "competition_fingerprint"
  let leads ← rawLeads.mapM Lead.fromMapping
  let applyNowUrls ← stringTuple (getOr document "apply_now_urls" (.arr [])) "apply_now_urls" true
  let searchStrategySummary ← requiredText (get document "search_strategy_summary") "search_strategy_summary"
  let rejectedOrDowngraded ← stringTuple (getOr document "rejected_or_downgraded" (.arr [])) "rejected_or_downgraded" true
  let uncertainties ← stringTuple (getOr document "uncertainties" (.arr [])) "uncertainties" true
  let submission : Submission := {
    entrant, candidateFingerprint, competitionFingerprint, leads, applyNowUrls, searchStrategySummary
    rejectedOrDowngraded, uncertainties, searchCalls }
  submission.postInit
  return submission

/-- `hashlib.sha256(content.encode("utf-8")).hexdigest()`. -/
def contentDigest (content : PyStr) : Except PyExc PyStr := do
  return QA0.hexDigest (PyRuntime.sha256 (← QA0.encode content))

/-- `FrozenSubmission.freeze`. -/
def FrozenSubmission.freeze (s : Submission) : Except PyExc FrozenSubmission := do
  let document ← s.asDict
  let content ← QA0.canonicalJson document
  let digest ← contentDigest content
  return ⟨s.entrant.entrantId, content, digest⟩

/-- `FrozenSubmission.thaw_verified`. -/
def FrozenSubmission.thawVerified (f : FrozenSubmission) : Except PyExc Submission := do
  let actual ← contentDigest f.canonicalContent
  check (actual = f.sha256) (valueError "frozen submission hash mismatch")
  let document ← loads f.canonicalContent
  check (isMapping document = true) (valueError "frozen submission must contain an object")
  let submission ← Submission.fromMapping document
  check (submission.entrant.entrantId = f.entrantId) (valueError "frozen submission entrant mismatch")
  return submission

end Documents

end EvaluationLab.SearchCup
