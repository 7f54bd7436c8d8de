import EvaluationLab.Python.WholeRuntime
import EvaluationLab.SearchCup.Submission

/-! Which submissions come back from being frozen as they went in. -/
namespace EvaluationLab.SearchCup
open Python Effect
open QA0 (Fields)

section Texts

/-- A text that says something, without spaces around it. -/
def Trimmed (t : PyStr) : Prop := strip t = t ∧ t ≠ []

instance (t : PyStr) : Decidable (Trimmed t) := inferInstanceAs (Decidable (_ ∧ _))

theorem requiredText_str_iff {s label t : PyStr} : requiredText (.str s) label = .ok t ↔ strip s ≠ [] ∧ t = strip s := by
  rw [requiredText]
  split_ifs with h
  · simp [h]
  · simp [h, eq_comm]

theorem stringTuple_textArray_iff {texts result : List PyStr} {label : PyStr} {allowEmpty : Bool} :
    stringTuple (textArray texts) label allowEmpty = .ok result ↔
      (∀ t ∈ texts, strip t ≠ []) ∧ (texts ≠ [] ∨ allowEmpty = true) ∧ result = texts.map strip := by
  have hmap : ∀ normalized, (texts.map Json.str).mapM (fun item => requiredText item (label ++ py "[]")) = .ok normalized ↔
      (∀ t ∈ texts, strip t ≠ []) ∧ normalized = texts.map strip := by
    induction texts with
    | nil =>
      intro normalized
      rw [List.map_nil, List.mapM_nil, pure_eq_ok_iff]
      exact ⟨fun h => ⟨by simp, h.symm⟩, fun h => h.2.symm⟩
    | cons t ts ih =>
      intro normalized
      rw [List.map_cons, List.mapM_cons]
      simp only [bind_eq_ok_iff, requiredText_str_iff, ih, pure_eq_ok_iff, List.forall_mem_cons, List.map_cons]
      constructor
      · rintro ⟨_, ⟨ht, rfl⟩, _, ⟨hts, rfl⟩, rfl⟩
        exact ⟨⟨ht, hts⟩, rfl⟩
      · rintro ⟨⟨ht, hts⟩, rfl⟩
        exact ⟨_, ⟨ht, rfl⟩, _, ⟨hts, rfl⟩, rfl⟩
  simp only [stringTuple, textArray, bind_eq_ok_iff, exists_unit_iff, check_eq_ok_iff, pure_eq_ok_iff, hmap]
  constructor
  · rintro ⟨_, ⟨hall, rfl⟩, hne, rfl⟩
    exact ⟨hall, by simpa using hne, rfl⟩
  · rintro ⟨hall, hne, rfl⟩
    exact ⟨_, ⟨hall, rfl⟩, by simpa using hne, rfl⟩

theorem sortKeys_textArray (texts : List PyStr) : sortKeys (textArray texts) = textArray texts := by
  rw [textArray, sortKeys, sortItems_eq_map, List.map_map]
  rfl

/-- A key of a document that is there, read from the sorted document. -/
theorem getOr_sortKeys {v : Json} (h : UniqueKeys v) {k : PyStr} {fallback w : Json}
    (hk : ∀ other, getOr v k other = w) : getOr (sortKeys v) k fallback = sortKeys w := by
  cases v with
  | obj fields =>
    have hlookup : fields.lookup k = some w := by
      cases hl : fields.lookup k with
      | some u =>
        have hu := hk .null
        rw [getOr, hl] at hu
        rw [← hu]
        rfl
      | none =>
        have hnull := hk .null
        have hstr := hk (.str [])
        rw [getOr, hl] at hnull hstr
        rw [← hnull] at hstr
        cases hstr
    rw [sortKeys_obj, getOr, lookup_sortedFields h.nodup, hlookup]
    rfl
  | _ =>
    have hnull := hk .null
    have hstr := hk (.str [])
    rw [← hnull] at hstr
    cases hstr

end Texts

section Leads

/-- The lists of texts of a lead. -/
def Lead.items (l : Lead) : List PyStr := l.requiredSkills ++ l.mismatchRisks ++ l.evidenceUrls

/-- What is read back of a lead, its confidence as a float. -/
def Lead.thawed (l : Lead) (value : PyFloat) : Lead := {
  company := strip l.company
  role := strip l.role
  sourceUrl := strip l.sourceUrl
  officialSource := l.officialSource
  openStatus := strip l.openStatus
  remoteScope := strip l.remoteScope
  locationConstraint := strip l.locationConstraint
  employmentType := strip l.employmentType
  requiredSkills := l.requiredSkills.map strip
  candidateFit := strip l.candidateFit
  mismatchRisks := l.mismatchRisks.map strip
  portfolioRelevance := strip l.portfolioRelevance
  confidence := .float value
  nextAction := strip l.nextAction
  evidenceUrls := l.evidenceUrls.map strip
  claimedNovel := l.claimedNovel }

/-- `==` of two leads: the confidence is compared as a number. -/
def Lead.same (l l' : Lead) : Prop :=
  pyEq l.confidence l'.confidence = true ∧ { l with confidence := .null } = { l' with confidence := .null }

/-- The keys of an entrant, of a lead and of a submission. -/
def entrantKeys : List PyStr := ["entrant_id", "provider", "exact_model_id", "endpoint_mode", "sampling"]

def leadKeys : List PyStr := ["company", "role", "source_url", "official_source", "open_status", "remote_scope",
  "location_constraint", "employment_type", "required_skills", "candidate_fit", "mismatch_risks", "portfolio_relevance",
  "confidence", "next_action", "evidence_urls", "claimed_novel"]

def submissionKeys : List PyStr := ["entrant", "candidate_fingerprint", "competition_fingerprint", "leads", "apply_now_urls",
  "search_strategy_summary", "rejected_or_downgraded", "uncertainties", "search_calls"]

theorem nodup_documentKeys : entrantKeys.Nodup ∧ leadKeys.Nodup ∧ submissionKeys.Nodup := by decide +kernel

theorem encodable_documentKeys : (∀ k ∈ entrantKeys, encodable k = true) ∧ (∀ k ∈ leadKeys, encodable k = true) ∧
    ∀ k ∈ submissionKeys, encodable k = true := by decide +kernel

/-- A lead that the constructor accepted. -/
structure Lead.Accepted [PyRuntime] (l : Lead) : Prop where
  checked : l.postInit = .ok ()
  real : Legible l.confidence

/-- A lead whose texts have no spaces around them, whose lists have no empty text, and whose confidence is no truth value. -/
structure Lead.Settled (l : Lead) : Prop where
  texts : ∀ e ∈ l.labelled, strip e.2 = e.2
  items : ∀ t ∈ l.items, Trimmed t
  number : l.confidence.isBool = false

variable [PyRuntime]

omit [PyRuntime] in
/-- A number is a scalar: it has no keys to sort. -/
theorem sortKeys_number {v : Json} (h : (Python.number v).isSome = true) : UniqueKeys v ∧ sortKeys v = v := by
  cases v with
  | bool | int | float => exact ⟨trivial, rfl⟩
  | _ => cases h

omit [PyRuntime] in
theorem Lead.uniqueKeys_toJson {l : Lead} (h : (Python.number l.confidence).isSome = true) : UniqueKeys l.toJson := by
  have harray : ∀ texts : List PyStr, UniqueKeys (textArray texts) := by
    intro texts
    rw [textArray, UniqueKeys]
    induction texts with
    | nil => trivial
    | cons t ts ih => exact ⟨trivial, ih⟩
  rw [Lead.toJson, UniqueKeys]
  refine ⟨nodup_documentKeys.2.1, ?_⟩
  simp only [FieldsUniqueKeys, harray, (sortKeys_number h).1, UniqueKeys, and_self]

theorem Lead.fromMapping_toJson_iff {l l' : Lead} (h : (Python.number l.confidence).isSome = true) :
    Lead.fromMapping (sortKeys l.toJson) = .ok l' ↔ l.confidence.isBool = false ∧
      (∀ e ∈ l.labelled, strip e.2 ≠ []) ∧ (∀ t ∈ l.items, strip t ≠ []) ∧ l.evidenceUrls ≠ [] ∧
      ∃ x, exactFloat l.confidence = .ok x ∧ (l.thawed x).postInit = .ok () ∧ l' = l.thawed x := by
  have hkeys := Lead.uniqueKeys_toJson h
  have hget : ∀ {k : PyStr} {w : Json}, get l.toJson k = w → get (sortKeys l.toJson) k = sortKeys w := by
    intro k w hk
    rw [get_sortKeys hkeys, hk]
  have hcompany : get (sortKeys l.toJson) "company" = .str l.company := hget rfl
  have hrole : get (sortKeys l.toJson) "role" = .str l.role := hget rfl
  have hsource : get (sortKeys l.toJson) "source_url" = .str l.sourceUrl := hget rfl
  have hofficial : get (sortKeys l.toJson) "official_source" = .bool l.officialSource := hget rfl
  have hopen : get (sortKeys l.toJson) "open_status" = .str l.openStatus := hget rfl
  have hscope : get (sortKeys l.toJson) "remote_scope" = .str l.remoteScope := hget rfl
  have hlocation : get (sortKeys l.toJson) "location_constraint" = .str l.locationConstraint := hget rfl
  have hemployment : get (sortKeys l.toJson) "employment_type" = .str l.employmentType := hget rfl
  have hfit : get (sortKeys l.toJson) "candidate_fit" = .str l.candidateFit := hget rfl
  have hportfolio : get (sortKeys l.toJson) "portfolio_relevance" = .str l.portfolioRelevance := hget rfl
  have hnext : get (sortKeys l.toJson) "next_action" = .str l.nextAction := hget rfl
  have hconfidence : get (sortKeys l.toJson) "confidence" = l.confidence := (hget rfl).trans (sortKeys_number h).2
  have hskills : getOr (sortKeys l.toJson) "required_skills" (.arr []) = textArray l.requiredSkills := by
    rw [getOr_sortKeys hkeys fun _ => rfl]
    exact sortKeys_textArray _
  have hrisks : getOr (sortKeys l.toJson) "mismatch_risks" (.arr []) = textArray l.mismatchRisks := by
    rw [getOr_sortKeys hkeys fun _ => rfl]
    exact sortKeys_textArray _
  have hurls : getOr (sortKeys l.toJson) "evidence_urls" (.arr []) = textArray l.evidenceUrls := by
    rw [getOr_sortKeys hkeys fun _ => rfl]
    exact sortKeys_textArray _
  have hnovel : getOr (sortKeys l.toJson) "claimed_novel" (.bool false) = .bool l.claimedNovel := by
    rw [getOr_sortKeys hkeys fun _ => rfl]
    rfl
  unfold Lead.fromMapping
  simp only [hcompany, hrole, hsource, hofficial, hopen, hscope, hlocation, hemployment, hfit, hportfolio, hnext,
    hconfidence, hskills, hrisks, hurls, hnovel, bind_eq_ok_iff, exists_unit_iff, check_eq_ok_iff, pure_eq_ok_iff,
    requiredText_str_iff, stringTuple_textArray_iff, requiredBool, Except.ok.injEq, exists_eq_left']
  have hlabels : (∀ e ∈ l.labelled, strip e.2 ≠ []) ↔ strip l.company ≠ [] ∧ strip l.role ≠ [] ∧ strip l.sourceUrl ≠ [] ∧
      strip l.openStatus ≠ [] ∧ strip l.remoteScope ≠ [] ∧ strip l.locationConstraint ≠ [] ∧
      strip l.employmentType ≠ [] ∧ strip l.candidateFit ≠ [] ∧ strip l.portfolioRelevance ≠ [] ∧
      strip l.nextAction ≠ [] := by
    simp only [Lead.labelled, List.forall_mem_cons, List.not_mem_nil, false_implies, implies_true, and_true]
  have hitems : (∀ t ∈ l.items, strip t ≠ []) ↔ (∀ t ∈ l.requiredSkills, strip t ≠ []) ∧
      (∀ t ∈ l.mismatchRisks, strip t ≠ []) ∧ ∀ t ∈ l.evidenceUrls, strip t ≠ [] := by
    rw [Lead.items, List.forall_mem_append, List.forall_mem_append, and_assoc]
  rw [hlabels, hitems]
  constructor
  · rintro ⟨⟨-, hbool⟩, _, ⟨h1, rfl⟩, _, ⟨h2, rfl⟩, _, ⟨h3, rfl⟩, _, ⟨h4, rfl⟩, _, ⟨h5, rfl⟩, _, ⟨h6, rfl⟩, _, ⟨h7, rfl⟩,
      _, ⟨hskill, -, rfl⟩, _, ⟨h8, rfl⟩, _, ⟨hrisk, -, rfl⟩, _, ⟨h9, rfl⟩, x, hx, _, ⟨h10, rfl⟩, _, ⟨hurl, hne, rfl⟩, hpost, rfl⟩
    exact ⟨hbool, ⟨h1, h2, h3, h4, h5, h6, h7, h8, h9, h10⟩, ⟨hskill, hrisk, hurl⟩, hne.resolve_right Bool.false_ne_true,
      x, hx, hpost, rfl⟩
  · rintro ⟨hbool, ⟨h1, h2, h3, h4, h5, h6, h7, h8, h9, h10⟩, ⟨hskill, hrisk, hurl⟩, hne, x, hx, hpost, rfl⟩
    exact ⟨⟨h, hbool⟩, _, ⟨h1, rfl⟩, _, ⟨h2, rfl⟩, _, ⟨h3, rfl⟩, _, ⟨h4, rfl⟩, _, ⟨h5, rfl⟩, _, ⟨h6, rfl⟩, _, ⟨h7, rfl⟩,
      _, ⟨hskill, .inr trivial, rfl⟩, _, ⟨h8, rfl⟩, _, ⟨hrisk, .inr trivial, rfl⟩, _, ⟨h9, rfl⟩, x, hx, _, ⟨h10, rfl⟩,
      _, ⟨hurl, .inl hne, rfl⟩, hpost, rfl⟩

omit [PyRuntime] in
/-- What the constructor checks of a lead. -/
theorem Lead.postInit_iff {l : Lead} : l.postInit = .ok () ↔ (∀ e ∈ l.labelled, strip e.2 ≠ []) ∧
    l.openStatus ∈ (["OPEN", "CLOSED", "UNVERIFIED"] : List PyStr) ∧
    (∃ x, Python.number l.confidence = some x ∧ numberLe (.finite 0) x = true ∧ numberLe x (.finite 1) = true) ∧
    l.evidenceUrls ≠ [] := by
  unfold Lead.postInit
  cases hn : Python.number l.confidence with
  | none => simp [bind_eq_ok_iff]
  | some x =>
    simp only [bind_eq_ok_iff, exists_unit_iff, check_eq_ok_iff, pure_eq_ok_iff, forM_eq_ok_iff, requiredText_str_iff,
      and_true, exists_eq_right, exists_eq_left', Option.some.injEq, and_assoc]

/-- A confidence that is no truth value is read back as a float that equals it. -/
theorem confidence_thaws {c : Json} {x : PyFloat} (hx : Python.number c = some x) (hlow : numberLe (.finite 0) x = true)
    (hhigh : numberLe x (.finite 1) = true) (hbool : c.isBool = false) :
    exactFloat c = .ok x ∧ pyEq (.float x) c = true := by
  have hself : numberEq x x = true := by
    cases x with
    | finite q => exact beq_self_eq_true q
    | negativeZero => rfl
    | infinity negative => exact beq_self_eq_true negative
    | nan => cases hlow
  cases c with
  | float y =>
    cases hx
    exact ⟨rfl, hself⟩
  | int n =>
    cases hx
    have hbounds : 0 ≤ n ∧ n ≤ 1 := by
      simp only [numberLe, numberLt, numberEq, Bool.or_eq_true, decide_eq_true_eq, beq_iff_eq] at hlow hhigh
      constructor
      · rcases hlow with h | h
        · exact_mod_cast h.le
        · exact_mod_cast h.le
      · rcases hhigh with h | h
        · exact_mod_cast h.le
        · exact_mod_cast h.le
    have hsmall : n.natAbs ≤ 2 ^ 53 := by omega
    exact ⟨if_pos hsmall, hself⟩
  | bool b => cases hbool
  | _ => cases hx

omit [PyRuntime] in
theorem map_strip_eq_iff {texts : List PyStr} : texts.map strip = texts ↔ ∀ t ∈ texts, strip t = t := by
  induction texts with
  | nil => simp
  | cons t ts ih => rw [List.map_cons, List.cons.injEq, ih, List.forall_mem_cons]

omit [PyRuntime] in
/-- A lead keeps its texts exactly when there are no spaces around them. -/
theorem Lead.thawed_texts_iff {l : Lead} {x : PyFloat} :
    { l.thawed x with confidence := .null } = { l with confidence := .null } ↔
      (∀ e ∈ l.labelled, strip e.2 = e.2) ∧ ∀ t ∈ l.items, strip t = t := by
  simp only [Lead.thawed, Lead.mk.injEq, map_strip_eq_iff, Lead.labelled, Lead.items, List.forall_mem_cons,
    List.forall_mem_append, List.not_mem_nil, false_implies, implies_true, and_true, true_and]
  tauto

/-- A lead comes back as it was exactly when it is settled. -/
theorem Lead.roundTrip_iff {l : Lead} (h : l.Accepted) :
    (∃ l', Lead.fromMapping (sortKeys l.toJson) = .ok l' ∧ l'.same l) ↔ l.Settled := by
  obtain ⟨htexts, hopen, ⟨x, hx, hlow, hhigh⟩, hurls⟩ := Lead.postInit_iff.mp h.checked
  have hsome : (Python.number l.confidence).isSome = true := by rw [hx]; rfl
  constructor
  · rintro ⟨l', hl', -, hsame⟩
    obtain ⟨hbool, -, hitems, -, y, -, -, rfl⟩ := (Lead.fromMapping_toJson_iff hsome).mp hl'
    obtain ⟨hlabels, hstripped⟩ := Lead.thawed_texts_iff.mp hsame
    refine ⟨hlabels, fun t ht => ⟨hstripped t ht, ?_⟩, hbool⟩
    have hne := hitems t ht
    rwa [hstripped t ht] at hne
  · intro hs
    obtain ⟨hfloat, heq⟩ := confidence_thaws hx hlow hhigh hs.number
    have hsame : { l.thawed x with confidence := .null } = { l with confidence := .null } :=
      Lead.thawed_texts_iff.mpr ⟨hs.texts, fun t ht => (hs.items t ht).1⟩
    have hthawed : l.thawed x = { l with confidence := .float x } := by
      have hput := congrArg (fun l : Lead => { l with confidence := .float x }) hsame
      exact hput
    refine ⟨l.thawed x, (Lead.fromMapping_toJson_iff hsome).mpr ⟨hs.number, htexts, ?_, hurls, x, hfloat, ?_, rfl⟩, heq, hsame⟩
    · intro t ht
      rw [(hs.items t ht).1]
      exact (hs.items t ht).2
    · rw [hthawed]
      exact Lead.postInit_iff.mpr ⟨htexts, hopen, ⟨x, rfl, hlow, hhigh⟩, hurls⟩

end Leads

section Submissions

variable [PyRuntime]

/-- `==` of two submissions. -/
structure Submission.Same (s s' : Submission) : Prop where
  entrant : s.entrant = s'.entrant
  fingerprints : s.candidateFingerprint = s'.candidateFingerprint ∧ s.competitionFingerprint = s'.competitionFingerprint
  leads : List.Forall₂ Lead.same s.leads s'.leads
  lists : s.applyNowUrls = s'.applyNowUrls ∧ s.rejectedOrDowngraded = s'.rejectedOrDowngraded ∧
    s.uncertainties = s'.uncertainties
  summary : s.searchStrategySummary = s'.searchStrategySummary
  searchCalls : s.searchCalls = s'.searchCalls

/-- A submission that the constructors accepted, for an entrant read from a document. -/
structure Submission.Accepted (s : Submission) : Prop where
  entrant : ∃ document, Legible document ∧ EntrantConfig.fromMapping document = .ok s.entrant
  leads : ∀ l ∈ s.leads, l.Accepted
  checked : s.postInit = .ok ()

/-- The texts of a lead. -/
def Lead.texts (l : Lead) : List PyStr := l.labelled.map Prod.snd ++ l.items

/-- The texts of a submission. -/
def Submission.texts (s : Submission) : List PyStr :=
  [s.entrant.entrantId, s.entrant.provider, s.entrant.exactModelId, s.entrant.endpointMode, s.entrant.samplingJson,
    s.candidateFingerprint, s.competitionFingerprint, s.searchStrategySummary] ++ s.applyNowUrls ++
    s.rejectedOrDowngraded ++ s.uncertainties ++ s.leads.flatMap Lead.texts

/-- A submission that reading it back does not change: its texts have no spaces around them and can be encoded, its lists
have no empty text, its confidences are no truth values, and its document is nested no deeper than the interpreter reads. -/
structure Submission.Settled (s : Submission) : Prop where
  leads : ∀ l ∈ s.leads, l.Settled
  fingerprints : Trimmed s.candidateFingerprint ∧ Trimmed s.competitionFingerprint
  items : ∀ t ∈ s.rejectedOrDowngraded ++ s.uncertainties, Trimmed t
  summary : strip s.searchStrategySummary = s.searchStrategySummary
  encodable : ∀ t ∈ s.texts, encodable t = true
  shallow : ∃ sampling, loads s.entrant.samplingJson = .ok sampling ∧
    nesting (s.documentOf (s.entrant.documentOf sampling)) ≤ PyRuntime.recursionLimit

/-- What is read back of a submission, for the leads that are. -/
def Submission.thawed (s : Submission) (leads : List Lead) : Submission := {
  entrant := s.entrant
  candidateFingerprint := strip s.candidateFingerprint
  competitionFingerprint := strip s.competitionFingerprint
  leads := leads
  applyNowUrls := s.applyNowUrls.map strip
  searchStrategySummary := strip s.searchStrategySummary
  rejectedOrDowngraded := s.rejectedOrDowngraded.map strip
  uncertainties := s.uncertainties.map strip
  searchCalls := s.searchCalls }

/-- An entrant that was read from a document with the given sampling. -/
structure EntrantConfig.Built (e : EntrantConfig) (sampling : Json) : Prop where
  legible : Legible sampling
  mapping : isMapping sampling = true
  printable : intsPrintable sampling = true
  texts : ∀ t ∈ [e.entrantId, e.provider, e.exactModelId, e.endpointMode], Trimmed t
  rendered : e.samplingJson = render sampling

omit [PyRuntime] in
theorem trimmed_of_requiredText {v : Json} {label t : PyStr} (h : requiredText v label = .ok t) : Trimmed t := by
  cases v with
  | str s =>
    obtain ⟨hne, rfl⟩ := requiredText_str_iff.mp h
    exact ⟨strip_strip s, hne⟩
  | _ => cases h

omit [PyRuntime] in
theorem requiredText_of_trimmed {t label : PyStr} (h : Trimmed t) : requiredText (.str t) label = .ok t := by
  rw [requiredText_str_iff, h.1]
  exact ⟨h.2, rfl⟩

theorem canonicalJson_eq_ok_iff {v : Json} {t : PyStr} :
    QA0.canonicalJson v = .ok t ↔ intsPrintable v = true ∧ t = render v := by
  unfold QA0.canonicalJson
  split_ifs with h <;> simp [h, eq_comm]

/-- What reading an entrant establishes. -/
theorem EntrantConfig.built_of_fromMapping {document : Json} {e : EntrantConfig} (hlegible : Legible document)
    (h : EntrantConfig.fromMapping document = .ok e) : ∃ sampling, e.Built sampling := by
  have hsampling : Legible (getOr document "sampling" (.obj [])) := by
    have hempty : Legible (.obj []) := ⟨List.nodup_nil, trivial⟩
    cases document with
    | obj fields =>
      rw [getOr]
      cases hk : fields.lookup (py "sampling") with
      | none => exact hempty
      | some v => exact hlegible.lookup hk
    | _ => exact hempty
  unfold EntrantConfig.fromMapping at h
  simp only [bind_eq_ok_iff, exists_unit_iff, check_eq_ok_iff, pure_eq_ok_iff, canonicalJson_eq_ok_iff] at h
  obtain ⟨hmapping, _, hid, _, hprovider, _, hmodel, _, hmode, _, ⟨hprint, rfl⟩, rfl⟩ := h
  refine ⟨_, hsampling, hmapping, hprint, ?_, rfl⟩
  simp only [List.forall_mem_cons]
  exact ⟨trimmed_of_requiredText hid, trimmed_of_requiredText hprovider, trimmed_of_requiredText hmodel,
    trimmed_of_requiredText hmode, by simp⟩

section Entrants

variable {e : EntrantConfig} {sampling : Json}

theorem EntrantConfig.Built.legible_documentOf (h : e.Built sampling) : Legible (e.documentOf (sortKeys sampling)) := by
  rw [EntrantConfig.documentOf, Legible]
  refine ⟨nodup_documentKeys.1, ?_⟩
  simp only [FieldsLegible, legible_sortKeys h.legible, Legible, and_self]

/-- An entrant comes back as it was. -/
theorem EntrantConfig.Built.roundTrip (h : e.Built sampling) :
    EntrantConfig.fromMapping (sortKeys (e.documentOf (sortKeys sampling))) = .ok e := by
  have hkeys := h.legible_documentOf.uniqueKeys
  obtain ⟨hid, hprovider, hmodel, hmode, -⟩ : Trimmed e.entrantId ∧ Trimmed e.provider ∧ Trimmed e.exactModelId ∧
      Trimmed e.endpointMode ∧ True := by
    have hall := h.texts
    simp only [List.forall_mem_cons] at hall
    exact ⟨hall.1, hall.2.1, hall.2.2.1, hall.2.2.2.1, trivial⟩
  have hget : ∀ {k t : PyStr}, get (e.documentOf (sortKeys sampling)) k = .str t →
      get (sortKeys (e.documentOf (sortKeys sampling))) k = .str t := by
    intro k t hk
    rw [get_sortKeys hkeys, hk]
    rfl
  have hsampling : getOr (sortKeys (e.documentOf (sortKeys sampling))) "sampling" (.obj []) = sortKeys sampling := by
    rw [getOr_sortKeys hkeys fun _ => rfl, sortKeys_sortKeys]
  have hmapping : isMapping (sortKeys sampling) = true := by
    have hm := h.mapping
    cases sampling with
    | obj fields => rfl
    | _ => cases hm
  unfold EntrantConfig.fromMapping
  simp only [bind_eq_ok_iff, exists_unit_iff, check_eq_ok_iff, pure_eq_ok_iff, canonicalJson_eq_ok_iff, hsampling,
    intsPrintable_sortKeys, render_sortKeys]
  rw [hget (k := "entrant_id") rfl, hget (k := "provider") rfl, hget (k := "exact_model_id") rfl,
    hget (k := "endpoint_mode") rfl, requiredText_of_trimmed hid, requiredText_of_trimmed hprovider,
    requiredText_of_trimmed hmodel, requiredText_of_trimmed hmode]
  refine ⟨hmapping, _, rfl, _, rfl, _, rfl, _, rfl, _, ⟨h.printable, rfl⟩, ?_⟩
  rw [← h.rendered]

end Entrants

section Document

variable {s : Submission} {sampling : Json}

omit [PyRuntime] in
/-- A confidence that was accepted is a number that can be printed. -/
theorem Lead.printable_confidence {l : Lead} (h : l.postInit = .ok ()) :
    (Python.number l.confidence).isSome = true ∧ intsPrintable l.confidence = true := by
  obtain ⟨-, -, ⟨x, hx, hlow, hhigh⟩, -⟩ := Lead.postInit_iff.mp h
  refine ⟨by rw [hx]; rfl, ?_⟩
  cases hc : l.confidence with
  | int n =>
    rw [hc] at hx
    cases hx
    have hbounds : 0 ≤ n ∧ n ≤ 1 := by
      simp only [numberLe, numberLt, numberEq, Bool.or_eq_true, decide_eq_true_eq, beq_iff_eq, ← le_iff_lt_or_eq] at hlow hhigh
      exact ⟨by exact_mod_cast hlow, by exact_mod_cast hhigh⟩
    exact intPrintable_of_small (by omega)
  | bool b => rfl
  | float y => rfl
  | _ =>
    rw [hc] at hx
    cases hx

theorem legible_textArray (texts : List PyStr) : Legible (textArray texts) := by
  rw [textArray, Legible]
  induction texts with
  | nil => trivial
  | cons t ts ih => exact ⟨trivial, ih⟩

theorem Lead.legible_toJson {l : Lead} (h : Legible l.confidence) : Legible l.toJson := by
  rw [Lead.toJson, Legible]
  refine ⟨nodup_documentKeys.2.1, ?_⟩
  simp only [FieldsLegible, legible_textArray, h, Legible, and_self]

/-- A document of a submission is legible when its leads and its entrant are. -/
theorem Submission.legible_documentOf (hleads : ∀ l ∈ s.leads, Legible l.confidence) {entrant : Json}
    (hentrant : Legible entrant) : Legible (s.documentOf entrant) := by
  have hitems : Legible (.arr (s.leads.map Lead.toJson)) := by
    rw [Legible, itemsLegible_iff, List.forall_mem_map]
    exact fun l hl => Lead.legible_toJson (hleads l hl)
  rw [Submission.documentOf, Legible]
  refine ⟨nodup_documentKeys.2.2, ?_⟩
  simp only [FieldsLegible, legible_textArray, hitems, hentrant]
  simp only [Legible, and_self]

omit [PyRuntime] in
theorem intsPrintable_textArray (texts : List PyStr) : intsPrintable (textArray texts) = true := by
  rw [textArray, intsPrintable]
  induction texts with
  | nil => rfl
  | cons t ts ih => exact ih

omit [PyRuntime] in
theorem Submission.printable_documentOf (h : s.postInit = .ok ()) (hleads : ∀ l ∈ s.leads, l.postInit = .ok ())
    {entrant : Json} (hentrant : intsPrintable entrant = true) : intsPrintable (s.documentOf entrant) = true := by
  have hitems : intsPrintable (.arr (s.leads.map Lead.toJson)) = true := by
    rw [intsPrintable_arr, List.all_eq_true, List.forall_mem_map]
    intro l hl
    rw [Lead.toJson, intsPrintable]
    simp only [fieldsPrintable, intsPrintable_textArray, (Lead.printable_confidence (hleads l hl)).2]
    rfl
  have hcalls : intPrintable s.searchCalls = true := by
    unfold Submission.postInit at h
    simp only [bind_eq_ok_iff, exists_unit_iff, check_eq_ok_iff] at h
    obtain ⟨-, -, -, ⟨hlow, hhigh⟩, -⟩ := h
    exact intPrintable_of_small (by omega)
  rw [Submission.documentOf, intsPrintable_obj]
  simp only [List.all_cons, List.all_nil, intsPrintable_textArray, hitems, hentrant]
  simp only [intsPrintable, hcalls, Bool.and_self]

omit [PyRuntime] in
theorem all_itemTexts {items : List Json} {P : PyStr → Bool} :
    (itemTexts items).all P = true ↔ ∀ v ∈ items, (texts v).all P = true := by
  induction items with
  | nil => simp [itemTexts]
  | cons v vs ih => rw [itemTexts, List.all_append, Bool.and_eq_true, ih, List.forall_mem_cons]

omit [PyRuntime] in
theorem all_texts_textArray {list : List PyStr} {P : PyStr → Bool} :
    (texts (textArray list)).all P = true ↔ ∀ t ∈ list, P t = true := by
  rw [textArray, texts, all_itemTexts, List.forall_mem_map]
  simp only [texts, List.all_cons, List.all_nil, Bool.and_true]

omit [PyRuntime] in
theorem all_texts_obj {fields : Fields} {P : PyStr → Bool} (hkeys : ∀ k ∈ fields.map Prod.fst, P k = true) :
    (texts (.obj fields)).all P = true ↔ ∀ v ∈ fields.map Prod.snd, (texts v).all P = true := by
  rw [texts]
  induction fields with
  | nil => simp [fieldTexts]
  | cons f fs ih =>
    obtain ⟨k, v⟩ := f
    rw [List.map_cons, List.forall_mem_cons] at hkeys
    rw [fieldTexts, List.all_append, List.all_cons, Bool.and_eq_true, Bool.and_eq_true, ih hkeys.2, List.map_cons,
      List.forall_mem_cons, hkeys.1]
    simp only [true_and]

omit [PyRuntime] in
theorem Lead.encodable_toJson {l : Lead} (h : (Python.number l.confidence).isSome = true) :
    (Python.texts l.toJson).all encodable = true ↔ ∀ t ∈ l.texts, encodable t = true := by
  have hscalar : (Python.texts l.confidence).all encodable = true := by
    cases hc : l.confidence with
    | bool | int | float => rfl
    | _ =>
      rw [hc] at h
      cases h
  rw [Lead.toJson, all_texts_obj (by exact encodable_documentKeys.2.1)]
  simp only [List.map_cons, List.map_nil, List.forall_mem_cons, all_texts_textArray, hscalar, Lead.texts, Lead.labelled,
    Lead.items, List.forall_mem_append]
  simp only [Python.texts, List.all_cons, List.all_nil, Bool.and_true, List.not_mem_nil, false_implies, implies_true, true_and,
    and_true]
  tauto

theorem Submission.encodable_documentOf {s : Submission} {sampling : Json} (hbuilt : s.entrant.Built sampling)
    (hleads : ∀ l ∈ s.leads, l.postInit = .ok ()) :
    encodable (render (s.documentOf (s.entrant.documentOf (sortKeys sampling)))) = true ↔
      ∀ t ∈ s.texts, encodable t = true := by
  have hsampling : (Python.texts (sortKeys sampling)).all encodable = encodable s.entrant.samplingJson := by
    rw [hbuilt.rendered, ← render_sortKeys, encodable_render]
  have hentrant : (Python.texts (s.entrant.documentOf (sortKeys sampling))).all encodable = true ↔
      ∀ t ∈ [s.entrant.entrantId, s.entrant.provider, s.entrant.exactModelId, s.entrant.endpointMode,
        s.entrant.samplingJson], encodable t = true := by
    rw [EntrantConfig.documentOf, all_texts_obj (by exact encodable_documentKeys.1)]
    simp only [List.map_cons, List.map_nil, List.forall_mem_cons, hsampling]
    simp only [Python.texts, List.all_cons, List.all_nil, Bool.and_true, List.not_mem_nil, false_implies, implies_true]
  have hitems : (Python.texts (.arr (s.leads.map Lead.toJson))).all encodable = true ↔
      ∀ t ∈ s.leads.flatMap Lead.texts, encodable t = true := by
    rw [Python.texts, all_itemTexts, List.forall_mem_map]
    simp only [List.mem_flatMap]
    constructor
    · rintro h t ⟨l, hl, ht⟩
      exact (Lead.encodable_toJson (Lead.printable_confidence (hleads l hl)).1).mp (h l hl) t ht
    · intro h l hl
      exact (Lead.encodable_toJson (Lead.printable_confidence (hleads l hl)).1).mpr fun t ht => h t ⟨l, hl, ht⟩
  rw [encodable_render, Submission.documentOf, all_texts_obj (by exact encodable_documentKeys.2.2)]
  simp only [List.map_cons, List.map_nil, List.forall_mem_cons, hentrant, hitems, all_texts_textArray, Submission.texts,
    List.forall_mem_append]
  simp only [Python.texts, List.all_cons, List.all_nil, Bool.and_true, List.not_mem_nil, false_implies, implies_true,
    and_true]
  tauto

end Document

section RoundTrip

variable {s s' : Submission} {sampling : Json}

omit [PyRuntime] in
/-- What the constructor checks of a submission. -/
theorem Submission.postInit_iff : s.postInit = .ok () ↔ s.leads.length ≤ 20 ∧ s.applyNowUrls.length ≤ 5 ∧
    (∀ url ∈ s.applyNowUrls, url ∈ s.leads.map Lead.sourceUrl) ∧ (0 ≤ s.searchCalls ∧ s.searchCalls ≤ 20) ∧
    strip s.searchStrategySummary ≠ [] := by
  unfold Submission.postInit
  simp only [bind_eq_ok_iff, exists_unit_iff, check_eq_ok_iff, pure_eq_ok_iff, requiredText_str_iff, and_true,
    exists_eq_right]

/-- What is read back of a submission. -/
theorem Submission.fromMapping_documentOf_iff (hbuilt : s.entrant.Built sampling) (hreal : ∀ l ∈ s.leads, Legible l.confidence) :
    Submission.fromMapping (sortKeys (s.documentOf (s.entrant.documentOf (sortKeys sampling)))) = .ok s' ↔
      strip s.candidateFingerprint ≠ [] ∧ strip s.competitionFingerprint ≠ [] ∧ strip s.searchStrategySummary ≠ [] ∧
      (∀ t ∈ s.applyNowUrls ++ s.rejectedOrDowngraded ++ s.uncertainties, strip t ≠ []) ∧
      ∃ leads, List.Forall₂ (fun l l' => Lead.fromMapping (sortKeys l.toJson) = .ok l') s.leads leads ∧
        (s.thawed leads).postInit = .ok () ∧ s' = s.thawed leads := by
  have hlegible := Submission.legible_documentOf hreal hbuilt.legible_documentOf
  have hkeys := hlegible.uniqueKeys
  have hget : ∀ {k : PyStr} {w : Json}, get (s.documentOf (s.entrant.documentOf (sortKeys sampling))) k = w →
      get (sortKeys (s.documentOf (s.entrant.documentOf (sortKeys sampling)))) k = sortKeys w := by
    intro k w hk
    rw [get_sortKeys hkeys, hk]
  let d := sortKeys (s.documentOf (s.entrant.documentOf (sortKeys sampling)))
  have hcandidate : get d "candidate_fingerprint" = .str s.candidateFingerprint := hget rfl
  have hcompetition : get d "competition_fingerprint" = .str s.competitionFingerprint := hget rfl
  have hsummary : get d "search_strategy_summary" = .str s.searchStrategySummary := hget rfl
  have hcalls : get d "search_calls" = .int s.searchCalls := hget rfl
  have hentrant : get d "entrant" = sortKeys (s.entrant.documentOf (sortKeys sampling)) := hget rfl
  have hleads : get d "leads" = .arr (s.leads.map (sortKeys ∘ Lead.toJson)) := by
    rw [← List.map_map, ← sortItems_eq_map]
    exact hget rfl
  have harray : ∀ {k : PyStr} {l : List PyStr},
      (∀ other, getOr (s.documentOf (s.entrant.documentOf (sortKeys sampling))) k other = textArray l) →
      getOr d k (.arr []) = textArray l := by
    intro k l hk
    rw [getOr_sortKeys hkeys hk]
    exact sortKeys_textArray _
  have hurls := harray (k := "apply_now_urls") (l := s.applyNowUrls) fun _ => rfl
  have hrejected := harray (k := "rejected_or_downgraded") (l := s.rejectedOrDowngraded) fun _ => rfl
  have huncertain := harray (k := "uncertainties") (l := s.uncertainties) fun _ => rfl
  have hmaps : ∀ item ∈ s.leads.map (sortKeys ∘ Lead.toJson), isMapping item = true := by
    rw [List.forall_mem_map]
    exact fun l _ => rfl
  have hmapM : ∀ leads, (s.leads.map (sortKeys ∘ Lead.toJson)).mapM Lead.fromMapping = .ok leads ↔
      List.Forall₂ (fun l l' => Lead.fromMapping (sortKeys l.toJson) = .ok l') s.leads leads := by
    intro leads
    rw [mapM_eq_ok_iff, List.forall₂_map_left_iff]
    rfl
  unfold Submission.fromMapping
  rw [hcandidate, hcompetition, hsummary, hcalls, hentrant, hleads, hurls, hrejected, huncertain]
  simp only [bind_eq_ok_iff, exists_unit_iff, check_eq_ok_iff, pure_eq_ok_iff, hbuilt.roundTrip, hmapM,
    requiredText_str_iff, stringTuple_textArray_iff, exists_eq_left', Except.ok.injEq, List.forall_mem_append]
  constructor
  · rintro ⟨-, -, _, ⟨hcand, rfl⟩, _, ⟨hcomp, rfl⟩, leads, hread, _, ⟨hurl, -, rfl⟩, _, ⟨hsum, rfl⟩, _, ⟨hrej, -, rfl⟩, _,
      ⟨hunc, -, rfl⟩, hpost, rfl⟩
    exact ⟨hcand, hcomp, hsum, ⟨⟨hurl, hrej⟩, hunc⟩, leads, hread, hpost, rfl⟩
  · rintro ⟨hcand, hcomp, hsum, ⟨⟨hurl, hrej⟩, hunc⟩, leads, hread, hpost, rfl⟩
    exact ⟨rfl, hmaps, _, ⟨hcand, rfl⟩, _, ⟨hcomp, rfl⟩, leads, hread, _, ⟨hurl, .inr trivial, rfl⟩, _, ⟨hsum, rfl⟩, _,
      ⟨hrej, .inr trivial, rfl⟩, _, ⟨hunc, .inr trivial, rfl⟩, hpost, rfl⟩

theorem contentDigest_eq_ok_iff {content digest : PyStr} :
    contentDigest content = .ok digest ↔ encodable content = true ∧ digest = textDigest content := by
  unfold contentDigest QA0.encode
  split_ifs with h
  · rw [bind_eq_ok_iff]
    simp only [Except.ok.injEq, exists_eq_left', pure_eq_ok_iff, h, true_and]
    exact eq_comm
  · simp [h]

/-- What freezing a submission stores. -/
theorem FrozenSubmission.freeze_eq_ok_iff (hbuilt : s.entrant.Built sampling) {f : FrozenSubmission} :
    FrozenSubmission.freeze s = .ok f ↔ nesting sampling ≤ PyRuntime.recursionLimit ∧
      intsPrintable (s.documentOf (s.entrant.documentOf (sortKeys sampling))) = true ∧
      encodable (render (s.documentOf (s.entrant.documentOf (sortKeys sampling)))) = true ∧
      f = ⟨s.entrant.entrantId, render (s.documentOf (s.entrant.documentOf (sortKeys sampling))),
        textDigest (render (s.documentOf (s.entrant.documentOf (sortKeys sampling))))⟩ := by
  unfold FrozenSubmission.freeze Submission.asDict EntrantConfig.asDict
  simp only [bind_eq_ok_iff, pure_eq_ok_iff, hbuilt.rendered, loads_render_iff hbuilt.legible hbuilt.printable,
    canonicalJson_eq_ok_iff, contentDigest_eq_ok_iff]
  constructor
  · rintro ⟨_, ⟨_, ⟨_, ⟨hnest, rfl⟩, rfl⟩, rfl⟩, _, ⟨hprint, rfl⟩, _, ⟨hencode, rfl⟩, rfl⟩
    exact ⟨hnest, hprint, hencode, rfl⟩
  · rintro ⟨hnest, hprint, hencode, rfl⟩
    exact ⟨_, ⟨_, ⟨_, ⟨hnest, rfl⟩, rfl⟩, rfl⟩, _, ⟨hprint, rfl⟩, _, ⟨hencode, rfl⟩, rfl⟩

/-- What thawing a rendered document reads. -/
theorem FrozenSubmission.thawVerified_eq_ok_iff {document : Json} {entrantId : PyStr} (hlegible : Legible document)
    (hprint : intsPrintable document = true) (hencode : encodable (render document) = true) :
    FrozenSubmission.thawVerified ⟨entrantId, render document, textDigest (render document)⟩ = .ok s' ↔
      nesting document ≤ PyRuntime.recursionLimit ∧ isMapping (sortKeys document) = true ∧
      Submission.fromMapping (sortKeys document) = .ok s' ∧ s'.entrant.entrantId = entrantId := by
  unfold FrozenSubmission.thawVerified
  simp only [bind_eq_ok_iff, exists_unit_iff, check_eq_ok_iff, pure_eq_ok_iff, contentDigest_eq_ok_iff,
    loads_render_iff hlegible hprint]
  constructor
  · rintro ⟨_, -, -, _, ⟨hnest, rfl⟩, hmap, _, hread, hid, rfl⟩
    exact ⟨hnest, hmap, hread, hid⟩
  · rintro ⟨hnest, hmap, hread, hid⟩
    exact ⟨_, ⟨hencode, rfl⟩, rfl, _, ⟨hnest, rfl⟩, hmap, _, hread, hid, rfl⟩

/-- Every lead comes back as it was exactly when every lead is settled. -/
theorem Lead.roundTrips_iff {leads : List Lead} (h : ∀ l ∈ leads, l.Accepted) :
    (∃ leads', List.Forall₂ (fun l l' => Lead.fromMapping (sortKeys l.toJson) = .ok l') leads leads' ∧
      List.Forall₂ Lead.same leads' leads) ↔ ∀ l ∈ leads, l.Settled := by
  induction leads with
  | nil =>
    refine ⟨fun _ => by simp, fun _ => ⟨[], .nil, .nil⟩⟩
  | cons l ls ih =>
    rw [List.forall_mem_cons] at h ⊢
    rw [← ih h.2, ← Lead.roundTrip_iff h.1]
    constructor
    · rintro ⟨_, hread, hsame⟩
      cases hread with
      | cons hl hls =>
        rw [List.forall₂_cons] at hsame
        exact ⟨⟨_, hl, hsame.1⟩, _, hls, hsame.2⟩
    · rintro ⟨⟨l', hl, hsame⟩, ls', hls, hsames⟩
      exact ⟨l' :: ls', .cons hl hls, .cons hsame hsames⟩

omit [PyRuntime] in
theorem Lead.sourceUrls_of_same {leads leads' : List Lead} (h : List.Forall₂ Lead.same leads leads') :
    leads.map Lead.sourceUrl = leads'.map Lead.sourceUrl := by
  induction h with
  | nil => rfl
  | cons hl _ ih =>
    have hurl := congrArg Lead.sourceUrl hl.2
    rw [List.map_cons, List.map_cons, ih]
    exact congrArg (· :: _) hurl

/-- What comes back of a submission that is frozen and thawed. -/
theorem Submission.thaws_iff (h : s.Accepted) :
    (∃ f, FrozenSubmission.freeze s = .ok f ∧ f.thawVerified = .ok s') ↔
      (∀ t ∈ s.texts, encodable t = true) ∧
      (∃ sampling, loads s.entrant.samplingJson = .ok sampling ∧
        nesting (s.documentOf (s.entrant.documentOf sampling)) ≤ PyRuntime.recursionLimit) ∧
      strip s.candidateFingerprint ≠ [] ∧ strip s.competitionFingerprint ≠ [] ∧
      (∀ t ∈ s.applyNowUrls ++ s.rejectedOrDowngraded ++ s.uncertainties, strip t ≠ []) ∧
      ∃ leads, List.Forall₂ (fun l l' => Lead.fromMapping (sortKeys l.toJson) = .ok l') s.leads leads ∧
        (s.thawed leads).postInit = .ok () ∧ s' = s.thawed leads := by
  obtain ⟨document, hdocument, hentrant⟩ := h.entrant
  obtain ⟨sampling, hbuilt⟩ := EntrantConfig.built_of_fromMapping hdocument hentrant
  have hreal := fun l hl => (h.leads l hl).real
  have hchecked := fun l hl => (h.leads l hl).checked
  have hlegible := Submission.legible_documentOf hreal hbuilt.legible_documentOf
  have hsampling : intsPrintable (s.entrant.documentOf (sortKeys sampling)) = true := by
    rw [EntrantConfig.documentOf, intsPrintable_obj]
    simp only [List.all_cons, List.all_nil, intsPrintable_sortKeys, hbuilt.printable]
    simp only [intsPrintable, Bool.and_self]
  have hprint := Submission.printable_documentOf h.checked hchecked hsampling
  have hencodable := Submission.encodable_documentOf hbuilt hchecked
  have hsummary := (Submission.postInit_iff.mp h.checked).2.2.2.2
  rw [hbuilt.rendered]
  constructor
  · rintro ⟨f, hfreeze, hthaw⟩
    obtain ⟨hnest, -, hencode, rfl⟩ := (FrozenSubmission.freeze_eq_ok_iff hbuilt).mp hfreeze
    obtain ⟨hdeep, -, hread, -⟩ := (FrozenSubmission.thawVerified_eq_ok_iff hlegible hprint hencode).mp hthaw
    obtain ⟨hcand, hcomp, -, hitems, hleads⟩ := (Submission.fromMapping_documentOf_iff hbuilt hreal).mp hread
    exact ⟨hencodable.mp hencode, ⟨_, (loads_render_iff hbuilt.legible hbuilt.printable).mpr ⟨hnest, rfl⟩, hdeep⟩, hcand,
      hcomp, hitems, hleads⟩
  · rintro ⟨hencode, ⟨_, hload, hdeep⟩, hcand, hcomp, hitems, leads, hleads, hpost, rfl⟩
    obtain ⟨hnest, rfl⟩ := (loads_render_iff hbuilt.legible hbuilt.printable).mp hload
    have hfreeze := (FrozenSubmission.freeze_eq_ok_iff hbuilt).mpr ⟨hnest, hprint, hencodable.mpr hencode, rfl⟩
    have hread := (Submission.fromMapping_documentOf_iff hbuilt hreal).mpr
      ⟨hcand, hcomp, hsummary, hitems, leads, hleads, hpost, rfl⟩
    exact ⟨_, hfreeze, (FrozenSubmission.thawVerified_eq_ok_iff hlegible hprint (hencodable.mpr hencode)).mpr
      ⟨hdeep, rfl, hread, rfl⟩⟩

omit [PyRuntime] in
theorem trimmed_of_strip {t : PyStr} (hne : strip t ≠ []) (heq : strip t = t) : Trimmed t := ⟨heq, by rwa [heq] at hne⟩

omit [PyRuntime] in
theorem Trimmed.strip_ne {t : PyStr} (h : Trimmed t) : strip t ≠ [] := by
  rw [h.1]
  exact h.2

/-- A submission that comes back as it was is settled. -/
theorem Submission.settled_of_thaws (h : s.Accepted)
    (hthaws : ∃ f s', FrozenSubmission.freeze s = .ok f ∧ f.thawVerified = .ok s' ∧ s'.Same s) : s.Settled := by
  obtain ⟨f, s', hfreeze, hthaw, hsame⟩ := hthaws
  obtain ⟨hencode, hshallow, hcand, hcomp, hitems, leads, hleads, -, rfl⟩ := (Submission.thaws_iff h).mp ⟨f, hfreeze, hthaw⟩
  obtain ⟨-, ⟨hcand', hcomp'⟩, hsames, ⟨-, hrejected, huncertain⟩, hsummary, -⟩ := hsame
  simp only [Submission.thawed] at hcand' hcomp' hrejected huncertain hsummary hsames
  rw [map_strip_eq_iff] at hrejected huncertain
  simp only [List.forall_mem_append] at hitems
  refine ⟨(Lead.roundTrips_iff h.leads).mp ⟨leads, hleads, hsames⟩,
    ⟨trimmed_of_strip hcand hcand', trimmed_of_strip hcomp hcomp'⟩, ?_, hsummary, hencode, hshallow⟩
  rw [List.forall_mem_append]
  constructor
  · exact fun t ht => trimmed_of_strip (hitems.1.2 t ht) (hrejected t ht)
  · exact fun t ht => trimmed_of_strip (hitems.2 t ht) (huncertain t ht)

/-- An Apply-Now text is the source of a lead, which is settled. -/
theorem Submission.Settled.applyNow (h : s.Accepted) (hs : s.Settled) : ∀ t ∈ s.applyNowUrls, Trimmed t := by
  intro t ht
  obtain ⟨-, -, hurls, -, -⟩ := Submission.postInit_iff.mp h.checked
  obtain ⟨l, hl, rfl⟩ := List.mem_map.mp (hurls t ht)
  have hmem : (py "source_url", l.sourceUrl) ∈ l.labelled := by simp [Lead.labelled]
  exact trimmed_of_strip ((Lead.postInit_iff.mp (h.leads l hl).checked).1 _ hmem) ((hs.leads l hl).texts _ hmem)

/-- A settled submission comes back as it was. -/
theorem Submission.thaws_of_settled (h : s.Accepted) (hs : s.Settled) :
    ∃ f s', FrozenSubmission.freeze s = .ok f ∧ f.thawVerified = .ok s' ∧ s'.Same s := by
  obtain ⟨hcount, happly, hurls, hcalls, hsummary⟩ := Submission.postInit_iff.mp h.checked
  obtain ⟨leads, hleads, hsames⟩ := (Lead.roundTrips_iff h.leads).mpr hs.leads
  have hitems := hs.items
  rw [List.forall_mem_append] at hitems
  have happlied := hs.applyNow h
  have hthawed : s.thawed leads = { s with leads := leads } := by
    unfold Submission.thawed
    rw [hs.fingerprints.1.1, hs.fingerprints.2.1, hs.summary, map_strip_eq_iff.mpr fun t ht => (happlied t ht).1,
      map_strip_eq_iff.mpr fun t ht => (hitems.1 t ht).1, map_strip_eq_iff.mpr fun t ht => (hitems.2 t ht).1]
  have hpost : (s.thawed leads).postInit = .ok () := by
    rw [hthawed, Submission.postInit_iff]
    refine ⟨?_, happly, ?_, hcalls, hsummary⟩
    · rw [hsames.length_eq]
      exact hcount
    · rw [Lead.sourceUrls_of_same hsames]
      exact hurls
  have hnonempty : ∀ t ∈ s.applyNowUrls ++ s.rejectedOrDowngraded ++ s.uncertainties, strip t ≠ [] := by
    simp only [List.forall_mem_append]
    exact ⟨⟨fun t ht => (happlied t ht).strip_ne, fun t ht => (hitems.1 t ht).strip_ne⟩,
      fun t ht => (hitems.2 t ht).strip_ne⟩
  obtain ⟨f, hfreeze, hthaw⟩ := (Submission.thaws_iff h).mpr ⟨hs.encodable, hs.shallow, hs.fingerprints.1.strip_ne,
    hs.fingerprints.2.strip_ne, hnonempty, leads, hleads, hpost, rfl⟩
  refine ⟨f, _, hfreeze, hthaw, ?_⟩
  rw [hthawed]
  exact ⟨rfl, ⟨rfl, rfl⟩, hsames, ⟨rfl, rfl, rfl⟩, rfl, rfl⟩

/-- A submission that was accepted is thawed as it was frozen exactly when it is settled. -/
theorem freeze_thaw_iff (h : s.Accepted) :
    (∃ f s', FrozenSubmission.freeze s = .ok f ∧ f.thawVerified = .ok s' ∧ s'.Same s) ↔ s.Settled :=
  ⟨Submission.settled_of_thaws h, Submission.thaws_of_settled h⟩

end RoundTrip

end Submissions

section Sample

open Python.Whole

/-- A lead of the given company. -/
def sampleLead (company : PyStr) : Lead := {
  company := company
  role := "Evaluation Engineer"
  sourceUrl := "https://jobs.example/1"
  officialSource := true
  openStatus := "OPEN"
  remoteScope := "REMOTE"
  locationConstraint := "NONE"
  employmentType := "FULL_TIME"
  requiredSkills := ["Python"]
  candidateFit := "STRONG"
  mismatchRisks := []
  portfolioRelevance := "HIGH"
  confidence := .int 1
  nextAction := "APPLY"
  evidenceUrls := ["https://jobs.example/1"]
  claimedNovel := false }

/-- A submission with one lead. -/
def sampleSubmission (company : PyStr) : Submission := {
  entrant := ⟨"entrant", "provider", "model", "chat", "\x7b\x7d"⟩
  candidateFingerprint := "candidate"
  competitionFingerprint := "competition"
  leads := [sampleLead company]
  applyNowUrls := ["https://jobs.example/1"]
  searchStrategySummary := "searched"
  rejectedOrDowngraded := []
  uncertainties := ["salary"]
  searchCalls := 1 }

/-- The constructors accept both samples. -/
theorem sampleSubmission_checked : ((sampleLead "Acme").postInit = .ok () ∧ (sampleSubmission "Acme").postInit = .ok ()) ∧
    (sampleLead " Acme").postInit = .ok () ∧ (sampleSubmission " Acme").postInit = .ok () := by decide +kernel

theorem accepted_sampleSubmission {company : PyStr} (hlead : (sampleLead company).postInit = .ok ())
    (hsubmission : (sampleSubmission company).postInit = .ok ()) : (sampleSubmission company).Accepted where
  entrant := by
    refine ⟨.obj [("entrant_id", .str "entrant"), ("provider", .str "provider"), ("exact_model_id", .str "model"),
      ("endpoint_mode", .str "chat"), ("sampling", .obj [])], legible_of_floatless (by decide +kernel), ?_⟩
    show _ = Except.ok (EntrantConfig.mk _ _ _ _ _)
    decide +kernel
  leads := by
    intro l hl
    obtain rfl := List.mem_singleton.mp hl
    exact ⟨hlead, trivial⟩
  checked := hsubmission

theorem freeze_thaw_sample : ∃ f s', FrozenSubmission.freeze (sampleSubmission "Acme") = .ok f ∧ f.thawVerified = .ok s' ∧
    s'.Same (sampleSubmission "Acme") := by
  rw [freeze_thaw_iff (accepted_sampleSubmission sampleSubmission_checked.1.1 sampleSubmission_checked.1.2)]
  refine ⟨?_, by decide +kernel, by decide +kernel, by decide +kernel, by decide +kernel, .obj [], rfl, by decide +kernel⟩
  intro l hl
  obtain rfl := List.mem_singleton.mp hl
  exact ⟨by decide +kernel, by decide +kernel, rfl⟩

/-- The constructors accept a company with a space before it, which thawing takes away. -/
theorem freeze_thaw_counterexample : (sampleSubmission " Acme").Accepted ∧
    ¬∃ f s', FrozenSubmission.freeze (sampleSubmission " Acme") = .ok f ∧ f.thawVerified = .ok s' ∧
      s'.Same (sampleSubmission " Acme") := by
  have haccepted : (sampleSubmission " Acme").Accepted :=
    accepted_sampleSubmission sampleSubmission_checked.2.1 sampleSubmission_checked.2.2
  refine ⟨haccepted, fun hthaws => ?_⟩
  have hsettled := (Submission.settled_of_thaws haccepted hthaws).leads _ (List.mem_singleton.mpr rfl)
  have hstrip : strip " Acme" = " Acme" := hsettled.texts (py "company", py " Acme") (by simp [Lead.labelled, sampleLead])
  revert hstrip
  decide +kernel

end Sample

end EvaluationLab.SearchCup
