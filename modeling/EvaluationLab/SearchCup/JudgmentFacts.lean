import EvaluationLab.SearchCup.Judgment
import EvaluationLab.SearchCup.Literal
import EvaluationLab.SearchCup.PoolRoundTrip
import EvaluationLab.Structure.Grown

/-! What every journal of judgments has: independent first passes, then overrides that bind all that came
before them. -/
namespace EvaluationLab.SearchCup
open Python Effect Structure
open QA0 (Fields)

section Journal

variable [PyRuntime] [PyNormalization] {aliases : List PyStr} {package : Json} {prior : List Json} {entry : Json}

/-- One time is read as not before another. -/
def NotBefore (first second : PyStr) : Prop := ∃ t s, timestamp first = .ok t ∧ timestamp second = .ok s ∧ s ≤ t

omit [PyNormalization] in
theorem notBefore_ok_iff {first second : PyStr} {e : PyExc} : notBefore first second e = .ok () ↔ NotBefore first second := by
  unfold notBefore
  simp only [bind_eq_ok_iff, check_eq_ok_iff]
  constructor
  · rintro ⟨t, ht, s, hs, hle⟩
    exact ⟨t, s, ht, hs, hle⟩
  · rintro ⟨t, s, ht, hs, hle⟩
    exact ⟨t, ht, s, hs, hle⟩

/-- A record beside one before it: the same run, the same judge under the same alias, another pair. -/
structure Peer (old record : Json) : Prop where
  run : runId old = runId record
  judge : judgeAlias old = judgeAlias record → pyEq (get old "judge_identity") (get record "judge_identity") = true
  fresh : recordId old ≠ recordId record
  pair : judged old ≠ judged record

omit [PyRuntime] [PyNormalization] in
theorem checkPeer_ok_iff {record old : Json} : checkPeer record old = .ok () ↔ Peer old record := by
  unfold checkPeer
  simp only [bind_eq_ok_iff, exists_unit_iff, check_eq_ok_iff]
  constructor
  · rintro ⟨hrun, hjudge, hfresh, hpair⟩
    exact ⟨hrun, hjudge, hfresh, hpair⟩
  · rintro ⟨hrun, hjudge, hfresh, hpair⟩
    exact ⟨hrun, hjudge, hfresh, hpair⟩

theorem frozen_of_validateRecord {record : Json} (h : validateRecord record package = .ok ()) :
    ∃ c ∈ frozenCandidates package, candidateOf c = candidateOf record := by
  unfold validateRecord at h
  simp only [bind_eq_ok_iff, exists_unit_iff, check_eq_ok_iff] at h
  obtain ⟨-, -, -, _, -, -, -, -, -, _, -, -, hrest⟩ := h
  cases hfound : (frozenCandidates package).find? fun c => decide (candidateOf c = candidateOf record) with
  | none =>
    rw [hfound] at hrest
    cases hrest
  | some candidate =>
    have hcandidate := List.find?_some hfound
    rw [decide_eq_true_eq] at hcandidate
    exact ⟨candidate, List.mem_of_find?_eq_some hfound, hcandidate⟩

/-- A first pass that is admitted. -/
structure FirstPass (aliases : List PyStr) (package : Json) (prior : List Json) (entry : Json) : Prop where
  shape : Fits firstPassSchema entry
  valid : validateRecord (get entry "record") package = .ok ()
  declared : judgeAlias (get entry "record") ∈ aliases
  peers : ∀ old ∈ recordsOf prior, Peer old (get entry "record")
  early : ∀ old ∈ prior, isOverride old = false

theorem checkFirstPass_ok_iff : checkFirstPass aliases package prior entry = .ok () ↔ FirstPass aliases package prior entry := by
  unfold checkFirstPass
  simp only [bind_eq_ok_iff, exists_unit_iff, validateContract_ok_iff, check_eq_ok_iff, forM_eq_ok_iff, checkPeer_ok_iff]
  constructor
  · rintro ⟨hshape, hvalid, hdeclared, hpeers, hearly⟩
    exact ⟨hshape, hvalid, hdeclared, hpeers, hearly⟩
  · rintro ⟨hshape, hvalid, hdeclared, hpeers, hearly⟩
    exact ⟨hshape, hvalid, hdeclared, hpeers, hearly⟩

/-- The records of one candidate. -/
def relatedTo (entry : Json) (records : List Json) : List Json := records.filter fun r => candidateOf r = candidateOf entry

/-- An override that is admitted. -/
structure Override (aliases : List PyStr) (package : Json) (prior : List Json) (entry : Json) : Prop where
  chain : fingerprint (.arr prior) = .ok (asText (get entry "previous_journal_fingerprint"))
  complete : ∀ p ∈ expectedPairs aliases package, p ∈ (recordsOf prior).map judged
  named : ∀ d, d ∈ asTexts (get entry "prior_machine_fingerprints") ↔ d ∈ (relatedTo entry (recordsOf prior)).map sealOf
  evidence : ∃ c ∈ frozenCandidates package, candidateOf c = candidateOf entry ∧
    Within (asItems (get entry "evidence_used")) (asItems (get c "evidence"))
  records : ∀ r ∈ recordsOf prior, NotBefore (asText (get entry "timestamp")) (asText (get r "committed_at"))
  overrides : ∀ old ∈ prior, isOverride old = true → NotBefore (asText (get entry "timestamp")) (asText (get old "timestamp"))

omit [PyNormalization] in
theorem override_of_checkOverride (h : checkOverride aliases package prior entry = .ok ()) : Override aliases package prior entry := by
  unfold checkOverride at h
  simp only [bind_eq_ok_iff, exists_unit_iff, validateContract_ok_iff, check_eq_ok_iff] at h
  obtain ⟨-, -, -, chain, hchain, hequal, ⟨-, hcomplete⟩, ⟨hnamed, hall, -⟩, -, -, -, hrest⟩ := h
  cases hfound : (frozenCandidates package).find? fun c => decide (candidateOf c = candidateOf entry) with
  | none =>
    rw [hfound] at hrest
    cases hrest
  | some candidate =>
    rw [hfound] at hrest
    simp only [bind_eq_ok_iff, exists_unit_iff, check_eq_ok_iff, forM_eq_ok_iff, notBefore_ok_iff] at hrest
    obtain ⟨hevidence, hrecords, hoverrides⟩ := hrest
    have hcandidate := List.find?_some hfound
    rw [decide_eq_true_eq] at hcandidate
    refine ⟨by rw [hequal, hchain], hcomplete, fun d => ⟨hnamed d, fun hd => ?_⟩,
      ⟨candidate, List.mem_of_find?_eq_some hfound, hcandidate, hevidence⟩, hrecords, fun old hold hkind => ?_⟩
    · obtain ⟨r, hr, rfl⟩ := List.mem_map.mp hd
      exact hall r hr
    · exact hoverrides old (List.mem_filter.mpr ⟨hold, hkind⟩)

/-- The entry is admitted after those before it. -/
def AdmitsEntry (aliases : List PyStr) (package : Json) (prior : List Json) (entry : Json) : Prop :=
  validateEntry aliases package prior entry = .ok ()

/-- An admitted entry is a first pass or an override. -/
theorem AdmitsEntry.cases (h : AdmitsEntry aliases package prior entry) :
    (isFirstPass entry = true ∧ isOverride entry = false ∧ FirstPass aliases package prior entry) ∨
      (isFirstPass entry = false ∧ isOverride entry = true ∧ Override aliases package prior entry) := by
  have hkinds : ∀ v : Json, v.isStr "FIRST_PASS" = true → v.isStr "HUMAN_OVERRIDE" = false := by
    intro v hv
    cases v with
    | str s =>
      have hs : s = py "FIRST_PASS" := by simpa [Json.isStr] using hv
      rw [hs]
      decide +kernel
    | _ => cases hv
  unfold AdmitsEntry validateEntry at h
  cases entry with
  | obj fields =>
    dsimp only at h
    split_ifs at h with hfirst hoverride
    · exact .inl ⟨hfirst, hkinds _ hfirst, checkFirstPass_ok_iff.mp h⟩
    · exact .inr ⟨by simpa using hfirst, hoverride, override_of_checkOverride h⟩
  | _ => cases h

section History

omit [PyRuntime] [PyNormalization] in
theorem recordsOf_append (l m : List Json) : recordsOf (l ++ m) = recordsOf l ++ recordsOf m := by
  rw [recordsOf, List.filter_append, List.map_append, recordsOf, recordsOf]

omit [PyRuntime] [PyNormalization] in
theorem recordsOf_firstPass (h : isFirstPass entry = true) : recordsOf [entry] = [get entry "record"] := by
  simp [recordsOf, h]

omit [PyRuntime] [PyNormalization] in
theorem recordsOf_other (h : isFirstPass entry = false) : recordsOf [entry] = [] := by
  simp [recordsOf, h]

variable {entries : List Json} (h : Grown (AdmitsEntry aliases package) entries)
include h

/-- First passes come first. -/
theorem firstPasses_first : entries = entries.filter isFirstPass ++ entries.filter isOverride := by
  induction h with
  | nil => rfl
  | @snoc l e _ he ih =>
    rw [List.filter_append, List.filter_append]
    rcases he.cases with ⟨hfirst, hother, hpass⟩ | ⟨hother, hoverride, -⟩
    · have hnone : l.filter isOverride = [] := by
        rw [List.filter_eq_nil_iff]
        intro old hold
        rw [hpass.early old hold]
        exact Bool.false_ne_true
      rw [hnone, List.append_nil] at ih
      simp [hfirst, hother, hnone, ← ih]
    · simp only [List.filter_cons, hother, hoverride, List.filter_nil, List.append_nil, if_true, Bool.false_eq_true, if_false]
      rw [← List.append_assoc, ← ih]

/-- Every record stands beside those before it. -/
theorem peers : (recordsOf entries).Pairwise Peer := by
  induction h with
  | nil => exact .nil
  | @snoc l e _ he ih =>
    rw [recordsOf_append]
    rcases he.cases with ⟨hfirst, -, hpass⟩ | ⟨hother, -, -⟩
    · rw [recordsOf_firstPass hfirst, List.pairwise_append]
      refine ⟨ih, List.pairwise_singleton _ _, fun old hold r hr => ?_⟩
      rw [List.mem_singleton.mp hr]
      exact hpass.peers old hold
    · rw [recordsOf_other hother, List.append_nil]
      exact ih

/-- Every record is of a declared judge and a frozen candidate. -/
theorem judged_expected : ∀ r ∈ recordsOf entries, judged r ∈ expectedPairs aliases package := by
  induction h with
  | nil => simp [recordsOf]
  | @snoc l e _ he ih =>
    rw [recordsOf_append]
    rcases he.cases with ⟨hfirst, -, hpass⟩ | ⟨hother, -, -⟩
    · rw [recordsOf_firstPass hfirst]
      intro r hr
      rcases List.mem_append.mp hr with hr | hr
      · exact ih r hr
      · obtain ⟨c, hc, hid⟩ := frozen_of_validateRecord hpass.valid
        rw [List.mem_singleton.mp hr]
        refine List.mem_flatMap.mpr ⟨_, hpass.declared, List.mem_map.mpr ⟨c, hc, ?_⟩⟩
        rw [hid, judged]
    · rw [recordsOf_other hother, List.append_nil]
      exact ih

omit h [PyRuntime] [PyNormalization] in
/-- The entries before, at and after a position. -/
theorem split_at {k : ℕ} {o : Json} (hk : entries[k]? = some o) : entries = entries.take k ++ o :: entries.drop (k + 1) := by
  obtain ⟨hlt, rfl⟩ := List.getElem?_eq_some_iff.mp hk
  rw [List.getElem_cons_drop, List.take_append_drop]

/-- No first pass comes after an override. -/
theorem isFirstPass_after {k : ℕ} {o : Json} (hk : entries[k]? = some o) (ho : isOverride o = true) :
    ∀ e ∈ entries.drop (k + 1), isFirstPass e = false := by
  intro e he
  obtain ⟨l, m, hlm⟩ := List.append_of_mem he
  have hsplit := split_at hk
  rw [hlm, ← List.cons_append, ← List.append_assoc] at hsplit
  rw [hsplit] at h
  rcases h.admitted.cases with ⟨-, -, hpass⟩ | ⟨hother, -, -⟩
  · have hearly := hpass.early o (by simp)
    rw [ho] at hearly
    cases hearly
  · exact hother

/-- The override at a position is admitted after the entries before it. -/
theorem override_at {k : ℕ} {o : Json} (hk : entries[k]? = some o) (ho : isOverride o = true) :
    isFirstPass o = false ∧ Override aliases package (entries.take k) o := by
  rw [split_at hk] at h
  rcases h.admitted.cases with ⟨-, hother, -⟩ | ⟨hfirst, -, hoverride⟩
  · rw [ho] at hother
    cases hother
  · exact ⟨hfirst, hoverride⟩

/-- All records come before the first override. -/
theorem recordsOf_take {k : ℕ} {o : Json} (hk : entries[k]? = some o) (ho : isOverride o = true) :
    recordsOf (entries.take k) = recordsOf entries := by
  have hlater : recordsOf (o :: entries.drop (k + 1)) = [] := by
    rw [recordsOf, List.map_eq_nil_iff, List.filter_eq_nil_iff]
    intro e he
    rw [Bool.not_eq_true]
    rcases List.mem_cons.mp he with rfl | he
    · exact (override_at h hk ho).1
    · exact isFirstPass_after h hk ho e he
  conv_rhs => rw [split_at hk, recordsOf_append, hlater, List.append_nil]

end History

section Packages

omit [PyRuntime] [PyNormalization] in
theorem get_of_required {document v : Json} {k : PyStr} (h : required document k = .ok v) : get document k = v := by
  unfold required at h
  cases document with
  | obj fields =>
    dsimp only at h
    cases hk : fields.lookup k with
    | none =>
      rw [hk] at h
      cases h
    | some w =>
      rw [hk] at h
      cases h
      exact dictGet_of_lookup hk
  | _ => cases h

/-- A frozen package has one candidate of each identity. -/
theorem nodup_frozenCandidates (h : validatePackage package = .ok ()) : ((frozenCandidates package).map candidateOf).Nodup := by
  unfold validatePackage at h
  simp only [bind_eq_ok_iff, exists_unit_iff, reshaping_eq_ok_iff] at h
  obtain ⟨-, rebuilt, hrebuilt, -⟩ := h
  unfold rebuildPackage at hrebuilt
  simp only [bind_eq_ok_iff] at hrebuilt
  obtain ⟨_, -, _, -, pool, hpool, _, -, _, -, _, -, _, -, _, -, _, -, hpackage⟩ := hrebuilt
  unfold judgmentPackage at hpackage
  simp only [bind_eq_ok_iff] at hpackage
  obtain ⟨_, hcontract, -⟩ := hpackage
  unfold judgmentContract at hcontract
  simp only [bind_eq_ok_iff, exists_unit_iff] at hcontract
  have hvalid := hcontract.1
  unfold validatePool at hvalid
  simp only [bind_eq_ok_iff, exists_unit_iff, reshaping_eq_ok_iff, validatePoolBody_ok_iff] at hvalid
  obtain ⟨-, _, -, -, -, -, hids, -⟩ := hvalid
  have hnodup : ((asItems (get pool "candidates")).map fun c => asText (get c "candidate_id")).Nodup := by
    rw [hids]
    exact nodup_sortedSet _
  rw [frozenCandidates, get_of_required hpool]
  exact hnodup

end Packages

section Pairs

omit [PyRuntime] [PyNormalization] in
theorem nodup_expectedPairs (haliases : aliases.Nodup) (hcandidates : ((frozenCandidates package).map candidateOf).Nodup) :
    (expectedPairs aliases package).Nodup := by
  have hproduct : expectedPairs aliases package = aliases ×ˢ (frozenCandidates package).map candidateOf := by
    simp only [expectedPairs, SProd.sprod, List.product, List.map_map]
    rfl
  rw [hproduct]
  exact haliases.product hcandidates

end Pairs

section Chain

variable [RoundTripFloats]

omit [PyNormalization] in
/-- The entries that a canonical text stands for come with sorted keys. -/
theorem sorted_of_canonical {text : PyStr} {entries : List Json} (hload : loads text = .ok (.arr entries))
    (hcanonical : QA0.canonicalJson (.arr entries) = .ok text) :
    ∀ e ∈ entries, Plain e ∧ sortKeys e = e := by
  have hlegible := legible_of_loads hload
  unfold QA0.canonicalJson at hcanonical
  split_ifs at hcanonical with hprint
  cases hcanonical
  obtain ⟨-, hsorted⟩ := (loads_render_iff hlegible hprint).mp hload
  have hplain : Plain (.arr entries) := ⟨hlegible, hprint⟩
  rw [sortKeys, sortItems_eq_map, Json.arr.injEq] at hsorted
  intro e he
  refine ⟨plain_arr_iff.mp hplain e he, ?_⟩
  obtain ⟨i, hi, rfl⟩ := List.getElem_of_mem he
  have hat := congrArg (fun l => l[i]?) hsorted
  simpa [hi] using hat.symm

omit [PyNormalization] [RoundTripFloats] in
/-- Lists of sorted entries with one fingerprint are the same list, when SHA-256 tells them apart. -/
theorem eq_of_fingerprint {l m : List Json} (hl : ∀ e ∈ l, Plain e ∧ sortKeys e = e) (hm : ∀ e ∈ m, Plain e ∧ sortKeys e = e)
    {d : PyStr} (hfl : fingerprint (.arr l) = .ok d) (hfm : fingerprint (.arr m) = .ok d)
    (hapart : ToldApart (.arr l) (.arr m)) : l = m := by
  have hself : ∀ xs : List Json, (∀ e ∈ xs, Plain e ∧ sortKeys e = e) → sortKeys (.arr xs) = .arr xs := by
    intro xs hxs
    rw [sortKeys, sortItems_eq_map, List.map_congr_left fun e he => (hxs e he).2, List.map_id']
  have hsame := sameJson_of_fingerprint (plain_arr_iff.mpr fun e he => (hl e he).1).legible
    (plain_arr_iff.mpr fun e he => (hm e he).1).legible hfl hfm hapart
  rw [SameJson, hself l hl, hself m hm, Json.arr.injEq] at hsame
  exact hsame

end Chain

section Accepted

/-- What a journal was accepted for. -/
theorem JudgmentJournal.read (journal : JudgmentJournal) : validatePackage journal.package = .ok () ∧
    journal.judgeAliases.Nodup ∧ loads journal.entriesJson = .ok (.arr journal.entries) ∧
    QA0.canonicalJson (.arr journal.entries) = .ok journal.entriesJson ∧
    Grown (AdmitsEntry journal.judgeAliases journal.package) journal.entries := by
  have h := journal.accepted
  unfold readJournal at h
  simp only [bind_eq_ok_iff, exists_unit_iff, check_eq_ok_iff] at h
  obtain ⟨package, -, hvalid, ⟨-, hnodup⟩, -, -, v, hload, h⟩ := h
  cases v with
  | arr entries =>
    simp only [bind_eq_ok_iff, exists_unit_iff, check_eq_ok_iff, pure_eq_ok_iff, Prod.mk.injEq] at h
    obtain ⟨text, htext, rfl, entries', hgrown, rfl, rfl⟩ := h
    obtain ⟨hentries, hhistory⟩ : journal.entries = [] ++ entries ∧
        Grown (AdmitsEntry journal.judgeAliases journal.package) ([] ++ entries) :=
      (Grown.foldlM_iff (fun _ _ => Iff.rfl) .nil).mp hgrown
    rw [List.nil_append] at hentries hhistory
    subst hentries
    exact ⟨hvalid, hnodup, hload, htext, hhistory⟩
  | _ => cases h

theorem JudgmentJournal.history (journal : JudgmentJournal) :
    Grown (AdmitsEntry journal.judgeAliases journal.package) journal.entries := journal.read.2.2.2.2

variable [RoundTripFloats]

/-- In every journal the first passes come first and are made once for each judge and candidate, under one run
and one identity of each judge; as soon as there is an override, all of them are there. An override carries the
fingerprint of the entries before it, names the first passes of its candidate, uses that candidate's evidence,
and is not before anything it follows. So the entries before an override are the only ones it can follow. -/
theorem JudgmentJournal.invariant (journal : JudgmentJournal) :
    journal.entries = journal.entries.filter isFirstPass ++ journal.entries.filter isOverride ∧
    ((recordsOf journal.entries).map judged).Nodup ∧ ((recordsOf journal.entries).map recordId).Nodup ∧
    (∀ r ∈ recordsOf journal.entries, ∀ r' ∈ recordsOf journal.entries, runId r = runId r') ∧
    ((recordsOf journal.entries).Pairwise fun r r' => judgeAlias r = judgeAlias r' →
      pyEq (get r "judge_identity") (get r' "judge_identity") = true) ∧
    ((∃ o ∈ journal.entries, isOverride o = true) →
      ((recordsOf journal.entries).map judged).Perm (expectedPairs journal.judgeAliases journal.package)) ∧
    (∀ (k : ℕ) (o : Json), journal.entries[k]? = some o → isOverride o = true →
      fingerprint (.arr (journal.entries.take k)) = .ok (asText (get o "previous_journal_fingerprint")) ∧
      (∀ d, d ∈ asTexts (get o "prior_machine_fingerprints") ↔
        ∃ r ∈ recordsOf journal.entries, candidateOf r = candidateOf o ∧ sealOf r = d) ∧
      (∃ c ∈ frozenCandidates journal.package, candidateOf c = candidateOf o) ∧
      (∀ c ∈ frozenCandidates journal.package, candidateOf c = candidateOf o →
        Within (asItems (get o "evidence_used")) (asItems (get c "evidence"))) ∧
      (∀ r ∈ recordsOf journal.entries, NotBefore (asText (get o "timestamp")) (asText (get r "committed_at"))) ∧
      ∀ i < k, ∀ o', journal.entries[i]? = some o' → isOverride o' = true →
        NotBefore (asText (get o "timestamp")) (asText (get o' "timestamp"))) ∧
    ∀ (journal' : JudgmentJournal) (l l' m m' : List Json) (o : Json), isOverride o = true →
      journal.entries = l ++ o :: m → journal'.entries = l' ++ o :: m' → ToldApart (.arr l) (.arr l') → l = l' := by
  obtain ⟨hvalid, haliases, hload, hcanonical, hgrown⟩ := journal.read
  have hpeers := peers hgrown
  have hcandidates := nodup_frozenCandidates hvalid
  have hpairs : ((recordsOf journal.entries).map judged).Nodup := List.pairwise_map.mpr (hpeers.imp fun h => h.pair)
  refine ⟨firstPasses_first hgrown, hpairs, List.pairwise_map.mpr (hpeers.imp fun h => h.fresh), ?_,
    hpeers.imp fun h => h.judge, ?_, ?_, ?_⟩
  · have hruns : (recordsOf journal.entries).Pairwise fun r r' => runId r = runId r' := hpeers.imp fun h => h.run
    exact hruns.forall_of_forall_of_flip (fun _ _ => rfl) (hpeers.imp fun h => h.run.symm)
  · rintro ⟨o, ho, hkind⟩
    obtain ⟨k, hk⟩ := List.getElem?_of_mem ho
    obtain ⟨-, hoverride⟩ := override_at hgrown hk hkind
    rw [List.perm_ext_iff_of_nodup hpairs (nodup_expectedPairs haliases hcandidates)]
    intro p
    constructor
    · intro hp
      obtain ⟨r, hr, rfl⟩ := List.mem_map.mp hp
      exact judged_expected hgrown r hr
    · intro hp
      rw [← recordsOf_take hgrown hk hkind]
      exact hoverride.complete p hp
  · intro k o hk hkind
    obtain ⟨-, hoverride⟩ := override_at hgrown hk hkind
    have hrecords := recordsOf_take hgrown hk hkind
    obtain ⟨c, hc, hid, hwithin⟩ := hoverride.evidence
    refine ⟨hoverride.chain, fun d => ?_, ⟨c, hc, hid⟩, fun c' hc' hid' => ?_, ?_, fun i hi o' ho' hkind' => ?_⟩
    · rw [hoverride.named d, relatedTo, hrecords]
      simp only [List.mem_map, List.mem_filter, decide_eq_true_eq, and_assoc]
    · rw [List.inj_on_of_nodup_map hcandidates hc' hc (hid'.trans hid.symm)]
      exact hwithin
    · rw [← hrecords]
      exact hoverride.records
    · have hmem : o' ∈ journal.entries.take k := by
        rw [List.mem_take_iff_getElem]
        obtain ⟨hlt, rfl⟩ := List.getElem?_eq_some_iff.mp ho'
        exact ⟨i, by omega, rfl⟩
      exact hoverride.overrides o' hmem hkind'
  · intro journal' l l' m m' o hkind hsplit hsplit' hapart
    obtain ⟨-, -, hload', hcanonical', hgrown'⟩ := journal'.read
    have hsorted := sorted_of_canonical hload hcanonical
    have hsorted' := sorted_of_canonical hload' hcanonical'
    rw [hsplit] at hgrown hsorted
    rw [hsplit'] at hgrown' hsorted'
    have hchain : ∀ {aliases : List PyStr} {package : Json} {l m : List Json}, Grown (AdmitsEntry aliases package) (l ++ o :: m) →
        fingerprint (.arr l) = .ok (asText (get o "previous_journal_fingerprint")) := by
      intro aliases package l m h
      rcases h.admitted.cases with ⟨-, hother, -⟩ | ⟨-, -, hoverride⟩
      · rw [hkind] at hother
        cases hother
      · exact hoverride.chain
    exact eq_of_fingerprint (fun e he => hsorted e (List.mem_append_left _ he))
      (fun e he => hsorted' e (List.mem_append_left _ he)) (hchain hgrown) (hchain hgrown') hapart

end Accepted

end Journal

section Reading

variable [PyRuntime] [PyNormalization]

omit [PyNormalization] in
theorem SearchSpecV2.build_self (spec : SearchSpecV2) : SearchSpecV2.build spec.canonicalContent = .ok spec := by
  obtain ⟨content, document, accepted⟩ := spec
  unfold SearchSpecV2.build
  split
  · rename_i document' h
    obtain rfl : document' = document := Except.ok.inj (h.symm.trans accepted)
    rfl
  · rename_i e h
    cases h.symm.trans accepted

omit [PyNormalization] in
theorem SearchSpecV2.fromMapping_self (spec : SearchSpecV2) : SearchSpecV2.fromMapping spec.asDict = .ok spec := by
  obtain ⟨-, hvalid, hcanonical⟩ := readSearchSpec_eq_ok_iff.mp spec.accepted
  unfold SearchSpecV2.fromMapping
  rw [hvalid, hcanonical]
  exact spec.build_self

omit [PyRuntime] [PyNormalization] in
theorem required_of_lookup {fields : Fields} {k : PyStr} {v : Json} (h : fields.lookup k = some v) :
    required (.obj fields) k = .ok v := by
  rw [required, h]

section Again

variable {body core fields : Fields} {key : PyStr} {value : Json}

omit [PyNormalization] in
/-- A sealed document that is sealed again with one more field: what is read back under each key. -/
theorem seal_again (hbody : Legible (.obj body)) (hvalue : Legible value) (hnew : key ∉ body.map Prod.fst)
    (hkey : key ≠ fingerprintKey) (hcore : sealDocument body = .ok core)
    (hseal : sealDocument (core ++ [(key, value)]) = .ok fields) :
    Sealed (.obj fields) fields ∧ Legible (.obj fields) ∧ ∀ k v, k ≠ fingerprintKey → (k, v) ∈ body ++ [(key, value)] →
      required (sortKeys (.obj fields)) k = .ok (sortKeys v) := by
  obtain ⟨-, rfl⟩ := (sealDocument_eq_ok_iff hbody).mp hcore
  obtain ⟨-, hcoreLegible⟩ := sealed_of_seal hbody hcore
  have hfresh : key ∉ (sealedFields body).map Prod.fst := by
    rw [← lookup_isSome_iff, lookup_sealedFields hbody.nodup hkey, Option.isSome_map, lookup_isSome_iff]
    exact hnew
  have hwhole : Legible (.obj (sealedFields body ++ [(key, value)])) := by
    rw [Legible, fieldsLegible_iff] at hcoreLegible ⊢
    refine ⟨nodup_snoc hcoreLegible.1 hfresh _, ?_⟩
    intro f hf
    rcases List.mem_append.mp hf with hf | hf
    · exact hcoreLegible.2 f hf
    · rw [List.mem_singleton.mp hf]
      exact hvalue
  obtain ⟨-, rfl⟩ := (sealDocument_eq_ok_iff hwhole).mp hseal
  obtain ⟨hsealed, hlegible⟩ := sealed_of_seal hwhole hseal
  refine ⟨hsealed, hlegible, fun k v hk hmem => ?_⟩
  rw [sortKeys_obj, required, lookup_sortedFields hlegible.nodup, lookup_sealedFields hwhole.nodup hk, List.lookup_append,
    lookup_sealedFields hbody.nodup hk]
  rcases List.mem_append.mp hmem with hmem | hmem
  · rw [lookup_of_mem hbody.nodup hmem]
    simp [sortKeys_sortKeys]
  · obtain ⟨rfl, rfl⟩ := Prod.mk.inj (List.mem_singleton.mp hmem)
    have hnone : body.lookup k = none := by
      rwa [← Option.not_isSome_iff_eq_none, lookup_isSome_iff]
    rw [hnone]
    simp [sortKeys_sortKeys]

end Again

/-- What a contract seals. -/
def contractBody (pool packet rubric adjudication output resource overlay : Json) : Fields :=
  [(py "schema_id", .str "search-judgment-package/v2"), (py "candidate_pool", pool),
    (py "evidence_packet", packet), (py "rubric", rubric), (py "adjudication", adjudication),
    (py "output_schema", output), (py "resource_fingerprint", resource), (py "source_overlay", overlay),
    (py "allowed_tools", .arr []), (py "order_policy", .str "CANDIDATE_ID_ASC"),
    (py "independent_first_pass", .bool true)]

def contractKeys : List PyStr := ["schema_id", "candidate_pool", "evidence_packet", "rubric", "adjudication",
  "output_schema", "resource_fingerprint", "source_overlay", "allowed_tools", "order_policy", "independent_first_pass"]

section Body

variable {pool packet rubric adjudication output resource overlay : Json}

omit [PyRuntime] [PyNormalization] in
theorem nodup_contractBody : ((contractBody pool packet rubric adjudication output resource overlay).map Prod.fst).Nodup := by
  have hliteral : contractKeys.Nodup := by decide +kernel
  exact hliteral

omit [PyNormalization] in
theorem legible_contractBody (hpool : Legible pool) (hpacket : Legible packet) (hrubric : Legible rubric)
    (hadjudication : Legible adjudication) (houtput : Legible output) (hresource : Legible resource)
    (hoverlay : Legible overlay) :
    Legible (.obj (contractBody pool packet rubric adjudication output resource overlay)) := by
  rw [Legible]
  exact ⟨nodup_contractBody, trivial, hpool, hpacket, hrubric, hadjudication, houtput, hresource, hoverlay, trivial,
    trivial, trivial, trivial⟩

theorem seal_of_judgmentContract {core : Fields}
    (h : judgmentContract pool packet rubric adjudication output resource overlay = .ok core) :
    sealDocument (contractBody pool packet rubric adjudication output resource overlay) = .ok core := by
  unfold judgmentContract at h
  simp only [bind_eq_ok_iff, exists_unit_iff] at h
  obtain ⟨-, -, -, -, -, -, -, -, -, -, -, -, -, -, -, h⟩ := h
  exact h

theorem seal_of_judgmentPackage {spec : SearchSpecV2} {fields : Fields}
    (h : judgmentPackage pool packet rubric adjudication output resource overlay spec = .ok fields) :
    ∃ core, sealDocument (contractBody pool packet rubric adjudication output resource overlay) = .ok core ∧
      sealDocument (core ++ [(py "searchspec", spec.asDict)]) = .ok fields := by
  unfold judgmentPackage at h
  simp only [bind_eq_ok_iff, exists_unit_iff] at h
  obtain ⟨core, hcore, -, _, -, -, _, -, _, -, -, _, -, _, -, _, -, _, -, _, -, _, -, _, -, -, hseal⟩ := h
  exact ⟨core, seal_of_judgmentContract hcore, hseal⟩

/-- A package whose parts come with sorted keys validates when it is read back. -/
theorem validatePackage_of_judgmentPackage [RoundTripFloats] {spec : SearchSpecV2} {fields : Fields}
    (hparts : ∀ v ∈ [pool, packet, rubric, adjudication, output, resource, overlay], Legible v ∧ sortKeys v = v)
    (h : judgmentPackage pool packet rubric adjudication output resource overlay spec = .ok fields) :
    validatePackage (sortKeys (.obj fields)) = .ok () := by
  simp only [List.forall_mem_cons, List.not_mem_nil, false_implies, implies_true, and_true] at hparts
  obtain ⟨hpool, hpacket, hrubric, hadjudication, houtput, hresource, hoverlay⟩ := hparts
  obtain ⟨core, hcore, hseal⟩ := seal_of_judgmentPackage h
  have hlegible := legible_contractBody hpool.1 hpacket.1 hrubric.1 hadjudication.1 houtput.1 hresource.1 hoverlay.1
  have hnew : py "searchspec" ∉ contractKeys := by decide +kernel
  obtain ⟨hsealed, hsealedLegible, hrequired⟩ :=
    seal_again hlegible spec.legible hnew (by decide +kernel) hcore hseal
  have hpart : ∀ {v : Json} (i : ℕ) (k : PyStr), k ≠ fingerprintKey →
      (contractBody pool packet rubric adjudication output resource overlay ++ [(py "searchspec", spec.asDict)])[i]? = some (k, v) →
      sortKeys v = v → required (sortKeys (.obj fields)) k = .ok v := by
    intro v i k hk hat hv
    rw [hrequired k v hk (List.mem_of_getElem? hat), hv]
  have hrebuilt : rebuildPackage (sortKeys (.obj fields)) = .ok fields := by
    unfold rebuildPackage
    rw [hpart 11 _ (by decide +kernel) rfl spec.sorted, hpart 1 _ (by decide +kernel) rfl hpool.2,
      hpart 2 _ (by decide +kernel) rfl hpacket.2, hpart 3 _ (by decide +kernel) rfl hrubric.2,
      hpart 4 _ (by decide +kernel) rfl hadjudication.2, hpart 5 _ (by decide +kernel) rfl houtput.2,
      hpart 6 _ (by decide +kernel) rfl hresource.2, hpart 7 _ (by decide +kernel) rfl hoverlay.2]
    show (do let spec' ← SearchSpecV2.fromMapping spec.asDict; judgmentPackage pool packet rubric adjudication output resource overlay spec') = _
    rw [spec.fromMapping_self]
    exact h
  have hfinite : CSLive.floatsFinite (.obj fields) = true := ((contentSafe_iff_visit _).mpr hsealed.sealable.safe).1
  unfold validatePackage
  simp only [bind_eq_ok_iff, exists_unit_iff, reshaping_eq_ok_iff, check_eq_ok_iff]
  refine ⟨(verifySeal_ok_iff (legible_sortKeys hsealedLegible)).mpr
    (sealed_of_sameJson (legible_sortKeys hsealedLegible) hsealedLegible (sortKeys_sortKeys _) hsealed), fields, hrebuilt,
    pyEq_of_sameJson hfinite hsealedLegible.uniqueKeys (sortKeys_sortKeys _)⟩

end Body

end Reading

section Sample

def poolSeal : PyStr := "1cce2b2f2d3a3de8e88afa5bc253d1c27703317eecacf271f70692fe6f3b53c6"

def sampleCandidate : PyStr := "candidate-ed0979213be371e2a3b8657ad348063d4e50379de77e7edb3c4b12f3ace48c8d"

def packageDigest : PyStr := "167644890158e5ecee9a1b8123f7ff82a503c06dc015b203abdb23689b24276a"

def recordDigest : PyStr := "ba8e32aab201de230106ba5fc8391b3082445f8702207149aa0afe475d9ccd02"

def chainDigest : PyStr := "3f0e993d98ef710509b2e5d8c373a8618e9d68921e4541ddb72c39213b07a23a"

def overrideDigest : PyStr := "350ede06c9569bad6887bb3368c1864a58d05f053c40f13276ae6d1aa1c591ea"

def samplePolicy : Json := .obj [
  ("collision_policy", .str "UNKNOWN_IDENTITY"), ("id", .str "policy"),
  ("identity_fields", .arr [.str "title"]), ("normalization", .str "NFKC_CASEFOLD_WHITESPACE_V1"),
  ("ordering", .str "CANDIDATE_ID_ASC"), ("version", .str "1"), ("visible_fields", .arr [.str "title"])]

def samplePoolFields : Fields := [
  ("candidates", .arr [
    .obj [
      ("candidate_id", .str sampleCandidate), ("evidence", .arr [sampleRef "evidence" zeroDigest]),
      ("fields", .obj [("title", .str "alpha")])]]),
  ("canonical_fingerprint", .str poolSeal), ("collisions", .arr []), ("policy", samplePolicy),
  ("schema_id", .str "search-candidate-pool/v2")]

def samplePool : Json := .obj samplePoolFields

def samplePacket : Json := .obj [
  ("entries", .arr [
    .obj [
      ("captured_at", .str "2026-07-01T00:00:00Z"), ("corpus_fingerprint", .null), ("excerpt", .str "text"),
      ("locator", .str "entry one"), ("reference", sampleRef "evidence" zeroDigest)]]),
  ("id", .str "packet"), ("version", .str "1")]

def sampleRubric : Json := .obj [
  ("aggregation", .obj [
    ("frozen_before_outputs", .bool true), ("method", .str "none"), ("tie_policy", .str "ADJUDICATE"),
    ("unknown_policy", .str "PRESERVE")]),
  ("confidence_allowed", .bool false),
  ("dimensions", .arr [
    .obj [
      ("allowed_values", .arr [.str "yes", .str "no"]), ("evidence_threshold", .str "one"),
      ("hard_constraint", .bool true), ("id", .str "fit"), ("satisfying_values", .arr [.str "yes"]),
      ("unknown_rule", .str "INSUFFICIENT_EVIDENCE_NOT_NEGATIVE")]]),
  ("hard_constraints_first", .bool true), ("id", .str "rubric"), ("version", .str "1")]

def sampleAdjudication : Json := .obj [
  ("allowed", .bool true), ("append_only", .bool true), ("evidence_policy", .str "FROZEN_PACKET_ONLY"),
  ("id", .str "adjudication"), ("thresholds", sampleRef "thresholds" zeroDigest),
  ("triggers", .arr [.str "RUBRIC_EDGE"]), ("version", .str "1")]

def sampleSource : Json := .obj [
  ("adjudication_time", .null), ("capture_cutoff", .null), ("corpus", .null), ("drift_policy", .null),
  ("kind", .str "SYNTHETIC"), ("reference_set", .null)]

def sampleJudge : Json := .obj [
  ("alias_evidence", .null), ("config_fingerprint", .str zeroDigest), ("endpoint_mode", .str "local"),
  ("entrant_id", .str "judge"), ("identity_status", .str "AS_REQUESTED"), ("provider", .str "synthetic"),
  ("requested_model_id", .str "model"), ("resolution_status", .str "KNOWN"),
  ("resolved_model_id", .str "model")]

def sampleRecordFields : Fields := [
  ("candidate_id", .str sampleCandidate), ("canonical_fingerprint", .str recordDigest),
  ("committed_at", .str "2026-07-03T00:00:00Z"), ("confidence", .null),
  ("dimensions", .arr [.obj [("id", .str "fit"), ("value", .str "yes")]]),
  ("evidence_used", .arr [sampleRef "evidence" zeroDigest]), ("failure_class", .str "NONE"),
  ("judge_alias", .str "judge"), ("judge_identity", sampleJudge), ("observed_peer_records", .arr []),
  ("package_fingerprint", .str packageDigest), ("reason_codes", .arr [.str "stated"]),
  ("record_id", .str "record"), ("rubric_fingerprint", .str rubricDigest), ("run_id", .str "run"),
  ("state", .str "ACCEPT")]

def sampleRecord : Json := .obj sampleRecordFields

def sampleOverrideFields : Fields := [
  ("adjudicator_alias", .str "reader"), ("candidate_id", .str sampleCandidate),
  ("canonical_fingerprint", .str overrideDigest), ("decision", .str "ACCEPT"),
  ("evidence_used", .arr [sampleRef "evidence" zeroDigest]), ("kind", .str "HUMAN_OVERRIDE"),
  ("previous_journal_fingerprint", .str chainDigest), ("prior_machine_fingerprints", .arr [.str recordDigest]),
  ("reason_code", .str "edge"), ("timestamp", .str "2026-07-04T00:00:00Z"), ("trigger", .str "RUBRIC_EDGE")]

def sampleOverride : Json := .obj sampleOverrideFields

def sampleFirst : Json := .obj [("kind", .str "FIRST_PASS"), ("record", sampleRecord)]

/-- The journal of a first pass and its override. -/
def sampleEntries : List Json := [sampleFirst, sampleOverride]

open Python.Whole Python.Latin

example : py "searchspec" ∉ contractKeys := by decide +kernel

theorem samplePool_evaluated : plainLiteral samplePool = true ∧
    asciiHex (render (.obj (unsealed samplePoolFields))) = some poolSeal ∧
    asciiHex (render samplePool) = some poolDigest ∧ reshaping "candidate pool shape mismatch" (validatePoolBody samplePool) = .ok () := by
  decide +kernel

theorem samplePool_valid : validatePool samplePool = .ok () := by
  obtain ⟨hplain, hdigest, -, hbody⟩ := samplePool_evaluated
  unfold validatePool
  simp only [bind_eq_ok_iff, exists_unit_iff]
  exact ⟨verifySeal_of_literal hplain hdigest rfl, hbody⟩

/-- The body of the sample's contract. -/
def sampleBody : Fields :=
  contractBody samplePool samplePacket sampleRubric sampleAdjudication (sampleRef "output" zeroDigest)
    (.str resourcesDigest) sampleSource

/-- The contract of the sample. -/
def sampleContract : Fields :=
  sealedFields (contractBody samplePool samplePacket sampleRubric sampleAdjudication (sampleRef "output" zeroDigest)
    (.str resourcesDigest) sampleSource)

def contractSeal : PyStr := "252a9feda9f8dbc1a3cba7e62a544e99c50ab4da09c2f83875c69bee1bc11393"

set_option maxRecDepth 4000 in
/-- What evaluation finds of the body and of the contract it is sealed to, once their literals are read. -/
theorem sampleBody_evaluated : ∀ body, body = sampleBody →
    plainLiteral (.obj body) = true ∧ asciiHex (render (.obj (unsealed body))) = some contractSeal ∧
      asciiHex (render (.obj (unsealed (sortedFields body) ++ [(fingerprintKey, .str contractSeal)]))) = some contractDigest := by
  intro body h
  simp only [sampleBody, contractBody, samplePool, samplePoolFields, samplePolicy, samplePacket, sampleRubric,
    sampleAdjudication, sampleSource, sampleRef, sampleCandidate, poolSeal, resourcesDigest, zeroDigest] at h
  repeat rw [py_ofList] at h
  simp only [List.map_cons, List.map_nil, Char.reduceToNat] at h
  subst h
  decide +kernel

theorem sampleBody_plain : PlainLiteral (.obj sampleBody) := plain_of_literal (sampleBody_evaluated _ rfl).1

theorem sampleContract_eq : sampleContract = unsealed (sortedFields sampleBody) ++ [(fingerprintKey, .str contractSeal)] := by
  have hseal : sealDigest sampleBody = contractSeal := (textDigest_of_asciiHex (sampleBody_evaluated _ rfl).2.1).2
  rw [sampleContract, sealedFields, ← hseal]
  rfl

theorem sampleContract_seal : sealDocument sampleBody = .ok sampleContract := by
  rw [sealDocument_eq_ok_iff sampleBody_plain.legible]
  exact ⟨sealable_of_literal (sampleBody_evaluated _ rfl).1 (sampleBody_evaluated _ rfl).2.1, rfl⟩

theorem samplePacket_plain : PlainLiteral samplePacket := plain_of_literal (by decide +kernel)

theorem sampleContract_made : judgmentContract samplePool samplePacket sampleRubric sampleAdjudication
    (sampleRef "output" zeroDigest) (.str resourcesDigest) sampleSource = .ok sampleContract := by
  unfold judgmentContract
  simp only [bind_eq_ok_iff, exists_unit_iff, assertContentSafe_ok_iff]
  exact ⟨samplePool_valid, by decide +kernel, by decide +kernel, by decide +kernel, by decide +kernel,
    samplePacket_plain.safe, by decide +kernel, by decide +kernel, by decide +kernel, by decide +kernel, by decide +kernel,
    by decide +kernel, by decide +kernel, by decide +kernel, by decide +kernel, sampleContract_seal⟩

theorem required_get {document : Json} {k : PyStr} (h : (required document k).isOk = true) :
    required document k = .ok (get document k) := by
  obtain ⟨v, hv⟩ := exists_of_isOk h
  rw [hv, get_of_required hv]

/-- The package of the sample. -/
def samplePackageFields : Fields := sealedFields (sampleContract ++ [(py "searchspec", sampleSpec)])

set_option maxRecDepth 4000 in
/-- What evaluation finds of the body of the package, once its literals are read. -/
theorem samplePackage_evaluated : ∀ body,
    body = unsealed (sortedFields sampleBody) ++ [(fingerprintKey, .str contractSeal)] ++ [(py "searchspec", sampleSpec)] →
    (floatless (.obj body) = true ∧ intsPrintable (.obj body) = true ∧ nesting (.obj body) ≤ 50) ∧
      asciiHex (render (.obj (unsealed body))) = some packageDigest := by
  intro body h
  simp only [sampleBody, contractBody, samplePool, samplePoolFields, samplePolicy, samplePacket, sampleRubric,
    sampleAdjudication, sampleSource, sampleCandidate, poolSeal, contractSeal, sampleSpec, sampleSpecFields, sampleTask,
    sampleScope, sampleResources, sampleA0, sampleA1, samplePrivacy, sampleOverlay, sampleRef, sampleMeasure, taskDigest,
    scopeDigest, resourcesDigest, a0Digest, a1Digest, privacyDigest, poolDigest, packetDigest, rubricDigest, orderDigest,
    noToolsDigest, contractDigest, adjudicationDigest, policyDigest, sampleDigest, aggregationDigest, zeroDigest] at h
  repeat rw [py_ofList] at h
  simp only [List.map_cons, List.map_nil, Char.reduceToNat] at h
  subst h
  decide +kernel

theorem sampleCore_legible : Legible (.obj (sampleContract ++ [(py "searchspec", sampleSpec)])) := by
  rw [sampleContract_eq]
  exact legible_of_floatless (samplePackage_evaluated _ rfl).1.1

theorem samplePackage_digest : encodable (render (.obj (unsealed (sampleContract ++ [(py "searchspec", sampleSpec)])))) = true ∧
    sealDigest (sampleContract ++ [(py "searchspec", sampleSpec)]) = packageDigest := by
  rw [sampleContract_eq]
  exact textDigest_of_asciiHex (samplePackage_evaluated _ rfl).2

example : fingerprintKey ∉ contractKeys := by decide +kernel

theorem samplePackage_seal : sealDocument (sampleContract ++ [(py "searchspec", sampleSpec)]) = .ok samplePackageFields := by
  have hfacts := (samplePackage_evaluated _ rfl).1
  rw [← sampleContract_eq] at hfacts
  obtain ⟨-, hprint, hshallow⟩ := hfacts
  rw [sealDocument_eq_ok_iff sampleCore_legible]
  refine ⟨⟨?_, hprint, hshallow.trans (by decide), intsPrintable_unsealed hprint, samplePackage_digest.1⟩, rfl⟩
  have hspec : SafeKey (py "searchspec") := ⟨by decide +kernel, by decide +kernel⟩
  rw [contentSafe_obj_iff]
  intro f hf
  rcases List.mem_append.mp hf with hf | hf
  · exact (contentSafe_obj_iff _).mp (sealed_of_seal sampleBody_plain.legible sampleContract_seal).1.sealable.safe f hf
  · rw [List.mem_singleton.mp hf]
    exact ⟨hspec, sampleSpec_plain.safe⟩

theorem samplePackage_eq : samplePackageFields =
    unsealed (sortedFields (unsealed (sortedFields sampleBody) ++ [(fingerprintKey, .str contractSeal)] ++
      [(py "searchspec", sampleSpec)])) ++ [(fingerprintKey, .str packageDigest)] := by
  rw [samplePackageFields, sealedFields, samplePackage_digest.2, sampleContract_eq]

theorem samplePackage_made : judgmentPackage samplePool samplePacket sampleRubric sampleAdjudication
    (sampleRef "output" zeroDigest) (.str resourcesDigest) sampleSource sampleDeclaration = .ok samplePackageFields := by
  have hcontract : fingerprint (.obj sampleContract) = .ok contractDigest := by
    have hdigest := (sampleBody_evaluated _ rfl).2.2
    rw [← sampleContract_eq] at hdigest
    exact fingerprint_of_asciiHex (by rw [sampleContract_eq]; decide +kernel) hdigest
  have hresources : fingerprint sampleResources = .ok resourcesDigest :=
    fingerprint_of_asciiHex (by decide +kernel) (by decide +kernel)
  have hpool : fingerprint samplePool = .ok poolDigest :=
    fingerprint_of_asciiHex (plain_of_literal samplePool_evaluated.1).printable samplePool_evaluated.2.2.1
  have hpacket : fingerprint samplePacket = .ok packetDigest := fingerprint_of_asciiHex samplePacket_plain.printable (by decide +kernel)
  have hrubric : fingerprint sampleRubric = .ok rubricDigest := fingerprint_of_asciiHex (by decide +kernel) (by decide +kernel)
  have hpolicy : fingerprint sampleAdjudication = .ok adjudicationDigest :=
    fingerprint_of_asciiHex (by decide +kernel) (by decide +kernel)
  have hblind : fingerprint samplePolicy = .ok policyDigest := fingerprint_of_asciiHex (by decide +kernel) (by decide +kernel)
  have horder : fingerprint (.str "CANDIDATE_ID_ASC") = .ok orderDigest :=
    fingerprint_of_asciiHex (by decide +kernel) (by decide +kernel)
  have haggregation : fingerprint (get sampleRubric "aggregation") = .ok aggregationDigest :=
    fingerprint_of_asciiHex (by decide +kernel) (by decide +kernel)
  unfold judgmentPackage
  simp only [bind_eq_ok_iff, exists_unit_iff]
  exact ⟨sampleContract, sampleContract_made, by decide +kernel, resourcesDigest, hresources, by decide +kernel,
    _, required_get (by decide +kernel), contractDigest, hcontract, by decide +kernel, poolDigest, hpool, packetDigest, hpacket,
    rubricDigest, hrubric, adjudicationDigest, hpolicy, policyDigest, hblind, orderDigest, horder, aggregationDigest,
    haggregation, by decide +kernel, samplePackage_seal⟩

def samplePackage : Json := sortKeys (.obj samplePackageFields)

theorem samplePackage_valid : validatePackage samplePackage = .ok () :=
  validatePackage_of_judgmentPackage (by
    simp only [List.forall_mem_cons, List.not_mem_nil, false_implies, implies_true, and_true]
    exact ⟨⟨legible_of_floatless (by decide +kernel), rfl⟩, ⟨legible_of_floatless (by decide +kernel), rfl⟩,
      ⟨legible_of_floatless (by decide +kernel), rfl⟩, ⟨legible_of_floatless (by decide +kernel), rfl⟩,
      ⟨legible_of_floatless (by decide +kernel), rfl⟩, ⟨trivial, rfl⟩, ⟨legible_of_floatless (by decide +kernel), rfl⟩⟩)
    samplePackage_made

theorem sampleRecord_evaluated : plainLiteral sampleRecord = true ∧
    asciiHex (render (.obj (unsealed sampleRecordFields))) = some recordDigest := by decide +kernel

theorem sampleRecord_valid : validateRecord sampleRecord samplePackage = .ok () := by
  have hseal : verifySeal sampleRecord = .ok () := verifySeal_of_literal sampleRecord_evaluated.1 sampleRecord_evaluated.2 rfl
  have hjudge : validateEntrant (get sampleRecord "judge_identity") = .ok () := by
    unfold validateEntrant
    simp only [bind_eq_ok_iff, exists_unit_iff, assertContentSafe_ok_iff]
    exact ⟨by decide +kernel, contentSafe_of_quickSafe (by decide +kernel) (by decide +kernel) (by decide +kernel) (by decide +kernel),
      by decide +kernel, by decide +kernel, by decide +kernel, by decide +kernel⟩
  have hrubric : fingerprint (get samplePackage "rubric") = .ok rubricDigest :=
    fingerprint_of_asciiHex (by decide +kernel) (by decide +kernel)
  have hbinding : pyEq (get sampleRecord "package_fingerprint") (get samplePackage fingerprintKey) = true := by
    rw [samplePackage, samplePackage_eq]
    decide +kernel
  obtain ⟨committed, hcommitted⟩ := exists_of_isOk
    (show (timestamp (asText (get sampleRecord "committed_at"))).isOk = true by decide +kernel)
  unfold validateRecord
  simp only [bind_eq_ok_iff, exists_unit_iff]
  refine ⟨by decide +kernel, hseal, samplePackage_valid, committed, hcommitted, hjudge, by decide +kernel, by decide +kernel, ?_⟩
  refine ⟨check_eq_ok_iff.mpr hbinding, rubricDigest, hrubric, by decide +kernel, ?_⟩
  decide +kernel

theorem sampleFirstPass_valid : checkFirstPass ["judge"] samplePackage [] sampleFirst = .ok () := by
  unfold checkFirstPass
  simp only [bind_eq_ok_iff, exists_unit_iff]
  exact ⟨by decide +kernel, sampleRecord_valid, by decide +kernel, by decide +kernel, by decide +kernel⟩

example : (checkFirstPass ["judge"] samplePackage [] sampleOverride).isOk = false := by decide +kernel

theorem sampleOverride_evaluated : plainLiteral sampleOverride = true ∧
    asciiHex (render (.obj (unsealed sampleOverrideFields))) = some overrideDigest ∧
    asciiHex (render (.arr [sampleFirst])) = some chainDigest := by decide +kernel

theorem sampleOverride_valid : checkOverride ["judge"] samplePackage [sampleFirst] sampleOverride = .ok () := by
  have hseal : verifySeal sampleOverride = .ok () :=
    verifySeal_of_literal sampleOverride_evaluated.1 sampleOverride_evaluated.2.1 rfl
  have hchain : fingerprint (.arr [sampleFirst]) = .ok chainDigest :=
    fingerprint_of_asciiHex (by decide +kernel) sampleOverride_evaluated.2.2
  unfold checkOverride
  simp only [bind_eq_ok_iff, exists_unit_iff]
  exact ⟨by decide +kernel, hseal, by decide +kernel, chainDigest, hchain, by decide +kernel, by decide +kernel,
    by decide +kernel, by decide +kernel, by decide +kernel, by decide +kernel, by decide +kernel⟩

example : (Json.arr sampleEntries).truthy = true := by decide +kernel

theorem sampleJournal_accepted : readJournal (render (.obj samplePackageFields)) ["judge"] (render (.arr sampleEntries)) =
    .ok (samplePackage, sampleEntries) := by
  have hlegible := (sealed_of_seal (legible_of_floatless (by decide +kernel)) samplePackage_seal).2
  have hentries : Legible (.arr sampleEntries) := legible_of_floatless (by decide +kernel)
  have hprint : intsPrintable (.arr sampleEntries) = true := by decide +kernel
  unfold readJournal
  simp only [bind_eq_ok_iff, exists_unit_iff]
  refine ⟨samplePackage, (loads_render_iff hlegible (by decide +kernel)).mpr ⟨by decide +kernel, by rw [samplePackage]⟩, samplePackage_valid,
    by decide +kernel, by decide +kernel, ?_, .arr sampleEntries,
    (loads_render_iff hentries hprint).mpr ⟨by decide +kernel, rfl⟩, ?_⟩
  · rw [assertContentSafe_ok_iff]
    exact contentSafe_of_quickSafe (by decide +kernel) (by decide +kernel) (by decide +kernel) (by decide +kernel)
  · have hfirst : validateEntry ["judge"] samplePackage [] sampleFirst = .ok () :=
      sampleFirstPass_valid
    have hsecond : validateEntry ["judge"] samplePackage [sampleFirst]
        sampleOverride = .ok () := sampleOverride_valid
    have hgrown : Grown (AdmitsEntry ["judge"] samplePackage) ([sampleFirst] ++ [sampleOverride]) :=
      .snoc (Grown.snoc (l := []) .nil hfirst) hsecond
    simp only [bind_eq_ok_iff, exists_unit_iff, pure_eq_ok_iff]
    exact ⟨_, if_pos hprint, by decide +kernel, sampleEntries,
      (Grown.foldlM_iff (fun _ _ => Iff.rfl) .nil).mpr ⟨rfl, hgrown⟩, rfl⟩

def sampleJournal : JudgmentJournal := ⟨_, _, _, _, _, sampleJournal_accepted⟩

theorem JudgmentJournal.invariant_sample :
    sampleJournal.entries = sampleJournal.entries.filter isFirstPass ++ sampleJournal.entries.filter isOverride ∧
    ((recordsOf sampleJournal.entries).map judged).Perm (expectedPairs ["judge"] samplePackage) ∧
    fingerprint (.arr (sampleJournal.entries.take 1)) = .ok chainDigest ∧
    ∀ l l' m m' : List Json, sampleJournal.entries = l ++ sampleOverride :: m → sampleJournal.entries = l' ++ sampleOverride :: m' →
      ToldApart (.arr l) (.arr l') → l = l' := by
  obtain ⟨horder, -, -, -, -, hcomplete, hbound, htamper⟩ := JudgmentJournal.invariant sampleJournal
  exact ⟨horder, hcomplete ⟨sampleOverride, by simp [sampleJournal, sampleEntries], by decide +kernel⟩,
    (hbound 1 sampleOverride rfl (by decide +kernel)).1,
    fun l l' m m' => htamper sampleJournal l l' m m' sampleOverride (by decide +kernel)⟩

end Sample

end EvaluationLab.SearchCup
