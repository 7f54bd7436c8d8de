import EvaluationLab.SearchCup.JudgmentFacts

/-! What an accepted record says: one value for each dimension of the rubric, on evidence of its candidate. -/
namespace EvaluationLab.SearchCup
open Python Effect
open QA0 (Fields)

/-- `dimension["id"]`, of a dimension of the rubric or of a recorded one. -/
def dimensionId (dimension : Json) : PyStr := asText (get dimension "id")

/-- `package["rubric"]["dimensions"]`. -/
def rubricDimensions (package : Json) : List Json := asItems (get (get package "rubric") "dimensions")

/-- `record["dimensions"]`. -/
def recordedDimensions (record : Json) : List Json := asItems (get record "dimensions")

def isHard (dimension : Json) : Prop := (get dimension "hard_constraint").truthy = true

/-- The judge is known by its resolved model, which nothing has replaced. -/
structure ResolvedJudge (judge : Json) : Prop where
  known : (get judge "resolution_status").isStr "KNOWN" = true
  model : (get judge "resolved_model_id").truthy = true
  own : (get judge "identity_status").isStr "SUBSTITUTED" = false

section Soundness

variable [PyRuntime]

/-- A record that says what its package lets it say. -/
structure SoundRecord (package record : Json) : Prop where
  distinct : ((rubricDimensions package).map dimensionId).Nodup
  values : ∀ d ∈ rubricDimensions package, ∃ item v,
    (recordedDimensions record).filter (fun i => dimensionId i = dimensionId d) = [item] ∧ get item "value" = .str v ∧
      (v ∈ asTexts (get d "allowed_values") ∨ v = py "UNKNOWN")
  named : ∀ item ∈ recordedDimensions record, ∃ d ∈ rubricDimensions package, dimensionId d = dimensionId item
  evidence : ∃ c ∈ frozenCandidates package, candidateOf c = candidateOf record ∧
    ∀ e ∈ asItems (get record "evidence_used"), ∃ e' ∈ asItems (get c "evidence"), render e = render e' ∧
      (UniqueKeys record → UniqueKeys package → SameJson e e')
  decided : stateOf record = py "ACCEPT" ∨ stateOf record = py "REJECT" →
    asItems (get record "evidence_used") ≠ [] ∧ ResolvedJudge (get record "judge_identity") ∧
    ∀ item ∈ recordedDimensions record, ∀ d ∈ rubricDimensions package, dimensionId item = dimensionId d → isHard d →
      asText (get item "value") ≠ py "UNKNOWN"
  satisfied : stateOf record = py "ACCEPT" →
    ∀ item ∈ recordedDimensions record, ∀ d ∈ rubricDimensions package, dimensionId item = dimensionId d → isHard d →
      asText (get item "value") ∈ asTexts (get d "satisfying_values")

variable {package record : Json}

omit [PyRuntime] in
/-- Among distinct ids the dimension of an id is found. -/
theorem rubricDimension_eq (h : ((rubricDimensions package).map dimensionId).Nodup) {d item : Json}
    (hd : d ∈ rubricDimensions package) (hid : dimensionId item = dimensionId d) : rubricDimension package item = d := by
  unfold rubricDimension
  cases hfound : (asItems (get (get package "rubric") "dimensions")).reverse.find? fun d =>
      decide (asText (get d "id") = asText (get item "id")) with
  | none =>
    have hnone := List.find?_eq_none.mp hfound d (List.mem_reverse.mpr hd)
    exact absurd (decide_eq_true hid.symm) hnone
  | some d' =>
    have hd' := List.mem_reverse.mp (List.mem_of_find?_eq_some hfound)
    have hid' := List.find?_some hfound
    rw [decide_eq_true_eq] at hid'
    exact List.inj_on_of_nodup_map h hd' hd (Eq.trans hid' hid)

omit [PyRuntime] in
/-- One item has each id when no two items share one. -/
theorem filter_dimensionId {items : List Json} (h : (items.map dimensionId).Nodup) {item : Json} (hitem : item ∈ items) :
    items.filter (fun i => dimensionId i = dimensionId item) = [item] := by
  induction items with
  | nil => exact absurd hitem List.not_mem_nil
  | cons i is ih =>
    rw [List.map_cons, List.nodup_cons] at h
    obtain ⟨hhead, htail⟩ := h
    rcases List.mem_cons.mp hitem with rfl | hitem
    · have hnone : is.filter (fun i => dimensionId i = dimensionId item) = [] := by
        rw [List.filter_eq_nil_iff]
        intro j hj
        rw [decide_eq_true_eq]
        exact fun hsame => hhead (hsame ▸ List.mem_map_of_mem hj)
      rw [List.filter_cons_of_pos (by rw [decide_eq_true_eq]), hnone]
    · have hne : dimensionId i ≠ dimensionId item := fun hsame => hhead (hsame ▸ List.mem_map_of_mem hitem)
      rw [List.filter_cons_of_neg (by rwa [decide_eq_true_eq]), ih htail hitem]

section Shape

variable (hshape : Fits recordSchema record)
include hshape

omit [PyRuntime] in
/-- The recorded values are texts. -/
theorem text_of_recorded {item : Json} (hitem : item ∈ recordedDimensions record) : ∃ v, get item "value" = .str v := by
  have hdimensions : Fits (arr (obj [("id", textSchema), ("value", textSchema)] []) 1) (get record "dimensions") :=
    fits_get hshape rfl
  obtain ⟨items, hitems, -, -, hall⟩ := (fits_arr _ _ _).mp hdimensions
  rw [recordedDimensions, hitems] at hitem
  exact fits_text (fits_get (hall item hitem) rfl)

omit [PyRuntime] in
/-- The evidence used is a list of references. -/
theorem fits_used {e : Json} (he : e ∈ asItems (get record "evidence_used")) : Fits refSchema e := by
  have hused : Fits (arr refSchema 0) (get record "evidence_used") := fits_get hshape rfl
  obtain ⟨items, hitems, -, -, hall⟩ := (fits_arr _ _ _).mp hused
  rw [hitems] at he
  exact hall e he

omit [PyRuntime] in
theorem items_of_truthy (h : (get record "evidence_used").truthy = true) : asItems (get record "evidence_used") ≠ [] := by
  have hused : Fits (arr refSchema 0) (get record "evidence_used") := fits_get hshape rfl
  obtain ⟨items, hitems, -⟩ := (fits_arr _ _ _).mp hused
  rw [hitems] at h ⊢
  cases items with
  | nil => cases h
  | cons e es => exact List.cons_ne_nil e es

end Shape

section Package

variable [PyNormalization]

/-- What the parts of a package were accepted for. -/
theorem contract_of_validatePackage (h : validatePackage package = .ok ()) :
    validatePool (get package "candidate_pool") = .ok () ∧ ((rubricDimensions package).map dimensionId).Nodup := by
  unfold validatePackage at h
  simp only [bind_eq_ok_iff, exists_unit_iff, reshaping_eq_ok_iff] at h
  obtain ⟨-, rebuilt, hrebuilt, -⟩ := h
  unfold rebuildPackage at hrebuilt
  simp only [bind_eq_ok_iff] at hrebuilt
  obtain ⟨_, -, _, -, pool, hpool, _, -, rubric, hrubric, _, -, _, -, _, -, _, -, hpackage⟩ := hrebuilt
  unfold judgmentPackage at hpackage
  simp only [bind_eq_ok_iff] at hpackage
  obtain ⟨_, hcontract, -⟩ := hpackage
  unfold judgmentContract at hcontract
  simp only [bind_eq_ok_iff, exists_unit_iff, check_eq_ok_iff] at hcontract
  obtain ⟨hvalid, -, -, -, -, -, -, -, hdistinct, -⟩ := hcontract
  rw [get_of_required hpool, rubricDimensions, get_of_required hrubric]
  exact ⟨hvalid, hdistinct⟩

/-- The evidence of a frozen candidate is a list of references. -/
theorem fits_evidence (h : validatePackage package = .ok ()) {c e : Json} (hc : c ∈ frozenCandidates package)
    (he : e ∈ asItems (get c "evidence")) : Fits refSchema e := by
  have hpool := (contract_of_validatePackage h).1
  unfold validatePool at hpool
  simp only [bind_eq_ok_iff, exists_unit_iff, reshaping_eq_ok_iff, validatePoolBody_ok_iff] at hpool
  obtain ⟨-, policy, -, -, hshape, -⟩ := hpool
  have hcandidates : Fits (arr (candidateSchema (visibleFields policy)) 0) (get (get package "candidate_pool") "candidates") :=
    fits_get hshape rfl
  obtain ⟨items, hitems, -, -, hall⟩ := (fits_arr _ _ _).mp hcandidates
  rw [frozenCandidates, hitems] at hc
  have hevidence : Fits (arr refSchema 1) (get c "evidence") := fits_get (hall c hc) rfl
  obtain ⟨references, hreferences, -, -, hfits⟩ := (fits_arr _ _ _).mp hevidence
  rw [hreferences] at he
  exact hfits e he

end Package

omit [PyRuntime] in
theorem uniqueKeys_asItems {v e : Json} (h : UniqueKeys v) (he : e ∈ asItems v) : UniqueKeys e := by
  cases v with
  | arr items => exact h.items e he
  | _ => exact absurd he List.not_mem_nil

/-- References of one canonical text are the same document. -/
theorem sameJson_of_references {e e' : Json} (hfits : Fits refSchema e) (hfits' : Fits refSchema e') (hkeys : UniqueKeys e)
    (hkeys' : UniqueKeys e') (h : render e = render e') : SameJson e e' :=
  sameJson_of_render_eq (plain_of_fits worded_refSchema hkeys hfits) (plain_of_fits worded_refSchema hkeys' hfits') h

omit [PyRuntime] in
/-- As many recorded ids as distinct ones of the rubric, and the same: each once. -/
theorem perm_of_sameIds {named declared : List PyStr} (hdeclared : declared.Nodup)
    (hlength : named.length = declared.dedup.length) (hall : ∀ k ∈ declared.dedup, k ∈ named) : named.Perm declared := by
  rw [List.Nodup.dedup hdeclared] at hlength hall
  exact ((List.subperm_of_subset hdeclared hall).perm_of_length_le hlength.le).symm

/-- A validated entrant whose resolution is known has a resolved model. -/
theorem model_of_validateEntrant {judge : Json} (h : validateEntrant judge = .ok ())
    (hknown : (get judge "resolution_status").isStr "KNOWN" = true) : (get judge "resolved_model_id").truthy = true := by
  unfold validateEntrant at h
  simp only [bind_eq_ok_iff, exists_unit_iff, check_eq_ok_iff] at h
  rw [← h.2.2.1, hknown]

variable [PyNormalization]

/-- A record that is accepted against an accepted package has exactly one value for each dimension of the rubric,
an allowed one or UNKNOWN, and uses evidence of its candidate only. A decision rests on evidence, of a resolved
judge, with no hard constraint unknown, and an acceptance satisfies every hard constraint. -/
theorem record_sound (hpackage : validatePackage package = .ok ()) (hrecord : validateRecord record package = .ok ()) :
    SoundRecord package record := by
  obtain ⟨-, hdistinct⟩ := contract_of_validatePackage hpackage
  unfold validateRecord at hrecord
  simp only [bind_eq_ok_iff, exists_unit_iff, validateContract_ok_iff, check_eq_ok_iff] at hrecord
  obtain ⟨hshape, -, -, _, -, hjudge, -, hresolved, -, _, -, -, hrest⟩ := hrecord
  cases hfound : (frozenCandidates package).find? fun c => decide (candidateOf c = candidateOf record) with
  | none =>
    rw [hfound] at hrest
    cases hrest
  | some candidate =>
    rw [hfound] at hrest
    simp only [bind_eq_ok_iff, exists_unit_iff, check_eq_ok_iff, forM_eq_ok_iff] at hrest
    obtain ⟨hwithin, ⟨hlength, hnamed, hall⟩, hvalues, -, hused, hunknown, hsatisfied, -⟩ := hrest
    have hperm : ((recordedDimensions record).map dimensionId).Perm ((rubricDimensions package).map dimensionId) :=
      perm_of_sameIds hdistinct hlength hall
    have honce : ((recordedDimensions record).map dimensionId).Nodup := hperm.nodup_iff.mpr hdistinct
    have hsame : ∀ item d, d ∈ rubricDimensions package → dimensionId item = dimensionId d →
        rubricDimension package item = d := fun _ _ hd hid => rubricDimension_eq hdistinct hd hid
    have hcandidate := List.find?_some hfound
    rw [decide_eq_true_eq] at hcandidate
    have hmem := List.mem_of_find?_eq_some hfound
    refine ⟨hdistinct, fun d hd => ?_, fun item hitem => ?_, ⟨candidate, hmem, hcandidate, fun e he => ?_⟩, fun hstate => ?_,
      fun hstate item hitem d hd hid hhard => ?_⟩
    · obtain ⟨item, hitem, hid⟩ := List.mem_map.mp (hperm.mem_iff.mpr (List.mem_map_of_mem hd))
      obtain ⟨v, hv⟩ := text_of_recorded hshape hitem
      have hallowed := hvalues item hitem
      rw [hsame item d hd hid, hv, List.mem_append, List.mem_singleton] at hallowed
      rw [← hid]
      exact ⟨item, v, filter_dimensionId honce hitem, hv, hallowed⟩
    · obtain ⟨d, hd, hid⟩ := List.mem_map.mp (hperm.mem_iff.mp (List.mem_map_of_mem hitem))
      exact ⟨d, hd, hid⟩
    · obtain ⟨e', he', htext⟩ := List.mem_map.mp (hwithin e he)
      refine ⟨e', he', htext.symm, fun hrecordKeys hpackageKeys => ?_⟩
      have hkeys : UniqueKeys e := uniqueKeys_asItems (UniqueKeys.get hrecordKeys _) he
      have hcandidateKeys : UniqueKeys candidate := uniqueKeys_asItems (UniqueKeys.get (UniqueKeys.get hpackageKeys _) _) hmem
      exact sameJson_of_references (fits_used hshape he) (fits_evidence hpackage hmem he') hkeys
        (uniqueKeys_asItems (UniqueKeys.get hcandidateKeys _) he') htext.symm
    · have hin : stateOf record ∈ (["ACCEPT", "REJECT", "UNKNOWN"] : List PyStr) := by
        rcases hstate with h | h <;> simp [h]
      obtain ⟨hknown, hown⟩ := hresolved hin
      refine ⟨items_of_truthy hshape (hused hstate), ⟨hknown, model_of_validateEntrant hjudge hknown, hown⟩, ?_⟩
      intro item hitem d hd hid hhard htext
      refine hunknown hstate item hitem ⟨htext, ?_⟩
      rw [hsame item d hd hid]
      exact hhard
    · have hvalue := hsatisfied hstate item hitem
      rw [hsame item d hd hid] at hvalue
      exact hvalue hhard

end Soundness

open Python.Whole Python.Latin in
theorem record_sound_sample : SoundRecord samplePackage sampleRecord := record_sound samplePackage_valid sampleRecord_valid

end EvaluationLab.SearchCup
