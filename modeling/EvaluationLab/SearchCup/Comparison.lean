import EvaluationLab.SearchCup.JudgmentOnly

/-! The comparison of declarations, and what it holds fixed between them. -/
namespace EvaluationLab.SearchCup
open Python Effect
open QA0 (Fields)

section Comparing

variable [PyRuntime]

/-- The declared fingerprint of a control. -/
def fixedControl (doc : Json) (control : PyStr) : Json := get (get (get doc "variable_control") "fixed") control

/-- A declaration against the first one of a comparison. -/
def compareWith (first doc : Json) : Except PyExc Unit := do
  check ((get doc "spec_status").isStr "FROZEN" = true ∧ (get first "spec_status").isStr "FROZEN" = true)
    (specError "comparison requires frozen declarations")
  check (pyEq (get doc "track_id") (get first "track_id") = true ∧
    pyEq (get doc "fairness_mode") (get first "fairness_mode") = true)
    (specError "cross-track/fairness aggregation forbidden")
  let controls := get doc "variable_control"
  let declared := get first "variable_control"
  check (pyEq (get controls "fixed") (get declared "fixed") = true) (specError "non-principal control changed")
  check (∀ key ∈ (["changed_capabilities", "fixed_capabilities"] : List PyStr),
    pyEq (get controls key) (get declared key) = true) (specError "ablation capability controls changed")
  check (pyEq (get doc "claims") (get first "claims") = true) (specError "claims policy changed")
  check (hasMode first "F1" = true → pyEq (get doc fingerprintKey) (get first fingerprintKey) = true)
    (specError "F1 requires identical SearchSpec identity")

/-- `compare_controls`. -/
def compareControls (specs : List SearchSpecV2) : Except PyExc Unit := do
  check (2 ≤ specs.length) (specError "comparison requires at least two declarations")
  match specs with
  | [] => return ()
  | first :: rest => rest.forM fun spec => compareWith first.asDict spec.asDict

end Comparing

section Sources

/-- What the fingerprint of a control is taken of: a part of the declaration, or a document it references. -/
inductive ControlSource where
  | part (content : Json)
  | reference (ref : Json)

/-- The part under a key of the declaration. -/
def partOf (doc : Json) (key : PyStr) : PyStr × ControlSource := (key, .part (get doc key))

/-- The sources of the controls that an overlay adds. -/
def overlaySources (overlay : Json) : List (PyStr × ControlSource) :=
  if (get overlay "kind").isStr "JUDGMENT" then
    (["candidate_set", "evidence_packet", "rubric"] : List PyStr).map (fun k => (k, .reference (get overlay k))) ++
      [(py "ordering", .reference (get overlay "order_policy")), (py "tools", .part (.arr []))]
  else if (get overlay "kind").isStr "FROZEN" then
    (["corpus", "index"] : List PyStr).map fun k => (k, .reference (get overlay k))
  else [(py "time_window", .reference (get overlay "window_policy"))]

/-- The resources two declarations of a track share: all of them, or on `E2_RETRIEVER` the accounting rules. -/
def sharedResources (doc : Json) : Json :=
  if hasTrack doc "E2_RETRIEVER" then
    restrict (get doc "resources") ["failure_policy", "exhaustion_policy", "budget_rejection_policy", "retry_policy",
      "automatic_retries", "manual_retry_policy", "max_total_runtime_ms"]
  else get doc "resources"

/-- The sources of the controls derived from a declaration. -/
def controlSources (doc : Json) : List (PyStr × ControlSource) :=
  (["task", "scope", "a0", "a1", "privacy"] : List PyStr).map (partOf doc) ++
    [(py "resources", .part (sharedResources doc)), (py "output", .reference (get doc "output_contract")),
      (py "judgment", .reference (get doc "judgment_contract"))] ++
    ((["retriever", "system_disclosure", "economic_package"] : List PyStr).filter fun k => !(get doc k).isNull).map
      (partOf doc) ++
    overlaySources (get doc "overlay")

/-- The controls of a track that are derived from a declaration, and held fixed by a comparison. -/
def heldControls (doc : Json) : List PyStr :=
  if hasTrack doc "JUDGMENT_ONLY" then
    common ++ (["candidate_set", "evidence_packet", "rubric", "ordering", "tools", "privacy"] : List PyStr)
  else if hasTrack doc "E1_FROZEN" then common ++ (["corpus", "index", "retriever", "privacy"] : List PyStr)
  else if hasTrack doc "E1_LIVE" then common ++ (["retriever", "time_window", "privacy"] : List PyStr)
  else if hasTrack doc "E2_RETRIEVER" then common
  else if hasTrack doc "ECONOMIC_TRACK" then ["task", "scope", "a0", "output", "judgment", "economic_package"]
  else ["task", "scope", "a0", "output", "judgment"]

variable [PyRuntime]

def ControlSource.digest : ControlSource → Except PyExc PyStr
  | .part content => fingerprint content
  | .reference ref => .ok (asText (get ref "fingerprint"))

/-- The document is the content of the source. -/
def ControlSource.Pins (source : ControlSource) (content : Json) : Prop :=
  match source with
  | .part own => content = own
  | .reference ref => Legible content ∧ fingerprint content = .ok (asText (get ref "fingerprint"))

/-- The contents of two sources are the same, where SHA-256 tells them apart. -/
def SameContents (source source' : ControlSource) : Prop :=
  ∀ content content', source.Pins content → source'.Pins content' → ToldApart content content' →
    SameJson content content'

theorem ControlSource.digest_of_pins {source : ControlSource} {content : Json} {d : PyStr} (h : source.Pins content)
    (hd : source.digest = .ok d) : fingerprint content = .ok d := by
  cases source with
  | part own =>
    rw [Pins] at h
    rw [h]
    exact hd
  | reference ref =>
    rw [Pins] at h
    rw [h.2]
    exact hd

theorem mem_mapM_bound {doc : Json} {keys : List PyStr} {bindings : List (PyStr × PyStr)}
    (h : keys.mapM (bound doc) = .ok bindings) {control : PyStr} {source : ControlSource}
    (hsource : (control, source) ∈ keys.map (partOf doc)) : ∃ d, (control, d) ∈ bindings ∧ source.digest = .ok d := by
  obtain ⟨key, hkey, heq⟩ := List.mem_map.mp hsource
  cases heq
  obtain ⟨b, hb, hbound⟩ := mem_mapM h hkey
  simp only [bound, bind_eq_ok_iff, pure_eq_ok_iff] at hbound
  obtain ⟨d, hd, rfl⟩ := hbound
  exact ⟨d, hb, hd⟩

theorem mem_overlayBindings {overlay : Json} {bindings : List (PyStr × PyStr)} (h : overlayBindings overlay = .ok bindings)
    {control : PyStr} {source : ControlSource} (hsource : (control, source) ∈ overlaySources overlay) :
    ∃ d, (control, d) ∈ bindings ∧ source.digest = .ok d := by
  unfold overlayBindings at h
  unfold overlaySources at hsource
  split_ifs at h hsource with hjudgment hfrozen
  · simp only [bind_eq_ok_iff, pure_eq_ok_iff] at h
    obtain ⟨tools, htools, rfl⟩ := h
    rw [List.mem_append] at hsource
    rcases hsource with hsource | hsource
    · obtain ⟨k, hk, heq⟩ := List.mem_map.mp hsource
      cases heq
      exact ⟨_, List.mem_append_left _ (List.mem_map.mpr ⟨control, hk, rfl⟩), rfl⟩
    · simp only [List.mem_cons, List.not_mem_nil, or_false, Prod.mk.injEq] at hsource
      rcases hsource with ⟨rfl, rfl⟩ | ⟨rfl, rfl⟩
      · exact ⟨_, List.mem_append_right _ (List.mem_cons_self ..), rfl⟩
      · exact ⟨tools, by simp, htools⟩
  · obtain rfl := (pure_eq_ok_iff.mp h).symm
    obtain ⟨k, hk, heq⟩ := List.mem_map.mp hsource
    cases heq
    exact ⟨_, List.mem_map.mpr ⟨control, hk, rfl⟩, rfl⟩
  · obtain rfl := (pure_eq_ok_iff.mp h).symm
    rw [List.mem_singleton] at hsource
    cases hsource
    exact ⟨_, List.mem_singleton.mpr rfl, rfl⟩

theorem controlBindings_eq (doc : Json) : controlBindings doc = do
    let parts ← (["task", "scope", "a0", "a1", "privacy"] : List PyStr).mapM (bound doc)
    let resources ← fingerprint (sharedResources doc)
    let optional ← ((["retriever", "system_disclosure", "economic_package"] : List PyStr).filter fun k =>
      !(get doc k).isNull).mapM (bound doc)
    let overlay ← overlayBindings (get doc "overlay")
    return parts ++ [(py "resources", resources), (py "output", refFingerprint doc "output_contract"),
      (py "judgment", refFingerprint doc "judgment_contract")] ++ optional ++ overlay := by
  unfold controlBindings sharedResources
  split_ifs <;> rfl

/-- The derived fingerprint of a control is that of its source. -/
theorem mem_controlBindings {doc : Json} {bindings : List (PyStr × PyStr)} (h : controlBindings doc = .ok bindings)
    {control : PyStr} {source : ControlSource} (hsource : (control, source) ∈ controlSources doc) :
    ∃ d, (control, d) ∈ bindings ∧ source.digest = .ok d := by
  rw [controlBindings_eq] at h
  simp only [bind_eq_ok_iff, pure_eq_ok_iff] at h
  obtain ⟨parts, hparts, resources, hresources, optional, hoptional, overlay, hoverlay, rfl⟩ := h
  simp only [controlSources, List.mem_append] at hsource
  rcases hsource with ((hsource | hsource) | hsource) | hsource
  · obtain ⟨d, hd, hdigest⟩ := mem_mapM_bound hparts hsource
    exact ⟨d, by simp [hd], hdigest⟩
  · simp only [List.mem_cons, List.not_mem_nil, or_false, Prod.mk.injEq] at hsource
    rcases hsource with ⟨rfl, rfl⟩ | ⟨rfl, rfl⟩ | ⟨rfl, rfl⟩
    · exact ⟨resources, by simp, hresources⟩
    · exact ⟨_, by simp [refFingerprint], rfl⟩
    · exact ⟨_, by simp [refFingerprint], rfl⟩
  · obtain ⟨d, hd, hdigest⟩ := mem_mapM_bound hoptional hsource
    exact ⟨d, by simp [hd], hdigest⟩
  · obtain ⟨d, hd, hdigest⟩ := mem_overlayBindings hoverlay hsource
    exact ⟨d, by simp [hd], hdigest⟩

end Sources

section Declared

variable [PyRuntime]

/-- What acceptance establishes of the controls of a declaration. -/
structure Controlled (doc : Json) : Prop where
  declared : ∃ bindings, controlBindings doc = .ok bindings ∧
    ∀ b ∈ bindings, b.1 ∈ requiredControls doc → fixedControl doc b.1 = .str b.2
  judgment : hasTrack doc "JUDGMENT_ONLY" = true ↔ (get (get doc "overlay") "kind").isStr "JUDGMENT" = true
  retriever : hasTrack doc "JUDGMENT_ONLY" = false → (get doc "retriever").isNull = false
  frozen : hasTrack doc "E1_FROZEN" = true → (get (get doc "overlay") "kind").isStr "FROZEN" = true
  live : hasTrack doc "E1_LIVE" = true → (get (get doc "overlay") "kind").isStr "LIVE" = true
  economic : hasTrack doc "ECONOMIC_TRACK" = true → (get doc "economic_package").isNull = false

omit [PyRuntime] in
theorem eq_of_isStr {v : Json} {s : PyStr} (h : v.isStr s = true) : v = .str s := by
  cases v with
  | str t => exact congrArg Json.str (beq_iff_eq.mp h)
  | _ => cases h

omit [PyRuntime] in
theorem hasTrack_iff {doc : Json} {t : PyStr} : hasTrack doc t = true ↔ get doc "track_id" = .str t := by
  constructor
  · exact eq_of_isStr
  · intro h
    rw [hasTrack, h]
    exact beq_self_eq_true t

omit [PyRuntime] in
theorem not_hasTrack {doc : Json} {t t' : PyStr} (h : hasTrack doc t = true) (hne : t ≠ t') : hasTrack doc t' = false := by
  rw [hasTrack, hasTrack_iff.mp h]
  exact beq_eq_false_iff_ne.mpr hne

theorem SearchSpecV2.track_mem (spec : SearchSpecV2) : ∃ t ∈ tracks, get spec.asDict "track_id" = .str t := by
  have hfits : Fits (.enum tracks) (get spec.asDict "track_id") := spec.fits rfl
  exact (fits_enum _ _).mp hfits

theorem controlled_of_checks {doc : Json} (hcontrols : checkControls doc = .ok ()) (htrack : checkTrack doc = .ok ())
    (hpackages : checkPackages doc = .ok ()) : Controlled doc where
  declared := by
    unfold checkControls at hcontrols
    simp only [bind_eq_ok_iff, exists_unit_iff, check_eq_ok_iff] at hcontrols
    obtain ⟨-, bindings, hbindings, hfixed, -⟩ := hcontrols
    exact ⟨bindings, hbindings, fun b hb hrequired => eq_of_isStr (hfixed b hb hrequired)⟩
  judgment := by
    unfold checkTrack at htrack
    by_cases h : hasTrack doc "JUDGMENT_ONLY" = true
    · simp only [h, if_true, bind_eq_ok_iff, exists_unit_iff, check_eq_ok_iff] at htrack
      exact iff_of_true h htrack.1.1
    · rw [Bool.not_eq_true] at h
      simp only [h, Bool.false_eq_true, if_false, bind_eq_ok_iff, exists_unit_iff, check_eq_ok_iff] at htrack
      rw [h]
      exact iff_of_false Bool.false_ne_true (by rw [htrack.1.1]; exact Bool.false_ne_true)
  retriever := by
    intro h
    unfold checkTrack at htrack
    simp only [h, Bool.false_eq_true, if_false, bind_eq_ok_iff, exists_unit_iff, check_eq_ok_iff] at htrack
    exact htrack.1.2.1
  frozen := by
    intro h
    have hjudgment := not_hasTrack h (by decide : py "E1_FROZEN" ≠ py "JUDGMENT_ONLY")
    unfold checkTrack at htrack
    simp only [h, hjudgment, Bool.false_eq_true, Bool.true_or, if_true, if_false, bind_eq_ok_iff, exists_unit_iff,
      check_eq_ok_iff] at htrack
    exact htrack.2.2.2.1
  live := by
    intro h
    have hjudgment := not_hasTrack h (by decide : py "E1_LIVE" ≠ py "JUDGMENT_ONLY")
    have hfrozen := not_hasTrack h (by decide : py "E1_LIVE" ≠ py "E1_FROZEN")
    unfold checkTrack at htrack
    simp only [h, hjudgment, hfrozen, Bool.false_eq_true, Bool.or_true, if_true, if_false, bind_eq_ok_iff,
      exists_unit_iff, check_eq_ok_iff] at htrack
    exact htrack.2.2.2.1
  economic := by
    intro h
    have hjudgment := not_hasTrack h (by decide : py "ECONOMIC_TRACK" ≠ py "JUDGMENT_ONLY")
    have hfrozen := not_hasTrack h (by decide : py "ECONOMIC_TRACK" ≠ py "E1_FROZEN")
    have hlive := not_hasTrack h (by decide : py "ECONOMIC_TRACK" ≠ py "E1_LIVE")
    have hretriever := not_hasTrack h (by decide : py "ECONOMIC_TRACK" ≠ py "E2_RETRIEVER")
    have hmode : hasMode doc "F3" = true := by
      unfold checkControls at hcontrols
      by_cases hablation : hasMode doc "ABLATION" = true
      · simp only [hablation, hretriever, if_true, bind_eq_ok_iff, exists_unit_iff, check_eq_ok_iff] at hcontrols
        obtain ⟨-, -, -, -, ⟨habsurd, -⟩, -⟩ := hcontrols
        cases habsurd
      · rw [Bool.not_eq_true] at hablation
        simp only [h, hablation, hjudgment, hfrozen, hlive, hretriever, Bool.or_false, Bool.false_eq_true, if_true,
          if_false, false_and, or_false, bind_eq_ok_iff, exists_unit_iff, check_eq_ok_iff] at hcontrols
        obtain ⟨-, -, -, -, -, hmode, -⟩ := hcontrols
        exact hmode
    unfold checkPackages at hpackages
    simp only [hmode, if_true, bind_eq_ok_iff, exists_unit_iff, check_eq_ok_iff] at hpackages
    exact hpackages.2.2.1.1

theorem SearchSpecV2.controlled (spec : SearchSpecV2) : Controlled spec.asDict := by
  have hvalid := spec.valid
  unfold validateSearchSpec at hvalid
  simp only [bind_eq_ok_iff, exists_unit_iff] at hvalid
  obtain ⟨-, -, -, -, hcontrols, htrack, hpackages⟩ := hvalid
  exact controlled_of_checks hcontrols htrack hpackages

/-- A required control that is derived is declared with the fingerprint of its source. -/
theorem Controlled.fixed {doc : Json} (hc : Controlled doc) {control : PyStr} {source : ControlSource}
    (hrequired : control ∈ requiredControls doc) (hsource : (control, source) ∈ controlSources doc) :
    ∃ d, fixedControl doc control = .str d ∧ source.digest = .ok d := by
  obtain ⟨bindings, hbindings, hfixed⟩ := hc.declared
  obtain ⟨d, hd, hdigest⟩ := mem_controlBindings hbindings hsource
  exact ⟨d, hfixed _ hd hrequired, hdigest⟩

end Declared

section Held

/-- A document of which only the track is known. -/
def trackOnly (track : PyStr) : Json := .obj [("track_id", .str track)]

theorem hasTrack_trackOnly {doc : Json} {track : PyStr} (h : get doc "track_id" = .str track) (t : PyStr) :
    hasTrack doc t = hasTrack (trackOnly track) t := by
  rw [hasTrack, hasTrack, h]
  rfl

theorem requiredControls_eq {doc : Json} {track : PyStr} (h : get doc "track_id" = .str track) :
    requiredControls doc = requiredControls (trackOnly track) := by
  simp only [requiredControls, hasTrack_trackOnly h]

theorem heldControls_eq {doc : Json} {track : PyStr} (h : get doc "track_id" = .str track) :
    heldControls doc = heldControls (trackOnly track) := by
  simp only [heldControls, hasTrack_trackOnly h]

/-- The controls that every declaration derives. -/
def always : List PyStr := ["task", "scope", "a0", "a1", "privacy", "resources", "output", "judgment"]

def judgmentKeys : List PyStr := ["candidate_set", "evidence_packet", "rubric", "ordering", "tools"]

theorem keys_overlaySources (overlay : Json) : (overlaySources overlay).map Prod.fst =
    if (get overlay "kind").isStr "JUDGMENT" then judgmentKeys
    else if (get overlay "kind").isStr "FROZEN" then ["corpus", "index"] else ["time_window"] := by
  unfold overlaySources
  split_ifs <;> rfl

theorem mem_keys_controlSources {doc : Json} {control : PyStr} : control ∈ (controlSources doc).map Prod.fst ↔
    control ∈ always ∨
      (control ∈ (["retriever", "system_disclosure", "economic_package"] : List PyStr) ∧ (get doc control).isNull = false) ∨
      control ∈ (overlaySources (get doc "overlay")).map Prod.fst := by
  have hparts : ∀ keys : List PyStr, (keys.map (partOf doc)).map Prod.fst = keys := by
    intro keys
    rw [List.map_map]
    exact List.map_id keys
  rw [controlSources, List.map_append, List.map_append, List.map_append, hparts, hparts, List.mem_append, List.mem_append,
    List.mem_filter, Bool.not_eq_true', or_assoc]
  rfl

/-- What a track holds fixed is what it requires and its declarations derive. -/
theorem Controlled.held_iff [PyRuntime] {doc : Json} (hc : Controlled doc) {track : PyStr} (ht : track ∈ tracks)
    (h : get doc "track_id" = .str track) {control : PyStr} :
    control ∈ heldControls doc ↔ control ∈ requiredControls doc ∧ control ∈ (controlSources doc).map Prod.fst := by
  have htrack : ∀ t, hasTrack doc t = true ↔ track = t := by
    intro t
    rw [hasTrack_iff, h, Json.str.injEq]
  rw [requiredControls_eq h, heldControls_eq h, mem_keys_controlSources, keys_overlaySources]
  constructor
  · intro hheld
    -- what a held control is derived from, track by track
    have hwhere : ∀ t ∈ tracks, ∀ k ∈ heldControls (trackOnly t), k ∈ requiredControls (trackOnly t) ∧
        (k ∈ always ∨ t = py "JUDGMENT_ONLY" ∧ k ∈ judgmentKeys ∨ k = py "retriever" ∧ t ≠ py "JUDGMENT_ONLY" ∨
          t = py "E1_FROZEN" ∧ k ∈ (["corpus", "index"] : List PyStr) ∨ t = py "E1_LIVE" ∧ k = py "time_window" ∨
          t = py "ECONOMIC_TRACK" ∧ k = py "economic_package") := by decide +kernel
    obtain ⟨hrequired, hsource⟩ := hwhere track ht control hheld
    refine ⟨hrequired, ?_⟩
    rcases hsource with hk | ⟨rfl, hk⟩ | ⟨rfl, hne⟩ | ⟨rfl, hk⟩ | ⟨rfl, rfl⟩ | ⟨rfl, rfl⟩
    · exact .inl hk
    · rw [if_pos (hc.judgment.mp ((htrack _).mpr rfl))]
      exact .inr (.inr hk)
    · have hjudgment : hasTrack doc "JUDGMENT_ONLY" = false := Bool.eq_false_iff.mpr fun hj => hne ((htrack _).mp hj)
      exact .inr (.inl ⟨by simp, hc.retriever hjudgment⟩)
    · have hkind := hc.frozen ((htrack _).mpr rfl)
      have hjudgment : ¬(get (get doc "overlay") "kind").isStr "JUDGMENT" = true := fun hj =>
        absurd ((htrack _).mp (hc.judgment.mpr hj)) (by decide)
      rw [if_neg hjudgment, if_pos hkind]
      exact .inr (.inr hk)
    · have hkind := eq_of_isStr (hc.live ((htrack _).mpr rfl))
      rw [hkind]
      exact .inr (.inr (List.mem_singleton.mpr rfl))
    · exact .inr (.inl ⟨by simp, hc.economic ((htrack _).mpr rfl)⟩)
  · rintro ⟨hrequired, hsource⟩
    have hheld : ∀ t ∈ tracks, ∀ k ∈ requiredControls (trackOnly t), k ∈ heldControls (trackOnly t) ∨
        t ≠ py "JUDGMENT_ONLY" ∧ k ∉ always ∧
          k ∉ (["retriever", "system_disclosure", "economic_package", "corpus", "index", "time_window"] : List PyStr) := by
      decide +kernel
    rcases hheld track ht control hrequired with hk | ⟨hne, halways, hother⟩
    · exact hk
    · exfalso
      simp only [List.mem_cons, List.not_mem_nil, or_false, not_or] at hother
      obtain ⟨hretriever, hdisclosure, heconomic, hcorpus, hindex, hwindow⟩ := hother
      have hjudgment : ¬(get (get doc "overlay") "kind").isStr "JUDGMENT" = true := fun hj =>
        hne ((htrack _).mp (hc.judgment.mpr hj))
      rw [if_neg hjudgment] at hsource
      rcases hsource with hk | ⟨hk, -⟩ | hk
      · exact halways hk
      · simp [hretriever, hdisclosure, heconomic] at hk
      · split_ifs at hk <;> simp [hcorpus, hindex, hwindow] at hk

end Held

section Agreement

variable [PyRuntime]

/-- A declaration that the comparison accepts beside the first one. -/
structure Agrees (first doc : Json) : Prop where
  track : get doc "track_id" = get first "track_id"
  mode : get doc "fairness_mode" = get first "fairness_mode"
  fixed : ∀ control d, fixedControl doc control = .str d → fixedControl first control = .str d
  identity : hasMode first "F1" = true → get doc fingerprintKey = get first fingerprintKey

theorem SearchSpecV2.mode_str (spec : SearchSpecV2) : ∃ t, get spec.asDict "fairness_mode" = .str t := by
  have hfits : Fits (.enum ["F1", "F2", "F3", "ABLATION"]) (get spec.asDict "fairness_mode") := spec.fits rfl
  obtain ⟨t, -, ht⟩ := (fits_enum _ _).mp hfits
  exact ⟨t, ht⟩

theorem SearchSpecV2.fingerprint_str (spec : SearchSpecV2) : ∃ t, get spec.asDict fingerprintKey = .str t := by
  have hfits : Fits hashSchema (get spec.asDict fingerprintKey) := spec.fits rfl
  obtain ⟨t, ht, -⟩ := fits_hash hfits
  exact ⟨t, ht⟩

omit [PyRuntime] in
theorem eq_of_pyEq_text {v w : Json} (hw : ∃ t, w = .str t) (h : pyEq v w = true) : v = w := by
  obtain ⟨t, rfl⟩ := hw
  exact (pyEq_str v t).mp h

omit [PyRuntime] in
/-- A text of an object is a text of an equal one. -/
theorem get_str_of_pyEq {v w : Json} (h : pyEq v w = true) {k d : PyStr} (hk : get v k = .str d) : get w k = .str d := by
  cases v with
  | obj fs =>
    cases w with
    | obj gs =>
      have hlookup := lookup_of_dictGet hk Json.noConfusion
      obtain ⟨w, hw, heq⟩ := (pyEq_obj_iff.mp h).2 (k, .str d) (mem_of_lookup hlookup)
      rw [get, dictGet_of_lookup hw]
      cases w with
      | str t => rw [beq_iff_eq.mp heq]
      | _ => cases heq
    | _ => cases h
  | _ => cases hk

theorem agrees_of_compareWith {first spec : SearchSpecV2} (h : compareWith first.asDict spec.asDict = .ok ()) :
    Agrees first.asDict spec.asDict := by
  unfold compareWith at h
  simp only [bind_eq_ok_iff, exists_unit_iff, check_eq_ok_iff] at h
  obtain ⟨-, ⟨htrack, hmode⟩, hfixed, -, -, hidentity⟩ := h
  obtain ⟨t, -, ht⟩ := first.track_mem
  exact ⟨eq_of_pyEq_text ⟨t, ht⟩ htrack, eq_of_pyEq_text first.mode_str hmode, fun _ _ => get_str_of_pyEq hfixed,
    fun hf => eq_of_pyEq_text first.fingerprint_str (hidentity hf)⟩

/-- All declarations of an accepted comparison agree with one of them. -/
theorem agrees_of_compareControls {specs : List SearchSpecV2} (h : compareControls specs = .ok ()) :
    ∃ first : SearchSpecV2, ∀ spec ∈ specs, Agrees first.asDict spec.asDict := by
  unfold compareControls at h
  simp only [bind_eq_ok_iff, exists_unit_iff, check_eq_ok_iff] at h
  obtain ⟨hlength, h⟩ := h
  cases specs with
  | nil => cases hlength
  | cons first rest =>
    simp only [forM_eq_ok_iff] at h
    refine ⟨first, fun spec hspec => ?_⟩
    rcases List.mem_cons.mp hspec with rfl | hrest
    · exact ⟨rfl, rfl, fun _ _ => id, fun _ => rfl⟩
    · exact agrees_of_compareWith (h spec hrest)

variable [RoundTripFloats]

theorem SearchSpecV2.sealed (spec : SearchSpecV2) : ∃ fields, Sealed spec.asDict fields := by
  have hvalid := spec.valid
  unfold validateSearchSpec at hvalid
  simp only [bind_eq_ok_iff, exists_unit_iff] at hvalid
  exact (verifySeal_ok_iff spec.legible).mp hvalid.2.2.1

omit [PyRuntime] [RoundTripFloats] in
/-- The body that the fingerprint of a document is taken of. -/
def sealedBody : Json → Json
  | .obj fields => .obj (unsealed fields)
  | v => v

/-- Declarations with one fingerprint are the same, when SHA-256 tells their bodies apart. -/
theorem SearchSpecV2.eq_of_fingerprint {spec spec' : SearchSpecV2}
    (h : get spec.asDict fingerprintKey = get spec'.asDict fingerprintKey)
    (hapart : ToldApart (sealedBody spec.asDict) (sealedBody spec'.asDict)) : spec.asDict = spec'.asDict := by
  obtain ⟨fields, hsealed⟩ := spec.sealed
  obtain ⟨fields', hsealed'⟩ := spec'.sealed
  have hlegible := spec.legible
  have hlegible' := spec'.legible
  have hsorted := spec.sorted
  have hsorted' := spec'.sorted
  rw [hsealed.shape] at h hapart hlegible hsorted ⊢
  rw [hsealed'.shape] at h hapart hlegible' hsorted' ⊢
  have hequal : sealDigest fields = sealDigest fields' := by
    rw [get, get, hsealed.fingerprint, hsealed'.fingerprint, Json.str.injEq] at h
    exact h
  have hsame := sameJson_of_seal hlegible hlegible' (hsealed.shape ▸ hsealed) (hsealed'.shape ▸ hsealed') hequal hapart
  rwa [SameJson, hsorted, hsorted'] at hsame

omit [RoundTripFloats] in
theorem legible_restrict {v : Json} (h : Legible v) {keys : List PyStr} (hkeys : keys.Nodup) : Legible (restrict v keys) := by
  rw [restrict, Legible, fieldsLegible_iff, List.map_map]
  have hnodup : keys.map (Prod.fst ∘ fun k => (k, get v k)) = keys := List.map_id keys
  refine ⟨by rwa [hnodup], fun f hf => ?_⟩
  obtain ⟨k, -, rfl⟩ := List.mem_map.mp hf
  exact Legible.get h k

omit [RoundTripFloats] in
theorem legible_partOf {doc : Json} (h : Legible doc) {keys : List PyStr} {control : PyStr} {own : Json}
    (hsource : (control, ControlSource.part own) ∈ keys.map (partOf doc)) : Legible own := by
  obtain ⟨k, -, heq⟩ := List.mem_map.mp hsource
  cases heq
  exact Legible.get h _

/-- The content that a source of a declaration pins can be read back. -/
theorem SearchSpecV2.legible_of_pins (spec : SearchSpecV2) {control : PyStr} {source : ControlSource}
    (hsource : (control, source) ∈ controlSources spec.asDict) {content : Json} (h : source.Pins content) :
    Legible content := by
  cases source with
  | reference ref => exact h.1
  | part own =>
    rw [ControlSource.Pins] at h
    subst h
    simp only [controlSources, List.mem_append] at hsource
    rcases hsource with ((hsource | hsource) | hsource) | hsource
    · exact legible_partOf spec.legible hsource
    · simp only [List.mem_cons, Prod.mk.injEq, ControlSource.part.injEq, reduceCtorEq, and_false, List.not_mem_nil,
        or_false] at hsource
      rw [hsource.2, sharedResources]
      split_ifs
      · exact legible_restrict (Legible.get spec.legible _) (by decide)
      · exact Legible.get spec.legible _
    · exact legible_partOf spec.legible hsource
    · unfold overlaySources at hsource
      split_ifs at hsource
      · simp only [List.mem_append, List.mem_map, List.mem_cons, Prod.mk.injEq, ControlSource.part.injEq, reduceCtorEq,
          and_false, exists_false, List.not_mem_nil, or_false, false_or] at hsource
        rw [hsource.2]
        exact trivial
      · simp at hsource
      · simp at hsource

/-- In an accepted comparison, two declarations have one track and one fairness mode; every control that the track holds
fixed has a source in both, with one fingerprint and the same contents; and on `F1` they are the same declaration. -/
theorem compareControls_holds_fixed (specs : List SearchSpecV2) (haccepted : compareControls specs = .ok ())
    (spec spec' : SearchSpecV2) (hspec : spec ∈ specs) (hspec' : spec' ∈ specs) :
    get spec.asDict "track_id" = get spec'.asDict "track_id" ∧
    get spec.asDict "fairness_mode" = get spec'.asDict "fairness_mode" ∧
    (∀ control, control ∈ heldControls spec.asDict ↔
      control ∈ requiredControls spec.asDict ∧ control ∈ (controlSources spec.asDict).map Prod.fst) ∧
    (∀ control ∈ heldControls spec.asDict, ∃ source source' d, (control, source) ∈ controlSources spec.asDict ∧
      (control, source') ∈ controlSources spec'.asDict ∧ source.digest = .ok d ∧ source'.digest = .ok d ∧
      SameContents source source') ∧
    (hasMode spec.asDict "F1" = true → ToldApart (sealedBody spec.asDict) (sealedBody spec'.asDict) →
      spec.asDict = spec'.asDict) := by
  obtain ⟨first, hagrees⟩ := agrees_of_compareControls haccepted
  have ha := hagrees spec hspec
  have ha' := hagrees spec' hspec'
  obtain ⟨track, ht, htrack⟩ := spec.track_mem
  have htrack' : get spec'.asDict "track_id" = .str track := by rw [ha'.track, ← ha.track, htrack]
  have hmode : get spec.asDict "fairness_mode" = get spec'.asDict "fairness_mode" := ha.mode.trans ha'.mode.symm
  refine ⟨htrack.trans htrack'.symm, hmode, fun control => spec.controlled.held_iff ht htrack, ?_, ?_⟩
  · intro control hheld
    have hheld' : control ∈ heldControls spec'.asDict := by
      rwa [heldControls_eq htrack', ← heldControls_eq htrack]
    obtain ⟨hrequired, hkey⟩ := (spec.controlled.held_iff ht htrack).mp hheld
    obtain ⟨hrequired', hkey'⟩ := (spec'.controlled.held_iff ht htrack').mp hheld'
    obtain ⟨⟨_, source⟩, hsource, rfl⟩ := List.mem_map.mp hkey
    obtain ⟨⟨_, source'⟩, hsource', rfl⟩ := List.mem_map.mp hkey'
    -- both declare the fingerprint that the first one declares
    obtain ⟨d, hfixed, hdigest⟩ := spec.controlled.fixed hrequired hsource
    obtain ⟨d', hfixed', hdigest'⟩ := spec'.controlled.fixed hrequired' hsource'
    have hequal := (ha.fixed _ _ hfixed).symm.trans (ha'.fixed _ _ hfixed')
    rw [Json.str.injEq] at hequal
    subst hequal
    refine ⟨source, source', d, hsource, hsource', hdigest, hdigest', fun content content' hpins hpins' hapart => ?_⟩
    exact sameJson_of_fingerprint (spec.legible_of_pins hsource hpins) (spec'.legible_of_pins hsource' hpins')
      (ControlSource.digest_of_pins hpins hdigest) (ControlSource.digest_of_pins hpins' hdigest') hapart
  · intro hf hapart
    have hfirst : hasMode first.asDict "F1" = true := by rwa [hasMode, ← ha.mode]
    exact SearchSpecV2.eq_of_fingerprint ((ha.identity hfirst).trans (ha'.identity hfirst).symm) hapart

end Agreement

section Sample
open Python.Whole

/-- A declaration beside itself. -/
theorem compareControls_sample : compareControls [sampleDeclaration, sampleDeclaration] = .ok () ∧
    ∀ control ∈ heldControls sampleSpec, ∃ source source' d, (control, source) ∈ controlSources sampleSpec ∧
      (control, source') ∈ controlSources sampleSpec ∧ source.digest = .ok d ∧ source'.digest = .ok d ∧
      SameContents source source' := by
  have haccepted : compareControls [sampleDeclaration, sampleDeclaration] = .ok () := by decide +kernel
  have hmem : sampleDeclaration ∈ [sampleDeclaration, sampleDeclaration] := List.mem_cons_self ..
  obtain ⟨-, -, -, hheld, -⟩ := compareControls_holds_fixed [sampleDeclaration, sampleDeclaration] haccepted
    sampleDeclaration sampleDeclaration hmem hmem
  exact ⟨haccepted, hheld⟩

end Sample

end EvaluationLab.SearchCup
