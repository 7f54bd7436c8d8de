import EvaluationLab.BM1.Manifest

/-! What an accepted manifest guarantees to the runner. -/
namespace EvaluationLab.BM1
open Python Effect QA0

variable [PyRuntime] {m : Manifest} {cases : CaseLookup}

theorem shaOk_digestText (bytes : List UInt8) : shaOk (digestText bytes) = true := by
  have hstart : py "sha256:" = [115, 104, 97, 50, 53, 54, 58] := by decide +kernel
  have hhex : ∀ n < 16, isLowerHex (hexDigit n) = true := by decide
  unfold shaOk digestText
  rw [hstart]
  simp only [List.cons_append, List.nil_append, List.drop_succ_cons, List.drop_zero, Bool.and_eq_true,
    List.all_eq_true]
  refine ⟨⟨by simp [List.isPrefixOf], by simp [hexDigest]⟩, ?_⟩
  intro c hc
  obtain ⟨i, -, rfl⟩ := List.mem_map.mp hc
  exact hhex _ (Nat.mod_lt _ (by decide))

/-- The fingerprint computed for a document is accepted for it. -/
theorem fingerprintOk_of_sha256Json {document : Json} {d : PyStr} (h : sha256Json document = .ok d)
    (field label : PyStr) : fingerprintOk d document field label = .ok () := by
  have hsha : shaOk d = true := by
    simp only [sha256Json, bind_eq_ok_iff, pure_eq_ok_iff] at h
    obtain ⟨_, -, bytes, -, rfl⟩ := h
    exact shaOk_digestText bytes
  simp only [fingerprintOk, bind_eq_ok_iff, exists_unit_iff, check_eq_ok_iff]
  exact ⟨hsha, d, h, rfl⟩

/-- A manifest accepted together with the frozen cases of its binding. -/
structure Manifest.Valid (m : Manifest) (cases : CaseLookup) : Prop where
  validated : validateManifest m (some cases) = .ok m

/-- A planned attempt with the provider and the case it runs against. -/
structure Planned (m : Manifest) (cases : CaseLookup) (attempt : Attempt) : Prop where
  providerFound : ∃ p, providerOf m attempt.providerId = .ok p ∧ p ∈ m.providers ∧
    p.providerId = attempt.providerId ∧ checkProvider p = .ok ()
  caseFound : ∃ case decision prompt digest, caseOf cases attempt.caseId = .ok case ∧
    expectedDecisionForCase case = .ok decision ∧ renderCasePrompt case = .ok prompt ∧
    shaText prompt = .ok digest ∧ ∃ d, sha256Json case = .ok d

omit [PyRuntime] in
private theorem providerOf_mem {providerId : PyStr} {p : Provider} (h : providerOf m providerId = .ok p) :
    p ∈ m.providers ∧ p.providerId = providerId := by
  unfold providerOf at h
  cases hfind : m.providers.find? fun p => p.providerId = providerId with
  | none => simp [hfind] at h
  | some q =>
    simp only [hfind, Except.ok.injEq] at h
    subst h
    have hid := List.find?_some hfind
    exact ⟨List.mem_of_find?_eq_some hfind, of_decide_eq_true hid⟩

omit [PyRuntime] in
/-- The checks of an accepted plan, attempt by attempt. -/
theorem checkAttempts_ok {sequence : ℤ} {seen : List PyStr} {attempts : List Attempt}
    {expected : List (PyStr × PyStr × PyStr)} (hlen : attempts.length = expected.length)
    (h : checkAttempts m sequence seen attempts expected = .ok ()) :
    attempts.map (fun a => (a.providerId, a.caseId, a.variant)) = expected ∧
      (attempts.map Attempt.attemptId).Nodup ∧
      ∀ a ∈ attempts, a.attemptId ≠ [] ∧ a.attemptId ∉ seen ∧ ∃ p, providerOf m a.providerId = .ok p := by
  induction attempts generalizing sequence seen expected with
  | nil =>
    cases expected with
    | nil => simp
    | cons e es => simp at hlen
  | cons a as ih =>
    cases expected with
    | nil => simp at hlen
    | cons e es =>
      simp only [checkAttempts, bind_eq_ok_iff, exists_unit_iff, check_eq_ok_iff] at h
      obtain ⟨⟨-, hmatrix, hne, hseen, -, -⟩, p, hp, -, hrest⟩ := h
      obtain ⟨hmap, hnodup, hall⟩ := ih (by simpa using hlen) hrest
      have hfresh : a.attemptId ∉ as.map Attempt.attemptId := by
        intro hmem
        obtain ⟨b, hb, heq⟩ := List.mem_map.mp hmem
        exact (hall b hb).2.1 (by simp [heq])
      refine ⟨?_, ?_, ?_⟩
      · rw [List.map_cons, hmatrix, hmap]
      · rw [List.map_cons, List.nodup_cons]
        exact ⟨hfresh, hnodup⟩
      · intro b hb
        rcases List.mem_cons.mp hb with rfl | hb
        · exact ⟨hne, hseen, p, hp⟩
        · obtain ⟨hbne, hbseen, hbp⟩ := hall b hb
          exact ⟨hbne, fun hm => hbseen (by simp [hm]), hbp⟩

namespace Manifest.Valid

/-- Every check of `validate_manifest` that the runner's properties rest on. -/
private theorem checks (hv : m.Valid cases) :
    (m.caseBinding.cases.length = 2 ∧
      ∀ row ∈ m.caseBinding.cases.zip [(targetCaseId, py "KNOWN_BAD"), (controlCaseId, py "CONTROL")],
        checkCaseRow (some cases) row.1 row.2 = .ok ()) ∧
    (∀ p ∈ m.providers, checkProvider p = .ok ()) ∧ m.runtimeContract = runtimeExpected ∧
    (m.attemptPlan.length = 4 ∧ checkAttempts m 1 [] m.attemptPlan expectedAttempts = .ok ()) ∧
    (fingerprintOk m.manifestFingerprint (.obj m.fields) "manifest_fingerprint" "manifest" = .ok () ∧
      assertPublicSafe m.toJson = .ok ()) ∧
    (∃ d, wrapperFingerprint = .ok d) ∧ (∃ d, scorerFingerprint = .ok d) ∧
    ∃ d, oracleFingerprint = .ok d := by
  have h := hv.validated
  simp only [validateManifest, bind_eq_ok_iff, exists_unit_iff, check_eq_ok_iff, forM_eq_ok_iff,
    pure_eq_ok_iff] at h
  obtain ⟨-, -, w, hw, s, hs, o, ho, -, -, hcount, hrows, -, -, hproviders, hruntime, hlen, hattempts, -, -, -,
    hfp, hsafe, -⟩ := h
  exact ⟨⟨hcount, hrows⟩, hproviders, hruntime, ⟨hlen, hattempts⟩, ⟨hfp, hsafe⟩, ⟨w, hw⟩, ⟨s, hs⟩, o, ho⟩

/-- The fingerprints of the frozen wrapper, scorer and oracle. -/
theorem frozenFingerprints (hv : m.Valid cases) : (∃ d, wrapperFingerprint = .ok d) ∧
    (∃ d, scorerFingerprint = .ok d) ∧ ∃ d, oracleFingerprint = .ok d :=
  hv.checks.2.2.2.2.2

theorem attemptCount (hv : m.Valid cases) : m.attemptPlan.length = maxPlannedAttempts :=
  hv.checks.2.2.2.1.1

theorem runtime (hv : m.Valid cases) : m.runtimeContract = runtimeExpected := hv.checks.2.2.1

theorem matrix (hv : m.Valid cases) :
    m.attemptPlan.map (fun a => (a.providerId, a.caseId, a.variant)) = expectedAttempts :=
  (checkAttempts_ok hv.checks.2.2.2.1.1 hv.checks.2.2.2.1.2).1

theorem attemptIds_nodup (hv : m.Valid cases) : (m.attemptPlan.map Attempt.attemptId).Nodup :=
  (checkAttempts_ok hv.checks.2.2.2.1.1 hv.checks.2.2.2.1.2).2.1

private theorem caseFound (hv : m.Valid cases) {caseId : PyStr}
    (hc : caseId = targetCaseId ∨ caseId = controlCaseId) :
    ∃ case decision prompt digest, caseOf cases caseId = .ok case ∧
      expectedDecisionForCase case = .ok decision ∧ renderCasePrompt case = .ok prompt ∧
      shaText prompt = .ok digest ∧ ∃ d, sha256Json case = .ok d := by
  obtain ⟨⟨hcount, hrows⟩, -⟩ := hv.checks
  match hl : m.caseBinding.cases, hcount with
  | [target, control], _ =>
    rw [hl] at hrows
    have hrow : ∃ row variant, checkCaseRow (some cases) row (caseId, variant) = .ok () := by
      rcases hc with rfl | rfl
      · exact ⟨target, py "KNOWN_BAD", hrows (target, _) (by simp)⟩
      · exact ⟨control, py "CONTROL", hrows (control, _) (by simp)⟩
    obtain ⟨row, variant, hrow⟩ := hrow
    simp only [checkCaseRow, bind_eq_ok_iff, exists_unit_iff] at hrow
    obtain ⟨-, case, hcase, d, hd, prompt, hprompt, digest, hdigest, decision, hdecision, -⟩ := hrow
    exact ⟨case, decision, prompt, digest, hcase, hdecision, hprompt, hdigest, d, hd⟩

theorem planned (hv : m.Valid cases) {attempt : Attempt} (ha : attempt ∈ m.attemptPlan) :
    Planned m cases attempt := by
  obtain ⟨hmatrix, -, hall⟩ := checkAttempts_ok hv.checks.2.2.2.1.1 hv.checks.2.2.2.1.2
  obtain ⟨-, -, p, hp⟩ := hall attempt ha
  obtain ⟨hmem, hid⟩ := providerOf_mem hp
  refine ⟨⟨p, hp, hmem, hid, hv.checks.2.1 p hmem⟩, hv.caseFound ?_⟩
  have hrow : (attempt.providerId, attempt.caseId, attempt.variant) ∈ expectedAttempts := by
    rw [← hmatrix]
    exact List.mem_map.mpr ⟨attempt, ha, rfl⟩
  simp only [expectedAttempts, List.mem_cons, Prod.mk.injEq, List.not_mem_nil, or_false] at hrow
  rcases hrow with ⟨-, h, -⟩ | ⟨-, h, -⟩ | ⟨-, h, -⟩ | ⟨-, h, -⟩ <;> simp [h]

/-- Every string of an accepted manifest may be published. -/
theorem clean (hv : m.Valid cases) : ∀ t ∈ texts m.toJson, CleanText t := by
  obtain ⟨-, -, -, -, ⟨hfp, hsafe⟩, -⟩ := hv.checks
  simp only [fingerprintOk, bind_eq_ok_iff, exists_unit_iff, check_eq_ok_iff] at hfp
  obtain ⟨-, d, hd, heq⟩ := hfp
  have hpublic := (assertPublicSafe_ok_iff _).mp hsafe
  have hencode := ((sha256Json_ok_iff _).mp ⟨d, hd⟩).1
  intro t ht
  refine ⟨hpublic t ht, ?_⟩
  rw [Manifest.toJson, texts, fieldTexts_append] at ht
  rcases List.mem_append.mp ht with ht | ht
  · exact hencode t (by rwa [texts])
  · simp only [fieldTexts, texts, List.append_nil, List.mem_cons, List.not_mem_nil, or_false] at ht
    rcases ht with rfl | rfl
    · decide
    · rw [heq]
      exact (sha256Json_clean hd).2

theorem fingerprint_clean (hv : m.Valid cases) : CleanText m.manifestFingerprint := by
  obtain ⟨-, -, -, -, ⟨hfp, -⟩, -⟩ := hv.checks
  simp only [fingerprintOk, bind_eq_ok_iff, exists_unit_iff, check_eq_ok_iff] at hfp
  obtain ⟨-, d, hd, heq⟩ := hfp
  rw [heq]
  exact sha256Json_clean hd

end Manifest.Valid
end EvaluationLab.BM1
