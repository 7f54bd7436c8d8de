import EvaluationLab.BM0.Validation
import EvaluationLab.Structure.ParentChain

/-! What an accepted manifest guarantees of its planned attempts. -/
namespace EvaluationLab.BM0
open Python Effect QA0 Structure

section Bindings
variable {κ β : Type} [DecidableEq κ] [DecidableEq β]

/-- What a key is bound to. -/
def boundTo (bindings : List (κ × β)) (key : κ) : Option β := bindings.lookup key

theorem bindOnce_boundTo {bindings bindings' : List (κ × β)} {key : κ} {value : β} {e : PyExc}
    (h : bindOnce bindings key value e = .ok bindings') : boundTo bindings' key = some value := by
  unfold bindOnce at h
  unfold boundTo
  cases hb : bindings.lookup key with
  | some bound =>
    simp only [hb] at h
    split_ifs at h with hv
    cases h
    rw [hb, hv]
  | none =>
    simp only [hb] at h
    cases h
    simp [List.lookup_append, hb]

theorem bindOnce_keeps {bindings bindings' : List (κ × β)} {key key' : κ} {value value' : β} {e : PyExc}
    (h : bindOnce bindings key value e = .ok bindings') (hk : boundTo bindings key' = some value') :
    boundTo bindings' key' = some value' := by
  unfold bindOnce at h
  unfold boundTo at hk ⊢
  cases hb : bindings.lookup key with
  | some bound =>
    simp only [hb] at h
    split_ifs at h with hv
    cases h
    exact hk
  | none =>
    simp only [hb] at h
    cases h
    simp [List.lookup_append, hk]

end Bindings

section Attempts
variable {attempts : List TrialIdentity}

theorem attemptOf_mem {attemptId : PyStr} {t : TrialIdentity} (h : attemptOf attempts attemptId = some t) :
    t ∈ attempts := List.mem_of_find?_eq_some h

theorem attemptOf_attemptId {attemptId : PyStr} {t : TrialIdentity}
    (h : attemptOf attempts attemptId = some t) : t.attemptId = attemptId := by
  have hfound := List.find?_some h
  exact of_decide_eq_true hfound

theorem eq_of_attemptId (hids : (attempts.map TrialIdentity.attemptId).Nodup) {t u : TrialIdentity}
    (ht : t ∈ attempts) (hu : u ∈ attempts) (h : t.attemptId = u.attemptId) : t = u :=
  List.inj_on_of_nodup_map hids ht hu h

theorem attemptOf_of_mem (hids : (attempts.map TrialIdentity.attemptId).Nodup) {t : TrialIdentity}
    (ht : t ∈ attempts) : attemptOf attempts t.attemptId = some t := by
  cases h : attemptOf attempts t.attemptId with
  | none =>
    have hnone := List.find?_eq_none.mp h t ht
    simp at hnone
  | some u =>
    rw [eq_of_attemptId hids (attemptOf_mem h) ht (attemptOf_attemptId h)]

/-- The parent of an attempt in the plan. -/
def parentOf (attempts : List TrialIdentity) (t : TrialIdentity) : Option TrialIdentity :=
  t.parentAttemptId.bind (attemptOf attempts)

theorem SamplingControls.same_refl (s : SamplingControls) : s.same s := ⟨rfl, rfl, rfl, rfl, rfl, rfl⟩

theorem SamplingControls.same_symm {s t : SamplingControls} (h : s.same t) : t.same s := by
  obtain ⟨h1, h2, h3, h4, h5, h6⟩ := h
  exact ⟨h1.symm, h2.symm, h3.symm, h4.symm, h5.symm, h6.symm⟩

theorem SamplingControls.same_trans {s t u : SamplingControls} (h : s.same t) (h' : t.same u) : s.same u := by
  obtain ⟨h1, h2, h3, h4, h5, h6⟩ := h
  obtain ⟨g1, g2, g3, g4, g5, g6⟩ := h'
  exact ⟨h1.trans g1, h2.trans g2, h3.trans g3, h4.trans g4, h5.trans g5, h6.trans g6⟩

theorem TrialIdentity.sameRetryIdentity_refl (t : TrialIdentity) : t.sameRetryIdentity t :=
  ⟨rfl, t.samplingControls.same_refl⟩

theorem TrialIdentity.sameRetryIdentity_symm {t u : TrialIdentity} (h : t.sameRetryIdentity u) :
    u.sameRetryIdentity t := ⟨h.1.symm, SamplingControls.same_symm h.2⟩

theorem TrialIdentity.sameRetryIdentity_trans {t u v : TrialIdentity} (h : t.sameRetryIdentity u)
    (h' : u.sameRetryIdentity v) : t.sameRetryIdentity v :=
  ⟨h.1.trans h'.1, SamplingControls.same_trans h.2 h'.2⟩

theorem TrialIdentity.sameRetryIdentity_trialId {t u : TrialIdentity} (h : t.sameRetryIdentity u) :
    t.trialId = u.trialId := congrArg (fun d => d.trialId) h.1

/-- What a passed retry check says of an attempt with a parent. -/
theorem checkRetry_parent {t : TrialIdentity} {parentId : PyStr} (h : checkRetry attempts t = .ok ())
    (hp : t.parentAttemptId = some parentId) :
    ∃ parent, attemptOf attempts parentId = some parent ∧
      attemptIndex attempts parentId < attemptIndex attempts t.attemptId ∧ t.sameRetryIdentity parent := by
  unfold checkRetry at h
  rw [hp] at h
  dsimp only at h
  cases hf : attemptOf attempts parentId with
  | none => simp [hf] at h
  | some parent =>
    simp only [hf, bind_eq_ok_iff, exists_unit_iff, check_eq_ok_iff] at h
    exact ⟨parent, rfl, h.1, h.2⟩

end Attempts

/-- An attempt and its case, as an accepted manifest binds them. -/
theorem bindAttempt_case {records : List ApplicabilityRecord} {b b' : AttemptBindings} {t : TrialIdentity}
    (h : bindAttempt records b t = .ok b') :
    boundTo b'.cases t.caseId = some t.caseBinding ∧
      ∀ k v, boundTo b.cases k = some v → boundTo b'.cases k = some v := by
  unfold bindAttempt at h
  obtain ⟨cases', hc, h⟩ := bind_eq_ok_iff.mp h
  have hcases : b'.cases = cases' := by
    split_ifs at h with hs
    · cases h
      rfl
    · simp only [bind_eq_ok_iff, exists_unit_iff, pure_eq_ok_iff] at h
      obtain ⟨subjects, -, -, rfl⟩ := h
      rfl
  rw [hcases]
  exact ⟨bindOnce_boundTo hc, fun k v => bindOnce_keeps hc⟩

/-- A model attempt and its subject, as an accepted manifest binds them. -/
theorem bindAttempt_subject {records : List ApplicabilityRecord} {b b' : AttemptBindings} {t : TrialIdentity}
    (h : bindAttempt records b t = .ok b') :
    (t.targetClass ≠ .systemEvalOnly → boundTo b'.subjects t.modelSubjectId = some t.subjectBinding) ∧
      ∀ k v, boundTo b.subjects k = some v → boundTo b'.subjects k = some v := by
  unfold bindAttempt at h
  obtain ⟨cases', -, h⟩ := bind_eq_ok_iff.mp h
  split_ifs at h with hs
  · cases h
    exact ⟨fun hne => absurd hs hne, fun k v hk => hk⟩
  · simp only [bind_eq_ok_iff, exists_unit_iff, pure_eq_ok_iff] at h
    obtain ⟨subjects, hsub, -, rfl⟩ := h
    exact ⟨fun _ => bindOnce_boundTo hsub, fun k v => bindOnce_keeps hsub⟩

theorem checkSandboxEquivalence_systemApart {s : SandboxEquivalence} {classes : List TargetClass}
    (h : checkSandboxEquivalence s classes = .ok ()) : .systemEvalOnly ∉ classes := by
  unfold checkSandboxEquivalence at h
  obtain ⟨-, -, h⟩ := bind_eq_ok_iff.mp h
  cases hs : s.status <;>
    simp only [hs, bind_eq_ok_iff, exists_unit_iff, check_eq_ok_iff] at h <;>
    exact h.2.2.2.2

variable [PyRuntime]

/-- What an accepted manifest guarantees of its planned attempts. -/
structure BenchmarkManifest.Planned (m : BenchmarkManifest) : Prop where
  valid : ∀ t ∈ m.plannedAttempts, validateTrialIdentity t = .ok ()
  ids : (m.plannedAttempts.map TrialIdentity.attemptId).Nodup
  oneCase : ∀ t ∈ m.plannedAttempts, ∀ u ∈ m.plannedAttempts, t.caseId = u.caseId → t.caseBinding = u.caseBinding
  oneSubject : ∀ t ∈ m.plannedAttempts, ∀ u ∈ m.plannedAttempts, t.targetClass ≠ .systemEvalOnly →
    u.targetClass ≠ .systemEvalOnly → t.modelSubjectId = u.modelSubjectId → t.subjectBinding = u.subjectBinding
  retries : ∀ t ∈ m.plannedAttempts, checkRetry m.plannedAttempts t = .ok ()
  onlyChild : (m.plannedAttempts.filterMap TrialIdentity.parentAttemptId).Nodup
  oneRoot : ∀ t ∈ m.plannedAttempts,
    (m.plannedAttempts.filter fun u => u.trialId = t.trialId ∧ u.parentAttemptId = none).length = 1
  inScope : ∀ t ∈ m.plannedAttempts, t.targetClass ∈ m.comparisonClasses ∨ t.targetClass = .systemEvalOnly
  systemApart : .systemEvalOnly ∉ m.comparisonClasses

theorem validateBenchmarkManifest_planned {m : BenchmarkManifest} {expected : Option ArtifactFingerprints}
    (h : validateBenchmarkManifest m expected = .ok ()) : m.Planned := by
  unfold validateBenchmarkManifest checkRetries at h
  simp only [bind_eq_ok_iff, exists_unit_iff, check_eq_ok_iff, forM_eq_ok_iff] at h
  obtain ⟨-, -, -, -, -, -, -, -, hsandbox, -, -, -, -, hvalid, -, -, hids, -, -, -, bindings, hfold,
    ⟨hretry, hchild, hroot⟩, hscope, -⟩ := h
  obtain ⟨hcase, -⟩ := foldlM_establishes
    (Q := fun (t : TrialIdentity) (b : AttemptBindings) => boundTo b.cases t.caseId = some t.caseBinding)
    (fun _ _ _ hb => (bindAttempt_case hb).1) (fun _ _ _ _ hb => (bindAttempt_case hb).2 _ _) hfold
  obtain ⟨hsubject, -⟩ := foldlM_establishes
    (Q := fun (t : TrialIdentity) (b : AttemptBindings) =>
      t.targetClass ≠ .systemEvalOnly → boundTo b.subjects t.modelSubjectId = some t.subjectBinding)
    (fun _ _ _ hb => (bindAttempt_subject hb).1)
    (fun _ _ _ _ hb hq hne => (bindAttempt_subject hb).2 _ _ (hq hne)) hfold
  exact {
    valid := hvalid
    ids := hids
    oneCase := by
      intro t ht u hu htu
      have hboth := (hcase t ht).symm.trans (htu ▸ hcase u hu)
      exact Option.some.inj hboth
    oneSubject := by
      intro t ht u hu hts hus htu
      have hboth := (hsubject t ht hts).symm.trans (htu ▸ hsubject u hu hus)
      exact Option.some.inj hboth
    retries := hretry
    onlyChild := hchild
    oneRoot := hroot
    inScope := hscope
    systemApart := checkSandboxEquivalence_systemApart hsandbox }

end EvaluationLab.BM0
