import EvaluationLab.BM0.FrozenBenchmark

/-! The attempts of one trial form a single chain of retries. -/
namespace EvaluationLab.BM0
open Python Effect QA0 Structure

/-- The ancestor walk of `paired_complete_case_v1`, cut off after `fuel` rounds. -/
def countAncestors (planned : List TrialIdentity) : (fuel ordinal : ℕ) → Option PyStr → Option (Except PyExc ℕ)
  | _, ordinal, none => some (.ok ordinal)
  | 0, _, some _ => none
  | fuel + 1, ordinal, some parentId =>
    match attemptOf planned parentId with
    | none => some (.error (keyError parentId))
    | some parent => countAncestors planned fuel (ordinal + 1) parent.parentAttemptId

/-- `retry_ordinals[attempt_id]`; a walk that ends at all ends within one round per planned attempt. -/
def retryOrdinal (planned : List TrialIdentity) (t : TrialIdentity) : Option (Except PyExc ℕ) :=
  countAncestors planned planned.length 0 t.parentAttemptId

/-- From a root, each attempt retries the one before it, and all of them share one identity. -/
structure IsRetryChain (chain : List TrialIdentity) : Prop where
  root : ∀ r ∈ chain.head?, r.parentAttemptId = none
  linked : chain.IsChain fun parent child => child.parentAttemptId = some parent.attemptId
  identity : ∀ a ∈ chain, ∀ b ∈ chain, a.sameRetryIdentity b

/-- `child` is planned as a retry of `parent`. -/
def RetryOf (attempts : List TrialIdentity) (child parent : TrialIdentity) : Prop :=
  child ∈ attempts ∧ parent ∈ attempts ∧ child.parentAttemptId = some parent.attemptId

section Walk
variable {attempts : List TrialIdentity}

theorem countAncestors_of_line (hroot : ∀ t ∈ attempts, parentOf attempts t = none → t.parentAttemptId = none)
    {t : TrialIdentity} {line : List TrialIdentity} (ht : t ∈ attempts)
    (hline : LeadsTo (parentOf attempts) t line) :
    ∀ fuel ordinal, line.length ≤ fuel + 1 →
      countAncestors attempts fuel ordinal t.parentAttemptId = some (.ok (ordinal + (line.length - 1))) := by
  induction hline with
  | @root a hp =>
    intro fuel ordinal _
    rw [hroot a ht hp]
    cases fuel <;> rfl
  | @child a p line hp hline ih =>
    intro fuel ordinal hlen
    have hpos := List.length_pos_of_ne_nil hline.ne_nil
    obtain ⟨parentId, hid, hfind⟩ := Option.bind_eq_some_iff.mp hp
    rw [List.length_append, List.length_singleton] at hlen
    cases fuel with
    | zero => omega
    | succ fuel =>
      have hwalk := ih (attemptOf_mem hfind) fuel (ordinal + 1) (by omega)
      rw [hid]
      simp only [countAncestors, hfind, hwalk, List.length_append, List.length_singleton]
      congr 2
      omega

end Walk

/-- A value that is listed once comes from one member. -/
theorem eq_of_filterMap_nodup {α β : Type} {f : α → Option β} {xs : List α} {a b : α} {c : β}
    (h : (xs.filterMap f).Nodup) (ha : a ∈ xs) (hb : b ∈ xs) (hfa : f a = some c) (hfb : f b = some c) : a = b := by
  induction xs with
  | nil => simp at ha
  | cons x xs ih =>
    have hin : ∀ y ∈ xs, f y = some c → c ∈ xs.filterMap f := fun y hy hfy => List.mem_filterMap.mpr ⟨y, hy, hfy⟩
    have htail : (xs.filterMap f).Nodup := by
      cases hx : f x with
      | none => rwa [List.filterMap_cons_none hx] at h
      | some d =>
        rw [List.filterMap_cons_some hx] at h
        exact h.of_cons
    have hhead : f x = some c → c ∉ xs.filterMap f := by
      intro hx
      rw [List.filterMap_cons_some hx] at h
      exact h.notMem
    rcases List.mem_cons.mp ha with rfl | ha'
    · rcases List.mem_cons.mp hb with rfl | hb'
      · rfl
      · exact absurd (hin b hb' hfb) (hhead hfa)
    · rcases List.mem_cons.mp hb with rfl | hb'
      · exact absurd (hin a ha' hfa) (hhead hfb)
      · exact ih htail ha' hb'

theorem length_le_one_of_filter {α : Type} {p : α → Bool} {xs : List α} {a b : α}
    (h : (xs.filter p).length ≤ 1) (ha : a ∈ xs) (hb : b ∈ xs) (hpa : p a = true) (hpb : p b = true) : a = b := by
  have hma := List.mem_filter.mpr ⟨ha, hpa⟩
  have hmb := List.mem_filter.mpr ⟨hb, hpb⟩
  cases hf : xs.filter p with
  | nil => simp [hf] at hma
  | cons c cs =>
    have hcs : cs = [] := by
      rw [hf] at h
      simpa using h
    rw [hf, hcs] at hma hmb
    rw [List.mem_singleton.mp hma, List.mem_singleton.mp hmb]

section Accepted
variable [PyRuntime]

namespace BenchmarkManifest.Planned
variable {m : BenchmarkManifest} (h : m.Planned)
include h

theorem parentOf_some {t parent : TrialIdentity} (ht : t ∈ m.plannedAttempts)
    (hp : parentOf m.plannedAttempts t = some parent) :
    parent ∈ m.plannedAttempts ∧ t.parentAttemptId = some parent.attemptId ∧
      attemptIndex m.plannedAttempts parent.attemptId < attemptIndex m.plannedAttempts t.attemptId ∧
      t.sameRetryIdentity parent := by
  obtain ⟨parentId, hid, hfind⟩ := Option.bind_eq_some_iff.mp hp
  obtain ⟨parent', hfind', hindex, hsame⟩ := checkRetry_parent (h.retries t ht) hid
  rw [hfind] at hfind'
  cases hfind'
  have heq := attemptOf_attemptId hfind
  exact ⟨attemptOf_mem hfind, by rw [hid, heq], heq ▸ hindex, hsame⟩

theorem parentOf_none {t : TrialIdentity} (ht : t ∈ m.plannedAttempts)
    (hp : parentOf m.plannedAttempts t = none) : t.parentAttemptId = none := by
  cases hid : t.parentAttemptId with
  | none => rfl
  | some parentId =>
    obtain ⟨parent, hfind, -⟩ := checkRetry_parent (h.retries t ht) hid
    simp [parentOf, hid, hfind] at hp

/-- A parent of a planned attempt is found under its id. -/
theorem parentOf_of_retryOf {t parent : TrialIdentity} (hr : RetryOf m.plannedAttempts t parent) :
    parentOf m.plannedAttempts t = some parent := by
  obtain ⟨-, hp, hid⟩ := hr
  unfold parentOf
  rw [hid]
  exact attemptOf_of_mem h.ids hp

theorem only_child {a b : TrialIdentity} {p : PyStr} (ha : a ∈ m.plannedAttempts)
    (hb : b ∈ m.plannedAttempts) (hpa : a.parentAttemptId = some p) (hpb : b.parentAttemptId = some p) : a = b :=
  eq_of_filterMap_nodup h.onlyChild ha hb hpa hpb

theorem linearParents : LinearParents m.plannedAttempts (parentOf m.plannedAttempts)
    (fun t => attemptIndex m.plannedAttempts t.attemptId) (fun t => t.trialId) where
  parent_mem := fun _ ht _ hp => (h.parentOf_some ht hp).1
  rank_lt := fun _ ht _ hp => (h.parentOf_some ht hp).2.2.1
  cls_eq := fun _ ht _ hp => (TrialIdentity.sameRetryIdentity_trialId (h.parentOf_some ht hp).2.2.2).symm
  only_child := by
    intro a ha b hb p hpa hpb
    exact h.only_child ha hb (h.parentOf_some ha hpa).2.1 (h.parentOf_some hb hpb).2.1
  only_root := by
    intro a ha b hb hcls hpa hpb
    apply length_le_one_of_filter (h.oneRoot a ha).le ha hb
    · simp [h.parentOf_none ha hpa]
    · simpa [h.parentOf_none hb hpb] using hcls.symm

/-- Everything on the line to an attempt shares its identity. -/
theorem line_identity {t : TrialIdentity} {line : List TrialIdentity} (ht : t ∈ m.plannedAttempts)
    (hline : LeadsTo (parentOf m.plannedAttempts) t line) : ∀ a ∈ line, a.sameRetryIdentity t := by
  induction hline with
  | root _ => simpa using TrialIdentity.sameRetryIdentity_refl _
  | @child a p line hp hline ih =>
    obtain ⟨hpm, -, -, hsame⟩ := h.parentOf_some ht hp
    intro x hx
    rcases List.mem_append.mp hx with hx | hx
    · exact TrialIdentity.sameRetryIdentity_trans (ih hpm x hx) (TrialIdentity.sameRetryIdentity_symm hsame)
    · cases List.mem_singleton.mp hx
      exact TrialIdentity.sameRetryIdentity_refl _

theorem isRetryChain_of_line {t : TrialIdentity} {line : List TrialIdentity} (ht : t ∈ m.plannedAttempts)
    (hline : LeadsTo (parentOf m.plannedAttempts) t line) : IsRetryChain line := by
  have hmem := h.linearParents.mem_of_line hline ht
  constructor
  · intro r hr
    exact h.parentOf_none (hmem r (List.mem_of_mem_head? hr)).1 (hline.head_root r hr)
  · have hlinked := List.isChain_iff_getElem.mp hline.isChain
    rw [List.isChain_iff_getElem]
    intro i hi
    exact (h.parentOf_some (hmem _ (List.getElem_mem hi)).1 (hlinked i hi)).2.1
  · intro a ha b hb
    exact TrialIdentity.sameRetryIdentity_trans (h.line_identity ht hline a ha)
      (TrialIdentity.sameRetryIdentity_symm (h.line_identity ht hline b hb))

theorem retryOrdinal_of_line {t : TrialIdentity} {line : List TrialIdentity} (ht : t ∈ m.plannedAttempts)
    (hline : LeadsTo (parentOf m.plannedAttempts) t line) :
    retryOrdinal m.plannedAttempts t = some (.ok (line.length - 1)) := by
  have hsub : line ⊆ m.plannedAttempts := fun x hx => (h.linearParents.mem_of_line hline ht x hx).1
  have hlen := ((h.linearParents.nodup_of_line hline ht).subperm hsub).length_le
  have hwalk := countAncestors_of_line (fun t ht => h.parentOf_none ht) ht hline m.plannedAttempts.length 0
    (by omega)
  simpa [retryOrdinal] using hwalk

end BenchmarkManifest.Planned

/-- No attempt retries itself through others, no attempt is retried twice, and the attempts of each
trial are one retry chain, whose members the ancestor walk numbers from zero. -/
theorem retry_chains {m : BenchmarkManifest} {expected : Option ArtifactFingerprints}
    (h : validateBenchmarkManifest m expected = .ok ()) :
    (∀ t, ¬ Relation.TransGen (RetryOf m.plannedAttempts) t t) ∧
    (∀ parent a b, RetryOf m.plannedAttempts a parent → RetryOf m.plannedAttempts b parent → a = b) ∧
    ∀ t ∈ m.plannedAttempts, ∃ chain : List TrialIdentity, IsRetryChain chain ∧
      chain.Perm (m.plannedAttempts.filter fun u => u.trialId = t.trialId) ∧
      ∀ i (hi : i < chain.length), retryOrdinal m.plannedAttempts chain[i] = some (.ok i) := by
  have hp := validateBenchmarkManifest_planned h
  refine ⟨?_, ?_, ?_⟩
  · intro t hcycle
    have hle : RetryOf m.plannedAttempts ≤
        fun x p => x ∈ m.plannedAttempts ∧ parentOf m.plannedAttempts x = some p :=
      fun _ _ hr => ⟨hr.1, hp.parentOf_of_retryOf hr⟩
    exact hp.linearParents.acyclic t (Relation.TransGen.mono hle t t hcycle)
  · intro parent a b ha hb
    exact hp.only_child ha.1 hb.1 ha.2.2 hb.2.2
  · intro t ht
    obtain ⟨last, line, hlast, hline, hmem⟩ := hp.linearParents.exists_class_line t ht
    have hnodup : m.plannedAttempts.Nodup := hp.ids.of_map _
    refine ⟨line, hp.isRetryChain_of_line hlast hline, ?_, ?_⟩
    · rw [List.perm_ext_iff_of_nodup (hp.linearParents.nodup_of_line hline hlast) (hnodup.filter _)]
      intro u
      rw [hmem u, List.mem_filter]
      simp
    · intro i hi
      have hti := hline.take i hi
      have hmi := ((hmem _).mp (List.getElem_mem hi)).1
      have hord := hp.retryOrdinal_of_line hmi hti
      rw [hord, List.length_take]
      congr 2
      omega

end Accepted

section Frozen
open Python.Ascii

/-- In the frozen benchmark the first hidden case is retried, and its trial is a chain. -/
theorem retry_chains_frozen : RetryOf benchmarkPlan firstRetry firstRoot ∧
    ∃ chain : List TrialIdentity, IsRetryChain chain ∧
      chain.Perm (benchmarkPlan.filter fun u => u.trialId = firstRoot.trialId) ∧
      ∀ i (hi : i < chain.length), retryOrdinal benchmarkPlan chain[i] = some (.ok i) := by
  have hroot : firstRoot ∈ benchmarkPlan := by simp [benchmarkPlan]
  have hretry : firstRetry ∈ benchmarkPlan := by simp [benchmarkPlan]
  obtain ⟨-, -, hchains⟩ := retry_chains frozenBenchmark_valid.validated
  exact ⟨⟨hretry, hroot, rfl⟩, hchains firstRoot hroot⟩

end Frozen

end EvaluationLab.BM0
