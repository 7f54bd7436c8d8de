import EvaluationLab.BM0.GridFacts
import EvaluationLab.Structure.KeyedJoin

/-! The paired comparison from either side, and the pairs it rests on. -/
namespace EvaluationLab.BM0
open Python Effect QA0 Structure

section Symmetry

theorem samePairCase_comm (a b : TrialIdentity) : samePairCase a b ↔ samePairCase b a := by
  simp only [samePairCase, eq_comm]

theorem samePairConfiguration_comm (a b : TrialIdentity) : samePairConfiguration a b ↔ samePairConfiguration b a := by
  have hsampling : a.samplingControls.same b.samplingControls ↔ b.samplingControls.same a.samplingControls :=
    ⟨SamplingControls.same_symm, SamplingControls.same_symm⟩
  simp only [samePairConfiguration, hsampling, eq_comm]

theorem pairCompatible_comm (a b : TrialIdentity) : pairCompatible a b ↔ pairCompatible b a := by
  rw [pairCompatible, pairCompatible, samePairCase_comm a b, samePairConfiguration_comm a b]

theorem Grid.compatiblePair_swap (g : Grid) (pair : Observation × Observation) :
    g.compatiblePair pair.swap = g.compatiblePair pair := by
  unfold Grid.compatiblePair
  rw [Prod.fst_swap, Prod.snd_swap]
  cases attemptOf g.planned pair.1.attemptId <;> cases attemptOf g.planned pair.2.attemptId <;> try rfl
  rename_i a b
  simp only [pairCompatible_comm a b]

theorem joinRows_eq (left right : List (PairKey × Observation)) : joinRows left right = (joined left right).map Prod.snd := by
  rw [joinRows, joined, List.map_filterMap]
  refine List.filterMap_congr fun l _ => ?_
  cases right.lookup l.1 <;> rfl

/-- The pairs whose two rows carry a value. -/
def includedPairs (left right : List (PairKey × Observation)) : List (Observation × Observation) :=
  (joinRows left right).filter fun p => p.1.scored ∧ p.2.scored

theorem joinRows_swap {left right : List (PairKey × Observation)} (hleft : (left.map Prod.fst).Nodup)
    (hright : (right.map Prod.fst).Nodup) : (joinRows right left).Perm ((joinRows left right).map Prod.swap) := by
  have hswap := (joined_swap hleft hright).map Prod.snd
  rw [List.map_map] at hswap
  rw [joinRows_eq, joinRows_eq, List.map_map]
  exact hswap

theorem includedPairs_swap {left right : List (PairKey × Observation)} (hleft : (left.map Prod.fst).Nodup)
    (hright : (right.map Prod.fst).Nodup) :
    (includedPairs right left).Perm ((includedPairs left right).map Prod.swap) := by
  have hperm := (joinRows_swap hleft hright).filter fun p => p.1.scored ∧ p.2.scored
  have hfilter : ((joinRows left right).map Prod.swap).filter (fun p => p.1.scored ∧ p.2.scored) =
      (includedPairs left right).map Prod.swap := by
    rw [includedPairs, List.filter_map]
    refine congrArg _ (List.filter_congr fun p _ => ?_)
    simp [Bool.and_comm]
  rw [hfilter] at hperm
  exact hperm

/-- The comparison of the rows of two models. -/
def Grid.pairResult (g : Grid) (classes : List TargetClass) (metricId : PyStr) (left right : List (PairKey × Observation)) :
    PairedCompleteCase :=
  if left = [] ∨ ¬(left.map Prod.fst).Perm (right.map Prod.fst) then
    unpaired metricId classes "UNPAIRED_PREDECLARED_DESIGN" 0
  else if ∃ p ∈ joinRows left right, g.compatiblePair p = false then
    unpaired metricId classes "PAIRED_IDENTITY_MISMATCH" 0
  else if includedPairs left right = [] then
    unpaired metricId classes "ZERO_PAIRED_MODEL_SCORABLE_DENOMINATOR" left.length
  else
    let included := includedPairs left right
    let leftRate := nearestFloat ((failureValues (included.map Prod.fst)).sum / included.length)
    let rightRate := nearestFloat ((failureValues (included.map Prod.snd)).sum / included.length)
    { metricId
      targetClasses := classes
      terminalStatus := .pass
      reason := none
      pairedScorableCount := included.length
      excludedPairCount := left.length - included.length
      leftFailureRate := some (round12 leftRate)
      rightFailureRate := some (round12 rightRate)
      failureRateDeltaLeftMinusRight := some (round12 (nearestFloat (leftRate - rightRate))) }

theorem Grid.pairComplete_eq (g : Grid) (classes : List TargetClass) (metricId leftId rightId : PyStr) :
    g.pairComplete classes metricId leftId rightId = do
      let ordinals ← retryOrdinals g.planned
      let left ← g.pairRows classes ordinals leftId
      let right ← g.pairRows classes ordinals rightId
      return g.pairResult classes metricId left right := by
  unfold Grid.pairComplete Grid.pairResult includedPairs
  refine congrArg _ (funext fun ordinals => congrArg _ (funext fun left => congrArg _ (funext fun right => ?_)))
  dsimp only
  split_ifs <;> rfl

/-- What one comparison says from the other side. -/
structure Mirrors (a b : PairedCompleteCase) : Prop where
  metric : a.metricId = b.metricId ∧ a.targetClasses = b.targetClasses
  terminal : a.terminalStatus = b.terminalStatus ∧ a.reason = b.reason
  counts : a.pairedScorableCount = b.pairedScorableCount ∧ a.excludedPairCount = b.excludedPairCount
  rates : a.leftFailureRate = b.rightFailureRate ∧ a.rightFailureRate = b.leftFailureRate
  delta : a.failureRateDeltaLeftMinusRight = b.failureRateDeltaLeftMinusRight.map Neg.neg

theorem unpaired_mirrors (metricId : PyStr) (classes : List TargetClass) (reason : PyStr) {n k : ℕ} (h : n = k) :
    Mirrors (unpaired metricId classes reason n) (unpaired metricId classes reason k) := by
  subst h
  exact ⟨⟨rfl, rfl⟩, ⟨rfl, rfl⟩, ⟨rfl, rfl⟩, ⟨rfl, rfl⟩, rfl⟩

theorem sum_failureValues_perm {rows rows' : List Observation} (h : rows.Perm rows') :
    (failureValues rows).sum = (failureValues rows').sum := (h.filterMap _).sum_eq

/-- The comparison of two models mirrors that of the same models the other way round. -/
theorem Grid.pairResult_mirrors (g : Grid) (classes : List TargetClass) (metricId : PyStr)
    {left right : List (PairKey × Observation)} (hleft : (left.map Prod.fst).Nodup) (hright : (right.map Prod.fst).Nodup) :
    Mirrors (g.pairResult classes metricId left right) (g.pairResult classes metricId right left) := by
  have hdesign : (left = [] ∨ ¬(left.map Prod.fst).Perm (right.map Prod.fst)) ↔
      (right = [] ∨ ¬(right.map Prod.fst).Perm (left.map Prod.fst)) := by
    by_cases hperm : (left.map Prod.fst).Perm (right.map Prod.fst)
    · have hlength := hperm.length_eq
      rw [List.length_map, List.length_map] at hlength
      simp only [hperm, hperm.symm, not_true_eq_false, or_false, ← List.length_eq_zero_iff, hlength]
    · exact iff_of_true (.inr hperm) (.inr fun h => hperm h.symm)
  have hcompatible : (∃ p ∈ joinRows left right, g.compatiblePair p = false) ↔
      ∃ p ∈ joinRows right left, g.compatiblePair p = false := by
    simp only [(joinRows_swap hleft hright).mem_iff, List.mem_map, exists_exists_and_eq_and, g.compatiblePair_swap]
  have hincluded := includedPairs_swap hleft hright
  have hcount : (includedPairs right left).length = (includedPairs left right).length := by
    rw [hincluded.length_eq, List.length_map]
  have hempty : includedPairs left right = [] ↔ includedPairs right left = [] := by
    rw [← List.length_eq_zero_iff, ← List.length_eq_zero_iff, hcount]
  unfold Grid.pairResult
  by_cases hd : left = [] ∨ ¬(left.map Prod.fst).Perm (right.map Prod.fst)
  · rw [if_pos hd, if_pos (hdesign.mp hd)]
    exact unpaired_mirrors _ _ _ rfl
  · rw [if_neg hd, if_neg (fun h => hd (hdesign.mpr h))]
    have hlength : left.length = right.length := by
      push Not at hd
      simpa using hd.2.length_eq
    by_cases hc : ∃ p ∈ joinRows left right, g.compatiblePair p = false
    · rw [if_pos hc, if_pos (hcompatible.mp hc)]
      exact unpaired_mirrors _ _ _ rfl
    · rw [if_neg hc, if_neg (fun h => hc (hcompatible.mpr h))]
      by_cases he : includedPairs left right = []
      · rw [if_pos he, if_pos (hempty.mp he)]
        exact unpaired_mirrors _ _ _ hlength
      · rw [if_neg he, if_neg (fun h => he (hempty.mpr h))]
        have hfirst : (failureValues ((includedPairs right left).map Prod.fst)).sum =
            (failureValues ((includedPairs left right).map Prod.snd)).sum := by
          rw [sum_failureValues_perm (hincluded.map Prod.fst), List.map_map]
          rfl
        have hsecond : (failureValues ((includedPairs right left).map Prod.snd)).sum =
            (failureValues ((includedPairs left right).map Prod.fst)).sum := by
          rw [sum_failureValues_perm (hincluded.map Prod.snd), List.map_map]
          rfl
        simp only [hfirst, hsecond, hcount, hlength]
        refine ⟨⟨rfl, rfl⟩, ⟨rfl, rfl⟩, ⟨rfl, rfl⟩, ⟨rfl, rfl⟩, ?_⟩
        rw [Option.map_some, ← round12_neg, ← nearestFloat_neg, neg_sub]

end Symmetry

section Keys

/-- The pair key of a planned attempt. -/
def HasPairKey (planned : List TrialIdentity) (t : TrialIdentity) (k : PairKey) : Prop :=
  ∃ n, retryOrdinal planned t = some (.ok n) ∧ k = ⟨t.entryId, t.familyId, t.caseId, t.variantId, t.replicateIndex, n⟩

theorem lookup_retryOrdinals {planned : List TrialIdentity} {ordinals : List (PyStr × ℕ)}
    (hids : (planned.map TrialIdentity.attemptId).Nodup) (h : retryOrdinals planned = .ok ordinals) {t : TrialIdentity}
    (ht : t ∈ planned) {n : ℕ} : ordinals.lookup t.attemptId = some n ↔ retryOrdinal planned t = some (.ok n) := by
  obtain ⟨rows, hrows, hordinals⟩ := bind_eq_ok_iff.mp h
  obtain rfl := Except.ok.inj hordinals
  have hkeys : ((rows.map fun o => (o.1.attemptId, o.2)).map Prod.fst).Nodup := by
    rw [List.map_map]
    have hfirst := tabulate_fst hrows
    rw [← hfirst, List.map_map] at hids
    exact hids
  rw [lookup_iff_mem hkeys, List.mem_map]
  constructor
  · rintro ⟨e, he, heq⟩
    obtain ⟨hid, rfl⟩ := Prod.mk.inj heq
    obtain ⟨hmem, hvalue⟩ := tabulate_mem hrows he
    obtain rfl := List.inj_on_of_nodup_map hids hmem ht hid
    cases ho : retryOrdinal planned e.1 with
    | none =>
      rw [ho] at hvalue
      cases hvalue
    | some x =>
      rw [ho, Option.getD_some] at hvalue
      rw [hvalue]
  · intro hn
    obtain ⟨r, hr, hvalue⟩ := mem_tabulate hrows ht
    rw [hn, Option.getD_some] at hvalue
    obtain rfl := Except.ok.inj hvalue
    exact ⟨_, hr, rfl⟩

variable [PyRuntime]

/-- The planned attempts of a model in the primary estimate of a metric. -/
def primaryAttempts (planned : List TrialIdentity) (classes : List TargetClass) (modelId : PyStr) : List TrialIdentity :=
  planned.filter fun t => inPrimaryEstimate classes t ∧ t.modelSubjectId = modelId

/-- The row is that of a planned primary attempt of the model under the key. -/
def RowUnder (planned : List TrialIdentity) (observations : List Observation) (classes : List TargetClass)
    (modelId : PyStr) (k : PairKey) (o : Observation) : Prop :=
  ∃ t ∈ primaryAttempts planned classes modelId, HasPairKey planned t k ∧ o ∈ observations ∧ o.attemptId = t.attemptId

variable {g : Grid} {classes : List TargetClass} {ordinals : List (PyStr × ℕ)} {modelId : PyStr}
  {rows : List (PairKey × Observation)}

omit [PyRuntime] in
theorem Grid.pairRows_eq_ok (h : g.pairRows classes ordinals modelId = .ok rows) : (rows.map Prod.fst).Nodup ∧
    rows.map Prod.snd = (g.comparableRows classes).filter (fun o => o.modelSubjectId = modelId) ∧
      ∀ e ∈ rows, e.2.pairKey ordinals = .ok e.1 := by
  unfold Grid.pairRows at h
  simp only [bind_eq_ok_iff, exists_unit_iff, check_eq_ok_iff, pure_eq_ok_iff] at h
  obtain ⟨keyed, hkeyed, hnodup, rfl⟩ := h
  rw [mapM_eq_ok_iff] at hkeyed
  simp only [bind_eq_ok_iff, pure_eq_ok_iff] at hkeyed
  refine ⟨hnodup, ?_, ?_⟩
  · clear hnodup
    generalize (g.comparableRows classes).filter (fun o => o.modelSubjectId = modelId) = selected at hkeyed
    induction hkeyed with
    | nil => rfl
    | cons hrow _ ih =>
      obtain ⟨key, -, rfl⟩ := hrow
      rw [List.map_cons, ih]
  · intro e he
    obtain ⟨o, -, key, hkey, rfl⟩ := exists_of_mem_right hkeyed he
    exact hkey

theorem Grid.Accepted.pairKey_eq_ok_iff (ha : g.Accepted) (hordinals : retryOrdinals g.planned = .ok ordinals)
    {o : Observation} (ho : o ∈ g.observed) {t : TrialIdentity} (ht : attemptOf g.planned o.attemptId = some t) {k : PairKey} :
    o.pairKey ordinals = .ok k ↔ HasPairKey g.planned t k := by
  have hdecl : o.toDeclared = t.toDeclared := by
    obtain ⟨t', ht', hdecl⟩ := ha.declared ho
    obtain rfl := Option.some.inj (ht.symm.trans ht')
    exact hdecl
  have hid := attemptOf_attemptId ht
  have hlookup : ∀ n, ordinals.lookup o.attemptId = some n ↔ retryOrdinal g.planned t = some (.ok n) := by
    intro n
    rw [← hid]
    exact lookup_retryOrdinals ha.planIds hordinals (attemptOf_mem ht)
  have hfields : ∀ n, (⟨o.entryId, o.familyId, o.caseId, o.variantId, o.replicateIndex, n⟩ : PairKey) =
      ⟨t.entryId, t.familyId, t.caseId, t.variantId, t.replicateIndex, n⟩ := by
    intro n
    rw [hdecl]
  unfold Observation.pairKey HasPairKey
  constructor
  · intro h
    obtain ⟨n, hn, hk⟩ := bind_eq_ok_iff.mp h
    refine ⟨n, (hlookup n).mp ?_, ?_⟩
    · cases hl : ordinals.lookup o.attemptId with
      | none =>
        rw [hl] at hn
        cases hn
      | some n' =>
        rw [hl] at hn
        rw [Except.ok.inj hn]
    · rw [← hfields]
      exact (Except.ok.inj hk).symm
  · rintro ⟨n, hn, rfl⟩
    rw [(hlookup n).mpr hn, ← hfields]
    rfl

/-- The keyed rows of a model are those of its planned primary attempts. -/
theorem Grid.Accepted.mem_pairRows (ha : g.Accepted) (hordinals : retryOrdinals g.planned = .ok ordinals)
    (h : g.pairRows classes ordinals modelId = .ok rows) {k : PairKey} {o : Observation} :
    (k, o) ∈ rows ↔ RowUnder g.planned g.observed classes modelId k o := by
  obtain ⟨-, hrows, hkeys⟩ := Grid.pairRows_eq_ok h
  have hselected : ∀ o, o ∈ rows.map Prod.snd ↔ ∃ t ∈ primaryAttempts g.planned classes modelId,
      o ∈ g.observed ∧ o.attemptId = t.attemptId := by
    intro o
    rw [hrows, (ha.modelRows_perm classes modelId).mem_iff, Grid.rowsOf, List.mem_filterMap]
    refine exists_congr fun t => and_congr_right fun ht => ?_
    constructor
    · exact Grid.observationOf_some
    · rintro ⟨ho, hid⟩
      rw [← hid]
      exact ha.observationOf_of_mem ho
  have hattempt : ∀ t ∈ primaryAttempts g.planned classes modelId, o.attemptId = t.attemptId →
      attemptOf g.planned o.attemptId = some t := by
    intro t ht hid
    rw [hid]
    exact attemptOf_of_mem ha.planIds (List.mem_of_mem_filter ht)
  constructor
  · intro hmem
    obtain ⟨t, ht, ho, hid⟩ := (hselected o).mp (List.mem_map.mpr ⟨_, hmem, rfl⟩)
    exact ⟨t, ht, (ha.pairKey_eq_ok_iff hordinals ho (hattempt t ht hid)).mp (hkeys _ hmem), ho, hid⟩
  · rintro ⟨t, ht, hkey, ho, hid⟩
    obtain ⟨⟨k', o'⟩, hmem, rfl⟩ := List.mem_map.mp ((hselected o).mpr ⟨t, ht, ho, hid⟩)
    have hk := (ha.pairKey_eq_ok_iff hordinals ho (hattempt t ht hid)).mpr hkey
    obtain rfl := Except.ok.inj ((hkeys _ hmem).symm.trans hk)
    exact hmem

/-- A model with nothing missing has a row for each of its planned primary attempts. -/
theorem Grid.Accepted.length_pairRows (ha : g.Accepted) (h : g.pairRows classes ordinals modelId = .ok rows)
    (hcovers : Covers g.observed (primaryAttempts g.planned classes modelId)) :
    rows.length = (primaryAttempts g.planned classes modelId).length := by
  obtain ⟨-, hrows, -⟩ := Grid.pairRows_eq_ok h
  have hlength := congrArg List.length hrows
  rw [List.length_map, (ha.modelRows_perm classes modelId).length_eq] at hlength
  rw [hlength]
  exact Grid.length_rowsOf_covered hcovers

end Keys

section Comparison

variable [PyRuntime] {g : Grid} {classes : List TargetClass} {metricId leftId rightId : PyStr}

/-- Both comparisons return and mirror each other, or both fail. -/
def Mirrored (a b : Except PyExc PairedCompleteCase) : Prop :=
  (∃ x y, a = .ok x ∧ b = .ok y ∧ Mirrors x y) ∨ (∃ e e', a = .error e ∧ b = .error e')

omit [PyRuntime] in
theorem Grid.pairComplete_mirrored (g : Grid) (classes : List TargetClass) (metricId leftId rightId : PyStr) :
    Mirrored (g.pairComplete classes metricId leftId rightId) (g.pairComplete classes metricId rightId leftId) := by
  rw [g.pairComplete_eq, g.pairComplete_eq]
  cases retryOrdinals g.planned with
  | error e => exact .inr ⟨e, e, rfl, rfl⟩
  | ok ordinals =>
    cases hleft : g.pairRows classes ordinals leftId with
    | error e =>
      cases hright : g.pairRows classes ordinals rightId with
      | error e' => exact .inr ⟨e, e', by simp [hleft, bind, Except.bind], by simp [hright, bind, Except.bind]⟩
      | ok right => exact .inr ⟨e, e, by simp [hleft, bind, Except.bind], by simp [hleft, hright, bind, Except.bind]⟩
    | ok left =>
      cases hright : g.pairRows classes ordinals rightId with
      | error e => exact .inr ⟨e, e, by simp [hleft, hright, bind, Except.bind], by simp [hright, bind, Except.bind]⟩
      | ok right =>
        exact .inl ⟨_, _, by simp [hleft, hright, bind, Except.bind, pure, Except.pure],
          by simp [hleft, hright, bind, Except.bind, pure, Except.pure],
          g.pairResult_mirrors classes metricId (Grid.pairRows_eq_ok hleft).1 (Grid.pairRows_eq_ok hright).1⟩

omit [PyRuntime] in
/-- What is missing is missing from either side. -/
theorem Grid.pairedCompleteCase_mirrored (g : Grid) (classes : List TargetClass) (metricId leftId rightId : PyStr) :
    Mirrored (g.pairedCompleteCase classes metricId leftId rightId) (g.pairedCompleteCase classes metricId rightId leftId) := by
  have hscope : g.planned.filter (inPairedScope classes leftId rightId) = g.planned.filter (inPairedScope classes rightId leftId) := by
    refine List.filter_congr fun t _ => ?_
    simp only [inPairedScope, or_comm]
  unfold Grid.pairedCompleteCase
  rw [hscope]
  split_ifs
  · exact .inl ⟨_, _, rfl, rfl, unpaired_mirrors _ _ _ rfl⟩
  · exact g.pairComplete_mirrored classes metricId leftId rightId

/-- What a passing comparison of two models rests on: the pairs it includes. -/
structure RestsOnPairs (planned : List TrialIdentity) (observations : List Observation) (classes : List TargetClass)
    (leftId rightId : PyStr) (r : PairedCompleteCase) (included : List (PairKey × Observation × Observation)) : Prop where
  distinct : (included.map Prod.fst).Nodup
  exactly : ∀ k a b, (k, a, b) ∈ included ↔ (RowUnder planned observations classes leftId k a ∧ a.scored = true) ∧
    RowUnder planned observations classes rightId k b ∧ b.scored = true
  counted : r.pairedScorableCount = included.length
  leftRate : r.leftFailureRate =
    some (round12 (nearestFloat ((failureValues (included.map fun e => e.2.1)).sum / included.length)))
  rightRate : r.rightFailureRate =
    some (round12 (nearestFloat ((failureValues (included.map fun e => e.2.2)).sum / included.length)))
  leftPlanned : r.pairedScorableCount + r.excludedPairCount = (primaryAttempts planned classes leftId).length
  rightPlanned : r.pairedScorableCount + r.excludedPairCount = (primaryAttempts planned classes rightId).length

theorem Grid.Accepted.restsOnPairs (ha : g.Accepted) {r : PairedCompleteCase}
    (h : g.pairedCompleteCase classes metricId leftId rightId = .ok r) (hpass : r.terminalStatus = .pass) :
    ∃ included, RestsOnPairs g.planned g.observed classes leftId rightId r included := by
  unfold Grid.pairedCompleteCase at h
  split_ifs at h with hmissing
  · obtain rfl := Except.ok.inj h
    cases hpass
  rw [not_not, Grid.missingOf_eq_nil] at hmissing
  have hcovers : ∀ id, id = leftId ∨ id = rightId → Covers g.observed (primaryAttempts g.planned classes id) := by
    intro id hid t ht
    obtain ⟨hmem, hscope⟩ := List.mem_filter.mp ht
    apply hmissing t
    rw [List.mem_filter, inPairedScope]
    simp only [decide_eq_true_eq] at hscope ⊢
    exact ⟨hmem, hscope.1, by rw [hscope.2]; exact hid⟩
  rw [g.pairComplete_eq] at h
  simp only [bind_eq_ok_iff, pure_eq_ok_iff] at h
  obtain ⟨ordinals, hordinals, left, hleft, right, hright, rfl⟩ := h
  have hleftKeys := (Grid.pairRows_eq_ok hleft).1
  have hrightKeys := (Grid.pairRows_eq_ok hright).1
  have hleftLength := ha.length_pairRows hleft (hcovers leftId (.inl rfl))
  have hrightLength := ha.length_pairRows hright (hcovers rightId (.inr rfl))
  let included := (joined left right).filter fun e => e.2.1.scored ∧ e.2.2.scored
  have hpairs : includedPairs left right = included.map Prod.snd := by
    rw [includedPairs, joinRows_eq, List.filter_map]
    rfl
  have hsub : included.Sublist (joined left right) := List.filter_sublist
  have hbound : included.length ≤ left.length := by
    have hkeys := ((hsub.map Prod.fst).trans (keys_joined_sublist left right)).length_le
    rwa [List.length_map, List.length_map] at hkeys
  unfold Grid.pairResult at hpass ⊢
  split_ifs at hpass ⊢ with hdesign hcompatible hempty
  · cases hpass
  · cases hpass
  · cases hpass
  have hsame : left.length = right.length := by
    push Not at hdesign
    simpa using hdesign.2.length_eq
  have hcount : (includedPairs left right).length = included.length := by
    rw [hpairs, List.length_map]
  have hsplit : included.length + (left.length - included.length) = left.length := by omega
  refine ⟨included, (nodup_keys_joined hleftKeys).sublist (hsub.map Prod.fst), ?_, hcount, ?_, ?_, ?_, ?_⟩
  · intro k a b
    rw [List.mem_filter, mem_joined hrightKeys, ha.mem_pairRows hordinals hleft, ha.mem_pairRows hordinals hright]
    simp only [decide_eq_true_eq]
    tauto
  · simp only [hpairs, List.map_map, List.length_map]
    rfl
  · simp only [hpairs, List.map_map, List.length_map]
    rfl
  · simp only [hcount]
    rw [hsplit, hleftLength]
  · simp only [hcount]
    rw [hsplit, hsame, hrightLength]

/-- The comparison of two models mirrors that of the same models the other way round, or both fail;
and one that passes includes exactly the pairs of planned primary attempts on which both models have
a value, and accounts for every planned primary attempt of either model. -/
theorem pairedCompleteCase_antisymmetric (m : BenchmarkManifest) (expected : ArtifactFingerprints)
    (observations : List Observation) (leftId rightId metricId : PyStr) :
    Mirrored (pairedCompleteCase m expected observations leftId rightId metricId)
        (pairedCompleteCase m expected observations rightId leftId metricId) ∧
      ∀ r, pairedCompleteCase m expected observations leftId rightId metricId = .ok r → r.terminalStatus = .pass →
        ∃ classes included, metricTargetClasses m metricId = .ok classes ∧
          RestsOnPairs m.plannedAttempts observations classes leftId rightId r included := by
  constructor
  · unfold pairedCompleteCase
    by_cases hne : leftId = rightId
    · subst hne
      have hfail : ∀ e : PyExc, check (leftId ≠ leftId) e = .error e := fun e => by simp [check]
      rw [hfail]
      exact .inr ⟨_, _, rfl, rfl⟩
    · rw [check_of hne, check_of (Ne.symm hne)]
      cases validateObservationGrid m expected observations with
      | error e => exact .inr ⟨e, e, rfl, rfl⟩
      | ok g =>
        cases hclasses : metricTargetClasses m metricId with
        | error e => exact .inr ⟨e, e, by simp [bind, Except.bind], by simp [bind, Except.bind]⟩
        | ok classes =>
          have hmirrored := g.pairedCompleteCase_mirrored classes metricId leftId rightId
          simpa [bind, Except.bind] using hmirrored
  · intro r hr hpass
    simp only [pairedCompleteCase, bind_eq_ok_iff, exists_unit_iff] at hr
    obtain ⟨-, g, hg, classes, hclasses, hr⟩ := hr
    obtain ⟨ha, -, hplanned, hobserved⟩ := validateObservationGrid_accepted hg
    obtain ⟨included, hrests⟩ := ha.restsOnPairs hr hpass
    exact ⟨classes, included, hclasses, hplanned ▸ hobserved ▸ hrests⟩

end Comparison

end EvaluationLab.BM0
