import EvaluationLab.BM0.Grid
import EvaluationLab.Python.Float

/-! The estimators of the analysis plan: failure rates, Wilson intervals, case-cluster bootstrap. -/
namespace EvaluationLab.BM0
open Python Effect

/-- `PRIMARY_ESTIMATE_POOL_ID`. -/
def primaryEstimatePool : Pool := .privateHiddenHoldout

/-- The failure values of the rows that enter a denominator. -/
def failureValues (rows : List Observation) : List ℤ :=
  rows.filterMap fun o => o.modelFailureValue.filter fun v => v = 0 ∨ v = 1

/-- `round(numerator / denominator, 12)`. -/
def rate (numerator denominator : ℤ) : ℚ := round12 (nearestFloat (numerator / denominator))

/-- `{status: counts.get(status, 0) for status in statuses}` over the terminals of the rows. -/
def terminalCounts (rows : List Observation) (statuses : List Terminal) : List (Terminal × ℕ) :=
  statuses.map fun status => (status, rows.countP fun o => o.terminalStatus = status)

/-- A two-sided 95% interval, or the reason there is none. -/
structure Interval where
  terminalStatus : Terminal
  reason : Option PyStr
  lower : Option ℚ
  upper : Option ℚ
  deriving DecidableEq

/-- `_suppressed_wilson`. -/
def suppressedWilson (reason : PyStr) : Interval := ⟨.notEvaluable, some reason, none, none⟩

/-- The centre and half width of the interval, in the operations of the source. -/
def wilsonBounds (failures denominator : ℤ) : ℚ × ℚ :=
  let z := nearestFloat (1959963984540054 / 10 ^ 15)
  let p := nearestFloat (failures / denominator)
  let z2 := nearestFloat (z * z)
  let scale := nearestFloat (1 + nearestFloat (z2 / denominator))
  let center := nearestFloat (nearestFloat (p + nearestFloat (z2 / (2 * denominator))) / scale)
  let variance := nearestFloat (nearestFloat (nearestFloat (p * nearestFloat (1 - p)) +
    nearestFloat (z2 / (4 * denominator))) / denominator)
  (center, nearestFloat (nearestFloat (z * sqrtFloat variance) / scale))

def wilsonInterval (failures denominator : ℤ) : Except PyExc Interval :=
  if failures < 0 ∨ denominator < 0 ∨ denominator < failures then
    .error (valueError "Wilson inputs must satisfy 0 <= failures <= denominator")
  else if denominator = 0 then .ok (suppressedWilson "ZERO_DENOMINATOR")
  else
    let (center, half) := wilsonBounds failures denominator
    .ok ⟨.pass, none, some (round12 (max 0 (nearestFloat (center - half)))),
      some (round12 (min 1 (nearestFloat (center + half))))⟩

/-- The Wilson interval, suppressed while observations are missing. -/
def wilsonUnless (missing : Prop) [Decidable missing] (reason : PyStr) (failures denominator : ℤ) :
    Except PyExc Interval :=
  if missing then .ok (suppressedWilson reason) else wilsonInterval failures denominator

/-- `sum` of floats, from left to right. -/
def sumFloats (values : List ℚ) : ℚ := values.foldl (fun total x => nearestFloat (total + x)) 0

/-- What `random.Random(seed)` draws with `choice`: the place of the `draw`-th pick among `count`. -/
class PyRandom where
  choice : (seed count draw : ℕ) → ℕ
  choice_lt : ∀ seed count draw, 0 < count → choice seed count draw < count

/-- A case-cluster bootstrap interval, or the reason there is none. -/
structure Bootstrap where
  terminalStatus : Terminal
  reason : Option PyStr
  distinctCaseClusterCount : ℕ
  lower : Option ℚ
  upper : Option ℚ
  deriving DecidableEq

/-- The means of the seeded resamples, in order. -/
def resampledMeans [PyRandom] (values : List ℚ) : List ℚ :=
  let count := values.length
  let mean := fun resample => nearestFloat (sumFloats ((List.range count).map fun i =>
    values.getD (PyRandom.choice 20260904 count (resample * count + i)) 0) / count)
  ((List.range 10000).map mean).insertionSort (· ≤ ·)

def fcfrCaseClusterBootstrap [PyRandom] (caseEstimates : List (PyStr × ℚ)) : Except PyExc Bootstrap := do
  let ordered := caseEstimates.insertionSort fun x y => strLe x.1 y.1 = true
  ordered.forM fun e => do
    check (e.1 ≠ []) (valueError "FCFR cluster keys must be non-empty case IDs")
    check (0 ≤ e.2 ∧ e.2 ≤ 1) (valueError "FCFR case estimates must be finite probabilities")
  let values := ordered.map Prod.snd
  if values.length < 2 then
    return ⟨.notEvaluable, some "FEWER_THAN_TWO_DISTINCT_CASE_CLUSTERS", values.length, none, none⟩
  else
    let bootstrap := resampledMeans values
    return ⟨.pass, none, values.length, some (round12 (bootstrap.getD 249 0)),
      some (round12 (bootstrap.getD 9750 0))⟩

theorem mem_failureValues {rows : List Observation} {v : ℤ} (h : v ∈ failureValues rows) : v = 0 ∨ v = 1 := by
  obtain ⟨o, -, ho⟩ := List.mem_filterMap.mp h
  simpa using (Option.mem_filter_iff.mp ho).2

/-- The failures among binary values are between none and all of them. -/
theorem failureValues_bounds (rows : List Observation) :
    0 ≤ (failureValues rows).sum ∧ (failureValues rows).sum ≤ (failureValues rows).length := by
  have hall : ∀ v ∈ failureValues rows, v = 0 ∨ v = 1 := fun v hv => mem_failureValues hv
  generalize failureValues rows = values at hall ⊢
  induction values with
  | nil => simp
  | cons v vs ih =>
    rw [List.forall_mem_cons] at hall
    obtain ⟨hlow, hhigh⟩ := ih hall.2
    rw [List.sum_cons, List.length_cons]
    push_cast
    rcases hall.1 with hv | hv <;> constructor <;> omega

theorem wilsonInterval_ok {failures denominator : ℤ} (h0 : 0 ≤ failures) (h1 : failures ≤ denominator) :
    ∃ i, wilsonInterval failures denominator = .ok i := by
  unfold wilsonInterval
  rw [if_neg (by omega)]
  split_ifs
  · exact ⟨_, rfl⟩
  · exact ⟨_, rfl⟩

theorem rate_unit {numerator denominator : ℤ} (h0 : 0 ≤ numerator) (h1 : numerator ≤ denominator) :
    0 ≤ rate numerator denominator ∧ rate numerator denominator ≤ 1 := by
  have hn : (0 : ℚ) ≤ numerator := by exact_mod_cast h0
  have hd : (numerator : ℚ) ≤ denominator := by exact_mod_cast h1
  have hlow : (0 : ℚ) ≤ numerator / denominator := div_nonneg hn (hn.trans hd)
  have hhigh : (numerator : ℚ) / denominator ≤ 1 := div_le_one_of_le₀ hd (hn.trans hd)
  obtain ⟨hlow', hhigh'⟩ := nearestFloat_unit hlow hhigh
  exact round12_unit hlow' hhigh'

end EvaluationLab.BM0
