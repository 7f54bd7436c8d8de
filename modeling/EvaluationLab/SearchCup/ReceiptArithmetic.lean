import EvaluationLab.SearchCup.ReceiptFacts

/-! What the figures of a receipt say: counts that add up, totals of three states, and a verdict. -/
namespace EvaluationLab.SearchCup
open Python Effect Structure
open QA0 (Fields)

section Amounts

/-- The value of a number; zero for what is none. -/
def amount (v : Json) : ℚ := ((number v).map PyFloat.value).getD 0

/-- A float with a value. -/
def HasValue (x : PyFloat) : Prop := x = .negativeZero ∨ ∃ q, x = .finite q

/-- A number of the schema has a value. -/
theorem number_of_fits {v : Json} {minimum exclusiveMinimum : Option ℤ} (h : Fits (.number minimum exclusiveMinimum) v) :
    ∃ x, number v = some x ∧ HasValue x ∧ amount v = x.value := by
  rw [Fits] at h
  obtain ⟨-, x, hx, hbounds⟩ := h
  refine ⟨x, hx, ?_, by rw [amount, hx]; rfl⟩
  cases x with
  | finite q => exact .inr ⟨q, rfl⟩
  | negativeZero => exact .inl rfl
  | infinity negative => simp [withinBounds] at hbounds
  | nan => simp [withinBounds] at hbounds

theorem numberLt_iff_value {x y : PyFloat} (hx : HasValue x) (hy : HasValue y) : numberLt x y = true ↔ x.value < y.value := by
  rcases hx with rfl | ⟨p, rfl⟩ <;> rcases hy with rfl | ⟨q, rfl⟩ <;> simp [numberLt, PyFloat.value]

/-- Numbers of the schema are compared by value. -/
theorem pyLt_iff_amount {v w : Json} {m m' n n' : Option ℤ} (hv : Fits (.number m n) v) (hw : Fits (.number m' n') w) :
    pyLt v w = true ↔ amount v < amount w := by
  obtain ⟨x, hx, hfinite, hvalue⟩ := number_of_fits hv
  obtain ⟨y, hy, hfinite', hvalue'⟩ := number_of_fits hw
  rw [pyLt, hx, hy, hvalue, hvalue']
  exact numberLt_iff_value hfinite hfinite'

variable [PyRuntime]

/-- Rounding leaves the sums of these numbers alone. -/
def ExactOn (values : List Json) : Prop :=
  ∀ l : List Json, l.Sublist values → PyRuntime.roundFloat (l.map amount).sum = .finite (l.map amount).sum

theorem ExactOn.sublist {values values' : List Json} (h : ExactOn values) (hsub : values'.Sublist values) : ExactOn values' :=
  fun l hl => h l (hl.trans hsub)

/-- A number that is converted exactly. -/
structure Addend (v : Json) : Prop where
  hasValue : ∃ x, number v = some x ∧ HasValue x
  notBool : v.isBool = false
  exact : PyRuntime.roundFloat (amount v) = .finite (amount v)

theorem addFloat_exact {x y : PyFloat} (hx : HasValue x) (hy : HasValue y)
    (hsum : PyRuntime.roundFloat (x.value + y.value) = .finite (x.value + y.value)) :
    HasValue (addFloat x y) ∧ (addFloat x y).value = x.value + y.value := by
  rcases hx with rfl | ⟨p, rfl⟩ <;> rcases hy with rfl | ⟨q, rfl⟩
  · exact ⟨.inl rfl, by simp [addFloat, PyFloat.value]⟩
  all_goals
    rw [addFloat, hsum]
    · exact ⟨.inr ⟨_, rfl⟩, rfl⟩
    all_goals simp

theorem toFloat_of_addend {v : Json} (h : Addend v) : ∃ x, toFloat v = .ok x ∧ HasValue x ∧ x.value = amount v := by
  obtain ⟨x, hx, hfinite⟩ := h.hasValue
  have hbool := h.notBool
  have hexact := h.exact
  cases v with
  | int n =>
    have hamount : amount (.int n) = n := rfl
    rw [hamount] at hexact
    exact ⟨.finite n, by rw [toFloat, hexact], .inr ⟨n, rfl⟩, hamount.symm⟩
  | float y =>
    obtain rfl : y = x := Option.some.inj hx
    exact ⟨y, rfl, hfinite, rfl⟩
  | bool b => cases hbool
  | null => cases hx
  | str s => cases hx
  | arr items => cases hx
  | obj fields => cases hx

/-- Two addends with an exact sum add up to it. -/
theorem addNumbers_exact {v w r : Json} (hv : Addend v) (hw : Addend w)
    (hsum : PyRuntime.roundFloat (amount v + amount w) = .finite (amount v + amount w)) (h : addNumbers v w = .ok r) :
    Addend r ∧ amount r = amount v + amount w := by
  have hresult : ∀ {r : Json} {x : PyFloat}, number r = some x → HasValue x → x.value = amount v + amount w →
      r.isBool = false → Addend r ∧ amount r = amount v + amount w := by
    intro r x hx hfinite hvalue hbool
    have hamount : amount r = amount v + amount w := by
      rw [amount, hx]
      exact hvalue
    exact ⟨⟨⟨x, hx, hfinite⟩, hbool, by rw [hamount, hsum]⟩, hamount⟩
  unfold addNumbers at h
  split at h
  · rename_i m n
    cases h
    have hcast : ((m + n : ℤ) : ℚ) = amount (.int m) + amount (.int n) := by
      rw [Int.cast_add]
      rfl
    exact hresult rfl (.inr ⟨_, rfl⟩) hcast rfl
  · simp only [bind_eq_ok_iff, pure_eq_ok_iff] at h
    obtain ⟨x, hx, y, hy, rfl⟩ := h
    obtain ⟨x', hx', hxf, hxv⟩ := toFloat_of_addend hv
    obtain ⟨y', hy', hyf, hyv⟩ := toFloat_of_addend hw
    obtain rfl : x = x' := Except.ok.inj (hx.symm.trans hx')
    obtain rfl : y = y' := Except.ok.inj (hy.symm.trans hy')
    rw [← hxv, ← hyv] at hsum hresult
    obtain ⟨hfinite, hvalue⟩ := addFloat_exact hxf hyf hsum
    rw [← hxv, ← hyv]
    exact hresult rfl hfinite hvalue rfl

theorem addend_of_fits {values : List Json} (hexact : ExactOn values) {v : Json} (hmem : v ∈ values) (h : Fits numberSchema v) :
    Addend v := by
  obtain ⟨x, hx, hfinite, -⟩ := number_of_fits h
  rw [numberSchema, Fits] at h
  have hone := hexact [v] (List.singleton_sublist.mpr hmem)
  simp only [List.map_cons, List.map_nil, List.sum_cons, List.sum_nil, add_zero] at hone
  exact ⟨⟨x, hx, hfinite⟩, h.1, hone⟩

/-- Without rounding a sum is the sum of the values. -/
theorem sumNumbers_exact {values : List Json} (hexact : ExactOn values) (hfits : ∀ v ∈ values, Fits numberSchema v) {r : Json}
    (h : sumNumbers values = .ok r) : Addend r ∧ amount r = (values.map amount).sum := by
  have hfold : ∀ (rest done : List Json) (start : Json), done ++ rest = values → Addend start → amount start = (done.map amount).sum →
      rest.foldlM addNumbers start = .ok r → Addend r ∧ amount r = (values.map amount).sum := by
    intro rest
    induction rest with
    | nil =>
      intro done start hsplit hstart hamount h
      rw [List.foldlM_nil, pure_eq_ok_iff] at h
      rw [List.append_nil] at hsplit
      rw [← h, ← hsplit]
      exact ⟨hstart, hamount⟩
    | cons v rest ih =>
      intro done start hsplit hstart hamount h
      rw [List.foldlM_cons, bind_eq_ok_iff] at h
      obtain ⟨next, hnext, h⟩ := h
      have hmem : v ∈ values := by simp [← hsplit]
      have hinitial : (done ++ [v]).Sublist values := by
        rw [← hsplit, ← List.singleton_append (l := rest), ← List.append_assoc]
        exact List.sublist_append_left _ _
      have hsum := hexact _ hinitial
      rw [List.map_append, List.sum_append, List.map_singleton, List.sum_singleton, ← hamount] at hsum
      obtain ⟨hadd, hvalue⟩ := addNumbers_exact hstart (addend_of_fits hexact hmem (hfits v hmem)) hsum hnext
      refine ih (done ++ [v]) next (by simp [hsplit]) hadd ?_ h
      rw [hvalue, hamount, List.map_append, List.sum_append, List.map_singleton, List.sum_singleton]
  have hzero := hexact [] (List.nil_sublist _)
  exact hfold values [] (.int 0) rfl ⟨⟨_, rfl, .inr ⟨_, rfl⟩⟩, rfl, hzero⟩ rfl h

end Amounts

section Totals

/-- The states of a measure. -/
theorem state_of_measure {m : Json} (h : Fits measureSchema m) :
    hasState m "KNOWN" = true ∨ hasState m "UNKNOWN" = true ∨ hasState m "NOT_APPLICABLE" = true := by
  have hstate : Fits (.enum ["KNOWN", "UNKNOWN", "NOT_APPLICABLE"]) (get m "state") := fits_get h rfl
  obtain ⟨t, ht, hvalue⟩ := (fits_enum _ _).mp hstate
  unfold hasState
  rw [hvalue]
  simp only [List.mem_cons, List.not_mem_nil, or_false] at ht
  rcases ht with rfl | rfl | rfl <;> simp [Json.isStr]

/-- A measure is in one state. -/
theorem state_exclusive {m : Json} {s t : PyStr} (hs : hasState m s = true) (hne : s ≠ t) : hasState m t = false := by
  unfold hasState at hs ⊢
  cases hvalue : get m "state" <;> rw [hvalue] at hs <;> simp [Json.isStr] at hs ⊢
  rw [hs]
  exact hne

theorem known_of_validateMeasure {m : Json} {unit : Option PyStr} (h : validateMeasure m unit = .ok ())
    (hknown : hasState m "KNOWN" = true) : Fits numberSchema (get m "value") := by
  have hfits := fits_of_validateMeasure h
  unfold validateMeasure at h
  simp only [bind_eq_ok_iff, exists_unit_iff, check_eq_ok_iff] at h
  have hvalue : Fits (orNull numberSchema) (get m "value") := fits_get hfits rfl
  unfold hasState at hknown
  rw [hknown] at h
  rcases (fits_orNull _ _).mp hvalue with hnumber | hnull
  · exact hnumber
  · rw [hnull] at h
    cases h.2.1

/-- A measure has the state it is given, or the one of its value. -/
theorem measure_state {value m : Json} {unit reason : PyStr} {state : Option PyStr} (h : measure value unit state reason = .ok m) :
    Fits measureSchema m ∧ hasState m (state.getD (if value.isNull then "UNKNOWN" else "KNOWN")) = true ∧
      get m "value" = value := by
  obtain ⟨hvalid, rfl⟩ := measure_eq_ok_iff.mp h
  have hstate : ∀ s : PyStr, (Json.str s).isStr s = true := fun s => by simp [Json.isStr]
  exact ⟨fits_of_validateMeasure hvalid, hstate _, rfl⟩

theorem states_apart : py "KNOWN" ≠ py "UNKNOWN" ∧ py "KNOWN" ≠ py "NOT_APPLICABLE" ∧ py "UNKNOWN" ≠ py "NOT_APPLICABLE" := by
  decide +kernel

variable [PyRuntime]

theorem valid_totalMeasure {values : List Json} {unit : PyStr} {m : Json} (h : totalMeasure values unit = .ok m) :
    validateMeasure m none = .ok () := by
  unfold totalMeasure at h
  simp only [bind_eq_ok_iff, exists_unit_iff] at h
  obtain ⟨-, h⟩ := h
  split_ifs at h
  · exact (measure_eq_ok_iff.mp h).1
  · exact (measure_eq_ok_iff.mp h).1
  · obtain ⟨total, -, h⟩ := bind_eq_ok_iff.mp h
    exact (measure_eq_ok_iff.mp h).1

/-- What a total is in the states of what is added up. -/
structure TotalOf (values : List Json) (m : Json) : Prop where
  fits : Fits measureSchema m
  unknown : hasState m "UNKNOWN" = true ↔ ∃ v ∈ values, hasState v "UNKNOWN" = true
  notApplicable : hasState m "NOT_APPLICABLE" = true ↔
    (∀ v ∈ values, hasState v "UNKNOWN" = false) ∧ ∃ v ∈ values, hasState v "NOT_APPLICABLE" = true
  known : hasState m "KNOWN" = true → Fits numberSchema (get m "value") ∧
    amount (get m "value") = (values.map fun v => amount (get v "value")).sum

theorem totalOf_totalMeasure {values : List Json} {unit : PyStr} {m : Json} (h : totalMeasure values unit = .ok m)
    (hexact : ExactOn (values.map fun v => get v "value")) : TotalOf values m := by
  obtain ⟨hku, hkn, hun⟩ := states_apart
  unfold totalMeasure at h
  simp only [bind_eq_ok_iff, exists_unit_iff, forM_eq_ok_iff] at h
  obtain ⟨hvalues, h⟩ := h
  split_ifs at h with hunknown hnot
  · obtain ⟨hfits, hstate, -⟩ := measure_state h
    rw [List.any_eq_true] at hunknown
    refine ⟨hfits, iff_of_true hstate hunknown, iff_of_false ?_ ?_, fun hknown => ?_⟩
    · rw [state_exclusive hstate hun]
      exact Bool.false_ne_true
    · rintro ⟨hnone, -⟩
      obtain ⟨v, hv, hvstate⟩ := hunknown
      rw [hnone v hv] at hvstate
      cases hvstate
    · rw [state_exclusive hstate hku.symm] at hknown
      cases hknown
  · obtain ⟨hfits, hstate, -⟩ := measure_state h
    rw [Option.getD_some] at hstate
    have hnone : ∀ v ∈ values, hasState v "UNKNOWN" = false := by simpa using hunknown
    rw [List.any_eq_true] at hnot
    refine ⟨hfits, iff_of_false ?_ ?_, iff_of_true hstate ⟨hnone, hnot⟩, fun hknown => ?_⟩
    · rw [state_exclusive hstate hun.symm]
      exact Bool.false_ne_true
    · rintro ⟨v, hv, hvstate⟩
      rw [hnone v hv] at hvstate
      cases hvstate
    · rw [state_exclusive hstate hkn.symm] at hknown
      cases hknown
  · obtain ⟨total, htotal, h⟩ := bind_eq_ok_iff.mp h
    obtain ⟨hfits, hstate, hvalue⟩ := measure_state h
    have hnone : ∀ v ∈ values, hasState v "UNKNOWN" = false := by simpa using hunknown
    have hnone' : ∀ v ∈ values, hasState v "NOT_APPLICABLE" = false := by simpa using hnot
    have hnumbers : ∀ v ∈ values.map (get · "value"), Fits numberSchema v := by
      intro v hv
      obtain ⟨w, hw, rfl⟩ := List.mem_map.mp hv
      rcases state_of_measure (fits_of_validateMeasure (hvalues w hw)) with hs | hs | hs
      · exact known_of_validateMeasure (hvalues w hw) hs
      · rw [hnone w hw] at hs
        cases hs
      · rw [hnone' w hw] at hs
        cases hs
    obtain ⟨hadd, hamount⟩ := sumNumbers_exact hexact hnumbers htotal
    have hnull : total.isNull = false := by
      obtain ⟨x, hx, -⟩ := hadd.hasValue
      cases total <;> first | rfl | cases hx
    rw [hnull, Option.getD_none, if_neg Bool.false_ne_true] at hstate
    refine ⟨hfits, iff_of_false ?_ ?_, iff_of_false ?_ ?_, fun _ => ?_⟩
    · rw [state_exclusive hstate hku]
      exact Bool.false_ne_true
    · rintro ⟨v, hv, hvstate⟩
      rw [hnone v hv] at hvstate
      cases hvstate
    · rw [state_exclusive hstate hkn]
      exact Bool.false_ne_true
    · rintro ⟨-, v, hv, hvstate⟩
      rw [hnone' v hv] at hvstate
      cases hvstate
    · have hvalid := (measure_eq_ok_iff.mp h).1
      refine ⟨known_of_validateMeasure hvalid hstate, ?_⟩
      rw [hvalue, hamount, List.map_map]
      rfl

end Totals

section Attempts

/-- The kinds money is added up by. -/
def classes : List PyStr := ["SEARCH", "VERIFY", "MODEL"]

theorem status_of_shape {event : Json} (h : Fits eventSchema event) :
    status event = py "SUCCEEDED" ∨ status event = py "FAILED" ∨ status event = py "REJECTED" := by
  have hstatus : Fits (.enum ["SUCCEEDED", "FAILED", "REJECTED"]) (get event "status") := fits_get h rfl
  obtain ⟨t, ht, hvalue⟩ := (fits_enum _ _).mp hstatus
  rw [status, hvalue, asText]
  simpa using ht

/-- A sum over events is the sum over their kinds. -/
theorem sum_by_kind (f : Json → ℚ) (events : List Json) (h : ∀ e ∈ events, kind e ∈ classes) :
    (events.map f).sum = (classes.map fun k => ((events.filter fun e => kind e = k).map f).sum).sum := by
  have hapart : py "SEARCH" ≠ py "VERIFY" ∧ py "SEARCH" ≠ py "MODEL" ∧ py "VERIFY" ≠ py "MODEL" := by decide +kernel
  obtain ⟨hsv, hsm, hvm⟩ := hapart
  induction events with
  | nil => simp [classes]
  | cons e es ih =>
    have hrest := ih fun e he => h e (List.mem_cons_of_mem _ he)
    have hkind := h e List.mem_cons_self
    rw [List.map_cons, List.sum_cons, hrest]
    simp only [classes, List.map_cons, List.map_nil, List.sum_cons, List.sum_nil, List.filter_cons]
    simp only [classes, List.mem_cons, List.not_mem_nil, or_false] at hkind
    rcases hkind with hkind | hkind | hkind
    · simp [hkind, hsv, hsm]
      ring
    · simp [hkind, hsv.symm, hvm]
      ring
    · simp [hkind, hsm.symm, hvm.symm]
      ring

variable [PyRuntime] (ledger : ResourceLedger)

theorem ResourceLedger.wellFormed {e : Json} (he : e ∈ ledger.events) : WellFormed ledger.spec e := by
  obtain ⟨l, m, hsplit⟩ := List.append_of_mem he
  exact (admits_iff.mp (hsplit ▸ ledger.history).admitted).1

/-- The attempts are the events that were not rejected. -/
theorem ResourceLedger.mem_attempts {e : Json} : e ∈ ledger.attempts ↔ e ∈ ledger.events ∧ status e ≠ py "REJECTED" := by
  rw [ResourceLedger.attempts, List.mem_filter]
  refine and_congr_right fun he => ?_
  have hstatus := (ledger.wellFormed he).status
  unfold checkStatus at hstatus
  simp only [bind_eq_ok_iff, exists_unit_iff, check_eq_ok_iff] at hstatus
  rw [hstatus.1]
  simp

theorem ResourceLedger.kind_of_attempt {e : Json} (he : e ∈ ledger.attempts) : kind e ∈ classes := by
  have hevent := (ledger.mem_attempts.mp he).1
  simpa [classes] using kind_of_shape (ledger.wellFormed hevent).shape

/-- A fact of some attempt is one of some attempt of a kind. -/
theorem ResourceLedger.exists_attempt_iff (p : Json → Prop) :
    (∃ e ∈ ledger.attempts, p e) ↔ ∃ k ∈ classes, ∃ e ∈ ledger.attemptsOf k, p e := by
  unfold ResourceLedger.attemptsOf
  constructor
  · rintro ⟨e, he, hp⟩
    exact ⟨kind e, ledger.kind_of_attempt he, e, List.mem_filter.mpr ⟨he, by simp⟩, hp⟩
  · rintro ⟨k, -, e, he, hp⟩
    exact ⟨e, List.mem_of_mem_filter he, hp⟩

/-- Every attempted search succeeded or failed. -/
theorem ResourceLedger.search_split :
    ledger.search.length = withStatus ledger.search "SUCCEEDED" + withStatus ledger.search "FAILED" := by
  have hapart : py "SUCCEEDED" ≠ py "FAILED" := by decide +kernel
  have hstatus : ∀ e ∈ ledger.search, status e = py "SUCCEEDED" ∨ status e = py "FAILED" := by
    intro e he
    obtain ⟨hevent, hattempt⟩ := ledger.mem_attempts.mp (List.mem_of_mem_filter he)
    rcases status_of_shape (ledger.wellFormed hevent).shape with hs | hs | hs
    · exact .inl hs
    · exact .inr hs
    · exact absurd hs hattempt
  generalize ledger.search = events at hstatus
  unfold withStatus
  induction events with
  | nil => rfl
  | cons e es ih =>
    have hrest := ih fun e he => hstatus e (List.mem_cons_of_mem _ he)
    rw [List.length_cons, hrest, List.filter_cons, List.filter_cons]
    rcases hstatus e List.mem_cons_self with hs | hs
    · simp [hs, hapart]
      omega
    · simp [hs, hapart.symm]
      omega

end Attempts

section Money

variable [PyRuntime] {ledger : ResourceLedger} {r : Reduction} {elapsedMs : Json}

/-- The money an event cost, as it is written. -/
def moneyOf (e : Json) : Json := get (get e "money") "value"

/-- The totals of a reduction. -/
structure Totals (ledger : ResourceLedger) (elapsedMs : Json) (r : Reduction) : Prop where
  money : TotalOf (ledger.attempts.map (get · "money")) r.money
  valid : ∀ m ∈ [r.tokens, r.money, r.runtime], validateMeasure m none = .ok ()
  runtime : hasState r.runtime "KNOWN" = true ∧ get r.runtime "value" = elapsedMs
  keys : r.byClass.map Prod.fst = classes
  byClass : ∀ k ∈ classes, TotalOf ((ledger.attemptsOf k).map (get · "money")) (get (.obj r.byClass) k)

theorem totals_of_reduce (h : ledger.reduce elapsedMs = .ok r) (hfits : Fits numberSchema elapsedMs)
    (hexact : ExactOn (ledger.attempts.map moneyOf)) : Totals ledger elapsedMs r := by
  unfold ResourceLedger.reduce at h
  simp only [bind_eq_ok_iff, exists_unit_iff, pure_eq_ok_iff] at h
  obtain ⟨tokens, htokens, money, hmoney, runtime, hruntime, -, retriever, -, resource, -, byClass, hclass, rfl⟩ := h
  have hvalues : ∀ events : List Json, events.Sublist ledger.attempts →
      ExactOn ((events.map (get · "money")).map fun v => get v "value") := by
    intro events hsub
    rw [List.map_map]
    exact hexact.sublist (hsub.map _)
  obtain ⟨-, hstate, hvalue⟩ := measure_state hruntime
  have hnull : elapsedMs.isNull = false := by
    obtain ⟨x, hx, -⟩ := number_of_fits hfits
    cases elapsedMs <;> first | rfl | cases hx
  rw [Option.getD_none, hnull, if_neg Bool.false_ne_true] at hstate
  rw [mapM_eq_ok_iff] at hclass
  simp only [List.forall₂_cons_left_iff, List.forall₂_nil_left_iff, bind_eq_ok_iff, pure_eq_ok_iff] at hclass
  obtain ⟨_, _, ⟨m, hm, rfl⟩, ⟨_, _, ⟨m', hm', rfl⟩, ⟨_, _, ⟨m'', hm'', rfl⟩, rfl, rfl⟩, rfl⟩, rfl⟩ := hclass
  have htotal : ∀ {k : PyStr} {m : Json}, totalMeasure ((ledger.attemptsOf k).map (get · "money")) (asText (get money "unit")) = .ok m →
      TotalOf ((ledger.attemptsOf k).map (get · "money")) m :=
    fun h => totalOf_totalMeasure h (hvalues _ List.filter_sublist)
  refine ⟨totalOf_totalMeasure hmoney (hvalues _ (List.Sublist.refl _)), ?_, ⟨hstate, hvalue⟩, rfl, ?_⟩
  · simp only [List.forall_mem_cons]
    exact ⟨valid_totalMeasure htokens, valid_totalMeasure hmoney, (measure_eq_ok_iff.mp hruntime).1, by simp⟩
  · simp only [classes, List.forall_mem_cons]
    exact ⟨htotal hm, htotal hm', htotal hm'', by simp⟩

/-- The total is in the state that the totals of the classes are in, and adds them up. -/
theorem Totals.money_by_class (h : Totals ledger elapsedMs r) :
    (hasState r.money "UNKNOWN" = true ↔ ∃ k ∈ classes, hasState (get (.obj r.byClass) k) "UNKNOWN" = true) ∧
    (hasState r.money "NOT_APPLICABLE" = true ↔ (∀ k ∈ classes, hasState (get (.obj r.byClass) k) "UNKNOWN" = false) ∧
      ∃ k ∈ classes, hasState (get (.obj r.byClass) k) "NOT_APPLICABLE" = true) ∧
    (hasState r.money "KNOWN" = true → amount (get r.money "value") =
      (classes.map fun k => amount (get (get (.obj r.byClass) k) "value")).sum) := by
  have hsplit : ∀ s : PyStr, (∃ v ∈ ledger.attempts.map (get · "money"), hasState v s = true) ↔
      ∃ k ∈ classes, ∃ v ∈ (ledger.attemptsOf k).map (get · "money"), hasState v s = true := by
    intro s
    simp only [List.mem_map, exists_exists_and_eq_and]
    exact ledger.exists_attempt_iff fun e => hasState (get e "money") s = true
  have hunknown : hasState r.money "UNKNOWN" = true ↔ ∃ k ∈ classes, hasState (get (.obj r.byClass) k) "UNKNOWN" = true := by
    rw [h.money.unknown, hsplit]
    exact exists_congr fun k => and_congr_right fun hk => (h.byClass k hk).unknown.symm
  have hnone : (∀ v ∈ ledger.attempts.map (get · "money"), hasState v "UNKNOWN" = false) ↔
      ∀ k ∈ classes, hasState (get (.obj r.byClass) k) "UNKNOWN" = false := by
    have hnot := not_congr (h.money.unknown.symm.trans hunknown)
    push Not at hnot
    simpa only [ne_eq, Bool.not_eq_true] using hnot
  refine ⟨hunknown, ?_, fun hknown => ?_⟩
  · rw [h.money.notApplicable, hnone, hsplit]
    refine and_congr_right fun hall => exists_congr fun k => and_congr_right fun hk => ?_
    rw [(h.byClass k hk).notApplicable]
    refine ⟨fun hex => ⟨fun v hv => ?_, hex⟩, fun hboth => hboth.2⟩
    obtain ⟨e, he, rfl⟩ := List.mem_map.mp hv
    exact hnone.mpr hall _ (List.mem_map.mpr ⟨e, List.mem_of_mem_filter he, rfl⟩)
  · obtain ⟨hku, hkn, -⟩ := states_apart
    have hclass : ∀ k ∈ classes, amount (get (get (.obj r.byClass) k) "value") =
        (((ledger.attemptsOf k).map moneyOf).map amount).sum := by
      intro k hk
      have htotal := h.byClass k hk
      have hclear : hasState (get (.obj r.byClass) k) "KNOWN" = true := by
        rcases state_of_measure htotal.fits with hs | hs | hs
        · exact hs
        · have hmoney := hunknown.mpr ⟨k, hk, hs⟩
          rw [state_exclusive hknown hku] at hmoney
          cases hmoney
        · obtain ⟨hfree, hex⟩ := htotal.notApplicable.mp hs
          have hall : ∀ v ∈ ledger.attempts.map (get · "money"), hasState v "UNKNOWN" = false := by
            by_contra hsome
            push Not at hsome
            obtain ⟨v, hv, hvs⟩ := hsome
            have hmoney := h.money.unknown.mpr ⟨v, hv, by simpa using hvs⟩
            rw [state_exclusive hknown hku] at hmoney
            cases hmoney
          have hmoney := h.money.notApplicable.mpr ⟨hall, (hsplit _).mpr ⟨k, hk, hex⟩⟩
          rw [state_exclusive hknown hkn] at hmoney
          cases hmoney
      rw [(htotal.known hclear).2, List.map_map, List.map_map]
      rfl
    rw [(h.money.known hknown).2, List.map_map]
    have hsum := sum_by_kind (fun e => amount (moneyOf e)) ledger.attempts fun e he => ledger.kind_of_attempt he
    have hgroups : (classes.map fun k => amount (get (get (.obj r.byClass) k) "value")) =
        classes.map fun k => ((ledger.attempts.filter fun e => kind e = k).map fun e => amount (moneyOf e)).sum := by
      refine List.map_congr_left fun k hk => ?_
      rw [hclass k hk, List.map_map]
      rfl
    rw [hgroups, ← hsum]
    rfl

end Money

section Verdict

/-- A ceiling that is known is met by an observed value that is known. -/
def Meets (observed ceiling : Json) : Prop :=
  hasState ceiling "KNOWN" = true → hasState observed "KNOWN" = true ∧
    amount (get observed "value") ≤ amount (get ceiling "value")

theorem violation_eq_nil {label : PyStr} {exceeded : Bool} : violation label exceeded = [] ↔ exceeded = false := by
  cases exceeded <;> simp [violation]

theorem againstCeiling_eq_nil {label : PyStr} {observed ceiling : Json} {unit : Option PyStr}
    (hobserved : validateMeasure observed none = .ok ()) (hceiling : validateMeasure ceiling unit = .ok ()) :
    againstCeiling label observed ceiling = [] ↔ Meets observed ceiling := by
  unfold againstCeiling Meets
  by_cases hc : hasState ceiling "KNOWN" = true
  · rw [if_pos hc]
    by_cases ho : hasState observed "KNOWN" = true
    · have hlt := pyLt_iff_amount (known_of_validateMeasure hceiling hc) (known_of_validateMeasure hobserved ho)
      rw [if_neg (by simp [ho]), violation_eq_nil, ← Bool.not_eq_true, hlt, not_lt]
      exact ⟨fun h _ => ⟨ho, h⟩, fun h => (h hc).2⟩
    · rw [if_pos (by simp [ho])]
      exact iff_of_false (by simp) fun h => ho (h hc).1
  · rw [if_neg hc]
    exact iff_of_true rfl fun h => absurd h hc

theorem terminalStatus_pass_iff (violations : List PyStr) (infrastructure : ℕ) :
    terminalStatus violations infrastructure = py "PASS" ↔ violations = [] ∧ infrastructure = 0 := by
  have hapart : py "BLOCKED" ≠ py "PASS" ∧ py "NOT_EVALUABLE" ≠ py "PASS" := by decide +kernel
  unfold terminalStatus
  by_cases hv : violations = []
  · rw [if_neg (not_not_intro hv)]
    by_cases hi : infrastructure = 0
    · rw [if_neg (not_not_intro hi)]
      exact iff_of_true rfl ⟨hv, hi⟩
    · rw [if_pos hi]
      exact iff_of_false hapart.2 fun h => hi h.2
  · rw [if_pos hv]
    exact iff_of_false hapart.1 fun h => hv h.1

variable [PyRuntime] (ledger : ResourceLedger)

/-- The ceilings of a declaration are measures. -/
theorem SearchSpecV2.ceilings_valid (spec : SearchSpecV2) :
    (∃ unit, validateMeasure (get spec.resources "max_total_runtime_ms") unit = .ok ()) ∧
    (∃ unit, validateMeasure (get spec.resources "token_ceiling") unit = .ok ()) ∧
    ∃ unit, validateMeasure (get spec.resources "money_ceiling") unit = .ok () := by
  have hvalid := spec.valid
  unfold validateSearchSpec at hvalid
  simp only [bind_eq_ok_iff, exists_unit_iff] at hvalid
  obtain ⟨-, -, -, hbindings, -⟩ := hvalid
  unfold checkBindings at hbindings
  obtain ⟨_, -, hbindings⟩ := bind_eq_ok_iff.mp hbindings
  -- whether the declaration is a draft does not matter to its ceilings
  split_ifs at hbindings <;> simp only [bind_eq_ok_iff, exists_unit_iff] at hbindings
  · obtain ⟨-, -, -, _, -, -, hruntime, htokens, hmoney⟩ := hbindings
    exact ⟨⟨_, hruntime⟩, ⟨_, htokens⟩, ⟨_, hmoney⟩⟩
  · obtain ⟨-, _, -, -, -, -, _, -, -, hruntime, htokens, hmoney⟩ := hbindings
    exact ⟨⟨_, hruntime⟩, ⟨_, htokens⟩, ⟨_, hmoney⟩⟩

/-- What the attempts of a ledger and its totals are held to. -/
structure ResourceLedger.WithinLimits (tokens money elapsedMs : Json) : Prop where
  calls : ledger.search.length ≤ count ledger.spec.resources "max_search_calls"
  turns : ledger.searchTurns ≤ count ledger.spec.resources "max_search_turns"
  links : ledger.verification.length ≤ count ledger.spec.resources "max_follow_links"
  results : ∀ e ∈ ledger.search, count e "result_count" ≤ count ledger.spec.resources "max_results_per_call"
  timeout : ∀ e ∈ ledger.attempts, amount (get e "elapsed_ms") ≤ amount (get ledger.spec.resources "timeout_per_call_ms")
  tokens : Meets tokens (get ledger.spec.resources "token_ceiling")
  money : Meets money (get ledger.spec.resources "money_ceiling")
  runtime : hasState (get ledger.spec.resources "max_total_runtime_ms") "KNOWN" = true →
    amount elapsedMs ≤ amount (get (get ledger.spec.resources "max_total_runtime_ms") "value")

variable {ledger} {tokens money runtime elapsedMs : Json} {priced : Bool}

/-- Nothing is violated exactly when every limit is kept, prices are shown where they must be, and
nothing was rejected. -/
theorem ResourceLedger.violations_eq_nil (htokens : validateMeasure tokens none = .ok ())
    (hmoney : validateMeasure money none = .ok ()) (hruntime : validateMeasure runtime none = .ok ())
    (helapsed : hasState runtime "KNOWN" = true ∧ get runtime "value" = elapsedMs) :
    ledger.violations tokens money runtime priced = [] ↔ ledger.WithinLimits tokens money elapsedMs ∧
      (hasMode ledger.spec.asDict "F3" = true → hasState money "KNOWN" = true → priced = true) ∧
        ∀ e ∈ ledger.events, status e ≠ py "REJECTED" := by
  obtain ⟨⟨_, hr⟩, ⟨_, ht⟩, ⟨_, hm⟩⟩ := ledger.spec.ceilings_valid
  have htimeout : Fits (.number none (some 0)) (get ledger.spec.resources "timeout_per_call_ms") := ledger.spec.resource_fits rfl
  have hslow : (ledger.attempts.any fun e => pyLt (get ledger.spec.resources "timeout_per_call_ms") (get e "elapsed_ms")) = false ↔
      ∀ e ∈ ledger.attempts, amount (get e "elapsed_ms") ≤ amount (get ledger.spec.resources "timeout_per_call_ms") := by
    rw [List.any_eq_false]
    refine forall₂_congr fun e he => ?_
    have hms : Fits numberSchema (get e "elapsed_ms") :=
      fits_get (ledger.wellFormed (ledger.mem_attempts.mp he).1).shape rfl
    rw [pyLt_iff_amount htimeout hms, not_lt]
  have hprice : (hasMode ledger.spec.asDict "F3" && hasState money "KNOWN" && !priced) = false ↔
      (hasMode ledger.spec.asDict "F3" = true → hasState money "KNOWN" = true → priced = true) := by
    cases hasMode ledger.spec.asDict "F3" <;> cases hasState money "KNOWN" <;> simp
  have hmeets : Meets runtime (get ledger.spec.resources "max_total_runtime_ms") ↔
      (hasState (get ledger.spec.resources "max_total_runtime_ms") "KNOWN" = true →
        amount elapsedMs ≤ amount (get (get ledger.spec.resources "max_total_runtime_ms") "value")) := by
    rw [Meets, helapsed.1, helapsed.2]
    simp only [true_and]
  unfold ResourceLedger.violations
  simp only [List.append_eq_nil_iff, violation_eq_nil, againstCeiling_eq_nil htokens ht, againstCeiling_eq_nil hmoney hm,
    againstCeiling_eq_nil hruntime hr, hslow, hprice, hmeets, decide_eq_false_iff_not, not_lt, List.any_eq_false,
    decide_eq_true_eq]
  constructor
  · rintro ⟨⟨⟨⟨⟨⟨⟨⟨⟨hcalls, hturns⟩, hlinks⟩, hresults⟩, hslow⟩, htokens⟩, hmoney⟩, hruntime⟩, hprice⟩, hrejected⟩
    exact ⟨⟨hcalls, hturns, hlinks, hresults, hslow, htokens, hmoney, hruntime⟩, hprice, hrejected⟩
  · rintro ⟨⟨hcalls, hturns, hlinks, hresults, hslow, htokens, hmoney, hruntime⟩, hprice, hrejected⟩
    exact ⟨⟨⟨⟨⟨⟨⟨⟨⟨hcalls, hturns⟩, hlinks⟩, hresults⟩, hslow⟩, htokens⟩, hmoney⟩, hruntime⟩, hprice⟩, hrejected⟩

end Verdict

section Document

theorem hasState_sortKeys {m : Json} (h : UniqueKeys m) (s : PyStr) : hasState (sortKeys m) s = hasState m s := by
  rw [hasState, get_sortKeys h, isStr_sortKeys, hasState]

theorem amount_sortKeys (v : Json) : amount (sortKeys v) = amount v := by
  have hnumber : number (sortKeys v) = number v := by cases v <;> simp [sortKeys, number]
  rw [amount, hnumber, amount]

theorem meets_sortKeys {m ceiling : Json} (h : UniqueKeys m) : Meets (sortKeys m) ceiling ↔ Meets m ceiling := by
  rw [Meets, hasState_sortKeys h, get_sortKeys h, amount_sortKeys, Meets]

variable [PyRuntime] [RoundTripFloats] {ledger : ResourceLedger} {inputs : ReceiptInputs} {receipt : Fields}

omit [RoundTripFloats] in
theorem withinLimits_sortKeys {tokens money elapsedMs : Json} (htokens : UniqueKeys tokens) (hmoney : UniqueKeys money) :
    ledger.WithinLimits (sortKeys tokens) (sortKeys money) (sortKeys elapsedMs) ↔ ledger.WithinLimits tokens money elapsedMs := by
  constructor
  · rintro ⟨hcalls, hturns, hlinks, hresults, htimeout, ht, hm, hr⟩
    rw [amount_sortKeys] at hr
    exact ⟨hcalls, hturns, hlinks, hresults, htimeout, (meets_sortKeys htokens).mp ht, (meets_sortKeys hmoney).mp hm, hr⟩
  · rintro ⟨hcalls, hturns, hlinks, hresults, htimeout, ht, hm, hr⟩
    rw [← amount_sortKeys] at hr
    exact ⟨hcalls, hturns, hlinks, hresults, htimeout, (meets_sortKeys htokens).mpr ht, (meets_sortKeys hmoney).mpr hm, hr⟩

/-- A receipt has the fields it was sealed with, their keys sorted. -/
theorem receipt_reads (hinputs : inputs.Legible) (h : ledger.receipt inputs = .ok receipt) :
    inputs.check = .ok () ∧ ∃ r, ledger.reduce inputs.elapsedMs = .ok r ∧ ∀ k : PyStr, k ≠ fingerprintKey →
      get (.obj receipt) k = sortKeys (dictGet (ledger.receiptFields inputs r) k) := by
  obtain ⟨hcheck, r, hreduce, -, hreceipt⟩ := (receipt_eq_ok_iff hinputs).mp h
  refine ⟨hcheck, r, hreduce, fun k hk => ?_⟩
  have hlookup := lookup_sealedFields (legible_receiptFields hinputs hreduce).nodup hk
  rw [hreceipt, get, dictGet, dictGet, hlookup]
  cases (ledger.receiptFields inputs r).lookup k with
  | none => rfl
  | some v => rfl

/-- The money of a class in a receipt. -/
def classMoney (document : Json) (k : PyStr) : Json := get (get document "money_by_class") k

/-- In every receipt, over exact sums of money: the attempted searches succeeded or failed; those that
remain are what the ceiling leaves; the total money is unknown when a class is, else not applicable
when a class is, else known and the sum of the classes; and the run passes exactly when nothing was
rejected, nothing failed, every limit is kept and, where resources are compared, a known total of
money comes with evidence of its prices. -/
theorem receipt_arithmetic (hinputs : inputs.Legible) (hexact : ExactOn (ledger.attempts.map moneyOf))
    (h : ledger.receipt inputs = .ok receipt) :
    asInt (get (.obj receipt) "search_attempted") =
      asInt (get (.obj receipt) "search_succeeded") + asInt (get (.obj receipt) "search_failed") ∧
    asInt (get (.obj receipt) "search_remaining") +
      min (asInt (get (.obj receipt) "search_attempted")) (asInt (get ledger.spec.resources "max_search_calls")) =
        asInt (get ledger.spec.resources "max_search_calls") ∧
    (hasState (get (.obj receipt) "money") "UNKNOWN" = true ↔
      ∃ k ∈ classes, hasState (classMoney (.obj receipt) k) "UNKNOWN" = true) ∧
    (hasState (get (.obj receipt) "money") "NOT_APPLICABLE" = true ↔
      (∀ k ∈ classes, hasState (classMoney (.obj receipt) k) "UNKNOWN" = false) ∧
        ∃ k ∈ classes, hasState (classMoney (.obj receipt) k) "NOT_APPLICABLE" = true) ∧
    ((∀ k ∈ classes, hasState (classMoney (.obj receipt) k) "UNKNOWN" = false ∧
        hasState (classMoney (.obj receipt) k) "NOT_APPLICABLE" = false) →
      hasState (get (.obj receipt) "money") "KNOWN" = true ∧ amount (get (get (.obj receipt) "money") "value") =
        (classes.map fun k => amount (get (classMoney (.obj receipt) k) "value")).sum) ∧
    ((get (.obj receipt) "terminal_status").isStr "PASS" = true ↔
      (∀ e ∈ ledger.events, status e ≠ py "REJECTED" ∧ status e ≠ py "FAILED") ∧
      ledger.WithinLimits (get (.obj receipt) "tokens") (get (.obj receipt) "money") (get (.obj receipt) "elapsed_ms") ∧
      (hasMode ledger.spec.asDict "F3" = true → hasState (get (.obj receipt) "money") "KNOWN" = true →
        (get (.obj receipt) "price_evidence").truthy = true)) := by
  obtain ⟨hcheck, r, hreduce, hreads⟩ := receipt_reads hinputs h
  obtain ⟨-, helapsed, -, -, hprices, -⟩ := ReceiptInputs.check_eq_ok_iff.mp hcheck
  have htotals := totals_of_reduce hreduce helapsed hexact
  obtain ⟨htokensLegible, hmoneyLegible, -, hclassLegible⟩ := legible_reduce hreduce
  have hmax : Fits countSchema (get ledger.spec.resources "max_search_calls") := ledger.spec.resource_fits rfl
  obtain ⟨n, hn⟩ := fits_count hmax
  have hattempted : get (.obj receipt) "search_attempted" = countJson ledger.search.length := hreads _ (by decide +kernel)
  have hsucceeded : get (.obj receipt) "search_succeeded" = countJson (withStatus ledger.search "SUCCEEDED") :=
    hreads _ (by decide +kernel)
  have hfailed : get (.obj receipt) "search_failed" = countJson (withStatus ledger.search "FAILED") :=
    hreads _ (by decide +kernel)
  have hremaining : get (.obj receipt) "search_remaining" = countJson (n - ledger.search.length) := by
    have hleft : n = count ledger.spec.resources "max_search_calls" := by
      rw [count, hn]
      rfl
    rw [hleft]
    exact hreads _ (by decide +kernel)
  have hmoney : get (.obj receipt) "money" = sortKeys r.money := hreads _ (by decide +kernel)
  have htokens : get (.obj receipt) "tokens" = sortKeys r.tokens := hreads _ (by decide +kernel)
  have hms : get (.obj receipt) "elapsed_ms" = sortKeys inputs.elapsedMs := hreads _ (by decide +kernel)
  have hclasses : get (.obj receipt) "money_by_class" = sortKeys (.obj r.byClass) := hreads _ (by decide +kernel)
  have hevidence : get (.obj receipt) "price_evidence" = sortKeys inputs.priceEvidence := hreads _ (by decide +kernel)
  have hterminal : get (.obj receipt) "terminal_status" = .str (terminalStatus
      (ledger.violations r.tokens r.money r.runtime inputs.priceEvidence.truthy) (withStatus ledger.attempts "FAILED")) :=
    hreads _ (by decide +kernel)
  have hclass : ∀ k, classMoney (.obj receipt) k = sortKeys (get (.obj r.byClass) k) := by
    intro k
    rw [classMoney, hclasses, get_sortKeys hclassLegible.uniqueKeys]
  have hstate : ∀ t, hasState (get (.obj receipt) "money") t = hasState r.money t := by
    intro t
    rw [hmoney, hasState_sortKeys hmoneyLegible.uniqueKeys]
  have hclassState : ∀ k t, hasState (classMoney (.obj receipt) k) t = hasState (get (.obj r.byClass) k) t := by
    intro k t
    rw [hclass, hasState_sortKeys (Legible.get hclassLegible k).uniqueKeys]
  obtain ⟨hunknown, hnot, hsum⟩ := htotals.money_by_class
  simp only [hstate, hclassState]
  refine ⟨?_, ?_, hunknown, hnot, fun hclear => ?_, ?_⟩
  · rw [hattempted, hsucceeded, hfailed]
    simp only [countJson, asInt]
    exact_mod_cast ledger.search_split
  · rw [hremaining, hattempted, hn]
    simp only [countJson, asInt]
    omega
  · have hknown : hasState r.money "KNOWN" = true := by
      rcases state_of_measure htotals.money.fits with hs | hs | hs
      · exact hs
      · obtain ⟨k, hk, hks⟩ := hunknown.mp hs
        rw [(hclear k hk).1] at hks
        cases hks
      · obtain ⟨-, k, hk, hks⟩ := hnot.mp hs
        rw [(hclear k hk).2] at hks
        cases hks
    have hvalue : ∀ k, amount (get (classMoney (.obj receipt) k) "value") = amount (get (get (.obj r.byClass) k) "value") := by
      intro k
      rw [hclass, get_sortKeys (Legible.get hclassLegible k).uniqueKeys, amount_sortKeys]
    refine ⟨hknown, ?_⟩
    simp only [hvalue]
    rw [hmoney, get_sortKeys hmoneyLegible.uniqueKeys, amount_sortKeys]
    exact hsum hknown
  · obtain ⟨htokensValid, hmoneyValid, hruntimeValid⟩ : validateMeasure r.tokens none = .ok () ∧
        validateMeasure r.money none = .ok () ∧ validateMeasure r.runtime none = .ok () := by
      simpa using htotals.valid
    have hviolations : ledger.violations r.tokens r.money r.runtime inputs.priceEvidence.truthy = [] ↔ _ :=
      ResourceLedger.violations_eq_nil htokensValid hmoneyValid hruntimeValid htotals.runtime
    have hinfrastructure : withStatus ledger.attempts "FAILED" = 0 ↔ ∀ e ∈ ledger.attempts, status e ≠ py "FAILED" := by
      simp [withStatus]
    have hlimits : ledger.WithinLimits (get (.obj receipt) "tokens") (get (.obj receipt) "money") (get (.obj receipt) "elapsed_ms") ↔
        ledger.WithinLimits r.tokens r.money inputs.elapsedMs := by
      rw [htokens, hmoney, hms]
      exact withinLimits_sortKeys htokensLegible.uniqueKeys hmoneyLegible.uniqueKeys
    have hpriced : (get (.obj receipt) "price_evidence").truthy = inputs.priceEvidence.truthy := by
      rw [hevidence]
      exact truthy_of_sameJson (sortKeys_sortKeys _)
    have hpass : (get (.obj receipt) "terminal_status").isStr "PASS" = true ↔ terminalStatus
        (ledger.violations r.tokens r.money r.runtime inputs.priceEvidence.truthy) (withStatus ledger.attempts "FAILED") = py "PASS" := by
      rw [hterminal]
      simp [Json.isStr]
    rw [hpass, terminalStatus_pass_iff, hviolations, hinfrastructure, hlimits, hpriced]
    have hevents : (∀ e ∈ ledger.events, status e ≠ py "REJECTED" ∧ status e ≠ py "FAILED") ↔
        (∀ e ∈ ledger.events, status e ≠ py "REJECTED") ∧ ∀ e ∈ ledger.attempts, status e ≠ py "FAILED" := by
      have hapart : py "FAILED" ≠ py "REJECTED" := by decide +kernel
      constructor
      · exact fun h => ⟨fun e he => (h e he).1, fun e he => (h e (ledger.mem_attempts.mp he).1).2⟩
      · rintro ⟨hrejected, hfailed⟩ e he
        exact ⟨hrejected e he, hfailed e (ledger.mem_attempts.mpr ⟨he, hrejected e he⟩)⟩
    rw [hevents]
    constructor
    · rintro ⟨⟨hl, hp, hr⟩, hf⟩
      exact ⟨⟨hr, hf⟩, hl, hp⟩
    · rintro ⟨⟨hr, hf⟩, hl, hp⟩
      exact ⟨⟨hl, hp, hr⟩, hf⟩

end Document

section Sample

open Python.Whole

theorem exactOn_zeros {values : List Json} (h : ∀ v ∈ values, amount v = 0) : ExactOn values := by
  intro l hl
  have hzero : l.map amount = List.replicate l.length 0 :=
    List.eq_replicate_iff.mpr ⟨List.length_map _, fun x hx => by
      obtain ⟨v, hv, rfl⟩ := List.mem_map.mp hx
      exact h v (hl.subset hv)⟩
  rw [hzero, List.sum_replicate, nsmul_zero]
  exact congrArg PyFloat.finite (by norm_num)

example : amount (.int 2) = 2 := by decide +kernel

theorem receipt_arithmetic_sample : ∃ receipt, sampleLedger.receipt sampleInputs = .ok receipt ∧
    asInt (get (.obj receipt) "search_attempted") =
      asInt (get (.obj receipt) "search_succeeded") + asInt (get (.obj receipt) "search_failed") := by
  obtain ⟨receipt, h⟩ := exists_sampleReceipt
  have hmoney : ∀ v ∈ sampleLedger.attempts.map moneyOf, amount v = 0 := by decide +kernel
  exact ⟨receipt, h, (receipt_arithmetic legible_sampleInputs (exactOn_zeros hmoney) h).1⟩

def limitsDigest : PyStr := "85af711fd20eea30000be8aeff754f212bf87dedb608a65b436b9fab619fd03d"

def economicA0Digest : PyStr := "e70622c4412a38d0d9dd8b5df1962995df99e2dbac9c86ba52db739cdbf474e9"

def economicDigest : PyStr := "c4fb7edbc8d1824b520c446e05b52d1c5dfd7e9763ec6cab864c5fa6c43268f3"

def economicSpecDigest : PyStr := "a59baecac11c8087806f3165e3a4f0a44b26ee1c0705a140c18b87652fa9ce84"

def economicResources : Json := .obj [
  ("automatic_retries", .int 1), ("budget_rejection_policy", .str "NO_BACKEND_NO_TICKET"),
  ("exhaustion_policy", .str "STOP_NO_EXPANSION"), ("failure_policy", .str "INFRASTRUCTURE_NOT_QUALITY"),
  ("manual_retry_policy", .str "FORBIDDEN"), ("max_follow_links", .int 0), ("max_results_per_call", .int 0),
  ("max_search_calls", .int 0), ("max_search_turns", .int 0), ("max_total_runtime_ms", sampleMeasure 5000 "ms"),
  ("money_ceiling", sampleMeasure 10 "USD"), ("resource_unit_definition", .str "request"),
  ("retry_policy", sampleRef "retry" zeroDigest), ("schema_id", .str "search-resource/v2"),
  ("search_unit", .str "RAW_BACKEND_ATTEMPT"), ("timeout_per_call_ms", .int 1000),
  ("token_ceiling", sampleMeasure 100 "tokens")]

def economicRetriever : Json := .obj [
  ("backend_id", .str "backend"), ("capabilities", .arr [.str "RETRIEVAL"]), ("class", .str "RAW_RETRIEVER"),
  ("config_fingerprint", .str zeroDigest), ("identity", sampleRef "retriever" zeroDigest),
  ("qualification", .null), ("request_schema", sampleRef "request" zeroDigest),
  ("result_schema", sampleRef "result" zeroDigest)]

def economicPackage : Json := .obj [
  ("accounting_period", .str "run"), ("basis", .str "MONEY"), ("billing_basis", .str "call"),
  ("cost_basis", .str "LIST_PRICE_EQUIVALENT"), ("currency", .str "USD"),
  ("definition", sampleRef "definition" zeroDigest), ("exchange_policy", sampleRef "exchange" zeroDigest),
  ("free_credit_policy", .str "none"), ("prepaid_credit_policy", .str "none"),
  ("price_source", sampleRef "prices" zeroDigest), ("rounding_policy", .str "none"),
  ("tax_policy", .str "none"), ("time_kinds", .arr [.str "MACHINE_ELAPSED", .str "OPERATOR_ACTIVE"]),
  ("unused_credit_policy", .str "none")]

def economicDisclosure : Json := .obj [
  ("capabilities", .arr []), ("components", .arr [sampleRef "system" zeroDigest]),
  ("human_intervention_policy", sampleRef "human" zeroDigest), ("money_source", sampleRef "money" zeroDigest),
  ("opaque_quantities", .arr []), ("retry_fallback_policy", sampleRef "retry" zeroDigest),
  ("time_source", sampleRef "clock" zeroDigest), ("tool_classes", .arr [])]

def economicOverlay : Json := .obj [
  ("collection_provenance", sampleRef "collection" zeroDigest), ("corpus", sampleRef "corpus" zeroDigest),
  ("index", sampleRef "index" zeroDigest), ("kind", .str "FROZEN"), ("public_safe", .bool true),
  ("reference_set", sampleRef "reference" zeroDigest),
  ("reproduction_procedure", sampleRef "procedure" zeroDigest)]

def economicA0 : Json := .obj [
  ("economic_success_criteria", .arr []), ("frozen", .bool true), ("origin", .str "HUMAN_MODEL_CO_DESIGN"),
  ("resource_fingerprint", .str limitsDigest), ("scope_fingerprint", .str scopeDigest), ("scored", .bool false),
  ("stop_on_signal", .arr [.str "done"]), ("task_fingerprint", .str taskDigest),
  ("task_hierarchy", .arr [.str "task"])]

def economicSpecFields : Fields := [
  ("a0", economicA0), ("a1", sampleA1), ("architecture_authority", .str "SEARCH-CUP/v2.3"),
  ("canonical_fingerprint", .str economicSpecDigest), ("claims", .arr [.str "OBSERVED_ECONOMIC_EFFICIENCY"]),
  ("created_at", .str "2026-07-01T00:00:00Z"), ("economic_package", economicPackage),
  ("fairness_mode", .str "F3"), ("frozen_at", .str "2026-07-02T00:00:00Z"),
  ("judgment_contract", sampleRef "contract" zeroDigest),
  ("metrics", .arr [
    .obj [
      ("denominator", .str "records"), ("exclusion_rule", .str "none"), ("metric_id", .str "metric"),
      ("missingness", .str "PRESERVE_TYPED_STATES"), ("numerator", .str "decided"),
      ("population", sampleRef "population" zeroDigest), ("zero_denominator", .str "NOT_EVALUABLE")]]),
  ("output_contract", sampleRef "output" zeroDigest), ("overlay", economicOverlay), ("privacy", samplePrivacy),
  ("resources", economicResources), ("retriever", economicRetriever), ("schema_id", .str "searchspec/v2"),
  ("scope", sampleScope), ("spec_id", .str "economic"), ("spec_status", .str "FROZEN"),
  ("spec_version", .str "1"), ("system_disclosure", economicDisclosure), ("task", sampleTask),
  ("track_id", .str "ECONOMIC_TRACK"),
  ("variable_control", .obj [
    ("changed_capabilities", .arr []),
    ("fixed", .obj [
      ("a0", .str economicA0Digest), ("disclosure_standard", .str zeroDigest),
      ("economic_package", .str economicDigest), ("judgment", .str zeroDigest), ("output", .str zeroDigest),
      ("scope", .str scopeDigest), ("task", .str taskDigest)]),
    ("fixed_capabilities", .obj []), ("principal", .str "SYSTEM_RESOURCE_PACKAGE"),
    ("qualified_nuisance", .arr [])])]

def economicSpec : Json := .obj economicSpecFields

set_option maxRecDepth 4000 in
/-- What evaluation finds of the declaration, once its literals are read. -/
theorem economicSpec_evaluated : ∀ fields, fields = economicSpecFields →
    plainLiteral (.obj fields) = true ∧ asciiHex (render (.obj (unsealed fields))) = some economicSpecDigest ∧
      validateContract searchSpecSchema (.obj fields) = .ok () ∧ checkBindings (.obj fields) = .ok () ∧
      checkControls (.obj fields) = .ok () ∧ checkTrack (.obj fields) = .ok () ∧ checkPackages (.obj fields) = .ok () := by
  intro fields h
  simp only [economicSpecFields, sampleTask, sampleScope, economicResources, economicA0, sampleA1, samplePrivacy,
    economicOverlay, economicPackage, economicDisclosure, economicRetriever, sampleRef, sampleMeasure, taskDigest,
    scopeDigest, limitsDigest, economicA0Digest, economicDigest, economicSpecDigest, zeroDigest] at h
  repeat rw [py_ofList] at h
  simp only [List.map_cons, List.map_nil, Char.reduceToNat] at h
  subst h
  decide +kernel

theorem economicSpec_plain : PlainLiteral economicSpec := plain_of_literal (economicSpec_evaluated _ rfl).1

theorem economicSpec_valid : validateSearchSpec economicSpec = .ok () :=
  validateSearchSpec_of_literal rfl (economicSpec_evaluated _ rfl)

/-- A declaration that compares resources. -/
def economicDeclaration : SearchSpecV2 := SearchSpecV2.ofMapping economicSpec economicSpec_plain.legible rfl
  economicSpec_plain.printable economicSpec_plain.shallow economicSpec_valid

theorem economicLedger_read : readLedger economicDeclaration (.str (py "run")) (py "[]") = .ok [] := by
  have hrun : Fits textSchema (.str (py "run")) := by
    rw [textSchema, Fits]
    exact ⟨_, rfl, by decide +kernel, by decide +kernel⟩
  rw [readLedger_eq_ok_iff]
  exact ⟨rfl, hrun, privateText_of_quickSafe (by decide +kernel), rfl, rfl, .nil⟩

/-- An empty ledger of that declaration. -/
def economicLedger : ResourceLedger where
  spec := economicDeclaration
  runId := .str "run"
  eventsJson := "[]"
  events := []
  accepted := economicLedger_read

instance (observed ceiling : Json) : Decidable (Meets observed ceiling) :=
  inferInstanceAs (Decidable (_ → _ ∧ _))

/-- Without evidence of prices a run that keeps every limit is blocked all the same. -/
theorem receipt_unpriced : ∃ receipt, economicLedger.receipt sampleInputs = .ok receipt ∧
    ExactOn (economicLedger.attempts.map moneyOf) ∧
    (∀ e ∈ economicLedger.events, status e ≠ py "REJECTED" ∧ status e ≠ py "FAILED") ∧
    economicLedger.WithinLimits (get (.obj receipt) "tokens") (get (.obj receipt) "money") (get (.obj receipt) "elapsed_ms") ∧
    (get (.obj receipt) "terminal_status").isStr "PASS" = false := by
  have hrun : ((economicLedger.receipt sampleInputs).toOption.any fun receipt =>
      decide (Meets (get (.obj receipt) "tokens") (get economicResources "token_ceiling")) &&
      decide (Meets (get (.obj receipt) "money") (get economicResources "money_ceiling")) &&
      decide (amount (get (.obj receipt) "elapsed_ms") ≤ 5000) &&
      !(get (.obj receipt) "terminal_status").isStr "PASS") = true := by decide +kernel
  cases h : economicLedger.receipt sampleInputs with
  | error e =>
    rw [h] at hrun
    cases hrun
  | ok receipt =>
    rw [h] at hrun
    simp only [Except.toOption, Option.any_some, Bool.and_eq_true, decide_eq_true_eq, Bool.not_eq_true'] at hrun
    obtain ⟨⟨⟨htokens, hmoney⟩, hruntime⟩, hblocked⟩ := hrun
    have hceiling : amount (get (get economicLedger.spec.resources "max_total_runtime_ms") "value") = 5000 := by decide +kernel
    refine ⟨receipt, rfl, exactOn_zeros (by simp [ResourceLedger.attempts, economicLedger]), ?_, ?_, hblocked⟩
    · intro e he
      cases he
    · refine ⟨Nat.zero_le _, Nat.zero_le _, Nat.zero_le _, ?_, ?_, htokens, hmoney, fun _ => hceiling ▸ hruntime⟩
      · intro e he
        cases he
      · intro e he
        cases he

end Sample

end EvaluationLab.SearchCup
