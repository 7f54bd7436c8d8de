import EvaluationLab.Python.AsciiRuntime
import EvaluationLab.SearchCup.Competition
import EvaluationLab.SearchCup.FreezeThaw
import Mathlib.Algebra.BigOperators.Group.List.Lemmas
import Mathlib.Algebra.Order.BigOperators.Group.List
import Mathlib.Tactic.Linarith
import Mathlib.Tactic.Ring

/-! What an unfavourable change of one assessment does to the totals of a match. -/
namespace EvaluationLab.SearchCup
open Python Effect

/-- An unfavourable change of an assessment. -/
inductive Downgrade where
  | realOpen
  | practicalFit
  | geographyEligible
  | actionable
  | primarySource
  | fabricated
  | usOnly
  | seniorOrPhdMismatch
  deriving DecidableEq

/-- The assessment after the change. -/
def Downgrade.apply (a : RegistryLeadAssessment) : Downgrade → RegistryLeadAssessment
  | .realOpen => { a with realOpen := false }
  | .practicalFit => { a with practicalFit := false }
  | .geographyEligible => { a with geographyEligible := false }
  | .actionable => { a with actionable := false }
  | .primarySource => { a with primarySource := false }
  | .fabricated => { a with fabricated := true }
  | .usOnly => { a with usOnly := true }
  | .seniorOrPhdMismatch => { a with seniorOrPhdMismatch := true }

/-- The points of a judgment. -/
def LeadJudgment.points (j : LeadJudgment) : ℚ :=
  j.realOpenPoints + j.practicalFitPoints + j.noveltyPoints + j.geographyPoints + j.actionabilityPoints

section Leads

variable [PyRuntime] {lead : Lead} {a : RegistryLeadAssessment} {known applyNow : List PyStr}

theorem Downgrade.key_apply (d : Downgrade) (a : RegistryLeadAssessment) : (d.apply a).key = a.key := by
  cases d <;> rfl

/-- The penalties of a lead as one sum. -/
theorem sum_leadPenalties (lead : Lead) (a : RegistryLeadAssessment) (known : List PyStr) (m : ℚ) :
    ((leadPenalties lead a known).map fun p => p.1 * m).sum =
      (if a.realOpen = false ∧ lead.openStatus = py "OPEN" then 5 * m else 0) +
      (if a.usOnly = true ∧ ([py "world", py "europe", py "emea"].any fun term =>
        contains term (PyRuntime.lower lead.remoteScope)) = true then 8 * m else 0) +
      (if a.seniorOrPhdMismatch = true then 5 * m else 0) +
      (if urlKey lead.sourceUrl ∈ known ∧ lead.claimedNovel = true then 3 * m else 0) +
      (if a.primarySource = false ∨ lead.officialSource = false then 3 * m else 0) := by
  have hpart : ∀ (c : Prop) [Decidable c] (p : ℚ) (t : PyStr),
      ((if c then [(p, t)] else []).map fun p => p.1 * m).sum = if c then p * m else 0 := by
    intro c _ p t
    split_ifs
    · exact List.sum_singleton
    · rfl
  unfold leadPenalties
  dsimp only
  rw [List.map_append, List.map_append, List.map_append, List.map_append, List.sum_append, List.sum_append, List.sum_append,
    List.sum_append, hpart, hpart, hpart, hpart, hpart]

/-- A judgment that gives no more points than another, for no smaller penalty. -/
structure NoBetter (j j' : LeadJudgment) : Prop where
  realOpen : j'.realOpenPoints ≤ j.realOpenPoints
  practicalFit : j'.practicalFitPoints ≤ j.practicalFitPoints
  novelty : j'.noveltyPoints ≤ j.noveltyPoints
  geography : j'.geographyPoints ≤ j.geographyPoints
  actionability : j'.actionabilityPoints ≤ j.actionabilityPoints
  penalty : j.penalty ≤ j'.penalty

omit [PyRuntime] in
theorem NoBetter.refl (j : LeadJudgment) : NoBetter j j := ⟨le_rfl, le_rfl, le_rfl, le_rfl, le_rfl, le_rfl⟩

omit [PyRuntime] in
theorem ite_le_ite {c c' : Prop} [Decidable c] [Decidable c'] {x : ℚ} (hx : 0 ≤ x) (h : c → c') :
    (if c then x else 0) ≤ if c' then x else 0 := by
  by_cases hc : c
  · rw [if_pos hc, if_pos (h hc)]
  · rw [if_neg hc]
    split_ifs
    · exact hx
    · exact le_rfl

/-- No change but the mark of a fabricated lead improves a judgment. -/
theorem noBetter_leadJudgment {d : Downgrade} (hd : d ≠ .fabricated) :
    NoBetter (leadJudgment lead a known applyNow) (leadJudgment lead (d.apply a) known applyNow) := by
  have hmark : (d.apply a).fabricated = a.fabricated := by
    cases d with
    | fabricated => exact absurd rfl hd
    | _ => rfl
  by_cases hf : a.fabricated = true
  · have hsame : leadJudgment lead (d.apply a) known applyNow = leadJudgment lead a known applyNow := by
      unfold leadJudgment
      rw [if_pos (hmark.trans hf), if_pos hf]
    rw [hsame]
    exact NoBetter.refl _
  · have hf' : ¬(d.apply a).fabricated = true := by rwa [hmark]
    unfold leadJudgment
    rw [if_neg hf, if_neg hf']
    have hopen : (d.apply a).realOpen = true → a.realOpen = true := by
      cases d <;> first | exact id | exact fun h => nomatch h
    have hfit : (d.apply a).practicalFit = true → a.practicalFit = true := by
      cases d <;> first | exact id | exact fun h => nomatch h
    have hgeography : (d.apply a).geographyEligible = true → a.geographyEligible = true := by
      cases d <;> first | exact id | exact fun h => nomatch h
    have haction : (d.apply a).actionable = true → a.actionable = true := by
      cases d <;> first | exact id | exact fun h => nomatch h
    have hprimary : (d.apply a).primarySource = true → a.primarySource = true := by
      cases d <;> first | exact id | exact fun h => nomatch h
    have husOnly : a.usOnly = true → (d.apply a).usOnly = true := by
      cases d <;> first | exact id | exact fun _ => rfl
    have hsenior : a.seniorOrPhdMismatch = true → (d.apply a).seniorOrPhdMismatch = true := by
      cases d <;> first | exact id | exact fun _ => rfl
    have hnot : ∀ {b b' : Bool}, (b' = true → b = true) → b = false → b' = false := by
      intro b b' himp hb
      cases b' with
      | false => rfl
      | true => exact absurd (himp rfl) (by rw [hb]; exact Bool.false_ne_true)
    refine ⟨ite_le_ite (by norm_num) hopen, ite_le_ite (by norm_num) hfit, le_rfl, ite_le_ite (by norm_num) hgeography,
      ite_le_ite (by norm_num) haction, ?_⟩
    dsimp only
    have hm : (0 : ℚ) ≤ if decide (lead.sourceUrl ∈ applyNow) = true then 2 else 1 := by split_ifs <;> norm_num
    generalize (if decide (lead.sourceUrl ∈ applyNow) = true then 2 else 1 : ℚ) = m at hm
    rw [sum_leadPenalties, sum_leadPenalties]
    refine add_le_add (add_le_add (add_le_add (add_le_add ?_ ?_) ?_) le_rfl) ?_
    · exact ite_le_ite (by linarith) fun h => ⟨hnot hopen h.1, h.2⟩
    · exact ite_le_ite (by linarith) fun h => ⟨husOnly h.1, h.2⟩
    · exact ite_le_ite (by linarith) hsenior
    · exact ite_le_ite (by linarith) fun h => h.imp_left (hnot hprimary)

/-- The points of a judgment are at most 95, its penalty is not negative. -/
theorem leadJudgment_bounds : (leadJudgment lead a known applyNow).points ≤ 95 ∧
    0 ≤ (leadJudgment lead a known applyNow).penalty := by
  unfold leadJudgment
  by_cases hf : a.fabricated = true
  · rw [if_pos hf]
    norm_num [LeadJudgment.points]
  · rw [if_neg hf]
    have hle : ∀ (c : Prop) [Decidable c] (x : ℚ), 0 ≤ x → (if c then x else 0) ≤ x ∧ 0 ≤ if c then x else 0 := by
      intro c _ x hx
      split_ifs
      · exact ⟨le_rfl, hx⟩
      · exact ⟨hx, le_rfl⟩
    constructor
    · have hnovel : (if urlKey lead.sourceUrl ∈ known then (0 : ℚ) else 20) ≤ 20 := by split_ifs <;> norm_num
      have h1 := (hle (a.realOpen = true) 25 (by norm_num)).1
      have h2 := (hle (a.practicalFit = true) 25 (by norm_num)).1
      have h3 := (hle (a.geographyEligible = true) 15 (by norm_num)).1
      have h4 := (hle (a.actionable = true) 10 (by norm_num)).1
      unfold LeadJudgment.points
      dsimp only
      linarith
    · dsimp only
      have hm : (0 : ℚ) ≤ if decide (lead.sourceUrl ∈ applyNow) = true then 2 else 1 := by split_ifs <;> norm_num
      generalize (if decide (lead.sourceUrl ∈ applyNow) = true then 2 else 1 : ℚ) = m at hm
      rw [sum_leadPenalties]
      have h5 : 0 ≤ 5 * m := by linarith
      have h8 : 0 ≤ 8 * m := by linarith
      have h3 : 0 ≤ 3 * m := by linarith
      exact add_nonneg (add_nonneg (add_nonneg (add_nonneg (hle _ _ h5).2 (hle _ _ h8).2) (hle _ _ h5).2) (hle _ _ h3).2)
        (hle _ _ h3).2

end Leads

section Registry

variable [PyRuntime] {front back : List RegistryLeadAssessment} {a a' : RegistryLeadAssessment} {k : PyStr}

theorem assessmentFor_isSome_iff (items : List RegistryLeadAssessment) :
    (assessmentFor items k).isSome = true ↔ k ∈ items.map RegistryLeadAssessment.key := by
  induction items with
  | nil => simp [assessmentFor]
  | cons item items ih =>
    rw [assessmentFor, Option.isSome_or, Bool.or_eq_true, ih, List.map_cons, List.mem_cons, or_comm]
    split_ifs with h
    · simp [h]
    · simp [Ne.symm h]

/-- Replacing an assessment changes what is known of its own key, unless a later one overrules it. -/
theorem assessmentFor_replace (hkey : a'.key = a.key) (h : k ≠ a.key ∨ a.key ∈ back.map RegistryLeadAssessment.key) :
    assessmentFor (front ++ a' :: back) k = assessmentFor (front ++ a :: back) k := by
  induction front with
  | nil =>
    rw [List.nil_append, List.nil_append, assessmentFor, assessmentFor, hkey]
    by_cases hk : a.key = k
    · have hback := h.resolve_left fun hne => hne hk.symm
      rw [hk, ← assessmentFor_isSome_iff, Option.isSome_iff_exists] at hback
      obtain ⟨b, hb⟩ := hback
      rw [hb, Option.some_or, Option.some_or]
    · rw [if_neg hk, if_neg hk]
  | cons item items ih => rw [List.cons_append, List.cons_append, assessmentFor, assessmentFor, ih]

theorem assessmentFor_self (h : a.key ∉ back.map RegistryLeadAssessment.key) :
    assessmentFor (front ++ a :: back) a.key = some a := by
  induction front with
  | nil =>
    have hnone : assessmentFor back a.key = none := by
      rw [← Option.not_isSome_iff_eq_none, assessmentFor_isSome_iff]
      exact h
    rw [List.nil_append, assessmentFor, hnone, if_pos rfl, Option.none_or]
  | cons item items ih => rw [List.cons_append, assessmentFor, ih, Option.some_or]

/-- A snapshot with one assessment changed for the worse. -/
structure Changed (d : Downgrade) (front : List RegistryLeadAssessment) (a : RegistryLeadAssessment)
    (back : List RegistryLeadAssessment) (snapshot snapshot' : JudgeRegistrySnapshot) : Prop where
  before : snapshot.assessments = front ++ a :: back
  after : snapshot'.assessments = front ++ d.apply a :: back
  known : snapshot'.knownWellKeys = snapshot.knownWellKeys

variable {d : Downgrade} {snapshot snapshot' : JudgeRegistrySnapshot}

/-- A lead is judged as before, unless it has the key of the changed assessment and no later one overrules that. -/
theorem Changed.assessmentOf_eq (h : Changed d front a back snapshot snapshot') {lead : Lead}
    (hlead : urlKey lead.sourceUrl ≠ a.key ∨ a.key ∈ back.map RegistryLeadAssessment.key) :
    assessmentOf snapshot' lead = assessmentOf snapshot lead := by
  rw [assessmentOf, assessmentOf, h.before, h.after, assessmentFor_replace (d.key_apply a) hlead]

theorem Changed.assessmentOf_changed (h : Changed d front a back snapshot snapshot') {lead : Lead}
    (hlead : urlKey lead.sourceUrl = a.key) (hback : a.key ∉ back.map RegistryLeadAssessment.key) :
    assessmentOf snapshot lead = a ∧ assessmentOf snapshot' lead = d.apply a := by
  have hback' : (d.apply a).key ∉ back.map RegistryLeadAssessment.key := by rwa [d.key_apply]
  have hafter : assessmentFor (front ++ d.apply a :: back) (d.apply a).key = some (d.apply a) := assessmentFor_self hback'
  rw [d.key_apply] at hafter
  rw [assessmentOf, assessmentOf, h.before, h.after, hlead, assessmentFor_self hback, hafter]
  exact ⟨rfl, rfl⟩

end Registry

section Totals

variable [PyRuntime] {entrantId sha256 : PyStr} {submission : Submission} {judgments : List LeadJudgment}

omit [PyRuntime] in
theorem divisorOf_pos (judgments : List LeadJudgment) : 0 < divisorOf judgments := by
  unfold divisorOf
  split_ifs with h
  · exact one_pos
  · exact_mod_cast Nat.pos_of_ne_zero h

/-- What is clamped to a total. -/
def rawTotal (judgments : List LeadJudgment) (searchCalls : ℤ) : ℚ :=
  averageOf judgments LeadJudgment.points + efficiencyOf judgments searchCalls - averageOf judgments LeadJudgment.penalty

omit [PyRuntime] in
theorem total_scoreOf (entrantId sha256 : PyStr) (submission : Submission) (judgments : List LeadJudgment) :
    (scoreOf entrantId sha256 submission judgments).total = clampTotal (rawTotal judgments submission.searchCalls) := by
  have hsum : averageOf judgments LeadJudgment.points = averageOf judgments LeadJudgment.realOpenPoints +
      averageOf judgments LeadJudgment.practicalFitPoints + averageOf judgments LeadJudgment.noveltyPoints +
      averageOf judgments LeadJudgment.geographyPoints + averageOf judgments LeadJudgment.actionabilityPoints := by
    unfold averageOf LeadJudgment.points
    rw [List.sum_map_add, List.sum_map_add, List.sum_map_add, List.sum_map_add, add_div, add_div, add_div, add_div]
  rw [rawTotal, hsum]
  rfl

omit [PyRuntime] in
theorem efficiencyOf_mono {judgments judgments' : List LeadJudgment} {searchCalls : ℤ}
    (h : judgments'.countP (fun j => 0 < j.realOpenPoints ∧ 0 < j.actionabilityPoints) ≤
      judgments.countP fun j => 0 < j.realOpenPoints ∧ 0 < j.actionabilityPoints) :
    efficiencyOf judgments' searchCalls ≤ efficiencyOf judgments searchCalls := by
  have hcalls : (0 : ℚ) < (max 1 searchCalls : ℤ) := by exact_mod_cast lt_of_lt_of_le one_pos (le_max_left _ _)
  have hcount : (judgments'.countP (fun j => 0 < j.realOpenPoints ∧ 0 < j.actionabilityPoints) : ℚ) ≤
      (judgments.countP fun j => 0 < j.realOpenPoints ∧ 0 < j.actionabilityPoints : ℕ) := by exact_mod_cast h
  unfold efficiencyOf
  have hratio := min_le_min (le_refl (1 : ℚ)) (div_le_div_of_nonneg_right hcount hcalls.le)
  exact mul_le_mul_of_nonneg_left hratio (by norm_num)

omit [PyRuntime] in
theorem averageOf_mono {leads : List Lead} {f f' : Lead → LeadJudgment} {g : LeadJudgment → ℚ}
    (h : ∀ lead ∈ leads, g (f' lead) ≤ g (f lead)) : averageOf (leads.map f') g ≤ averageOf (leads.map f) g := by
  have hdivisor : divisorOf (leads.map f') = divisorOf (leads.map f) := by
    rw [divisorOf, divisorOf, List.length_map, List.length_map]
  rw [averageOf, averageOf, hdivisor, List.map_map, List.map_map]
  exact div_le_div_of_nonneg_right (List.sum_le_sum h) (divisorOf_pos _).le

omit [PyRuntime] in
/-- Judgments that are no better give no higher total. -/
theorem rawTotal_mono {leads : List Lead} {f f' : Lead → LeadJudgment} {searchCalls : ℤ}
    (h : ∀ lead ∈ leads, NoBetter (f lead) (f' lead)) :
    rawTotal (leads.map f') searchCalls ≤ rawTotal (leads.map f) searchCalls := by
  have hpoints : averageOf (leads.map f') LeadJudgment.points ≤ averageOf (leads.map f) LeadJudgment.points := by
    apply averageOf_mono
    intro lead hlead
    have hl := h lead hlead
    have h1 := hl.realOpen
    have h2 := hl.practicalFit
    have h3 := hl.novelty
    have h4 := hl.geography
    have h5 := hl.actionability
    unfold LeadJudgment.points
    linarith
  have hpenalty : averageOf (leads.map f) LeadJudgment.penalty ≤ averageOf (leads.map f') LeadJudgment.penalty :=
    averageOf_mono fun lead hlead => (h lead hlead).penalty
  have hefficiency : efficiencyOf (leads.map f') searchCalls ≤ efficiencyOf (leads.map f) searchCalls := by
    apply efficiencyOf_mono
    rw [List.countP_map, List.countP_map]
    apply List.countP_mono_left
    intro lead hlead hvalid
    have hl := h lead hlead
    simp only [Function.comp_apply, decide_eq_true_eq] at hvalid ⊢
    exact ⟨lt_of_lt_of_le hvalid.1 hl.realOpen, lt_of_lt_of_le hvalid.2 hl.actionability⟩
  unfold rawTotal
  linarith

omit [PyRuntime] in
theorem clampTotal_mono {x y : ℚ} (h : x ≤ y) : clampTotal x ≤ clampTotal y :=
  max_le_max le_rfl (min_le_min le_rfl h)

omit [PyRuntime] in
theorem clampTotal_le_iff {x y : ℚ} (hx : x ≤ 100) (hy : y ≤ 100) :
    clampTotal x ≤ clampTotal y ↔ clampTotal x = 0 ∨ x ≤ y := by
  rw [clampTotal, clampTotal, min_eq_right hx, min_eq_right hy]
  constructor
  · intro h
    rcases le_or_gt x 0 with h0 | h0
    · exact .inl (max_eq_left h0)
    · rw [max_eq_right h0.le, le_max_iff] at h
      exact .inr (h.resolve_left (not_le.mpr h0))
  · rintro (h | h)
    · rw [h]
      exact le_max_left _ _
    · exact max_le_max le_rfl h

omit [PyRuntime] in
theorem rawTotal_le {leads : List Lead} {f : Lead → LeadJudgment} {searchCalls : ℤ}
    (h : ∀ lead, (f lead).points ≤ 95 ∧ 0 ≤ (f lead).penalty) : rawTotal (leads.map f) searchCalls ≤ 100 := by
  have hpos := divisorOf_pos (leads.map f)
  have hpoints : averageOf (leads.map f) LeadJudgment.points ≤ 95 := by
    have hsum : ((leads.map f).map LeadJudgment.points).sum ≤ (leads.length : ℚ) * 95 := by
      rw [List.map_map]
      have hle := List.sum_le_sum fun lead (_ : lead ∈ leads) => (h lead).1
      rw [List.map_const', List.sum_replicate, nsmul_eq_mul] at hle
      exact hle
    have hlength : (leads.length : ℚ) ≤ divisorOf (leads.map f) := by
      unfold divisorOf
      rw [List.length_map]
      split_ifs with h0
      · rw [h0]
        norm_num
      · exact le_rfl
    rw [averageOf, div_le_iff₀ hpos]
    linarith
  have hpenalty : 0 ≤ averageOf (leads.map f) LeadJudgment.penalty := by
    apply div_nonneg _ hpos.le
    apply List.sum_nonneg
    intro x hx
    obtain ⟨j, hj, rfl⟩ := List.mem_map.mp hx
    obtain ⟨lead, -, rfl⟩ := List.mem_map.mp hj
    exact (h lead).2
  have hefficiency : efficiencyOf (leads.map f) searchCalls ≤ 5 := by
    unfold efficiencyOf
    have hmin := min_le_left (1 : ℚ) (((leads.map f).countP fun j => 0 < j.realOpenPoints ∧ 0 < j.actionabilityPoints : ℕ) /
      (max 1 searchCalls : ℤ))
    linarith
  unfold rawTotal
  linarith

/-- The part of an average that the leads of one key make up. -/
def shareOf (key : PyStr) (judgments : List LeadJudgment) (g : LeadJudgment → ℚ) : ℚ :=
  ((judgments.filter fun j => urlKey j.sourceUrl = key).map g).sum / divisorOf judgments

/-- An average loses the share of the leads that are cleared. -/
theorem averageOf_cleared {leads : List Lead} {f f' : Lead → LeadJudgment} {g : LeadJudgment → ℚ} {key : PyStr}
    (hurl : ∀ lead, (f lead).sourceUrl = lead.sourceUrl)
    (hcleared : ∀ lead, urlKey lead.sourceUrl = key → g (f' lead) = 0)
    (hkept : ∀ lead, urlKey lead.sourceUrl ≠ key → g (f' lead) = g (f lead)) :
    averageOf (leads.map f') g = averageOf (leads.map f) g - shareOf key (leads.map f) g := by
  have hdivisor : divisorOf (leads.map f') = divisorOf (leads.map f) := by
    rw [divisorOf, divisorOf, List.length_map, List.length_map]
  have hsum : ((leads.map f').map g).sum =
      ((leads.map f).map g).sum - (((leads.map f).filter fun j => urlKey j.sourceUrl = key).map g).sum := by
    induction leads with
    | nil => simp
    | cons lead leads ih =>
      simp only [List.map_cons, List.sum_cons]
      rw [ih (by rw [divisorOf, divisorOf, List.length_map, List.length_map])]
      by_cases hk : urlKey lead.sourceUrl = key
      · rw [List.filter_cons_of_pos (by rw [hurl]; exact decide_eq_true hk), List.map_cons, List.sum_cons, hcleared lead hk]
        ring
      · rw [List.filter_cons_of_neg (by rw [hurl]; simpa using hk), hkept lead hk]
        ring
  rw [averageOf, averageOf, shareOf, hdivisor, hsum, sub_div]

end Totals

section Publication

variable [PyRuntime] {entrantId sha256 registryFingerprint : PyStr} {submission : Submission} {judgments : List LeadJudgment}

/-- A score that can be written in a report. -/
structure CompetitionScore.Publishable (s : CompetitionScore) : Prop where
  counts : intPrintable s.behavior.leadCount = true ∧ intPrintable s.behavior.searchCalls = true
  texts : ∀ t ∈ [s.entrantId, s.provider, s.exactModelId, s.submissionSha256, s.behavior.entrantId], encodable t = true
  judgments : ∀ j ∈ s.judgments, encodable j.sourceUrl = true ∧ ∀ r ∈ j.reasons, encodable r = true

theorem LeadJudgment.printable_toJson (j : LeadJudgment) : intsPrintable j.toJson = true := by
  rw [LeadJudgment.toJson, intsPrintable_obj]
  simp only [List.all_cons, List.all_nil, intsPrintable_textArray]
  rfl

theorem LeadJudgment.encodable_toJson {j : LeadJudgment} : (Python.texts j.toJson).all encodable = true ↔
    encodable j.sourceUrl = true ∧ ∀ r ∈ j.reasons, encodable r = true := by
  rw [LeadJudgment.toJson, all_texts_obj (by simp only [List.map_cons, List.map_nil]; decide +kernel)]
  simp only [List.map_cons, List.map_nil, List.forall_mem_cons, all_texts_textArray]
  simp only [Python.texts, reported, List.all_cons, List.all_nil, Bool.and_true, List.not_mem_nil, false_implies, implies_true,
    true_and, and_true]

theorem CompetitionScore.publishable_iff {s : CompetitionScore} :
    s.Publishable ↔ intsPrintable s.toJson = true ∧ (Python.texts s.toJson).all encodable = true := by
  have hprint : intsPrintable s.toJson = true ↔ intPrintable s.behavior.leadCount = true ∧
      intPrintable s.behavior.searchCalls = true := by
    have hjudgments : intsPrintable (.arr (s.judgments.map LeadJudgment.toJson)) = true := by
      rw [intsPrintable_arr, List.all_eq_true, List.forall_mem_map]
      exact fun j _ => j.printable_toJson
    have hstr : ∀ t, intsPrintable (.str t) = true := fun _ => rfl
    have hreported : ∀ q, intsPrintable (reported q) = true := fun _ => rfl
    have hint : ∀ n : ℤ, intsPrintable (.int n) = intPrintable n := fun n => by rw [intsPrintable]
    have hbehavior : intsPrintable s.behavior.toJson = (intPrintable s.behavior.leadCount && intPrintable s.behavior.searchCalls) := by
      rw [SearchBehaviorProfile.toJson, intsPrintable_obj]
      simp only [List.all_cons, List.all_nil, hstr, hreported, hint, Bool.true_and, Bool.and_true]
    rw [CompetitionScore.toJson, intsPrintable_obj]
    simp only [List.all_cons, List.all_nil, hjudgments, hbehavior, hstr, hreported, Bool.true_and, Bool.and_true]
    rw [Bool.and_eq_true]
  have htexts : (Python.texts s.toJson).all encodable = true ↔
      (∀ t ∈ [s.entrantId, s.provider, s.exactModelId, s.submissionSha256, s.behavior.entrantId], encodable t = true) ∧
      ∀ j ∈ s.judgments, encodable j.sourceUrl = true ∧ ∀ r ∈ j.reasons, encodable r = true := by
    have hjudgments : (Python.texts (.arr (s.judgments.map LeadJudgment.toJson))).all encodable = true ↔
        ∀ j ∈ s.judgments, encodable j.sourceUrl = true ∧ ∀ r ∈ j.reasons, encodable r = true := by
      rw [Python.texts, all_itemTexts, List.forall_mem_map]
      simp only [LeadJudgment.encodable_toJson]
    have hbehavior : (Python.texts s.behavior.toJson).all encodable = true ↔ encodable s.behavior.entrantId = true := by
      rw [SearchBehaviorProfile.toJson, all_texts_obj (by simp only [List.map_cons, List.map_nil]; decide +kernel)]
      simp only [List.map_cons, List.map_nil, List.forall_mem_cons, Python.texts, reported, List.all_cons, List.all_nil,
        Bool.and_true, List.not_mem_nil, false_implies, implies_true, and_true]
    rw [CompetitionScore.toJson, all_texts_obj (by simp only [List.map_cons, List.map_nil]; decide +kernel)]
    simp only [List.map_cons, List.map_nil, List.forall_mem_cons, hjudgments, hbehavior]
    simp only [Python.texts, reported, List.all_cons, List.all_nil, Bool.and_true, List.not_mem_nil, false_implies, implies_true,
      true_and, and_true]
    constructor
    · rintro ⟨h1, h2, h3, h4, hj, hb⟩
      exact ⟨⟨h1, h2, h3, h4, hb⟩, hj⟩
    · rintro ⟨⟨h1, h2, h3, h4, hb⟩, hj⟩
      exact ⟨h1, h2, h3, h4, hj, hb⟩
  rw [hprint, htexts]
  exact ⟨fun h => ⟨h.counts, h.texts, h.judgments⟩, fun h => ⟨h.1, h.2.1, h.2.2⟩⟩

/-- A report can be published when its texts can be encoded and its scores can be written. -/
theorem hashable_reportPayload_iff {run : MatchRun} {scores : List CompetitionScore} :
    Hashable (reportPayload run registryFingerprint scores) ↔
      (∀ t ∈ [run.competitionId, run.candidateFingerprint, run.competitionFingerprint, registryFingerprint],
        encodable t = true) ∧ ∀ s ∈ scores, s.Publishable := by
  have hprint : intsPrintable (reportPayload run registryFingerprint scores) = true ↔
      ∀ s ∈ scores, intsPrintable s.toJson = true := by
    rw [reportPayload, intsPrintable_obj]
    simp only [List.all_cons, List.all_nil, intsPrintable_arr, List.all_map]
    simp only [intsPrintable, Bool.true_and, Bool.and_true, List.all_eq_true, Function.comp_apply]
  have htexts : (Python.texts (reportPayload run registryFingerprint scores)).all encodable = true ↔
      (∀ t ∈ [run.competitionId, run.candidateFingerprint, run.competitionFingerprint, registryFingerprint],
        encodable t = true) ∧ ∀ s ∈ scores, (Python.texts s.toJson).all encodable = true := by
    rw [reportPayload, all_texts_obj (by simp only [List.map_cons, List.map_nil]; decide +kernel)]
    simp only [List.map_cons, List.map_nil, List.forall_mem_cons]
    simp only [Python.texts, all_itemTexts, List.forall_mem_map, List.all_cons, List.all_nil, Bool.and_true, List.not_mem_nil,
      false_implies, implies_true, and_true, and_assoc]
  rw [Hashable, encodable_render, hprint, htexts]
  simp only [CompetitionScore.publishable_iff]
  constructor
  · rintro ⟨hp, ht, hs⟩
    exact ⟨ht, fun s hm => ⟨hp s hm, hs s hm⟩⟩
  · rintro ⟨ht, hs⟩
    exact ⟨fun s hm => (hs s hm).1, ht, fun s hm => (hs s hm).2⟩

/-- The reasons of a judgment are the judge's own texts. -/
theorem encodable_reasons (lead : Lead) (a : RegistryLeadAssessment) (known applyNow : List PyStr) :
    ∀ r ∈ (leadJudgment lead a known applyNow).reasons, encodable r = true := by
  have hpart : ∀ (c : Prop) [Decidable c] (p : ℚ) (t : PyStr), encodable t = true →
      ∀ r ∈ (if c then [(p, t)] else []).map Prod.snd, encodable r = true := by
    intro c _ p t ht r hr
    split_ifs at hr
    · rw [List.map_singleton, List.mem_singleton] at hr
      rw [hr]
      exact ht
    · cases hr
  unfold leadJudgment
  dsimp only
  by_cases h : a.fabricated = true
  · rw [if_pos h, List.forall_mem_singleton]
    decide +kernel
  · rw [if_neg h]
    unfold leadPenalties
    dsimp only
    simp only [List.map_append, List.forall_mem_append]
    exact ⟨⟨⟨⟨hpart _ _ _ (by decide +kernel), hpart _ _ _ (by decide +kernel)⟩, hpart _ _ _ (by decide +kernel)⟩,
      hpart _ _ _ (by decide +kernel)⟩, hpart _ _ _ (by decide +kernel)⟩

end Publication

section Match

variable [PyRuntime] {run : MatchRun} {snapshot snapshot' : JudgeRegistrySnapshot} {report report' : CompetitionReport}
  {d : Downgrade} {front back : List RegistryLeadAssessment} {a : RegistryLeadAssessment}

/-- The scores of one submission before and after an unfavourable change of an assessment, which `overruled` says a later
assessment of the same key overrules. -/
structure Rescored (d : Downgrade) (key : PyStr) (overruled : Prop) (s s' : CompetitionScore) : Prop where
  entrant : s'.entrantId = s.entrantId ∧ s'.submissionSha256 = s.submissionSha256
  apart : (∀ j ∈ s.judgments, urlKey j.sourceUrl ≠ key) ∨ overruled → s'.total = s.total
  lower : d ≠ .fabricated → s'.total ≤ s.total
  fabricated : d = .fabricated → ¬overruled → (s'.total ≤ s.total ↔ s'.total = 0 ∨
    shareOf key s.judgments LeadJudgment.penalty ≤
      shareOf key s.judgments LeadJudgment.points + (s.searchEfficiency - s'.searchEfficiency))

theorem leadJudgment_sourceUrl (lead : Lead) (a : RegistryLeadAssessment) (known applyNow : List PyStr) :
    (leadJudgment lead a known applyNow).sourceUrl = lead.sourceUrl := by
  unfold leadJudgment
  dsimp only
  by_cases h : a.fabricated = true
  · rw [if_pos h]
  · rw [if_neg h]

/-- A fabricated lead has neither points nor a penalty. -/
theorem leadJudgment_fabricated {lead : Lead} (known applyNow : List PyStr) (h : a.fabricated = true) :
    (leadJudgment lead a known applyNow).points = 0 ∧ (leadJudgment lead a known applyNow).penalty = 0 := by
  unfold leadJudgment
  dsimp only
  rw [if_pos h]
  norm_num [LeadJudgment.points]

/-- What the change does to the score of a submission. -/
theorem rescored (h : Changed d front a back snapshot snapshot') (entrantId sha256 : PyStr) (submission : Submission) :
    Rescored d a.key (a.key ∈ back.map RegistryLeadAssessment.key)
      (scoreOf entrantId sha256 submission (judgmentsOf submission snapshot))
      (scoreOf entrantId sha256 submission (judgmentsOf submission snapshot')) where
  entrant := ⟨rfl, rfl⟩
  apart := by
    intro happart
    have hsame : judgmentsOf submission snapshot' = judgmentsOf submission snapshot := by
      unfold judgmentsOf
      apply List.map_congr_left
      intro lead hlead
      rw [h.known, h.assessmentOf_eq]
      refine happart.imp_left fun hall => ?_
      have hne := hall _ (List.mem_map_of_mem hlead)
      rwa [leadJudgment_sourceUrl] at hne
    rw [hsame]
  lower := by
    intro hd
    rw [total_scoreOf, total_scoreOf]
    apply clampTotal_mono
    apply rawTotal_mono
    intro lead _
    rw [h.known]
    by_cases hlead : urlKey lead.sourceUrl ≠ a.key ∨ a.key ∈ back.map RegistryLeadAssessment.key
    · rw [h.assessmentOf_eq hlead]
      exact NoBetter.refl _
    · rw [not_or, not_not] at hlead
      obtain ⟨hbefore, hafter⟩ := h.assessmentOf_changed hlead.1 hlead.2
      rw [hbefore, hafter]
      exact noBetter_leadJudgment hd
  fabricated := by
    rintro rfl hback
    have hbound : ∀ snapshot, rawTotal (judgmentsOf submission snapshot) submission.searchCalls ≤ 100 :=
      fun _ => rawTotal_le fun _ => leadJudgment_bounds
    have hcleared : ∀ lead : Lead, urlKey lead.sourceUrl = a.key →
        (leadJudgment lead (assessmentOf snapshot' lead) snapshot'.knownWellKeys submission.applyNowUrls).points = 0 ∧
        (leadJudgment lead (assessmentOf snapshot' lead) snapshot'.knownWellKeys submission.applyNowUrls).penalty = 0 := by
      intro lead hlead
      rw [(h.assessmentOf_changed hlead hback).2]
      exact leadJudgment_fabricated _ _ rfl
    have hkept : ∀ lead : Lead, urlKey lead.sourceUrl ≠ a.key →
        leadJudgment lead (assessmentOf snapshot' lead) snapshot'.knownWellKeys submission.applyNowUrls =
          leadJudgment lead (assessmentOf snapshot lead) snapshot.knownWellKeys submission.applyNowUrls := by
      intro lead hlead
      rw [h.known, h.assessmentOf_eq (.inl hlead)]
    have hshare : ∀ g : LeadJudgment → ℚ, (∀ lead : Lead, urlKey lead.sourceUrl = a.key →
          g (leadJudgment lead (assessmentOf snapshot' lead) snapshot'.knownWellKeys submission.applyNowUrls) = 0) →
        averageOf (judgmentsOf submission snapshot') g = averageOf (judgmentsOf submission snapshot) g -
          shareOf a.key (judgmentsOf submission snapshot) g := by
      intro g hg
      exact averageOf_cleared (fun lead => leadJudgment_sourceUrl lead _ _ _) hg fun lead hlead => by rw [hkept lead hlead]
    have hpoints := hshare LeadJudgment.points fun lead hlead => (hcleared lead hlead).1
    have hpenalty := hshare LeadJudgment.penalty fun lead hlead => (hcleared lead hlead).2
    rw [total_scoreOf, total_scoreOf, clampTotal_le_iff (hbound _) (hbound _)]
    apply or_congr_right
    show _ ↔ shareOf a.key (judgmentsOf submission snapshot) LeadJudgment.penalty ≤
      shareOf a.key (judgmentsOf submission snapshot) LeadJudgment.points +
        (efficiencyOf (judgmentsOf submission snapshot) submission.searchCalls -
          efficiencyOf (judgmentsOf submission snapshot') submission.searchCalls)
    rw [rawTotal, rawTotal, hpoints, hpenalty]
    constructor
    · intro hle
      linarith
    · intro hle
      linarith

theorem judgeMatch_eq_ok_iff : judgeMatch run snapshot = .ok report ↔
    (run.entrantExecutionClosed = true ∧ run.allFrozen = true ∧ snapshot.verify = .ok ()) ∧
    ∃ scores, run.frozenOutcomes.mapM (scoreOutcome snapshot) = .ok scores ∧
      Hashable (reportPayload run snapshot.fingerprint (scores.insertionSort scoreLe)) ∧
      report = ⟨run.competitionId, run.candidateFingerprint, run.competitionFingerprint, snapshot.fingerprint,
        scores.insertionSort scoreLe,
        textDigest (render (reportPayload run snapshot.fingerprint (scores.insertionSort scoreLe)))⟩ := by
  unfold judgeMatch HiddenRegistryGate.open
  simp only [bind_eq_ok_iff, exists_unit_iff, check_eq_ok_iff, pure_eq_ok_iff, fingerprint_eq_ok_iff]
  constructor
  · rintro ⟨hgate, scores, hscores, _, ⟨hhash, rfl⟩, rfl⟩
    exact ⟨hgate, scores, hscores, hhash, rfl⟩
  · rintro ⟨hgate, scores, hscores, hhash, rfl⟩
    exact ⟨hgate, scores, hscores, _, ⟨hhash, rfl⟩, rfl⟩

theorem encodable_textDigest (text : PyStr) : encodable (textDigest text) = true := by
  apply encodable_of_ascii
  intro c hc
  have hhex := isHex_of_isHex64 (isHex64_textDigest text) c hc
  simp only [isHex, isAsciiDigit, Bool.or_eq_true, Bool.and_eq_true, decide_eq_true_eq] at hhex
  omega

theorem verify_iff : snapshot.verify = .ok () ↔ Hashable snapshot.payload ∧ snapshot.fingerprint = textDigest (render snapshot.payload) := by
  unfold JudgeRegistrySnapshot.verify
  simp only [bind_eq_ok_iff, check_eq_ok_iff, fingerprint_eq_ok_iff]
  constructor
  · rintro ⟨_, ⟨hhash, rfl⟩, heq⟩
    exact ⟨hhash, heq.symm⟩
  · rintro ⟨hhash, heq⟩
    exact ⟨_, ⟨hhash, rfl⟩, heq.symm⟩

theorem scoreOutcome_eq_ok_iff {outcome : EntrantOutcome} {s : CompetitionScore} : scoreOutcome snapshot outcome = .ok s ↔
    ∃ frozen submission, outcome.frozenSubmission = some frozen ∧ frozen.thawVerified = .ok submission ∧
      s = scoreOf outcome.entrantId frozen.sha256 submission (judgmentsOf submission snapshot) := by
  unfold scoreOutcome
  cases outcome.frozenSubmission with
  | none => simp [bind_eq_ok_iff]
  | some frozen =>
    simp only [bind_eq_ok_iff, pure_eq_ok_iff, exists_eq_left', Option.some.injEq, exists_and_left]
    constructor
    · rintro ⟨submission, hthaw, rfl⟩
      exact ⟨submission, hthaw, rfl⟩
    · rintro ⟨submission, hthaw, rfl⟩
      exact ⟨submission, hthaw, rfl⟩

/-- Whether a score can be written does not depend on the registry. -/
theorem publishable_scoreOf {entrantId sha256 : PyStr} {submission : Submission}
    (h : (scoreOf entrantId sha256 submission (judgmentsOf submission snapshot)).Publishable) (snapshot' : JudgeRegistrySnapshot) :
    (scoreOf entrantId sha256 submission (judgmentsOf submission snapshot')).Publishable := by
  obtain ⟨⟨hcount, hcalls⟩, htexts, hjudgments⟩ := h
  refine ⟨⟨?_, hcalls⟩, htexts, ?_⟩
  · have hlength : (judgmentsOf submission snapshot').length = (judgmentsOf submission snapshot).length := by
      rw [judgmentsOf, judgmentsOf, List.length_map, List.length_map]
    show intPrintable ((judgmentsOf submission snapshot').length : ℤ) = true
    rw [hlength]
    exact hcount
  · intro j hj
    obtain ⟨lead, hlead, rfl⟩ := List.mem_map.mp hj
    have hurl := (hjudgments _ (List.mem_map_of_mem hlead)).1
    rw [leadJudgment_sourceUrl] at hurl ⊢
    exact ⟨hurl, encodable_reasons _ _ _ _⟩

/-- An unfavourable change of one assessment, and the totals of a match judged before and after it. -/
theorem judgeMatch_downgrade (h : Changed d front a back snapshot snapshot') (hverify : snapshot'.verify = .ok ())
    (hbefore : judgeMatch run snapshot = .ok report) :
    ∃ report' scores scores', judgeMatch run snapshot' = .ok report' ∧ scores.Perm report.scores ∧
      scores'.Perm report'.scores ∧
      List.Forall₂ (Rescored d a.key (a.key ∈ back.map RegistryLeadAssessment.key)) scores scores' := by
  obtain ⟨⟨hclosed, hfrozen, -⟩, scores, hscores, hhash, rfl⟩ := judgeMatch_eq_ok_iff.mp hbefore
  obtain ⟨htexts, hpublish⟩ := hashable_reportPayload_iff.mp hhash
  obtain ⟨scores', hscores'⟩ : ∃ scores', run.frozenOutcomes.mapM (scoreOutcome snapshot') = .ok scores' := by
    apply mapM_ok_of_forall
    intro outcome houtcome
    obtain ⟨_, -, hs⟩ := mem_mapM hscores houtcome
    obtain ⟨frozen, submission, hsome, hthaw, -⟩ := scoreOutcome_eq_ok_iff.mp hs
    exact ⟨_, scoreOutcome_eq_ok_iff.mpr ⟨frozen, submission, hsome, hthaw, rfl⟩⟩
  have hpairs := forall₂_through.mp ⟨_, (mapM_eq_ok_iff.mp hscores).flip, mapM_eq_ok_iff.mp hscores'⟩
  have hpublish' : ∀ s' ∈ scores', s'.Publishable := by
    intro s' hs'
    obtain ⟨s, hs, outcome, hbefore, hafter⟩ := exists_of_mem_right hpairs hs'
    obtain ⟨frozen, submission, hsome, hthaw, rfl⟩ := scoreOutcome_eq_ok_iff.mp hbefore
    obtain ⟨frozen', submission', hsome', hthaw', rfl⟩ := scoreOutcome_eq_ok_iff.mp hafter
    cases hsome.symm.trans hsome'
    cases hthaw.symm.trans hthaw'
    exact publishable_scoreOf (hpublish _ ((List.mem_insertionSort scoreLe).mpr hs)) snapshot'
  have hhash' : Hashable (reportPayload run snapshot'.fingerprint (scores'.insertionSort scoreLe)) := by
    rw [hashable_reportPayload_iff]
    constructor
    · simp only [List.forall_mem_cons] at htexts ⊢
      rw [(verify_iff.mp hverify).2]
      exact ⟨htexts.1, htexts.2.1, htexts.2.2.1, encodable_textDigest _, by simp⟩
    · intro s' hs'
      exact hpublish' s' ((List.mem_insertionSort scoreLe).mp hs')
  refine ⟨_, scores, scores', judgeMatch_eq_ok_iff.mpr ⟨⟨hclosed, hfrozen, hverify⟩, scores', hscores', hhash', rfl⟩,
    (List.perm_insertionSort scoreLe scores).symm, (List.perm_insertionSort scoreLe scores').symm, ?_⟩
  refine hpairs.imp fun s s' houtcome => ?_
  obtain ⟨outcome, hbefore, hafter⟩ := houtcome
  obtain ⟨frozen, submission, hsome, hthaw, rfl⟩ := scoreOutcome_eq_ok_iff.mp hbefore
  obtain ⟨frozen', submission', hsome', hthaw', rfl⟩ := scoreOutcome_eq_ok_iff.mp hafter
  cases hsome.symm.trans hsome'
  cases hthaw.symm.trans hthaw'
  exact rescored h _ _ _

end Match

section Sample

open Python.Ascii

/-- A lead of the given source. -/
def candidateLead (sourceUrl : PyStr) : Lead := {
  company := "c"
  role := "r"
  sourceUrl := sourceUrl
  officialSource := true
  openStatus := "OPEN"
  remoteScope := "x"
  locationConstraint := "x"
  employmentType := "x"
  requiredSkills := []
  candidateFit := "x"
  mismatchRisks := []
  portfolioRelevance := "x"
  confidence := .int 1
  nextAction := "x"
  evidenceUrls := ["u"]
  claimedNovel := true }

/-- A submission of a lead that is good and one that is not. -/
def candidateSubmission : Submission := {
  entrant := ⟨"e", "p", "m", "x", "\x7b\x7d"⟩
  candidateFingerprint := "c"
  competitionFingerprint := "c"
  leads := [candidateLead "u", candidateLead "v"]
  applyNowUrls := []
  searchStrategySummary := "s"
  rejectedOrDowngraded := []
  uncertainties := []
  searchCalls := 1 }

/-- The assessment of the good lead. -/
def goodAssessment : RegistryLeadAssessment := {
  sourceUrl := "u"
  realOpen := true
  practicalFit := true
  geographyEligible := true
  actionable := true
  primarySource := true
  fabricated := false
  usOnly := false
  seniorOrPhdMismatch := false }

/-- A registry that knows both leads, with the second marked as fabricated or not. -/
def candidateSnapshot (fabricated : Bool) : JudgeRegistrySnapshot :=
  let snapshot : JudgeRegistrySnapshot :=
    ⟨"s", ["v"], [goodAssessment, { unassessed "v" with fabricated := fabricated }], []⟩
  { snapshot with fingerprint := textDigest (render snapshot.payload) }

/-- A match with one outcome. -/
def candidateRun : MatchRun := {
  competitionId := "c"
  candidateFingerprint := "c"
  competitionFingerprint := "c"
  expectedEntrantIds := ["e"]
  outcomes := [⟨"e", "FROZEN", (FrozenSubmission.freeze candidateSubmission).toOption⟩]
  entrantExecutionClosed := true }

example : candidateSubmission.leads.length = 2 := by decide +kernel

theorem accepted_candidateSubmission : candidateSubmission.Accepted where
  entrant := by
    refine ⟨.obj [("entrant_id", .str "e"), ("provider", .str "p"), ("exact_model_id", .str "m"), ("endpoint_mode", .str "x"),
      ("sampling", .obj [])], legible_of_floatless (by decide +kernel), ?_⟩
    decide +kernel
  leads := by
    have hall : ∀ l ∈ candidateSubmission.leads, l.postInit = .ok () := by decide +kernel
    intro l hl
    refine ⟨hall l hl, ?_⟩
    obtain rfl | rfl : l = candidateLead "u" ∨ l = candidateLead "v" := by simpa [candidateSubmission] using hl
    · trivial
    · trivial
  checked := by decide +kernel

/-- The submission as the judge reads it. -/
def thawedSubmission : Submission :=
  candidateSubmission.thawed [(candidateLead "u").thawed (.finite 1), (candidateLead "v").thawed (.finite 1)]

theorem thaws_candidateSubmission :
    ∃ f, FrozenSubmission.freeze candidateSubmission = .ok f ∧ f.thawVerified = .ok thawedSubmission := by
  have hread : ∀ l ∈ candidateSubmission.leads, Lead.fromMapping (sortKeys l.toJson) = .ok (l.thawed (.finite 1)) := by
    have hall : ∀ l ∈ candidateSubmission.leads, (∀ e ∈ l.labelled, strip e.2 ≠ []) ∧ (∀ t ∈ l.items, strip t ≠ []) ∧
        l.evidenceUrls ≠ [] ∧ (l.thawed (.finite 1)).postInit = .ok () := by decide +kernel
    intro l hl
    obtain ⟨hlabels, hitems, hurls, hpost⟩ := hall l hl
    obtain rfl | rfl : l = candidateLead "u" ∨ l = candidateLead "v" := by simpa [candidateSubmission] using hl
    · exact (Lead.fromMapping_toJson_iff rfl).mpr ⟨rfl, hlabels, hitems, hurls, .finite 1, rfl, hpost, rfl⟩
    · exact (Lead.fromMapping_toJson_iff rfl).mpr ⟨rfl, hlabels, hitems, hurls, .finite 1, rfl, hpost, rfl⟩
  rw [Submission.thaws_iff accepted_candidateSubmission]
  refine ⟨by decide +kernel, ⟨.obj [], rfl, by decide +kernel⟩, by decide +kernel, by decide +kernel, by decide +kernel, _,
    .cons (hread _ (by simp [candidateSubmission])) (.cons (hread _ (by simp [candidateSubmission])) .nil), by decide +kernel, rfl⟩

theorem encodable_sha256 {s : Submission} {f : FrozenSubmission} (h : FrozenSubmission.freeze s = .ok f) :
    encodable f.sha256 = true := by
  unfold FrozenSubmission.freeze at h
  simp only [bind_eq_ok_iff, pure_eq_ok_iff, contentDigest_eq_ok_iff] at h
  obtain ⟨_, -, _, -, _, ⟨-, rfl⟩, rfl⟩ := h
  exact encodable_textDigest _

example : candidateRun.expectedEntrantIds = [py "e"] := by decide +kernel

theorem verify_candidateSnapshot (fabricated : Bool) : (candidateSnapshot fabricated).verify = .ok () := by
  have hhash : ∀ b, Hashable (candidateSnapshot b).payload := by
    intro b
    cases b
    · exact ⟨by decide +kernel, by decide +kernel⟩
    · exact ⟨by decide +kernel, by decide +kernel⟩
  exact verify_iff.mpr ⟨hhash fabricated, rfl⟩

theorem judged_candidateRun (fabricated : Bool) :
    ∃ report, judgeMatch candidateRun (candidateSnapshot fabricated) = .ok report ∧
      report.scores.map CompetitionScore.total = [if fabricated then 105 / 2 else 47] := by
  obtain ⟨f, hfreeze, hthaw⟩ := thaws_candidateSubmission
  let s := scoreOf "e" f.sha256 thawedSubmission (judgmentsOf thawedSubmission (candidateSnapshot fabricated))
  have hscores : candidateRun.frozenOutcomes.mapM (scoreOutcome (candidateSnapshot fabricated)) = .ok [s] := by
    have hrun : candidateRun.frozenOutcomes = [⟨"e", "FROZEN", some f⟩] := by
      unfold MatchRun.frozenOutcomes candidateRun
      rw [hfreeze]
      rfl
    rw [hrun, mapM_eq_ok_iff]
    exact .cons (scoreOutcome_eq_ok_iff.mpr ⟨f, _, rfl, hthaw, rfl⟩) .nil
  have hpublish : s.Publishable := by
    have hcount : s.behavior.leadCount = 2 := rfl
    have hcalls : s.behavior.searchCalls = 1 := rfl
    refine ⟨⟨?_, ?_⟩, ?_, ?_⟩
    · rw [hcount]
      exact intPrintable_of_small (by decide)
    · rw [hcalls]
      exact intPrintable_of_small (by decide)
    · have hletters : ∀ t ∈ ([py "e", py "p", py "m"] : List PyStr), encodable t = true := by decide +kernel
      simp only [List.forall_mem_cons] at hletters ⊢
      exact ⟨hletters.1, hletters.2.1, hletters.2.2.1, encodable_sha256 hfreeze, hletters.1, by simp⟩
    · intro j hj
      obtain ⟨lead, hlead, rfl⟩ := List.mem_map.mp hj
      have hurls : ∀ l ∈ thawedSubmission.leads, encodable l.sourceUrl = true := by decide +kernel
      rw [leadJudgment_sourceUrl]
      exact ⟨hurls lead hlead, encodable_reasons _ _ _ _⟩
  have hhash : Hashable (reportPayload candidateRun (candidateSnapshot fabricated).fingerprint [s]) := by
    rw [hashable_reportPayload_iff, List.forall_mem_singleton]
    simp only [List.forall_mem_cons]
    exact ⟨⟨by decide +kernel, by decide +kernel, by decide +kernel, encodable_textDigest _, by simp⟩, hpublish⟩
  have hclosed : candidateRun.allFrozen = true := by
    unfold MatchRun.allFrozen candidateRun
    decide +kernel
  refine ⟨_, judgeMatch_eq_ok_iff.mpr ⟨⟨rfl, hclosed, verify_candidateSnapshot _⟩, [s], hscores, hhash, rfl⟩, ?_⟩
  show [s.total] = _
  rw [total_scoreOf]
  cases fabricated <;> decide +kernel

theorem changed_candidateSnapshot : Changed .fabricated [goodAssessment] (unassessed "v") [] (candidateSnapshot false)
    (candidateSnapshot true) := ⟨rfl, rfl, rfl⟩

theorem judgeMatch_downgrade_sample : ∃ report, judgeMatch candidateRun (candidateSnapshot false) = .ok report ∧
    ∃ report' scores scores', judgeMatch candidateRun (candidateSnapshot true) = .ok report' ∧ scores.Perm report.scores ∧
      scores'.Perm report'.scores ∧
      List.Forall₂ (Rescored .fabricated (unassessed "v").key ((unassessed "v").key ∈ [])) scores scores' := by
  obtain ⟨report, hreport, -⟩ := judged_candidateRun false
  exact ⟨report, hreport, judgeMatch_downgrade changed_candidateSnapshot (verify_candidateSnapshot true) hreport⟩

/-- A lead that is marked as fabricated takes its penalties with it, and the total of its entrant rises. -/
theorem judgeMatch_downgrade_counterexample : Changed .fabricated [goodAssessment] (unassessed "v") [] (candidateSnapshot false)
      (candidateSnapshot true) ∧
    ∃ report report', judgeMatch candidateRun (candidateSnapshot false) = .ok report ∧
      judgeMatch candidateRun (candidateSnapshot true) = .ok report' ∧
      report.scores.map CompetitionScore.total = [47] ∧ report'.scores.map CompetitionScore.total = [105 / 2] := by
  obtain ⟨report, hreport, htotal⟩ := judged_candidateRun false
  obtain ⟨report', hreport', htotal'⟩ := judged_candidateRun true
  exact ⟨changed_candidateSnapshot, report, report', hreport, hreport', htotal, htotal'⟩

end Sample

end EvaluationLab.SearchCup
