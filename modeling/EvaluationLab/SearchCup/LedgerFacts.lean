import EvaluationLab.SearchCup.JudgmentOnly
import EvaluationLab.SearchCup.Ledger

/-! What every history of admitted events has: distinct identities, retry chains that end, bounded
automatic retries and search turns without gaps. -/
namespace EvaluationLab.SearchCup
open Python Effect Structure
open QA0 (Fields)

section Ledger

variable [PyRuntime] {spec : SearchSpecV2} {prior : List Json} {event : Json}

/-- The event is admitted after those before it. -/
def Admits (spec : SearchSpecV2) (prior : List Json) (event : Json) : Prop := validateEvent spec prior event = .ok ()

instance (spec : SearchSpecV2) (prior : List Json) (event : Json) : Decidable (Admits spec prior event) :=
  inferInstanceAs (Decidable (_ = _))

/-- What an event must satisfy whatever came before it. -/
structure WellFormed (spec : SearchSpecV2) (event : Json) : Prop where
  shape : Fits eventSchema event
  safe : ContentSafe event
  tokens : validateMeasure (get event "tokens") (some "tokens") = .ok ()
  money : validateMeasure (get event "money") (some spec.currency) = .ok ()
  status : checkStatus event = .ok ()
  unit : checkUnit spec event = .ok ()

/-- Admission is well-formedness and three looks back: at the identities, the turns and the retries. -/
theorem admits_iff : Admits spec prior event ↔ WellFormed spec event ∧ eventId event ∉ prior.map eventId ∧
    checkTurn event prior = .ok () ∧ checkRetry spec event prior = .ok () := by
  unfold Admits validateEvent
  simp only [bind_eq_ok_iff, exists_unit_iff, validateContract_ok_iff, assertContentSafe_ok_iff, check_eq_ok_iff]
  constructor
  · rintro ⟨hshape, hsafe, htokens, hmoney, hnew, hstatus, hunit, hturn, hretry⟩
    exact ⟨⟨hshape, hsafe, htokens, hmoney, hstatus, hunit⟩, hnew, hturn, hretry⟩
  · rintro ⟨⟨hshape, hsafe, htokens, hmoney, hstatus, hunit⟩, hnew, hturn, hretry⟩
    exact ⟨hshape, hsafe, htokens, hmoney, hnew, hstatus, hunit, hturn, hretry⟩

/-- What a declared retry is checked for. -/
structure RetryOf (spec : SearchSpecV2) (event : Json) (prior : List Json) (target : Json) : Prop where
  found : (retryOf event).bind (memberOf eventId prior) = some target
  kind : kind target = kind event
  failed : status target = py "FAILED"
  manual : retryKind event = py "MANUAL" → (get spec.resources "manual_retry_policy").isStr "NEW_BUDGETED_EVENT" = true
  automatic : automatic event = true → ∃ root, rootOf eventId retryOf prior target = some root ∧
    automaticRetriesOf (eventId root) prior < spec.automaticRetries

theorem checkRetry_ok_iff : checkRetry spec event prior = .ok () ↔
    if retryKind event = py "NONE" then retryOf event = none else ∃ target, RetryOf spec event prior target := by
  unfold checkRetry
  by_cases hnone : retryKind event = py "NONE"
  · rw [if_pos hnone, if_pos hnone, check_eq_ok_iff]
  · rw [if_neg hnone, if_neg hnone]
    cases hfound : (retryOf event).bind (memberOf eventId prior) with
    | none =>
      constructor
      · intro h
        cases h
      · rintro ⟨target, h⟩
        have htarget := h.found
        rw [hfound] at htarget
        cases htarget
    | some target =>
      simp only [bind_eq_ok_iff, exists_unit_iff, check_eq_ok_iff]
      constructor
      · rintro ⟨⟨hkind, hfailed⟩, hmanual, hautomatic⟩
        refine ⟨target, hfound, hkind, hfailed, hmanual, fun hauto => ?_⟩
        rw [if_pos hauto] at hautomatic
        cases hroot : rootOf eventId retryOf prior target with
        | none =>
          rw [hroot] at hautomatic
          cases hautomatic
        | some root =>
          rw [hroot] at hautomatic
          exact ⟨root, rfl, check_eq_ok_iff.mp hautomatic⟩
      · rintro ⟨target', h⟩
        have htarget := h.found
        rw [hfound, Option.some.injEq] at htarget
        subst htarget
        refine ⟨⟨h.kind, h.failed⟩, h.manual, ?_⟩
        split_ifs with hauto
        · obtain ⟨root, hroot, hcount⟩ := h.automatic hauto
          rw [hroot]
          exact check_of hcount
        · rfl

theorem RetryOf.memberOf {target : Json} (h : RetryOf spec event prior target) :
    ∃ k, retryOf event = some k ∧ memberOf eventId prior k = some target := Option.bind_eq_some_iff.mp h.found

/-- An event without a target is no retry. -/
theorem Admits.retryKind_none (h : Admits spec prior event) (hnone : retryOf event = none) : retryKind event = py "NONE" := by
  obtain ⟨-, -, -, hretry⟩ := admits_iff.mp h
  rw [checkRetry_ok_iff] at hretry
  by_contra hkind
  rw [if_neg hkind] at hretry
  obtain ⟨target, htarget⟩ := hretry
  obtain ⟨k, hk, -⟩ := htarget.memberOf
  rw [hnone] at hk
  cases hk

/-- An event with a target is a checked retry of it. -/
theorem Admits.retry (h : Admits spec prior event) {k : PyStr} (hk : retryOf event = some k) :
    ∃ target, RetryOf spec event prior target ∧ memberOf eventId prior k = some target := by
  obtain ⟨-, -, -, hretry⟩ := admits_iff.mp h
  rw [checkRetry_ok_iff] at hretry
  split_ifs at hretry
  · rw [hk] at hretry
    cases hretry
  · obtain ⟨target, htarget⟩ := hretry
    obtain ⟨k', hk', hfound⟩ := htarget.memberOf
    rw [hk, Option.some.injEq] at hk'
    subst hk'
    exact ⟨target, htarget, hfound⟩

theorem Admits.attaches (h : Admits spec prior event) : Attaches eventId retryOf prior event := by
  refine ⟨(admits_iff.mp h).2.1, fun k hk => ?_⟩
  obtain ⟨target, -, hfound⟩ := h.retry hk
  obtain ⟨hmem, rfl⟩ := memberOf_eq_some hfound
  exact List.mem_map_of_mem hmem

section History

variable {events : List Json} (h : Grown (Admits spec) events)
include h

theorem attached : Grown (Attaches eventId retryOf) events := h.mono fun _ _ _ ha => ha.attaches

/-- Identities are pairwise distinct. -/
theorem nodup_eventId : (events.map eventId).Nodup :=
  (h.mono fun _ _ _ ha => (admits_iff.mp ha).2.1 : Grown (fun l a => eventId a ∉ l.map eventId) events).nodup_keys

/-- A retry names a strictly earlier failed event of its kind. -/
theorem retry_target {i : ℕ} {e : Json} (he : events[i]? = some e) {k : PyStr} (hk : retryOf e = some k) :
    ∃ j < i, ∃ target, events[j]? = some target ∧ eventId target = k ∧ kind target = kind e ∧
      status target = py "FAILED" := by
  obtain ⟨hi, rfl⟩ := List.getElem?_eq_some_iff.mp he
  have hsplit : events.take i ++ events[i] :: events.drop (i + 1) = events := by
    rw [List.getElem_cons_drop, List.take_append_drop]
  have hadmits : Admits spec (events.take i) events[i] := by
    rw [← hsplit] at h
    exact h.admitted
  obtain ⟨target, htarget, hfound⟩ := hadmits.retry hk
  obtain ⟨hmem, hid⟩ := memberOf_eq_some hfound
  obtain ⟨j, hj, rfl⟩ := List.mem_iff_getElem.mp hmem
  have hlt : j < i := lt_of_lt_of_le hj (List.length_take_le _ _)
  refine ⟨j, hlt, _, ?_, hid, htarget.kind, htarget.failed⟩
  rw [List.getElem_take]
  exact List.getElem?_eq_getElem _

/-- A root is declared as no retry. -/
theorem retryKind_root {e : Json} (he : e ∈ events) (hnone : retryOf e = none) : retryKind e = py "NONE" := by
  obtain ⟨l, m, rfl⟩ := List.append_of_mem he
  exact h.admitted.retryKind_none hnone

/-- Every retry chain ends, in one event, which is no retry. -/
theorem exists_unique_root {e : Json} (he : e ∈ events) : ∃ root ∈ events, rootOf eventId retryOf events e = some root ∧
    retryKind root = py "NONE" ∧ ∀ r, Climbs eventId retryOf events e r ↔ r = root := by
  obtain ⟨root, hroot, hnone, hclimbs, hfound⟩ := (attached h).exists_root he
  refine ⟨root, hroot, hfound, retryKind_root h hroot hnone, fun r => ⟨fun hr => hr.unique hclimbs, ?_⟩⟩
  rintro rfl
  exact hclimbs

/-- A new event adds to the automatic retries of its own root only. -/
theorem automaticRetriesOf_snoc (root : PyStr) (e : Json) : automaticRetriesOf root (events ++ [e]) =
    automaticRetriesOf root events +
      if automatic e && (rootOf eventId retryOf (events ++ [e]) e).map eventId == some root then 1 else 0 := by
  have hsame : events.filter (fun a => automatic a && (rootOf eventId retryOf (events ++ [e]) a).map eventId == some root) =
      events.filter fun a => automatic a && (rootOf eventId retryOf events a).map eventId == some root := by
    apply List.filter_congr
    intro a ha
    rw [(attached h).rootOf_append [e] ha]
  rw [automaticRetriesOf, automaticRetriesOf, List.filter_append, List.length_append, hsame, List.filter_singleton]
  congr 1
  cases automatic e && (rootOf eventId retryOf (events ++ [e]) e).map eventId == some root <;> rfl

theorem rootOf_retry {e target : Json} (htarget : RetryOf spec e events target) :
    rootOf eventId retryOf (events ++ [e]) e = rootOf eventId retryOf events target := by
  obtain ⟨k, hk, hfound⟩ := htarget.memberOf
  exact (attached h).rootOf_new hk hfound

omit h in
/-- No root has more automatic retries than the declaration allows. -/
theorem automaticRetriesOf_le (h : Grown (Admits spec) events) (root : PyStr) :
    automaticRetriesOf root events ≤ spec.automaticRetries := by
  induction h with
  | nil => exact Nat.zero_le _
  | @snoc l e hl he ih =>
    rw [automaticRetriesOf_snoc hl]
    split_ifs with hcount
    · rw [Bool.and_eq_true, beq_iff_eq] at hcount
      obtain ⟨hauto, hroot⟩ := hcount
      have hretry := (admits_iff.mp he).2.2.2
      have hkind : retryKind e ≠ py "NONE" := by
        rw [of_decide_eq_true hauto]
        decide +kernel
      rw [checkRetry_ok_iff, if_neg hkind] at hretry
      obtain ⟨target, htarget⟩ := hretry
      obtain ⟨r, hr, hlt⟩ := htarget.automatic hauto
      rw [rootOf_retry hl htarget, hr, Option.map_some, Option.some.injEq] at hroot
      rw [hroot] at hlt
      exact hlt
    · exact ih

/-- The turns of the attempted searches rise by steps of one. -/
theorem turns_rising : Grown Rises (turns events) := by
  have hturns : ∀ l : List Json, turns l = l.filterMap fun e => if attemptedSearch e then some (turn e) else none := by
    intro l
    induction l with
    | nil => rfl
    | cons e l ih =>
      unfold turns at ih ⊢
      by_cases hsearch : attemptedSearch e = true
      · rw [List.filter_cons_of_pos hsearch, List.map_cons, ih, List.filterMap_cons, if_pos hsearch]
      · rw [List.filter_cons_of_neg hsearch, ih, List.filterMap_cons, if_neg hsearch]
  rw [hturns]
  apply h.filterMap
  intro l e v hadmits hv
  split_ifs at hv with hsearch
  cases hv
  have hturn := (admits_iff.mp hadmits).2.2.1
  rw [checkTurn, if_pos hsearch, check_eq_ok_iff, hturns] at hturn
  exact hturn

end History

section Constructed

/-- A history is read exactly when its canonical text loads and every event is admitted. -/
theorem readLedger_eq_ok_iff {runId : Json} {text : PyStr} {events : List Json} :
    readLedger spec runId text = .ok events ↔ (get spec.asDict "spec_status").isStr "FROZEN" = true ∧
      Fits textSchema runId ∧ ContentSafe runId ∧ loads text = .ok (.arr events) ∧
      QA0.canonicalJson (.arr events) = .ok text ∧ Grown (Admits spec) events := by
  have hfold : ∀ xs r : List Json,
      xs.foldlM (fun prior event => do validateEvent spec prior event; return prior ++ [event]) [] = .ok r ↔
        r = xs ∧ Grown (Admits spec) xs := fun xs r => Grown.foldlM_iff (fun _ _ => Iff.rfl) .nil
  unfold readLedger
  simp only [bind_eq_ok_iff, exists_unit_iff, check_eq_ok_iff, validateContract_ok_iff, assertContentSafe_ok_iff]
  constructor
  · rintro ⟨hfrozen, hshape, hsafe, w, hload, h⟩
    cases w with
    | arr xs =>
      simp only [bind_eq_ok_iff, exists_unit_iff, check_eq_ok_iff, hfold] at h
      obtain ⟨_, htext, rfl, rfl, hgrown⟩ := h
      exact ⟨hfrozen, hshape, hsafe, hload, htext, hgrown⟩
    | _ => cases h
  · rintro ⟨hfrozen, hshape, hsafe, hload, htext, hgrown⟩
    refine ⟨hfrozen, hshape, hsafe, _, hload, ?_⟩
    simp only [bind_eq_ok_iff, exists_unit_iff, check_eq_ok_iff, hfold]
    exact ⟨text, htext, rfl, trivial, hgrown⟩

theorem ResourceLedger.history (ledger : ResourceLedger) : Grown (Admits ledger.spec) ledger.events :=
  (readLedger_eq_ok_iff.mp ledger.accepted).2.2.2.2.2

theorem ResourceLedger.build_eq_ok_iff {runId : Json} {text : PyStr} {ledger : ResourceLedger} :
    ResourceLedger.build spec runId text = .ok ledger ↔
      ledger.spec = spec ∧ ledger.runId = runId ∧ ledger.eventsJson = text := by
  unfold ResourceLedger.build
  constructor
  · intro h
    split at h
    · cases h
      exact ⟨rfl, rfl, rfl⟩
    · cases h
  · rintro ⟨rfl, rfl, rfl⟩
    split
    · rename_i events h
      have hevents : events = ledger.events := Except.ok.inj (h.symm.trans ledger.accepted)
      subst hevents
      rfl
    · rename_i e h
      rw [ledger.accepted] at h
      cases h

theorem Reachable.spec_eq {ledger : ResourceLedger} (h : Reachable spec ledger) : ledger.spec = spec := by
  induction h with
  | empty h => exact (ResourceLedger.build_eq_ok_iff.mp h).1
  | append _ h ih =>
    unfold ResourceLedger.append at h
    obtain ⟨_, -, h⟩ := bind_eq_ok_iff.mp h
    exact (ResourceLedger.build_eq_ok_iff.mp h).1.trans ih

omit [PyRuntime] in
theorem kind_of_shape (h : Fits eventSchema event) : kind event = py "SEARCH" ∨ kind event = py "VERIFY" ∨ kind event = py "MODEL" := by
  have hkind : Fits (.enum ["SEARCH", "VERIFY", "MODEL"]) (get event "kind") := fits_get h rfl
  rw [fits_enum] at hkind
  obtain ⟨t, ht, heq⟩ := hkind
  rw [kind, heq, asText]
  simpa using ht

/-- Under a declaration for judgment only, nothing but a model request crosses the boundary. -/
theorem ResourceLedger.judgmentOnly (ledger : ResourceLedger) (htrack : hasTrack ledger.spec.asDict "JUDGMENT_ONLY" = true)
    {e : Json} (he : e ∈ ledger.events) (hcrossed : crossedBoundary e = true) : kind e = py "MODEL" := by
  obtain ⟨l, m, hsplit⟩ := List.append_of_mem he
  have hwell := (admits_iff.mp (hsplit ▸ ledger.history).admitted).1
  have hunit := hwell.unit
  unfold checkUnit SearchSpecV2.expectedUnit SearchSpecV2.resources at hunit
  rcases kind_of_shape hwell.shape with hkind | hkind | hkind
  · rw [hkind, if_pos rfl, (ledger.spec.judgmentOnly htrack).2.1] at hunit
    simp [asText, hcrossed, bind_eq_ok_iff] at hunit
  · have hverify : ¬ py "VERIFY" = py "SEARCH" := by decide +kernel
    have hcounted : ¬ py "VERIFICATION" = py "NONE" := by decide +kernel
    rw [hkind, if_neg hverify, if_pos rfl, if_neg hcounted] at hunit
    simp only [bind_eq_ok_iff, exists_unit_iff, check_eq_ok_iff] at hunit
    rw [hunit.2.1 htrack trivial] at hcrossed
    cases hcrossed
  · exact hkind

end Constructed

section Appending

variable [RoundTripFloats] {ledger after : ResourceLedger} {event : Json}

/-- The events of a ledger are written as they are read. -/
theorem ResourceLedger.canonical (ledger : ResourceLedger) : Legible (.arr ledger.events) ∧
    intsPrintable (.arr ledger.events) = true ∧ nesting (.arr ledger.events) ≤ PyRuntime.recursionLimit ∧
    ledger.events.map sortKeys = ledger.events := by
  obtain ⟨-, -, -, hload, htext, -⟩ := readLedger_eq_ok_iff.mp ledger.accepted
  have hlegible := legible_of_loads hload
  unfold QA0.canonicalJson at htext
  split_ifs at htext with hprint
  rw [← Except.ok.inj htext] at hload
  obtain ⟨hnesting, hsorted⟩ := (loads_render_iff hlegible hprint).mp hload
  rw [sortKeys, sortItems_eq_map, Json.arr.injEq] at hsorted
  exact ⟨hlegible, hprint, hnesting, hsorted.symm⟩

/-- An event that can be written and read again. -/
def Written (event : Json) : Prop := intsPrintable event = true ∧ nesting event + 1 ≤ PyRuntime.recursionLimit

/-- An event is appended with its keys sorted, when it is admitted so. -/
theorem append_eq_ok_iff (hevent : Legible event) : ledger.append event = .ok after ↔
    Written event ∧ Admits ledger.spec ledger.events (sortKeys event) ∧ after.spec = ledger.spec ∧
      after.runId = ledger.runId ∧ after.events = ledger.events ++ [sortKeys event] := by
  obtain ⟨hlegible, hprint, hnesting, hsorted⟩ := ledger.canonical
  obtain ⟨hfrozen, hshape, hsafe, -, -, hhistory⟩ := readLedger_eq_ok_iff.mp ledger.accepted
  have hall : Legible (.arr (ledger.events ++ [event])) := by
    rw [Legible, itemsLegible_iff] at hlegible ⊢
    intro v hv
    rcases List.mem_append.mp hv with hv | hv
    · exact hlegible v hv
    · rwa [List.mem_singleton.mp hv]
  have hprints : intsPrintable (.arr (ledger.events ++ [event])) = true ↔ intsPrintable event = true := by
    rw [intsPrintable_arr] at hprint ⊢
    rw [List.all_append, hprint]
    simp
  have hnests : nesting (.arr (ledger.events ++ [event])) ≤ PyRuntime.recursionLimit ↔
      nesting event + 1 ≤ PyRuntime.recursionLimit := by
    rw [nesting] at hnesting ⊢
    obtain ⟨n, hn⟩ : ∃ n, PyRuntime.recursionLimit = n + 1 :=
      Nat.exists_eq_succ_of_ne_zero (by omega)
    rw [hn, Nat.add_le_add_iff_right, itemsNesting_le_iff] at hnesting ⊢
    rw [Nat.add_le_add_iff_right]
    simp only [List.mem_append, List.mem_singleton]
    constructor
    · intro h
      exact h event (.inr rfl)
    · rintro h v (hv | rfl)
      · exact hnesting v hv
      · exact h
  have hsort : sortKeys (.arr (ledger.events ++ [event])) = .arr (ledger.events ++ [sortKeys event]) := by
    rw [sortKeys, sortItems_eq_map, List.map_append, hsorted]
    rfl
  unfold ResourceLedger.append
  simp only [bind_eq_ok_iff, ResourceLedger.build_eq_ok_iff]
  constructor
  · rintro ⟨text, htext, hspec, hrun, rfl⟩
    unfold QA0.canonicalJson at htext
    split_ifs at htext with hp
    have htext := Except.ok.inj htext
    obtain ⟨-, -, -, hload, -, hgrown⟩ := readLedger_eq_ok_iff.mp after.accepted
    rw [← htext, loads_render_iff hall hp, hsort, Json.arr.injEq] at hload
    obtain ⟨hdepth, hevents⟩ := hload
    rw [hspec, hevents, Grown.snoc_iff] at hgrown
    exact ⟨⟨hprints.mp hp, hnests.mp hdepth⟩, hgrown.2, hspec, hrun, hevents⟩
  · rintro ⟨⟨hp, hdepth⟩, hadmits, hspec, hrun, hevents⟩
    refine ⟨render (.arr (ledger.events ++ [event])), if_pos (hprints.mpr hp), hspec, hrun, ?_⟩
    obtain ⟨-, -, -, -, htext, -⟩ := readLedger_eq_ok_iff.mp after.accepted
    unfold QA0.canonicalJson at htext
    split_ifs at htext
    rw [← Except.ok.inj htext, hevents, ← hsort, render_sortKeys]

/-- An event that can be written is appended exactly when it is admitted. -/
theorem exists_append_iff (ledger : ResourceLedger) (hevent : Legible event) :
    (∃ next, ledger.append event = .ok next) ↔ Written event ∧ Admits ledger.spec ledger.events (sortKeys event) := by
  constructor
  · rintro ⟨next, h⟩
    rw [append_eq_ok_iff hevent] at h
    exact ⟨h.1, h.2.1⟩
  · rintro ⟨hwritten, hadmits⟩
    obtain ⟨hlegible, hprint, hnesting, hsorted⟩ := ledger.canonical
    obtain ⟨hfrozen, hshape, hsafe, -, -, hhistory⟩ := readLedger_eq_ok_iff.mp ledger.accepted
    have hnew : Legible (.arr (ledger.events ++ [sortKeys event])) := by
      rw [Legible, itemsLegible_iff] at hlegible ⊢
      intro v hv
      rcases List.mem_append.mp hv with hv | hv
      · exact hlegible v hv
      · rw [List.mem_singleton.mp hv]
        exact legible_sortKeys hevent
    have hp : intsPrintable (.arr (ledger.events ++ [sortKeys event])) = true := by
      rw [intsPrintable_arr] at hprint ⊢
      rw [List.all_append, hprint]
      simp [intsPrintable_sortKeys, hwritten.1]
    have hdepth : nesting (.arr (ledger.events ++ [sortKeys event])) ≤ PyRuntime.recursionLimit := by
      have hevent := hwritten.2
      rw [← nesting_sortKeys_eq] at hevent
      rw [nesting] at hnesting ⊢
      obtain ⟨n, hn⟩ : ∃ n, PyRuntime.recursionLimit = n + 1 := Nat.exists_eq_succ_of_ne_zero (by omega)
      rw [hn, Nat.add_le_add_iff_right] at hnesting hevent ⊢
      rw [itemsNesting_le_iff] at hnesting ⊢
      intro v hv
      rcases List.mem_append.mp hv with hv | hv
      · exact hnesting v hv
      · rwa [List.mem_singleton.mp hv]
    have hload : loads (render (.arr (ledger.events ++ [sortKeys event]))) = .ok (.arr (ledger.events ++ [sortKeys event])) := by
      rw [loads_render_iff hnew hp]
      refine ⟨hdepth, ?_⟩
      rw [sortKeys, sortItems_eq_map, List.map_append, hsorted, List.map_singleton, sortKeys_sortKeys]
    have hread : readLedger ledger.spec ledger.runId (render (.arr (ledger.events ++ [sortKeys event]))) =
        .ok (ledger.events ++ [sortKeys event]) := by
      rw [readLedger_eq_ok_iff]
      exact ⟨hfrozen, hshape, hsafe, hload, if_pos hp, .snoc hhistory hadmits⟩
    exact ⟨⟨_, _, _, _, hread⟩, (append_eq_ok_iff hevent).mpr ⟨hwritten, hadmits, rfl, rfl, rfl⟩⟩

/-- An event that is its own canonical form is appended when it is admitted. -/
theorem exists_append {ledger : ResourceLedger} {event : Json} (hfloats : floatless event = true)
    (hsorted : sortKeys event = event) (hwritten : Written event) (hadmits : Admits ledger.spec ledger.events event) :
    ∃ next, ledger.append event = .ok next ∧ next.spec = ledger.spec ∧ next.events = ledger.events ++ [event] := by
  have hlegible := legible_of_floatless hfloats
  obtain ⟨next, hnext⟩ := (exists_append_iff ledger hlegible).mpr ⟨hwritten, by rwa [hsorted]⟩
  obtain ⟨-, -, hspec, -, hevents⟩ := (append_eq_ok_iff hlegible).mp hnext
  rw [hsorted] at hevents
  exact ⟨next, hnext, hspec, hevents⟩

end Appending

/-- In every ledger that appending leads to, identities are distinct; a retry names a strictly
earlier failed event of its kind, and every chain of retries ends in one event that is no retry; no
root has more automatic retries than are allowed; and the turns of the attempted searches start at
one, never fall and never skip, so that they are those up to the number of turns, which is no
greater than the number of searches attempted. -/
theorem reachable_ledger {ledger : ResourceLedger} (h : Reachable spec ledger) :
    (ledger.events.map eventId).Nodup ∧
    (∀ (i : ℕ) (e : Json) (k : PyStr), ledger.events[i]? = some e → retryOf e = some k → ∃ j < i, ∃ target, ledger.events[j]? = some target ∧
      eventId target = k ∧ kind target = kind e ∧ status target = py "FAILED") ∧
    (∀ e ∈ ledger.events, ∃ root ∈ ledger.events, rootOf eventId retryOf ledger.events e = some root ∧
      retryKind root = py "NONE" ∧ ∀ r, Climbs eventId retryOf ledger.events e r ↔ r = root) ∧
    (∀ root ∈ ledger.events, automaticRetriesOf (eventId root) ledger.events ≤ spec.automaticRetries) ∧
    (turns ledger.events).Pairwise (· ≤ ·) ∧ (∀ v ∈ (turns ledger.events).head?, v = 1) ∧
    (turns ledger.events).IsChain (fun v w => w ≤ v + 1) ∧
    (∀ v, v ∈ turns ledger.events ↔ 1 ≤ v ∧ v ≤ top (turns ledger.events)) ∧
    top (turns ledger.events) ≤ (ledger.events.filter attemptedSearch).length := by
  have hhistory : Grown (Admits spec) ledger.events := h.spec_eq ▸ ledger.history
  have hturns := turns_rising hhistory
  have hattempted : (turns ledger.events).length = (ledger.events.filter attemptedSearch).length := List.length_map _
  refine ⟨nodup_eventId hhistory, fun i e k he hk => retry_target hhistory he hk,
    fun e he => exists_unique_root hhistory he, fun root _ => automaticRetriesOf_le hhistory (eventId root),
    hturns.pairwise_rising, hturns.head?_rising, hturns.isChain_rising, hturns.mem_rising, ?_⟩
  rw [← hattempted]
  exact hturns.top_le_length

end Ledger

section Sample

open Python.Whole

/-- A model request of the sample run that failed, or was rejected; its retry is automatic. -/
def sampleEvent (id : PyStr) (rejected : Bool) (retry : Option PyStr) : Json := .obj [
  ("crossed_boundary", .bool !rejected), ("elapsed_ms", .int 5), ("event_id", .str id),
  ("failure_class", .str (if rejected then "BUDGET" else "INFRASTRUCTURE")), ("kind", .str "MODEL"),
  ("money", sampleMeasure 0 "USD"), ("request_fingerprint", sampleRef "request" zeroDigest), ("result_count", .int 0),
  ("result_fingerprints", .arr []), ("retry_kind", .str (if retry.isSome then "AUTOMATIC" else "NONE")),
  ("retry_of", (retry.map Json.str).getD .null), ("status", .str (if rejected then "REJECTED" else "FAILED")),
  ("tokens", sampleMeasure 0 "tokens"), ("turn", .int 0), ("unit", .str "MODEL_REQUEST")]

theorem accepts_sample {events : List Json} {text : PyStr} (hload : loads text = .ok (.arr events))
    (htext : QA0.canonicalJson (.arr events) = .ok text) (hgrown : Grown (Admits sampleDeclaration) events) :
    readLedger sampleDeclaration (.str "run") text = .ok events := by
  have hrun : Fits textSchema (.str (py "run")) := by
    rw [textSchema, Fits]
    exact ⟨_, rfl, by decide +kernel, by decide +kernel⟩
  rw [readLedger_eq_ok_iff]
  exact ⟨rfl, hrun, privateText_of_quickSafe (by decide +kernel), hload, htext, hgrown⟩

/-- The ledger of the sample run with one failed request. -/
def sampleLedger : ResourceLedger where
  spec := sampleDeclaration
  runId := .str "run"
  eventsJson := render (.arr [sampleEvent "one" false none])
  events := [sampleEvent "one" false none]
  accepted := by
    have hadmits : Admits sampleDeclaration [] (sampleEvent "one" false none) := by decide +kernel
    have hlegible : Legible (.arr [sampleEvent "one" false none]) := legible_of_floatless (by decide +kernel)
    have hprint : intsPrintable (.arr [sampleEvent "one" false none]) = true := by decide +kernel
    exact accepts_sample ((loads_render_iff hlegible hprint).mpr ⟨by decide +kernel, rfl⟩) (if_pos hprint)
      (.snoc .nil hadmits)

theorem reachable_sampleLedger : Reachable sampleDeclaration sampleLedger := by
  have hempty : ResourceLedger.build sampleDeclaration (.str "run") "[]" =
      .ok ⟨sampleDeclaration, .str "run", "[]", [], accepts_sample rfl rfl .nil⟩ :=
    ResourceLedger.build_eq_ok_iff.mpr ⟨rfl, rfl, rfl⟩
  have hadmits : Admits sampleDeclaration [] (sampleEvent "one" false none) := by decide +kernel
  have happend : ResourceLedger.append ⟨sampleDeclaration, .str "run", "[]", [], accepts_sample rfl rfl .nil⟩
      (sampleEvent "one" false none) = .ok sampleLedger := by
    rw [append_eq_ok_iff (legible_of_floatless (by decide +kernel))]
    exact ⟨⟨by decide +kernel, by decide +kernel⟩, hadmits, rfl, rfl, rfl⟩
  exact .append (.empty hempty) happend

theorem reachable_ledger_sample : (sampleLedger.events.map eventId).Nodup :=
  (reachable_ledger reachable_sampleLedger).1

end Sample

end EvaluationLab.SearchCup
