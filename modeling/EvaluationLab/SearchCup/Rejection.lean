import EvaluationLab.SearchCup.LedgerFacts

/-! What a rejected event takes from the events after it. -/
namespace EvaluationLab.SearchCup
open Python Effect Structure
open QA0 (Fields)

section Ledger

variable [PyRuntime]

section LookingBack

variable {spec : SearchSpecV2} {events : List Json} {r e : Json}

/-- A rejected event has not crossed the boundary. -/
theorem not_crossed_of_rejected (h : WellFormed spec r) (hstatus : status r = py "REJECTED") : crossedBoundary r = false := by
  have hcheck := h.status
  unfold checkStatus at hcheck
  simp only [bind_eq_ok_iff, exists_unit_iff, check_eq_ok_iff] at hcheck
  rw [hcheck.1, hstatus]
  simp

omit [PyRuntime] in
/-- A rejected event adds no turn. -/
theorem turns_rejected (hcrossed : crossedBoundary r = false) : turns (events ++ [r]) = turns events := by
  have hsearch : attemptedSearch r = false := by rw [attemptedSearch, hcrossed, Bool.and_false]
  rw [turns, turns, List.filter_append, List.filter_singleton, hsearch]
  simp

/-- The retry of an event is checked against the failed events before it, and the automatic
retries of its root. -/
theorem retryOf_snoc_iff (h : Grown (Admits spec) events) (hstatus : status r = py "REJECTED") :
    (∃ t, RetryOf spec e (events ++ [r]) t) ↔ ∃ t, (retryOf e).bind (memberOf eventId events) = some t ∧ kind t = kind e ∧
      status t = py "FAILED" ∧
      (retryKind e = py "MANUAL" → (get spec.resources "manual_retry_policy").isStr "NEW_BUDGETED_EVENT" = true) ∧
      (automatic e = true → ∃ root, rootOf eventId retryOf events t = some root ∧
        automaticRetriesOf (eventId root) (events ++ [r]) < spec.automaticRetries) := by
  have hfound : ∀ t, status t = py "FAILED" → ((retryOf e).bind (memberOf eventId (events ++ [r])) = some t ↔
      (retryOf e).bind (memberOf eventId events) = some t) := by
    intro t ht
    rw [Option.bind_eq_some_iff, Option.bind_eq_some_iff]
    refine exists_congr fun k => and_congr_right fun _ => ?_
    by_cases hk : k ∈ events.map eventId
    · rw [memberOf_append hk]
    · have hne : ∀ u, memberOf eventId events k ≠ some u := fun u hu => by
        obtain ⟨hmem, rfl⟩ := memberOf_eq_some hu
        exact hk (List.mem_map_of_mem hmem)
      constructor
      · intro ht'
        obtain ⟨hmem, hid⟩ := memberOf_eq_some ht'
        rcases List.mem_append.mp hmem with hmem | hmem
        · exact absurd (hid ▸ List.mem_map_of_mem hmem) hk
        · rw [List.mem_singleton.mp hmem, hstatus] at ht
          exact absurd ht (by decide +kernel)
      · intro ht'
        exact absurd ht' (hne t)
  refine exists_congr fun t => ?_
  constructor
  · intro ht
    have hmember := (hfound t ht.failed).mp ht.found
    obtain ⟨k, -, hk⟩ := Option.bind_eq_some_iff.mp hmember
    refine ⟨hmember, ht.kind, ht.failed, ht.manual, fun hauto => ?_⟩
    rw [← (attached h).rootOf_append [r] (memberOf_eq_some hk).1]
    exact ht.automatic hauto
  · rintro ⟨hmember, hkind, hfailed, hmanual, hauto⟩
    obtain ⟨k, -, hk⟩ := Option.bind_eq_some_iff.mp hmember
    refine ⟨(hfound t hfailed).mpr hmember, hkind, hfailed, hmanual, fun ha => ?_⟩
    rw [(attached h).rootOf_append [r] (memberOf_eq_some hk).1]
    exact hauto ha

/-- The root whose automatic retries an automatic retry is counted among. -/
def retryRoot (prior : List Json) (event : Json) : Option Json :=
  ((retryOf event).bind (memberOf eventId prior)).bind (rootOf eventId retryOf prior)

/-- An automatic retry that takes the last allowance of its root. -/
def TakesLastAllowance (spec : SearchSpecV2) (prior : List Json) (event : Json) : Prop :=
  automatic event = true ∧ ∃ root, retryRoot prior event = some root ∧
    automaticRetriesOf (eventId root) prior + 1 = spec.automaticRetries

/-- An admitted automatic retry has a root, which it adds one retry to. -/
theorem automatic_root (h : Grown (Admits spec) events) (hr : Admits spec events r) (hauto : automatic r = true) :
    ∃ root, retryRoot events r = some root ∧ automaticRetriesOf (eventId root) events < spec.automaticRetries ∧
      ∀ k, automaticRetriesOf k (events ++ [r]) = automaticRetriesOf k events + if eventId root = k then 1 else 0 := by
  have hretry := (admits_iff.mp hr).2.2.2
  have hkind : retryKind r ≠ py "NONE" := by
    rw [of_decide_eq_true hauto]
    decide +kernel
  rw [checkRetry_ok_iff, if_neg hkind] at hretry
  obtain ⟨target, htarget⟩ := hretry
  obtain ⟨root, hroot, hlt⟩ := htarget.automatic hauto
  refine ⟨root, ?_, hlt, fun k => ?_⟩
  · rw [retryRoot, htarget.found]
    exact hroot
  · rw [automaticRetriesOf_snoc h, rootOf_retry h htarget, hroot, hauto, Option.map_some, Bool.true_and]
    simp

/-- An event that is no automatic retry adds none. -/
theorem automaticRetriesOf_manual (h : Grown (Admits spec) events) (hauto : automatic r = false) (k : PyStr) :
    automaticRetriesOf k (events ++ [r]) = automaticRetriesOf k events := by
  rw [automaticRetriesOf_snoc h, hauto]
  rfl

/-- The allowances of a root are left as they were, unless the last one was taken. -/
theorem allowance_iff (h : Grown (Admits spec) events) (hr : Admits spec events r)
    (hlast : ¬ TakesLastAllowance spec events r) (k : PyStr) :
    automaticRetriesOf k (events ++ [r]) < spec.automaticRetries ↔ automaticRetriesOf k events < spec.automaticRetries := by
  cases hauto : automatic r with
  | false => rw [automaticRetriesOf_manual h hauto]
  | true =>
    obtain ⟨root, hroot, hlt, hcount⟩ := automatic_root h hr hauto
    rw [hcount]
    split_ifs with hk
    · subst hk
      have hne : automaticRetriesOf (eventId root) events + 1 ≠ spec.automaticRetries :=
        fun heq => hlast ⟨hauto, root, hroot, heq⟩
      omega
    · rw [Nat.add_zero]

/-- A rejected event that leaves an allowance changes nothing for the events after it. -/
theorem admits_rejected_iff (h : Grown (Admits spec) events) (hr : Admits spec events r) (hstatus : status r = py "REJECTED")
    (hlast : ¬ TakesLastAllowance spec events r) (hid : eventId e ≠ eventId r) :
    Admits spec (events ++ [r]) e ↔ Admits spec events e := by
  have hturn : checkTurn e (events ++ [r]) = checkTurn e events := by
    unfold checkTurn
    rw [turns_rejected (not_crossed_of_rejected (admits_iff.mp hr).1 hstatus)]
  have hids : eventId e ∉ (events ++ [r]).map eventId ↔ eventId e ∉ events.map eventId := by
    rw [List.map_append, List.mem_append, List.map_singleton, List.mem_singleton]
    simp [hid]
  have hretry : checkRetry spec e (events ++ [r]) = .ok () ↔ checkRetry spec e events = .ok () := by
    rw [checkRetry_ok_iff, checkRetry_ok_iff]
    split_ifs
    · rfl
    · rw [retryOf_snoc_iff h hstatus]
      refine exists_congr fun t => ?_
      constructor
      · rintro ⟨hfound, hkind, hfailed, hmanual, hauto⟩
        refine ⟨hfound, hkind, hfailed, hmanual, fun ha => ?_⟩
        obtain ⟨root, hroot, hlt⟩ := hauto ha
        exact ⟨root, hroot, (allowance_iff h hr hlast _).mp hlt⟩
      · intro ht
        refine ⟨ht.found, ht.kind, ht.failed, ht.manual, fun ha => ?_⟩
        obtain ⟨root, hroot, hlt⟩ := ht.automatic ha
        exact ⟨root, hroot, (allowance_iff h hr hlast _).mpr hlt⟩
  rw [admits_iff, admits_iff, hids, hturn, hretry]

end LookingBack

section Renaming

omit [PyRuntime]

/-- The event under another identity. -/
def renamed (id : PyStr) : Json → Json
  | .obj fields => .obj (fields.map fun f => (f.1, if f.1 = py "event_id" then .str id else f.2))
  | event => event

variable {id : PyStr}

theorem lookup_renamed (fields : List (PyStr × Json)) (k : PyStr) :
    (fields.map fun f => (f.1, if f.1 = py "event_id" then Json.str id else f.2)).lookup k =
      (fields.lookup k).map fun v => if k = py "event_id" then .str id else v :=
  lookup_mapValues (fun k v => if k = py "event_id" then Json.str id else v) fields k

theorem get_renamed (event : Json) {k : PyStr} (hk : k ≠ py "event_id") : get (renamed id event) k = get event k := by
  cases event with
  | obj fields =>
    rw [renamed, get, get, dictGet, dictGet, lookup_renamed]
    cases fields.lookup k with
    | none => rfl
    | some v => simp [hk]
  | _ => rfl

theorem keys_renamed (fields : List (PyStr × Json)) :
    (fields.map fun f => (f.1, if f.1 = py "event_id" then Json.str id else f.2)).map Prod.fst = fields.map Prod.fst := by
  rw [List.map_map]
  rfl

theorem eventId_renamed {fields : List (PyStr × Json)} (h : py "event_id" ∈ fields.map Prod.fst) :
    eventId (renamed id (.obj fields)) = id := by
  rw [eventId, renamed, get, dictGet, lookup_renamed, lookup_of_key h, Option.map_some, if_pos rfl]
  rfl

example : eventId (renamed (py "b") (.obj [("kind", .str "call"), ("event_id", .str "a")])) = py "b" := by
  decide +kernel

theorem sortKeys_renamed (event : Json) : sortKeys (renamed id event) = renamed id (sortKeys event) := by
  cases event with
  | obj fields =>
    have hsort : ∀ l : List (PyStr × Json), (l.insertionSort fun f g => strLe f.1 g.1 = true).map
        (fun f => (f.1, if f.1 = py "event_id" then Json.str id else f.2)) =
          (l.map fun f => (f.1, if f.1 = py "event_id" then Json.str id else f.2)).insertionSort
            fun f g => strLe f.1 g.1 = true := fun l => List.map_insertionSort _ _ _ _ fun _ _ _ _ => Iff.rfl
    rw [renamed, sortKeys_obj, sortKeys_obj, renamed, Json.obj.injEq, sortedFields, sortedFields, map_sortFields,
      map_sortFields, hsort, List.map_map, List.map_map]
    congr 1
    apply List.map_congr_left
    intro f _
    dsimp only [Function.comp]
    split_ifs <;> rfl
  | _ => rfl

/-- What holds of an event holds of it under another identity, when it holds of that. -/
theorem forall_renamed {P : PyStr → Json → Prop} {fields : List (PyStr × Json)} (h : ∀ f ∈ fields, P f.1 f.2)
    (hid : P (py "event_id") (.str id)) :
    ∀ f ∈ fields.map fun f => (f.1, if f.1 = py "event_id" then Json.str id else f.2), P f.1 f.2 := by
  intro f hf
  obtain ⟨f, hmem, rfl⟩ := List.mem_map.mp hf
  dsimp only
  split_ifs with hk
  · rw [hk]
    exact hid
  · exact h f hmem

theorem fits_renamed {event : Json} (h : Fits eventSchema event) (hid : Fits textSchema (.str id)) :
    Fits eventSchema (renamed id event) := by
  rw [eventSchema, obj, Fits] at h ⊢
  obtain ⟨fields, rfl, hrequired, hallowed, hfields⟩ := h
  refine ⟨_, rfl, ?_, ?_, forall_renamed hfields ?_⟩
  · rwa [keys_renamed]
  · rwa [keys_renamed]
  · rw [fitsProperty_iff]
    exact ⟨textSchema, rfl, hid⟩

end Renaming

section Anew

variable {spec : SearchSpecV2} {events : List Json} {r : Json} {id : PyStr}

omit [PyRuntime] in
theorem checkStatus_renamed (event : Json) : checkStatus (renamed id event) = checkStatus event := by
  have hmeasures : ∀ k ∈ (["money", "tokens"] : List PyStr), k ≠ py "event_id" := by decide +kernel
  have hzero : (∀ k ∈ (["money", "tokens"] : List PyStr), (get (get (renamed id event) k) "state").isStr "KNOWN" = true ∧
      pyEq (get (get (renamed id event) k) "value") (.int 0) = true) ↔ ∀ k ∈ (["money", "tokens"] : List PyStr),
        (get (get event k) "state").isStr "KNOWN" = true ∧ pyEq (get (get event k) "value") (.int 0) = true :=
    forall₂_congr fun k hk => by rw [get_renamed event (hmeasures k hk)]
  unfold checkStatus crossedBoundary status count
  simp (disch := decide +kernel) only [get_renamed, hzero]

omit [PyRuntime] in
theorem eventId_mem {fields : List (PyStr × Json)} (h : Fits eventSchema (.obj fields)) :
    py "event_id" ∈ fields.map Prod.fst := by
  obtain ⟨_, ⟨⟩, hkeys⟩ := fits_obj_keys h
  rw [hkeys]
  decide +kernel

/-- An event stays well formed under another identity. -/
theorem wellFormed_renamed (h : WellFormed spec r) (hid : Fits textSchema (.str id)) (hsafe : privateText id = false) :
    WellFormed spec (renamed id r) where
  shape := fits_renamed h.shape hid
  safe := by
    obtain ⟨fields, rfl, -⟩ := fits_obj_keys h.shape
    have hfields := h.safe
    rw [contentSafe_obj_iff] at hfields
    rw [renamed, contentSafe_obj_iff]
    refine forall_renamed (P := fun k v => SafeKey k ∧ ContentSafe v) hfields ⟨?_, hsafe⟩
    obtain ⟨f, hf, hkey⟩ := List.mem_map.mp (eventId_mem h.shape)
    rw [← hkey]
    exact (hfields f hf).1
  tokens := by
    rw [get_renamed r (by decide +kernel)]
    exact h.tokens
  money := by
    rw [get_renamed r (by decide +kernel)]
    exact h.money
  status := by
    rw [checkStatus_renamed]
    exact h.status
  unit := by
    have hunit := h.unit
    unfold checkUnit SearchSpecV2.expectedUnit kind crossedBoundary at hunit ⊢
    simpa (disch := decide +kernel) only [get_renamed] using hunit

/-- An identity that none of the events has. -/
theorem exists_fresh (events : List Json) : ∃ id : PyStr, id ∉ events.map eventId ∧ Fits textSchema (.str id) ∧
    privateText id = false := by
  refine ⟨List.replicate (top (events.map fun e => (eventId e).length) + 1) 97, fun hmem => ?_, ?_, ?_⟩
  · obtain ⟨e, he, hid⟩ := List.mem_map.mp hmem
    have hle := le_top (List.mem_map_of_mem (f := fun e => (eventId e).length) he)
    rw [hid, List.length_replicate] at hle
    omega
  · rw [textSchema, Fits]
    refine ⟨_, rfl, by simp, ?_⟩
    rw [List.any_replicate, if_neg (Nat.succ_ne_zero _)]
    decide +kernel
  · have hplain : ∀ c ∈ List.replicate (top (events.map fun e => (eventId e).length) + 1) 97, c = 97 :=
      fun c hc => List.eq_of_mem_replicate hc
    apply privateText_of_plain
    · intro hm
      exact absurd (hplain 37 hm) (by decide)
    · intro c hc
      rw [hplain c hc]
      decide +kernel

example : eventId (.obj [("event_id", .str "a")]) = py "a" := by decide +kernel

/-- After the last allowance of a root was taken by a rejected event, the same retry is turned away
under another identity. -/
theorem exists_displaced (h : Grown (Admits spec) events) (hr : Admits spec events r)
    (hlast : TakesLastAllowance spec events r) : ∃ id, id ≠ eventId r ∧ Fits textSchema (.str id) ∧
      Admits spec events (renamed id r) ∧ ¬ Admits spec (events ++ [r]) (renamed id r) := by
  obtain ⟨id, hid, htext, hsafe⟩ := exists_fresh (events ++ [r])
  obtain ⟨hwell, -, hturn, hretry⟩ := admits_iff.mp hr
  obtain ⟨hauto, root, hroot, hcount⟩ := hlast
  have hkind : retryKind r ≠ py "NONE" := by
    rw [of_decide_eq_true hauto]
    decide +kernel
  have hnew : eventId (renamed id r) = id := by
    obtain ⟨fields, rfl, -⟩ := fits_obj_keys hwell.shape
    exact eventId_renamed (eventId_mem hwell.shape)
  have hsame : ∀ k ≠ py "event_id", get (renamed id r) k = get r k := fun k hk => get_renamed r hk
  have hretryKind : retryKind (renamed id r) = retryKind r := by rw [retryKind, retryKind, hsame _ (by decide +kernel)]
  have hretryOf : retryOf (renamed id r) = retryOf r := by rw [retryOf, retryOf, hsame _ (by decide +kernel)]
  have hkindOf : kind (renamed id r) = kind r := by rw [kind, kind, hsame _ (by decide +kernel)]
  have hautoOf : automatic (renamed id r) = automatic r := by rw [automatic, automatic, hretryKind]
  have hturnOf : checkTurn (renamed id r) events = checkTurn r events := by
    unfold checkTurn attemptedSearch crossedBoundary turn count
    rw [hkindOf, hsame _ (by decide +kernel), hsame _ (by decide +kernel)]
  rw [List.map_append, List.mem_append, List.map_singleton, List.mem_singleton, not_or] at hid
  rw [checkRetry_ok_iff, if_neg hkind] at hretry
  obtain ⟨target, htarget⟩ := hretry
  refine ⟨id, hid.2, htext, admits_iff.mpr ⟨wellFormed_renamed hwell htext hsafe, ?_, ?_, ?_⟩, fun hafter => ?_⟩
  · rw [hnew]
    exact hid.1
  · rw [hturnOf]
    exact hturn
  · rw [checkRetry_ok_iff, hretryKind, if_neg hkind]
    refine ⟨target, ?_, ?_, htarget.failed, ?_, ?_⟩
    · rw [hretryOf]
      exact htarget.found
    · rw [hkindOf]
      exact htarget.kind
    · rw [hretryKind]
      exact htarget.manual
    · rw [hautoOf]
      exact htarget.automatic
  · have hlater := (admits_iff.mp hafter).2.2.2
    rw [checkRetry_ok_iff, hretryKind, if_neg hkind] at hlater
    obtain ⟨target', htarget'⟩ := hlater
    obtain ⟨root', hroot', hlt⟩ := htarget'.automatic (hautoOf.trans hauto)
    have hgrown := attached (Grown.snoc h hr)
    obtain ⟨k, hk, hfound⟩ := htarget.memberOf
    have hmem := memberOf_eq_some hfound
    have hsame' : target' = target := by
      have hfound' := htarget'.found
      rw [hretryOf, hk, Option.bind_some, memberOf_append (hmem.2 ▸ List.mem_map_of_mem hmem.1), hfound] at hfound'
      exact (Option.some.inj hfound').symm
    rw [retryRoot, htarget.found, Option.bind_some] at hroot
    rw [hsame', (attached h).rootOf_append [r] hmem.1, hroot, Option.some.injEq] at hroot'
    subst hroot'
    obtain ⟨root', hroot', -, hadded⟩ := automatic_root h hr hauto
    rw [retryRoot, htarget.found, Option.bind_some, hroot, Option.some.injEq] at hroot'
    subst hroot'
    rw [hadded, if_pos rfl, hcount] at hlt
    exact lt_irrefl _ hlt

end Anew

section Spending

variable {ledger after : ResourceLedger} {r : Json}

omit [PyRuntime] in
theorem eventId_sortKeys {event : Json} (h : UniqueKeys event) : eventId (sortKeys event) = eventId event := by
  rw [eventId, eventId, get_sortKeys h, asText_sortKeys]

omit [PyRuntime] in
theorem status_sortKeys {event : Json} (h : UniqueKeys event) : status (sortKeys event) = status event := by
  rw [status, status, get_sortKeys h, asText_sortKeys]

omit [PyRuntime] in
theorem automatic_sortKeys {event : Json} (h : UniqueKeys event) : automatic (sortKeys event) = automatic event := by
  rw [automatic, automatic, retryKind, retryKind, get_sortKeys h, asText_sortKeys]

omit [PyRuntime] in
theorem retryOf_sortKeys {event : Json} (h : UniqueKeys event) : retryOf (sortKeys event) = retryOf event := by
  rw [retryOf, retryOf, get_sortKeys h]
  cases get event "retry_of" <;> rfl

example : eventId (sortKeys (.obj [("kind", .str "call"), ("event_id", .str "a")])) = py "a" := by decide +kernel

theorem takesLastAllowance_sortKeys {spec : SearchSpecV2} {prior : List Json} {event : Json} (h : UniqueKeys event) :
    TakesLastAllowance spec prior (sortKeys event) ↔ TakesLastAllowance spec prior event := by
  rw [TakesLastAllowance, TakesLastAllowance, automatic_sortKeys h, retryRoot, retryRoot, retryOf_sortKeys h]

theorem written_renamed {id : PyStr} {event : Json} (h : Written event) : Written (renamed id event) := by
  obtain ⟨hprint, hnesting⟩ := h
  cases event with
  | obj fields =>
    rw [intsPrintable_obj, List.all_eq_true] at hprint
    rw [renamed]
    refine ⟨?_, ?_⟩
    · rw [intsPrintable_obj, List.all_eq_true]
      exact forall_renamed (P := fun _ v => intsPrintable v = true) hprint rfl
    · rw [nesting] at hnesting ⊢
      refine le_trans ?_ hnesting
      rw [Nat.add_le_add_iff_right, Nat.add_le_add_iff_right, fieldsNesting_le_iff]
      exact forall_renamed (P := fun _ v => nesting v ≤ fieldsNesting fields) ((fieldsNesting_le_iff _ _).mp le_rfl)
        (Nat.zero_le _)
  | _ => exact ⟨hprint, hnesting⟩

theorem legible_renamed {id : PyStr} {event : Json} (h : Legible event) : Legible (renamed id event) := by
  cases event with
  | obj fields =>
    rw [Legible, fieldsLegible_iff] at h
    rw [renamed, Legible, fieldsLegible_iff, keys_renamed]
    exact ⟨h.1, forall_renamed (P := fun _ v => Legible v) h.2 trivial⟩
  | _ => exact h

/-- A rejected event changes nothing for the event after it exactly when it is no automatic retry
that takes the last allowance of its root. -/
theorem rejected_spends_nothing_iff [RoundTripFloats] (hr : Legible r) (hstatus : status r = py "REJECTED")
    (h : ledger.append r = .ok after) :
    (∀ e, Legible e → eventId e ≠ eventId r →
      ((∃ next, ledger.append e = .ok next) ↔ ∃ next, after.append e = .ok next)) ↔
        ¬ TakesLastAllowance ledger.spec ledger.events r := by
  obtain ⟨hwritten, hadmits, hspec, -, hevents⟩ := (append_eq_ok_iff hr).mp h
  have hhistory := ledger.history
  rw [← takesLastAllowance_sortKeys hr.uniqueKeys]
  constructor
  · intro hall hlast
    obtain ⟨id, hid, -, hbefore, hafter⟩ := exists_displaced hhistory hadmits hlast
    have hlegible : Legible (renamed id r) := legible_renamed hr
    have hnew : eventId (renamed id r) = id := by
      have hshape := (admits_iff.mp hadmits).1.shape
      cases r with
      | obj fields =>
        rw [sortKeys_obj] at hshape
        exact eventId_renamed ((keys_sortedFields fields).mem_iff.mp (eventId_mem hshape))
      | _ =>
        obtain ⟨_, hobj, -⟩ := fits_obj_keys hshape
        cases hobj
    rw [eventId_sortKeys hr.uniqueKeys] at hid
    have hsame := hall (renamed id r) hlegible (by rwa [hnew])
    rw [exists_append_iff ledger hlegible, exists_append_iff after hlegible, hspec, hevents, sortKeys_renamed] at hsame
    exact hafter (hsame.mp ⟨written_renamed hwritten, hbefore⟩).2
  · intro hlast e he hid
    have hsame : Admits ledger.spec (ledger.events ++ [sortKeys r]) (sortKeys e) ↔ Admits ledger.spec ledger.events (sortKeys e) := by
      apply admits_rejected_iff hhistory hadmits _ hlast
      · rwa [eventId_sortKeys he.uniqueKeys, eventId_sortKeys hr.uniqueKeys]
      · rwa [status_sortKeys hr.uniqueKeys]
    rw [exists_append_iff ledger he, exists_append_iff after he, hspec, hevents, hsame]

end Spending

end Ledger

section Sample

open Python.Whole

/-- A rejected event is appended to the ledger of the sample. -/
theorem exists_rejected (retry : Option PyStr) (hfloats : floatless (sampleEvent "two" true retry) = true)
    (hsorted : sortKeys (sampleEvent "two" true retry) = sampleEvent "two" true retry)
    (hwritten : Written (sampleEvent "two" true retry))
    (hadmits : Admits sampleLedger.spec sampleLedger.events (sampleEvent "two" true retry)) :
    ∃ after, sampleLedger.append (sampleEvent "two" true retry) = .ok after :=
  (exists_append hfloats hsorted hwritten hadmits).imp fun _ h => h.1

/-- A rejected event that is no retry changes nothing for the events after it. -/
theorem rejected_spends_nothing_sample : ∃ after, sampleLedger.append (sampleEvent "two" true none) = .ok after ∧
    ∀ e, Legible e → eventId e ≠ py "two" →
      ((∃ next, sampleLedger.append e = .ok next) ↔ ∃ next, after.append e = .ok next) := by
  obtain ⟨after, happend⟩ := exists_rejected none (by decide +kernel) rfl ⟨by decide +kernel, by decide +kernel⟩
    (by decide +kernel)
  have hnot : ¬ TakesLastAllowance sampleDeclaration sampleLedger.events (sampleEvent "two" true none) := fun h => by
    have hauto : automatic (sampleEvent "two" true none) = false := by decide +kernel
    rw [h.1] at hauto
    cases hauto
  exact ⟨after, happend, (rejected_spends_nothing_iff (legible_of_floatless (by decide +kernel)) (by decide +kernel)
    happend).mpr hnot⟩

/-- A rejected automatic retry of the failed request leaves no allowance for the next one. -/
theorem rejected_spends_allowance : ∃ (ledger after : ResourceLedger) (r e : Json), status r = py "REJECTED" ∧
    ledger.append r = .ok after ∧ eventId e ≠ eventId r ∧ (∃ next, ledger.append e = .ok next) ∧
      ¬ ∃ next, after.append e = .ok next := by
  obtain ⟨after, happend⟩ := exists_rejected (some "one") (by decide +kernel) rfl
    ⟨by decide +kernel, by decide +kernel⟩ (by decide +kernel)
  have hlegible : Legible (sampleEvent "three" false (some "one")) := legible_of_floatless (by decide +kernel)
  have hrejected : Legible (sampleEvent "two" true (some "one")) := legible_of_floatless (by decide +kernel)
  have hsorted : sortKeys (sampleEvent "three" false (some "one")) = sampleEvent "three" false (some "one") := rfl
  have hafter : ¬ Admits sampleDeclaration [sampleEvent "one" false none, sampleEvent "two" true (some "one")]
      (sampleEvent "three" false (some "one")) := by decide +kernel
  obtain ⟨-, -, hsame, -, hlater⟩ := (append_eq_ok_iff hrejected).mp happend
  have hadmits : Admits sampleLedger.spec sampleLedger.events (sampleEvent "three" false (some "one")) := by decide +kernel
  obtain ⟨next, hnext, -⟩ := exists_append (by decide +kernel) hsorted ⟨by decide +kernel, by decide +kernel⟩ hadmits
  have hevents : after.events = [sampleEvent "one" false none, sampleEvent "two" true (some "one")] := hlater
  have hspec : after.spec = sampleDeclaration := hsame
  refine ⟨sampleLedger, after, _, _, by decide +kernel, happend, by decide +kernel, ⟨next, hnext⟩, ?_⟩
  rw [exists_append_iff after hlegible, hspec, hevents, hsorted]
  exact fun h => hafter h.2

end Sample

end EvaluationLab.SearchCup
