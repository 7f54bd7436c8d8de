import EvaluationLab.CSLive.EpochStore

/-! What holds of the store after any sequence of calls: the epochs are distinct, linked and
spaced, and every call leaves one event. -/
namespace EvaluationLab.CSLive
open Python Effect

section Events

/-- The fields of an event that its store adds. -/
def linkKeys : List PyStr := ["sequence", "previous_hash", "event_hash"]

theorem rejectedData_keys (now : Option ℤ) (code : PyStr) :
    ∀ k ∈ linkKeys, k ∉ (rejectedData now code).map Prod.fst := by
  have hall : ∀ k ∈ linkKeys, k ∉ ([py "kind", py "state", py "time", py "error_code", py "no_stale_fallback"] :
    List PyStr) := by decide +kernel
  exact hall

theorem successData_keys (now : ℤ) (epoch : Epoch) (fingerprint : PyStr) :
    ∀ k ∈ linkKeys, k ∉ (successData now epoch fingerprint).map Prod.fst := by
  have hall : ∀ k ∈ linkKeys, k ∉ ([py "kind", py "state", py "time", py "epoch_id", py "epoch_fingerprint",
    py "payload_hash", py "record_count"] : List PyStr) := by decide +kernel
  exact hall

theorem lastHash_append (events : List Event) (event : Event) :
    lastHash (events ++ [event]) = dictGet event "event_hash" := by
  simp [lastHash]

/-- A field that comes first is read from there. -/
theorem dictGet_append_left {fields : List (PyStr × Json)} (more : List (PyStr × Json)) {key : PyStr} {value : Json}
    (h : fields.lookup key = some value) : dictGet (fields ++ more) key = value := by
  rw [dictGet, List.lookup_append, h]
  rfl

theorem dictGet_append_right {fields : List (PyStr × Json)} (more : List (PyStr × Json)) {key : PyStr}
    (h : key ∉ fields.map Prod.fst) : dictGet (fields ++ more) key = dictGet more key := by
  have hnone : fields.lookup key = none := by
    rw [List.lookup_eq_none_iff]
    intro f hf
    exact bne_iff_ne.mpr fun he => h (he ▸ List.mem_map_of_mem hf)
  rw [dictGet, List.lookup_append, hnone]
  rfl

theorem intPrintable_place (length : ℕ) : intPrintable (place length) = true := by
  apply intPrintable_of_small
  unfold place
  omega

theorem digestible_link {events : List Event} (h : Digestible (lastHash events)) : Digestible (.obj (link events)) := by
  have hkeys : encodable (py "sequence") = true ∧ encodable (py "previous_hash") = true := by decide +kernel
  rw [link, digestible_obj, List.forall_mem_cons, List.forall_mem_singleton, digestible_int]
  exact ⟨⟨hkeys.1, intPrintable_place _⟩, hkeys.2, h⟩

theorem digestible_append {fields more : List (PyStr × Json)} (hfields : Digestible (.obj fields))
    (hmore : Digestible (.obj more)) : Digestible (.obj (fields ++ more)) := by
  rw [digestible_obj] at hfields hmore ⊢
  exact List.forall_mem_append.mpr ⟨hfields, hmore⟩

theorem encodable_hexDigest (d : BitVec 256) : encodable (QA0.hexDigest d) = true := by
  apply encodable_of_ascii
  intro c hc
  have hhex : ∀ n < 16, hexDigit n < 128 := by decide
  obtain ⟨i, -, rfl⟩ := List.mem_map.mp hc
  exact hhex _ (Nat.mod_lt _ (by decide))

variable [PyRuntime]

theorem encodable_digest {value : Json} {hash : PyStr} (h : digest value = .ok hash) : encodable hash = true := by
  rw [((digest_eq_ok_iff value hash).mp h).2]
  exact encodable_hexDigest _

/-- The digest of a document that can be digested is a text that can be encoded. -/
theorem exists_digest {value : Json} (h : Digestible value) :
    ∃ hash, digest value = .ok hash ∧ encodable hash = true :=
  ⟨_, digest_of h, encodable_hexDigest _⟩

/-- Data that can be digested becomes the last event. -/
theorem event_of (store : EpochStore) {data : Event} (hdata : Digestible (.obj data))
    (hhash : Digestible (lastHash store.events)) (hkeys : ∀ k ∈ linkKeys, k ∉ data.map Prod.fst) :
    ∃ event, store.event data = .ok { store with events := store.events ++ [event] } ∧
      (∃ more, event = data ++ more) ∧ Digestible (dictGet event "event_hash") := by
  obtain ⟨hash, hdigest, hencode⟩ := exists_digest (digestible_append hdata (digestible_link hhash))
  refine ⟨data ++ link store.events ++ ([("event_hash", .str hash)] : Event), ?_, ⟨_, List.append_assoc _ _ _⟩, ?_⟩
  · unfold EpochStore.event sealEvent
    rw [hdigest]
    rfl
  · rw [List.append_assoc, dictGet_append_right _ (hkeys _ (by simp [linkKeys])),
      dictGet_append_right _ (show py "event_hash" ∉ [py "sequence", py "previous_hash"] by decide +kernel)]
    simpa [dictGet] using hencode

end Events

section Runs

variable [PyRuntime] (policy : SourcePolicy) (parseRss : List UInt8 → Except PyExc (List SourceRecord × ℕ))

/-- The call passes every check that comes before its payload is parsed. -/
def Reaches (store : EpochStore) (clock : Except PyExc Json) (call : IngestCall) (now : ℤ) (id : PyStr)
    (payload : List UInt8) : Prop :=
  readClock clock = .ok now ∧ (∃ s, store.admitTime policy now = .ok s) ∧ (∃ s, store.admitId call.epochId = .ok (id, s)) ∧
    admitResponse policy call = .ok payload

/-- A `SourceError` whose code can be written in an event. -/
def Recordable (e : PyExc) : Prop := e.isA "SourceError" ∧ encodable e.message = true

/-- Nothing disturbs the call. The clock raises nothing that is not an `Exception`, and no
`SourceError` whose code cannot be encoded. Where the call passes its checks, the parser raises
only codes that can be encoded, what it accepts can be digested under the policy and the id, and
the time since the last epoch does not round up to the interval. -/
structure Undisturbed (store : EpochStore) (clock : Except PyExc Json) (call : IngestCall) : Prop where
  clock_raises : ∀ e, clock = .error e → Recordable e ∨ ¬e.isA "SourceError" ∧ e.isA "Exception"
  parser_raises : ∀ now id payload e, Reaches policy store clock call now id payload → parseRss payload = .error e →
    Recordable e
  digestible : ∀ now id payload records dupes, Reaches policy store clock call now id payload →
    parseRss payload = .ok (records, dupes) →
      Digestible policy.toJson ∧ encodable id = true ∧ (∀ r ∈ records, Digestible r.toJson) ∧ intPrintable dupes = true
  elapsed_exact : ∀ now id payload records dupes, Reaches policy store clock call now id payload →
    parseRss payload = .ok (records, dupes) → ∀ epoch ∈ store.epochs.getLast?, ∀ last ∈ store.lastAttempt,
      epoch.fetchedAt = isoformat last → policy.minIntervalSeconds ≤ totalSeconds (now - last) →
        policy.minIntervalSeconds * 1000000 ≤ now - last

/-- The stores that undisturbed calls lead to. -/
inductive Reached : EpochStore → Prop where
  | new : Reached .new
  | ingest {store : EpochStore} (clock : Except PyExc Json) (call : IngestCall) : Reached store →
      Undisturbed policy parseRss store clock call → Reached (store.ingest policy parseRss clock call).2

omit [PyRuntime] in
/-- The later epoch was fetched an interval or more after the earlier. -/
def Spaced (earlier later : Epoch) : Prop :=
  ∃ t u, earlier.fetchedAt = isoformat t ∧ later.fetchedAt = isoformat u ∧
    policy.minIntervalSeconds * 1000000 ≤ u - t

/-- The later epoch names the fingerprint of the earlier. -/
def Follows (earlier later : Epoch) : Prop :=
  ∃ fingerprint, earlier.fingerprint = .ok fingerprint ∧ later.previousFingerprint = some fingerprint

def isSuccess (event : Event) : Bool := (dictGet event "state").isStr "SUCCESS"

example : isSuccess [("kind", .str "EPOCH"), ("state", .str "SUCCESS")] = true := by decide +kernel

/-- What holds of a store between calls. -/
structure Kept (store : EpochStore) : Prop where
  ids_distinct : (store.epochs.map Epoch.epochId).Nodup
  first_alone : ∀ epoch ∈ store.epochs.head?, epoch.previousFingerprint = none
  linked : store.epochs.IsChain Follows
  spaced : store.epochs.IsChain (Spaced policy)
  successes : (store.events.filter isSuccess).length = store.epochs.length

/-- What one call leaves behind. -/
structure Accounted (store : EpochStore) (outcome : Except PyExc Epoch × EpochStore) : Prop where
  one_event : ∃ event, outcome.2.events = store.events ++ [event]
  raised : ∀ e, outcome.1 = .error e → outcome.2.epochs = store.epochs ∧ outcome.2.current = none
  returned : ∀ epoch, outcome.1 = .ok epoch → outcome.2.current = some epoch ∧ outcome.2.epochs.getLast? = some epoch

/-- What a store keeps for the calls to come: ids are remembered, the last epoch can be digested
and either was fetched at the last attempt or half an interval before it. -/
structure Prepared (store : EpochStore) : Prop where
  ids_seen : ∀ epoch ∈ store.epochs, epoch.epochId ∈ store.seenIds
  hash_digestible : Digestible (lastHash store.events)
  last_digestible : ∀ epoch ∈ store.epochs.getLast?, Digestible epoch.toJson
  last_fetched : ∀ epoch ∈ store.epochs.getLast?, ∃ t last, epoch.fetchedAt = isoformat t ∧
    store.lastAttempt = some last ∧ (t = last ∨ policy.minIntervalSeconds * 1000000 ≤ 2 * (last - t))


section Refusals

omit [PyRuntime] in
theorem recordable_sourceError {code : PyStr} (h : encodable code = true) : Recordable (sourceError code) := by
  refine ⟨?_, h⟩
  simp [sourceError, PyExc.isA]

theorem awareTime_error {value : Json} {e : PyExc} (h : awareTime value = .error e) : Recordable e := by
  have hcode : Recordable (sourceError "INVALID_OBSERVATION_TIME") := recordable_sourceError (by decide +kernel)
  unfold awareTime at h
  split at h
  · split at h
    · split_ifs at h
      cases h
      exact hcode
    · cases h
      exact hcode
  · cases h
    exact hcode

theorem readClock_error {clock : Except PyExc Json} {e : PyExc}
    (hclock : ∀ e, clock = .error e → Recordable e ∨ ¬e.isA "SourceError" ∧ e.isA "Exception")
    (h : readClock clock = .error e) : Recordable e := by
  cases clock with
  | ok value => exact awareTime_error h
  | error raised =>
    unfold readClock at h
    dsimp only at h
    rcases hclock raised rfl with hsource | ⟨hother, hexception⟩
    · rw [if_pos hsource.1] at h
      cases h
      exact hsource
    · rw [if_neg hother, if_pos hexception] at h
      cases h
      exact recordable_sourceError (by decide +kernel)

omit [PyRuntime] in
theorem admitTime_error {policy : SourcePolicy} {store : EpochStore} {now : ℤ} {e : PyExc}
    (h : store.admitTime policy now = .error e) : Recordable e := by
  unfold EpochStore.admitTime at h
  split at h
  · cases h
  · split_ifs at h
    · cases h
      exact recordable_sourceError (by decide +kernel)
    · cases h
      exact recordable_sourceError (by decide +kernel)

example : encodable (py "EPOCH_ID_REUSED") = true := by decide +kernel

omit [PyRuntime] in
theorem admitId_error {store : EpochStore} {id : Json} {e : PyExc} (h : store.admitId id = .error e) :
    Recordable e := by
  have hcode : Recordable (sourceError "EPOCH_ID_REUSED") := recordable_sourceError (by decide +kernel)
  unfold EpochStore.admitId at h
  split at h
  · split_ifs at h
    cases h
    exact hcode
  · cases h
    exact hcode

omit [PyRuntime] in
theorem error_of_check_bind {α : Type} {c : Prop} [Decidable c] {e raised : PyExc} {f : Unit → Except PyExc α}
    (h : (check c e >>= f) = .error raised) : raised = e ∨ f () = .error raised := by
  by_cases hc : c
  · rw [check_of hc] at h
    exact .inr h
  · unfold check at h
    rw [if_neg hc] at h
    cases h
    exact .inl rfl

omit [PyRuntime] in
theorem admitResponse_error {policy : SourcePolicy} {call : IngestCall} {e : PyExc}
    (h : admitResponse policy call = .error e) : Recordable e := by
  unfold admitResponse at h
  rcases error_of_check_bind h with rfl | h
  · exact recordable_sourceError (by decide +kernel)
  rcases error_of_check_bind h with rfl | h
  · exact recordable_sourceError (by decide +kernel)
  have hstatus : Recordable (sourceError "SOURCE_RESPONSE_FAILED") := recordable_sourceError (by decide +kernel)
  dsimp only at h
  cases hs : call.responseStatus with
  | int status =>
    rw [hs] at h
    rcases error_of_check_bind h with rfl | h
    · exact hstatus
    · cases hpayload : call.payload with
      | none =>
        rw [hpayload] at h
        cases h
        exact recordable_sourceError (by decide +kernel)
      | some payload =>
        rw [hpayload] at h
        cases h
  | _ =>
    rw [hs] at h
    cases h
    exact hstatus

end Refusals

section Stages

omit [PyRuntime] in
/-- Half an interval passes between times whose distance rounds to an interval. -/
theorem half_interval {policy : SourcePolicy} {t u : ℤ}
    (h : (policy.minIntervalSeconds : ℚ) ≤ totalSeconds (u - t)) :
    policy.minIntervalSeconds * 1000000 ≤ 2 * (u - t) := by
  have hinterval := policy.interval_bound
  have hpos : 0 < u - t := by
    by_contra hneg
    have hle : ((u - t : ℤ) : ℚ) / 1000000 ≤ 0 := by
      apply div_nonpos_of_nonpos_of_nonneg
      · exact_mod_cast not_lt.mp hneg
      · norm_num
    have hround : roundEven (((u - t : ℤ) : ℚ) / 1000000 / ulp (((u - t : ℤ) : ℚ) / 1000000)) ≤ 0 := by
      apply roundEven_le_of_le
      push_cast
      exact div_nonpos_of_nonpos_of_nonneg (by exact_mod_cast hle) (ulp_pos _).le
    have hzero : totalSeconds (u - t) ≤ 0 :=
      mul_nonpos_of_nonpos_of_nonneg (by exact_mod_cast hround) (ulp_pos _).le
    have hbad : (policy.minIntervalSeconds : ℚ) ≤ 0 := le_trans h hzero
    have hbad' : policy.minIntervalSeconds ≤ 0 := by exact_mod_cast hbad
    omega
  have hnormal : 1 / 2 ^ 1022 ≤ ((u - t : ℤ) : ℚ) / 1000000 := by
    have hone : (1 : ℚ) ≤ ((u - t : ℤ) : ℚ) := by exact_mod_cast hpos
    calc (1 : ℚ) / 2 ^ 1022 ≤ 1 / 2 ^ 20 := one_div_le_one_div_of_le (by norm_num)
          (pow_le_pow_right₀ (by norm_num) (by norm_num))
      _ ≤ 1 / 1000000 := by norm_num
      _ ≤ ((u - t : ℤ) : ℚ) / 1000000 := by gcongr
  have hdouble := le_trans h (nearestFloat_le hnormal)
  have hmul : (policy.minIntervalSeconds : ℚ) * 1000000 ≤ 2 * ((u - t : ℤ) : ℚ) := by
    linarith
  exact_mod_cast hmul

omit [PyRuntime] in
/-- An admitted time becomes the last attempt, half an interval or more after the one before. -/
theorem admitTime_ok {policy : SourcePolicy} {store s : EpochStore} {now : ℤ}
    (h : store.admitTime policy now = .ok s) : s = { store with lastAttempt := some now } ∧
      ∀ last ∈ store.lastAttempt, (policy.minIntervalSeconds : ℚ) ≤ totalSeconds (now - last) := by
  unfold EpochStore.admitTime at h
  cases hlast : store.lastAttempt with
  | none =>
    rw [hlast] at h
    cases h
    exact ⟨rfl, by simp⟩
  | some last =>
    rw [hlast] at h
    dsimp only at h
    split_ifs at h with hneg hearly
    cases h
    refine ⟨rfl, ?_⟩
    intro t ht
    cases ht
    exact not_lt.mp hearly

omit [PyRuntime] in
theorem admitId_ok {store s : EpochStore} {value : Json} {id : PyStr} (h : store.admitId value = .ok (id, s)) :
    s = { store with seenIds := store.seenIds ++ [id] } ∧ id ∉ store.seenIds := by
  unfold EpochStore.admitId at h
  split at h
  · split_ifs at h with hused
    cases h
    exact ⟨rfl, fun hseen => hused (.inr hseen)⟩
  · cases h

omit [PyRuntime] in
/-- Whether a time is admitted does not depend on the current epoch. -/
theorem admitTime_of_current {policy : SourcePolicy} {store s : EpochStore} {now : ℤ}
    (h : EpochStore.admitTime { store with current := none } policy now = .ok s) :
    ∃ s, store.admitTime policy now = .ok s := by
  unfold EpochStore.admitTime at h ⊢
  dsimp only at h
  cases hlast : store.lastAttempt with
  | none => exact ⟨_, rfl⟩
  | some last =>
    rw [hlast] at h
    dsimp only at h ⊢
    split_ifs at h ⊢
    exact ⟨_, rfl⟩

omit [PyRuntime] in
/-- Whether an id is admitted depends on the ids that were seen. -/
theorem admitId_of_fields {store s s' : EpochStore} {value : Json} {id : PyStr} (hseen : s.seenIds = store.seenIds)
    (h : s.admitId value = .ok (id, s')) : ∃ s, store.admitId value = .ok (id, s) := by
  unfold EpochStore.admitId at h ⊢
  rw [hseen] at h
  cases value with
  | str text =>
    dsimp only at h ⊢
    split_ifs at h ⊢ with hused
    cases h
    exact ⟨_, rfl⟩
  | _ => cases h

example : encodable parserVersion = true := by decide +kernel

/-- What is read from a payload that the parser accepts. -/
theorem readEpoch_of (previous : Option Epoch) (now : ℤ) {id : PyStr} {payload : List UInt8}
    {records : List SourceRecord} {dupes : ℕ} (hparse : parseRss payload = .ok (records, dupes))
    (hpolicy : Digestible policy.toJson) (hid : encodable id = true) (hrecords : ∀ r ∈ records, Digestible r.toJson)
    (hdupes : intPrintable dupes = true) (hprevious : ∀ epoch ∈ previous, Digestible epoch.toJson) :
    ∃ epoch, readEpoch policy parseRss previous now id payload = .ok epoch ∧ epoch.epochId = id ∧
      epoch.fetchedAt = isoformat now ∧ (previous = none → epoch.previousFingerprint = none) ∧
      (∀ before ∈ previous, Follows before epoch) ∧ Digestible epoch.toJson := by
  obtain ⟨policyHash, hpolicyHash, hpolicyEncode⟩ := exists_digest hpolicy
  have hsource := ((digestible_policy policy).mp hpolicy).1
  have hversion : encodable parserVersion = true := by decide +kernel
  unfold readEpoch SourcePolicy.fingerprint
  rw [hparse, hpolicyHash]
  cases previous with
  | none =>
    refine ⟨_, rfl, rfl, rfl, fun _ => rfl, by simp, ?_⟩
    rw [digestible_epoch]
    simp only [List.forall_mem_cons, List.not_mem_nil, false_imp_iff, implies_true, and_true]
    exact ⟨⟨hid, hsource, encodable_isoformat now, hpolicyEncode, encodable_hexDigest _⟩, hrecords, hdupes, by simp,
      hversion⟩
  | some before =>
    obtain ⟨hash, hhash, hencode⟩ := exists_digest (hprevious before rfl)
    have hfingerprint : before.fingerprint = .ok hash := hhash
    dsimp only
    rw [hfingerprint]
    refine ⟨_, rfl, rfl, rfl, by simp, ?_, ?_⟩
    · intro b hb
      cases hb
      exact ⟨hash, hfingerprint, rfl⟩
    · rw [digestible_epoch]
      simp only [List.forall_mem_cons, List.not_mem_nil, false_imp_iff, implies_true, and_true]
      refine ⟨⟨hid, hsource, encodable_isoformat now, hpolicyEncode, encodable_hexDigest _⟩, hrecords, hdupes, ?_,
        hversion⟩
      intro t ht
      cases ht
      exact hencode

end Stages

section Step

variable {policy : SourcePolicy} {parseRss : List UInt8 → Except PyExc (List SourceRecord × ℕ)}

omit [PyRuntime] in
/-- A store within a call, before any epoch is appended. -/
structure Attempted (policy : SourcePolicy) (store s : EpochStore) : Prop where
  epochs_eq : s.epochs = store.epochs
  current_none : s.current = none
  events_eq : s.events = store.events
  ids_kept : ∀ id ∈ store.seenIds, id ∈ s.seenIds
  attempt : s.lastAttempt = store.lastAttempt ∨ ∃ now, s.lastAttempt = some now ∧
    ∀ last ∈ store.lastAttempt, (policy.minIntervalSeconds : ℚ) ≤ totalSeconds (now - last)

omit [PyRuntime] in
theorem isSuccess_cons (kind : Json) (state : PyStr) (more : Event) :
    isSuccess ((py "kind", kind) :: (py "state", .str state) :: more) = (state == py "SUCCESS") := by
  have hne : (py "state" == py "kind") = false := by decide +kernel
  unfold isSuccess dictGet
  rw [List.lookup_cons, hne]
  dsimp only
  rw [List.lookup_cons, beq_self_eq_true]
  rfl

omit [PyRuntime] in
/-- A store whose time and ids have moved on stays prepared. -/
example : isSuccess [("state", .str "REJECTED"), ("state", .str "SUCCESS")] = false := by decide +kernel

theorem Prepared.attempted {store s : EpochStore} {event : Event} (h : Prepared policy store)
    (hs : Attempted policy store s) (hevent : Digestible (dictGet event "event_hash")) :
    Prepared policy { s with events := s.events ++ [event] } := by
  constructor
  · intro epoch hepoch
    dsimp only at hepoch
    rw [hs.epochs_eq] at hepoch
    exact hs.ids_kept _ (h.ids_seen epoch hepoch)
  · rw [lastHash_append]
    exact hevent
  · dsimp only
    rw [hs.epochs_eq]
    exact h.last_digestible
  · dsimp only
    rw [hs.epochs_eq]
    intro epoch hepoch
    obtain ⟨t, last, hfetched, hlast, hapart⟩ := h.last_fetched epoch hepoch
    rcases hs.attempt with hsame | ⟨now, hnow, hwaited⟩
    · exact ⟨t, last, hfetched, hsame.trans hlast, hapart⟩
    · have hhalf := half_interval (hwaited last hlast)
      have hinterval := policy.interval_bound
      refine ⟨t, now, hfetched, hnow, .inr ?_⟩
      rcases hapart with rfl | hapart <;> omega

/-- A recorded refusal leaves one event and the epochs as they were. -/
theorem reject_step {store s : EpochStore} {now : Option ℤ} {e : PyExc} (hprepared : Prepared policy store)
    (hkept : Kept policy store) (hs : Attempted policy store s) (he : Recordable e) :
    Accounted store (s.reject now e) ∧ Kept policy (s.reject now e).2 ∧ Prepared policy (s.reject now e).2 := by
  have hhash : Digestible (lastHash s.events) := by
    rw [hs.events_eq]
    exact hprepared.hash_digestible
  have hdata : Digestible (.obj (rejectedData now e.message)) := by
    have hkeys : (["kind", "INGEST", "state", "REJECTED", "time", "error_code", "no_stale_fallback"] :
        List PyStr).all encodable = true := by decide +kernel
    simp only [List.all_cons, List.all_nil, Bool.and_eq_true] at hkeys
    have htime : ∀ t ∈ now.map isoformat, encodable t = true := by
      intro t ht
      obtain ⟨time, -, rfl⟩ := Option.map_eq_some_iff.mp ht
      exact encodable_isoformat time
    simp only [rejectedData, digestible_obj, List.forall_mem_cons, digestible_str, digestible_bool,
      digestible_optionJson, hkeys, he.2, List.not_mem_nil, false_imp_iff, implies_true, and_true, true_and]
    exact htime
  obtain ⟨event, hevent, ⟨more, hmore⟩, heventHash⟩ := event_of s hdata hhash (rejectedData_keys now e.message)
  have hreject : s.reject now e = (.error e, { s with events := s.events ++ [event] }) := by
    unfold EpochStore.reject
    rw [if_pos he.1, hevent]
  rw [hreject]
  refine ⟨⟨⟨event, ?_⟩, ?_, ?_⟩, ?_, hprepared.attempted hs heventHash⟩
  · dsimp only
    rw [hs.events_eq]
  · intro _ _
    exact ⟨hs.epochs_eq, hs.current_none⟩
  · intro epoch hepoch
    cases hepoch
  · have hfailed : isSuccess event = false := by
      rw [hmore]
      exact (isSuccess_cons _ _ _).trans (by decide +kernel)
    have hsuccesses := hkept.successes
    rw [← hs.epochs_eq, ← hs.events_eq] at hsuccesses
    constructor
    · exact hs.epochs_eq ▸ hkept.ids_distinct
    · exact hs.epochs_eq ▸ hkept.first_alone
    · exact hs.epochs_eq ▸ hkept.linked
    · exact hs.epochs_eq ▸ hkept.spaced
    · simpa [List.filter_append, hfailed] using hsuccesses

/-- An epoch that was read, and what of the store it follows. -/
structure Read (policy : SourcePolicy) (store s : EpochStore) (now : ℤ) (epoch : Epoch) : Prop where
  attempted : Attempted policy store s
  now_eq : s.lastAttempt = some now
  id_new : epoch.epochId ∉ store.seenIds
  id_seen : epoch.epochId ∈ s.seenIds
  fetched : epoch.fetchedAt = isoformat now
  digestible : Digestible epoch.toJson
  first_alone : store.epochs.getLast? = none → epoch.previousFingerprint = none
  follows : ∀ before ∈ store.epochs.getLast?, Follows before epoch
  spaced : ∀ before ∈ store.epochs.getLast?, Spaced policy before epoch

theorem Kept.accepted {store s : EpochStore} {now : ℤ} {epoch : Epoch} {event : Event} (hkept : Kept policy store)
    (hprepared : Prepared policy store) (h : Read policy store s now epoch) (hevent : isSuccess event = true) :
    Kept policy { s with epochs := s.epochs ++ [epoch], current := some epoch, events := s.events ++ [event] } := by
  have hchain : ∀ {R : Epoch → Epoch → Prop}, store.epochs.IsChain R → (∀ before ∈ store.epochs.getLast?, R before epoch) →
      (store.epochs ++ [epoch]).IsChain R := by
    intro R hbefore hlast
    apply hbefore.append (.singleton _)
    intro before hmem after hafter
    cases hafter
    exact hlast before hmem
  constructor
  · dsimp only
    rw [h.attempted.epochs_eq, List.map_append, List.map_singleton, List.nodup_append]
    refine ⟨hkept.ids_distinct, List.nodup_singleton _, ?_⟩
    intro id hid id' hid' heq
    obtain ⟨before, hbefore, rfl⟩ := List.mem_map.mp hid
    rw [List.mem_singleton.mp hid'] at heq
    exact h.id_new (heq ▸ hprepared.ids_seen before hbefore)
  · dsimp only
    rw [h.attempted.epochs_eq]
    intro first hfirst
    cases hepochs : store.epochs with
    | nil =>
      rw [hepochs] at hfirst
      cases hfirst
      exact h.first_alone (by rw [hepochs]; rfl)
    | cons e es =>
      rw [hepochs] at hfirst
      exact hkept.first_alone first (by rw [hepochs]; exact hfirst)
  · dsimp only
    rw [h.attempted.epochs_eq]
    exact hchain hkept.linked h.follows
  · dsimp only
    rw [h.attempted.epochs_eq]
    exact hchain hkept.spaced h.spaced
  · dsimp only
    rw [h.attempted.epochs_eq, h.attempted.events_eq, List.filter_append, List.length_append, List.length_append,
      hkept.successes]
    simp [hevent]

theorem Prepared.accepted {store s : EpochStore} {now : ℤ} {epoch : Epoch} {event : Event}
    (hprepared : Prepared policy store) (h : Read policy store s now epoch)
    (hevent : Digestible (dictGet event "event_hash")) :
    Prepared policy { s with epochs := s.epochs ++ [epoch], current := some epoch, events := s.events ++ [event] } := by
  have hlast : ∀ {P : Epoch → Prop}, P epoch → ∀ e ∈ (s.epochs ++ [epoch]).getLast?, P e := by
    intro P hP e he
    rw [List.getLast?_concat] at he
    cases he
    exact hP
  constructor
  · dsimp only
    rw [h.attempted.epochs_eq, List.forall_mem_append, List.forall_mem_singleton]
    exact ⟨fun e he => h.attempted.ids_kept _ (hprepared.ids_seen e he), h.id_seen⟩
  · rw [lastHash_append]
    exact hevent
  · exact hlast h.digestible
  · exact hlast ⟨now, now, h.fetched, h.now_eq, .inl rfl⟩

/-- An epoch that was read is appended, and its event with it. -/
theorem accept_step {store s : EpochStore} {now : ℤ} {epoch : Epoch} (hprepared : Prepared policy store)
    (hkept : Kept policy store) (h : Read policy store s now epoch) :
    ∃ s', EpochStore.succeed { s with epochs := s.epochs ++ [epoch], current := some epoch } now epoch = .ok s' ∧
      Accounted store (.ok epoch, s') ∧ Kept policy s' ∧ Prepared policy s' := by
  obtain ⟨fingerprint, hfingerprint, hencode⟩ := exists_digest h.digestible
  have htexts := (digestible_epoch epoch).mp h.digestible
  have hdata : Digestible (.obj (successData now epoch fingerprint)) := by
    have hkeys : (["kind", "INGEST", "state", "SUCCESS", "time", "epoch_id", "epoch_fingerprint", "payload_hash",
        "record_count"] : List PyStr).all encodable = true := by decide +kernel
    simp only [List.all_cons, List.all_nil, Bool.and_eq_true] at hkeys
    simp only [List.forall_mem_cons] at htexts
    simp only [successData, digestible_obj, List.forall_mem_cons, digestible_str, digestible_int, hkeys, hencode,
      htexts, encodable_isoformat, intPrintable_pyLen, List.not_mem_nil, false_imp_iff, implies_true, and_true]
  have hhash : Digestible (lastHash s.events) := by
    rw [h.attempted.events_eq]
    exact hprepared.hash_digestible
  obtain ⟨event, hevent, ⟨more, hmore⟩, heventHash⟩ :=
    event_of { s with epochs := s.epochs ++ [epoch], current := some epoch } hdata hhash (successData_keys now epoch fingerprint)
  have hsuccess : isSuccess event = true := by
    rw [hmore]
    exact (isSuccess_cons _ _ _).trans (by decide +kernel)
  have hsucceed : EpochStore.succeed { s with epochs := s.epochs ++ [epoch], current := some epoch } now epoch =
      .ok { s with epochs := s.epochs ++ [epoch], current := some epoch, events := s.events ++ [event] } := by
    unfold EpochStore.succeed Epoch.fingerprint
    rw [hfingerprint]
    exact hevent
  refine ⟨_, hsucceed, ⟨⟨event, ?_⟩, ?_, ?_⟩, hkept.accepted hprepared h hsuccess, hprepared.accepted h heventHash⟩
  · dsimp only
    rw [h.attempted.events_eq]
  · intro e he
    cases he
  · intro returned hreturned
    cases hreturned
    exact ⟨rfl, List.getLast?_concat⟩

/-- One undisturbed call. -/
theorem ingest_step {store : EpochStore} {clock : Except PyExc Json} {call : IngestCall}
    (hprepared : Prepared policy store) (hkept : Kept policy store)
    (h : Undisturbed policy parseRss store clock call) :
    Accounted store (store.ingest policy parseRss clock call) ∧ Kept policy (store.ingest policy parseRss clock call).2 ∧
      Prepared policy (store.ingest policy parseRss clock call).2 := by
  have hstart : Attempted policy store { store with current := none } :=
    ⟨rfl, rfl, rfl, fun _ hid => hid, .inl rfl⟩
  unfold EpochStore.ingest
  dsimp only
  cases hclock : readClock clock with
  | error e => exact reject_step hprepared hkept hstart (readClock_error h.clock_raises hclock)
  | ok now =>
    dsimp only
    cases htime : EpochStore.admitTime { store with current := none } policy now with
    | error e => exact reject_step hprepared hkept hstart (admitTime_error htime)
    | ok s =>
      obtain ⟨rfl, hwaited⟩ := admitTime_ok htime
      dsimp only
      cases hid : EpochStore.admitId { store with current := none, lastAttempt := some now } call.epochId with
      | error e =>
        refine reject_step hprepared hkept ?_ (admitId_error hid)
        exact ⟨rfl, rfl, rfl, fun _ hid => hid, .inr ⟨now, rfl, hwaited⟩⟩
      | ok admitted =>
        obtain ⟨id, s⟩ := admitted
        obtain ⟨rfl, hnew⟩ := admitId_ok hid
        have hattempted : Attempted policy store { store with
            current := none, lastAttempt := some now, seenIds := store.seenIds ++ [id] } :=
          ⟨rfl, rfl, rfl, fun _ hid => List.mem_append_left _ hid, .inr ⟨now, rfl, hwaited⟩⟩
        dsimp only
        cases hresponse : admitResponse policy call with
        | error e => exact reject_step hprepared hkept hattempted (admitResponse_error hresponse)
        | ok payload =>
          have hreaches : Reaches policy store clock call now id payload :=
            ⟨hclock, admitTime_of_current htime,
              admitId_of_fields (s := { store with current := none, lastAttempt := some now }) rfl hid, hresponse⟩
          cases hparse : parseRss payload with
          | error e =>
            have hread : (Except.ok payload >>= readEpoch policy parseRss store.epochs.getLast? now id) = .error e := by
              change readEpoch policy parseRss store.epochs.getLast? now id payload = _
              unfold readEpoch
              rw [hparse]
              rfl
            rw [hread]
            exact reject_step hprepared hkept hattempted (h.parser_raises now id payload e hreaches hparse)
          | ok parsed =>
            obtain ⟨records, dupes⟩ := parsed
            obtain ⟨hpolicy, hidEncode, hrecords, hdupes⟩ := h.digestible now id payload records dupes hreaches hparse
            obtain ⟨epoch, hepoch, hepochId, hfetched, hfirst, hfollows, hdigestible⟩ :=
              readEpoch_of policy parseRss store.epochs.getLast? now hparse hpolicy hidEncode hrecords hdupes
                hprepared.last_digestible
            have hread : (Except.ok payload >>= readEpoch policy parseRss store.epochs.getLast? now id) = .ok epoch :=
              hepoch
            rw [hread]
            have hspaced : ∀ before ∈ store.epochs.getLast?, Spaced policy before epoch := by
              intro before hbefore
              obtain ⟨t, last, hthen, hlast, hapart⟩ := hprepared.last_fetched before hbefore
              refine ⟨t, now, hthen, hfetched, ?_⟩
              rcases hapart with rfl | hapart
              · exact h.elapsed_exact now id payload records dupes hreaches hparse before hbefore t hlast hthen
                  (hwaited t hlast)
              · have hhalf := half_interval (hwaited last hlast)
                omega
            obtain ⟨s', hsucceed, hstep⟩ := accept_step hprepared hkept ⟨hattempted, rfl, hepochId ▸ hnew,
              hepochId ▸ List.mem_append_right _ List.mem_cons_self, hfetched, hdigestible, hfirst, hfollows, hspaced⟩
            dsimp only at hsucceed ⊢
            rw [hsucceed]
            exact hstep

theorem kept_new : Kept policy .new :=
  ⟨List.nodup_nil, by simp [EpochStore.new], .nil, .nil, rfl⟩

theorem reached_invariant {store : EpochStore} (h : Reached policy parseRss store) :
    Kept policy store ∧ Prepared policy store := by
  induction h with
  | new =>
    refine ⟨kept_new, ?_, ?_, ?_, ?_⟩
    · simp [EpochStore.new]
    · simp [lastHash, EpochStore.new]
    · simp [EpochStore.new]
    · simp [EpochStore.new]
  | ingest clock call _ hcall ih => exact (ingest_step ih.2 ih.1 hcall).2

/-- Every undisturbed call leaves one event and keeps the store. -/
theorem ingest_accounted {store : EpochStore} (hstore : Reached policy parseRss store) {clock : Except PyExc Json}
    {call : IngestCall} (hcall : Undisturbed policy parseRss store clock call) :
    Kept policy store ∧ Kept policy (store.ingest policy parseRss clock call).2 ∧
      Accounted store (store.ingest policy parseRss clock call) := by
  obtain ⟨hkept, hprepared⟩ := reached_invariant hstore
  obtain ⟨haccounted, hkept', -⟩ := ingest_step hprepared hkept hcall
  exact ⟨hkept, hkept', haccounted⟩

end Step

end Runs

section Frozen

open Python.Ascii

def frozenPolicy : SourcePolicy where
  sourceId := "synthetic-rss"
  sourceUrl := "https://source.example.invalid/jobs/rss"
  allowedItemHost := "source.example.invalid"
  maxInputBytes := 2097152
  maxItems := 100
  maxBodyBytes := 32768
  minIntervalSeconds := 86400
  mode := "SYNTHETIC_ONLY"
  mode_synthetic := rfl
  sourceId_given := by decide
  maxInputBytes_bound := by decide
  maxItems_bound := by decide
  maxBodyBytes_bound := by decide
  interval_bound := by decide

/-- A feed without items. -/
def frozenFeed : List UInt8 := utf8 (py "<rss><channel></channel></rss>")

/-- What the parser makes of that feed; it takes no other. -/
def frozenParse (payload : List UInt8) : Except PyExc (List SourceRecord × ℕ) :=
  if payload = frozenFeed then .ok ([], 0) else .error (sourceError "INVALID_XML")

def frozenClock : Except PyExc Json := .ok (.str "2026-07-06T12:05:06Z")

def frozenCall (epochId : PyStr) : IngestCall where
  payload := some frozenFeed
  epochId := .str epochId
  sourceUrl := frozenPolicy.sourceUrl
  responseStatus := .int 200
  finalUrl := none

theorem undisturbed_frozen : Undisturbed frozenPolicy frozenParse .new frozenClock (frozenCall "epoch-1") where
  clock_raises e he := by cases he
  parser_raises now id payload e _ hparse := by
    unfold frozenParse at hparse
    split_ifs at hparse
    cases hparse
    exact recordable_sourceError (by decide +kernel)
  digestible now id payload records dupes hreaches hparse := by
    obtain ⟨-, -, ⟨s, hid⟩, -⟩ := hreaches
    have hidEq : id = py "epoch-1" := by
      unfold EpochStore.admitId frozenCall at hid
      dsimp only at hid
      split_ifs at hid
      cases hid
      rfl
    unfold frozenParse at hparse
    split_ifs at hparse
    cases hparse
    refine ⟨(digestible_policy frozenPolicy).mpr ⟨?_, ?_, ?_, ?_⟩, ?_, by simp, ?_⟩
    · decide +kernel
    · decide +kernel
    · decide +kernel
    · exact intPrintable_of_small (by decide)
    · rw [hidEq]
      decide +kernel
    · exact intPrintable_of_small (by decide)
  elapsed_exact now id payload records dupes _ _ epoch hepoch := by cases hepoch

/-- The first call for a feed without items. -/
theorem ingest_accounted_frozen :
    Kept frozenPolicy (EpochStore.new.ingest frozenPolicy frozenParse frozenClock (frozenCall "epoch-1")).2 ∧
      (EpochStore.new.ingest frozenPolicy frozenParse frozenClock (frozenCall "epoch-1")).2.epochs.length = 1 :=
  ⟨(ingest_accounted Reached.new undisturbed_frozen).2.1, by decide +kernel⟩

/-- The same call under an id with a lone surrogate: an epoch is left behind, and no event. -/
theorem surrogate_epoch_unrecorded :
    (EpochStore.new.ingest frozenPolicy frozenParse frozenClock (frozenCall [0xD800])).2.epochs.length = 1 ∧
      (EpochStore.new.ingest frozenPolicy frozenParse frozenClock (frozenCall [0xD800])).2.events = [] ∧
      ¬Accounted .new (EpochStore.new.ingest frozenPolicy frozenParse frozenClock (frozenCall [0xD800])) := by
  have hevents : (EpochStore.new.ingest frozenPolicy frozenParse frozenClock (frozenCall [0xD800])).2.events = [] := by
    rw [← List.length_eq_zero_iff]
    decide +kernel
  refine ⟨by decide +kernel, hevents, ?_⟩
  rintro ⟨⟨event, hevent⟩, -, -⟩
  rw [hevents] at hevent
  cases hevent

end Frozen

end EvaluationLab.CSLive
