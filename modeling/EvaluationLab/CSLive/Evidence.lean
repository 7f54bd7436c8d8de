import EvaluationLab.CSLive.Searching
import EvaluationLab.Python.Dict
import EvaluationLab.Python.Equality
import EvaluationLab.Structure.HashChain

/-! `verify_chain`: it accepts the events of every run, and the last hash of a chain that it
accepts binds every event before. -/
namespace EvaluationLab.CSLive
open Python Effect Structure

/-- `{k: v for k, v in event.items() if k != "event_hash"}`. -/
def payload (event : Event) : Event := event.filter fun f => f.1 ≠ py "event_hash"

section Verify

variable [PyRuntime]

/-- The events from place `i` on, the first of them after the hash `previous`. -/
def verifyFrom : (i : ℕ) → (previous : Json) → List Event → Except PyExc Bool
  | _, _, [] => .ok true
  | i, previous, event :: events =>
    if ¬pyEq (dictGet event "sequence") (.int (place i)) ∨ ¬pyEq (dictGet event "previous_hash") previous then .ok false
    else do
      let hash ← digest (.obj (payload event))
      if ¬pyEq (dictGet event "event_hash") (.str hash) then return false
      verifyFrom (i + 1) (dictGet event "event_hash") events

def verifyChain (events : List Event) : Except PyExc Bool := verifyFrom 0 .null events

/-- The event at place `i` names the hash before it and its own. -/
def Names (i : ℕ) (previous : Option PyStr) (event : Event) (hash : PyStr) : Prop :=
  pyEq (dictGet event "sequence") (.int (place i)) = true ∧ dictGet event "previous_hash" = optionJson previous ∧
    digest (.obj (payload event)) = .ok hash ∧ dictGet event "event_hash" = .str hash

omit [PyRuntime] in
theorem pyEq_optionJson (v : Json) (text : Option PyStr) : pyEq v (optionJson text) = true ↔ v = optionJson text := by
  cases text with
  | none => exact pyEq_null v
  | some t => exact pyEq_str v t

theorem verifyFrom_iff (i : ℕ) (previous : Option PyStr) (events : List Event) :
    verifyFrom i (optionJson previous) events = .ok true ↔ ∃ q, Linked Names i previous events q := by
  induction events generalizing i previous with
  | nil => exact ⟨fun _ => ⟨previous, .nil⟩, fun _ => rfl⟩
  | cons event events ih =>
    rw [verifyFrom]
    constructor
    · intro h
      by_cases hlink : ¬pyEq (dictGet event "sequence") (.int (place i)) ∨
          ¬pyEq (dictGet event "previous_hash") (optionJson previous)
      · rw [if_pos hlink] at h
        cases h
      rw [if_neg hlink] at h
      rw [not_or, not_not, not_not, pyEq_optionJson] at hlink
      obtain ⟨hash, hdigest, h⟩ := bind_eq_ok_iff.mp h
      by_cases hown : ¬pyEq (dictGet event "event_hash") (.str hash)
      · rw [if_pos hown] at h
        cases h
      rw [if_neg hown] at h
      rw [not_not, pyEq_str] at hown
      rw [hown] at h
      obtain ⟨q, hq⟩ := (ih (i + 1) (some hash)).mp h
      exact ⟨q, .cons ⟨hlink.1, hlink.2, hdigest, hown⟩ hq⟩
    · rintro ⟨q, hq⟩
      cases hq with
      | @cons _ _ _ _ hash _ hnames hrest =>
        obtain ⟨hsequence, hprevious, hdigest, hown⟩ := hnames
        have hlink : ¬(¬pyEq (dictGet event "sequence") (.int (place i)) ∨
            ¬pyEq (dictGet event "previous_hash") (optionJson previous)) := by
          rw [not_or, not_not, not_not, pyEq_optionJson]
          exact ⟨hsequence, hprevious⟩
        have hstr : ¬¬pyEq (dictGet event "event_hash") (.str hash) := by
          rw [not_not, pyEq_str]
          exact hown
        rw [if_neg hlink, hdigest]
        change (if ¬pyEq (dictGet event "event_hash") (.str hash) then _ else _) = _
        rw [if_neg hstr, hown]
        exact (ih (i + 1) (some hash)).mpr ⟨q, hrest⟩

/-- A list that the verifier accepts, and the hash it ends with. -/
def Chained (events : List Event) : Prop := ∃ q, Linked Names 0 none events q ∧ lastHash events = optionJson q

theorem Chained.verified {events : List Event} (h : Chained events) : verifyChain events = .ok true := by
  obtain ⟨q, hq, -⟩ := h
  exact (verifyFrom_iff 0 none events).mpr ⟨q, hq⟩

/-- A sealed body that names its place and the last hash extends the chain. -/
theorem Chained.append {events : List Event} {body event : Event} (h : Chained events)
    (hsequence : body.lookup (py "sequence") = some (.int (place events.length)))
    (hprevious : body.lookup (py "previous_hash") = some (lastHash events)) (hown : py "event_hash" ∉ body.map Prod.fst)
    (hseal : sealEvent body = .ok event) : Chained (events ++ [event]) := by
  obtain ⟨q, hq, hlast⟩ := h
  obtain ⟨hash, hdigest, hevent⟩ := bind_eq_ok_iff.mp hseal
  obtain rfl := pure_eq_ok_iff.mp hevent
  have hpayload : payload (body ++ ([("event_hash", .str hash)] : Event)) = body := by
    have hbody : body.filter (fun f => f.1 ≠ py "event_hash") = body := by
      rw [List.filter_eq_self]
      intro f hf
      exact decide_eq_true fun he => hown (he ▸ List.mem_map_of_mem hf)
    rw [payload, List.filter_append, hbody]
    simp
  have hhash : dictGet (body ++ ([("event_hash", .str hash)] : Event)) "event_hash" = .str hash := by
    rw [dictGet_append_right _ hown]
    simp [dictGet]
  refine ⟨some hash, hq.snoc ⟨?_, ?_, ?_, hhash⟩, ?_⟩
  · rw [dictGet_append_left _ hsequence, Nat.zero_add]
    exact pyEq_int_self _
  · rw [dictGet_append_left _ hprevious, hlast]
  · rw [hpayload]
    exact hdigest
  · rw [lastHash_append, hhash]
    rfl

end Verify

section Ingesting

variable [PyRuntime] (policy : SourcePolicy) (parseRss : List UInt8 → Except PyExc (List SourceRecord × ℕ))

/-- The stores that any calls lead to. -/
inductive Ingested : EpochStore → Prop where
  | new : Ingested .new
  | ingest {store : EpochStore} (clock : Except PyExc Json) (call : IngestCall) : Ingested store →
      Ingested (store.ingest policy parseRss clock call).2

variable {policy parseRss}

/-- Data that is recorded extends the chain. -/
theorem Chained.event {store s : EpochStore} {data : Event} (h : Chained store.events)
    (hkeys : ∀ k ∈ linkKeys, k ∉ data.map Prod.fst) (hs : store.event data = .ok s) : Chained s.events := by
  obtain ⟨event, hseal, hevent⟩ := bind_eq_ok_iff.mp hs
  obtain rfl := pure_eq_ok_iff.mp hevent
  have hlookup : ∀ k ∈ linkKeys, (data ++ link store.events).lookup k = (link store.events).lookup k := by
    intro k hk
    have hnone : data.lookup k = none := by
      rw [List.lookup_eq_none_iff]
      intro f hf
      exact bne_iff_ne.mpr fun he => hkeys k hk (he ▸ List.mem_map_of_mem hf)
    rw [List.lookup_append, hnone]
    rfl
  apply h.append ?_ ?_ ?_ hseal
  · rw [hlookup _ (by simp [linkKeys]), link, List.lookup_cons, beq_self_eq_true]
  · have hne : (py "previous_hash" == py "sequence") = false := by decide +kernel
    rw [hlookup _ (by simp [linkKeys]), link, List.lookup_cons, hne]
    dsimp only
    rw [List.lookup_cons, beq_self_eq_true]
  · rw [List.map_append, List.mem_append, not_or]
    refine ⟨hkeys _ (by simp [linkKeys]), ?_⟩
    have hlink : py "event_hash" ∉ [py "sequence", py "previous_hash"] := by decide +kernel
    exact hlink

theorem Chained.reject (store : EpochStore) (h : Chained store.events) (now : Option ℤ) (e : PyExc) :
    Chained (store.reject now e).2.events := by
  unfold EpochStore.reject
  split_ifs
  · cases hevent : store.event (rejectedData now e.message) with
    | ok s => exact h.event (rejectedData_keys now e.message) hevent
    | error raised => exact h
  · exact h

theorem Chained.succeed (store : EpochStore) {s : EpochStore} {now : ℤ} {epoch : Epoch} (h : Chained store.events)
    (hs : store.succeed now epoch = .ok s) : Chained s.events := by
  obtain ⟨fingerprint, -, hevent⟩ := bind_eq_ok_iff.mp hs
  exact h.event (successData_keys now epoch fingerprint) hevent

theorem Chained.ingest {store : EpochStore} (h : Chained store.events) (clock : Except PyExc Json) (call : IngestCall) :
    Chained (store.ingest policy parseRss clock call).2.events := by
  unfold EpochStore.ingest
  dsimp only
  cases readClock clock with
  | error e => exact Chained.reject { store with current := none } h none e
  | ok now =>
    dsimp only
    cases htime : EpochStore.admitTime { store with current := none } policy now with
    | error e => exact Chained.reject { store with current := none } h (some now) e
    | ok s =>
      obtain ⟨rfl, -⟩ := admitTime_ok htime
      dsimp only
      cases hid : EpochStore.admitId { store with current := none, lastAttempt := some now } call.epochId with
      | error e => exact Chained.reject { store with current := none, lastAttempt := some now } h (some now) e
      | ok admitted =>
        obtain ⟨id, s⟩ := admitted
        obtain ⟨rfl, -⟩ := admitId_ok hid
        dsimp only
        cases admitResponse policy call >>= readEpoch policy parseRss store.epochs.getLast? now id with
        | error e => exact Chained.reject { store with
            current := none, lastAttempt := some now, seenIds := store.seenIds ++ [id] } h (some now) e
        | ok epoch =>
          dsimp only
          cases hsucceed : EpochStore.succeed { store with
              epochs := store.epochs ++ [epoch], current := some epoch, lastAttempt := some now,
              seenIds := store.seenIds ++ [id] } now epoch with
          | error e => exact Chained.reject { store with
              epochs := store.epochs ++ [epoch], current := some epoch, lastAttempt := some now,
              seenIds := store.seenIds ++ [id] } h (some now) e
          | ok s => exact Chained.succeed { store with
              epochs := store.epochs ++ [epoch], current := some epoch, lastAttempt := some now,
              seenIds := store.seenIds ++ [id] } h hsucceed

theorem ingested_chained {store : EpochStore} (h : Ingested policy parseRss store) : Chained store.events := by
  induction h with
  | new => exact ⟨none, .nil, rfl⟩
  | ingest clock call _ ih => exact ih.ingest clock call

end Ingesting

section Seeking

variable [PyRuntime]

/-- The retrievers that any calls lead to. -/
inductive Sought (fts : Fts5) (opened : Retriever) : Retriever → Prop where
  | opened : Sought fts opened opened
  | search {r : Retriever} (clock : Except PyExc Json) (request : SearchRequest) : Sought fts opened r →
      Sought fts opened (r.search fts clock request).2

theorem Chained.record (r : Retriever) (h : Chained r.provenance) (stamp : PyStr) (request : SearchRequest)
    (f : Finding) : Chained (r.record stamp request f).2.provenance := by
  unfold Retriever.record
  cases hevent : r.searchEvent stamp request f with
  | error e => exact h
  | ok event =>
    unfold Retriever.searchEvent at hevent
    simp only [bind_eq_ok_iff] at hevent
    obtain ⟨epochFingerprint, -, configFingerprint, -, fingerprints, -, hseal⟩ := hevent
    apply h.append ?_ ?_ ?_ hseal
    · rw [List.lookup_append, link, List.lookup_cons, beq_self_eq_true]
      rfl
    · have hne : (py "previous_hash" == py "sequence") = false := by decide +kernel
      rw [List.lookup_append, link, List.lookup_cons, hne]
      dsimp only
      rw [List.lookup_cons, beq_self_eq_true]
      rfl
    · rw [List.map_append, searchData_keys]
      have hkeys : py "event_hash" ∉ [py "sequence", py "previous_hash"] ++ searchKeys := by decide +kernel
      exact hkeys

theorem Chained.search {fts : Fts5} {r : Retriever} (h : Chained r.provenance) (clock : Except PyExc Json)
    (request : SearchRequest) : Chained (r.search fts clock request).2.provenance := by
  unfold Retriever.search
  cases clock >>= awareTime with
  | error e => exact h
  | ok now =>
    dsimp only
    cases r.judge (isoformat now) request with
    | error e => exact h
    | ok verdict =>
      cases verdict with
      | rejected code => exact Chained.record r h _ _ _
      | admitted entrant query => exact Chained.record (r.countCall entrant) h _ _ _

theorem sought_chained {fts : Fts5} {opened r : Retriever} (ho : Opened opened) (h : Sought fts opened r) :
    Chained r.provenance := by
  induction h with
  | opened =>
    rw [ho.provenance_nil]
    exact ⟨none, .nil, rfl⟩
  | search clock request _ ih => exact ih.search clock request

end Seeking

section Binding

/-- The same event but for the order of its keys. -/
def SameEvent (event event' : Event) : Prop := sortKeys (.obj event) = sortKeys (.obj event')

variable [PyRuntime]

/-- No two events of the lists have payloads of one digest and different texts. -/
def CollisionFree (events events' : List Event) : Prop :=
  ∀ e ∈ events, ∀ e' ∈ events', PyRuntime.sha256 (utf8 (render (.obj (payload e)))) =
    PyRuntime.sha256 (utf8 (render (.obj (payload e')))) →
      utf8 (render (.obj (payload e))) = utf8 (render (.obj (payload e')))

theorem legible_payload {event : Event} (h : Legible (.obj event)) : Legible (.obj (payload event)) := by
  rw [Legible, fieldsLegible_iff] at h ⊢
  exact ⟨(List.filter_sublist.map _).nodup h.1, fun f hf => h.2 f (List.mem_of_mem_filter hf)⟩

omit [PyRuntime] in
/-- An event is its payload and its own hash. -/
theorem sameEvent_payload {event : Event} {hash : PyStr} (h : (event.map Prod.fst).Nodup)
    (hown : dictGet event "event_hash" = .str hash) :
    SameEvent event ((py "event_hash", .str hash) :: payload event) :=
  sortKeys_perm (perm_cons_filter h (mem_of_dictGet hown)) h

omit [PyRuntime] in
/-- The same events have the same texts. -/
theorem SameEvent.text {e e' : Event} (h : SameEvent e e') (hkeys : (e'.map Prod.fst).Nodup) {k t : PyStr}
    (hk : dictGet e k = .str t) : dictGet e' k = .str t := by
  have hsorted : (k, sortKeys (.str t)) ∈ (sortFields e).insertionSort fun f g => strLe f.1 g.1 = true := by
    rw [List.mem_insertionSort, map_sortFields]
    exact List.mem_map_of_mem (mem_of_dictGet hk)
  rw [SameEvent, sortKeys, sortKeys, Json.obj.injEq] at h
  rw [h, List.mem_insertionSort, map_sortFields] at hsorted
  obtain ⟨⟨k', v⟩, hmem, heq⟩ := List.mem_map.mp hsorted
  rw [Prod.mk.injEq] at heq
  obtain ⟨rfl, hv⟩ := heq
  have hstr : v = .str t := by
    cases v with
    | str s => exact hv
    | _ => cases hv
  rw [dictGet, lookup_of_mem hkeys hmem, hstr]
  rfl

/-- Payloads of one digest are those of the same event. -/
theorem names_bind {e e' : Event} {m n : ℕ} {p p' : Option PyStr} {h : PyStr} (he : Names m p e h) (he' : Names n p' e' h)
    (hlegible : Legible (.obj e)) (hlegible' : Legible (.obj e'))
    (hfree : PyRuntime.sha256 (utf8 (render (.obj (payload e)))) = PyRuntime.sha256 (utf8 (render (.obj (payload e')))) →
      utf8 (render (.obj (payload e))) = utf8 (render (.obj (payload e')))) :
    p = p' ∧ SameEvent e e' := by
  obtain ⟨-, hprevious, hdigest, hown⟩ := he
  obtain ⟨-, hprevious', hdigest', hown'⟩ := he'
  obtain ⟨hdigestible, hhash⟩ := (digest_eq_ok_iff _ _).mp hdigest
  obtain ⟨hdigestible', hhash'⟩ := (digest_eq_ok_iff _ _).mp hdigest'
  have hbytes := hfree (QA0.hexDigest_injective (hhash.symm.trans hhash'))
  have hencode : ∀ v : Json, Digestible v → encodable (render v) = true := by
    intro v hv
    rw [encodable_render, List.all_eq_true]
    exact hv.texts_encodable
  have htext := utf8_injective (hencode _ hdigestible) (hencode _ hdigestible') hbytes
  have hpayload := sortKeys_eq_of_render_eq (legible_payload hlegible) (legible_payload hlegible')
    hdigestible.ints_printable hdigestible'.ints_printable htext
  have hkeys : (e.map Prod.fst).Nodup := by
    rw [Legible] at hlegible
    exact hlegible.1
  have hkeys' : (e'.map Prod.fst).Nodup := by
    rw [Legible] at hlegible'
    exact hlegible'.1
  have hsame : SameEvent e e' :=
    ((sameEvent_payload hkeys hown).trans (sortKeys_cons _ hpayload)).trans (sameEvent_payload hkeys' hown').symm
  refine ⟨?_, hsame⟩
  cases p with
  | some t =>
    have ht := hsame.text hkeys' hprevious
    rw [hprevious'] at ht
    cases p' with
    | none => cases ht
    | some t' => exact congrArg some (Json.str.inj ht).symm
  | none =>
    cases p' with
    | none => rfl
    | some t' =>
      have ht := SameEvent.text (Eq.symm hsame) hkeys hprevious'
      rw [hprevious] at ht
      cases ht

end Binding

section Chains

variable [PyRuntime]

/-- The hash a chain leads to is the last event's own. -/
theorem last_hash {i : ℕ} {events : List Event} {q : Option PyStr} (h : Linked Names i none events q) :
    q.map Json.str = events.getLast?.map fun e => dictGet e "event_hash" := by
  induction events using List.reverseRecOn with
  | nil =>
    cases h
    rfl
  | append_singleton events e _ =>
    obtain ⟨_, hash, _, hnames, rfl⟩ := h.of_snoc
    rw [List.getLast?_concat, Option.map_some, Option.map_some, hnames.2.2.2]

/-- The events of every run are accepted, and lists that are accepted with one last hash hold the
same events. -/
theorem chains_verify_and_bind :
    (∀ policy parseRss store, Ingested policy parseRss store → verifyChain store.events = .ok true) ∧
    (∀ fts identity epoch expectedRuntime entrants maxCalls maxResults opened r,
      openRetriever identity epoch expectedRuntime entrants maxCalls maxResults = .ok opened → Sought fts opened r →
        verifyChain r.provenance = .ok true) ∧
    ∀ events events' : List Event, verifyChain events = .ok true → verifyChain events' = .ok true →
      events.getLast?.map (fun e => dictGet e "event_hash") = events'.getLast?.map (fun e => dictGet e "event_hash") →
      (∀ e ∈ events, Legible (.obj e)) → (∀ e ∈ events', Legible (.obj e)) → CollisionFree events events' →
        List.Forall₂ SameEvent events events' := by
  refine ⟨?_, ?_, ?_⟩
  · intro policy parseRss store hstore
    exact (ingested_chained hstore).verified
  · intro fts identity epoch expectedRuntime entrants maxCalls maxResults opened r hopened hr
    exact (sought_chained (opened_of hopened) hr).verified
  · intro events events' hverified hverified' hlast hlegible hlegible' hfree
    obtain ⟨q, hq⟩ := (verifyFrom_iff 0 none events).mp hverified
    obtain ⟨q', hq'⟩ := (verifyFrom_iff 0 none events').mp hverified'
    rw [← last_hash hq, ← last_hash hq'] at hlast
    obtain rfl : q = q' := Option.map_injective (fun _ _ => Json.str.inj) hlast
    refine Linked.binding ?_ hq hq'
    intro e he e' he' m n p p' h hnames hnames'
    exact names_bind hnames hnames' (hlegible e he) (hlegible' e' he') (hfree e he e' he')

end Chains

section Frozen

open Python.Ascii

def frozenBody : Event := [("kind", .str "INGEST"), ("sequence", .int 1), ("previous_hash", .null)]

def frozenEvent : Event :=
  frozenBody ++ ([("event_hash", .str (QA0.hexDigest (PyRuntime.sha256 (utf8 (render (.obj frozenBody))))))] : Event)

theorem legible_frozen : Legible (.obj frozenEvent) := by
  have hkeys : ([py "kind", py "sequence", py "previous_hash", py "event_hash"] : List PyStr).Nodup := by decide +kernel
  rw [Legible]
  refine ⟨hkeys, ?_⟩
  simp [frozenEvent, frozenBody, FieldsLegible, Legible]

/-- A chain of one event, and the same event written in the other order. -/
theorem chains_verify_and_bind_frozen : List.Forall₂ SameEvent [frozenEvent] [frozenEvent.reverse] := by
  refine chains_verify_and_bind.2.2 [frozenEvent] [frozenEvent.reverse] (by decide +kernel) (by decide +kernel) rfl ?_ ?_
    ?_
  · intro e he
    rw [List.mem_singleton.mp he]
    exact legible_frozen
  · intro e he
    have hlegible := legible_frozen
    rw [Legible, fieldsLegible_iff] at hlegible
    rw [List.mem_singleton.mp he, Legible, fieldsLegible_iff, List.map_reverse, List.nodup_reverse]
    exact ⟨hlegible.1, fun f hf => hlegible.2 f (List.mem_reverse.mp hf)⟩
  · intro e he e' he' _
    rw [List.mem_singleton.mp he, List.mem_singleton.mp he']
    decide +kernel

end Frozen

end EvaluationLab.CSLive
