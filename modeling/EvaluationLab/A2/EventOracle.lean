import EvaluationLab.A2.EventMetrics
import EvaluationLab.Python.AsciiRuntime
import EvaluationLab.Python.Substitution
import Mathlib.Data.List.Pairwise

/-! The seven counts are zero for just the expected events in their order. -/
namespace EvaluationLab.A2
open Python Effect

section Values

open CSLive (floatsFinite itemsFinite fieldsFinite)

mutual

theorem selfEqual_of : ∀ {v : Json}, floatsFinite v = true → UniqueKeys v → SelfEqual v
  | .null, _, _ | .bool _, _, _ | .int _, _, _ | .str _, _, _ => trivial
  | .float .nan, h, _ => by cases h
  | .float (.finite _), _, _ | .float .negativeZero, _, _ | .float (.infinity _), _, _ => PyFloat.noConfusion
  | .arr items, h, hkeys => itemsSelfEqual_of h hkeys
  | .obj fields, h, hkeys => ⟨hkeys.1, fieldsSelfEqual_of h hkeys.2⟩

theorem itemsSelfEqual_of : ∀ {vs : List Json}, itemsFinite vs = true → ItemsUniqueKeys vs → ItemsSelfEqual vs
  | [], _, _ => trivial
  | v :: vs, h, hkeys => by
    rw [itemsFinite, Bool.and_eq_true] at h
    exact ⟨selfEqual_of h.1 hkeys.1, itemsSelfEqual_of h.2 hkeys.2⟩

theorem fieldsSelfEqual_of : ∀ {fs : List (PyStr × Json)}, fieldsFinite fs = true → FieldsUniqueKeys fs → FieldsSelfEqual fs
  | [], _, _ => trivial
  | (k, v) :: fs, h, hkeys => by
    rw [fieldsFinite, Bool.and_eq_true] at h
    exact ⟨selfEqual_of h.1 hkeys.1, fieldsSelfEqual_of h.2 hkeys.2⟩

end

theorem fieldsFinite_iff {fields : List (PyStr × Json)} :
    fieldsFinite fields = true ↔ ∀ f ∈ fields, floatsFinite f.2 = true := by
  induction fields with
  | nil => simp [fieldsFinite]
  | cons f fs ih => rw [fieldsFinite, Bool.and_eq_true, ih, List.forall_mem_cons]

mutual

theorem floatsFinite_sortKeys : ∀ v : Json, floatsFinite (sortKeys v) = floatsFinite v
  | .null | .bool _ | .int _ | .str _ => rfl
  | .float x => by cases x <;> rfl
  | .arr items => by rw [sortKeys, floatsFinite, floatsFinite, itemsFinite_sortItems items]
  | .obj fields => by
    rw [sortKeys, floatsFinite, floatsFinite, ← fieldsFinite_sortFields fields, Bool.eq_iff_iff, fieldsFinite_iff,
      fieldsFinite_iff]
    simp only [List.mem_insertionSort]

theorem itemsFinite_sortItems : ∀ vs : List Json, itemsFinite (sortItems vs) = itemsFinite vs
  | [] => rfl
  | v :: vs => by rw [sortItems, itemsFinite, itemsFinite, floatsFinite_sortKeys v, itemsFinite_sortItems vs]

theorem fieldsFinite_sortFields : ∀ fs : List (PyStr × Json), fieldsFinite (sortFields fs) = fieldsFinite fs
  | [] => rfl
  | (_, v) :: fs => by rw [sortFields, fieldsFinite, fieldsFinite, floatsFinite_sortKeys v, fieldsFinite_sortFields fs]

end

end Values

section Tally

variable {α : Type}

/-- A tally is zero when no test holds. -/
theorem tally_eq_zero_iff {xs : List α} {f : α → Except PyExc Bool} :
    tally xs f = .ok 0 ↔ ∀ x ∈ xs, f x = .ok false := by
  unfold tally
  simp only [bind_eq_ok_iff, pure_eq_ok_iff]
  constructor
  · rintro ⟨bs, hbs, hcount⟩ x hx
    obtain ⟨b, hb, hfx⟩ := mem_mapM hbs hx
    have hfalse : b ≠ true := fun hb' => List.count_eq_zero.mp hcount (hb' ▸ hb)
    rw [hfx, Bool.eq_false_iff.mpr hfalse]
  · intro h
    refine ⟨xs.map fun _ => false, ?_, ?_⟩
    · rw [mapM_eq_ok_iff, List.forall₂_map_right_iff, List.forall₂_same]
      exact h
    · simp [List.count_eq_zero]

end Tally

section Dictionary

/-- The id of an event that has one. -/
def eventId (event : Json) : Json := (item event "event_id").toOption.getD .null

/-- The events have ids that are keys of a dictionary. -/
def Identified (events : List Json) : Prop :=
  ∀ e ∈ events, item e "event_id" = .ok (eventId e) ∧ (eventId e).hashable = true

/-- No id stands twice. -/
def DistinctIds (events : List Json) : Prop := events.Pairwise fun e f => pyEq (eventId e) (eventId f) = false

theorem byIdFrom_distinct {events : List Json} {entries : List (Json × Json)} (hids : Identified events)
    (hdistinct : DistinctIds events) (hfresh : ∀ entry ∈ entries, ∀ e ∈ events, pyEq entry.1 (eventId e) = false) :
    byIdFrom entries events = .ok (entries ++ events.map fun e => (eventId e, e)) := by
  induction events generalizing entries with
  | nil => rw [byIdFrom, List.map_nil, List.append_nil]
  | cons e events ih =>
    obtain ⟨hid, hhash⟩ := hids e List.mem_cons_self
    obtain ⟨hhead, htail⟩ := List.pairwise_cons.mp hdistinct
    have hput : dictPut entries (eventId e) e = entries ++ [(eventId e, e)] := by
      rw [dictPut, if_neg]
      rw [List.any_eq_true]
      rintro ⟨entry, hentry, heq⟩
      rw [hfresh entry hentry e List.mem_cons_self] at heq
      cases heq
    rw [byIdFrom, hid]
    show (checkHashable (eventId e) >>= fun _ => byIdFrom (dictPut entries (eventId e) e) events) = _
    rw [checkHashable, check_of hhash]
    show byIdFrom (dictPut entries (eventId e) e) events = _
    rw [hput, ih (fun f hf => hids f (List.mem_cons_of_mem _ hf)) htail, List.append_assoc]
    · rfl
    · intro entry hentry f hf
      rcases List.mem_append.mp hentry with hentry | hentry
      · exact hfresh entry hentry f (List.mem_cons_of_mem _ hf)
      · rw [List.mem_singleton.mp hentry]
        exact hhead f hf

/-- Events of different ids are all kept. -/
theorem byId_distinct {events : List Json} (hids : Identified events) (hdistinct : DistinctIds events) :
    byId events = .ok (events.map fun e => (eventId e, e)) :=
  byIdFrom_distinct hids hdistinct (by simp)

/-- Every event that was read has an entry of its id. -/
theorem byIdFrom_ok {events : List Json} {entries seen : List (Json × Json)} (h : byIdFrom entries events = .ok seen) :
    Identified events ∧ (∀ entry ∈ entries, ∃ entry' ∈ seen, entry'.1 = entry.1) ∧
      ∀ e ∈ events, pyEq (eventId e) (eventId e) = true → ∃ entry ∈ seen, pyEq entry.1 (eventId e) = true := by
  induction events generalizing entries with
  | nil =>
    rw [byIdFrom] at h
    cases h
    exact ⟨by simp [Identified], fun entry hentry => ⟨entry, hentry, rfl⟩, by simp⟩
  | cons e events ih =>
    rw [byIdFrom] at h
    obtain ⟨id, hid, h⟩ := bind_eq_ok_iff.mp h
    obtain ⟨_, hhash, h⟩ := bind_eq_ok_iff.mp h
    rw [checkHashable, check_eq_ok_iff] at hhash
    have hevent : eventId e = id := by
      rw [eventId, hid]
      rfl
    obtain ⟨hids, hkept, hseen⟩ := ih h
    have hput : ∀ entry ∈ entries, ∃ entry' ∈ dictPut entries id e, entry'.1 = entry.1 := by
      intro entry hentry
      unfold dictPut
      split_ifs
      · refine ⟨_, List.mem_map_of_mem hentry, ?_⟩
        split_ifs <;> rfl
      · exact ⟨entry, List.mem_append_left _ hentry, rfl⟩
    refine ⟨?_, ?_, ?_⟩
    · intro f hf
      rcases List.mem_cons.mp hf with rfl | hf
      · rw [hevent]
        exact ⟨hid, hhash⟩
      · exact hids f hf
    · intro entry hentry
      obtain ⟨entry', hentry', hkey⟩ := hput entry hentry
      obtain ⟨entry'', hentry'', hkey'⟩ := hkept entry' hentry'
      exact ⟨entry'', hentry'', hkey'.trans hkey⟩
    · intro f hf hself
      rcases List.mem_cons.mp hf with rfl | hf
      · rw [hevent] at hself ⊢
        have hnew : ∃ entry ∈ dictPut entries id f, pyEq entry.1 id = true := by
          unfold dictPut
          split_ifs with hany
          · obtain ⟨entry, hentry, heq⟩ := List.any_eq_true.mp hany
            refine ⟨_, List.mem_map_of_mem hentry, ?_⟩
            rw [if_pos heq]
            exact heq
          · exact ⟨(id, f), List.mem_append_right _ (List.mem_singleton.mpr rfl), hself⟩
        obtain ⟨entry, hentry, heq⟩ := hnew
        obtain ⟨entry', hentry', hkey⟩ := hkept entry hentry
        exact ⟨entry', hentry', by rw [hkey]; exact heq⟩
      · exact hseen f hf hself

/-- The keys of the entries are ids that were read. -/
theorem keys_byIdFrom {events : List Json} {entries seen : List (Json × Json)} (h : byIdFrom entries events = .ok seen) :
    ∀ entry ∈ seen, (∃ entry' ∈ entries, entry.1 = entry'.1) ∨ ∃ e ∈ events, entry.1 = eventId e := by
  induction events generalizing entries with
  | nil =>
    rw [byIdFrom] at h
    cases h
    exact fun entry hentry => .inl ⟨entry, hentry, rfl⟩
  | cons e events ih =>
    rw [byIdFrom] at h
    obtain ⟨id, hid, h⟩ := bind_eq_ok_iff.mp h
    obtain ⟨_, -, h⟩ := bind_eq_ok_iff.mp h
    have hevent : eventId e = id := by
      rw [eventId, hid]
      rfl
    intro entry hentry
    rcases ih h entry hentry with ⟨entry', hentry', hkey⟩ | ⟨f, hf, hkey⟩
    · unfold dictPut at hentry'
      split_ifs at hentry'
      · obtain ⟨entry'', hentry'', rfl⟩ := List.mem_map.mp hentry'
        refine .inl ⟨entry'', hentry'', hkey.trans ?_⟩
        split_ifs <;> rfl
      · rcases List.mem_append.mp hentry' with hentry' | hentry'
        · exact .inl ⟨entry', hentry', hkey⟩
        · rw [List.mem_singleton.mp hentry'] at hkey
          exact .inr ⟨e, List.mem_cons_self, hkey.trans hevent.symm⟩
    · exact .inr ⟨f, List.mem_cons_of_mem _ hf, hkey⟩

/-- Of different ids a key counts at most one. -/
theorem countP_le_one {ids : List Json} {key : Json} (hself : ∀ id ∈ ids, SelfEqual id) (hkey : SelfEqual key)
    (h : ids.Pairwise fun a b => pyEq a b = false) : ids.countP (pyEq key) ≤ 1 := by
  induction ids with
  | nil => simp
  | cons a ids ih =>
    rw [List.forall_mem_cons] at hself
    obtain ⟨hhead, htail⟩ := List.pairwise_cons.mp h
    by_cases ha : pyEq key a = true
    · have hnone : ids.countP (pyEq key) = 0 := by
        rw [List.countP_eq_zero]
        intro b hb hkb
        rw [pyEq_congr hkey (hself.2 b hb) hself.1 (hself.2 b hb) ha (pyEq_self (hself.2 b hb)), hhead b hb] at hkb
        cases hkb
      rw [List.countP_cons_of_pos ha, hnone]
    · rw [List.countP_cons_of_neg ha]
      exact ih hself.2 htail

/-- Ids that are counted once each, under keys that cover them, are different. -/
theorem pairwise_of_counts {keys ids : List Json} (hself : ∀ id ∈ ids, SelfEqual id)
    (hkeys : ∀ id ∈ ids, ∃ key ∈ keys, SelfEqual key ∧ pyEq key id = true)
    (hcount : ∀ key ∈ keys, ids.countP (pyEq key) ≤ 1) : ids.Pairwise fun a b => pyEq a b = false := by
  induction ids with
  | nil => exact .nil
  | cons a ids ih =>
    rw [List.forall_mem_cons] at hself hkeys
    have hrest : ∀ key ∈ keys, ids.countP (pyEq key) ≤ 1 := by
      intro key hkey
      have hall := hcount key hkey
      rw [List.countP_cons] at hall
      omega
    refine List.pairwise_cons.mpr ⟨?_, ih hself.2 hkeys.2 hrest⟩
    intro b hb
    by_contra hab
    obtain ⟨key, hkey, hkeyself, hka⟩ := hkeys.1
    have hkb : pyEq key b = true := by
      rw [Bool.not_eq_false] at hab
      rw [← pyEq_congr hkeyself hself.1 hkeyself (hself.2 b hb) (pyEq_self hkeyself) hab]
      exact hka
    have hall := hcount key hkey
    rw [List.countP_cons_of_pos hka] at hall
    have hpos : 0 < ids.countP (pyEq key) := List.countP_pos_iff.mpr ⟨b, hb, hkb⟩
    omega

end Dictionary

section Events

open CSLive (floatsFinite Digestible)
open SearchCup (uniqueKeys_sortKeys pyEq_of_sameJson pyEq_sortKeys)

/-- An event as a JSON document: no key twice, and a text that can be encoded. -/
structure Sound (event : Json) : Prop where
  unique : UniqueKeys event
  digestible : Digestible event

theorem Sound.selfEqual {v : Json} (h : Sound v) : SelfEqual v := selfEqual_of h.digestible.floats_finite h.unique

/-- The values of a sound event are sound. -/
theorem Sound.item {event v : Json} {key : PyStr} (h : Sound event) (hv : item event key = .ok v) :
    Sound v := by
  cases event with
  | obj fields =>
    rw [A2.item] at hv
    cases hk : fields.lookup key with
    | none =>
      rw [hk] at hv
      cases hv
    | some w =>
      rw [hk] at hv
      cases hv
      have hmem := mem_of_lookup hk
      have hunique := h.unique
      have hdigestible := h.digestible
      rw [UniqueKeys, fieldsUniqueKeys_iff] at hunique
      rw [CSLive.digestible_obj] at hdigestible
      exact ⟨hunique.2 _ hmem, (hdigestible _ hmem).2⟩
  | _ => cases hv

theorem item_sortKeys {event : Json} (h : UniqueKeys event) (key : PyStr) :
    item (sortKeys event) key = (item event key).map sortKeys := by
  cases event with
  | obj fields =>
    rw [SearchCup.sortKeys_obj, item, item, SearchCup.lookup_sortedFields h.nodup]
    cases fields.lookup key <;> rfl
  | _ => rfl

theorem item_same {o e v : Json} {key : PyStr} (ho : UniqueKeys o) (he : UniqueKeys e) (h : SameJson o e)
    (hv : item e key = .ok v) : ∃ w, item o key = .ok w ∧ SameJson w v := by
  have hitem := item_sortKeys ho key
  rw [show sortKeys o = sortKeys e from h, item_sortKeys he key, hv] at hitem
  cases hw : item o key with
  | error e => rw [hw] at hitem; cases hitem
  | ok w =>
    rw [hw] at hitem
    exact ⟨w, rfl, (Except.ok.inj hitem).symm⟩

theorem hashable_of_same {v w : Json} (h : SameJson v w) : v.hashable = w.hashable := by
  have hsort : ∀ u : Json, (sortKeys u).hashable = u.hashable := by
    intro u
    cases u <;> rfl
  rw [← hsort v, h, hsort]

/-- The values of the key of an event can be compared. -/
theorem selfEqual_orderKey {event : Json} {key : List Json} (h : Sound event) (hkey : orderKey event = .ok key) :
    ItemsSelfEqual key := by
  rw [itemsSelfEqual_iff]
  intro v hv
  obtain ⟨k, -, hitem⟩ := mapM_mem hkey hv
  exact (h.item hitem).selfEqual

/-- The same event has an equal key. -/
theorem orderKey_same {o e : Json} {key : List Json} (ho : Sound o) (he : Sound e) (h : SameJson o e)
    (hkey : orderKey e = .ok key) : ∃ key', orderKey o = .ok key' ∧ itemsEq key' key = true := by
  simp only [orderKey, mapM_eq_ok_iff] at hkey ⊢
  generalize orderKeys = keys at hkey ⊢
  induction hkey with
  | nil => exact ⟨[], .nil, rfl⟩
  | cons hv _ ih =>
    obtain ⟨w, hw, hsame⟩ := item_same ho.unique he.unique h hv
    have hsound := he.item hv
    obtain ⟨rest, hrest, heq⟩ := ih
    refine ⟨w :: rest, .cons hw hrest, ?_⟩
    rw [itemsEq, pyEq_of_sameJson hsound.digestible.floats_finite hsound.unique hsame, heq]
    rfl

/-- The key of one event comes before that of the other. -/
def Before (e f : Json) : Prop :=
  ∃ k l, orderKey e = .ok k ∧ orderKey f = .ok l ∧ ItemsSelfEqual k ∧ ItemsSelfEqual l ∧ itemsLess k l = .ok true

instance : IsTrans Json Before where
  trans e f g := by
    rintro ⟨k, l, hk, hl, hks, hls, hkl⟩ ⟨l', m, hl', hm, -, hms, hlm⟩
    obtain rfl : l = l' := Except.ok.inj (hl.symm.trans hl')
    exact ⟨k, m, hk, hm, hks, hms, itemsLess_trans hks hls hms hkl hlm⟩

theorem not_before_self (e : Json) : ¬Before e e := by
  rintro ⟨k, l, hk, hl, hks, -, hkl⟩
  obtain rfl : k = l := Except.ok.inj (hk.symm.trans hl)
  rw [itemsLess_of_eq (itemsEq_self hks)] at hkl
  cases hkl

theorem not_before_both {e f : Json} (h : Before e f) (h' : Before f e) : False := not_before_self e (IsTrans.trans e f e h h')

/-- The order does not see the order of keys in an event. -/
theorem before_of_same {e f e' f' : Json} (he : Sound e) (hf : Sound f) (he' : Sound e') (hf' : Sound f')
    (hsame : SameJson e' e) (hsame' : SameJson f' f) (h : Before e f) : Before e' f' := by
  obtain ⟨k, l, hk, hl, hks, hls, hkl⟩ := h
  obtain ⟨k', hk', hkeq⟩ := orderKey_same he' he hsame hk
  obtain ⟨l', hl', hleq⟩ := orderKey_same hf' hf hsame' hl
  have hks' := selfEqual_orderKey he' hk'
  have hls' := selfEqual_orderKey hf' hl'
  refine ⟨k', l', hk', hl', hks', hls', itemsLess_congr hks hls hks' hls' ?_ ?_ hkl⟩
  · rwa [itemsEq_symm hks hks']
  · rwa [itemsEq_symm hls hls']

/-- The ids of two events differ. -/
def Apart (e f : Json) : Prop := pyEq (eventId e) (eventId f) = false ∧ pyEq (eventId f) (eventId e) = false

instance : Std.Symm Apart := ⟨fun _ _ h => ⟨h.2, h.1⟩⟩

theorem pairwise_apart {events : List Json} (hself : ∀ e ∈ events, SelfEqual (eventId e)) (h : DistinctIds events) :
    events.Pairwise Apart :=
  h.imp_of_mem fun {e f} he hf hef => ⟨hef, by rwa [pyEq_symm (hself f hf) (hself e he)]⟩

/-- Events of one id are one event. -/
theorem eq_of_pyEq {events : List Json} (hself : ∀ e ∈ events, SelfEqual (eventId e)) (h : DistinctIds events)
    {e f : Json} (he : e ∈ events) (hf : f ∈ events) (heq : pyEq (eventId e) (eventId f) = true) : e = f := by
  by_contra hne
  have hapart := (pairwise_apart hself h).forall he hf hne
  rw [hapart.1] at heq
  cases heq

theorem selfEqual_eventId {e : Json} (h : Sound e) (hid : item e "event_id" = .ok (eventId e)) : SelfEqual (eventId e) :=
  (h.item hid).selfEqual

/-- The same event has the same id. -/
theorem eventId_same {o e : Json} (ho : Sound o) (he : Sound e) (h : SameJson o e)
    (hid : item e "event_id" = .ok (eventId e)) : item o "event_id" = .ok (eventId o) ∧
      SameJson (eventId o) (eventId e) ∧ pyEq (eventId o) (eventId e) = true := by
  obtain ⟨v, hv, hsame⟩ := item_same ho.unique he.unique h hid
  have hevent : eventId o = v := by
    rw [eventId, hv]
    rfl
  have hsound := he.item hid
  rw [hevent]
  exact ⟨hv, hsame, pyEq_of_sameJson hsound.digestible.floats_finite hsound.unique hsame⟩

theorem Sound.knowledge {event v : Json} (h : Sound event) (hv : knowledge event = .ok v) : Sound v := by
  unfold A2.knowledge at hv
  obtain ⟨metadata, hmetadata, hv⟩ := bind_eq_ok_iff.mp hv
  have hsound := h.item hmetadata
  cases metadata with
  | obj fields =>
    rw [← pure_eq_ok_iff.mp hv]
    cases hk : fields.lookup (py "knowledge") with
    | none => exact ⟨⟨List.nodup_nil, trivial⟩, (CSLive.digestible_obj []).mpr (by simp)⟩
    | some w =>
      have hitem : A2.item (.obj fields) "knowledge" = .ok w := by rw [A2.item, hk]
      exact hsound.item hitem
  | _ => cases hv

/-- The same event has the same knowledge. -/
theorem knowledge_same {o e v : Json} (ho : Sound o) (he : Sound e) (h : SameJson o e) (hv : knowledge e = .ok v) :
    ∃ w, knowledge o = .ok w ∧ SameJson w v := by
  unfold knowledge at hv
  obtain ⟨metadata, hmetadata, hv⟩ := bind_eq_ok_iff.mp hv
  obtain ⟨metadata', hmetadata', hsame⟩ := item_same ho.unique he.unique h hmetadata
  have hkeys := (he.item hmetadata).unique
  have hkeys' := (ho.item hmetadata').unique
  cases metadata with
  | obj fields =>
    cases metadata' with
    | obj fields' =>
      refine ⟨(fields'.lookup (py "knowledge")).getD (.obj []), ?_, ?_⟩
      · rw [knowledge, hmetadata']
        rfl
      · rw [← pure_eq_ok_iff.mp hv]
        have hlookup := (sameJson_obj_iff hkeys'.nodup hkeys.nodup).mp hsame (py "knowledge")
        cases hk : fields.lookup (py "knowledge") with
        | none =>
          rw [hk, Option.map_none, Option.map_eq_none_iff] at hlookup
          rw [hlookup]
          rfl
        | some w =>
          rw [hk, Option.map_some] at hlookup
          obtain ⟨w', hw', heq⟩ := Option.map_eq_some_iff.mp hlookup
          rw [hw']
          exact heq
    | _ => cases hsame
  | _ => cases hv

/-- The key ends with the id. -/
theorem itemsEq_of_orderKey {e f : Json} {k l : List Json} (hk : orderKey e = .ok k) (hl : orderKey f = .ok l)
    (h : itemsEq k l = true) : pyEq (eventId e) (eventId f) = true := by
  have hlast : ∀ {e : Json} {k : List Json}, orderKey e = .ok k → ∃ a b c d, k = [a, b, c, d, eventId e] := by
    intro e k hk
    simp only [orderKey, orderKeys, mapM_eq_ok_iff, List.forall₂_cons_left_iff, List.forall₂_nil_left_iff] at hk
    obtain ⟨a, _, -, ⟨b, _, -, ⟨c, _, -, ⟨d, _, -, ⟨id, _, hid, rfl, rfl⟩, rfl⟩, rfl⟩, rfl⟩, rfl⟩ := hk
    refine ⟨a, b, c, d, ?_⟩
    rw [eventId, hid]
    rfl
  obtain ⟨a, b, c, d, rfl⟩ := hlast hk
  obtain ⟨a', b', c', d', rfl⟩ := hlast hl
  simp only [itemsEq, Bool.and_eq_true] at h
  exact h.2.2.2.2.1

/-- Of two events with different ids one comes before the other. -/
theorem before_of_not_less {e f : Json} {k l : List Json} (he : Sound e) (hf : Sound f) (hk : orderKey e = .ok k)
    (hl : orderKey f = .ok l) (hids : pyEq (eventId f) (eventId e) = false) (h : itemsLess l k = .ok false) : Before e f := by
  have hks := selfEqual_orderKey he hk
  have hls := selfEqual_orderKey hf hl
  have hne : itemsEq l k = false := by
    rw [Bool.eq_false_iff]
    intro heq
    rw [itemsEq_of_orderKey hl hk heq] at hids
    cases hids
  exact ⟨k, l, hk, hl, hks, hls, itemsLess_flip hls hks hne h⟩

section Encoded

variable [PyRuntime]

theorem encode_eq_ok_iff {value : Json} {bytes : List UInt8} :
    encode value = .ok bytes ↔ Digestible value ∧ bytes = utf8 (render value) := by
  have htexts : encodable (render value) = true ↔ ∀ t ∈ texts value, encodable t = true := by
    rw [encodable_render, List.all_eq_true]
  unfold encode QA0.encode
  simp only [bind_eq_ok_iff, CSLive.canonical_eq_ok_iff]
  constructor
  · rintro ⟨_, ⟨hfinite, hprint, rfl⟩, hbytes⟩
    split_ifs at hbytes with hencode
    cases hbytes
    exact ⟨⟨htexts.mp hencode, hprint, hfinite⟩, rfl⟩
  · rintro ⟨h, rfl⟩
    exact ⟨_, ⟨h.floats_finite, h.ints_printable, rfl⟩, if_pos (htexts.mpr h.texts_encodable)⟩

theorem canonical_of_same {v w : Json} (h : SameJson v w) : CSLive.canonical v = CSLive.canonical w := by
  unfold CSLive.canonical QA0.canonicalJson
  rw [← floatsFinite_sortKeys v, ← SearchCup.intsPrintable_sortKeys v, ← render_sortKeys v, h, floatsFinite_sortKeys,
    SearchCup.intsPrintable_sortKeys, render_sortKeys]

theorem digest_of_same {v w : Json} (h : SameJson v w) : digest v = digest w := by
  unfold digest encode
  rw [canonical_of_same h]

/-- A document in another order of keys can be encoded as well. -/
theorem digestible_of_same {v w : Json} (h : SameJson v w) (hw : Digestible w) : Digestible v := by
  have hencode : encode v = encode w := by
    unfold encode
    rw [canonical_of_same h]
  have hbytes := encode_eq_ok_iff.mpr ⟨hw, rfl⟩
  rw [← hencode] at hbytes
  exact (encode_eq_ok_iff.mp hbytes).1

theorem Sound.sortKeys {event : Json} (h : Sound event) : Sound (sortKeys event) :=
  ⟨uniqueKeys_sortKeys h.unique, digestible_of_same (sortKeys_sortKeys event) h.digestible⟩

/-- An event of the oracle: a JSON document with the keys the metrics read, ids that can be looked up, and no sentinel in
its text. -/
structure OracleEvent (e : Json) : Prop where
  legible : Legible e
  digestible : Digestible e
  keyed : ∃ key, orderKey e = .ok key
  identified : item e "event_id" = .ok (eventId e) ∧ (eventId e).hashable = true
  corrects : ∃ id, item e "correction_of" = .ok id ∧ id.hashable = true
  known : ∃ v, knowledge e = .ok v
  clean : ∀ s ∈ sentinels, ¬utf8 s <:+: utf8 (render e)

theorem OracleEvent.sound {e : Json} (h : OracleEvent e) : Sound e := ⟨h.legible.uniqueKeys, h.digestible⟩

/-- What the oracle expects: events of different ids whose order keys can be compared. -/
structure Expected (events : List Json) : Prop where
  each : ∀ e ∈ events, OracleEvent e
  distinct : DistinctIds events
  comparable : ∀ e ∈ events, ∀ f ∈ events, ∀ k l, orderKey e = .ok k → orderKey f = .ok l → ∃ b, itemsLess k l = .ok b

end Encoded

section Sorted

variable [PyRuntime] {expected : List Json}

theorem Expected.selfEqual (h : Expected expected) : ∀ e ∈ expected, SelfEqual (eventId e) :=
  fun e he => selfEqual_eventId (h.each e he).sound (h.each e he).identified.1

/-- The order `sorted` sorts by. -/
def SortLe (e f : Json) : Prop :=
  itemsLess ((orderKey f).toOption.getD []) ((orderKey e).toOption.getD []) ≠ .ok true

instance : DecidableRel SortLe := fun _ _ => inferInstanceAs (Decidable (_ ≠ _))

theorem Expected.compare (h : Expected expected) {e f : Json} (he : e ∈ expected) (hf : f ∈ expected) :
    ∃ k l b, orderKey e = .ok k ∧ orderKey f = .ok l ∧ ItemsSelfEqual k ∧ ItemsSelfEqual l ∧ itemsLess l k = .ok b ∧
      (SortLe e f ↔ b = false) := by
  obtain ⟨k, hk⟩ := (h.each e he).keyed
  obtain ⟨l, hl⟩ := (h.each f hf).keyed
  obtain ⟨b, hb⟩ := h.comparable f hf e he l k hl hk
  refine ⟨k, l, b, hk, hl, selfEqual_orderKey (h.each e he).sound hk, selfEqual_orderKey (h.each f hf).sound hl, hb, ?_⟩
  have hless : itemsLess ((orderKey f).toOption.getD []) ((orderKey e).toOption.getD []) = .ok b := by
    rw [hk, hl]
    exact hb
  rw [SortLe, hless]
  cases b <;> simp

/-- Sorted, every event comes before the later ones. -/
theorem Expected.before (h : Expected expected) {e f : Json} (he : e ∈ expected) (hf : f ∈ expected) (hle : SortLe e f)
    (hne : e ≠ f) : Before e f := by
  obtain ⟨k, l, b, hk, hl, -, -, hless, hb⟩ := h.compare he hf
  rw [hb.mp hle] at hless
  have hids := (pairwise_apart h.selfEqual h.distinct).forall he hf hne
  exact before_of_not_less (h.each e he).sound (h.each f hf).sound hk hl hids.2 hless

theorem Expected.before_of_not_sortLe (h : Expected expected) {e f : Json} (he : e ∈ expected) (hf : f ∈ expected)
    (hnot : ¬SortLe e f) : Before f e := by
  obtain ⟨k, l, b, hk, hl, hks, hls, hless, hb⟩ := h.compare he hf
  rw [hb, Bool.not_eq_false] at hnot
  rw [hnot] at hless
  exact ⟨l, k, hl, hk, hls, hks, hless⟩

theorem Expected.sortLe (h : Expected expected) {e f : Json} (he : e ∈ expected) (hf : f ∈ expected)
    (hbefore : Before e f) : SortLe e f := by
  by_contra hnot
  exact not_before_both hbefore (h.before_of_not_sortLe he hf hnot)

theorem Expected.nodup (h : Expected expected) : expected.Nodup := by
  refine h.distinct.imp_of_mem fun {e f} he _ hef heq => ?_
  rw [← heq, pyEq_self (h.selfEqual e he)] at hef
  cases hef

/-- The expected events, in their order. -/
theorem Expected.pairwise_sorted (h : Expected expected) : (sortedEvents expected).Pairwise Before := by
  let le : {e // e ∈ expected} → {e // e ∈ expected} → Prop := fun e f => SortLe e.1 f.1
  have htotal : Std.Total le := ⟨fun ⟨e, he⟩ ⟨f, hf⟩ => by
    by_cases hle : SortLe e f
    · exact .inl hle
    · exact .inr (h.sortLe hf he (h.before_of_not_sortLe he hf hle))⟩
  have htrans : IsTrans {e // e ∈ expected} le := ⟨fun ⟨e, he⟩ ⟨f, hf⟩ ⟨g, hg⟩ hef hfg => by
    by_cases heq : e = f
    · subst heq
      exact hfg
    by_cases heq' : f = g
    · subst heq'
      exact hef
    exact h.sortLe he hg (IsTrans.trans e f g (h.before he hf hef heq) (h.before hf hg hfg heq'))⟩
  have hsort : (expected.attach.insertionSort le).map Subtype.val = sortedEvents expected := by
    rw [List.map_insertionSort le SortLe Subtype.val expected.attach fun _ _ _ _ => Iff.rfl, List.attach_map_subtype_val]
    rfl
  have hordered := List.pairwise_insertionSort le expected.attach
  have hnodup := (List.perm_insertionSort le expected.attach).nodup_iff.mpr h.nodup.attach
  rw [← hsort, List.pairwise_map]
  exact (hordered.and hnodup).imp fun {e f} hef => h.before e.2 f.2 hef.1 fun heq => hef.2 (Subtype.ext heq)

omit [PyRuntime] in
theorem mem_sortedEvents {e : Json} : e ∈ sortedEvents expected ↔ e ∈ expected := List.mem_insertionSort _

end Sorted

section Matching

variable [PyRuntime] {expected observed : List Json}

/-- The observed events are the expected ones, each once and in order. -/
structure Matched (expected observed : List Json) : Prop where
  sound : ∀ o ∈ observed, Sound o
  distinct : DistinctIds observed
  found : ∀ e ∈ expected, ∃ o ∈ observed, SameJson o e
  known : ∀ o ∈ observed, ∃ e ∈ expected, SameJson o e
  ordered : observed.Pairwise Before

/-- An order of events is one of their canonical forms. -/
theorem pairwise_sortKeys_iff {events : List Json} (hsound : ∀ e ∈ events, Sound e) :
    (events.map sortKeys).Pairwise Before ↔ events.Pairwise Before := by
  rw [List.pairwise_map]
  constructor
  · refine fun h => h.imp_of_mem fun {e f} he hf hef => ?_
    exact before_of_same (hsound e he).sortKeys (hsound f hf).sortKeys (hsound e he) (hsound f hf)
      (sortKeys_sortKeys e).symm (sortKeys_sortKeys f).symm hef
  · refine fun h => h.imp_of_mem fun {e f} he hf hef => ?_
    exact before_of_same (hsound e he) (hsound f hf) (hsound e he).sortKeys (hsound f hf).sortKeys
      (sortKeys_sortKeys e) (sortKeys_sortKeys f) hef

theorem matched_of_same (h : Expected expected) (hunique : ∀ o ∈ observed, UniqueKeys o)
    (hsame : SameJson (.arr observed) (.arr (sortedEvents expected))) : Matched expected observed := by
  have hmap : observed.map sortKeys = (sortedEvents expected).map sortKeys := by
    rw [SameJson, sortKeys, sortKeys, Json.arr.injEq, SearchCup.sortItems_eq_map, SearchCup.sortItems_eq_map] at hsame
    exact hsame
  have hknown : ∀ o ∈ observed, ∃ e ∈ expected, SameJson o e := by
    intro o ho
    obtain ⟨e, he, heq⟩ := List.mem_map.mp (hmap ▸ List.mem_map_of_mem ho)
    exact ⟨e, mem_sortedEvents.mp he, heq.symm⟩
  have hfound : ∀ e ∈ expected, ∃ o ∈ observed, SameJson o e := by
    intro e he
    obtain ⟨o, ho, heq⟩ := List.mem_map.mp (hmap.symm ▸ List.mem_map_of_mem (mem_sortedEvents.mpr he))
    exact ⟨o, ho, heq⟩
  have hsound : ∀ o ∈ observed, Sound o := by
    intro o ho
    obtain ⟨e, he, heq⟩ := hknown o ho
    exact ⟨hunique o ho, digestible_of_same heq (h.each e he).digestible⟩
  have hordered : observed.Pairwise Before := by
    rw [← pairwise_sortKeys_iff hsound, hmap, pairwise_sortKeys_iff fun e he => (h.each e (mem_sortedEvents.mp he)).sound]
    exact h.pairwise_sorted
  refine ⟨hsound, ?_, hfound, hknown, hordered⟩
  refine hordered.imp_of_mem fun {o o'} ho ho' hbefore => ?_
  rw [Bool.eq_false_iff]
  intro heq
  obtain ⟨e, he, hoe⟩ := hknown o ho
  obtain ⟨e', he', hoe'⟩ := hknown o' ho'
  obtain ⟨hid, -, hpy⟩ := eventId_same (hsound o ho) (h.each e he).sound hoe (h.each e he).identified.1
  obtain ⟨hid', -, hpy'⟩ := eventId_same (hsound o' ho') (h.each e' he').sound hoe' (h.each e' he').identified.1
  have heq' : pyEq (eventId e) (eventId e') = true := by
    rw [← heq]
    symm
    exact pyEq_congr (selfEqual_eventId (hsound o ho) hid) (selfEqual_eventId (hsound o' ho') hid') (h.selfEqual e he)
      (h.selfEqual e' he') hpy hpy'
  obtain rfl := eq_of_pyEq h.selfEqual h.distinct he he' heq'
  exact not_before_self e (before_of_same (hsound o ho) (hsound o' ho') (h.each e he).sound (h.each e he).sound
    hoe.symm hoe'.symm hbefore)

theorem same_of_matched (h : Expected expected) (hmatched : Matched expected observed) :
    SameJson (.arr observed) (.arr (sortedEvents expected)) := by
  have hsorted : ∀ e ∈ sortedEvents expected, Sound e := fun e he => (h.each e (mem_sortedEvents.mp he)).sound
  have hobserved := (pairwise_sortKeys_iff hmatched.sound).mpr hmatched.ordered
  have hexpected := (pairwise_sortKeys_iff hsorted).mpr h.pairwise_sorted
  have hnodup : ∀ {events : List Json}, events.Pairwise Before → events.Nodup :=
    fun hp => hp.imp fun {e f} hef heq => by
      subst heq
      exact not_before_self e hef
  have hmem : ∀ x, x ∈ observed.map sortKeys ↔ x ∈ (sortedEvents expected).map sortKeys := by
    intro x
    constructor
    · intro hx
      obtain ⟨o, ho, rfl⟩ := List.mem_map.mp hx
      obtain ⟨e, he, hoe⟩ := hmatched.known o ho
      exact List.mem_map.mpr ⟨e, mem_sortedEvents.mpr he, hoe.symm⟩
    · intro hx
      obtain ⟨e, he, rfl⟩ := List.mem_map.mp hx
      obtain ⟨o, ho, hoe⟩ := hmatched.found e (mem_sortedEvents.mp he)
      exact List.mem_map.mpr ⟨o, ho, hoe⟩
  have hperm := (List.perm_ext_iff_of_nodup (hnodup hobserved) (hnodup hexpected)).mpr hmem
  have hmap := hperm.eq_of_pairwise (fun e f _ _ hef hfe => (not_before_both hef hfe).elim) hobserved hexpected
  rw [SameJson, sortKeys, sortKeys, Json.arr.injEq, SearchCup.sortItems_eq_map, SearchCup.sortItems_eq_map]
  exact hmap

end Matching

section Leak

variable [PyRuntime]

omit [PyRuntime] in
/-- A needle without the marks of a list is found in one of its items. -/
theorem infix_commaJoin_utf8 {needle : List UInt8} (hne : needle ≠ []) (hcomma : (44 : UInt8) ∉ needle) {texts : List PyStr}
    (h : needle <:+: utf8 (commaJoin texts)) : ∃ t ∈ texts, needle <:+: utf8 t := by
  induction texts with
  | nil => exact absurd (List.infix_nil.mp h) hne
  | cons t ts ih =>
    cases ts with
    | nil => exact ⟨t, List.mem_singleton.mpr rfl, h⟩
    | cons u us =>
      have hsplit : utf8 (commaJoin (t :: u :: us)) = utf8 t ++ 44 :: utf8 (commaJoin (u :: us)) := by
        rw [show commaJoin (t :: u :: us) = t ++ 44 :: commaJoin (u :: us) from rfl, utf8, utf8, utf8, List.flatMap_append,
          List.flatMap_cons]
        rfl
      rw [hsplit] at h
      rcases infix_lead hcomma h with h | h
      · exact ⟨t, List.mem_cons_self, h⟩
      · obtain ⟨v, hv, hinfix⟩ := ih h
        exact ⟨v, List.mem_cons_of_mem _ hv, hinfix⟩

theorem renderItems_eq (items : List Json) : renderItems items = items.map render := by
  induction items with
  | nil => rfl
  | cons v vs ih => rw [renderItems, ih, List.map_cons]

theorem infix_render_arr {needle : List UInt8} (hne : needle ≠ []) (hmarks : ∀ c ∈ ([44, 91, 93] : List UInt8), c ∉ needle)
    {items : List Json} (h : needle <:+: utf8 (render (.arr items))) : ∃ v ∈ items, needle <:+: utf8 (render v) := by
  have hsplit : utf8 (render (.arr items)) = [] ++ 91 :: (utf8 (commaJoin (renderItems items)) ++ 93 :: []) := by
    rw [render, utf8, utf8, List.cons_append, List.flatMap_cons, List.flatMap_append]
    rfl
  rw [hsplit] at h
  rcases infix_lead (hmarks 91 (by simp)) h with h | h
  · exact absurd (List.infix_nil.mp h) hne
  · rcases infix_lead (hmarks 93 (by simp)) h with h | h
    · obtain ⟨t, ht, hinfix⟩ := infix_commaJoin_utf8 hne (hmarks 44 (by simp)) h
      rw [renderItems_eq, List.mem_map] at ht
      obtain ⟨v, hv, rfl⟩ := ht
      exact ⟨v, hv, hinfix⟩
    · exact absurd (List.infix_nil.mp h) hne

omit [PyRuntime] in
theorem sum_eq_zero_iff {xs : List ℕ} : xs.sum = 0 ↔ ∀ x ∈ xs, x = 0 := by
  induction xs with
  | nil => simp
  | cons x xs ih => rw [List.sum_cons, Nat.add_eq_zero_iff, ih, List.forall_mem_cons]

omit [PyRuntime] in
/-- No sentinel is in a list of events that have none. -/
theorem leak_eq_zero_iff (bytes : List UInt8) : (sentinels.map fun s => occurrences (utf8 s) bytes).sum = 0 ↔
    ∀ s ∈ sentinels, ¬utf8 s <:+: bytes := by
  have hne : ∀ s ∈ sentinels, utf8 s ≠ [] := by decide +kernel
  rw [sum_eq_zero_iff]
  simp only [List.mem_map, forall_exists_index, and_imp, forall_apply_eq_imp_iff₂]
  constructor
  · exact fun h s hs => (occurrences_eq_zero_iff (hne s hs) bytes).mp (h s hs)
  · exact fun h s hs => (occurrences_eq_zero_iff (hne s hs) bytes).mpr (h s hs)

end Leak

section Zero

variable [PyRuntime] {expected observed : List Json}

def zeroMetrics : EventMetrics := ⟨0, 0, 0, 0, 0, 0, 0⟩

omit [PyRuntime] in
theorem atId_map (events : List Json) (key : Json) : atId (events.map fun e => (eventId e, e)) key =
    events.find? fun e => pyEq (eventId e) key := by
  rw [atId, List.find?_map, Option.map_map]
  exact Option.map_id'

theorem differ_eq_false_iff {v w : Json} : differ v w = .ok false ↔ ∃ d, digest v = .ok d ∧ digest w = .ok d := by
  unfold differ
  simp only [bind_eq_ok_iff, pure_eq_ok_iff, decide_eq_false_iff_not, not_not]
  constructor
  · rintro ⟨d, hd, d', hd', rfl⟩
    exact ⟨d, hd, hd'⟩
  · rintro ⟨d, hd, hd'⟩
    exact ⟨d, hd, d, hd', rfl⟩

/-- Events of one digest are the same, when SHA-256 tells them apart. -/
theorem same_of_digest {v w : Json} {d : PyStr} (hv : Legible v) (hw : Legible w) (hdv : digest v = .ok d)
    (hdw : digest w = .ok d) (hapart : SearchCup.ToldApart v w) : SameJson v w := by
  simp only [digest, bind_eq_ok_iff, pure_eq_ok_iff, encode_eq_ok_iff] at hdv hdw
  obtain ⟨_, ⟨hdigestible, rfl⟩, rfl⟩ := hdv
  obtain ⟨_, ⟨hdigestible', rfl⟩, hdigest⟩ := hdw
  have hbytes := hapart (QA0.hexDigest_injective hdigest.symm)
  have hencodable : ∀ {u : Json}, CSLive.Digestible u → encodable (render u) = true := fun hu => by
    rw [encodable_render, List.all_eq_true]
    exact hu.texts_encodable
  exact sortKeys_eq_of_render_eq hv hw hdigestible.ints_printable hdigestible'.ints_printable
    (utf8_injective (hencodable hdigestible) (hencodable hdigestible') hbytes)

theorem Expected.correctedIds_ok (h : Expected expected) : ∃ ids, correctedIds expected = .ok ids := by
  refine mapM_ok_of_forall fun e he => ?_
  obtain ⟨id, hid, hhash⟩ := (h.each e he).corrects
  refine ⟨id, ?_⟩
  simp only [bind_eq_ok_iff, exists_unit_iff, pure_eq_ok_iff, checkHashable, check_eq_ok_iff]
  exact ⟨id, hid, hhash, rfl⟩

/-- When the ids are different, the metrics compare every expected event with the observed one of its id. -/
theorem eventMetrics_eq_zero_iff (h : Expected expected) (hids : Identified observed) (hdistinct : DistinctIds observed)
    (hself : ∀ o ∈ observed, SelfEqual (eventId o)) : eventMetrics expected observed = .ok zeroMetrics ↔
    (∃ bytes, encode (.arr observed) = .ok bytes ∧ ∀ s ∈ sentinels, ¬utf8 s <:+: bytes) ∧
    (∃ keys, observed.mapM orderKey = .ok keys ∧ ∀ pair ∈ neighbours keys, itemsLess pair.2 pair.1 = .ok false) ∧
    (∀ e ∈ expected, ∃ o ∈ observed, pyEq (eventId o) (eventId e) = true) ∧
    (∀ o ∈ observed, ∃ e ∈ expected, pyEq (eventId e) (eventId o) = true) ∧
    (∀ e ∈ expected, ∀ o, observed.find? (fun o => pyEq (eventId o) (eventId e)) = some o → differ e o = .ok false) ∧
    (∀ e ∈ expected, ∀ o, observed.find? (fun o => pyEq (eventId o) (eventId e)) = some o →
      ∃ v w, knowledge e = .ok v ∧ knowledge o = .ok w ∧ differ v w = .ok false) := by
  have hread : observed.mapM (fun e => item e "event_id") = .ok (observed.map eventId) := by
    rw [mapM_eq_ok_iff, List.forall₂_map_right_iff, List.forall₂_same]
    exact fun o ho => (hids o ho).1
  have hwanted := byId_distinct (fun e he => (h.each e he).identified) h.distinct
  unfold eventMetrics zeroMetrics
  rw [hwanted, byId_distinct hids hdistinct, hread]
  have hshared : ∀ f : Json × Json → Except PyExc Bool,
      tally ((expected.map fun e => (eventId e, e)).filterMap fun entry =>
        (atId (observed.map fun e => (eventId e, e)) entry.1).map fun e => (entry.2, e)) f = .ok 0 ↔
      ∀ e ∈ expected, ∀ o, observed.find? (fun o => pyEq (eventId o) (eventId e)) = some o → f (e, o) = .ok false := by
    intro f
    rw [tally_eq_zero_iff]
    simp only [List.mem_filterMap, List.mem_map, Option.map_eq_some_iff, atId_map]
    constructor
    · exact fun hall e he o ho => hall (e, o) ⟨_, ⟨e, he, rfl⟩, o, ho, rfl⟩
    · rintro hall _ ⟨_, ⟨e, he, rfl⟩, o, ho, rfl⟩
      exact hall e he o ho
  have habsent : ∀ events others : List Json, ((events.map fun e => (eventId e, e)).filter fun entry =>
      !hasId (others.map fun e => (eventId e, e)) entry.1).length = 0 ↔
      ∀ e ∈ events, ∃ o ∈ others, pyEq (eventId o) (eventId e) = true := by
    intro events others
    rw [List.length_eq_zero_iff, List.filter_eq_nil_iff]
    simp [hasId]
  have hcounts : ((observed.map fun e => (eventId e, e)).map fun entry =>
      (observed.map eventId).countP (pyEq entry.1) - 1).sum = 0 := by
    rw [sum_eq_zero_iff]
    intro n hn
    simp only [List.mem_map, exists_exists_and_eq_and] at hn
    obtain ⟨o, ho, rfl⟩ := hn
    have hselfIds : ∀ id ∈ observed.map eventId, SelfEqual id := by simpa using hself
    have hle := countP_le_one hselfIds (hself o ho) (List.pairwise_map.mpr hdistinct)
    omega
  simp only [bind_eq_ok_iff, pure_eq_ok_iff, Except.ok.injEq, exists_eq_left', EventMetrics.mk.injEq, hcounts, Nat.zero_add,
    habsent, leak_eq_zero_iff]
  constructor
  · rintro ⟨keys, hkeys, disorder, hdisorder, _, -, bytes, hbytes, collapse, hcollapse, drift, hdrift, hloss, rfl, hknown, -,
      hclean, rfl, rfl⟩
    refine ⟨⟨bytes, hbytes, hclean⟩, ⟨keys, hkeys, tally_eq_zero_iff.mp hdisorder⟩, hloss, hknown, (hshared _).mp hdrift, ?_⟩
    intro e he o ho
    have hdiffer := (hshared _).mp hcollapse e he o ho
    simp only [bind_eq_ok_iff] at hdiffer
    obtain ⟨v, hv, w, hw, hvw⟩ := hdiffer
    exact ⟨v, w, hv, hw, hvw⟩
  · rintro ⟨⟨bytes, hbytes, hclean⟩, ⟨keys, hkeys, hordered⟩, hloss, hknown, hdrift, hcollapse⟩
    refine ⟨keys, hkeys, 0, tally_eq_zero_iff.mpr hordered, 0, tally_eq_zero_iff.mpr ?_, bytes, hbytes, 0,
      (hshared _).mpr ?_, 0, (hshared _).mpr hdrift, hloss, rfl, hknown, rfl, hclean, rfl, rfl⟩
    · intro entry hentry
      obtain ⟨e, he, rfl⟩ := List.mem_map.mp hentry
      obtain ⟨corrected, hcorrected⟩ := h.correctedIds_ok
      obtain ⟨o, ho, hid⟩ := hloss e he
      obtain ⟨o', hfind⟩ := Option.isSome_iff_exists.mp ((List.find?_isSome (p := fun o => pyEq (eventId o) (eventId e))).mpr ⟨o, ho, hid⟩)
      rw [destroyed, hcorrected]
      show (if corrected.any fun id => pyEq id (eventId e) then _ else _) = _
      rw [atId_map, hfind]
      split_ifs
      · exact hdrift e he o' hfind
      · rfl
    · intro e he o ho
      obtain ⟨v, w, hv, hw, hvw⟩ := hcollapse e he o ho
      simp only [hv, hw]
      exact hvw

omit [PyRuntime] in
/-- Events whose neighbours are in order are in order. -/
theorem pairwise_of_neighbours {events : List Json} {keys : List (List Json)} (hsound : ∀ e ∈ events, Sound e)
    (hdistinct : events.Pairwise Apart) (hkeys : List.Forall₂ (fun e k => orderKey e = .ok k) events keys)
    (h : ∀ pair ∈ neighbours keys, itemsLess pair.2 pair.1 = .ok false) : events.Pairwise Before := by
  rw [← List.isChain_iff_pairwise]
  induction hkeys with
  | nil => exact .nil
  | cons hk hrest ih =>
    rename_i e k events keys
    cases hrest with
    | nil => exact .singleton e
    | cons hl hrest =>
      rename_i f l events keys
      rw [List.forall_mem_cons] at hsound
      obtain ⟨hhead, htail⟩ := List.pairwise_cons.mp hdistinct
      have hneighbours : neighbours (k :: l :: keys) = (k, l) :: neighbours (l :: keys) := rfl
      rw [hneighbours, List.forall_mem_cons] at h
      refine .cons_cons ?_ (ih hsound.2 htail h.2)
      exact before_of_not_less hsound.1 (hsound.2 f List.mem_cons_self) hk hl (hhead f List.mem_cons_self).2 h.1

omit [PyRuntime] in
/-- The key of an earlier event is not greater. -/
theorem not_less_of_before {e f : Json} {k l : List Json} (hk : orderKey e = .ok k) (hl : orderKey f = .ok l)
    (h : Before e f) : itemsLess l k = .ok false := by
  obtain ⟨k', l', hk', hl', hks, hls, hless⟩ := h
  obtain rfl : k = k' := Except.ok.inj (hk.symm.trans hk')
  obtain rfl : l = l' := Except.ok.inj (hl.symm.trans hl')
  have hne : itemsEq k l = false := by
    rw [Bool.eq_false_iff]
    intro heq
    rw [itemsLess_of_eq heq] at hless
    cases hless
  exact itemsLess_flip hks hls hne hless

omit [PyRuntime] in
theorem neighbours_of_pairwise {events : List Json} {keys : List (List Json)} (h : events.Pairwise Before)
    (hkeys : List.Forall₂ (fun e k => orderKey e = .ok k) events keys) :
    ∀ pair ∈ neighbours keys, itemsLess pair.2 pair.1 = .ok false := by
  induction hkeys with
  | nil => simp [neighbours]
  | cons hk hrest ih =>
    rename_i e k events keys
    cases hrest with
    | nil => simp [neighbours]
    | cons hl hrest =>
      rename_i f l events keys
      obtain ⟨hhead, htail⟩ := List.pairwise_cons.mp h
      have hneighbours : neighbours (k :: l :: keys) = (k, l) :: neighbours (l :: keys) := rfl
      rw [hneighbours, List.forall_mem_cons]
      exact ⟨not_less_of_before hk hl (hhead f List.mem_cons_self), ih htail⟩

/-- With all counts zero the observed ids are different. -/
theorem observed_of_zero (hlegible : ∀ o ∈ observed, Legible o)
    (hzero : eventMetrics expected observed = .ok zeroMetrics) :
    (∀ o ∈ observed, Sound o) ∧ Identified observed ∧ DistinctIds observed := by
  unfold eventMetrics zeroMetrics at hzero
  simp only [bind_eq_ok_iff, pure_eq_ok_iff, EventMetrics.mk.injEq] at hzero
  obtain ⟨wanted, -, seen, hseen, ids, hids, _, -, _, -, _, -, bytes, hbytes, _, -, _, -, -, -, hduplicates, -⟩ := hzero
  have hdigestible := (CSLive.digestible_arr observed).mp (encode_eq_ok_iff.mp hbytes).1
  have hsound : ∀ o ∈ observed, Sound o := fun o ho => ⟨(hlegible o ho).uniqueKeys, hdigestible o ho⟩
  obtain ⟨hidentified, -, hcovered⟩ := byIdFrom_ok hseen
  have hself : ∀ o ∈ observed, SelfEqual (eventId o) := fun o ho => selfEqual_eventId (hsound o ho) (hidentified o ho).1
  have hread : ids = observed.map eventId := by
    have hmap : observed.mapM (fun e => item e "event_id") = .ok (observed.map eventId) := by
      rw [mapM_eq_ok_iff, List.forall₂_map_right_iff, List.forall₂_same]
      exact fun o ho => (hidentified o ho).1
    exact Except.ok.inj (hids.symm.trans hmap)
  have hcount : ∀ key ∈ seen.map Prod.fst, (observed.map eventId).countP (pyEq key) ≤ 1 := by
    intro key hkey
    obtain ⟨entry, hentry, rfl⟩ := List.mem_map.mp hkey
    have hzero := sum_eq_zero_iff.mp (Nat.add_eq_zero_iff.mp hduplicates).1 _ (List.mem_map_of_mem hentry)
    rw [hread] at hzero
    omega
  refine ⟨hsound, hidentified, List.pairwise_map.mp (pairwise_of_counts (by simpa using hself) ?_ hcount)⟩
  intro id hid
  obtain ⟨o, ho, rfl⟩ := List.mem_map.mp hid
  obtain ⟨entry, hentry, heq⟩ := hcovered o ho (pyEq_self (hself o ho))
  have hkey : ∃ o' ∈ observed, entry.1 = eventId o' := by
    rcases keys_byIdFrom hseen entry hentry with ⟨entry', hmem, -⟩ | hkey
    · cases hmem
    · exact hkey
  obtain ⟨o', ho', hkey⟩ := hkey
  exact ⟨entry.1, List.mem_map_of_mem hentry, hkey ▸ hself o' ho', heq⟩

theorem matched_of_zero (h : Expected expected) (hlegible : ∀ o ∈ observed, Legible o)
    (hapart : ∀ e ∈ expected, ∀ o ∈ observed, SearchCup.ToldApart e o)
    (hzero : eventMetrics expected observed = .ok zeroMetrics) : Matched expected observed := by
  obtain ⟨hsound, hids, hdistinct⟩ := observed_of_zero hlegible hzero
  have hself : ∀ o ∈ observed, SelfEqual (eventId o) := fun o ho => selfEqual_eventId (hsound o ho) (hids o ho).1
  obtain ⟨-, ⟨keys, hkeys, hordered⟩, hloss, hknown, hdrift, -⟩ :=
    (eventMetrics_eq_zero_iff h hids hdistinct hself).mp hzero
  -- the observed event of an expected id is the expected event
  have hpartner : ∀ e ∈ expected, ∃ o ∈ observed, pyEq (eventId o) (eventId e) = true ∧ SameJson o e := by
    intro e he
    obtain ⟨o, ho, hid⟩ := hloss e he
    obtain ⟨o', hfind⟩ := Option.isSome_iff_exists.mp
      ((List.find?_isSome (p := fun o => pyEq (eventId o) (eventId e))).mpr ⟨o, ho, hid⟩)
    have ho' := List.mem_of_find?_eq_some hfind
    obtain ⟨d, hd, hd'⟩ := differ_eq_false_iff.mp (hdrift e he o' hfind)
    have hsame := same_of_digest (h.each e he).legible (hlegible o' ho') hd hd' (hapart e he o' ho')
    have hid' : pyEq (eventId o') (eventId e) = true := by simpa using List.find?_some hfind
    exact ⟨o', ho', hid', hsame.symm⟩
  refine ⟨hsound, hdistinct, ?_, ?_, ?_⟩
  · intro e he
    obtain ⟨o, ho, -, hsame⟩ := hpartner e he
    exact ⟨o, ho, hsame⟩
  · intro o ho
    obtain ⟨e, he, heo⟩ := hknown o ho
    obtain ⟨o', ho', hoe, hsame⟩ := hpartner e he
    have hoo : pyEq (eventId o') (eventId o) = true := by
      rw [pyEq_congr (hself o' ho') (hself o ho) (h.selfEqual e he) (hself o ho) hoe (pyEq_self (hself o ho))]
      exact heo
    obtain rfl := eq_of_pyEq hself hdistinct ho' ho hoo
    exact ⟨e, he, hsame⟩
  · exact pairwise_of_neighbours hsound (pairwise_apart hself hdistinct) (mapM_eq_ok_iff.mp hkeys) hordered

theorem differ_of_same {v w : Json} (hv : Sound v) (h : SameJson w v) : differ v w = .ok false := by
  have hdigest : ∃ d, digest v = .ok d := by
    simp only [digest, bind_eq_ok_iff, pure_eq_ok_iff, encode_eq_ok_iff]
    exact ⟨_, _, ⟨hv.digestible, rfl⟩, rfl⟩
  obtain ⟨d, hd⟩ := hdigest
  exact differ_eq_false_iff.mpr ⟨d, hd, (digest_of_same h).trans hd⟩

theorem zero_of_matched (h : Expected expected) (hmatched : Matched expected observed) :
    eventMetrics expected observed = .ok zeroMetrics := by
  have hid : ∀ o ∈ observed, ∀ e ∈ expected, SameJson o e → item o "event_id" = .ok (eventId o) ∧
      SameJson (eventId o) (eventId e) ∧ pyEq (eventId o) (eventId e) = true := fun o ho e he hsame =>
    eventId_same (hmatched.sound o ho) (h.each e he).sound hsame (h.each e he).identified.1
  have hids : Identified observed := by
    intro o ho
    obtain ⟨e, he, hsame⟩ := hmatched.known o ho
    obtain ⟨hitem, hsameId, -⟩ := hid o ho e he hsame
    exact ⟨hitem, (hashable_of_same hsameId).trans (h.each e he).identified.2⟩
  have hself : ∀ o ∈ observed, SelfEqual (eventId o) := fun o ho => selfEqual_eventId (hmatched.sound o ho) (hids o ho).1
  -- the event found under an expected id is the expected event
  have hfound : ∀ e ∈ expected, ∀ o, observed.find? (fun o => pyEq (eventId o) (eventId e)) = some o →
      o ∈ observed ∧ SameJson o e := by
    intro e he o hfind
    have ho := List.mem_of_find?_eq_some hfind
    have hoe : pyEq (eventId o) (eventId e) = true := by simpa using List.find?_some hfind
    obtain ⟨e', he', hsame⟩ := hmatched.known o ho
    have hee : pyEq (eventId e') (eventId e) = true := by
      rw [← pyEq_congr (hself o ho) (h.selfEqual e he) (h.selfEqual e' he') (h.selfEqual e he) (hid o ho e' he' hsame).2.2
        (pyEq_self (h.selfEqual e he))]
      exact hoe
    obtain rfl := eq_of_pyEq h.selfEqual h.distinct he' he hee
    exact ⟨ho, hsame⟩
  rw [eventMetrics_eq_zero_iff h hids hmatched.distinct hself]
  refine ⟨⟨utf8 (render (.arr observed)), ?_, ?_⟩, ?_, ?_, ?_, ?_, ?_⟩
  · exact encode_eq_ok_iff.mpr ⟨(CSLive.digestible_arr observed).mpr fun o ho => (hmatched.sound o ho).digestible, rfl⟩
  · intro s hs hleak
    have hmarks : ∀ s ∈ sentinels, utf8 s ≠ [] ∧ ∀ c ∈ ([44, 91, 93] : List UInt8), c ∉ utf8 s := by decide +kernel
    rw [SearchCup.render_of_sameJson (same_of_matched h hmatched)] at hleak
    obtain ⟨e, he, hinfix⟩ := infix_render_arr (hmarks s hs).1 (hmarks s hs).2 hleak
    exact (h.each e (mem_sortedEvents.mp he)).clean s hs hinfix
  · obtain ⟨keys, hkeys⟩ : ∃ keys, observed.mapM orderKey = .ok keys := by
      refine mapM_ok_of_forall fun o ho => ?_
      obtain ⟨e, he, hsame⟩ := hmatched.known o ho
      obtain ⟨k, hk⟩ := (h.each e he).keyed
      obtain ⟨k', hk', -⟩ := orderKey_same (hmatched.sound o ho) (h.each e he).sound hsame hk
      exact ⟨k', hk'⟩
    exact ⟨keys, hkeys, neighbours_of_pairwise hmatched.ordered (mapM_eq_ok_iff.mp hkeys)⟩
  · intro e he
    obtain ⟨o, ho, hsame⟩ := hmatched.found e he
    exact ⟨o, ho, (hid o ho e he hsame).2.2⟩
  · intro o ho
    obtain ⟨e, he, hsame⟩ := hmatched.known o ho
    exact ⟨e, he, by rw [pyEq_symm (h.selfEqual e he) (hself o ho)]; exact (hid o ho e he hsame).2.2⟩
  · intro e he o hfind
    exact differ_of_same (h.each e he).sound (hfound e he o hfind).2
  · intro e he o hfind
    obtain ⟨ho, hsame⟩ := hfound e he o hfind
    obtain ⟨v, hv⟩ := (h.each e he).known
    obtain ⟨w, hw, hwv⟩ := knowledge_same (hmatched.sound o ho) (h.each e he).sound hsame hv
    exact ⟨v, w, hv, hw, differ_of_same ((h.each e he).sound.knowledge hv) hwv⟩

/-- The metrics are all zero for just the expected events, as JSON, in their order. -/
theorem metrics_zero_iff (h : Expected expected) (hlegible : ∀ o ∈ observed, Legible o)
    (hapart : ∀ e ∈ expected, ∀ o ∈ observed, SearchCup.ToldApart e o) :
    eventMetrics expected observed = .ok zeroMetrics ↔ SameJson (.arr observed) (.arr (sortedEvents expected)) := by
  constructor
  · exact fun hzero => same_of_matched h (matched_of_zero h hlegible hapart hzero)
  · exact fun hsame => zero_of_matched h (matched_of_same h (fun o ho => (hlegible o ho).uniqueKeys) hsame)

end Zero

section Sample

open Python.Ascii

/-- An event of the synthetic oracle. -/
def sampleEvent : Json := .obj [("event_id", .str "a2-one-user"), ("session_id", .str "a2-session-one"),
  ("turn_id", .str "a2-turn-one"), ("sequence_no", .int 0), ("actor_role", .str "user"), ("correction_of", .null),
  ("content_payload", .obj [("text", .str "synthetic one")]), ("status", .str "complete"),
  ("metadata", .obj [("adapter", .str "A019"), ("knowledge", .obj [("observability", .obj [("state", .str "UNKNOWN")])])])]

theorem metrics_zero_sample : eventMetrics [sampleEvent] [sampleEvent] = .ok zeroMetrics ↔
    SameJson (.arr [sampleEvent]) (.arr (sortedEvents [sampleEvent])) := by
  have hlegible : Legible sampleEvent := SearchCup.legible_of_floatless (by decide +kernel)
  have hencode : encode sampleEvent = .ok (utf8 (render sampleEvent)) := by decide +kernel
  have hevent : OracleEvent sampleEvent := by
    refine ⟨hlegible, (encode_eq_ok_iff.mp hencode).1, ⟨_, rfl⟩, ⟨rfl, rfl⟩, ⟨_, rfl, rfl⟩, ⟨_, rfl⟩, ?_⟩
    decide +kernel
  have hexpected : Expected [sampleEvent] := by
    refine ⟨by simpa using hevent, List.pairwise_singleton _ _, ?_⟩
    intro e he f hf k l hk hl
    obtain rfl := List.mem_singleton.mp he
    obtain rfl := List.mem_singleton.mp hf
    obtain rfl : k = l := Except.ok.inj (hk.symm.trans hl)
    exact ⟨false, itemsLess_of_eq (itemsEq_self (selfEqual_orderKey hevent.sound hk))⟩
  refine metrics_zero_iff hexpected (by simpa using hlegible) ?_
  intro e he o ho
  rw [List.mem_singleton.mp he, List.mem_singleton.mp ho]
  exact fun _ => rfl

end Sample

end Events

end EvaluationLab.A2
