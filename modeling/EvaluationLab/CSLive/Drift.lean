import EvaluationLab.CSLive.Feed
import EvaluationLab.CSLive.Ingestion
import EvaluationLab.SearchCup.Seal

/-! `epoch_delta`: what two epochs of a feed differ in, and that it tells whether their contents do. -/
namespace EvaluationLab.CSLive
open Python Effect Structure

structure EpochDelta where
  state : PyStr
  added : List PyStr
  removed : List PyStr
  changed : List PyStr
  before : PyStr
  after : PyStr
  deriving DecidableEq

/-- `hashes.get(id)` of a dictionary made of pairs: the last of an id counts. -/
def hashOf (hashes : List (PyStr × PyStr)) (id : PyStr) : Option PyStr := hashes.reverse.lookup id

section Delta

variable [PyRuntime]

def Epoch.contentHash (e : Epoch) : Except PyExc PyStr := digest (.arr (e.records.map SourceRecord.toJson))

/-- `{r.item_id: r.content_hash for r in records}`. -/
def recordHashes (records : List SourceRecord) : Except PyExc (List (PyStr × PyStr)) :=
  records.mapM fun r => do return (r.itemId, ← r.contentHash)

def epochDelta (before after : Epoch) : Except PyExc EpochDelta := do
  check (before.sourceId = after.sourceId ∧ before.policyFingerprint = after.policyFingerprint)
    (sourceError "EPOCH_POLICY_DRIFT")
  let a ← recordHashes before.records
  let b ← recordHashes after.records
  let ids := a.map Prod.fst
  let ids' := b.map Prod.fst
  let beforeFingerprint ← before.fingerprint
  let afterFingerprint ← after.fingerprint
  return {
    state := if ∀ k ∈ ids ++ ids', hashOf a k = hashOf b k then "NO_DRIFT_OBSERVED" else "DRIFT_OBSERVED"
    added := sortedSet (ids'.filter (· ∉ ids))
    removed := sortedSet (ids.filter (· ∉ ids'))
    changed := sortedSet (ids.filter fun k => k ∈ ids' ∧ hashOf a k ≠ hashOf b k)
    before := beforeFingerprint
    after := afterFingerprint }

/-- Exchanged epochs exchange what was added and what was removed. -/
theorem epochDelta_exchange {before after : Epoch} {delta : EpochDelta} (h : epochDelta before after = .ok delta) :
    epochDelta after before = .ok { delta with
      added := delta.removed, removed := delta.added, before := delta.after, after := delta.before } := by
  simp only [epochDelta, bind_eq_ok_iff, exists_unit_iff, check_eq_ok_iff, pure_eq_ok_iff] at h ⊢
  obtain ⟨⟨hsource, hpolicy⟩, a, ha, b, hb, f, hf, g, hg, rfl⟩ := h
  refine ⟨⟨hsource.symm, hpolicy.symm⟩, b, hb, a, ha, g, hg, f, hf, ?_⟩
  have hstate : (∀ k ∈ a.map Prod.fst ++ b.map Prod.fst, hashOf a k = hashOf b k) ↔
      ∀ k ∈ b.map Prod.fst ++ a.map Prod.fst, hashOf b k = hashOf a k := by
    simp only [List.mem_append, or_comm, eq_comm]
  have hchanged : sortedSet ((a.map Prod.fst).filter fun k => k ∈ b.map Prod.fst ∧ hashOf a k ≠ hashOf b k) =
      sortedSet ((b.map Prod.fst).filter fun k => k ∈ a.map Prod.fst ∧ hashOf b k ≠ hashOf a k) := by
    refine sortedSet_congr fun k => ?_
    simp only [List.mem_filter, decide_eq_true_eq, and_left_comm, ne_comm]
  simp only [hstate, hchanged]

end Delta

section Content

theorem SourceRecord.nodup_keys (r : SourceRecord) : ∀ fields, r.toJson = .obj fields → (fields.map Prod.fst).Nodup := by
  have hkeys : ([py "source_id", py "item_id", py "title", py "body", py "link", py "published_raw",
      py "published_state", py "published_utc", py "expires_raw", py "expires_state", py "expires_utc",
      py "field_evidence_json"] : List PyStr).Nodup := by decide +kernel
  rintro _ ⟨⟩
  exact hkeys

theorem optionJson_injective {s t : Option PyStr} (h : sortKeys (optionJson s) = sortKeys (optionJson t)) : s = t := by
  cases s <;> cases t <;> cases h <;> rfl

/-- Records that are the same as documents are equal. -/
theorem SourceRecord.eq_of_sameJson {r s : SourceRecord} (h : SameJson r.toJson s.toJson) : r = s := by
  have hvalue := (sameJson_obj_iff (r.nodup_keys _ rfl) (s.nodup_keys _ rfl)).mp h
  have htext : ∀ {t u : PyStr}, some (Json.str t) = some (Json.str u) → t = u :=
    fun h => Json.str.inj (Option.some.inj h)
  have hsourceId := htext (hvalue "source_id")
  have hitemId := htext (hvalue "item_id")
  have htitle := htext (hvalue "title")
  have hbody := htext (hvalue "body")
  have hlink := htext (hvalue "link")
  have hpublishedRaw := htext (hvalue "published_raw")
  have hpublishedState := htext (hvalue "published_state")
  have hpublishedUtc := optionJson_injective (Option.some.inj (hvalue "published_utc"))
  have hexpiresRaw := htext (hvalue "expires_raw")
  have hexpiresState := htext (hvalue "expires_state")
  have hexpiresUtc := optionJson_injective (Option.some.inj (hvalue "expires_utc"))
  have hevidence := htext (hvalue "field_evidence_json")
  obtain ⟨_, _, _, _, _, _, _, _, _, _, _, _⟩ := r
  obtain ⟨_, _, _, _, _, _, _, _, _, _, _, _⟩ := s
  subst hsourceId hitemId htitle hbody hlink hpublishedRaw hpublishedState hpublishedUtc hexpiresRaw hexpiresState
    hexpiresUtc hevidence
  rfl

variable [PyRuntime]

theorem SourceRecord.legible (r : SourceRecord) : Legible r.toJson := by
  have hoption : ∀ t : Option PyStr, Legible (optionJson t) := fun t => by cases t <;> simp [optionJson, Legible]
  refine ⟨r.nodup_keys _ rfl, ?_⟩
  simp only [FieldsLegible, Legible, hoption, and_self]

theorem legible_records (records : List SourceRecord) : Legible (.arr (records.map SourceRecord.toJson)) := by
  rw [Legible, itemsLegible_iff, List.forall_mem_map]
  exact fun r _ => r.legible

omit [PyRuntime] in
theorem records_eq_of_sameJson {rs ss : List SourceRecord}
    (h : SameJson (.arr (rs.map SourceRecord.toJson)) (.arr (ss.map SourceRecord.toJson))) : rs = ss := by
  rw [SameJson, sortKeys, sortKeys, Json.arr.injEq] at h
  induction rs generalizing ss with
  | nil =>
    cases ss with
    | nil => rfl
    | cons s ss => cases h
  | cons r rs ih =>
    cases ss with
    | nil => cases h
    | cons s ss =>
      rw [List.map_cons, List.map_cons, sortItems, sortItems, List.cons.injEq] at h
      rw [SourceRecord.eq_of_sameJson h.1, ih h.2]

/-- Documents of one digest are the same, when SHA-256 tells them apart. -/
theorem sameJson_of_digest {v w : Json} {d : PyStr} (hv : Legible v) (hw : Legible w) (hdv : digest v = .ok d)
    (hdw : digest w = .ok d) (hapart : SearchCup.ToldApart v w) : SameJson v w := by
  obtain ⟨hdigestible, hd⟩ := (digest_eq_ok_iff v d).mp hdv
  obtain ⟨hdigestible', hd'⟩ := (digest_eq_ok_iff w d).mp hdw
  have hbytes := hapart (QA0.hexDigest_injective (hd.symm.trans hd'))
  have hencodable : ∀ {u : Json}, Digestible u → encodable (render u) = true := fun hu => by
    rw [encodable_render, List.all_eq_true]
    exact hu.texts_encodable
  exact sortKeys_eq_of_render_eq hv hw hdigestible.ints_printable hdigestible'.ints_printable
    (utf8_injective (hencodable hdigestible) (hencodable hdigestible') hbytes)

/-- SHA-256 tells apart the records of two epochs, and the epochs' lists of them. -/
structure EpochsApart (before after : Epoch) : Prop where
  records : ∀ r ∈ before.records, ∀ s ∈ after.records, SearchCup.ToldApart r.toJson s.toJson
  lists : SearchCup.ToldApart (.arr (before.records.map SourceRecord.toJson)) (.arr (after.records.map SourceRecord.toJson))

variable {rs ss : List SourceRecord} {a b : List (PyStr × PyStr)}

theorem mem_recordHashes {id hash : PyStr} (ha : recordHashes rs = .ok a) :
    (id, hash) ∈ a ↔ ∃ r ∈ rs, r.itemId = id ∧ r.contentHash = .ok hash := by
  have hpair : ∀ (r : SourceRecord) (p : PyStr × PyStr), (do return (r.itemId, ← r.contentHash) : Except PyExc _) = .ok p ↔
      r.itemId = p.1 ∧ r.contentHash = .ok p.2 := by
    intro r p
    simp only [bind_eq_ok_iff, pure_eq_ok_iff]
    constructor
    · rintro ⟨hash, hhash, rfl⟩
      exact ⟨rfl, hhash⟩
    · rintro ⟨hid, hhash⟩
      exact ⟨p.2, hhash, by rw [hid]⟩
  constructor
  · intro hmem
    obtain ⟨r, hr, hp⟩ := mapM_mem ha hmem
    exact ⟨r, hr, (hpair r _).mp hp⟩
  · rintro ⟨r, hr, hid, hhash⟩
    obtain ⟨p, hp, hread⟩ := mem_mapM ha hr
    obtain ⟨hid', hhash'⟩ := (hpair r p).mp hread
    rw [hhash] at hhash'
    rwa [← hid, hid', Except.ok.inj hhash']

theorem keys_recordHashes (ha : recordHashes rs = .ok a) : a.map Prod.fst = rs.map SourceRecord.itemId := by
  have hpairs := mapM_eq_ok_iff.mp ha
  clear ha
  induction hpairs with
  | nil => rfl
  | cons hp _ ih =>
    simp only [bind_eq_ok_iff, pure_eq_ok_iff] at hp
    obtain ⟨_, -, rfl⟩ := hp
    rw [List.map_cons, List.map_cons, ih]

/-- When the ids differ, a dictionary of hashes says which record has which hash. -/
theorem hashOf_eq_some_iff {id hash : PyStr} (hrs : rs.Pairwise fun r s => strLt r.itemId s.itemId = true)
    (ha : recordHashes rs = .ok a) :
    hashOf a id = some hash ↔ ∃ r ∈ rs, r.itemId = id ∧ r.contentHash = .ok hash := by
  have hkeys : (a.reverse.map Prod.fst).Nodup := by
    rw [List.map_reverse, List.nodup_reverse, keys_recordHashes ha, List.Nodup, List.pairwise_map]
    exact hrs.imp fun hlt => ne_of_strLt hlt
  rw [hashOf, lookup_eq_some_iff hkeys, List.mem_reverse, mem_recordHashes ha]

/-- A record whose hash is also in the other dictionary is one of the other records. -/
theorem mem_of_hashOf {r : SourceRecord} (hrs : rs.Pairwise fun r s => strLt r.itemId s.itemId = true)
    (hss : ss.Pairwise fun r s => strLt r.itemId s.itemId = true) (ha : recordHashes rs = .ok a)
    (hb : recordHashes ss = .ok b) (hapart : ∀ s ∈ ss, SearchCup.ToldApart r.toJson s.toJson) (hr : r ∈ rs)
    (h : hashOf a r.itemId = hashOf b r.itemId) : r ∈ ss := by
  have hmem : r.itemId ∈ a.map Prod.fst := by
    rw [keys_recordHashes ha]
    exact List.mem_map_of_mem hr
  obtain ⟨⟨id, hash⟩, hpair, hid⟩ := List.mem_map.mp hmem
  dsimp only at hid
  obtain ⟨r', hr', hid', hhash⟩ := (mem_recordHashes ha).mp hpair
  have hsame : r' = r := by
    have hkeys : (rs.map SourceRecord.itemId).Nodup := by
      rw [List.Nodup, List.pairwise_map]
      exact hrs.imp fun hlt => ne_of_strLt hlt
    exact List.inj_on_of_nodup_map hkeys hr' hr (hid'.trans hid)
  rw [hsame] at hhash
  rw [(hashOf_eq_some_iff hrs ha).mpr ⟨r, hr, rfl, hhash⟩] at h
  obtain ⟨s, hs, -, hhash'⟩ := (hashOf_eq_some_iff hss hb).mp h.symm
  rwa [SourceRecord.eq_of_sameJson (sameJson_of_digest r.legible s.legible hhash hhash' (hapart s hs))]

/-- Dictionaries of hashes are equal exactly for the same records. -/
theorem hashes_eq_iff (hrs : rs.Pairwise fun r s => strLt r.itemId s.itemId = true)
    (hss : ss.Pairwise fun r s => strLt r.itemId s.itemId = true) (ha : recordHashes rs = .ok a)
    (hb : recordHashes ss = .ok b) (hapart : ∀ r ∈ rs, ∀ s ∈ ss, SearchCup.ToldApart r.toJson s.toJson) :
    (∀ id ∈ a.map Prod.fst ++ b.map Prod.fst, hashOf a id = hashOf b id) ↔ rs = ss := by
  rw [keys_recordHashes ha, keys_recordHashes hb]
  constructor
  · intro h
    refine eq_of_ascending hrs hss fun r => ⟨fun hr => ?_, fun hr => ?_⟩
    · exact mem_of_hashOf hrs hss ha hb (hapart r hr) hr (h _ (List.mem_append_left _ (List.mem_map_of_mem hr)))
    · have hback : ∀ s ∈ rs, SearchCup.ToldApart r.toJson s.toJson :=
        fun s hs hequal => (hapart s hs r hr hequal.symm).symm
      exact mem_of_hashOf hss hrs hb ha hback hr (h _ (List.mem_append_right _ (List.mem_map_of_mem hr))).symm
  · rintro rfl
    rw [ha] at hb
    cases hb
    exact fun _ _ => rfl

theorem contentHash_eq_iff {before after : Epoch} {h h' : PyStr} (hbefore : before.contentHash = .ok h)
    (hafter : after.contentHash = .ok h') (hapart : EpochsApart before after) : h = h' ↔ before.records = after.records := by
  constructor
  · rintro rfl
    exact records_eq_of_sameJson
      (sameJson_of_digest (legible_records _) (legible_records _) hbefore hafter hapart.lists)
  · intro heq
    rw [Epoch.contentHash, heq] at hbefore
    exact Except.ok.inj (hbefore.symm.trans hafter)

/-- The records of an epoch that has a fingerprint can be digested. -/
theorem digestible_of_fingerprint {e : Epoch} {f : PyStr} (h : e.fingerprint = .ok f) : ∀ r ∈ e.records, Digestible r.toJson :=
  ((digestible_epoch e).mp ((digest_eq_ok_iff _ _).mp h).1).2.1

theorem exists_contentHash {e : Epoch} (h : ∀ r ∈ e.records, Digestible r.toJson) : ∃ hash, e.contentHash = .ok hash := by
  refine ⟨_, digest_of ?_⟩
  rw [digestible_arr, List.forall_mem_map]
  exact h

theorem exists_recordHashes (h : ∀ r ∈ rs, Digestible r.toJson) : ∃ a, recordHashes rs = .ok a := by
  refine mapM_ok_of_forall fun r hr => ?_
  simp only [bind_eq_ok_iff, pure_eq_ok_iff]
  exact ⟨_, _, digest_of (h r hr), rfl⟩

end Content

section Feed

variable [PyRuntime] [FeedLibraries] [PyNormalization] [PyAddresses]

/-- `parse_rss`. What reads the items out of a payload, with the checks on the text and the document, is a parameter. -/
def parseRss (channelItems : List UInt8 → Except PyExc (List FeedItem)) (policy : SourcePolicy) (payload : List UInt8) :
    Except PyExc (List SourceRecord × ℕ) := do
  check (payload.length ≤ policy.maxInputBytes) (sourceError "INPUT_BYTES_LIMIT")
  let items ← channelItems payload
  parseItems policy items

/-- An epoch of the policy whose records are those of a feed. -/
structure OfFeed (policy : SourcePolicy) (epoch : Epoch) : Prop where
  source : epoch.sourceId = policy.sourceId
  policy_fingerprint : policy.fingerprint = .ok epoch.policyFingerprint
  records : ∃ items duplicates, parseItems policy items = .ok (epoch.records, duplicates)

/-- The epochs that are ingested are of this kind. -/
theorem ofFeed_of_readEpoch {channelItems : List UInt8 → Except PyExc (List FeedItem)} {policy : SourcePolicy}
    {previous : Option Epoch} {now : ℤ} {epochId : PyStr} {payload : List UInt8} {epoch : Epoch}
    (h : readEpoch policy (parseRss channelItems policy) previous now epochId payload = .ok epoch) :
    OfFeed policy epoch := by
  simp only [readEpoch, bind_eq_ok_iff, parseRss, exists_unit_iff] at h
  obtain ⟨⟨records, duplicates⟩, ⟨-, items, -, hrecords⟩, fingerprint, hfingerprint, h⟩ := h
  cases previous <;> simp only [bind_eq_ok_iff, pure_eq_ok_iff] at h <;> obtain ⟨_, -, rfl⟩ := h
  · exact ⟨rfl, hfingerprint, items, duplicates, hrecords⟩
  · exact ⟨rfl, hfingerprint, items, duplicates, hrecords⟩

variable {policy : SourcePolicy} {before after : Epoch}

/-- Two epochs of a feed are compared exactly when each has a fingerprint. -/
theorem epochDelta_returns_iff (hbefore : OfFeed policy before) (hafter : OfFeed policy after) :
    (∃ delta, epochDelta before after = .ok delta) ↔
      (∃ f, before.fingerprint = .ok f) ∧ ∃ f, after.fingerprint = .ok f := by
  simp only [epochDelta, bind_eq_ok_iff, exists_unit_iff, check_eq_ok_iff, pure_eq_ok_iff]
  constructor
  · rintro ⟨_, -, _, -, _, -, f, hf, g, hg, -⟩
    exact ⟨⟨f, hf⟩, g, hg⟩
  · rintro ⟨⟨f, hf⟩, g, hg⟩
    have hsource : before.sourceId = after.sourceId := hbefore.source.trans hafter.source.symm
    have hpolicy : before.policyFingerprint = after.policyFingerprint :=
      Except.ok.inj (hbefore.policy_fingerprint.symm.trans hafter.policy_fingerprint)
    obtain ⟨a, ha⟩ := exists_recordHashes (digestible_of_fingerprint hf)
    obtain ⟨b, hb⟩ := exists_recordHashes (digestible_of_fingerprint hg)
    exact ⟨_, ⟨hsource, hpolicy⟩, a, ha, b, hb, f, hf, g, hg, rfl⟩

/-- No drift is reported exactly for equal contents. -/
theorem noDrift_iff (hbefore : OfFeed policy before) (hafter : OfFeed policy after) {delta : EpochDelta}
    (h : epochDelta before after = .ok delta) : ∃ hash hash', before.contentHash = .ok hash ∧
      after.contentHash = .ok hash' ∧
        (EpochsApart before after → (delta.state = py "NO_DRIFT_OBSERVED" ↔ hash = hash')) := by
  obtain ⟨-, ⟨f, hf⟩, g, hg⟩ := And.intro h ((epochDelta_returns_iff hbefore hafter).mp ⟨delta, h⟩)
  obtain ⟨hash, hhash⟩ := exists_contentHash (digestible_of_fingerprint hf)
  obtain ⟨hash', hhash'⟩ := exists_contentHash (digestible_of_fingerprint hg)
  refine ⟨hash, hash', hhash, hhash', fun hapart => ?_⟩
  obtain ⟨items, duplicates, hitems⟩ := hbefore.records
  obtain ⟨items', duplicates', hitems'⟩ := hafter.records
  simp only [epochDelta, bind_eq_ok_iff, exists_unit_iff, check_eq_ok_iff, pure_eq_ok_iff] at h
  obtain ⟨-, a, ha, b, hb, _, -, _, -, rfl⟩ := h
  have hequal := hashes_eq_iff (parseItems_records hitems).1 (parseItems_records hitems').1 ha hb hapart.records
  have hstates : py "DRIFT_OBSERVED" ≠ py "NO_DRIFT_OBSERVED" := by decide +kernel
  rw [contentHash_eq_iff hhash hhash' hapart, ← hequal]
  dsimp only
  split_ifs with hsame
  · exact iff_of_true rfl hsame
  · exact iff_of_false hstates hsame

/-- The items of a feed are read as a set, and epochs of a feed drift exactly when their contents differ. -/
theorem feed_reads_as_set (policy : SourcePolicy) :
    (∀ items, (∃ r, parseItems policy items = .ok r) ↔
      items.length ≤ policy.maxItems ∧ (∀ item ∈ items, ∃ record, readItem policy item = .ok record) ∧
        ∀ item ∈ items, ∀ item' ∈ items, identity item = identity item' → readItem policy item = readItem policy item') ∧
    (∀ items records duplicates, parseItems policy items = .ok (records, duplicates) →
      (records.Pairwise fun r s => strLt r.itemId s.itemId = true) ∧ (duplicates : ℤ) = items.length - records.length) ∧
    (∀ items items' r, items.Perm items' → (parseItems policy items = .ok r ↔ parseItems policy items' = .ok r)) ∧
    ∀ before after, OfFeed policy before → OfFeed policy after →
      ((∃ delta, epochDelta before after = .ok delta) ↔
        (∃ f, before.fingerprint = .ok f) ∧ ∃ f, after.fingerprint = .ok f) ∧
      ∀ delta, epochDelta before after = .ok delta →
        (∃ hash hash', before.contentHash = .ok hash ∧ after.contentHash = .ok hash' ∧
          (EpochsApart before after → (delta.state = py "NO_DRIFT_OBSERVED" ↔ hash = hash'))) ∧
        ∃ back, epochDelta after before = .ok back ∧ back.added = delta.removed ∧ back.removed = delta.added ∧
          back.changed = delta.changed := by
  refine ⟨fun items => parseItems_accepts_iff, ?_, ?_, ?_⟩
  · intro items records duplicates h
    obtain ⟨hascending, hcount, -⟩ := parseItems_records h
    exact ⟨hascending, by omega⟩
  · intro items items' r hperm
    exact ⟨parseItems_perm hperm, parseItems_perm hperm.symm⟩
  · intro before after hbefore hafter
    refine ⟨epochDelta_returns_iff hbefore hafter, fun delta h => ⟨noDrift_iff hbefore hafter h, ?_⟩⟩
    exact ⟨_, epochDelta_exchange h, rfl, rfl, rfl⟩

end Feed

section Sample

open Python.Ascii Python.Latin

/-- The libraries on text without markup and without dates. -/
local instance plainLibraries : FeedLibraries where
  htmlCalls text := if text = [] then ([], none) else ([.data text], none)
  mailDate _ := .error (valueError "Invalid date value or format")

local instance noAddresses : PyAddresses where
  addressV6 _ := .error (valueError "not an address")

def sampleItem (guid : PyStr) : FeedItem := [
  ⟨"title", false, some "Analyst"⟩,
  ⟨"link", false, some "https://source.example.invalid/jobs/1"⟩,
  ⟨"guid", false, some guid⟩]

example : (readItem frozenPolicy (sampleItem "a")).isOk = true := by decide +kernel

/-- Three items of which two are the same, in two orders. -/
theorem feed_reads_as_set_sample : ∃ r, parseItems frozenPolicy [sampleItem "b", sampleItem "a", sampleItem "b"] = .ok r ∧
    parseItems frozenPolicy [sampleItem "a", sampleItem "b", sampleItem "b"] = .ok r ∧ (r.2 : ℤ) = 3 - r.1.length := by
  have haccepted : (parseItems frozenPolicy [sampleItem "b", sampleItem "a", sampleItem "b"]).isOk = true := by
    decide +kernel
  obtain ⟨-, hrecords, hperm, -⟩ := feed_reads_as_set frozenPolicy
  cases hr : parseItems frozenPolicy [sampleItem "b", sampleItem "a", sampleItem "b"] with
  | error e =>
    rw [hr] at haccepted
    cases haccepted
  | ok r =>
    have hswapped := (hperm _ [sampleItem "a", sampleItem "b", sampleItem "b"] r (.swap _ _ _)).mp hr
    exact ⟨r, rfl, hswapped, (hrecords _ r.1 r.2 hr).2⟩

end Sample

end EvaluationLab.CSLive
