import EvaluationLab.CSLive.EpochStore
import EvaluationLab.Python.SortedSet
import EvaluationLab.Python.UrlSplit
import EvaluationLab.Structure.FirstWins

/-! The items of a feed: how one is read, how many become the records of an epoch, and what changed from one
epoch to the next. -/
namespace EvaluationLab.CSLive
open Python Effect Structure

/-- A call that `HTMLParser` makes of its handlers. -/
inductive HtmlCall where
  | startTag (tag : PyStr) (attributes : List PyStr)
  | endTag (tag : PyStr)
  | data (text : PyStr)
  | decl
  | unknownDecl

/-- The libraries that read a text field: the calls `HTMLParser` makes for a text and the error it then ends in,
if any, and `parsedate_to_datetime`. -/
class FeedLibraries where
  htmlCalls : PyStr → List HtmlCall × Option PyExc
  mailDate : PyStr → Except PyExc ParsedTime

/-- `_PlainHTML.blocked`. -/
def blockedTags : List PyStr := ["script", "style", "img", "iframe", "object", "embed", "svg", "math", "link", "meta",
  "base", "audio", "video", "source"]

/-- A child of an item: its tag, whether it has children of its own, and its text. -/
structure FeedField where
  tag : PyStr
  nested : Bool
  text : Option PyStr

abbrev FeedItem := List FeedField

/-- `_field`. -/
def field (item : FeedItem) (name : PyStr) : Except PyExc PyStr :=
  match item.filter fun x => x.tag = name with
  | [] => .ok []
  | [x] => if x.nested then .error (sourceError "NESTED_XML_FIELD") else .ok (x.text.getD [])
  | _ => .error (sourceError "DUPLICATE_FIELD")

/-- `{http://purl.org/rss/1.0/modules/content/}encoded`. -/
def encodedTag : PyStr := "\x7bhttp://purl.org/rss/1.0/modules/content/\x7dencoded"

section Reading

variable [PyRuntime] [FeedLibraries]

/-- A handler of `_PlainHTML`: what it adds to the parts. -/
def handleHtml (parts : List PyStr) : HtmlCall → Except PyExc (List PyStr)
  | .startTag tag attributes => do
    check (tag ∉ blockedTags ∧ ∀ k ∈ attributes, (py "on").isPrefixOf (PyRuntime.lower k) = false)
      (sourceError "UNSAFE_HTML")
    return parts ++ [py " "]
  | .endTag _ => .ok (parts ++ [py " "])
  | .data text => .ok (parts ++ [text])
  | .decl => .error (sourceError "UNSAFE_HTML")
  | .unknownDecl => .error (sourceError "UNSAFE_HTML")

def plainHtml (text : PyStr) : Except PyExc PyStr := do
  let (calls, failure) := FeedLibraries.htmlCalls text
  let parts ← calls.foldlM handleHtml []
  match failure with
  | none => return [32].intercalate (words parts.flatten)
  | some e =>
    if e.isA "SourceError" then throw e
    else if e.isA "ValueError" ∨ e.isA "AssertionError" then throw (sourceError "INVALID_HTML")
    else throw e

/-- `date_evidence`: a naive or invalid date is not guessed. -/
def dateEvidence (raw : PyStr) : Except PyExc (PyStr × Option PyStr) :=
  let known : ParsedTime → PyStr × Option PyStr
    | .aware time => if minTime ≤ time ∧ time ≤ maxTime then ("KNOWN", some (isoformat time)) else ("UNKNOWN", none)
    | _ => ("UNKNOWN", none)
  if raw = [] then .ok ("UNKNOWN", none)
  else match PyRuntime.fromisoformat (replace raw "Z" "+00:00") with
    | .malformed =>
      match FeedLibraries.mailDate raw with
      | .ok parsed => .ok (known parsed)
      | .error e =>
        if e.isA "ValueError" ∨ e.isA "TypeError" ∨ e.isA "OverflowError" ∨ e.isA "AttributeError" then
          .ok ("UNKNOWN", none)
        else .error e
    | parsed => .ok (known parsed)

variable [PyNormalization] [PyAddresses]

/-- The text after the colon of the host, of a network location. -/
def hostPort (netloc : PyStr) : PyStr :=
  let hostinfo := (cutLast 64 netloc).2
  match (cut 91 hostinfo).2 with
  | some bracketed => ((((cut 93 bracketed).2.getD [])|> cut 58).2).getD []
  | none => (cut 58 hostinfo).2.getD []

/-- The port is read and is 0, or there is none. -/
def noPort (netloc : PyStr) : Bool :=
  let port := hostPort netloc
  port.all isAsciiDigit && port.length ≤ maxStrDigits && digitsValue port = 0

/-- `SplitResult.hostname`: what stands before a zone is made small. -/
def lowerHost (host : PyStr) : PyStr :=
  match cut 37 host with
  | (name, none) => PyRuntime.lower name
  | (name, some zone) => PyRuntime.lower name ++ 37 :: zone

/-- `_safe_link`. -/
def safeLink (link host : PyStr) : Except PyExc Unit :=
  match urlsplit link with
  | .error e => .error (if e.isA "ValueError" ∨ e.isA "AttributeError" then sourceError "ITEM_LINK_REJECTED" else e)
  | .ok u =>
    check (u.scheme = py "https" ∧ u.hostname ≠ [] ∧ lowerHost u.hostname = host ∧ u.username = [] ∧ u.password = [] ∧
        noPort u.netloc = true ∧ (∀ c ∈ link, 33 ≤ c) ∧ 92 ∉ link)
      (sourceError "ITEM_LINK_REJECTED")

/-- Both channels of an item, neither preferred. -/
def itemBody (description encoded : PyStr) : Except PyExc PyStr := do
  let plainDescription ← plainHtml description
  if encoded = [] then return plainDescription
  else do
    let plainEncoded ← plainHtml encoded
    return plainDescription ++ 10 :: plainEncoded

/-- One pass of the loop of `parse_rss`: the record of an item. -/
def readItem (policy : SourcePolicy) (item : FeedItem) : Except PyExc SourceRecord := do
  let title ← field item "title"
  let description ← field item "description"
  let link ← field item "link"
  let guid ← field item "guid"
  let pubDate ← field item "pubDate"
  let expiryDate ← field item "expiryDate"
  let encoded ← field item encodedTag
  let bodyBytes ← QA0.encode (description ++ encoded)
  check (bodyBytes.length ≤ policy.maxBodyBytes) (sourceError "BODY_BYTES_LIMIT")
  [title, link, guid, pubDate, expiryDate].forM fun text => do
    let bytes ← QA0.encode text
    check (bytes.length ≤ 4096) (sourceError "METADATA_BYTES_LIMIT")
  safeLink link policy.allowedItemHost
  -- the guid is opaque, not a link
  let identity := if guid = [] then link else guid
  let plainTitle ← plainHtml title
  check (identity ≠ [] ∧ plainTitle ≠ []) (sourceError "REQUIRED_FIELD_MISSING")
  let body ← itemBody description encoded
  let (publishedState, publishedUtc) ← dateEvidence pubDate
  let (expiresState, expiresUtc) ← dateEvidence expiryDate
  let evidence ← canonical (.obj [("title", .str title), ("description", .str description), ("link", .str link),
    ("guid", .str guid), ("pubDate", .str pubDate), ("expiryDate", .str expiryDate), (encodedTag, .str encoded)])
  return {
    sourceId := policy.sourceId
    itemId := identity
    title := plainTitle
    body := body
    link := link
    publishedRaw := pubDate
    publishedState := publishedState
    publishedUtc := publishedUtc
    expiresRaw := expiryDate
    expiresState := expiresState
    expiresUtc := expiresUtc
    fieldEvidenceJson := evidence }

/-- What an item is told from the others by: its guid, which is opaque, or without one its link. -/
def identity (item : FeedItem) : Except PyExc PyStr := do
  let guid ← field item "guid"
  let link ← field item "link"
  return if guid = [] then link else guid

deriving instance DecidableEq for SourceRecord

/-- Records in the order of their ids. -/
def sortRecords (records : List SourceRecord) : List SourceRecord :=
  records.insertionSort fun r s => strLe r.itemId s.itemId = true

/-- `parse_rss` of the items of a channel. -/
def parseItems (policy : SourcePolicy) (items : List FeedItem) : Except PyExc (List SourceRecord × ℕ) := do
  check (items.length ≤ policy.maxItems) (sourceError "ITEM_COUNT_LIMIT")
  let byId ← items.foldlM (fun byId item => do
    keepFirst SourceRecord.itemId (sourceError "IDENTITY_COLLISION") byId (← readItem policy item)) ([], 0)
  return (sortRecords byId.1, byId.2)

theorem readItem_identity {policy : SourcePolicy} {item : FeedItem} {record : SourceRecord}
    (h : readItem policy item = .ok record) : identity item = .ok record.itemId := by
  simp only [readItem, bind_eq_ok_iff, exists_unit_iff, pure_eq_ok_iff] at h
  obtain ⟨title, -, description, -, link, hlink, guid, hguid, h⟩ := h
  obtain ⟨pubDate, -, expiryDate, -, encoded, -, _, -, -, -, -, _, -, -, _, -, _, -, _, -, _, -, rfl⟩ := h
  simp only [identity, bind_eq_ok_iff, pure_eq_ok_iff]
  exact ⟨guid, hguid, link, hlink, rfl⟩

section Items

variable {policy : SourcePolicy} {items items' : List FeedItem}

theorem parseItems_eq_ok_iff {r : List SourceRecord × ℕ} : parseItems policy items = .ok r ↔
    items.length ≤ policy.maxItems ∧ ∃ read, items.mapM (readItem policy) = .ok read ∧
      ∃ kept, read.foldlM (keepFirst SourceRecord.itemId (sourceError "IDENTITY_COLLISION")) ([], 0) = .ok kept ∧
        r = (sortRecords kept.1, kept.2) := by
  simp only [parseItems, bind_eq_ok_iff, exists_unit_iff, check_eq_ok_iff, pure_eq_ok_iff, foldlM_reading]
  constructor
  · rintro ⟨hcount, kept, ⟨read, hread, hkept⟩, rfl⟩
    exact ⟨hcount, read, hread, kept, hkept, rfl⟩
  · rintro ⟨hcount, read, hread, kept, hkept, rfl⟩
    exact ⟨hcount, kept, ⟨read, hread, hkept⟩, rfl⟩

/-- The records read are consistent when items of one identity are read alike. -/
theorem consistent_read_iff {read : List SourceRecord} (hread : items.mapM (readItem policy) = .ok read) :
    Consistent SourceRecord.itemId read ↔ ∀ item ∈ items, ∀ item' ∈ items, identity item = identity item' →
      readItem policy item = readItem policy item' := by
  constructor
  · intro h item hitem item' hitem' hid
    obtain ⟨r, hr, hitem⟩ := mem_mapM hread hitem
    obtain ⟨r', hr', hitem'⟩ := mem_mapM hread hitem'
    rw [readItem_identity hitem, readItem_identity hitem'] at hid
    rw [hitem, hitem', h r hr r' hr' (Except.ok.inj hid)]
  · intro h r hr r' hr' hid
    obtain ⟨item, hitem, hr⟩ := mapM_mem hread hr
    obtain ⟨item', hitem', hr'⟩ := mapM_mem hread hr'
    have hsame := h item hitem item' hitem' (by rw [readItem_identity hr, readItem_identity hr', hid])
    rw [hr, hr'] at hsame
    exact Except.ok.inj hsame

/-- Items are accepted when they are not too many, each can be read, and those of one identity are read alike. -/
theorem parseItems_accepts_iff : (∃ r, parseItems policy items = .ok r) ↔
    items.length ≤ policy.maxItems ∧ (∀ item ∈ items, ∃ record, readItem policy item = .ok record) ∧
      ∀ item ∈ items, ∀ item' ∈ items, identity item = identity item' → readItem policy item = readItem policy item' := by
  simp only [parseItems_eq_ok_iff]
  constructor
  · rintro ⟨_, hcount, read, hread, kept, hkept, -⟩
    refine ⟨hcount, fun item hitem => ?_, ?_⟩
    · obtain ⟨record, -, hrecord⟩ := mem_mapM hread hitem
      exact ⟨record, hrecord⟩
    · rw [← consistent_read_iff hread]
      exact (keepFirst_collects read).1.mp ⟨kept, hkept⟩
  · rintro ⟨hcount, hvalid, hconsistent⟩
    obtain ⟨read, hread⟩ := mapM_ok_of_forall hvalid
    rw [← consistent_read_iff hread] at hconsistent
    obtain ⟨kept, hkept⟩ : ∃ kept, read.foldlM (keepFirst SourceRecord.itemId (sourceError "IDENTITY_COLLISION")) ([], 0) = .ok kept :=
      (keepFirst_collects read).1.mpr hconsistent
    exact ⟨_, hcount, read, hread, kept, hkept, rfl⟩

/-- The records of accepted items: what was read of each, once for its identity and in ascending order. -/
theorem parseItems_records {records : List SourceRecord} {duplicates : ℕ}
    (h : parseItems policy items = .ok (records, duplicates)) :
    (records.Pairwise fun r s => strLt r.itemId s.itemId = true) ∧ records.length + duplicates = items.length ∧
      ∀ r, r ∈ records ↔ ∃ item ∈ items, readItem policy item = .ok r := by
  obtain ⟨-, read, hread, kept, hkept, heq⟩ := parseItems_eq_ok_iff.mp h
  obtain ⟨rfl, rfl⟩ := Prod.mk.inj heq
  have hcollected := (keepFirst_collects read).2 kept hkept
  refine ⟨pairwise_strLt_insertionSort SourceRecord.itemId hcollected.keys, ?_, fun r => ?_⟩
  · rw [sortRecords, List.length_insertionSort, hcollected.count, (mapM_eq_ok_iff.mp hread).length_eq]
  · rw [sortRecords, List.mem_insertionSort, hcollected.mem]
    constructor
    · exact mapM_mem hread
    · rintro ⟨item, hitem, hr⟩
      obtain ⟨s, hs, hitem⟩ := mem_mapM hread hitem
      rw [hr] at hitem
      rwa [Except.ok.inj hitem]

omit [PyRuntime] [FeedLibraries] [PyNormalization] [PyAddresses] in
/-- Ascending records are known by their members. -/
theorem eq_of_ascending {rs ss : List SourceRecord} (hr : rs.Pairwise fun r s => strLt r.itemId s.itemId = true)
    (hs : ss.Pairwise fun r s => strLt r.itemId s.itemId = true) (h : ∀ r, r ∈ rs ↔ r ∈ ss) : rs = ss := by
  have hnodup : ∀ {l : List SourceRecord}, (l.Pairwise fun r s => strLt r.itemId s.itemId = true) → l.Nodup := by
    intro l hl
    refine hl.imp fun hlt heq => ?_
    subst heq
    exact ne_of_strLt hlt rfl
  have hperm : rs.Perm ss := (List.perm_ext_iff_of_nodup (hnodup hr) (hnodup hs)).mpr h
  refine hperm.eq_of_pairwise (fun a b _ _ hab hba => ?_) hr hs
  rw [strLt_iff] at hab hba
  exact absurd hba hab.asymm

/-- The order of the items does not show. -/
theorem parseItems_perm (h : items.Perm items') {r : List SourceRecord × ℕ} (hr : parseItems policy items = .ok r) :
    parseItems policy items' = .ok r := by
  have haccepts : ∃ r', parseItems policy items' = .ok r' := by
    have hitems := parseItems_accepts_iff.mp ⟨r, hr⟩
    rw [parseItems_accepts_iff]
    simpa only [h.mem_iff, h.length_eq] using hitems
  obtain ⟨⟨records', duplicates'⟩, hr'⟩ := haccepts
  obtain ⟨records, duplicates⟩ := r
  obtain ⟨hascending, hcount, hmem⟩ := parseItems_records hr
  obtain ⟨hascending', hcount', hmem'⟩ := parseItems_records hr'
  have hrecords : records' = records := by
    refine eq_of_ascending hascending' hascending fun s => ?_
    rw [hmem, hmem']
    simp only [h.mem_iff]
  have hduplicates : duplicates' = duplicates := by
    have hlength := h.length_eq
    rw [hrecords] at hcount'
    omega
  rw [hr', hrecords, hduplicates]

end Items

end Reading

end EvaluationLab.CSLive
