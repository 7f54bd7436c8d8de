import EvaluationLab.Python.UrlSplit
import EvaluationLab.Structure.Ranking
import EvaluationLab.Python.SortedSet
import EvaluationLab.SearchCup.Seal
import EvaluationLab.SearchCup.SearchContracts
import Mathlib.Algebra.BigOperators.Group.Finset.Basic
import Mathlib.Data.Multiset.UnionInter

/-! The frozen lexical retriever: character units, the immutable corpus, and the ranking of its documents. -/
namespace EvaluationLab.SearchCup
open Python Effect Structure
open QA0 (Fields)

/-- `unicodedata.category(c)[0] in "LN"`. -/
class PyCategories where
  lettered : ℕ → Bool
  lettered_ascii : ∀ c < 128, lettered c = (isAsciiLetter c || isAsciiDigit c)

section Units

variable [PyNormalization] [PyCategories]

/-- NFKC, case folding, letters and numbers, one separator per other run. -/
def normalize (text : PyStr) : PyStr :=
  [32].intercalate (words ((casefold (PyNormalization.nfkc text)).map fun c => if PyCategories.lettered c then c else 32))

/-- `span[i:i + size] for i in range(len(span) - size + 1)`. -/
def spanUnits (span : PyStr) : List PyStr :=
  let size := if 3 ≤ span.length then 3 else 1
  (List.range (span.length + 1 - size)).map fun i => (span.drop i).take size

/-- The units of a text, in the order the counter meets them. -/
def unitsOf (text : PyStr) : List PyStr := (words (normalize text)).flatMap spanUnits

/-- `tuple(sorted(counts.items()))`. -/
def characterUnits (text : PyStr) : List (PyStr × ℕ) :=
  (sortedSet (unitsOf text)).map fun unit => (unit, (unitsOf text).count unit)

/-- A dictionary of pairs keeps the last of a key. -/
def overlap (left right : List (PyStr × ℕ)) : ℕ :=
  (left.map fun row => min row.2 ((right.reverse.lookup row.1).getD 0)).sum

omit [PyNormalization] [PyCategories] in
theorem lookup_map_self (units : List PyStr) (f : PyStr → ℕ) (unit : PyStr) :
    (units.map fun u => (u, f u)).lookup unit = if unit ∈ units then some (f unit) else none := by
  induction units with
  | nil => rfl
  | cons u units ih =>
    rw [List.map_cons, List.lookup_cons]
    by_cases hu : unit = u
    · subst hu
      rw [beq_self_eq_true, if_pos List.mem_cons_self]
    · rw [beq_eq_false_iff_ne.mpr hu]
      dsimp only
      rw [ih]
      simp [hu]

theorem lookup_characterUnits (text unit : PyStr) :
    ((characterUnits text).reverse.lookup unit).getD 0 = (unitsOf text).count unit := by
  rw [characterUnits, ← List.map_reverse, lookup_map_self]
  simp only [List.mem_reverse, mem_sortedSet]
  split_ifs with h
  · rfl
  · rw [List.count_eq_zero_of_not_mem h]
    rfl

/-- The overlap counts the units two texts have in common, each as often as both have it. -/
theorem overlap_characterUnits (left right : PyStr) : overlap (characterUnits left) (characterUnits right) =
    ((unitsOf left : Multiset PyStr) ∩ (unitsOf right : Multiset PyStr)).card := by
  have hterms : overlap (characterUnits left) (characterUnits right) =
      ((sortedSet (unitsOf left)).map fun u => min ((unitsOf left).count u) ((unitsOf right).count u)).sum := by
    have hunits : characterUnits left = (sortedSet (unitsOf left)).map fun unit => (unit, (unitsOf left).count unit) := rfl
    rw [overlap, hunits, List.map_map]
    refine congrArg List.sum (List.map_congr_left fun u _ => ?_)
    rw [Function.comp_apply, lookup_characterUnits]
  have hcounts : ∀ u, ((unitsOf left : Multiset PyStr) ∩ (unitsOf right : Multiset PyStr)).count u =
      min ((unitsOf left).count u) ((unitsOf right).count u) := by
    intro u
    rw [Multiset.count_inter, Multiset.coe_count, Multiset.coe_count]
    congr <;> exact lawful_beq_subsingleton _ _
  rw [hterms, ← List.sum_toFinset _ (nodup_sortedSet _), ← Multiset.toFinset_sum_count_eq]
  simp only [hcounts]
  symm
  apply Finset.sum_subset
  · intro u hu
    rw [List.mem_toFinset, mem_sortedSet]
    exact Multiset.mem_coe.mp (Multiset.mem_inter.mp (Multiset.mem_toFinset.mp hu)).1
  · intro u _ hu
    rw [← hcounts]
    exact Multiset.count_eq_zero_of_notMem fun hmem => hu (Multiset.mem_toFinset.mpr hmem)

end Units

section Corpus

variable [PyRuntime] [PyNormalization] [PyAddresses]

def documentFields (docId title url text : PyStr) : Json :=
  .obj [("doc_id", .str docId), ("title", .str title), ("url", .str url), ("text", .str text)]

/-- `CorpusDocument.__post_init__`. -/
def checkDocument (docId title url text : PyStr) : Except PyExc Unit := do
  check (strip docId ≠ [] ∧ docId = strip docId ∧ strip title ≠ []) (valueError "MALFORMED_CORPUS_DOCUMENT")
  let parsed ← urlsplit url
  check ((parsed.scheme = py "http" ∨ parsed.scheme = py "https") ∧ parsed.hostname ≠ [] ∧ parsed.username = [] ∧
    parsed.password = [] ∧ ∀ c ∈ url, isSpace c = false) (valueError "MALFORMED_CORPUS_URL")
  assertContentSafe (documentFields docId title url text)

structure CorpusDocument where
  docId : PyStr
  title : PyStr
  url : PyStr
  text : PyStr
  accepted : checkDocument docId title url text = .ok ()

namespace CorpusDocument

def asDict (document : CorpusDocument) : Json :=
  documentFields document.docId document.title document.url document.text

/-- `CorpusDocument(**item)`. -/
def ofFields (docId title url text : Json) : Except PyExc CorpusDocument :=
  match docId, title, url, text with
  | .str docId, .str title, .str url, .str text =>
    match h : checkDocument docId title url text with
    | .ok () => .ok ⟨docId, title, url, text, h⟩
    | .error e => .error e
  | _, _, _, _ => .error (valueError "MALFORMED_CORPUS_DOCUMENT")

/-- What a corpus is built from: documents, and dictionaries that become documents. -/
def ofItem (item : Json) : Except PyExc CorpusDocument :=
  match item with
  | .obj fields => do
    let keys : List PyStr := ["doc_id", "title", "url", "text"]
    check ((∀ k ∈ fields.map Prod.fst, k ∈ keys) ∧ ∀ k ∈ keys, k ∈ fields.map Prod.fst)
      (valueError "MALFORMED_CORPUS_DOCUMENT")
    ofFields (dictGet fields "doc_id") (dictGet fields "title") (dictGet fields "url") (dictGet fields "text")
  | _ => .error (valueError "MALFORMED_CORPUS_DOCUMENT")

end CorpusDocument

/-- An item of the sequence a corpus is built from. -/
inductive CorpusItem where
  | document (document : CorpusDocument)
  | value (value : Json)

def CorpusItem.asJson : CorpusItem → Json
  | .document d => d.asDict
  | .value v => v

def corpusContent (documents : List CorpusDocument) : Json :=
  .obj [("schema_id", .str "search-cup-v23-frozen-corpus/v1"), ("documents", .arr (documents.map CorpusDocument.asDict))]

structure FrozenCorpus where
  documents : List CorpusDocument
  canonicalFingerprint : PyStr
  ascending : documents.Pairwise fun d e => strLt d.docId e.docId = true
  identified : fingerprint (corpusContent documents) = .ok canonicalFingerprint

def FrozenCorpus.canonicalContent (corpus : FrozenCorpus) : PyStr := render (corpusContent corpus.documents)

theorem ascending_of_nodup {ordered : List CorpusDocument}
    (hsorted : ordered.Pairwise fun d e => strLe d.docId e.docId = true) (hids : (ordered.map CorpusDocument.docId).Nodup) :
    ordered.Pairwise fun d e => strLt d.docId e.docId = true := by
  rw [List.Nodup, List.pairwise_map] at hids
  exact (hsorted.and hids).imp fun {d e} h => (strLt_iff _ _).mpr (lt_of_le_of_ne ((strLe_iff _ _).mp h.1) h.2)

/-- The checks on the documents in order. -/
def orderedCorpus (ordered : List CorpusDocument) (hsorted : ordered.Pairwise fun d e => strLe d.docId e.docId = true)
    (expected : Option PyStr) : Except PyExc FrozenCorpus :=
  if hids : (ordered.map CorpusDocument.docId).Nodup then
    match hdigest : fingerprint (corpusContent ordered) with
    | .error e => throw e
    | .ok digest => do
      check (expected = none ∨ expected = some digest) (valueError "CORPUS_FINGERPRINT_MISMATCH")
      return ⟨ordered, digest, ascending_of_nodup hsorted hids, hdigest⟩
  else throw (valueError "DUPLICATE_DOC_ID")

/-- `FrozenCorpus(documents, expected_fingerprint=…)`; `none` is a value that is no sequence. -/
def frozenCorpus (documents : Option (List CorpusItem)) (expected : Option PyStr) : Except PyExc FrozenCorpus := do
  let some items := documents | throw (valueError "CORPUS_DOCUMENT_SEQUENCE_REQUIRED")
  let copied ← items.mapM fun item => CorpusDocument.ofItem item.asJson
  orderedCorpus (copied.insertionSort fun d e => strLe d.docId e.docId = true) (List.pairwise_insertionSort _ _) expected

end Corpus

section Retriever

variable [PyRuntime] [PyNormalization] [PyAddresses] [PyCategories]

def configFingerprint : PyStr := "2f60df7627f611c29f425dfccb94936cf606774fc619e48fe34c650f738ac7ca"

def backendId : PyStr := "search-cup-v23/frozen-lexical-raw-v1"

structure FrozenConfig where
  config : Json
  safe : assertContentSafe config = .ok ()
  pinned : fingerprint config = .ok configFingerprint

structure FrozenLexicalRetriever where
  corpus : FrozenCorpus
  config : FrozenConfig

/-- The text a document is found by. -/
def CorpusDocument.searched (document : CorpusDocument) : PyStr := document.title ++ [10] ++ document.text

def FrozenLexicalRetriever.index (retriever : FrozenLexicalRetriever) : List (CorpusDocument × List (PyStr × ℕ)) :=
  retriever.corpus.documents.map fun d => (d, characterUnits d.searched)

/-- The key `(-score, doc_id)`. -/
def rowLe (a b : ℕ × CorpusDocument) : Prop := b.1 < a.1 ∨ (a.1 = b.1 ∧ strLe a.2.docId b.2.docId = true)

instance : DecidableRel rowLe := fun _ _ => inferInstanceAs (Decidable (_ ∨ _))

def FrozenLexicalRetriever.call (retriever : FrozenLexicalRetriever) (request : SearchRequest) :
    Except PyExc SearchBackendResponse := do
  let queryUnits := characterUnits request.query
  let scored := retriever.index.map fun row => (overlap queryUnits row.2, row.1)
  let ordered := ((scored.filter fun row => 0 < row.1).insertionSort rowLe).take 10
  let results ← ordered.mapM fun row => searchResult row.2.title row.2.url (row.2.text.take 240)
  return ⟨results, backendId, request.requestId, none⟩

end Retriever

section Retrieval

variable [PyRuntime] [PyNormalization] [PyAddresses] [PyCategories]

/-- The number of units a query shares with a document. -/
def shared (query : PyStr) (d : CorpusDocument) : ℕ :=
  ((unitsOf query : Multiset PyStr) ∩ (unitsOf d.searched : Multiset PyStr)).card

/-- More shared units come first, and among equals the smaller id. -/
def Outranks (query : PyStr) (d e : CorpusDocument) : Prop :=
  shared query e < shared query d ∨ (shared query d = shared query e ∧ strLt d.docId e.docId = true)

def CorpusDocument.shown (d : CorpusDocument) : SearchResult := ⟨d.title, d.url, d.text.take 240⟩

/-- The documents of the corpus that share a unit with the query. -/
def FrozenCorpus.touched (corpus : FrozenCorpus) (query : PyStr) : List CorpusDocument :=
  corpus.documents.filter fun d => 0 < shared query d

instance : Std.Total (rowLe) where
  total a b := by
    unfold rowLe
    rcases lt_trichotomy a.1 b.1 with h | h | h
    · exact .inr (.inl h)
    · rcases le_total a.2.docId b.2.docId with hid | hid
      · exact .inl (.inr ⟨h, (strLe_iff _ _).mpr hid⟩)
      · exact .inr (.inr ⟨h.symm, (strLe_iff _ _).mpr hid⟩)
    · exact .inl (.inl h)

instance : IsTrans (ℕ × CorpusDocument) rowLe where
  trans a b c := by
    unfold rowLe
    rintro (hab | ⟨hab, hid⟩) (hbc | ⟨hbc, hid'⟩)
    · exact .inl (hbc.trans hab)
    · exact .inl (hbc ▸ hab)
    · exact .inl (hab ▸ hbc)
    · rw [strLe_iff] at hid hid'
      exact .inr ⟨hab.trans hbc, (strLe_iff _ _).mpr (hid.trans hid')⟩

omit [PyCategories] in
theorem FrozenCorpus.nodup_ids (corpus : FrozenCorpus) : (corpus.documents.map CorpusDocument.docId).Nodup := by
  rw [List.Nodup, List.pairwise_map]
  exact corpus.ascending.imp fun hlt => ne_of_strLt hlt

omit [PyCategories] in
/-- Documents of a corpus with the same id are the same. -/
theorem FrozenCorpus.eq_of_docId (corpus : FrozenCorpus) {d e : CorpusDocument} (hd : d ∈ corpus.documents)
    (he : e ∈ corpus.documents) (h : d.docId = e.docId) : d = e :=
  List.inj_on_of_nodup_map corpus.nodup_ids hd he h

theorem FrozenCorpus.nodup_touched (corpus : FrozenCorpus) (query : PyStr) : (corpus.touched query).Nodup :=
  corpus.nodup_ids.of_map.filter _

theorem FrozenCorpus.docId_ne (corpus : FrozenCorpus) {query : PyStr} {d e : CorpusDocument} (hd : d ∈ corpus.touched query)
    (he : e ∈ corpus.touched query) (hne : d ≠ e) : d.docId ≠ e.docId :=
  fun h => hne (corpus.eq_of_docId (List.mem_filter.mp hd).1 (List.mem_filter.mp he).1 h)

omit [PyCategories] in
/-- A document of a corpus can be shown: its title and its address are not blank. -/
theorem searchResult_shown (d : CorpusDocument) : searchResult d.title d.url (d.text.take 240) = .ok d.shown := by
  have haccepted := d.accepted
  unfold checkDocument at haccepted
  simp only [bind_eq_ok_iff, exists_unit_iff, check_eq_ok_iff] at haccepted
  obtain ⟨⟨-, -, htitle⟩, parsed, hparsed, ⟨hscheme, -, -, -, hsolid⟩, -⟩ := haccepted
  have hurl : strip d.url = d.url := by
    rw [strip_eq_self_iff]
    constructor
    · intro c hc
      exact hsolid c (List.mem_of_mem_head? hc)
    · intro c hc
      exact hsolid c (List.mem_of_mem_getLast? hc)
  have hne : d.url ≠ [] := by
    intro hnil
    rw [hnil, urlsplit_nil] at hparsed
    cases hparsed
    exact absurd hscheme (by decide +kernel)
  unfold searchResult requireText
  simp only [bind_eq_ok_iff, exists_unit_iff, check_eq_ok_iff, pure_eq_ok_iff]
  exact ⟨htitle, by rwa [hurl], rfl⟩

/-- The order of the rows of two documents. -/
def RowLe (query : PyStr) (d e : CorpusDocument) : Prop := rowLe (shared query d, d) (shared query e, e)

instance (query : PyStr) : DecidableRel (RowLe query) := fun _ _ => inferInstanceAs (Decidable (rowLe _ _))

instance (query : PyStr) : Std.Total (RowLe query) where
  total d e := Std.Total.total (r := rowLe) (shared query d, d) (shared query e, e)

instance (query : PyStr) : IsTrans CorpusDocument (RowLe query) where
  trans d e f := IsTrans.trans (r := rowLe) (shared query d, d) (shared query e, e) (shared query f, f)

theorem rowLe_of_outranks {query : PyStr} {d e : CorpusDocument} (h : Outranks query d e) : RowLe query d e :=
  h.imp_right fun heq => ⟨heq.1, strLe_of_strLt heq.2⟩

theorem outranks_of_rowLe {query : PyStr} {d e : CorpusDocument} (h : RowLe query d e) (hne : d.docId ≠ e.docId) :
    Outranks query d e :=
  h.imp_right fun heq => ⟨heq.1, (strLt_iff _ _).mpr (lt_of_le_of_ne ((strLe_iff _ _).mp heq.2) hne)⟩

/-- The first ten of the documents that are touched. -/
def FrozenLexicalRetriever.foremost (retriever : FrozenLexicalRetriever) (query : PyStr) : List CorpusDocument :=
  ((retriever.corpus.touched query).insertionSort (RowLe query)).take 10

/-- What the retriever returns, by documents. -/
theorem call_eq (retriever : FrozenLexicalRetriever) (request : SearchRequest) : retriever.call request =
    .ok ⟨(retriever.foremost request.query).map CorpusDocument.shown, backendId, request.requestId, none⟩ := by
  have hscored : (retriever.index.map fun row => (overlap (characterUnits request.query) row.2, row.1)) =
      retriever.corpus.documents.map fun d => (shared request.query d, d) := by
    rw [FrozenLexicalRetriever.index, List.map_map]
    refine List.map_congr_left fun d _ => ?_
    rw [Function.comp_apply, overlap_characterUnits]
    rfl
  have hsorted : ((retriever.corpus.touched request.query).map fun d => (shared request.query d, d)).insertionSort rowLe =
      ((retriever.corpus.touched request.query).insertionSort (RowLe request.query)).map fun d => (shared request.query d, d) :=
    (List.map_insertionSort (RowLe request.query) rowLe (fun d => (shared request.query d, d)) _ fun d _ e _ => Iff.rfl).symm
  have hranked : ((((retriever.index.map fun row => (overlap (characterUnits request.query) row.2, row.1)).filter
      fun row => 0 < row.1).insertionSort rowLe).take 10) =
      (retriever.foremost request.query).map fun d => (shared request.query d, d) := by
    rw [hscored, List.filter_map, FrozenLexicalRetriever.foremost, List.map_take, ← hsorted]
    rfl
  have hshown : ((retriever.foremost request.query).map fun d => (shared request.query d, d)).mapM
      (fun row => searchResult row.2.title row.2.url (row.2.text.take 240)) =
      .ok ((retriever.foremost request.query).map CorpusDocument.shown) := by
    rw [mapM_eq_ok_iff, List.forall₂_map_left_iff, List.forall₂_map_right_iff, List.forall₂_same]
    exact fun d _ => searchResult_shown d
  unfold FrozenLexicalRetriever.call
  dsimp only
  rw [hranked, hshown]
  rfl

theorem foremost_spec (retriever : FrozenLexicalRetriever) (query : PyStr) : Foremost (Outranks query) 10
    (retriever.corpus.touched query) (retriever.foremost query)
    (((retriever.corpus.touched query).insertionSort (RowLe query)).drop 10) :=
  (foremost_sort 10 _).mono (retriever.corpus.nodup_touched query)
    fun _ hd _ he hne h => outranks_of_rowLe h (retriever.corpus.docId_ne hd he hne)

theorem not_outranks_both {query : PyStr} {d e : CorpusDocument} (h : Outranks query d e) : ¬Outranks query e d := by
  rintro (h' | ⟨h', hlt'⟩)
  · rcases h with h | ⟨h, -⟩ <;> omega
  · rcases h with h | ⟨-, hlt⟩
    · omega
    · rw [strLt_iff] at hlt hlt'
      exact lt_asymm hlt hlt'

/-- Any split of the touched documents into the first ten and the others is the one the retriever makes. -/
theorem foremost_eq (retriever : FrozenLexicalRetriever) (query : PyStr) {best rest : List CorpusDocument}
    (h : Foremost (Outranks query) 10 (retriever.corpus.touched query) best rest) : best = retriever.foremost query := by
  have hnodup := retriever.corpus.nodup_touched query
  refine (h.mono hnodup fun _ _ _ _ _ => rowLe_of_outranks).eq_sort fun d hd e he hde hed => ?_
  by_contra hne
  have hids := retriever.corpus.docId_ne hd he hne
  exact not_outranks_both (outranks_of_rowLe hde hids) (outranks_of_rowLe hed hids.symm)

omit [PyCategories] in
theorem nodup_of_orderedCorpus {ordered : List CorpusDocument} {expected : Option PyStr} {corpus : FrozenCorpus}
    {hsorted : ordered.Pairwise fun d e => strLe d.docId e.docId = true}
    (h : orderedCorpus ordered hsorted expected = .ok corpus) : (ordered.map CorpusDocument.docId).Nodup := by
  unfold orderedCorpus at h
  split_ifs at h with hids
  exact hids

omit [PyCategories] in
/-- The order the documents come in does not show in the corpus. -/
theorem frozenCorpus_of_perm {items items' : List CorpusItem} {expected : Option PyStr} {corpus : FrozenCorpus}
    (h : items.Perm items') (hcorpus : frozenCorpus (some items) expected = .ok corpus) :
    frozenCorpus (some items') expected = .ok corpus := by
  unfold frozenCorpus at hcorpus ⊢
  obtain ⟨copied, hcopied, hrest⟩ := bind_eq_ok_iff.mp hcorpus
  obtain ⟨copied', hcopied', hperm⟩ := List.perm_comp_forall₂ h.symm (mapM_eq_ok_iff.mp hcopied)
  refine bind_eq_ok_iff.mpr ⟨copied', mapM_eq_ok_iff.mpr hcopied', ?_⟩
  have hids : (copied.map CorpusDocument.docId).Nodup :=
    ((List.perm_insertionSort _ _).map _).nodup_iff.mp (nodup_of_orderedCorpus hrest)
  simp only [insertionSort_eq_of_perm CorpusDocument.docId hperm.symm hids] at hrest
  exact hrest

end Retrieval

end EvaluationLab.SearchCup
