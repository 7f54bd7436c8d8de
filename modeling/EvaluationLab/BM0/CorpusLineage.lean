import EvaluationLab.BM0.FrozenBenchmark
import EvaluationLab.Python.Dict
import EvaluationLab.Python.Order
import EvaluationLab.Python.Utf8
import EvaluationLab.QA0.Fingerprint
import EvaluationLab.Structure.Sorting
import EvaluationLab.Structure.Walk
import Mathlib.Data.Prod.Lex

/-! The corpus of a plan: what its attempts bind, what its commitment stands for, and where its mutations
come from. -/
namespace EvaluationLab.BM0
open Python Effect QA0 Structure

section Bound

variable {κ β : Type} [DecidableEq κ] [DecidableEq β]

/-- Only the new binding is added. -/
theorem bindOnce_mem {bindings bindings' : List (κ × β)} {key : κ} {value : β} {e : PyExc}
    (h : bindOnce bindings key value e = .ok bindings') : ∀ row ∈ bindings', row ∈ bindings ∨ row = (key, value) := by
  unfold bindOnce at h
  cases hb : bindings.lookup key with
  | some bound =>
    simp only [hb] at h
    split_ifs at h
    cases h
    exact fun row hrow => .inl hrow
  | none =>
    simp only [hb] at h
    cases h
    intro row hrow
    rcases List.mem_append.mp hrow with hrow | hrow
    · exact .inl hrow
    · exact .inr (List.mem_singleton.mp hrow)

theorem bindOnce_nodup {bindings bindings' : List (κ × β)} {key : κ} {value : β} {e : PyExc}
    (h : bindOnce bindings key value e = .ok bindings') (hkeys : (bindings.map Prod.fst).Nodup) :
    (bindings'.map Prod.fst).Nodup := by
  unfold bindOnce at h
  cases hb : bindings.lookup key with
  | some bound =>
    simp only [hb] at h
    split_ifs at h
    cases h
    exact hkeys
  | none =>
    simp only [hb] at h
    cases h
    rw [List.lookup_eq_none_iff] at hb
    have hnew : key ∉ bindings.map Prod.fst := by
      intro hmem
      obtain ⟨row, hrow, rfl⟩ := List.mem_map.mp hmem
      simpa using hb row hrow
    rw [List.map_append, List.nodup_append]
    refine ⟨hkeys, List.nodup_singleton _, ?_⟩
    rintro k hk k' hk' rfl
    rw [List.map_singleton, List.mem_singleton] at hk'
    rw [hk'] at hk
    exact hnew hk

omit [DecidableEq β] in
theorem mem_of_boundTo {bindings : List (κ × β)} {key : κ} {value : β} (h : boundTo bindings key = some value) :
    (key, value) ∈ bindings := by
  obtain ⟨l, l', rfl, -⟩ := List.lookup_eq_some_iff.mp h
  simp

end Bound

section Collected

/-- What the bindings hold after a list of attempts. -/
structure CorpusBindings.Collected (b : CorpusBindings) (attempts : List TrialIdentity) : Prop where
  alias_bound : ∀ t ∈ attempts, boundTo b.aliases t.corpusItemAlias = some (t.corpusPoolId, t.corpusItemCommitment)
  commitment_bound : ∀ t ∈ attempts,
    boundTo b.commitments t.corpusItemCommitment = some (t.corpusPoolId, t.corpusItemAlias)
  alias_source : ∀ row ∈ b.aliases, ∃ t ∈ attempts, row = (t.corpusItemAlias, t.corpusPoolId, t.corpusItemCommitment)
  alias_keys : (b.aliases.map Prod.fst).Nodup
  parents : ∀ p, p ∈ b.mutationParents ↔ ∃ t ∈ attempts, t.mutationParentCommitment = some p
  not_own : ∀ t ∈ attempts, t.mutationParentCommitment ≠ some t.corpusItemCommitment

theorem CorpusBindings.Collected.nil : CorpusBindings.Collected {} [] where
  alias_bound := by simp
  commitment_bound := by simp
  alias_source := by simp
  alias_keys := List.nodup_nil
  parents := by simp
  not_own := by simp

variable {b b' : CorpusBindings} {attempts : List TrialIdentity} {t : TrialIdentity}

/-- One more attempt. -/
theorem CorpusBindings.Collected.step (hb : b.Collected attempts) (h : bindCorpusItem b t = .ok b') :
    b'.Collected (attempts ++ [t]) := by
  unfold bindCorpusItem at h
  simp only [bind_eq_ok_iff, exists_unit_iff, check_eq_ok_iff, pure_eq_ok_iff] at h
  obtain ⟨aliases, haliases, commitments, hcommitments, hown, rfl⟩ := h
  have hsplit : ∀ {P : TrialIdentity → Prop}, (∀ u ∈ attempts, P u) → P t → ∀ u ∈ attempts ++ [t], P u := by
    intro P hall ht u hu
    rcases List.mem_append.mp hu with hu | hu
    · exact hall u hu
    · exact List.mem_singleton.mp hu ▸ ht
  constructor
  · exact hsplit (fun u hu => bindOnce_keeps haliases (hb.alias_bound u hu)) (bindOnce_boundTo haliases)
  · exact hsplit (fun u hu => bindOnce_keeps hcommitments (hb.commitment_bound u hu)) (bindOnce_boundTo hcommitments)
  · intro row hrow
    rcases bindOnce_mem haliases row hrow with hrow | rfl
    · obtain ⟨u, hu, heq⟩ := hb.alias_source row hrow
      exact ⟨u, List.mem_append_left _ hu, heq⟩
    · exact ⟨t, by simp, rfl⟩
  · exact bindOnce_nodup haliases hb.alias_keys
  · intro p
    simp only [List.mem_append, hb.parents p, Option.mem_toList, List.mem_singleton, or_and_right, exists_or,
      exists_eq_left]
  · exact hsplit hb.not_own hown

/-- What the pass over all attempts collects. -/
theorem CorpusBindings.collected (h : attempts.foldlM bindCorpusItem {} = .ok b) : b.Collected attempts := by
  have hrun : ∀ (rest done : List TrialIdentity) (b : CorpusBindings), b.Collected done →
      ∀ b', rest.foldlM bindCorpusItem b = .ok b' → b'.Collected (done ++ rest) := by
    intro rest
    induction rest with
    | nil =>
      intro done b hb b' h
      rw [List.foldlM_nil, pure_eq_ok_iff] at h
      subst h
      rwa [List.append_nil]
    | cons t rest ih =>
      intro done b hb b' h
      rw [List.foldlM_cons, bind_eq_ok_iff] at h
      obtain ⟨b₁, hstep, h⟩ := h
      have hrest := ih (done ++ [t]) b₁ (hb.step hstep) b' h
      rwa [List.append_assoc, List.singleton_append] at hrest
  exact hrun attempts [] {} .nil b h

end Collected

section Hidden

/-- The aliases and commitments of the attempts on the private holdout. -/
def hiddenPairs (attempts : List TrialIdentity) : List (PyStr × PyStr) :=
  (attempts.filter fun t => t.corpusPoolId = .privateHiddenHoldout).map fun t => (t.corpusItemAlias, t.corpusItemCommitment)

/-- The set of them in order. -/
def hiddenCorpus (attempts : List TrialIdentity) : List (PyStr × PyStr) :=
  (hiddenPairs attempts).dedup.insertionSort fun x y => pairLe x y = true

theorem mem_hiddenPairs {attempts : List TrialIdentity} {item : PyStr × PyStr} : item ∈ hiddenPairs attempts ↔
    ∃ t ∈ attempts, t.corpusPoolId = .privateHiddenHoldout ∧ (t.corpusItemAlias, t.corpusItemCommitment) = item := by
  simp only [hiddenPairs, List.mem_map, List.mem_filter, decide_eq_true_eq, and_assoc]

theorem pairLe_iff (a b : PyStr × PyStr) : pairLe a b = true ↔ toLex a ≤ toLex b := by
  rw [pairLe, Prod.Lex.toLex_le_toLex]
  split_ifs with h
  · rw [strLe_iff]
    simp [h]
  · rw [strLe_iff, le_iff_lt_or_eq]
    simp [h]

instance : Std.Total fun a b => pairLe a b = true where
  total a b := by
    rw [pairLe_iff, pairLe_iff]
    exact le_total _ _

instance : IsTrans (PyStr × PyStr) fun a b => pairLe a b = true where
  trans a b c hab hbc := by
    rw [pairLe_iff] at hab hbc ⊢
    exact le_trans hab hbc

instance : Std.Antisymm fun a b => pairLe a b = true where
  antisymm a b hab hba := by
    rw [pairLe_iff] at hab hba
    exact toLex_inj.mp (le_antisymm hab hba)

theorem mem_hiddenCorpus {attempts : List TrialIdentity} {item : PyStr × PyStr} :
    item ∈ hiddenCorpus attempts ↔ item ∈ hiddenPairs attempts := by
  rw [hiddenCorpus, List.mem_insertionSort, List.mem_dedup]

variable {b : CorpusBindings} {attempts : List TrialIdentity}

/-- The hidden items of the bindings are those of the attempts. -/
theorem CorpusBindings.Collected.hiddenItems (hb : b.Collected attempts) : b.hiddenItems = hiddenCorpus attempts := by
  set items := b.aliases.filterMap fun row => if row.2.1 = .privateHiddenHoldout then some (row.1, row.2.2) else none with hitems
  have hmem : ∀ item, item ∈ items ↔ item ∈ hiddenPairs attempts := by
    intro item
    rw [mem_hiddenPairs, hitems, List.mem_filterMap]
    constructor
    · rintro ⟨row, hrow, hpool⟩
      obtain ⟨t, ht, rfl⟩ := hb.alias_source row hrow
      dsimp only at hpool
      split_ifs at hpool with hhidden
      exact ⟨t, ht, hhidden, Option.some.inj hpool⟩
    · rintro ⟨t, ht, hhidden, rfl⟩
      exact ⟨_, mem_of_boundTo (hb.alias_bound t ht), by simp [hhidden]⟩
  have hnodup : items.Nodup := by
    have hkeys := hb.alias_keys
    rw [List.Nodup, List.pairwise_map] at hkeys
    rw [hitems, List.Nodup, List.pairwise_filterMap]
    refine hkeys.imp fun {row row'} hne x hx y hy => ?_
    split_ifs at hx hy
    rintro rfl
    rw [Option.some.injEq] at hx hy
    exact hne ((congrArg Prod.fst hx).trans (congrArg Prod.fst hy).symm)
  rw [CorpusBindings.hiddenItems, ← hitems]
  exact sort_eq_of_mem_iff _ hnodup (List.nodup_dedup _) fun item => (hmem item).trans List.mem_dedup.symm

end Hidden

section Commitment

variable [PyRuntime] {attempts attempts' : List TrialIdentity} {commitment commitment' : PyStr}

/-- What an accepted list of attempts was accepted for. -/
structure CorpusAccepted (attempts : List TrialIdentity) (commitment : PyStr) : Prop where
  valid : ∀ t ∈ attempts, validateTrialIdentity t = .ok ()
  collected : ∃ b : CorpusBindings, b.Collected attempts
  apart : ∀ t ∈ attempts, ∀ p, t.mutationParentCommitment = some p → ∀ item ∈ hiddenPairs attempts, p ≠ item.2
  committed : sha256Json (corpusDocument (hiddenCorpus attempts)) = .ok commitment

theorem corpusAggregateCommitment_accepted (h : corpusAggregateCommitment attempts = .ok commitment) :
    CorpusAccepted attempts commitment := by
  unfold corpusAggregateCommitment at h
  simp only [bind_eq_ok_iff, exists_unit_iff, check_eq_ok_iff, forM_eq_ok_iff] at h
  obtain ⟨hvalid, b, hfold, hparents, hcommitted⟩ := h
  have hb := CorpusBindings.collected hfold
  rw [hb.hiddenItems] at hparents hcommitted
  refine ⟨hvalid, ⟨b, hb⟩, fun t ht p hp item hitem heq => ?_, hcommitted⟩
  exact hparents p ((hb.parents p).mpr ⟨t, ht, hp⟩) (List.mem_map.mpr ⟨item, mem_hiddenCorpus.mpr hitem, heq.symm⟩)

theorem legible_corpusDocument (items : List (PyStr × PyStr)) : Legible (corpusDocument items) := by
  have hkeys : ([py "commitment_scheme", py "corpus_pool_id", py "item_count", py "items"] : List PyStr).Nodup ∧
      ([py "corpus_item_alias", py "corpus_item_commitment"] : List PyStr).Nodup := by decide +kernel
  have hitems : ItemsLegible (items.map fun item => Json.obj [
      ("corpus_item_alias", .str item.1), ("corpus_item_commitment", .str item.2)]) := by
    induction items with
    | nil => trivial
    | cons item items ih => exact ⟨⟨hkeys.2, trivial, trivial, trivial⟩, ih⟩
  exact ⟨hkeys.1, trivial, trivial, trivial, hitems, trivial⟩

theorem sha256Json_accepted {document : Json} {d : PyStr} (h : sha256Json document = .ok d) :
    intsPrintable document = true ∧ encodable (render document) = true := by
  unfold sha256Json canonicalJson encode at h
  simp only [bind_eq_ok_iff] at h
  obtain ⟨text, htext, bytes, hbytes, -⟩ := h
  split_ifs at htext with hprint
  cases htext
  split_ifs at hbytes with hencode
  exact ⟨hprint, hencode⟩

/-- One item of the committed document. -/
def corpusItem (item : PyStr × PyStr) : Json :=
  .obj [("corpus_item_alias", .str item.1), ("corpus_item_commitment", .str item.2)]

omit [PyRuntime] in
theorem corpusItem_injective {item item' : PyStr × PyStr} (h : SameJson (corpusItem item) (corpusItem item')) :
    item = item' := by
  have hkeys : ([py "corpus_item_alias", py "corpus_item_commitment"] : List PyStr).Nodup := by decide +kernel
  unfold corpusItem at h
  have hvalue := fun k => (sameJson_obj_iff (by exact hkeys) (by exact hkeys)).mp h k
  have halias : some (Json.str item.1) = some (Json.str item'.1) := hvalue "corpus_item_alias"
  have hcommitment : some (Json.str item.2) = some (Json.str item'.2) := hvalue "corpus_item_commitment"
  exact Prod.ext (Json.str.inj (Option.some.inj halias)) (Json.str.inj (Option.some.inj hcommitment))

omit [PyRuntime] in
theorem corpusItems_injective {items items' : List (PyStr × PyStr)}
    (h : sortItems (items.map corpusItem) = sortItems (items'.map corpusItem)) : items = items' := by
  induction items generalizing items' with
  | nil =>
    cases items' with
    | nil => rfl
    | cons item' items' => cases h
  | cons item items ih =>
    cases items' with
    | nil => cases h
    | cons item' items' =>
      rw [List.map_cons, List.map_cons, sortItems, sortItems, List.cons.injEq] at h
      rw [corpusItem_injective h.1, ih h.2]

/-- Different items make different texts. -/
theorem corpusDocument_injective {items items' : List (PyStr × PyStr)}
    (hprint : intsPrintable (corpusDocument items) = true) (hprint' : intsPrintable (corpusDocument items') = true)
    (h : render (corpusDocument items) = render (corpusDocument items')) : items = items' := by
  have hlegible := legible_corpusDocument items
  have hlegible' := legible_corpusDocument items'
  have hsame := sortKeys_eq_of_render_eq hlegible hlegible' hprint hprint' h
  unfold corpusDocument at hlegible hlegible' hsame
  have hlist : some (sortKeys (.arr (items.map corpusItem))) = some (sortKeys (.arr (items'.map corpusItem))) :=
    (sameJson_obj_iff hlegible.1 hlegible'.1).mp hsame "items"
  rw [Option.some.injEq, sortKeys, sortKeys, Json.arr.injEq] at hlist
  exact corpusItems_injective hlist

/-- In an accepted list alias, commitment and pool of an item determine each other, no mutation comes from the
private holdout, and the commitment stands for the set of hidden items, as long as the digest tells the texts of
two such sets apart. -/
theorem corpusAggregateCommitment_binds (h : corpusAggregateCommitment attempts = .ok commitment) :
    (∀ t ∈ attempts, ∀ u ∈ attempts, (t.corpusItemAlias = u.corpusItemAlias ↔ t.corpusItemCommitment = u.corpusItemCommitment) ∧
      (t.corpusItemAlias = u.corpusItemAlias → t.corpusPoolId = u.corpusPoolId)) ∧
    (∀ t ∈ attempts, ∀ u ∈ attempts, u.corpusPoolId = .privateHiddenHoldout →
      t.mutationParentCommitment ≠ some u.corpusItemCommitment) ∧
    ∀ attempts' commitment', corpusAggregateCommitment attempts' = .ok commitment' →
      (PyRuntime.sha256 (utf8 (render (corpusDocument (hiddenCorpus attempts)))) =
          PyRuntime.sha256 (utf8 (render (corpusDocument (hiddenCorpus attempts')))) →
        utf8 (render (corpusDocument (hiddenCorpus attempts))) = utf8 (render (corpusDocument (hiddenCorpus attempts')))) →
      (commitment = commitment' ↔ ∀ item, item ∈ hiddenPairs attempts ↔ item ∈ hiddenPairs attempts') := by
  have haccepted := corpusAggregateCommitment_accepted h
  obtain ⟨b, hb⟩ := haccepted.collected
  refine ⟨fun t ht u hu => ?_, fun t ht u hu hhidden hparent => ?_, fun attempts' commitment' h' hapart => ?_⟩
  · have halias := hb.alias_bound t ht
    have hcommitment := hb.commitment_bound t ht
    have hbound : t.corpusItemAlias = u.corpusItemAlias →
        t.corpusPoolId = u.corpusPoolId ∧ t.corpusItemCommitment = u.corpusItemCommitment := by
      intro heq
      rw [heq, hb.alias_bound u hu, Option.some.injEq, Prod.mk.injEq] at halias
      exact ⟨halias.1.symm, halias.2.symm⟩
    refine ⟨⟨fun heq => (hbound heq).2, fun heq => ?_⟩, fun heq => (hbound heq).1⟩
    rw [heq, hb.commitment_bound u hu, Option.some.injEq, Prod.mk.injEq] at hcommitment
    exact hcommitment.2.symm
  · exact haccepted.apart t ht _ hparent _ (mem_hiddenPairs.mpr ⟨u, hu, hhidden, rfl⟩) rfl
  · have haccepted' := corpusAggregateCommitment_accepted h'
    have hdigest := sha256Json_eq haccepted.committed
    have hdigest' := sha256Json_eq haccepted'.committed
    obtain ⟨hprint, hencode⟩ := sha256Json_accepted haccepted.committed
    obtain ⟨hprint', hencode'⟩ := sha256Json_accepted haccepted'.committed
    constructor
    · intro heq item
      have hhash : digestText (utf8 (render (corpusDocument (hiddenCorpus attempts)))) =
          digestText (utf8 (render (corpusDocument (hiddenCorpus attempts')))) := by
        rw [hdigest, hdigest'] at heq
        exact heq
      have htext := utf8_injective hencode hencode' (hapart (hexDigest_injective (List.append_cancel_left hhash)))
      have hitems := corpusDocument_injective hprint hprint' htext
      rw [← mem_hiddenCorpus, hitems, mem_hiddenCorpus]
    · intro hsame
      have hitems : hiddenCorpus attempts = hiddenCorpus attempts' :=
        sort_eq_of_mem_iff _ (List.nodup_dedup _) (List.nodup_dedup _) fun item => by
          rw [List.mem_dedup, List.mem_dedup, hsame item]
      rw [hdigest, hdigest', hitems]

end Commitment

section Lineage

variable {attempts : List TrialIdentity} {commitment : PyStr}

/-- An attempt on an item names another item as the parent it was mutated from. -/
def NamesParent (attempts : List TrialIdentity) (item parent : PyStr) : Prop :=
  ∃ t ∈ attempts, t.corpusItemCommitment = item ∧ t.mutationParentCommitment = some parent

/-- The parent that the first attempt on an item names. -/
def lineageParent (attempts : List TrialIdentity) (item : PyStr) : Option PyStr :=
  (attempts.find? fun t => t.corpusItemCommitment = item).bind fun t => t.mutationParentCommitment

/-- Every item has at most one parent and is not reached from its parents. -/
structure LineageAcyclic (attempts : List TrialIdentity) : Prop where
  oneParent : ∀ item p q, NamesParent attempts item p → NamesParent attempts item q → p = q
  noReturn : ∀ item, ¬Relation.TransGen (NamesParent attempts) item item

/-- Attempts on one item name one parent, and no line of parents is longer than the list. -/
def LineageSettles (attempts : List TrialIdentity) : Prop :=
  (∀ t ∈ attempts, ∀ u ∈ attempts, t.corpusItemCommitment = u.corpusItemCommitment →
    t.mutationParentCommitment = u.mutationParentCommitment) ∧
  ∀ t ∈ attempts, walk (lineageParent attempts) (attempts.length + 1) t.corpusItemCommitment = none

instance (attempts : List TrialIdentity) : Decidable (LineageSettles attempts) := inferInstanceAs (Decidable (_ ∧ _))

theorem lineageParent_mem {item parent : PyStr} (h : lineageParent attempts item = some parent) :
    (item ∈ attempts.map fun t => t.corpusItemCommitment) ∧ NamesParent attempts item parent := by
  obtain ⟨t, hfind, hparent⟩ := Option.bind_eq_some_iff.mp h
  have ht := List.mem_of_find?_eq_some hfind
  have hfound := List.find?_some hfind
  have hitem : t.corpusItemCommitment = item := of_decide_eq_true hfound
  exact ⟨List.mem_map.mpr ⟨t, ht, hitem⟩, t, ht, hitem, hparent⟩

/-- When attempts on one item name one parent, the first of them speaks for all. -/
theorem follows_lineageParent (hone : ∀ t ∈ attempts, ∀ u ∈ attempts, t.corpusItemCommitment = u.corpusItemCommitment →
    t.mutationParentCommitment = u.mutationParentCommitment) : Follows (lineageParent attempts) = NamesParent attempts := by
  funext item parent
  apply propext
  constructor
  · intro h
    exact (lineageParent_mem h).2
  · rintro ⟨t, ht, rfl, hparent⟩
    cases hfind : attempts.find? fun u => u.corpusItemCommitment = t.corpusItemCommitment with
    | none =>
      have hnone := List.find?_eq_none.mp hfind t ht
      simp at hnone
    | some u =>
      have hfound := List.find?_some hfind
      have hitem : u.corpusItemCommitment = t.corpusItemCommitment := of_decide_eq_true hfound
      rw [Follows, lineageParent, hfind, Option.bind_some, hone u (List.mem_of_find?_eq_some hfind) t ht hitem, hparent]

/-- Only an item of the mutation pool has a parent. -/
theorem mutationParent_isSome_iff [PyRuntime] {t : TrialIdentity} (h : validateTrialIdentity t = .ok ()) :
    t.mutationParentCommitment.isSome = true ↔ t.corpusPoolId = .mechanismPreservingMutation := by
  unfold validateTrialIdentity at h
  simp only [bind_eq_ok_iff, exists_unit_iff] at h
  have hcorpus := h.2.2.2.2.2.1
  unfold checkCorpusItem at hcorpus
  cases hpool : t.corpusPoolId <;> cases hparent : t.mutationParentCommitment <;>
    simp only [hpool, hparent, Option.isSome_none, Option.isSome_some] at hcorpus ⊢
  all_goals first
    | cases hcorpus
    | simp

end Lineage

section Sample

open Python.Ascii

/-- A list whose bindings are found by evaluation. -/
theorem corpusAggregateCommitment_of_returns {attempts : List TrialIdentity} {items : List (PyStr × PyStr)}
    (hvalid : ∀ t ∈ attempts, validateTrialIdentity t = .ok ())
    (hfold : returns (attempts.foldlM bindCorpusItem {}) (fun b => b.hiddenItems = items ∧
      ∀ p ∈ b.mutationParents, p ∉ items.map Prod.snd) = true)
    (hclean : (texts (corpusDocument items)).all asciiClean = true) (hprint : intsPrintable (corpusDocument items) = true) :
    corpusAggregateCommitment attempts = .ok (digestOf (corpusDocument items)) := by
  obtain ⟨b, hb, hitems⟩ := exists_of_returns hfold
  obtain ⟨rfl, hparents⟩ := of_decide_eq_true hitems
  unfold corpusAggregateCommitment
  simp only [bind_eq_ok_iff, exists_unit_iff, check_eq_ok_iff, forM_eq_ok_iff]
  exact ⟨hvalid, b, hb, hparents, sha256Json_digestOf (publishable_of_asciiClean hclean) hprint⟩

example : hiddenCorpus [] = [] := by decide +kernel

theorem swappedCorpus :
    corpusAggregateCommitment [secondRoot, firstRoot] = .ok (digestOf (corpusDocument benchmarkHiddenItems)) := by
  refine corpusAggregateCommitment_of_returns (fun t ht => benchmarkPlan_valid t ?_) (by decide +kernel) (by decide +kernel)
    (by decide +kernel)
  rcases List.mem_pair.mp ht with rfl | rfl <;> simp [benchmarkPlan]

theorem corpusAggregateCommitment_binds_sample :
    (∀ t ∈ benchmarkPlan, ∀ u ∈ benchmarkPlan,
      t.corpusItemAlias = u.corpusItemAlias ↔ t.corpusItemCommitment = u.corpusItemCommitment) ∧
    ∀ item, item ∈ hiddenPairs benchmarkPlan ↔ item ∈ hiddenPairs [secondRoot, firstRoot] := by
  obtain ⟨hdetermine, -, hcommits⟩ := corpusAggregateCommitment_binds benchmarkCorpus
  have hcorpus : hiddenCorpus benchmarkPlan = hiddenCorpus [secondRoot, firstRoot] := by decide +kernel
  exact ⟨fun t ht u hu => (hdetermine t ht u hu).1,
    (hcommits _ _ swappedCorpus fun _ => by rw [hcorpus]).mp rfl⟩

/-- A mutation of an item. -/
def mutationAttempt (name commitment parent : PyStr) : TrialIdentity :=
  { benchmarkAttempt ⟨name, name, commitment, .mechanismPreservingMutation⟩ name name none with
    mutationParentCommitment := some parent }

/-- A mutation of the control and a mutation of that. -/
def mutationLine : List TrialIdentity := [
  mutationAttempt "mutation-2" secondHiddenCase.corpusItemCommitment firstHiddenCase.corpusItemCommitment,
  mutationAttempt "mutation-1" firstHiddenCase.corpusItemCommitment controlCase.corpusItemCommitment]

example : mutationLine.length = 2 := by decide +kernel

theorem mutationLine_accepted : corpusAggregateCommitment mutationLine = .ok (digestOf (corpusDocument [])) := by
  have hvalid : mutationLine.all (fun t => decide (validateTrialIdentity t = .ok ())) = true := by decide +kernel
  exact corpusAggregateCommitment_of_returns (fun t ht => of_decide_eq_true (List.all_eq_true.mp hvalid t ht))
    (by decide +kernel) (by decide +kernel) (by decide +kernel)

/-- Two mutations of each other. -/
def mutationCircle : List TrialIdentity := [
  mutationAttempt "mutation-2" secondHiddenCase.corpusItemCommitment firstHiddenCase.corpusItemCommitment,
  mutationAttempt "mutation-1" firstHiddenCase.corpusItemCommitment secondHiddenCase.corpusItemCommitment]

end Sample

end EvaluationLab.BM0
