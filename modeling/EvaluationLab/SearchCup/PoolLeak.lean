import EvaluationLab.SearchCup.PoolRoundTrip

/-! What a published pool shows of its sources: only names that JSON cannot write as they are. -/
namespace EvaluationLab.SearchCup
open Python Effect
open QA0 (Fields)

section Pieces

variable {α β : Type} {bad : β → Prop} {f g : α → List β} {s : List β}

/-- A list without bad members that starts the first concatenation also starts the second, when they differ in
pieces that are one bad member. -/
theorem prefix_flatMap_of_pieces (hpieces : ∀ a, f a = g a ∨ ∃ b, f a = [b] ∧ bad b) {xs : List α} (hs : ∀ b ∈ s, ¬ bad b)
    (h : s <+: xs.flatMap f) : s <+: xs.flatMap g := by
  induction xs generalizing s with
  | nil => exact h
  | cons x xs ih =>
    rw [List.flatMap_cons] at h ⊢
    obtain ⟨t, ht⟩ := h
    rcases hpieces x with heq | ⟨b, hb, hbad⟩
    · rw [← heq]
      rcases List.append_eq_append_iff.mp ht with ⟨rest, hrest, -⟩ | ⟨rest, rfl, hrest⟩
      · rw [hrest, List.append_assoc]
        exact List.prefix_append _ _
      · rw [List.prefix_append_right_inj]
        exact ih (fun b hb => hs b (List.mem_append_right _ hb)) ⟨t, hrest.symm⟩
    · cases s with
      | nil => exact List.nil_prefix
      | cons c s =>
        rw [hb, List.cons_append, List.cons_append, List.cons.injEq] at ht
        exact absurd hbad (ht.1 ▸ hs c List.mem_cons_self)

theorem infix_flatMap_of_pieces (hpieces : ∀ a, f a = g a ∨ ∃ b, f a = [b] ∧ bad b) {xs : List α} (hs : ∀ b ∈ s, ¬ bad b)
    (h : s <:+: xs.flatMap f) : s <:+: xs.flatMap g := by
  induction xs with
  | nil => exact h
  | cons x xs ih =>
    obtain ⟨p, t, ht⟩ := h
    rw [List.flatMap_cons, List.append_assoc] at ht
    rw [List.flatMap_cons]
    rcases List.append_eq_append_iff.mp ht with ⟨rest, hrest, htail⟩ | ⟨rest, -, htail⟩
    · rcases hpieces x with heq | ⟨b, hb, hbad⟩
      · rw [← heq, hrest]
        rcases List.append_eq_append_iff.mp htail with ⟨last, hlast, -⟩ | ⟨last, rfl, hlast⟩
        · rw [hlast, List.append_assoc, List.append_assoc]
          exact List.infix_append' _ _ _
        · have hstart : last <+: xs.flatMap g :=
            prefix_flatMap_of_pieces hpieces (fun b hb => hs b (List.mem_append_right _ hb)) ⟨t, hlast.symm⟩
          obtain ⟨u, hu⟩ := hstart
          rw [← hu]
          exact ⟨p, u, by simp⟩
      · have hrest' : rest = [] ∨ rest = [b] := by
          rw [hb] at hrest
          rcases List.append_eq_singleton_iff.mp hrest.symm with ⟨-, h⟩ | ⟨-, h⟩
          · exact .inr h
          · exact .inl h
        rcases hrest' with rfl | rfl
        · have hstart : s <+: xs.flatMap g := prefix_flatMap_of_pieces hpieces hs ⟨t, htail⟩
          exact hstart.isInfix.trans (List.infix_append_right)
        · cases s with
          | nil => exact List.nil_infix
          | cons c s =>
            rw [List.cons_append, List.cons_append, List.cons.injEq] at htail
            exact absurd hbad (htail.1 ▸ hs c List.mem_cons_self)
    · exact (ih ⟨rest, t, by rw [htail, List.append_assoc]⟩).trans List.infix_append_right

end Pieces

section Texts

variable [PyRuntime]

omit [PyRuntime] in
theorem mem_itemsTextsIn {items : List Json} {t : PyStr} : t ∈ itemsTextsIn items ↔ ∃ v ∈ items, t ∈ textsIn v := by
  induction items with
  | nil => simp [itemsTextsIn]
  | cons v vs ih => simp [itemsTextsIn, ih]

omit [PyRuntime] in
theorem mem_fieldsTextsIn {fields : Fields} {t : PyStr} : t ∈ fieldsTextsIn fields ↔ ∃ f ∈ fields, t ∈ textsIn f.2 := by
  induction fields with
  | nil => simp [fieldsTextsIn]
  | cons f fs ih =>
    obtain ⟨k, v⟩ := f
    simp [fieldsTextsIn, ih]

omit [PyRuntime] in
theorem infix_commaJoin {ts : List PyStr} {t : PyStr} (h : t ∈ ts) : t <:+: commaJoin ts := by
  induction ts with
  | nil => cases h
  | cons u us ih =>
    rcases List.mem_cons.mp h with rfl | h
    · cases us with
      | nil => exact List.infix_rfl
      | cons v vs => exact List.infix_append_left
    · cases us with
      | nil => cases h
      | cons v vs => exact (ih h).trans ((List.suffix_cons 44 _).isInfix.trans List.infix_append_right)

mutual

/-- Every text of a document is written in its canonical text. -/
theorem infix_renderString : ∀ {v : Json} {t : PyStr}, t ∈ textsIn v → renderString t <:+: render v
  | .null, _, h | .bool _, _, h | .int _, _, h | .float _, _, h => by
    rw [textsIn] at h
    · cases h
    all_goals simp
  | .str s, t, h => by
    rw [textsIn, List.mem_singleton] at h
    rw [h, render]
  | .arr items, t, h => by
    rw [textsIn] at h
    obtain ⟨u, hu, hinfix⟩ := infix_renderItems h
    rw [render]
    exact hinfix.trans ((infix_commaJoin hu).trans ((List.infix_append_left).trans (List.suffix_cons 91 _).isInfix))
  | .obj fields, t, h => by
    rw [textsIn] at h
    obtain ⟨f, hf, hinfix⟩ := infix_renderFields h
    have hmember : renderString f.1 ++ 58 :: f.2 ∈
        (sortByKey (renderFields fields)).map fun m => renderString m.1 ++ 58 :: m.2 := by
      refine List.mem_map.mpr ⟨f, ?_, rfl⟩
      rw [sortByKey, List.mem_insertionSort]
      exact hf
    rw [render]
    exact hinfix.trans (((List.suffix_cons 58 _).isInfix.trans List.infix_append_right).trans
      ((infix_commaJoin hmember).trans (List.infix_append_left.trans (List.suffix_cons 123 _).isInfix)))

theorem infix_renderItems : ∀ {items : List Json} {t : PyStr}, t ∈ itemsTextsIn items →
    ∃ u ∈ renderItems items, renderString t <:+: u
  | [], _, h => by cases h
  | v :: vs, t, h => by
    rw [itemsTextsIn, List.mem_append] at h
    rw [renderItems]
    rcases h with h | h
    · exact ⟨_, List.mem_cons_self, infix_renderString h⟩
    · obtain ⟨u, hu, hinfix⟩ := infix_renderItems h
      exact ⟨u, List.mem_cons_of_mem _ hu, hinfix⟩

theorem infix_renderFields : ∀ {fields : Fields} {t : PyStr}, t ∈ fieldsTextsIn fields →
    ∃ f ∈ renderFields fields, renderString t <:+: f.2
  | [], _, h => by cases h
  | (k, v) :: fs, t, h => by
    rw [fieldsTextsIn, List.mem_append] at h
    rw [renderFields]
    rcases h with h | h
    · exact ⟨_, List.mem_cons_self, infix_renderString h⟩
    · obtain ⟨f, hf, hinfix⟩ := infix_renderFields h
      exact ⟨f, List.mem_cons_of_mem _ hf, hinfix⟩

end

omit [PyRuntime] in
mutual

theorem mem_textsIn_sortKeys : ∀ (v : Json) (t : PyStr), t ∈ textsIn (sortKeys v) ↔ t ∈ textsIn v
  | .null, _ | .bool _, _ | .int _, _ | .float _, _ | .str _, _ => Iff.rfl
  | .arr items, t => by
    rw [sortKeys, textsIn, textsIn]
    exact mem_itemsTextsIn_sortItems items t
  | .obj fields, t => by
    have hfields := mem_fieldsTextsIn_sortFields fields t
    rw [mem_fieldsTextsIn] at hfields
    rw [sortKeys_obj, textsIn, textsIn, mem_fieldsTextsIn, ← hfields]
    simp only [sortedFields, List.mem_insertionSort]

theorem mem_itemsTextsIn_sortItems : ∀ (items : List Json) (t : PyStr), t ∈ itemsTextsIn (sortItems items) ↔ t ∈ itemsTextsIn items
  | [], _ => Iff.rfl
  | v :: vs, t => by
    rw [sortItems, itemsTextsIn, itemsTextsIn, List.mem_append, List.mem_append, mem_textsIn_sortKeys v t,
      mem_itemsTextsIn_sortItems vs t]

theorem mem_fieldsTextsIn_sortFields : ∀ (fields : Fields) (t : PyStr),
    t ∈ fieldsTextsIn (sortFields fields) ↔ t ∈ fieldsTextsIn fields
  | [], _ => Iff.rfl
  | (_, v) :: fs, t => by
    rw [sortFields, fieldsTextsIn, fieldsTextsIn, List.mem_append, List.mem_append, mem_textsIn_sortKeys v t,
      mem_fieldsTextsIn_sortFields fs t]

end

omit [PyRuntime] in
theorem mem_textsIn_of_sameJson {v w : Json} (h : SameJson v w) {t : PyStr} : t ∈ textsIn v ↔ t ∈ textsIn w := by
  rw [← mem_textsIn_sortKeys v, h, mem_textsIn_sortKeys]

end Texts

section Scan

variable [PyNormalization]

theorem casefold_append (s t : PyStr) : casefold (s ++ t) = casefold s ++ casefold t := List.flatMap_append

theorem infix_casefold {s t : PyStr} (h : s <:+: t) : casefold s <:+: casefold t := by
  obtain ⟨p, r, rfl⟩ := h
  rw [casefold_append, casefold_append]
  exact List.infix_append _ _ _

/-- Folding brings in no character that JSON escapes. -/
theorem not_escaped_casefold {s : PyStr} (h : ∀ c ∈ s, ¬ Escaped c) : ∀ d ∈ casefold s, ¬ Escaped d := by
  intro d hd hescaped
  obtain ⟨c, hc, hdc⟩ := List.mem_flatMap.mp hd
  have hsame := PyNormalization.casefoldPoint_escaped c d hdc hescaped
  exact h c hc (hsame ▸ hescaped)

theorem casefoldPoint_of_escaped {c : ℕ} (h : Escaped c) : PyNormalization.casefoldPoint c = [c] := by
  have hlow : c < 128 := by
    unfold Escaped at h
    omega
  have hsame : asciiLower c = c := by
    have hall : ∀ c < 128, Escaped c → asciiLower c = c := by decide +kernel
    exact hall c hlow h
  rw [PyNormalization.casefoldPoint_ascii c hlow, hsame]

omit [PyNormalization] in
theorem escapePoint_of_not_escaped {c : ℕ} (h : ¬ Escaped c) : escapePoint c = [c] := by
  unfold Escaped at h
  unfold escapePoint
  repeat rw [if_neg (by omega)]

/-- A name without such characters that shows in a text also shows in the way the text is written. -/
theorem contains_renderString {s t : PyStr} (hs : ∀ c ∈ s, ¬ Escaped c)
    (h : contains (casefold s) (casefold t) = true) : contains (casefold s) (casefold (renderString t)) = true := by
  have hpieces : ∀ c, PyNormalization.casefoldPoint c = casefold (escapePoint c) ∨
      ∃ b, PyNormalization.casefoldPoint c = [b] ∧ Escaped b := by
    intro c
    by_cases hc : Escaped c
    · exact .inr ⟨c, casefoldPoint_of_escaped hc, hc⟩
    · rw [escapePoint_of_not_escaped hc]
      exact .inl (List.flatMap_singleton _ _).symm
  rw [contains_iff] at h ⊢
  have hescaped : casefold s <:+: t.flatMap fun c => casefold (escapePoint c) :=
    infix_flatMap_of_pieces hpieces (not_escaped_casefold hs) h
  have hflat : (t.flatMap fun c => casefold (escapePoint c)) = casefold (t.flatMap escapePoint) := by
    rw [casefold, List.flatMap_assoc]
    rfl
  rw [hflat] at hescaped
  have hbody : t.flatMap escapePoint <:+: renderString t :=
    List.infix_append_left.trans (List.suffix_cons 34 _).isInfix
  exact hescaped.trans (infix_casefold hbody)

end Scan

section Leak

variable [PyRuntime] [PyNormalization] {policy : Json} {items : List Json}

/-- The names of an item's source. -/
def sourceNames (item : Json) : List PyStr := [sourceAlias item, submissionId item]

/-- A name shows in a text. -/
def shows (name text : PyStr) : Bool := contains (casefold name) (casefold text)

omit [PyRuntime] in
/-- A text in which a name shows has the characters of the name that JSON escapes. -/
theorem escaped_of_shows {name t : PyStr} (hname : ∃ c ∈ name, Escaped c) (h : shows name t = true) :
    ∃ c ∈ t, Escaped c := by
  obtain ⟨c, hc, hescaped⟩ := hname
  have hfolded : c ∈ casefold name := by
    refine List.mem_flatMap.mpr ⟨c, hc, ?_⟩
    rw [casefoldPoint_of_escaped hescaped]
    exact List.mem_cons_self
  rw [shows, contains_iff] at h
  obtain ⟨d, hd, hdc⟩ := List.mem_flatMap.mp (h.subset hfolded)
  have hsame := PyNormalization.casefoldPoint_escaped d c hdc hescaped
  exact ⟨d, hd, hsame ▸ hescaped⟩

/-- A text of the input that is published: of the policy, of evidence, or of the normalized fields of an item
that is published as a candidate. -/
def VisibleText (policy : Json) (items : List Json) (t : PyStr) : Prop :=
  t ∈ textsIn policy ∨ (∃ item ∈ items, t ∈ textsIn (get item "evidence")) ∨
    ∃ item ∈ items, Undisputed policy items item ∧ t ∈ textsIn (normalizedFields policy (get item "fields"))

omit [PyNormalization] in
theorem not_escaped_digest (text : PyStr) : ∀ c ∈ textDigest text, ¬ Escaped c := by
  intro c hc hescaped
  have hhex := isHex_of_isHex64 (isHex64_textDigest text) c hc
  unfold Escaped at hescaped
  simp only [isHex, isAsciiDigit, Bool.or_eq_true, Bool.and_eq_true, decide_eq_true_eq] at hhex
  omega

theorem not_escaped_candidateId {fields : Json} {id : PyStr} (h : candidateId policy fields = .ok id) :
    ∀ c ∈ id, ¬ Escaped c := by
  have hstart : ∀ c ∈ py "candidate-", ¬ Escaped c := by decide +kernel
  unfold candidateId at h
  simp only [bind_eq_ok_iff, pure_eq_ok_iff, fingerprint_eq_ok_iff] at h
  obtain ⟨_, ⟨-, rfl⟩, rfl⟩ := h
  intro c hc
  rcases List.mem_append.mp hc with hc | hc
  · exact hstart c hc
  · exact not_escaped_digest _ c hc

omit [PyNormalization] in
/-- The texts of evidence are those of the evidence that is kept. -/
theorem textsIn_evidenceOf {group : List Json} (hplain : ∀ item ∈ group, Plain item)
    (hlist : ∀ item ∈ group, Fits (arr refSchema 1) (get item "evidence")) {t : PyStr} :
    (∃ e ∈ evidenceOf group, t ∈ textsIn e) ↔ ∃ item ∈ group, t ∈ textsIn (get item "evidence") := by
  have htexts : ∀ item ∈ group, (t ∈ textsIn (get item "evidence") ↔ ∃ e ∈ asItems (get item "evidence"), t ∈ textsIn e) := by
    intro item hitem
    obtain ⟨values, hvalues, -⟩ := (fits_arr _ _ _).mp (hlist item hitem)
    rw [hvalues, textsIn, asItems, mem_itemsTextsIn]
  constructor
  · rintro ⟨e, he, ht⟩
    obtain ⟨item, hitem, hmem⟩ := mem_evidenceOf he
    exact ⟨item, hitem, (htexts item hitem).mpr ⟨e, hmem, ht⟩⟩
  · rintro ⟨item, hitem, ht⟩
    obtain ⟨e, he, ht⟩ := (htexts item hitem).mp ht
    have hmem : e ∈ allEvidence group := List.mem_flatMap.mpr ⟨item, hitem, he⟩
    obtain ⟨d, hd, hfound, hrender⟩ := find_text (List.mem_map_of_mem (f := render) hmem)
    have hsame := sameJson_of_render_eq (plain_allEvidence hplain d hd) (plain_allEvidence hplain e hmem) hrender
    refine ⟨d, List.mem_filterMap.mpr ⟨_, mem_sortedSet.mpr (List.mem_map_of_mem hmem), hfound⟩, ?_⟩
    exact (mem_textsIn_of_sameJson hsame).mpr ht

theorem AdmittedGroup.textsIn_evidence {g : PyStr × List Json} (h : AdmittedGroup policy g) {t : PyStr} :
    (∃ e ∈ evidenceOf g.2, t ∈ textsIn e) ↔ ∃ item ∈ g.2, t ∈ textsIn (get item "evidence") :=
  textsIn_evidenceOf h.plain fun item hitem => (h.admitted item hitem).evidence

/-- The texts of a candidate. -/
theorem AdmittedGroup.textsIn_candidate {g : PyStr × List Json} (h : AdmittedGroup policy g)
    (hcollides : collides policy g.2 = false) {t : PyStr} : t ∈ textsIn (candidate policy g) ↔ t = g.1 ∨
      (∃ item ∈ g.2, t ∈ textsIn (normalizedFields policy (get item "fields"))) ∨
        ∃ item ∈ g.2, t ∈ textsIn (get item "evidence") := by
  obtain ⟨first, hfirst, hfields⟩ := h.fields
  have hall : t ∈ textsIn (get (candidate policy g) "fields") ↔
      ∃ item ∈ g.2, t ∈ textsIn (normalizedFields policy (get item "fields")) := by
    rw [hfields]
    constructor
    · exact fun ht => ⟨first, hfirst, ht⟩
    · rintro ⟨item, hitem, ht⟩
      have hrender : render (normalizedFields policy (get first "fields")) = render (normalizedFields policy (get item "fields")) := by
        by_contra hne
        rw [collides_iff.mpr ⟨first, hfirst, item, hitem, .inr hne⟩] at hcollides
        cases hcollides
      have hsame := sameJson_of_render_eq (plain_normalizedFields policy (Plain.get (h.plain first hfirst) "fields"))
        (plain_normalizedFields policy (Plain.get (h.plain item hitem) "fields")) hrender
      exact (mem_textsIn_of_sameJson hsame).mpr ht
  rw [← hall, ← h.textsIn_evidence, candidate, textsIn]
  simp only [fieldsTextsIn, textsIn, List.mem_append, List.mem_singleton, List.append_nil, mem_itemsTextsIn]
  rfl

theorem AdmittedGroup.textsIn_collision {g : PyStr × List Json} (h : AdmittedGroup policy g) {t : PyStr} :
    t ∈ textsIn (collision g) ↔ t = g.1 ∨ t = py "UNKNOWN_IDENTITY" ∨ ∃ item ∈ g.2, t ∈ textsIn (get item "evidence") := by
  rw [← h.textsIn_evidence, collision, textsIn]
  simp only [fieldsTextsIn, textsIn, List.mem_append, List.mem_singleton, List.append_nil, mem_itemsTextsIn]

/-- The texts of a published pool. -/
theorem textsIn_publishedFields {t : PyStr} : t ∈ textsIn (.obj (publishedFields policy items)) ↔
    t = py "search-candidate-pool/v2" ∨ t ∈ textsIn policy ∨
      (∃ g ∈ itemGroups policy items, collides policy g.2 = false ∧ t ∈ textsIn (candidate policy g)) ∨
      (∃ g ∈ itemGroups policy items, collides policy g.2 = true ∧ t ∈ textsIn (collision g)) ∨
      t = sealDigest (publicFields policy (itemGroups policy items)) := by
  have hlist : ∀ (p : PyStr × List Json → Bool) (f : PyStr × List Json → Json),
      (∃ v ∈ ((itemGroups policy items).filter p).map f, t ∈ textsIn v) ↔
        ∃ g ∈ itemGroups policy items, p g = true ∧ t ∈ textsIn (f g) := by
    intro p f
    simp only [List.mem_map, List.mem_filter]
    constructor
    · rintro ⟨_, ⟨g, ⟨hg, hp⟩, rfl⟩, ht⟩
      exact ⟨g, hg, hp, ht⟩
    · rintro ⟨g, hg, hp, ht⟩
      exact ⟨_, ⟨g, ⟨hg, hp⟩, rfl⟩, ht⟩
  rw [publishedFields, mem_textsIn_of_sameJson (sameJson_sealedFields (nodup_publicFields _ _)
    (fingerprintKey_notMem_publicFields _ _)), textsIn, mem_fieldsTextsIn]
  generalize sealDigest (publicFields policy (itemGroups policy items)) = digest
  simp only [publicFields, List.cons_append, List.nil_append, List.exists_mem_cons_iff, textsIn, mem_itemsTextsIn,
    List.mem_singleton, hlist, Bool.not_eq_true', exists_eq_left]

/-- Every visible text is published, and every other published text is free of characters that JSON escapes. -/
theorem visibleText_iff (hitems : ∀ item ∈ items, Admitted policy item) (hkeys : ∀ item ∈ items, UniqueKeys item)
    {t : PyStr} (hescaped : ∃ c ∈ t, Escaped c) :
    t ∈ textsIn (.obj (publishedFields policy items)) ↔ VisibleText policy items t := by
  have hgroups := admittedGroup hitems hkeys
  have hplain : ∀ s : PyStr, (∀ c ∈ s, ¬ Escaped c) → t ≠ s := by
    rintro s hs rfl
    obtain ⟨c, hc, hescaped⟩ := hescaped
    exact hs c hc hescaped
  have hschema : t ≠ py "search-candidate-pool/v2" := hplain _ (by decide +kernel)
  have hstatus : t ≠ py "UNKNOWN_IDENTITY" := hplain _ (by decide +kernel)
  have hid : ∀ g ∈ itemGroups policy items, t ≠ g.1 := by
    intro g hg
    obtain ⟨item, rest, hmembers⟩ := List.exists_cons_of_ne_nil (hgroups g hg).nonempty
    exact hplain _ (not_escaped_candidateId ((hgroups g hg).identity item (by rw [hmembers]; exact List.mem_cons_self)))
  have hmember : ∀ g ∈ itemGroups policy items, ∀ item ∈ g.2, item ∈ items ∧ g.2 = identified policy items (identityOf policy item) := by
    intro g hg item hitem
    obtain ⟨-, hmembers⟩ := mem_itemGroups.mp hg
    rw [hmembers] at hitem
    obtain ⟨hitem, hidentity⟩ := List.mem_filter.mp hitem
    refine ⟨hitem, ?_⟩
    rw [hmembers, of_decide_eq_true hidentity, identified]
  have hgroup : ∀ item ∈ items, (identityOf policy item, identified policy items (identityOf policy item)) ∈ itemGroups policy items :=
    fun item hitem => mem_itemGroups.mpr ⟨⟨item, hitem, rfl⟩, rfl⟩
  have hself : ∀ item ∈ items, item ∈ identified policy items (identityOf policy item) :=
    fun item hitem => List.mem_filter.mpr ⟨hitem, decide_eq_true rfl⟩
  rw [textsIn_publishedFields]
  constructor
  · rintro (h | h | ⟨g, hg, hfree, h⟩ | ⟨g, hg, -, h⟩ | h)
    · exact absurd h hschema
    · exact .inl h
    · rcases ((hgroups g hg).textsIn_candidate hfree).mp h with h | ⟨item, hitem, h⟩ | ⟨item, hitem, h⟩
      · exact absurd h (hid g hg)
      · obtain ⟨hmem, hmembers⟩ := hmember g hg item hitem
        exact .inr (.inr ⟨item, hmem, by rw [Undisputed, ← hmembers, hfree], h⟩)
      · exact .inr (.inl ⟨item, (hmember g hg item hitem).1, h⟩)
    · rcases (hgroups g hg).textsIn_collision.mp h with h | h | ⟨item, hitem, h⟩
      · exact absurd h (hid g hg)
      · exact absurd h hstatus
      · exact .inr (.inl ⟨item, (hmember g hg item hitem).1, h⟩)
    · exact absurd h (hplain _ (not_escaped_digest _))
  · rintro (h | ⟨item, hitem, h⟩ | ⟨item, hitem, hfree, h⟩)
    · exact .inr (.inl h)
    · have hg := hgroup item hitem
      cases hcollides : collides policy (identified policy items (identityOf policy item)) with
      | false =>
        refine .inr (.inr (.inl ⟨_, hg, hcollides, ?_⟩))
        exact ((hgroups _ hg).textsIn_candidate hcollides).mpr (.inr (.inr ⟨item, hself item hitem, h⟩))
      | true =>
        refine .inr (.inr (.inr (.inl ⟨_, hg, hcollides, ?_⟩)))
        exact (hgroups _ hg).textsIn_collision.mpr (.inr (.inr ⟨item, hself item hitem, h⟩))
    · have hg := hgroup item hitem
      refine .inr (.inr (.inl ⟨_, hg, hfree, ?_⟩))
      exact ((hgroups _ hg).textsIn_candidate hfree).mpr (.inr (.inl ⟨item, hself item hitem, h⟩))

/-- A published pool shows no name of a source in any of its texts exactly when no name that has a character
that JSON escapes shows in a text that is published as it was given. -/
theorem poolCandidates_unseen_iff {pool : Fields × Fields} (hkeys : ∀ item ∈ items, UniqueKeys item)
    (hpolicyKeys : UniqueKeys policy) (h : poolCandidates items policy = .ok pool) :
    (∀ item ∈ items, ∀ name ∈ sourceNames item, ∀ t ∈ textsIn (.obj pool.1), shows name t = false) ↔
      ∀ item ∈ items, ∀ name ∈ sourceNames item, (∃ c ∈ name, Escaped c) →
        ∀ t, VisibleText policy items t → shows name t = false := by
  obtain ⟨published, hidden⟩ := pool
  obtain ⟨hpolicy, -, hitems, -, -, hseal, -, text, htext, hunseen⟩ := poolCandidates_eq_ok_iff.mp h
  have hplain : ∀ item ∈ items, Plain item := fun item hitem => (hitems item hitem).plain (hkeys item hitem)
  have hlegible := (plain_publicFields (hpolicy.plain hpolicyKeys) (plain_itemGroups policy hplain)).legible
  obtain ⟨-, rfl⟩ := (sealDocument_eq_ok_iff hlegible).mp hseal
  rw [← publishedFields] at htext ⊢
  have hrendered : text = render (.obj (publishedFields policy items)) := by
    unfold QA0.canonicalJson at htext
    split_ifs at htext
    exact (Except.ok.inj htext).symm
  constructor
  · intro hall item hitem name hname hescaped t ht
    by_contra hshows
    rw [Bool.not_eq_false] at hshows
    have hpublished := (visibleText_iff hitems hkeys (escaped_of_shows hescaped hshows)).mpr ht
    rw [hall item hitem name hname t hpublished] at hshows
    cases hshows
  · intro hall item hitem name hname t ht
    by_cases hescaped : ∃ c ∈ name, Escaped c
    · by_contra hshows
      rw [Bool.not_eq_false] at hshows
      have hinput := (visibleText_iff hitems hkeys (escaped_of_shows hescaped hshows)).mp ht
      rw [hall item hitem name hname hescaped t hinput] at hshows
      cases hshows
    · have hfree : ∀ c ∈ name, ¬ Escaped c := fun c hc hescape => hescaped ⟨c, hc, hescape⟩
      have hscan : contains (casefold name) (casefold text) = false := by
        obtain ⟨halias, hid⟩ := hunseen item hitem
        rcases List.mem_cons.mp hname with rfl | hname
        · exact halias
        · rw [List.mem_singleton.mp hname]
          exact hid
      by_contra hshows
      rw [Bool.not_eq_false] at hshows
      have hwritten := contains_renderString hfree hshows
      rw [contains_iff] at hwritten
      have hfound : contains (casefold name) (casefold text) = true := by
        rw [contains_iff, hrendered]
        exact hwritten.trans (infix_casefold (infix_renderString ht))
      rw [hfound] at hscan
      cases hscan

end Leak

section Sample

open Python.Whole Python.Latin

theorem poolCandidates_unseen_sample : ∃ pool, poolCandidates [poolItemOf [("name", .str "Ada")] "first"]
      (poolPolicyOf ["name"] ["name"]) = .ok pool ∧
    ∀ item ∈ [poolItemOf [("name", .str "Ada")] "first"], ∀ name ∈ sourceNames item, ∀ t ∈ textsIn (.obj pool.1),
      shows name t = false := by
  have hnames : ∀ name ∈ sourceNames (poolItemOf [("name", .str "Ada")] "first"), ∀ c ∈ name, ¬ Escaped c := by decide +kernel
  obtain ⟨pool, hpool⟩ := exists_of_isOk (poolSample_accepted "first" (by simp))
  refine ⟨pool, hpool, (poolCandidates_unseen_iff (poolSample_uniqueKeys "first" (by simp)) poolPolicyOf_uniqueKeys
    hpool).mpr fun item hitem name hname hescaped => ?_⟩
  obtain ⟨c, hc, hescape⟩ := hescaped
  rw [List.mem_singleton.mp hitem] at hname
  exact absurd hescape (hnames name hname c hc)

/-- A name with quotes is not found in the text that is scanned. -/
theorem poolCandidates_quoted : ∃ pool,
    poolCandidates [poolItemOf [("name", .str "Ada"), ("note", .str "by team \"x\"")] "team \"x\""]
      (poolPolicyOf ["name"] ["name", "note"]) = .ok pool ∧
    ∃ t ∈ textsIn (.obj pool.1), shows "team \"x\"" t = true := by
  have hshows : (match poolCandidates [poolItemOf [("name", .str "Ada"), ("note", .str "by team \"x\"")] "team \"x\""]
        (poolPolicyOf ["name"] ["name", "note"]) with
      | .ok pool => (textsIn (.obj pool.1)).any (shows "team \"x\"")
      | .error _ => false) = true := by decide +kernel
  cases hpool : poolCandidates [poolItemOf [("name", .str "Ada"), ("note", .str "by team \"x\"")] "team \"x\""]
      (poolPolicyOf ["name"] ["name", "note"]) with
  | ok pool =>
    rw [hpool] at hshows
    dsimp only at hshows
    rw [List.any_eq_true] at hshows
    exact ⟨pool, rfl, hshows⟩
  | error e =>
    rw [hpool] at hshows
    cases hshows

end Sample

end EvaluationLab.SearchCup
