import EvaluationLab.BlindEval.Metadata

/-! A redacted text does not show the secret, whatever the text was. -/
namespace EvaluationLab.BlindEval
open Python

/-- A key of at least twenty characters without white space, square brackets or commas. -/
structure PlainKey (key : PyStr) : Prop where
  long : 20 ≤ key.length
  plain : ∀ c ∈ key, isSpace c = false ∧ c ≠ 91 ∧ c ≠ 93 ∧ c ≠ 44

/-- The key does not end with an ellipsis, nor with a beginning of the text that a redacted
header starts with. -/
structure OrdinaryEnding (key : PyStr) : Prop where
  noEllipsis : ∀ rest, key ≠ rest ++ [0x2026]
  noHeader : ∀ part, part ≠ [] → part <+: py "Authorization:" → ¬part <:+ key

section Words

variable {key : PyStr}

theorem PlainKey.ne_nil (h : PlainKey key) : key ≠ [] := by
  rintro rfl
  exact absurd h.long (by decide)

theorem PlainKey.no_space (h : PlainKey key) : (32 : ℕ) ∉ key := fun hm => by
  have hspace := (h.plain 32 hm).1
  exact absurd hspace (by decide)

theorem PlainKey.no_open (h : PlainKey key) : (91 : ℕ) ∉ key := fun hm => (h.plain 91 hm).2.1 rfl

theorem PlainKey.no_close (h : PlainKey key) : (93 : ℕ) ∉ key := fun hm => (h.plain 93 hm).2.2.1 rfl

theorem PlainKey.not_infix_of_short (h : PlainKey key) {text : PyStr} (hshort : text.length < 20) : ¬key <:+: text := by
  intro hwithin
  have hle := hwithin.length_le
  have hlong := h.long
  omega

/-- Every stretch of twenty characters of a text has white space in it. -/
def shortWords (text : PyStr) : Bool :=
  text.tails.all fun s => s.length < 20 || (s.take 20).any isSpace

theorem PlainKey.not_infix_of_shortWords (h : PlainKey key) {text : PyStr} (hshort : shortWords text = true) :
    ¬key <:+: text := by
  rintro ⟨before, after, hsplit⟩
  have hmem : key ++ after ∈ text.tails := by
    rw [List.mem_tails, ← hsplit, List.append_assoc]
    exact List.suffix_append before (key ++ after)
  have hword := List.all_eq_true.mp hshort _ hmem
  rw [Bool.or_eq_true, decide_eq_true_eq] at hword
  have hlong := h.long
  rcases hword with hlen | hspace
  · rw [List.length_append] at hlen
    omega
  · obtain ⟨c, hc, hcspace⟩ := List.any_eq_true.mp hspace
    rw [List.take_append_of_le_length hlong] at hc
    rw [(h.plain c (List.mem_of_mem_take hc)).1] at hcspace
    cases hcspace

end Words

section Redacted

variable {key : PyStr}

theorem secretRedacted_eq : secretRedacted = py "[SECRET_REDACTED" ++ [93] := by decide +kernel

theorem not_infix_redaction (h : PlainKey key) : ¬key <:+: py "[SECRET_REDACTED" :=
  h.not_infix_of_short (by decide +kernel)

theorem apart_redaction (h : PlainKey key) : Apart key (py "[SECRET_REDACTED") := by
  have hlead : py "[SECRET_REDACTED" = 91 :: py "SECRET_REDACTED" := by decide +kernel
  rw [hlead]
  exact apart_of_not_mem h.no_open

theorem not_infix_redactSecrets (h : PlainKey key) (text : PyStr) : ¬key <:+: redactSecrets text [key] := by
  rw [redactSecrets, List.foldl_cons, List.foldl_nil, if_neg h.ne_nil, secretRedacted_eq]
  exact not_infix_replace h.ne_nil h.no_close (not_infix_redaction h) (apart_redaction h)

/-- A redacted header does not make up the key. -/
theorem infix_of_infix_header (h : PlainKey key) (hending : OrdinaryEnding key) {text : PyStr}
    (hwithin : key <:+: substitute authorizationMatcher (py "Authorization: Bearer [SECRET_REDACTED]") text) :
    key <:+: text := by
  have hlead : py "Authorization: Bearer [SECRET_REDACTED]" =
      py "Authorization: Bearer [SECRET_REDACTED" ++ [93] := by decide +kernel
  have hwords : py "Authorization: Bearer [SECRET_REDACTED" =
      py "Authorization:" ++ 32 :: py "Bearer [SECRET_REDACTED" := by decide +kernel
  rw [hlead] at hwithin
  refine infix_of_infix_substitute h.ne_nil h.no_close ?_ ?_ hwithin
  · exact h.not_infix_of_shortWords (by decide +kernel)
  · intro p a hkey ha hprefix
    rw [hwords] at hprefix
    have hspace : (32 : ℕ) ∉ a := fun hm => h.no_space (by rw [hkey]; exact List.mem_append_right p hm)
    refine hending.noHeader a ha (prefix_lead _ hspace hprefix) ?_
    rw [hkey]
    exact List.suffix_append p a

theorem infix_of_infix_truncate (hne : key ≠ []) (hending : OrdinaryEnding key) {text : PyStr}
    (hwithin : key <:+: truncate text) : key <:+: text := by
  unfold truncate at hwithin
  split_ifs at hwithin
  · rcases List.infix_concat_iff.mp hwithin with hsuffix | hwithin
    · rcases List.suffix_concat_iff.mp hsuffix with hnil | ⟨rest, hkey, -⟩
      · exact absurd hnil hne
      · exact absurd hkey (hending.noEllipsis rest)
    · exact hwithin.trans (List.take_prefix 500 text).isInfix
  · exact hwithin

/-- The message of an exception shows no part of it that is the key. -/
theorem not_infix_safeErrorMessage [PyRuntime] (h : PlainKey key) (hending : OrdinaryEnding key) (text : PyStr) :
    ¬key <:+: safeErrorMessage text [key] := by
  intro hwithin
  have hkeys := infix_of_infix_truncate h.ne_nil hending hwithin
  rw [secretRedacted_eq] at hkeys
  have hheader := infix_of_infix_substitute h.ne_nil h.no_close (not_infix_redaction h) (apart_redaction h) hkeys
  exact not_infix_redactSecrets h text (infix_of_infix_header h hending hheader)

end Redacted

/-! Metadata that passes the token policy is the provider's text, without its outer white space. -/
section Tokens

variable {key : PyStr}

theorem infix_dropWhile {p : ℕ → Bool} {s : PyStr} (hne : key ≠ []) (hp : ∀ c ∈ key, p c = false)
    (h : key <:+: s) : key <:+: s.dropWhile p := by
  induction s with
  | nil => exact h
  | cons c s ih =>
    by_cases hc : p c = true
    · rw [List.dropWhile_cons_of_pos hc]
      rcases List.infix_cons_iff.mp h with hprefix | hwithin
      · cases key with
        | nil => exact absurd rfl hne
        | cons d key =>
          obtain ⟨rfl, -⟩ := List.cons_prefix_cons.mp hprefix
          rw [hp d List.mem_cons_self] at hc
          cases hc
      · exact ih hwithin
    · rw [List.dropWhile_cons_of_neg hc]
      exact h

theorem infix_strip_iff (h : PlainKey key) {s : PyStr} : key <:+: strip s ↔ key <:+: s := by
  constructor
  · intro hwithin
    have hback := List.reverse_infix.mp (by rw [List.reverse_reverse]; exact hwithin :
      key.reverse.reverse <:+: ((s.dropWhile isSpace).reverse.dropWhile isSpace).reverse)
    have hdrop := hback.trans (List.dropWhile_suffix isSpace).isInfix
    exact (List.reverse_infix.mp hdrop).trans (List.dropWhile_suffix isSpace).isInfix
  · intro hwithin
    have hfront := infix_dropWhile h.ne_nil (fun c hc => (h.plain c hc).1) hwithin
    rw [← List.reverse_infix, strip, List.reverse_reverse]
    apply infix_dropWhile
    · exact fun hnil => h.ne_nil (List.reverse_eq_nil_iff.mp hnil)
    · exact fun c hc => (h.plain c (List.mem_reverse.mp hc)).1
    · exact List.reverse_infix.mpr hfront

/-- A metadata value that shows the key and passes the token policy. -/
def TokenShows (key : PyStr) (value : Json) (kind : MetadataKind) : Prop :=
  ∃ s, value = .str s ∧ key <:+: s ∧ contains "://" (strip s) = false ∧ kind.matches (strip s) = true

theorem safeProviderMetadata_eq_some {value : Json} {kind : MetadataKind} {t : PyStr} :
    safeProviderMetadata value kind = some t ↔
      ∃ s, value = .str s ∧ t = strip s ∧ contains "://" (strip s) = false ∧ kind.matches (strip s) = true := by
  cases value with
  | str s =>
    simp only [safeProviderMetadata, Json.str.injEq]
    constructor
    · intro h
      split_ifs at h with hblank hmatch
      rw [not_or, Bool.not_eq_true] at hblank
      exact ⟨s, rfl, (Option.some.inj h).symm, hblank.2, hmatch⟩
    · rintro ⟨_, rfl, rfl, hlocator, hmatch⟩
      have hne : strip s ≠ [] := fun hnil => by
        rw [hnil] at hmatch
        cases hmatch
      rw [if_neg (by simp [hne, hlocator]), if_pos hmatch]
  | _ => simp [safeProviderMetadata]

theorem tokenShows_iff (h : PlainKey key) {value : Json} {kind : MetadataKind} :
    TokenShows key value kind ↔ ∃ t, safeProviderMetadata value kind = some t ∧ key <:+: t := by
  simp only [safeProviderMetadata_eq_some]
  constructor
  · rintro ⟨s, hvalue, hkey, hlocator, hmatch⟩
    exact ⟨strip s, ⟨s, hvalue, rfl, hlocator, hmatch⟩, (infix_strip_iff h).mpr hkey⟩
  · rintro ⟨_, ⟨s, hvalue, rfl, hlocator, hmatch⟩, hkey⟩
    exact ⟨s, hvalue, (infix_strip_iff h).mp hkey, hlocator, hmatch⟩

end Tokens

end EvaluationLab.BlindEval
