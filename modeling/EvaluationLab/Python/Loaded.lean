import EvaluationLab.Effect.Outcome
import EvaluationLab.Python.Dict
import EvaluationLab.Python.JsonDepth

/-! What is loaded is a document of the interpreter: no key comes twice and every float reads back. -/
namespace EvaluationLab.Python
open Effect

/-- `float(repr(x)) == x` for the floats the interpreter makes. -/
class RoundTripFloats [PyRuntime] : Prop where
  rounded : ∀ q, ReadsBack (PyRuntime.roundFloat q)
  negativeZero : ReadsBack .negativeZero

section Dictionary

theorem keys_dictSet (fields : List (PyStr × Json)) (key : PyStr) (value : Json) :
    (dictSet fields key value).map Prod.fst =
      if key ∈ fields.map Prod.fst then fields.map Prod.fst else fields.map Prod.fst ++ [key] := by
  simp only [dictSet, lookup_isSome_iff]
  split_ifs with h
  · rw [List.map_map]
    apply List.map_congr_left
    intro f _
    by_cases hf : f.1 = key
    · simp [hf]
    · simp [hf]
  · simp

theorem nodup_dictSet {fields : List (PyStr × Json)} (h : (fields.map Prod.fst).Nodup) (key : PyStr) (value : Json) :
    ((dictSet fields key value).map Prod.fst).Nodup := by
  rw [keys_dictSet]
  split_ifs with hkey
  · exact h
  · rw [List.nodup_append]
    refine ⟨h, by simp, ?_⟩
    rintro a ha b hb rfl
    rw [List.mem_singleton] at hb
    exact hkey (hb ▸ ha)

theorem mem_dictSet {fields : List (PyStr × Json)} {key : PyStr} {value : Json} {f : PyStr × Json}
    (h : f ∈ dictSet fields key value) : f ∈ fields ∨ f = (key, value) := by
  unfold dictSet at h
  split_ifs at h
  · obtain ⟨g, hg, rfl⟩ := List.mem_map.mp h
    split_ifs
    · exact .inr rfl
    · exact .inl hg
  · simpa using h

end Dictionary

variable [PyRuntime]

omit [PyRuntime] in
theorem isPrefixOf_self_append (w t : PyStr) : w.isPrefixOf (w ++ t) = true :=
  List.isPrefixOf_iff_prefix.mpr (List.prefix_append w t)

theorem readsBack_nan : ReadsBack .nan := by
  intro depth fuel rest _
  rw [renderFloat, nan_eq, List.cons_append, parseValue_plain (by decide) (by decide) (by decide), null_eq,
    if_neg (not_isPrefixOf (by decide)), true_eq, if_neg (not_isPrefixOf (by decide)), false_eq,
    if_neg (not_isPrefixOf (by decide)), nan_eq]
  rfl

theorem readsBack_infinity (negative : Bool) : ReadsBack (.infinity negative) := by
  intro depth fuel rest _
  cases negative with
  | false =>
    rw [renderFloat, infinity_eq, List.cons_append, parseValue_plain (by decide) (by decide) (by decide), null_eq,
      if_neg (not_isPrefixOf (by decide)), true_eq, if_neg (not_isPrefixOf (by decide)), false_eq,
      if_neg (not_isPrefixOf (by decide)), nan_eq, if_neg (not_isPrefixOf (by decide)), infinity_eq]
    rfl
  | true =>
    rw [renderFloat, negativeInfinity_eq, List.cons_append, parseValue_plain (by decide) (by decide) (by decide),
      null_eq, if_neg (not_isPrefixOf (by decide)), true_eq, if_neg (not_isPrefixOf (by decide)), false_eq,
      if_neg (not_isPrefixOf (by decide)), nan_eq, if_neg (not_isPrefixOf (by decide)), infinity_eq,
      if_neg (not_isPrefixOf (by decide)), negativeInfinity_eq]
    rfl

section Parsed

variable [RoundTripFloats]

theorem legible_parseNumber {negative : Bool} {s : PyStr} {r : Json × PyStr} (h : parseNumber negative s = .ok r) :
    Legible r.1 := by
  unfold parseNumber at h
  dsimp only at h
  split_ifs at h
  all_goals
    cases h
    first
      | exact trivial
      | exact RoundTripFloats.negativeZero
      | exact RoundTripFloats.rounded _

omit [RoundTripFloats] in
theorem fieldsLegible_dictSet {fields : List (PyStr × Json)} {value : Json} (hfields : FieldsLegible fields)
    (hvalue : Legible value) (key : PyStr) : FieldsLegible (dictSet fields key value) := by
  rw [fieldsLegible_iff] at hfields ⊢
  intro f hf
  rcases mem_dictSet hf with hf | rfl
  · exact hfields f hf
  · exact hvalue

omit [RoundTripFloats] in
theorem itemsLegible_iff (items : List Json) : ItemsLegible items ↔ ∀ v ∈ items, Legible v := by
  induction items with
  | nil => simp [ItemsLegible]
  | cons v vs ih => rw [ItemsLegible, ih, List.forall_mem_cons]

/-- Every stage of the parser keeps what it has read legible. -/
theorem legible_parse (fuel : ℕ) :
    (∀ depth s r, parseValue depth fuel s = .ok r → Legible r.1) ∧
    (∀ depth fields s r, (fields.map Prod.fst).Nodup → FieldsLegible fields →
      parseMembers depth fuel fields s = .ok r → Legible r.1) ∧
    ∀ depth items s r, ItemsLegible items → parseItems depth fuel items s = .ok r → Legible r.1 := by
  induction fuel with
  | zero =>
    refine ⟨fun depth s r h => ?_, fun depth fields s r _ _ h => ?_, fun depth items s r _ h => ?_⟩
    · cases s <;> cases h
    · rw [parseMembers.eq_def] at h
      cases h
    · rw [parseItems.eq_def] at h
      cases h
  | succ fuel ih =>
    obtain ⟨ihvalue, ihmembers, ihitems⟩ := ih
    refine ⟨fun depth s r h => ?_, fun depth fields s r hkeys hfields h => ?_, fun depth items s r hitems h => ?_⟩
    · cases s with
      | nil => cases h
      | cons c s =>
        rw [parseValue.eq_def] at h
        dsimp only at h
        split_ifs at h
        · cases hs : parseString s with
          | error e =>
            rw [hs] at h
            cases h
          | ok t =>
            rw [hs] at h
            cases h
            exact trivial
        · cases depth with
          | zero => cases h
          | succ depth =>
            dsimp only at h
            split at h
            · cases h
              exact ⟨List.nodup_nil, trivial⟩
            · exact ihmembers depth [] _ r List.nodup_nil trivial h
        · cases depth with
          | zero => cases h
          | succ depth =>
            dsimp only at h
            split at h
            · cases h
              exact trivial
            · exact ihitems depth [] _ r trivial h
        · cases h
          exact trivial
        · cases h
          exact trivial
        · cases h
          exact trivial
        · cases h
          exact readsBack_nan
        · cases h
          exact readsBack_infinity false
        · cases h
          exact readsBack_infinity true
        · exact legible_parseNumber h
        · exact legible_parseNumber h
    · rw [parseMembers.eq_def] at h
      split at h
      · cases h
      · rename_i hfuel
        cases hfuel
        simp only [bind_eq_ok_iff] at h
        obtain ⟨⟨key, s'⟩, -, h⟩ := h
        split at h
        · simp only [bind_eq_ok_iff] at h
          obtain ⟨⟨value, s''⟩, hvalue, h⟩ := h
          have hlegible := ihvalue depth _ _ hvalue
          split at h
          · cases h
            exact ⟨nodup_dictSet hkeys key value, fieldsLegible_dictSet hfields hlegible key⟩
          · exact ihmembers depth _ _ r (nodup_dictSet hkeys key value) (fieldsLegible_dictSet hfields hlegible key) h
          · cases h
        · cases h
      · cases h
    · rw [parseItems.eq_def] at h
      dsimp only at h
      simp only [bind_eq_ok_iff] at h
      obtain ⟨⟨value, s'⟩, hvalue, h⟩ := h
      have hlegible := ihvalue depth _ _ hvalue
      have hmore : ItemsLegible (items ++ [value]) := by
        rw [itemsLegible_iff] at hitems ⊢
        intro v hv
        rcases List.mem_append.mp hv with hv | hv
        · exact hitems v hv
        · rw [List.mem_singleton.mp hv]
          exact hlegible
      split at h
      · cases h
        exact hmore
      · exact ihitems depth _ _ r hmore h
      · cases h

/-- A loaded document is legible. -/
theorem legible_of_loads {s : PyStr} {v : Json} (h : loads s = .ok v) : Legible v := by
  unfold loads at h
  split_ifs at h
  simp only [bind_eq_ok_iff] at h
  obtain ⟨⟨w, rest⟩, hparse, h⟩ := h
  split_ifs at h
  cases h
  exact (legible_parse _).1 _ _ _ hparse

end Parsed

end EvaluationLab.Python
