import EvaluationLab.Python.JsonRoundTrip

/-! A rendered document is loaded as the document. -/
namespace EvaluationLab.Python

section Nesting

theorem fieldsNesting_le_iff (fields : List (PyStr × Json)) (n : ℕ) :
    fieldsNesting fields ≤ n ↔ ∀ f ∈ fields, nesting f.2 ≤ n := by
  induction fields with
  | nil => simp [fieldsNesting]
  | cons f fs ih => rw [fieldsNesting, max_le_iff, ih, List.forall_mem_cons]

theorem itemsNesting_le_iff (items : List Json) (n : ℕ) : itemsNesting items ≤ n ↔ ∀ v ∈ items, nesting v ≤ n := by
  induction items with
  | nil => simp [itemsNesting]
  | cons v vs ih => rw [itemsNesting, max_le_iff, ih, List.forall_mem_cons]

mutual

/-- Sorting keys does not change the depth. -/
theorem nesting_sortKeys : ∀ v : Json, nesting (sortKeys v) ≤ nesting v
  | .null | .bool _ | .int _ | .float _ | .str _ => le_rfl
  | .arr items => by
    rw [sortKeys, nesting, nesting]
    exact Nat.add_le_add_right (itemsNesting_sortItems items) 1
  | .obj fields => by
    rw [sortKeys, nesting, nesting, Nat.add_le_add_iff_right, fieldsNesting_le_iff]
    intro f hf
    have hsorted := fieldsNesting_sortFields fields
    rw [fieldsNesting_le_iff] at hsorted
    exact hsorted f ((List.mem_insertionSort _).mp hf)

theorem itemsNesting_sortItems : ∀ vs : List Json, itemsNesting (sortItems vs) ≤ itemsNesting vs
  | [] => le_rfl
  | v :: vs => by
    rw [sortItems, itemsNesting, itemsNesting]
    exact max_le_max (nesting_sortKeys v) (itemsNesting_sortItems vs)

theorem fieldsNesting_sortFields : ∀ fs : List (PyStr × Json), fieldsNesting (sortFields fs) ≤ fieldsNesting fs
  | [] => le_rfl
  | (_, v) :: fs => by
    rw [sortFields, fieldsNesting, fieldsNesting]
    exact max_le_max (nesting_sortKeys v) (fieldsNesting_sortFields fs)

end

end Nesting

variable [PyRuntime]

section Length

mutual

/-- The text of a value pays for reading it. -/
theorem cost_le : ∀ v : Json, ReadsAsWritten v → cost v ≤ 2 * (render v).length
  | .arr items, h => by
    have hitems := itemsCost_le items h
    rw [cost, render, List.length_append, List.length_cons, List.length_singleton]
    omega
  | .obj fields, h => by
    have hfields := fieldsCost_le fields h.2
    have hlength : (render (.obj fields)).length = (membersText fields).length + 2 := by
      have happend := congrArg List.length (render_obj_append [] h.1)
      rw [List.append_nil, List.length_cons, List.length_append, List.length_singleton] at happend
      exact happend
    rw [cost, hlength]
    omega
  | .null, h | .bool _, h | .int _, h | .float _, h | .str _, h => by
    obtain ⟨c, t, htext, -⟩ := startsValue_render h
    rw [htext, List.length_cons]
    show 1 ≤ _
    omega

theorem itemsCost_le : ∀ vs : List Json, ItemsReadAsWritten vs →
    itemsCost vs ≤ 2 * (commaJoin (renderItems vs)).length + 1
  | [], _ => Nat.zero_le _
  | [v], h => by
    have hv := cost_le v h.1
    rw [itemsCost, itemsCost, renderItems, renderItems, commaJoin]
    omega
  | v :: w :: vs, h => by
    have hv := cost_le v h.1
    have htail := itemsCost_le (w :: vs) h.2
    have hlength : (commaJoin (renderItems (v :: w :: vs))).length =
        (render v).length + (commaJoin (renderItems (w :: vs))).length + 1 := by
      simp [renderItems, commaJoin]
      omega
    rw [itemsCost, hlength]
    omega

theorem fieldsCost_le : ∀ fs : List (PyStr × Json), FieldsReadAsWritten fs →
    fieldsCost fs ≤ 2 * (membersText fs).length + 1
  | [], _ => Nat.zero_le _
  | [(k, v)], h => by
    have hv := cost_le v h.1
    have hlength : (render v).length ≤ (membersText [(k, v)]).length := by
      simp [membersText, renderFields, commaJoin]
      omega
    rw [fieldsCost, fieldsCost]
    omega
  | (k, v) :: f :: fs, h => by
    have hv := cost_le v h.1
    have htail := fieldsCost_le (f :: fs) h.2
    have hlength : (render v).length + (membersText (f :: fs)).length + 1 ≤ (membersText ((k, v) :: f :: fs)).length := by
      obtain ⟨l, w⟩ := f
      simp [membersText, renderFields, commaJoin]
      omega
    rw [fieldsCost]
    omega

end

end Length

/-- A document that is nested no deeper than the interpreter reads is loaded with its keys sorted. -/
theorem loads_render {v : Json} (hlegible : Legible v) (hprint : intsPrintable v = true)
    (hnesting : nesting v ≤ PyRuntime.recursionLimit) : loads (render v) = .ok (sortKeys v) := by
  have hread := readsAsWritten_sortKeys v hlegible hprint
  obtain ⟨c, t, htext, hc⟩ := startsValue_render hread
  have hcost := cost_le (sortKeys v) hread
  have hparse : parseValue PyRuntime.recursionLimit (2 * (render (sortKeys v)).length + 2)
      (render (sortKeys v) ++ []) = .ok (sortKeys v, []) :=
    parseValue_render (sortKeys v) ((nesting_sortKeys v).trans hnesting) (by omega) hread (Or.inl rfl)
  rw [List.append_nil] at hparse
  rw [render_sortKeys] at hparse htext
  have hhead : (render v).head? ≠ some 0xFEFF := by
    rw [htext, List.head?_cons, Ne, Option.some.injEq]
    rintro rfl
    revert hc
    decide
  unfold loads
  rw [if_neg hhead, htext, skipSpace_startsValue hc, ← htext, hparse]
  rfl

end EvaluationLab.Python
