import EvaluationLab.Python.JsonLoads

/-! A document that is nested too deeply is not loaded. -/
namespace EvaluationLab.Python

section Nesting

mutual

theorem nesting_sortKeys_eq : ∀ v : Json, nesting (sortKeys v) = nesting v
  | .null | .bool _ | .int _ | .float _ | .str _ => rfl
  | .arr items => by rw [sortKeys, nesting, nesting, itemsNesting_sortItems_eq items]
  | .obj fields => by
    apply le_antisymm (nesting_sortKeys _)
    rw [sortKeys, nesting, nesting, Nat.add_le_add_iff_right, ← fieldsNesting_sortFields_eq fields, fieldsNesting_le_iff]
    intro f hf
    exact (fieldsNesting_le_iff _ _).mp le_rfl f ((List.mem_insertionSort _).mpr hf)

theorem itemsNesting_sortItems_eq : ∀ vs : List Json, itemsNesting (sortItems vs) = itemsNesting vs
  | [] => rfl
  | v :: vs => by rw [sortItems, itemsNesting, itemsNesting, nesting_sortKeys_eq v, itemsNesting_sortItems_eq vs]

theorem fieldsNesting_sortFields_eq : ∀ fs : List (PyStr × Json), fieldsNesting (sortFields fs) = fieldsNesting fs
  | [] => rfl
  | (k, v) :: fs => by
    rw [sortFields, fieldsNesting, fieldsNesting, nesting_sortKeys_eq v, fieldsNesting_sortFields_eq fs]

end

end Nesting

variable [PyRuntime]

omit [PyRuntime] in
theorem bind_fails {α β : Type} {x : Except PyExc α} {f : α → Except PyExc β} (h : ∀ a, x ≠ .ok a) (b : β) :
    (x >>= f) ≠ .ok b := by
  cases x with
  | error e => exact fun he => nomatch he
  | ok a => exact absurd rfl (h a)

mutual

/-- A value nested more deeply than the parser may descend is not read. -/
theorem parseValue_deep : ∀ (v : Json) {depth fuel : ℕ} {rest : PyStr}, depth < nesting v → cost v ≤ fuel →
    ReadsAsWritten v → ∀ r, parseValue depth fuel (render v ++ rest) ≠ .ok r
  | .null, _, _, _, h, _, _ | .bool _, _, _, _, h, _, _ | .int _, _, _, _, h, _, _ | .float _, _, _, _, h, _, _
  | .str _, _, _, _, h, _, _ => absurd h (Nat.not_lt_zero _)
  | .arr items, 0, fuel + 1, rest, _, _, _ => by
    rw [render_arr_append, parseValue.eq_def]
    exact fun r h => nomatch h
  | .arr [], depth + 1, _, _, h, _, _ => by
    rw [nesting, itemsNesting] at h
    omega
  | .arr (v :: vs), depth + 1, fuel + 1, rest, hdeep, hcost, hread => by
    rw [nesting, Nat.add_lt_add_iff_right] at hdeep
    rw [cost, Nat.add_le_add_iff_right] at hcost
    obtain ⟨c, t, htext, hc⟩ := startsValue_items vs hread.1
    have hitems : ∀ r, parseItems depth fuel [] (commaJoin (renderItems (v :: vs)) ++ 93 :: rest) ≠ .ok r :=
      parseItems_deep (v :: vs) hdeep hcost hread
    rw [htext, List.cons_append] at hitems
    rw [render_arr_append, htext, List.cons_append, parseValue_array hc]
    exact hitems
  | .obj fields, 0, fuel + 1, rest, _, _, hread => by
    rw [render_obj_append rest hread.1, parseValue.eq_def]
    exact fun r h => nomatch h
  | .obj [], depth + 1, _, _, h, _, _ => by
    rw [nesting, fieldsNesting] at h
    omega
  | .obj ((k, v) :: fs), depth + 1, fuel + 1, rest, hdeep, hcost, hread => by
    rw [nesting, Nat.add_lt_add_iff_right] at hdeep
    rw [cost, Nat.add_le_add_iff_right] at hcost
    have hmembers : ∀ r, parseMembers depth fuel [] (membersText ((k, v) :: fs) ++ 125 :: rest) ≠ .ok r :=
      parseMembers_deep ((k, v) :: fs) hdeep hcost hread.2
    rw [membersText_append] at hmembers
    rw [render_obj_append rest hread.1, membersText_append, parseValue_object]
    exact hmembers

theorem parseItems_deep : ∀ (vs : List Json) {depth fuel : ℕ} {items : List Json} {rest : PyStr},
    depth < itemsNesting vs → itemsCost vs ≤ fuel → ItemsReadAsWritten vs →
    ∀ r, parseItems depth fuel items (commaJoin (renderItems vs) ++ 93 :: rest) ≠ .ok r
  | [], _, _, _, _, h, _, _ => absurd h (Nat.not_lt_zero _)
  | [v], depth, fuel + 1, items, rest, hdeep, hcost, hread => by
    rw [itemsNesting, itemsNesting, Nat.max_zero] at hdeep
    rw [parseItems.eq_def]
    exact bind_fails (parseValue_deep v hdeep (by rw [itemsCost] at hcost; omega) hread.1)
  | v :: w :: vs, depth, fuel + 1, items, rest, hdeep, hcost, hread => by
    rw [itemsCost] at hcost
    have hsplit : commaJoin (renderItems (v :: w :: vs)) ++ 93 :: rest =
        render v ++ 44 :: (commaJoin (renderItems (w :: vs)) ++ 93 :: rest) := by
      simp [renderItems, commaJoin]
    by_cases hv : depth < nesting v
    · rw [hsplit, parseItems.eq_def]
      exact bind_fails (parseValue_deep v hv (by omega) hread.1)
    · have hrest : depth < itemsNesting (w :: vs) := by
        rw [itemsNesting, lt_max_iff] at hdeep
        exact hdeep.resolve_left hv
      have hvalue : parseValue depth fuel (render v ++ 44 :: (commaJoin (renderItems (w :: vs)) ++ 93 :: rest)) =
          .ok (v, 44 :: (commaJoin (renderItems (w :: vs)) ++ 93 :: rest)) :=
        parseValue_render v (not_lt.mp hv) (by omega) hread.1 (Or.inr ⟨44, _, rfl, Or.inl rfl⟩)
      have hitems : ∀ r, parseItems depth fuel (items ++ [v]) (commaJoin (renderItems (w :: vs)) ++ 93 :: rest) ≠ .ok r :=
        parseItems_deep (w :: vs) hrest (by omega) hread.2
      obtain ⟨c, t, htext, hc⟩ := startsValue_items vs hread.2.1
      rw [htext, List.cons_append] at hitems
      rw [parseItems.eq_def]
      dsimp only
      rw [hsplit, hvalue, htext, List.cons_append]
      change ∀ r, parseItems depth fuel (items ++ [v]) (skipSpace (c :: (t ++ 93 :: rest))) ≠ .ok r
      rw [skipSpace_startsValue hc]
      exact hitems

theorem parseMembers_deep : ∀ (fs : List (PyStr × Json)) {depth fuel : ℕ} {fields : List (PyStr × Json)} {rest : PyStr},
    depth < fieldsNesting fs → fieldsCost fs ≤ fuel → FieldsReadAsWritten fs →
    ∀ r, parseMembers depth fuel fields (membersText fs ++ 125 :: rest) ≠ .ok r
  | [], _, _, _, _, h, _, _ => absurd h (Nat.not_lt_zero _)
  | (k, v) :: fs, depth, fuel + 1, fields, rest, hdeep, hcost, hread => by
    rw [fieldsCost] at hcost
    obtain ⟨c, t, htext, hc⟩ := startsValue_render hread.1
    have hspace : ∀ s, skipSpace (render v ++ s) = render v ++ s := by
      intro s
      rw [htext, List.cons_append]
      exact skipSpace_startsValue hc
    rw [membersText_append]
    by_cases hv : depth < nesting v
    · rw [parseMembers.eq_def]
      change ∀ r, (parseString _ >>= _) ≠ _
      rw [parseString_escape]
      change ∀ r, (parseValue depth fuel (skipSpace (render v ++ _)) >>= _) ≠ _
      rw [hspace]
      exact bind_fails (parseValue_deep v hv (by omega) hread.1)
    · have hrest : depth < fieldsNesting fs := by
        rw [fieldsNesting, lt_max_iff] at hdeep
        exact hdeep.resolve_left hv
      cases fs with
      | nil => exact absurd hrest (Nat.not_lt_zero _)
      | cons f fs =>
        have hvalue : parseValue depth fuel (render v ++ 44 :: (membersText (f :: fs) ++ 125 :: rest)) =
            .ok (v, 44 :: (membersText (f :: fs) ++ 125 :: rest)) :=
          parseValue_render v (not_lt.mp hv) (by omega) hread.1 (Or.inr ⟨44, _, rfl, Or.inl rfl⟩)
        have hmembers : ∀ r, parseMembers depth fuel (dictSet fields k v) (membersText (f :: fs) ++ 125 :: rest) ≠ .ok r :=
          parseMembers_deep (f :: fs) hrest (by omega) hread.2
        rw [parseMembers_next (parseString_escape k _) (hspace _) hvalue]
        rw [membersText_append] at hmembers ⊢
        rw [skipSpace_startsValue rfl]
        exact hmembers

end

/-- A document is loaded exactly when it is nested no deeper than the interpreter reads. -/
theorem loads_render_iff {v w : Json} (hlegible : Legible v) (hprint : intsPrintable v = true) :
    loads (render v) = .ok w ↔ nesting v ≤ PyRuntime.recursionLimit ∧ w = sortKeys v := by
  by_cases hnesting : nesting v ≤ PyRuntime.recursionLimit
  · rw [loads_render hlegible hprint hnesting, Except.ok.injEq, eq_comm]
    simp [hnesting]
  · have hread := readsAsWritten_sortKeys v hlegible hprint
    obtain ⟨c, t, htext, hc⟩ := startsValue_render hread
    have hcost := cost_le (sortKeys v) hread
    have hdeep : PyRuntime.recursionLimit < nesting (sortKeys v) := by
      rw [nesting_sortKeys_eq]
      exact not_le.mp hnesting
    have hparse : ∀ r, parseValue PyRuntime.recursionLimit (2 * (render (sortKeys v)).length + 2)
        (render (sortKeys v) ++ []) ≠ .ok r := parseValue_deep (sortKeys v) hdeep (by omega) hread
    rw [List.append_nil] at hparse
    rw [render_sortKeys] at hparse htext
    constructor
    · intro h
      unfold loads at h
      split_ifs at h
      rw [htext, skipSpace_startsValue hc, ← htext] at h
      exact absurd h (bind_fails hparse w)
    · rintro ⟨h, -⟩
      exact absurd h hnesting

end EvaluationLab.Python
