import Mathlib.Data.List.Nodup
import Mathlib.Data.List.Perm.Basic

/-! The join of two lists of keyed values, whose keys do not repeat. -/
namespace EvaluationLab.Structure

variable {κ α β : Type} [BEq κ] [LawfulBEq κ] {left : List (κ × α)} {right : List (κ × β)}

theorem lookup_iff_mem {entries : List (κ × α)} (h : (entries.map Prod.fst).Nodup) {k : κ} {a : α} :
    entries.lookup k = some a ↔ (k, a) ∈ entries := by
  induction entries with
  | nil => simp
  | cons e es ih =>
    obtain ⟨k', a'⟩ := e
    rw [List.map_cons, List.nodup_cons] at h
    rw [List.lookup_cons, List.mem_cons]
    by_cases hk : k = k'
    · subst hk
      have habsent : (k, a) ∉ es := fun hm => h.1 (List.mem_map.mpr ⟨_, hm, rfl⟩)
      simp [habsent, eq_comm]
    · rw [beq_eq_false_iff_ne.mpr hk, ih h.2]
      simp [hk]

theorem lookup_eq_of_perm {entries entries' : List (κ × α)} (h : entries.Perm entries') (hkeys : (entries.map Prod.fst).Nodup)
    (k : κ) : entries.lookup k = entries'.lookup k := by
  apply Option.ext
  intro a
  rw [lookup_iff_mem hkeys, lookup_iff_mem ((h.map Prod.fst).nodup_iff.mp hkeys), h.mem_iff]

/-- The values of two lists under their common keys, in the order of the left one. -/
def joined (left : List (κ × α)) (right : List (κ × β)) : List (κ × α × β) :=
  left.filterMap fun l => (right.lookup l.1).map fun r => (l.1, l.2, r)

theorem mem_joined (hright : (right.map Prod.fst).Nodup) {k : κ} {a : α} {b : β} :
    (k, a, b) ∈ joined left right ↔ (k, a) ∈ left ∧ (k, b) ∈ right := by
  rw [joined, List.mem_filterMap]
  constructor
  · rintro ⟨⟨k', a'⟩, hl, hr⟩
    obtain ⟨b', hb, heq⟩ := Option.map_eq_some_iff.mp hr
    cases heq
    exact ⟨hl, (lookup_iff_mem hright).mp hb⟩
  · rintro ⟨hl, hr⟩
    exact ⟨(k, a), hl, by rw [(lookup_iff_mem hright).mpr hr]; rfl⟩

omit [LawfulBEq κ] in
theorem keys_joined_sublist (left : List (κ × α)) (right : List (κ × β)) :
    ((joined left right).map Prod.fst).Sublist (left.map Prod.fst) := by
  induction left with
  | nil => exact List.Sublist.refl _
  | cons l ls ih =>
    have hcons : joined (l :: ls) right = ((right.lookup l.1).map fun r => (l.1, l.2, r)).toList ++ joined ls right := by
      cases h : right.lookup l.1 <;> simp [joined, h]
    rw [hcons, List.map_append, List.map_cons]
    cases right.lookup l.1 with
    | none => exact ih.cons _
    | some r => exact ih.cons_cons _

omit [LawfulBEq κ] in
theorem nodup_keys_joined (hleft : (left.map Prod.fst).Nodup) : ((joined left right).map Prod.fst).Nodup :=
  hleft.sublist (keys_joined_sublist left right)

theorem joined_perm {left' : List (κ × α)} {right' : List (κ × β)} (hl : left.Perm left') (hr : right.Perm right')
    (hright : (right.map Prod.fst).Nodup) : (joined left right).Perm (joined left' right') := by
  have hlookup : ∀ k, right.lookup k = right'.lookup k := lookup_eq_of_perm hr hright
  simp only [joined, hlookup]
  exact hl.filterMap _

/-- The join from the other side has the same entries. -/
theorem joined_swap (hleft : (left.map Prod.fst).Nodup) (hright : (right.map Prod.fst).Nodup) :
    (joined right left).Perm ((joined left right).map fun e => (e.1, e.2.swap)) := by
  have hinj : Function.Injective fun e : κ × α × β => (e.1, e.2.swap) := by
    rintro ⟨k, a, b⟩ ⟨k', a', b'⟩ h
    cases h
    rfl
  rw [List.perm_ext_iff_of_nodup ((nodup_keys_joined hright).of_map _)
    (((nodup_keys_joined hleft).of_map _).map hinj)]
  rintro ⟨k, b, a⟩
  rw [mem_joined hleft, List.mem_map]
  constructor
  · rintro ⟨hr, hl⟩
    exact ⟨(k, a, b), (mem_joined hright).mpr ⟨hl, hr⟩, rfl⟩
  · rintro ⟨⟨k', a', b'⟩, hmem, heq⟩
    cases heq
    exact (mem_joined hright).mp hmem |>.symm

end EvaluationLab.Structure
