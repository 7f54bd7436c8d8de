import EvaluationLab.Effect.Outcome
import Mathlib.Data.List.Induction
import Mathlib.Data.List.Nodup

/-! Entries collected under keys: the first of a key is kept, an equal one counted, another one refused. -/
namespace EvaluationLab.Structure
open Effect

variable {α κ ε : Type}

section Definitions

variable (key : α → κ)

/-- What was kept, and how many repetitions were met. -/
def keepFirst [DecidableEq α] [DecidableEq κ] (clash : ε) (kept : List α × ℕ) (x : α) : Except ε (List α × ℕ) :=
  match kept.1.find? fun y => key y = key x with
  | none => .ok (kept.1 ++ [x], kept.2)
  | some y => if y = x then .ok (kept.1, kept.2 + 1) else .error clash

/-- Entries of one key are the same entry. -/
def Consistent (xs : List α) : Prop := ∀ x ∈ xs, ∀ y ∈ xs, key x = key y → x = y

/-- What has been kept of some entries: each of them, once for its key; the rest were repetitions. -/
structure Collected (xs : List α) (kept : List α × ℕ) : Prop where
  keys : (kept.1.map key).Nodup
  mem : ∀ x, x ∈ kept.1 ↔ x ∈ xs
  count : kept.1.length + kept.2 = xs.length

end Definitions

variable {key : α → κ} {clash : ε} {xs : List α} {kept : List α × ℕ}

theorem Collected.nil : Collected key [] ([], 0) := ⟨List.nodup_nil, fun _ => Iff.rfl, rfl⟩

theorem consistent_append_iff {x : α} :
    Consistent key (xs ++ [x]) ↔ Consistent key xs ∧ ∀ y ∈ xs, key y = key x → y = x := by
  constructor
  · intro h
    refine ⟨fun y hy z hz => h y (List.mem_append_left _ hy) z (List.mem_append_left _ hz), fun y hy => ?_⟩
    exact h y (List.mem_append_left _ hy) x (List.mem_append_right _ (List.mem_singleton_self x))
  · rintro ⟨hxs, hx⟩ y hy z hz hkey
    rw [List.mem_append, List.mem_singleton] at hy hz
    rcases hy with hy | rfl <;> rcases hz with hz | rfl
    · exact hxs y hy z hz hkey
    · exact hx y hy hkey
    · exact (hx z hz hkey.symm).symm
    · rfl

variable [DecidableEq κ]

theorem find?_key_eq_none {ys : List α} {x : α} : (ys.find? fun y => key y = key x) = none ↔ ∀ y ∈ ys, key y ≠ key x := by
  rw [List.find?_eq_none]
  simp only [decide_eq_true_eq, ne_eq]

variable [DecidableEq α]

/-- One more entry is taken exactly when no other entry has its key. -/
theorem Collected.step (h : Collected key xs kept) (x : α) :
    ((∃ kept', keepFirst key clash kept x = .ok kept') ↔ ∀ y ∈ xs, key y = key x → y = x) ∧
    ∀ kept', keepFirst key clash kept x = .ok kept' → Collected key (xs ++ [x]) kept' := by
  unfold keepFirst
  cases hfound : kept.1.find? fun y => decide (key y = key x) with
  | none =>
    have hfresh := find?_key_eq_none.mp hfound
    refine ⟨iff_of_true ⟨_, rfl⟩ fun y hy hkey => absurd hkey (hfresh y ((h.mem y).mpr hy)), ?_⟩
    rintro kept' ⟨⟩
    refine ⟨?_, fun y => ?_, ?_⟩
    · rw [List.map_append, List.map_singleton, List.nodup_append]
      refine ⟨h.keys, List.nodup_singleton _, fun k hk l hl hkl => ?_⟩
      obtain ⟨y, hy, rfl⟩ := List.mem_map.mp hk
      rw [List.mem_singleton.mp hl] at hkl
      exact hfresh y hy hkl
    · rw [List.mem_append, List.mem_append, h.mem]
    · rw [List.length_append, List.length_append, ← h.count]
      omega
  | some y =>
    have hy : y ∈ xs := (h.mem y).mp (List.mem_of_find?_eq_some hfound)
    have hkey := List.find?_some hfound
    rw [decide_eq_true_eq] at hkey
    dsimp only
    by_cases hsame : y = x
    · subst hsame
      rw [if_pos rfl]
      refine ⟨iff_of_true ⟨_, rfl⟩ fun z hz hzkey => ?_, ?_⟩
      · exact List.inj_on_of_nodup_map h.keys ((h.mem z).mpr hz) ((h.mem y).mpr hy) hzkey
      · rintro kept' ⟨⟩
        refine ⟨h.keys, fun z => ?_, ?_⟩
        · rw [List.mem_append, List.mem_singleton, h.mem]
          exact ⟨Or.inl, fun hz => hz.elim id fun hz => hz ▸ hy⟩
        · rw [List.length_append, List.length_singleton, ← h.count]
          exact (Nat.add_assoc _ _ _).symm
    · rw [if_neg hsame]
      refine ⟨iff_of_false (fun ⟨_, he⟩ => nomatch he) fun hall => hsame (hall y hy hkey), fun _ he => nomatch he⟩

/-- A list is collected exactly when it is consistent, and then into what `Collected` says. -/
theorem keepFirst_collects (xs : List α) :
    ((∃ kept, xs.foldlM (keepFirst key clash) ([], 0) = .ok kept) ↔ Consistent key xs) ∧
    ∀ kept, xs.foldlM (keepFirst key clash) ([], 0) = .ok kept → Collected key xs kept := by
  induction xs using List.reverseRecOn with
  | nil =>
    refine ⟨iff_of_true ⟨_, rfl⟩ fun x hx => absurd hx List.not_mem_nil, ?_⟩
    rintro kept ⟨⟩
    exact Collected.nil
  | append_singleton xs x ih =>
    obtain ⟨hconsistent, hkept⟩ := ih
    simp only [List.foldlM_append, bind_eq_ok_iff, List.foldlM_cons, List.foldlM_nil, pure_eq_ok_iff, exists_eq_right]
    rw [consistent_append_iff]
    constructor
    · constructor
      · rintro ⟨kept', kept, hxs, hx⟩
        exact ⟨hconsistent.mp ⟨kept, hxs⟩, ((hkept kept hxs).step x).1.mp ⟨kept', hx⟩⟩
      · rintro ⟨hall, hlast⟩
        obtain ⟨kept, hxs⟩ := hconsistent.mpr hall
        obtain ⟨kept', hx⟩ := ((hkept kept hxs).step x).1.mpr hlast
        exact ⟨kept', kept, hxs, hx⟩
    · rintro kept' ⟨kept, hxs, hx⟩
      exact ((hkept kept hxs).step x).2 kept' hx

omit [DecidableEq κ] [DecidableEq α] in
/-- Reading entries one after another while they are collected is reading all of them, then collecting. -/
theorem foldlM_reading {β : Type} {read : β → Except ε α} {step : List α × ℕ → α → Except ε (List α × ℕ)}
    {items : List β} {kept kept' : List α × ℕ} :
    items.foldlM (fun kept item => do step kept (← read item)) kept = .ok kept' ↔
      ∃ xs, items.mapM read = .ok xs ∧ xs.foldlM step kept = .ok kept' := by
  induction items generalizing kept with
  | nil => simp [pure_eq_ok_iff]
  | cons item items ih =>
    simp only [List.foldlM_cons, List.mapM_cons, bind_eq_ok_iff, pure_eq_ok_iff, ih]
    constructor
    · rintro ⟨kept₁, ⟨x, hx, hstep⟩, xs, hxs, hrest⟩
      refine ⟨x :: xs, ⟨x, hx, xs, hxs, rfl⟩, ?_⟩
      rw [List.foldlM_cons, bind_eq_ok_iff]
      exact ⟨kept₁, hstep, hrest⟩
    · rintro ⟨_, ⟨x, hx, xs, hxs, rfl⟩, hrest⟩
      rw [List.foldlM_cons, bind_eq_ok_iff] at hrest
      obtain ⟨kept₁, hstep, hrest⟩ := hrest
      exact ⟨kept₁, ⟨x, hx, hstep⟩, xs, hxs, hrest⟩

end EvaluationLab.Structure
