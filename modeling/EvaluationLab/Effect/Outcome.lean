import Mathlib.Data.List.Forall2
import Mathlib.Logic.Basic
import Mathlib.Tactic.Common

/-! Checks that either pass or raise, and what a passed sequence of checks establishes. -/
namespace EvaluationLab.Effect

variable {ε α β : Type}

/-- Raise `e` unless `c` holds. -/
def check (c : Prop) [Decidable c] (e : ε) : Except ε Unit := if c then .ok () else .error e

@[simp] theorem check_eq_ok_iff {c : Prop} [Decidable c] {e : ε} {u : Unit} :
    check c e = .ok u ↔ c := by
  unfold check
  split_ifs with h <;> simp [h]

theorem check_of {c : Prop} [Decidable c] {e : ε} (h : c) : check c e = .ok () := check_eq_ok_iff.mpr h

theorem bind_eq_ok_iff {x : Except ε α} {f : α → Except ε β} {b : β} :
    (x >>= f) = .ok b ↔ ∃ a, x = .ok a ∧ f a = .ok b := by
  cases x <;> simp [bind, Except.bind]

@[simp] theorem pure_eq_ok_iff {a b : α} : (pure a : Except ε α) = .ok b ↔ a = b := by
  simp [pure, Except.pure]

/-- A step without a result only contributes its success. -/
theorem exists_unit_iff {p : Unit → Prop} : (∃ u, p u) ↔ p () := by
  constructor
  · rintro ⟨⟨⟩, h⟩
    exact h
  · intro h
    exact ⟨(), h⟩

/-- A pass over a list succeeds exactly when it succeeds on every member. -/
theorem forM_eq_ok_iff {xs : List α} {f : α → Except ε Unit} {u : Unit} :
    xs.forM f = .ok u ↔ ∀ x ∈ xs, f x = .ok () := by
  induction xs with
  | nil =>
    show (pure () : Except ε Unit) = .ok u ↔ _
    simp
  | cons x xs ih =>
    show (f x >>= fun _ => xs.forM f) = .ok u ↔ _
    rw [bind_eq_ok_iff, exists_unit_iff, ih, List.forall_mem_cons]

/-- What each step of a fold establishes and later steps keep holds of the result. -/
theorem foldlM_establishes {f : β → α → Except ε β} {Q : α → β → Prop}
    (hstep : ∀ b x b', f b x = .ok b' → Q x b') (hkeep : ∀ b x b' y, f b x = .ok b' → Q y b → Q y b')
    {xs : List α} {b b' : β} (h : xs.foldlM f b = .ok b') :
    (∀ x ∈ xs, Q x b') ∧ ∀ y, Q y b → Q y b' := by
  induction xs generalizing b with
  | nil =>
    have hb : b = b' := pure_eq_ok_iff.mp h
    subst hb
    exact ⟨by simp, fun _ hy => hy⟩
  | cons x xs ih =>
    rw [List.foldlM_cons] at h
    obtain ⟨b₁, hx, hrest⟩ := bind_eq_ok_iff.mp h
    obtain ⟨hall, hkept⟩ := ih hrest
    constructor
    · rw [List.forall_mem_cons]
      exact ⟨hkept x (hstep b x b₁ hx), hall⟩
    · intro y hy
      exact hkept y (hkeep b x b₁ y hx hy)

/-- A fold that collects the members it accepts, each key once, returns all of them. -/
theorem foldlM_collect {κ : Type} {f : List α → α → Except ε (List α)} {P : α → Prop} {key : α → κ}
    (hf : ∀ acc x r, f acc x = .ok r ↔ P x ∧ key x ∉ acc.map key ∧ r = acc ++ [x])
    {xs acc r : List α} :
    xs.foldlM f acc = .ok r ↔
      (∀ x ∈ xs, P x) ∧ (∀ x ∈ xs, key x ∉ acc.map key) ∧ (xs.map key).Nodup ∧ r = acc ++ xs := by
  induction xs generalizing acc with
  | nil =>
    rw [List.foldlM_nil, pure_eq_ok_iff]
    simp [eq_comm]
  | cons x xs ih =>
    have hkeys : ∀ y, key y ∉ (acc ++ [x]).map key ↔ key y ∉ acc.map key ∧ key y ≠ key x := by
      intro y
      rw [List.map_append, List.mem_append, not_or, List.map_singleton, List.mem_singleton]
    have hhead : (∀ y ∈ xs, key y ≠ key x) ↔ key x ∉ xs.map key := by
      rw [List.mem_map]
      push Not
      rfl
    rw [List.foldlM_cons, bind_eq_ok_iff]
    simp only [hf, ih, List.forall_mem_cons, List.map_cons, List.nodup_cons, ← hhead]
    constructor
    · rintro ⟨_, ⟨hx, hnew, rfl⟩, hall, hfresh, hnodup, rfl⟩
      have hpart := fun y hy => (hkeys y).mp (hfresh y hy)
      exact ⟨⟨hx, hall⟩, ⟨hnew, fun y hy => (hpart y hy).1⟩, ⟨fun y hy => (hpart y hy).2, hnodup⟩, by simp⟩
    · rintro ⟨⟨hx, hall⟩, ⟨hnew, hfresh⟩, ⟨hnot, hnodup⟩, rfl⟩
      exact ⟨acc ++ [x], ⟨hx, hnew, rfl⟩, hall, fun y hy => (hkeys y).mpr ⟨hfresh y hy, hnot y hy⟩, hnodup,
        by simp⟩

/-- A traversal succeeds with the results of the members, in order. -/
theorem mapM_eq_ok_iff {f : α → Except ε β} {xs : List α} {ys : List β} :
    xs.mapM f = .ok ys ↔ List.Forall₂ (fun x y => f x = .ok y) xs ys := by
  induction xs generalizing ys with
  | nil =>
    rw [List.mapM_nil, pure_eq_ok_iff, List.forall₂_nil_left_iff, eq_comm]
  | cons x xs ih =>
    rw [List.mapM_cons]
    simp only [bind_eq_ok_iff, pure_eq_ok_iff, ih, List.forall₂_cons_left_iff]
    constructor
    · rintro ⟨y, hy, rest, hrest, rfl⟩
      exact ⟨y, rest, hy, hrest, rfl⟩
    · rintro ⟨y, rest, hy, hrest, rfl⟩
      exact ⟨y, hy, rest, hrest, rfl⟩

theorem mapM_ok_of_forall {f : α → Except ε β} {xs : List α} (h : ∀ x ∈ xs, ∃ y, f x = .ok y) :
    ∃ ys, xs.mapM f = .ok ys := by
  induction xs with
  | nil => exact ⟨[], rfl⟩
  | cons x xs ih =>
    rw [List.forall_mem_cons] at h
    obtain ⟨⟨y, hy⟩, htail⟩ := h
    obtain ⟨ys, hys⟩ := ih htail
    refine ⟨y :: ys, ?_⟩
    rw [List.mapM_cons, hy, hys]
    rfl

theorem mapM_congr {f f' : α → Except ε β} {xs : List α} (h : ∀ x ∈ xs, f x = f' x) :
    xs.mapM f = xs.mapM f' := by
  induction xs with
  | nil => rfl
  | cons x xs ih =>
    rw [List.forall_mem_cons] at h
    rw [List.mapM_cons, List.mapM_cons, h.1, ih h.2]

/-- Two traversals with one result agree on every member. -/
theorem mapM_agree {f f' : α → Except ε β} {xs : List α} {ys : List β} (h : xs.mapM f = .ok ys)
    (h' : xs.mapM f' = .ok ys) : ∀ x ∈ xs, ∃ y, f x = .ok y ∧ f' x = .ok y := by
  rw [mapM_eq_ok_iff] at h h'
  induction h with
  | nil => simp
  | @cons x y xs ys hxy _ ih =>
    obtain ⟨hxy', htail⟩ := List.forall₂_cons.mp h'
    rw [List.forall_mem_cons]
    exact ⟨⟨y, hxy, hxy'⟩, ih htail⟩

section Aligned
variable {R : α → β → Prop} {xs : List α} {ys : List β}

theorem exists_of_mem_left (h : List.Forall₂ R xs ys) {x : α} (hx : x ∈ xs) : ∃ y ∈ ys, R x y := by
  induction h with
  | nil => cases hx
  | cons hxy _ ih =>
    rcases List.mem_cons.mp hx with rfl | hx
    · exact ⟨_, List.mem_cons_self, hxy⟩
    · obtain ⟨y, hy, hr⟩ := ih hx
      exact ⟨y, List.mem_cons_of_mem _ hy, hr⟩

theorem exists_of_mem_right (h : List.Forall₂ R xs ys) {y : β} (hy : y ∈ ys) : ∃ x ∈ xs, R x y := by
  obtain ⟨x, hx, hr⟩ := exists_of_mem_left h.flip hy
  exact ⟨x, hx, hr⟩

/-- The members that align with a selection of the results. -/
theorem forall₂_filter_right (h : List.Forall₂ R xs ys) (p : β → Bool) :
    ∃ zs, zs.Sublist xs ∧ List.Forall₂ R zs (ys.filter p) := by
  induction h with
  | nil => exact ⟨[], .slnil, .nil⟩
  | @cons x y xs ys hxy _ ih =>
    obtain ⟨zs, hsub, hall⟩ := ih
    by_cases hp : p y = true
    · refine ⟨x :: zs, hsub.cons_cons x, ?_⟩
      rw [List.filter_cons_of_pos hp]
      exact .cons hxy hall
    · refine ⟨zs, hsub.cons x, ?_⟩
      rw [List.filter_cons_of_neg hp]
      exact hall

/-- Lists are aligned through a list between them exactly when their members are. -/
theorem forall₂_through {γ : Type} {S : α → γ → Prop} {T : γ → β → Prop} {xs : List α} {ys : List β} :
    (∃ zs, List.Forall₂ S xs zs ∧ List.Forall₂ T zs ys) ↔ List.Forall₂ (fun x y => ∃ z, S x z ∧ T z y) xs ys := by
  constructor
  · rintro ⟨zs, hxz, hzy⟩
    induction hxz generalizing ys with
    | nil =>
      cases hzy
      exact .nil
    | cons hx _ ih =>
      cases hzy with
      | cons hy hrest => exact .cons ⟨_, hx, hy⟩ (ih hrest)
  · intro h
    induction h with
    | nil => exact ⟨[], .nil, .nil⟩
    | cons hxy _ ih =>
      obtain ⟨z, hx, hy⟩ := hxy
      obtain ⟨zs, hxz, hzy⟩ := ih
      exact ⟨z :: zs, .cons hx hxz, .cons hy hzy⟩

/-- Aligned lists by a function of the members are the list and its image. -/
theorem forall₂_eq_map_iff {f : α → β} {xs : List α} {ys : List β} :
    List.Forall₂ (fun x y => f x = y) xs ys ↔ xs.map f = ys := by
  rw [← List.forall₂_map_left_iff (f := f) (R := (· = ·)), List.forall₂_eq_eq_eq]

end Aligned

theorem mapM_mem {f : α → Except ε β} {xs : List α} {ys : List β} (h : xs.mapM f = .ok ys) {y : β}
    (hy : y ∈ ys) : ∃ x ∈ xs, f x = .ok y := exists_of_mem_right (mapM_eq_ok_iff.mp h) hy

theorem mem_mapM {f : α → Except ε β} {xs : List α} {ys : List β} (h : xs.mapM f = .ok ys) {x : α}
    (hx : x ∈ xs) : ∃ y ∈ ys, f x = .ok y := exists_of_mem_left (mapM_eq_ok_iff.mp h) hx

end EvaluationLab.Effect
