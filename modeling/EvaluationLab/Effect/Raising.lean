import EvaluationLab.Effect.Outcome

/-! Which errors a computation may end in. -/
namespace EvaluationLab.Effect

variable {ε α β : Type} {P : ε → Prop}

/-- Every error of the computation satisfies `P`. -/
def Raises (P : ε → Prop) (x : Except ε α) : Prop := ∀ e, x = .error e → P e

@[simp] theorem raises_ok {a : α} : Raises P (.ok a) := fun _ h => nomatch h

@[simp] theorem raises_pure {a : α} : Raises P (pure a : Except ε α) := fun _ h => nomatch h

@[simp] theorem raises_error {e : ε} : Raises P (.error e : Except ε α) ↔ P e := by
  constructor
  · intro h
    exact h e rfl
  · rintro h _ ⟨⟩
    exact h

@[simp] theorem raises_throw {e : ε} : Raises P (throw e : Except ε α) ↔ P e := raises_error

@[simp] theorem raises_check {c : Prop} [Decidable c] {e : ε} : Raises P (check c e) ↔ (¬c → P e) := by
  unfold check
  split_ifs with h <;> simp [h]

/-- A sequence raises what its first part raises, and after a result what its second part does. -/
theorem raises_bind_iff {x : Except ε α} {f : α → Except ε β} :
    Raises P (x >>= f) ↔ Raises P x ∧ ∀ a, x = .ok a → Raises P (f a) := by
  cases x with
  | error e =>
    show Raises P (.error e) ↔ _
    simp
  | ok a =>
    show Raises P (f a) ↔ _
    simp

@[simp] theorem raises_map_iff {x : Except ε α} {f : α → β} : Raises P (x.map f) ↔ Raises P x := by
  cases x with
  | error e => rw [Except.map, raises_error, raises_error]
  | ok a => exact iff_of_true raises_ok raises_ok

theorem Raises.mono {Q : ε → Prop} {x : Except ε α} (h : Raises P x) (himp : ∀ e, P e → Q e) : Raises Q x :=
  fun e he => himp e (h e he)

theorem raises_mapM {f : α → Except ε β} {xs : List α} (h : ∀ x ∈ xs, Raises P (f x)) : Raises P (xs.mapM f) := by
  induction xs with
  | nil => exact raises_pure
  | cons x xs ih =>
    rw [List.forall_mem_cons] at h
    rw [List.mapM_cons, raises_bind_iff]
    refine ⟨h.1, fun y _ => ?_⟩
    rw [raises_bind_iff]
    exact ⟨ih h.2, fun _ _ => raises_pure⟩

end EvaluationLab.Effect
