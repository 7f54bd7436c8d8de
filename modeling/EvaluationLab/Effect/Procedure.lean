import EvaluationLab.Effect.Program

/-! Programs that may raise. A raised exception keeps every effect made before it, and a
handler continues in the world the exception left behind. -/
namespace EvaluationLab.Effect

/-- A program that returns a value or raises an exception of type `ε`. -/
abbrev Procedure (I : Interface) (ε α : Type) := ExceptT ε (Program I) α

variable {I : Interface} {ε W α β : Type}

namespace Procedure

/-- Hand one operation to the environment. -/
def ask (op : I.Op) : Procedure I ε (I.Answer op) :=
  ExceptT.mk (.ask op fun r => .done (.ok r))

/-- Continue with a computed result, or raise its error. -/
def ofExcept : Except ε α → Procedure I ε α := fun r => ExceptT.mk (.done r)

/-- Raise `e` unless `c` holds. -/
def require (c : Prop) [Decidable c] (e : ε) : Procedure I ε Unit :=
  if c then pure () else throw e

/-- `Q` holds of every outcome, returned or raised, whatever the environment answers. -/
def wp (M : Semantics I W) (p : Procedure I ε α) (Q : Except ε α → W → Prop) (w : W) : Prop :=
  Program.wp M p.run Q w

variable {M : Semantics I W} {Q : Except ε α → W → Prop} {w : W}

@[simp] theorem wp_pure (a : α) : wp M (pure a : Procedure I ε α) Q w ↔ Q (.ok a) w := Iff.rfl

@[simp] theorem wp_throw (e : ε) : wp M (throw e : Procedure I ε α) Q w ↔ Q (.error e) w := Iff.rfl

@[simp] theorem wp_ofExcept (r : Except ε α) : wp M (ofExcept r) Q w ↔ Q r w := Iff.rfl

@[simp] theorem wp_perform (op : I.Op) {Q : Except ε (I.Answer op) → W → Prop} :
    wp M (ask op) Q w ↔ M.allowed w op ∧ ∀ r w', M.step w op r w' → Q (.ok r) w' := Iff.rfl

/-- What follows a bound procedure: its value is passed on, its exception ends the sequence. -/
def continueWith (M : Semantics I W) (f : α → Procedure I ε β) (Q : Except ε β → W → Prop) :
    Except ε α → W → Prop
  | .ok a, w => wp M (f a) Q w
  | .error e, w => Q (.error e) w

@[simp] theorem continueWith_ok (f : α → Procedure I ε β) (Q : Except ε β → W → Prop) (a : α) (w : W) :
    continueWith M f Q (.ok a) w ↔ wp M (f a) Q w := Iff.rfl

@[simp] theorem continueWith_error (f : α → Procedure I ε β) (Q : Except ε β → W → Prop) (e : ε) (w : W) :
    continueWith M f Q (.error e) w ↔ Q (.error e) w := Iff.rfl

/-- The program that follows a bound procedure. -/
def following (f : α → Procedure I ε β) : Except ε α → Program I (Except ε β)
  | .ok a => (f a).run
  | .error e => .done (.error e)

/-- The program that follows a guarded procedure. -/
def handling (handler : ε → Procedure I ε α) : Except ε α → Program I (Except ε α)
  | .ok a => .done (.ok a)
  | .error e => (handler e).run

theorem run_bind (p : Procedure I ε α) (f : α → Procedure I ε β) :
    (p >>= f).run = p.run >>= following f := by
  show p.run >>= _ = _
  congr 1

theorem run_tryCatch (p : Procedure I ε α) (handler : ε → Procedure I ε α) :
    (tryCatch p handler : Procedure I ε α).run = p.run >>= handling handler := by
  show p.run >>= _ = _
  congr 1

@[simp] theorem wp_bind (p : Procedure I ε α) (f : α → Procedure I ε β) (Q : Except ε β → W → Prop) :
    wp M (p >>= f) Q w ↔ wp M p (continueWith M f Q) w := by
  have hr : ∀ (r : Except ε α) (w' : W), (following f r).wp M Q w' ↔ continueWith M f Q r w' := by
    intro r w'
    cases r <;> exact Iff.rfl
  unfold wp
  simp only [run_bind, Program.wp_bind, hr]

@[simp] theorem wp_tryCatch (p : Procedure I ε α) (handler : ε → Procedure I ε α) :
    wp M (tryCatch p handler) Q w ↔ wp M p (fun r w' => match r with
      | .ok a => Q (.ok a) w'
      | .error e => wp M (handler e) Q w') w := by
  have hr : ∀ (r : Except ε α) (w' : W), (handling handler r).wp M Q w' ↔ (match r with
      | .ok a => Q (.ok a) w'
      | .error e => Program.wp M (handler e).run Q w') := by
    intro r w'
    cases r <;> exact Iff.rfl
  unfold wp
  simp only [run_tryCatch, Program.wp_bind, hr]

@[simp] theorem wp_require (c : Prop) [Decidable c] (e : ε) {Q : Except ε Unit → W → Prop} :
    wp M (require c e) Q w ↔ (c → Q (.ok ()) w) ∧ (¬c → Q (.error e) w) := by
  unfold require
  split <;> rename_i h <;> simp [h]

@[simp] theorem wp_ite (c : Prop) [Decidable c] (p q : Procedure I ε α) :
    wp M (if c then p else q) Q w ↔ (c → wp M p Q w) ∧ (¬c → wp M q Q w) := by
  split <;> rename_i h <;> simp [h]

theorem wp_mono {R : Except ε α → W → Prop} {p : Procedure I ε α}
    (hp : wp M p Q w) (h : ∀ r w', Q r w' → R r w') : wp M p R w :=
  Program.wp_mono h hp

theorem wp_and {R : Except ε α → W → Prop} {p : Procedure I ε α} (hq : wp M p Q w) (hr : wp M p R w) :
    wp M p (fun r w' => Q r w' ∧ R r w') w :=
  Program.wp_and hq hr

/-- A complete execution of a procedure, ending in a value or an exception. -/
def Exec (M : Semantics I W) (p : Procedure I ε α) (w : W) (r : Except ε α) (w' : W) : Prop :=
  Program.Exec M p.run w r w'

theorem Exec.sound {p : Procedure I ε α} {r : Except ε α} {w' : W}
    (he : Exec M p w r w') (hp : wp M p Q w) : Q r w' :=
  Program.Exec.sound he hp

section Outcome

variable (env : W → (op : I.Op) → I.Answer op × W)

/-- The outcome of a procedure in an environment that answers by a function. -/
def outcome (p : Procedure I ε α) (w : W) : Except ε α × W := p.run.run env w

/-- What follows a bound procedure: its value is passed on, its exception ends the sequence. -/
def proceed (f : α → Procedure I ε β) : Except ε α × W → Except ε β × W
  | (.ok a, w) => outcome env (f a) w
  | (.error e, w) => (.error e, w)

variable {env}

@[simp] theorem proceed_ok (f : α → Procedure I ε β) (a : α) (w : W) :
    proceed env f (.ok a, w) = outcome env (f a) w := rfl

@[simp] theorem proceed_error (f : α → Procedure I ε β) (e : ε) (w : W) :
    proceed env f (.error e, w) = (.error e, w) := rfl

@[simp] theorem outcome_pure (a : α) : outcome env (pure a : Procedure I ε α) w = (.ok a, w) := rfl

@[simp] theorem outcome_throw (e : ε) : outcome env (throw e : Procedure I ε α) w = (.error e, w) := rfl

@[simp] theorem outcome_ofExcept (r : Except ε α) : outcome env (ofExcept r) w = (r, w) := rfl

@[simp] theorem outcome_ask (op : I.Op) :
    outcome env (ask op : Procedure I ε _) w = (.ok (env w op).1, (env w op).2) := rfl

theorem outcome_bind (p : Procedure I ε α) (f : α → Procedure I ε β) :
    outcome env (p >>= f) w = proceed env f (outcome env p w) := by
  unfold outcome
  rw [run_bind, Program.run_bind]
  generalize p.run.run env w = result
  obtain ⟨r, u⟩ := result
  cases r <;> rfl

theorem outcome_tryCatch (p : Procedure I ε α) (handler : ε → Procedure I ε α) :
    outcome env (tryCatch p handler) w = match outcome env p w with
      | (.ok a, u) => (.ok a, u)
      | (.error e, u) => outcome env (handler e) u := by
  unfold outcome
  rw [run_tryCatch, Program.run_bind]
  generalize p.run.run env w = result
  obtain ⟨r, u⟩ := result
  cases r <;> rfl

theorem exec_outcome (h : ∀ w op, M.step w op (env w op).1 (env w op).2) (p : Procedure I ε α) (w : W) :
    Exec M p w (outcome env p w).1 (outcome env p w).2 :=
  Program.exec_run h p.run w

end Outcome

end Procedure
end EvaluationLab.Effect
