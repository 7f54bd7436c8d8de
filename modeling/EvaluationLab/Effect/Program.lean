import Mathlib.Logic.Basic
import Mathlib.Tactic.Common

/-! Programs over an interface of operations. An operation is handed to the environment,
which answers it; every property here quantifies over the answers the environment may give. -/
namespace EvaluationLab.Effect

/-- The operations a program may ask of its environment, and the type of each answer. -/
structure Interface where
  Op : Type
  Answer : Op → Type

inductive Program (I : Interface) (α : Type) where
  | done (result : α)
  | ask (op : I.Op) (next : I.Answer op → Program I α)

/-- What the environment may answer and how its state changes. `allowed` is the
program's own obligation: it must hold whenever the operation is asked. -/
structure Semantics (I : Interface) (W : Type) where
  allowed : W → I.Op → Prop
  step : W → (op : I.Op) → I.Answer op → W → Prop

variable {I : Interface} {W α β : Type}

namespace Program

def bind : Program I α → (α → Program I β) → Program I β
  | done a, f => f a
  | ask op next, f => ask op fun r => (next r).bind f

instance : Monad (Program I) where
  pure := done
  bind := bind

@[simp] theorem pure_eq_done (a : α) : (pure a : Program I α) = done a := rfl

@[simp] theorem done_bind (a : α) (f : α → Program I β) : (done a >>= f) = f a := rfl

@[simp] theorem ask_bind (op : I.Op) (next : I.Answer op → Program I α) (f : α → Program I β) :
    (ask op next >>= f) = ask op fun r => next r >>= f := rfl

/-- Every obligation is met and every result satisfies `Q`, whatever is answered. -/
def wp (M : Semantics I W) : Program I α → (α → W → Prop) → W → Prop
  | done a, Q, w => Q a w
  | ask op next, Q, w => M.allowed w op ∧ ∀ r w', M.step w op r w' → (next r).wp M Q w'

/-- One operation of a running program. -/
inductive Step (M : Semantics I W) : Program I α × W → Program I α × W → Prop where
  | ask {op : I.Op} {next : I.Answer op → Program I α} {w w' : W} {r : I.Answer op} :
      M.step w op r w' → Step M (ask op next, w) (next r, w')

/-- A complete execution from a world to a result and a final world. -/
inductive Exec (M : Semantics I W) : Program I α → W → α → W → Prop where
  | done (a : α) (w : W) : Exec M (done a) w a w
  | ask {op : I.Op} {next : I.Answer op → Program I α} {w w' w'' : W} {r : I.Answer op} {a : α} :
      M.step w op r w' → Exec M (next r) w' a w'' → Exec M (ask op next) w a w''

/-- `op` is asked in world `u` somewhere in an execution from `w`. -/
inductive Asks (M : Semantics I W) (op : I.Op) (u : W) : Program I α → W → Prop where
  | here {next : I.Answer op → Program I α} : Asks M op u (ask op next) u
  | later {op' : I.Op} {next : I.Answer op' → Program I α} {w w' : W} {r : I.Answer op'} :
      M.step w op' r w' → Asks M op u (next r) w' → Asks M op u (ask op' next) w

variable {M : Semantics I W}

@[simp] theorem wp_done (a : α) (Q : α → W → Prop) (w : W) : (done a).wp M Q w ↔ Q a w := Iff.rfl

@[simp] theorem wp_ask (op : I.Op) (next : I.Answer op → Program I α) (Q : α → W → Prop) (w : W) :
    (ask op next).wp M Q w ↔ M.allowed w op ∧ ∀ r w', M.step w op r w' → (next r).wp M Q w' :=
  Iff.rfl

theorem wp_bind (p : Program I α) (f : α → Program I β) (Q : β → W → Prop) (w : W) :
    (p >>= f).wp M Q w ↔ p.wp M (fun a w' => (f a).wp M Q w') w := by
  induction p generalizing w with
  | done a => exact Iff.rfl
  | ask op next ih =>
    simp only [ask_bind, wp_ask]
    exact and_congr_right fun _ => forall_congr' fun r => forall_congr' fun w' =>
      imp_congr_right fun _ => ih r w'

theorem wp_mono {Q R : α → W → Prop} (h : ∀ a w, Q a w → R a w) {p : Program I α} {w : W}
    (hp : p.wp M Q w) : p.wp M R w := by
  induction p generalizing w with
  | done a => exact h a w hp
  | ask op next ih => exact ⟨hp.1, fun r w' hs => ih r (hp.2 r w' hs)⟩

theorem wp_and {Q R : α → W → Prop} {p : Program I α} {w : W}
    (hq : p.wp M Q w) (hr : p.wp M R w) : p.wp M (fun a w' => Q a w' ∧ R a w') w := by
  induction p generalizing w with
  | done a => exact ⟨hq, hr⟩
  | ask op next ih => exact ⟨hq.1, fun r w' hs => ih r (hq.2 r w' hs) (hr.2 r w' hs)⟩

/-- A step keeps the weakest precondition, so it is an invariant of the running program. -/
theorem wp_step {Q : α → W → Prop} {p p' : Program I α} {w w' : W}
    (hp : p.wp M Q w) (hs : Step M (p, w) (p', w')) : p'.wp M Q w' := by
  cases hs with
  | ask h => exact hp.2 _ _ h

theorem Exec.sound {Q : α → W → Prop} {p : Program I α} {w w' : W} {a : α}
    (he : Exec M p w a w') (hp : p.wp M Q w) : Q a w' := by
  induction he with
  | done a w => exact hp
  | ask hs _ ih => exact ih (hp.2 _ _ hs)

/-- The weakest precondition is exact once the obligations hold. -/
theorem wp_of_exec {Q : α → W → Prop} {p : Program I α} {w : W}
    (ha : ∀ op u, Asks M op u p w → M.allowed u op)
    (hq : ∀ a w', Exec M p w a w' → Q a w') : p.wp M Q w := by
  induction p generalizing w with
  | done a => exact hq a w (.done a w)
  | ask op next ih =>
    refine ⟨ha op w .here, fun r w' hs => ih r ?_ ?_⟩
    · exact fun op' u hu => ha op' u (.later hs hu)
    · exact fun a w'' he => hq a w'' (.ask hs he)

theorem Asks.allowed {Q : α → W → Prop} {p : Program I α} {w u : W} {op : I.Op}
    (hu : Asks M op u p w) (hp : p.wp M Q w) : M.allowed u op := by
  induction hu with
  | here => exact hp.1
  | later hs _ ih => exact ih (hp.2 _ _ hs)

/-- An environment that may do more has more executions. -/
theorem Exec.mono {M' : Semantics I W} (h : ∀ w op r w', M.step w op r w' → M'.step w op r w') {p : Program I α}
    {w w' : W} {a : α} (he : Exec M p w a w') : Exec M' p w a w' := by
  induction he with
  | done a w => exact .done a w
  | ask hs _ ih => exact .ask (h _ _ _ _ hs) ih

theorem Exec.bind {p : Program I α} {f : α → Program I β} {w w' w'' : W} {a : α} {b : β}
    (hp : Exec M p w a w') (hf : Exec M (f a) w' b w'') : Exec M (p >>= f) w b w'' := by
  induction hp with
  | done a w => exact hf
  | ask hs _ ih => exact .ask hs (ih hf)

theorem Exec.of_bind {p : Program I α} {f : α → Program I β} {w w'' : W} {b : β}
    (h : Exec M (p >>= f) w b w'') : ∃ a w', Exec M p w a w' ∧ Exec M (f a) w' b w'' := by
  induction p generalizing w with
  | done a => exact ⟨a, w, .done a w, h⟩
  | ask op next ih =>
    cases h with
    | ask hs he =>
      obtain ⟨a, w', hp, hf⟩ := ih _ he
      exact ⟨a, w', .ask hs hp, hf⟩

/-- Run a program against an environment that answers by a function. -/
def run (env : W → (op : I.Op) → I.Answer op × W) : Program I α → W → α × W
  | done a, w => (a, w)
  | ask op next, w => (next (env w op).1).run env (env w op).2

theorem run_bind (env : W → (op : I.Op) → I.Answer op × W) (p : Program I α) (f : α → Program I β) (w : W) :
    (p >>= f).run env w = (f (p.run env w).1).run env (p.run env w).2 := by
  induction p generalizing w with
  | done a => rfl
  | ask op next ih => exact ih _ _

theorem exec_run {env : W → (op : I.Op) → I.Answer op × W}
    (h : ∀ w op, M.step w op (env w op).1 (env w op).2) (p : Program I α) (w : W) :
    Exec M p w (p.run env w).1 (p.run env w).2 := by
  induction p generalizing w with
  | done a => exact .done a w
  | ask op next ih => exact .ask (h w op) (ih _ _)

end Program
end EvaluationLab.Effect
