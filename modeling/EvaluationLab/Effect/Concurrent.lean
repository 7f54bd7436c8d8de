import EvaluationLab.Effect.Program
import Mathlib.Logic.Function.Basic
import Mathlib.Logic.Relation

/-! Processes that share a state. Each makes one call after another; the operations of
different processes interleave in any order, and a call may be cut off at any point. -/
namespace EvaluationLab.Effect.Concurrent

variable {I : Interface} {ι L S H α : Type}

/-- A process: what it owns, and what is left of the call it is making. -/
structure Process (I : Interface) (L α : Type) where
  own : L
  rest : Option (Program I α) := none

structure System (I : Interface) (ι L S α : Type) where
  process : ι → Process I L α
  shared : S

variable [DecidableEq ι]

def System.set (x : System I ι L S α) (i : ι) (p : Process I L α) (shared : S) : System I ι L S α :=
  ⟨Function.update x.process i p, shared⟩

/-- One step of one process. A call stops when it is over or when its process fails. -/
inductive Step (M : Semantics I (L × S)) (calls : ι → Program I α → Prop) (x : System I ι L S α) :
    System I ι L S α → Prop where
  | begins {i : ι} {p : Program I α} : (x.process i).rest = none → calls i p →
      Step M calls x (x.set i ⟨(x.process i).own, some p⟩ x.shared)
  | asks {i : ι} {op : I.Op} {next : I.Answer op → Program I α} {r : I.Answer op} {own : L} {shared : S} :
      (x.process i).rest = some (.ask op next) → M.step ((x.process i).own, x.shared) op r (own, shared) →
      Step M calls x (x.set i ⟨own, some (next r)⟩ shared)
  | stops {i : ι} : Step M calls x (x.set i ⟨(x.process i).own, none⟩ x.shared)

abbrev Steps (M : Semantics I (L × S)) (calls : ι → Program I α → Prop) :
    System I ι L S α → System I ι L S α → Prop :=
  Relation.ReflTransGen (Step M calls)

variable {M : Semantics I (L × S)} {calls : ι → Program I α → Prop} {x y : System I ι L S α}

/-- What is left of each call meets the obligations of `G` from what its process holds. -/
def Obeys (G : Semantics I H) (held : ι → H) (x : System I ι L S α) : Prop :=
  ∀ i p, (x.process i).rest = some p → p.wp G (fun _ _ => True) (held i)

/-- An invariant between what the processes hold and the state they share: the operations
that `G` allows keep it, and so does a process that lets go of what it holds. -/
structure Protects (M : Semantics I (L × S)) (G : Semantics I H) (idle : H) (Inv : (ι → H) → S → Prop) :
    Prop where
  release : ∀ held s i, Inv held s → Inv (Function.update held i idle) s
  ask : ∀ held s i own op r own' s', Inv held s → G.allowed (held i) op → M.step (own, s) op r (own', s') →
    ∃ h, G.step (held i) op r h ∧ Inv (Function.update held i h) s'

variable {G : Semantics I H} {idle : H} {Inv : (ι → H) → S → Prop} {held : ι → H}

theorem Obeys.set (h : Obeys G held x) {i : ι} {own : L} {rest : Option (Program I α)} {shared : S} {g : H}
    (hrest : ∀ p, rest = some p → p.wp G (fun _ _ => True) g) :
    Obeys G (Function.update held i g) (x.set i ⟨own, rest⟩ shared) := by
  intro j p hp
  by_cases hj : j = i
  · subst hj
    simp only [System.set, Function.update_self] at hp ⊢
    exact hrest p hp
  · simp only [System.set, Function.update_of_ne hj] at hp ⊢
    exact h j p hp

omit [DecidableEq ι] in
theorem Obeys.allowed (h : Obeys G held x) {i : ι} {op : I.Op} {next : I.Answer op → Program I α}
    (hrest : (x.process i).rest = some (.ask op next)) : G.allowed (held i) op :=
  (h i _ hrest).1

/-- One step keeps the invariant, whichever process makes it. -/
theorem Protects.step (hG : Protects M G idle Inv)
    (hcalls : ∀ i p, calls i p → p.wp G (fun _ _ => True) idle) (hinv : Inv held x.shared)
    (hobeys : Obeys G held x) (h : Step M calls x y) : ∃ held', Inv held' y.shared ∧ Obeys G held' y := by
  cases h with
  | begins hrest hcall =>
    refine ⟨_, hG.release held _ _ hinv, hobeys.set ?_⟩
    intro p hp
    cases hp
    exact hcalls _ _ hcall
  | stops => exact ⟨_, hG.release held _ _ hinv, hobeys.set (by simp)⟩
  | asks hrest hstep =>
    obtain ⟨hallowed, hnext⟩ := hobeys _ _ hrest
    obtain ⟨g, hg, hinv'⟩ := hG.ask held _ _ _ _ _ _ _ hinv hallowed hstep
    refine ⟨_, hinv', hobeys.set ?_⟩
    intro p hp
    cases hp
    exact hnext _ _ hg

/-- Calls that obey `G` on their own keep its invariant together, in every interleaving. -/
theorem Protects.steps (hG : Protects M G idle Inv)
    (hcalls : ∀ i p, calls i p → p.wp G (fun _ _ => True) idle) (hinv : Inv held x.shared)
    (hobeys : Obeys G held x) (h : Steps M calls x y) : ∃ held', Inv held' y.shared ∧ Obeys G held' y := by
  induction h with
  | refl => exact ⟨held, hinv, hobeys⟩
  | tail _ hstep ih =>
    obtain ⟨held', hinv', hobeys'⟩ := ih
    exact hG.step hcalls hinv' hobeys' hstep

/-- A process that runs alone: a whole execution of one call is a sequence of steps. -/
theorem Steps.of_exec {i : ι} {p : Program I α} {own own' : L} {shared shared' : S} {a : α}
    (h : Program.Exec M p (own, shared) a (own', shared')) :
    Steps M calls (x.set i ⟨own, some p⟩ shared) (x.set i ⟨own', none⟩ shared') := by
  generalize hw : (own, shared) = w at h
  generalize hw' : (own', shared') = w' at h
  induction h generalizing own shared with
  | done a w =>
    obtain ⟨rfl, rfl⟩ := Prod.mk.inj (hw.trans hw'.symm)
    have hstop : Step M calls (x.set i ⟨own, some (.done a)⟩ shared)
        ((x.set i ⟨own, some (.done a)⟩ shared).set i ⟨((x.set i ⟨own, some (.done a)⟩ shared).process i).own, none⟩
          shared) := .stops
    simp only [System.set, Function.update_self, Function.update_idem] at hstop
    exact .single hstop
  | @ask op next w w' w'' r a hs _ ih =>
    subst hw
    obtain ⟨own₁, shared₁⟩ := w'
    have hask : Step M calls (x.set i ⟨own, some (.ask op next)⟩ shared)
        ((x.set i ⟨own, some (.ask op next)⟩ shared).set i ⟨own₁, some (next r)⟩ shared₁) :=
      .asks (by simp [System.set]) (by simpa [System.set] using hs)
    simp only [System.set, Function.update_idem] at hask
    exact .head hask (ih rfl hw')

end EvaluationLab.Effect.Concurrent
