import Mathlib.Data.List.Forall2
import Mathlib.Data.List.Induction
import Mathlib.Tactic.Common

/-! Lists whose members each name a hash of their own and the hash of the member before them. -/
namespace EvaluationLab.Structure

variable {ε η : Type}

/-- `Linked names i p events q`: the events from place `i` on, the first of them after the hash
`p`, lead to the hash `q`. -/
inductive Linked (names : ℕ → Option η → ε → η → Prop) : ℕ → Option η → List ε → Option η → Prop where
  | nil {i : ℕ} {p : Option η} : Linked names i p [] p
  | cons {i : ℕ} {p q : Option η} {e : ε} {h : η} {events : List ε} :
      names i p e h → Linked names (i + 1) (some h) events q → Linked names i p (e :: events) q

variable {names : ℕ → Option η → ε → η → Prop}

theorem Linked.snoc {i : ℕ} {p q : Option η} {events : List ε} {e : ε} {h : η} (hevents : Linked names i p events q)
    (he : names (i + events.length) q e h) : Linked names i p (events ++ [e]) (some h) := by
  induction hevents with
  | nil => exact .cons he .nil
  | @cons i p q f k events hf hrest ih =>
    refine .cons hf (ih ?_)
    rwa [List.length_cons, Nat.add_comm events.length 1, ← Nat.add_assoc] at he

theorem Linked.of_snoc {i : ℕ} {p q : Option η} {events : List ε} {e : ε} (h : Linked names i p (events ++ [e]) q) :
    ∃ r k, Linked names i p events r ∧ names (i + events.length) r e k ∧ q = some k := by
  induction events generalizing i p with
  | nil =>
    cases h with
    | @cons _ _ _ _ k _ he hrest =>
      cases hrest
      exact ⟨p, k, .nil, he, rfl⟩
  | cons f events ih =>
    cases h with
    | cons hf hrest =>
      obtain ⟨r, k, hevents, he, hq⟩ := ih hrest
      refine ⟨r, k, .cons hf hevents, ?_, hq⟩
      rwa [List.length_cons, Nat.add_comm events.length 1, ← Nat.add_assoc]

/-- Two lists that lead to one hash are related member by member, when a hash binds the event
that names it and the hash that event follows. -/
theorem Linked.binding {R : ε → ε → Prop} {i j : ℕ} {events events' : List ε} {q : Option η}
    (hbind : ∀ e ∈ events, ∀ e' ∈ events', ∀ m n p p' h, names m p e h → names n p' e' h → p = p' ∧ R e e')
    (hevents : Linked names i none events q) (hevents' : Linked names j none events' q) :
    List.Forall₂ R events events' := by
  induction events using List.reverseRecOn generalizing events' q with
  | nil =>
    cases hevents
    cases events' using List.reverseRecOn with
    | nil => exact .nil
    | append_singleton events' e' =>
      obtain ⟨_, _, _, _, hq⟩ := hevents'.of_snoc
      cases hq
  | append_singleton events e ih =>
    obtain ⟨p, h, hfront, he, rfl⟩ := hevents.of_snoc
    cases events' using List.reverseRecOn with
    | nil => cases hevents'
    | append_singleton events' e' =>
      obtain ⟨p', h', hfront', he', hh⟩ := hevents'.of_snoc
      cases hh
      obtain ⟨rfl, hlast⟩ := hbind e (by simp) e' (by simp) _ _ p p' h he he'
      have hinit := ih (fun f hf f' hf' => hbind f (by simp [hf]) f' (by simp [hf'])) hfront hfront'
      exact List.rel_append hinit (.cons hlast .nil)

end EvaluationLab.Structure
