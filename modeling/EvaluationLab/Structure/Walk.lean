import Mathlib.Data.Finset.Card
import Mathlib.Data.Finset.Dedup
import Mathlib.Logic.Relation
import Mathlib.Tactic.Common

/-! Walks along a partial successor: none comes back to where it was exactly when each of them ends. -/
namespace EvaluationLab.Structure

variable {α : Type} {next : α → Option α} {a b : α} {m n : ℕ}

/-- The node `n` steps after `a`, if the walk goes that far. -/
def walk (next : α → Option α) : ℕ → α → Option α
  | 0, a => some a
  | n + 1, a => (next a).bind (walk next n)

/-- One step of the walk. -/
def Follows (next : α → Option α) (a b : α) : Prop := next a = some b

theorem walk_add (m n : ℕ) (a : α) : walk next (m + n) a = (walk next m a).bind (walk next n) := by
  induction m generalizing a with
  | zero => rw [Nat.zero_add, walk, Option.bind_some]
  | succ m ih =>
    rw [Nat.add_right_comm, walk, walk, Option.bind_assoc]
    congr 1
    funext b
    exact ih b

/-- A walk that ends has ended ever after. -/
theorem walk_none_of_le (h : walk next m a = none) (hle : m ≤ n) : walk next n a = none := by
  obtain ⟨k, rfl⟩ := Nat.exists_eq_add_of_le hle
  rw [walk_add, h, Option.bind_none]

theorem exists_of_walk (h : walk next n a = some b) (hle : m ≤ n) : ∃ c, walk next m a = some c := by
  cases hm : walk next m a with
  | none =>
    rw [walk_none_of_le hm hle] at h
    cases h
  | some c => exact ⟨c, rfl⟩

theorem transGen_iff_walk : Relation.TransGen (Follows next) a b ↔ ∃ n, walk next (n + 1) a = some b := by
  constructor
  · intro h
    induction h with
    | single hab => exact ⟨0, by rw [walk, hab]; rfl⟩
    | @tail b c _ hbc ih =>
      obtain ⟨n, hn⟩ := ih
      refine ⟨n + 1, ?_⟩
      rw [walk_add, hn, Option.bind_some, walk, hbc]
      rfl
  · rintro ⟨n, hn⟩
    induction n generalizing a with
    | zero =>
      cases hnext : next a with
      | none =>
        rw [walk, hnext] at hn
        cases hn
      | some c =>
        rw [walk, hnext] at hn
        cases hn
        exact .single hnext
    | succ n ih =>
      cases hnext : next a with
      | none =>
        rw [walk, hnext] at hn
        cases hn
      | some c =>
        rw [walk, hnext] at hn
        exact .head hnext (ih hn)

/-- A walk that comes back to its start never ends. -/
theorem walk_cycle {k : ℕ} (h : walk next k a = some a) (n : ℕ) : walk next (k * n) a = some a := by
  induction n with
  | zero => rfl
  | succ n ih => rw [Nat.mul_succ, walk_add, ih, Option.bind_some, h]

/-- Among `n` nodes a walk comes back to none of them exactly when it has ended after `n` steps. -/
theorem acyclic_iff_walk_ends {nodes : List α} (hnodes : ∀ a b, next a = some b → a ∈ nodes) :
    (∀ a, ¬Relation.TransGen (Follows next) a a) ↔ ∀ a, walk next (nodes.length + 1) a = none := by
  classical
  constructor
  · intro hacyclic a
    by_contra hlong
    obtain ⟨last, hlast⟩ := Option.ne_none_iff_exists'.mp hlong
    have hreach : ∀ i ≤ nodes.length, ∃ c, walk next i a = some c ∧ c ∈ nodes := by
      intro i hi
      obtain ⟨c, hc⟩ := exists_of_walk hlast (show i + 1 ≤ nodes.length + 1 by omega)
      rw [walk_add] at hc
      cases hi' : walk next i a with
      | none =>
        rw [hi'] at hc
        cases hc
      | some d =>
        rw [hi', Option.bind_some, walk] at hc
        cases hnext : next d with
        | none =>
          rw [hnext] at hc
          cases hc
        | some e => exact ⟨d, rfl, hnodes d e hnext⟩
    have : Nonempty α := ⟨a⟩
    choose! node hat hmem using hreach
    -- more steps than nodes: two of them are at the same node
    have hcard : nodes.toFinset.card < (Finset.range (nodes.length + 1)).card := by
      rw [Finset.card_range]
      exact Nat.lt_succ_of_le (List.toFinset_card_le nodes)
    obtain ⟨i, hi, j, hj, hne, heq⟩ := Finset.exists_ne_map_eq_of_card_lt_of_maps_to hcard (f := node)
      (fun i hi => List.mem_toFinset.mpr (hmem i (Nat.lt_succ_iff.mp (Finset.mem_range.mp hi))))
    rw [Finset.mem_range, Nat.lt_succ_iff] at hi hj
    have hback : ∀ i j, i ≤ nodes.length → j ≤ nodes.length → i < j → node i = node j → False := by
      intro i j hi hj hlt heq
      obtain ⟨k, rfl⟩ := Nat.exists_eq_add_of_lt hlt
      have hj' := hat _ hj
      rw [← heq, Nat.add_assoc, walk_add, hat i hi, Option.bind_some] at hj'
      exact hacyclic (node i) (transGen_iff_walk.mpr ⟨k, hj'⟩)
    rcases Nat.lt_or_gt_of_ne hne with hlt | hlt
    · exact hback i j hi hj hlt heq
    · exact hback j i hj hi hlt heq.symm
  · intro hends a hcycle
    obtain ⟨k, hk⟩ := transGen_iff_walk.mp hcycle
    have hforever := walk_cycle hk (nodes.length + 1)
    rw [walk_none_of_le (hends a) (Nat.le_mul_of_pos_left _ (Nat.succ_pos k))] at hforever
    cases hforever

end EvaluationLab.Structure
