import EvaluationLab.Effect.Outcome
import Mathlib.Data.List.Chain
import Mathlib.Data.List.Induction
import Mathlib.Data.List.Nodup

/-! Lists grown at their end: each member is admitted on sight of the members before it. -/
namespace EvaluationLab.Structure
open Effect

variable {α β ε κ : Type}

/-- Every member was admitted after those before it. -/
inductive Grown (admits : List α → α → Prop) : List α → Prop where
  | nil : Grown admits []
  | snoc {l : List α} {a : α} : Grown admits l → admits l a → Grown admits (l ++ [a])

namespace Grown

variable {admits admits' : List α → α → Prop} {l : List α}

theorem snoc_iff {a : α} : Grown admits (l ++ [a]) ↔ Grown admits l ∧ admits l a := by
  constructor
  · intro h
    generalize hm : l ++ [a] = m at h
    cases h with
    | nil => simp at hm
    | @snoc l' a' hl ha =>
      obtain ⟨rfl, heq⟩ := List.append_inj' hm rfl
      cases heq
      exact ⟨hl, ha⟩
  · rintro ⟨hl, ha⟩
    exact .snoc hl ha

theorem mono (h : Grown admits l) (himp : ∀ l a, Grown admits l → admits l a → admits' l a) : Grown admits' l := by
  induction h with
  | nil => exact .nil
  | snoc hl ha ih => exact .snoc ih (himp _ _ hl ha)

theorem of_append {m : List α} (h : Grown admits (l ++ m)) : Grown admits l := by
  induction m using List.reverseRecOn with
  | nil => simpa using h
  | append_singleton m a ih =>
    rw [← List.append_assoc, snoc_iff] at h
    exact ih h.1

/-- Each member was admitted by the members before it. -/
theorem admitted {m : List α} {a : α} (h : Grown admits (l ++ a :: m)) : admits l a := by
  have hsplit : l ++ a :: m = (l ++ [a]) ++ m := by simp
  rw [hsplit] at h
  exact (snoc_iff.mp h.of_append).2

/-- A check of each member against those before it builds a grown list. -/
theorem foldlM_iff {f : List α → α → Except ε Unit} (hf : ∀ l a, f l a = .ok () ↔ admits l a) {xs r : List α}
    (hl : Grown admits l) :
    xs.foldlM (fun prior x => do f prior x; return prior ++ [x]) l = .ok r ↔ r = l ++ xs ∧ Grown admits (l ++ xs) := by
  induction xs generalizing l with
  | nil =>
    rw [List.foldlM_nil, pure_eq_ok_iff, List.append_nil, eq_comm]
    simp [hl]
  | cons x xs ih =>
    rw [List.foldlM_cons]
    simp only [bind_eq_ok_iff, exists_unit_iff, pure_eq_ok_iff, hf]
    have hsplit : l ++ x :: xs = (l ++ [x]) ++ xs := by simp
    constructor
    · rintro ⟨_, ⟨hx, rfl⟩, h⟩
      rw [hsplit]
      exact (ih (.snoc hl hx)).mp h
    · rintro ⟨rfl, h⟩
      have hx := h.admitted
      refine ⟨_, ⟨hx, rfl⟩, (ih (.snoc hl hx)).mpr ⟨hsplit, ?_⟩⟩
      rwa [← hsplit]

/-- Keys that are new when they come are distinct. -/
theorem nodup_keys {key : α → κ} (h : Grown (fun l a => key a ∉ l.map key) l) : (l.map key).Nodup := by
  induction h with
  | nil => exact List.nodup_nil
  | snoc _ ha ih =>
    rw [List.map_append, List.nodup_append]
    refine ⟨ih, by simp, ?_⟩
    rintro k hk k' hk' rfl
    rw [List.map_singleton, List.mem_singleton] at hk'
    rw [hk'] at hk
    exact ha hk

/-- A selection of a grown list is grown when the members left out do not matter. -/
theorem filterMap {g : α → Option β} {admits'' : List β → β → Prop} (h : Grown admits l)
    (hg : ∀ l a b, admits l a → g a = some b → admits'' (l.filterMap g) b) : Grown admits'' (l.filterMap g) := by
  induction h with
  | nil => exact .nil
  | @snoc l a _ ha ih =>
    rw [List.filterMap_append]
    cases hb : g a with
    | none => simpa [hb] using ih
    | some b =>
      have hone : [a].filterMap g = [b] := by simp [hb]
      rw [hone]
      exact .snoc ih (hg _ a b ha hb)

end Grown

section Climbing

variable [DecidableEq κ]

/-- The member of a key: the first one. -/
def memberOf (key : α → κ) (l : List α) (k : κ) : Option α := l.find? fun a => key a = k

/-- Follow parent keys until a member without one; `none` when a key is missing or the steps run out. -/
def climb (key : α → κ) (parent : α → Option κ) (l : List α) : ℕ → α → Option α
  | 0, a => if (parent a).isNone then some a else none
  | steps + 1, a =>
    match parent a with
    | none => some a
    | some k => (memberOf key l k).bind (climb key parent l steps)

/-- Following parent keys ends at a member without one. -/
inductive Climbs (key : α → κ) (parent : α → Option κ) (l : List α) : α → α → Prop where
  | here {a : α} : parent a = none → Climbs key parent l a a
  | step {a b r : α} {k : κ} : parent a = some k → memberOf key l k = some b → Climbs key parent l b r →
      Climbs key parent l a r

/-- A member is admitted with a new key and the key of a member as its parent. -/
def Attaches (key : α → κ) (parent : α → Option κ) (l : List α) (a : α) : Prop :=
  key a ∉ l.map key ∧ ∀ k, parent a = some k → k ∈ l.map key

variable {key : α → κ} {parent : α → Option κ} {l : List α}

theorem memberOf_append {m : List α} {k : κ} (h : k ∈ l.map key) : memberOf key (l ++ m) k = memberOf key l k := by
  obtain ⟨a, ha, rfl⟩ := List.mem_map.mp h
  have hfound : (l.find? fun b => decide (key b = key a)).isSome = true := by
    rw [List.find?_isSome]
    exact ⟨a, ha, decide_eq_true rfl⟩
  rw [memberOf, memberOf, List.find?_append, Option.or_of_isSome hfound]

theorem memberOf_eq_some {k : κ} {a : α} (h : memberOf key l k = some a) : a ∈ l ∧ key a = k := by
  unfold memberOf at h
  exact ⟨List.mem_of_find?_eq_some h, by simpa using List.find?_some h⟩

theorem exists_memberOf {k : κ} (h : k ∈ l.map key) : ∃ a, memberOf key l k = some a := by
  obtain ⟨a, ha, rfl⟩ := List.mem_map.mp h
  rw [← Option.isSome_iff_exists, memberOf, List.find?_isSome]
  exact ⟨a, ha, decide_eq_true rfl⟩

/-- With distinct keys a member is found by its key. -/
theorem memberOf_self (hkeys : (l.map key).Nodup) {a : α} (ha : a ∈ l) : memberOf key l (key a) = some a := by
  obtain ⟨b, hb⟩ := exists_memberOf (List.mem_map_of_mem (f := key) ha)
  obtain ⟨hmem, heq⟩ := memberOf_eq_some hb
  rw [hb, List.inj_on_of_nodup_map hkeys hmem ha heq]

theorem climbs_of_climb {steps : ℕ} {a r : α} (h : climb key parent l steps a = some r) : Climbs key parent l a r := by
  induction steps generalizing a with
  | zero =>
    rw [climb] at h
    split_ifs at h with hp
    cases h
    exact .here (Option.isNone_iff_eq_none.mp hp)
  | succ steps ih =>
    rw [climb] at h
    cases hp : parent a with
    | none =>
      rw [hp] at h
      cases h
      exact .here hp
    | some k =>
      rw [hp] at h
      obtain ⟨b, hb, hr⟩ := Option.bind_eq_some_iff.mp h
      exact .step hp hb (ih hr)

theorem Climbs.unique {a r r' : α} (h : Climbs key parent l a r) (h' : Climbs key parent l a r') : r = r' := by
  induction h with
  | here hp =>
    cases h' with
    | here => rfl
    | step hp' =>
      rw [hp] at hp'
      cases hp'
  | step hp hb _ ih =>
    cases h' with
    | here hp' =>
      rw [hp] at hp'
      cases hp'
    | step hp' hb' hr' =>
      rw [hp, Option.some.injEq] at hp'
      subst hp'
      rw [hb, Option.some.injEq] at hb'
      subst hb'
      exact ih hr'

theorem Climbs.parent_root {a r : α} (h : Climbs key parent l a r) : parent r = none := by
  induction h with
  | here hp => exact hp
  | step _ _ _ ih => exact ih

/-- In a list grown by attachment every member climbs to a root in fewer steps than there are
members, and what comes later does not change where. -/
theorem Grown.climb_append (h : Grown (Attaches key parent) l) {a : α} (ha : a ∈ l) :
    ∃ r ∈ l, ∀ m steps, l.length ≤ steps + 1 → climb key parent (l ++ m) steps a = some r := by
  induction h generalizing a with
  | nil => cases ha
  | @snoc l b hl hb ih =>
    by_cases hmem : a ∈ l
    · obtain ⟨r, hr, hclimb⟩ := ih hmem
      refine ⟨r, List.mem_append_left _ hr, fun m steps hsteps => ?_⟩
      rw [List.append_assoc]
      apply hclimb
      rw [List.length_append, List.length_singleton] at hsteps
      omega
    · obtain rfl : a = b := List.mem_singleton.mp ((List.mem_append.mp ha).resolve_left hmem)
      cases hp : parent a with
      | none =>
        refine ⟨a, by simp, fun m steps _ => ?_⟩
        cases steps with
        | zero => rw [climb, if_pos (by rw [hp]; rfl)]
        | succ steps => rw [climb, hp]
      | some k =>
        have hk := hb.2 k hp
        obtain ⟨c, hc⟩ := exists_memberOf hk
        obtain ⟨r, hr, hclimb⟩ := ih (memberOf_eq_some hc).1
        refine ⟨r, List.mem_append_left _ hr, fun m steps hsteps => ?_⟩
        rw [List.length_append, List.length_singleton] at hsteps
        have hpos : 0 < l.length := List.length_pos_of_mem (memberOf_eq_some hc).1
        obtain ⟨n, rfl⟩ := Nat.exists_eq_succ_of_ne_zero (show steps ≠ 0 by omega)
        rw [climb, hp]
        dsimp only
        rw [List.append_assoc, memberOf_append hk, hc, Option.bind_some]
        exact hclimb _ n (by omega)

/-- The root of a member. -/
def rootOf (key : α → κ) (parent : α → Option κ) (l : List α) (a : α) : Option α := climb key parent l l.length a

theorem Grown.exists_root (h : Grown (Attaches key parent) l) {a : α} (ha : a ∈ l) :
    ∃ r ∈ l, parent r = none ∧ Climbs key parent l a r ∧ rootOf key parent l a = some r := by
  obtain ⟨r, hr, hclimb⟩ := h.climb_append ha
  have hroot := hclimb [] l.length (Nat.le_succ _)
  rw [List.append_nil] at hroot
  have hclimbs := climbs_of_climb hroot
  exact ⟨r, hr, hclimbs.parent_root, hclimbs, hroot⟩

/-- What comes later does not change a root. -/
theorem Grown.rootOf_append (h : Grown (Attaches key parent) l) (m : List α) {a : α} (ha : a ∈ l) :
    rootOf key parent (l ++ m) a = rootOf key parent l a := by
  obtain ⟨r, -, hclimb⟩ := h.climb_append ha
  have hroot := hclimb [] l.length (Nat.le_succ _)
  rw [List.append_nil] at hroot
  rw [rootOf, rootOf, hroot]
  apply hclimb
  rw [List.length_append]
  omega

/-- The root of a new member is that of its parent. -/
theorem Grown.rootOf_new (h : Grown (Attaches key parent) l) {a b : α} {k : κ} (hp : parent a = some k)
    (hb : memberOf key l k = some b) : rootOf key parent (l ++ [a]) a = rootOf key parent l b := by
  obtain ⟨hmem, rfl⟩ := memberOf_eq_some hb
  obtain ⟨r, -, hclimb⟩ := h.climb_append hmem
  have hroot := hclimb [] l.length (Nat.le_succ _)
  rw [List.append_nil] at hroot
  rw [rootOf, rootOf, hroot, List.length_append, List.length_singleton, climb, hp]
  dsimp only
  rw [memberOf_append (List.mem_map_of_mem hmem), hb, Option.bind_some]
  exact hclimb [a] l.length (Nat.le_succ _)

end Climbing

section Rising

/-- The greatest member, or zero. -/
def top (l : List ℕ) : ℕ := l.foldr max 0

/-- A new value is the greatest so far or the next one; the first is one. -/
def Rises (l : List ℕ) (v : ℕ) : Prop := max 1 (top l) ≤ v ∧ v ≤ top l + 1

instance (l : List ℕ) (v : ℕ) : Decidable (Rises l v) := inferInstanceAs (Decidable (_ ∧ _))

theorem top_append (l m : List ℕ) : top (l ++ m) = max (top l) (top m) := by
  induction l with
  | nil => simp [top]
  | cons a l ih =>
    unfold top at ih ⊢
    rw [List.cons_append, List.foldr_cons, List.foldr_cons, ih, max_assoc]

theorem le_top {l : List ℕ} {v : ℕ} (h : v ∈ l) : v ≤ top l := by
  induction l with
  | nil => cases h
  | cons a l ih =>
    unfold top at ih ⊢
    rw [List.foldr_cons]
    rcases List.mem_cons.mp h with rfl | h
    · exact le_max_left _ _
    · exact (ih h).trans (le_max_right _ _)

theorem Rises.top_eq {l : List ℕ} {v : ℕ} (h : Rises l v) : top (l ++ [v]) = v := by
  have hle : top l ≤ v := (le_max_right _ _).trans h.1
  have hone : top [v] = v := Nat.max_zero v
  rw [top_append, hone]
  exact max_eq_right hle

variable {l : List ℕ}

/-- The values of a rising list are exactly those from one to the greatest. -/
theorem Grown.mem_rising (h : Grown Rises l) (v : ℕ) : v ∈ l ↔ 1 ≤ v ∧ v ≤ top l := by
  induction h with
  | nil =>
    have hzero : top [] = 0 := rfl
    rw [hzero]
    simp only [List.not_mem_nil, false_iff]
    omega
  | @snoc l a _ ha ih =>
    have htop := ha.top_eq
    have hlow : 1 ≤ a := (le_max_left _ _).trans ha.1
    have hbase : top l ≤ a := (le_max_right _ _).trans ha.1
    have hnext := ha.2
    rw [htop, List.mem_append, List.mem_singleton, ih]
    omega

theorem Grown.top_le_length (h : Grown Rises l) : top l ≤ l.length := by
  induction h with
  | nil => exact le_rfl
  | @snoc l a _ ha ih =>
    have hnext := ha.2
    rw [ha.top_eq, List.length_append, List.length_singleton]
    omega

theorem Grown.pairwise_rising (h : Grown Rises l) : l.Pairwise (· ≤ ·) := by
  induction h with
  | nil => exact .nil
  | @snoc l a _ ha ih =>
    rw [List.pairwise_append]
    refine ⟨ih, List.pairwise_singleton _ _, fun x hx y hy => ?_⟩
    rw [List.mem_singleton.mp hy]
    exact (le_top hx).trans ((le_max_right _ _).trans ha.1)

theorem Grown.getLast?_rising (h : Grown Rises l) : ∀ v ∈ l.getLast?, v = top l := by
  cases h with
  | nil => simp
  | snoc _ ha =>
    rw [List.getLast?_concat, ha.top_eq]
    simp

/-- No value is skipped. -/
theorem Grown.isChain_rising (h : Grown Rises l) : l.IsChain fun v w => w ≤ v + 1 := by
  induction h with
  | nil => exact .nil
  | @snoc l a hl ha ih =>
    apply ih.append (.singleton _)
    intro v hv w hw
    cases hw
    rw [hl.getLast?_rising v hv]
    exact ha.2

theorem Grown.head?_rising (h : Grown Rises l) : ∀ v ∈ l.head?, v = 1 := by
  cases l with
  | nil => simp
  | cons a m =>
    have ha : Rises [] a := Grown.admitted (l := []) h
    have hlow : 1 ≤ a := (le_max_left _ _).trans ha.1
    have hhigh : a ≤ 1 := ha.2
    intro v hv
    cases hv
    exact le_antisymm hhigh hlow

end Rising

end EvaluationLab.Structure
