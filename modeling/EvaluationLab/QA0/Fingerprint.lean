import EvaluationLab.QA0.PublicSafe
import EvaluationLab.Python.JsonRoundTrip
import EvaluationLab.Python.Utf8

/-! What a fingerprint binds when no two of the texts involved collide. -/
namespace EvaluationLab.QA0
open Python Effect

theorem hexDigit_injOn {m n : ℕ} (hm : m < 16) (hn : n < 16) (h : hexDigit m = hexDigit n) : m = n := by
  have hall : ∀ m < 16, ∀ n < 16, hexDigit m = hexDigit n → m = n := by decide
  exact hall m hm n hn h

theorem hexDigest_injective {d e : BitVec 256} (h : hexDigest d = hexDigest e) : d = e := by
  have hdigit : ∀ j < 64, d.toNat / 2 ^ (4 * j) % 2 ^ 4 = e.toNat / 2 ^ (4 * j) % 2 ^ 4 := by
    intro j hj
    have hmap := List.map_inj_left.mp h (63 - j) (List.mem_range.mpr (by omega))
    have hplace : 63 - (63 - j) = j := by omega
    rw [hplace] at hmap
    rw [pow_mul]
    exact hexDigit_injOn (Nat.mod_lt _ (by decide)) (Nat.mod_lt _ (by decide)) hmap
  apply BitVec.eq_of_getLsbD_eq
  intro i hi
  have hbit := congrArg (fun n => n.testBit (i % 4)) (hdigit (i / 4) (by omega))
  have hsplit : i % 4 + 4 * (i / 4) = i := Nat.mod_add_div i 4
  simp only [Nat.testBit_mod_two_pow, Nat.testBit_div_two_pow, hsplit, Nat.mod_lt i (by decide : 0 < 4),
    decide_true, Bool.true_and] at hbit
  exact hbit

end EvaluationLab.QA0
