import EvaluationLab.Python.Text
import Mathlib.Algebra.Group.Nat.Defs
import Mathlib.Tactic.SplitIfs

/-! Strict UTF-8: a decoded text can be encoded, an encoded text decodes to itself, and the
texts of the errors raised otherwise. -/
namespace EvaluationLab.Python

/-- Every byte the decoder may read next leads to a scalar value. -/
def Leads : (need acc lo hi : ℕ) → Prop
  | 0, _, _, _ => True
  | need + 1, acc, lo, hi => ∀ n, lo ≤ n → n ≤ hi →
    (need = 0 → isScalar (acc * 64 + (n - 0x80)) = true) ∧ Leads need (acc * 64 + (n - 0x80)) 0x80 0xBF

theorem leads_zero {acc lo hi : ℕ} : Leads 0 acc lo hi := by
  rw [Leads]
  trivial

theorem isScalar_iff (c : ℕ) : isScalar c = true ↔ c < 0xD800 ∨ 0xDFFF < c ∧ c < 0x110000 := by
  simp [isScalar]

theorem encodable_cons (c : ℕ) (s : PyStr) : encodable (c :: s) = (isScalar c && encodable s) := rfl

theorem leads_one {acc lo hi : ℕ} (h : ∀ n, lo ≤ n → n ≤ hi → acc * 64 + (n - 0x80) < 0xD800) :
    Leads 1 acc lo hi := by
  intro n hlo hhi
  constructor
  · intro _
    exact (isScalar_iff _).mpr (.inl (h n hlo hhi))
  · trivial

theorem leads_two {acc lo hi : ℕ} (h : ∀ n m, lo ≤ n → n ≤ hi → 0x80 ≤ m → m ≤ 0xBF →
    isScalar ((acc * 64 + (n - 0x80)) * 64 + (m - 0x80)) = true) : Leads 2 acc lo hi := by
  intro n hlo hhi
  constructor
  · intro hneed
    exact absurd hneed (Nat.succ_ne_zero _)
  · intro m hm hm'
    exact ⟨fun _ => h n m hlo hhi hm hm', trivial⟩

theorem leads_three {acc lo hi : ℕ} (h : ∀ n m k, lo ≤ n → n ≤ hi → 0x80 ≤ m → m ≤ 0xBF →
    0x80 ≤ k → k ≤ 0xBF →
    isScalar (((acc * 64 + (n - 0x80)) * 64 + (m - 0x80)) * 64 + (k - 0x80)) = true) : Leads 3 acc lo hi := by
  intro n hlo hhi
  constructor
  · intro hneed
    exact absurd hneed (Nat.succ_ne_zero _)
  · exact leads_two fun m k hm hm' hk hk' => h n m k hlo hhi hm hm' hk hk'

/-- A surrogate has no encoding. -/
example : decodeUtf8 [0xED, 0xA0, 0x80] = none := by simp [decodeUtf8, decodeFrom]

theorem encodable_of_decodeFrom {need acc lo hi : ℕ} {bytes : List UInt8} {s : PyStr}
    (hl : Leads need acc lo hi) (h : decodeFrom need acc lo hi bytes = some s) : encodable s = true := by
  induction bytes generalizing need acc lo hi s with
  | nil =>
    cases need with
    | zero =>
      rw [decodeFrom, Option.some.injEq] at h
      rw [← h]
      rfl
    | succ need => cases h
  | cons b bs ih =>
    cases need with
    | zero =>
      simp only [decodeFrom] at h
      simp only [Bool.and_eq_true, decide_eq_true_eq, beq_iff_eq] at h
      split_ifs at h with h1 h2 h3 h4 h5 h6 h7 h8
      · obtain ⟨t, ht, rfl⟩ := Option.map_eq_some_iff.mp h
        rw [encodable_cons, ih leads_zero ht, (isScalar_iff _).mpr (by omega)]
        rfl
      · exact ih (leads_one fun n _ _ => by omega) h
      · exact ih (leads_two fun n m _ _ _ _ => (isScalar_iff _).mpr (by omega)) h
      · exact ih (leads_two fun n m _ _ _ _ => (isScalar_iff _).mpr (by omega)) h
      · exact ih (leads_two fun n m _ _ _ _ => (isScalar_iff _).mpr (by omega)) h
      · exact ih (leads_three fun n m k _ _ _ _ _ _ => (isScalar_iff _).mpr (by omega)) h
      · exact ih (leads_three fun n m k _ _ _ _ _ _ => (isScalar_iff _).mpr (by omega)) h
      · exact ih (leads_three fun n m k _ _ _ _ _ _ => (isScalar_iff _).mpr (by omega)) h
    | succ need =>
      simp only [decodeFrom] at h
      simp only [Bool.and_eq_true, decide_eq_true_eq] at h
      split_ifs at h with hb hneed
      · obtain ⟨t, ht, rfl⟩ := Option.map_eq_some_iff.mp h
        rw [encodable_cons, ih leads_zero ht, (hl _ hb.1 hb.2).1 hneed]
        rfl
      · exact ih (hl _ hb.1 hb.2).2 h

/-- A decoded text has an encoding. -/
theorem encodable_of_decodeUtf8 {bytes : List UInt8} {s : PyStr} (h : decodeUtf8 bytes = some s) :
    encodable s = true := encodable_of_decodeFrom leads_zero h

theorem toNat_ofNat_of_lt {n : ℕ} (h : n < 256) : (UInt8.ofNat n).toNat = n := by
  rw [UInt8.toNat_ofNat']
  exact Nat.mod_eq_of_lt h

theorem decodeFrom_continue {acc lo hi n : ℕ} {bs : List UInt8} (hn : n < 256) (hlo : lo ≤ n) (hhi : n ≤ hi) :
    decodeFrom 1 acc lo hi (.ofNat n :: bs) = (decodeFrom 0 0 0 0 bs).map ((acc * 64 + (n - 0x80)) :: ·) := by
  simp only [decodeFrom, toNat_ofNat_of_lt hn]
  rw [if_pos (by simp [hlo, hhi]), if_pos trivial]

theorem decodeFrom_owe {need acc lo hi n : ℕ} {bs : List UInt8} (hn : n < 256) (hlo : lo ≤ n) (hhi : n ≤ hi) :
    decodeFrom (need + 2) acc lo hi (.ofNat n :: bs) =
      decodeFrom (need + 1) (acc * 64 + (n - 0x80)) 0x80 0xBF bs := by
  simp only [decodeFrom, toNat_ofNat_of_lt hn]
  rw [if_pos (by simp [hlo, hhi]), if_neg (by omega)]

theorem decodeFrom_ascii {n : ℕ} {bs : List UInt8} (hn : n < 0x80) :
    decodeFrom 0 0 0 0 (.ofNat n :: bs) = (decodeFrom 0 0 0 0 bs).map (n :: ·) := by
  simp only [decodeFrom, toNat_ofNat_of_lt (show n < 256 by omega)]
  rw [if_pos hn]

theorem decodeFrom_lead_two {n : ℕ} {bs : List UInt8} (hlo : 0xC2 ≤ n) (hhi : n ≤ 0xDF) :
    decodeFrom 0 0 0 0 (.ofNat n :: bs) = decodeFrom 1 (n - 0xC0) 0x80 0xBF bs := by
  simp only [decodeFrom, toNat_ofNat_of_lt (show n < 256 by omega)]
  rw [if_neg (by omega), if_pos (by simp [hlo, hhi])]

theorem decodeFrom_lead_three {n : ℕ} {bs : List UInt8} (hlo : 0xE0 ≤ n) (hhi : n ≤ 0xEF) :
    decodeFrom 0 0 0 0 (.ofNat n :: bs) =
      decodeFrom 2 (n - 0xE0) (if n = 0xE0 then 0xA0 else 0x80) (if n = 0xED then 0x9F else 0xBF) bs := by
  simp only [decodeFrom, toNat_ofNat_of_lt (show n < 256 by omega)]
  rw [if_neg (by omega), if_neg (by simp; omega)]
  by_cases h0 : n = 0xE0
  · rw [if_pos (by simp [h0]), h0]
    rfl
  · rw [if_neg (by simp [h0])]
    by_cases hd : n = 0xED
    · rw [if_pos (by simp [hd]), hd]
      rfl
    · rw [if_neg (by simp [hd]), if_pos (by simp; omega), if_neg h0, if_neg hd]

theorem decodeFrom_lead_four {n : ℕ} {bs : List UInt8} (hlo : 0xF0 ≤ n) (hhi : n ≤ 0xF4) :
    decodeFrom 0 0 0 0 (.ofNat n :: bs) =
      decodeFrom 3 (n - 0xF0) (if n = 0xF0 then 0x90 else 0x80) (if n = 0xF4 then 0x8F else 0xBF) bs := by
  simp only [decodeFrom, toNat_ofNat_of_lt (show n < 256 by omega)]
  rw [if_neg (by omega), if_neg (by simp; omega), if_neg (by simp; omega), if_neg (by simp; omega),
    if_neg (by simp; omega)]
  by_cases h0 : n = 0xF0
  · rw [if_pos (by simp [h0]), h0]
    rfl
  · rw [if_neg (by simp [h0])]
    by_cases h4 : n = 0xF4
    · rw [if_neg (by simp [h4]), if_pos (by simp [h4]), h4]
      rfl
    · rw [if_pos (by simp; omega), if_neg h0, if_neg h4]

/-- The bytes of a scalar value decode to it. -/
theorem decodeFrom_encodePoint {c : ℕ} (hc : isScalar c = true) (bs : List UInt8) :
    decodeFrom 0 0 0 0 (encodePoint c ++ bs) = (decodeFrom 0 0 0 0 bs).map (c :: ·) := by
  rw [isScalar_iff] at hc
  unfold encodePoint
  split_ifs with h1 h2 h3
  · exact decodeFrom_ascii h1
  · simp only [List.cons_append, List.nil_append]
    rw [decodeFrom_lead_two (by omega) (by omega), decodeFrom_continue (by omega) (by omega) (by omega)]
    have hvalue : (0xC0 + c / 64 - 0xC0) * 64 + (0x80 + c % 64 - 0x80) = c := by omega
    rw [hvalue]
  · simp only [List.cons_append, List.nil_append]
    rw [decodeFrom_lead_three (by omega) (by omega)]
    have hlow : (if 0xE0 + c / 4096 = 0xE0 then 0xA0 else 0x80) ≤ 0x80 + c / 64 % 64 := by
      split_ifs <;> omega
    have hhigh : 0x80 + c / 64 % 64 ≤ (if 0xE0 + c / 4096 = 0xED then 0x9F else 0xBF) := by
      split_ifs <;> omega
    rw [decodeFrom_owe (by omega) hlow hhigh, decodeFrom_continue (by omega) (by omega) (by omega)]
    have hvalue : ((0xE0 + c / 4096 - 0xE0) * 64 + (0x80 + c / 64 % 64 - 0x80)) * 64 +
        (0x80 + c % 64 - 0x80) = c := by omega
    rw [hvalue]
  · simp only [List.cons_append, List.nil_append]
    rw [decodeFrom_lead_four (by omega) (by omega)]
    have hlow : (if 0xF0 + c / 262144 = 0xF0 then 0x90 else 0x80) ≤ 0x80 + c / 4096 % 64 := by
      split_ifs <;> omega
    have hhigh : 0x80 + c / 4096 % 64 ≤ (if 0xF0 + c / 262144 = 0xF4 then 0x8F else 0xBF) := by
      split_ifs <;> omega
    rw [decodeFrom_owe (by omega) hlow hhigh, decodeFrom_owe (by omega) (by omega) (by omega),
      decodeFrom_continue (by omega) (by omega) (by omega)]
    have hvalue : (((0xF0 + c / 262144 - 0xF0) * 64 + (0x80 + c / 4096 % 64 - 0x80)) * 64 +
        (0x80 + c / 64 % 64 - 0x80)) * 64 + (0x80 + c % 64 - 0x80) = c := by omega
    rw [hvalue]

/-- An encodable text is the text its bytes decode to. -/
theorem decodeUtf8_utf8 {s : PyStr} (h : encodable s = true) : decodeUtf8 (utf8 s) = some s := by
  unfold decodeUtf8
  induction s with
  | nil => rfl
  | cons c s ih =>
    rw [encodable_cons, Bool.and_eq_true] at h
    rw [utf8, List.flatMap_cons, decodeFrom_encodePoint h.1, ← utf8, ih h.2]
    rfl

theorem utf8_injective {s t : PyStr} (hs : encodable s = true) (ht : encodable t = true)
    (h : utf8 s = utf8 t) : s = t := by
  have hdecode := decodeUtf8_utf8 hs
  rw [h, decodeUtf8_utf8 ht] at hdecode
  exact (Option.some.inj hdecode).symm

/-- The last `need` bytes of a character. -/
def lastBytes (c : ℕ) : (need : ℕ) → List UInt8
  | 0 => []
  | need + 1 => .ofNat (0x80 + c / 64 ^ need % 64) :: lastBytes c need

/-- What has been read are the bytes of the decoded text; an open character starts with what is known of it. -/
def Reads (need acc lo hi : ℕ) (bytes : List UInt8) (s : PyStr) : Prop :=
  match need with
  | 0 => utf8 s = bytes
  | n + 1 => ∃ c t, s = c :: t ∧ c / 64 ^ (n + 1) = acc ∧ lo ≤ 0x80 + c / 64 ^ n % 64 ∧ 0x80 + c / 64 ^ n % 64 ≤ hi ∧
      bytes = lastBytes c (n + 1) ++ utf8 t

theorem ofNat_toNat_add {b : UInt8} {n : ℕ} (h : b.toNat = n) : UInt8.ofNat n = b := by
  rw [← h, UInt8.ofNat_toNat]

theorem utf8_cons (c : ℕ) (s : PyStr) : utf8 (c :: s) = encodePoint c ++ utf8 s := List.flatMap_cons

theorem reads_two {b : UInt8} {bs : List UInt8} {s : PyStr} (hb : 0xC2 ≤ b.toNat ∧ b.toNat ≤ 0xDF)
    (h : Reads 1 (b.toNat - 0xC0) 0x80 0xBF bs s) : utf8 s = b :: bs := by
  obtain ⟨c, t, rfl, hacc, -, -, rfl⟩ := h
  simp only [Nat.reduceAdd, Nat.reducePow] at hacc
  rw [utf8_cons, encodePoint, if_neg (by omega), if_pos (by omega), ofNat_toNat_add (b := b) (by omega)]
  simp [lastBytes]

theorem reads_three {b : UInt8} {bs : List UInt8} {s : PyStr} {acc lo hi : ℕ} (hb : b.toNat = 0xE0 + acc ∧ acc < 16)
    (hlo : acc = 0 → 0xA0 ≤ lo) (h : Reads 2 acc lo hi bs s) : utf8 s = b :: bs := by
  obtain ⟨c, t, rfl, hacc, hge, -, rfl⟩ := h
  simp only [Nat.reduceAdd, Nat.reducePow] at hacc hge
  rw [utf8_cons, encodePoint, if_neg (by omega), if_neg (by omega), if_pos (by omega), ofNat_toNat_add (b := b) (by omega)]
  simp [lastBytes]

theorem reads_four {b : UInt8} {bs : List UInt8} {s : PyStr} {acc lo hi : ℕ} (hb : b.toNat = 0xF0 + acc ∧ acc < 5)
    (hlo : acc = 0 → 0x90 ≤ lo) (h : Reads 3 acc lo hi bs s) : utf8 s = b :: bs := by
  obtain ⟨c, t, rfl, hacc, hge, -, rfl⟩ := h
  simp only [Nat.reduceAdd, Nat.reducePow] at hacc hge
  rw [utf8_cons, encodePoint, if_neg (by omega), if_neg (by omega), if_neg (by omega), ofNat_toNat_add (b := b) (by omega)]
  simp [lastBytes]

theorem reads_of_decodeFrom {need acc lo hi : ℕ} {bytes : List UInt8} {s : PyStr} (hlo : 0x80 ≤ lo ∨ need = 0)
    (hhi : hi ≤ 0xBF) (h : decodeFrom need acc lo hi bytes = some s) : Reads need acc lo hi bytes s := by
  induction bytes generalizing need acc lo hi s with
  | nil =>
    cases need with
    | zero =>
      rw [decodeFrom, Option.some.injEq] at h
      rw [← h]
      rfl
    | succ need => cases h
  | cons b bs ih =>
    cases need with
    | zero =>
      show utf8 s = b :: bs
      simp only [decodeFrom] at h
      simp only [Bool.and_eq_true, decide_eq_true_eq, beq_iff_eq] at h
      split_ifs at h with h1 h2 h3 h4 h5 h6 h7 h8
      · obtain ⟨t, ht, rfl⟩ := Option.map_eq_some_iff.mp h
        have hrest : utf8 t = bs := ih (.inr rfl) (by omega) ht
        rw [utf8_cons, encodePoint, if_pos h1, hrest, UInt8.ofNat_toNat]
        rfl
      · exact reads_two h2 (ih (.inl (by omega)) (by omega) h)
      · have hreads : Reads 2 0 0xA0 0xBF bs s := ih (.inl (by omega)) (by omega) h
        exact reads_three (by omega) (by omega) hreads
      · exact reads_three (by omega) (by omega) (ih (.inl (by omega)) (by omega) h)
      · exact reads_three (by omega) (by omega) (ih (.inl (by omega)) (by omega) h)
      · exact reads_four (by omega) (by omega) (ih (.inl (by omega)) (by omega) h)
      · exact reads_four (by omega) (by omega) (ih (.inl (by omega)) (by omega) h)
      · exact reads_four (by omega) (by omega) (ih (.inl (by omega)) (by omega) h)
    | succ need =>
      simp only [decodeFrom] at h
      simp only [Bool.and_eq_true, decide_eq_true_eq] at h
      have hlow : 0x80 ≤ lo := hlo.resolve_right (Nat.succ_ne_zero need)
      split_ifs at h with hb hneed
      · obtain ⟨t, ht, rfl⟩ := Option.map_eq_some_iff.mp h
        subst hneed
        have hrest : utf8 t = bs := ih (.inr rfl) (by omega) ht
        have hbyte : 0x80 + (acc * 64 + (b.toNat - 0x80)) / 64 ^ 0 % 64 = b.toNat := by
          rw [Nat.pow_zero, Nat.div_one]
          omega
        refine ⟨acc * 64 + (b.toNat - 0x80), t, rfl, ?_, ?_, ?_, ?_⟩
        · rw [Nat.zero_add, Nat.pow_one]
          omega
        · rw [hbyte]
          exact hb.1
        · rw [hbyte]
          exact hb.2
        · rw [lastBytes, hbyte, UInt8.ofNat_toNat, hrest]
          rfl
      · obtain ⟨n, rfl⟩ : ∃ n, need = n + 1 := ⟨need - 1, by omega⟩
        obtain ⟨c, t, rfl, hacc, -, -, rfl⟩ := ih (.inl (by omega)) (by omega) h
        have hbyte : 0x80 + c / 64 ^ (n + 1) % 64 = b.toNat := by
          rw [hacc]
          omega
        refine ⟨c, t, rfl, ?_, ?_, ?_, ?_⟩
        · rw [Nat.pow_succ, ← Nat.div_div_eq_div_mul, hacc]
          omega
        · rw [hbyte]
          exact hb.1
        · rw [hbyte]
          exact hb.2
        · have hlast : lastBytes c (n + 1 + 1) = .ofNat (0x80 + c / 64 ^ (n + 1) % 64) :: lastBytes c (n + 1) := rfl
          rw [hlast, hbyte, UInt8.ofNat_toNat]
          rfl

/-- Bytes that decode are the bytes of what they decode to. -/
theorem utf8_decodeUtf8 {bytes : List UInt8} {s : PyStr} (h : decodeUtf8 bytes = some s) : utf8 s = bytes :=
  reads_of_decodeFrom (.inr rfl) (by omega) h

/-- A character is a scalar value. -/
theorem isScalar_toNat (c : Char) : isScalar c.toNat = true := by
  rw [isScalar_iff]
  exact c.valid

/-- A character is encoded as its code point. -/
theorem utf8EncodeChar_eq (c : Char) : String.utf8EncodeChar c = encodePoint c.toNat := by
  have hvalid := (isScalar_iff _).mp (isScalar_toNat c)
  have hval : c.val.toNat = c.toNat := rfl
  unfold String.utf8EncodeChar encodePoint
  simp only [hval]
  generalize c.toNat = n at hvalid
  by_cases h1 : n < 0x80
  · rw [if_pos (by omega), if_pos h1]
  rw [if_neg (by omega), if_neg h1]
  by_cases h2 : n < 0x800
  · rw [if_pos (by omega), if_pos h2, show n / 64 % 0x20 + 0xC0 = 0xC0 + n / 64 by omega,
      show n % 0x40 + 0x80 = 0x80 + n % 64 by omega]
  rw [if_neg (by omega), if_neg h2]
  by_cases h3 : n < 0x10000
  · rw [if_pos (by omega), if_pos h3, show n / 4096 % 0x10 + 0xE0 = 0xE0 + n / 4096 by omega,
      show n / 64 % 0x40 + 0x80 = 0x80 + n / 64 % 64 by omega, show n % 0x40 + 0x80 = 0x80 + n % 64 by omega]
  · rw [if_neg (by omega), if_neg h3, show n / 262144 % 0x08 + 0xF0 = 0xF0 + n / 262144 by omega,
      show n / 4096 % 0x40 + 0x80 = 0x80 + n / 4096 % 64 by omega,
      show n / 64 % 0x40 + 0x80 = 0x80 + n / 64 % 64 by omega, show n % 0x40 + 0x80 = 0x80 + n % 64 by omega]

/-- The code points of a literal are those of its characters. -/
theorem py_ofList (l : List Char) : py (String.ofList l) = l.map Char.toNat := by
  have hbytes : (String.ofList l).toByteArray.data.toList = utf8 (l.map Char.toNat) := by
    rw [String.toByteArray_ofList, List.utf8Encode, List.toList_data_toByteArray, utf8, List.flatMap_map]
    exact List.flatMap_congr fun c _ => utf8EncodeChar_eq c
  have hencodable : encodable (l.map Char.toNat) = true := by
    simp only [encodable, List.all_map, List.all_eq_true]
    exact fun c _ => isScalar_toNat c
  rw [py, hbytes, decodeUtf8_utf8 hencodable, Option.getD_some]

/-- Where strict decoding stops: the first and last byte at fault, and the reason given. -/
structure DecodeFault where
  first : ℕ
  last : ℕ
  reason : PyStr

/-- The fault of a text whose current sequence began at `start`; `index` is the next byte. -/
def faultFrom : (need lo hi start index : ℕ) → List UInt8 → Option DecodeFault
  | 0, _, _, _, _, [] => none
  | _ + 1, _, _, start, index, [] => some ⟨start, index - 1, "unexpected end of data"⟩
  | 0, _, _, _, index, b :: bs =>
    let n := b.toNat
    if n < 0x80 then faultFrom 0 0 0 0 (index + 1) bs
    else if 0xC2 ≤ n && n ≤ 0xDF then faultFrom 1 0x80 0xBF index (index + 1) bs
    else if n == 0xE0 then faultFrom 2 0xA0 0xBF index (index + 1) bs
    else if n == 0xED then faultFrom 2 0x80 0x9F index (index + 1) bs
    else if 0xE1 ≤ n && n ≤ 0xEF then faultFrom 2 0x80 0xBF index (index + 1) bs
    else if n == 0xF0 then faultFrom 3 0x90 0xBF index (index + 1) bs
    else if 0xF1 ≤ n && n ≤ 0xF3 then faultFrom 3 0x80 0xBF index (index + 1) bs
    else if n == 0xF4 then faultFrom 3 0x80 0x8F index (index + 1) bs
    else some ⟨index, index, "invalid start byte"⟩
  | need + 1, lo, hi, start, index, b :: bs =>
    if lo ≤ b.toNat && b.toNat ≤ hi then faultFrom need 0x80 0xBF start (index + 1) bs
    else some ⟨start, index - 1, "invalid continuation byte"⟩

/-- The last hexadecimal digits of a number. -/
def hexText : (width n : ℕ) → PyStr
  | 0, _ => []
  | width + 1, n => hexText width (n / 16) ++ [if n % 16 < 10 then 48 + n % 16 else 87 + n % 16]

/-- `str(exc)` of the `UnicodeDecodeError` raised for bytes that are not UTF-8. -/
def decodeErrorText (bytes : List UInt8) : PyStr :=
  match faultFrom 0 0 0 0 0 bytes with
  | none => []
  | some fault =>
    if fault.first = fault.last then
      py "'utf-8' codec can't decode byte 0x" ++ hexText 2 (bytes.getD fault.first 0).toNat ++
        py " in position " ++ natText fault.first ++ py ": " ++ fault.reason
    else py "'utf-8' codec can't decode bytes in position " ++ natText fault.first ++ py "-" ++
      natText fault.last ++ py ": " ++ fault.reason

/-- `str(exc)` of the `UnicodeEncodeError` raised for a text with lone surrogates: it names the
first run of them. -/
def encodeErrorText (s : PyStr) : PyStr :=
  let first := (s.takeWhile isScalar).length
  let run := (s.dropWhile isScalar).takeWhile fun c => !isScalar c
  if run.length = 1 then
    py "'utf-8' codec can't encode character '\\u" ++ hexText 4 (run.headD 0) ++ py "' in position " ++
      natText first ++ py ": surrogates not allowed"
  else py "'utf-8' codec can't encode characters in position " ++ natText first ++ py "-" ++
    natText (first + run.length - 1) ++ py ": surrogates not allowed"

example : decodeErrorText [104, 0xC3, 40] =
    py "'utf-8' codec can't decode byte 0xc3 in position 1: invalid continuation byte" := by decide +kernel
example : encodeErrorText [104, 0xD800] =
    py "'utf-8' codec can't encode character '\\ud800' in position 1: surrogates not allowed" := by decide +kernel

end EvaluationLab.Python
