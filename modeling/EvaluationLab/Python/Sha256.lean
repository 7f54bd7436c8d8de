import EvaluationLab.Python.Utf8
import EvaluationLab.Python.Value

/-! `hashlib.sha256` over natural numbers. The eight words of a state and the sixteen words of
a message block are the digits of one number in base `2 ^ 32`, the first word on top. -/
namespace EvaluationLab.Python.Sha256

/-- Continue with the value of a number. The kernel evaluates it here, and not once for every
use that is made of it. -/
def forced {α : Type} (n : ℕ) (next : ℕ → α) : α :=
  match n with
  | 0 => next 0
  | m + 1 => next (m + 1)

theorem forced_eq {α : Type} (n : ℕ) (next : ℕ → α) : forced n next = next n := by
  cases n <;> rfl

def word (x : ℕ) : ℕ := x % 2 ^ 32

/-- A word written twice: its rotations are shifts of this. -/
def twice (x : ℕ) : ℕ := x * (2 ^ 32 + 1)

/-- The combination of three rotations that the round function uses. -/
def rotations (x i j k : ℕ) : ℕ := (twice x >>> i) ^^^ (twice x >>> j) ^^^ (twice x >>> k)

/-- The combination of two rotations and a shift that the message schedule uses. -/
def scheduled (x i j k : ℕ) : ℕ := (twice x >>> i) ^^^ (twice x >>> j) ^^^ (x >>> k)

/-- The sixteen words of the message schedule after `block`'s first. -/
def nextBlock (block : ℕ) : ℕ :=
  (block % 2 ^ 480) <<< 32 +
    word ((block >>> 480) + scheduled (word (block >>> 448)) 7 18 3 + (block >>> 192) +
      scheduled (word (block >>> 32)) 17 19 10)

/-- The sum of the last state word, its round constant, the message word and the functions of
the three words before; only its low word counts. -/
def firstSum (constant block state : ℕ) : ℕ :=
  state + constant + (block >>> 480) + rotations (word (state >>> 96)) 6 11 25 +
    ((state >>> 32) ^^^ ((state >>> 96) &&& ((state >>> 64) ^^^ (state >>> 32))))

def secondSum (state : ℕ) : ℕ :=
  rotations (state >>> 224) 2 13 22 +
    (((state >>> 224) &&& (state >>> 192)) ||| ((state >>> 160) &&& ((state >>> 224) ||| (state >>> 192))))

def nextState (sum state : ℕ) : ℕ :=
  word (sum + secondSum state) <<< 224 + (state >>> 160) <<< 128 +
    word (sum + (state >>> 128)) <<< 96 + (state >>> 32) % 2 ^ 96

def constants : List ℕ := [
  0x428a2f98, 0x71374491, 0xb5c0fbcf, 0xe9b5dba5, 0x3956c25b, 0x59f111f1, 0x923f82a4, 0xab1c5ed5,
  0xd807aa98, 0x12835b01, 0x243185be, 0x550c7dc3, 0x72be5d74, 0x80deb1fe, 0x9bdc06a7, 0xc19bf174,
  0xe49b69c1, 0xefbe4786, 0x0fc19dc6, 0x240ca1cc, 0x2de92c6f, 0x4a7484aa, 0x5cb0a9dc, 0x76f988da,
  0x983e5152, 0xa831c66d, 0xb00327c8, 0xbf597fc7, 0xc6e00bf3, 0xd5a79147, 0x06ca6351, 0x14292967,
  0x27b70a85, 0x2e1b2138, 0x4d2c6dfc, 0x53380d13, 0x650a7354, 0x766a0abb, 0x81c2c92e, 0x92722c85,
  0xa2bfe8a1, 0xa81a664b, 0xc24b8b70, 0xc76c51a3, 0xd192e819, 0xd6990624, 0xf40e3585, 0x106aa070,
  0x19a4c116, 0x1e376c08, 0x2748774c, 0x34b0bcb5, 0x391c0cb3, 0x4ed8aa4a, 0x5b9cca4f, 0x682e6ff3,
  0x748f82ee, 0x78a5636f, 0x84c87814, 0x8cc70208, 0x90befffa, 0xa4506ceb, 0xbef9a3f7, 0xc67178f2]

def initial : ℕ := 0x6a09e667bb67ae853c6ef372a54ff53a510e527f9b05688c1f83d9ab5be0cd19

def rounds : List ℕ → (block state : ℕ) → ℕ
  | [], _, state => state
  | constant :: rest, block, state =>
    forced (nextState (firstSum constant block state) state) fun state' =>
      forced (nextBlock block) fun block' => rounds rest block' state'

/-- Every other word of a state, so that words can be added without a carry into the next. -/
def evenWords : ℕ := 0x00000000ffffffff00000000ffffffff00000000ffffffff00000000ffffffff

def oddWords : ℕ := evenWords <<< 32

def addWords (mask x y : ℕ) : ℕ := ((x &&& mask) + (y &&& mask)) &&& mask

def compress (block state : ℕ) : ℕ :=
  forced (rounds constants block state) fun state' =>
    addWords evenWords state state' + addWords oddWords state state'

/-- Read padded bytes into blocks; `missing` is how many bytes the current block still needs
after the next. -/
def absorb : List ℕ → (missing block state : ℕ) → ℕ
  | [], _, _, state => state
  | byte :: bytes, missing, block, state =>
    forced (block * 256 + byte) fun block' =>
      match missing with
      | 0 => forced (compress block' state) fun state' => absorb bytes 63 0 state'
      | missing + 1 => absorb bytes missing block' state

/-- The closing bit, the zeros and the bit length after a message of `length` bytes. -/
def padding (length : ℕ) : List ℕ :=
  0x80 :: List.replicate ((119 - length % 64) % 64) 0 ++
    (List.range 8).map fun i => length * 8 / 256 ^ (7 - i) % 256

def sha256 (bytes : List UInt8) : BitVec 256 :=
  .ofNat 256 (absorb (bytes.map UInt8.toNat ++ padding bytes.length) 63 0 initial)

/-- A padded message is a whole number of blocks. -/
theorem padded_length (bytes : List UInt8) :
    (bytes.map UInt8.toNat ++ padding bytes.length).length % 64 = 0 := by
  simp only [padding, List.length_append, List.length_map, List.length_cons, List.length_replicate,
    List.length_range]
  omega

example : sha256 [97, 98, 99] =
    0xba7816bf8f01cfea414140de5dae2223b00361a396177a9cb410ff61f20015ad#256 := by decide +kernel

section Evaluation

/-- `rotations`, over the kernel's own operations. -/
def rawRotations (x i j k : ℕ) : ℕ :=
  forced (Nat.mul x 0x100000001) fun y => Nat.xor (Nat.xor (Nat.shiftRight y i) (Nat.shiftRight y j)) (Nat.shiftRight y k)

def rawScheduled (x i j k : ℕ) : ℕ :=
  forced (Nat.mul x 0x100000001) fun y => Nat.xor (Nat.xor (Nat.shiftRight y i) (Nat.shiftRight y j)) (Nat.shiftRight x k)

def rawWord (x : ℕ) : ℕ := Nat.mod x 0x100000000

def rawNextBlock (block : ℕ) : ℕ :=
  Nat.add (Nat.shiftLeft (Nat.mod block (2 ^ 480)) 32)
    (rawWord (Nat.add (Nat.add (Nat.add (Nat.shiftRight block 480) (rawScheduled (rawWord (Nat.shiftRight block 448)) 7 18 3))
      (Nat.shiftRight block 192)) (rawScheduled (rawWord (Nat.shiftRight block 32)) 17 19 10)))

def rawFirstSum (constant block state : ℕ) : ℕ :=
  Nat.add (Nat.add (Nat.add (Nat.add state constant) (Nat.shiftRight block 480))
      (rawRotations (rawWord (Nat.shiftRight state 96)) 6 11 25))
    (Nat.xor (Nat.shiftRight state 32)
      (Nat.land (Nat.shiftRight state 96) (Nat.xor (Nat.shiftRight state 64) (Nat.shiftRight state 32))))

def rawSecondSum (state : ℕ) : ℕ :=
  Nat.add (rawRotations (Nat.shiftRight state 224) 2 13 22)
    (Nat.lor (Nat.land (Nat.shiftRight state 224) (Nat.shiftRight state 192))
      (Nat.land (Nat.shiftRight state 160) (Nat.lor (Nat.shiftRight state 224) (Nat.shiftRight state 192))))

def rawNextState (sum state : ℕ) : ℕ :=
  Nat.add (Nat.add (Nat.add (Nat.shiftLeft (rawWord (Nat.add sum (rawSecondSum state))) 224)
      (Nat.shiftLeft (Nat.shiftRight state 160) 128))
    (Nat.shiftLeft (rawWord (Nat.add sum (Nat.shiftRight state 128))) 96)) (Nat.mod (Nat.shiftRight state 32) (2 ^ 96))

def rawRounds : List ℕ → (block state : ℕ) → ℕ
  | [], _, state => state
  | constant :: rest, block, state =>
    forced (rawNextState (rawFirstSum constant block state) state) fun state' =>
      forced (rawNextBlock block) fun block' => rawRounds rest block' state'

theorem rotations_eq (x i j k : ℕ) : rotations x i j k = rawRotations x i j k := by
  rw [rawRotations, forced_eq]
  rfl

theorem scheduled_eq (x i j k : ℕ) : scheduled x i j k = rawScheduled x i j k := by
  rw [rawScheduled, forced_eq]
  rfl

theorem nextBlock_eq (block : ℕ) : nextBlock block = rawNextBlock block := by
  rw [nextBlock, scheduled_eq, scheduled_eq]
  rfl

theorem firstSum_eq (constant block state : ℕ) : firstSum constant block state = rawFirstSum constant block state := by
  rw [firstSum, rotations_eq]
  rfl

theorem secondSum_eq (state : ℕ) : secondSum state = rawSecondSum state := by
  rw [secondSum, rotations_eq]
  rfl

theorem nextState_eq (sum state : ℕ) : nextState sum state = rawNextState sum state := by
  rw [nextState, secondSum_eq]
  rfl

theorem rounds_eq (constants : List ℕ) (block state : ℕ) : rounds constants block state = rawRounds constants block state := by
  induction constants generalizing block state with
  | nil => rfl
  | cons constant rest ih => rw [rounds, rawRounds, nextState_eq, firstSum_eq, nextBlock_eq]; simp only [forced_eq, ih]

/-- Absorb the characters of an ASCII text, and pad it at its end. -/
def digestFrom : PyStr → (missing block state length : ℕ) → Option ℕ
  | [], missing, block, state, length => some (absorb (padding length) missing block state)
  | c :: s, missing, block, state, length =>
    match Nat.ble c 127 with
    | false => none
    | true => forced (Nat.add (Nat.mul block 256) c) fun block' => forced (Nat.succ length) fun length' =>
      match missing with
      | 0 => forced (rawRounds constants block' state) fun state' =>
          forced (Nat.add (addWords evenWords state state') (addWords oddWords state state')) fun next =>
            digestFrom s 63 0 next length'
      | missing + 1 => digestFrom s missing block' state length'

theorem digestFrom_eq {s : PyStr} {missing block state length n : ℕ} (h : digestFrom s missing block state length = some n) :
    s.all (Nat.ble · 127) = true ∧ n = absorb (s ++ padding (length + s.length)) missing block state := by
  induction s generalizing missing block state length with
  | nil => exact ⟨rfl, (Option.some.inj h).symm⟩
  | cons c s ih =>
    have hlength : Nat.succ length + s.length = length + (c :: s).length := by
      rw [List.length_cons]
      omega
    rw [digestFrom] at h
    rw [List.all_cons, List.cons_append, absorb, forced_eq]
    cases hc : Nat.ble c 127 with
    | false => rw [hc] at h; cases h
    | true =>
      simp only [hc, forced_eq] at h
      cases missing with
      | zero =>
        obtain ⟨hall, hn⟩ := ih h
        simp only [forced_eq, compress, rounds_eq]
        rw [hlength] at hn
        exact ⟨hall, hn⟩
      | succ missing =>
        obtain ⟨hall, hn⟩ := ih h
        rw [hlength] at hn
        exact ⟨hall, hn⟩

theorem utf8_ascii {s : PyStr} (h : s.all (Nat.ble · 127) = true) : (utf8 s).map UInt8.toNat = s := by
  induction s with
  | nil => rfl
  | cons c s ih =>
    rw [List.all_cons, Bool.and_eq_true, Nat.ble_eq] at h
    rw [utf8, List.flatMap_cons, encodePoint, if_pos (by omega), List.map_append, ← utf8, ih h.2]
    rw [List.map_cons, toNat_ofNat_of_lt (by omega)]
    rfl

theorem encodable_ascii {s : PyStr} (h : s.all (Nat.ble · 127) = true) : encodable s = true := by
  rw [encodable, List.all_eq_true]
  rw [List.all_eq_true] at h
  intro c hc
  have hle := Nat.ble_eq.mp (h c hc)
  exact (isScalar_iff c).mpr (.inl (by omega))

/-- The hash of an ASCII text, when it is evaluated from the characters. -/
theorem sha256_utf8 {s : PyStr} {n : ℕ} (h : digestFrom s 63 0 initial 0 = some n) :
    encodable s = true ∧ sha256 (utf8 s) = .ofNat 256 n := by
  obtain ⟨hall, hn⟩ := digestFrom_eq h
  have hbytes := utf8_ascii hall
  have hlength : (utf8 s).length = s.length := by rw [← List.length_map (f := UInt8.toNat), hbytes]
  rw [Nat.zero_add] at hn
  rw [sha256, hbytes, hlength, ← hn]
  exact ⟨encodable_ascii hall, rfl⟩

end Evaluation

end EvaluationLab.Python.Sha256
