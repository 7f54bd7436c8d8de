import Mathlib.Data.List.DropRight
import Mathlib.Data.List.Infix
import Mathlib.Data.List.Sort
import Mathlib.Data.Int.Notation
import Mathlib.Data.Nat.Notation

/-! Python strings as lists of code points. A lone surrogate is an ordinary member of a
string; it only fails when the string is encoded. -/
namespace EvaluationLab.Python

/-- A `str` value: its code points, lone surrogates included. -/
abbrev PyStr := List ℕ

-- named instances: a definition that looks up a text holds no proof of its own
instance lawfulBEq_text : LawfulBEq PyStr := List.instLawfulBEq

instance lawfulBEq_textPair : LawfulBEq (PyStr × PyStr) := inferInstance

/-- Code points removed by `str.strip()`. -/
def isSpace (c : ℕ) : Bool :=
  (9 ≤ c && c ≤ 13) || (28 ≤ c && c ≤ 32) || c == 0x85 || c == 0xA0 || c == 0x1680 ||
  (0x2000 ≤ c && c ≤ 0x200A) || c == 0x2028 || c == 0x2029 || c == 0x202F || c == 0x205F ||
  c == 0x3000

def strip (s : PyStr) : PyStr :=
  ((s.dropWhile isSpace).reverse.dropWhile isSpace).reverse

/-- Only Unicode scalar values have a UTF-8 encoding. -/
def isScalar (c : ℕ) : Bool :=
  c < 0xD800 || (0xDFFF < c && c < 0x110000)

def encodable (s : PyStr) : Bool := s.all isScalar

def encodePoint (c : ℕ) : List UInt8 :=
  if c < 0x80 then [.ofNat c]
  else if c < 0x800 then [.ofNat (0xC0 + c / 64), .ofNat (0x80 + c % 64)]
  else if c < 0x10000 then
    [.ofNat (0xE0 + c / 4096), .ofNat (0x80 + c / 64 % 64), .ofNat (0x80 + c % 64)]
  else
    [.ofNat (0xF0 + c / 262144), .ofNat (0x80 + c / 4096 % 64), .ofNat (0x80 + c / 64 % 64),
      .ofNat (0x80 + c % 64)]

/-- The bytes of an encodable string. -/
def utf8 (s : PyStr) : List UInt8 := s.flatMap encodePoint

/-- Strict UTF-8 decoding: `need` continuation bytes are owed to the code point read so far
in `acc`, the next of them between `lo` and `hi`. -/
def decodeFrom : (need acc lo hi : Nat) → List UInt8 → Option PyStr
  | 0, _, _, _, [] => some []
  | _ + 1, _, _, _, [] => none
  | 0, _, _, _, b :: bs =>
    let n := b.toNat
    if n < 0x80 then (decodeFrom 0 0 0 0 bs).map (n :: ·)
    else if 0xC2 ≤ n && n ≤ 0xDF then decodeFrom 1 (n - 0xC0) 0x80 0xBF bs
    else if n == 0xE0 then decodeFrom 2 0 0xA0 0xBF bs
    else if n == 0xED then decodeFrom 2 0xD 0x80 0x9F bs
    else if 0xE1 ≤ n && n ≤ 0xEF then decodeFrom 2 (n - 0xE0) 0x80 0xBF bs
    else if n == 0xF0 then decodeFrom 3 0 0x90 0xBF bs
    else if 0xF1 ≤ n && n ≤ 0xF3 then decodeFrom 3 (n - 0xF0) 0x80 0xBF bs
    else if n == 0xF4 then decodeFrom 3 4 0x80 0x8F bs
    else none
  | need + 1, acc, lo, hi, b :: bs =>
    let n := b.toNat
    if lo ≤ n && n ≤ hi then
      if need = 0 then (decodeFrom 0 0 0 0 bs).map ((acc * 64 + (n - 0x80)) :: ·)
      else decodeFrom need (acc * 64 + (n - 0x80)) 0x80 0xBF bs
    else none

def decodeUtf8 (bytes : List UInt8) : Option PyStr := decodeFrom 0 0 0 0 bytes

/-- The string written by a literal. Its bytes are decoded here because the code points of a
`String` do not evaluate in reasonable time. -/
def py (s : String) : PyStr := (decodeUtf8 s.toByteArray.data.toList).getD []

instance : Coe String PyStr := ⟨py⟩

/-- `needle in s`. -/
def contains (needle : PyStr) : PyStr → Bool
  | [] => needle.isPrefixOf []
  | c :: s => needle.isPrefixOf (c :: s) || contains needle s

/-- Python compares strings by code point. -/
def strLt : PyStr → PyStr → Bool
  | _, [] => false
  | [], _ :: _ => true
  | a :: s, b :: t => a < b || (a == b && strLt s t)

def strLe (s t : PyStr) : Bool := !strLt t s

/-- Lower-casing of an ASCII code point. -/
def asciiLower (c : ℕ) : ℕ := if 65 ≤ c && c ≤ 90 then c + 32 else c

def isAsciiDigit (c : ℕ) : Bool := 48 ≤ c && c ≤ 57

def isAsciiWord (c : ℕ) : Bool :=
  isAsciiDigit c || (65 ≤ c && c ≤ 90) || (97 ≤ c && c ≤ 122) || c == 95

/-- `str(n)` for a natural number. -/
def natText (n : ℕ) : PyStr := (Nat.toDigits 10 n).map Char.toNat

/-- `str(n)`. -/
def intText (n : ℤ) : PyStr := if n < 0 then 45 :: natText n.natAbs else natText n.natAbs

theorem contains_iff (needle s : PyStr) : contains needle s = true ↔ needle <:+: s := by
  induction s with
  | nil => simp [contains, List.infix_nil]
  | cons c s ih => simp [contains, ih, List.infix_cons_iff]

/-- A needle with a code point the string lacks is not in it. -/
theorem contains_eq_false {needle s : PyStr} {c : ℕ} (hn : c ∈ needle) (hs : c ∉ s) :
    contains needle s = false := by
  rw [← Bool.not_eq_true, contains_iff]
  exact fun h => hs (h.subset hn)

theorem encodable_append (s t : PyStr) : encodable (s ++ t) = (encodable s && encodable t) := by
  simp [encodable]

theorem encodable_of_ascii {s : PyStr} (h : ∀ c ∈ s, c < 128) : encodable s = true := by
  simp only [encodable, List.all_eq_true]
  intro c hc
  have hlt : c < 0xD800 := (h c hc).trans (by decide)
  simp [isScalar, hlt]

theorem natText_digit {n : ℕ} {c : ℕ} (h : c ∈ natText n) : isAsciiDigit c = true := by
  obtain ⟨d, hd, rfl⟩ := List.mem_map.mp h
  have hdigit := Nat.isDigit_of_mem_toDigits (by decide) (by decide) hd
  simpa [Char.isDigit, isAsciiDigit, UInt32.le_iff_toNat_le] using hdigit

theorem natText_ascii {n : ℕ} {c : ℕ} (h : c ∈ natText n) : c < 128 := by
  have hd := natText_digit h
  simp only [isAsciiDigit, Bool.and_eq_true, decide_eq_true_eq] at hd
  omega

theorem intText_ascii {n : ℤ} {c : ℕ} (h : c ∈ intText n) : c < 128 := by
  unfold intText at h
  split_ifs at h
  · rcases List.mem_cons.mp h with rfl | h
    · decide
    · exact natText_ascii h
  · exact natText_ascii h

/-- A text is its own strip when it neither starts nor ends with a space. -/
theorem strip_eq_self_iff (s : PyStr) :
    strip s = s ↔ (∀ c ∈ s.head?, isSpace c = false) ∧ ∀ c ∈ s.getLast?, isSpace c = false := by
  have hstrip : strip s = (s.dropWhile isSpace).rdropWhile isSpace := rfl
  rw [hstrip]
  constructor
  · intro h
    have hlen := congrArg List.length h
    have hle := (List.rdropWhile_prefix isSpace (l := s.dropWhile isSpace)).length_le
    have hsuffix := List.dropWhile_suffix isSpace (l := s)
    have hdrop : s.dropWhile isSpace = s := hsuffix.eq_of_length (le_antisymm hsuffix.length_le (hlen ▸ hle))
    rw [hdrop] at h
    constructor
    · intro c hc
      cases s with
      | nil => cases hc
      | cons d s =>
        cases hc
        have hd := List.dropWhile_eq_self_iff.mp hdrop (by simp)
        simpa using hd
    · intro c hc
      obtain ⟨hne, rfl⟩ := List.mem_getLast?_eq_getLast hc
      simpa using List.rdropWhile_eq_self_iff.mp h hne
  · rintro ⟨hhead, hlast⟩
    have hdrop : s.dropWhile isSpace = s := by
      rw [List.dropWhile_eq_self_iff]
      intro hl
      cases s with
      | nil => cases hl
      | cons d s => simpa using hhead d rfl
    rw [hdrop, List.rdropWhile_eq_self_iff]
    intro hne
    simpa using hlast _ (List.getLast?_eq_some_getLast hne)

theorem strip_strip (s : PyStr) : strip (strip s) = strip s := by
  rw [strip_eq_self_iff]
  have hstrip : strip s = (s.dropWhile isSpace).rdropWhile isSpace := rfl
  constructor
  · intro c hc
    rw [hstrip] at hc
    obtain ⟨rest, hrest⟩ := List.rdropWhile_prefix isSpace (l := s.dropWhile isSpace)
    have hhead : (s.dropWhile isSpace).head? = some c := by
      rw [← hrest, List.head?_append, hc]
      rfl
    have hfirst := List.head?_dropWhile_not isSpace s
    rw [hhead] at hfirst
    simpa using hfirst
  · intro c hc
    rw [hstrip] at hc
    obtain ⟨hne, rfl⟩ := List.mem_getLast?_eq_getLast hc
    simpa using List.rdropWhile_last_not isSpace _ hne

/-- A text put before a stripped one, not starting with a space. -/
theorem strip_append_eq_self {c : ℕ} {s t : PyStr} (hc : isSpace c = false) (ht : strip t = t) (hne : t ≠ []) :
    strip (c :: s ++ t) = c :: s ++ t := by
  rw [strip_eq_self_iff] at ht ⊢
  constructor
  · intro d hd
    cases hd
    exact hc
  · intro d hd
    rw [List.getLast?_append_of_ne_nil _ hne] at hd
    exact ht.2 d hd

end EvaluationLab.Python
