import EvaluationLab.Python.JsonDecoder
import EvaluationLab.Python.Order
import EvaluationLab.Python.Utf8

/-! Reading back what was rendered: `json.loads(json.dumps(value))` is the value, with the keys of
every object in their sorted order. -/
namespace EvaluationLab.Python

section Words

theorem null_eq : py "null" = 110 :: py "ull" := by
  rw [py_ofList, py_ofList]
  rfl

theorem true_eq : py "true" = 116 :: py "rue" := by
  rw [py_ofList, py_ofList]
  rfl

theorem false_eq : py "false" = 102 :: py "alse" := by
  rw [py_ofList, py_ofList]
  rfl

theorem nan_eq : py "NaN" = 78 :: py "aN" := by
  rw [py_ofList, py_ofList]
  rfl

theorem infinity_eq : py "Infinity" = 73 :: py "nfinity" := by
  rw [py_ofList, py_ofList]
  rfl

theorem negativeInfinity_eq : py "-Infinity" = 45 :: py "Infinity" := by
  rw [py_ofList, py_ofList]
  rfl

end Words

section Numbers

theorem natText_small {n : ℕ} (h : n < 10) : natText n = [48 + n] := by
  have hall : ∀ n < 10, natText n = [48 + n] := by decide
  exact hall n h

theorem natText_step {n : ℕ} (h : 10 ≤ n) : natText n = natText (n / 10) ++ [48 + n % 10] := by
  have hmod : n % 10 < 10 := Nat.mod_lt n (by decide)
  have hlast : (Nat.digitChar (n % 10)).toNat = 48 + n % 10 := by
    have hall : ∀ d < 10, (Nat.digitChar d).toNat = 48 + d := by decide
    exact hall _ hmod
  rw [natText, Nat.toDigits_of_base_le (by decide) h, List.map_append, List.map_singleton, hlast]
  rfl

/-- The digits of a number read as it. -/
theorem digitsValue_natText (n : ℕ) : digitsValue (natText n) = n := by
  induction n using Nat.strongRecOn with
  | _ n ih =>
    by_cases h : n < 10
    · rw [natText_small h]
      simp [digitsValue]
    · rw [natText_step (by omega), digitsValue, List.foldl_append, ← digitsValue, ih (n / 10) (by omega)]
      simp only [List.foldl_cons, List.foldl_nil]
      omega

theorem natText_ne_nil (n : ℕ) : natText n ≠ [] := by
  rw [natText, ne_eq, List.map_eq_nil_iff]
  exact Nat.toDigits_ne_nil

/-- A number above zero does not begin with a zero. -/
theorem head_natText {n : ℕ} (h : 0 < n) : (natText n).head? ≠ some 48 := by
  induction n using Nat.strongRecOn with
  | _ n ih =>
    by_cases hn : n < 10
    · rw [natText_small hn, List.head?_cons, ne_eq, Option.some.injEq]
      omega
    · rw [natText_step (by omega), List.head?_append_of_ne_nil _ (natText_ne_nil _)]
      exact ih (n / 10) (by omega) (by omega)

theorem length_natText {n : ℕ} (h : n < 10 ^ maxStrDigits) : (natText n).length ≤ maxStrDigits := by
  rw [natText, List.length_map]
  exact (Nat.length_toDigits_le_iff (by decide) (by decide)).mpr h

/-- The character that may stand after a rendered value. -/
def Ends (rest : PyStr) : Prop := rest = [] ∨ ∃ c s, rest = c :: s ∧ (c = 44 ∨ c = 93 ∨ c = 125)

theorem Ends.takeWhile {rest : PyStr} (h : Ends rest) (s : PyStr) (hs : ∀ c ∈ s, isAsciiDigit c = true) :
    (s ++ rest).takeWhile isAsciiDigit = s := by
  rw [List.takeWhile_append_of_pos hs]
  rcases h with rfl | ⟨c, t, rfl, rfl | rfl | rfl⟩ <;> simp [isAsciiDigit]

theorem Ends.takeFraction {rest : PyStr} (h : Ends rest) : takeFraction rest = ([], rest) := by
  rcases h with rfl | ⟨c, t, rfl, rfl | rfl | rfl⟩ <;> rfl

theorem Ends.takeExponent {rest : PyStr} (h : Ends rest) : takeExponent rest = (none, rest) := by
  rcases h with rfl | ⟨c, t, rfl, rfl | rfl | rfl⟩ <;> rfl

variable [PyRuntime]

/-- A literal whose leading digits are known, and that nothing of a number follows. -/
theorem parseNumber_digits (negative : Bool) {digits rest : PyStr} (hdigits : ∀ c ∈ digits, isAsciiDigit c = true)
    (hne : digits ≠ []) (hzero : digits.head? = some 48 → digits = [48]) (hlength : digits.length ≤ maxStrDigits)
    (hrest : Ends rest) : parseNumber negative (digits ++ rest) =
      .ok (.int ((if negative then -1 else 1) * digitsValue digits), rest) := by
  have htake := hrest.takeWhile digits hdigits
  unfold parseNumber
  split
  · rename_i tail heq
    have hone : digits = [48] := by
      apply hzero
      cases digits with
      | nil => exact absurd rfl hne
      | cons c s =>
        rw [List.cons_append] at heq
        rw [(List.cons.inj heq).1]
        rfl
    subst hone
    obtain rfl : tail = rest := (List.cons.inj heq).2.symm
    dsimp only
    rw [if_neg (by decide), List.length_singleton, List.drop_one, List.singleton_append, List.tail_cons,
      hrest.takeFraction]
    dsimp only
    rw [hrest.takeExponent]
    dsimp only
    rw [if_pos ⟨rfl, rfl⟩, if_neg (by decide)]
  · dsimp only
    rw [htake, if_neg hne, List.drop_left, hrest.takeFraction]
    dsimp only
    rw [hrest.takeExponent]
    dsimp only
    rw [if_pos ⟨rfl, rfl⟩, if_neg (by omega)]

theorem parseNumber_natText (negative : Bool) {n : ℕ} {rest : PyStr} (hn : n < 10 ^ maxStrDigits) (hrest : Ends rest) :
    parseNumber negative (natText n ++ rest) = .ok (.int ((if negative then -1 else 1) * n), rest) := by
  rw [parseNumber_digits negative (fun c => natText_digit) (natText_ne_nil n) ?_ (length_natText hn) hrest,
    digitsValue_natText]
  intro hhead
  by_cases h : n = 0
  · rw [h]
    exact natText_small (by decide)
  · exact absurd hhead (head_natText (Nat.pos_of_ne_zero h))

end Numbers

section Strings

/-- A quote ends the text. -/
example (rest : PyStr) : parseString (34 :: rest) = .ok ([], rest) := by rw [parseString]

theorem parseString_simple {x n : ℕ} {tail : PyStr} {r : PyStr × PyStr} (hx : x ≠ 117) (hn : simpleEscape x = some n)
    (htail : parseString tail = .ok r) : parseString (92 :: x :: tail) = .ok (n :: r.1, r.2) := by
  rw [parseString]
  · rw [hn, htail]
    rfl
  · intro a b c d rest heq
    exact absurd heq hx

theorem parseString_hex {a b c d n : ℕ} {tail : PyStr} {r : PyStr × PyStr} (hn : hex4 a b c d = some n)
    (hlow : isHighSurrogate n = false) (htail : parseString tail = .ok r) :
    parseString (92 :: 117 :: a :: b :: c :: d :: tail) = .ok (n :: r.1, r.2) := by
  rw [parseString, hn]
  dsimp only
  split
  · rename_i e f g h rest
    cases hm : hex4 e f g h with
    | none =>
      rw [parseString, hm] at htail
      cases htail
    | some m =>
      dsimp only
      rw [hlow, Bool.false_and, if_neg Bool.false_ne_true, htail]
      rfl
  · rw [htail]
    rfl

theorem parseString_plain {c : ℕ} {tail : PyStr} {r : PyStr × PyStr} (hc : 32 ≤ c) (hquote : c ≠ 34) (hslash : c ≠ 92)
    (htail : parseString tail = .ok r) : parseString (c :: tail) = .ok (c :: r.1, r.2) := by
  rw [parseString]
  · have hplain : ¬((c < 32 || c == 92) = true) := by
      simp only [Bool.or_eq_true, decide_eq_true_eq, beq_iff_eq, not_or, not_lt]
      exact ⟨hc, hslash⟩
    rw [if_neg hplain, htail]
    rfl
  · exact hquote
  · intro _ _ _ _ _ heq
    exact absurd heq hslash
  · intro _ _ heq
    exact absurd heq hslash

theorem hex4_control {c : ℕ} (h : c < 32) : hex4 48 48 (hexDigit (c / 16)) (hexDigit (c % 16)) = some c := by
  have hall : ∀ c < 32, hex4 48 48 (hexDigit (c / 16)) (hexDigit (c % 16)) = some c := by decide
  exact hall c h

/-- An escaped text reads as the text. -/
theorem parseString_escape (s rest : PyStr) : parseString (s.flatMap escapePoint ++ 34 :: rest) = .ok (s, rest) := by
  induction s with
  | nil => rfl
  | cons c s ih =>
    rw [List.flatMap_cons, List.append_assoc]
    unfold escapePoint
    split_ifs with h1 h2 h3 h4 h5 h6 h7 h8
    · subst h1
      exact parseString_simple (by decide) rfl ih
    · subst h2
      exact parseString_simple (by decide) rfl ih
    · subst h3
      exact parseString_simple (by decide) rfl ih
    · subst h4
      exact parseString_simple (by decide) rfl ih
    · subst h5
      exact parseString_simple (by decide) rfl ih
    · subst h6
      exact parseString_simple (by decide) rfl ih
    · subst h7
      exact parseString_simple (by decide) rfl ih
    · refine parseString_hex (hex4_control h8) ?_ ih
      simp only [isHighSurrogate, Bool.and_eq_false_iff, decide_eq_false_iff_not]
      omega
    · exact parseString_plain (by omega) h1 h2 ih

end Strings

section Values

/-- A character that a value may begin with. -/
def startsValue (c : ℕ) : Bool :=
  isAsciiDigit c || c == 34 || c == 123 || c == 91 || c == 110 || c == 116 || c == 102 || c == 78 || c == 73 || c == 45

mutual

/-- How deep lists and objects are nested. -/
def nesting : Json → ℕ
  | .arr items => itemsNesting items + 1
  | .obj fields => fieldsNesting fields + 1
  | _ => 0

def itemsNesting : List Json → ℕ
  | [] => 0
  | v :: vs => max (nesting v) (itemsNesting vs)

def fieldsNesting : List (PyStr × Json) → ℕ
  | [] => 0
  | (_, v) :: fs => max (nesting v) (fieldsNesting fs)

end

mutual

/-- Fuel that is enough to read a value. -/
def cost : Json → ℕ
  | .arr items => itemsCost items + 1
  | .obj fields => fieldsCost fields + 1
  | _ => 1

def itemsCost : List Json → ℕ
  | [] => 0
  | v :: vs => cost v + itemsCost vs + 1

def fieldsCost : List (PyStr × Json) → ℕ
  | [] => 0
  | (_, v) :: fs => cost v + fieldsCost fs + 1

end

variable [PyRuntime]

/-- The text of a float reads as it. -/
def ReadsBack (x : PyFloat) : Prop :=
  ∀ depth fuel rest, Ends rest → parseValue depth (fuel + 1) (renderFloat x ++ rest) = .ok (.float x, rest)

mutual

/-- A document that is read back as it stands: its integers can be printed, its floats read as
themselves, and the keys of each object increase. -/
def ReadsAsWritten : Json → Prop
  | .int n => intPrintable n = true
  | .float x => ReadsBack x
  | .arr items => ItemsReadAsWritten items
  | .obj fields => (fields.map Prod.fst).Pairwise (fun k l => strLt k l = true) ∧ FieldsReadAsWritten fields
  | _ => True

def ItemsReadAsWritten : List Json → Prop
  | [] => True
  | v :: vs => ReadsAsWritten v ∧ ItemsReadAsWritten vs

def FieldsReadAsWritten : List (PyStr × Json) → Prop
  | [] => True
  | (_, v) :: fs => ReadsAsWritten v ∧ FieldsReadAsWritten fs

end

theorem parseNumber_of_noDigit {c : ℕ} {t : PyStr} (h : ¬isAsciiDigit c = true) :
    parseNumber false (c :: t) = .error jsonDecodeError := by
  unfold parseNumber
  split
  · rename_i tail heq
    rw [(List.cons.inj heq).1] at h
    exact absurd rfl h
  · dsimp only
    rw [List.takeWhile_cons_of_neg h, if_pos rfl]

/-- A text that opens neither a string nor a container. -/
theorem parseValue_plain {depth fuel c : ℕ} {t : PyStr} (hquote : c ≠ 34) (hbrace : c ≠ 123) (hbracket : c ≠ 91) :
    parseValue depth (fuel + 1) (c :: t) =
      if (py "null").isPrefixOf (c :: t) then .ok (.null, t.drop 3)
      else if (py "true").isPrefixOf (c :: t) then .ok (.bool true, t.drop 3)
      else if (py "false").isPrefixOf (c :: t) then .ok (.bool false, t.drop 4)
      else if (py "NaN").isPrefixOf (c :: t) then .ok (.float .nan, t.drop 2)
      else if (py "Infinity").isPrefixOf (c :: t) then .ok (.float (.infinity false), t.drop 7)
      else if (py "-Infinity").isPrefixOf (c :: t) then .ok (.float (.infinity true), t.drop 8)
      else if c = 45 then parseNumber true t
      else parseNumber false (c :: t) := by
  rw [parseValue.eq_def]
  dsimp only
  rw [if_neg hquote, if_neg hbrace, if_neg hbracket]

omit [PyRuntime] in
theorem not_isPrefixOf {c d : ℕ} {w t : PyStr} (h : c ≠ d) : ¬((d :: w).isPrefixOf (c :: t) = true) := by
  rw [List.isPrefixOf_iff_prefix]
  intro hp
  exact h (List.cons_prefix_cons.mp hp).1.symm

/-- What was read began with a character of a value. -/
theorem startsValue_of_parse {depth fuel : ℕ} {s : PyStr} {r : Json × PyStr} (h : parseValue depth fuel s = .ok r) :
    ∃ c t, s = c :: t ∧ startsValue c = true := by
  cases fuel with
  | zero => cases s <;> cases h
  | succ fuel =>
    cases s with
    | nil => cases h
    | cons c t =>
      refine ⟨c, t, rfl, ?_⟩
      by_contra hstart
      simp only [startsValue, Bool.or_eq_true, beq_iff_eq, not_or] at hstart
      obtain ⟨⟨⟨⟨⟨⟨⟨⟨⟨hdigit, hquote⟩, hbrace⟩, hbracket⟩, hn⟩, ht⟩, hf⟩, hN⟩, hI⟩, hminus⟩ := hstart
      rw [parseValue_plain hquote hbrace hbracket, null_eq, if_neg (not_isPrefixOf hn), true_eq,
        if_neg (not_isPrefixOf ht), false_eq, if_neg (not_isPrefixOf hf), nan_eq, if_neg (not_isPrefixOf hN),
        infinity_eq, if_neg (not_isPrefixOf hI), negativeInfinity_eq, if_neg (not_isPrefixOf hminus), if_neg hminus,
        parseNumber_of_noDigit hdigit] at h
      cases h

/-- The first character of a number. -/
theorem parseValue_number {depth fuel c : ℕ} {t : PyStr} (h : isAsciiDigit c = true) :
    parseValue depth (fuel + 1) (c :: t) = parseNumber false (c :: t) := by
  simp only [isAsciiDigit, Bool.and_eq_true, decide_eq_true_eq] at h
  rw [parseValue_plain (by omega) (by omega) (by omega), null_eq, if_neg (not_isPrefixOf (by omega)),
    true_eq, if_neg (not_isPrefixOf (by omega)), false_eq, if_neg (not_isPrefixOf (by omega)), nan_eq,
    if_neg (not_isPrefixOf (by omega)), infinity_eq, if_neg (not_isPrefixOf (by omega)), negativeInfinity_eq,
    if_neg (not_isPrefixOf (by omega)), if_neg (by omega)]

/-- The sign of a number, when a digit follows it. -/
theorem parseValue_minus {depth fuel c : ℕ} {t : PyStr} (h : isAsciiDigit c = true) :
    parseValue depth (fuel + 1) (45 :: c :: t) = parseNumber true (c :: t) := by
  have hI : c ≠ 73 := by
    rintro rfl
    exact absurd h (by decide)
  have hword : ¬((45 :: py "Infinity").isPrefixOf (45 :: c :: t) = true) := by
    rw [List.isPrefixOf_iff_prefix, infinity_eq]
    intro hp
    exact hI (List.cons_prefix_cons.mp (List.cons_prefix_cons.mp hp).2).1.symm
  rw [parseValue_plain (by decide) (by decide) (by decide), null_eq, if_neg (not_isPrefixOf (by decide)), true_eq,
    if_neg (not_isPrefixOf (by decide)), false_eq, if_neg (not_isPrefixOf (by decide)), nan_eq,
    if_neg (not_isPrefixOf (by decide)), infinity_eq, if_neg (not_isPrefixOf (by decide)), negativeInfinity_eq,
    if_neg hword, if_pos rfl]

omit [PyRuntime] in
theorem sign_natAbs (n : ℤ) : (if n < 0 then -1 else 1) * (n.natAbs : ℤ) = n := by
  split_ifs with h <;> omega

theorem parseValue_int {depth fuel : ℕ} {n : ℤ} {rest : PyStr} (hn : intPrintable n = true) (hrest : Ends rest) :
    parseValue depth (fuel + 1) (intText n ++ rest) = .ok (.int n, rest) := by
  have hlt : n.natAbs < 10 ^ maxStrDigits := of_decide_eq_true hn
  have hread := fun negative => parseNumber_natText negative hlt hrest
  have hvalue := sign_natAbs n
  clear hlt hn
  unfold intText
  cases hdigits : natText n.natAbs with
  | nil => exact absurd hdigits (natText_ne_nil _)
  | cons c t =>
    rw [hdigits] at hread
    have hdigit : isAsciiDigit c = true := natText_digit (n := n.natAbs) (by rw [hdigits]; exact List.mem_cons_self)
    by_cases hsign : n < 0
    · rw [if_pos hsign] at hvalue
      rw [if_pos hsign, List.cons_append, List.cons_append, parseValue_minus hdigit, ← List.cons_append, hread true,
        if_pos rfl, hvalue]
    · rw [if_neg hsign] at hvalue
      rw [if_neg hsign, List.cons_append, parseValue_number hdigit, ← List.cons_append, hread false,
        if_neg Bool.false_ne_true, hvalue]

omit [PyRuntime] in
theorem skipSpace_startsValue {c : ℕ} {t : PyStr} (h : startsValue c = true) : skipSpace (c :: t) = c :: t := by
  have hspace : ¬isJsonSpace c = true := by
    simp only [startsValue, isAsciiDigit, Bool.or_eq_true, Bool.and_eq_true, decide_eq_true_eq, beq_iff_eq] at h
    simp only [isJsonSpace, Bool.or_eq_true, beq_iff_eq]
    omega
  exact List.dropWhile_cons_of_neg hspace

/-- What reads as a value has no space before it. -/
theorem skipSpace_of_parse {depth fuel : ℕ} {s : PyStr} {r : Json × PyStr} (h : parseValue depth fuel s = .ok r) :
    skipSpace s = s := by
  obtain ⟨c, t, rfl, hc⟩ := startsValue_of_parse h
  exact skipSpace_startsValue hc

theorem parseValue_array {depth fuel c : ℕ} {t : PyStr} (hc : startsValue c = true) :
    parseValue (depth + 1) (fuel + 1) (91 :: c :: t) = parseItems depth fuel [] (c :: t) := by
  rw [parseValue.eq_def]
  dsimp only
  rw [if_neg (by decide), if_neg (by decide), if_pos rfl, skipSpace_startsValue hc]
  split
  · rename_i heq
    rw [(List.cons.inj heq).1] at hc
    exact absurd hc (by decide)
  · rfl

theorem parseValue_object {depth fuel : ℕ} {s : PyStr} :
    parseValue (depth + 1) (fuel + 1) (123 :: 34 :: s) = parseMembers depth fuel [] (34 :: s) := by
  rw [parseValue.eq_def]
  rfl

omit [PyRuntime] in
theorem dictSet_fresh {fields : List (PyStr × Json)} {key : PyStr} (value : Json) (h : ∀ f ∈ fields, f.1 ≠ key) :
    dictSet fields key value = fields ++ [(key, value)] := by
  have hlookup : fields.lookup key = none := by
    rw [List.lookup_eq_none_iff]
    intro f hf
    exact bne_iff_ne.mpr (h f hf).symm
  rw [dictSet, hlookup, if_neg (by simp)]

theorem map_renderFields (fields : List (PyStr × Json)) :
    renderFields fields = fields.map fun f => (f.1, render f.2) := by
  induction fields with
  | nil => rfl
  | cons f fs ih => rw [renderFields, ih, List.map_cons]

/-- Keys that increase are in their sorted order. -/
theorem sortByKey_renderFields {fields : List (PyStr × Json)}
    (h : (fields.map Prod.fst).Pairwise (fun k l => strLt k l = true)) :
    sortByKey (renderFields fields) = renderFields fields := by
  apply List.Pairwise.insertionSort_eq
  rw [map_renderFields, List.pairwise_map]
  rw [List.pairwise_map] at h
  exact h.imp strLe_of_strLt

/-- A rendered value begins as a value does. -/
theorem startsValue_render {v : Json} (h : ReadsAsWritten v) : ∃ c t, render v = c :: t ∧ startsValue c = true := by
  cases v with
  | null => exact ⟨110, py "ull", null_eq, rfl⟩
  | bool b =>
    cases b with
    | true => exact ⟨116, py "rue", true_eq, rfl⟩
    | false => exact ⟨102, py "alse", false_eq, rfl⟩
  | int n =>
    have hread : parseValue 0 1 (intText n ++ []) = .ok (.int n, []) := parseValue_int h (Or.inl rfl)
    rw [List.append_nil] at hread
    exact startsValue_of_parse hread
  | float x =>
    have hread := h 0 0 [] (Or.inl rfl)
    rw [List.append_nil] at hread
    exact startsValue_of_parse hread
  | str s => exact ⟨34, _, rfl, rfl⟩
  | arr items => exact ⟨91, _, rfl, rfl⟩
  | obj fields => exact ⟨123, _, rfl, rfl⟩

/-- Rendered items begin as the first of them does. -/
theorem startsValue_items {v : Json} (vs : List Json) (h : ReadsAsWritten v) :
    ∃ c t, commaJoin (renderItems (v :: vs)) = c :: t ∧ startsValue c = true := by
  obtain ⟨c, t, hv, hc⟩ := startsValue_render h
  cases vs with
  | nil => exact ⟨c, t, hv, hc⟩
  | cons w ws =>
    refine ⟨c, t ++ 44 :: commaJoin (renderItems (w :: ws)), ?_, hc⟩
    rw [← List.cons_append, ← hv]
    rfl

theorem render_arr_append (items : List Json) (rest : PyStr) :
    render (.arr items) ++ rest = 91 :: (commaJoin (renderItems items) ++ 93 :: rest) := by
  simp [render]

/-- Rendered members, in the order they are given. -/
def membersText (fields : List (PyStr × Json)) : PyStr :=
  commaJoin ((renderFields fields).map fun m => renderString m.1 ++ 58 :: m.2)

theorem render_obj_append {fields : List (PyStr × Json)} (rest : PyStr)
    (h : (fields.map Prod.fst).Pairwise (fun k l => strLt k l = true)) :
    render (.obj fields) ++ rest = 123 :: (membersText fields ++ 125 :: rest) := by
  simp [render, sortByKey_renderFields h, membersText]

theorem membersText_append (k : PyStr) (v : Json) (fs : List (PyStr × Json)) (rest : PyStr) :
    membersText ((k, v) :: fs) ++ 125 :: rest = 34 :: (k.flatMap escapePoint ++ 34 :: 58 :: (render v ++
      match fs with
      | [] => 125 :: rest
      | f :: fs => 44 :: (membersText (f :: fs) ++ 125 :: rest))) := by
  cases fs with
  | nil => simp [membersText, renderFields, commaJoin, renderString]
  | cons f fs => simp [membersText, renderFields, commaJoin, renderString]

/-- The last member of an object. -/
theorem parseMembers_last {depth fuel : ℕ} {fields : List (PyStr × Json)} {s t key rest : PyStr} {v : Json}
    (hkey : parseString s = .ok (key, 58 :: t)) (hspace : skipSpace t = t)
    (hvalue : parseValue depth fuel t = .ok (v, 125 :: rest)) :
    parseMembers depth (fuel + 1) fields (34 :: s) = .ok (.obj (dictSet fields key v), rest) := by
  rw [parseMembers.eq_def]
  change (parseString s >>= _) = _
  rw [hkey]
  change (parseValue depth fuel (skipSpace t) >>= _) = _
  rw [hspace, hvalue]
  rfl

/-- A member that another follows. -/
theorem parseMembers_next {depth fuel : ℕ} {fields : List (PyStr × Json)} {s t u key : PyStr} {v : Json}
    (hkey : parseString s = .ok (key, 58 :: t)) (hspace : skipSpace t = t)
    (hvalue : parseValue depth fuel t = .ok (v, 44 :: u)) :
    parseMembers depth (fuel + 1) fields (34 :: s) = parseMembers depth fuel (dictSet fields key v) (skipSpace u) := by
  rw [parseMembers.eq_def]
  change (parseString s >>= _) = _
  rw [hkey]
  change (parseValue depth fuel (skipSpace t) >>= _) = _
  rw [hspace, hvalue]
  rfl

mutual

/-- A rendered value reads as the value, whatever follows it. -/
theorem parseValue_render : ∀ (v : Json) {depth fuel : ℕ} {rest : PyStr}, nesting v ≤ depth → cost v ≤ fuel →
    ReadsAsWritten v → Ends rest → parseValue depth fuel (render v ++ rest) = .ok (v, rest)
  | .null, depth, fuel + 1, rest, _, _, _, _ => by
    rw [render, null_eq, List.cons_append, parseValue_plain (by decide) (by decide) (by decide), null_eq]
    rfl
  | .bool true, depth, fuel + 1, rest, _, _, _, _ => by
    rw [render, true_eq, List.cons_append, parseValue_plain (by decide) (by decide) (by decide), null_eq,
      if_neg (not_isPrefixOf (by decide)), true_eq]
    rfl
  | .bool false, depth, fuel + 1, rest, _, _, _, _ => by
    rw [render, false_eq, List.cons_append, parseValue_plain (by decide) (by decide) (by decide), null_eq,
      if_neg (not_isPrefixOf (by decide)), true_eq, if_neg (not_isPrefixOf (by decide)), false_eq]
    rfl
  | .int n, depth, fuel + 1, rest, _, _, hread, hrest => parseValue_int hread hrest
  | .float x, depth, fuel + 1, rest, _, _, hread, hrest => hread depth fuel rest hrest
  | .str s, depth, fuel + 1, rest, _, _, _, _ => by
    rw [render, renderString, List.cons_append, List.cons_append, List.append_assoc, parseValue.eq_def]
    dsimp only
    rw [if_pos rfl, List.singleton_append, parseString_escape]
    rfl
  | .arr [], depth + 1, fuel + 1, rest, _, _, _, _ => by
    rw [parseValue.eq_def]
    rfl
  | .obj [], depth + 1, fuel + 1, rest, _, _, _, _ => by
    rw [parseValue.eq_def]
    rfl
  | .arr (v :: vs), depth + 1, fuel + 1, rest, hnesting, hcost, hread, hrest => by
    rw [nesting, Nat.add_le_add_iff_right] at hnesting
    rw [cost, Nat.add_le_add_iff_right] at hcost
    have hitems : parseItems depth fuel [] (commaJoin (renderItems (v :: vs)) ++ 93 :: rest) =
        .ok (.arr ([] ++ v :: vs), rest) :=
      parseItems_render (v :: vs) (List.cons_ne_nil _ _) hnesting hcost hread
    obtain ⟨c, t, htext, hc⟩ := startsValue_items vs hread.1
    rw [htext, List.cons_append] at hitems
    rw [render_arr_append, htext, List.cons_append, parseValue_array hc, hitems, List.nil_append]
  | .obj ((k, v) :: fs), depth + 1, fuel + 1, rest, hnesting, hcost, hread, hrest => by
    rw [nesting, Nat.add_le_add_iff_right] at hnesting
    rw [cost, Nat.add_le_add_iff_right] at hcost
    have hmembers : parseMembers depth fuel [] (membersText ((k, v) :: fs) ++ 125 :: rest) =
        .ok (.obj ([] ++ (k, v) :: fs), rest) :=
      parseMembers_render ((k, v) :: fs) (List.cons_ne_nil _ _) hread.1 hnesting hcost hread.2
    rw [membersText_append] at hmembers
    rw [render_obj_append rest hread.1, membersText_append, parseValue_object, hmembers, List.nil_append]

theorem parseItems_render : ∀ (vs : List Json) {depth fuel : ℕ} {items : List Json} {rest : PyStr}, vs ≠ [] →
    itemsNesting vs ≤ depth → itemsCost vs ≤ fuel → ItemsReadAsWritten vs →
    parseItems depth fuel items (commaJoin (renderItems vs) ++ 93 :: rest) = .ok (.arr (items ++ vs), rest)
  | [], _, _, _, _, hne, _, _, _ => absurd rfl hne
  | [v], depth, fuel + 1, items, rest, _, hnesting, hcost, hread => by
    have hvalue : parseValue depth fuel (render v ++ 93 :: rest) = .ok (v, 93 :: rest) := parseValue_render v
      (le_trans (le_max_left _ _) hnesting) (by rw [itemsCost] at hcost; omega) hread.1
      (Or.inr ⟨93, rest, rfl, Or.inr (Or.inl rfl)⟩)
    rw [parseItems.eq_def]
    dsimp only
    rw [renderItems, renderItems, commaJoin, hvalue]
    rfl
  | v :: w :: vs, depth, fuel + 1, items, rest, _, hnesting, hcost, hread => by
    rw [itemsCost] at hcost
    rw [itemsNesting, max_le_iff] at hnesting
    have hitems : parseItems depth fuel (items ++ [v]) (commaJoin (renderItems (w :: vs)) ++ 93 :: rest) =
        .ok (.arr (items ++ [v] ++ w :: vs), rest) := parseItems_render (w :: vs) (List.cons_ne_nil _ _) hnesting.2 (by omega) hread.2
    have hvalue : parseValue depth fuel (render v ++ 44 :: (commaJoin (renderItems (w :: vs)) ++ 93 :: rest)) =
        .ok (v, 44 :: (commaJoin (renderItems (w :: vs)) ++ 93 :: rest)) := parseValue_render v hnesting.1 (by omega) hread.1
      (Or.inr ⟨44, _, rfl, Or.inl rfl⟩)
    obtain ⟨c, t, htext, hc⟩ := startsValue_items vs hread.2.1
    have hsplit : commaJoin (renderItems (v :: w :: vs)) ++ 93 :: rest =
        render v ++ 44 :: (commaJoin (renderItems (w :: vs)) ++ 93 :: rest) := by
      simp [renderItems, commaJoin]
    rw [htext, List.cons_append, List.append_assoc, List.singleton_append] at hitems
    rw [parseItems.eq_def]
    dsimp only
    rw [hsplit, hvalue, htext, List.cons_append, ← hitems]
    change parseItems depth fuel (items ++ [v]) (skipSpace (c :: (t ++ 93 :: rest))) = _
    rw [skipSpace_startsValue hc]

theorem parseMembers_render : ∀ (fs : List (PyStr × Json)) {depth fuel : ℕ} {fields : List (PyStr × Json)}
    {rest : PyStr}, fs ≠ [] → ((fields ++ fs).map Prod.fst).Pairwise (fun k l => strLt k l = true) →
    fieldsNesting fs ≤ depth → fieldsCost fs ≤ fuel → FieldsReadAsWritten fs →
    parseMembers depth fuel fields (membersText fs ++ 125 :: rest) = .ok (.obj (fields ++ fs), rest)
  | [], _, _, _, _, hne, _, _, _, _ => absurd rfl hne
  | (k, v) :: fs, depth, fuel + 1, fields, rest, _, hkeys, hnesting, hcost, hread => by
    rw [fieldsCost] at hcost
    rw [fieldsNesting, max_le_iff] at hnesting
    have hset : dictSet fields k v = fields ++ [(k, v)] := by
      apply dictSet_fresh
      intro f hf
      rw [List.map_append, List.pairwise_append] at hkeys
      exact ne_of_strLt (hkeys.2.2 f.1 (List.mem_map_of_mem hf) k List.mem_cons_self)
    obtain ⟨c, t, htext, hc⟩ := startsValue_render hread.1
    have hspace : ∀ s, skipSpace (render v ++ s) = render v ++ s := by
      intro s
      rw [htext, List.cons_append]
      exact skipSpace_startsValue hc
    rw [membersText_append]
    cases fs with
    | nil =>
      have hvalue : parseValue depth fuel (render v ++ 125 :: rest) = .ok (v, 125 :: rest) := parseValue_render v
        hnesting.1 (by omega) hread.1 (Or.inr ⟨125, rest, rfl, Or.inr (Or.inr rfl)⟩)
      rw [parseMembers_last (parseString_escape k _) (hspace _) hvalue, hset]
    | cons f fs =>
      have hvalue : parseValue depth fuel (render v ++ 44 :: (membersText (f :: fs) ++ 125 :: rest)) =
          .ok (v, 44 :: (membersText (f :: fs) ++ 125 :: rest)) := parseValue_render v hnesting.1 (by omega) hread.1
        (Or.inr ⟨44, _, rfl, Or.inl rfl⟩)
      have hmembers : parseMembers depth fuel (fields ++ [(k, v)]) (membersText (f :: fs) ++ 125 :: rest) =
          .ok (.obj (fields ++ [(k, v)] ++ f :: fs), rest) := parseMembers_render (f :: fs) (List.cons_ne_nil _ _) (by rw [List.append_assoc]; exact hkeys) hnesting.2 (by omega) hread.2
      rw [parseMembers_next (parseString_escape k _) (hspace _) hvalue, hset]
      rw [membersText_append] at hmembers ⊢
      rw [skipSpace_startsValue rfl, hmembers, List.append_assoc]
      rfl

end

end Values

section KeyOrder

mutual

/-- The document with the keys of every object in their sorted order. -/
def sortKeys : Json → Json
  | .arr items => .arr (sortItems items)
  | .obj fields => .obj ((sortFields fields).insertionSort fun f g => strLe f.1 g.1 = true)
  | v => v

def sortItems : List Json → List Json
  | [] => []
  | v :: vs => sortKeys v :: sortItems vs

def sortFields : List (PyStr × Json) → List (PyStr × Json)
  | [] => []
  | (k, v) :: fs => (k, sortKeys v) :: sortFields fs

end

theorem map_sortFields (fields : List (PyStr × Json)) :
    sortFields fields = fields.map fun f => (f.1, sortKeys f.2) := by
  induction fields with
  | nil => rfl
  | cons f fs ih => rw [sortFields, ih, List.map_cons]

theorem sortKeys_perm {fields fields' : List (PyStr × Json)} (h : fields.Perm fields')
    (hkeys : (fields.map Prod.fst).Nodup) : sortKeys (.obj fields) = sortKeys (.obj fields') := by
  have hsorted : ((sortFields fields).map Prod.fst).Nodup := by
    rw [map_sortFields, List.map_map]
    exact hkeys
  have hperm : (sortFields fields).Perm (sortFields fields') := by
    rw [map_sortFields, map_sortFields]
    exact h.map _
  rw [sortKeys, sortKeys, insertionSort_eq_of_perm Prod.fst hperm hsorted]

/-- One more field keeps two objects the same but for the order of their keys. -/
theorem sortKeys_cons {fields fields' : List (PyStr × Json)} (f : PyStr × Json)
    (h : sortKeys (.obj fields) = sortKeys (.obj fields')) : sortKeys (.obj (f :: fields)) = sortKeys (.obj (f :: fields')) := by
  obtain ⟨k, v⟩ := f
  rw [sortKeys, sortKeys, Json.obj.injEq] at h
  rw [sortKeys, sortKeys, sortFields, sortFields, List.insertionSort_cons, List.insertionSort_cons, h]

variable [PyRuntime]

theorem renderFields_insertionSort (fields : List (PyStr × Json)) :
    renderFields (fields.insertionSort fun f g => strLe f.1 g.1 = true) = sortByKey (renderFields fields) := by
  rw [map_renderFields, map_renderFields, sortByKey]
  exact List.map_insertionSort _ _ _ _ fun _ _ _ _ => Iff.rfl

omit [PyRuntime] in
theorem sortByKey_sortByKey (members : List (PyStr × PyStr)) : sortByKey (sortByKey members) = sortByKey members :=
  List.Pairwise.insertionSort_eq (List.pairwise_insertionSort _ members)

mutual

theorem render_sortKeys : ∀ v : Json, render (sortKeys v) = render v
  | .null | .bool _ | .int _ | .float _ | .str _ => rfl
  | .arr items => by rw [sortKeys, render, render, renderItems_sortItems items]
  | .obj fields => by
    rw [sortKeys, render, render, renderFields_insertionSort, renderFields_sortFields fields, sortByKey_sortByKey]

theorem renderItems_sortItems : ∀ vs : List Json, renderItems (sortItems vs) = renderItems vs
  | [] => rfl
  | v :: vs => by rw [sortItems, renderItems, renderItems, render_sortKeys v, renderItems_sortItems vs]

theorem renderFields_sortFields : ∀ fs : List (PyStr × Json), renderFields (sortFields fs) = renderFields fs
  | [] => rfl
  | (k, v) :: fs => by rw [sortFields, renderFields, renderFields, render_sortKeys v, renderFields_sortFields fs]

end

mutual

/-- No object of the document has a key twice, and its floats read as themselves. -/
def Legible : Json → Prop
  | .float x => ReadsBack x
  | .arr items => ItemsLegible items
  | .obj fields => (fields.map Prod.fst).Nodup ∧ FieldsLegible fields
  | _ => True

def ItemsLegible : List Json → Prop
  | [] => True
  | v :: vs => Legible v ∧ ItemsLegible vs

def FieldsLegible : List (PyStr × Json) → Prop
  | [] => True
  | (_, v) :: fs => Legible v ∧ FieldsLegible fs

end

theorem fieldsReadAsWritten_iff (fields : List (PyStr × Json)) :
    FieldsReadAsWritten fields ↔ ∀ f ∈ fields, ReadsAsWritten f.2 := by
  induction fields with
  | nil => simp [FieldsReadAsWritten]
  | cons f fs ih => rw [FieldsReadAsWritten, ih, List.forall_mem_cons]

mutual

theorem readsAsWritten_sortKeys : ∀ v : Json, Legible v → intsPrintable v = true → ReadsAsWritten (sortKeys v)
  | .null => fun _ _ => by simp [sortKeys, ReadsAsWritten]
  | .bool _ => fun _ _ => by simp [sortKeys, ReadsAsWritten]
  | .str _ => fun _ _ => by simp [sortKeys, ReadsAsWritten]
  | .int _ => fun _ hprint => by
    unfold intsPrintable at hprint
    unfold sortKeys ReadsAsWritten
    exact hprint
  | .float _ => fun h _ => by
    unfold Legible at h
    unfold sortKeys ReadsAsWritten
    exact h
  | .arr items => fun h hprint => itemsReadAsWritten_sortItems items h hprint
  | .obj fields => fun h hprint => by
    have hkeys : ((sortFields fields).map Prod.fst).Nodup := by
      rw [map_sortFields, List.map_map]
      exact h.1
    have hread := fieldsReadAsWritten_sortFields fields h.2 hprint
    rw [fieldsReadAsWritten_iff] at hread
    rw [sortKeys, ReadsAsWritten, fieldsReadAsWritten_iff, List.pairwise_map]
    constructor
    · exact pairwise_strLt_insertionSort Prod.fst hkeys
    · intro f hf
      exact hread f ((List.mem_insertionSort _).mp hf)

theorem itemsReadAsWritten_sortItems : ∀ vs : List Json, ItemsLegible vs → itemsPrintable vs = true →
    ItemsReadAsWritten (sortItems vs)
  | [] => fun _ _ => trivial
  | v :: vs => fun h hprint => by
    rw [itemsPrintable, Bool.and_eq_true] at hprint
    exact ⟨readsAsWritten_sortKeys v h.1 hprint.1, itemsReadAsWritten_sortItems vs h.2 hprint.2⟩

theorem fieldsReadAsWritten_sortFields : ∀ fs : List (PyStr × Json), FieldsLegible fs → fieldsPrintable fs = true →
    FieldsReadAsWritten (sortFields fs)
  | [] => fun _ _ => trivial
  | (_, v) :: fs => fun h hprint => by
    rw [fieldsPrintable, Bool.and_eq_true] at hprint
    exact ⟨readsAsWritten_sortKeys v h.1 hprint.1, fieldsReadAsWritten_sortFields fs h.2 hprint.2⟩

end

/-- Two documents of one text are the same but for the order of their keys. -/
theorem sortKeys_eq_of_render_eq {v w : Json} (hv : Legible v) (hw : Legible w) (hvprint : intsPrintable v = true)
    (hwprint : intsPrintable w = true) (h : render v = render w) : sortKeys v = sortKeys w := by
  have hread : ∀ u : Json, ReadsAsWritten (sortKeys u) →
      nesting (sortKeys u) ≤ max (nesting (sortKeys v)) (nesting (sortKeys w)) →
      cost (sortKeys u) ≤ max (cost (sortKeys v)) (cost (sortKeys w)) →
      parseValue (max (nesting (sortKeys v)) (nesting (sortKeys w))) (max (cost (sortKeys v)) (cost (sortKeys w)))
        (render u) = .ok (sortKeys u, []) := by
    intro u hu hnesting hcost
    have hparse := parseValue_render (sortKeys u) hnesting hcost hu (Or.inl rfl)
    rwa [List.append_nil, render_sortKeys] at hparse
  have hvalue := hread v (readsAsWritten_sortKeys v hv hvprint) (le_max_left _ _) (le_max_left _ _)
  rw [h, hread w (readsAsWritten_sortKeys w hw hwprint) (le_max_right _ _) (le_max_right _ _)] at hvalue
  exact (congrArg Prod.fst (Except.ok.inj hvalue)).symm

end KeyOrder

end EvaluationLab.Python
