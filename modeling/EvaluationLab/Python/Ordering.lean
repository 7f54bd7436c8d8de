import EvaluationLab.Python.Dict
import Mathlib.Data.Prod.Lex
import Mathlib.Tactic.Tauto

/-! `<` on decoded documents: it orders the values it compares, and does not tell equal ones apart. -/
namespace EvaluationLab.Python

/-- Where a number that is not NaN stands among the others. -/
def numberRank : PyFloat → ℤ ×ₗ ℚ
  | .finite q => toLex (0, q)
  | .negativeZero => toLex (0, 0)
  | .infinity true => toLex (-1, 0)
  | .infinity false => toLex (1, 0)
  | .nan => toLex (0, 0)

def numberLess (x y : PyFloat) : Bool := x ≠ .nan && y ≠ .nan && numberRank x < numberRank y

mutual

/-- `v < w`. -/
def pyLess : Json → Json → Except PyExc Bool
  | .str s, .str t => .ok (strLt s t)
  | .arr vs, .arr ws => itemsLess vs ws
  | v, w =>
    match number v, number w with
    | some x, some y => .ok (numberLess x y)
    | _, _ => .error (typeError "'<' not supported between instances")

/-- Lists and tuples are compared at the first items that are not equal. -/
def itemsLess : List Json → List Json → Except PyExc Bool
  | [], ws => .ok !ws.isEmpty
  | _ :: _, [] => .ok false
  | v :: vs, w :: ws => if pyEq v w = true then itemsLess vs ws else pyLess v w

end

mutual

/-- Values that equal themselves: no NaN in them, and no object that repeats a key. -/
def SelfEqual : Json → Prop
  | .float x => x ≠ .nan
  | .arr items => ItemsSelfEqual items
  | .obj fields => (fields.map Prod.fst).Nodup ∧ FieldsSelfEqual fields
  | _ => True

def ItemsSelfEqual : List Json → Prop
  | [] => True
  | v :: vs => SelfEqual v ∧ ItemsSelfEqual vs

def FieldsSelfEqual : List (PyStr × Json) → Prop
  | [] => True
  | (_, v) :: fs => SelfEqual v ∧ FieldsSelfEqual fs

end

mutual

/-- The document with every number in one form. -/
def leveled : Json → Json
  | .bool b => .float (.finite (if b then 1 else 0))
  | .int n => .float (.finite n)
  | .float .negativeZero => .float (.finite 0)
  | .arr items => .arr (leveledItems items)
  | .obj fields => .obj (leveledFields fields)
  | v => v

def leveledItems : List Json → List Json
  | [] => []
  | v :: vs => leveled v :: leveledItems vs

def leveledFields : List (PyStr × Json) → List (PyStr × Json)
  | [] => []
  | (k, v) :: fs => (k, leveled v) :: leveledFields fs

end

/-- What equal values have in common. -/
def leveledKey (v : Json) : Json := sortKeys (leveled v)

section Equality

theorem map_leveledFields (fields : List (PyStr × Json)) : leveledFields fields = fields.map fun f => (f.1, leveled f.2) := by
  induction fields with
  | nil => rfl
  | cons f fs ih => rw [leveledFields, ih, List.map_cons]

theorem keys_leveledFields (fields : List (PyStr × Json)) : (leveledFields fields).map Prod.fst = fields.map Prod.fst := by
  rw [map_leveledFields, List.map_map]
  rfl

theorem lookup_leveledFields (fields : List (PyStr × Json)) (k : PyStr) :
    (leveledFields fields).lookup k = (fields.lookup k).map leveled := by
  rw [map_leveledFields, lookup_map_snd]

theorem fieldsSelfEqual_iff (fields : List (PyStr × Json)) : FieldsSelfEqual fields ↔ ∀ f ∈ fields, SelfEqual f.2 := by
  induction fields with
  | nil => simp [FieldsSelfEqual]
  | cons f fs ih => rw [FieldsSelfEqual, List.forall_mem_cons, ih]

theorem itemsSelfEqual_iff (items : List Json) : ItemsSelfEqual items ↔ ∀ v ∈ items, SelfEqual v := by
  induction items with
  | nil => simp [ItemsSelfEqual]
  | cons v vs ih => rw [ItemsSelfEqual, List.forall_mem_cons, ih]

/-- The form of a number. -/
def levelNumber : PyFloat → PyFloat
  | .negativeZero => .finite 0
  | x => x

theorem leveledKey_of_number {v : Json} {x : PyFloat} (h : number v = some x) : leveledKey v = .float (levelNumber x) := by
  cases v with
  | float y =>
    obtain rfl : y = x := Option.some.inj h
    cases y <;> rfl
  | bool b =>
    obtain rfl := Option.some.inj h
    rfl
  | int n =>
    obtain rfl := Option.some.inj h
    rfl
  | _ => cases h

theorem number_of_leveledKey {v : Json} {x : PyFloat} (h : leveledKey v = .float x) : ∃ y, number v = some y := by
  cases v with
  | float y => exact ⟨y, rfl⟩
  | bool b => exact ⟨_, rfl⟩
  | int n => exact ⟨_, rfl⟩
  | _ => cases h

theorem numberEq_iff {x y : PyFloat} (hx : x ≠ .nan) : numberEq x y = true ↔ levelNumber x = levelNumber y := by
  cases x with
  | nan => exact absurd rfl hx
  | finite p => cases y <;> simp [numberEq, levelNumber]
  | infinity a => cases y <;> simp [numberEq, levelNumber]
  | negativeZero =>
    cases y with
    | finite q =>
      rw [numberEq, beq_iff_eq, levelNumber, levelNumber, PyFloat.finite.injEq]
      · exact eq_comm
      · exact PyFloat.noConfusion
    | _ => simp [numberEq, levelNumber]

theorem ne_nan_of_number {v : Json} {x : PyFloat} (hv : SelfEqual v) (h : number v = some x) : x ≠ .nan := by
  cases v with
  | float y =>
    obtain rfl : y = x := Option.some.inj h
    exact hv
  | bool b =>
    obtain rfl := Option.some.inj h
    exact PyFloat.noConfusion
  | int n =>
    obtain rfl := Option.some.inj h
    exact PyFloat.noConfusion
  | _ => cases h

theorem pyEq_of_number {v : Json} {x : PyFloat} (h : number v = some x) (w : Json) :
    pyEq v w = (number w).any (numberEq x) := by
  cases v with
  | float y =>
    obtain rfl : y = x := Option.some.inj h
    cases w <;> rfl
  | bool b =>
    obtain rfl := Option.some.inj h
    cases w <;> rfl
  | int n =>
    obtain rfl := Option.some.inj h
    cases w <;> rfl
  | _ => cases h

theorem pyEq_iff_of_number {v w : Json} {x : PyFloat} (hv : SelfEqual v) (h : number v = some x) :
    pyEq v w = true ↔ leveledKey v = leveledKey w := by
  rw [pyEq_of_number h, leveledKey_of_number h, Option.any_eq_true]
  constructor
  · rintro ⟨y, hy, heq⟩
    rw [leveledKey_of_number hy, (numberEq_iff (ne_nan_of_number hv h)).mp heq]
  · intro heq
    obtain ⟨y, hy⟩ := number_of_leveledKey heq.symm
    rw [leveledKey_of_number hy, Json.float.injEq] at heq
    exact ⟨y, hy, (numberEq_iff (ne_nan_of_number hv h)).mpr heq⟩

mutual

/-- Values are equal when they are the same but for the form of numbers and the order of keys. -/
theorem pyEq_iff : ∀ {v w : Json}, SelfEqual v → SelfEqual w → (pyEq v w = true ↔ leveledKey v = leveledKey w)
  | .bool b, w, hv, _ => pyEq_iff_of_number hv rfl
  | .int n, w, hv, _ => pyEq_iff_of_number hv rfl
  | .float x, w, hv, _ => pyEq_iff_of_number hv rfl
  | .null, w, _, _ => by
    cases w with
    | float x => cases x <;> simp [pyEq, leveledKey, leveled, sortKeys]
    | _ => simp [pyEq, leveledKey, leveled, sortKeys]
  | .str s, w, _, _ => by
    cases w with
    | float x => cases x <;> simp [pyEq, leveledKey, leveled, sortKeys]
    | _ => simp [pyEq, leveledKey, leveled, sortKeys]
  | .arr vs, w, hv, hw => by
    cases w with
    | arr ws =>
      rw [pyEq, itemsEq_iff hv hw, leveledKey, leveledKey, leveled, leveled, sortKeys, sortKeys, Json.arr.injEq]
    | float x => cases x <;> simp [pyEq, leveledKey, leveled, sortKeys]
    | _ => simp [pyEq, leveledKey, leveled, sortKeys]
  | .obj fs, w, hv, hw => by
    cases w with
    | obj gs =>
      obtain ⟨hfs, hfields⟩ := hv
      obtain ⟨hgs, hfields'⟩ := hw
      rw [fieldsSelfEqual_iff] at hfields'
      have hkeys : ((leveledFields fs).map Prod.fst).Nodup := by rwa [keys_leveledFields]
      have hkeys' : ((leveledFields gs).map Prod.fst).Nodup := by rwa [keys_leveledFields]
      have hsame := sameJson_obj_iff hkeys hkeys'
      rw [SameJson] at hsame
      rw [leveledKey, leveledKey, leveled, leveled, hsame]
      simp only [lookup_leveledFields, Option.map_map]
      constructor
      · intro h k
        have hkeys := keys_of_pyEq hfs h
        obtain ⟨-, hfound⟩ := pyEq_obj_iff.mp h
        cases hk : fs.lookup k with
        | none =>
          have hnone : gs.lookup k = none := by
            rw [List.lookup_eq_none_iff] at hk ⊢
            intro g hg
            have hmem : g.1 ∈ fs.map Prod.fst := hkeys.mem_iff.mpr (List.mem_map_of_mem hg)
            obtain ⟨f, hf, hfg⟩ := List.mem_map.mp hmem
            rw [← hfg]
            exact hk f hf
          rw [hnone]
        | some v =>
          have hmem := mem_of_lookup hk
          obtain ⟨w, hw, heq⟩ := hfound _ hmem
          rw [hw, Option.map_some, Option.map_some, Option.some.injEq]
          exact (fieldsEq_each hfields (k, v) hmem (hfields' _ (mem_of_lookup hw))).mp heq
      · intro h
        have hkeys : ∀ k, k ∈ fs.map Prod.fst ↔ k ∈ gs.map Prod.fst := by
          intro k
          rw [← lookup_isSome_iff, ← lookup_isSome_iff]
          have hk := congrArg Option.isSome (h k)
          rw [Option.isSome_map, Option.isSome_map] at hk
          rw [hk]
        have hlen := ((List.perm_ext_iff_of_nodup hfs hgs).mpr hkeys).length_eq
        rw [List.length_map, List.length_map] at hlen
        refine pyEq_obj_iff.mpr ⟨hlen, fun f hf => ?_⟩
        have hlookup := h f.1
        rw [lookup_of_mem hfs hf, Option.map_some] at hlookup
        obtain ⟨w, hw, heq⟩ := Option.map_eq_some_iff.mp hlookup.symm
        exact ⟨w, hw, (fieldsEq_each hfields f hf (hfields' _ (mem_of_lookup hw))).mpr heq.symm⟩
    | float x => cases x <;> simp [pyEq, leveledKey, leveled, sortKeys]
    | _ => simp [pyEq, leveledKey, leveled, sortKeys]

theorem itemsEq_iff : ∀ {vs ws : List Json}, ItemsSelfEqual vs → ItemsSelfEqual ws →
    (itemsEq vs ws = true ↔ sortItems (leveledItems vs) = sortItems (leveledItems ws))
  | [], [], _, _ => by simp [itemsEq]
  | [], w :: ws, _, _ => by simp [itemsEq, leveledItems, sortItems]
  | v :: vs, [], _, _ => by simp [itemsEq, leveledItems, sortItems]
  | v :: vs, w :: ws, hv, hw => by
    rw [itemsEq, Bool.and_eq_true, pyEq_iff hv.1 hw.1, itemsEq_iff hv.2 hw.2, leveledItems, leveledItems, sortItems, sortItems,
      List.cons.injEq]
    rfl

theorem fieldsEq_each : ∀ {fs : List (PyStr × Json)}, FieldsSelfEqual fs → ∀ f ∈ fs, ∀ {w : Json}, SelfEqual w →
    (pyEq f.2 w = true ↔ leveledKey f.2 = leveledKey w)
  | (k, v) :: fs, hfs, f, hf, w, hw => by
    rcases List.mem_cons.mp hf with rfl | hf
    · exact pyEq_iff hfs.1 hw
    · exact fieldsEq_each hfs.2 f hf hw

end

theorem pyEq_self {v : Json} (h : SelfEqual v) : pyEq v v = true := (pyEq_iff h h).mpr rfl

theorem pyEq_symm {v w : Json} (hv : SelfEqual v) (hw : SelfEqual w) : pyEq v w = pyEq w v := by
  rw [Bool.eq_iff_iff, pyEq_iff hv hw, pyEq_iff hw hv, eq_comm]

theorem itemsEq_self {vs : List Json} (h : ItemsSelfEqual vs) : itemsEq vs vs = true := by
  have hself := pyEq_self (v := .arr vs) h
  rwa [pyEq] at hself

theorem itemsEq_symm {vs ws : List Json} (hv : ItemsSelfEqual vs) (hw : ItemsSelfEqual ws) : itemsEq vs ws = itemsEq ws vs := by
  have hsymm := pyEq_symm (v := .arr vs) (w := .arr ws) hv hw
  rwa [pyEq, pyEq] at hsymm

/-- Equal values are equal to the same values. -/
theorem pyEq_congr {v w v' w' : Json} (hv : SelfEqual v) (hw : SelfEqual w) (hv' : SelfEqual v') (hw' : SelfEqual w')
    (h : pyEq v v' = true) (h' : pyEq w w' = true) : pyEq v w = pyEq v' w' := by
  rw [pyEq_iff hv hv'] at h
  rw [pyEq_iff hw hw'] at h'
  rw [Bool.eq_iff_iff, pyEq_iff hv hw, pyEq_iff hv' hw', h, h']

end Equality

section Order

theorem numberLess_iff {x y : PyFloat} (hx : x ≠ .nan) (hy : y ≠ .nan) :
    numberLess x y = true ↔ numberRank x < numberRank y := by
  simp [numberLess, hx, hy]

/-- Numbers are equal when they stand at one place. -/
theorem numberEq_iff_rank {x y : PyFloat} (hx : x ≠ .nan) (hy : y ≠ .nan) :
    numberEq x y = true ↔ numberRank x = numberRank y := by
  have hzero : ∀ q : ℚ, q = 0 ↔ 0 = q := fun q => eq_comm
  rcases x with p | _ | (_ | _) | _ <;> rcases y with q | _ | (_ | _) | _ <;> simp [numberEq, numberRank, hzero] at hx hy ⊢

theorem pyLess_of_number {v w : Json} {x : PyFloat} (h : number v = some x) : pyLess v w =
    match number w with
    | some y => .ok (numberLess x y)
    | none => .error (typeError "'<' not supported between instances") := by
  cases v with
  | float y =>
    obtain rfl : y = x := Option.some.inj h
    cases w <;> rfl
  | bool b =>
    obtain rfl := Option.some.inj h
    cases w <;> rfl
  | int n =>
    obtain rfl := Option.some.inj h
    cases w <;> rfl
  | _ => cases h

/-- The values that are compared: numbers, texts and lists. -/
theorem pyLess_ok {v w : Json} {b : Bool} (h : pyLess v w = .ok b) :
    (∃ x y, number v = some x ∧ number w = some y ∧ b = numberLess x y) ∨
    (∃ s t, v = .str s ∧ w = .str t ∧ b = strLt s t) ∨
    ∃ vs ws, v = .arr vs ∧ w = .arr ws ∧ itemsLess vs ws = .ok b := by
  cases hv : number v with
  | some x =>
    rw [pyLess_of_number hv] at h
    cases hw : number w with
    | some y =>
      rw [hw] at h
      exact .inl ⟨x, y, rfl, rfl, (Except.ok.inj h).symm⟩
    | none =>
      rw [hw] at h
      cases h
  | none =>
    cases v with
    | str s =>
      cases w with
      | str t => exact .inr (.inl ⟨s, t, rfl, rfl, (Except.ok.inj h).symm⟩)
      | _ => cases h
    | arr vs =>
      cases w with
      | arr ws => exact .inr (.inr ⟨vs, ws, rfl, rfl, h⟩)
      | _ => cases h
    | null => cases w <;> cases h
    | obj fields => cases w <;> cases h
    | _ => cases hv

/-- Equal values are numbers at one place. -/
theorem number_of_pyEq {v v' : Json} {x : PyFloat} (hv : SelfEqual v) (hv' : SelfEqual v') (h : pyEq v v' = true)
    (hx : number v = some x) : ∃ x', number v' = some x' ∧ numberRank x' = numberRank x := by
  rw [pyEq_of_number hx, Option.any_eq_true] at h
  obtain ⟨x', hx', heq⟩ := h
  exact ⟨x', hx', ((numberEq_iff_rank (ne_nan_of_number hv hx) (ne_nan_of_number hv' hx')).mp heq).symm⟩

section Scalars

variable {v w u v' w' : Json} {b : Bool}

theorem pyLess_congr_scalar (hv : SelfEqual v) (hw : SelfEqual w) (hv' : SelfEqual v') (hw' : SelfEqual w')
    (harr : ∀ vs, v ≠ .arr vs) (heq : pyEq v v' = true) (heq' : pyEq w w' = true) (h : pyLess v w = .ok b) :
    pyLess v' w' = .ok b := by
  rcases pyLess_ok h with ⟨x, y, hx, hy, rfl⟩ | ⟨s, t, rfl, rfl, rfl⟩ | ⟨vs, ws, rfl, -⟩
  · obtain ⟨x', hx', hrank⟩ := number_of_pyEq hv hv' heq hx
    obtain ⟨y', hy', hrank'⟩ := number_of_pyEq hw hw' heq' hy
    rw [pyLess_of_number hx', hy', Except.ok.injEq, Bool.eq_iff_iff, numberLess_iff (ne_nan_of_number hv' hx')
      (ne_nan_of_number hw' hy'), numberLess_iff (ne_nan_of_number hv hx) (ne_nan_of_number hw hy), hrank, hrank']
  · rw [pyEq_symm hv hv', pyEq_str] at heq
    rw [pyEq_symm hw hw', pyEq_str] at heq'
    rw [heq, heq', pyLess]
  · exact absurd rfl (harr vs)

/-- Of two values that differ one is less. -/
theorem pyLess_flip_scalar (hv : SelfEqual v) (hw : SelfEqual w) (harr : ∀ vs, v ≠ .arr vs) (hne : pyEq v w = false)
    (h : pyLess v w = .ok b) : pyLess w v = .ok !b := by
  rcases pyLess_ok h with ⟨x, y, hx, hy, rfl⟩ | ⟨s, t, rfl, rfl, rfl⟩ | ⟨vs, ws, rfl, -⟩
  · have hx' := ne_nan_of_number hv hx
    have hy' := ne_nan_of_number hw hy
    have hrank : numberRank x ≠ numberRank y := by
      rw [Ne, ← numberEq_iff_rank hx' hy']
      rw [pyEq_of_number hx, hy, Option.any_some] at hne
      exact Bool.eq_false_iff.mp hne
    rw [pyLess_of_number hy, hx, Except.ok.injEq, Bool.eq_iff_iff, numberLess_iff hy' hx', Bool.not_eq_true', ← Bool.not_eq_true,
      numberLess_iff hx' hy', not_lt]
    exact ⟨le_of_lt, fun hle => lt_of_le_of_ne hle hrank.symm⟩
  · have hst : s ≠ t := by
      rintro rfl
      rw [(pyEq_str _ _).mpr rfl] at hne
      cases hne
    rw [pyLess, Except.ok.injEq, Bool.eq_iff_iff, strLt_iff, Bool.not_eq_true', ← Bool.not_eq_true, strLt_iff, not_lt]
    exact ⟨le_of_lt, fun hle => lt_of_le_of_ne hle hst.symm⟩
  · exact absurd rfl (harr vs)

theorem pyLess_trans_scalar (hv : SelfEqual v) (hw : SelfEqual w) (hu : SelfEqual u) (harr : ∀ vs, v ≠ .arr vs)
    (h : pyLess v w = .ok true) (h' : pyLess w u = .ok true) : pyLess v u = .ok true := by
  rcases pyLess_ok h with ⟨x, y, hx, hy, hxy⟩ | ⟨s, t, rfl, rfl, hst⟩ | ⟨vs, ws, rfl, -⟩
  · rcases pyLess_ok h' with ⟨y', z, hy', hz, hyz⟩ | ⟨s, t, rfl, -⟩ | ⟨vs, ws, rfl, -⟩
    · obtain rfl : y = y' := Option.some.inj (hy.symm.trans hy')
      have hx' := ne_nan_of_number hv hx
      have hy' := ne_nan_of_number hw hy
      have hz' := ne_nan_of_number hu hz
      have hlt := (numberLess_iff hx' hy').mp hxy.symm
      have hlt' := (numberLess_iff hy' hz').mp hyz.symm
      rw [pyLess_of_number hx, hz, Except.ok.injEq, numberLess_iff hx' hz']
      exact hlt.trans hlt'
    · cases hy
    · cases hy
  · rcases pyLess_ok h' with ⟨x, z, hx, -⟩ | ⟨t', r, ht, rfl, htr⟩ | ⟨vs, ws, ht, -⟩
    · cases hx
    · cases ht
      rw [pyLess, Except.ok.injEq, strLt_iff]
      exact ((strLt_iff s t).mp hst.symm).trans ((strLt_iff t r).mp htr.symm)
    · cases ht
  · exact absurd rfl (harr vs)

end Scalars

mutual

/-- Equal values compare alike. -/
theorem pyLess_congr : ∀ {v w v' w' : Json} {b : Bool}, SelfEqual v → SelfEqual w → SelfEqual v' → SelfEqual w' →
    pyEq v v' = true → pyEq w w' = true → pyLess v w = .ok b → pyLess v' w' = .ok b
  | .arr vs, w, v', w', b, hv, hw, hv', hw', heq, heq', h => by
    obtain ⟨x, -, hx, -⟩ | ⟨s, t, hs, -⟩ | ⟨vs₀, ws, hvs, rfl, hless⟩ := pyLess_ok h
    · cases hx
    · cases hs
    · cases hvs
      cases v' with
      | arr vs' =>
        cases w' with
        | arr ws' => exact itemsLess_congr hv hw hv' hw' heq heq' hless
        | _ => cases heq'
      | _ => cases heq
  | .null, w, v', w', b, hv, hw, hv', hw', heq, heq', h =>
    pyLess_congr_scalar hv hw hv' hw' (fun _ => Json.noConfusion) heq heq' h
  | .bool _, w, v', w', b, hv, hw, hv', hw', heq, heq', h =>
    pyLess_congr_scalar hv hw hv' hw' (fun _ => Json.noConfusion) heq heq' h
  | .int _, w, v', w', b, hv, hw, hv', hw', heq, heq', h =>
    pyLess_congr_scalar hv hw hv' hw' (fun _ => Json.noConfusion) heq heq' h
  | .float _, w, v', w', b, hv, hw, hv', hw', heq, heq', h =>
    pyLess_congr_scalar hv hw hv' hw' (fun _ => Json.noConfusion) heq heq' h
  | .str _, w, v', w', b, hv, hw, hv', hw', heq, heq', h =>
    pyLess_congr_scalar hv hw hv' hw' (fun _ => Json.noConfusion) heq heq' h
  | .obj _, w, v', w', b, hv, hw, hv', hw', heq, heq', h =>
    pyLess_congr_scalar hv hw hv' hw' (fun _ => Json.noConfusion) heq heq' h

theorem itemsLess_congr : ∀ {vs ws vs' ws' : List Json} {b : Bool}, ItemsSelfEqual vs → ItemsSelfEqual ws →
    ItemsSelfEqual vs' → ItemsSelfEqual ws' → itemsEq vs vs' = true → itemsEq ws ws' = true →
    itemsLess vs ws = .ok b → itemsLess vs' ws' = .ok b
  | [], ws, [], ws', b, _, _, _, _, _, heq', h => by
    cases ws with
    | nil =>
      cases ws' with
      | nil => exact h
      | cons w' ws' => cases heq'
    | cons w ws =>
      cases ws' with
      | nil => cases heq'
      | cons w' ws' => exact h
  | [], _, _ :: _, _, _, _, _, _, _, heq, _, _ => by cases heq
  | _ :: _, _, [], _, _, _, _, _, _, heq, _, _ => by cases heq
  | _ :: _, [], _ :: _, ws', b, _, _, _, _, _, heq', h => by
    cases ws' with
    | nil => exact h
    | cons w' ws' => cases heq'
  | v :: vs, w :: ws, v' :: vs', ws', b, hv, hw, hv', hw', heq, heq', h => by
    cases ws' with
    | nil => cases heq'
    | cons w' ws' =>
      rw [itemsEq, Bool.and_eq_true] at heq heq'
      rw [itemsLess, pyEq_congr hv.1 hw.1 hv'.1 hw'.1 heq.1 heq'.1] at h
      rw [itemsLess]
      split_ifs at h ⊢ with hhead
      · exact itemsLess_congr hv.2 hw.2 hv'.2 hw'.2 heq.2 heq'.2 h
      · exact pyLess_congr hv.1 hw.1 hv'.1 hw'.1 heq.1 heq'.1 h

end

mutual

/-- Of two values that differ and can be compared one is less. -/
theorem pyLess_flip : ∀ {v w : Json} {b : Bool}, SelfEqual v → SelfEqual w → pyEq v w = false → pyLess v w = .ok b →
    pyLess w v = .ok !b
  | .arr vs, w, b, hv, hw, hne, h => by
    obtain ⟨x, -, hx, -⟩ | ⟨s, t, hs, -⟩ | ⟨vs₀, ws, hvs, rfl, hless⟩ := pyLess_ok h
    · cases hx
    · cases hs
    · cases hvs
      exact itemsLess_flip hv hw hne hless
  | .null, w, b, hv, hw, hne, h => pyLess_flip_scalar hv hw (fun _ => Json.noConfusion) hne h
  | .bool _, w, b, hv, hw, hne, h => pyLess_flip_scalar hv hw (fun _ => Json.noConfusion) hne h
  | .int _, w, b, hv, hw, hne, h => pyLess_flip_scalar hv hw (fun _ => Json.noConfusion) hne h
  | .float _, w, b, hv, hw, hne, h => pyLess_flip_scalar hv hw (fun _ => Json.noConfusion) hne h
  | .str _, w, b, hv, hw, hne, h => pyLess_flip_scalar hv hw (fun _ => Json.noConfusion) hne h
  | .obj _, w, b, hv, hw, hne, h => pyLess_flip_scalar hv hw (fun _ => Json.noConfusion) hne h

theorem itemsLess_flip : ∀ {vs ws : List Json} {b : Bool}, ItemsSelfEqual vs → ItemsSelfEqual ws → itemsEq vs ws = false →
    itemsLess vs ws = .ok b → itemsLess ws vs = .ok !b
  | [], [], _, _, _, hne, _ => by cases hne
  | [], w :: ws, _, _, _, _, h => by
    cases h
    rfl
  | v :: vs, [], _, _, _, _, h => by
    cases h
    rfl
  | v :: vs, w :: ws, b, hv, hw, hne, h => by
    rw [itemsLess] at h ⊢
    rw [itemsEq] at hne
    rw [← pyEq_symm hv.1 hw.1]
    split_ifs at h ⊢ with hhead
    · rw [hhead, Bool.true_and] at hne
      exact itemsLess_flip hv.2 hw.2 hne h
    · exact pyLess_flip hv.1 hw.1 (Bool.eq_false_iff.mpr hhead) h

end

/-- Equal lists can be compared, and none is less. -/
theorem itemsLess_of_eq : ∀ {vs ws : List Json}, itemsEq vs ws = true → itemsLess vs ws = .ok false
  | [], [], _ => rfl
  | [], _ :: _, h => by cases h
  | _ :: _, [], h => by cases h
  | v :: vs, w :: ws, h => by
    rw [itemsEq, Bool.and_eq_true] at h
    rw [itemsLess, if_pos h.1]
    exact itemsLess_of_eq h.2

theorem pyLess_of_eq {v w : Json} {b : Bool} (hv : SelfEqual v) (hw : SelfEqual w) (heq : pyEq v w = true)
    (h : pyLess v w = .ok b) : b = false := by
  rcases pyLess_ok h with ⟨x, y, hx, hy, rfl⟩ | ⟨s, t, rfl, rfl, rfl⟩ | ⟨vs, ws, rfl, rfl, hless⟩
  · obtain ⟨y', hy', hrank⟩ := number_of_pyEq hv hw heq hx
    obtain rfl : y = y' := Option.some.inj (hy.symm.trans hy')
    rw [Bool.eq_false_iff, Ne, numberLess_iff (ne_nan_of_number hv hx) (ne_nan_of_number hw hy), hrank]
    exact lt_irrefl _
  · rw [pyEq_str, Json.str.injEq] at heq
    subst heq
    rw [Bool.eq_false_iff, Ne, strLt_iff]
    exact lt_irrefl _
  · rw [itemsLess_of_eq heq] at hless
    exact (Except.ok.inj hless).symm

mutual

theorem pyLess_trans : ∀ {v w u : Json}, SelfEqual v → SelfEqual w → SelfEqual u →
    pyLess v w = .ok true → pyLess w u = .ok true → pyLess v u = .ok true
  | .arr vs, w, u, hv, hw, hu, h, h' => by
    obtain ⟨x, -, hx, -⟩ | ⟨s, t, hs, -⟩ | ⟨vs₀, ws, hvs, rfl, hless⟩ := pyLess_ok h
    · cases hx
    · cases hs
    · cases hvs
      obtain ⟨x, -, hx, -⟩ | ⟨s, t, hs, -⟩ | ⟨ws₀, us, hws, rfl, hless'⟩ := pyLess_ok h'
      · cases hx
      · cases hs
      · cases hws
        exact itemsLess_trans hv hw hu hless hless'
  | .null, w, u, hv, hw, hu, h, h' => pyLess_trans_scalar hv hw hu (fun _ => Json.noConfusion) h h'
  | .bool _, w, u, hv, hw, hu, h, h' => pyLess_trans_scalar hv hw hu (fun _ => Json.noConfusion) h h'
  | .int _, w, u, hv, hw, hu, h, h' => pyLess_trans_scalar hv hw hu (fun _ => Json.noConfusion) h h'
  | .float _, w, u, hv, hw, hu, h, h' => pyLess_trans_scalar hv hw hu (fun _ => Json.noConfusion) h h'
  | .str _, w, u, hv, hw, hu, h, h' => pyLess_trans_scalar hv hw hu (fun _ => Json.noConfusion) h h'
  | .obj _, w, u, hv, hw, hu, h, h' => pyLess_trans_scalar hv hw hu (fun _ => Json.noConfusion) h h'

theorem itemsLess_trans : ∀ {vs ws us : List Json}, ItemsSelfEqual vs → ItemsSelfEqual ws → ItemsSelfEqual us →
    itemsLess vs ws = .ok true → itemsLess ws us = .ok true → itemsLess vs us = .ok true
  | vs, [], _, _, _, _, h, _ => by cases vs <;> cases h
  | [], _ :: _, us, _, _, _, _, h' => by
    cases us with
    | nil => cases h'
    | cons u us => rfl
  | v :: vs, w :: ws, us, hv, hw, hu, h, h' => by
    cases us with
    | nil => cases h'
    | cons u us =>
      rw [itemsLess] at h h' ⊢
      by_cases hvw : pyEq v w = true
      · rw [if_pos hvw] at h
        rw [pyEq_congr hv.1 hu.1 hw.1 hu.1 hvw (pyEq_self hu.1)]
        split_ifs at h' ⊢ with hwu
        · exact itemsLess_trans hv.2 hw.2 hu.2 h h'
        · exact pyLess_congr hw.1 hu.1 hv.1 hu.1 (by rwa [pyEq_symm hw.1 hv.1]) (pyEq_self hu.1) h'
      · rw [if_neg hvw] at h
        by_cases hwu : pyEq w u = true
        · rw [if_neg (by rwa [← pyEq_congr hv.1 hw.1 hv.1 hu.1 (pyEq_self hv.1) hwu])]
          exact pyLess_congr hv.1 hw.1 hv.1 hu.1 (pyEq_self hv.1) hwu h
        · rw [if_neg hwu] at h'
          have hvu := pyLess_trans hv.1 hw.1 hu.1 h h'
          have hne : ¬pyEq v u = true := fun heq => Bool.noConfusion (pyLess_of_eq hv.1 hu.1 heq hvu)
          rw [if_neg hne]
          exact hvu

end

end Order

end EvaluationLab.Python
