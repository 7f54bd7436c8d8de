import EvaluationLab.Effect.Raising
import EvaluationLab.Python.JsonRoundTrip

/-! `json.loads` with a hook for the pairs of an object and a hook for `NaN` and the infinities. -/
namespace EvaluationLab.Python
open Effect

/-- `object_pairs_hook` and `parse_constant`. -/
structure JsonHooks where
  pairs : List (PyStr × Json) → Except PyExc Json
  constant : PyStr → Except PyExc Json

/-- A hook runs in a frame of its own. -/
def hookCall (depth : ℕ) (call : Except PyExc Json) (rest : PyStr) : Except PyExc (Json × PyStr) :=
  match depth with
  | 0 => .error (recursionError "calling a Python object")
  | _ + 1 => call.map fun v => (v, rest)

variable [PyRuntime]

mutual

def hookedValue (hooks : JsonHooks) (depth : ℕ) : (fuel : ℕ) → PyStr → Except PyExc (Json × PyStr)
  | 0, _ => .error jsonDecodeError
  | _, [] => .error jsonDecodeError
  | fuel + 1, c :: s =>
    if c = 34 then (parseString s).map fun r => (.str r.1, r.2)
    else if c = 123 then
      match depth with
      | 0 => .error (recursionError "decoding a JSON object from a unicode string")
      | depth + 1 =>
        match skipSpace s with
        | 125 :: rest => hookCall depth (hooks.pairs []) rest
        | s => hookedMembers hooks depth fuel [] s
    else if c = 91 then
      match depth with
      | 0 => .error (recursionError "decoding a JSON array from a unicode string")
      | depth + 1 =>
        match skipSpace s with
        | 93 :: rest => .ok (.arr [], rest)
        | s => hookedItems hooks depth fuel [] s
    else if (py "null").isPrefixOf (c :: s) then .ok (.null, s.drop 3)
    else if (py "true").isPrefixOf (c :: s) then .ok (.bool true, s.drop 3)
    else if (py "false").isPrefixOf (c :: s) then .ok (.bool false, s.drop 4)
    else if (py "NaN").isPrefixOf (c :: s) then hookCall depth (hooks.constant "NaN") (s.drop 2)
    else if (py "Infinity").isPrefixOf (c :: s) then hookCall depth (hooks.constant "Infinity") (s.drop 7)
    else if (py "-Infinity").isPrefixOf (c :: s) then hookCall depth (hooks.constant "-Infinity") (s.drop 8)
    else if c = 45 then parseNumber true s
    else parseNumber false (c :: s)

/-- Members of an object, up to and including its closing brace. -/
def hookedMembers (hooks : JsonHooks) (depth : ℕ) :
    (fuel : ℕ) → List (PyStr × Json) → PyStr → Except PyExc (Json × PyStr)
  | 0, _, _ => .error jsonDecodeError
  | fuel + 1, pairs, 34 :: s => do
    let (key, s) ← parseString s
    match skipSpace s with
    | 58 :: s =>
      let (value, s) ← hookedValue hooks depth fuel (skipSpace s)
      match skipSpace s with
      | 125 :: rest => hookCall depth (hooks.pairs (pairs ++ [(key, value)])) rest
      | 44 :: s => hookedMembers hooks depth fuel (pairs ++ [(key, value)]) (skipSpace s)
      | _ => throw jsonDecodeError
    | _ => throw jsonDecodeError
  | _, _, _ => .error jsonDecodeError

/-- Items of an array, up to and including its closing bracket. -/
def hookedItems (hooks : JsonHooks) (depth : ℕ) :
    (fuel : ℕ) → List Json → PyStr → Except PyExc (Json × PyStr)
  | 0, _, _ => .error jsonDecodeError
  | fuel + 1, items, s => do
    let (value, s) ← hookedValue hooks depth fuel s
    match skipSpace s with
    | 93 :: rest => return (.arr (items ++ [value]), rest)
    | 44 :: s => hookedItems hooks depth fuel (items ++ [value]) (skipSpace s)
    | _ => throw jsonDecodeError

end

/-- `json.loads(s, object_pairs_hook=…, parse_constant=…)`. -/
def hookedLoads (hooks : JsonHooks) (s : PyStr) : Except PyExc Json :=
  if s.head? = some 0xFEFF then .error jsonDecodeError
  else do
    let (value, rest) ← hookedValue hooks PyRuntime.recursionLimit (2 * s.length + 2) (skipSpace s)
    if skipSpace rest = [] then return value else throw jsonDecodeError

section Induction

variable {hooks : JsonHooks}

omit [PyRuntime] in
theorem hookCall_eq_ok {depth : ℕ} {call : Except PyExc Json} {rest : PyStr} {r : Json × PyStr}
    (h : hookCall depth call rest = .ok r) : call = .ok r.1 := by
  cases depth with
  | zero => cases h
  | succ depth =>
    cases call with
    | error e => cases h
    | ok v =>
      cases h
      rfl

/-- What holds of the atoms, and is kept by arrays and by the hooks, holds of what is read. -/
theorem hooked_values {Q : Json → Prop} (hnull : Q .null) (hbool : ∀ b, Q (.bool b)) (hstr : ∀ s, Q (.str s))
    (hnumber : ∀ negative s r, parseNumber negative s = .ok r → Q r.1)
    (harr : ∀ items : List Json, (∀ v ∈ items, Q v) → Q (.arr items))
    (hpairs : ∀ (pairs : List (PyStr × Json)) v, (∀ f ∈ pairs, Q f.2) → hooks.pairs pairs = .ok v → Q v)
    (hconstant : ∀ t v, hooks.constant t = .ok v → Q v) (fuel : ℕ) :
    (∀ depth s r, hookedValue hooks depth fuel s = .ok r → Q r.1) ∧
    (∀ depth pairs s r, (∀ f ∈ pairs, Q f.2) → hookedMembers hooks depth fuel pairs s = .ok r → Q r.1) ∧
    ∀ depth items s r, (∀ v ∈ items, Q v) → hookedItems hooks depth fuel items s = .ok r → Q r.1 := by
  induction fuel with
  | zero =>
    refine ⟨fun depth s r h => ?_, fun depth pairs s r _ h => ?_, fun depth items s r _ h => ?_⟩
    · cases s <;> cases h
    · rw [hookedMembers.eq_def] at h
      cases h
    · rw [hookedItems.eq_def] at h
      cases h
  | succ fuel ih =>
    obtain ⟨ihvalue, ihmembers, ihitems⟩ := ih
    refine ⟨fun depth s r h => ?_, fun depth pairs s r hread h => ?_, fun depth items s r hread h => ?_⟩
    · cases s with
      | nil => cases h
      | cons c s =>
        rw [hookedValue.eq_def] at h
        dsimp only at h
        split_ifs at h
        · cases hs : parseString s with
          | error e =>
            rw [hs] at h
            cases h
          | ok t =>
            rw [hs] at h
            cases h
            exact hstr _
        · cases depth with
          | zero => cases h
          | succ depth =>
            dsimp only at h
            split at h
            · exact hpairs [] _ (fun f hf => absurd hf List.not_mem_nil) (hookCall_eq_ok h)
            · exact ihmembers depth [] _ r (fun f hf => absurd hf List.not_mem_nil) h
        · cases depth with
          | zero => cases h
          | succ depth =>
            dsimp only at h
            split at h
            · cases h
              exact harr [] fun v hv => absurd hv List.not_mem_nil
            · exact ihitems depth [] _ r (fun v hv => absurd hv List.not_mem_nil) h
        · cases h
          exact hnull
        · cases h
          exact hbool true
        · cases h
          exact hbool false
        · exact hconstant _ _ (hookCall_eq_ok h)
        · exact hconstant _ _ (hookCall_eq_ok h)
        · exact hconstant _ _ (hookCall_eq_ok h)
        · exact hnumber _ _ _ h
        · exact hnumber _ _ _ h
    · rw [hookedMembers.eq_def] at h
      split at h
      · cases h
      · rename_i pairs _ _ _ _ _ hfuel
        cases hfuel
        simp only [bind_eq_ok_iff] at h
        obtain ⟨⟨key, s'⟩, -, h⟩ := h
        split at h
        · simp only [bind_eq_ok_iff] at h
          obtain ⟨⟨value, s''⟩, hvalue, h⟩ := h
          have hmore : ∀ f ∈ pairs ++ [(key, value)], Q f.2 := by
            rw [List.forall_mem_append, List.forall_mem_singleton]
            exact ⟨hread, ihvalue depth _ _ hvalue⟩
          split at h
          · exact hpairs _ _ hmore (hookCall_eq_ok h)
          · exact ihmembers depth _ _ r hmore h
          · cases h
        · cases h
      · cases h
    · rw [hookedItems.eq_def] at h
      dsimp only at h
      simp only [bind_eq_ok_iff] at h
      obtain ⟨⟨value, s'⟩, hvalue, h⟩ := h
      have hmore : ∀ v ∈ items ++ [value], Q v := by
        rw [List.forall_mem_append, List.forall_mem_singleton]
        exact ⟨hread, ihvalue depth _ _ hvalue⟩
      split at h
      · cases h
        exact harr _ hmore
      · exact ihitems depth _ _ r hmore h
      · cases h

omit [PyRuntime] in
theorem raises_parseString {P : PyExc → Prop} (hdecode : P jsonDecodeError) (s : PyStr) : Raises P (parseString s) := by
  fun_induction parseString s with
  | _ => simp_all

theorem raises_parseNumber {P : PyExc → Prop} (hdecode : P jsonDecodeError) (hlong : ∀ n, P (intParseError n))
    (negative : Bool) (s : PyStr) : Raises P (parseNumber negative s) := by
  unfold parseNumber
  dsimp only
  split_ifs
  all_goals first
    | exact raises_ok
    | exact raises_error.mpr hdecode
    | exact raises_error.mpr (hlong _)

omit [PyRuntime] in
theorem raises_hookCall {P : PyExc → Prop} (hdeep : ∀ activity, P (recursionError activity)) {call : Except PyExc Json}
    (hcall : Raises P call) (depth : ℕ) (rest : PyStr) : Raises P (hookCall depth call rest) := by
  cases depth with
  | zero => exact raises_error.mpr (hdeep _)
  | succ depth => exact raises_map_iff.mpr hcall

/-- The errors of reading: those of the decoder and those of the hooks. -/
theorem raises_hooked {P : PyExc → Prop} (hdecode : P jsonDecodeError) (hlong : ∀ n, P (intParseError n))
    (hdeep : ∀ activity, P (recursionError activity)) (hpairs : ∀ pairs, Raises P (hooks.pairs pairs))
    (hconstant : ∀ t, Raises P (hooks.constant t)) (fuel : ℕ) :
    (∀ depth s, Raises P (hookedValue hooks depth fuel s)) ∧
    (∀ depth pairs s, Raises P (hookedMembers hooks depth fuel pairs s)) ∧
    ∀ depth items s, Raises P (hookedItems hooks depth fuel items s) := by
  induction fuel with
  | zero =>
    refine ⟨fun depth s => ?_, fun depth pairs s => ?_, fun depth items s => ?_⟩
    · cases s <;> exact raises_error.mpr hdecode
    · rw [hookedMembers.eq_def]
      exact raises_error.mpr hdecode
    · rw [hookedItems.eq_def]
      exact raises_error.mpr hdecode
  | succ fuel ih =>
    obtain ⟨ihvalue, ihmembers, ihitems⟩ := ih
    refine ⟨fun depth s => ?_, fun depth pairs s => ?_, fun depth items s => ?_⟩
    · cases s with
      | nil => exact raises_error.mpr hdecode
      | cons c s =>
        rw [hookedValue.eq_def]
        dsimp only
        split_ifs
        · exact raises_map_iff.mpr (raises_parseString hdecode s)
        · cases depth with
          | zero => exact raises_error.mpr (hdeep _)
          | succ depth =>
            dsimp only
            split
            · exact raises_hookCall hdeep (hpairs _) _ _
            · exact ihmembers depth [] _
        · cases depth with
          | zero => exact raises_error.mpr (hdeep _)
          | succ depth =>
            dsimp only
            split
            · exact raises_ok
            · exact ihitems depth [] _
        · exact raises_ok
        · exact raises_ok
        · exact raises_ok
        · exact raises_hookCall hdeep (hconstant _) _ _
        · exact raises_hookCall hdeep (hconstant _) _ _
        · exact raises_hookCall hdeep (hconstant _) _ _
        · exact raises_parseNumber hdecode hlong true s
        · exact raises_parseNumber hdecode hlong false (c :: s)
    · rw [hookedMembers.eq_def]
      split
      · exact raises_error.mpr hdecode
      · rename_i hfuel
        cases hfuel
        rw [raises_bind_iff]
        refine ⟨raises_parseString hdecode _, ?_⟩
        rintro ⟨key, s'⟩ -
        dsimp only
        split
        · rw [raises_bind_iff]
          refine ⟨ihvalue depth _, ?_⟩
          rintro ⟨value, s''⟩ -
          dsimp only
          split
          · exact raises_hookCall hdeep (hpairs _) _ _
          · exact ihmembers depth _ _
          · exact raises_throw.mpr hdecode
        · exact raises_throw.mpr hdecode
      · exact raises_error.mpr hdecode
    · rw [hookedItems.eq_def]
      dsimp only
      rw [raises_bind_iff]
      refine ⟨ihvalue depth _, ?_⟩
      rintro ⟨value, s'⟩ -
      dsimp only
      split
      · exact raises_pure
      · exact ihitems depth _ _
      · exact raises_throw.mpr hdecode

/-- `json.loads` raises what its decoder and its hooks raise. -/
theorem raises_hookedLoads {P : PyExc → Prop} (hdecode : P jsonDecodeError) (hlong : ∀ n, P (intParseError n))
    (hdeep : ∀ activity, P (recursionError activity)) (hpairs : ∀ pairs, Raises P (hooks.pairs pairs))
    (hconstant : ∀ t, Raises P (hooks.constant t)) (s : PyStr) : Raises P (hookedLoads hooks s) := by
  unfold hookedLoads
  split_ifs
  · exact raises_error.mpr hdecode
  · rw [raises_bind_iff]
    refine ⟨(raises_hooked hdecode hlong hdeep hpairs hconstant _).1 _ _, ?_⟩
    rintro ⟨value, rest⟩ -
    dsimp only
    split_ifs
    · exact raises_pure
    · exact raises_throw.mpr hdecode

end Induction

end EvaluationLab.Python
