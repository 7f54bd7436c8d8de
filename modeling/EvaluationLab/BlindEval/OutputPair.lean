import EvaluationLab.BlindEval.Accounting
import EvaluationLab.BlindEval.OutputCommit
import EvaluationLab.Effect.Raising

/-! The output pair of a run: after every failure neither target is there, and after none both are as they should be. -/
namespace EvaluationLab.BlindEval
open Python Effect

/-- The files by their paths, and the bytes handed to the file that is open. -/
structure Disk where
  files : OutputPath → Option (List UInt8)
  buffer : List UInt8

/-- The files after a replacement. -/
def Disk.moved (w : Disk) (source target : OutputPath) : OutputPath → Option (List UInt8) :=
  Function.update (Function.update w.files target (w.files source)) source none

/-- The file at a path is there, with any content, and no other has changed. -/
def Disk.Touches (w : Disk) (temp : OutputPath) (w' : Disk) : Prop :=
  ∃ bytes, w'.files = Function.update w.files temp (some bytes)

/-- What the operations may do. An operation raises before it has an effect or after it, and what it raises is in `P`.
A temporary file is a new one. A file has its bytes once it is closed, and a removal removes what is there. -/
def outputStep (P : PyExc → Prop) (same : OutputPath → OutputPath → Bool) (w : Disk) :
    (op : OutputOp) → op.Answer → Disk → Prop
  | .exist path, there, w' => there = (w.files path).isSome ∧ w' = w
  | .samefile left right, .ok answer, w' => answer = same left right ∧ w' = w
  | .samefile _ _, .error e, w' => e.isA "OSError" ∧ w' = w
  | .makeParents _, .ok (), w' => w' = w
  | .makeParents _, .error e, w' => P e ∧ w' = w
  | .createTemporary path, .ok temp, w' => path.Temporary temp ∧ w.files temp = none ∧
      w' = ⟨Function.update w.files temp (some []), []⟩
  | .createTemporary _, .error e, w' => P e ∧ w' = w
  | .openHandle _, .ok (), w' => w' = w
  | .openHandle _, .error e, w' => P e ∧ w' = w
  | .write temp data, .ok (), w' => w'.buffer = w.buffer ++ data ∧ w.Touches temp w'
  | .write temp _, .error e, w' => P e ∧ w.Touches temp w'
  | .flush temp, .ok (), w' => w'.buffer = w.buffer ∧ w.Touches temp w'
  | .flush temp, .error e, w' => P e ∧ w.Touches temp w'
  | .fsync temp, .ok (), w' => w'.buffer = w.buffer ∧ w.Touches temp w'
  | .fsync temp, .error e, w' => P e ∧ w.Touches temp w'
  | .close temp, .ok (), w' => w'.files = Function.update w.files temp (some w.buffer)
  | .close temp, .error e, w' => P e ∧ w.Touches temp w'
  | .unlink path, (), w' => w'.files = Function.update w.files path none
  | .replace source target, .ok (), w' => (w.files source).isSome = true ∧ w'.files = w.moved source target
  | .replace source target, .error e, w' => P e ∧
      (w'.files = w.files ∨ ((w.files source).isSome = true ∧ w'.files = w.moved source target))

def fileSystem (P : PyExc → Prop) (same : OutputPath → OutputPath → Bool) : Semantics outputInterface Disk where
  allowed _ _ := True
  step := outputStep P same

/-- A file system that raises no other exceptions than those of class `Exception`. -/
abbrev ordinary (same : OutputPath → OutputPath → Bool) : Semantics outputInterface Disk :=
  fileSystem (fun e => e.isA "Exception") same

section Staging

variable {same : OutputPath → OutputPath → Bool} {path temp : OutputPath} {data : List UInt8} {u w : Disk}

theorem wp_asked (P : PyExc → Prop) (op : OutputOp) {Q : Except PyExc op.Answer → Disk → Prop} :
    Procedure.wp (fileSystem P same) (asking op) Q w ↔
      ∀ r w', outputStep P same w op r w' → Q (.ok r) w' := by
  rw [asking, Procedure.wp_perform]
  exact and_iff_right trivial

theorem wp_raising {α : Type} {M : Semantics outputInterface Disk} {p : Commit (Except PyExc α)}
    {Q : Except PyExc α → Disk → Prop} : Procedure.wp M (raising p) Q w ↔
      Procedure.wp M p (fun r w' => match r with
        | .ok result => Q result w'
        | .error e => Q (.error e) w') w := by
  rw [raising, Procedure.wp_bind]
  constructor
  · exact fun h => Procedure.wp_mono h fun r w' hr => by cases r <;> exact hr
  · exact fun h => Procedure.wp_mono h fun r w' hr => by cases r <;> exact hr

theorem Disk.Touches.trans {u v w : Disk} (h : u.Touches temp v) (h' : v.Touches temp w) : u.Touches temp w := by
  obtain ⟨_, hv⟩ := h
  obtain ⟨bytes, hw⟩ := h'
  exact ⟨bytes, by rw [hw, hv, Function.update_idem]⟩

/-- The `with` block leaves the bytes in the file, or raises. -/
theorem wp_writeHandle (hbuffer : w.buffer = []) (h : u.Touches temp w) :
    Procedure.wp (ordinary same) (writeHandle temp data) (fun r w' => match r with
      | .ok () => w'.files = Function.update u.files temp (some data)
      | .error e => e.isA "Exception" ∧ u.Touches temp w') w := by
  unfold writeHandle
  rw [Procedure.wp_bind, wp_raising, wp_asked]
  rintro (e | ⟨⟩) w₁ hopen
  · obtain ⟨he, rfl⟩ := hopen
    exact ⟨he, h⟩
  obtain rfl : w₁ = w := hopen
  have hclose : ∀ {v : Disk}, u.Touches temp v → ∀ {Q : Except PyExc Unit → Disk → Prop},
      (∀ v', v'.files = Function.update v.files temp (some v.buffer) → Q (.ok ()) v') →
      (∀ e v', e.isA "Exception" → u.Touches temp v' → Q (.error e) v') →
      Procedure.wp (ordinary same) (raising (asking (.close temp))) Q v := by
    intro v hv Q hok herror
    rw [wp_raising, wp_asked]
    rintro (e | ⟨⟩) v' hstep
    · exact herror e v' hstep.1 (hv.trans hstep.2)
    · exact hok v' hstep
  have hhandler : ∀ {v : Disk} {e : PyExc}, e.isA "Exception" → u.Touches temp v →
      Procedure.wp (ordinary same) (do raising (asking (.close temp)); throw e : Commit Unit)
        (fun r w' => ∃ e, r = .error e ∧ e.isA "Exception" ∧ u.Touches temp w') v := by
    intro v e he hv
    rw [Procedure.wp_bind]
    refine hclose hv (fun v' hv' => ?_) fun e' v' he' hv' => ⟨e', rfl, he', hv'⟩
    exact ⟨e, rfl, he, hv.trans ⟨_, hv'⟩⟩
  have hbody : Procedure.wp (ordinary same) (do
      raising (asking (.write temp data))
      raising (asking (.flush temp))
      raising (asking (.fsync temp)) : Commit Unit) (fun r w' => u.Touches temp w' ∧ match r with
        | .ok () => w'.buffer = data
        | .error e => e.isA "Exception") w₁ := by
    rw [Procedure.wp_bind, wp_raising, wp_asked]
    rintro (e | ⟨⟩) w₂ hwrite
    · exact ⟨h.trans hwrite.2, hwrite.1⟩
    obtain ⟨hwritten, htouch⟩ := hwrite
    rw [hbuffer, List.nil_append] at hwritten
    have h₂ := h.trans htouch
    dsimp only
    rw [Procedure.continueWith_ok, Procedure.wp_bind, wp_raising, wp_asked]
    rintro (e | ⟨⟩) w₃ hflush
    · exact ⟨h₂.trans hflush.2, hflush.1⟩
    have h₃ := h₂.trans hflush.2
    dsimp only
    rw [Procedure.continueWith_ok, wp_raising, wp_asked]
    rintro (e | ⟨⟩) w₄ hfsync
    · exact ⟨h₃.trans hfsync.2, hfsync.1⟩
    · exact ⟨h₃.trans hfsync.2, by rw [hfsync.1, hflush.1, hwritten]⟩
  dsimp only
  rw [Procedure.continueWith_ok, Procedure.wp_bind, Procedure.wp_tryCatch]
  refine Procedure.wp_mono hbody ?_
  rintro (e | ⟨⟩) w₂ ⟨htouch, hr⟩
  · refine Procedure.wp_mono (hhandler hr htouch) ?_
    rintro _ w₃ ⟨e', rfl, he', htouch'⟩
    exact ⟨he', htouch'⟩
  · refine hclose htouch (fun w₃ hw₃ => ?_) fun e w₃ he hw₃ => ⟨he, hw₃⟩
    obtain ⟨_, hfiles⟩ := htouch
    show w₃.files = _
    rw [hw₃, hfiles, Function.update_idem, hr]

/-- Staging leaves one new file with the bytes, or nothing. -/
theorem wp_stageBytes : Procedure.wp (ordinary same) (stageBytes path data) (fun r w' => match r with
      | .ok temp => path.Temporary temp ∧ u.files temp = none ∧ w'.files = Function.update u.files temp (some data)
      | .error e => e.isA "Exception" ∧ w'.files = u.files) u := by
  unfold stageBytes
  rw [Procedure.wp_bind, wp_raising, wp_asked]
  rintro (e | ⟨⟩) w₁ hparents
  · exact ⟨hparents.1, by rw [hparents.2]⟩
  obtain rfl : w₁ = u := hparents
  dsimp only
  rw [Procedure.continueWith_ok, Procedure.wp_bind, wp_raising, wp_asked]
  rintro (e | temp) w₂ hcreate
  · exact ⟨hcreate.1, by rw [hcreate.2]⟩
  obtain ⟨htemp, hnew, rfl⟩ := hcreate
  dsimp only
  rw [Procedure.continueWith_ok, Procedure.wp_bind, Procedure.wp_tryCatch]
  refine Procedure.wp_mono (wp_writeHandle rfl ⟨[], rfl⟩) ?_
  rintro (e | ⟨⟩) w₃ hr
  · obtain ⟨he, _, hfiles⟩ := hr
    dsimp only
    rw [if_pos he, Procedure.wp_bind, wp_asked]
    intro _ w₄ hunlink
    refine ⟨he, ?_⟩
    have hgone : w₄.files = Function.update w₃.files temp none := hunlink
    rw [hgone, hfiles, Function.update_idem, ← hnew, Function.update_eq_self]
  · exact ⟨htemp, hnew, hr⟩

/-- A staged text was one, and can be encoded. -/
def Staged (path : OutputPath) (text : Except PyExc PyStr) (u : Disk) (r : Except PyExc OutputPath) (w : Disk) : Prop :=
  match r with
  | .ok temp => ∃ content, text = .ok content ∧ encodable content = true ∧ path.Temporary temp ∧ u.files temp = none ∧
      w.files = Function.update u.files temp (some (utf8 content))
  | .error e => e.isA "Exception" ∧ w.files = u.files

theorem wp_stageText (text : Except PyExc PyStr) (htext : Raises (fun e => e.isA "Exception") text) :
    Program.wp (ordinary same) (stageText path text).run (Staged path text u) u := by
  have hencode : unicodeEncodeError.isA "Exception" := by decide
  show Procedure.wp _ (stageText path text) _ _
  rw [stageText, Procedure.wp_bind, Procedure.wp_ofExcept]
  cases text with
  | error e => exact ⟨htext e rfl, rfl⟩
  | ok content =>
    rw [Procedure.continueWith_ok]
    split_ifs with hcontent
    · refine Procedure.wp_mono wp_stageBytes ?_
      rintro (e | temp) w h
      · exact h
      · exact ⟨content, rfl, hcontent, h⟩
    · exact ⟨hencode, rfl⟩

end Staging

section Pair

variable {same : OutputPath → OutputPath → Bool} {rawPath receiptPath path source target : OutputPath} {w w' : Disk}

theorem wp_removeIfExists {Q : Unit → Disk → Prop} :
    Program.wp (ordinary same) (removeIfExists path) Q w ↔
      ∀ w', w'.files = Function.update w.files path none → Q () w' := by
  constructor
  · exact fun h w' hw => h.2 () w' hw
  · exact fun h => ⟨trivial, fun _ w' hw => h w' hw⟩

theorem wp_replaceFile {Q : Except PyExc Unit → Disk → Prop} :
    Program.wp (ordinary same) (replaceFile source target) Q w ↔
      ∀ r w', outputStep (fun e => e.isA "Exception") same w (.replace source target) r w' → Q r w' := by
  constructor
  · exact fun h r w' hw => h.2 r w' hw
  · exact fun h => ⟨trivial, fun r w' hw => h r w' hw⟩

/-- Apart from the targets and the listed files, which are new, nothing has changed. -/
def Residue (rawPath receiptPath : OutputPath) (temps : List OutputPath) (w w' : Disk) : Prop :=
  (∀ t ∈ temps, w.files t = none) ∧ ∀ p, p ≠ rawPath → p ≠ receiptPath → p ∉ temps → w'.files p = w.files p

/-- How a `try` block ends. -/
def Publishes [PyRuntime] (receipt : BlindEvalReceipt) (raw : Option PyStr) (rawPath receiptPath : OutputPath) (w : Disk)
    (r : Except PyExc Unit × List OutputPath) (w' : Disk) : Prop :=
  match r.1 with
  | .ok () => r.2 = [] ∧ ∃ text, receipt.renderJson = .ok text ∧ encodable text = true ∧ (∀ t ∈ raw, encodable t = true) ∧
      w'.files = Function.update (Function.update w.files rawPath (raw.map utf8)) receiptPath (some (utf8 text))
  | .error e => e.isA "Exception" ∧ Residue rawPath receiptPath r.2 w w'

/-- A temporary file has a longer name than its target. -/
theorem OutputPath.Temporary.ne {temp : OutputPath} (h : path.Temporary temp) : temp ≠ path := by
  obtain ⟨-, random, hname⟩ := h
  intro heq
  have hlength := congrArg (fun p : OutputPath => p.name.length) heq
  have hdot : (py ".").length = 1 := by decide +kernel
  simp only [hname, List.length_append, hdot] at hlength
  omega

variable [PyRuntime]

theorem raises_renderJson (receipt : BlindEvalReceipt) : Raises (fun e => e.isA "Exception") receipt.renderJson := by
  have hvalue : ∀ message, (valueError message).isA "Exception" := fun _ => by simp [PyExc.isA, valueError]
  have hcheck : ∀ (c : Prop) [Decidable c] message,
      Raises (fun e : PyExc => e.isA "Exception") (check c (valueError message)) :=
    fun c _ message => raises_check.mpr fun _ => hvalue message
  unfold BlindEvalReceipt.renderJson BlindEvalReceipt.asDict
  simp only [raises_bind_iff]
  refine ⟨⟨hcheck _ _, fun _ _ => ⟨hcheck _ _, fun _ _ => ⟨hcheck _ _, fun _ _ => ?_⟩⟩⟩,
    fun fields _ => ⟨hcheck _ _, fun _ _ => raises_pure⟩⟩
  split_ifs
  · exact raises_bind_iff.mpr ⟨hcheck _ _, fun _ _ => raises_pure⟩
  · exact raises_bind_iff.mpr ⟨hcheck _ _, fun _ _ => raises_pure⟩

omit [PyRuntime] in
theorem Disk.moved_of_ne {p : OutputPath} (hsource : p ≠ source) (htarget : p ≠ target) :
    w.moved source target p = w.files p := by
  rw [Disk.moved, Function.update_of_ne hsource, Function.update_of_ne htarget]

/-- The `try` block for a pair. -/
theorem wp_publishPair (receipt : BlindEvalReceipt) (raw : PyStr) (hdistinct : rawPath ≠ receiptPath)
    (hname : ¬receiptPath.Temporary rawPath) : Program.wp (ordinary same) (publishPair receipt rawPath receiptPath raw)
      (Publishes receipt (some raw) rawPath receiptPath w) w := by
  unfold publishPair
  rw [Program.wp_bind]
  refine Program.wp_mono ?_ (wp_stageText (.ok raw) raises_ok)
  rintro (e | rawTemp) w₁ h₁
  · exact ⟨h₁.1, by simp, fun p _ _ _ => by rw [h₁.2]⟩
  obtain ⟨content, hcontent, hraw, htemp₁, hnew₁, hfiles₁⟩ := h₁
  cases hcontent
  dsimp only
  rw [Program.wp_bind]
  refine Program.wp_mono ?_ (wp_stageText _ (raises_renderJson receipt))
  rintro (e | receiptTemp) w₂ h₂
  · refine ⟨h₂.1, by simpa using hnew₁, fun p _ _ hp => ?_⟩
    rw [h₂.2, hfiles₁, Function.update_of_ne (by simpa using hp)]
  obtain ⟨text, htext, hencodable, htemp₂, hnew₂, hfiles₂⟩ := h₂
  have hne : receiptTemp ≠ rawTemp := by
    rintro rfl
    rw [hfiles₁, Function.update_self] at hnew₂
    cases hnew₂
  have hfree : w.files receiptTemp = none := by rwa [hfiles₁, Function.update_of_ne hne] at hnew₂
  dsimp only
  rw [Program.wp_bind, wp_removeIfExists]
  intro w₃ hw₃
  rw [Program.wp_bind, wp_removeIfExists]
  intro w₄ hw₄
  have hcleared : ∀ p, p ≠ rawPath → p ≠ receiptPath → p ∉ [rawTemp, receiptTemp] → w₄.files p = w.files p := by
    intro p hp hp' htemps
    rw [List.mem_cons, List.mem_singleton, not_or] at htemps
    rw [hw₄, Function.update_of_ne hp', hw₃, Function.update_of_ne hp, hfiles₂, Function.update_of_ne htemps.2, hfiles₁,
      Function.update_of_ne htemps.1]
  rw [Program.wp_bind, wp_replaceFile]
  rintro (e | ⟨⟩) w₅ hreplace
  · obtain ⟨he, hfiles⟩ := hreplace
    refine ⟨he, by simp [hnew₁, hfree], fun p hp hp' htemps => ?_⟩
    rw [← hcleared p hp hp' htemps]
    rw [List.mem_cons, not_or] at htemps
    rcases hfiles with hfiles | ⟨-, hfiles⟩
    · rw [hfiles]
    · rw [hfiles, Disk.moved_of_ne htemps.1 hp]
  obtain ⟨hthere, hw₅⟩ := hreplace
  have hraw₄ : w₄.files rawTemp = some (utf8 raw) := by
    have hother : rawTemp ≠ receiptPath := by
      rintro rfl
      rw [hw₄, Function.update_self] at hthere
      cases hthere
    rw [hw₄, Function.update_of_ne hother, hw₃, Function.update_of_ne htemp₁.ne, hfiles₂, Function.update_of_ne hne.symm,
      hfiles₁, Function.update_self]
  have hafter : ∀ p, p ≠ rawPath → p ≠ receiptPath → p ∉ [receiptTemp] → w₅.files p = w.files p := by
    intro p hp hp' htemp
    by_cases hsource : p = rawTemp
    · rw [hw₅, hsource, Disk.moved, Function.update_self, hnew₁]
    · rw [hw₅, Disk.moved_of_ne hsource hp, hcleared p hp hp' (by rw [List.mem_cons, not_or]; exact ⟨hsource, htemp⟩)]
  dsimp only
  rw [Program.wp_bind, wp_replaceFile]
  rintro (e | ⟨⟩) w₆ hreplace'
  · obtain ⟨he, hfiles⟩ := hreplace'
    dsimp only
    rw [if_pos he, Program.wp_bind, wp_removeIfExists]
    intro w₇ hw₇
    rw [Program.wp_bind, wp_removeIfExists]
    intro w₈ hw₈
    refine ⟨he, by simpa using hfree, fun p hp hp' htemp => ?_⟩
    rw [hw₈, Function.update_of_ne hp', hw₇, Function.update_of_ne hp, ← hafter p hp hp' htemp]
    rcases hfiles with hfiles | ⟨-, hfiles⟩
    · rw [hfiles]
    · rw [hfiles, Disk.moved_of_ne (by simpa using htemp) hp']
  · obtain ⟨-, hw₆⟩ := hreplace'
    have hraw₅ : w₅.files rawPath = some (utf8 raw) := by
      rw [hw₅, Disk.moved, Function.update_of_ne htemp₁.ne.symm, Function.update_self, hraw₄]
    have hfresh : receiptTemp ≠ rawPath := by
      rintro rfl
      exact hname htemp₂
    have hreceipt₅ : w₅.files receiptTemp = some (utf8 text) := by
      rw [hw₅, Disk.moved_of_ne hne hfresh, hw₄, Function.update_of_ne htemp₂.ne, hw₃, Function.update_of_ne hfresh,
        hfiles₂, Function.update_self]
    refine ⟨rfl, text, htext, hencodable, by simpa using hraw, funext fun p => ?_⟩
    rw [hw₆]
    by_cases hreceipt : p = receiptPath
    · rw [hreceipt, Disk.moved, Function.update_of_ne htemp₂.ne.symm, Function.update_self, Function.update_self, hreceipt₅]
    by_cases hrawPath : p = rawPath
    · rw [hrawPath, Disk.moved_of_ne hfresh.symm hdistinct, hraw₅, Function.update_of_ne hdistinct, Function.update_self]
      rfl
    rw [Function.update_of_ne hreceipt, Function.update_of_ne hrawPath]
    by_cases htemp : p = receiptTemp
    · rw [htemp, Disk.moved, Function.update_self, hfree]
    · rw [Disk.moved_of_ne htemp hreceipt, hafter p hrawPath hreceipt (by simpa using htemp)]

/-- The `try` block for a receipt alone. -/
theorem wp_publishReceipt (receipt : BlindEvalReceipt) :
    Program.wp (ordinary same) (publishReceipt receipt rawPath receiptPath)
      (Publishes receipt none rawPath receiptPath w) w := by
  unfold publishReceipt
  rw [Program.wp_bind]
  refine Program.wp_mono ?_ (wp_stageText _ (raises_renderJson receipt))
  rintro (e | temp) w₁ h₁
  · exact ⟨h₁.1, by simp, fun p _ _ _ => by rw [h₁.2]⟩
  obtain ⟨text, htext, hencodable, htemp, hnew, hfiles⟩ := h₁
  dsimp only
  rw [Program.wp_bind, wp_removeIfExists]
  intro w₂ hw₂
  rw [Program.wp_bind, wp_removeIfExists]
  intro w₃ hw₃
  have hcleared : ∀ p, p ≠ rawPath → p ≠ receiptPath → p ≠ temp → w₃.files p = w.files p := by
    intro p hp hp' hother
    rw [hw₃, Function.update_of_ne hp', hw₂, Function.update_of_ne hp, hfiles, Function.update_of_ne hother]
  rw [Program.wp_bind, wp_replaceFile]
  rintro (e | ⟨⟩) w₄ hreplace
  · obtain ⟨he, hmoved⟩ := hreplace
    refine ⟨he, by simpa using hnew, fun p hp hp' hother => ?_⟩
    rw [List.mem_singleton] at hother
    rw [← hcleared p hp hp' hother]
    rcases hmoved with hsame | ⟨-, hmoved⟩
    · rw [hsame]
    · rw [hmoved, Disk.moved_of_ne hother hp']
  · obtain ⟨hthere, hw₄⟩ := hreplace
    have hother : temp ≠ rawPath := by
      rintro rfl
      rw [hw₃, Function.update_of_ne htemp.ne, hw₂, Function.update_self] at hthere
      cases hthere
    refine ⟨rfl, text, htext, hencodable, by simp, funext fun p => ?_⟩
    rw [hw₄]
    by_cases hreceipt : p = receiptPath
    · rw [hreceipt, Disk.moved, Function.update_of_ne htemp.ne.symm, Function.update_self, Function.update_self, hw₃,
        Function.update_of_ne htemp.ne, hw₂, Function.update_of_ne hother, hfiles, Function.update_self]
    rw [Function.update_of_ne hreceipt]
    by_cases hsource : p = temp
    · rw [hsource, Disk.moved, Function.update_self, Function.update_of_ne hother, hnew]
    rw [Disk.moved_of_ne hsource hreceipt]
    by_cases hraw : p = rawPath
    · rw [hraw, Function.update_self, hw₃, hw₂]
      by_cases hequal : rawPath = receiptPath
      · rw [hequal, Function.update_self]
        rfl
      · rw [Function.update_of_ne hequal, Function.update_self]
        rfl
    · rw [Function.update_of_ne hraw, hcleared p hraw hreceipt hsource]

/-- Both targets are as they should be, or neither is there; no other file has changed. -/
def Committed (receipt : BlindEvalReceipt) (raw : Option PyStr) (rawPath receiptPath : OutputPath) (w : Disk)
    (outcome : Except PyExc Unit) (w' : Disk) : Prop :=
  match outcome with
  | .ok () => ∃ text, receipt.renderJson = .ok text ∧ encodable text = true ∧ (∀ t ∈ raw, encodable t = true) ∧
      w'.files = Function.update (Function.update w.files rawPath (raw.map utf8)) receiptPath (some (utf8 text))
  | .error e => (∃ message, e = outputCommitError message) ∧
      w'.files = Function.update (Function.update w.files rawPath none) receiptPath none

omit [PyRuntime] in
theorem wp_dropTemporaries {temps : List OutputPath} {Q : Unit → Disk → Prop}
    (h : ∀ w', (∀ p, w'.files p = if p ∈ temps then none else w.files p) → Q () w') :
    Program.wp (ordinary same) (dropTemporaries temps) Q w := by
  induction temps generalizing w with
  | nil => exact h w fun p => by simp
  | cons temp temps ih =>
    rw [dropTemporaries, Program.wp_bind, wp_removeIfExists]
    intro w₁ hw₁
    apply ih
    intro w₂ hw₂
    apply h
    intro p
    rw [hw₂, hw₁]
    by_cases hp : p = temp
    · rw [hp, Function.update_self, ite_self, if_pos List.mem_cons_self]
    · simp only [Function.update_of_ne hp, List.mem_cons, hp, false_or]

omit [PyRuntime] in
/-- Once the targets and the temporary files are gone, nothing else has changed. -/
theorem Residue.cleared {temps : List OutputPath} {w₁ w₂ w₃ w₄ : Disk} (h : Residue rawPath receiptPath temps w w₁)
    (hraw : w₂.files = Function.update w₁.files rawPath none) (hreceipt : w₃.files = Function.update w₂.files receiptPath none)
    (htemps : ∀ p, w₄.files p = if p ∈ temps then none else w₃.files p) :
    w₄.files = Function.update (Function.update w.files rawPath none) receiptPath none := by
  funext p
  rw [htemps, hreceipt, hraw]
  by_cases hp' : p = receiptPath
  · rw [hp', Function.update_self, Function.update_self, ite_self]
  rw [Function.update_of_ne hp', Function.update_of_ne hp']
  by_cases hp : p = rawPath
  · rw [hp, Function.update_self, Function.update_self, ite_self]
  rw [Function.update_of_ne hp, Function.update_of_ne hp]
  split_ifs with htemp
  · exact (h.1 p htemp).symm
  · exact h.2 p hp hp' htemp

theorem wp_finish_publish {receipt : BlindEvalReceipt} {raw : Option PyStr}
    {publish : Program outputInterface (Except PyExc Unit × List OutputPath)}
    (h : Program.wp (ordinary same) publish (Publishes receipt raw rawPath receiptPath w) w) :
    Program.wp (ordinary same) (commitCliOutputs.finish rawPath receiptPath publish)
      (Committed receipt raw rawPath receiptPath w) w := by
  unfold commitCliOutputs.finish
  rw [Program.wp_bind]
  refine Program.wp_mono ?_ h
  rintro ⟨e | ⟨⟩, temps⟩ w₁ hpublish
  · obtain ⟨he, hresidue⟩ := hpublish
    dsimp only
    rw [settle, if_pos he, Program.wp_bind, Program.wp_bind, wp_removeIfExists]
    intro w₂ hw₂
    rw [Program.wp_bind, wp_removeIfExists]
    intro w₃ hw₃
    rw [Program.pure_eq_done, Program.wp_done, Program.wp_bind]
    apply wp_dropTemporaries
    intro w₄ hw₄
    exact ⟨⟨_, rfl⟩, hresidue.cleared hw₂ hw₃ hw₄⟩
  · obtain ⟨htemps, hpublished⟩ := hpublish
    cases htemps
    exact hpublished

/-- `_output_paths` accepts the targets: they are two, and no two names of one file. -/
def Accepted (same : OutputPath → OutputPath → Bool) (rawPath receiptPath : OutputPath) (w : Disk) : Prop :=
  rawPath ≠ receiptPath ∧ ((w.files rawPath).isSome = true → (w.files receiptPath).isSome = true →
    same rawPath receiptPath = false)

omit [PyRuntime] in
theorem wp_outputPaths (h : Accepted same rawPath receiptPath w) :
    Procedure.wp (ordinary same) (outputPaths rawPath receiptPath) (fun r w' => r = .ok () ∧ w' = w) w := by
  obtain ⟨hdistinct, halias⟩ := h
  unfold outputPaths
  rw [if_neg hdistinct, Procedure.wp_bind, wp_asked]
  rintro rawThere w₁ ⟨hrawThere, rfl⟩
  rw [Procedure.continueWith_ok]
  split_ifs with hraw
  · rw [Procedure.wp_bind, wp_asked]
    rintro receiptThere w₂ ⟨hreceiptThere, rfl⟩
    rw [Procedure.continueWith_ok]
    split_ifs with hreceipt
    · rw [Procedure.wp_bind, wp_asked]
      rintro (e | answer) w₃ hsame
      · obtain ⟨he, rfl⟩ := hsame
        rw [Procedure.continueWith_ok]
        dsimp only
        rw [if_pos he]
        exact ⟨rfl, rfl⟩
      · obtain ⟨hanswer, rfl⟩ := hsame
        rw [halias (hrawThere ▸ hraw) (hreceiptThere ▸ hreceipt)] at hanswer
        subst hanswer
        exact ⟨rfl, rfl⟩
    · exact ⟨rfl, rfl⟩
  · exact ⟨rfl, rfl⟩

/-- A run returns a raw output with the receipt of a pass, and with no other. -/
theorem raw_of_concludes {req : BlindEvalRequest} {receipt : BlindEvalReceipt} {raw : Option PyStr} {transcript : Transcript}
    (h : Concludes req (.ok (receipt, raw)) transcript) : receipt.terminalStatus = .pass ↔ raw.isSome = true := by
  have hrefusals : ∀ exit ∈ refusals, exit.terminalStatus ≠ .pass := by decide
  generalize hresult : (.ok (receipt, raw) : Except Raised (BlindEvalReceipt × Option PyStr)) = result at h
  cases h with
  | @refused envelope started exit _ _ _ _ hrefuses =>
    cases hresult
    refine iff_of_false ?_ Bool.false_ne_true
    show exit.terminalStatus ≠ .pass
    rcases hrefuses with hmem | ⟨_, -, rfl⟩
    · exact hrefusals exit hmem
    · exact TerminalStatus.noConfusion
  | passed =>
    cases hresult
    exact iff_of_true rfl rfl
  | @failed envelope started _ apiKey _ _ _ raised exit _ _ _ hexit =>
    cases hresult
    refine iff_of_false ?_ Bool.false_ne_true
    show exit.terminalStatus ≠ .pass
    rcases raised with e | (_ | text)
    · cases hexit
      exact TerminalStatus.noConfusion
    · cases hexit
    · cases hexit
      exact TerminalStatus.noConfusion
  | uncaught => cases hresult

end Pair

section Frozen
open Python.Ascii

def osError (name : String) (message : PyStr) : PyExc := ⟨name, [name, "OSError", "Exception"], message⟩

/-- A disk that does what it is asked; `random` is in the name of every temporary file. -/
def quietDisk (random : PyStr) (w : Disk) : (op : OutputOp) → op.Answer × Disk
  | .exist path => ((w.files path).isSome, w)
  | .samefile _ _ => (.ok false, w)
  | .makeParents _ => (.ok (), w)
  | .createTemporary path =>
    let temp : OutputPath := ⟨path.parent, py "." ++ path.name ++ py "." ++ random ++ py ".tmp"⟩
    if w.files temp = none then (.ok temp, ⟨Function.update w.files temp (some []), []⟩)
    else (.error (osError "FileExistsError" "no usable temporary file name"), w)
  | .openHandle _ => (.ok (), w)
  | .write temp data => (.ok (), ⟨Function.update w.files temp (some []), w.buffer ++ data⟩)
  | .flush temp => (.ok (), ⟨Function.update w.files temp (some w.buffer), w.buffer⟩)
  | .fsync temp => (.ok (), ⟨Function.update w.files temp (some w.buffer), w.buffer⟩)
  | .close temp => (.ok (), ⟨Function.update w.files temp (some w.buffer), []⟩)
  | .unlink path => ((), ⟨Function.update w.files path none, w.buffer⟩)
  | .replace source target =>
    if (w.files source).isSome then (.ok (), ⟨w.moved source target, w.buffer⟩)
    else (.error (osError "FileNotFoundError" "no such file"), w)

def keyboardInterrupt : PyExc := ⟨"KeyboardInterrupt", ["KeyboardInterrupt"], []⟩

/-- The run is interrupted while the first directory is made. -/
def interruptedDisk (w : Disk) : (op : OutputOp) → op.Answer × Disk
  | .makeParents _ => (.error keyboardInterrupt, w)
  | op => quietDisk [] w op

def emptyDisk : Disk := ⟨fun _ => none, []⟩

theorem quietDisk_step {P : PyExc → Prop} (hP : ∀ name message, P (osError name message)) (random : PyStr) (w : Disk)
    (op : OutputOp) : outputStep P (fun _ _ => false) w op (quietDisk random w op).1 (quietDisk random w op).2 := by
  cases op with
  | createTemporary path =>
    unfold quietDisk
    dsimp only
    split_ifs with hnew
    · exact ⟨⟨rfl, random, rfl⟩, hnew, rfl⟩
    · exact ⟨hP _ _, rfl⟩
  | replace source target =>
    unfold quietDisk
    dsimp only
    split_ifs with hthere
    · exact ⟨hthere, rfl⟩
    · exact ⟨hP _ _, .inl rfl⟩
  | exist path => exact ⟨rfl, rfl⟩
  | samefile left right => exact ⟨rfl, rfl⟩
  | makeParents path => exact rfl
  | openHandle temp => exact rfl
  | write temp data => exact ⟨rfl, _, rfl⟩
  | flush temp => exact ⟨rfl, _, rfl⟩
  | fsync temp => exact ⟨rfl, _, rfl⟩
  | close temp => exact rfl
  | unlink path => exact rfl

theorem interruptedDisk_step (w : Disk) (op : OutputOp) :
    outputStep (fun _ => True) (fun _ _ => false) w op (interruptedDisk w op).1 (interruptedDisk w op).2 := by
  cases op with
  | makeParents path => exact ⟨trivial, rfl⟩
  | _ => exact quietDisk_step (fun _ _ => trivial) [] w _

theorem ordinary_osError (name : String) (message : PyStr) : (osError name message).isA "Exception" := by
  simp [PyExc.isA, osError]

theorem quietDisk_ordinary (random : PyStr) (w : Disk) (op : OutputOp) : outputStep (fun e => e.isA "Exception")
    (fun _ _ => false) w op (quietDisk random w op).1 (quietDisk random w op).2 :=
  quietDisk_step ordinary_osError random w op

def receiptTarget : OutputPath := ⟨"/out", "receipt.json"⟩

def rawTarget : OutputPath := ⟨"/out", "answer.txt"⟩

/-- A target with the name of a temporary file. -/
def disguisedTarget : OutputPath := ⟨"/out", ".receipt.json.k3v9x2qa.tmp"⟩

/-- What became of a sample pair. -/
structure SampleOutcome where
  raw : Option PyStr
  error : Option PyExc
  rawFile : Option (List UInt8)
  receiptFile : Option (List UInt8)
  deriving DecidableEq

def samplePair (env : Disk → (op : OutputOp) → op.Answer × Disk) (rawPath : OutputPath) :
    Option SampleOutcome :=
  match (frozenOutcome "lab-secret" (.ok plainAnswer)).1 with
  | .error _ => none
  | .ok (receipt, raw) =>
    let (outcome, w) := (commitCliOutputs receipt rawPath receiptTarget raw).run env emptyDisk
    some ⟨raw, match outcome with | .ok () => none | .error e => some e, w.files rawPath, w.files receiptTarget⟩

theorem samplePair_evaluated :
    samplePair interruptedDisk rawTarget = some ⟨some (py "4"), some keyboardInterrupt, none, none⟩ ∧
    samplePair (quietDisk "k3v9x2qa") disguisedTarget = some ⟨some (py "4"), none, none, some (utf8 "4")⟩ := by
  decide +kernel

theorem exec_sample {P : PyExc → Prop} {env : Disk → (op : OutputOp) → op.Answer × Disk}
    (henv : ∀ w op, outputStep P (fun _ _ => false) w op (env w op).1 (env w op).2) {rawPath : OutputPath} {raw : Option PyStr}
    {error : Option PyExc} {rawFile receiptFile : Option (List UInt8)}
    (h : samplePair env rawPath = some ⟨raw, error, rawFile, receiptFile⟩) :
    ∃ receipt outcome w, (frozenOutcome "lab-secret" (.ok plainAnswer)).1 = .ok (receipt, raw) ∧
      Program.Exec (fileSystem P fun _ _ => false) (commitCliOutputs receipt rawPath receiptTarget raw) emptyDisk outcome w ∧
      error = (match outcome with | .ok () => none | .error e => some e) ∧
      w.files rawPath = rawFile ∧ w.files receiptTarget = receiptFile := by
  unfold samplePair at h
  split at h
  · cases h
  · rename_i receipt raw hrun
    have hexec : Program.Exec (fileSystem P fun _ _ => false) _ _ _ _ :=
      Program.exec_run henv (commitCliOutputs receipt rawPath receiptTarget raw) emptyDisk
    rcases hcommit : (commitCliOutputs receipt rawPath receiptTarget raw).run env emptyDisk with ⟨outcome, w⟩
    rw [hcommit] at h hexec
    cases h
    exact ⟨receipt, outcome, w, hrun, hexec, rfl, rfl, rfl⟩

theorem accepted_emptyDisk {rawPath receiptPath : OutputPath} (h : rawPath ≠ receiptPath) :
    Accepted (fun _ _ => false) rawPath receiptPath emptyDisk :=
  ⟨h, fun _ _ => rfl⟩

end Frozen

end EvaluationLab.BlindEval
