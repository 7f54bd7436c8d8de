import EvaluationLab.Effect.Program
import EvaluationLab.Python.Value
import Mathlib.Logic.Function.Basic

/-! `write_report`: a report is staged in a temporary file beside its path and then put in place. -/
namespace EvaluationLab.Lab
open Python Effect

/-- What the report writer asks of the file system, in the directory of the report. -/
inductive ReportOp where
  | makeParents
  | createTemporary (head tail : PyStr)
  | write (name text : PyStr)
  | close (name : PyStr)
  | replace (source target : PyStr)
  | exist (name : PyStr)
  | unlink (name : PyStr)

@[reducible] def ReportOp.Answer : ReportOp → Type
  | createTemporary _ _ => Except PyExc PyStr
  | exist _ => Bool
  | unlink _ => Unit
  | _ => Except PyExc Unit

abbrev reportInterface : Interface := ⟨ReportOp, ReportOp.Answer⟩

def request (op : ReportOp) : Program reportInterface op.Answer := .ask op .done

/-- The `try` block: what `temporary_name` is bound to at its end, and how it ended. -/
def stageReport (target content : PyStr) : Program reportInterface (Option PyStr × Except PyExc Unit) := do
  match ← request (.createTemporary (py "." ++ target ++ py ".") ".tmp") with
  | .error e => return (none, .error e)
  | .ok name =>
    match ← request (.write name content) with
    | .error e =>
      -- the name is bound only after the write
      match ← request (.close name) with
      | .error e' => return (none, .error e')
      | .ok () => return (none, .error e)
    | .ok () =>
      match ← request (.close name) with
      | .error e => return (some name, .error e)
      | .ok () =>
        let replaced ← request (.replace name target)
        return (some name, replaced)

/-- `write_report`. -/
def writeReport (target content : PyStr) : Program reportInterface (Except PyExc Unit) := do
  match ← request .makeParents with
  | .error e => return .error e
  | .ok () =>
    let (temporaryName, result) ← stageReport target content
    match temporaryName with
    | none => return result
    | some name =>
      let there ← request (.exist name)
      if there then
        request (.unlink name)
        return result
      else return result

section Directory

/-- The files of a directory by their names, and the text handed to the file that is open. -/
structure Directory where
  files : PyStr → Option (List UInt8)
  buffer : PyStr

/-- What the operations may do. A temporary file gets a new name. A write encodes the whole text before
anything of it is kept, a file has its text only once it is closed, and a replacement happens or does not. -/
def directoryStep (w : Directory) : (op : ReportOp) → op.Answer → Directory → Prop
  | .makeParents, _, w' => w' = w
  | .createTemporary head tail, .ok name, w' => (∃ random, name = head ++ random ++ tail) ∧ w.files name = none ∧
      w' = ⟨Function.update w.files name (some []), []⟩
  | .createTemporary _ _, .error _, w' => w' = w
  | .write name text, .ok (), w' => encodable text = true ∧ w'.buffer = w.buffer ++ text ∧
      ∃ bytes, w'.files = Function.update w.files name (some bytes)
  | .write name _, .error _, w' => ∃ bytes, w'.files = Function.update w.files name (some bytes)
  | .close name, .ok (), w' => w'.files = Function.update w.files name (some (utf8 w.buffer))
  | .close name, .error _, w' => ∃ bytes, w'.files = Function.update w.files name (some bytes)
  | .replace source target, .ok (), w' =>
      w'.files = Function.update (Function.update w.files target (w.files source)) source none
  | .replace _ _, .error _, w' => w' = w
  | .exist name, there, w' => there = (w.files name).isSome ∧ w' = w
  | .unlink name, (), w' => w'.files = Function.update w.files name none

def directory : Semantics reportInterface Directory where
  allowed _ _ := True
  step := directoryStep

/-- A file system that does what it may do. -/
abbrev Responses := Directory → (op : reportInterface.Op) → reportInterface.Answer op × Directory

def Responses.Lawful (env : Responses) : Prop := ∀ w op, directoryStep w op (env w op).1 (env w op).2

/-- The report is at its path and nothing else has changed, or nothing has changed at all. -/
def Atomic (target content : PyStr) (w : Directory) (outcome : Except PyExc Unit × Directory) : Prop :=
  match outcome.1 with
  | .ok () => encodable content = true ∧ outcome.2.files = Function.update w.files target (some (utf8 content))
  | .error _ => outcome.2.files = w.files

/-- Writing the report raises: its temporary file is there, and the text is not taken. -/
def WriteRaises (env : Responses) (target content : PyStr) (w : Directory) : Prop :=
  ∃ u name v e, env w .makeParents = (.ok (), u) ∧
    env u (.createTemporary (py "." ++ target ++ py ".") ".tmp") = (.ok name, v) ∧
    (env v (.write name content)).1 = .error e

@[simp] theorem run_request (env : Responses) (op : ReportOp) (w : Directory) :
    (request op).run env w = env w op := rfl

@[simp] theorem run_pure (env : Responses) {α : Type} (a : α) (w : Directory) :
    (pure a : Program reportInterface α).run env w = (a, w) := rfl

variable {env : Responses} {target content name : PyStr} {w : Directory}

/-- A temporary name is longer than the name of the report. -/
theorem temporary_ne {random : PyStr} (h : name = py "." ++ target ++ py "." ++ random ++ py ".tmp") : name ≠ target := by
  intro hname
  have hlength := congrArg List.length h
  have hdot : (py ".").length = 1 := by decide +kernel
  simp only [List.length_append, hname, hdot] at hlength
  omega

/-- The `try` block has ended with the temporary file in the directory. -/
def Leaves (u : Directory) (name : PyStr) (u' : Directory) : Prop :=
  u.files name = none ∧ ∃ bytes, u'.files = Function.update u.files name (some bytes)

theorem Leaves.update {u u' v : Directory} {bytes : List UInt8} (h : Leaves u name u')
    (hv : v.files = Function.update u'.files name (some bytes)) : Leaves u name v := by
  obtain ⟨hnew, _, hfiles⟩ := h
  refine ⟨hnew, bytes, ?_⟩
  rw [hv, hfiles, Function.update_idem]

/-- How the `try` block ends: nothing done, an unnamed or a named file left behind, or the report in place. -/
inductive Staged (env : Responses) (target content : PyStr) (u : Directory) :
    (Option PyStr × Except PyExc Unit) × Directory → Prop where
  | uncreated {e : PyExc} {u' : Directory} (hfiles : u'.files = u.files)
      (hcreated : ∀ name v, env u (.createTemporary (py "." ++ target ++ py ".") ".tmp") ≠ (.ok name, v)) :
      Staged env target content u ((none, .error e), u')
  | unwritten {name : PyStr} {v u' : Directory} {e e' : PyExc}
      (hcreated : env u (.createTemporary (py "." ++ target ++ py ".") ".tmp") = (.ok name, v))
      (hwrite : (env v (.write name content)).1 = .error e) (hleft : Leaves u name u') :
      Staged env target content u ((none, .error e'), u')
  | unplaced {name : PyStr} {v u' : Directory} {e : PyExc}
      (hcreated : env u (.createTemporary (py "." ++ target ++ py ".") ".tmp") = (.ok name, v))
      (hwrite : (env v (.write name content)).1 = .ok ()) (hleft : Leaves u name u') :
      Staged env target content u ((some name, .error e), u')
  | placed {name : PyStr} {v u' : Directory}
      (hcreated : env u (.createTemporary (py "." ++ target ++ py ".") ".tmp") = (.ok name, v))
      (hwrite : (env v (.write name content)).1 = .ok ()) (hname : name ≠ target) (hnew : u.files name = none)
      (hcontent : encodable content = true) (hfiles : u'.files = Function.update u.files target (some (utf8 content))) :
      Staged env target content u ((some name, .ok ()), u')

theorem stageReport_staged (henv : env.Lawful) (u : Directory) :
    Staged env target content u ((stageReport target content).run env u) := by
  unfold stageReport
  rw [Program.run_bind, run_request]
  have hcreate := henv u (.createTemporary (py "." ++ target ++ py ".") ".tmp")
  rcases hcreated : env u (.createTemporary (py "." ++ target ++ py ".") ".tmp") with ⟨_ | name, v⟩
  · rw [hcreated] at hcreate
    obtain rfl : v = u := hcreate
    refine .uncreated rfl fun name v h => ?_
    rw [hcreated] at h
    cases h
  · rw [hcreated] at hcreate
    obtain ⟨⟨random, hname⟩, hnew, rfl⟩ := hcreate
    have hne : name ≠ target := temporary_ne hname
    have hthere : Leaves u name ⟨Function.update u.files name (some []), []⟩ := ⟨hnew, [], rfl⟩
    dsimp only
    rw [Program.run_bind, run_request]
    generalize hv : (⟨Function.update u.files name (some []), []⟩ : Directory) = v at hcreated hthere ⊢
    have hwriting := henv v (.write name content)
    rcases hwrite : env v (.write name content) with ⟨e | ⟨⟩, x⟩
    · rw [hwrite] at hwriting
      obtain ⟨_, hx⟩ := hwriting
      have hleft := hthere.update hx
      have hraised : (env v (.write name content)).1 = .error e := by rw [hwrite]
      dsimp only
      rw [Program.run_bind, run_request]
      have hclosing := henv x (.close name)
      rcases hclose : env x (.close name) with ⟨e' | ⟨⟩, y⟩
      · rw [hclose] at hclosing
        obtain ⟨_, hy⟩ := hclosing
        exact .unwritten hcreated hraised (hleft.update hy)
      · rw [hclose] at hclosing
        exact .unwritten hcreated hraised (hleft.update hclosing)
    · rw [hwrite] at hwriting
      obtain ⟨hcontent, hbuffer, _, hx⟩ := hwriting
      have hleft := hthere.update hx
      have htaken : (env v (.write name content)).1 = .ok () := by rw [hwrite]
      dsimp only
      rw [Program.run_bind, run_request]
      have hclosing := henv x (.close name)
      rcases hclose : env x (.close name) with ⟨e | ⟨⟩, y⟩
      · rw [hclose] at hclosing
        obtain ⟨_, hy⟩ := hclosing
        exact .unplaced hcreated htaken (hleft.update hy)
      · rw [hclose] at hclosing
        have hleft' := hleft.update hclosing
        dsimp only
        rw [Program.run_bind, run_request]
        have hreplacing := henv y (.replace name target)
        rcases hreplace : env y (.replace name target) with ⟨e | ⟨⟩, z⟩
        · rw [hreplace] at hreplacing
          obtain rfl : z = y := hreplacing
          exact .unplaced hcreated htaken hleft'
        · rw [hreplace] at hreplacing
          refine .placed hcreated htaken hne hnew hcontent ?_
          have hy : y.files = Function.update u.files name (some (utf8 content)) := by
            rw [hclosing, hbuffer, hx, ← hv, List.nil_append, Function.update_idem, Function.update_idem]
          have hself : Function.update u.files name none = u.files := by rw [← hnew, Function.update_eq_self]
          rw [hreplacing, hy, Function.update_self, Function.update_comm hne, Function.update_idem,
            Function.update_comm hne.symm, hself]

theorem Leaves.remaining {u u' : Directory} (h : Leaves u name u') : u'.files ≠ u.files := by
  obtain ⟨hnew, bytes, hfiles⟩ := h
  intro hsame
  rw [hfiles] at hsame
  have hat := congrFun hsame name
  rw [Function.update_self, hnew] at hat
  cases hat

theorem Leaves.there {u u' : Directory} (h : Leaves u name u') : (u'.files name).isSome = true := by
  obtain ⟨-, bytes, hfiles⟩ := h
  rw [hfiles, Function.update_self, Option.isSome_some]

/-- The cleanup: the temporary file is removed when it is still there. -/
theorem removed {u u' v : Directory} (h : Leaves u name u') (hv : v.files = Function.update u'.files name none) :
    v.files = u.files := by
  obtain ⟨hnew, bytes, hfiles⟩ := h
  rw [hv, hfiles, Function.update_idem, ← hnew, Function.update_eq_self]

/-- A report is written completely or not at all, unless its text could not be written to the temporary file:
that file then stays behind. -/
theorem writeReport_atomic_iff (henv : env.Lawful) (target content : PyStr) (w : Directory) :
    Atomic target content w ((writeReport target content).run env w) ↔ ¬WriteRaises env target content w := by
  unfold writeReport
  rw [Program.run_bind, run_request]
  have hparents := henv w .makeParents
  rcases hmade : env w .makeParents with ⟨e | ⟨⟩, u⟩
  · rw [hmade] at hparents
    obtain rfl : u = w := hparents
    refine iff_of_true rfl ?_
    rintro ⟨_, _, _, _, hother, -⟩
    rw [hmade] at hother
    cases hother
  · rw [hmade] at hparents
    obtain rfl : u = w := hparents
    dsimp only
    rw [Program.run_bind]
    have hstaged : Staged env target content u ((stageReport target content).run env u) := stageReport_staged henv u
    revert hstaged
    generalize (stageReport target content).run env u = staged
    intro hstaged
    have hsecond : WriteRaises env target content u ↔ ∃ name v e,
        env u (.createTemporary (py "." ++ target ++ py ".") ".tmp") = (.ok name, v) ∧
          (env v (.write name content)).1 = .error e := by
      constructor
      · rintro ⟨u', name, v, e, hu, hcreated, hwrite⟩
        rw [hmade] at hu
        cases hu
        exact ⟨name, v, e, hcreated, hwrite⟩
      · rintro ⟨name, v, e, hcreated, hwrite⟩
        exact ⟨u, name, v, e, hmade, hcreated, hwrite⟩
    have hwritten : ∀ {name v}, env u (.createTemporary (py "." ++ target ++ py ".") ".tmp") = (.ok name, v) →
        (env v (.write name content)).1 = .ok () → ¬∃ name v e,
          env u (.createTemporary (py "." ++ target ++ py ".") ".tmp") = (.ok name, v) ∧
            (env v (.write name content)).1 = .error e := by
      rintro name v hcreated hwrite ⟨name', v', e, hother, hraised⟩
      rw [hcreated, Prod.mk.injEq, Except.ok.injEq] at hother
      obtain ⟨rfl, rfl⟩ := hother
      rw [hwrite] at hraised
      cases hraised
    rw [hsecond]
    cases hstaged with
    | uncreated hfiles hcreated =>
      refine iff_of_true hfiles ?_
      rintro ⟨name, v, _, hother, -⟩
      exact hcreated name v hother
    | @unwritten name v u' e e' hcreated hwrite hleft =>
      exact iff_of_false hleft.remaining fun h => h ⟨name, v, e, hcreated, hwrite⟩
    | @unplaced name v u' e hcreated hwrite hleft =>
      refine iff_of_true ?_ (hwritten hcreated hwrite)
      obtain ⟨hasked, hsame⟩ := henv u' (.exist name)
      have hthere : env u' (.exist name) = ((u'.files name).isSome, u') := Prod.ext hasked hsame
      have hunlink := henv u' (.unlink name)
      dsimp only
      rw [Program.run_bind, run_request, hthere, hleft.there, if_pos rfl, Program.run_bind, run_request]
      exact removed hleft hunlink
    | @placed name v u' hcreated hwrite hname hnew hcontent hfiles =>
      refine iff_of_true ?_ (hwritten hcreated hwrite)
      obtain ⟨hasked, hsame⟩ := henv u' (.exist name)
      have hthere : env u' (.exist name) = ((u'.files name).isSome, u') := Prod.ext hasked hsame
      have hgone : (u'.files name).isSome = false := by rw [hfiles, Function.update_of_ne hname, hnew, Option.isSome_none]
      dsimp only
      rw [Program.run_bind, run_request, hthere, hgone, if_neg Bool.false_ne_true]
      exact ⟨hcontent, hfiles⟩

/-- A disk on which only a text that has no encoding is not written. -/
def plainDisk : Responses
  | w, .makeParents => (.ok (), w)
  | w, .createTemporary head tail =>
    if w.files (head ++ tail) = none then (.ok (head ++ tail), ⟨Function.update w.files (head ++ tail) (some []), []⟩)
    else (.error ⟨"FileExistsError", ["FileExistsError", "OSError", "Exception"], "no usable temporary file name"⟩, w)
  | w, .write name text =>
    if encodable text then (.ok (), ⟨Function.update w.files name (some []), w.buffer ++ text⟩)
    else (.error unicodeEncodeError, ⟨Function.update w.files name (some []), w.buffer⟩)
  | w, .close name => (.ok (), ⟨Function.update w.files name (some (utf8 w.buffer)), []⟩)
  | w, .replace source target =>
    (.ok (), ⟨Function.update (Function.update w.files target (w.files source)) source none, w.buffer⟩)
  | w, .exist name => ((w.files name).isSome, w)
  | w, .unlink name => ((), ⟨Function.update w.files name none, w.buffer⟩)

theorem plainDisk_lawful : plainDisk.Lawful := by
  intro w op
  cases op with
  | makeParents => exact rfl
  | createTemporary head tail =>
    unfold plainDisk
    dsimp only
    split_ifs with hnew
    · exact ⟨⟨[], by rw [List.append_nil]⟩, hnew, rfl⟩
    · exact rfl
  | write name text =>
    unfold plainDisk
    dsimp only
    split_ifs with htext
    · exact ⟨htext, rfl, [], rfl⟩
    · exact ⟨[], rfl⟩
  | close name => exact rfl
  | replace source target => exact rfl
  | exist name => exact ⟨rfl, rfl⟩
  | unlink name => exact rfl

theorem writeReport_atomic_plain :
    Atomic "report.md" "passed" ⟨fun _ => none, []⟩ ((writeReport "report.md" "passed").run plainDisk ⟨fun _ => none, []⟩) := by
  refine (writeReport_atomic_iff plainDisk_lawful _ _ _).mpr ?_
  rintro ⟨u, name, v, e, hmade, hcreated, hwrite⟩
  cases hmade
  cases hcreated
  cases hwrite

/-- The temporary file of a report with a lone surrogate stays in the directory. -/
theorem surrogate_report_leaves : ¬Atomic "report.md" [0xD800] ⟨fun _ => none, []⟩
    ((writeReport "report.md" [0xD800]).run plainDisk ⟨fun _ => none, []⟩) := by
  intro h
  have hfile := congrFun h (py ".report.md..tmp")
  revert hfile
  decide +kernel

end Directory

end EvaluationLab.Lab
