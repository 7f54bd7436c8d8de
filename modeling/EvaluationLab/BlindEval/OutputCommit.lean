import EvaluationLab.BlindEval.Conclusion
import EvaluationLab.Python.JsonEncoder
import Mathlib.Logic.Function.Basic

/-! `commit_cli_outputs`: the receipt of a run and its raw output are staged beside their targets and published as a pair. -/
namespace EvaluationLab.BlindEval
open Python Effect

section Render

variable [PyRuntime]

/-- A new line at a level of `indent=2`. -/
def newLine (level : ℕ) : PyStr := 10 :: List.replicate (2 * level) 32

mutual

/-- `json.dumps(value, ensure_ascii=False, sort_keys=True, indent=2)`, at a level of it. -/
def renderIndented (level : ℕ) : Json → PyStr
  | .arr [] => "[]"
  | .obj [] => "\x7b\x7d"
  | .arr (v :: vs) =>
    91 :: newLine (level + 1) ++ (44 :: newLine (level + 1)).intercalate (indentedItems (level + 1) (v :: vs)) ++
      newLine level ++ [93]
  | .obj (f :: fs) =>
    123 :: newLine (level + 1) ++ (44 :: newLine (level + 1)).intercalate
      ((sortByKey (indentedFields (level + 1) (f :: fs))).map fun m => renderString m.1 ++ [58, 32] ++ m.2) ++
      newLine level ++ [125]
  | v => render v

def indentedItems (level : ℕ) : List Json → List PyStr
  | [] => []
  | v :: vs => renderIndented level v :: indentedItems level vs

def indentedFields (level : ℕ) : List (PyStr × Json) → List (PyStr × PyStr)
  | [] => []
  | (k, v) :: fs => (k, renderIndented level v) :: indentedFields level fs

end

/-- `render_json`. -/
def BlindEvalReceipt.renderJson (r : BlindEvalReceipt) : Except PyExc PyStr := do
  let fields ← r.asDict
  check (intsPrintable (.obj fields) = true) intTextError
  return renderIndented 0 (.obj fields) ++ [10]

end Render

/-- A resolved path: a directory and a name in it. -/
structure OutputPath where
  parent : PyStr
  name : PyStr
  deriving DecidableEq

/-- The files `tempfile.mkstemp` may make beside a target. -/
def OutputPath.Temporary (path temp : OutputPath) : Prop :=
  temp.parent = path.parent ∧ ∃ random, temp.name = py "." ++ path.name ++ py "." ++ random ++ py ".tmp"

inductive OutputOp where
  | exist (path : OutputPath)
  | samefile (left right : OutputPath)
  | makeParents (path : OutputPath)
  | createTemporary (path : OutputPath)
  | openHandle (temp : OutputPath)
  | write (temp : OutputPath) (data : List UInt8)
  | flush (temp : OutputPath)
  | fsync (temp : OutputPath)
  | close (temp : OutputPath)
  | unlink (path : OutputPath)
  | replace (source target : OutputPath)

/-- `unlink` has nothing to answer: every caller goes on when there is no such file. -/
@[reducible] def OutputOp.Answer : OutputOp → Type
  | exist _ => Bool
  | samefile _ _ => Except PyExc Bool
  | createTemporary _ => Except PyExc OutputPath
  | unlink _ => Unit
  | _ => Except PyExc Unit

abbrev outputInterface : Interface := ⟨OutputOp, OutputOp.Answer⟩

abbrev Commit := Procedure outputInterface PyExc

def asking (op : OutputOp) : Commit op.Answer := Procedure.ask (I := outputInterface) op

/-- The answer of an operation that may raise. -/
def raising {α : Type} (answer : Commit (Except PyExc α)) : Commit α := do
  let result ← answer
  Procedure.ofExcept result

def outputCommitError (message : PyStr) : PyExc :=
  ⟨"OutputCommitError", ["OutputCommitError", "RuntimeError", "Exception"], message⟩

/-- `_output_paths`, for two resolved paths. -/
def outputPaths (rawPath receiptPath : OutputPath) : Commit Unit := do
  if rawPath = receiptPath then
    throw (outputCommitError "raw-output and receipt-output must resolve to distinct paths")
  let rawExists ← asking (.exist rawPath)
  if rawExists then
    let receiptExists ← asking (.exist receiptPath)
    if receiptExists then
      let same ← asking (.samefile rawPath receiptPath)
      match same with
      | .ok true => throw (outputCommitError "raw-output and receipt-output alias the same file")
      | .ok false => return ()
      | .error e => if e.isA "OSError" then return () else throw e

/-- The `with` block: an error of its closing takes the place of one before. -/
def writeHandle (temp : OutputPath) (data : List UInt8) : Commit Unit := do
  raising (asking (.openHandle temp))
  tryCatch (do
    raising (asking (.write temp data))
    raising (asking (.flush temp))
    raising (asking (.fsync temp))) fun e => do
      raising (asking (.close temp))
      throw e
  raising (asking (.close temp))

/-- `_stage_bytes`. -/
def stageBytes (path : OutputPath) (data : List UInt8) : Commit OutputPath := do
  raising (asking (.makeParents path))
  let temp ← raising (asking (.createTemporary path))
  tryCatch (writeHandle temp data) fun e => do
    if e.isA "Exception" then
      asking (.unlink temp)
    throw e
  return temp

/-- A text is encoded and staged. -/
def stageText (path : OutputPath) (text : Except PyExc PyStr) : Commit OutputPath := do
  let content ← Procedure.ofExcept text
  if encodable content then stageBytes path (utf8 content) else throw unicodeEncodeError

/-- `_remove_if_exists`. -/
def removeIfExists (path : OutputPath) : Program outputInterface Unit := .ask (.unlink path) .done

def replaceFile (source target : OutputPath) : Program outputInterface (Except PyExc Unit) :=
  .ask (.replace source target) .done

section Commit

variable [PyRuntime] (receipt : BlindEvalReceipt) (rawPath receiptPath : OutputPath)

/-- The `try` block for a raw output and its receipt: how it ended, and the temporary files that still have a name. -/
def publishPair (raw : PyStr) : Program outputInterface (Except PyExc Unit × List OutputPath) := do
  match ← (stageText rawPath (.ok raw)).run with
  | .error e => return (.error e, [])
  | .ok rawTemp =>
    match ← (stageText receiptPath receipt.renderJson).run with
    | .error e => return (.error e, [rawTemp])
    | .ok receiptTemp =>
      removeIfExists rawPath
      removeIfExists receiptPath
      match ← replaceFile rawTemp rawPath with
      | .error e => return (.error e, [rawTemp, receiptTemp])
      | .ok () =>
        match ← replaceFile receiptTemp receiptPath with
        | .ok () => return (.ok (), [])
        | .error e =>
          if e.isA "Exception" then
            removeIfExists rawPath
            removeIfExists receiptPath
          return (.error e, [receiptTemp])

/-- The `try` block for a receipt alone. -/
def publishReceipt : Program outputInterface (Except PyExc Unit × List OutputPath) := do
  match ← (stageText receiptPath receipt.renderJson).run with
  | .error e => return (.error e, [])
  | .ok receiptTemp =>
    removeIfExists rawPath
    removeIfExists receiptPath
    match ← replaceFile receiptTemp receiptPath with
    | .error e => return (.error e, [receiptTemp])
    | .ok () => return (.ok (), [])

/-- The `except` clause. -/
def settle : Except PyExc Unit → Program outputInterface (Except PyExc Unit)
  | .ok () => return .ok ()
  | .error e =>
    if e.isA "Exception" then do
      removeIfExists rawPath
      removeIfExists receiptPath
      return .error (outputCommitError (safeErrorMessage e.message []))
    else return .error e

/-- The `finally` clause. -/
def dropTemporaries : List OutputPath → Program outputInterface Unit
  | [] => return ()
  | temp :: temps => do
    removeIfExists temp
    dropTemporaries temps

/-- `commit_cli_outputs`. -/
def commitCliOutputs (raw : Option PyStr) : Program outputInterface (Except PyExc Unit) := do
  match ← (outputPaths rawPath receiptPath).run with
  | .error e => return .error e
  | .ok () =>
    match receipt.terminalStatus, raw with
    | .pass, none => return .error (outputCommitError "PASS receipt requires a raw output body")
    | .pass, some text => finish (publishPair receipt rawPath receiptPath text)
    | _, some _ => return .error (outputCommitError "non-PASS receipt must not carry a raw output body")
    | _, none => finish (publishReceipt receipt rawPath receiptPath)
where
  finish (publish : Program outputInterface (Except PyExc Unit × List OutputPath)) :
      Program outputInterface (Except PyExc Unit) := do
    let (result, temps) ← publish
    let outcome ← settle rawPath receiptPath result
    dropTemporaries temps
    return outcome

end Commit

end EvaluationLab.BlindEval
