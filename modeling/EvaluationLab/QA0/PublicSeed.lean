import EvaluationLab.QA0.PublicSafe

/-! The public seed contract of a frozen case. -/
namespace EvaluationLab.QA0
open Python Effect

variable [PyRuntime]

/-- A JSON object's members. -/
abbrev Fields := List (PyStr × Json)

def obj (value : Json) (label : PyStr) : Except PyExc Fields :=
  match value with
  | .obj fields => .ok fields
  | _ => .error (valueError (label ++ " must be an object"))

def text (document : Fields) (key label : PyStr) : Except PyExc PyStr :=
  match dictGet document key with
  | .str value =>
    if strip value = [] then .error (valueError (label ++ "." ++ key ++ " must be a non-empty string"))
    else .ok (strip value)
  | _ => .error (valueError (label ++ "." ++ key ++ " must be a non-empty string"))

/-- The items of a list that must all be non-blank strings, stripped. -/
def stringItems (key label : PyStr) : ℕ → List Json → Except PyExc (List PyStr)
  | _, [] => .ok []
  | index, item :: items => do
    let message := label ++ "." ++ key ++ "[" ++ natText index ++ "] must be a non-empty string"
    let head ← match item with
      | .str value => if strip value = [] then .error (valueError message) else .ok (strip value)
      | _ => .error (valueError message)
    let tail ← stringItems key label (index + 1) items
    return head :: tail

def stringList (document : Fields) (key label : PyStr) (allowEmpty : Bool) : Except PyExc (List PyStr) :=
  let requirement : PyStr := if allowEmpty then "an array" else "a non-empty array"
  match dictGet document key with
  | .arr items =>
    if items = [] ∧ !allowEmpty then .error (valueError (label ++ "." ++ key ++ " must be " ++ requirement))
    else stringItems key label 0 items
  | _ => .error (valueError (label ++ "." ++ key ++ " must be " ++ requirement))

def terminalStatuses : List PyStr :=
  ["PASS", "FAIL", "NOT_EVALUABLE", "BLOCKED", "ERROR", "UNKNOWN"]

def publicSafe : PyStr := "PUBLIC_SAFE"

def publicSeedSchemaVersion : PyStr := "b2-public-seed/v1"

structure PublicSeed where
  familyId : PyStr
  caseId : PyStr
  variant : PyStr
  capabilityProfile : PyStr
  provenance : Fields
  input : Fields
  expected : Fields
  limitations : List Json

/-- `validate_public_seed` under its default label. -/
def validatePublicSeed (document : Json) : Except PyExc PublicSeed := do
  let label : PyStr := "<public-seed>"
  let doc ← obj document label
  let schemaVersion ← text doc "schema_version" label
  check (schemaVersion = publicSeedSchemaVersion) (valueError (label ++ ": unsupported schema_version"))
  let familyId ← text doc "family_id" label
  let caseId ← text doc "case_id" label
  let variant ← text doc "variant" label
  check (variant = py "KNOWN_BAD" ∨ variant = py "CONTROL")
    (valueError (label ++ ".variant must be KNOWN_BAD or CONTROL"))
  let capabilityProfile ← text doc "capability_profile" label
  let privacy ← text doc "privacy" label
  check (privacy = publicSafe) (valueError (label ++ ".privacy must be PUBLIC_SAFE"))
  let provenance ← obj (dictGet doc "provenance") (label ++ ".provenance")
  let kind ← text provenance "kind" (label ++ ".provenance")
  check (kind = py "ABSTRACT_PUBLIC_SEED_DIGEST")
    (valueError (label ++ ".provenance.kind must be ABSTRACT_PUBLIC_SEED_DIGEST"))
  let digest ← text provenance "seed_digest" (label ++ ".provenance")
  check ((py "sha256:").isPrefixOf digest = true ∧ digest.length = 71)
    (valueError (label ++ ".provenance.seed_digest must be sha256:<64hex>"))
  let transformation ← text provenance "transformation" (label ++ ".provenance")
  check (transformation = py "mechanism-preserving synthetic reconstruction")
    (valueError (label ++ ": unsupported transformation"))
  let input ← obj (dictGet doc "input") (label ++ ".input")
  let expected ← obj (dictGet doc "expected") (label ++ ".expected")
  let terminalStatus ← text expected "terminal_status" (label ++ ".expected")
  check (terminalStatus ∈ terminalStatuses) (valueError (label ++ ": unsupported expected terminal status"))
  check ((dictGet expected "hard_invariant_pass").isBool)
    (valueError (label ++ ".expected.hard_invariant_pass must be boolean"))
  check ((dictGet expected "detected").isBool)
    (valueError (label ++ ".expected.detected must be boolean"))
  let _ ← stringList expected "failed_invariants" (label ++ ".expected") true
  let limitations ← match (doc.lookup (py "limitations")).getD (.arr []) with
    | .arr items => .ok items
    | _ => .error (valueError (label ++ ".limitations must be an array"))
  assertPublicSafe document
  return { familyId, caseId, variant, capabilityProfile, provenance, input, expected, limitations }

end EvaluationLab.QA0
