import EvaluationLab.BM0.Lineage
import EvaluationLab.QA0.PublicSafe

/-! The checks a benchmark document makes on its fields, and the values its fields range over. -/
namespace EvaluationLab.BM0
open Python Effect QA0

def isAlphanumeric (c : ℕ) : Bool := isAsciiDigit c || (65 ≤ c && c ≤ 90) || (97 ≤ c && c ≤ 122)

/-- A full match of `_IDENTIFIER_RE`. -/
def isIdentifier : PyStr → Bool
  | [] => false
  | c :: s => isAlphanumeric c && decide (s.length ≤ 191) &&
      s.all fun d => isAlphanumeric d || (py "._:@+-/").contains d

/-- A full match of `_SHA256_RE`. -/
def isSha256 (s : PyStr) : Bool :=
  (py "sha256:").isPrefixOf s && (s.drop 7).length == 64 &&
    (s.drop 7).all fun c => isAsciiDigit c || (97 ≤ c && c ≤ 102)

theorem isSha256_digestText [PyRuntime] (bytes : List UInt8) : isSha256 (digestText bytes) = true := by
  have hstart : py "sha256:" = [115, 104, 97, 50, 53, 54, 58] := by decide +kernel
  have hhex : ∀ n < 16, (isAsciiDigit (hexDigit n) || (97 ≤ hexDigit n && hexDigit n ≤ 102)) = true := by decide
  unfold isSha256 digestText
  rw [hstart]
  simp only [List.cons_append, List.nil_append, List.drop_succ_cons, List.drop_zero, Bool.and_eq_true,
    List.all_eq_true]
  refine ⟨⟨by simp [List.isPrefixOf], by simp [hexDigest]⟩, ?_⟩
  intro c hc
  obtain ⟨i, -, rfl⟩ := List.mem_map.mp hc
  exact hhex _ (Nat.mod_lt _ (by decide))

/-- A full match of `_GIT_SHA_RE`. -/
def isGitSha (s : PyStr) : Bool :=
  s.length == 40 && s.all fun c => isAsciiDigit c || (97 ≤ c && c ≤ 102)

/-- `_text`. -/
def checkText (label key value : PyStr) : Except PyExc Unit := do
  check (strip value ≠ []) (valueError (label ++ py "." ++ key ++ py " must be a non-empty string"))
  check (value = strip value) (valueError (label ++ py "." ++ key ++ py " must not contain edge whitespace"))

/-- `_identifier`. -/
def checkIdentifier (label key value : PyStr) : Except PyExc Unit := do
  checkText label key value
  check (isIdentifier value = true)
    (valueError (label ++ py "." ++ key ++ py " must be an opaque bounded identifier"))

/-- `_identifier` for each key in turn. -/
def checkIdentifiers (label : PyStr) (fields : List (PyStr × PyStr)) : Except PyExc Unit :=
  fields.forM fun f => checkIdentifier label f.1 f.2

/-- `_require_sha256`. -/
def requireSha256 (value label : PyStr) : Except PyExc Unit :=
  check (isSha256 value = true) (valueError (label ++ py " must be sha256:<64hex>"))

/-- `_integer`. -/
def checkInteger (label key : PyStr) (value minimum : ℤ) : Except PyExc Unit :=
  check (minimum ≤ value) (valueError (label ++ py "." ++ key ++ py " must be an integer >= " ++ intText minimum))

/-- A number of a document: an `int` or a `float`. -/
inductive Number where
  | int (value : ℤ)
  | float (value : PyFloat)
  deriving DecidableEq

def Number.toJson : Number → Json
  | int n => .int n
  | float x => .float x

def overflowError : PyExc :=
  ⟨"OverflowError", ["OverflowError", "ArithmeticError", "Exception"], "int too large to convert to float"⟩

/-- `mapping[key]` for an absent key. -/
def keyError (key : PyStr) : PyExc := ⟨"KeyError", ["KeyError", "LookupError", "Exception"], key⟩

/-- The value of a finite number. -/
def Number.value? : Number → Option ℚ
  | int n => some n
  | float (.finite q) => some q
  | float .negativeZero => some 0
  | float _ => none

/-- `_number` with a minimum of zero. An integer past the range of `float` cannot be converted. -/
def checkNumber (label key : PyStr) (x : Number) : Except PyExc ℚ := do
  match x with
  | .int n => check (n.natAbs < 2 ^ 1024 - 2 ^ 970) overflowError
  | .float _ => pure ()
  match x.value? with
  | some q =>
    check (0 ≤ q) (valueError (label ++ py "." ++ key ++ py " must be a finite number >= 0.0"))
    return q
  | none => throw (valueError (label ++ py "." ++ key ++ py " must be a finite number >= 0.0"))

/-- `==` of two optional numbers: an `int` and a `float` of one value are equal. -/
def sameNumber (x y : Option Number) : Prop := x.map Number.value? = y.map Number.value?

instance (x y : Option Number) : Decidable (sameNumber x y) := inferInstanceAs (Decidable (_ = _))

def optionalText : Option PyStr → Json
  | none => .null
  | some s => .str s

def optionalInteger : Option ℤ → Json
  | none => .null
  | some n => .int n

/-- A document with its fingerprint. -/
def sealDocument (fields : List (PyStr × Json)) (key fingerprint : PyStr) : Json :=
  .obj (fields ++ [(key, .str fingerprint)])

inductive Applicability where
  | applicable | notApplicable
  deriving DecidableEq

def Applicability.text : Applicability → PyStr
  | applicable => "APPLICABLE"
  | notApplicable => "NOT_APPLICABLE"

inductive Pool where
  | publicRegression | mechanismPreservingMutation | control | privateHiddenHoldout
  deriving DecidableEq

def Pool.text : Pool → PyStr
  | publicRegression => "PUBLIC_REGRESSION"
  | mechanismPreservingMutation => "MECHANISM_PRESERVING_MUTATION"
  | control => "CONTROL"
  | privateHiddenHoldout => "PRIVATE_HIDDEN_HOLDOUT"

inductive Contamination where
  | assessedClear | knownExposed | unknown
  deriving DecidableEq

def Contamination.text : Contamination → PyStr
  | assessedClear => "ASSESSED_CLEAR"
  | knownExposed => "KNOWN_EXPOSED"
  | unknown => "UNKNOWN"

inductive Exposure where
  | publiclyDisclosedRegression | publiclyDisclosedMutation | publiclyDisclosedControl
  | privateUnexposedBeforeManifestFreeze
  deriving DecidableEq

def Exposure.text : Exposure → PyStr
  | publiclyDisclosedRegression => "PUBLICLY_DISCLOSED_REGRESSION"
  | publiclyDisclosedMutation => "PUBLICLY_DISCLOSED_MUTATION"
  | publiclyDisclosedControl => "PUBLICLY_DISCLOSED_CONTROL"
  | privateUnexposedBeforeManifestFreeze => "PRIVATE_UNEXPOSED_BEFORE_MANIFEST_FREEZE"

/-- `POOL_EXPOSURE_STATUS`. -/
def Pool.exposureStatus : Pool → Exposure
  | publicRegression => .publiclyDisclosedRegression
  | mechanismPreservingMutation => .publiclyDisclosedMutation
  | control => .publiclyDisclosedControl
  | privateHiddenHoldout => .privateUnexposedBeforeManifestFreeze

inductive IdentityCertainty where
  | exact | aliasOnly | unknown | systemScope
  deriving DecidableEq

def IdentityCertainty.text : IdentityCertainty → PyStr
  | exact => "EXACT"
  | aliasOnly => "ALIAS_ONLY"
  | unknown => "UNKNOWN"
  | systemScope => "SYSTEM_SCOPE"

inductive AliasLimitation where
  | none | movingAliasResolutionRequired | unverifiableAliasDisclosed | notApplicableSystemScope
  deriving DecidableEq

def AliasLimitation.text : AliasLimitation → PyStr
  | none => "NONE"
  | movingAliasResolutionRequired => "MOVING_ALIAS_RESOLUTION_REQUIRED"
  | unverifiableAliasDisclosed => "UNVERIFIABLE_ALIAS_DISCLOSED"
  | notApplicableSystemScope => "NOT_APPLICABLE_SYSTEM_SCOPE"

def workOrderId : PyStr := "WO-B2-BM0"
def workOrderRevision : PyStr := "v0.2"
def implementationBaseSha : PyStr := "901ba05b99c413d45415c474c71b5969c155dea1"
def systemScopeId : PyStr := "SYSTEM_SCOPE"
def hiddenHoldoutDeclarationId : PyStr := "BM0-PRIVATE-HOLDOUT-NOT-IN-PUBLIC-REPO-001"

/-- `TARGET_IDS_BY_CLASS`, read off the lineage. -/
def targetIdsByClass (c : TargetClass) : List PyStr :=
  (canonicalFamilyLineage.filter fun row => row.targetClass = c).map Lineage.targetId

variable [PyRuntime]

/-- `_verify_fingerprint`, given the document without the fingerprint. -/
def verifyFingerprint (claimed : PyStr) (content : Json) (field label : PyStr) : Except PyExc Unit := do
  requireSha256 claimed (label ++ py "." ++ field)
  let computed ← sha256Json content
  check (claimed = computed) (valueError (label ++ py "." ++ field ++ py " does not match canonical content"))

end EvaluationLab.BM0
