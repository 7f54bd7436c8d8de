import EvaluationLab.Python.AsciiRuntime
import EvaluationLab.Python.Substitution
import EvaluationLab.Python.Utf8
import EvaluationLab.QA0.PublicSafe

/-! The filters between a provider and a public-safe receipt: redacted exception texts and
token-like metadata. -/
namespace EvaluationLab.BlindEval
open Python

def protocolVersion : PyStr := "b2-blind-eval-bridge/v3"
def inputEnvelopeVersion : PyStr := "b2-blind-input-envelope/v1"
def openaiCompatibleProtocol : PyStr := "openai-compatible-chat-completions/v1"
def automaticRetries : ℕ := 0
def thinkingModes : List PyStr := ["enabled", "disabled"]
def reasoningEfforts : List PyStr := ["low", "high", "max"]

/-- The kinds of provider metadata a receipt keeps. -/
inductive MetadataKind where
  | model | responseId | finishReason
  deriving DecidableEq, Repr

def isAsciiAlnum (c : ℕ) : Bool := isAsciiDigit c || (65 ≤ c && c ≤ 90) || (97 ≤ c && c ≤ 122)

/-- The characters after the first of a token: `[A-Za-z0-9._:\-]`, for a model also `/` and `+`. -/
def MetadataKind.follows (kind : MetadataKind) (c : ℕ) : Bool :=
  isAsciiAlnum c || c == 46 || c == 95 || c == 58 || c == 45 || (kind == model && (c == 47 || c == 43))

/-- How many characters may follow the first. -/
def MetadataKind.limit : MetadataKind → ℕ
  | model => 127
  | responseId => 127
  | finishReason => 63

/-- `pattern.fullmatch(candidate)` for the pattern of a kind. -/
def MetadataKind.matches (kind : MetadataKind) : PyStr → Bool
  | [] => false
  | c :: s => isAsciiAlnum c && s.length ≤ kind.limit && s.all kind.follows

/-- `_safe_provider_metadata`. -/
def safeProviderMetadata (value : Json) (kind : MetadataKind) : Option PyStr :=
  match value with
  | .str s =>
    let candidate := strip s
    if candidate = [] ∨ contains "://" candidate = true then none
    else if kind.matches candidate then some candidate
    else none
  | _ => none

/-- A letter of a pattern that ignores case: `i` has two more forms beyond ASCII. -/
def foldsTo (letter c : ℕ) : Bool :=
  c == letter || c + 32 == letter || (letter == 105 && (c == 0x130 || c == 0x131))

/-- What follows a lower-case text, matched whatever its case. -/
def dropFolded : PyStr → PyStr → Option PyStr
  | [], s => some s
  | _ :: _, [] => none
  | l :: pattern, c :: s => if foldsTo l c then dropFolded pattern s else none

/-- What follows a match of `(?i)authorization\s*:\s*bearer\s+[^\s,;]+`. Each part is read to its
end, as the next part never begins with what it takes. -/
def afterAuthorization (s : PyStr) : Option PyStr := do
  let rest ← dropFolded "authorization" s
  match rest.dropWhile isSpace with
  | 58 :: rest =>
    let rest ← dropFolded "bearer" (rest.dropWhile isSpace)
    let token := rest.dropWhile isSpace
    if token.length = rest.length then none
    else
      let after := token.dropWhile fun c => !isSpace c && c != 44 && c != 59
      if after.length = token.length then none else some after
  | _ => none

def authorizationMatcher : Matcher := fun _ s =>
  match afterAuthorization s with
  | some after => s.length - after.length
  | none => 0

section Redaction

variable [PyRuntime]

/-- `\b` between two characters. -/
def wordBoundary (before after : Option ℕ) : Bool := before.any PyRuntime.isWord != after.any PyRuntime.isWord

/-- `\bsk-[A-Za-z0-9_-]{8,}\b`: the longest run of at least eight characters that ends at a word
boundary. -/
def secretKeyMatcher : Matcher := fun before s =>
  if wordBoundary before s.head? && (py "sk-").isPrefixOf s then
    let rest := s.drop 3
    let run := rest.takeWhile fun c => isAsciiWord c || c == 45
    match (List.range (run.length + 1)).reverse.find? fun n =>
        8 ≤ n && wordBoundary rest[n - 1]? rest[n]? with
    | some n => n + 3
    | none => 0
  else 0

/-- `text[:500]`, with an ellipsis for what is cut off. -/
def truncate (text : PyStr) : PyStr := if 500 < text.length then text.take 500 ++ [0x2026] else text

def secretRedacted : PyStr := "[SECRET_REDACTED]"

/-- The text after every known secret has been replaced. -/
def redactSecrets (text : PyStr) (secrets : List PyStr) : PyStr :=
  secrets.foldl (fun text secret => if secret = [] then text else replace text secret secretRedacted) text

/-- `_safe_error_message` of an exception with the given text. -/
def safeErrorMessage (text : PyStr) (secrets : List PyStr) : PyStr :=
  let text := redactSecrets text secrets
  let text := substitute authorizationMatcher "Authorization: Bearer [SECRET_REDACTED]" text
  let text := substitute secretKeyMatcher secretRedacted text
  truncate text

def sha256Bytes (value : List UInt8) : PyStr := QA0.digestText value

end Redaction

section Examples
open Python.Ascii

example : safeErrorMessage "proxy said authorization:bearer hunter2, sk-0123456789- and k3y" ["k3y"] =
    py "proxy said Authorization: Bearer [SECRET_REDACTED], [SECRET_REDACTED]- and [SECRET_REDACTED]" := by
  decide +kernel

end Examples

end EvaluationLab.BlindEval
