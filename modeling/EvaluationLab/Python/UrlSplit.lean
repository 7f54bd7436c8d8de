import EvaluationLab.Python.Normalization
import EvaluationLab.Effect.Outcome

/-! `urllib.parse.urlsplit`, as far as the scheme and the network location go. -/
namespace EvaluationLab.Python
open Effect

/-- `ipaddress.ip_address` of a host in brackets: it raises unless the host is an IPv6 address. -/
class PyAddresses where
  addressV6 : PyStr → Except PyExc Unit

structure SplitResult where
  scheme : PyStr
  netloc : PyStr
  deriving DecidableEq

/-- `s.partition(sep)`: what stands before the separator and, when there is one, after it. -/
def cut (sep : ℕ) (s : PyStr) : PyStr × Option PyStr :=
  (s.takeWhile (· ≠ sep), if sep ∈ s then some (s.dropWhile (· ≠ sep)).tail else none)

/-- `s.rpartition(sep)`. -/
def cutLast (sep : ℕ) (s : PyStr) : Option PyStr × PyStr :=
  (if sep ∈ s then some (s.reverse.dropWhile (· ≠ sep)).tail.reverse else none,
    (s.reverse.takeWhile (· ≠ sep)).reverse)

namespace SplitResult

/-- `_userinfo`: the name and, after a colon, the password. -/
def username (url : SplitResult) : PyStr := (((cutLast 64 url.netloc).1.map (cut 58)).map Prod.fst).getD []

def password (url : SplitResult) : PyStr := ((cutLast 64 url.netloc).1.bind fun info => (cut 58 info).2).getD []

/-- `_hostinfo`, before the letters are made small. -/
def hostname (url : SplitResult) : PyStr :=
  let hostinfo := (cutLast 64 url.netloc).2
  match (cut 91 hostinfo).2 with
  | some bracketed => (cut 93 bracketed).1
  | none => (cut 58 hostinfo).1

end SplitResult

def isAsciiLetter (c : ℕ) : Bool := 97 ≤ asciiLower c && asciiLower c ≤ 122

/-- `scheme_chars`. -/
def isSchemeChar (c : ℕ) : Bool := isAsciiLetter c || isAsciiDigit c || c ∈ py "+-."

/-- A scheme starts with a letter and ends at the first colon. -/
def splitScheme (url : PyStr) : PyStr × PyStr :=
  match cut 58 url with
  | (c :: scheme, some rest) =>
    if isAsciiLetter c && (c :: scheme).all isSchemeChar then ((c :: scheme).map asciiLower, rest) else ([], url)
  | _ => ([], url)

/-- `\Av[a-fA-F0-9]+\..+\Z`. -/
def futureAddress (host : PyStr) : Bool :=
  let digit := fun c => isAsciiDigit c || (97 ≤ asciiLower c && asciiLower c ≤ 102)
  let version := host.tail.takeWhile digit
  match host.tail.dropWhile digit with
  | 46 :: address => version ≠ [] && address ≠ [] && !address.contains 10
  | _ => false

section Netloc

variable [PyAddresses]

def checkBrackets (netloc : PyStr) : Except PyExc Unit := do
  check (91 ∈ netloc ↔ 93 ∈ netloc) (valueError "Invalid IPv6 URL")
  match (cut 91 netloc).2 with
  | none => return
  | some bracketed =>
    let host := (cut 93 bracketed).1
    if host.head? = some 118 then check (futureAddress host = true) (valueError "IPvFuture address is invalid")
    else PyAddresses.addressV6 host

variable [PyNormalization]

/-- `_checknetloc`: no character may turn into a delimiter under NFKC. -/
def checkNetloc (netloc : PyStr) : Except PyExc Unit :=
  let n := netloc.filter fun c => c ∉ py "@:#?"
  let folded := PyNormalization.nfkc n
  check (netloc.all (· < 128) = true ∨ n = folded ∨ ∀ c ∈ folded, c ∉ py "/?#@:")
    (valueError ("netloc '" ++ netloc ++ "' contains invalid characters under NFKC normalization"))

def urlsplit (url : PyStr) : Except PyExc SplitResult := do
  let clean := (url.dropWhile (· ≤ 32)).filter fun c => c ∉ ([9, 10, 13] : PyStr)
  let (scheme, rest) := splitScheme clean
  match rest with
  | 47 :: 47 :: location => do
    let netloc := location.takeWhile fun c => c ∉ py "/?#"
    checkBrackets netloc
    checkNetloc netloc
    return ⟨scheme, netloc⟩
  | _ => return ⟨scheme, []⟩

theorem urlsplit_nil : urlsplit [] = .ok ⟨[], []⟩ := rfl

end Netloc

end EvaluationLab.Python
