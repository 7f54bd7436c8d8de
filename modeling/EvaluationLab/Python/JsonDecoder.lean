import EvaluationLab.Python.JsonEncoder
import Mathlib.Tactic.Linarith

/-! `json.loads` on a string: the strict grammar with Python's `NaN` and `Infinity`, the
last of several equal keys, an integer length limit and a nesting limit. -/
namespace EvaluationLab.Python

def isJsonSpace (c : ℕ) : Bool := c == 32 || c == 9 || c == 10 || c == 13

def skipSpace (s : PyStr) : PyStr := s.dropWhile isJsonSpace

def hexValue (c : ℕ) : Option ℕ :=
  if 48 ≤ c && c ≤ 57 then some (c - 48)
  else if 97 ≤ c && c ≤ 102 then some (c - 87)
  else if 65 ≤ c && c ≤ 70 then some (c - 55)
  else none

def hex4 (a b c d : ℕ) : Option ℕ := do
  let a ← hexValue a
  let b ← hexValue b
  let c ← hexValue c
  let d ← hexValue d
  return ((a * 16 + b) * 16 + c) * 16 + d

def isHighSurrogate (c : ℕ) : Bool := 0xD800 ≤ c && c ≤ 0xDBFF
def isLowSurrogate (c : ℕ) : Bool := 0xDC00 ≤ c && c ≤ 0xDFFF

/-- The character of a one-letter escape. -/
def simpleEscape (c : ℕ) : Option ℕ :=
  if c = 34 ∨ c = 92 ∨ c = 47 then some c
  else if c = 98 then some 8
  else if c = 102 then some 12
  else if c = 110 then some 10
  else if c = 114 then some 13
  else if c = 116 then some 9
  else none

/-- The rest of a string literal after its opening quote: its text and what follows it. -/
def parseString : PyStr → Except PyExc (PyStr × PyStr)
  | [] => .error jsonDecodeError
  | 34 :: rest => .ok ([], rest)
  | 92 :: 117 :: a :: b :: c :: d :: rest =>
    match hex4 a b c d with
    | none => .error jsonDecodeError
    | some n =>
      match rest with
      | 92 :: 117 :: e :: f :: g :: h :: tail =>
        match hex4 e f g h with
        | none => .error jsonDecodeError
        | some m =>
          if isHighSurrogate n && isLowSurrogate m then
            (parseString tail).map fun r =>
              ((0x10000 + (n - 0xD800) * 1024 + (m - 0xDC00)) :: r.1, r.2)
          else (parseString (92 :: 117 :: e :: f :: g :: h :: tail)).map fun r => (n :: r.1, r.2)
      | rest => (parseString rest).map fun r => (n :: r.1, r.2)
  | 92 :: c :: rest =>
    match simpleEscape c with
    | none => .error jsonDecodeError
    | some n => (parseString rest).map fun r => (n :: r.1, r.2)
  | c :: rest =>
    if c < 32 || c == 92 then .error jsonDecodeError
    else (parseString rest).map fun r => (c :: r.1, r.2)

def digitsValue (ds : PyStr) : ℕ := ds.foldl (fun n d => n * 10 + (d - 48)) 0

/-- The fraction of a number: its digits, when a point is followed by one. -/
def takeFraction : PyStr → PyStr × PyStr
  | 46 :: rest =>
    match rest.takeWhile isAsciiDigit with
    | [] => ([], 46 :: rest)
    | ds => (ds, rest.dropWhile isAsciiDigit)
  | s => ([], s)

/-- The exponent of a number, when its letter is followed by an optional sign and a digit. -/
def takeExponent (s : PyStr) : Option ℤ × PyStr :=
  match s with
  | c :: rest =>
    if c = 101 ∨ c = 69 then
      let signed := match rest with
        | 43 :: t => (false, t)
        | 45 :: t => (true, t)
        | t => (false, t)
      match signed.2.takeWhile isAsciiDigit with
      | [] => (none, s)
      | ds =>
        let n : ℤ := digitsValue ds
        (some (if signed.1 then -n else n), signed.2.dropWhile isAsciiDigit)
    else (none, s)
  | [] => (none, s)

variable [PyRuntime]

/-- A number literal whose sign has been read. -/
def parseNumber (negative : Bool) (s : PyStr) : Except PyExc (Json × PyStr) :=
  let digits := match s with
    | 48 :: _ => [48]
    | s => s.takeWhile isAsciiDigit
  if digits = [] then .error jsonDecodeError
  else
    let (fraction, rest) := takeFraction (s.drop digits.length)
    let (exponent, rest) := takeExponent rest
    let sign : ℤ := if negative then -1 else 1
    if fraction = [] ∧ exponent = none then
      if maxStrDigits < digits.length then .error (intParseError digits.length)
      else .ok (.int (sign * digitsValue digits), rest)
    else
      let mantissa := digitsValue (digits ++ fraction)
      if negative ∧ mantissa = 0 then .ok (.float .negativeZero, rest)
      else
        let q : ℚ := sign * mantissa * (10 : ℚ) ^ (exponent.getD 0 - fraction.length)
        .ok (.float (PyRuntime.roundFloat q), rest)

mutual

def parseValue (depth : ℕ) : (fuel : ℕ) → PyStr → Except PyExc (Json × PyStr)
  | 0, _ => .error jsonDecodeError
  | _, [] => .error jsonDecodeError
  | fuel + 1, c :: s =>
    if c = 34 then (parseString s).map fun r => (.str r.1, r.2)
    else if c = 123 then
      match depth with
      | 0 => .error (recursionError "decoding a JSON object from a unicode string")
      | depth + 1 =>
        match skipSpace s with
        | 125 :: rest => .ok (.obj [], rest)
        | s => parseMembers depth fuel [] s
    else if c = 91 then
      match depth with
      | 0 => .error (recursionError "decoding a JSON array from a unicode string")
      | depth + 1 =>
        match skipSpace s with
        | 93 :: rest => .ok (.arr [], rest)
        | s => parseItems depth fuel [] s
    else if (py "null").isPrefixOf (c :: s) then .ok (.null, s.drop 3)
    else if (py "true").isPrefixOf (c :: s) then .ok (.bool true, s.drop 3)
    else if (py "false").isPrefixOf (c :: s) then .ok (.bool false, s.drop 4)
    else if (py "NaN").isPrefixOf (c :: s) then .ok (.float .nan, s.drop 2)
    else if (py "Infinity").isPrefixOf (c :: s) then .ok (.float (.infinity false), s.drop 7)
    else if (py "-Infinity").isPrefixOf (c :: s) then .ok (.float (.infinity true), s.drop 8)
    else if c = 45 then parseNumber true s
    else parseNumber false (c :: s)

/-- Members of an object, up to and including its closing brace. -/
def parseMembers (depth : ℕ) : (fuel : ℕ) → List (PyStr × Json) → PyStr → Except PyExc (Json × PyStr)
  | 0, _, _ => .error jsonDecodeError
  | fuel + 1, fields, 34 :: s => do
    let (key, s) ← parseString s
    match skipSpace s with
    | 58 :: s =>
      let (value, s) ← parseValue depth fuel (skipSpace s)
      match skipSpace s with
      | 125 :: rest => return (.obj (dictSet fields key value), rest)
      | 44 :: s => parseMembers depth fuel (dictSet fields key value) (skipSpace s)
      | _ => throw jsonDecodeError
    | _ => throw jsonDecodeError
  | _, _, _ => .error jsonDecodeError

/-- Items of an array, up to and including its closing bracket. -/
def parseItems (depth : ℕ) : (fuel : ℕ) → List Json → PyStr → Except PyExc (Json × PyStr)
  | 0, _, _ => .error jsonDecodeError
  | fuel + 1, items, s => do
    let (value, s) ← parseValue depth fuel s
    match skipSpace s with
    | 93 :: rest => return (.arr (items ++ [value]), rest)
    | 44 :: s => parseItems depth fuel (items ++ [value]) (skipSpace s)
    | _ => throw jsonDecodeError

end

/-- Every call reads a character or follows one that did, so the fuel covers the text. -/
def loads (s : PyStr) : Except PyExc Json :=
  if s.head? = some 0xFEFF then .error jsonDecodeError
  else do
    let (value, rest) ← parseValue PyRuntime.recursionLimit (2 * s.length + 2) (skipSpace s)
    if skipSpace rest = [] then return value else throw jsonDecodeError

end EvaluationLab.Python
