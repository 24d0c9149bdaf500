import IssueQuery.Json
import IssueQuery.Number.Reading

namespace IssueQuery.Json

def skipSpace (t : Text) : Text := t.dropWhile fun c => c == ' ' || c == '\t' || c == '\n' || c == '\r'

private def hexDigit? (c : Char) : Option Nat :=
  let n := c.toLower.toNat
  if c.isDigit then some (n - '0'.toNat)
  else if 'a'.toNat ≤ n && n ≤ 'f'.toNat then some (n - 'a'.toNat + 10)
  else none

private def hexValue? (ds : List Char) : Option Nat :=
  ds.foldlM (fun n c => (hexDigit? c).map (16 * n + ·)) 0

/-- The character a letter after a backslash stands for. -/
private def unescape? : Char → Option Char
  | '"' => some '"'
  | '\\' => some '\\'
  | '/' => some '/'
  | 'b' => some '\x08'
  | 'f' => some '\x0c'
  | 'n' => some '\n'
  | 'r' => some '\r'
  | 't' => some '\t'
  | _ => none

/-- Adds an escaped unit of 16 bits. The first half of a pair waits for its second half. -/
private def joinUnit? (high : Option Nat) (u : Nat) : Option (Option Nat × Text) :=
  match high with
  | some h =>
    if 0xDC00 ≤ u ∧ u < 0xE000 then
      some (none, [Char.ofNat (0x10000 + (h - 0xD800) * 0x400 + (u - 0xDC00))])
    else none
  | none =>
    if 0xD800 ≤ u ∧ u < 0xDC00 then some (some u, [])
    else if 0xDC00 ≤ u ∧ u < 0xE000 then none
    else some (none, [Char.ofNat u])

/-- Reads the rest of a string whose opening quote has been read. -/
def readString (high : Option Nat) : Text → Option (Text × Text)
  | [] => none
  | '\\' :: 'u' :: a :: b :: c :: d :: t => do
    let (high, decoded) ← joinUnit? high (← hexValue? [a, b, c, d])
    let (s, rest) ← readString high t
    return (decoded ++ s, rest)
  | '\\' :: c :: t => do
    if high.isSome then none
    let decoded ← unescape? c
    let (s, rest) ← readString none t
    return (decoded :: s, rest)
  | c :: t => do
    if high.isSome || c.toNat < 0x20 || c == '\\' then none
    if c = '"' then return ([], t)
    let (s, rest) ← readString none t
    return (c :: s, rest)

/-- Appends digits to a significand for as long as it stays within 64 bits, and gives the digits that
are left. -/
def absorbDigits (significand : Nat) : Text → Nat × Text
  | [] => (significand, [])
  | c :: t =>
    let next := 10 * significand + (c.toNat - '0'.toNat)
    if next < 1 <<< 64 then absorbDigits next t else (significand, c :: t)

private def powerOfTen (n : Nat) : Binary64 := .nearest false (tenTo n) 1

/-- Scales a number by a power of ten that is itself rounded, in two steps if it is very small. -/
def scaleByTen? (x : Binary64) (power : Int) : Option Binary64 :=
  if x.mantissa = 0 then some x
  else if 308 < power then none
  else if 0 ≤ power then (x.mul (powerOfTen power.toNat)).finite?
  else if -308 ≤ power then some (x.div (powerOfTen power.natAbs))
  else if -616 ≤ power then some ((x.div (powerOfTen 308)).div (powerOfTen (power + 308).natAbs))
  else some (.zero x.negative)

/-- A number with a fraction or an exponent, or beyond the integers of 64 bits. The digits that fit 64
bits are rounded first and then scaled. -/
def readFloat? (negative : Bool) (whole fraction : Text) (power : Int) : Option Binary64 :=
  let (significand, wholeLeft) := absorbDigits 0 whole
  let (significand, fractionLeft) := absorbDigits significand fraction
  let fractionTaken : Int := fraction.length - fractionLeft.length
  scaleByTen? (.nearest negative significand 1) (power + wholeLeft.length - fractionTaken)

/-- Reads a number. A negative zero is not an integer. -/
def readNumber (t : Text) : Option (Json × Text) := do
  let (negative, t) := match t with
    | '-' :: t => (true, t)
    | t => (false, t)
  let whole := t.takeWhile Char.isDigit
  let t := t.dropWhile Char.isDigit
  if whole = [] ∨ (whole.head? = some '0' ∧ whole ≠ ['0']) then none
  let (point, fraction, t) := match t with
    | '.' :: t => (true, t.takeWhile Char.isDigit, t.dropWhile Char.isDigit)
    | t => (false, [], t)
  if point ∧ fraction = [] then none
  let (exponent, t) := match t with
    | c :: r =>
      if c.toLower = 'e' then
        let (sign, ds) := match r with
          | '-' :: ds => (['-'], ds)
          | '+' :: ds => (['+'], ds)
          | ds => ([], ds)
        (c :: sign ++ ds.takeWhile Char.isDigit, ds.dropWhile Char.isDigit)
      else ([], c :: r)
    | [] => ([], [])
  let power ← readPower? exponent
  let n : Int := Text.digitsValue whole
  let n := if negative then -n else n
  if !point && exponent.isEmpty && (isInt64 n || !negative && n < (1 <<< 64 : Nat)) && !(negative && n == 0) then
    return (.int n, t)
  else return (.float (← readFloat? negative whole fraction power), t)

mutual

/-- Reads one value. Every call uses up one unit of `fuel`. -/
def readValue : Nat → Text → Option (Json × Text)
  | 0, _ => none
  | fuel + 1, t =>
    match skipSpace t with
    | '"' :: t => (readString none t).map fun (s, t) => (.string s, t)
    | 'n' :: 'u' :: 'l' :: 'l' :: t => some (.null, t)
    | 't' :: 'r' :: 'u' :: 'e' :: t => some (.bool true, t)
    | 'f' :: 'a' :: 'l' :: 's' :: 'e' :: t => some (.bool false, t)
    | '[' :: t =>
      match skipSpace t with
      | ']' :: t => some (.array [], t)
      | t => (readItems fuel t).map fun (js, t) => (.array js, t)
    | '{' :: t =>
      match skipSpace t with
      | '}' :: t => some (.object [], t)
      | t => (readMembers fuel t).map fun (ms, t) => (.object ms, t)
    | t => readNumber t

def readItems : Nat → Text → Option (List Json × Text)
  | 0, _ => none
  | fuel + 1, t => do
    let (j, t) ← readValue fuel t
    match skipSpace t with
    | ',' :: t => (readItems fuel t).map fun (js, t) => (j :: js, t)
    | ']' :: t => some ([j], t)
    | _ => none

def readMembers : Nat → Text → Option (List (Text × Json) × Text)
  | 0, _ => none
  | fuel + 1, t =>
    match skipSpace t with
    | '"' :: t => do
      let (key, t) ← readString none t
      match skipSpace t with
      | ':' :: t => do
        let (j, t) ← readValue fuel t
        match skipSpace t with
        | ',' :: t => (readMembers fuel t).map fun (ms, t) => ((key, j) :: ms, t)
        | '}' :: t => some ([(key, j)], t)
        | _ => none
      | _ => none
    | _ => none

end

/-- Reads a JSON text. No character of it calls for more than two calls of the readers. -/
def ofText? (t : Text) : Option Json := do
  let (j, rest) ← readValue (2 * t.length + 2) t
  if skipSpace rest = [] then some j else none

end IssueQuery.Json
