import FileConduit.Toml.Quoted
import FileConduit.Toml.Value

/-!
# Numbers and points in time

Integers are written in decimal with an optional sign, or in hexadecimal, octal or binary
behind a sign-less mark; single underscores may stand between digits.  They must fit 64 bits
with a sign.  A float is refused when it is too large to be finite and positive.  Like all of the
TOML reader this is outer layer: no theorem speaks of it.
-/

namespace FileConduit.Toml

open Reader

/-- Digits that follow a digit, underscores between them dropped. -/
def moreDigits (test : Char → Bool) : List Char → List Char × List Char
  | [] => ([], [])
  | '_' :: c :: text =>
      if test c then
        let (digits, text) := moreDigits test text
        (c :: digits, text)
      else ([], '_' :: c :: text)
  | c :: text =>
      if test c then
        let (digits, text) := moreDigits test text
        (c :: digits, text)
      else ([], c :: text)

def digits (test : Char → Bool) : Reader (List Char)
  | c :: text =>
      if test c then
        let (rest, text) := moreDigits test text
        some (c :: rest, text)
      else none
  | [] => none

/-- Takes the digits of a decimal number; a zero at the front stands alone. -/
def decimalDigits : Reader (List Char)
  | '0' :: text => some (['0'], text)
  | text => digits Char.isDigit text

def sign : List Char → Bool × List Char
  | '-' :: text => (true, text)
  | '+' :: text => (false, text)
  | text => (false, text)

def ofDigits (base : Nat) (digits : List Char) : Nat :=
  digits.foldl (fun number c => base * number + (hexValue? c).getD 0) 0

def isHexDigit (c : Char) : Bool :=
  (hexValue? c).isSome

def isOctalDigit (c : Char) : Bool :=
  '0' ≤ c && c ≤ '7'

def isBinaryDigit (c : Char) : Bool :=
  c == '0' || c == '1'

/-- Keeps a number that fits 64 bits with a sign. -/
def bounded (number : Int) (text : List Char) : Option (Value × List Char) :=
  if Int64.minValue.toInt ≤ number ∧ number ≤ Int64.maxValue.toInt then
    some (.integer number, text)
  else none

def integer : Reader Value
  | '0' :: 'x' :: text => do
      let (found, text) ← digits isHexDigit text
      bounded (ofDigits 16 found) text
  | '0' :: 'o' :: text => do
      let (found, text) ← digits isOctalDigit text
      bounded (ofDigits 8 found) text
  | '0' :: 'b' :: text => do
      let (found, text) ← digits isBinaryDigit text
      bounded (ofDigits 2 found) text
  | text => do
      let (negative, text) := sign text
      let (found, text) ← decimalDigits text
      let number : Int := ofDigits 10 found
      bounded (if negative then -number else number) text

/-- Whether `mantissa * 10 ^ exponent` rounds to a number beyond the finite floats.  The first
such number lies half a unit above the largest float. -/
def overflows (mantissa : Nat) (exponent : Int) : Bool :=
  let limit := Nat.pow 2 1024 - Nat.pow 2 970
  let size : Int := (Nat.toDigits 10 mantissa).length + exponent
  if mantissa = 0 ∨ size < 300 then false
  else if 320 < size then true
  else if 0 ≤ exponent then limit ≤ mantissa * Nat.pow 10 exponent.toNat
  else limit * Nat.pow 10 (-exponent).toNat ≤ mantissa

def floatExponent : Reader Int
  | c :: text =>
      if c == 'e' || c == 'E' then do
        let (negative, text) := sign text
        let (found, text) ← digits Char.isDigit text
        let number : Int := ofDigits 10 found
        some (if negative then -number else number, text)
      else none
  | [] => none

def finiteFloat : Reader Value := fun text => do
  let (negative, text) := sign text
  let (whole, text) ← decimalDigits text
  let (fraction, exponent, text) ←
    match text with
    | '.' :: text => do
        let (fraction, text) ← digits Char.isDigit text
        match floatExponent text with
        | some (exponent, text) => some (fraction, exponent, text)
        | none => some (fraction, 0, text)
    | text => (floatExponent text).map fun (exponent, text) => ([], exponent, text)
  let mantissa := ofDigits 10 (whole ++ fraction)
  if !negative && overflows mantissa (exponent - fraction.length) then none
  else some (.float, text)

def specialFloat : Reader Value := fun text => do
  let (_, text) := sign text
  let (_, text) ← orElse (literal "inf".toList) (literal "nan".toList) text
  some (.float, text)

def fixedDigits (count low high : Nat) : Reader Nat := fun text =>
  let found := text.take count
  if found.length = count ∧ found.all Char.isDigit then
    let number := ofDigits 10 found
    if low ≤ number ∧ number ≤ high then some (number, text.drop count) else none
  else none

def daysInMonth (year month : Nat) : Nat :=
  if month = 2 then
    if year % 4 = 0 ∧ (year % 100 ≠ 0 ∨ year % 400 = 0) then 29 else 28
  else if month ∈ [4, 6, 9, 11] then 30
  else 31

def date : Reader Unit := fun text => do
  let (year, text) ← fixedDigits 4 0 9999 text
  let (_, text) ← literal ['-'] text
  let (month, text) ← fixedDigits 2 1 12 text
  let (_, text) ← literal ['-'] text
  let (_, text) ← fixedDigits 2 1 (daysInMonth year month) text
  some ((), text)

def timeOfDay : Reader Unit := fun text => do
  let (_, text) ← fixedDigits 2 0 23 text
  let (_, text) ← literal [':'] text
  let (_, text) ← fixedDigits 2 0 59 text
  let (_, text) ← literal [':'] text
  let (_, text) ← fixedDigits 2 0 60 text
  match text with
  | '.' :: c :: rest =>
      if c.isDigit then some ((), rest.dropWhile Char.isDigit) else some ((), text)
  | _ => some ((), text)

def offset : Reader Unit := fun text => do
  let (mark, text) ← char (fun c => c == 'Z' || c == 'z' || c == '+' || c == '-') text
  if mark == 'Z' || mark == 'z' then some ((), text)
  else do
    let (_, text) ← fixedDigits 2 0 23 text
    let (_, text) ← literal [':'] text
    let (_, text) ← fixedDigits 2 0 59 text
    some ((), text)

def moment : Reader Value := fun text =>
  match date text with
  | none => (timeOfDay text).map fun (_, text) => (.moment, text)
  | some (_, rest) =>
      let isMark (c : Char) := c == 'T' || c == 't' || c == ' '
      match (do let (_, later) ← char isMark rest; timeOfDay later) with
      | none => some (.moment, rest)
      | some (_, later) =>
          match offset later with
          | some (_, last) => some (.moment, last)
          | none => some (.moment, later)

def number : Reader Value :=
  orElse moment (orElse finiteFloat (orElse specialFloat integer))

end FileConduit.Toml
