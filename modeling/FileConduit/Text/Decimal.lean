/-!
# Decimal numbers in text

A number is one or more ASCII digits, after one optional sign.  Reading gives nothing for any
other text; a value outside the range of the result is refused as well.
-/

namespace FileConduit.Decimal

def digit (c : Char) : Nat :=
  c.toNat - '0'.toNat

/-- The number that digits denote, most significant first. -/
def ofDigits (digits : List Char) : Nat :=
  digits.foldl (fun number c => 10 * number + digit c) 0

def digits? (text : List Char) : Option Nat :=
  if text ≠ [] ∧ text.all Char.isDigit then some (ofDigits text) else none

/-- Reads digits after an optional plus sign. -/
def natural? : List Char → Option Nat
  | '+' :: text => digits? text
  | text => digits? text

def integer? : List Char → Option Int
  | '-' :: text => (digits? text).map fun number => -(number : Int)
  | text => (natural? text).map fun number => (number : Int)

def word? (text : List Char) : Option UInt64 :=
  match natural? text with
  | some number => if number < UInt64.size then some (UInt64.ofNat number) else none
  | none => none

def signed? (text : List Char) : Option Int :=
  match integer? text with
  | some number =>
      if Int64.minValue.toInt ≤ number ∧ number ≤ Int64.maxValue.toInt then some number else none
  | none => none

end FileConduit.Decimal
