/-!
Decimal notation of natural numbers that were rounded to double precision: positional, with an
exponent, or whichever of the two is shorter. Rounding goes to the nearest value, a half to the even
one.
-/

namespace RenderAudit.Text.Decimal

/-- A quotient rounded to the nearest natural number. -/
def roundDiv (number divisor : Nat) : Nat :=
  let quotient := number / divisor
  let twice := 2 * (number % divisor)
  if twice < divisor then quotient
  else if divisor < twice then quotient + 1
  else quotient + quotient % 2

/-- The nearest number with 53 significant bits, unless it is too large for double precision. -/
def nearestDouble? (number : Nat) : Option Nat :=
  let unit := Nat.pow 2 ((Nat.log2 number + 1) - 53)
  let rounded := roundDiv number unit * unit
  if rounded < Nat.pow 2 1024 then some rounded else none

def digits (number : Nat) : List Char :=
  Nat.toDigits 10 number

/-- The first `count` digits of a number, rounded, and the exponent of the first of them. -/
def significant (count number : Nat) : List Char × Nat :=
  let length := (digits number).length
  if number = 0 then (List.replicate count '0', 0)
  else if length ≤ count then (digits (number * Nat.pow 10 (count - length)), length - 1)
  else
    let rounded := roundDiv number (Nat.pow 10 (length - count))
    if rounded = Nat.pow 10 count then (digits (Nat.pow 10 (count - 1)), length)
    else (digits rounded, length - 1)

/-- Puts a point in front of decimals; without decimals there is a point only if one is asked for. -/
def withPoint (point : Bool) (decimals : List Char) : List Char :=
  if decimals.isEmpty && !point then [] else '.' :: decimals

def positional (point : Bool) (precision number : Nat) : List Char :=
  digits number ++ withPoint point (List.replicate precision '0')

/-- An exponent has a sign and at least two digits. -/
def exponentMark (mark : Char) (exponent : Nat) : List Char :=
  let shown := digits exponent
  mark :: '+' :: (List.replicate (2 - shown.length) '0' ++ shown)

def scientific (mark : Char) (point : Bool) (precision number : Nat) : List Char :=
  let (shown, exponent) := significant (precision + 1) number
  shown.take 1 ++ withPoint point (shown.drop 1) ++ exponentMark mark exponent

/-- Without the zeros at the end. -/
def stripZeros (decimals : List Char) : List Char :=
  (decimals.reverse.dropWhile (· == '0')).reverse

/-- Positional notation where `precision` digits suffice, otherwise an exponent. Zeros at the end are
kept only together with the point. -/
def general (mark : Char) (point : Bool) (precision number : Nat) : List Char :=
  let count := max 1 precision
  let (shown, exponent) := significant count number
  let keep (decimals : List Char) : List Char := if point then decimals else stripZeros decimals
  if exponent < count then
    shown.take (exponent + 1) ++ withPoint point (keep (shown.drop (exponent + 1)))
  else shown.take 1 ++ withPoint point (keep (shown.drop 1)) ++ exponentMark mark exponent

end RenderAudit.Text.Decimal
