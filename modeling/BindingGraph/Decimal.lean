/-!
# Decimal numbers

Digits with their values, and the range of double precision, decided exactly.
-/

namespace BindingGraph.Decimal

def isDigit (c : Char) : Bool := '0' ≤ c && c ≤ '9'

def digitsValue (digits : List Char) : Nat :=
  digits.foldl (fun n c => 10 * n + (c.toNat - 48)) 0

/-- The first number that is rounded beyond the largest of double precision: half a
unit above it. -/
def doubleBound : Nat := Nat.pow 2 1024 - Nat.pow 2 970

/-- Whether `mantissa * 10 ^ power` rounds to a number of double precision. The count
of digits decides all but a few sizes. -/
def fitsDouble (mantissa : Nat) (power : Int) : Bool :=
  let size := (Nat.toDigits 10 mantissa).length + power
  if mantissa = 0 || size < 300 then true
  else if size > 320 then false
  else if power ≥ 0 then mantissa * Nat.pow 10 power.toNat < doubleBound
  else mantissa < doubleBound * Nat.pow 10 (-power).toNat

end BindingGraph.Decimal
