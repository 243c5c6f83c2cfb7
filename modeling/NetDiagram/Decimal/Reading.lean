/-!
# Reading decimals

The number of double precision nearest to a decimal. Exponents of any size are allowed: a decimal
too large for the format reads as infinity, and one too small as zero.
-/

namespace NetDiagram.Decimal

def digitsValue (digits : List Char) : Nat :=
  digits.foldl (fun n c => n * 10 + (c.toNat - '0'.toNat)) 0

/-- The number nearest to `digits * 10 ^ exponent`, with a sign. -/
def nearestDouble (isNegative : Bool) (digits : Nat) (exponent : Int) : Float :=
  let size : Int := (Nat.toDigits 10 digits).length + exponent
  let magnitude : Float :=
    if digits = 0 || size < -400 then 0
    else if 400 < size then 1 / 0
    else Float.ofScientific digits (exponent < 0) exponent.natAbs
  if isNegative then -magnitude else magnitude

end NetDiagram.Decimal
