/-!
# Shortest decimals

A binary floating-point number stands for an interval of real numbers, those that round to it. Its
shortest decimal is the one with the fewest digits in that interval, and of several with equally
few digits the one nearest to the number. All arithmetic is exact.
-/

namespace NetDiagram.Decimal

/-! ## Binary numbers -/

/-- The positive number `mantissa * 2 ^ exponent` of a binary format. -/
structure Binary where
  mantissa : Nat
  exponent : Int
  /-- Whether the next smaller number of the format is only half as far as the next larger one. -/
  narrowBelow : Bool
deriving DecidableEq, Repr

inductive Magnitude where
  | notANumber
  | infinite
  | zero
  | finite (value : Binary)
deriving DecidableEq, Repr

structure Unpacked where
  negative : Bool
  magnitude : Magnitude
deriving DecidableEq, Repr

/-- Takes a floating-point number apart: a sign, `exponentBits` bits of exponent, and
`fractionBits` bits of fraction. -/
def unpack (exponentBits fractionBits bits : Nat) : Unpacked :=
  let fraction := bits % Nat.pow 2 fractionBits
  let exponent := bits / Nat.pow 2 fractionBits % Nat.pow 2 exponentBits
  let least : Int := 2 - Nat.pow 2 (exponentBits - 1) - fractionBits
  { negative := bits / Nat.pow 2 (fractionBits + exponentBits) % 2 = 1
    magnitude :=
      if exponent = Nat.pow 2 exponentBits - 1 then
        if fraction = 0 then .infinite else .notANumber
      else if exponent = 0 then
        if fraction = 0 then .zero else .finite ⟨fraction, least, false⟩
      else
        .finite ⟨Nat.pow 2 fractionBits + fraction, least + (exponent - 1 : Nat),
          fraction = 0 && 1 < exponent⟩ }

def unpack32 (x : Float32) : Unpacked := unpack 8 23 x.toBits.toNat

def unpack64 (x : Float) : Unpacked := unpack 11 52 x.toBits.toNat

/-! ## Decimals near a binary number -/

/-- The number `digits * 10 ^ exponent`. -/
structure Numeral where
  digits : Nat
  exponent : Int
deriving DecidableEq, Repr

def digitCount (n : Nat) : Nat := (Nat.toDigits 10 n).length

inductive Tie where
  /-- The larger one. -/
  | up
  /-- The one whose last digit is even. -/
  | toEven
deriving DecidableEq, Repr

namespace Binary

/-- The factor of quarter units that makes all ends of the interval whole, as a fraction. -/
def quarterUnit (b : Binary) : Nat × Nat :=
  (Nat.pow 2 (b.exponent - 2).toNat, Nat.pow 2 (2 - b.exponent).toNat)

/-- Numerators of the lower end of the interval, of the number, and of the upper end, over
the denominator of `quarterUnit`. -/
def ends (b : Binary) : Nat × Nat × Nat :=
  let unit := b.quarterUnit.1
  let below := if b.narrowBelow then 1 else 2
  ((4 * b.mantissa - below) * unit, 4 * b.mantissa * unit, (4 * b.mantissa + 2) * unit)

def leadingExponent (b : Binary) : Int :=
  let numerator := b.ends.2.1
  let denominator := b.quarterUnit.2
  if denominator ≤ numerator then (digitCount (numerator / denominator) : Int) - 1
  else -(digitCount ((denominator - 1) / numerator) : Int)

/-- The multiple of `10 ^ k` in the interval that is nearest to the number, if there is one: its
factor. The ends belong to the interval if the mantissa is even. -/
def nearest? (tie : Tie) (b : Binary) (k : Int) : Option Nat :=
  let (lower, value, upper) := b.ends
  let scale := Nat.pow 10 (-k).toNat
  let step := b.quarterUnit.2 * Nat.pow 10 k.toNat
  let isInside (n : Nat) : Bool :=
    if b.mantissa % 2 = 0 then lower * scale ≤ n * step && n * step ≤ upper * scale
    else lower * scale < n * step && n * step < upper * scale
  let below := value * scale / step
  let rest := value * scale % step
  match isInside below, isInside (below + 1) with
  | false, false => none
  | true, false => some below
  | false, true => some (below + 1)
  | true, true =>
    if 2 * rest < step then some below
    else if step < 2 * rest then some (below + 1)
    else
      match tie with
      | .up => some (below + 1)
      | .toEven => some (if below % 2 = 0 then below else below + 1)

/-- The shortest decimal in the interval of the number, found by trying one digit, two digits, and
so on. Seventeen digits are enough for double precision. -/
def shortest (tie : Tie) (b : Binary) : Numeral :=
  let decimal? (more : Nat) : Option Numeral :=
    let k := b.leadingExponent - more
    (b.nearest? tie k).map fun n => ⟨n, k⟩
  ((List.range 17).findSome? decimal?).getD ⟨b.mantissa * b.quarterUnit.1, 0⟩

end Binary

end NetDiagram.Decimal
