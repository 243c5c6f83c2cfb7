import NetDiagram.Decimal.Shortest

/-!
# Writing numbers

How a number looks in a document is a matter of style: when an exponent is written, whether a whole
number has a fraction, and what stands for values that are no numbers. The digits are always those
of the shortest decimal.
-/

namespace NetDiagram.Decimal

structure Style where
  tie : Tie
  /-- The exponents of the leading digit that are written without an exponent; all if `none`. -/
  positional : Option (Int × Int)
  /-- Whether a whole number without exponent ends in `.0`. -/
  hasFraction : Bool
  notANumber : String
  infinite : String
  negativeInfinite : String
deriving DecidableEq, Repr

namespace Style

/-- Numbers in text: no exponents, and no more digits than needed. -/
def plain : Style := ⟨.up, none, false, "NaN", "inf", "-inf"⟩

/-- Numbers in JSON: a fraction always, an exponent for large and small ones, and nothing for
values that JSON cannot write. -/
def json : Style := ⟨.toEven, some (-6, 12), true, "null", "null", "null"⟩

end Style

def zeros (n : Nat) : List Char := List.replicate n '0'

def significant (digits : List Char) : List Char := (digits.reverse.dropWhile (· == '0')).reverse

/-- Digits without exponent, the first of them for `10 ^ leading`. -/
def positionalText (hasFraction : Bool) (digits : List Char) (leading : Int) : List Char :=
  if leading < 0 then '0' :: '.' :: (zeros (-leading - 1).toNat ++ digits)
  else
    let places := leading.toNat + 1
    let whole := digits.take places ++ zeros (places - digits.length)
    match digits.drop places with
    | [] => if hasFraction then whole ++ ['.', '0'] else whole
    | fraction => whole ++ '.' :: fraction

/-- Digits with an exponent, the first of them for `10 ^ leading`. -/
def exponentText (digits : List Char) (leading : Int) : List Char :=
  let mantissa := match digits with
    | [] => ['0']
    | [d] => [d]
    | d :: ds => d :: '.' :: ds
  let sign := if leading < 0 then '-' else '+'
  mantissa ++ 'e' :: sign :: Nat.toDigits 10 leading.natAbs

def Numeral.text (style : Style) (d : Numeral) : List Char :=
  let all := Nat.toDigits 10 d.digits
  let leading := d.exponent + all.length - 1
  let digits := significant all
  match style.positional with
  | none => positionalText style.hasFraction digits leading
  | some (least, greatest) =>
    if least ≤ leading && leading ≤ greatest then
      positionalText style.hasFraction digits leading
    else exponentText digits leading

def Unpacked.text (style : Style) (u : Unpacked) : String :=
  let signed (text : List Char) : String := .ofList (if u.negative then '-' :: text else text)
  match u.magnitude with
  | .notANumber => style.notANumber
  | .infinite => if u.negative then style.negativeInfinite else style.infinite
  | .zero => signed (if style.hasFraction then ['0', '.', '0'] else ['0'])
  | .finite value => signed ((value.shortest style.tie).text style)

def text32 (style : Style) (x : Float32) : String := (unpack32 x).text style

def text64 (style : Style) (x : Float) : String := (unpack64 x).text style

end NetDiagram.Decimal
