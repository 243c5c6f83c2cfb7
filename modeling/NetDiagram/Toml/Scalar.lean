import NetDiagram.Decimal.Reading
import NetDiagram.Settings.Value
import NetDiagram.Text.Basic

/-!
# TOML: plain values

Strings, numbers, truth values, dates and times, each read from its written form. A line ends in a
line feed, or in a carriage return and a line feed.
-/

namespace NetDiagram.Toml

open Settings (Value)

abbrev Reader := StateT (List Char) Option

/-! ## Characters -/

/-- Whether a character may stand in a line as it is. Of the control characters only the tab may. -/
def isText (c : Char) : Bool :=
  c == '\t' || (decide (0x20 ≤ c.toNat) && decide (c.toNat ≠ 0x7F))

def isBlank (c : Char) : Bool := c == ' ' || c == '\t'

def afterLineEnd? : List Char → Option (List Char)
  | '\n' :: cs => some cs
  | '\r' :: '\n' :: cs => some cs
  | _ => none

def skipLines : List Char → List Char
  | '\r' :: '\n' :: cs => skipLines cs
  | c :: cs => if isBlank c || c == '\n' then skipLines cs else c :: cs
  | [] => []

theorem length_skipLines_le (cs : List Char) : (skipLines cs).length ≤ cs.length := by
  fun_induction skipLines cs with
  | case1 cs ih => exact Nat.le_add_right_of_le (Nat.le_add_right_of_le ih)
  | case2 c cs _ _ ih => exact Nat.le_add_right_of_le ih
  | case3 c cs => exact Nat.le_refl _
  | case4 => exact Nat.le_refl _

def isDigitOf (base : Nat) (c : Char) : Bool :=
  let value :=
    if c.isDigit then c.toNat - '0'.toNat
    else if c.isAlpha then c.toLower.toNat - 'a'.toNat + 10
    else 36
  decide (value < base)

def valueOf (base : Nat) (digits : List Char) : Nat :=
  digits.foldl (fun n c =>
    let value := if c.isDigit then c.toNat - '0'.toNat else c.toLower.toNat - 'a'.toNat + 10
    n * base + value) 0

/-! ## Strings -/

/-- The character with a number that is written in a fixed count of hexadecimal digits. -/
def numbered? (count : Nat) (cs : List Char) : Option Char :=
  let digits := cs.take count
  let n := valueOf 16 digits
  if digits.length = count ∧ digits.all (isDigitOf 16) ∧ n.isValidChar then some (.ofNat n)
  else none

/-- What stands after a backslash: the character it means, and how many characters it takes. -/
def escape? : List Char → Option (Char × Nat)
  | 'b' :: _ => some ('\x08', 1)
  | 't' :: _ => some ('\t', 1)
  | 'n' :: _ => some ('\n', 1)
  | 'f' :: _ => some ('\x0c', 1)
  | 'r' :: _ => some ('\r', 1)
  | 'e' :: _ => some ('\x1b', 1)
  | '"' :: _ => some ('"', 1)
  | '\\' :: _ => some ('\\', 1)
  | 'x' :: cs => (numbered? 2 cs).map (·, 3)
  | 'u' :: cs => (numbered? 4 cs).map (·, 5)
  | 'U' :: cs => (numbered? 8 cs).map (·, 9)
  | _ => none

/-- How many quotes of a text over several lines belong to its content, out of those in a row:
the last three close it, and at most two stand before them. -/
def quotesBeforeEnd (row : Nat) : Option Nat :=
  if row < 3 then none else some (min row 5 - 3)

/-- The text of a string up to its closing quotes, and what follows them. Only a string between
`'"'` has escapes. A string over several lines ends in three quotes, and a backslash at the end of
a line joins it with the next text. -/
def stringBody (quote : Char) (isMultiline : Bool) : List Char → Option (List Char × List Char)
  | [] => none
  | c :: cs =>
    let continued (first : List Char) (rest : List Char) (_ : rest.length < (c :: cs).length) :=
      (stringBody quote isMultiline rest).map fun (text, rest) => (first ++ text, rest)
    if c = quote then
      if isMultiline then
        let row := 1 + ((cs.take 4).takeWhile (· == quote)).length
        match quotesBeforeEnd row with
        | some kept => some (List.replicate kept quote, cs.drop (kept + 2))
        | none => continued [quote] cs (Text.length_lt_cons c cs)
      else some ([], cs)
    else if c = '\\' ∧ quote = '"' then
      if isMultiline && (afterLineEnd? (cs.dropWhile isBlank)).isSome then
        continued [] (skipLines cs) (Nat.lt_succ_of_le (length_skipLines_le cs))
      else
        match escape? cs with
        | some (meant, count) =>
          continued [meant] (cs.drop count) (Text.length_drop_lt_cons count c cs)
        | none => none
    else if isText c || (isMultiline && c == '\n') then
      continued [c] cs (Text.length_lt_cons c cs)
    else if isMultiline && c == '\r' && cs.head? == some '\n' then
      continued ['\r', '\n'] (cs.drop 1) (Text.length_drop_lt_cons 1 c cs)
    else none
termination_by cs => cs.length
decreasing_by assumption

def singleLine? : List Char → Option (String × List Char)
  | c :: cs =>
    if c = '"' ∨ c = '\x27' then
      (stringBody c false cs).map fun (text, rest) => (.ofList text, rest)
    else none
  | [] => none

/-- Takes a string of any kind. A line end directly after three quotes does not count. -/
def string? : List Char → Option (String × List Char)
  | a :: b :: c :: cs =>
    if (a = '"' ∨ a = '\x27') ∧ a = b ∧ b = c then
      (stringBody a true ((afterLineEnd? cs).getD cs)).map fun (text, rest) => (.ofList text, rest)
    else singleLine? (a :: b :: c :: cs)
  | cs => singleLine? cs

/-! ## Numbers

A word can have the shape of a number without being one, such as `0x` or `1_a`. It is taken for a
number that cannot be read.
-/

/-- Whether every low line stands between two digits. -/
def isGrouped (isDigit : Char → Bool) : List Char → Bool
  | [] => true
  | '_' :: _ => false
  | [_, '_'] => false
  | c :: '_' :: d :: cs => isDigit c && isDigit d && isGrouped isDigit (d :: cs)
  | _ :: cs => isGrouped isDigit cs

def ungroup (cs : List Char) : List Char := cs.filter (· != '_')

inductive Sign where
  | positive
  | negative
deriving DecidableEq, Repr

def signed (sign : Option Sign) (magnitude : Nat) : Int :=
  if sign = some .negative then -(magnitude : Int) else magnitude

def splitSign : List Char → Option Sign × List Char
  | '-' :: cs => (some .negative, cs)
  | '+' :: cs => (some .positive, cs)
  | cs => (none, cs)

/-- The whole number with a sign and digits, which has a value if they are digits of the base and it
has at most 128 bits. -/
def wholeNumber (base : Nat) (sign : Option Sign) (digits : List Char) : Value :=
  let n := signed sign (valueOf base digits)
  let fits : Bool := -(Nat.pow 2 127 : Int) ≤ n ∧ n < Nat.pow 2 128
  if digits ≠ [] ∧ digits.all (isDigitOf base) ∧ fits then .integer n else .unreadable

def markedBase? : Char → Option Nat
  | 'x' => some 16
  | 'o' => some 8
  | 'b' => some 2
  | _ => none

/-- A whole number with the mark of its base. It has no sign, and can lack digits. -/
def marked? : List Char → Option Value
  | '0' :: mark :: cs => do
    let base ← markedBase? mark
    guard (isGrouped (isDigitOf base) cs)
    let digits := ungroup cs
    guard (digits.all (isDigitOf base))
    return wholeNumber base none digits
  | _ => none

def exponent? : List Char → Option Int
  | [] => some 0
  | _ :: cs => do
    let (sign, digits) := splitSign cs
    guard (digits ≠ [] ∧ digits.all Char.isDigit)
    return signed sign (valueOf 10 digits)

/-- A number with a fraction, an exponent, or both. It has a value if that is finite in double
precision. -/
def decimal? (sign : Option Sign) (cs : List Char) : Option Value := do
  let mantissa := cs.takeWhile fun c => c != 'e' && c != 'E'
  let exponent ← exponent? (cs.drop mantissa.length)
  let whole := mantissa.takeWhile (· != '.')
  guard (whole ≠ [] ∧ whole.all Char.isDigit)
  let fraction := mantissa.drop (whole.length + 1)
  guard ((whole = mantissa ∨ fraction ≠ []) ∧ fraction.all Char.isDigit)
  let value := Decimal.nearestDouble (sign = some .negative) (valueOf 10 (whole ++ fraction))
    (exponent - fraction.length)
  return if value.isInf then .unreadable else .float value

def hasSpareZero : List Char → Bool
  | '0' :: c :: _ => c.isDigit || c == '_'
  | _ => false

/-- A number in base ten. One without a fraction and an exponent is a number by its first digits and
the low line after them, so that among the rest there can be other characters than digits. -/
def number? (cs : List Char) : Option Value := do
  let (sign, cs) := splitSign cs
  guard (cs ≠ [] ∧ ¬ hasSpareZero cs)
  if cs.any (fun c => c == '.' || c == 'e' || c == 'E') then
    guard (isGrouped Char.isDigit cs)
    decimal? sign (ungroup cs)
  else
    guard ((cs.dropWhile Char.isDigit).head?.all (· == '_'))
    guard (isGrouped (isDigitOf 16) cs)
    return wholeNumber 10 sign (ungroup cs)

def special? (cs : List Char) : Option Value :=
  let (sign, word) := splitSign cs
  if word = ['i', 'n', 'f'] then
    some (.float (if sign = some .negative then -1 / 0 else 1 / 0))
  else if word = ['n', 'a', 'n'] then some (.float (0 / 0))
  else none

/-! ## Dates and times -/

def numberBetween (count least greatest : Nat) : Reader Nat := do
  let cs ← get
  let digits := cs.take count
  let n := valueOf 10 digits
  guard (digits.length = count ∧ digits.all Char.isDigit ∧ least ≤ n ∧ n ≤ greatest)
  set (cs.drop count)
  return n

def oneOf (wanted : List Char) : Reader Unit := do
  match ← get with
  | c :: cs =>
    guard (wanted.contains c)
    set cs
  | [] => failure

def daysIn (year month : Nat) : Nat :=
  if month = 2 then
    if year % 4 = 0 ∧ (year % 100 ≠ 0 ∨ year % 400 = 0) then 29 else 28
  else if [4, 6, 9, 11].contains month then 30
  else 31

def date : Reader Unit := do
  let year ← numberBetween 4 0 9999
  oneOf ['-']
  let month ← numberBetween 2 1 12
  oneOf ['-']
  let _ ← numberBetween 2 1 (daysIn year month)

/-- Takes a time. Seconds can be absent, and have a fraction. -/
def time : Reader Unit := do
  let _ ← numberBetween 2 0 23
  oneOf [':']
  let _ ← numberBetween 2 0 59
  match ← get with
  | ':' :: cs =>
    set cs
    let _ ← numberBetween 2 0 60
    match ← get with
    | '.' :: cs =>
      guard (cs.head?.any Char.isDigit)
      set (cs.dropWhile Char.isDigit)
    | _ => return
  | _ => return

def offset : Reader Unit := do
  match ← get with
  | [] => return
  | c :: cs =>
    set cs
    if c = 'Z' ∨ c = 'z' then return
    guard (c = '+' ∨ c = '-')
    let _ ← numberBetween 2 0 23
    oneOf [':']
    let _ ← numberBetween 2 0 59

def moment : Reader Unit := do
  let cs ← get
  if (cs.drop 2).head? = some ':' then time
  else
    date
    match ← get with
    | [] => return
    | _ =>
      oneOf ['T', 't', ' ']
      time
      offset

def isMoment (cs : List Char) : Bool := (moment.run cs).any fun (_, rest) => rest.isEmpty

/-! ## All plain values without quotes -/

def isPlain (c : Char) : Bool :=
  !(isBlank c || ['\n', '\r', '#', '=', ',', '[', ']', '\x7b', '\x7d'].contains c)

def plain? (cs : List Char) : Option Value :=
  if cs = "true".toList then some (.bool true)
  else if cs = "false".toList then some (.bool false)
  else
    special? cs <|> marked? cs <|> number? cs <|>
      if isMoment cs then some (.moment (.ofList cs)) else none

/-- Takes a value without quotes. A date and a time may be separated by a blank. -/
def takePlain (cs : List Char) : List Char × List Char :=
  let word := cs.takeWhile isPlain
  let rest := cs.drop word.length
  match rest with
  | ' ' :: d :: more =>
    if d.isDigit && (date.run word).any fun (_, rest) => rest.isEmpty then
      let second := (d :: more).takeWhile isPlain
      (word ++ ' ' :: second, (d :: more).drop second.length)
    else (word, rest)
  | _ => (word, rest)

end NetDiagram.Toml
