import NetDiagram.Text.Blank

/-!
# Colours

A colour is a text that follows the rules for colours in style sheets: digits after a hash, a name,
or a function with its arguments. Only the form is checked, and the text is kept as it is, because
documents quote it.
-/

namespace NetDiagram

structure Colour where
  text : String
deriving DecidableEq, Repr

namespace Colour

inductive Flaw where
  | hexDigitCount
  | textAfterEnd
  | noNotation
  | unknownName
  | noArguments
  | noComponent
  | noAngle
  | unknownAngleUnit
  | noComma
  | noParenthesis
  | noSpace
  | unknownSpace
deriving DecidableEq, Repr

def Flaw.message : Flaw → String
  | hexDigitCount => "wrong number of hex digits"
  | textAfterEnd => "expected end of string"
  | noNotation => "unknown color syntax"
  | unknownName => "unknown color identifier"
  | noArguments => "expected arguments"
  | noComponent => "unknown color component"
  | noAngle => "unknown angle"
  | unknownAngleUnit => "unknown angle dimension"
  | noComma => "expected comma"
  | noParenthesis => "expected closing parenthesis"
  | noSpace => "expected color space identifier"
  | unknownSpace => "unknown color space"

/-! ## Names -/

def names : List String :=
  ["aliceblue", "antiquewhite", "aqua", "aquamarine", "azure", "beige", "bisque", "black",
    "blanchedalmond", "blue", "blueviolet", "brown", "burlywood", "cadetblue", "chartreuse",
    "chocolate", "coral", "cornflowerblue", "cornsilk", "crimson", "cyan", "darkblue", "darkcyan",
    "darkgoldenrod", "darkgray", "darkgreen", "darkkhaki", "darkmagenta", "darkolivegreen",
    "darkorange", "darkorchid", "darkred", "darksalmon", "darkseagreen", "darkslateblue",
    "darkslategray", "darkturquoise", "darkviolet", "deeppink", "deepskyblue", "dimgray",
    "dodgerblue", "firebrick", "floralwhite", "forestgreen", "fuchsia", "gainsboro", "ghostwhite",
    "gold", "goldenrod", "gray", "green", "greenyellow", "honeydew", "hotpink", "indianred",
    "indigo", "ivory", "khaki", "lavender", "lavenderblush", "lawngreen", "lemonchiffon",
    "lightblue", "lightcoral", "lightcyan", "lightgoldenrodyellow", "lightgray", "lightgreen",
    "lightpink", "lightsalmon", "lightseagreen", "lightskyblue", "lightslategray",
    "lightsteelblue", "lightyellow", "lime", "limegreen", "linen", "magenta", "maroon",
    "mediumaquamarine", "mediumblue", "mediumorchid", "mediumpurple", "mediumseagreen",
    "mediumslateblue", "mediumspringgreen", "mediumturquoise", "mediumvioletred", "midnightblue",
    "mintcream", "mistyrose", "moccasin", "navajowhite", "navy", "oldlace", "olive", "olivedrab",
    "orange", "orangered", "orchid", "palegoldenrod", "palegreen", "paleturquoise",
    "palevioletred", "papayawhip", "peachpuff", "peru", "pink", "plum", "powderblue", "purple",
    "rebeccapurple", "red", "rosybrown", "royalblue", "saddlebrown", "salmon", "sandybrown",
    "seagreen", "seashell", "sienna", "silver", "skyblue", "slateblue", "slategray", "snow",
    "springgreen", "steelblue", "tan", "teal", "thistle", "tomato", "transparent", "turquoise",
    "violet", "wheat", "white", "whitesmoke", "yellow", "yellowgreen"]

def spaces : List String :=
  ["srgb", "srgb-linear", "display-p3", "a98-rgb", "prophoto-rgb", "rec2020", "xyz", "xyz-d50",
    "xyz-d65"]

def angleUnits : List String := ["deg", "rad", "grad", "turn"]

/-! ## Blanks and comments -/

/-- The text after the end of the comment that it starts in. -/
def afterComment? : List Char → Option (List Char)
  | [] => none
  | '*' :: '/' :: cs => some cs
  | _ :: cs => afterComment? cs

theorem length_lt_of_afterComment? {cs rest : List Char} (h : afterComment? cs = some rest) :
    rest.length < cs.length := by
  fun_induction afterComment? cs with
  | case1 => simp at h
  | case2 cs =>
    cases h
    simp only [List.length_cons]
    omega
  | case3 c cs _ ih =>
    have := ih h
    simp only [List.length_cons]
    omega

def skipComments : List Char → List Char
  | '/' :: '*' :: cs =>
    match _ : afterComment? cs with
    | some rest => skipComments rest
    | none => '/' :: '*' :: cs
  | cs => cs
termination_by cs => cs.length
decreasing_by
  have := length_lt_of_afterComment? ‹afterComment? _ = some _›
  simp only [List.length_cons]
  omega

def isSpace (c : Char) : Bool := c == ' ' || c == '\t' || c == '\r' || c == '\n'

/-- Cuts blanks and comments off the front of a text, up to a comment that has no end. -/
def skipSpace : List Char → List Char
  | '/' :: '*' :: cs =>
    match _ : afterComment? cs with
    | some rest => skipSpace rest
    | none => '/' :: '*' :: cs
  | c :: cs => if isSpace c then skipSpace cs else c :: cs
  | [] => []
termination_by cs => cs.length
decreasing_by
  · have := length_lt_of_afterComment? ‹afterComment? _ = some _›
    simp only [List.length_cons]
    omega
  · simp

/-! ## Words and numbers -/

/-- Whether a character can stand in a word. Digits can, but for the start. -/
def isWordChar (c : Char) : Bool := c.isAlpha || c == '_' || c == '-'

/-- Takes a word off the front of a text: letters, digits, low lines and hyphens. It does not start
with a digit, with a hyphen and a digit, or with two hyphens, and is not just a hyphen. -/
def word? (cs : List Char) : Option (List Char × List Char) :=
  match cs with
  | '-' :: c :: cs =>
    if c.isAlpha || c == '_' then
      let tail := cs.takeWhile fun c => isWordChar c || c.isDigit
      some ('-' :: c :: tail, cs.drop tail.length)
    else none
  | c :: cs =>
    if c.isAlpha || c == '_' then
      let tail := cs.takeWhile fun c => isWordChar c || c.isDigit
      some (c :: tail, cs.drop tail.length)
    else none
  | [] => none

def skipExponent (cs : List Char) : List Char :=
  match cs with
  | e :: rest =>
    if e == 'e' || e == 'E' then
      let unsigned := match rest with
        | '+' :: more => more
        | '-' :: more => more
        | more => more
      if unsigned.head?.any Char.isDigit then unsigned.dropWhile Char.isDigit else cs
    else cs
  | [] => cs

def afterNumber? (cs : List Char) : Option (List Char) :=
  let unsigned := match cs with
    | '+' :: more => more
    | '-' :: more => more
    | more => more
  let whole := unsigned.takeWhile Char.isDigit
  let rest := unsigned.drop whole.length
  match rest with
  | '.' :: more =>
    if more.head?.any Char.isDigit then some (skipExponent (more.dropWhile Char.isDigit))
    else if whole.isEmpty then none
    else some (skipExponent rest)
  | _ => if whole.isEmpty then none else some (skipExponent rest)

inductive Argument where
  | number
  | percent
  /-- A number with a unit, the unit in lower case. -/
  | dimension (unit : String)
  /-- A word, in lower case. -/
  | symbol (word : String)
deriving DecidableEq, Repr

def lower (word : List Char) : String := .ofList (word.map Char.toLower)

def argument? (cs : List Char) : Option (Argument × List Char) :=
  let cs := skipComments cs
  match afterNumber? cs with
  | some ('%' :: rest) => some (.percent, rest)
  | some rest =>
    match word? rest with
    | some (unit, rest) => some (.dimension (lower unit), rest)
    | none => some (.number, rest)
  | none => (word? cs).map fun (word, rest) => (.symbol (lower word), rest)

/-! ## Functions -/

abbrev Reader := StateT (List Char) (Except Flaw)

def space : Reader Unit := modify skipSpace

/-- Takes a character after comments, if it is the next one. A comment without an end hides what
follows. -/
def optional (wanted : Char) : Reader Bool := do
  match skipComments (← get) with
  | '/' :: '*' :: _ => return false
  | c :: cs =>
    if c = wanted then
      set cs
      return true
    else return false
  | [] => return false

def component : Reader Unit := do
  space
  match argument? (← get) with
  | some (.number, rest) | some (.percent, rest) | some (.symbol "none", rest) => set rest
  | _ => throw .noComponent

def angle : Reader Unit := do
  space
  match argument? (← get) with
  | some (.number, rest) | some (.symbol "none", rest) => set rest
  | some (.dimension unit, rest) =>
    if angleUnits.contains unit then set rest else throw .unknownAngleUnit
  | _ => throw .noAngle

def opacity (separator : Char) : Reader Unit := do
  space
  if ← optional separator then component

/-- Takes the rest of three arguments, after the first. Either all of them are separated by commas,
or none, and then a slash separates the opacity. -/
def commaArguments (hasCommas : Bool) : Reader Unit := do
  component
  space
  if hasCommas then
    unless ← optional ',' do throw .noComma
  component
  opacity (if hasCommas then ',' else '/')

def plainArguments (arguments : List (Reader Unit)) : Reader Unit := do
  arguments.forM id
  opacity '/'

def colourSpace : Reader Unit := do
  space
  match word? (← get) with
  | none => throw .noSpace
  | some (word, rest) =>
    if spaces.contains (lower word) then set rest else throw .unknownSpace

def arguments? : String → Option (Reader Unit)
  | "rgb" | "rgba" => some do
    component
    space
    commaArguments (← optional ',')
  | "hsl" | "hsla" => some do
    angle
    commaArguments (← optional ',')
  | "hwb" => some (plainArguments [angle, component, component])
  | "lab" | "oklab" => some (plainArguments [component, component, component])
  | "lch" | "oklch" => some (plainArguments [component, component, angle])
  | "color" => some (plainArguments [colourSpace, component, component, component])
  | _ => none

def parenthesized (arguments : Reader Unit) : Reader Unit := do
  match ← get with
  | '(' :: cs =>
    set cs
    arguments
    space
    unless ← optional ')' do throw .noParenthesis
  | _ => throw .noArguments

/-! ## Colours -/

def isHexDigit (c : Char) : Bool :=
  c.isDigit || (decide ('a' ≤ c) && decide (c ≤ 'f')) || (decide ('A' ≤ c) && decide (c ≤ 'F'))

def hexDigits : Reader Unit := do
  let cs ← get
  let count := ((cs.take 8).takeWhile isHexDigit).length
  unless [3, 4, 6, 8].contains count do throw .hexDigitCount
  set (cs.drop count)

def notated : Reader Unit := do
  match ← get with
  | '#' :: cs =>
    set cs
    hexDigits
  | cs =>
    match word? cs with
    | none => throw .noNotation
    | some (word, rest) =>
      set rest
      match arguments? (lower word) with
      | some arguments => parenthesized arguments
      | none => unless names.contains (lower word) do throw .unknownName

def whole : Reader Unit := do
  notated
  unless (← get).isEmpty do throw .textAfterEnd

/-- The colour that a text stands for, with any blanks around it. -/
def ofText (text : String) : Except Flaw Colour :=
  let kept := Text.trim text
  (whole.run kept.toList).map fun _ => ⟨kept⟩

def invalidMessage (text : String) (flaw : Flaw) : String :=
  "invalid color `" ++ text ++ "`: " ++ flaw.message

end Colour

end NetDiagram
