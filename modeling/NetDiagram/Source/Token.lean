import NetDiagram.Source.Span
import NetDiagram.Text.Basic

/-!
# Tokens of a line

A line is cut into brackets, the text of bracketed fields, the two literals of the statement form,
and filler. Directly after an opening bracket everything up to the next bracket is the text of the
field, so the literals are ordinary characters there. Nothing is dropped: the texts of the tokens,
put together, are the line.
-/

namespace NetDiagram.Source

inductive Token where
  /-- The bracket that opens a field. -/
  | opening
  /-- The bracket that closes a field. -/
  | closing
  /-- The literal between datacenter and area. -/
  | possessive
  /-- The literal between the two ends of a connection. -/
  | connector
  /-- The text after an opening bracket, up to the next bracket. -/
  | field (text : List Char)
  /-- Any other text. -/
  | filler (text : List Char)
deriving DecidableEq, Repr

def Token.text : Token → List Char
  | opening => ['【']
  | closing => ['】']
  | possessive => ['的']
  | connector => ['连', '接']
  | field text => text
  | filler text => text

def isBracket (c : Char) : Bool := c == '【' || c == '】'

/-- Whether a character starts a token of its own outside brackets. -/
def isReserved (c : Char) : Bool := isBracket c || c == '的' || c == '连'

/-- The token for the text of a field, if there is any text. -/
def fieldToken : List Char → List Token
  | [] => []
  | text => [.field text]

def tokenize : List Char → List Token
  | [] => []
  | '【' :: cs =>
    .opening :: (fieldToken (cs.takeWhile (!isBracket ·)) ++ tokenize (cs.dropWhile (!isBracket ·)))
  | '】' :: cs => .closing :: tokenize cs
  | '连' :: '接' :: cs => .connector :: tokenize cs
  | '的' :: cs => .possessive :: tokenize cs
  | '连' :: cs => .filler ['连'] :: tokenize cs
  | c :: cs =>
    .filler (c :: cs.takeWhile (!isReserved ·)) :: tokenize (cs.dropWhile (!isReserved ·))
termination_by cs => cs.length
decreasing_by
  all_goals
    first
    | exact Text.length_dropWhile_lt_cons _ _ _
    | exact Text.length_lt_cons _ _
    | exact Nat.lt_succ_of_lt (Text.length_lt_cons _ _)

/-! ## Positions -/

structure Placed where
  token : Token
  span : Span
deriving DecidableEq, Repr

/-- Places tokens one after another, the first at byte `offset`. -/
def place (offset : Nat) : List Token → List Placed
  | [] => []
  | t :: ts =>
    ⟨t, offset, offset + Text.byteLength t.text⟩ :: place (offset + Text.byteLength t.text) ts

def placedTokens (offset : Nat) (line : List Char) : List Placed := place offset (tokenize line)

/-- The places of the opening brackets that are not closed before the next opening bracket or the
end of the line, each up to there. -/
def unterminated : List Placed → List Span
  | [] => []
  | t :: ts =>
    let rest := unterminated ts
    if t.token = .opening then
      match ts with
      | ⟨.closing, _⟩ :: _ => rest
      | ⟨.field _, _⟩ :: ⟨.closing, _⟩ :: _ => rest
      | ⟨.field _, text⟩ :: _ => t.span.union text :: rest
      | _ => t.span :: rest
    else rest

end NetDiagram.Source
