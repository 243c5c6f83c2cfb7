import NetDiagram.Path
import NetDiagram.Source.Token

/-!
# Statements

A statement connects two components. It is written as two endpoints with the connector between
them; an endpoint is four bracketed fields with the possessive after the second. Tokens have to be
adjacent. Text before and after a statement is allowed, and of several statements on a line the
leftmost counts.
-/

namespace NetDiagram.Source

structure Endpoint where
  path : Path
  /-- From the first opening bracket to the last closing bracket. -/
  span : Span
deriving DecidableEq, Repr

structure Statement where
  source : Endpoint
  target : Endpoint
deriving DecidableEq, Repr

namespace Statement

/-- From the first bracket to the last. -/
def span (s : Statement) : Span := s.source.span.union s.target.span

def endpoints (s : Statement) : List Endpoint := [s.source, s.target]

/-- The written form of a statement, with the names of its eight fields. -/
def template : String :=
  "【环境】【数据中心】的【区域】【设备】连接【环境】【数据中心】的【区域】【设备】"

end Statement

/-! ## Reading from tokens -/

inductive Slot where
  | opening
  | field
  | closing
  | possessive
  | connector
deriving DecidableEq, Repr

namespace Slot

def name : Slot → String
  | opening => "`【`"
  | field => "a non-empty field"
  | closing => "`】`"
  | possessive => "`的`"
  | connector => "`连接`"

def fits : Slot → Token → Bool
  | opening, .opening => true
  | field, .field _ => true
  | closing, .closing => true
  | possessive, .possessive => true
  | connector, .connector => true
  | _, _ => false

end Slot

/-- Where the reading of a statement stops: the slot to be filled and the tokens that are left. -/
structure Stop where
  slot : Slot
  rest : List Placed
deriving DecidableEq, Repr

abbrev Reader := StateT (List Placed) (Except Stop)

def expect (slot : Slot) : Reader Placed := fun
  | [] => .error ⟨slot, []⟩
  | t :: ts => if slot.fits t.token then .ok (t, ts) else .error ⟨slot, t :: ts⟩

def bracketed : Reader (String × Span) := do
  let first ← expect .opening
  let field ← expect .field
  let last ← expect .closing
  return (.ofList field.token.text, first.span.union last.span)

def endpoint : Reader Endpoint := do
  let (environment, first) ← bracketed
  let (datacenter, _) ← bracketed
  let _ ← expect .possessive
  let (area, _) ← bracketed
  let (device, last) ← bracketed
  return { path := { environment, datacenter, area, device }, span := first.union last }

def statement : Reader Statement := do
  let source ← endpoint
  let _ ← expect .connector
  let target ← endpoint
  return { source, target }

def Statement.find? : List Placed → Option Statement
  | [] => none
  | t :: ts =>
    match statement.run (t :: ts) with
    | .ok (found, _) => some found
    | .error _ => find? ts

/-! ## Lines without a statement -/

structure Mismatch where
  /-- What was wanted first and not there. -/
  expected : Slot
  /-- The token in its place, or the empty span at the end of the line. -/
  found : Span
  /-- The part that did match, if the line has a bracket to start from. -/
  matched : Option Span
deriving DecidableEq, Repr

/-- How far the first attempt gets, the one at the first opening bracket. The span of the line
stands in for an attempt if there is no bracket. -/
def Mismatch.ofTokens (line : Span) (tokens : List Placed) : Mismatch :=
  match tokens.dropWhile (·.token ≠ .opening) with
  | [] => ⟨.opening, line, none⟩
  | first :: more =>
    match statement.run (first :: more) with
    | .ok _ => ⟨.opening, line, none⟩
    | .error stop =>
      let taken := (first :: more).take ((first :: more).length - stop.rest.length)
      { expected := stop.slot
        found := (stop.rest.head?.map (·.span)).getD ⟨line.stop, line.stop⟩
        matched := taken.getLast?.map fun last => first.span.union last.span }

end NetDiagram.Source
