import NetDiagram.Log
import NetDiagram.Source.Span

/-!
# Diagnostics

A diagnostic describes one problem: how severe it is, what kind of problem it is, where in the
source it lies, and what can be done about it. Problems that stop the reading of a text travel
together as a `ParseError`.
-/

namespace NetDiagram

inductive Severity where
  /-- Nothing can be produced. -/
  | error
  /-- The rest of the input is still used. -/
  | warning
deriving DecidableEq, Repr

namespace Severity

def name : Severity → String
  | error => "error"
  | warning => "warning"

def level : Severity → Log.Level
  | error => .error
  | warning => .warn

end Severity

namespace Diagnostic

inductive Code where
  /-- A bracket is opened and never closed. -/
  | unterminatedBracket
  /-- A line has the connector and holds no statement. -/
  | malformedStatement
  /-- The text has no line that is not blank. -/
  | emptyInput
  /-- No line of the text holds a statement. -/
  | noStatements
  /-- A connection joins a component with itself. -/
  | selfLoop
  /-- A connection names a component that does not exist. -/
  | danglingReference
deriving DecidableEq, Repr

namespace Code

def name : Code → String
  | unterminatedBracket => "E001"
  | malformedStatement => "E100"
  | emptyInput => "E101"
  | noStatements => "E102"
  | selfLoop => "E200"
  | danglingReference => "E201"

def description : Code → String
  | unterminatedBracket => "unterminated bracket"
  | malformedStatement => "malformed connection statement"
  | emptyInput => "empty input"
  | noStatements => "no connection statements"
  | selfLoop => "self-loop connection"
  | danglingReference => "dangling connection reference"

def all : List Code :=
  [unterminatedBracket, malformedStatement, emptyInput, noStatements, selfLoop, danglingReference]

def ofName? (name : String) : Option Code := all.find? fun code => code.name == name

end Code

structure Label where
  span : Span
  message : String
  /-- Whether the part is the problem itself, and not context for it. -/
  isPrimary : Bool
deriving DecidableEq, Repr

end Diagnostic

structure Diagnostic where
  severity : Severity
  message : String
  code : Option Diagnostic.Code := none
  labels : List Diagnostic.Label := []
  help : Option String := none
deriving DecidableEq, Repr

namespace Diagnostic

def withCode (d : Diagnostic) (code : Code) : Diagnostic := { d with code := some code }

def withLabel (d : Diagnostic) (span : Span) (message : String) : Diagnostic :=
  { d with labels := d.labels ++ [⟨span, message, true⟩] }

def withContext (d : Diagnostic) (span : Span) (message : String) : Diagnostic :=
  { d with labels := d.labels ++ [⟨span, message, false⟩] }

def withHelp (d : Diagnostic) (help : String) : Diagnostic := { d with help := some help }

def isError (d : Diagnostic) : Bool := d.severity = .error

/-- The problem in one line, such as `warning[E100]: malformed connection statement`. -/
def headline (d : Diagnostic) : String :=
  let code := match d.code with
    | some code => "[" ++ code.name ++ "]"
    | none => ""
  d.severity.name ++ code ++ ": " ++ d.message

end Diagnostic

/-- The problems of a text that cannot be read: the one that stops the reading, then the rest. -/
structure ParseError where
  diagnostics : List Diagnostic
deriving DecidableEq, Repr

namespace ParseError

def headline (e : ParseError) : String :=
  match e.diagnostics with
  | [] => ""
  | [d] => d.headline
  | d :: ds => d.headline ++ " (+" ++ toString ds.length ++ " more)"

end ParseError

/-- Ends a piece of work that has met some problems, in the order in which they were met. One error
is enough to make it fail, and then the errors come first; otherwise its warnings are left. -/
def Diagnostic.conclude (problems : List Diagnostic) : Except ParseError (List Diagnostic) :=
  let (errors, warnings) := problems.partition (·.isError)
  if errors.isEmpty then .ok problems else .error ⟨errors ++ warnings⟩

end NetDiagram
