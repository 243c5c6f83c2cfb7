import NetDiagram.Diagnostic
import NetDiagram.Source.Statement
import NetDiagram.Text.Blank

/-!
# Survey of a source text

A text is surveyed line by line, and no line has a say in what another one yields. Only a line with
the connector can hold a statement; any other line is prose. The survey of a text is the list of
its findings, and statements, warnings and counts are read off that list. A text without a single
statement cannot be used.
-/

namespace NetDiagram.Source

/-! ## Lines -/

/-- A line of a text, without its end, and the offset of its first byte. -/
structure Line where
  offset : Nat
  text : List Char
deriving DecidableEq, Repr

/-- Numbers the pieces of a text that stand between line feeds, the first at byte `offset`, and
cuts the carriage returns off their ends. -/
def Line.ofPieces (offset : Nat) : List (List Char) → List Line
  | [] => []
  | piece :: pieces =>
    ⟨offset, Text.trimEnd (· == '\r') piece⟩ ::
      ofPieces (offset + Text.byteLength piece + 1) pieces

def Line.ofText (text : List Char) : List Line := Line.ofPieces 0 (text.splitOn '\n')

def Line.span (l : Line) : Span := ⟨l.offset, l.offset + Text.byteLength l.text⟩

/-! ## Findings -/

inductive Finding where
  /-- Nothing but blanks. -/
  | blank
  /-- Text without the connector. -/
  | prose
  /-- A statement, and brackets that are never closed. -/
  | statement (found : Statement) (unclosed : List Span)
  /-- The connector and no statement, and brackets that are never closed. -/
  | malformed (reason : Mismatch) (unclosed : List Span)
deriving DecidableEq, Repr

namespace Finding

def ofLine (l : Line) : Finding :=
  if l.text.all Text.isBlank then .blank
  else if !Text.occursIn Token.connector.text l.text then .prose
  else
    let tokens := placedTokens l.offset l.text
    match Statement.find? tokens with
    | some found => .statement found (unterminated tokens)
    | none => .malformed (.ofTokens l.span tokens) (unterminated tokens)

def statement? : Finding → Option Statement
  | statement found _ => some found
  | _ => none

def unclosed : Finding → List Span
  | blank => []
  | prose => []
  | statement _ spans => spans
  | malformed _ spans => spans

def isText : Finding → Bool
  | blank => false
  | _ => true

def isCandidate : Finding → Bool
  | statement _ _ => true
  | malformed _ _ => true
  | _ => false

end Finding

/-! ## Warnings about a line -/

def unterminatedWarning (place : Span) : Diagnostic :=
  { severity := .warning
    message := "unterminated bracket"
    code := some .unterminatedBracket
    labels := [⟨place, "this `【` is never closed", true⟩]
    help := some "add a closing `】`" }

def malformedWarning (m : Mismatch) : Diagnostic :=
  { severity := .warning
    message := "malformed connection statement"
    code := some .malformedStatement
    labels := ⟨m.found, "expected " ++ m.expected.name, true⟩ ::
      (m.matched.map fun span => ⟨span, "statement starts here", false⟩).toList
    help := some ("use " ++ Statement.template) }

/-- The warnings about one line: its brackets first, then its form. -/
def Finding.warnings : Finding → List Diagnostic
  | blank => []
  | prose => []
  | statement _ unclosed => unclosed.map unterminatedWarning
  | malformed reason unclosed => unclosed.map unterminatedWarning ++ [malformedWarning reason]

/-! ## The survey -/

structure Survey where
  findings : List (Line × Finding)
deriving DecidableEq, Repr

namespace Survey

def ofText (text : List Char) : Survey :=
  ⟨(Line.ofText text).map fun l => (l, .ofLine l)⟩

def statements (s : Survey) : List Statement := s.findings.filterMap (·.2.statement?)

def endpoints (s : Survey) : List Endpoint := s.statements.flatMap (·.endpoints)

/-- The identities of all endpoints, each at its first appearance. -/
def identities (s : Survey) : List Identity := (s.endpoints.map (·.path.identity)).eraseDups

def warnings (s : Survey) : List Diagnostic := s.findings.flatMap (·.2.warnings)

def totalLines (s : Survey) : Nat := s.findings.countP (·.2.isText)

def candidateLines (s : Survey) : Nat := s.findings.countP (·.2.isCandidate)

def validLines (s : Survey) : Nat := s.statements.length

end Survey

/-! ## Texts that cannot be used -/

/-- The error about a text without any line that is not blank. -/
def emptyInput : Diagnostic :=
  { severity := .error
    message := "empty input"
    code := some .emptyInput
    help := some ("write one connection per line: " ++ Statement.template) }

/-- The error about a text of which no line holds a statement. -/
def noStatements (text : List Char) : Diagnostic :=
  { severity := .error
    message := "no connection statements found"
    code := some .noStatements
    labels := [⟨⟨0, Text.byteLength text⟩, "no line matches the connection format", true⟩]
    help := some ("use " ++ Statement.template) }

def Survey.obstacle? (s : Survey) (text : List Char) : Option Diagnostic :=
  if s.totalLines = 0 then some emptyInput
  else if s.statements.isEmpty then some (noStatements text)
  else none

/-- The survey of a text that can be used. Otherwise the obstacle comes first among the problems,
and the warnings follow. -/
def survey (text : List Char) : Except ParseError Survey := do
  let found := Survey.ofText text
  let _ ← Diagnostic.conclude ((found.obstacle? text).toList ++ found.warnings)
  return found

/-! ## Checking a text without using it -/

structure Verdict where
  errors : List Diagnostic
  warnings : List Diagnostic
  totalLines : Nat
  validLines : Nat
deriving DecidableEq, Repr

namespace Verdict

def isValid (v : Verdict) : Bool := v.errors.isEmpty

/-- The hint that is given when no line holds a statement. -/
def formatHint : Diagnostic :=
  { severity := .warning, message := "standard format: " ++ Statement.template }

def ofText (text : List Char) : Verdict :=
  let found := Survey.ofText text
  let clean : Verdict :=
    { errors := []
      warnings := found.warnings
      totalLines := found.totalLines
      validLines := found.validLines }
  if found.totalLines = 0 then { clean with errors := [emptyInput] }
  else if found.validLines = 0 then
    { clean with errors := [noStatements text], warnings := found.warnings ++ [formatHint] }
  else clean

end Verdict

end NetDiagram.Source
