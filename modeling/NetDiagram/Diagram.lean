import NetDiagram.Document.Cells
import NetDiagram.Document.Flowchart
import NetDiagram.Document.SceneJson
import NetDiagram.Layout.Placement
import NetDiagram.Settings.Basic
import NetDiagram.Source.Survey
import NetDiagram.Topology.Assembly
import NetDiagram.Topology.Check
import NetDiagram.Topology.Export

/-!
# Diagrams

The way from a text to its documents under some settings: read a topology from the text, lay it
out, and write it in a format. Only lengths and the background can stand in the way of a document;
a topology without content and connections without ends cannot.
-/

namespace NetDiagram.Diagram

def parse (s : Settings) (text : String) : Except ParseError Topology :=
  Topology.ofText Topology.defaultName s.classifier text

def validate (text : String) : Source.Verdict := .ofText text.toList

def layout (s : Settings) (t : Topology) : Layout Float32 := s.layout.layout t

section

variable [ColourCheck]

def background (s : Settings) : Except Settings.Problem String :=
  s.colour?.map fun colour => (colour.map (·.text)).getD Scene.defaultBackground

/-- The document for a topology and a layout, whatever the lengths. -/
def renderLayout (s : Settings) (t : Topology) (l : Layout Float32) :
    Format → Except Settings.Problem Document
  | .drawIo => .ok (Cells.render t l)
  | .mermaid => .ok (Flowchart.render t l)
  | .excalidraw => (background s).map fun background => Scene.render background t l

/-- Refuses settings whose layout has a problem. -/
def checkLayout (s : Settings) : Except Settings.Problem Unit :=
  match Settings.layoutProblem? s.layout with
  | some problem => .error problem
  | none => .ok ()

def render (s : Settings) (t : Topology) (format : Format) : Except Settings.Problem Document := do
  checkLayout s
  renderLayout s t (layout s t) format

def renderAll (s : Settings) (t : Topology) : Except Settings.Problem (List Document) := do
  checkLayout s
  Format.all.mapM (renderLayout s t (layout s t))

end

def exportJson (t : Topology) : String := t.json.pretty

end NetDiagram.Diagram
