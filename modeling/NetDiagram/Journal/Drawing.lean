import NetDiagram.Journal.Parsing

/-!
# The journal of drawing a topology

The records that are written while a topology is laid out and drawn: the place of every
environment, everything that is left out, and what the document shows in the end.
-/

namespace NetDiagram.Journal

open Log (Record)

def coordinate (x : Float32) : String := Decimal.text64 .plain x.toFloat

def layout (s : Settings) (t : Topology) : List Record :=
  let l := Diagram.layout s t
  ⟨.info, "Calculating layout",
    [("environments", count t.environments.length), ("direction", l.direction.keyword)]⟩ ::
    (l.environments.map fun e =>
      ⟨.trace, "Placed environment",
        [("environment", e.name), ("x", coordinate e.bounds.minX),
          ("y", coordinate e.bounds.minY), ("width", coordinate e.bounds.width),
          ("height", coordinate e.bounds.height)]⟩) ++
    [⟨.debug, "Layout calculated", [("components", count l.components.length)]⟩]

def opening (message : String) (t : Topology) : Record :=
  ⟨.info, message,
    [("components", count t.components.length), ("connections", count t.connections.length)]⟩

def placeholder : Record := ⟨.debug, "Empty topology, rendering placeholder", []⟩

def skipped (id : Identity) : Record :=
  ⟨.warn, "Layout box has no component, skipping", [("id", id.text)]⟩

def dropped (figure : String) (c : Connection) : Record :=
  ⟨.warn, "Connection endpoint was not rendered, dropping " ++ figure,
    [("connection", c.id), ("source", c.source.text), ("target", c.target.text)]⟩

def shown (s : Document.Stats) : List (String × String) :=
  [("components", count s.components), ("connections", count s.connections),
    ("dropped", count s.dropped)]

def cells (t : Topology) (l : Layout Float32) : List Record :=
  opening "Rendering draw.io document" t ::
    if t.isEmpty || l.isEmpty then [placeholder]
    else
      let drawing := Cells.Drawing.ofLayout t l
      let unknown := (l.components.map (·.id)).filter fun id => (t.component? id).isNone
      unknown.map skipped ++ drawing.dropped.map (dropped "edge") ++
        [⟨.debug, "draw.io document rendered", shown drawing.stats⟩]

def flowchartStep : Flowchart.Step → List Record
  | .write (.edge depth c) =>
    [⟨.trace, "Edge written", [("connection", c.id), ("depth", count depth)]⟩]
  | .write _ => []
  | .skip id => [skipped id]
  | .drop c => [dropped "edge" c]

def flowchart (t : Topology) (l : Layout Float32) : List Record :=
  opening "Rendering Mermaid flowchart" t ::
    if t.isEmpty || l.isEmpty then [placeholder]
    else
      let steps := Flowchart.steps t l
      steps.flatMap flowchartStep ++
        [⟨.debug, "Mermaid flowchart rendered", shown (Flowchart.stats steps)⟩]

def placement : Scene.Placement Float32 → List Record
  | .skip id => [skipped id]
  | .draw frame =>
    match frame.component? with
    | none => []
    | some id =>
      [⟨.trace, "Component rectangle placed",
        [("id", id.text), ("x", coordinate frame.bounds.minX),
          ("y", coordinate frame.bounds.minY)]⟩]

def sceneEnd (elements : Nat) (s : Document.Stats) : Record :=
  ⟨.debug, "Excalidraw scene rendered", ("elements", count elements) :: shown s⟩

def scene (t : Topology) (l : Layout Float32) : List Record :=
  opening "Rendering Excalidraw scene" t ::
    if t.isEmpty || l.isEmpty then [placeholder, sceneEnd 1 {}]
    else
      let drawn := Scene.ofLayout t l
      (Scene.placements t l).flatMap placement ++ drawn.dropped.map (dropped "arrow") ++
        [sceneEnd drawn.elements.length drawn.stats]

variable [ColourCheck]

def renderLayout (s : Settings) (t : Topology) (l : Layout Float32) (format : Format) :
    List Record :=
  ⟨.info, "Rendering topology", [("format", format.name)]⟩ ::
    match Diagram.renderLayout s t l format with
    | .error _ => []
    | .ok document =>
      let drawing := match format with
        | .drawIo => cells t l
        | .mermaid => flowchart t l
        | .excalidraw => scene t l
      drawing ++
        [⟨.info, "Topology rendered",
          [("format", format.name), ("length", count document.length)]⟩]

/-- The documents of a topology in some formats. Nothing is done for settings whose layout has a
problem. -/
def render (s : Settings) (t : Topology) (formats : List Format) : List Record :=
  match Settings.layoutProblem? s.layout with
  | some _ => []
  | none => layout s t ++ formats.flatMap (renderLayout s t (Diagram.layout s t))

end NetDiagram.Journal
