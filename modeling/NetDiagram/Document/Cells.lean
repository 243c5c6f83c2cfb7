import NetDiagram.Decimal.Style
import NetDiagram.Document.Basic
import NetDiagram.Layout.Box
import NetDiagram.Topology.Basic
import NetDiagram.Xml

/-!
# Documents for draw.io

A draw.io document is a list of cells. Every box of a layout becomes a vertex whose parent is the
vertex of the box around it, so boxes are written as they are, relative to each other. Boxes of
unknown components are left out. Every connection between two vertices becomes an edge. One series
of numbers runs through all cells after the two that are always there.
-/

namespace NetDiagram.Cells

/-! ## Cells -/

inductive CellId where
  /-- The cell that everything is in. -/
  | root
  /-- The only layer of the diagram. -/
  | layer
  /-- The only vertex of a diagram without content. -/
  | placeholder
  | environment (number : Nat)
  | datacenter (number : Nat)
  | area (number : Nat)
  | component (number : Nat)
  | edge (number : Nat)
deriving DecidableEq, Repr

def CellId.text : CellId → String
  | root => "0"
  | layer => "1"
  | placeholder => "2"
  | environment n => "env_" ++ toString n
  | datacenter n => "dc_" ++ toString n
  | area n => "area_" ++ toString n
  | component n => "comp_" ++ toString n
  | edge n => "edge_" ++ toString n

inductive Figure where
  | environment (name : String)
  | datacenter (name : String)
  | area (name : String)
  | component (component : Component)
deriving DecidableEq, Repr

namespace Figure

def label : Figure → String
  | environment name => name
  | datacenter name => name
  | area name => name
  | component c => c.name

def cellId (number : Nat) : Figure → CellId
  | environment _ => .environment number
  | datacenter _ => .datacenter number
  | area _ => .area number
  | component _ => .component number

def identity? : Figure → Option Identity
  | component c => some c.identity
  | _ => none

def groupStyle (fill : String) : String :=
  "swimlane;whiteSpace=wrap;html=1;fillColor=" ++ fill ++ ";strokeColor=#CCCCCC;fontStyle=1;"

def componentStyle (look : Appearance) : String :=
  "shape=rect;fillColor=none;strokeColor=" ++ look.stroke
    ++ ";strokeWidth=" ++ toString look.strokeWidth
    ++ ";fontColor=" ++ look.font
    ++ ";fontSize=12;fontStyle=" ++ (if look.isBold then "1" else "0")
    ++ ";whiteSpace=wrap;html=1;"

def style : Figure → String
  | environment _ => groupStyle "#E3F2FD"
  | datacenter _ => groupStyle "#F3E5F5"
  | area _ => groupStyle "#E8F5E8"
  | component c => componentStyle c.kind.appearance

end Figure

structure Vertex (α : Type) where
  number : Nat
  parent : CellId
  figure : Figure
  /-- The place, relative to the parent. -/
  bounds : Bounds α
deriving DecidableEq, Repr

def Vertex.id {α : Type} (v : Vertex α) : CellId := v.figure.cellId v.number

structure Edge where
  number : Nat
  source : CellId
  target : CellId
  connection : Connection
deriving DecidableEq, Repr

def Edge.id (e : Edge) : CellId := .edge e.number

/-! ## Drawing a layout -/

variable {α : Type}

/-- The vertices of the components in an area, numbered from `number` on. -/
def componentVertices (t : Topology) (parent : CellId) (number : Nat) :
    List (Layout.ComponentBox α) → List (Vertex α)
  | [] => []
  | b :: bs =>
    match t.component? b.id with
    | none => componentVertices t parent number bs
    | some c =>
      ⟨number, parent, .component c, b.bounds⟩ :: componentVertices t parent (number + 1) bs

def areaVertices (t : Topology) (parent : CellId) (number : Nat) :
    List (Layout.AreaBox α) → List (Vertex α)
  | [] => []
  | a :: as =>
    let inner := componentVertices t (.area number) (number + 1) a.components
    ⟨number, parent, .area a.name, a.bounds⟩ ::
      (inner ++ areaVertices t parent (number + 1 + inner.length) as)

def datacenterVertices (t : Topology) (parent : CellId) (number : Nat) :
    List (Layout.DatacenterBox α) → List (Vertex α)
  | [] => []
  | d :: ds =>
    let inner := areaVertices t (.datacenter number) (number + 1) d.areas
    ⟨number, parent, .datacenter d.name, d.bounds⟩ ::
      (inner ++ datacenterVertices t parent (number + 1 + inner.length) ds)

def environmentVertices (t : Topology) (number : Nat) :
    List (Layout.EnvironmentBox α) → List (Vertex α)
  | [] => []
  | e :: es =>
    let inner := datacenterVertices t (.environment number) (number + 1) e.datacenters
    ⟨number, .layer, .environment e.name, e.bounds⟩ ::
      (inner ++ environmentVertices t (number + 1 + inner.length) es)

/-- The vertex of a component, the last one if there are several. -/
def node? (vertices : List (Vertex α)) (id : Identity) : Option CellId :=
  (vertices.findRev? fun v => v.figure.identity? = some id).map (·.id)

def ends? (vertices : List (Vertex α)) (c : Connection) : Option (CellId × CellId) := do
  let source ← node? vertices c.source
  let target ← node? vertices c.target
  return (source, target)

def edges (vertices : List (Vertex α)) (number : Nat) : List Connection → List Edge
  | [] => []
  | c :: cs =>
    match ends? vertices c with
    | none => edges vertices number cs
    | some (source, target) => ⟨number, source, target, c⟩ :: edges vertices (number + 1) cs

structure Drawing (α : Type) where
  vertices : List (Vertex α)
  edges : List Edge
  /-- The connections that have no edge. -/
  dropped : List Connection
deriving DecidableEq, Repr

namespace Drawing

def ofLayout (t : Topology) (l : Layout α) : Drawing α :=
  let vertices := environmentVertices t 2 l.environments
  { vertices
    edges := Cells.edges vertices (2 + vertices.length) t.connections
    dropped := t.connections.filter fun c => (ends? vertices c).isNone }

def components (d : Drawing α) : List Identity := d.vertices.filterMap (·.figure.identity?)

def stats (d : Drawing α) : Document.Stats :=
  ⟨d.components.length, d.edges.length, d.dropped.length⟩

end Drawing

/-! ## Pages -/

open Coordinate

def leastPage [Coordinate α] : Size α := ⟨ofCount 827, ofCount 1169⟩

/-- The page on which a layout has the same margins on opposite sides. -/
def page [Coordinate α] (l : Layout α) : Size α :=
  match l.bounds? with
  | none => leastPage
  | some b => Size.max ⟨roundUp (b.maxX + b.minX), roundUp (b.maxY + b.minY)⟩ leastPage

/-! ## Text -/

def coordinate (x : Float32) : String := Decimal.text32 .plain x

def geometryElement (x y width height : String) : Xml.Element :=
  .mk "mxGeometry"
    [("x", x), ("y", y), ("width", width), ("height", height), ("as", "geometry")] []

def Vertex.element (v : Vertex Float32) : Xml.Element :=
  let b := v.bounds
  .mk "mxCell"
    [("id", v.id.text), ("value", v.figure.label), ("style", v.figure.style), ("vertex", "1"),
      ("parent", v.parent.text)]
    [geometryElement (coordinate b.minX) (coordinate b.minY) (coordinate b.width)
      (coordinate b.height)]

def edgeStyle : String :=
  "edgeStyle=orthogonalEdgeStyle;rounded=0;orthogonalLoop=1;jettySize=auto;html=1;"
    ++ "strokeColor=#666666;strokeWidth=2;fontColor=#333333;fontSize=10;"

def Edge.element (e : Edge) : Xml.Element :=
  .mk "mxCell"
    [("id", e.id.text), ("value", e.connection.description), ("style", edgeStyle), ("edge", "1"),
      ("parent", CellId.layer.text), ("source", e.source.text), ("target", e.target.text)]
    [.mk "mxGeometry" [("relative", "1"), ("as", "geometry")] []]

def placeholderStyle : String :=
  "text;html=1;strokeColor=none;fillColor=none;align=center;verticalAlign=middle;whiteSpace=wrap;"
    ++ "rounded=0;fontSize=16;fontColor=#999999;"

/-- The element that stands in for a diagram without content. -/
def placeholderElement : Xml.Element :=
  .mk "mxCell"
    [("id", CellId.placeholder.text), ("value", Document.placeholder), ("style", placeholderStyle),
      ("vertex", "1"), ("parent", CellId.layer.text)]
    [geometryElement "300" "200" "200" "30"]

def baseElements : List Xml.Element :=
  [.mk "mxCell" [("id", CellId.root.text)] [],
    .mk "mxCell" [("id", CellId.layer.text), ("parent", CellId.root.text)] []]

def agent : String := "topofac 0.1.0"

def documentElement (name : String) (page : Size Float32) (cells : List Xml.Element) :
    Xml.Element :=
  .mk "mxfile" [("host", "topofac"), ("agent", agent), ("version", "24.0.0")]
    [.mk "diagram" [("name", name), ("id", "topology")]
      [.mk "mxGraphModel"
        [("dx", "2000"), ("dy", "1200"), ("grid", "1"), ("gridSize", "10"), ("guides", "1"),
          ("tooltips", "1"), ("connect", "1"), ("arrows", "1"), ("fold", "1"), ("page", "1"),
          ("pageScale", "1"), ("pageWidth", coordinate page.width),
          ("pageHeight", coordinate page.height), ("math", "0"), ("shadow", "0")]
        [.mk "root" [] (baseElements ++ cells)]]]

def render (t : Topology) (l : Layout Float32) : Document :=
  if t.isEmpty || l.isEmpty then
    { format := .drawIo
      content := Xml.document (documentElement t.name leastPage [placeholderElement])
      stats := {} }
  else
    let drawing := Drawing.ofLayout t l
    let cells := drawing.vertices.map (·.element) ++ drawing.edges.map (·.element)
    { format := .drawIo
      content := Xml.document (documentElement t.name (page l) cells)
      stats := drawing.stats }

end NetDiagram.Cells
