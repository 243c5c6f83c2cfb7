import NetDiagram.Document.Basic
import NetDiagram.Layout.Box
import NetDiagram.Topology.Basic

/-!
# Scenes for Excalidraw

A scene has no groups: every box of a layout becomes a rectangle in absolute coordinates with a
label, and every connection between two rectangles an arrow from centre to centre. A label belongs
to its rectangle and an arrow to the two rectangles it joins, and both sides say so. The elements
of a scene, with their names and both sides of these bonds, are read off its boxes and arrows: the
rectangle and the label of each box come first, box by box, and then the arrows.
-/

namespace NetDiagram.Scene

open Coordinate

variable {α : Type}

/-! ## Elements -/

inductive ElementId where
  | rectangle (index : Nat)
  | text (index : Nat)
  | arrow (index : Nat)
deriving DecidableEq, Repr

namespace ElementId

/-- The place among all elements, from zero. -/
def index : ElementId → Nat
  | rectangle i => i
  | text i => i
  | arrow i => i

def kind : ElementId → String
  | rectangle _ => "rectangle"
  | text _ => "text"
  | arrow _ => "arrow"

def written : ElementId → String
  | rectangle i => "rect_" ++ toString i
  | text i => "text_" ++ toString i
  | arrow i => "arrow_" ++ toString i

end ElementId

inductive Shape (α : Type) where
  | rectangle
  /-- A text, which may be the label of a rectangle. -/
  | text (content : String) (container : Option ElementId)
  /-- An arrow with the rectangles that it joins, and the way from its start to its tip. -/
  | arrow (start stop : Option ElementId) (way : Point α)
deriving DecidableEq, Repr

structure Element (α : Type) where
  id : ElementId
  shape : Shape α
  corner : Point α
  size : Size α
  stroke : String
  /-- The labels and arrows that belong to the element. -/
  bound : List ElementId
deriving DecidableEq, Repr

/-! ## Boxes and arrows -/

/-- A labelled frame in absolute coordinates. -/
structure Frame (α : Type) where
  bounds : Bounds α
  stroke : String
  label : String
  /-- The component that the frame shows, if it is not a group. -/
  component? : Option Identity
deriving DecidableEq, Repr

structure Box (α : Type) extends Frame α where
  number : Nat
deriving DecidableEq, Repr

def ink : String := "#1e1e1e"

namespace Box

def rectangle (b : Box α) : ElementId := .rectangle (2 * b.number)

def text (b : Box α) : ElementId := .text (2 * b.number + 1)

variable [Coordinate α]

def labelBounds (b : Box α) : Bounds α :=
  .ofTopLeft ⟨b.bounds.minX, b.bounds.minY + ofCount 8⟩ ⟨b.bounds.width, ofCount 24⟩

/-- The middle of the rectangle as it is drawn, from its corner and its size. -/
def center (b : Box α) : Point α := (Bounds.ofTopLeft b.bounds.corner b.bounds.size).center

end Box

structure Arrow (α : Type) where
  index : Nat
  connection : Connection
  start : Box α
  stop : Box α
deriving DecidableEq, Repr

namespace Arrow

def id (a : Arrow α) : ElementId := .arrow a.index

def touches (a : Arrow α) (b : Box α) : Bool :=
  a.start.number == b.number || a.stop.number == b.number

variable [Coordinate α]

def way (a : Arrow α) : Point α := a.stop.center.sub a.start.center

/-- The rectangle that starts in the middle of the first box and is as large as the way. -/
def bounds (a : Arrow α) : Bounds α :=
  .ofTopLeft a.start.center ⟨magnitude a.way.x, magnitude a.way.y⟩

end Arrow

/-! ## Drawing a layout -/

inductive Placement (α : Type) where
  | draw (frame : Frame α)
  /-- A box of an unknown component is left out. -/
  | skip (id : Identity)
deriving DecidableEq, Repr

def Placement.frame? : Placement α → Option (Frame α)
  | draw frame => some frame
  | skip _ => none

section

variable [Coordinate α]

def componentPlacement (t : Topology) (outer : Bounds α) (b : Layout.ComponentBox α) :
    Placement α :=
  match t.component? b.id with
  | some c =>
    .draw ⟨Layout.within outer b.bounds, c.kind.appearance.stroke, c.name, some c.identity⟩
  | none => .skip b.id

def areaPlacements (t : Topology) (outer : Bounds α) (a : Layout.AreaBox α) :
    List (Placement α) :=
  let bounds := Layout.within outer a.bounds
  .draw ⟨bounds, "#A5D6A7", a.name, none⟩ :: a.components.map (componentPlacement t bounds)

def datacenterPlacements (t : Topology) (outer : Bounds α) (d : Layout.DatacenterBox α) :
    List (Placement α) :=
  let bounds := Layout.within outer d.bounds
  .draw ⟨bounds, "#E1BEE7", d.name, none⟩ :: d.areas.flatMap (areaPlacements t bounds)

def environmentPlacements (t : Topology) (e : Layout.EnvironmentBox α) : List (Placement α) :=
  .draw ⟨e.bounds, "#90CAF9", e.name, none⟩ ::
    e.datacenters.flatMap (datacenterPlacements t e.bounds)

def placements (t : Topology) (l : Layout α) : List (Placement α) :=
  l.environments.flatMap (environmentPlacements t)

end

def number (frames : List (Frame α)) : List (Box α) :=
  frames.zipIdx.map fun (frame, number) => { toFrame := frame, number }

/-- The box of a component, the last one if there are several. -/
def node? (boxes : List (Box α)) (id : Identity) : Option (Box α) :=
  boxes.findRev? fun b => decide (b.component? = some id)

def ends? (boxes : List (Box α)) (c : Connection) : Option (Box α × Box α) := do
  let start ← node? boxes c.source
  let stop ← node? boxes c.target
  return (start, stop)

/-- The arrows for connections, with places from `index` on. -/
def arrowsFrom (boxes : List (Box α)) (index : Nat) : List Connection → List (Arrow α)
  | [] => []
  | c :: cs =>
    match ends? boxes c with
    | none => arrowsFrom boxes index cs
    | some (start, stop) => ⟨index, c, start, stop⟩ :: arrowsFrom boxes (index + 1) cs

end Scene

structure Scene (α : Type) where
  boxes : List (Scene.Box α)
  arrows : List (Scene.Arrow α)
  /-- The connections that have no arrow. -/
  dropped : List Connection
deriving DecidableEq, Repr

namespace Scene

open Coordinate

variable {α : Type}

def ofLayout [Coordinate α] (t : Topology) (l : Layout α) : Scene α :=
  let boxes := number ((placements t l).filterMap (·.frame?))
  { boxes
    arrows := arrowsFrom boxes (2 * boxes.length) t.connections
    dropped := t.connections.filter fun c => (ends? boxes c).isNone }

/-- The identities of the components that are drawn, each once. -/
def components (s : Scene α) : List Identity := (s.boxes.filterMap (·.component?)).eraseDups

def stats (s : Scene α) : Document.Stats :=
  ⟨s.components.length, s.arrows.length, s.dropped.length⟩

/-! ## The elements of a scene -/

variable [Coordinate α]

def Element.ofBounds (id : ElementId) (shape : Shape α) (bounds : Bounds α) (stroke : String)
    (bound : List ElementId) : Element α :=
  ⟨id, shape, bounds.corner, bounds.size, stroke, bound⟩

/-- The rectangle and the label of a box. The label and every arrow at the box belong to the
rectangle. -/
def Box.elements (arrows : List (Arrow α)) (b : Box α) : List (Element α) :=
  let touching := arrows.filter (·.touches b)
  [.ofBounds b.rectangle .rectangle b.bounds b.stroke (b.text :: touching.map (·.id)),
    .ofBounds b.text (.text b.label (some b.rectangle)) b.labelBounds ink []]

def Arrow.element (a : Arrow α) : Element α :=
  .ofBounds a.id (.arrow (some a.start.rectangle) (some a.stop.rectangle) a.way) a.bounds ink []

def elements (s : Scene α) : List (Element α) :=
  s.boxes.flatMap (·.elements s.arrows) ++ s.arrows.map (·.element)

def placeholderElement : Element α :=
  .ofBounds (.text 0) (.text Document.placeholder none)
    (.ofTopLeft ⟨ofCount 300, ofCount 200⟩ ⟨ofCount 200, ofCount 30⟩) ink []

end Scene

end NetDiagram
