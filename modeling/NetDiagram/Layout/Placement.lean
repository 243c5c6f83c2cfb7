import NetDiagram.Layout.Box
import NetDiagram.Layout.Settings
import NetDiagram.Topology.Basic

/-!
# Placing the boxes of a topology

Sizes come from the inside: the components of an area stand below each other, the areas of a
datacenter beside each other, and the datacenters of an environment below each other. An
environment is as wide as its datacenter with the most areas needs, and all its datacenters are
equally wide. Positions come from the outside: every group has a title at its top, and its content
starts below.
-/

namespace NetDiagram.Layout

open Coordinate

variable {α : Type} [Coordinate α]

namespace Settings

/-! ## Sizes -/

/-- The size of an area with `n` components. Without any it is as high as with one. -/
def areaSize (s : Settings α) (n : Nat) : Size α where
  width := s.areaWidth
  height := s.headerHeight + ofCount 2 * s.areaPadding + ofCount (max n 1) * s.componentHeight
    + ofCount (n - 1) * s.componentSpacing

def datacenterHeight (s : Settings α) (d : Datacenter) : α :=
  let heights := d.areas.map fun a => (s.areaSize a.components.length).height
  s.headerHeight + ofCount 2 * s.datacenterPadding + heights.foldl greater (ofCount 0)

def columns (e : Environment) : Nat := (e.datacenters.map (·.areas.length)).foldl max 0

def environmentSize (s : Settings α) (e : Environment) : Size α where
  width := ofCount 2 * s.environmentPadding + ofCount 2 * s.datacenterPadding
    + ofCount (columns e) * s.areaWidth + ofCount (columns e - 1) * s.areaSpacing
  height := s.headerHeight + ofCount 2 * s.environmentPadding
    + (e.datacenters.map s.datacenterHeight).foldl (· + ·) neutral
    + ofCount (e.datacenters.length - 1) * s.datacenterSpacing

/-! ## Places inside an environment -/

/-- The boxes of the components of an area, below each other and centred in it. -/
def placeComponents (s : Settings α) (a : Area) : List (ComponentBox α) :=
  let x := greater ((s.areaWidth - s.componentWidth) / ofCount 2) (ofCount 0)
  a.components.zipIdx.map fun (id, row) =>
    let y := s.headerHeight + s.areaPadding
      + ofCount row * (s.componentHeight + s.componentSpacing)
    ⟨id, .ofTopLeft ⟨x, y⟩ ⟨s.componentWidth, s.componentHeight⟩⟩

/-- The boxes of the areas of a datacenter, beside each other. -/
def placeAreas (s : Settings α) (d : Datacenter) : List (AreaBox α) :=
  d.areas.zipIdx.map fun (a, column) =>
    let x := s.datacenterPadding + ofCount column * (s.areaWidth + s.areaSpacing)
    { name := a.name
      bounds := .ofTopLeft ⟨x, s.headerHeight + s.datacenterPadding⟩
        (s.areaSize a.components.length)
      components := s.placeComponents a }

/-- The boxes of datacenters of the given width, below each other from `y` on. -/
def placeDatacenters (s : Settings α) (width y : α) : List Datacenter → List (DatacenterBox α)
  | [] => []
  | d :: ds =>
    let height := s.datacenterHeight d
    { name := d.name
      bounds := .ofTopLeft ⟨s.environmentPadding, y⟩ ⟨width, height⟩
      areas := s.placeAreas d } ::
      s.placeDatacenters width (y + (height + s.datacenterSpacing)) ds

def placeEnvironment (s : Settings α) (corner : Point α) (e : Environment) : EnvironmentBox α :=
  let size := s.environmentSize e
  { name := e.name
    bounds := .ofTopLeft corner size
    datacenters := s.placeDatacenters (size.width - ofCount 2 * s.environmentPadding)
      (s.headerHeight + s.environmentPadding) e.datacenters }

/-! ## Environments -/

def advance (s : Settings α) (corner : Point α) (size : Size α) : Point α :=
  match s.direction with
  | .leftToRight => ⟨corner.x + size.width + s.environmentGap, corner.y⟩
  | .topToBottom => ⟨corner.x, corner.y + size.height + s.environmentGap⟩

def placeEnvironments (s : Settings α) (corner : Point α) :
    List Environment → List (EnvironmentBox α)
  | [] => []
  | e :: es =>
    let box := s.placeEnvironment corner e
    box :: s.placeEnvironments (s.advance corner box.bounds.size) es

def layout (s : Settings α) (t : Topology) : Layout α where
  direction := s.direction
  environments := s.placeEnvironments ⟨s.originX, s.originY⟩ t.environments

end Settings

end NetDiagram.Layout
