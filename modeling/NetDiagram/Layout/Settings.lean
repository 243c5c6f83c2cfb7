import NetDiagram.Direction
import NetDiagram.Geometry

/-!
# Settings of the layout

The lengths from which every box is computed. All of them can be set; `defaults` holds the usual
ones.
-/

namespace NetDiagram.Layout

structure Settings (α : Type) where
  direction : Direction
  /-- Where the first environment starts. -/
  originX : α
  originY : α
  /-- The gap between two environments. -/
  environmentGap : α
  environmentPadding : α
  datacenterPadding : α
  datacenterSpacing : α
  areaPadding : α
  areaSpacing : α
  areaWidth : α
  /-- The height at the top of every group that its title takes. -/
  headerHeight : α
  componentWidth : α
  componentHeight : α
  componentSpacing : α
deriving DecidableEq, Repr

namespace Settings

open Coordinate

def defaults {α : Type} [Coordinate α] : Settings α where
  direction := .leftToRight
  originX := ofCount 50
  originY := ofCount 50
  environmentGap := ofCount 50
  environmentPadding := ofCount 20
  datacenterPadding := ofCount 20
  datacenterSpacing := ofCount 30
  areaPadding := ofCount 20
  areaSpacing := ofCount 30
  areaWidth := ofCount 220
  headerHeight := ofCount 40
  componentWidth := ofCount 140
  componentHeight := ofCount 40
  componentSpacing := ofCount 50

/-- The lengths by name, in the order in which they are checked. -/
def lengths {α : Type} (s : Settings α) : List (String × α) :=
  [("environment_gap", s.environmentGap),
    ("environment_padding", s.environmentPadding),
    ("datacenter_padding", s.datacenterPadding),
    ("datacenter_spacing", s.datacenterSpacing),
    ("area_padding", s.areaPadding),
    ("area_spacing", s.areaSpacing),
    ("area_width", s.areaWidth),
    ("header_height", s.headerHeight),
    ("component_width", s.componentWidth),
    ("component_height", s.componentHeight),
    ("component_spacing", s.componentSpacing)]

end Settings

end NetDiagram.Layout
