import NetDiagram.Direction
import NetDiagram.Geometry
import NetDiagram.Path

/-!
# Boxes

A layout is a tree of boxes with the shape of the tree of a topology. The box of an environment has
absolute coordinates, and every other box counts from the corner of the box around it.
-/

namespace NetDiagram

namespace Layout

/-- The box of a component, relative to its area. -/
structure ComponentBox (α : Type) where
  id : Identity
  bounds : Bounds α
deriving DecidableEq, Repr

/-- The box of an area, relative to its datacenter. -/
structure AreaBox (α : Type) where
  name : String
  bounds : Bounds α
  components : List (ComponentBox α)
deriving DecidableEq, Repr

/-- The box of a datacenter, relative to its environment. -/
structure DatacenterBox (α : Type) where
  name : String
  bounds : Bounds α
  areas : List (AreaBox α)
deriving DecidableEq, Repr

/-- The box of an environment, in absolute coordinates. -/
structure EnvironmentBox (α : Type) where
  name : String
  bounds : Bounds α
  datacenters : List (DatacenterBox α)
deriving DecidableEq, Repr

/-- A box that counts from the corner of `outer`, moved to where `outer` counts from. -/
def within {α : Type} [Coordinate α] (outer inner : Bounds α) : Bounds α :=
  inner.shift outer.corner

/-- Resolves a chain of boxes, each relative to the one before and the first to the environment, to
the absolute place of the last. -/
def EnvironmentBox.absolute {α : Type} [Coordinate α] (e : EnvironmentBox α)
    (chain : List (Bounds α)) : Bounds α :=
  chain.foldl within e.bounds

end Layout

structure Layout (α : Type) where
  direction : Direction
  environments : List (Layout.EnvironmentBox α)
deriving DecidableEq, Repr

namespace Layout

variable {α : Type}

def isEmpty (l : Layout α) : Bool := l.environments.isEmpty

def components (l : Layout α) : List (ComponentBox α) :=
  l.environments.flatMap fun e => e.datacenters.flatMap fun d => d.areas.flatMap (·.components)

def bounds? [Coordinate α] (l : Layout α) : Option (Bounds α) :=
  match l.environments with
  | [] => none
  | e :: es => some (es.foldl (fun b e => b.merge e.bounds) e.bounds)

end Layout

end NetDiagram
