/-!
# Points, sizes and rectangles

The origin is the top left corner, and y grows downwards. Everything here is written for any type
of coordinates with the operations of `Coordinate`: diagrams are drawn in single precision, and the
same formulas can be read over the rational numbers.
-/

namespace NetDiagram

class Coordinate (α : Type) extends Add α, Sub α, Mul α, Div α where
  ofCount : Nat → α
  /-- The coordinate that every sum starts from: adding it to another leaves that as it is. -/
  neutral : α
  /-- The smaller of two; the second one if neither is. -/
  lesser : α → α → α
  /-- The larger of two; the second one if neither is. -/
  greater : α → α → α
  magnitude : α → α
  /-- The least whole coordinate that is not below. -/
  roundUp : α → α

/-- Single precision. Of a number and a value that is none, the number is the smaller and the larger
one. Zero without a sign is not neutral, because it takes the sign off a zero that has one. -/
instance : Coordinate Float32 where
  ofCount := Float32.ofNat
  neutral := -0.0
  lesser a b := if b.isNaN then a else if a < b then a else b
  greater a b := if b.isNaN then a else if b < a then a else b
  magnitude := Float32.abs
  roundUp := Float32.ceil

instance : Coordinate Rat where
  ofCount n := n
  neutral := 0
  lesser a b := if a < b then a else b
  greater a b := if b < a then a else b
  magnitude := Rat.abs
  roundUp x := x.ceil

open Coordinate

variable {α : Type} [Coordinate α]

structure Point (α : Type) where
  x : α
  y : α
deriving DecidableEq, Repr

namespace Point

def sub (p q : Point α) : Point α := ⟨p.x - q.x, p.y - q.y⟩

end Point

structure Size (α : Type) where
  width : α
  height : α
deriving DecidableEq, Repr

namespace Size

def max (s t : Size α) : Size α := ⟨greater s.width t.width, greater s.height t.height⟩

end Size

/-- A rectangle, by its least and greatest coordinates. -/
structure Bounds (α : Type) where
  minX : α
  minY : α
  maxX : α
  maxY : α
deriving DecidableEq, Repr

namespace Bounds

def ofTopLeft (corner : Point α) (size : Size α) : Bounds α where
  minX := corner.x
  minY := corner.y
  maxX := corner.x + size.width
  maxY := corner.y + size.height

def width (b : Bounds α) : α := b.maxX - b.minX

def height (b : Bounds α) : α := b.maxY - b.minY

def size (b : Bounds α) : Size α := ⟨b.width, b.height⟩

def corner (b : Bounds α) : Point α := ⟨b.minX, b.minY⟩

def center (b : Bounds α) : Point α :=
  ⟨(b.minX + b.maxX) / ofCount 2, (b.minY + b.maxY) / ofCount 2⟩

/-- The least rectangle that covers both. -/
def merge (b c : Bounds α) : Bounds α where
  minX := lesser b.minX c.minX
  minY := lesser b.minY c.minY
  maxX := greater b.maxX c.maxX
  maxY := greater b.maxY c.maxY

def shift (b : Bounds α) (offset : Point α) : Bounds α where
  minX := b.minX + offset.x
  minY := b.minY + offset.y
  maxX := b.maxX + offset.x
  maxY := b.maxY + offset.y

end Bounds

end NetDiagram
