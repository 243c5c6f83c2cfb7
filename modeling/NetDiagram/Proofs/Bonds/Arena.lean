import NetDiagram.Document.SceneJson
import NetDiagram.Proofs.Drawing.Scene

/-!
# Scenes put together step by step

A scene can be put together in one list that only grows, in which elements refer to each other by
their places. A rectangle is pushed and then its label, and the two are bound to each other. An
arrow is pushed after it has been read off the list where its ends are, and then the arrow and its
ends are bound to each other, once if the ends are the same. No step may refer to a place that is
not there.

* `assemble`, `draw`: all steps for a topology and a layout.
* `place_draftOf`, `foldlM_place`: what the first half of them does, box by box.
-/

namespace NetDiagram.Proofs.Bonds
open Coordinate Scene

variable {α : Type}

/-! ## Steps -/

abbrev Arena (α : Type) := List (Element α)

def nameOf : Shape α → Nat → ElementId
  | .rectangle => .rectangle
  | .text _ _ => .text
  | .arrow _ _ _ => .arrow

def setContainer (container : ElementId) (e : Element α) : Element α :=
  match e.shape with
  | .text content _ => { e with shape := .text content (some container) }
  | _ => e

def setEnds (start stop : ElementId) (e : Element α) : Element α :=
  match e.shape with
  | .arrow _ _ way => { e with shape := .arrow (some start) (some stop) way }
  | _ => e

def addBound (id : ElementId) (e : Element α) : Element α := { e with bound := e.bound ++ [id] }

def addBoundOnce (id : ElementId) (e : Element α) : Element α :=
  if id ∈ e.bound then e else addBound id e

def bindLabel (es : Arena α) (container label : Nat) : Option (Arena α) := do
  let outer ← es[container]?
  let inner ← es[label]?
  return (es.modify label (setContainer outer.id)).modify container (addBound inner.id)

def bindEnds (id : ElementId) (start stop : Nat) (es : Arena α) : Arena α :=
  (es.modify start (addBoundOnce id)).modify stop (addBoundOnce id)

def bindArrow (es : Arena α) (arrow start stop : Nat) : Option (Arena α) := do
  let bound ← es[arrow]?
  let first ← es[start]?
  let last ← es[stop]?
  return bindEnds bound.id start stop (es.modify arrow (setEnds first.id last.id))

section Steps

variable [Coordinate α]

def push (es : Arena α) (shape : Shape α) (bounds : Bounds α) (stroke : String) : Arena α :=
  es ++ [.ofBounds (nameOf shape es.length) shape bounds stroke []]

def pushFrame (es : Arena α) (f : Frame α) : Option (Arena α) :=
  let framed := push es .rectangle f.bounds f.stroke
  let labelled := push framed (.text f.label none)
    (.ofTopLeft ⟨f.bounds.minX, f.bounds.minY + ofCount 8⟩ ⟨f.bounds.width, ofCount 24⟩) ink
  bindLabel labelled es.length framed.length

structure Draft (α : Type) where
  elements : Arena α := []
  rectangles : Identity → Option Nat := fun _ => none

/-- Draws the box of a layout. Another box of the same component takes the place of this one. -/
def place (draft : Draft α) : Placement α → Option (Draft α)
  | .skip _ => some draft
  | .draw f => do
    let elements ← pushFrame draft.elements f
    return ⟨elements, fun id =>
      if f.component? = some id then some draft.elements.length else draft.rectangles id⟩

def centerOf (e : Element α) : Point α := (Bounds.ofTopLeft e.corner e.size).center

/-- Draws a connection, if both ends have a rectangle. -/
def connect (rectangles : Identity → Option Nat) (es : Arena α) (c : Connection) :
    Option (Arena α) :=
  match rectangles c.source, rectangles c.target with
  | some start, some stop => do
    let first ← es[start]?
    let last ← es[stop]?
    let way := (centerOf last).sub (centerOf first)
    let bounds := Bounds.ofTopLeft (centerOf first) ⟨magnitude way.x, magnitude way.y⟩
    bindArrow (push es (.arrow none none way) bounds ink) es.length start stop
  | _, _ => some es

def assemble (t : Topology) (l : Layout α) : Option (Arena α) := do
  let draft ← (placements t l).foldlM place {}
  t.connections.foldlM (connect draft.rectangles) draft.elements

/-- Draws a topology by a layout, or a placeholder if there is nothing to draw. -/
def draw (t : Topology) (l : Layout α) : Option (Arena α) :=
  if t.isEmpty || l.isEmpty then
    some (push [] (.text Document.placeholder none)
      (.ofTopLeft ⟨ofCount 300, ofCount 200⟩ ⟨ofCount 200, ofCount 30⟩) ink)
  else
    assemble t l

end Steps

/-! ## Frames -/

theorem modify_append {β : Type} (xs ys : List β) (i : Nat) (f : β → β) :
    (xs ++ ys).modify (xs.length + i) f = xs ++ ys.modify i f := by
  induction xs with
  | nil => simp
  | cons x xs ih => simp [Nat.add_right_comm, ih]

theorem bindLabel_append (es : Arena α) (r l : Element α) :
    bindLabel (es ++ [r, l]) es.length (es.length + 1) =
      some (es ++ [addBound l.id r, setContainer r.id l]) := by
  have label := modify_append es [r, l] 1 (setContainer r.id)
  have rectangle := modify_append es [r, setContainer r.id l] 0 (addBound l.id)
  simp only [List.modify_succ_cons, List.modify_zero_cons, Nat.add_zero] at label rectangle
  simp [bindLabel, label, rectangle]

theorem length_number (fs : List (Frame α)) : (number fs).length = fs.length := by
  simp [number]

theorem number_append (fs : List (Frame α)) (f : Frame α) :
    number (fs ++ [f]) = number fs ++ [{ toFrame := f, number := fs.length }] := by
  simp [number, List.zipIdx_append]

theorem node?_append (bs : List (Box α)) (b : Box α) (id : Identity) :
    node? (bs ++ [b]) id = if b.component? = some id then some b else node? bs id := by
  rw [node?, List.findRev?_eq_find?_reverse, List.reverse_concat, List.find?_cons,
    ← List.findRev?_eq_find?_reverse]
  by_cases shows : b.component? = some id <;> simp [shows, node?]

section Frames

variable [Coordinate α]

theorem pushFrame_eq (es : Arena α) (f : Frame α) {n : Nat} (size : es.length = 2 * n) :
    pushFrame es f = some (es ++ Box.elements [] { toFrame := f, number := n }) := by
  have next : (push es .rectangle f.bounds f.stroke).length = es.length + 1 := by simp [push]
  have all (e : Element α) : push es .rectangle f.bounds f.stroke ++ [e] =
      es ++ [.ofBounds (.rectangle es.length) .rectangle f.bounds f.stroke [], e] := by
    simp [push, nameOf]
  rw [pushFrame, push, all, next, bindLabel_append, size]
  rfl

theorem length_elements (bs : List (Box α)) (as : List (Arrow α)) :
    (bs.flatMap (·.elements as)).length = 2 * bs.length := by
  induction bs with
  | nil => rfl
  | cons b bs ih =>
      rw [List.flatMap_cons, List.length_append, ih, List.length_cons]
      change 2 + _ = _
      omega

def draftOf (fs : List (Frame α)) : Draft α where
  elements := (number fs).flatMap (·.elements [])
  rectangles id := (node? (number fs) id).map (2 * ·.number)

theorem place_draftOf (fs : List (Frame α)) (p : Placement α) :
    place (draftOf fs) p = some (draftOf (fs ++ p.frame?.toList)) := by
  cases p with
  | skip id => simp [place, Placement.frame?]
  | draw f =>
      have size : (draftOf fs).elements.length = 2 * fs.length := by
        rw [draftOf, length_elements, length_number]
      rw [place, pushFrame_eq _ f size, size]
      simp only [draftOf, Placement.frame?, Option.toList_some, number_append,
        List.flatMap_append, List.flatMap_singleton, node?_append, apply_ite (Option.map _)]
      rfl

theorem foldlM_place (fs : List (Frame α)) (ps : List (Placement α)) :
    ps.foldlM place (draftOf fs) = some (draftOf (fs ++ ps.filterMap (·.frame?))) := by
  induction ps generalizing fs with
  | nil => simp
  | cons p ps ih =>
      rw [List.foldlM_cons, place_draftOf]
      simp only [Option.bind_eq_bind, Option.bind_some, ih]
      cases p <;> simp [Placement.frame?]

end Frames

end NetDiagram.Proofs.Bonds
