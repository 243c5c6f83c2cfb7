import NetDiagram.Proofs.Outline.Spots

/-!
# Arrows join the centres of their boxes

The boxes of a layout count from the boxes around them, and an arrow is drawn between two
rectangles that have been moved to absolute coordinates before. Where coordinates are rational
numbers nothing is lost on the way: an arrow starts in the middle of the last rectangle that has
been drawn for the source of its connection, and its tip is in the middle of that for the target.

* `extents`: the boxes that are drawn, at their absolute places.
* `drawnFor?`: the last of them that is drawn for a component, with its rectangle.
* `arrows_join_centers`: what every arrow joins, for every topology and layout.
-/

namespace NetDiagram.Proofs.Bonds
open Coordinate Scene Outline

variable {α β : Type}

/-! ## The boxes that are drawn -/

/-- A box in absolute coordinates, with the component that it is drawn for, if it is for one. -/
structure Extent (α : Type) where
  component? : Option Identity
  bounds : Bounds α

def extentOf (f : Frame α) : Extent α := ⟨f.component?, f.bounds⟩

theorem map_extentOf_flatMap {place : β → List (Placement α)} {inside : β → List (Extent α)}
    (each : ∀ b, ((place b).filterMap (·.frame?)).map extentOf = inside b) (bs : List β) :
    ((bs.flatMap place).filterMap (·.frame?)).map extentOf = bs.flatMap inside := by
  rw [List.filterMap_flatMap, List.map_flatMap]
  exact congrArg (bs.flatMap ·) (funext each)

section Extents

variable [Coordinate α] (t : Topology) (e : Layout.EnvironmentBox α)

def areaExtents (d : Layout.DatacenterBox α) (a : Layout.AreaBox α) : List (Extent α) :=
  ⟨none, e.absolute [d.bounds, a.bounds]⟩ ::
    (a.components.filter fun b => (t.component? b.id).isSome).map fun b =>
      ⟨some b.id, e.absolute [d.bounds, a.bounds, b.bounds]⟩

def datacenterExtents (d : Layout.DatacenterBox α) : List (Extent α) :=
  ⟨none, e.absolute [d.bounds]⟩ :: d.areas.flatMap (areaExtents t e d)

def environmentExtents : List (Extent α) :=
  ⟨none, e.bounds⟩ :: e.datacenters.flatMap (datacenterExtents t e)

def extents (l : Layout α) : List (Extent α) := l.environments.flatMap (environmentExtents t)

theorem map_extentOf_components (outer : Bounds α) (bs : List (Layout.ComponentBox α)) :
    ((bs.map (componentPlacement t outer)).filterMap (·.frame?)).map extentOf =
      (bs.filter fun b => (t.component? b.id).isSome).map fun b =>
        ⟨some b.id, Layout.within outer b.bounds⟩ := by
  induction bs with
  | nil => rfl
  | cons b bs ih =>
      rw [List.map_cons, componentPlacement, List.filter_cons]
      cases found : t.component? b.id with
      | none => exact ih
      | some c =>
          have same : some c.identity = some b.id :=
            congrArg some (Drawing.mem_of_component? found).2
          rw [if_pos Option.isSome_some, List.map_cons, ← ih, ← same]
          rfl

theorem map_extentOf_placements (l : Layout α) :
    ((placements t l).filterMap (·.frame?)).map extentOf = extents t l := by
  refine map_extentOf_flatMap (fun e => ?_) l.environments
  refine congrArg (List.cons _) (map_extentOf_flatMap (fun d => ?_) e.datacenters)
  refine congrArg (List.cons _) (map_extentOf_flatMap (fun a => ?_) d.areas)
  exact congrArg (List.cons _) (map_extentOf_components t _ a.components)

end Extents

/-! ## The rectangles for them -/

/-- An element is at the place of a box. -/
structure IsDrawnAt [Coordinate α] (x : Extent α) (r : Element α) : Prop where
  corner : r.corner = x.bounds.corner
  size : r.size = x.bounds.size

/-- The last box that is drawn for a component, with its rectangle, when every box has one. -/
def drawnFor? (xs : List (Extent α)) (rs : List (Element α)) (id : Identity) :
    Option (Extent α × Element α) :=
  (xs.zip rs).findRev? fun drawn => decide (drawn.1.component? = some id)

def extentsOf (bs : List (Box α)) : List (Extent α) := bs.map fun b => extentOf b.toFrame

section Rectangles

variable [Coordinate α]

theorem extentsOf_boxes (t : Topology) (l : Layout α) :
    extentsOf (Scene.ofLayout t l).boxes = extents t l := by
  have frames := Drawing.map_toFrame_number ((placements t l).filterMap (·.frame?))
  rw [← map_extentOf_placements, ← congrArg (List.map extentOf) frames, List.map_map]
  rfl

variable (bs : List (Box α)) (as : List (Arrow α))

theorem isDrawnAt_elementsOf :
    List.Forall₂ IsDrawnAt (extentsOf bs) (rectangles (elementsOf bs as)) := by
  rw [rectangles_elementsOf, extentsOf, List.forall₂_map_left_iff, List.forall₂_map_right_iff]
  exact List.forall₂_same.mpr fun b _ => ⟨rfl, rfl⟩

theorem drawnFor?_elementsOf (id : Identity) :
    drawnFor? (extentsOf bs) (rectangles (elementsOf bs as)) id =
      (node? bs id).map fun b => (extentOf b.toFrame, rectangleOf b (boundTo as b)) := by
  rw [rectangles_elementsOf, extentsOf, drawnFor?, node?, List.zip_map',
    List.findRev?_eq_find?_reverse, List.findRev?_eq_find?_reverse, ← List.map_reverse,
    List.find?_map]
  rfl

end Rectangles

/-! ## Arrows -/

def arrows (es : List (Element α)) : List (Element α) := es.filter fun e => e.id.kind = "arrow"

theorem arrows_elementsOf [Coordinate α] (bs : List (Box α)) (as : List (Arrow α)) :
    arrows (elementsOf bs as) = as.map (·.element) := by
  have boxes : arrows (bs.flatMap (·.elements as)) = [] := by
    rw [arrows, List.filter_flatMap]
    exact List.flatMap_eq_nil_iff.mpr fun b _ => rfl
  have drawn : arrows (as.map (·.element)) = as.map (·.element) := by
    rw [arrows, List.filter_eq_self]
    intro e member
    obtain ⟨a, -, rfl⟩ := List.mem_map.mp member
    rfl
  rw [arrows, elementsOf, List.filter_append, ← arrows, ← arrows, boxes, drawn, List.nil_append]

theorem forall₂_arrowsFrom (bs : List (Box α)) (index : Nat) (cs : List Connection) :
    List.Forall₂ (fun c a => ends? bs c = some (a.start, a.stop))
      (cs.filter fun c => (ends? bs c).isSome) (arrowsFrom bs index cs) := by
  induction cs generalizing index with
  | nil => exact .nil
  | cons c cs ih =>
      rw [arrowsFrom, List.filter_cons]
      cases found : ends? bs c with
      | none => exact ih index
      | some ends => exact .cons found (ih (index + 1))

def points [Coordinate α] : Shape α → List (Point α)
  | .arrow _ _ way => [⟨ofCount 0, ofCount 0⟩, way]
  | _ => []

def pointsJson (ps : List (Point Float32)) : Json :=
  .list (ps.map fun p => .list [coordinate p.x, coordinate p.y])

theorem points_mem_fields (start stop : Option ElementId) (way : Point Float32) :
    ("points", pointsJson (points (.arrow start stop way))) ∈
      (Shape.arrow start stop way).fields := by
  apply List.mem_of_getLast?
  rfl

def middle (e : Element Rat) : Point Rat :=
  ⟨e.corner.x + e.size.width / 2, e.corner.y + e.size.height / 2⟩

/-- An arrow leads from the middle of one element to the middle of another. -/
structure JoinsMiddles (r r' a : Element Rat) (tip : Point Rat) : Prop where
  bonds : a.shape = .arrow (some r.id) (some r'.id) tip
  points : points a.shape = [⟨0, 0⟩, tip]
  start : a.corner = middle r
  stop : (⟨a.corner.x + tip.x, a.corner.y + tip.y⟩ : Point Rat) = middle r'
  size : a.size = ⟨|tip.x|, |tip.y|⟩

theorem center_eq_middle (b : Box Rat) (bound : List ElementId) :
    b.center = middle (rectangleOf b bound) := by
  have half (x width : Rat) : (x + (x + width)) / 2 = x + width / 2 := by ring
  exact congrArg₂ Point.mk (half _ _) (half _ _)

theorem magnitude_eq_abs (x : Rat) : magnitude x = |x| := by
  change x.abs = |x|
  rcases le_total 0 x with positive | negative
  · rw [Rat.abs_of_nonneg positive, abs_of_nonneg positive]
  · rw [Rat.abs_of_nonpos negative, abs_of_nonpos negative]

theorem joinsMiddles_element (a : Arrow Rat) (bound bound' : List ElementId) :
    JoinsMiddles (rectangleOf a.start bound) (rectangleOf a.stop bound') a.element a.way where
  bonds := rfl
  points := rfl
  start := center_eq_middle a.start bound
  stop := by
    rw [← center_eq_middle a.stop bound']
    exact congrArg₂ Point.mk (add_sub_cancel a.start.center.x a.stop.center.x)
      (add_sub_cancel a.start.center.y a.stop.center.y)
  size := by
    change a.bounds.size = _
    rw [Arrow.bounds, Bounds.size, Placing.width_ofTopLeft, Placing.height_ofTopLeft,
      magnitude_eq_abs, magnitude_eq_abs]

/-- An arrow joins the middles of the last rectangles that are drawn for the ends of a connection,
and these are at the places of their boxes. -/
def IsArrowFor (xs : List (Extent Rat)) (rs : List (Element Rat)) (c : Connection)
    (a : Element Rat) : Prop :=
  ∃ x r x' r' tip, drawnFor? xs rs c.source = some (x, r) ∧
    drawnFor? xs rs c.target = some (x', r') ∧ IsDrawnAt x r ∧ IsDrawnAt x' r' ∧
    JoinsMiddles r r' a tip

theorem isArrowFor_element {bs : List (Box Rat)} {c : Connection} {a : Arrow Rat}
    (found : ends? bs c = some (a.start, a.stop)) (as : List (Arrow Rat)) :
    IsArrowFor (extentsOf bs) (rectangles (elementsOf bs as)) c a.element := by
  obtain ⟨start, stop⟩ := Drawing.both?_eq_some found
  refine ⟨extentOf a.start.toFrame, rectangleOf a.start (boundTo as a.start),
    extentOf a.stop.toFrame, rectangleOf a.stop (boundTo as a.stop), a.way, ?_, ?_,
    ⟨rfl, rfl⟩, ⟨rfl, rfl⟩, joinsMiddles_element a _ _⟩
  · rw [drawnFor?_elementsOf, start, Option.map_some]
  · rw [drawnFor?_elementsOf, stop, Option.map_some]

/-! ## The statement -/

/-- Every box that is drawn has a rectangle, and every connection with both ends drawn an arrow
from the middle of one to the middle of the other. -/
structure JoinsCenters (t : Topology) (l : Layout Rat) (es : List (Element Rat)) : Prop where
  names : (es.map (·.id.written)).Nodup
  rectangles : List.Forall₂ IsDrawnAt (extents t l) (rectangles es)
  arrows : List.Forall₂ (IsArrowFor (extents t l) (Outline.rectangles es))
    (t.connections.filter fun c =>
      (drawnFor? (extents t l) (Outline.rectangles es) c.source).isSome &&
        (drawnFor? (extents t l) (Outline.rectangles es) c.target).isSome)
    (arrows es)

theorem joinsCenters_ofLayout (t : Topology) (l : Layout Rat) :
    JoinsCenters t l (Scene.ofLayout t l).elements := by
  let bs := (Scene.ofLayout t l).boxes
  let as := (Scene.ofLayout t l).arrows
  have elements : (Scene.ofLayout t l).elements = elementsOf bs as := rfl
  have boxes : extents t l = extentsOf bs := (extentsOf_boxes t l).symm
  have both (c : Connection) :
      ((drawnFor? (extentsOf bs) (rectangles (elementsOf bs as)) c.source).isSome &&
        (drawnFor? (extentsOf bs) (rectangles (elementsOf bs as)) c.target).isSome) =
      (ends? bs c).isSome := by
    rw [drawnFor?_elementsOf, drawnFor?_elementsOf, Option.isSome_map, Option.isSome_map]
    exact Drawing.isSome_both?.symm
  refine ⟨(isConsistent_ofLayout t l).names, ?_, ?_⟩
  · rw [boxes, elements]
    exact isDrawnAt_elementsOf bs as
  · rw [boxes, elements, arrows_elementsOf, List.forall₂_map_right_iff]
    simp only [both]
    exact (forall₂_arrowsFrom bs _ t.connections).imp fun c a found => isArrowFor_element found as

/-- Every document is put together from elements that are drawn for it step by step. Among them is
one arrow for every connection of which both ends are drawn, from the middle of its source to the
middle of its target. -/
theorem arrows_join_centers (t : Topology) :
    (∀ (start stop : Option ElementId) (way : Point Float32),
      ("points", pointsJson (points (.arrow start stop way))) ∈
        (Shape.arrow start stop way).fields) ∧
      ∀ l : Layout Rat, ∃ es, draw t l = some es ∧
        if t.isEmpty || l.isEmpty then es = [placeholderElement] else JoinsCenters t l es := by
  refine ⟨points_mem_fields, fun l => ?_⟩
  rw [draw]
  split
  · exact ⟨_, rfl, rfl⟩
  · exact ⟨_, assemble_eq t l, joinsCenters_ofLayout t l⟩

end NetDiagram.Proofs.Bonds
