import Mathlib.Data.List.Forall2
import NetDiagram.Proofs.Bonds.Consistency
import NetDiagram.Proofs.Outline.Cells
import NetDiagram.Proofs.Placing.Margins

/-!
# The same boxes at the same spots

A draw.io drawing keeps every box relative to the box around it and says which one that is. A scene
has no groups and moves every box to absolute coordinates. Both leave out the boxes of unknown
components, so they draw the same boxes, in the same order and with the same labels. The sum of
the offsets of a vertex and of all vertices around it is the corner of the rectangle.

* `Spot`, `spots`: the boxes that are drawn, each with the way to it from its environment.
* `Chain`: the boxes of the vertices from the layer down to a cell.
* `SameSpots`: what it is for vertices and elements to draw the same spots.
* `sameSpots_ofLayout`: those of every drawing and scene do.
-/

namespace NetDiagram.Proofs.Outline
open Cells Drawing Bonds Coordinate

variable {α β : Type}

/-! ## Spots -/

structure Spot (α : Type) where
  label : String
  environment : Layout.EnvironmentBox α
  /-- The boxes from inside the environment down to the one that is drawn. -/
  chain : List (Bounds α)

namespace Spot

def stored (s : Spot α) : Bounds α := s.chain.getLastD s.environment.bounds

def absolute [Coordinate α] (s : Spot α) : Bounds α := s.environment.absolute s.chain

end Spot

section Spots

variable (t : Topology) (e : Layout.EnvironmentBox α) (outer : List (Bounds α))

def componentSpots (b : Layout.ComponentBox α) : List (Spot α) :=
  match t.component? b.id with
  | none => []
  | some c => [⟨c.name, e, outer ++ [b.bounds]⟩]

def areaSpots (a : Layout.AreaBox α) : List (Spot α) :=
  let chain := outer ++ [a.bounds]
  ⟨a.name, e, chain⟩ :: a.components.flatMap (componentSpots t e chain)

def datacenterSpots (d : Layout.DatacenterBox α) : List (Spot α) :=
  let chain := outer ++ [d.bounds]
  ⟨d.name, e, chain⟩ :: d.areas.flatMap (areaSpots t e chain)

def environmentSpots : List (Spot α) :=
  ⟨e.name, e, []⟩ :: e.datacenters.flatMap (datacenterSpots t e [])

def spots (l : Layout α) : List (Spot α) := l.environments.flatMap (environmentSpots t)

end Spots

/-! ## Chains of vertices -/

/-- The boxes of the vertices from the layer down to the cell with a name. -/
inductive Chain (vertices : List (Vertex α)) : CellId → List (Bounds α) → Prop
  | layer : Chain vertices .layer []
  | vertex {v : Vertex α} {outer : List (Bounds α)} :
      v ∈ vertices → Chain vertices v.parent outer → Chain vertices v.id (outer ++ [v.bounds])

variable {vertices : List (Vertex α)}

theorem chain_cases {id : CellId} {bs : List (Bounds α)} (chain : Chain vertices id bs) :
    (id = .layer ∧ bs = []) ∨
      ∃ v ∈ vertices, ∃ outer, id = v.id ∧ Chain vertices v.parent outer ∧
        bs = outer ++ [v.bounds] := by
  cases chain with
  | layer => exact .inl ⟨rfl, rfl⟩
  | vertex member above => exact .inr ⟨_, member, _, rfl, above, rfl⟩

theorem id_ne_layer (v : Vertex α) : v.id ≠ .layer := by
  rw [Vertex.id]
  cases v.figure <;> exact CellId.noConfusion

theorem Chain.unique (distinct : (vertices.map (·.id)).Nodup) {id : CellId}
    {bs cs : List (Bounds α)} (chain : Chain vertices id bs) (other : Chain vertices id cs) :
    cs = bs := by
  induction chain generalizing cs with
  | layer =>
      obtain ⟨-, rfl⟩ | ⟨v, -, -, layer, -⟩ := chain_cases other
      · rfl
      · exact absurd layer.symm (id_ne_layer v)
  | vertex member above ih =>
      obtain ⟨layer, -⟩ | ⟨w, member', outer, same, above', rfl⟩ := chain_cases other
      · exact absurd layer (id_ne_layer _)
      · cases eq_of_nodup_map distinct member member' same.symm
        rw [ih above']

theorem nodup_map_id_vertices (t : Topology) (l : Layout α) :
    ((Drawing.ofLayout t l).vertices.map (·.id)).Nodup :=
  nodup_map_of_nodup_map nodup_map_text_vertices fun _ _ same => congrArg CellId.text same

/-! ## The vertices at the spots -/

/-- A vertex has the label and the box of a spot, and the chain to the spot leads to it. -/
structure LiesAt (vertices : List (Vertex α)) (s : Spot α) (v : Vertex α) : Prop where
  label : v.figure.label = s.label
  bounds : v.bounds = s.stored
  chain : Chain vertices v.id (s.environment.bounds :: s.chain)

/-- No other chain leads to the vertex. -/
structure IsVertexAt (vertices : List (Vertex α)) (s : Spot α) (v : Vertex α) : Prop
    extends LiesAt vertices s v where
  unique : ∀ bs, Chain vertices v.id bs → bs = s.environment.bounds :: s.chain

theorem forall₂_of_inTurn {draws : β → List (Vertex α) → Prop} {inside : β → List (Spot α)}
    (each : ∀ b vs, vs ⊆ vertices → draws b vs → List.Forall₂ (LiesAt vertices) (inside b) vs)
    {bs : List β} {vs : List (Vertex α)} (known : vs ⊆ vertices) (parts : InTurn draws bs vs) :
    List.Forall₂ (LiesAt vertices) (bs.flatMap inside) vs := by
  induction parts with
  | nil => exact .nil
  | cons drawn _ ih =>
      rw [List.append_subset] at known
      rw [List.flatMap_cons]
      exact List.rel_append (each _ _ known.1 drawn) (ih known.2)

section Vertices

variable {t : Topology} {e : Layout.EnvironmentBox α} {parent : CellId} {outer : List (Bounds α)}
  (chain : Chain vertices parent (e.bounds :: outer))
include chain

theorem forall₂_of_draws {figure : Figure} {bounds : Bounds α}
    {inside : CellId → List (Vertex α) → Prop} {within : List (Spot α)} {vs : List (Vertex α)}
    (known : vs ⊆ vertices) (drawn : vertexView.Draws parent figure bounds inside vs)
    (inner : ∀ id ws, ws ⊆ vertices → Chain vertices id (e.bounds :: (outer ++ [bounds])) →
      inside id ws → List.Forall₂ (LiesAt vertices) within ws) :
    List.Forall₂ (LiesAt vertices) (⟨figure.label, e, outer ++ [bounds]⟩ :: within) vs := by
  obtain ⟨-, v, ws, rfl, ⟨rfl, rfl, rfl, rfl⟩, below⟩ := drawn
  rw [List.cons_subset] at known
  have here : Chain vertices v.id (e.bounds :: (outer ++ [v.bounds])) := .vertex known.1 chain
  have last : v.bounds = (outer ++ [v.bounds]).getLastD e.bounds := by simp
  exact .cons ⟨rfl, last, here⟩ (inner v.id ws known.2 here below)

theorem forall₂_component (b : Layout.ComponentBox α) (vs : List (Vertex α))
    (known : vs ⊆ vertices) (drawn : vertexView.DrawsComponent t parent b vs) :
    List.Forall₂ (LiesAt vertices) (componentSpots t e outer b) vs := by
  rw [View.DrawsComponent] at drawn
  rw [componentSpots]
  cases found : t.component? b.id with
  | none =>
      rw [found] at drawn
      rw [drawn]
      exact .nil
  | some c =>
      rw [found] at drawn
      refine forall₂_of_draws chain known drawn fun _ ws _ _ none => ?_
      rw [none]
      exact .nil

theorem forall₂_area (a : Layout.AreaBox α) (vs : List (Vertex α)) (known : vs ⊆ vertices)
    (drawn : vertexView.DrawsArea t parent a vs) :
    List.Forall₂ (LiesAt vertices) (areaSpots t e outer a) vs :=
  forall₂_of_draws chain known drawn fun _ _ known' chain' parts =>
    forall₂_of_inTurn (forall₂_component chain') known' parts

theorem forall₂_datacenter (d : Layout.DatacenterBox α) (vs : List (Vertex α))
    (known : vs ⊆ vertices) (drawn : vertexView.DrawsDatacenter t parent d vs) :
    List.Forall₂ (LiesAt vertices) (datacenterSpots t e outer d) vs :=
  forall₂_of_draws chain known drawn fun _ _ known' chain' parts =>
    forall₂_of_inTurn (forall₂_area chain') known' parts

end Vertices

theorem forall₂_environment {t : Topology} (e : Layout.EnvironmentBox α) (vs : List (Vertex α))
    (known : vs ⊆ vertices) (drawn : vertexView.DrawsEnvironment t e vs) :
    List.Forall₂ (LiesAt vertices) (environmentSpots t e) vs := by
  -- The vertex of an environment counts from the layer, which has no box.
  obtain ⟨-, v, ws, rfl, ⟨layer, figure, bounds, rfl⟩, below⟩ := drawn
  rw [List.cons_subset] at known
  have above : Chain vertices v.parent [] := layer ▸ .layer
  have here : Chain vertices v.id [e.bounds] := bounds ▸ .vertex known.1 above
  exact .cons ⟨congrArg Figure.label figure, bounds, here⟩
    (forall₂_of_inTurn (forall₂_datacenter here) known.2 below)

theorem forall₂_vertices (t : Topology) (l : Layout α) :
    List.Forall₂ (LiesAt (Drawing.ofLayout t l).vertices) (spots t l)
      (Drawing.ofLayout t l).vertices :=
  forall₂_of_inTurn forall₂_environment (List.Subset.refl _) (inTurn_vertices t l)

/-! ## The rectangles at the spots -/

section Scene

open Scene

variable [Coordinate α]

def rectangles (es : List (Element α)) : List (Element α) :=
  es.filter fun e => e.id.kind = "rectangle"

def content? (e : Element α) : Option String :=
  match e.shape with
  | .text content _ => some content
  | _ => none

def container? (e : Element α) : Option ElementId :=
  match e.shape with
  | .text _ container => container
  | _ => none

def labels (es : List (Element α)) (r : Element α) : List String :=
  (es.filter fun e => container? e = some r.id).filterMap content?

structure IsFrameAt (s : Spot α) (f : Frame α) : Prop where
  label : f.label = s.label
  bounds : f.bounds = s.absolute

theorem forall₂_frames {inside : β → List (Spot α)} {placed : β → List (Placement α)}
    (each : ∀ b, List.Forall₂ IsFrameAt (inside b) ((placed b).filterMap (·.frame?)))
    (bs : List β) :
    List.Forall₂ IsFrameAt (bs.flatMap inside) ((bs.flatMap placed).filterMap (·.frame?)) := by
  have same : List.Forall₂ Eq bs bs := List.forall₂_refl bs
  rw [List.filterMap_flatMap]
  refine List.rel_flatMap same ?_
  rintro b _ rfl
  exact each b

section Frames

variable (t : Topology) (e : Layout.EnvironmentBox α) (outer : List (Bounds α))

theorem absolute_concat (b : Bounds α) :
    e.absolute (outer ++ [b]) = Layout.within (e.absolute outer) b := by
  rw [Layout.EnvironmentBox.absolute, List.foldl_append]
  rfl

theorem frames_component (b : Layout.ComponentBox α) :
    List.Forall₂ IsFrameAt (componentSpots t e outer b)
      ([componentPlacement t (e.absolute outer) b].filterMap (·.frame?)) := by
  rw [componentSpots, componentPlacement]
  cases t.component? b.id with
  | none => exact .nil
  | some c => exact .cons ⟨rfl, (absolute_concat e outer b.bounds).symm⟩ .nil

theorem frames_area (a : Layout.AreaBox α) :
    List.Forall₂ IsFrameAt (areaSpots t e outer a)
      ((areaPlacements t (e.absolute outer) a).filterMap (·.frame?)) := by
  rw [areaPlacements, ← absolute_concat, List.map_eq_flatMap]
  exact .cons ⟨rfl, rfl⟩ (forall₂_frames (frames_component t e _) a.components)

theorem frames_datacenter (d : Layout.DatacenterBox α) :
    List.Forall₂ IsFrameAt (datacenterSpots t e outer d)
      ((datacenterPlacements t (e.absolute outer) d).filterMap (·.frame?)) := by
  rw [datacenterPlacements, ← absolute_concat]
  exact .cons ⟨rfl, rfl⟩ (forall₂_frames (frames_area t e _) d.areas)

theorem frames_environment :
    List.Forall₂ IsFrameAt (environmentSpots t e)
      ((environmentPlacements t e).filterMap (·.frame?)) :=
  .cons ⟨rfl, rfl⟩ (forall₂_frames (frames_datacenter t e []) e.datacenters)

theorem frames_placements (l : Layout α) :
    List.Forall₂ IsFrameAt (spots t l) ((placements t l).filterMap (·.frame?)) :=
  forall₂_frames (frames_environment t) l.environments

end Frames

/-- The only label of a rectangle is that of a spot, and the rectangle is at its absolute place. -/
structure IsRectangleAt (es : List (Element α)) (s : Spot α) (r : Element α) : Prop where
  labels : labels es r = [s.label]
  corner : r.corner = s.absolute.corner
  size : r.size = s.absolute.size

theorem rectangles_elementsOf (bs : List (Box α)) (as : List (Arrow α)) :
    rectangles (elementsOf bs as) = bs.map fun b => rectangleOf b (boundTo as b) := by
  have arrows : rectangles (as.map (·.element)) = [] := by
    rw [rectangles, List.filter_eq_nil_iff]
    intro e member
    obtain ⟨a, -, rfl⟩ := List.mem_map.mp member
    change ¬decide ("arrow" = "rectangle") = true
    decide
  rw [rectangles, elementsOf, List.filter_append, ← rectangles, ← rectangles, arrows,
    List.append_nil, List.map_eq_flatMap, rectangles, List.filter_flatMap]
  rfl

theorem filterMap_container?_elementsOf (bs : List (Box α)) (as : List (Arrow α)) :
    (elementsOf bs as).filterMap container? = bs.map (·.rectangle) := by
  have arrows : (as.map (·.element)).filterMap container? = [] := by
    rw [List.filterMap_eq_nil_iff]
    intro e member
    obtain ⟨a, -, rfl⟩ := List.mem_map.mp member
    rfl
  rw [elementsOf, List.filterMap_append, arrows, List.append_nil, List.filterMap_flatMap,
    List.map_eq_flatMap]
  rfl

section Numbered

variable {bs : List (Box α)} {as : List (Arrow α)} (numbered : IsNumbered bs as)
include numbered

theorem labels_rectangleOf {b : Box α} (member : b ∈ bs) :
    labels (elementsOf bs as) (rectangleOf b (boundTo as b)) = [b.label] := by
  have numbers : (bs.map (·.number)).Nodup := by
    rw [numbered.boxes]
    exact List.nodup_range
  have distinct : ((elementsOf bs as).filterMap container?).Nodup := by
    rw [filterMap_container?_elementsOf]
    exact nodup_map_of_nodup_map numbers fun _ _ => rectangle_inj.mp
  -- No rectangle is named by two texts, so the label of the box is the only one.
  have sole := filter_eq_singleton distinct (labelOf_mem member) rfl
  rw [labels, rectangleOf, Element.ofBounds, sole]
  rfl

theorem forall₂_rectangles {ss : List (Spot α)}
    (frames : List.Forall₂ IsFrameAt ss (bs.map (·.toFrame))) :
    List.Forall₂ (IsRectangleAt (elementsOf bs as)) ss (rectangles (elementsOf bs as)) := by
  rw [rectangles_elementsOf, List.forall₂_map_right_iff]
  rw [List.forall₂_map_right_iff, List.forall₂_iff_get] at frames
  obtain ⟨length, each⟩ := frames
  refine List.forall₂_iff_get.mpr ⟨length, fun i hs hb => ?_⟩
  obtain ⟨label, bounds⟩ := each i hs hb
  have labels := labels_rectangleOf numbered (bs.get_mem ⟨i, hb⟩)
  rw [label] at labels
  exact ⟨labels, congrArg Bounds.corner bounds, congrArg Bounds.size bounds⟩

end Numbered

theorem forall₂_elements (t : Topology) (l : Layout α) :
    List.Forall₂ (IsRectangleAt (Scene.ofLayout t l).elements) (spots t l)
      (rectangles (Scene.ofLayout t l).elements) := by
  have boxes := (isNumbered_number ((placements t l).filterMap (·.frame?))).boxes
  refine forall₂_rectangles (isNumbered_arrowsFrom boxes t.connections) ?_
  rw [map_toFrame_number]
  exact frames_placements t l

end Scene

/-! ## The same spots -/

/-- Vertices and rectangles stand for the same spots, in the same order. -/
structure SameSpots [Coordinate α] (t : Topology) (l : Layout α) (vertices : List (Vertex α))
    (es : List (Scene.Element α)) : Prop where
  vertices : List.Forall₂ (IsVertexAt vertices) (spots t l) vertices
  rectangles : List.Forall₂ (IsRectangleAt es) (spots t l) (rectangles es)

/-! ## Sizes -/

theorem size_within (outer b : Bounds Rat) : (Layout.within outer b).size = b.size := by
  have width := add_sub_add_right_eq_sub b.maxX b.minX outer.minX
  have height := add_sub_add_right_eq_sub b.maxY b.minY outer.minY
  exact congrArg₂ Size.mk width height

theorem size_absolute (s : Spot Rat) : s.absolute.size = s.stored.size := by
  rw [Spot.absolute, Spot.stored, Layout.EnvironmentBox.absolute]
  generalize s.environment.bounds = b
  induction s.chain generalizing b with
  | nil => rfl
  | cons c cs ih =>
      rw [List.foldl_cons, ih]
      cases cs with
      | nil => exact size_within b c
      | cons _ _ => rfl

theorem forall₂_sizes {t : Topology} {l : Layout Rat} {vertices : List (Vertex Rat)}
    {es : List (Scene.Element Rat)} (same : SameSpots t l vertices es) :
    List.Forall₂ (fun v r => r.size = v.bounds.size) vertices (rectangles es) := by
  obtain ⟨length, vertex⟩ := List.forall₂_iff_get.mp same.vertices
  obtain ⟨length', rectangle⟩ := List.forall₂_iff_get.mp same.rectangles
  refine List.forall₂_iff_get.mpr ⟨length.symm.trans length', fun i hv hr => ?_⟩
  have hs := length.symm ▸ hv
  rw [(rectangle i hs hr).size, (vertex i hs hv).bounds, size_absolute]

/-! ## Every layout -/

theorem sameSpots_ofLayout [Coordinate α] (t : Topology) (l : Layout α) :
    SameSpots t l (Drawing.ofLayout t l).vertices (Scene.ofLayout t l).elements where
  vertices := (forall₂_vertices t l).imp fun _ _ lies =>
    ⟨lies, fun _ chain => lies.chain.unique (nodup_map_id_vertices t l) chain⟩
  rectangles := forall₂_elements t l

end NetDiagram.Proofs.Outline
