import Mathlib.Data.List.Forall2
import NetDiagram.Proofs.Markup.Labels

/-!
# The cells of a document are a graph

A draw.io document has one reading, and the cells in it can be read by what they say under their
names. Those of boxes say which cell they are in, and those of connections which cells they join.
Whatever the topology and the layout, all of them say this of cells before them.

* `cellsIn`, `attribute?`, `place?`: what is read from a document.
* `elementView`: the cells of boxes as they are written.
* `IsLink`: what the cell of a connection says.
* `IsGraph`: what it is for cells to draw a topology by a layout.
* `cells_form_graph`: those of every document do.
-/

namespace NetDiagram.Proofs.Outline
open Cells Drawing Markup

/-! ## Reading a document -/

mutual

/-- The cells in an element, in the order of the document. -/
def cellsIn : Xml.Element → List Xml.Element
  | .mk tag as children => if tag = "mxCell" then [.mk tag as children] else cellsInAll children

def cellsInAll : List Xml.Element → List Xml.Element
  | [] => []
  | e :: es => cellsIn e ++ cellsInAll es

end

structure Place where
  x : String
  y : String
  width : String
  height : String

def Place.ofBounds (b : Bounds Float32) : Place :=
  ⟨coordinate b.minX, coordinate b.minY, coordinate b.width, coordinate b.height⟩

def place? : Xml.Element → Option Place
  | .mk _ _ [.mk "mxGeometry" place []] => do
    let x ← place.lookup "x"
    let y ← place.lookup "y"
    let width ← place.lookup "width"
    let height ← place.lookup "height"
    return ⟨x, y, width, height⟩
  | _ => none

def isComponentCell (e : Xml.Element) : Bool :=
  (attribute? "id" e).any fun id => "comp_".toList <+: id.toList

def isEdgeCell (e : Xml.Element) : Bool := attribute? "edge" e = some "1"

theorem cellsInAll_append (es es' : List Xml.Element) :
    cellsInAll (es ++ es') = cellsInAll es ++ cellsInAll es' := by
  induction es with
  | nil => rfl
  | cons e es ih => rw [List.cons_append, cellsInAll, cellsInAll, ih, List.append_assoc]

theorem cellsIn_element (cell : Cell Float32) : cellsIn cell.element = [cell.element] := by
  cases cell <;> simp [Cell.element, placeholderElement, Vertex.element, Edge.element, cellsIn]

theorem cellsInAll_cells (cells : List (Cell Float32)) :
    cellsInAll (cells.map (·.element)) = cells.map (·.element) := by
  induction cells with
  | nil => rfl
  | cons cell cells ih =>
      rw [List.map_cons, cellsInAll, cellsIn_element, ih]
      rfl

theorem cellsIn_documentElement (name : String) (page : Size Float32)
    (cells : List (Cell Float32)) :
    cellsIn (documentElement name page (cells.map (·.element))) =
      baseElements ++ cells.map (·.element) := by
  have base : cellsInAll baseElements = baseElements := by simp [baseElements, cellsInAll, cellsIn]
  simp [documentElement, cellsIn, cellsInAll, cellsInAll_append, base, cellsInAll_cells]

/-! ## The cells of boxes -/

structure IsBoxCell (parent : String) (figure : Figure) (bounds : Bounds Float32) (id : String)
    (e : Xml.Element) : Prop where
  name : attribute? "id" e = some id
  number : ∃ n, id = (figure.cellId n).text
  vertex : attribute? "vertex" e = some "1"
  value : attribute? "value" e = some figure.label
  style : attribute? "style" e = some figure.style
  parent : attribute? "parent" e = some parent
  place : place? e = some (.ofBounds bounds)

def elementView : View Float32 String Xml.Element := ⟨"1", IsBoxCell⟩

theorem isCell_element (parent : CellId) (figure : Figure) (bounds : Bounds Float32)
    (id : CellId) (v : Vertex Float32) (cell : vertexView.IsCell parent figure bounds id v) :
    elementView.IsCell parent.text figure bounds id.text v.element := by
  obtain ⟨rfl, rfl, rfl, rfl⟩ := cell
  refine ⟨rfl, ⟨v.number, rfl⟩, ?_, ?_, ?_, ?_, ?_⟩
  all_goals simp [Vertex.element, attribute?, place?, geometryElement, Place.ofBounds,
    List.lookup_cons]

theorem inTurn_elements (t : Topology) (l : Layout Float32) :
    InTurn (elementView.DrawsEnvironment t) l.environments
      ((Drawing.ofLayout t l).vertices.map (·.element)) := by
  refine (inTurn_vertices t l).map ?_
  exact View.DrawsEnvironment.map isCell_element rfl

/-! ## The cells of components -/

theorem isComponentCell_element (cell : Cell Float32) :
    isComponentCell cell.element = isComponent cell.id := by
  rw [isComponentCell, id_element, Option.any_some]
  cases cell.id <;> simp [CellId.text, isComponent]

theorem isEdgeCell_element (cell : Cell Float32) : isEdgeCell cell.element = isEdge cell.id := by
  cases cell with
  | placeholder => simp [isEdgeCell, Cell.element, placeholderElement, attribute?, List.lookup_cons,
      Cell.id, isEdge]
  | vertex v =>
      rw [Cell.id, isEdge_id]
      simp [isEdgeCell, Cell.element, Vertex.element, attribute?, List.lookup_cons]
  | edge e =>
      simp [isEdgeCell, Cell.element, Edge.element, attribute?, List.lookup_cons, Cell.id, Edge.id,
        isEdge]

/-- Components with the cells of components, in the order of both. -/
def nodes (components : List Component) (cells : List Xml.Element) :
    List (Component × Xml.Element) :=
  components.zip (cells.filter isComponentCell)

/-- The cell of a component with an identity has a name. -/
def IsNodeNamed (nodes : List (Component × Xml.Element)) (id : Identity) (name : String) : Prop :=
  ∃ n ∈ nodes, n.1.identity = id ∧ attribute? "id" n.2 = some name

def nodeOf? (v : Vertex Float32) : Option (Component × Xml.Element) :=
  (shownBy? v.figure).map (·, v.element)

theorem isComponentCell_vertex (v : Vertex Float32) :
    isComponentCell v.element = (shownBy? v.figure).isSome := by
  rw [show v.element = (Cell.vertex v).element from rfl, isComponentCell_element, Cell.id,
    isComponent_id]
  cases v.figure <;> rfl

theorem zip_shownIn (vertices : List (Vertex Float32)) :
    (shownIn vertices).zip ((vertices.map (·.element)).filter isComponentCell) =
      vertices.filterMap nodeOf? := by
  induction vertices with
  | nil => rfl
  | cons v vs ih =>
      rw [shownIn] at ih ⊢
      rw [List.map_cons, List.filter_cons, isComponentCell_vertex, List.filterMap_cons,
        List.filterMap_cons, nodeOf?]
      cases shownBy? v.figure with
      | none => exact ih
      | some c => exact congrArg _ ih

theorem nodes_ofLayout (t : Topology) (l : Layout Float32) :
    nodes (shown t l) ((Drawing.ofLayout t l).vertices.map (·.element)) =
      (Drawing.ofLayout t l).vertices.filterMap nodeOf? := by
  rw [nodes, ← shownIn_ofLayout, zip_shownIn]

theorem length_componentCells (t : Topology) (l : Layout Float32) :
    (((Drawing.ofLayout t l).vertices.map (·.element)).filter isComponentCell).length =
      (shown t l).length := by
  have known (v : Vertex Float32) : (isComponentCell ∘ Vertex.element) v =
      (shownBy? v.figure).isSome := isComponentCell_vertex v
  rw [← shownIn_ofLayout, shownIn, List.length_filterMap_eq_countP, ← List.countP_eq_length_filter,
    List.countP_map, funext known]

theorem isNodeNamed_of_shows {t : Topology} {l : Layout Float32} {id : Identity} {name : CellId}
    (shows : Shows (Drawing.ofLayout t l).vertices id name) :
    IsNodeNamed (nodes (shown t l) ((Drawing.ofLayout t l).vertices.map (·.element))) id name.text := by
  obtain ⟨v, member, rfl, c, figure, rfl⟩ := shows
  have node : nodeOf? v = some (c, v.element) := by
    rw [nodeOf?, figure]
    rfl
  rw [nodes_ofLayout]
  exact ⟨(c, v.element), List.mem_filterMap.mpr ⟨v, member, node⟩, rfl, rfl⟩

/-! ## The cells of connections -/

structure IsLink (nodes : List (Component × Xml.Element)) (c : Connection) (e : Xml.Element) :
    Prop where
  edge : isEdgeCell e = true
  value : attribute? "value" e = some c.description
  parent : attribute? "parent" e = some "1"
  source : ∃ name, attribute? "source" e = some name ∧ IsNodeNamed nodes c.source name
  target : ∃ name, attribute? "target" e = some name ∧ IsNodeNamed nodes c.target name

theorem isLink_of_mem_edges {t : Topology} {l : Layout Float32} {e : Edge}
    (member : e ∈ (Drawing.ofLayout t l).edges) :
    IsLink (nodes (shown t l) ((Drawing.ofLayout t l).vertices.map (·.element))) e.connection
      e.element := by
  obtain ⟨source, target⟩ := shows_of_mem_edges member
  refine ⟨?_, ?_, ?_, ⟨_, ?_, isNodeNamed_of_shows source⟩, ⟨_, ?_, isNodeNamed_of_shows target⟩⟩
  all_goals simp [Edge.element, isEdgeCell, attribute?, List.lookup_cons, CellId.text]

/-! ## Graphs -/

/-- Cells for the boxes of a layout, and cells that join some of them. -/
structure IsGraph (t : Topology) (l : Layout Float32) (boxes links : List Xml.Element) : Prop where
  outline : InTurn (elementView.DrawsEnvironment t) l.environments boxes
  components : List.Forall₂ (fun c e => attribute? "value" e = some c.name) (shown t l)
    (boxes.filter isComponentCell)
  links : List.Forall₂ (IsLink (nodes (shown t l) boxes)) (drawnConnections t l) links

theorem value_of_mem_nodes {t : Topology} {l : Layout Float32} {n : Component × Xml.Element}
    (member : n ∈ nodes (shown t l) ((Drawing.ofLayout t l).vertices.map (·.element))) :
    attribute? "value" n.2 = some n.1.name := by
  rw [nodes_ofLayout] at member
  obtain ⟨v, -, node⟩ := List.mem_filterMap.mp member
  obtain ⟨c, shows, rfl⟩ := Option.map_eq_some_iff.mp node
  cases figure : v.figure with
  | component c' =>
      rw [figure] at shows
      cases shows
      simp [Vertex.element, attribute?, List.lookup_cons, figure, Figure.label]
  | _ =>
      rw [figure] at shows
      cases shows

theorem isGraph_ofLayout (t : Topology) (l : Layout Float32) :
    IsGraph t l ((Drawing.ofLayout t l).vertices.map (·.element))
      ((Drawing.ofLayout t l).edges.map (·.element)) where
  outline := inTurn_elements t l
  components := List.forall₂_iff_zip.mpr ⟨(length_componentCells t l).symm, fun member =>
    value_of_mem_nodes (n := (_, _)) member⟩
  links := by
    rw [drawnConnections, ← map_connection_edges_ofLayout, List.forall₂_map_left_iff,
      List.forall₂_map_right_iff, List.forall₂_same]
    exact fun e member => isLink_of_mem_edges member

/-! ## Every document -/

/-- The cells of a document are two that everything is in and, if there is anything to draw, a
graph. All have different names. Those of components and of connections are as many as reported. -/
structure IsConsistent (t : Topology) (l : Layout Float32) (root : Xml.Element)
    (stats : Document.Stats) : Prop where
  names : ∃ names, (cellsIn root).map (attribute? "id") = ("0" :: "1" :: names).map some ∧
    ("0" :: "1" :: names).Nodup
  layer : ((cellsIn root)[1]?).bind (attribute? "parent") = some "0"
  cells : if t.isEmpty || l.isEmpty then (cellsIn root).drop 2 = [placeholderElement]
    else ∃ boxes links, (cellsIn root).drop 2 = boxes ++ links ∧ IsGraph t l boxes links
  components : (cellsIn root).countP isComponentCell = stats.components
  connections : (cellsIn root).countP isEdgeCell = stats.connections

theorem countP_cells {kind : Xml.Element → Bool} {kindOf : CellId → Bool}
    (same : ∀ cell : Cell Float32, kind cell.element = kindOf cell.id)
    (base : baseElements.countP kind = 0) (cells : List (Cell Float32)) :
    (baseElements ++ cells.map (·.element)).countP kind = (cells.map (·.id)).countP kindOf := by
  rw [List.countP_append, base, Nat.zero_add, List.countP_map, List.countP_map]
  exact congrArg (cells.countP ·) (funext same)

theorem countP_cellsOf (t : Topology) (l : Layout Float32) :
    ((cellsOf t l).map (·.id)).countP isComponent = (Cells.render t l).stats.components ∧
      ((cellsOf t l).map (·.id)).countP isEdge = (Cells.render t l).stats.connections := by
  rw [cellsOf, Cells.render]
  split
  · exact ⟨rfl, rfl⟩
  · exact ⟨countP_isComponent _ _, countP_isEdge _ _⟩

theorem map_id_cells (t : Topology) (l : Layout Float32) :
    (baseElements ++ (cellsOf t l).map (·.element)).map (attribute? "id") =
      ("0" :: "1" :: (cellsOf t l).map (·.id.text)).map some := by
  have later : ((cellsOf t l).map (·.element)).map (attribute? "id") =
      ((cellsOf t l).map (·.id.text)).map some := by
    rw [List.map_map, List.map_map]
    exact List.map_congr_left fun cell _ => id_element cell
  rw [List.map_append, later]
  rfl

theorem isConsistent_documentElement (t : Topology) (l : Layout Float32) (page : Size Float32) :
    IsConsistent t l (documentElement t.name page ((cellsOf t l).map (·.element)))
      (Cells.render t l).stats where
  names := by
    rw [cellsIn_documentElement]
    refine ⟨_, map_id_cells t l, ?_⟩
    have distinct := nodup_names t l
    rw [map_id_cells] at distinct
    exact distinct.of_map some
  layer := by
    rw [cellsIn_documentElement]
    rfl
  cells := by
    rw [cellsIn_documentElement, cellsOf]
    split
    · rfl
    · exact ⟨_, _, map_element_cellsFor _ _, isGraph_ofLayout t l⟩
  components := by
    rw [cellsIn_documentElement, ← (countP_cellsOf t l).1]
    exact countP_cells isComponentCell_element (by decide) _
  connections := by
    rw [cellsIn_documentElement, ← (countP_cellsOf t l).2]
    exact countP_cells isEdgeCell_element (by decide) _

/-- Whatever the topology and the layout, the document has one reading, and its cells are a
graph. -/
theorem cells_form_graph (t : Topology) (l : Layout Float32) :
    ∃ root, (∀ root', IsDocument (Cells.render t l).content root' ↔ root' = root) ∧
      IsConsistent t l root (Cells.render t l).stats := by
  obtain ⟨page, read⟩ := isDocument_render t l
  exact ⟨_, read, isConsistent_documentElement t l page⟩

end NetDiagram.Proofs.Outline
