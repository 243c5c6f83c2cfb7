import NetDiagram.Proofs.Outline.Cells
import NetDiagram.Proofs.Markup.Values

/-!
# Names stay in their places

The names in a topology and in a layout can be any texts. They get into a draw.io document as the
name of the diagram and as the values of cells. Whatever they are, the document has one reading,
and its labels are the names again, in the order of the boxes, and then the descriptions of the
connections that are drawn.

* `labels_documentElement`, `map_label_vertices`: the labels of what is written.
* `names_stay_inside`: so these are the labels of what is read.
-/

namespace NetDiagram.Proofs.Markup
open Cells Drawing Outline

variable {α : Type}

/-! ## Labels -/

/-- The name of a diagram and the values of cells are labels. -/
def isLabel (tag : String) (a : String × String) : Bool :=
  a.1 = "value" || tag = "diagram" && a.1 = "name"

mutual

/-- The labels of an element and of the elements in it, in the order of the document. -/
def labels : Xml.Element → List String
  | .mk tag as children => (as.filter (isLabel tag)).map (·.2) ++ labelsOfAll children

def labelsOfAll : List Xml.Element → List String
  | [] => []
  | e :: es => labels e ++ labelsOfAll es

end

def labelOf : Cell α → String
  | .placeholder => Document.placeholder
  | .vertex v => v.figure.label
  | .edge e => e.connection.description

theorem labels_element (cell : Cell Float32) : labels cell.element = [labelOf cell] := by
  cases cell <;> rfl

theorem labelsOfAll_cells (cells : List (Cell Float32)) :
    labelsOfAll (cells.map (·.element)) = cells.map labelOf := by
  induction cells with
  | nil => rfl
  | cons cell cells ih =>
      rw [List.map_cons, labelsOfAll, labels_element, ih]
      rfl

theorem labels_documentElement (name : String) (page : Size Float32)
    (cells : List (Cell Float32)) :
    labels (documentElement name page (cells.map (·.element))) = name :: cells.map labelOf := by
  rw [← labelsOfAll_cells]
  simp [documentElement, baseElements, labels, labelsOfAll, isLabel]

/-! ## Names in the order of the boxes -/

/-- The box of an unknown component has no name. -/
def componentNames (t : Topology) (b : Layout.ComponentBox α) : List String :=
  ((t.component? b.id).map (·.name)).toList

def areaNames (t : Topology) (a : Layout.AreaBox α) : List String :=
  a.name :: a.components.flatMap (componentNames t)

def datacenterNames (t : Topology) (d : Layout.DatacenterBox α) : List String :=
  d.name :: d.areas.flatMap (areaNames t)

def environmentNames (t : Topology) (e : Layout.EnvironmentBox α) : List String :=
  e.name :: e.datacenters.flatMap (datacenterNames t)

/-- The names of all boxes, each before those of the boxes in it. -/
def boxNames (t : Topology) (l : Layout α) : List String :=
  l.environments.flatMap (environmentNames t)

theorem map_label_of_inTurn {β : Type} {draws : β → List (Vertex α) → Prop}
    {names : β → List String} (each : ∀ b vs, draws b vs → vs.map (·.figure.label) = names b)
    {bs : List β} {vs : List (Vertex α)} (drawn : InTurn draws bs vs) :
    vs.map (·.figure.label) = bs.flatMap names := by
  induction drawn with
  | nil => rfl
  | cons first _ ih => rw [List.map_append, List.flatMap_cons, each _ _ first, ih]

theorem map_label_of_draws {parent : CellId} {figure : Figure} {bounds : Bounds α}
    {inside : CellId → List (Vertex α) → Prop} {vs : List (Vertex α)} {names : List String}
    (drawn : vertexView.Draws parent figure bounds inside vs)
    (inner : ∀ id ws, inside id ws → ws.map (·.figure.label) = names) :
    vs.map (·.figure.label) = figure.label :: names := by
  obtain ⟨id, v, ws, rfl, cell, below⟩ := drawn
  rw [List.map_cons, cell.figure, inner _ _ below]

section Names

variable {t : Topology}

theorem map_label_component {parent : CellId} (b : Layout.ComponentBox α) (vs : List (Vertex α))
    (drawn : vertexView.DrawsComponent t parent b vs) :
    vs.map (·.figure.label) = componentNames t b := by
  rw [View.DrawsComponent] at drawn
  rw [componentNames]
  cases found : t.component? b.id with
  | none =>
      rw [found] at drawn
      rw [show vs = [] from drawn]
      rfl
  | some c =>
      rw [found] at drawn
      refine map_label_of_draws drawn fun id ws none => ?_
      rw [none]
      rfl

theorem map_label_area {parent : CellId} (a : Layout.AreaBox α) (vs : List (Vertex α))
    (drawn : vertexView.DrawsArea t parent a vs) : vs.map (·.figure.label) = areaNames t a :=
  map_label_of_draws drawn fun _ _ inside => map_label_of_inTurn map_label_component inside

theorem map_label_datacenter {parent : CellId} (d : Layout.DatacenterBox α)
    (vs : List (Vertex α)) (drawn : vertexView.DrawsDatacenter t parent d vs) :
    vs.map (·.figure.label) = datacenterNames t d :=
  map_label_of_draws drawn fun _ _ inside => map_label_of_inTurn map_label_area inside

theorem map_label_environment (e : Layout.EnvironmentBox α) (vs : List (Vertex α))
    (drawn : vertexView.DrawsEnvironment t e vs) : vs.map (·.figure.label) = environmentNames t e :=
  map_label_of_draws drawn fun _ _ inside => map_label_of_inTurn map_label_datacenter inside

theorem map_label_vertices (l : Layout α) :
    (Drawing.ofLayout t l).vertices.map (·.figure.label) = boxNames t l :=
  map_label_of_inTurn map_label_environment (inTurn_vertices t l)

/-- The connections of which both ends are in the boxes. -/
def drawnConnections (t : Topology) (l : Layout α) : List Connection :=
  t.connections.filter fun c =>
    c.source ∈ (shown t l).map (·.identity) ∧ c.target ∈ (shown t l).map (·.identity)

theorem map_description_edges (l : Layout α) :
    (Drawing.ofLayout t l).edges.map (·.connection.description) =
      (drawnConnections t l).map (·.description) := by
  rw [drawnConnections, ← map_connection_edges_ofLayout, List.map_map]
  rfl

end Names

/-! ## Elements of a document -/

/-- The names are those of the grammar, and all values but labels are plain. -/
def IsRegular (tag : String) (as : List (String × String)) : Prop :=
  tag ∈ tags ∧ ∀ a ∈ as, IsWord a.1 ∧ (isLabel tag a = true ∨ IsPlainText a.2)

theorem isRegular_geometry {x y width height : String} (left : IsPlainText x) (top : IsPlainText y)
    (across : IsPlainText width) (down : IsPlainText height) :
    Everywhere IsRegular (geometryElement x y width height) := by
  refine .mk ?_ (List.forall_mem_nil _)
  simp +decide [IsRegular, left, top, across, down]

theorem isRegular_vertex (v : Vertex Float32) : Everywhere IsRegular v.element := by
  refine .mk ?_ (List.forall_mem_singleton.mpr ?_)
  · simp +decide [IsRegular, isLabel]
  · exact isRegular_geometry (isPlainText_coordinate _) (isPlainText_coordinate _)
      (isPlainText_coordinate _) (isPlainText_coordinate _)

theorem isRegular_edge (e : Edge) : Everywhere IsRegular e.element := by
  refine .mk ?_ (List.forall_mem_singleton.mpr (.mk ?_ (List.forall_mem_nil _)))
  · have style := isPlainText_edgeStyle
    generalize edgeStyle = text at style ⊢
    simp +decide [IsRegular, isLabel, style]
  · simp +decide [IsRegular]

theorem isRegular_placeholder : Everywhere IsRegular placeholderElement := by
  refine .mk ?_ (List.forall_mem_singleton.mpr ?_)
  · have style := isPlainText_placeholderStyle
    generalize placeholderStyle = text at style ⊢
    simp +decide [IsRegular, isLabel, style]
  · exact isRegular_geometry (by decide) (by decide) (by decide) (by decide)

theorem isRegular_element (cell : Cell Float32) : Everywhere IsRegular cell.element := by
  cases cell with
  | placeholder => exact isRegular_placeholder
  | vertex v => exact isRegular_vertex v
  | edge e => exact isRegular_edge e

theorem isRegular_base : ∀ e ∈ baseElements, Everywhere IsRegular e := by
  simp only [baseElements, List.forall_mem_cons]
  refine ⟨.mk ?_ (List.forall_mem_nil _), .mk ?_ (List.forall_mem_nil _), List.forall_mem_nil _⟩
  all_goals simp +decide [IsRegular]

theorem isRegular_documentElement (name : String) (page : Size Float32)
    (cells : List (Cell Float32)) :
    Everywhere IsRegular (documentElement name page (cells.map (·.element))) := by
  have inside : ∀ e ∈ baseElements ++ cells.map (·.element), Everywhere IsRegular e := by
    refine List.forall_mem_append.mpr ⟨isRegular_base, fun e member => ?_⟩
    obtain ⟨cell, -, rfl⟩ := List.mem_map.mp member
    exact isRegular_element cell
  refine .mk ?_ (List.forall_mem_singleton.mpr (.mk ?_ (List.forall_mem_singleton.mpr
    (.mk ?_ (List.forall_mem_singleton.mpr (.mk ?_ inside))))))
  all_goals simp +decide [IsRegular, isLabel]

/-! ## Every document -/

/-- Escaping leaves alone what is no label. -/
def IsWrittenPlainly (tag : String) (as : List (String × String)) : Prop :=
  ∀ a ∈ as, isLabel tag a = true ∨ Xml.escape a.2 = a.2

theorem IsRegular.isWellNamed {tag : String} {as : List (String × String)}
    (regular : IsRegular tag as) : IsWellNamed tag as :=
  ⟨regular.1, fun a member => (regular.2 a member).1⟩

theorem IsRegular.isWrittenPlainly {tag : String} {as : List (String × String)}
    (regular : IsRegular tag as) : IsWrittenPlainly tag as :=
  fun a member => (regular.2 a member).2.imp_right escape_of_isPlainText

def documentLabels (t : Topology) (l : Layout α) : List String :=
  t.name :: if t.isEmpty || l.isEmpty then [Document.placeholder]
    else boxNames t l ++ (drawnConnections t l).map (·.description)

theorem map_labelOf_cellsOf (t : Topology) (l : Layout α) :
    t.name :: (cellsOf t l).map labelOf = documentLabels t l := by
  rw [cellsOf, documentLabels]
  split
  · rfl
  · rw [cellsFor, List.map_append, List.map_map, List.map_map, ← map_label_vertices,
      ← map_description_edges]
    rfl

theorem isDocument_render (t : Topology) (l : Layout Float32) :
    ∃ page, ∀ root, IsDocument (Cells.render t l).content root ↔
      root = documentElement t.name page ((cellsOf t l).map (·.element)) := by
  obtain ⟨page, content⟩ := content_render t l
  have regular := isRegular_documentElement t.name page (cellsOf t l)
  refine ⟨page, fun root => ?_⟩
  rw [content]
  exact isDocument_document_iff (regular.mono fun _ _ => IsRegular.isWellNamed)

/-- Whatever the names are, the document has one reading. Its labels are these names and the
descriptions of the connections that are drawn, and nothing else in it has to be escaped. -/
theorem names_stay_inside (t : Topology) (l : Layout Float32) :
    ∃ root, (∀ root', IsDocument (Cells.render t l).content root' ↔ root' = root) ∧
      labels root = documentLabels t l ∧ Everywhere IsWrittenPlainly root := by
  obtain ⟨page, read⟩ := isDocument_render t l
  have regular := isRegular_documentElement t.name page (cellsOf t l)
  refine ⟨_, read, ?_, regular.mono fun _ _ => IsRegular.isWrittenPlainly⟩
  rw [labels_documentElement, map_labelOf_cellsOf]

end NetDiagram.Proofs.Markup
