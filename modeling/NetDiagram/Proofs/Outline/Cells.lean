import NetDiagram.Proofs.Outline.Hierarchy

/-!
# The cells of a document

One series of numbers runs through all cells of a draw.io document, so no two have the same name.
Vertices name vertices before them as their parents, and edges the vertices of components as their
ends, whatever the topology and the layout.

* `cellsOf`: the cells of a document, apart from the two that all documents start with.
* `nodup_names`: no two cells have the same name.
* `map_connection_edges_ofLayout`, `shows_of_mem_edges`: the edges.
* `countP_isComponent`, `countP_isEdge`: how many cells of a kind there are.
-/

namespace NetDiagram.Proofs.Outline
open Cells Drawing

variable {α : Type}

/-! ## Cells -/

inductive Cell (α : Type) where
  | placeholder
  | vertex (v : Vertex α)
  | edge (e : Edge)

namespace Cell

def id : Cell α → CellId
  | placeholder => .placeholder
  | vertex v => v.id
  | edge e => e.id

def element : Cell Float32 → Xml.Element
  | placeholder => placeholderElement
  | vertex v => v.element
  | edge e => e.element

end Cell

def cellsFor (vertices : List (Vertex α)) (edges : List Edge) : List (Cell α) :=
  vertices.map .vertex ++ edges.map .edge

theorem map_element_cellsFor (vertices : List (Vertex Float32)) (edges : List Edge) :
    (cellsFor vertices edges).map (·.element) =
      vertices.map (·.element) ++ edges.map (·.element) := by
  rw [cellsFor, List.map_append, List.map_map, List.map_map]
  rfl

def cellsOf (t : Topology) (l : Layout α) : List (Cell α) :=
  if t.isEmpty || l.isEmpty then [.placeholder]
  else cellsFor (Drawing.ofLayout t l).vertices (Drawing.ofLayout t l).edges

def attribute? (name : String) : Xml.Element → Option String
  | .mk _ attributes _ => attributes.lookup name

def isComponent : CellId → Bool
  | .component _ => true
  | _ => false

def isEdge : CellId → Bool
  | .edge _ => true
  | _ => false

/-! ## Numbers -/

def numberOf : CellId → Nat
  | .root => 0
  | .layer => 1
  | .placeholder => 2
  | .environment n | .datacenter n | .area n | .component n | .edge n => n

theorem text_injective : Function.Injective CellId.text := by
  intro i j same
  cases i <;> cases j <;> simp [CellId.text, ← String.toList_inj] at same <;> first
    | rfl
    | exact congrArg _ (toDigits_injective same)

theorem numberOf_id (v : Vertex α) : numberOf v.id = v.number := by
  rw [Vertex.id]
  cases v.figure <;> rfl

theorem map_number_edges (vertices : List (Vertex α)) (n : Nat) (cs : List Connection) :
    (Cells.edges vertices n cs).map (·.number) =
      List.range' n (Cells.edges vertices n cs).length := by
  rw [edges_eq_linksFrom]
  exact map_number_linksFrom fun _ _ _ => rfl

theorem map_numberOf_cellsOf (t : Topology) (l : Layout α) :
    (cellsOf t l).map (numberOf ·.id) = List.range' 2 (cellsOf t l).length := by
  rw [cellsOf]
  split
  · rfl
  · have vertices : ((Drawing.ofLayout t l).vertices.map Cell.vertex).map (numberOf ·.id) =
        List.range' 2 (Drawing.ofLayout t l).vertices.length := by
      rw [List.map_map]
      exact (List.map_congr_left fun v _ => numberOf_id v).trans
        (numbered_environmentVertices 2 l.environments)
    have edges : ((Drawing.ofLayout t l).edges.map (Cell.edge (α := α))).map (numberOf ·.id) =
        List.range' (2 + (Drawing.ofLayout t l).vertices.length)
          (Drawing.ofLayout t l).edges.length := by
      rw [List.map_map]
      exact map_number_edges _ _ _
    rw [cellsFor, List.map_append, vertices, edges, List.length_append, List.length_map,
      List.length_map, List.range'_append_1]

theorem id_element (cell : Cell Float32) : attribute? "id" cell.element = some cell.id.text := by
  cases cell <;> rfl

theorem nodup_names (t : Topology) (l : Layout Float32) :
    ((baseElements ++ (cellsOf t l).map (·.element)).map (attribute? "id")).Nodup := by
  -- The root and the layer have the two numbers before all others.
  let ids : List CellId := .root :: .layer :: (cellsOf t l).map (·.id)
  have names : (baseElements ++ (cellsOf t l).map (·.element)).map (attribute? "id") =
      ids.map fun id => some id.text := by
    simp only [ids, baseElements, List.map_append, List.map_cons, List.map_map, Function.comp_def,
      id_element]
    rfl
  have numbers : ids.map numberOf = List.range' 0 (2 + (cellsOf t l).length) := by
    rw [← List.range'_append_1, ← map_numberOf_cellsOf]
    simp only [ids, List.map_cons, List.map_map]
    rfl
  have distinct : (ids.map numberOf).Nodup := by
    rw [numbers]
    exact List.nodup_range'
  rw [names]
  refine nodup_map_of_nodup_map distinct fun i j same => ?_
  exact congrArg numberOf (text_injective (Option.some.inj same))

/-! ## Vertices and edges -/

/-- Among the vertices, a name is that of one that shows a component with the given identity. -/
def Shows (vertices : List (Vertex α)) (id : Identity) (name : CellId) : Prop :=
  ∃ v ∈ vertices, v.id = name ∧ ∃ c, v.figure = .component c ∧ c.identity = id

theorem shows_of_node? {vertices : List (Vertex α)} {id : Identity} {name : CellId}
    (found : node? vertices id = some name) : Shows vertices id name := by
  obtain ⟨v, member, shows, named⟩ := vertex_of_node? found
  refine ⟨v, member, named, ?_⟩
  cases figure : v.figure with
  | component c =>
      rw [figure] at shows
      exact ⟨c, rfl, Option.some.inj shows⟩
  | _ =>
      rw [figure] at shows
      cases shows

theorem map_connection_edges_ofLayout (t : Topology) (l : Layout α) :
    (Drawing.ofLayout t l).edges.map (·.connection) = t.connections.filter fun c =>
      c.source ∈ (shown t l).map (·.identity) ∧ c.target ∈ (shown t l).map (·.identity) := by
  rw [Drawing.ofLayout, edges_eq_linksFrom, map_linksFrom fun _ _ _ => rfl,
    ← identities_ofLayout (l := l)]
  refine List.filter_congr fun c _ => ?_
  rw [Bool.eq_iff_iff, isSome_both?, Bool.and_eq_true, isSome_node?_vertices_iff,
    isSome_node?_vertices_iff, decide_eq_true_iff]
  rfl

theorem shows_of_mem_edges {t : Topology} {l : Layout α} {e : Edge}
    (member : e ∈ (Drawing.ofLayout t l).edges) :
    Shows (Drawing.ofLayout t l).vertices e.connection.source e.source ∧
      Shows (Drawing.ofLayout t l).vertices e.connection.target e.target := by
  rw [Drawing.ofLayout, edges_eq_linksFrom] at member
  obtain ⟨n, c, ends, found, rfl⟩ := exists_of_mem_linksFrom member
  obtain ⟨source, target⟩ := both?_eq_some found
  exact ⟨shows_of_node? source, shows_of_node? target⟩

/-! ## Counts -/

theorem isComponent_id (v : Vertex α) : isComponent v.id = v.figure.identity?.isSome := by
  rw [Vertex.id]
  cases v.figure <;> rfl

theorem isEdge_id (v : Vertex α) : isEdge v.id = false := by
  rw [Vertex.id]
  cases v.figure <;> rfl

theorem countP_isComponent (vertices : List (Vertex α)) (edges : List Edge) :
    ((cellsFor vertices edges).map (·.id)).countP isComponent = (identities vertices).length := by
  have components : (isComponent ∘ Cell.id) ∘ Cell.vertex = fun v : Vertex α =>
      v.figure.identity?.isSome := funext isComponent_id
  have others : (isComponent ∘ Cell.id) ∘ (Cell.edge (α := α)) = fun _ => false := rfl
  rw [cellsFor, List.countP_map, List.countP_append, List.countP_map, List.countP_map, components,
    others, List.countP_false, identities, List.length_filterMap_eq_countP]
  exact Nat.add_zero _

theorem countP_isEdge (vertices : List (Vertex α)) (edges : List Edge) :
    ((cellsFor vertices edges).map (·.id)).countP isEdge = edges.length := by
  have others : (isEdge ∘ Cell.id) ∘ Cell.vertex = fun _ : Vertex α => false := funext isEdge_id
  have all : (isEdge ∘ Cell.id) ∘ (Cell.edge (α := α)) = fun _ => true := rfl
  rw [cellsFor, List.countP_map, List.countP_append, List.countP_map, List.countP_map, others, all,
    List.countP_false, List.countP_true]
  exact Nat.zero_add _

/-! ## Every document -/

theorem content_render (t : Topology) (l : Layout Float32) :
    ∃ page, (Cells.render t l).content =
      Xml.document (documentElement t.name page ((cellsOf t l).map (·.element))) := by
  by_cases nothing : (t.isEmpty || l.isEmpty) = true
  · refine ⟨leastPage, ?_⟩
    rw [Cells.render, cellsOf, if_pos nothing, if_pos nothing, List.map_singleton, Cell.element]
  · refine ⟨page l, ?_⟩
    rw [Cells.render, cellsOf, if_neg nothing, if_neg nothing, map_element_cellsFor]

end NetDiagram.Proofs.Outline
