import NetDiagram.Proofs.Bonds.Centers
import NetDiagram.Proofs.Bonds.Fields
import NetDiagram.Proofs.Drawing.Blocks
import NetDiagram.Proofs.Drawing.Clauses
import NetDiagram.Proofs.Outline.Graph

/-!
# Where edges lead

Each kind of document says in its own way which nodes an edge joins: a cell names two cells, a line
starts with one name and ends with another, and an arrow has two bindings. What they name can be
looked up among what is written for components.

* `CellsShow`, `ClausesShow`, `ItemsShow`: what it is for a document to show components and
  connections.
* `cellsShow`, `clausesShow`, `itemsShow`: every document of a layout that presents a topology
  shows its components and the connections that resolve.
-/

namespace NetDiagram.Proofs.Drawing
open Bonds Markup Outline

/-! ## What documents show -/

/-- Cells have names of their own. Those of components are for some components in this order, and
those of edges for some connections, each between the cells of its ends. -/
structure CellsShow (components : List Component) (connections : List Connection)
    (cells : List Xml.Element) : Prop where
  names : (cells.map (attribute? "id")).Nodup
  nodes : List.Forall₂ (fun c e => attribute? "value" e = some c.name) components
    (cells.filter isComponentCell)
  edges : List.Forall₂ (IsLink (Outline.nodes components cells)) connections
    (cells.filter isEdgeCell)

def declared? : Clause → Option (String × String)
  | .node name label _ => some (name, label)
  | _ => none

def joined? : Clause → Option (String × String × String)
  | .edge source label target => some (source, label, target)
  | _ => none

def endsOf (c : Connection) : String × String × String :=
  (c.source.text, Flowchart.escapeLabel c.description, c.target.text)

/-- Clauses declare some components in this order, and join the nodes of the ends of some
connections. For each end there is one node. -/
structure ClausesShow (components : List Component) (connections : List Connection)
    (clauses : List Clause) : Prop where
  nodes : clauses.filterMap declared? =
    components.map fun c => (c.identity.text, Flowchart.escapeLabel c.name)
  edges : (clauses.filterMap joined?).Perm (connections.map endsOf)
  ends : ∀ e ∈ clauses.filterMap joined?, (clauses.filterMap declared?).countP (·.1 = e.1) = 1 ∧
    (clauses.filterMap declared?).countP (·.1 = e.2.2) = 1

/-- The text of a flowchart is a header and then lines. -/
def IsFlowchart (content : String) (direction : Direction) (clauses : List Clause) : Prop :=
  ∃ body, content.toList = textOf (Flowchart.header direction) ++ body ∧ IsReadAs body clauses

/-- The item for the box of a component has a name. -/
def IsItemNamed (drawn : List (Extent Float32 × Json)) (id : Identity) (name : String) : Prop :=
  ∃ d ∈ drawn, d.1.component? = some id ∧ textOf? "id" d.2 = some name

structure IsArrowItem (drawn : List (Extent Float32 × Json)) (c : Connection) (item : Json) :
    Prop where
  start : ∃ name, boundAt? "startBinding" item = some name ∧ IsItemNamed drawn c.source name
  stop : ∃ name, boundAt? "endBinding" item = some name ∧ IsItemNamed drawn c.target name

/-- Items have names of their own. The rectangles are for some boxes in this order, and the arrows
for some connections, each between the rectangles of its ends. -/
structure ItemsShow (xs : List (Extent Float32)) (connections : List Connection)
    (document : Json) : Prop where
  names : ((itemsOf "elements" document).map (textOf? "id")).Nodup
  nodes : List.Forall₂ (fun x item => IsPlacedAt x.bounds item) xs (itemsOfType "rectangle" document)
  edges : List.Forall₂ (IsArrowItem (xs.zip (itemsOfType "rectangle" document))) connections
    (itemsOfType "arrow" document)

variable {t : Topology} {l : Layout Float32}

/-! ## Cells -/

section Cells

open Cells

variable (vertices : List (Vertex Float32)) (edges : List Edge)

theorem componentCells_cellsFor :
    (baseElements ++ (cellsFor vertices edges).map (·.element)).filter isComponentCell =
      (vertices.map (·.element)).filter isComponentCell := by
  have base : baseElements.filter isComponentCell = [] := by decide
  have links : (edges.map (·.element)).filter isComponentCell = [] := by
    refine List.filter_eq_nil_iff.mpr (List.forall_mem_map.mpr fun e _ => ?_)
    rw [show e.element = (Cell.edge e).element from rfl, isComponentCell_element]
    exact Bool.false_ne_true
  rw [map_element_cellsFor, List.filter_append, List.filter_append, base, links, List.nil_append,
    List.append_nil]

theorem edgeCells_cellsFor :
    (baseElements ++ (cellsFor vertices edges).map (·.element)).filter isEdgeCell =
      edges.map (·.element) := by
  have base : baseElements.filter isEdgeCell = [] := by decide
  have boxes : (vertices.map (·.element)).filter isEdgeCell = [] := by
    refine List.filter_eq_nil_iff.mpr (List.forall_mem_map.mpr fun v _ => ?_)
    rw [show v.element = (Cell.vertex v).element from rfl, isEdgeCell_element, Cell.id, isEdge_id]
    exact Bool.false_ne_true
  have links : (edges.map (·.element)).filter isEdgeCell = edges.map (·.element) := by
    refine List.filter_eq_self.mpr (List.forall_mem_map.mpr fun e _ => ?_)
    rw [show e.element = (Cell.edge e).element from rfl, isEdgeCell_element]
    rfl
  rw [map_element_cellsFor, List.filter_append, List.filter_append, base, boxes, links,
    List.nil_append, List.nil_append]

end Cells

/-! ## Lines -/

section Lines

open Flowchart

theorem filterMap_declared? (steps : List Step) :
    ((linesOf steps).map clauseOf).filterMap declared? =
      (steps.filterMap (·.component?)).map fun c => (c.identity.text, escapeLabel c.name) := by
  rw [linesOf, List.map_filterMap, List.filterMap_filterMap, List.map_filterMap]
  congr 1
  funext step
  cases step with
  | write line => cases line <;> rfl
  | _ => rfl

theorem filterMap_joined? (steps : List Step) :
    ((linesOf steps).map clauseOf).filterMap joined? =
      (steps.filterMap (·.edge?)).map endsOf := by
  rw [linesOf, List.map_filterMap, List.filterMap_filterMap, List.map_filterMap]
  congr 1
  funext step
  cases step with
  | write line => cases line <;> rfl
  | _ => rfl

theorem isFlowchart_iff {content : String} {direction : Direction} {ls : List Line}
    (text : content = unlines (header direction ++ ls.map (·.text))) (named : ∀ l ∈ ls, IsNamed l)
    (clauses : List Clause) :
    IsFlowchart content direction clauses ↔ clauses = ls.map clauseOf := by
  have body : content.toList =
      textOf (header direction) ++ ls.flatMap fun l => l.text.toList ++ ['\n'] := by
    rw [text, unlines, String.toList_join, List.flatMap_map, List.flatMap_append, List.flatMap_map]
    simp [textOf]
  have read := isReadAs_lines named
  constructor
  · rintro ⟨body', same, read'⟩
    cases List.append_cancel_left (body.symm.trans same)
    exact read.unique read'
  · rintro rfl
    exact ⟨_, body, read⟩

end Lines

/-! ## Items -/

section Items

open Scene

variable (background : String) (bs : List (Box Float32)) (as : List (Arrow Float32))

theorem itemsOfType_rectangle :
    itemsOfType "rectangle" (documentJson background (elementsOf bs as)) =
      bs.map fun b => (rectangleOf b (boundTo as b)).json := by
  have boxes := rectangles_elementsOf bs as
  rw [rectangles] at boxes
  rw [itemsOfType_documentJson, boxes, List.map_map]
  rfl

theorem itemsOfType_arrow :
    itemsOfType "arrow" (documentJson background (elementsOf bs as)) =
      as.map (·.element.json) := by
  have links := arrows_elementsOf bs as
  rw [Bonds.arrows] at links
  rw [itemsOfType_documentJson, links, List.map_map]
  rfl

variable {bs as}

theorem isItemNamed_of_node? {id : Identity} {b : Box Float32} (found : node? bs id = some b) :
    IsItemNamed ((extentsOf bs).zip (itemsOfType "rectangle" (documentJson background
      (elementsOf bs as)))) id b.rectangle.written := by
  obtain ⟨member, shows⟩ := box_of_node? found
  rw [itemsOfType_rectangle, extentsOf, List.zip_map']
  exact ⟨_, List.mem_map_of_mem member, shows, textOf?_id _⟩

theorem isArrowItem_json {a : Arrow Float32}
    (found : ends? bs a.connection = some (a.start, a.stop)) :
    IsArrowItem ((extentsOf bs).zip (itemsOfType "rectangle" (documentJson background
      (elementsOf bs as)))) a.connection a.element.json := by
  obtain ⟨start, stop⟩ := both?_eq_some found
  exact ⟨⟨_, boundAt?_start (e := a.element) rfl, isItemNamed_of_node? background start⟩,
    ⟨_, boundAt?_stop (e := a.element) rfl, isItemNamed_of_node? background stop⟩⟩

theorem ends?_of_mem_arrows {a : Arrow Float32} (member : a ∈ (Scene.ofLayout t l).arrows) :
    ends? (Scene.ofLayout t l).boxes a.connection = some (a.start, a.stop) := by
  rw [Scene.ofLayout, arrowsFrom_eq_linksFrom] at member
  obtain ⟨n, c, ends, found, rfl⟩ := exists_of_mem_linksFrom member
  exact found

end Items

section Presents

variable (presents : Presents t l) (known : t.components ≠ [])
include presents

theorem drawnConnections_eq : drawnConnections t l = t.connections.filter t.resolves := by
  refine List.filter_congr fun c _ => ?_
  rw [Bool.eq_iff_iff, resolves_iff_shown presents, decide_eq_true_iff]

theorem ends_mem_shown {c : Connection} (drawn : c ∈ (Flowchart.steps t l).filterMap (·.edge?)) :
    c.source ∈ (shown t l).map (·.identity) ∧ c.target ∈ (shown t l).map (·.identity) :=
  (resolves_iff_shown presents).mp
    (List.mem_filter.mp ((edge?_steps_perm presents).mem_iff.mp drawn)).2

theorem isNamed_of_mem_steps : ∀ line ∈ linesOf (Flowchart.steps t l), IsNamed line := by
  intro line member
  obtain ⟨step, inside, written⟩ := List.mem_filterMap.mp member
  cases line with
  | edge depth c =>
      have drawn : c ∈ (Flowchart.steps t l).filterMap (·.edge?) := by
        refine List.mem_filterMap.mpr ⟨step, inside, ?_⟩
        cases step with
        | write line =>
            cases written
            rfl
        | _ => cases written
      obtain ⟨source, target⟩ := ends_mem_shown presents drawn
      obtain ⟨first, -, here⟩ := List.mem_map.mp source
      obtain ⟨second, -, there⟩ := List.mem_map.mp target
      exact ⟨first.path, second.path, here ▸ first.identity_eq, there ▸ second.identity_eq⟩
  | _ => trivial

theorem countP_declared {id : Identity} (member : id ∈ (shown t l).map (·.identity)) :
    ((shown t l).map fun c => (c.identity.text, Flowchart.escapeLabel c.name)).countP
      (·.1 = id.text) = 1 := by
  have same (c : Component) : c.identity.text = id.text ↔ c.identity = id := by
    cases id
    cases c.identity
    simp
  obtain ⟨n, sole⟩ := hasSoleNode_of_mem_shown presents member
  rw [component?_steps] at sole
  rw [List.countP_map, List.countP_eq_length_filter]
  simp only [Function.comp_def, same, sole]
  rfl

theorem clausesShow : ClausesShow (shown t l) (t.connections.filter t.resolves)
    ((linesOf (Flowchart.steps t l)).map clauseOf) := by
  have nodes := filterMap_declared? (Flowchart.steps t l)
  rw [component?_steps] at nodes
  refine ⟨nodes, ?_, ?_⟩
  · rw [filterMap_joined?]
    exact (edge?_steps_perm presents).map _
  · intro e member
    rw [filterMap_joined?] at member
    obtain ⟨c, drawn, rfl⟩ := List.mem_map.mp member
    obtain ⟨source, target⟩ := ends_mem_shown presents drawn
    rw [nodes]
    exact ⟨countP_declared presents source, countP_declared presents target⟩

include known

theorem isFlowchart_render (clauses : List Clause) :
    IsFlowchart (Flowchart.render t l).content l.direction clauses ↔
      clauses = (linesOf (Flowchart.steps t l)).map clauseOf := by
  refine isFlowchart_iff ?_ (isNamed_of_mem_steps presents) clauses
  rw [(isDrawnInFlowchart presents known).content, linesOf, List.map_filterMap]

theorem cellsShow {root : Xml.Element} (read : IsDocument (Cells.render t l).content root) :
    CellsShow (shown t l) (t.connections.filter t.resolves) (cellsIn root) := by
  obtain ⟨page, sole⟩ := isDocument_render t l
  obtain rfl := (sole root).mp read
  have graph := isGraph_ofLayout t l
  have names := Outline.nodup_names t l
  have drawn := isEmpty_or_isEmpty_eq_false presents known
  rw [cellsIn_documentElement]
  rw [cellsOf, drawn, if_neg Bool.false_ne_true] at names ⊢
  have cells := componentCells_cellsFor (Cells.Drawing.ofLayout t l).vertices
    (Cells.Drawing.ofLayout t l).edges
  refine ⟨names, ?_, ?_⟩
  · rw [cells]
    exact graph.components
  · rw [Outline.nodes, cells, edgeCells_cellsFor, ← drawnConnections_eq presents]
    exact graph.links

omit known

theorem itemsShow (background : String) :
    ItemsShow (extents t l) (t.connections.filter t.resolves)
      (Scene.documentJson background (Scene.ofLayout t l).elements) := by
  have elements : (Scene.ofLayout t l).elements =
      elementsOf (Scene.ofLayout t l).boxes (Scene.ofLayout t l).arrows := rfl
  refine ⟨?_, ?_, ?_⟩
  · rw [itemsOf_documentJson, List.map_map]
    refine nodup_map_of_nodup_map (isConsistent_ofLayout t l).names fun e e' same => ?_
    simpa [textOf?_id] using same
  · rw [elements, itemsOfType_rectangle, ← extentsOf_boxes, extentsOf, List.forall₂_map_left_iff,
      List.forall₂_map_right_iff, List.forall₂_same]
    exact fun b _ => isPlacedAt_json rfl rfl
  · rw [elements, ← extentsOf_boxes, itemsOfType_arrow, ← map_connection_arrows presents,
      List.forall₂_map_left_iff, List.forall₂_map_right_iff, List.forall₂_same]
    exact fun a member => isArrowItem_json background (ends?_of_mem_arrows member)

end Presents

end NetDiagram.Proofs.Drawing
