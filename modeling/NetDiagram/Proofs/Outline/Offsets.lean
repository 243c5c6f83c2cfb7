import NetDiagram.Proofs.Bonds.Fields
import NetDiagram.Proofs.Notation.Values
import NetDiagram.Proofs.Outline.Graph
import NetDiagram.Proofs.Outline.Spots

/-!
# Places as they are written

What is drawn at a spot can be read from the two documents. A cell of a draw.io document says which
cell it is in and where it is in it, and the places of the cells from the layer down to it are the
boxes of the spot. A rectangle of a scene says where it is, and a text which rectangle it belongs to.

* `PlaceChain`: the places of the cells from the layer down to a cell.
* `IsCellAt`, `IsItemAt`: what the documents say at a spot.
* `drawings_agree_on_spots`: every two documents say this of the same spots.
-/

namespace NetDiagram.Proofs.Outline
open Cells Drawing Bonds Markup Notation Coordinate

variable {α : Type}

/-! ## Cells -/

def vertexCells (root : Xml.Element) : List Xml.Element :=
  (cellsIn root).filter fun e => attribute? "vertex" e = some "1"

/-- The places of the cells from the layer down to the cell with a name. -/
inductive PlaceChain (cells : List Xml.Element) : String → List Place → Prop
  | layer : PlaceChain cells "1" []
  | cell {e : Xml.Element} {id parent : String} {place : Place} {outer : List Place} :
      e ∈ cells → attribute? "id" e = some id → attribute? "parent" e = some parent →
      place? e = some place → PlaceChain cells parent outer → PlaceChain cells id (outer ++ [place])

/-- A cell has the label and the box of a spot, and only the chain to the spot leads to it. -/
structure IsCellAt (cells : List Xml.Element) (s : Spot Float32) (e : Xml.Element) : Prop where
  value : attribute? "value" e = some s.label
  place : place? e = some (.ofBounds s.stored)
  chain : ∃ id, attribute? "id" e = some id ∧ ∀ places,
    PlaceChain cells id places ↔ places = (s.environment.bounds :: s.chain).map .ofBounds

section Vertices

variable {vertices : List (Vertex Float32)}

theorem attribute?_element (v : Vertex Float32) :
    attribute? "id" v.element = some v.id.text ∧
      attribute? "value" v.element = some v.figure.label ∧
      attribute? "parent" v.element = some v.parent.text ∧
      place? v.element = some (.ofBounds v.bounds) := by
  refine ⟨rfl, ?_, ?_, ?_⟩
  all_goals simp [Vertex.element, attribute?, place?, geometryElement, Place.ofBounds,
    List.lookup_cons]

theorem Chain.placeChain {id : CellId} {bs : List (Bounds Float32)} (chain : Chain vertices id bs) :
    PlaceChain (vertices.map (·.element)) id.text (bs.map .ofBounds) := by
  induction chain with
  | layer => exact .layer
  | @vertex v outer member above ih =>
      obtain ⟨id, -, parent, place⟩ := attribute?_element v
      rw [List.map_append]
      exact .cell (List.mem_map_of_mem member) id parent place ih

theorem exists_chain_of_placeChain {name : String} {places : List Place}
    (chain : PlaceChain (vertices.map (·.element)) name places) (id : CellId)
    (named : name = id.text) : ∃ bs, Chain vertices id bs ∧ places = bs.map .ofBounds := by
  induction chain generalizing id with
  | layer =>
      have same : CellId.layer = id := text_injective named
      cases same
      exact ⟨[], .layer, rfl⟩
  | cell member called parent place _ ih =>
      obtain ⟨v, inside, rfl⟩ := List.mem_map.mp member
      obtain ⟨called', -, parent', place'⟩ := attribute?_element v
      obtain rfl := Option.some.inj (called.symm.trans called')
      obtain rfl := Option.some.inj (parent.symm.trans parent')
      obtain rfl := Option.some.inj (place.symm.trans place')
      obtain ⟨bs, above, rfl⟩ := ih v.parent rfl
      cases text_injective named
      exact ⟨bs ++ [v.bounds], .vertex inside above, by rw [List.map_append]; rfl⟩

theorem isCellAt_element {s : Spot Float32} {v : Vertex Float32}
    (lies : IsVertexAt vertices s v) : IsCellAt (vertices.map (·.element)) s v.element := by
  obtain ⟨id, value, -, place⟩ := attribute?_element v
  refine ⟨?_, ?_, v.id.text, id, fun places => ⟨fun chain => ?_, ?_⟩⟩
  · rw [value, lies.label]
  · rw [place, lies.bounds]
  · obtain ⟨bs, above, rfl⟩ := exists_chain_of_placeChain chain v.id rfl
    rw [lies.unique bs above]
  · rintro rfl
    exact lies.chain.placeChain

end Vertices

theorem vertexCells_documentElement (name : String) (page : Size Float32)
    (vertices : List (Vertex Float32)) (edges : List Edge) :
    vertexCells (documentElement name page ((cellsFor vertices edges).map (·.element))) =
      vertices.map (·.element) := by
  have boxes : ∀ e ∈ vertices.map (·.element), attribute? "vertex" e = some "1" := by
    rw [List.forall_mem_map]
    intro v _
    simp [Vertex.element, attribute?, List.lookup_cons]
  have links : ∀ e ∈ edges.map (·.element), attribute? "vertex" e ≠ some "1" := by
    rw [List.forall_mem_map]
    intro e _
    simp [Edge.element, attribute?, List.lookup_cons]
  have base : baseElements.filter (fun e => attribute? "vertex" e = some "1") = [] := by decide
  rw [vertexCells, cellsIn_documentElement, map_element_cellsFor, List.filter_append,
    List.filter_append, base, List.filter_eq_self.mpr (by simpa using boxes),
    List.filter_eq_nil_iff.mpr (by simpa using links), List.nil_append, List.append_nil]

/-! ## Rectangles -/

/-- An item is at the absolute place of a spot, and the only text that belongs to it is the label of
the spot. -/
structure IsItemAt (document : Json) (s : Spot Float32) (item : Json) : Prop where
  label : ∃ id, textOf? "id" item = some id ∧ labelsIn document id = [s.label]
  place : IsPlacedAt s.absolute item

section Items

open Scene

theorem textOf?_containerId (e : Element Float32) :
    textOf? "containerId" e.json = (container? e).map (·.written) := by
  cases shape : e.shape with
  | text content container =>
      cases container <;> simp [textOf?, fieldOf?, Element.json, shape, Shape.fields,
        List.lookup_cons, container?, Json.ofOption]
  | _ => simp [textOf?, fieldOf?, Element.json, shape, Shape.fields, List.lookup_cons, container?]

theorem textOf?_text (e : Element Float32) : textOf? "text" e.json = content? e := by
  cases shape : e.shape <;>
    simp [textOf?, fieldOf?, Element.json, shape, Shape.fields, List.lookup_cons, content?]

theorem labelsIn_documentJson (background : String) (es : List (Element Float32))
    (r : Element Float32) :
    labelsIn (documentJson background es) r.id.written = labels es r := by
  have belongs (e : Element Float32) : textOf? "containerId" e.json = some r.id.written ↔
      container? e = some r.id := by
    rw [textOf?_containerId, Option.map_eq_some_iff]
    constructor
    · rintro ⟨id, named, same⟩
      rw [named, written_injective same]
    · exact fun named => ⟨r.id, named, rfl⟩
  rw [labelsIn, labels, itemsOf_documentJson, List.filter_map, List.filterMap_map]
  simp only [Function.comp_def, textOf?_text, belongs]

theorem isItemAt_json {background : String} {es : List (Element Float32)} {s : Spot Float32}
    {r : Element Float32} (drawn : IsRectangleAt es s r) :
    IsItemAt (documentJson background es) s r.json :=
  ⟨⟨r.id.written, textOf?_id r, by rw [labelsIn_documentJson, drawn.labels]⟩,
    isPlacedAt_json drawn.corner drawn.size⟩

theorem forall₂_items (background : String) {t : Topology} {l : Layout Float32}
    {es : List (Element Float32)}
    (drawn : List.Forall₂ (IsRectangleAt es) (spots t l) (rectangles es)) :
    List.Forall₂ (IsItemAt (documentJson background es)) (spots t l)
      (itemsOfType "rectangle" (documentJson background es)) := by
  rw [itemsOfType_documentJson, List.forall₂_map_right_iff]
  exact drawn.imp fun _ _ => isItemAt_json

end Items

/-! ## Every two documents -/

/-- What two documents say can be read from them, and both say of the same spots in the same order
that there is something at them. -/
structure DocumentsAgree (t : Topology) (l : Layout Float32) (root : Xml.Element)
    (document : Json) : Prop where
  cells : List.Forall₂ (IsCellAt (vertexCells root)) (spots t l) (vertexCells root)
  items : List.Forall₂ (IsItemAt document) (spots t l) (itemsOfType "rectangle" document)

/-- Two documents have the elements of vertices and of rectangles at the same spots, and this is
what they say. -/
def DrawSameSpots (background : String) (t : Topology) (l : Layout Float32) : Prop :=
  ∃ (vertices : List (Vertex Float32)) (edges : List Edge) (es : List (Scene.Element Float32))
    (root : Xml.Element) (document : Json),
    (Cells.render t l).content = Xml.document (documentElement t.name (page l)
      (vertices.map (·.element) ++ edges.map (·.element))) ∧
    (Scene.render background t l).content = (Scene.documentJson background es).pretty ∧
    SameSpots t l vertices es ∧
    (∀ root', IsDocument (Cells.render t l).content root' ↔ root' = root) ∧
    (∀ document', IsJson (Scene.render background t l).content document' ↔ document' = document) ∧
    DocumentsAgree t l root document

theorem drawSameSpots {t : Topology} {l : Layout Float32} (some : t.components ≠ [])
    (boxes : l.environments ≠ []) (background : String) : DrawSameSpots background t l := by
  have drawn := isEmpty_or_isEmpty_of_ne_nil some boxes
  have same := sameSpots_ofLayout t l
  have scene : (Scene.render background t l).content =
      (Scene.documentJson background (Scene.ofLayout t l).elements).pretty := by
    rw [Scene.render, drawn, if_neg Bool.false_ne_true]
  obtain ⟨page, read⟩ := isDocument_render t l
  refine ⟨_, (Drawing.ofLayout t l).edges, _, _, _, ?_, scene, same, read, fun document' => ?_, ?_,
    forall₂_items background same.rectangles⟩
  · rw [Cells.render, drawn, if_neg Bool.false_ne_true]
  · rw [scene]
    exact isJson_documentJson_iff background _ document'
  · rw [cellsOf, drawn, if_neg Bool.false_ne_true, vertexCells_documentElement,
      List.forall₂_map_right_iff]
    exact same.vertices.imp fun _ _ => isCellAt_element

/-- The two documents for a topology and a layout draw the same boxes: the vertices relative to
each other, and the rectangles at the sums of their offsets. Where sums are exact, the sizes are
the same too. -/
theorem drawings_agree_on_spots {t : Topology} (some : t.components ≠ []) (background : String) :
    (∀ l : Layout Float32, l.environments ≠ [] → DrawSameSpots background t l) ∧
      ∀ l : Layout Rat,
        SameSpots t l (Drawing.ofLayout t l).vertices (Scene.ofLayout t l).elements ∧
        List.Forall₂ (fun v r => r.size = v.bounds.size) (Drawing.ofLayout t l).vertices
          (rectangles (Scene.ofLayout t l).elements) := by
  refine ⟨fun l boxes => drawSameSpots some boxes background, fun l => ?_⟩
  have same := sameSpots_ofLayout t l
  exact ⟨same, forall₂_sizes same⟩

/-- A component without a tree. -/
def lone : Topology where
  name := "net"
  environments := []
  components := [Topology.declare {} ⟨"a", "1", "z", "x"⟩]
  connections := []

/-- Boxes for the component and for one that is unknown. -/
def loneBoxes [Coordinate α] : Layout α :=
  let square (n : Nat) : Bounds α :=
    .ofTopLeft ⟨ofCount n, ofCount n⟩ ⟨ofCount 90, ofCount 90⟩
  { direction := .leftToRight
    environments := [⟨"a", square 50, [⟨"1", square 20, [⟨"z", square 30,
      [⟨⟨"gone"⟩, square 10⟩, ⟨⟨"a__1__z__x"⟩, square 40⟩]⟩]⟩]⟩] }

theorem spots_of_lone :
    lone.components ≠ [] ∧ (loneBoxes : Layout Float32).environments ≠ [] ∧
      (spots lone (loneBoxes : Layout Rat)).map (·.label) = ["a", "1", "z", "x"] ∧
      DrawSameSpots "#ffffff" lone loneBoxes ∧
      List.Forall₂ (fun v r => r.size = v.bounds.size)
        (Drawing.ofLayout lone (loneBoxes : Layout Rat)).vertices
        (rectangles (Scene.ofLayout lone loneBoxes).elements) := by
  have some : lone.components ≠ [] := by decide
  have boxes : (loneBoxes : Layout Float32).environments ≠ [] := List.cons_ne_nil _ _
  obtain ⟨rounded, precise⟩ := drawings_agree_on_spots some "#ffffff"
  exact ⟨some, boxes, by decide +kernel, rounded loneBoxes boxes, (precise loneBoxes).2⟩

end NetDiagram.Proofs.Outline
