import NetDiagram.Proofs.Bonds.Consistency

/-!
# What the document of a scene says

The document of a scene is a JSON object with a list of objects in it, one for each element. What
it says of an element is under the names of fields, and what elements are called is text in them.

* `fieldOf?`, `textOf?`, `itemsOf`: what an object says under a name.
* `itemsOfType`, `labelsIn`, `boundAt?`: what is read from a document.
* `itemsOfType_documentJson`, `boundAt?_start`, `boundAt?_stop`: what has been written.
-/

namespace NetDiagram.Proofs.Bonds
open Scene

/-! ## Reading a document -/

def fieldOf? (name : String) : Json → Option Json
  | .object fields => fields.lookup name
  | _ => none

def textOf? (name : String) (value : Json) : Option String :=
  match fieldOf? name value with
  | some (.string text) => some text
  | _ => none

def itemsOf (name : String) (value : Json) : List Json :=
  match fieldOf? name value with
  | some (.list items) => items
  | _ => []

def itemsOfType (type : String) (document : Json) : List Json :=
  (itemsOf "elements" document).filter fun item => textOf? "type" item = some type

/-- What the texts say that name an item as their container. -/
def labelsIn (document : Json) (id : String) : List String :=
  ((itemsOf "elements" document).filter fun item => textOf? "containerId" item = some id).filterMap
    (textOf? "text")

/-- The name of what an item is bound to. -/
def boundAt? (side : String) (item : Json) : Option String :=
  (fieldOf? side item).bind (textOf? "elementId")

/-- What an item says about its place. -/
structure IsPlacedAt (b : Bounds Float32) (item : Json) : Prop where
  x : fieldOf? "x" item = some (coordinate b.minX)
  y : fieldOf? "y" item = some (coordinate b.minY)
  width : fieldOf? "width" item = some (coordinate b.width)
  height : fieldOf? "height" item = some (coordinate b.height)

/-! ## The items for elements -/

theorem textOf?_id (e : Element Float32) : textOf? "id" e.json = some e.id.written := by
  simp [textOf?, fieldOf?, Element.json]

theorem textOf?_type (e : Element Float32) : textOf? "type" e.json = some e.id.kind := by
  simp [textOf?, fieldOf?, Element.json, List.lookup_cons]

theorem isPlacedAt_json {e : Element Float32} {b : Bounds Float32} (corner : e.corner = b.corner)
    (size : e.size = b.size) : IsPlacedAt b e.json := by
  have fields : fieldOf? "x" e.json = some (coordinate e.corner.x) ∧
      fieldOf? "y" e.json = some (coordinate e.corner.y) ∧
      fieldOf? "width" e.json = some (coordinate e.size.width) ∧
      fieldOf? "height" e.json = some (coordinate e.size.height) := by
    refine ⟨?_, ?_, ?_, ?_⟩
    all_goals cases shape : e.shape <;>
      simp [fieldOf?, Element.json, shape, Shape.fields, List.lookup_cons]
  rw [corner, size] at fields
  obtain ⟨x, y, width, height⟩ := fields
  exact ⟨x, y, width, height⟩

theorem itemsOf_documentJson (background : String) (es : List (Element Float32)) :
    itemsOf "elements" (documentJson background es) = es.map (·.json) := by
  simp [itemsOf, fieldOf?, documentJson, List.lookup_cons]

theorem itemsOfType_documentJson (type background : String) (es : List (Element Float32)) :
    itemsOfType type (documentJson background es) =
      (es.filter fun e => e.id.kind = type).map (·.json) := by
  rw [itemsOfType, itemsOf_documentJson, List.filter_map]
  congr 1
  refine List.filter_congr fun e _ => ?_
  simp [textOf?_type]

section Arrows

variable {e : Element Float32} {start stop : Option ElementId} {way : Point Float32}
  (shape : e.shape = .arrow start stop way)
include shape

theorem boundAt?_start : boundAt? "startBinding" e.json = start.map (·.written) := by
  cases start <;> simp [boundAt?, fieldOf?, Element.json, shape, Shape.fields, List.lookup_cons,
    Json.ofOption, textOf?, bindingJson]

theorem boundAt?_stop : boundAt? "endBinding" e.json = stop.map (·.written) := by
  cases stop <;> simp [boundAt?, fieldOf?, Element.json, shape, Shape.fields, List.lookup_cons,
    Json.ofOption, textOf?, bindingJson]

end Arrows

end NetDiagram.Proofs.Bonds
