import NetDiagram.Decimal.Style
import NetDiagram.Document.Scene
import NetDiagram.Json

/-!
# Scenes as JSON

The text of a scene. Every element has the same fields, apart from those that only its kind has,
and two numbers that are made from its place, so equal scenes have equal texts.
-/

namespace NetDiagram.Scene

/-- A number of 31 bits that differs from element to element. -/
def seed (index : Nat) (salt : UInt64) : Nat :=
  (((UInt64.ofNat index + 1) * 2654435761 ^^^ salt) &&& 0x7fffffff).toNat

def versionSalt : UInt64 := 0x5bd1e995

/-- A coordinate. What is no number has no form in JSON. -/
def coordinate (x : Float32) : Json :=
  match (Decimal.unpack32 x).magnitude with
  | .notANumber | .infinite => .null
  | .zero | .finite _ => .number (Decimal.text32 .json x)

def bindingJson (id : ElementId) : Json :=
  .object [("elementId", .string id.written), ("focus", coordinate 0), ("gap", coordinate 1)]

def roundness (kind : Nat) : Json := .object [("type", .nat kind)]

def Shape.fields : Shape Float32 → List (String × Json)
  | rectangle => [("roundness", roundness 3)]
  | text content container =>
    [("text", .string content), ("fontSize", .nat 16), ("fontFamily", .nat 1),
      ("textAlign", .string "center"), ("verticalAlign", .string "top"), ("baseline", .nat 18),
      ("containerId", .ofOption (fun id => .string id.written) container),
      ("originalText", .string content), ("lineHeight", coordinate 1.2)]
  | arrow start stop way =>
    [("roundness", roundness 2), ("startBinding", .ofOption bindingJson start),
      ("endBinding", .ofOption bindingJson stop), ("startArrowhead", .null),
      ("endArrowhead", .string "arrow"),
      ("points", .list [.list [coordinate 0, coordinate 0],
        .list [coordinate way.x, coordinate way.y]])]

def Shape.fillStyle : Shape Float32 → String
  | rectangle => "hachure"
  | text _ _ => "solid"
  | arrow _ _ _ => "solid"

def Shape.strokeWidth : Shape Float32 → Nat
  | rectangle => 1
  | text _ _ => 1
  | arrow _ _ _ => 2

def boundJson (id : ElementId) : Json :=
  .object [("id", .string id.written), ("type", .string id.kind)]

def Element.json (e : Element Float32) : Json :=
  .object (
    [("id", .string e.id.written), ("type", .string e.id.kind)] ++ e.shape.fields ++
    [("x", coordinate e.corner.x),
      ("y", coordinate e.corner.y),
      ("width", coordinate e.size.width),
      ("height", coordinate e.size.height),
      ("angle", coordinate 0),
      ("strokeColor", .string e.stroke),
      ("backgroundColor", .string "transparent"),
      ("fillStyle", .string e.shape.fillStyle),
      ("strokeWidth", .nat e.shape.strokeWidth),
      ("strokeStyle", .string "solid"),
      ("roughness", .nat 1),
      ("opacity", .nat 100),
      ("groupIds", .list []),
      ("seed", .nat (seed e.id.index 0)),
      ("version", .nat 1),
      ("versionNonce", .nat (seed e.id.index versionSalt)),
      ("isDeleted", .bool false),
      ("boundElements", .list (e.bound.map boundJson)),
      ("updated", .nat 1),
      ("link", .null),
      ("locked", .bool false)])

def documentJson (background : String) (elements : List (Element Float32)) : Json :=
  .object [
    ("type", .string "excalidraw"),
    ("version", .nat 2),
    ("source", .string "topofac"),
    ("elements", .list (elements.map (·.json))),
    ("appState", .object [
      ("gridSize", .nat 10),
      ("viewBackgroundColor", .string background),
      ("currentItemStrokeColor", .string ink),
      ("currentItemBackgroundColor", .string "transparent"),
      ("currentItemEndArrowhead", .string "arrow"),
      ("scrollX", coordinate 0),
      ("scrollY", coordinate 0),
      ("zoom", .object [("value", coordinate 1)]),
      ("viewModeEnabled", .bool false),
      ("theme", .string "light")]),
    ("files", .object [])]

def defaultBackground : String := "#ffffff"

def render (background : String) (t : Topology) (l : Layout Float32) : Document :=
  if t.isEmpty || l.isEmpty then
    { format := .excalidraw
      content := (documentJson background [placeholderElement]).pretty
      stats := {} }
  else
    let scene := ofLayout t l
    { format := .excalidraw
      content := (documentJson background scene.elements).pretty
      stats := scene.stats }

end NetDiagram.Scene
