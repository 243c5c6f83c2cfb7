import NetDiagram.Classification

/-!
# Documents

The formats in which a topology can be drawn, a finished document, and the look of components,
which all formats share.
-/

namespace NetDiagram

/-! ## Formats -/

inductive Format where
  | drawIo
  | mermaid
  | excalidraw
deriving DecidableEq, Repr

namespace Format

def name : Format → String
  | drawIo => "drawio"
  | mermaid => "mermaid"
  | excalidraw => "excalidraw"

def extension : Format → String
  | drawIo => "drawio"
  | mermaid => "mmd"
  | excalidraw => "excalidraw"

def all : List Format := [drawIo, mermaid, excalidraw]

/-- The format that a name stands for, in any mix of ASCII case. -/
def ofName? (name : String) : Option Format :=
  match name.toLower with
  | "drawio" | "draw.io" | "xml" => some drawIo
  | "mermaid" | "mmd" => some mermaid
  | "excalidraw" => some excalidraw
  | _ => none

def unknownMessage (name : String) : String := "Unknown output format `" ++ name ++ "`"

end Format

/-! ## Finished documents -/

namespace Document

structure Stats where
  components : Nat := 0
  connections : Nat := 0
  /-- The connections that are left out because one of their ends is not shown. -/
  dropped : Nat := 0
deriving DecidableEq, Repr

/-- What a document says in place of a diagram when there is nothing to draw. -/
def placeholder : String := "暂无拓扑数据"

end Document

structure Document where
  format : Format
  content : String
  stats : Document.Stats
deriving DecidableEq, Repr

namespace Document

def length (d : Document) : Nat := d.content.length

def isEmpty (d : Document) : Bool := d.content.isEmpty

end Document

/-! ## The look of components -/

structure Appearance where
  name : String
  stroke : String
  font : String
  strokeWidth : Nat
  isBold : Bool
deriving DecidableEq, Repr

def DeviceKind.appearance : DeviceKind → Appearance
  | router => ⟨"router", "#2196F3", "#1976D2", 2, true⟩
  | switch => ⟨"switch", "#4CAF50", "#388E3C", 2, true⟩
  | firewall => ⟨"firewall", "#F44336", "#D32F2F", 2, true⟩
  | server => ⟨"server", "#FF9800", "#F57C00", 2, true⟩
  | loadBalancer => ⟨"loadbalancer", "#9C27B0", "#6A1B9A", 2, true⟩
  | unknown => ⟨"unknown", "#9E9E9E", "#616161", 1, false⟩

end NetDiagram
