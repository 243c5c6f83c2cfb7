import NetDiagram.Text.Blank

/-!
# Directions

The axis along which the environments of a diagram follow each other. The inside of an environment
does not depend on it.
-/

namespace NetDiagram

/-- The axis along which environments are placed. -/
inductive Direction where
  | leftToRight
  | topToBottom
deriving DecidableEq, Repr, Inhabited

namespace Direction

def name : Direction → String
  | leftToRight => "lr"
  | topToBottom => "tb"

def keyword : Direction → String
  | leftToRight => "LR"
  | topToBottom => "TB"

/-- The direction that a word stands for, whatever its case and the blanks around it. -/
def ofText? (text : String) : Option Direction :=
  match (Text.trim text).toLower with
  | "lr" | "row" | "row-major" => some leftToRight
  | "tb" | "td" | "column" | "column-major" => some topToBottom
  | _ => none

def unknownMessage (text : String) : String :=
  "unknown direction `" ++ text ++ "`, expected `lr` or `tb`"

/-- The direction with exactly the given name, in lower or upper case. -/
def ofName? : String → Option Direction
  | "lr" | "LR" => some leftToRight
  | "tb" | "TB" => some topToBottom
  | _ => none

end Direction

end NetDiagram
