/-!
# XML documents

An element has attributes and children and no text of its own. Its text is spread over lines, one
for each tag, indented by two blanks for each level. Values of attributes are escaped when they are
written, so a value can be any string.
-/

namespace NetDiagram.Xml

inductive Element where
  | mk (tag : String) (attributes : List (String × String)) (children : List Element)
deriving Inhabited

/-! ## Escaping -/

/-- The form of one character in a value. The five characters with a meaning in markup become
entities. -/
def escapeChar (c : Char) : List Char :=
  if c = '&' then "&amp;".toList
  else if c = '<' then "&lt;".toList
  else if c = '>' then "&gt;".toList
  else if c = '"' then "&quot;".toList
  else if c = '\x27' then "&#39;".toList
  else [c]

def escape (s : String) : String := .ofList (s.toList.flatMap escapeChar)

/-! ## Text -/

def indentation (depth : Nat) : String := .ofList (List.replicate (2 * depth) ' ')

def attributeText (a : String × String) : String := " " ++ a.1 ++ "=\"" ++ escape a.2 ++ "\""

def tagText (tag : String) (attributes : List (String × String)) : String :=
  tag ++ String.join (attributes.map attributeText)

mutual

/-- The lines of an element at a level of indentation. An element without children has a single
tag. -/
def Element.lines (depth : Nat) : Element → List String
  | .mk tag attributes [] => [indentation depth ++ "<" ++ tagText tag attributes ++ "/>"]
  | .mk tag attributes (child :: children) =>
    (indentation depth ++ "<" ++ tagText tag attributes ++ ">")
      :: (child.lines (depth + 1) ++ linesOfAll (depth + 1) children
        ++ [indentation depth ++ "</" ++ tag ++ ">"])

def Element.linesOfAll (depth : Nat) : List Element → List String
  | [] => []
  | e :: es => e.lines depth ++ linesOfAll depth es

end

def declaration : String := "<?xml version=\"1.0\" encoding=\"UTF-8\"?>"

/-- The text of a document: the declaration and one element. Every line ends in a line feed. -/
def document (root : Element) : String :=
  String.join ((declaration :: root.lines 0).map (· ++ "\n"))

end NetDiagram.Xml
