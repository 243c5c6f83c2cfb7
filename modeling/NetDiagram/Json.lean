/-!
# JSON documents

A JSON value and its text. The text is spread over lines: every item of a list and every field of
an object has a line of its own, indented by two blanks for each level, and empty lists and objects
stay on one line.
-/

namespace NetDiagram

inductive Json where
  | null
  | bool (value : Bool)
  /-- A number, as it is written. -/
  | number (text : String)
  | string (value : String)
  | list (items : List Json)
  /-- Fields in the order in which they are written. -/
  | object (fields : List (String × Json))
deriving Inhabited

namespace Json

def nat (n : Nat) : Json := number (toString n)

def strings (values : List String) : Json := list (values.map string)

def ofOption {β : Type} (f : β → Json) : Option β → Json
  | none => null
  | some b => f b

/-! ## Strings -/

/-- The form of one character in a string. The quote, the backslash and control characters are
escaped. -/
def escapeChar (c : Char) : List Char :=
  if c = '"' then ['\\', '"']
  else if c = '\\' then ['\\', '\\']
  else if c = '\n' then ['\\', 'n']
  else if c = '\r' then ['\\', 'r']
  else if c = '\t' then ['\\', 't']
  else if c = '\x08' then ['\\', 'b']
  else if c = '\x0c' then ['\\', 'f']
  else if c.toNat < 0x20 then
    ['\\', 'u', '0', '0', Nat.digitChar (c.toNat / 16), Nat.digitChar (c.toNat % 16)]
  else [c]

def quote (s : String) : String := .ofList ('"' :: (s.toList.flatMap escapeChar ++ ['"']))

/-! ## Text -/

def indentation (depth : Nat) : String := .ofList (List.replicate (2 * depth) ' ')

/-- Items on lines of their own, between two brackets. -/
def block (first last : String) (depth : Nat) (items : List String) : String :=
  match items with
  | [] => first ++ last
  | _ =>
    first ++ "\n" ++ ",\n".intercalate (items.map (indentation (depth + 1) ++ ·)) ++ "\n"
      ++ indentation depth ++ last

mutual

def text (depth : Nat) : Json → String
  | null => "null"
  | bool value => if value then "true" else "false"
  | number text => text
  | string value => quote value
  | list items => block "[" "]" depth (itemTexts (depth + 1) items)
  | object fields => block "\x7b" "\x7d" depth (fieldTexts (depth + 1) fields)

def itemTexts (depth : Nat) : List Json → List String
  | [] => []
  | item :: items => text depth item :: itemTexts depth items

def fieldTexts (depth : Nat) : List (String × Json) → List String
  | [] => []
  | (key, value) :: fields => (quote key ++ ": " ++ text depth value) :: fieldTexts depth fields

end

def pretty (value : Json) : String := text 0 value

end Json

end NetDiagram
