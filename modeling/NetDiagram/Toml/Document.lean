import NetDiagram.Toml.Scalar
import NetDiagram.Toml.Table

/-!
# TOML: documents

A document is a list of headers and of entries for the table that the last header has opened.
Values nest, and keys have parts, up to a limit of their own. Every step of the reading takes at
least one character, so the length of the text bounds the number of steps.
-/

namespace NetDiagram.Toml

open Settings (Value)

/-- How deep values may be nested, and how many parts a key may have. -/
def depthLimit : Nat := 80

/-! ## Spaces, comments and keys -/

def blanks : Reader Unit := modify (List.dropWhile isBlank)

def takes (wanted : Char) : Reader Bool := do
  match ← get with
  | c :: cs =>
    if c = wanted then
      set cs
      return true
    else return false
  | [] => return false

def exactly (wanted : Char) : Reader Unit := do
  guard (← takes wanted)

def takesLineEnd : Reader Bool := do
  match afterLineEnd? (← get) with
  | some cs =>
    set cs
    return true
  | none => return false

def comment : Reader Unit := do
  match ← get with
  | '#' :: cs =>
    let text := cs.takeWhile fun c => c != '\r' && c != '\n'
    guard (text.all isText)
    set (cs.drop text.length)
  | _ => return

/-- Skips blanks, comments and line ends. Every line takes one unit of fuel. -/
def filler : Nat → Reader Unit
  | 0 => failure
  | fuel + 1 => do
    blanks
    comment
    if ← takesLineEnd then filler fuel

def isKeyChar (c : Char) : Bool := c.isAlphanum || c == '-' || c == '_'

def simpleKey : Reader String := do
  let cs ← get
  match singleLine? cs with
  | some (key, rest) =>
    set rest
    return key
  | none =>
    let key := cs.takeWhile isKeyChar
    guard !key.isEmpty
    set (cs.drop key.length)
    return .ofList key

/-- Takes parts of a key with dots between them, at most as many as given. -/
def keyParts : Nat → Reader (List String)
  | 0 => failure
  | more + 1 => do
    blanks
    let first ← simpleKey
    blanks
    if ← takes '.' then return first :: (← keyParts more)
    else return [first]

def key : Reader (List String) := keyParts depthLimit

/-! ## Values -/

mutual

/-- Takes a value that has the given number of values around it. -/
def value (depth : Nat) : Nat → Reader Value
  | 0 => failure
  | fuel + 1 => do
    match ← get with
    | '[' :: cs =>
      guard (depth < depthLimit)
      set cs
      return .list (← items (depth + 1) fuel)
    | '\x7b' :: cs =>
      guard (depth < depthLimit)
      set cs
      return .table (Node.entryValues (← entries (depth + 1) fuel []))
    | cs =>
      match string? cs with
      | some (text, rest) =>
        set rest
        return .text text
      | none =>
        guard (cs.head?.any isPlain)
        let (word, rest) := takePlain cs
        set rest
        plain? word

def items (depth : Nat) : Nat → Reader (List Value)
  | 0 => failure
  | fuel + 1 => do
    filler (fuel + 1)
    if ← takes ']' then return []
    let first ← value depth fuel
    filler (fuel + 1)
    if ← takes ',' then return first :: (← items depth fuel)
    exactly ']'
    return [first]

/-- Takes the entries of a table within a value, after its opening brace and some entries. Only
within a key the line has to stay the same. -/
def entries (depth : Nat) : Nat → Entries → Reader Entries
  | 0, _ => failure
  | fuel + 1, known => do
    filler (fuel + 1)
    if ← takes '\x7d' then return known
    let keys ← key
    filler (fuel + 1)
    exactly '='
    filler (fuel + 1)
    let known ← insert (← value depth fuel) keys known
    filler (fuel + 1)
    if ← takes ',' then entries depth fuel known
    else
      exactly '\x7d'
      return known

end

/-! ## Headers and entries -/

/-- What has been read: the tree, and the header whose table is being filled. -/
structure Draft where
  root : Entries := []
  header : List String := []

def expression (fuel : Nat) (d : Draft) : Reader Draft := do
  match ← get with
  | '[' :: '[' :: cs =>
    set cs
    let keys ← key
    exactly ']'
    exactly ']'
    return ⟨← openElement keys d.root, keys⟩
  | '[' :: cs =>
    set cs
    let keys ← key
    exactly ']'
    return ⟨← openTable keys d.root, keys⟩
  | _ =>
    let keys ← key
    exactly '='
    blanks
    return { d with root := ← insertUnder (← value 0 fuel) keys d.header d.root }

/-- Takes all headers and entries. Every line takes one unit of fuel. -/
def expressions : Nat → Draft → Reader Draft
  | 0, _ => failure
  | fuel + 1, d => do
    filler (fuel + 1)
    if (← get).isEmpty then return d
    let d ← expression fuel d
    blanks
    comment
    if (← get).isEmpty then return d
    guard (← takesLineEnd)
    expressions fuel d

/-- The tree that a document describes, or nothing if it is malformed. A byte order mark at its
start does not count. -/
def read? (text : String) : Option Value := do
  let cs := match text.toList with
    | '\ufeff' :: cs => cs
    | cs => cs
  let (d, _) ← (expressions (2 * cs.length + 2) {}).run cs
  return .table (Node.entryValues d.root)

end NetDiagram.Toml
