import NetDiagram.CommandLine.Failure

/-!
# Files

What the program needs to know about files is a `Disk`: what reading a path gives. A `FileSystem` can
also be written to, which replaces a file or leaves everything as it was. A `FileTree` is a
directory that is kept as a value, so that runs of the program can be followed without any real
file. Its paths are those of a file system: names with slashes between them, one dot for the
directory itself, and two dots for the one around it. The directories around the tree are taken to
hold nothing but the way to it.
-/

namespace NetDiagram.CommandLine

structure Disk where
  read : String → Except FileProblem ByteArray

namespace Disk

/-- Whether a path leads anywhere, be it to something that cannot be read. -/
def hasPath (d : Disk) (path : String) : Bool :=
  match d.read path with
  | .error .notFound => false
  | .error .notADirectory => false
  | .error .invalidName => false
  | .error .invalidPath => false
  | _ => true

def readText (d : Disk) (path : String) : Except FileProblem String := do
  match String.fromUTF8? (← d.read path) with
  | some text => return text
  | none => throw .invalidData

end Disk

/-- Files that can be read and written by path. Writing gives the files as they are afterwards, or
tells why nothing is written. -/
class FileSystem (σ : Type) where
  read : σ → String → Except FileProblem ByteArray
  write : σ → String → ByteArray → Except FileProblem σ

def FileSystem.disk {σ : Type} [FileSystem σ] (files : σ) : Disk := ⟨FileSystem.read files⟩

inductive Entry where
  | file (content : ByteArray)
  | directory

/-- A directory with everything below it, by the names on the way there. Directories around an
entry need no entry of their own. -/
structure FileTree where
  root : String
  entries : List (List String × Entry)

def longestName : Nat := 255

def longestPath : Nat := 4095

inductive Place where
  /-- The end of a way in the tree; the directory of the tree, if there are no names. -/
  | inside (names : List String)
  /-- A directory around the tree, or a name in one that is not on the way to the tree. -/
  | outside (name : Option String)
deriving DecidableEq, Repr

namespace Place

/-- The directory around a directory. The outermost one counts as around itself. -/
def parent : Place → Place
  | inside [] => outside none
  | inside (name :: names) => inside (name :: names).dropLast
  | outside _ => outside none

def child (name : String) : Place → Place
  | inside names => inside (names ++ [name])
  | outside _ => outside (some name)

end Place

namespace FileTree

def held? (t : FileTree) : Place → Option Entry
  | .inside names =>
    match t.entries.lookup names with
    | some found => some found
    | none =>
      if names.isEmpty || t.entries.any fun e => names.isPrefixOf e.1 then some .directory
      else none
  | .outside none => some .directory
  | .outside (some _) => none

/-- Follows the parts of a path from a directory. Every part but the last has to lead to a
directory. -/
def follow (t : FileTree) (place : Place) : List String → Except FileProblem Place
  | [] => .ok place
  | name :: names =>
    if name = "" ∨ name = "." then follow t place names
    else if name = ".." then follow t place.parent names
    else if longestName < name.utf8ByteSize then .error .invalidName
    else if names.isEmpty then .ok (place.child name)
    else
      match t.held? (place.child name) with
      | some .directory => follow t (place.child name) names
      | some (.file _) => .error .notADirectory
      | none => .error .notFound

def parts (t : FileTree) (path : String) : Except FileProblem (Place × List String) :=
  let inside := (t.root ++ "/").toList
  let cs := path.toList
  let names (cs : List Char) := (cs.splitOn '/').map String.ofList
  if cs.contains '\x00' then .error .invalidPath
  else if longestPath < path.utf8ByteSize then .error .invalidName
  else if cs.isEmpty then .error .notFound
  else if inside.isPrefixOf cs then .ok (.inside [], names (cs.drop inside.length))
  else if cs.head? = some '/' then .ok (.outside none, names cs)
  else .ok (.inside [], names cs)

def place (t : FileTree) (path : String) : Except FileProblem Place := do
  let (start, names) ← t.parts path
  t.follow start names

def read (t : FileTree) (path : String) : Except FileProblem ByteArray := do
  match t.held? (← t.place path) with
  | some (.file content) => return content
  | some .directory => throw .isADirectory
  | none => throw .notFound

/-- Writes a file, in place of what was in it. A path that ends in a slash is none of a file, but
its directory has to be there. A file outside of the tree is not kept. -/
def write (t : FileTree) (path : String) (content : ByteArray) : Except FileProblem FileTree := do
  let (start, names) ← t.parts path
  if path.endsWith "/" then
    let around := ((names.reverse.dropWhile (· = "")).drop 1).reverse
    let _ ← t.follow start (around ++ ["."])
    throw .isADirectory
  let place ← t.follow start names
  match place, t.held? place with
  | _, some .directory => throw .isADirectory
  | .inside names, _ =>
    return { t with entries := (names, .file content) :: t.entries.filter (·.1 ≠ names) }
  | .outside _, _ => return t

@[default_instance]
instance : FileSystem FileTree := ⟨read, write⟩

end FileTree

end NetDiagram.CommandLine
