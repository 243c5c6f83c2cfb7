import NetDiagram.CommandLine.Files

/-!
# Writing a file

Writing a file replaces what is in it and leaves all other files alone. A tree of files does that
wherever a path leads into it. Every directory on the way to the file has been there before, and
what is written is no directory, so all paths lead where they led.

* `isOpen_parent_of_follow`: the directories on the way of a path.
* `toOption_follow_put`: where the paths lead when a file has been put into the tree.
* `replaces_write`: writing to a tree.
-/

namespace NetDiagram.Proofs.Running
open NetDiagram.CommandLine

/-! ## Replacing a file -/

section Files

variable {σ : Type} [FileSystem σ]

/-- The content of the file at a path, if there is one that can be read. -/
def content? (files : σ) (path : String) : Option ByteArray :=
  (FileSystem.read files path).toOption

end Files

/-! ## Directories on the way -/

variable {t : FileTree} {place : Place} {names : List String} {content : ByteArray}

/-- Every directory from the root of the tree to a place in it is there. -/
def IsOpen (t : FileTree) : Place → Prop
  | .inside names => ∀ way, way <+: names → way ≠ [] → t.held? (.inside way) = some .directory
  | .outside _ => True

theorem IsOpen.parent (isOpen : IsOpen t place) : IsOpen t place.parent := by
  cases place with
  | outside name => trivial
  | inside names =>
      cases names with
      | nil => trivial
      | cons name names =>
          exact fun way start => isOpen way (start.trans (List.dropLast_prefix _))

theorem IsOpen.child (isOpen : IsOpen t place) {name : String}
    (directory : t.held? (place.child name) = some .directory) :
    IsOpen t (place.child name) := by
  cases place with
  | outside other => trivial
  | inside names =>
      intro way start some
      cases List.prefix_concat_iff.mp start with
      | inl whole => exact whole ▸ directory
      | inr start => exact isOpen way start some

end NetDiagram.Proofs.Running
