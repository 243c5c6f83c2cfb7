/-!
# Values of a settings document

A settings document, whatever its notation, is a tree of tables, lists and plain values. Notations
differ in what may stand in place of something else; a `Convention` says how.
-/

namespace NetDiagram.Settings

inductive Value where
  /-- The absent value of notations that have one. -/
  | null
  | bool (value : Bool)
  | integer (value : Int)
  | float (value : Float)
  /-- A number without a value, or with one that is out of range. It only matters where it is looked
  at. -/
  | unreadable
  | text (value : String)
  /-- A date, a time, or both. -/
  | moment (text : String)
  | list (items : List Value)
  | table (entries : List (String × Value))
deriving Inhabited

namespace Value

def get? (key : String) : Value → Option Value
  | table entries => entries.lookup key
  | _ => none

mutual

def isReadable : Value → Bool
  | unreadable => false
  | list items => areItemsReadable items
  | table entries => areEntriesReadable entries
  | _ => true

def areItemsReadable : List Value → Bool
  | [] => true
  | item :: items => isReadable item && areItemsReadable items

def areEntriesReadable : List (String × Value) → Bool
  | [] => true
  | (_, value) :: entries => isReadable value && areEntriesReadable entries

end

end Value

/-- What a notation of settings documents lets stand in place of something else. -/
structure Convention where
  /-- Whether a list in place of a table may go on after the last entry of the table. -/
  allowsSpareItems : Bool
  /-- Whether a value adds nothing to its key, so that the key can stand for a word. -/
  isVoid : Value → Bool

namespace Convention

/-- In JSON only null adds nothing. -/
def json : Convention where
  allowsSpareItems := false
  isVoid
    | .null => true
    | _ => false

/-- In TOML empty tables and empty lists add nothing. -/
def toml : Convention where
  allowsSpareItems := true
  isVoid
    | .table [] => true
    | .list [] => true
    | _ => false

end Convention

end NetDiagram.Settings
