import NetDiagram.Settings.Value

/-!
# TOML: tables

A document fills a tree of tables step by step, and how a table came into being decides what may
still be added to it. A table with a header of its own takes no second header and no dotted keys, a
table that dotted keys have passed takes more of them and no header, and a table that is only
mentioned in headers can still become either. Lists that start with a header of double brackets grow
at their end.
-/

namespace NetDiagram.Toml

open Settings (Value)

inductive Origin where
  /-- Mentioned on the way to another table in a header. -/
  | mentioned
  /-- Made or passed by a dotted key. -/
  | dotted
  /-- Opened by a header of its own. -/
  | header
deriving DecidableEq, Repr

inductive Node where
  /-- A value that is complete. -/
  | leaf (value : Value)
  | table (origin : Origin) (entries : List (String × Node))
  /-- A list of tables that grows by headers, each with its entries. -/
  | tables (elements : List (List (String × Node)))

abbrev Entries := List (String × Node)

/-! ## Changing a tree -/

/-- Replaces the entry with the given key by what `f` makes of it, or adds one at the end. -/
def alter (key : String) (f : Option Node → Option Node) : Entries → Option Entries
  | [] => (f none).map fun node => [(key, node)]
  | (k, node) :: es =>
    if k = key then (f (some node)).map fun node => (k, node) :: es
    else (alter key f es).map ((k, node) :: ·)

def alterLast {β : Type} (f : β → Option β) : List β → Option (List β)
  | [] => none
  | [b] => (f b).map ([·])
  | b :: c :: cs => (alterLast f (c :: cs)).map (b :: ·)

/-- Puts a value under a dotted key. All tables on the way to it are of dotted keys from then on. A
list of tables can only stand before the last of them. -/
def insert (value : Value) : List String → Entries → Option Entries
  | [], _ => none
  | [key], es =>
    alter key (fun
      | none => some (.leaf value)
      | some _ => none) es
  | key :: next :: keys, es =>
    alter key (fun
      | none => (insert value (next :: keys) []).map (.table .dotted)
      | some (.table .header _) => none
      | some (.table _ inner) => (insert value (next :: keys) inner).map (.table .dotted)
      | some (.tables elements) =>
        if keys.isEmpty then none
        else (alterLast (insert value (next :: keys)) elements).map .tables
      | some (.leaf _) => none) es

def openTable : List String → Entries → Option Entries
  | [], _ => none
  | [key], es =>
    alter key (fun
      | none => some (.table .header [])
      | some (.table .mentioned inner) => some (.table .header inner)
      | some _ => none) es
  | key :: next :: keys, es =>
    alter key (fun
      | none => (openTable (next :: keys) []).map (.table .mentioned)
      | some (.table origin inner) => (openTable (next :: keys) inner).map (.table origin)
      | some (.tables elements) => (alterLast (openTable (next :: keys)) elements).map .tables
      | some (.leaf _) => none) es

def openElement : List String → Entries → Option Entries
  | [], _ => none
  | [key], es =>
    alter key (fun
      | none => some (.tables [[]])
      | some (.tables elements) => some (.tables (elements ++ [[]]))
      | some _ => none) es
  | key :: next :: keys, es =>
    alter key (fun
      | none => (openElement (next :: keys) []).map (.table .mentioned)
      | some (.table origin inner) => (openElement (next :: keys) inner).map (.table origin)
      | some (.tables elements) => (alterLast (openElement (next :: keys)) elements).map .tables
      | some (.leaf _) => none) es

def insertUnder (value : Value) (keys : List String) : List String → Entries → Option Entries
  | [], es => insert value keys es
  | key :: header, es =>
    alter key (fun
      | some (.table origin inner) => (insertUnder value keys header inner).map (.table origin)
      | some (.tables elements) => (alterLast (insertUnder value keys header) elements).map .tables
      | _ => none) es

/-! ## The finished tree -/

mutual

def Node.value : Node → Value
  | .leaf value => value
  | .table _ entries => .table (Node.entryValues entries)
  | .tables elements => .list (Node.elementValues elements)

def Node.entryValues : List (String × Node) → List (String × Value)
  | [] => []
  | (key, node) :: es => (key, node.value) :: Node.entryValues es

def Node.elementValues : List (List (String × Node)) → List Value
  | [] => []
  | e :: es => .table (Node.entryValues e) :: Node.elementValues es

end

end NetDiagram.Toml
