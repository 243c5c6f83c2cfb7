import NetDiagram.Proofs.Drawing.Labels
import NetDiagram.Proofs.Naming.Decoding
import NetDiagram.Topology.Basic

/-!
# What the lines of a flowchart say

A line of a flowchart can be read from the left: a word tells whether it opens or closes a block,
and if neither does it starts with a name, and what comes next tells whether it declares a node or
draws an edge. Names have neither blanks nor brackets in them and labels neither quotation marks nor
bars, so each part ends where the next one begins, and so does each line.

* `Clause`, `readClause?`: what a line can say, and how it is read.
* `IsReadAs`: how a text is read line by line.
* `readClause?_text`: every line says what it was written for.
-/

namespace NetDiagram.Proofs.Drawing
open Flowchart

/-! ## Clauses -/

/-- What a line says, with labels as they are written. -/
inductive Clause where
  | opening (name label : String)
  | closing
  | node (name label look : String)
  | edge (source label target : String)
deriving DecidableEq

def clauseOf : Line → Clause
  | .opening path label => .opening (blockId path) (escapeLabel label)
  | .closing _ => .closing
  | .node c => .node c.identity.text (escapeLabel c.name) c.kind.appearance.name
  | .edge _ c => .edge c.source.text (escapeLabel c.description) c.target.text

/-! ## Reading -/

def after? (word : String) (cs : List Char) : Option (List Char) :=
  if word.toList <+: cs then some (cs.drop word.toList.length) else none

def upTo (stops cs : List Char) : String × List Char :=
  (.ofList (cs.takeWhile (· ∉ stops)), cs.dropWhile (· ∉ stops))

def readOpening? (cs : List Char) : Option (Clause × List Char) := do
  let (name, cs) := upTo ['['] cs
  let (label, cs) := upTo ['"'] (← after? "[\"" cs)
  return (.opening name label, ← after? "\"]\n" cs)

def readNode? (name : String) (cs : List Char) : Option (Clause × List Char) := do
  let (label, cs) := upTo ['"'] (← after? "[\"" cs)
  let (look, cs) := upTo ['\n'] (← after? "\"]:::" cs)
  return (.node name label look, ← after? "\n" cs)

def readEdge? (source : String) (cs : List Char) : Option (Clause × List Char) := do
  let (label, cs) := upTo ['|'] (← after? " -->|" cs)
  let (target, cs) := upTo ['\n'] (← after? "| " cs)
  return (.edge source label target, ← after? "\n" cs)

/-- Reads a line up to its line feed, and leaves the rest. Blanks in front of it say nothing, and
labels may have line feeds in them. -/
def readClause? (cs : List Char) : Option (Clause × List Char) :=
  let cs := cs.dropWhile (· = ' ')
  match after? "end\n" cs with
  | some cs => some (.closing, cs)
  | none =>
    match after? "subgraph " cs with
    | some cs => readOpening? cs
    | none =>
      let (name, cs) := upTo ['[', ' '] cs
      readNode? name cs <|> readEdge? name cs

/-- A text is one line after another. -/
inductive IsReadAs : List Char → List Clause → Prop
  | nil : IsReadAs [] []
  | cons {cs rest : List Char} {clause : Clause} {clauses : List Clause} :
      readClause? cs = some (clause, rest) → IsReadAs rest clauses →
      IsReadAs cs (clause :: clauses)

/-- What a text without its last line feed says, if it is one line. -/
def readLine? (line : String) : Option Clause :=
  match readClause? (line.toList ++ ['\n']) with
  | some (clause, []) => some clause
  | _ => none

example : readLine? "    a -->|to \"b\"| c" = some (.edge "a" "to \"b\"" "c") := by
  decide

theorem IsReadAs.unique {cs : List Char} {clauses clauses' : List Clause}
    (first : IsReadAs cs clauses) (second : IsReadAs cs clauses') : clauses' = clauses := by
  have nothing : readClause? [] = none := by decide
  induction first generalizing clauses' with
  | nil =>
      cases second with
      | nil => rfl
      | cons read _ => cases nothing.symm.trans read
  | cons read _ ih =>
      cases second with
      | nil => cases nothing.symm.trans read
      | cons read' second =>
          cases read.symm.trans read'
          rw [ih second]

section Pieces

variable {word : String} {stops rest : List Char}

theorem after?_append : after? word (word.toList ++ rest) = some rest := by
  rw [after?, if_pos (List.prefix_append _ _), List.drop_left]

theorem after?_eq_none {cs : List Char} (other : ¬word.toList <+: cs) : after? word cs = none :=
  if_neg other

theorem upTo_append {c : Char} (free : ∀ d ∈ word.toList, d ∉ stops) (stop : c ∈ stops) :
    upTo stops (word.toList ++ c :: rest) = (word, c :: rest) := by
  have inside : ∀ d ∈ word.toList, decide (d ∉ stops) = true :=
    fun d member => decide_eq_true (free d member)
  rw [upTo, List.takeWhile_append_of_pos inside, List.dropWhile_append_of_pos inside]
  simp [stop]

end Pieces

/-! ## Names and labels -/

theorem not_mem_identity {p : Path} {c : Char} (plain : Identity.isPlain c = false)
    (underscore : c ≠ '_') : c ∉ p.identity.text.toList := by
  intro member
  exact (Naming.identity_characters p c member).ne plain underscore rfl

theorem underscore_mem_identity (p : Path) : '_' ∈ p.identity.text.toList := by
  simp [Path.identity, Path.names, Identity.separator]

theorem not_prefix_identity {word : String} {c : Char} (foreign : c ∈ word.toList)
    (plain : Identity.isPlain c = false) (free : '_' ∉ word.toList) (p : Path)
    (rest : List Char) : ¬word.toList <+: p.identity.text.toList ++ rest := by
  have underscore : c ≠ '_' := ne_of_mem_of_not_mem foreign free
  intro start
  rcases List.prefix_or_prefix_of_prefix start (List.prefix_append _ rest) with front | front
  · exact not_mem_identity plain underscore (front.subset foreign)
  · exact free (front.subset (underscore_mem_identity p))

theorem not_opening_identity (p : Path) (rest : List Char) :
    ¬"subgraph ".toList <+: p.identity.text.toList ++ rest :=
  not_prefix_identity (c := ' ') (by decide) (by decide) (by decide) p rest

theorem not_mem_toDigits {c : Char} (other : c.isDigit = false) (n : Nat) :
    c ∉ Nat.toDigits 10 n := by
  intro member
  have digit : c.isDigit = true := Nat.isDigit_of_mem_toDigits (by decide) (by decide) member
  exact Bool.noConfusion (other.symm.trans digit)

theorem not_mem_blockId {c : Char} (other : c ∉ ['s', 'g', '_', 'n']) (noDigit : c.isDigit = false)
    (path : BlockPath) : c ∉ (blockId path).toList := by
  simp only [List.mem_cons, List.not_mem_nil, or_false, not_or] at other
  simp [blockId, String.toList_join, not_mem_toDigits noDigit, other]

theorem isEmpty_description (c : Connection) : c.description.isEmpty = false := by
  simp [Connection.description]

/-- No description is empty, so every edge has a label. -/
theorem body_edge (depth : Nat) (c : Connection) : (Line.edge depth c).body =
    c.source.text ++ " -->|" ++ escapeLabel c.description ++ "| " ++ c.target.text := by
  rw [Line.body, isEmpty_description, if_neg Bool.false_ne_true]

/-- An edge joins nodes with the names of paths. -/
def IsNamed : Line → Prop
  | .edge _ c => ∃ source target : Path, c.source = source.identity ∧ c.target = target.identity
  | _ => True

/-! ## Words in front -/

theorem opening_iff {l : Line} (named : IsNamed l) :
    "subgraph ".toList <+: l.body.toList ↔ ∃ path label, l = .opening path label := by
  cases l with
  | opening path label =>
      simp only [Line.body, String.toList_append, List.append_assoc]
      exact ⟨fun _ => ⟨path, label, rfl⟩, fun _ => List.prefix_append _ _⟩
  | closing depth => simp [Line.body]
  | node c =>
      simp only [Line.body, c.identity_eq, String.toList_append, List.append_assoc]
      constructor
      · intro start
        exact absurd start (not_opening_identity _ _)
      · rintro ⟨path, label, ⟨⟩⟩
  | edge depth c =>
      obtain ⟨source, -, first, -⟩ := named
      simp only [body_edge, first, String.toList_append, List.append_assoc]
      constructor
      · intro start
        exact absurd start (not_opening_identity _ _)
      · rintro ⟨path, label, ⟨⟩⟩

theorem closing_iff (l : Line) : l.body = "end" ↔ ∃ depth, l = .closing depth := by
  have differs {c : Char} (sign : c ∈ l.body.toList) (foreign : c ∉ "end".toList) :
      l.body ≠ "end" := by
    intro same
    rw [same] at sign
    exact foreign sign
  cases l with
  | opening path label =>
      have other := differs (c := '[') (by simp [Line.body]) (by decide)
      simp [other]
  | closing depth => simp [Line.body]
  | node c =>
      have other := differs (c := '[') (by simp [Line.body]) (by decide)
      simp [other]
  | edge depth c =>
      have other := differs (c := '>') (by simp [body_edge]) (by decide)
      simp [other]

/-! ## Every line -/

/-- A name has a first character, and it is no blank. -/
theorem dropWhile_identity (p : Path) (rest : List Char) :
    (p.identity.text.toList ++ rest).dropWhile (· = ' ') = p.identity.text.toList ++ rest := by
  have free : ' ' ∉ p.identity.text.toList := not_mem_identity (by decide) (by decide)
  obtain ⟨c, cs, name⟩ := List.exists_cons_of_ne_nil
    (List.ne_nil_of_mem (underscore_mem_identity p))
  rw [name] at free ⊢
  refine List.dropWhile_cons_of_neg ?_
  rw [decide_eq_true_iff]
  rintro rfl
  exact free List.mem_cons_self

section Parts

variable (name : String) {label : String}

theorem upTo_of_not_mem {c : Char} (free : c ∉ label.toList) (rest : List Char) :
    upTo [c] (label.toList ++ c :: rest) = (label, c :: rest) := by
  refine upTo_append (fun d member => ?_) List.mem_cons_self
  rw [List.mem_singleton]
  exact ne_of_mem_of_not_mem member free

theorem readOpening?_append (plain : '[' ∉ name.toList) (free : '"' ∉ label.toList)
    (rest : List Char) :
    readOpening? (name.toList ++ '[' :: '"' :: (label.toList ++ '"' :: ']' :: '\n' :: rest)) =
      some (.opening name label, rest) := by
  have bracket : after? "[\"" ('[' :: '"' :: (label.toList ++ '"' :: ']' :: '\n' :: rest)) =
      some (label.toList ++ '"' :: ']' :: '\n' :: rest) := after?_append
  have last : after? "\"]\n" ('"' :: ']' :: '\n' :: rest) = some rest := after?_append
  simp [readOpening?, upTo_of_not_mem plain, bracket, upTo_of_not_mem free, last]

theorem after?_lineFeed (rest : List Char) : after? "\n" ('\n' :: rest) = some rest :=
  after?_append

theorem readNode?_append (free : '"' ∉ label.toList) {look : String} (whole : '\n' ∉ look.toList)
    (rest : List Char) :
    readNode? name ('[' :: '"' :: (label.toList ++ '"' :: ']' :: ':' :: ':' :: ':' ::
      (look.toList ++ '\n' :: rest))) = some (.node name label look, rest) := by
  have bracket : after? "[\"" ('[' :: '"' :: (label.toList ++ '"' :: ']' :: ':' :: ':' :: ':' ::
      (look.toList ++ '\n' :: rest))) = some (label.toList ++ '"' :: ']' :: ':' :: ':' :: ':' ::
        (look.toList ++ '\n' :: rest)) := after?_append
  have last : after? "\"]:::" ('"' :: ']' :: ':' :: ':' :: ':' :: (look.toList ++ '\n' :: rest)) =
      some (look.toList ++ '\n' :: rest) := after?_append
  simp [readNode?, bracket, upTo_of_not_mem free, last, upTo_of_not_mem whole, after?_lineFeed]

theorem readNode?_blank (rest : List Char) : readNode? name (' ' :: rest) = none := by
  have other : after? "[\"" (' ' :: rest) = none := after?_eq_none (by simp)
  simp [readNode?, other]

theorem readEdge?_append (free : '|' ∉ label.toList) {target : String}
    (whole : '\n' ∉ target.toList) (rest : List Char) :
    readEdge? name (' ' :: '-' :: '-' :: '>' :: '|' :: (label.toList ++ '|' :: ' ' ::
      (target.toList ++ '\n' :: rest))) = some (.edge name label target, rest) := by
  have arrow : after? " -->|" (' ' :: '-' :: '-' :: '>' :: '|' :: (label.toList ++ '|' :: ' ' ::
      (target.toList ++ '\n' :: rest))) = some (label.toList ++ '|' :: ' ' ::
        (target.toList ++ '\n' :: rest)) := after?_append
  have last : after? "| " ('|' :: ' ' :: (target.toList ++ '\n' :: rest)) =
      some (target.toList ++ '\n' :: rest) := after?_append
  simp [readEdge?, arrow, upTo_of_not_mem free, last, upTo_of_not_mem whole, after?_lineFeed]

end Parts

theorem toList_opening (path : BlockPath) (label : String) :
    (Line.opening path label).body.toList = "subgraph ".toList ++
      ((blockId path).toList ++ '[' :: '"' :: ((escapeLabel label).toList ++ ['"', ']'])) := by
  simp [Line.body]

theorem toList_node (c : Component) : (Line.node c).body.toList = c.identity.text.toList ++
    '[' :: '"' :: ((escapeLabel c.name).toList ++
      '"' :: ']' :: ':' :: ':' :: ':' :: c.kind.appearance.name.toList) := by
  simp [Line.body]

theorem toList_edge (depth : Nat) (c : Connection) : (Line.edge depth c).body.toList =
    c.source.text.toList ++ ' ' :: '-' :: '-' :: '>' :: '|' ::
      ((escapeLabel c.description).toList ++ '|' :: ' ' :: c.target.text.toList) := by
  simp [body_edge]

theorem dropWhile_text {l : Line} (named : IsNamed l) (rest : List Char) :
    (l.text.toList ++ rest).dropWhile (· = ' ') = l.body.toList ++ rest := by
  have blanks : ∀ c ∈ List.replicate (2 * l.depth) ' ', decide (c = ' ') = true :=
    fun c member => decide_eq_true (List.eq_of_mem_replicate member)
  rw [Line.text, String.toList_append, String.toList_ofList, List.append_assoc,
    List.dropWhile_append_of_pos blanks]
  cases l with
  | opening path label =>
      rw [toList_opening]
      rfl
  | closing depth => simp [Line.body]
  | node c => rw [toList_node, c.identity_eq, List.append_assoc, dropWhile_identity]
  | edge depth c =>
      obtain ⟨source, -, name, -⟩ := named
      rw [toList_edge, name, List.append_assoc, dropWhile_identity]

theorem upTo_identity (p : Path) {c : Char} (stop : c ∈ ['[', ' ']) (rest : List Char) :
    upTo ['[', ' '] (p.identity.text.toList ++ c :: rest) = (p.identity.text, c :: rest) := by
  refine upTo_append (fun d member stops => ?_) stop
  rcases List.mem_cons.mp stops with rfl | stops
  · exact not_mem_identity (by decide) (by decide) member
  · rw [List.mem_singleton.mp stops] at member
    exact not_mem_identity (by decide) (by decide) member

theorem lineFeed_not_mem_identity (p : Path) : '\n' ∉ p.identity.text.toList :=
  not_mem_identity (by decide) (by decide)

theorem lineFeed_not_mem_look (kind : DeviceKind) : '\n' ∉ kind.appearance.name.toList := by
  cases kind <;> decide

/-- A line that starts with the name of a node is neither the end of a block nor the start of
one. -/
theorem readClause?_identity {cs : List Char} (p : Path) {c : Char} (stop : c ∈ ['[', ' '])
    {rest : List Char}
    (front : cs.dropWhile (· = ' ') = p.identity.text.toList ++ c :: rest) :
    readClause? cs = (readNode? p.identity.text (c :: rest) <|>
      readEdge? p.identity.text (c :: rest)) := by
  have last : after? "end\n" (p.identity.text.toList ++ c :: rest) = none :=
    after?_eq_none (not_prefix_identity (c := '\n') (by decide) (by decide) (by decide) p _)
  have first : after? "subgraph " (p.identity.text.toList ++ c :: rest) = none :=
    after?_eq_none (not_opening_identity p _)
  simp [readClause?, front, last, first, upTo_identity p stop]

theorem readClause?_text {l : Line} (named : IsNamed l) (rest : List Char) :
    readClause? (l.text.toList ++ '\n' :: rest) = some (clauseOf l, rest) := by
  have front := dropWhile_text named ('\n' :: rest)
  cases l with
  | opening path label =>
      rw [toList_opening, List.append_assoc] at front
      have other : after? "end\n" ("subgraph ".toList ++ ((blockId path).toList ++ '[' :: '"' ::
          ((escapeLabel label).toList ++ ['"', ']']) ++ '\n' :: rest)) = none :=
        after?_eq_none (by simp)
      have opening := readOpening?_append _
        (not_mem_blockId (by decide : '[' ∉ ['s', 'g', '_', 'n']) (by decide) path)
        (not_mem_escapeLabel label).1 rest
      rw [readClause?, front, other, after?_append]
      simpa [clauseOf] using opening
  | closing depth =>
      have word : (Line.closing depth).body.toList ++ '\n' :: rest = "end\n".toList ++ rest := by
        simp [Line.body]
      rw [readClause?, front, word, after?_append]
      rfl
  | node c =>
      rw [toList_node, c.identity_eq, List.append_assoc, List.cons_append] at front
      have node := readNode?_append c.path.identity.text (not_mem_escapeLabel c.name).1
        (lineFeed_not_mem_look c.kind) rest
      rw [readClause?_identity c.path (by decide) front]
      simp [node, clauseOf, c.identity_eq]
  | edge depth c =>
      obtain ⟨source, target, first, second⟩ := named
      rw [toList_edge, first, second, List.append_assoc, List.cons_append] at front
      have edge := readEdge?_append source.identity.text
        (not_mem_escapeLabel c.description).2 (lineFeed_not_mem_identity target) rest
      rw [readClause?_identity source (by decide) front]
      simp [readNode?_blank, edge, clauseOf, first, second]

theorem isReadAs_lines {ls : List Line} (named : ∀ l ∈ ls, IsNamed l) :
    IsReadAs (ls.flatMap fun l => l.text.toList ++ ['\n']) (ls.map clauseOf) := by
  induction ls with
  | nil => exact .nil
  | cons l ls ih =>
      obtain ⟨first, later⟩ := List.forall_mem_cons.mp named
      rw [List.flatMap_cons, List.append_assoc, List.map_cons]
      exact .cons (readClause?_text first _) (ih later)

theorem readLine?_text {l : Line} (named : IsNamed l) : readLine? l.text = some (clauseOf l) := by
  rw [readLine?, readClause?_text named]

end NetDiagram.Proofs.Drawing
