import NetDiagram.Proofs.Drawing.Flowchart

/-!
# The blocks of a flowchart

A flowchart is a flat list of lines, and only the lines that open and close blocks give it a shape.
Read from the top with a stack of open blocks, every line gets the labels of the blocks around it.
The reading fails where a line closes a block that was not opened, and where a block is left open.

* `nest?`: the reading.
* `Nests`: lines whose reading does not depend on what follows.
* `nest?_steps`: the flowchart of a topology reads as the outline of its layout.
-/

namespace NetDiagram.Proofs.Drawing
open Flowchart

variable {α β : Type} {t : Topology} {l : Layout α}

/-! ## Reading lines -/

/-- What a line does. -/
inductive Mark where
  | opening (label : String)
  | closing
  | node (component : Component)
  | edge (connection : Connection)
deriving DecidableEq, Repr

/-- A line with the labels of the blocks around it, the innermost first. The lines that open and
close a block are not in it. -/
structure Nested where
  blocks : List String
  mark : Mark
deriving DecidableEq, Repr

def markOf : Line → Mark
  | .opening _ label => .opening label
  | .closing _ => .closing
  | .node c => .node c
  | .edge _ c => .edge c

/-- Reads lines when some blocks are open. -/
def nest? : List Line → List String → Option (List Nested)
  | [], [] => some []
  | [], _ :: _ => none
  | .opening _ label :: ls, blocks =>
      (nest? ls (label :: blocks)).map (⟨blocks, .opening label⟩ :: ·)
  | .closing _ :: _, [] => none
  | .closing _ :: ls, _ :: blocks => (nest? ls blocks).map (⟨blocks, .closing⟩ :: ·)
  | .node c :: ls, blocks => (nest? ls blocks).map (⟨blocks, .node c⟩ :: ·)
  | .edge _ c :: ls, blocks => (nest? ls blocks).map (⟨blocks, .edge c⟩ :: ·)

def Nests (blocks : List String) (ls : List Line) (xs : List Nested) : Prop :=
  ∀ rest, nest? (ls ++ rest) blocks = (nest? rest blocks).map (xs ++ ·)

variable {blocks : List String} {ls ls' : List Line} {xs xs' : List Nested}

theorem nest?_eq_some_of_nests (nests : Nests [] ls xs) : nest? ls [] = some xs := by
  have whole := nests []
  rwa [List.append_nil, nest?, Option.map_some, List.append_nil] at whole

theorem map_mark_of_nest? (read : nest? ls blocks = some xs) :
    xs.map (·.mark) = ls.map markOf := by
  induction ls generalizing blocks xs with
  | nil =>
      cases blocks <;> cases read
      rfl
  | cons l ls ih =>
      have later {blocks : List String} {x : Nested}
          (read : (nest? ls blocks).map (x :: ·) = some xs) :
          xs.map (·.mark) = x.mark :: ls.map markOf := by
        obtain ⟨xs', rest, rfl⟩ := Option.map_eq_some_iff.mp read
        rw [List.map_cons, ih rest]
      cases l with
      | opening path label => exact later read
      | closing depth =>
          cases blocks with
          | nil => cases read
          | cons label blocks => exact later read
      | node c => exact later read
      | edge depth c => exact later read

theorem nests_nil : Nests blocks [] [] := by
  intro rest
  simp

theorem Nests.append (first : Nests blocks ls xs) (second : Nests blocks ls' xs') :
    Nests blocks (ls ++ ls') (xs ++ xs') := by
  intro rest
  rw [List.append_assoc, first, second, Option.map_map]
  simp only [Function.comp_def, List.append_assoc]

theorem Nests.block {path : BlockPath} {label : String} {depth : Nat}
    (inside : Nests (label :: blocks) ls xs) :
    Nests blocks (.opening path label :: ls ++ [.closing depth])
      (⟨blocks, .opening label⟩ :: xs ++ [⟨blocks, .closing⟩]) := by
  intro rest
  rw [List.append_assoc, List.cons_append, nest?, inside, List.singleton_append, nest?,
    Option.map_map, Option.map_map]
  simp only [Function.comp_def, List.cons_append, List.append_assoc, List.nil_append]

theorem nests_flatMap {f : β → List Line} {g : β → List Nested} {bs : List β}
    (each : ∀ b ∈ bs, Nests blocks (f b) (g b)) : Nests blocks (bs.flatMap f) (bs.flatMap g) := by
  induction bs with
  | nil => exact nests_nil
  | cons b bs ih =>
      obtain ⟨first, later⟩ := List.forall_mem_cons.mp each
      rw [List.flatMap_cons, List.flatMap_cons]
      exact first.append (ih later)

theorem nests_map {f : β → Line} {g : β → Nested}
    (step : ∀ b rest, nest? (f b :: rest) blocks = (nest? rest blocks).map (g b :: ·))
    (bs : List β) : Nests blocks (bs.map f) (bs.map g) := by
  induction bs with
  | nil => exact nests_nil
  | cons b bs ih =>
      intro rest
      rw [List.map_cons, List.cons_append, step, ih, Option.map_map]
      rfl

theorem nests_nodes (cs : List Component) :
    Nests blocks (cs.map .node) (cs.map (⟨blocks, .node ·⟩)) :=
  nests_map (fun _ _ => rfl) cs

theorem nests_edges (depth : Nat) (cs : List Connection) :
    Nests blocks (cs.map (.edge depth)) (cs.map (⟨blocks, .edge ·⟩)) :=
  nests_map (fun _ _ => rfl) cs

/-! ## Outlines -/

/-- A block with its label around what stands inside. -/
def blockOutline (blocks : List String) (label : String) (inside : List String → List Nested) :
    List Nested :=
  ⟨blocks, .opening label⟩ :: inside (label :: blocks) ++ [⟨blocks, .closing⟩]

def areaOutline (t : Topology) (blocks : List String) (a : Layout.AreaBox α) : List Nested :=
  blockOutline blocks a.name fun inside => (known t a.components).map (⟨inside, .node ·⟩)

def datacenterOutline (t : Topology) (blocks : List String) (environment : String)
    (d : Layout.DatacenterBox α) : List Nested :=
  blockOutline blocks d.name fun inside => d.areas.flatMap (areaOutline t inside) ++
    (connectionsWithin environment d.name (sited t)).map (⟨inside, .edge ·⟩)

def environmentOutline (t : Topology) (e : Layout.EnvironmentBox α) : List Nested :=
  blockOutline [] e.name fun inside => e.datacenters.flatMap (datacenterOutline t inside e.name)

/-- The lines that a layout calls for. No account is kept of what has been declared. -/
def outline (t : Topology) (l : Layout α) : List Nested :=
  l.environments.flatMap (environmentOutline t) ++
    ((connectionsBetween (sited t)).filter t.resolves).map (⟨[], .edge ·⟩)

/-! ## The lines of steps -/

def linesOf (steps : List Step) : List Line := steps.filterMap (·.line?)

theorem linesOf_append (steps steps' : List Step) :
    linesOf (steps ++ steps') = linesOf steps ++ linesOf steps' :=
  List.filterMap_append

theorem linesOf_block (path : BlockPath) (label : String) (depth : Nat) (inner : List Step) :
    linesOf (.write (.opening path label) :: inner ++ [.write (.closing depth)]) =
      .opening path label :: linesOf inner ++ [.closing depth] := by
  rw [linesOf_append]
  rfl

theorem linesOf_nodeSteps (bs : List (Layout.ComponentBox α)) :
    linesOf (bs.map fun b => nodeStep t b.id) = (known t bs).map .node := by
  induction bs with
  | nil => rfl
  | cons b bs ih =>
      rw [linesOf] at ih ⊢
      rw [List.map_cons, List.filterMap_cons, ih, nodeStep]
      cases found : t.component? b.id with
      | none => rw [known_cons_of_none found]; rfl
      | some c => rw [known_cons_of_some found]; rfl

theorem linesOf_edgeSteps (before : List Identity) (depth : Nat) (cs : List Connection) :
    linesOf (cs.map (edgeStep before depth)) =
      (cs.filter fun c => before.contains c.source && before.contains c.target).map
        (.edge depth) := by
  induction cs with
  | nil => rfl
  | cons c cs ih =>
      rw [linesOf] at ih ⊢
      rw [List.map_cons, List.filterMap_cons, ih, List.filter_cons, edgeStep]
      cases before.contains c.source && before.contains c.target <;> rfl

theorem nests_areaSteps (path : BlockPath) (a : Layout.AreaBox α) :
    Nests blocks (linesOf (areaSteps t path a)) (areaOutline t blocks a) := by
  rw [areaSteps, linesOf_block, linesOf_nodeSteps]
  exact (nests_nodes _).block

theorem nests_areasSteps (path : BlockPath) (d : Layout.DatacenterBox α) :
    Nests blocks (linesOf (areasSteps t path d)) (d.areas.flatMap (areaOutline t blocks)) := by
  conv => arg 3; rw [← List.zipIdx_map_fst 0 d.areas]
  rw [areasSteps, linesOf, List.filterMap_flatMap, List.flatMap_map]
  apply nests_flatMap
  rintro ⟨a, position⟩ _
  exact nests_areaSteps (path ++ [position]) a

theorem nests_datacenterSteps {environment : String} {d : Layout.DatacenterBox α}
    (settled : Settled t (sited t) environment d) (before : List Identity) (path : BlockPath) :
    Nests blocks (linesOf (datacenterSteps t (sited t) environment before path d))
      (datacenterOutline t blocks environment d) := by
  have all : ((connectionsWithin environment d.name (sited t)).filter fun c =>
      (before ++ declared (areasSteps t path d)).contains c.source &&
        (before ++ declared (areasSteps t path d)).contains c.target) =
      connectionsWithin environment d.name (sited t) := by
    apply List.filter_eq_self.mpr
    intro c member
    obtain ⟨source, target⟩ := settled c member
    rw [← component?_areasSteps path, ← declared_eq] at source target
    simp [source, target]
  rw [datacenterSteps, List.cons_append, linesOf_block, linesOf_append, linesOf_edgeSteps, all]
  exact ((nests_areasSteps path d).append (nests_edges 2 _)).block

theorem nests_datacentersSteps {environment : String} {ds : List (Layout.DatacenterBox α)}
    (settled : ∀ d ∈ ds, Settled t (sited t) environment d) (before : List Identity)
    (outer : BlockPath) (position : Nat) :
    Nests blocks
      (linesOf (datacentersSteps t (sited t) environment before outer position ds))
      (ds.flatMap (datacenterOutline t blocks environment)) := by
  induction ds generalizing before position with
  | nil => exact nests_nil
  | cons d ds ih =>
      obtain ⟨first, later⟩ := List.forall_mem_cons.mp settled
      rw [datacentersSteps, linesOf_append, List.flatMap_cons]
      exact (nests_datacenterSteps first before _).append (ih later _ _)

theorem nests_environmentsSteps {es : List (Layout.EnvironmentBox α)}
    (settled : ∀ e ∈ es, ∀ d ∈ e.datacenters, Settled t (sited t) e.name d)
    (before : List Identity) (position : Nat) :
    Nests [] (linesOf (environmentsSteps t (sited t) before position es))
      (es.flatMap (environmentOutline t)) := by
  induction es generalizing before position with
  | nil => exact nests_nil
  | cons e es ih =>
      obtain ⟨first, later⟩ := List.forall_mem_cons.mp settled
      rw [environmentsSteps, linesOf_append, List.flatMap_cons, environmentSteps, linesOf_block]
      exact (nests_datacentersSteps first before _ _).block.append (ih later _ _)

/-- What is left out is left out by the outline too: only connections that do not resolve. -/
theorem nest?_steps (presents : Presents t l) :
    nest? (linesOf (steps t l)) [] = some (outline t l) := by
  have blocks := nests_environmentsSteps (settled_of_presents presents) [] 0
  have resolved : ((connectionsBetween (sited t)).filter fun c =>
      (declared (environmentsSteps t (sited t) [] 0 l.environments)).contains c.source &&
        (declared (environmentsSteps t (sited t) [] 0 l.environments)).contains c.target) =
      (connectionsBetween (sited t)).filter t.resolves := by
    apply List.filter_congr
    intro c _
    rw [declared_eq, component?_environmentsSteps]
    exact contains_shown presents c
  apply nest?_eq_some_of_nests
  rw [steps, linesOf_append, linesOf_edgeSteps, resolved]
  exact blocks.append (nests_edges 0 _)

end NetDiagram.Proofs.Drawing
