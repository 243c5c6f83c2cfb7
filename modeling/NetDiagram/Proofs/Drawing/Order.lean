import NetDiagram.Proofs.Drawing.Places
import NetDiagram.Proofs.Grouping.Connections

/-!
# The order of a flowchart

The flowchart of a topology that was read from a text can be read from the top to the bottom. The
blocks are nested like the groups of the topology, the connections within one datacenter end its
block, all others end the flowchart, and so an edge never refers to a component that is declared
below it.

* `IsInOrder`: what is asked of the lines.
* `isLast_outline`: nothing but edges follows an edge in its block.
* `isDeclaredIn_before`: what stands above an edge.
-/

namespace NetDiagram.Proofs.Drawing
open Flowchart Grouping

variable {α β : Type} {t : Topology} {l : Layout α} {blocks : List String} {xs ys : List Nested}

/-! ## Order -/

def Nested.isEdge (x : Nested) : Bool := x.drawn?.isSome

/-- After an edge, its block holds nothing but edges. -/
def IsLast (xs : List Nested) : Prop :=
  xs.Pairwise fun x y => x.isEdge → x.blocks <:+ y.blocks → y.isEdge

def IsDeclaredIn (xs : List Nested) (id : Identity) : Prop :=
  ∃ blocks c, ⟨blocks, .node c⟩ ∈ xs ∧ c.identity = id

/-- Every component is declared once, in the block of its area. -/
def HasNodes (t : Topology) (xs : List Nested) : Prop :=
  (xs.filterMap Nested.declared?).Perm (t.components.map fun c => (componentHome c, c))

/-- In every place stand the edges of the connections that belong there, in their order. -/
def HasEdges (t : Topology) (xs : List Nested) : Prop :=
  ∀ blocks, ((xs.filterMap Nested.drawn?).filter fun x => x.1 = blocks).map (·.2) =
    t.connections.filter fun c => connectionHome t c = blocks

structure IsInOrder (t : Topology) (xs : List Nested) : Prop where
  blocks : xs.filterMap Nested.opened? = groupNames t.environments
  /-- The labels around a line tell which block it is in. -/
  distinct : (groupNames t.environments).Nodup
  nodes : HasNodes t xs
  edges : HasEdges t xs
  last : IsLast xs
  ends : ∀ before after blocks c, xs = before ++ ⟨blocks, .edge c⟩ :: after →
    IsDeclaredIn before c.source ∧ IsDeclaredIn before c.target

theorem HasNodes.mem_components (nodes : HasNodes t xs) {c : Component}
    (member : ⟨blocks, .node c⟩ ∈ xs) : c ∈ t.components := by
  have declared : (blocks, c) ∈ xs.filterMap Nested.declared? :=
    List.mem_filterMap.mpr ⟨_, member, rfl⟩
  obtain ⟨c', known, same⟩ := List.mem_map.mp (nodes.mem_iff.mp declared)
  cases same
  exact known

theorem HasEdges.mem_connections (edges : HasEdges t xs) {c : Connection}
    (member : ⟨blocks, .edge c⟩ ∈ xs) : c ∈ t.connections ∧ connectionHome t c = blocks := by
  have drawn : (blocks, c) ∈ xs.filterMap Nested.drawn? :=
    List.mem_filterMap.mpr ⟨_, member, rfl⟩
  have placed : c ∈ t.connections.filter fun c => connectionHome t c = blocks := by
    rw [← edges blocks]
    exact List.mem_map.mpr ⟨_, List.mem_filter.mpr ⟨drawn, decide_eq_true rfl⟩, rfl⟩
  obtain ⟨known, home⟩ := List.mem_filter.mp placed
  exact ⟨known, of_decide_eq_true home⟩

/-! ## Lines of one block -/

/-- A line is in the block with a label, or it opens or closes this block. -/
def Within (blocks : List String) (label : String) (x : Nested) : Prop :=
  label :: blocks <:+ x.blocks ∨ x.blocks = blocks ∧ x.isEdge = false

theorem Within.suffix {label : String} {x : Nested} (within : Within blocks label x) :
    blocks <:+ x.blocks := by
  rcases within with inside | ⟨border, -⟩
  · exact (List.suffix_cons label blocks).trans inside
  · exact border ▸ List.suffix_rfl

section Block

variable {label : String} {inside : List String → List Nested}

theorem mem_blockOutline {x : Nested} :
    x ∈ blockOutline blocks label inside ↔ x = ⟨blocks, .opening label⟩ ∨
      x ∈ inside (label :: blocks) ∨ x = ⟨blocks, .closing⟩ := by
  simp [blockOutline]

theorem within_blockOutline
    (below : ∀ x ∈ inside (label :: blocks), label :: blocks <:+ x.blocks) :
    ∀ x ∈ blockOutline blocks label inside, Within blocks label x := by
  intro x member
  rcases mem_blockOutline.mp member with rfl | member | rfl
  · exact .inr ⟨rfl, rfl⟩
  · exact .inl (below x member)
  · exact .inr ⟨rfl, rfl⟩

theorem isLast_blockOutline (last : IsLast (inside (label :: blocks)))
    (below : ∀ x ∈ inside (label :: blocks), label :: blocks <:+ x.blocks) :
    IsLast (blockOutline blocks label inside) := by
  apply List.Pairwise.cons
  · intro y _ edge
    cases edge
  · apply List.pairwise_append.mpr
    refine ⟨last, List.pairwise_singleton _ _, ?_⟩
    intro x member y closing _ suffix
    -- The line that closes the block is not in it.
    cases List.mem_singleton.mp closing
    have length := ((below x member).trans suffix).length_le
    simp only [List.length_cons] at length
    omega

end Block

/-! ## Edges end their blocks -/

theorem isEdge_edges {cs : List Connection} :
    ∀ y ∈ cs.map (fun c => Nested.mk blocks (.edge c)), y.isEdge = true := by
  intro y member
  obtain ⟨c, -, rfl⟩ := List.mem_map.mp member
  rfl

theorem IsLast.append_edges (last : IsLast xs) (edges : ∀ y ∈ ys, y.isEdge = true) :
    IsLast (xs ++ ys) := by
  apply List.pairwise_append.mpr
  refine ⟨last, ?_, fun _ _ y member _ _ => edges y member⟩
  apply List.pairwise_of_forall_mem_list
  intro x _ y member _ _
  exact edges y member

theorem isLast_of_no_edge (none : ∀ x ∈ xs, x.isEdge = false) : IsLast xs := by
  apply List.pairwise_of_forall_mem_list
  intro x member y _ edge
  rw [none x member] at edge
  cases edge

theorem isLast_flatMap {name : β → String} {f : β → List Nested} {bs : List β}
    (distinct : (bs.map name).Nodup) (each : ∀ b ∈ bs, IsLast (f b))
    (within : ∀ b ∈ bs, ∀ x ∈ f b, Within blocks (name b) x) : IsLast (bs.flatMap f) := by
  apply List.pairwise_flatMap.mpr
  refine ⟨each, ?_⟩
  apply (List.pairwise_map.mp distinct).imp_of_mem
  intro b b' first second other x inside y inside' edge suffix
  rcases within b first x inside with here | ⟨-, plain⟩
  · rcases within b' second y inside' with there | ⟨border, -⟩
    · exact absurd (eq_of_suffix (here.trans suffix) there) other
    · have length := (here.trans suffix).length_le
      rw [border, List.length_cons] at length
      omega
  · rw [plain] at edge
    cases edge

theorem isEdge_areaOutline (a : Layout.AreaBox α) :
    ∀ x ∈ areaOutline t blocks a, x.isEdge = false := by
  intro x member
  rcases mem_blockOutline.mp member with rfl | member | rfl
  · rfl
  · obtain ⟨c, -, rfl⟩ := List.mem_map.mp member
    rfl
  · rfl

theorem within_areaOutline (a : Layout.AreaBox α) :
    ∀ x ∈ areaOutline t blocks a, Within blocks a.name x := by
  apply within_blockOutline
  intro x member
  obtain ⟨c, -, rfl⟩ := List.mem_map.mp member
  exact List.suffix_rfl

section Datacenter

variable {environment : String} (d : Layout.DatacenterBox α)

theorem suffix_datacenterOutline {x : Nested}
    (member : x ∈ d.areas.flatMap (areaOutline t blocks) ++
      (connectionsWithin environment d.name (sited t)).map fun c => Nested.mk blocks (.edge c)) :
    blocks <:+ x.blocks := by
  rcases List.mem_append.mp member with member | member
  · obtain ⟨a, -, inside⟩ := List.mem_flatMap.mp member
    exact (within_areaOutline a x inside).suffix
  · obtain ⟨c, -, rfl⟩ := List.mem_map.mp member
    exact List.suffix_rfl

theorem within_datacenterOutline :
    ∀ x ∈ datacenterOutline t blocks environment d, Within blocks d.name x :=
  within_blockOutline fun _ => suffix_datacenterOutline d

theorem isLast_datacenterOutline : IsLast (datacenterOutline t blocks environment d) := by
  apply isLast_blockOutline
  · apply IsLast.append_edges
    · apply isLast_of_no_edge
      intro x member
      obtain ⟨a, -, inside⟩ := List.mem_flatMap.mp member
      exact isEdge_areaOutline a x inside
    · exact isEdge_edges
  · exact fun _ => suffix_datacenterOutline d

end Datacenter

section Environment

variable (e : Layout.EnvironmentBox α)

theorem suffix_environmentOutline {x : Nested}
    (member : x ∈ e.datacenters.flatMap (datacenterOutline t blocks e.name)) :
    blocks <:+ x.blocks := by
  obtain ⟨d, -, inside⟩ := List.mem_flatMap.mp member
  exact (within_datacenterOutline d x inside).suffix

theorem within_environmentOutline : ∀ x ∈ environmentOutline t e, Within [] e.name x :=
  within_blockOutline fun _ => suffix_environmentOutline e

theorem isLast_environmentOutline (distinct : (e.datacenters.map (·.name)).Nodup) :
    IsLast (environmentOutline t e) := by
  apply isLast_blockOutline
  · apply isLast_flatMap distinct
    · exact fun d _ => isLast_datacenterOutline d
    · exact fun d _ => within_datacenterOutline d
  · exact fun _ => suffix_environmentOutline e

end Environment

theorem isLast_outline (environments : (l.environments.map (·.name)).Nodup)
    (datacenters : ∀ e ∈ l.environments, (e.datacenters.map (·.name)).Nodup) :
    IsLast (outline t l) := by
  apply IsLast.append_edges
  · apply isLast_flatMap environments
    · exact fun e member => isLast_environmentOutline e (datacenters e member)
    · exact fun e _ => within_environmentOutline e
  · exact isEdge_edges

/-! ## What stands above an edge -/

theorem connectionHome_suffix {c : Connection} {source target : Component}
    (first : t.component? c.source = some source) (second : t.component? c.target = some target) :
    connectionHome t c <:+ componentHome source ∧ connectionHome t c <:+ componentHome target := by
  unfold connectionHome
  rw [first, second]
  dsimp only
  split
  · rename_i shared
    constructor
    · exact List.suffix_cons _ _
    · rw [shared.1, shared.2]
      exact List.suffix_cons _ _
  · exact ⟨List.nil_suffix, List.nil_suffix⟩

section Above

variable (nodes : HasNodes t xs) (last : IsLast xs)
include nodes last

theorem isDeclaredIn_of_suffix {before after : List Nested} {c : Connection} {n : Component}
    {id : Identity} (split : xs = before ++ ⟨blocks, .edge c⟩ :: after)
    (found : t.component? id = some n) (suffix : blocks <:+ componentHome n) :
    IsDeclaredIn before id := by
  obtain ⟨known, identity⟩ := mem_of_component? found
  have declared : (componentHome n, n) ∈ xs.filterMap Nested.declared? :=
    nodes.mem_iff.mpr (List.mem_map_of_mem known)
  obtain ⟨⟨blocks', mark⟩, member, node⟩ := List.mem_filterMap.mp declared
  cases mark with
  | opening label => cases node
  | closing => cases node
  | edge c' => cases node
  | node n' =>
      cases node
      rw [split] at member last
      rcases List.mem_append.mp member with above | below
      · exact ⟨_, n, above, identity⟩
      · rcases List.mem_cons.mp below with same | below
        · cases same
        · -- A node below the edge would be in its block, where only edges follow.
          have edges := (List.pairwise_append.mp last).2.1
          have edge := (List.pairwise_cons.mp edges).1 _ below rfl suffix
          cases edge

theorem ends_of_places (resolved : ∀ c ∈ t.connections, t.resolves c = true)
    (edges : HasEdges t xs) {before after : List Nested} {blocks : List String} {c : Connection}
    (split : xs = before ++ ⟨blocks, .edge c⟩ :: after) :
    IsDeclaredIn before c.source ∧ IsDeclaredIn before c.target := by
  have edge : ⟨blocks, .edge c⟩ ∈ xs := by
    rw [split]
    exact List.mem_append_right _ List.mem_cons_self
  obtain ⟨member, home⟩ := edges.mem_connections edge
  obtain ⟨first, second⟩ := (Bool.and_eq_true _ _).mp (resolved c member)
  obtain ⟨source, first⟩ := Option.isSome_iff_exists.mp first
  obtain ⟨target, second⟩ := Option.isSome_iff_exists.mp second
  obtain ⟨above, above'⟩ := connectionHome_suffix first second
  rw [home] at above above'
  exact ⟨isDeclaredIn_of_suffix nodes last split first above,
    isDeclaredIn_of_suffix nodes last split second above'⟩

end Above

/-! ## Topologies of texts -/

section Placement

variable [Coordinate α] (s : Layout.Settings α)

theorem nodup_names_layout (siblings : HasDistinctSiblings t.environments) :
    ((s.layout t).environments.map (·.name)).Nodup ∧
      ∀ e ∈ (s.layout t).environments, (e.datacenters.map (·.name)).Nodup := by
  have names := map_names_placeEnvironments s ⟨s.originX, s.originY⟩ t.environments
  constructor
  · have environments := congrArg (List.map Prod.fst) names
    simp only [List.map_map, Function.comp_def] at environments
    rw [Layout.Settings.layout, environments]
    exact siblings.environments
  · intro e member
    have named : (e.name, e.datacenters.map (·.name)) ∈
        t.environments.map fun e => (e.name, e.datacenters.map (·.name)) := by
      rw [← names]
      exact List.mem_map_of_mem member
    obtain ⟨e', outer, same⟩ := List.mem_map.mp named
    rw [← (Prod.mk.inj same).2]
    exact siblings.datacenters e' outer

theorem resolves_of_mem {classifier : Classifier} {name : String}
    {statements : List Source.Statement} {c : Connection}
    (member : c ∈ (Topology.ofStatements name classifier statements).connections) :
    (Topology.ofStatements name classifier statements).resolves c = true := by
  have grouping : IsGrouping classifier _ (Topology.ofStatements name classifier statements) :=
    isGrouping_ofStatements name statements
  obtain ⟨number, source, first, target, second, rfl⟩ := exists_ends member
  simp [Topology.resolves, Connection.between, grouping.component?_identity first,
    grouping.component?_identity second]

theorem isInOrder_of_isGrouping {classifier : Classifier} {paths : List Path}
    (grouping : IsGrouping classifier paths t) (presents : Presents t (s.layout t))
    (resolved : ∀ c ∈ t.connections, t.resolves c = true) :
    IsInOrder t (outline t (s.layout t)) := by
  have held : (boxEntries (s.layout t).environments).Perm (t.components.map .ofComponent) := by
    rw [Layout.Settings.layout, entries_placeEnvironments]
    exact grouping.entries
  have nodes := declared?_outline_perm held fun c member => grouping.component?_identity member
  have edges := drawn?_outline_place presents resolved
  obtain ⟨environments, datacenters⟩ := nodup_names_layout s grouping.siblings
  have last : IsLast (outline t (s.layout t)) := isLast_outline environments datacenters
  exact
    { blocks := opened?_outline s
      distinct := nodup_groupNames grouping.siblings
      nodes
      edges
      last
      ends := fun _ _ _ _ split => ends_of_places nodes last resolved edges split }

theorem isInOrder_ofText {name text : String} {classifier : Classifier}
    (parsed : Topology.ofText name classifier text = .ok t) :
    IsInOrder t (outline t (s.layout t)) := by
  have presents := presents_layout s (wellGrouped_ofText parsed)
  obtain ⟨-, rfl⟩ := ofText_eq_ok_iff.mp parsed
  exact isInOrder_of_isGrouping s (isGrouping_ofStatements name _) presents
    fun c member => resolves_of_mem member

end Placement

end NetDiagram.Proofs.Drawing
