import NetDiagram.Proofs.Grouping.Tree
import NetDiagram.Proofs.Naming.Decoding
import NetDiagram.Proofs.Reading.Extraction

/-!
# The topology of a text

The endpoints of a text are registered one after another. What has been declared after some of
them is at every moment what their paths describe when they are grouped by first appearance: a
component is known by its identity, and the tree is searched by names, but both agree because an
identity belongs to one path only.

* `Grouped.register`: one more endpoint.
* `grouped_foldl_add`: a list of statements.
* `isGrouping_ofStatements`: the topology that they make.
-/

namespace NetDiagram.Proofs.Grouping
open NetDiagram.Topology

variable {classifier : Classifier} {paths : List Path} {d : Draft}

/-! ## One endpoint -/

/-- What has been declared is what the paths describe. -/
structure Grouped (classifier : Classifier) (paths : List Path) (d : Draft) : Prop where
  components : d.components = paths.eraseDups.map (declare classifier)
  environments : d.environments = environmentsOf classifier paths
  entries : (entries d.environments).Perm (d.components.map .ofComponent)

theorem grouped_nil : Grouped classifier [] {} where
  components := rfl
  environments := rfl
  entries := .nil

/-- An identity is known if and only if its path is. -/
theorem Grouped.any_identity_iff (grouped : Grouped classifier paths d) (p : Path) :
    (d.components.any fun known => known.identity = (declare classifier p).identity) = true ↔
      p ∈ paths := by
  simp only [List.any_eq_true, grouped.components, List.mem_map, List.mem_eraseDups,
    decide_eq_true_eq]
  -- The tree is kept by names and the list by identities: injectivity makes them agree.
  constructor
  · rintro ⟨_, ⟨q, member, rfl⟩, same⟩
    have : q = p := Naming.identity_injective same
    exact this ▸ member
  · intro member
    exact ⟨_, ⟨p, member, rfl⟩, rfl⟩

theorem Grouped.register (grouped : Grouped classifier paths d) (p : Path) :
    Grouped classifier (paths ++ [p]) (d.register (declare classifier p)) := by
  unfold Draft.register
  split
  · rename_i known
    have member := (grouped.any_identity_iff p).mp known
    exact
      { components := by rw [eraseDups_append_of_mem member, grouped.components]
        environments := by rw [environmentsOf_append_of_mem member, grouped.environments]
        entries := grouped.entries }
  · rename_i unknown
    have new : p ∉ paths := mt (grouped.any_identity_iff p).mpr unknown
    exact
      { components := by
          rw [eraseDups_append_of_not_mem new, List.map_append, grouped.components]
          rfl
        environments := by rw [environmentsOf_append_of_not_mem new, grouped.environments]
        entries := by
          rw [List.map_append]
          exact (entries_insertEnvironment_perm _ _).trans (grouped.entries.append_right _) }

/-! ## A list of statements -/

theorem Grouped.add (grouped : Grouped classifier paths d) (s : Source.Statement) :
    Grouped classifier (paths ++ s.endpoints.map (·.path)) (d.add classifier s) := by
  obtain ⟨components, environments, entries⟩ :=
    (grouped.register s.source.path).register s.target.path
  rw [List.append_assoc] at components environments
  exact ⟨components, environments, entries⟩

theorem grouped_foldl_add (grouped : Grouped classifier paths d)
    (statements : List Source.Statement) :
    Grouped classifier (paths ++ (statements.flatMap (·.endpoints)).map (·.path))
      (statements.foldl (Draft.add classifier) d) := by
  induction statements generalizing paths d with
  | nil => simpa using grouped
  | cons s ss ih =>
      have := ih (grouped.add s)
      rw [List.append_assoc, ← List.map_append] at this
      exact this

/-! ## A whole topology -/

/-- A topology is the grouping of some paths by first appearance. -/
structure IsGrouping (classifier : Classifier) (paths : List Path) (t : Topology) : Prop where
  /-- There is one component for every path, in the order of first appearance. -/
  components : t.components = paths.eraseDups.map (declare classifier)
  environments : t.environments = environmentsOf classifier paths
  identities : (t.components.map (·.identity)).Nodup
  /-- The tree holds every component once, below the groups that its path names. -/
  entries : (entries t.environments).Perm (t.components.map .ofComponent)
  siblings : HasDistinctSiblings t.environments
  groups : HasNoEmptyGroup t.environments
  kinds : ∀ e ∈ t.environments, ∀ d ∈ e.datacenters, ∀ a ∈ d.areas, ∀ c ∈ t.components,
    c.identity ∈ a.components → c.areaKind = a.kind

theorem nodup_identities {components : List Component}
    (declared : components = paths.eraseDups.map (declare classifier)) :
    (components.map (·.identity)).Nodup := by
  rw [declared, List.map_map]
  refine List.Pairwise.map _ (fun p q other same => other ?_) (nodup_eraseDups paths)
  exact Naming.identity_injective same

theorem areaKind_eq_kind {components : List Component} {es : List Environment}
    {e : Environment} {d : Datacenter} {a : Area} {c : Component}
    (declared : components = paths.eraseDups.map (declare classifier))
    (grouped : es = environmentsOf classifier paths)
    (held : (entries es).Perm (components.map .ofComponent))
    (outer : e ∈ es) (middle : d ∈ e.datacenters) (inner : a ∈ d.areas)
    (known : c ∈ components) (inside : c.identity ∈ a.components) : c.areaKind = a.kind := by
  have entry : Entry.mk e.name d.name a.name c.identity ∈ entries es :=
    mem_entries.mpr ⟨e, outer, d, middle, a, inner, _, inside, rfl⟩
  obtain ⟨c', known', same⟩ := List.mem_map.mp (held.mem_iff.mp entry)
  rw [declared] at known known'
  obtain ⟨p, -, rfl⟩ := List.mem_map.mp known
  obtain ⟨q, -, rfl⟩ := List.mem_map.mp known'
  simp only [Entry.ofComponent, Entry.mk.injEq] at same
  obtain ⟨-, -, area, identity⟩ := same
  have : q = p := Naming.identity_injective identity
  subst this
  rw [kind_of_mem_environmentsOf (grouped ▸ outer) middle inner, ← area]
  rfl

theorem isGrouping_ofStatements (name : String) (statements : List Source.Statement) :
    IsGrouping classifier ((statements.flatMap (·.endpoints)).map (·.path))
      (ofStatements name classifier statements) := by
  have none : Grouped classifier [] {} := grouped_nil
  obtain ⟨declared, grouped, held⟩ := grouped_foldl_add none statements
  rw [List.nil_append] at declared grouped
  exact
    { components := declared
      environments := grouped
      identities := nodup_identities declared
      entries := held
      siblings := by
        rw [ofStatements, grouped]
        exact hasDistinctSiblings_environmentsOf
      groups := by
        rw [ofStatements, grouped]
        exact hasNoEmptyGroup_environmentsOf
      kinds := fun e outer d middle a inner c known inside =>
        areaKind_eq_kind declared grouped held outer middle inner known inside }

/-! ## A text -/

/-- The paths that a text names, in the order of writing. -/
def pathsOf (text : String) : List Path :=
  (Source.Survey.ofText text.toList).endpoints.map (·.path)

theorem ofText_eq_ok_iff {name text : String} {t : Topology} :
    Topology.ofText name classifier text = .ok t ↔
      (Source.Survey.ofText text.toList).statements ≠ [] ∧
        t = ofStatements name classifier (Source.Survey.ofText text.toList).statements := by
  unfold Topology.ofText
  cases result : Source.survey text.toList with
  | error e =>
      constructor
      · intro h
        cases h
      · rintro ⟨some, -⟩
        rw [Reading.survey_eq_ok_iff.mpr ⟨rfl, some⟩] at result
        cases result
  | ok found =>
      obtain ⟨rfl, some⟩ := Reading.survey_eq_ok_iff.mp result
      constructor
      · rintro ⟨⟩
        exact ⟨some, rfl⟩
      · rintro ⟨-, rfl⟩
        rfl

theorem ofText_ofList {name : String} {text : List Char}
    (some : (Source.Survey.ofText text).statements ≠ []) :
    Topology.ofText name classifier (.ofList text) =
      .ok (ofStatements name classifier (Source.Survey.ofText text).statements) := by
  rw [ofText_eq_ok_iff, String.toList_ofList]
  exact ⟨some, rfl⟩

theorem exists_ofText {α : Type} {name text : String} {f : Topology → α} {a : α}
    (seen : (Topology.ofText name classifier text).toOption.map f = some a) :
    ∃ t, Topology.ofText name classifier text = .ok t ∧ f t = a := by
  cases parsed : Topology.ofText name classifier text with
  | error e =>
      rw [parsed] at seen
      cases seen
  | ok t =>
      rw [parsed] at seen
      exact ⟨t, rfl, Option.some.inj seen⟩

/-- The topology of a text is the grouping of the paths that the text names. -/
theorem topology_groups_by_first_appearance {name text : String} {t : Topology}
    (parsed : Topology.ofText name classifier text = .ok t) :
    IsGrouping classifier (pathsOf text) t := by
  obtain ⟨-, rfl⟩ := ofText_eq_ok_iff.mp parsed
  exact isGrouping_ofStatements name _

/-- Two statements that name one device in three places, and one of the places twice. -/
def interleaved : String :=
  "【a】【1】的【DMZ区】【x】连接【b】【1】的【DMZ区】【x】\n【a】【2】的【DMZ区】【x】连接【a】【1】的【DMZ区】【x】"

def interleavedTree : List Environment :=
  [⟨"a", [⟨"1", [⟨"DMZ区", .dmz, [⟨"a__1__DMZ区__x"⟩]⟩]⟩,
      ⟨"2", [⟨"DMZ区", .dmz, [⟨"a__2__DMZ区__x"⟩]⟩]⟩]⟩,
    ⟨"b", [⟨"1", [⟨"DMZ区", .dmz, [⟨"b__1__DMZ区__x"⟩]⟩]⟩]⟩]

theorem topology_of_interleaved :
    ∃ t, Topology.ofText "net" {} interleaved = .ok t ∧ t.environments = interleavedTree ∧
      IsGrouping {} (pathsOf interleaved) t := by
  have tree : (Topology.ofText "net" {} interleaved).toOption.map (·.environments) =
      some interleavedTree := by decide +kernel
  cases parsed : Topology.ofText "net" {} interleaved with
  | error e =>
      rw [parsed] at tree
      cases tree
  | ok t =>
      rw [parsed] at tree
      exact ⟨t, rfl, Option.some.inj tree, topology_groups_by_first_appearance parsed⟩

end NetDiagram.Proofs.Grouping
