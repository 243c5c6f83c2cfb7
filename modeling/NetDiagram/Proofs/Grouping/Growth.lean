import Mathlib.Data.List.Forall2
import NetDiagram.Proofs.Grouping.Connections
import NetDiagram.Proofs.Reading.Independence

/-!
# Longer texts

More lines at the end of a text leave everything that was there in its place. The topology of the
longer text begins with the topology of the shorter one, on every level: lists grow at their ends,
and the groups that were there keep their names and kinds while they are filled.

* `begins_groups`: groups of more values.
* `isGrown_append`: more statements.
-/

namespace NetDiagram.Proofs.Grouping
open NetDiagram.Topology

variable {classifier : Classifier}

/-! ## Lists that grow at their ends -/

/-- The members of the first list are related to those at the start of the second one. -/
def Begins {α : Type} (R : α → α → Prop) (xs ys : List α) : Prop :=
  ∃ front, front <+: ys ∧ List.Forall₂ R xs front

section Begins

variable {α β : Type} {R : α → α → Prop} {Q : β → β → Prop} {x y : α} {xs ys : List α}

theorem begins_nil (ys : List α) : Begins R [] ys := ⟨[], List.nil_prefix, .nil⟩

theorem Begins.cons (first : R x y) (later : Begins R xs ys) : Begins R (x :: xs) (y :: ys) := by
  obtain ⟨front, start, related⟩ := later
  exact ⟨y :: front, (List.prefix_cons_inj y).mpr start, .cons first related⟩

/-- The two lists are followed up to the end of the first one. -/
@[elab_as_elim]
theorem Begins.induction {motive : ∀ xs ys, Begins R xs ys → Prop}
    (nil : ∀ ys, motive [] ys (begins_nil ys))
    (cons : ∀ x y xs ys (first : R x y) (later : Begins R xs ys), motive xs ys later →
      motive (x :: xs) (y :: ys) (later.cons first)) {xs ys : List α} (begins : Begins R xs ys) :
    motive xs ys begins := by
  obtain ⟨front, ⟨more, rfl⟩, related⟩ := begins
  induction related with
  | nil => exact nil _
  | @cons x y xs front first later ih =>
      exact cons x y xs _ first ⟨front, List.prefix_append front more, later⟩ ih

theorem Begins.length_le (begins : Begins R xs ys) : xs.length ≤ ys.length := by
  obtain ⟨front, start, related⟩ := begins
  rw [related.length_eq]
  exact start.length_le

theorem Begins.map {f : α → β} (begins : Begins R xs ys) (each : ∀ x y, R x y → Q (f x) (f y)) :
    Begins Q (xs.map f) (ys.map f) := by
  induction begins using Begins.induction with
  | nil ys => exact begins_nil _
  | cons x y xs ys first _ ih => exact (ih.cons (each x y first))

/-- Members at equal places are compared, and the function may depend on the place. -/
theorem Begins.map_zipIdx {f : α × Nat → β} (begins : Begins R xs ys)
    (each : ∀ x y i, R x y → Q (f (x, i)) (f (y, i))) (start : Nat) :
    Begins Q ((xs.zipIdx start).map f) ((ys.zipIdx start).map f) := by
  induction begins using Begins.induction generalizing start with
  | nil ys => exact begins_nil _
  | cons x y xs ys first _ ih => exact (ih (start + 1)).cons (each x y start first)

end Begins

theorem eraseDups_prefix_append {α : Type} [DecidableEq α] (xs ys : List α) :
    xs.eraseDups <+: (xs ++ ys).eraseDups := by
  rw [List.eraseDups_append]
  exact List.prefix_append _ _

/-- More values make more groups, and more values in the groups that were there. -/
theorem begins_groups {α β κ : Type} [DecidableEq κ] {key : α → κ} {build : κ → List α → β}
    {R : β → β → Prop} (grows : ∀ k xs ys, R (build k xs) (build k (xs ++ ys))) (xs ys : List α) :
    Begins R (groups key build xs) (groups key build (xs ++ ys)) := by
  -- The groups that were there, with the new values in them.
  refine ⟨(xs.map key).eraseDups.map fun k => build k ((xs ++ ys).filter fun x => key x = k),
    ?_, ?_⟩
  · rw [groups, List.map_append]
    exact (eraseDups_prefix_append _ _).map _
  · rw [groups, List.forall₂_map_left_iff, List.forall₂_map_right_iff, List.forall₂_same]
    intro k _
    rw [List.filter_append]
    exact grows k _ _

/-! ## Trees that grow -/

structure IsGrownArea (old new : Area) : Prop where
  name : new.name = old.name
  kind : new.kind = old.kind
  components : old.components <+: new.components

structure IsGrownDatacenter (old new : Datacenter) : Prop where
  name : new.name = old.name
  areas : Begins IsGrownArea old.areas new.areas

structure IsGrownEnvironment (old new : Environment) : Prop where
  name : new.name = old.name
  datacenters : Begins IsGrownDatacenter old.datacenters new.datacenters

theorem begins_areasOf (paths more : List Path) :
    Begins IsGrownArea (areasOf classifier paths) (areasOf classifier (paths ++ more)) :=
  begins_groups (fun _ _ _ => ⟨rfl, rfl, (eraseDups_prefix_append _ _).map _⟩) paths more

theorem begins_datacentersOf (paths more : List Path) :
    Begins IsGrownDatacenter (datacentersOf classifier paths)
      (datacentersOf classifier (paths ++ more)) :=
  begins_groups (fun _ _ _ => ⟨rfl, begins_areasOf _ _⟩) paths more

theorem begins_environmentsOf (paths more : List Path) :
    Begins IsGrownEnvironment (environmentsOf classifier paths)
      (environmentsOf classifier (paths ++ more)) :=
  begins_groups (fun _ _ _ => ⟨rfl, begins_datacentersOf _ _⟩) paths more

/-! ## Topologies that grow -/

/-- A topology begins with an older one. -/
structure IsGrown (old new : Topology) : Prop where
  name : new.name = old.name
  components : old.components <+: new.components
  connections : old.connections <+: new.connections
  environments : Begins IsGrownEnvironment old.environments new.environments

theorem isGrown_append (name : String) (statements more : List Source.Statement) :
    IsGrown (ofStatements name classifier statements)
      (ofStatements name classifier (statements ++ more)) := by
  have old : IsGrouping classifier _ (ofStatements name classifier statements) :=
    isGrouping_ofStatements name statements
  have new : IsGrouping classifier _ (ofStatements name classifier (statements ++ more)) :=
    isGrouping_ofStatements name (statements ++ more)
  rw [List.flatMap_append, List.map_append] at new
  exact
    { name := rfl
      components := by
        rw [old.components, new.components]
        exact (eraseDups_prefix_append _ _).map _
      connections := by
        rw [connections_ofStatements, connections_ofStatements, List.zipIdx_append, List.map_append]
        exact List.prefix_append _ _
      environments := by
        rw [old.environments, new.environments]
        exact begins_environmentsOf _ _ }

/-! ## The statement -/

theorem statements_append (first second : String) :
    (Source.Survey.ofText (first ++ "\n" ++ second).toList).statements =
      (Source.Survey.ofText first.toList).statements ++
        (Source.Survey.ofText second.toList).statements.map
          (·.shift (Text.byteLength first.toList + 1)) := by
  have cut : (first ++ "\n" ++ second).toList = first.toList ++ '\n' :: second.toList := by simp
  rw [cut]
  exact Reading.statements_of_findings (Reading.findings_append _ _)

/-- If a text can be read then so can the text with anything on more lines behind it, and the
topology of the longer text begins with that of the shorter one. -/
theorem topology_grows_at_the_ends {name first : String} {t : Topology}
    (parsed : Topology.ofText name classifier first = .ok t) (second : String) :
    ∃ t', Topology.ofText name classifier (first ++ "\n" ++ second) = .ok t' ∧ IsGrown t t' := by
  obtain ⟨some, rfl⟩ := ofText_eq_ok_iff.mp parsed
  refine ⟨_, ofText_eq_ok_iff.mpr ⟨?_, rfl⟩, ?_⟩
  · rw [statements_append]
    exact List.append_ne_nil_of_left_ne_nil some _
  · rw [statements_append]
    exact isGrown_append name _ _

def shorter : String := "【a】【1】的【DMZ区】【x】连接【a】【2】的【DMZ区】【x】"

def shorterTree : List Environment :=
  [⟨"a", [⟨"1", [⟨"DMZ区", .dmz, [⟨"a__1__DMZ区__x"⟩]⟩]⟩,
      ⟨"2", [⟨"DMZ区", .dmz, [⟨"a__2__DMZ区__x"⟩]⟩]⟩]⟩]

/-- A line that cannot be read, and one that opens an environment and goes back to the area that
was named first. -/
def addition : String := "连接\n【b】【1】的【DMZ区】【x】连接【a】【1】的【DMZ区】【y】"

def longerTree : List Environment :=
  [⟨"a", [⟨"1", [⟨"DMZ区", .dmz, [⟨"a__1__DMZ区__x"⟩, ⟨"a__1__DMZ区__y"⟩]⟩]⟩,
      ⟨"2", [⟨"DMZ区", .dmz, [⟨"a__2__DMZ区__x"⟩]⟩]⟩]⟩,
    ⟨"b", [⟨"1", [⟨"DMZ区", .dmz, [⟨"b__1__DMZ区__x"⟩]⟩]⟩]⟩]

theorem topology_of_longer :
    ∃ t, Topology.ofText "net" {} shorter = .ok t ∧ t.environments = shorterTree ∧
      ∃ t', Topology.ofText "net" {} (shorter ++ "\n" ++ addition) = .ok t' ∧
        t'.environments = longerTree ∧ IsGrown t t' := by
  have old : (Topology.ofText "net" {} shorter).toOption.map (·.environments) =
      some shorterTree := by decide +kernel
  have new : (Topology.ofText "net" {} (shorter ++ "\n" ++ addition)).toOption.map
      (·.environments) = some longerTree := by decide +kernel
  obtain ⟨t, parsed, tree⟩ := exists_ofText old
  obtain ⟨t', longer, grown⟩ := topology_grows_at_the_ends parsed addition
  rw [longer] at new
  exact ⟨t, parsed, tree, t', longer, Option.some.inj new, grown⟩

end NetDiagram.Proofs.Grouping
