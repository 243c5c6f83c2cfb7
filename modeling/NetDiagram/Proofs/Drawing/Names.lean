import Mathlib.Data.List.Chain
import NetDiagram.Proofs.Drawing.Spelling

/-!
# The names in a flowchart

A flowchart names its blocks by their places and its nodes by their identities, and both kinds of
names have underscores with letters and digits between them. An identity like `a_2d_n` has an
underscore before an `n` too, so single underscores do not tell the two kinds apart. But the names
of a path are joined by two underscores, and in the name of a block there is an `n` after every
underscore.

* `blockId_injective`: places with the same name are the same.
* `blockId_ne_identity`: no block has the name of a node.
* `IsFamily`: the places of the blocks inside a block.
* `flowchart_names_are_distinct`: no two lines of a flowchart give the same name.
-/

namespace NetDiagram.Proofs.Drawing
open Flowchart Grouping

/-! ## Names of blocks -/

def stepChars (position : Nat) : List Char := '_' :: 'n' :: Nat.toDigits 10 position

theorem toList_blockId (path : BlockPath) :
    (blockId path).toList = 's' :: 'g' :: path.flatMap stepChars := by
  have step (position : Nat) : ("_n" ++ toString position).toList = stepChars position := by
    simp [stepChars]
  rw [blockId, String.toList_append, String.toList_join, List.flatMap_map]
  simp only [step]
  rfl

theorem ne_underscore_of_mem_toDigits (n : Nat) : ∀ c ∈ Nat.toDigits 10 n, c ≠ '_' := by
  intro c member
  exact ne_of_mem_of_not_mem member (not_mem_toDigits (by decide) n)

/-- The digits of a step end where the next step begins. -/
theorem takeWhile_toDigits (position : Nat) (path : BlockPath) :
    (Nat.toDigits 10 position ++ path.flatMap stepChars).takeWhile (· ≠ '_') =
      Nat.toDigits 10 position := by
  have digits : ∀ c ∈ Nat.toDigits 10 position, decide (c ≠ '_') = true :=
    fun c member => decide_eq_true (ne_underscore_of_mem_toDigits position c member)
  rw [List.takeWhile_append_of_pos digits]
  cases path <;> simp [stepChars]

theorem flatMap_stepChars_injective {path path' : BlockPath}
    (same : path.flatMap stepChars = path'.flatMap stepChars) : path = path' := by
  induction path generalizing path' with
  | nil =>
      cases path' with
      | nil => rfl
      | cons position' path' => cases same
  | cons position path ih =>
      cases path' with
      | nil => cases same
      | cons position' path' =>
          have digits : Nat.toDigits 10 position ++ path.flatMap stepChars =
              Nat.toDigits 10 position' ++ path'.flatMap stepChars :=
            (List.cons.inj (List.cons.inj same).2).2
          have first := congrArg (List.takeWhile (· ≠ '_')) digits
          rw [takeWhile_toDigits, takeWhile_toDigits] at first
          obtain rfl := toDigits_injective first
          rw [ih (List.append_cancel_left digits)]

theorem blockId_injective : Function.Injective blockId := by
  intro path path' same
  have characters := congrArg String.toList same
  rw [toList_blockId, toList_blockId] at characters
  exact flatMap_stepChars_injective (List.cons.inj (List.cons.inj characters).2).2

/-! ## Names of blocks and of nodes -/

/-- Two neighbours are not both underscores. -/
def IsApart (c d : Char) : Prop := ¬(c = '_' ∧ d = '_')

theorem isChain_append_of_ne {word : List Char} (free : ∀ c ∈ word, c ≠ '_') {rest : List Char}
    (apart : rest.IsChain IsApart) : (word ++ rest).IsChain IsApart := by
  induction word with
  | nil => exact apart
  | cons c cs ih =>
      obtain ⟨first, others⟩ := List.forall_mem_cons.mp free
      exact List.isChain_cons.mpr ⟨fun d _ both => first both.1, ih others⟩

theorem isChain_flatMap_stepChars (path : BlockPath) :
    (path.flatMap stepChars).IsChain IsApart := by
  induction path with
  | nil => exact List.isChain_nil
  | cons position path ih =>
      rw [List.flatMap_cons, stepChars, List.cons_append]
      refine List.isChain_cons_cons.mpr ⟨fun both => absurd both.2 (by decide), ?_⟩
      have free : ∀ c ∈ 'n' :: Nat.toDigits 10 position, c ≠ '_' :=
        List.forall_mem_cons.mpr ⟨by decide, ne_underscore_of_mem_toDigits position⟩
      exact isChain_append_of_ne free ih

theorem isChain_blockId (path : BlockPath) : (blockId path).toList.IsChain IsApart := by
  have front : ∀ c ∈ ['s', 'g'], c ≠ '_' := by simp
  rw [toList_blockId]
  exact isChain_append_of_ne front (isChain_flatMap_stepChars path)

theorem separator_infix_identity (p : Path) :
    Identity.separator <:+: p.identity.text.toList := by
  refine ⟨Identity.encode p.environment.toList, ?_⟩
  simp [Path.identity, Path.names, Identity.separator]

theorem blockId_ne_identity (path : BlockPath) (p : Path) : blockId path ≠ p.identity.text := by
  intro same
  have apart := isChain_blockId path
  rw [same] at apart
  have separator := List.IsChain.infix apart (separator_infix_identity p)
  exact (List.isChain_cons_cons.mp separator).1 ⟨rfl, rfl⟩

/-! ## Places of blocks -/

/-- Different places inside a block, from a position on. -/
structure IsFamily (outer : BlockPath) (position : Nat) (paths : List BlockPath) : Prop where
  distinct : paths.Nodup
  inside : ∀ path ∈ paths, ∃ i rest, position ≤ i ∧ path = outer ++ i :: rest

theorem isFamily_nil {outer : BlockPath} {position : Nat} : IsFamily outer position [] where
  distinct := List.nodup_nil
  inside _ member := absurd member List.not_mem_nil

section Family

variable {outer : BlockPath} {position : Nat} {inner later : List BlockPath}
  (inside : IsFamily (outer ++ [position]) 0 inner)
include inside

theorem IsFamily.begins_block :
    ∀ path ∈ (outer ++ [position]) :: inner, ∃ rest, path = outer ++ position :: rest := by
  intro path member
  rcases List.mem_cons.mp member with rfl | member
  · exact ⟨[], rfl⟩
  · obtain ⟨i, rest, -, rfl⟩ := inside.inside path member
    exact ⟨i :: rest, by rw [List.append_assoc]; rfl⟩

theorem IsFamily.nodup_block : ((outer ++ [position]) :: inner).Nodup := by
  refine List.nodup_cons.mpr ⟨?_, inside.distinct⟩
  intro member
  obtain ⟨i, rest, -, same⟩ := inside.inside _ member
  exact absurd (List.self_eq_append_right.mp same) (List.cons_ne_nil i rest)

/-- A block at a position with the blocks inside it, and then the blocks after it. -/
theorem IsFamily.cons (after : IsFamily outer (position + 1) later) :
    IsFamily outer position ((outer ++ [position]) :: inner ++ later) where
  distinct := by
    refine List.nodup_append.mpr ⟨inside.nodup_block, after.distinct, ?_⟩
    rintro path member path' member' rfl
    obtain ⟨rest, shape⟩ := inside.begins_block path member
    obtain ⟨i, rest', bound, shape'⟩ := after.inside path member'
    obtain ⟨rfl, -⟩ := List.cons.inj (List.append_cancel_left (shape.symm.trans shape'))
    omega
  inside := by
    intro path member
    rcases List.mem_append.mp member with member | member
    · obtain ⟨rest, shape⟩ := inside.begins_block path member
      exact ⟨position, rest, Nat.le_refl _, shape⟩
    · obtain ⟨i, rest, bound, shape⟩ := after.inside path member
      exact ⟨i, rest, Nat.le_of_succ_le bound, shape⟩

end Family

/-! ## The blocks of a flowchart -/

section Opened

variable {α : Type} {t : Topology} {connections : List Sited} {environment : String}

def pathOf? : Line → Option BlockPath
  | .opening path _ => some path
  | _ => none

def opened (steps : List Step) : List BlockPath := (linesOf steps).filterMap pathOf?

theorem opened_append (steps steps' : List Step) :
    opened (steps ++ steps') = opened steps ++ opened steps' := by
  rw [opened, linesOf_append, List.filterMap_append]
  rfl

theorem opened_block (path : BlockPath) (label : String) (depth : Nat) (inner : List Step) :
    opened (.write (.opening path label) :: inner ++ [.write (.closing depth)]) =
      path :: opened inner := by
  rw [opened, linesOf_block, List.filterMap_append]
  exact List.append_nil _

theorem opened_nodeSteps (bs : List (Layout.ComponentBox α)) :
    opened (bs.map fun b => nodeStep t b.id) = [] := by
  rw [opened, linesOf_nodeSteps, List.filterMap_map]
  exact List.filterMap_eq_nil_iff.mpr fun _ _ => rfl

theorem opened_edgeSteps (known : List Identity) (depth : Nat) (cs : List Connection) :
    opened (cs.map (edgeStep known depth)) = [] := by
  rw [opened, linesOf_edgeSteps, List.filterMap_map]
  exact List.filterMap_eq_nil_iff.mpr fun _ _ => rfl

theorem opened_areaSteps (path : BlockPath) (a : Layout.AreaBox α) :
    opened (areaSteps t path a) = [path] := by
  rw [areaSteps, opened_block, opened_nodeSteps]

theorem isFamily_areaSteps (path : BlockPath) (position : Nat) (as : List (Layout.AreaBox α)) :
    IsFamily path position (opened ((as.zipIdx position).flatMap fun (a, i) =>
      areaSteps t (path ++ [i]) a)) := by
  induction as generalizing position with
  | nil => exact isFamily_nil
  | cons a as ih =>
      rw [List.zipIdx_cons, List.flatMap_cons, opened_append, opened_areaSteps]
      exact isFamily_nil.cons (ih (position + 1))

theorem opened_datacenterSteps (before : List Identity) (path : BlockPath)
    (d : Layout.DatacenterBox α) :
    opened (datacenterSteps t connections environment before path d) =
      path :: opened (areasSteps t path d) := by
  rw [datacenterSteps, List.cons_append, opened_block, opened_append, opened_edgeSteps,
    List.append_nil]

theorem isFamily_datacentersSteps (before : List Identity) (outer : BlockPath) (position : Nat)
    (ds : List (Layout.DatacenterBox α)) :
    IsFamily outer position
      (opened (datacentersSteps t connections environment before outer position ds)) := by
  induction ds generalizing before position with
  | nil => exact isFamily_nil
  | cons d ds ih =>
      rw [datacentersSteps, opened_append, opened_datacenterSteps]
      exact (isFamily_areaSteps _ 0 d.areas).cons (ih _ (position + 1))

theorem isFamily_environmentsSteps (before : List Identity) (position : Nat)
    (es : List (Layout.EnvironmentBox α)) :
    IsFamily [] position (opened (environmentsSteps t connections before position es)) := by
  induction es generalizing before position with
  | nil => exact isFamily_nil
  | cons e es ih =>
      rw [environmentsSteps, opened_append, environmentSteps, opened_block]
      exact (isFamily_datacentersSteps before _ 0 e.datacenters).cons (ih _ (position + 1))

theorem nodup_opened_steps (l : Layout α) : (opened (steps t l)).Nodup := by
  rw [steps, opened_append, opened_edgeSteps, List.append_nil]
  exact (isFamily_environmentsSteps [] 0 l.environments).distinct

end Opened

/-! ## The names of lines -/

variable {α : Type} {t : Topology} {l : Layout α}

def nodeOf? : Line → Option Component
  | .node c => some c
  | _ => none

def nameOf? : Line → Option String
  | .opening path _ => some (blockId path)
  | .node c => some c.identity.text
  | _ => none

theorem nodeOf?_linesOf (steps : List Step) :
    (linesOf steps).filterMap nodeOf? = steps.filterMap (·.component?) := by
  rw [linesOf, List.filterMap_filterMap]
  congr 1
  funext step
  rcases step with (line | id | c)
  · cases line <;> rfl
  · rfl
  · rfl

theorem nodup_nameOf? {ls : List Line} (paths : (ls.filterMap pathOf?).Nodup)
    (nodes : ((ls.filterMap nodeOf?).map (·.identity)).Nodup) : (ls.filterMap nameOf?).Nodup := by
  rw [List.map_filterMap] at nodes
  refine List.pairwise_filterMap.mpr ?_
  refine ((List.pairwise_filterMap.mp paths).and (List.pairwise_filterMap.mp nodes)).imp ?_
  rintro first second ⟨paths, nodes⟩ name named name' named' rfl
  have other (path : BlockPath) (c : Component) : blockId path ≠ c.identity.text := by
    rw [c.identity_eq]
    exact blockId_ne_identity path c.path
  cases first with
  | opening path label =>
      have first : blockId path = name := Option.some.inj named
      cases second with
      | opening path' label' =>
          have second : blockId path' = name := Option.some.inj named'
          exact paths path rfl path' rfl (blockId_injective (first.trans second.symm))
      | node c => exact other path c (first.trans (Option.some.inj named').symm)
      | closing depth => cases named'
      | edge depth c => cases named'
  | node c =>
      have first : c.identity.text = name := Option.some.inj named
      cases second with
      | opening path label => exact other path c ((Option.some.inj named').trans first.symm)
      | node c' =>
          have second : c'.identity.text = name := Option.some.inj named'
          exact nodes c.identity rfl c'.identity rfl
            (congrArg Identity.mk (first.trans second.symm))
      | closing depth => cases named'
      | edge depth c' => cases named'
  | closing depth => cases named
  | edge depth c => cases named

theorem nodup_names_steps (presents : Presents t l) :
    ((linesOf (steps t l)).filterMap nameOf?).Nodup := by
  refine nodup_nameOf? (nodup_opened_steps l) ?_
  rw [nodeOf?_linesOf, component?_steps]
  exact nodup_map_identity_shown presents

/-! ## Names in the text -/

/-- A name in one piece, if a bracket comes next. -/
def wordBeforeBracket? (cs : List Char) : Option String :=
  let word := cs.takeWhile fun c => c ≠ ' ' ∧ c ≠ '['
  if word ++ ['['] <+: cs then some (.ofList word) else none

/-- The name that the text of a line gives, if it gives one. -/
def nameIn? (body : String) : Option String :=
  if "subgraph ".toList <+: body.toList then wordBeforeBracket? (body.toList.drop 9)
  else wordBeforeBracket? body.toList

variable {name : String}

theorem takeWhile_name (plain : ∀ c ∈ name.toList, Naming.IsIdentityChar c) {stop : Char}
    (stops : stop = ' ' ∨ stop = '[') (rest : List Char) :
    ((name.toList ++ stop :: rest).takeWhile fun c => c ≠ ' ' ∧ c ≠ '[') = name.toList := by
  have inside : ∀ c ∈ name.toList, decide (c ≠ ' ' ∧ c ≠ '[') = true :=
    fun c member => decide_eq_true ⟨(plain c member).ne (by decide) (by decide),
      (plain c member).ne (by decide) (by decide)⟩
  rw [List.takeWhile_append_of_pos inside]
  rcases stops with rfl | rfl <;> simp

theorem wordBeforeBracket?_bracket (plain : ∀ c ∈ name.toList, Naming.IsIdentityChar c)
    (rest : List Char) : wordBeforeBracket? (name.toList ++ '[' :: rest) = some name := by
  rw [wordBeforeBracket?, takeWhile_name plain (.inr rfl), if_pos ⟨rest, by simp⟩,
    String.ofList_toList]

theorem wordBeforeBracket?_blank (plain : ∀ c ∈ name.toList, Naming.IsIdentityChar c)
    (rest : List Char) : wordBeforeBracket? (name.toList ++ ' ' :: rest) = none := by
  rw [wordBeforeBracket?, takeWhile_name plain (.inl rfl), if_neg]
  rw [List.prefix_append_right_inj]
  simp

theorem isIdentityChar_stepChars (position : Nat) :
    ∀ c ∈ stepChars position, Naming.IsIdentityChar c := by
  refine List.forall_mem_cons.mpr ⟨.inr rfl, List.forall_mem_cons.mpr ⟨.inl (by decide), ?_⟩⟩
  intro c member
  have digit : c.isDigit = true :=
    Nat.isDigit_of_mem_toDigits (by decide) (by decide) member
  exact .inl (by simp [Identity.isPlain, Char.isAlphanum, digit])

theorem isIdentityChar_blockId (path : BlockPath) :
    ∀ c ∈ (blockId path).toList, Naming.IsIdentityChar c := by
  rw [toList_blockId]
  refine List.forall_mem_cons.mpr ⟨.inl (by decide), ?_⟩
  refine List.forall_mem_cons.mpr ⟨.inl (by decide), ?_⟩
  intro c member
  obtain ⟨position, -, part⟩ := List.mem_flatMap.mp member
  exact isIdentityChar_stepChars position c part

theorem nameIn?_body {l : Line} (whole : IsWhole l) : nameIn? l.body = nameOf? l := by
  cases l with
  | opening path label =>
      simp only [nameIn?, Line.body, String.toList_append, List.append_assoc]
      rw [if_pos (List.prefix_append _ _)]
      exact wordBeforeBracket?_bracket (isIdentityChar_blockId path) _
  | closing depth =>
      change nameIn? "end" = none
      decide
  | node c =>
      simp only [nameIn?, Line.body, c.identity_eq, String.toList_append, List.append_assoc]
      rw [if_neg (not_opening_identity c.path _)]
      rw [nameOf?, c.identity_eq]
      exact wordBeforeBracket?_bracket (Naming.identity_characters c.path) _
  | edge depth c =>
      obtain ⟨-, source, target, first, -⟩ := whole
      simp only [nameIn?, body_edge, first, String.toList_append, List.append_assoc]
      rw [if_neg (not_opening_identity source _)]
      exact wordBeforeBracket?_blank (Naming.identity_characters source) _

/-! ## The statement -/

/-- Neither two blocks nor two nodes nor a block and a node of a flowchart share a name. -/
theorem flowchart_names_are_distinct :
    Function.Injective blockId ∧
      (∀ (path : BlockPath) (p : Path), blockId path ≠ p.identity.text) ∧
      ∀ (s : Layout.Settings Float32) (name text : String) (classifier : Classifier)
        (t : Topology), Topology.ofText name classifier text = .ok t →
        ∃ ls, IsSpelled (Flowchart.render t (s.layout t)).content (header s.direction) ls ∧
          (∀ l ∈ ls, nameIn? l.body = nameOf? l) ∧ (ls.filterMap nameOf?).Nodup := by
  refine ⟨blockId_injective, blockId_ne_identity, ?_⟩
  intro s name text classifier t parsed
  have presents := presents_layout s (wellGrouped_ofText parsed)
  exact ⟨_, isSpelled_steps s parsed,
    fun l member => nameIn?_body (isWhole_steps s parsed l member), nodup_names_steps presents⟩

/-- A statement about a name of which the identity has an `_` before an `n`. -/
def hyphenated : String := "【a】【1】的【z】【a-n】连接【b】【1】的【z】【a】"

theorem flowchart_names_of_hyphenated :
    ∃ t, Topology.ofText "net" {} hyphenated = .ok t ∧
      t.components.map (·.identity.text) = ["a__1__z__a_2d_n", "b__1__z__a"] ∧
      ∃ ls, IsSpelled
          (Flowchart.render t (Layout.Settings.defaults.layout t : Layout Float32)).content
          (header .leftToRight) ls ∧
        (∀ l ∈ ls, nameIn? l.body = nameOf? l) ∧ (ls.filterMap nameOf?).Nodup := by
  have names : (Topology.ofText "net" {} hyphenated).toOption.map
      (fun t => t.components.map (·.identity.text)) =
        some ["a__1__z__a_2d_n", "b__1__z__a"] := by
    decide +kernel
  cases parsed : Topology.ofText "net" {} hyphenated with
  | error e =>
      rw [parsed] at names
      cases names
  | ok t =>
      rw [parsed] at names
      exact ⟨t, rfl, Option.some.inj names,
        flowchart_names_are_distinct.2.2 .defaults _ _ _ t parsed⟩

end NetDiagram.Proofs.Drawing
