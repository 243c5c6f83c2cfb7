import NetDiagram.Proofs.Drawing.Clauses
import NetDiagram.Proofs.Drawing.Order

/-!
# The text of a flowchart

Names come from the lines of a text, so none of them holds a line feed, and identities hold neither
blanks nor brackets. Every line of a flowchart is therefore one line of its text, and it can be read
back: only the lines that open and close blocks look as if they did, the lines of nodes say which
component they declare, and those of edges which nodes they join.

* `IsSpelled`: what is asked of the text.
* `flowchart_reads_in_order`: the text and the order of a flowchart.
-/

namespace NetDiagram.Proofs.Drawing
open Flowchart Grouping

variable {t : Topology} {ls : List Line} {xs : List Nested}

/-- Cut at its line feeds, a text consists of some lines after a header, and nothing after the last
line feed. The lines that open and close blocks can be told from all others, and what each line says
can be read from it. -/
structure IsSpelled (content : String) (head : List String) (ls : List Line) : Prop where
  cut : content.toList.splitOn '\n' = (head ++ ls.map (·.text) ++ [""]).map (·.toList)
  content : content = unlines (head ++ ls.map (·.text))
  whole : ∀ line ∈ head ++ ls.map (·.text), '\n' ∉ line.toList
  clauses : ∀ l ∈ ls, readLine? l.text = some (clauseOf l)
  openings : ∀ l ∈ ls, "subgraph ".toList <+: l.body.toList ↔ ∃ path label, l = .opening path label
  closings : ∀ l ∈ ls, l.body = "end" ↔ ∃ depth, l = .closing depth

/-! ## Lines -/

/-- What a line says can stand on one line. -/
def IsWhole : Line → Prop
  | .opening _ label => '\n' ∉ label.toList
  | .closing _ => True
  | .node c => '\n' ∉ c.name.toList
  | .edge _ c => '\n' ∉ c.description.toList ∧
      ∃ source target : Path, c.source = source.identity ∧ c.target = target.identity

theorem IsWhole.isNamed {l : Line} (whole : IsWhole l) : IsNamed l := by
  cases l with
  | edge depth c =>
      obtain ⟨-, ends⟩ := whole
      exact ends
  | _ => trivial

theorem lineFeed_not_mem_escapeLabel {label : String} (free : '\n' ∉ label.toList) :
    '\n' ∉ (escapeLabel label).toList := by
  rw [escapeLabel, String.toList_ofList]
  intro member
  obtain ⟨c, inside, feed⟩ := List.mem_flatMap.mp member
  unfold escapeChar at feed
  split at feed
  · revert feed
    decide
  · split at feed
    · revert feed
      decide
    · rw [List.mem_singleton.mp feed] at free
      exact free inside

theorem not_mem_body {l : Line} (fits : IsWhole l) : '\n' ∉ l.body.toList := by
  cases l with
  | opening path label =>
      have name := not_mem_blockId (by decide : '\n' ∉ ['s', 'g', '_', 'n']) rfl path
      simp [Line.body, name, lineFeed_not_mem_escapeLabel fits]
  | closing depth =>
      change '\n' ∉ "end".toList
      decide
  | node c =>
      simp [Line.body, c.identity_eq, lineFeed_not_mem_identity, lineFeed_not_mem_escapeLabel fits,
        lineFeed_not_mem_look]
  | edge depth c =>
      obtain ⟨label, source, target, first, second⟩ := fits
      simp [body_edge, first, second, lineFeed_not_mem_identity,
        lineFeed_not_mem_escapeLabel label]

theorem not_mem_text_of_isWhole {l : Line} (whole : IsWhole l) : '\n' ∉ l.text.toList := by
  simp [Line.text, not_mem_body whole]

theorem not_mem_append {first second : String} (free : '\n' ∉ first.toList)
    (free' : '\n' ∉ second.toList) : '\n' ∉ (first ++ second).toList := by
  rw [String.toList_append, List.mem_append, not_or]
  exact ⟨free, free'⟩

theorem not_mem_appearance (kind : DeviceKind) :
    '\n' ∉ (Appearance.line kind.appearance).toList := by
  have name := lineFeed_not_mem_look kind
  have stroke : '\n' ∉ kind.appearance.stroke.toList := by cases kind <;> decide
  have font : '\n' ∉ kind.appearance.font.toList := by cases kind <;> decide
  have digits := not_mem_toDigits (by decide : '\n'.isDigit = false)
  have width : '\n' ∉ (toString kind.appearance.strokeWidth).toList := by
    simp [digits]
  have front := not_mem_append (not_mem_append (not_mem_append
    (by decide : '\n' ∉ "classDef ".toList) name) (by decide : '\n' ∉ " stroke:".toList)) stroke
  have middle := not_mem_append (not_mem_append front
    (by decide : '\n' ∉ ",stroke-width:".toList)) width
  exact not_mem_append (not_mem_append (not_mem_append middle (by decide)) font) (by decide)

theorem not_mem_header (direction : Direction) : ∀ line ∈ header direction, '\n' ∉ line.toList := by
  intro line member
  rcases List.mem_cons.mp member with rfl | member
  · cases direction <;> decide
  · obtain ⟨kind, -, rfl⟩ := List.mem_map.mp member
    exact not_mem_appearance kind

/-! ## The lines of an outline -/

theorem exists_component_of_mem_groupNames {classifier : Classifier} {paths : List Path}
    (grouping : IsGrouping classifier paths t) {names : List String}
    (member : names ∈ groupNames t.environments) :
    ∃ c ∈ t.components, names <:+ componentHome c := by
  -- No group is empty, so every group is around some area, and the area around some component.
  have below {e : Environment} {d : Datacenter} {a : Area} (outer : e ∈ t.environments)
      (middle : d ∈ e.datacenters) (inner : a ∈ d.areas)
      (suffix : names <:+ [a.name, d.name, e.name]) :
      ∃ c ∈ t.components, names <:+ componentHome c := by
    obtain ⟨id, inside⟩ := List.exists_mem_of_ne_nil _
      (grouping.groups.areas e outer d middle a inner)
    have entry : Entry.mk e.name d.name a.name id ∈ entries t.environments :=
      mem_entries.mpr ⟨e, outer, d, middle, a, inner, id, inside, rfl⟩
    obtain ⟨c, known, same⟩ := List.mem_map.mp (grouping.entries.mem_iff.mp entry)
    obtain ⟨environment, datacenter, area, -⟩ := Entry.mk.inj same
    refine ⟨c, known, ?_⟩
    rwa [componentHome, environment, datacenter, area]
  obtain ⟨e, outer, member⟩ := List.mem_flatMap.mp member
  rcases List.mem_cons.mp member with rfl | member
  · obtain ⟨d, middle⟩ := List.exists_mem_of_ne_nil _ (grouping.groups.environments e outer)
    obtain ⟨a, inner⟩ := List.exists_mem_of_ne_nil _ (grouping.groups.datacenters e outer d middle)
    exact below outer middle inner ((List.suffix_cons d.name _).trans (List.suffix_cons a.name _))
  · obtain ⟨d, middle, member⟩ := List.mem_flatMap.mp member
    rcases List.mem_cons.mp member with rfl | member
    · obtain ⟨a, inner⟩ := List.exists_mem_of_ne_nil _
        (grouping.groups.datacenters e outer d middle)
      exact below outer middle inner (List.suffix_cons a.name _)
    · obtain ⟨a, inner, rfl⟩ := List.mem_map.mp member
      exact below outer middle inner List.suffix_rfl

theorem isWhole_of_mem {classifier : Classifier} {paths : List Path}
    (grouping : IsGrouping classifier paths t)
    (fits : ∀ c ∈ t.components, Reading.FitsLine c.path)
    (ends : ∀ c ∈ t.connections, ∃ number, ∃ source ∈ t.components, ∃ target ∈ t.components,
      c = .between number source target)
    (order : IsInOrder t xs) (read : xs.map (·.mark) = ls.map markOf) :
    ∀ l ∈ ls, IsWhole l := by
  have free {c : Component} (known : c ∈ t.components) {name : String}
      (named : name ∈ c.path.names) : '\n' ∉ name.toList :=
    (fits c known).2 name named
  intro l member
  have marked : markOf l ∈ xs.map (·.mark) := by
    rw [read]
    exact List.mem_map_of_mem member
  obtain ⟨⟨blocks, mark⟩, inside, same⟩ := List.mem_map.mp marked
  cases l with
  | opening path label =>
      cases same
      have opened : label :: blocks ∈ groupNames t.environments := by
        rw [← order.blocks]
        exact List.mem_filterMap.mpr ⟨_, inside, rfl⟩
      obtain ⟨c, known, suffix⟩ := exists_component_of_mem_groupNames grouping opened
      have named : label ∈ componentHome c := suffix.subset List.mem_cons_self
      apply free known
      simp only [componentHome, List.mem_cons, List.not_mem_nil, or_false] at named
      rcases named with rfl | rfl | rfl <;> simp [Path.names]
  | closing depth => trivial
  | node c =>
      cases same
      exact free (order.nodes.mem_components inside)
        (by simp [Path.names, Component.name])
  | edge depth c =>
      cases same
      obtain ⟨known, -⟩ := order.edges.mem_connections inside
      obtain ⟨number, source, first, target, second, rfl⟩ := ends c known
      have words : '\n' ∉ source.path.device.toList := free first (by simp [Path.names])
      have words' : '\n' ∉ target.path.device.toList := free second (by simp [Path.names])
      refine ⟨?_, source.path, target.path, source.identity_eq, target.identity_eq⟩
      simp [Connection.description, Connection.between, Component.name, words, words']

theorem toList_unlines_cons (line : String) (lines : List String) :
    (unlines (line :: lines)).toList = line.toList ++ '\n' :: (unlines lines).toList := by
  simp [unlines]

theorem splitOn_unlines {lines : List String} (whole : ∀ line ∈ lines, '\n' ∉ line.toList) :
    (unlines lines).toList.splitOn '\n' = (lines ++ [""]).map (·.toList) := by
  induction lines with
  | nil => rfl
  | cons line lines ih =>
      obtain ⟨first, later⟩ := List.forall_mem_cons.mp whole
      have piece : line.toList.splitOnP (· == '\n') = [line.toList] :=
        List.splitOnP_eq_singleton fun c member =>
          beq_false_of_ne (ne_of_mem_of_not_mem member first)
      have later := ih later
      rw [List.splitOn] at later
      rw [toList_unlines_cons, List.splitOn,
        List.splitOnP_append_cons (p := (· == '\n')) _ _ (beq_self_eq_true _), piece, later]
      rfl

theorem isSpelled_of_isWhole {content : String} {direction : Direction}
    (same : content = unlines (header direction ++ ls.map (·.text)))
    (whole : ∀ l ∈ ls, IsWhole l) : IsSpelled content (header direction) ls := by
  have lines : ∀ line ∈ header direction ++ ls.map (·.text), '\n' ∉ line.toList := by
    intro line member
    rcases List.mem_append.mp member with member | member
    · exact not_mem_header direction line member
    · obtain ⟨l, inside, rfl⟩ := List.mem_map.mp member
      exact not_mem_text_of_isWhole (whole l inside)
  exact
    { content := same
      whole := lines
      cut := by rw [same, splitOn_unlines lines]
      clauses := fun l member => readLine?_text (whole l member).isNamed
      openings := fun l member => opening_iff (whole l member).isNamed
      closings := fun l _ => closing_iff l }

/-! ## The statement -/

theorem fitsLine_of_mem_components {name : String} {classifier : Classifier} {text : List Char}
    {c : Component} (member : c ∈ (Topology.ofStatements name classifier
      (Source.Survey.ofText text).statements).components) : Reading.FitsLine c.path := by
  have grouping : IsGrouping classifier _
      (Topology.ofStatements name classifier (Source.Survey.ofText text).statements) :=
    isGrouping_ofStatements name _
  rw [grouping.components] at member
  obtain ⟨p, named, rfl⟩ := List.mem_map.mp member
  obtain ⟨e, inside, rfl⟩ := List.mem_map.mp (List.mem_eraseDups.mp named)
  obtain ⟨s, read, ends⟩ := List.mem_flatMap.mp inside
  obtain ⟨source, target⟩ := Reading.fitsLine_of_mem_statements read
  simp only [Source.Statement.endpoints, List.mem_cons, List.not_mem_nil, or_false] at ends
  rcases ends with rfl | rfl
  · exact source
  · exact target

theorem isWhole_steps (s : Layout.Settings Float32) {name text : String} {classifier : Classifier}
    (parsed : Topology.ofText name classifier text = .ok t) :
    ∀ l ∈ linesOf (steps t (s.layout t)), IsWhole l := by
  have order := isInOrder_ofText s parsed
  have read := nest?_steps (presents_layout s (wellGrouped_ofText parsed))
  obtain ⟨-, rfl⟩ := ofText_eq_ok_iff.mp parsed
  exact isWhole_of_mem (isGrouping_ofStatements name _)
    (fun c member => fitsLine_of_mem_components member) (fun c member => exists_ends member)
    order (map_mark_of_nest? read)

theorem isSpelled_steps (s : Layout.Settings Float32) {name text : String}
    {classifier : Classifier} (parsed : Topology.ofText name classifier text = .ok t) :
    IsSpelled (Flowchart.render t (s.layout t)).content (header s.direction)
      (linesOf (steps t (s.layout t))) := by
  have grouped := wellGrouped_ofText parsed
  have drawn := (isDrawnInFlowchart (presents_layout s grouped) grouped.components).content
  refine isSpelled_of_isWhole ?_ (isWhole_steps s parsed)
  rw [drawn, linesOf, List.map_filterMap]
  rfl

/-- The flowchart of a topology that was read from a text has a header and then lines that are
balanced and in order. -/
theorem flowchart_reads_in_order (s : Layout.Settings Float32) {name text : String}
    {classifier : Classifier} (parsed : Topology.ofText name classifier text = .ok t) :
    ∃ ls xs, IsSpelled (Flowchart.render t (s.layout t)).content (header s.direction) ls ∧
      nest? ls [] = some xs ∧ IsInOrder t xs := by
  have presents := presents_layout s (wellGrouped_ofText parsed)
  exact ⟨_, _, isSpelled_steps s parsed, nest?_steps presents, isInOrder_ofText s parsed⟩

/-- Two statements about two datacenters with one name. One of them is within a datacenter. -/
def crossing : String :=
  "【a】【1】的【z】【x】连接【a】【1】的【w】【y】\n【b】【1】的【z】【x】连接【a】【1】的【z】【x】"

theorem flowchart_of_crossing :
    ∃ t, Topology.ofText "net" {} crossing = .ok t ∧
      t.connections.map (connectionHome t) = [["1", "a"], []] ∧
      ∃ ls xs, IsSpelled
          (Flowchart.render t (Layout.Settings.defaults.layout t : Layout Float32)).content
          (header .leftToRight) ls ∧
        nest? ls [] = some xs ∧ IsInOrder t xs := by
  have homes : (Topology.ofText "net" {} crossing).toOption.map
      (fun t => t.connections.map (connectionHome t)) = some [["1", "a"], []] := by
    decide +kernel
  cases parsed : Topology.ofText "net" {} crossing with
  | error e =>
      rw [parsed] at homes
      cases homes
  | ok t =>
      rw [parsed] at homes
      exact ⟨t, rfl, Option.some.inj homes, flowchart_reads_in_order .defaults parsed⟩

end NetDiagram.Proofs.Drawing
