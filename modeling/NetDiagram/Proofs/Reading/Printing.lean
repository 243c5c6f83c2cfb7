import NetDiagram.Proofs.Reading.Extraction

/-!
# Texts made of statements

A text with nothing but statements, one on each line, is read as it was written: every line yields
its statement, and there is nothing to warn about. The names may hold anything that can stand
between two brackets on one line, such as blanks, carriage returns or the literals.

* `ofLine_statementForm`: what one line holds.
* `survey_printed`: the statements and the warnings of the whole text.
-/

namespace NetDiagram.Proofs.Reading
open Source Text

def endsOf (s : Statement) : Path × Path := (s.source.path, s.target.path)

def statementLine (ends : Path × Path) : List Char := statementForm ends.1 ends.2

/-- The text with a line for each pair of paths. -/
def printed (links : List (Path × Path)) : List Char := ['\n'].intercalate (links.map statementLine)

/-- All four names can stand between brackets on one line. -/
def FitsLine (p : Path) : Prop := IsWritable p ∧ ∀ name ∈ p.names, '\n' ∉ name.toList

/-! ## One line -/

theorem not_mem_statementForm {source target : Path} (first : FitsLine source)
    (second : FitsLine target) : '\n' ∉ statementForm source target := by
  have ends {p : Path} (fits : FitsLine p) : '\n' ∉ endpointForm p := by
    have names := fits.2
    simp [Path.names] at names
    simp [endpointForm, bracketForm, names]
  simp [statementForm, ends first, ends second]

theorem trimEnd_statementForm {p : Char → Bool} (kept : p '】' = false) (source target : Path) :
    trimEnd p (statementForm source target) = statementForm source target := by
  obtain ⟨front, form⟩ : ∃ front, statementForm source target = front ++ ['】'] := by
    refine ⟨endpointForm source ++ '连' :: '接' :: (bracketForm target.environment ++
      (bracketForm target.datacenter ++ '的' :: (bracketForm target.area ++
        '【' :: target.device.toList))), ?_⟩
    simp [statementForm, endpointForm, bracketForm]
  rw [form, trimEnd, List.reverse_concat, List.dropWhile_cons_of_neg (by simp [kept]),
    List.reverse_cons, List.reverse_reverse]

theorem unterminated_endpointTokens (offset : Nat) (p : Path) (ts : List Token) :
    unterminated (place offset (endpointTokens p ++ ts)) =
      unterminated (place (offset + byteLength (endpointForm p)) ts) := by
  have brackets (offset : Nat) (name : String) (ts : List Token) :
      unterminated (place offset (bracketTokens name ++ ts)) =
        unterminated (place (offset + byteLength (bracketForm name)) ts) := by
    simp [bracketTokens, place, unterminated, byteLength_bracketForm, Nat.add_assoc]
  have literal (offset : Nat) (ts : List Token) :
      unterminated (place offset (.possessive :: ts)) =
        unterminated (place (offset + byteLength Token.possessive.text) ts) := by
    simp [place, unterminated]
  simp only [endpointTokens, List.append_assoc, List.cons_append, brackets, literal,
    byteLength_endpointForm, Nat.add_assoc]

theorem unterminated_statementTokens (offset : Nat) (source target : Path) :
    unterminated (place offset (statementTokens source target)) = [] := by
  have literal (offset : Nat) (ts : List Token) :
      unterminated (place offset (.connector :: ts)) =
        unterminated (place (offset + byteLength Token.connector.text) ts) := by
    simp [place, unterminated]
  rw [statementTokens, unterminated_endpointTokens, literal, ← List.append_nil (endpointTokens _),
    unterminated_endpointTokens]
  rfl

theorem ofLine_statementForm {source target : Path} (first : IsWritable source)
    (second : IsWritable target) (offset : Nat) :
    Finding.ofLine ⟨offset, statementForm source target⟩ =
      .statement (statementAt offset source target) [] := by
  have tokens : tokenize (statementForm source target) = statementTokens source target := by
    have := tokenize_statementForm first second []
    rwa [List.append_nil, tokenize, List.append_nil] at this
  have holds : HoldsForm (statementForm source target) :=
    ⟨[], source, target, first, second, [], by simp⟩
  have read : statement.run (place offset (statementTokens source target)) = .ok _ :=
    statement_ok.mpr ⟨source, target, [], (List.append_nil _).symm, rfl⟩
  have found : Statement.find? (place offset (statementTokens source target)) =
      some (statementAt offset source target) := by
    obtain ⟨t, ts, cons⟩ : ∃ t ts, statementTokens source target = t :: ts := ⟨_, _, rfl⟩
    rw [cons] at read ⊢
    rw [find?_place_cons, read]
  unfold Finding.ofLine
  simp only [not_blank_of_holdsForm holds, occursIn_of_holdsForm holds, placedTokens, tokens, found,
    unterminated_statementTokens]
  rfl

/-! ## All lines -/

section Printed

variable {links : List (Path × Path)}
  (fits : ∀ ends ∈ links, FitsLine ends.1 ∧ FitsLine ends.2)
include fits

theorem map_text_printed (some : links ≠ []) :
    (Line.ofText (printed links)).map (·.text) = links.map statementLine := by
  have pieces : (printed links).splitOn '\n' = links.map statementLine := by
    apply List.splitOn_intercalate
    · intro line member
      obtain ⟨ends, inside, rfl⟩ := List.mem_map.mp member
      exact not_mem_statementForm (fits ends inside).1 (fits ends inside).2
    · simpa using some
  rw [map_text_ofText, pieces, List.map_map]
  apply List.map_congr_left
  intro ends _
  exact trimEnd_statementForm rfl ends.1 ends.2

theorem read_of_map_text {lines : List Line}
    (texts : lines.map (·.text) = links.map statementLine) :
    (lines.filterMap fun l => (Finding.ofLine l).statement?).map endsOf = links ∧
      ∀ l ∈ lines, (Finding.ofLine l).warnings = [] := by
  induction links generalizing lines with
  | nil =>
      cases List.map_eq_nil_iff.mp texts
      simp
  | cons ends links ih =>
      cases lines with
      | nil => simp at texts
      | cons l lines =>
          obtain ⟨text, texts⟩ := List.cons.inj texts
          obtain ⟨⟨first, second⟩, fits⟩ := List.forall_mem_cons.mp fits
          obtain ⟨statements, warnings⟩ := ih fits texts
          have line := ofLine_statementForm first.1 second.1 l.offset
          change Finding.ofLine ⟨l.offset, statementLine ends⟩ = _ at line
          rw [← text] at line
          change Finding.ofLine l = _ at line
          constructor
          · rw [List.filterMap_cons, line]
            simpa [Finding.statement?, endsOf, statementAt, endpointAt] using statements
          · simpa [line, Finding.warnings] using warnings

theorem survey_printed (some : links ≠ []) :
    (Survey.ofText (printed links)).statements.map endsOf = links ∧
      (Survey.ofText (printed links)).warnings = [] := by
  obtain ⟨statements, warnings⟩ := read_of_map_text fits (map_text_printed fits some)
  constructor
  · rw [statements_ofText, statements]
  · simpa [Survey.warnings, Survey.ofText] using warnings

end Printed

/-! ## Names that are read -/

theorem not_mem_text {text : List Char} {l : Line} (member : l ∈ Line.ofText text) :
    '\n' ∉ l.text := by
  obtain ⟨piece, inside, front⟩ := exists_piece member
  exact fun feed => not_mem_of_mem_splitOn inside (front.mem feed)

theorem fitsLine_of_mem_statements {text : List Char} {s : Statement}
    (member : s ∈ (Survey.ofText text).statements) :
    FitsLine s.source.path ∧ FitsLine s.target.path := by
  rw [statements_ofText] at member
  obtain ⟨l, inside, found⟩ := List.mem_filterMap.mp member
  obtain ⟨before, source, target, ⟨first, second, after, line⟩, rfl, -⟩ :=
    statement?_ofLine_eq_some.mp found
  have free := not_mem_text inside
  simp [line, statementForm, endpointForm, bracketForm] at free
  constructor
  · refine ⟨first, ?_⟩
    simp [statementAt, endpointAt, Path.names, free]
  · refine ⟨second, ?_⟩
    simp [statementAt, endpointAt, Path.names, free]

end NetDiagram.Proofs.Reading
