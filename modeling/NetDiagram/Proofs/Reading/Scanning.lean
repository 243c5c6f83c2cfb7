import NetDiagram.Proofs.Reading.Brackets

/-!
# Scanning a line

A line can be taken apart in turns. A turn takes a token from the front of what is left, by the
first of several ways that works, and after an opening bracket also the text of the field and the
bracket that closes it, as far as they are there. If no way works, it passes over one character, so
a scan ends whatever the line holds. No line makes it do that, and what is found are the tokens of
the line and the warnings about its brackets.

* `Scan.turn`, `scan`: one turn, and all of them.
* `exists_takeOutside`: one of the ways always works.
* `IsOnCourse.turn`, `IsOnCourse.run`: what a turn and a run do.
* `lines_are_scanned_whole`: what a scan finds.
-/

namespace NetDiagram.Proofs.Reading
open Source Text

/-! ## Taking a token -/

def takeSign (t : Token) (cs : List Char) : Option (Token × List Char) :=
  if t.text <+: cs then some (t, cs.drop t.text.length) else none

/-- Takes all characters up to the first that does not pass, but not none. -/
def takeRun (kind : List Char → Token) (p : Char → Bool) (cs : List Char) :
    Option (Token × List Char) :=
  if cs.takeWhile p = [] then none else some (kind (cs.takeWhile p), cs.dropWhile p)

def takeOutside (cs : List Char) : Option (Token × List Char) :=
  [takeSign .opening, takeSign .closing, takeSign .connector, takeSign .possessive,
    takeRun .filler (!isReserved ·), takeSign (.filler ['连'])].findSome? (· cs)

/-! ## Turns -/

/-- How far a line has been taken apart. -/
@[ext]
structure Scan where
  rest : List Char
  /-- The bytes of the line before the rest. -/
  position : Nat := 0
  tokens : List Placed := []
  warnings : List Diagnostic := []
  /-- The characters that were passed over. -/
  skipped : List Char := []

namespace Scan

variable (offset : Nat)

def push (s : Scan) (taken : Token × List Char) : Scan :=
  let stop := s.position + byteLength taken.1.text
  { s with
    rest := taken.2
    position := stop
    tokens := s.tokens ++ [⟨taken.1, Span.shift ⟨s.position, stop⟩ offset⟩] }

def skip (s : Scan) : Scan :=
  { s with
    rest := s.rest.drop 1
    position := s.position + byteLength (s.rest.take 1)
    skipped := s.skipped ++ s.rest.take 1 }

def warn (start : Nat) (s : Scan) : Scan :=
  { s with
    warnings :=
      s.warnings ++ [unterminatedWarning (Span.shift ⟨start, s.position⟩ offset)] }

def name (s : Scan) : Scan := (takeRun .field (!isBracket ·) s.rest).elim s (s.push offset)

def close (start : Nat) (s : Scan) : Scan :=
  (takeSign .closing s.rest).elim (s.warn offset start) (s.push offset)

/-- Takes one token from the rest, and with an opening bracket what belongs to it. -/
def turn (s : Scan) : Scan :=
  match takeOutside s.rest with
  | none => s.skip
  | some (t, rest) =>
    let pushed := s.push offset (t, rest)
    -- Literals are ordinary characters in a field, so its text is taken in another way.
    if t = .opening then (pushed.name offset).close offset s.position else pushed

end Scan

/-! ## The end of a scan -/

theorem length_of_takeSign {t t' : Token} {cs rest : List Char} (text : t.text ≠ [])
    (taken : takeSign t cs = some (t', rest)) : rest.length < cs.length := by
  unfold takeSign at taken
  split at taken
  · rename_i front
    cases taken
    have := front.length_le
    have := List.length_pos_of_ne_nil text
    rw [List.length_drop]
    omega
  · cases taken

theorem length_of_takeRun {kind : List Char → Token} {p : Char → Bool} {t : Token}
    {cs rest : List Char} (taken : takeRun kind p cs = some (t, rest)) :
    rest.length < cs.length := by
  unfold takeRun at taken
  split at taken
  · cases taken
  · rename_i some
    cases taken
    have whole := congrArg List.length (List.takeWhile_append_dropWhile (p := p) (l := cs))
    have := List.length_pos_of_ne_nil some
    rw [List.length_append] at whole
    omega

theorem length_of_takeOutside {t : Token} {cs rest : List Char}
    (taken : takeOutside cs = some (t, rest)) : rest.length < cs.length := by
  obtain ⟨way, member, taken⟩ := List.exists_of_findSome?_eq_some taken
  simp only [List.mem_cons, List.not_mem_nil, or_false] at member
  obtain rfl | rfl | rfl | rfl | rfl | rfl := member
  · exact length_of_takeSign (by decide) taken
  · exact length_of_takeSign (by decide) taken
  · exact length_of_takeSign (by decide) taken
  · exact length_of_takeSign (by decide) taken
  · exact length_of_takeRun taken
  · exact length_of_takeSign (by decide) taken

namespace Scan

variable (offset : Nat)

theorem length_rest_name (s : Scan) : (s.name offset).rest.length ≤ s.rest.length := by
  unfold name
  cases taken : takeRun .field (!isBracket ·) s.rest with
  | none => exact Nat.le_refl _
  | some taken' => exact Nat.le_of_lt (length_of_takeRun taken)

theorem length_rest_close (start : Nat) (s : Scan) :
    (s.close offset start).rest.length ≤ s.rest.length := by
  unfold close
  cases taken : takeSign .closing s.rest with
  | none => exact Nat.le_refl _
  | some taken' => exact Nat.le_of_lt (length_of_takeSign (by decide) taken)

/-- Every turn leaves less than it was given. -/
theorem length_rest_turn {s : Scan} (some : s.rest ≠ []) :
    (s.turn offset).rest.length < s.rest.length := by
  unfold turn
  split
  · have := List.length_pos_of_ne_nil some
    rw [skip, List.length_drop]
    omega
  · rename_i t rest taken
    have shorter := length_of_takeOutside taken
    dsimp only
    split
    · have closed := length_rest_close offset s.position ((s.push offset (t, rest)).name offset)
      have named := length_rest_name offset (s.push offset (t, rest))
      exact Nat.lt_of_le_of_lt (closed.trans named) shorter
    · exact shorter

def run (s : Scan) : Scan := if s.rest = [] then s else run (s.turn offset)
termination_by s.rest.length
decreasing_by exact length_rest_turn offset ‹_›

end Scan

def scan (offset : Nat) (line : List Char) : Scan := Scan.run offset { rest := line }

/-! ## Some way always works -/

theorem takeOutside_opening (cs : List Char) : takeOutside ('【' :: cs) = some (.opening, cs) := by
  simp [takeOutside, takeSign, Token.text]

/-- A token that is taken outside brackets is the first token of the text. -/
structure IsFirst (cs : List Char) (t : Token) (rest : List Char) : Prop where
  taken : takeOutside cs = some (t, rest)
  other : t ≠ .opening
  free : '【' ∉ t.text
  text : cs = t.text ++ rest
  tokens : tokenize cs = t :: tokenize rest

theorem isFirst_closing (cs : List Char) : IsFirst ('】' :: cs) .closing cs where
  taken := by simp [takeOutside, takeSign, Token.text]
  other := by simp
  free := by decide
  text := rfl
  tokens := tokenize_closing cs

theorem exists_takeOutside {c : Char} (other : c ≠ '【') (cs : List Char) :
    ∃ t rest, IsFirst (c :: cs) t rest := by
  by_cases closing : c = '】'
  · subst closing
    exact ⟨_, _, isFirst_closing cs⟩
  by_cases possessive : c = '的'
  · subst possessive
    refine ⟨.possessive, cs, ?_, by simp, by decide, rfl, tokenize_possessive cs⟩
    simp [takeOutside, takeSign, Token.text]
  by_cases connector : c = '连'
  · subst connector
    by_cases whole : ['接'] <+: cs
    · obtain ⟨rest, rfl⟩ := whole
      refine ⟨.connector, rest, ?_, by simp, by decide, rfl, tokenize_connector rest⟩
      simp [takeOutside, takeSign, Token.text]
    · have lone : ∀ rest, cs = '接' :: rest → False := fun rest same => whole ⟨rest, same.symm⟩
      refine ⟨.filler ['连'], cs, ?_, by simp, by decide, rfl, tokenize_lone lone⟩
      simp [takeOutside, takeSign, takeRun, Token.text, isReserved, isBracket, whole]
  · have free : isReserved c = false := by
      simp [isReserved, isBracket, other, closing, possessive, connector]
    refine ⟨.filler (c :: cs.takeWhile (!isReserved ·)), cs.dropWhile (!isReserved ·), ?_, by simp,
      opening_not_mem_filler other cs, ?_, tokenize_filler free cs⟩
    · simp [takeOutside, takeSign, takeRun, Token.text, free, other.symm, Ne.symm closing,
        Ne.symm possessive, Ne.symm connector]
    · rw [Token.text, List.cons_append, List.takeWhile_append_dropWhile]

/-! ## What turns do -/

/-- What has been found in a line, and what its rest holds, are what the line holds. -/
structure IsOnCourse (offset : Nat) (line : List Char) (s : Scan) : Prop where
  tokens : s.tokens ++ placedTokens (offset + s.position) s.rest = placedTokens offset line
  warnings : s.warnings ++
      (unclosedFrom (offset + s.position) s.rest).map unterminatedWarning =
    (unclosedFrom offset line).map unterminatedWarning
  skipped : s.skipped = []
  bytes : s.position + byteLength s.rest = byteLength line

theorem shift_mk (n m offset : Nat) : Span.shift ⟨n, m⟩ offset = ⟨offset + n, offset + m⟩ := by
  rw [Span.shift, Nat.add_comm n, Nat.add_comm m]

section Turns

variable {offset : Nat} {line : List Char} {s : Scan}

theorem turn_of_isFirst {t : Token} {rest : List Char} (first : IsFirst s.rest t rest) :
    s.turn offset = s.push offset (t, rest) := by
  unfold Scan.turn
  rw [first.taken]
  exact if_neg first.other

theorem IsOnCourse.push (course : IsOnCourse offset line s) {t : Token} {rest : List Char}
    (first : IsFirst s.rest t rest) : IsOnCourse offset line (s.push offset (t, rest)) where
  tokens := by
    rw [← course.tokens, placedTokens, placedTokens, first.tokens, place, Scan.push, shift_mk,
      List.append_assoc, Nat.add_assoc]
    rfl
  warnings := by
    rw [← course.warnings, first.text, unclosedFrom_append first.free, Nat.add_assoc]
    rfl
  skipped := course.skipped
  bytes := by
    rw [← course.bytes, first.text, byteLength_append, ← Nat.add_assoc]
    rfl

theorem name_eq (s : Scan) :
    s.name offset =
      { s with
        rest := s.rest.dropWhile (!isBracket ·)
        position := s.position + byteLength (s.rest.takeWhile (!isBracket ·))
        tokens := s.tokens ++ place (offset + s.position)
          (fieldToken (s.rest.takeWhile (!isBracket ·))) } := by
  have parts := List.takeWhile_append_dropWhile (p := (!isBracket ·)) (l := s.rest)
  unfold Scan.name takeRun
  cases taken : s.rest.takeWhile (!isBracket ·) with
  | nil =>
      rw [taken, List.nil_append] at parts
      rw [if_pos rfl, parts]
      simp [fieldToken, place]
  | cons c cs =>
      rw [if_neg (List.cons_ne_nil c cs)]
      simp [Scan.push, fieldToken, place, Token.text, shift_mk, Nat.add_assoc]

/-- An opening bracket is taken with the text of the field, whether there is any or not. -/
theorem turn_opening {cs : List Char} (rest : s.rest = '【' :: cs) :
    s.turn offset = Scan.close offset s.position
      { s with
        rest := cs.dropWhile (!isBracket ·)
        position := s.position + byteLength ('【' :: cs.takeWhile (!isBracket ·))
        tokens := s.tokens ++ place (offset + s.position)
          (.opening :: fieldToken (cs.takeWhile (!isBracket ·))) } := by
  unfold Scan.turn
  rw [rest, takeOutside_opening]
  dsimp only
  rw [if_pos rfl, name_eq]
  simp [Scan.push, shift_mk, place, Token.text, Nat.add_assoc]

theorem close_of_closing {cs : List Char} (rest : s.rest = '】' :: cs) (start : Nat) :
    s.close offset start = s.push offset (.closing, cs) := by
  rw [Scan.close, rest]
  rfl

theorem close_of_not_closing (rest : s.rest.head? ≠ some '】') (start : Nat) :
    s.close offset start = s.warn offset start := by
  have none : takeSign .closing s.rest = none := by
    refine if_neg fun front => rest ?_
    obtain ⟨cs, same⟩ := front
    rw [← same]
    rfl
  rw [Scan.close, none]
  rfl

theorem IsOnCourse.turn_opening (course : IsOnCourse offset line s) {cs : List Char}
    (rest : s.rest = '【' :: cs) : IsOnCourse offset line (s.turn offset) := by
  have tokens := course.tokens
  have warnings := course.warnings
  have bytes := course.bytes
  rw [rest, ← List.takeWhile_append_dropWhile (p := (!isBracket ·)) (l := cs), ← List.cons_append,
    byteLength_append, ← Nat.add_assoc] at bytes
  rw [rest, placedTokens, tokenize_opening, ← List.cons_append, place_append, textOf_cons,
    textOf_fieldToken, ← List.append_assoc, Nat.add_assoc] at tokens
  rw [rest, unclosedFrom_opening, List.map_append, ← List.append_assoc, Nat.add_assoc] at warnings
  rw [Reading.turn_opening rest]
  -- With the field the tokens are as they should be, and what stands after it decides the warning.
  by_cases closing : (cs.dropWhile (!isBracket ·)).head? = some '】'
  · obtain ⟨ds, after⟩ := List.head?_eq_some_iff.mp closing
    rw [close_of_closing after]
    rw [if_pos closing, List.map_nil, List.append_nil] at warnings
    apply IsOnCourse.push
    · exact ⟨tokens, warnings, course.skipped, bytes⟩
    · exact after.symm ▸ isFirst_closing ds
  · rw [close_of_not_closing closing, Scan.warn, shift_mk]
    rw [if_neg closing] at warnings
    exact ⟨tokens, warnings, course.skipped, bytes⟩

theorem IsOnCourse.turn (course : IsOnCourse offset line s) (some : s.rest ≠ []) :
    IsOnCourse offset line (s.turn offset) := by
  obtain ⟨c, cs, rest⟩ := List.exists_cons_of_ne_nil some
  by_cases opening : c = '【'
  · subst opening
    exact course.turn_opening rest
  · obtain ⟨t, rest', first⟩ := exists_takeOutside opening cs
    rw [← rest] at first
    rw [turn_of_isFirst first]
    exact course.push first

theorem IsOnCourse.run (course : IsOnCourse offset line s) :
    IsOnCourse offset line (s.run offset) := by
  fun_induction Scan.run offset s with
  | case1 s none => exact course
  | case2 s some ih => exact ih (course.turn some)

end Turns

section Runs

variable (offset : Nat)

theorem rest_run (s : Scan) : (s.run offset).rest = [] := by
  fun_induction Scan.run offset s with
  | case1 s none => exact none
  | case2 s some ih => exact ih

/-- A run takes no more turns than characters are left. -/
theorem exists_turns (s : Scan) : ∃ n ≤ s.rest.length, (Scan.turn offset)^[n] s = s.run offset := by
  fun_induction Scan.run offset s with
  | case1 s none => exact ⟨0, Nat.zero_le _, rfl⟩
  | case2 s some ih =>
      obtain ⟨n, few, same⟩ := ih
      exact ⟨n + 1, Nat.lt_of_le_of_lt few (Scan.length_rest_turn offset some), same⟩

theorem placedTokens_nil : placedTokens offset [] = [] := by
  rw [placedTokens, tokenize]
  rfl

theorem scan_eq (line : List Char) :
    scan offset line =
      { rest := []
        position := byteLength line
        tokens := placedTokens offset line
        warnings := (unterminated (placedTokens offset line)).map unterminatedWarning
        skipped := [] } := by
  have start : IsOnCourse offset line { rest := line } := ⟨rfl, rfl, rfl, Nat.zero_add _⟩
  obtain ⟨tokens, warnings, skipped, bytes⟩ := start.run
  have rest := rest_run offset { rest := line }
  rw [rest, placedTokens_nil, List.append_nil] at tokens
  rw [rest, unclosedFrom, List.map_nil, List.append_nil, ← unterminated_placedTokens] at warnings
  rw [rest, byteLength_nil, Nat.add_zero] at bytes
  exact Scan.ext rest bytes tokens warnings skipped

end Runs

/-! ## The statement -/

/-- The tokens are a line that starts at byte `offset`. Their texts put together are the line, they
stand side by side from its start to its end, the opening brackets among them are those of the line,
and the text of a field comes directly after one of these. -/
structure IsCover (offset : Nat) (line : List Char) (tokens : List Placed) : Prop where
  texts : tokens.flatMap (·.token.text) = line
  spans : IsTiling offset tokens (offset + byteLength line)
  openings : ∀ span, ⟨.opening, span⟩ ∈ tokens ↔ ∃ before after, line = before ++ '【' :: after ∧
    span = ⟨offset + byteLength before, offset + byteLength before + byteLength ['【']⟩
  fields : ∀ front text span back, tokens = front ++ ⟨.field text, span⟩ :: back →
    front.getLast?.map (·.token) = some .opening

theorem isCover_placedTokens (offset : Nat) (line : List Char) :
    IsCover offset line (placedTokens offset line) where
  texts := by
    rw [← List.flatMap_map, placedTokens, map_token_place]
    exact textOf_tokenize line
  spans := isTiling_placedTokens offset line
  openings _ := opening_mem_placedTokens_iff
  fields _ _ _ _ := getLast?_of_field

/-- The spans are those of the brackets that stay open, each once and in their order. -/
structure AreUnclosed (offset : Nat) (line : List Char) (spans : List Span) : Prop where
  ordered : spans.Pairwise (·.start < ·.start)
  members : ∀ span, span ∈ spans ↔ IsUnclosed offset line span

theorem areUnclosed_unterminated (offset : Nat) (line : List Char) :
    AreUnclosed offset line (unterminated (placedTokens offset line)) := by
  rw [unterminated_placedTokens]
  exact ⟨pairwise_unclosedFrom offset line, fun _ => mem_unclosedFrom_iff⟩

/-- The scan of a line ends after no more turns than the line has characters, with nothing left and
without having passed over a character. It finds the tokens of the line, which cover it, and warns
once about each opening bracket that stays open, in their order, and about no other bracket. -/
theorem lines_are_scanned_whole (offset : Nat) (line : List Char) :
    (∃ n ≤ line.length, (Scan.turn offset)^[n] { rest := line } = scan offset line) ∧
      scan offset line =
        { rest := []
          position := byteLength line
          tokens := placedTokens offset line
          warnings := (unterminated (placedTokens offset line)).map unterminatedWarning
          skipped := [] } ∧
      IsCover offset line (placedTokens offset line) ∧
      AreUnclosed offset line (unterminated (placedTokens offset line)) :=
  ⟨exists_turns offset { rest := line }, scan_eq offset line, isCover_placedTokens offset line,
    areUnclosed_unterminated offset line⟩

/-! The first bracket stays open up to the second one, and the third has no text and is closed. -/

example : unterminated (placedTokens 7 ['【', '甲', '【', '乙', '】', '】', '【', '】']) =
    [⟨7, 13⟩] := by
  decide +kernel

end NetDiagram.Proofs.Reading
