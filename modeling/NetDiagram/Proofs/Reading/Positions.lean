import NetDiagram.CommandLine.Failure
import NetDiagram.Proofs.Reading.Printing

/-!
# Positions can be looked up

Every position that is reported about a text is an end of one of its tokens or of one of its lines.
So a label can be cut out of the text, wherever the text has characters of several bytes, and what
is cut out for the two ends of a statement is what was written there.

* `IsUsable`: what is asked of a span.
* `isUsable_of_mem_placedTokens`: the tokens of a line.
* `hasUsableLabels_ofLine`: labels are made from the spans of tokens and of the line.
* `isLocated_of_mem_statements`: the statements of a text.
-/

namespace NetDiagram.Proofs.Reading
open Source Text

/-! ## Spans that can be cut out -/

/-- A character of the text ends at byte `n`, or the text starts there. -/
def IsBoundary (text : List Char) (n : Nat) : Prop := ∃ front, front <+: text ∧ byteLength front = n

/-- The span lies in the text and does not cut a character in two. -/
structure IsUsable (text : List Char) (span : Span) : Prop where
  ordered : span.start ≤ span.stop
  inside : span.stop ≤ byteLength text
  start : IsBoundary text span.start
  stop : IsBoundary text span.stop

/-- The text can be cut at both ends of the span, and what stands between them has as many bytes as
the span says. -/
def CanBeCut (text : List Char) (span : Span) : Prop :=
  ∃ before part after, text = before ++ (part ++ after) ∧ byteLength before = span.start ∧
    byteLength part = span.length

theorem byteLength_prefix_le {front text : List Char} (start : front <+: text) :
    byteLength front ≤ byteLength text := by
  obtain ⟨more, rfl⟩ := start
  rw [byteLength_append]
  exact Nat.le_add_right _ _

section Usable

variable {text : List Char} {a b : Span}

theorem isUsable_of_parts {before part after : List Char} {n : Nat}
    (whole : text = before ++ (part ++ after)) (start : n = byteLength before) :
    IsUsable text ⟨n, n + byteLength part⟩ := by
  subst whole start
  have stop : IsBoundary (before ++ (part ++ after)) (byteLength before + byteLength part) :=
    ⟨before ++ part, ⟨after, List.append_assoc _ _ _⟩, byteLength_append _ _⟩
  refine ⟨Nat.le_add_right _ _, ?_, ⟨before, List.prefix_append _ _, rfl⟩, stop⟩
  obtain ⟨front, inside, length⟩ := stop
  exact length ▸ byteLength_prefix_le inside

theorem IsUsable.union (first : IsUsable text a) (second : IsUsable text b) :
    IsUsable text (a.union b) where
  ordered := by
    have := first.ordered
    have := second.ordered
    simp only [Span.start_union, Span.stop_union]
    omega
  inside := Nat.max_le.mpr ⟨first.inside, second.inside⟩
  start := by
    rw [Span.start_union]
    rcases Nat.le_total a.start b.start with le | le
    · exact (Nat.min_eq_left le).symm ▸ first.start
    · exact (Nat.min_eq_right le).symm ▸ second.start
  stop := by
    rw [Span.stop_union]
    rcases Nat.le_total a.stop b.stop with le | le
    · exact (Nat.max_eq_right le).symm ▸ second.stop
    · exact (Nat.max_eq_left le).symm ▸ first.stop

theorem IsUsable.canBeCut (usable : IsUsable text a) : CanBeCut text a := by
  obtain ⟨before, start, first⟩ := usable.start
  obtain ⟨front, stop, second⟩ := usable.stop
  have ordered := usable.ordered
  rw [← first, ← second] at ordered
  rw [CanBeCut, Span.length, ← first, ← second]
  -- Both ends belong to prefixes of the text, and of these one is a prefix of the other.
  rcases List.prefix_or_prefix_of_prefix start stop with longer | shorter
  · obtain ⟨part, rfl⟩ := longer
    obtain ⟨after, rfl⟩ := stop
    refine ⟨before, part, after, List.append_assoc _ _ _, rfl, ?_⟩
    rw [byteLength_append, Nat.add_sub_cancel_left]
  · obtain ⟨after, rfl⟩ := start
    have same := Nat.le_antisymm ordered (byteLength_prefix_le shorter)
    exact ⟨before, [], after, rfl, rfl, by rw [same, Nat.sub_self, byteLength_nil]⟩

end Usable

/-! ## Tokens -/

theorem exists_of_mem_place {offset : Nat} {ts : List Token} {t : Placed}
    (member : t ∈ place offset ts) :
    ∃ front back, ts = front ++ t.token :: back ∧
      t.span.start = offset + byteLength (textOf front) ∧
      t.span = ⟨t.span.start, t.span.start + byteLength t.token.text⟩ := by
  induction ts generalizing offset with
  | nil => cases member
  | cons u us ih =>
      rw [place] at member
      rcases List.mem_cons.mp member with rfl | later
      · exact ⟨[], us, rfl, rfl, rfl⟩
      · obtain ⟨front, back, rfl, start, span⟩ := ih later
        refine ⟨u :: front, back, rfl, ?_, span⟩
        rw [start, textOf_cons, byteLength_append, Nat.add_assoc]

def StandsIn (text : List Char) (l : Line) : Prop :=
  ∃ before after, text = before ++ (l.text ++ after) ∧ l.offset = byteLength before

section Lines

variable {text : List Char} {l : Line} (stands : StandsIn text l)
include stands

theorem isUsable_part {front part back : List Char} (whole : l.text = front ++ (part ++ back))
    {n : Nat} (start : n = l.offset + byteLength front) :
    IsUsable text ⟨n, n + byteLength part⟩ := by
  obtain ⟨before, after, same, offset⟩ := stands
  have around : text = (before ++ front) ++ (part ++ (back ++ after)) := by
    rw [same, whole]
    simp only [List.append_assoc]
  exact isUsable_of_parts around (by rw [start, offset, byteLength_append])

theorem isUsable_of_mem_placedTokens {t : Placed} (member : t ∈ placedTokens l.offset l.text) :
    IsUsable text t.span := by
  obtain ⟨front, back, tokens, start, span⟩ := exists_of_mem_place member
  have whole : l.text = textOf front ++ (t.token.text ++ textOf back) := by
    rw [← textOf_tokenize l.text, tokens, textOf_append, textOf_cons]
  rw [span]
  exact isUsable_part stands whole start

theorem isUsable_line : IsUsable text l.span := by
  have whole : l.text = [] ++ (l.text ++ []) := by simp
  exact isUsable_part stands whole rfl

theorem isUsable_lineEnd : IsUsable text ⟨l.span.stop, l.span.stop⟩ := by
  have whole : l.text = l.text ++ ([] ++ []) := by simp
  exact isUsable_part stands whole rfl

end Lines

/-! ## What readers leave -/

/-- Whether it reads to its end or stops, the reader leaves an end of the tokens it was given. -/
def LeavesEnd {α : Type} (m : Reader α) : Prop :=
  ∀ ts, match m.run ts with
    | .ok (_, rest) => rest <:+ ts
    | .error stop => stop.rest <:+ ts

theorem leavesEnd_pure {α : Type} (a : α) : LeavesEnd (pure a : Reader α) :=
  fun ts => List.suffix_refl ts

theorem LeavesEnd.bind {α β : Type} {m : Reader α} {f : α → Reader β} (first : LeavesEnd m)
    (next : ∀ a, LeavesEnd (f a)) : LeavesEnd (m >>= f) := by
  intro ts
  have left := first ts
  rw [StateT.run_bind]
  cases read : m.run ts with
  | error stop =>
      rw [read] at left
      exact left
  | ok result =>
      rw [read] at left
      have left' := next result.1 result.2
      change match (f result.1).run result.2 with
        | .ok (_, rest) => rest <:+ ts
        | .error stop => stop.rest <:+ ts
      cases read' : (f result.1).run result.2 with
      | error stop =>
          rw [read'] at left'
          exact left'.trans left
      | ok result' =>
          rw [read'] at left'
          exact left'.trans left

theorem leavesEnd_expect (slot : Slot) : LeavesEnd (expect slot) := by
  intro ts
  cases ts with
  | nil => exact List.suffix_refl []
  | cons t ts =>
      rw [StateT.run, expect]
      cases slot.fits t.token with
      | true => exact List.suffix_cons t ts
      | false => exact List.suffix_refl _

theorem leavesEnd_bracketed : LeavesEnd bracketed := by
  refine (leavesEnd_expect .opening).bind fun first => ?_
  refine (leavesEnd_expect .field).bind fun field => ?_
  refine (leavesEnd_expect .closing).bind fun last => ?_
  exact leavesEnd_pure _

theorem leavesEnd_endpoint : LeavesEnd endpoint := by
  refine leavesEnd_bracketed.bind fun environment => ?_
  refine leavesEnd_bracketed.bind fun datacenter => ?_
  refine (leavesEnd_expect .possessive).bind fun _ => ?_
  refine leavesEnd_bracketed.bind fun area => ?_
  refine leavesEnd_bracketed.bind fun device => ?_
  exact leavesEnd_pure _

theorem leavesEnd_statement : LeavesEnd statement := by
  refine leavesEnd_endpoint.bind fun source => ?_
  refine (leavesEnd_expect .connector).bind fun _ => ?_
  refine leavesEnd_endpoint.bind fun target => ?_
  exact leavesEnd_pure _

/-! ## Labels -/

section Labels

variable {text : List Char} {ts : List Placed} (tokens : ∀ t ∈ ts, IsUsable text t.span)
include tokens

theorem isUsable_of_mem_unterminated {place : Span} (member : place ∈ unterminated ts) :
    IsUsable text place := by
  induction ts with
  | nil => cases member
  | cons t ts ih =>
      obtain ⟨first, tokens⟩ := List.forall_mem_cons.mp tokens
      have later := ih tokens
      rw [unterminated.eq_def] at member
      dsimp only at member
      split at member
      · split at member
        · exact later member
        · exact later member
        · rcases List.mem_cons.mp member with rfl | member
          · exact first.union (tokens _ List.mem_cons_self)
          · exact later member
        · rcases List.mem_cons.mp member with rfl | member
          · exact first
          · exact later member
      · exact later member

theorem isUsable_mismatch {line : Span} (whole : IsUsable text line)
    (last : IsUsable text ⟨line.stop, line.stop⟩) :
    IsUsable text (Mismatch.ofTokens line ts).found ∧
      ∀ part ∈ (Mismatch.ofTokens line ts).matched, IsUsable text part := by
  unfold Mismatch.ofTokens
  have inside : ∀ t ∈ ts.dropWhile (·.token ≠ .opening), IsUsable text t.span :=
    fun t member => tokens t ((List.dropWhile_suffix _).mem member)
  split
  · exact ⟨whole, by simp⟩
  · rename_i first more brackets
    rw [brackets] at inside
    have left := leavesEnd_statement (first :: more)
    split
    · exact ⟨whole, by simp⟩
    · rename_i stop read
      -- What is left is an end of the tokens, so its first token was among them.
      rw [read] at left
      constructor
      · dsimp only
        cases rest : stop.rest with
        | nil => exact last
        | cons t rest' => exact inside t (left.mem (rest ▸ List.mem_cons_self))
      · intro part member
        obtain ⟨t, taken, rfl⟩ := Option.map_eq_some_iff.mp member
        have among := List.mem_of_mem_take (List.mem_of_getLast? taken)
        exact (inside first List.mem_cons_self).union (inside t among)

end Labels

def HasUsableLabels (text : List Char) (d : Diagnostic) : Prop :=
  ∀ label ∈ d.labels, IsUsable text label.span

section Warnings

variable {text : List Char} {l : Line} (stands : StandsIn text l)
include stands

theorem hasUsableLabels_unterminatedWarning {place : Span}
    (member : place ∈ unterminated (placedTokens l.offset l.text)) :
    HasUsableLabels text (unterminatedWarning place) := by
  intro label inside
  rw [List.mem_singleton.mp inside]
  exact isUsable_of_mem_unterminated (fun t => isUsable_of_mem_placedTokens stands) member

theorem hasUsableLabels_malformedWarning :
    HasUsableLabels text
      (malformedWarning (.ofTokens l.span (placedTokens l.offset l.text))) := by
  obtain ⟨found, matched⟩ := isUsable_mismatch (fun t => isUsable_of_mem_placedTokens stands)
    (isUsable_line stands) (isUsable_lineEnd stands)
  intro label inside
  rcases List.mem_cons.mp inside with rfl | inside
  · exact found
  · obtain ⟨part, same, rfl⟩ := Option.map_eq_some_iff.mp (Option.mem_toList.mp inside)
    exact matched part same

theorem hasUsableLabels_ofLine {d : Diagnostic} (member : d ∈ (Finding.ofLine l).warnings) :
    HasUsableLabels text d := by
  have unclosed (member : d ∈ (unterminated (placedTokens l.offset l.text)).map
      unterminatedWarning) : HasUsableLabels text d := by
    obtain ⟨place, inside, rfl⟩ := List.mem_map.mp member
    exact hasUsableLabels_unterminatedWarning stands inside
  unfold Finding.ofLine at member
  split at member
  · cases member
  split at member
  · cases member
  dsimp only at member
  split at member
  · exact unclosed member
  · rcases List.mem_append.mp member with member | member
    · exact unclosed member
    · rw [List.mem_singleton.mp member]
      exact hasUsableLabels_malformedWarning stands

end Warnings

section Problems

variable {text : List Char} {d : Diagnostic}

theorem hasUsableLabels_of_mem_warnings (member : d ∈ (Survey.ofText text).warnings) :
    HasUsableLabels text d := by
  obtain ⟨finding, inside, warned⟩ := List.mem_flatMap.mp member
  obtain ⟨l, line, rfl⟩ := List.mem_map.mp inside
  exact hasUsableLabels_ofLine (located_ofText line) warned

theorem hasUsableLabels_emptyInput : HasUsableLabels text emptyInput := by
  intro label inside
  cases inside

theorem hasUsableLabels_noStatements : HasUsableLabels text (noStatements text) := by
  intro label inside
  rw [List.mem_singleton.mp inside]
  have whole : text = [] ++ (text ++ []) := by simp
  simpa using isUsable_of_parts whole rfl

theorem hasUsableLabels_of_obstacle? {s : Survey} (blocked : s.obstacle? text = some d) :
    HasUsableLabels text d := by
  unfold Survey.obstacle? at blocked
  split at blocked
  · cases blocked
    exact hasUsableLabels_emptyInput
  split at blocked
  · cases blocked
    exact hasUsableLabels_noStatements
  · cases blocked

theorem hasUsableLabels_of_verdict
    (member : d ∈ (Verdict.ofText text).errors ++ (Verdict.ofText text).warnings) :
    HasUsableLabels text d := by
  have warned (member : d ∈ (Survey.ofText text).warnings) : HasUsableLabels text d :=
    hasUsableLabels_of_mem_warnings member
  unfold Verdict.ofText at member
  dsimp only at member
  split at member
  · rcases List.mem_cons.mp member with rfl | member
    · exact hasUsableLabels_emptyInput
    · exact warned member
  split at member
  · change d ∈ noStatements text ::
      ((Survey.ofText text).warnings ++ [Verdict.formatHint]) at member
    rcases List.mem_cons.mp member with rfl | member
    · exact hasUsableLabels_noStatements
    · rcases List.mem_append.mp member with member | member
      · exact warned member
      · rw [List.mem_singleton.mp member]
        intro label inside
        cases inside
  · exact warned member

end Problems

/-! ## Statements -/

/-- Both ends of a statement can be cut out of the text, which gives what is written there, and
they stand on one line with one connector between them. -/
structure IsLocated (text : List Char) (s : Statement) : Prop where
  source : IsUsable text s.source.span
  target : IsUsable text s.target.span
  adjacent : s.target.span.start = s.source.span.stop + byteLength ['连', '接']
  sourceText : slice s.source.span.start s.source.span.stop text = endpointForm s.source.path
  connector : slice s.source.span.stop s.target.span.start text = ['连', '接']
  targetText : slice s.target.span.start s.target.span.stop text = endpointForm s.target.path
  oneLine : '\n' ∉ slice s.source.span.start s.target.span.stop text

section Statements

variable {text : List Char}

theorem slice_of_parts {before part after : List Char}
    (whole : text = before ++ (part ++ after)) :
    slice (byteLength before) (byteLength before + byteLength part) text = part := by
  rw [whole, ← List.append_assoc]
  exact slice_append before part after

theorem isLocated_statementAt {source target : Path} {front back : List Char}
    (whole : text = front ++ (statementForm source target ++ back))
    (free : '\n' ∉ statementForm source target) :
    IsLocated text (statementAt (byteLength front) source target) := by
  have first : text = front ++ (endpointForm source ++ (['连', '接'] ++
      (endpointForm target ++ back))) := by
    rw [whole, statementForm]
    simp only [List.append_assoc, List.cons_append, List.nil_append]
  have middle : text = (front ++ endpointForm source) ++ (['连', '接'] ++
      (endpointForm target ++ back)) := by
    rw [first, List.append_assoc]
  have last : text = ((front ++ endpointForm source) ++ ['连', '接']) ++
      (endpointForm target ++ back) := by
    rw [middle, List.append_assoc _ ['连', '接']]
  have middleStart := byteLength_append front (endpointForm source)
  have lastStart := byteLength_append (front ++ endpointForm source) ['连', '接']
  have parts := slice_of_parts whole
  rw [byteLength_statementForm, ← Nat.add_assoc, ← Nat.add_assoc] at parts
  rw [middleStart] at lastStart
  refine ⟨isUsable_of_parts first rfl, isUsable_of_parts last lastStart.symm, rfl,
    slice_of_parts first, ?_, ?_, ?_⟩
  · have connector := slice_of_parts middle
    rwa [middleStart] at connector
  · have target := slice_of_parts last
    rwa [lastStart] at target
  · exact parts.symm ▸ free

theorem isLocated_of_mem_statements {s : Statement}
    (member : s ∈ (Survey.ofText text).statements) : IsLocated text s := by
  rw [statements_ofText] at member
  obtain ⟨l, inside, found⟩ := List.mem_filterMap.mp member
  obtain ⟨front, source, target, ⟨-, -, back, line⟩, rfl, -⟩ := statement?_ofLine_eq_some.mp found
  obtain ⟨before, after, same, offset⟩ := located_ofText inside
  have whole : text = (before ++ front) ++ (statementForm source target ++ (back ++ after)) := by
    rw [same, line]
    simp only [List.append_assoc]
  have free : '\n' ∉ statementForm source target := by
    intro feed
    apply not_mem_text inside
    rw [line]
    exact List.mem_append_right _ (List.mem_append_left _ feed)
  have located := isLocated_statementAt whole free
  rwa [byteLength_append, ← offset] at located

end Statements

/-! ## Reports -/

/-- The labels of all reports on a text that cannot be used can be cut out of it. -/
def CanBeReported (text : List Char) (e : ParseError) : Prop :=
  ∀ report ∈ (CommandLine.Failure.text e).reports, ∀ label ∈ report.labels,
    CanBeCut text label.span

theorem canBeReported_of_labels {text : List Char} {e : ParseError}
    (labels : ∀ d ∈ e.diagnostics, HasUsableLabels text d) : CanBeReported text e := by
  intro report reported label inside
  obtain ⟨d, member, rfl⟩ := List.mem_map.mp reported
  exact (labels d member label inside).canBeCut

/-! ## The statement -/

/-- What a survey comes to has its place in the text. -/
def IsPlaced (text : List Char) : Except ParseError Survey → Prop
  | .ok found =>
    (∀ s ∈ found.statements, IsLocated text s) ∧ ∀ d ∈ found.warnings, HasUsableLabels text d
  | .error e => (∀ d ∈ e.diagnostics, HasUsableLabels text d) ∧ CanBeReported text e

theorem isPlaced_survey (text : List Char) : IsPlaced text (survey text) := by
  rw [survey_eq]
  split
  · rename_i obstacle blocked
    have labels : ∀ d ∈ obstacle :: (Survey.ofText text).warnings, HasUsableLabels text d :=
      List.forall_mem_cons.mpr
        ⟨hasUsableLabels_of_obstacle? blocked, fun d => hasUsableLabels_of_mem_warnings⟩
    exact ⟨labels, canBeReported_of_labels labels⟩
  · exact ⟨fun s => isLocated_of_mem_statements, fun d => hasUsableLabels_of_mem_warnings⟩

/-- Whatever is reported about a text can be looked up in it. The two ends of every statement that
is found can be cut out, and what is cut out is the written form of their four names, on one line
and with one connector between them. The labels of all problems, of a survey as well as of a check,
lie in the text and start and end at its characters, so their lengths are those of what they
cover, also in the reports on a text that cannot be used. -/
theorem positions_are_usable (text : List Char) :
    IsPlaced text (survey text) ∧
      (∀ d ∈ (Verdict.ofText text).errors ++ (Verdict.ofText text).warnings,
        HasUsableLabels text d) ∧
      CanBeReported text ⟨(Verdict.ofText text).errors⟩ := by
  refine ⟨isPlaced_survey text, fun d => hasUsableLabels_of_verdict, ?_⟩
  apply canBeReported_of_labels
  exact fun d member => hasUsableLabels_of_verdict (List.mem_append_left _ member)

/-! The last bracket of the second line, the token that is wrong and what stands before it. -/

example :
    (Survey.ofText ['序', '\n', '【', '甲', '】', '连', '接', '【', '乙']).warnings.flatMap
      (·.labels.map (·.span)) = [⟨19, 25⟩, ⟨13, 19⟩, ⟨4, 13⟩] := by
  decide +kernel

end NetDiagram.Proofs.Reading
