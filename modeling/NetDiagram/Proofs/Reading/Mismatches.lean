import Mathlib.Data.List.Forall2
import NetDiagram.Proofs.Reading.Positions
import NetDiagram.Proofs.Reading.Verdicts

/-!
# How far a malformed line gets

A line with the connector and no statement is held against the form of a statement, token by token
and from its first opening bracket on. The readers go through the slots of the form one after
another, so the slot and the tokens at which they stop tell how far the line agrees with the form,
and the warning about the line points at just this place.

* `Follows`: a reader takes one token for each of some slots, and stops at the first that differs.
* `IsLongestMatch`: how far tokens agree with the form.
* `malformed_lines_are_measured`: the warnings about the forms of lines.
-/

namespace NetDiagram.Proofs.Reading
open Source Text

/-! ## The form of a statement -/

def bracketSlots : List Slot := [.opening, .field, .closing]

def endpointSlots : List Slot :=
  bracketSlots ++ (bracketSlots ++ .possessive :: (bracketSlots ++ bracketSlots))

def statementSlots : List Slot := endpointSlots ++ .connector :: endpointSlots

def slotOf? : Token → Option Slot
  | .opening => some .opening
  | .closing => some .closing
  | .possessive => some .possessive
  | .connector => some .connector
  | .field _ => some .field
  | .filler _ => none

theorem fits_iff_slotOf? {slot : Slot} {t : Token} :
    slot.fits t = true ↔ slotOf? t = some slot := by
  cases slot <;> cases t <;> simp [Slot.fits, slotOf?]

/-- From its first token on, every token has the kind that stands in its place in the form. -/
def AgreesWithForm (ts : List Placed) : Prop :=
  ts.map (slotOf? ·.token) <+: statementSlots.map some

/-- No longer run of tokens at the front agrees with the form. -/
structure IsLongestMatch (ts taken : List Placed) : Prop where
  front : taken <+: ts
  agrees : AgreesWithForm taken
  longest : ∀ other, other <+: ts → AgreesWithForm other → other.length ≤ taken.length

/-! ## Readers -/

variable {α β : Type}

def walk : List Slot → List Placed → Except Stop (List Placed)
  | [], ts => .ok ts
  | slot :: slots, ts => ((expect slot).run ts).bind fun r => walk slots r.2

def Follows (slots : List Slot) (m : Reader α) : Prop :=
  ∀ ts, (m.run ts).map (·.2) = walk slots ts

theorem walk_append (slots slots' : List Slot) (ts : List Placed) :
    walk (slots ++ slots') ts = (walk slots ts).bind (walk slots') := by
  induction slots generalizing ts with
  | nil => rfl
  | cons slot slots ih =>
      rw [List.cons_append, walk, walk]
      cases (expect slot).run ts with
      | error stop => rfl
      | ok r => exact ih r.2

theorem follows_pure (a : α) : Follows [] (pure a : Reader α) := fun _ => rfl

theorem Follows.bind {slots slots' : List Slot} {m : Reader α} {f : α → Reader β}
    (first : Follows slots m) (next : ∀ a, Follows slots' (f a)) :
    Follows (slots ++ slots') (m >>= f) := by
  intro ts
  rw [walk_append, ← first ts, StateT.run_bind]
  cases m.run ts with
  | error stop => rfl
  | ok r => exact next r.1 r.2

theorem follows_expect (slot : Slot) : Follows [slot] (expect slot) := by
  intro ts
  rw [walk]
  cases (expect slot).run ts <;> rfl

theorem follows_bracketed : Follows bracketSlots bracketed := by
  refine (follows_expect .opening).bind fun first => ?_
  refine (follows_expect .field).bind fun field => ?_
  refine (follows_expect .closing).bind fun last => ?_
  exact follows_pure _

theorem follows_endpoint : Follows endpointSlots endpoint := by
  refine follows_bracketed.bind fun environment => ?_
  refine follows_bracketed.bind fun datacenter => ?_
  refine (follows_expect .possessive).bind fun _ => ?_
  refine follows_bracketed.bind fun area => ?_
  show Follows (bracketSlots ++ []) _
  refine follows_bracketed.bind fun device => ?_
  exact follows_pure _

theorem follows_statement : Follows statementSlots statement := by
  refine follows_endpoint.bind fun source => ?_
  refine (follows_expect .connector).bind fun _ => ?_
  show Follows (endpointSlots ++ []) _
  refine follows_endpoint.bind fun target => ?_
  exact follows_pure _

/-! ## Where readers stop -/

theorem walk_eq_error {slots : List Slot} {ts : List Placed} {stop : Stop}
    (stopped : walk slots ts = .error stop) :
    ∃ taken front back, ts = taken ++ stop.rest ∧ slots = front ++ stop.slot :: back ∧
      taken.map (slotOf? ·.token) = front.map some ∧
      ∀ t ∈ stop.rest.head?, slotOf? t.token ≠ some stop.slot := by
  induction slots generalizing ts with
  | nil => cases stopped
  | cons slot slots ih =>
      cases ts with
      | nil =>
          cases stopped
          exact ⟨[], [], slots, rfl, rfl, rfl, by simp⟩
      | cons t ts =>
          rw [walk, StateT.run, expect] at stopped
          by_cases fits : slot.fits t.token = true
          · rw [if_pos fits] at stopped
            obtain ⟨taken, front, back, rfl, rfl, agrees, other⟩ := ih stopped
            refine ⟨t :: taken, slot :: front, back, rfl, rfl, ?_, other⟩
            rw [List.map_cons, List.map_cons, agrees, fits_iff_slotOf?.mp fits]
          · rw [if_neg fits] at stopped
            cases stopped
            refine ⟨[], [], slots, rfl, rfl, rfl, ?_⟩
            rintro _ ⟨⟩ same
            exact fits (fits_iff_slotOf?.mpr same)

theorem isLongestMatch_append {taken rest : List Placed} {slot : Slot} {front back : List Slot}
    (form : statementSlots = front ++ slot :: back)
    (agrees : taken.map (slotOf? ·.token) = front.map some)
    (other : ∀ t ∈ rest.head?, slotOf? t.token ≠ some slot) :
    IsLongestMatch (taken ++ rest) taken where
  front := List.prefix_append taken rest
  agrees := by
    rw [AgreesWithForm, agrees, form, List.map_append]
    exact List.prefix_append _ _
  longest := by
    intro longer start inside
    by_contra more
    -- A longer run goes on with the token that does not fit its slot.
    obtain ⟨later, rfl⟩ := List.prefix_of_prefix_length_le (List.prefix_append taken rest) start
      (Nat.le_of_not_le more)
    rw [List.prefix_append_right_inj] at start
    rw [AgreesWithForm, List.map_append, agrees, form, List.map_append,
      List.prefix_append_right_inj] at inside
    cases later with
    | nil => simp at more
    | cons t later =>
        obtain ⟨rest', rfl⟩ := start
        exact other t rfl (List.cons_prefix_cons.mp inside).1

/-! ## The first opening bracket -/

theorem opening_mem_tokenize_iff {line : List Char} :
    .opening ∈ tokenize line ↔ '【' ∈ line := by
  fun_induction tokenize line with
  | case1 => simp
  | case2 cs ih => simp
  | case3 cs ih => simp [ih]
  | case4 cs ih => simp [ih]
  | case5 cs ih => simp [ih]
  | case6 cs _ ih => simp [ih]
  | case7 c cs opening _ _ _ _ ih =>
      have inside : '【' ∉ cs.takeWhile (!isReserved ·) := by
        intro member
        have free := List.all_eq_true.mp (List.all_takeWhile (p := (!isReserved ·)) (l := cs))
        exact absurd (free _ member) (by decide)
      have parts := List.takeWhile_append_dropWhile (p := (!isReserved ·)) (l := cs)
      have later : '【' ∈ cs ↔ '【' ∈ cs.dropWhile (!isReserved ·) := by
        rw [← parts, List.mem_append, parts]
        exact or_iff_right inside
      simp [ih, later, Ne.symm opening]

def fromOpening (ts : List Placed) : List Placed := ts.dropWhile (·.token ≠ .opening)

theorem fromOpening_of_not_mem {ts : List Token} (none : .opening ∉ ts) (offset : Nat) :
    fromOpening (place offset ts) = [] := by
  induction ts generalizing offset with
  | nil => rfl
  | cons t ts ih =>
      rw [List.mem_cons, not_or] at none
      rw [place, fromOpening, List.dropWhile_cons_of_pos (by simpa using Ne.symm none.1)]
      exact ih none.2 _

theorem exists_fromOpening {ts : List Token} (some : .opening ∈ ts) (offset : Nat) :
    ∃ offset' ts', fromOpening (place offset ts) = place offset' (.opening :: ts') := by
  induction ts generalizing offset with
  | nil => cases some
  | cons t ts ih =>
      by_cases opening : t = .opening
      · exact ⟨offset, ts, by rw [opening]; rfl⟩
      · obtain ⟨offset', ts', same⟩ := ih (List.mem_of_ne_of_mem (Ne.symm opening) some) _
        refine ⟨offset', ts', ?_⟩
        rw [← same, place, fromOpening, List.dropWhile_cons_of_pos (by simpa using opening)]
        rfl

theorem run_of_find?_eq_none {front ts : List Placed} {t : Placed}
    (none : Statement.find? (front ++ t :: ts) = none) :
    ∃ stop, statement.run (t :: ts) = .error stop := by
  induction front with
  | nil =>
      rw [List.nil_append, Statement.find?] at none
      split at none
      · cases none
      · rename_i stop read
        exact ⟨stop, read⟩
  | cons u front ih =>
      rw [List.cons_append, Statement.find?] at none
      split at none
      · cases none
      · exact ih none

/-! ## What is reported -/

theorem union_span_of_mem {offset : Nat} {t : Token} {ts : List Token} {u : Placed}
    (member : u ∈ place offset (t :: ts)) :
    Span.union ⟨offset, offset + byteLength t.text⟩ u.span = ⟨offset, u.span.stop⟩ := by
  rcases List.mem_cons.mp member with rfl | later
  · exact union_mk (Nat.le_refl _) (Nat.le_refl _)
  · obtain ⟨front, back, -, start, span⟩ := exists_of_mem_place later
    rw [span]
    exact union_mk (by omega) (by omega)

/-- The labels point at the first token that does not fill its slot, or at the end of the line, and
at the tokens before it. -/
structure IsMeasured (ts taken : List Placed) (lineEnd : Nat) (labels : List Diagnostic.Label) :
    Prop where
  longest : IsLongestMatch ts taken
  positive : 1 ≤ taken.length
  less : taken.length < 27
  labels : ∃ slot first last, statementSlots[taken.length]? = some slot ∧
    taken.head? = some first ∧ taken.getLast? = some last ∧
    labels =
      [⟨(ts[taken.length]?.map (·.span)).getD ⟨lineEnd, lineEnd⟩, "expected " ++ slot.name, true⟩,
        ⟨⟨first.span.start, last.span.stop⟩, "statement starts here", false⟩]

/-- The warning says how far the line agrees with the form, from its first opening bracket on. -/
structure IsExactReport (l : Line) (d : Diagnostic) : Prop where
  severity : d.severity = .warning
  code : d.code = some .malformedStatement
  bare : '【' ∉ l.text → d.labels = [⟨l.span, "expected `【`", true⟩]
  measured : '【' ∈ l.text → ∃ taken,
    IsMeasured (fromOpening (placedTokens l.offset l.text)) taken l.span.stop d.labels

theorem ofTokens_of_error {ts more taken : List Placed} {first : Placed} {stop : Stop}
    (opens : fromOpening ts = first :: more) (read : statement.run (first :: more) = .error stop)
    (whole : first :: more = taken ++ stop.rest) (line : Span) :
    Mismatch.ofTokens line ts =
      { expected := stop.slot
        found := ((first :: more)[taken.length]?.map (·.span)).getD ⟨line.stop, line.stop⟩
        matched := taken.getLast?.map fun last => first.span.union last.span } := by
  have next : (first :: more)[taken.length]? = stop.rest.head? := by
    rw [whole, List.getElem?_append_right (Nat.le_refl _), Nat.sub_self, List.head?_eq_getElem?]
  have before : (first :: more).take ((first :: more).length - stop.rest.length) = taken := by
    rw [whole, List.length_append, Nat.add_sub_cancel, List.take_left]
  rw [fromOpening] at opens
  rw [Mismatch.ofTokens, opens]
  simp only [read, before, next]

/-- A bracket in front fills the first slot, so the readers get past it. -/
theorem ne_nil_of_agrees {first : Placed} {more taken rest : List Placed} {slot : Slot}
    {front back : List Slot} (opening : first.token = .opening)
    (whole : first :: more = taken ++ rest) (form : statementSlots = front ++ slot :: back)
    (agrees : taken.map (slotOf? ·.token) = front.map some)
    (other : ∀ t ∈ rest.head?, slotOf? t.token ≠ some slot) : taken ≠ [] := by
  rintro rfl
  have nothing : front = [] := List.map_eq_nil_iff.mp agrees.symm
  rw [nothing] at form
  have slot : .opening = slot := (List.cons.inj form).1
  rw [List.nil_append] at whole
  rw [← whole, ← slot] at other
  apply other first rfl
  rw [opening]
  rfl

theorem isMeasured_ofTokens {ts : List Placed} {offset : Nat} {us : List Token}
    (opens : fromOpening ts = place offset (.opening :: us))
    (none : Statement.find? ts = none) (line : Span) :
    ∃ taken, IsMeasured (fromOpening ts) taken line.stop
      (malformedWarning (.ofTokens line ts)).labels := by
  obtain ⟨front, parts⟩ : fromOpening ts <:+ ts := List.dropWhile_suffix _
  rw [← parts, opens, place] at none
  obtain ⟨stop, read⟩ := run_of_find?_eq_none none
  have walked := follows_statement (place offset (.opening :: us))
  rw [place, read] at walked
  obtain ⟨taken, slots, back, whole, form, agrees, other⟩ := walk_eq_error walked.symm
  have report := ofTokens_of_error opens read whole line
  obtain ⟨first, taken, rfl⟩ :=
    List.exists_cons_of_ne_nil (ne_nil_of_agrees rfl whole form agrees other)
  have length : (first :: taken).length = slots.length := by
    simpa using congrArg List.length agrees
  have total : statementSlots.length = 27 := rfl
  rw [form, List.length_append, List.length_cons] at total
  have ends := List.getLast?_eq_some_getLast (List.cons_ne_nil first taken)
  have union := union_span_of_mem (u := (first :: taken).getLast (List.cons_ne_nil _ _)) (by
    rw [place, whole]
    exact List.mem_append_left _ (List.getLast_mem _))
  refine ⟨first :: taken, ?_, Nat.succ_pos _, by omega, stop.slot, first, _, ?_, rfl, ends, ?_⟩
  · rw [opens, place, whole]
    exact isLongestMatch_append form agrees other
  · simp [form, length]
  · obtain ⟨rfl, -⟩ := List.cons.inj whole
    rw [malformedWarning, report, ends, opens, place, Option.map_some, union]
    rfl

theorem isExactReport_malformedWarning {l : Line} (without : ¬HoldsForm l.text) :
    IsExactReport l (malformedWarning (.ofTokens l.span (placedTokens l.offset l.text))) where
  severity := rfl
  code := rfl
  bare none := by
    rw [← opening_mem_tokenize_iff] at none
    have nothing := fromOpening_of_not_mem none l.offset
    rw [fromOpening] at nothing
    rw [malformedWarning, Mismatch.ofTokens, placedTokens, nothing]
    rfl
  measured some := by
    rw [← opening_mem_tokenize_iff] at some
    obtain ⟨offset, ts, opens⟩ := exists_fromOpening some l.offset
    exact isMeasured_ofTokens opens (find?_placedTokens_eq_none.mpr without) l.span

/-! ## The statement -/

theorem not_blank_of_occursIn {line : List Char} (inside : occursIn ['连', '接'] line = true) :
    line.all isBlank = false := by
  obtain ⟨before, after, rfl⟩ := occursIn_iff.mp inside
  have sign : isBlank '连' = false := by decide
  simp [sign]

theorem malformed_ofLine (l : Line) :
    (Finding.ofLine l).warnings.filter isMalformed =
      if occursIn ['连', '接'] l.text ∧ ¬HoldsForm l.text then
        [malformedWarning (.ofTokens l.span (placedTokens l.offset l.text))]
      else [] := by
  have unclosed (spans : List Span) :
      (spans.map unterminatedWarning).filter isMalformed = [] := by
    simp [List.filter_eq_nil_iff]
  have found := find?_placedTokens_eq_none (l := l)
  have connector : Token.connector.text = ['连', '接'] := rfl
  rw [Finding.ofLine, connector]
  by_cases candidate : occursIn ['连', '接'] l.text = true
  · have text := not_blank_of_occursIn candidate
    simp only [text, candidate, Bool.not_true, Bool.false_eq_true, if_false, true_and]
    cases read : Statement.find? (placedTokens l.offset l.text) with
    | none => simp [Finding.warnings, unclosed, found.mp read]
    | some s =>
        rw [read] at found
        have holds : HoldsForm l.text := by simpa using found
        simp [Finding.warnings, unclosed, holds]
  · simp only [Bool.eq_false_iff.mpr candidate, Bool.not_false, if_true, Bool.false_eq_true,
      false_and, if_false]
    split <;> rfl

/-- The warnings about the forms of lines come one for every line with the connector and without a
statement, and each says how far its line agrees with the form of a statement. -/
theorem malformed_lines_are_measured (text : List Char) :
    List.Forall₂ IsExactReport
      ((Line.ofText text).filter fun l => occursIn ['连', '接'] l.text ∧ ¬HoldsForm l.text)
      ((Survey.ofText text).warnings.filter isMalformed) := by
  have warnings : (Survey.ofText text).warnings.filter isMalformed =
      ((Line.ofText text).filter fun l => occursIn ['连', '接'] l.text ∧ ¬HoldsForm l.text).map
        fun l => malformedWarning (.ofTokens l.span (placedTokens l.offset l.text)) := by
    rw [Survey.warnings, Survey.ofText, List.flatMap_map, List.filter_flatMap]
    simp only [malformed_ofLine]
    induction Line.ofText text with
    | nil => rfl
    | cons l ls ih =>
        rw [List.flatMap_cons, ih, List.filter_cons]
        by_cases malformed : occursIn ['连', '接'] l.text ∧ ¬HoldsForm l.text
        · simp [malformed]
        · simp [malformed]
  rw [warnings, List.forall₂_map_right_iff, List.forall₂_same]
  intro l member
  have malformed := of_decide_eq_true (List.mem_filter.mp member).2
  exact isExactReport_malformedWarning malformed.2

end NetDiagram.Proofs.Reading
