import NetDiagram.Source.Survey

/-!
# Findings move with their lines

Positions are only handed on: tokens get theirs from the offset of the line, and whatever is found
in them gets its own from those of the tokens. So a line that stands elsewhere is read in the same
way, and everything that is found in it has moved by the same number of bytes. The readers need to
be compared also where they stop, because the stop decides where a line is said to go wrong.

* `statement_moves`: the readers, with their stops.
* `ofLine_shift`: what is found in a line.
* `warnings_shift`: what is said about it.
-/

namespace NetDiagram

/-! ## What has positions -/

def Diagnostic.Label.shift (l : Diagnostic.Label) (n : Nat) : Diagnostic.Label :=
  { l with span := l.span.shift n }

def Diagnostic.shift (d : Diagnostic) (n : Nat) : Diagnostic :=
  { d with labels := d.labels.map (·.shift n) }

namespace Source

def Line.shift (l : Line) (n : Nat) : Line := { l with offset := l.offset + n }

def Placed.shift (t : Placed) (n : Nat) : Placed := { t with span := t.span.shift n }

def Endpoint.shift (e : Endpoint) (n : Nat) : Endpoint := { e with span := e.span.shift n }

def Statement.shift (s : Statement) (n : Nat) : Statement := ⟨s.source.shift n, s.target.shift n⟩

def Stop.shift (s : Stop) (n : Nat) : Stop := { s with rest := s.rest.map (·.shift n) }

def Mismatch.shift (m : Mismatch) (n : Nat) : Mismatch :=
  { m with found := m.found.shift n, matched := m.matched.map (·.shift n) }

def Finding.shift (f : Finding) (n : Nat) : Finding :=
  match f with
  | .blank => .blank
  | .prose => .prose
  | .statement found unclosed => .statement (found.shift n) (unclosed.map (·.shift n))
  | .malformed reason unclosed => .malformed (reason.shift n) (unclosed.map (·.shift n))

end Source

namespace Proofs.Reading
open Source Text

variable {α β : Type} {n : Nat}

/-! ## Tokens -/

theorem place_add (offset n : Nat) (ts : List Token) :
    place (offset + n) ts = (place offset ts).map (·.shift n) := by
  induction ts generalizing offset with
  | nil => rfl
  | cons t ts ih =>
      have next : offset + n + byteLength t.text = offset + byteLength t.text + n := by omega
      rw [place, place, List.map_cons, next, ih]
      rfl

theorem unterminated_shift (ts : List Placed) :
    unterminated (ts.map (·.shift n)) = (unterminated ts).map (·.shift n) := by
  induction ts with
  | nil => rfl
  | cons t ts ih =>
      rw [List.map_cons, unterminated.eq_def, unterminated.eq_def (t :: ts)]
      dsimp only [Placed.shift]
      -- What becomes of the rest does not matter: the next two tokens decide.
      change unterminated (ts.map fun x => ⟨x.token, x.span.shift n⟩) = _ at ih
      rw [ih]
      split
      · rcases ts with _ | ⟨⟨kind, span⟩, _ | ⟨⟨kind', span'⟩, ts⟩⟩
        · rfl
        · cases kind <;> simp [Span.shift_union]
        · cases kind <;> cases kind' <;> simp [Span.shift_union]
      · rfl

/-! ## Readers -/

/-- What a reader returns, moved by `n` bytes together with the tokens that are left. -/
def moved (n : Nat) (move : α → β) :
    Except Stop (α × List Placed) → Except Stop (β × List Placed)
  | .ok (a, rest) => .ok (move a, rest.map (·.shift n))
  | .error stop => .error (stop.shift n)

/-- On tokens that have moved by `n` bytes, `m'` does what `m` does on the tokens themselves. -/
def Moves (n : Nat) (move : α → β) (m : Reader α) (m' : Reader β) : Prop :=
  ∀ ts, m'.run (ts.map (·.shift n)) = moved n move (m.run ts)

theorem moves_pure {move : α → β} {a : α} {b : β} (same : b = move a) :
    Moves n move (pure a) (pure b) := by
  intro ts
  subst same
  rfl

theorem Moves.bind {γ δ : Type} {move : α → β} {move' : γ → δ} {m : Reader α} {m' : Reader β}
    {f : α → Reader γ} {f' : β → Reader δ} (first : Moves n move m m')
    (next : ∀ a, Moves n move' (f a) (f' (move a))) : Moves n move' (m >>= f) (m' >>= f') := by
  intro ts
  rw [StateT.run_bind, StateT.run_bind, first ts]
  cases m.run ts with
  | error stop => rfl
  | ok result => exact next result.1 result.2

theorem expect_moves (slot : Slot) : Moves n (·.shift n) (expect slot) (expect slot) := by
  intro ts
  cases ts with
  | nil => rfl
  | cons t ts =>
      change (if slot.fits t.token then _ else _) = moved n _ (if slot.fits t.token then _ else _)
      split <;> rfl

theorem bracketed_moves : Moves n (fun r => (r.1, r.2.shift n)) bracketed bracketed := by
  refine (expect_moves .opening).bind fun first => ?_
  refine (expect_moves .field).bind fun field => ?_
  refine (expect_moves .closing).bind fun last => ?_
  apply moves_pure
  rw [Span.shift_union]
  rfl

theorem endpoint_moves : Moves n (·.shift n) endpoint endpoint := by
  refine bracketed_moves.bind fun environment => ?_
  refine bracketed_moves.bind fun datacenter => ?_
  refine (expect_moves .possessive).bind fun _ => ?_
  refine bracketed_moves.bind fun area => ?_
  refine bracketed_moves.bind fun device => ?_
  apply moves_pure
  rw [Endpoint.shift, Span.shift_union]

theorem statement_moves : Moves n (·.shift n) statement statement := by
  refine endpoint_moves.bind fun source => ?_
  refine (expect_moves .connector).bind fun _ => ?_
  refine endpoint_moves.bind fun target => ?_
  exact moves_pure rfl

/-! ## Lines -/

theorem find?_shift (ts : List Placed) :
    Statement.find? (ts.map (·.shift n)) = (Statement.find? ts).map (·.shift n) := by
  induction ts with
  | nil => rfl
  | cons t ts ih =>
      have read := statement_moves (n := n) (t :: ts)
      rw [List.map_cons] at read ⊢
      rw [Statement.find?, Statement.find?, read]
      cases statement.run (t :: ts) with
      | error stop => exact ih
      | ok result => rfl

theorem ofTokens_shift (line : Span) (ts : List Placed) :
    Mismatch.ofTokens (line.shift n) (ts.map (·.shift n)) =
      (Mismatch.ofTokens line ts).shift n := by
  have brackets : (ts.map (·.shift n)).dropWhile (·.token ≠ .opening) =
      (ts.dropWhile (·.token ≠ .opening)).map (·.shift n) := List.dropWhile_map
  unfold Mismatch.ofTokens
  rw [brackets]
  cases ts.dropWhile (·.token ≠ .opening) with
  | nil => rfl
  | cons first more =>
      have read := statement_moves (n := n) (first :: more)
      rw [List.map_cons] at read ⊢
      simp only [read]
      cases statement.run (first :: more) with
      | ok result => rfl
      | error stop =>
          simp only [moved, Stop.shift, Mismatch.shift, Mismatch.mk.injEq, true_and]
          constructor
          · cases stop.rest <;> rfl
          · have all : first.shift n :: more.map (·.shift n) =
                (first :: more).map (·.shift n) := rfl
            rw [all, List.length_map, List.length_map, ← List.map_take, List.getLast?_map,
              Option.map_map, Option.map_map]
            congr 1
            funext last
            exact (Span.shift_union _ _ _).symm

theorem span_shift (l : Line) : (l.shift n).span = l.span.shift n := by
  simp only [Line.span, Line.shift, Span.shift, Span.mk.injEq, true_and]
  omega

/-- A line that stands elsewhere holds the same, moved. -/
theorem ofLine_shift (l : Line) : Finding.ofLine (l.shift n) = (Finding.ofLine l).shift n := by
  unfold Finding.ofLine
  rw [span_shift, placedTokens, Line.shift, place_add, ← placedTokens]
  dsimp only
  split
  · rfl
  split
  · rfl
  rw [find?_shift, unterminated_shift, ofTokens_shift]
  cases Statement.find? (placedTokens l.offset l.text) <;> rfl

/-! ## What is read off a finding -/

@[simp] theorem statement?_shift (f : Finding) :
    (f.shift n).statement? = f.statement?.map (·.shift n) := by
  cases f <;> rfl

@[simp] theorem isText_shift (f : Finding) : (f.shift n).isText = f.isText := by
  cases f <;> rfl

@[simp] theorem isCandidate_shift (f : Finding) : (f.shift n).isCandidate = f.isCandidate := by
  cases f <;> rfl

theorem malformedWarning_shift (m : Mismatch) :
    malformedWarning (m.shift n) = (malformedWarning m).shift n := by
  unfold malformedWarning Mismatch.shift Diagnostic.shift
  cases m.matched <;> rfl

@[simp] theorem warnings_shift (f : Finding) :
    (f.shift n).warnings = f.warnings.map (·.shift n) := by
  cases f with
  | blank => rfl
  | prose => rfl
  | statement found unclosed => simp [Finding.shift, Finding.warnings, unterminatedWarning,
      Diagnostic.shift, Diagnostic.Label.shift]
  | malformed reason unclosed => simp [Finding.shift, Finding.warnings, unterminatedWarning,
      malformedWarning_shift, Diagnostic.shift, Diagnostic.Label.shift]

end Proofs.Reading

end NetDiagram
