/-!
# Spans of a source text

A span is a half-open range of byte offsets. Spans of tokens, of statements and of the labels of
diagnostics all count from the start of the whole source.
-/

namespace NetDiagram

/-- The bytes from `start` up to `stop`, the last one excluded. -/
structure Span where
  start : Nat
  stop : Nat
deriving DecidableEq, Repr, Inhabited

namespace Span

def length (s : Span) : Nat := s.stop - s.start

def isEmpty (s : Span) : Bool := s.start == s.stop

/-- The least span that covers both, and the gap between them. -/
def union (s t : Span) : Span := ⟨min s.start t.start, max s.stop t.stop⟩

def shift (s : Span) (n : Nat) : Span := ⟨s.start + n, s.stop + n⟩

@[simp] theorem start_union (s t : Span) : (s.union t).start = min s.start t.start := rfl

@[simp] theorem stop_union (s t : Span) : (s.union t).stop = max s.stop t.stop := rfl

@[simp] theorem start_shift (s : Span) (n : Nat) : (s.shift n).start = s.start + n := rfl

@[simp] theorem stop_shift (s : Span) (n : Nat) : (s.shift n).stop = s.stop + n := rfl

theorem shift_union (s t : Span) (n : Nat) :
    (s.union t).shift n = (s.shift n).union (t.shift n) := by
  simp only [union, shift, Span.mk.injEq]
  omega

end Span

end NetDiagram
