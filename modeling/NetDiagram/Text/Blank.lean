/-!
# Blank characters

The characters with the Unicode property `White_Space`, and trimming. The zero-width space and
the byte order mark do not have the property.
-/

namespace NetDiagram.Text

/-- First and last code point of each run of characters with the property `White_Space`. -/
def blankRuns : List (Nat × Nat) :=
  [(0x09, 0x0D), (0x20, 0x20), (0x85, 0x85), (0xA0, 0xA0), (0x1680, 0x1680), (0x2000, 0x200A),
    (0x2028, 0x2029), (0x202F, 0x202F), (0x205F, 0x205F), (0x3000, 0x3000)]

def isBlank (c : Char) : Bool :=
  blankRuns.any fun run => decide (run.1 ≤ c.toNat) && decide (c.toNat ≤ run.2)

def trimEnd (p : Char → Bool) (cs : List Char) : List Char :=
  (cs.reverse.dropWhile p).reverse

def trim (s : String) : String :=
  .ofList (trimEnd isBlank (s.toList.dropWhile isBlank))

end NetDiagram.Text
