/-!
# Texts as lists of characters

Texts are analysed as lists of characters, while positions are reported in bytes of their UTF-8
form. `byteLength` measures a text in bytes, `slice` cuts a part out by byte offsets, and `occursIn`
searches one text in another.
-/

namespace NetDiagram.Text

/-! ## What is left of a text

A reader that takes at least one character leaves less than it was given. -/

theorem length_lt_cons (c : Char) (cs : List Char) : cs.length < (c :: cs).length :=
  Nat.lt_succ_self _

theorem length_drop_lt_cons (n : Nat) (c : Char) (cs : List Char) :
    (cs.drop n).length < (c :: cs).length :=
  Nat.lt_succ_of_le (List.drop_sublist n cs).length_le

theorem length_dropWhile_lt_cons (p : Char → Bool) (c : Char) (cs : List Char) :
    (cs.dropWhile p).length < (c :: cs).length :=
  Nat.lt_succ_of_le (List.dropWhile_sublist p).length_le

/-! ## Length in bytes -/

/-- The number of bytes of a text in UTF-8. -/
def byteLength : List Char → Nat
  | [] => 0
  | c :: cs => c.utf8Size + byteLength cs

@[simp] theorem byteLength_nil : byteLength [] = 0 := rfl

@[simp] theorem byteLength_cons (c : Char) (cs : List Char) :
    byteLength (c :: cs) = c.utf8Size + byteLength cs := rfl

@[simp] theorem byteLength_append (s t : List Char) :
    byteLength (s ++ t) = byteLength s + byteLength t := by
  induction s with
  | nil => simp
  | cons c cs ih => simp [ih, Nat.add_assoc]

/-! ## Slices -/

def dropBytes (n : Nat) : List Char → List Char
  | [] => []
  | c :: cs => if c.utf8Size ≤ n then dropBytes (n - c.utf8Size) cs else c :: cs

/-- The characters that fit into the first `n` bytes of a text. -/
def takeBytes (n : Nat) : List Char → List Char
  | [] => []
  | c :: cs => if c.utf8Size ≤ n then c :: takeBytes (n - c.utf8Size) cs else []

/-- The part of a text from byte `start` up to byte `stop`. -/
def slice (start stop : Nat) (text : List Char) : List Char :=
  takeBytes (stop - start) (dropBytes start text)

@[simp] theorem dropBytes_zero (text : List Char) : dropBytes 0 text = text := by
  cases text with
  | nil => rfl
  | cons c cs =>
    have := c.utf8Size_pos
    simp [dropBytes, Nat.ne_of_gt this]

@[simp] theorem takeBytes_zero (text : List Char) : takeBytes 0 text = [] := by
  cases text with
  | nil => rfl
  | cons c cs =>
    have := c.utf8Size_pos
    simp [takeBytes, Nat.ne_of_gt this]

@[simp] theorem dropBytes_byteLength_append (s t : List Char) :
    dropBytes (byteLength s) (s ++ t) = t := by
  induction s with
  | nil => simp
  | cons c cs ih => simp [dropBytes, ih]

@[simp] theorem takeBytes_byteLength_append (s t : List Char) :
    takeBytes (byteLength s) (s ++ t) = s := by
  induction s with
  | nil => simp
  | cons c cs ih => simp [takeBytes, ih]

theorem slice_append (s t u : List Char) :
    slice (byteLength s) (byteLength s + byteLength t) (s ++ t ++ u) = t := by
  simp [slice, List.append_assoc]

/-! ## Search -/

/-- Whether `word` occurs in a text as a run of adjacent characters. The empty word always does. -/
def occursIn (word : List Char) : List Char → Bool
  | [] => word.isEmpty
  | c :: cs => word.isPrefixOf (c :: cs) || occursIn word cs

theorem occursIn_iff {word text : List Char} : occursIn word text = true ↔ word <:+: text := by
  induction text with
  | nil => simp [occursIn]
  | cons c cs ih => simp [occursIn, List.infix_cons_iff, ih]

end NetDiagram.Text
