import Mathlib.Data.List.Chain
import NetDiagram.Proofs.Reading.Positions

/-!
# What becomes of brackets

The tokens of a line stand side by side and cover it. Which of them are brackets, and which brackets
stay open, can be read off the characters: every opening bracket is a token, and it stays open if no
closing bracket follows before the next opening bracket or the end of the line.

* `IsTiling`: tokens that stand side by side.
* `opening_mem_placedTokens_iff`, `getLast?_of_field`: the brackets among the tokens.
* `IsUnclosed`: a bracket that stays open.
* `unterminated_placedTokens`, `mem_unclosedFrom_iff`: the brackets that are said to stay open.
-/

namespace NetDiagram.Proofs.Reading
open Source Text

/-! ## Tokens side by side -/

theorem byteLength_pos {text : List Char} (some : text ≠ []) : 0 < byteLength text := by
  cases text with
  | nil => contradiction
  | cons c cs => exact Nat.lt_of_lt_of_le c.utf8Size_pos (Nat.le_add_right _ _)

theorem map_token_place (offset : Nat) (ts : List Token) :
    (place offset ts).map (·.token) = ts := by
  induction ts generalizing offset with
  | nil => rfl
  | cons t ts ih => rw [place, List.map_cons, ih]

theorem place_append (offset : Nat) (ts us : List Token) :
    place offset (ts ++ us) = place offset ts ++ place (offset + byteLength (textOf ts)) us := by
  induction ts generalizing offset with
  | nil => rfl
  | cons t ts ih =>
      rw [List.cons_append, place, place, ih, textOf_cons, byteLength_append, Nat.add_assoc]
      rfl

/-- The tokens stand one directly after the other, each as long as its text and none of them empty,
from the first byte up to the last one, which is excluded. -/
inductive IsTiling : Nat → List Placed → Nat → Prop
  | nil (n : Nat) : IsTiling n [] n
  | cons {stop : Nat} {t : Placed} {ts : List Placed} :
      t.span.start < t.span.stop → t.span.length = byteLength t.token.text →
      IsTiling t.span.stop ts stop → IsTiling t.span.start (t :: ts) stop

theorem isTiling_place {ts : List Token} (texts : ∀ t ∈ ts, t.text ≠ []) (offset : Nat) :
    IsTiling offset (place offset ts) (offset + byteLength (textOf ts)) := by
  induction ts generalizing offset with
  | nil => exact .nil offset
  | cons t ts ih =>
      obtain ⟨first, texts⟩ := List.forall_mem_cons.mp texts
      have later := ih texts (offset + byteLength t.text)
      rw [textOf_cons, byteLength_append, ← Nat.add_assoc]
      exact .cons (t := ⟨t, offset, offset + byteLength t.text⟩)
        (Nat.lt_add_of_pos_right (byteLength_pos first)) (Nat.add_sub_cancel_left _ _) later

theorem isTiling_placedTokens (offset : Nat) (line : List Char) :
    IsTiling offset (placedTokens offset line) (offset + byteLength line) := by
  have texts : ∀ t ∈ tokenize line, t.text ≠ [] := fun t => text_ne_nil_of_mem_tokenize
  have tiling := isTiling_place texts offset
  rwa [textOf_tokenize] at tiling

/-! ## Brackets among the tokens -/

theorem opening_mem_placedTokens_iff {offset : Nat} {line : List Char} {span : Span} :
    ⟨.opening, span⟩ ∈ placedTokens offset line ↔
      ∃ before after, line = before ++ '【' :: after ∧
        span = ⟨offset + byteLength before, offset + byteLength before + byteLength ['【']⟩ := by
  constructor
  · intro member
    obtain ⟨front, back, tokens, start, place⟩ := exists_of_mem_place member
    refine ⟨textOf front, textOf back, ?_, start ▸ place⟩
    rw [← textOf_tokenize line, tokens, textOf_append]
    rfl
  · rintro ⟨before, after, rfl, rfl⟩
    rw [placedTokens, tokenize_append_opening, place_append, textOf_tokenize, tokenize_opening]
    exact List.mem_append_right _ List.mem_cons_self

/-- The text of a field comes directly after an opening bracket. -/
def MayFollow (t u : Token) : Prop := ∀ text, u = .field text → t = .opening

theorem isChain_tokenize (t : Token) (line : List Char) :
    (t :: tokenize line).IsChain MayFollow := by
  fun_induction tokenize line generalizing t with
  | case1 => exact List.isChain_singleton t
  | case2 cs ih =>
      refine List.isChain_cons_cons.mpr ⟨by simp [MayFollow], ?_⟩
      cases cs.takeWhile (!isBracket ·) with
      | nil => exact ih _
      | cons d ds => exact List.isChain_cons_cons.mpr ⟨fun _ _ => rfl, ih _⟩
  | case3 cs ih => exact List.isChain_cons_cons.mpr ⟨by simp [MayFollow], ih _⟩
  | case4 cs ih => exact List.isChain_cons_cons.mpr ⟨by simp [MayFollow], ih _⟩
  | case5 cs ih => exact List.isChain_cons_cons.mpr ⟨by simp [MayFollow], ih _⟩
  | case6 cs _ ih => exact List.isChain_cons_cons.mpr ⟨by simp [MayFollow], ih _⟩
  | case7 c cs _ _ _ _ _ ih => exact List.isChain_cons_cons.mpr ⟨by simp [MayFollow], ih _⟩

theorem getLast?_of_field {offset : Nat} {line text : List Char} {span : Span}
    {front back : List Placed}
    (tokens : placedTokens offset line = front ++ ⟨.field text, span⟩ :: back) :
    front.getLast?.map (·.token) = some .opening := by
  have kinds := congrArg (List.map (·.token)) tokens
  rw [placedTokens, map_token_place, List.map_append, List.map_cons] at kinds
  -- With a filler in front, a field at the start of the line would follow that.
  have chain := isChain_tokenize (.filler []) line
  rw [kinds, ← List.cons_append, List.isChain_append] at chain
  have follows := chain.2.2
  rw [← List.getLast?_map]
  cases last : (front.map (·.token)).getLast? with
  | none =>
      rw [List.getLast?_cons, last] at follows
      cases follows _ rfl _ rfl text rfl
  | some t =>
      rw [List.getLast?_cons, last] at follows
      rw [follows t rfl _ rfl text rfl]

/-! ## Brackets that stay open -/

/-- An opening bracket at the start of the span has no closing bracket after it before the end of
the span, where the next bracket is opened or the line ends. -/
def IsUnclosed (offset : Nat) (line : List Char) (span : Span) : Prop :=
  ∃ before part after, line = before ++ '【' :: (part ++ after) ∧ '【' ∉ part ∧ '】' ∉ part ∧
    (∀ c ∈ after.head?, c = '【') ∧
    span = ⟨offset + byteLength before, offset + byteLength before + byteLength ('【' :: part)⟩

/-- The brackets that stay open in a line that starts at byte `n`, one character after another. -/
def unclosedFrom (n : Nat) : List Char → List Span
  | [] => []
  | c :: cs =>
    let later := unclosedFrom (n + c.utf8Size) cs
    let part := cs.takeWhile (· ≠ '【')
    if c = '【' ∧ '】' ∉ part then ⟨n, n + byteLength (c :: part)⟩ :: later else later

theorem isUnclosed_cons_iff {n : Nat} {c : Char} {cs : List Char} {span : Span} :
    IsUnclosed n (c :: cs) span ↔
      (c = '【' ∧ '】' ∉ cs.takeWhile (· ≠ '【')) ∧
          span = ⟨n, n + byteLength (c :: cs.takeWhile (· ≠ '【'))⟩ ∨
        IsUnclosed (n + c.utf8Size) cs span := by
  constructor
  · rintro ⟨before, part, after, line, opens, closes, stops, rfl⟩
    cases before with
    | nil =>
        obtain ⟨rfl, rfl⟩ := List.cons.inj line
        have inside : ∀ c ∈ part, decide (c ≠ '【') = true := by
          intro c member
          exact decide_eq_true fun same => opens (same ▸ member)
        have taken : (part ++ after).takeWhile (· ≠ '【') = part := by
          rw [List.takeWhile_append_of_pos inside]
          cases after with
          | nil => simp
          | cons d ds => simp [stops d rfl]
        rw [taken]
        exact .inl ⟨⟨rfl, closes⟩, rfl⟩
    | cons d before =>
        obtain ⟨rfl, rfl⟩ := List.cons.inj line
        refine .inr ⟨before, part, after, rfl, opens, closes, stops, ?_⟩
        rw [byteLength_cons c, ← Nat.add_assoc n]
  · rintro (⟨⟨rfl, closes⟩, rfl⟩ | ⟨before, part, after, rfl, opens, closes, stops, rfl⟩)
    · refine ⟨[], _, cs.dropWhile (· ≠ '【'), ?_, ?_, closes, ?_, rfl⟩
      · rw [List.takeWhile_append_dropWhile, List.nil_append]
      · intro member
        simpa using List.all_eq_true.mp List.all_takeWhile _ member
      · intro c member
        have stops := List.head?_dropWhile_not (· ≠ '【') cs
        rw [Option.mem_def.mp member] at stops
        simpa using stops
    · refine ⟨c :: before, part, after, rfl, opens, closes, stops, ?_⟩
      rw [byteLength_cons c, Nat.add_assoc n]

theorem mem_unclosedFrom_iff {n : Nat} {line : List Char} {span : Span} :
    span ∈ unclosedFrom n line ↔ IsUnclosed n line span := by
  induction line generalizing n with
  | nil => simp [unclosedFrom, IsUnclosed]
  | cons c cs ih =>
      rw [isUnclosed_cons_iff, ← ih, unclosedFrom]
      split
      · rename_i opened
        rw [List.mem_cons, and_iff_right opened]
      · rename_i closed
        simp only [closed, false_and, false_or]

theorem pairwise_unclosedFrom (n : Nat) (line : List Char) :
    (unclosedFrom n line).Pairwise (·.start < ·.start) := by
  induction line generalizing n with
  | nil => exact .nil
  | cons c cs ih =>
      rw [unclosedFrom]
      split
      · refine List.pairwise_cons.mpr ⟨fun span member => ?_, ih _⟩
        obtain ⟨before, part, after, -, -, -, -, rfl⟩ := mem_unclosedFrom_iff.mp member
        have size := c.utf8Size_pos
        dsimp only
        omega
      · exact ih _

theorem unclosedFrom_append {text : List Char} (free : '【' ∉ text) (n : Nat) (rest : List Char) :
    unclosedFrom n (text ++ rest) = unclosedFrom (n + byteLength text) rest := by
  induction text generalizing n with
  | nil => rfl
  | cons c cs ih =>
      rw [List.mem_cons, not_or] at free
      rw [List.cons_append, unclosedFrom, if_neg fun opened => free.1 opened.1.symm, ih free.2,
        byteLength_cons, Nat.add_assoc]

/-! ## Fields between brackets -/

theorem isBracket_of_mem_name {c : Char} {cs : List Char}
    (member : c ∈ cs.takeWhile (!isBracket ·)) : isBracket c = false := by
  simpa using List.all_eq_true.mp List.all_takeWhile _ member

theorem bracket_after_name (cs : List Char) :
    cs.dropWhile (!isBracket ·) = [] ∨ (∃ ds, cs.dropWhile (!isBracket ·) = '【' :: ds) ∨
      ∃ ds, cs.dropWhile (!isBracket ·) = '】' :: ds := by
  have stops := List.head?_dropWhile_not (!isBracket ·) cs
  cases rest : cs.dropWhile (!isBracket ·) with
  | nil => exact .inl rfl
  | cons d ds =>
      rw [rest] at stops
      have bracket : isBracket d = true := by simpa using stops
      obtain rfl | rfl : d = '【' ∨ d = '】' := by simpa [isBracket] using bracket
      · exact .inr (.inl ⟨ds, rfl⟩)
      · exact .inr (.inr ⟨ds, rfl⟩)

/-- What stands after the text of a field decides whether its bracket is closed. -/
theorem unclosedFrom_opening (n : Nat) (cs : List Char) :
    unclosedFrom n ('【' :: cs) =
      (if (cs.dropWhile (!isBracket ·)).head? = some '】' then []
        else [⟨n, n + byteLength ('【' :: cs.takeWhile (!isBracket ·))⟩]) ++
        unclosedFrom (n + byteLength ('【' :: cs.takeWhile (!isBracket ·)))
          (cs.dropWhile (!isBracket ·)) := by
  have parts := List.takeWhile_append_dropWhile (p := (!isBracket ·)) (l := cs)
  have inside (c : Char) (member : c ∈ cs.takeWhile (!isBracket ·)) :
      decide (c ≠ '【') = true ∧ c ≠ '】' := by
    have free := isBracket_of_mem_name member
    simpa [isBracket] using free
  have free : '【' ∉ cs.takeWhile (!isBracket ·) :=
    fun member => of_decide_eq_true (inside _ member).1 rfl
  have closes : '】' ∉ cs.takeWhile (!isBracket ·) := fun member => (inside _ member).2 rfl
  have later := unclosedFrom_append free (n + '【'.utf8Size) (cs.dropWhile (!isBracket ·))
  have part : cs.takeWhile (· ≠ '【') =
      cs.takeWhile (!isBracket ·) ++ (cs.dropWhile (!isBracket ·)).takeWhile (· ≠ '【') := by
    rw [← List.takeWhile_append_of_pos fun c member => (inside c member).1, parts]
  rw [parts] at later
  rw [unclosedFrom, later, part, byteLength_cons, Nat.add_assoc n]
  obtain rest | ⟨ds, rest⟩ | ⟨ds, rest⟩ := bracket_after_name cs
  · simp [rest, closes]
  · simp [rest, closes]
  · simp [rest]

theorem unterminated_cons {t : Placed} (other : t.token ≠ .opening) (ts : List Placed) :
    unterminated (t :: ts) = unterminated ts := by
  rw [unterminated.eq_def]
  exact if_neg other

theorem unterminated_field (n : Nat) (name : List Char) (ts : List Token) :
    unterminated (place n (fieldToken name ++ ts)) =
      unterminated (place (n + byteLength name) ts) := by
  rw [place_append, textOf_fieldToken]
  cases name with
  | nil => rfl
  | cons c cs => exact unterminated_cons (by simp) _

theorem unterminated_opening {ts : List Token} (free : ∀ text, ts.head? ≠ some (.field text))
    (n : Nat) (name : List Char) :
    unterminated (place n (.opening :: (fieldToken name ++ ts))) =
      (if ts.head? = some .closing then [] else [⟨n, n + byteLength ('【' :: name)⟩]) ++
        unterminated (place (n + byteLength ('【' :: name)) ts) := by
  have later := unterminated_field (n + byteLength ['【']) name ts
  rw [Nat.add_assoc, ← byteLength_append, List.singleton_append] at later
  rw [← later, place, unterminated.eq_def]
  dsimp only
  rw [if_pos rfl]
  cases name with
  | nil =>
      rcases ts with _ | ⟨t, ts⟩
      · rfl
      · cases t with
        | field text => exact absurd rfl (free text)
        | opening | closing | possessive | connector | filler text => rfl
  | cons c cs =>
      have union : Span.union ⟨n, n + byteLength ['【']⟩
          ⟨n + byteLength ['【'], n + byteLength ['【'] + byteLength (c :: cs)⟩ =
          ⟨n, n + byteLength ('【' :: c :: cs)⟩ := by
        rw [union_mk (by omega) (by omega), Nat.add_assoc, ← byteLength_append]
        rfl
      rw [← union]
      rcases ts with _ | ⟨t, ts⟩
      · rfl
      · cases t with
        | field text => exact absurd rfl (free text)
        | opening | closing | possessive | connector | filler text => rfl

theorem head?_tokenize_afterName (cs : List Char) :
    (tokenize (cs.dropWhile (!isBracket ·))).head? = some .closing ↔
      (cs.dropWhile (!isBracket ·)).head? = some '】' := by
  obtain rest | ⟨ds, rest⟩ | ⟨ds, rest⟩ := bracket_after_name cs
  · simp [rest, tokenize]
  · simp [rest, tokenize_opening]
  · simp [rest, tokenize_closing]

theorem opening_not_mem_filler {c : Char} (other : c ≠ '【') (cs : List Char) :
    '【' ∉ c :: cs.takeWhile (!isReserved ·) := by
  rw [List.mem_cons, not_or]
  refine ⟨other.symm, fun member => ?_⟩
  exact absurd (List.all_eq_true.mp List.all_takeWhile _ member) (by decide)

theorem unterminated_skip {t : Token} {rest : List Char} (other : t ≠ .opening)
    (free : '【' ∉ t.text)
    (later : ∀ n, unterminated (place n (tokenize rest)) = unclosedFrom n rest) (n : Nat) :
    unterminated (place n (t :: tokenize rest)) = unclosedFrom n (t.text ++ rest) := by
  rw [unclosedFrom_append free, ← later, place]
  exact unterminated_cons other _

theorem unterminated_placedTokens (n : Nat) (line : List Char) :
    unterminated (placedTokens n line) = unclosedFrom n line := by
  unfold placedTokens
  fun_induction tokenize line generalizing n with
  | case1 => rfl
  | case2 cs ih =>
      have kinds : ∀ text, (tokenize (cs.dropWhile (!isBracket ·))).head? ≠ some (.field text) := by
        intro text field
        have chain := isChain_tokenize .closing (cs.dropWhile (!isBracket ·))
        cases (List.isChain_cons.mp chain).1 _ field text rfl
      rw [unterminated_opening kinds, ih, unclosedFrom_opening]
      simp only [head?_tokenize_afterName]
  | case3 cs ih => exact unterminated_skip (by simp) (by decide) ih n
  | case4 cs ih => exact unterminated_skip (by simp) (by decide) ih n
  | case5 cs ih => exact unterminated_skip (by simp) (by decide) ih n
  | case6 cs _ ih => exact unterminated_skip (by simp) (by decide) ih n
  | case7 c cs opening _ _ _ _ ih =>
      have free := opening_not_mem_filler opening cs
      have skipped := unterminated_skip (t := .filler _) (by simp) free ih n
      rwa [Token.text, List.cons_append, List.takeWhile_append_dropWhile] at skipped

end NetDiagram.Proofs.Reading
