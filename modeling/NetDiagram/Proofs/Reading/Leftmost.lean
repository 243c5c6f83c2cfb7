import NetDiagram.Proofs.Reading.Forms
import NetDiagram.Source.Survey

/-!
# The leftmost statement of a line

A line holds a statement if a part of it has the form of one. Every such part starts at a token, and
every run of tokens that the readers accept is such a part. So the search over tokens finds a
statement in the same lines as a search over characters, and of several it finds the same one.
-/

namespace NetDiagram.Proofs.Reading
open Source Text

/-! ## Occurrences -/

/-- A statement stands in a line, with the given text before it. -/
def OccursAfter (before line : List Char) (source target : Path) : Prop :=
  IsWritable source ∧ IsWritable target ∧
    ∃ after, line = before ++ (statementForm source target ++ after)

/-- Some part of the line has the form of a statement. -/
def HoldsForm (line : List Char) : Prop :=
  ∃ before source target, OccursAfter before line source target

/-- The leftmost part of the line that has the form of a statement is this one. -/
def IsLeftmost (l : Line) (s : Statement) : Prop :=
  ∃ before source target, OccursAfter before l.text source target ∧
    s = statementAt (l.offset + byteLength before) source target ∧
    ∀ before' source' target', OccursAfter before' l.text source' target' →
      before.length ≤ before'.length

/-- Some tokens are followed by those of a statement. -/
def FollowedBy (front tokens : List Token) (source target : Path) : Prop :=
  ∃ rest, tokens = front ++ (statementTokens source target ++ rest)

theorem exists_statementForm_eq_cons (source target : Path) :
    ∃ more, statementForm source target = '【' :: more :=
  ⟨_, rfl⟩

theorem OccursAfter.followedBy {before line : List Char} {source target : Path}
    (h : OccursAfter before line source target) :
    FollowedBy (tokenize before) (tokenize line) source target := by
  obtain ⟨hs, ht, after, rfl⟩ := h
  obtain ⟨more, form⟩ := exists_statementForm_eq_cons source target
  refine ⟨tokenize after, ?_⟩
  rw [← tokenize_statementForm hs ht, form, List.cons_append, tokenize_append_opening]

theorem isWritable_of_mem {p : Path} {line : List Char}
    (member : ∀ t ∈ endpointTokens p, t ∈ tokenize line) : IsWritable p := by
  refine isWritable_iff.mpr ⟨?_, ?_, ?_, ?_⟩ <;>
    exact isName_of_mem_tokenize (member _ (by simp [endpointTokens, bracketTokens]))

theorem FollowedBy.occursAfter {front : List Token} {line : List Char} {source target : Path}
    (h : FollowedBy front (tokenize line) source target) :
    OccursAfter (textOf front) line source target := by
  obtain ⟨rest, same⟩ := h
  have inside : ∀ t ∈ statementTokens source target, t ∈ tokenize line := by
    intro t member
    rw [same]
    simp [member]
  have first : IsWritable source :=
    isWritable_of_mem fun t member => inside t (by simp [statementTokens, member])
  have second : IsWritable target :=
    isWritable_of_mem fun t member => inside t (by simp [statementTokens, member])
  refine ⟨first, second, textOf rest, ?_⟩
  rw [← textOf_tokenize line, same, textOf_append, textOf_append, textOf_statementTokens]

/-! ## The search over tokens -/

theorem find?_place_cons (offset : Nat) (t : Token) (ts : List Token) :
    Statement.find? (place offset (t :: ts)) =
      match statement.run (place offset (t :: ts)) with
      | .ok (found, _) => some found
      | .error _ => Statement.find? (place (offset + byteLength t.text) ts) :=
  rfl

theorem followedBy_cons {u t : Token} {front ts : List Token} {source target : Path} :
    FollowedBy (u :: front) (t :: ts) source target ↔
      t = u ∧ FollowedBy front ts source target := by
  simp [FollowedBy]

theorem not_followedBy_nil {front : List Token} {source target : Path} :
    ¬FollowedBy front [] source target := by
  simp [FollowedBy, statementTokens, endpointTokens, bracketTokens]

/-- Where the readers stop, no statement begins. -/
theorem FollowedBy.later_of_error {offset : Nat} {t : Token} {front ts : List Token}
    {source target : Path} {stop : Stop} (h : FollowedBy front (t :: ts) source target)
    (read : statement.run (place offset (t :: ts)) = .error stop) :
    ∃ front', front = t :: front' ∧ FollowedBy front' ts source target := by
  cases front with
  | nil =>
      obtain ⟨rest, same⟩ := h
      have := read.symm.trans (statement_ok.mpr ⟨source, target, rest, same, rfl⟩)
      cases this
  | cons u front =>
      obtain ⟨rfl, behind⟩ := followedBy_cons.mp h
      exact ⟨front, rfl, behind⟩

theorem find?_place_eq_some {offset : Nat} {tokens : List Token} {s : Statement} :
    Statement.find? (place offset tokens) = some s ↔
      ∃ front source target, FollowedBy front tokens source target ∧
        s = statementAt (offset + byteLength (textOf front)) source target ∧
        ∀ front' source' target', FollowedBy front' tokens source' target' →
          front.length ≤ front'.length := by
  induction tokens generalizing offset with
  | nil =>
      constructor
      · intro h
        cases h
      · rintro ⟨front, source, target, h, -⟩
        exact (not_followedBy_nil h).elim
  | cons t ts ih =>
      rw [find?_place_cons]
      cases read : statement.run (place offset (t :: ts)) with
      | ok r =>
          constructor
          · rintro ⟨⟩
            obtain ⟨source, target, left, same, rfl⟩ := statement_ok.mp read
            exact ⟨[], source, target, ⟨left, same⟩, rfl, fun _ _ _ _ => Nat.zero_le _⟩
          · rintro ⟨front, source, target, h, rfl, least⟩
            obtain ⟨source', target', left, same, rfl⟩ := statement_ok.mp read
            have none : front = [] :=
              List.length_eq_zero_iff.mp (Nat.le_zero.mp (least [] source' target' ⟨left, same⟩))
            subst none
            obtain ⟨rest, same⟩ := h
            have := read.symm.trans (statement_ok.mpr ⟨source, target, rest, same, rfl⟩)
            exact congrArg some (Prod.mk.inj (Except.ok.inj this)).1
      | error stop =>
          rw [ih]
          constructor
          · rintro ⟨front, source, target, h, rfl, least⟩
            refine ⟨t :: front, source, target, followedBy_cons.mpr ⟨rfl, h⟩, ?_, ?_⟩
            · rw [textOf_cons, byteLength_append, Nat.add_assoc]
            · intro front' source' target' h'
              obtain ⟨more, rfl, behind⟩ := h'.later_of_error read
              exact Nat.succ_le_succ (least more source' target' behind)
          · rintro ⟨front, source, target, h, rfl, least⟩
            obtain ⟨more, rfl, behind⟩ := h.later_of_error read
            refine ⟨more, source, target, behind, ?_, ?_⟩
            · rw [textOf_cons, byteLength_append, Nat.add_assoc]
            · intro front' source' target' h'
              exact Nat.le_of_succ_le_succ
                (least (t :: front') source' target' (followedBy_cons.mpr ⟨rfl, h'⟩))

theorem exists_find?_place {front tokens : List Token} {source target : Path}
    (h : FollowedBy front tokens source target) (offset : Nat) :
    ∃ s, Statement.find? (place offset tokens) = some s := by
  induction tokens generalizing offset front with
  | nil => exact (not_followedBy_nil h).elim
  | cons t ts ih =>
      rw [find?_place_cons]
      cases read : statement.run (place offset (t :: ts)) with
      | ok r => exact ⟨r.1, rfl⟩
      | error stop =>
          obtain ⟨more, -, behind⟩ := h.later_of_error read
          exact ih behind _

/-! ## The search over characters -/

theorem length_textOf_le_of_prefix {ts us : List Token} (h : ts <+: us) :
    (textOf ts).length ≤ (textOf us).length := by
  obtain ⟨more, rfl⟩ := h
  rw [textOf_append, List.length_append]
  exact Nat.le_add_right _ _

theorem length_textOf_lt_of_prefix {front : List Token} {text : List Char}
    (h : front <+: tokenize text) (less : front.length < (tokenize text).length) :
    (textOf front).length < text.length := by
  obtain ⟨more, same⟩ := h
  cases more with
  | nil =>
      rw [List.append_nil] at same
      rw [same] at less
      exact (Nat.lt_irrefl _ less).elim
  | cons t more =>
      have inside : t ∈ tokenize text := by simp [← same]
      have pos := List.length_pos_iff.mpr (text_ne_nil_of_mem_tokenize inside)
      have total := congrArg List.length (textOf_tokenize text)
      rw [← same, textOf_append, textOf_cons, List.length_append, List.length_append] at total
      omega

/-- Of two beginnings of the same tokens, the one that is not longer begins the other. -/
theorem FollowedBy.prefix_of_length_le {front front' tokens : List Token}
    {source target source' target' : Path} (h : FollowedBy front tokens source target)
    (h' : FollowedBy front' tokens source' target') (le : front.length ≤ front'.length) :
    front <+: front' := by
  obtain ⟨rest, same⟩ := h
  obtain ⟨rest', same'⟩ := h'
  exact List.prefix_of_prefix_length_le ⟨_, same.symm⟩ ⟨_, same'.symm⟩ le

theorem find?_placedTokens_eq_some {l : Line} {s : Statement} :
    Statement.find? (placedTokens l.offset l.text) = some s ↔ IsLeftmost l s := by
  rw [placedTokens, find?_place_eq_some]
  constructor
  · rintro ⟨front, source, target, h, rfl, least⟩
    refine ⟨textOf front, source, target, h.occursAfter, rfl, ?_⟩
    intro before' source' target' h'
    have le := least _ _ _ h'.followedBy
    have := length_textOf_le_of_prefix (h.prefix_of_length_le h'.followedBy le)
    rwa [textOf_tokenize] at this
  · rintro ⟨before, source, target, h, rfl, least⟩
    refine ⟨tokenize before, source, target, h.followedBy, by rw [textOf_tokenize], ?_⟩
    intro front' source' target' h'
    refine Nat.le_of_not_lt fun less => ?_
    have front := h'.prefix_of_length_le h.followedBy (Nat.le_of_lt less)
    have shorter := length_textOf_lt_of_prefix front less
    exact Nat.not_le.mpr shorter (least _ _ _ h'.occursAfter)

theorem holdsForm_iff {l : Line} : HoldsForm l.text ↔ ∃ s, IsLeftmost l s := by
  constructor
  · rintro ⟨before, source, target, h⟩
    obtain ⟨s, found⟩ := exists_find?_place h.followedBy l.offset
    exact ⟨s, find?_placedTokens_eq_some.mp found⟩
  · rintro ⟨s, before, source, target, h, -⟩
    exact ⟨before, source, target, h⟩

theorem find?_placedTokens_eq_none {l : Line} :
    Statement.find? (placedTokens l.offset l.text) = none ↔ ¬HoldsForm l.text := by
  simp only [Option.eq_none_iff_forall_ne_some, holdsForm_iff, not_exists, ne_eq,
    find?_placedTokens_eq_some]

instance (line : List Char) : Decidable (HoldsForm line) :=
  decidable_of_iff (Statement.find? (placedTokens 0 line) ≠ none)
    ((not_congr (find?_placedTokens_eq_none (l := ⟨0, line⟩))).trans Classical.not_not)

end NetDiagram.Proofs.Reading
