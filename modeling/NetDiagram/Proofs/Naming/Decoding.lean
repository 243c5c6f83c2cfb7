import NetDiagram.Document.Flowchart
import NetDiagram.Xml

/-!
# Identities can be read back

Escapes and separators of an identity share the underscore, and neither is kept apart from the
other by the characters around it: an escape at the end of a name runs into the separator, and
empty names leave runs of separators. What keeps them apart is the order of reading. From the left,
an underscore that starts a separator is followed by another one and an underscore that starts an
escape by a hexadecimal digit, so a reader with one character of memory never has to guess.

* `decode_identity`: the reader recovers the path from its identity.
* `identity_injective`: so paths with the same identity are the same.
* `identity_characters`: an identity has only characters that no document has to escape.
-/

namespace NetDiagram.Proofs.Naming
open Identity

/-! ## Hexadecimal digits -/

/-- The number that a lowercase hexadecimal digit stands for. -/
def digitValue (c : Char) : Nat :=
  if c.isDigit then c.toNat - '0'.toNat else c.toNat - 'a'.toNat + 10

theorem digitValue_digitChar : ∀ d < 16, digitValue (Nat.digitChar d) = d := by
  decide

theorem digitChar_ne_underscore : ∀ d < 16, Nat.digitChar d ≠ '_' := by
  decide

theorem isAlphanum_digitChar : ∀ d < 16, (Nat.digitChar d).isAlphanum = true := by
  decide

theorem forall_mem_toDigits {p : Char → Prop} (digit : ∀ d < 16, p (Nat.digitChar d)) (n : Nat) :
    ∀ c ∈ Nat.toDigits 16 n, p c := by
  induction n using Nat.strongRecOn with
  | ind n ih =>
      intro c member
      rw [Nat.toDigits_eq_if (by decide)] at member
      split at member
      · rename_i small
        rw [List.mem_singleton.mp member]
        exact digit n small
      · rename_i large
        rcases List.mem_append.mp member with front | last
        · exact ih (n / 16) (Nat.div_lt_self (by omega) (by decide)) c front
        · rw [List.mem_singleton.mp last]
          exact digit (n % 16) (Nat.mod_lt n (by decide))

theorem toDigits_ne_nil (n : Nat) : Nat.toDigits 16 n ≠ [] := by
  rw [Nat.toDigits_eq_if (by decide)]
  split <;> simp

/-! ## The reader -/

/-- Where the reading of an identity stands. -/
inductive Position where
  /-- Between two characters of the names. -/
  | between
  /-- After an underscore that starts an escape or a separator. -/
  | marked
  /-- Inside an escape, after digits with the given value. -/
  | escaped (value : Nat)
deriving DecidableEq, Repr

def prepend (c : Char) : List (List Char) → List (List Char)
  | [] => []
  | name :: names => (c :: name) :: names

/-- Reads names, the first of which has been begun, to the end of an identity. -/
def readNames : Position → List Char → Option (List (List Char))
  | .between, [] => some [[]]
  | .between, c :: cs =>
    if c = '_' then readNames .marked cs else (readNames .between cs).map (prepend c)
  | .marked, [] => none
  | .marked, c :: cs =>
    if c = '_' then (readNames .between cs).map ([] :: ·)
    else readNames (.escaped (digitValue c)) cs
  | .escaped _, [] => none
  | .escaped n, c :: cs =>
    if c = '_' then (readNames .between cs).map (prepend (Char.ofNat n))
    else readNames (.escaped (16 * n + digitValue c)) cs

def decode (id : Identity) : Option Path :=
  match readNames .between id.text.toList with
  | some [environment, datacenter, area, device] =>
    some ⟨.ofList environment, .ofList datacenter, .ofList area, .ofList device⟩
  | _ => none

/-! ## Reading what was written -/

theorem readNames_digits (digits : List Char) (hex : ∀ c ∈ digits, c ≠ '_') (n : Nat)
    (rest : List Char) :
    readNames (.escaped n) (digits ++ rest) =
      readNames (.escaped (digits.foldl (fun value c => 16 * value + digitValue c) n)) rest := by
  induction digits generalizing n with
  | nil => rfl
  | cons c cs ih =>
      rw [List.forall_mem_cons] at hex
      rw [List.cons_append, readNames, if_neg hex.1, ih hex.2, List.foldl_cons]

theorem foldl_toDigits (n : Nat) :
    (Nat.toDigits 16 n).foldl (fun value c => 16 * value + digitValue c) 0 = n := by
  induction n using Nat.strongRecOn with
  | ind n ih =>
      rw [Nat.toDigits_eq_if (by decide)]
      split
      · rename_i small
        simp [digitValue_digitChar n small]
      · rename_i large
        rw [List.foldl_append, ih (n / 16) (Nat.div_lt_self (by omega) (by decide))]
        simp only [List.foldl_cons, List.foldl_nil]
        rw [digitValue_digitChar _ (Nat.mod_lt n (by decide)), Nat.div_add_mod]

/-- Behind the mark of an escape, the first digit tells it from a separator. -/
theorem readNames_marked_toDigits (n : Nat) (rest : List Char) :
    readNames .marked (Nat.toDigits 16 n ++ '_' :: rest) =
      (readNames .between rest).map (prepend (Char.ofNat n)) := by
  have hex := forall_mem_toDigits (p := (· ≠ '_')) digitChar_ne_underscore n
  have value := foldl_toDigits n
  obtain ⟨c, cs, digits⟩ := List.exists_cons_of_ne_nil (toDigits_ne_nil n)
  rw [digits, List.forall_mem_cons] at hex
  rw [digits, List.foldl_cons, Nat.mul_zero, Nat.zero_add] at value
  rw [digits, List.cons_append, readNames, if_neg hex.1, readNames_digits cs hex.2, value,
    readNames, if_pos rfl]

theorem readNames_encodeChar (c : Char) (rest : List Char) :
    readNames .between (encodeChar c ++ rest) = (readNames .between rest).map (prepend c) := by
  unfold encodeChar
  split
  · rename_i plain
    have : c ≠ '_' := by
      rintro rfl
      revert plain
      decide
    rw [List.singleton_append, readNames, if_neg this]
  · rw [List.cons_append, List.append_assoc, List.singleton_append, readNames, if_pos rfl,
      readNames_marked_toDigits, Char.ofNat_toNat]

theorem readNames_encode (name rest : List Char) :
    readNames .between (encode name ++ rest) =
      (readNames .between rest).map fun names => name.foldr prepend names := by
  induction name with
  | nil => simp
  | cons c cs ih =>
      rw [encode_cons, List.append_assoc, readNames_encodeChar, ih, Option.map_map]
      rfl

theorem foldr_prepend (name first : List Char) (names : List (List Char)) :
    name.foldr prepend (first :: names) = (name ++ first) :: names := by
  induction name with
  | nil => rfl
  | cons c cs ih => rw [List.foldr_cons, ih, prepend, List.cons_append]

theorem intercalate_cons_cons (name next : List Char) (names : List (List Char)) :
    separator.intercalate ((name :: next :: names).map encode) =
      encode name ++ '_' :: '_' :: separator.intercalate ((next :: names).map encode) := by
  simp [List.intercalate, separator]

theorem readNames_intercalate (name : List Char) (names : List (List Char)) :
    readNames .between (separator.intercalate ((name :: names).map encode)) =
      some (name :: names) := by
  induction names generalizing name with
  | nil =>
      have := readNames_encode name []
      rw [List.append_nil, readNames, Option.map_some, foldr_prepend, List.append_nil] at this
      simpa using this
  | cons next names ih =>
      rw [intercalate_cons_cons, readNames_encode, readNames, if_pos rfl, readNames, if_pos rfl, ih,
        Option.map_some, Option.map_some, foldr_prepend, List.append_nil]

theorem decode_identity (p : Path) : decode p.identity = some p := by
  have names : p.names.map (fun name => encode name.toList) =
      (p.environment.toList :: [p.datacenter.toList, p.area.toList, p.device.toList]).map encode :=
    rfl
  unfold decode Path.identity
  rw [names, String.toList_ofList, readNames_intercalate]
  simp

theorem identity_injective {p q : Path} (same : p.identity = q.identity) : p = q := by
  have := congrArg decode same
  rw [decode_identity, decode_identity] at this
  exact Option.some.inj this

/-! ## Characters -/

def IsIdentityChar (c : Char) : Prop := isPlain c = true ∨ c = '_'

theorem isIdentityChar_encodeChar (c : Char) : ∀ d ∈ encodeChar c, IsIdentityChar d := by
  intro d member
  unfold encodeChar at member
  split at member
  · rename_i plain
    rw [List.mem_singleton.mp member]
    exact .inl plain
  · have digits := forall_mem_toDigits (p := IsIdentityChar)
      (fun n small => .inl (by simp [isPlain, isAlphanum_digitChar n small])) c.toNat
    rcases List.mem_cons.mp member with rfl | member
    · exact .inr rfl
    rcases List.mem_append.mp member with digit | last
    · exact digits d digit
    · exact .inr (List.mem_singleton.mp last)

theorem isIdentityChar_encode (name : List Char) : ∀ c ∈ encode name, IsIdentityChar c := by
  intro c member
  obtain ⟨d, -, member⟩ := List.mem_flatMap.mp member
  exact isIdentityChar_encodeChar d c member

theorem isIdentityChar_intercalate (names : List (List Char)) :
    ∀ c ∈ separator.intercalate (names.map encode), IsIdentityChar c := by
  induction names with
  | nil => simp
  | cons name names ih =>
      cases names with
      | nil => simpa using isIdentityChar_encode name
      | cons next names =>
          intro c member
          rw [intercalate_cons_cons, List.mem_append, List.mem_cons, List.mem_cons] at member
          rcases member with member | mark | mark | member
          · exact isIdentityChar_encode name c member
          · exact .inr mark
          · exact .inr mark
          · exact ih c member

theorem identity_characters (p : Path) : ∀ c ∈ p.identity.text.toList, IsIdentityChar c := by
  have names : p.names.map (fun name => encode name.toList) =
      (p.names.map (·.toList)).map encode := by
    rw [List.map_map]
    rfl
  rw [Path.identity, String.toList_ofList, names]
  exact isIdentityChar_intercalate _

/-! ## Escaping -/

theorem ofList_flatMap_eq_self {escape : Char → List Char} {text : String}
    (kept : ∀ c ∈ text.toList, escape c = [c]) :
    String.ofList (text.toList.flatMap escape) = text := by
  rw [List.flatMap_def, List.map_congr_left kept, ← List.flatMap_def, List.flatMap_singleton',
    String.ofList_toList]

theorem IsIdentityChar.ne {c d : Char} (h : IsIdentityChar c) (plain : isPlain d = false)
    (underscore : d ≠ '_') : c ≠ d := by
  rintro rfl
  rcases h with h | h
  · rw [plain] at h
    contradiction
  · exact underscore h

theorem escape_identity (p : Path) : Xml.escape p.identity.text = p.identity.text := by
  apply ofList_flatMap_eq_self
  intro c member
  have ne := fun d => (identity_characters p c member).ne (d := d)
  rw [Xml.escapeChar, if_neg (ne '&' (by decide) (by decide)),
    if_neg (ne '<' (by decide) (by decide)), if_neg (ne '>' (by decide) (by decide)),
    if_neg (ne '"' (by decide) (by decide)), if_neg (ne '\x27' (by decide) (by decide))]

theorem escapeLabel_identity (p : Path) :
    Flowchart.escapeLabel p.identity.text = p.identity.text := by
  apply ofList_flatMap_eq_self
  intro c member
  have ne := fun d => (identity_characters p c member).ne (d := d)
  rw [Flowchart.escapeChar, if_neg (ne '"' (by decide) (by decide)),
    if_neg (ne '|' (by decide) (by decide))]

/-! ## The statement -/

/-- Identities can be read back, so they tell paths apart, and they can stand unescaped in every
document. -/
theorem identity_uniquely_decodable :
    (∀ p : Path, decode p.identity = some p) ∧
      (∀ p q : Path, p.identity = q.identity ↔
        p.environment = q.environment ∧ p.datacenter = q.datacenter ∧ p.area = q.area ∧
          p.device = q.device) ∧
      ∀ p : Path,
        (∀ c ∈ p.identity.text.toList,
          c.isAlphanum = true ∨ c = '_' ∨ 0x4E00 ≤ c.toNat ∧ c.toNat ≤ 0x9FA5) ∧
        Xml.escape p.identity.text = p.identity.text ∧
        Flowchart.escapeLabel p.identity.text = p.identity.text := by
  refine ⟨decode_identity, fun p q => ⟨fun same => ?_, ?_⟩, fun p => ⟨fun c member => ?_, ?_, ?_⟩⟩
  · rw [identity_injective same]
    exact ⟨rfl, rfl, rfl, rfl⟩
  · rintro ⟨environment, datacenter, area, device⟩
    simp only [Path.identity, Path.names, environment, datacenter, area, device]
  · rcases identity_characters p c member with plain | underscore
    · simp only [isPlain, Bool.or_eq_true, Bool.and_eq_true, decide_eq_true_eq] at plain
      exact plain.imp_right .inr
    · exact .inr (.inl underscore)
  · exact escape_identity p
  · exact escapeLabel_identity p

end NetDiagram.Proofs.Naming
