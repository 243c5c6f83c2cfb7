/-!
# Grouping by first appearance

A key sorts the values of a list into groups: one for every key, in the order in which the keys
appear first. A group is built from its key and from the values that have it. One more value at the
end of the list alters one group only, and opens it at the end if its key is new.

* `groups_append_of_not_mem`: a new value alters the group of its key.
* `groups_append_of_mem`: a value that makes no difference to its group alters nothing.
* `flatMap_alter_perm`: what an altered list of groups holds.
-/

namespace NetDiagram.Proofs.Grouping

/-! ## Values without later repeats -/

section Distinct

variable {α : Type} [DecidableEq α]

theorem nodup_eraseDups (l : List α) : l.eraseDups.Nodup := by
  match l with
  | [] => exact List.nodup_nil
  | a :: as =>
      rw [List.eraseDups_cons, List.nodup_cons]
      refine ⟨fun again => ?_, nodup_eraseDups _⟩
      simpa using List.mem_eraseDups.mp again
termination_by l.length
decreasing_by exact Nat.lt_succ_of_le (List.length_filter_le _ _)

theorem eraseDups_append_of_mem {l : List α} {a : α} (known : a ∈ l) :
    (l ++ [a]).eraseDups = l.eraseDups := by
  have : [a].removeAll l = [] := by simp [List.removeAll, known]
  rw [List.eraseDups_append, this, List.eraseDups_nil, List.append_nil]

theorem eraseDups_append_of_not_mem {l : List α} {a : α} (new : a ∉ l) :
    (l ++ [a]).eraseDups = l.eraseDups ++ [a] := by
  have : [a].removeAll l = [a] := by simp [List.removeAll, new]
  rw [List.eraseDups_append, this, List.eraseDups_cons]
  rfl

theorem eraseDups_eq_self {l : List α} (distinct : l.Nodup) : l.eraseDups = l := by
  induction l with
  | nil => rfl
  | cons a as ih =>
      obtain ⟨new, distinct⟩ := List.nodup_cons.mp distinct
      have others : as.filter (fun b => !b == a) = as := by
        rw [List.filter_eq_self]
        intro b member
        have : b ≠ a := fun same => new (same ▸ member)
        simpa using this
      rw [List.eraseDups_cons, others, ih distinct]

theorem eraseDups_map {β : Type} [DecidableEq β] {f : α → β} (injective : f.Injective)
    (l : List α) : (l.map f).eraseDups = l.eraseDups.map f := by
  match l with
  | [] => rfl
  | a :: as =>
      have others : (as.map f).filter (fun b => !b == f a) =
          (as.filter fun b => !b == a).map f := by
        rw [List.filter_map]
        congr 1
        apply List.filter_congr
        intro b _
        rw [Function.comp_apply, Bool.eq_iff_iff]
        simp [injective.eq_iff]
      rw [List.map_cons, List.eraseDups_cons, List.eraseDups_cons, others,
        eraseDups_map injective, List.map_cons]
termination_by l.length
decreasing_by exact Nat.lt_succ_of_le (List.length_filter_le _ _)

theorem eraseDups_filter (l : List α) (p : α → Bool) :
    (l.filter p).eraseDups = l.eraseDups.filter p := by
  match l with
  | [] => rfl
  | a :: as =>
      have others : (as.filter p).filter (fun b => !b == a) =
          (as.filter fun b => !b == a).filter p := by
        rw [List.filter_filter, List.filter_filter]
        simp only [Bool.and_comm]
      cases kept : p a with
      | true =>
          rw [List.filter_cons_of_pos kept, List.eraseDups_cons, List.eraseDups_cons, others,
            eraseDups_filter, List.filter_cons_of_pos kept]
      | false =>
          have without : as.filter p = (as.filter fun b => !b == a).filter p := by
            rw [← others, eq_comm, List.filter_eq_self]
            intro b member
            have : b ≠ a := by
              rintro rfl
              simp [kept] at member
            simpa using this
          have dropped : ¬p a = true := by simp [kept]
          rw [List.filter_cons_of_neg dropped, List.eraseDups_cons, List.filter_cons_of_neg dropped,
            without, eraseDups_filter]
termination_by l.length
decreasing_by all_goals exact Nat.lt_succ_of_le (List.length_filter_le _ _)

end Distinct

/-! ## Altering a group -/

variable {α β γ κ : Type} [DecidableEq κ]

/-- Changes the first group with the given name, or puts a fresh one at the end. -/
def alter (name : β → κ) (k : κ) (change : β → β) (fresh : β) : List β → List β
  | [] => [fresh]
  | g :: gs => if name g = k then change g :: gs else g :: alter name k change fresh gs

section Alter

variable {name : β → κ} {k : κ} {change : β → β} {fresh : β} {build : κ → β} {keys : List κ}

theorem alter_map_of_not_mem (named : ∀ j, name (build j) = j) (new : k ∉ keys) :
    alter name k change fresh (keys.map build) = keys.map build ++ [fresh] := by
  induction keys with
  | nil => rfl
  | cons j js ih =>
      obtain ⟨other, later⟩ := not_or.mp (mt List.mem_cons.mpr new)
      have : name (build j) ≠ k := fun same => other (same.symm.trans (named j))
      simp only [List.map_cons, alter, if_neg this, ih later, List.cons_append]

theorem alter_map_of_mem (named : ∀ j, name (build j) = j) (distinct : keys.Nodup)
    (known : k ∈ keys) :
    alter name k change fresh (keys.map build) =
      keys.map fun j => if j = k then change (build j) else build j := by
  induction keys with
  | nil => cases known
  | cons j js ih =>
      obtain ⟨once, distinct⟩ := List.nodup_cons.mp distinct
      simp only [List.map_cons, alter, named]
      by_cases here : j = k
      · have rest : js.map (fun i => if i = k then change (build i) else build i) =
            js.map build := by
          refine List.map_congr_left fun i member => if_neg ?_
          rintro rfl
          exact once (here ▸ member)
        rw [if_pos here, if_pos here, rest]
      · have later : k ∈ js := (List.mem_cons.mp known).resolve_left (Ne.symm here)
        rw [if_neg here, if_neg here, ih distinct later]

/-- If the change adds something to the group and the fresh group holds just that, then it is all
that the list gains. -/
theorem flatMap_alter_perm {gs : List β} {content : β → List γ} {extra : List γ}
    (changed : ∀ g ∈ gs, name g = k → (content (change g)).Perm (content g ++ extra))
    (opened : content fresh = extra) :
    ((alter name k change fresh gs).flatMap content).Perm (gs.flatMap content ++ extra) := by
  induction gs with
  | nil => simp [alter, opened]
  | cons g gs ih =>
      simp only [alter, List.flatMap_cons]
      split
      · rename_i here
        rw [List.flatMap_cons]
        calc content (change g) ++ gs.flatMap content
          _ |>.Perm (content g ++ extra ++ gs.flatMap content) :=
              (changed g List.mem_cons_self here).append_right _
          _ |>.Perm (content g ++ (gs.flatMap content ++ extra)) := by
              rw [List.append_assoc]
              exact List.perm_append_comm.append_left _
          _ |>.Perm (content g ++ gs.flatMap content ++ extra) := by
              rw [List.append_assoc]
      · rw [List.flatMap_cons, List.append_assoc]
        exact (ih fun g member => changed g (List.mem_cons_of_mem _ member)).append_left _

end Alter

/-! ## Groups -/

/-- The groups of the values, each built from its key and from the values that have it. -/
def groups (key : α → κ) (build : κ → List α → β) (xs : List α) : List β :=
  (xs.map key).eraseDups.map fun k => build k (xs.filter fun x => key x = k)

section Groups

variable {key : α → κ} {build : κ → List α → β} {xs : List α} {x : α}

theorem nodup_map_name_groups {name : β → κ} (named : ∀ k ys, name (build k ys) = k) :
    ((groups key build xs).map name).Nodup := by
  have names : (groups key build xs).map name = (xs.map key).eraseDups := by
    rw [groups, List.map_map]
    exact List.map_id'' (fun k => named k _) _
  rw [names]
  exact nodup_eraseDups _

theorem exists_of_mem_groups {g : β} (member : g ∈ groups key build xs) :
    ∃ k ys, ys ≠ [] ∧ g = build k ys := by
  obtain ⟨k, inside, rfl⟩ := List.mem_map.mp member
  obtain ⟨x, present, rfl⟩ := List.mem_map.mp (List.mem_eraseDups.mp inside)
  refine ⟨key x, _, List.ne_nil_of_mem (a := x) ?_, rfl⟩
  simp [present]

theorem groups_ne_nil (some : xs ≠ []) : groups key build xs ≠ [] := by
  obtain ⟨x, member⟩ := List.exists_mem_of_ne_nil xs some
  refine List.ne_nil_of_mem (a := build (key x) _) (List.mem_map_of_mem ?_)
  exact List.mem_eraseDups.mpr (List.mem_map_of_mem member)

theorem filter_append_of_eq {k : κ} (same : key x = k) :
    (xs ++ [x]).filter (fun y => key y = k) = xs.filter (fun y => key y = k) ++ [x] := by
  simp [List.filter_append, same]

theorem filter_append_of_ne {k : κ} (other : key x ≠ k) :
    (xs ++ [x]).filter (fun y => key y = k) = xs.filter (fun y => key y = k) := by
  simp [List.filter_append, other]

theorem groups_append_of_mem (known : x ∈ xs)
    (same : build (key x) (xs.filter (fun y => key y = key x) ++ [x]) =
      build (key x) (xs.filter fun y => key y = key x)) :
    groups key build (xs ++ [x]) = groups key build xs := by
  unfold groups
  rw [List.map_append, List.map_singleton,
    eraseDups_append_of_mem (List.mem_map_of_mem known)]
  refine List.map_congr_left fun k _ => ?_
  by_cases here : key x = k
  · subst here
    rw [filter_append_of_eq rfl, same]
  · rw [filter_append_of_ne here]

theorem groups_append_of_not_mem {name : β → κ} {change : β → β} {fresh : β}
    (named : ∀ k ys, name (build k ys) = k)
    (changed : change (build (key x) (xs.filter fun y => key y = key x)) =
      build (key x) (xs.filter (fun y => key y = key x) ++ [x]))
    (opened : fresh = build (key x) [x]) :
    groups key build (xs ++ [x]) = alter name (key x) change fresh (groups key build xs) := by
  unfold groups
  rw [List.map_append, List.map_singleton]
  by_cases known : key x ∈ xs.map key
  · rw [eraseDups_append_of_mem known, alter_map_of_mem (fun k => named k _)
      (nodup_eraseDups _) (List.mem_eraseDups.mpr known)]
    refine List.map_congr_left fun k _ => ?_
    split
    · rename_i here
      subst here
      rw [changed, filter_append_of_eq rfl]
    · rename_i other
      rw [filter_append_of_ne (Ne.symm other)]
  · rw [eraseDups_append_of_not_mem known, alter_map_of_not_mem (fun k => named k _)
      (fun again => known (List.mem_eraseDups.mp again)), List.map_append, List.map_singleton]
    -- A new key: no value before has it, and all other groups stay as they are.
    have alone : xs.filter (fun y => key y = key x) = [] := by
      rw [List.filter_eq_nil_iff]
      intro y member same
      exact known (of_decide_eq_true same ▸ List.mem_map_of_mem member)
    have others : ∀ k ∈ (xs.map key).eraseDups, key x ≠ k := by
      rintro k member rfl
      exact known (List.mem_eraseDups.mp member)
    rw [filter_append_of_eq rfl, alone, List.nil_append, opened]
    congr 1
    exact List.map_congr_left fun k member => by rw [filter_append_of_ne (others k member)]

end Groups

end NetDiagram.Proofs.Grouping
