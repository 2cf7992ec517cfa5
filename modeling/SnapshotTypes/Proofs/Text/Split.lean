import SnapshotTypes.Text

/-!
# Parts of a text between separators

No part holds a separator, a text without separators is its only part, and the parts of two texts
with a separator between them are the parts of the one and of the other. What stands before the
first separator is found by going on for as long as there is none.
-/

set_option autoImplicit false

namespace SnapshotTypes.Text

theorem split_eq_splitOn (separator : Char) (cs : List Char) :
    split separator cs = cs.splitOn separator := by
  induction cs with
  | nil => rw [split, List.splitOn_nil]
  | cons c rest ih =>
      rw [split, ih, List.splitOn_cons_eq_if_modifyHead]
      by_cases ends : c = separator
      · simp [ends]
      · cases later : rest.splitOn separator with
        | nil => exact absurd later (List.splitOn_ne_nil _ _)
        | cons first others => simp [ends]

theorem not_mem_of_mem_split {separator : Char} {cs part : List Char}
    (member : part ∈ split separator cs) : separator ∉ part := by
  induction cs generalizing part with
  | nil =>
      rw [split, List.mem_singleton] at member
      subst part
      exact List.not_mem_nil
  | cons c rest ih =>
      rw [split] at member
      split at member
      · rcases List.mem_cons.mp member with rfl | later
        · exact List.not_mem_nil
        · exact ih later
      · rename_i inside
        have own : ∀ first : List Char, separator ∉ first → separator ∉ c :: first := by
          intro first absent
          exact List.not_mem_cons_of_ne_of_not_mem (Ne.symm inside) absent
        split at member
        · rw [List.mem_singleton] at member
          subst part
          exact own [] List.not_mem_nil
        · rename_i first others parts
          rw [parts] at ih
          rcases List.mem_cons.mp member with rfl | later
          · exact own first (ih List.mem_cons_self)
          · exact ih (List.mem_cons_of_mem _ later)

theorem split_ne_nil (separator : Char) (cs : List Char) : split separator cs ≠ [] := by
  rw [split_eq_splitOn]
  exact List.splitOn_ne_nil separator cs

theorem split_append_cons (separator : Char) (first rest : List Char) :
    split separator (first ++ separator :: rest) =
      split separator first ++ split separator rest := by
  rw [split_eq_splitOn, split_eq_splitOn, split_eq_splitOn, List.splitOn_append_cons_self]

theorem split_of_not_mem {separator : Char} {cs : List Char} (absent : separator ∉ cs) :
    split separator cs = [cs] := by
  rw [split_eq_splitOn, List.splitOn_eq_singleton absent]

/-!
## The first separator
-/

theorem not_mem_takeWhile_ne (separator : Char) (cs : List Char) :
    separator ∉ cs.takeWhile (· ≠ separator) := by
  intro member
  have accepted := List.all_eq_true.mp (List.all_takeWhile (p := (· ≠ separator))) separator member
  simp at accepted

theorem dropWhile_ne_cases (separator : Char) (cs : List Char) :
    cs.dropWhile (· ≠ separator) = [] ∨
      ∃ rest, cs.dropWhile (· ≠ separator) = separator :: rest := by
  have stops := List.head?_dropWhile_not (· ≠ separator) cs
  cases left : cs.dropWhile (· ≠ separator) with
  | nil => exact .inl rfl
  | cons c rest =>
      rw [left] at stops
      obtain rfl : c = separator := by simpa using stops
      exact .inr ⟨rest, rfl⟩

section Before

variable {separator : Char} {first : List Char}

private theorem accepted_of_not_mem (absent : separator ∉ first) :
    ∀ c ∈ first, decide (c ≠ separator) = true := by
  intro c member
  rw [decide_eq_true_iff]
  rintro rfl
  exact absent member

theorem takeWhile_ne_append (absent : separator ∉ first) (rest : List Char) :
    (first ++ rest).takeWhile (· ≠ separator) = first ++ rest.takeWhile (· ≠ separator) :=
  List.takeWhile_append_of_pos (accepted_of_not_mem absent)

theorem dropWhile_ne_append (absent : separator ∉ first) (rest : List Char) :
    (first ++ rest).dropWhile (· ≠ separator) = rest.dropWhile (· ≠ separator) :=
  List.dropWhile_append_of_pos (accepted_of_not_mem absent)

end Before

end SnapshotTypes.Text
