import SnapshotTypes.FileAccess
import SnapshotTypes.Proofs.Text.Split
import Mathlib.Data.List.Infix

/-!
# Enclosing paths

A path and the pieces between its slashes determine each other, so that the paths that enclose
another begin as it does: their steps are the first steps of the path, from the same origin. This is
read off the texts, and no files are looked at.
-/

set_option autoImplicit false

namespace SnapshotTypes

namespace FilePath

/-!
## Paths and their pieces
-/

theorem pieces_ne_nil (path : FilePath) : path.pieces ≠ [] := by
  rw [pieces, Ne, List.map_eq_nil_iff]
  exact Text.split_ne_nil '/' path.text.toList

theorem no_slash_of_mem_pieces {path : FilePath} {piece : String} (member : piece ∈ path.pieces) :
    '/' ∉ piece.toList := by
  obtain ⟨part, present, rfl⟩ := List.mem_map.mp member
  rw [String.toList_ofList]
  exact Text.not_mem_of_mem_split present

theorem pieces_ofPieces {parts : List String} (filled : parts ≠ [])
    (plain : ∀ part ∈ parts, '/' ∉ part.toList) : (ofPieces parts).pieces = parts := by
  have spelled : ∀ part ∈ parts.map String.toList, '/' ∉ part := by
    intro part member
    obtain ⟨source, present, rfl⟩ := List.mem_map.mp member
    exact plain source present
  have split := List.splitOn_intercalate '/' spelled (by simpa using filled)
  rw [pieces, ofPieces, String.toList_intercalate, Text.split_eq_splitOn]
  have slash : "/".toList = ['/'] := rfl
  rw [slash, split, List.map_map]
  simp

/-- Absolute paths begin with an empty piece that is followed by another. -/
theorem isAbsolute_iff {path : FilePath} :
    path.isAbsolute = true ↔ ∃ piece rest, path.pieces = "" :: piece :: rest := by
  unfold isAbsolute pieces
  cases path.text.toList with
  | nil => simp [Text.split]
  | cons c rest =>
      rw [Text.split]
      by_cases slash : c = '/'
      · cases later : Text.split '/' rest with
        | nil => exact absurd later (Text.split_ne_nil '/' rest)
        | cons first others => simp [slash]
      · cases later : Text.split '/' rest with
        | nil => simp [slash]
        | cons first others => simp [slash]

/-!
## Paths that enclose another
-/

/-- A path that another one begins with: it starts at the same origin, with the same first steps. -/
structure Precedes (directory path : FilePath) : Prop where
  origin : directory.isAbsolute = path.isAbsolute
  steps : directory.steps <+: path.steps

theorem Precedes.refl (path : FilePath) : path.Precedes path :=
  ⟨rfl, List.prefix_refl _⟩

/-- What begins with the same pieces begins with the same steps. A single empty piece would not tell
whether the path is absolute. -/
theorem precedes_of_pieces {directory path : FilePath} (begins : directory.pieces <+: path.pieces)
    (telling : directory.pieces ≠ [""]) : directory.Precedes path := by
  refine ⟨?_, begins.filter _⟩
  rw [Bool.eq_iff_iff, isAbsolute_iff, isAbsolute_iff]
  obtain ⟨later, split⟩ := begins
  rw [← split]
  constructor
  · intro absolute
    obtain ⟨piece, rest, parts⟩ := absolute
    exact ⟨piece, rest ++ later, by rw [parts]; rfl⟩
  · intro absolute
    obtain ⟨piece, rest, parts⟩ := absolute
    cases own : directory.pieces with
    | nil => exact absurd own directory.pieces_ne_nil
    | cons first others =>
        rw [own] at parts telling
        obtain ⟨rfl, _⟩ := List.cons.inj parts
        cases others with
        | nil => exact absurd rfl telling
        | cons second more => exact ⟨second, more, rfl⟩

theorem precedes_of_first_pieces {path : FilePath} {parts : List String}
    (begins : parts <+: path.pieces) (filled : parts ≠ []) (telling : parts ≠ [""]) :
    (ofPieces parts).Precedes path := by
  have plain : ∀ part ∈ parts, '/' ∉ part.toList := fun part member =>
    no_slash_of_mem_pieces (begins.subset member)
  have own := pieces_ofPieces filled plain
  exact precedes_of_pieces (by rw [own]; exact begins) (by rw [own]; exact telling)

theorem suffix_of_mem_shortened {parts rest : List String} (member : rest ∈ shortened parts) :
    rest <:+ parts := by
  induction parts with
  | nil => cases member
  | cons piece later ih =>
      rw [shortened] at member
      split at member
      · exact (ih member).trans (List.suffix_cons piece later)
      · rcases List.mem_cons.mp member with rfl | further
        · exact (List.dropWhile_suffix _).trans (List.suffix_cons piece later)
        · exact (ih further).trans (List.suffix_cons piece later)

/-- What is left of the reversed pieces is, read forwards, a beginning of the pieces. -/
theorem reverse_prefix_of_mem_shortened {body rest : List String}
    (member : rest ∈ shortened body.reverse) : rest.reverse <+: body := by
  rw [← List.reverse_suffix, List.reverse_reverse]
  exact suffix_of_mem_shortened member

/-- The paths that enclose another precede it, the empty path apart. -/
theorem precedes_of_mem_enclosing {directory path : FilePath}
    (member : directory ∈ path.enclosing) : directory.text = "" ∨ directory.Precedes path := by
  unfold enclosing at member
  split at member
  · rename_i body parts
    obtain ⟨rest, short, rfl⟩ := List.mem_map.mp member
    have begins := reverse_prefix_of_mem_shortened short
    right
    cases rest with
    | nil =>
        cases body with
        | nil => cases short
        | cons piece later =>
            have absolute : path.isAbsolute = true := isAbsolute_iff.mpr ⟨piece, later, parts⟩
            exact ⟨absolute.symm, List.nil_prefix⟩
    | cons last earlier =>
        have longer : "" :: (last :: earlier).reverse <+: path.pieces := by
          rw [parts]
          exact List.cons_prefix_cons.mpr ⟨rfl, begins⟩
        exact precedes_of_first_pieces longer (List.cons_ne_nil _ _) (by simp)
  · rename_i body parts
    rcases List.mem_append.mp member with dotted | start
    · obtain ⟨rest, short, rfl⟩ := List.mem_map.mp dotted
      have longer : "." :: rest.reverse <+: path.pieces := by
        rw [parts]
        exact List.cons_prefix_cons.mpr ⟨rfl, reverse_prefix_of_mem_shortened short⟩
      exact .inr (precedes_of_first_pieces longer (List.cons_ne_nil _ _) (by simp))
    · rw [List.mem_singleton.mp start]
      exact .inl rfl
  · rename_i noRoot _
    obtain ⟨rest, short, rfl⟩ := List.mem_map.mp member
    have begins := reverse_prefix_of_mem_shortened short
    cases rest with
    | nil => exact .inl rfl
    | cons last earlier =>
        refine .inr (precedes_of_first_pieces begins (by simp) fun single => ?_)
        -- A path that begins with an empty piece was met in the first case.
        rw [single] at begins
        obtain ⟨later, split⟩ := begins
        exact noRoot later split.symm

end FilePath

end SnapshotTypes
