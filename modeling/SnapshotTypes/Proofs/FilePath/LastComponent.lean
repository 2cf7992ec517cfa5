import SnapshotTypes.FileAccess
import SnapshotTypes.Proofs.Text.Split

/-!
# The last component of a path

Slashes at the end of a path, and dots behind a slash there, name nothing. The last component is
what stands behind the last slash of the rest. It is the name of the file unless it is empty, a dot
or two dots, and neither a directory before it nor more slashes and dots behind it have a bearing on
it.
-/

set_option autoImplicit false

namespace SnapshotTypes.FilePath

/-!
## Endings that name nothing
-/

/-- A run of slashes, each of which a dot may follow. -/
inductive IsIdleEnding : List Char → Prop where
  | nil : IsIdleEnding []
  | slash {later : List Char} : IsIdleEnding later → IsIdleEnding ('/' :: later)
  | dot {later : List Char} : IsIdleEnding later → IsIdleEnding ('/' :: '.' :: later)

/-- A text, last character first, without the longest such ending. -/
def withoutIdleEnding : List Char → List Char
  | '/' :: before => withoutIdleEnding before
  | '.' :: '/' :: before => withoutIdleEnding before
  | backwards => backwards

/-- What stands behind the last slash of a path without its idle ending. -/
def lastComponent (path : FilePath) : String :=
  let backwards := withoutIdleEnding path.text.toList.reverse
  String.ofList (backwards.takeWhile (· ≠ '/')).reverse

theorem IsIdleEnding.append {first later : List Char} (firstIdle : IsIdleEnding first)
    (laterIdle : IsIdleEnding later) : IsIdleEnding (first ++ later) := by
  induction firstIdle with
  | nil => exact laterIdle
  | slash _ ih => exact .slash ih
  | dot _ ih => exact .dot ih

theorem withoutIdleEnding_append {ending : List Char} (idle : IsIdleEnding ending)
    (before : List Char) :
    withoutIdleEnding (ending.reverse ++ before) = withoutIdleEnding before := by
  induction idle generalizing before with
  | nil => rfl
  | slash _ ih =>
      rw [List.reverse_cons, List.append_assoc, ih]
      rfl
  | dot _ ih =>
      rw [List.reverse_cons, List.reverse_cons, List.append_assoc, List.append_assoc, ih]
      rfl

theorem exists_idleEnding (backwards : List Char) :
    ∃ ending, IsIdleEnding ending ∧ backwards = ending.reverse ++ withoutIdleEnding backwards := by
  fun_induction withoutIdleEnding backwards with
  | case1 before ih =>
      obtain ⟨ending, idle, split⟩ := ih
      refine ⟨ending ++ ['/'], idle.append (.slash .nil), ?_⟩
      rw [List.reverse_append, List.append_assoc, ← split]
      rfl
  | case2 before ih =>
      obtain ⟨ending, idle, split⟩ := ih
      refine ⟨ending ++ ['/', '.'], idle.append (.dot .nil), ?_⟩
      rw [List.reverse_append, List.append_assoc, ← split]
      rfl
  | case3 backwards => exact ⟨[], .nil, rfl⟩

theorem withoutIdleEnding_of_named {component : List Char} (plain : '/' ∉ component)
    (named : component ≠ [] ∧ component ≠ ['.']) (before : List Char) :
    withoutIdleEnding (component ++ before) = component ++ before := by
  cases component with
  | nil => exact absurd rfl named.1
  | cons c rest =>
      rw [List.mem_cons, not_or] at plain
      cases rest with
      | nil =>
          have visible : c ≠ '.' := fun same => named.2 (by rw [same])
          simp [withoutIdleEnding, Ne.symm plain.1, visible]
      | cons d rest =>
          rw [List.mem_cons, not_or] at plain
          simp [withoutIdleEnding, Ne.symm plain.1, Ne.symm plain.2.1]

/-- What is left does not end idly, unless it is nothing but a dot. -/
theorem withoutIdleEnding_ne (backwards before : List Char) :
    withoutIdleEnding backwards ≠ '/' :: before ∧
      withoutIdleEnding backwards ≠ '.' :: '/' :: before := by
  fun_induction withoutIdleEnding backwards with
  | case1 _ ih => exact ih
  | case2 _ ih => exact ih
  | case3 backwards noSlash noDot => exact ⟨noSlash before, noDot before⟩

/-!
## Components
-/

theorem isIdle_iff {piece : String} : isIdle piece = true ↔ piece = "" ∨ piece = "." := by
  rw [isIdle, Bool.or_eq_true, beq_iff_eq, beq_iff_eq]

/-- A path that leads to a component in a directory, with an idle ending behind it. -/
structure EndsIn (path : FilePath) (directory component ending : String) : Prop where
  text : path.text = directory ++ component ++ ending
  leads : directory = "" ∨ ∃ before, directory = before ++ "/"
  plain : '/' ∉ component.toList
  idle : IsIdleEnding ending.toList

/-- Every path ends in its last component. Where that names nothing, nothing is left before it. -/
theorem exists_endsIn_lastComponent (path : FilePath) :
    ∃ directory ending, path.EndsIn directory path.lastComponent ending ∧
      (isIdle path.lastComponent = true → directory = "") := by
  obtain ⟨ending, idle, split⟩ := exists_idleEnding path.text.toList.reverse
  have settled := withoutIdleEnding_ne path.text.toList.reverse
  rw [lastComponent]
  generalize withoutIdleEnding path.text.toList.reverse = backwards at split settled ⊢
  have parts := List.takeWhile_append_dropWhile (p := (· ≠ '/')) (l := backwards)
  have plain := Text.not_mem_takeWhile_ne '/' backwards
  have slash := Text.dropWhile_ne_cases '/' backwards
  generalize backwards.takeWhile (· ≠ '/') = component at parts plain ⊢
  generalize backwards.dropWhile (· ≠ '/') = directory at parts slash
  subst parts
  refine ⟨String.ofList directory.reverse, String.ofList ending, ⟨?_, ?_, ?_, ?_⟩, ?_⟩
  · apply String.toList_inj.mp
    rw [← List.reverse_reverse path.text.toList, split]
    simp
  · rcases slash with rfl | ⟨before, rfl⟩
    · exact .inl rfl
    · exact .inr ⟨String.ofList before.reverse, String.toList_inj.mp (by simp)⟩
  · rw [String.toList_ofList, List.mem_reverse]
    exact plain
  · rw [String.toList_ofList]
    exact idle
  · intro idleComponent
    rcases slash with rfl | ⟨before, rfl⟩
    · rfl
    · obtain ⟨noSlash, noDot⟩ := settled before
      rcases isIdle_iff.mp idleComponent with empty | dot
      · have nothing : component = [] := by simpa [← String.toList_inj] using empty
        rw [nothing] at noSlash
        exact absurd rfl noSlash
      · have single : component = ['.'] := by simpa [← String.toList_inj] using dot
        rw [single] at noDot
        exact absurd rfl noDot

theorem EndsIn.lastComponent_eq {path : FilePath} {directory component ending : String}
    (ends : path.EndsIn directory component ending) (named : isIdle component = false) :
    path.lastComponent = component := by
  have named : component.toList.reverse ≠ [] ∧ component.toList.reverse ≠ ['.'] := by
    rw [Bool.eq_false_iff, Ne, isIdle_iff, not_or, ← String.toList_inj,
      ← String.toList_inj] at named
    simpa [List.reverse_eq_iff] using named
  have plain : '/' ∉ component.toList.reverse :=
    fun member => ends.plain (List.mem_reverse.mp member)
  have backwards : path.text.toList.reverse = ending.toList.reverse ++
      (component.toList.reverse ++ directory.toList.reverse) := by
    rw [ends.text]
    simp
  rw [lastComponent, backwards, withoutIdleEnding_append ends.idle,
    withoutIdleEnding_of_named plain named, Text.takeWhile_ne_append plain]
  rcases ends.leads with rfl | ⟨before, rfl⟩
  · simp
  · simp

theorem pieces_append_slash (before after : String) :
    (⟨before ++ "/" ++ after⟩ : FilePath).pieces =
      (⟨before⟩ : FilePath).pieces ++ (⟨after⟩ : FilePath).pieces := by
  have spelled : (before ++ "/" ++ after).toList = before.toList ++ '/' :: after.toList := by simp
  rw [pieces, spelled, Text.split_append_cons, List.map_append]
  rfl

theorem IsIdleEnding.exists_pieces {ending : List Char} (idle : IsIdleEnding ending) :
    ∃ idles : List String, (∀ piece ∈ idles, isIdle piece = true) ∧
      ∀ path : String, (⟨path ++ String.ofList ending⟩ : FilePath).pieces =
        (⟨path⟩ : FilePath).pieces ++ idles := by
  induction idle with
  | nil => exact ⟨[], List.forall_mem_nil _, fun path => by simp⟩
  | @slash later _ ih =>
      obtain ⟨idles, areIdle, parts⟩ := ih
      refine ⟨"" :: idles, List.forall_mem_cons.mpr ⟨rfl, areIdle⟩, fun path => ?_⟩
      have spelled : path ++ String.ofList ('/' :: later) =
          path ++ "/" ++ ("" ++ String.ofList later) := by
        simp [← String.toList_inj]
      rw [spelled, pieces_append_slash, parts]
      rfl
  | @dot later _ ih =>
      obtain ⟨idles, areIdle, parts⟩ := ih
      refine ⟨"." :: idles, List.forall_mem_cons.mpr ⟨rfl, areIdle⟩, fun path => ?_⟩
      have spelled : path ++ String.ofList ('/' :: '.' :: later) =
          path ++ "/" ++ ("." ++ String.ofList later) := by
        simp [← String.toList_inj]
      rw [spelled, pieces_append_slash, parts]
      rfl

/-- The pieces of a path from its last component on. -/
theorem EndsIn.exists_pieces {path : FilePath} {directory component ending : String}
    (ends : path.EndsIn directory component ending) :
    ∃ before after, path.pieces = before ++ component :: after ∧
      (∀ piece ∈ after, isIdle piece = true) ∧ (directory = "" → before = []) := by
  obtain ⟨after, idle, parts⟩ := ends.idle.exists_pieces
  rw [String.ofList_toList] at parts
  have own : (⟨component⟩ : FilePath).pieces = [component] := by
    rw [pieces, Text.split_of_not_mem ends.plain, List.map_singleton, String.ofList_toList]
  have split : path = ⟨directory ++ component ++ ending⟩ := by
    rw [← ends.text]
  rw [split, parts]
  rcases ends.leads with rfl | ⟨before, rfl⟩
  · exact ⟨[], after, by rw [String.empty_append, own]; rfl, idle, fun _ => rfl⟩
  · refine ⟨(⟨before⟩ : FilePath).pieces, after, ?_, idle, ?_⟩
    · rw [pieces_append_slash, own, List.append_assoc]
      rfl
    · intro empty
      exact absurd empty (by simp)

theorem fileName?_eq (path : FilePath) :
    path.fileName? =
      if isIdle path.lastComponent ∨ path.lastComponent = ".." then none
      else some path.lastComponent := by
  obtain ⟨directory, ending, ends, alone⟩ := exists_endsIn_lastComponent path
  obtain ⟨before, after, parts, idle, first⟩ := ends.exists_pieces
  have dropped : path.pieces.reverse.dropWhile isIdle =
      (path.lastComponent :: before.reverse).dropWhile isIdle := by
    rw [parts, List.reverse_append, List.reverse_cons, List.append_assoc,
      List.dropWhile_append_of_pos fun piece member => idle piece (List.mem_reverse.mp member)]
    rfl
  rw [fileName?, dropped]
  by_cases idleComponent : isIdle path.lastComponent = true
  · rw [first (alone idleComponent), if_pos (.inl idleComponent), List.reverse_nil,
      List.dropWhile_cons_of_pos idleComponent]
    rfl
  · rw [List.dropWhile_cons_of_neg idleComponent]
    simp [idleComponent]

/-!
## Extensions
-/

theorem extensionOfName?_eq_some_iff {name extension : String} :
    extensionOfName? name = some extension ↔
      '.' ∉ extension.toList ∧ ∃ stem : String, stem ≠ "" ∧ name = stem ++ "." ++ extension := by
  unfold extensionOfName?
  dsimp only
  constructor
  · intro found
    have parts := List.takeWhile_append_dropWhile (p := (· ≠ '.')) (l := name.toList.reverse)
    have plain := Text.not_mem_takeWhile_ne '.' name.toList.reverse
    rcases Text.dropWhile_ne_cases '.' name.toList.reverse with dropped | ⟨before, dropped⟩
    · rw [dropped] at found
      cases found
    · rw [dropped] at found parts
      generalize name.toList.reverse.takeWhile (· ≠ '.') = extension at found parts plain
      cases before with
      | nil => cases found
      | cons c before =>
          obtain rfl := Option.some.inj found
          refine ⟨by simpa using plain, String.ofList (c :: before).reverse, by simp, ?_⟩
          apply String.toList_inj.mp
          rw [← List.reverse_reverse name.toList, ← parts]
          simp
  · intro given
    obtain ⟨plain, stem, named, rfl⟩ := given
    have backwards : (stem ++ "." ++ extension).toList.reverse =
        extension.toList.reverse ++ '.' :: stem.toList.reverse := by
      simp
    have plain : '.' ∉ extension.toList.reverse := fun member => plain (List.mem_reverse.mp member)
    rw [backwards, Text.dropWhile_ne_append plain, Text.takeWhile_ne_append plain]
    cases spelled : stem.toList.reverse with
    | nil => exact absurd (String.toList_inj.mp (by simpa using spelled)) named
    | cons c before => simp

theorem extension_eq_of_same_name {first second stem other : String}
    (firstPlain : '.' ∉ first.toList) (secondPlain : '.' ∉ second.toList)
    (stemNamed : stem ≠ "") (otherNamed : other ≠ "")
    (same : stem ++ "." ++ first = other ++ "." ++ second) : first = second := by
  have found := extensionOfName?_eq_some_iff.mpr ⟨firstPlain, stem, stemNamed, rfl⟩
  have again := extensionOfName?_eq_some_iff.mpr ⟨secondPlain, other, otherNamed, same⟩
  exact Option.some.inj (found.symm.trans again)

/-- A name that is nothing but a dot and an extension has no stem. -/
theorem not_named_of_dot {extension written stem : String} (plain : '.' ∉ extension.toList)
    (named : stem ≠ "") : "." ++ extension ≠ stem ++ "." ++ written := by
  intro same
  have spelled := congrArg String.toList same
  simp only [String.toList_append] at spelled
  cases letters : stem.toList with
  | nil => exact named (String.toList_inj.mp letters)
  | cons c rest =>
      rw [letters] at spelled
      have tail : extension.toList = rest ++ ".".toList ++ written.toList :=
        (List.cons.inj spelled).2
      rw [tail] at plain
      exact plain (by simp)

theorem extension?_eq_some_iff {path : FilePath} {extension : String} (telling : extension ≠ "") :
    path.extension? = some extension ↔
      '.' ∉ extension.toList ∧
        ∃ stem : String, stem ≠ "" ∧ path.lastComponent = stem ++ "." ++ extension := by
  rw [extension?, fileName?_eq, ← extensionOfName?_eq_some_iff]
  by_cases special : isIdle path.lastComponent = true ∨ path.lastComponent = ".."
  · -- The names of no file have an extension that is empty, if any.
    rw [if_pos special, Option.bind_none]
    constructor
    · intro found
      cases found
    · intro found
      rw [isIdle_iff, or_assoc] at special
      rcases special with same | same | same <;> rw [same] at found
      · cases found
      · cases found
      · exact absurd (Option.some.inj found).symm telling
  · rw [if_neg special, Option.bind_some]

end SnapshotTypes.FilePath
