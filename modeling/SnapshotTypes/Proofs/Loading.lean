import SnapshotTypes.Decoding
import SnapshotTypes.Proofs.FilePath.LastComponent

/-!
# Formats by the names of files

The format of a snapshot is the extension of the last component of its path. A directory before the
path and idle endings behind it have no bearing on it, the spelling of the extension has, and a name
that is an extension only does not count.
-/

set_option autoImplicit false

namespace SnapshotTypes

open FilePath (IsIdleEnding EndsIn isIdle)

namespace FilePath.EndsIn

variable {path : FilePath} {directory component ending : String}

theorem inDirectory (ends : path.EndsIn directory component ending) (outer : String) :
    EndsIn ⟨outer ++ "/" ++ path.text⟩ (outer ++ "/" ++ directory) component ending := by
  refine ⟨?_, ?_, ends.plain, ends.idle⟩
  · rw [ends.text]
    simp only [String.append_assoc]
  · rcases ends.leads with rfl | ⟨before, rfl⟩
    · exact .inr ⟨outer, String.append_empty⟩
    · exact .inr ⟨outer ++ "/" ++ before, by simp only [String.append_assoc]⟩

theorem withEnding (ends : path.EndsIn directory component ending) {more : String}
    (idle : IsIdleEnding more.toList) :
    EndsIn ⟨path.text ++ more⟩ directory component (ending ++ more) := by
  refine ⟨?_, ends.leads, ends.plain, ?_⟩
  · rw [ends.text, String.append_assoc]
  · rw [String.toList_append]
    exact ends.idle.append idle

theorem renamed (ends : path.EndsIn directory component ending) {other : String}
    (plain : '/' ∉ other.toList) :
    EndsIn ⟨directory ++ other ++ ending⟩ directory other ending :=
  ⟨rfl, ends.leads, plain, ends.idle⟩

end FilePath.EndsIn

namespace Format

/-- The extension of the files in a format. -/
def extension : Format → String
  | json => "json"
  | yaml => "yaml"

theorem ofPath?_eq_some_iff_extension {path : FilePath} {format : Format} :
    ofPath? path = some format ↔ path.extension? = some format.extension := by
  unfold ofPath?
  cases format <;> split <;> simp_all [extension]

/-- An extension of a format is made of small letters. -/
theorem extension_plain (format : Format) :
    format.extension ≠ "" ∧ '.' ∉ format.extension.toList ∧ '/' ∉ format.extension.toList ∧
      format.extension.toLower = format.extension := by
  cases format <;> decide +kernel

/-- A path of a format has a name before the extension. -/
theorem ofPath?_eq_some_iff {path : FilePath} {format : Format} :
    ofPath? path = some format ↔
      ∃ stem : String, stem ≠ "" ∧ path.lastComponent = stem ++ "." ++ format.extension := by
  obtain ⟨telling, plain, _⟩ := format.extension_plain
  rw [ofPath?_eq_some_iff_extension, FilePath.extension?_eq_some_iff telling]
  exact and_iff_right plain

/-!
## Names with an extension
-/

theorem isIdle_named (stem : String) {written : String} (telling : written ≠ "") :
    isIdle (stem ++ "." ++ written) = false := by
  rw [Bool.eq_false_iff, Ne, FilePath.isIdle_iff]
  intro idle
  apply telling
  rcases idle with same | same
  · simp at same
  · have lengths := congrArg String.length same
    simp only [String.length_append] at lengths
    have one : ".".length = 1 := rfl
    exact String.length_eq_zero_iff.mp (by omega)

theorem toList_toLower (written : String) :
    written.toLower.toList = written.toList.map Char.toLower :=
  String.toList_map

theorem not_mem_of_toLower {written : String} {format : Format}
    (respelled : written.toLower = format.extension) :
    '.' ∉ written.toList ∧ '/' ∉ written.toList := by
  have kept : ∀ c : Char, c.toLower = c → c ∉ format.extension.toList → c ∉ written.toList := by
    intro c settled absent member
    rw [← respelled, toList_toLower] at absent
    exact absent (List.mem_map.mpr ⟨c, member, settled⟩)
  obtain ⟨_, noDot, noSlash, _⟩ := format.extension_plain
  exact ⟨kept '.' rfl noDot, kept '/' rfl noSlash⟩

section Respelled

variable {path : FilePath} {directory stem written ending : String}

theorem ofPath?_of_endsIn {format : Format} {component : String}
    (ends : path.EndsIn directory component ending) (named : isIdle component = false) :
    ofPath? path = some format ↔
      ∃ stem : String, stem ≠ "" ∧ component = stem ++ "." ++ format.extension := by
  rw [ofPath?_eq_some_iff, ends.lastComponent_eq named]

/-- An extension in capital letters is none of a format. -/
theorem ofPath?_of_respelled {format : Format} (named : stem ≠ "")
    (ends : path.EndsIn directory (stem ++ "." ++ written) ending)
    (respelled : written.toLower = format.extension) (other : written ≠ format.extension) :
    ofPath? path = none := by
  obtain ⟨plain, _⟩ := not_mem_of_toLower respelled
  have telling : written ≠ "" := by
    rintro rfl
    exact format.extension_plain.1 (respelled.symm.trans (by decide +kernel))
  cases found : ofPath? path with
  | none => rfl
  | some accepted =>
      obtain ⟨stem', named', same⟩ := (ofPath?_of_endsIn ends (isIdle_named stem telling)).mp found
      obtain ⟨_, acceptedPlain, _, settled⟩ := accepted.extension_plain
      have equal := FilePath.extension_eq_of_same_name plain acceptedPlain named named' same
      rw [equal, settled] at respelled
      exact absurd (equal.trans respelled) other

theorem ofPath?_of_dot {format : Format}
    (ends : path.EndsIn directory ("." ++ format.extension) ending) : ofPath? path = none := by
  obtain ⟨telling, plain, _⟩ := format.extension_plain
  have named : isIdle ("." ++ format.extension) = false := by
    simpa using isIdle_named "" telling
  cases found : ofPath? path with
  | none => rfl
  | some accepted =>
      obtain ⟨stem, stemNamed, same⟩ := (ofPath?_of_endsIn ends named).mp found
      exact absurd same (FilePath.not_named_of_dot plain stemNamed)

end Respelled

/-- The format of a path is the extension of its last component, behind a stem. A path without one
is refused as it was given. An accepted path stays so in every directory and with every idle ending,
and is refused with its extension respelled or its stem left out. -/
theorem ofPath?_decided_by_lastComponent (path : FilePath) :
    (∀ format, ofPath? path = some format ↔
        ∃ stem : String, stem ≠ "" ∧ path.lastComponent = stem ++ "." ++ format.extension) ∧
      (ofPath? path = none → ∀ {m : Type → Type} [Monad m] (access : FileAccess m),
        access.loadSnapshot path = pure ([], .error (.unknownFormat path))) ∧
      ∀ format, ofPath? path = some format →
        (∀ outer : String, ofPath? ⟨outer ++ "/" ++ path.text⟩ = some format) ∧
        (∀ more : String, IsIdleEnding more.toList → ofPath? ⟨path.text ++ more⟩ = some format) ∧
        ∃ directory stem ending : String, stem ≠ "" ∧
          path.EndsIn directory (stem ++ "." ++ format.extension) ending ∧
          (∀ written : String, written.toLower = format.extension → written ≠ format.extension →
            ofPath? ⟨directory ++ (stem ++ "." ++ written) ++ ending⟩ = none) ∧
          ofPath? ⟨directory ++ ("." ++ format.extension) ++ ending⟩ = none := by
  refine ⟨fun format => ofPath?_eq_some_iff, ?_, ?_⟩
  · intro refused m _ access
    rw [FileAccess.loadSnapshot, refused]
  · intro format accepted
    obtain ⟨telling, _, noSlash, _⟩ := format.extension_plain
    obtain ⟨stem, named, last⟩ := ofPath?_eq_some_iff.mp accepted
    obtain ⟨directory, ending, ends, _⟩ := path.exists_endsIn_lastComponent
    rw [last] at ends
    have kept := isIdle_named stem telling
    refine ⟨fun outer => ?_, fun more idle => ?_, directory, stem, ending, named, ends, ?_, ?_⟩
    · exact (ofPath?_of_endsIn (ends.inDirectory outer) kept).mpr ⟨stem, named, rfl⟩
    · exact (ofPath?_of_endsIn (ends.withEnding idle) kept).mpr ⟨stem, named, rfl⟩
    · intro written respelled other
      refine ofPath?_of_respelled named (ends.renamed ?_) respelled other
      have stemPlain := ends.plain
      simp only [String.toList_append, List.mem_append, not_or] at stemPlain ⊢
      exact ⟨stemPlain.1, (not_mem_of_toLower respelled).2⟩
    · refine ofPath?_of_dot (ends.renamed ?_)
      rw [String.toList_append, List.mem_append, not_or]
      exact ⟨by decide, noSlash⟩

/-- A stem with dots, in a directory with a dot, and an idle ending. -/
theorem ofPath?_of_dotted_stem :
    let path : FilePath := ⟨"exports/v1.2/.snapshot.yaml.json//./"⟩
    ofPath? path = some .json ∧ ofPath? ⟨"/srv" ++ "/" ++ path.text⟩ = some .json ∧
      ofPath? ⟨path.text ++ "/./."⟩ = some .json ∧
      ∃ directory stem ending : String,
        path.EndsIn directory (stem ++ "." ++ "json") ending ∧
        ofPath? ⟨directory ++ (stem ++ "." ++ "Json") ++ ending⟩ = none := by
  intro path
  have accepted : ofPath? path = some .json := by decide +kernel
  obtain ⟨_, _, stable⟩ := ofPath?_decided_by_lastComponent path
  obtain ⟨inDirectory, withEnding, directory, stem, ending, _, ends, respelled, _⟩ :=
    stable .json accepted
  have idle : IsIdleEnding "/./.".toList := .dot (.dot .nil)
  exact ⟨accepted, inDirectory "/srv", withEnding "/./." idle, directory, stem, ending, ends,
    respelled "Json" (by decide +kernel) (by decide)⟩

end Format

end SnapshotTypes
