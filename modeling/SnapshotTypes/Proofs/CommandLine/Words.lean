import SnapshotTypes.CommandLine.Reading

/-!
# Words of a command line

A reading amounts to the settings that it has once the pending value takes effect. Each word or pair
of words that gives an argument changes one of these settings and leaves the others, and it does not
matter whether a value was pending before.
-/

set_option autoImplicit false

namespace SnapshotTypes.CommandLine

/-- A word that is no option: a path that can be given as it is. -/
structure IsValue (word : String) : Prop where
  nonempty : word ≠ ""
  undashed : word.toList.head? ≠ some '-'

instance (word : String) : Decidable (IsValue word) :=
  decidable_of_iff (word ≠ "" ∧ word.toList.head? ≠ some '-')
    ⟨fun given => ⟨given.1, given.2⟩, fun given => ⟨given.nonempty, given.undashed⟩⟩

/-- What a command line sets, without regard to the words it is set by. -/
structure Settings where
  schemaFile : Option String
  outFile : Option String
  useNamespace : Bool
  verbosity : Nat

namespace Reading

def settings (reading : Reading) : Settings :=
  ⟨reading.schemaFile, reading.outFile, reading.useNamespace, reading.verbosity⟩

/-- The reading could end here with certain settings, and its next word may be an option. -/
structure AmountsTo (reading : Reading) (settings : Settings) : Prop where
  beforeMark : reading.afterMark = false
  settles : ∃ idle, reading.settled = .ok idle ∧ idle.settings = settings

/-!
## What is pending
-/

theorem settled_eq_self {reading : Reading} (nothing : reading.pending = none) :
    reading.settled = .ok reading := by
  obtain ⟨schemaFile, outFile, useNamespace, verbosity, used, pending, afterMark⟩ := reading
  subst nothing
  rfl

theorem amountsTo_settings {reading : Reading} (nothing : reading.pending = none)
    (beforeMark : reading.afterMark = false) : reading.AmountsTo reading.settings :=
  ⟨beforeMark, reading, settled_eq_self nothing, rfl⟩

/-- What a reading has in common with what it settles to. -/
theorem settled_eq_ok {reading idle : Reading} (settles : reading.settled = .ok idle) :
    idle.pending = none ∧ idle.afterMark = reading.afterMark ∧
      reading.hasSchemaFile = idle.schemaFile.isSome ∧
      reading.pending ≠ some (.outFile none) := by
  obtain ⟨schemaFile, outFile, useNamespace, verbosity, used, pending, afterMark⟩ := reading
  cases pending with
  | none =>
      obtain rfl := Except.ok.inj settles
      exact ⟨rfl, rfl, rfl, nofun⟩
  | some awaited =>
      cases awaited with
      | schemaFile value =>
          simp only [settled, resolve] at settles
          split at settles
          · cases settles
          · obtain rfl := Except.ok.inj settles
            exact ⟨rfl, rfl, rfl, nofun⟩
      | outFile value =>
          cases value with
          | none => cases settles
          | some value =>
              simp only [settled, resolve, takeOutFile] at settles
              split at settles
              · cases settles
              · split at settles
                · cases settles
                · obtain rfl := Except.ok.inj settles
                  exact ⟨rfl, rfl, rfl, nofun⟩

/-- The state that every word starts from. -/
theorem AmountsTo.exists_idle {reading : Reading} {settings : Settings}
    (amounts : reading.AmountsTo settings) :
    ∃ idle, reading.settled = .ok idle ∧ idle.settings = settings ∧ idle.pending = none ∧
      idle.afterMark = false := by
  obtain ⟨idle, settles, same⟩ := amounts.settles
  obtain ⟨nothing, mark, _⟩ := settled_eq_ok settles
  exact ⟨idle, settles, same, nothing, mark.trans amounts.beforeMark⟩

/-!
## Forms of words
-/

section Forms

variable {reading : Reading} (beforeMark : reading.afterMark = false)
include beforeMark

theorem word_of_isValue {value : String} (isValue : IsValue value) :
    reading.word value = reading.value value := by
  rw [word, beforeMark, if_neg Bool.false_ne_true]
  have undashed := isValue.undashed
  split
  · next spelled => exact absurd (by rw [spelled]; rfl) undashed
  · next spelled => exact absurd (by rw [spelled]; rfl) undashed
  · next spelled => exact absurd (by rw [spelled]; rfl) undashed
  · rfl

theorem word_of_cluster (more : List Char) :
    reading.word (String.ofList ('-' :: 'v' :: more)) = reading.letters ('v' :: more) := by
  rw [word, beforeMark, if_neg Bool.false_ne_true, String.toList_ofList]
  rfl

theorem word_of_attached (value : String) :
    reading.word ("--out-file=" ++ value) = reading.attachOutFile value := by
  have spelled : ("--out-file=" ++ value).toList = "--out-file=".toList ++ value.toList :=
    String.toList_append
  have attached : reading.word ("--out-file=" ++ value) =
      reading.attachOutFile (String.ofList value.toList) := by
    rw [word, beforeMark, if_neg Bool.false_ne_true, spelled]
    rfl
  rw [attached, String.ofList_toList]

theorem word_useNamespace_letter : reading.word "-n" = reading.flag .useNamespace := by
  have clustered : reading.word "-n" = reading.letters ['n'] := by
    rw [word, beforeMark, if_neg Bool.false_ne_true]
    rfl
  have named : Argument.ofLetter? 'n' = some .useNamespace := by decide
  rw [clustered, letters, named]
  cases flagged : reading.flag .useNamespace <;> simp only [letters, flagged]

theorem word_useNamespace_name : reading.word "--use-namespace" = reading.flag .useNamespace := by
  rw [word, beforeMark, if_neg Bool.false_ne_true]
  rfl

theorem word_verbose_name : reading.word "--verbose" = reading.flag .verbose := by
  rw [word, beforeMark, if_neg Bool.false_ne_true]
  rfl

theorem word_outFile_letter : reading.word "-o" = reading.expectOutFile := by
  rw [word, beforeMark, if_neg Bool.false_ne_true]
  rfl

theorem word_outFile_name : reading.word "--out-file" = reading.expectOutFile := by
  rw [word, beforeMark, if_neg Bool.false_ne_true]
  rfl

end Forms

/-!
## Arguments
-/

namespace AmountsTo

variable {reading : Reading} {settings : Settings} (amounts : reading.AmountsTo settings)
include amounts

theorem flag_verbose :
    ∃ next, reading.flag .verbose = .ok next ∧
      next.AmountsTo { settings with
        verbosity := min (settings.verbosity + 1) highestVerbosity } := by
  obtain ⟨idle, settles, rfl, nothing, beforeMark⟩ := amounts.exists_idle
  rw [flag, settles]
  exact ⟨_, rfl, amountsTo_settings nothing beforeMark⟩

theorem flag_useNamespace (unused : settings.useNamespace = false) :
    ∃ next, reading.flag .useNamespace = .ok next ∧
      next.AmountsTo { settings with useNamespace := true } := by
  obtain ⟨idle, settles, rfl, nothing, beforeMark⟩ := amounts.exists_idle
  have fresh : idle.useNamespace = false := unused
  rw [flag, settles]
  dsimp only
  rw [fresh, if_neg Bool.false_ne_true]
  exact ⟨_, rfl, amountsTo_settings nothing beforeMark⟩

/-- Letters of one cluster count one by one, and not beyond the bound. -/
theorem letters_verbose (more : Nat) :
    ∃ next, reading.letters (List.replicate (more + 1) 'v') = .ok next ∧
      next.AmountsTo { settings with
        verbosity := min (settings.verbosity + (more + 1)) highestVerbosity } := by
  have verbose : Argument.ofLetter? 'v' = some .verbose := by decide
  induction more generalizing reading settings with
  | zero =>
      obtain ⟨next, flagged, becomes⟩ := amounts.flag_verbose
      refine ⟨next, ?_, becomes⟩
      simp only [List.replicate, letters, verbose, flagged]
  | succ more ih =>
      obtain ⟨next, flagged, becomes⟩ := amounts.flag_verbose
      obtain ⟨last, read, final⟩ := ih becomes
      refine ⟨last, ?_, ?_⟩
      · rw [List.replicate_succ, letters.eq_def]
        simp only [verbose, flagged, read]
      · have counted : min (min (settings.verbosity + 1) highestVerbosity + (more + 1))
            highestVerbosity = min (settings.verbosity + (more + 1 + 1)) highestVerbosity := by
          omega
        rw [← counted]
        exact final

theorem attachOutFile {value : String} (isValue : IsValue value)
    (unset : settings.outFile = none) :
    ∃ next, reading.attachOutFile value = .ok next ∧
      next.AmountsTo { settings with outFile := some value } := by
  obtain ⟨idle, settles, rfl, nothing, beforeMark⟩ := amounts.exists_idle
  have free : idle.outFile = none := unset
  rw [Reading.attachOutFile, settles]
  simp only [takeOutFile, free, Option.isSome_none, Bool.false_eq_true, if_false,
    if_neg isValue.nonempty]
  exact ⟨_, rfl, amountsTo_settings nothing beforeMark⟩

/-- A value in a word of its own is kept until the reading settles again. -/
theorem expectOutFile {value : String} (isValue : IsValue value)
    (unset : settings.outFile = none) :
    ∃ awaiting next, reading.expectOutFile = .ok awaiting ∧ awaiting.word value = .ok next ∧
      next.AmountsTo { settings with outFile := some value } := by
  obtain ⟨idle, settles, rfl, nothing, beforeMark⟩ := amounts.exists_idle
  have free : idle.outFile = none := unset
  let awaiting := { idle with pending := some (.outFile none) }
  let next := { idle with pending := some (.outFile (some value)) }
  have awaitsBeforeMark : awaiting.afterMark = false := beforeMark
  have stored : awaiting.word value = .ok next := word_of_isValue awaitsBeforeMark isValue
  refine ⟨awaiting, next, by rw [Reading.expectOutFile, settles], stored, beforeMark, ?_⟩
  simp only [next, settled, resolve, takeOutFile, free, Option.isSome_none, Bool.false_eq_true,
    if_false, if_neg isValue.nonempty]
  exact ⟨_, rfl, rfl⟩

theorem positional {value : String} (isValue : IsValue value)
    (unset : settings.schemaFile = none) :
    ∃ next, reading.word value = .ok next ∧
      next.AmountsTo { settings with schemaFile := some value } := by
  obtain ⟨idle, settles, rfl, nothing, beforeMark⟩ := amounts.exists_idle
  have free : idle.schemaFile = none := unset
  obtain ⟨_, _, has, notAwaited⟩ := settled_eq_ok settles
  have absent : reading.hasSchemaFile = false := by
    rw [has, free]
    rfl
  have placed : reading.value value = reading.positional value := by
    rw [Reading.value]
    split
    · next awaited => exact absurd awaited notAwaited
    · rfl
  let next := { idle with pending := some (.schemaFile value) }
  refine ⟨next, ?_, beforeMark, ?_⟩
  · rw [word_of_isValue amounts.beforeMark isValue, placed, Reading.positional, absent,
      if_neg Bool.false_ne_true, settles]
  · simp only [next, settled, resolve, if_neg isValue.nonempty]
    exact ⟨_, rfl, rfl⟩

end AmountsTo

end Reading

end SnapshotTypes.CommandLine
