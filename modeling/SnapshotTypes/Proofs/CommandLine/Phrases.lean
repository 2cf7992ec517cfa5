import SnapshotTypes.Proofs.CommandLine.Words
import Mathlib.Data.List.Perm.Basic
import Mathlib.Algebra.BigOperators.Group.List.Basic
import Mathlib.Algebra.GroupWithZero.Nat

/-!
# Command lines by their phrases

A phrase is an argument with all its words. A command line with the schema file and no argument
twice is understood whatever the order and the spelling of its phrases. Its options are those the
phrases give, and the verbosity is their number of `v` up to a bound.
-/

set_option autoImplicit false

namespace SnapshotTypes.CommandLine

/-- One argument of a command line, in one of its spellings. -/
inductive Phrase where
  | schemaFile (path : String)
  | outFileLetter (path : String)
  | outFileName (path : String)
  | outFileAttached (path : String)
  | useNamespaceLetter
  | useNamespaceName
  /-- One letter, and more in the same cluster. -/
  | verboseLetters (more : Nat)
  | verboseName
deriving DecidableEq, Repr

namespace Phrase

def words : Phrase → List String
  | schemaFile path => [path]
  | outFileLetter path => ["-o", path]
  | outFileName path => ["--out-file", path]
  | outFileAttached path => ["--out-file=" ++ path]
  | useNamespaceLetter => ["-n"]
  | useNamespaceName => ["--use-namespace"]
  | verboseLetters more => [String.ofList ('-' :: List.replicate (more + 1) 'v')]
  | verboseName => ["--verbose"]

def schemaFile? : Phrase → Option String
  | schemaFile path => some path
  | _ => none

def outFile? : Phrase → Option String
  | outFileLetter path | outFileName path | outFileAttached path => some path
  | _ => none

def asksNamespace : Phrase → Bool
  | useNamespaceLetter | useNamespaceName => true
  | _ => false

def verbosity : Phrase → Nat
  | verboseLetters more => more + 1
  | verboseName => 1
  | _ => 0

end Phrase

/-- Phrases whose paths can be given as they are, with no argument twice that must not be repeated.
-/
structure AreDistinct (phrases : List Phrase) : Prop where
  values : ∀ phrase ∈ phrases, ∀ path ∈ phrase.schemaFile?.or phrase.outFile?, IsValue path
  schemaFile : (phrases.filterMap Phrase.schemaFile?).length ≤ 1
  outFile : (phrases.filterMap Phrase.outFile?).length ≤ 1
  useNamespace : phrases.countP Phrase.asksNamespace ≤ 1

theorem AreDistinct.left {first second : List Phrase} (distinct : AreDistinct (first ++ second)) :
    AreDistinct first := by
  obtain ⟨values, schemaFile, outFile, useNamespace⟩ := distinct
  rw [List.filterMap_append, List.length_append] at schemaFile outFile
  rw [List.countP_append] at useNamespace
  exact ⟨fun phrase member => values phrase (List.mem_append_left second member), by omega,
    by omega, by omega⟩

theorem AreDistinct.perm {first second : List Phrase} (distinct : AreDistinct first)
    (arranged : second.Perm first) : AreDistinct second := by
  obtain ⟨values, schemaFile, outFile, useNamespace⟩ := distinct
  refine ⟨fun phrase member => values phrase (arranged.mem_iff.mp member), ?_, ?_, ?_⟩
  · rwa [(arranged.filterMap _).length_eq]
  · rwa [(arranged.filterMap _).length_eq]
  · rwa [arranged.countP_eq]

/-!
## Settings of phrases
-/

namespace Settings

def ofPhrases (phrases : List Phrase) : Settings where
  schemaFile := phrases.findSome? Phrase.schemaFile?
  outFile := phrases.findSome? Phrase.outFile?
  useNamespace := phrases.any Phrase.asksNamespace
  verbosity := min (phrases.map Phrase.verbosity).sum highestVerbosity

theorem ofPhrases_concat (before : List Phrase) (phrase : Phrase) :
    ofPhrases (before ++ [phrase]) =
      ⟨(ofPhrases before).schemaFile.or phrase.schemaFile?,
        (ofPhrases before).outFile.or phrase.outFile?,
        (ofPhrases before).useNamespace || phrase.asksNamespace,
        min ((ofPhrases before).verbosity + phrase.verbosity) highestVerbosity⟩ := by
  have counted : min ((before.map Phrase.verbosity).sum + phrase.verbosity) highestVerbosity =
      min (min (before.map Phrase.verbosity).sum highestVerbosity + phrase.verbosity)
        highestVerbosity := by
    omega
  simp [ofPhrases, List.findSome?_append, counted]

end Settings

/-- What is given by a phrase that must not be repeated is not given before. -/
theorem AreDistinct.findSome?_eq_none {given : Phrase → Option String} {before : List Phrase}
    {phrase : Phrase} {path : String}
    (single : ((before ++ [phrase]).filterMap given).length ≤ 1)
    (gives : given phrase = some path) : before.findSome? given = none := by
  rw [List.filterMap_append, List.length_append, List.filterMap_cons_some gives,
    List.length_cons] at single
  have nothing : before.filterMap given = [] := List.eq_nil_of_length_eq_zero (by omega)
  rw [← List.head?_filterMap, nothing]
  rfl

theorem AreDistinct.any_asksNamespace_eq_false {before : List Phrase} {phrase : Phrase}
    (distinct : AreDistinct (before ++ [phrase])) (asks : phrase.asksNamespace = true) :
    before.any Phrase.asksNamespace = false := by
  have single := distinct.useNamespace
  rw [List.countP_append, List.countP_singleton, if_pos asks] at single
  have none : before.countP Phrase.asksNamespace = 0 := by omega
  rw [List.countP_eq_zero] at none
  simpa using none

namespace Reading

theorem words_append (reading : Reading) (first second : List String) :
    reading.words (first ++ second) =
      match reading.words first with
      | .error stop => .error stop
      | .ok after => after.words second := by
  induction first generalizing reading with
  | nil => rfl
  | cons next rest ih =>
      rw [List.cons_append, words, words]
      cases reading.word next with
      | error stop => rfl
      | ok after => exact ih after

theorem words_singleton {reading next : Reading} {word : String}
    (read : reading.word word = .ok next) : reading.words [word] = .ok next := by
  rw [words, read]
  rfl

theorem words_pair {reading awaiting next : Reading} {option value : String}
    (expects : reading.word option = .ok awaiting) (read : awaiting.word value = .ok next) :
    reading.words [option, value] = .ok next := by
  rw [words, expects]
  exact words_singleton read

section Phrases

variable {reading : Reading} {before : List Phrase}

/-- The settings after a phrase that does not count for the verbosity. -/
theorem amountsTo_ofPhrases_concat {phrase : Phrase} (quiet : phrase.verbosity = 0)
    (amounts : reading.AmountsTo
      ⟨(Settings.ofPhrases before).schemaFile.or phrase.schemaFile?,
        (Settings.ofPhrases before).outFile.or phrase.outFile?,
        (Settings.ofPhrases before).useNamespace || phrase.asksNamespace,
        (Settings.ofPhrases before).verbosity⟩) :
    reading.AmountsTo (Settings.ofPhrases (before ++ [phrase])) := by
  have bounded : (Settings.ofPhrases before).verbosity ≤ highestVerbosity := Nat.min_le_right _ _
  rw [Settings.ofPhrases_concat, quiet, Nat.add_zero, Nat.min_eq_left bounded]
  exact amounts

theorem AmountsTo.words_phrase {phrase : Phrase}
    (amounts : reading.AmountsTo (Settings.ofPhrases before))
    (distinct : AreDistinct (before ++ [phrase])) :
    ∃ next, reading.words phrase.words = .ok next ∧
      next.AmountsTo (Settings.ofPhrases (before ++ [phrase])) := by
  have beforeMark := amounts.beforeMark
  have isValue := distinct.values phrase (by simp)
  cases phrase with
  | schemaFile path =>
      have unset := AreDistinct.findSome?_eq_none distinct.schemaFile rfl
      obtain ⟨next, read, becomes⟩ := amounts.positional (isValue path rfl) unset
      refine ⟨next, words_singleton read, amountsTo_ofPhrases_concat rfl ?_⟩
      simpa [Settings.ofPhrases, unset, Phrase.schemaFile?, Phrase.outFile?, Phrase.asksNamespace]
        using becomes
  | outFileLetter path =>
      have unset := AreDistinct.findSome?_eq_none distinct.outFile rfl
      obtain ⟨awaiting, next, expects, read, becomes⟩ :=
        amounts.expectOutFile (isValue path rfl) unset
      refine ⟨next, words_pair ((word_outFile_letter beforeMark).trans expects) read,
        amountsTo_ofPhrases_concat rfl ?_⟩
      simpa [Settings.ofPhrases, unset, Phrase.schemaFile?, Phrase.outFile?, Phrase.asksNamespace]
        using becomes
  | outFileName path =>
      have unset := AreDistinct.findSome?_eq_none distinct.outFile rfl
      obtain ⟨awaiting, next, expects, read, becomes⟩ :=
        amounts.expectOutFile (isValue path rfl) unset
      refine ⟨next, words_pair ((word_outFile_name beforeMark).trans expects) read,
        amountsTo_ofPhrases_concat rfl ?_⟩
      simpa [Settings.ofPhrases, unset, Phrase.schemaFile?, Phrase.outFile?, Phrase.asksNamespace]
        using becomes
  | outFileAttached path =>
      have unset := AreDistinct.findSome?_eq_none distinct.outFile rfl
      obtain ⟨next, read, becomes⟩ := amounts.attachOutFile (isValue path rfl) unset
      refine ⟨next, words_singleton ((word_of_attached beforeMark path).trans read),
        amountsTo_ofPhrases_concat rfl ?_⟩
      simpa [Settings.ofPhrases, unset, Phrase.schemaFile?, Phrase.outFile?, Phrase.asksNamespace]
        using becomes
  | useNamespaceLetter =>
      have unused := distinct.any_asksNamespace_eq_false rfl
      obtain ⟨next, read, becomes⟩ := amounts.flag_useNamespace unused
      refine ⟨next, words_singleton ((word_useNamespace_letter beforeMark).trans read),
        amountsTo_ofPhrases_concat rfl ?_⟩
      simpa [Phrase.schemaFile?, Phrase.outFile?, Phrase.asksNamespace] using becomes
  | useNamespaceName =>
      have unused := distinct.any_asksNamespace_eq_false rfl
      obtain ⟨next, read, becomes⟩ := amounts.flag_useNamespace unused
      refine ⟨next, words_singleton ((word_useNamespace_name beforeMark).trans read),
        amountsTo_ofPhrases_concat rfl ?_⟩
      simpa [Phrase.schemaFile?, Phrase.outFile?, Phrase.asksNamespace] using becomes
  | verboseLetters more =>
      obtain ⟨next, read, becomes⟩ := amounts.letters_verbose more
      refine ⟨next, words_singleton ((word_of_cluster beforeMark _).trans read), ?_⟩
      rw [Settings.ofPhrases_concat]
      simpa [Phrase.schemaFile?, Phrase.outFile?, Phrase.asksNamespace, Phrase.verbosity]
        using becomes
  | verboseName =>
      obtain ⟨next, read, becomes⟩ := amounts.flag_verbose
      refine ⟨next, words_singleton ((word_verbose_name beforeMark).trans read), ?_⟩
      rw [Settings.ofPhrases_concat]
      simpa [Phrase.schemaFile?, Phrase.outFile?, Phrase.asksNamespace, Phrase.verbosity]
        using becomes

end Phrases

theorem AmountsTo.words_phrases {reading : Reading} {before phrases : List Phrase}
    (amounts : reading.AmountsTo (Settings.ofPhrases before))
    (distinct : AreDistinct (before ++ phrases)) :
    ∃ last, reading.words (phrases.flatMap Phrase.words) = .ok last ∧
      last.AmountsTo (Settings.ofPhrases (before ++ phrases)) := by
  induction phrases generalizing reading before with
  | nil => exact ⟨reading, rfl, by rwa [List.append_nil]⟩
  | cons phrase phrases ih =>
      rw [List.append_cons] at distinct ⊢
      obtain ⟨next, read, becomes⟩ := amounts.words_phrase distinct.left
      obtain ⟨last, later, final⟩ := ih becomes distinct
      refine ⟨last, ?_, final⟩
      rw [List.flatMap_cons, words_append, read]
      exact later

theorem AmountsTo.finish {reading : Reading} {settings : Settings} {path : String}
    (amounts : reading.AmountsTo settings) (given : settings.schemaFile = some path) :
    reading.finish = .ok ⟨⟨path⟩, (settings.outFile.map FilePath.mk).getD defaultOutFile,
      settings.useNamespace, settings.verbosity⟩ := by
  obtain ⟨idle, settles, rfl, _⟩ := amounts.exists_idle
  have present : idle.schemaFile = some path := given
  rw [Reading.finish, settles]
  simp only [present]
  rfl

end Reading

/-!
## Options of phrases
-/

/-- The levels of the log, from that of no verbosity on. -/
def logLevels : List Log.Level := [.warn, .info, .debug, .trace]

theorem logLevels_getElem? (options : Options) :
    logLevels[min options.verbosity 3]? = some options.logLevel := by
  obtain ⟨schemaFile, outFile, useNamespace, verbosity⟩ := options
  match verbosity with
  | 0 => rfl
  | 1 => rfl
  | 2 => rfl
  | verbosity + 3 =>
      rw [Nat.min_eq_right (Nat.le_add_left 3 verbosity)]
      rfl

theorem AreDistinct.findSome?_schemaFile {phrases : List Phrase} {path : String}
    (distinct : AreDistinct phrases) (given : .schemaFile path ∈ phrases) :
    phrases.findSome? Phrase.schemaFile? = some path := by
  have member : path ∈ phrases.filterMap Phrase.schemaFile? :=
    List.mem_filterMap.mpr ⟨_, given, rfl⟩
  have single := distinct.schemaFile
  rw [← List.head?_filterMap]
  match spelled : phrases.filterMap Phrase.schemaFile? with
  | [] => rw [spelled] at member; cases member
  | [only] =>
      rw [spelled, List.mem_singleton] at member
      rw [member]
      rfl
  | _ :: _ :: _ =>
      rw [spelled] at single
      exact absurd single (by simp)

/-- The order does not matter for what is given once. -/
theorem AreDistinct.findSome?_outFile_perm {first second : List Phrase}
    (distinct : AreDistinct first) (arranged : second.Perm first) :
    second.findSome? Phrase.outFile? = first.findSome? Phrase.outFile? := by
  have single := distinct.outFile
  have outputs := arranged.filterMap Phrase.outFile?
  rw [← List.head?_filterMap, ← List.head?_filterMap]
  match spelled : first.filterMap Phrase.outFile? with
  | [] => rw [spelled, List.perm_nil] at outputs; rw [outputs]
  | [only] => rw [spelled, List.perm_singleton] at outputs; rw [outputs]
  | _ :: _ :: _ =>
      rw [spelled] at single
      exact absurd single (by simp)

/-- A command line that gives the schema file, and no argument twice that must not be repeated, is
understood in every order of its phrases, and the options are those that the phrases give. However
often more output is asked for, the level of the log does not fall back. -/
theorem Options.parse_in_any_order {phrases : List Phrase} {path : String}
    (distinct : AreDistinct phrases) (given : .schemaFile path ∈ phrases) :
    let count := (phrases.map Phrase.verbosity).sum
    ∃ options : Options,
      (∀ arranged : List Phrase, arranged.Perm phrases →
        Options.parse (arranged.flatMap Phrase.words) = .ok options) ∧
      options.schemaFile = ⟨path⟩ ∧
      options.outFile = ((phrases.findSome? Phrase.outFile?).map FilePath.mk).getD ⟨"schema.ts"⟩ ∧
      options.useNamespace = phrases.any Phrase.asksNamespace ∧
      options.verbosity = min count 255 ∧
      logLevels[min count 3]? = some options.logLevel := by
  intro count
  let options : Options := ⟨⟨path⟩,
    ((phrases.findSome? Phrase.outFile?).map FilePath.mk).getD defaultOutFile,
    phrases.any Phrase.asksNamespace, min count highestVerbosity⟩
  refine ⟨options, ?_, rfl, rfl, rfl, rfl, ?_⟩
  · intro arranged order
    have starts : Reading.start.AmountsTo (Settings.ofPhrases []) :=
      Reading.amountsTo_settings rfl rfl
    have distinctToo := distinct.perm order
    obtain ⟨last, read, final⟩ := starts.words_phrases distinctToo
    have schemaFile := distinctToo.findSome?_schemaFile (order.mem_iff.mpr given)
    have outFile := distinct.findSome?_outFile_perm order
    have useNamespace := order.any_eq (f := Phrase.asksNamespace)
    have counted := (order.map Phrase.verbosity).sum_eq
    rw [Options.parse, read]
    dsimp only
    rw [final.finish schemaFile]
    simp only [Settings.ofPhrases, List.nil_append, outFile, useNamespace, counted, options, count]
  · rw [← logLevels_getElem?]
    have capped : min (min count highestVerbosity) 3 = min count 3 := by
      rw [highestVerbosity]
      omega
    rw [capped]

/-- Two clusters on both sides of an output option, whose path looks like an assignment. -/
theorem Options.parse_with_two_clusters :
    let phrases : List Phrase := [.verboseLetters 1, .outFileAttached "types=/out.ts",
      .schemaFile "snapshot.json", .verboseLetters 299, .useNamespaceLetter]
    AreDistinct phrases ∧ ∃ options : Options,
      Options.parse (phrases.reverse.flatMap Phrase.words) = .ok options ∧
      options.outFile = ⟨"types=/out.ts"⟩ ∧ options.verbosity = 255 ∧
      options.logLevel = .trace := by
  intro phrases
  have distinct : AreDistinct phrases := by
    refine ⟨?_, by decide, by decide, by decide⟩
    intro phrase member path gives
    simp only [phrases, List.mem_cons, List.not_mem_nil, or_false] at member
    rcases member with rfl | rfl | rfl | rfl | rfl <;> cases gives <;> decide
  have given : Phrase.schemaFile "snapshot.json" ∈ phrases := by decide
  obtain ⟨options, parsed, _, outFile, _, verbosity, level⟩ :=
    Options.parse_in_any_order distinct given
  refine ⟨distinct, options, parsed _ phrases.reverse_perm, outFile, verbosity, ?_⟩
  exact (Option.some.inj level).symm

end SnapshotTypes.CommandLine
