import SnapshotTypes.Json.Reading
import SnapshotTypes.Proofs.Json.Skipping
import SnapshotTypes.Proofs.Json.TreeReading

/-!
# Readers on the texts of a value

However a value is written, every reader gives on the text what its counterpart gives on the value,
and stops right after it. Where the counterpart gives nothing, the reader complains.
-/

set_option autoImplicit false

namespace SnapshotTypes.Json

open Document

section Agreement

variable {α β : Type} {rest : List Char}

/-- What a reader gives on a text that ends at `rest`, against what the value there is worth. -/
def Agrees (rest : List Char) (worth : Option α) (outcome : Except Fault (α × List Char)) : Prop :=
  (worth = none ∧ ∃ fault, outcome = .error fault) ∨
    ∃ value, worth = some value ∧ outcome = .ok (value, rest)

theorem Agrees.fault (fault : Fault) : Agrees rest (none : Option α) (.error fault) :=
  .inl ⟨rfl, fault, rfl⟩

theorem Agrees.value (value : α) : Agrees rest (some value) (.ok (value, rest)) :=
  .inr ⟨value, rfl, rfl⟩

theorem Agrees.eq_ok {worth : Option α} {outcome : Except Fault (α × List Char)} {value : α}
    (agrees : Agrees rest worth outcome) (valid : worth = some value) :
    outcome = .ok (value, rest) := by
  rcases agrees with ⟨nothing, -⟩ | ⟨other, same, read⟩
  · cases nothing.symm.trans valid
  · obtain rfl := Option.some.inj (same.symm.trans valid)
    exact read

/-- A reader and its counterpart on values. -/
def Simulates (reader : JsonReader α) (onTree : TreeReader α) : Prop :=
  ∀ ⦃tree : Tree⦄ ⦃text before rest : List Char⦄, Written tree text → AreBlanks before →
    IsDelimited rest → Agrees rest (valueOf? onTree tree) (reader (before ++ (text ++ rest)))

theorem Agrees.within {worth : Option α} {outcome : Except Fault (α × List Char)}
    (agrees : Agrees rest worth outcome) (step : Step) :
    Agrees rest worth (Json.within step outcome) := by
  rcases agrees with ⟨rfl, fault, rfl⟩ | ⟨value, rfl, rfl⟩
  · exact .fault _
  · exact .value value

theorem Simulates.map {reader : JsonReader α} {onTree : TreeReader α}
    (simulates : Simulates reader onTree) (change : α → β) :
    Simulates (reader.map change) (onTree.map change) := by
  intro tree text before rest written blanks delimited
  rw [valueOf?_map, Reader.map]
  rcases simulates written blanks delimited with ⟨worth, fault, failed⟩ | ⟨value, worth, read⟩
  · rw [worth, failed]
    exact .fault fault
  · rw [worth, read]
    exact .value (change value)

end Agreement

/-!
## Scalars
-/

theorem simulates_text : Simulates readText treeNotations.text := by
  intro tree text before rest written blanks _
  obtain ⟨c, more, spelled, begins⟩ := written.eq_cons
  cases tree with
  | text value =>
      cases written
      rw [Text.quoted_toList, List.cons_append, List.append_assoc, List.singleton_append, readText,
        skipBlanks_append_cons blanks (by decide)]
      exact .inr ⟨value, rfl, readString_escaped value rest⟩
  | _ =>
      subst spelled
      have noQuote : c ≠ '"' := begins.ne_of (by simp [Tree.BeginsWith])
      rw [List.cons_append, readText, skipBlanks_append_cons blanks begins.not_blank]
      simp only [if_neg noQuote]
      exact .fault _

theorem simulates_flag : Simulates readFlag treeNotations.flag := by
  intro tree text before rest written blanks _
  obtain ⟨c, more, spelled, begins⟩ := written.eq_cons
  cases tree with
  | boolean value =>
      cases written with
      | true =>
          rw [List.cons_append, readFlag, skipBlanks_append_cons blanks (by decide)]
          exact .value _
      | false =>
          rw [List.cons_append, readFlag, skipBlanks_append_cons blanks (by decide)]
          exact .value _
  | _ =>
      subst spelled
      have noTrue : c ≠ 't' := begins.ne_of (by simp [Tree.BeginsWith])
      have noFalse : c ≠ 'f' := begins.ne_of (by simp [Tree.BeginsWith])
      rw [List.cons_append, readFlag, skipBlanks_append_cons blanks begins.not_blank]
      simp only [if_neg noTrue, if_neg noFalse]
      exact .fault _

theorem Simulates.optional {α : Type} {reader : JsonReader α} {onTree : TreeReader α}
    (simulates : Simulates reader onTree) :
    Simulates (readOptional reader) (treeNotations.optional onTree) := by
  intro tree text before rest written blanks delimited
  obtain ⟨c, more, spelled, begins⟩ := written.eq_cons
  rw [treeNotations, valueOf?_giving]
  by_cases isNull : tree = .null
  · subst isNull
    cases written
    rw [List.cons_append, readOptional, skipBlanks_append_cons blanks (by decide)]
    exact .value none
  · have noNull : c ≠ 'n' := by
      refine begins.ne_of fun startsNull => isNull ?_
      cases tree <;> simp_all [Tree.BeginsWith]
    subst spelled
    rw [List.cons_append, readOptional, skipBlanks_append_cons blanks begins.not_blank,
      nullable?_of_ne_null isNull]
    simp only [if_neg noNull]
    rcases simulates written areBlanks_nil delimited with
      ⟨worth, fault, failed⟩ | ⟨value, worth, read⟩
    · rw [List.nil_append, List.cons_append] at failed
      rw [worth, failed]
      exact .fault fault
    · rw [List.nil_append, List.cons_append] at read
      rw [worth, read]
      exact .value (some value)

/-!
## Lists
-/

theorem nextElement_closer {gap : List Char} (blanks : AreBlanks gap) (first : Bool)
    (rest : List Char) : nextElement first (gap ++ ']' :: rest) = .ok none := by
  rw [nextElement, skipBlanks_append_cons blanks (by decide)]
  rfl

/-- The next element of a list is found whether it is the first one or stands after a comma. -/
theorem nextElement_gap {opened : Bool} {gap : List Char} (isGap : Gap opened gap) {tree : Tree}
    {c : Char} (begins : tree.BeginsWith c) (rest : List Char) :
    nextElement opened (gap ++ c :: rest) = .ok (some (c :: rest)) := by
  cases isGap with
  | first blanks =>
      rw [nextElement, skipBlanks_append_cons blanks begins.not_blank]
      simp [begins.ne_closer]
  | next gapBlanks blanks =>
      rw [List.append_assoc, List.cons_append, nextElement,
        skipBlanks_append_cons gapBlanks (by decide)]
      simp [skipBlanks_append_cons blanks begins.not_blank, begins.ne_closer]

theorem nextElement_separated {tree : Tree} {elements : List Tree} {body : List Char}
    {opened : Bool} (separated : Separated Written opened (tree :: elements) body) :
    ∃ text later, Written tree text ∧ Separated Written false elements later ∧
      later.length < body.length ∧
      ∀ rest, nextElement opened (body ++ ']' :: rest) =
        .ok (some (text ++ (later ++ ']' :: rest))) := by
  cases separated with
  | @first _ _ before text later blanks written separated =>
      obtain ⟨c, more, rfl, begins⟩ := written.eq_cons
      refine ⟨_, later, written, separated, ?_, fun rest => ?_⟩
      · simp only [List.length_append, List.length_cons]
        omega
      · rw [List.append_assoc, List.append_assoc, List.cons_append]
        exact nextElement_gap (.first blanks) begins _
  | @next _ _ gap before text later gapBlanks blanks written separated =>
      obtain ⟨c, more, rfl, begins⟩ := written.eq_cons
      refine ⟨_, later, written, separated, ?_, fun rest => ?_⟩
      · simp only [List.length_append, List.length_cons]
        omega
      · have found :=
          nextElement_gap (.next gapBlanks blanks) begins (more ++ (later ++ ']' :: rest))
        simpa only [List.append_assoc, List.cons_append] using found

theorem closeList_closer {gap : List Char} (blanks : AreBlanks gap) (rest : List Char) :
    closeList (gap ++ ']' :: rest) = .ok rest := by
  rw [closeList, skipBlanks_append_cons blanks (by decide)]
  rfl

/-- A list is not closed before one of its elements. -/
theorem closeList_separated_cons {element : Tree} {elements : List Tree} {body : List Char}
    {opened : Bool} (separated : Separated Written opened (element :: elements) body)
    (rest : List Char) : ∃ fault, closeList (body ++ ']' :: rest) = .error fault := by
  cases separated with
  | first blanks written _ =>
      obtain ⟨c, more, rfl, begins⟩ := written.eq_cons
      rw [List.append_assoc, List.append_assoc, List.cons_append, closeList,
        skipBlanks_append_cons blanks begins.not_blank]
      simp [begins.ne_closer, begins.ne_comma]
  | next gapBlanks blanks written _ =>
      obtain ⟨c, more, rfl, begins⟩ := written.eq_cons
      rw [List.append_assoc, List.cons_append, closeList,
        skipBlanks_append_cons gapBlanks (by decide)]
      simp only [List.append_assoc, List.cons_append,
        skipBlanks_append_cons blanks begins.not_blank]
      exact ⟨_, rfl⟩

/-- The elements of a list are read one by one up to its closing bracket. -/
theorem agrees_elements {α : Type} {reader : JsonReader α} {onTree : TreeReader α}
    (simulates : Simulates reader onTree) {elements : List Tree} {body : List Char} {opened : Bool}
    (separated : Separated Written opened elements body) {position : Nat}
    (start : decide (position = 0) = opened) {budget : List Char}
    (enough : body.length < budget.length) (rest : List Char) :
    ∃ gap, AreBlanks gap ∧
      Agrees (gap ++ ']' :: rest) (elements.mapM (valueOf? onTree))
        (readElements reader budget position (body ++ ']' :: rest)) := by
  induction elements generalizing body opened position budget with
  | nil =>
      obtain ⟨c, budget, rfl⟩ := List.exists_cons_of_length_pos (Nat.zero_lt_of_lt enough)
      have blanks := separated.areBlanks
      refine ⟨body, blanks, ?_⟩
      rw [readElements, nextElement_closer blanks]
      exact .value []
  | cons tree elements ih =>
      obtain ⟨c, budget, rfl⟩ := List.exists_cons_of_length_pos (Nat.zero_lt_of_lt enough)
      obtain ⟨text, later, written, separated, shorter, next⟩ := nextElement_separated separated
      have enoughLater : later.length < budget.length := by
        rw [List.length_cons] at enough
        omega
      obtain ⟨gap, blanks, agreesLater⟩ := @ih later false separated (position + 1) rfl budget
        enoughLater
      have agrees : Agrees (later ++ ']' :: rest) (valueOf? onTree tree)
          (within (.index position) (reader (text ++ (later ++ ']' :: rest)))) :=
        .within (simulates written areBlanks_nil (separated.isDelimited (by decide) rest)) _
      refine ⟨gap, blanks, ?_⟩
      rw [readElements, start, next, List.mapM_cons]
      rcases agrees with ⟨worth, fault, failed⟩ | ⟨value, worth, read⟩
      · simp only [worth, failed]
        exact .fault fault
      · rcases agreesLater with ⟨worths, fault, failed⟩ | ⟨values, worths, readLater⟩
        · simp only [worth, read, worths, failed]
          exact .fault fault
        · simp only [worth, read, worths, readLater]
          exact .value (value :: values)

theorem Simulates.list {α : Type} {reader : JsonReader α} {onTree : TreeReader α}
    (simulates : Simulates reader onTree) :
    Simulates (readList reader) (treeNotations.list onTree) := by
  intro tree text before rest written blanks delimited
  obtain ⟨c, more, spelled, begins⟩ := written.eq_cons
  rw [treeNotations, valueOf?_giving]
  cases tree with
  | list elements =>
      cases written with
      | @list elements body separated =>
          have start : decide ((0 : Nat) = 0) = true := rfl
          have enough : body.length < ('[' :: (body ++ ']' :: rest)).length := by
            simp only [List.length_cons, List.length_append]
            omega
          obtain ⟨gap, gapBlanks, agrees⟩ := agrees_elements simulates separated start enough rest
          rw [List.cons_append, List.append_assoc, List.singleton_append, readList,
            skipBlanks_append_cons blanks (by decide), elements?]
          simp only [if_pos]
          rcases agrees with ⟨worth, fault, failed⟩ | ⟨values, worth, read⟩
          · rw [worth, failed]
            exact .fault fault
          · simp only [worth, read, closeList_closer gapBlanks]
            exact .value values
  | _ =>
      subst spelled
      have noBracket : c ≠ '[' := begins.ne_of (by simp [Tree.BeginsWith])
      rw [List.cons_append, readList, skipBlanks_append_cons blanks begins.not_blank]
      simp only [if_neg noBracket]
      exact .fault _

end SnapshotTypes.Json
