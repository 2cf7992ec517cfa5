import SnapshotTypes.Proofs.Json.Simulation

/-!
# Records on the texts of a value

Two shapes that agree slot by slot agree on every text of an object or a list. Entries that the
record does not have are skipped on the text and passed over on the value.
-/

set_option autoImplicit false

namespace SnapshotTypes.Json

open Document

section Shapes

variable {α δ : Type} {shape : RecordShape (List Char) Fault δ α}
  {onTree : RecordShape Tree Unit δ α}

structure SimulatesSlot (slot : Slot (List Char) Fault δ) (onTree : Slot Tree Unit δ) : Prop where
  key : slot.key = onTree.key
  isFilled : slot.isFilled = onTree.isFilled
  reads : Simulates slot.read onTree.read

structure SimulatesShape (shape : RecordShape (List Char) Fault δ α)
    (onTree : RecordShape Tree Unit δ α) : Prop where
  slots : List.Forall₂ SimulatesSlot shape.slots onTree.slots
  blank : shape.blank = onTree.blank
  finish : shape.finish = onTree.finish

theorem SimulatesShape.slot? (simulates : SimulatesShape shape onTree) (key : String) :
    (shape.slot? key = none ∧ onTree.slot? key = none) ∨
      ∃ slot other, shape.slot? key = some slot ∧ onTree.slot? key = some other ∧
        SimulatesSlot slot other := by
  have pairs := simulates.slots
  unfold RecordShape.slot?
  generalize shape.slots = slots at pairs ⊢
  generalize onTree.slots = others at pairs ⊢
  induction pairs with
  | nil => exact .inl ⟨rfl, rfl⟩
  | @cons slot other slots others pair pairs ih =>
      by_cases same : slot.key = key
      · have sameOther : other.key = key := pair.key ▸ same
        exact .inr ⟨slot, other, List.find?_cons_of_pos (decide_eq_true same),
          List.find?_cons_of_pos (decide_eq_true sameOther), pair⟩
      · have notOther : other.key ≠ key := pair.key ▸ same
        rw [List.find?_cons_of_neg (by simp [same]), List.find?_cons_of_neg (by simp [notOther])]
        exact ih

/-!
## Lists as records
-/

/-- What was read in a list, with the text after its closing bracket. -/
def inList (outcome : Except Fault (δ × List Char)) : Except Fault (δ × List Char) :=
  match outcome with
  | .error fault => .error fault
  | .ok (draft, rest) =>
    match closeList rest with
    | .error fault => .error fault
    | .ok rest => .ok (draft, rest)

theorem agrees_positions {slots : List (Slot (List Char) Fault δ)}
    {others : List (Slot Tree Unit δ)} (pairs : List.Forall₂ SimulatesSlot slots others)
    {elements : List Tree} {body : List Char} {opened : Bool}
    (separated : Separated Written opened elements body) {position : Nat}
    (start : decide (position = 0) = opened) (draft : δ) (rest : List Char) :
    Agrees rest (fillPositions others elements draft)
      (inList (readPositions shape slots position draft (body ++ ']' :: rest))) := by
  induction pairs generalizing elements body opened position draft with
  | nil =>
      rw [readPositions]
      cases elements with
      | nil =>
          simp only [inList, closeList_closer separated.areBlanks]
          exact .value draft
      | cons tree elements =>
          -- More elements than slots: the reader is done, and the list cannot be closed here.
          obtain ⟨fault, failed⟩ := closeList_separated_cons separated rest
          simp only [inList, failed]
          exact .fault fault
  | @cons slot other slots others pair pairs ih =>
      rw [readPositions, start]
      cases elements with
      | nil =>
          -- More slots than elements.
          rw [nextElement_closer separated.areBlanks]
          exact .fault _
      | cons tree elements =>
          obtain ⟨text, later, written, separated, _, next⟩ := nextElement_separated separated
          have agrees : Agrees (later ++ ']' :: rest) (valueOf? other.read tree)
              (within (.index position) (slot.read (text ++ (later ++ ']' :: rest)))) :=
            .within (pair.reads written areBlanks_nil (separated.isDelimited (by decide) rest)) _
          rw [next, fillPositions]
          rcases agrees with ⟨worth, fault, failed⟩ | ⟨complete, worth, read⟩
          · simp only [worth, failed]
            exact .fault fault
          · simp only [worth, read]
            exact @ih elements later false separated (position + 1) rfl (complete draft)

/-!
## Objects as records
-/

theorem afterObject_closer {gap : List Char} (blanks : AreBlanks gap) (rest : List Char) :
    afterObject (gap ++ '}' :: rest) = rest := by
  rw [afterObject, skipBlanks_append_cons blanks (by decide)]
  rfl

theorem readKey_closer {gap : List Char} (blanks : AreBlanks gap) (first : Bool)
    (rest : List Char) : readKey first (gap ++ '}' :: rest) = .ok none := by
  rw [readKey, nextKey, skipBlanks_append_cons blanks (by decide)]
  rfl

theorem readKey_first {before : List Char} (blanks : AreBlanks before) (key : String)
    (rest : List Char) :
    readKey true (before ++ ((Text.quoted key).toList ++ rest)) = .ok (some (key, rest)) := by
  have read := readString_escaped key rest
  rw [Text.quoted_toList, List.cons_append, List.append_assoc, List.singleton_append, readKey,
    nextKey, skipBlanks_append_cons blanks (by decide)]
  simp [read, within]

theorem readKey_comma {gap before : List Char} (gapBlanks : AreBlanks gap)
    (blanks : AreBlanks before) (key : String) (rest : List Char) :
    readKey false (gap ++ ',' :: (before ++ ((Text.quoted key).toList ++ rest))) =
      .ok (some (key, rest)) := by
  have read := readString_escaped key rest
  rw [Text.quoted_toList, List.cons_append, List.append_assoc, List.singleton_append, readKey,
    nextKey, skipBlanks_append_cons gapBlanks (by decide)]
  simp [skipBlanks_append_cons blanks, isBlank, read, within]

/-- The next key of an object is found whether it is the first one or stands after a comma. -/
theorem readKey_separated {entry : String × Tree} {entries : List (String × Tree)}
    {body : List Char} {opened : Bool}
    (separated : Separated WrittenEntry opened (entry :: entries) body) :
    ∃ gap before text later, AreBlanks gap ∧ AreBlanks before ∧ Written entry.2 text ∧
      Separated WrittenEntry false entries later ∧ later.length < body.length ∧
      ∀ rest, readKey opened (body ++ '}' :: rest) =
        .ok (some (entry.1, gap ++ ':' :: (before ++ (text ++ (later ++ '}' :: rest))))) := by
  cases separated with
  | @first _ _ outer text later blanks written separated =>
      obtain ⟨gapBlanks, beforeBlanks, value⟩ := written
      refine ⟨_, _, _, later, gapBlanks, beforeBlanks, value, separated, ?_, fun rest => ?_⟩
      · simp only [List.length_append, List.length_cons]
        omega
      · simpa using readKey_first blanks _ _
  | @next _ _ outerGap outer text later outerBlanks blanks written separated =>
      obtain ⟨gapBlanks, beforeBlanks, value⟩ := written
      refine ⟨_, _, _, later, gapBlanks, beforeBlanks, value, separated, ?_, fun rest => ?_⟩
      · simp only [List.length_append, List.length_cons]
        omega
      · simpa using readKey_comma outerBlanks blanks _ _

/-- An entry completes the draft if the record has its key, and is passed over otherwise. -/
theorem agrees_entry (simulates : SimulatesShape shape onTree) (key : String) {tree : Tree}
    {gap before text rest : List Char} (gapBlanks : AreBlanks gap) (blanks : AreBlanks before)
    (written : Written tree text) (delimited : IsDelimited rest) (draft : δ) :
    Agrees rest (fillEntry onTree draft (key, tree))
      (readEntry shape key draft (gap ++ ':' :: (before ++ (text ++ rest)))) := by
  rw [fillEntry, readEntry]
  rcases simulates.slot? key with ⟨unknown, unknownOther⟩ | ⟨slot, other, known, knownOther, pair⟩
  · simp only [unknown, unknownOther, readColon_gap gapBlanks,
      skipValue_written written blanks delimited, within]
    exact .value draft
  · simp only [known, knownOther, pair.isFilled]
    cases other.isFilled draft with
    | true => exact .fault _
    | false =>
        have agrees := (pair.reads written blanks delimited).within (.key key)
        simp only [readColon_gap gapBlanks]
        rcases agrees with ⟨worth, fault, failed⟩ | ⟨complete, worth, read⟩
        · simp only [worth, failed]
          exact .fault fault
        · simp only [worth, read]
          exact .value (complete draft)

theorem agrees_entries (simulates : SimulatesShape shape onTree)
    {entries : List (String × Tree)} {body : List Char} {opened : Bool}
    (separated : Separated WrittenEntry opened entries body) {budget : List Char}
    (enough : body.length < budget.length) (draft : δ) (rest : List Char) :
    ∃ gap, AreBlanks gap ∧
      Agrees (gap ++ '}' :: rest) (entries.foldlM (fillEntry onTree) draft)
        (readEntries shape budget opened draft (body ++ '}' :: rest)) := by
  induction entries generalizing body opened budget draft with
  | nil =>
      obtain ⟨c, budget, rfl⟩ := List.exists_cons_of_length_pos (Nat.zero_lt_of_lt enough)
      have blanks := separated.areBlanks
      refine ⟨body, blanks, ?_⟩
      rw [readEntries, readKey_closer blanks]
      exact .value draft
  | cons entry entries ih =>
      obtain ⟨c, budget, rfl⟩ := List.exists_cons_of_length_pos (Nat.zero_lt_of_lt enough)
      obtain ⟨key, tree⟩ := entry
      obtain ⟨gap, before, text, later, gapBlanks, blanks, written, separated, shorter, next⟩ :=
        readKey_separated separated
      have enoughLater : later.length < budget.length := by
        rw [List.length_cons] at enough
        omega
      have delimited : IsDelimited (later ++ '}' :: rest) :=
        separated.isDelimited (by decide) rest
      have agrees := agrees_entry simulates key gapBlanks blanks written delimited draft
      rw [readEntries, next, List.foldlM_cons]
      rcases agrees with ⟨worth, fault, failed⟩ | ⟨draft, worth, read⟩
      · simp only [worth, failed]
        -- Nothing is left of a failed reading, so any gap will do.
        exact ⟨[], areBlanks_nil, .fault fault⟩
      · simp only [worth, read]
        exact ih separated enoughLater draft

/-!
## Records
-/

theorem SimulatesShape.finished (simulates : SimulatesShape shape onTree) (draft : δ)
    (rest : List Char) : Agrees rest (finished? onTree draft) (finishRecord shape draft rest) := by
  rw [finished?, finishRecord, simulates.finish]
  cases onTree.finish draft with
  | error key => exact .fault _
  | ok value => exact .value value

theorem readRecord_object {before : List Char} (blanks : AreBlanks before) (text : List Char) :
    readRecord shape (before ++ '{' :: text) =
      match readEntries shape ('{' :: text) true shape.blank text with
      | .error fault => .error fault
      | .ok (draft, rest) => finishRecord shape draft (afterObject rest) := by
  rw [readRecord, skipBlanks_append_cons blanks (by decide)]
  rfl

theorem readRecord_list {before : List Char} (blanks : AreBlanks before) (text : List Char) :
    readRecord shape (before ++ '[' :: text) =
      match inList (readPositions shape shape.slots 0 shape.blank text) with
      | .error fault => .error fault
      | .ok (draft, rest) => finishRecord shape draft rest := by
  rw [readRecord, skipBlanks_append_cons blanks (by decide)]
  simp only [inList, if_neg (by decide : '[' ≠ '{'), if_pos]
  cases readPositions shape shape.slots 0 shape.blank text with
  | error fault => rfl
  | ok result =>
      obtain ⟨draft, left⟩ := result
      dsimp only
      cases closeList left <;> rfl

theorem SimulatesShape.record (simulates : SimulatesShape shape onTree) :
    Simulates (readRecord shape) (treeNotations.record onTree) := by
  intro tree text before rest written blanks _
  obtain ⟨c, more, spelled, begins⟩ := written.eq_cons
  rw [valueOf?_record]
  cases tree with
  | object entries =>
      cases written with
      | @object entries body separated =>
          have enough : body.length < ('{' :: (body ++ '}' :: rest)).length := by
            simp only [List.length_cons, List.length_append]
            omega
          obtain ⟨gap, gapBlanks, agrees⟩ :=
            agrees_entries simulates separated enough shape.blank rest
          rw [List.cons_append, List.append_assoc, List.singleton_append,
            readRecord_object blanks, record?, ← simulates.blank]
          rcases agrees with ⟨worth, fault, failed⟩ | ⟨draft, worth, read⟩
          · simp only [worth, failed]
            exact .fault fault
          · simp only [worth, read, afterObject_closer gapBlanks]
            exact simulates.finished draft rest
  | list elements =>
      cases written with
      | @list elements body separated =>
          have agrees : Agrees rest (fillPositions onTree.slots elements shape.blank)
              (inList (readPositions shape shape.slots 0 shape.blank (body ++ ']' :: rest))) :=
            agrees_positions simulates.slots separated rfl shape.blank rest
          rw [List.cons_append, List.append_assoc, List.singleton_append,
            readRecord_list blanks, record?, ← simulates.blank]
          rcases agrees with ⟨worth, fault, failed⟩ | ⟨draft, worth, read⟩
          · simp only [worth, failed]
            exact .fault fault
          · simp only [worth, read]
            exact simulates.finished draft rest
  | _ =>
      subst spelled
      have noBrace : c ≠ '{' := begins.ne_of (by simp [Tree.BeginsWith])
      have noBracket : c ≠ '[' := begins.ne_of (by simp [Tree.BeginsWith])
      rw [List.cons_append, readRecord, skipBlanks_append_cons blanks begins.not_blank]
      simp only [if_neg noBrace, if_neg noBracket]
      exact .fault _

end Shapes

/-!
## The records of a snapshot
-/

theorem simulates_collection :
    SimulatesShape (collectionShape notations) (collectionShape treeNotations) :=
  ⟨.cons ⟨rfl, rfl, simulates_text.map _⟩ .nil, rfl, rfl⟩

theorem simulates_schema : SimulatesShape (schemaShape notations) (schemaShape treeNotations) :=
  ⟨.cons ⟨rfl, rfl, simulates_flag.optional.map _⟩ .nil, rfl, rfl⟩

theorem simulates_field : SimulatesShape (fieldShape notations) (fieldShape treeNotations) :=
  ⟨.cons ⟨rfl, rfl, simulates_text.map _⟩ <|
    .cons ⟨rfl, rfl, simulates_text.map _⟩ <|
    .cons ⟨rfl, rfl, simulates_text.map _⟩ <|
    .cons ⟨rfl, rfl, simulates_schema.record.optional.map _⟩ .nil, rfl, rfl⟩

theorem simulates_snapshot :
    SimulatesShape (snapshotShape notations) (snapshotShape treeNotations) :=
  ⟨.cons ⟨rfl, rfl, simulates_collection.record.list.map _⟩ <|
    .cons ⟨rfl, rfl, simulates_field.record.list.map _⟩ .nil, rfl, rfl⟩

end SnapshotTypes.Json
