import SnapshotTypes.Proofs.Json.Leads
import SnapshotTypes.Proofs.Json.RecordSimulation

/-!
# Paths of faults

A fault within a list or an object gets the step that leads to it, and nothing that was read before
adds a step. So where a text has a value that a reader refuses, the path of the fault is the one
that leads to the value, and what stands behind the value is never looked at.
-/

set_option autoImplicit false

namespace SnapshotTypes.Json

open Document

/-!
## Refused values
-/

theorem mismatchAt_path (expected : String) (text : List Char) :
    (mismatchAt expected text).path = [] := by
  unfold mismatchAt
  dsimp only
  split
  · rfl
  · next c rest =>
    split_ifs
    · split
      · next failed => exact faultsHere_readWord _ _ _ failed
      · rfl
    · split
      · next failed => exact faultsHere_readWord _ _ _ failed
      · rfl
    · split
      · next failed => exact faultsHere_readWord _ _ _ failed
      · rfl
    · split
      · next failed => exact faultsHere_readNumber _ _ _ failed
      · rfl
    · split
      · next failed => exact faultsHere_readNumber _ _ _ failed
      · rfl
    · split
      · next failed => exact faultsHere_readString _ _ failed
      · rfl
    · rfl
    · rfl
    · rfl

section Readers

variable {α β δ : Type} {value : Tree} {path : Path} {kind : Kind} {text : List Char}

def FailsAt (path : Path) (outcome : Except Fault α) : Prop :=
  ∃ fault, outcome = .error fault ∧ fault.path = path

theorem FailsAt.within {outcome : Except Fault α} (fails : FailsAt path outcome) (step : Step) :
    FailsAt (step :: path) (Json.within step outcome) := by
  obtain ⟨fault, rfl, rfl⟩ := fails
  exact ⟨_, rfl, rfl⟩

theorem FailsAt.map {reader : JsonReader α} (fails : FailsAt path (reader text))
    (change : α → β) : FailsAt path (reader.map change text) := by
  obtain ⟨fault, failed, here⟩ := fails
  rw [Reader.map, failed]
  exact ⟨fault, rfl, here⟩

/-- The complaint of a reader is about the value itself, whatever stands behind the text. -/
def Refuses (reader : JsonReader α) (text : List Char) : Prop :=
  ∀ ⦃before : List Char⦄ (rest : List Char), AreBlanks before →
    FailsAt [] (reader (before ++ (text ++ rest)))

theorem Refuses.map {reader : JsonReader α} (refuses : Refuses reader text) (change : α → β) :
    Refuses (reader.map change) text :=
  fun _ rest blanks => (refuses rest blanks).map change

/-- The first character tells that the value is of another kind than expected. -/
theorem Refuses.of_mismatch {reader : JsonReader α} (expected : String)
    (begins : BeginsLike kind text)
    (refuses : ∀ ⦃before : List Char⦄ ⦃tree : Tree⦄ ⦃c : Char⦄ (rest : List Char),
      AreBlanks before → tree.kind = kind → tree.BeginsWith c →
      reader (before ++ c :: rest) = .error (mismatchAt expected (c :: rest))) :
    Refuses reader text := by
  intro before rest blanks
  cases begins with
  | char isKind begins =>
      exact ⟨_, refuses (_ ++ rest) blanks isKind begins, mismatchAt_path expected _⟩

theorem refuses_readText (begins : BeginsLike kind text) (otherKind : kind ≠ .text) :
    Refuses readText text := by
  refine .of_mismatch expectedText begins fun before tree c rest blanks isKind begins => ?_
  have noQuote : c ≠ '"' := begins.ne_of (by cases tree <;> simp_all [Tree.BeginsWith, Tree.kind])
  rw [readText, skipBlanks_append_cons blanks begins.not_blank]
  simp only [if_neg noQuote]

theorem refuses_readFlag (begins : BeginsLike kind text) (otherKind : kind ≠ .boolean) :
    Refuses readFlag text := by
  refine .of_mismatch expectedFlag begins fun before tree c rest blanks isKind begins => ?_
  have noTrue : c ≠ 't' := begins.ne_of (by cases tree <;> simp_all [Tree.BeginsWith, Tree.kind])
  have noFalse : c ≠ 'f' := begins.ne_of (by cases tree <;> simp_all [Tree.BeginsWith, Tree.kind])
  rw [readFlag, skipBlanks_append_cons blanks begins.not_blank]
  simp only [if_neg noTrue, if_neg noFalse]

theorem refuses_readList (reader : JsonReader α) (begins : BeginsLike kind text)
    (otherKind : kind ≠ .list) : Refuses (readList reader) text := by
  refine .of_mismatch expectedList begins fun before tree c rest blanks isKind begins => ?_
  have noBracket : c ≠ '[' := begins.ne_of (by cases tree <;> simp_all [Tree.BeginsWith, Tree.kind])
  rw [readList, skipBlanks_append_cons blanks begins.not_blank]
  simp only [if_neg noBracket]

theorem refuses_readRecord (shape : RecordShape (List Char) Fault δ α)
    (begins : BeginsLike kind text) (noList : kind ≠ .list) (noObject : kind ≠ .object) :
    Refuses (readRecord shape) text := by
  refine .of_mismatch shape.expected begins fun before tree c rest blanks isKind begins => ?_
  have noBracket : c ≠ '[' := begins.ne_of (by cases tree <;> simp_all [Tree.BeginsWith, Tree.kind])
  have noBrace : c ≠ '{' := begins.ne_of (by cases tree <;> simp_all [Tree.BeginsWith, Tree.kind])
  rw [readRecord, skipBlanks_append_cons blanks begins.not_blank]
  simp only [if_neg noBracket, if_neg noBrace]

theorem failsAt_readOptional {reader : JsonReader α} {before : List Char}
    (blanks : AreBlanks before) (begins : BeginsLike kind text) (notNull : kind ≠ .null)
    (fails : FailsAt path (reader text)) : FailsAt path (readOptional reader (before ++ text)) := by
  obtain ⟨fault, failed, here⟩ := fails
  cases begins with
  | @char tree c rest isKind begins =>
      have noNull : c ≠ 'n' :=
        begins.ne_of (by cases tree <;> simp_all [Tree.BeginsWith, Tree.kind])
      rw [readOptional, skipBlanks_append_cons blanks begins.not_blank]
      simp only [if_neg noNull, failed]
      exact ⟨fault, rfl, here⟩

theorem Refuses.optional {reader : JsonReader α} (refuses : Refuses reader text)
    (begins : BeginsLike kind text) (notNull : kind ≠ .null) :
    Refuses (readOptional reader) text :=
  fun _ rest blanks =>
    failsAt_readOptional blanks (begins.append rest) notNull (refuses rest areBlanks_nil)

/-!
## Valid values with another text in them
-/

/-- Where a text of a valid value has another text in the place of the value that a path leads to, a
reader fails with this path, whatever stands behind. -/
def Locates (reader : JsonReader α) (onTree : TreeReader α) (path : Path) (value : Tree)
    (text : List Char) : Prop :=
  ∀ ⦃tree : Tree⦄ ⦃worth : α⦄ ⦃before lead : List Char⦄ (rest : List Char),
    valueOf? onTree tree = some worth → AreBlanks before → Leads tree path value lead →
      FailsAt path (reader (before ++ (lead ++ (text ++ rest))))

theorem Locates.of_valid {reader : JsonReader α} {onTree : TreeReader α}
    (refuses : ∀ worth, valueOf? onTree value = some worth → Refuses reader text) :
    Locates reader onTree [] value text := by
  intro tree worth before lead rest valid blanks leads
  cases leads with
  | here => exact refuses worth valid rest blanks

theorem Refuses.locates {reader : JsonReader α} (refuses : Refuses reader text)
    (onTree : TreeReader α) (value : Tree) : Locates reader onTree [] value text :=
  .of_valid fun _ _ => refuses

theorem Locates.map {reader : JsonReader α} {onTree : TreeReader α}
    (locates : Locates reader onTree path value text) (change : α → β) :
    Locates (reader.map change) (onTree.map change) path value text := by
  intro tree worth before lead rest valid blanks leads
  rw [valueOf?_map] at valid
  obtain ⟨inner, validInner, rfl⟩ := Option.map_eq_some_iff.mp valid
  exact (locates rest validInner blanks leads).map change

theorem Locates.optional {reader : JsonReader α} {onTree : TreeReader α} {step : Step}
    (locates : Locates reader onTree (step :: path) value text) :
    Locates (readOptional reader) (treeNotations.optional onTree) (step :: path) value text := by
  intro tree worth before lead rest valid blanks leads
  have begins : BeginsLike tree.kind (lead ++ (text ++ rest)) ∧ tree.kind ≠ .null := by
    cases leads with
    | element => exact ⟨.char rfl rfl, Kind.noConfusion⟩
    | entry => exact ⟨.char rfl rfl, Kind.noConfusion⟩
  have isValue : tree ≠ .null := fun isNull => begins.2 (isNull ▸ rfl)
  rw [treeNotations, valueOf?_giving, nullable?_of_ne_null isValue] at valid
  obtain ⟨inner, validInner, rfl⟩ := Option.map_eq_some_iff.mp valid
  exact failsAt_readOptional blanks begins.1 begins.2
    (locates rest validInner areBlanks_nil leads)

/-!
## Lists
-/

theorem Introduces.failsAt_elements {reader : JsonReader α} {onTree : TreeReader α}
    (simulates : Simulates reader onTree) {earlier : List Tree} {introduction : List Char}
    {opened : Bool} (introduces : Introduces Written opened earlier introduction)
    (valid : ∀ element ∈ earlier, ∃ worth, valueOf? onTree element = some worth) {position : Nat}
    (start : decide (position = 0) = opened) {budget : List Char}
    (enough : introduction.length < budget.length) (begins : BeginsLike kind text)
    (fails : FailsAt path (reader text)) :
    FailsAt (.index (position + earlier.length) :: path)
      (readElements reader budget position (introduction ++ text)) := by
  induction introduces generalizing position budget with
  | here isGap =>
      obtain ⟨d, budget, rfl⟩ := List.exists_cons_of_length_pos (Nat.zero_lt_of_lt enough)
      obtain ⟨fault, failed, here⟩ := fails.within (.index position)
      cases begins with
      | char _ begins =>
          rw [readElements, start, nextElement_gap isGap begins]
          simp only [failed]
          exact ⟨fault, rfl, here⟩
  | @after opened element elements gap own later isGap written introduces ih =>
      obtain ⟨d, budget, rfl⟩ := List.exists_cons_of_length_pos (Nat.zero_lt_of_lt enough)
      obtain ⟨⟨first, worth⟩, others⟩ := List.forall_mem_cons.mp valid
      have enoughLater : later.length < budget.length := by
        simp only [List.length_append, List.length_cons] at enough
        have positive := written.length_pos
        omega
      have read : reader (own ++ (later ++ text)) = .ok (first, later ++ text) :=
        (simulates written areBlanks_nil (introduces.isDelimited text)).eq_ok worth
      obtain ⟨fault, failed, here⟩ := @ih others (position + 1) rfl budget enoughLater
      obtain ⟨c, more, rfl, beginsOwn⟩ := written.eq_cons
      rw [List.cons_append] at read
      rw [readElements, start, List.append_assoc, List.append_assoc, List.cons_append,
        nextElement_gap isGap beginsOwn]
      simp only [read, within, failed]
      refine ⟨fault, rfl, here.trans ?_⟩
      rw [List.length_cons, Nat.add_assoc, Nat.add_comm 1]

theorem exists_valueOf?_of_mapM {onTree : TreeReader α} {elements : List Tree} {values : List α}
    (valid : elements.mapM (valueOf? onTree) = some values) :
    ∀ element ∈ elements, ∃ worth, valueOf? onTree element = some worth := by
  induction elements generalizing values with
  | nil => exact List.forall_mem_nil _
  | cons element elements ih =>
      rw [List.mapM_cons] at valid
      obtain ⟨first, validFirst, valid⟩ := Option.bind_eq_some_iff.mp valid
      obtain ⟨later, validLater, -⟩ := Option.bind_eq_some_iff.mp valid
      exact List.forall_mem_cons.mpr ⟨⟨first, validFirst⟩, ih validLater⟩

/-- The step in a list is the number of elements before the value. -/
theorem Locates.list {reader : JsonReader α} {onTree : TreeReader α}
    (simulates : Simulates reader onTree) (begins : BeginsLike kind text)
    (locates : Locates reader onTree path value text) (position : Nat) :
    Locates (readList reader) (treeNotations.list onTree) (.index position :: path) value text := by
  intro tree worth before lead rest valid blanks leads
  cases leads with
  | @element _ earlier later element _ _ introduction lead split introduces leads =>
      subst split
      rw [treeNotations, valueOf?_giving] at valid
      have each := exists_valueOf?_of_mapM valid
      obtain ⟨inner, worth⟩ := each element (by simp)
      obtain ⟨whole, beginsWhole⟩ := leads.beginsLike (begins.append rest)
      have start : decide ((0 : Nat) = 0) = true := rfl
      have enough : introduction.length <
          ('[' :: (introduction ++ (lead ++ (text ++ rest)))).length := by
        simp only [List.length_cons, List.length_append]
        omega
      obtain ⟨fault, failed, here⟩ := introduces.failsAt_elements simulates
        (fun element member => each element (List.mem_append_left _ member)) start enough
        beginsWhole (locates rest worth areBlanks_nil leads)
      rw [Nat.zero_add] at here
      rw [List.cons_append, List.append_assoc, readList, skipBlanks_append_cons blanks (by decide)]
      simp only [if_pos, failed]
      exact ⟨fault, rfl, here⟩

/-!
## Objects
-/

variable {shape : RecordShape (List Char) Fault δ α} {onTree : RecordShape Tree Unit δ α}

theorem readKey_gap {opened : Bool} {gap : List Char} (isGap : Gap opened gap) (key : String)
    (rest : List Char) :
    readKey opened (gap ++ ((Text.quoted key).toList ++ rest)) = .ok (some (key, rest)) := by
  cases isGap with
  | first blanks => exact readKey_first blanks key rest
  | next gapBlanks blanks =>
      rw [List.append_assoc, List.cons_append]
      exact readKey_comma gapBlanks blanks key rest

theorem Introduces.failsAt_entries (simulates : SimulatesShape shape onTree)
    {earlier : List (String × Tree)} {introduction : List Char} {opened : Bool}
    (introduces : Introduces WrittenEntry opened earlier introduction) {draft final : δ}
    (filled : earlier.foldlM (fillEntry onTree) draft = some final) {budget : List Char}
    (enough : introduction.length < budget.length) {key : String} {rest : List Char}
    (fails : FailsAt path (readEntry shape key final rest)) :
    FailsAt path (readEntries shape budget opened draft
      (introduction ++ ((Text.quoted key).toList ++ rest))) := by
  induction introduces generalizing draft budget with
  | here isGap =>
      obtain ⟨d, budget, rfl⟩ := List.exists_cons_of_length_pos (Nat.zero_lt_of_lt enough)
      obtain rfl := Option.some.inj filled
      obtain ⟨fault, failed, here⟩ := fails
      rw [readEntries, readKey_gap isGap]
      simp only [failed]
      exact ⟨fault, rfl, here⟩
  | @after opened entry entries gap own later isGap written introduces ih =>
      obtain ⟨d, budget, rfl⟩ := List.exists_cons_of_length_pos (Nat.zero_lt_of_lt enough)
      rw [List.foldlM_cons] at filled
      obtain ⟨next, filledFirst, filledLater⟩ := Option.bind_eq_some_iff.mp filled
      cases written with
      | @entry own tree gap before text gapBlanks blanks written =>
          have enoughLater : later.length < budget.length := by
            simp only [List.length_append, List.length_cons] at enough
            omega
          obtain ⟨fault, failed, here⟩ := ih filledLater enoughLater
          have delimited := introduces.isDelimited ((Text.quoted key).toList ++ rest)
          have read :=
            (agrees_entry simulates own gapBlanks blanks written delimited draft).eq_ok filledFirst
          rw [readEntries, List.append_assoc, List.append_assoc, List.append_assoc,
            readKey_gap isGap, List.append_assoc, List.cons_append, List.append_assoc]
          simp only [read, failed]
          exact ⟨fault, rfl, here⟩

/-- The value of a key that a draft takes is valid, and the draft has no value of the key yet. -/
theorem fillEntry_eq_some {key : String} {slot : Slot Tree Unit δ} {tree : Tree} {draft next : δ}
    (known : onTree.slot? key = some slot)
    (filled : fillEntry onTree draft (key, tree) = some next) :
    slot.isFilled draft = false ∧ ∃ complete, valueOf? slot.read tree = some complete := by
  rw [fillEntry, known] at filled
  cases isFilled : slot.isFilled draft with
  | true => simp [isFilled] at filled
  | false =>
      simp only [isFilled, Bool.false_eq_true, if_false] at filled
      obtain ⟨complete, valid, -⟩ := Option.map_eq_some_iff.mp filled
      exact ⟨rfl, complete, valid⟩

theorem FailsAt.readEntry {key : String} {slot : Slot (List Char) Fault δ}
    (known : shape.slot? key = some slot) {draft : δ} (notFilled : slot.isFilled draft = false)
    {gap text : List Char} (blanks : AreBlanks gap) (fails : FailsAt path (slot.read text)) :
    FailsAt (.key key :: path) (readEntry shape key draft (gap ++ ':' :: text)) := by
  obtain ⟨fault, failed, here⟩ := fails.within (.key key)
  rw [Json.readEntry, known]
  simp only [notFilled, readColon_gap blanks, failed]
  exact ⟨fault, rfl, here⟩

/-- The step in an object is the key, whatever entries come before it. -/
theorem Locates.record (simulates : SimulatesShape shape onTree) {key : String}
    {slot : Slot (List Char) Fault δ} {slotOnTree : Slot Tree Unit δ}
    (known : shape.slot? key = some slot) (knownOnTree : onTree.slot? key = some slotOnTree)
    (sameFilled : slot.isFilled = slotOnTree.isFilled)
    (locates : Locates slot.read slotOnTree.read path value text) :
    Locates (readRecord shape) (treeNotations.record onTree) (.key key :: path) value text := by
  intro tree worth before lead rest valid blanks leads
  cases leads with
  | @entry _ earlier later _ tree _ _ introduction gap inner lead split introduces gapBlanks
      innerBlanks leads =>
      subst split
      rw [valueOf?_record, record?] at valid
      obtain ⟨final, filled, -⟩ := Option.bind_eq_some_iff.mp valid
      -- The earlier entries give a draft that the entry itself completes.
      rw [List.foldlM_append] at filled
      obtain ⟨draft, filledEarlier, filledLater⟩ := Option.bind_eq_some_iff.mp filled
      rw [List.foldlM_cons] at filledLater
      obtain ⟨next, filledOwn, -⟩ := Option.bind_eq_some_iff.mp filledLater
      obtain ⟨notFilled, complete, valid⟩ := fillEntry_eq_some knownOnTree filledOwn
      have fails := locates rest valid innerBlanks leads
      have failsEntry := fails.readEntry known (sameFilled ▸ notFilled) gapBlanks
      rw [← simulates.blank] at filledEarlier
      have enough : introduction.length < ('{' :: (introduction ++ ((Text.quoted key).toList ++
          (gap ++ ':' :: (inner ++ (lead ++ (text ++ rest))))))).length := by
        simp only [List.length_cons, List.length_append]
        omega
      obtain ⟨fault, failed, here⟩ :=
        introduces.failsAt_entries simulates filledEarlier enough failsEntry
      rw [List.cons_append, readRecord_object blanks]
      simp only [List.append_assoc, List.cons_append, failed]
      exact ⟨fault, rfl, here⟩

/-- An object without a key gets no step for it, for the complaint comes when it has been closed. -/
theorem Refuses.lacking (simulates : SimulatesShape shape onTree)
    {entries : List (String × Tree)} {draft : δ} {key : String}
    (filled : entries.foldlM (fillEntry onTree) onTree.blank = some draft)
    (missing : onTree.finish draft = .error key) (written : Written (.object entries) text) :
    Refuses (readRecord shape) text := by
  intro before rest blanks
  cases written with
  | @object _ body separated =>
      have enough : body.length < ('{' :: (body ++ '}' :: rest)).length := by
        simp only [List.length_cons, List.length_append]
        omega
      obtain ⟨gap, gapBlanks, agrees⟩ := agrees_entries simulates separated enough shape.blank rest
      rw [simulates.blank] at agrees
      have read := agrees.eq_ok filled
      rw [List.cons_append, List.append_assoc, List.singleton_append, readRecord_object blanks,
        simulates.blank, read]
      simp only [finishRecord, simulates.finish, missing]
      exact ⟨_, rfl, rfl⟩

end Readers

end SnapshotTypes.Json
