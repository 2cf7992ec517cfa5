import SnapshotTypes.Proofs.Json.TreeSnapshot
import SnapshotTypes.Proofs.Json.Locality
import SnapshotTypes.Proofs.Json.Truncation

/-!
# Text after the root value

Nothing is looked at beyond the bracket that closes the root value. The accepted texts are those
that begin with an accepted document, whatever comes after it.
-/

set_option autoImplicit false

namespace SnapshotTypes.Json

open Document

section Readers

variable {α β δ : Type} {text rest : List Char}

/-- A reader that sees what it takes and the next character only. -/
def IsLocal (reader : JsonReader α) : Prop :=
  ∀ ⦃text rest : List Char⦄ ⦃value : α⦄, reader text = .ok (value, rest) →
    Takes 1 reader text rest (value, ·)

/-!
## Scalars
-/

theorem isLocal_text : IsLocal readText := by
  intro text rest value read
  obtain ⟨inner, skipped, found⟩ := readText_eq_ok_iff.mp read
  exact (takes_readString found).of_skipBlanks skipped fun _ inner _ skipped passed =>
    readText_eq_ok_iff.mpr ⟨inner, skipped, passed⟩

theorem isLocal_flag : IsLocal readFlag := by
  intro text rest value read
  obtain ⟨inner, ⟨rfl, skipped, found⟩ | ⟨rfl, skipped, found⟩⟩ := readFlag_eq_ok_iff.mp read
  · exact (takes_readWord found).of_skipBlanks skipped fun _ inner _ skipped passed =>
      readFlag_eq_ok_iff.mpr ⟨inner, .inl ⟨rfl, skipped, passed⟩⟩
  · exact (takes_readWord found).of_skipBlanks skipped fun _ inner _ skipped passed =>
      readFlag_eq_ok_iff.mpr ⟨inner, .inr ⟨rfl, skipped, passed⟩⟩

theorem IsLocal.map {reader : JsonReader α} (isLocal : IsLocal reader) (change : α → β) :
    IsLocal (reader.map change) := by
  intro text rest value read
  obtain ⟨inner, found, rfl⟩ := map_eq_ok_iff.mp read
  exact (isLocal found).map fun _ _ passed => map_eq_ok_iff.mpr ⟨inner, passed, rfl⟩

theorem IsLocal.optional {reader : JsonReader α} (isLocal : IsLocal reader) :
    IsLocal (readOptional reader) := by
  intro text rest value read
  rcases readOptional_eq_ok_iff.mp read with
    ⟨rfl, inner, skipped, found⟩ | ⟨value, rfl, notNull, found⟩
  · exact (takes_readWord found).of_skipBlanks skipped fun _ inner _ skipped passed =>
      readOptional_eq_ok_iff.mpr (.inl ⟨rfl, inner, skipped, passed⟩)
  · cases skipped : skipBlanks text with
    | nil =>
        rw [skipped] at found
        obtain ⟨lead, split, one, -⟩ := isLocal found
        obtain ⟨rfl, -⟩ := List.append_eq_nil_iff.mp split.symm
        cases one
    | cons c later =>
        rw [skipped] at found notNull
        refine (isLocal found).uncons.of_skipBlanks skipped fun text left after skipped passed => ?_
        refine readOptional_eq_ok_iff.mpr (.inr ⟨value, rfl, ?_, ?_⟩)
        · rwa [skipped]
        · rwa [skipped]

/-!
## Lists
-/

theorem takes_nextElement {first : Bool} {later : List Char}
    (found : nextElement first text = .ok (some later)) :
    Takes 0 (nextElement first) text later some := by
  -- The element itself is left in the text, and its first character is the next one.
  obtain ⟨c, more, rfl, other, ⟨rfl, skipped⟩ | ⟨rfl, inner, skipped, next⟩⟩ :=
    nextElement_eq_some_iff.mp found
  · obtain ⟨gap, blanks, visible, rfl⟩ := exists_gap skipped
    refine ⟨gap, rfl, Nat.zero_le _, fun later alike => ?_⟩
    obtain ⟨more, rfl⟩ := List.head?_eq_some_iff.mp alike
    exact nextElement_eq_some_iff.mpr
      ⟨c, more, rfl, other, .inl ⟨rfl, skipBlanks_append_cons blanks visible more⟩⟩
  · obtain ⟨gap, blanks, visible, rfl⟩ := exists_gap skipped
    obtain ⟨before, blanksBefore, visibleNext, rfl⟩ := exists_gap next
    refine ⟨gap ++ ',' :: before, by simp, Nat.zero_le _, fun later alike => ?_⟩
    obtain ⟨more, rfl⟩ := List.head?_eq_some_iff.mp alike
    rw [List.append_assoc, List.cons_append]
    exact nextElement_eq_some_iff.mpr
      ⟨c, more, rfl, other, .inr ⟨rfl, _, skipBlanks_append_cons blanks visible _,
        skipBlanks_append_cons blanksBefore visibleNext more⟩⟩

/-- The elements of a list are taken up to the bracket that closes it. -/
theorem IsLocal.elements {reader : JsonReader α} (isLocal : IsLocal reader) {budget : List Char}
    {position : Nat} {values : List α}
    (read : readElements reader budget position text = .ok (values, rest)) :
    ∃ gap tail, AreBlanks gap ∧ rest = gap ++ ']' :: tail ∧
      TakesWithin (readElements reader · position) text (']' :: tail) (values, gap ++ ·) := by
  fun_induction readElements reader budget position text generalizing values with
  | case3 c budget position text closed =>
      obtain ⟨rfl, rfl⟩ := Prod.mk.inj (Except.ok.inj read)
      obtain ⟨tail, skipped⟩ := nextElement_eq_none_iff.mp closed
      obtain ⟨gap, blanks, -, rfl⟩ := exists_gap skipped
      refine ⟨gap, tail, blanks, rfl, gap, rfl, fun budget other enough alike => ?_⟩
      obtain ⟨more, rfl⟩ := List.head?_eq_some_iff.mp alike
      obtain ⟨d, budget, rfl⟩ := List.exists_cons_of_length_pos (Nat.zero_lt_of_lt enough)
      simp only [readElements, nextElement_closer blanks]
  | case6 c budget position text element next value left found values later final ih =>
      obtain ⟨rfl, rfl⟩ := Prod.mk.inj (Except.ok.inj read)
      obtain ⟨gap, tail, blanks, rfl, elements⟩ := ih final
      refine ⟨gap, tail, blanks, rfl, TakesWithin.cons (takes_nextElement next)
        (isLocal (eq_ok_of_within found)) (Nat.le_refl 1) elements ?_⟩
      intro c budget text element left after next found final
      simp only [readElements, next, found, within, final]
  | _ => cases read

theorem IsLocal.list {reader : JsonReader α} (isLocal : IsLocal reader) :
    IsLocal (readList reader) := by
  intro text rest values read
  obtain ⟨inner, left, skipped, found, closed⟩ := readList_eq_ok_iff.mp read
  obtain ⟨gap, tail, gapBlanks, rfl, lead, rfl, elements⟩ := isLocal.elements found
  rw [closeList_closer gapBlanks] at closed
  obtain rfl := Except.ok.inj closed
  obtain ⟨before, blanks, visible, rfl⟩ := exists_gap skipped
  refine ⟨before ++ '[' :: (lead ++ [']']), by simp, List.length_pos_iff.mpr (by simp),
    fun other _ => readList_eq_ok_iff.mpr ⟨lead ++ ']' :: other, gap ++ ']' :: other, ?_, ?_, ?_⟩⟩
  · simp [skipBlanks_append_cons blanks visible]
  · refine elements _ _ ?_ rfl
    simp only [List.length_cons, List.length_append]
    omega
  · exact closeList_closer gapBlanks other

/-!
## Records
-/

variable {shape : RecordShape (List Char) Fault δ α}

theorem takes_readPositions {slots : List (Slot (List Char) Fault δ)}
    (isLocal : ∀ slot ∈ slots, IsLocal slot.read) {position : Nat} {draft final : δ}
    (read : readPositions shape slots position draft text = .ok (final, rest)) :
    Takes 0 (readPositions shape slots position draft) text rest (final, ·) := by
  induction slots generalizing position draft text with
  | nil =>
      obtain ⟨rfl, rfl⟩ := Prod.mk.inj (Except.ok.inj read)
      exact ⟨[], rfl, Nat.zero_le _, fun _ _ => rfl⟩
  | cons slot slots ih =>
      obtain ⟨own, others⟩ := List.forall_mem_cons.mp isLocal
      obtain ⟨element, complete, left, next, found, later⟩ := readPositions_cons_eq_ok_iff.mp read
      exact (takes_nextElement next).trans₂ (own found) (ih others later)
        fun _ _ _ _ next found later =>
          readPositions_cons_eq_ok_iff.mpr ⟨_, complete, _, next, found, later⟩

theorem takes_nextKey {first : Bool} {body : List Char}
    (found : nextKey first text = .ok (some body)) : Takes 1 (nextKey first) text body some := by
  rcases nextKey_eq_some_iff.mp found with ⟨rfl, skipped⟩ | ⟨rfl, inner, skipped, next⟩
  · exact takes_first skipped fun _ _ skipped => nextKey_eq_some_iff.mpr (.inl ⟨rfl, skipped⟩)
  · exact (takes_skipBlanks next).of_skipBlanks skipped fun _ inner _ skipped next =>
      nextKey_eq_some_iff.mpr (.inr ⟨rfl, inner, skipped, Except.ok.inj next⟩)

theorem takes_readKey {first : Bool} {key : String}
    (read : readKey first text = .ok (some (key, rest))) :
    Takes 1 (readKey first) text rest fun rest => some (key, rest) := by
  obtain ⟨body, next, found⟩ := readKey_eq_some_iff.mp read
  exact (takes_nextKey next).trans (takes_readString found) fun _ body _ next found =>
    readKey_eq_some_iff.mpr ⟨body, next, found⟩

theorem takes_readEntry (isLocal : ∀ slot ∈ shape.slots, IsLocal slot.read) {key : String}
    {draft final : δ} (read : readEntry shape key draft text = .ok (final, rest)) :
    Takes 1 (readEntry shape key draft) text rest (final, ·) := by
  obtain ⟨inner, colon, ⟨unknown, value, rfl⟩ | ⟨slot, complete, known, empty, value, rfl⟩⟩ :=
    readEntry_eq_ok_iff.mp read
  · exact (takes_readColon colon).trans (takes_skipValue value) fun _ inner _ colon value =>
      readEntry_eq_ok_iff.mpr ⟨inner, colon, .inl ⟨unknown, value, rfl⟩⟩
  · have own := isLocal slot (List.mem_of_find?_eq_some known)
    exact (takes_readColon colon).trans (own value) fun _ inner _ colon value =>
      readEntry_eq_ok_iff.mpr ⟨inner, colon, .inr ⟨slot, complete, known, empty, value, rfl⟩⟩

/-- The entries of an object are taken up to the bracket that closes it. -/
theorem takesWithin_readEntries (isLocal : ∀ slot ∈ shape.slots, IsLocal slot.read) {first : Bool}
    {draft final : δ} {budget : List Char}
    (read : readEntries shape budget first draft text = .ok (final, rest)) :
    ∃ gap tail, AreBlanks gap ∧ rest = gap ++ '}' :: tail ∧
      TakesWithin (readEntries shape · first draft) text ('}' :: tail) (final, gap ++ ·) := by
  fun_induction readEntries shape budget first draft text with
  | case3 c budget first draft text key =>
      obtain ⟨rfl, rfl⟩ := Prod.mk.inj (Except.ok.inj read)
      obtain ⟨tail, skipped⟩ := nextKey_eq_none_iff.mp (readKey_eq_none_iff.mp key)
      obtain ⟨gap, blanks, -, rfl⟩ := exists_gap skipped
      refine ⟨gap, tail, blanks, rfl, gap, rfl, fun budget other enough alike => ?_⟩
      obtain ⟨more, rfl⟩ := List.head?_eq_some_iff.mp alike
      obtain ⟨d, budget, rfl⟩ := List.exists_cons_of_length_pos (Nat.zero_lt_of_lt enough)
      simp only [readEntries, readKey_closer blanks]
  | case5 c budget first draft text key left found complete after entry ih =>
      obtain ⟨gap, tail, blanks, rfl, entries⟩ := ih read
      refine ⟨gap, tail, blanks, rfl, TakesWithin.cons (takes_readKey found)
        (takes_readEntry isLocal entry) (Nat.le_succ 1) entries ?_⟩
      intro c budget text left after final found entry entries
      simp only [readEntries, found, entry, entries]
  | _ => cases read

/-- A record is read from its first character to its last one, whatever comes after it. -/
theorem exists_lead_of_readRecord (isLocal : ∀ slot ∈ shape.slots, IsLocal slot.read) {value : α}
    (read : readRecord shape text = .ok (value, rest)) :
    ∃ lead, text = lead ++ rest ∧ 1 ≤ lead.length ∧
      ∀ other, readRecord shape (lead ++ other) = .ok (value, other) := by
  obtain ⟨inner, draft, left, ⟨skipped, found, rfl⟩ | ⟨skipped, found, closed⟩, finished⟩ :=
    readRecord_eq_ok_iff.mp read
  · obtain ⟨before, blanks, visible, rfl⟩ := exists_gap skipped
    obtain ⟨gap, tail, gapBlanks, rfl, lead, rfl, entries⟩ := takesWithin_readEntries isLocal found
    rw [afterObject_closer gapBlanks]
    refine ⟨before ++ '{' :: (lead ++ ['}']), by simp, List.length_pos_iff.mpr (by simp),
      fun other => readRecord_eq_ok_iff.mpr ⟨lead ++ '}' :: other, draft, gap ++ '}' :: other,
        .inl ⟨?_, ?_, afterObject_closer gapBlanks other⟩, finished⟩⟩
    · simp [skipBlanks_append_cons blanks visible]
    · refine entries _ _ ?_ rfl
      simp only [List.length_cons, List.length_append]
      omega
  · obtain ⟨before, blanks, visible, rfl⟩ := exists_gap skipped
    obtain ⟨gap, gapBlanks, -, rfl⟩ := exists_gap (closeList_eq_ok_iff.mp closed)
    obtain ⟨lead, rfl, -, positions⟩ := takes_readPositions isLocal found
    refine ⟨before ++ '[' :: (lead ++ (gap ++ [']'])), by simp, List.length_pos_iff.mpr (by simp),
      fun other => readRecord_eq_ok_iff.mpr ⟨lead ++ (gap ++ ']' :: other), draft,
        gap ++ ']' :: other, .inr ⟨?_, ?_, closeList_closer gapBlanks other⟩, finished⟩⟩
    · simp [skipBlanks_append_cons blanks visible]
    · exact positions _ (head?_append_congr gap rfl)

theorem isLocal_record (isLocal : ∀ slot ∈ shape.slots, IsLocal slot.read) :
    IsLocal (readRecord shape) := by
  intro text rest value read
  obtain ⟨lead, split, one, takes⟩ := exists_lead_of_readRecord isLocal read
  exact ⟨lead, split, one, fun other _ => takes other⟩

end Readers

/-!
## Snapshots
-/

theorem isLocal_collection : IsLocal (readRecord (collectionShape notations)) := by
  refine isLocal_record ?_
  simp only [collectionShape, List.forall_mem_singleton]
  exact isLocal_text.map _

theorem isLocal_schema : IsLocal (readRecord (schemaShape notations)) := by
  refine isLocal_record ?_
  simp only [schemaShape, List.forall_mem_singleton]
  exact isLocal_flag.optional.map _

theorem isLocal_field : IsLocal (readRecord (fieldShape notations)) := by
  refine isLocal_record ?_
  simp only [fieldShape, List.forall_mem_cons]
  exact ⟨isLocal_text.map _, isLocal_text.map _, isLocal_text.map _, isLocal_schema.optional.map _,
    List.forall_mem_nil _⟩

theorem exists_lead_of_snapshotReader {text rest : List Char} {snapshot : Snapshot}
    (read : snapshotReader notations text = .ok (snapshot, rest)) :
    ∃ lead, text = lead ++ rest ∧
      ∀ other, snapshotReader notations (lead ++ other) = .ok (snapshot, other) := by
  have slots : ∀ slot ∈ (snapshotShape notations).slots, IsLocal slot.read := by
    simp only [snapshotShape, List.forall_mem_cons]
    exact ⟨isLocal_collection.list.map _, isLocal_field.list.map _, List.forall_mem_nil _⟩
  obtain ⟨lead, split, -, takes⟩ := exists_lead_of_readRecord slots read
  exact ⟨lead, split, takes⟩

end SnapshotTypes.Json

namespace SnapshotTypes

open Json

theorem Snapshot.exists_document_of_parse {source : String} {snapshot : Snapshot}
    (accepted : Snapshot.parse source .json = .ok snapshot) :
    ∃ document remainder, source = document ++ remainder ∧
      Json.afterRoot document.toList = some [] ∧
      Snapshot.parse document .json = .ok snapshot := by
  obtain ⟨rest, read⟩ := parseSnapshot_eq_ok_iff.mp accepted
  obtain ⟨lead, split, takes⟩ := exists_lead_of_snapshotReader read
  have whole : Document.snapshotReader notations (String.ofList lead).toList =
      .ok (snapshot, []) := by
    simpa using takes []
  refine ⟨String.ofList lead, String.ofList rest, ?_, (encloses_snapshot whole).afterRoot,
    parseSnapshot_eq_ok_iff.mpr ⟨[], whole⟩⟩
  rw [← String.toList_inj, split]
  simp

/-- An accepted text stays accepted, as the same snapshot, whatever is written after it. -/
theorem Snapshot.parse_append_of_parse {source : String} {snapshot : Snapshot}
    (accepted : Snapshot.parse source .json = .ok snapshot) (remainder : String) :
    Snapshot.parse (source ++ remainder) .json = .ok snapshot := by
  obtain ⟨rest, read⟩ := parseSnapshot_eq_ok_iff.mp accepted
  obtain ⟨lead, split, takes⟩ := exists_lead_of_snapshotReader read
  refine parseSnapshot_eq_ok_iff.mpr ⟨rest ++ remainder.toList, ?_⟩
  rw [String.toList_append, split, List.append_assoc]
  exact takes (rest ++ remainder.toList)

/-- The accepted texts are those that begin with an accepted document, and every text of a value
that denotes a snapshot is such a beginning. Whatever comes after the bracket that closes the root
value is ignored, and the snapshot is that of the document. -/
theorem Snapshot.parse_json_ignores_remainder (source : String) (snapshot : Snapshot) :
    (Snapshot.parse source .json = .ok snapshot ↔
      ∃ document remainder, source = document ++ remainder ∧
        Json.afterRoot document.toList = some [] ∧
        Snapshot.parse document .json = .ok snapshot) ∧
    ∀ tree, IsDocument tree source → DenotesSnapshot tree snapshot →
      ∀ remainder, Snapshot.parse (source ++ remainder) .json = .ok snapshot := by
  constructor
  · constructor
    · exact Snapshot.exists_document_of_parse
    · intro given
      obtain ⟨document, remainder, rfl, -, accepted⟩ := given
      exact Snapshot.parse_append_of_parse accepted remainder
  · intro tree document denotes remainder
    obtain ⟨after, agrees⟩ := exists_agrees_of_isDocument document
    have read := agrees.eq_ok ((decides_snapshot tree snapshot).mpr denotes)
    exact Snapshot.parse_append_of_parse (parseSnapshot_eq_ok_iff.mpr ⟨after, read⟩) remainder

def emptySnapshot : String :=
  "\x7b\"collections\":[],\"fields\":[]\x7d"

/-- A snapshot that is not read, since another one stands before it. -/
def lateSnapshot : String :=
  "\x7b\"collections\":[[\"late\"]],\"fields\":[]\x7d"

theorem Snapshot.parse_json_first_of_two :
    Snapshot.parse (emptySnapshot ++ lateSnapshot) .json = .ok ⟨[], []⟩ := by
  have empty : ∀ key, WrittenEntry (key, .list []) _ := fun _ =>
    .entry areBlanks_nil areBlanks_nil (.list (.finished areBlanks_nil))
  have written : Written (.object [("collections", .list []), ("fields", .list [])]) _ :=
    .object (.first areBlanks_nil (empty _)
      (.next areBlanks_nil areBlanks_nil (empty _) (.finished areBlanks_nil)))
  exact (Snapshot.parse_json_ignores_remainder emptySnapshot _).2 _
    ⟨[], _, [], areBlanks_nil, written, areBlanks_nil, by decide⟩
    (.object rfl rfl .nil .nil) lateSnapshot

/-- A text may be accepted though more than blanks comes after its root value. -/
theorem Snapshot.parse_json_accepts_second_document :
    ¬ ∀ (source : String) (snapshot : Snapshot) (remainder : List Char),
      Snapshot.parse source .json = .ok snapshot →
        Json.afterRoot source.toList = some remainder → AreBlanks remainder := by
  intro whole
  have read : (Snapshot.parse (emptySnapshot ++ lateSnapshot) .json).toOption = some ⟨[], []⟩ := by
    decide +kernel
  have closed : Json.afterRoot (emptySnapshot ++ lateSnapshot).toList =
      some lateSnapshot.toList := by decide +kernel
  cases accepted : Snapshot.parse (emptySnapshot ++ lateSnapshot) .json with
  | error failure =>
      rw [accepted] at read
      cases read
  | ok snapshot => exact absurd (whole _ _ _ accepted closed) (by decide +kernel)

end SnapshotTypes
