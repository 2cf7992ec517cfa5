import SnapshotTypes.Decoding
import SnapshotTypes.Proofs.Json.Brackets

/-!
# Documents that are cut short

Every reader closes all that it opens. A document can therefore be accepted only if the bracket that
closes its root value is there, and nothing that ends before this bracket is accepted.
-/

set_option autoImplicit false

namespace SnapshotTypes.Json

open Document

/-!
## Brackets that are closed
-/

/-- The bracket that is open before `text` is closed right before `rest`. -/
structure Closes (text rest : List Char) : Prop where
  outermost : afterCloser .outside 0 text = some rest
  inner : ∀ depth, afterCloser .outside (depth + 1) text = afterCloser .outside depth rest

theorem closes_cons {c : Char} (closer : c = ']' ∨ c = '}') (rest : List Char) :
    Closes (c :: rest) rest := by
  rcases closer with rfl | rfl
  · exact ⟨rfl, fun _ => rfl⟩
  · exact ⟨rfl, fun _ => rfl⟩

theorem Passes.closes {text middle rest : List Char} (passes : Passes text middle)
    (closes : Closes middle rest) : Closes text rest :=
  ⟨(passes 0).trans closes.outermost, fun depth => (passes (depth + 1)).trans (closes.inner depth)⟩

/-- A list or an object stands before `rest`. -/
def Encloses (text rest : List Char) : Prop :=
  ∃ c inner, skipBlanks text = c :: inner ∧ (c = '[' ∨ c = '{') ∧ Closes inner rest

theorem Encloses.afterRoot {text rest : List Char} (encloses : Encloses text rest) :
    afterRoot text = some rest := by
  obtain ⟨c, inner, skipped, opener, closes⟩ := encloses
  rw [Json.afterRoot, skipped]
  exact (if_pos opener).trans closes.outermost

theorem Encloses.passes {text rest : List Char} (encloses : Encloses text rest) :
    Passes text rest := by
  obtain ⟨c, inner, skipped, opener, closes⟩ := encloses
  refine (Passes.of_skipBlanks skipped).trans fun depth => ?_
  have opens :
      afterCloser .outside depth (c :: inner) = afterCloser .outside (depth + 1) inner := by
    rcases opener with rfl | rfl <;> rfl
  exact opens.trans (closes.inner depth)

/-!
## Scalars
-/

section Readers

variable {α β δ : Type}

/-- A reader that closes all that it opens. -/
def Keeps (reader : JsonReader α) : Prop :=
  ∀ ⦃text rest : List Char⦄ ⦃value : α⦄, reader text = .ok (value, rest) → Passes text rest

theorem endsString_readString {text rest : List Char} {value : String}
    (read : readString text = .ok (value, rest)) : EndsString text rest := by
  obtain ⟨body, found, -⟩ := readString_eq_ok_iff.mp read
  exact endsString_readBody found

theorem keeps_text : Keeps readText := by
  intro text rest value read
  obtain ⟨inner, skipped, found⟩ := readText_eq_ok_iff.mp read
  exact (Passes.of_skipBlanks skipped).trans (endsString_readString found).passes

theorem keeps_flag : Keeps readFlag := by
  intro text rest value read
  obtain ⟨inner, ⟨-, skipped, found⟩ | ⟨-, skipped, found⟩⟩ := readFlag_eq_ok_iff.mp read
  · exact (Passes.of_skipBlanks skipped).trans (passes_word (by decide) found)
  · exact (Passes.of_skipBlanks skipped).trans (passes_word (by decide) found)

theorem Keeps.map {reader : JsonReader α} (keeps : Keeps reader) (change : α → β) :
    Keeps (reader.map change) := by
  intro text rest value read
  obtain ⟨inner, found, -⟩ := map_eq_ok_iff.mp read
  exact keeps found

theorem Keeps.optional {reader : JsonReader α} (keeps : Keeps reader) :
    Keeps (readOptional reader) := by
  intro text rest value read
  rcases readOptional_eq_ok_iff.mp read with ⟨-, inner, skipped, found⟩ | ⟨inner, -, -, found⟩
  · exact (Passes.of_skipBlanks skipped).trans (passes_word (by decide) found)
  · exact (passes_skipBlanks text).trans (keeps found)

/-!
## Lists
-/

theorem passes_nextElement {first : Bool} {text later : List Char}
    (found : nextElement first text = .ok (some later)) : Passes text later := by
  obtain ⟨c, more, rfl, -, ⟨-, skipped⟩ | ⟨-, inner, skipped, next⟩⟩ :=
    nextElement_eq_some_iff.mp found
  · exact .of_skipBlanks skipped
  · exact (Passes.of_skipBlanks skipped).trans
      ((passes_cons (by decide) inner).trans (.of_skipBlanks next))

theorem closes_closeList {text rest : List Char} (closed : closeList text = .ok rest) :
    Closes text rest :=
  (Passes.of_skipBlanks (closeList_eq_ok_iff.mp closed)).closes (closes_cons (.inl rfl) rest)

theorem Keeps.readElements {reader : JsonReader α} (keeps : Keeps reader)
    {budget text rest : List Char} {position : Nat} {values : List α}
    (read : readElements reader budget position text = .ok (values, rest)) : Passes text rest := by
  fun_induction Json.readElements reader budget position text generalizing values with
  | case3 c budget position text closed =>
      obtain rfl := rest_eq_of_ok read
      exact .refl _
  | case6 c budget position text element next value left found values later final ih =>
      obtain rfl := rest_eq_of_ok read
      exact (passes_nextElement next).trans
        ((keeps (eq_ok_of_within found)).trans (ih final))
  | _ => cases read

theorem Keeps.encloses_list {reader : JsonReader α} (keeps : Keeps reader)
    {text rest : List Char} {values : List α} (read : readList reader text = .ok (values, rest)) :
    Encloses text rest := by
  obtain ⟨inner, left, skipped, elements, closed⟩ := readList_eq_ok_iff.mp read
  exact ⟨'[', inner, skipped, .inl rfl,
    (keeps.readElements elements).closes (closes_closeList closed)⟩

/-!
## Records
-/

variable {shape : RecordShape (List Char) Fault δ α}

theorem passes_readPositions {slots : List (Slot (List Char) Fault δ)}
    (keeps : ∀ slot ∈ slots, Keeps slot.read) {position : Nat} {draft final : δ}
    {text rest : List Char}
    (read : readPositions shape slots position draft text = .ok (final, rest)) :
    Passes text rest := by
  induction slots generalizing position draft text with
  | nil =>
      obtain rfl := rest_eq_of_ok read
      exact .refl _
  | cons slot slots ih =>
      obtain ⟨own, others⟩ := List.forall_mem_cons.mp keeps
      obtain ⟨element, complete, left, next, found, later⟩ :=
        readPositions_cons_eq_ok_iff.mp read
      exact (passes_nextElement next).trans ((own found).trans (ih others later))

theorem passes_nextKey {first : Bool} {text body : List Char}
    (found : nextKey first text = .ok (some body)) : Passes text ('"' :: body) := by
  rcases nextKey_eq_some_iff.mp found with ⟨-, skipped⟩ | ⟨-, inner, skipped, next⟩
  · exact .of_skipBlanks skipped
  · exact (Passes.of_skipBlanks skipped).trans
      ((passes_cons (by decide) inner).trans (.of_skipBlanks next))

theorem closes_readKey {first : Bool} {text : List Char} (read : readKey first text = .ok none) :
    Closes text (afterObject text) := by
  obtain ⟨rest, skipped⟩ := nextKey_eq_none_iff.mp (readKey_eq_none_iff.mp read)
  rw [afterObject, skipped]
  exact (Passes.of_skipBlanks skipped).closes (closes_cons (.inr rfl) rest)

theorem passes_readKey {first : Bool} {text rest : List Char} {key : String}
    (read : readKey first text = .ok (some (key, rest))) : Passes text rest := by
  obtain ⟨body, next, found⟩ := readKey_eq_some_iff.mp read
  exact (passes_nextKey next).trans (endsString_readString found).passes

theorem passes_readEntry (keeps : ∀ slot ∈ shape.slots, Keeps slot.read) {key : String}
    {draft final : δ} {text rest : List Char}
    (read : readEntry shape key draft text = .ok (final, rest)) : Passes text rest := by
  obtain ⟨inner, colon, ⟨-, value, -⟩ | ⟨slot, complete, known, -, value, -⟩⟩ :=
    readEntry_eq_ok_iff.mp read
  · exact (passes_readColon colon).trans (passes_skipValue value)
  · exact (passes_readColon colon).trans (keeps slot (List.mem_of_find?_eq_some known) value)

theorem closes_readEntries (keeps : ∀ slot ∈ shape.slots, Keeps slot.read) {first : Bool}
    {draft final : δ} {budget text rest : List Char}
    (read : readEntries shape budget first draft text = .ok (final, rest)) :
    Closes text (afterObject rest) := by
  fun_induction readEntries shape budget first draft text with
  | case3 c budget first draft text key =>
      obtain rfl := rest_eq_of_ok read
      exact closes_readKey key
  | case5 c budget first draft text key left found complete after entry ih =>
      exact (passes_readKey found).closes ((passes_readEntry keeps entry).closes (ih read))
  | _ => cases read

theorem encloses_record (keeps : ∀ slot ∈ shape.slots, Keeps slot.read) {text rest : List Char}
    {value : α} (read : readRecord shape text = .ok (value, rest)) : Encloses text rest := by
  obtain ⟨inner, draft, left, ⟨skipped, entries, rfl⟩ | ⟨skipped, positions, closed⟩, -⟩ :=
    readRecord_eq_ok_iff.mp read
  · exact ⟨'{', inner, skipped, .inr rfl, closes_readEntries keeps entries⟩
  · exact ⟨'[', inner, skipped, .inl rfl,
      (passes_readPositions keeps positions).closes (closes_closeList closed)⟩

end Readers

/-!
## Snapshots
-/

theorem keeps_collection : Keeps (readRecord (collectionShape notations)) := by
  intro text rest value read
  refine (encloses_record ?_ read).passes
  simp only [collectionShape, List.forall_mem_singleton]
  exact keeps_text.map _

theorem keeps_schema : Keeps (readRecord (schemaShape notations)) := by
  intro text rest value read
  refine (encloses_record ?_ read).passes
  simp only [schemaShape, List.forall_mem_singleton]
  exact keeps_flag.optional.map _

theorem keeps_field : Keeps (readRecord (fieldShape notations)) := by
  intro text rest value read
  refine (encloses_record ?_ read).passes
  simp only [fieldShape, List.forall_mem_cons]
  exact ⟨keeps_text.map _, keeps_text.map _, keeps_text.map _, keeps_schema.optional.map _,
    List.forall_mem_nil _⟩

theorem encloses_snapshot {text rest : List Char} {snapshot : Snapshot}
    (read : snapshotReader notations text = .ok (snapshot, rest)) : Encloses text rest := by
  refine encloses_record ?_ read
  simp only [snapshotShape, List.forall_mem_cons]
  have collections : Keeps (readList (readRecord (collectionShape notations))) :=
    fun _ _ _ read => (keeps_collection.encloses_list read).passes
  have fields : Keeps (readList (readRecord (fieldShape notations))) :=
    fun _ _ _ read => (keeps_field.encloses_list read).passes
  exact ⟨collections.map _, fields.map _, List.forall_mem_nil _⟩

end SnapshotTypes.Json

namespace SnapshotTypes

/-- An accepted document has the bracket that closes its root value. -/
theorem Snapshot.exists_afterRoot_of_parse {source : String} {snapshot : Snapshot}
    (accepted : Snapshot.parse source .json = .ok snapshot) :
    ∃ rest, Json.afterRoot source.toList = some rest := by
  obtain ⟨rest, read⟩ := Json.parseSnapshot_eq_ok_iff.mp accepted
  exact ⟨rest, (Json.encloses_snapshot read).afterRoot⟩

/-- No beginning of a document that ends with the bracket closing its root value is accepted, at
whatever place the document is cut off. -/
theorem Snapshot.truncated_json_refused {source cut missing : String}
    (closed : Json.afterRoot source.toList = some []) (split : source = cut ++ missing)
    (shorter : missing ≠ "") :
    ∃ failure, Snapshot.parse cut .json = .error failure := by
  cases accepted : Snapshot.parse cut .json with
  | error failure => exact ⟨failure, rfl⟩
  | ok snapshot =>
      obtain ⟨rest, root⟩ := Snapshot.exists_afterRoot_of_parse accepted
      have extended := Json.afterRoot_append root missing.toList
      rw [← String.toList_append, ← split, closed, Option.some.injEq] at extended
      have nothing := (List.append_eq_nil_iff.mp extended.symm).2
      exact absurd (String.toList_inj.mp nothing) shorter

/-- A snapshot with a note, whose first text closes more than it opens. -/
def annotatedSnapshot : String :=
  "\x7b\"note\":[\"]\\\"\x7d\",-1.5],\"collections\":[[\"places\"]],\"fields\":[]\x7d"

theorem Snapshot.truncated_json_refused_inside_string :
    (Snapshot.parse annotatedSnapshot .json).toOption = some ⟨["places"], []⟩ ∧
      ∃ failure, Snapshot.parse "\x7b\"note\":[\"]\\\"\x7d" .json = .error failure := by
  have closed : Json.afterRoot annotatedSnapshot.toList = some [] := by decide
  have split : annotatedSnapshot = "\x7b\"note\":[\"]\\\"\x7d" ++
      "\",-1.5],\"collections\":[[\"places\"]],\"fields\":[]\x7d" := by decide
  exact ⟨by decide +kernel, Snapshot.truncated_json_refused closed split (by decide)⟩

end SnapshotTypes
