import SnapshotTypes.Json.Reading
import Mathlib.Tactic.SplitIfs

/-!
# What was read

A step that gave a result went one way through its branches. For every step it is told once which
ways there are, and the results of its parts on each of them.
-/

set_option autoImplicit false

namespace SnapshotTypes.Json

open Document

variable {text rest : List Char}

theorem rest_eq_of_ok {α : Type} {value other : α} {rest left : List Char}
    (read : (.ok (value, rest) : Except Fault (α × List Char)) = .ok (other, left)) :
    rest = left :=
  (Prod.mk.inj (Except.ok.inj read)).2

theorem exists_of_bind_eq_ok {α β : Type} {outcome : Except Fault α} {next : α → Except Fault β}
    {value : β} (read : outcome >>= next = .ok value) :
    ∃ first, outcome = .ok first ∧ next first = .ok value := by
  cases outcome with
  | error fault => cases read
  | ok first => exact ⟨first, rfl, read⟩

theorem eq_ok_of_within {α : Type} {step : Step} {outcome : Except Fault α} {value : α}
    (read : within step outcome = .ok value) : outcome = .ok value := by
  cases outcome with
  | error fault => cases read
  | ok other => exact read

theorem consChar_eq_ok {c : Char} {outcome : Except Fault (List Char × List Char)}
    {body rest : List Char} (read : consChar c outcome = .ok (body, rest)) :
    ∃ later, body = c :: later ∧ outcome = .ok (later, rest) := by
  cases outcome with
  | error fault => cases read
  | ok value =>
      obtain ⟨later, left⟩ := value
      obtain ⟨rfl, rfl⟩ := Prod.mk.inj (Except.ok.inj read)
      exact ⟨later, rfl, rfl⟩

/-!
## Values that are skipped
-/

theorem readColon_eq_ok_iff : readColon text = .ok rest ↔ skipBlanks text = ':' :: rest := by
  grind [readColon]

theorem skipKey_eq_ok_iff :
    skipKey text = .ok rest ↔ ∃ inner left, skipBlanks text = '"' :: inner ∧
      skipBody inner = .ok left ∧ readColon left = .ok rest := by
  grind [skipKey]

theorem skipNumber_eq_ok_iff :
    skipNumber text = .ok rest ↔
      ∃ number, readNumberText .invalidNumber text = .ok (number, rest) := by
  grind [skipNumber]

/-- The words of JSON, each with its first letter apart. -/
def words : List (Char × List Char) :=
  [('n', ['u', 'l', 'l']), ('t', ['r', 'u', 'e']), ('f', ['a', 'l', 's', 'e'])]

/-- The ways to start a value that is skipped, by its first character and the text after that. -/
inductive Starts (frames : List Frame) : Char → List Char → Skipping → Prop
  | word {first : Char} {letters inner rest : List Char} :
      (first, letters) ∈ words → readWord letters inner = .ok rest →
      Starts frames first inner ⟨frames, false, rest⟩
  | negative {inner rest : List Char} :
      skipNumber inner = .ok rest → Starts frames '-' inner ⟨frames, false, rest⟩
  | number {c : Char} {inner rest : List Char} :
      c.isDigit = true → skipNumber (c :: inner) = .ok rest →
      Starts frames c inner ⟨frames, false, rest⟩
  | text {inner rest : List Char} :
      skipBody inner = .ok rest → Starts frames '"' inner ⟨frames, false, rest⟩
  | list (inner : List Char) : Starts frames '[' inner ⟨.list :: frames, true, inner⟩
  | object (inner : List Char) : Starts frames '{' inner ⟨.object :: frames, true, inner⟩

theorem skipStart_eq_ok_iff {frames : List Frame} {state : Skipping} :
    skipStart frames text = .ok state ↔
      ∃ c inner, skipBlanks text = c :: inner ∧ Starts frames c inner state := by
  constructor
  · intro read
    rw [skipStart] at read
    split at read
    · cases read
    · next c inner skipped =>
      refine ⟨c, inner, skipped, ?_⟩
      dsimp only at read
      split_ifs at read with isNull isTrue isFalse minus digit quote list object
      · split at read
        · cases read
        · next found => exact Except.ok.inj read ▸ .word (by simp [words, isNull]) found
      · split at read
        · cases read
        · next found => exact Except.ok.inj read ▸ .word (by simp [words, isTrue]) found
      · split at read
        · cases read
        · next found => exact Except.ok.inj read ▸ .word (by simp [words, isFalse]) found
      · split at read
        · cases read
        · next found => exact Except.ok.inj read ▸ minus ▸ .negative found
      · split at read
        · cases read
        · next found => exact Except.ok.inj read ▸ .number digit found
      · split at read
        · cases read
        · next found => exact Except.ok.inj read ▸ quote ▸ .text found
      · obtain rfl := Except.ok.inj read
        exact list ▸ .list inner
      · obtain rfl := Except.ok.inj read
        exact object ▸ .object inner
  · intro given
    obtain ⟨c, inner, skipped, starts⟩ := given
    rw [skipStart, skipped]
    cases starts with
    | word isWord read =>
        simp only [words, List.mem_cons, Prod.mk.injEq, List.not_mem_nil, or_false] at isWord
        rcases isWord with ⟨rfl, rfl⟩ | ⟨rfl, rfl⟩ | ⟨rfl, rfl⟩ <;> simp [read]
    | number digit read =>
        have apart : c ∉ ['n', 't', 'f', '-'] := by
          intro member
          simp only [List.mem_cons, List.not_mem_nil, or_false] at member
          rcases member with rfl | rfl | rfl | rfl <;> cases digit
        simp only [List.mem_cons, List.not_mem_nil, or_false, not_or] at apart
        simp [apart, digit, read]
    | negative read => simp [read]
    | text read => simp [read]
    | list => simp
    | object => simp

theorem skipEntry_eq_ok_iff {frame : Frame} {frames : List Frame} {state : Skipping} :
    skipEntry frame frames text = .ok state ↔
      ∃ inner, (frame = .list ∧ inner = text ∨ frame = .object ∧ skipKey text = .ok inner) ∧
        skipStart (frame :: frames) inner = .ok state := by
  cases frame with
  | list => simp [skipEntry]
  | object =>
      rw [skipEntry]
      cases skipKey text <;> simp

theorem Frame.comma_ne_closer (frame : Frame) : ',' ≠ frame.closer := by
  cases frame <;> decide

/-- The ways to go on in a frame, by the next character and the text after that. -/
inductive Continues (frame : Frame) (frames : List Frame) :
    Bool → Char → List Char → Skipping → Prop
  | closer (opened : Bool) (inner : List Char) :
      Continues frame frames opened frame.closer inner ⟨frames, false, inner⟩
  | first {c : Char} {inner : List Char} {state : Skipping} :
      c ≠ frame.closer → skipEntry frame frames (c :: inner) = .ok state →
      Continues frame frames true c inner state
  | comma {inner : List Char} {state : Skipping} :
      skipEntry frame frames inner = .ok state → Continues frame frames false ',' inner state

theorem skipWithin_eq_ok_iff {frame : Frame} {frames : List Frame} {opened : Bool}
    {state : Skipping} :
    skipWithin frame frames opened text = .ok state ↔
      ∃ c inner, skipBlanks text = c :: inner ∧ Continues frame frames opened c inner state := by
  constructor
  · intro read
    rw [skipWithin] at read
    split at read
    · cases read
    · next c inner skipped =>
      refine ⟨c, inner, skipped, ?_⟩
      split_ifs at read with closer first comma
      · obtain rfl := Except.ok.inj read
        exact closer ▸ .closer opened inner
      · exact first ▸ .first closer read
      · obtain rfl := Bool.eq_false_iff.mpr first
        exact comma ▸ .comma read
  · intro given
    obtain ⟨c, inner, skipped, continues⟩ := given
    rw [skipWithin, skipped]
    cases continues with
    | closer => simp
    | first other read => simp [other, read]
    | comma read => simp [frame.comma_ne_closer, read]

/-!
## Scalars
-/

section Readers

variable {α β δ : Type}

theorem readString_eq_ok_iff {value : String} :
    readString text = .ok (value, rest) ↔
      ∃ body, readBody none text = .ok (body, rest) ∧ value = String.ofList body := by
  grind [readString]

theorem readText_eq_ok_iff {value : String} :
    readText text = .ok (value, rest) ↔
      ∃ inner, skipBlanks text = '"' :: inner ∧ readString inner = .ok (value, rest) := by
  grind [readText]

theorem readFlag_eq_ok_iff {value : Bool} :
    readFlag text = .ok (value, rest) ↔
      ∃ inner, (value = true ∧ skipBlanks text = 't' :: inner ∧
            readWord ['r', 'u', 'e'] inner = .ok rest) ∨
          value = false ∧ skipBlanks text = 'f' :: inner ∧
            readWord ['a', 'l', 's', 'e'] inner = .ok rest := by
  grind [readFlag]

theorem map_eq_ok_iff {reader : JsonReader α} {change : α → β} {value : β} :
    reader.map change text = .ok (value, rest) ↔
      ∃ inner, reader text = .ok (inner, rest) ∧ value = change inner := by
  grind [Reader.map]

theorem readOptional_eq_ok_iff {reader : JsonReader α} {value : Option α} :
    readOptional reader text = .ok (value, rest) ↔
      (value = none ∧ ∃ inner, skipBlanks text = 'n' :: inner ∧
          readWord ['u', 'l', 'l'] inner = .ok rest) ∨
        ∃ inner, value = some inner ∧ (skipBlanks text).head? ≠ some 'n' ∧
          reader (skipBlanks text) = .ok (inner, rest) := by
  grind [readOptional]

/-!
## Lists
-/

theorem nextElement_eq_none_iff {first : Bool} :
    nextElement first text = .ok none ↔ ∃ rest, skipBlanks text = ']' :: rest := by
  grind [nextElement]

theorem nextElement_eq_some_iff {first : Bool} {later : List Char} :
    nextElement first text = .ok (some later) ↔
      ∃ c more, later = c :: more ∧ c ≠ ']' ∧ (first = true ∧ skipBlanks text = later ∨
        first = false ∧ ∃ inner, skipBlanks text = ',' :: inner ∧ skipBlanks inner = later) := by
  grind [nextElement]

theorem closeList_eq_ok_iff : closeList text = .ok rest ↔ skipBlanks text = ']' :: rest := by
  grind [closeList]

theorem readList_eq_ok_iff {reader : JsonReader α} {values : List α} :
    readList reader text = .ok (values, rest) ↔
      ∃ inner left, skipBlanks text = '[' :: inner ∧
        readElements reader ('[' :: inner) 0 inner = .ok (values, left) ∧
        closeList left = .ok rest := by
  grind [readList]

/-!
## Records
-/

variable {shape : RecordShape (List Char) Fault δ α}

theorem finishRecord_eq_ok_iff {draft : δ} {rest left : List Char} {value : α} :
    finishRecord shape draft rest = .ok (value, left) ↔
      shape.finish draft = .ok value ∧ rest = left := by
  rw [finishRecord]
  cases shape.finish draft <;> simp

theorem readPositions_cons_eq_ok_iff {slot : Slot (List Char) Fault δ}
    {slots : List (Slot (List Char) Fault δ)} {position : Nat} {draft final : δ} :
    readPositions shape (slot :: slots) position draft text = .ok (final, rest) ↔
      ∃ element complete left, nextElement (position = 0) text = .ok (some element) ∧
        slot.read element = .ok (complete, left) ∧
        readPositions shape slots (position + 1) (complete draft) left = .ok (final, rest) := by
  rw [readPositions]
  grind [within, eq_ok_of_within]

theorem nextKey_eq_none_iff {first : Bool} :
    nextKey first text = .ok none ↔ ∃ rest, skipBlanks text = '}' :: rest := by
  grind [nextKey]

theorem nextKey_eq_some_iff {first : Bool} {body : List Char} :
    nextKey first text = .ok (some body) ↔
      (first = true ∧ skipBlanks text = '"' :: body) ∨
        first = false ∧ ∃ inner, skipBlanks text = ',' :: inner ∧
          skipBlanks inner = '"' :: body := by
  grind [nextKey]

theorem readKey_eq_none_iff {first : Bool} :
    readKey first text = .ok none ↔ nextKey first text = .ok none := by
  grind [readKey, within]

theorem readKey_eq_some_iff {first : Bool} {key : String} :
    readKey first text = .ok (some (key, rest)) ↔
      ∃ body, nextKey first text = .ok (some body) ∧ readString body = .ok (key, rest) := by
  grind [readKey, within]

theorem readEntry_eq_ok_iff {key : String} {draft final : δ} :
    readEntry shape key draft text = .ok (final, rest) ↔
      ∃ inner, readColon text = .ok inner ∧
        ((shape.slot? key = none ∧ skipValue inner = .ok rest ∧ final = draft) ∨
          ∃ slot complete, shape.slot? key = some slot ∧ slot.isFilled draft = false ∧
            slot.read inner = .ok (complete, rest) ∧ final = complete draft) := by
  rw [readEntry]
  grind [within, eq_ok_of_within]

theorem readRecord_eq_ok_iff {value : α} :
    readRecord shape text = .ok (value, rest) ↔
      ∃ inner draft left, (skipBlanks text = '{' :: inner ∧
          readEntries shape ('{' :: inner) true shape.blank inner = .ok (draft, left) ∧
          afterObject left = rest ∨
        skipBlanks text = '[' :: inner ∧
          readPositions shape shape.slots 0 shape.blank inner = .ok (draft, left) ∧
          closeList left = .ok rest) ∧
        shape.finish draft = .ok value := by
  grind [readRecord, finishRecord_eq_ok_iff]

end Readers

theorem parseSnapshot_eq_ok_iff {source : String} {snapshot : Snapshot} :
    parseSnapshot source = .ok snapshot ↔
      ∃ rest, snapshotReader notations source.toList = .ok (snapshot, rest) := by
  grind [parseSnapshot]

end SnapshotTypes.Json
