import SnapshotTypes.Json.Skipping
import SnapshotTypes.Proofs.Json.Tokens

/-!
# Skipping a value

Skipping a value takes fewer steps than the value has characters, so that its budget suffices at any
depth, and it stops right after the value.
-/

set_option autoImplicit false

namespace SnapshotTypes.Json

/-!
## Steps
-/

/-- A number of steps leads from one state to another, whatever budget there is for them. -/
def SkipsIn (steps : Nat) (start last : Skipping) : Prop :=
  ∀ budget : List Char, steps ≤ budget.length →
    skipRest budget start = skipRest (budget.drop steps) last

theorem SkipsIn.refl (state : Skipping) : SkipsIn 0 state state :=
  fun _ _ => rfl

theorem SkipsIn.trans {steps more : Nat} {start middle last : Skipping}
    (first : SkipsIn steps start middle) (later : SkipsIn more middle last) :
    SkipsIn (steps + more) start last := by
  intro budget enough
  have left : more ≤ (budget.drop steps).length := by
    rw [List.length_drop]
    omega
  rw [first budget (by omega), later _ left, List.drop_drop]

theorem SkipsIn.step {frame : Frame} {frames : List Frame} {opened : Bool} {text : List Char}
    {next : Skipping} (taken : skipWithin frame frames opened text = .ok next) :
    SkipsIn 1 ⟨frame :: frames, opened, text⟩ next := by
  intro budget enough
  cases budget with
  | nil => cases enough
  | cons c budget =>
      rw [skipRest.eq_def]
      simp only [taken]
      rfl

/-- A text that is skipped within certain frames, from a start that takes blanks before it. -/
def Skips (start : List Char → Except Fault Skipping) (frames : List Frame) (text : List Char) :
    Prop :=
  ∀ ⦃before rest : List Char⦄, AreBlanks before → IsDelimited rest →
    ∃ state steps, start (before ++ (text ++ rest)) = .ok state ∧ steps < text.length ∧
      SkipsIn steps state ⟨frames, false, rest⟩

/-!
## Lists and objects
-/

theorem Frame.closer_not_blank (frame : Frame) : isBlank frame.closer = false := by
  cases frame <;> decide

theorem Frame.closer_stops (frame : Frame) : continuesNumber frame.closer = false := by
  cases frame <;> decide

theorem skipWithin_closer {gap : List Char} (blanks : AreBlanks gap) (frame : Frame)
    (frames : List Frame) (opened : Bool) (rest : List Char) :
    skipWithin frame frames opened (gap ++ frame.closer :: rest) = .ok ⟨frames, false, rest⟩ := by
  rw [skipWithin, skipBlanks_append_cons blanks frame.closer_not_blank]
  exact if_pos rfl

theorem skipWithin_first {before : List Char} (blanks : AreBlanks before) {c : Char}
    (visible : isBlank c = false) {frame : Frame} (other : c ≠ frame.closer)
    (frames : List Frame) (rest : List Char) :
    skipWithin frame frames true (before ++ c :: rest) = skipEntry frame frames (c :: rest) := by
  rw [skipWithin, skipBlanks_append_cons blanks visible]
  exact (if_neg other).trans (if_pos rfl)

theorem skipWithin_comma {gap : List Char} (blanks : AreBlanks gap) (frame : Frame)
    (frames : List Frame) (rest : List Char) :
    skipWithin frame frames false (gap ++ ',' :: rest) = skipEntry frame frames rest := by
  rw [skipWithin, skipBlanks_append_cons blanks (by decide)]
  exact (if_neg frame.comma_ne_closer).trans ((if_neg (by decide)).trans (if_pos rfl))

/-- The entries of a frame are skipped one by one up to its closing bracket. -/
theorem skipsIn_separated {α : Type} {writes : α → List Char → Prop} {frame : Frame}
    {frames : List Frame} {values : List α} {body : List Char} {opened : Bool}
    (separated : Separated writes opened values body)
    (begins : ∀ value text, writes value text →
      ∃ c rest, text = c :: rest ∧ isBlank c = false ∧ c ≠ frame.closer)
    (skipped : ∀ value ∈ values, ∀ text, writes value text →
      Skips (skipEntry frame frames) (frame :: frames) text) (rest : List Char) :
    ∃ steps, steps ≤ body.length + 1 ∧
      SkipsIn steps ⟨frame :: frames, opened, body ++ frame.closer :: rest⟩
        ⟨frames, false, rest⟩ := by
  induction separated with
  | finished blanks =>
      exact ⟨1, by omega, .step (skipWithin_closer blanks frame frames _ rest)⟩
  | @first value values before text later blanks written separated ih =>
      obtain ⟨valueSkipped, laterSkipped⟩ := List.forall_mem_cons.mp skipped
      obtain ⟨state, steps, started, few, skips⟩ := valueSkipped text written areBlanks_nil
        (separated.isDelimited frame.closer_stops rest)
      obtain ⟨more, fewMore, finishes⟩ := ih laterSkipped
      obtain ⟨c, tail, rfl, visible, other⟩ := begins value text written
      -- One step starts the entry, and the entry itself takes fewer than it has characters.
      refine ⟨1 + steps + more, ?_, (SkipsIn.trans (.step ?_) skips).trans finishes⟩
      · simp only [List.length_append]
        omega
      · rw [List.append_assoc, List.append_assoc, List.cons_append,
          skipWithin_first blanks visible other]
        exact started
  | @next value values gap before text later gapBlanks blanks written separated ih =>
      obtain ⟨valueSkipped, laterSkipped⟩ := List.forall_mem_cons.mp skipped
      obtain ⟨state, steps, started, few, skips⟩ := valueSkipped text written blanks
        (separated.isDelimited frame.closer_stops rest)
      obtain ⟨more, fewMore, finishes⟩ := ih laterSkipped
      refine ⟨1 + steps + more, ?_, (SkipsIn.trans (.step ?_) skips).trans finishes⟩
      · simp only [List.length_append, List.length_cons]
        omega
      · rw [List.append_assoc, List.cons_append, skipWithin_comma gapBlanks, List.append_assoc,
          List.append_assoc]
        exact started

/-!
## Values
-/

theorem Skips.of_scalar {frames : List Frame} {text : List Char} (notEmpty : 0 < text.length)
    (starts : ∀ ⦃before rest : List Char⦄, AreBlanks before → IsDelimited rest →
      skipStart frames (before ++ (text ++ rest)) = .ok ⟨frames, false, rest⟩) :
    Skips (skipStart frames) frames text :=
  fun _ _ blanks delimited => ⟨_, 0, starts blanks delimited, notEmpty, .refl _⟩

/-- A bracketed text is skipped if what stands between the brackets is. -/
theorem Skips.of_bracketed (frame : Frame) {frames : List Frame} {opener : Char} {body : List Char}
    (starts : ∀ ⦃before : List Char⦄, AreBlanks before → ∀ text,
      skipStart frames (before ++ opener :: text) = .ok ⟨frame :: frames, true, text⟩)
    (skipped : ∀ rest, ∃ steps, steps ≤ body.length + 1 ∧
      SkipsIn steps ⟨frame :: frames, true, body ++ frame.closer :: rest⟩ ⟨frames, false, rest⟩) :
    Skips (skipStart frames) frames (opener :: (body ++ [frame.closer])) := by
  intro before rest blanks _
  obtain ⟨steps, few, skips⟩ := skipped rest
  refine ⟨_, steps, ?_, ?_, skips⟩
  · rw [List.cons_append, List.append_assoc]
    exact starts blanks _
  · simp only [List.length_cons, List.length_append, List.length_nil]
    omega

theorem skipStart_number (numeral : Numeral) (frames : List Frame) {before rest : List Char}
    (blanks : AreBlanks before) (delimited : IsDelimited rest) :
    skipStart frames (before ++ (numeral.text ++ rest)) = .ok ⟨frames, false, rest⟩ := by
  have read := skipNumber_append numeral delimited
  unfold Numeral.text
  split
  · rw [List.cons_append, skipStart, skipBlanks_append_cons blanks (by decide)]
    simp [read]
  · obtain ⟨c, tail, spelled, digit⟩ := numeral.magnitude_eq_cons
    rw [spelled] at read ⊢
    have begins : (Tree.number numeral).BeginsWith c := .inr digit
    have other : c ≠ 'n' ∧ c ≠ 't' ∧ c ≠ 'f' ∧ c ≠ '-' :=
      ⟨ne_of_isDigit digit (by decide), ne_of_isDigit digit (by decide),
        ne_of_isDigit digit (by decide), ne_of_isDigit digit (by decide)⟩
    rw [List.cons_append] at read ⊢
    rw [skipStart, skipBlanks_append_cons blanks begins.not_blank]
    simp [other, digit, read]

theorem readColon_gap {gap : List Char} (blanks : AreBlanks gap) (rest : List Char) :
    readColon (gap ++ ':' :: rest) = .ok rest := by
  rw [readColon, skipBlanks_append_cons blanks (by decide)]
  rfl

theorem skipKey_entry (key : String) {before gap : List Char} (blanks : AreBlanks before)
    (gapBlanks : AreBlanks gap) (rest : List Char) :
    skipKey (before ++ ((Text.quoted key).toList ++ (gap ++ ':' :: rest))) = .ok rest := by
  have body := skipBody_escaped key.toList (gap ++ ':' :: rest)
  rw [Text.quoted_toList, List.cons_append, List.append_assoc, List.singleton_append, skipKey,
    skipBlanks_append_cons blanks (by decide)]
  simp only [if_pos, body, readColon_gap gapBlanks]

theorem WrittenEntry.skips {entry : String × Tree} {text : List Char}
    (written : WrittenEntry entry text) {frames : List Frame}
    (skipped : ∀ value, Written entry.2 value →
      Skips (skipStart (.object :: frames)) (.object :: frames) value) :
    Skips (skipEntry .object frames) (.object :: frames) text := by
  obtain ⟨gapBlanks, valueBlanks, value⟩ := written
  intro before rest blanks delimited
  obtain ⟨state, steps, started, few, skips⟩ := skipped _ value valueBlanks delimited
  refine ⟨state, steps, ?_, ?_, skips⟩
  · rw [List.append_assoc, List.append_assoc, List.cons_append, List.append_assoc, skipEntry,
      skipKey_entry _ blanks gapBlanks]
    exact started
  · simp only [List.length_append, List.length_cons]
    omega

theorem Written.skips {tree : Tree} {text : List Char} (written : Written tree text)
    (frames : List Frame) : Skips (skipStart frames) frames text := by
  induction tree using Tree.induction generalizing text frames with
  | null =>
      cases written
      refine .of_scalar (by decide) fun before rest blanks _ => ?_
      rw [skipStart, List.cons_append, skipBlanks_append_cons blanks (by decide)]
      rfl
  | boolean value =>
      cases written with
      | true =>
          refine .of_scalar (by decide) fun before rest blanks _ => ?_
          rw [skipStart, List.cons_append, skipBlanks_append_cons blanks (by decide)]
          rfl
      | false =>
          refine .of_scalar (by decide) fun before rest blanks _ => ?_
          rw [skipStart, List.cons_append, skipBlanks_append_cons blanks (by decide)]
          rfl
  | number numeral =>
      cases written
      exact .of_scalar (Written.number numeral).length_pos
        fun before rest blanks delimited => skipStart_number numeral frames blanks delimited
  | text value =>
      cases written
      rw [Text.quoted_toList]
      refine .of_scalar (Nat.succ_pos _) fun before rest blanks _ => ?_
      have body := skipBody_escaped value.toList rest
      rw [List.cons_append, List.append_assoc, List.singleton_append, skipStart,
        skipBlanks_append_cons blanks (by decide)]
      simp [body]
  | list elements ih =>
      cases written with
      | list separated =>
          refine .of_bracketed .list (fun before blanks text => ?_) fun rest =>
            skipsIn_separated separated ?_ ?_ rest
          · rw [skipStart, skipBlanks_append_cons blanks (by decide)]
            rfl
          · intro element text written
            obtain ⟨c, rest, spelled, begins⟩ := written.eq_cons
            exact ⟨c, rest, spelled, begins.not_blank, begins.ne_closer⟩
          · intro element member text written
            exact ih element member written (.list :: frames)
  | object entries ih =>
      cases written with
      | object separated =>
          refine .of_bracketed .object (fun before blanks text => ?_) fun rest =>
            skipsIn_separated separated ?_ ?_ rest
          · rw [skipStart, skipBlanks_append_cons blanks (by decide)]
            rfl
          · intro entry text written
            obtain ⟨_, _, _⟩ := written
            exact ⟨'"', _, by rw [Text.quoted_toList, List.cons_append], by decide, by decide⟩
          · intro entry member text written
            exact written.skips fun value inner => ih entry member inner (.object :: frames)

/-- Skipping stops right after a value, whatever blanks stand before it. -/
theorem skipValue_written {tree : Tree} {text before rest : List Char}
    (written : Written tree text) (blanks : AreBlanks before) (delimited : IsDelimited rest) :
    skipValue (before ++ (text ++ rest)) = .ok rest := by
  obtain ⟨state, steps, started, few, skips⟩ := written.skips [] blanks delimited
  have enough : steps ≤ (before ++ (text ++ rest)).length := by
    simp only [List.length_append]
    omega
  rw [skipValue, started]
  exact (skips _ enough).trans (by rw [skipRest.eq_def])

end SnapshotTypes.Json
