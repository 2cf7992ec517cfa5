import SnapshotTypes.Proofs.Json.Strings
import SnapshotTypes.Yaml.Scalar
import Mathlib.Tactic.SplitIfs

/-!
# Quoted ASCII text as a scalar in double quotes

YAML reads a text back that is quoted with the escapes of JSON, if all its characters stand below
the delete character. Spaces are left as they are, since no line break stands among them.
-/

set_option autoImplicit false

namespace SnapshotTypes.Yaml

open Text (escapedChar escapedChar_escapedAs length_le_length_flatMap_escapedChar)

/-!
## Places on a line
-/

theorem Cursor.rest_skip {cursor : Cursor} {text rest : List Char}
    (spelled : cursor.rest = text ++ rest) : (cursor.skip text.length).rest = rest := by
  rw [Cursor.skip, spelled, List.drop_left]

theorem Cursor.skip_skip (cursor : Cursor) (first second : Nat) :
    (cursor.skip first).skip second = cursor.skip (first + second) := by
  simp [Cursor.skip, Mark.right, List.drop_drop, Nat.add_assoc]

@[simp] theorem Cursor.skip_zero (cursor : Cursor) : cursor.skip 0 = cursor :=
  rfl

/-- Documents are separated at the start of a line only. -/
theorem Cursor.atDocumentIndicator_of_column_pos {cursor : Cursor} (inside : 0 < cursor.column) :
    cursor.atDocumentIndicator = false := by
  rw [Cursor.atDocumentIndicator, beq_false_of_ne (Nat.ne_of_gt inside), Bool.false_and]

/-!
## Characters
-/

/-- Neither white space within a line nor a line break. -/
def IsVisible (c : Char) : Prop :=
  isBlank c = false ∧ isBreak c = false

instance (c : Char) : Decidable (IsVisible c) :=
  inferInstanceAs (Decidable (_ ∧ _))

theorem isVisible_of_toNat {c : Char} (above : 0x20 < c.toNat) (below : c.toNat < 0x7f) :
    IsVisible c := by
  constructor
  · refine Bool.eq_false_iff.mpr fun blank => ?_
    simp only [isBlank, Bool.or_eq_true, beq_iff_eq] at blank
    rcases blank with rfl | rfl <;> revert above <;> decide
  · refine Bool.eq_false_iff.mpr fun lineBreak => ?_
    simp only [isBreak, Bool.or_eq_true, beq_iff_eq] at lineBreak
    rcases lineBreak with (((rfl | rfl) | rfl) | rfl) | rfl <;> revert above below <;> decide

/-- The escapes of JSON mean the same in YAML. -/
theorem escaped?_of_json {letter c : Char} (means : Json.escaped? letter = some c) :
    escaped? letter = some c ∧ isBreak letter = false := by
  unfold Json.escaped? at means
  split_ifs at means <;> cases means <;> subst letter <;> decide

theorem hexNumber?_of_json {first second third fourth : Char} {code : Nat}
    (value : Json.hexValue4? first second third fourth = some code) (rest : List Char) :
    hexNumber? 4 0 (first :: second :: third :: fourth :: rest) = some code := by
  simp only [Json.hexValue4?, Option.bind_eq_bind, Option.bind_eq_some_iff,
    Option.pure_def] at value
  obtain ⟨a, ha, b, hb, c, hc, d, hd, total⟩ := value
  simp [hexNumber?, ha, hb, hc, hd, ← Option.some.inj total]

/-- How a character other than the space begins between double quotes. -/
theorem escapedChar_eq_cons {c : Char} (noSpace : c ≠ ' ') (ascii : c.toNat < 0x7f) :
    ∃ first more, escapedChar c = first :: more ∧ IsVisible first := by
  have escaped := escapedChar_escapedAs c
  generalize escapedChar c = body at escaped
  cases escaped with
  | letter _ _ _ => exact ⟨_, _, rfl, by decide⟩
  | code _ _ _ _ => exact ⟨_, _, rfl, by decide⟩
  | plain _ _ visible =>
      have noCode : c.toNat ≠ 0x20 := fun same => noSpace (Char.toNat_inj.mp same)
      exact ⟨c, [], rfl, isVisible_of_toNat (by omega) ascii⟩

theorem flatMap_escapedChar_spaces (count : Nat) :
    (List.replicate count ' ').flatMap escapedChar = List.replicate count ' ' := by
  induction count with
  | zero => rfl
  | succ count ih => rw [List.replicate_succ, List.flatMap_cons, ih]; rfl

/-!
## Runs without spaces
-/

theorem readDoubleRun_escaped_cons {c : Char} (noSpace : c ≠ ' ') (ascii : c.toNat < 0x7f)
    (start : Mark) (b : Char) (budget : List Char) {cursor : Cursor} {rest : List Char}
    (spelled : cursor.rest = escapedChar c ++ rest) :
    readDoubleRun start (b :: budget) cursor =
      QuotedRun.prepend c (readDoubleRun start budget (cursor.skip (escapedChar c).length)) := by
  have escaped := escapedChar_escapedAs c
  generalize escapedChar c = body at escaped spelled
  rw [readDoubleRun, spelled]
  cases escaped with
  | letter notCode means _ =>
      obtain ⟨means, noBreak⟩ := escaped?_of_json means
      simp [isBlank, noBreak, readEscape, means, (by decide : isBreak '\\' = false)]
  | @code third fourth control value _ _ =>
      have number := hexNumber?_of_json value rest
      have after : (cursor.skip 2).rest = '0' :: '0' :: third :: fourth :: rest := by
        rw [Cursor.skip, spelled]
        rfl
      have plain : ¬((0xd800 ≤ c.toNat ∧ c.toNat ≤ 0xdfff) ∨ 0x10ffff < c.toNat) := by
        omega
      simp [isBlank, isBreak, readEscape, escaped?, codeLength?, readCode, after, number, plain,
        Char.ofNat_toNat, Cursor.skip_skip]
  | plain quote backslash visible =>
      have noCode : c.toNat ≠ 0x20 := fun same => noSpace (Char.toNat_inj.mp same)
      obtain ⟨noBlank, noBreak⟩ : IsVisible c := isVisible_of_toNat (by omega) ascii
      simp [noBlank, noBreak, quote, backslash]

/-- A run ends before white space and before the closing quote. -/
theorem readDoubleRun_escaped {word : List Char}
    (plain : ∀ c ∈ word, c ≠ ' ' ∧ c.toNat < 0x7f) (start : Mark) {budget : List Char}
    (enough : word.length < budget.length) {cursor : Cursor} {c : Char} {rest : List Char}
    (ends : c = ' ' ∨ c = '"') (spelled : cursor.rest = word.flatMap escapedChar ++ c :: rest) :
    readDoubleRun start budget cursor =
      .ok ⟨word, false, cursor.skip (word.flatMap escapedChar).length⟩ := by
  induction word generalizing budget cursor with
  | nil =>
      obtain ⟨b, budget, rfl⟩ := List.exists_cons_of_length_pos (Nat.zero_lt_of_lt enough)
      rw [readDoubleRun, spelled]
      rcases ends with rfl | rfl <;> rfl
  | cons d word ih =>
      obtain ⟨b, budget, rfl⟩ := List.exists_cons_of_length_pos (Nat.zero_lt_of_lt enough)
      obtain ⟨⟨noSpace, ascii⟩, others⟩ := List.forall_mem_cons.mp plain
      rw [List.flatMap_cons, List.append_assoc] at spelled
      rw [readDoubleRun_escaped_cons noSpace ascii start b budget spelled,
        ih others (Nat.lt_of_succ_lt_succ enough) (Cursor.rest_skip spelled), QuotedRun.prepend,
        Cursor.skip_skip, List.flatMap_cons, List.length_append]

/-!
## Spaces between runs
-/

theorem readGap_spaces (limit : Int) {count : Nat} {budget : List Char}
    (enough : count < budget.length) (before : List Char) {cursor : Cursor} {c : Char}
    {rest : List Char} (visible : IsVisible c)
    (spelled : cursor.rest = List.replicate count ' ' ++ c :: rest) :
    readGap limit budget (.blanks before) cursor =
      .ok (.blanks (before ++ List.replicate count ' '), cursor.skip count) := by
  induction count generalizing budget before cursor with
  | zero =>
      obtain ⟨b, budget, rfl⟩ := List.exists_cons_of_length_pos (Nat.zero_lt_of_lt enough)
      rw [readGap, spelled]
      simp [visible.1, visible.2]
  | succ count ih =>
      obtain ⟨b, budget, rfl⟩ := List.exists_cons_of_length_pos (Nat.zero_lt_of_lt enough)
      have next : (cursor.skip 1).rest = List.replicate count ' ' ++ c :: rest := by
        rw [Cursor.skip, spelled]
        rfl
      rw [readGap, spelled, List.replicate_succ, List.cons_append]
      simp only [isBlank, BEq.rfl, Bool.true_or, if_pos, Gap.isBroken, Bool.false_eq_true,
        false_and, if_false, Gap.addBlank]
      rw [ih (Nat.lt_of_succ_lt_succ enough) _ next, Cursor.skip_skip, Nat.add_comm 1,
        List.append_assoc, List.singleton_append]

/-- A text is a run without spaces, spaces, and what is left after them. -/
theorem exists_run_spaces (text : List Char) :
    ∃ word count more, text = word ++ (List.replicate count ' ' ++ more) ∧ (∀ c ∈ word, c ≠ ' ') ∧
      (∀ c later, more = c :: later → c ≠ ' ') ∧ (count = 0 → more = []) := by
  induction text with
  | nil => exact ⟨[], 0, [], rfl, by simp, by simp, fun _ => rfl⟩
  | cons c text ih =>
      obtain ⟨word, count, more, rfl, noSpace, ends, closed⟩ := ih
      by_cases space : c = ' '
      · subst space
        cases word with
        | nil => exact ⟨[], count + 1, more, rfl, by simp, ends, by simp⟩
        | cons d word =>
            refine ⟨[], 1, d :: word ++ (List.replicate count ' ' ++ more), rfl, by simp, ?_,
              by simp⟩
            intro e later same
            obtain ⟨rfl, -⟩ := List.cons.inj same
            exact noSpace d List.mem_cons_self
      · exact ⟨c :: word, count, more, rfl, List.forall_mem_cons.mpr ⟨space, noSpace⟩, ends, closed⟩

/-!
## Scalars
-/

theorem readQuotedFrom_cons (start : Mark) (b : Char) (budget : List Char) {cursor : Cursor}
    (inside : 0 < cursor.column) {word : List Char}
    (plain : ∀ c ∈ word, c ≠ ' ' ∧ c.toNat < 0x7f) {c : Char} {rest : List Char}
    (ends : c = ' ' ∨ c = '"') (spelled : cursor.rest = word.flatMap escapedChar ++ c :: rest)
    {next : Cursor} (after : cursor.skip (word.flatMap escapedChar).length = next) :
    readQuotedFrom '"' start (b :: budget) cursor =
      if c = '"' then .ok (word, next.skip 1)
      else
        match readGap 0 next.rest .empty next with
        | .error tab =>
          .error (.within .scanningQuotedScalar start .tabViolatesIndentation tab.mark)
        | .ok (gap, next) =>
          match readQuotedFrom '"' start budget next with
          | .error fault => .error fault
          | .ok (text, after) => .ok (word ++ gap.text ++ text, after) := by
  have enough : word.length < cursor.rest.length := by
    have := length_le_length_flatMap_escapedChar word
    rw [spelled, List.length_append, List.length_cons]
    omega
  have run := readDoubleRun_escaped plain start enough ends spelled
  have head : next.rest.head? = some c := by
    rw [← after, Cursor.rest_skip spelled, List.head?_cons]
  obtain ⟨d, later, begins⟩ := List.exists_cons_of_length_pos (Nat.zero_lt_of_lt enough)
  rw [after, begins] at run
  rw [readQuotedFrom.eq_def]
  dsimp only
  rw [Cursor.atDocumentIndicator_of_column_pos inside, readQuotedRun, begins, run,
    if_neg Bool.false_ne_true, if_neg (by decide)]
  simp only [head, Option.some.injEq]
  rfl

theorem readQuotedFrom_escaped (start : Mark) {text : List Char}
    (ascii : ∀ c ∈ text, c.toNat < 0x7f) {budget : List Char}
    (enough : text.length < budget.length) {cursor : Cursor} {rest : List Char}
    (inside : 0 < cursor.column)
    (spelled : cursor.rest = text.flatMap escapedChar ++ '"' :: rest) :
    readQuotedFrom '"' start budget cursor =
      .ok (text, cursor.skip ((text.flatMap escapedChar).length + 1)) := by
  -- Every turn reads a run and the spaces after it, so that a shorter text is left.
  induction budget generalizing text cursor with
  | nil => exact absurd enough (Nat.not_lt_zero _)
  | cons b budget ih =>
      obtain ⟨word, count, more, rfl, noSpace, ends, closed⟩ := exists_run_spaces text
      have plain : ∀ c ∈ word, c ≠ ' ' ∧ c.toNat < 0x7f := fun c member =>
        ⟨noSpace c member, ascii c (List.mem_append_left _ member)⟩
      simp only [List.flatMap_append, flatMap_escapedChar_spaces, List.append_assoc] at spelled ⊢
      cases count with
      | zero =>
          obtain rfl := closed rfl
          rw [readQuotedFrom_cons start b budget inside plain (.inr rfl) spelled rfl, if_pos rfl,
            Cursor.skip_skip]
          simp only [List.replicate_zero, List.flatMap_nil, List.append_nil]
      | succ count =>
          have asciiMore : ∀ c ∈ more, c.toNat < 0x7f := fun c member =>
            ascii c (List.mem_append_right _ (List.mem_append_right _ member))
          obtain ⟨c, later, begins, visible⟩ :
              ∃ c later, more.flatMap escapedChar ++ '"' :: rest = c :: later ∧ IsVisible c := by
            cases more with
            | nil => exact ⟨_, _, rfl, by decide⟩
            | cons c more =>
                obtain ⟨first, tail, body, visible⟩ :=
                  escapedChar_eq_cons (ends c more rfl) (asciiMore c List.mem_cons_self)
                rw [List.flatMap_cons, body, List.cons_append, List.cons_append]
                exact ⟨first, _, rfl, visible⟩
          have afterRun := Cursor.rest_skip spelled
          have afterGap := Cursor.rest_skip afterRun
          rw [List.length_replicate] at afterGap
          have spaces :
              count + 1 < (cursor.skip (word.flatMap escapedChar).length).rest.length := by
            rw [afterRun, begins, List.length_append, List.length_replicate, List.length_cons]
            omega
          have shorter : more.length < budget.length := by
            simp only [List.length_append, List.length_replicate, List.length_cons] at enough
            omega
          rw [readQuotedFrom_cons start b budget inside plain (.inl rfl) spelled rfl,
            if_neg (by decide), Gap.empty, readGap_spaces 0 spaces [] visible (begins ▸ afterRun)]
          dsimp only
          rw [ih asciiMore shorter (Nat.add_pos_left (Nat.add_pos_left inside _) _) afterGap]
          simp only [Gap.text, List.nil_append, List.append_assoc, Cursor.skip_skip,
            List.length_append, List.length_replicate, Nat.add_assoc]

def inQuotes (text : List Char) : List Char :=
  '"' :: (text.flatMap escapedChar ++ ['"'])

theorem quoted_toList_eq_inQuotes (text : String) :
    (Text.quoted text).toList = inQuotes text.toList :=
  Text.quoted_toList text

theorem inQuotes_append (text rest : List Char) :
    inQuotes text ++ rest = '"' :: (text.flatMap escapedChar ++ '"' :: rest) := by
  rw [inQuotes, List.cons_append, List.append_assoc, List.singleton_append]

theorem readQuoted_inQuotes {text : List Char} (ascii : ∀ c ∈ text, c.toNat < 0x7f)
    {cursor : Cursor} {rest : List Char} (spelled : cursor.rest = inQuotes text ++ rest) :
    readQuoted '"' cursor = .ok (text, cursor.skip (inQuotes text).length) := by
  rw [inQuotes_append] at spelled
  have enough : text.length < cursor.rest.length := by
    have := length_le_length_flatMap_escapedChar text
    rw [spelled, List.length_cons, List.length_append, List.length_cons]
    omega
  have inside : 0 < (cursor.skip 1).column := Nat.succ_pos _
  have inner : (cursor.skip 1).rest = text.flatMap escapedChar ++ '"' :: rest := by
    rw [Cursor.skip, spelled, List.drop_one, List.tail_cons]
  rw [readQuoted, readQuotedFrom_escaped _ ascii enough inside inner, Cursor.skip_skip, inQuotes,
    List.length_cons, List.length_append, List.length_singleton, Nat.add_comm 1]

end SnapshotTypes.Yaml
