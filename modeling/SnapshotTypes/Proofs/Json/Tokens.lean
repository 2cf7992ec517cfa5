import SnapshotTypes.Json.Number
import SnapshotTypes.Proofs.Json.Outcomes
import SnapshotTypes.Proofs.Json.Strings
import SnapshotTypes.Proofs.Json.Tree

/-!
# Tokens and what surrounds them

Blanks before a token are skipped. A number ends at the first character that cannot go on with it,
which holds of all that may follow a value. A fault in a number or a word has no steps. The first
character of a value tells its kind.
-/

set_option autoImplicit false

namespace SnapshotTypes.Json

/-!
## Blanks
-/

theorem isBlank_iff {c : Char} :
    isBlank c = true ↔ c = ' ' ∨ c = '\n' ∨ c = '\t' ∨ c = '\r' := by
  simp only [isBlank, Bool.or_eq_true, beq_iff_eq, or_assoc]

theorem skipBlanks_append {before : List Char} (blanks : AreBlanks before) (rest : List Char) :
    skipBlanks (before ++ rest) = skipBlanks rest :=
  List.dropWhile_append_of_pos blanks

theorem skipBlanks_cons {c : Char} (visible : isBlank c = false) (rest : List Char) :
    skipBlanks (c :: rest) = c :: rest :=
  List.dropWhile_cons_of_neg (by simp [visible])

theorem skipBlanks_append_cons {before : List Char} (blanks : AreBlanks before) {c : Char}
    (visible : isBlank c = false) (rest : List Char) :
    skipBlanks (before ++ c :: rest) = c :: rest := by
  rw [skipBlanks_append blanks, skipBlanks_cons visible]

/-!
## Numbers
-/

/-- The characters that can stand in a number after its first one. -/
def continuesNumber (c : Char) : Bool :=
  c.isDigit || c == '.' || c == 'e' || c == 'E'

/-- A text that no number before it can go on with. -/
def IsDelimited (rest : List Char) : Prop :=
  ∀ c ∈ rest.head?, continuesNumber c = false

/-- A text that no digits before it can go on with. -/
def HasNoDigit (rest : List Char) : Prop :=
  ∀ c ∈ rest.head?, c.isDigit = false

theorem isDelimited_nil : IsDelimited [] := by
  intro c head
  cases head

theorem isDelimited_cons {c : Char} (stops : continuesNumber c = false) (rest : List Char) :
    IsDelimited (c :: rest) := by
  intro d head
  cases head
  exact stops

theorem hasNoDigit_cons {c : Char} (stops : c.isDigit = false) (rest : List Char) :
    HasNoDigit (c :: rest) := by
  intro d head
  cases head
  exact stops

theorem isDelimited_append {gap rest : List Char} (blanks : AreBlanks gap)
    (delimited : IsDelimited rest) : IsDelimited (gap ++ rest) := by
  cases gap with
  | nil => exact delimited
  | cons c gap =>
      have blank := blanks c List.mem_cons_self
      rcases isBlank_iff.mp blank with rfl | rfl | rfl | rfl <;>
        exact isDelimited_cons (by decide) _

theorem ne_of_isDigit {c d : Char} (digit : c.isDigit = true) (other : d.isDigit = false) :
    c ≠ d := by
  intro same
  rw [same, other] at digit
  cases digit

theorem IsDelimited.hasNoDigit {rest : List Char} (delimited : IsDelimited rest) :
    HasNoDigit rest := by
  intro c head
  have stops := delimited c head
  simp only [continuesNumber, Bool.or_eq_false_iff] at stops
  exact stops.1.1.1

theorem takeDigits_append {digits rest : List Char} (areDigits : AreDigits digits)
    (stops : HasNoDigit rest) : takeDigits (digits ++ rest) = (digits, rest) := by
  have ends : rest.takeWhile Char.isDigit = [] ∧ rest.dropWhile Char.isDigit = rest := by
    cases rest with
    | nil => exact ⟨rfl, rfl⟩
    | cons c rest =>
        have other : ¬ c.isDigit = true := by simp [stops c rfl]
        exact ⟨List.takeWhile_cons_of_neg other, List.dropWhile_cons_of_neg other⟩
  rw [takeDigits, List.takeWhile_append_of_pos areDigits, List.dropWhile_append_of_pos areDigits,
    ends.1, ends.2, List.append_nil]

theorem readDigits_append {first : Char} {digits rest : List Char} (atEnd : Malformation)
    (areDigits : AreDigits (first :: digits)) (stops : HasNoDigit rest) :
    readDigits atEnd (first :: (digits ++ rest)) = .ok (first :: digits, rest) := by
  rw [readDigits, ← List.cons_append, takeDigits_append areDigits stops]

theorem hasNoDigit_dropWhile (text : List Char) : HasNoDigit (text.dropWhile Char.isDigit) := by
  intro c head
  have stops := List.head?_dropWhile_not Char.isDigit text
  rw [Option.mem_def.mp head] at stops
  exact stops

/-- The digits that are read are all that the text begins with. -/
theorem readDigits_eq_ok_iff {atEnd : Malformation} {text digits rest : List Char} :
    readDigits atEnd text = .ok (digits, rest) ↔
      digits ≠ [] ∧ AreDigits digits ∧ HasNoDigit rest ∧ text = digits ++ rest := by
  constructor
  · intro read
    have areDigits : AreDigits (takeDigits text).1 := List.all_eq_true.mp List.all_takeWhile
    have stops : HasNoDigit (takeDigits text).2 := hasNoDigit_dropWhile text
    have split : (takeDigits text).1 ++ (takeDigits text).2 = text :=
      List.takeWhile_append_dropWhile
    rw [readDigits] at read
    generalize takeDigits text = result at read areDigits stops split
    obtain ⟨taken, left⟩ := result
    cases taken with
    | nil => cases left <;> cases read
    | cons first more =>
        obtain ⟨rfl, rfl⟩ := Prod.mk.inj (Except.ok.inj read)
        exact ⟨List.cons_ne_nil first more, areDigits, stops, split.symm⟩
  · intro given
    obtain ⟨notEmpty, areDigits, stops, rfl⟩ := given
    cases digits with
    | nil => exact absurd rfl notEmpty
    | cons first more => exact readDigits_append atEnd areDigits stops

theorem readWhole_append {whole rest : List Char} (atEnd : Malformation) (isWhole : IsWhole whole)
    (stops : HasNoDigit rest) : readWhole atEnd (whole ++ rest) = .ok (whole, rest) := by
  cases isWhole with
  | zero =>
      cases rest with
      | nil => rfl
      | cons c rest => simp [readWhole, stops c rfl]
  | digits digit notZero more =>
      rw [readWhole.eq_def]
      split
      · next starts => exact absurd (List.cons.inj starts).1 notZero
      · exact readDigits_append atEnd (List.forall_mem_cons.mpr ⟨digit, more⟩) stops

theorem readFraction_append {fraction rest : List Char} (atEnd : Malformation)
    (isFraction : IsFraction fraction) (stops : HasNoDigit rest) (noPoint : '.' ∉ rest.head?) :
    ∃ value, readFraction atEnd (fraction ++ rest) = .ok (value, rest) := by
  cases isFraction with
  | absent =>
      refine ⟨none, ?_⟩
      rw [readFraction.eq_def]
      split
      · next starts => exact absurd (by rw [← List.nil_append rest, starts]; rfl) noPoint
      · rfl
  | @digits first digits areDigits =>
      refine ⟨some (first :: digits), ?_⟩
      simp only [readFraction, List.cons_append, readDigits_append atEnd areDigits stops]

/-- Digits without a sign are not taken for one. -/
theorem readExponent_unsigned {atEnd : Malformation} {letter : Char} {text digits rest : List Char}
    (isLetter : letter = 'e' ∨ letter = 'E') (read : readDigits atEnd text = .ok (digits, rest)) :
    readExponent atEnd (letter :: text) = .ok (some (false, digits), rest) := by
  obtain ⟨notEmpty, areDigits, stops, rfl⟩ := readDigits_eq_ok_iff.mp read
  cases digits with
  | nil => exact absurd rfl notEmpty
  | cons first more =>
      have digit := areDigits first List.mem_cons_self
      have noSign : first ≠ '-' ∧ first ≠ '+' :=
        ⟨ne_of_isDigit digit (by decide), ne_of_isDigit digit (by decide)⟩
      simp [readExponent, isLetter, noSign, readDigits_append atEnd areDigits stops]

theorem readExponent_append {exponent rest : List Char} (atEnd : Malformation)
    (isExponent : IsExponent exponent) (delimited : IsDelimited rest) :
    ∃ value, readExponent atEnd (exponent ++ rest) = .ok (value, rest) := by
  cases isExponent with
  | absent =>
      refine ⟨none, ?_⟩
      cases rest with
      | nil => rfl
      | cons c rest =>
          have stops := delimited c rfl
          simp only [continuesNumber, Bool.or_eq_false_iff, beq_eq_false_iff_ne] at stops
          simp [readExponent, stops]
  | @digits letter first sign digits isLetter isSign areDigits =>
      have read := readDigits_append atEnd areDigits delimited.hasNoDigit
      simp only [List.mem_cons, List.not_mem_nil, or_false] at isSign
      rcases isSign with rfl | rfl | rfl
      · exact ⟨some (false, first :: digits), readExponent_unsigned isLetter read⟩
      · exact ⟨some (false, first :: digits), by simp [readExponent, isLetter, read]⟩
      · exact ⟨some (true, first :: digits), by simp [readExponent, isLetter, read]⟩

theorem readWhole_eq_ok_iff {atEnd : Malformation} {text whole rest : List Char} :
    readWhole atEnd text = .ok (whole, rest) ↔
      (whole = ['0'] ∧ HasNoDigit rest ∧ text = '0' :: rest) ∨
        text.head? ≠ some '0' ∧ readDigits atEnd text = .ok (whole, rest) := by
  rw [readWhole.eq_def]
  split
  · next later =>
    cases later with
    | nil => grind [HasNoDigit]
    | cons c later => cases digit : c.isDigit <;> grind [HasNoDigit]
  · next notZero =>
    have head : text.head? ≠ some '0' := by
      intro zero
      obtain ⟨later, rfl⟩ := List.head?_eq_some_iff.mp zero
      exact notZero later rfl
    grind

theorem readFraction_eq_ok_iff {atEnd : Malformation} {text rest : List Char}
    {fraction : Option (List Char)} :
    readFraction atEnd text = .ok (fraction, rest) ↔
      (∃ later digits, text = '.' :: later ∧ fraction = some digits ∧
        readDigits atEnd later = .ok (digits, rest)) ∨
      fraction = none ∧ rest = text ∧ text.head? ≠ some '.' := by
  rw [readFraction.eq_def]
  split
  · next later => grind
  · next noPoint =>
    have head : text.head? ≠ some '.' := by
      intro point
      obtain ⟨later, rfl⟩ := List.head?_eq_some_iff.mp point
      exact noPoint later rfl
    grind

/-- What stands before the digits of an exponent, and whether it is negative. -/
def exponentOpenings : List (List Char × Bool) :=
  [(['e'], false), (['e', '+'], false), (['e', '-'], true),
    (['E'], false), (['E', '+'], false), (['E', '-'], true)]

theorem readExponent_eq_ok_iff {atEnd : Malformation} {text rest : List Char}
    {exponent : Option (Bool × List Char)} :
    readExponent atEnd text = .ok (exponent, rest) ↔
      (∃ opening negative later digits, (opening, negative) ∈ exponentOpenings ∧
        text = opening ++ later ∧ exponent = some (negative, digits) ∧
        readDigits atEnd later = .ok (digits, rest)) ∨
      exponent = none ∧ rest = text ∧ text.head? ≠ some 'e' ∧ text.head? ≠ some 'E' := by
  constructor
  · intro read
    cases text with
    | nil => grind [readExponent]
    | cons c later =>
        rw [readExponent.eq_def] at read
        dsimp only at read
        split_ifs at read with letter
        · split at read
          · cases read
          · next digits left found =>
            obtain ⟨rfl, rfl⟩ := Prod.mk.inj (Except.ok.inj read)
            -- The digits begin after a sign, if there is one.
            split at found
            · next after =>
              refine .inl ⟨[c, '-'], true, after, digits, ?_, rfl, rfl, found⟩
              rcases letter with rfl | rfl <;> decide
            · next after =>
              refine .inl ⟨[c, '+'], false, after, digits, ?_, rfl, rfl, found⟩
              rcases letter with rfl | rfl <;> decide
            · refine .inl ⟨[c], false, later, digits, ?_, rfl, rfl, found⟩
              rcases letter with rfl | rfl <;> decide
        · grind
  · intro given
    rcases given with ⟨opening, negative, later, digits, isOpening, rfl, rfl, found⟩ |
      ⟨rfl, rfl, other⟩
    · simp only [exponentOpenings, List.mem_cons, Prod.mk.injEq, List.not_mem_nil, or_false]
        at isOpening
      rcases isOpening with ⟨rfl, rfl⟩ | ⟨rfl, rfl⟩ | ⟨rfl, rfl⟩ | ⟨rfl, rfl⟩ | ⟨rfl, rfl⟩ |
        ⟨rfl, rfl⟩
      · exact readExponent_unsigned (.inl rfl) found
      · simp [readExponent, found]
      · simp [readExponent, found]
      · exact readExponent_unsigned (.inr rfl) found
      · simp [readExponent, found]
      · simp [readExponent, found]
    · cases rest with
      | nil => rfl
      | cons c rest => simp_all [readExponent.eq_def]

theorem readNumberText_eq_ok_iff {atEnd : Malformation} {text rest : List Char}
    {number : NumberText} :
    readNumberText atEnd text = .ok (number, rest) ↔
      ∃ afterWhole afterFraction, readWhole atEnd text = .ok (number.whole, afterWhole) ∧
        readFraction atEnd afterWhole = .ok (number.fraction, afterFraction) ∧
        readExponent atEnd afterFraction = .ok (number.exponent, rest) := by
  constructor
  · intro read
    obtain ⟨⟨digits, afterWhole⟩, whole, read⟩ := exists_of_bind_eq_ok read
    obtain ⟨⟨part, afterFraction⟩, fraction, read⟩ := exists_of_bind_eq_ok read
    obtain ⟨⟨power, afterExponent⟩, exponent, read⟩ := exists_of_bind_eq_ok read
    obtain ⟨rfl, rfl⟩ := Prod.mk.inj (Except.ok.inj read)
    exact ⟨afterWhole, afterFraction, whole, fraction, exponent⟩
  · intro given
    obtain ⟨afterWhole, afterFraction, whole, fraction, exponent⟩ := given
    simp only [readNumberText, whole, fraction, exponent, bind, Except.bind]

theorem IsExponent.hasNoDigit {exponent rest : List Char} (isExponent : IsExponent exponent)
    (delimited : IsDelimited rest) :
    HasNoDigit (exponent ++ rest) ∧ '.' ∉ (exponent ++ rest).head? := by
  cases isExponent with
  | absent =>
      refine ⟨delimited.hasNoDigit, fun point => ?_⟩
      exact absurd (delimited _ point) (by decide)
  | digits isLetter _ _ =>
      rcases isLetter with rfl | rfl
      · exact ⟨hasNoDigit_cons (by decide) _, by simp⟩
      · exact ⟨hasNoDigit_cons (by decide) _, by simp⟩

theorem IsFraction.hasNoDigit {fraction rest : List Char} (isFraction : IsFraction fraction)
    (stops : HasNoDigit rest) : HasNoDigit (fraction ++ rest) := by
  cases isFraction with
  | absent => exact stops
  | digits _ => exact hasNoDigit_cons (by decide) _

theorem skipNumber_append (numeral : Numeral) {rest : List Char} (delimited : IsDelimited rest) :
    skipNumber (numeral.magnitude ++ rest) = .ok rest := by
  obtain ⟨negative, whole, fraction, exponent, isWhole, isFraction, isExponent⟩ := numeral
  obtain ⟨stops, noPoint⟩ := isExponent.hasNoDigit delimited
  obtain ⟨fractionValue, readsFraction⟩ :=
    readFraction_append .invalidNumber isFraction stops noPoint
  obtain ⟨exponentValue, readsExponent⟩ := readExponent_append .invalidNumber isExponent delimited
  simp only [skipNumber, readNumberText, Numeral.magnitude, List.append_assoc,
    readWhole_append .invalidNumber isWhole (isFraction.hasNoDigit stops), readsFraction,
    readsExponent, bind, Except.bind]

/-!
## Faults
-/

theorem faultsHere_readWord (word text : List Char) : FaultsHere (readWord word text) := by
  fun_induction readWord word text with
  | case1 text => exact .ok text
  | case2 => exact .error rfl
  | case3 word c text ih => exact ih
  | case4 => exact .error rfl

theorem faultsHere_readDigits (atEnd : Malformation) (text : List Char) :
    FaultsHere (readDigits atEnd text) := by
  fun_cases readDigits atEnd text
  · exact .error rfl
  · exact .error rfl
  · exact .ok _

theorem faultsHere_readWhole (atEnd : Malformation) (text : List Char) :
    FaultsHere (readWhole atEnd text) := by
  fun_cases readWhole atEnd text
  · exact .error rfl
  · exact .ok _
  · exact .ok _
  · exact faultsHere_readDigits atEnd text

theorem faultsHere_readFraction (atEnd : Malformation) (text : List Char) :
    FaultsHere (readFraction atEnd text) := by
  fun_cases readFraction atEnd text
  · next digits fault failed => exact .error (faultsHere_readDigits atEnd digits fault failed)
  · exact .ok _
  · exact .ok _

theorem faultsHere_readExponent (atEnd : Malformation) (text : List Char) :
    FaultsHere (readExponent atEnd text) := by
  fun_cases readExponent atEnd text
  · next failed => exact .error (faultsHere_readDigits atEnd _ _ failed)
  · exact .ok _
  · exact .ok _
  · exact .ok _

theorem faultsHere_readNumberText (atEnd : Malformation) (text : List Char) :
    FaultsHere (readNumberText atEnd text) :=
  (faultsHere_readWhole atEnd text).bind fun _ =>
    (faultsHere_readFraction atEnd _).bind fun _ =>
      (faultsHere_readExponent atEnd _).bind fun _ => .ok _

theorem faultsHere_found (number : NumberText) (negative : Bool) (rest : List Char) :
    FaultsHere (number.found negative rest) := by
  unfold NumberText.found
  dsimp only
  split
  · split
    · exact .ok _
    · split <;> exact .ok _
  · split
    · split
      · exact .error rfl
      · exact .ok _
    · split
      · exact .error rfl
      · exact .ok _

theorem faultsHere_readNumber (negative : Bool) (text : List Char) :
    FaultsHere (readNumber negative text) :=
  (faultsHere_readNumberText .endInValue text).bind fun _ =>
    (faultsHere_found _ negative _).bind fun _ => .ok _

/-!
## First characters
-/

/-- The characters that a value of a certain kind can begin with. -/
def Tree.BeginsWith : Tree → Char → Prop
  | .null, c => c = 'n'
  | .boolean _, c => c = 't' ∨ c = 'f'
  | .number _, c => c = '-' ∨ c.isDigit = true
  | .text _, c => c = '"'
  | .list _, c => c = '['
  | .object _, c => c = '{'

theorem Numeral.magnitude_eq_cons (numeral : Numeral) :
    ∃ c rest, numeral.magnitude = c :: rest ∧ c.isDigit = true := by
  obtain ⟨negative, whole, fraction, exponent, isWhole, isFraction, isExponent⟩ := numeral
  cases isWhole with
  | zero => exact ⟨'0', _, rfl, rfl⟩
  | digits digit _ _ => exact ⟨_, _, rfl, digit⟩

theorem Written.eq_cons {tree : Tree} {text : List Char} (written : Written tree text) :
    ∃ c rest, text = c :: rest ∧ tree.BeginsWith c := by
  cases written with
  | number numeral =>
      obtain ⟨c, rest, spelled, digit⟩ := numeral.magnitude_eq_cons
      unfold Numeral.text
      split
      · exact ⟨'-', _, rfl, .inl rfl⟩
      · exact ⟨c, rest, spelled, .inr digit⟩
  | text value => exact ⟨'"', _, Text.quoted_toList value, rfl⟩
  | true => exact ⟨_, _, rfl, .inl rfl⟩
  | false => exact ⟨_, _, rfl, .inr rfl⟩
  | _ => exact ⟨_, _, rfl, rfl⟩

theorem Written.length_pos {tree : Tree} {text : List Char} (written : Written tree text) :
    0 < text.length := by
  obtain ⟨c, rest, rfl, _⟩ := written.eq_cons
  exact Nat.succ_pos _

/-- No value begins with a character that stands between values. -/
theorem Tree.not_beginsWith (tree : Tree) :
    ∀ c ∈ [' ', '\n', '\t', '\r', ',', ']'], ¬ tree.BeginsWith c := by
  cases tree <;> simp [BeginsWith]

namespace Tree.BeginsWith

variable {tree : Tree} {c : Char}

theorem ne_of {d : Char} (begins : tree.BeginsWith c) (never : ¬ tree.BeginsWith d) : c ≠ d :=
  fun same => never (same ▸ begins)

theorem not_blank (begins : tree.BeginsWith c) : isBlank c = false := by
  cases blank : isBlank c with
  | false => rfl
  | true =>
      have between : c ∈ [' ', '\n', '\t', '\r', ',', ']'] := by
        rcases isBlank_iff.mp blank with rfl | rfl | rfl | rfl <;> decide
      exact absurd begins (tree.not_beginsWith c between)

theorem ne_comma (begins : tree.BeginsWith c) : c ≠ ',' :=
  begins.ne_of (tree.not_beginsWith ',' (by decide))

theorem ne_closer (begins : tree.BeginsWith c) : c ≠ ']' :=
  begins.ne_of (tree.not_beginsWith ']' (by decide))

end Tree.BeginsWith

theorem Separated.areBlanks {α : Type} {writes : α → List Char → Prop} {opened : Bool}
    {text : List Char} (separated : Separated writes opened [] text) : AreBlanks text := by
  cases separated with
  | finished blanks => exact blanks

/-- What follows a value in a list or an object does not go on with it. -/
theorem Separated.isDelimited {α : Type} {writes : α → List Char → Prop} {values : List α}
    {text : List Char} {closer : Char} (separated : Separated writes false values text)
    (stops : continuesNumber closer = false) (rest : List Char) :
    IsDelimited (text ++ closer :: rest) := by
  cases separated with
  | finished blanks => exact isDelimited_append blanks (isDelimited_cons stops rest)
  | next blanks _ _ _ =>
      rw [List.append_assoc]
      exact isDelimited_append blanks (isDelimited_cons (by decide) _)

end SnapshotTypes.Json
