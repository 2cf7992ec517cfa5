import SnapshotTypes.Json.Skipping
import SnapshotTypes.Proofs.Json.Brackets

/-!
# Locality

A reader does not see beyond what it takes, apart from the character that comes next, which ends a
number. Where a text goes on with the same character, it takes the same from it.
-/

set_option autoImplicit false

namespace SnapshotTypes.Json

section Steps

variable {ρ σ τ υ : Type} {text middle left rest : List Char}

/-- A step takes `least` characters or more of a text and leaves `rest`. On a text that begins with
them and goes on with the same character, it does the same and leaves what comes after. -/
def Takes (least : Nat) (step : List Char → Except Fault ρ) (text rest : List Char)
    (leaving : List Char → ρ) : Prop :=
  ∃ lead, text = lead ++ rest ∧ least ≤ lead.length ∧
    ∀ other, other.head? = rest.head? → step (lead ++ other) = .ok (leaving other)

/-- The same of a loop, with any budget that is longer than what it takes. -/
def TakesWithin (loop : List Char → List Char → Except Fault ρ) (text rest : List Char)
    (leaving : List Char → ρ) : Prop :=
  ∃ lead, text = lead ++ rest ∧
    ∀ budget other, lead.length < budget.length → other.head? = rest.head? →
      loop budget (lead ++ other) = .ok (leaving other)

theorem head?_append_congr {other : List Char} (lead : List Char)
    (alike : other.head? = rest.head?) : (lead ++ other).head? = (lead ++ rest).head? := by
  rw [List.head?_append, List.head?_append, alike]

variable {least fewer further more : Nat} {first : List Char → Except Fault σ}
  {next : List Char → Except Fault τ} {last : List Char → Except Fault υ}
  {step : List Char → Except Fault ρ} {opened : List Char → σ} {closed : List Char → τ}
  {ended : List Char → υ} {leaving : List Char → ρ}

theorem Takes.weaken (takes : Takes least step text rest leaving) (le : fewer ≤ least) :
    Takes fewer step text rest leaving := by
  obtain ⟨lead, split, enough, same⟩ := takes
  exact ⟨lead, split, Nat.le_trans le enough, same⟩

theorem Takes.map (takes : Takes least first text rest opened)
    (changed : ∀ ⦃text left⦄, first text = .ok (opened left) → step text = .ok (leaving left)) :
    Takes least step text rest leaving := by
  obtain ⟨lead, split, enough, same⟩ := takes
  exact ⟨lead, split, enough, fun other alike => changed (same other alike)⟩

/-- Whatever goes on where the first step stopped begins alike there, so that the first step takes
the same. -/
theorem Takes.trans (opening : Takes least first text middle opened)
    (closing : Takes further next middle rest closed)
    (joined : ∀ ⦃text left after⦄, first text = .ok (opened left) →
      next left = .ok (closed after) → step text = .ok (leaving after)) :
    Takes least step text rest leaving := by
  obtain ⟨lead, rfl, enough, opens⟩ := opening
  obtain ⟨later, rfl, -, closes⟩ := closing
  refine ⟨lead ++ later, (List.append_assoc lead later rest).symm, ?_, fun other alike => ?_⟩
  · rw [List.length_append]
    exact Nat.le_add_right_of_le enough
  · rw [List.append_assoc]
    exact joined (opens _ (head?_append_congr later alike)) (closes other alike)

theorem Takes.trans₂ (opening : Takes least first text middle opened)
    (closing : Takes further next middle left closed) (ending : Takes more last left rest ended)
    (joined : ∀ ⦃text middle left after⦄, first text = .ok (opened middle) →
      next middle = .ok (closed left) → last left = .ok (ended after) →
      step text = .ok (leaving after)) :
    Takes least step text rest leaving := by
  obtain ⟨lead, rfl, enough, opens⟩ := opening
  obtain ⟨later, rfl, -, closes⟩ := closing
  obtain ⟨latest, rfl, -, ends⟩ := ending
  refine ⟨lead ++ (later ++ latest), by simp, ?_, fun other alike => ?_⟩
  · rw [List.length_append]
    exact Nat.le_add_right_of_le enough
  · have after := head?_append_congr latest alike
    rw [List.append_assoc, List.append_assoc]
    exact joined (opens _ (head?_append_congr later after)) (closes _ after) (ends other alike)

/-- Two steps before the loop goes on take a character at least, which pays for their part of the
budget. -/
theorem TakesWithin.cons {loop : List Char → List Char → Except Fault ρ}
    {later : List Char → List Char → Except Fault υ}
    (opening : Takes least first text middle opened)
    (closing : Takes further next middle left closed) (one : 1 ≤ least + further)
    (ending : TakesWithin later left rest ended)
    (joined : ∀ ⦃c budget text middle left after⦄, first text = .ok (opened middle) →
      next middle = .ok (closed left) → later budget left = .ok (ended after) →
      loop (c :: budget) text = .ok (leaving after)) :
    TakesWithin loop text rest leaving := by
  obtain ⟨lead, rfl, enough, opens⟩ := opening
  obtain ⟨after, rfl, enoughAfter, closes⟩ := closing
  obtain ⟨latest, rfl, ends⟩ := ending
  refine ⟨lead ++ (after ++ latest), by simp, fun budget other longer alike => ?_⟩
  obtain ⟨c, budget, rfl⟩ := List.exists_cons_of_length_pos (Nat.zero_lt_of_lt longer)
  simp only [List.length_append, List.length_cons] at longer
  have goesOn := head?_append_congr latest alike
  rw [List.append_assoc, List.append_assoc]
  exact joined (opens _ (head?_append_congr after goesOn)) (closes _ goesOn)
    (ends budget other (by omega) alike)

theorem Takes.uncons {c : Char} (takes : Takes (least + 1) step (c :: text) rest leaving) :
    Takes least (fun text => step (c :: text)) text rest leaving := by
  obtain ⟨lead, split, enough, same⟩ := takes
  cases lead with
  | nil => cases enough
  | cons d lead =>
      obtain ⟨rfl, rfl⟩ := List.cons.inj split
      exact ⟨lead, rfl, Nat.le_of_succ_le_succ enough, same⟩

theorem Takes.after (lead : List Char) (takes : Takes least next text rest closed)
    (passed : ∀ ⦃text after⦄, next text = .ok (closed after) →
      step (lead ++ text) = .ok (leaving after)) :
    Takes least step (lead ++ text) rest leaving := by
  obtain ⟨later, rfl, enough, same⟩ := takes
  refine ⟨lead ++ later, (List.append_assoc lead later rest).symm, ?_, fun other alike => ?_⟩
  · rw [List.length_append]
    exact Nat.le_add_left_of_le enough
  · rw [List.append_assoc]
    exact passed (same other alike)

end Steps

variable {text rest : List Char}

/-!
## Tokens
-/

theorem exists_gap {c : Char} {inner : List Char} (skipped : skipBlanks text = c :: inner) :
    ∃ gap, AreBlanks gap ∧ isBlank c = false ∧ text = gap ++ c :: inner := by
  refine ⟨text.takeWhile isBlank, List.all_eq_true.mp List.all_takeWhile, ?_, ?_⟩
  · have stops := List.head?_dropWhile_not isBlank text
    rw [← skipBlanks, skipped] at stops
    exact stops
  · rw [← skipped, skipBlanks, List.takeWhile_append_dropWhile]

theorem takes_skipBlanks {c : Char} {inner : List Char} (skipped : skipBlanks text = c :: inner) :
    Takes 1 (fun text => .ok (skipBlanks text)) text inner (c :: ·) := by
  obtain ⟨gap, blanks, visible, rfl⟩ := exists_gap skipped
  refine ⟨gap ++ [c], by simp, by simp, fun other _ => ?_⟩
  simp [skipBlanks_append_cons blanks visible]

/-- A step that goes by the first character after blanks. -/
theorem Takes.of_skipBlanks {ρ τ : Type} {least : Nat} {next : List Char → Except Fault τ}
    {step : List Char → Except Fault ρ} {closed : List Char → τ} {leaving : List Char → ρ}
    {c : Char} {inner : List Char} (skipped : skipBlanks text = c :: inner)
    (takes : Takes least next inner rest closed)
    (joined : ∀ ⦃text left after⦄, skipBlanks text = c :: left → next left = .ok (closed after) →
      step text = .ok (leaving after)) :
    Takes 1 step text rest leaving :=
  (takes_skipBlanks skipped).trans takes fun _ _ _ first => joined (Except.ok.inj first)

/-- A step that stops after the first character after blanks. -/
theorem takes_first {ρ : Type} {step : List Char → Except Fault ρ} {leaving : List Char → ρ}
    {c : Char} (skipped : skipBlanks text = c :: rest)
    (stops : ∀ ⦃text left⦄, skipBlanks text = c :: left → step text = .ok (leaving left)) :
    Takes 1 step text rest leaving :=
  (takes_skipBlanks skipped).map fun _ _ first => stops (Except.ok.inj first)

theorem takes_readWord {word : List Char} (read : readWord word text = .ok rest) :
    Takes 0 (readWord word) text rest id := by
  fun_induction readWord word text with
  | case1 text =>
      obtain rfl := Except.ok.inj read
      exact ⟨[], rfl, Nat.zero_le _, fun other _ => rfl⟩
  | case3 word c text ih =>
      exact (ih read).after [c] fun _ _ passed => by simpa [readWord] using passed
  | _ => cases read

theorem takes_readBody {leading : Option Nat} {body : List Char}
    (read : readBody leading text = .ok (body, rest)) :
    Takes 1 (readBody leading) text rest (body, ·) := by
  fun_induction readBody leading text generalizing body with
  | case2 text =>
      obtain ⟨rfl, rfl⟩ := Prod.mk.inj (Except.ok.inj read)
      exact ⟨['"'], rfl, Nat.le_refl _, fun other _ => readBody_quote other⟩
  | case6 first second third fourth later code digits noTrailing isLeading _ ih =>
      refine (ih read).after ['\\', 'u', first, second, third, fourth] ?_
      intro text after passed
      rw [readBody.eq_def]
      simp [digits, noTrailing, isLeading, passed]
  | case7 first second third fourth later code digits noTrailing noLeading _ ih =>
      obtain ⟨body, rfl, inner⟩ := consChar_eq_ok read
      refine (ih inner).after ['\\', 'u', first, second, third, fourth] ?_
      intro text after passed
      rw [readBody.eq_def]
      simp [digits, noTrailing, noLeading, passed, consChar]
  | case10 letter later _ notCode c means _ ih =>
      obtain ⟨body, rfl, inner⟩ := consChar_eq_ok read
      refine (ih inner).after ['\\', letter] ?_
      intro text after passed
      rw [readBody.eq_def]
      simp [notCode, means, passed, consChar]
  | case12 c later quote backslash visible ih =>
      obtain ⟨body, rfl, inner⟩ := consChar_eq_ok read
      refine (ih inner).after [c] ?_
      intro text after passed
      rw [readBody.eq_def]
      simp [quote, backslash, visible, passed, consChar]
  | case15 leading first second third fourth later code digits isTrailing ih =>
      obtain ⟨body, rfl, inner⟩ := consChar_eq_ok read
      refine (ih inner).after ['\\', 'u', first, second, third, fourth] ?_
      intro text after passed
      rw [readBody.eq_def]
      simp [digits, isTrailing, passed, consChar]
  | _ => cases read

theorem takes_skipBody (read : skipBody text = .ok rest) : Takes 1 skipBody text rest id := by
  fun_induction skipBody text with
  | case2 text =>
      obtain rfl := Except.ok.inj read
      exact ⟨['"'], rfl, Nat.le_refl _, fun other _ => by simp [skipBody.eq_def]⟩
  | case5 first second third fourth later code digits _ ih =>
      refine (ih read).after ['\\', 'u', first, second, third, fourth] ?_
      intro text after passed
      rw [skipBody.eq_def]
      simpa [digits] using passed
  | case8 letter later _ notCode c means _ ih =>
      refine (ih read).after ['\\', letter] ?_
      intro text after passed
      rw [skipBody.eq_def]
      simpa [notCode, means] using passed
  | case10 c later quote backslash visible ih =>
      refine (ih read).after [c] ?_
      intro text after passed
      rw [skipBody.eq_def]
      simpa [quote, backslash, visible] using passed
  | _ => cases read

theorem takes_readString {value : String} (read : readString text = .ok (value, rest)) :
    Takes 1 readString text rest (value, ·) := by
  obtain ⟨body, found, rfl⟩ := readString_eq_ok_iff.mp read
  exact (takes_readBody found).map fun _ _ passed =>
    readString_eq_ok_iff.mpr ⟨body, passed, rfl⟩

/-!
## Numbers
-/

theorem HasNoDigit.of_head?_eq {other : List Char} (stops : HasNoDigit rest)
    (alike : other.head? = rest.head?) : HasNoDigit other := by
  rwa [HasNoDigit, alike]

theorem takes_readDigits {atEnd : Malformation} {digits : List Char}
    (read : readDigits atEnd text = .ok (digits, rest)) :
    Takes 1 (readDigits atEnd) text rest (digits, ·) := by
  obtain ⟨notEmpty, areDigits, stops, rfl⟩ := readDigits_eq_ok_iff.mp read
  exact ⟨digits, rfl, List.length_pos_iff.mpr notEmpty, fun other alike =>
    readDigits_eq_ok_iff.mpr ⟨notEmpty, areDigits, stops.of_head?_eq alike, rfl⟩⟩

theorem takes_readWhole {atEnd : Malformation} {whole : List Char}
    (read : readWhole atEnd text = .ok (whole, rest)) :
    Takes 1 (readWhole atEnd) text rest (whole, ·) := by
  rcases readWhole_eq_ok_iff.mp read with ⟨rfl, stops, rfl⟩ | ⟨notZero, digits⟩
  · exact ⟨['0'], rfl, Nat.le_refl _, fun other alike =>
      readWhole_eq_ok_iff.mpr (.inl ⟨rfl, stops.of_head?_eq alike, rfl⟩)⟩
  · -- The first digit is among those taken, so that no other text puts a zero in its place.
    obtain ⟨lead, rfl, enough, same⟩ := takes_readDigits digits
    refine ⟨lead, rfl, enough, fun other alike => readWhole_eq_ok_iff.mpr (.inr ⟨?_, ?_⟩)⟩
    · rwa [head?_append_congr lead alike]
    · exact same other alike

theorem takes_readFraction {atEnd : Malformation} {fraction : Option (List Char)}
    (read : readFraction atEnd text = .ok (fraction, rest)) :
    Takes 0 (readFraction atEnd) text rest (fraction, ·) := by
  rcases readFraction_eq_ok_iff.mp read with ⟨later, digits, rfl, rfl, found⟩ | ⟨rfl, rfl, noPoint⟩
  · refine (Takes.after ['.'] (takes_readDigits found) ?_).weaken (Nat.zero_le 1)
    intro text after passed
    exact readFraction_eq_ok_iff.mpr (.inl ⟨text, digits, rfl, rfl, passed⟩)
  · refine ⟨[], rfl, Nat.zero_le _, fun other alike => ?_⟩
    exact readFraction_eq_ok_iff.mpr (.inr ⟨rfl, rfl, alike ▸ noPoint⟩)

theorem takes_readExponent {atEnd : Malformation} {exponent : Option (Bool × List Char)}
    (read : readExponent atEnd text = .ok (exponent, rest)) :
    Takes 0 (readExponent atEnd) text rest (exponent, ·) := by
  rcases readExponent_eq_ok_iff.mp read with
    ⟨opening, negative, later, digits, isOpening, rfl, rfl, found⟩ | ⟨rfl, rfl, noLetter⟩
  · refine (Takes.after opening (takes_readDigits found) ?_).weaken (Nat.zero_le 1)
    intro text after passed
    exact readExponent_eq_ok_iff.mpr
      (.inl ⟨opening, negative, text, digits, isOpening, rfl, rfl, passed⟩)
  · refine ⟨[], rfl, Nat.zero_le _, fun other alike => ?_⟩
    exact readExponent_eq_ok_iff.mpr (.inr ⟨rfl, rfl, alike ▸ noLetter⟩)

theorem takes_readNumberText {atEnd : Malformation} {number : NumberText}
    (read : readNumberText atEnd text = .ok (number, rest)) :
    Takes 1 (readNumberText atEnd) text rest (number, ·) := by
  obtain ⟨afterWhole, afterFraction, whole, fraction, exponent⟩ := readNumberText_eq_ok_iff.mp read
  exact (takes_readWhole whole).trans₂ (takes_readFraction fraction) (takes_readExponent exponent)
    fun _ _ _ _ whole fraction exponent =>
      readNumberText_eq_ok_iff.mpr ⟨_, _, whole, fraction, exponent⟩

theorem takes_skipNumber (read : skipNumber text = .ok rest) : Takes 1 skipNumber text rest id := by
  obtain ⟨number, found⟩ := skipNumber_eq_ok_iff.mp read
  exact (takes_readNumberText found).map fun _ _ passed =>
    skipNumber_eq_ok_iff.mpr ⟨number, passed⟩

/-!
## Values that are skipped
-/

/-- A state with another text left. -/
def Skipping.leaving (state : Skipping) (rest : List Char) : Skipping :=
  { state with rest }

theorem takes_readColon (read : readColon text = .ok rest) : Takes 1 readColon text rest id :=
  takes_first (readColon_eq_ok_iff.mp read) fun _ _ skipped => readColon_eq_ok_iff.mpr skipped

theorem takes_skipKey (read : skipKey text = .ok rest) : Takes 1 skipKey text rest id := by
  obtain ⟨inner, left, skipped, body, colon⟩ := skipKey_eq_ok_iff.mp read
  have key : Takes 1 (fun inner => skipBody inner >>= readColon) inner rest id :=
    (takes_skipBody body).trans (takes_readColon colon) fun _ _ _ body colon => by
      rw [body]
      exact colon
  refine key.of_skipBlanks skipped fun text inner after skipped passed => ?_
  obtain ⟨left, body, colon⟩ := exists_of_bind_eq_ok passed
  exact skipKey_eq_ok_iff.mpr ⟨inner, left, skipped, body, colon⟩

theorem takes_skipStart {frames : List Frame} {state : Skipping}
    (read : skipStart frames text = .ok state) :
    Takes 1 (skipStart frames) text state.rest state.leaving := by
  obtain ⟨c, inner, skipped, starts⟩ := skipStart_eq_ok_iff.mp read
  cases starts with
  | word isWord found =>
      exact (takes_readWord found).of_skipBlanks skipped fun _ inner _ skipped passed =>
        skipStart_eq_ok_iff.mpr ⟨c, inner, skipped, .word isWord passed⟩
  | negative found =>
      exact (takes_skipNumber found).of_skipBlanks skipped fun _ inner _ skipped passed =>
        skipStart_eq_ok_iff.mpr ⟨'-', inner, skipped, .negative passed⟩
  | number digit found =>
      exact (takes_skipNumber found).uncons.of_skipBlanks skipped fun _ inner _ skipped passed =>
        skipStart_eq_ok_iff.mpr ⟨c, inner, skipped, .number digit passed⟩
  | text found =>
      exact (takes_skipBody found).of_skipBlanks skipped fun _ inner _ skipped passed =>
        skipStart_eq_ok_iff.mpr ⟨'"', inner, skipped, .text passed⟩
  | list =>
      exact takes_first skipped fun _ inner skipped =>
        skipStart_eq_ok_iff.mpr ⟨'[', inner, skipped, .list inner⟩
  | object =>
      exact takes_first skipped fun _ inner skipped =>
        skipStart_eq_ok_iff.mpr ⟨'{', inner, skipped, .object inner⟩

theorem takes_skipEntry {frame : Frame} {frames : List Frame} {state : Skipping}
    (read : skipEntry frame frames text = .ok state) :
    Takes 1 (skipEntry frame frames) text state.rest state.leaving := by
  obtain ⟨inner, ⟨rfl, rfl⟩ | ⟨rfl, key⟩, start⟩ := skipEntry_eq_ok_iff.mp read
  · exact takes_skipStart start
  · exact (takes_skipKey key).trans (takes_skipStart start) fun _ left _ key start =>
      skipEntry_eq_ok_iff.mpr ⟨left, .inr ⟨rfl, key⟩, start⟩

theorem takes_skipWithin {frame : Frame} {frames : List Frame} {opened : Bool} {state : Skipping}
    (read : skipWithin frame frames opened text = .ok state) :
    Takes 1 (skipWithin frame frames opened) text state.rest state.leaving := by
  obtain ⟨c, inner, skipped, continues⟩ := skipWithin_eq_ok_iff.mp read
  cases continues with
  | closer =>
      exact takes_first skipped fun _ inner skipped =>
        skipWithin_eq_ok_iff.mpr ⟨_, inner, skipped, .closer opened inner⟩
  | first other entry =>
      exact (takes_skipEntry entry).uncons.of_skipBlanks skipped fun _ inner _ skipped passed =>
        skipWithin_eq_ok_iff.mpr ⟨c, inner, skipped, .first other passed⟩
  | comma entry =>
      exact (takes_skipEntry entry).of_skipBlanks skipped fun _ inner _ skipped passed =>
        skipWithin_eq_ok_iff.mpr ⟨',', inner, skipped, .comma passed⟩

theorem takesWithin_skipRest {budget : List Char} {state : Skipping}
    (read : skipRest budget state = .ok rest) :
    TakesWithin (fun budget text => skipRest budget (state.leaving text)) state.rest rest id := by
  fun_induction skipRest budget state with
  | case1 budget opened text =>
      obtain rfl := Except.ok.inj read
      exact ⟨[], rfl, fun budget _ _ _ => by cases budget <;> rfl⟩
  | case4 opened text frame frames c budget next taken ih =>
      -- The character that a step takes at least pays for its part of the budget.
      obtain ⟨lead, rfl, one, takes⟩ := takes_skipWithin taken
      obtain ⟨further, split, goesOn⟩ := ih read
      rw [split] at takes ⊢
      refine ⟨lead ++ further, by simp, fun budget other enough alike => ?_⟩
      obtain ⟨d, budget, rfl⟩ := List.exists_cons_of_length_pos (Nat.zero_lt_of_lt enough)
      rw [List.length_append, List.length_cons] at enough
      simp only [List.append_assoc, Skipping.leaving, skipRest,
        takes _ (head?_append_congr further alike)]
      exact goesOn budget other (by omega) alike
  | _ => cases read

theorem takes_skipValue (read : skipValue text = .ok rest) : Takes 1 skipValue text rest id := by
  rw [skipValue] at read
  cases started : skipStart [] text with
  | error fault => simp [started] at read
  | ok state =>
      rw [started] at read
      obtain ⟨lead, rfl, one, starts⟩ := takes_skipStart started
      obtain ⟨further, split, goesOn⟩ := takesWithin_skipRest read
      rw [split] at starts ⊢
      refine ⟨lead ++ further, by simp, by simp; omega, fun other alike => ?_⟩
      rw [List.append_assoc, skipValue, starts _ (head?_append_congr further alike)]
      refine goesOn _ other ?_ alike
      simp only [List.length_append]
      omega

end SnapshotTypes.Json
