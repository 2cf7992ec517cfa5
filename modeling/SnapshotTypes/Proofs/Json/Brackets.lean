import SnapshotTypes.Proofs.Json.Outcomes
import SnapshotTypes.Proofs.Json.Tokens

/-!
# Brackets

A scan that knows of brackets and strings only finds the bracket that closes a list or an object.
Whatever is read within a list or an object leaves the scan where it was: blanks, numbers and words
hold no bracket, those in a string do not count, and a value closes all that it opens.
-/

set_option autoImplicit false

namespace SnapshotTypes.Json

/-!
## The scan
-/

/-- Whether a character stands outside of strings, in a string, or in a string after a backslash. -/
inductive Quoting where
  | outside
  | inside
  | escaped
deriving DecidableEq, Repr

/-- The text after the bracket that closes a value. `depth` counts the brackets that are open within
the value. -/
def afterCloser : Quoting → Nat → List Char → Option (List Char)
  | _, _, [] => none
  | .escaped, depth, _ :: rest => afterCloser .inside depth rest
  | .inside, depth, c :: rest =>
    if c = '"' then afterCloser .outside depth rest
    else if c = '\\' then afterCloser .escaped depth rest
    else afterCloser .inside depth rest
  | .outside, depth, c :: rest =>
    if c = '"' then afterCloser .inside depth rest
    else if c = '[' ∨ c = '{' then afterCloser .outside (depth + 1) rest
    else if c = ']' ∨ c = '}' then
      match depth with
      | 0 => some rest
      | depth + 1 => afterCloser .outside depth rest
    else afterCloser .outside depth rest

/-- The text after the closing bracket of a document whose value is a list or an object. -/
def afterRoot (text : List Char) : Option (List Char) :=
  match skipBlanks text with
  | [] => none
  | c :: rest => if c = '[' ∨ c = '{' then afterCloser .outside 0 rest else none

theorem afterCloser_append {quoting : Quoting} {depth : Nat} {text rest : List Char}
    (closes : afterCloser quoting depth text = some rest) (more : List Char) :
    afterCloser quoting depth (text ++ more) = some (rest ++ more) := by
  fun_induction afterCloser quoting depth text <;> simp_all [afterCloser]

theorem afterRoot_append {text rest : List Char} (closes : afterRoot text = some rest)
    (more : List Char) : afterRoot (text ++ more) = some (rest ++ more) := by
  unfold afterRoot at closes ⊢
  cases skipped : skipBlanks text with
  | nil => simp [skipped] at closes
  | cons c tail =>
      have extended : skipBlanks (text ++ more) = c :: (tail ++ more) := by
        unfold skipBlanks at skipped ⊢
        rw [List.dropWhile_append, skipped]
        rfl
      rw [skipped] at closes
      rw [extended]
      dsimp only at closes ⊢
      split at closes
      · next opens => rw [if_pos opens, afterCloser_append closes]
      · cases closes

/-!
## Texts that are passed
-/

/-- What stands before `rest` opens and closes nothing. -/
def Passes (text rest : List Char) : Prop :=
  ∀ depth, afterCloser .outside depth text = afterCloser .outside depth rest

theorem Passes.refl (text : List Char) : Passes text text :=
  fun _ => rfl

theorem Passes.trans {text middle rest : List Char} (first : Passes text middle)
    (later : Passes middle rest) : Passes text rest :=
  fun depth => (first depth).trans (later depth)

/-- The characters that open and close. -/
def marks : List Char := ['"', '[', '{', ']', '}']

theorem passes_cons {c : Char} (plain : c ∉ marks) (rest : List Char) :
    Passes (c :: rest) rest := by
  intro depth
  simp only [marks, List.mem_cons, List.not_mem_nil, or_false, not_or] at plain
  simp [afterCloser, plain]

theorem passes_dropWhile {accepted : Char → Bool} (plain : ∀ c, accepted c = true → c ∉ marks)
    (text : List Char) : Passes text (text.dropWhile accepted) := by
  induction text with
  | nil => exact .refl _
  | cons c rest ih =>
      cases kept : accepted c with
      | true =>
          rw [List.dropWhile_cons_of_pos kept]
          exact (passes_cons (plain c kept) rest).trans ih
      | false =>
          rw [List.dropWhile_cons_of_neg (by simp [kept])]
          exact .refl _

theorem passes_skipBlanks (text : List Char) : Passes text (skipBlanks text) := by
  refine passes_dropWhile (fun c blank => ?_) text
  rcases isBlank_iff.mp blank with rfl | rfl | rfl | rfl <;> decide

theorem Passes.of_skipBlanks {text rest : List Char} {c : Char}
    (skipped : skipBlanks text = c :: rest) : Passes text (c :: rest) :=
  skipped ▸ passes_skipBlanks text

theorem passes_readWord {word text rest : List Char} (plain : ∀ c ∈ word, c ∉ marks)
    (read : readWord word text = .ok rest) : Passes text rest := by
  induction word generalizing text with
  | nil =>
      obtain rfl := Except.ok.inj read
      exact .refl _
  | cons c word ih =>
      obtain ⟨first, others⟩ := List.forall_mem_cons.mp plain
      cases text with
      | nil => cases read
      | cons next text =>
          rw [readWord] at read
          split at read
          · next same =>
            subst same
            exact (passes_cons first text).trans (ih others read)
          · cases read

/-!
## Strings
-/

/-- What stands before `rest` ends the string that it is in. -/
def EndsString (text rest : List Char) : Prop :=
  ∀ depth, afterCloser .inside depth text = afterCloser .outside depth rest

theorem EndsString.passes {text rest : List Char} (ends : EndsString text rest) :
    Passes ('"' :: text) rest :=
  ends

theorem endsString_quote (rest : List Char) : EndsString ('"' :: rest) rest :=
  fun _ => rfl

theorem EndsString.cons {c : Char} {text rest : List Char} (quote : c ≠ '"') (backslash : c ≠ '\\')
    (ends : EndsString text rest) : EndsString (c :: text) rest := by
  intro depth
  rw [afterCloser, if_neg quote, if_neg backslash]
  exact ends depth

theorem EndsString.escape {text rest : List Char} (ends : EndsString text rest) (letter : Char) :
    EndsString ('\\' :: letter :: text) rest :=
  ends

theorem hexValue?_eq_some {c : Char} {value : Nat} (digit : Text.hexValue? c = some value) :
    c ≠ '"' ∧ c ≠ '\\' := by
  constructor
  · rintro rfl
    cases digit
  · rintro rfl
    cases digit

theorem EndsString.unicode {first second third fourth : Char} {code : Nat}
    {text rest : List Char} (digits : hexValue4? first second third fourth = some code)
    (ends : EndsString text rest) :
    EndsString ('\\' :: 'u' :: first :: second :: third :: fourth :: text) rest := by
  simp only [hexValue4?, Option.bind_eq_bind, Option.bind_eq_some_iff] at digits
  obtain ⟨_, firstDigit, _, secondDigit, _, thirdDigit, _, fourthDigit, _⟩ := digits
  have firstPlain := hexValue?_eq_some firstDigit
  have secondPlain := hexValue?_eq_some secondDigit
  have thirdPlain := hexValue?_eq_some thirdDigit
  have fourthPlain := hexValue?_eq_some fourthDigit
  exact .escape (.cons firstPlain.1 firstPlain.2 (.cons secondPlain.1 secondPlain.2
    (.cons thirdPlain.1 thirdPlain.2 (.cons fourthPlain.1 fourthPlain.2 ends)))) 'u'

theorem endsString_readBody {leading : Option Nat} {text body rest : List Char}
    (read : readBody leading text = .ok (body, rest)) : EndsString text rest := by
  fun_induction readBody leading text generalizing body with
  | case2 text =>
      obtain rfl := rest_eq_of_ok read
      exact endsString_quote _
  | case6 first second third fourth later code digits _ _ _ ih => exact .unicode digits (ih read)
  | case7 first second third fourth later code digits _ _ _ ih =>
      obtain ⟨_, _, read⟩ := consChar_eq_ok read
      exact .unicode digits (ih read)
  | case10 letter later _ _ c _ _ ih =>
      obtain ⟨_, _, read⟩ := consChar_eq_ok read
      exact .escape (ih read) letter
  | case12 c later quote backslash _ ih =>
      obtain ⟨_, _, read⟩ := consChar_eq_ok read
      exact .cons quote backslash (ih read)
  | case15 leading first second third fourth later code digits _ ih =>
      obtain ⟨_, _, read⟩ := consChar_eq_ok read
      exact .unicode digits (ih read)
  | _ => cases read

theorem endsString_skipBody {text rest : List Char} (read : skipBody text = .ok rest) :
    EndsString text rest := by
  fun_induction skipBody text with
  | case2 text =>
      obtain rfl := Except.ok.inj read
      exact endsString_quote _
  | case5 first second third fourth later code digits _ ih => exact .unicode digits (ih read)
  | case8 letter later _ _ c _ _ ih => exact .escape (ih read) letter
  | case10 c later quote backslash _ ih => exact .cons quote backslash (ih read)
  | _ => cases read

/-!
## Numbers
-/

theorem notMark_of_isDigit {c : Char} (digit : c.isDigit = true) : c ∉ marks := by
  intro mark
  simp only [marks, List.mem_cons, List.not_mem_nil, or_false] at mark
  rcases mark with rfl | rfl | rfl | rfl | rfl <;> cases digit

theorem passes_append {lead : List Char} (plain : ∀ c ∈ lead, c ∉ marks) (rest : List Char) :
    Passes (lead ++ rest) rest := by
  induction lead with
  | nil => exact .refl rest
  | cons c lead ih =>
      obtain ⟨first, others⟩ := List.forall_mem_cons.mp plain
      exact (passes_cons first _).trans (ih others)

theorem passes_readDigits {atEnd : Malformation} {text digits rest : List Char}
    (read : readDigits atEnd text = .ok (digits, rest)) : Passes text rest := by
  obtain ⟨-, areDigits, -, rfl⟩ := readDigits_eq_ok_iff.mp read
  exact passes_append (fun c member => notMark_of_isDigit (areDigits c member)) rest

theorem passes_readWhole {atEnd : Malformation} {text whole rest : List Char}
    (read : readWhole atEnd text = .ok (whole, rest)) : Passes text rest := by
  rcases readWhole_eq_ok_iff.mp read with ⟨-, -, rfl⟩ | ⟨-, digits⟩
  · exact passes_cons (by decide) rest
  · exact passes_readDigits digits

theorem passes_readFraction {atEnd : Malformation} {text rest : List Char}
    {fraction : Option (List Char)} (read : readFraction atEnd text = .ok (fraction, rest)) :
    Passes text rest := by
  rcases readFraction_eq_ok_iff.mp read with ⟨later, digits, rfl, -, found⟩ | ⟨-, rfl, -⟩
  · exact (passes_cons (by decide) later).trans (passes_readDigits found)
  · exact .refl _

theorem passes_readExponent {atEnd : Malformation} {text rest : List Char}
    {exponent : Option (Bool × List Char)}
    (read : readExponent atEnd text = .ok (exponent, rest)) : Passes text rest := by
  rcases readExponent_eq_ok_iff.mp read with
    ⟨opening, negative, later, digits, isOpening, rfl, -, found⟩ | ⟨-, rfl, -⟩
  · have plain : ∀ opening ∈ exponentOpenings, ∀ c ∈ opening.1, c ∉ marks := by
      simp [exponentOpenings, marks]
    exact (passes_append (plain _ isOpening) later).trans (passes_readDigits found)
  · exact .refl _

theorem passes_readNumberText {atEnd : Malformation} {text rest : List Char} {number : NumberText}
    (read : readNumberText atEnd text = .ok (number, rest)) : Passes text rest := by
  obtain ⟨afterWhole, afterFraction, whole, fraction, exponent⟩ := readNumberText_eq_ok_iff.mp read
  exact (passes_readWhole whole).trans
    ((passes_readFraction fraction).trans (passes_readExponent exponent))

theorem passes_skipNumber {text rest : List Char} (read : skipNumber text = .ok rest) :
    Passes text rest := by
  obtain ⟨number, found⟩ := skipNumber_eq_ok_iff.mp read
  exact passes_readNumberText found

/-!
## Values that are skipped
-/

/-- The scan from a state, which counts the frames that are open there. -/
def Skipping.scan (state : Skipping) (depth : Nat) : Option (List Char) :=
  afterCloser .outside (depth + state.frames.length) state.rest

theorem passes_word {first : Char} {letters text rest : List Char}
    (isWord : (first, letters) ∈ words) (read : readWord letters text = .ok rest) :
    Passes (first :: text) rest := by
  have plain : ∀ word ∈ words, ∀ c ∈ word.1 :: word.2, c ∉ marks := by
    simp [words, marks]
  obtain ⟨plainFirst, others⟩ := List.forall_mem_cons.mp (plain _ isWord)
  exact (passes_cons plainFirst text).trans (passes_readWord others read)

theorem scan_skipStart {frames : List Frame} {text : List Char} {state : Skipping}
    (read : skipStart frames text = .ok state) (depth : Nat) :
    afterCloser .outside (depth + frames.length) text = state.scan depth := by
  obtain ⟨c, inner, skipped, starts⟩ := skipStart_eq_ok_iff.mp read
  rw [Passes.of_skipBlanks skipped]
  cases starts with
  | word isWord found => exact passes_word isWord found _
  | negative found => exact (passes_cons (by decide) inner).trans (passes_skipNumber found) _
  | number _ found => exact passes_skipNumber found _
  | text found => exact (endsString_skipBody found).passes _
  | list => rfl
  | object => rfl

theorem passes_readColon {text rest : List Char} (read : readColon text = .ok rest) :
    Passes text rest :=
  (Passes.of_skipBlanks (readColon_eq_ok_iff.mp read)).trans (passes_cons (by decide) rest)

theorem passes_skipKey {text rest : List Char} (read : skipKey text = .ok rest) :
    Passes text rest := by
  obtain ⟨inner, left, skipped, body, colon⟩ := skipKey_eq_ok_iff.mp read
  exact (Passes.of_skipBlanks skipped).trans
    ((endsString_skipBody body).passes.trans (passes_readColon colon))

theorem scan_skipEntry {frame : Frame} {frames : List Frame} {text : List Char} {state : Skipping}
    (read : skipEntry frame frames text = .ok state) (depth : Nat) :
    afterCloser .outside (depth + (frame :: frames).length) text = state.scan depth := by
  obtain ⟨inner, entered, start⟩ := skipEntry_eq_ok_iff.mp read
  rcases entered with ⟨-, rfl⟩ | ⟨-, key⟩
  · exact scan_skipStart start depth
  · exact (passes_skipKey key _).trans (scan_skipStart start depth)

theorem afterCloser_closer (frame : Frame) (depth : Nat) (rest : List Char) :
    afterCloser .outside (depth + 1) (frame.closer :: rest) = afterCloser .outside depth rest := by
  cases frame <;> rfl

theorem scan_skipWithin {frame : Frame} {frames : List Frame} {opened : Bool} {text : List Char}
    {state : Skipping} (read : skipWithin frame frames opened text = .ok state) (depth : Nat) :
    afterCloser .outside (depth + (frame :: frames).length) text = state.scan depth := by
  obtain ⟨c, inner, skipped, continues⟩ := skipWithin_eq_ok_iff.mp read
  rw [Passes.of_skipBlanks skipped]
  cases continues with
  | closer => exact afterCloser_closer frame _ inner
  | first _ entry => exact scan_skipEntry entry depth
  | comma entry => exact (passes_cons (by decide) inner _).trans (scan_skipEntry entry depth)

theorem scan_skipRest {budget rest : List Char} {state : Skipping}
    (read : skipRest budget state = .ok rest) (depth : Nat) :
    state.scan depth = afterCloser .outside depth rest := by
  fun_induction skipRest budget state with
  | case1 budget opened text =>
      obtain rfl := Except.ok.inj read
      rfl
  | case4 opened text frame frames c budget next taken ih =>
      exact (scan_skipWithin taken depth).trans (ih read)
  | _ => cases read

theorem passes_skipValue {text rest : List Char} (read : skipValue text = .ok rest) :
    Passes text rest := by
  rw [skipValue] at read
  cases started : skipStart [] text with
  | error fault => simp [started] at read
  | ok state =>
      rw [started] at read
      intro depth
      exact (scan_skipStart started depth).trans (scan_skipRest read depth)

end SnapshotTypes.Json
