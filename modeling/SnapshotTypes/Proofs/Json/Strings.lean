import SnapshotTypes.Json.Text
import Mathlib.Tactic.SplitIfs

/-!
# Quoted text and its reading

Reading a quoted text gives the text back and stops right after its closing quote, whether the value
matters or not. A quoted text holds no control characters. A fault in a string has no steps.
-/

set_option autoImplicit false

namespace SnapshotTypes.Text

open Json (escaped? hexValue4?)

/-- The three ways in which a character stands between double quotes. -/
inductive EscapedAs (c : Char) : List Char → Prop
  | letter {letter : Char} :
      letter ≠ 'u' → escaped? letter = some c → 0x20 ≤ letter.toNat →
      EscapedAs c ['\\', letter]
  | code {third fourth : Char} :
      c.toNat < 0x20 → hexValue4? '0' '0' third fourth = some c.toNat →
      0x20 ≤ third.toNat → 0x20 ≤ fourth.toNat →
      EscapedAs c ['\\', 'u', '0', '0', third, fourth]
  | plain : c ≠ '"' → c ≠ '\\' → 0x20 ≤ c.toNat → EscapedAs c [c]

private theorem hexValue4?_control :
    ∀ code < 0x20, hexValue4? '0' '0' (hexDigit (code / 16)) (hexDigit (code % 16)) = some code ∧
      0x20 ≤ (hexDigit (code / 16)).toNat ∧ 0x20 ≤ (hexDigit (code % 16)).toNat := by
  decide

theorem escapedChar_escapedAs (c : Char) : EscapedAs c (escapedChar c) := by
  unfold escapedChar
  split_ifs with quote backslash backspace formFeed lineFeed carriageReturn tab control
  · subst quote; exact .letter (by decide) (by decide) (by decide)
  · subst backslash; exact .letter (by decide) (by decide) (by decide)
  · subst backspace; exact .letter (by decide) (by decide) (by decide)
  · subst formFeed; exact .letter (by decide) (by decide) (by decide)
  · subst lineFeed; exact .letter (by decide) (by decide) (by decide)
  · subst carriageReturn; exact .letter (by decide) (by decide) (by decide)
  · subst tab; exact .letter (by decide) (by decide) (by decide)
  · obtain ⟨value, third, fourth⟩ := hexValue4?_control c.toNat control
    exact .code control value third fourth
  · exact .plain quote backslash (Nat.le_of_not_lt control)

theorem EscapedAs.no_control {c : Char} {body : List Char} (escaped : EscapedAs c body) :
    ∀ d ∈ body, 0x20 ≤ d.toNat := by
  cases escaped with
  | letter _ _ visible => simpa using visible
  | code _ _ third fourth => simpa using ⟨third, fourth⟩
  | plain _ _ visible => simpa using visible

theorem quoted_toList (text : String) :
    (quoted text).toList = '"' :: (text.toList.flatMap escapedChar ++ ['"']) := by
  rw [quoted, String.toList_ofList, List.cons_append]

theorem length_le_length_flatMap_escapedChar (text : List Char) :
    text.length ≤ (text.flatMap escapedChar).length := by
  induction text with
  | nil => exact Nat.le_refl _
  | cons c text ih =>
      have positive : 0 < (escapedChar c).length := by
        have escaped := escapedChar_escapedAs c
        generalize escapedChar c = body at escaped
        cases escaped <;> exact Nat.succ_pos _
      rw [List.flatMap_cons, List.length_append, List.length_cons]
      omega

theorem quoted_ne (text : String) : quoted text ≠ text := by
  intro same
  have longer := length_le_length_flatMap_escapedChar text.toList
  have lengths := congrArg (fun other : String => other.toList.length) same
  simp only [quoted_toList, List.length_cons, List.length_append, List.length_nil] at lengths
  omega

/-- A quoted text stands on one line, whatever it holds. -/
theorem quoted_no_control (text : String) : ∀ c ∈ (quoted text).toList, 0x20 ≤ c.toNat := by
  intro c member
  rw [quoted_toList] at member
  simp only [List.mem_cons, List.mem_append, List.mem_flatMap, List.not_mem_nil, or_false] at member
  rcases member with rfl | ⟨source, _, inside⟩ | rfl
  · decide
  · exact (escapedChar_escapedAs source).no_control c inside
  · decide

end SnapshotTypes.Text

namespace SnapshotTypes.Json

open Text (EscapedAs escapedChar escapedChar_escapedAs)

theorem readBody_quote (rest : List Char) : readBody none ('"' :: rest) = .ok ([], rest) := by
  simp [readBody.eq_def]

/-- One escaped character is read as the character, and reading goes on after it. -/
theorem readBody_of_escapedAs {c : Char} {body : List Char} (escaped : EscapedAs c body)
    (rest : List Char) :
    readBody none (body ++ rest) = consChar c (readBody none rest) := by
  cases escaped with
  | letter notCode means _ =>
      rw [readBody.eq_def]
      simp [notCode, means]
  | code control value _ _ =>
      have plain : isTrailingSurrogate c.toNat = false ∧ isLeadingSurrogate c.toNat = false := by
        simp only [isTrailingSurrogate, isLeadingSurrogate, Bool.and_eq_false_iff,
          decide_eq_false_iff_not]
        omega
      rw [readBody.eq_def]
      simp [value, plain, Char.ofNat_toNat]
  | plain quote backslash visible =>
      rw [readBody.eq_def]
      simp [quote, backslash, Nat.not_lt.mpr visible]

theorem skipBody_of_escapedAs {c : Char} {body : List Char} (escaped : EscapedAs c body)
    (rest : List Char) : skipBody (body ++ rest) = skipBody rest := by
  cases escaped with
  | letter notCode means _ =>
      rw [skipBody.eq_def]
      simp [notCode, means]
  | code control value _ _ =>
      rw [skipBody.eq_def]
      simp [value]
  | plain quote backslash visible =>
      rw [skipBody.eq_def]
      simp [quote, backslash, Nat.not_lt.mpr visible]

theorem readBody_escaped (text rest : List Char) :
    readBody none (text.flatMap escapedChar ++ '"' :: rest) = .ok (text, rest) := by
  induction text with
  | nil => exact readBody_quote rest
  | cons c text ih =>
      rw [List.flatMap_cons, List.append_assoc, readBody_of_escapedAs (escapedChar_escapedAs c), ih,
        consChar]

/-- A string is read back from its quoted form, after the opening quote. -/
theorem readString_escaped (text : String) (rest : List Char) :
    readString (text.toList.flatMap escapedChar ++ '"' :: rest) = .ok (text, rest) := by
  simp only [readString, readBody_escaped, String.ofList_toList]

theorem skipBody_escaped (text rest : List Char) :
    skipBody (text.flatMap escapedChar ++ '"' :: rest) = .ok rest := by
  induction text with
  | nil => simp [skipBody.eq_def]
  | cons c text ih =>
      rw [List.flatMap_cons, List.append_assoc, skipBody_of_escapedAs (escapedChar_escapedAs c), ih]

/-!
## Faults
-/

section Faults

variable {α β : Type}

/-- No fault of an outcome has a step in its path. -/
def FaultsHere (outcome : Except Fault α) : Prop :=
  ∀ fault, outcome = .error fault → fault.path = []

theorem FaultsHere.ok (value : α) : FaultsHere (.ok value) := by
  intro fault failed
  cases failed

theorem FaultsHere.error {fault : Fault} (here : fault.path = []) :
    FaultsHere (.error fault : Except Fault α) := by
  intro other failed
  cases failed
  exact here

theorem FaultsHere.bind {outcome : Except Fault α} {next : α → Except Fault β}
    (first : FaultsHere outcome) (later : ∀ value, FaultsHere (next value)) :
    FaultsHere (outcome >>= next) := by
  cases outcome with
  | error fault => exact .error (first fault rfl)
  | ok value => exact later value

theorem hexFault_path (text : List Char) : (hexFault text).path = [] := by
  unfold hexFault
  split <;> rfl

theorem FaultsHere.consChar {outcome : Except Fault (List Char × List Char)}
    (here : FaultsHere outcome) (c : Char) : FaultsHere (Json.consChar c outcome) := by
  cases outcome with
  | error fault => exact .error (here fault rfl)
  | ok result => exact .ok _

theorem faultsHere_readBody (leading : Option Nat) (text : List Char) :
    FaultsHere (readBody leading text) := by
  fun_induction readBody leading text <;>
    first
      | exact .ok _
      | exact .error rfl
      | exact .error (hexFault_path _)
      | exact .consChar ‹_› _
      | assumption

theorem faultsHere_readString (text : List Char) : FaultsHere (readString text) := by
  have body := faultsHere_readBody none text
  rw [readString]
  cases read : readBody none text with
  | error fault => exact .error (body fault read)
  | ok result => exact .ok _

end Faults

end SnapshotTypes.Json
