/-!
What the notations, the messages and the command line need of texts.
-/

set_option autoImplicit false

namespace SnapshotTypes.Text

/-!
## Parts of a text

Between separators, between blanks, and anywhere.
-/

/-- The parts of a text between separators. There is always one. -/
def split (separator : Char) : List Char → List (List Char)
  | [] => [[]]
  | c :: rest =>
    if c = separator then [] :: split separator rest
    else
      match split separator rest with
      | [] => [[c]]
      | first :: others => (c :: first) :: others

/-- The characters with the Unicode property White_Space. -/
def isBlank (c : Char) : Bool :=
  let code := c.toNat
  (0x09 ≤ code && code ≤ 0x0d) || code == 0x20 || code == 0x85 || code == 0xa0 || code == 0x1680 ||
    (0x2000 ≤ code && code ≤ 0x200a) || code == 0x2028 || code == 0x2029 || code == 0x202f ||
    code == 0x205f || code == 0x3000

def occursIn (part : List Char) : List Char → Bool
  | [] => part.isEmpty
  | c :: rest => part.isPrefixOf (c :: rest) || occursIn part rest

def trimmed (cs : List Char) : List Char :=
  ((cs.dropWhile isBlank).reverse.dropWhile isBlank).reverse

/-!
## Hexadecimal digits
-/

/-- A digit in lower case, for a value below sixteen. -/
def hexDigit (value : Nat) : Char :=
  Char.ofNat (if value < 10 then 0x30 + value else 0x57 + value)

/-- The value of a digit of either case. -/
def hexValue? (c : Char) : Option Nat :=
  if '0' ≤ c ∧ c ≤ '9' then some (c.toNat - 0x30)
  else if 'a' ≤ c ∧ c ≤ 'f' then some (c.toNat - 0x57)
  else if 'A' ≤ c ∧ c ≤ 'F' then some (c.toNat - 0x37)
  else none

/-!
## Text in double quotes, with the escapes of JSON
-/

/-- How a character is written between double quotes: the quote, the backslash and the control
characters below the space are escaped, all else stands for itself. -/
def escapedChar (c : Char) : List Char :=
  if c = '"' then ['\\', '"']
  else if c = '\\' then ['\\', '\\']
  else if c = '\x08' then ['\\', 'b']
  else if c = '\x0c' then ['\\', 'f']
  else if c = '\n' then ['\\', 'n']
  else if c = '\r' then ['\\', 'r']
  else if c = '\t' then ['\\', 't']
  else if c.toNat < 0x20 then
    ['\\', 'u', '0', '0', hexDigit (c.toNat / 16), hexDigit (c.toNat % 16)]
  else [c]

def quoted (text : String) : String :=
  String.ofList ('"' :: text.toList.flatMap escapedChar ++ ['"'])

/-!
## Styles

Text whose parts are meant to stand out, for readers with a terminal and for all others.
-/

inductive Style where
  | plain
  | alarm
  | heading
  /-- To be typed as it stands. -/
  | verbatim
  | faulty
  | helpful
deriving DecidableEq, Repr

/-- The control sequences that switch a style on. -/
def Style.opening : Style → String
  | plain => ""
  | alarm => "\x1b[1m\x1b[31m"
  | heading => "\x1b[1m\x1b[4m"
  | verbatim => "\x1b[1m"
  | faulty => "\x1b[33m"
  | helpful => "\x1b[32m"

structure Span where
  style : Style
  text : String
deriving DecidableEq, Repr

def Span.coloured (span : Span) : String :=
  if span.style = .plain then span.text else span.style.opening ++ span.text ++ "\x1b[0m"

abbrev Styled := List Span

namespace Styled

def plain (text : String) : Styled := [⟨.plain, text⟩]

def heading (text : String) : Styled := [⟨.heading, text⟩]

def verbatim (text : String) : Styled := [⟨.verbatim, text⟩]

def faulty (text : String) : Styled := [⟨.faulty, text⟩]

def helpful (text : String) : Styled := [⟨.helpful, text⟩]

/-- The text alone. -/
def bare (styled : Styled) : String :=
  String.join (styled.map Span.text)

def coloured (styled : Styled) : String :=
  String.join (styled.map Span.coloured)

/-- The text as it is written where colours are wanted, or not wanted. -/
def written (inColour : Bool) (styled : Styled) : String :=
  if inColour then styled.coloured else styled.bare

end Styled

/-!
## Similar words

How alike two words are, for suggestions on a misspelt word. Two characters match when they are
equal and stand at places not too far apart; the share of matches in either word and the share of
matches in the same order are averaged.
-/

/-- A share between none and all, as a quotient. -/
structure Share where
  part : Nat
  whole : Nat
deriving DecidableEq, Repr

def Share.none : Share := ⟨0, 1⟩

def Share.all : Share := ⟨1, 1⟩

def Share.exceeds (left right : Share) : Bool :=
  right.part * left.whole < left.part * right.whole

/-- The characters of a word, each with whether it is matched already. -/
abbrev Marked := List (Char × Bool)

/-- Marks the first free occurrence of a character among the places from `low` to just below
`high`. -/
def markFirst (c : Char) (low high : Nat) : Marked → Option Marked
  | [] => none
  | entry :: rest =>
    if high = 0 then none
    else if low = 0 && entry.1 == c && !entry.2 then some ((c, true) :: rest)
    else (markFirst c (low - 1) (high - 1) rest).map (entry :: ·)

/-- The characters of a word that find a match, in order, and the other word with its marks. Each
character looks no farther than `reach` from its own place. -/
def matchedIn (reach : Nat) : Nat → List Char → Marked → List Char × Marked
  | _, [], marked => ([], marked)
  | place, c :: rest, marked =>
    match markFirst c (place - reach) (place + reach + 1) marked with
    | none => matchedIn reach (place + 1) rest marked
    | some next =>
      let (found, last) := matchedIn reach (place + 1) rest next
      (c :: found, last)

/-- Two words without characters are alike, and a word without characters is like no other. -/
def similarity (left right : List Char) : Share :=
  if left.isEmpty && right.isEmpty then .all
  else
    let reach := max left.length right.length / 2 - 1
    let (found, marked) := matchedIn reach 0 left (right.map fun c => (c, false))
    let counterparts := (marked.filter (·.2)).map (·.1)
    let swaps := ((found.zip counterparts).countP fun pair => pair.1 ≠ pair.2) / 2
    let count := found.length
    if count = 0 then .none
    else
      ⟨count * count * (left.length + right.length) + (count - swaps) * left.length * right.length,
        3 * count * left.length * right.length⟩

/-- The word that is most like a given one, the last of several, if one is like it at all. -/
def mostSimilar (threshold : Share) (word : String) (words : List String) : Option String :=
  let rated := words.map fun candidate => (candidate, similarity word.toList candidate.toList)
  let near := rated.filter fun entry => entry.2.exceeds threshold
  (near.foldl (fun best entry =>
    match best with
    | none => some entry
    | some leading => if leading.2.exceeds entry.2 then best else some entry) none).map (·.1)

end SnapshotTypes.Text
