import SnapshotTypes.Proofs.Yaml.Quoted
import SnapshotTypes.Yaml.Scanning

/-!
# Turns of the scanner within flow collections

Every turn reads a token and releases those that need not wait. Where tokens are released does not
matter in the end, so that a path is described by the kinds of the tokens that it adds, whether they
are released on the way or still wait.
-/

set_option autoImplicit false

namespace SnapshotTypes.Yaml

theorem Cursor.atDocumentIndicator_of_ne {cursor : Cursor} {c : Char} {rest : List Char}
    (spelled : cursor.rest = c :: rest) (noHyphen : c ≠ '-') (noPoint : c ≠ '.') :
    cursor.atDocumentIndicator = false := by
  rw [Cursor.atDocumentIndicator, spelled]
  simp [noHyphen, noPoint]

namespace Scanner

/-!
## Release of tokens
-/

/-- What is left of a scanner when the possible keys are gone that can no longer be keys. -/
def kept (scanner : Scanner) : Scanner :=
  let keep (key : Option PossibleKey) := key.filter fun key => !scanner.isStale key
  { scanner with key := keep scanner.key, outerKeys := scanner.outerKeys.map keep }

theorem dropStale_of_optional {scanner : Scanner}
    (optional : ∀ key, some key ∈ scanner.key :: scanner.outerKeys → key.required = false) :
    scanner.dropStale = .ok scanner.kept := by
  have none : (scanner.key :: scanner.outerKeys).findSome?
      (fun key => key.filter fun key => key.required && scanner.isStale key) = none := by
    rw [List.findSome?_eq_none_iff]
    intro key member
    cases key with
    | none => rfl
    | some key => simp [Option.filter, optional key member]
  simp only [dropStale, none]
  rfl

/-- Release takes tokens from the front, and none from the first possible key on. -/
theorem releaseTokens_eq (scanner : Scanner) (tokens : List Token) :
    ∃ out left, scanner.releaseTokens tokens =
        (out, { scanner with released := scanner.released + out.length, waiting := left }) ∧
      out ++ left = tokens ∧
      ∀ key, some key ∈ scanner.key :: scanner.outerKeys → scanner.released ≤ key.number →
        scanner.released + out.length ≤ key.number := by
  induction tokens generalizing scanner with
  | nil => exact ⟨[], [], rfl, rfl, fun _ _ below => below⟩
  | cons token tokens ih =>
      rw [releaseTokens]
      split_ifs with isKey
      · exact ⟨[], token :: tokens, rfl, rfl, fun _ _ below => below⟩
      · obtain ⟨out, left, released, parts, before⟩ :=
          ih { scanner with released := scanner.released + 1 }
        refine ⟨token :: out, left, ?_, congrArg (token :: ·) parts, ?_⟩
        · simp only [released, List.length_cons, Nat.add_assoc, Nat.add_comm 1]
        · intro key member below
          have other : key.number ≠ scanner.released := by
            intro same
            exact isKey (List.any_eq_true.mpr ⟨some key, member, by simp [same]⟩)
          have later := before key member (show scanner.released + 1 ≤ key.number by omega)
          rw [List.length_cons]
          dsimp only at later
          omega

theorem releaseTokens_of_no_key {scanner : Scanner}
    (noKey : ∀ key, some key ∉ scanner.key :: scanner.outerKeys) (tokens : List Token) :
    (scanner.releaseTokens tokens).1 = tokens := by
  induction tokens generalizing scanner with
  | nil => rfl
  | cons token tokens ih =>
      rw [releaseTokens]
      split_ifs with isKey
      · obtain ⟨key, member, some⟩ := List.any_eq_true.mp isKey
        cases key with
        | none => cases some
        | some key => exact absurd member (noKey key)
      · exact congrArg (token :: ·) (@ih { scanner with released := scanner.released + 1 } noKey)

/-!
## Turns
-/

/-- A turn that reads no end of the text. -/
inductive Turn (scanner : Scanner) (out : List Token) (next : Scanner) : Prop
  | intro {fetched left : Scanner} :
      scanner.fetch = .ok (false, fetched) → fetched.dropStale = .ok left →
      left.releaseTokens left.waiting = (out, next) → Turn scanner out next

/-- Turns one after the other, each of which takes a part of the text. -/
inductive Turns : Scanner → List Token → Scanner → Prop
  | refl (scanner : Scanner) : Turns scanner [] scanner
  | cons {scanner middle last : Scanner} {out more : List Token} :
      Turn scanner out middle → middle.cursor.rest.length < scanner.cursor.rest.length →
      Turns middle more last → Turns scanner (out ++ more) last

theorem Turns.trans {scanner middle last : Scanner} {out more : List Token}
    (first : Turns scanner out middle) (second : Turns middle more last) :
    Turns scanner (out ++ more) last := by
  induction first with
  | refl => exact second
  | cons turn shorter _ ih =>
      rw [List.append_assoc]
      exact .cons turn shorter (ih second)

/-- A run takes every turn, since its budget covers the text that is left. -/
theorem Turns.run {scanner last : Scanner} {out : List Token} (turns : Turns scanner out last)
    {budget : Nat} (enough : scanner.cursor.rest.length < budget) :
    ∃ left, last.cursor.rest.length < left ∧
      run budget scanner = ⟨out ++ (run left last).tokens, (run left last).fault⟩ := by
  induction turns generalizing budget with
  | refl => exact ⟨budget, enough, rfl⟩
  | cons turn shorter _ ih =>
      obtain ⟨budget, rfl⟩ :=
        Nat.exists_eq_succ_of_ne_zero (Nat.ne_of_gt (Nat.zero_lt_of_lt enough))
      obtain ⟨left, enoughLeft, rest⟩ := ih (Nat.lt_of_lt_of_le shorter (Nat.le_of_lt_succ enough))
      obtain ⟨fetched, kept, released⟩ := turn
      refine ⟨left, enoughLeft, ?_⟩
      rw [Scanner.run]
      simp only [fetched, kept, released, rest, Bool.false_eq_true, if_false, List.append_assoc]

/-!
## Places
-/

/-- What decides how a text within flow collections is read on. -/
structure FlowPlace where
  depth : Nat
  keyAllowed : Bool
  rest : List Char

/-- A scanner at such a place: no block collection is open, and no token has to be a key. -/
structure StandsAt (scanner : Scanner) (place : FlowPlace) : Prop where
  depth : scanner.outerKeys.length = place.depth
  keyAllowed : scanner.keyAllowed = place.keyAllowed
  rest : scanner.cursor.rest = place.rest
  indent : scanner.indent = -1
  outerIndents : scanner.outerIndents = []
  optional : ∀ key, some key ∈ scanner.key :: scanner.outerKeys → key.required = false

variable {scanner : Scanner} {place : FlowPlace}

theorem standsAt_start (text : List Char) : (start text).StandsAt ⟨0, true, text⟩ where
  depth := rfl
  keyAllowed := rfl
  rest := rfl
  indent := rfl
  outerIndents := rfl
  optional key member := by simp [start] at member

theorem StandsAt.kept (stands : scanner.StandsAt place) : scanner.kept.StandsAt place where
  depth := by rw [Scanner.kept, List.length_map, stands.depth]
  keyAllowed := stands.keyAllowed
  rest := stands.rest
  indent := stands.indent
  outerIndents := stands.outerIndents
  optional key member := by
    rw [Scanner.kept, List.mem_cons, List.mem_map] at member
    rcases member with same | ⟨other, member, same⟩
    · have own := (Option.filter_eq_some_iff.mp same.symm).1
      exact stands.optional key (own ▸ List.mem_cons_self)
    · have own := (Option.filter_eq_some_iff.mp same).1
      exact stands.optional key (List.mem_cons_of_mem _ (own ▸ member))

theorem StandsAt.withTokens (stands : scanner.StandsAt place) (released : Nat)
    (waiting : List Token) :
    { scanner with released := released, waiting := waiting }.StandsAt place where
  depth := stands.depth
  keyAllowed := stands.keyAllowed
  rest := stands.rest
  indent := stands.indent
  outerIndents := stands.outerIndents
  optional := stands.optional

theorem StandsAt.withCursor (stands : scanner.StandsAt place) (cursor : Cursor) :
    { scanner with cursor := cursor }.StandsAt ⟨place.depth, place.keyAllowed, cursor.rest⟩ where
  depth := stands.depth
  keyAllowed := stands.keyAllowed
  rest := rfl
  indent := stands.indent
  outerIndents := stands.outerIndents
  optional := stands.optional

theorem StandsAt.withKeyAllowed (stands : scanner.StandsAt place) (keyAllowed : Bool) :
    { scanner with keyAllowed := keyAllowed }.StandsAt ⟨place.depth, keyAllowed, place.rest⟩ where
  depth := stands.depth
  keyAllowed := rfl
  rest := stands.rest
  indent := stands.indent
  outerIndents := stands.outerIndents
  optional := stands.optional

theorem StandsAt.withKey (stands : scanner.StandsAt place) {key : Option PossibleKey}
    (optional : ∀ noted, key = some noted → noted.required = false) :
    { scanner with key := key }.StandsAt place where
  depth := stands.depth
  keyAllowed := stands.keyAllowed
  rest := stands.rest
  indent := stands.indent
  outerIndents := stands.outerIndents
  optional noted member := by
    rcases List.mem_cons.mp member with same | member
    · exact optional noted same.symm
    · exact stands.optional noted (List.mem_cons_of_mem _ member)

/-- The innermost possible key may be given up, and keys may be allowed or not from now on. -/
theorem StandsAt.withoutKey (stands : scanner.StandsAt place) (keyAllowed : Bool) :
    { scanner with key := none, keyAllowed := keyAllowed }.StandsAt
      ⟨place.depth, keyAllowed, place.rest⟩ := by
  have noKey : { scanner with key := none }.StandsAt place := stands.withKey nofun
  exact noKey.withKeyAllowed keyAllowed

theorem StandsAt.inFlow (stands : scanner.StandsAt place) (inside : 0 < place.depth) :
    scanner.inFlow = true := by
  have := stands.depth
  rw [Scanner.inFlow]
  cases outer : scanner.outerKeys with
  | nil => rw [outer, List.length_nil] at this; omega
  | cons key keys => rfl

theorem StandsAt.closeBlocks (stands : scanner.StandsAt place) (column : Int) :
    scanner.closeBlocks column = scanner := by
  rw [Scanner.closeBlocks]
  split_ifs
  · rfl
  · rw [stands.outerIndents, closeFrom]
    cases scanner
    cases stands.outerIndents
    rfl

theorem StandsAt.dropKey (stands : scanner.StandsAt place) :
    scanner.dropKey = .ok { scanner with key := none } := by
  rw [Scanner.dropKey]
  cases found : scanner.key with
  | none =>
      dsimp only
      rw [← found]
  | some key =>
      have optional := stands.optional key (found ▸ List.mem_cons_self)
      simp only [optional, Bool.false_eq_true, if_false]

/-!
## Fetching
-/

/-- Characters that begin neither white space nor a comment, a byte order mark or a document
indicator. -/
def BeginsToken (c : Char) : Prop :=
  IsVisible c ∧ c ≠ '#' ∧ c ≠ '\ufeff' ∧ c ≠ '-' ∧ c ≠ '.'

instance (c : Char) : Decidable (BeginsToken c) :=
  inferInstanceAs (Decidable (_ ∧ _))

theorem StandsAt.noIndicator {c : Char} {rest : List Char} (begins : BeginsToken c)
    (stands : scanner.StandsAt place) (spelled : place.rest = c :: rest) :
    scanner.cursor.atDocumentIndicator = false :=
  Cursor.atDocumentIndicator_of_ne (stands.rest.trans spelled) begins.2.2.2.1 begins.2.2.2.2

theorem skipSpace_of_beginsToken {c : Char} {rest : List Char} (begins : BeginsToken c)
    (spelled : scanner.cursor.rest = c :: rest) (budget : List Char) :
    skipSpace budget scanner = scanner := by
  obtain ⟨⟨noBlank, noBreak⟩, noComment, _⟩ := begins
  cases budget with
  | nil => rfl
  | cons b budget =>
      simp only [isBlank, Bool.or_eq_false_iff] at noBlank
      have stays : (scanner.cursor.skipWhile fun c => c == ' ' ||
          ((scanner.inFlow || !scanner.keyAllowed) && c == '\t')) = scanner.cursor := by
        simp only [Cursor.skipWhile, Cursor.takeWhile, spelled, List.takeWhile_cons, noBlank.1,
          noBlank.2, Bool.and_false, Bool.or_self, Bool.false_eq_true, if_false, List.length_nil,
          Cursor.skip_zero]
      have comment : scanner.cursor.skipComment = scanner.cursor := by
        rw [Cursor.skipComment, spelled]
        simp [noComment]
      simp only [skipSpace, stays, comment, spelled, List.head?_cons, Option.any_some, noBreak,
        Bool.false_eq_true, if_false]

theorem StandsAt.fetch {c : Char} {rest : List Char} (begins : BeginsToken c)
    (stands : scanner.StandsAt place) (spelled : place.rest = c :: rest) {next : Scanner}
    (fetched : scanner.kept.fetchAt c rest = .ok next) : scanner.fetch = .ok (false, next) := by
  have own : scanner.cursor.rest = c :: rest := stands.rest.trans spelled
  have noMark : scanner.skipByteOrderMark = scanner := by
    rw [skipByteOrderMark, own, List.head?_cons,
      if_neg fun both => begins.2.2.1 (Option.some.inj both.2)]
  have ownKept : scanner.kept.cursor.rest = c :: rest := own
  simp only [Scanner.fetch, noMark, skipSpace_of_beginsToken begins own,
    dropStale_of_optional stands.optional, stands.kept.closeBlocks, bind, Except.bind, ownKept,
    fetched]
  rfl

/-!
## Paths from place to place
-/

/-- From every scanner at the first place, turns lead to one at the last, and add tokens of the
given kinds. -/
def Scans (first : FlowPlace) (kinds : List TokenKind) (last : FlowPlace) : Prop :=
  ∀ scanner : Scanner, scanner.StandsAt first → ∃ out next, Turns scanner out next ∧
    next.StandsAt last ∧
    (out ++ next.waiting).map Token.kind = scanner.waiting.map Token.kind ++ kinds

theorem Scans.refl (place : FlowPlace) : Scans place [] place :=
  fun scanner stands => ⟨[], scanner, .refl scanner, stands, (List.append_nil _).symm⟩

theorem Scans.trans {first middle last : FlowPlace} {kinds more : List TokenKind}
    (left : Scans first kinds middle) (right : Scans middle more last) :
    Scans first (kinds ++ more) last := by
  intro scanner stands
  obtain ⟨out, next, turns, stands, added⟩ := left scanner stands
  obtain ⟨outLater, final, later, stands, addedLater⟩ := right next stands
  refine ⟨out ++ outLater, final, turns.trans later, stands, ?_⟩
  rw [List.append_assoc, List.map_append, addedLater, ← List.append_assoc, ← List.map_append, added,
    List.append_assoc]

theorem isStale_eq_false {key : PossibleKey} (sameLine : key.mark.line = scanner.mark.line)
    (near : scanner.mark.index ≤ key.mark.index + 1024) : scanner.isStale key = false := by
  rw [isStale, Bool.or_eq_false_iff, decide_eq_false_iff_not, decide_eq_false_iff_not]
  exact ⟨by omega, by omega⟩

theorem kept_key {key : PossibleKey} (possible : scanner.key = some key)
    (fresh : scanner.isStale key = false) : scanner.kept.key = some key := by
  simp [kept, possible, fresh]

/-- A turn after a token was fetched: tokens are released from the front of those that wait. A key
that stays possible is not among them. -/
theorem StandsAt.turn {c : Char} {rest : List Char} (begins : BeginsToken c)
    (stands : scanner.StandsAt place) (spelled : place.rest = c :: rest) {fetched : Scanner}
    {last : FlowPlace} (reads : scanner.kept.fetchAt c rest = .ok fetched)
    (standsFetched : fetched.StandsAt last) :
    ∃ out next, Turn scanner out next ∧ next.StandsAt last ∧ out ++ next.waiting = fetched.waiting ∧
      next.released = fetched.released + out.length ∧
      ∀ key, fetched.key = some key → fetched.isStale key = false →
        next.key = some key ∧ next.isStale key = false ∧
          (fetched.released ≤ key.number → next.released ≤ key.number) := by
  obtain ⟨out, left, released, parts, before⟩ := releaseTokens_eq fetched.kept fetched.kept.waiting
  have fetch := stands.fetch begins spelled reads
  refine ⟨out, _, .intro fetch (dropStale_of_optional standsFetched.optional) released,
    standsFetched.kept.withTokens _ _, parts, rfl, ?_⟩
  intro key possible fresh
  have still := kept_key possible fresh
  exact ⟨still, fresh, before key (still ▸ List.mem_cons_self)⟩

theorem scans_of_fetchAt {c : Char} {rest : List Char} (begins : BeginsToken c)
    {first last : FlowPlace} (spelled : first.rest = c :: rest)
    (shorter : last.rest.length ≤ rest.length) {kind : TokenKind}
    (reads : ∀ scanner : Scanner, scanner.StandsAt first → ∃ next,
      scanner.fetchAt c rest = .ok next ∧ next.StandsAt last ∧
        next.waiting.map Token.kind = scanner.waiting.map Token.kind ++ [kind]) :
    Scans first [kind] last := by
  intro scanner stands
  obtain ⟨fetched, read, standsLast, added⟩ := reads scanner.kept stands.kept
  obtain ⟨out, next, turn, standsNext, parts, -, -⟩ := stands.turn begins spelled read standsLast
  have consumed : next.cursor.rest.length < scanner.cursor.rest.length := by
    rw [standsNext.rest, stands.rest, spelled, List.length_cons]
    exact Nat.lt_succ_of_le shorter
  refine ⟨out ++ [], next, .cons turn consumed (.refl next), standsNext, ?_⟩
  rw [List.append_nil, parts, added]
  rfl

/-!
## The end of the text
-/

theorem StandsAt.exists_endStream (stands : scanner.StandsAt place) :
    ∃ next, scanner.endStream = .ok next ∧ next.StandsAt ⟨place.depth, false, []⟩ ∧
      next.key = none ∧
      next.waiting.map Token.kind = scanner.waiting.map Token.kind ++ [.streamEnd] := by
  let mark := if scanner.cursor.column = 0 then scanner.mark else scanner.mark.down 0
  have atEnd := stands.withCursor ⟨mark, []⟩
  have ends : scanner.endStream = .ok (push { scanner with
      cursor := ⟨mark, []⟩, key := none, keyAllowed := false } .streamEnd mark mark) := by
    rw [endStream, atEnd.closeBlocks, atEnd.dropKey]
  refine ⟨_, ends, (atEnd.withoutKey false).withTokens _ _, rfl, ?_⟩
  rw [push, List.map_append]
  rfl

/-- At the end of the text, outside all collections, everything that waits is released. -/
theorem StandsAt.run_end {keyAllowed : Bool} (stands : scanner.StandsAt ⟨0, keyAllowed, []⟩)
    (budget : Nat) :
    ∃ tokens, run (budget + 1) scanner = ⟨tokens, none⟩ ∧
      tokens.map Token.kind = scanner.waiting.map Token.kind ++ [.streamEnd] := by
  obtain ⟨ended, ends, standsEnded, noKey, waiting⟩ := stands.kept.exists_endStream
  have rest : scanner.cursor.rest = [] := stands.rest
  have noMark : scanner.skipByteOrderMark = scanner := by
    simp [skipByteOrderMark, rest]
  have fetch : scanner.fetch = .ok (true, ended) := by
    have restKept : scanner.kept.cursor.rest = [] := rest
    simp only [Scanner.fetch, noMark, rest, skipSpace, dropStale_of_optional stands.optional,
      stands.kept.closeBlocks, bind, Except.bind, restKept, ends]
    rfl
  have noKeys : ∀ key, some key ∉ ended.kept.key :: ended.kept.outerKeys := by
    have noOuter : ended.outerKeys = [] := List.eq_nil_of_length_eq_zero standsEnded.depth
    simp [Scanner.kept, noKey, noOuter]
  refine ⟨ended.waiting, ?_, waiting⟩
  have all := releaseTokens_of_no_key noKeys ended.waiting
  simp only [run, fetch, dropStale_of_optional standsEnded.optional, if_true]
  rw [show ended.kept.waiting = ended.waiting from rfl, all]

/-- A path through the whole text gives its tokens. -/
theorem Scans.exists_ofText {text : List Char} {kinds : List TokenKind} {keyAllowed : Bool}
    (scans : Scans ⟨0, true, text⟩ kinds ⟨0, keyAllowed, []⟩)
    (admissible : firstInadmissible? 0 text = none) :
    ∃ tokens, TokenStream.ofText text = ⟨tokens, none⟩ ∧
      tokens.map Token.kind = kinds ++ [.streamEnd] := by
  obtain ⟨out, last, turns, stands, added⟩ := scans (start text) (standsAt_start text)
  obtain ⟨left, enough, rest⟩ := turns.run (Nat.lt_succ_self text.length)
  obtain ⟨left, rfl⟩ := Nat.exists_eq_succ_of_ne_zero (Nat.ne_of_gt (Nat.zero_lt_of_lt enough))
  obtain ⟨tokens, ended, kinds⟩ := stands.run_end left
  refine ⟨out ++ tokens, ?_, ?_⟩
  · simp only [TokenStream.ofText, admissible, rest, ended]
  · rw [List.map_append, kinds, ← List.append_assoc, ← List.map_append, added]
    rfl

end Scanner

end SnapshotTypes.Yaml
