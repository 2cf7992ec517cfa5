import SnapshotTypes.Proofs.Yaml.Turns

/-!
# Lexemes within flow collections

The brackets, commas, scalars and keys of a flow collection, each as a path from place to place.
-/

set_option autoImplicit false

namespace SnapshotTypes.Yaml.Scanner

variable {scanner : Scanner} {place : FlowPlace}

/-!
## Noting keys and taking tokens
-/

/-- Where a key is allowed, the next token is noted as one that may be. -/
theorem StandsAt.saveKey (stands : scanner.StandsAt place) :
    scanner.saveKey = .ok (if place.keyAllowed then
      { scanner with
        key := some ⟨false, scanner.released + scanner.waiting.length, scanner.mark⟩ }
      else scanner) := by
  have own := stands.keyAllowed
  cases allowed : place.keyAllowed with
  | false => simp [Scanner.saveKey, own, allowed]
  | true =>
      have notRequired : (!scanner.inFlow && scanner.indent == scanner.cursor.column) = false := by
        rw [stands.indent, Bool.and_eq_false_iff, beq_eq_false_iff_ne]
        exact .inr (by omega)
      simp only [Scanner.saveKey, own, allowed, Bool.not_true, Bool.false_eq_true, if_false,
        stands.dropKey, if_true]
      rw [← notRequired]
      rfl

theorem StandsAt.exists_saveKey (stands : scanner.StandsAt place) :
    ∃ next, scanner.saveKey = .ok next ∧ next.StandsAt place ∧ next.cursor = scanner.cursor ∧
      next.waiting = scanner.waiting := by
  refine ⟨_, stands.saveKey, ?_⟩
  split_ifs
  · exact ⟨stands.withKey fun _ own => Option.some.inj own ▸ rfl, rfl, rfl⟩
  · exact ⟨stands, rfl, rfl⟩

theorem kinds_take (scanner : Scanner) (kind : TokenKind) (next : Cursor) :
    (scanner.take kind next).waiting.map Token.kind =
      scanner.waiting.map Token.kind ++ [kind] := by
  rw [Scanner.take, push, List.map_append]
  rfl

theorem StandsAt.take (stands : scanner.StandsAt place) {text rest : List Char}
    (spelled : place.rest = text ++ rest) (kind : TokenKind) :
    (scanner.take kind (scanner.cursor.skip text.length)).StandsAt
      ⟨place.depth, place.keyAllowed, rest⟩ where
  depth := stands.depth
  keyAllowed := stands.keyAllowed
  rest := Cursor.rest_skip (stands.rest.trans spelled)
  indent := stands.indent
  outerIndents := stands.outerIndents
  optional := stands.optional

/-!
## Brackets and commas
-/

theorem StandsAt.opened (stands : scanner.StandsAt place) :
    { scanner with
      key := none, outerKeys := scanner.key :: scanner.outerKeys, keyAllowed := true }.StandsAt
      ⟨place.depth + 1, true, place.rest⟩ where
  depth := congrArg (· + 1) stands.depth
  keyAllowed := rfl
  rest := stands.rest
  indent := stands.indent
  outerIndents := stands.outerIndents
  optional key member := by
    rcases List.mem_cons.mp member with same | member
    · cases same
    · exact stands.optional key member

theorem scans_flowStart {c : Char} {kind : TokenKind} (begins : BeginsToken c)
    (fetches : ∀ (scanner : Scanner) (rest : List Char),
      scanner.cursor.atDocumentIndicator = false →
        scanner.fetchAt c rest = scanner.fetchFlowStart kind)
    (depth : Nat) (keyAllowed : Bool) (rest : List Char) :
    Scans ⟨depth, keyAllowed, c :: rest⟩ [kind] ⟨depth + 1, true, rest⟩ := by
  refine scans_of_fetchAt begins rfl (Nat.le_refl rest.length) ?_
  intro scanner stands
  obtain ⟨saved, saves, standsSaved, -, waiting⟩ := stands.exists_saveKey
  refine ⟨_, ?_, standsSaved.opened.take (List.singleton_append).symm kind, ?_⟩
  · rw [fetches scanner rest (stands.noIndicator begins rfl), fetchFlowStart, saves]
    rfl
  · rw [kinds_take, waiting]

theorem scans_flowEnd {c : Char} {kind : TokenKind} (begins : BeginsToken c)
    (fetches : ∀ (scanner : Scanner) (rest : List Char),
      scanner.cursor.atDocumentIndicator = false →
        scanner.fetchAt c rest = scanner.fetchFlowEnd kind)
    (depth : Nat) (keyAllowed : Bool) (rest : List Char) :
    Scans ⟨depth + 1, keyAllowed, c :: rest⟩ [kind] ⟨depth, false, rest⟩ := by
  refine scans_of_fetchAt begins rfl (Nat.le_refl rest.length) ?_
  intro scanner stands
  obtain ⟨key, keys, outer⟩ := List.exists_cons_of_length_eq_add_one stands.depth
  have closed : { scanner with key := key, outerKeys := keys, keyAllowed := false }.StandsAt
      ⟨depth, false, c :: rest⟩ := {
    depth := Nat.succ.inj ((congrArg List.length outer).symm.trans stands.depth)
    keyAllowed := rfl
    rest := stands.rest
    indent := stands.indent
    outerIndents := stands.outerIndents
    optional := fun key member =>
      stands.optional key (List.mem_cons_of_mem _ (outer ▸ member)) }
  refine ⟨_, ?_, closed.take (List.singleton_append).symm kind, kinds_take _ kind _⟩
  rw [fetches scanner rest (stands.noIndicator begins rfl), fetchFlowEnd, stands.dropKey]
  simp only [bind, Except.bind, outer]
  rfl

theorem scans_comma (depth : Nat) (keyAllowed : Bool) (rest : List Char) :
    Scans ⟨depth, keyAllowed, ',' :: rest⟩ [.flowEntry] ⟨depth, true, rest⟩ := by
  have begins : BeginsToken ',' := by decide
  refine scans_of_fetchAt begins rfl (Nat.le_refl rest.length) ?_
  intro scanner stands
  have noIndicator := stands.noIndicator begins rfl
  refine ⟨_, ?_, (stands.withoutKey true).take (List.singleton_append).symm .flowEntry,
    kinds_take _ .flowEntry _⟩
  have fetches : scanner.fetchAt ',' rest = scanner.fetchFlowEntry := by
    simp [fetchAt, noIndicator]
  rw [fetches, fetchFlowEntry, stands.dropKey]
  rfl

theorem scans_openBracket (depth : Nat) (keyAllowed : Bool) (rest : List Char) :
    Scans ⟨depth, keyAllowed, '[' :: rest⟩ [.flowSequenceStart] ⟨depth + 1, true, rest⟩ :=
  scans_flowStart (by decide) (fun _ _ noIndicator => by simp [fetchAt, noIndicator])
    depth keyAllowed rest

theorem scans_openBrace (depth : Nat) (keyAllowed : Bool) (rest : List Char) :
    Scans ⟨depth, keyAllowed, '{' :: rest⟩ [.flowMappingStart] ⟨depth + 1, true, rest⟩ :=
  scans_flowStart (by decide) (fun _ _ noIndicator => by simp [fetchAt, noIndicator])
    depth keyAllowed rest

theorem scans_closeBracket (depth : Nat) (keyAllowed : Bool) (rest : List Char) :
    Scans ⟨depth + 1, keyAllowed, ']' :: rest⟩ [.flowSequenceEnd] ⟨depth, false, rest⟩ :=
  scans_flowEnd (by decide) (fun _ _ noIndicator => by simp [fetchAt, noIndicator])
    depth keyAllowed rest

theorem scans_closeBrace (depth : Nat) (keyAllowed : Bool) (rest : List Char) :
    Scans ⟨depth + 1, keyAllowed, '}' :: rest⟩ [.flowMappingEnd] ⟨depth, false, rest⟩ :=
  scans_flowEnd (by decide) (fun _ _ noIndicator => by simp [fetchAt, noIndicator])
    depth keyAllowed rest

/-!
## Scalars
-/

theorem fetchAt_quoted {text : List Char} (ascii : ∀ c ∈ text, c.toNat < 0x7f)
    {depth : Nat} {keyAllowed : Bool} {rest : List Char}
    (stands : scanner.StandsAt ⟨depth, keyAllowed, inQuotes text ++ rest⟩) {saved : Scanner}
    (saves : scanner.saveKey = .ok saved) (cursor : saved.cursor = scanner.cursor)
    (later : List Char) :
    scanner.fetchAt '"' later = .ok (take { saved with keyAllowed := false }
      (.scalar text .doubleQuoted) (saved.cursor.skip (inQuotes text).length)) := by
  have noIndicator : scanner.cursor.atDocumentIndicator = false :=
    stands.noIndicator (by decide) (inQuotes_append text rest)
  have fetches : scanner.fetchAt '"' later = scanner.fetchQuoted '"' .doubleQuoted := by
    simp [fetchAt, noIndicator]
  have read := readQuoted_inQuotes ascii (cursor ▸ stands.rest)
  rw [fetches, Scanner.fetchQuoted, saves]
  simp only [bind, Except.bind, read]

theorem length_le_length_inQuotes_append (text rest : List Char) :
    rest.length ≤ (text.flatMap Text.escapedChar ++ '"' :: rest).length := by
  rw [List.length_append, List.length_cons]
  omega

theorem scans_quoted {text : List Char} (ascii : ∀ c ∈ text, c.toNat < 0x7f) (depth : Nat)
    (keyAllowed : Bool) (rest : List Char) :
    Scans ⟨depth, keyAllowed, inQuotes text ++ rest⟩ [.scalar text .doubleQuoted]
      ⟨depth, false, rest⟩ := by
  refine scans_of_fetchAt (by decide : BeginsToken '"') (inQuotes_append text rest)
    (length_le_length_inQuotes_append text rest) ?_
  intro scanner stands
  obtain ⟨saved, saves, standsSaved, cursor, waiting⟩ := stands.exists_saveKey
  refine ⟨_, fetchAt_quoted ascii stands saves cursor _,
    (standsSaved.withKeyAllowed false).take rfl _, ?_⟩
  rw [kinds_take, waiting]

/-- A word that nothing in it ends as a plain scalar. -/
def IsPlainWord (word : List Char) : Prop :=
  word ≠ [] ∧ ∀ c ∈ word, BeginsToken c ∧ isIndicator c = false

instance (word : List Char) : Decidable (IsPlainWord word) :=
  @instDecidableAnd _ _ inferInstance (List.decidableBAll _ word)

theorem ne_of_isIndicator {c d : Char} (noIndicator : isIndicator c = false)
    (indicator : isIndicator d = true) : c ≠ d := by
  rintro rfl
  exact Bool.false_ne_true (noIndicator.symm.trans indicator)

theorem isFlowIndicator_of_isIndicator {c : Char} (noIndicator : isIndicator c = false) :
    isFlowIndicator c = false := by
  have other (d : Char) (indicator : isIndicator d = true) : (c == d) = false :=
    beq_false_of_ne (ne_of_isIndicator noIndicator indicator)
  rw [isFlowIndicator, other ',' (by decide), other '[' (by decide), other ']' (by decide),
    other '{' (by decide), other '}' (by decide)]
  rfl

theorem takePlain_word {word : List Char}
    (plain : ∀ c ∈ word, BeginsToken c ∧ isIndicator c = false) {c : Char}
    (ends : isFlowIndicator c = true) (rest : List Char) :
    takePlain true (word ++ c :: rest) = word := by
  induction word with
  | nil => simp [takePlain, endsPlain, ends]
  | cons d word ih =>
      obtain ⟨⟨begins, noIndicator⟩, others⟩ := List.forall_mem_cons.mp plain
      have noColon : d ≠ ':' := ne_of_isIndicator noIndicator (by decide)
      have noTight : atTightColon (d :: (word ++ c :: rest)) = false := by
        simp [atTightColon, noColon]
      simp [takePlain, endsPlain, begins.1.1, begins.1.2, noColon, noTight, ih others,
        isFlowIndicator_of_isIndicator noIndicator]

theorem readPlain_word {word : List Char} (plain : IsPlainWord word) {c : Char}
    (ends : isFlowIndicator c = true) {rest : List Char} (indent : Int) {cursor : Cursor}
    (spelled : cursor.rest = word ++ c :: rest) :
    readPlain true indent cursor =
      .ok ⟨word, (cursor.skip word.length).mark, false, cursor.skip word.length⟩ := by
  have after := Cursor.rest_skip spelled
  have run : takePlain true cursor.rest = word := by
    rw [spelled, takePlain_word plain.2 ends]
  obtain ⟨d, more, rfl⟩ := List.exists_cons_of_ne_nil plain.1
  obtain ⟨begins, -⟩ := plain.2 d List.mem_cons_self
  have begun : ¬(cursor.atDocumentIndicator = true ∨ cursor.rest.head? = some '#') := by
    rw [Cursor.atDocumentIndicator_of_ne spelled begins.2.2.2.1 begins.2.2.2.2, spelled]
    simp [begins.2.1]
  have noTight : atTightColon (c :: rest) = false := by
    have noColon : c ≠ ':' := by
      rintro rfl
      cases ends
    simp [atTightColon, noColon]
  have visible : isBlank c = false ∧ isBreak c = false := by
    simp only [isFlowIndicator, Bool.or_eq_true, beq_iff_eq] at ends
    rcases ends with (((rfl | rfl) | rfl) | rfl) | rfl <;> decide
  rw [readPlain, spelled, List.cons_append, readPlainFrom, if_neg begun]
  simp only [run]
  generalize cursor.skip (d :: more).length = next at after
  simp [after, noTight, visible, Gap.isBroken, Gap.text, Gap.empty]

theorem fetchAt_word {c : Char} (begins : BeginsToken c) (noIndicator : isIndicator c = false)
    (apart : scanner.cursor.atDocumentIndicator = false) (rest : List Char) :
    scanner.fetchAt c rest = scanner.fetchPlain := by
  have other (d : Char) (indicator : isIndicator d = true) : c ≠ d :=
    ne_of_isIndicator noIndicator indicator
  have plain : beginsPlain scanner.inFlow c rest = true := by
    simp [beginsPlain, begins.1.1, begins.1.2, noIndicator]
  simp [fetchAt, apart, plain, other '%' (by decide), other '[' (by decide), other '{' (by decide),
    other ']' (by decide), other '}' (by decide), other ',' (by decide), other '-' (by decide),
    other '?' (by decide), other ':' (by decide), other '*' (by decide), other '&' (by decide),
    other '!' (by decide), other '|' (by decide), other '>' (by decide), other '\'' (by decide),
    other '"' (by decide)]

theorem scans_word {word : List Char} (plain : IsPlainWord word) {c : Char}
    (ends : isFlowIndicator c = true) (depth : Nat) (keyAllowed : Bool) (rest : List Char) :
    Scans ⟨depth + 1, keyAllowed, word ++ c :: rest⟩ [.scalar word .plain]
      ⟨depth + 1, false, c :: rest⟩ := by
  obtain ⟨d, more, rfl⟩ := List.exists_cons_of_ne_nil plain.1
  obtain ⟨begins, noIndicator⟩ := plain.2 d List.mem_cons_self
  have shorter : (c :: rest).length ≤ (more ++ c :: rest).length := by
    rw [List.length_append]
    exact Nat.le_add_left _ _
  refine scans_of_fetchAt begins rfl shorter ?_
  intro scanner stands
  obtain ⟨saved, saves, standsSaved, cursor, waiting⟩ := stands.exists_saveKey
  refine ⟨_, ?_, (standsSaved.withKeyAllowed false).take rfl (.scalar (d :: more) .plain), ?_⟩
  · have read := readPlain_word plain ends saved.indent standsSaved.rest
    rw [fetchAt_word begins noIndicator (stands.noIndicator begins rfl), fetchPlain, saves]
    simp only [bind, Except.bind, standsSaved.inFlow (Nat.succ_pos depth), read]
    rfl
  · rw [kinds_take, waiting]

/-!
## Keys
-/

/-- A colon puts the token of a key before the one that was noted as a possible key. -/
theorem fetchAt_colon {depth : Nat} {keyAllowed : Bool} {rest : List Char}
    (stands : scanner.StandsAt ⟨depth + 1, keyAllowed, ':' :: rest⟩) {key : PossibleKey}
    (possible : scanner.key = some key) (later : List Char) :
    scanner.fetchAt ':' later = .ok (take { scanner.insert key.number .key key.mark with
      key := none, keyAllowed := false } .value (scanner.cursor.skip 1)) := by
  have noIndicator := stands.noIndicator (by decide) rfl
  have inFlow := stands.inFlow (Nat.succ_pos depth)
  have inFlowInsert : (scanner.insert key.number .key key.mark).inFlow = true := inFlow
  have fetches : scanner.fetchAt ':' later = scanner.fetchValue := by
    simp [fetchAt, noIndicator, inFlow]
  rw [fetches, fetchValue, possible]
  dsimp only
  rw [openBlock, inFlowInsert, Bool.true_or, if_pos rfl]
  rfl

theorem exists_waiting_of_released {waiting out left : List Token} {token : Token}
    (parts : out ++ left = waiting ++ [token]) (before : out.length ≤ waiting.length) :
    ∃ kept, waiting = out ++ kept ∧ left = kept ++ [token] := by
  obtain ⟨kept, own, rest⟩ | ⟨kept, own, rest⟩ := List.append_eq_append_iff.mp parts
  · exact ⟨kept, own, rest⟩
  · have noMore : kept = [] := by
      rw [own, List.length_append] at before
      exact List.eq_nil_of_length_eq_zero (by omega)
    subst noMore
    exact ⟨[], by rw [own, List.append_nil, List.append_nil], rest.symm⟩

/-- The turn of a quoted text where a key is allowed: the text waits as a possible key, after what
waited before it. -/
theorem turn_key {text : List Char} (ascii : ∀ c ∈ text, c.toNat < 0x7f)
    (short : (inQuotes text).length ≤ 1024) {depth : Nat} {rest : List Char}
    (stands : scanner.StandsAt ⟨depth, true, inQuotes text ++ rest⟩) :
    ∃ out next noted kept token, Turn scanner out next ∧ next.StandsAt ⟨depth, false, rest⟩ ∧
      next.key = some noted ∧ next.isStale noted = false ∧
      noted.number = next.released + kept.length ∧ scanner.waiting = out ++ kept ∧
      next.waiting = kept ++ [token] ∧ token.kind = .scalar text .doubleQuoted := by
  have reads := fetchAt_quoted ascii stands.kept stands.kept.saveKey rfl
  have standsNoted : { scanner.kept with
      key := some ⟨false, scanner.released + scanner.waiting.length, scanner.mark⟩ }.StandsAt _ :=
    stands.kept.withKey fun _ own => Option.some.inj own ▸ rfl
  have standsFetched := (standsNoted.withKeyAllowed false).take rfl (.scalar text .doubleQuoted)
  obtain ⟨out, next, turn, standsNext, parts, released, keeps⟩ :=
    stands.turn (by decide) (inQuotes_append text rest) (reads _) standsFetched
  obtain ⟨possible, fresh, before⟩ :=
    keeps _ rfl (isStale_eq_false rfl (Nat.add_le_add_left short _))
  have before := before (Nat.le_add_right _ _)
  rw [released] at before
  obtain ⟨kept, own, waiting⟩ := exists_waiting_of_released parts (Nat.le_of_add_le_add_left before)
  refine ⟨out, next, _, kept, _, turn, standsNext, possible, fresh, ?_, own, waiting, rfl⟩
  have count : scanner.waiting.length = out.length + kept.length := by
    rw [← List.length_append]
    exact congrArg List.length own
  rw [released, Nat.add_assoc, ← count]
  rfl

theorem turn_colon {depth : Nat} {keyAllowed : Bool} {rest : List Char}
    (stands : scanner.StandsAt ⟨depth + 1, keyAllowed, ':' :: rest⟩) {noted : PossibleKey}
    (possible : scanner.key = some noted) (fresh : scanner.isStale noted = false)
    {kept : List Token} {token : Token} (number : noted.number = scanner.released + kept.length)
    (waiting : scanner.waiting = kept ++ [token]) :
    ∃ out next, Turn scanner out next ∧ next.StandsAt ⟨depth + 1, false, rest⟩ ∧
      (out ++ next.waiting).map Token.kind = kept.map Token.kind ++ [.key, token.kind, .value] := by
  have reads := fetchAt_colon stands.kept (kept_key possible fresh) rest
  have standsFetched := ((stands.kept.withTokens scanner.released
    (scanner.kept.insert noted.number .key noted.mark).waiting).withoutKey false).take
      (List.singleton_append).symm .value
  obtain ⟨out, next, turn, standsNext, parts, -, -⟩ :=
    stands.turn (by decide) rfl reads standsFetched
  have position : noted.number - scanner.released = kept.length := by
    omega
  have inserted : (scanner.kept.insert noted.number .key noted.mark).waiting =
      kept ++ ⟨.key, noted.mark, noted.mark⟩ :: [token] := by
    show scanner.waiting.take (noted.number - scanner.released) ++ _ ::
      scanner.waiting.drop (noted.number - scanner.released) = _
    rw [position, waiting, List.take_left, List.drop_left]
  refine ⟨out, next, turn, standsNext, ?_⟩
  rw [parts, kinds_take]
  simp only [inserted, List.map_append, List.map_cons, List.map_nil, List.append_assoc,
    List.cons_append, List.nil_append]

/-- A text in quotes is a key if a colon follows it and it is short enough. -/
theorem scans_key {text : List Char} (ascii : ∀ c ∈ text, c.toNat < 0x7f)
    (short : (inQuotes text).length ≤ 1024) (depth : Nat) (rest : List Char) :
    Scans ⟨depth + 1, true, inQuotes text ++ ':' :: rest⟩
      [.key, .scalar text .doubleQuoted, .value] ⟨depth + 1, false, rest⟩ := by
  intro scanner stands
  obtain ⟨out, middle, noted, kept, token, turn, standsMiddle, possible, fresh, number, own,
    waiting, kind⟩ := turn_key ascii short stands
  obtain ⟨outLater, last, turnLater, standsLast, kinds⟩ :=
    turn_colon standsMiddle possible fresh number waiting
  have consumed : middle.cursor.rest.length < scanner.cursor.rest.length := by
    rw [standsMiddle.rest, stands.rest, inQuotes_append]
    exact Nat.lt_succ_of_le (length_le_length_inQuotes_append text _)
  have consumedLater : last.cursor.rest.length < middle.cursor.rest.length := by
    rw [standsLast.rest, standsMiddle.rest]
    exact Nat.lt_succ_self _
  refine ⟨_, last, .cons turn consumed (.cons turnLater consumedLater (.refl last)), standsLast, ?_⟩
  rw [List.append_nil, List.append_assoc, List.map_append, kinds, own, kind, List.map_append,
    List.append_assoc]

end SnapshotTypes.Yaml.Scanner
