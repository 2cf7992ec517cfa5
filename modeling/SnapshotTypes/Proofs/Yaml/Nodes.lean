import SnapshotTypes.Proofs.Yaml.Tokens
import SnapshotTypes.Yaml.Node
import Mathlib.Data.List.Forall2

/-!
# Compact JSON as nodes of YAML

The tokens of a shared value are parsed to its nodes, without anchors, tags or nodes that are left
out. Each goal of the parser goes on where the value ends.
-/

set_option autoImplicit false

namespace SnapshotTypes.Yaml

open Json (Tree)

def nodesOf : Tree → List Node
  | .null => [.scalar none "null".toList .plain]
  | .boolean value => [.scalar none (toString value).toList .plain]
  | .number numeral => [.scalar none numeral.text .plain]
  | .text value => [.scalar none value.toList .doubleQuoted]
  | .list elements => .sequenceStart :: (elements.flatMap nodesOf ++ [.sequenceEnd])
  | .object entries =>
    .mappingStart :: (entries.flatMap (fun entry =>
      .scalar none entry.1.toList .doubleQuoted :: nodesOf entry.2) ++ [.mappingEnd])
decreasing_by
  · exact Tree.sizeOf_lt_list ‹_›
  · exact Tree.sizeOf_lt_object ‹_›

/-- An event without an anchor, and its node. -/
inductive Gives : Event → Node → Prop
  | scalar (text : List Char) (style : ScalarStyle) :
      Gives (.scalar none none text style) (.scalar none text style)
  | sequenceStart : Gives (.sequenceStart none) .sequenceStart
  | sequenceEnd : Gives .sequenceEnd .sequenceEnd
  | mappingStart : Gives (.mappingStart none) .mappingStart
  | mappingEnd : Gives .mappingEnd .mappingEnd

namespace Parsing

/-!
## Paths of the parser
-/

inductive Yields : Parsing → List Node → Parsing → Prop
  | refl (parsing : Parsing) : Yields parsing [] parsing
  | cons {parsing middle last : Parsing} {event : Event} {mark : Mark} {node : Node}
      {nodes : List Node} :
      parsing.next = .ok ((event, mark), middle) → Gives event node →
      Yields middle nodes last → Yields parsing (node :: nodes) last

theorem Yields.trans {parsing middle last : Parsing} {nodes more : List Node}
    (first : Yields parsing nodes middle) (second : Yields middle more last) :
    Yields parsing (nodes ++ more) last := by
  induction first with
  | refl => exact second
  | cons next gives _ ih => exact .cons next gives (ih second)

theorem Yields.run {parsing last : Parsing} {nodes : List Node}
    (yields : Yields parsing nodes last) (fault : Option Malformed) (budget : Nat) :
    ∃ events, List.Forall₂ (fun event node => Gives event.1 node) events nodes ∧
      run fault (nodes.length + budget) parsing =
        ⟨events ++ (run fault budget last).events, (run fault budget last).fault⟩ := by
  induction yields with
  | refl => exact ⟨[], .nil, by rw [List.length_nil, Nat.zero_add, List.nil_append]⟩
  | @cons _ _ _ event mark _ _ next gives _ ih =>
      obtain ⟨events, given, rest⟩ := ih
      refine ⟨(event, mark) :: events, .cons gives given, ?_⟩
      rw [List.length_cons, Nat.succ_add_eq_add_succ, Nat.add_succ, Parsing.run]
      simp only [next, rest, List.cons_append]

/-- What is to be read from here on, and the kinds of the tokens that are left. -/
def Awaits (parsing : Parsing) (goals : List Goal) (kinds : List TokenKind) : Prop :=
  parsing.goal :: parsing.later = goals ∧ parsing.tokens.map Token.kind = kinds

variable {parsing : Parsing} {goal : Goal} {goals : List Goal} {kind : TokenKind}
  {kinds : List TokenKind}

theorem exists_token (spelled : parsing.tokens.map Token.kind = kind :: kinds) :
    ∃ token, parsing.peek = .ok token ∧ token.kind = kind ∧
      parsing.drop.tokens.map Token.kind = kinds := by
  obtain ⟨token, rest, tokens, same, restKinds⟩ := List.map_eq_cons_iff.mp spelled
  refine ⟨token, ?_, same, ?_⟩
  · rw [peek, tokens]
  · rw [drop, tokens]
    exact restKinds

theorem awaits_resume (later : parsing.later = goal :: goals)
    (spelled : parsing.drop.tokens.map Token.kind = kinds) :
    parsing.drop.resume.Awaits (goal :: goals) kinds := by
  have own : parsing.drop.later = goal :: goals := later
  rw [resume, own]
  exact ⟨rfl, spelled⟩

/-- From everywhere where the first goals and tokens are left, the parser gives some nodes and comes
to where the last ones are left. -/
def Reads (goals : List Goal) (kinds : List TokenKind) (nodes : List Node) (lastGoals : List Goal)
    (lastKinds : List TokenKind) : Prop :=
  ∀ parsing : Parsing, parsing.Awaits goals kinds →
    ∃ last, Yields parsing nodes last ∧ last.Awaits lastGoals lastKinds

theorem Reads.refl (goals : List Goal) (kinds : List TokenKind) :
    Reads goals kinds [] goals kinds :=
  fun parsing awaits => ⟨parsing, .refl parsing, awaits⟩

theorem Reads.trans {first middle last : List Goal} {kinds middleKinds lastKinds : List TokenKind}
    {nodes more : List Node} (left : Reads first kinds nodes middle middleKinds)
    (right : Reads middle middleKinds more last lastKinds) :
    Reads first kinds (nodes ++ more) last lastKinds := by
  intro parsing awaits
  obtain ⟨next, yields, awaitsNext⟩ := left parsing awaits
  obtain ⟨final, later, awaitsFinal⟩ := right next awaitsNext
  exact ⟨final, yields.trans later, awaitsFinal⟩

/-!
## First tokens of values
-/

inductive BeginsNode : TokenKind → Prop
  | scalar (text : List Char) (style : ScalarStyle) : BeginsNode (.scalar text style)
  | sequence : BeginsNode .flowSequenceStart
  | mapping : BeginsNode .flowMappingStart

theorem exists_kindsOf_eq_cons (tree : Tree) :
    ∃ kind kinds, kindsOf tree = kind :: kinds ∧ BeginsNode kind := by
  cases tree with
  | list _ => rw [kindsOf]; exact ⟨_, _, rfl, .sequence⟩
  | object _ => rw [kindsOf]; exact ⟨_, _, rfl, .mapping⟩
  | _ => rw [kindsOf]; exact ⟨_, _, rfl, .scalar _ _⟩

theorem readNode_scalar (block indentless : Bool) {text : List Char} {style : ScalarStyle}
    {token : Token} (next : parsing.peek = .ok token) (scalar : token.kind = .scalar text style) :
    parsing.readNode block indentless =
      .ok ((.scalar none none text style, token.start), parsing.drop.resume) := by
  simp [readNode, readProperties, expandTag, next, scalar, bind, Except.bind]

theorem readNode_sequence (block indentless : Bool) {token : Token}
    (next : parsing.peek = .ok token) (begins : token.kind = .flowSequenceStart) :
    parsing.readNode block indentless = .ok ((.sequenceStart none, token.start),
      parsing.drop.toward (.flowSequenceEntry token.start true)) := by
  simp [readNode, readProperties, expandTag, next, begins, bind, Except.bind]

theorem readNode_mapping (block indentless : Bool) {token : Token}
    (next : parsing.peek = .ok token) (begins : token.kind = .flowMappingStart) :
    parsing.readNode block indentless = .ok ((.mappingStart none, token.start),
      parsing.drop.toward (.flowMappingKey token.start true)) := by
  simp [readNode, readProperties, expandTag, next, begins, bind, Except.bind]

/-!
## Values
-/

/-- Reading a node gives some nodes, and then what was put off is read on. -/
def ReadsNodes (kinds : List TokenKind) (nodes : List Node) : Prop :=
  ∀ (parsing : Parsing) (block : Bool) (goal : Goal) (goals : List Goal) (rest : List TokenKind),
    parsing.later = goal :: goals → parsing.tokens.map Token.kind = kinds ++ rest →
    ∃ last, last.Awaits (goal :: goals) rest ∧ ∀ before : Parsing,
      before.next = parsing.readNode block false → Yields before nodes last

theorem readsNodes_scalar (text : List Char) (style : ScalarStyle) :
    ReadsNodes [.scalar text style] [.scalar none text style] := by
  intro parsing block goal goals rest later spelled
  obtain ⟨token, next, scalar, tokens⟩ := exists_token spelled
  refine ⟨_, awaits_resume later tokens, fun before same => ?_⟩
  exact .cons (same.trans (readNode_scalar block false next scalar)) (.scalar text style) (.refl _)

/-- The comma before an item, where `first` tells that the item is the first one. -/
def comma (first : Bool) : List TokenKind :=
  if first then [] else [.flowEntry]

/-- The items of a collection, whose goal tells whether an item was read already. -/
theorem reads_items {α : Type} {kinds : α → List TokenKind} {nodes : α → List Node}
    {goal : Bool → Goal} {goals : List Goal} {values : List α}
    (each : ∀ value ∈ values, ∀ first rest, Reads (goal first :: goals)
      (comma first ++ (kinds value ++ rest)) (nodes value) (goal false :: goals) rest)
    (rest : List TokenKind) :
    ∃ first, Reads (goal true :: goals) ([.flowEntry].intercalate (values.map kinds) ++ rest)
      (values.flatMap nodes) (goal first :: goals) rest := by
  have later : ∀ values' : List α, (∀ value ∈ values', value ∈ values) →
      Reads (goal false :: goals)
        (values'.flatMap (fun value => .flowEntry :: kinds value) ++ rest) (values'.flatMap nodes)
        (goal false :: goals) rest := by
    intro values' among
    induction values' with
    | nil => exact .refl _ _
    | cons value values' ih =>
        obtain ⟨member, others⟩ := List.forall_mem_cons.mp among
        rw [List.flatMap_cons, List.flatMap_cons, List.append_assoc]
        exact (each value member false _).trans (ih others)
  cases values with
  | nil => exact ⟨true, .refl _ _⟩
  | cons value values =>
      refine ⟨false, ?_⟩
      rw [Json.intercalate_map_cons, List.flatMap_cons, List.append_assoc]
      exact (each value List.mem_cons_self true _).trans
        (later values fun _ member => List.mem_cons_of_mem _ member)

/-- A collection is read from its first event to its last one, if its goal reads every item and
stops before the token that closes it. -/
theorem readsNodes_collection {α : Type} {kinds : α → List TokenKind} {nodes : α → List Node}
    {values : List α} {goal : Mark → Bool → Goal} {opening closing : TokenKind}
    {begun ended : Event} {first last : Node}
    (opens : ∀ (parsing : Parsing) block token, parsing.peek = .ok token → token.kind = opening →
      parsing.readNode block false =
        .ok ((begun, token.start), parsing.drop.toward (goal token.start true)))
    (closes : ∀ (parsing : Parsing) start isFirst token, parsing.goal = goal start isFirst →
      parsing.peek = .ok token → token.kind = closing →
      parsing.next = .ok ((ended, token.start), parsing.drop.resume))
    (givesFirst : Gives begun first) (givesLast : Gives ended last)
    (each : ∀ value ∈ values, ∀ start goals isFirst rest, Reads (goal start isFirst :: goals)
      (comma isFirst ++ (kinds value ++ rest)) (nodes value) (goal start false :: goals) rest) :
    ReadsNodes (opening :: ([.flowEntry].intercalate (values.map kinds) ++ [closing]))
      (first :: (values.flatMap nodes ++ [last])) := by
  intro parsing block next goals rest later spelled
  rw [List.cons_append, List.append_assoc] at spelled
  obtain ⟨token, peeked, begins, tokens⟩ := exists_token spelled
  obtain ⟨isFirst, items⟩ := reads_items (fun value member => each value member token.start
    (next :: goals)) (closing :: rest)
  obtain ⟨middle, yields, heading, spelledLast⟩ :=
    items (parsing.drop.toward (goal token.start true)) ⟨congrArg _ later, tokens⟩
  obtain ⟨atGoal, laterLast⟩ := List.cons.inj heading
  obtain ⟨bracket, peekedLast, ends, tokensLast⟩ := exists_token spelledLast
  have closed := closes middle token.start isFirst bracket atGoal peekedLast ends
  refine ⟨_, awaits_resume laterLast tokensLast, fun before same => ?_⟩
  have opened := same.trans (opens parsing block token peeked begins)
  exact .cons opened givesFirst (yields.trans (.cons closed givesLast (.refl _)))

/-!
## Sequences
-/

theorem next_sequenceEntry {start : Mark} {first : Bool} (begins : BeginsNode kind)
    (awaits : parsing.Awaits (.flowSequenceEntry start first :: goals)
      (comma first ++ kind :: kinds)) :
    ∃ entry : Parsing, entry.tokens.map Token.kind = kind :: kinds ∧
      entry.later = .flowSequenceEntry start false :: goals ∧
      parsing.next = entry.readNode false false := by
  obtain ⟨heading, spelled⟩ := awaits
  obtain ⟨atGoal, rfl⟩ := List.cons.inj heading
  cases first with
  | true =>
      obtain ⟨token, next, rfl, _⟩ := exists_token spelled
      refine ⟨parsing.putOff (.flowSequenceEntry start false), spelled, rfl, ?_⟩
      rw [Parsing.next, atGoal]
      simp only [readFlowSequenceEntry, readFlowSequenceItem, next, bind, Except.bind, if_true]
      generalize token.kind = kind at begins
      cases begins <;> rfl
  | false =>
      obtain ⟨entry, next, isEntry, spelled⟩ := exists_token spelled
      obtain ⟨token, nextToken, rfl, _⟩ := exists_token spelled
      refine ⟨parsing.drop.putOff (.flowSequenceEntry start false), spelled, rfl, ?_⟩
      rw [Parsing.next, atGoal]
      simp only [readFlowSequenceEntry, readFlowSequenceItem, next, isEntry, nextToken, bind,
        Except.bind, if_true, Bool.false_eq_true, if_false]
      generalize token.kind = kind at begins
      cases begins <;> rfl

theorem reads_element {kinds : List TokenKind} {nodes : List Node}
    (begins : ∃ kind more, kinds = kind :: more ∧ BeginsNode kind) (reads : ReadsNodes kinds nodes)
    (start : Mark) (goals : List Goal) (first : Bool) (rest : List TokenKind) :
    Reads (.flowSequenceEntry start first :: goals) (comma first ++ (kinds ++ rest)) nodes
      (.flowSequenceEntry start false :: goals) rest := by
  intro parsing awaits
  obtain ⟨kind, more, rfl, begins⟩ := begins
  obtain ⟨entry, spelled, later, same⟩ := next_sequenceEntry begins awaits
  obtain ⟨last, awaitsLast, yields⟩ := reads entry false _ goals rest later spelled
  exact ⟨last, yields parsing same, awaitsLast⟩

theorem readsNodes_list {elements : List Tree}
    (each : ∀ element ∈ elements, ReadsNodes (kindsOf element) (nodesOf element)) :
    ReadsNodes (kindsOf (.list elements)) (nodesOf (.list elements)) := by
  rw [kindsOf, nodesOf]
  refine readsNodes_collection (fun _ block _ => readNode_sequence block false) ?_
    .sequenceStart .sequenceEnd fun element member =>
      reads_element (exists_kindsOf_eq_cons element) (each element member)
  intro parsing start isFirst token atGoal peeked ends
  rw [next, atGoal]
  simp only [readFlowSequenceEntry, peeked, bind, Except.bind, ends]

/-!
## Mappings
-/

theorem next_mappingKey {start : Mark} {first : Bool} (begins : BeginsNode kind)
    (awaits : parsing.Awaits (.flowMappingKey start first :: goals)
      (comma first ++ .key :: kind :: kinds)) :
    ∃ key : Parsing, key.tokens.map Token.kind = kind :: kinds ∧
      key.later = .flowMappingValue start :: goals ∧ parsing.next = key.readNode false false := by
  obtain ⟨heading, spelled⟩ := awaits
  obtain ⟨atGoal, rfl⟩ := List.cons.inj heading
  cases first with
  | true =>
      obtain ⟨mark, next, isKey, spelled⟩ := exists_token spelled
      obtain ⟨token, nextToken, rfl, _⟩ := exists_token spelled
      refine ⟨parsing.drop.putOff (.flowMappingValue start), spelled, rfl, ?_⟩
      rw [Parsing.next, atGoal]
      simp only [readFlowMappingKey, readFlowMappingItem, next, isKey, nextToken, bind, Except.bind,
        if_true]
      generalize token.kind = kind at begins
      cases begins <;> rfl
  | false =>
      obtain ⟨entry, next, isEntry, spelled⟩ := exists_token spelled
      obtain ⟨mark, nextMark, isKey, spelled⟩ := exists_token spelled
      obtain ⟨token, nextToken, rfl, _⟩ := exists_token spelled
      refine ⟨parsing.drop.drop.putOff (.flowMappingValue start), spelled, rfl, ?_⟩
      rw [Parsing.next, atGoal]
      simp only [readFlowMappingKey, readFlowMappingItem, next, isEntry, nextMark, isKey, nextToken,
        bind, Except.bind, if_true, Bool.false_eq_true, if_false]
      generalize token.kind = kind at begins
      cases begins <;> rfl

theorem next_mappingValue {start : Mark} (begins : BeginsNode kind)
    (awaits : parsing.Awaits (.flowMappingValue start :: goals) (.value :: kind :: kinds)) :
    ∃ value : Parsing, value.tokens.map Token.kind = kind :: kinds ∧
      value.later = .flowMappingKey start false :: goals ∧
      parsing.next = value.readNode false false := by
  obtain ⟨heading, spelled⟩ := awaits
  obtain ⟨atGoal, rfl⟩ := List.cons.inj heading
  obtain ⟨mark, next, isValue, spelled⟩ := exists_token spelled
  obtain ⟨token, nextToken, rfl, _⟩ := exists_token spelled
  refine ⟨parsing.drop.putOff (.flowMappingKey start false), spelled, rfl, ?_⟩
  rw [Parsing.next, atGoal]
  simp only [readFlowMappingValue, next, isValue, nextToken, bind, Except.bind]
  generalize token.kind = kind at begins
  cases begins <;> rfl

theorem reads_entry (key : List Char) {kinds : List TokenKind} {nodes : List Node}
    (begins : ∃ kind more, kinds = kind :: more ∧ BeginsNode kind) (reads : ReadsNodes kinds nodes)
    (start : Mark) (goals : List Goal) (first : Bool) (rest : List TokenKind) :
    Reads (.flowMappingKey start first :: goals)
      (comma first ++ (.key :: .scalar key .doubleQuoted :: .value :: kinds ++ rest))
      (.scalar none key .doubleQuoted :: nodes) (.flowMappingKey start false :: goals) rest := by
  intro parsing awaits
  obtain ⟨kind, more, rfl, begins⟩ := begins
  obtain ⟨entry, spelled, later, same⟩ := next_mappingKey (.scalar key .doubleQuoted) awaits
  obtain ⟨middle, awaitsMiddle, yieldsKey⟩ :=
    readsNodes_scalar key .doubleQuoted entry false _ goals _ later spelled
  obtain ⟨value, spelledValue, laterValue, sameValue⟩ := next_mappingValue begins awaitsMiddle
  obtain ⟨last, awaitsLast, yields⟩ := reads value false _ goals rest laterValue spelledValue
  exact ⟨last, (yieldsKey parsing same).trans (yields middle sameValue), awaitsLast⟩

theorem readsNodes_object {entries : List (String × Tree)}
    (each : ∀ entry ∈ entries, ReadsNodes (kindsOf entry.2) (nodesOf entry.2)) :
    ReadsNodes (kindsOf (.object entries)) (nodesOf (.object entries)) := by
  rw [kindsOf, nodesOf]
  refine readsNodes_collection (fun _ block _ => readNode_mapping block false) ?_
    .mappingStart .mappingEnd fun entry member =>
      reads_entry entry.1.toList (exists_kindsOf_eq_cons entry.2) (each entry member)
  intro parsing start isFirst token atGoal peeked ends
  rw [next, atGoal]
  simp only [readFlowMappingKey, peeked, bind, Except.bind, ends]

theorem readsNodes (tree : Tree) : ReadsNodes (kindsOf tree) (nodesOf tree) := by
  induction tree using Tree.induction with
  | list elements ih => exact readsNodes_list ih
  | object entries ih => exact readsNodes_object ih
  | _ =>
      rw [kindsOf, nodesOf]
      exact readsNodes_scalar _ _

end Parsing

/-!
## Documents
-/

theorem length_flatMap_le_length_intercalate {α β γ : Type} {first : α → List β}
    {second : α → List γ} {values : List α}
    (each : ∀ value ∈ values, (first value).length ≤ (second value).length) (comma : γ) :
    (values.flatMap first).length ≤ ([comma].intercalate (values.map second)).length := by
  induction values with
  | nil => exact Nat.le_refl _
  | cons value values ih =>
      obtain ⟨head, others⟩ := List.forall_mem_cons.mp each
      have tail := ih others
      cases values with
      | nil => simpa using head
      | cons next values =>
          simp only [List.map_cons, List.intercalate_cons_cons, List.length_append,
            List.flatMap_cons, List.length_singleton] at tail ⊢
          omega

/-- No more nodes than tokens, so that the parser takes all its turns. -/
theorem length_nodesOf_le (tree : Tree) : (nodesOf tree).length ≤ (kindsOf tree).length := by
  induction tree using Tree.induction with
  | list elements ih =>
      have body := length_flatMap_le_length_intercalate ih .flowEntry
      rw [nodesOf, kindsOf]
      simp only [List.length_cons, List.length_append, List.length_nil]
      omega
  | object entries ih =>
      have each : ∀ entry ∈ entries,
          (Node.scalar none entry.1.toList .doubleQuoted :: nodesOf entry.2).length ≤
            (TokenKind.key :: .scalar entry.1.toList .doubleQuoted :: .value ::
              kindsOf entry.2).length := by
        intro entry member
        have := ih entry member
        simp only [List.length_cons]
        omega
      have body := length_flatMap_le_length_intercalate each .flowEntry
      rw [nodesOf, kindsOf]
      simp only [List.length_cons, List.length_append, List.length_nil] at body ⊢
      omega
  | _ => rw [nodesOf, kindsOf]; exact Nat.le_refl _

namespace Parsing

/-- Where a node begins the text, it begins a document that is not marked as such. -/
theorem run_firstDocument {tokens : List Token} {kind : TokenKind} {kinds : List TokenKind}
    (begins : BeginsNode kind) (spelled : tokens.map Token.kind = kind :: kinds)
    (fault : Option Malformed) (budget : Nat) :
    ∃ first, run fault (budget + 1)
        { goal := .firstDocument, later := [], tokens := tokens, handles := [] } =
      let later := run fault budget
        { goal := .blockNode, later := [.documentEnd], tokens := tokens, handles := defaultHandles }
      ⟨(.documentStart, first) :: later.events, later.fault⟩ := by
  obtain ⟨token, rest, rfl, rfl, -⟩ := List.map_eq_cons_iff.mp spelled
  have implicit : beginsExplicitly token.kind = false := by
    generalize token.kind = kind at begins
    cases begins <;> rfl
  refine ⟨token.start, ?_⟩
  simp only [run, next, readFirstDocument, peek, bind, Except.bind, implicit, Bool.false_eq_true,
    if_false, putOff, toward]

theorem run_documentEnd {parsing : Parsing} (awaits : parsing.Awaits [.documentEnd] [.streamEnd])
    (fault : Option Malformed) (budget : Nat) :
    ∃ last final, run fault (budget + 3) parsing =
      ⟨[(.documentEnd, last), (.streamEnd, final)], fault⟩ := by
  obtain ⟨heading, spelled⟩ := awaits
  obtain ⟨atGoal, later⟩ := List.cons.inj heading
  obtain ⟨token, rest, tokens, ends, nothing⟩ := List.map_eq_cons_iff.mp spelled
  obtain rfl := List.map_eq_nil_iff.mp nothing
  refine ⟨token.start, token.start, ?_⟩
  simp [run, next, atGoal, readDocumentEnd, readNextDocument, readExplicitDocument, peek, tokens,
    ends, bind, Except.bind, toward]

end Parsing

/-- A value alone is the one document of a stream. -/
theorem exists_events {tree : Tree} {tokens : List Token}
    (spelled : tokens.map Token.kind = kindsOf tree ++ [.streamEnd]) :
    ∃ events first last final, EventStream.ofTokens ⟨tokens, none⟩ =
        ⟨(.documentStart, first) :: (events ++ [(.documentEnd, last), (.streamEnd, final)]), none⟩ ∧
      List.Forall₂ (fun event node => Gives event.1 node) events (nodesOf tree) := by
  have enough : (nodesOf tree).length < tokens.length := by
    have count := congrArg List.length spelled
    rw [List.length_map, List.length_append, List.length_singleton] at count
    have := length_nodesOf_le tree
    omega
  obtain ⟨budget, turns⟩ : ∃ budget,
      8 * (tokens.length + 1) = (nodesOf tree).length + (budget + 3) + 1 :=
    ⟨8 * (tokens.length + 1) - (nodesOf tree).length - 4, by omega⟩
  obtain ⟨kind, kinds, begun, begins⟩ := Parsing.exists_kindsOf_eq_cons tree
  obtain ⟨first, opened⟩ := Parsing.run_firstDocument begins
    (spelled.trans (congrArg (· ++ [TokenKind.streamEnd]) begun)) none
      ((nodesOf tree).length + (budget + 3))
  let node : Parsing :=
    { goal := .blockNode, later := [.documentEnd], tokens := tokens,
      handles := Parsing.defaultHandles }
  obtain ⟨parsing, awaits, yields⟩ :=
    Parsing.readsNodes tree node true .documentEnd [] [.streamEnd] rfl spelled
  obtain ⟨events, given, inner⟩ := (yields node rfl).run none (budget + 3)
  obtain ⟨last, final, closed⟩ := Parsing.run_documentEnd awaits none budget
  refine ⟨events, first, last, final, ?_, given⟩
  rw [EventStream.ofTokens, turns, opened, inner, closed]

theorem collectNodes_events {events : List (Event × Mark)} {nodes : List Node}
    (given : List.Forall₂ (fun event node => Gives event.1 node) events nodes)
    (fault : Option Malformed) (anchors : Anchors) (position : Nat) (rest : List (Event × Mark)) :
    ∃ marked : List (Node × Mark), marked.map Prod.fst = nodes ∧
      collectNodes fault anchors position (events ++ rest) =
        let later := collectNodes fault anchors (position + nodes.length) rest
        { later with nodes := marked ++ later.nodes } := by
  induction given generalizing position with
  | nil => exact ⟨[], rfl, rfl⟩
  | @cons event node events nodes gives _ ih =>
      obtain ⟨marked, same, rest⟩ := ih (position + 1)
      obtain ⟨event, mark⟩ := event
      refine ⟨(node, mark) :: marked, congrArg (node :: ·) same, ?_⟩
      rw [List.length_cons, Nat.add_comm nodes.length, ← Nat.add_assoc]
      cases gives <;> simp only [List.cons_append, collectNodes, Anchors.note, rest]

theorem exists_nodes_of_isShared {entries : List (String × Tree)}
    (shared : IsShared (.object entries)) :
    ∃ nodes, NodeStream.ofText (Tree.object entries).compact = ⟨nodes, [], none⟩ ∧
      nodes.map Prod.fst = nodesOf (.object entries) := by
  obtain ⟨tokens, scanned, spelled⟩ := exists_tokens_of_isShared shared
  obtain ⟨events, first, last, final, parsed, given⟩ := exists_events spelled
  obtain ⟨nodes, same, collected⟩ := collectNodes_events given none .none 0
    [(.documentEnd, last), (.streamEnd, final)]
  refine ⟨nodes, ?_, same⟩
  rw [NodeStream.ofText, scanned, parsed, NodeStream.ofEvents, collectNodes, collected]
  simp [collectNodes, Anchors.none]

end SnapshotTypes.Yaml
