import SnapshotTypes.Emission
import SnapshotTypes.Proofs.Json.Strings

/-!
# Names and types within a line

Each of the tokens of a line ends where it says: a bare name at the first character that no name
has, a quoted name at its closing quote, and a type at its semicolon. No token holds a line break.
-/

set_option autoImplicit false

namespace SnapshotTypes

/-- A way of writing that shows its end: whatever follows two texts, they are equal from the start
only if they are the same text with the same continuation. -/
def SelfDelimiting {α β : Type} (admitted : α → Prop) (write : α → List β) : Prop :=
  ∀ ⦃first second : α⦄ ⦃rest other : List β⦄, admitted first → admitted second →
    write first ++ rest = write second ++ other → first = second ∧ rest = other

/-- A run of accepted characters ends at the first other one. -/
theorem run_inj {α : Type} {accepted : α → Bool} {first second rest other : List α} {stop halt : α}
    (firstRun : ∀ c ∈ first, accepted c = true) (secondRun : ∀ c ∈ second, accepted c = true)
    (stops : accepted stop = false) (halts : accepted halt = false)
    (same : first ++ stop :: rest = second ++ halt :: other) :
    first = second ∧ stop :: rest = halt :: other := by
  have runs := congrArg (List.takeWhile accepted) same
  rw [List.takeWhile_append_of_pos firstRun, List.takeWhile_append_of_pos secondRun,
    List.takeWhile_cons_of_neg (by simp [stops]), List.takeWhile_cons_of_neg (by simp [halts]),
    List.append_nil, List.append_nil] at runs
  subst runs
  exact ⟨rfl, List.append_cancel_left same⟩

/-!
## Names
-/

theorem isNameRest_of_isNameStart {c : Char} (start : isNameStart c = true) :
    isNameRest c = true := by
  simp only [isNameStart, isNameRest, Char.isAlphanum, Bool.or_eq_true, beq_iff_eq] at start ⊢
  rcases start with (letter | underscore) | dollar
  · exact .inl (.inl (.inl letter))
  · exact .inl (.inr underscore)
  · exact .inr dollar

theorem isBareName_iff {name : String} :
    isBareName name = true ↔
      ∃ c rest, name.toList = c :: rest ∧ isNameStart c = true ∧
        ∀ d ∈ rest, isNameRest d = true := by
  unfold isBareName
  cases name.toList with
  | nil => simp
  | cons c rest =>
      simp only [Bool.and_eq_true, List.all_eq_true]
      constructor
      · exact fun bare => ⟨c, rest, rfl, bare⟩
      · intro given
        obtain ⟨first, later, spelled, bare⟩ := given
        obtain ⟨rfl, rfl⟩ := List.cons.inj spelled
        exact bare

theorem isNameRest_of_mem_bare {name : String} (bare : isBareName name = true) :
    ∀ c ∈ name.toList, isNameRest c = true := by
  obtain ⟨c, rest, spelled, start, later⟩ := isBareName_iff.mp bare
  rw [spelled]
  exact List.forall_mem_cons.mpr ⟨isNameRest_of_isNameStart start, later⟩

theorem bareName_inj {first second : String} {stop halt : Char} {rest other : List Char}
    (firstBare : isBareName first = true) (secondBare : isBareName second = true)
    (stops : isNameRest stop = false) (halts : isNameRest halt = false)
    (same : first.toList ++ stop :: rest = second.toList ++ halt :: other) :
    first = second ∧ stop :: rest = halt :: other := by
  obtain ⟨spelled, later⟩ := run_inj (isNameRest_of_mem_bare firstBare)
    (isNameRest_of_mem_bare secondBare) stops halts same
  exact ⟨String.toList_inj.mp spelled, later⟩

theorem bareName_ne_quoted {name text : String} (bare : isBareName name = true)
    (rest other : List Char) :
    name.toList ++ rest ≠ (Text.quoted text).toList ++ other := by
  obtain ⟨c, later, spelled, start, _⟩ := isBareName_iff.mp bare
  rw [spelled, Text.quoted_toList, List.cons_append, List.cons_append]
  intro same
  rw [(List.cons.inj same).1] at start
  exact absurd start (by decide)

/-- A quoted text is read back with what follows it, so that it cannot be continued into another. -/
theorem quoted_selfDelimiting :
    SelfDelimiting (fun _ => True) fun text => (Text.quoted text).toList := by
  intro first second rest other _ _ same
  have read := congrArg (fun text => Json.readString text.tail) same
  simp only [Text.quoted_toList, List.cons_append, List.append_assoc, List.tail_cons,
    List.nil_append, Json.readString_escaped, Except.ok.injEq, Prod.mk.injEq] at read
  exact read

theorem propertyName_selfDelimiting :
    SelfDelimiting (fun _ => True) fun name => (propertyName name).toList ++ [':'] := by
  intro first second rest other _ _ same
  simp only [List.append_assoc, List.cons_append, List.nil_append, propertyName] at same
  split_ifs at same with firstBare secondBare secondBare
  · obtain ⟨names, later⟩ := bareName_inj firstBare secondBare (by decide) (by decide) same
    exact ⟨names, (List.cons.inj later).2⟩
  · exact absurd same (bareName_ne_quoted firstBare _ _)
  · exact absurd same.symm (bareName_ne_quoted secondBare _ _)
  · obtain ⟨names, later⟩ := quoted_selfDelimiting trivial trivial same
    exact ⟨names, (List.cons.inj later).2⟩

private theorem isNameRest_control : ∀ code < 0x20, isNameRest (Char.ofNat code) = false := by
  decide

theorem propertyName_no_control (name : String) :
    ∀ c ∈ (propertyName name).toList, 0x20 ≤ c.toNat := by
  intro c member
  rw [propertyName] at member
  split_ifs at member with bare
  · have admitted := isNameRest_of_mem_bare bare c member
    rcases Nat.lt_or_ge c.toNat 0x20 with control | visible
    · have refused := isNameRest_control c.toNat control
      rw [Char.ofNat_toNat, admitted] at refused
      cases refused
    · exact visible
  · exact Text.quoted_no_control name c member

theorem propertyName_no_lineFeed (name : String) : '\n' ∉ (propertyName name).toList :=
  fun member => absurd (propertyName_no_control name _ member) (by decide)

/-!
## Types
-/

namespace Ty

/-- The types that are one word, where a reference is no keyword. -/
def IsLeaf : Ty → Prop
  | boolean | number | string | unknown | null => True
  | reference name =>
    isBareName name = true ∧ name ∉ ["boolean", "number", "string", "unknown", "null"]
  | union _ => False

/-- Leaves, and unions of two leaves or more. -/
def IsFlat : Ty → Prop
  | union arms => 2 ≤ arms.length ∧ ∀ arm ∈ arms, arm.IsLeaf
  | leaf => leaf.IsLeaf

def arms : Ty → List Ty
  | union arms => arms
  | leaf => [leaf]

theorem IsLeaf.render_bare {ty : Ty} (leaf : ty.IsLeaf) : isBareName ty.render = true := by
  cases ty with
  | reference name => exact leaf.1
  | union arms => exact leaf.elim
  | _ => decide

theorem IsLeaf.render_inj {first second : Ty} (firstLeaf : first.IsLeaf)
    (secondLeaf : second.IsLeaf) (same : first.render = second.render) : first = second := by
  cases first <;> cases second <;>
    simp_all [IsLeaf, render]

theorem renderAll_eq_map (tys : List Ty) : renderAll tys = tys.map render := by
  induction tys with
  | nil => rfl
  | cons ty rest ih => rw [renderAll, ih, List.map_cons]

theorem arms_of_isLeaf {ty : Ty} (leaf : ty.IsLeaf) : ty.arms = [ty] := by
  cases ty with
  | union arms => exact leaf.elim
  | _ => rfl

theorem IsLeaf.isFlat {ty : Ty} (leaf : ty.IsLeaf) : ty.IsFlat := by
  cases ty with
  | union arms => exact leaf.elim
  | _ => exact leaf

theorem IsFlat.leaf_or_union {ty : Ty} (flat : ty.IsFlat) :
    ty.IsLeaf ∨ ∃ arms, ty = union arms ∧ 2 ≤ arms.length ∧ ∀ arm ∈ arms, arm.IsLeaf := by
  cases ty with
  | union arms => exact .inr ⟨arms, rfl, flat⟩
  | _ => exact .inl flat

theorem IsFlat.render_eq {ty : Ty} (flat : ty.IsFlat) :
    ty.render = " | ".intercalate (ty.arms.map render) := by
  rcases flat.leaf_or_union with leaf | ⟨arms, rfl, _, _⟩
  · rw [arms_of_isLeaf leaf, List.map_singleton, String.intercalate_singleton]
  · rw [render, renderAll_eq_map, Ty.arms]

/-- Lists of arms as they occur: not empty, and of leaves only. -/
def AreArms (arms : List Ty) : Prop :=
  arms ≠ [] ∧ ∀ arm ∈ arms, arm.IsLeaf

theorem IsFlat.areArms {ty : Ty} (flat : ty.IsFlat) : AreArms ty.arms := by
  rcases flat.leaf_or_union with leaf | ⟨arms, rfl, two, leaves⟩
  · rw [arms_of_isLeaf leaf]
    exact ⟨List.cons_ne_nil _ _, by simpa using leaf⟩
  · exact ⟨List.ne_nil_of_length_pos (Nat.lt_of_lt_of_le Nat.zero_lt_two two), leaves⟩

/-- Only a union has two arms or more, so that the arms tell a flat type. -/
theorem IsFlat.arms_inj {first second : Ty} (firstFlat : first.IsFlat) (secondFlat : second.IsFlat)
    (same : first.arms = second.arms) : first = second := by
  rcases firstFlat.leaf_or_union with firstLeaf | ⟨firstArms, rfl, firstTwo, _⟩ <;>
    rcases secondFlat.leaf_or_union with secondLeaf | ⟨secondArms, rfl, secondTwo, _⟩
  · rw [arms_of_isLeaf firstLeaf, arms_of_isLeaf secondLeaf] at same
    exact (List.cons.inj same).1
  · rw [arms_of_isLeaf firstLeaf, arms] at same
    rw [← same] at secondTwo
    exact absurd secondTwo (by simp)
  · rw [arms_of_isLeaf secondLeaf, arms] at same
    rw [same] at firstTwo
    exact absurd firstTwo (by simp)
  · exact congrArg union same

/-- What follows an arm: a bar before each other arm, and a semicolon at the end. -/
def afterArm : List Ty → List Char
  | [] => [';']
  | arm :: rest => ' ' :: '|' :: ' ' :: (arm.render.toList ++ afterArm rest)

theorem afterArm_eq_cons (arms : List Ty) :
    ∃ stop tail, afterArm arms = stop :: tail ∧ isNameRest stop = false := by
  cases arms with
  | nil => exact ⟨_, _, rfl, by decide⟩
  | cons arm rest => exact ⟨_, _, rfl, by decide⟩

theorem intercalate_toList_append (arm : Ty) (arms : List Ty) :
    (" | ".intercalate ((arm :: arms).map render)).toList ++ [';'] =
      arm.render.toList ++ afterArm arms := by
  induction arms generalizing arm with
  | nil => simp [afterArm]
  | cons next rest ih =>
      have later := ih next
      rw [List.map_cons] at later
      rw [List.map_cons, List.map_cons, String.intercalate_cons_cons, String.toList_append,
        List.append_assoc, later, afterArm]
      simp

theorem armThen_inj {arm head : Ty} {arms others : List Ty} {rest other : List Char}
    (armLeaf : arm.IsLeaf) (headLeaf : head.IsLeaf)
    (same : arm.render.toList ++ (afterArm arms ++ rest) =
      head.render.toList ++ (afterArm others ++ other)) :
    arm = head ∧ afterArm arms ++ rest = afterArm others ++ other := by
  obtain ⟨stop, tail, begins, stops⟩ := afterArm_eq_cons arms
  obtain ⟨halt, final, beginsOther, halts⟩ := afterArm_eq_cons others
  rw [begins, beginsOther] at same ⊢
  obtain ⟨names, later⟩ := bareName_inj armLeaf.render_bare headLeaf.render_bare stops halts same
  exact ⟨armLeaf.render_inj headLeaf names, later⟩

theorem afterArm_selfDelimiting :
    SelfDelimiting (fun arms => ∀ arm ∈ arms, IsLeaf arm) afterArm := by
  intro arms
  induction arms with
  | nil =>
      intro others rest other _ _ same
      cases others with
      | nil => exact ⟨rfl, (List.cons.inj same).2⟩
      | cons head others => exact absurd (List.cons.inj same).1 (by decide)
  | cons arm arms ih =>
      intro others rest other leaves otherLeaves same
      cases others with
      | nil => exact absurd (List.cons.inj same).1 (by decide)
      | cons head others =>
          obtain ⟨armLeaf, armsLeaf⟩ := List.forall_mem_cons.mp leaves
          obtain ⟨headLeaf, othersLeaf⟩ := List.forall_mem_cons.mp otherLeaves
          simp only [afterArm, List.cons_append, List.append_assoc, List.cons.injEq,
            true_and] at same
          obtain ⟨rfl, later⟩ := armThen_inj armLeaf headLeaf same
          obtain ⟨rfl, rest⟩ := ih armsLeaf othersLeaf later
          exact ⟨rfl, rest⟩

/-- The first arm of a flat type, and all that follows it up to the semicolon. -/
theorem IsFlat.render_split {ty : Ty} (flat : ty.IsFlat) :
    ∃ arm others, ty.arms = arm :: others ∧ arm.IsLeaf ∧ (∀ other ∈ others, IsLeaf other) ∧
      ty.render.toList ++ [';'] = arm.render.toList ++ afterArm others := by
  obtain ⟨filled, leaves⟩ := flat.areArms
  obtain ⟨arm, others, armsEq⟩ := List.exists_cons_of_ne_nil filled
  rw [armsEq] at leaves
  obtain ⟨armLeaf, otherLeaves⟩ := List.forall_mem_cons.mp leaves
  refine ⟨arm, others, armsEq, armLeaf, otherLeaves, ?_⟩
  rw [flat.render_eq, armsEq, intercalate_toList_append]

theorem render_selfDelimiting : SelfDelimiting IsFlat fun ty => ty.render.toList ++ [';'] := by
  intro first second rest other firstFlat secondFlat same
  obtain ⟨arm, arms, armsEq, armLeaf, armsLeaf, spelled⟩ := firstFlat.render_split
  obtain ⟨head, others, othersEq, headLeaf, othersLeaf, spelledOther⟩ := secondFlat.render_split
  dsimp only at same
  rw [spelled, spelledOther, List.append_assoc, List.append_assoc] at same
  obtain ⟨heads, later⟩ := armThen_inj armLeaf headLeaf same
  obtain ⟨tails, rest⟩ := afterArm_selfDelimiting armsLeaf othersLeaf later
  exact ⟨firstFlat.arms_inj secondFlat (by rw [armsEq, othersEq, heads, tails]), rest⟩

theorem IsLeaf.no_lineFeed {ty : Ty} (leaf : ty.IsLeaf) : '\n' ∉ ty.render.toList :=
  fun member => absurd (isNameRest_of_mem_bare leaf.render_bare _ member) (by decide)

theorem afterArm_no_lineFeed {arms : List Ty} (leaves : ∀ arm ∈ arms, IsLeaf arm) :
    '\n' ∉ afterArm arms := by
  induction arms with
  | nil => decide
  | cons arm rest ih =>
      obtain ⟨leaf, later⟩ := List.forall_mem_cons.mp leaves
      simp [afterArm, leaf.no_lineFeed, ih later]

theorem IsFlat.no_lineFeed {ty : Ty} (flat : ty.IsFlat) : '\n' ∉ ty.render.toList := by
  obtain ⟨arm, others, _, armLeaf, othersLeaf, spelled⟩ := flat.render_split
  intro member
  have within : '\n' ∈ arm.render.toList ++ afterArm others := by
    rw [← spelled]
    exact List.mem_append_left _ member
  rcases List.mem_append.mp within with head | tail
  · exact armLeaf.no_lineFeed head
  · exact afterArm_no_lineFeed othersLeaf tail

end Ty

end SnapshotTypes
