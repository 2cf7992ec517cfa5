import SnapshotTypes.Proofs.TypeName.Spelling
import Mathlib.Data.Nat.Bitwise

/-!
# Type names as a normal form

A type name has no underscore, and its first character is its own capital form. These names are the
ones that stay as they are, so that a type name taken for the name of a collection is its own type
name. An underscore between two names puts their type names side by side.
-/

set_option autoImplicit false

namespace SnapshotTypes

namespace Text

/-!
## Capitals of capital forms
-/

/-- The codes of a run, or of its capitals, by the place from which it is counted. -/
def CapitalRun.codesFrom (run : CapitalRun) (first : Nat) : List Nat :=
  List.range' first ((run.last - run.first) / run.step + 1) run.step

/-- The codes that have another capital form than themselves. -/
def smallCodes : List Nat :=
  capitalRuns.flatMap (fun run => run.codesFrom run.first) ++ capitalExpansions.map Prod.fst

/-- The codes that a capital form of another code begins with. -/
def leadingCapitals : List Nat :=
  capitalRuns.flatMap (fun run => run.codesFrom run.capital) ++
    capitalExpansions.filterMap fun entry => entry.2.head?

/-- A set of codes as the bits of a number. -/
def codeSet (codes : List Nat) : Nat :=
  codes.foldr (fun code set => set ||| 2 ^ code) 0

theorem testBit_codeSet {codes : List Nat} {code : Nat} :
    (codeSet codes).testBit code = true ↔ code ∈ codes := by
  induction codes with
  | nil => simp [codeSet]
  | cons head rest ih =>
      have unfolded : codeSet (head :: rest) = codeSet rest ||| 2 ^ head := rfl
      rw [unfolded, Nat.testBit_or, Bool.or_eq_true, ih, Nat.testBit_two_pow, decide_eq_true_iff,
        List.mem_cons, eq_comm, or_comm]

-- Bits of numbers are compared at once, where a search for every code would take long.
private theorem codeSet_disjoint : codeSet leadingCapitals &&& codeSet smallCodes = 0 := by
  decide +kernel

theorem not_mem_smallCodes {code : Nat} (leads : code ∈ leadingCapitals) : code ∉ smallCodes := by
  intro small
  have both : (codeSet leadingCapitals &&& codeSet smallCodes).testBit code = true := by
    rw [Nat.testBit_and, testBit_codeSet.mpr leads, testBit_codeSet.mpr small]
    rfl
  rw [codeSet_disjoint, Nat.zero_testBit] at both
  cases both

private theorem CapitalRun.mem_codesFrom {run : CapitalRun} {code capital : Nat}
    (capitalized : run.capital? code = some capital) :
    code ∈ run.codesFrom run.first ∧ capital ∈ run.codesFrom run.capital := by
  unfold CapitalRun.capital? at capitalized
  split at capitalized
  · next within =>
    obtain ⟨after, before, stepped⟩ := within
    have bounded := Nat.div_le_div_right (c := run.step) (Nat.sub_le_sub_right before run.first)
    have counted := Nat.mul_div_cancel' (Nat.dvd_of_mod_eq_zero stepped)
    rw [← Option.some.inj capitalized]
    exact ⟨List.mem_range'.mpr ⟨_, Nat.lt_succ_of_le bounded, by omega⟩,
      List.mem_range'.mpr ⟨_, Nat.lt_succ_of_le bounded, by omega⟩⟩
  · cases capitalized

theorem capitalCodes_of_not_small {code : Nat} (settled : code ∉ smallCodes) :
    capitalCodes code = [code] := by
  rw [smallCodes, List.mem_append, not_or] at settled
  rcases capitalCodes_cases code with
    ⟨run, listed, _, capitalized, _⟩ | ⟨entry, listed, rfl, _⟩ | own
  · refine absurd (List.mem_flatMap.mpr ⟨run, listed, ?_⟩) settled.1
    exact (CapitalRun.mem_codesFrom capitalized).1
  · exact absurd (List.mem_map_of_mem listed) settled.2
  · exact own

/-- The first code of a capital form is its own capital form. -/
theorem capitalCodes_of_head {code first : Nat} {more : List Nat}
    (form : capitalCodes code = first :: more) : capitalCodes first = [first] := by
  rcases capitalCodes_cases code with
    ⟨run, listed, capital, capitalized, single⟩ | ⟨entry, listed, _, several⟩ | own
  · rw [single, List.cons.injEq] at form
    rw [← form.1]
    refine capitalCodes_of_not_small (not_mem_smallCodes (List.mem_append_left _ ?_))
    exact List.mem_flatMap.mpr ⟨run, listed, (CapitalRun.mem_codesFrom capitalized).2⟩
  · refine capitalCodes_of_not_small (not_mem_smallCodes (List.mem_append_right _ ?_))
    exact List.mem_filterMap.mpr ⟨entry, listed, by rw [← several, form]; rfl⟩
  · have same := own
    rw [form, List.cons.injEq] at same
    rw [same.1]
    exact own

theorem capital_of_head {c first : Char} {more : List Char} (form : capital c = first :: more) :
    capital first = [first] := by
  obtain ⟨code, codes, spelled, same, _⟩ := List.map_eq_cons_iff.mp form
  have valid : code.isValidChar := by
    rcases mem_capitalCodes (spelled ▸ List.mem_cons_self) with ⟨_, valid⟩ | ⟨rfl, _⟩
    · exact valid
    · exact c.valid
  have settled := capitalCodes_of_head spelled
  rw [← toNat_ofNat_of_valid valid, same] at settled
  exact capital_eq_self settled

theorem pad_not_mem_capital {c : Char} (kept : c ≠ '_') : '_' ∉ capital c := by
  intro member
  rcases mem_capital member with letter | foreign | ⟨same, _⟩
  · exact absurd letter (by decide)
  · exact absurd foreign (by decide)
  · exact kept same.symm

end Text

/-!
## Joined segments
-/

theorem pad_not_mem_joinSegments (atStart : Bool) (cs : List Char) :
    '_' ∉ joinSegments atStart cs := by
  induction cs generalizing atStart with
  | nil => exact List.not_mem_nil
  | cons c rest ih =>
      rw [joinSegments]
      by_cases pad : c = '_'
      · rw [if_pos pad]
        exact ih true
      · rw [if_neg pad]
        cases atStart with
        | true =>
            rw [if_pos rfl, List.mem_append, not_or]
            exact ⟨Text.pad_not_mem_capital pad, ih false⟩
        | false =>
            rw [if_neg Bool.false_ne_true, List.mem_cons, not_or]
            exact ⟨fun same => pad same.symm, ih false⟩

theorem joinSegments_eq_nil_iff {atStart : Bool} {cs : List Char} :
    joinSegments atStart cs = [] ↔ ∀ c ∈ cs, c = '_' := by
  induction cs generalizing atStart with
  | nil => simp [joinSegments]
  | cons c rest ih =>
      rw [joinSegments, List.forall_mem_cons]
      by_cases pad : c = '_'
      · rw [if_pos pad, ih]
        exact (and_iff_right pad).symm
      · rw [if_neg pad]
        cases atStart <;> simp [pad, Text.capital_ne_nil]

/-- What is joined from the start of a segment begins with a capital. -/
theorem capital_of_joinSegments {cs rest : List Char} {first : Char}
    (joined : joinSegments true cs = first :: rest) : Text.capital first = [first] := by
  induction cs with
  | nil => cases joined
  | cons c later ih =>
      rw [joinSegments] at joined
      by_cases pad : c = '_'
      · rw [if_pos pad] at joined
        exact ih joined
      · rw [if_neg pad, if_pos rfl] at joined
        obtain ⟨initial, more, form⟩ := List.exists_cons_of_ne_nil (Text.capital_ne_nil c)
        rw [form, List.cons_append, List.cons.injEq] at joined
        rw [← joined.1]
        exact Text.capital_of_head form

/-!
## Type names
-/

/-- What a name has to be like in order to stay as it is. -/
structure IsTypeName (name : String) : Prop where
  noPad : '_' ∉ name.toList
  capitalized : ∀ first ∈ name.toList.head?, Text.capital first = [first]

theorem isTypeName_typeName (collection : String) : IsTypeName (typeName collection) := by
  constructor
  · rw [typeName, String.toList_ofList]
    exact pad_not_mem_joinSegments true collection.toList
  · intro first head
    rw [typeName, String.toList_ofList] at head
    obtain ⟨rest, joined⟩ := List.head?_eq_some_iff.mp head
    exact capital_of_joinSegments joined

theorem IsTypeName.typeName_eq {name : String} (settled : IsTypeName name) :
    typeName name = name := by
  apply String.toList_inj.mp
  rw [typeName, String.toList_ofList]
  obtain ⟨noPad, capitalized⟩ := settled
  cases spelled : name.toList with
  | nil => rfl
  | cons first rest =>
      rw [spelled, List.mem_cons, not_or] at noPad
      rw [spelled] at capitalized
      rw [joinSegments, if_neg (Ne.symm noPad.1), if_pos rfl, capitalized first rfl,
        joinSegments_of_no_pad noPad.2, List.singleton_append]

theorem typeName_eq_self_iff {name : String} : typeName name = name ↔ IsTypeName name :=
  ⟨fun same => same ▸ isTypeName_typeName name, IsTypeName.typeName_eq⟩

theorem typeName_append_pad (first second : String) :
    typeName (first ++ "_" ++ second) = typeName first ++ typeName second := by
  apply String.toList_inj.mp
  simp only [typeName, String.toList_append, String.toList_ofList]
  exact List.append_assoc first.toList _ _ ▸ joinSegments_append_pad true _ _

theorem typeName_eq_empty_iff {collection : String} :
    typeName collection = "" ↔ ∀ c ∈ collection.toList, c = '_' := by
  rw [← String.toList_inj, typeName, String.toList_ofList]
  exact joinSegments_eq_nil_iff

/-- Type names of joined names, and names that are type names already. -/
theorem typeName_is_normal_form :
    (∀ first second : String,
        typeName (first ++ "_" ++ second) = typeName first ++ typeName second) ∧
      (∀ collection : String, '_' ∉ (typeName collection).toList) ∧
      (∀ collection : String, typeName collection = "" ↔ ∀ c ∈ collection.toList, c = '_') ∧
      ∀ collection : String, typeName (typeName collection) = typeName collection :=
  ⟨typeName_append_pad, fun collection => (isTypeName_typeName collection).noPad,
    fun _ => typeName_eq_empty_iff, fun collection => (isTypeName_typeName collection).typeName_eq⟩

/-- A ligature gives two capitals, of which the second keeps its form. -/
example : typeName (typeName "ﬁle_ßa") = "FIleSSa" := by
  decide +kernel

end SnapshotTypes
