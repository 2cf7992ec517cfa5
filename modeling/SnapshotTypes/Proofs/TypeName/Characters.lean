import SnapshotTypes.TypeName
import Mathlib.Logic.Basic

/-!
# The characters of a type name

A character of a type name was in the name of the collection, or belongs to the capital form of one
that was. Capital forms hold capital letters and characters outside of ASCII, so that no control
character and no small ASCII letter comes into a type name by capitalization.
-/

set_option autoImplicit false

namespace SnapshotTypes

namespace Text

theorem isUpper_iff {c : Char} : c.isUpper = true ↔ 0x41 ≤ c.toNat ∧ c.toNat ≤ 0x5a := by
  change decide ('A'.val ≤ c.val ∧ c.val ≤ 'Z'.val) = true ↔ _
  rw [decide_eq_true_iff, UInt32.le_iff_toNat_le, UInt32.le_iff_toNat_le]
  rfl

theorem isLower_iff {c : Char} : c.isLower = true ↔ 0x61 ≤ c.toNat ∧ c.toNat ≤ 0x7a := by
  change (decide ('a'.val ≤ c.val) && decide (c.val ≤ 'z'.val)) = true ↔ _
  rw [Bool.and_eq_true, decide_eq_true_iff, decide_eq_true_iff, UInt32.le_iff_toNat_le,
    UInt32.le_iff_toNat_le]
  rfl

theorem isDigit_iff {c : Char} : c.isDigit = true ↔ 0x30 ≤ c.toNat ∧ c.toNat ≤ 0x39 :=
  Char.isDigit_iff_toNat

/-!
## Codes of capital forms
-/

/-- Codes that capitalization can bring in. -/
def IsCapitalCode (code : Nat) : Prop :=
  (0x41 ≤ code ∧ code ≤ 0x5a ∨ 0x80 ≤ code) ∧ code.isValidChar

private theorem capitalRuns_range : ∀ run ∈ capitalRuns,
    (0x41 ≤ run.capital ∧ run.capital + (run.last - run.first) ≤ 0x5a ∨ 0x80 ≤ run.capital) ∧
      (run.capital + (run.last - run.first) < 0xd800 ∨
        0xdfff < run.capital ∧ run.capital + (run.last - run.first) < 0x110000) := by
  decide +kernel

/-- Besides the small ASCII letters, `ı` and `ſ` have capitals in ASCII. -/
private theorem capitalRuns_ascii : ∀ run ∈ capitalRuns, run.first < 0x80 ∨ run.capital ≤ 0x5a →
    (run.first = 0x61 ∧ run.last = 0x7a ∧ run.capital = 0x41) ∨
      (run.first = 0x131 ∧ run.last = 0x131 ∧ run.capital = 0x49) ∨
      (run.first = 0x17f ∧ run.last = 0x17f ∧ run.capital = 0x53) := by
  decide +kernel

private theorem capitalExpansions_range : ∀ entry ∈ capitalExpansions,
    0x80 ≤ entry.1 ∧ 2 ≤ entry.2.length ∧
      ∀ code ∈ entry.2, (0x41 ≤ code ∧ code ≤ 0x5a ∨ 0x80 ≤ code) ∧ code.isValidChar := by
  decide +kernel

private theorem CapitalRun.capital?_eq_some {run : CapitalRun} {code capital : Nat}
    (capitalized : run.capital? code = some capital) :
    run.first ≤ code ∧ code ≤ run.last ∧ capital = run.capital + (code - run.first) := by
  unfold CapitalRun.capital? at capitalized
  split at capitalized
  · next within => exact ⟨within.1, within.2.1, (Option.some.inj capitalized).symm⟩
  · cases capitalized

/-- A code has one capital by a run, several by an expansion, or is its own capital form. -/
theorem capitalCodes_cases (code : Nat) :
    (∃ run ∈ capitalRuns, ∃ capital, run.capital? code = some capital ∧
        capitalCodes code = [capital]) ∨
      (∃ entry ∈ capitalExpansions, entry.1 = code ∧ capitalCodes code = entry.2) ∨
      capitalCodes code = [code] := by
  unfold capitalCodes
  cases found : capitalRuns.findSome? fun run => run.capital? code with
  | some capital =>
      obtain ⟨run, listed, capitalized⟩ := List.exists_of_findSome?_eq_some found
      exact .inl ⟨run, listed, capital, capitalized, rfl⟩
  | none =>
      cases expanded : capitalExpansions.lookup code with
      | none => exact .inr (.inr rfl)
      | some codes =>
          obtain ⟨before, after, split, _⟩ := List.lookup_eq_some_iff.mp expanded
          have listed : (code, codes) ∈ capitalExpansions := by
            rw [split]
            simp
          exact .inr (.inl ⟨(code, codes), listed, rfl, rfl⟩)

theorem mem_capitalCodes {code other : Nat} (member : other ∈ capitalCodes code) :
    IsCapitalCode other ∨ (other = code ∧ capitalCodes code = [code]) := by
  rcases capitalCodes_cases code with
    ⟨run, listed, capital, capitalized, form⟩ | ⟨entry, listed, _, form⟩ | form
  · rw [form, List.mem_singleton] at member
    obtain ⟨first, last, shifted⟩ := CapitalRun.capital?_eq_some capitalized
    obtain ⟨letters, valid⟩ := capitalRuns_range run listed
    refine .inl ⟨by omega, ?_⟩
    unfold Nat.isValidChar
    omega
  · rw [form] at member
    exact .inl ((capitalExpansions_range entry listed).2.2 other member)
  · rw [form, List.mem_singleton] at member
    exact .inr ⟨member, form⟩

theorem capitalCodes_ne_nil (code : Nat) : capitalCodes code ≠ [] := by
  rcases capitalCodes_cases code with ⟨_, _, _, _, form⟩ | ⟨entry, listed, _, form⟩ | form
  · simp [form]
  · have long := (capitalExpansions_range entry listed).2.1
    rw [form]
    exact List.ne_nil_of_length_pos (by omega)
  · simp [form]

theorem capitalCodes_of_small {code : Nat} (small : 0x61 ≤ code ∧ code ≤ 0x7a) :
    capitalCodes code = [code - 0x20] := by
  have own : (⟨0x61, 0x7a, 1, 0x41⟩ : CapitalRun).capital? code = some (code - 0x20) := by
    have shifted : 0x41 + (code - 0x61) = code - 0x20 := by omega
    rw [CapitalRun.capital?, if_pos ⟨small.1, small.2, Nat.mod_one _⟩, shifted]
  have found : (capitalRuns.findSome? fun run => run.capital? code) = some (code - 0x20) := by
    rw [capitalRuns, List.findSome?_cons, own]
  rw [capitalCodes, found]

theorem capitalCodes_of_ascii {code : Nat} (ascii : code < 0x80)
    (large : ¬ (0x61 ≤ code ∧ code ≤ 0x7a)) : capitalCodes code = [code] := by
  rcases capitalCodes_cases code with
    ⟨run, listed, _, capitalized, _⟩ | ⟨entry, listed, rfl, _⟩ | own
  · obtain ⟨first, last, _⟩ := CapitalRun.capital?_eq_some capitalized
    have letters := capitalRuns_ascii run listed (.inl (by omega))
    omega
  · have foreign := (capitalExpansions_range entry listed).1
    omega
  · exact own

theorem capitalCodes_eq_singleton_iff {code letter : Nat} (large : 0x41 ≤ letter ∧ letter ≤ 0x5a) :
    capitalCodes code = [letter] ↔
      code = letter ∨ code = letter + 0x20 ∨ (code = 0x131 ∧ letter = 0x49) ∨
        (code = 0x17f ∧ letter = 0x53) := by
  constructor
  · intro single
    rcases capitalCodes_cases code with
      ⟨run, listed, capital, capitalized, form⟩ | ⟨entry, listed, _, form⟩ | form
    · rw [single, List.singleton_inj] at form
      obtain ⟨first, last, shifted⟩ := CapitalRun.capital?_eq_some capitalized
      have letters := capitalRuns_ascii run listed (.inr (by omega))
      omega
    · have long := (capitalExpansions_range entry listed).2.1
      rw [← form, single] at long
      exact absurd long (by simp)
    · rw [single, List.singleton_inj] at form
      exact .inl form.symm
  · rintro (rfl | rfl | ⟨rfl, rfl⟩ | ⟨rfl, rfl⟩)
    · exact capitalCodes_of_ascii (by omega) (by omega)
    · exact capitalCodes_of_small (by omega)
    · decide +kernel
    · decide +kernel

/-!
## Capital forms
-/

theorem toNat_ofNat_of_valid {code : Nat} (valid : code.isValidChar) :
    (Char.ofNat code).toNat = code := by
  rw [Char.ofNat, dif_pos valid]
  rfl

theorem capital_eq_self {c : Char} (own : capitalCodes c.toNat = [c.toNat]) : capital c = [c] := by
  rw [capital, own, List.map_singleton, Char.ofNat_toNat]

theorem capital_eq_singleton_iff {c small large : Char} (letter : large.isUpper = true)
    (pair : small.toNat = large.toNat + 0x20) :
    capital c = [large] ↔
      c = large ∨ c = small ∨ (c = 'ı' ∧ large = 'I') ∨ (c = 'ſ' ∧ large = 'S') := by
  have codes : capital c = [large] ↔ capitalCodes c.toNat = [large.toNat] := by
    constructor
    · intro single
      obtain ⟨code, form, same⟩ := List.map_eq_singleton_iff.mp single
      rw [form]
      rcases mem_capitalCodes (form ▸ List.mem_singleton_self code) with ⟨_, valid⟩ | ⟨rfl, _⟩
      · rw [← same, toNat_ofNat_of_valid valid]
      · rw [← same, Char.ofNat_toNat]
    · intro single
      rw [capital, single, List.map_singleton, Char.ofNat_toNat]
  have dotless : c.toNat = 'ı'.toNat ∧ large.toNat = 'I'.toNat ↔ c = 'ı' ∧ large = 'I' :=
    and_congr Char.toNat_inj Char.toNat_inj
  have long : c.toNat = 'ſ'.toNat ∧ large.toNat = 'S'.toNat ↔ c = 'ſ' ∧ large = 'S' :=
    and_congr Char.toNat_inj Char.toNat_inj
  rw [codes, capitalCodes_eq_singleton_iff (isUpper_iff.mp letter), ← pair]
  exact or_congr Char.toNat_inj (or_congr Char.toNat_inj (or_congr dotless long))

theorem capital_ne_nil (c : Char) : capital c ≠ [] := by
  rw [capital, Ne, List.map_eq_nil_iff]
  exact capitalCodes_ne_nil c.toNat

theorem mem_capital {c d : Char} (member : d ∈ capital c) :
    d.isUpper = true ∨ 0x80 ≤ d.toNat ∨ (d = c ∧ capital c = [c]) := by
  obtain ⟨code, listed, rfl⟩ := List.mem_map.mp member
  rcases mem_capitalCodes listed with ⟨letter | foreign, valid⟩ | ⟨rfl, own⟩
  · rw [isUpper_iff, toNat_ofNat_of_valid valid]
    exact .inl letter
  · rw [toNat_ofNat_of_valid valid]
    exact .inr (.inl foreign)
  · exact .inr (.inr ⟨Char.ofNat_toNat c, capital_eq_self own⟩)

theorem capital_of_ascii {c : Char} (ascii : c.toNat < 0x80) (large : c.isLower = false) :
    capital c = [c] := by
  refine capital_eq_self (capitalCodes_of_ascii ascii ?_)
  rw [← isLower_iff, large]
  exact Bool.false_ne_true

theorem isLower_of_mem_capital {c d : Char} (member : d ∈ capital c) : d.isLower = false := by
  rw [Bool.eq_false_iff, Ne, isLower_iff]
  intro small
  rcases mem_capital member with letter | foreign | ⟨rfl, own⟩
  · rw [isUpper_iff] at letter
    omega
  · omega
  · rw [capital, capitalCodes_of_small small, List.map_singleton, List.singleton_inj] at own
    have valid : (d.toNat - 0x20).isValidChar := .inl (by omega)
    have moved := toNat_ofNat_of_valid valid
    rw [own] at moved
    omega

end Text

/-!
## Joined segments
-/

theorem mem_joinSegments {atStart : Bool} {cs : List Char} {d : Char}
    (member : d ∈ joinSegments atStart cs) : d ∈ cs ∨ ∃ c ∈ cs, d ∈ Text.capital c := by
  induction cs generalizing atStart with
  | nil => cases member
  | cons c rest ih =>
      have later : ∀ {start : Bool}, d ∈ joinSegments start rest →
          d ∈ c :: rest ∨ ∃ c' ∈ c :: rest, d ∈ Text.capital c' := by
        intro start within
        rcases ih within with kept | ⟨source, listed, capitalized⟩
        · exact .inl (List.mem_cons_of_mem c kept)
        · exact .inr ⟨source, List.mem_cons_of_mem c listed, capitalized⟩
      rw [joinSegments] at member
      split at member
      · exact later member
      · split at member
        · rcases List.mem_append.mp member with capitalized | within
          · exact .inr ⟨c, List.mem_cons_self, capitalized⟩
          · exact later within
        · rcases List.mem_cons.mp member with rfl | within
          · exact .inl List.mem_cons_self
          · exact later within

theorem mem_typeName {collection : String} {d : Char} (member : d ∈ (typeName collection).toList) :
    d ∈ collection.toList ∨ d.isUpper = true ∨ 0x80 ≤ d.toNat := by
  rw [typeName, String.toList_ofList] at member
  rcases mem_joinSegments member with kept | ⟨c, listed, capitalized⟩
  · exact .inl kept
  · rcases Text.mem_capital capitalized with letter | foreign | ⟨rfl, _⟩
    · exact .inr (.inl letter)
    · exact .inr (.inr foreign)
    · exact .inl listed

theorem typeName_no_lineFeed {collection : String} (plain : '\n' ∉ collection.toList) :
    '\n' ∉ (typeName collection).toList := by
  intro member
  rcases mem_typeName member with kept | letter | foreign
  · exact plain kept
  · exact absurd letter (by decide)
  · exact absurd foreign (by decide)

end SnapshotTypes
