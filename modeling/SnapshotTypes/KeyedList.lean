/-!
Lists of keys with their values, in order of first insertion, and what insertion does to the order
of the keys and to the look-up of any key.
-/

set_option autoImplicit false

namespace SnapshotTypes

abbrev KeyedList (κ υ : Type) := List (κ × υ)

namespace KeyedList

variable {κ υ : Type}

def keys (list : KeyedList κ υ) : List κ :=
  list.map Prod.fst

def values (list : KeyedList κ υ) : List υ :=
  list.map Prod.snd

/-- A key that is already there keeps its place and takes the new value. -/
def insert [DecidableEq κ] (key : κ) (value : υ) : KeyedList κ υ → KeyedList κ υ
  | [] => [(key, value)]
  | entry :: rest =>
    if entry.1 = key then (key, value) :: rest else entry :: insert key value rest

/-!
## Order of the keys and look-up
-/

section Order

variable [DecidableEq κ]

theorem insert_of_not_mem {key : κ} {list : KeyedList κ υ} (fresh : key ∉ list.keys) (value : υ) :
    insert key value list = list ++ [(key, value)] := by
  induction list with
  | nil => rfl
  | cons entry rest ih =>
      simp only [keys, List.map_cons, List.mem_cons, not_or] at fresh
      rw [insert, if_neg (Ne.symm fresh.1), ih fresh.2, List.cons_append]

end Order

section Lookup

variable [BEq κ] [LawfulBEq κ]

theorem lookup_cons_of_ne {key other : κ} (apart : other ≠ key) (value : υ)
    (rest : KeyedList κ υ) : List.lookup other ((key, value) :: rest) = List.lookup other rest := by
  have differ : (other == key) = false := beq_eq_false_iff_ne.mpr apart
  rw [List.lookup_cons, differ]

theorem lookup_eq_none_iff {key : κ} {list : KeyedList κ υ} :
    List.lookup key list = none ↔ key ∉ list.keys := by
  rw [List.lookup_eq_none_iff, keys, List.mem_map]
  constructor
  · intro absent found
    obtain ⟨entry, present, rfl⟩ := found
    exact absurd (absent entry present) (by simp)
  · intro absent entry present
    rw [bne_iff_ne]
    exact fun same => absent ⟨entry, present, same.symm⟩

variable [DecidableEq κ]

theorem lookup_insert (key other : κ) (value : υ) (list : KeyedList κ υ) :
    List.lookup other (insert key value list) =
      if other = key then some value else List.lookup other list := by
  induction list with
  | nil =>
      by_cases same : other = key
      · simp [insert, same]
      · rw [insert, lookup_cons_of_ne same, if_neg same]
  | cons entry rest ih =>
      obtain ⟨first, stored⟩ := entry
      by_cases here : first = key
      · subst here
        by_cases same : other = first
        · simp [insert, same]
        · rw [insert, if_pos rfl, lookup_cons_of_ne same, lookup_cons_of_ne same, if_neg same]
      · rw [insert, if_neg here]
        by_cases same : other = first
        · subst same
          simp [here]
        · rw [lookup_cons_of_ne same, lookup_cons_of_ne same, ih]

/-- A key that takes the value it has already changes nothing. -/
theorem insert_of_lookup {key : κ} {value : υ} {list : KeyedList κ υ}
    (stored : List.lookup key list = some value) : insert key value list = list := by
  induction list with
  | nil => cases stored
  | cons entry rest ih =>
      obtain ⟨first, kept⟩ := entry
      by_cases here : first = key
      · subst here
        have same : kept = value := by simpa using stored
        rw [insert, if_pos rfl, same]
      · rw [lookup_cons_of_ne (Ne.symm here)] at stored
        rw [insert, if_neg here, ih stored]

end Lookup

end KeyedList

end SnapshotTypes
